import Milkspider.System.Link

/-! The daemon's command front ends as inputs of the deployed pair: `handleCommand`,
`SerialControl::processLine` and the scan callback `setScanServoAngle`, and the ESTOP request. -/

namespace Milkspider

/-! ## The command texts -/

/-- Whether `pattern` occurs in `text` (`text.find(pattern) != std::string::npos`). -/
def textFind (pattern : List Char) : List Char → Bool
  | [] => pattern.isEmpty
  | c :: rest => pattern.isPrefixOf (c :: rest) || textFind pattern rest

/-- The test `hasType` and `hasCmd` share: the text holds `"key":"value"`, with or without one
space after the colon. -/
def hasKeyValue (key json value : String) : Bool :=
  textFind ("\"" ++ key ++ "\":\"" ++ value ++ "\"").toList json.toList ||
    textFind ("\"" ++ key ++ "\": \"" ++ value ++ "\"").toList json.toList

/-- `hasType`: the text holds `"type":"value"`. -/
def hasType (json typeValue : String) : Bool := hasKeyValue "type" json typeValue

/-- `hasCmd`: the text holds `"cmd":"value"`. -/
def hasCmd (json cmdValue : String) : Bool := hasKeyValue "cmd" json cmdValue

/-- The branches of `BrainDaemon::handleCommand`. -/
inductive CommandBranch
  | estop
  | stop
  | resume
  | pose
  | status
  | servo
  | servos
  | getServos
  | move
  | eye
  | distance
  | scan
  | scanController
  | unknown
  deriving DecidableEq, Repr

/-- The branch `handleCommand` takes on a text: the first of its tests that matches, in the
order of the source. -/
def commandBranch (cmd : String) : CommandBranch :=
  if hasCmd cmd "estop" || hasType cmd "estop" then .estop
  else if hasCmd cmd "stop" || hasType cmd "stop" then .stop
  else if hasCmd cmd "resume" || hasCmd cmd "clear_estop" || hasType cmd "resume" then .resume
  else if hasType cmd "pose" then .pose
  else if hasType cmd "status" || hasCmd cmd "status" then .status
  else if hasType cmd "servo" then .servo
  else if hasType cmd "servos" then .servos
  else if hasType cmd "get_servos" then .getServos
  else if hasType cmd "move" then .move
  else if hasType cmd "eye" || hasType cmd "look" || hasType cmd "blink" || hasType cmd "wink" ||
      hasType cmd "mood" then .eye
  else if hasType cmd "distance" then .distance
  else if hasType cmd "scan" then .scan
  else if hasType cmd "scan_start" || hasType cmd "scan_stop" || hasType cmd "scan_status" ||
      hasType cmd "scan_get_data" then .scanController
  else .unknown

/-- What the JSON field readers (`parseJsonString`, `parseJsonInt`, `parseJsonIntArray`) make of
the fields of a `servo`, `servos`, `move` or `scan` text: the request it sends, or `none` when
they refuse it and only an error is broadcast. -/
abbrev CommandFields := CommandBranch → String → Option BrainDaemon.PoseRequest

/-- The `pose` command: the current servos again, with `t_ms = 100`. -/
def poseCommandRequest : BrainDaemon.PoseRequest := ⟨id, 100, 0, .inl rfl⟩

/-- `BrainDaemon::handleCommand`, as the events it causes in the deployed pair. `estop` requests
ESTOP; `stop`, `resume` and `clear_estop` clear the request; the servo commands send a packet
unless their fields are refused. The other branches only answer the client, talk to the eye
service or the distance sensor, or set up the scan controller. -/
def handleCommand (fields : CommandFields) (cmd : String) : List LinkEvent :=
  match commandBranch cmd with
  | .estop => [.estopRequest]
  | .stop => [.resumeRequest]
  | .resume => [.resumeRequest]
  | .pose => [.pose poseCommandRequest]
  | .servo => (fields .servo cmd).toList.map .pose
  | .servos => (fields .servos cmd).toList.map .pose
  | .move => (fields .move cmd).toList.map .pose
  | .scan => (fields .scan cmd).toList.map .pose
  | .status | .getServos | .eye | .distance | .scanController | .unknown => []

/-! ## The serial lines -/

/-- The commands `SerialControl::processLine` knows. -/
inductive SerialCommand
  | status
  | servo
  | servos
  | move
  | scan
  | estop
  | resume
  | eye
  | distance
  | help
  | unknown
  deriving DecidableEq, Repr

/-- The command word of a line: everything before the first space, in upper case. -/
def serialWord (line : String) : List Char :=
  (line.toList.takeWhile fun c => c != ' ').map Char.toUpper

/-- The command `processLine` runs for a line. -/
def serialCommand (line : String) : SerialCommand :=
  let cmd := serialWord line
  if cmd = "STATUS".toList then .status
  else if cmd = "SERVO".toList then .servo
  else if cmd = "SERVOS".toList then .servos
  else if cmd = "MOVE".toList then .move
  else if cmd = "SCAN".toList then .scan
  else if cmd = "ESTOP".toList then .estop
  else if cmd = "RESUME".toList then .resume
  else if cmd = "EYE".toList then .eye
  else if cmd = "DISTANCE".toList then .distance
  else if cmd = "HELP".toList ∨ cmd = "?".toList then .help
  else .unknown

/-- What `SerialControl`'s argument checks make of a `SERVO`, `SERVOS`, `MOVE` or `SCAN` line: the
request its callback sends, or `none` when the line is refused. -/
abbrev SerialFields := SerialCommand → String → Option BrainDaemon.PoseRequest

/-- `SerialControl::processLine` with the daemon's callbacks, as the events it causes: `ESTOP`
runs `onSerialEstop`, `RESUME` runs `onSerialResume`, and an accepted servo line runs
`onSerialServo`, `onSerialServos`, `onSerialMove` or `onSerialScan`. -/
def processLine (fields : SerialFields) (line : String) : List LinkEvent :=
  match serialCommand line with
  | .estop => [.estopRequest]
  | .resume => [.resumeRequest]
  | .servo => (fields .servo line).toList.map .pose
  | .servos => (fields .servos line).toList.map .pose
  | .move => (fields .move line).toList.map .pose
  | .scan => (fields .scan line).toList.map .pose
  | .status | .eye | .distance | .help | .unknown => []

/-! ## The scan controller's servo callback -/

/-- The scan servo's channel (`SERVO_CHANNEL_SCAN`). -/
def servoChannelScan : Fin 13 := 12

/-- `setScanServoAngle`: the pulse for an angle, `500 + angle * 2000 / 180` in `int` arithmetic
(the division truncates), saturated to the servo range, written to the scan channel and sent
with `FLAG_SCAN_ENABLE` and `t_ms = 0`. The `int` product overflows past ±1073741°, which a
`scan_start` profile can reach; the model takes the product wrapped to 32 bits, as the target's
multiply leaves it. -/
def setScanServoAngle (angleDeg : Int) : BrainDaemon.PoseRequest :=
  let us := 500 + (BitVec.ofInt 32 (angleDeg * 2000)).toInt.tdiv 180
  let saturated :=
    if us < servoPwmMinUs.toNat then (servoPwmMinUs.toNat : Int)
    else if us > servoPwmMaxUs.toNat then (servoPwmMaxUs.toNat : Int)
    else us
  ⟨fun servos => Function.update servos servoChannelScan (BitVec.ofInt 16 saturated), 0, flagScanEnable, .inr rfl⟩

/-! ## The daemon's inputs -/

/-- One step of the daemon's run loop, or of the real-time side. -/
inductive DaemonInput
  /-- `processClients` hands a WebSocket text to `handleCommand`. -/
  | ws (cmd : String)
  /-- `m_serial_control.tick` hands a line to `processLine`. -/
  | serial (line : String)
  /-- `m_scan_controller.tick` calls the servo callback. -/
  | scanServo (angleDeg : Int)
  /-- `tickHeartbeat` at a time of the Linux clock. -/
  | heartbeatTick (nowMs : BitVec 64)
  /-- `mailbox_cmd_handler` runs on the oldest doorbell. -/
  | deliver (now : BitVec 32)
  /-- An iteration of the real-time motion task. -/
  | motionTask (now : BitVec 32)
  /-- An iteration of the real-time watchdog task. -/
  | watchdogTask (now : BitVec 32)

namespace DaemonInput

/-- The events of the deployed pair an input causes. -/
def events (fields : CommandFields) (serialFields : SerialFields) : DaemonInput → List LinkEvent
  | .ws cmd => handleCommand fields cmd
  | .serial line => processLine serialFields line
  | .scanServo angleDeg => [.pose (setScanServoAngle angleDeg)]
  | .heartbeatTick nowMs => [.heartbeatTick nowMs]
  | .deliver now => [.deliver now]
  | .motionTask now => [.motionTask now]
  | .watchdogTask now => [.watchdogTask now]

/-- Whether an input clears `g_estop`: a text `handleCommand` takes to its `stop` or `resume`
branch, or a serial `RESUME`. -/
def clearsEstop : DaemonInput → Bool
  | .ws cmd => commandBranch cmd = .stop || commandBranch cmd = .resume
  | .serial line => serialCommand line = .resume
  | _ => false

/-- An input that does not clear `g_estop` causes no resume. -/
theorem events_ne_resume (fields : CommandFields) (serialFields : SerialFields) {input : DaemonInput}
    (keeps : input.clearsEstop = false) : ∀ event ∈ input.events fields serialFields, event ≠ .resumeRequest := by
  -- Only the `stop` and `resume` branches and the serial `RESUME` produce a resume.
  cases input with
  | ws cmd =>
    simp only [clearsEstop, Bool.or_eq_false_iff, decide_eq_false_iff_not] at keeps
    simp only [events, handleCommand]
    split <;> simp_all
  | serial line =>
    simp only [clearsEstop, decide_eq_false_iff_not] at keeps
    simp only [events, processLine]
    split <;> simp_all
  | _ => simp [events]

end DaemonInput

/-! ## The ESTOP latch -/

namespace Link

/-- The images the daemon writes into the ring over a run, oldest first: the slot of `write_idx`
each time a step moves `write_idx` on. -/
def writtenImages : Link → List LinkEvent → List PacketImage
  | _, [] => []
  | l, event :: events =>
    (if (l.step event).muscle.buf.writeIdx = l.muscle.buf.writeIdx then []
      else [(l.step event).muscle.buf.packets (sharedBufferSlotIndex l.muscle.buf.writeIdx)]) ++
      (l.step event).writtenImages events

/-- While ESTOP is requested, every event but a resume keeps it requested, and a packet it
writes carries `FLAG_ESTOP`. -/
theorem step_latched {l : Link} (latched : l.brain.estop = true) {event : LinkEvent}
    (notResume : event ≠ .resumeRequest) :
    (l.step event).brain.estop = true ∧
    ((l.step event).muscle.buf.writeIdx ≠ l.muscle.buf.writeIdx →
      hasFlag (PosePacket31.ofBytes ((l.step event).muscle.buf.packets
        (sharedBufferSlotIndex l.muscle.buf.writeIdx))).flags flagEstop = true) := by
  -- Only a servo command writes, and its packet carries the flag while ESTOP is requested.
  cases event with
  | heartbeatTick nowMs =>
    refine ⟨?_, fun moved => absurd rfl moved⟩
    simp only [step, BrainDaemon.tickHeartbeat]
    split <;> exact latched
  | estopRequest => exact ⟨rfl, fun moved => absurd rfl moved⟩
  | resumeRequest => exact absurd rfl notResume
  | pose request =>
    refine ⟨(BrainDaemon.handlePose_estop request l.brain l.muscle.buf).trans latched, fun moved => ?_⟩
    simp only [step] at moved ⊢
    rw [BrainDaemon.handlePose_written request l.brain l.muscle.buf moved, PosePacket31.ofBytes_bytes,
      BrainDaemon.posePacket_flags, BrainDaemon.hasFlag_poseFlags_estop, latched]
  | deliver now =>
    simp only [step]
    split
    · exact ⟨latched, fun moved => absurd rfl moved⟩
    · exact ⟨latched, fun moved =>
        absurd (congrArg Prod.fst (MuscleV1.mailboxCmdHandler_producerHalf now _ l.muscle)) moved⟩
  | motionTask now =>
    exact ⟨latched, fun moved =>
      absurd (congrArg Prod.fst (MuscleV1.motionTaskIteration_producerHalf now l.muscle)) moved⟩
  | watchdogTask now => exact ⟨latched, fun moved => absurd rfl moved⟩

/-- While ESTOP is requested and no resume comes, it stays requested, and every packet written
into the ring carries `FLAG_ESTOP`. -/
theorem run_latched {l : Link} (latched : l.brain.estop = true) {events : List LinkEvent}
    (noResume : ∀ event ∈ events, event ≠ .resumeRequest) :
    (l.run events).brain.estop = true ∧
      ∀ image ∈ l.writtenImages events, hasFlag (PosePacket31.ofBytes image).flags flagEstop = true := by
  -- Each step keeps the request, so the next one writes under it too.
  induction events generalizing l with
  | nil => exact ⟨latched, by simp [writtenImages]⟩
  | cons event events ih =>
    obtain ⟨latched', flagged⟩ := step_latched latched (noResume event (by simp))
    obtain ⟨stays, later⟩ := ih latched' fun other member => noResume other (by simp [member])
    refine ⟨stays, fun image member => ?_⟩
    rw [writtenImages, List.mem_append] at member
    rcases member with now | member
    · split_ifs at now with unmoved
      · cases now
      · rw [List.mem_singleton.mp now]
        exact flagged unmoved
    · exact later image member

end Link

/--
`g_estop` stays latched until a `stop` text clears it. From any state of the deployed pair in
which ESTOP is requested, take any sequence of WebSocket texts, serial lines, scan-servo calls,
heartbeat ticks and real-time steps. If none of them clears the request, the request stays set,
and every packet image written into the ring decodes with `FLAG_ESTOP`. The requests that clear
it are the texts `handleCommand` takes to its `stop` branch (`"cmd":"stop"` or `"type":"stop"`)
as well as the `resume` and `clear_estop` texts and a serial `RESUME`. A `stop` text clears
`g_estop` and nothing on the real-time side.
-/
theorem estop_cleared_by_stop (fields : CommandFields) (serialFields : SerialFields) :
    (∀ (l : Link) (inputs : List DaemonInput), l.brain.estop = true →
      (∀ input ∈ inputs, input.clearsEstop = false) →
      (l.run (inputs.flatMap (DaemonInput.events fields serialFields))).brain.estop = true ∧
      ∀ image ∈ l.writtenImages (inputs.flatMap (DaemonInput.events fields serialFields)),
        hasFlag (PosePacket31.ofBytes image).flags flagEstop = true) ∧
    (∀ (l : Link) (cmd : String), commandBranch cmd = .stop →
      (l.run ((DaemonInput.ws cmd).events fields serialFields)).brain.estop = false ∧
      (l.run ((DaemonInput.ws cmd).events fields serialFields)).muscle = l.muscle) := by
  -- No input that keeps the request causes a resume; a `stop` text is exactly one resume.
  refine ⟨fun l inputs latched keeps => Link.run_latched latched fun event member => ?_, fun l cmd stop => ?_⟩
  · obtain ⟨input, inInputs, caused⟩ := List.mem_flatMap.mp member
    exact DaemonInput.events_ne_resume fields serialFields (keeps input inInputs) event caused
  · simp only [DaemonInput.events, handleCommand, stop]
    exact ⟨rfl, rfl⟩

/-- The text `{"cmd":"estop"}`. -/
def estopText : String := "\x7b\"cmd\":\"estop\"\x7d"

/-- The text `{"cmd":"stop"}`. -/
def stopText : String := "\x7b\"cmd\":\"stop\"\x7d"

/-- The text `{"type":"pose"}`. -/
def poseText : String := "\x7b\"type\":\"pose\"\x7d"

/-- From the start of the deployed pair, the texts `{"cmd":"estop"}`, `{"cmd":"stop"}` and
`{"type":"pose"}`: the `stop` text is neither `resume` nor `clear_estop`, yet after it the pose
packet goes into the ring without `FLAG_ESTOP`. -/
theorem stop_text_releases_estop :
    commandBranch estopText = .estop ∧ commandBranch stopText = .stop ∧ commandBranch poseText = .pose ∧
    ((Link.init 0 0).run ((DaemonInput.ws estopText).events (fun _ _ => none) (fun _ _ => none))).brain.estop = true ∧
    (((Link.init 0 0).run ((DaemonInput.ws estopText).events (fun _ _ => none) (fun _ _ => none))).run
      ((DaemonInput.ws stopText).events (fun _ _ => none) (fun _ _ => none))).brain.estop = false ∧
    ∃ image, (Link.init 0 0).writtenImages ([DaemonInput.ws estopText, .ws stopText, .ws poseText].flatMap
        (DaemonInput.events (fun _ _ => none) (fun _ _ => none))) = [image] ∧
      hasFlag (PosePacket31.ofBytes image).flags flagEstop = false := by
  -- The texts' branches are evaluated; the run follows from the theorem on stop.
  have estopBranch : commandBranch estopText = .estop := by decide
  have stopBranch : commandBranch stopText = .stop := by decide
  have poseBranch : commandBranch poseText = .pose := by decide
  have cleared := (estop_cleared_by_stop (fun _ _ => none) (fun _ _ => none)).2
    ((Link.init 0 0).run ((DaemonInput.ws estopText).events (fun _ _ => none) (fun _ _ => none))) stopText stopBranch
  refine ⟨estopBranch, stopBranch, poseBranch, ?_, cleared.1, ?_⟩
  · simp only [DaemonInput.events, handleCommand, estopBranch]
    rfl
  · simp only [List.flatMap_cons, List.flatMap_nil, List.append_nil, DaemonInput.events, handleCommand, estopBranch,
      stopBranch, poseBranch, List.singleton_append]
    -- The ESTOP and the resume write nothing; the pose command writes its packet into slot 0.
    have moved : ((((Link.init 0 0).step .estopRequest).step .resumeRequest).step
        (.pose poseCommandRequest)).muscle.buf.writeIdx ≠
          (((Link.init 0 0).step .estopRequest).step .resumeRequest).muscle.buf.writeIdx := by
      decide
    refine ⟨((((Link.init 0 0).step .estopRequest).step .resumeRequest).brain.posePacket poseCommandRequest).bytes,
      ?_, ?_⟩
    · have estopped : ((Link.init 0 0).step .estopRequest).muscle.buf.writeIdx = (Link.init 0 0).muscle.buf.writeIdx :=
        rfl
      have resumed : (((Link.init 0 0).step .estopRequest).step .resumeRequest).muscle.buf.writeIdx =
          ((Link.init 0 0).step .estopRequest).muscle.buf.writeIdx := rfl
      rw [Link.writtenImages, if_pos estopped, List.nil_append, Link.writtenImages, if_pos resumed, List.nil_append,
        Link.writtenImages, if_neg moved, Link.writtenImages, List.append_nil]
      exact congrArg (· :: []) (BrainDaemon.handlePose_written poseCommandRequest
        (((Link.init 0 0).step .estopRequest).step .resumeRequest).brain
        (((Link.init 0 0).step .estopRequest).step .resumeRequest).muscle.buf moved)
    · rw [PosePacket31.ofBytes_bytes, BrainDaemon.posePacket_flags, BrainDaemon.hasFlag_poseFlags_estop]
      rfl

end Milkspider
