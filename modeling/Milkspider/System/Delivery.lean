import Milkspider.System.Link

/-! What the daemon's servo commands do on the real-time side of the deployed pair, one command at a
time and over whole runs, when each doorbell is delivered at once. -/

namespace Milkspider

namespace Link

/-- The pair between commands: the real-time side not latched, the ring empty, no doorbell on
its way, and the daemon's mailbox open. -/
structure Idle (l : Link) : Prop where
  notLatched : l.muscle.estopActive = false
  empty : l.muscle.buf.writeIdx = l.muscle.buf.readIdx
  noBells : l.doorbells = []
  mailboxOpen : l.brain.mailbox.fdOpen = true

/-- Both sides start idle. -/
theorem Idle.init (startMs : BitVec 64) (boot : BitVec 32) : (Link.init startMs boot).Idle :=
  -- Nothing latched, pushed, rung or closed at the start.
  ⟨rfl, rfl, rfl, rfl⟩

/-- A servo command whose doorbell is delivered at once. -/
def round (request : BrainDaemon.PoseRequest) (now : BitVec 32) : List LinkEvent :=
  [.pose request, .deliver now]

/-- Unlike the heartbeat and ESTOP ids, the motion doorbell's id is the same on both sides. -/
theorem motion_doorbell_ids_agree :
    (Mailbox.cmdMotionPacket.setWidth 7).setWidth 8 = MuscleV1.cmdMotionPacket ∧
      MuscleV1.cmdMotionPacket ≠ MuscleV1.cmdHeartbeat := by
  -- The ids are evaluated on both sides.
  decide

/-- An idle pair's ring has room for a packet. -/
theorem Idle.room {l : Link} (idle : l.Idle) : ringFull l.muscle.buf.writeIdx l.muscle.buf.readIdx = false := by
  -- An empty ring is not full.
  simp [ringFull, idle.empty, packetRingSize]

/-- From an idle pair, a round is the daemon's `handlePose` followed by one pass of the drain at
the old `read_idx`. -/
theorem round_eq {l : Link} (idle : l.Idle) (request : BrainDaemon.PoseRequest) (now : BitVec 32) :
    l.run (round request now) =
      ⟨(l.brain.handlePose request l.muscle.buf).1,
        { l.muscle with buf := (l.brain.handlePose request l.muscle.buf).2.1 }.drainSlot now
          l.muscle.buf.readIdx,
        []⟩ := by
  -- The ring has room, so the daemon writes and rings; the bell's id selects the drain.
  have room := idle.room
  obtain ⟨brain, muscle, bells⟩ := l
  obtain ⟨notLatched, empty, noBells, opened⟩ := idle
  dsimp only at notLatched empty noBells opened room ⊢
  subst noBells
  simp [run, round, step, BrainDaemon.handlePose_of_room request opened room, MuscleV1.mailboxCmdHandler,
    MuscleV1.processSharedBufferPackets_one, notLatched, empty, motion_doorbell_ids_agree]

/-- The slot a round's drain reads holds the packet the daemon just wrote. -/
theorem round_slot {l : Link} (idle : l.Idle) (request : BrainDaemon.PoseRequest) :
    (l.brain.handlePose request l.muscle.buf).2.1.packets (sharedBufferSlotIndex l.muscle.buf.readIdx) =
      (l.brain.posePacket request).bytes := by
  -- The ring was empty, so the daemon wrote into the slot of `read_idx`.
  rw [BrainDaemon.handlePose_of_room request idle.mailboxOpen idle.room, idle.empty]
  exact Function.update_same _ _ _

/-- A round whose packet is fresh, while ESTOP is not requested, drives the servos to the
command's clamped pose in one write and leaves the pair idle, the real-time side's `g_last_seq`
at the packet's `seq`. -/
theorem round_accepted {l : Link} (idle : l.Idle) (running : l.brain.estop = false)
    (request : BrainDaemon.PoseRequest) (now : BitVec 32)
    (fresh : isStale l.muscle.rx.lastSeq (l.brain.seq + 1) = false) :
    (l.run (round request now)).Idle ∧ (l.run (round request now)).brain.estop = false ∧
    (l.run (round request now)).brain.seq = l.brain.seq + 1 ∧
    (l.run (round request now)).muscle.rx.lastSeq = l.brain.seq + 1 ∧
    (l.run (round request now)).muscle.pwm =
      l.muscle.pwm ++ writePose (clampPose (request.servos l.brain.currentServos)) ∧
    (l.run (round request now)).brain.currentServos = request.servos l.brain.currentServos := by
  -- The drain reads the sealed packet back, which passes every check and carries no ESTOP.
  rw [round_eq idle, MuscleV1.drainSlot_of_slot
    (s := { l.muscle with buf := (l.brain.handlePose request l.muscle.buf).2.1 }) now _ idle.notLatched
    (round_slot idle request), MuscleV1.processPacket_sealed now rfl rfl rfl
      (BrainDaemon.posePacket_sealed request l.brain)]
  have fresh' : isStale l.muscle.rx.lastSeq (l.brain.seq + 1#32) = false := fresh
  simp [posepacket31Init, fresh', BrainDaemon.hasFlag_poseFlags_estop, running,
    BrainDaemon.handlePose_of_room request idle.mailboxOpen idle.room, MuscleV1.handleHeartbeat, idle.empty]
  exact ⟨idle.notLatched, rfl, rfl, idle.mailboxOpen⟩

/-- A round whose packet is stale is only counted as dropped: the real-time side writes nothing,
latches nothing, and the pair stays idle, whether or not the packet carries `FLAG_ESTOP`. -/
theorem round_stale {l : Link} (idle : l.Idle) (request : BrainDaemon.PoseRequest) (now : BitVec 32)
    (stale : isStale l.muscle.rx.lastSeq (l.brain.seq + 1) = true) :
    (l.run (round request now)).Idle ∧ (l.run (round request now)).brain.estop = l.brain.estop ∧
    (l.run (round request now)).brain.seq = l.brain.seq + 1 ∧
    (l.run (round request now)).muscle.rx = l.muscle.rx.drop ∧
    (l.run (round request now)).muscle.pwm = l.muscle.pwm := by
  -- The packet passes the magic, version and CRC checks and fails only the sequence check.
  rw [round_eq idle, MuscleV1.drainSlot_of_slot
    (s := { l.muscle with buf := (l.brain.handlePose request l.muscle.buf).2.1 }) now _ idle.notLatched
    (round_slot idle request), MuscleV1.processPacket_sealed now rfl rfl rfl
      (BrainDaemon.posePacket_sealed request l.brain)]
  have stale' : isStale l.muscle.rx.lastSeq (l.brain.seq + 1#32) = true := stale
  simp [stale', BrainDaemon.handlePose_of_room request idle.mailboxOpen idle.room, idle.empty]
  exact ⟨idle.notLatched, rfl, rfl, idle.mailboxOpen⟩

/-! ## Runs of commands -/

/-- What the daemon does, each command's doorbell delivered at once. -/
inductive DaemonCommand
  /-- A servo command. -/
  | pose (request : BrainDaemon.PoseRequest) (now : BitVec 32)
  /-- An ESTOP request. -/
  | estop (now : BitVec 32)
  /-- A resume request. -/
  | resume

/-- The events of one command. -/
def DaemonCommand.events : DaemonCommand → List LinkEvent
  | .pose request now => round request now
  | .estop now => [.estopRequest, .deliver now]
  | .resume => [.resumeRequest]

/-- The events of a sequence of commands. -/
def commandEvents (commands : List DaemonCommand) : List LinkEvent :=
  commands.flatMap DaemonCommand.events

/-- The events of a sequence of servo commands. -/
def poseEvents (requests : List (BrainDaemon.PoseRequest × BitVec 32)) : List LinkEvent :=
  commandEvents (requests.map fun (request, now) => .pose request now)

/-- The first of a sequence of servo commands is one round. -/
theorem poseEvents_cons (request : BrainDaemon.PoseRequest) (now : BitVec 32)
    (requests : List (BrainDaemon.PoseRequest × BitVec 32)) :
    poseEvents ((request, now) :: requests) = round request now ++ poseEvents requests :=
  -- The first command's round, then the others.
  rfl

/-- A run of commands is the run of the first, then of the rest. -/
theorem run_commandEvents_cons (l : Link) (command : DaemonCommand) (commands : List DaemonCommand) :
    l.run (commandEvents (command :: commands)) = (l.run command.events).run (commandEvents commands) := by
  -- A run over appended events is two runs.
  rw [commandEvents, List.flatMap_cons, run_append]
  rfl

/-- An ESTOP request only latches the daemon's `g_estop`: its doorbell is ignored. -/
theorem estop_events {l : Link} (idle : l.Idle) (now : BitVec 32) :
    (l.run (DaemonCommand.estop now).events).Idle ∧
    (l.run (DaemonCommand.estop now).events).brain.seq = l.brain.seq ∧
    (l.run (DaemonCommand.estop now).events).muscle = l.muscle := by
  -- The daemon's ESTOP bell carries an id the real-time handler does not know.
  have ignored := @mailboxCmdHandler_daemon_bell ⟨0, Mailbox.cmdEstop.setWidth 7, false, 0⟩ (.inr rfl)
    now l.muscle
  simp only [DaemonCommand.events, run, List.foldl, step, BrainDaemon.handleEstop, Mailbox.sendEstop,
    Mailbox.sendCommand, idle.mailboxOpen, idle.noBells, if_true, List.nil_append, ignored, and_true]
  exact ⟨idle.notLatched, idle.empty, rfl, rfl⟩

/-- Once `g_last_seq` is `0xFFFFFFFF`, every packet is stale. -/
theorem isStale_allOnes (seq : BitVec 32) : isStale (BitVec.allOnes 32) seq = true := by
  -- No `seq` is above `0xFFFFFFFF`, and only `0` passes as the exception.
  simp only [isStale, BitVec.le_def, BitVec.toNat_allOnes, Bool.and_eq_true, decide_eq_true_eq,
    bne_iff_ne, ne_eq]
  exact ⟨by omega, by decide⟩

/-- The next `seq` is fresh as long as the counter does not wrap. -/
theorem isStale_succ {seq : BitVec 32} (below : seq.toNat + 1 < 2 ^ 32) : isStale seq (seq + 1) = false := by
  -- Without a wrap, `seq + 1` is above `seq`.
  have newer : ¬ seq + 1#32 ≤ seq := by bv_omega
  simp [isStale, newer]

/-- The pair after `g_last_seq` reached `0xFFFFFFFF`, between commands. -/
structure Saturated (l : Link) : Prop where
  idle : l.Idle
  lastSeq : l.muscle.rx.lastSeq = BitVec.allOnes 32

/-- After saturation, every command leaves the pair saturated and the servos untouched. -/
theorem Saturated.command {l : Link} (saturated : l.Saturated) :
    ∀ command : DaemonCommand, (l.run command.events).Saturated ∧
      (l.run command.events).muscle.pwm = l.muscle.pwm
  -- Every packet is stale, and the ESTOP doorbell is ignored.
  | .pose request now => by
    simp only [DaemonCommand.events]
    obtain ⟨idle, _, _, rx, pwm⟩ :=
      round_stale saturated.idle request now (saturated.lastSeq ▸ isStale_allOnes _)
    exact ⟨⟨idle, by rw [rx]; exact saturated.lastSeq⟩, pwm⟩
  | .estop now => by
    obtain ⟨idle, _, muscle⟩ := estop_events saturated.idle now
    exact ⟨⟨idle, by rw [muscle]; exact saturated.lastSeq⟩, by rw [muscle]⟩
  | .resume =>
    let ⟨⟨notLatched, empty, noBells, opened⟩, lastSeq⟩ := saturated
    ⟨⟨⟨notLatched, empty, noBells, opened⟩, lastSeq⟩, rfl⟩

/-- After saturation, no run of commands moves a servo. -/
theorem Saturated.run {l : Link} (saturated : l.Saturated) (commands : List DaemonCommand) :
    (l.run (commandEvents commands)).Saturated ∧ (l.run (commandEvents commands)).muscle.pwm = l.muscle.pwm := by
  -- Induction on the commands, each keeping the pair saturated.
  induction commands generalizing l with
  | nil => exact ⟨saturated, rfl⟩
  | cons command commands ih =>
    obtain ⟨next, pwm⟩ := saturated.command command
    rw [run_commandEvents_cons, (ih next).2, pwm]
    exact ⟨(ih next).1, rfl⟩

/-- The pair while every packet so far was accepted: idle, no ESTOP requested, and `g_last_seq`
at the daemon's `m_seq`. -/
structure InStep (l : Link) : Prop where
  idle : l.Idle
  running : l.brain.estop = false
  lastSeq : l.muscle.rx.lastSeq = l.brain.seq

/-- Both sides start in step. -/
theorem InStep.init (startMs : BitVec 64) (boot : BitVec 32) : (Link.init startMs boot).InStep :=
  -- Both counters start at zero.
  ⟨Idle.init startMs boot, rfl, rfl⟩

/-- The daemon's `m_seq` starts at zero. -/
@[simp] theorem init_seq (startMs : BitVec 64) (boot : BitVec 32) : (Link.init startMs boot).brain.seq = 0 :=
  -- The daemon starts with `m_seq = 0`.
  rfl

/-- The poses a sequence of servo commands asks for, each from the daemon's servos after the
one before. -/
def commandedPoses (servos : Pose) : List (BrainDaemon.PoseRequest × BitVec 32) → List Pose
  | [] => []
  | (request, _) :: requests => request.servos servos :: commandedPoses (request.servos servos) requests

/-- Servo commands keep the pair in step while `m_seq` does not wrap, count `m_seq` up, and
write each commanded pose, clamped, in order. -/
theorem InStep.poseEvents {l : Link} (inStep : l.InStep) (requests : List (BrainDaemon.PoseRequest × BitVec 32))
    (noWrap : l.brain.seq.toNat + requests.length < 2 ^ 32) :
    (l.run (Link.poseEvents requests)).InStep ∧
      (l.run (Link.poseEvents requests)).brain.seq.toNat = l.brain.seq.toNat + requests.length ∧
      (l.run (Link.poseEvents requests)).muscle.pwm =
        l.muscle.pwm ++ (commandedPoses l.brain.currentServos requests).flatMap fun pose =>
          writePose (clampPose pose) := by
  -- Each packet is one newer than `g_last_seq`, so each is accepted, recorded and applied.
  induction requests generalizing l with
  | nil => exact ⟨inStep, rfl, (List.append_nil _).symm⟩
  | cons head requests ih =>
    obtain ⟨request, now⟩ := head
    have below : l.brain.seq.toNat + 1 < 2 ^ 32 := by rw [List.length_cons] at noWrap; omega
    obtain ⟨idle, running, seq, lastSeq, pwm, servos⟩ := round_accepted inStep.idle inStep.running request now
      (by rw [inStep.lastSeq]; exact isStale_succ below)
    have next : (l.run (round request now)).InStep := ⟨idle, running, by rw [lastSeq, seq]⟩
    have counted : (l.run (round request now)).brain.seq.toNat = l.brain.seq.toNat + 1 := by
      have one : (1 : BitVec 32).toNat = 1 := rfl
      rw [seq, BitVec.toNat_add, one, Nat.mod_eq_of_lt below]
    obtain ⟨inStep', seq', pwm'⟩ := ih next (by rw [counted]; rw [List.length_cons] at noWrap; omega)
    rw [poseEvents_cons, run_append]
    refine ⟨inStep', by rw [seq', counted, List.length_cons]; omega, ?_⟩
    rw [pwm', pwm, servos, commandedPoses, List.flatMap_cons, List.append_assoc]

end Link

/--
A servo command of the daemon reaches the servos in one write, whatever its `t_ms`: from an idle
pair, while ESTOP is not requested and the packet is fresh, the real-time side's next PWM writes
are the command's clamped pose, once on each of the thirteen channels. `apply_servo_values` of
`app_main_v1.c` writes `servo_us` as it is and never reads `t_ms`.
-/
theorem pose_applied_at_once {l : Link} (idle : l.Idle) (running : l.brain.estop = false)
    (request : BrainDaemon.PoseRequest) (now : BitVec 32)
    (fresh : isStale l.muscle.rx.lastSeq (l.brain.seq + 1) = false) :
    (l.run (Link.round request now)).muscle.pwm =
      l.muscle.pwm ++ writePose (clampPose (request.servos l.brain.currentServos)) :=
  -- The round's drain accepts the fresh packet and writes its pose.
  (Link.round_accepted idle running request now fresh).2.2.2.2.1

/-- A command to move every servo to 2500 µs over one second. -/
def slowTo2500 : BrainDaemon.PoseRequest := ⟨fun _ _ => 2500#16, 1000, 0, .inl rfl⟩

/-- Right after start, where every channel was last written 1500 µs, a command to reach 2500 µs
over one second writes 2500 µs to every servo channel at once. -/
theorem slow_pose_jumps :
    (∀ write ∈ (Link.init 0 0).muscle.pwm, write.pulseUs = 1500#16) ∧
    (∀ write ∈ writePose (clampPose (slowTo2500.servos (Link.init 0 0).brain.currentServos)),
      write.pulseUs = 2500#16) ∧
    (Link.init 0 0).Idle ∧ (Link.init 0 0).brain.estop = false ∧
    isStale (Link.init 0 0).muscle.rx.lastSeq ((Link.init 0 0).brain.seq + 1) = false ∧
    ((Link.init 0 0).run (Link.round slowTo2500 1)).muscle.pwm =
      (Link.init 0 0).muscle.pwm ++ writePose (clampPose (slowTo2500.servos (Link.init 0 0).brain.currentServos)) :=
  -- The starting pair is idle and in step; the theorem gives the writes.
  ⟨by decide, by decide, Link.Idle.init 0 0, rfl, by decide,
    pose_applied_at_once (Link.Idle.init 0 0) rfl slowTo2500 1 (by decide)⟩

/--
The daemon's `m_seq` wraps: after `2 ^ 32 - 1` servo commands from the start, each delivered at
once and each accepted, `g_last_seq` is `0xFFFFFFFF`, and from then on, whatever the daemon does
(servo commands, with or without ESTOP requested, and ESTOP and resume requests), every packet
is dropped as stale: the real-time side writes no servo and never latches ESTOP.
-/
theorem daemon_seq_wrap_drops_packets (startMs : BitVec 64) (boot : BitVec 32)
    (requests : List (BrainDaemon.PoseRequest × BitVec 32)) (wrapping : requests.length = 2 ^ 32 - 1)
    (later : List Link.DaemonCommand) :
    ((Link.init startMs boot).run (Link.poseEvents requests)).muscle.rx.lastSeq = BitVec.allOnes 32 ∧
    (((Link.init startMs boot).run (Link.poseEvents requests)).run (Link.commandEvents later)).muscle.pwm =
      ((Link.init startMs boot).run (Link.poseEvents requests)).muscle.pwm ∧
    (((Link.init startMs boot).run (Link.poseEvents requests)).run
      (Link.commandEvents later)).muscle.estopActive = false := by
  -- Counting from zero, the last accepted packet carries `0xFFFFFFFF`; then the pair saturates.
  obtain ⟨inStep, counted, _⟩ := (Link.InStep.init startMs boot).poseEvents requests (by simp [wrapping])
  have saturated : ((Link.init startMs boot).run (Link.poseEvents requests)).muscle.rx.lastSeq =
      BitVec.allOnes 32 := by
    rw [inStep.lastSeq]
    apply BitVec.eq_of_toNat_eq
    simp [counted, wrapping]
  obtain ⟨after, pwm⟩ := Link.Saturated.run ⟨inStep.idle, saturated⟩ later
  exact ⟨saturated, pwm, after.idle.notLatched⟩

/-- A steady command: every servo where it is, in 20 ms. -/
def steadyRequest : BrainDaemon.PoseRequest := ⟨id, 20, 0, .inl rfl⟩

/-- After `2 ^ 32 - 1` steady commands, an ESTOP request and the ESTOP packet of the next command
are both lost. -/
theorem wrapped_estop_packet_dropped :
    (List.replicate (2 ^ 32 - 1) (steadyRequest, (0 : BitVec 32))).length = 2 ^ 32 - 1 ∧
    ((Link.init 0 0).run (Link.poseEvents (List.replicate (2 ^ 32 - 1) (steadyRequest, 0)))).muscle.rx.lastSeq =
      BitVec.allOnes 32 ∧
    (((Link.init 0 0).run (Link.poseEvents (List.replicate (2 ^ 32 - 1) (steadyRequest, 0)))).run
        (Link.commandEvents [.estop 0, .pose steadyRequest 0])).muscle.pwm =
      ((Link.init 0 0).run (Link.poseEvents (List.replicate (2 ^ 32 - 1) (steadyRequest, 0)))).muscle.pwm ∧
    (((Link.init 0 0).run (Link.poseEvents (List.replicate (2 ^ 32 - 1) (steadyRequest, 0)))).run
        (Link.commandEvents [.estop 0, .pose steadyRequest 0])).muscle.estopActive = false :=
  -- The run has `2 ^ 32 - 1` commands; the theorem gives the rest.
  ⟨List.length_replicate _ _,
    daemon_seq_wrap_drops_packets 0 0 _ (List.length_replicate _ _) [.estop 0, .pose steadyRequest 0]⟩

/--
Until `m_seq` wraps, the deployed pair carries out every servo command, in order: from the
start, after fewer than `2 ^ 32` servo commands, each delivered at once, the PWM writes are the
boot-time neutral writes followed by each commanded pose, clamped, on the thirteen servo
channels.
-/
theorem servo_commands_reach_servos (startMs : BitVec 64) (boot : BitVec 32)
    (requests : List (BrainDaemon.PoseRequest × BitVec 32)) (noWrap : requests.length < 2 ^ 32) :
    ((Link.init startMs boot).run (Link.poseEvents requests)).muscle.pwm =
      (Link.init startMs boot).muscle.pwm ++
        (Link.commandedPoses neutralPose requests).flatMap fun pose => writePose (clampPose pose) :=
  -- The pair starts in step with `m_seq` at zero.
  ((Link.InStep.init startMs boot).poseEvents requests (by simpa using noWrap)).2.2

/-- A move of every servo to 2000 µs, then a scan command that keeps the pose. -/
def moveThenScan : List (BrainDaemon.PoseRequest × BitVec 32) :=
  [(⟨fun _ _ => 2000#16, 100, 0, .inl rfl⟩, 1), (⟨id, 20, flagScanEnable, .inr rfl⟩, 2)]

/-- A move to 2000 µs and a scan command that keeps the pose are both carried out. -/
theorem move_then_scan_reach_servos :
    moveThenScan.length < 2 ^ 32 ∧
    ((Link.init 0 0).run (Link.poseEvents moveThenScan)).muscle.pwm =
      (Link.init 0 0).muscle.pwm ++
        (Link.commandedPoses neutralPose moveThenScan).flatMap fun pose => writePose (clampPose pose) :=
  -- Two commands, far from a wrap.
  ⟨by decide, servo_commands_reach_servos 0 0 _ (by decide)⟩

end Milkspider
