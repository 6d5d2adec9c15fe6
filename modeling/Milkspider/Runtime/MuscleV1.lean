import Milkspider.Protocol.Receive
import Milkspider.Ring.SharedBuffer
import Milkspider.Safety.Watchdog

/-! The deployed real-time runtime `app_main_v1.c`: its mailbox handler, its drain of the shared
ring, and its motion and watchdog tasks, each as one call on the runtime's state. -/

namespace Milkspider

/-- A packet slot's contents as the real-time side reads them: the bytes the producer copied. -/
abbrev PacketImage := List (BitVec 8)

/-- The state `app_main_v1.c` works on: its globals, the watchdog with the fault word of
`fault_flags.c` (its `faults` field), the shared ring, and every PWM write so far. -/
structure MuscleV1 where
  /-- `g_estop_active`. -/
  estopActive : Bool
  /-- `g_last_seq`, `g_rx_count`, `g_drop_count`. -/
  rx : Receiver
  watchdog : Watchdog
  /-- `*g_shared_buf`. -/
  buf : SharedMotionBuffer PacketImage
  /-- Every PCA9685 write so far, oldest first. -/
  pwm : List PwmWrite

namespace MuscleV1

/-- The real-time side's heartbeat doorbell (`CMD_HEARTBEAT` of `app_main_v1.c`). -/
def cmdHeartbeat : BitVec 8 := 0x10#8

/-- The real-time side's motion doorbell (`CMD_MOTION_PACKET`). -/
def cmdMotionPacket : BitVec 8 := 0x20#8

/-- The real-time side's ESTOP doorbell (`CMD_ESTOP` of `app_main_v1.c`). -/
def cmdEstop : BitVec 8 := 0x30#8

/-- All sixteen channels to neutral (`set_all_servos_neutral`). -/
def setAllServosNeutral : List PwmWrite := pca9685SetAllUs servoPwmNeutralUs

/-- The thirteen servo channels of a packet, in channel order (`apply_servo_values`). -/
def applyServoValues (pkt : PosePacket31) : List PwmWrite := writePose pkt.servoUs

/-- `main_cvirtos` with a working PCA9685, queue and task: fault word cleared, all servos
neutral, `read_idx` zeroed and `SHARED_FLAG_MUSCLE_READY` raised, the watchdog started at the
boot tick. -/
def init (boot : BitVec 32) (buf : SharedMotionBuffer PacketImage) : MuscleV1 where
  estopActive := false
  rx := Receiver.init
  watchdog := watchdogInit boot 0
  buf := { buf with readIdx := 0, flags := buf.flags ||| sharedFlagMuscleReady }
  pwm := setAllServosNeutral

/-- Latch ESTOP, raise its fault, drive every channel neutral and raise the ring's ESTOP flag
(`handle_estop`). -/
def handleEstop (s : MuscleV1) : MuscleV1 :=
  { s with
    estopActive := true
    watchdog := { s.watchdog with faults := faultFlagsSet s.watchdog.faults faultEstopActive }
    pwm := s.pwm ++ setAllServosNeutral
    buf := { s.buf with flags := s.buf.flags ||| sharedFlagEstop } }

/-- Feed the watchdog (`handle_heartbeat`). -/
def handleHeartbeat (now : BitVec 32) (s : MuscleV1) : MuscleV1 :=
  { s with watchdog := watchdogFeed now s.watchdog }

/-- The work of the drain on one slot once `g_estop_active` was found clear: validate the image;
on success feed the watchdog, then latch ESTOP or apply the servos and record `seq`. -/
def processPacket (now : BitVec 32) (image : PacketImage) (s : MuscleV1) : MuscleV1 :=
  let (code, faults, rx) := validatePacket s.watchdog.faults s.rx image
  let checked := { s with watchdog := { s.watchdog with faults := faults }, rx := rx }
  if code = 0 then
    let fed := checked.handleHeartbeat now
    let pkt := PosePacket31.ofBytes image
    if hasFlag pkt.flags flagEstop then fed.handleEstop
    else
      { fed with
        pwm := fed.pwm ++ applyServoValues pkt
        rx := { fed.rx with lastSeq := pkt.seq, rxCount := fed.rx.rxCount + 1 } }
  else checked

/-- One pass of the drain loop at its local `read_idx`: skip the slot during ESTOP, else
process it; then store `read_idx + 1`. -/
def drainSlot (now readIdx : BitVec 32) (s : MuscleV1) : MuscleV1 :=
  let worked := if s.estopActive then s else s.processPacket now (s.buf.packets (sharedBufferSlotIndex readIdx))
  { worked with buf := { worked.buf with readIdx := readIdx + 1 } }

/-- `n` passes of the drain loop from a local `read_idx`. -/
def drainFrom (now : BitVec 32) : Nat → BitVec 32 → MuscleV1 → MuscleV1
  | 0, _, s => s
  | n + 1, readIdx, s => drainFrom now n (readIdx + 1) (s.drainSlot now readIdx)

/-- `process_shared_buffer_packets` run without interruption: its locals load `read_idx` and
`write_idx`, and the loop runs until they meet, `write_idx - read_idx` passes. -/
def processSharedBufferPackets (now : BitVec 32) (s : MuscleV1) : MuscleV1 :=
  s.drainFrom now (s.buf.writeIdx - s.buf.readIdx).toNat s.buf.readIdx

/-- `mailbox_cmd_handler`: a doorbell's id selects the heartbeat, the drain (unless in ESTOP) or
ESTOP; any other id is only logged. -/
def mailboxCmdHandler (now : BitVec 32) (cmdId : BitVec 8) (s : MuscleV1) : MuscleV1 :=
  if cmdId = cmdHeartbeat then s.handleHeartbeat now
  else if cmdId = cmdMotionPacket then
    if s.estopActive then s else s.processSharedBufferPackets now
  else if cmdId = cmdEstop then s.handleEstop
  else s

/-- One iteration of `motion_task_entry`: nothing in `app_main_v1.c` writes its queue, so the
receive times out and only the drain runs, unless in ESTOP. -/
def motionTaskIteration (now : BitVec 32) (s : MuscleV1) : MuscleV1 :=
  if s.estopActive then s else s.processSharedBufferPackets now

/-- One iteration of the watchdog task with the callbacks of `app_main_v1.c`: a timeout drives
every channel neutral (`on_watchdog_timeout`). -/
def watchdogTask (now : BitVec 32) (s : MuscleV1) : MuscleV1 :=
  let (watchdog, fired) := watchdogTaskIteration now s.watchdog
  { s with watchdog := watchdog, pwm := if fired then s.pwm ++ setAllServosNeutral else s.pwm }

/-! ## What each call leaves unchanged -/

/-- A doorbell with none of the three ids changes nothing. -/
theorem mailboxCmdHandler_unknown {now : BitVec 32} {cmdId : BitVec 8} (s : MuscleV1)
    (notHeartbeat : cmdId ≠ cmdHeartbeat) (notMotion : cmdId ≠ cmdMotionPacket)
    (notEstop : cmdId ≠ cmdEstop) : s.mailboxCmdHandler now cmdId = s := by
  -- No branch of the handler matches.
  simp [mailboxCmdHandler, notHeartbeat, notMotion, notEstop]

/-- A drain over an empty ring changes nothing. -/
theorem processSharedBufferPackets_empty {s : MuscleV1} (now : BitVec 32)
    (empty : s.buf.writeIdx = s.buf.readIdx) : s.processSharedBufferPackets now = s := by
  -- Nothing is pending, so the loop makes no pass.
  simp [processSharedBufferPackets, empty, drainFrom]

/-- The watchdog task touches only the watchdog and the PWM writes. -/
theorem watchdogTask_frame (now : BitVec 32) (s : MuscleV1) :
    (s.watchdogTask now).estopActive = s.estopActive ∧ (s.watchdogTask now).rx = s.rx ∧
      (s.watchdogTask now).buf = s.buf :=
  -- The task writes only the watchdog and the PWM writes.
  ⟨rfl, rfl, rfl⟩

/-- A packet that fails a check is neither applied nor allowed to feed the watchdog or latch
ESTOP: only the fault word and the drop count change. -/
theorem processPacket_of_fault {image : PacketImage} {code : Int} {fault : BitVec 32}
    (failed : packetFault image = some (code, fault)) (now : BitVec 32) (s : MuscleV1) :
    s.processPacket now image =
      { s with watchdog := { s.watchdog with faults := faultFlagsSet s.watchdog.faults fault },
               rx := s.rx.drop } := by
  -- `validate_packet` returns the failed check's nonzero code, so nothing after it runs.
  have nonzero : code ≠ 0 := by rcases packetFault_code failed with h | h | h <;> omega
  simp [processPacket, validatePacket_of_fault failed, nonzero]

/-- A drain with one packet pending is one pass of the loop. -/
theorem processSharedBufferPackets_one {s : MuscleV1} (now : BitVec 32)
    (one : s.buf.writeIdx = s.buf.readIdx + 1) :
    s.processSharedBufferPackets now = s.drainSlot now s.buf.readIdx := by
  -- One packet is pending, so the loop makes one pass.
  have pending : s.buf.readIdx + 1 - s.buf.readIdx = 1#32 := by bv_omega
  simp only [processSharedBufferPackets, one, pending]
  rfl

/-- One pass of the drain outside ESTOP is the work on the slot's image. -/
theorem drainSlot_of_slot {s : MuscleV1} (now readIdx : BitVec 32) (notLatched : s.estopActive = false)
    {image : PacketImage} (slot : s.buf.packets (sharedBufferSlotIndex readIdx) = image) :
    s.drainSlot now readIdx =
      { s.processPacket now image with buf := { (s.processPacket now image).buf with readIdx := readIdx + 1 } } := by
  -- Outside ESTOP the pass works on the slot and moves `read_idx` on.
  simp [drainSlot, notLatched, slot]

/-- The drain's work on a sealed packet with the protocol's header: a stale one is only
counted; a fresh one feeds the watchdog, then latches ESTOP or drives the servos to its pose and
records its `seq`. -/
theorem processPacket_sealed (now : BitVec 32) {pkt : PosePacket31} (magic : pkt.magic = spiderMagic)
    (major : pkt.verMajor = spiderVersionMajor) (minor : pkt.verMinor = spiderVersionMinor)
    (sealed : pkt.crc16 = crc16CcittFalse pkt.header) (s : MuscleV1) :
    s.processPacket now pkt.bytes =
      if isStale s.rx.lastSeq pkt.seq then { s with rx := s.rx.drop }
      else if hasFlag pkt.flags flagEstop then (s.handleHeartbeat now).handleEstop
      else { s.handleHeartbeat now with
        pwm :=
  -- A sealed packet passes the header and CRC checks; only the sequence check is left.
  s.pwm ++ writePose pkt.servoUs
        rx := { s.rx with lastSeq := pkt.seq, rxCount := s.rx.rxCount + 1 } } := by
  unfold processPacket
  rw [← PosePacket31.seal_of_sealed sealed, validatePacket_seal magic major minor]
  by_cases stale : isStale s.rx.lastSeq pkt.seq <;>
    simp [stale, PosePacket31.ofBytes_bytes, handleHeartbeat, applyServoValues]

/-- The drain's work on a refused image changes only the fault bit of the failed check and the
drop count. -/
theorem processPacket_refused (now : BitVec 32) {image : PacketImage} {s : MuscleV1}
    (refused : refuses s.rx.lastSeq image = true) :
    s.processPacket now image =
      { s with watchdog := { s.watchdog with faults := refusalFaults s.watchdog.faults image }, rx := s.rx.drop } := by
  -- `validate_packet` returns nonzero, so nothing after it runs.
  obtain ⟨nonzero, rest⟩ := validatePacket_refused s.watchdog.faults refused
  unfold processPacket
  generalize validatePacket s.watchdog.faults s.rx image = result at nonzero rest ⊢
  obtain ⟨code, faults, rx⟩ := result
  simp only [Prod.mk.injEq] at rest
  obtain ⟨rfl, rfl⟩ := rest
  simp [nonzero]

/-- `write_idx` and the slots: the half of the ring only the producer writes. -/
def producerHalf (s : MuscleV1) : BitVec 32 × (Fin 8 → PacketImage) := (s.buf.writeIdx, s.buf.packets)

/-- Checking, applying or latching ESTOP on a packet leaves the producer's half of the ring alone. -/
theorem processPacket_producerHalf (now : BitVec 32) (image : PacketImage) (s : MuscleV1) :
    (s.processPacket now image).producerHalf = s.producerHalf := by
  -- No branch of the work on a packet writes the ring.
  unfold processPacket
  generalize validatePacket s.watchdog.faults s.rx image = result
  obtain ⟨code, faults, rx⟩ := result
  dsimp only
  split_ifs <;> rfl

/-- The drain moves only `read_idx`, and touches neither `write_idx` nor the slots. -/
theorem drainFrom_producerHalf (now : BitVec 32) :
    ∀ (n : Nat) (readIdx : BitVec 32) (s : MuscleV1), (s.drainFrom now n readIdx).producerHalf = s.producerHalf
  -- Induction on the passes: each writes only `read_idx`.
  | 0, _, _ => rfl
  | n + 1, readIdx, s => by
    rw [drainFrom, drainFrom_producerHalf now n]
    unfold drainSlot
    split_ifs
    · rfl
    · exact processPacket_producerHalf now _ s

/-- No call of the runtime writes the producer's half of the ring. -/
theorem mailboxCmdHandler_producerHalf (now : BitVec 32) (cmdId : BitVec 8) (s : MuscleV1) :
    (s.mailboxCmdHandler now cmdId).producerHalf = s.producerHalf := by
  -- The handler's only work on the ring is the drain.
  unfold mailboxCmdHandler
  split_ifs <;> first | rfl | exact drainFrom_producerHalf now _ _ s

/-- The motion task's drain does not write the producer's half of the ring either. -/
theorem motionTaskIteration_producerHalf (now : BitVec 32) (s : MuscleV1) :
    (s.motionTaskIteration now).producerHalf = s.producerHalf := by
  -- The task's only work on the ring is the drain.
  unfold motionTaskIteration
  split_ifs
  · rfl
  · exact drainFrom_producerHalf now _ _ s

/-- The drain's work on an image every check passes: feed the watchdog, then latch ESTOP, or
apply the servos and record `seq`. -/
theorem processPacket_accepted (now : BitVec 32) {image : PacketImage} {s : MuscleV1}
    (passed : refuses s.rx.lastSeq image = false) :
    s.processPacket now image =
      if hasFlag (PosePacket31.ofBytes image).flags flagEstop then (s.handleHeartbeat now).handleEstop
      else { s.handleHeartbeat now with
        pwm :=
  -- `validate_packet` returns 0, so the packet is applied.
  s.pwm ++ applyServoValues (PosePacket31.ofBytes image)
        rx := { s.rx with lastSeq := (PosePacket31.ofBytes image).seq, rxCount := s.rx.rxCount + 1 } } := by
  simp [processPacket, validatePacket_accepted _ passed, handleHeartbeat]

/-- One pass of the drain on a refused slot changes only the fault bit of the failed check, the
drop count and `read_idx`. -/
theorem drainSlot_refused (now readIdx : BitVec 32) {s : MuscleV1} (notLatched : s.estopActive = false)
    (refused : refuses s.rx.lastSeq (s.buf.packets (sharedBufferSlotIndex readIdx)) = true) :
    s.drainSlot now readIdx =
      { s with
        watchdog :=
  -- The pass works on the refused slot and moves `read_idx` on.
  { s.watchdog with
          faults := refusalFaults s.watchdog.faults (s.buf.packets (sharedBufferSlotIndex readIdx)) }
        rx := s.rx.drop
        buf := { s.buf with readIdx := readIdx + 1 } } := by
  rw [drainSlot_of_slot now readIdx notLatched rfl, processPacket_refused now refused]

/-- The `seq` of every packet `validate_packet` accepts (returns `0` for) when the drain is handed
`images` one after another: a latched runtime skips them, and each accepted packet updates the
state as `process_shared_buffer_packets` does. -/
def acceptedSeqs (now : BitVec 32) : List PacketImage → MuscleV1 → List (BitVec 32)
  | [], _ => []
  | image :: images, s =>
    if s.estopActive then acceptedSeqs now images s
    else
      (if (validatePacket s.watchdog.faults s.rx image).1 = 0 then [(PosePacket31.ofBytes image).seq] else []) ++
        acceptedSeqs now images (s.processPacket now image)

/-- A latched runtime accepts nothing more. -/
theorem acceptedSeqs_latched (now : BitVec 32) {s : MuscleV1} (latched : s.estopActive = true) :
    ∀ images, acceptedSeqs now images s = []
  -- Induction on the images: a latched runtime skips each one.
  | [] => rfl
  | image :: images => by rw [acceptedSeqs, if_pos latched, acceptedSeqs_latched now latched images]

/-- The packets `validate_packet` accepts keep the order, after any earlier ones up to
`g_last_seq`. -/
theorem acceptedSeqs_pairwise (now : BitVec 32) :
    ∀ (images : List PacketImage) (s : MuscleV1) (earlier : List (BitVec 32)),
      earlier.Pairwise SeqOrder → (∀ a ∈ earlier, a ≤ s.rx.lastSeq) →
      (earlier ++ acceptedSeqs now images s).Pairwise SeqOrder
  -- Induction on the images, carrying the bound by `g_last_seq`.
  | [], _, earlier, ordered, _ => by simpa [acceptedSeqs] using ordered
  | image :: images, s, earlier, ordered, below => by
    -- An accepted ESTOP packet latches the runtime and ends the sequence; any other accepted
    -- packet records its `seq`, and a refused one changes no `g_last_seq`.
    by_cases latched : s.estopActive
    · rw [acceptedSeqs, if_pos latched]
      exact acceptedSeqs_pairwise now images s earlier ordered below
    rw [acceptedSeqs, if_neg latched]
    by_cases passed : refuses s.rx.lastSeq image = false
    · have fresh : isStale s.rx.lastSeq (PosePacket31.ofBytes image).seq = false := by
        simp only [refuses, Bool.or_eq_false_iff] at passed; exact passed.2
      obtain ⟨after, upTo⟩ := SeqOrder.of_fresh fresh below
      have appended : (earlier ++ [(PosePacket31.ofBytes image).seq]).Pairwise SeqOrder :=
        List.pairwise_append.mpr ⟨ordered, List.pairwise_singleton _ _,
          fun a member b new => by rw [List.mem_singleton.mp new]; exact after a member⟩
      rw [validatePacket_accepted _ passed, if_pos rfl, ← List.append_assoc, processPacket_accepted now passed]
      split
      · rw [acceptedSeqs_latched now rfl, List.append_nil]
        exact appended
      · exact acceptedSeqs_pairwise now images _ _ appended upTo
    · have refused := Bool.eq_true_of_not_eq_false passed
      rw [if_neg (validatePacket_refused s.watchdog.faults refused).1, List.nil_append,
        processPacket_refused now refused]
      exact acceptedSeqs_pairwise now images _ earlier ordered below

end MuscleV1

/--
A sealed packet image with one to three of its 336 bits flipped is refused by both receivers,
by the magic, version or CRC check: `validate_packet` returns one of its first three codes, and
the drain's work on the slot neither feeds the watchdog, nor drives a servo, nor latches ESTOP;
`validate_and_queue_packet` returns one of its first three codes and queues nothing.
-/
theorem corrupted_image_rejected {image : PacketImage} (sized : image.length = 42)
    (sealed : crc16CcittFalse (image.take 40) = readLe16 image 40)
    {errors : List (Fin 42 × Fin 8)} (distinct : errors.Nodup) (nonempty : errors ≠ [])
    (few : errors.length ≤ 3) (now : BitVec 32) (s : MuscleV1) (faults : BitVec 32)
    (rx : Receiver) (queue : List PosePacket31) :
    (validatePacket faults rx (corrupt image errors)).1 ∈ [-1, -2, -3] ∧
    (s.processPacket now (corrupt image errors)).watchdog.lastFeedTick = s.watchdog.lastFeedTick ∧
    (s.processPacket now (corrupt image errors)).watchdog.state = s.watchdog.state ∧
    (s.processPacket now (corrupt image errors)).pwm = s.pwm ∧
    (s.processPacket now (corrupt image errors)).estopActive = s.estopActive ∧
    (validateAndQueuePacket faults rx queue (corrupt image errors)).1 ∈ [-1, -2, -3] ∧
    (validateAndQueuePacket faults rx queue (corrupt image errors)).2.2.2 = queue := by
  -- Few flipped bits change the CRC, so one of the first three checks fails.
  obtain ⟨⟨code, fault⟩, failed⟩ := Option.isSome_iff_exists.mp
    (packetFault_of_crc (crc_mismatch_of_few_flips sized sealed distinct nonempty few))
  have listed : code ∈ [-1, -2, -3] := by rcases packetFault_code failed with h | h | h <;> simp [h]
  simp only [validatePacket_of_fault failed, MuscleV1.processPacket_of_fault failed,
    validateAndQueuePacket_of_fault failed, and_true, true_and]
  exact ⟨listed, listed⟩

/-- The neutral packet of the tests, sealed and with its first bit flipped, is refused. -/
theorem corrupted_neutral_packet_rejected :
    (posepacket31Init 1).seal.bytes.length = 42 ∧
    crc16CcittFalse ((posepacket31Init 1).seal.bytes.take 40) = readLe16 (posepacket31Init 1).seal.bytes 40 ∧
    (validatePacket 0 Receiver.init (corrupt (posepacket31Init 1).seal.bytes [(0, 0)])).1 ∈ [-1, -2, -3] :=
  -- The sealed neutral packet meets the theorem's conditions.
  ⟨PosePacket31.length_bytes _, PosePacket31.sealed_seal _,
    (corrupted_image_rejected (PosePacket31.length_bytes _) (PosePacket31.sealed_seal _)
      (List.nodup_singleton _) (List.cons_ne_nil _ _) (by decide) 0 (MuscleV1.init 0 ⟨0, 0, 0, fun _ => []⟩)
      0 Receiver.init []).1⟩

/--
The order of accepted packets, as both receivers keep it, from any state and over any sequence of
packets: each `seq` that `validate_packet` (with the runtime's ESTOP latch and its `g_last_seq`
updates) or `validate_and_queue_packet` (whatever the queue holds at each call) accepts is above
every `seq` accepted before it, unless both are `0`: while `last_seq` is `0`, the sequence check
passes every packet.
-/
theorem accepted_seqs_ordered (now : BitVec 32) (images : List PacketImage) (s : MuscleV1) (faults : BitVec 32)
    (presented : List (PacketImage × List PosePacket31)) (rx : Receiver) :
    (MuscleV1.acceptedSeqs now images s).Pairwise SeqOrder ∧ (queuedSeqs faults presented rx).Pairwise SeqOrder :=
  -- With nothing accepted before, both inductions start from the empty prefix.
  ⟨by simpa using MuscleV1.acceptedSeqs_pairwise now images s [] .nil (by simp),
    by simpa using queuedSeqs_pairwise presented faults rx [] .nil (by simp)⟩

/-- From the start, both receivers accept two packets that both carry `seq` `0`. -/
theorem seq_zero_accepted_twice :
    MuscleV1.acceptedSeqs 0 [(posepacket31Init 0#32).seal.bytes, (posepacket31Init 0#32).seal.bytes]
        (MuscleV1.init 0 ⟨0, 0, 0, fun _ => []⟩) = [0#32, 0#32] ∧
      queuedSeqs 0 [((posepacket31Init 0#32).seal.bytes, []), ((posepacket31Init 0#32).seal.bytes, [])]
        Receiver.init = [0#32, 0#32] := by
  -- The packet is sealed and fresh after `last_seq = 0`, and accepting it leaves `last_seq` at `0`.
  have clean : packetFault (posepacket31Init 0#32).seal.bytes = none := packetFault_seal rfl rfl rfl
  have passes : ∀ rx : Receiver, rx.lastSeq = 0 → refuses rx.lastSeq (posepacket31Init 0#32).seal.bytes = false := by
    intro rx zero
    simp [refuses, clean, PosePacket31.ofBytes_bytes, isStale, zero]
  have once : ∀ s : MuscleV1, s.estopActive = false → s.rx.lastSeq = 0 →
      (validatePacket s.watchdog.faults s.rx (posepacket31Init 0#32).seal.bytes).1 = 0 ∧
      (s.processPacket 0 (posepacket31Init 0#32).seal.bytes).estopActive = false ∧
      (s.processPacket 0 (posepacket31Init 0#32).seal.bytes).rx.lastSeq = 0 := by
    intro s notLatched zero
    rw [validatePacket_accepted _ (passes s.rx zero), MuscleV1.processPacket_accepted 0 (passes s.rx zero),
      PosePacket31.ofBytes_bytes]
    simp [notLatched, MuscleV1.handleHeartbeat, posepacket31Init, hasFlag, flagClampEnable, flagEstop]
  constructor
  · obtain ⟨first, latch, zero⟩ := once (MuscleV1.init 0 ⟨0, 0, 0, fun _ => []⟩) rfl rfl
    obtain ⟨second, -, -⟩ := once _ latch zero
    have start : (MuscleV1.init 0 ⟨0, 0, 0, fun _ => []⟩).estopActive = false := rfl
    rw [MuscleV1.acceptedSeqs, if_neg (ne_true_of_eq_false start), if_pos first, MuscleV1.acceptedSeqs,
      if_neg (ne_true_of_eq_false latch), if_pos second, MuscleV1.acceptedSeqs, PosePacket31.ofBytes_bytes]
    rfl
  · have queued := validateAndQueuePacket_accepted 0 [] (passes Receiver.init rfl)
    rw [queuedSeqs, queued, if_pos (by decide), queuedSeqs,
      validateAndQueuePacket_accepted _ [] (passes _ (by rw [PosePacket31.ofBytes_bytes]; rfl)), if_pos (by decide),
      queuedSeqs, PosePacket31.ofBytes_bytes]
    rfl

end Milkspider
