import Milkspider.Motion.MotionTask
import Milkspider.Brain.TaskManager

/-! The archived real-time pipeline, from the task manager's packets through the shared ring and
`validate_and_queue_packet` to `motion_task_entry`. -/

namespace Milkspider

/-! ## A heartbeat stops a move -/

/--
A heartbeat packet of `TaskManager::sendHeartbeat` (`FLAG_HOLD`, the task manager's pose) that
the motion task accepts, from any state, feeds the watchdog and sets `HOLD`, leaving the poses
and the interpolator as they were and writing nothing. From then on, until the next packet,
whatever the watchdog does, the task never returns to `MOVING`, the poses and the move stay
frozen, and every iteration writes the pose it had when the heartbeat came.
-/
theorem heartbeat_freezes_move (F : FloatRounding) (now : BitVec 32) (s : MuscleArchive) (tm : TaskManager)
    (events : List ArchiveEvent) (noPackets : ∀ event ∈ events, event.delivers = false) :
    (s.motionTaskIteration F now (some tm.sendHeartbeat.1)).motion = { s.motion with state := .hold } ∧
    (s.motionTaskIteration F now (some tm.sendHeartbeat.1)).watchdog = watchdogFeed now s.watchdog ∧
    (s.motionTaskIteration F now (some tm.sendHeartbeat.1)).pwm = s.pwm ∧
    ((s.motionTaskIteration F now (some tm.sendHeartbeat.1)).run F events).motion =
      { s.motion with state := ((s.motionTaskIteration F now (some tm.sendHeartbeat.1)).run F events).motion.state } ∧
    ((s.motionTaskIteration F now (some tm.sendHeartbeat.1)).run F events).motion.state ≠ .moving ∧
    ((s.motionTaskIteration F now (some tm.sendHeartbeat.1)).run F events).pwm =
      s.pwm ++ events.flatMap fun event => if event.iterates then writePose s.motion.currentUs else [] := by
  -- The HOLD branch ends the iteration at once; the run after it is a frozen run.
  obtain ⟨hold, notEstop⟩ := TaskManager.sendHeartbeat_flags tm
  have held : (s.motionTaskIteration F now (some tm.sendHeartbeat.1)) =
      { s with watchdog := watchdogFeed now s.watchdog, motion := { s.motion with state := .hold } } := by
    simp [MuscleArchive.motionTaskIteration, hold, notEstop]
  obtain ⟨motion, frozen, -, pwm⟩ := MuscleArchive.run_frozen F (s := { s with
    watchdog := watchdogFeed now s.watchdog, motion := { s.motion with state := .hold } }) rfl noPackets
  rw [held]
  refine ⟨rfl, rfl, rfl, motion, fun moving => ?_, pwm⟩
  rw [moving] at frozen
  cases frozen

/-- The archived runtime a fifth of the way through a 100 ms Q16.16 move of every servo from
1500 µs to 2000 µs. -/
def midMove : MuscleArchive :=
  (MuscleArchive.init 0).motionTaskIteration .unrounded 0
    (some { posepacket31Init 1 with tMs := 100, flags := flagClampEnable ||| flagInterpQ16, servoUs := fun _ => 2000#16 })

/-- During a move that stands at 1599 µs and would go on to 1699 µs at the next iteration, a
heartbeat holds it at 1599 µs, and the next iteration writes 1599 µs again. -/
theorem heartbeat_holds_move_at_1599 :
    midMove.motion.state = .moving ∧ midMove.motion.currentUs 0 = 1599#16 ∧
    (midMove.motionTaskIteration .unrounded 20 none).motion.currentUs 0 = 1699#16 ∧
    (∀ event ∈ [ArchiveEvent.motion 40 none], event.delivers = false) ∧
    (midMove.motionTaskIteration .unrounded 20 (some (TaskManager.init 0).sendHeartbeat.1)).motion =
      { midMove.motion with state := .hold } ∧
    (midMove.motionTaskIteration .unrounded 20 (some (TaskManager.init 0).sendHeartbeat.1)).watchdog =
      watchdogFeed 20 midMove.watchdog ∧
    (midMove.motionTaskIteration .unrounded 20 (some (TaskManager.init 0).sendHeartbeat.1)).pwm = midMove.pwm ∧
    ((midMove.motionTaskIteration .unrounded 20 (some (TaskManager.init 0).sendHeartbeat.1)).run .unrounded
        [.motion 40 none]).motion =
      { midMove.motion with state := ((midMove.motionTaskIteration .unrounded 20
        (some (TaskManager.init 0).sendHeartbeat.1)).run .unrounded [.motion 40 none]).motion.state } ∧
    ((midMove.motionTaskIteration .unrounded 20 (some (TaskManager.init 0).sendHeartbeat.1)).run .unrounded
        [.motion 40 none]).motion.state ≠ .moving ∧
    ((midMove.motionTaskIteration .unrounded 20 (some (TaskManager.init 0).sendHeartbeat.1)).run .unrounded
        [.motion 40 none]).pwm =
      midMove.pwm ++ [ArchiveEvent.motion 40 none].flatMap fun event =>
        if event.iterates then writePose midMove.motion.currentUs else [] :=
  -- The move is concrete; the hold follows from the general statement.
  ⟨by decide, by decide, by decide, by decide,
    heartbeat_freezes_move .unrounded 20 midMove (TaskManager.init 0) [.motion 40 none] (by decide)⟩

/-- The heartbeat does not leave the move running: the task moving at 1599 µs, which would go on
to 1699 µs, is in `HOLD` after it, and the next iteration writes 1599 µs. -/
theorem heartbeat_stops_moving_task :
    midMove.motion.state = .moving ∧
    (midMove.motionTaskIteration .unrounded 20 none).motion.currentUs 0 = 1699#16 ∧
    (midMove.motionTaskIteration .unrounded 20 (some (TaskManager.init 0).sendHeartbeat.1)).motion.state = .hold ∧
    ((midMove.motionTaskIteration .unrounded 20 (some (TaskManager.init 0).sendHeartbeat.1)).motionTaskIteration
      .unrounded 40 none).motion.currentUs 0 = 1599#16 := by
  -- Each part is one evaluation of the motion task on the fixed run.
  decide

/-! ## The pipeline -/

/-- The archived runtime with its receive side: the motion task's statics and the watchdog,
`rpmsg_motion_rx.c`'s counters, `g_motion_queue` (oldest first), the shared ring, and the
doorbells on their way. -/
structure ArchivePipeline where
  rt : MuscleArchive
  rx : Receiver
  queue : List PosePacket31
  buf : SharedMotionBuffer PacketImage
  doorbells : List Cmdqu

/-- The images of `n` slots from `readIdx` on, in ring order. -/
def ringImages (packets : Fin 8 → PacketImage) : BitVec 32 → Nat → List PacketImage
  | _, 0 => []
  | readIdx, n + 1 => packets (sharedBufferSlotIndex readIdx) :: ringImages packets (readIdx + 1) n

namespace ArchivePipeline

/-- `app_main` at tick `boot` over a ring as the other side left it: `rpmsg_motion_rx_init`
zeroes `read_idx` and the counters and raises `SHARED_FLAG_MUSCLE_READY`. -/
def init (boot : BitVec 32) (buf : SharedMotionBuffer PacketImage) : ArchivePipeline :=
  ⟨MuscleArchive.init boot, Receiver.init, [], { buf with readIdx := 0, flags := buf.flags ||| sharedFlagMuscleReady },
    []⟩

/-- The images between `read_idx` and `write_idx`, oldest first: what the next drain reads. -/
def pending (p : ArchivePipeline) : List PacketImage :=
  ringImages p.buf.packets p.buf.readIdx (p.buf.writeIdx - p.buf.readIdx).toNat

/-- One pass of `rpmsg_motion_process_cmd`'s loop: `validate_and_queue_packet` on the image in
the slot of `readIdx`, its fault bits raised in the shared fault word, then `readIdx + 1`
stored. -/
def drainSlot (readIdx : BitVec 32) (p : ArchivePipeline) : ArchivePipeline :=
  let (_, faults, rx, queue) :=
    validateAndQueuePacket p.rt.watchdog.faults p.rx p.queue (p.buf.packets (sharedBufferSlotIndex readIdx))
  { p with
    rt := { p.rt with watchdog := { p.rt.watchdog with faults := faults } }
    rx := rx
    queue := queue
    buf := { p.buf with readIdx := readIdx + 1 } }

/-- `n` passes of the loop from a local `read_idx`. -/
def drainFrom : Nat → BitVec 32 → ArchivePipeline → ArchivePipeline
  | 0, _, p => p
  | n + 1, readIdx, p => drainFrom n (readIdx + 1) (p.drainSlot readIdx)

/-- `rpmsg_motion_process_cmd`: a motion doorbell drains the ring from `read_idx` until it meets
the `write_idx` it loaded; any other id is refused. -/
def rpmsgMotionProcessCmd (cmdId : BitVec 8) (p : ArchivePipeline) : ArchivePipeline :=
  if cmdId ≠ SharedMotionBuffer.cmdMotionPacket then p
  else p.drainFrom (p.buf.writeIdx - p.buf.readIdx).toNat p.buf.readIdx

/-- One iteration of `motion_task_entry`: `xQueueReceive` hands it the oldest queued packet, if
there is one. -/
def motionIteration (F : FloatRounding) (now : BitVec 32) (p : ArchivePipeline) : ArchivePipeline :=
  match p.queue with
  | [] => { p with rt := p.rt.motionTaskIteration F now none }
  | pkt :: later => { p with rt := p.rt.motionTaskIteration F now (some pkt), queue := later }

end ArchivePipeline

/-- What can happen next in the archived pipeline. -/
inductive PipelineEvent
  /-- `IpcMuscleRpmsg::sendViaCmdqu` of an image the task manager built. -/
  | send (image : PacketImage)
  /-- The oldest doorbell reaches `rpmsg_motion_process_cmd`. -/
  | deliver
  /-- An iteration of the motion task at a tick. -/
  | motion (now : BitVec 32)
  /-- An iteration of the watchdog task at a tick. -/
  | watchdogTask (now : BitVec 32)

namespace ArchivePipeline

/-- The pipeline after one event. -/
def step (F : FloatRounding) (p : ArchivePipeline) : PipelineEvent → ArchivePipeline
  | .send image =>
    let (_, buf, sent) := IpcMuscleRpmsg.sendViaCmdqu image p.buf
    { p with buf := buf, doorbells := p.doorbells ++ sent }
  | .deliver =>
    match p.doorbells with
    | [] => p
    | bell :: later => { p.rpmsgMotionProcessCmd (bell.cmdId.setWidth 8) with doorbells := later }
  | .motion now => p.motionIteration F now
  | .watchdogTask now => { p with rt := p.rt.watchdogTask now }

/-- The pipeline after a sequence of events. -/
def run (F : FloatRounding) (p : ArchivePipeline) (events : List PipelineEvent) : ArchivePipeline :=
  events.foldl (step F) p

/-! ## A burst beyond the queue -/

/-- A packet that passes every check and finds the queue with room is queued and its `seq`
recorded; one that finds the queue full is dropped, and its `seq` recorded all the same. -/
theorem drainSlot_fresh {readIdx : BitVec 32} {p : ArchivePipeline}
    (clean : packetFault (p.buf.packets (sharedBufferSlotIndex readIdx)) = none)
    (fresh : p.rx.lastSeq < (PosePacket31.ofBytes (p.buf.packets (sharedBufferSlotIndex readIdx))).seq) :
    (p.drainSlot readIdx).rt = p.rt ∧
    (p.drainSlot readIdx).queue =
      p.queue ++ [PosePacket31.ofBytes (p.buf.packets (sharedBufferSlotIndex readIdx))].take
        (motionQueueLength - p.queue.length) ∧
    (p.drainSlot readIdx).rx.lastSeq = (PosePacket31.ofBytes (p.buf.packets (sharedBufferSlotIndex readIdx))).seq ∧
    (p.drainSlot readIdx).buf = { p.buf with readIdx := readIdx + 1 } ∧
    (p.drainSlot readIdx).doorbells = p.doorbells := by
  -- A newer `seq` is never stale, so only the room in the queue decides.
  have passed : refuses p.rx.lastSeq (p.buf.packets (sharedBufferSlotIndex readIdx)) = false := by
    simp only [refuses, clean, isStale, Option.isSome_none, Bool.false_or, Bool.and_eq_false_iff,
      decide_eq_false_iff_not, BitVec.not_le]
    exact .inl fresh
  unfold drainSlot
  rw [validateAndQueuePacket_accepted _ _ passed]
  by_cases room : p.queue.length < motionQueueLength
  · rw [if_pos room, show motionQueueLength - p.queue.length = (motionQueueLength - p.queue.length - 1) + 1 by omega,
      List.take_succ_cons, List.take_nil]
    exact ⟨rfl, rfl, rfl, rfl, rfl⟩
  · rw [if_neg room, show motionQueueLength - p.queue.length = 0 by omega, List.take_zero, List.append_nil]
    exact ⟨rfl, rfl, rfl, rfl, rfl⟩

/-- A packet one of the four checks refuses changes only the fault bit of the failed check, the
drop count and `read_idx`: the queue, `s_last_seq` and the motion task stay as they are. -/
theorem drainSlot_refused (readIdx : BitVec 32) {p : ArchivePipeline}
    (refused : refuses p.rx.lastSeq (p.buf.packets (sharedBufferSlotIndex readIdx)) = true) :
    p.drainSlot readIdx =
      { p with
        rt := { p.rt with watchdog := { p.rt.watchdog with
          faults := refusalFaults p.rt.watchdog.faults (p.buf.packets (sharedBufferSlotIndex readIdx)) } }
        rx := p.rx.drop
        buf := { p.buf with readIdx := readIdx + 1 } } := by
  -- `validate_and_queue_packet` returns before it touches `s_last_seq` or the queue.
  obtain ⟨-, rest⟩ := validateAndQueuePacket_refused p.rt.watchdog.faults p.queue refused
  unfold drainSlot
  generalize validateAndQueuePacket p.rt.watchdog.faults p.rx p.queue
    (p.buf.packets (sharedBufferSlotIndex readIdx)) = result at rest ⊢
  obtain ⟨code, faults, rx, queue⟩ := result
  simp only [Prod.mk.injEq] at rest
  obtain ⟨rfl, rfl, rfl⟩ := rest
  rfl

/-- Draining a burst of packets that pass every check, each with a larger `seq` than the one
before, queues as many as the queue has room for, drops the rest, and records the `seq` of the
last one. -/
theorem drainFrom_burst {n : Nat} {readIdx : BitVec 32} {p : ArchivePipeline} (start : p.buf.readIdx = readIdx)
    (clean : ∀ image ∈ ringImages p.buf.packets readIdx n, packetFault image = none)
    (increasing : ((ringImages p.buf.packets readIdx n).map fun image => (PosePacket31.ofBytes image).seq).Chain
      (· < ·) p.rx.lastSeq) :
    (p.drainFrom n readIdx).rt = p.rt ∧
    (p.drainFrom n readIdx).queue =
      p.queue ++ ((ringImages p.buf.packets readIdx n).map PosePacket31.ofBytes).take
        (motionQueueLength - p.queue.length) ∧
    (p.drainFrom n readIdx).rx.lastSeq =
      ((ringImages p.buf.packets readIdx n).map fun image => (PosePacket31.ofBytes image).seq).getLastD p.rx.lastSeq ∧
    (p.drainFrom n readIdx).buf = { p.buf with readIdx := readIdx + BitVec.ofNat 32 n } ∧
    (p.drainFrom n readIdx).doorbells = p.doorbells := by
  -- One slot at a time, as `bounded_prefix_fold` counts a prefix: the room left shrinks by one
  -- with each packet queued.
  induction n generalizing readIdx p with
  | zero =>
    subst start
    exact ⟨rfl, by simp [drainFrom, ringImages], rfl, by simp [drainFrom], rfl⟩
  | succ n ih =>
    simp only [ringImages, List.mem_cons, forall_eq_or_imp, List.map_cons, List.chain_cons] at clean increasing
    obtain ⟨rt, queue, lastSeq, buf, doorbells⟩ := drainSlot_fresh clean.1 increasing.1
    have packets : (p.drainSlot readIdx).buf.packets = p.buf.packets := by rw [buf]
    obtain ⟨rt', queue', lastSeq', buf', doorbells'⟩ := ih (p := p.drainSlot readIdx) (by rw [buf]) (packets ▸ clean.2)
      (by rw [lastSeq, packets]; exact increasing.2)
    rw [packets] at queue' lastSeq'
    refine ⟨rt'.trans rt, ?_, ?_, ?_, doorbells'.trans doorbells⟩
    · rw [drainFrom, queue', queue, ringImages, List.map_cons]
      by_cases room : p.queue.length < motionQueueLength
      · have shrinks : motionQueueLength - p.queue.length = (motionQueueLength - (p.queue.length + 1)) + 1 := by omega
        rw [shrinks, List.take_succ_cons, List.take_succ_cons, List.take_nil, List.length_append, List.length_singleton,
          List.append_assoc, List.singleton_append]
      · have full : motionQueueLength - p.queue.length = 0 := by omega
        rw [full, List.take_zero, List.take_zero, List.append_nil, full, List.take_zero, List.append_nil]
    · rw [drainFrom, lastSeq', lastSeq, ringImages, List.map_cons, List.getLastD_cons]
    · rw [drainFrom, buf', buf, show readIdx + 1 + BitVec.ofNat 32 n = readIdx + BitVec.ofNat 32 (n + 1) by bv_omega]

/-- A queue of packets that each ask for at most one period, with neither ESTOP nor HOLD, is
worked off one packet per iteration of the motion task, and the task ends `IDLE` on the clamped
servos of the last. -/
theorem run_short_moves (F : FloatRounding) {times : List (BitVec 32)} :
    ∀ {p : ArchivePipeline}, p.rt.watchdog.state ≠ .estop →
      (∀ pkt ∈ p.queue, hasFlag pkt.flags flagEstop = false ∧ hasFlag pkt.flags flagHold = false ∧ pkt.tMs ≤ 20#32) →
      times.length = p.queue.length → ∀ {last : PosePacket31}, p.queue.getLast? = some last →
      (p.run F (times.map .motion)).queue = [] ∧ (p.run F (times.map .motion)).buf = p.buf ∧
      (p.run F (times.map .motion)).rt.motion.state = .idle ∧
      (p.run F (times.map .motion)).rt.motion.currentUs = clampPose last.servoUs := by
  -- Each iteration takes the head of the queue and completes its move before the next.
  induction times with
  | nil =>
    intro p _ _ each last isLast
    simp [List.length_eq_zero.mp each.symm] at isLast
  | cons now times ih =>
    intro p running short each last isLast
    obtain ⟨pkt, rest, queue⟩ := List.exists_cons_of_length_pos (l := p.queue) (by simp [← each])
    obtain ⟨notEstop, notHold, short'⟩ := short pkt (by simp [queue])
    obtain ⟨current, idle, normal⟩ := p.rt.motionTaskIteration_short F now running notEstop notHold short'
    have stepped : p.step F (.motion now) = { p with rt := p.rt.motionTaskIteration F now (some pkt), queue := rest } := by
      simp only [step, motionIteration, queue]
    rw [List.map_cons, run, List.foldl_cons, ← run, stepped]
    cases rest with
    | nil =>
      have ends : times = [] := by simpa [queue] using each
      rw [queue, List.getLast?_singleton, Option.some.injEq] at isLast
      subst ends isLast
      exact ⟨rfl, rfl, idle, current⟩
    | cons next later =>
      rw [queue, List.getLast?_cons_cons] at isLast
      exact ih (by rw [normal]; exact nofun) (fun later' member => short later' (by rw [queue]; exact .tail _ member))
        (by simpa [queue] using each) isLast

/-- The drain stops where `write_idx` was. -/
theorem ofNat_sub_add (readIdx writeIdx : BitVec 32) :
    readIdx + BitVec.ofNat 32 (writeIdx - readIdx).toNat = writeIdx := by
  -- Adding the difference back is exact modulo 2^32.
  bv_omega

end ArchivePipeline

/--
A burst larger than the motion queue loses its newest packets. From any state of the archived
pipeline, let the ring hold a burst of packets that pass the magic, version and CRC checks, each
with a larger `seq` than the last one recorded. A motion doorbell drains the whole ring: the queue
gains only as many packets as it had room for (`MOTION_QUEUE_LENGTH` is 4), the rest are dropped,
yet `s_last_seq` is the `seq` of the newest, and the motion task is left as it was.
-/
theorem burst_beyond_queue_dropped (p : ArchivePipeline)
    (clean : ∀ image ∈ p.pending, packetFault image = none)
    (increasing : (p.pending.map fun image => (PosePacket31.ofBytes image).seq).Chain (· < ·) p.rx.lastSeq) :
    (p.rpmsgMotionProcessCmd SharedMotionBuffer.cmdMotionPacket).queue =
      p.queue ++ (p.pending.map PosePacket31.ofBytes).take (motionQueueLength - p.queue.length) ∧
    (p.rpmsgMotionProcessCmd SharedMotionBuffer.cmdMotionPacket).rx.lastSeq =
      (p.pending.map fun image => (PosePacket31.ofBytes image).seq).getLastD p.rx.lastSeq ∧
    (p.rpmsgMotionProcessCmd SharedMotionBuffer.cmdMotionPacket).pending = [] ∧
    (p.rpmsgMotionProcessCmd SharedMotionBuffer.cmdMotionPacket).rt = p.rt := by
  -- The doorbell runs the loop over exactly the pending images.
  obtain ⟨rt, queue, lastSeq, buf, -⟩ := ArchivePipeline.drainFrom_burst rfl clean increasing
  simp only [ArchivePipeline.rpmsgMotionProcessCmd, ne_eq, not_true_eq_false, if_false]
  refine ⟨queue, lastSeq, ?_, rt⟩
  rw [ArchivePipeline.pending, buf, ArchivePipeline.ofNat_sub_add, BitVec.sub_self]
  rfl

/-- The `k`-th packet of a burst: every servo to `1500 + 100 k` µs within one period. -/
def burstPacket (k : Nat) : PosePacket31 :=
  { posepacket31Init (BitVec.ofNat 32 k) with tMs := 20, servoUs := fun _ => BitVec.ofNat 16 (1500 + 100 * k) }.seal

/-- The archived pipeline from its start after the task manager sent five such packets, `seq` 1
to 5, before any doorbell was delivered. -/
def burstPipeline : ArchivePipeline :=
  (ArchivePipeline.init 0 zeroedRing).run .unrounded ((List.range' 1 5).map fun k => .send (burstPacket k).bytes)

/-- A burst of five packets, one doorbell and four iterations of the motion task: the queue and
the ring are empty and the move is complete, with every servo at 1900 µs from the fourth packet,
while the fifth packet asked for 2000 µs and its `seq` 5 is recorded. -/
theorem burst_of_five_ends_on_fourth :
    (burstPipeline.rpmsgMotionProcessCmd SharedMotionBuffer.cmdMotionPacket).queue =
      [burstPacket 1, burstPacket 2, burstPacket 3, burstPacket 4] ∧
    (burstPipeline.rpmsgMotionProcessCmd SharedMotionBuffer.cmdMotionPacket).rx.lastSeq = 5#32 ∧
    ((burstPipeline.rpmsgMotionProcessCmd SharedMotionBuffer.cmdMotionPacket).run .unrounded
      [.motion 20, .motion 40, .motion 60, .motion 80]).queue = [] ∧
    ((burstPipeline.rpmsgMotionProcessCmd SharedMotionBuffer.cmdMotionPacket).run .unrounded
      [.motion 20, .motion 40, .motion 60, .motion 80]).pending = [] ∧
    ((burstPipeline.rpmsgMotionProcessCmd SharedMotionBuffer.cmdMotionPacket).run .unrounded
      [.motion 20, .motion 40, .motion 60, .motion 80]).rt.motion.state = .idle ∧
    ((burstPipeline.rpmsgMotionProcessCmd SharedMotionBuffer.cmdMotionPacket).run .unrounded
      [.motion 20, .motion 40, .motion 60, .motion 80]).rt.motion.currentUs = (fun _ => 1900#16) ∧
    clampPose (burstPacket 5).servoUs = fun _ => 2000#16 := by
  -- The five images pass every check with `seq` 1 to 5; the doorbell queues four of them.
  have pending : burstPipeline.pending = [(burstPacket 1).bytes, (burstPacket 2).bytes, (burstPacket 3).bytes,
      (burstPacket 4).bytes, (burstPacket 5).bytes] := rfl
  have seqs : (burstPipeline.pending.map fun image => (PosePacket31.ofBytes image).seq) = [1, 2, 3, 4, 5] := by
    simp only [pending, List.map_cons, List.map_nil, PosePacket31.ofBytes_bytes, burstPacket, PosePacket31.seal_seq]
    rfl
  have clean : ∀ image ∈ burstPipeline.pending, packetFault image = none := by
    rw [pending]
    simp only [List.mem_cons, List.not_mem_nil, or_false, forall_eq_or_imp, forall_eq]
    exact ⟨packetFault_seal rfl rfl rfl, packetFault_seal rfl rfl rfl, packetFault_seal rfl rfl rfl,
      packetFault_seal rfl rfl rfl, packetFault_seal rfl rfl rfl⟩
  have increasing :
      (burstPipeline.pending.map fun image => (PosePacket31.ofBytes image).seq).Chain (· < ·) burstPipeline.rx.lastSeq := by
    rw [seqs]
    simp only [List.chain_cons, List.Chain.nil, and_true]
    decide
  obtain ⟨queue, lastSeq, drained, rt⟩ := burst_beyond_queue_dropped burstPipeline clean increasing
  have queued : (burstPipeline.rpmsgMotionProcessCmd SharedMotionBuffer.cmdMotionPacket).queue =
      [burstPacket 1, burstPacket 2, burstPacket 3, burstPacket 4] := by
    simp only [queue, pending, List.map_cons, List.map_nil, PosePacket31.ofBytes_bytes]
    rfl
  have short : ∀ pkt ∈ (burstPipeline.rpmsgMotionProcessCmd SharedMotionBuffer.cmdMotionPacket).queue,
      hasFlag pkt.flags flagEstop = false ∧ hasFlag pkt.flags flagHold = false ∧ pkt.tMs ≤ 20#32 := by
    rw [queued]
    simp only [List.mem_cons, List.not_mem_nil, or_false, forall_eq_or_imp, forall_eq, burstPacket,
      PosePacket31.seal_flags, PosePacket31.seal_tMs]
    decide
  obtain ⟨emptied, buf, idle, current⟩ := @ArchivePipeline.run_short_moves .unrounded [20, 40, 60, 80] _
    (by rw [rt]; exact nofun) short (by rw [queued]; rfl) (burstPacket 4) (by rw [queued]; rfl)
  simp only [List.map_cons, List.map_nil] at emptied buf idle current
  refine ⟨queued, ?_, emptied, ?_, idle, ?_, ?_⟩
  · rw [lastSeq, seqs]
    rfl
  · rw [ArchivePipeline.pending, buf]
    exact drained
  · rw [current]
    funext channel
    simp only [burstPacket, PosePacket31.seal_servoUs, clampPose]
    decide
  · funext channel
    simp only [burstPacket, PosePacket31.seal_servoUs, clampPose]
    decide

end Milkspider
