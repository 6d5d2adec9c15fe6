import Milkspider.System.ArchivePipeline

/-! The two real-time runtimes side by side, `app_main_v1.c` and the archived `motion_task.c`:
refused packets and heartbeat timeouts. -/

namespace Milkspider

/-! ## A refused packet is only counted -/

/--
A packet that `validate_packet` or `validate_and_queue_packet` refuses, for its magic, its
version, its CRC or a stale `seq`, changes nothing but the fault bit of the failed check (none
for a stale `seq`), the drop count and the `read_idx` that consumes its slot: `last_seq`, the
watchdog's last feed and state, the ESTOP latch, the motion queue, the motion task's poses and
the PWM writes stay as they are. In `app_main_v1.c` a slot reaches `validate_packet` only while
ESTOP is not latched.
-/
theorem refused_packet_only_counted :
    (∀ (now readIdx : BitVec 32) (s : MuscleV1), s.estopActive = false →
      refuses s.rx.lastSeq (s.buf.packets (sharedBufferSlotIndex readIdx)) = true →
      s.drainSlot now readIdx =
        { s with
          watchdog := { s.watchdog with
            faults := refusalFaults s.watchdog.faults (s.buf.packets (sharedBufferSlotIndex readIdx)) }
          rx := s.rx.drop
          buf := { s.buf with readIdx := readIdx + 1 } }) ∧
    (∀ (readIdx : BitVec 32) (p : ArchivePipeline),
      refuses p.rx.lastSeq (p.buf.packets (sharedBufferSlotIndex readIdx)) = true →
      p.drainSlot readIdx =
        { p with
          rt := { p.rt with watchdog := { p.rt.watchdog with
            faults := refusalFaults p.rt.watchdog.faults (p.buf.packets (sharedBufferSlotIndex readIdx)) } }
          rx := p.rx.drop
          buf := { p.buf with readIdx := readIdx + 1 } }) :=
  -- Both receivers return from the failed check before anything else runs.
  ⟨fun now readIdx _ notLatched refused => MuscleV1.drainSlot_refused now readIdx notLatched refused,
    fun readIdx _ refused => ArchivePipeline.drainSlot_refused readIdx refused⟩

/-- A ring whose one pending slot holds an empty image, read as a packet of zero bytes. -/
def junkRing : SharedMotionBuffer PacketImage := ⟨1#32, 0#32, 0#32, fun _ => []⟩

/-- Both runtimes booted at tick 0 over `junkRing`: the empty image fails the magic check, and
draining its slot only counts it. -/
theorem empty_image_only_counted :
    ((MuscleV1.init 0#32 junkRing).estopActive = false ∧
      refuses (MuscleV1.init 0#32 junkRing).rx.lastSeq
        ((MuscleV1.init 0#32 junkRing).buf.packets (sharedBufferSlotIndex 0#32)) = true ∧
      (MuscleV1.init 0#32 junkRing).drainSlot 5#32 0#32 =
        { MuscleV1.init 0#32 junkRing with
          watchdog := { (MuscleV1.init 0#32 junkRing).watchdog with
            faults := refusalFaults (MuscleV1.init 0#32 junkRing).watchdog.faults
              ((MuscleV1.init 0#32 junkRing).buf.packets (sharedBufferSlotIndex 0#32)) }
          rx := (MuscleV1.init 0#32 junkRing).rx.drop
          buf := { (MuscleV1.init 0#32 junkRing).buf with readIdx := 0#32 + 1 } }) ∧
    (refuses (ArchivePipeline.init 0#32 junkRing).rx.lastSeq
        ((ArchivePipeline.init 0#32 junkRing).buf.packets (sharedBufferSlotIndex 0#32)) = true ∧
      (ArchivePipeline.init 0#32 junkRing).drainSlot 0#32 =
        { ArchivePipeline.init 0#32 junkRing with
          rt := { (ArchivePipeline.init 0#32 junkRing).rt with watchdog := { (ArchivePipeline.init 0#32 junkRing).rt.watchdog with
            faults := refusalFaults (ArchivePipeline.init 0#32 junkRing).rt.watchdog.faults
              ((ArchivePipeline.init 0#32 junkRing).buf.packets (sharedBufferSlotIndex 0#32)) } }
          rx := (ArchivePipeline.init 0#32 junkRing).rx.drop
          buf := { (ArchivePipeline.init 0#32 junkRing).buf with readIdx := 0#32 + 1 } }) := by
  -- The image of zero bytes reads magic 0, so both checks refuse it.
  have refused : refuses 0#32 [] = true := by decide
  exact ⟨⟨rfl, refused, refused_packet_only_counted.1 _ _ _ rfl refused⟩,
    ⟨refused, refused_packet_only_counted.2 _ _ refused⟩⟩

/-! ## What a heartbeat timeout writes -/

/-- `set_all_servos_neutral` commands 1500 µs on each of the sixteen channels in turn. -/
theorem setAllServosNeutral_eq :
    MuscleV1.setAllServosNeutral = (List.finRange 16).map fun channel => ⟨channel, 1500#16⟩ := by
  -- The driver's clamp leaves 1500 µs as it is.
  simp only [MuscleV1.setAllServosNeutral, pca9685SetAllUs, pca9685SetPwmUs,
    clampServoUs_of_inRange servoPwmNeutralUs_inRange]
  rfl

/-- In `app_main_v1.c`, a late iteration of the watchdog task in `NORMAL` ends in `HOLD`, and its
timeout callback `on_watchdog_timeout` drives every channel neutral. -/
theorem MuscleV1.watchdogTask_timeout {now : BitVec 32} {s : MuscleV1} (normal : s.watchdog.state = .normal)
    (late : heartbeatTimeoutMs < now - s.watchdog.lastFeedTick) :
    (s.watchdogTask now).watchdog.state = .hold ∧ (s.watchdogTask now).pwm = s.pwm ++ MuscleV1.setAllServosNeutral := by
  -- The iteration that stores `TIMEOUT` is the one that runs the callback.
  have fired := (watchdogTaskIteration_late late).2 normal
  exact ⟨(watchdogTaskIteration_timeout normal late).1, by simp only [MuscleV1.watchdogTask, fired, if_true]⟩

end Milkspider
