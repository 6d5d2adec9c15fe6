import Milkspider.Brain.Daemon

/-! The archived task manager of `brain_daemon_skeleton`: the packets it builds, and its transport
`IpcMuscleRpmsg::sendViaCmdqu` into the shared ring. -/

namespace Milkspider

/-- The part of `TaskManager` that reaches the real-time side. `m_current_pose_us` only ever holds
the neutral pose or a pose `convertLegacyToPose` clamped, so it stays in the servo range. -/
structure TaskManager where
  /-- `m_packet_seq`, the next sequence number. -/
  packetSeq : BitVec 32
  /-- `m_last_heartbeat_ms`. -/
  lastHeartbeatMs : BitVec 64
  /-- `m_current_pose_us`. -/
  currentPoseUs : Pose
  poseInRange : currentPoseUs.InRange
  /-- `m_estop_active`. -/
  estopActive : Bool

namespace TaskManager

/-- The constructor at `nowMs`: every servo neutral. -/
def init (nowMs : BitVec 64) : TaskManager := ⟨0, nowMs, neutralPose, neutralPose_inRange, false⟩

/-- The packet a sender hands to `m_muscle.send`: `posepacket31_init` with `m_packet_seq++`, the
sender's field writes, then the CRC. -/
def buildPacket (tMs : BitVec 32) (flags : BitVec 16) (servos : Pose) (tm : TaskManager) :
    PosePacket31 × TaskManager :=
  ({ posepacket31Init tm.packetSeq with tMs := tMs, flags := flags, servoUs := servos }.seal,
    { tm with packetSeq := tm.packetSeq + 1 })

/-- `sendPosePacket`: the current pose, the frame's `t_ms` (`20` past the sequence's end), and
`FLAG_CLAMP_ENABLE`. -/
def sendPosePacket (tMs : BitVec 32) (tm : TaskManager) : PosePacket31 × TaskManager :=
  tm.buildPacket tMs flagClampEnable tm.currentPoseUs

/-- `sendHeartbeat`: `FLAG_HOLD` with the current pose. -/
def sendHeartbeat (tm : TaskManager) : PosePacket31 × TaskManager :=
  tm.buildPacket 0 (flagClampEnable ||| flagHold) tm.currentPoseUs

/-- `estop`: latch `m_estop_active`, then a neutral packet with `FLAG_ESTOP`. -/
def estop (tm : TaskManager) : PosePacket31 × TaskManager :=
  { tm with estopActive := true }.buildPacket 0 (flagClampEnable ||| flagEstop) neutralPose

/-- The heartbeat part of `tick` at `nowMs`: a heartbeat once 100 ms have passed. -/
def tickHeartbeat (nowMs : BitVec 64) (tm : TaskManager) : Option PosePacket31 × TaskManager :=
  if 100 ≤ nowMs - tm.lastHeartbeatMs then
    let (pkt, sent) := tm.sendHeartbeat
    (some pkt, { sent with lastHeartbeatMs := nowMs })
  else (none, tm)

/-- A heartbeat carries `FLAG_HOLD` and no `FLAG_ESTOP`. -/
theorem sendHeartbeat_flags (tm : TaskManager) :
    hasFlag tm.sendHeartbeat.1.flags flagHold = true ∧ hasFlag tm.sendHeartbeat.1.flags flagEstop = false := by
  -- Sealing keeps the flags, and the heartbeat's word is CLAMP_ENABLE | HOLD.
  simp only [sendHeartbeat, buildPacket, PosePacket31.seal_flags]
  decide

end TaskManager

/-- `IpcMuscleRpmsg::sendViaCmdqu` with the device open and the `ioctl` accepted: a full ring sets
`SHARED_FLAG_OVERFLOW` and refuses the packet; otherwise its image goes into the slot of
`write_idx`, `write_idx + 1` is stored, and the motion doorbell carries it. -/
def IpcMuscleRpmsg.sendViaCmdqu (image : PacketImage) (buf : SharedMotionBuffer PacketImage) :
    Bool × SharedMotionBuffer PacketImage × List Cmdqu :=
  if ringFull buf.writeIdx buf.readIdx then (false, { buf with flags := buf.flags ||| sharedFlagOverflow }, [])
  else
    (true,
      { buf with
        packets := Function.update buf.packets (sharedBufferSlotIndex buf.writeIdx) image
        writeIdx := buf.writeIdx + 1 },
      [⟨0, SharedMotionBuffer.cmdMotionPacket.setWidth 7, false, buf.writeIdx + 1⟩])

/-- A packet `sendViaCmdqu` accepts is in the slot of the old `write_idx`. -/
theorem IpcMuscleRpmsg.sendViaCmdqu_slot {image : PacketImage} {buf : SharedMotionBuffer PacketImage}
    (sent : (IpcMuscleRpmsg.sendViaCmdqu image buf).1 = true) :
    (IpcMuscleRpmsg.sendViaCmdqu image buf).2.1.packets (sharedBufferSlotIndex buf.writeIdx) = image := by
  -- Only the branch with room accepts, and it writes that slot.
  unfold IpcMuscleRpmsg.sendViaCmdqu at *
  split at sent
  · cases sent
  · rw [if_neg ‹_›]
    exact Function.update_same _ _ _

/-- A packet `writePacket` accepts is in the slot of the old `write_idx`. -/
theorem writePacket_slot {pkt : PosePacket31} {buf : SharedMotionBuffer PacketImage} {writeIdx : BitVec 32}
    {written : SharedMotionBuffer PacketImage} (accepted : writePacket pkt buf = some (writeIdx, written)) :
    written.packets (sharedBufferSlotIndex buf.writeIdx) = pkt.bytes := by
  -- Only the branch with room accepts, and it writes that slot.
  unfold writePacket at accepted
  split at accepted
  · cases accepted
  · cases accepted
    exact Function.update_same _ _ _

/-! ## Both producers' images read back as built -/

/-- A sealed packet with the protocol's header, in a slot, reads back as itself, 42 bytes long,
and passes the magic, version and CRC checks. -/
theorem slot_reads_back {pkt : PosePacket31} (magic : pkt.magic = spiderMagic)
    (major : pkt.verMajor = spiderVersionMajor) (minor : pkt.verMinor = spiderVersionMinor) :
    pkt.seal.bytes.length = 42 ∧ PosePacket31.ofBytes pkt.seal.bytes = pkt.seal ∧ packetFault pkt.seal.bytes = none :=
  -- The three facts about a sealed packet's bytes.
  ⟨PosePacket31.length_bytes _, PosePacket31.ofBytes_bytes _, packetFault_seal magic major minor⟩

/--
The packets both producers build survive the ring: an image that `buildPosePacket` of
`src/main.cpp` builds for any `seq`, `t_ms`, flags and servos, once `writePacket` has copied it
into a slot, and an image that the task manager's `sendPosePacket` builds, once `sendViaCmdqu` has
copied it, are 42 bytes long, read back through the packed layout as the packet built, with magic
`0xB31A`, version 3.1, the `seq`, `t_ms` and flags given and every servo clamped, and pass the magic,
version and CRC checks of both receivers.
-/
theorem packet_image_round_trip :
    (∀ (b : BrainDaemon) (tMs : BitVec 32) (flags : BitVec 16) (servos : Pose)
      (buf written : SharedMotionBuffer PacketImage) (writeIdx : BitVec 32),
      writePacket (b.buildPosePacket tMs flags servos).1 buf = some (writeIdx, written) →
      (written.packets (sharedBufferSlotIndex buf.writeIdx)).length = 42 ∧
      PosePacket31.ofBytes (written.packets (sharedBufferSlotIndex buf.writeIdx)) =
        (b.buildPosePacket tMs flags servos).1 ∧
      (b.buildPosePacket tMs flags servos).1.magic = 0xB31A#16 ∧
      (b.buildPosePacket tMs flags servos).1.verMajor = 3#8 ∧ (b.buildPosePacket tMs flags servos).1.verMinor = 1#8 ∧
      (b.buildPosePacket tMs flags servos).1.seq = b.seq + 1 ∧ (b.buildPosePacket tMs flags servos).1.tMs = tMs ∧
      (b.buildPosePacket tMs flags servos).1.flags = flags ∧
      (b.buildPosePacket tMs flags servos).1.servoUs = clampPose servos ∧
      packetFault (written.packets (sharedBufferSlotIndex buf.writeIdx)) = none) ∧
    (∀ (tm : TaskManager) (tMs : BitVec 32) (buf : SharedMotionBuffer PacketImage),
      (IpcMuscleRpmsg.sendViaCmdqu (tm.sendPosePacket tMs).1.bytes buf).1 = true →
      ((IpcMuscleRpmsg.sendViaCmdqu (tm.sendPosePacket tMs).1.bytes buf).2.1.packets
        (sharedBufferSlotIndex buf.writeIdx)).length = 42 ∧
      PosePacket31.ofBytes ((IpcMuscleRpmsg.sendViaCmdqu (tm.sendPosePacket tMs).1.bytes buf).2.1.packets
        (sharedBufferSlotIndex buf.writeIdx)) = (tm.sendPosePacket tMs).1 ∧
      (tm.sendPosePacket tMs).1.magic = 0xB31A#16 ∧
      (tm.sendPosePacket tMs).1.verMajor = 3#8 ∧ (tm.sendPosePacket tMs).1.verMinor = 1#8 ∧
      (tm.sendPosePacket tMs).1.seq = tm.packetSeq ∧ (tm.sendPosePacket tMs).1.tMs = tMs ∧
      (tm.sendPosePacket tMs).1.flags = flagClampEnable ∧
      (tm.sendPosePacket tMs).1.servoUs = clampPose tm.currentPoseUs ∧
      packetFault ((IpcMuscleRpmsg.sendViaCmdqu (tm.sendPosePacket tMs).1.bytes buf).2.1.packets
        (sharedBufferSlotIndex buf.writeIdx)) = none) := by
  -- Each builder fills `posepacket31_init`'s header and seals; the slot then holds its image.
  refine ⟨fun b tMs flags servos buf written writeIdx accepted => ?_, fun tm tMs buf sent => ?_⟩
  · obtain ⟨length, back, clean⟩ := @slot_reads_back
      { posepacket31Init (b.seq + 1) with tMs := tMs, flags := flags, servoUs := clampPose servos } rfl rfl rfl
    rw [writePacket_slot accepted]
    exact ⟨length, back, rfl, rfl, rfl, rfl, rfl, rfl, rfl, clean⟩
  · obtain ⟨length, back, clean⟩ := @slot_reads_back
      { posepacket31Init tm.packetSeq with tMs := tMs, flags := flagClampEnable, servoUs := tm.currentPoseUs }
      rfl rfl rfl
    have clamped : clampPose tm.currentPoseUs = tm.currentPoseUs :=
      funext fun channel => clampServoUs_of_inRange (tm.poseInRange channel)
    rw [IpcMuscleRpmsg.sendViaCmdqu_slot sent, clamped]
    exact ⟨length, back, rfl, rfl, rfl, rfl, rfl, rfl, rfl, clean⟩

/-- A fresh daemon's first pose and a fresh task manager's first pose, both written into the
zeroed ring. -/
theorem first_poses_read_back :
    (∃ writeIdx written,
      writePacket ((BrainDaemon.init 0).buildPosePacket 100#32 flagClampEnable neutralPose).1 zeroedRing =
        some (writeIdx, written) ∧
      (written.packets (sharedBufferSlotIndex zeroedRing.writeIdx)).length = 42 ∧
      PosePacket31.ofBytes (written.packets (sharedBufferSlotIndex zeroedRing.writeIdx)) =
        ((BrainDaemon.init 0).buildPosePacket 100#32 flagClampEnable neutralPose).1 ∧
      ((BrainDaemon.init 0).buildPosePacket 100#32 flagClampEnable neutralPose).1.magic = 0xB31A#16 ∧
      ((BrainDaemon.init 0).buildPosePacket 100#32 flagClampEnable neutralPose).1.verMajor = 3#8 ∧
      ((BrainDaemon.init 0).buildPosePacket 100#32 flagClampEnable neutralPose).1.verMinor = 1#8 ∧
      ((BrainDaemon.init 0).buildPosePacket 100#32 flagClampEnable neutralPose).1.seq = (BrainDaemon.init 0).seq + 1 ∧
      ((BrainDaemon.init 0).buildPosePacket 100#32 flagClampEnable neutralPose).1.tMs = 100#32 ∧
      ((BrainDaemon.init 0).buildPosePacket 100#32 flagClampEnable neutralPose).1.flags = flagClampEnable ∧
      ((BrainDaemon.init 0).buildPosePacket 100#32 flagClampEnable neutralPose).1.servoUs = clampPose neutralPose ∧
      packetFault (written.packets (sharedBufferSlotIndex zeroedRing.writeIdx)) = none) ∧
    ((IpcMuscleRpmsg.sendViaCmdqu ((TaskManager.init 0).sendPosePacket 100#32).1.bytes zeroedRing).1 = true ∧
      ((IpcMuscleRpmsg.sendViaCmdqu ((TaskManager.init 0).sendPosePacket 100#32).1.bytes zeroedRing).2.1.packets
        (sharedBufferSlotIndex zeroedRing.writeIdx)).length = 42 ∧
      PosePacket31.ofBytes ((IpcMuscleRpmsg.sendViaCmdqu ((TaskManager.init 0).sendPosePacket 100#32).1.bytes
        zeroedRing).2.1.packets (sharedBufferSlotIndex zeroedRing.writeIdx)) = ((TaskManager.init 0).sendPosePacket 100#32).1 ∧
      ((TaskManager.init 0).sendPosePacket 100#32).1.magic = 0xB31A#16 ∧
      ((TaskManager.init 0).sendPosePacket 100#32).1.verMajor = 3#8 ∧
      ((TaskManager.init 0).sendPosePacket 100#32).1.verMinor = 1#8 ∧
      ((TaskManager.init 0).sendPosePacket 100#32).1.seq = (TaskManager.init 0).packetSeq ∧
      ((TaskManager.init 0).sendPosePacket 100#32).1.tMs = 100#32 ∧
      ((TaskManager.init 0).sendPosePacket 100#32).1.flags = flagClampEnable ∧
      ((TaskManager.init 0).sendPosePacket 100#32).1.servoUs = clampPose (TaskManager.init 0).currentPoseUs ∧
      packetFault ((IpcMuscleRpmsg.sendViaCmdqu ((TaskManager.init 0).sendPosePacket 100#32).1.bytes
        zeroedRing).2.1.packets (sharedBufferSlotIndex zeroedRing.writeIdx)) = none) := by
  -- The zeroed ring has room, so both copies succeed; the law then reads each slot back.
  obtain ⟨written, sent⟩ := packet_image_round_trip
  exact ⟨⟨_, _, rfl, written _ _ _ _ _ _ _ rfl⟩, ⟨rfl, sent _ _ _ rfl⟩⟩

end Milkspider
