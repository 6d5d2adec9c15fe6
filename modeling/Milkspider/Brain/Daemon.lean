import Milkspider.Runtime.MuscleV1

/-! The Linux-side daemon of `src/main.cpp`: its mailbox doorbells, the packets it builds and
writes into the shared ring, its ESTOP requests and its heartbeat tick. -/

namespace Milkspider

/-- The mailbox message of the `cvi-rtos-cmdqu` driver (`cmdqu_t`); `cmd_id` is a 7-bit field. -/
structure Cmdqu where
  ipId : BitVec 8
  cmdId : BitVec 7
  block : Bool
  paramPtr : BitVec 32
  deriving DecidableEq, Repr

/-- The daemon's mailbox (`Mailbox`): whether the device is open (`m_fd >= 0`) and the count
of commands sent. The driver is taken to accept every command it is handed. -/
structure Mailbox where
  fdOpen : Bool
  txCount : BitVec 32
  deriving DecidableEq, Repr

namespace Mailbox

/-- The motion doorbell of the Linux side (`CMD_MOTION_PACKET` of `mailbox.h`). -/
def cmdMotionPacket : BitVec 8 := 0x20#8

/-- The heartbeat doorbell of the Linux side (`CMD_HEARTBEAT` of `mailbox.h`). -/
def cmdHeartbeat : BitVec 8 := 0x22#8

/-- The ESTOP doorbell of the Linux side (`CMD_ESTOP` of `mailbox.h`). -/
def cmdEstop : BitVec 8 := 0x23#8

/-- Hand one command to the driver (`Mailbox::sendCommand`): the success flag, the mailbox and
the message sent, if any. -/
def sendCommand (cmdId : BitVec 8) (param : BitVec 32) (blocking : Bool) (m : Mailbox) :
    Bool × Mailbox × List Cmdqu :=
  if m.fdOpen then (true, { m with txCount := m.txCount + 1 }, [⟨0, cmdId.setWidth 7, blocking, param⟩])
  else (false, m, [])

/-- `Mailbox::notifyPacketReady`. -/
def notifyPacketReady (writeIdx : BitVec 32) (m : Mailbox) : Bool × Mailbox × List Cmdqu :=
  m.sendCommand cmdMotionPacket writeIdx false

/-- `Mailbox::sendEstop`. -/
def sendEstop (m : Mailbox) : Bool × Mailbox × List Cmdqu := m.sendCommand cmdEstop 0 false

/-- `Mailbox::sendHeartbeat`. -/
def sendHeartbeat (m : Mailbox) : Bool × Mailbox × List Cmdqu := m.sendCommand cmdHeartbeat 0 false

/-- Every message the mailbox sends carries the id it was given, cut to seven bits. -/
theorem sendCommand_ids {cmdId : BitVec 8} {param : BitVec 32} {blocking : Bool} {m : Mailbox} :
    ∀ msg ∈ (m.sendCommand cmdId param blocking).2.2, msg.cmdId = cmdId.setWidth 7 := by
  -- A closed mailbox sends nothing; an open one sends one message with the id cut.
  unfold sendCommand
  split <;> simp

end Mailbox

/-- `SharedMemory::writePacket` run without interruption: a full ring refuses the packet;
otherwise its image goes into the slot of `write_idx`, and `write_idx + 1` is stored and
returned. -/
def writePacket (pkt : PosePacket31) (buf : SharedMotionBuffer PacketImage) :
    Option (BitVec 32 × SharedMotionBuffer PacketImage) :=
  if ringFull buf.writeIdx buf.readIdx then none
  else some (buf.writeIdx + 1,
    { buf with
      packets := Function.update buf.packets (sharedBufferSlotIndex buf.writeIdx) pkt.bytes
      writeIdx := buf.writeIdx + 1 })

/-- The ring as `SharedMemory::map` leaves it: zero counters, flags and slots. -/
def zeroedRing : SharedMotionBuffer PacketImage := ⟨0, 0, 0, fun _ => List.replicate 42 0⟩

/-- The part of `BrainDaemon` that reaches the real-time side. -/
structure BrainDaemon where
  /-- `g_estop`. -/
  estop : Bool
  /-- `m_seq`, the last sequence number used. -/
  seq : BitVec 32
  /-- `m_last_heartbeat_ms`. -/
  lastHeartbeatMs : BitVec 64
  /-- `m_current_servos`. -/
  currentServos : Pose
  mailbox : Mailbox

/-- Heartbeat cadence of the daemon, in milliseconds (`HEARTBEAT_INTERVAL_MS`). -/
def heartbeatIntervalMs : BitVec 64 := 100#64

namespace BrainDaemon

/-- After `init` and the start of `run` at `startMs`: neutral servos, an open mailbox. -/
def init (startMs : BitVec 64) : BrainDaemon := ⟨false, 0, startMs, neutralPose, ⟨true, 0⟩⟩

/-- A packet with the next sequence number, the clamped servos, and its CRC
(`buildPosePacket`). -/
def buildPosePacket (tMs : BitVec 32) (flags : BitVec 16) (servos : Pose) (b : BrainDaemon) :
    PosePacket31 × BrainDaemon :=
  let seq := b.seq + 1
  ({ posepacket31Init seq with tMs := tMs, flags := flags, servoUs := clampPose servos }.seal,
    { b with seq := seq })

/-- `sendPosePacket`: during ESTOP only ESTOP packets go out; a packet the ring accepts is
announced with the new `write_idx`. -/
def sendPosePacket (pkt : PosePacket31) (b : BrainDaemon) (buf : SharedMotionBuffer PacketImage) :
    BrainDaemon × SharedMotionBuffer PacketImage × List Cmdqu :=
  if b.estop && !hasFlag pkt.flags flagEstop then (b, buf, [])
  else match writePacket pkt buf with
    | none => (b, buf, [])
    | some (writeIdx, written) =>
      let (_, mailbox, sent) := b.mailbox.notifyPacketReady writeIdx
      ({ b with mailbox := mailbox }, written, sent)

/-- A command that moves servos: the WebSocket `pose`, `servo`, `servos`, `move` and `scan`
commands and the serial `onSerialServo`, `onSerialServos`, `onSerialMove` and `onSerialScan`
callbacks differ only in these. -/
structure PoseRequest where
  /-- The new `m_current_servos`, from the old. -/
  servos : Pose → Pose
  tMs : BitVec 32
  /-- `FLAG_SCAN_ENABLE` for the scan commands, else nothing. -/
  extraFlags : BitVec 16
  scanOnly : extraFlags = 0 ∨ extraFlags = flagScanEnable

/-- The flags of a servo command's packet: `FLAG_CLAMP_ENABLE`, the command's own, and
`FLAG_ESTOP` while ESTOP is requested. -/
def poseFlags (request : PoseRequest) (b : BrainDaemon) : BitVec 16 :=
  flagClampEnable ||| request.extraFlags ||| (if b.estop then flagEstop else 0)

/-- The shared body of the servo commands: update the servos, build the packet and send it. -/
def handlePose (request : PoseRequest) (b : BrainDaemon) (buf : SharedMotionBuffer PacketImage) :
    BrainDaemon × SharedMotionBuffer PacketImage × List Cmdqu :=
  let servos := request.servos b.currentServos
  let (pkt, built) := { b with currentServos := servos }.buildPosePacket request.tMs (poseFlags request b) servos
  built.sendPosePacket pkt buf

/-- The packet a servo command builds. -/
def posePacket (request : PoseRequest) (b : BrainDaemon) : PosePacket31 :=
  (b.buildPosePacket request.tMs (poseFlags request b) (request.servos b.currentServos)).1

/-- A servo command's packet takes the next sequence number. -/
@[simp] theorem posePacket_seq (request : PoseRequest) (b : BrainDaemon) :
    (b.posePacket request).seq = b.seq + 1 :=
  -- `buildPosePacket` numbers the packet after the last one.
  rfl

/-- A servo command's packet carries the command's flags. -/
@[simp] theorem posePacket_flags (request : PoseRequest) (b : BrainDaemon) :
    (b.posePacket request).flags = poseFlags request b :=
  -- `buildPosePacket` copies the flags it is given.
  rfl

/-- A servo command's packet carries the clamped pose. -/
@[simp] theorem posePacket_servoUs (request : PoseRequest) (b : BrainDaemon) :
    (b.posePacket request).servoUs = clampPose (request.servos b.currentServos) :=
  -- `buildPosePacket` clamps the servos it is given.
  rfl

/-- A servo command's packet carries the CRC of its header. -/
theorem posePacket_sealed (request : PoseRequest) (b : BrainDaemon) :
    (b.posePacket request).crc16 = crc16CcittFalse (b.posePacket request).header :=
  -- `buildPosePacket` seals the packet last.
  PosePacket31.crc16_seal _

/-- A servo command's packet carries `FLAG_ESTOP` exactly while ESTOP is requested. -/
theorem hasFlag_poseFlags_estop (request : PoseRequest) (b : BrainDaemon) :
    hasFlag (poseFlags request b) flagEstop = b.estop := by
  -- Both flag words differ only in the ESTOP bit, which follows `g_estop`.
  unfold poseFlags
  rcases request.scanOnly with extra | extra <;> rw [extra] <;> cases b.estop <;> decide

/-- With the mailbox open and room in the ring, a servo command writes its sealed packet into the
slot of `write_idx`, stores `write_idx + 1` and rings the motion doorbell with it. -/
theorem handlePose_of_room (request : PoseRequest) {b : BrainDaemon}
    {buf : SharedMotionBuffer PacketImage} (opened : b.mailbox.fdOpen = true)
    (room : ringFull buf.writeIdx buf.readIdx = false) :
    b.handlePose request buf =
      ({ b with
          currentServos :=
  -- With room the ring takes the packet, and an open mailbox rings once.
  request.servos b.currentServos
          seq := b.seq + 1
          mailbox := { b.mailbox with txCount := b.mailbox.txCount + 1 } },
        { buf with
          packets := Function.update buf.packets (sharedBufferSlotIndex buf.writeIdx)
            (b.posePacket request).bytes
          writeIdx := buf.writeIdx + 1 },
        [⟨0, Mailbox.cmdMotionPacket.setWidth 7, false, buf.writeIdx + 1⟩]) := by
  simp [handlePose, posePacket, buildPosePacket, sendPosePacket, hasFlag_poseFlags_estop, writePacket, room,
    Mailbox.notifyPacketReady, Mailbox.sendCommand, opened]

/-- A servo command leaves the ESTOP request as it was. -/
theorem handlePose_estop (request : PoseRequest) (b : BrainDaemon) (buf : SharedMotionBuffer PacketImage) :
    (b.handlePose request buf).1.estop = b.estop := by
  -- No branch of the send touches `g_estop`.
  simp only [handlePose, sendPosePacket]
  split_ifs
  · rfl
  · split <;> rfl

/-- A servo command that moves `write_idx` on has written its packet into the slot of the old
`write_idx`. -/
theorem handlePose_written (request : PoseRequest) (b : BrainDaemon) (buf : SharedMotionBuffer PacketImage)
    (moved : (b.handlePose request buf).2.1.writeIdx ≠ buf.writeIdx) :
    (b.handlePose request buf).2.1.packets (sharedBufferSlotIndex buf.writeIdx) = (b.posePacket request).bytes := by
  -- Only the branch where `writePacket` accepts the packet moves `write_idx`.
  simp only [handlePose, sendPosePacket, writePacket] at moved ⊢
  split_ifs at moved ⊢
  · exact absurd rfl moved
  · exact absurd rfl moved
  · exact Function.update_same _ _ _

/-- An ESTOP request, from the WebSocket (`handleCommand` on `estop`) or the serial line
(`onSerialEstop`): latch `g_estop` and ring the ESTOP doorbell. -/
def handleEstop (b : BrainDaemon) : BrainDaemon × List Cmdqu :=
  let (_, mailbox, sent) := b.mailbox.sendEstop
  ({ b with estop := true, mailbox := mailbox }, sent)

/-- A resume request (`stop`, `resume` or `clear_estop`, or `onSerialResume`): clear `g_estop`. -/
def handleResume (b : BrainDaemon) : BrainDaemon := { b with estop := false }

/-- `tickHeartbeat` at `nowMs`: a heartbeat doorbell once `HEARTBEAT_INTERVAL_MS` has passed. -/
def tickHeartbeat (nowMs : BitVec 64) (b : BrainDaemon) : BrainDaemon × List Cmdqu :=
  if heartbeatIntervalMs ≤ nowMs - b.lastHeartbeatMs then
    let (_, mailbox, sent) := b.mailbox.sendHeartbeat
    ({ b with mailbox := mailbox, lastHeartbeatMs := nowMs }, sent)
  else (b, [])

end BrainDaemon

end Milkspider
