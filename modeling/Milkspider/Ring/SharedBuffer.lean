import Mathlib.Data.List.Infix

/-! The shared motion ring and the two sides that access it, one shared load or store a step. -/

namespace Milkspider

/-- Number of packet slots in the ring (`PACKET_RING_SIZE`). -/
def packetRingSize : BitVec 32 := 8#32

/-- The real-time side's ready bit in the ring flags (`SHARED_FLAG_MUSCLE_READY`). -/
def sharedFlagMuscleReady : BitVec 32 := 2#32

/-- The real-time side's ESTOP bit in the ring flags (`SHARED_FLAG_ESTOP`). -/
def sharedFlagEstop : BitVec 32 := 4#32

/-- The producer's sticky overflow bit in the ring flags (`SHARED_FLAG_OVERFLOW`). -/
def sharedFlagOverflow : BitVec 32 := 8#32

/-- The shared header and slots of the ring (`SharedMotionBuffer`); a slot holds one packet. -/
structure SharedMotionBuffer (α : Type) where
  writeIdx : BitVec 32
  readIdx : BitVec 32
  flags : BitVec 32
  packets : Fin 8 → α

/-- The motion doorbell of the ring's header (`CMD_MOTION_PACKET` of `shared_motion_buffer.h`). -/
def SharedMotionBuffer.cmdMotionPacket : BitVec 8 := 0x20#8

/-- The slot a free-running counter addresses (`shared_buffer_slot_index`). -/
def sharedBufferSlotIndex (idx : BitVec 32) : Fin 8 :=
  ⟨idx.toNat % 8, Nat.mod_lt _ (by decide)⟩

/-- The fullness test of both producers (`(write_idx - read_idx) >= PACKET_RING_SIZE`). -/
def ringFull (writeIdx readIdx : BitVec 32) : Bool :=
  decide (packetRingSize ≤ writeIdx - readIdx)

/-- The two producer implementations of the Linux side. -/
inductive ProducerKind
  /-- `SharedMemory::writePacket` of the brain daemon. -/
  | writePacket
  /-- `IpcMuscleRpmsg::sendViaCmdqu` of the task manager. -/
  | sendViaCmdqu
  deriving DecidableEq, Repr

/-- Where the producer is inside one push; each constructor names the next shared access. -/
inductive ProducerPc (α : Type)
  /-- Between pushes. -/
  | idle
  /-- `write_idx` was loaded; `read_idx` is next. -/
  | loadedWrite (packet : α) (writeIdx : BitVec 32)
  /-- `sendViaCmdqu` loaded `read_idx` into an unused local; `shared_buffer_is_full` is next. -/
  | loadedRead (packet : α) (writeIdx : BitVec 32)
  /-- `shared_buffer_is_full` loaded `write_idx` again; its `read_idx` load is next. -/
  | loadedWriteAgain (packet : α) (writeIdx again : BitVec 32)
  /-- `sendViaCmdqu` found the ring full; the store of the overflow flag is next. -/
  | overflowing
  /-- The ring was not full; the slot store is next. -/
  | copying (packet : α) (writeIdx : BitVec 32)
  /-- The slot holds the packet; the store of `write_idx + 1` is next. -/
  | publishing (packet : α) (writeIdx : BitVec 32)

/--
One shared access of the producer.

An idle producer starts the push of `next` by loading `write_idx`; a full ring ends the push.
-/
def producerStep {α : Type} (kind : ProducerKind) (next : α) :
    ProducerPc α → SharedMotionBuffer α → ProducerPc α × SharedMotionBuffer α
  | .idle, buf => (.loadedWrite next buf.writeIdx, buf)
  | .loadedWrite packet writeIdx, buf =>
    match kind with
    | .writePacket =>
      if ringFull writeIdx buf.readIdx then (.idle, buf) else (.copying packet writeIdx, buf)
    | .sendViaCmdqu => (.loadedRead packet writeIdx, buf)
  | .loadedRead packet writeIdx, buf => (.loadedWriteAgain packet writeIdx buf.writeIdx, buf)
  | .loadedWriteAgain packet writeIdx again, buf =>
    if ringFull again buf.readIdx then (.overflowing, buf) else (.copying packet writeIdx, buf)
  | .overflowing, buf => (.idle, { buf with flags := buf.flags ||| sharedFlagOverflow })
  | .copying packet writeIdx, buf =>
    (.publishing packet writeIdx,
      { buf with packets := Function.update buf.packets (sharedBufferSlotIndex writeIdx) packet })
  | .publishing _ writeIdx, buf => (.idle, { buf with writeIdx := writeIdx + 1 })

/-- The access at which a producer loads `read_idx`, finds the ring full, and ends the push. -/
def ProducerPc.rejects {α : Type} (kind : ProducerKind) :
    ProducerPc α → SharedMotionBuffer α → Bool
  | .loadedWrite _ writeIdx, buf => kind == .writePacket && ringFull writeIdx buf.readIdx
  | .loadedWriteAgain _ _ again, buf => ringFull again buf.readIdx
  | _, _ => false

/-- The producer accesses that store into a slot or a counter. -/
def ProducerPc.storesRing {α : Type} : ProducerPc α → Bool
  | .copying _ _ | .publishing _ _ => true
  | _ => false

/-- The two drain loops of the real-time side. -/
inductive ConsumerKind
  /-- `process_shared_buffer_packets` of `app_main_v1.c`, which skips slots during ESTOP. -/
  | processSharedBufferPackets
  /-- `rpmsg_motion_process_cmd` of the archived receiver. -/
  | rpmsgMotionProcessCmd
  deriving DecidableEq, Repr

/-- Whether a drain loop consumes a slot without reading it. -/
def ConsumerKind.skips : ConsumerKind → Bool → Bool
  | .processSharedBufferPackets, estopActive => estopActive
  | .rpmsgMotionProcessCmd, _ => false

/-- Where a drain is; the locals are its copies of `read_idx` and of the `write_idx` snapshot. -/
inductive ConsumerPc
  /-- Not draining. -/
  | idle
  /-- `read_idx` was loaded; the `write_idx` snapshot is next. -/
  | loadedRead (readIdx : BitVec 32)
  /-- At the head of the loop. -/
  | draining (readIdx writeIdx : BitVec 32)
  /-- The slot was read and processed; the store of `read_idx + 1` is next. -/
  | advancing (readIdx writeIdx : BitVec 32)
  deriving DecidableEq, Repr

/-- One shared access of a drain, with the packet it reads from a slot, if any. -/
def consumerStep {α : Type} (kind : ConsumerKind) (estopActive : Bool) :
    ConsumerPc → SharedMotionBuffer α → ConsumerPc × SharedMotionBuffer α × Option α
  | .idle, buf => (.loadedRead buf.readIdx, buf, none)
  | .loadedRead readIdx, buf => (.draining readIdx buf.writeIdx, buf, none)
  | .draining readIdx writeIdx, buf =>
    if readIdx = writeIdx then (.idle, buf, none)
    else if kind.skips estopActive then
      (.draining (readIdx + 1) writeIdx, { buf with readIdx := readIdx + 1 }, none)
    else (.advancing readIdx writeIdx, buf, some (buf.packets (sharedBufferSlotIndex readIdx)))
  | .advancing readIdx writeIdx, buf =>
    (.draining (readIdx + 1) writeIdx, { buf with readIdx := readIdx + 1 }, none)

/-- Whether a consumer access is a store of `read_idx`. -/
def ConsumerPc.storesRead (kind : ConsumerKind) (estopActive : Bool) : ConsumerPc → Bool
  | .draining readIdx writeIdx => readIdx != writeIdx && kind.skips estopActive
  | .advancing _ _ => true
  | _ => false

/-- The ghost history of pushes after one producer access: the `write_idx` store publishes. -/
def ProducerPc.record {α : Type} : ProducerPc α → List α → List α
  | .publishing packet _, pushed => pushed ++ [packet]
  | _, pushed => pushed

/-- The ghost history of reads after one drain access. -/
def recordRead {α : Type} (delivered : List α) : Option α → List α
  | some packet => delivered ++ [packet]
  | none => delivered

/--
The ring with one producer and one drain, and ghost history.

`pushed` lists the successful pushes, `delivered` the packets the drain read, and `consumed`
counts the stores of `read_idx` without wrapping.
-/
structure Ring (α : Type) where
  buf : SharedMotionBuffer α
  producer : ProducerPc α
  consumer : ConsumerPc
  estopActive : Bool
  pushed : List α
  delivered : List α
  consumed : Nat

/-- The ring as both sides find it: zero counters, any slot contents. -/
def Ring.init {α : Type} (flags : BitVec 32) (packets : Fin 8 → α) : Ring α :=
  ⟨⟨0#32, 0#32, flags, packets⟩, .idle, .idle, false, [], [], 0⟩

/-- One producer access, recording a published packet in the ghost history. -/
def Ring.producerMove {α : Type} (kind : ProducerKind) (next : α) (s : Ring α) : Ring α :=
  let moved := producerStep kind next s.producer s.buf
  { s with producer := moved.1, buf := moved.2, pushed := s.producer.record s.pushed }

/-- One drain access, recording a read packet and a `read_idx` store in the ghost history. -/
def Ring.consumerMove {α : Type} (kind : ConsumerKind) (s : Ring α) : Ring α :=
  let moved := consumerStep kind s.estopActive s.consumer s.buf
  { s with consumer := moved.1, buf := moved.2.1, delivered := recordRead s.delivered moved.2.2,
           consumed := s.consumed + if s.consumer.storesRead kind s.estopActive then 1 else 0 }

/-- Any interleaving: the producer, the drain, or the ESTOP handler setting `g_estop_active`. -/
inductive RingStep {α : Type} (pk : ProducerKind) (ck : ConsumerKind) : Ring α → Ring α → Prop
  | producer (s : Ring α) (next : α) : RingStep pk ck s (s.producerMove pk next)
  | consumer (s : Ring α) : RingStep pk ck s (s.consumerMove ck)
  | estop (s : Ring α) : RingStep pk ck s { s with estopActive := true }

/-- States reachable from an initial ring by any interleaving. -/
inductive RingReachable {α : Type} (pk : ProducerKind) (ck : ConsumerKind) : Ring α → Prop
  | init (flags : BitVec 32) (packets : Fin 8 → α) : RingReachable pk ck (Ring.init flags packets)
  | step {s s' : Ring α} : RingReachable pk ck s → RingStep pk ck s s' → RingReachable pk ck s'

end Milkspider
