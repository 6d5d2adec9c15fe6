import Milkspider.Protocol.PosePacket
import Milkspider.Safety.FaultFlags

/-! The packet checks of the two real-time receivers: `validate_packet` of `app_main_v1.c` and
`validate_and_queue_packet` of the archived `rpmsg_motion_rx.c`. -/

namespace Milkspider

/-- The receive counters of a runtime: `g_last_seq`, `g_rx_count` and `g_drop_count` of
`app_main_v1.c`, or `s_last_seq`, `s_rx_count` and `s_drop_count` of `rpmsg_motion_rx.c`. -/
structure Receiver where
  lastSeq : BitVec 32
  rxCount : BitVec 32
  dropCount : BitVec 32
  deriving DecidableEq, Repr

/-- All counters zero, as both runtimes start. -/
def Receiver.init : Receiver := ⟨0, 0, 0⟩

/-- Count one dropped packet. -/
def Receiver.drop (rx : Receiver) : Receiver := { rx with dropCount := rx.dropCount + 1 }

/-- The three checks both receivers make first, in their order, on the image a packet pointer
reads: the return code and the fault bit of the first that fails. -/
def packetFault (image : List (BitVec 8)) : Option (Int × BitVec 32) :=
  let pkt := PosePacket31.ofBytes image
  if pkt.magic != spiderMagic then some (-1, faultPacketMagic)
  else if pkt.verMajor != spiderVersionMajor || pkt.verMinor != spiderVersionMinor then
    some (-2, faultPacketVersion)
  else if crc16CcittFalse (image.take 40) != pkt.crc16 then some (-3, faultPacketCrc)
  else none

/-- The sequence check of both receivers: a packet no newer than the last accepted one is
stale, unless none was accepted yet (`pkt->seq <= last_seq && last_seq != 0`). -/
def isStale (lastSeq seq : BitVec 32) : Bool :=
  seq ≤ lastSeq && lastSeq != 0

/-- `validate_packet`: the return code, the fault word and the counters after it. The caller
applies the packet and records its `seq`. -/
def validatePacket (faults : BitVec 32) (rx : Receiver) (image : List (BitVec 8)) :
    Int × BitVec 32 × Receiver :=
  match packetFault image with
  | some (code, fault) => (code, faultFlagsSet faults fault, rx.drop)
  | none =>
    if isStale rx.lastSeq (PosePacket31.ofBytes image).seq then (-4, faults, rx.drop)
    else (0, faults, rx)

/-- Length of the motion queue (`MOTION_QUEUE_LENGTH`). -/
def motionQueueLength : Nat := 4

/-- `validate_and_queue_packet`: the return code, the fault word, the counters and the motion
queue after it. Unlike `validate_packet` it records `seq` itself, before the queue is tried. -/
def validateAndQueuePacket (faults : BitVec 32) (rx : Receiver) (queue : List PosePacket31)
    (image : List (BitVec 8)) : Int × BitVec 32 × Receiver × List PosePacket31 :=
  match packetFault image with
  | some (code, fault) => (code, faultFlagsSet faults fault, rx.drop, queue)
  | none =>
    let pkt := PosePacket31.ofBytes image
    if isStale rx.lastSeq pkt.seq then (-4, faults, rx.drop, queue)
    else if queue.length < motionQueueLength then
      (0, faults, { rx with lastSeq := pkt.seq, rxCount := rx.rxCount + 1 }, queue ++ [pkt])
    else (-5, faults, { rx.drop with lastSeq := pkt.seq }, queue)

/-- A failed check is one of the first three codes. -/
theorem packetFault_code {image : List (BitVec 8)} {code : Int} {fault : BitVec 32}
    (failed : packetFault image = some (code, fault)) : code = -1 ∨ code = -2 ∨ code = -3 := by
  -- Each of the three failing branches returns its own code.
  dsimp only [packetFault] at failed
  split_ifs at failed <;> cases failed <;> simp

/-- An image whose CRC does not match its stored one fails a check, whatever its header. -/
theorem packetFault_of_crc {image : List (BitVec 8)}
    (mismatch : crc16CcittFalse (image.take 40) ≠ readLe16 image 40) : (packetFault image).isSome := by
  -- The CRC branch is reached unless an earlier check already failed.
  dsimp only [packetFault]
  split_ifs <;> simp_all [PosePacket31.ofBytes]

/-- A packet that fails a check leaves `validate_packet` with that code and only the fault word
and the drop count changed. -/
theorem validatePacket_of_fault {image : List (BitVec 8)} {code : Int} {fault : BitVec 32}
    (failed : packetFault image = some (code, fault)) (faults : BitVec 32) (rx : Receiver) :
    validatePacket faults rx image = (code, faultFlagsSet faults fault, rx.drop) := by
  -- The failing branch is the first of the match.
  simp [validatePacket, failed]

/-- A packet that fails a check leaves `validate_and_queue_packet` with that code, the queue and
`s_last_seq` unchanged. -/
theorem validateAndQueuePacket_of_fault {image : List (BitVec 8)} {code : Int} {fault : BitVec 32}
    (failed : packetFault image = some (code, fault)) (faults : BitVec 32) (rx : Receiver)
    (queue : List PosePacket31) :
    validateAndQueuePacket faults rx queue image = (code, faultFlagsSet faults fault, rx.drop, queue) := by
  -- The failing branch is the first of the match.
  simp [validateAndQueuePacket, failed]

/-- A sealed packet with the protocol's magic and version passes the three checks. -/
theorem packetFault_seal {pkt : PosePacket31} (magic : pkt.magic = spiderMagic)
    (major : pkt.verMajor = spiderVersionMajor) (minor : pkt.verMinor = spiderVersionMinor) :
    packetFault pkt.seal.bytes = none := by
  -- Sealing stores the CRC of the first 40 bytes and keeps the header.
  have stored : crc16CcittFalse (pkt.seal.bytes.take 40) = pkt.seal.crc16 := by
    rw [PosePacket31.sealed_seal]
    exact congrArg PosePacket31.crc16 (PosePacket31.ofBytes_bytes _)
  simp only [packetFault, PosePacket31.ofBytes_bytes, stored]
  simp [PosePacket31.seal, magic, major, minor]

/-- `validate_packet` on a sealed packet with the protocol's header: only the sequence check
can refuse it. -/
theorem validatePacket_seal {pkt : PosePacket31} (magic : pkt.magic = spiderMagic)
    (major : pkt.verMajor = spiderVersionMajor) (minor : pkt.verMinor = spiderVersionMinor)
    (faults : BitVec 32) (rx : Receiver) :
    validatePacket faults rx pkt.seal.bytes =
      if isStale rx.lastSeq pkt.seq then (-4, faults, rx.drop) else (0, faults, rx) := by
  -- The header checks pass, leaving the sequence branch.
  simp only [validatePacket, packetFault_seal magic major minor, PosePacket31.ofBytes_bytes]
  rfl

/-! ## Refused packets -/

/-- Whether one of the four checks refuses an image after `last_seq`: the magic, the version, the
CRC, or a stale `seq`. -/
def refuses (lastSeq : BitVec 32) (image : List (BitVec 8)) : Bool :=
  (packetFault image).isSome || isStale lastSeq (PosePacket31.ofBytes image).seq

/-- The fault word after a refusal: the bit of the check that failed, unchanged for a stale `seq`. -/
def refusalFaults (faults : BitVec 32) (image : List (BitVec 8)) : BitVec 32 :=
  match packetFault image with
  | some (_, fault) => faultFlagsSet faults fault
  | none => faults

/-- `validate_packet` returns nonzero on a refused image, and changes only the fault bit of the
failed check and the drop count. -/
theorem validatePacket_refused {image : List (BitVec 8)} (faults : BitVec 32) {rx : Receiver}
    (refused : refuses rx.lastSeq image = true) :
    (validatePacket faults rx image).1 ≠ 0 ∧ (validatePacket faults rx image).2 = (refusalFaults faults image, rx.drop) := by
  -- Either a check fails first, or all pass and the sequence check refuses.
  cases failed : packetFault image with
  | none =>
    simp only [refuses, failed, Option.isSome_none, Bool.false_or] at refused
    simp [validatePacket, failed, refused, refusalFaults]
  | some result =>
    obtain ⟨code, fault⟩ := result
    have nonzero : code ≠ 0 := by rcases packetFault_code failed with h | h | h <;> omega
    simp [validatePacket, failed, refusalFaults, nonzero]

/-- `validate_and_queue_packet` returns nonzero on a refused image, and changes only the fault bit
of the failed check and the drop count: `s_last_seq` and the queue stay as they are. -/
theorem validateAndQueuePacket_refused {image : List (BitVec 8)} (faults : BitVec 32) {rx : Receiver}
    (queue : List PosePacket31) (refused : refuses rx.lastSeq image = true) :
    (validateAndQueuePacket faults rx queue image).1 ≠ 0 ∧
      (validateAndQueuePacket faults rx queue image).2 = (refusalFaults faults image, rx.drop, queue) := by
  -- Either a check fails first, or all pass and the sequence check refuses.
  cases failed : packetFault image with
  | none =>
    simp only [refuses, failed, Option.isSome_none, Bool.false_or] at refused
    simp [validateAndQueuePacket, failed, refused, refusalFaults]
  | some result =>
    obtain ⟨code, fault⟩ := result
    have nonzero : code ≠ 0 := by rcases packetFault_code failed with h | h | h <;> omega
    simp [validateAndQueuePacket, failed, refusalFaults, nonzero]

/-- A packet every check passes leaves `validate_packet` with `0` and nothing changed. -/
theorem validatePacket_accepted {image : List (BitVec 8)} (faults : BitVec 32) {rx : Receiver}
    (passed : refuses rx.lastSeq image = false) : validatePacket faults rx image = (0, faults, rx) := by
  -- No check fails, so the last branch answers.
  simp only [refuses, Bool.or_eq_false_iff] at passed
  have clean : packetFault image = none := Option.not_isSome_iff_eq_none.mp (by simp [passed.1])
  simp [validatePacket, clean, passed.2]

/-- A packet every check passes sets `s_last_seq` to its `seq`, and is queued if the queue has
room: otherwise it is dropped with `-5`. -/
theorem validateAndQueuePacket_accepted {image : List (BitVec 8)} (faults : BitVec 32) {rx : Receiver}
    (queue : List PosePacket31) (passed : refuses rx.lastSeq image = false) :
    validateAndQueuePacket faults rx queue image =
      if queue.length < motionQueueLength then
        (0, faults, { rx with lastSeq := (PosePacket31.ofBytes image).seq, rxCount := rx.rxCount + 1 },
          queue ++ [PosePacket31.ofBytes image])
      else (-5, faults, { rx.drop with lastSeq := (PosePacket31.ofBytes image).seq }, queue) := by
  -- No check fails, so the queue's room decides.
  simp only [refuses, Bool.or_eq_false_iff] at passed
  have clean : packetFault image = none := Option.not_isSome_iff_eq_none.mp (by simp [passed.1])
  simp [validateAndQueuePacket, clean, passed.2]

/-! ## The order of accepted packets -/

/-- The `seq` of every packet `validate_and_queue_packet` accepts (returns `0` for) when it is
handed `images` one after another, each finding the motion queue as listed. -/
def queuedSeqs (faults : BitVec 32) : List (List (BitVec 8) × List PosePacket31) → Receiver → List (BitVec 32)
  | [], _ => []
  | (image, queue) :: rest, rx =>
    let result := validateAndQueuePacket faults rx queue image
    (if result.1 = 0 then [(PosePacket31.ofBytes image).seq] else []) ++ queuedSeqs result.2.1 rest result.2.2.1

/-- The order both receivers keep: each accepted `seq` is above every earlier one, unless both
are `0`. -/
def SeqOrder (earlier later : BitVec 32) : Prop := earlier < later ∨ earlier = 0 ∧ later = 0

/-- A packet that passes the sequence check after `last_seq` comes after every `seq` up to it. -/
theorem SeqOrder.of_fresh {lastSeq seq : BitVec 32} (fresh : isStale lastSeq seq = false)
    {earlier : List (BitVec 32)} (below : ∀ a ∈ earlier, a ≤ lastSeq) :
    (∀ a ∈ earlier, SeqOrder a seq) ∧ ∀ a ∈ earlier ++ [seq], a ≤ seq := by
  -- Either `seq` is above `last_seq`, or `last_seq` is `0` and so is everything before.
  simp only [isStale, Bool.and_eq_false_iff, decide_eq_false_iff_not, bne_eq_false_iff_eq] at fresh
  have cases : ∀ a ∈ earlier, SeqOrder a seq ∧ a ≤ seq := by
    intro a member
    have low := below a member
    rcases fresh with newer | zero
    · exact ⟨.inl (by bv_omega), by bv_omega⟩
    · subst zero
      obtain rfl : a = 0 := by bv_omega
      by_cases same : seq = 0
      · exact ⟨.inr ⟨rfl, same⟩, by bv_omega⟩
      · exact ⟨.inl (by bv_omega), by bv_omega⟩
  exact ⟨fun a member => (cases a member).1,
    List.forall_mem_append.mpr ⟨fun a member => (cases a member).2, List.forall_mem_singleton.mpr (by bv_omega)⟩⟩

/-- The packets `validate_and_queue_packet` accepts keep the order, after any earlier ones up to
`s_last_seq`. -/
theorem queuedSeqs_pairwise :
    ∀ (presented : List (List (BitVec 8) × List PosePacket31)) (faults : BitVec 32) (rx : Receiver)
      (earlier : List (BitVec 32)), earlier.Pairwise SeqOrder → (∀ a ∈ earlier, a ≤ rx.lastSeq) →
      (earlier ++ queuedSeqs faults presented rx).Pairwise SeqOrder
  -- Induction on the packets presented, carrying the bound by `s_last_seq`.
  | [], _, _, earlier, ordered, _ => by simpa [queuedSeqs] using ordered
  | (image, queue) :: rest, faults, rx, earlier, ordered, below => by
    -- A refused packet leaves `s_last_seq`; any other sets it to its `seq`, queued or not.
    by_cases passed : refuses rx.lastSeq image = false
    · have fresh : isStale rx.lastSeq (PosePacket31.ofBytes image).seq = false := by
        simp only [refuses, Bool.or_eq_false_iff] at passed; exact passed.2
      obtain ⟨after, upTo⟩ := SeqOrder.of_fresh fresh below
      have step := queuedSeqs_pairwise rest faults
      simp only [queuedSeqs, validateAndQueuePacket_accepted faults queue passed]
      split
      · rw [if_pos rfl, ← List.append_assoc]
        exact step _ _ (List.pairwise_append.mpr ⟨ordered, List.pairwise_singleton _ _,
          fun a member b new => by rw [List.mem_singleton.mp new]; exact after a member⟩) upTo
      · rw [if_neg (by simp), List.nil_append]
        exact step _ _ ordered fun a member => upTo a (List.mem_append_left _ member)
    · obtain ⟨nonzero, rest'⟩ := validateAndQueuePacket_refused faults queue (Bool.eq_true_of_not_eq_false passed)
      simp only [queuedSeqs, if_neg nonzero, List.nil_append, rest']
      exact queuedSeqs_pairwise rest _ _ earlier ordered below

end Milkspider
