import Milkspider.Ring.SharedBuffer

/-! With one drain, the ring is a bounded FIFO across every interleaving and counter wrap. -/

namespace Milkspider

variable {α : Type}

/-- The slot of the `i`-th push, counted without wrapping. -/
def slotOf (i : Nat) : Fin 8 := sharedBufferSlotIndex (BitVec.ofNat 32 i)

/-- The `i`-th push lands in slot `i % 8`. -/
@[simp] theorem slotOf_val (i : Nat) : (slotOf i).val = i % 8 := by
  -- Reducing modulo `2 ^ 32` first changes nothing modulo eight.
  simp only [slotOf, sharedBufferSlotIndex, BitVec.toNat_ofNat]
  omega

/-- Two counters less than eight apart name different slots. -/
theorem slotOf_ne {i j : Nat} (before : i < j) (near : j < i + 8) : slotOf i ≠ slotOf j := by
  -- Two counters less than eight apart differ modulo eight.
  intro same
  have := congrArg Fin.val same
  simp only [slotOf_val] at this
  omega

/-- Unwrapped counters less than `2 ^ 32` apart keep their difference after wrapping. -/
theorem ofNat_sub_toNat {low high : Nat} (ordered : low ≤ high) (near : high ≤ low + 8) :
    (BitVec.ofNat 32 high - BitVec.ofNat 32 low).toNat = high - low := by
  -- The wrapped difference is the true one, which is small.
  simp only [BitVec.toNat_sub, BitVec.toNat_ofNat]
  omega

/-- Incrementing a wrapped counter wraps the incremented counter. -/
theorem ofNat_succ (n : Nat) : BitVec.ofNat 32 n + 1 = BitVec.ofNat 32 (n + 1) := by
  -- Addition commutes with wrapping.
  simp [BitVec.ofNat_add]

/-- What the producer's locals say about the shared state. -/
def ProducerAgrees (s : Ring α) : Prop :=
  match s.producer with
  | .idle | .overflowing => True
  | .loadedWrite _ w | .loadedRead _ w => w = s.buf.writeIdx
  | .loadedWriteAgain _ w again => w = s.buf.writeIdx ∧ again = s.buf.writeIdx
  | .copying _ w => w = s.buf.writeIdx ∧ s.pushed.length < s.consumed + 8
  | .publishing packet w =>
    w = s.buf.writeIdx ∧ s.pushed.length < s.consumed + 8 ∧
      s.buf.packets (sharedBufferSlotIndex w) = packet

/-- A `write_idx` snapshot taken at some earlier point, not behind the drain. -/
def Snapshot (s : Ring α) (low : Nat) (w : BitVec 32) : Prop :=
  ∃ snap, low ≤ snap ∧ snap ≤ s.pushed.length ∧ w = BitVec.ofNat 32 snap

/-- What the drain's locals say about the shared state. -/
def ConsumerAgrees (s : Ring α) : Prop :=
  match s.consumer with
  | .idle => True
  | .loadedRead r => r = s.buf.readIdx
  | .draining r w => r = s.buf.readIdx ∧ Snapshot s s.consumed w
  | .advancing r w => r = s.buf.readIdx ∧ Snapshot s (s.consumed + 1) w

/-- Reads lag the `read_idx` stores only by skipped slots, and lead them by one mid-slot. -/
def CaughtUp (ck : ConsumerKind) (s : Ring α) : Prop :=
  match s.consumer with
  | .advancing _ _ => s.delivered.length = s.consumed + 1
  | _ => s.delivered.length = s.consumed ∨
      (ck.skips s.estopActive = true ∧ s.delivered.length ≤ s.consumed)

/-- Whether the drain holds a slot it has read but whose `read_idx` store is still to come. -/
def ConsumerPc.reading : ConsumerPc → Bool
  | .advancing _ _ => true
  | _ => false

/-- The invariant of the single-drain ring. -/
structure RingInv (ck : ConsumerKind) (s : Ring α) : Prop where
  write_eq : s.buf.writeIdx = BitVec.ofNat 32 s.pushed.length
  read_eq : s.buf.readIdx = BitVec.ofNat 32 s.consumed
  consumed_le : s.consumed ≤ s.pushed.length
  pushed_le : s.pushed.length ≤ s.consumed + 8
  slots : ∀ i (inside : i < s.pushed.length), s.consumed ≤ i →
    s.buf.packets (slotOf i) = s.pushed[i]
  reads : s.delivered <+: s.pushed
  caughtUp : CaughtUp ck s
  producer : ProducerAgrees s
  consumer : ConsumerAgrees s

/-- Both sides start on zero counters with nothing pushed. -/
theorem RingInv.init (ck : ConsumerKind) (flags : BitVec 32) (packets : Fin 8 → α) :
    RingInv ck (Ring.init flags packets) :=
  -- Nothing pushed, nothing read, and both sides idle.
  ⟨rfl, rfl, le_rfl, Nat.zero_le _, fun _ inside => absurd inside (Nat.not_lt_zero _),
    List.prefix_rfl, .inl rfl, trivial, trivial⟩

variable {ck : ConsumerKind}

/-- Changing only the producer's locals and the ring flags keeps the rest of the invariant. -/
theorem RingInv.setProducer {s : Ring α} (inv : RingInv ck s) (pc : ProducerPc α)
    (flags : BitVec 32)
    (agrees : ProducerAgrees { s with producer := pc, buf := { s.buf with flags := flags } }) :
    RingInv ck { s with producer := pc, buf := { s.buf with flags := flags } } :=
  -- The producer's locals and the flags appear only in `ProducerAgrees`.
  ⟨inv.write_eq, inv.read_eq, inv.consumed_le, inv.pushed_le, inv.slots, inv.reads,
    inv.caughtUp, agrees, inv.consumer⟩

/-- The check both producers make: a ring that is not full leaves room for one more push. -/
theorem room_of_not_full {s : Ring α} (inv : RingInv ck s)
    (notFull : ringFull s.buf.writeIdx s.buf.readIdx = false) :
    s.pushed.length < s.consumed + 8 := by
  -- The wrapped distance is the true one, below eight.
  simp only [ringFull, packetRingSize, decide_eq_false_iff_not, BitVec.le_def, inv.write_eq,
    inv.read_eq, ofNat_sub_toNat inv.consumed_le inv.pushed_le, BitVec.toNat_ofNat] at notFull
  omega

/-- A full ring holds exactly eight unconsumed pushes. -/
theorem eight_of_full {s : Ring α} (inv : RingInv ck s)
    (full : ringFull s.buf.writeIdx s.buf.readIdx = true) :
    s.pushed.length = s.consumed + 8 := by
  -- The wrapped distance is the true one, at least eight, and never more.
  simp only [ringFull, packetRingSize, decide_eq_true_eq, BitVec.le_def, inv.write_eq,
    inv.read_eq, ofNat_sub_toNat inv.consumed_le inv.pushed_le, BitVec.toNat_ofNat] at full
  have := inv.pushed_le
  omega

/-- A publish only moves `write_idx` ahead of every snapshot the drain holds. -/
theorem ConsumerAgrees.push {s : Ring α} (agrees : ConsumerAgrees s) (pc : ProducerPc α)
    (writeIdx : BitVec 32) (packet : α) :
    ConsumerAgrees
      { s with
        producer := pc, buf := { s.buf with writeIdx := writeIdx }, pushed := s.pushed ++ [packet] } := by
  -- A push only raises the count the snapshots are bounded by.
  unfold ConsumerAgrees Snapshot at *
  cases consumer : s.consumer <;> simp only [consumer] at agrees ⊢
  · exact agrees
  all_goals
    obtain ⟨read, snap, low, high, rfl⟩ := agrees
    exact ⟨read, snap, low, by simp only [List.length_append, List.length_singleton]; omega, rfl⟩

/-- Storing a packet into the slot of `write_idx` keeps the invariant: the slot lies outside
the unconsumed window, which is less than eight wide. -/
theorem RingInv.copy {s : Ring α} (inv : RingInv ck s) {packet : α}
    (room : s.pushed.length < s.consumed + 8) :
    RingInv ck { s with
      producer := .publishing packet s.buf.writeIdx
      buf := { s.buf with
        packets := Function.update s.buf.packets (sharedBufferSlotIndex s.buf.writeIdx) packet } } := by
  -- Every unconsumed push sits in another slot, so only the new slot changes.
  refine ⟨inv.write_eq, inv.read_eq, inv.consumed_le, inv.pushed_le, fun i inside after => ?_,
    inv.reads, inv.caughtUp, ⟨rfl, room, Function.update_same _ _ _⟩, inv.consumer⟩
  dsimp only at inside after ⊢
  have other : slotOf i ≠ sharedBufferSlotIndex s.buf.writeIdx := by
    rw [inv.write_eq]; exact slotOf_ne inside (by omega)
  simp only [Function.update_noteq other, inv.slots i inside after]

/-- Storing `write_idx + 1` after the slot holds the packet publishes it: the window grows by
that slot. -/
theorem RingInv.publish {s : Ring α} (inv : RingInv ck s) {packet : α}
    (room : s.pushed.length < s.consumed + 8)
    (stored : s.buf.packets (sharedBufferSlotIndex s.buf.writeIdx) = packet) :
    RingInv ck { s with
      producer := .idle
      buf := { s.buf with writeIdx := s.buf.writeIdx + 1 }
      pushed := s.pushed ++ [packet] } := by
  -- The counters move by one; the old pushes keep their slots and the new one is `stored`.
  have length : (s.pushed ++ [packet]).length = s.pushed.length + 1 := by simp
  refine ⟨?_, inv.read_eq, ?_, ?_, ?_, inv.reads.trans (List.prefix_append _ _), inv.caughtUp,
    trivial, inv.consumer.push _ _ _⟩
  · rw [inv.write_eq, length, ofNat_succ]
  · have := inv.consumed_le; simp only [length]; omega
  · simp only [length]; omega
  · intro i inside after
    rcases Nat.lt_or_ge i s.pushed.length with old | new
    · rw [List.getElem_append_left old]; exact inv.slots i old after
    · have last : i = s.pushed.length := by simp only [length] at inside; omega
      subst last
      simp only [List.getElem_append_right (Nat.le_refl _), Nat.sub_self, List.getElem_cons_zero]
      rw [← stored, inv.write_eq]; rfl

/-- Every access of the producer keeps the invariant. -/
theorem RingInv.producerMove {pk : ProducerKind} {s : Ring α} (inv : RingInv ck s) (next : α) :
    RingInv ck (s.producerMove pk next) := by
  -- Access by access, each local agrees with the shared state it was loaded from.
  have agrees := inv.producer
  unfold ProducerAgrees at agrees
  cases pc : s.producer <;> simp only [pc] at agrees <;>
    simp only [Ring.producerMove, pc, producerStep, ProducerPc.record]
  case idle =>
    -- Loading `write_idx` reads the counter only the producer writes.
    exact inv.setProducer _ s.buf.flags rfl
  case loadedWrite packet w =>
    subst agrees
    cases pk <;> dsimp only
    case writePacket =>
      -- The check either ends the push or leaves room for one more packet.
      split
      · exact inv.setProducer _ s.buf.flags trivial
      · exact inv.setProducer _ s.buf.flags ⟨rfl, room_of_not_full (s := s) inv (Bool.eq_false_iff.mpr ‹_›)⟩
    case sendViaCmdqu => exact inv.setProducer _ s.buf.flags rfl
  case loadedRead packet w => exact inv.setProducer _ s.buf.flags ⟨agrees, rfl⟩
  case loadedWriteAgain packet w again =>
    obtain ⟨rfl, rfl⟩ := agrees
    split
    · exact inv.setProducer _ s.buf.flags trivial
    · exact inv.setProducer _ s.buf.flags ⟨rfl, room_of_not_full (s := s) inv (Bool.eq_false_iff.mpr ‹_›)⟩
  case overflowing =>
    -- Only the flags change.
    exact inv.setProducer _ _ trivial
  case copying packet w =>
    obtain ⟨rfl, room⟩ := agrees
    exact inv.copy room
  case publishing packet w =>
    obtain ⟨rfl, room, stored⟩ := agrees
    exact inv.publish room stored

/-- Changing only the drain's locals keeps the shared part of the invariant. -/
theorem RingInv.setConsumer {s : Ring α} (inv : RingInv ck s) (pc : ConsumerPc)
    (caught : CaughtUp ck { s with consumer := pc })
    (agrees : ConsumerAgrees { s with consumer := pc }) : RingInv ck { s with consumer := pc } :=
  -- The drain's locals appear only in `CaughtUp` and `ConsumerAgrees`.
  ⟨inv.write_eq, inv.read_eq, inv.consumed_le, inv.pushed_le, inv.slots, inv.reads, caught,
    inv.producer, agrees⟩

/-- A drain that stopped at a snapshot other than its position still has a slot to consume. -/
theorem consumed_lt_of_ne {s : Ring α} (inv : RingInv ck s) {low : Nat} {w : BitVec 32}
    (snapshot : Snapshot s low w) (above : s.consumed ≤ low) (differ : s.buf.readIdx ≠ w) :
    s.consumed < s.pushed.length ∧ Snapshot s (s.consumed + 1) w := by
  -- The snapshot is ahead of the drain, so a pushed slot remains.
  obtain ⟨snap, low_le, high, rfl⟩ := snapshot
  have apart : s.consumed ≠ snap := by rintro rfl; exact differ inv.read_eq
  exact ⟨by omega, snap, by omega, high, rfl⟩

/-- A store of `read_idx` only widens the room the producer checked for. -/
theorem ProducerAgrees.advance {s : Ring α} (agrees : ProducerAgrees s) (pc : ConsumerPc)
    (readIdx : BitVec 32) :
    ProducerAgrees
      { s with
        consumer := pc, buf := { s.buf with readIdx := readIdx }, consumed := s.consumed + 1 } := by
  -- A store of `read_idx` only widens the room the producer found.
  unfold ProducerAgrees at *
  cases producer : s.producer <;> simp only [producer] at agrees ⊢ <;> try exact agrees
  · exact ⟨agrees.1, by omega⟩
  · exact ⟨agrees.1, by omega, agrees.2.2⟩

/-- Storing `read_idx + 1` consumes one slot of the window. -/
theorem RingInv.advance {s : Ring α} (inv : RingInv ck s) {w : BitVec 32}
    (remaining : s.consumed < s.pushed.length) (snapshot : Snapshot s (s.consumed + 1) w)
    (caught : s.delivered.length = s.consumed + 1 ∨
      (ck.skips s.estopActive = true ∧ s.delivered.length ≤ s.consumed + 1)) :
    RingInv ck
      { s with
        consumer :=
  -- The window loses its oldest slot, and every other slot keeps its push.
  .draining (s.buf.readIdx + 1) w,
        buf := { s.buf with readIdx := s.buf.readIdx + 1 }, consumed := s.consumed + 1 } :=
  ⟨inv.write_eq, by rw [inv.read_eq, ofNat_succ], remaining,
    (show s.pushed.length ≤ s.consumed + 1 + 8 by have := inv.pushed_le; omega),
    fun i inside after => inv.slots i inside (Nat.le_of_succ_le after), inv.reads, caught,
    inv.producer.advance _ _, ⟨rfl, snapshot⟩⟩

/-- The ESTOP flag only turns on, so a drain that skips keeps skipping. -/
theorem ConsumerKind.skips_true {ck : ConsumerKind} {estopActive : Bool}
    (skipping : ck.skips estopActive = true) : ck.skips true = true := by
  -- Both drains skip only on the flag.
  cases ck <;> simp_all [ConsumerKind.skips]

/-- Reading the next packet of the pushes extends a prefix of them. -/
theorem prefix_append_getElem {l₁ l₂ : List α} (earlier : l₁ <+: l₂) {n : Nat}
    (length : l₁.length = n) (shorter : n < l₂.length) : l₁ ++ [l₂[n]] <+: l₂ := by
  -- The next element of the pushes follows the prefix.
  subst length
  obtain ⟨rest, rfl⟩ := earlier
  cases rest with
  | nil => simp at shorter
  | cons next rest => exact ⟨rest, by simp [List.getElem_append_right]⟩

/-- Reading the slot of `read_idx` delivers the oldest unconsumed push. -/
theorem RingInv.read {s : Ring α} (inv : RingInv ck s) {w : BitVec 32}
    (remaining : s.consumed < s.pushed.length) (next : Snapshot s (s.consumed + 1) w)
    (gapless : s.delivered.length = s.consumed) :
    RingInv ck { s with
      consumer := .advancing s.buf.readIdx w
      delivered := s.delivered ++ [s.buf.packets (sharedBufferSlotIndex s.buf.readIdx)] } := by
  -- The slot holds push number `consumed`, the one after the reads so far.
  have oldest : s.buf.packets (sharedBufferSlotIndex s.buf.readIdx) = s.pushed[s.consumed] := by
    rw [inv.read_eq]; exact inv.slots _ remaining le_rfl
  refine ⟨inv.write_eq, inv.read_eq, inv.consumed_le, inv.pushed_le, inv.slots, ?_,
    by simp [CaughtUp, gapless], inv.producer, ⟨rfl, next⟩⟩
  rw [oldest]
  exact prefix_append_getElem inv.reads gapless remaining

/-- Every access of the drain keeps the invariant. -/
theorem RingInv.consumerMove {s : Ring α} (inv : RingInv ck s) : RingInv ck (s.consumerMove ck) := by
  -- Access by access, following the drain's loop.
  have agrees := inv.consumer
  have caught := inv.caughtUp
  unfold ConsumerAgrees at agrees
  unfold CaughtUp at caught
  cases consumer : s.consumer <;> simp only [consumer] at agrees caught <;>
    simp only [Ring.consumerMove, consumer, consumerStep, ConsumerPc.storesRead, recordRead,
      Bool.false_eq_true, if_false, if_true, Nat.add_zero]
  case idle => exact inv.setConsumer _ caught rfl
  case loadedRead r =>
    -- The snapshot is the current `write_idx`, so it is not behind the drain.
    exact inv.setConsumer _ caught ⟨agrees, s.pushed.length, inv.consumed_le, le_rfl, inv.write_eq⟩
  case draining r w =>
    obtain ⟨rfl, snapshot⟩ := agrees
    by_cases stop : s.buf.readIdx = w
    · -- The loop exits with nothing stored.
      simp only [stop, if_true, bne_self_eq_false, Bool.false_and, Bool.false_eq_true, if_false,
        Nat.add_zero, recordRead]
      exact inv.setConsumer _ caught trivial
    obtain ⟨remaining, next⟩ := consumed_lt_of_ne inv snapshot le_rfl stop
    have differ : (s.buf.readIdx != w) = true := bne_iff_ne.mpr stop
    by_cases skip : ck.skips s.estopActive = true
    · -- During ESTOP the slot is consumed unread.
      simp only [stop, skip, differ, if_false, if_true, Bool.and_self, recordRead]
      exact inv.advance remaining next (.inr ⟨skip, by omega⟩)
    · -- Otherwise the drain reads the oldest unconsumed push.
      simp only [stop, skip, differ, if_false, Bool.and_false, Bool.false_eq_true, Nat.add_zero,
        recordRead]
      exact inv.read remaining next (by simpa [skip] using caught)
  case advancing r w =>
    -- Storing `read_idx + 1` finishes the slot just read.
    obtain ⟨rfl, snap, low, high, _⟩ := agrees
    exact inv.advance (by omega) ⟨snap, low, high, by assumption⟩ (.inl caught)

/-- Raising the ESTOP flag keeps the invariant. -/
theorem RingInv.estop {s : Ring α} (inv : RingInv ck s) :
    RingInv ck { s with estopActive := true } := by
  -- The flag only turns on, so a skipping drain keeps skipping.
  refine ⟨inv.write_eq, inv.read_eq, inv.consumed_le, inv.pushed_le, inv.slots, inv.reads, ?_,
    inv.producer, inv.consumer⟩
  have caught := inv.caughtUp
  unfold CaughtUp at caught ⊢
  split at caught <;> simp only [*] at caught ⊢
  exact caught.imp_right fun ⟨skipping, behind⟩ => ⟨ConsumerKind.skips_true skipping, behind⟩

/-- Every reachable ring satisfies the invariant. -/
theorem RingReachable.inv {pk : ProducerKind} {s : Ring α} (reach : RingReachable pk ck s) :
    RingInv ck s := by
  -- Induction on the run, one step lemma per access.
  induction reach with
  | init flags packets => exact RingInv.init ck flags packets
  | step _ moved ih =>
    cases moved with
    | producer next => exact ih.producerMove next
    | consumer => exact ih.consumerMove
    | estop => exact ih.estop

/-- The drain never reads more than the slots it consumed and the one it is reading. -/
theorem RingInv.delivered_length_le {s : Ring α} (inv : RingInv ck s) :
    s.delivered.length ≤ s.consumed + if s.consumer.reading then 1 else 0 := by
  -- Mid-slot the reads lead the stores by one; elsewhere they lag by the slots skipped.
  have caught := inv.caughtUp
  unfold CaughtUp at caught
  cases consumer : s.consumer <;>
    simp only [consumer, ConsumerPc.reading, Bool.false_eq_true, if_false, if_true] at caught ⊢
  case advancing => omega
  all_goals rcases caught with same | ⟨-, behind⟩ <;> omega

/-- Unless the drain skips, the packets it read are exactly the pushes it consumed and the one it
is reading, in push order. -/
theorem RingInv.delivered_eq_take {s : Ring α} (inv : RingInv ck s) (noSkip : ck.skips s.estopActive = false) :
    s.delivered = s.pushed.take (s.consumed + if s.consumer.reading then 1 else 0) := by
  -- A prefix of the pushes is as many of them as it is long, and without skips that is the count.
  have count : s.delivered.length = s.consumed + if s.consumer.reading then 1 else 0 := by
    have caught := inv.caughtUp
    unfold CaughtUp at caught
    cases consumer : s.consumer <;>
      simp only [consumer, ConsumerPc.reading, noSkip, Bool.false_eq_true, false_and, or_false, if_false,
        if_true] at caught ⊢ <;>
      omega
  rw [← count]
  exact List.prefix_iff_eq_take.mp inv.reads

/-- Producer accesses other than the slot and counter stores leave the counters and slots alone. -/
theorem producerStep_frame {pk : ProducerKind} {pc : ProducerPc α} (next : α)
    (buf : SharedMotionBuffer α) (quiet : pc.storesRing = false) :
    (producerStep pk next pc buf).2.writeIdx = buf.writeIdx ∧
      (producerStep pk next pc buf).2.readIdx = buf.readIdx ∧
      (producerStep pk next pc buf).2.packets = buf.packets := by
  -- Access by access, only the two stores write the ring.
  cases pc <;> simp only [ProducerPc.storesRing, Bool.true_eq_false] at quiet
  all_goals try cases pk
  all_goals simp only [producerStep, and_self]
  all_goals split <;> exact ⟨rfl, rfl, rfl⟩

/-- The ring after `SharedMemory::writePacket` pushed one packet and the drain read it. -/
def onePushRead : Ring Nat :=
  let pushed := (List.replicate 4 ()).foldl
    (fun s _ => s.producerMove .writePacket 7) (Ring.init 0 fun _ => 0)
  (List.replicate 4 ()).foldl (fun s _ => s.consumerMove .processSharedBufferPackets) pushed

/-- After one push and one read, the drain has delivered exactly that packet. -/
example : onePushRead.delivered = [7] ∧ onePushRead.buf.readIdx = 1#32 := by decide

/-- The ring after `SharedMemory::writePacket` pushed one packet and ESTOP was latched, when the
drain of `app_main_v1.c` has passed over the packet. -/
def estopSkip : Ring Nat :=
  let pushed := (List.replicate 4 ()).foldl
    (fun s _ => s.producerMove .writePacket 7) (Ring.init 0 fun _ => 0)
  (List.replicate 3 ()).foldl (fun s _ => s.consumerMove .processSharedBufferPackets)
    { pushed with estopActive := true }

end Milkspider
