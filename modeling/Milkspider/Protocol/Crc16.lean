import Mathlib.Logic.Function.Iterate
import Mathlib.Data.List.Range

/-! CRC-16/CCITT-FALSE as the packet code computes it, and the algebra of its register. -/

namespace Milkspider

/-- The generator `x ^ 16 + x ^ 12 + x ^ 5 + 1` without its top term (`CRC16_POLY`). -/
def crc16Poly : BitVec 16 := 0x1021#16

/-- The register's start value (`CRC16_INIT`). -/
def crc16Init : BitVec 16 := 0xFFFF#16

/-- One pass of the inner loop: the register moves up a bit, and the bit that falls out of the
top comes back in through the generator. -/
def crcShift (crc : BitVec 16) : BitVec 16 :=
  if crc &&& 0x8000#16 != 0#16 then (crc <<< 1) ^^^ crc16Poly else crc <<< 1

/-- One pass of the outer loop: the byte enters the high half, then eight inner passes. -/
def crcByte (crc : BitVec 16) (byte : BitVec 8) : BitVec 16 :=
  crcShift^[8] (crc ^^^ (byte.setWidth 16 <<< 8))

/-- The register after a run of bytes, from any start value. -/
def crcFrom (crc : BitVec 16) (data : List (BitVec 8)) : BitVec 16 :=
  data.foldl crcByte crc

/-- The CRC-16/CCITT-FALSE of a byte string (`crc16_ccitt_false`). -/
def crc16CcittFalse (data : List (BitVec 8)) : BitVec 16 :=
  crcFrom crc16Init data

set_option maxRecDepth 4000 in
/-- The check value of the catalogue, the string `"123456789"`, as `test_crc16.cpp` has it. -/
example : crc16CcittFalse [0x31, 0x32, 0x33, 0x34, 0x35, 0x36, 0x37, 0x38, 0x39] = 0x29B1#16 := by
  decide

/-- No byte leaves the register as it is. -/
@[simp] theorem crcFrom_nil (crc : BitVec 16) : crcFrom crc [] = crc :=
  -- The fold over no byte.
  rfl

/-- A byte, then the rest of the run. -/
@[simp] theorem crcFrom_cons (crc : BitVec 16) (byte : BitVec 8) (data : List (BitVec 8)) :
    crcFrom crc (byte :: data) = crcFrom (crcByte crc byte) data :=
  -- The fold's first step.
  rfl

/-- A run over two strings is the run over the second from where the first left the register. -/
theorem crcFrom_append (crc : BitVec 16) (first second : List (BitVec 8)) :
    crcFrom crc (first ++ second) = crcFrom (crcFrom crc first) second :=
  -- A fold over an append is two folds.
  List.foldl_append _ _ _ _

/-! ## The register is linear -/

/-- The inner loop's test reads the top bit of the register. -/
theorem crcShift_test (crc : BitVec 16) : (crc &&& 0x8000#16 != 0#16) = crc.getLsbD 15 := by
  -- The mask `0x8000` is the top bit alone.
  have top : (0x8000#16) = BitVec.twoPow 16 15 := by decide
  rw [top, BitVec.and_twoPow]
  cases crc.getLsbD 15 <;> decide

/-- Adding the same generator to both sides cancels in their sum. -/
private theorem xor_xor_cancel (a b p : BitVec 16) : a ^^^ b = (a ^^^ p) ^^^ (b ^^^ p) := by
  -- `p ^^^ p` is zero.
  rw [BitVec.xor_assoc, ← BitVec.xor_assoc p, BitVec.xor_comm p b, BitVec.xor_assoc b,
    BitVec.xor_self, BitVec.xor_zero]

/-- A pass of the inner loop is linear in exclusive or. -/
theorem crcShift_xor (a b : BitVec 16) : crcShift (a ^^^ b) = crcShift a ^^^ crcShift b := by
  -- The shift is linear, and the generator is added once for each top bit set.
  simp only [crcShift, crcShift_test, BitVec.getLsbD_xor, BitVec.shiftLeft_xor_distrib]
  cases a.getLsbD 15 <;> cases b.getLsbD 15 <;> simp
  all_goals first | ac_rfl | exact xor_xor_cancel _ _ _

/-- Any number of inner passes is linear in exclusive or. -/
theorem crcShift_iterate_xor (n : Nat) (a b : BitVec 16) :
    crcShift^[n] (a ^^^ b) = crcShift^[n] a ^^^ crcShift^[n] b := by
  -- Induction, one `crcShift_xor` per pass.
  induction n with
  | zero => rfl
  | succ n ih => simp only [Function.iterate_succ_apply', ih, crcShift_xor]

/-- A byte step is linear in the register and the byte together. -/
theorem crcByte_xor (c d : BitVec 16) (x y : BitVec 8) :
    crcByte (c ^^^ d) (x ^^^ y) = crcByte c x ^^^ crcByte d y := by
  -- The byte enters by exclusive or, and the passes are linear.
  simp only [crcByte, ← crcShift_iterate_xor, BitVec.setWidth_xor, BitVec.shiftLeft_xor_distrib]
  congr 1
  ac_rfl

/-- The whole register run is linear: the CRC of the xor of two strings of one length, from the
xor of two start values. -/
theorem crcFrom_xor (c d : BitVec 16) {first second : List (BitVec 8)}
    (sameLength : first.length = second.length) :
    crcFrom (c ^^^ d) (List.zipWith (· ^^^ ·) first second) = crcFrom c first ^^^ crcFrom d second := by
  -- Induction over the strings, one `crcByte_xor` per byte.
  induction first generalizing c d second with
  | nil => cases second <;> simp_all
  | cons x first ih =>
    cases second with
    | nil => simp at sameLength
    | cons y second =>
      simp only [List.zipWith_cons_cons, crcFrom_cons, crcByte_xor]
      exact ih _ _ (by simpa using sameLength)

/-! ## Zero bytes only shift -/

/-- The zero register stays zero. -/
@[simp] theorem crcShift_zero : crcShift 0#16 = 0#16 := by
  -- Evaluated.
  decide

/-- A zero byte is eight passes of the inner loop. -/
theorem crcByte_zero (crc : BitVec 16) : crcByte crc 0#8 = crcShift^[8] crc := by
  -- A zero byte adds nothing to the register.
  simp [crcByte]

/-- A run of zero bytes is eight passes a byte. -/
theorem crcFrom_replicate_zero (n : Nat) (crc : BitVec 16) :
    crcFrom crc (List.replicate n 0#8) = crcShift^[8 * n] crc := by
  -- Induction on the count, eight passes per byte.
  induction n generalizing crc with
  | zero => rfl
  | succ n ih =>
    rw [List.replicate_succ, crcFrom_cons, ih, crcByte_zero, ← Function.iterate_add_apply]
    rfl

/-- Zero bytes leave a zero register at zero. -/
@[simp] theorem crcFrom_zero_replicate (n : Nat) : crcFrom 0#16 (List.replicate n 0#8) = 0#16 := by
  -- Zero is a fixed point of the pass.
  rw [crcFrom_replicate_zero, Function.iterate_fixed crcShift_zero]

/-- Only the zero register shifts to zero. -/
theorem crcShift_eq_zero {crc : BitVec 16} (zero : crcShift crc = 0#16) : crc = 0#16 := by
  -- With the top bit set the generator's low bit survives; without it the shift loses nothing.
  simp only [crcShift, crcShift_test] at zero
  split at zero
  · -- the generator's low bit would survive: impossible
    have low := congrArg (fun v => v.getLsbD 0) zero
    simp [crc16Poly] at low
  · rename_i top
    have shifted := congrArg BitVec.toNat zero
    have bound : crc.toNat < 2 ^ 15 := by
      have := BitVec.msb_eq_decide crc
      rw [BitVec.msb_eq_getLsbD_last] at this
      simp only [Bool.not_eq_true] at top
      simp_all
    apply BitVec.eq_of_toNat_eq
    simp only [BitVec.toNat_shiftLeft, Nat.shiftLeft_eq, BitVec.toNat_ofNat] at shifted ⊢
    omega

/-- The inner pass is a bijection of the register: the generator has a constant term. -/
theorem crcShift_injective : Function.Injective crcShift := by
  -- By linearity, equal images differ by a register that shifts to zero.
  intro a b same
  have zero : crcShift (a ^^^ b) = 0#16 := by rw [crcShift_xor, same, BitVec.xor_self]
  calc a = (a ^^^ b) ^^^ b := by rw [BitVec.xor_assoc, BitVec.xor_self, BitVec.xor_zero]
    _ = b := by rw [crcShift_eq_zero zero, BitVec.zero_xor]

/-! ## Powers of `x` modulo the generator -/

/-- `x ^ k` modulo the generator: the register `1` after `k` inner passes. -/
def crcPower (k : Nat) : BitVec 16 := crcShift^[k] 1#16

/-- Passes after a power of `x` give the higher power. -/
theorem crcPower_add (m k : Nat) : crcShift^[m] (crcPower k) = crcPower (m + k) := by
  -- Iterates compose by adding their counts.
  simp only [crcPower, ← Function.iterate_add_apply]

set_option maxRecDepth 4000 in
/-- A single bit of a byte, through its byte step from zero, is `x` to its place above 16. -/
theorem crcByte_bit : ∀ j : Fin 8, crcByte 0#16 (1#8 <<< j.val) = crcPower (16 + j) := by
  -- Each of the eight bits is evaluated.
  decide

/-- A scan of `n` inner passes from `v` that never meets `1`. -/
def crcAvoidsOne : Nat → BitVec 16 → Bool
  | 0, _ => true
  | n + 1, v => v != 1#16 && crcAvoidsOne n (crcShift v)

/-- A successful scan means no pass within it meets `1`. -/
theorem crcAvoidsOne_spec : ∀ {n : Nat} {v : BitVec 16}, crcAvoidsOne n v = true →
    ∀ d < n, crcShift^[d] v ≠ 1#16
  | n + 1, v, scan, d, below => by
    -- Induction on the scan: it checks the register, then scans on from the next pass.
    simp only [crcAvoidsOne, Bool.and_eq_true, bne_iff_ne] at scan
    cases d with
    | zero => exact scan.1
    | succ d => exact crcAvoidsOne_spec scan.2 d (by omega)

set_option maxRecDepth 10000 in
/-- No power `x ^ d` with `0 < d < 336` is `1`: the generator's period exceeds the packet. -/
theorem crcPower_ne_one {d : Nat} (positive : 0 < d) (below : d < 336) : crcPower d ≠ 1#16 := by
  -- One evaluated scan covers every exponent below 336.
  have scan : crcAvoidsOne 335 (crcShift 1#16) = true := by decide
  obtain ⟨d, rfl⟩ : ∃ e, d = e + 1 := ⟨d - 1, by omega⟩
  simpa [crcPower, Function.iterate_succ_apply] using crcAvoidsOne_spec scan d (by omega)

/-- Distinct exponents below 336 give distinct powers. -/
theorem crcPower_injOn {a b : Nat} (lt : a < b) (below : b < 336) : crcPower a ≠ crcPower b := by
  -- Equal powers would make `x ^ (b - a)` equal to `1`, cancelling the `a` passes, which are injective.
  intro same
  have shifted : crcShift^[a] (crcPower (b - a)) = crcShift^[a] (crcPower 0) := by
    rw [crcPower_add, crcPower_add, Nat.add_sub_cancel' lt.le, Nat.add_zero, same]
  exact crcPower_ne_one (by omega) (by omega) ((crcShift_injective.iterate a) shifted)

/-! ## Parity: the factor `x + 1` of the generator -/

/-- The xor of the lowest `n` bits of the register. -/
def parityBelow (v : BitVec 16) : Nat → Bool
  | 0 => false
  | n + 1 => parityBelow v n ^^ v.getLsbD n

/-- The xor of the sixteen bits of the register. -/
def crcParity (v : BitVec 16) : Bool := parityBelow v 16

/-- The parity of the low bits is linear in exclusive or. -/
theorem parityBelow_xor (a b : BitVec 16) (n : Nat) :
    parityBelow (a ^^^ b) n = (parityBelow a n ^^ parityBelow b n) := by
  -- Induction on the bits, each an exclusive or.
  induction n with
  | zero => rfl
  | succ n ih =>
    simp only [parityBelow, ih, BitVec.getLsbD_xor]
    cases a.getLsbD n <;> cases b.getLsbD n <;> simp

/-- The zero register has even parity. -/
@[simp] theorem crcParity_zero : crcParity 0#16 = false := by
  -- Evaluated.
  decide

/-- The parity is linear in exclusive or. -/
theorem crcParity_xor (a b : BitVec 16) : crcParity (a ^^^ b) = (crcParity a ^^ crcParity b) :=
  -- The parity over all sixteen bits.
  parityBelow_xor a b 16

/-- Below the top, the bits of `v <<< 1` are those of `v` one place up. -/
theorem parityBelow_shiftLeft (v : BitVec 16) {n : Nat} (below : n < 16) :
    parityBelow (v <<< 1) (n + 1) = parityBelow v n := by
  -- Induction on the bits: bit `n + 1` of the shift is bit `n`.
  induction n with
  | zero => simp [parityBelow]
  | succ n ih =>
    rw [parityBelow, ih (by omega), parityBelow]
    simp [BitVec.getLsbD_shiftLeft, below]

/-- Moving up a bit drops the top bit from the parity. -/
theorem crcParity_shiftLeft (v : BitVec 16) :
    crcParity (v <<< 1) = (crcParity v ^^ v.getLsbD 15) := by
  -- The shift moves the low fifteen bits up and drops the top one.
  have top : crcParity v = (parityBelow v 15 ^^ v.getLsbD 15) := rfl
  rw [top, Bool.xor_assoc, Bool.xor_self, Bool.xor_false, crcParity, parityBelow_shiftLeft v (by omega)]

/-- An inner pass keeps the parity: the generator has an odd number of terms. -/
theorem crcParity_crcShift (v : BitVec 16) : crcParity (crcShift v) = crcParity v := by
  -- The shift drops the top bit, and adding the odd generator puts it back.
  have odd : crcParity crc16Poly = true := by decide
  simp only [crcShift, crcShift_test]
  split <;> simp_all [crcParity_xor, crcParity_shiftLeft]

/-- Every power of `x` has odd parity. -/
theorem crcParity_crcPower (k : Nat) : crcParity (crcPower k) = true := by
  -- Induction on the exponent: `1` is odd, and each pass keeps the parity.
  induction k with
  | zero => decide
  | succ k ih => rw [crcPower, Function.iterate_succ_apply', ← crcPower, crcParity_crcShift, ih]

end Milkspider
