import Milkspider.Protocol.Crc16
import Mathlib.Algebra.Polynomial.Div
import Mathlib.Data.ZMod.Basic
import Mathlib.Tactic.ComputeDegree
import Mathlib.Tactic.LinearCombination

/-! CRC-16/CCITT-FALSE over GF(2): the register of `crc16_ccitt_false` read as the remainder of the
catalogue's definition. -/

namespace Milkspider

open Polynomial

/-! ## Words as polynomials over GF(2) -/

/-- A bit as a coefficient in GF(2). -/
def bitCoeff (bit : Bool) : ZMod 2 := if bit then 1 else 0

/-- A clear bit is the coefficient zero. -/
@[simp] theorem bitCoeff_false : bitCoeff false = 0 :=
  -- By definition.
  rfl

/-- Exclusive or of bits is addition in GF(2). -/
theorem bitCoeff_xor (a b : Bool) : bitCoeff (a ^^ b) = bitCoeff a + bitCoeff b := by
  -- Each of the four pairs of bits.
  cases a <;> cases b <;> rfl

/-- Distinct bits are distinct coefficients. -/
theorem bitCoeff_injective : Function.Injective bitCoeff := by
  -- The two coefficients of GF(2) differ.
  intro a b same
  cases a <;> cases b <;> first | rfl | exact absurd same (by decide)

noncomputable section

/-- A `w`-bit word as a polynomial over GF(2): bit `i` is the coefficient of `x ^ i`. -/
def wordPoly {w : Nat} (word : BitVec w) : (ZMod 2)[X] :=
  ∑ i : Fin w, C (bitCoeff (word.getLsbD i)) * X ^ (i : Nat)

/-- `D(x)`: a byte string read most significant bit first, so that the first byte's top bit is
the coefficient of `x ^ (8 * n - 1)`. -/
def bytesPoly : List (BitVec 8) → (ZMod 2)[X]
  | [] => 0
  | byte :: rest => wordPoly byte * X ^ (8 * rest.length) + bytesPoly rest

/-- The generator `x ^ 16 + x ^ 12 + x ^ 5 + 1`. -/
def crcGenerator : (ZMod 2)[X] := X ^ 16 + X ^ 12 + X ^ 5 + 1

/-- CRC-16/CCITT-FALSE as the catalogue defines it over GF(2): the remainder of
`D(x) * x ^ 16 + F(x) * x ^ (8 * n)` modulo the generator, with `F(x)` the polynomial of the
start value `0xFFFF` and `n` the length of the data. -/
def crc16Gf2 (data : List (BitVec 8)) : (ZMod 2)[X] :=
  (bytesPoly data * X ^ 16 + wordPoly crc16Init * X ^ (8 * data.length)) %ₘ crcGenerator

end

/-- The coefficients of a word's polynomial are its bits. -/
theorem wordPoly_coeff {w : Nat} (word : BitVec w) (n : Nat) :
    (wordPoly word).coeff n = bitCoeff (word.getLsbD n) := by
  -- Only the term of `x ^ n` contributes, and above the width both sides are zero.
  simp only [wordPoly, finset_sum_coeff, coeff_C_mul, coeff_X_pow]
  by_cases inside : n < w
  · rw [Finset.sum_eq_single ⟨n, inside⟩
      (fun i _ other => by simp [show n ≠ i from fun h => other (Fin.ext h.symm)]) (by simp)]
    simp
  · rw [BitVec.getLsbD_ge word n (by omega)]
    exact Finset.sum_eq_zero fun i _ => by simp [show n ≠ i by omega]

/-- A word is determined by its polynomial: the reading loses nothing. -/
theorem wordPoly_injective {w : Nat} : Function.Injective (wordPoly : BitVec w → (ZMod 2)[X]) := by
  -- Bit by bit, the coefficients recover the word.
  intro a b same
  apply BitVec.eq_of_getLsbD_eq
  intro i
  exact bitCoeff_injective (by rw [← wordPoly_coeff, same, wordPoly_coeff])

/-- A `w`-bit word's polynomial has degree below `w`. -/
theorem wordPoly_degree_lt {w : Nat} (word : BitVec w) : (wordPoly word).degree < w :=
  -- A sum of terms below `x ^ w`.
  degree_sum_fin_lt _

/-- Exclusive or of words is addition of polynomials. -/
theorem wordPoly_xor {w : Nat} (a b : BitVec w) : wordPoly (a ^^^ b) = wordPoly a + wordPoly b := by
  -- Coefficient by coefficient, exclusive or is addition.
  ext n
  simp only [wordPoly_coeff, coeff_add, BitVec.getLsbD_xor, bitCoeff_xor]

/-- A shift by one multiplies by `x`, less the top bit that leaves the word. -/
theorem wordPoly_shiftLeft_one {w : Nat} (word : BitVec (w + 1)) :
    wordPoly (word <<< 1) + C (bitCoeff (word.getLsbD w)) * X ^ (w + 1) = X * wordPoly word := by
  -- Coefficient by coefficient: bit `n + 1` of the shifted word is bit `n` of the word.
  ext n
  rcases n with _ | n
  · simp [wordPoly_coeff, BitVec.getLsbD_shiftLeft, coeff_X_pow]
  · simp only [coeff_add, wordPoly_coeff, coeff_C_mul, coeff_X_pow, coeff_X_mul, BitVec.getLsbD_shiftLeft]
    by_cases top : n = w
    · subst top
      simp
    · by_cases low : n < w
      · simp [low, top, show n + 1 < w + 1 by omega]
      · simp [low, top, show ¬ n + 1 < w + 1 by omega, BitVec.getLsbD_ge word n (by omega)]

/-- A byte placed in the high half of the register is the byte's polynomial times `x ^ 8`. -/
theorem wordPoly_byte_high (byte : BitVec 8) : wordPoly (byte.setWidth 16 <<< 8) = X ^ 8 * wordPoly byte := by
  -- Coefficient by coefficient: bit `n` of the register is bit `n - 8` of the byte.
  ext n
  simp only [wordPoly_coeff, coeff_X_pow_mul', BitVec.getLsbD_shiftLeft, BitVec.getLsbD_setWidth]
  by_cases low : n < 8
  · simp [low, show ¬ 8 ≤ n by omega]
  · by_cases high : n < 16
    · simp [low, high, show 8 ≤ n by omega, show n - 8 < 16 by omega]
    · simp [low, high, show 8 ≤ n by omega, BitVec.getLsbD_ge byte (n - 8) (by omega)]

/-- `CRC16_POLY` is the generator without its top term. -/
theorem wordPoly_crc16Poly : wordPoly crc16Poly = X ^ 12 + X ^ 5 + 1 := by
  -- The three set bits of `0x1021`.
  simp [wordPoly, Fin.sum_univ_succ, crc16Poly, bitCoeff]
  ring

/-- The generator is monic, so division by it leaves a remainder of lower degree. -/
theorem crcGenerator_monic : crcGenerator.Monic := by
  -- The leading term is `x ^ 16`.
  unfold crcGenerator
  monicity!

/-- The generator has degree sixteen, the width of the register. -/
theorem crcGenerator_degree : crcGenerator.degree = 16 := by
  -- The leading term is `x ^ 16`.
  unfold crcGenerator
  compute_degree!

/-- GF(2) has characteristic two. -/
private theorem gf2_two_eq_zero : (2 : (ZMod 2)[X]) = 0 := by
  -- `2 = 0` in `ZMod 2`.
  rw [← map_ofNat C 2, show (2 : ZMod 2) = 0 from rfl, map_zero]

/-! ## The register computes the remainder -/

/-- A pass of the inner loop multiplies by `x`, and adds the generator when the top bit falls
out. -/
theorem wordPoly_crcShift (crc : BitVec 16) :
    wordPoly (crcShift crc) = X * wordPoly crc + C (bitCoeff (crc.getLsbD 15)) * crcGenerator := by
  -- `CRC16_POLY` is the generator without `x ^ 16`, the term the shift drops.
  have shift := wordPoly_shiftLeft_one crc
  simp only [crcShift, crcShift_test]
  cases top : crc.getLsbD 15
  · simp only [top, bitCoeff_false, C_0, zero_mul, add_zero] at shift ⊢
    exact shift
  · simp only [top, if_true, wordPoly_xor, wordPoly_crc16Poly, crcGenerator, bitCoeff, C_1, one_mul]
      at shift ⊢
    linear_combination shift - X ^ 16 * gf2_two_eq_zero

/-- `n` passes of the inner loop multiply by `x ^ n` modulo the generator. -/
theorem crcShift_iterate_dvd (n : Nat) (crc : BitVec 16) :
    crcGenerator ∣ wordPoly (crcShift^[n] crc) - X ^ n * wordPoly crc := by
  -- Induction on the passes, each multiplying by `x` and adding a multiple of the generator.
  induction n with
  | zero => simp
  | succ n ih =>
    rw [Function.iterate_succ_apply', wordPoly_crcShift]
    convert dvd_add (dvd_mul_of_dvd_right ih X)
      (dvd_mul_left crcGenerator (C (bitCoeff ((crcShift^[n] crc).getLsbD 15)))) using 1
    ring

/-- A byte step: the byte enters at `x ^ 8` above the register, then eight passes. -/
theorem crcByte_dvd (crc : BitVec 16) (byte : BitVec 8) :
    crcGenerator ∣ wordPoly (crcByte crc byte) - X ^ 8 * (wordPoly crc + X ^ 8 * wordPoly byte) := by
  -- The byte enters by exclusive or at `x ^ 8`, then eight passes.
  have passes := crcShift_iterate_dvd 8 (crc ^^^ (byte.setWidth 16 <<< 8))
  rw [wordPoly_xor, wordPoly_byte_high] at passes
  exact passes

/-- From any start value, the register after the data is congruent to the data shifted past the
check bits plus the start value shifted past the data. -/
theorem crcFrom_dvd (crc : BitVec 16) (data : List (BitVec 8)) :
    crcGenerator ∣ wordPoly (crcFrom crc data) - (bytesPoly data * X ^ 16 + wordPoly crc * X ^ (8 * data.length)) := by
  -- One byte at a time from the front: the step's congruence, shifted past the rest.
  induction data generalizing crc with
  | nil => simp [bytesPoly]
  | cons byte rest ih =>
    rw [crcFrom_cons]
    convert dvd_add (ih (crcByte crc byte)) (dvd_mul_of_dvd_left (crcByte_dvd crc byte) (X ^ (8 * rest.length)))
      using 1
    simp only [bytesPoly, List.length_cons]
    ring

/-- Exclusive or with zero bytes leaves a string as it is. -/
private theorem zipWith_xor_zero {data : List (BitVec 8)} {n : Nat} (length : data.length = n) :
    List.zipWith (· ^^^ ·) data (List.replicate n 0#8) = data := by
  -- Induction on the data: each byte is xored with zero.
  subst length
  induction data with
  | nil => rfl
  | cons byte rest ih =>
    simp only [List.length_cons, List.replicate_succ, List.zipWith_cons_cons, ih, BitVec.xor_zero]

/--
`crc16_ccitt_false` is CRC-16/CCITT-FALSE as defined over GF(2). A 16-bit word read as a
polynomial (bit `i` the coefficient of `x ^ i`) is read without loss, and for every byte string
the register the code returns reads as the remainder of `D(x) * x ^ 16 + F(x) * x ^ (8 * n)`
modulo `x ^ 16 + x ^ 12 + x ^ 5 + 1`. So the code is affine: for strings `a` and `b` of one
length, the CRC of `a xor b` is `crc(a) xor crc(b) xor crc(0 ^ n)`.
-/
theorem crc16_gf2_remainder :
    Function.Injective (wordPoly : BitVec 16 → (ZMod 2)[X]) ∧
    (∀ data : List (BitVec 8), wordPoly (crc16CcittFalse data) = crc16Gf2 data) ∧
    ∀ a b : List (BitVec 8), a.length = b.length →
      crc16CcittFalse (List.zipWith (· ^^^ ·) a b) =
        crc16CcittFalse a ^^^ crc16CcittFalse b ^^^ crc16CcittFalse (List.replicate a.length 0#8) := by
  -- The register is congruent to the catalogue's dividend, and linear in exclusive or.
  refine ⟨wordPoly_injective, fun data => ?_, fun a b sameLength => ?_⟩
  · -- The register's polynomial has degree below sixteen, so it is its own remainder.
    have low : (wordPoly (crcFrom crc16Init data)).degree < crcGenerator.degree := by
      rw [crcGenerator_degree]
      exact wordPoly_degree_lt _
    rw [crc16Gf2, modByMonic_eq_of_dvd_sub crcGenerator_monic (dvd_sub_comm.mp (crcFrom_dvd crc16Init data)),
      (modByMonic_eq_self_iff crcGenerator_monic).mpr low]
    rfl
  · -- Linearity of the register run, with the start value taken once from each side.
    have split := crcFrom_xor crc16Init 0#16 sameLength
    have zero := crcFrom_xor 0#16 crc16Init (show b.length = (List.replicate a.length 0#8).length by simp [sameLength])
    rw [BitVec.xor_zero] at split
    rw [BitVec.zero_xor, zipWith_xor_zero (by simp [sameLength])] at zero
    simp only [crc16CcittFalse]
    rw [split, zero]
    simp only [BitVec.xor_assoc, BitVec.xor_self, BitVec.xor_zero]

end Milkspider
