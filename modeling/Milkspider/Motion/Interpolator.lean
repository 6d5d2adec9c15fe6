import Milkspider.Common.Limits
import Mathlib.Data.Rat.Floor
import Mathlib.Tactic.Linarith

/-! The motion interpolator of `interpolator.c`, in its `float` and Q16.16 modes, and the range
of every pose it outputs. -/

namespace Milkspider

/-- The arithmetic an interpolation runs in (`InterpMode`). -/
inductive InterpMode
  | float
  | q16
  deriving DecidableEq, Repr

/--
One rounded `float` operation, as a function of the exact result. Every IEEE 754 rounding of
binary32 arithmetic is monotone and returns an integer of magnitude at most `2 ^ 24` unchanged;
nothing else about it is assumed.
-/
structure FloatRounding where
  round : ℚ → ℚ
  monotone : Monotone round
  exact : ∀ n : ℤ, n.natAbs ≤ 2 ^ 24 → round n = n

namespace FloatRounding

variable (F : FloatRounding)

/-- A natural number up to `2^24` is a float, and rounds to itself. -/
theorem round_nat {n : Nat} (small : n ≤ 2 ^ 24) : F.round n = n := by
  -- Integers up to 2^24 are exact in a float.
  simpa using F.exact n (by simpa using small)

/-- A value between two exactly representable integers rounds between them. -/
theorem round_between (low high : ℤ) (lowSmall : low.natAbs ≤ 2 ^ 24)
    (highSmall : high.natAbs ≤ 2 ^ 24) {x : ℚ} (above : (low : ℚ) ≤ x) (below : x ≤ high) :
    (low : ℚ) ≤ F.round x ∧ F.round x ≤ high := by
  -- Rounding is monotone and fixes both ends.
  constructor
  · calc (low : ℚ) = F.round low := (F.exact low lowSmall).symm
      _ ≤ F.round x := F.monotone above
  · calc F.round x ≤ F.round high := F.monotone below
      _ = high := F.exact high highSmall

/-- A representable integer scaled by a fraction in `[0, 1]` rounds to between `0` and itself. -/
theorem round_scale {d : ℤ} (small : d.natAbs ≤ 2 ^ 24) {t : ℚ} (t0 : 0 ≤ t) (t1 : t ≤ 1) :
    ((0 : ℚ) ≤ F.round (d * t) ∧ F.round (d * t) ≤ d) ∨ ((d : ℚ) ≤ F.round (d * t) ∧ F.round (d * t) ≤ 0) := by
  -- The product lies between 0 and d, whichever sign d has.
  rcases le_total 0 d with up | down
  · have up' : (0 : ℚ) ≤ d := by exact_mod_cast up
    left
    simpa using F.round_between 0 d (by simp) small (by simpa using mul_nonneg up' t0)
      (mul_le_of_le_one_right up' t1)
  · have down' : (d : ℚ) ≤ 0 := by exact_mod_cast down
    right
    simpa using F.round_between d 0 small (by simp) (by nlinarith) (mul_nonpos_of_nonpos_of_nonneg down' t0)

end FloatRounding

/-- Arithmetic without rounding, to run the model on examples. -/
def FloatRounding.unrounded : FloatRounding := ⟨id, monotone_id, fun _ _ => rfl⟩

/-- The interpolator's statics (`s_start_us`, `s_target_us`, `s_duration_ms`, `s_elapsed_ms`,
`s_mode`, `s_active`). -/
structure Interpolator where
  startUs : Pose
  targetUs : Pose
  durationMs : BitVec 32
  elapsedMs : BitVec 32
  mode : InterpMode
  active : Bool

/-- The statics before any call: zero-initialised. -/
def Interpolator.zero : Interpolator := ⟨fun _ => 0, fun _ => 0, 0, 0, .float, false⟩

/-- Milliseconds per tick at 50 Hz (`TICK_PERIOD_MS`). -/
def tickPeriodMs : BitVec 32 := 20#32

/-- Start a move from `current` to `target` over `durationMs`, at least one millisecond
(`interpolator_start`). -/
def interpolatorStart (current target : Pose) (durationMs : BitVec 32) (mode : InterpMode) :
    Interpolator :=
  ⟨current, target, if durationMs > 0 then durationMs else 1, 0, mode, true⟩

/-- `(uint16_t)` of a `float`: truncation toward zero, then the low sixteen bits. -/
def floatToU16 (x : ℚ) : BitVec 16 :=
  BitVec.ofInt 16 (if 0 ≤ x then ⌊x⌋ else ⌈x⌉)

/-- One channel in `float` mode: `start + (target - start) * t`, each operation rounded. -/
def floatChannel (F : FloatRounding) (t : ℚ) (start target : BitVec 16) : BitVec 16 :=
  let s := F.round start.toNat
  let g := F.round target.toNat
  floatToU16 (F.round (s + F.round (F.round (g - s) * t)))

/-- The `float` fraction of the move: `(float)elapsed / (float)duration`. -/
def floatFactor (F : FloatRounding) (elapsed duration : BitVec 32) : ℚ :=
  F.round (F.round elapsed.toNat / F.round duration.toNat)

/-- One channel in Q16.16: `start + ((delta * t_q16) >> 16)` in `int32_t`, cut to `uint16_t`. -/
def q16Channel (tQ16 : BitVec 32) (start target : BitVec 16) : BitVec 16 :=
  let s : BitVec 32 := start.setWidth 32
  let g : BitVec 32 := target.setWidth 32
  (s + ((g - s) * tQ16).sshiftRight 16).setWidth 16

/-- The Q16.16 fraction of the move: `(elapsed << 16) / duration` in `uint32_t`. -/
def q16Factor (elapsed duration : BitVec 32) : BitVec 32 :=
  (elapsed <<< 16) / duration

/-- The pose part-way through a move, at `elapsed` milliseconds. -/
def Interpolator.frame (F : FloatRounding) (ip : Interpolator) (elapsed : BitVec 32) : Pose :=
  match ip.mode with
  | .float => fun channel =>
    floatChannel F (floatFactor F elapsed ip.durationMs) (ip.startUs channel) (ip.targetUs channel)
  | .q16 => fun channel =>
    q16Channel (q16Factor elapsed ip.durationMs) (ip.startUs channel) (ip.targetUs channel)

/-- One tick (`interpolator_tick`): the interpolator, the output array, and whether the move is
complete. At or past the duration the output snaps to the target. -/
def interpolatorTick (F : FloatRounding) (ip : Interpolator) (output : Pose) :
    Interpolator × Pose × Bool :=
  if !ip.active then (ip, output, true)
  else
    let elapsed := ip.elapsedMs + tickPeriodMs
    if ip.durationMs ≤ elapsed then ({ ip with elapsedMs := elapsed, active := false }, ip.targetUs, true)
    else ({ ip with elapsedMs := elapsed }, ip.frame F elapsed, false)

/-! ## Every output is in the servo range -/

/-- Before the end of a move the `float` fraction lies in `[0, 1]`. -/
theorem floatFactor_mem (F : FloatRounding) {elapsed duration : BitVec 32}
    (early : elapsed < duration) : 0 ≤ floatFactor F elapsed duration ∧ floatFactor F elapsed duration ≤ 1 := by
  -- Rounding is monotone and keeps `0` and `1`, so it keeps a quotient of `0 ≤ e ≤ d` in `[0, 1]`.
  have lt : elapsed.toNat < duration.toNat := early
  have zero : F.round 0 = 0 := by simpa using F.exact 0 (by norm_num)
  have one : F.round 1 = 1 := by simpa using F.exact 1 (by norm_num)
  have e0 : 0 ≤ F.round elapsed.toNat := zero ▸ F.monotone (Nat.cast_nonneg _)
  have ed : F.round elapsed.toNat ≤ F.round duration.toNat := F.monotone (Nat.cast_le.mpr lt.le)
  have d1 : 1 ≤ F.round duration.toNat := one ▸ F.monotone (Nat.one_le_cast.mpr (by omega))
  have q0 : 0 ≤ F.round elapsed.toNat / F.round duration.toNat := div_nonneg e0 (by linarith)
  have q1 : F.round elapsed.toNat / F.round duration.toNat ≤ 1 := (div_le_one (by linarith)).mpr ed
  exact ⟨zero ▸ F.monotone q0, one ▸ F.monotone q1⟩

/-- A `float` inside the servo range converts to a pulse width inside it. -/
theorem floatToU16_inRange {x : ℚ} (low : 500 ≤ x) (high : x ≤ 2500) : InPwmRange (floatToU16 x) := by
  -- A positive value truncates to its floor, which stays between the integer bounds.
  have above : (500 : ℤ) ≤ ⌊x⌋ := Int.le_floor.mpr (by exact_mod_cast low)
  have below : ⌊x⌋ ≤ 2500 := by
    have : (⌊x⌋ : ℚ) ≤ 2500 := (Int.floor_le x).trans high
    exact_mod_cast this
  simp only [floatToU16, if_pos (show (0 : ℚ) ≤ x by linarith), InPwmRange, BitVec.toNat_ofInt]
  omega

/-- In `float` mode a channel moving between two in-range pulse widths, at a fraction in
`[0, 1]`, stays in the servo range. -/
theorem floatChannel_inRange (F : FloatRounding) {t : ℚ} (t0 : 0 ≤ t) (t1 : t ≤ 1)
    {start target : BitVec 16} (hs : InPwmRange start) (hg : InPwmRange target) :
    InPwmRange (floatChannel F t start target) := by
  -- The rounded step lies between 0 and target - start, so the sum lies between the two ends.
  obtain ⟨s0, s1⟩ := hs
  obtain ⟨g0, g1⟩ := hg
  have delta := F.exact ((target.toNat : ℤ) - start.toNat) (by omega)
  push_cast at delta
  have step := F.round_scale (d := (target.toNat : ℤ) - start.toNat) (by omega) t0 t1
  push_cast at step
  have ends : (500 : ℚ) ≤ start.toNat ∧ (start.toNat : ℚ) ≤ 2500 ∧ (500 : ℚ) ≤ target.toNat ∧
      (target.toNat : ℚ) ≤ 2500 := by
    refine ⟨?_, ?_, ?_, ?_⟩ <;> exact_mod_cast (by omega)
  have sum := F.round_between 500 2500 (by norm_num) (by norm_num)
    (x := start.toNat + F.round (((target.toNat : ℚ) - start.toNat) * t))
    (by push_cast; rcases step with h | h <;> linarith) (by push_cast; rcases step with h | h <;> linarith)
  push_cast at sum
  simp only [floatChannel, F.round_nat (show start.toNat ≤ 2 ^ 24 by omega),
    F.round_nat (show target.toNat ≤ 2 ^ 24 by omega), delta]
  exact floatToU16_inRange sum.1 sum.2

/-- Arithmetic shift right of an integer is division by a power of two, rounding down. -/
private theorem int_shiftRight_eq_ediv (x : Int) (n : Nat) : x >>> n = x / ((2 ^ n : Nat) : Int) := by
  -- One case per sign of the integer, each a shift of the natural number.
  cases x with
  | ofNat k =>
    show Int.ofNat (k >>> n) = _
    rw [Nat.shiftRight_eq_div_pow]
    simp [Int.ofNat_ediv]
  | negSucc k =>
    show Int.negSucc (k >>> n) = _
    rw [Int.negSucc_ediv _ (by positivity), Nat.shiftRight_eq_div_pow, Int.negSucc_eq]
    simp [Int.ediv]

/-- Wrapping to `int32_t` changes nothing inside its range. -/
private theorem bmod_of_bounds {x : Int} (low : -2 ^ 31 ≤ x) (high : x < 2 ^ 31) : x.bmod (2 ^ 32) = x := by
  -- Inside the range the balanced remainder is the number itself.
  rw [Int.bmod_def]
  split <;> omega

/-- A word below `2^31` reads the same signed and unsigned. -/
private theorem toInt_of_lt {x : BitVec 32} (small : x.toNat < 2 ^ 31) : x.toInt = x.toNat := by
  -- The sign bit is clear.
  rw [BitVec.toInt_eq_toNat_cond]
  simp only [if_pos (show 2 * x.toNat < 2 ^ 32 by omega)]

/-- The product `delta * t_q16` lies between `0` and `delta * 2 ^ 16`. -/
theorem q16_product_between (start target t : Nat) (ht : t < 2 ^ 16) :
    (0 ≤ (target - start : Int) * t ∧ (target - start : Int) * t ≤ (target - start) * 65536) ∨
      ((target - start : Int) * 65536 ≤ (target - start : Int) * t ∧ (target - start : Int) * t ≤ 0) := by
  -- Multiplying by a fraction below one keeps the sign and shrinks the size.
  have fraction : (t : Int) ≤ 65536 := by omega
  rcases le_total start target with up | down
  · have rising : (0 : Int) ≤ target - start := by omega
    exact .inl ⟨mul_nonneg rising (Int.natCast_nonneg t), mul_le_mul_of_nonneg_left fraction rising⟩
  · have falling : (target - start : Int) ≤ 0 := by omega
    exact .inr ⟨mul_le_mul_of_nonpos_left fraction falling,
      mul_nonpos_of_nonpos_of_nonneg falling (Int.natCast_nonneg t)⟩

/-- For in-range ends and a fraction below one, the Q16.16 channel computes
`start + ⌊(target - start) * t_q16 / 2 ^ 16⌋` with no `int32_t` overflow. -/
theorem q16Channel_toNat {tQ16 : BitVec 32} {start target : BitVec 16}
    (hs : start.toNat ≤ 2500) (hg : target.toNat ≤ 2500) (ht : tQ16.toNat < 2 ^ 16) :
    ((q16Channel tQ16 start target).toNat : Int) =
      start.toNat + ((target.toNat - start.toNat : Int) * tQ16.toNat) / 65536 := by
  -- Every intermediate `int32_t` value is far inside its range, so no step wraps.
  have sInt : (start.setWidth 32).toInt = start.toNat := by
    rw [toInt_of_lt (by simp; omega)]; simp; omega
  have gInt : (target.setWidth 32).toInt = target.toNat := by
    rw [toInt_of_lt (by simp; omega)]; simp; omega
  have tInt : tQ16.toInt = tQ16.toNat := toInt_of_lt (by omega)
  have between := q16_product_between start.toNat target.toNat tQ16.toNat ht
  have dInt : (target.setWidth 32 - start.setWidth 32).toInt = (target.toNat - start.toNat : Int) := by
    rw [BitVec.toInt_sub, sInt, gInt, bmod_of_bounds (by omega) (by omega)]
  have pInt : ((target.setWidth 32 - start.setWidth 32) * tQ16).toInt =
      (target.toNat - start.toNat : Int) * tQ16.toNat := by
    rw [BitVec.toInt_mul, dInt, tInt, bmod_of_bounds (by omega) (by omega)]
  have shifted : (((target.setWidth 32 - start.setWidth 32) * tQ16).sshiftRight 16).toInt =
      ((target.toNat - start.toNat : Int) * tQ16.toNat) / 65536 := by
    rw [BitVec.sshiftRight_eq, BitVec.toInt_ofInt, pInt, int_shiftRight_eq_ediv]
    exact bmod_of_bounds (by simp; omega) (by simp; omega)
  have sum : (start.setWidth 32 + ((target.setWidth 32 - start.setWidth 32) * tQ16).sshiftRight 16).toInt =
      start.toNat + ((target.toNat - start.toNat : Int) * tQ16.toNat) / 65536 := by
    rw [BitVec.toInt_add, sInt, shifted, bmod_of_bounds (by omega) (by omega)]
  unfold q16Channel
  simp only [BitVec.toNat_setWidth]
  generalize start.setWidth 32 + ((target.setWidth 32 - start.setWidth 32) * tQ16).sshiftRight 16 = x at sum ⊢
  rw [BitVec.toInt_eq_toNat_cond] at sum
  split at sum <;> omega

/-- In Q16.16 mode a channel moving between two in-range pulse widths, at a fraction below
one, stays in the servo range. -/
theorem q16Channel_inRange {tQ16 : BitVec 32} (ht : tQ16.toNat < 2 ^ 16) {start target : BitVec 16}
    (hs : InPwmRange start) (hg : InPwmRange target) : InPwmRange (q16Channel tQ16 start target) := by
  -- The floored step lies between `0` and `target - start`.
  have value := q16Channel_toNat hs.2 hg.2 ht
  have between := q16_product_between start.toNat target.toNat tQ16.toNat ht
  obtain ⟨s0, s1⟩ := hs
  obtain ⟨g0, g1⟩ := hg
  constructor <;> omega

/-- Before the end of a move the Q16.16 fraction is below one, even where `elapsed << 16`
wraps. -/
theorem q16Factor_lt {elapsed duration : BitVec 32} (early : elapsed < duration) :
    (q16Factor elapsed duration).toNat < 2 ^ 16 := by
  -- The shifted elapsed time, wrapped or not, is below the shifted duration.
  have lt : elapsed.toNat < duration.toNat := early
  simp only [q16Factor, BitVec.toNat_udiv, BitVec.toNat_shiftLeft, Nat.shiftLeft_eq]
  apply Nat.div_lt_of_lt_mul
  calc elapsed.toNat * 2 ^ 16 % 2 ^ 32 ≤ elapsed.toNat * 2 ^ 16 := Nat.mod_le _ _
    _ < duration.toNat * 2 ^ 16 := by omega

/-- Part-way through a move between in-range poses, the interpolated pose is in range, in both
modes. -/
theorem Interpolator.frame_inRange (F : FloatRounding) {ip : Interpolator} {elapsed : BitVec 32}
    (early : elapsed < ip.durationMs) (starts : ip.startUs.InRange) (targets : ip.targetUs.InRange) :
    (ip.frame F elapsed).InRange := by
  -- Before the end, the fraction of either mode is below one.
  intro channel
  cases mode : ip.mode <;> simp only [Interpolator.frame, mode]
  · obtain ⟨t0, t1⟩ := floatFactor_mem F early
    exact floatChannel_inRange F t0 t1 (starts channel) (targets channel)
  · exact q16Channel_inRange (q16Factor_lt early) (starts channel) (targets channel)

/-- A tick keeps the ends of the move, and its output is in range when the ends and the
previous output are. -/
theorem interpolatorTick_inRange (F : FloatRounding) {ip : Interpolator} {output : Pose}
    (ends : ip.active = true → ip.startUs.InRange ∧ ip.targetUs.InRange) (previous : output.InRange) :
    (interpolatorTick F ip output).1.startUs = ip.startUs ∧
      (interpolatorTick F ip output).1.targetUs = ip.targetUs ∧
      ((interpolatorTick F ip output).1.active = true → ip.active = true) ∧
      (interpolatorTick F ip output).2.1.InRange := by
  -- An idle tick keeps the output, a last one snaps to the target, any other one interpolates.
  unfold interpolatorTick
  split
  · exact ⟨rfl, rfl, id, previous⟩
  · rename_i running
    simp only [Bool.not_eq_true', Bool.not_eq_false] at running
    obtain ⟨starts, targets⟩ := ends running
    dsimp only
    split
    · exact ⟨rfl, rfl, fun _ => running, targets⟩
    · rename_i early
      have before : ip.elapsedMs + tickPeriodMs < ip.durationMs := by
        rw [BitVec.le_def] at early
        rw [BitVec.lt_def]
        omega
      exact ⟨rfl, rfl, fun _ => running, ip.frame_inRange F before starts targets⟩

/-- A move of at most one period ends on its first tick, on the target. -/
theorem interpolatorTick_start_short (F : FloatRounding) (current target : Pose) {durationMs : BitVec 32}
    (short : durationMs ≤ 20#32) (mode : InterpMode) (output : Pose) :
    interpolatorTick F (interpolatorStart current target durationMs mode) output =
      ({ interpolatorStart current target durationMs mode with elapsedMs := tickPeriodMs, active := false }, target,
        true) := by
  -- The first tick reaches 20 ms, and the stored duration is at most that.
  have reached : (if 0#32 < durationMs then durationMs else 1#32) ≤ tickPeriodMs := by
    split_ifs
    · exact short
    · decide
  simp [interpolatorTick, interpolatorStart, reached]

end Milkspider
