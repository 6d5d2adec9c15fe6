import Milkspider.Motion.Interpolator

/-! Runs of `interpolator_tick` after `interpolator_start`: the call on which a move ends, the
32-bit wrap of `s_elapsed_ms` that postpones it, and the wrap of `elapsed << 16` that sends a long
Q16.16 move back to its start. -/

namespace Milkspider

/-- The first `n` calls of `interpolator_tick` on one output array: the statics, the array, and
what the last call returned (`false` before any call). -/
def interpolatorTicks (F : FloatRounding) : Nat → Interpolator → Pose → Interpolator × Pose × Bool
  | 0, ip, output => (ip, output, false)
  | n + 1, ip, output =>
    let last := interpolatorTicks F n ip output
    interpolatorTick F last.1 last.2.1

/-- The first `n` calls of `interpolator_tick` after `interpolator_start`. -/
def moveTicks (F : FloatRounding) (current target : Pose) (durationMs : BitVec 32) (mode : InterpMode)
    (output : Pose) (n : Nat) : Interpolator × Pose × Bool :=
  interpolatorTicks F n (interpolatorStart current target durationMs mode) output

/-- The call on which a move of `durationMs` should end: `⌈max(durationMs, 1) / 20⌉`. -/
def completionTick (durationMs : BitVec 32) : Nat := (max durationMs.toNat 1 + 19) / 20

/-- A move starts from the current pose. -/
@[simp] theorem interpolatorStart_startUs (current target : Pose) (durationMs : BitVec 32) (mode : InterpMode) :
    (interpolatorStart current target durationMs mode).startUs = current :=
  -- `interpolator_start` copies `current`.
  rfl

/-- A move heads for the target pose. -/
@[simp] theorem interpolatorStart_targetUs (current target : Pose) (durationMs : BitVec 32) (mode : InterpMode) :
    (interpolatorStart current target durationMs mode).targetUs = target :=
  -- `interpolator_start` copies `target`.
  rfl

/-- A move keeps the mode it was started in. -/
@[simp] theorem interpolatorStart_mode (current target : Pose) (durationMs : BitVec 32) (mode : InterpMode) :
    (interpolatorStart current target durationMs mode).mode = mode :=
  -- `interpolator_start` copies the mode.
  rfl

/-- A duration of zero is stored as one millisecond. -/
theorem interpolatorStart_durationMs (current target : Pose) (durationMs : BitVec 32) (mode : InterpMode) :
    (interpolatorStart current target durationMs mode).durationMs.toNat = max durationMs.toNat 1 := by
  -- `interpolator_start` replaces a zero duration by one.
  by_cases zero : durationMs = 0
  · simp [interpolatorStart, zero]
  · have positive : 0 < durationMs.toNat := by
      rw [Nat.pos_iff_ne_zero]; exact fun eq => zero (BitVec.eq_of_toNat_eq eq)
    simp [interpolatorStart, BitVec.lt_def, positive, Nat.one_le_iff_ne_zero.mpr positive.ne']

/-- The output of a move does not depend on the stored elapsed time. -/
@[simp] theorem Interpolator.frame_elapsed (F : FloatRounding) (ip : Interpolator) (stored elapsed : BitVec 32) :
    ({ ip with elapsedMs := stored } : Interpolator).frame F elapsed = ip.frame F elapsed :=
  -- The frame reads the elapsed time it is given, not the stored one.
  rfl

/-- A tick of a running move at `20 * k` ms moves it on to `20 * (k + 1)` ms modulo `2 ^ 32`, and
ends it if that reaches the duration. -/
theorem interpolatorTick_elapsed (F : FloatRounding) {ip : Interpolator} (active : ip.active = true)
    (k : Nat) (output : Pose) :
    interpolatorTick F { ip with elapsedMs := BitVec.ofNat 32 (20 * k) } output =
      if ip.durationMs.toNat ≤ 20 * (k + 1) % 2 ^ 32 then
        ({ ip with elapsedMs := BitVec.ofNat 32 (20 * (k + 1)), active := false }, ip.targetUs, true)
      else
        ({ ip with elapsedMs := BitVec.ofNat 32 (20 * (k + 1)) }, ip.frame F (BitVec.ofNat 32 (20 * (k + 1))),
          false) := by
  -- `s_elapsed_ms += 20` is addition modulo `2 ^ 32`.
  have sum : BitVec.ofNat 32 (20 * k) + tickPeriodMs = BitVec.ofNat 32 (20 * (k + 1)) := by
    rw [tickPeriodMs, BitVec.ofNat_add_ofNat, Nat.mul_succ]
  have reached : ip.durationMs ≤ BitVec.ofNat 32 (20 * (k + 1)) ↔ ip.durationMs.toNat ≤ 20 * (k + 1) % 2 ^ 32 := by
    rw [BitVec.le_def, BitVec.toNat_ofNat]
  simp only [interpolatorTick, active, Bool.not_true, Bool.false_eq_true, if_false, sum]
  by_cases ends : ip.durationMs.toNat ≤ 20 * (k + 1) % 2 ^ 32
  · rw [if_pos (reached.mpr ends), if_pos ends]
  · rw [if_neg (mt reached.mp ends), if_neg ends]
    rfl

/-- A started move runs: as long as no tick reached the duration, after `k` ticks the stored
elapsed time is `20 * k` modulo `2 ^ 32` and the last tick returned `false` with the pose at that
time. -/
theorem interpolatorTicks_running (F : FloatRounding) {ip : Interpolator} (active : ip.active = true)
    (fresh : ip.elapsedMs = 0) (output : Pose) :
    ∀ k, (∀ j, 0 < j → j ≤ k → 20 * j % 2 ^ 32 < ip.durationMs.toNat) →
      (interpolatorTicks F k ip output).1 = { ip with elapsedMs := BitVec.ofNat 32 (20 * k) } ∧
      (0 < k → (interpolatorTicks F k ip output).2 = (ip.frame F (BitVec.ofNat 32 (20 * k)), false))
  -- Induction on the ticks: each adds 20 ms without reaching the duration.
  | 0, _ => ⟨by cases ip; simp_all [interpolatorTicks], fun none => absurd none (lt_irrefl 0)⟩
  | k + 1, running => by
    -- The first `k` ticks left the move running; the next one does not reach the duration.
    obtain ⟨statics, -⟩ :=
      interpolatorTicks_running F active fresh output k fun j pos le => running j pos (by omega)
    have early := running (k + 1) (by omega) le_rfl
    simp only [interpolatorTicks, statics, interpolatorTick_elapsed F active, if_neg (not_le.mpr early)]
    exact ⟨trivial, fun _ => trivial⟩

/-- A tick of a finished move returns `true` and leaves everything as it is. -/
theorem interpolatorTick_idle (F : FloatRounding) {ip : Interpolator} (idle : ip.active = false) (output : Pose) :
    interpolatorTick F ip output = (ip, output, true) := by
  -- A finished move returns at once.
  simp [interpolatorTick, idle]

/-- Once a call returned with the move finished, every later call returns `true` and leaves the
output as it is. -/
theorem interpolatorTicks_after (F : FloatRounding) {ip : Interpolator} {output : Pose} {n : Nat}
    (idle : (interpolatorTicks F n ip output).1.active = false) :
    ∀ m, interpolatorTicks F (n + m + 1) ip output =
      ((interpolatorTicks F n ip output).1, (interpolatorTicks F n ip output).2.1, true)
  -- Induction on the later calls, each finding the move finished.
  | 0 => interpolatorTick_idle F idle _
  | m + 1 => by
    -- Induction on the later calls, each finding the move finished.
    rw [show n + (m + 1) + 1 = (n + m + 1) + 1 by omega, interpolatorTicks, interpolatorTicks_after F idle m]
    exact interpolatorTick_idle F idle _

/-- The expected last call, the one before it, and the duration as stored. -/
theorem completionTick_bounds (durationMs : BitVec 32) :
    0 < completionTick durationMs ∧ 20 * (completionTick durationMs - 1) < max durationMs.toNat 1 ∧
      max durationMs.toNat 1 ≤ 20 * completionTick durationMs ∧ max durationMs.toNat 1 < 2 ^ 32 := by
  -- Arithmetic on the ceiling, the duration being below `2 ^ 32`.
  have := durationMs.isLt
  unfold completionTick
  omega

/-- Up to the call before the expected last one, a move is still running. -/
theorem moveTicks_running (F : FloatRounding) (current target : Pose) (durationMs : BitVec 32)
    (mode : InterpMode) (output : Pose) {k : Nat} (early : 20 * k < max durationMs.toNat 1) :
    (moveTicks F current target durationMs mode output k).1 =
        { interpolatorStart current target durationMs mode with elapsedMs := BitVec.ofNat 32 (20 * k) } ∧
      (0 < k → (moveTicks F current target durationMs mode output k).2 =
        ((interpolatorStart current target durationMs mode).frame F (BitVec.ofNat 32 (20 * k)), false)) := by
  -- No earlier tick wraps or reaches the duration.
  apply interpolatorTicks_running F rfl rfl output k
  intro j _ le
  rw [interpolatorStart_durationMs]
  omega

/--
The call on which a move ends, as the code has it. After `interpolator_start` with any poses, in
either mode, the calls before the `⌈max(d, 1) / 20⌉`-th return `false`; that call returns `true`
exactly when `d ≤ 2 ^ 32 - 16`, and then it writes the target and every later call returns `true`
and leaves the output alone. For the fifteen longer durations `s_elapsed_ms + 20` wraps past
`2 ^ 32` on that call, and for `d = 0xFFFFFFFF` no call ever ends the move.
-/
theorem move_completion_tick (F : FloatRounding) (current target : Pose) (durationMs : BitVec 32)
    (mode : InterpMode) (output : Pose) :
    (∀ k, 0 < k → k < completionTick durationMs →
      (moveTicks F current target durationMs mode output k).2.2 = false) ∧
    ((moveTicks F current target durationMs mode output (completionTick durationMs)).2.2 = true ↔
      durationMs.toNat ≤ 2 ^ 32 - 16) ∧
    (durationMs.toNat ≤ 2 ^ 32 - 16 →
      (moveTicks F current target durationMs mode output (completionTick durationMs)).2.1 = target ∧
      ∀ m, moveTicks F current target durationMs mode output (completionTick durationMs + m + 1) =
        ((moveTicks F current target durationMs mode output (completionTick durationMs)).1,
          target, true)) ∧
    (durationMs = BitVec.allOnes 32 → ∀ k, 0 < k → (moveTicks F current target durationMs mode output k).2.2 = false) := by
  -- The expected last call is one tick after a running move at `20 * (K - 1)` ms.
  obtain ⟨positive, before, reaches, fits⟩ := completionTick_bounds durationMs
  have stored := interpolatorStart_durationMs current target durationMs mode
  -- The expected last call is one tick after a running move at `20 * (K - 1)` ms.
  have last : moveTicks F current target durationMs mode output (completionTick durationMs) =
      interpolatorTick F { interpolatorStart current target durationMs mode with
        elapsedMs := BitVec.ofNat 32 (20 * (completionTick durationMs - 1)) }
        (moveTicks F current target durationMs mode output (completionTick durationMs - 1)).2.1 := by
    conv_lhs => rw [moveTicks, show completionTick durationMs = completionTick durationMs - 1 + 1 by omega]
    rw [interpolatorTicks, ← moveTicks, (moveTicks_running F current target durationMs mode output before).1]
  rw [interpolatorTick_elapsed F rfl, Nat.sub_add_cancel positive, stored] at last
  have iff : max durationMs.toNat 1 ≤ 20 * completionTick durationMs % 2 ^ 32 ↔ durationMs.toNat ≤ 2 ^ 32 - 16 := by
    unfold completionTick at *
    omega
  refine ⟨fun k pos early => ?_, ?_, fun fitting => ?_, fun allOnes k pos => ?_⟩
  · -- before the expected last call
    rw [((moveTicks_running F current target durationMs mode output (by omega)).2 pos)]
  · -- the expected last call ends the move exactly when `20 * K` fits in 32 bits
    rw [last]
    split_ifs with ends
    · exact iff_of_true rfl (iff.mp ends)
    · exact iff_of_false (by simp) (mt iff.mpr ends)
  · -- the move ends and stays ended
    have ended : moveTicks F current target durationMs mode output (completionTick durationMs) =
        ({ interpolatorStart current target durationMs mode with
          elapsedMs := BitVec.ofNat 32 (20 * completionTick durationMs), active := false }, target, true) := by
      rw [last, if_pos (iff.mpr fitting)]
      rfl
    refine ⟨by rw [ended], fun m => ?_⟩
    rw [moveTicks, interpolatorTicks_after F (by rw [← moveTicks, ended]) m, ← moveTicks, ended]
  · -- `s_elapsed_ms` stays a multiple of four, which never reaches `0xFFFFFFFF`
    have running := @interpolatorTicks_running F (interpolatorStart current target durationMs mode) rfl rfl output k
      fun j _ _ => by rw [stored, allOnes, BitVec.toNat_allOnes]; omega
    rw [moveTicks, running.2 pos]

/-- A 100 ms move from neutral to 2000 µs ends on the fifth call, not before, and stays ended;
the same move over `0xFFFFFFFF` ms never ends. -/
theorem hundred_ms_move_ends_on_fifth_call :
    (0 < 2 ∧ 2 < completionTick 100#32 ∧
      (moveTicks .unrounded neutralPose (fun _ => 2000#16) 100#32 .float neutralPose 2).2.2 = false) ∧
    ((100#32 : BitVec 32).toNat ≤ 2 ^ 32 - 16 ∧
      (moveTicks .unrounded neutralPose (fun _ => 2000#16) 100#32 .float neutralPose (completionTick 100#32)).2.1 =
        (fun _ => 2000#16) ∧
      ∀ m, moveTicks .unrounded neutralPose (fun _ => 2000#16) 100#32 .float neutralPose (completionTick 100#32 + m + 1) =
        ((moveTicks .unrounded neutralPose (fun _ => 2000#16) 100#32 .float neutralPose (completionTick 100#32)).1,
          (fun _ => 2000#16), true)) ∧
    (BitVec.allOnes 32 = BitVec.allOnes 32 ∧ ∀ k, 0 < k →
      (moveTicks .unrounded neutralPose (fun _ => 2000#16) (BitVec.allOnes 32) .float neutralPose k).2.2 = false) := by
  -- The law at 100 ms gives the first two parts, at `0xFFFFFFFF` ms the last.
  obtain ⟨before, -, ends, -⟩ := move_completion_tick .unrounded neutralPose (fun _ => 2000#16) 100#32 .float neutralPose
  have fits : (100#32 : BitVec 32).toNat ≤ 2 ^ 32 - 16 := by decide
  exact ⟨⟨by decide, by decide, before 2 (by decide) (by decide)⟩, ⟨fits, ends fits⟩,
    ⟨rfl, (move_completion_tick .unrounded neutralPose (fun _ => 2000#16) (BitVec.allOnes 32) .float
      neutralPose).2.2.2 rfl⟩⟩

/-! ## The Q16.16 factor wraps -/

/-- A positive duration is stored as it is. -/
theorem interpolatorStart_durationMs_of_pos (current target : Pose) {durationMs : BitVec 32}
    (positive : 0 < durationMs.toNat) (mode : InterpMode) :
    (interpolatorStart current target durationMs mode).durationMs = durationMs := by
  -- Only a zero duration is replaced.
  simp [interpolatorStart, BitVec.lt_def, positive]

/-- At `20 * k` ms, `(elapsed << 16) / duration` in `uint32_t` keeps only `20 * k` modulo `2 ^ 16`
of the elapsed time. -/
theorem q16Factor_toNat {k : Nat} {durationMs : BitVec 32} (early : 20 * k < durationMs.toNat) :
    (q16Factor (BitVec.ofNat 32 (20 * k)) durationMs).toNat = 20 * k % 65536 * 65536 / durationMs.toNat := by
  -- The shift by sixteen loses the high half of `20 * k` out of the top of the word.
  have fits : 20 * k < 2 ^ 32 := early.trans durationMs.isLt
  have shifted : 20 * k % 2 ^ 32 * 2 ^ 16 % 2 ^ 32 = 20 * k % 65536 * 65536 := by omega
  simp only [q16Factor, BitVec.toNat_udiv, BitVec.toNat_shiftLeft, BitVec.toNat_ofNat, Nat.shiftLeft_eq,
    shifted]

/-- Before the end of a Q16.16 move between in-range poses, the `k`-th tick writes the frame at
`20 * k` ms with the wrapped factor of `q16Factor_toNat`. -/
theorem moveTicks_q16_toNat (F : FloatRounding) {current target : Pose} (starts : current.InRange)
    (targets : target.InRange) (durationMs : BitVec 32) (output : Pose) {k : Nat} (pos : 0 < k)
    (early : 20 * k < durationMs.toNat) (channel : Fin 13) :
    (((moveTicks F current target durationMs .q16 output k).2.1 channel).toNat : Int) =
      (current channel).toNat + ((target channel).toNat - (current channel).toNat : Int) *
        ((20 * k % 65536 * 65536 / durationMs.toNat : Nat) : Int) / 65536 := by
  -- Before the end the output is the Q16.16 frame at `20 * k` ms, computed without overflow.
  have running := (moveTicks_running F current target durationMs .q16 output
    (show 20 * k < max durationMs.toNat 1 by omega)).2 pos
  have stored := interpolatorStart_durationMs_of_pos current target (show 0 < durationMs.toNat by omega) .q16
  have small : (q16Factor (BitVec.ofNat 32 (20 * k)) durationMs).toNat < 2 ^ 16 :=
    q16Factor_lt (by rw [BitVec.lt_def, BitVec.toNat_ofNat]; omega)
  rw [running]
  simp only [Interpolator.frame, interpolatorStart_mode, interpolatorStart_startUs, interpolatorStart_targetUs,
    stored]
  rw [q16Channel_toNat (starts channel).2 (targets channel).2 small, q16Factor_toNat early]

/--
The Q16.16 interpolation as the code computes it. After `interpolator_start` with in-range poses,
the `k`-th tick before the end of the move writes `start + ⌊(target - start) * t / 2 ^ 16⌋` with
`t = ⌊(20 * k mod 2 ^ 16) * 2 ^ 16 / d⌋`: `elapsed << 16` wraps in `uint32_t` once the move has
run 65536 ms, so the fraction of the move falls back to zero, and at every multiple of 327680 ms
before the end the servos are back at the start pose.
-/
theorem q16_factor_wraps (F : FloatRounding) {current target : Pose} (starts : current.InRange)
    (targets : target.InRange) (durationMs : BitVec 32) (output : Pose) :
    (∀ k, 0 < k → 20 * k < durationMs.toNat → ∀ channel,
      (((moveTicks F current target durationMs .q16 output k).2.1 channel).toNat : Int) =
        (current channel).toNat + ((target channel).toNat - (current channel).toNat : Int) *
          ((20 * k % 65536 * 65536 / durationMs.toNat : Nat) : Int) / 65536) ∧
    (∀ j, 0 < j → 327680 * j < durationMs.toNat →
      (moveTicks F current target durationMs .q16 output (16384 * j)).2.1 = current) := by
  -- The factor of `q16Factor_toNat` at each tick; at `327680 * j` ms it is zero.
  refine ⟨fun k pos early => moveTicks_q16_toNat F starts targets durationMs output pos early,
    fun j pos long => funext fun channel => BitVec.eq_of_toNat_eq ?_⟩
  -- At `327680 * j` ms the kept part of the elapsed time is zero.
  have back := moveTicks_q16_toNat F starts targets durationMs output (k := 16384 * j) (by omega) (by omega) channel
  rw [show 20 * (16384 * j) % 65536 = 0 by omega] at back
  simpa using back

/-- A move from neutral to 2500 µs over 400 s in Q16.16: the 16383rd tick writes 1663 µs, the
16384th falls back to 1500 µs where the linear value is about 2319 µs; and a move from 500 µs to
2500 µs over 25 ms writes 2099 µs on its first tick, where the linear value is 2100 µs. -/
theorem long_q16_move_falls_back :
    neutralPose.InRange ∧ Pose.InRange (fun _ => 2500#16) ∧ Pose.InRange (fun _ => 500#16) ∧
    ((moveTicks .unrounded neutralPose (fun _ => 2500#16) 400000#32 .q16 neutralPose 16383).2.1 0).toNat = 1663 ∧
    (moveTicks .unrounded neutralPose (fun _ => 2500#16) 400000#32 .q16 neutralPose (16384 * 1)).2.1 = neutralPose ∧
    ((moveTicks .unrounded (fun _ => 500#16) (fun _ => 2500#16) 25#32 .q16 neutralPose 1).2.1 0).toNat = 2099 := by
  -- Both moves are between in-range poses; the theorem gives the pulses, which are evaluated.
  have high : Pose.InRange fun _ => 2500#16 := fun _ => (by decide : InPwmRange 2500#16)
  have low : Pose.InRange fun _ => 500#16 := fun _ => (by decide : InPwmRange 500#16)
  have late := (q16_factor_wraps .unrounded neutralPose_inRange high 400000#32 neutralPose).1 16383 (by decide)
    (by decide) 0
  have first := (q16_factor_wraps .unrounded low high 25#32 neutralPose).1 1 (by decide) (by decide) 0
  norm_num [neutralPose, servoPwmNeutralUs] at late first
  exact ⟨neutralPose_inRange, high, low, by omega,
    (q16_factor_wraps .unrounded neutralPose_inRange high 400000#32 neutralPose).2 1 (by decide) (by decide),
    by omega⟩

end Milkspider
