import Milkspider.System.JsonFields
import Milkspider.Brain.ScanController

/-! The daemon's scan commands, `BrainDaemon::handleScanCommand`, and the scan controller's part of
`BrainDaemon::run`, whose tick divides by `rate_hz`. -/

namespace Milkspider

/-- A profile field of `scan_start`: the value read, if it is non-negative, else the field as it
was. -/
def profileField (value : BitVec 32) (current : Int) : Int :=
  if 0 ≤ value.toInt then value.toInt else current

/-- A field that does not read 0 keeps a non-zero value non-zero. -/
theorem profileField_ne_zero {value : BitVec 32} {current : Int} (read : value ≠ 0) (nonzero : current ≠ 0) :
    profileField value current ≠ 0 := by
  -- Either the value read is taken, and it is not 0, or the field stays.
  unfold profileField
  split_ifs
  · exact fun zero => read (BitVec.toInt_inj.mp (by rw [zero]; rfl))
  · exact nonzero

/-- `handleScanCommand`. `scan_start` takes each profile field that reads non-negative, then
starts, reading the clock at `stepNow` and `dwellNow`. `scan_stop` stops the controller, and
`scan_status` and `scan_get_data` only answer. -/
def handleScanCommand (cmd : String) (stepNow dwellNow : BitVec 64) (s : ScanController) :
    ScanController × List ScanEvent :=
  if hasType cmd "scan_start" then
    let minDeg := parseJsonInt cmd "min_deg" (-1)
    let maxDeg := parseJsonInt cmd "max_deg" (-1)
    let stepDeg := parseJsonInt cmd "step_deg" (-1)
    let rateHz := parseJsonInt cmd "rate_hz" (-1)
    let profile :=
      if 0 ≤ minDeg.toInt ∨ 0 ≤ maxDeg.toInt ∨ 0 ≤ stepDeg.toInt ∨ 0 ≤ rateHz.toInt then
        { s.profile with
          minDeg := profileField minDeg s.profile.minDeg
          maxDeg := profileField maxDeg s.profile.maxDeg
          stepDeg := profileField stepDeg s.profile.stepDeg
          rateHz := profileField rateHz s.profile.rateHz }
      else s.profile
    { s with profile := profile }.start stepNow dwellNow
  else if hasType cmd "scan_stop" then s.stop
  else (s, [])

/-- A `scan_start` text leaves the controller running, with the rate it reads if that is
non-negative; the other texts keep the rate. -/
theorem handleScanCommand_rateHz (cmd : String) (stepNow dwellNow : BitVec 64) (s : ScanController) :
    (handleScanCommand cmd stepNow dwellNow s).1.profile.rateHz =
      if hasType cmd "scan_start" then profileField (parseJsonInt cmd "rate_hz" (-1)) s.profile.rateHz
      else s.profile.rateHz := by
  -- Only the scan_start branch writes the profile, and then the rate through profileField.
  unfold handleScanCommand
  by_cases started : hasType cmd "scan_start"
  · rw [if_pos started, if_pos started, ScanController.start_profile]
    dsimp only
    split_ifs with updated
    · rfl
    · -- Without a field that reads non-negative, the rate read is negative too and is not taken.
      rw [profileField, if_neg (by omega)]
  · rw [if_neg started, if_neg started]
    split_ifs <;> simp

/-- A `scan_start` text leaves the controller running. -/
theorem handleScanCommand_running {cmd : String} (started : hasType cmd "scan_start") (stepNow dwellNow : BitVec 64)
    (s : ScanController) : (handleScanCommand cmd stepNow dwellNow s).1.running = true := by
  -- scan_start ends with start, which sets running.
  rw [handleScanCommand, if_pos started]
  exact ScanController.start_running stepNow dwellNow _

/-- What reaches the scan controller in the daemon's loop. -/
inductive ScanInput
  /-- `processClients` hands a text to `handleCommand`; a start would read the clock at `stepNow`
  and `dwellNow`. -/
  | command (cmd : String) (stepNow dwellNow : BitVec 64)
  /-- An iteration of `BrainDaemon::run`: `m_scan_controller.tick()` at `now`, the distance sensor
  answering `distance`. -/
  | iteration (now : BitVec 64) (distance : Int)

namespace ScanInput

/-- One input: texts reach `handleScanCommand` when `handleCommand` takes them to its scan
controller branch. `none` when the iteration divides by zero. -/
def step : ScanInput → ScanController → Option (ScanController × List ScanEvent)
  | .command cmd stepNow dwellNow, s =>
    some (if commandBranch cmd = .scanController then handleScanCommand cmd stepNow dwellNow s else (s, []))
  | .iteration now distance, s => s.tick now distance

/-- Whether an input is a `scan_start` text whose `rate_hz` reads 0. -/
def setsZeroRate : ScanInput → Bool
  | .command cmd _ _ =>
    commandBranch cmd = .scanController && hasType cmd "scan_start" && parseJsonInt cmd "rate_hz" (-1) == 0
  | .iteration _ _ => false

end ScanInput

/-- A sequence of inputs: the controller after them and every callback, or `none` once an
iteration divides by zero. -/
def ScanController.runInputs : ScanController → List ScanInput → Option (ScanController × List ScanEvent)
  | s, [] => some (s, [])
  | s, input :: inputs =>
    match input.step s with
    | none => none
    | some (after, events) => (after.runInputs inputs).map fun (final, more) => (final, events ++ more)

namespace ScanInput

/-- An input that sets no zero rate completes, and keeps a non-zero rate non-zero. -/
theorem step_keeps_rate {input : ScanInput} {s : ScanController} (rate : s.profile.rateHz ≠ 0)
    (keeps : input.setsZeroRate = false) :
    ∃ after events, input.step s = some (after, events) ∧ after.profile.rateHz ≠ 0 := by
  -- One case per input: a text, or an iteration whose tick keeps the profile.
  cases input with
  | command cmd stepNow dwellNow =>
    -- Only a `scan_start` text changes the rate, and then to what `rate_hz` reads, not 0.
    simp only [step]
    split_ifs with branch
    · refine ⟨(handleScanCommand cmd stepNow dwellNow s).1, (handleScanCommand cmd stepNow dwellNow s).2, rfl,
        ?_⟩
      rw [handleScanCommand_rateHz]
      split_ifs with started
      · exact profileField_ne_zero (fun zero => by
        simp only [setsZeroRate, branch, started, zero, decide_True, Bool.and_self, beq_self_eq_true,
          Bool.true_eq_false] at keeps) rate
      · exact rate
    · exact ⟨_, _, rfl, rate⟩
  | iteration now distance =>
    obtain ⟨⟨after, events⟩, ticked⟩ := ScanController.tick_isSome rate now distance
    exact ⟨after, events, ticked, (ScanController.tick_profile ticked).symm ▸ rate⟩

end ScanInput

/-- While no input sets a zero rate, the daemon's scan loop never divides by zero. -/
theorem ScanController.runInputs_isSome {inputs : List ScanInput} {s : ScanController}
    (rate : s.profile.rateHz ≠ 0)
    (keeps : ∀ input ∈ inputs, input.setsZeroRate = false) : ∃ result, s.runInputs inputs = some result := by
  -- Induction on the inputs, each keeping the rate non-zero.
  induction inputs generalizing s with
  | nil => exact ⟨_, rfl⟩
  | cons input inputs ih =>
    obtain ⟨after, events, stepped, rate⟩ :=
      ScanInput.step_keeps_rate rate (keeps input (List.mem_cons_self _ _))
    obtain ⟨⟨final, more⟩, ran⟩ := ih rate fun other member => keeps other (List.mem_cons_of_mem _ member)
    exact ⟨(final, events ++ more), by simp [runInputs, stepped, ran]⟩

/--
`ScanController::tick` divides by a zero `rate_hz` exactly after a `scan_start` text whose
`rate_hz` reads 0. From any controller, such a text followed by one iteration of
`BrainDaemon::run` evaluates `1000 / 0`. This holds whether or not the controller was already
running, and for `"rate_hz":0` as for a quoted value. From a controller with a non-zero rate, any
texts and iterations without such a text never divide by zero.
-/
theorem scan_start_zero_rate_divides :
    (∀ (s : ScanController) (cmd : String) (stepNow dwellNow now : BitVec 64) (distance : Int),
      (ScanInput.command cmd stepNow dwellNow).setsZeroRate = true →
      s.runInputs [.command cmd stepNow dwellNow, .iteration now distance] = none) ∧
    (∀ (s : ScanController) (inputs : List ScanInput), s.profile.rateHz ≠ 0 →
      (∀ input ∈ inputs, input.setsZeroRate = false) → ∃ result, s.runInputs inputs = some result) := by
  -- The first part runs the two inputs; the second is the run lemma.
  refine ⟨fun s cmd stepNow dwellNow now distance zero => ?_,
    fun _ _ rate keeps => ScanController.runInputs_isSome rate keeps⟩
  -- The text starts the controller with rate 0, and the iteration's tick divides by it.
  simp only [ScanInput.setsZeroRate, Bool.and_eq_true, decide_eq_true_eq, beq_iff_eq] at zero
  obtain ⟨⟨branch, started⟩, read⟩ := zero
  have running := handleScanCommand_running started stepNow dwellNow s
  have rate : (handleScanCommand cmd stepNow dwellNow s).1.profile.rateHz = 0 := by
    rw [handleScanCommand_rateHz, if_pos started, read]
    rfl
  simp [ScanController.runInputs, ScanInput.step, branch, ScanController.tick, running, rate]

/-- The text `{"type":"scan_start","rate_hz":0}`. -/
def zeroRateText : String := "\x7b\"type\":\"scan_start\",\"rate_hz\":0\x7d"

/-- The text `{"type":"scan_start","rate_hz":"5"}`, whose quoted rate reads 0. -/
def quotedRateText : String := "\x7b\"type\":\"scan_start\",\"rate_hz\":\"5\"\x7d"

/-- From the controller `initScanController` leaves, the text `{"type":"scan_start","rate_hz":0}`
and one iteration of the loop divide by zero; the quoted rate `"5"` sets a zero rate as well. -/
theorem zero_rate_scan_start_divides :
    (ScanInput.command zeroRateText 0 0).setsZeroRate = true ∧
    ScanController.init.runInputs [.command zeroRateText 0 0, .iteration 1 0] = none ∧
    (ScanInput.command quotedRateText 0 0).setsZeroRate = true :=
  -- Both texts read a zero rate; the division follows from the general statement.
  ⟨by decide, scan_start_zero_rate_divides.1 _ _ _ _ _ _ (by decide), by decide⟩

end Milkspider
