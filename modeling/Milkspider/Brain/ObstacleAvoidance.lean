import Mathlib.Algebra.Order.Field.Basic
import Mathlib.Algebra.Order.Field.Rat
import Mathlib.Tactic.Linarith

/-! `ObstacleAvoidance::tick` of the archived `brain_daemon_skeleton`: the closest reading in three
zones ahead of the robot, and the reaction chosen for it. -/

namespace Milkspider

/-- A point of the archived scan history (`ScanController::ScanPoint` of the skeleton). -/
structure ArchiveScanPoint where
  angleDeg : Int
  distanceMm : Int
  deriving DecidableEq, Repr

/-- `Reaction::Action`. -/
inductive ReactionAction
  | none
  | slowDown
  | turnLeft
  | turnRight
  | stop
  | backup
  deriving DecidableEq, Repr

/-- `ObstacleAvoidance::Reaction`. `severity` is the value of the source's `float` expression
computed exactly, over the rationals. -/
structure Reaction where
  obstacleDetected : Bool
  direction : String
  distanceMm : Int
  severity : ℚ
  action : ReactionAction
  deriving DecidableEq

/-- `Reaction()`: no obstacle, no direction, no action. -/
def Reaction.default : Reaction := ⟨false, "", 0, 0, .none⟩

/-- The left zone, `[-60, -20)`. -/
def leftZone (angle : Int) : Prop := -60 ≤ angle ∧ angle < -20

/-- The front zone, `[-20, 20]`. -/
def frontZone (angle : Int) : Prop := -20 ≤ angle ∧ angle ≤ 20

/-- The right zone, `(20, 60]`. -/
def rightZone (angle : Int) : Prop := 20 < angle ∧ angle ≤ 60

instance (angle : Int) : Decidable (leftZone angle) := inferInstanceAs (Decidable (_ ∧ _))

instance (angle : Int) : Decidable (frontZone angle) := inferInstanceAs (Decidable (_ ∧ _))

instance (angle : Int) : Decidable (rightZone angle) := inferInstanceAs (Decidable (_ ∧ _))

/-- The loop of `tick` over the history, from the accumulated zone minima: a positive reading
lowers the minimum of its zone. -/
def zoneMinima (left front right : Int) : List ArchiveScanPoint → Int × Int × Int
  | [] => (left, front, right)
  | p :: rest =>
    if p.distanceMm ≤ 0 then zoneMinima left front right rest
    else if leftZone p.angleDeg then
      zoneMinima (if p.distanceMm < left then p.distanceMm else left) front right rest
    else if frontZone p.angleDeg then
      zoneMinima left (if p.distanceMm < front then p.distanceMm else front) right rest
    else if rightZone p.angleDeg then
      zoneMinima left front (if p.distanceMm < right then p.distanceMm else right) rest
    else zoneMinima left front right rest

/-- The closest of the three zone minima, `std::min({left_min, front_min, right_min})`. -/
def closestOf (minima : Int × Int × Int) : Int := min minima.1 (min minima.2.1 minima.2.2)

/-- The readings a zone's loop looks at: the positive ones at angles of the zone. -/
def zoneReadings (zone : Int → Prop) [DecidablePred zone] (data : List ArchiveScanPoint) : List Int :=
  (data.filter fun p => 0 < p.distanceMm ∧ zone p.angleDeg).map ArchiveScanPoint.distanceMm

/-- A fold of `min` from a start value ends at or below it. -/
theorem foldl_min_le_init (init : Int) (values : List Int) : values.foldl min init ≤ init := by
  -- Induction over the values: each step can only lower the minimum.
  induction values generalizing init with
  | nil => exact le_rfl
  | cons value values ih => exact (ih _).trans (min_le_left _ _)

/-- A fold of `min` ends at or below every value. -/
theorem foldl_min_le (init : Int) (values : List Int) : ∀ value ∈ values, values.foldl min init ≤ value := by
  -- Induction over the values: a value is below the minimum once it is folded in.
  induction values generalizing init with
  | nil => simp
  | cons first values ih =>
    intro value member
    rcases List.mem_cons.mp member with rfl | later
    · exact (foldl_min_le_init (min init value) values).trans (min_le_right _ _)
    · exact ih _ value later

/-- A fold of `min` ends at its start value or at one of the values. -/
theorem foldl_min_mem (init : Int) (values : List Int) :
    values.foldl min init = init ∨ values.foldl min init ∈ values := by
  -- Induction over the values: each step keeps the minimum or takes the new value.
  induction values generalizing init with
  | nil => exact .inl rfl
  | cons first values ih =>
    rcases ih (min init first) with same | member
    · rcases min_choice init first with low | low
      · exact .inl (same.trans low)
      · exact .inr (List.mem_cons.mpr (.inl (same.trans low)))
    · exact .inr (List.mem_cons_of_mem _ member)

/-- Keeping a reading when it is below the minimum so far is taking the minimum. -/
theorem select_lt_eq_min (value current : Int) : (if value < current then value else current) = min current value := by
  -- Both pick the smaller value.
  rw [min_def]
  split_ifs <;> omega

/-- Each zone's loop is a fold of `min` over the positive readings of that zone. -/
theorem zoneMinima_eq (left front right : Int) (data : List ArchiveScanPoint) :
    zoneMinima left front right data =
      ((zoneReadings leftZone data).foldl min left, (zoneReadings frontZone data).foldl min front,
        (zoneReadings rightZone data).foldl min right) := by
  -- A reading counts in at most one zone, since the zones do not overlap.
  induction data generalizing left front right with
  | nil => rfl
  | cons p rest ih =>
    by_cases silent : p.distanceMm ≤ 0
    · simp [zoneMinima, zoneReadings, silent, ih, List.filter_cons, show ¬ 0 < p.distanceMm by omega]
    · by_cases inLeft : leftZone p.angleDeg
      · have : ¬ frontZone p.angleDeg ∧ ¬ rightZone p.angleDeg := by
          simp only [leftZone, frontZone, rightZone] at *; omega
        simp [zoneMinima, zoneReadings, silent, inLeft, this, ih, List.filter_cons, select_lt_eq_min,
          show 0 < p.distanceMm by omega]
      · by_cases inFront : frontZone p.angleDeg
        · have : ¬ rightZone p.angleDeg := by simp only [frontZone, rightZone] at *; omega
          simp [zoneMinima, zoneReadings, silent, inLeft, inFront, this, ih, List.filter_cons, select_lt_eq_min,
            show 0 < p.distanceMm by omega]
        · by_cases inRight : rightZone p.angleDeg
          · simp [zoneMinima, zoneReadings, silent, inLeft, inFront, inRight, ih, List.filter_cons,
              select_lt_eq_min, show 0 < p.distanceMm by omega]
          · simp [zoneMinima, zoneReadings, silent, inLeft, inFront, inRight, ih, List.filter_cons]


/-- The policy's view, `[-60, 60]`. -/
def aheadZone (angle : Int) : Prop := -60 ≤ angle ∧ angle ≤ 60

instance (angle : Int) : Decidable (aheadZone angle) := inferInstanceAs (Decidable (_ ∧ _))

/-- The readings the policy looks at: the positive ones at angles in `[-60, 60]`. -/
def readingsAhead (data : List ArchiveScanPoint) : List Int := zoneReadings aheadZone data

/-- `m` is the smallest of the readings. -/
def IsClosest (m : Int) (readings : List Int) : Prop := m ∈ readings ∧ ∀ d ∈ readings, m ≤ d

instance (m : Int) (readings : List Int) : Decidable (IsClosest m readings) := inferInstanceAs (Decidable (_ ∧ _))

/-- A reading of a zone is a positive distance of a point at an angle of that zone. -/
theorem mem_zoneReadings {zone : Int → Prop} [DecidablePred zone] {data : List ArchiveScanPoint} {d : Int} :
    d ∈ zoneReadings zone data ↔ ∃ p ∈ data, 0 < p.distanceMm ∧ zone p.angleDeg ∧ p.distanceMm = d := by
  -- A reading is the distance of a point that passed the filter.
  simp [zoneReadings, and_assoc]

/-- A reading of a smaller zone is a reading ahead. -/
theorem mem_readingsAhead_of_zone {zone : Int → Prop} [DecidablePred zone]
    (inside : ∀ angle, zone angle → aheadZone angle)
    {data : List ArchiveScanPoint} {d : Int} (member : d ∈ zoneReadings zone data) : d ∈ readingsAhead data := by
  -- The point passes the wider filter too.
  obtain ⟨p, mem, positive, inZone, rfl⟩ := mem_zoneReadings.mp member
  exact mem_zoneReadings.mpr ⟨p, mem, positive, inside _ inZone, rfl⟩

/-- The front minimum is at most every positive front reading. -/
theorem zoneMinima_front_le {data : List ArchiveScanPoint} {p : ArchiveScanPoint} (member : p ∈ data)
    (positive : 0 < p.distanceMm) (inFront : frontZone p.angleDeg) :
    (zoneMinima 9999 9999 9999 data).2.1 ≤ p.distanceMm := by
  -- The front loop is a fold of `min` over the front readings.
  rw [zoneMinima_eq]
  exact foldl_min_le _ _ _ (mem_zoneReadings.mpr ⟨p, member, positive, inFront, rfl⟩)

/-- The closest of the zone minima is at most 9999 and at most every reading ahead, and it is
9999 or a reading ahead. -/
theorem closestOf_spec (data : List ArchiveScanPoint) :
    closestOf (zoneMinima 9999 9999 9999 data) ≤ 9999 ∧
    (∀ d ∈ readingsAhead data, closestOf (zoneMinima 9999 9999 9999 data) ≤ d) ∧
    (closestOf (zoneMinima 9999 9999 9999 data) = 9999 ∨
      closestOf (zoneMinima 9999 9999 9999 data) ∈ readingsAhead data) := by
  -- Every reading ahead lies in exactly one zone, and each zone minimum is 9999 or one of its readings.
  rw [zoneMinima_eq]
  unfold closestOf
  dsimp only
  refine ⟨min_le_left _ _ |>.trans (foldl_min_le_init _ _), fun d member => ?_, ?_⟩
  · obtain ⟨p, mem, positive, ahead, rfl⟩ := mem_zoneReadings.mp member
    by_cases inLeft : leftZone p.angleDeg
    · exact (min_le_left _ _).trans (foldl_min_le _ _ _ (mem_zoneReadings.mpr ⟨p, mem, positive, inLeft, rfl⟩))
    · by_cases inFront : frontZone p.angleDeg
      · exact (min_le_right _ _).trans ((min_le_left _ _).trans
          (foldl_min_le _ _ _ (mem_zoneReadings.mpr ⟨p, mem, positive, inFront, rfl⟩)))
      · have inRight : rightZone p.angleDeg := by simp only [leftZone, frontZone, rightZone, aheadZone] at *; omega
        exact (min_le_right _ _).trans ((min_le_right _ _).trans
          (foldl_min_le _ _ _ (mem_zoneReadings.mpr ⟨p, mem, positive, inRight, rfl⟩)))
  · have fromZone : ∀ (zone : Int → Prop) [DecidablePred zone], (∀ angle, zone angle → aheadZone angle) →
        (zoneReadings zone data).foldl min 9999 = 9999 ∨
          (zoneReadings zone data).foldl min 9999 ∈ readingsAhead data :=
      fun zone _ inside => (foldl_min_mem _ _).imp_right (mem_readingsAhead_of_zone inside)
    have left := fromZone leftZone fun _ inZone => by simp only [leftZone, aheadZone] at *; omega
    have front := fromZone frontZone fun _ inZone => by simp only [frontZone, aheadZone] at *; omega
    have right := fromZone rightZone fun _ inZone => by simp only [rightZone, aheadZone] at *; omega
    -- The minimum of three values is one of them.
    rcases min_choice ((zoneReadings leftZone data).foldl min 9999)
        (min ((zoneReadings frontZone data).foldl min 9999) ((zoneReadings rightZone data).foldl min 9999)) with
      same | same <;> rw [same]
    · exact left
    · rcases min_choice ((zoneReadings frontZone data).foldl min 9999) ((zoneReadings rightZone data).foldl min 9999)
        with same | same <;> rw [same]
      exacts [front, right]

/-- `ObstacleAvoidance`, with the thresholds of `setThresholds`. -/
structure ObstacleAvoidance where
  /-- `m_enabled`. -/
  enabled : Bool
  /-- `m_reaction`. -/
  reaction : Reaction
  /-- `m_warn_threshold_mm`. -/
  warnThresholdMm : Int
  /-- `m_stop_threshold_mm`. -/
  stopThresholdMm : Int
  /-- `m_critical_threshold_mm`. -/
  criticalThresholdMm : Int

namespace ObstacleAvoidance

/-- The constructor: enabled, thresholds 400, 200 and 100 mm. -/
def init : ObstacleAvoidance := ⟨true, Reaction.default, 400, 200, 100⟩

/-- The shape both graded bands of the severity share, `base + span * (1 - (m - low) / (high - low))`. -/
def bandValue (base span : ℚ) (low high m : Int) : ℚ :=
  base + span * (1 - ((m - low : Int) : ℚ) / ((high - low : Int) : ℚ))

/-- The severity of the closest distance: 1 up to the critical threshold, then from 1 down to 0.7
at the stop threshold, then from 0.7 down to 0.3 at the warning threshold. -/
def severity (oa : ObstacleAvoidance) (closest : Int) : ℚ :=
  if closest ≤ oa.criticalThresholdMm then 1
  else if closest ≤ oa.stopThresholdMm then
    bandValue (7 / 10) (3 / 10) oa.criticalThresholdMm oa.stopThresholdMm closest
  else bandValue (3 / 10) (4 / 10) oa.stopThresholdMm oa.warnThresholdMm closest

/-- The action for an obstacle in front. -/
def frontAction (oa : ObstacleAvoidance) (closest : Int) : ReactionAction :=
  if closest ≤ oa.criticalThresholdMm then .backup
  else if closest ≤ oa.stopThresholdMm then .stop
  else .slowDown

/-- `tick`, given whether the scan runs and its history. Disabled or without a scan it only
clears `obstacle_detected`; otherwise it finds the closest reading of the three zones and reacts
when it is nearer than the warning threshold. The eye update that follows is not modelled. -/
def tick (scanRunning : Bool) (data : List ArchiveScanPoint) (oa : ObstacleAvoidance) : ObstacleAvoidance :=
  if !oa.enabled || !scanRunning then { oa with reaction := { oa.reaction with obstacleDetected := false } }
  else if data.isEmpty then { oa with reaction := Reaction.default }
  else
    let minima := zoneMinima 9999 9999 9999 data
    let closest := closestOf minima
    if closest ≥ oa.warnThresholdMm then { oa with reaction := Reaction.default }
    else
      let sideways := if minima.1 < minima.2.2 then ("left", ReactionAction.turnRight) else ("right", .turnLeft)
      let (direction, action) := if minima.2.1 = closest then ("front", oa.frontAction closest) else sideways
      { oa with reaction := ⟨true, direction, closest, oa.severity closest, action⟩ }

/-- A band falls as the distance grows. -/
theorem bandValue_antitone {base span : ℚ} (rising : 0 ≤ span) {low high : Int} (ordered : low < high) :
    Antitone (bandValue base span low high) := by
  -- A larger offset takes a larger fraction off the band.
  intro near far closer
  have width : (0 : ℚ) < ((high - low : Int) : ℚ) := by exact_mod_cast (show 0 < high - low by omega)
  have offsets : ((near - low : Int) : ℚ) ≤ ((far - low : Int) : ℚ) := by
    exact_mod_cast (show near - low ≤ far - low by omega)
  unfold bandValue
  exact add_le_add_left (mul_le_mul_of_nonneg_left
    (sub_le_sub_left (div_le_div_of_nonneg_right offsets width.le) 1) rising) base

/-- From its low end on, a band is at most `base + span`. -/
theorem bandValue_le_top {base span : ℚ} (rising : 0 ≤ span) {low high m : Int} (ordered : low < high)
    (above : low ≤ m) :
    bandValue base span low high m ≤ base + span := by
  -- From the low end the fraction taken off is not negative.
  have width : (0 : ℚ) < ((high - low : Int) : ℚ) := by exact_mod_cast (show 0 < high - low by omega)
  have offset : (0 : ℚ) ≤ ((m - low : Int) : ℚ) := by exact_mod_cast (show 0 ≤ m - low by omega)
  have fraction := div_nonneg offset width.le
  unfold bandValue
  nlinarith

/-- Up to its high end, a band is at least `base`. -/
theorem bandValue_base_le {base span : ℚ} (rising : 0 ≤ span) {low high m : Int} (ordered : low < high)
    (below : m ≤ high) :
    base ≤ bandValue base span low high m := by
  -- Up to the high end the fraction taken off is at most 1.
  have width : (0 : ℚ) < ((high - low : Int) : ℚ) := by exact_mod_cast (show 0 < high - low by omega)
  have offset : ((m - low : Int) : ℚ) ≤ ((high - low : Int) : ℚ) := by
    exact_mod_cast (show m - low ≤ high - low by omega)
  have fraction := (div_le_one width).mpr offset
  unfold bandValue
  nlinarith

/-- With the thresholds in order, the severity lies in `[0.3, 1]` below the warning threshold. -/
theorem severity_between {oa : ObstacleAvoidance} (lower : oa.criticalThresholdMm < oa.stopThresholdMm)
    (upper : oa.stopThresholdMm < oa.warnThresholdMm) {m : Int} (near : m < oa.warnThresholdMm) :
    3 / 10 ≤ oa.severity m ∧ oa.severity m ≤ 1 := by
  -- Band by band: each lies between its base and its top.
  unfold severity
  split_ifs with critical stop
  · norm_num
  · -- Between the critical and stop thresholds the band runs from 1 down to 0.7.
    have top := @bandValue_le_top (7 / 10) (3 / 10) (by norm_num) _ _ m lower (by omega)
    have bottom := @bandValue_base_le (7 / 10) (3 / 10) (by norm_num) _ _ m lower stop
    constructor <;> linarith
  · -- Between the stop and warning thresholds it runs from 0.7 down to 0.3.
    have top := @bandValue_le_top (3 / 10) (4 / 10) (by norm_num) _ _ m upper (by omega)
    have bottom := @bandValue_base_le (3 / 10) (4 / 10) (by norm_num) _ _ m upper near.le
    constructor <;> linarith

/-- With the thresholds in order, the severity never grows as the closest distance grows. -/
theorem severity_antitone {oa : ObstacleAvoidance} (lower : oa.criticalThresholdMm < oa.stopThresholdMm)
    (upper : oa.stopThresholdMm < oa.warnThresholdMm) : Antitone oa.severity := by
  -- Within a band the value falls; across bands, 1 ≥ the first band ≥ 0.7 ≥ the second band.
  intro near far closer
  have firstTop := fun m above => @bandValue_le_top (7 / 10) (3 / 10) (by norm_num) _ _ m lower above
  have firstBottom := fun m below => @bandValue_base_le (7 / 10) (3 / 10) (by norm_num) _ _ m lower below
  have secondTop := fun m above => @bandValue_le_top (3 / 10) (4 / 10) (by norm_num) _ _ m upper above
  unfold severity
  split_ifs with farCritical nearCritical nearStop farStop nearCritical nearStop nearCritical nearStop
  · exact le_rfl
  · exact absurd (closer.trans farCritical) nearCritical
  · exact absurd (closer.trans farCritical) nearCritical
  · linarith [firstTop far (by omega)]
  · exact bandValue_antitone (by norm_num) lower closer
  · exact absurd (closer.trans farStop) nearStop
  · linarith [secondTop far (by omega)]
  · linarith [secondTop far (by omega), firstBottom near nearStop]
  · exact bandValue_antitone (by norm_num) upper closer

/-- Enabled, with a scan and a closest value below the warning threshold, `tick` reports the
obstacle at that distance with its severity, and reacts to the front if the front minimum is the
closest. -/
theorem tick_near {oa : ObstacleAvoidance} (enabled : oa.enabled = true) {data : List ArchiveScanPoint}
    (nonempty : data ≠ []) (near : closestOf (zoneMinima 9999 9999 9999 data) < oa.warnThresholdMm) :
    (oa.tick true data).reaction.obstacleDetected = true ∧
    (oa.tick true data).reaction.distanceMm = closestOf (zoneMinima 9999 9999 9999 data) ∧
    (oa.tick true data).reaction.severity = oa.severity (closestOf (zoneMinima 9999 9999 9999 data)) ∧
    ((zoneMinima 9999 9999 9999 data).2.1 = closestOf (zoneMinima 9999 9999 9999 data) →
      (oa.tick true data).reaction.action = oa.frontAction (closestOf (zoneMinima 9999 9999 9999 data))) := by
  -- Enabled, scanning and near, `tick` takes the reacting branch.
  have present : data.isEmpty = false := by
    cases data with
    | nil => exact absurd rfl nonempty
    | cons _ _ => rfl
  simp only [tick, enabled, present, Bool.not_true, Bool.or_self, Bool.false_eq_true, if_false, ge_iff_le,
    if_neg (not_le.mpr near)]
  exact ⟨trivial, trivial, trivial, fun front => by simp only [front, if_true]⟩

/-- Enabled, with a scan, `tick` reports no obstacle unless the closest value is below the warning
threshold. -/
theorem tick_far {oa : ObstacleAvoidance} (enabled : oa.enabled = true) {data : List ArchiveScanPoint}
    (far : ¬ closestOf (zoneMinima 9999 9999 9999 data) < oa.warnThresholdMm) :
    (oa.tick true data).reaction.obstacleDetected = false := by
  -- At or past the warning threshold, `tick` keeps the default reaction.
  simp only [tick, enabled, Bool.not_true, Bool.or_self, Bool.false_eq_true, if_false, ge_iff_le,
    if_pos (not_lt.mp far)]
  split_ifs <;> rfl

end ObstacleAvoidance

/--
The obstacle policy reacts to the closest reading ahead, provided the warning threshold is at most
the sentinel 9999. Take thresholds `critical_mm < stop_mm < warn_mm ≤ 9999` and any scan history,
and call `tick` enabled with the scan running. An obstacle is detected exactly when some positive
reading at an angle in `[-60, 60]` is below `warn_mm`. Let `m` be the smallest such reading, with
`m < warn_mm`. Then `distance_mm = m`, and the severity is the policy's function of `m`, which lies
in `[0.3, 1]` below `warn_mm` and never grows with `m`. If `m` is read in the front zone
`[-20, 20]`, the action is BACKUP up to `critical_mm`, STOP up to `stop_mm`, and SLOW_DOWN beyond.
-/
theorem obstacle_reaction_of_closest (oa : ObstacleAvoidance) (data : List ArchiveScanPoint)
    (thresholds : oa.criticalThresholdMm < oa.stopThresholdMm ∧ oa.stopThresholdMm < oa.warnThresholdMm ∧
      oa.warnThresholdMm ≤ 9999)
    (enabled : oa.enabled = true) :
    ((oa.tick true data).reaction.obstacleDetected = true ↔ ∃ d ∈ readingsAhead data, d < oa.warnThresholdMm) ∧
    (∀ m, IsClosest m (readingsAhead data) → m < oa.warnThresholdMm →
      (oa.tick true data).reaction.distanceMm = m ∧
      (oa.tick true data).reaction.severity = oa.severity m ∧
      ((∃ p ∈ data, 0 < p.distanceMm ∧ frontZone p.angleDeg ∧ p.distanceMm = m) →
        (oa.tick true data).reaction.action =
          if m ≤ oa.criticalThresholdMm then .backup else if m ≤ oa.stopThresholdMm then .stop else .slowDown)) ∧
    (∀ m, m < oa.warnThresholdMm → 3 / 10 ≤ oa.severity m ∧ oa.severity m ≤ 1) ∧
    Antitone oa.severity := by
  -- The zone minima give the closest reading ahead, and `tick` reacts to it.
  obtain ⟨lower, upper, sentinel⟩ := thresholds
  obtain ⟨belowSentinel, belowReadings, attained⟩ := closestOf_spec data
  -- Below the warning threshold the closest value is below the sentinel, so it is a reading.
  have reading : closestOf (zoneMinima 9999 9999 9999 data) < oa.warnThresholdMm →
      closestOf (zoneMinima 9999 9999 9999 data) ∈ readingsAhead data :=
    fun near => attained.resolve_left (by omega)
  have nonempty : closestOf (zoneMinima 9999 9999 9999 data) < oa.warnThresholdMm → data ≠ [] := by
    rintro near rfl
    simpa [readingsAhead, zoneReadings] using reading near
  refine ⟨⟨fun detected => ?_, fun ⟨d, member, close⟩ => ?_⟩, fun m closest near => ?_,
    fun m near => ObstacleAvoidance.severity_between lower upper near,
    ObstacleAvoidance.severity_antitone lower upper⟩
  · by_cases near : closestOf (zoneMinima 9999 9999 9999 data) < oa.warnThresholdMm
    · exact ⟨_, reading near, near⟩
    · rw [ObstacleAvoidance.tick_far enabled near] at detected
      cases detected
  · have near := (belowReadings d member).trans_lt close
    exact (ObstacleAvoidance.tick_near enabled (nonempty near) near).1
  · -- The closest value is at most `m`, hence a reading, hence at least `m`.
    have near' := (belowReadings m closest.1).trans_lt near
    have same := le_antisymm (belowReadings m closest.1) (closest.2 _ (reading near'))
    obtain ⟨-, distance, severity, front⟩ := ObstacleAvoidance.tick_near enabled (nonempty near') near'
    refine ⟨distance.trans same, severity.trans (congrArg _ same),
      fun ⟨p, member, positive, inFront, read⟩ => ?_⟩
    -- A front reading at `m` puts the front minimum at `m`, so the front branch is taken.
    have frontMin : (zoneMinima 9999 9999 9999 data).2.1 = closestOf (zoneMinima 9999 9999 9999 data) :=
      le_antisymm ((zoneMinima_front_le member positive inFront).trans (read.trans same.symm).le)
        ((min_le_right _ _).trans (min_le_left _ _))
    rw [front frontMin, same]
    rfl

/-- Thresholds 100, 200 and 10000 mm: the warning threshold is above the sentinel. -/
def wideWarnAvoidance : ObstacleAvoidance := ⟨true, Reaction.default, 10000, 200, 100⟩

/-- With the warning threshold above 9999, a scan whose only point straight ahead is a failed
reading (-1) holds no positive reading in view, yet an obstacle is reported at 9999 mm, the zone
minima's sentinel. -/
theorem wide_warn_reports_sentinel :
    readingsAhead [⟨0, -1⟩] = [] ∧
    (wideWarnAvoidance.tick true [⟨0, -1⟩]).reaction.obstacleDetected = true ∧
    (wideWarnAvoidance.tick true [⟨0, -1⟩]).reaction.distanceMm = 9999 := by
  -- The failed reading is skipped, every zone minimum stays at 9999, and 9999 < 10000.
  decide

/-- A reading of 150 mm straight ahead and one of 300 mm to the right, with the default
thresholds: the obstacle is at 150 mm, in front, between the critical and stop thresholds, so the
reaction is STOP. -/
theorem front_reading_stops :
    (ObstacleAvoidance.init.criticalThresholdMm < ObstacleAvoidance.init.stopThresholdMm ∧
      ObstacleAvoidance.init.stopThresholdMm < ObstacleAvoidance.init.warnThresholdMm ∧
      ObstacleAvoidance.init.warnThresholdMm ≤ 9999) ∧
    (ObstacleAvoidance.init.tick true [⟨0, 150⟩, ⟨40, 300⟩]).reaction.distanceMm = 150 ∧
    (ObstacleAvoidance.init.tick true [⟨0, 150⟩, ⟨40, 300⟩]).reaction.action = .stop := by
  -- The default thresholds are ordered; the theorem gives the reaction at 150 mm.
  have law := obstacle_reaction_of_closest ObstacleAvoidance.init [⟨0, 150⟩, ⟨40, 300⟩] (by decide) rfl
  obtain ⟨distance, -, front⟩ := law.2.1 150 (by decide) (by decide)
  exact ⟨by decide, distance, (front ⟨⟨0, 150⟩, by simp, by decide, by decide, rfl⟩).trans (by decide)⟩

end Milkspider
