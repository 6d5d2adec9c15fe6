import Mathlib.Data.List.Nodup

/-! `ScanController` of `src/scan_controller.cpp`: the sweep of the scan servo, the readings after
each dwell, the scan history and the closest reading the daemon's `scan_status` reply reports. -/

namespace Milkspider

/-- `ScanController::ScanProfile`; its fields are `int`. -/
structure ScanProfile where
  minDeg : Int
  maxDeg : Int
  stepDeg : Int
  rateHz : Int
  dwellMs : Int
  deriving DecidableEq, Repr

/-- The profile of the constructor and of `initScanController`: 20° to 160° in 10° steps at
5 Hz, 80 ms dwell. -/
def ScanProfile.default : ScanProfile := ⟨20, 160, 10, 5, 80⟩

/-- `ScanController::ScanPoint`. -/
structure ScanPoint where
  angleDeg : Int
  distanceMm : Int
  timestampMs : BitVec 64
  deriving DecidableEq, Repr

/-- The callbacks the controller makes: the servo callback with an angle, and a distance reading,
handed to the data callback as the point recorded. -/
inductive ScanEvent
  | servo (angleDeg : Int)
  | reading (point : ScanPoint)
  deriving DecidableEq, Repr

/-- The point of a reading. -/
def ScanEvent.point? : ScanEvent → Option ScanPoint
  | .servo _ => none
  | .reading point => some point

/-- The state of `ScanController`. -/
structure ScanController where
  /-- `m_profile`. -/
  profile : ScanProfile
  /-- `m_running`. -/
  running : Bool
  /-- `m_current_angle`. -/
  currentAngle : Int
  /-- `m_direction`, 1 or -1. -/
  direction : Int
  /-- `m_last_step_ms`. -/
  lastStepMs : BitVec 64
  /-- `m_dwell_start_ms`. -/
  dwellStartMs : BitVec 64
  /-- `m_dwelling`. -/
  dwelling : Bool
  /-- `m_scan_data`. -/
  scanData : List ScanPoint
  deriving DecidableEq, Repr

namespace ScanController

/-- A controller as `BrainDaemon::initScanController` leaves it: not started, at 90°. -/
def init : ScanController := ⟨ScanProfile.default, false, 90, 1, 0, 0, false, []⟩

/-- `start`, with the two readings of the clock it takes: go to `min_deg` upwards, clear the
history, command the servo and dwell there. -/
def start (stepNow dwellNow : BitVec 64) (s : ScanController) : ScanController × List ScanEvent :=
  if s.running then (s, [])
  else
    ({ s with
        running := true
        currentAngle := s.profile.minDeg
        direction := 1
        scanData := []
        lastStepMs := stepNow
        dwellStartMs := dwellNow
        dwelling := true },
      [.servo s.profile.minDeg])

/-- `stop`: return the servo to 90°. -/
def stop (s : ScanController) : ScanController × List ScanEvent :=
  if s.running then ({ s with running := false, currentAngle := 90 }, [.servo 90]) else (s, [])

/-- The history update of `tick`: the first point at the reading's angle takes its distance and
time, or the reading is appended. -/
def storeReading (point : ScanPoint) : List ScanPoint → List ScanPoint
  | [] => [point]
  | p :: rest =>
    if p.angleDeg = point.angleDeg then
      { p with distanceMm := point.distanceMm, timestampMs := point.timestampMs } :: rest
    else p :: storeReading point rest

/-- The next angle of a step and the direction after it: one step on, bounced at the limits. -/
def nextAngle (profile : ScanProfile) (angle direction : Int) : Int × Int :=
  let angle := angle + direction * profile.stepDeg
  if angle > profile.maxDeg then (profile.maxDeg, -1)
  else if angle < profile.minDeg then (profile.minDeg, 1)
  else (angle, direction)

/-- `tick` at `now`, where `distance` is what the distance callback returns if it is called.
`none` when it evaluates `1000 / m_profile.rate_hz` with `rate_hz = 0`, which is undefined
behaviour. After the dwell the controller takes its reading; otherwise, once a period has passed
since the last step, it steps and dwells again. -/
def tick (now : BitVec 64) (distance : Int) (s : ScanController) : Option (ScanController × List ScanEvent) :=
  if !s.running then some (s, [])
  else if s.profile.rateHz = 0 then none
  else
    let periodMs : BitVec 32 := BitVec.ofInt 32 ((1000 : Int).tdiv s.profile.rateHz)
    if s.dwelling then
      if BitVec.ofInt 64 s.profile.dwellMs ≤ now - s.dwellStartMs then
        let point : ScanPoint := ⟨s.currentAngle, distance, now⟩
        some ({ s with dwelling := false, scanData := storeReading point s.scanData }, [.reading point])
      else some (s, [])
    else if periodMs.setWidth 64 ≤ now - s.lastStepMs then
      let next := nextAngle s.profile s.currentAngle s.direction
      some ({ s with
          currentAngle := next.1
          direction := next.2
          dwellStartMs := now
          dwelling := true
          lastStepMs := now },
        [.servo next.1])
    else some (s, [])

end ScanController

/-- The calls the daemon makes on its controller. -/
inductive ScanCall
  | setProfile (profile : ScanProfile)
  | start (stepNow dwellNow : BitVec 64)
  | stop
  | tick (now : BitVec 64) (distance : Int)
  deriving DecidableEq, Repr

namespace ScanController

/-- One call: the controller after it and the callbacks it made, or `none` if it divided by zero. -/
def call : ScanCall → ScanController → Option (ScanController × List ScanEvent)
  | .setProfile profile, s => some ({ s with profile := profile }, [])
  | .start stepNow dwellNow, s => some (s.start stepNow dwellNow)
  | .stop, s => some s.stop
  | .tick now distance, s => s.tick now distance

/-- A sequence of calls: the controller after them and every callback, in order. -/
def run : ScanController → List ScanCall → Option (ScanController × List ScanEvent)
  | s, [] => some (s, [])
  | s, c :: calls =>
    match s.call c with
    | none => none
    | some (after, events) => (after.run calls).map fun (final, more) => (final, events ++ more)

/-- What one `tick` can do: nothing; take the reading after the dwell; or step and dwell again. -/
theorem tick_cases {s after : ScanController} {now : BitVec 64} {distance : Int} {events : List ScanEvent}
    (ticked : s.tick now distance = some (after, events)) :
    (after = s ∧ events = []) ∨
    (s.running ∧ s.dwelling ∧
      after = { s with dwelling := false, scanData := storeReading ⟨s.currentAngle, distance, now⟩ s.scanData } ∧
      events = [.reading ⟨s.currentAngle, distance, now⟩]) ∨
    (s.running ∧ s.dwelling = false ∧
      after = { s with
        currentAngle :=
  -- The three branches of `tick` past the rate check.
  (nextAngle s.profile s.currentAngle s.direction).1
        direction := (nextAngle s.profile s.currentAngle s.direction).2
        dwellStartMs := now
        dwelling := true
        lastStepMs := now } ∧
      events = [.servo (nextAngle s.profile s.currentAngle s.direction).1]) := by
  unfold tick at ticked
  dsimp only at ticked
  split_ifs at ticked with running _ dwelling <;> simp only [Option.some.injEq, Prod.mk.injEq, reduceCtorEq] at ticked
  all_goals first
    | exact .inl ⟨ticked.1.symm, ticked.2.symm⟩
    | exact .inr (.inl ⟨by simpa using running, dwelling, ticked.1.symm, ticked.2.symm⟩)
    | exact .inr (.inr ⟨by simpa using running, by simpa using dwelling, ticked.1.symm, ticked.2.symm⟩)


/-- A run splits into its first call and the run of the others. -/
theorem run_cons_eq_some {s final : ScanController} {c : ScanCall} {calls : List ScanCall} {events : List ScanEvent}
    (ran : s.run (c :: calls) = some (final, events)) :
    ∃ after first rest, s.call c = some (after, first) ∧ after.run calls = some (final, rest) ∧
      events = first ++ rest := by
  -- A run that completes completed its first call.
  simp only [run] at ran
  split at ran
  · cases ran
  · rename_i after first called
    obtain ⟨⟨_, rest⟩, ranRest, same⟩ := Option.map_eq_some'.mp ran
    cases same
    exact ⟨after, first, rest, called, ranRest, rfl⟩

/-- A property of the controller and the callbacks so far that every allowed call keeps holds
after any run of allowed calls. -/
theorem run_preserves (P : ScanController → List ScanEvent → Prop) (allowed : ScanCall → Prop)
    (step : ∀ {c s after events log}, allowed c → s.call c = some (after, events) → P s log →
      P after (log ++ events))
    {calls : List ScanCall} (onlyAllowed : ∀ c ∈ calls, allowed c) {s final : ScanController}
    {events : List ScanEvent} (ran : s.run calls = some (final, events)) (log : List ScanEvent) (holds : P s log) :
    P final (log ++ events) := by
  -- One call at a time, the log growing by that call's callbacks.
  induction calls generalizing s log events with
  | nil =>
    simp only [run, Option.some.injEq, Prod.mk.injEq] at ran
    obtain ⟨rfl, rfl⟩ := ran
    simpa using holds
  | cons c calls ih =>
    obtain ⟨after, first, rest, called, ranRest, rfl⟩ := run_cons_eq_some ran
    rw [← List.append_assoc]
    exact ih (fun d member => onlyAllowed d (List.mem_cons_of_mem c member)) ranRest _
      (step (onlyAllowed c (List.mem_cons_self c calls)) called holds)

/-- `start` keeps the profile. -/
@[simp] theorem start_profile (stepNow dwellNow : BitVec 64) (s : ScanController) :
    (s.start stepNow dwellNow).1.profile = s.profile := by
  -- `start` writes no profile.
  unfold start
  split_ifs <;> rfl

/-- After `start` the controller runs. -/
@[simp] theorem start_running (stepNow dwellNow : BitVec 64) (s : ScanController) :
    (s.start stepNow dwellNow).1.running = true := by
  -- `start` sets `running`, or finds it set.
  unfold start
  split_ifs with running
  · exact running
  · rfl

/-- `stop` keeps the profile. -/
@[simp] theorem stop_profile (s : ScanController) : s.stop.1.profile = s.profile := by
  -- `stop` writes no profile.
  unfold stop
  split_ifs <;> rfl

/-- A `tick` keeps the profile. -/
theorem tick_profile {s after : ScanController} {now : BitVec 64} {distance : Int} {events : List ScanEvent}
    (ticked : s.tick now distance = some (after, events)) : after.profile = s.profile := by
  -- No branch of `tick` writes the profile.
  rcases tick_cases ticked with ⟨rfl, -⟩ | ⟨-, -, rfl, -⟩ | ⟨-, -, rfl, -⟩ <;> rfl

/-- With a non-zero rate, `tick` never divides by zero. -/
theorem tick_isSome {s : ScanController} (rate : s.profile.rateHz ≠ 0) (now : BitVec 64) (distance : Int) :
    ∃ result, s.tick now distance = some result := by
  -- The only failure is the division by the rate.
  unfold tick
  dsimp only
  split_ifs <;> exact ⟨_, rfl⟩

/-- The rate of every profile in force is non-zero: the controller's, and that of every profile a
call sets. -/
def RatesNonzero (s : ScanController) (calls : List ScanCall) : Prop :=
  s.profile.rateHz ≠ 0 ∧ ∀ profile, ScanCall.setProfile profile ∈ calls → profile.rateHz ≠ 0

/-- While every rate in force is non-zero, every run of calls completes. -/
theorem run_isSome {calls : List ScanCall} {s : ScanController} (rates : RatesNonzero s calls) :
    ∃ result, s.run calls = some result := by
  -- Each call completes and leaves a profile with a non-zero rate for the next.
  induction calls generalizing s with
  | nil => exact ⟨_, rfl⟩
  | cons c calls ih =>
    have next : ∃ after first, s.call c = some (after, first) ∧ RatesNonzero after calls := by
      cases c with
      | setProfile profile =>
        exact ⟨_, _, rfl, rates.2 profile (List.mem_cons_self _ _),
          fun p member => rates.2 p (List.mem_cons_of_mem _ member)⟩
      | start stepNow dwellNow =>
        exact ⟨_, _, rfl, (start_profile stepNow dwellNow s).symm ▸ rates.1,
          fun p member => rates.2 p (List.mem_cons_of_mem _ member)⟩
      | stop =>
        exact ⟨_, _, rfl, (stop_profile s).symm ▸ rates.1,
          fun p member => rates.2 p (List.mem_cons_of_mem _ member)⟩
      | tick now distance =>
        obtain ⟨⟨after, first⟩, ticked⟩ := tick_isSome rates.1 now distance
        exact ⟨after, first, ticked, (tick_profile ticked).symm ▸ rates.1,
          fun p member => rates.2 p (List.mem_cons_of_mem _ member)⟩
    obtain ⟨after, first, called, rates⟩ := next
    obtain ⟨⟨final, rest⟩, ranRest⟩ := ih rates
    exact ⟨(final, first ++ rest), by simp [run, called, ranRest]⟩


end ScanController

/-- A callback within a profile: a commanded angle lies in `[min_deg, max_deg]`. -/
def ScanEvent.WithinProfile (profile : ScanProfile) : ScanEvent → Prop
  | .servo angle => profile.minDeg ≤ angle ∧ angle ≤ profile.maxDeg
  | .reading _ => True

/-- Servo commands and readings alternate, each reading at the angle commanded just before it.
`owed` is the angle of a command whose reading has not come yet. -/
def alternates : Option Int → List ScanEvent → Bool
  | _, [] => true
  | none, .servo angle :: rest => alternates (some angle) rest
  | some angle, .reading point :: rest => point.angleDeg == angle && alternates none rest
  | _, _ => false

/-- The latest reading at an angle among the callbacks, if there is one. -/
def latestReading (angle : Int) (events : List ScanEvent) : Option ScanPoint :=
  (events.filterMap ScanEvent.point?).reverse.find? fun point => point.angleDeg == angle

/-- The latest reading among more callbacks is the latest among the new ones, if any. -/
theorem latestReading_append (angle : Int) (events more : List ScanEvent) :
    latestReading angle (events ++ more) = (latestReading angle more).or (latestReading angle events) := by
  -- The newest readings are searched first.
  simp [latestReading, List.filterMap_append, List.find?_append]

namespace ScanController

/-- The next angle lies within the limits, whatever the angle and direction it starts from. -/
theorem nextAngle_within {profile : ScanProfile} (ordered : profile.minDeg ≤ profile.maxDeg) (angle direction : Int) :
    profile.minDeg ≤ (nextAngle profile angle direction).1 ∧
      (nextAngle profile angle direction).1 ≤ profile.maxDeg := by
  -- Past either limit the angle is set to that limit; otherwise it already lies between them.
  unfold nextAngle
  dsimp only
  split_ifs <;> dsimp only <;> omega

/-- `start` commands `min_deg`, within the profile. -/
theorem start_within {s : ScanController} (ordered : s.profile.minDeg ≤ s.profile.maxDeg)
    (stepNow dwellNow : BitVec 64) :
    ∀ event ∈ (s.start stepNow dwellNow).2, event.WithinProfile s.profile := by
  -- A start that starts commands `min_deg`.
  unfold start
  split_ifs
  · simp
  · simpa [ScanEvent.WithinProfile] using ordered

/-- `tick` commands only angles within the profile in force. -/
theorem tick_within {s after : ScanController} {now : BitVec 64} {distance : Int} {events : List ScanEvent}
    (ordered : s.profile.minDeg ≤ s.profile.maxDeg) (ticked : s.tick now distance = some (after, events)) :
    ∀ event ∈ events, event.WithinProfile s.profile := by
  -- A tick commands only the next angle, which lies within the limits.
  rcases tick_cases ticked with ⟨-, rfl⟩ | ⟨-, -, -, rfl⟩ | ⟨-, -, -, rfl⟩
  · simp
  · simp [ScanEvent.WithinProfile]
  · simpa [ScanEvent.WithinProfile] using nextAngle_within ordered s.currentAngle s.direction

/-- The angle whose reading is owed: the last commanded angle, while a running controller
dwells. -/
def pending (s : ScanController) : Option Int := if s.running && s.dwelling then some s.currentAngle else none

/-- Every call but `stop` moves the alternation from what the controller owes before it to what
it owes after it. -/
theorem call_alternates {c : ScanCall} {s after : ScanController} {events : List ScanEvent} (notStop : c ≠ .stop)
    (called : s.call c = some (after, events)) (later : List ScanEvent) :
    alternates s.pending (events ++ later) = alternates after.pending later := by
  -- Call by call: each moves what is owed as the callbacks it makes pay and owe.
  cases c with
  | setProfile profile => cases called; rfl
  | start stepNow dwellNow =>
    -- A start that starts owes the reading at `min_deg`.
    simp only [call, start, Option.some.injEq] at called
    split_ifs at called with running <;> cases called
    · rfl
    · simp [pending, running, alternates]
  | stop => exact absurd rfl notStop
  | tick now distance =>
    -- A reading pays what was owed; a step owes the reading at its new angle.
    rcases tick_cases called with ⟨rfl, rfl⟩ | ⟨running, dwelling, rfl, rfl⟩ | ⟨running, still, rfl, rfl⟩
    · rfl
    · simp [pending, running, dwelling, alternates]
    · simp [pending, running, still, alternates]

/-- The history keeps no angle twice, and holds for every angle the latest reading at it among
`events`. -/
def HoldsLatest (data : List ScanPoint) (events : List ScanEvent) : Prop :=
  (data.map ScanPoint.angleDeg).Nodup ∧
    ∀ angle, data.find? (fun point => point.angleDeg == angle) = latestReading angle events

/-- Storing a reading keeps the angles, or adds the reading's angle at the end. -/
theorem map_storeReading (point : ScanPoint) (data : List ScanPoint) :
    (storeReading point data).map ScanPoint.angleDeg =
      if point.angleDeg ∈ data.map ScanPoint.angleDeg then data.map ScanPoint.angleDeg
      else data.map ScanPoint.angleDeg ++ [point.angleDeg] := by
  -- Induction over the history: the reading replaces the point at its angle, or goes at the end.
  induction data with
  | nil => rfl
  | cons p rest ih =>
    by_cases same : p.angleDeg = point.angleDeg
    · simp [storeReading, same]
    · simp only [storeReading, if_neg same, List.map_cons, ih, List.mem_cons, Ne.symm same, false_or]
      split_ifs <;> rfl

/-- Storing a reading keeps every angle once. -/
theorem nodup_storeReading (point : ScanPoint) {data : List ScanPoint} (nodup : (data.map ScanPoint.angleDeg).Nodup) :
    ((storeReading point data).map ScanPoint.angleDeg).Nodup := by
  -- An angle already present is kept once; a new one is added once.
  rw [map_storeReading]
  split_ifs with present
  · exact nodup
  · exact nodup.append (List.nodup_singleton _) (List.disjoint_singleton.mpr present)

/-- After storing a reading, the point found at its angle is the reading; at other angles the
history is unchanged. -/
theorem find?_storeReading (point : ScanPoint) (data : List ScanPoint) (angle : Int) :
    (storeReading point data).find? (fun p => p.angleDeg == angle) =
      if point.angleDeg = angle then some point else data.find? (fun p => p.angleDeg == angle) := by
  -- Induction over the history: the reading is found at its angle, and elsewhere nothing moved.
  induction data with
  | nil => by_cases here : point.angleDeg = angle <;> simp [storeReading, here]
  | cons p rest ih =>
    by_cases same : p.angleDeg = point.angleDeg
    · -- The first point at the reading's angle takes its distance and time, becoming the reading.
      by_cases here : point.angleDeg = angle
      · cases p
        cases point
        simp_all [storeReading]
      · simp [storeReading, same, here]
    · simp only [storeReading, if_neg same, List.find?_cons, ih]
      by_cases here : p.angleDeg = angle
      · simp [here, show point.angleDeg ≠ angle from fun other => same (here.trans other.symm)]
      · simp only [beq_false_of_ne here]


/-- A servo command adds no reading. -/
theorem latestReading_servo (angle commanded : Int) (events : List ScanEvent) :
    latestReading angle (events ++ [.servo commanded]) = latestReading angle events := by
  -- A servo command carries no point.
  simp [latestReading_append, latestReading, ScanEvent.point?]

/-- A reading is the latest at its own angle. -/
theorem latestReading_reading (angle : Int) (point : ScanPoint) (events : List ScanEvent) :
    latestReading angle (events ++ [.reading point]) =
      if point.angleDeg = angle then some point else latestReading angle events := by
  -- The new reading is searched first.
  by_cases here : point.angleDeg = angle <;> simp [latestReading_append, latestReading, ScanEvent.point?, here]

/-- Every call keeps the history free of repeated angles. -/
theorem call_nodup {c : ScanCall} {s after : ScanController} {events : List ScanEvent}
    (called : s.call c = some (after, events)) (nodup : (s.scanData.map ScanPoint.angleDeg).Nodup) :
    (after.scanData.map ScanPoint.angleDeg).Nodup := by
  -- Call by call: a start clears the history, and a reading is stored by `storeReading`.
  cases c with
  | setProfile profile => cases called; exact nodup
  | start stepNow dwellNow =>
    simp only [call, start, Option.some.injEq] at called
    split_ifs at called <;> cases called
    exacts [nodup, List.nodup_nil]
  | stop =>
    simp only [call, stop, Option.some.injEq] at called
    split_ifs at called <;> cases called <;> exact nodup
  | tick now distance =>
    rcases tick_cases called with ⟨rfl, -⟩ | ⟨-, -, rfl, -⟩ | ⟨-, -, rfl, -⟩
    exacts [nodup, nodup_storeReading _ nodup, nodup]

/-- Every call but `start` keeps the history the latest reading per angle among the callbacks so
far. -/
theorem call_holdsLatest {c : ScanCall} {s after : ScanController} {events log : List ScanEvent}
    (notStart : ∀ stepNow dwellNow, c ≠ .start stepNow dwellNow) (called : s.call c = some (after, events))
    (holds : HoldsLatest s.scanData log) : HoldsLatest after.scanData (log ++ events) := by
  -- Call by call: the history changes only where a reading is stored, which is where it becomes the latest.
  have nodup := call_nodup called holds.1
  cases c with
  | setProfile profile => cases called; simpa using holds
  | start stepNow dwellNow => exact absurd rfl (notStart stepNow dwellNow)
  | stop =>
    -- `stop` keeps the history, and its servo command is no reading.
    simp only [call, stop, Option.some.injEq] at called
    split_ifs at called <;> cases called
    · exact ⟨nodup, fun angle => (holds.2 angle).trans (latestReading_servo angle 90 log).symm⟩
    · simpa using holds
  | tick now distance =>
    -- A reading is stored at its angle, which is where it becomes the latest.
    rcases tick_cases called with ⟨rfl, rfl⟩ | ⟨-, -, rfl, rfl⟩ | ⟨-, -, rfl, rfl⟩
    · simpa using holds
    · exact ⟨nodup, fun angle => by rw [find?_storeReading, latestReading_reading, holds.2 angle]⟩
    · exact ⟨nodup, fun angle => (holds.2 angle).trans (latestReading_servo angle _ log).symm⟩

/-- From a stopped controller, a `start` and calls without another `start` leave the history the
latest reading per angle among their callbacks. -/
theorem run_start_holdsLatest {s : ScanController} (stepNow dwellNow : BitVec 64) {calls : List ScanCall}
    (stopped : s.running = false) (rates : s.RatesNonzero calls) (noStart : ∀ c ∈ calls, ∀ a b, c ≠ .start a b) :
    ∃ after events, s.run (.start stepNow dwellNow :: calls) = some (after, events) ∧
      HoldsLatest after.scanData events := by
  -- The start empties the history; every later call keeps it the latest reading per angle.
  obtain ⟨⟨after, events⟩, ran⟩ := @run_isSome (.start stepNow dwellNow :: calls) s
    ⟨rates.1, fun profile member => rates.2 profile (by simpa using member)⟩
  obtain ⟨started, first, rest, called, ranRest, rfl⟩ := run_cons_eq_some ran
  simp only [call, start, stopped, Bool.false_eq_true, if_false, Option.some.injEq, Prod.mk.injEq] at called
  obtain ⟨rfl, rfl⟩ := called
  exact ⟨after, _, ran, run_preserves (fun s log => HoldsLatest s.scanData log) (fun c => ∀ a b, c ≠ .start a b)
    call_holdsLatest noStart ranRest _ ⟨List.nodup_nil, fun angle => by simp [latestReading, ScanEvent.point?]⟩⟩

end ScanController

/--
The sweep of `ScanController` stays within the profile, and its callbacks follow the dwell.
(a) From any state whose profile has `min_deg ≤ max_deg`, every angle `start` or `tick` hands
to the servo callback lies in `[min_deg, max_deg]` of that profile.
(b) From a stopped controller, while every rate in force is non-zero, any calls without `stop`
complete. Their servo commands and readings alternate, starting with a command, and each reading
is at the angle commanded just before it. So every step but the last has exactly one reading.
(c) Any run keeps the history free of repeated angles. After a `start` and any calls without
another `start`, the history holds, for every angle, exactly the latest reading at it since that
`start`.
-/
theorem scan_sweep_within_and_alternating :
    (∀ s : ScanController, s.profile.minDeg ≤ s.profile.maxDeg →
      (∀ stepNow dwellNow, ∀ event ∈ (s.start stepNow dwellNow).2, event.WithinProfile s.profile) ∧
      ∀ now distance after events, s.tick now distance = some (after, events) →
        ∀ event ∈ events, event.WithinProfile s.profile) ∧
    (∀ (s : ScanController) (calls : List ScanCall), s.running = false → s.RatesNonzero calls →
      (∀ c ∈ calls, c ≠ .stop) →
      ∃ after events, s.run calls = some (after, events) ∧ alternates none events = true) ∧
    (∀ (s : ScanController) (calls : List ScanCall), (s.scanData.map ScanPoint.angleDeg).Nodup →
      s.RatesNonzero calls →
      ∃ after events, s.run calls = some (after, events) ∧ (after.scanData.map ScanPoint.angleDeg).Nodup) ∧
    (∀ (s : ScanController) (stepNow dwellNow : BitVec 64) (calls : List ScanCall), s.running = false →
      s.RatesNonzero calls → (∀ c ∈ calls, ∀ a b, c ≠ .start a b) →
      ∃ after events, s.run (.start stepNow dwellNow :: calls) = some (after, events) ∧
        ScanController.HoldsLatest after.scanData events) := by
  -- Each part is an invariant of one call, carried over the run by `run_preserves`.
  refine ⟨fun s ordered =>
      ⟨ScanController.start_within ordered, fun _ _ _ _ => ScanController.tick_within ordered⟩,
    fun s calls stopped rates noStop => ?_, fun s calls nodup rates => ?_,
    fun s stepNow dwellNow calls stopped rates noStart => ?_⟩
  · -- Nothing is owed before the session; each call moves what is owed, and nothing is left
    -- unmatched at the end.
    obtain ⟨⟨after, events⟩, ran⟩ := ScanController.run_isSome rates
    have owed := ScanController.run_preserves
      (fun s log => ∀ later, alternates none (log ++ later) = alternates s.pending later) (· ≠ .stop)
      (fun notStop called before later => by
        rw [List.append_assoc, before, ScanController.call_alternates notStop called])
      noStop ran [] (fun later => by simp [ScanController.pending, stopped])
    exact ⟨after, events, ran, by simpa [alternates] using owed []⟩
  · obtain ⟨⟨after, events⟩, ran⟩ := ScanController.run_isSome rates
    exact ⟨after, events, ran,
      ScanController.run_preserves (fun s _ => (s.scanData.map ScanPoint.angleDeg).Nodup) (fun _ => True)
        (fun _ called nodup => ScanController.call_nodup called nodup) (fun _ _ => trivial) ran [] nodup⟩
  · -- The start empties the history; every later call keeps it the latest reading per angle.
    exact ScanController.run_start_holdsLatest stepNow dwellNow stopped rates noStart

/-- The controller `initScanController` leaves: its default profile is ordered, and a start with
a reading at 20°, a step and a reading at 30° completes, alternates and keeps each angle once. -/
theorem default_sweep_alternates :
    (ScanController.init.profile.minDeg ≤ ScanController.init.profile.maxDeg ∧
      (∀ stepNow dwellNow, ∀ event ∈ (ScanController.init.start stepNow dwellNow).2,
        event.WithinProfile ScanController.init.profile) ∧
      ∀ now distance after events, ScanController.init.tick now distance = some (after, events) →
        ∀ event ∈ events, event.WithinProfile ScanController.init.profile) ∧
    (ScanController.init.running = false ∧
      ScanController.init.RatesNonzero [.start 0 0, .tick 80 300, .tick 200 0, .tick 280 250] ∧
      (∀ c ∈ [ScanCall.start 0 0, .tick 80 300, .tick 200 0, .tick 280 250], c ≠ .stop) ∧
      ∃ after events, ScanController.init.run [.start 0 0, .tick 80 300, .tick 200 0, .tick 280 250] =
        some (after, events) ∧ alternates none events = true) ∧
    ((ScanController.init.scanData.map ScanPoint.angleDeg).Nodup ∧
      ScanController.init.RatesNonzero [.start 0 0, .tick 80 300, .tick 200 0, .tick 280 250] ∧
      ∃ after events, ScanController.init.run [.start 0 0, .tick 80 300, .tick 200 0, .tick 280 250] =
        some (after, events) ∧ (after.scanData.map ScanPoint.angleDeg).Nodup) ∧
    (ScanController.init.running = false ∧ ScanController.init.RatesNonzero [.tick 80 300, .tick 200 0, .tick 280 250] ∧
      (∀ c ∈ [ScanCall.tick 80 300, .tick 200 0, .tick 280 250], ∀ a b, c ≠ .start a b) ∧
      ∃ after events, ScanController.init.run (.start 0 0 :: [.tick 80 300, .tick 200 0, .tick 280 250]) =
        some (after, events) ∧ ScanController.HoldsLatest after.scanData events) := by
  -- The default profile runs 20° to 160° at 5 Hz, and no call sets another profile or stops.
  obtain ⟨within, alternating, nodup, latest⟩ := scan_sweep_within_and_alternating
  have ordered : ScanController.init.profile.minDeg ≤ ScanController.init.profile.maxDeg := by decide
  have rates : ScanController.init.RatesNonzero [.start 0 0, .tick 80 300, .tick 200 0, .tick 280 250] :=
    ⟨by decide, by simp⟩
  have ratesAfter : ScanController.init.RatesNonzero [.tick 80 300, .tick 200 0, .tick 280 250] := ⟨by decide, by simp⟩
  have noStop : ∀ c ∈ [ScanCall.start 0 0, .tick 80 300, .tick 200 0, .tick 280 250], c ≠ .stop := by simp
  have noStart : ∀ c ∈ [ScanCall.tick 80 300, .tick 200 0, .tick 280 250], ∀ a b, c ≠ .start a b := by simp
  exact ⟨⟨ordered, within _ ordered⟩, ⟨rfl, rates, noStop, alternating _ _ rfl rates noStop⟩,
    ⟨List.nodup_nil, rates, nodup _ _ List.nodup_nil rates⟩, ⟨rfl, ratesAfter, noStart, latest _ 0 0 _ rfl ratesAfter noStart⟩⟩

/-- Started at 0 ms and stopped at 50 ms, before the 80 ms dwell ends, the sweep commands 20° and
then 90°, with no reading at 20°. -/
theorem scan_stop_in_dwell_skips_reading :
    ∃ after, ScanController.init.run [.start 0 0, .tick 50 300, .stop] = some (after, [.servo 20, .servo 90]) ∧
      after.scanData = [] :=
  -- The run is evaluated.
  ⟨_, rfl, rfl⟩

/-! ## The closest reading -/

namespace ScanController

/-- The loop of `getClosestDistance`: a positive distance below the closest so far becomes the
closest. -/
def closerDistance (closest : Int) (p : ScanPoint) : Int :=
  if p.distanceMm > 0 ∧ p.distanceMm < closest then p.distanceMm else closest

/-- `getClosestDistance`: the least distance in `(0, 9999)` in the history, or -1. -/
def getClosestDistance (s : ScanController) : Int :=
  let closest := s.scanData.foldl closerDistance 9999
  if closest = 9999 then -1 else closest

/-- The loop of `getClosestAngle`: a positive distance below the closest so far becomes the
closest, with its angle. -/
def closerPoint (closest : Int × Int) (p : ScanPoint) : Int × Int :=
  if p.distanceMm > 0 ∧ p.distanceMm < closest.1 then (p.distanceMm, p.angleDeg) else closest

/-- `getClosestAngle`: the angle of the first point with the least distance in `(0, 9999)`, or 90. -/
def getClosestAngle (s : ScanController) : Int := (s.scanData.foldl closerPoint (9999, 90)).2

/-- The two loops agree on the distance. -/
theorem foldl_closerPoint_fst (closest : Int × Int) (data : List ScanPoint) :
    (data.foldl closerPoint closest).1 = data.foldl closerDistance closest.1 := by
  -- Induction over the history: the two loops test the same distance.
  induction data generalizing closest with
  | nil => rfl
  | cons p rest ih =>
    rw [List.foldl_cons, List.foldl_cons, ih]
    unfold closerPoint closerDistance
    split_ifs <;> rfl

/-- The loop ends at or below where it starts, and at or below every positive distance. -/
theorem foldl_closerPoint_le (closest : Int × Int) (data : List ScanPoint) :
    (data.foldl closerPoint closest).1 ≤ closest.1 ∧
      ∀ q ∈ data, 0 < q.distanceMm → (data.foldl closerPoint closest).1 ≤ q.distanceMm := by
  -- Induction over the history: each point lowers the closest so far or leaves it.
  induction data generalizing closest with
  | nil => simp
  | cons p rest ih =>
    obtain ⟨below, least⟩ := ih (closerPoint closest p)
    have step : (closerPoint closest p).1 ≤ closest.1 ∧ (0 < p.distanceMm → (closerPoint closest p).1 ≤ p.distanceMm) := by
      unfold closerPoint
      split_ifs <;> (try dsimp only) <;> omega
    refine ⟨below.trans step.1, fun q member positive => ?_⟩
    rcases List.mem_cons.mp member with rfl | later
    · exact below.trans (step.2 positive)
    · exact least q later positive

/-- The loop ends where it starts, or at a point of the data with a positive distance below the
start, and its angle. -/
theorem foldl_closerPoint_eq (closest : Int × Int) (data : List ScanPoint) :
    data.foldl closerPoint closest = closest ∨
      ∃ p ∈ data, 0 < p.distanceMm ∧ p.distanceMm < closest.1 ∧
        data.foldl closerPoint closest = (p.distanceMm, p.angleDeg) := by
  -- Induction over the history: the loop ends at the last point that lowered it, if any.
  induction data generalizing closest with
  | nil => exact .inl rfl
  | cons p rest ih =>
    rw [List.foldl_cons]
    unfold closerPoint
    split_ifs with closer
    · -- From `p` on, the loop ends at `p` or at a later point closer still.
      rcases ih (p.distanceMm, p.angleDeg) with same | ⟨q, member, positive, below, ended⟩
      · exact .inr ⟨p, List.mem_cons_self _ _, closer.1, closer.2, same⟩
      · exact .inr ⟨q, List.mem_cons_of_mem _ member, positive, below.trans closer.2, ended⟩
    · rcases ih closest with same | ⟨q, member, positive, below, ended⟩
      · exact .inl same
      · exact .inr ⟨q, List.mem_cons_of_mem _ member, positive, below, ended⟩

/-- In a history without repeated angles, a point is the one found at its angle. -/
theorem find?_angle_of_mem {data : List ScanPoint} (nodup : (data.map ScanPoint.angleDeg).Nodup) {p : ScanPoint}
    (member : p ∈ data) : data.find? (fun q => q.angleDeg == p.angleDeg) = some p := by
  -- Induction over the history: the first point at `p`'s angle is `p`, the angles being distinct.
  induction data with
  | nil => cases member
  | cons q rest ih =>
    rw [List.map_cons, List.nodup_cons] at nodup
    rcases List.mem_cons.mp member with rfl | later
    · simp
    · -- `q` is not at `p`'s angle, which `rest` holds.
      have other : q.angleDeg ≠ p.angleDeg := fun same => nodup.1 (same ▸ List.mem_map_of_mem _ later)
      rw [List.find?_cons, beq_false_of_ne other]
      exact ih nodup.2 later

/-- In a history that holds the latest readings, a point is the latest reading at its angle
exactly when the history holds it. -/
theorem HoldsLatest.latest_iff_mem {data : List ScanPoint} {events : List ScanEvent} (holds : HoldsLatest data events)
    (p : ScanPoint) : latestReading p.angleDeg events = some p ↔ p ∈ data := by
  -- The latest reading at an angle is what the history holds there.
  rw [← holds.2]
  exact ⟨List.mem_of_find?_eq_some, find?_angle_of_mem holds.1⟩

/-- A history that holds the latest readings holds each of them. -/
theorem HoldsLatest.mem_of_latest {data : List ScanPoint} {events : List ScanEvent} (holds : HoldsLatest data events)
    {angle : Int} {p : ScanPoint} (latest : latestReading angle events = some p) : p ∈ data :=
  -- The latest reading is what the search over the history finds.
  List.mem_of_find?_eq_some ((holds.2 angle).trans latest)

end ScanController

/--
The `closest_dist` and `closest_angle` of the daemon's `scan_status` reply describe one reading of
the current sweep. From a stopped controller, after a `start` and any calls without another
`start` (every rate in force non-zero), `getClosestDistance` is -1 exactly when no latest reading
at any angle has a distance in `(0, 9999)`, and `getClosestAngle` is then 90. Otherwise the latest
reading at `getClosestAngle` has distance `getClosestDistance`, which lies in `(0, 9999)` and is at
most every positive latest reading.
-/
theorem scan_status_closest_reading (s : ScanController) (stepNow dwellNow : BitVec 64) (calls : List ScanCall)
    (stopped : s.running = false) (rates : s.RatesNonzero calls) (noStart : ∀ c ∈ calls, ∀ a b, c ≠ .start a b) :
    ∃ after events, s.run (.start stepNow dwellNow :: calls) = some (after, events) ∧
      ((after.getClosestDistance = -1 ∧ after.getClosestAngle = 90) ↔
        ∀ angle p, latestReading angle events = some p → ¬(0 < p.distanceMm ∧ p.distanceMm < 9999)) ∧
      (after.getClosestDistance ≠ -1 →
        ∃ p, latestReading after.getClosestAngle events = some p ∧ p.distanceMm = after.getClosestDistance ∧
          0 < p.distanceMm ∧ p.distanceMm < 9999 ∧
          ∀ angle q, latestReading angle events = some q → 0 < q.distanceMm → p.distanceMm ≤ q.distanceMm) := by
  -- After the start, the history holds exactly the latest readings.
  obtain ⟨after, events, ran, holds⟩ := ScanController.run_start_holdsLatest stepNow dwellNow stopped rates noStart
  refine ⟨after, events, ran, ?_⟩
  -- Both answers come from the one loop over the history, whose points are the latest readings.
  have distance : after.getClosestDistance =
      if (after.scanData.foldl ScanController.closerPoint (9999, 90)).1 = 9999 then -1
      else (after.scanData.foldl ScanController.closerPoint (9999, 90)).1 := by
    rw [ScanController.foldl_closerPoint_fst]; rfl
  obtain ⟨below, least⟩ := ScanController.foldl_closerPoint_le (9999, 90) after.scanData
  rcases ScanController.foldl_closerPoint_eq (9999, 90) after.scanData with none | ⟨p, member, positive, under, ended⟩
  · -- No reading in range: the loop never moves, so every positive reading is at least 9999.
    rw [none] at least
    rw [distance, none, ScanController.getClosestAngle, none]
    refine ⟨⟨fun _ angle q found inRange => ?_, fun _ => ⟨rfl, rfl⟩⟩, fun ne => absurd rfl ne⟩
    have := least q (holds.mem_of_latest found) inRange.1
    omega
  · -- The loop ends at a reading in range, the first with the least distance.
    rw [ended] at least
    have closest : after.getClosestDistance = p.distanceMm := by
      rw [distance, ended, if_neg (by dsimp only; omega)]
    have angle : after.getClosestAngle = p.angleDeg := by rw [ScanController.getClosestAngle, ended]
    have found := (holds.latest_iff_mem p).mpr member
    refine ⟨⟨fun both => by rw [closest] at both; omega, fun none => absurd ⟨positive, under⟩ (none _ p found)⟩,
      fun _ => ⟨p, angle ▸ found, closest.symm, positive, under, fun _ q latest => least q (holds.mem_of_latest latest)⟩⟩

/-- The start of a default sweep: 300 mm at 20° after the dwell, a step to 30°, and 250 mm there. -/
def twoReadings : List ScanCall := [.tick 80 300, .tick 200 0, .tick 280 250]

/-- After the two readings of `twoReadings` the status names the 250 mm at 30°. -/
theorem two_readings_closest :
    ScanController.init.running = false ∧ ScanController.init.RatesNonzero twoReadings ∧
      (∀ c ∈ twoReadings, ∀ a b, c ≠ .start a b) ∧
      ∃ after events, ScanController.init.run (.start 0 0 :: twoReadings) = some (after, events) ∧
        ((after.getClosestDistance = -1 ∧ after.getClosestAngle = 90) ↔
          ∀ angle p, latestReading angle events = some p → ¬(0 < p.distanceMm ∧ p.distanceMm < 9999)) ∧
        (after.getClosestDistance ≠ -1 →
          ∃ p, latestReading after.getClosestAngle events = some p ∧ p.distanceMm = after.getClosestDistance ∧
            0 < p.distanceMm ∧ p.distanceMm < 9999 ∧
            ∀ angle q, latestReading angle events = some q → 0 < q.distanceMm → p.distanceMm ≤ q.distanceMm) :=
  -- The default rate is non-zero and no call starts; the theorem gives the rest.
  have rates : ScanController.init.RatesNonzero twoReadings := ⟨by decide, by simp [twoReadings]⟩
  have noStart : ∀ c ∈ twoReadings, ∀ a b, c ≠ .start a b := by simp [twoReadings]
  ⟨rfl, rates, noStart, scan_status_closest_reading _ 0 0 _ rfl rates noStart⟩

end Milkspider
