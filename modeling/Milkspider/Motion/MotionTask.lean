import Milkspider.Motion.Interpolator
import Milkspider.Protocol.PosePacket
import Milkspider.Safety.Watchdog

/-! The motion task of `motion_task.c` in the archived runtime (`archive/app_main.c`): one
iteration of its loop over the queue, the watchdog, the interpolator and the servo outputs. -/

namespace Milkspider

/-- The motion task's states (`MotionState`). -/
inductive MotionState
  | idle
  | moving
  | hold
  | estop
  deriving DecidableEq, Repr

/-- The statics of `motion_task.c` and `interpolator.c`. -/
structure MotionTask where
  /-- `s_current_us`. -/
  currentUs : Pose
  /-- `s_target_us`. -/
  targetUs : Pose
  /-- `s_state`. -/
  state : MotionState
  interp : Interpolator

/-- The archived runtime as the motion task sees it: its statics, the watchdog with the fault
word, the failsafe latch, and every PWM write so far. -/
structure MuscleArchive where
  motion : MotionTask
  watchdog : Watchdog
  failsafe : Failsafe
  pwm : List PwmWrite

/-- Both poses neutral, `IDLE`, the interpolator's statics zero (`motion_task_entry`'s start). -/
def MotionTask.init : MotionTask := ⟨neutralPose, neutralPose, .idle, Interpolator.zero⟩

namespace MuscleArchive

/-- `app_main` with a working PCA9685: all servos neutral, the watchdog started at `boot`. -/
def init (boot : BitVec 32) : MuscleArchive :=
  ⟨MotionTask.init, watchdogInit boot 0, ⟨false⟩, writePose neutralPose⟩

/-- `watchdog_signal_estop` with the ESTOP callback of `archive/app_main.c`,
`failsafe_enter_estop`, which drives the safe pose. -/
def signalEstop (s : MuscleArchive) : MuscleArchive :=
  let signalled := watchdogSignalEstop s.watchdog
  let (failsafe, faults, writes) := failsafeEnterEstop signalled.faults
  { s with watchdog := { signalled with faults := faults }, failsafe := failsafe, pwm := s.pwm ++ writes }

/-- The motion state after the sync with the watchdog: its ESTOP wins, its timeout or hold
holds, unless the task is already in ESTOP. -/
def syncState (watchdog : WatchdogState) (state : MotionState) : MotionState :=
  if watchdog = .estop ∧ state ≠ .estop then .estop
  else if (watchdog = .timeout ∨ watchdog = .hold) ∧ state ≠ .estop then .hold
  else state

/-- The state machine's step: a move ticks the interpolator and becomes `IDLE` when complete. -/
def MotionTask.tick (F : FloatRounding) (m : MotionTask) : MotionTask :=
  match m.state with
  | .moving =>
    let (interp, current, done) := interpolatorTick F m.interp m.currentUs
    { m with interp := interp, currentUs := current, state := if done then .idle else .moving }
  | _ => m

/-- The loop after the receive: sync with the watchdog, step the state machine, then write
`s_current_us` to the thirteen servo channels. -/
def advance (F : FloatRounding) (s : MuscleArchive) : MuscleArchive :=
  let motion := MotionTask.tick F { s.motion with state := syncState s.watchdog.state s.motion.state }
  { s with motion := motion, pwm := s.pwm ++ writePose motion.currentUs }

/-- The interpolation mode a packet asks for. -/
def packetMode (pkt : PosePacket31) : InterpMode :=
  if hasFlag pkt.flags flagInterpQ16 then .q16 else .float

/-- One iteration of `motion_task_entry`, with the packet its queue delivered, if any. A packet
feeds the watchdog; ESTOP and HOLD packets end the iteration (`continue`); any other packet
clamps its servos into the target and starts a move from the current pose. -/
def motionTaskIteration (F : FloatRounding) (now : BitVec 32) (received : Option PosePacket31)
    (s : MuscleArchive) : MuscleArchive :=
  match received with
  | none => s.advance F
  | some pkt =>
    let fed := { s with watchdog := watchdogFeed now s.watchdog }
    if hasFlag pkt.flags flagEstop then { fed with motion := { fed.motion with state := .estop } }.signalEstop
    else if hasFlag pkt.flags flagHold then { fed with motion := { fed.motion with state := .hold } }
    else
      let target := clampPose pkt.servoUs
      advance F { fed with
        motion := { fed.motion with
          targetUs := target
          interp := interpolatorStart fed.motion.currentUs target pkt.tMs (packetMode pkt)
          state := .moving } }

/-- One iteration of the watchdog task; the timeout callback of `archive/app_main.c` is empty. -/
def watchdogTask (now : BitVec 32) (s : MuscleArchive) : MuscleArchive :=
  { s with watchdog := (watchdogTaskIteration now s.watchdog).1 }

end MuscleArchive

/-- What can happen next in the archived runtime. -/
inductive ArchiveEvent
  /-- An iteration of the motion task, with the packet it dequeued, if any. -/
  | motion (now : BitVec 32) (received : Option PosePacket31)
  /-- An iteration of the watchdog task. -/
  | watchdogTask (now : BitVec 32)
  /-- Another task leaves the watchdog in any state: a feed, a clear, a signal. -/
  | setWatchdog (watchdog : Watchdog)

namespace ArchiveEvent

/-- Whether an event hands the motion task a packet. -/
def delivers : ArchiveEvent → Bool
  | .motion _ (some _) => true
  | _ => false

/-- Whether an event is an iteration of the motion task. -/
def iterates : ArchiveEvent → Bool
  | .motion _ _ => true
  | _ => false

end ArchiveEvent

namespace MuscleArchive

/-- The runtime after one event. -/
def step (F : FloatRounding) (s : MuscleArchive) : ArchiveEvent → MuscleArchive
  | .motion now received => s.motionTaskIteration F now received
  | .watchdogTask now => s.watchdogTask now
  | .setWatchdog watchdog => { s with watchdog := watchdog }

/-- The runtime after a sequence of events. -/
def run (F : FloatRounding) (s : MuscleArchive) (events : List ArchiveEvent) : MuscleArchive :=
  events.foldl (step F) s

end MuscleArchive

/-! ## The poses stay in the servo range -/

/-- Both poses of the task in range, and the ends of a running move too. -/
structure MotionTask.InRange (m : MotionTask) : Prop where
  current : m.currentUs.InRange
  target : m.targetUs.InRange
  ends : m.interp.active = true → m.interp.startUs.InRange ∧ m.interp.targetUs.InRange

/-- The task starts with both poses neutral and no move running. -/
theorem MotionTask.InRange.init : MotionTask.init.InRange :=
  -- The neutral pose is in range and no move runs.
  ⟨neutralPose_inRange, neutralPose_inRange, fun inactive => by cases inactive⟩

/-- The state machine's step keeps the poses in range. -/
theorem MotionTask.InRange.tick (F : FloatRounding) {m : MotionTask} (inRange : m.InRange) :
    (MuscleArchive.MotionTask.tick F m).InRange := by
  -- Only a move changes the pose, to an interpolator output between its in-range ends.
  unfold MuscleArchive.MotionTask.tick
  split
  · obtain ⟨starts, targets, active, output⟩ := interpolatorTick_inRange F inRange.ends inRange.current
    exact ⟨output, inRange.target, fun running => by
      rw [starts, targets]; exact inRange.ends (active running)⟩
  · exact inRange

/-- A state change keeps the poses in range. -/
theorem MotionTask.InRange.withState {m : MotionTask} (inRange : m.InRange) (state : MotionState) :
    ({ m with state := state } : MotionTask).InRange :=
  -- The state is none of the fields the invariant reads.
  ⟨inRange.current, inRange.target, inRange.ends⟩

/-- Every iteration of the motion task keeps its poses in range, whatever packet it dequeued
and whatever state the watchdog is in. -/
theorem MotionTask.InRange.iteration (F : FloatRounding) (now : BitVec 32)
    (received : Option PosePacket31) {s : MuscleArchive} (inRange : s.motion.InRange) :
    (s.motionTaskIteration F now received).motion.InRange := by
  -- ESTOP and HOLD packets change only the state; any other packet clamps the new target.
  unfold MuscleArchive.motionTaskIteration
  split
  · exact (inRange.withState _).tick F
  · dsimp only
    split
    · exact inRange.withState _
    · split
      · exact inRange.withState _
      · -- a new move starts from the in-range current pose toward the clamped target
        exact MotionTask.InRange.tick F
          ⟨inRange.current, clampPose_inRange _, fun _ => ⟨inRange.current, clampPose_inRange _⟩⟩

/-- Every event keeps the task's poses in range. -/
theorem MotionTask.InRange.step (F : FloatRounding) {s : MuscleArchive} (inRange : s.motion.InRange) :
    ∀ event, (s.step F event).motion.InRange
  -- Only the motion task's iteration touches the poses.
  | .motion now received => inRange.iteration F now received
  | .watchdogTask _ => inRange
  | .setWatchdog _ => inRange

/--
In every run of the archived motion task from its start, over any packets the queue delivers
(any `servo_us`, `t_ms` and flags, either interpolation mode) and any states of the watchdog,
every entry of `s_current_us` and of `s_target_us` lies in `[500, 2500]`; the loop writes
`s_current_us`, so every value it hands the driver is already in range.
-/
theorem motion_pose_in_range (F : FloatRounding) (boot : BitVec 32) (events : List ArchiveEvent) :
    ((MuscleArchive.init boot).run F events).motion.currentUs.InRange ∧
      ((MuscleArchive.init boot).run F events).motion.targetUs.InRange := by
  -- The range invariant holds at the start and every event keeps it.
  suffices ∀ (s : MuscleArchive), s.motion.InRange → (s.run F events).motion.InRange from
    let inRange := this _ MotionTask.InRange.init
    ⟨inRange.current, inRange.target⟩
  induction events with
  | nil => exact fun _ inRange => inRange
  | cons event events ih => exact fun s inRange => ih _ (inRange.step F event)

/-- The loop writes the pose it leaves in `s_current_us`. -/
theorem MuscleArchive.advance_pwm (F : FloatRounding) (s : MuscleArchive) :
    (s.advance F).pwm = s.pwm ++ writePose (s.advance F).motion.currentUs :=
  -- The last write of an iteration is its pose.
  rfl

/-! ## ESTOP does not hold the safe pose -/

namespace MuscleArchive

/-- The sync with the watchdog never takes the task out of ESTOP. -/
@[simp] theorem syncState_estop (watchdog : WatchdogState) : syncState watchdog .estop = .estop := by
  -- Every watchdog state leaves ESTOP to itself.
  cases watchdog <;> rfl

/-- Accepting an ESTOP packet latches the failsafe, writes the safe pose and leaves the task in
ESTOP with its poses as they were. -/
theorem motionTaskIteration_estop (F : FloatRounding) (now : BitVec 32) (s : MuscleArchive)
    {pkt : PosePacket31} (estop : hasFlag pkt.flags flagEstop = true) :
    (s.motionTaskIteration F now (some pkt)).motion = { s.motion with state := .estop } ∧
    (s.motionTaskIteration F now (some pkt)).failsafe.estopActive = true ∧
    (s.motionTaskIteration F now (some pkt)).pwm = s.pwm ++ failsafeSetSafePose := by
  -- The ESTOP branch only feeds and signals the watchdog, whose callback writes the safe pose.
  simp [motionTaskIteration, estop, signalEstop, failsafeEnterEstop]

/-- In ESTOP, an event that hands over no packet leaves the task's statics and the failsafe as
they are, and an iteration writes `s_current_us` again. -/
theorem step_estop (F : FloatRounding) {s : MuscleArchive} (latched : s.motion.state = .estop)
    {event : ArchiveEvent} (noPacket : event.delivers = false) :
    (s.step F event).motion = s.motion ∧ (s.step F event).failsafe = s.failsafe ∧
    (s.step F event).pwm = s.pwm ++ if event.iterates then writePose s.motion.currentUs else [] := by
  -- In ESTOP the sync keeps the state and the state machine has nothing to do.
  obtain ⟨⟨current, target, state, interp⟩, watchdog, failsafe, pwm⟩ := s
  cases latched
  match event, noPacket with
  | .motion _ none, _ => simp [step, motionTaskIteration, advance, MotionTask.tick, ArchiveEvent.iterates]
  | .watchdogTask _, _ => simp [step, watchdogTask, ArchiveEvent.iterates]
  | .setWatchdog _, _ => simp [step, ArchiveEvent.iterates]

/-- In ESTOP, a run without packets leaves the task's statics and the failsafe as they are, and
every iteration writes `s_current_us` again. -/
theorem run_estop (F : FloatRounding) {s : MuscleArchive} (latched : s.motion.state = .estop)
    {events : List ArchiveEvent} (noPackets : ∀ event ∈ events, event.delivers = false) :
    (s.run F events).motion = s.motion ∧ (s.run F events).failsafe = s.failsafe ∧
    (s.run F events).pwm =
      s.pwm ++ events.flatMap fun event => if event.iterates then writePose s.motion.currentUs else [] := by
  -- Each event keeps the statics, so the next one still finds the task in ESTOP.
  induction events generalizing s with
  | nil => simp [run]
  | cons event events ih =>
    obtain ⟨motion, failsafe, pwm⟩ := step_estop F latched (noPackets event (by simp))
    obtain ⟨motion', failsafe', pwm'⟩ :=
      ih (s := s.step F event) (by rw [motion]; exact latched) fun later member => noPackets later (by simp [member])
    refine ⟨motion'.trans motion, failsafe'.trans failsafe, ?_⟩
    rw [run, List.foldl_cons, ← run, pwm', pwm, motion, List.flatMap_cons, List.append_assoc]

end MuscleArchive

/--
Once the motion task has accepted an ESTOP packet, the failsafe writes the safe pose, but every
later iteration, whatever the watchdog does meanwhile and until a packet comes, writes the pose
the task had before the ESTOP to the thirteen servo channels: `s_current_us` is never reset.
-/
theorem estop_then_pose_rewritten (F : FloatRounding) (now : BitVec 32) (s : MuscleArchive)
    {pkt : PosePacket31} (estop : hasFlag pkt.flags flagEstop = true) (events : List ArchiveEvent)
    (noPackets : ∀ event ∈ events, event.delivers = false) :
    ((s.motionTaskIteration F now (some pkt)).run F events).failsafe.estopActive = true ∧
    ((s.motionTaskIteration F now (some pkt)).run F events).motion.currentUs = s.motion.currentUs ∧
    ((s.motionTaskIteration F now (some pkt)).run F events).pwm =
      s.pwm ++ failsafeSetSafePose ++
        events.flatMap fun event => if event.iterates then writePose s.motion.currentUs else [] := by
  -- The ESTOP packet leaves the poses as they were, and the run after it rewrites them.
  obtain ⟨motion, latched, pwm⟩ := MuscleArchive.motionTaskIteration_estop F now s estop
  obtain ⟨motion', failsafe', pwm'⟩ := MuscleArchive.run_estop F (by rw [motion]) noPackets
  rw [failsafe', motion', pwm', pwm, motion]
  exact ⟨latched, rfl, rfl⟩

/-- An iteration that accepts a packet with neither ESTOP nor HOLD asking for at most one period,
while the watchdog is not in ESTOP, completes the move at once: the task is `IDLE` on the packet's
clamped servos, with the watchdog fed back to `NORMAL`. -/
theorem MuscleArchive.motionTaskIteration_short (F : FloatRounding) (now : BitVec 32) {s : MuscleArchive} {pkt : PosePacket31}
    (running : s.watchdog.state ≠ .estop) (notEstop : hasFlag pkt.flags flagEstop = false)
    (notHold : hasFlag pkt.flags flagHold = false) (short : pkt.tMs ≤ 20#32) :
    (s.motionTaskIteration F now (some pkt)).motion.currentUs = clampPose pkt.servoUs ∧
    (s.motionTaskIteration F now (some pkt)).motion.state = .idle ∧
    (s.motionTaskIteration F now (some pkt)).watchdog.state = .normal := by
  -- The feed leaves the watchdog `NORMAL`, so the sync keeps `MOVING` and the first tick ends the move.
  have fed : (watchdogFeed now s.watchdog).state = .normal := by
    unfold watchdogFeed
    split_ifs with stopped
    · rfl
    · revert running stopped
      exact match s.watchdog.state with
        | .normal => fun _ _ => rfl
        | .timeout => fun _ stopped => absurd (.inl rfl) stopped
        | .hold => fun _ stopped => absurd (.inr rfl) stopped
        | .estop => fun running _ => absurd rfl running
  simp [MuscleArchive.motionTaskIteration, notEstop, notHold, MuscleArchive.advance, MuscleArchive.syncState, fed,
    MuscleArchive.MotionTask.tick, interpolatorTick_start_short F _ _ short]

/-! ## HOLD freezes the pose -/

/-- `HOLD` and `ESTOP`, the states in which the state machine leaves the pose and the move alone. -/
def MotionState.frozen : MotionState → Bool
  | .hold | .estop => true
  | .idle | .moving => false

/-- `TIMEOUT` and `HOLD`, the watchdog states a heartbeat timeout leads to. -/
def WatchdogState.stopped : WatchdogState → Bool
  | .timeout | .hold => true
  | .normal | .estop => false

/-- Whether an event is an iteration of either task with no packet. -/
def ArchiveEvent.quiet : ArchiveEvent → Bool
  | .motion _ none | .watchdogTask _ => true
  | _ => false

namespace MuscleArchive

/-- The sync keeps the task in `HOLD` or `ESTOP`, and a stopped watchdog puts it in one. -/
theorem syncState_frozen (watchdog : WatchdogState) {state : MotionState}
    (frozen : state.frozen = true ∨ watchdog.stopped = true) : (syncState watchdog state).frozen = true := by
  -- A finite table: four watchdog states by four task states.
  revert frozen
  cases watchdog <;> cases state <;> decide

/-- The state machine leaves a frozen task as it is. -/
theorem MotionTask.tick_frozen (F : FloatRounding) {m : MotionTask} (frozen : m.state.frozen = true) :
    MotionTask.tick F m = m := by
  -- Only MOVING runs the interpolator.
  unfold MotionTask.tick
  split
  · next moving => rw [moving] at frozen; cases frozen
  · rfl

/-- An iteration that the sync leaves frozen changes only the motion state, and writes
`s_current_us` again. -/
theorem advance_frozen (F : FloatRounding) {s : MuscleArchive}
    (frozen : (syncState s.watchdog.state s.motion.state).frozen = true) :
    (s.advance F).motion = { s.motion with state := syncState s.watchdog.state s.motion.state } ∧
    (s.advance F).watchdog = s.watchdog ∧ (s.advance F).failsafe = s.failsafe ∧
    (s.advance F).pwm = s.pwm ++ writePose s.motion.currentUs := by
  -- The state machine's step is the identity once the state is frozen.
  simp only [advance, @MotionTask.tick_frozen F { s.motion with state := syncState s.watchdog.state s.motion.state }
    frozen, and_self]

/-- In `HOLD` or `ESTOP`, an event that hands over no packet changes at most the motion state,
which stays frozen, and an iteration writes `s_current_us` again. -/
theorem step_frozen (F : FloatRounding) {s : MuscleArchive} (frozen : s.motion.state.frozen = true)
    {event : ArchiveEvent} (noPacket : event.delivers = false) :
    (s.step F event).motion = { s.motion with state := (s.step F event).motion.state } ∧
    (s.step F event).motion.state.frozen = true ∧ (s.step F event).failsafe = s.failsafe ∧
    (s.step F event).pwm = s.pwm ++ if event.iterates then writePose s.motion.currentUs else [] := by
  -- Only an iteration touches the task, and the sync keeps it frozen.
  match event, noPacket with
  | .motion _ none, _ =>
    obtain ⟨motion, -, failsafe, pwm⟩ := advance_frozen F (syncState_frozen s.watchdog.state (.inl frozen))
    simp only [step, motionTaskIteration, motion, failsafe, pwm, ArchiveEvent.iterates, if_true,
      syncState_frozen s.watchdog.state (.inl frozen), and_self]
  | .watchdogTask _, _ => exact ⟨rfl, frozen, rfl, by simp [step, watchdogTask, ArchiveEvent.iterates]⟩
  | .setWatchdog _, _ => exact ⟨rfl, frozen, rfl, by simp [step, ArchiveEvent.iterates]⟩

/-- In `HOLD` or `ESTOP`, a run without packets leaves the poses and the move as they are, the
task frozen and the failsafe unchanged, and every iteration writes `s_current_us` again. -/
theorem run_frozen (F : FloatRounding) {s : MuscleArchive} (frozen : s.motion.state.frozen = true)
    {events : List ArchiveEvent} (noPackets : ∀ event ∈ events, event.delivers = false) :
    (s.run F events).motion = { s.motion with state := (s.run F events).motion.state } ∧
    (s.run F events).motion.state.frozen = true ∧ (s.run F events).failsafe = s.failsafe ∧
    (s.run F events).pwm =
      s.pwm ++ events.flatMap fun event => if event.iterates then writePose s.motion.currentUs else [] := by
  -- Each event keeps the task frozen, so the next one finds it frozen too.
  induction events generalizing s with
  | nil => exact ⟨rfl, frozen, rfl, by simp [run]⟩
  | cons event events ih =>
    obtain ⟨motion, frozen', failsafe, pwm⟩ := step_frozen F frozen (noPackets event (by simp))
    obtain ⟨motion', frozen'', failsafe', pwm'⟩ :=
      ih (s := s.step F event) frozen' fun later member => noPackets later (by simp [member])
    refine ⟨by rw [run, List.foldl_cons, ← run, motion', motion], frozen'', failsafe'.trans failsafe, ?_⟩
    rw [run, List.foldl_cons, ← run, pwm', pwm, motion, List.flatMap_cons, List.append_assoc]

/-- The watchdog task keeps a stopped watchdog stopped: `TIMEOUT` moves on to `HOLD`, `HOLD`
stays. -/
theorem watchdogTaskIteration_stopped (now : BitVec 32) {w : Watchdog} (stopped : w.state.stopped = true) :
    (watchdogTaskIteration now w).1.state.stopped = true := by
  -- TIMEOUT may only move on to HOLD, and HOLD has no way out without a feed.
  obtain ⟨state, lastFeedTick, faults⟩ := w
  cases state <;> simp only [WatchdogState.stopped] at stopped <;> cases stopped <;>
    simp only [watchdogTaskIteration] <;> split_ifs <;> rfl

/-- While the watchdog is stopped, an iteration of either task without a packet leaves
`s_current_us` as it is and the watchdog stopped, and the motion task writes `s_current_us` again. -/
theorem step_stopped (F : FloatRounding) {s : MuscleArchive} (stopped : s.watchdog.state.stopped = true)
    {event : ArchiveEvent} (quiet : event.quiet = true) :
    (s.step F event).motion.currentUs = s.motion.currentUs ∧ (s.step F event).watchdog.state.stopped = true ∧
    (s.step F event).pwm = s.pwm ++ if event.iterates then writePose s.motion.currentUs else [] := by
  -- The sync sees the stopped watchdog before the state machine could move.
  match event, quiet with
  | .motion _ none, _ =>
    obtain ⟨motion, watchdog, -, pwm⟩ := advance_frozen F (syncState_frozen s.watchdog.state (.inr stopped))
    simp only [step, motionTaskIteration, motion, watchdog, pwm, ArchiveEvent.iterates, if_true, stopped, and_self]
  | .watchdogTask now, _ =>
    exact ⟨rfl, watchdogTaskIteration_stopped now stopped, by simp [step, watchdogTask, ArchiveEvent.iterates]⟩

/-- While the watchdog is stopped, a run of iterations without packets leaves `s_current_us` as it
is, and every iteration of the motion task writes it again. -/
theorem run_stopped (F : FloatRounding) {s : MuscleArchive} (stopped : s.watchdog.state.stopped = true)
    {events : List ArchiveEvent} (quiet : ∀ event ∈ events, event.quiet = true) :
    (s.run F events).motion.currentUs = s.motion.currentUs ∧
    (s.run F events).pwm =
      s.pwm ++ events.flatMap fun event => if event.iterates then writePose s.motion.currentUs else [] := by
  -- Each event keeps the watchdog stopped, so the next one finds it stopped too.
  induction events generalizing s with
  | nil => exact ⟨rfl, by simp [run]⟩
  | cons event events ih =>
    obtain ⟨current, stopped', pwm⟩ := step_stopped F stopped (quiet event (by simp))
    obtain ⟨current', pwm'⟩ := ih (s := s.step F event) stopped' fun later member => quiet later (by simp [member])
    refine ⟨by rw [run, List.foldl_cons, ← run, current', current], ?_⟩
    rw [run, List.foldl_cons, ← run, pwm', pwm, current, List.flatMap_cons, List.append_assoc]

end MuscleArchive

/-- The archived runtime after a 20 ms move of every servo to 2000 µs. -/
def movedTo2000 : MuscleArchive :=
  (MuscleArchive.init 0).motionTaskIteration .unrounded 0
    (some { posepacket31Init 1 with tMs := 20, servoUs := fun _ => 2000#16 })

/-- An ESTOP packet as the producers build it. -/
def estopPacket : PosePacket31 := { posepacket31Init 2 with flags := flagClampEnable ||| flagEstop }

/-- After a move to 2000 µs and an ESTOP packet, the next two iterations write 2000 µs to every
servo channel, around a watchdog iteration. -/
theorem estop_after_move_rewrites_2000 :
    (∀ channel, movedTo2000.motion.currentUs channel = 2000#16) ∧
    hasFlag estopPacket.flags flagEstop = true ∧
    (∀ event ∈ [ArchiveEvent.motion 40 none, .watchdogTask 40, .motion 60 none], event.delivers = false) ∧
    ((movedTo2000.motionTaskIteration .unrounded 20 (some estopPacket)).run .unrounded
        [.motion 40 none, .watchdogTask 40, .motion 60 none]).failsafe.estopActive = true ∧
    ((movedTo2000.motionTaskIteration .unrounded 20 (some estopPacket)).run .unrounded
        [.motion 40 none, .watchdogTask 40, .motion 60 none]).motion.currentUs = movedTo2000.motion.currentUs ∧
    ((movedTo2000.motionTaskIteration .unrounded 20 (some estopPacket)).run .unrounded
        [.motion 40 none, .watchdogTask 40, .motion 60 none]).pwm =
      movedTo2000.pwm ++ failsafeSetSafePose ++
        [ArchiveEvent.motion 40 none, .watchdogTask 40, .motion 60 none].flatMap fun event =>
          if event.iterates then writePose movedTo2000.motion.currentUs else [] :=
  -- The move and the packet are concrete; the rewrites follow from the general statement.
  ⟨by decide, by decide, by decide,
    estop_then_pose_rewritten .unrounded 20 movedTo2000 (by decide) _ (by decide)⟩

end Milkspider
