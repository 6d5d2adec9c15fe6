import Milkspider.Safety.FaultFlags

/-! The heartbeat watchdog of the real-time side: its four operations and its ESTOP latch. -/

namespace Milkspider

/-- The watchdog states (`WatchdogState`). -/
inductive WatchdogState
  | normal
  | timeout
  | hold
  | estop
  deriving DecidableEq, Repr

/-- The watchdog's shared variables and the fault word it updates. -/
structure Watchdog where
  state : WatchdogState
  lastFeedTick : BitVec 32
  faults : BitVec 32
  deriving DecidableEq, Repr

/-- Record the tick of the last feed and start in `NORMAL` (`watchdog_init`). -/
def watchdogInit (now faults : BitVec 32) : Watchdog := ⟨.normal, now, faults⟩

/-- A heartbeat: stamp the tick and leave a timeout or hold (`watchdog_feed`). -/
def watchdogFeed (now : BitVec 32) (w : Watchdog) : Watchdog :=
  if w.state = .timeout ∨ w.state = .hold then
    ⟨.normal, now, faultFlagsClear w.faults faultHeartbeatTimeout⟩
  else { w with lastFeedTick := now }

/-- Enter `ESTOP` and raise its fault; the caller then runs the ESTOP callback
(`watchdog_signal_estop`). -/
def watchdogSignalEstop (w : Watchdog) : Watchdog :=
  { w with state := .estop, faults := faultFlagsSet w.faults faultEstopActive }

/-- Leave `ESTOP` if the last feed is recent, else fall to `HOLD`; `0` on success
(`watchdog_clear_estop`). -/
def watchdogClearEstop (now : BitVec 32) (w : Watchdog) : Int × Watchdog :=
  if w.state ≠ .estop then (-1, w)
  else if now - w.lastFeedTick < heartbeatTimeoutMs then
    (0, { w with state := .normal, faults := faultFlagsClear w.faults faultEstopActive })
  else (-1, { w with state := .hold })

/-- One iteration of `watchdog_task_entry`, and whether it fired the timeout callback. -/
def watchdogTaskIteration (now : BitVec 32) (w : Watchdog) : Watchdog × Bool :=
  if w.state = .estop then (w, false)
  else if heartbeatTimeoutMs < now - w.lastFeedTick then
    if w.state = .normal then
      -- `TIMEOUT` is stored, the fault raised and the callback run; the re-read then finds
      -- `TIMEOUT` and moves on to `HOLD`.
      ({ w with state := .hold, faults := faultFlagsSet w.faults faultHeartbeatTimeout }, true)
    else if w.state = .timeout then ({ w with state := .hold }, false)
    else (w, false)
  else (w, false)

/-- The watchdog task never touches the tick of the last feed. -/
@[simp] theorem watchdogTaskIteration_lastFeedTick (now : BitVec 32) (w : Watchdog) :
    (watchdogTaskIteration now w).1.lastFeedTick = w.lastFeedTick := by
  -- No branch of the task writes the tick.
  unfold watchdogTaskIteration
  split_ifs <;> rfl

/-- Once the last feed is older than the timeout, an iteration of the watchdog task leaves the
watchdog out of `NORMAL`, and one that finds it `NORMAL` fires the timeout callback. -/
theorem watchdogTaskIteration_late {now : BitVec 32} {w : Watchdog}
    (late : heartbeatTimeoutMs < now - w.lastFeedTick) :
    (watchdogTaskIteration now w).1.state ≠ .normal ∧
      (w.state = .normal → (watchdogTaskIteration now w).2 = true) := by
  -- One case per state: NORMAL times out, TIMEOUT moves to HOLD, the others stay.
  unfold watchdogTaskIteration
  cases w with
  | mk state lastFeedTick faults => cases state <;> simp_all

/-- The operations other tasks perform on the watchdog, with the tick they read. -/
inductive WatchdogOp
  | feed (now : BitVec 32)
  | signalEstop
  | clearEstop (now : BitVec 32)
  | taskIteration (now : BitVec 32)
  deriving DecidableEq, Repr

/-- The watchdog after one operation, with the return code of a `watchdog_clear_estop`. -/
def WatchdogOp.apply : WatchdogOp → Watchdog → Watchdog × Option Int
  | .feed now, w => (watchdogFeed now w, none)
  | .signalEstop, w => (watchdogSignalEstop w, none)
  | .clearEstop now, w => let (code, w') := watchdogClearEstop now w; (w', some code)
  | .taskIteration now, w => ((watchdogTaskIteration now w).1, none)

/-- The watchdog after a sequence of operations. -/
def runWatchdog (ops : List WatchdogOp) (w : Watchdog) : Watchdog :=
  ops.foldl (fun w op => (op.apply w).1) w

/-- Whether some `watchdog_clear_estop` of a sequence returned `0`. -/
def clearSucceeded : List WatchdogOp → Watchdog → Bool
  | [], _ => false
  | op :: ops, w => (op.apply w).2 == some 0 || clearSucceeded ops (op.apply w).1

/-- Whether an operation is a call of `watchdog_clear_estop`. -/
def WatchdogOp.isClear : WatchdogOp → Bool
  | .clearEstop _ => true
  | _ => false

/-- `watchdog_clear_estop` returns `0` exactly from `ESTOP` with a feed under the timeout. -/
theorem watchdogClearEstop_zero_iff (now : BitVec 32) (w : Watchdog) :
    (watchdogClearEstop now w).1 = 0 ↔
      w.state = .estop ∧ now - w.lastFeedTick < heartbeatTimeoutMs := by
  -- Only the branch in ESTOP with a recent feed returns 0.
  unfold watchdogClearEstop
  split
  · simp_all
  · split <;> simp_all

/-- A failed clear in `ESTOP` drops the watchdog to `HOLD`. -/
theorem watchdogClearEstop_hold {now : BitVec 32} {w : Watchdog} (latched : w.state = .estop)
    (failed : (watchdogClearEstop now w).1 ≠ 0) : (watchdogClearEstop now w).2.state = .hold := by
  -- In ESTOP a failed clear is the stale-feed branch.
  unfold watchdogClearEstop at *
  simp only [latched, ne_eq, not_true_eq_false, if_false] at failed ⊢
  split <;> simp_all

/-- No operation but a clear leaves `ESTOP`. -/
theorem WatchdogOp.apply_estop {op : WatchdogOp} {w : Watchdog} (latched : w.state = .estop)
    (notClear : op.isClear = false) : (op.apply w).1.state = .estop := by
  -- A feed only leaves `TIMEOUT` or `HOLD`, and the task skips an `ESTOP` watchdog.
  cases op <;> simp_all [WatchdogOp.apply, WatchdogOp.isClear, watchdogFeed, watchdogSignalEstop,
    watchdogTaskIteration]

/-- Only a clear that returns `0` lowers the ESTOP fault. -/
theorem WatchdogOp.apply_fault {op : WatchdogOp} {w : Watchdog}
    (raised : faultFlagsIsSet w.faults faultEstopActive = true) (kept : (op.apply w).2 ≠ some 0) :
    faultFlagsIsSet (op.apply w).1.faults faultEstopActive = true := by
  -- Feeds clear only the heartbeat bit and the task only sets bits; a clear
  -- returning `-1` leaves the fault word alone.
  cases op with
  | feed now =>
    simp only [WatchdogOp.apply, watchdogFeed]
    split <;> simp [raised]
  | signalEstop => simp [WatchdogOp.apply, watchdogSignalEstop]
  | clearEstop now =>
    simp only [WatchdogOp.apply, ne_eq, Option.some.injEq] at kept ⊢
    unfold watchdogClearEstop at kept ⊢
    split
    · exact raised
    · split <;> simp_all
  | taskIteration now =>
    simp only [WatchdogOp.apply, watchdogTaskIteration]
    split_ifs <;> first | exact raised | exact faultFlagsIsSet_of_set _ raised

/--
The ESTOP latch as the code keeps it, over every sequence of feeds, ESTOP signals, clear
attempts and watchdog iterations at any ticks: `ESTOP` is left only by a clear attempt; the
ESTOP fault is lowered only by a clear that returns `0`; a clear returns `0` exactly when the
watchdog is in `ESTOP` and `now - last_feed < 250` modulo `2 ^ 32`; and a clear that fails in
`ESTOP` moves the watchdog to `HOLD`.
-/
theorem watchdog_estop_latch :
    (∀ (ops : List WatchdogOp) (w : Watchdog), w.state = .estop →
      (∀ op ∈ ops, op.isClear = false) → (runWatchdog ops w).state = .estop) ∧
    (∀ (ops : List WatchdogOp) (w : Watchdog), faultFlagsIsSet w.faults faultEstopActive = true →
      clearSucceeded ops w = false →
      faultFlagsIsSet (runWatchdog ops w).faults faultEstopActive = true) ∧
    (∀ now w, (watchdogClearEstop now w).1 = 0 ↔
      w.state = .estop ∧ now - w.lastFeedTick < heartbeatTimeoutMs) ∧
    (∀ now w, w.state = .estop → (watchdogClearEstop now w).1 ≠ 0 →
      (watchdogClearEstop now w).2.state = .hold) := by
  -- The run parts are inductions on the operations; the clear parts are the one-call lemmas.
  refine ⟨fun ops => ?_, fun ops => ?_, watchdogClearEstop_zero_iff, fun _ _ => watchdogClearEstop_hold⟩
  · -- Each operation keeps the latch, so the run does.
    induction ops with
    | nil => exact fun _ latched _ => latched
    | cons op ops ih =>
      intro w latched notClear
      exact ih _ (WatchdogOp.apply_estop latched (notClear op (by simp)))
        fun other member => notClear other (by simp [member])
  · -- Each operation but a successful clear keeps the fault raised.
    induction ops with
    | nil => exact fun _ raised _ => raised
    | cons op ops ih =>
      intro w raised never
      simp only [clearSucceeded, Bool.or_eq_false_iff, beq_eq_false_iff_ne] at never
      exact ih _ (WatchdogOp.apply_fault raised never.1) never.2

/-- A watchdog fed at tick 0 and stopped at once: fed again and iterated, it stays in `ESTOP`; a
clear at tick 1000 fails and leaves it in `HOLD`, and a feed after that keeps the ESTOP fault. -/
theorem watchdog_latch_after_estop :
    ((watchdogSignalEstop (watchdogInit 0#32 0#32)).state = .estop ∧
      (∀ op ∈ [WatchdogOp.feed 10#32, .taskIteration 400#32], op.isClear = false) ∧
      (runWatchdog [.feed 10#32, .taskIteration 400#32] (watchdogSignalEstop (watchdogInit 0#32 0#32))).state =
        .estop) ∧
    (faultFlagsIsSet (watchdogSignalEstop (watchdogInit 0#32 0#32)).faults faultEstopActive = true ∧
      clearSucceeded [.clearEstop 1000#32, .feed 1010#32] (watchdogSignalEstop (watchdogInit 0#32 0#32)) = false ∧
      faultFlagsIsSet (runWatchdog [.clearEstop 1000#32, .feed 1010#32]
        (watchdogSignalEstop (watchdogInit 0#32 0#32))).faults faultEstopActive = true) ∧
    ((watchdogSignalEstop (watchdogInit 0#32 0#32)).state = .estop ∧
      (watchdogClearEstop 1000#32 (watchdogSignalEstop (watchdogInit 0#32 0#32))).1 ≠ 0 ∧
      (watchdogClearEstop 1000#32 (watchdogSignalEstop (watchdogInit 0#32 0#32))).2.state = .hold) := by
  -- Each part applies the latch at these ticks; the hypotheses are evaluated.
  obtain ⟨latch, fault, -, hold⟩ := watchdog_estop_latch
  exact ⟨⟨rfl, by decide, latch _ _ rfl (by decide)⟩, ⟨by decide, by decide, fault _ _ (by decide) (by decide)⟩,
    ⟨rfl, by decide, hold _ _ rfl (by decide)⟩⟩

/--
A failed clear does not leave ESTOP latched: from `watchdog_init` at tick 0, an ESTOP followed by
a clear attempt at tick 1000, long after the last feed, leaves the watchdog in `HOLD`, though no
clear returned `0`.
-/
theorem watchdog_stale_clear_leaves_estop :
    let ops := [WatchdogOp.signalEstop, .clearEstop 1000#32]
    clearSucceeded ops (watchdogInit 0#32 0#32) = false ∧
      (runWatchdog ops (watchdogInit 0#32 0#32)).state = .hold := by
  -- The clear sees 1000 ticks since the feed at 0, over the timeout, and moves ESTOP to HOLD.
  decide

/-! ## Heartbeat timeouts without ESTOP -/

/-- An iteration of the watchdog task that takes the watchdog out of `NORMAL` saw the last feed
more than the timeout ago. -/
theorem watchdogTaskIteration_leaves_normal {now : BitVec 32} {w : Watchdog} (normal : w.state = .normal)
    (left : (watchdogTaskIteration now w).1.state ≠ .normal) : heartbeatTimeoutMs < now - w.lastFeedTick := by
  -- An iteration that does not see a late feed returns the watchdog as it was.
  by_contra early
  simp [watchdogTaskIteration, normal, early] at left

/-- A late iteration in `NORMAL` ends in `HOLD` with the heartbeat fault raised. -/
theorem watchdogTaskIteration_timeout {now : BitVec 32} {w : Watchdog} (normal : w.state = .normal)
    (late : heartbeatTimeoutMs < now - w.lastFeedTick) :
    (watchdogTaskIteration now w).1.state = .hold ∧
      faultFlagsIsSet (watchdogTaskIteration now w).1.faults faultHeartbeatTimeout = true := by
  -- The late branch in NORMAL sets HOLD and the heartbeat bit.
  simp [watchdogTaskIteration, normal, late, faultFlagsIsSet_set_self (show faultHeartbeatTimeout ≠ 0#32 by decide)]

/-- A feed in `TIMEOUT` or `HOLD` returns to `NORMAL` with the heartbeat fault lowered. -/
theorem watchdogFeed_recovers {now : BitVec 32} {w : Watchdog} (stopped : w.state = .timeout ∨ w.state = .hold) :
    (watchdogFeed now w).state = .normal ∧
      faultFlagsIsSet (watchdogFeed now w).faults faultHeartbeatTimeout = false := by
  -- The feed's branch for a stopped watchdog resets it and clears the bit.
  simp [watchdogFeed, stopped, faultFlagsIsSet_clear_self]

/-- No operation but an ESTOP signal enters `ESTOP`. -/
theorem WatchdogOp.apply_not_estop {op : WatchdogOp} {w : Watchdog} (running : w.state ≠ .estop)
    (noSignal : op ≠ .signalEstop) : (op.apply w).1.state ≠ .estop := by
  -- A feed ends in `NORMAL` or keeps the state, a clear outside `ESTOP` changes nothing, and the
  -- task moves only to `HOLD`.
  cases op with
  | feed now =>
    simp only [WatchdogOp.apply, watchdogFeed]
    split <;> simp [running]
  | signalEstop => exact absurd rfl noSignal
  | clearEstop now => simp [WatchdogOp.apply, watchdogClearEstop, running]
  | taskIteration now =>
    simp only [WatchdogOp.apply, watchdogTaskIteration, if_neg running]
    split_ifs <;> simp [running]

/-- From `NORMAL`, no operation but a late iteration of the task and an ESTOP signal leaves
`NORMAL`. -/
theorem WatchdogOp.apply_leaves_normal {op : WatchdogOp} {w : Watchdog} (normal : w.state = .normal)
    (noSignal : op ≠ .signalEstop) (left : (op.apply w).1.state ≠ .normal) :
    ∃ now, op = .taskIteration now ∧ heartbeatTimeoutMs < now - w.lastFeedTick := by
  -- A feed in `NORMAL` only stamps the tick, and a clear outside `ESTOP` changes nothing.
  cases op with
  | feed now => simp [WatchdogOp.apply, watchdogFeed, normal] at left
  | signalEstop => exact absurd rfl noSignal
  | clearEstop now => simp [WatchdogOp.apply, watchdogClearEstop, normal] at left
  | taskIteration now => exact ⟨now, rfl, watchdogTaskIteration_leaves_normal normal left⟩

/--
The heartbeat watchdog without ESTOP, over any feeds, clear attempts and iterations of its task,
each atomic, at any ticks modulo `2 ^ 32`: the watchdog leaves `NORMAL` only in an iteration of the
task that sees the last feed more than 250 ticks ago; such an iteration in `NORMAL` ends in `HOLD`
with `FAULT_HEARTBEAT_TIMEOUT` set; a feed in `TIMEOUT` or `HOLD` returns to `NORMAL` and clears
that fault; and in every run without an ESTOP signal the watchdog never enters `ESTOP`.
-/
theorem watchdog_holds_only_on_timeout :
    (∀ (op : WatchdogOp) (w : Watchdog), op ≠ .signalEstop → w.state = .normal →
      (op.apply w).1.state ≠ .normal →
      ∃ now, op = .taskIteration now ∧ heartbeatTimeoutMs < now - w.lastFeedTick) ∧
    (∀ (now : BitVec 32) (w : Watchdog), w.state = .normal → heartbeatTimeoutMs < now - w.lastFeedTick →
      (watchdogTaskIteration now w).1.state = .hold ∧
        faultFlagsIsSet (watchdogTaskIteration now w).1.faults faultHeartbeatTimeout = true) ∧
    (∀ (now : BitVec 32) (w : Watchdog), (w.state = .timeout ∨ w.state = .hold) →
      (watchdogFeed now w).state = .normal ∧
        faultFlagsIsSet (watchdogFeed now w).faults faultHeartbeatTimeout = false) ∧
    (∀ (ops : List WatchdogOp) (w : Watchdog), w.state ≠ .estop → (∀ op ∈ ops, op ≠ .signalEstop) →
      (runWatchdog ops w).state ≠ .estop) := by
  -- Three parts are the one-operation lemmas; the last is an induction on the run.
  refine ⟨fun _ _ noSignal normal => WatchdogOp.apply_leaves_normal normal noSignal,
    fun _ _ => watchdogTaskIteration_timeout, fun _ _ => watchdogFeed_recovers, fun ops => ?_⟩
  -- Each operation keeps the watchdog out of `ESTOP`, so the run does.
  induction ops with
  | nil => exact fun _ running _ => running
  | cons op ops ih =>
    intro w running noSignal
    exact ih _ (WatchdogOp.apply_not_estop running (noSignal op (by simp)))
      fun other member => noSignal other (by simp [member])

/-- A watchdog fed at tick 0 and left unfed: the iteration at tick 300 holds it and raises the
timeout fault, a feed at 310 brings it back, and without an ESTOP signal it never enters `ESTOP`. -/
theorem watchdog_unfed_until_300 :
    (WatchdogOp.taskIteration 300#32 ≠ .signalEstop ∧ (watchdogInit 0#32 0#32).state = .normal ∧
      ((WatchdogOp.taskIteration 300#32).apply (watchdogInit 0#32 0#32)).1.state ≠ .normal ∧
      ∃ now, WatchdogOp.taskIteration 300#32 = .taskIteration now ∧
        heartbeatTimeoutMs < now - (watchdogInit 0#32 0#32).lastFeedTick) ∧
    ((watchdogInit 0#32 0#32).state = .normal ∧ heartbeatTimeoutMs < 300#32 - (watchdogInit 0#32 0#32).lastFeedTick ∧
      (watchdogTaskIteration 300#32 (watchdogInit 0#32 0#32)).1.state = .hold ∧
      faultFlagsIsSet (watchdogTaskIteration 300#32 (watchdogInit 0#32 0#32)).1.faults faultHeartbeatTimeout = true) ∧
    (((watchdogTaskIteration 300#32 (watchdogInit 0#32 0#32)).1.state = .timeout ∨
        (watchdogTaskIteration 300#32 (watchdogInit 0#32 0#32)).1.state = .hold) ∧
      (watchdogFeed 310#32 (watchdogTaskIteration 300#32 (watchdogInit 0#32 0#32)).1).state = .normal ∧
      faultFlagsIsSet (watchdogFeed 310#32 (watchdogTaskIteration 300#32 (watchdogInit 0#32 0#32)).1).faults
        faultHeartbeatTimeout = false) ∧
    ((watchdogInit 0#32 0#32).state ≠ .estop ∧
      (∀ op ∈ [WatchdogOp.taskIteration 300#32, .feed 310#32, .clearEstop 320#32], op ≠ .signalEstop) ∧
      (runWatchdog [.taskIteration 300#32, .feed 310#32, .clearEstop 320#32] (watchdogInit 0#32 0#32)).state ≠
        .estop) := by
  -- Each part applies the theorem at these ticks; the hypotheses are evaluated.
  obtain ⟨leaves, timeout, recovers, never⟩ := watchdog_holds_only_on_timeout
  have late : heartbeatTimeoutMs < 300#32 - (watchdogInit 0#32 0#32).lastFeedTick := by decide
  have held : (watchdogTaskIteration 300#32 (watchdogInit 0#32 0#32)).1.state = .timeout ∨
      (watchdogTaskIteration 300#32 (watchdogInit 0#32 0#32)).1.state = .hold := .inr (by decide)
  exact ⟨⟨by decide, rfl, by decide, leaves _ _ (by decide) rfl (by decide)⟩, ⟨rfl, late, timeout _ _ rfl late⟩,
    ⟨held, recovers _ _ held⟩, ⟨by decide, by decide, never _ _ (by decide) (by decide)⟩⟩

end Milkspider
