import Mathlib.Algebra.Order.Ring.Nat
import Mathlib.Algebra.BigOperators.Group.List

/-! The skeleton daemon's `ErrorHandler` (`brain_daemon/error_handler.cpp`): its counters, its rate
limiter and its escalation of critical reports, over any run of calls. -/

namespace Milkspider

/-- `ErrorLevel`. -/
inductive ErrorLevel
  | info
  | warning
  | error
  | critical
  deriving DecidableEq, Repr

/-- `LOG_RATE_LIMIT_MS`. -/
def logRateLimitMs : BitVec 64 := 100

/-- The members of `ErrorHandler`; the callback is known only by whether it is set. -/
structure ErrorHandler where
  infoCount : BitVec 32
  warningCount : BitVec 32
  errorCount : BitVec 32
  criticalCount : BitVec 32
  lastLogTimeMs : BitVec 64
  suppressedCount : BitVec 32
  criticalCallback : Bool
  deriving DecidableEq, Repr

/-- The constructor, at time `now`: `m_last_log_time_ms = now_ms()`, the other members as the
header initialises them, counts 0 and no callback. -/
def ErrorHandler.init (now : BitVec 64) : ErrorHandler := ⟨0, 0, 0, 0, now, 0, false⟩

/-- What a report leaves on the outside. -/
inductive ReportOutput
  /-- A line on `std::cerr`, with the number of reports the note says were suppressed (no note
  when it is 0). -/
  | line (level : ErrorLevel) (message : String) (suppressed : BitVec 32)
  /-- `m_critical_callback(message)`. -/
  | escalate (message : String)
  deriving DecidableEq, Repr

/-- `level_str`. -/
def ErrorLevel.text : ErrorLevel → String
  | .info => "INFO"
  | .warning => "WARN"
  | .error => "ERROR"
  | .critical => "CRITICAL"

/-- The text of a line: `[level] message`, then ` (+N suppressed)` when `N` is not 0. -/
def ReportOutput.text : ReportOutput → Option String
  | .line level message suppressed =>
    some ("[" ++ level.text ++ "] " ++ message ++
      if suppressed ≠ 0 then " (+" ++ toString suppressed.toNat ++ " suppressed)" else "")
  | .escalate _ => none

/-- The counter `report` adds one to. -/
def ErrorHandler.count (e : ErrorHandler) : ErrorLevel → BitVec 32
  | .info => e.infoCount
  | .warning => e.warningCount
  | .error => e.errorCount
  | .critical => e.criticalCount

/-- `report`'s `switch` on the level: one more on its counter. -/
def ErrorHandler.countReport (level : ErrorLevel) (e : ErrorHandler) : ErrorHandler :=
  match level with
  | .info => { e with infoCount := e.infoCount + 1 }
  | .warning => { e with warningCount := e.warningCount + 1 }
  | .error => { e with errorCount := e.errorCount + 1 }
  | .critical => { e with criticalCount := e.criticalCount + 1 }

/-- Counting a report keeps the callback. -/
@[simp] theorem ErrorHandler.countReport_criticalCallback (level : ErrorLevel) (e : ErrorHandler) :
    (e.countReport level).criticalCallback = e.criticalCallback := by
  -- Each level writes only its own counter.
  cases level <;> rfl

/-- Counting a report keeps the time of the last line. -/
@[simp] theorem ErrorHandler.countReport_lastLogTimeMs (level : ErrorLevel) (e : ErrorHandler) :
    (e.countReport level).lastLogTimeMs = e.lastLogTimeMs := by
  -- Each level writes only its own counter.
  cases level <;> rfl

/-- Counting a report keeps the suppressed count. -/
@[simp] theorem ErrorHandler.countReport_suppressedCount (level : ErrorLevel) (e : ErrorHandler) :
    (e.countReport level).suppressedCount = e.suppressedCount := by
  -- Each level writes only its own counter.
  cases level <;> rfl

/-- `ErrorHandler::report(level, message)` at time `now`. -/
def ErrorHandler.report (level : ErrorLevel) (message : String) (now : BitVec 64) (e : ErrorHandler) :
    ErrorHandler × List ReportOutput :=
  let e := e.countReport level
  let inWindow := now - e.lastLogTimeMs < logRateLimitMs
  let e := if inWindow then { e with suppressedCount := e.suppressedCount + 1 } else e
  if inWindow ∧ level ≠ .critical then (e, [])
  else
    let line := ReportOutput.line level message e.suppressedCount
    let e := { e with lastLogTimeMs := now, suppressedCount := 0 }
    (e, line :: if level = .critical ∧ e.criticalCallback then [.escalate message] else [])

/-- `ErrorHandler::clearCounts`. -/
def ErrorHandler.clearCounts (e : ErrorHandler) : ErrorHandler :=
  { e with infoCount := 0, warningCount := 0, errorCount := 0, criticalCount := 0 }

/-- `ErrorHandler::setCriticalCallback`, with a callback or `nullptr`. -/
def ErrorHandler.setCriticalCallback (set : Bool) (e : ErrorHandler) : ErrorHandler :=
  { e with criticalCallback := set }

/-- The calls the daemon makes on its `ErrorHandler`. -/
inductive ErrorOp
  /-- `report(level, message)`, `now_ms()` reading `now`. -/
  | report (level : ErrorLevel) (message : String) (now : BitVec 64)
  /-- `clearCounts()`. -/
  | clearCounts
  /-- `setCriticalCallback`, with a callback or `nullptr`. -/
  | setCriticalCallback (set : Bool)
  deriving DecidableEq, Repr

/-- One call. -/
def ErrorHandler.apply (e : ErrorHandler) : ErrorOp → ErrorHandler × List ReportOutput
  | .report level message now => e.report level message now
  | .clearCounts => (e.clearCounts, [])
  | .setCriticalCallback set => (e.setCriticalCallback set, [])

/-- Calls in turn: the handler after them and what they left on the outside. -/
def ErrorHandler.run : List ErrorOp → ErrorHandler → ErrorHandler × List ReportOutput
  | [], e => (e, [])
  | op :: ops, e =>
    let step := e.apply op
    let rest := ErrorHandler.run ops step.1
    (rest.1, step.2 ++ rest.2)

/-! ## Escalation -/

/-- The message of an escalation. -/
def ReportOutput.escalated : ReportOutput → Option String
  | .line .. => none
  | .escalate message => some message

/-- The critical reports among some calls that come while a callback is set, `set` telling
whether one is at the start: what the header promises to escalate. -/
def criticalMessages : Bool → List ErrorOp → List String
  | _, [] => []
  | set, .report level message _ :: ops =>
    (if level = .critical ∧ set then [message] else []) ++ criticalMessages set ops
  | set, .clearCounts :: ops => criticalMessages set ops
  | _, .setCriticalCallback set :: ops => criticalMessages set ops

/-- A report escalates its message when it is critical and a callback is set, whatever its time. -/
theorem ErrorHandler.report_escalated (e : ErrorHandler) (level : ErrorLevel) (message : String) (now : BitVec 64) :
    ((e.report level message now).2.filterMap ReportOutput.escalated) =
      if level = .critical ∧ e.criticalCallback then [message] else [] := by
  -- The critical branch prints and escalates whether or not it is in the window.
  unfold ErrorHandler.report
  dsimp only
  split_ifs <;> simp_all [ReportOutput.escalated]

/-- The message of a critical line. -/
def ReportOutput.criticalLine : ReportOutput → Option String
  | .line .critical message _ => some message
  | _ => none

/-- The message of a critical report. -/
def ErrorOp.critical : ErrorOp → Option String
  | .report .critical message _ => some message
  | _ => none

/-- A report prints its line when it is critical, whatever its time. -/
theorem ErrorHandler.report_criticalLine (e : ErrorHandler) (level : ErrorLevel) (message : String) (now : BitVec 64) :
    (e.report level message now).2.filterMap ReportOutput.criticalLine = [ErrorOp.report level message now].filterMap ErrorOp.critical := by
  -- A critical report always takes the printing branch.
  unfold ErrorHandler.report
  dsimp only
  split_ifs <;> cases level <;> simp_all [ReportOutput.criticalLine, ErrorOp.critical]

/-- A report leaves the callback as it was. -/
@[simp] theorem ErrorHandler.report_criticalCallback (e : ErrorHandler) (level : ErrorLevel) (message : String)
    (now : BitVec 64) : (e.report level message now).1.criticalCallback = e.criticalCallback := by
  -- No branch of `report` writes the callback.
  unfold ErrorHandler.report
  dsimp only
  split_ifs <;> simp

/--
`ErrorHandler` never rate-limits a critical report away. Over any calls, whatever the times of the
reports, every critical report is printed, in order, and its message goes to the critical
callback, in order, whenever one is set; nothing else does.
-/
theorem critical_reports_escalated (ops : List ErrorOp) (e : ErrorHandler) :
    (ErrorHandler.run ops e).2.filterMap ReportOutput.criticalLine = ops.filterMap ErrorOp.critical ∧
      (ErrorHandler.run ops e).2.filterMap ReportOutput.escalated = criticalMessages e.criticalCallback ops := by
  -- Induction on the calls, one report lemma each.
  induction ops generalizing e with
  | nil => exact ⟨rfl, rfl⟩
  | cons op ops ih =>
    obtain ⟨printed, escalated⟩ := ih (e.apply op).1
    simp only [ErrorHandler.run, List.filterMap_append, printed, escalated]
    cases op with
    | report level message now =>
      refine ⟨?_, ?_⟩
      · rw [ErrorHandler.apply, ErrorHandler.report_criticalLine, ← List.filterMap_append, List.singleton_append]
      · simp only [ErrorHandler.apply, ErrorHandler.report_escalated, ErrorHandler.report_criticalCallback,
          criticalMessages]
    | clearCounts => exact ⟨rfl, rfl⟩
    | setCriticalCallback set => exact ⟨rfl, rfl⟩

/-! ## Accounting -/

/-- How many reports a line speaks for: itself and those its note says were suppressed. -/
def ReportOutput.accounts : ReportOutput → Nat
  | .line _ _ suppressed => 1 + suppressed.toNat
  | .escalate _ => 0

/-- Whether a call is a report. -/
def ErrorOp.isReport : ErrorOp → Bool
  | .report .. => true
  | _ => false

/-- A report adds one to the account, and one more when it is critical and inside the window: it
is then printed and counted among the suppressed as well. -/
theorem ErrorHandler.report_accounts (e : ErrorHandler) (level : ErrorLevel) (message : String) (now : BitVec 64)
    (fit : e.suppressedCount.toNat + 1 < 2 ^ 32) :
    ((e.report level message now).2.map ReportOutput.accounts).sum + (e.report level message now).1.suppressedCount.toNat =
      e.suppressedCount.toNat + 1 + if now - e.lastLogTimeMs < logRateLimitMs ∧ level = .critical then 1 else 0 := by
  -- Branch by branch: a suppressed report waits in the count, a printed line carries the count.
  unfold ErrorHandler.report
  dsimp only
  split_ifs <;> simp_all [ReportOutput.accounts, BitVec.toNat_add] <;> omega

/-- A report adds at most one to the count still pending. -/
theorem ErrorHandler.report_suppressedCount_le (e : ErrorHandler) (level : ErrorLevel) (message : String)
    (now : BitVec 64) (fit : e.suppressedCount.toNat + 1 < 2 ^ 32) :
    (e.report level message now).1.suppressedCount.toNat ≤ e.suppressedCount.toNat + 1 := by
  -- The count grows by one in the window, and is reset outside it.
  unfold ErrorHandler.report
  dsimp only
  split_ifs <;> simp_all [BitVec.toNat_add]; omega

/-- One call: a report adds one to the account, a critical one inside the window possibly two, and
at most one to the count still pending; the other calls leave both alone. -/
theorem ErrorHandler.apply_accounts (e : ErrorHandler) (op : ErrorOp)
    (fit : e.suppressedCount.toNat + (if op.isReport then 1 else 0) < 2 ^ 32) :
    (e.suppressedCount.toNat + (if op.isReport then 1 else 0) ≤
        ((e.apply op).2.map ReportOutput.accounts).sum + (e.apply op).1.suppressedCount.toNat ∧
      (op.critical = none → e.suppressedCount.toNat + (if op.isReport then 1 else 0) =
        ((e.apply op).2.map ReportOutput.accounts).sum + (e.apply op).1.suppressedCount.toNat)) ∧
      (e.apply op).1.suppressedCount.toNat ≤ e.suppressedCount.toNat + (if op.isReport then 1 else 0) := by
  -- Call by call: only a report moves the account.
  cases op with
  | report level message now =>
    have accounts := e.report_accounts level message now fit
    have pending := e.report_suppressedCount_le level message now fit
    -- only a critical report can add the second one
    have critical : ErrorOp.critical (.report level message now) = none → level ≠ .critical := by
      rintro quiet rfl
      exact Option.noConfusion quiet
    simp only [ErrorHandler.apply, ErrorOp.isReport, if_true] at accounts pending ⊢
    refine ⟨⟨by split_ifs at accounts <;> omega, fun h => ?_⟩, pending⟩
    rw [accounts, if_neg (fun both => critical h both.2)]
  | clearCounts => simp [ErrorHandler.apply, ErrorHandler.clearCounts, ErrorOp.isReport]
  | setCriticalCallback set => simp [ErrorHandler.apply, ErrorHandler.setCriticalCallback, ErrorOp.isReport]

/--
No report goes missing from `ErrorHandler`'s log. Over any calls, whatever the times of the
reports, each report is printed or counted in the `(+N suppressed)` note of a later printed line or
in the count still pending, as long as that count does not wrap; without critical reports the
account is exact, while a critical report inside the window is printed and counted as suppressed.
-/
theorem reports_accounted (ops : List ErrorOp) (e : ErrorHandler)
    (fit : ops.countP ErrorOp.isReport + e.suppressedCount.toNat < 2 ^ 32) :
    ops.countP ErrorOp.isReport + e.suppressedCount.toNat ≤
        ((ErrorHandler.run ops e).2.map ReportOutput.accounts).sum + (ErrorHandler.run ops e).1.suppressedCount.toNat ∧
      ((∀ op ∈ ops, op.critical = none) → ops.countP ErrorOp.isReport + e.suppressedCount.toNat =
        ((ErrorHandler.run ops e).2.map ReportOutput.accounts).sum + (ErrorHandler.run ops e).1.suppressedCount.toNat) := by
  -- Induction on the calls, one `apply_accounts` each.
  induction ops generalizing e with
  | nil => simp [ErrorHandler.run]
  | cons op ops ih =>
    rw [List.countP_cons] at fit ⊢
    obtain ⟨⟨step, exact⟩, pending⟩ := e.apply_accounts op (by omega)
    obtain ⟨rest, restExact⟩ := ih (e.apply op).1 (by omega)
    simp only [ErrorHandler.run, List.map_append, List.sum_append, List.forall_mem_cons]
    exact ⟨by omega, fun ⟨quiet, others⟩ => by have := exact quiet; have := restExact others; omega⟩

/-- The reports the daemon's start-up makes (`main.cpp`) when the eye service and then the WebSocket
server fail, 5 and 20 ms after the handler is built. -/
def startupCalls : List ErrorOp :=
  [.report .warning "Eye service not available" 5, .report .critical "Failed to start WebSocket server" 20]

/-- Both start-up reports are accounted for: the warning inside the window by the note on the
critical line, which the account counts twice. -/
theorem startup_reports_accounted :
    startupCalls.countP ErrorOp.isReport + (ErrorHandler.init 0).suppressedCount.toNat < 2 ^ 32 ∧
      (startupCalls.countP ErrorOp.isReport + (ErrorHandler.init 0).suppressedCount.toNat ≤
          ((ErrorHandler.run startupCalls (.init 0)).2.map ReportOutput.accounts).sum +
            (ErrorHandler.run startupCalls (.init 0)).1.suppressedCount.toNat ∧
        ((∀ op ∈ startupCalls, op.critical = none) →
          startupCalls.countP ErrorOp.isReport + (ErrorHandler.init 0).suppressedCount.toNat =
            ((ErrorHandler.run startupCalls (.init 0)).2.map ReportOutput.accounts).sum +
              (ErrorHandler.run startupCalls (.init 0)).1.suppressedCount.toNat)) :=
  -- Two reports cannot wrap the count.
  ⟨by decide, reports_accounted startupCalls (.init 0) (by decide)⟩

/-- The calls behind one report's entry in the account: the smallest one, a single critical report
right after construction, is printed and counted as suppressed too. -/
example : ((ErrorHandler.run [.report .critical "Failed to init RPMsg" 0] (.init 0)).2.map
    ReportOutput.accounts).sum = 2 := by decide

/-! ## Counters -/

/-- Whether a call is a report at `level`. -/
def ErrorOp.reportsAt (level : ErrorLevel) : ErrorOp → Bool
  | .report l .. => l = level
  | _ => false

/-- The level's own counter goes up by one, the others stay. -/
theorem ErrorHandler.count_countReport (e : ErrorHandler) (l level : ErrorLevel) :
    (e.countReport l).count level = e.count level + if l = level then 1 else 0 := by
  -- Each pair of levels is checked.
  cases l <;> cases level <;> simp [ErrorHandler.countReport, ErrorHandler.count]

/-- A report counts itself at its level, whether it is printed or suppressed. -/
theorem ErrorHandler.count_report (e : ErrorHandler) (l level : ErrorLevel) (message : String) (now : BitVec 64) :
    (e.report l message now).1.count level = e.count level + if l = level then 1 else 0 := by
  -- Whatever branch it takes, `report` counts the level first and touches no counter after.
  rw [← e.count_countReport]
  unfold ErrorHandler.report
  dsimp only
  split_ifs <;> cases level <;> rfl

/--
`getCount(level)` counts every report at `level` since the last `clearCounts`, those the rate
limiter suppressed included, modulo 2^32: over any calls without a `clearCounts`, whatever their
times, it goes up by the number of reports at `level` among them, and from 0 after one.
-/
theorem reports_counted (level : ErrorLevel) (ops : List ErrorOp) (e : ErrorHandler) (noClear : .clearCounts ∉ ops) :
    (ErrorHandler.run ops e).1.count level = e.count level + BitVec.ofNat 32 (ops.countP (ErrorOp.reportsAt level)) ∧
      (ErrorHandler.run (.clearCounts :: ops) e).1.count level = BitVec.ofNat 32 (ops.countP (ErrorOp.reportsAt level)) := by
  -- the first part, for every starting handler, gives the second from the cleared one
  suffices counted : ∀ e : ErrorHandler, (ErrorHandler.run ops e).1.count level =
      e.count level + BitVec.ofNat 32 (ops.countP (ErrorOp.reportsAt level)) by
    refine ⟨counted e, ?_⟩
    rw [ErrorHandler.run, counted]
    cases level <;> simp [ErrorHandler.apply, ErrorHandler.clearCounts, ErrorHandler.count]
  induction ops with
  | nil => simp [ErrorHandler.run]
  | cons op ops ih =>
    intro e
    rw [List.mem_cons, not_or] at noClear
    rw [ErrorHandler.run, ih noClear.2, List.countP_cons, BitVec.ofNat_add]
    cases op with
    | report l message now =>
      rw [ErrorHandler.apply, ErrorHandler.count_report]
      by_cases same : l = level
      · simp only [same, ErrorOp.reportsAt, decide_True, if_true]
        rw [show (1#32 : BitVec 32) = 1 from rfl]
        ac_rfl
      · simp [same, ErrorOp.reportsAt]
    | clearCounts => exact absurd rfl noClear.1
    | setCriticalCallback set => cases level <;> simp [ErrorHandler.apply, ErrorOp.reportsAt, ErrorHandler.count, ErrorHandler.setCriticalCallback]

/-- The start-up warning is counted though the rate limiter suppresses it. -/
theorem startup_warning_counted :
    ErrorOp.clearCounts ∉ startupCalls ∧
      ((ErrorHandler.run startupCalls (.init 0)).1.count .warning =
          (ErrorHandler.init 0).count .warning + BitVec.ofNat 32 (startupCalls.countP (ErrorOp.reportsAt .warning)) ∧
        (ErrorHandler.run (.clearCounts :: startupCalls) (.init 0)).1.count .warning =
          BitVec.ofNat 32 (startupCalls.countP (ErrorOp.reportsAt .warning))) :=
  -- The start-up calls hold no `clearCounts`.
  ⟨by decide, reports_counted .warning startupCalls (.init 0) (by decide)⟩

end Milkspider
