import Mathlib.Data.Option.Basic
import Mathlib.Data.List.Basic

/-
  Logs of status changes and their replay.

  Main definitions include:
    * `Library.replay?`
    * `Library.Legal`
    * `Library.LogsTo`

  Main theorems include:
    * `Library.LogsTo.nil`
    * `Library.LogsTo.snoc`

  A row of the log says to which status its change led.
  The replay of a log follows its rows from the first
  status on; it fails at a row that names no status.
-/

------------------------------------------------------------
-- Replay
------------------------------------------------------------

namespace Library

variable {S R : Type}

/- The status after all rows, oldest row first. -/
def replay?
    (status? : R → Option S) :
    S → List R → Option S
  | status, [] => some status
  | _, row :: rows =>
      (status? row).bind fun next =>
        replay? status? next rows

/- Every two successive statuses are an allowed change. -/
def Legal
    (status? : R → Option S)
    (Allowed : S → S → Prop) :
    S → List R → Prop
  | _, [] => True
  | status, row :: rows =>
      ∃ next ∈ status? row,
        Allowed status next ∧
          Legal status? Allowed next rows

/- The replay is legal and ends in the current status. -/
structure LogsTo
    (status? : R → Option S)
    (Allowed : S → S → Prop)
    (first : S)
    (log : List R)
    (current : S) :
    Prop where
  replayed : replay? status? first log = some current
  legal : Legal status? Allowed first log

variable {status? : R → Option S}
variable {Allowed : S → S → Prop}

/- An empty log stays at the first status. -/
theorem LogsTo.nil
    (first : S) :
    LogsTo status? Allowed first [] first where
  replayed := rfl
  legal := trivial

theorem replay?_snoc
    {first current next : S}
    {log : List R}
    {row : R}
    (hLog : replay? status? first log = some current)
    (hRow : status? row = some next) :
    replay? status? first (log ++ [row]) = some next := by
  induction log generalizing first with
  | nil => simp [replay?, hRow]
  | cons head log ih =>
      simp only [replay?, Option.bind_eq_some_iff] at hLog
      rcases hLog with ⟨middle, hHead, hLog⟩
      simp only [List.cons_append, replay?, hHead,
        Option.bind_some]
      exact ih hLog

theorem legal_snoc
    {first current next : S}
    {log : List R}
    {row : R}
    (hLog : replay? status? first log = some current)
    (hLegal : Legal status? Allowed first log)
    (hRow : status? row = some next)
    (hAllowed : Allowed current next) :
    Legal status? Allowed first (log ++ [row]) := by
  induction log generalizing first with
  | nil =>
      rw [replay?, Option.some.injEq] at hLog
      subst hLog
      exact ⟨next, hRow, hAllowed, trivial⟩
  | cons head log ih =>
      rcases hLegal with ⟨middle, hHead, hStep, hRest⟩
      simp only [replay?, Option.mem_def.mp hHead,
        Option.bind_some] at hLog
      exact ⟨middle, hHead, hStep, ih hLog hRest⟩

/- An allowed change is logged by one row. -/
theorem LogsTo.snoc
    {first current next : S}
    {log : List R}
    {row : R}
    (hLogs : LogsTo status? Allowed first log current)
    (hRow : status? row = some next)
    (hAllowed : Allowed current next) :
    LogsTo status? Allowed first (log ++ [row]) next where
  replayed := replay?_snoc hLogs.replayed hRow
  legal :=
    legal_snoc hLogs.replayed hLogs.legal hRow hAllowed

end Library
