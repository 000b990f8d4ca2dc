import Icmp2.Library.OrderBy
import Mathlib.Logic.Function.Iterate

/-
  A backlog that serves the greatest key first.

  Main definitions include:
    * `Library.Backlog`
    * `Library.Backlog.arrive`
    * `Library.Backlog.serve`
    * `Library.Backlog.Fair`
    * `Library.Backlog.Serves`

  Main theorems include:
    * `Library.filter_orderDesc`
    * `Library.Backlog.Fair.arrive`
    * `Library.Backlog.Fair.serves`
    * `Library.Backlog.Fair.served_greatest`

  Whoever waits is kept in the order of the keys, and whoever
  has the same key in the order of arrival.  So nobody is
  lost or served twice, and within one key nobody overtakes.
-/

------------------------------------------------------------
-- Stability
------------------------------------------------------------

namespace Library

variable {A K : Type}
variable [LinearOrder K]
variable (key : A → K)

theorem filter_orderedInsert
    (row : A)
    (rows : List A)
    (k : K) :
    (rows.orderedInsert (NotBelow key) row).filter
        (fun other => key other = k) =
      (row :: rows).filter fun other => key other = k := by
  induction rows with
  | nil => rfl
  | cons head rows ih =>
      rw [List.orderedInsert_cons]
      by_cases hBefore : NotBelow key row head
      · rw [if_pos hBefore]
      · rw [if_neg hBefore]
        have hApart : ¬ (key row = k ∧ key head = k) := by
          rintro ⟨hRow, hHead⟩
          exact hBefore (hHead.trans hRow.symm).le
        rw [List.filter_cons, ih]
        by_cases hHead : key head = k
        · have hRow : key row ≠ k := fun hRow =>
            hApart ⟨hRow, hHead⟩
          simp [hHead, hRow]
        · simp [List.filter_cons, hHead]

/- Rows with equal keys keep their order. -/
theorem filter_orderDesc
    (rows : List A)
    (k : K) :
    (orderDesc key rows).filter (fun row => key row = k) =
      rows.filter fun row => key row = k := by
  induction rows with
  | nil => rfl
  | cons row rows ih =>
      have hStep :
          orderDesc key (row :: rows) =
            (orderDesc key rows).orderedInsert
              (NotBelow key) row :=
        rfl
      rw [hStep, filter_orderedInsert, List.filter_cons,
        List.filter_cons, ih]

end Library

------------------------------------------------------------
-- Backlogs
------------------------------------------------------------

namespace Library

/- What came, what was served, and what waits still. -/
structure Backlog (A : Type) where
  arrived : List A
  served : List A
  waiting : List A

namespace Backlog

variable {A K : Type}
variable [LinearOrder K]
variable (key : A → K)

def empty : Backlog A :=
  ⟨[], [], []⟩

/- Newcomers are put behind and the whole is ordered. -/
def arrive
    (backlog : Backlog A)
    (newcomers : List A) :
    Backlog A where
  arrived := backlog.arrived ++ newcomers
  served := backlog.served
  waiting := orderDesc key (backlog.waiting ++ newcomers)

/- The first one that waits is served. -/
def serve
    (backlog : Backlog A) :
    Backlog A :=
  match backlog.waiting with
  | [] => backlog
  | first :: rest =>
      { backlog with
        served := backlog.served ++ [first]
        waiting := rest }

/- Greatest keys first, and equal keys in turn. -/
structure Fair
    (backlog : Backlog A) :
    Prop where
  ordered : backlog.waiting.Pairwise (NotBelow key)
  inTurn :
    ∀ k,
      backlog.arrived.filter (fun row => key row = k) =
        backlog.served.filter (fun row => key row = k) ++
          backlog.waiting.filter fun row => key row = k

variable {key}
variable {backlog : Backlog A}

theorem fair_empty :
    Fair key (empty : Backlog A) where
  ordered := List.Pairwise.nil
  inTurn := by
    intro k
    rfl

theorem Fair.arrive
    (hFair : backlog.Fair key)
    (newcomers : List A) :
    (backlog.arrive key newcomers).Fair key where
  ordered := pairwise_orderDesc key _
  inTurn := by
    intro k
    simp only [Backlog.arrive]
    rw [filter_orderDesc, List.filter_append,
      List.filter_append, hFair.inTurn k, List.append_assoc]

theorem Fair.serve
    (hFair : backlog.Fair key) :
    backlog.serve.Fair key := by
  unfold Backlog.serve
  cases hWaiting : backlog.waiting with
  | nil => exact hFair
  | cons first rest =>
      refine ⟨?_, ?_⟩
      · have hOrdered := hFair.ordered
        rw [hWaiting] at hOrdered
        exact hOrdered.of_cons
      · intro k
        have hTurn := hFair.inTurn k
        have hSplit : first :: rest = [first] ++ rest := rfl
        rw [hWaiting, hSplit, List.filter_append] at hTurn
        simp only
        rw [hTurn, List.filter_append, List.append_assoc]

/- Serving again and again takes from the front. -/
theorem iterate_serve
    (backlog : Backlog A)
    (n : Nat) :
    serve^[n] backlog =
      { backlog with
        served := backlog.served ++ backlog.waiting.take n
        waiting := backlog.waiting.drop n } := by
  induction n generalizing backlog with
  | zero => simp
  | succ n ih =>
      rw [Function.iterate_succ_apply, ih]
      unfold Backlog.serve
      cases hWaiting : backlog.waiting with
      | nil => simp [hWaiting]
      | cons first rest => simp

/- Nobody new, and some of those who waited are served. -/
def Serves
    (former later : Backlog A) :
    Prop :=
  ∃ n, later = serve^[n] former

theorem Serves.refl
    (backlog : Backlog A) :
    Serves backlog backlog :=
  ⟨0, rfl⟩

theorem serves_serve
    (backlog : Backlog A) :
    Serves backlog backlog.serve :=
  ⟨1, rfl⟩

theorem Serves.trans
    {former between later : Backlog A}
    (hFirst : Serves former between)
    (hSecond : Serves between later) :
    Serves former later := by
  rcases hFirst with ⟨m, rfl⟩
  rcases hSecond with ⟨n, rfl⟩
  exact ⟨n + m, (Function.iterate_add_apply _ n m _).symm⟩

theorem Fair.serves
    (hFair : backlog.Fair key)
    {later : Backlog A}
    (hServes : Serves backlog later) :
    later.Fair key := by
  rcases hServes with ⟨n, rfl⟩
  induction n with
  | zero => exact hFair
  | succ n ih =>
      rw [Function.iterate_succ_apply']
      exact ih.serve

/- Nobody who is served is less than one who waits on. -/
theorem Fair.served_greatest
    (hFair : backlog.Fair key)
    {later : Backlog A}
    (hServes : Serves backlog later) :
    ∀ row ∈ later.served.drop backlog.served.length,
      ∀ other ∈ later.waiting, key other ≤ key row := by
  rcases hServes with ⟨n, rfl⟩
  rw [iterate_serve]
  simp only
  rw [List.drop_left]
  have hOrdered := hFair.ordered
  rw [← List.take_append_drop n backlog.waiting,
    List.pairwise_append] at hOrdered
  exact hOrdered.2.2

/- Whoever waits in order already waits on. -/
theorem Fair.arrive_nil
    (hFair : backlog.Fair key) :
    backlog.arrive key [] = backlog := by
  unfold Backlog.arrive orderDesc
  rw [List.append_nil, List.append_nil,
    hFair.ordered.insertionSort_eq]

end Backlog

end Library
