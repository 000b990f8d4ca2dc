import Icmp2.Library.Action
import Icmp2.Library.Trace

/-
  Batches of actions whose exceptions are noted.

  Main definitions include:
    * `Library.batchStep`
    * `Library.outcomes`
    * `Library.turn`

  Main theorems include:
    * `Library.outcomes_append`
    * `Library.getElem?_outcomes`
    * `Library.outcomes_eraseIdx`

  Every item of a batch acts on the state that the items
  before it leave, returned or raised.  An item that raises
  and leaves the state as it was can be dropped.
-/

------------------------------------------------------------
-- Outcomes
------------------------------------------------------------

namespace Library

variable {E S I : Type}
variable (act : I → Action E S Unit)

/- The state behind one item. -/
def batchStep
    (state : S)
    (item : I) :
    S :=
  (act item).stateAfter state

/- How the items end, one after the other. -/
def outcomes :
    S → List I → List (Option E)
  | _, [] => []
  | state, item :: items =>
      (act item).error? state ::
        outcomes (batchStep act state item) items

/- The state in which the item at a position acts. -/
def turn
    (state : S)
    (items : List I)
    (position : Nat) :
    S :=
  run (batchStep act) state (items.take position)

@[simp] theorem length_outcomes
    (state : S)
    (items : List I) :
    (outcomes act state items).length = items.length := by
  induction items generalizing state with
  | nil => rfl
  | cons item items ih =>
      simp only [outcomes, List.length_cons, ih]

theorem outcomes_append
    (state : S)
    (first second : List I) :
    outcomes act state (first ++ second) =
      outcomes act state first ++
        outcomes act (run (batchStep act) state first)
          second := by
  induction first generalizing state with
  | nil => rfl
  | cons item first ih =>
      simp only [List.cons_append, outcomes, ih, run_cons]

/- An item ends as it does alone at its turn. -/
theorem getElem?_outcomes
    (state : S)
    {items : List I}
    {position : Nat}
    {item : I}
    (hItem : items[position]? = some item) :
    (outcomes act state items)[position]? =
      some
        ((act item).error?
          (turn act state items position)) := by
  induction items generalizing state position with
  | nil => simp at hItem
  | cons first items ih =>
      cases position with
      | zero =>
          cases hItem
          rfl
      | succ position =>
          exact ih (batchStep act state first) hItem

theorem turn_succ
    (state : S)
    {items : List I}
    {position : Nat}
    {item : I}
    (hItem : items[position]? = some item) :
    turn act state items (position + 1) =
      batchStep act (turn act state items position)
        item := by
  rw [turn, turn, List.take_add_one, hItem, run_append]
  rfl

/-
  Without an item that leaves the state as it was, the
  others end as before and the last state is the same.
-/
theorem outcomes_eraseIdx
    (state : S)
    {items : List I}
    {position : Nat}
    {item : I}
    (hItem : items[position]? = some item)
    (hSame :
      batchStep act (turn act state items position) item =
        turn act state items position) :
    outcomes act state (items.eraseIdx position) =
        (outcomes act state items).eraseIdx position ∧
      run (batchStep act) state (items.eraseIdx position) =
        run (batchStep act) state items := by
  induction items generalizing state position with
  | nil => simp at hItem
  | cons first items ih =>
      cases position with
      | zero =>
          cases hItem
          have hFirst : batchStep act state item = state :=
            hSame
          simp only [List.eraseIdx_zero, List.tail_cons,
            outcomes, run_cons, hFirst, and_self]
      | succ position =>
          have hRest :=
            ih (batchStep act state first) hItem hSame
          simp only [List.eraseIdx_cons_succ, outcomes,
            run_cons, hRest.1, hRest.2, and_self]

end Library
