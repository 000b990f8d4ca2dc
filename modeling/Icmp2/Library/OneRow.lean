import Icmp2.Library.Rows

/-
  A table with one row for a key.

  Main definitions include:
    * `Library.Rows.updateWhere`
    * `Library.Rows.HoldsOne`

  Main theorems include:
    * `Library.Rows.holdsOne_insert`
    * `Library.Rows.HoldsOne.updateWhere`

  The row is the only one that passes a test, and writes of
  this row keep it so.
-/

------------------------------------------------------------
-- Writes by a Test
------------------------------------------------------------

namespace Library

namespace Rows

variable {R : Type}

/- Change the rows that pass the test. -/
def updateWhere
    (rows : Rows R)
    (test : R → Bool)
    (f : R → R) :
    Rows R :=
  rows.mapRows fun row => if test row then f row else row

/- Exactly one row passes the test, and it has `P`. -/
def HoldsOne
    (rows : Rows R)
    (test : R → Bool)
    (P : R → Prop) :
    Prop :=
  ∃ id row,
    rows.get? id = some row ∧
      test row = true ∧
      P row ∧
      ∀ other otherRow,
        rows.get? other = some otherRow →
        test otherRow = true →
          other = id

variable {rows : Rows R}
variable {test : R → Bool}
variable {f : R → R}
variable {new : R}
variable {P Q : R → Prop}

/- A row is made where there was none. -/
theorem holdsOne_insert
    (hNone : rows.find? test = none)
    (hTest : test new = true)
    (hNew : P new) :
    (rows.insert new).HoldsOne test P := by
  refine
    ⟨rows.nextId, new, get?_insert_nextId rows new, hTest,
      hNew, ?_⟩
  intro other otherRow hGet hOther
  rcases get?_of_get?_insert hGet with
    ⟨hSame, -⟩ | ⟨-, hOld⟩
  · exact hSame
  · rw [find?_eq_none_iff] at hNone
    rw [hNone other otherRow hOld] at hOther
    cases hOther

namespace HoldsOne

theorem find?_ne_none
    (hOne : rows.HoldsOne test P) :
    rows.find? test ≠ none := by
  rcases hOne with ⟨id, row, hGet, hTest, -⟩
  intro hNone
  rw [find?_eq_none_iff] at hNone
  rw [hNone id row hGet] at hTest
  cases hTest

theorem imp
    (hOne : rows.HoldsOne test P)
    (hImp : ∀ row, P row → Q row) :
    rows.HoldsOne test Q := by
  rcases hOne with ⟨id, row, hGet, hTest, hRow, hOnly⟩
  exact ⟨id, row, hGet, hTest, hImp row hRow, hOnly⟩

/- The row is changed, and passes the test as before. -/
theorem updateWhere
    (hOne : rows.HoldsOne test P)
    (hTest : ∀ row, test row = true → test (f row) = true)
    (hRow : ∀ row, P row → Q (f row)) :
    (rows.updateWhere test f).HoldsOne test Q := by
  rcases hOne with ⟨id, row, hGet, hPasses, hHas, hOnly⟩
  refine
    ⟨id, f row, ?_, hTest row hPasses, hRow row hHas, ?_⟩
  · rw [Rows.updateWhere, get?_mapRows, hGet]
    exact congrArg some (if_pos hPasses)
  · intro other otherRow hOther hOtherTest
    rw [Rows.updateWhere, get?_mapRows] at hOther
    rcases Option.map_eq_some_iff.mp hOther with
      ⟨old, hOld, rfl⟩
    cases hOldTest : test old with
    | true => exact hOnly other old hOld hOldTest
    | false =>
        rw [hOldTest, if_neg Bool.false_ne_true,
          hOldTest] at hOtherTest
        cases hOtherTest

end HoldsOne

end Rows

end Library
