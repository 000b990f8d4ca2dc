import Mathlib.Data.List.Sort
import Mathlib.Order.Lattice

/-
  Rows ordered by a key, greatest key first.

  Main definitions include:
    * `Library.orderDesc`

  Main theorems include:
    * `Library.mem_orderDesc`
    * `Library.pairwise_orderDesc`
    * `Library.orderDesc_eq_reverse`
    * `Library.increasing_reverse_take_orderDesc`
-/

------------------------------------------------------------
-- Descending Order
------------------------------------------------------------

namespace Library

variable {R K : Type}
variable [LinearOrder K]

/- The relation by which the rows are ordered. -/
def NotBelow
    (key : R → K)
    (left right : R) :
    Prop :=
  key right ≤ key left

instance
    (key : R → K) :
    DecidableRel (NotBelow key) := by
  intro left right
  unfold NotBelow
  infer_instance

instance
    (key : R → K) :
    Std.Total (NotBelow key) where
  total left right := le_total (key right) (key left)

instance
    (key : R → K) :
    IsTrans R (NotBelow key) where
  trans _ _ _ hLeft hRight := le_trans hRight hLeft

/- The greatest key first; equal keys keep their order. -/
def orderDesc
    (key : R → K)
    (rows : List R) :
    List R :=
  rows.insertionSort (NotBelow key)

variable (key : R → K)

theorem perm_orderDesc
    (rows : List R) :
    (orderDesc key rows).Perm rows :=
  List.perm_insertionSort _ rows

@[simp] theorem mem_orderDesc
    (rows : List R)
    (row : R) :
    row ∈ orderDesc key rows ↔ row ∈ rows :=
  (perm_orderDesc key rows).mem_iff

theorem pairwise_orderDesc
    (rows : List R) :
    (orderDesc key rows).Pairwise (NotBelow key) :=
  List.pairwise_insertionSort _ rows

variable {key}

/- Rows with increasing keys are turned around. -/
theorem orderDesc_eq_reverse
    {rows : List R}
    (hIncreasing : (rows.map key).Pairwise (· < ·)) :
    orderDesc key rows = rows.reverse := by
  have hOnce : (rows.map key).Nodup :=
    hIncreasing.imp fun hLt => ne_of_lt hLt
  have hReversed :
      rows.reverse.Pairwise (NotBelow key) := by
    rw [List.pairwise_map] at hIncreasing
    rw [List.pairwise_reverse]
    exact hIncreasing.imp fun hLt => hLt.le
  refine
    List.Perm.eq_of_pairwise ?_
      (pairwise_orderDesc key rows) hReversed
      ((perm_orderDesc key rows).trans
        (List.reverse_perm rows).symm)
  intro left right hLeft hRight hGe hLe
  apply List.inj_on_of_nodup_map hOnce
  · exact (mem_orderDesc key rows left).mp hLeft
  · exact List.mem_reverse.mp hRight
  · exact le_antisymm hLe hGe

/- Rows with distinct keys are ordered strictly. -/
theorem strict_orderDesc
    {rows : List R}
    (hOnce : (rows.map key).Nodup) :
    (orderDesc key rows).Pairwise
      fun left right => key right < key left := by
  have hDistinct :
      (orderDesc key rows).Pairwise
        fun left right => key left ≠ key right := by
    rw [← List.pairwise_map]
    exact
      ((perm_orderDesc key rows).map key).nodup_iff.mpr hOnce
  exact
    (pairwise_orderDesc key rows).imp₂
      (fun _ _ hLe hNe => lt_of_le_of_ne hLe hNe.symm)
      hDistinct

/- The greatest `n` keys, turned around, increase. -/
theorem increasing_reverse_take_orderDesc
    {rows : List R}
    (hOnce : (rows.map key).Nodup)
    (n : Nat) :
    (((orderDesc key rows).take n).reverse.map
      key).Pairwise (· < ·) := by
  rw [List.pairwise_map, List.pairwise_reverse]
  exact
    (strict_orderDesc hOnce).sublist
      (List.take_sublist n _)

end Library
