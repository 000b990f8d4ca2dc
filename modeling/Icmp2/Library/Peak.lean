import Mathlib.Data.List.MinMax

/-
  The greatest entry of a list.

  Main definitions include:
    * `Library.peak`

  Main theorems include:
    * `Library.peak_le_iff`
    * `Library.peak_mono`
    * `Library.peak_congr`
    * `Library.foldl_max`

  A list without entries has the least value as its peak,
  so entries of the least value do not matter.
-/

------------------------------------------------------------
-- Peaks
------------------------------------------------------------

namespace Library

variable {A : Type}
variable [LinearOrder A] [OrderBot A]
variable {xs ys : List A}

/- The greatest entry; the least value if there is none. -/
def peak
    (xs : List A) :
    A :=
  xs.foldr max ⊥

@[simp] theorem peak_nil :
    peak ([] : List A) = ⊥ := by
  rfl

@[simp] theorem peak_cons
    (x : A)
    (xs : List A) :
    peak (x :: xs) = max x (peak xs) := by
  rfl

theorem le_peak
    {x : A}
    (hMem : x ∈ xs) :
    x ≤ peak xs :=
  List.le_max_of_le hMem (le_refl x)

/- The peak is the least of the upper bounds. -/
theorem peak_le_iff
    {bound : A} :
    peak xs ≤ bound ↔ ∀ x ∈ xs, x ≤ bound := by
  constructor
  · intro hLe x hMem
    exact (le_peak hMem).trans hLe
  · exact List.max_le_of_forall_le xs bound

/- A list that has no smaller entries has no lower peak. -/
theorem peak_mono
    (hCovered : ∀ x ∈ xs, ∃ y ∈ ys, x ≤ y) :
    peak xs ≤ peak ys := by
  rw [peak_le_iff]
  intro x hMem
  rcases hCovered x hMem with ⟨y, hCover, hLe⟩
  exact hLe.trans (le_peak hCover)

/- Only the entries above the least value matter. -/
theorem peak_congr
    (hSame : ∀ x, x ≠ ⊥ → (x ∈ xs ↔ x ∈ ys)) :
    peak xs = peak ys := by
  have hHalf : ∀ {ls rs : List A},
      (∀ x, x ≠ ⊥ → x ∈ ls → x ∈ rs) →
        peak ls ≤ peak rs := by
    intro ls rs hSub
    rw [peak_le_iff]
    intro x hMem
    by_cases hBot : x = ⊥
    · rw [hBot]
      exact bot_le
    · exact le_peak (hSub x hBot hMem)
  apply le_antisymm
  · exact hHalf fun x hNe => (hSame x hNe).mp
  · exact hHalf fun x hNe => (hSame x hNe).mpr

/- A running maximum ends at the peak. -/
theorem foldl_max
    (start : A)
    (xs : List A) :
    xs.foldl max start = max start (peak xs) := by
  induction xs generalizing start with
  | nil => simp
  | cons x xs ih =>
      rw [List.foldl_cons, ih, peak_cons, max_assoc]

end Library
