import Mathlib.Algebra.BigOperators.Fin
import Mathlib.Algebra.Order.Chebyshev
import Mathlib.Tactic.FieldSimp
import Mathlib.Tactic.Linarith

/-
  How far an entry of a list can be from the average.

  Main definitions include:
    * `Library.average`
    * `Library.squaredDeviations`

  Main theorems include:
    * `Library.sq_sub_average_le`
    * `Library.sq_sub_average_replicate`
    * `Library.squaredDeviations_affine`

  An entry of a list of `n` numbers is at most `(n - 1) / √n`
  sample deviations from the average, and exactly so if the
  others are all the same.
-/

------------------------------------------------------------
-- Averages
------------------------------------------------------------

namespace Library

variable {F : Type} [Field F]

def average
    (xs : List F) :
    F :=
  xs.sum / xs.length

def squaredDeviations
    (xs : List F) :
    F :=
  (xs.map fun x => (x - average xs) ^ 2).sum

theorem average_perm
    {xs ys : List F}
    (hPerm : xs.Perm ys) :
    average xs = average ys := by
  rw [average, average, hPerm.sum_eq, hPerm.length_eq]

theorem squaredDeviations_perm
    {xs ys : List F}
    (hPerm : xs.Perm ys) :
    squaredDeviations xs = squaredDeviations ys := by
  unfold squaredDeviations
  rw [average_perm hPerm]
  exact (hPerm.map _).sum_eq

theorem sum_map_sub
    (xs : List F)
    (c : F) :
    (xs.map fun x => x - c).sum =
      xs.sum - xs.length * c := by
  induction xs with
  | nil => simp
  | cons x xs ih =>
      rw [List.map_cons, List.sum_cons, List.sum_cons, ih,
        List.length_cons]
      push_cast
      ring

variable [CharZero F]

theorem length_ne_zero
    {xs : List F}
    (hSome : xs ≠ []) :
    (xs.length : F) ≠ 0 :=
  Nat.cast_ne_zero.mpr (List.length_pos_of_ne_nil hSome).ne'

/- The deviations from the average cancel out. -/
theorem sum_sub_average
    {xs : List F}
    (hSome : xs ≠ []) :
    (xs.map fun x => x - average xs).sum = 0 := by
  rw [sum_map_sub, average,
    mul_div_cancel₀ _ (length_ne_zero hSome), sub_self]

end Library

------------------------------------------------------------
-- Affine Changes
------------------------------------------------------------

namespace Library

variable {F : Type} [Field F] [CharZero F]

theorem sum_map_affine
    (xs : List F)
    (a b : F) :
    (xs.map fun x => a * x + b).sum =
      a * xs.sum + xs.length * b := by
  induction xs with
  | nil => simp
  | cons x xs ih =>
      rw [List.map_cons, List.sum_cons, List.sum_cons, ih,
        List.length_cons]
      push_cast
      ring

theorem average_affine
    {xs : List F}
    (hSome : xs ≠ [])
    (a b : F) :
    average (xs.map fun x => a * x + b) =
      a * average xs + b := by
  have hLength := length_ne_zero hSome
  unfold average
  rw [sum_map_affine, List.length_map]
  field_simp

/- Deviations do not see a shift, and scale by squares. -/
theorem squaredDeviations_affine
    (xs : List F)
    (a b : F) :
    squaredDeviations (xs.map fun x => a * x + b) =
      a ^ 2 * squaredDeviations xs := by
  by_cases hSome : xs = []
  · subst hSome
    simp [squaredDeviations]
  · unfold squaredDeviations
    rw [average_affine hSome, List.map_map,
      ← List.sum_map_mul_left]
    congr 1
    apply List.map_congr_left
    intro x _
    simp only [Function.comp_apply]
    ring

end Library

------------------------------------------------------------
-- The Largest Deviation
------------------------------------------------------------

namespace Library

variable {F : Type}
variable [Field F] [LinearOrder F] [IsStrictOrderedRing F]

theorem squaredDeviations_nonneg
    (xs : List F) :
    0 ≤ squaredDeviations xs := by
  apply List.sum_nonneg
  intro square hSquare
  rcases List.mem_map.mp hSquare with ⟨x, _, rfl⟩
  exact sq_nonneg _

/- A list of numbers as a sum over its places. -/
theorem sq_sum_le_length_mul
    (xs : List F) :
    xs.sum ^ 2 ≤
      xs.length * (xs.map fun x => x ^ 2).sum := by
  have hSum : xs.sum = ∑ i : Fin xs.length, xs[i] :=
    (Fin.sum_univ_getElem xs).symm
  have hSquares :
      (xs.map fun x => x ^ 2).sum =
        ∑ i : Fin xs.length, xs[i] ^ 2 :=
    (Fin.sum_univ_fun_getElem xs fun x => x ^ 2).symm
  rw [hSum, hSquares]
  have hCauchy :=
    sq_sum_le_card_mul_sum_sq
      (s := (Finset.univ : Finset (Fin xs.length)))
      (f := fun i => xs[i])
  rwa [Finset.card_fin] at hCauchy

/- The first entry of a list against all the others. -/
theorem cons_deviation
    (x : F)
    (xs : List F) :
    ((xs.map fun y => y - average (x :: xs)).sum =
        -(x - average (x :: xs))) ∧
      squaredDeviations (x :: xs) =
        (x - average (x :: xs)) ^ 2 +
          ((xs.map fun y => y - average (x :: xs)).map
            fun d => d ^ 2).sum := by
  constructor
  · have hZero := sum_sub_average (List.cons_ne_nil x xs)
    rw [List.map_cons, List.sum_cons] at hZero
    linarith
  · unfold squaredDeviations
    rw [List.map_cons, List.sum_cons, List.map_map]
    rfl

theorem sq_sub_average_cons_le
    (x : F)
    (xs : List F) :
    (x :: xs).length * (x - average (x :: xs)) ^ 2 ≤
      xs.length * squaredDeviations (x :: xs) := by
  rcases cons_deviation x xs with ⟨hSum, hSquares⟩
  have hCauchy :=
    sq_sum_le_length_mul
      (xs.map fun y => y - average (x :: xs))
  rw [hSum, List.length_map, neg_sq] at hCauchy
  rw [hSquares, List.length_cons]
  push_cast
  linarith

/- No entry is further from the average than this. -/
theorem sq_sub_average_le
    {x : F}
    {xs : List F}
    (hMem : x ∈ xs) :
    xs.length * (x - average xs) ^ 2 ≤
      (xs.length - 1) * squaredDeviations xs := by
  rcases List.append_of_mem hMem with
    ⟨before, after, rfl⟩
  have hPerm :
      (before ++ x :: after).Perm
        (x :: (before ++ after)) :=
    List.perm_middle
  have hFirst :=
    sq_sub_average_cons_le x (before ++ after)
  rw [average_perm hPerm, squaredDeviations_perm hPerm,
    hPerm.length_eq]
  rw [List.length_cons] at hFirst ⊢
  push_cast at hFirst ⊢
  linarith

/- Against others that are all the same the bound is met. -/
theorem sq_sub_average_replicate
    (x c : F)
    (n : Nat) :
    (n + 1) *
        (x - average (x :: List.replicate n c)) ^ 2 =
      n * squaredDeviations (x :: List.replicate n c) := by
  rcases cons_deviation x (List.replicate n c) with
    ⟨hSum, hSquares⟩
  rw [hSquares]
  simp only [List.map_replicate, List.sum_replicate,
    nsmul_eq_mul] at hSum ⊢
  generalize average (x :: List.replicate n c) = m at *
  have hSq := congrArg (· ^ 2) hSum
  simp only [neg_sq] at hSq
  linarith

theorem sub_average_replicate
    (x c : F)
    (n : Nat) :
    (n + 1) * (x - average (x :: List.replicate n c)) =
      n * (x - c) := by
  have hLength : ((n : F) + 1) ≠ 0 :=
    Nat.cast_add_one_ne_zero n
  unfold average
  rw [List.sum_cons, List.sum_replicate, List.length_cons,
    List.length_replicate, nsmul_eq_mul]
  push_cast
  field_simp
  ring

/- One different entry is enough for a spread. -/
theorem squaredDeviations_replicate_pos
    {x c : F}
    {n : Nat}
    (hOthers : 0 < n)
    (hApart : x ≠ c) :
    0 < squaredDeviations (x :: List.replicate n c) := by
  have hCount : (0 : F) < n := Nat.cast_pos.mpr hOthers
  have hFirst := sub_average_replicate x c n
  have hBound := sq_sub_average_replicate x c n
  have hOff :
      x - average (x :: List.replicate n c) ≠ 0 := by
    intro hZero
    rw [hZero, mul_zero] at hFirst
    exact
      (mul_ne_zero hCount.ne' (sub_ne_zero.mpr hApart))
        hFirst.symm
  have hLeft :
      0 <
        ((n : F) + 1) *
          (x - average (x :: List.replicate n c)) ^ 2 :=
    mul_pos (by linarith) (sq_pos_of_ne_zero hOff)
  rw [hBound] at hLeft
  exact pos_of_mul_pos_right hLeft hCount.le

end Library
