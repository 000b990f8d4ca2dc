import Mathlib.Data.Matrix.Mul
import Mathlib.LinearAlgebra.Matrix.NonsingularInverse
import Mathlib.LinearAlgebra.Matrix.Symmetric
import Mathlib.LinearAlgebra.Matrix.Trace
import Mathlib.Tactic.Linarith

/-
  How far the rows of a table can be from their centre.

  Main definitions include:
    * `Library.IsProjection`
    * `Library.IsPseudoinverse`
    * `Library.spread`
    * `Library.leverage`

  Main theorems include:
    * `Library.IsProjection.diag_le_one`
    * `Library.IsPseudoinverse.unique`
    * `Library.leverage_diag_le`
    * `Library.trace_leverage_le`
    * `Library.countP_mul_le_sum`

  The distances of the rows from their centre, measured by
  the spread of the rows themselves, are the diagonal of a
  projection up to a factor.  So each of them and their sum
  are bounded, whatever the rows are.
-/

------------------------------------------------------------
-- Projections
------------------------------------------------------------

namespace Library

open Matrix

variable {F : Type}
variable [Field F] [LinearOrder F] [IsStrictOrderedRing F]
variable {I : Type} [Fintype I]

/- A symmetric matrix that is its own square. -/
structure IsProjection
    (P : Matrix I I F) :
    Prop where
  idempotent : P * P = P
  symmetric : P.IsSymm

namespace IsProjection

variable {P : Matrix I I F}

omit [LinearOrder F] [IsStrictOrderedRing F] in
theorem diag_eq_sum
    (hP : IsProjection P)
    (i : I) :
    P i i = ∑ j, P i j ^ 2 := by
  have hEntry := congrFun (congrFun hP.idempotent i) i
  rw [Matrix.mul_apply] at hEntry
  rw [← hEntry]
  apply Finset.sum_congr rfl
  intro j _
  rw [sq, hP.symmetric.apply i j]

theorem diag_nonneg
    (hP : IsProjection P)
    (i : I) :
    0 ≤ P i i := by
  rw [hP.diag_eq_sum]
  exact Finset.sum_nonneg fun j _ => sq_nonneg (P i j)

theorem diag_le_one
    (hP : IsProjection P)
    (i : I) :
    P i i ≤ 1 := by
  have hSquare : P i i ^ 2 ≤ P i i := by
    rw [hP.diag_eq_sum i]
    nth_rewrite 1 [← hP.diag_eq_sum i]
    exact
      Finset.single_le_sum
        (f := fun j => P i j ^ 2)
        (fun j _ => sq_nonneg (P i j)) (Finset.mem_univ i)
  by_contra hLarge
  have hMore : P i i * 1 < P i i * P i i :=
    mul_lt_mul_of_pos_left (not_le.mp hLarge)
      (lt_trans one_pos (not_le.mp hLarge))
  rw [sq] at hSquare
  linarith

/- No more than the number of rows. -/
theorem trace_le
    (hP : IsProjection P) :
    P.trace ≤ Fintype.card I := by
  have hSum :
      P.trace ≤ ∑ _i : I, (1 : F) :=
    Finset.sum_le_sum fun i _ => hP.diag_le_one i
  rwa [Finset.sum_const, Finset.card_univ, nsmul_eq_mul,
    mul_one] at hSum

/- Projections onto what is apart add up. -/
omit [LinearOrder F] [IsStrictOrderedRing F] in
theorem add
    {Q : Matrix I I F}
    (hP : IsProjection P)
    (hQ : IsProjection Q)
    (hApart : P * Q = 0) :
    IsProjection (P + Q) where
  idempotent := by
    have hOther : Q * P = 0 := by
      have hTranspose := congrArg Matrix.transpose hApart
      rwa [Matrix.transpose_mul, hP.symmetric, hQ.symmetric,
        Matrix.transpose_zero] at hTranspose
    rw [Matrix.add_mul, Matrix.mul_add, Matrix.mul_add,
      hP.idempotent, hQ.idempotent, hApart, hOther,
      add_zero, zero_add]
  symmetric := hP.symmetric.add hQ.symmetric

end IsProjection

end Library

------------------------------------------------------------
-- Pseudoinverses
------------------------------------------------------------

namespace Library

open Matrix

variable {F : Type} [Field F]
variable {I : Type} [Fintype I]

/- The conditions of Moore and Penrose. -/
structure IsPseudoinverse
    (A B : Matrix I I F) :
    Prop where
  outer : A * B * A = A
  inner : B * A * B = B
  leftSymm : (A * B).IsSymm
  rightSymm : (B * A).IsSymm

namespace IsPseudoinverse

variable {A B C : Matrix I I F}

/- Both products with a pseudoinverse are determined. -/
theorem mul_eq
    (hB : IsPseudoinverse A B)
    (hC : IsPseudoinverse A C) :
    A * B = A * C := by
  calc
    A * B = A * C * (A * B) := by
      rw [← Matrix.mul_assoc, hC.outer]
    _ = (A * C)ᵀ * (A * B)ᵀ := by
      rw [hB.leftSymm, hC.leftSymm]
    _ = (A * B * (A * C))ᵀ :=
      (Matrix.transpose_mul (A * B) (A * C)).symm
    _ = (A * C)ᵀ := by
      rw [← Matrix.mul_assoc, hB.outer]
    _ = A * C := hC.leftSymm

theorem transpose
    (hB : IsPseudoinverse A B) :
    IsPseudoinverse Aᵀ Bᵀ where
  outer := by
    rw [← Matrix.transpose_mul, ← Matrix.transpose_mul,
      ← Matrix.mul_assoc, hB.outer]
  inner := by
    rw [← Matrix.transpose_mul, ← Matrix.transpose_mul,
      ← Matrix.mul_assoc, hB.inner]
  leftSymm := by
    rw [← Matrix.transpose_mul]
    exact hB.rightSymm.transpose
  rightSymm := by
    rw [← Matrix.transpose_mul]
    exact hB.leftSymm.transpose

/- There is at most one. -/
theorem unique
    (hB : IsPseudoinverse A B)
    (hC : IsPseudoinverse A C) :
    B = C := by
  have hLeft := hB.mul_eq hC
  have hRight : B * A = C * A := by
    have hTransposed :=
      congrArg Matrix.transpose
        (hB.transpose.mul_eq hC.transpose)
    rwa [← Matrix.transpose_mul, ← Matrix.transpose_mul,
      Matrix.transpose_transpose,
      Matrix.transpose_transpose] at hTransposed
  calc
    B = B * A * B := hB.inner.symm
    _ = C * A * B := by rw [hRight]
    _ = C * (A * C) := by rw [Matrix.mul_assoc, hLeft]
    _ = C := by rw [← Matrix.mul_assoc, hC.inner]

/- That of a symmetric matrix is symmetric. -/
theorem isSymm
    (hB : IsPseudoinverse A B)
    (hSymm : A.IsSymm) :
    B.IsSymm := by
  have hTransposed := hB.transpose
  rw [hSymm] at hTransposed
  exact hTransposed.unique hB

/- An inverse is one. -/
theorem of_mul_eq_one
    [DecidableEq I]
    (hInverse : A * B = 1) :
    IsPseudoinverse A B := by
  have hOther : B * A = 1 :=
    mul_eq_one_comm.mp hInverse
  refine ⟨?_, ?_, ?_, ?_⟩
  · rw [hInverse, Matrix.one_mul]
  · rw [hOther, Matrix.one_mul]
  · rw [hInverse]
    exact Matrix.isSymm_one
  · rw [hOther]
    exact Matrix.isSymm_one

end IsPseudoinverse

end Library

------------------------------------------------------------
-- Leverages
------------------------------------------------------------

namespace Library

open Matrix

variable {F : Type}
variable [Field F] [LinearOrder F] [IsStrictOrderedRing F]
variable {I J : Type} [Fintype I] [Fintype J]

/- The spread of centred rows, up to a factor. -/
def spread
    (c : F)
    (D : Matrix I J F) :
    Matrix J J F :=
  c⁻¹ • (Dᵀ * D)

/- The distances of the rows are its diagonal. -/
def leverage
    (c : F)
    (D : Matrix I J F)
    (B : Matrix J J F) :
    Matrix I I F :=
  c⁻¹ • (D * B * Dᵀ)

variable {c : F}
variable {D : Matrix I J F}
variable {B : Matrix J J F}

omit [LinearOrder F] [IsStrictOrderedRing F] [Fintype J] in
theorem isSymm_spread :
    (spread c D).IsSymm := by
  rw [spread, Matrix.IsSymm, Matrix.transpose_smul,
    Matrix.transpose_mul, Matrix.transpose_transpose]

omit [LinearOrder F] [IsStrictOrderedRing F] in
theorem isProjection_leverage
    (hB : IsPseudoinverse (spread c D) B) :
    IsProjection (leverage c D B) where
  idempotent := by
    have hInner : B * (c⁻¹ • (Dᵀ * D)) * B = B := hB.inner
    calc
      leverage c D B * leverage c D B =
          c⁻¹ •
            (D * (B * (c⁻¹ • (Dᵀ * D)) * B) * Dᵀ) := by
        simp only [leverage, Matrix.smul_mul,
          Matrix.mul_smul, Matrix.mul_assoc]
      _ = leverage c D B := by
        rw [hInner, leverage]
  symmetric := by
    rw [leverage, Matrix.IsSymm, Matrix.transpose_smul,
      Matrix.transpose_mul, Matrix.transpose_mul,
      Matrix.transpose_transpose,
      hB.isSymm isSymm_spread, Matrix.mul_assoc]

/- All leverages together are at most the columns. -/
theorem trace_leverage_le
    (hB : IsPseudoinverse (spread c D) B) :
    (leverage c D B).trace ≤ Fintype.card J := by
  have hProjection : IsProjection (B * spread c D) := by
    refine ⟨?_, hB.rightSymm⟩
    rw [← Matrix.mul_assoc, hB.inner]
  have hTrace :
      (leverage c D B).trace = (B * spread c D).trace := by
    rw [leverage, spread, Matrix.mul_smul,
      Matrix.trace_smul, Matrix.trace_smul,
      Matrix.trace_mul_comm, ← Matrix.mul_assoc,
      Matrix.trace_mul_comm]
  rw [hTrace]
  exact hProjection.trace_le

/- The matrix with the average of a column in each place. -/
def averages
    (F : Type)
    [Field F]
    (I : Type)
    [Fintype I] :
    Matrix I I F :=
  Matrix.of fun _ _ => (Fintype.card I : F)⁻¹

theorem isProjection_averages
    [Nonempty I] :
    IsProjection (averages F I) where
  idempotent := by
    have hCard : (Fintype.card I : F) ≠ 0 :=
      Nat.cast_ne_zero.mpr Fintype.card_ne_zero
    ext i j
    rw [Matrix.mul_apply]
    simp only [averages, Matrix.of_apply]
    rw [Finset.sum_const, Finset.card_univ, nsmul_eq_mul,
      ← mul_assoc, mul_inv_cancel₀ hCard, one_mul]
  symmetric := by
    ext i j
    rfl

/- Centred rows leave room for their average. -/
omit [LinearOrder F] [IsStrictOrderedRing F] in
theorem leverage_mul_averages
    (hCentred : ∀ j, ∑ i, D i j = 0) :
    leverage c D B * averages F I = 0 := by
  have hColumns : Dᵀ * averages F I = 0 := by
    ext j i
    rw [Matrix.mul_apply]
    simp only [averages, Matrix.of_apply,
      Matrix.transpose_apply]
    rw [← Finset.sum_mul, hCentred, zero_mul]
    rfl
  rw [leverage, Matrix.smul_mul, Matrix.mul_assoc,
    hColumns, Matrix.mul_zero, smul_zero]

/- No row is further from the centre than this. -/
theorem leverage_diag_le
    (hB : IsPseudoinverse (spread c D) B)
    (hCentred : ∀ j, ∑ i, D i j = 0)
    (i : I) :
    leverage c D B i i ≤ 1 - (Fintype.card I : F)⁻¹ := by
  have hSome : Nonempty I := ⟨i⟩
  have hSum :=
    (isProjection_leverage hB).add isProjection_averages
      (leverage_mul_averages hCentred)
  have hBound := hSum.diag_le_one i
  have hEntry : averages F I i i = (Fintype.card I : F)⁻¹ :=
    rfl
  rw [Matrix.add_apply, hEntry] at hBound
  linarith

end Library

------------------------------------------------------------
-- How Many Are Far
------------------------------------------------------------

namespace Library

variable {F : Type}
variable [Field F] [LinearOrder F] [IsStrictOrderedRing F]
variable {A : Type}

/- Not many rows can be large in a small sum. -/
theorem countP_mul_le_sum
    {rows : List A}
    {f : A → F}
    (hNonneg : ∀ row ∈ rows, 0 ≤ f row)
    (bound : F) :
    ((rows.countP fun row => bound ≤ f row : Nat) : F) *
        bound ≤
      (rows.map f).sum := by
  induction rows with
  | nil => simp
  | cons row rows ih =>
      have hRest :=
        ih fun other hOther =>
          hNonneg other (List.mem_cons_of_mem row hOther)
      have hRow := hNonneg row List.mem_cons_self
      rw [List.countP_cons, List.map_cons, List.sum_cons]
      by_cases hLarge : bound ≤ f row
      · rw [if_pos (decide_eq_true hLarge)]
        push_cast
        linarith
      · rw [if_neg (by simp [hLarge]), add_zero]
        linarith

end Library
