import Mathlib.Algebra.Order.Floor.Ring
import Mathlib.Data.Rat.Floor
import Mathlib.Tactic.Linarith
import Mathlib.Tactic.Ring

/-
  Cells of one size along an axis, and their numbering by
  rows.

  Main definitions include:
    * `Library.cellOf`
    * `Library.rowMajor`

  Main theorems include:
    * `Library.cellOf_eq_iff`
    * `Library.cellOf_lt_ceil`
    * `Library.rowMajor_fmod_fdiv`

  A cell is half open: it has its lower end and not its
  upper one.  The last cell of an axis may be cut short.
-/

------------------------------------------------------------
-- An Axis
------------------------------------------------------------

namespace Library

variable {K : Type}
variable [Field K] [LinearOrder K] [IsStrictOrderedRing K]
variable [FloorRing K]

/- The cell of size `size` that a position is in. -/
def cellOf
    (size x : K) :
    Int :=
  ⌊x / size⌋

variable {size x : K}

theorem cellOf_eq_iff
    (hSize : 0 < size)
    {cell : Int} :
    cellOf size x = cell ↔
      cell * size ≤ x ∧ x < (cell + 1) * size := by
  rw [cellOf, Int.floor_eq_iff, le_div_iff₀ hSize,
    div_lt_iff₀ hSize]

theorem cellOf_nonneg
    (hSize : 0 < size)
    (hx : 0 ≤ x) :
    0 ≤ cellOf size x :=
  Int.floor_nonneg.mpr (div_nonneg hx hSize.le)

/- Before the end of the axis every position has a cell. -/
theorem cellOf_lt_ceil
    (hSize : 0 < size)
    {extent : K}
    (hx : x < extent) :
    cellOf size x < ⌈extent / size⌉ :=
  Int.floor_lt_ceil_of_lt
    ((div_lt_div_iff_of_pos_right hSize).mpr hx)

end Library

------------------------------------------------------------
-- Numbering By Rows
------------------------------------------------------------

namespace Library

/- The number of a cell, row after row. -/
def rowMajor
    (cols col row : Int) :
    Int :=
  row * cols + col

variable {cols rows col row index : Int}

theorem fmod_rowMajor
    (hLow : 0 ≤ col)
    (hHigh : col < cols) :
    Int.fmod (rowMajor cols col row) cols = col := by
  have hCols : 0 ≤ cols := by omega
  rw [rowMajor, Int.fmod_eq_emod_of_nonneg _ hCols,
    add_comm, Int.add_mul_emod_self_right,
    Int.emod_eq_of_lt hLow hHigh]

theorem fdiv_rowMajor
    (hLow : 0 ≤ col)
    (hHigh : col < cols) :
    Int.fdiv (rowMajor cols col row) cols = row := by
  have hCols : 0 ≤ cols := by omega
  rw [rowMajor, Int.fdiv_eq_ediv_of_nonneg _ hCols,
    add_comm, Int.add_mul_ediv_right _ _ (by omega),
    Int.ediv_eq_zero_of_lt hLow hHigh, zero_add]

/- A number is that of its column and its row. -/
theorem rowMajor_fmod_fdiv
    (cols index : Int) :
    rowMajor cols (Int.fmod index cols)
      (Int.fdiv index cols) = index := by
  rw [rowMajor, add_comm, mul_comm]
  exact Int.fmod_add_mul_fdiv index cols

theorem rowMajor_nonneg
    (hCols : 0 ≤ cols)
    (hCol : 0 ≤ col)
    (hRow : 0 ≤ row) :
    0 ≤ rowMajor cols col row :=
  add_nonneg (mul_nonneg hRow hCols) hCol

theorem rowMajor_lt
    (hHigh : col < cols)
    (hRow : row < rows)
    (hCols : 0 ≤ cols) :
    rowMajor cols col row < cols * rows := by
  have hNext : (row + 1) * cols ≤ rows * cols :=
    mul_le_mul_of_nonneg_right (by omega) hCols
  rw [rowMajor, mul_comm cols rows]
  linarith

/- The column and the row of a number in range. -/
theorem fmod_fdiv_bounds
    (hCols : 0 < cols)
    (hLow : 0 ≤ index)
    (hHigh : index < cols * rows) :
    (0 ≤ Int.fmod index cols ∧ Int.fmod index cols < cols) ∧
      0 ≤ Int.fdiv index cols ∧
      Int.fdiv index cols < rows := by
  refine
    ⟨⟨Int.fmod_nonneg hLow hCols.le,
      Int.fmod_lt_of_pos index hCols⟩, ?_, ?_⟩
  · rw [Int.fdiv_eq_ediv_of_nonneg _ hCols.le]
    exact Int.ediv_nonneg hLow hCols.le
  · rw [Int.fdiv_eq_ediv_of_nonneg _ hCols.le]
    exact Int.ediv_lt_of_lt_mul hCols
      (by rwa [mul_comm rows cols])

end Library
