import Icmp2.Facilities.IndexGrid
import Icmp2.Library.Cells
import Icmp2.Library.Rounding
import Mathlib.Data.List.Nodup

/-
  Positions and cells of a floor grid.

  Main definitions include:
    * `Icmp2.Facilities.GridTools`
    * `Icmp2.Facilities.GridTools.getGridIndex`
    * `Icmp2.Facilities.GridTools.getSnapWithRatio`
    * `Icmp2.Facilities.InCell`
    * `Icmp2.Facilities.CentreOnFloor`

  Main theorems include:
    * `Icmp2.Facilities.getGridIndex_eq_some_iff`
    * `Icmp2.Facilities.getGridIndex_cell`
    * `Icmp2.Facilities.snap_round_trip`

  A position is looked up through a validator, a boundary
  and a conversion; a cell is drawn at its centre.  The
  centre is computed without the size of the floor.
-/

------------------------------------------------------------
-- Helpers Of The Service
------------------------------------------------------------

namespace Icmp2

namespace Facilities

open Library

/- `GridValidator.is_negative`. -/
def isNegative
    (value : ℚ) :
    Bool :=
  value < 0

/- `GridValidator.validate`. -/
def validate
    (x y : ℚ) :
    Bool :=
  if isNegative x || isNegative y then false else true

structure GridBoundaryHandler where
  width : ℚ
  length : ℚ
  deriving DecidableEq, Repr

/- Taken off the extent of the floor: `1e-9`. -/
def edgeMargin : ℚ :=
  1 / 10 ^ 9

def GridBoundaryHandler.isOutOfBounds
    (boundary : GridBoundaryHandler)
    (x y : ℚ) :
    Bool :=
  decide (x > boundary.width) || decide (y > boundary.length)

def GridBoundaryHandler.clamp
    (boundary : GridBoundaryHandler)
    (x y : ℚ) :
    ℚ × ℚ :=
  (min x (boundary.width - edgeMargin),
    min y (boundary.length - edgeMargin))

structure GridCoordinateToIndex where
  cols : Int
  cellSize : ℚ
  deriving DecidableEq, Repr

/- `int(x // cell_size)` on both axes. -/
def GridCoordinateToIndex.toColRow
    (toIndex : GridCoordinateToIndex)
    (x y : ℚ) :
    Int × Int :=
  (cellOf toIndex.cellSize x, cellOf toIndex.cellSize y)

def GridCoordinateToIndex.toIndex
    (toIndex : GridCoordinateToIndex)
    (col row : Int) :
    Int :=
  rowMajor toIndex.cols col row

structure GridIndexToCoordinate where
  cols : Int
  deriving DecidableEq, Repr

def GridIndexToCoordinate.toColRow
    (toCoord : GridIndexToCoordinate)
    (index : Int) :
    Int × Int :=
  (Int.fmod index toCoord.cols, Int.fdiv index toCoord.cols)

structure GridPointSnapper where
  cellSize : ℚ
  deriving DecidableEq, Repr

/- The centre of the cell. -/
def GridPointSnapper.getSnapPoint
    (snapper : GridPointSnapper)
    (col row : Int) :
    ℚ × ℚ :=
  (col * snapper.cellSize + snapper.cellSize / 2,
    row * snapper.cellSize + snapper.cellSize / 2)

/- `round(value, 4)`. -/
def roundFour
    (value : ℚ) :
    ℚ :=
  roundHalfEven (value * 10 ^ 4) / 10 ^ 4

def GridPointSnapper.getRatio
    (snapX snapY width length : ℚ) :
    ℚ × ℚ :=
  (roundFour (snapX / width), roundFour (snapY / length))

end Facilities

end Icmp2

------------------------------------------------------------
-- The Service
------------------------------------------------------------

namespace Icmp2

namespace Facilities

open Library

/- The helpers that `FloorGridService.__init__` sets up. -/
structure GridTools where
  boundary : GridBoundaryHandler
  toIndex : GridCoordinateToIndex
  toCoord : GridIndexToCoordinate
  generator : FloorGridService
  snapper : GridPointSnapper
  width : ℚ
  length : ℚ
  deriving DecidableEq, Repr

/- `FloorGridService(floor)` for a cell size of the floor. -/
def gridTools
    (floor : Floor)
    (cellSize : ℚ) :
    GridTools where
  boundary := ⟨floor.width, floor.length⟩
  toIndex := ⟨(serviceOf floor cellSize).cols, cellSize⟩
  toCoord := ⟨(serviceOf floor cellSize).cols⟩
  generator := serviceOf floor cellSize
  snapper := ⟨cellSize⟩
  width := floor.width
  length := floor.length

/- `generate_all_cells`. -/
def GridTools.cells
    (tools : GridTools) :
    List GridCell :=
  generateAllCells tools.generator

/- `get_grid_index`. -/
def GridTools.getGridIndex
    (tools : GridTools)
    (x y : ℚ) :
    Option Int :=
  if !validate x y then
    none
  else if tools.boundary.isOutOfBounds x y then
    none
  else
    let clamped := tools.boundary.clamp x y
    let cell := tools.toIndex.toColRow clamped.1 clamped.2
    some (tools.toIndex.toIndex cell.1 cell.2)

/- `get_snap_point`. -/
def GridTools.getSnapPoint
    (tools : GridTools)
    (index : Int) :
    ℚ × ℚ :=
  let cell := tools.toCoord.toColRow index
  tools.snapper.getSnapPoint cell.1 cell.2

/- What `get_snap_with_ratio` returns. -/
structure SnapWithRatio where
  snapX : ℚ
  snapY : ℚ
  xRatio : ℚ
  yRatio : ℚ
  deriving DecidableEq, Repr

/- `get_snap_with_ratio`. -/
def GridTools.getSnapWithRatio
    (tools : GridTools)
    (index : Int) :
    SnapWithRatio :=
  let cell := tools.toCoord.toColRow index
  let snap := tools.snapper.getSnapPoint cell.1 cell.2
  let ratio :=
    GridPointSnapper.getRatio snap.1 snap.2 tools.width
      tools.length
  ⟨snap.1, snap.2, ratio.1, ratio.2⟩

/- The half-open square of a cell. -/
def InCell
    (cellSize : ℚ)
    (col row : Int)
    (point : ℚ × ℚ) :
    Prop :=
  (col * cellSize ≤ point.1 ∧
      point.1 < (col + 1) * cellSize) ∧
    row * cellSize ≤ point.2 ∧
      point.2 < (row + 1) * cellSize

instance
    (cellSize : ℚ)
    (col row : Int)
    (point : ℚ × ℚ) :
    Decidable (InCell cellSize col row point) := by
  unfold InCell
  infer_instance

end Facilities

end Icmp2

------------------------------------------------------------
-- Looking A Position Up
------------------------------------------------------------

namespace Icmp2

namespace Facilities

open Library

/- On the floor, its far edges included. -/
def OnFloor
    (floor : Floor)
    (x y : ℚ) :
    Prop :=
  (0 ≤ x ∧ x ≤ floor.width) ∧ 0 ≤ y ∧ y ≤ floor.length

instance
    (floor : Floor)
    (x y : ℚ) :
    Decidable (OnFloor floor x y) := by
  unfold OnFloor
  infer_instance

theorem validate_iff
    (x y : ℚ) :
    validate x y = true ↔ 0 ≤ x ∧ 0 ≤ y := by
  simp [validate, isNegative]

variable {floor : Floor}
variable {cellSize : ℚ}

/- The cell that a position is looked up in. -/
def lookupCell
    (floor : Floor)
    (cellSize x y : ℚ) :
    Int × Int :=
  (cellOf cellSize (min x (floor.width - edgeMargin)),
    cellOf cellSize (min y (floor.length - edgeMargin)))

theorem getGridIndex_eq_some_iff
    {x y : ℚ}
    {index : Int} :
    (gridTools floor cellSize).getGridIndex x y =
        some index ↔
      OnFloor floor x y ∧
        rowMajor (serviceOf floor cellSize).cols
            (lookupCell floor cellSize x y).1
            (lookupCell floor cellSize x y).2 =
          index := by
  unfold GridTools.getGridIndex OnFloor
  by_cases hValid : 0 ≤ x ∧ 0 ≤ y
  · rw [(validate_iff x y).mpr hValid]
    by_cases hFits : x ≤ floor.width ∧ y ≤ floor.length
    · have hInside :
          (gridTools floor cellSize).boundary.isOutOfBounds
            x y = false := by
        simp [GridBoundaryHandler.isOutOfBounds, gridTools,
          hFits.1, hFits.2]
      simp only [Bool.not_true, Bool.false_eq_true, if_false,
        hInside, Option.some.injEq]
      exact (and_iff_right
        ⟨⟨hValid.1, hFits.1⟩, hValid.2, hFits.2⟩).symm
    · have hOutside :
          (gridTools floor cellSize).boundary.isOutOfBounds
            x y = true := by
        rw [not_and_or, not_le, not_le] at hFits
        simpa [GridBoundaryHandler.isOutOfBounds,
          gridTools] using hFits
      simp only [Bool.not_true, Bool.false_eq_true, if_false,
        hOutside, if_true, reduceCtorEq, false_iff]
      rintro ⟨⟨⟨-, hX⟩, -, hY⟩, -⟩
      exact hFits ⟨hX, hY⟩
  · have hInvalid : validate x y = false := by
      rw [← Bool.not_eq_true, validate_iff]
      exact hValid
    simp only [hInvalid, Bool.not_false, if_true,
      reduceCtorEq, false_iff]
    rintro ⟨⟨⟨hX, -⟩, hY, -⟩, -⟩
    exact hValid ⟨hX, hY⟩

/- A position of an axis is clamped before its end. -/
theorem clamp_nonneg
    {extent : Int}
    (hExtent : 0 < extent)
    {x : ℚ}
    (hx : 0 ≤ x) :
    0 ≤ min x (extent - edgeMargin) := by
  have hOne : (1 : ℚ) ≤ extent := by exact_mod_cast hExtent
  refine le_min hx ?_
  unfold edgeMargin
  linarith

theorem clamp_lt
    (extent : Int)
    (x : ℚ) :
    min x (extent - edgeMargin) < extent := by
  refine min_lt_of_right_lt ?_
  unfold edgeMargin
  linarith

theorem cols_pos
    (hWidth : 0 < floor.width)
    (hSize : 0 < cellSize) :
    0 < (serviceOf floor cellSize).cols := by
  have hExtent : (0 : ℚ) < floor.width := by
    exact_mod_cast hWidth
  exact Int.ceil_pos.mpr (div_pos hExtent hSize)

/- The cell of a position is one of the grid. -/
theorem lookupCell_bounds
    (hWidth : 0 < floor.width)
    (hLength : 0 < floor.length)
    (hSize : 0 < cellSize)
    {x y : ℚ}
    (hOn : OnFloor floor x y) :
    (0 ≤ (lookupCell floor cellSize x y).1 ∧
        (lookupCell floor cellSize x y).1 <
          (serviceOf floor cellSize).cols) ∧
      0 ≤ (lookupCell floor cellSize x y).2 ∧
      (lookupCell floor cellSize x y).2 <
        (serviceOf floor cellSize).rows := by
  refine ⟨⟨?_, ?_⟩, ?_, ?_⟩
  · exact cellOf_nonneg hSize (clamp_nonneg hWidth hOn.1.1)
  · exact cellOf_lt_ceil hSize (clamp_lt floor.width x)
  · exact cellOf_nonneg hSize (clamp_nonneg hLength hOn.2.1)
  · exact cellOf_lt_ceil hSize (clamp_lt floor.length y)

/- A cell of the grid holds a point if it is its cell. -/
theorem inCell_iff
    (hSize : 0 < cellSize)
    {col row : Int}
    {point : ℚ × ℚ} :
    InCell cellSize col row point ↔
      cellOf cellSize point.1 = col ∧
        cellOf cellSize point.2 = row := by
  rw [cellOf_eq_iff hSize, cellOf_eq_iff hSize, InCell]

/- The cell that `generate` lists at a number. -/
def cellAt
    (service : FloorGridService)
    (index : Int) :
    GridCell where
  gridIndex := index
  col := Int.fmod index service.cols
  row := Int.fdiv index service.cols

theorem generateAllCells_eq
    (service : FloorGridService) :
    generateAllCells service =
      (List.range (service.cols * service.rows).toNat).map
        fun number : Nat => cellAt service number := by
  simp [generateAllCells, cellAt, Function.comp_def,
    ← List.map_eq_flatMap]

theorem mem_generateAllCells_iff
    {service : FloorGridService}
    {cell : GridCell} :
    cell ∈ generateAllCells service ↔
      (0 ≤ cell.gridIndex ∧
          cell.gridIndex < service.cols * service.rows) ∧
        cell = cellAt service cell.gridIndex := by
  rw [generateAllCells_eq, List.mem_map]
  constructor
  · rintro ⟨number, hNumber, rfl⟩
    have hBound := List.mem_range.mp hNumber
    refine ⟨⟨?_, ?_⟩, rfl⟩
    · exact Int.natCast_nonneg number
    · show (number : Int) < service.cols * service.rows
      omega
  · rintro ⟨⟨hLow, hHigh⟩, hCell⟩
    refine ⟨cell.gridIndex.toNat, ?_, ?_⟩
    · exact List.mem_range.mpr (by omega)
    · rw [Int.toNat_of_nonneg hLow, ← hCell]

/- Every number in range is listed once. -/
theorem count_generateAllCells
    {service : FloorGridService}
    {index : Int}
    (hLow : 0 ≤ index)
    (hHigh : index < service.cols * service.rows) :
    ((generateAllCells service).map
        GridCell.gridIndex).count index = 1 := by
  have hNumbers :
      (generateAllCells service).map GridCell.gridIndex =
        (List.range
          (service.cols * service.rows).toNat).map
            fun number : Nat => (number : Int) := by
    rw [generateAllCells_eq, List.map_map]
    rfl
  rw [hNumbers]
  refine List.nodup_iff_count_eq_one.mp ?_ index ?_
  · exact List.nodup_range.map Int.ofNat_injective
  · exact List.mem_map.mpr
      ⟨index.toNat, List.mem_range.mpr (by omega),
        Int.toNat_of_nonneg hLow⟩

/- A listed cell is at the place of its number. -/
theorem place_of_mem_cells
    {cell : GridCell}
    (hCell : cell ∈ (gridTools floor cellSize).cells) :
    (cell.col, cell.row) =
      (gridTools floor cellSize).toCoord.toColRow
        cell.gridIndex := by
  have hAt := (mem_generateAllCells_iff.mp hCell).2
  rw [hAt]
  rfl

/- The place of the number of a looked up cell. -/
theorem toColRow_of_getGridIndex
    (hWidth : 0 < floor.width)
    (hLength : 0 < floor.length)
    (hSize : 0 < cellSize)
    {x y : ℚ}
    {index : Int}
    (hIndex :
      (gridTools floor cellSize).getGridIndex x y =
        some index) :
    (gridTools floor cellSize).toCoord.toColRow index =
      lookupCell floor cellSize x y := by
  rcases getGridIndex_eq_some_iff.mp hIndex with ⟨hOn, rfl⟩
  rcases lookupCell_bounds hWidth hLength hSize hOn with
    ⟨⟨hLow, hHigh⟩, -⟩
  exact Prod.ext (fmod_rowMajor hLow hHigh)
    (fdiv_rowMajor hLow hHigh)

/- The number of a position names the cell that holds it. -/
theorem inCell_of_getGridIndex
    (hWidth : 0 < floor.width)
    (hLength : 0 < floor.length)
    (hSize : 0 < cellSize)
    {x y : ℚ}
    {index : Int}
    (hIndex :
      (gridTools floor cellSize).getGridIndex x y =
        some index) :
    InCell cellSize
      ((gridTools floor cellSize).toCoord.toColRow index).1
      ((gridTools floor cellSize).toCoord.toColRow index).2
      ((gridTools floor cellSize).boundary.clamp x y) := by
  rw [toColRow_of_getGridIndex hWidth hLength hSize hIndex]
  exact (inCell_iff hSize).mpr ⟨rfl, rfl⟩

theorem getGridIndex_bounds
    (hWidth : 0 < floor.width)
    (hLength : 0 < floor.length)
    (hSize : 0 < cellSize)
    {x y : ℚ}
    {index : Int}
    (hIndex :
      (gridTools floor cellSize).getGridIndex x y =
        some index) :
    0 ≤ index ∧
      index <
        (serviceOf floor cellSize).cols *
          (serviceOf floor cellSize).rows := by
  rcases getGridIndex_eq_some_iff.mp hIndex with ⟨hOn, rfl⟩
  rcases lookupCell_bounds hWidth hLength hSize hOn with
    ⟨⟨hColLow, hColHigh⟩, hRowLow, hRowHigh⟩
  have hCols := (cols_pos hWidth hSize).le
  exact
    ⟨rowMajor_nonneg hCols hColLow hRowLow,
      rowMajor_lt hColHigh hRowHigh hCols⟩

/- The cells of a floor and the positions on it. -/
theorem getGridIndex_cell
    (hWidth : 0 < floor.width)
    (hLength : 0 < floor.length)
    (hSize : 0 < cellSize) :
    (∀ x y,
      ((gridTools floor cellSize).getGridIndex x y).isSome =
          true ↔
        OnFloor floor x y) ∧
      (∀ x y index,
        (gridTools floor cellSize).getGridIndex x y =
            some index →
          (0 ≤ index ∧
              index <
                (gridTools floor cellSize).generator.cols *
                  (gridTools floor
                    cellSize).generator.rows) ∧
            ((gridTools floor cellSize).cells.map
                GridCell.gridIndex).count index = 1 ∧
            ∀ cell ∈ (gridTools floor cellSize).cells,
              cell.gridIndex = index →
                (cell.col, cell.row) =
                    (gridTools floor
                      cellSize).toCoord.toColRow index ∧
                  InCell cellSize cell.col cell.row
                    ((gridTools floor
                      cellSize).boundary.clamp x y)) ∧
      ∀ x y x' y' index,
        (gridTools floor cellSize).getGridIndex x y =
            some index →
          (gridTools floor cellSize).getGridIndex x' y' =
              some index →
            ∃ col row,
              InCell cellSize col row
                  ((gridTools floor
                    cellSize).boundary.clamp x y) ∧
                InCell cellSize col row
                  ((gridTools floor
                    cellSize).boundary.clamp x' y') := by
  refine ⟨?_, ?_, ?_⟩
  · intro x y
    rw [Option.isSome_iff_exists]
    constructor
    · rintro ⟨index, hIndex⟩
      exact (getGridIndex_eq_some_iff.mp hIndex).1
    · intro hOn
      exact ⟨_, getGridIndex_eq_some_iff.mpr ⟨hOn, rfl⟩⟩
  · intro x y index hIndex
    have hBounds :=
      getGridIndex_bounds hWidth hLength hSize hIndex
    refine ⟨hBounds,
      count_generateAllCells hBounds.1 hBounds.2, ?_⟩
    rintro cell hCell rfl
    have hPlace := place_of_mem_cells hCell
    have hSquare :=
      inCell_of_getGridIndex hWidth hLength hSize hIndex
    rw [← hPlace] at hSquare
    exact ⟨hPlace, hSquare⟩
  · intro x y x' y' index hOne hTwo
    exact
      ⟨_, _,
        inCell_of_getGridIndex hWidth hLength hSize hOne,
        inCell_of_getGridIndex hWidth hLength hSize hTwo⟩

/- Seven by five metres in cells of two metres. -/
def smallFloor : Floor :=
  ⟨1, 7, 5⟩

/- The far corner of a floor that the cells overhang. -/
theorem getGridIndex_cell_small :
    ((gridTools smallFloor 2).getGridIndex 7 5).isSome =
        true ↔
      OnFloor smallFloor 7 5 := by
  have hWidth : 0 < smallFloor.width := by decide
  have hLength : 0 < smallFloor.length := by decide
  have hSize : (0 : ℚ) < 2 := by decide +kernel
  exact (getGridIndex_cell hWidth hLength hSize).1 7 5

end Facilities

end Icmp2

------------------------------------------------------------
-- Snapping
------------------------------------------------------------

namespace Icmp2

namespace Facilities

open Library

variable {floor : Floor}
variable {cellSize : ℚ}

/-
  The centre of a cell is on an axis, and the cell starts
  before the margin at the end of the axis.
-/
def CentreOnAxis
    (cellSize : ℚ)
    (extent cell : Int) :
    Prop :=
  cell * cellSize + cellSize / 2 ≤ extent ∧
    cell * cellSize ≤ extent - edgeMargin

/- The same on both axes of a floor. -/
def CentreOnFloor
    (floor : Floor)
    (cellSize : ℚ)
    (place : Int × Int) :
    Prop :=
  CentreOnAxis cellSize floor.width place.1 ∧
    CentreOnAxis cellSize floor.length place.2

instance
    (cellSize : ℚ)
    (extent cell : Int) :
    Decidable (CentreOnAxis cellSize extent cell) := by
  unfold CentreOnAxis
  infer_instance

instance
    (floor : Floor)
    (cellSize : ℚ)
    (place : Int × Int) :
    Decidable (CentreOnFloor floor cellSize place) := by
  unfold CentreOnFloor
  infer_instance

/- The clamped centre is in its cell from its start on. -/
theorem cellOf_centre_iff
    (hSize : 0 < cellSize)
    (extent cell : Int) :
    cellOf cellSize
          (min (cell * cellSize + cellSize / 2)
            (extent - edgeMargin)) =
        cell ↔
      cell * cellSize ≤ extent - edgeMargin := by
  rw [cellOf_eq_iff hSize]
  constructor
  · rintro ⟨hStart, -⟩
    exact hStart.trans (min_le_right _ _)
  · intro hStart
    refine ⟨le_min (by linarith) hStart, ?_⟩
    refine min_lt_of_left_lt ?_
    linarith

/- A centre on the axis has a ratio of at most one. -/
theorem roundFour_le_one
    {extent : Int}
    (hExtent : 0 < extent)
    {centre : ℚ}
    (hCentre : centre ≤ extent) :
    roundFour (centre / extent) ≤ 1 := by
  have hPositive : (0 : ℚ) < extent := by
    exact_mod_cast hExtent
  have hRatio : centre / extent ≤ 1 :=
    (div_le_one hPositive).mpr hCentre
  have hScaled :
      roundHalfEven (centre / extent * 10 ^ 4) ≤
        (10 ^ 4 : Int) := by
    apply roundHalfEven_le
    push_cast
    linarith
  have hCast :
      (roundHalfEven (centre / extent * 10 ^ 4) : ℚ) ≤
        10 ^ 4 := by
    exact_mod_cast hScaled
  rw [roundFour]
  exact (div_le_one (by norm_num)).mpr hCast

/- A snap point is looked up in its own cell. -/
theorem getGridIndex_snap_iff
    (hWidth : 0 < floor.width)
    (hLength : 0 < floor.length)
    (hSize : 0 < cellSize)
    {index : Int}
    (hLow : 0 ≤ index)
    (hHigh :
      index <
        (serviceOf floor cellSize).cols *
          (serviceOf floor cellSize).rows) :
    (gridTools floor cellSize).getGridIndex
          ((gridTools floor cellSize).getSnapPoint index).1
          ((gridTools floor cellSize).getSnapPoint index).2 =
        some index ↔
      CentreOnFloor floor cellSize
        ((gridTools floor cellSize).toCoord.toColRow
          index) := by
  have hCols := cols_pos hWidth hSize
  rcases fmod_fdiv_bounds hCols hLow hHigh with
    ⟨⟨hColLow, hColHigh⟩, hRowLow, hRowHigh⟩
  let col := Int.fmod index (serviceOf floor cellSize).cols
  let row := Int.fdiv index (serviceOf floor cellSize).cols
  have hColStart : (0 : ℚ) ≤ col * cellSize :=
    mul_nonneg (by exact_mod_cast hColLow) hSize.le
  have hRowStart : (0 : ℚ) ≤ row * cellSize :=
    mul_nonneg (by exact_mod_cast hRowLow) hSize.le
  have hNumber :
      rowMajor (serviceOf floor cellSize).cols col row =
        index :=
    rowMajor_fmod_fdiv _ index
  constructor
  · intro hIndex
    have hPlace :=
      toColRow_of_getGridIndex hWidth hLength hSize hIndex
    have hOn := (getGridIndex_eq_some_iff.mp hIndex).1
    have hCol := (congrArg Prod.fst hPlace).symm
    have hRow := (congrArg Prod.snd hPlace).symm
    exact
      ⟨⟨hOn.1.2, (cellOf_centre_iff hSize _ _).mp hCol⟩,
        hOn.2.2, (cellOf_centre_iff hSize _ _).mp hRow⟩
  · rintro ⟨⟨hColOn, hColFits⟩, hRowOn, hRowFits⟩
    refine getGridIndex_eq_some_iff.mpr ⟨?_, ?_⟩
    · refine ⟨⟨?_, hColOn⟩, ?_, hRowOn⟩
      · show (0 : ℚ) ≤ col * cellSize + cellSize / 2
        linarith
      · show (0 : ℚ) ≤ row * cellSize + cellSize / 2
        linarith
    · have hCol := (cellOf_centre_iff hSize
        floor.width col).mpr hColFits
      have hRow := (cellOf_centre_iff hSize
        floor.length row).mpr hRowFits
      refine Eq.trans ?_ hNumber
      exact congrArg₂
        (rowMajor (serviceOf floor cellSize).cols) hCol hRow

/-
  A listed cell whose centre is on the floor is snapped to
  a point of the floor and found again; no other is.
-/
theorem snap_round_trip
    (hWidth : 0 < floor.width)
    (hLength : 0 < floor.length)
    (hSize : 0 < cellSize)
    (cell : GridCell)
    (hCell : cell ∈ (gridTools floor cellSize).cells) :
    (OnFloor floor
          ((gridTools floor cellSize).getSnapPoint
            cell.gridIndex).1
          ((gridTools floor cellSize).getSnapPoint
            cell.gridIndex).2 ∧
        ((gridTools floor cellSize).getSnapWithRatio
          cell.gridIndex).xRatio ≤ 1 ∧
        ((gridTools floor cellSize).getSnapWithRatio
          cell.gridIndex).yRatio ≤ 1 ∧
        (gridTools floor cellSize).getGridIndex
            ((gridTools floor cellSize).getSnapPoint
              cell.gridIndex).1
            ((gridTools floor cellSize).getSnapPoint
              cell.gridIndex).2 =
          some cell.gridIndex) ↔
      CentreOnFloor floor cellSize (cell.col, cell.row) := by
  rcases (mem_generateAllCells_iff.mp hCell).1 with
    ⟨hLow, hHigh⟩
  rw [place_of_mem_cells hCell,
    ← getGridIndex_snap_iff hWidth hLength hSize hLow hHigh]
  constructor
  · rintro ⟨-, -, -, hFound⟩
    exact hFound
  · intro hFound
    have hOn := (getGridIndex_eq_some_iff.mp hFound).1
    exact
      ⟨hOn, roundFour_le_one hWidth hOn.1.2,
        roundFour_le_one hLength hOn.2.2, hFound⟩

/- The first cell of the small floor is found again. -/
theorem snap_round_trip_small :
    (OnFloor smallFloor
          ((gridTools smallFloor 2).getSnapPoint 0).1
          ((gridTools smallFloor 2).getSnapPoint 0).2 ∧
        ((gridTools smallFloor 2).getSnapWithRatio
          0).xRatio ≤ 1 ∧
        ((gridTools smallFloor 2).getSnapWithRatio
          0).yRatio ≤ 1 ∧
        (gridTools smallFloor 2).getGridIndex
            ((gridTools smallFloor 2).getSnapPoint 0).1
            ((gridTools smallFloor 2).getSnapPoint 0).2 =
          some 0) ↔
      CentreOnFloor smallFloor 2 (0, 0) := by
  have hWidth : 0 < smallFloor.width := by decide
  have hLength : 0 < smallFloor.length := by decide
  have hSize : (0 : ℚ) < 2 := by decide +kernel
  exact snap_round_trip hWidth hLength hSize ⟨0, 0, 0⟩
    (by decide +kernel)

/-
  Nine metres in cells of four: the centre of the last
  column is at ten.
-/
theorem snap_not_round_trip :
    (⟨2, 2, 0⟩ : GridCell) ∈
        (gridTools ⟨1, 9, 4⟩ 4).cells ∧
      1 <
        ((gridTools ⟨1, 9, 4⟩ 4).getSnapWithRatio
          2).xRatio ∧
      (gridTools ⟨1, 9, 4⟩ 4).getGridIndex
          ((gridTools ⟨1, 9, 4⟩ 4).getSnapPoint 2).1
          ((gridTools ⟨1, 9, 4⟩ 4).getSnapPoint 2).2 =
        none := by
  decide +kernel

end Facilities

end Icmp2
