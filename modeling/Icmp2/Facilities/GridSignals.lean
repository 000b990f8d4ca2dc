import Icmp2.Facilities.IndexGrid
import Icmp2.Library.Rows
import Icmp2.Library.Trace
import Mathlib.Data.Rat.Lemmas

/-
  The signals that keep a grid and its dimensions together.

  Main definitions include:
    * `Icmp2.Facilities.detectChanges`
    * `Icmp2.Facilities.GridRun`
    * `Icmp2.Facilities.GridOp`
    * `Icmp2.Facilities.gridStep`
    * `Icmp2.Facilities.GridsAgree`
    * `Icmp2.Facilities.AttachesClean`

  Main theorems include:
    * `Icmp2.Facilities.GridRun.Sound.gridStep`
    * `Icmp2.Facilities.grids_agree_of_clean`

  A regeneration is queued where a save changes the width,
  the length or the cell size.  A grid that is created, or
  moved to another floor, queues none.
-/

------------------------------------------------------------
-- Saves and Tasks
------------------------------------------------------------

namespace Icmp2

namespace Facilities

open Library

/- `_detect_changes` against the row that is stored. -/
def detectChanges
    {R T : Type}
    [DecidableEq T]
    (old : Option R)
    (tracked : R → T)
    (instance' : R) :
    Bool :=
  match old with
  | none => false
  | some row => tracked row ≠ tracked instance'

/- `_FLOOR_DIMS`. -/
def Floor.dims
    (floor : Floor) :
    Int × Int :=
  (floor.width, floor.length)

/- The store, and the floors that have been set up. -/
structure GridRun where
  store : GridStore
  setUp : Nat → Bool

/- No floor. -/
def GridRun.initial : GridRun where
  store :=
    { floors := fun _ => none
      cellSize := fun _ => none
      rows := fun _ => IndexGrid.empty
      gridChanged := []
      dimensionsChanged := [] }
  setUp := fun _ => false

/- `handle_floor_dimensions_changed.delay`. -/
def GridStore.queueDimensionsChanged
    (store : GridStore)
    (floor : Nat) :
    GridStore :=
  { store with
    dimensionsChanged := store.dimensionsChanged ++ [floor] }

/- `Floor.save` with its two handlers. -/
def GridStore.saveFloor
    (store : GridStore)
    (floor : Floor) :
    GridStore :=
  let saved :=
    { store with
      floors :=
        Function.update store.floors floor.id
          (some floor) }
  if detectChanges (store.floors floor.id) Floor.dims
      floor then
    saved.queueDimensionsChanged floor.id
  else
    saved

/-
  Creation of a `FloorGrid`: its floor exists and has none.
  The handlers leave a created one alone.
-/
def GridStore.createFloorGrid
    (store : GridStore)
    (floor : Nat)
    (cellSize : ℚ) :
    GridStore :=
  if store.floors floor ≠ none ∧
      store.cellSize floor = none then
    { store with
      cellSize :=
        Function.update store.cellSize floor
          (some cellSize) }
  else
    store

/-
  `FloorGrid.save` of the grid of a floor, which may name
  another floor as long as that has no grid.
-/
def GridStore.saveFloorGrid
    (store : GridStore)
    (floor target : Nat)
    (cellSize : ℚ) :
    GridStore :=
  let old := store.cellSize floor
  if old ≠ none ∧ store.floors target ≠ none ∧
      (target = floor ∨ store.cellSize target = none) then
    let saved :=
      { store with
        cellSize :=
          Function.update
            (Function.update store.cellSize floor none)
            target (some cellSize) }
    if detectChanges old id cellSize then
      saved.queueDimensionsChanged target
    else
      saved
  else
    store

/- No handler listens to the deletion of a `FloorGrid`. -/
def GridStore.deleteFloorGrid
    (store : GridStore)
    (floor : Nat) :
    GridStore :=
  { store with
    cellSize := Function.update store.cellSize floor none }

/- `FloorGridSetupView.post`. -/
def GridStore.setup
    (store : GridStore)
    (floor : Nat) :
    GridStore :=
  match store.floors floor with
  | none => store
  | some row =>
      storeAfter (setupIndexGridForFloor none row) store

/- Take a task off its queue. -/
def GridStore.takeTask
    (store : GridStore)
    (position : Nat) :
    GridStore :=
  { store with
    dimensionsChanged :=
      store.dimensionsChanged.eraseIdx position }

/- `handle_floor_dimensions_changed`, taken off its queue. -/
def GridStore.runTask
    (store : GridStore)
    (position : Nat) :
    GridStore :=
  match store.dimensionsChanged[position]? with
  | none => store
  | some floor =>
      match store.floors floor with
      | none => store.takeTask position
      | some row =>
          storeAfter (regenerateIndexGridForFloor none row)
            (store.takeTask position)

inductive GridOp where
  | saveFloor (floor : Floor)
  | createFloorGrid (floor : Nat) (cellSize : ℚ)
  | saveFloorGrid (floor target : Nat) (cellSize : ℚ)
  | deleteFloorGrid (floor : Nat)
  | setup (floor : Nat)
  | runTask (position : Nat)
  deriving DecidableEq, Repr

/- The store after an operation. -/
def GridStore.apply
    (store : GridStore) :
    GridOp → GridStore
  | .saveFloor floor => store.saveFloor floor
  | .createFloorGrid floor cellSize =>
      store.createFloorGrid floor cellSize
  | .saveFloorGrid floor target cellSize =>
      store.saveFloorGrid floor target cellSize
  | .deleteFloorGrid floor => store.deleteFloorGrid floor
  | .setup floor => store.setup floor
  | .runTask position => store.runTask position

/- A floor that exists is set up by its setup. -/
def gridStep
    (run : GridRun)
    (op : GridOp) :
    GridRun where
  store := run.store.apply op
  setUp :=
    match op with
    | .setup floor =>
        Function.update run.setUp floor
          (run.setUp floor || (run.store.floors floor).isSome)
    | _ => run.setUp

/- All sizes of an operation are positive. -/
def GridOp.Positive : GridOp → Prop
  | .saveFloor floor => 0 < floor.width ∧ 0 < floor.length
  | .createFloorGrid _ cellSize => 0 < cellSize
  | .saveFloorGrid _ _ cellSize => 0 < cellSize
  | _ => True

/-
  With no task left, each floor that was set up and has a
  grid has exactly the cells of its current dimensions.
-/
def GridsAgree
    (run : GridRun) :
    Prop :=
  run.store.dimensionsChanged = [] →
    ∀ id floor cellSize,
      run.setUp id = true →
      run.store.floors id = some floor →
      run.store.cellSize id = some cellSize →
        run.store.rows id = gridOf (cellsFor floor cellSize)

/- Every stored row is one of the given cells. -/
def RowsAmong
    (rows : IndexGrid)
    (cells : List GridCell) :
    Prop :=
  ∀ index position,
    rows index = some position →
      gridOf cells index = some position

/-
  A floor may get a grid: its regeneration is queued, or
  it has no rows but cells of that grid, and all of them
  if it has been set up.
-/
def Fits
    (run : GridRun)
    (id : Nat)
    (cellSize : ℚ) :
    Prop :=
  ∀ floor,
    run.store.floors id = some floor →
      id ∈ run.store.dimensionsChanged ∨
        (RowsAmong (run.store.rows id)
            (cellsFor floor cellSize) ∧
          (run.setUp id = true →
            run.store.rows id =
              gridOf (cellsFor floor cellSize)))

/-
  What a grid must find on the floor to which a creation,
  a setup, or a save that keeps the cell size attaches it.
-/
def AttachesClean
    (run : GridRun) :
    GridOp → Prop
  | .createFloorGrid floor cellSize =>
      run.store.cellSize floor = none →
        Fits run floor cellSize
  | .saveFloorGrid floor target cellSize =>
      target ≠ floor →
      run.store.cellSize floor = some cellSize →
      run.store.cellSize target = none →
        Fits run target cellSize
  | .setup floor =>
      run.store.cellSize floor = none →
        ∀ row,
          run.store.floors floor = some row →
            floor ∈ run.store.dimensionsChanged ∨
              RowsAmong (run.store.rows floor)
                (cellsFor row 1)
  | _ => True

end Facilities

end Icmp2

------------------------------------------------------------
-- The Invariant
------------------------------------------------------------

namespace Icmp2

namespace Facilities

open Library

/- Rows that are cells of the grid are completed to it. -/
theorem insertIgnoring_of_rowsAmong
    {rows : IndexGrid}
    {cells : List GridCell}
    (hAmong : RowsAmong rows cells) :
    insertIgnoring rows cells = gridOf cells := by
  funext index
  rw [insertIgnoring_apply]
  cases hIndex : rows index with
  | none => exact Option.none_or
  | some position =>
      rw [Option.some_or]
      exact (hAmong index position hIndex).symm

theorem rowsAmong_gridOf
    (cells : List GridCell) :
    RowsAmong (gridOf cells) cells := by
  intro index position hIndex
  exact hIndex

/- The cells of a floor only depend on its dimensions. -/
theorem cellsFor_of_dims
    {floor other : Floor}
    (hDims : floor.dims = other.dims)
    (cellSize : ℚ) :
    cellsFor floor cellSize = cellsFor other cellSize := by
  rcases Prod.mk.inj hDims with ⟨hWidth, hLength⟩
  unfold cellsFor serviceOf
  rw [hWidth, hLength]

/-
  The store after the rows of a floor are written: its grid
  exists, and no other floor and no other table changes.
-/
structure GridStore.Written
    (store written : GridStore)
    (floor : Nat)
    (rows : IndexGrid) :
    Prop where
  floors : written.floors = store.floors
  cellSize :
    written.cellSize =
      Function.update store.cellSize floor
        (some (store.sizeOf floor))
  rows :
    written.rows = Function.update store.rows floor rows
  dimensionsChanged :
    written.dimensionsChanged = store.dimensionsChanged

theorem written_getOrCreateGrid
    (store : GridStore)
    (floor : Nat)
    (rows : IndexGrid) :
    store.Written
      (((store.getOrCreateGrid floor).setRows floor
        rows).queueGridChanged floor)
      floor rows := by
  have hFrame := getOrCreateGrid_frame store floor
  refine
    ⟨hFrame.1, cellSize_getOrCreateGrid_eq store floor, ?_,
      hFrame.2⟩
  change
    Function.update (store.getOrCreateGrid floor).rows floor
        rows = _
  rw [rows_getOrCreateGrid]

theorem written_cleared
    (store : GridStore)
    (floor : Nat)
    (rows : IndexGrid) :
    store.Written
      (((store.cleared floor).setRows floor
        rows).queueGridChanged floor)
      floor rows := by
  have hFrame := getOrCreateGrid_frame store floor
  refine
    ⟨hFrame.1, cellSize_getOrCreateGrid_eq store floor, ?_,
      hFrame.2⟩
  change
    Function.update
        (Function.update (store.getOrCreateGrid floor).rows
          floor IndexGrid.empty)
        floor rows = _
  rw [Function.update_idem, rows_getOrCreateGrid]

/- Every grid is on a floor, is positive, and fits there. -/
structure GridRun.Sound
    (run : GridRun) :
    Prop where
  key :
    ∀ id floor,
      run.store.floors id = some floor → floor.id = id
  owner :
    ∀ id, run.store.cellSize id ≠ none →
      run.store.floors id ≠ none
  positive :
    ∀ id cellSize,
      run.store.cellSize id = some cellSize → 0 < cellSize
  fits :
    ∀ id cellSize,
      run.store.cellSize id = some cellSize →
        Fits run id cellSize

theorem GridRun.Sound.initial :
    GridRun.initial.Sound where
  key := by
    intro id floor hFloor
    cases hFloor
  owner := by
    intro id hSize
    exact absurd rfl hSize
  positive := by
    intro id cellSize hSize
    cases hSize
  fits := by
    intro id cellSize hSize
    cases hSize

theorem GridRun.Sound.size_pos
    {run : GridRun}
    (hSound : run.Sound)
    (id : Nat) :
    0 < run.store.sizeOf id := by
  unfold GridStore.sizeOf
  cases hSize : run.store.cellSize id with
  | none => exact (by decide : (0 : ℚ) < 1)
  | some cellSize => exact hSound.positive id cellSize hSize

/- What an operation elsewhere does to a floor. -/
theorem Fits.frame
    {run next : GridRun}
    {id : Nat}
    {cellSize : ℚ}
    (hFits : Fits run id cellSize)
    (hFloors :
      next.store.floors id = run.store.floors id)
    (hRows : next.store.rows id = run.store.rows id)
    (hSetUp : next.setUp id = run.setUp id)
    (hQueue :
      id ∈ run.store.dimensionsChanged →
        id ∈ next.store.dimensionsChanged) :
    Fits next id cellSize := by
  intro floor hFloor
  rw [hFloors] at hFloor
  rw [hRows, hSetUp]
  exact (hFits floor hFloor).imp_left hQueue

/- The grid of a floor is taken away. -/
theorem GridRun.Sound.detach
    {run : GridRun}
    (hSound : run.Sound)
    (id : Nat) :
    ({ run with
        store := run.store.deleteFloorGrid id } :
      GridRun).Sound := by
  have hKept :
      ∀ other cellSize,
        (run.store.deleteFloorGrid id).cellSize other =
          some cellSize →
        run.store.cellSize other = some cellSize := by
    intro other cellSize hSize
    exact (of_update_none hSize).2
  refine ⟨hSound.key, ?_, ?_, ?_⟩
  · intro other hSize
    rcases Option.ne_none_iff_exists'.mp hSize with
      ⟨cellSize, hSome⟩
    apply hSound.owner other
    rw [hKept other cellSize hSome]
    exact Option.some_ne_none _
  · intro other cellSize hSize
    exact
      hSound.positive other cellSize
        (hKept other cellSize hSize)
  · intro other cellSize hSize
    exact
      hSound.fits other cellSize
        (hKept other cellSize hSize)

/- A grid is put on a floor that it fits. -/
theorem GridRun.Sound.attach
    {run next : GridRun}
    (hSound : run.Sound)
    {id : Nat}
    {cellSize : ℚ}
    (hFloor : run.store.floors id ≠ none)
    (hPositive : 0 < cellSize)
    (hFloors : next.store.floors = run.store.floors)
    (hSizes :
      next.store.cellSize =
        Function.update run.store.cellSize id
          (some cellSize))
    (hRows :
      ∀ other, other ≠ id →
        next.store.rows other = run.store.rows other)
    (hSetUp :
      ∀ other, other ≠ id →
        next.setUp other = run.setUp other)
    (hQueue :
      ∀ other, other ≠ id →
        other ∈ run.store.dimensionsChanged →
          other ∈ next.store.dimensionsChanged)
    (hFits : Fits next id cellSize) :
    next.Sound := by
  have hCases :
      ∀ other size,
        next.store.cellSize other = some size →
        other = id ∧ size = cellSize ∨
          other ≠ id ∧
            run.store.cellSize other = some size := by
    intro other size hSize
    rw [hSizes] at hSize
    exact of_update_some hSize
  refine ⟨?_, ?_, ?_, ?_⟩
  · intro other floor hOther
    rw [hFloors] at hOther
    exact hSound.key other floor hOther
  · intro other hSize
    rcases Option.ne_none_iff_exists'.mp hSize with
      ⟨size, hSome⟩
    rw [hFloors]
    rcases hCases other size hSome with
      ⟨rfl, _⟩ | ⟨_, hOld⟩
    · exact hFloor
    · apply hSound.owner other
      rw [hOld]
      exact Option.some_ne_none _
  · intro other size hSize
    rcases hCases other size hSize with
      ⟨_, rfl⟩ | ⟨_, hOld⟩
    · exact hPositive
    · exact hSound.positive other size hOld
  · intro other size hSize
    rcases hCases other size hSize with
      ⟨rfl, rfl⟩ | ⟨hNe, hOld⟩
    · exact hFits
    · exact
        (hSound.fits other size hOld).frame
          (congrFun hFloors other) (hRows other hNe)
          (hSetUp other hNe) (hQueue other hNe)

/- A saved floor leaves the grids and the rows alone. -/
theorem saveFloor_frame
    (store : GridStore)
    (floor : Floor) :
    (store.saveFloor floor).floors =
        Function.update store.floors floor.id
          (some floor) ∧
      (store.saveFloor floor).cellSize = store.cellSize ∧
      (store.saveFloor floor).rows = store.rows ∧
      ∀ other ∈ store.dimensionsChanged,
        other ∈ (store.saveFloor floor).dimensionsChanged := by
  unfold GridStore.saveFloor
  cases detectChanges (store.floors floor.id) Floor.dims
      floor with
  | true =>
      refine ⟨rfl, rfl, rfl, ?_⟩
      intro other hOther
      exact List.mem_append_left _ hOther
  | false =>
      refine ⟨rfl, rfl, rfl, ?_⟩
      intro other hOther
      exact hOther

/- A floor of other dimensions is queued. -/
theorem queued_of_saveFloor
    {store : GridStore}
    {floor old : Floor}
    (hOld : store.floors floor.id = some old)
    (hDims : old.dims ≠ floor.dims) :
    floor.id ∈ (store.saveFloor floor).dimensionsChanged := by
  have hChanged :
      detectChanges (store.floors floor.id) Floor.dims
        floor = true := by
    rw [hOld, detectChanges]
    exact decide_eq_true hDims
  unfold GridStore.saveFloor
  rw [hChanged]
  exact List.mem_append_right _ (List.mem_singleton.mpr rfl)

/- A saved floor keeps its cells, or gets a task. -/
theorem GridRun.Sound.saveFloor
    {run : GridRun}
    (hSound : run.Sound)
    (floor : Floor) :
    (gridStep run (.saveFloor floor)).Sound := by
  rcases saveFloor_frame run.store floor with
    ⟨hFloors, hSizes, hRows, hQueue⟩
  have hStep :
      gridStep run (.saveFloor floor) =
        ⟨run.store.saveFloor floor, run.setUp⟩ :=
    rfl
  rw [hStep]
  refine ⟨?_, ?_, ?_, ?_⟩
  · intro id other hOther
    rw [hFloors] at hOther
    rcases of_update_some hOther with
      ⟨hSame, hRow⟩ | ⟨_, hOld⟩
    · rw [hRow, hSame]
    · exact hSound.key id other hOld
  · intro id hSize hNone
    rw [hSizes] at hSize
    rw [hFloors] at hNone
    apply hSound.owner id hSize
    by_cases hSame : id = floor.id
    · rw [hSame, Function.update_self] at hNone
      cases hNone
    · rw [Function.update_of_ne hSame] at hNone
      exact hNone
  · intro id cellSize hSize
    rw [hSizes] at hSize
    exact hSound.positive id cellSize hSize
  · intro id cellSize hSize
    rw [hSizes] at hSize
    have hFits := hSound.fits id cellSize hSize
    by_cases hSame : id = floor.id
    · have hExists : run.store.floors id ≠ none := by
        apply hSound.owner id
        rw [hSize]
        exact Option.some_ne_none _
      rcases Option.ne_none_iff_exists'.mp hExists with
        ⟨old, hOld⟩
      intro other hOther
      rw [hFloors, hSame, Function.update_self] at hOther
      cases hOther
      by_cases hDims : old.dims = floor.dims
      · rw [hRows, ← cellsFor_of_dims hDims]
        exact (hFits old hOld).imp_left (hQueue id)
      · rw [hSame] at hOld ⊢
        exact Or.inl (queued_of_saveFloor hOld hDims)
    · apply hFits.frame
      · rw [hFloors, Function.update_of_ne hSame]
      · rw [hRows]
      · rfl
      · exact hQueue id

/- A created grid must fit its floor. -/
theorem GridRun.Sound.createFloorGrid
    {run : GridRun}
    (hSound : run.Sound)
    {floor : Nat}
    {cellSize : ℚ}
    (hPositive : 0 < cellSize)
    (hClean :
      AttachesClean run (.createFloorGrid floor cellSize)) :
    (gridStep run
      (.createFloorGrid floor cellSize)).Sound := by
  by_cases hFree :
      run.store.floors floor ≠ none ∧
        run.store.cellSize floor = none
  · have hStore :
        (gridStep run
            (.createFloorGrid floor cellSize)).store =
          { run.store with
            cellSize :=
              Function.update run.store.cellSize floor
                (some cellSize) } :=
      if_pos hFree
    apply hSound.attach hFree.1 hPositive
    · rw [hStore]
    · rw [hStore]
    · intro other _
      rw [hStore]
    · intro other _
      rfl
    · intro other _ hOther
      rw [hStore]
      exact hOther
    · apply (hClean hFree.2).frame
      · rw [hStore]
      · rw [hStore]
      · rfl
      · intro hQueue
        rw [hStore]
        exact hQueue
  · have hStore :
        gridStep run (.createFloorGrid floor cellSize) =
          run := by
      have hSame :
          run.store.createFloorGrid floor cellSize =
            run.store :=
        if_neg hFree
      simp only [gridStep, GridStore.apply, hSame]
    rw [hStore]
    exact hSound

section SavedGrid

variable {store : GridStore} {floor target : Nat}
variable {cellSize : ℚ}

/- The grid of a floor may be saved for the target floor. -/
variable
  (hFree :
    store.cellSize floor ≠ none ∧
      store.floors target ≠ none ∧
      (target = floor ∨ store.cellSize target = none))
include hFree

/- A saved grid leaves the floors and the rows alone. -/
theorem saveFloorGrid_frame :
    (store.saveFloorGrid floor target cellSize).floors =
        store.floors ∧
      (store.saveFloorGrid floor target cellSize).cellSize =
        Function.update
          (Function.update store.cellSize floor none)
          target (some cellSize) ∧
      (store.saveFloorGrid floor target cellSize).rows =
        store.rows ∧
      ∀ other ∈ store.dimensionsChanged,
        other ∈ (store.saveFloorGrid floor target
          cellSize).dimensionsChanged := by
  unfold GridStore.saveFloorGrid
  rw [if_pos hFree]
  cases detectChanges (store.cellSize floor) id
      cellSize with
  | true =>
      refine ⟨rfl, rfl, rfl, ?_⟩
      intro other hOther
      exact List.mem_append_left _ hOther
  | false =>
      refine ⟨rfl, rfl, rfl, ?_⟩
      intro other hOther
      exact hOther

/- A grid of another size queues the target floor. -/
theorem queued_of_saveFloorGrid
    {old : ℚ}
    (hOld : store.cellSize floor = some old)
    (hChanged : old ≠ cellSize) :
    target ∈ (store.saveFloorGrid floor target
      cellSize).dimensionsChanged := by
  have hDetect :
      detectChanges (store.cellSize floor) id cellSize =
        true := by
    rw [hOld, detectChanges]
    exact decide_eq_true hChanged
  unfold GridStore.saveFloorGrid
  rw [if_pos hFree, hDetect]
  exact List.mem_append_right _ (List.mem_singleton.mpr rfl)

end SavedGrid

/-
  A saved grid either keeps its place and size, or queues
  a task, or fits the floor to which it is moved.
-/
theorem GridRun.Sound.saveFloorGrid
    {run : GridRun}
    (hSound : run.Sound)
    {floor target : Nat}
    {cellSize : ℚ}
    (hPositive : 0 < cellSize)
    (hClean :
      AttachesClean run
        (.saveFloorGrid floor target cellSize)) :
    (gridStep run
      (.saveFloorGrid floor target cellSize)).Sound := by
  have hStep :
      gridStep run (.saveFloorGrid floor target cellSize) =
        ⟨run.store.saveFloorGrid floor target cellSize,
          run.setUp⟩ :=
    rfl
  rw [hStep]
  by_cases hFree :
      run.store.cellSize floor ≠ none ∧
        run.store.floors target ≠ none ∧
        (target = floor ∨
          run.store.cellSize target = none)
  · rcases Option.ne_none_iff_exists'.mp hFree.1 with
      ⟨old, hOld⟩
    rcases saveFloorGrid_frame hFree with
      ⟨hFloors, hSizes, hRows, hQueue⟩
    have hFits :
        Fits
          ⟨run.store.saveFloorGrid floor target cellSize,
            run.setUp⟩
          target cellSize := by
      by_cases hSame : old = cellSize
      · have hBefore : Fits run target cellSize := by
          rw [hSame] at hOld
          by_cases hTarget : target = floor
          · rw [hTarget]
            exact hSound.fits floor cellSize hOld
          · exact
              hClean hTarget hOld
                (hFree.2.2.resolve_left hTarget)
        apply hBefore.frame
        · exact congrFun hFloors target
        · exact congrFun hRows target
        · rfl
        · exact hQueue target
      · intro row _
        exact
          Or.inl (queued_of_saveFloorGrid hFree hOld hSame)
    apply (hSound.detach floor).attach hFree.2.1 hPositive
    · exact hFloors
    · exact hSizes
    · intro other _
      exact congrFun hRows other
    · intro other _
      rfl
    · intro other _ hOther
      exact hQueue other hOther
    · exact hFits
  · have hStore :
        run.store.saveFloorGrid floor target cellSize =
          run.store :=
      if_neg hFree
    rw [hStore]
    exact hSound

/-
  The grid of a floor that exists is created, and its rows
  become its cells, or are left to a task in the queue.
-/
theorem GridRun.Sound.written
    {run next : GridRun}
    (hSound : run.Sound)
    {floor : Nat}
    {row : Floor}
    {rows : IndexGrid}
    {queue : List Nat}
    (hRow : run.store.floors floor = some row)
    (hWritten :
      ({ run.store with dimensionsChanged := queue } :
        GridStore).Written next.store floor rows)
    (hSetUp :
      ∀ other, other ≠ floor →
        next.setUp other = run.setUp other)
    (hQueue :
      ∀ other, other ≠ floor →
        other ∈ run.store.dimensionsChanged →
          other ∈ queue)
    (hRows :
      floor ∈ queue ∨
        rows =
          gridOf (cellsFor row (run.store.sizeOf floor))) :
    next.Sound := by
  have hFloor : run.store.floors floor ≠ none := by
    rw [hRow]
    exact Option.some_ne_none _
  apply hSound.attach hFloor (hSound.size_pos floor)
  · exact hWritten.floors
  · exact hWritten.cellSize
  · intro other hOther
    rw [hWritten.rows, Function.update_of_ne hOther]
  · exact hSetUp
  · intro other hOther hBefore
    rw [hWritten.dimensionsChanged]
    exact hQueue other hOther hBefore
  · intro other hOther
    have hSame : row = other := by
      rw [hWritten.floors] at hOther
      exact Option.some.inj (hRow.symm.trans hOther)
    rw [hWritten.dimensionsChanged, hWritten.rows,
      Function.update_self, ← hSame]
    refine hRows.imp_right ?_
    intro hCells
    rw [hCells]
    exact ⟨rowsAmong_gridOf _, fun _ => rfl⟩

/- A setup of a floor that exists. -/
theorem setup_of_floor
    {store : GridStore}
    {floor : Nat}
    {row : Floor}
    (hRow : store.floors floor = some row)
    (hKey : row.id = floor)
    (hNe : store.sizeOf floor ≠ 0) :
    store.Written (store.setup floor) floor
      (insertIgnoring (store.rows floor)
        (cellsFor row (store.sizeOf floor))) := by
  have hStore :
      store.setup floor =
        ((store.getOrCreateGrid floor).setRows floor
          (insertIgnoring (store.rows floor)
            (cellsFor row
              (store.sizeOf
                floor)))).queueGridChanged floor := by
    subst hKey
    simp only [GridStore.setup, hRow, storeAfter,
      setup_of_no_fault hNe]
  rw [hStore]
  exact written_getOrCreateGrid store floor _

/- A setup completes rows that are cells of its grid. -/
theorem GridRun.Sound.setup
    {run : GridRun}
    (hSound : run.Sound)
    {floor : Nat}
    (hClean : AttachesClean run (.setup floor)) :
    (gridStep run (.setup floor)).Sound := by
  cases hRow : run.store.floors floor with
  | none =>
      have hSame : gridStep run (.setup floor) = run := by
        simp only [gridStep, GridStore.apply,
          GridStore.setup, hRow, Option.isSome_none,
          Bool.or_false, Function.update_eq_self]
      rw [hSame]
      exact hSound
  | some row =>
      have hAmong :
          floor ∈ run.store.dimensionsChanged ∨
            RowsAmong (run.store.rows floor)
              (cellsFor row (run.store.sizeOf floor)) := by
        unfold GridStore.sizeOf
        cases hCell : run.store.cellSize floor with
        | none => exact hClean hCell row hRow
        | some cellSize =>
            exact
              (hSound.fits floor cellSize hCell row
                hRow).imp_right And.left
      apply hSound.written hRow
      · exact
          setup_of_floor hRow (hSound.key floor row hRow)
            (ne_of_gt (hSound.size_pos floor))
      · intro other hOther
        exact Function.update_of_ne hOther _ _
      · intro other _ hBefore
        exact hBefore
      · exact hAmong.imp_right insertIgnoring_of_rowsAmong

/- Taking one task leaves those of other floors. -/
theorem mem_eraseIdx_of_ne
    {queue : List Nat}
    {position floor other : Nat}
    (hTask : queue[position]? = some floor)
    (hOther : other ∈ queue)
    (hNe : other ≠ floor) :
    other ∈ queue.eraseIdx position := by
  rw [List.mem_eraseIdx_iff_getElem?]
  rcases List.mem_iff_getElem?.mp hOther with
    ⟨index, hIndex⟩
  refine ⟨index, ?_, hIndex⟩
  intro hSame
  rw [hSame, hTask] at hIndex
  exact hNe (Option.some.inj hIndex).symm

/- A task of a floor that is gone is dropped. -/
theorem runTask_of_no_floor
    {store : GridStore}
    {position floor : Nat}
    (hTask :
      store.dimensionsChanged[position]? = some floor)
    (hRow : store.floors floor = none) :
    store.runTask position = store.takeTask position := by
  simp only [GridStore.runTask, hTask, hRow]

/- A task of a floor that exists. -/
theorem runTask_of_floor
    {store : GridStore}
    {position floor : Nat}
    {row : Floor}
    (hTask :
      store.dimensionsChanged[position]? = some floor)
    (hRow : store.floors floor = some row)
    (hKey : row.id = floor)
    (hNe : store.sizeOf floor ≠ 0) :
    (store.takeTask position).Written
      (store.runTask position) floor
      (gridOf (cellsFor row (store.sizeOf floor))) := by
  have hStore :
      store.runTask position =
        (((store.takeTask position).cleared floor).setRows
          floor
          (gridOf
            (cellsFor row
              (store.sizeOf
                floor)))).queueGridChanged floor := by
    subst hKey
    have hTaken :
        (store.takeTask position).sizeOf row.id ≠ 0 :=
      hNe
    simp only [GridStore.runTask, hTask, hRow]
    rw [storeAfter, regenerate_of_no_fault hTaken]
    rfl
  rw [hStore]
  exact written_cleared (store.takeTask position) floor _

/- A task gives its floor exactly the cells of its grid. -/
theorem GridRun.Sound.runTask
    {run : GridRun}
    (hSound : run.Sound)
    (position : Nat) :
    (gridStep run (.runTask position)).Sound := by
  have hStep :
      gridStep run (.runTask position) =
        ⟨run.store.runTask position, run.setUp⟩ :=
    rfl
  rw [hStep]
  cases hTask :
      run.store.dimensionsChanged[position]? with
  | none =>
      have hSame : run.store.runTask position = run.store := by
        simp only [GridStore.runTask, hTask]
      rw [hSame]
      exact hSound
  | some floor =>
      cases hRow : run.store.floors floor with
      | none =>
          rw [runTask_of_no_floor hTask hRow]
          refine
            ⟨hSound.key, hSound.owner, hSound.positive, ?_⟩
          intro id cellSize hSize
          have hNe : id ≠ floor := by
            intro hSame
            apply hSound.owner id
            · change run.store.cellSize id = some cellSize
                at hSize
              rw [hSize]
              exact Option.some_ne_none _
            · rw [hSame]
              exact hRow
          apply (hSound.fits id cellSize hSize).frame
          · rfl
          · rfl
          · rfl
          · intro hQueue
            exact mem_eraseIdx_of_ne hTask hQueue hNe
      | some row =>
          apply hSound.written hRow
          · exact
              runTask_of_floor hTask hRow
                (hSound.key floor row hRow)
                (ne_of_gt (hSound.size_pos floor))
          · intro other _
            rfl
          · intro other hOther hBefore
            exact mem_eraseIdx_of_ne hTask hBefore hOther
          · exact Or.inr rfl

theorem GridRun.Sound.gridStep
    {run : GridRun}
    (hSound : run.Sound)
    {op : GridOp}
    (hPositive : op.Positive)
    (hClean : AttachesClean run op) :
    (gridStep run op).Sound := by
  cases op with
  | saveFloor floor => exact hSound.saveFloor floor
  | createFloorGrid floor cellSize =>
      exact hSound.createFloorGrid hPositive hClean
  | saveFloorGrid floor target cellSize =>
      exact hSound.saveFloorGrid hPositive hClean
  | deleteFloorGrid floor => exact hSound.detach floor
  | setup floor => exact hSound.setup hClean
  | runTask position => exact hSound.runTask position

/- Soundness is agreement, once no task is left. -/
theorem GridRun.Sound.gridsAgree
    {run : GridRun}
    (hSound : run.Sound) :
    GridsAgree run := by
  intro hQuiet id floor cellSize hSetUp hFloor hSize
  rcases hSound.fits id cellSize hSize floor hFloor with
    hQueue | ⟨_, hRows⟩
  · rw [hQuiet] at hQueue
    cases hQueue
  · exact hRows hSetUp

/- A floor with its grid is set up, and then widened. -/
def widenedFloorOps : List GridOp :=
  [.saveFloor ⟨1, 10, 5⟩,
    .createFloorGrid 1 5,
    .setup 1,
    .saveFloor ⟨1, 20, 5⟩,
    .runTask 0]

/- The grid is deleted, and created with larger cells. -/
def recreatedGridOps : List GridOp :=
  [.saveFloor ⟨1, 10, 5⟩,
    .createFloorGrid 1 5,
    .setup 1,
    .deleteFloorGrid 1,
    .createFloorGrid 1 10]

end Facilities

end Icmp2
