import Icmp2.Facilities.GridSignals
import Icmp2.Library.Rounding

/-
  The two caches over the grid of a floor.

  Main definitions include:
    * `Icmp2.Facilities.fullGrid`
    * `Icmp2.Facilities.gridPayload`
    * `Icmp2.Facilities.GridCaches`
    * `Icmp2.Facilities.CacheOp`
    * `Icmp2.Facilities.cacheStep`
    * `Icmp2.Facilities.GridCaches.Covers`
    * `Icmp2.Facilities.SetsCurrent`

  Main theorems include:
    * `Icmp2.Facilities.covered_cacheStep_iff`
    * `Icmp2.Facilities.sets_current_of_saveFloor`
    * `Icmp2.Facilities.coherent_of_sets_current`

  Readers, writers and invalidations of one floor run side
  by side, one access to the cache or to the tables at a
  time.  The row of the floor and the one of its cell size
  change as well as its cells.
-/

------------------------------------------------------------
-- Values
------------------------------------------------------------

namespace Icmp2

namespace Facilities

open Library

/- What `get_full_grid` returns. -/
structure FullGrid where
  cells : List GridCell
  cols : Int
  rows : Int
  total : Nat
  deriving DecidableEq, Repr

/- `max(...) + 1` over the cells, and 0 without cells. -/
def extent
    (coordinate : GridCell → Int)
    (cells : List GridCell) :
    Int :=
  match (cells.map coordinate).max? with
  | none => 0
  | some greatest => greatest + 1

/- The result for the cells of a floor, by `grid_index`. -/
def fullGrid
    (cells : List GridCell) :
    FullGrid where
  cells := cells
  cols := extent GridCell.col cells
  rows := extent GridCell.row cells
  total := cells.length

/- The columns of its `Floor` row that the view reads. -/
structure FloorRow where
  width : Int
  length : Int
  planImageUrl : Option String
  deriving DecidableEq, Repr

/- `_FLOOR_DIMS` of the row. -/
def FloorRow.dims
    (row : FloorRow) :
    Int × Int :=
  (row.width, row.length)

/-
  The rows of one floor: its own, the `cell_size` of its
  `FloorGrid`, and its cells by `grid_index`.
-/
structure GridRows where
  floor : Option FloorRow
  cellSize : Option ℚ
  cells : List GridCell
  deriving DecidableEq, Repr

/- A line at a place, from one end to the other. -/
structure GridLine where
  place : ℚ
  start : ℚ
  stop : ℚ
  deriving DecidableEq, Repr

/- The body of `floor_grid_data`. -/
structure GridPayload where
  floorId : Nat
  width : ℚ
  length : ℚ
  cellSize : ℚ
  cols : Int
  rows : Int
  floorImage : Option String
  vertical : List GridLine
  horizontal : List GridLine
  deriving DecidableEq, Repr

/- `round(q, 6)`. -/
def roundSix
    (q : ℚ) :
    ℚ :=
  toDouble (roundHalfEven (q * 1000000) / 1000000)

/- The lines between cells, with those at both ends. -/
def gridLines
    (count : Int)
    (cellSize stop : ℚ) :
    List GridLine :=
  (List.range (count + 1).toNat).map fun index =>
    { place := roundSix (toDouble (index * cellSize))
      start := 0
      stop := stop }

/- The host of a request, and the row of its floor. -/
structure ViewRequest where
  host : String
  floor : FloorRow
  deriving DecidableEq, Repr

/- The payload; without a `FloorGrid` the size is 1. -/
def gridPayload
    (floorId : Nat)
    (request : ViewRequest)
    (stored : Option ℚ)
    (grid : FullGrid) :
    GridPayload :=
  let cellSize := stored.getD 1
  let width : ℚ := request.floor.width
  let length : ℚ := request.floor.length
  { floorId := floorId
    width := width
    length := length
    cellSize := cellSize
    cols := grid.cols
    rows := grid.rows
    floorImage :=
      request.floor.planImageUrl.map fun url =>
        request.host ++ url
    vertical := gridLines grid.cols cellSize length
    horizontal := gridLines grid.rows cellSize width }

end Facilities

end Icmp2

------------------------------------------------------------
-- Readers, Writers and Invalidations
------------------------------------------------------------

namespace Icmp2

namespace Facilities

open Library

/-
  Where a reader stands.  A request is there for a reader
  in `floor_grid_data`, and for none that only calls
  `get_full_grid`.
-/
inductive GridReader where
  | idle
  | missedResponse (host : String)
  | loaded (request : ViewRequest)
  | missedGrid (request : Option ViewRequest)
  | queried (request : Option ViewRequest) (grid : FullGrid)
  | gridRead (request : ViewRequest) (grid : FullGrid)
  | rendered (body : GridPayload)
  deriving DecidableEq, Repr

/-
  The stored rows of the floor, its two cache keys, the
  writers that have not queued their task, the invalidations
  that have not started or are between their two deletions,
  the regenerations that have not deleted the cells, and the
  readers.
-/
structure GridCaches where
  rows : GridRows
  grid : Option FullGrid
  response : Option GridPayload
  unqueued : Nat
  queued : Nat
  halfway : Nat
  regenerations : Nat
  readers : Nat → GridReader

/- Nothing cached, and nothing going on. -/
def GridCaches.initial
    (rows : GridRows) :
    GridCaches where
  rows := rows
  grid := none
  response := none
  unqueued := 0
  queued := 0
  halfway := 0
  regenerations := 0
  readers := fun _ => .idle

/- A reader moves on. -/
def GridCaches.move
    (caches : GridCaches)
    (reader : Nat)
    (place : GridReader) :
    GridCaches :=
  { caches with
    readers :=
      Function.update caches.readers reader place }

/- What a reader has in hand once it has the grid. -/
def afterGrid
    (request : Option ViewRequest)
    (grid : FullGrid) :
    GridReader :=
  match request with
  | none => .idle
  | some request =>
      if grid.total = 0 then
        .idle
      else
        .gridRead request grid

/- `cache.get` of the grid key. -/
def GridCaches.getGrid
    (caches : GridCaches)
    (reader : Nat)
    (request : Option ViewRequest) :
    GridCaches :=
  match caches.grid with
  | some grid => caches.move reader (afterGrid request grid)
  | none => caches.move reader (.missedGrid request)

/- The accesses of a reader, in the order of the code. -/
inductive ReaderOp where
  | startGrid
  | startView (host : String)
  | readFloor
  | viewGrid
  | query
  | setGrid
  | readCellSize
  | setResponse
  deriving DecidableEq, Repr

/-
  A committed write, of `IndexGridWriter` to the cells or of
  a save or deletion to the other two rows, with what the
  handlers before a save read.
-/
inductive RowWrite where
  | writeCells (cells : List GridCell)
  | saveFloor
      (dimsRead imageRead : Option FloorRow)
      (row : FloorRow)
  | deleteFloor
  | saveFloorGrid
      (created : Bool)
      (sizeRead : Option ℚ)
      (cellSize : ℚ)
  | dropFloorGrid
  deriving DecidableEq, Repr

/- The deletion of a floor cascades to the other rows. -/
def RowWrite.after
    (rows : GridRows) :
    RowWrite → GridRows
  | .writeCells cells => { rows with cells := cells }
  | .saveFloor _ _ row => { rows with floor := some row }
  | .deleteFloor => ⟨none, none, []⟩
  | .saveFloorGrid _ _ cellSize =>
      { rows with cellSize := some cellSize }
  | .dropFloorGrid => { rows with cellSize := none }

/- `IndexGridWriter` queues its task once it has committed. -/
def RowWrite.toQueue : RowWrite → Nat
  | .writeCells _ => 1
  | _ => 0

/- `invalidate_floor` behind a save with a changed image. -/
def RowWrite.invalidations
    (rows : GridRows) :
    RowWrite → Nat
  | .saveFloor _ imageRead row =>
      if rows.floor ≠ none ∧
          detectChanges imageRead FloorRow.planImageUrl
            row then
        1
      else
        0
  | _ => 0

/- `handle_floor_dimensions_changed` behind a save. -/
def RowWrite.regenerations
    (rows : GridRows) :
    RowWrite → Nat
  | .saveFloor dimsRead _ row =>
      if rows.floor ≠ none ∧
          detectChanges dimsRead FloorRow.dims row then
        1
      else
        0
  | .saveFloorGrid created sizeRead cellSize =>
      if created = false ∧
          detectChanges sizeRead id cellSize then
        1
      else
        0
  | _ => 0

/-
  One access to the cache or the tables: of a reader, of a
  writer and the queueing behind it, of a regeneration up to
  its deletion of the cells, of an invalidation at its two
  deletions, and the expiry of a key.  The second write of a
  regeneration is one of `IndexGridWriter`.
-/
inductive CacheOp where
  | read (reader : Nat) (op : ReaderOp)
  | write (write : RowWrite)
  | regenerate
  | retryRegeneration
  | endRegeneration
  | queueChanged
  | deleteGrid
  | deleteResponse
  | expireGrid
  | expireResponse
  deriving DecidableEq, Repr

/- A reader makes an access if it has come to it. -/
def readerStep
    (floorId : Nat)
    (caches : GridCaches)
    (reader : Nat)
    (op : ReaderOp) :
    GridCaches :=
  match op, caches.readers reader with
  | .startGrid, .idle => caches.getGrid reader none
  | .startView host, .idle =>
      match caches.response with
      | some _ => caches
      | none => caches.move reader (.missedResponse host)
  | .readFloor, .missedResponse host =>
      match caches.rows.floor with
      | some row =>
          caches.move reader (.loaded ⟨host, row⟩)
      | none => caches.move reader .idle
  | .viewGrid, .loaded request =>
      caches.getGrid reader (some request)
  | .query, .missedGrid request =>
      caches.move reader
        (.queried request (fullGrid caches.rows.cells))
  | .setGrid, .queried request grid =>
      { caches with grid := some grid }.move reader
        (afterGrid request grid)
  | .readCellSize, .gridRead request grid =>
      caches.move reader
        (.rendered
          (gridPayload floorId request caches.rows.cellSize
            grid))
  | .setResponse, .rendered body =>
      { caches with response := some body }.move reader
        .idle
  | _, _ => caches

/- The write, and what is queued or run because of it. -/
def GridCaches.write
    (caches : GridCaches)
    (write : RowWrite) :
    GridCaches :=
  { caches with
    rows := write.after caches.rows
    unqueued := caches.unqueued + write.toQueue
    queued :=
      caches.queued + write.invalidations caches.rows
    regenerations :=
      caches.regenerations +
        write.regenerations caches.rows }

def cacheStep
    (floorId : Nat)
    (caches : GridCaches) :
    CacheOp → GridCaches
  | .read reader op => readerStep floorId caches reader op
  | .write write => caches.write write
  | .regenerate =>
      if caches.regenerations = 0 then
        caches
      else
        { caches.write (.writeCells []) with
          regenerations := caches.regenerations - 1 }
  | .retryRegeneration =>
      { caches with
        regenerations := caches.regenerations + 1 }
  | .endRegeneration =>
      { caches with
        regenerations := caches.regenerations - 1 }
  | .queueChanged =>
      if caches.unqueued = 0 then
        caches
      else
        { caches with
          unqueued := caches.unqueued - 1
          queued := caches.queued + 1 }
  | .deleteGrid =>
      if caches.queued = 0 then
        caches
      else
        { caches with
          grid := none
          queued := caches.queued - 1
          halfway := caches.halfway + 1 }
  | .deleteResponse =>
      if caches.halfway = 0 then
        caches
      else
        { caches with
          response := none
          halfway := caches.halfway - 1 }
  | .expireGrid => { caches with grid := none }
  | .expireResponse => { caches with response := none }

/- Some deletion of the grid key is still to come. -/
def GridCaches.GridDue
    (caches : GridCaches) :
    Prop :=
  0 < caches.unqueued + caches.queued +
    caches.regenerations

/- Some deletion of the response key is still to come. -/
def GridCaches.ResponseDue
    (caches : GridCaches) :
    Prop :=
  0 < caches.unqueued + caches.queued + caches.halfway +
    caches.regenerations

/- A recomputation of the view would give the body. -/
def ResponseCurrent
    (floorId : Nat)
    (rows : GridRows)
    (body : GridPayload) :
    Prop :=
  (fullGrid rows.cells).total ≠ 0 ∧
    ∃ row, rows.floor = some row ∧
      ∃ host,
        body =
          gridPayload floorId ⟨host, row⟩ rows.cellSize
            (fullGrid rows.cells)

/- What is cached is what the tables give. -/
def Coherent
    (floorId : Nat)
    (caches : GridCaches) :
    Prop :=
  (∀ grid, caches.grid = some grid →
    grid = fullGrid caches.rows.cells) ∧
  ∀ body, caches.response = some body →
    ResponseCurrent floorId caches.rows body

/- All but the expiry of keys has come to its end. -/
def GridCaches.Quiet
    (caches : GridCaches) :
    Prop :=
  caches.unqueued = 0 ∧ caches.queued = 0 ∧
    caches.halfway = 0 ∧ caches.regenerations = 0 ∧
    ∀ reader, caches.readers reader = .idle

/-
  Each cached value is what the rows would give, or a
  deletion of its key is still to come.
-/
structure GridCaches.Covers
    (floorId : Nat)
    (caches : GridCaches)
    (rows : GridRows) :
    Prop where
  grid :
    ∀ grid, caches.grid = some grid →
      grid = fullGrid rows.cells ∨ caches.GridDue
  response :
    ∀ body, caches.response = some body →
      ResponseCurrent floorId rows body ∨
        caches.ResponseDue

/- The write brings about an invalidation of both keys. -/
def RowWrite.Announced
    (rows : GridRows)
    (write : RowWrite) :
    Prop :=
  0 < write.toQueue + write.invalidations rows +
    write.regenerations rows

instance
    (rows : GridRows)
    (write : RowWrite) :
    Decidable (write.Announced rows) :=
  inferInstanceAs (Decidable (0 < _))

/-
  A value that a reader sets is what the stored rows give
  now, or a deletion of its key is still to come.  A write
  brings about an invalidation, or what is cached fits the
  rows behind it; and with a regeneration that comes to
  nothing no value loses the only deletion to come.
-/
def SetsCurrent
    (floorId : Nat)
    (caches : GridCaches) :
    CacheOp → Prop
  | .read reader .setGrid =>
      ∀ request grid,
        caches.readers reader = .queried request grid →
          grid = fullGrid caches.rows.cells ∨
            caches.GridDue
  | .read reader .setResponse =>
      ∀ body,
        caches.readers reader = .rendered body →
          ResponseCurrent floorId caches.rows body ∨
            caches.ResponseDue
  | .write write =>
      write.Announced caches.rows ∨
        caches.Covers floorId (write.after caches.rows)
  | .endRegeneration =>
      { caches with
        regenerations :=
          caches.regenerations - 1 }.Covers floorId
        caches.rows
  | _ => True

end Facilities

end Icmp2

------------------------------------------------------------
-- Coherence
------------------------------------------------------------

namespace Icmp2

namespace Facilities

open Library

section Coherence

variable {floorId : Nat}
variable {caches : GridCaches}
variable {rows : GridRows}

theorem covers_initial
    (floorId : Nat)
    (rows : GridRows) :
    (GridCaches.initial rows).Covers floorId rows where
  grid := by
    intro grid hGrid
    cases hGrid
  response := by
    intro body hBody
    cases hBody

/- Where all is due to be deleted, any rows will do. -/
theorem GridCaches.Covers.of_gridDue
    (hDue : caches.GridDue)
    (rows : GridRows) :
    caches.Covers floorId rows where
  grid := fun _ _ => Or.inr hDue
  response := by
    intro body _
    refine Or.inr ?_
    unfold GridCaches.GridDue at hDue
    unfold GridCaches.ResponseDue
    omega

/- Moving a reader caches nothing. -/
theorem GridCaches.Covers.move
    (hCovers : caches.Covers floorId rows)
    (reader : Nat)
    (place : GridReader) :
    (caches.move reader place).Covers floorId rows :=
  ⟨hCovers.grid, hCovers.response⟩

theorem GridCaches.Covers.getGrid
    (hCovers : caches.Covers floorId rows)
    (reader : Nat)
    (request : Option ViewRequest) :
    (caches.getGrid reader request).Covers floorId
      rows := by
  unfold GridCaches.getGrid
  cases caches.grid with
  | none => exact hCovers.move reader _
  | some grid => exact hCovers.move reader _

/- What is cached and what is due decide, and no reader. -/
theorem GridCaches.Covers.weaken
    {next : GridCaches}
    (hCovers : caches.Covers floorId rows)
    (hGrid :
      next.grid = none ∨
        (next.grid = caches.grid ∧
          (caches.GridDue → next.GridDue)))
    (hResponse :
      next.response = none ∨
        (next.response = caches.response ∧
          (caches.ResponseDue → next.ResponseDue))) :
    next.Covers floorId rows where
  grid := by
    intro grid hValue
    rcases hGrid with hNone | ⟨hSame, hDue⟩
    · rw [hNone] at hValue
      cases hValue
    · rw [hSame] at hValue
      exact (hCovers.grid grid hValue).imp_right hDue
  response := by
    intro body hValue
    rcases hResponse with hNone | ⟨hSame, hDue⟩
    · rw [hNone] at hValue
      cases hValue
    · rw [hSame] at hValue
      exact (hCovers.response body hValue).imp_right hDue

/- The set of the grid key keeps what it must keep. -/
theorem covers_setGrid_iff
    (hCovers : caches.Covers floorId caches.rows)
    (reader : Nat) :
    (readerStep floorId caches reader .setGrid).Covers
        floorId caches.rows ↔
      SetsCurrent floorId caches (.read reader .setGrid) := by
  cases hReader : caches.readers reader with
  | queried request grid =>
      simp only [readerStep, hReader, SetsCurrent]
      constructor
      · intro hNext other value hSame
        cases hSame
        exact hNext.grid grid rfl
      · intro hCurrent
        refine ⟨?_, hCovers.response⟩
        intro value hValue
        cases hValue
        exact hCurrent request grid rfl
  | idle =>
      simp only [readerStep, hReader, SetsCurrent]
      exact iff_of_true hCovers nofun
  | missedResponse host =>
      simp only [readerStep, hReader, SetsCurrent]
      exact iff_of_true hCovers nofun
  | loaded request =>
      simp only [readerStep, hReader, SetsCurrent]
      exact iff_of_true hCovers nofun
  | missedGrid request =>
      simp only [readerStep, hReader, SetsCurrent]
      exact iff_of_true hCovers nofun
  | gridRead request grid =>
      simp only [readerStep, hReader, SetsCurrent]
      exact iff_of_true hCovers nofun
  | rendered body =>
      simp only [readerStep, hReader, SetsCurrent]
      exact iff_of_true hCovers nofun

/- The set of the response key likewise. -/
theorem covers_setResponse_iff
    (hCovers : caches.Covers floorId caches.rows)
    (reader : Nat) :
    (readerStep floorId caches reader
        .setResponse).Covers floorId caches.rows ↔
      SetsCurrent floorId caches
        (.read reader .setResponse) := by
  cases hReader : caches.readers reader with
  | rendered body =>
      simp only [readerStep, hReader, SetsCurrent]
      constructor
      · intro hNext value hSame
        cases hSame
        exact hNext.response body rfl
      · intro hCurrent
        refine ⟨hCovers.grid, ?_⟩
        intro value hValue
        cases hValue
        exact hCurrent body rfl
  | idle =>
      simp only [readerStep, hReader, SetsCurrent]
      exact iff_of_true hCovers nofun
  | missedResponse host =>
      simp only [readerStep, hReader, SetsCurrent]
      exact iff_of_true hCovers nofun
  | loaded request =>
      simp only [readerStep, hReader, SetsCurrent]
      exact iff_of_true hCovers nofun
  | missedGrid request =>
      simp only [readerStep, hReader, SetsCurrent]
      exact iff_of_true hCovers nofun
  | queried request grid =>
      simp only [readerStep, hReader, SetsCurrent]
      exact iff_of_true hCovers nofun
  | gridRead request grid =>
      simp only [readerStep, hReader, SetsCurrent]
      exact iff_of_true hCovers nofun

/- A write that announces nothing changes the rows only. -/
theorem write_of_not_announced
    {write : RowWrite}
    (hSilent : ¬ write.Announced caches.rows) :
    caches.write write =
      { caches with rows := write.after caches.rows } := by
  unfold RowWrite.Announced at hSilent
  have hQueue : write.toQueue = 0 := by omega
  have hInvalidations :
      write.invalidations caches.rows = 0 := by
    omega
  have hRegenerations :
      write.regenerations caches.rows = 0 := by
    omega
  unfold GridCaches.write
  rw [hQueue, hInvalidations, hRegenerations]
  rfl

/- A write keeps what it must keep. -/
theorem covers_write_iff
    (write : RowWrite) :
    (caches.write write).Covers floorId
        (caches.write write).rows ↔
      SetsCurrent floorId caches (.write write) := by
  by_cases hAnnounced : write.Announced caches.rows
  · refine iff_of_true ?_ (Or.inl hAnnounced)
    apply GridCaches.Covers.of_gridDue
    unfold RowWrite.Announced at hAnnounced
    simp only [GridCaches.GridDue, GridCaches.write]
    omega
  · rw [write_of_not_announced hAnnounced]
    constructor
    · intro hNext
      exact Or.inr ⟨hNext.grid, hNext.response⟩
    · intro hSets
      have hCovers := hSets.resolve_left hAnnounced
      exact ⟨hCovers.grid, hCovers.response⟩

/-
  A save of the floor whose handlers read the row that it
  replaces brings about what it needs.
-/
theorem sets_current_of_saveFloor
    (hCovers : caches.Covers floorId caches.rows)
    (row : FloorRow) :
    SetsCurrent floorId caches
      (.write
        (.saveFloor caches.rows.floor caches.rows.floor
          row)) := by
  cases hFloor : caches.rows.floor with
  | none =>
      refine Or.inr ⟨hCovers.grid, ?_⟩
      intro body hBody
      refine
        (hCovers.response body hBody).imp_left ?_
      rintro ⟨_, stored, hStored, _⟩
      rw [hFloor] at hStored
      cases hStored
  | some stored =>
      by_cases hDims : stored.dims = row.dims
      · by_cases hImage :
            stored.planImageUrl = row.planImageUrl
        · have hSame : stored = row := by
            unfold FloorRow.dims at hDims
            cases stored
            cases row
            simp_all
          refine Or.inr ?_
          rw [RowWrite.after, ← hSame, ← hFloor]
          exact hCovers
        · refine Or.inl ?_
          simp [RowWrite.Announced, RowWrite.toQueue,
            RowWrite.invalidations, detectChanges, hFloor,
            hImage]
      · refine Or.inl ?_
        simp [RowWrite.Announced, RowWrite.toQueue,
          RowWrite.regenerations, detectChanges, hFloor,
          hDims]

/- So does a save of the cell size that it read. -/
theorem sets_current_of_saveFloorGrid
    (hCovers : caches.Covers floorId caches.rows)
    {stored : ℚ}
    (hStored : caches.rows.cellSize = some stored)
    (cellSize : ℚ) :
    SetsCurrent floorId caches
      (.write
        (.saveFloorGrid false (some stored) cellSize)) := by
  by_cases hSame : stored = cellSize
  · refine Or.inr ?_
    rw [RowWrite.after, ← hSame, ← hStored]
    exact hCovers
  · refine Or.inl ?_
    simp [RowWrite.Announced, RowWrite.toQueue,
      RowWrite.invalidations, RowWrite.regenerations,
      detectChanges, hSame]

/- A reader writes no row. -/
theorem rows_getGrid
    (caches : GridCaches)
    (reader : Nat)
    (request : Option ViewRequest) :
    (caches.getGrid reader request).rows =
      caches.rows := by
  unfold GridCaches.getGrid
  cases caches.grid <;> rfl

theorem rows_readerStep
    (floorId : Nat)
    (caches : GridCaches)
    (reader : Nat)
    (op : ReaderOp) :
    (readerStep floorId caches reader op).rows =
      caches.rows := by
  unfold readerStep
  split
  · exact rows_getGrid caches reader none
  · split <;> rfl
  · split <;> rfl
  · exact rows_getGrid caches reader _
  all_goals rfl

/- Only the two sets put anything into the cache. -/
theorem GridCaches.Covers.readerStep
    (hCovers : caches.Covers floorId rows)
    {op : ReaderOp}
    (hGrid : op ≠ .setGrid)
    (hResponse : op ≠ .setResponse)
    (reader : Nat) :
    (readerStep floorId caches reader op).Covers floorId
      rows := by
  unfold Facilities.readerStep
  split
  · exact hCovers.getGrid reader none
  · split
    · exact hCovers
    · exact hCovers.move reader _
  · split
    · exact hCovers.move reader _
    · exact hCovers.move reader _
  · exact hCovers.getGrid reader _
  · exact hCovers.move reader _
  · exact absurd rfl hGrid
  · exact hCovers.move reader _
  · exact absurd rfl hResponse
  · exact hCovers

theorem covered_readerStep_iff
    (hCovers : caches.Covers floorId caches.rows)
    (reader : Nat)
    (op : ReaderOp) :
    (Facilities.readerStep floorId caches reader
        op).Covers floorId caches.rows ↔
      SetsCurrent floorId caches (.read reader op) := by
  by_cases hGrid : op = .setGrid
  · rw [hGrid]
    exact covers_setGrid_iff hCovers reader
  · by_cases hResponse : op = .setResponse
    · rw [hResponse]
      exact covers_setResponse_iff hCovers reader
    · refine
        iff_of_true
          (hCovers.readerStep hGrid hResponse reader) ?_
      cases op with
      | setGrid => exact absurd rfl hGrid
      | setResponse => exact absurd rfl hResponse
      | _ => exact trivial

/- The first write of a regeneration is announced. -/
theorem covered_regenerate
    (hCovers : caches.Covers floorId caches.rows) :
    (cacheStep floorId caches .regenerate).Covers floorId
      (cacheStep floorId caches .regenerate).rows := by
  simp only [cacheStep]
  by_cases hNone : caches.regenerations = 0
  · rw [if_pos hNone]
    exact hCovers
  · rw [if_neg hNone]
    apply GridCaches.Covers.of_gridDue
    simp only [GridCaches.GridDue, GridCaches.write,
      RowWrite.toQueue]
    omega

/- Queueing keeps what is due. -/
theorem covered_queueChanged
    (hCovers : caches.Covers floorId caches.rows) :
    (cacheStep floorId caches .queueChanged).Covers floorId
      (cacheStep floorId caches .queueChanged).rows := by
  simp only [cacheStep]
  by_cases hNone : caches.unqueued = 0
  · rw [if_pos hNone]
    exact hCovers
  · rw [if_neg hNone]
    apply hCovers.weaken
    · refine Or.inr ⟨rfl, ?_⟩
      simp only [GridCaches.GridDue]
      omega
    · refine Or.inr ⟨rfl, ?_⟩
      simp only [GridCaches.ResponseDue]
      omega

/- The first deletion leaves the second one due. -/
theorem covered_deleteGrid
    (hCovers : caches.Covers floorId caches.rows) :
    (cacheStep floorId caches .deleteGrid).Covers floorId
      (cacheStep floorId caches .deleteGrid).rows := by
  simp only [cacheStep]
  by_cases hNone : caches.queued = 0
  · rw [if_pos hNone]
    exact hCovers
  · rw [if_neg hNone]
    apply hCovers.weaken
    · exact Or.inl rfl
    · refine Or.inr ⟨rfl, ?_⟩
      simp only [GridCaches.ResponseDue]
      omega

theorem covered_deleteResponse
    (hCovers : caches.Covers floorId caches.rows) :
    (cacheStep floorId caches .deleteResponse).Covers
      floorId
      (cacheStep floorId caches .deleteResponse).rows := by
  simp only [cacheStep]
  by_cases hNone : caches.halfway = 0
  · rw [if_pos hNone]
    exact hCovers
  · rw [if_neg hNone]
    apply hCovers.weaken
    · exact Or.inr ⟨rfl, fun hDue => hDue⟩
    · exact Or.inl rfl

/-
  From a state in which everything is covered, a step of
  anyone leads to such a state exactly if the values that it
  sets and the rows that it writes leave it so.
-/
theorem covered_cacheStep_iff
    (hCovers : caches.Covers floorId caches.rows)
    (op : CacheOp) :
    (cacheStep floorId caches op).Covers floorId
        (cacheStep floorId caches op).rows ↔
      SetsCurrent floorId caches op := by
  cases op with
  | read reader op =>
      rw [cacheStep, rows_readerStep]
      exact covered_readerStep_iff hCovers reader op
  | write write => exact covers_write_iff write
  | regenerate =>
      exact iff_of_true (covered_regenerate hCovers) trivial
  | retryRegeneration =>
      refine iff_of_true ?_ trivial
      apply hCovers.weaken
      · refine Or.inr ⟨rfl, ?_⟩
        simp only [cacheStep, GridCaches.GridDue]
        omega
      · refine Or.inr ⟨rfl, ?_⟩
        simp only [cacheStep, GridCaches.ResponseDue]
        omega
  | endRegeneration => exact Iff.rfl
  | queueChanged =>
      exact
        iff_of_true (covered_queueChanged hCovers) trivial
  | deleteGrid =>
      exact iff_of_true (covered_deleteGrid hCovers) trivial
  | deleteResponse =>
      exact
        iff_of_true (covered_deleteResponse hCovers) trivial
  | expireGrid =>
      exact iff_of_true ⟨nofun, hCovers.response⟩ trivial
  | expireResponse =>
      exact iff_of_true ⟨hCovers.grid, nofun⟩ trivial

/- Where nothing is due, covered is coherent. -/
theorem coherent_of_covers
    (hCovers : caches.Covers floorId caches.rows)
    (hQuiet : caches.Quiet) :
    Coherent floorId caches := by
  rcases hQuiet with
    ⟨hUnqueued, hQueued, hHalfway, hRegenerations, _⟩
  refine ⟨?_, ?_⟩
  · intro grid hGrid
    refine (hCovers.grid grid hGrid).resolve_right ?_
    unfold GridCaches.GridDue
    omega
  · intro body hBody
    refine (hCovers.response body hBody).resolve_right ?_
    unfold GridCaches.ResponseDue
    omega

/-
  In an interleaving in which readers set no value that is
  stale without a deletion to come, and no write brings
  about less than what is cached needs, both caches agree
  with the tables whenever all have finished.
-/
theorem coherent_of_sets_current
    (floorId : Nat)
    (rows : GridRows)
    (ops : List CacheOp)
    (hCurrent :
      Along (cacheStep floorId) (SetsCurrent floorId)
        (.initial rows) ops)
    (hQuiet :
      (run (cacheStep floorId) (.initial rows)
        ops).Quiet) :
    Coherent floorId
      (run (cacheStep floorId) (.initial rows) ops) := by
  refine coherent_of_covers ?_ hQuiet
  refine
    run_invariant_along
      (I := fun caches : GridCaches =>
        caches.Covers floorId caches.rows)
      ?_ (covers_initial floorId rows) hCurrent
  intro caches op hCovers hSets
  exact (covered_cacheStep_iff hCovers op).mpr hSets

/- The reader that an operation belongs to. -/
def CacheOp.reader? : CacheOp → Option Nat
  | .read reader _ => some reader
  | _ => none

theorem readers_move_of_ne
    {reader other : Nat}
    (hNe : other ≠ reader)
    (caches : GridCaches)
    (place : GridReader) :
    (caches.move reader place).readers other =
      caches.readers other :=
  Function.update_of_ne hNe _ _

theorem readers_getGrid_of_ne
    {reader other : Nat}
    (hNe : other ≠ reader)
    (caches : GridCaches)
    (request : Option ViewRequest) :
    (caches.getGrid reader request).readers other =
      caches.readers other := by
  unfold GridCaches.getGrid
  cases caches.grid with
  | none => exact readers_move_of_ne hNe _ _
  | some grid => exact readers_move_of_ne hNe _ _

theorem readers_readerStep_of_ne
    {reader other : Nat}
    (hNe : other ≠ reader)
    (op : ReaderOp) :
    (readerStep floorId caches reader op).readers other =
      caches.readers other := by
  unfold readerStep
  split
  · exact readers_getGrid_of_ne hNe _ _
  · split
    · rfl
    · exact readers_move_of_ne hNe _ _
  · split
    · exact readers_move_of_ne hNe _ _
    · exact readers_move_of_ne hNe _ _
  · exact readers_getGrid_of_ne hNe _ _
  · exact readers_move_of_ne hNe _ _
  · exact readers_move_of_ne hNe _ _
  · exact readers_move_of_ne hNe _ _
  · exact readers_move_of_ne hNe _ _
  · rfl

/- A step leaves the other readers where they are. -/
theorem readers_cacheStep_of_ne
    {op : CacheOp}
    {other : Nat}
    (hNe : op.reader? ≠ some other) :
    (cacheStep floorId caches op).readers other =
      caches.readers other := by
  cases op with
  | read reader op =>
      apply readers_readerStep_of_ne
      rintro rfl
      exact hNe rfl
  | write write => rfl
  | regenerate =>
      simp only [cacheStep]
      split_ifs <;> rfl
  | retryRegeneration => rfl
  | endRegeneration => rfl
  | queueChanged =>
      simp only [cacheStep]
      split_ifs <;> rfl
  | deleteGrid =>
      simp only [cacheStep]
      split_ifs <;> rfl
  | deleteResponse =>
      simp only [cacheStep]
      split_ifs <;> rfl
  | expireGrid => rfl
  | expireResponse => rfl

/- A reader without an operation stays where it is. -/
theorem readers_run_of_ne
    {ops : List CacheOp}
    {other : Nat}
    (hNe : ∀ op ∈ ops, op.reader? ≠ some other) :
    (run (cacheStep floorId) caches ops).readers other =
      caches.readers other := by
  induction ops generalizing caches with
  | nil => rfl
  | cons op ops ih =>
      rw [run_cons,
        ih fun later hLater =>
          hNe later (List.mem_cons_of_mem op hLater)]
      exact
        readers_cacheStep_of_ne
          (hNe op List.mem_cons_self)

/- Where one reader reads and stops, all are idle. -/
theorem idle_of_one_reader
    {ops : List CacheOp}
    (only : Nat)
    (hOps :
      ∀ op ∈ ops,
        op.reader? = none ∨ op.reader? = some only)
    (hOnly :
      (run (cacheStep floorId) (.initial rows)
        ops).readers only = .idle)
    (reader : Nat) :
    (run (cacheStep floorId) (.initial rows)
      ops).readers reader = .idle := by
  by_cases hReader : reader = only
  · rw [hReader]
    exact hOnly
  · refine readers_run_of_ne ?_
    intro op hMem hSame
    rcases hOps op hMem with hNone | hOne
    · rw [hNone] at hSame
      cases hSame
    · rw [hOne] at hSame
      exact hReader (Option.some.inj hSame).symm

end Coherence

/- A floor of ten by five metres with cells of five. -/
def narrowFloor : FloorRow :=
  ⟨10, 5, none⟩

def narrowRows : GridRows :=
  ⟨some narrowFloor, some 5, [⟨0, 0, 0⟩, ⟨1, 1, 0⟩]⟩

/- The floor with twenty metres, and its cells. -/
def widerFloor : FloorRow :=
  { narrowFloor with width := 20 }

def widerCells : List GridCell :=
  narrowRows.cells ++ [⟨2, 2, 0⟩, ⟨3, 3, 0⟩]

/- The save of the wider floor, read as it is stored. -/
def saveWider : CacheOp :=
  .write
    (.saveFloor (some narrowFloor) (some narrowFloor)
      widerFloor)

/- A reader of the view from its start to its end. -/
def viewOps : List CacheOp :=
  [.read 1 (.startView "http://host"), .read 1 .readFloor,
    .read 1 .viewGrid, .read 1 .query, .read 1 .setGrid,
    .read 1 .readCellSize, .read 1 .setResponse]

/- The regeneration, its two writes and one invalidation. -/
def regenerateOps : List CacheOp :=
  [.regenerate, .queueChanged,
    .write (.writeCells widerCells), .queueChanged,
    .deleteGrid, .deleteResponse, .deleteGrid,
    .deleteResponse]

/- A view, the save of a wider floor, and a view. -/
def quietOps : List CacheOp :=
  viewOps ++ saveWider :: regenerateOps ++ viewOps

/- Nothing stale is set, and the wider grid is cached. -/
theorem coherent_after_write :
    Coherent 1
      (run (cacheStep 1) (.initial narrowRows) quietOps) :=
  coherent_of_sets_current 1 narrowRows quietOps
    (by
      refine
        ⟨trivial, trivial, trivial, trivial, ?_, trivial,
          ?_, Or.inl (by decide), trivial, trivial,
          Or.inl (by decide), trivial, trivial, trivial,
          trivial, trivial, trivial, trivial, trivial,
          trivial, ?_, trivial, ?_, trivial⟩
      · intro request grid hReader
        cases hReader
        exact Or.inl rfl
      · intro body hReader
        cases hReader
        exact
          Or.inl
            ⟨by decide, narrowFloor, rfl, "http://host",
              rfl⟩
      · intro request grid hReader
        cases hReader
        exact Or.inl rfl
      · intro body hReader
        cases hReader
        exact
          Or.inl
            ⟨by decide, widerFloor, rfl, "http://host",
              rfl⟩)
    ⟨rfl, rfl, rfl, rfl,
      idle_of_one_reader 1 (by decide) rfl⟩

/-
  A reader queries the cells, and is overtaken by a write
  and the whole of its invalidation.
-/
def overtakenReaderOps : List CacheOp :=
  [.read 1 .startGrid, .read 1 .query,
    .write (.writeCells widerCells), .queueChanged,
    .deleteGrid, .deleteResponse, .read 1 .setGrid]

/- A view that has read the floor before it is widened. -/
def overtakenViewOps : List CacheOp :=
  viewOps.take 2 ++ saveWider :: regenerateOps ++
    viewOps.drop 2

/-
  The two old cells stay cached for the wider floor.  In the
  second run each grid is set from the stored cells, and yet
  a body of ten metres stays cached with four columns.
-/
theorem stale_grid_of_overtaken_reader :
    (¬ Coherent 1
        (run (cacheStep 1) (.initial narrowRows)
          overtakenReaderOps) ∧
      (run (cacheStep 1) (.initial narrowRows)
          overtakenReaderOps).Quiet) ∧
      ¬ Coherent 1
          (run (cacheStep 1) (.initial narrowRows)
            overtakenViewOps) ∧
        (run (cacheStep 1) (.initial narrowRows)
            overtakenViewOps).Quiet := by
  refine
    ⟨⟨?_, rfl, rfl, rfl, rfl,
        idle_of_one_reader 1 (by decide) rfl⟩,
      ?_, rfl, rfl, rfl, rfl,
      idle_of_one_reader 1 (by decide) rfl⟩
  · intro hCoherent
    have hSame := hCoherent.1 (fullGrid narrowRows.cells) rfl
    have hTotal : (2 : Nat) = 4 :=
      congrArg FullGrid.total hSame
    cases hTotal
  · intro hCoherent
    rcases hCoherent.2 _ rfl with
      ⟨_, row, hRow, host, hBody⟩
    cases hRow
    have hWidth : (10 : ℚ) = 20 :=
      congrArg GridPayload.width hBody
    norm_num at hWidth

end Facilities

end Icmp2
