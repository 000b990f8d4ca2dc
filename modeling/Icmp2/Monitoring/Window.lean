import Icmp2.Monitoring.Reading
import Icmp2.Library.Deque
import Icmp2.Library.OrderBy
import Icmp2.Library.Trace

/-
  The sliding window of gas values, in memory and in the
  database.

  Main definitions include:
    * `Icmp2.Monitoring.GasBuffers`
    * `Icmp2.Monitoring.pushReading`
    * `Icmp2.Monitoring.initFromDb`
    * `Icmp2.Monitoring.windowGet`
    * `Icmp2.Monitoring.getWindow`
    * `Icmp2.Monitoring.windowStep`

  Main theorems include:
    * `Icmp2.Monitoring.getWindow_eq_rtake`
    * `Icmp2.Monitoring.items_ensure_run`
    * `Icmp2.Monitoring.window_eq_query_iff`
-/

------------------------------------------------------------
-- Buffers
------------------------------------------------------------

namespace Icmp2

namespace Monitoring

open Library

/- `WINDOW_SIZE`. -/
def windowSize : Nat :=
  30

/- `BUFFER_SIZE`. -/
def bufferSize : Nat :=
  windowSize * 2

/- The buffers of one device. -/
abbrev GasBuffers : Type :=
  Gas → Deque bufferSize ℚ

/- `_buffers`. -/
abbrev Buffers : Type :=
  String → Option GasBuffers

namespace Buffers

/- The buffers of a process that has just started. -/
def started : Buffers :=
  fun _ => none

/- `_ensure_buffer`. -/
def ensure
    (buffers : Buffers)
    (deviceUid : String) :
    GasBuffers :=
  (buffers deviceUid).getD fun _ => Deque.empty

def set
    (buffers : Buffers)
    (deviceUid : String)
    (gasBuffers : GasBuffers) :
    Buffers :=
  fun other =>
    if other = deviceUid then
      some gasBuffers
    else
      buffers other

@[simp] theorem ensure_set_self
    (buffers : Buffers)
    (deviceUid : String)
    (gasBuffers : GasBuffers) :
    (buffers.set deviceUid gasBuffers).ensure deviceUid =
      gasBuffers := by
  simp [set, ensure]

theorem ensure_set_of_ne
    (buffers : Buffers)
    {deviceUid other : String}
    (gasBuffers : GasBuffers)
    (hNe : other ≠ deviceUid) :
    (buffers.set deviceUid gasBuffers).ensure other =
      buffers.ensure other := by
  simp [set, ensure, hNe]

end Buffers

/- The values of one reading behind those in the buffers. -/
def appendReading
    (buffers : GasBuffers)
    (reading : GasReading) :
    GasBuffers :=
  fun gas =>
    match reading.value gas with
    | none => buffers gas
    | some value => (buffers gas).append value

/- `push`. -/
def pushReading
    (deviceUid : String)
    (reading : GasReading)
    (buffers : Buffers) :
    Buffers :=
  buffers.set deviceUid
    (appendReading (buffers.ensure deviceUid) reading)

end Monitoring

end Icmp2

------------------------------------------------------------
-- Queries
------------------------------------------------------------

namespace Icmp2

namespace Monitoring

open Library

/- `order_by('-measured_at')`. -/
def newestFirst
    (rows : List GasReading) :
    List GasReading :=
  orderDesc GasReading.measuredAt rows

/- The rows with `quality_flag='ok'`. -/
def okRows
    (rows : List GasReading) :
    List GasReading :=
  rows.filter fun row => row.qualityFlag = .ok

/-
  `init_from_db` of the last `n` rows; `rows` are the stored
  readings of the device.
-/
def initFromDb
    (rows : List GasReading)
    (buffers : GasBuffers)
    (n : Nat) :
    GasBuffers :=
  ((newestFirst (okRows rows)).take n).reverse.foldl
    appendReading buffers

/- `values[-n:]`. -/
def lastSlice
    (values : List ℚ)
    (n : Int) :
    List ℚ :=
  if 0 < n then
    values.rtake n.toNat
  else
    values.drop (-n).toNat

/- `get`, with the buffers that it leaves behind. -/
def windowGet
    (rows : List GasReading)
    (deviceUid : String)
    (gas : Gas)
    (n : Int)
    (buffers : Buffers) :
    List ℚ × Buffers :=
  let current := buffers.ensure deviceUid
  let restored :=
    if (current gas).items = [] then
      initFromDb rows current bufferSize
    else
      current
  let values := (restored gas).items
  (if values.length > n then lastSlice values n else values,
    buffers.set deviceUid restored)

/-
  `get_window`; slicing a query by a negative bound raises
  an exception.
-/
def getWindow
    (rows : List GasReading)
    (gas : Gas)
    (n : Int) :
    Option (List ℚ) :=
  let present :=
    (okRows rows).filter fun row => (row.value gas).isSome
  if n < 0 then
    none
  else
    some
      (((newestFirst present).take n.toNat).reverse.filterMap
        fun row => row.value gas)

end Monitoring

end Icmp2

------------------------------------------------------------
-- Runs
------------------------------------------------------------

namespace Icmp2

namespace Monitoring

open Library

/-
  A stored reading with the uid of its device, and with the
  flag that ingestion computes.
-/
structure JoinedReading extends GasReading where
  deviceUid : String
  flagged :
    toGasReading.qualityFlag =
      Monitoring.qualityFlag toGasReading.value

/- The stored readings and the memory of the process. -/
structure WindowState where
  stored : List JoinedReading
  buffers : Buffers

namespace WindowState

def initial : WindowState where
  stored := []
  buffers := Buffers.started

/- The stored readings of one device, in order. -/
def rowsOf
    (state : WindowState)
    (deviceUid : String) :
    List GasReading :=
  (state.stored.filter fun row =>
    row.deviceUid = deviceUid).map
      JoinedReading.toGasReading

end WindowState

inductive WindowOp where
  | ingest (reading : JoinedReading)
  | restart

/- The gases that STEP E reads. -/
def cpGasFields : List Gas :=
  [.co, .co2, .h2s, .o2, .voc]

/- STEP E reads the whole window of one gas. -/
def detectorRead
    (deviceUid : String)
    (state : WindowState)
    (gas : Gas) :
    WindowState :=
  { state with
    buffers :=
      (windowGet (state.rowsOf deviceUid) deviceUid gas
        bufferSize state.buffers).2 }

/-
  Insert the reading, push it, and let STEP E read; STEP D
  reads no buffer with fewer than ten values.
-/
def windowStep
    (state : WindowState) :
    WindowOp → WindowState
  | .ingest reading =>
      run (detectorRead reading.deviceUid)
        { stored := state.stored ++ [reading]
          buffers :=
            pushReading reading.deviceUid
              reading.toGasReading state.buffers }
        cpGasFields
  | .restart => { state with buffers := Buffers.started }

/- The readings of a device that a run ingests. -/
def ingested
    (deviceUid : String)
    (ops : List WindowOp) :
    List GasReading :=
  ops.filterMap fun op =>
    match op with
    | .ingest reading =>
        if reading.deviceUid = deviceUid then
          some reading.toGasReading
        else
          none
    | .restart => none

/- One operation, for the readings since a restart. -/
def sinceStep
    (deviceUid : String)
    (since : List GasReading) :
    WindowOp → List GasReading
  | .ingest reading =>
      if reading.deviceUid = deviceUid then
        since ++ [reading.toGasReading]
      else
        since
  | .restart => []

/- The readings of a device since the last restart. -/
def sinceRestart
    (deviceUid : String)
    (ops : List WindowOp) :
    List GasReading :=
  run (sinceStep deviceUid) [] ops

end Monitoring

end Icmp2

------------------------------------------------------------
-- Complete Readings
------------------------------------------------------------

namespace Icmp2

namespace Monitoring

open Library

/- The values of one gas, reading by reading. -/
def gasValues
    (rows : List GasReading)
    (gas : Gas) :
    List ℚ :=
  rows.filterMap fun row => row.value gas

/- Readings that have a value of every gas. -/
def Complete
    (rows : List GasReading) :
    Prop :=
  ∀ row ∈ rows, ∀ gas, (row.value gas).isSome

/- Complete readings have exactly one value of a gas each. -/
theorem gasValues_eq_map
    {rows : List GasReading}
    (hComplete : Complete rows)
    (gas : Gas) :
    gasValues rows gas =
      rows.map fun row => (row.value gas).getD 0 := by
  unfold gasValues
  rw [← List.filterMap_eq_map']
  apply List.filterMap_congr
  intro row hRow
  rcases Option.isSome_iff_exists.mp
    (hComplete row hRow gas) with ⟨value, hValue⟩
  rw [hValue, Option.getD_some]

theorem length_gasValues
    {rows : List GasReading}
    (hComplete : Complete rows)
    (gas : Gas) :
    (gasValues rows gas).length = rows.length := by
  rw [gasValues_eq_map hComplete, List.length_map]

theorem Complete.rtake
    {rows : List GasReading}
    (hComplete : Complete rows)
    (n : Nat) :
    Complete (rows.rtake n) :=
  fun row hRow => hComplete row (List.mem_of_mem_drop hRow)

theorem gasValues_rtake
    {rows : List GasReading}
    (hComplete : Complete rows)
    (gas : Gas)
    (n : Nat) :
    gasValues (rows.rtake n) gas =
      (gasValues rows gas).rtake n := by
  rw [gasValues_eq_map hComplete,
    gasValues_eq_map (hComplete.rtake n)]
  simp only [List.rtake, List.map_drop, List.length_map]

/- Appending readings one by one fills a buffer in order. -/
theorem items_foldl_appendReading
    (buffers : GasBuffers)
    (rows : List GasReading)
    (gas : Gas) :
    (rows.foldl appendReading buffers gas).items =
      ((gasValues rows gas).foldl Deque.append
        (buffers gas)).items := by
  induction rows generalizing buffers with
  | nil => rfl
  | cons row rows ih =>
      rw [List.foldl_cons, ih]
      unfold gasValues
      cases hValue : row.value gas with
      | none =>
          simp only [appendReading, List.filterMap_cons,
            hValue]
      | some value =>
          simp only [appendReading, List.filterMap_cons,
            hValue, List.foldl_cons]

/- The query of the last values, on complete readings. -/
theorem getWindow_eq_rtake
    {rows : List GasReading}
    (hOk : ∀ row ∈ rows, row.qualityFlag = .ok)
    (hComplete : Complete rows)
    (hIncreasing :
      (rows.map GasReading.measuredAt).Pairwise (· < ·))
    (gas : Gas)
    {n : Int}
    (hNonneg : 0 ≤ n) :
    getWindow rows gas n =
      some ((gasValues rows gas).rtake n.toNat) := by
  have hPresent :
      (okRows rows).filter
          (fun row => (row.value gas).isSome) =
        rows := by
    rw [okRows, List.filter_filter, List.filter_eq_self]
    intro row hRow
    simp [hOk row hRow, hComplete row hRow gas]
  simp only [getWindow]
  rw [if_neg (not_lt.mpr hNonneg), hPresent,
    newestFirst, orderDesc_eq_reverse hIncreasing,
    ← List.rtake_eq_reverse_take_reverse]
  exact
    congrArg some (gasValues_rtake hComplete gas n.toNat)

end Monitoring

end Icmp2

------------------------------------------------------------
-- Restarts
------------------------------------------------------------

namespace Icmp2

namespace Monitoring

open Library

theorem ensure_detectorRead_of_ne
    {deviceUid other : String}
    (state : WindowState)
    (gas : Gas)
    (hNe : other ≠ deviceUid) :
    (detectorRead deviceUid state gas).buffers.ensure
        other =
      state.buffers.ensure other :=
  Buffers.ensure_set_of_ne _ _ hNe

/- A buffer that holds values is not restored. -/
theorem ensure_detectorRead_of_ne_nil
    (deviceUid : String)
    (state : WindowState)
    {gas : Gas}
    (hItems :
      (state.buffers.ensure deviceUid gas).items ≠ []) :
    (detectorRead deviceUid state gas).buffers.ensure
        deviceUid =
      state.buffers.ensure deviceUid := by
  simp only [detectorRead, windowGet, if_neg hItems,
    Buffers.ensure_set_self]

theorem items_appendReading_ne_nil
    (buffers : GasBuffers)
    {reading : GasReading}
    {gas : Gas}
    (hValue : (reading.value gas).isSome) :
    (appendReading buffers reading gas).items ≠ [] := by
  rcases Option.isSome_iff_exists.mp hValue with
    ⟨value, hValue⟩
  simp only [appendReading, hValue, Deque.append]
  intro hNil
  have hLength := congrArg List.length hNil
  rw [length_rtake, List.length_append] at hLength
  simp [bufferSize, windowSize] at hLength

/- What an operation does to the buffers of a device. -/
theorem ensure_windowStep_ingest
    (state : WindowState)
    (reading : JoinedReading)
    (hOk : reading.qualityFlag = .ok) :
    (windowStep state (.ingest reading)).buffers.ensure
        reading.deviceUid =
      appendReading
        (state.buffers.ensure reading.deviceUid)
        reading.toGasReading := by
  have hValues :=
    (qualityFlag_eq_ok_iff reading.value).mp
      (reading.flagged ▸ hOk)
  refine
    run_invariant
      (I := fun later : WindowState =>
        later.buffers.ensure reading.deviceUid =
          appendReading
            (state.buffers.ensure reading.deviceUid)
            reading.toGasReading)
      ?_ (Buffers.ensure_set_self _ _ _) cpGasFields
  intro later gas hLater
  rw [ensure_detectorRead_of_ne_nil]
  · exact hLater
  · rw [hLater]
    exact items_appendReading_ne_nil _ (hValues gas)

theorem ensure_windowStep_of_ne
    {deviceUid : String}
    (state : WindowState)
    (reading : JoinedReading)
    (hNe : reading.deviceUid ≠ deviceUid) :
    (windowStep state (.ingest reading)).buffers.ensure
        deviceUid =
      state.buffers.ensure deviceUid := by
  refine
    run_invariant
      (I := fun later : WindowState =>
        later.buffers.ensure deviceUid =
          state.buffers.ensure deviceUid)
      ?_ (Buffers.ensure_set_of_ne _ _ hNe.symm)
      cpGasFields
  intro later gas hLater
  rw [ensure_detectorRead_of_ne later gas hNe.symm, hLater]

@[simp] theorem stored_windowStep_ingest
    (state : WindowState)
    (reading : JoinedReading) :
    (windowStep state (.ingest reading)).stored =
      state.stored ++ [reading] :=
  run_invariant
    (I := fun later : WindowState =>
      later.stored = state.stored ++ [reading])
    (fun _ _ hLater => hLater) rfl cpGasFields

/- The stored rows of a device are the ingested readings. -/
theorem rowsOf_run
    (deviceUid : String)
    (ops : List WindowOp) :
    (run windowStep .initial ops).rowsOf deviceUid =
      ingested deviceUid ops := by
  induction ops using List.reverseRecOn with
  | nil => rfl
  | append_singleton ops op ih =>
      rw [run_append, run_cons, run_nil]
      unfold ingested at ih ⊢
      rw [List.filterMap_append, ← ih]
      unfold WindowState.rowsOf
      cases op with
      | ingest reading =>
          rw [stored_windowStep_ingest, List.filter_append,
            List.map_append]
          by_cases hUid : reading.deviceUid = deviceUid
          · simp [hUid]
          · simp [hUid]
      | restart => simp [windowStep]

/-
  Since the last restart, the process has appended exactly
  the readings of the device to empty buffers.
-/
theorem ensure_run
    (deviceUid : String)
    {ops : List WindowOp}
    (hOk :
      ∀ row ∈ ingested deviceUid ops,
        row.qualityFlag = .ok) :
    (run windowStep .initial ops).buffers.ensure
        deviceUid =
      (sinceRestart deviceUid ops).foldl appendReading
        fun _ => Deque.empty := by
  induction ops using List.reverseRecOn with
  | nil => rfl
  | append_singleton ops op ih =>
      unfold ingested at hOk ih
      rw [List.filterMap_append] at hOk
      have hBefore :=
        ih fun row hRow =>
          hOk row (List.mem_append_left _ hRow)
      unfold sinceRestart at hBefore ⊢
      rw [run_append, run_cons, run_nil, run_append,
        run_cons, run_nil]
      cases op with
      | ingest reading =>
          by_cases hUid : reading.deviceUid = deviceUid
          · have hLast :=
              hOk reading.toGasReading
                (List.mem_append_right _ (by simp [hUid]))
            subst hUid
            rw [ensure_windowStep_ingest _ _ hLast, hBefore,
              sinceStep, if_pos rfl, List.foldl_append,
              List.foldl_cons, List.foldl_nil]
          · rw [ensure_windowStep_of_ne _ _ hUid, hBefore,
              sinceStep, if_neg hUid]
      | restart => rfl

/- The readings since the last restart are the last ones. -/
theorem sinceRestart_suffix
    (deviceUid : String)
    (ops : List WindowOp) :
    sinceRestart deviceUid ops <:+
      ingested deviceUid ops := by
  induction ops using List.reverseRecOn with
  | nil => exact List.suffix_refl _
  | append_singleton ops op ih =>
      unfold sinceRestart ingested at ih ⊢
      rw [run_append, run_cons, run_nil,
        List.filterMap_append]
      cases op with
      | ingest reading =>
          by_cases hUid : reading.deviceUid = deviceUid
          · rcases ih with ⟨front, hFront⟩
            refine ⟨front, ?_⟩
            simp [sinceStep, hUid, ← hFront]
          · simpa [sinceStep, hUid] using ih
      | restart => exact List.nil_suffix

end Monitoring

end Icmp2

------------------------------------------------------------
-- The Window and the Query
------------------------------------------------------------

namespace Icmp2

namespace Monitoring

open Library

/- Readings with a flag of `ok` are complete. -/
theorem complete_ingested
    {deviceUid : String}
    {ops : List WindowOp}
    (hOk :
      ∀ row ∈ ingested deviceUid ops,
        row.qualityFlag = .ok) :
    Complete (ingested deviceUid ops) := by
  intro row hRow
  have hFlag := hOk row hRow
  rcases List.mem_filterMap.mp hRow with ⟨op, _, hOp⟩
  cases op with
  | ingest reading =>
      simp only [Option.ite_none_right_eq_some,
        Option.some.injEq] at hOp
      rcases hOp with ⟨_, rfl⟩
      exact
        (qualityFlag_eq_ok_iff reading.value).mp
          (reading.flagged ▸ hFlag)
  | restart => cases hOp

/- So are those since the last restart. -/
theorem complete_sinceRestart
    {deviceUid : String}
    {ops : List WindowOp}
    (hOk :
      ∀ row ∈ ingested deviceUid ops,
        row.qualityFlag = .ok) :
    Complete (sinceRestart deviceUid ops) := by
  intro row hRow
  exact
    complete_ingested hOk row
      ((sinceRestart_suffix deviceUid ops).subset hRow)

/- A buffer holds the last values since the restart. -/
theorem items_ensure_run
    {deviceUid : String}
    {ops : List WindowOp}
    (hOk :
      ∀ row ∈ ingested deviceUid ops,
        row.qualityFlag = .ok)
    (gas : Gas) :
    ((run windowStep .initial ops).buffers.ensure
        deviceUid gas).items =
      (gasValues (sinceRestart deviceUid ops) gas).rtake
        bufferSize := by
  rw [ensure_run deviceUid hOk,
    items_foldl_appendReading, Deque.items_foldl_append]
  rfl

theorem sinceRestart_ingest
    (ops : List WindowOp)
    (reading : JoinedReading) :
    sinceRestart reading.deviceUid
        (ops ++ [.ingest reading]) =
      sinceRestart reading.deviceUid ops ++
        [reading.toGasReading] := by
  unfold sinceRestart
  rw [run_append, run_cons, run_nil, sinceStep, if_pos rfl]

/- After a push of the device its buffers are in use. -/
theorem items_ensure_run_ne_nil
    {ops : List WindowOp}
    {reading : JoinedReading}
    (hOk :
      ∀ row ∈
          ingested reading.deviceUid
            (ops ++ [.ingest reading]),
        row.qualityFlag = .ok)
    (gas : Gas) :
    ((run windowStep .initial
        (ops ++ [.ingest reading])).buffers.ensure
          reading.deviceUid gas).items ≠ [] := by
  intro hNil
  have hLength :=
    congrArg List.length (items_ensure_run hOk gas)
  rw [hNil, length_rtake,
    length_gasValues (complete_sinceRestart hOk),
    sinceRestart_ingest, List.length_append,
    List.length_singleton, List.length_nil] at hLength
  unfold bufferSize windowSize at hLength
  omega

/- A positive number of values of a buffer in use. -/
theorem windowGet_of_ne_nil
    (rows : List GasReading)
    {deviceUid : String}
    {gas : Gas}
    {n : Int}
    {buffers : Buffers}
    (hItems : (buffers.ensure deviceUid gas).items ≠ [])
    (hPos : 0 < n) :
    (windowGet rows deviceUid gas n buffers).1 =
      (buffers.ensure deviceUid gas).items.rtake
        n.toNat := by
  simp only [windowGet, if_neg hItems]
  split
  · rw [lastSlice, if_pos hPos]
  · rw [rtake_of_length_le]
    omega

/- Asked for no value, `get` answers with all of them. -/
theorem windowGet_zero
    (rows : List GasReading)
    {deviceUid : String}
    {gas : Gas}
    {buffers : Buffers}
    (hItems : (buffers.ensure deviceUid gas).items ≠ []) :
    (windowGet rows deviceUid gas 0 buffers).1 ≠ [] := by
  simp only [windowGet, if_neg hItems]
  split
  · exact hItems
  · exact hItems

/-
  After the push of the latest reading, the window in
  memory agrees with the query for the last `n` values
  exactly if `n` is positive and the last `n` readings, or
  all if there are fewer, came after the last restart.
-/
theorem window_eq_query_iff
    (ops : List WindowOp)
    (reading : JoinedReading)
    (hOk :
      ∀ row ∈
          ingested reading.deviceUid
            (ops ++ [.ingest reading]),
        row.qualityFlag = .ok)
    (hIncreasing :
      ((ingested reading.deviceUid
          (ops ++ [.ingest reading])).map
        GasReading.measuredAt).Pairwise (· < ·))
    (gas : Gas)
    {n : Int}
    (hSize : n ≤ bufferSize) :
    let deviceUid := reading.deviceUid
    let pushed := ops ++ [WindowOp.ingest reading]
    let state := run windowStep .initial pushed
    getWindow (state.rowsOf deviceUid) gas n =
        some
          (windowGet (state.rowsOf deviceUid) deviceUid gas
            n state.buffers).1 ↔
      1 ≤ n ∧
        min n.toNat (ingested deviceUid pushed).length ≤
          (sinceRestart deviceUid pushed).length := by
  intro deviceUid pushed state
  have hComplete : Complete (ingested deviceUid pushed) :=
    complete_ingested hOk
  have hSince : Complete (sinceRestart deviceUid pushed) :=
    complete_sinceRestart hOk
  have hUsed :
      (state.buffers.ensure deviceUid gas).items ≠ [] :=
    items_ensure_run_ne_nil hOk gas
  rw [rowsOf_run]
  rcases lt_trichotomy n 0 with hNeg | rfl | hPos
  · have hWindow :
        getWindow (ingested deviceUid pushed) gas n =
          none := by
      simp only [getWindow, if_pos hNeg]
    rw [hWindow]
    constructor
    · intro hNone
      cases hNone
    · rintro ⟨hOne, _⟩
      omega
  · rw [getWindow_eq_rtake hOk hComplete hIncreasing gas
      le_rfl]
    constructor
    · intro hEmpty
      rw [Int.toNat_zero, List.rtake_zero,
        Option.some.injEq] at hEmpty
      exact absurd hEmpty.symm (windowGet_zero _ hUsed)
    · rintro ⟨hOne, _⟩
      omega
  · rw [getWindow_eq_rtake hOk hComplete hIncreasing gas
        hPos.le,
      windowGet_of_ne_nil _ hUsed hPos,
      items_ensure_run hOk gas, rtake_rtake,
      Nat.min_eq_left (by omega), Option.some.injEq]
    rcases sinceRestart_suffix deviceUid pushed with
      ⟨front, hFront⟩
    have hValues :
        gasValues (ingested deviceUid pushed) gas =
          gasValues front gas ++
            gasValues (sinceRestart deviceUid pushed)
              gas := by
      rw [← hFront]
      exact List.filterMap_append
    rw [hValues, rtake_append_eq_iff, ← hValues,
      length_gasValues hComplete, length_gasValues hSince]
    exact
      ⟨fun hLast => ⟨by omega, hLast⟩,
        fun hBoth => hBoth.2⟩

/- A complete reading of one value for every gas. -/
def evenReading
    (measuredAt : Instant)
    (value : ℚ) :
    JoinedReading where
  id := 1
  device := 1
  value := fun _ => some value
  measuredAt := measuredAt
  qualityFlag := .ok
  deviceUid := "GAS-001"
  flagged := rfl

/- Two readings a minute apart, with no restart between. -/
theorem window_eq_query_two :
    let state :=
      run windowStep .initial
        [.restart, .ingest (evenReading 0 5),
          .ingest (evenReading 60000000 7)]
    getWindow (state.rowsOf "GAS-001") .co 30 =
      some
        (windowGet (state.rowsOf "GAS-001") "GAS-001" .co 30
          state.buffers).1 :=
  (window_eq_query_iff
    [.restart, .ingest (evenReading 0 5)]
    (evenReading 60000000 7) (by decide) (by decide)
    .co (by decide)).mpr ⟨by decide, by decide⟩

/-
  After a restart between two readings the window in memory
  has the second value only, and a window of no values has
  every value.
-/
theorem window_ne_query :
    let state :=
      run windowStep .initial
        [.ingest (evenReading 0 5), .restart,
          .ingest (evenReading 60000000 7)]
    getWindow (state.rowsOf "GAS-001") .co 30 =
        some [5, 7] ∧
      (windowGet (state.rowsOf "GAS-001") "GAS-001" .co 30
        state.buffers).1 = [7] ∧
      getWindow (state.rowsOf "GAS-001") .co 0 = some [] ∧
      (windowGet (state.rowsOf "GAS-001") "GAS-001" .co 0
        state.buffers).1 = [7] := by
  refine ⟨?_, ?_, ?_, ?_⟩
  · decide +kernel
  · decide +kernel
  · decide +kernel
  · decide +kernel

end Monitoring

end Icmp2
