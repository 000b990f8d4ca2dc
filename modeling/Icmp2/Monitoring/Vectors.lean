import Icmp2.Library.Columns
import Icmp2.Monitoring.Window
import Mathlib.Algebra.Order.Ring.Rat

/-
  The vectors of all nine gases.

  Main definitions include:
    * `Icmp2.Monitoring.getVectors`
    * `Icmp2.Monitoring.latestVectors`
    * `Icmp2.Monitoring.VectorsAreReadings`

  Main theorems include:
    * `Icmp2.Monitoring.items_run_push`
    * `Icmp2.Monitoring.getVectors_run`
    * `Icmp2.Monitoring.vectors_are_readings_iff`

  Each gas has a buffer of its own that drops what was not
  measured; the vectors are an instance of
  `Library.zipped`.
-/

------------------------------------------------------------
-- Vectors
------------------------------------------------------------

namespace Icmp2

namespace Monitoring

open Library

/- The last rows of the lists, put together by index. -/
def zipLists
    (lists : List (List ℚ))
    (n : Int) :
    List (List ℚ) :=
  let minLen := (lists.map List.length).min?.getD 0
  let start := (max 0 ((minLen : Int) - n)).toNat
  if minLen = 0 then
    []
  else
    (List.range' start (minLen - start)).map fun j =>
      lists.map fun values => values.getD j 0

/-
  `get_vectors`, with the buffers that it leaves behind;
  `rows` are the stored readings of the device.  Slicing
  the query by a negative bound raises an exception.
-/
def getVectors
    (rows : List GasReading)
    (deviceUid : String)
    (n : Int)
    (buffers : Buffers) :
    Option (List (List ℚ) × Buffers) :=
  let current := buffers.ensure deviceUid
  let used := Gas.gasFields.any fun gas =>
    (current gas).items ≠ []
  if !used ∧ n < 0 then
    none
  else
    let filled :=
      if used then current
      else initFromDb rows current n.toNat
    let lists := Gas.gasFields.map fun gas =>
      (filled gas).items
    some (zipLists lists n, buffers.set deviceUid filled)

/- One call of `push`. -/
structure Push where
  deviceUid : String
  reading : GasReading

def pushStep
    (buffers : Buffers)
    (push : Push) :
    Buffers :=
  pushReading push.deviceUid push.reading buffers

/- The readings that were pushed for one device. -/
def readingsOf
    (deviceUid : String)
    (pushes : List Push) :
    List GasReading :=
  (pushes.filter fun push =>
    push.deviceUid = deviceUid).map Push.reading

/- Which gases these readings have. -/
def shapesOf
    (deviceUid : String)
    (pushes : List Push) :
    List (Gas → Bool) :=
  (readingsOf deviceUid pushes).map fun reading =>
    present reading.value

/- The values of all gases, in the order of the fields. -/
def vectorOf
    (value : Gas → Option ℚ) :
    List ℚ :=
  Gas.gasFields.map fun gas => (value gas).getD 0

/-
  The vectors of the newest readings with all nine values,
  of as many as are asked for and as a buffer holds.
-/
def latestVectors
    (readings : List GasReading)
    (n : Nat) :
    List (List ℚ) :=
  let complete := readings.filter fun reading =>
    ∀ gas, (reading.value gas).isSome
  (complete.rtake (min n bufferSize)).map fun reading =>
    vectorOf reading.value

/-
  After the pushes of a process, the rows are the newest of
  the readings with all nine values.  The stored readings
  of the device are those that were pushed.
-/
def VectorsAreReadings
    (deviceUid : String)
    (pushes : List Push)
    (n : Nat) :
    Prop :=
  let readings := readingsOf deviceUid pushes
  let buffers := run pushStep Buffers.started pushes
  (getVectors readings deviceUid n buffers).map Prod.fst =
    some (latestVectors readings n)

instance
    (deviceUid : String)
    (pushes : List Push)
    (n : Nat) :
    Decidable (VectorsAreReadings deviceUid pushes n) := by
  unfold VectorsAreReadings
  infer_instance

end Monitoring

end Icmp2

------------------------------------------------------------
-- Buffers after Pushes
------------------------------------------------------------

namespace Icmp2

namespace Monitoring

open Library

/- The pushes of a device fill its buffers, and only they. -/
theorem ensure_run_push
    (deviceUid : String)
    (buffers : Buffers)
    (pushes : List Push) :
    (run pushStep buffers pushes).ensure deviceUid =
      (readingsOf deviceUid pushes).foldl appendReading
        (buffers.ensure deviceUid) := by
  induction pushes generalizing buffers with
  | nil => rfl
  | cons push pushes ih =>
      rw [run_cons, ih, pushStep, pushReading]
      unfold readingsOf
      by_cases hUid : push.deviceUid = deviceUid
      · subst hUid
        rw [Buffers.ensure_set_self,
          List.filter_cons_of_pos (by simp)]
        rfl
      · rw [Buffers.ensure_set_of_ne _ _ (Ne.symm hUid),
          List.filter_cons_of_neg (by simp [hUid])]

/- A buffer is a column of the readings. -/
theorem items_run_push
    (deviceUid : String)
    (pushes : List Push)
    (gas : Gas) :
    ((run pushStep Buffers.started pushes).ensure deviceUid
        gas).items =
      (column
        ((readingsOf deviceUid pushes).map GasReading.value)
        gas).rtake bufferSize := by
  rw [ensure_run_push, items_foldl_appendReading,
    Deque.items_foldl_append, column, List.filterMap_map]
  rfl

/- A buffer is empty only if no value was ever pushed. -/
theorem value_eq_none_of_rtake_eq_nil
    {rows : List GasReading}
    {gas : Gas}
    (hNil :
      (column (rows.map GasReading.value) gas).rtake
          bufferSize =
        []) :
    ∀ row ∈ rows, row.value gas = none := by
  have hLength := congrArg List.length hNil
  rw [length_rtake, List.length_nil] at hLength
  have hEmpty :
      (column (rows.map GasReading.value) gas).length = 0 := by
    unfold bufferSize windowSize at hLength
    omega
  intro row hRow
  exact
    List.filterMap_eq_nil_iff.mp
      (List.eq_nil_of_length_eq_zero hEmpty) _
      (List.mem_map_of_mem hRow)

/- Readings without a value restore nothing. -/
theorem initFromDb_of_no_values
    {rows : List GasReading}
    (buffers : GasBuffers)
    (n : Nat)
    (gas : Gas)
    (hNone : ∀ row ∈ rows, row.value gas = none) :
    (initFromDb rows buffers n gas).items =
      (buffers gas).items := by
  have hValues :
      gasValues
          ((newestFirst (okRows rows)).take n).reverse
          gas =
        [] := by
    apply List.filterMap_eq_nil_iff.mpr
    intro row hRow
    apply hNone
    have hTaken :=
      List.mem_of_mem_take (List.mem_reverse.mp hRow)
    exact
      (List.mem_filter.mp ((mem_orderDesc ..).mp hTaken)).1
  rw [initFromDb, items_foldl_appendReading, hValues]
  rfl

end Monitoring

end Icmp2

------------------------------------------------------------
-- Vectors as Zipped Columns
------------------------------------------------------------

namespace Icmp2

namespace Monitoring

open Library

instance : Nonempty Gas :=
  ⟨.co⟩

/- The least length is the length of the shortest column. -/
theorem min?_lengths_eq_shortest
    {rows : List (GapRow Gas ℚ)}
    {buffers : GasBuffers}
    (hItems :
      ∀ gas,
        (buffers gas).items =
          (column rows gas).rtake bufferSize) :
    ((Gas.gasFields.map fun gas =>
        (buffers gas).items).map List.length).min? =
      some (shortest bufferSize (rows.map present)) := by
  have hLength :
      ∀ gas,
        (buffers gas).items.length =
          kept bufferSize (rows.map present) gas := by
    intro gas
    rw [hItems gas, length_column_rtake]
  rw [List.map_map, List.min?_eq_some_iff]
  constructor
  · rcases exists_kept_eq_shortest bufferSize
        (rows.map present) with ⟨gas, hShortest⟩
    exact
      List.mem_map.mpr
        ⟨gas, Gas.mem_gasFields gas, by
          rw [hShortest, ← hLength gas]
          rfl⟩
  · intro length hMem
    rcases List.mem_map.mp hMem with ⟨gas, _, rfl⟩
    exact (shortest_le _ _ gas).trans (hLength gas).ge

/- Buffers that hold columns give these, zipped. -/
theorem zipLists_eq
    {rows : List (GapRow Gas ℚ)}
    {buffers : GasBuffers}
    (hItems :
      ∀ gas,
        (buffers gas).items =
          (column rows gas).rtake bufferSize)
    (n : Nat) :
    zipLists
        (Gas.gasFields.map fun gas => (buffers gas).items)
        n =
      (zipped bufferSize n rows).map vectorOf := by
  have hStart :
      ∀ minLen : Nat,
        (max 0 ((minLen : Int) - n)).toNat = minLen - n ∧
          minLen - (minLen - n) = min n minLen := by
    intro minLen
    omega
  simp only [zipLists, min?_lengths_eq_shortest hItems,
    Option.getD_some, hStart]
  rw [zipped, List.map_map]
  split_ifs with hZero
  · rw [hZero, Nat.min_zero]
    rfl
  · apply List.map_congr_left
    intro j _
    rw [Function.comp_apply, vectorOf, List.map_map]
    apply List.map_congr_left
    intro gas _
    rw [Function.comp_apply, hItems gas,
      List.getD_eq_getElem?_getD]

/- After pushes, the vectors are the zipped buffers. -/
theorem getVectors_run
    (deviceUid : String)
    (pushes : List Push)
    (n : Nat) :
    (getVectors (readingsOf deviceUid pushes) deviceUid n
        (run pushStep Buffers.started pushes)).map
          Prod.fst =
      some
        ((zipped bufferSize n
          ((readingsOf deviceUid pushes).map
            GasReading.value)).map vectorOf) := by
  have hItems := items_run_push deviceUid pushes
  simp only [getVectors, Int.toNat_natCast]
  rw [if_neg (by omega), Option.map_some, zipLists_eq]
  intro gas
  split_ifs with hUsed
  · exact hItems gas
  · rw [initFromDb_of_no_values, hItems gas]
    apply value_eq_none_of_rtake_eq_nil
    rw [← hItems gas]
    by_contra hSome
    exact
      hUsed
        (List.any_eq_true.mpr
          ⟨gas, Gas.mem_gasFields gas,
            decide_eq_true hSome⟩)

/- A vector determines a row without gaps. -/
def rowOf
    (vector : List ℚ) :
    GapRow Gas ℚ :=
  fun gas => vector[Gas.gasFields.idxOf gas]?

theorem rowOf_vectorOf
    {row : GapRow Gas ℚ}
    (hFull : Full (present row)) :
    rowOf (vectorOf row) = row := by
  funext gas
  rcases Option.isSome_iff_exists.mp (hFull gas) with
    ⟨value, hValue⟩
  rw [rowOf, vectorOf, List.getElem?_map,
    List.getElem?_idxOf (Gas.mem_gasFields gas),
    Option.map_some, hValue, Option.getD_some]

theorem map_rowOf_vectorOf
    {rows : List (GapRow Gas ℚ)}
    (hFull : ∀ row ∈ rows, Full (present row)) :
    (rows.map vectorOf).map rowOf = rows := by
  rw [List.map_map]
  calc
    rows.map (rowOf ∘ vectorOf) = rows.map id :=
      List.map_congr_left fun row hRow =>
        rowOf_vectorOf (hFull row hRow)
    _ = rows := List.map_id rows

/- Lists of such rows are compared by their vectors. -/
theorem map_vectorOf_inj
    {first second : List (GapRow Gas ℚ)}
    (hFirst : ∀ row ∈ first, Full (present row))
    (hSecond : ∀ row ∈ second, Full (present row)) :
    first.map vectorOf = second.map vectorOf ↔
      first = second := by
  constructor
  · intro hVectors
    rw [← map_rowOf_vectorOf hFirst, hVectors,
      map_rowOf_vectorOf hSecond]
  · rintro rfl
    rfl

theorem latestVectors_eq
    (readings : List GasReading)
    (n : Nat) :
    latestVectors readings n =
      ((fullRows (readings.map GasReading.value)).rtake
        (min n bufferSize)).map vectorOf := by
  rw [latestVectors, fullRows, List.filter_map, rtake_map,
    List.map_map]
  congr 2

/-
  The rows are complete readings exactly if the zipped rows
  are.
-/
theorem vectorsAreReadings_iff
    (deviceUid : String)
    (pushes : List Push)
    (n : Nat) :
    VectorsAreReadings deviceUid pushes n ↔
      zipped bufferSize n
          ((readingsOf deviceUid pushes).map
            GasReading.value) =
        (fullRows
          ((readingsOf deviceUid pushes).map
            GasReading.value)).rtake (min n bufferSize) := by
  rw [VectorsAreReadings, getVectors_run, latestVectors_eq,
    Option.some.injEq]
  apply map_vectorOf_inj
  · intro row hRow
    exact full_of_mem_zipped hRow
  · intro row hRow
    have hMem := List.mem_filter.mp (List.mem_of_mem_drop hRow)
    exact of_decide_eq_true hMem.2

theorem shapesOf_eq
    (deviceUid : String)
    (pushes : List Push) :
    shapesOf deviceUid pushes =
      ((readingsOf deviceUid pushes).map
        GasReading.value).map present := by
  rw [shapesOf, List.map_map]
  rfl

/- Pushes of given values for one device. -/
def pushesOf
    (deviceUid : String)
    (rows : List (GapRow Gas ℚ)) :
    List Push :=
  rows.map fun value =>
    { deviceUid := deviceUid
      reading :=
        { id := 0
          device := 0
          value := value
          measuredAt := 0
          qualityFlag := qualityFlag value } }

theorem readingsOf_pushesOf
    (deviceUid : String)
    (rows : List (GapRow Gas ℚ)) :
    (readingsOf deviceUid (pushesOf deviceUid rows)).map
        GasReading.value =
      rows := by
  rw [readingsOf, pushesOf, List.filter_eq_self.mpr]
  · rw [List.map_map, List.map_map]
    exact List.map_id rows
  · intro push hPush
    rcases List.mem_map.mp hPush with ⟨row, _, rfl⟩
    exact decide_eq_true rfl

/-
  Given which gases each reading of the device misses, the
  rows of `get_vectors` are the newest complete readings,
  whatever the values are, exactly if the buffers are
  aligned.
-/
theorem vectors_are_readings_iff
    (deviceUid : String)
    (shapes : List (Gas → Bool))
    (n : Nat) :
    (∀ pushes : List Push,
        shapesOf deviceUid pushes = shapes →
          VectorsAreReadings deviceUid pushes n) ↔
      Aligned bufferSize n shapes := by
  have hLabel : Function.Injective (fun k : Nat => (k : ℚ)) :=
    Nat.cast_injective
  rw [← zipped_eq_iff hLabel]
  constructor
  · intro hPushes rows hRows
    have hRight :=
      hPushes (pushesOf deviceUid rows) (by
        rw [shapesOf_eq, readingsOf_pushesOf, hRows])
    rw [vectorsAreReadings_iff, readingsOf_pushesOf]
      at hRight
    exact hRight
  · intro hRows pushes hShapes
    rw [vectorsAreReadings_iff]
    apply hRows
    rw [← shapesOf_eq, hShapes]

/-
  Complete readings around an empty one: the last two rows
  are readings.
-/
theorem vectors_are_readings_gap :
    VectorsAreReadings "GAS-001"
      (pushesOf "GAS-001"
        [fun _ => some 1, fun _ => some 2, fun _ => none,
          fun _ => some 3])
      2 :=
  (vectors_are_readings_iff "GAS-001"
    [fun _ => true, fun _ => true, fun _ => false,
      fun _ => true] 2).mpr
    (aligned_of_full_or_empty _ _ (by decide +kernel))
    _ rfl

/-
  One reading without CO, then a complete one: the row has
  the CO value of the second reading and the other values
  of the first.
-/
theorem vectors_mix_readings :
    ¬ VectorsAreReadings "GAS-001"
      (pushesOf "GAS-001"
        [fun gas => if gas = .co then none else some 1,
          fun _ => some 2])
      30 := by
  decide +kernel

end Monitoring

end Icmp2
