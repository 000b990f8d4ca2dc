import Icmp2.Library.Deque
import Mathlib.Data.Finset.Lattice.Fold
import Mathlib.Data.Fintype.Basic
import Mathlib.Order.Lattice.Nat

/-
  Rows with gaps, kept column by column.

  Main definitions include:
    * `Library.fromEnd`
    * `Library.column`
    * `Library.zipped`
    * `Library.Aligned`

  Main theorems include:
    * `Library.fromEnd_filterMap_iff`
    * `Library.zipped_eq_of_aligned`
    * `Library.aligned_of_full_or_empty`
    * `Library.aligned_of_zipped_eq`
    * `Library.zipped_eq_iff`

  Every column drops the gaps and keeps its newest values;
  the columns are zipped to rows again by index.  Which
  gaps the rows had decides whether the zipped rows are the
  newest of the rows without gaps.
-/

------------------------------------------------------------
-- Items from the End
------------------------------------------------------------

namespace Library

variable {A B : Type}

/- The item with `later` items behind it. -/
def fromEnd
    (items : List A)
    (later : Nat) :
    Option A :=
  items.reverse[later]?

theorem getElem?_eq_fromEnd
    {items : List A}
    {index : Nat}
    (hIndex : index < items.length) :
    items[index]? =
      fromEnd items (items.length - 1 - index) := by
  rw [fromEnd, List.getElem?_reverse (by omega)]
  congr 1
  omega

/- The end of a list has the same last items. -/
theorem fromEnd_rtake
    (items : List A)
    {n later : Nat}
    (hLater : later < n) :
    fromEnd (items.rtake n) later = fromEnd items later := by
  rw [fromEnd, List.rtake_eq_reverse_take_reverse,
    List.reverse_reverse, List.getElem?_take_of_lt hLater,
    fromEnd]

/- Lists of one length are compared from the end. -/
theorem ext_fromEnd
    {first second : List A}
    (hLength : first.length = second.length)
    (hSame :
      ∀ later < first.length,
        fromEnd first later = fromEnd second later) :
    first = second := by
  rw [← List.reverse_inj]
  apply List.ext_getElem?
  intro later
  by_cases hLater : later < first.length
  · exact hSame later hLater
  · rw [List.getElem?_eq_none, List.getElem?_eq_none]
    · rw [List.length_reverse]
      omega
    · rw [List.length_reverse]
      omega

theorem exists_fromEnd
    {items : List A}
    {later : Nat}
    (hLater : later < items.length) :
    ∃ x, fromEnd items later = some x := by
  rw [← List.length_reverse] at hLater
  exact ⟨_, List.getElem?_eq_getElem hLater⟩

theorem fromEnd_eq_some_iff
    {items : List A}
    {later : Nat}
    {x : A} :
    fromEnd items later = some x ↔
      ∃ front back,
        items = front ++ x :: back ∧
          back.length = later := by
  constructor
  · intro hItem
    rcases List.getElem?_eq_some_iff.mp hItem with
      ⟨hLater, hItem⟩
    rw [List.length_reverse] at hLater
    rw [List.getElem_reverse] at hItem
    refine
      ⟨items.take (items.length - 1 - later),
        items.drop (items.length - 1 - later + 1), ?_, ?_⟩
    · rw [← hItem, List.cons_getElem_drop_succ,
        List.take_append_drop]
    · rw [List.length_drop]
      omega
  · rintro ⟨front, back, rfl, rfl⟩
    simp [fromEnd]

/- An image from the end, and the item that it is of. -/
theorem fromEnd_filterMap_iff
    {f : A → Option B}
    {items : List A}
    {later : Nat}
    {y : B} :
    fromEnd (items.filterMap f) later = some y ↔
      ∃ front x back,
        items = front ++ x :: back ∧
          f x = some y ∧
          (back.filterMap f).length = later := by
  rw [fromEnd_eq_some_iff]
  constructor
  · rintro ⟨front, back, hSplit, rfl⟩
    rcases List.filterMap_eq_append_iff.mp hSplit with
      ⟨before, rest, rfl, _, hRest⟩
    rcases List.filterMap_eq_cons_iff.mp hRest with
      ⟨skipped, x, after, rfl, _, hImage, hBack⟩
    refine ⟨before ++ skipped, x, after, ?_, hImage, ?_⟩
    · rw [List.append_assoc]
    · rw [hBack]
  · rintro ⟨front, x, back, rfl, hImage, rfl⟩
    refine
      ⟨front.filterMap f, back.filterMap f, ?_, rfl⟩
    rw [List.filterMap_append,
      List.filterMap_cons_some hImage]

theorem fromEnd_filter_iff
    {p : A → Bool}
    {items : List A}
    {later : Nat}
    {x : A} :
    fromEnd (items.filter p) later = some x ↔
      ∃ front back,
        items = front ++ x :: back ∧
          p x = true ∧
          (back.filter p).length = later := by
  rw [← List.filterMap_eq_filter, fromEnd_filterMap_iff]
  simp only [List.filterMap_eq_filter]
  constructor
  · rintro ⟨front, found, back, hSplit, hFound, hLater⟩
    rcases Option.guard_eq_some_iff.mp hFound with
      ⟨rfl, hHolds⟩
    exact ⟨front, back, hSplit, hHolds, hLater⟩
  · rintro ⟨front, back, hSplit, hHolds, hLater⟩
    exact
      ⟨front, x, back, hSplit,
        Option.guard_eq_some_iff.mpr ⟨rfl, hHolds⟩, hLater⟩

end Library

------------------------------------------------------------
-- Rows with Gaps
------------------------------------------------------------

namespace Library

variable {G V : Type}

/- A value or a gap in every column. -/
abbrev GapRow (G V : Type) : Type :=
  G → Option V

/- The columns in which a row has a value. -/
def present
    (row : GapRow G V) :
    G → Bool :=
  fun g => (row g).isSome

/- No gap in any column. -/
def Full
    (shape : G → Bool) :
    Prop :=
  ∀ g, shape g = true

instance [Fintype G] :
    DecidablePred (Full : (G → Bool) → Prop) := by
  intro shape
  unfold Full
  infer_instance

/- The values of one column, gaps dropped. -/
def column
    (rows : List (GapRow G V))
    (g : G) :
    List V :=
  rows.filterMap fun row => row g

/- The number of values in one column. -/
def valueCount
    (shapes : List (G → Bool))
    (g : G) :
    Nat :=
  shapes.countP fun shape => shape g

/- The number of values that a column keeps. -/
def kept
    (capacity : Nat)
    (shapes : List (G → Bool))
    (g : G) :
    Nat :=
  min capacity (valueCount shapes g)

theorem length_column
    (rows : List (GapRow G V))
    (g : G) :
    (column rows g).length =
      valueCount (rows.map present) g := by
  rw [column, List.length_filterMap_eq_countP, valueCount,
    List.countP_map]
  rfl

theorem length_column_rtake
    (capacity : Nat)
    (rows : List (GapRow G V))
    (g : G) :
    ((column rows g).rtake capacity).length =
      kept capacity (rows.map present) g := by
  rw [length_rtake, length_column, kept]

variable [Fintype G]

/- The rows without gaps. -/
def fullRows
    (rows : List (GapRow G V)) :
    List (GapRow G V) :=
  rows.filter fun row => Full (present row)

def fullCount
    (shapes : List (G → Bool)) :
    Nat :=
  shapes.countP fun shape => Full shape

theorem length_fullRows
    (rows : List (GapRow G V)) :
    (fullRows rows).length =
      fullCount (rows.map present) := by
  rw [fullRows, ← List.countP_eq_length_filter, fullCount,
    List.countP_map]
  rfl

/- Rows without gaps have a value in every column. -/
theorem fullCount_le_valueCount
    (shapes : List (G → Bool))
    (g : G) :
    fullCount shapes ≤ valueCount shapes g := by
  apply List.countP_mono_left
  intro shape _ hFull
  exact of_decide_eq_true hFull g

/- Rows that are full or empty count the same everywhere. -/
theorem valueCount_eq_fullCount
    {shapes : List (G → Bool)}
    (hWhole :
      ∀ shape ∈ shapes, Full shape ∨ ∀ g, shape g = false)
    (g : G) :
    valueCount shapes g = fullCount shapes := by
  apply List.countP_congr
  intro shape hMem
  rcases hWhole shape hMem with hFull | hEmpty
  · simp [hFull, hFull g]
  · have hNotFull : ¬ Full shape := by
      intro hFull
      have hValue := hFull g
      rw [hEmpty g] at hValue
      cases hValue
    simp [hEmpty g, hNotFull]

variable [Nonempty G]

/- The length of the shortest column. -/
def shortest
    (capacity : Nat)
    (shapes : List (G → Bool)) :
    Nat :=
  Finset.univ.inf' Finset.univ_nonempty
    (kept capacity shapes)

theorem shortest_le
    (capacity : Nat)
    (shapes : List (G → Bool))
    (g : G) :
    shortest capacity shapes ≤ kept capacity shapes g :=
  Finset.inf'_le _ (Finset.mem_univ g)

theorem exists_kept_eq_shortest
    (capacity : Nat)
    (shapes : List (G → Bool)) :
    ∃ g, shortest capacity shapes = kept capacity shapes g
    := by
  rcases Finset.exists_mem_eq_inf' Finset.univ_nonempty
      (kept capacity shapes) with ⟨g, _, hShortest⟩
  exact ⟨g, hShortest⟩

/-
  The columns zipped by index, as far as the shortest one
  goes; the last `n` rows of them.
-/
def zipped
    (capacity n : Nat)
    (rows : List (GapRow G V)) :
    List (GapRow G V) :=
  let length := shortest capacity (rows.map present)
  (List.range' (length - n) (min n length)).map
    fun index g => ((column rows g).rtake capacity)[index]?

/-
  Each of the last rows is a row without gaps, since which
  every column has got as many values as there came rows
  without gaps, and those that it has more than the
  shortest column.
-/
def Aligned
    (capacity n : Nat)
    (shapes : List (G → Bool)) :
    Prop :=
  ∀ later < min n (shortest capacity shapes),
    ∃ front shape back,
      shapes = front ++ shape :: back ∧
        Full shape ∧
        fullCount back = later ∧
        ∀ g,
          valueCount back g + shortest capacity shapes =
            kept capacity shapes g + later

end Library

------------------------------------------------------------
-- Aligned Columns
------------------------------------------------------------

namespace Library

variable {G V : Type} [Fintype G] [Nonempty G]
variable {capacity n : Nat}
variable {rows : List (GapRow G V)}

@[simp] theorem length_zipped :
    (zipped capacity n rows).length =
      min n (shortest capacity (rows.map present)) := by
  simp [zipped]

/- No zipped row reaches beyond a column. -/
theorem full_of_mem_zipped
    {row : GapRow G V}
    (hMem : row ∈ zipped capacity n rows) :
    Full (present row) := by
  rcases List.mem_map.mp hMem with ⟨index, hIndex, rfl⟩
  intro g
  have hShortest :=
    shortest_le capacity (rows.map present) g
  have hBelow := (List.mem_range'_1.mp hIndex).2
  rw [← length_column_rtake] at hShortest
  rw [present, List.getElem?_eq_getElem (by omega)]
  rfl

/- A zipped row takes one value from each column's end. -/
theorem fromEnd_zipped
    {later : Nat}
    (hLater :
      later < min n (shortest capacity (rows.map present))) :
    fromEnd (zipped capacity n rows) later =
      some fun g =>
        fromEnd (column rows g)
          (kept capacity (rows.map present) g -
              shortest capacity (rows.map present) +
            later) := by
  have hIndex :
      shortest capacity (rows.map present) - n +
          1 * (min n (shortest capacity (rows.map present)) -
            1 - later) =
        shortest capacity (rows.map present) - 1 - later := by
    omega
  rw [fromEnd, List.getElem?_reverse (by simpa using hLater),
    length_zipped, zipped, List.getElem?_map,
    List.getElem?_range' (by omega), Option.map_some, hIndex]
  congr 1
  funext g
  have hShortest :=
    shortest_le capacity (rows.map present) g
  have hKept := length_column_rtake capacity rows g
  have hCapacity :
      kept capacity (rows.map present) g ≤ capacity :=
    Nat.min_le_left _ _
  rw [getElem?_eq_fromEnd (by omega), hKept,
    fromEnd_rtake _ (by omega)]
  congr 1
  omega

/- An aligned row is a row that had no gap. -/
theorem fromEnd_zipped_of_aligned
    (hAligned : Aligned capacity n (rows.map present))
    {later : Nat}
    (hLater :
      later < min n (shortest capacity (rows.map present))) :
    ∃ row,
      fromEnd (zipped capacity n rows) later = some row ∧
        fromEnd (fullRows rows) later = some row := by
  rcases hAligned later hLater with
    ⟨front, shape, back, hSplit, hFull, hBack, hSince⟩
  rcases List.map_eq_append_iff.mp hSplit with
    ⟨before, rest, hRows, _, hRest⟩
  rcases List.map_eq_cons_iff.mp hRest with
    ⟨row, after, rfl, rfl, rfl⟩
  refine ⟨row, ?_, ?_⟩
  · rw [fromEnd_zipped hLater]
    congr 1
    funext g
    rcases Option.isSome_iff_exists.mp (hFull g) with
      ⟨value, hValue⟩
    have hShortest :=
      shortest_le capacity (rows.map present) g
    have hLength := length_column after g
    have hCount := hSince g
    rw [hValue]
    apply fromEnd_filterMap_iff.mpr
    refine ⟨before, row, after, hRows, hValue, ?_⟩
    rw [column] at hLength
    omega
  · apply fromEnd_filter_iff.mpr
    refine
      ⟨before, after, hRows, decide_eq_true hFull, ?_⟩
    rw [← hBack]
    exact length_fullRows after

/- Aligned columns give back the newest full rows. -/
theorem zipped_eq_of_aligned
    (hAligned : Aligned capacity n (rows.map present)) :
    zipped capacity n rows =
      (fullRows rows).rtake (min n capacity) := by
  have hFits :
      shortest capacity (rows.map present) ≤ capacity := by
    rcases exists_kept_eq_shortest capacity
        (rows.map present) with ⟨g, hShortest⟩
    rw [hShortest]
    exact Nat.min_le_left _ _
  have hFull :
      min capacity (fullRows rows).length ≤
        shortest capacity (rows.map present) := by
    rcases exists_kept_eq_shortest capacity
        (rows.map present) with ⟨g, hShortest⟩
    rw [hShortest, length_fullRows]
    exact
      min_le_min_left _
        (fullCount_le_valueCount (rows.map present) g)
  have hEnough :
      min n (shortest capacity (rows.map present)) ≤
        (fullRows rows).length := by
    by_contra hFewer
    have hBelow :
        (fullRows rows).length <
          min n (shortest capacity (rows.map present)) := by
      omega
    rcases fromEnd_zipped_of_aligned hAligned hBelow with
      ⟨row, _, hRow⟩
    rw [fromEnd, List.getElem?_eq_none
      (by rw [List.length_reverse])] at hRow
    cases hRow
  apply ext_fromEnd
  · rw [length_zipped, length_rtake]
    omega
  · intro later hLater
    rw [length_zipped] at hLater
    rcases fromEnd_zipped_of_aligned hAligned hLater with
      ⟨row, hZipped, hRow⟩
    rw [hZipped, fromEnd_rtake _ (by omega), hRow]

/- Without partly missing rows the columns stay aligned. -/
theorem aligned_of_full_or_empty
    (capacity n : Nat)
    {shapes : List (G → Bool)}
    (hWhole :
      ∀ shape ∈ shapes, Full shape ∨ ∀ g, shape g = false) :
    Aligned capacity n shapes := by
  have hKept :
      ∀ g, kept capacity shapes g =
        min capacity (fullCount shapes) := by
    intro g
    rw [kept, valueCount_eq_fullCount hWhole]
  have hShortest :
      shortest capacity shapes =
        min capacity (fullCount shapes) := by
    rcases exists_kept_eq_shortest capacity shapes with
      ⟨g, hShortest⟩
    rw [hShortest, hKept]
  intro later hLater
  have hCount :
      later <
        (shapes.filter fun shape => Full shape).length := by
    rw [← List.countP_eq_length_filter, ← fullCount]
    omega
  rcases exists_fromEnd hCount with ⟨shape, hShape⟩
  rcases fromEnd_filter_iff.mp hShape with
    ⟨front, back, rfl, hFull, hBack⟩
  rw [← List.countP_eq_length_filter, ← fullCount] at hBack
  refine
    ⟨front, shape, back, rfl, of_decide_eq_true hFull,
      hBack, ?_⟩
  intro g
  have hLater :
      ∀ other ∈ back,
        Full other ∨ ∀ g, other g = false := by
    intro other hMem
    apply hWhole
    exact
      List.mem_append_right _ (List.mem_cons_of_mem _ hMem)
  rw [valueCount_eq_fullCount hLater, hBack, hShortest,
    hKept, Nat.add_comm]

end Library

------------------------------------------------------------
-- Columns out of Line
------------------------------------------------------------

namespace Library

variable {G V : Type}
variable {label : Nat → V}
variable {shapes : List (G → Bool)}

/- Rows of the given shapes whose values are all their own. -/
def labelled
    (label : Nat → V)
    (shapes : List (G → Bool)) :
    List (GapRow G V) :=
  shapes.mapIdx fun position shape g =>
    if shape g then some (label position) else none

theorem present_labelled :
    (labelled label shapes).map present = shapes := by
  apply List.ext_getElem?
  intro position
  rw [labelled, List.getElem?_map, List.getElem?_mapIdx]
  cases shapes[position]? with
  | none => rfl
  | some shape =>
      simp only [Option.map_some, Option.some.injEq]
      funext g
      cases hShape : shape g with
      | true => simp [present, hShape]
      | false => simp [present, hShape]

/- The values of a row tell its position. -/
theorem label_of_split
    {front back : List (GapRow G V)}
    {row : GapRow G V}
    (hSplit : labelled label shapes = front ++ row :: back)
    {g : G}
    {value : V}
    (hValue : row g = some value) :
    value = label front.length := by
  have hRow : (labelled label shapes)[front.length]? =
      some row := by
    rw [hSplit]
    simp
  rw [labelled, List.getElem?_mapIdx] at hRow
  rcases Option.map_eq_some_iff.mp hRow with
    ⟨shape, _, rfl⟩
  simp only [Option.ite_none_right_eq_some,
    Option.some.injEq] at hValue
  exact hValue.2.symm

variable [Fintype G] [Nonempty G]
variable {capacity n count : Nat}

/-
  Where all values are different, the zipped rows are the
  newest full rows only of aligned columns.
-/
theorem aligned_of_zipped_eq
    (hLabel : Function.Injective label)
    (hZipped :
      zipped capacity n (labelled label shapes) =
        (fullRows (labelled label shapes)).rtake count) :
    Aligned capacity n shapes := by
  have hShapes :
      (labelled label shapes).map present = shapes :=
    present_labelled
  intro later hLater
  rw [← hShapes] at hLater
  have hTaken :
      later <
        ((fullRows (labelled label shapes)).rtake
          count).length := by
    rw [← hZipped, length_zipped]
    exact hLater
  rw [length_rtake] at hTaken
  have hRow := fromEnd_zipped hLater
  rw [hZipped, fromEnd_rtake _ (by omega)] at hRow
  rcases fromEnd_filter_iff.mp hRow with
    ⟨front, back, hSplit, hFull, hBack⟩
  have hFull := of_decide_eq_true hFull
  refine
    ⟨front.map present, _, back.map present, ?_, hFull, ?_,
      ?_⟩
  · rw [← List.map_cons, ← List.map_append, ← hSplit,
      hShapes]
  · rw [← hBack]
    exact (length_fullRows back).symm
  · intro g
    rcases Option.isSome_iff_exists.mp (hFull g) with
      ⟨value, hValue⟩
    rcases fromEnd_filterMap_iff.mp hValue with
      ⟨before, row, after, hOther, hSame, hAfter⟩
    have hPosition : front.length = before.length := by
      apply hLabel
      rw [← label_of_split hSplit hValue,
        ← label_of_split hOther hSame]
    have hRest :=
      (List.append_inj (hSplit.symm.trans hOther)
        hPosition).2
    rw [(List.cons.inj hRest).2, ← length_column, column,
      hAfter, hShapes]
    have hShortest := shortest_le capacity shapes g
    omega

/-
  Whatever the values are, the zipped rows are the newest
  full rows exactly if the columns are aligned.
-/
theorem zipped_eq_iff
    (hLabel : Function.Injective label) :
    (∀ rows : List (GapRow G V),
        rows.map present = shapes →
          zipped capacity n rows =
            (fullRows rows).rtake (min n capacity)) ↔
      Aligned capacity n shapes := by
  constructor
  · intro hAll
    exact
      aligned_of_zipped_eq hLabel
        (hAll (labelled label shapes) present_labelled)
  · rintro hAligned rows rfl
    exact zipped_eq_of_aligned hAligned

end Library
