import Mathlib.Data.List.Basic
import Mathlib.Order.Lattice

/-
  Items between their neighbours.

  Main definitions include:
    * `Library.middles`
    * `Library.Beside`

  Main theorems include:
    * `Library.mem_middles_iff_split`
    * `Library.mem_inner_of_mem_middles`
    * `Library.Beside.unique`
    * `Library.mem_middles_iff`
    * `Library.getLast?_eq_some_iff_of_increasing`

  A scan of a list looks at every item with the item before
  it and the item after it.  In an increasing list these
  two are the nearest items on either side, whatever their
  places are.
-/

------------------------------------------------------------
-- Scans
------------------------------------------------------------

namespace Library

variable {A : Type}
variable (P : A → A → A → Prop)
variable [hP : ∀ previous b next,
  Decidable (P previous b next)]

/- The items that `P` selects between their neighbours. -/
def middles : List A → List A
  | previous :: b :: next :: rest =>
      let later := middles (b :: next :: rest)
      if P previous b next then
        b :: later
      else
        later
  | _ => []

theorem middles_sublist
    (items : List A) :
    (middles P items).Sublist items.tail := by
  fun_induction middles P items with
  | case1 previous b next rest later hSelected ih =>
      exact ih.cons_cons b
  | case2 previous b next rest later hSelected ih =>
      exact ih.cons b
  | case3 items hShort => exact List.nil_sublist _

theorem mem_middles_cons
    (previous b next : A)
    (rest : List A)
    (item : A) :
    item ∈ middles P (previous :: b :: next :: rest) ↔
      (item = b ∧ P previous b next) ∨
        item ∈ middles P (b :: next :: rest) := by
  rw [middles]
  by_cases hSelected : P previous b next
  · simp only [if_pos hSelected, List.mem_cons,
      and_iff_left hSelected]
  · rw [if_neg hSelected]
    simp only [hSelected, and_false, false_or]

/- A longer list selects what its tail selects. -/
theorem mem_middles_of_tail
    (first : A)
    {items : List A}
    {item : A}
    (hMem : item ∈ middles P items) :
    item ∈ middles P (first :: items) := by
  cases items with
  | nil => cases hMem
  | cons b rest =>
      cases rest with
      | nil => cases hMem
      | cons next rest =>
          exact
            (mem_middles_cons P ..).mpr (Or.inr hMem)

/- An item is selected at one of its places. -/
theorem mem_middles_iff_split
    (items : List A)
    (item : A) :
    item ∈ middles P items ↔
      ∃ front previous next back,
        items = front ++ previous :: item :: next :: back ∧
          P previous item next := by
  constructor
  · intro hMem
    fun_induction middles P items with
    | case1 previous b next rest later hSelected ih =>
        rcases List.mem_cons.mp hMem with rfl | hLater
        · exact ⟨[], previous, next, rest, rfl, hSelected⟩
        · rcases ih hLater with
            ⟨front, before, after, back, hSplit, hFound⟩
          refine
            ⟨previous :: front, before, after, back, ?_,
              hFound⟩
          rw [hSplit, List.cons_append]
    | case2 previous b next rest later hSelected ih =>
        rcases ih hMem with
          ⟨front, before, after, back, hSplit, hFound⟩
        refine
          ⟨previous :: front, before, after, back, ?_,
            hFound⟩
        rw [hSplit, List.cons_append]
    | case3 items hShort => cases hMem
  · rintro
      ⟨front, previous, next, back, rfl, hSelected⟩
    induction front with
    | nil =>
        exact
          (mem_middles_cons P ..).mpr
            (Or.inl ⟨rfl, hSelected⟩)
    | cons first front ih =>
        exact mem_middles_of_tail P first ih

/- Neither end of a list is selected. -/
theorem mem_inner_of_mem_middles
    {first last item : A}
    {inner : List A}
    (hMem :
      item ∈ middles P (first :: (inner ++ [last]))) :
    item ∈ inner := by
  rcases (mem_middles_iff_split P _ item).mp hMem with
    ⟨front, previous, next, back, hSplit, -⟩
  have hInner :
      inner =
        List.dropLast
          (front ++ previous :: item :: next :: back).tail := by
    rw [← hSplit, List.tail_cons, List.dropLast_concat]
  rw [hInner]
  cases front with
  | nil => simp
  | cons second front => simp

end Library

------------------------------------------------------------
-- Nearest Items
------------------------------------------------------------

namespace Library

variable {A : Type}
variable [LinearOrder A]

/- The nearest items of a list below and above `b`. -/
structure Beside
    (items : List A)
    (previous b next : A) :
    Prop where
  previous_mem : previous ∈ items
  previous_lt : previous < b
  le_previous : ∀ item ∈ items, item < b → item ≤ previous
  next_mem : next ∈ items
  lt_next : b < next
  next_le : ∀ item ∈ items, b < item → next ≤ item

theorem Beside.unique
    {items : List A}
    {b previous next previous' next' : A}
    (hBeside : Beside items previous b next)
    (hOther : Beside items previous' b next') :
    previous = previous' ∧ next = next' := by
  constructor
  · apply le_antisymm
    · exact
        hOther.le_previous previous hBeside.previous_mem
          hBeside.previous_lt
    · exact
        hBeside.le_previous previous' hOther.previous_mem
          hOther.previous_lt
  · apply le_antisymm
    · exact
        hBeside.next_le next' hOther.next_mem hOther.lt_next
    · exact
        hOther.next_le next hBeside.next_mem hBeside.lt_next

/- Neighbours in an increasing list are the nearest items. -/
theorem beside_of_split
    {front back : List A}
    {previous b next : A}
    (hIncreasing :
      (front ++ previous :: b :: next :: back).Pairwise
        (· < ·)) :
    Beside (front ++ previous :: b :: next :: back)
      previous b next := by
  have hParts := List.pairwise_append.mp hIncreasing
  have hPrevious := List.pairwise_cons.mp hParts.2.1
  have hMiddle := List.pairwise_cons.mp hPrevious.2
  have hNext := List.pairwise_cons.mp hMiddle.2
  have hFront :
      ∀ item ∈ front, item < previous :=
    fun item hItem =>
      hParts.2.2 item hItem previous List.mem_cons_self
  have hPreviousLt : previous < b :=
    hPrevious.1 b List.mem_cons_self
  have hLtNext : b < next :=
    hMiddle.1 next List.mem_cons_self
  refine
    ⟨by simp, hPreviousLt, ?_, by simp, hLtNext, ?_⟩
  · intro item hMem hBelow
    simp only [List.mem_append, List.mem_cons] at hMem
    rcases hMem with
      hItem | rfl | rfl | rfl | hItem
    · exact (hFront item hItem).le
    · exact le_rfl
    · exact absurd hBelow (lt_irrefl _)
    · exact absurd hBelow hLtNext.asymm
    · exact
        absurd hBelow
          (hLtNext.trans (hNext.1 item hItem)).asymm
  · intro item hMem hAbove
    simp only [List.mem_append, List.mem_cons] at hMem
    rcases hMem with
      hItem | rfl | rfl | rfl | hItem
    · exact
        absurd hAbove
          ((hFront item hItem).trans hPreviousLt).asymm
    · exact absurd hAbove hPreviousLt.asymm
    · exact absurd hAbove (lt_irrefl _)
    · exact le_rfl
    · exact (hNext.1 item hItem).le

/- An item with others on either side has neighbours. -/
theorem exists_split
    {items : List A}
    {previous b next : A}
    (hIncreasing : items.Pairwise (· < ·))
    (hMem : b ∈ items)
    (hBeside : Beside items previous b next) :
    ∃ front back,
      items = front ++ previous :: b :: next :: back := by
  rcases List.append_of_mem hMem with
    ⟨before, after, rfl⟩
  have hParts := List.pairwise_append.mp hIncreasing
  have hAfter := List.pairwise_cons.mp hParts.2.1
  have hBefore : before ≠ [] := by
    rintro rfl
    rcases List.mem_cons.mp hBeside.previous_mem with
      hSame | hLater
    · exact hBeside.previous_lt.ne hSame
    · exact
        hBeside.previous_lt.asymm (hAfter.1 previous hLater)
  have hNonempty : after ≠ [] := by
    rintro rfl
    rcases List.mem_append.mp hBeside.next_mem with
      hEarlier | hSame
    · exact
        hBeside.lt_next.asymm
          (hParts.2.2 next hEarlier b List.mem_cons_self)
    · exact
        hBeside.lt_next.ne (List.mem_singleton.mp hSame).symm
  rcases List.eq_nil_or_concat before with
    hNil | ⟨front, last, rfl⟩
  · exact absurd hNil hBefore
  · cases after with
    | nil => exact absurd rfl hNonempty
    | cons first back =>
        rw [List.concat_eq_append, List.append_assoc,
          List.singleton_append] at hIncreasing hBeside ⊢
        have hSame :=
          hBeside.unique (beside_of_split hIncreasing)
        refine ⟨front, back, ?_⟩
        rw [hSame.1, hSame.2]

/-
  A scan of an increasing list selects an item by the
  nearest ones on either side.
-/
theorem mem_middles_iff
    (P : A → A → A → Prop)
    [∀ previous b next, Decidable (P previous b next)]
    {items : List A}
    (hIncreasing : items.Pairwise (· < ·))
    (b : A) :
    b ∈ middles P items ↔
      b ∈ items ∧
        ∃ previous next,
          Beside items previous b next ∧
            P previous b next := by
  rw [mem_middles_iff_split]
  constructor
  · rintro
      ⟨front, previous, next, back, rfl, hSelected⟩
    refine
      ⟨by simp, previous, next, ?_, hSelected⟩
    exact beside_of_split hIncreasing
  · rintro ⟨hMem, previous, next, hBeside, hSelected⟩
    rcases exists_split hIncreasing hMem hBeside with
      ⟨front, back, hSplit⟩
    exact
      ⟨front, previous, next, back, hSplit, hSelected⟩

/- The last item of an increasing list is its greatest. -/
theorem getLast?_eq_some_iff_of_increasing
    {items : List A}
    (hIncreasing : items.Pairwise (· < ·))
    (last : A) :
    items.getLast? = some last ↔
      last ∈ items ∧ ∀ item ∈ items, item ≤ last := by
  constructor
  · intro hLast
    rcases List.getLast?_eq_some_iff.mp hLast with
      ⟨front, rfl⟩
    refine ⟨by simp, ?_⟩
    intro item hMem
    rcases List.mem_append.mp hMem with hFront | hSame
    · have hParts := List.pairwise_append.mp hIncreasing
      exact
        (hParts.2.2 item hFront last
          List.mem_cons_self).le
    · exact (List.mem_singleton.mp hSame).le
  · rintro ⟨hMem, hGreatest⟩
    rcases List.append_of_mem hMem with
      ⟨front, back, rfl⟩
    have hParts := List.pairwise_append.mp hIncreasing
    have hAfter := List.pairwise_cons.mp hParts.2.1
    cases back with
    | nil => simp
    | cons next back =>
        have hNext := hAfter.1 next List.mem_cons_self
        exact
          absurd hNext (hGreatest next (by simp)).not_gt

end Library
