import Mathlib.Data.List.Basic
import Mathlib.Data.List.Nodup

/-
  Iteration by position over a list that others change.

  Main definitions include:
    * `Library.Cursor`
    * `Library.Cursor.advance`
    * `Library.Cursor.Clear`
    * `Library.Cursor.Tracks`

  Main theorems include:
    * `Library.idxOf_erase_bounds`
    * `Library.Cursor.Tracks.push`
    * `Library.Cursor.Tracks.erase`
    * `Library.Cursor.Tracks.advance`
    * `Library.Cursor.Tracks.count_eq_one`

  The iteration keeps a position and no more.  An item that
  is removed at or before the position pulls the items
  behind it forward, and the next one is skipped.
-/

------------------------------------------------------------
-- Positions
------------------------------------------------------------

namespace Library

variable {A : Type} [DecidableEq A]

/- Removing an item moves another by at most one place. -/
theorem idxOf_erase_bounds
    (items : List A)
    {item gone : A}
    (hNe : item ≠ gone) :
    (items.erase gone).idxOf item ≤ items.idxOf item ∧
      items.idxOf item ≤
        (items.erase gone).idxOf item + 1 ∧
      (items.idxOf item < items.idxOf gone →
        (items.erase gone).idxOf item =
          items.idxOf item) := by
  induction items with
  | nil => simp
  | cons first items ih =>
      by_cases hGone : first = gone
      · subst hGone
        rw [List.erase_cons_head,
          List.idxOf_cons_ne _ hNe.symm,
          List.idxOf_cons_self]
        omega
      · have hErase :
            (first :: items).erase gone =
              first :: items.erase gone :=
          List.erase_cons_tail (by simpa using hGone)
        rw [hErase, List.idxOf_cons_ne items hGone]
        by_cases hItem : first = item
        · subst hItem
          rw [List.idxOf_cons_self, List.idxOf_cons_self]
          omega
        · rw [List.idxOf_cons_ne _ hItem,
            List.idxOf_cons_ne _ hItem]
          omega

end Library

------------------------------------------------------------
-- Cursors
------------------------------------------------------------

namespace Library

variable {A : Type} [DecidableEq A]

/- The position, and the items visited, the present last. -/
structure Cursor (A : Type) where
  position : Nat
  visited : List A
  deriving DecidableEq, Repr

namespace Cursor

/- At the first item of a list. -/
def start
    (first : A) :
    Cursor A where
  position := 0
  visited := [first]

/- One position on, at the item that is there now. -/
def advance
    (cursor : Cursor A)
    (next : A) :
    Cursor A where
  position := cursor.position + 1
  visited := cursor.visited ++ [next]

/-
  An item can be removed without a skip: it lies behind the
  position, or there is nothing behind the position.
-/
def Clear
    (items : List A)
    (gone : A)
    (cursor : Cursor A) :
    Prop :=
  cursor.position < items.idxOf gone ∨
    items.length ≤ cursor.position + 1

instance
    (items : List A)
    (gone : A) :
    DecidablePred (Clear items gone) :=
  fun _ => inferInstanceAs (Decidable (_ ∨ _))

/-
  The cursor has visited nothing twice, nothing that is
  still to come, and everything it has passed that stays.
-/
structure Tracks
    (items : List A)
    (stays : A → Prop)
    (cursor : Cursor A) :
    Prop where
  nodup : cursor.visited.Nodup
  behind :
    ∀ item ∈ cursor.visited, item ∈ items →
      items.idxOf item ≤ cursor.position
  passed :
    ∀ item ∈ items, stays item →
      items.idxOf item ≤ cursor.position →
        item ∈ cursor.visited

variable {items : List A}
variable {stays : A → Prop}
variable {cursor : Cursor A}

theorem Tracks.start
    (first : A)
    (rest : List A)
    (stays : A → Prop) :
    (Cursor.start first).Tracks (first :: rest) stays where
  nodup := List.nodup_singleton first
  behind := by
    intro item hItem _
    rw [List.mem_singleton.mp hItem, List.idxOf_cons_self]
    exact Nat.le_refl 0
  passed := by
    intro item _ _ hLe
    have hZero : (first :: rest).idxOf item = 0 :=
      Nat.le_zero.mp hLe
    by_cases hFirst : first = item
    · exact List.mem_singleton.mpr hFirst.symm
    · rw [List.idxOf_cons_ne rest hFirst] at hZero
      cases hZero

/- Fewer items may stay. -/
theorem Tracks.mono
    {fewer : A → Prop}
    (hTracks : cursor.Tracks items stays)
    (hFewer : ∀ item, fewer item → stays item) :
    cursor.Tracks items fewer where
  nodup := hTracks.nodup
  behind := hTracks.behind
  passed := by
    intro item hItem hStays hLe
    exact hTracks.passed item hItem (hFewer item hStays) hLe

/- A new item at the end need not be visited. -/
theorem Tracks.push
    {new : A}
    (hTracks : cursor.Tracks items stays)
    (hNew : new ∉ cursor.visited)
    (hNot : ¬ stays new) :
    cursor.Tracks (items ++ [new]) stays where
  nodup := hTracks.nodup
  behind := by
    intro item hVisited hItem
    rcases List.mem_append.mp hItem with hOld | hLast
    · rw [List.idxOf_append_of_mem hOld]
      exact hTracks.behind item hVisited hOld
    · rw [List.mem_singleton.mp hLast] at hVisited
      exact absurd hVisited hNew
  passed := by
    intro item hItem hStays hLe
    rcases List.mem_append.mp hItem with hOld | hLast
    · rw [List.idxOf_append_of_mem hOld] at hLe
      exact hTracks.passed item hOld hStays hLe
    · rw [List.mem_singleton.mp hLast] at hStays
      exact absurd hStays hNot

/- A removal that is clear of the cursor skips nothing. -/
theorem Tracks.erase
    {gone : A}
    (hTracks : cursor.Tracks items stays)
    (hNodup : items.Nodup)
    (hClear : cursor.Clear items gone) :
    cursor.Tracks (items.erase gone) stays where
  nodup := hTracks.nodup
  behind := by
    intro item hVisited hItem
    rcases (List.Nodup.mem_erase_iff hNodup).mp hItem with
      ⟨hNe, hOld⟩
    have hBounds := idxOf_erase_bounds items hNe
    have hLe := hTracks.behind item hVisited hOld
    omega
  passed := by
    intro item hItem hStays hLe
    rcases (List.Nodup.mem_erase_iff hNodup).mp hItem with
      ⟨hNe, hOld⟩
    have hBounds := idxOf_erase_bounds items hNe
    have hLt := List.idxOf_lt_length_of_mem hOld
    apply hTracks.passed item hOld hStays
    by_contra hAhead
    rcases hClear with hBehind | hLast
    · have hPlace :
          items.idxOf item ≠ items.idxOf gone := by
        intro hSame
        exact hNe ((List.idxOf_inj hOld).mp hSame)
      omega
    · omega

/- The next item has not been visited. -/
theorem Tracks.advance
    {next : A}
    (hTracks : cursor.Tracks items stays)
    (hNodup : items.Nodup)
    (hNext : items[cursor.position + 1]? = some next) :
    (cursor.advance next).Tracks items stays := by
  rcases List.getElem?_eq_some_iff.mp hNext with
    ⟨hLt, hGet⟩
  have hPlace :
      items.idxOf next = cursor.position + 1 := by
    rw [← hGet]
    exact hNodup.idxOf_getElem _ hLt
  have hMem : next ∈ items := by
    rw [← hGet]
    exact List.getElem_mem hLt
  refine ⟨?_, ?_, ?_⟩
  · have hNew : next ∉ cursor.visited := by
      intro hVisited
      have hLe := hTracks.behind next hVisited hMem
      omega
    exact
      hTracks.nodup.append (List.nodup_singleton next)
        (by simpa using hNew)
  · intro item hVisited hItem
    change items.idxOf item ≤ cursor.position + 1
    rcases List.mem_append.mp hVisited with hOld | hLast
    · have hLe := hTracks.behind item hOld hItem
      omega
    · rw [List.mem_singleton.mp hLast]
      omega
  · intro item hItem hStays hLe
    have hCases :
        items.idxOf item ≤ cursor.position ∨
          items.idxOf item = items.idxOf next := by
      have hBound :
          items.idxOf item ≤ cursor.position + 1 :=
        hLe
      omega
    rcases hCases with hPassed | hSame
    · exact
        List.mem_append_left _
          (hTracks.passed item hItem hStays hPassed)
    · rw [(List.idxOf_inj hItem).mp hSame]
      exact
        List.mem_append_right _
          (List.mem_singleton.mpr rfl)

/- At the end, what stays has been visited once. -/
theorem Tracks.count_eq_one
    {item : A}
    (hTracks : cursor.Tracks items stays)
    (hEnd : items.length ≤ cursor.position + 1)
    (hItem : item ∈ items)
    (hStays : stays item) :
    cursor.visited.count item = 1 := by
  have hLt := List.idxOf_lt_length_of_mem hItem
  have hVisited :=
    hTracks.passed item hItem hStays (by omega)
  exact List.count_eq_one_of_mem hTracks.nodup hVisited

end Cursor

end Library
