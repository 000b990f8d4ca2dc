import Mathlib.Order.Lattice
import Mathlib.Data.List.Basic
import Mathlib.Data.List.Range

/-
  Append-only tables with rows named by position.

  Main definitions include:
    * `Library.Table`
    * `Library.Table.insert`
    * `Library.Table.modify`
    * `Library.Table.ids`
    * `Library.Table.AtMostOne`
    * `Library.Table.Within`
    * `Library.Table.SameOn`
    * `Library.Table.newest?`
    * `Library.Table.IsNewest`

  Main theorems include:
    * `Library.Table.get?_insert`
    * `Library.Table.get?_modify`
    * `Library.Table.mem_ids_iff`
    * `Library.Table.newest?_eq_some_iff`
    * `Library.Table.newest?_eq_none_iff`

  A table hands out consecutive ids and never deletes a
  row.  The newest row of a selection is the one with the
  greatest key; rows with equal keys are ordered by id, so
  the row inserted later is the newer one.
-/

------------------------------------------------------------
-- Tables
------------------------------------------------------------

namespace Library

/- A table of rows; the id of a row is its position. -/
structure Table (R : Type) where
  rows : List R
  deriving DecidableEq, Repr

namespace Table

variable {R : Type}

/- The table without rows. -/
def empty : Table R :=
  ⟨[]⟩

/- The row with the given id. -/
def get?
    (table : Table R)
    (id : Nat) :
    Option R :=
  table.rows[id]?

/- The id that the next inserted row will get. -/
def nextId
    (table : Table R) :
    Nat :=
  table.rows.length

/- Append one row. -/
def insert
    (table : Table R)
    (row : R) :
    Table R :=
  ⟨table.rows ++ [row]⟩

/- Replace the row with the given id by its image. -/
def modify
    (table : Table R)
    (id : Nat)
    (f : R → R) :
    Table R :=
  ⟨table.rows.modify id f⟩

/- Replace every selected row by its image. -/
def modifyWhere
    (table : Table R)
    (p : R → Prop)
    [DecidablePred p]
    (f : R → R) :
    Table R :=
  ⟨table.rows.map fun row => if p row then f row else row⟩

@[simp] theorem get?_empty
    (id : Nat) :
    (empty : Table R).get? id = none := by
  simp [empty, get?]

/- The rows are what the ids name. -/
theorem mem_rows_iff
    (table : Table R)
    (row : R) :
    row ∈ table.rows ↔
      ∃ id, table.get? id = some row :=
  List.mem_iff_getElem?

/- Only ids below `nextId` name rows. -/
theorem lt_nextId_of_get?
    {table : Table R}
    {id : Nat}
    {row : R}
    (hGet : table.get? id = some row) :
    id < table.nextId := by
  rcases List.getElem?_eq_some_iff.mp hGet with ⟨hLt, _⟩
  exact hLt

theorem get?_insert
    (table : Table R)
    (row : R)
    (id : Nat) :
    (table.insert row).get? id =
      if id = table.nextId then some row
      else table.get? id := by
  by_cases hEq : id = table.nextId
  · subst hEq
    simp [insert, get?, nextId]
  · rw [if_neg hEq]
    rcases Nat.lt_or_gt_of_ne hEq with hLt | hGt
    · exact List.getElem?_append_left hLt
    · have hLength : table.rows.length < id := hGt
      simp only [insert, get?]
      rw [List.getElem?_eq_none (by simp; omega),
        List.getElem?_eq_none (by omega)]

/- Inserting keeps the rows that were there. -/
theorem get?_insert_of_get?
    {table : Table R}
    {id : Nat}
    {old : R}
    (hGet : table.get? id = some old)
    (row : R) :
    (table.insert row).get? id = some old := by
  have hLt : id < table.nextId := lt_nextId_of_get? hGet
  rw [get?_insert, if_neg (Nat.ne_of_lt hLt), hGet]

@[simp] theorem get?_insert_nextId
    (table : Table R)
    (row : R) :
    (table.insert row).get? table.nextId = some row := by
  simp [get?_insert]

theorem get?_modify
    (table : Table R)
    (target : Nat)
    (f : R → R)
    (id : Nat) :
    (table.modify target f).get? id =
      if target = id then (table.get? id).map f
      else table.get? id := by
  simp only [modify, get?, List.getElem?_modify]
  by_cases hEq : target = id
  · simp [hEq]
  · simp [hEq]

@[simp] theorem get?_modify_self
    (table : Table R)
    (id : Nat)
    (f : R → R) :
    (table.modify id f).get? id = (table.get? id).map f := by
  simp [get?_modify]

theorem get?_modify_of_ne
    (table : Table R)
    {target id : Nat}
    (f : R → R)
    (hNe : target ≠ id) :
    (table.modify target f).get? id = table.get? id := by
  simp [get?_modify, hNe]

@[simp] theorem nextId_insert
    (table : Table R)
    (row : R) :
    (table.insert row).nextId = table.nextId + 1 := by
  simp [insert, nextId]

@[simp] theorem nextId_modify
    (table : Table R)
    (id : Nat)
    (f : R → R) :
    (table.modify id f).nextId = table.nextId := by
  simp [modify, nextId]

@[simp] theorem get?_modifyWhere
    (table : Table R)
    (p : R → Prop)
    [DecidablePred p]
    (f : R → R)
    (id : Nat) :
    (table.modifyWhere p f).get? id =
      (table.get? id).map
        fun row => if p row then f row else row := by
  simp [modifyWhere, get?]

end Table

end Library

------------------------------------------------------------
-- Selected Rows
------------------------------------------------------------

namespace Library

namespace Table

variable {R : Type}

/- The ids of the selected rows, in order. -/
def ids
    (table : Table R)
    (p : R → Prop)
    [DecidablePred p] :
    List Nat :=
  (List.range table.nextId).filter fun id =>
    (table.get? id).any fun row => decide (p row)

variable {table : Table R}
variable {p : R → Prop} [DecidablePred p]

theorem mem_ids_iff
    (id : Nat) :
    id ∈ table.ids p ↔
      ∃ row, table.get? id = some row ∧ p row := by
  simp only [ids, List.mem_filter, List.mem_range]
  constructor
  · rintro ⟨_, hAny⟩
    cases hGet : table.get? id with
    | none => simp [hGet] at hAny
    | some row =>
        exact ⟨row, rfl, by simpa [hGet] using hAny⟩
  · rintro ⟨row, hGet, hRow⟩
    exact ⟨lt_nextId_of_get? hGet, by simp [hGet, hRow]⟩

theorem ids_eq_nil_iff :
    table.ids p = [] ↔
      ∀ id row, table.get? id = some row → ¬ p row := by
  rw [List.eq_nil_iff_forall_not_mem]
  constructor
  · intro hNone id row hGet hRow
    exact hNone id ((mem_ids_iff id).mpr ⟨row, hGet, hRow⟩)
  · intro hNone id hMem
    rcases (mem_ids_iff id).mp hMem with ⟨row, hGet, hRow⟩
    exact hNone id row hGet hRow

/- The selection has at most one row. -/
def AtMostOne
    (table : Table R)
    (p : R → Prop) :
    Prop :=
  ∀ left right leftRow rightRow,
    table.get? left = some leftRow →
    table.get? right = some rightRow →
    p leftRow →
    p rightRow →
    left = right

/- Every selected row was selected at its id before. -/
def Within
    (p : R → Prop)
    (after before : Table R) :
    Prop :=
  ∀ id row,
    after.get? id = some row →
    p row →
    ∃ earlier, before.get? id = some earlier ∧ p earlier

omit [DecidablePred p] in
theorem Within.refl
    (table : Table R) :
    Within p table table := by
  intro id row hGet hRow
  exact ⟨row, hGet, hRow⟩

omit [DecidablePred p] in
theorem Within.trans
    {after middle before : Table R}
    (hLate : Within p after middle)
    (hEarly : Within p middle before) :
    Within p after before := by
  intro id row hGet hRow
  rcases hLate id row hGet hRow with ⟨mid, hMid, hMidRow⟩
  exact hEarly id mid hMid hMidRow

/- No second row enters a selection that only shrinks. -/
omit [DecidablePred p] in
theorem Within.atMostOne
    {after before : Table R}
    (hWithin : Within p after before)
    (hOne : before.AtMostOne p) :
    after.AtMostOne p := by
  intro left right leftRow rightRow
    hLeft hRight hLeftRow hRightRow
  rcases hWithin left leftRow hLeft hLeftRow with
    ⟨leftOld, hLeftOld, hLeftOldRow⟩
  rcases hWithin right rightRow hRight hRightRow with
    ⟨rightOld, hRightOld, hRightOldRow⟩
  exact
    hOne left right leftOld rightOld
      hLeftOld hRightOld hLeftOldRow hRightOldRow

omit [DecidablePred p] in
theorem Within.none
    {after before : Table R}
    (hWithin : Within p after before)
    (hNone :
      ∀ id row, before.get? id = some row → ¬ p row) :
    ∀ id row, after.get? id = some row → ¬ p row := by
  intro id row hGet hRow
  rcases hWithin id row hGet hRow with
    ⟨earlier, hEarlier, hEarlierRow⟩
  exact hNone id earlier hEarlier hEarlierRow

omit [DecidablePred p] in
theorem within_insert
    {new : R}
    (hNew : ¬ p new) :
    Within p (table.insert new) table := by
  intro id row hGet hRow
  rw [get?_insert] at hGet
  by_cases hId : id = table.nextId
  · rw [if_pos hId] at hGet
    exact absurd (Option.some.inj hGet ▸ hRow) hNew
  · rw [if_neg hId] at hGet
    exact ⟨row, hGet, hRow⟩

/- A new row is alone in a selection that was empty. -/
omit [DecidablePred p] in
theorem atMostOne_insert_of_none
    (hNone : ∀ id row, table.get? id = some row → ¬ p row)
    (new : R) :
    (table.insert new).AtMostOne p := by
  have hOnly :
      ∀ id row,
        (table.insert new).get? id = some row →
        p row →
        id = table.nextId := by
    intro id row hGet hRow
    rw [get?_insert] at hGet
    by_cases hId : id = table.nextId
    · exact hId
    · rw [if_neg hId] at hGet
      exact absurd hRow (hNone id row hGet)
  intro left right leftRow rightRow
    hLeft hRight hLeftRow hRightRow
  rw [hOnly left leftRow hLeft hLeftRow,
    hOnly right rightRow hRight hRightRow]

/- A row of a selection of at most one is the selection. -/
theorem ids_eq_singleton
    {id : Nat}
    {row : R}
    (hOne : table.AtMostOne p)
    (hGet : table.get? id = some row)
    (hRow : p row) :
    table.ids p = [id] := by
  have hMem : id ∈ table.ids p :=
    (mem_ids_iff id).mpr ⟨row, hGet, hRow⟩
  have hAll : ∀ other ∈ table.ids p, other = id := by
    intro other hOther
    rcases (mem_ids_iff other).mp hOther with
      ⟨otherRow, hOtherGet, hOtherRow⟩
    exact
      hOne other id otherRow row
        hOtherGet hGet hOtherRow hRow
  have hNodup : (table.ids p).Nodup :=
    List.nodup_range.filter _
  cases hIds : table.ids p with
  | nil =>
      rw [hIds] at hMem
      cases hMem
  | cons first rest =>
      rw [hIds] at hAll hNodup
      have hFirst := hAll first List.mem_cons_self
      cases rest with
      | nil => rw [hFirst]
      | cons second rest =>
          have hSecond :=
            hAll second
              (List.mem_cons_of_mem first
                List.mem_cons_self)
          rw [hFirst, hSecond] at hNodup
          simp at hNodup

/- The selected rows are the same, at the same ids. -/
def SameOn
    (p : R → Prop)
    (before after : Table R) :
    Prop :=
  ∀ id row,
    p row →
      (before.get? id = some row ↔
        after.get? id = some row)

omit [DecidablePred p] in
theorem sameOn_equivalence :
    Equivalence (SameOn p) where
  refl _ _ _ _ := Iff.rfl
  symm hSame id row hRow := (hSame id row hRow).symm
  trans hFirst hSecond id row hRow :=
    (hFirst id row hRow).trans (hSecond id row hRow)

omit [DecidablePred p] in
theorem SameOn.within
    {before after : Table R}
    (hSame : SameOn p before after) :
    Within p after before := by
  intro id row hGet hRow
  exact ⟨row, (hSame id row hRow).mpr hGet, hRow⟩

/- The same rows have the same ids, in the same order. -/
theorem SameOn.ids_eq
    {before after : Table R}
    (hSame : SameOn p before after) :
    after.ids p = before.ids p := by
  have hOrdered : ∀ table : Table R,
      (table.ids p).Pairwise (· < ·) :=
    fun table => List.pairwise_lt_range.filter _
  have hNodup : ∀ table : Table R, (table.ids p).Nodup :=
    fun table => (hOrdered table).imp Nat.ne_of_lt
  apply List.Perm.eq_of_pairwise
    (fun left right _ _ hLess hGreater =>
      absurd (Nat.lt_trans hLess hGreater)
        (Nat.lt_irrefl left))
    (hOrdered after) (hOrdered before)
  rw [List.perm_ext_iff_of_nodup (hNodup after)
    (hNodup before)]
  intro id
  rw [mem_ids_iff, mem_ids_iff]
  constructor
  · rintro ⟨row, hGet, hRow⟩
    exact ⟨row, (hSame id row hRow).mpr hGet, hRow⟩
  · rintro ⟨row, hGet, hRow⟩
    exact ⟨row, (hSame id row hRow).mp hGet, hRow⟩

/- At most one id makes at most one row. -/
theorem atMostOne_of_ids_length
    (hLength : (table.ids p).length ≤ 1) :
    table.AtMostOne p := by
  intro left right leftRow rightRow
    hLeft hRight hLeftRow hRightRow
  have hLeftMem :=
    (mem_ids_iff left).mpr ⟨leftRow, hLeft, hLeftRow⟩
  have hRightMem :=
    (mem_ids_iff right).mpr ⟨rightRow, hRight, hRightRow⟩
  cases hIds : table.ids p with
  | nil =>
      rw [hIds] at hLeftMem
      cases hLeftMem
  | cons first rest =>
      rw [hIds, List.length_cons] at hLength
      have hRest : rest = [] :=
        List.eq_nil_of_length_eq_zero (by omega)
      rw [hIds, hRest, List.mem_singleton]
        at hLeftMem hRightMem
      rw [hLeftMem, hRightMem]

end Table

end Library

------------------------------------------------------------
-- Newest Rows
------------------------------------------------------------

namespace Library

namespace Table

variable {R K : Type} [LinearOrder K]

/-
  The newest selected row of a suffix of a table whose
  first row has id `first`.  A later row wins a tie.
-/
def newestFrom
    (p : R → Prop)
    [DecidablePred p]
    (key : R → K) :
    Nat → List R → Option (Nat × R)
  | _, [] => none
  | first, row :: rows =>
      match newestFrom p key (first + 1) rows with
      | none => if p row then some (first, row) else none
      | some best =>
          if p row ∧ key best.2 < key row then
            some (first, row)
          else
            some best

/- The newest selected row, with its id. -/
def newest?
    (table : Table R)
    (p : R → Prop)
    [DecidablePred p]
    (key : R → K) :
    Option (Nat × R) :=
  newestFrom p key 0 table.rows

/- Creation order: by key, and by id where keys agree. -/
def Older
    (key : R → K)
    (left right : Nat × R) :
    Prop :=
  key left.2 < key right.2 ∨
    (key left.2 = key right.2 ∧ left.1 < right.1)

instance
    (key : R → K)
    (left right : Nat × R) :
    Decidable (Older key left right) := by
  unfold Older
  infer_instance

/- `best` is selected and every other selected row older. -/
structure IsNewest
    (table : Table R)
    (p : R → Prop)
    (key : R → K)
    (best : Nat × R) :
    Prop where
  get : table.get? best.1 = some best.2
  selected : p best.2
  newest :
    ∀ id row,
      table.get? id = some row →
      p row →
      id ≠ best.1 →
      Older key (id, row) best

theorem Older.trans
    {key : R → K}
    {first second third : Nat × R}
    (hLeft : Older key first second)
    (hRight : Older key second third) :
    Older key first third := by
  rcases hLeft with hLeft | ⟨hLeft, hLeftId⟩
  · rcases hRight with hRight | ⟨hRight, _⟩
    · exact Or.inl (lt_trans hLeft hRight)
    · exact Or.inl (hRight ▸ hLeft)
  · rcases hRight with hRight | ⟨hRight, hRightId⟩
    · exact Or.inl (hLeft ▸ hRight)
    · exact
        Or.inr
          ⟨hLeft.trans hRight,
            Nat.lt_trans hLeftId hRightId⟩

theorem Older.irrefl
    (key : R → K)
    (row : Nat × R) :
    ¬ Older key row row := by
  rintro (hKey | ⟨_, hId⟩)
  · exact lt_irrefl _ hKey
  · exact Nat.lt_irrefl _ hId

theorem Older.asymm
    {key : R → K}
    {left right : Nat × R}
    (hOlder : Older key left right) :
    ¬ Older key right left := by
  intro hBack
  exact Older.irrefl key left (hOlder.trans hBack)

private theorem newestFrom_eq_none_iff
    (p : R → Prop)
    [DecidablePred p]
    (key : R → K)
    (first : Nat)
    (rows : List R) :
    newestFrom p key first rows = none ↔
      ∀ row ∈ rows, ¬ p row := by
  induction rows generalizing first with
  | nil =>
      simp [newestFrom]
  | cons row rows ih =>
      simp only [newestFrom]
      cases hTail : newestFrom p key (first + 1) rows with
      | none =>
          have hRows := (ih (first + 1)).mp hTail
          by_cases hRow : p row
          · simp [hRow]
          · simpa [hRow] using hRows
      | some best =>
          have hRows :
              ¬ ∀ row ∈ rows, ¬ p row := by
            rw [← ih (first + 1), hTail]
            simp
          constructor
          · intro hNone
            by_cases hLess :
                p row ∧ key best.2 < key row
            · simp [hLess] at hNone
            · simp [hLess] at hNone
          · intro hAll
            exact
              absurd
                (fun other hOther =>
                  hAll other
                    (List.mem_cons_of_mem row hOther))
                hRows

/-
  `IsNewest` for a suffix of a table whose first row has
  the id `first`.
-/
private def NewestAt
    (p : R → Prop)
    (key : R → K)
    (first : Nat)
    (rows : List R)
    (best : Nat × R) :
    Prop :=
  ∃ offset,
    best.1 = first + offset ∧
      rows[offset]? = some best.2 ∧
      p best.2 ∧
      ∀ (index : Nat) (row : R),
        rows[index]? = some row →
        p row →
        index ≠ offset →
        Older key (first + index, row) best

/- A head with a greater key than the rest is newest. -/
private theorem newestAt_cons_head
    {p : R → Prop}
    {key : R → K}
    {head : R}
    {rows : List R}
    (first : Nat)
    (hHead : p head)
    (hRest :
      ∀ (index : Nat) (row : R),
        rows[index]? = some row →
        p row →
        key row < key head) :
    NewestAt p key first (head :: rows) (first, head) := by
  refine ⟨0, rfl, rfl, hHead, ?_⟩
  intro index row hGet hRow hIndex
  cases index with
  | zero => exact absurd rfl hIndex
  | succ index => exact Or.inl (hRest index row hGet hRow)

/- Behind a head that is not newer the newest stays. -/
private theorem newestAt_cons_tail
    {p : R → Prop}
    {key : R → K}
    {head : R}
    {first : Nat}
    {rows : List R}
    {best : Nat × R}
    (hTail : NewestAt p key (first + 1) rows best)
    (hHead : p head → key head ≤ key best.2) :
    NewestAt p key first (head :: rows) best := by
  rcases hTail with ⟨offset, hId, hGet, hSelected, hNewest⟩
  refine ⟨offset + 1, by omega, hGet, hSelected, ?_⟩
  intro index row hRowGet hRow hIndex
  cases index with
  | zero =>
      have hSame : head = row := Option.some.inj hRowGet
      rw [← hSame] at hRow ⊢
      rcases lt_or_eq_of_le (hHead hRow) with hLt | hEq
      · exact Or.inl hLt
      · refine Or.inr ⟨hEq, ?_⟩
        simp only [hId]
        omega
  | succ index =>
      have hOlder :=
        hNewest index row hRowGet hRow
          (fun hEq => hIndex (by rw [hEq]))
      have hShift :
          first + (index + 1) = first + 1 + index := by
        omega
      rw [hShift]
      exact hOlder

/- What `newestFrom` returns is newest in its suffix. -/
private theorem newestFrom_spec
    (p : R → Prop)
    [DecidablePred p]
    (key : R → K)
    (first : Nat)
    (rows : List R)
    (best : Nat × R)
    (hBest : newestFrom p key first rows = some best) :
    NewestAt p key first rows best := by
  induction rows generalizing first best with
  | nil =>
      simp [newestFrom] at hBest
  | cons head rows ih =>
      simp only [newestFrom] at hBest
      cases hTail : newestFrom p key (first + 1) rows with
      | none =>
          have hRows :=
            (newestFrom_eq_none_iff
              p key (first + 1) rows).mp hTail
          by_cases hHead : p head
          · simp only [hTail, if_pos hHead,
              Option.some.injEq] at hBest
            rw [← hBest]
            apply newestAt_cons_head first hHead
            intro index row hGet hRow
            exact
              absurd hRow
                (hRows row (List.mem_of_getElem? hGet))
          · simp [hTail, hHead] at hBest
      | some tailBest =>
          have hRest := ih (first + 1) tailBest hTail
          by_cases hLess :
              p head ∧ key tailBest.2 < key head
          · simp only [hTail, if_pos hLess,
              Option.some.injEq] at hBest
            rw [← hBest]
            apply newestAt_cons_head first hLess.1
            intro index row hGet hRow
            rcases hRest with
              ⟨offset, _, hGetBest, _, hNewest⟩
            by_cases hSame : index = offset
            · rw [hSame, hGetBest] at hGet
              rw [← Option.some.inj hGet]
              exact hLess.2
            · rcases hNewest index row hGet hRow hSame with
                hLt | ⟨hEq, _⟩
              · exact lt_trans hLt hLess.2
              · exact lt_of_eq_of_lt hEq hLess.2
          · simp only [hTail, if_neg hLess,
              Option.some.injEq] at hBest
            rw [← hBest]
            apply newestAt_cons_tail hRest
            intro hHead
            exact
              not_lt.mp (fun hLt => hLess ⟨hHead, hLt⟩)

/- The selection is empty exactly when nothing is newest. -/
theorem newest?_eq_none_iff
    (table : Table R)
    (p : R → Prop)
    [DecidablePred p]
    (key : R → K) :
    table.newest? p key = none ↔
      ∀ id row, table.get? id = some row → ¬ p row := by
  rw [newest?, newestFrom_eq_none_iff]
  constructor
  · intro hRows id row hGet
    exact hRows row (List.mem_of_getElem? hGet)
  · intro hRows row hMem
    rcases List.getElem?_of_mem hMem with ⟨id, hGet⟩
    exact hRows id row hGet

private theorem isNewest_of_newest?
    {table : Table R}
    {p : R → Prop}
    [DecidablePred p]
    {key : R → K}
    {best : Nat × R}
    (hBest : table.newest? p key = some best) :
    table.IsNewest p key best := by
  rcases newestFrom_spec p key 0 table.rows best hBest with
    ⟨offset, hId, hGet, hSelected, hNewest⟩
  have hOffset : best.1 = offset := by omega
  refine ⟨?_, hSelected, ?_⟩
  · rw [hOffset]
    exact hGet
  · intro id row hRow hSelectedRow hNe
    have hOlder :=
      hNewest id row hRow hSelectedRow
        (fun hEq => hNe (hEq.trans hOffset.symm))
    rw [Nat.zero_add] at hOlder
    exact hOlder

/- At most one row is newest. -/
theorem IsNewest.unique
    {table : Table R}
    {p : R → Prop}
    {key : R → K}
    {left right : Nat × R}
    (hLeft : table.IsNewest p key left)
    (hRight : table.IsNewest p key right) :
    left = right := by
  by_cases hId : left.1 = right.1
  · have hRow : left.2 = right.2 := by
      have hGet := hLeft.get
      rw [hId, hRight.get] at hGet
      exact (Option.some.inj hGet).symm
    exact Prod.ext hId hRow
  · have hOlder :=
      hRight.newest left.1 left.2
        hLeft.get hLeft.selected hId
    have hBack :=
      hLeft.newest right.1 right.2
        hRight.get hRight.selected (Ne.symm hId)
    exact absurd hBack hOlder.asymm

/- `newest?` finds the newest selected row. -/
theorem newest?_eq_some_iff
    (table : Table R)
    (p : R → Prop)
    [DecidablePred p]
    (key : R → K)
    (best : Nat × R) :
    table.newest? p key = some best ↔
      table.IsNewest p key best := by
  constructor
  · exact isNewest_of_newest?
  · intro hNewest
    cases hFound : table.newest? p key with
    | none =>
        have hNone :=
          (newest?_eq_none_iff table p key).mp hFound
        exact
          absurd hNewest.selected
            (hNone best.1 best.2 hNewest.get)
    | some found =>
        have hSame :=
          (isNewest_of_newest? hFound).unique hNewest
        rw [hSame]

end Table

end Library
