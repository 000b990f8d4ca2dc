import Mathlib.Logic.Function.Basic
import Mathlib.Data.List.Range

/-
  Tables whose rows can be replaced and deleted.

  Main definitions include:
    * `Library.Rows`
    * `Library.Rows.insert`
    * `Library.Rows.set`
    * `Library.Rows.erase`
    * `Library.Rows.mapRows`
    * `Library.Rows.updateEach`
    * `Library.Rows.find?`
    * `Library.Rows.All`
    * `Library.Rows.UniqueBy`
    * `Library.Rows.Taken`
    * `Library.Rows.Free`

  Main theorems include:
    * `Library.of_update_some`
    * `Library.of_update_none`
    * `Library.Rows.find?_eq_some`
    * `Library.Rows.find?_eq_none_iff`
    * `Library.Rows.UniqueBy.insert`
    * `Library.Rows.UniqueBy.set`

  The id of a row is never used again after its deletion.
  A key that is `none` stands for a NULL, and a unique
  column may hold any number of them.
-/

------------------------------------------------------------
-- Slots
------------------------------------------------------------

namespace Library

section Slots

variable {K V : Type}
variable [DecidableEq K]
variable {slots : K → Option V}
variable {key other : K}
variable {value held : V}

/- What a slot holds after one of them was filled. -/
theorem of_update_some
    (hHeld :
      Function.update slots key (some value) other =
        some held) :
    (other = key ∧ held = value) ∨
      (other ≠ key ∧ slots other = some held) := by
  by_cases hSame : other = key
  · left
    rw [hSame, Function.update_self] at hHeld
    exact ⟨hSame, (Option.some.inj hHeld).symm⟩
  · right
    rw [Function.update_of_ne hSame] at hHeld
    exact ⟨hSame, hHeld⟩

/- What a slot holds after one of them was emptied. -/
theorem of_update_none
    (hHeld :
      Function.update slots key none other = some held) :
    other ≠ key ∧ slots other = some held := by
  by_cases hSame : other = key
  · rw [hSame, Function.update_self] at hHeld
    cases hHeld
  · rw [Function.update_of_ne hSame] at hHeld
    exact ⟨hSame, hHeld⟩

end Slots

end Library

------------------------------------------------------------
-- Tables
------------------------------------------------------------

namespace Library

/- Rows by id; no id from `nextId` on has been given out. -/
@[ext]
structure Rows (R : Type) where
  get? : Nat → Option R
  nextId : Nat
  fresh : ∀ id, nextId ≤ id → get? id = none

namespace Rows

variable {R : Type}

/- The table without rows. -/
def empty : Rows R where
  get? := fun _ => none
  nextId := 0
  fresh := fun _ _ => rfl

/- Store a row under the next id. -/
def insert
    (rows : Rows R)
    (row : R) :
    Rows R where
  get? := Function.update rows.get? rows.nextId (some row)
  nextId := rows.nextId + 1
  fresh := by
    intro id hLe
    have hNe : id ≠ rows.nextId := by
      omega
    rw [Function.update_of_ne hNe]
    exact rows.fresh id (by omega)

/- Replace a stored row. -/
def set
    (rows : Rows R)
    (id : Nat)
    (row : R) :
    Rows R where
  get? :=
    Function.update rows.get? id
      ((rows.get? id).map fun _ => row)
  nextId := rows.nextId
  fresh := by
    intro other hLe
    by_cases hSame : other = id
    · subst hSame
      rw [Function.update_self, rows.fresh other hLe]
      rfl
    · rw [Function.update_of_ne hSame]
      exact rows.fresh other hLe

/- Delete a row. -/
def erase
    (rows : Rows R)
    (id : Nat) :
    Rows R where
  get? := Function.update rows.get? id none
  nextId := rows.nextId
  fresh := by
    intro other hLe
    by_cases hSame : other = id
    · rw [hSame, Function.update_self]
    · rw [Function.update_of_ne hSame]
      exact rows.fresh other hLe

/- Delete the rows that pass the test. -/
def eraseWhere
    (rows : Rows R)
    (test : R → Bool) :
    Rows R where
  get? := fun id =>
    (rows.get? id).filter fun row => !test row
  nextId := rows.nextId
  fresh := by
    intro id hLe
    rw [rows.fresh id hLe]
    rfl

/- Change all rows. -/
def mapRows
    (rows : Rows R)
    (f : R → R) :
    Rows R where
  get? := fun id => (rows.get? id).map f
  nextId := rows.nextId
  fresh := by
    intro id hLe
    rw [rows.fresh id hLe]
    rfl

/- Change each row by its id. -/
def updateEach
    (rows : Rows R)
    (f : Nat → R → R) :
    Rows R where
  get? := fun id => (rows.get? id).map (f id)
  nextId := rows.nextId
  fresh := by
    intro id hLe
    rw [rows.fresh id hLe]
    rfl

/- The first row that passes the test. -/
def find?
    (rows : Rows R)
    (test : R → Bool) :
    Option Nat :=
  (List.range rows.nextId).find? fun id =>
    (rows.get? id).any test

variable {rows : Rows R}
variable {id : Nat}
variable {row : R}

theorem lt_nextId
    (hGet : rows.get? id = some row) :
    id < rows.nextId := by
  by_contra hNot
  rw [rows.fresh id (Nat.le_of_not_lt hNot)] at hGet
  cases hGet

@[simp] theorem get?_empty
    (id : Nat) :
    (empty : Rows R).get? id = none := by
  rfl

@[simp] theorem get?_nextId
    (rows : Rows R) :
    rows.get? rows.nextId = none :=
  rows.fresh rows.nextId (Nat.le_refl _)

theorem get?_insert
    (rows : Rows R)
    (row : R)
    (id : Nat) :
    (rows.insert row).get? id =
      if id = rows.nextId then some row
      else rows.get? id := by
  exact Function.update_apply ..

@[simp] theorem get?_insert_nextId
    (rows : Rows R)
    (row : R) :
    (rows.insert row).get? rows.nextId = some row := by
  exact Function.update_self ..

/- An insertion keeps the rows that were there. -/
theorem get?_insert_of_get?
    {old : R}
    (hGet : rows.get? id = some old)
    (row : R) :
    (rows.insert row).get? id = some old := by
  rw [get?_insert, if_neg (Nat.ne_of_lt (lt_nextId hGet)),
    hGet]

/- A row after an insertion is the new one or an old one. -/
theorem get?_of_get?_insert
    {stored : R}
    (hGet : (rows.insert row).get? id = some stored) :
    (id = rows.nextId ∧ stored = row) ∨
      (id ≠ rows.nextId ∧ rows.get? id = some stored) :=
  of_update_some hGet

theorem get?_set_of_ne
    {other : Nat}
    (hNe : other ≠ id)
    (row : R) :
    (rows.set id row).get? other = rows.get? other :=
  Function.update_of_ne hNe ..

theorem get?_set_self
    {old : R}
    (hGet : rows.get? id = some old)
    (row : R) :
    (rows.set id row).get? id = some row := by
  have hSet :
      (rows.set id row).get? id =
        (rows.get? id).map fun _ => row :=
    Function.update_self ..
  rw [hSet, hGet]
  rfl

@[simp] theorem isSome_get?_set
    (rows : Rows R)
    (id other : Nat)
    (row : R) :
    ((rows.set id row).get? other).isSome =
      (rows.get? other).isSome := by
  by_cases hSame : other = id
  · subst hSame
    have hSet :
        (rows.set other row).get? other =
          (rows.get? other).map fun _ => row :=
      Function.update_self ..
    rw [hSet, Option.isSome_map]
  · rw [get?_set_of_ne hSame]

theorem set_eq_self
    (hGet : rows.get? id = some row) :
    rows.set id row = rows := by
  apply Rows.ext
  · have hMap :
        (rows.get? id).map (fun _ => row) =
          rows.get? id := by
      rw [hGet]
      rfl
    change Function.update rows.get? id _ = rows.get?
    rw [hMap, Function.update_eq_self]
  · rfl

/- The later of two writes to a row counts. -/
theorem set_set
    (rows : Rows R)
    (id : Nat)
    (first second : R) :
    (rows.set id first).set id second =
      rows.set id second := by
  apply Rows.ext
  · change
      Function.update (Function.update rows.get? id _) id _ =
        Function.update rows.get? id _
    rw [Function.update_idem]
    congr 1
    change
      (Function.update rows.get? id _ id).map _ = _
    rw [Function.update_self, Option.map_map]
    rfl
  · rfl

@[simp] theorem get?_erase_self
    (rows : Rows R)
    (id : Nat) :
    (rows.erase id).get? id = none := by
  exact Function.update_self ..

theorem get?_erase_of_ne
    {other : Nat}
    (hNe : other ≠ id)
    (rows : Rows R) :
    (rows.erase id).get? other = rows.get? other :=
  Function.update_of_ne hNe ..

/- What is left after a deletion was there before. -/
theorem get?_of_get?_erase
    {other : Nat}
    (hGet : (rows.erase id).get? other = some row) :
    other ≠ id ∧ rows.get? other = some row :=
  of_update_none hGet

@[simp] theorem get?_mapRows
    (rows : Rows R)
    (f : R → R)
    (id : Nat) :
    (rows.mapRows f).get? id = (rows.get? id).map f := by
  rfl

@[simp] theorem get?_updateEach
    (rows : Rows R)
    (f : Nat → R → R)
    (id : Nat) :
    (rows.updateEach f).get? id =
      (rows.get? id).map (f id) := by
  rfl

theorem find?_eq_some
    {test : R → Bool}
    (hFind : rows.find? test = some id) :
    ∃ row, rows.get? id = some row ∧ test row = true := by
  have hTest := List.find?_some hFind
  cases hGet : rows.get? id with
  | none =>
      rw [hGet] at hTest
      cases hTest
  | some row =>
      rw [hGet] at hTest
      exact ⟨row, rfl, hTest⟩

theorem find?_eq_none_iff
    (rows : Rows R)
    (test : R → Bool) :
    rows.find? test = none ↔
      ∀ id row, rows.get? id = some row →
        test row = false := by
  rw [find?, List.find?_eq_none]
  constructor
  · intro hNone id row hGet
    have hAny :=
      hNone id (List.mem_range.mpr (lt_nextId hGet))
    rw [hGet] at hAny
    exact Bool.eq_false_iff.mpr hAny
  · intro hNone id _
    cases hGet : rows.get? id with
    | none => exact Bool.false_ne_true
    | some row =>
        rw [Option.any_some, hNone id row hGet]
        exact Bool.false_ne_true

end Rows

end Library

------------------------------------------------------------
-- Unique Columns
------------------------------------------------------------

namespace Library

namespace Rows

variable {R K : Type}

/- No two rows have the same key. -/
def UniqueBy
    (key : R → Option K)
    (rows : Rows R) :
    Prop :=
  ∀ left right leftRow rightRow value,
    rows.get? left = some leftRow →
    rows.get? right = some rightRow →
    key leftRow = some value →
    key rightRow = some value →
    left = right

/- The key of `row` is that of no row but the one at `id`. -/
def Free
    (key : R → Option K)
    (rows : Rows R)
    (id : Nat)
    (row : R) :
    Prop :=
  ∀ other ∈ List.range rows.nextId,
    other ≠ id →
      ∀ value ∈ key row,
        (rows.get? other).bind key ≠ some value

instance
    [DecidableEq K]
    (key : R → Option K)
    (rows : Rows R)
    (id : Nat)
    (row : R) :
    Decidable (Free key rows id row) := by
  unfold Free
  infer_instance

variable {key : R → Option K}
variable {rows : Rows R}
variable {id : Nat}
variable {row : R}

theorem UniqueBy.empty :
    UniqueBy key (Rows.empty : Rows R) := by
  intro left right leftRow rightRow value hLeft
  cases hLeft

/- A row with the key of a new row is the one replaced. -/
theorem Free.eq_id
    {other : Nat}
    {otherRow : R}
    {value : K}
    (hFree : Free key rows id row)
    (hGet : rows.get? other = some otherRow)
    (hKey : key row = some value)
    (hOther : key otherRow = some value) :
    other = id := by
  by_contra hNe
  apply
    hFree other (List.mem_range.mpr (lt_nextId hGet)) hNe
      value hKey
  rw [hGet]
  exact hOther

/- A row whose key is free was written, and no other. -/
theorem UniqueBy.of_written
    {later : Rows R}
    (hUnique : UniqueBy key rows)
    (hFree : Free key rows id row)
    (hRows :
      ∀ other stored,
        later.get? other = some stored →
          (other = id ∧ stored = row) ∨
            (other ≠ id ∧ rows.get? other = some stored)) :
    UniqueBy key later := by
  intro left right leftRow rightRow value hLeft hRight
    hLeftKey hRightKey
  rcases hRows left leftRow hLeft with
    ⟨rfl, rfl⟩ | ⟨_, hLeftOld⟩
  · rcases hRows right rightRow hRight with
      ⟨rfl, rfl⟩ | ⟨_, hRightOld⟩
    · rfl
    · exact
        (hFree.eq_id hRightOld hLeftKey hRightKey).symm
  · rcases hRows right rightRow hRight with
      ⟨rfl, rfl⟩ | ⟨_, hRightOld⟩
    · exact hFree.eq_id hLeftOld hRightKey hLeftKey
    · exact
        hUnique left right leftRow rightRow value hLeftOld
          hRightOld hLeftKey hRightKey

/- The key of a new row is free if no row has it. -/
theorem free_nextId_iff
    {column : R → K} :
    Free (fun row => some (column row)) rows rows.nextId
        row ↔
      ∀ other stored, rows.get? other = some stored →
        column stored ≠ column row := by
  constructor
  · intro hFree other stored hGet hSame
    refine Nat.ne_of_lt (lt_nextId hGet) ?_
    exact
      hFree.eq_id hGet rfl (congrArg some hSame)
  · intro hApart other hOther _ value hValue hTaken
    rcases Option.bind_eq_some_iff.mp hTaken with
      ⟨stored, hGet, hKey⟩
    refine hApart other stored hGet ?_
    exact Option.some.inj (hKey.trans hValue.symm)

/- Whether a row other than the one at `id` passes. -/
def Taken
    (rows : Rows R)
    (id : Nat)
    (test : R → Bool) :
    Prop :=
  ∃ other ∈ List.range rows.nextId,
    other ≠ id ∧ (rows.get? other).any test = true

instance
    (rows : Rows R)
    (id : Nat)
    (test : R → Bool) :
    Decidable (rows.Taken id test) := by
  unfold Taken
  infer_instance

theorem not_taken_iff
    {test : R → Bool} :
    ¬ rows.Taken id test ↔
      ∀ other stored, rows.get? other = some stored →
        other ≠ id → test stored = false := by
  constructor
  · intro hNot other stored hGet hNe
    rw [Bool.eq_false_iff]
    intro hTest
    refine
      hNot
        ⟨other, List.mem_range.mpr (lt_nextId hGet), hNe, ?_⟩
    rw [hGet]
    exact hTest
  · rintro hAll ⟨other, _, hNe, hAny⟩
    cases hGet : rows.get? other with
    | none =>
        rw [hGet] at hAny
        cases hAny
    | some stored =>
        rw [hGet, Option.any_some,
          hAll other stored hGet hNe] at hAny
        cases hAny

/- A key is free if no other row passes a test for it. -/
theorem free_of_not_taken
    {test : R → Bool}
    (hNot : ¬ rows.Taken id test)
    (hTest :
      ∀ stored value,
        key row = some value → key stored = some value →
          test stored = true) :
    Free key rows id row := by
  intro other _ hNe value hValue hTaken
  rcases Option.bind_eq_some_iff.mp hTaken with
    ⟨stored, hGet, hKey⟩
  have hFalse := not_taken_iff.mp hNot other stored hGet hNe
  rw [hTest stored value hValue hKey] at hFalse
  cases hFalse

theorem UniqueBy.insert
    (hUnique : UniqueBy key rows)
    (hFree : Free key rows rows.nextId row) :
    UniqueBy key (rows.insert row) := by
  apply hUnique.of_written hFree
  intro other stored hGet
  exact get?_of_get?_insert hGet

/- The rows of a table in which one row was replaced. -/
theorem get?_of_get?_set
    {other : Nat}
    {otherRow : R}
    (hGet : (rows.set id row).get? other = some otherRow) :
    (other = id ∧ otherRow = row) ∨
      (other ≠ id ∧ rows.get? other = some otherRow) := by
  by_cases hSame : other = id
  · left
    subst hSame
    have hSet :
        (rows.set other row).get? other =
          (rows.get? other).map fun _ => row :=
      Function.update_self ..
    rw [hSet] at hGet
    rcases Option.map_eq_some_iff.mp hGet with
      ⟨_, _, hRow⟩
    exact ⟨rfl, hRow.symm⟩
  · right
    rw [get?_set_of_ne hSame] at hGet
    exact ⟨hSame, hGet⟩

theorem UniqueBy.set
    (hUnique : UniqueBy key rows)
    (hFree : Free key rows id row) :
    UniqueBy key (rows.set id row) := by
  apply hUnique.of_written hFree
  intro other stored hGet
  exact get?_of_get?_set hGet

/- A written row is the only one with its key. -/
theorem UniqueBy.free_of_written
    {later : Rows R}
    (hLater : UniqueBy key later)
    (hRow : later.get? id = some row)
    (hOthers :
      ∀ other stored,
        other ≠ id →
          rows.get? other = some stored →
            later.get? other = some stored) :
    Free key rows id row := by
  intro other _ hNe value hValue hTaken
  rcases Option.bind_eq_some_iff.mp hTaken with
    ⟨stored, hGet, hKey⟩
  exact hNe
    (hLater other id stored row value
      (hOthers other stored hNe hGet) hRow hKey hValue)

theorem uniqueBy_insert_iff
    (hUnique : UniqueBy key rows) :
    UniqueBy key (rows.insert row) ↔
      Free key rows rows.nextId row := by
  constructor
  · intro hLater
    refine hLater.free_of_written
      (get?_insert_nextId rows row) ?_
    exact fun other stored _ hGet =>
      get?_insert_of_get? hGet row
  · exact hUnique.insert

theorem UniqueBy.of_insert
    (hUnique : UniqueBy key (rows.insert row)) :
    UniqueBy key rows := by
  intro left right leftRow rightRow value hLeft hRight
  exact
    hUnique left right leftRow rightRow value
      (get?_insert_of_get? hLeft row)
      (get?_insert_of_get? hRight row)

theorem uniqueBy_set_iff
    {old : R}
    (hUnique : UniqueBy key rows)
    (hGet : rows.get? id = some old) :
    UniqueBy key (rows.set id row) ↔
      Free key rows id row := by
  constructor
  · intro hLater
    refine hLater.free_of_written (get?_set_self hGet row) ?_
    intro other stored hNe hStored
    rw [get?_set_of_ne hNe]
    exact hStored
  · exact hUnique.set

/- A row may be replaced by one with the same key. -/
theorem UniqueBy.free_of_key_eq
    {old : R}
    (hUnique : UniqueBy key rows)
    (hGet : rows.get? id = some old)
    (hKey : key row = key old) :
    Free key rows id row := by
  intro other _ hNe value hMem hTaken
  rcases Option.bind_eq_some_iff.mp hTaken with
    ⟨otherRow, hOther, hOtherKey⟩
  apply hNe
  exact
    hUnique other id otherRow old value hOther hGet
      hOtherKey (hKey ▸ hMem)

theorem UniqueBy.erase
    (hUnique : UniqueBy key rows)
    (id : Nat) :
    UniqueBy key (rows.erase id) := by
  intro left right leftRow rightRow value hLeft hRight
  exact
    hUnique left right leftRow rightRow value
      (get?_of_get?_erase hLeft).2
      (get?_of_get?_erase hRight).2

/- Tables with the same keys, row by row. -/
theorem uniqueBy_congr
    {later : Rows R}
    (hKeys :
      ∀ id,
        (later.get? id).bind key = (rows.get? id).bind key) :
    UniqueBy key later ↔ UniqueBy key rows := by
  have hBind :
      ∀ table : Rows R,
        UniqueBy key table ↔
          ∀ left right value,
            (table.get? left).bind key = some value →
            (table.get? right).bind key = some value →
              left = right := by
    intro table
    constructor
    · intro hUnique left right value hLeft hRight
      rcases Option.bind_eq_some_iff.mp hLeft with
        ⟨leftRow, hLeftRow, hLeftKey⟩
      rcases Option.bind_eq_some_iff.mp hRight with
        ⟨rightRow, hRightRow, hRightKey⟩
      exact
        hUnique left right leftRow rightRow value hLeftRow
          hRightRow hLeftKey hRightKey
    · intro hSame left right leftRow rightRow value hLeft
        hRight hLeftKey hRightKey
      refine hSame left right value ?_ ?_
      · rw [hLeft]
        exact hLeftKey
      · rw [hRight]
        exact hRightKey
  simp only [hBind, hKeys]

/- Keys that are only taken away stay unique. -/
theorem UniqueBy.mapRows
    {f : R → R}
    (hUnique : UniqueBy key rows)
    (hKey :
      ∀ row value,
        key (f row) = some value → key row = some value) :
    UniqueBy key (rows.mapRows f) := by
  intro left right leftRow rightRow value hLeft hRight
    hLeftKey hRightKey
  rcases Option.map_eq_some_iff.mp hLeft with
    ⟨leftOld, hLeftOld, rfl⟩
  rcases Option.map_eq_some_iff.mp hRight with
    ⟨rightOld, hRightOld, rfl⟩
  exact
    hUnique left right leftOld rightOld value hLeftOld
      hRightOld (hKey leftOld value hLeftKey)
      (hKey rightOld value hRightKey)

end Rows

end Library

------------------------------------------------------------
-- Properties of Rows
------------------------------------------------------------

namespace Library

namespace Rows

variable {R : Type}

/- All rows have the property. -/
def All
    (P : R → Prop)
    (rows : Rows R) :
    Prop :=
  ∀ id row, rows.get? id = some row → P row

variable {P : R → Prop}
variable {rows later : Rows R}
variable {row : R}

theorem All.empty : All P empty := by
  intro id row hGet
  cases hGet

theorem All.trivially
    (rows : Rows R) :
    rows.All fun _ => True := by
  intro _ _ _
  trivial

theorem All.insert
    (hAll : rows.All P)
    (hRow : P row) :
    (rows.insert row).All P := by
  intro id stored hGet
  rcases get?_of_get?_insert hGet with
    ⟨_, rfl⟩ | ⟨_, hOld⟩
  · exact hRow
  · exact hAll id stored hOld

theorem All.set
    (hAll : rows.All P)
    (hRow : P row)
    (id : Nat) :
    (rows.set id row).All P := by
  intro other stored hGet
  rcases get?_of_get?_set hGet with ⟨_, rfl⟩ | ⟨_, hOld⟩
  · exact hRow
  · exact hAll other stored hOld

theorem All.erase
    (hAll : rows.All P)
    (id : Nat) :
    (rows.erase id).All P := by
  intro other stored hGet
  exact hAll other stored (get?_of_get?_erase hGet).2

theorem all_mapRows_iff
    {f : R → R} :
    (rows.mapRows f).All P ↔
      rows.All fun row => P (f row) := by
  constructor
  · intro hAll id row hGet
    exact hAll id (f row) (congrArg (Option.map f) hGet)
  · intro hAll id row hGet
    rcases Option.map_eq_some_iff.mp hGet with
      ⟨old, hOld, rfl⟩
    exact hAll id old hOld

/- Two properties that agree on rows of a third. -/
theorem All.iff_of_forall
    {Q T : R → Prop}
    (hAll : rows.All P)
    (hIff : ∀ row, P row → (Q row ↔ T row)) :
    rows.All Q ↔ rows.All T := by
  constructor
  · intro hQ id row hGet
    exact (hIff row (hAll id row hGet)).mp (hQ id row hGet)
  · intro hT id row hGet
    exact (hIff row (hAll id row hGet)).mpr (hT id row hGet)

/- Rows that are the same one by one. -/
theorem All.congr
    (hAll : rows.All P)
    (hSame : ∀ id, later.get? id = rows.get? id) :
    later.All P := by
  intro id stored hGet
  rw [hSame id] at hGet
  exact hAll id stored hGet

end Rows

end Library
