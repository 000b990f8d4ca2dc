import Icmp2.Library.Rows
import Mathlib.Data.List.Dedup
import Mathlib.Data.List.Perm.Basic
import Mathlib.Data.List.Sort
import Mathlib.Order.Lattice

/-
  Requests that write to the row they name, or to a new one.

  Main definitions include:
    * `Library.Upsert`
    * `Library.Rows.upserts`
    * `Library.Rows.targets`
    * `Library.lastAt`
    * `Library.Rows.Listing`

  Main theorems include:
    * `Library.Rows.targets_cons`
    * `Library.Rows.get?_upserts`
    * `Library.Rows.upserts_unchanged_iff`
    * `Library.Rows.listing_eq_iff`

  Which rows a list of requests writes to is known before
  any of them is carried out: the stored ids and the next
  id are enough.
-/

------------------------------------------------------------
-- Requests
------------------------------------------------------------

namespace Library

/- A row to be written, with the id that was asked for. -/
structure Upsert (R : Type) where
  named : Option Nat
  row : R

/-
  The ids to which requests write, from the stored ids and
  the next id.
-/
def targetsFrom
    {R : Type}
    (stored : Nat → Bool)
    (nextId : Nat) :
    List (Upsert R) →
    List Nat
  | [] => []
  | request :: requests =>
      match request.named.filter stored with
      | some id => id :: targetsFrom stored nextId requests
      | none =>
          nextId ::
            targetsFrom
              (fun id => stored id || id == nextId)
              (nextId + 1) requests

/- The last of the entries of a key. -/
def lastAt
    {R : Type} :
    List (Nat × R) →
    Nat →
    Option R
  | [], _ => none
  | (key, row) :: entries, id =>
      match lastAt entries id with
      | some last => some last
      | none => if key = id then some row else none

namespace Rows

variable {R : Type}

/- The ids with a row. -/
def stored
    (rows : Rows R)
    (id : Nat) :
    Bool :=
  (rows.get? id).isSome

/- Write to the row that is asked for, or to a new one. -/
def upsert
    (rows : Rows R)
    (request : Upsert R) :
    Rows R :=
  match request.named.filter rows.stored with
  | some id => rows.set id request.row
  | none => rows.insert request.row

def upserts
    (rows : Rows R)
    (requests : List (Upsert R)) :
    Rows R :=
  requests.foldl upsert rows

def target
    (rows : Rows R)
    (request : Upsert R) :
    Nat :=
  (request.named.filter rows.stored).getD rows.nextId

def targets
    (rows : Rows R)
    (requests : List (Upsert R)) :
    List Nat :=
  targetsFrom rows.stored rows.nextId requests

/- What requests write, by id. -/
def writes
    (rows : Rows R)
    (requests : List (Upsert R)) :
    List (Nat × R) :=
  (rows.targets requests).zip (requests.map Upsert.row)

variable {rows : Rows R}
variable {request : Upsert R}
variable {requests : List (Upsert R)}
variable {id : Nat}

theorem stored_eq_true_iff :
    rows.stored id = true ↔
      ∃ row, rows.get? id = some row := by
  rw [stored, Option.isSome_iff_exists]

theorem stored_insert
    (rows : Rows R)
    (row : R) :
    (rows.insert row).stored =
      fun id => rows.stored id || id == rows.nextId := by
  funext id
  rw [stored, get?_insert]
  by_cases hNew : id = rows.nextId
  · rw [if_pos hNew, beq_iff_eq.mpr hNew, Bool.or_true]
    rfl
  · rw [if_neg hNew, beq_eq_false_iff_ne.mpr hNew,
      Bool.or_false]
    rfl

theorem stored_set
    (rows : Rows R)
    (id : Nat)
    (row : R) :
    (rows.set id row).stored = rows.stored := by
  funext other
  exact isSome_get?_set rows id other row

/- A request writes to a stored row or to the next id. -/
theorem upsert_cases
    (rows : Rows R)
    (request : Upsert R) :
    (∃ id,
      request.named = some id ∧
        rows.stored id = true ∧
        rows.target request = id ∧
        rows.upsert request = rows.set id request.row) ∨
      (request.named.filter rows.stored = none ∧
        rows.target request = rows.nextId ∧
        rows.upsert request = rows.insert request.row) := by
  cases hNamed : request.named.filter rows.stored with
  | none =>
      right
      refine ⟨rfl, ?_, ?_⟩
      · rw [target, hNamed]
        rfl
      · rw [upsert, hNamed]
  | some id =>
      left
      rcases Option.filter_eq_some_iff.mp hNamed with
        ⟨hAsked, hStored⟩
      refine ⟨id, hAsked, hStored, ?_, ?_⟩
      · rw [target, hNamed]
        rfl
      · rw [upsert, hNamed]

theorem get?_upsert
    (rows : Rows R)
    (request : Upsert R)
    (id : Nat) :
    (rows.upsert request).get? id =
      if rows.target request = id then some request.row
      else rows.get? id := by
  rcases upsert_cases rows request with
    ⟨named, -, hStored, hTarget, hUpsert⟩ |
    ⟨-, hTarget, hUpsert⟩
  · rw [hUpsert, hTarget]
    rcases stored_eq_true_iff.mp hStored with ⟨old, hGet⟩
    by_cases hSame : named = id
    · rw [if_pos hSame, ← hSame, get?_set_self hGet]
    · rw [if_neg hSame, get?_set_of_ne (Ne.symm hSame)]
  · rw [hUpsert, hTarget, get?_insert]
    by_cases hSame : id = rows.nextId
    · rw [if_pos hSame, if_pos hSame.symm]
    · rw [if_neg hSame, if_neg (Ne.symm hSame)]

@[simp] theorem upserts_nil
    (rows : Rows R) :
    rows.upserts [] = rows := by
  rfl

@[simp] theorem upserts_cons
    (rows : Rows R)
    (request : Upsert R)
    (requests : List (Upsert R)) :
    rows.upserts (request :: requests) =
      (rows.upsert request).upserts requests := by
  rfl

theorem upserts_append
    (rows : Rows R)
    (first second : List (Upsert R)) :
    rows.upserts (first ++ second) =
      (rows.upserts first).upserts second :=
  List.foldl_append

@[simp] theorem targets_nil
    (rows : Rows R) :
    rows.targets [] = [] := by
  rfl

@[simp] theorem targets_cons
    (rows : Rows R)
    (request : Upsert R)
    (requests : List (Upsert R)) :
    rows.targets (request :: requests) =
      rows.target request ::
        (rows.upsert request).targets requests := by
  simp only [targets, targetsFrom, target, upsert]
  cases request.named.filter rows.stored with
  | none =>
      simp only [Option.getD_none, stored_insert]
      rfl
  | some id =>
      simp only [Option.getD_some, stored_set]
      rfl

/- Targets of requests in two parts. -/
theorem targets_append
    (rows : Rows R)
    (first second : List (Upsert R)) :
    rows.targets (first ++ second) =
      rows.targets first ++
        (rows.upserts first).targets second := by
  induction first generalizing rows with
  | nil => rfl
  | cons request first ih =>
      rw [List.cons_append, targets_cons, ih,
        targets_cons, List.cons_append,
        upserts_cons]

@[simp] theorem length_targets
    (rows : Rows R)
    (requests : List (Upsert R)) :
    (rows.targets requests).length = requests.length := by
  induction requests generalizing rows with
  | nil => rfl
  | cons request requests ih =>
      rw [targets_cons, List.length_cons, List.length_cons,
        ih]

end Rows

end Library

------------------------------------------------------------
-- What Requests Leave
------------------------------------------------------------

namespace Library

section LastAt

variable {R : Type}
variable {keys : List Nat}
variable {entries : List (Nat × R)}

theorem lastAt_eq_none
    {id : Nat}
    (hNone : ∀ entry ∈ entries, entry.1 ≠ id) :
    lastAt entries id = none := by
  induction entries with
  | nil => rfl
  | cons entry entries ih =>
      have hRest :
          lastAt entries id = none :=
        ih fun other hOther =>
          hNone other (List.mem_cons_of_mem _ hOther)
      rw [lastAt, hRest]
      exact if_neg (hNone entry List.mem_cons_self)

theorem isSome_lastAt
    {id : Nat}
    (hEntry : ∃ entry ∈ entries, entry.1 = id) :
    (lastAt entries id).isSome = true := by
  induction entries with
  | nil =>
      rcases hEntry with ⟨_, hMem, -⟩
      cases hMem
  | cons entry entries ih =>
      rw [lastAt]
      cases hLast : lastAt entries id with
      | some last => rfl
      | none =>
          rcases hEntry with ⟨other, hMem, hKey⟩
          rcases List.mem_cons.mp hMem with rfl | hRest
          · exact congrArg Option.isSome (if_pos hKey)
          · have hSome := ih ⟨other, hRest, hKey⟩
            rw [hLast] at hSome
            cases hSome

theorem mem_of_lastAt
    {id : Nat}
    {row : R}
    (hLast : lastAt entries id = some row) :
    (id, row) ∈ entries := by
  induction entries with
  | nil => cases hLast
  | cons entry entries ih =>
      rw [lastAt] at hLast
      cases hRest : lastAt entries id with
      | some last =>
          rw [hRest] at hLast ih
          exact List.mem_cons_of_mem _ (ih hLast)
      | none =>
          rw [hRest] at hLast
          rcases Option.ite_none_right_eq_some.mp hLast with
            ⟨hKey, hRow⟩
          rw [← hKey, ← Option.some.inj hRow]
          exact List.mem_cons_self

/- What holds of all last rows, with one more entry first. -/
theorem forall_lastAt_cons
    {P : Nat → R → Prop}
    (key : Nat)
    (row : R) :
    (∀ id last,
      lastAt ((key, row) :: entries) id = some last →
        P id last) ↔
      (lastAt entries key = none → P key row) ∧
        ∀ id last,
          lastAt entries id = some last → P id last := by
  constructor
  · intro hAll
    constructor
    · intro hNone
      apply hAll key row
      rw [lastAt, hNone]
      exact if_pos rfl
    · intro id last hLast
      apply hAll id last
      rw [lastAt, hLast]
  · rintro ⟨hFirst, hRest⟩ id last hLast
    rw [lastAt] at hLast
    cases hLater : lastAt entries id with
    | some later =>
        rw [hLater] at hLast
        rw [← Option.some.inj hLast]
        exact hRest id later hLater
    | none =>
        rw [hLater] at hLast
        rcases Option.ite_none_right_eq_some.mp hLast with
          ⟨rfl, hRow⟩
        rw [← Option.some.inj hRow]
        exact hFirst hLater

/- Keys that occur once have the rows next to them. -/
theorem map_lastAt_zip
    {items : List R}
    (hOnce : keys.Nodup)
    (hLength : keys.length = items.length) :
    keys.map (lastAt (keys.zip items)) =
      items.map some := by
  induction keys generalizing items with
  | nil =>
      cases items with
      | nil => rfl
      | cons item items => cases hLength
  | cons key keys ih =>
      cases items with
      | nil => cases hLength
      | cons item items =>
          have hRest := List.nodup_cons.mp hOnce
          have hNone :
              lastAt (keys.zip items) key = none := by
            apply lastAt_eq_none
            intro entry hEntry hKey
            apply hRest.1
            rw [← hKey]
            exact (List.of_mem_zip hEntry).1
          have hTail :
              keys.map
                  (lastAt ((key, item) :: keys.zip items)) =
                keys.map (lastAt (keys.zip items)) := by
            apply List.map_congr_left
            intro other hOther
            rw [lastAt]
            cases lastAt (keys.zip items) other with
            | some last => rfl
            | none =>
                apply if_neg
                rintro rfl
                exact hRest.1 hOther
          rw [List.zip_cons_cons, List.map_cons, hTail,
            ih hRest.2 (Nat.succ.inj hLength), lastAt, hNone,
            List.map_cons]
          congr 1
          exact if_pos rfl

/- The keys of zipped entries have a last row. -/
theorem isSome_lastAt_zip_iff
    {items : List R}
    (hLength : keys.length = items.length)
    (id : Nat) :
    (lastAt (keys.zip items) id).isSome = true ↔
      id ∈ keys := by
  constructor
  · intro hSome
    rcases Option.isSome_iff_exists.mp hSome with
      ⟨row, hLast⟩
    exact (List.of_mem_zip (mem_of_lastAt hLast)).1
  · intro hMem
    rw [← List.map_fst_zip hLength.le] at hMem
    rcases List.mem_map.mp hMem with ⟨entry, hEntry, hKey⟩
    exact isSome_lastAt ⟨entry, hEntry, hKey⟩

theorem filterMap_lastAt_zip
    {items : List R}
    (hOnce : keys.Nodup)
    (hLength : keys.length = items.length) :
    keys.filterMap (lastAt (keys.zip items)) = items := by
  calc
    keys.filterMap (lastAt (keys.zip items)) =
        (keys.map (lastAt (keys.zip items))).filterMap
          id := by
      rw [List.filterMap_map]
      rfl
    _ = (items.map some).filterMap id := by
      rw [map_lastAt_zip hOnce hLength]
    _ = items := by
      rw [List.filterMap_map]
      exact List.filterMap_some

end LastAt

namespace Rows

variable {R : Type}
variable {rows : Rows R}
variable {requests : List (Upsert R)}
variable {id : Nat}

@[simp] theorem writes_cons
    (rows : Rows R)
    (request : Upsert R)
    (requests : List (Upsert R)) :
    rows.writes (request :: requests) =
      (rows.target request, request.row) ::
        (rows.upsert request).writes requests := by
  simp only [writes, targets_cons, List.map_cons,
    List.zip_cons_cons]

/- The last row written under an id, or the old one. -/
theorem get?_upserts
    (rows : Rows R)
    (requests : List (Upsert R))
    (id : Nat) :
    (rows.upserts requests).get? id =
      match lastAt (rows.writes requests) id with
      | some row => some row
      | none => rows.get? id := by
  induction requests generalizing rows with
  | nil => rfl
  | cons request requests ih =>
      rw [upserts_cons, ih, writes_cons, lastAt]
      cases
        lastAt ((rows.upsert request).writes requests) id with
      | some row => rfl
      | none =>
          simp only [get?_upsert]
          by_cases hTarget : rows.target request = id
          · simp only [if_pos hTarget]
          · simp only [if_neg hTarget]

theorem lastAt_writes_eq_none_iff :
    lastAt (rows.writes requests) id = none ↔
      id ∉ rows.targets requests := by
  have hKeys :
      (rows.writes requests).map Prod.fst =
        rows.targets requests := by
    rw [writes]
    exact
      List.map_fst_zip
        (Nat.le_of_eq (by
          rw [length_targets, List.length_map]))
  rw [← hKeys, List.mem_map]
  constructor
  · rintro hNone ⟨entry, hEntry, hKey⟩
    have hSome := isSome_lastAt ⟨entry, hEntry, hKey⟩
    rw [hNone] at hSome
    cases hSome
  · intro hNot
    apply lastAt_eq_none
    exact fun entry hEntry hKey =>
      hNot ⟨entry, hEntry, hKey⟩

theorem stored_upserts_of_stored
    (hStored : rows.stored id = true)
    (requests : List (Upsert R)) :
    (rows.upserts requests).stored id = true := by
  rw [stored, get?_upserts]
  cases lastAt (rows.writes requests) id with
  | none => exact hStored
  | some row => rfl

end Rows

end Library

------------------------------------------------------------
-- Requests That Change Nothing
------------------------------------------------------------

namespace Library

namespace Rows

variable {R : Type}
variable {rows : Rows R}
variable {request : Upsert R}
variable {requests : List (Upsert R)}

/-
  Each request names a stored row, and repeats its content
  unless a later one names the same row.
-/
def Repeats
    (rows : Rows R) :
    List (Upsert R) →
    Prop
  | [] => True
  | request :: requests =>
      (∃ id ∈ request.named, ∃ row ∈ rows.get? id,
        row = request.row ∨
          ∃ later ∈ requests, later.named = some id) ∧
        rows.Repeats requests

/- The id of a request that names one. -/
def Names
    (rows : Rows R)
    (requests : List (Upsert R)) :
    Prop :=
  ∀ request ∈ requests, ∃ id ∈ request.named,
    rows.stored id = true

theorem names_of_repeats
    (hRepeats : rows.Repeats requests) :
    rows.Names requests := by
  induction requests with
  | nil =>
      intro request hMem
      cases hMem
  | cons first rest ih =>
      intro request hMem
      rcases hRepeats with
        ⟨⟨id, hNamed, row, hGet, -⟩, hRest⟩
      rcases List.mem_cons.mp hMem with rfl | hLater
      · exact
          ⟨id, hNamed, stored_eq_true_iff.mpr ⟨row, hGet⟩⟩
      · exact ih hRest request hLater

/- A new row would be found where there was none. -/
theorem names_of_unchanged
    (hSame :
      ∀ id, (rows.upserts requests).get? id =
        rows.get? id) :
    rows.Names requests := by
  have hStored :
      (rows.upserts requests).stored = rows.stored := by
    funext id
    rw [stored, hSame id, stored]
  clear hSame
  induction requests generalizing rows with
  | nil =>
      intro request hMem
      cases hMem
  | cons first rest ih =>
      rcases upsert_cases rows first with
        ⟨id, hNamed, hId, hTarget, hUpsert⟩ |
        ⟨-, hTarget, hUpsert⟩
      · have hSet :
            (rows.upsert first).stored = rows.stored := by
          rw [hUpsert, stored_set]
        have hRest :
            (rows.upsert first).Names rest := by
          apply ih
          rw [← upserts_cons, hStored, hSet]
        intro request hMem
        rcases List.mem_cons.mp hMem with rfl | hLater
        · exact ⟨id, hNamed, hId⟩
        · rw [← hSet]
          exact hRest request hLater
      · have hNew :
            (rows.upsert first).stored rows.nextId =
              true := by
          rw [stored, get?_upsert, if_pos hTarget]
          rfl
        have hKept :=
          stored_upserts_of_stored hNew rest
        rw [← upserts_cons, hStored, stored,
          get?_nextId] at hKept
        cases hKept

/- Requests that name stored rows write to these. -/
theorem writes_of_names
    (hNames : rows.Names requests) :
    rows.writes requests =
      requests.map fun request =>
        (request.named.getD rows.nextId, request.row) := by
  suffices hWrites :
      ∀ later : Rows R,
        later.stored = rows.stored →
          later.writes requests =
            requests.map fun request =>
              (request.named.getD rows.nextId,
                request.row) from
    hWrites rows rfl
  induction requests with
  | nil =>
      intro later hStored
      rfl
  | cons first rest ih =>
      intro later hStored
      rcases hNames first List.mem_cons_self with
        ⟨id, hNamed, hId⟩
      have hRest : rows.Names rest :=
        fun request hMem =>
          hNames request (List.mem_cons_of_mem _ hMem)
      have hFilter :
          first.named.filter later.stored = some id := by
        rw [hStored, Option.mem_def.mp hNamed]
        exact if_pos hId
      have hUpsert :
          later.upsert first = later.set id first.row := by
        rw [upsert, hFilter]
      have hTarget : later.target first = id := by
        rw [target, hFilter]
        rfl
      have hTail :=
        ih hRest (later.upsert first)
          (by rw [hUpsert, stored_set, hStored])
      rw [writes_cons, hTail, hTarget, List.map_cons,
        Option.mem_def.mp hNamed]
      rfl

/- Nothing is written last to a row that none names. -/
theorem lastAt_named_eq_none_iff
    (hNames : rows.Names requests)
    (id : Nat) :
    lastAt
        (requests.map fun request =>
          (request.named.getD rows.nextId, request.row))
        id =
      none ↔
      ¬ ∃ later ∈ requests, later.named = some id := by
  constructor
  · rintro hNone ⟨later, hMem, hLater⟩
    have hKey : later.named.getD rows.nextId = id := by
      rw [hLater]
      rfl
    have hMapped :=
      List.mem_map_of_mem (f := fun request : Upsert R =>
        (request.named.getD rows.nextId, request.row)) hMem
    have hSome := isSome_lastAt ⟨_, hMapped, hKey⟩
    rw [hNone] at hSome
    cases hSome
  · intro hNot
    apply lastAt_eq_none
    intro entry hEntry hKey
    rcases List.mem_map.mp hEntry with ⟨later, hMem, rfl⟩
    rcases hNames later hMem with ⟨other, hOther, -⟩
    apply hNot
    refine ⟨later, hMem, ?_⟩
    rw [Option.mem_def.mp hOther] at hKey ⊢
    exact congrArg some hKey

theorem repeats_iff_lastAt
    (hNames : rows.Names requests) :
    rows.Repeats requests ↔
      ∀ id row,
        lastAt
            (requests.map fun request =>
              (request.named.getD rows.nextId, request.row))
            id =
          some row →
          rows.get? id = some row := by
  induction requests with
  | nil =>
      refine iff_of_true trivial ?_
      intro id row hLast
      cases hLast
  | cons first rest ih =>
      rcases hNames first List.mem_cons_self with
        ⟨named, hNamed, hStored⟩
      have hRest : rows.Names rest :=
        fun request hMem =>
          hNames request (List.mem_cons_of_mem _ hMem)
      have hId :
          first.named.getD rows.nextId = named := by
        rw [Option.mem_def.mp hNamed]
        rfl
      rw [Repeats, ih hRest, List.map_cons, hId,
        forall_lastAt_cons]
      refine and_congr_left fun _ => ?_
      rw [lastAt_named_eq_none_iff hRest named]
      rcases stored_eq_true_iff.mp hStored with ⟨row, hGet⟩
      constructor
      · rintro ⟨id, hFirst, held, hHeld, hSame⟩ hNot
        cases Option.mem_unique hNamed hFirst
        rw [hHeld, hSame.resolve_right hNot]
      · intro hLast
        refine ⟨named, hNamed, row, hGet, ?_⟩
        refine or_iff_not_imp_right.mpr ?_
        intro hNot
        rw [hLast hNot] at hGet
        exact (Option.some.inj hGet).symm

theorem mem_targets_iff_of_names
    (hNames : rows.Names requests)
    (id : Nat) :
    id ∈ rows.targets requests ↔
      ∃ request ∈ requests, request.named = some id := by
  rw [← not_iff_not, ← lastAt_writes_eq_none_iff,
    writes_of_names hNames]
  exact lastAt_named_eq_none_iff hNames id

/- When requests leave every row as it was. -/
theorem upserts_unchanged_iff
    (rows : Rows R)
    (requests : List (Upsert R)) :
    (∀ id,
      (rows.upserts requests).get? id = rows.get? id) ↔
      rows.Repeats requests := by
  constructor
  · intro hSame
    have hNames := names_of_unchanged hSame
    rw [repeats_iff_lastAt hNames, ← writes_of_names hNames]
    intro id row hLast
    rw [← hSame id, get?_upserts, hLast]
  · intro hRepeats id
    have hNames := names_of_repeats hRepeats
    have hLastAt := (repeats_iff_lastAt hNames).mp hRepeats
    rw [← writes_of_names hNames] at hLastAt
    rw [get?_upserts]
    cases hLast : lastAt (rows.writes requests) id with
    | none => rfl
    | some row => exact (hLastAt id row hLast).symm

end Rows

end Library

------------------------------------------------------------
-- Listings
------------------------------------------------------------

namespace Library

namespace Rows

variable {R : Type}

/- The rows that pass the test, by id. -/
def select
    (rows : Rows R)
    (test : R → Bool) :
    List R :=
  (List.range rows.nextId).filterMap fun id =>
    (rows.get? id).filter test

/- The result of an ordered query; ties have no order. -/
def Listing
    {K : Type}
    [LinearOrder K]
    (rows : Rows R)
    (test : R → Bool)
    (key : R → K)
    (listing : List R) :
    Prop :=
  listing.Perm (rows.select test) ∧
    listing.Pairwise fun left right => key left ≤ key right

variable {rows : Rows R}
variable {test : R → Bool}
variable {ids : List Nat}

/- The selected rows, from a list of all their ids. -/
theorem perm_select
    (hIds :
      ∀ id, ((rows.get? id).filter test).isSome = true ↔
        id ∈ ids) :
    (rows.select test).Perm
      (ids.dedup.filterMap fun id =>
        (rows.get? id).filter test) := by
  have hPerm :
      ((List.range rows.nextId).filter fun id =>
        ((rows.get? id).filter test).isSome).Perm
        ids.dedup := by
    refine
      (List.perm_ext_iff_of_nodup
        (List.nodup_range.filter _) (List.nodup_dedup ids)).mpr
        ?_
    intro id
    rw [List.mem_filter, List.mem_dedup, List.mem_range, hIds]
    refine and_iff_right_of_imp ?_
    intro hMem
    by_contra hNot
    have hSome := (hIds id).mpr hMem
    rw [rows.fresh id (Nat.le_of_not_lt hNot)] at hSome
    cases hSome
  have hSelect :
      rows.select test =
        ((List.range rows.nextId).filter fun id =>
          ((rows.get? id).filter test).isSome).filterMap
          fun id => (rows.get? id).filter test := by
    rw [List.filterMap_filter]
    apply List.filterMap_congr
    intro id _
    cases (rows.get? id).filter test with
    | none => rfl
    | some row => rfl
  rw [hSelect]
  exact hPerm.filterMap _

/- There are as many selected rows as there are ids. -/
theorem length_select
    (hIds :
      ∀ id, ((rows.get? id).filter test).isSome = true ↔
        id ∈ ids) :
    (rows.select test).length = ids.dedup.length := by
  rw [(perm_select hIds).length_eq,
    List.length_filterMap_eq_countP, List.countP_eq_length]
  intro id hId
  exact (hIds id).mpr (List.mem_dedup.mp hId)

/- Every table can be listed. -/
theorem exists_listing
    {K : Type}
    [LinearOrder K]
    (rows : Rows R)
    (test : R → Bool)
    (key : R → K) :
    ∃ listing, rows.Listing test key listing := by
  let le : R → R → Prop :=
    fun left right => key left ≤ key right
  have hTotal : Std.Total le :=
    ⟨fun left right => le_total (key left) (key right)⟩
  have hTrans : IsTrans R le :=
    ⟨fun _ _ _ hFirst hSecond => le_trans hFirst hSecond⟩
  refine ⟨(rows.select test).insertionSort le, ?_, ?_⟩
  · exact List.perm_insertionSort le _
  · exact List.pairwise_insertionSort le _

/-
  If rows were written to the given ids, and no other row
  passes the test, then the rows are listed in their strict
  order exactly when no id was written to twice.
-/
theorem listing_eq_iff
    {K : Type}
    [LinearOrder K]
    {key : R → K}
    {items : List R}
    (hRows :
      ∀ id, (rows.get? id).filter test =
        lastAt (ids.zip items) id)
    (hLength : ids.length = items.length)
    (hOrdered :
      items.Pairwise fun left right => key left < key right) :
    (∀ listing,
      rows.Listing test key listing → listing = items) ↔
      ids.Nodup := by
  have hIds :
      ∀ id, ((rows.get? id).filter test).isSome = true ↔
        id ∈ ids := by
    intro id
    rw [hRows, isSome_lastAt_zip_iff hLength]
  constructor
  · intro hAll
    rcases exists_listing rows test key with
      ⟨listing, hListing⟩
    have hCount : ids.dedup.length = ids.length := by
      rw [← length_select hIds, ← hListing.1.length_eq,
        hAll listing hListing, hLength]
    exact
      List.dedup_eq_self.mp
        ((List.dedup_sublist ids).eq_of_length hCount)
  · intro hOnce listing hListing
    have hItems : (rows.select test).Perm items := by
      have hSelect := perm_select hIds
      rw [hOnce.dedup] at hSelect
      rw [List.filterMap_congr fun id _ => hRows id,
        filterMap_lastAt_zip hOnce hLength] at hSelect
      exact hSelect
    have hKeys :
        (items.map key).Nodup := by
      rw [List.Nodup, List.pairwise_map]
      exact hOrdered.imp fun hLt => ne_of_lt hLt
    refine
      List.Perm.eq_of_pairwise ?_ hListing.2
        (hOrdered.imp fun hLt => hLt.le)
        (hListing.1.trans hItems)
    intro left right hLeft hRight hLe hGe
    apply List.inj_on_of_nodup_map hKeys
    · exact (hListing.1.trans hItems).mem_iff.mp hLeft
    · exact hRight
    · exact le_antisymm hLe hGe

end Rows

end Library
