import Mathlib.Data.List.Nodup

/-
  Insertion-ordered dictionaries.

  Main definitions include:
    * `Library.Dict`
    * `Library.Dict.set`
    * `Library.Dict.ofPairs`

  Main theorems include:
    * `Library.filter_filterMap_of_key`
    * `Library.Dict.filter_ofPairs`
    * `Library.Dict.mem_ofPairs_of_unique`
    * `Library.Dict.mem_keys_ofPairs`

  Setting a key that is present replaces its value in
  place; setting a new key appends it.  A dictionary built
  from a list of pairs thus keeps the first position and
  the last value of every key.
-/

------------------------------------------------------------
-- Selection by Key
------------------------------------------------------------

namespace Library

variable {A B : Type}

/-
  Where a partial map keeps the key of its argument, the
  images can be selected before or after mapping.
-/
theorem filter_filterMap_of_key
    {f : A → Option B}
    {keepArgument : A → Bool}
    {keepImage : B → Bool}
    (hKey :
      ∀ a b, f a = some b → keepImage b = keepArgument a)
    (list : List A) :
    (list.filterMap f).filter keepImage =
      (list.filter keepArgument).filterMap f := by
  induction list with
  | nil => rfl
  | cons a list ih =>
      cases hImage : f a with
      | none =>
          rw [List.filterMap_cons_none hImage, ih]
          cases hKeep : keepArgument a with
          | true =>
              rw [List.filter_cons_of_pos hKeep,
                List.filterMap_cons_none hImage]
          | false =>
              rw [List.filter_cons_of_neg (by simp [hKeep])]
      | some b =>
          have hSame := hKey a b hImage
          rw [List.filterMap_cons_some hImage]
          cases hKeep : keepArgument a with
          | true =>
              rw [hKeep] at hSame
              rw [List.filter_cons_of_pos hSame,
                List.filter_cons_of_pos hKeep,
                List.filterMap_cons_some hImage, ih]
          | false =>
              rw [hKeep] at hSame
              rw [List.filter_cons_of_neg (by simp [hSame]),
                List.filter_cons_of_neg (by simp [hKeep]),
                ih]

end Library

------------------------------------------------------------
-- Dictionaries
------------------------------------------------------------

namespace Library

/- Entries with pairwise different keys, in order. -/
structure Dict (K V : Type) where
  entries : List (K × V)
  nodup : (entries.map Prod.fst).Nodup

namespace Dict

variable {K V : Type} [DecidableEq K]

/- Replace the value of `key` or append the entry. -/
def setEntries
    (key : K)
    (value : V) :
    List (K × V) → List (K × V)
  | [] => [(key, value)]
  | entry :: entries =>
      if entry.1 = key then
        (key, value) :: entries
      else
        entry :: setEntries key value entries

theorem mem_keys_setEntries
    (key : K)
    (value : V)
    (entries : List (K × V))
    (other : K) :
    other ∈ (setEntries key value entries).map Prod.fst ↔
      other = key ∨ other ∈ entries.map Prod.fst := by
  induction entries with
  | nil =>
      simp [setEntries]
  | cons entry entries ih =>
      by_cases hKey : entry.1 = key
      · simp [setEntries, hKey]
      · simp only [setEntries, if_neg hKey,
          List.map_cons, List.mem_cons, ih]
        constructor
        · rintro (hHead | hSet | hTail)
          · exact Or.inr (Or.inl hHead)
          · exact Or.inl hSet
          · exact Or.inr (Or.inr hTail)
        · rintro (hSet | hHead | hTail)
          · exact Or.inr (Or.inl hSet)
          · exact Or.inl hHead
          · exact Or.inr (Or.inr hTail)

theorem nodup_setEntries
    (key : K)
    (value : V)
    {entries : List (K × V)}
    (hNodup : (entries.map Prod.fst).Nodup) :
    ((setEntries key value entries).map
      Prod.fst).Nodup := by
  induction entries with
  | nil =>
      simp [setEntries]
  | cons entry entries ih =>
      rw [List.map_cons, List.nodup_cons] at hNodup
      by_cases hKey : entry.1 = key
      · rw [hKey] at hNodup
        simpa [setEntries, hKey] using hNodup
      · simp only [setEntries, if_neg hKey,
          List.map_cons, List.nodup_cons,
          mem_keys_setEntries]
        refine ⟨?_, ih hNodup.2⟩
        rintro (hSame | hTail)
        · exact hKey hSame
        · exact hNodup.1 hTail

/- The dictionary without entries. -/
def empty : Dict K V :=
  ⟨[], List.nodup_nil⟩

/- Python's `dict[key] = value`. -/
def set
    (dict : Dict K V)
    (key : K)
    (value : V) :
    Dict K V :=
  ⟨setEntries key value dict.entries,
    nodup_setEntries key value dict.nodup⟩

/- Set the pairs one after the other. -/
def setAll
    (dict : Dict K V) :
    List (K × V) → Dict K V
  | [] => dict
  | pair :: pairs => (dict.set pair.1 pair.2).setAll pairs

/- A dictionary comprehension over a list of pairs. -/
def ofPairs
    (pairs : List (K × V)) :
    Dict K V :=
  empty.setAll pairs

omit [DecidableEq K] in
/- Entries are determined by their keys. -/
theorem value_unique
    (dict : Dict K V)
    {key : K}
    {left right : V}
    (hLeft : (key, left) ∈ dict.entries)
    (hRight : (key, right) ∈ dict.entries) :
    left = right := by
  have hSame :=
    List.inj_on_of_nodup_map dict.nodup hLeft hRight rfl
  exact congrArg Prod.snd hSame

end Dict

end Library

------------------------------------------------------------
-- Dictionaries From Pairs
------------------------------------------------------------

namespace Library

namespace Dict

variable {K V : Type} [DecidableEq K]

private theorem filter_setEntries_of_false
    (keep : K → Bool)
    {key : K}
    (value : V)
    (entries : List (K × V))
    (hDrop : keep key = false) :
    (setEntries key value entries).filter
        (fun entry => keep entry.1) =
      entries.filter (fun entry => keep entry.1) := by
  induction entries with
  | nil =>
      simp [setEntries, hDrop]
  | cons entry entries ih =>
      by_cases hKey : entry.1 = key
      · simp [setEntries, hKey, hDrop]
      · simp [setEntries, hKey, List.filter_cons, ih]

private theorem filter_setEntries_of_true
    (keep : K → Bool)
    {key : K}
    (value : V)
    (entries : List (K × V))
    (hKeep : keep key = true) :
    (setEntries key value entries).filter
        (fun entry => keep entry.1) =
      setEntries key value
        (entries.filter (fun entry => keep entry.1)) := by
  induction entries with
  | nil =>
      simp [setEntries, hKeep]
  | cons entry entries ih =>
      by_cases hKey : entry.1 = key
      · simp [setEntries, hKey, hKeep]
      · cases hEntry : keep entry.1 with
        | true =>
            simp [setEntries, hKey, hEntry, ih]
        | false =>
            simp [setEntries, hKey, hEntry, ih]

private theorem filter_setAll
    (keep : K → Bool)
    (dict other : Dict K V)
    (pairs : List (K × V))
    (hSame :
      dict.entries.filter (fun entry => keep entry.1) =
        other.entries) :
    (dict.setAll pairs).entries.filter
        (fun entry => keep entry.1) =
      (other.setAll
        (pairs.filter fun pair => keep pair.1)).entries := by
  induction pairs generalizing dict other with
  | nil =>
      exact hSame
  | cons pair pairs ih =>
      cases hPair : keep pair.1 with
      | true =>
          simp only [List.filter_cons, hPair, if_true,
            setAll]
          apply ih
          simp only [set]
          rw [filter_setEntries_of_true
            keep pair.2 dict.entries hPair, hSame]
      | false =>
          simp only [List.filter_cons, hPair,
            Bool.false_eq_true, if_false, setAll]
          apply ih
          simp only [set]
          rw [filter_setEntries_of_false
            keep pair.2 dict.entries hPair, hSame]

/- Dropping keys commutes with building the dictionary. -/
theorem filter_ofPairs
    (keep : K → Bool)
    (pairs : List (K × V)) :
    (ofPairs pairs).entries.filter
        (fun entry => keep entry.1) =
      (ofPairs
        (pairs.filter fun pair => keep pair.1)).entries :=
  filter_setAll keep empty empty pairs rfl

private theorem mem_setEntries
    {key : K}
    {value : V}
    {entries : List (K × V)}
    {entry : K × V}
    (hMem : entry ∈ setEntries key value entries) :
    entry = (key, value) ∨ entry ∈ entries := by
  induction entries with
  | nil =>
      exact Or.inl (List.mem_singleton.mp hMem)
  | cons head entries ih =>
      by_cases hKey : head.1 = key
      · simp only [setEntries, if_pos hKey,
          List.mem_cons] at hMem
        rcases hMem with hHead | hTail
        · exact Or.inl hHead
        · exact Or.inr (List.mem_cons_of_mem head hTail)
      · simp only [setEntries, if_neg hKey,
          List.mem_cons] at hMem
        rcases hMem with hHead | hTail
        · exact Or.inr (hHead ▸ List.mem_cons_self)
        · rcases ih hTail with hSet | hOld
          · exact Or.inl hSet
          · exact
              Or.inr (List.mem_cons_of_mem head hOld)

private theorem mem_setAll
    {dict : Dict K V}
    {pairs : List (K × V)}
    {entry : K × V}
    (hMem : entry ∈ (dict.setAll pairs).entries) :
    entry ∈ dict.entries ∨ entry ∈ pairs := by
  induction pairs generalizing dict with
  | nil =>
      exact Or.inl hMem
  | cons pair pairs ih =>
      rcases ih hMem with hSet | hTail
      · rcases mem_setEntries hSet with hPair | hOld
        · exact Or.inr (hPair ▸ List.mem_cons_self)
        · exact Or.inl hOld
      · exact Or.inr (List.mem_cons_of_mem pair hTail)

/- Every entry was given as a pair. -/
theorem mem_of_mem_ofPairs
    {pairs : List (K × V)}
    {entry : K × V}
    (hMem : entry ∈ (ofPairs pairs).entries) :
    entry ∈ pairs := by
  rcases mem_setAll hMem with hEmpty | hPair
  · simp [empty] at hEmpty
  · exact hPair

private theorem mem_keys_setAll
    (dict : Dict K V)
    (pairs : List (K × V))
    (key : K) :
    key ∈ (dict.setAll pairs).entries.map Prod.fst ↔
      key ∈ dict.entries.map Prod.fst ∨
        key ∈ pairs.map Prod.fst := by
  induction pairs generalizing dict with
  | nil =>
      simp [setAll]
  | cons pair pairs ih =>
      rw [setAll, ih, set, mem_keys_setEntries,
        List.map_cons, List.mem_cons, or_left_comm,
        or_assoc]

/- The keys are those of the pairs. -/
theorem mem_keys_ofPairs
    (pairs : List (K × V))
    (key : K) :
    key ∈ (ofPairs pairs).entries.map Prod.fst ↔
      key ∈ pairs.map Prod.fst := by
  rw [ofPairs, mem_keys_setAll]
  simp [empty]

/- A key given one value only keeps that value. -/
theorem mem_ofPairs_of_unique
    {pairs : List (K × V)}
    {key : K}
    {value : V}
    (hMem : (key, value) ∈ pairs)
    (hUnique :
      ∀ other, (key, other) ∈ pairs → other = value) :
    (key, value) ∈ (ofPairs pairs).entries := by
  have hKey :
      key ∈ (ofPairs pairs).entries.map Prod.fst := by
    rw [mem_keys_ofPairs]
    exact List.mem_map_of_mem hMem
  rcases List.mem_map.mp hKey with
    ⟨⟨found, other⟩, hEntry, rfl⟩
  have hOther : other = value :=
    hUnique other (mem_of_mem_ofPairs hEntry)
  rw [← hOther]
  exact hEntry

end Dict

end Library
