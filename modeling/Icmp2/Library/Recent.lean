import Icmp2.Library.Deque

/-
  Keys that are refused while they are remembered.

  Main definitions include:
    * `Library.Deque.remember`
    * `Library.Spaced`

  Main theorems include:
    * `Library.Deque.items_foldl_remember`
    * `Library.Spaced.append`

  A memory of the newest `n` keys of a log keeps the entries
  of one key more than `n` places apart, if only keys that
  it does not hold are written to the log.
-/

------------------------------------------------------------
-- Memories
------------------------------------------------------------

namespace Library

namespace Deque

variable {K : Type} [DecidableEq K]
variable {n : Nat}

/- A key that is held already keeps its place. -/
def remember
    (memory : Deque n K)
    (key : K) :
    Deque n K :=
  if key ∈ memory.items then memory else memory.append key

/- What is remembered after a key was there or is the key. -/
theorem of_mem_remember
    {memory : Deque n K}
    {key other : K}
    (hMem : other ∈ (memory.remember key).items) :
    other ∈ memory.items ∨ other = key := by
  unfold remember at hMem
  split at hMem
  · exact Or.inl hMem
  · have hAppend :
        other ∈ memory.items ++ [key] :=
      List.mem_of_mem_drop hMem
    rcases List.mem_append.mp hAppend with hOld | hNew
    · exact Or.inl hOld
    · exact Or.inr (List.mem_singleton.mp hNew)

/- New keys push out the oldest ones. -/
theorem items_foldl_remember
    (memory : Deque n K)
    {keys : List K}
    (hOnce : keys.Nodup)
    (hNew : ∀ key ∈ keys, key ∉ memory.items) :
    (keys.foldl remember memory).items =
      (memory.items ++ keys).rtake n := by
  induction keys generalizing memory with
  | nil =>
      rw [List.foldl_nil, List.append_nil,
        rtake_of_length_le memory.bounded]
  | cons key keys ih =>
      have hParts := List.nodup_cons.mp hOnce
      have hKey : key ∉ memory.items :=
        hNew key List.mem_cons_self
      rw [List.foldl_cons, ih _ hParts.2]
      · rw [remember, if_neg hKey, append,
          rtake_rtake_append, List.append_assoc,
          List.singleton_append]
      · intro other hOther hMem
        rcases of_mem_remember hMem with hOld | rfl
        · exact
            hNew other (List.mem_cons_of_mem key hOther) hOld
        · exact hParts.1 hOther

end Deque

end Library

------------------------------------------------------------
-- Spaced Logs
------------------------------------------------------------

namespace Library

variable {K : Type}

/- Between two entries of one key are at least `n` others. -/
def Spaced
    (n : Nat)
    (log : List K) :
    Prop :=
  ∀ i j key,
    i < j →
    log[i]? = some key →
    log[j]? = some key →
      i + n < j

/- The newest `n` entries, by place. -/
theorem mem_rtake_of_getElem?
    {log : List K}
    {key : K}
    {n i : Nat}
    (hGet : log[i]? = some key)
    (hNear : log.length ≤ i + n) :
    key ∈ log.rtake n := by
  rw [List.rtake, List.mem_iff_getElem?]
  refine ⟨i - (log.length - n), ?_⟩
  rw [List.getElem?_drop, ← hGet]
  congr 1
  omega

/- Keys outside the newest `n` may be written again. -/
theorem Spaced.append
    {n : Nat}
    {log block : List K}
    (hSpaced : Spaced n log)
    (hOnce : block.Nodup)
    (hNew : ∀ key ∈ block, key ∉ log.rtake n) :
    Spaced n (log ++ block) := by
  intro i j key hLt hFirst hSecond
  by_cases hLater : j < log.length
  · rw [List.getElem?_append_left hLater] at hSecond
    rw [List.getElem?_append_left (hLt.trans hLater)]
      at hFirst
    exact hSpaced i j key hLt hFirst hSecond
  · have hBlock : log.length ≤ j := Nat.le_of_not_lt hLater
    rw [List.getElem?_append_right hBlock] at hSecond
    have hMem : key ∈ block :=
      List.mem_of_getElem? hSecond
    by_cases hEarlier : i < log.length
    · rw [List.getElem?_append_left hEarlier] at hFirst
      by_contra hNear
      exact
        hNew key hMem
          (mem_rtake_of_getElem? hFirst (by omega))
    · rw [List.getElem?_append_right
        (Nat.le_of_not_lt hEarlier)] at hFirst
      have hSame :
          i - log.length = j - log.length :=
        (List.getElem?_inj
          (List.getElem?_eq_some_iff.mp hFirst).1
          hOnce).mp (hFirst.trans hSecond.symm)
      omega

end Library
