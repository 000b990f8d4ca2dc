import Mathlib.Data.List.DropRight

/-
  Queues that keep their newest items.

  Main definitions include:
    * `Library.wholeWindows`
    * `Library.Deque`
    * `Library.Deque.append`
    * `Library.Queues.push`

  Main theorems include:
    * `Library.wholeWindows_concat`
    * `Library.rtake_append_eq_iff`
    * `Library.Deque.items_foldl_append`
    * `Library.Queues.get_foldl_push`

  A queue of a fixed capacity drops its oldest item when an
  item is appended to a full queue.  A family of queues has
  one for each key, which starts at the first item of it.
-/

------------------------------------------------------------
-- The End of a List
------------------------------------------------------------

namespace Library

variable {A : Type}

theorem length_rtake
    (items : List A)
    (n : Nat) :
    (items.rtake n).length = min n items.length := by
  rw [List.rtake, List.length_drop]
  omega

/- A list that is short enough is its own end. -/
theorem rtake_of_length_le
    {items : List A}
    {n : Nat}
    (hLength : items.length ≤ n) :
    items.rtake n = items := by
  rw [List.rtake, Nat.sub_eq_zero_of_le hLength,
    List.drop_zero]

theorem rtake_rtake
    (items : List A)
    (m n : Nat) :
    (items.rtake m).rtake n = items.rtake (min n m) := by
  simp only [List.rtake_eq_reverse_take_reverse,
    List.reverse_reverse, List.take_take]

theorem rtake_suffix_rtake
    (items : List A)
    {m n : Nat}
    (hLe : m ≤ n) :
    items.rtake m <:+ items.rtake n := by
  rw [← Nat.min_eq_left hLe, ← rtake_rtake]
  exact List.drop_suffix _ _

/- What is left behind a front is an end. -/
theorem drop_rtake
    (items : List A)
    {n index : Nat}
    (hIndex : index ≤ (items.rtake n).length) :
    (items.rtake n).drop index =
      items.rtake ((items.rtake n).length - index) := by
  rw [length_rtake] at hIndex ⊢
  simp only [List.rtake, List.drop_drop]
  congr 1
  omega

/- The stretches of `n` items, earliest first. -/
def wholeWindows
    (n : Nat)
    (items : List A) :
    List (List A) :=
  (List.range (items.length + 1 - n)).map fun start =>
    (items.drop start).take n

/- One more item ends one more stretch, if there are `n`. -/
theorem wholeWindows_concat
    {n : Nat}
    (hPos : 0 < n)
    (items : List A)
    (item : A) :
    wholeWindows n (items ++ [item]) =
      wholeWindows n items ++
        if n ≤ items.length + 1 then
          [(items ++ [item]).rtake n]
        else
          [] := by
  have hLength :
      (items ++ [item]).length = items.length + 1 := by
    rw [List.length_append, List.length_singleton]
  by_cases hLong : n ≤ items.length + 1
  · have hCount :
        (items ++ [item]).length + 1 - n =
          (items.length + 1 - n) + 1 := by
      omega
    rw [if_pos hLong, wholeWindows, hCount,
      List.range_succ, List.map_append, List.map_singleton]
    congr 1
    · apply List.map_congr_left
      intro start hStart
      have hBefore := List.mem_range.mp hStart
      rw [List.drop_append_of_le_length (by omega),
        List.take_append_of_le_length]
      rw [List.length_drop]
      omega
    · rw [List.rtake, hLength, List.take_of_length_le]
      rw [List.length_drop, hLength]
      omega
  · have hNone : ∀ count, count ≤ items.length + 1 →
        count + 1 - n = 0 := by
      intro count hCount
      omega
    rw [if_neg hLong, List.append_nil, wholeWindows,
      wholeWindows, hLength, hNone _ (le_refl _),
      hNone _ (Nat.le_succ _)]
    rfl

theorem rtake_map
    {B : Type}
    (f : A → B)
    (items : List A)
    (n : Nat) :
    (items.map f).rtake n = (items.rtake n).map f := by
  simp only [List.rtake, List.map_drop, List.length_map]

/- What precedes the end of a list has no influence. -/
theorem rtake_append_of_le
    (front : List A)
    {back : List A}
    {n : Nat}
    (hLength : n ≤ back.length) :
    (front ++ back).rtake n = back.rtake n := by
  simp only [List.rtake_eq_reverse_take_reverse,
    List.reverse_append]
  rw [List.take_append_of_le_length]
  rw [List.length_reverse]
  exact hLength

/- Forgetting the front before appending changes nothing. -/
theorem rtake_rtake_append
    (front back : List A)
    (n : Nat) :
    (front.rtake n ++ back).rtake n =
      (front ++ back).rtake n := by
  simp only [List.rtake_eq_reverse_take_reverse,
    List.reverse_append, List.reverse_reverse,
    List.take_append, List.take_take, List.length_reverse]
  rw [Nat.min_eq_left (Nat.sub_le n back.length)]

/-
  A front adds nothing to the last `n` items exactly if the
  back has all of them.
-/
theorem rtake_append_eq_iff
    (front back : List A)
    (n : Nat) :
    (front ++ back).rtake n = back.rtake n ↔
      min n (front ++ back).length ≤ back.length := by
  constructor
  · intro hSame
    have hLength := congrArg List.length hSame
    rw [length_rtake, length_rtake] at hLength
    rw [hLength]
    exact Nat.min_le_right _ _
  · intro hLength
    by_cases hShort : n ≤ back.length
    · exact rtake_append_of_le front hShort
    · have hFront : front = [] := by
        rw [List.length_append] at hLength
        apply List.eq_nil_of_length_eq_zero
        omega
      rw [hFront, List.nil_append]

end Library

------------------------------------------------------------
-- Bounded Queues
------------------------------------------------------------

namespace Library

/- A queue of at most `capacity` items, oldest first. -/
structure Deque (capacity : Nat) (A : Type) where
  items : List A
  bounded : items.length ≤ capacity

namespace Deque

variable {A : Type}
variable {capacity : Nat}

def empty : Deque capacity A where
  items := []
  bounded := Nat.zero_le _

/- Append an item; a full queue drops its oldest. -/
def append
    (queue : Deque capacity A)
    (item : A) :
    Deque capacity A where
  items := (queue.items ++ [item]).rtake capacity
  bounded := by
    rw [length_rtake]
    exact Nat.min_le_left _ _

/- A queue holds the newest of the items appended to it. -/
theorem items_foldl_append
    (queue : Deque capacity A)
    (items : List A) :
    (items.foldl append queue).items =
      (queue.items ++ items).rtake capacity := by
  induction items generalizing queue with
  | nil =>
      rw [List.foldl_nil, List.append_nil,
        rtake_of_length_le queue.bounded]
  | cons item items ih =>
      rw [List.foldl_cons, ih, append, rtake_rtake_append,
        List.append_assoc, List.singleton_append]

end Deque

end Library

------------------------------------------------------------
-- Queues by Key
------------------------------------------------------------

namespace Library

/- A queue for each key that has had an item. -/
abbrev Queues
    (K : Type)
    (capacity : Nat)
    (A : Type) :
    Type :=
  K → Option (Deque capacity A)

namespace Queues

variable {K A : Type}
variable {capacity : Nat}

/- No key has had an item. -/
def none : Queues K capacity A :=
  fun _ => Option.none

/- The items of one key, oldest first. -/
def get
    (queues : Queues K capacity A)
    (key : K) :
    List A :=
  match queues key with
  | .none => []
  | .some queue => queue.items

theorem length_get_le
    (queues : Queues K capacity A)
    (key : K) :
    (queues.get key).length ≤ capacity := by
  unfold get
  cases queues key with
  | none => exact Nat.zero_le _
  | some queue => exact queue.bounded

variable [DecidableEq K]
variable (keyOf : A → K)

/- Append an item to the queue of its key. -/
def push
    (queues : Queues K capacity A)
    (item : A) :
    Queues K capacity A :=
  fun key =>
    if key = keyOf item then
      some (((queues key).getD Deque.empty).append item)
    else
      queues key

theorem get_push_self
    (queues : Queues K capacity A)
    (item : A) :
    (queues.push keyOf item).get (keyOf item) =
      (queues.get (keyOf item) ++ [item]).rtake
        capacity := by
  simp only [get, push, if_true]
  cases queues (keyOf item) with
  | none => rfl
  | some queue => rfl

theorem get_push_of_ne
    (queues : Queues K capacity A)
    {item : A}
    {key : K}
    (hNe : key ≠ keyOf item) :
    (queues.push keyOf item).get key = queues.get key := by
  simp only [get, push, if_neg hNe]

/- Each queue holds the newest items of its key. -/
theorem get_foldl_push
    (queues : Queues K capacity A)
    (items : List A)
    (key : K) :
    (items.foldl (push keyOf) queues).get key =
      (queues.get key ++
        items.filter fun item => keyOf item = key).rtake
          capacity := by
  induction items generalizing queues with
  | nil =>
      rw [List.foldl_nil, List.filter_nil, List.append_nil,
        rtake_of_length_le (length_get_le queues key)]
  | cons item items ih =>
      rw [List.foldl_cons, ih]
      by_cases hKey : keyOf item = key
      · subst hKey
        rw [get_push_self, rtake_rtake_append,
          List.append_assoc]
        simp
      · rw [get_push_of_ne keyOf _ (Ne.symm hKey)]
        simp [hKey]

end Queues

end Library
