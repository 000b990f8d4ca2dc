import Icmp2.Library.Trace
import Mathlib.Data.List.Induction

/-
  Streaks at the end of a list.

  Main definitions include:
    * `Library.LastAll`
    * `Library.streak`

  Main theorems include:
    * `Library.lastAll_succ_concat`
    * `Library.streak_concat`
    * `Library.le_streak_iff`
    * `Library.count_run`

  A counter that grows on good entries and falls back to
  zero on the others has reached a bound exactly if that
  many entries at the end of the list are good.
-/

------------------------------------------------------------
-- The Last Entries
------------------------------------------------------------

namespace Library

variable {A : Type}
variable {p : A → Prop}

/- The last `k` entries exist and all meet `p`. -/
def LastAll
    (p : A → Prop)
    (k : Nat)
    (xs : List A) :
    Prop :=
  ∃ earlier recent,
    xs = earlier ++ recent ∧
      recent.length = k ∧
      ∀ x ∈ recent, p x

theorem lastAll_zero
    (xs : List A) :
    LastAll p 0 xs := by
  refine ⟨xs, [], (List.append_nil xs).symm, rfl, ?_⟩
  intro x hMem
  cases hMem

theorem not_lastAll_succ_nil
    (k : Nat) :
    ¬ LastAll p (k + 1) [] := by
  rintro ⟨earlier, recent, hSplit, hLength, _⟩
  have hRecent : recent = [] :=
    (List.append_eq_nil_iff.mp hSplit.symm).2
  rw [hRecent] at hLength
  cases hLength

/- The last entry counts, and then those before it. -/
theorem lastAll_succ_concat
    (k : Nat)
    (xs : List A)
    (x : A) :
    LastAll p (k + 1) (xs ++ [x]) ↔
      p x ∧ LastAll p k xs := by
  constructor
  · rintro ⟨earlier, recent, hSplit, hLength, hAll⟩
    have hRecent : recent ≠ [] := by
      intro hNil
      rw [hNil] at hLength
      cases hLength
    rcases List.eq_nil_or_concat recent with
      hNil | ⟨front, last, rfl⟩
    · exact absurd hNil hRecent
    · rw [List.concat_eq_append] at hSplit hLength hAll
      rw [← List.append_assoc] at hSplit
      have hParts := List.append_inj' hSplit rfl
      have hLast : x = last := by
        simpa using hParts.2
      have hFront : front.length = k := by
        simpa using hLength
      refine
        ⟨?_, earlier, front, hParts.1, hFront, ?_⟩
      · rw [hLast]
        exact hAll last (by simp)
      · intro y hMem
        exact hAll y (List.mem_append_left _ hMem)
  · rintro ⟨hLast, earlier, recent, rfl, hLength, hAll⟩
    refine
      ⟨earlier, recent ++ [x], ?_, ?_, ?_⟩
    · exact List.append_assoc earlier recent [x]
    · simp [hLength]
    · intro y hMem
      rcases List.mem_append.mp hMem with hOld | hNew
      · exact hAll y hOld
      · rw [List.mem_singleton.mp hNew]
        exact hLast

end Library

------------------------------------------------------------
-- Counters
------------------------------------------------------------

namespace Library

variable {A : Type}
variable {p : A → Prop} [DecidablePred p]

/- One step of the counter. -/
def nextStreak
    (p : A → Prop)
    [DecidablePred p]
    (count : Nat)
    (x : A) :
    Nat :=
  if p x then
    count + 1
  else
    0

/- A counter above zero has just counted an entry. -/
theorem of_nextStreak_pos
    {count : Nat}
    {x : A}
    (hPos : 0 < nextStreak p count x) :
    p x := by
  by_contra hNot
  rw [nextStreak, if_neg hNot] at hPos
  cases hPos

/- Counters that start in order stay in order. -/
theorem nextStreak_le
    {q : A → Prop}
    [DecidablePred q]
    {small large : Nat}
    {x : A}
    (hImplies : p x → q x)
    (hLe : small ≤ large) :
    nextStreak p small x ≤ nextStreak q large x := by
  unfold nextStreak
  split_ifs with hSmall hLarge
  · omega
  · exact absurd (hImplies hSmall) hLarge
  · omega
  · omega

/- The counter after a list, from zero. -/
def streak
    (p : A → Prop)
    [DecidablePred p]
    (xs : List A) :
    Nat :=
  xs.foldl (nextStreak p) 0

@[simp] theorem streak_nil : streak p [] = 0 := by
  rfl

@[simp] theorem streak_concat
    (xs : List A)
    (x : A) :
    streak p (xs ++ [x]) =
      nextStreak p (streak p xs) x := by
  simp [streak, List.foldl_append]

/- The counter reaches what the last entries give it. -/
theorem le_streak_iff
    (k : Nat)
    (xs : List A) :
    k ≤ streak p xs ↔ LastAll p k xs := by
  induction xs using List.reverseRecOn generalizing k with
  | nil =>
      cases k with
      | zero => simp [lastAll_zero]
      | succ k => simp [not_lastAll_succ_nil]
  | append_singleton xs x ih =>
      cases k with
      | zero => simp [lastAll_zero]
      | succ k =>
          rw [lastAll_succ_concat, ← ih k, streak_concat]
          unfold nextStreak
          by_cases hGood : p x
          · rw [if_pos hGood]
            simp [hGood]
          · rw [if_neg hGood]
            simp [hGood]

variable {S : Type}

/-
  A component of a state that its own operations count and
  that the others leave alone is the counter of its own
  operations.
-/
theorem count_run
    {step : S → A → S}
    (count : S → Nat)
    (mine : A → Prop)
    [DecidablePred mine]
    (hMine :
      ∀ state x,
        mine x →
        count (step state x) =
          nextStreak p (count state) x)
    (hOther :
      ∀ state x,
        ¬ mine x → count (step state x) = count state)
    {state : S}
    (hStart : count state = 0)
    (xs : List A) :
    count (run step state xs) =
      streak p (xs.filter fun x => mine x) := by
  induction xs using List.reverseRecOn with
  | nil => exact hStart
  | append_singleton xs x ih =>
      rw [run_append, run_cons, run_nil, List.filter_append]
      by_cases hOwn : mine x
      · rw [hMine _ x hOwn, ih]
        simp [hOwn]
      · rw [hOther _ x hOwn, ih]
        simp [hOwn]

end Library
