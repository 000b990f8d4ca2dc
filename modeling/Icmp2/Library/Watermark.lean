import Icmp2.Library.Trace
import Mathlib.Order.Lattice
import Mathlib.Data.List.Basic

/-
  Times that are accepted above a mark.

  Main definitions include:
    * `Library.Watermark`
    * `Library.Watermark.accept`

  Main theorems include:
    * `Library.Watermark.pairwise_run_accept_iff`

  A mark remembers the last accepted time and turns down
  every time that is not later.  Where times were recorded
  without a mark, the first time to come decides.
-/

------------------------------------------------------------
-- Marks
------------------------------------------------------------

namespace Library

variable {T : Type}
variable [LinearOrder T]

/- The mark, and the times recorded so far. -/
structure Watermark (T : Type) where
  mark : Option T
  times : List T

namespace Watermark

/- Record a time and mark it, unless the mark is as late. -/
def accept
    (state : Watermark T)
    (time : T) :
    Watermark T :=
  if ∃ mark ∈ state.mark, time ≤ mark then
    state
  else
    { mark := some time
      times := state.times ++ [time] }

/- The recorded times increase and none exceeds the mark. -/
structure Guarded
    (state : Watermark T) :
    Prop where
  increasing : state.times.Pairwise (· < ·)
  marked :
    ∀ mark ∈ state.mark,
      ∀ time ∈ state.times, time ≤ mark

variable {state : Watermark T}

theorem accept_of_mark
    {mark time : T}
    (hMark : state.mark = some mark)
    (hLe : time ≤ mark) :
    state.accept time = state := by
  rw [accept, if_pos ⟨mark, hMark, hLe⟩]

theorem accept_of_later
    {time : T}
    (hLater : ∀ mark ∈ state.mark, mark < time) :
    state.accept time =
      { mark := some time
        times := state.times ++ [time] } := by
  rw [accept, if_neg]
  rintro ⟨mark, hMark, hLe⟩
  exact absurd (hLater mark hMark) (not_lt.mpr hLe)

/- A time after all recorded ones can be recorded. -/
theorem Guarded.record
    (hGuarded : state.Guarded)
    {time : T}
    (hAfter : ∀ earlier ∈ state.times, earlier < time) :
    Guarded
      { mark := some time
        times := state.times ++ [time] } where
  increasing := by
    rw [List.pairwise_append]
    refine
      ⟨hGuarded.increasing, List.pairwise_singleton _ _, ?_⟩
    intro earlier hEarlier later hLater
    rw [List.mem_singleton.mp hLater]
    exact hAfter earlier hEarlier
  marked := by
    intro mark hMark earlier hEarlier
    rw [Option.mem_def, Option.some.injEq] at hMark
    subst hMark
    rcases List.mem_append.mp hEarlier with hOld | hNew
    · exact (hAfter earlier hOld).le
    · exact (List.mem_singleton.mp hNew).le

/- With a mark, every further time is safe. -/
theorem Guarded.accept
    (hGuarded : state.Guarded)
    (hMark : state.mark ≠ none)
    (time : T) :
    (state.accept time).Guarded ∧
      (state.accept time).mark ≠ none := by
  rcases Option.ne_none_iff_exists'.mp hMark with
    ⟨mark, hMark⟩
  rcases le_or_gt time mark with hLe | hLt
  · rw [accept_of_mark hMark hLe]
    exact ⟨hGuarded, by simp [hMark]⟩
  · have hLater :
        ∀ other ∈ state.mark, other < time := by
      intro other hOther
      rw [hMark] at hOther
      rw [← Option.some.inj hOther]
      exact hLt
    rw [accept_of_later hLater]
    refine ⟨hGuarded.record ?_, Option.some_ne_none _⟩
    intro earlier hEarlier
    exact
      (hGuarded.marked mark hMark earlier hEarlier).trans_lt
        hLt

theorem Guarded.run_accept
    (hGuarded : state.Guarded)
    (hMark : state.mark ≠ none)
    (times : List T) :
    (run Watermark.accept state times).Guarded :=
  (run_invariant
    (I := fun later : Watermark T =>
      later.Guarded ∧ later.mark ≠ none)
    (fun _ time hLater =>
      hLater.1.accept hLater.2 time)
    ⟨hGuarded, hMark⟩ times).1

/- What is recorded stays recorded. -/
theorem times_run_accept
    (state : Watermark T)
    (times : List T) :
    state.times <+: (run Watermark.accept state times).times :=
  run_invariant
    (I := fun later : Watermark T =>
      state.times <+: later.times)
    (fun later time hLater => by
      unfold Watermark.accept
      split
      · exact hLater
      · exact hLater.trans (List.prefix_append _ _))
    (List.prefix_refl _) times

/-
  The recorded times stay increasing exactly if there is a
  mark or the first time is later than all of them.
-/
theorem pairwise_run_accept_iff
    (hGuarded : state.Guarded)
    (times : List T) :
    (run Watermark.accept state times).times.Pairwise
        (· < ·) ↔
      (state.mark = none →
        ∀ first ∈ times.head?,
          ∀ earlier ∈ state.times, earlier < first) := by
  by_cases hMark : state.mark = none
  · cases times with
    | nil =>
        constructor
        · intro _ _ first hFirst
          cases hFirst
        · intro _
          exact hGuarded.increasing
    | cons first times =>
        have hLater :
            ∀ mark ∈ state.mark, mark < first := by
          intro mark hSome
          rw [hMark] at hSome
          cases hSome
        rw [run_cons, accept_of_later hLater]
        constructor
        · intro hPairwise _ head hHead earlier hEarlier
          rw [List.head?_cons, Option.mem_def,
            Option.some.injEq] at hHead
          subst hHead
          have hPrefix :=
            hPairwise.sublist
              (times_run_accept
                { mark := some first
                  times := state.times ++ [first] }
                times).sublist
          rw [List.pairwise_append] at hPrefix
          exact
            hPrefix.2.2 earlier hEarlier first
              List.mem_cons_self
        · intro hAfter
          exact
            ((hGuarded.record
              (hAfter hMark first rfl)).run_accept
              (Option.some_ne_none _) times).increasing
  · constructor
    · intro _ hNone
      exact absurd hNone hMark
    · intro _
      exact (hGuarded.run_accept hMark times).increasing

end Watermark

end Library
