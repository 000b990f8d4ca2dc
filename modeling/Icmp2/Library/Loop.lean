/-
  Loops that an exception ends.

  Main definitions include:
    * `Library.forEach`
    * `Library.caught`

  Main theorems include:
    * `Library.forEach_simulates`
    * `Library.foldl_caught_simulates`
    * `Library.foldlM_eq_of_fails`

  A step that throws leaves the state as it is at that
  moment, and the rest of the loop is not run.
-/

namespace Library

variable {S A : Type}

/- Run a step on each item until one of them throws. -/
def forEach
    (step : S → A → Except S S) :
    S → List A → Except S S
  | state, [] => .ok state
  | state, item :: items =>
      match step state item with
      | .ok later => forEach step later items
      | .error left => .error left

/- The state in which a caller that catches goes on. -/
def caught : Except S S → S
  | .ok state => state
  | .error state => state

section Simulation

variable {T : Type}
variable {R : S → T → Prop}
variable {step : S → A → Except S S}
variable {model : T → A → T}
variable {items : List A}
variable
  (hStep :
    ∀ item ∈ items, ∀ state abstract,
      R state abstract →
      ∃ later,
        step state item = .ok later ∧
          R later (model abstract item))
include hStep

/-
  If on the items of a loop no step throws and each follows
  the model, the loop ends regularly and follows the model.
-/
theorem forEach_simulates
    {state : S}
    {abstract : T}
    (hStart : R state abstract) :
    ∃ later,
      forEach step state items = .ok later ∧
        R later (items.foldl model abstract) := by
  induction items generalizing state abstract with
  | nil => exact ⟨state, rfl, hStart⟩
  | cons item items ih =>
      rcases hStep item (.head _) state abstract hStart with
        ⟨next, hNext, hRelated⟩
      rcases ih
          (fun other hMem => hStep other (.tail _ hMem))
          hRelated with
        ⟨later, hLater, hEnd⟩
      refine ⟨later, ?_, hEnd⟩
      simp only [forEach, hNext]
      exact hLater

/- The same where each step is caught by itself. -/
theorem foldl_caught_simulates
    {state : S}
    {abstract : T}
    (hStart : R state abstract) :
    R
      (items.foldl
        (fun state item => caught (step state item)) state)
      (items.foldl model abstract) := by
  induction items generalizing state abstract with
  | nil => exact hStart
  | cons item items ih =>
      rcases hStep item (.head _) state abstract hStart with
        ⟨next, hNext, hRelated⟩
      rw [List.foldl_cons, List.foldl_cons, hNext]
      exact
        ih (fun other hMem => hStep other (.tail _ hMem))
          hRelated

end Simulation

/-
  Where only some items make a step fail, in any state, the
  loop fails if it has such an item.
-/
theorem foldlM_eq_of_fails
    {step : S → A → Option S}
    {model : S → A → S}
    {Fails : A → Prop}
    [DecidablePred Fails]
    (hStep :
      ∀ state item,
        step state item =
          if Fails item then none
          else some (model state item))
    (items : List A)
    (state : S) :
    items.foldlM step state =
      if ∃ item ∈ items, Fails item then none
      else some (items.foldl model state) := by
  induction items generalizing state with
  | nil => simp
  | cons item items ih =>
      rw [List.foldlM_cons, hStep]
      by_cases hFails : Fails item
      · rw [if_pos hFails,
          if_pos ⟨item, List.mem_cons_self, hFails⟩]
        rfl
      · rw [if_neg hFails, Option.bind_eq_bind,
          Option.bind_some, ih]
        simp only [List.mem_cons, exists_eq_or_imp, hFails,
          false_or, List.foldl_cons]

end Library
