import Icmp2.Library.Action
import Icmp2.Library.Trace

/-
  Loops of actions, and blocks that are undone as a whole.

  Main definitions include:
    * `Library.Action.attempt`
    * `Library.Action.atomically`
    * `Library.Action.forEach`
    * `Library.Action.countEach`

  Main theorems include:
    * `Library.Action.forEach_eq_ok_iff`
    * `Library.Action.countEach_eq`
    * `Library.Action.atomically_eq_error`
    * `Library.run_commute`
    * `Library.along_commute`

  An action that is put into a loop either does a step of a
  plain step function or raises an exception; then the loop
  is a run of the step function, or raises one.
-/

------------------------------------------------------------
-- Blocks
------------------------------------------------------------

namespace Library

namespace Action

variable {E S R T : Type}

/- Whether the action returns; its exception is dropped. -/
def attempt
    (action : Action E S R) :
    Action E S Bool := fun state =>
  match action state with
  | .ok _ later => .ok true later
  | .error _ later => .ok false later

/- A block whose writes are undone by an exception. -/
def atomically
    (undo : S → S → S)
    (action : Action E S R) :
    Action E S R := fun state =>
  match action state with
  | .ok value later => .ok value later
  | .error error later => .error error (undo state later)

/- One action after the other. -/
def forEach
    (act : T → Action E S Unit) :
    List T → Action E S Unit
  | [] => pure ()
  | item :: items => do
      act item
      forEach act items

/- One action after the other, with a count of the hits. -/
def countEach
    (act : T → Action E S Bool) :
    List T → Action E S Nat
  | [] => pure 0
  | item :: items => do
      let hit ← act item
      let count ← countEach act items
      pure (hit.toNat + count)

variable {state later : S}

theorem atomically_eq_ok_iff
    {undo : S → S → S}
    {action : Action E S R}
    {value : R} :
    atomically undo action state = .ok value later ↔
      action state = .ok value later := by
  unfold atomically
  cases action state with
  | ok first after => exact Iff.rfl
  | error error after =>
      exact iff_of_false nofun nofun

/- After an exception a block has done nothing. -/
theorem atomically_eq_error
    {undo : S → S → S}
    {action : Action E S R}
    {error : E}
    (hError :
      atomically undo action state = .error error later) :
    ∃ after,
      action state = .error error after ∧
        later = undo state after := by
  unfold atomically at hError
  cases hAction : action state with
  | ok value after =>
      rw [hAction] at hError
      cases hError
  | error raised after =>
      rw [hAction] at hError
      cases hError
      exact ⟨after, rfl, rfl⟩

end Action

end Library

------------------------------------------------------------
-- Loops
------------------------------------------------------------

namespace Library

namespace Action

section Loops

variable {E S T : Type}
variable {I : S → Prop}
variable {step : S → T → S}
variable {Good : S → T → Prop}
variable {state later : S}

/-
  In states of the invariant the action does the step where
  it is good, and raises an exception where it is not.
-/
structure Steps
    (I : S → Prop)
    (step : S → T → S)
    (Good : S → T → Prop)
    (act : T → Action E S Unit) :
    Prop where
  returns :
    ∀ state item,
      I state → Good state item →
        act item state = .ok () (step state item)
  raises :
    ∀ state item,
      I state → ¬ Good state item →
        ∃ error later, act item state = .error error later
  keeps :
    ∀ state item,
      I state → Good state item → I (step state item)

variable {act : T → Action E S Unit}

theorem Steps.good_of_ok
    (hSteps : Steps I step Good act)
    (hState : I state)
    {item : T}
    (hOk : act item state = .ok () later) :
    Good state item ∧ later = step state item := by
  by_cases hGood : Good state item
  · have hStep := hSteps.returns state item hState hGood
    rw [hOk] at hStep
    injection hStep with _ hLater
    exact ⟨hGood, hLater⟩
  · rcases hSteps.raises state item hState hGood with
      ⟨error, after, hError⟩
    rw [hOk] at hError
    cases hError

/- A loop returns exactly if all of its steps are good. -/
theorem forEach_eq_ok_iff
    (hSteps : Steps I step Good act)
    (hState : I state)
    (items : List T) :
    forEach act items state = .ok () later ↔
      Along step Good state items ∧
        later = run step state items := by
  induction items generalizing state with
  | nil =>
      constructor
      · intro hOk
        injection hOk with _ hLater
        exact ⟨trivial, hLater.symm⟩
      · rintro ⟨_, rfl⟩
        rfl
  | cons item items ih =>
      rw [forEach, bind_eq_ok_iff]
      constructor
      · rintro ⟨_, middle, hFirst, hRest⟩
        rcases hSteps.good_of_ok hState hFirst with
          ⟨hGood, rfl⟩
        have hNext := hSteps.keeps state item hState hGood
        rcases (ih hNext).mp hRest with ⟨hAlong, hLater⟩
        exact ⟨⟨hGood, hAlong⟩, hLater⟩
      · rintro ⟨⟨hGood, hAlong⟩, hLater⟩
        have hNext := hSteps.keeps state item hState hGood
        exact
          ⟨(), step state item,
            hSteps.returns state item hState hGood,
            (ih hNext).mpr ⟨hAlong, hLater⟩⟩

/- A loop whose actions all return is a run. -/
theorem countEach_eq
    {act : T → Action E S Bool}
    {hit : T → Bool}
    {I : S → List T → Prop}
    (hAct :
      ∀ state item items,
        I state (item :: items) →
          act item state =
              .ok (hit item) (step state item) ∧
            I (step state item) items)
    {items : List T}
    (hStart : I state items) :
    countEach act items state =
      .ok (items.countP hit) (run step state items) := by
  induction items generalizing state with
  | nil => rfl
  | cons item items ih =>
      rcases hAct state item items hStart with
        ⟨hFirst, hNext⟩
      rw [countEach, bind_of_ok hFirst, bind_of_ok (ih hNext),
        List.countP_cons, run_cons, Nat.add_comm]
      cases hit item <;> rfl

end Loops

end Action

end Library

------------------------------------------------------------
-- Runs from a Changed State
------------------------------------------------------------

namespace Library

section Commuting

variable {S T : Type}
variable {step : S → T → S}
variable {P : S → T → Prop}
variable {f : S → S}

/- A change that the steps do not see is left to the end. -/
theorem run_commute
    (hStep :
      ∀ state item,
        step (f state) item = f (step state item))
    (state : S)
    (items : List T) :
    run step (f state) items = f (run step state items) := by
  induction items generalizing state with
  | nil => rfl
  | cons item items ih =>
      rw [run_cons, hStep, ih, run_cons]

theorem along_commute
    (hStep :
      ∀ state item,
        step (f state) item = f (step state item))
    (hP : ∀ state item, P (f state) item ↔ P state item)
    (state : S)
    (items : List T) :
    Along step P (f state) items ↔
      Along step P state items := by
  induction items generalizing state with
  | nil => exact Iff.rfl
  | cons item items ih =>
      rw [Along, Along, hStep, hP, ih]

end Commuting

end Library
