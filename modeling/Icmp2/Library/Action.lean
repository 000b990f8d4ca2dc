import Mathlib.Logic.Basic

/-
  Actions that can raise, and calls that trigger calls.

  Main definitions include:
    * `Library.Action`
    * `Library.Action.stateAfter`
    * `Library.Action.bracket`
    * `Library.Action.ignoring`
    * `Library.Action.Blind`
    * `Library.cascade`
    * `Library.Shielded`

  Main theorems include:
    * `Library.of_except_bind_ok`
    * `Library.Action.bind_of_ok`
    * `Library.Action.bind_of_error`
    * `Library.Action.bind_eq_ok_iff`
    * `Library.Action.Blind.stateAfter_bracket`
    * `Library.Shielded.cascade_eq`

  An action that raises keeps what it wrote before.  A call
  whose handling makes further calls is run to a depth; if
  the further calls run under a guard that silences their
  own handling, a depth of two is enough.
-/

------------------------------------------------------------
-- Results
------------------------------------------------------------

namespace Library

/- A sequence of results ends well if both parts do. -/
theorem of_except_bind_ok
    {E R T : Type}
    {first : Except E R}
    {next : R → Except E T}
    {value : T}
    (hOk : (first >>= next) = .ok value) :
    ∃ middle, first = .ok middle ∧ next middle = .ok value := by
  cases hFirst : first with
  | error fault =>
      rw [hFirst] at hOk
      cases hOk
  | ok middle =>
      rw [hFirst] at hOk
      exact ⟨middle, rfl, hOk⟩

end Library

------------------------------------------------------------
-- Actions
------------------------------------------------------------

namespace Library

/- An action over a state that returns or raises. -/
abbrev Action (E S R : Type) : Type :=
  EStateM E S R

namespace Action

variable {E S R T : Type}

/- The state that an action leaves, returned or raised. -/
def stateAfter
    (action : Action E S R)
    (state : S) :
    S :=
  match action state with
  | .ok _ after => after
  | .error _ after => after

/- The exception with which an action ends, if any. -/
def error?
    (action : Action E S R)
    (state : S) :
    Option E :=
  match action state with
  | .ok _ _ => none
  | .error error _ => some error

/- A block that is entered and left, also by an exception. -/
def bracket
    (enter leave : S → S)
    (action : Action E S R) :
    Action E S R := fun state =>
  match action (enter state) with
  | .ok value after => .ok value (leave after)
  | .error error after => .error error (leave after)

/- An exception of the given kind is dropped. -/
def ignoring
    [DecidableEq E]
    (kind : E)
    (action : Action E S Unit) :
    Action E S Unit := fun state =>
  match action state with
  | .ok value after => .ok value after
  | .error error after =>
      if error = kind then .ok () after
      else .error error after

variable {action : Action E S R}
variable {next : R → Action E S T}
variable {state later : S}

theorem bind_of_ok
    {value : R}
    (hOk : action state = .ok value later) :
    (action >>= next) state = next value later := by
  simp only [bind, EStateM.bind, hOk]

theorem bind_of_error
    {error : E}
    (hError : action state = .error error later) :
    (action >>= next) state = .error error later := by
  simp only [bind, EStateM.bind, hError]

/- A sequence returns when both parts do. -/
theorem bind_eq_ok_iff
    {value : T} :
    (action >>= next) state = .ok value later ↔
      ∃ first middle,
        action state = .ok first middle ∧
          next first middle = .ok value later := by
  cases hAction : action state with
  | ok first middle =>
      rw [bind_of_ok hAction]
      constructor
      · intro hNext
        exact ⟨first, middle, rfl, hNext⟩
      · rintro ⟨_, _, hFirst, hNext⟩
        cases hFirst
        exact hNext
  | error error middle =>
      rw [bind_of_error hAction]
      refine iff_of_false ?_ ?_
      · intro hOk
        cases hOk
      · rintro ⟨_, _, hFirst, -⟩
        cases hFirst

/- Two first parts that agree on the state. -/
theorem bind_congr_left
    {other : Action E S R}
    (hSame : action state = other state) :
    (action >>= next) state = (other >>= next) state := by
  simp only [bind, EStateM.bind, hSame]

theorem ignoring_congr
    [DecidableEq E]
    {first second : Action E S Unit}
    (kind : E)
    (hSame : first state = second state) :
    ignoring kind first state =
      ignoring kind second state := by
  simp only [ignoring, hSame]

theorem bracket_congr
    {other : Action E S R}
    {enter : S → S}
    (leave : S → S)
    (hSame : action (enter state) = other (enter state)) :
    bracket enter leave action state =
      bracket enter leave other state := by
  simp only [bracket, hSame]

/- Two continuations that agree where the first part ends. -/
theorem bind_congr_at
    {other : R → Action E S T}
    (hSame :
      ∀ value later,
        action state = .ok value later →
          next value later = other value later) :
    (action >>= next) state = (action >>= other) state := by
  cases hAction : action state with
  | ok value later =>
      rw [bind_of_ok hAction, bind_of_ok hAction]
      exact hSame value later hAction
  | error error later =>
      rw [bind_of_error hAction, bind_of_error hAction]

/- A read returns the state. -/
theorem get_bind
    {rest : S → Action E S T}
    (state : S) :
    ((get : Action E S S) >>= rest) state =
      rest state state :=
  rfl

/- A write returns. -/
theorem modify_bind
    {rest : Action E S T}
    (f : S → S)
    (state : S) :
    ((modify f : Action E S Unit) >>= fun _ => rest)
        state =
      rest (f state) := by
  rfl

/- The state after a block, from the state of its action. -/
theorem stateAfter_bracket
    (enter leave : S → S)
    (action : Action E S R)
    (state : S) :
    (bracket enter leave action).stateAfter state =
      leave (action.stateAfter (enter state)) := by
  simp only [stateAfter, bracket]
  cases action (enter state) <;> rfl

/- A dropped exception leaves the state as it is. -/
theorem stateAfter_ignoring
    [DecidableEq E]
    (kind : E)
    (action : Action E S Unit)
    (state : S) :
    (ignoring kind action).stateAfter state =
      action.stateAfter state := by
  simp only [stateAfter, ignoring]
  cases action state with
  | ok value later => rfl
  | error error later =>
      by_cases hKind : error = kind
      · simp only [if_pos hKind]
      · simp only [if_neg hKind]

theorem stateAfter_of_ok
    {value : R}
    (hOk : action state = .ok value later) :
    action.stateAfter state = later := by
  simp only [stateAfter, hOk]

theorem stateAfter_of_error
    {error : E}
    (hError : action state = .error error later) :
    action.stateAfter state = later := by
  simp only [stateAfter, hError]

theorem stateAfter_congr
    {other : Action E S R}
    (hSame : action state = other state) :
    action.stateAfter state = other.stateAfter state := by
  simp only [stateAfter, hSame]

theorem stateAfter_bind_of_ok
    {value : R}
    (hOk : action state = .ok value later) :
    (action >>= next).stateAfter state =
      (next value).stateAfter later := by
  rw [stateAfter, bind_of_ok hOk, stateAfter]

theorem stateAfter_bind_of_error
    {error : E}
    (hError : action state = .error error later) :
    (action >>= next).stateAfter state = later := by
  rw [stateAfter, bind_of_error hError]

/- A returned value writes nothing. -/
theorem stateAfter_bind_pure
    (action : Action E S R)
    (f : R → T)
    (state : S) :
    (action >>= fun value => pure (f value)).stateAfter
        state =
      action.stateAfter state := by
  cases hAction : action state with
  | ok value later =>
      rw [stateAfter_bind_of_ok hAction,
        stateAfter_of_ok hAction]
      rfl
  | error error later =>
      rw [stateAfter_bind_of_error hAction,
        stateAfter_of_error hAction]

/- What two actions keep, one after the other keeps. -/
theorem stateAfter_bind_keeps
    {I : S → Prop}
    (hAction : I (action.stateAfter state))
    (hNext :
      ∀ value later,
        I later → I ((next value).stateAfter later)) :
    I ((action >>= next).stateAfter state) := by
  cases hResult : action state with
  | ok value later =>
      rw [stateAfter_of_ok hResult] at hAction
      rw [stateAfter_bind_of_ok hResult]
      exact hNext value later hAction
  | error error later =>
      rw [stateAfter_of_error hResult] at hAction
      rw [stateAfter_bind_of_error hResult]
      exact hAction

/- A result whose state is changed. -/
def mapState
    (f : S → S) :
    EStateM.Result E S R → EStateM.Result E S R
  | .ok value after => .ok value (f after)
  | .error error after => .error error (f after)

/- The action does the same if the state is changed before. -/
def Blind
    (f : S → S)
    (action : Action E S R) :
    Prop :=
  ∀ state, action (f state) = mapState f (action state)

variable {f : S → S}

theorem Blind.stateAfter
    (hBlind : Blind f action)
    (state : S) :
    action.stateAfter (f state) =
      f (action.stateAfter state) := by
  rw [Action.stateAfter, hBlind state, Action.stateAfter]
  cases action state <;> rfl

theorem Blind.returns
    (f : S → S)
    (value : R) :
    Blind f (pure value : Action E S R) := by
  intro state
  rfl

theorem Blind.write
    {g : S → S}
    (hSwap : ∀ state, g (f state) = f (g state)) :
    Blind f (modify g : Action E S Unit) := by
  intro state
  exact
    congrArg (EStateM.Result.ok PUnit.unit) (hSwap state)

theorem Blind.bind
    (hAction : Blind f action)
    (hNext : ∀ value, Blind f (next value)) :
    Blind f (action >>= next) := by
  intro state
  cases hResult : action state with
  | ok value later =>
      have hChanged :
          action (f state) = .ok value (f later) := by
        rw [hAction state, hResult]
        rfl
      rw [bind_of_ok hChanged, bind_of_ok hResult,
        hNext value later]
  | error error later =>
      have hChanged :
          action (f state) = .error error (f later) := by
        rw [hAction state, hResult]
        rfl
      rw [bind_of_error hChanged, bind_of_error hResult]
      rfl

theorem Blind.ignoring
    [DecidableEq E]
    {block : Action E S Unit}
    (kind : E)
    (hBlock : Blind f block) :
    Blind f (Action.ignoring kind block) := by
  intro state
  simp only [Action.ignoring, hBlock state]
  cases block state with
  | ok value later => rfl
  | error error later =>
      by_cases hKind : error = kind
      · simp only [mapState, if_pos hKind]
      · simp only [mapState, if_neg hKind]

/- A block over an action that is blind to its guard. -/
theorem Blind.bracket_eq
    {enter leave : S → S}
    (hBlind : Blind enter action)
    (hLeave : ∀ state, leave (enter state) = leave state)
    (state : S) :
    bracket enter leave action state =
      mapState leave (action state) := by
  simp only [bracket, hBlind state]
  cases action state with
  | ok value later =>
      exact congrArg (EStateM.Result.ok value) (hLeave later)
  | error error later =>
      exact
        congrArg (EStateM.Result.error error) (hLeave later)

theorem Blind.stateAfter_bracket
    {enter leave : S → S}
    (hBlind : Blind enter action)
    (hLeave : ∀ state, leave (enter state) = leave state)
    (state : S) :
    (bracket enter leave action).stateAfter state =
      leave (action.stateAfter state) := by
  rw [Action.stateAfter, hBlind.bracket_eq hLeave,
    Action.stateAfter]
  cases action state <;> rfl

end Action

end Library

------------------------------------------------------------
-- Cascades
------------------------------------------------------------

namespace Library

variable {C E S R : Type}

/-
  The handling of a call makes calls of its own, down to the
  given depth; what it would call below is `bottom`.
-/
def cascade
    (bottom : C → Action E S R)
    (handle : (C → Action E S R) → C → Action E S R) :
    Nat → C → Action E S R
  | 0 => bottom
  | depth + 1 => handle (cascade bottom handle depth)

/-
  Under the guard a call makes no calls, and calls are made
  under the guard only.
-/
structure Shielded
    (Guarded : S → Prop)
    (handle : (C → Action E S R) → C → Action E S R) :
    Prop where
  quiet :
    ∀ first second call state,
      Guarded state →
        handle first call state = handle second call state
  within :
    ∀ first second call state,
      (∀ inner later,
        Guarded later →
          first inner later = second inner later) →
        handle first call state = handle second call state

/- Neither the depth nor the bottom of a cascade matters. -/
theorem Shielded.cascade_eq
    {Guarded : S → Prop}
    {handle : (C → Action E S R) → C → Action E S R}
    (hShielded : Shielded Guarded handle)
    (bottom inner : C → Action E S R)
    (extra : Nat)
    (call : C)
    (state : S) :
    cascade bottom handle (extra + 2) call state =
      handle (handle inner) call state := by
  apply hShielded.within
  intro nested later hGuarded
  exact hShielded.quiet _ _ nested later hGuarded

end Library
