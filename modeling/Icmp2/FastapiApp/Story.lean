import Icmp2.Library.Trace
import Mathlib.Data.List.Basic
import Mathlib.Logic.Function.Basic

/-
  The story loop and the requests that restart it.

  Main definitions include:
    * `Icmp2.FastapiApp.StoryTask`
    * `Icmp2.FastapiApp.Restart`
    * `Icmp2.FastapiApp.StoryApp`
    * `Icmp2.FastapiApp.storyStep`
    * `Icmp2.FastapiApp.StoryApp.OneLoop`
    * `Icmp2.FastapiApp.CreatesAlone`

  Main theorems include:
    * `Icmp2.FastapiApp.oneLoop_storyStep_iff`
    * `Icmp2.FastapiApp.one_story_loop_iff`

  A request cancels and awaits the story, purges its data,
  broadcasts, and only then creates the new task.  Other
  requests run at each of these awaits.
-/

------------------------------------------------------------
-- Tasks and Requests
------------------------------------------------------------

namespace Icmp2

namespace FastapiApp

open Library

/- A `_story_loop` task; it is done unless it can run. -/
inductive StoryTask where
  | running
  | cancelling
  | returned
  | cancelled
  | raised
  deriving DecidableEq, Repr

/- `not task.done()`. -/
def StoryTask.Alive : StoryTask → Prop
  | .running => True
  | .cancelling => True
  | _ => False

instance : DecidablePred StoryTask.Alive :=
  fun task =>
    match task with
    | .running => isTrue trivial
    | .cancelling => isTrue trivial
    | .returned => isFalse id
    | .cancelled => isFalse id
    | .raised => isFalse id

/-
  Where a request stands, with the number of tasks that
  had been created when it looked at `_story_task`.
-/
inductive Restart where
  | idle
  | awaiting (task : Nat) (seen : Nat)
  | purging (seen : Nat)
  | broadcasting (seen : Nat)
  deriving DecidableEq, Repr

/-
  The tasks created so far, `_story_task`, and the
  requests.
-/
structure StoryApp where
  tasks : List StoryTask
  storyTask : Option Nat
  requests : Nat → Restart

/- The application with its first task, or without. -/
def StoryApp.initial
    (enableStory : Bool) :
    StoryApp where
  tasks := if enableStory then [.running] else []
  storyTask := if enableStory then some 0 else none
  requests := fun _ => .idle

/-
  What runs between two awaits: the steps of a request,
  whose broadcast may raise, and the end of a task.
-/
inductive StoryOp where
  | request (id : Nat)
  | awaited (id : Nat)
  | purged (id : Nat)
  | broadcasted (id : Nat) (ok : Bool)
  | taskEnds (task : Nat) (raises : Bool)
  deriving DecidableEq, Repr

/- The task is there, and it is not done. -/
def StoryApp.AliveAt
    (app : StoryApp)
    (task : Nat) :
    Prop :=
  ∃ state ∈ app.tasks[task]?, state.Alive

instance
    (app : StoryApp) :
    DecidablePred app.AliveAt :=
  fun task =>
    inferInstanceAs
      (Decidable (∃ state ∈ app.tasks[task]?, state.Alive))

/- A request moves on. -/
def StoryApp.move
    (app : StoryApp)
    (id : Nat)
    (place : Restart) :
    StoryApp :=
  { app with
    requests := Function.update app.requests id place }

/- The task of `_story_task`, if it is not done. -/
def StoryApp.aliveStory
    (app : StoryApp) :
    Option Nat :=
  app.storyTask.filter fun task => app.AliveAt task

/- `_story_task.cancel()` and the await behind it. -/
def StoryApp.request
    (app : StoryApp)
    (id : Nat) :
    StoryApp :=
  match app.aliveStory with
  | some task =>
      { app with
        tasks :=
          app.tasks.modify task
            fun _ => StoryTask.cancelling }.move id
        (.awaiting task app.tasks.length)
  | none => app.move id (.purging app.tasks.length)

/- What the awaited task leaves for the request. -/
def StoryApp.awaited
    (app : StoryApp)
    (id task seen : Nat) :
    StoryApp :=
  match app.tasks[task]? with
  | some .returned => app.move id (.purging seen)
  | some .cancelled => app.move id (.purging seen)
  | some .raised => app.move id .idle
  | _ => app

/- `_story_task = asyncio.create_task(_story_loop())`. -/
def StoryApp.create
    (app : StoryApp) :
    StoryApp :=
  { app with
    tasks := app.tasks ++ [.running]
    storyTask := some app.tasks.length }

/- A task that can run returns, is cancelled, or raises. -/
def StoryTask.ended
    (raises : Bool) :
    StoryTask → StoryTask
  | .running => if raises then .raised else .returned
  | .cancelling => if raises then .raised else .cancelled
  | task => task

def storyStep
    (app : StoryApp) :
    StoryOp → StoryApp
  | .request id =>
      match app.requests id with
      | .idle => app.request id
      | _ => app
  | .awaited id =>
      match app.requests id with
      | .awaiting task seen => app.awaited id task seen
      | _ => app
  | .purged id =>
      match app.requests id with
      | .purging seen => app.move id (.broadcasting seen)
      | _ => app
  | .broadcasted id ok =>
      match app.requests id with
      | .broadcasting _ =>
          if ok then
            app.create.move id .idle
          else
            app.move id .idle
      | _ => app
  | .taskEnds task raises =>
      { app with
        tasks :=
          app.tasks.modify task (StoryTask.ended raises) }

/-
  At most one task is alive, and `_story_task` refers to
  it.
-/
def StoryApp.OneLoop
    (app : StoryApp) :
    Prop :=
  (∀ left right,
    app.AliveAt left → app.AliveAt right → left = right) ∧
  ∀ task, app.AliveAt task → app.storyTask = some task

/-
  When a request creates its task, the tasks that others
  have created since it looked at `_story_task` are done.
-/
def CreatesAlone
    (app : StoryApp) :
    StoryOp → Prop
  | .broadcasted id ok =>
      ∀ seen,
        app.requests id = .broadcasting seen →
        ok = true →
          ∀ task, seen ≤ task → ¬ app.AliveAt task
  | _ => True

end FastapiApp

end Icmp2

------------------------------------------------------------
-- One Loop
------------------------------------------------------------

namespace Icmp2

namespace FastapiApp

open Library

section Tasks

variable {app : StoryApp}
variable {task : Nat}

theorem StoryApp.AliveAt.lt_length
    (hAlive : app.AliveAt task) :
    task < app.tasks.length := by
  rcases hAlive with ⟨state, hState, _⟩
  exact (List.getElem?_eq_some_iff.mp hState).1

/- A step that revives no task keeps the done ones done. -/
theorem aliveAt_of_modify
    {target : Nat}
    {f : StoryTask → StoryTask}
    (hRevives :
      ∀ state, app.tasks[target]? = some state →
        (f state).Alive → state.Alive)
    (hAlive :
      ({ app with tasks := app.tasks.modify target f } :
        StoryApp).AliveAt task) :
    app.AliveAt task := by
  rcases hAlive with ⟨state, hState, hAliveState⟩
  change (app.tasks.modify target f)[task]? = some state
    at hState
  rw [List.getElem?_modify] at hState
  rcases Option.map_eq_some_iff.mp hState with
    ⟨old, hOld, hSame⟩
  refine ⟨old, hOld, ?_⟩
  by_cases hTarget : target = task
  · rw [if_pos hTarget] at hSame
    rw [← hSame] at hAliveState
    rw [← hTarget] at hOld
    exact hRevives old hOld hAliveState
  · rw [if_neg hTarget] at hSame
    rw [← hSame] at hAliveState
    exact hAliveState

theorem alive_of_ended
    {state : StoryTask}
    {raises : Bool}
    (hAlive : (state.ended raises).Alive) :
    state.Alive := by
  cases state with
  | running => trivial
  | cancelling => trivial
  | returned => exact hAlive
  | cancelled => exact hAlive
  | raised => exact hAlive

theorem aliveStory_eq_some_iff :
    app.aliveStory = some task ↔
      app.storyTask = some task ∧ app.AliveAt task := by
  unfold StoryApp.aliveStory
  rw [Option.filter_eq_some_iff, decide_eq_true_iff]

/- After a creation, the new task is alive. -/
theorem aliveAt_create_iff :
    app.create.AliveAt task ↔
      task = app.tasks.length ∨ app.AliveAt task := by
  constructor
  · rintro ⟨state, hState, hAlive⟩
    change (app.tasks ++ [.running])[task]? = some state
      at hState
    have hLt :=
      (List.getElem?_eq_some_iff.mp hState).1
    rw [List.length_append, List.length_singleton] at hLt
    by_cases hLast : task = app.tasks.length
    · exact Or.inl hLast
    · refine Or.inr ⟨state, ?_, hAlive⟩
      rw [List.getElem?_append_left (by omega)] at hState
      exact hState
  · rintro (rfl | ⟨state, hState, hAlive⟩)
    · refine ⟨.running, ?_, trivial⟩
      exact List.getElem?_concat_length
    · refine ⟨state, ?_, hAlive⟩
      have hLt :=
        (List.getElem?_eq_some_iff.mp hState).1
      exact
        (List.getElem?_append_left hLt).trans hState

end Tasks

/- The tasks that a request has looked at. -/
def Restart.seen : Restart → Nat
  | .idle => 0
  | .awaiting _ seen => seen
  | .purging seen => seen
  | .broadcasting seen => seen

/- The task that a request awaits. -/
def Restart.awaited : Restart → Option Nat
  | .awaiting task _ => some task
  | _ => none

/-
  What a request has made sure of: the tasks that it has
  looked at are done, but for the one that it awaits.
-/
structure StoryApp.Assures
    (app : StoryApp)
    (place : Restart) :
    Prop where
  counted : place.seen ≤ app.tasks.length
  done :
    ∀ task, task < place.seen →
      some task ≠ place.awaited → ¬ app.AliveAt task

structure StoryApp.Sound
    (app : StoryApp) :
    Prop where
  oneLoop : app.OneLoop
  assures : ∀ id, app.Assures (app.requests id)

theorem StoryApp.Sound.initial
    (enableStory : Bool) :
    (StoryApp.initial enableStory).Sound where
  oneLoop := by
    cases enableStory with
    | false =>
        refine ⟨?_, ?_⟩
        · intro left right hLeft
          exact absurd hLeft.lt_length (Nat.not_lt_zero left)
        · intro task hTask
          exact absurd hTask.lt_length (Nat.not_lt_zero task)
    | true =>
        have hZero :
            ∀ task,
              (StoryApp.initial true).AliveAt task →
                task = 0 := by
          intro task hTask
          have hLt : task < 1 := hTask.lt_length
          omega
        refine ⟨?_, ?_⟩
        · intro left right hLeft hRight
          rw [hZero left hLeft, hZero right hRight]
        · intro task hTask
          rw [hZero task hTask]
          rfl
  assures := by
    intro id
    exact
      ⟨Nat.zero_le _, fun task hLt =>
        absurd hLt (Nat.not_lt_zero task)⟩

/- One request moves, and no task is created or revived. -/
theorem StoryApp.Sound.settle
    {app next : StoryApp}
    (hSound : app.Sound)
    (hAlive :
      ∀ task, next.AliveAt task → app.AliveAt task)
    (hStory : next.storyTask = app.storyTask)
    (hLength : next.tasks.length = app.tasks.length)
    {id : Nat}
    (hOthers :
      ∀ other, other ≠ id →
        next.requests other = app.requests other)
    (hAssures : app.Assures (next.requests id)) :
    next.Sound where
  oneLoop := by
    refine ⟨?_, ?_⟩
    · intro left right hLeft hRight
      exact
        hSound.oneLoop.1 left right (hAlive left hLeft)
          (hAlive right hRight)
    · intro task hTask
      rw [hStory]
      exact hSound.oneLoop.2 task (hAlive task hTask)
  assures := by
    intro other
    have hOther : app.Assures (next.requests other) := by
      by_cases hSame : other = id
      · rw [hSame]
        exact hAssures
      · rw [hOthers other hSame]
        exact hSound.assures other
    refine ⟨?_, ?_⟩
    · rw [hLength]
      exact hOther.counted
    · intro task hLt hNe hTask
      exact hOther.done task hLt hNe (hAlive task hTask)

theorem StoryApp.Sound.move
    {app : StoryApp}
    (hSound : app.Sound)
    {id : Nat}
    {place : Restart}
    (hAssures : app.Assures place) :
    (app.move id place).Sound := by
  apply hSound.settle
  · intro task hTask
    exact hTask
  · rfl
  · rfl
  · intro other hNe
    exact Function.update_of_ne hNe _ _
  · change
      app.Assures
        (Function.update app.requests id place id)
    rw [Function.update_self]
    exact hAssures

/- A request looks at the story, and cancels it. -/
theorem StoryApp.Sound.request
    {app : StoryApp}
    (hSound : app.Sound)
    (id : Nat) :
    (app.request id).Sound := by
  cases hStory : app.aliveStory with
  | some task =>
      have hRequest :
          app.request id =
            { app with
              tasks :=
                app.tasks.modify task
                  fun _ => StoryTask.cancelling }.move id
              (.awaiting task app.tasks.length) := by
        simp only [StoryApp.request, hStory]
      rcases aliveStory_eq_some_iff.mp hStory with
        ⟨_, hTask⟩
      rw [hRequest]
      apply hSound.settle
      · intro other hOther
        apply aliveAt_of_modify ?_ hOther
        intro state hState _
        rcases hTask with ⟨found, hFound, hAlive⟩
        have hSame : some state = some found :=
          hState.symm.trans hFound
        rw [Option.some.inj hSame]
        exact hAlive
      · rfl
      · exact List.length_modify ..
      · intro other hNe
        exact Function.update_of_ne hNe _ _
      · change
          app.Assures
            (Function.update app.requests id _ id)
        rw [Function.update_self]
        refine ⟨Nat.le_refl _, ?_⟩
        intro other _ hNe hOther
        apply hNe
        rw [hSound.oneLoop.1 other task hOther hTask]
        rfl
  | none =>
      have hRequest :
          app.request id =
            app.move id (.purging app.tasks.length) := by
        simp only [StoryApp.request, hStory]
      rw [hRequest]
      apply hSound.move
      refine ⟨Nat.le_refl _, ?_⟩
      intro task _ _ hTask
      have hSome : app.aliveStory = some task :=
        aliveStory_eq_some_iff.mpr
          ⟨hSound.oneLoop.2 task hTask, hTask⟩
      rw [hStory] at hSome
      cases hSome

/- A task that is done lets its request go on. -/
theorem StoryApp.Sound.awaited
    {app : StoryApp}
    (hSound : app.Sound)
    {id task seen : Nat}
    (hPlace : app.requests id = .awaiting task seen) :
    (app.awaited id task seen).Sound := by
  have hAssures := hSound.assures id
  rw [hPlace] at hAssures
  have hGoesOn :
      ¬ app.AliveAt task →
        app.Assures (.purging seen) := by
    intro hDone
    refine ⟨hAssures.counted, ?_⟩
    intro other hLt _ hOther
    by_cases hSame : other = task
    · rw [hSame] at hOther
      exact hDone hOther
    · apply hAssures.done other hLt ?_ hOther
      intro hAwaited
      exact hSame (Option.some.inj hAwaited)
  have hIdle : app.Assures .idle :=
    ⟨Nat.zero_le _, fun other hLt =>
      absurd hLt (Nat.not_lt_zero other)⟩
  unfold StoryApp.awaited
  cases hState : app.tasks[task]? with
  | none => exact hSound
  | some state =>
      have hDone :
          ¬ state.Alive → ¬ app.AliveAt task := by
        rintro hNot ⟨found, hFound, hAlive⟩
        have hSame : some state = some found :=
          hState.symm.trans hFound
        rw [Option.some.inj hSame] at hNot
        exact hNot hAlive
      cases state with
      | running => exact hSound
      | cancelling => exact hSound
      | returned => exact hSound.move (hGoesOn (hDone nofun))
      | cancelled => exact hSound.move (hGoesOn (hDone nofun))
      | raised => exact hSound.move hIdle

/- No task is alive when a request creates one alone. -/
theorem StoryApp.Sound.create
    {app : StoryApp}
    (hSound : app.Sound)
    (id : Nat)
    (hNone : ∀ task, ¬ app.AliveAt task) :
    (app.create.move id .idle).Sound where
  oneLoop := by
    have hNew :
        ∀ task, app.create.AliveAt task →
          task = app.tasks.length := by
      intro task hTask
      exact
        (aliveAt_create_iff.mp hTask).resolve_right
          (hNone task)
    refine ⟨?_, ?_⟩
    · intro left right hLeft hRight
      rw [hNew left hLeft, hNew right hRight]
    · intro task hTask
      rw [hNew task hTask]
      rfl
  assures := by
    intro other
    have hLonger :
        app.create.tasks.length = app.tasks.length + 1 := by
      change (app.tasks ++ [StoryTask.running]).length = _
      rw [List.length_append, List.length_singleton]
    have hPlace :
        app.Assures
          ((app.create.move id .idle).requests other) := by
      change
        app.Assures
          (Function.update app.requests id .idle other)
      by_cases hSame : other = id
      · rw [hSame, Function.update_self]
        exact
          ⟨Nat.zero_le _, fun task hLt =>
            absurd hLt (Nat.not_lt_zero task)⟩
      · rw [Function.update_of_ne hSame]
        exact hSound.assures other
    refine ⟨?_, ?_⟩
    · have hCounted := hPlace.counted
      change _ ≤ app.create.tasks.length
      omega
    · intro task hLt _ hTask
      have hCounted := hPlace.counted
      rcases aliveAt_create_iff.mp hTask with hLast | hOld
      · omega
      · exact hNone task hOld

/- The tasks that a broadcasting request finds alive. -/
theorem StoryApp.Sound.not_alive
    {app : StoryApp}
    (hSound : app.Sound)
    {id seen : Nat}
    (hPlace : app.requests id = .broadcasting seen)
    (hSince : ∀ task, seen ≤ task → ¬ app.AliveAt task)
    (task : Nat) :
    ¬ app.AliveAt task := by
  have hAssures := hSound.assures id
  rw [hPlace] at hAssures
  by_cases hLt : task < seen
  · exact hAssures.done task hLt nofun
  · exact hSince task (Nat.le_of_not_lt hLt)

theorem StoryApp.Sound.storyStep
    {app : StoryApp}
    (hSound : app.Sound)
    {op : StoryOp}
    (hAlone : CreatesAlone app op) :
    (storyStep app op).Sound := by
  cases op with
  | request id =>
      simp only [FastapiApp.storyStep]
      cases hPlace : app.requests id with
      | idle => exact hSound.request id
      | awaiting task seen => exact hSound
      | purging seen => exact hSound
      | broadcasting seen => exact hSound
  | awaited id =>
      simp only [FastapiApp.storyStep]
      cases hPlace : app.requests id with
      | idle => exact hSound
      | awaiting task seen => exact hSound.awaited hPlace
      | purging seen => exact hSound
      | broadcasting seen => exact hSound
  | purged id =>
      simp only [FastapiApp.storyStep]
      cases hPlace : app.requests id with
      | idle => exact hSound
      | awaiting task seen => exact hSound
      | purging seen =>
          have hAssures := hSound.assures id
          rw [hPlace] at hAssures
          exact
            hSound.move
              ⟨hAssures.counted, hAssures.done⟩
      | broadcasting seen => exact hSound
  | broadcasted id ok =>
      simp only [FastapiApp.storyStep]
      cases hPlace : app.requests id with
      | idle => exact hSound
      | awaiting task seen => exact hSound
      | purging seen => exact hSound
      | broadcasting seen =>
          cases ok with
          | true =>
              exact
                hSound.create id
                  (hSound.not_alive hPlace
                    (hAlone seen hPlace rfl))
          | false =>
              apply hSound.move
              exact
                ⟨Nat.zero_le _, fun task hLt =>
                  absurd hLt (Nat.not_lt_zero task)⟩
  | taskEnds task raises =>
      have hOthers :
          ∀ other, other ≠ 0 →
            (FastapiApp.storyStep app
                (.taskEnds task raises)).requests other =
              app.requests other :=
        fun _ _ => rfl
      refine
        hSound.settle ?_ rfl ?_ hOthers (hSound.assures 0)
      · intro other hOther
        apply aliveAt_of_modify ?_ hOther
        intro state _ hAlive
        exact alive_of_ended hAlive
      · exact List.length_modify ..

/-
  A step keeps one loop exactly if a request that creates
  its task creates it alone.
-/
theorem oneLoop_storyStep_iff
    {app : StoryApp}
    (hSound : app.Sound)
    (op : StoryOp) :
    (storyStep app op).OneLoop ↔ CreatesAlone app op := by
  refine
    ⟨?_, fun hAlone => (hSound.storyStep hAlone).oneLoop⟩
  intro hLoop
  cases op with
  | request id => trivial
  | awaited id => trivial
  | purged id => trivial
  | taskEnds task raises => trivial
  | broadcasted id ok =>
      intro seen hPlace hOk task _ hTask
      rw [hOk] at hLoop
      simp only [storyStep, hPlace, if_true] at hLoop
      have hNew : app.create.AliveAt app.tasks.length :=
        aliveAt_create_iff.mpr (Or.inl rfl)
      have hOld : app.create.AliveAt task :=
        aliveAt_create_iff.mpr (Or.inr hTask)
      have hSame := hLoop.1 task app.tasks.length hOld hNew
      have hLt := hTask.lt_length
      omega

/-
  With the story running or not from the start, at most
  one loop is alive at every moment, and `_story_task`
  refers to it, exactly if every request creates its task
  alone.
-/
theorem one_story_loop_iff
    (enableStory : Bool)
    (ops : List StoryOp) :
    ((StoryApp.initial enableStory).OneLoop ∧
        Along storyStep
          (fun app op => (storyStep app op).OneLoop)
          (.initial enableStory) ops) ↔
      Along storyStep CreatesAlone
        (.initial enableStory) ops := by
  have hStart := StoryApp.Sound.initial enableStory
  have hSame :=
    along_iff_of_invariant
      (I := StoryApp.Sound)
      (P := CreatesAlone)
      (Q := fun app op => (storyStep app op).OneLoop)
      (fun app op hSound =>
        (oneLoop_storyStep_iff hSound op).symm)
      (fun app op hSound hAlone =>
        hSound.storyStep hAlone)
      hStart ops
  rw [hSame]
  exact and_iff_right hStart.oneLoop

/- Two requests for a story that has come to its end. -/
def twoRestarts : List StoryOp :=
  [.taskEnds 0 false, .request 1, .request 2, .purged 1,
    .purged 2, .broadcasted 1 true, .broadcasted 2 true]

/-
  Both find the story done, and each creates a task.  The
  first of the two stays alive, and `_story_task` refers to
  the second.
-/
theorem two_story_loops :
    ¬ (run storyStep (.initial true) twoRestarts).OneLoop ∧
      (run storyStep (.initial true) twoRestarts).tasks =
        [.returned, .running, .running] ∧
      (run storyStep (.initial true)
        twoRestarts).storyTask = some 2 := by
  have hFirst :
      (run storyStep (.initial true)
        twoRestarts).AliveAt 1 := by
    decide +kernel
  have hSecond :
      (run storyStep (.initial true)
        twoRestarts).AliveAt 2 := by
    decide +kernel
  refine ⟨?_, by decide +kernel, by decide +kernel⟩
  intro hLoop
  have hSame := hLoop.1 1 2 hFirst hSecond
  cases hSame

end FastapiApp

end Icmp2
