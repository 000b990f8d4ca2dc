import Mathlib.Data.List.Basic
import Icmp2.Library.Trace

/-
  Programs of single writes, and where they can stop.

  Main definitions include:
    * `Library.Program`
    * `Library.Program.finish`
    * `Library.Program.stopAfter`
    * `Library.Program.Stops`
    * `Library.Program.Keeps`

  Main theorems include:
    * `Library.Program.finish_andThen`
    * `Library.Program.finish_forEach`
    * `Library.Program.stops_andThen_iff`
    * `Library.Program.stops_iff_stopAfter`
    * `Library.Program.Keeps.of_stops`

  A program is given by the states that it passes, one for
  each write.  An exception leaves the state that was
  passed last.
-/

------------------------------------------------------------
-- Programs
------------------------------------------------------------

namespace Library

/- The states after each write, from a given state. -/
structure Program (S : Type) where
  passed : S → List S

namespace Program

variable {S T O : Type}

/- The state after all writes. -/
def finish
    (program : Program S)
    (state : S) :
    S :=
  (program.passed state).getLastD state

/- No write. -/
def skip : Program S :=
  ⟨fun _ => []⟩

/- One write. -/
def write
    (f : S → S) :
    Program S :=
  ⟨fun state => [f state]⟩

/- A program that is chosen by the state. -/
def choose
    (programs : S → Program S) :
    Program S :=
  ⟨fun state => (programs state).passed state⟩

/- One program after the other. -/
def andThen
    (first second : Program S) :
    Program S :=
  ⟨fun state =>
    first.passed state ++
      second.passed (first.finish state)⟩

/- A loop over a list. -/
def forEach
    (body : O → Program S) :
    List O → Program S
  | [] => skip
  | op :: ops => (body op).andThen (forEach body ops)

/- A program on one part of a larger state. -/
def lift
    (get : T → S)
    (set : S → T → T)
    (program : Program S) :
    Program T :=
  ⟨fun state =>
    (program.passed (get state)).map fun part =>
      set part state⟩

/- The state after the first `count` writes. -/
def stopAfter
    (program : Program S)
    (count : Nat)
    (state : S) :
    S :=
  ((program.passed state).take count).getLastD state

/-
  The states in which an exception can leave the program:
  before the first write, or after some write.
-/
def Stops
    (program : Program S)
    (state stopped : S) :
    Prop :=
  stopped = state ∨ stopped ∈ program.passed state

end Program

end Library

------------------------------------------------------------
-- Final States
------------------------------------------------------------

namespace Library

namespace Program

variable {S T O : Type}

@[simp] theorem finish_skip
    (state : S) :
    (skip : Program S).finish state = state := by
  rfl

@[simp] theorem finish_write
    (f : S → S)
    (state : S) :
    (write f).finish state = f state := by
  rfl

@[simp] theorem finish_choose
    (programs : S → Program S)
    (state : S) :
    (choose programs).finish state =
      (programs state).finish state := by
  rfl

@[simp] theorem finish_andThen
    (first second : Program S)
    (state : S) :
    (first.andThen second).finish state =
      second.finish (first.finish state) := by
  simp only [finish, andThen, List.getLastD_eq_getLast?,
    List.getLast?_append]
  cases (second.passed
    (((first.passed state).getLast?).getD state)).getLast? <;>
    rfl

/- A loop finishes as the run of its body. -/
theorem finish_forEach
    (body : O → Program S)
    (state : S)
    (ops : List O) :
    (forEach body ops).finish state =
      run (fun current op => (body op).finish current)
        state ops := by
  induction ops generalizing state with
  | nil => rfl
  | cons op ops ih =>
      rw [forEach, finish_andThen, ih, run_cons]

theorem finish_lift
    (get : T → S)
    (set : S → T → T)
    (hSame : ∀ state, set (get state) state = state)
    (program : Program S)
    (state : T) :
    (program.lift get set).finish state =
      set (program.finish (get state)) state := by
  have hLast :=
    List.getLastD_map
      (f := fun part => set part state)
      (l := program.passed (get state))
      (a := get state)
  simp only [hSame] at hLast
  exact hLast

end Program

end Library

------------------------------------------------------------
-- Interrupted Programs
------------------------------------------------------------

namespace Library

namespace Program

variable {S T O P : Type}

/- The final state is one of the states of a program. -/
theorem stops_finish
    (program : Program S)
    (state : S) :
    program.Stops state (program.finish state) := by
  unfold Stops finish
  cases program.passed state with
  | nil => exact Or.inl rfl
  | cons first rest =>
      refine Or.inr ?_
      rw [List.getLastD_cons]
      exact List.getLastD_mem_cons

theorem stops_write_iff
    (f : S → S)
    (state stopped : S) :
    (write f).Stops state stopped ↔
      stopped = state ∨ stopped = f state := by
  simp only [Stops, write, List.mem_singleton]

/- Where two programs in a row can be interrupted. -/
theorem stops_andThen_iff
    (first second : Program S)
    (state stopped : S) :
    (first.andThen second).Stops state stopped ↔
      first.Stops state stopped ∨
        second.Stops (first.finish state) stopped := by
  constructor
  · rintro (hStart | hPassed)
    · exact Or.inl (Or.inl hStart)
    · rcases List.mem_append.mp hPassed with
        hFirst | hSecond
      · exact Or.inl (Or.inr hFirst)
      · exact Or.inr (Or.inr hSecond)
  · rintro ((hStart | hFirst) | (hBetween | hSecond))
    · exact Or.inl hStart
    · exact Or.inr (List.mem_append_left _ hFirst)
    · subst hBetween
      rcases stops_finish first state with hStart | hFirst
      · exact Or.inl hStart
      · exact Or.inr (List.mem_append_left _ hFirst)
    · exact Or.inr (List.mem_append_right _ hSecond)

@[simp] theorem stopAfter_zero
    (program : Program S)
    (state : S) :
    program.stopAfter 0 state = state := by
  rfl

theorem stopAfter_skip
    (count : Nat)
    (state : S) :
    (skip : Program S).stopAfter count state = state := by
  cases count with
  | zero => rfl
  | succ count => rfl

/- Behind a single write the count starts again. -/
theorem stopAfter_write_andThen
    (f : S → S)
    (program : Program S)
    (count : Nat)
    (state : S) :
    ((write f).andThen program).stopAfter (count + 1)
        state =
      program.stopAfter count (f state) := by
  have hTake :
      (((write f).andThen program).passed state).take
          (count + 1) =
        f state ::
          (program.passed (f state)).take count :=
    rfl
  rw [stopAfter, hTake, List.getLastD_cons]
  rfl

/- A loop of single writes stops between two rounds. -/
theorem stopAfter_forEach_write
    (f : O → S → S)
    (ops : List O)
    (count : Nat)
    (state : S) :
    (forEach (fun op => write (f op)) ops).stopAfter
        count state =
      run (fun current op => f op current) state
        (ops.take count) := by
  induction ops generalizing count state with
  | nil =>
      rw [List.take_nil]
      exact stopAfter_skip count state
  | cons op ops ih =>
      cases count with
      | zero => rfl
      | succ count =>
          rw [forEach, stopAfter_write_andThen, ih,
            List.take_succ_cons, run_cons]

/- An exception stops a program after some writes. -/
theorem stops_iff_stopAfter
    (program : Program S)
    (state stopped : S) :
    program.Stops state stopped ↔
      ∃ count, stopped = program.stopAfter count state := by
  constructor
  · rintro (hStart | hPassed)
    · exact ⟨0, hStart⟩
    · rcases List.mem_iff_getElem.mp hPassed with
        ⟨index, hIndex, hGet⟩
      refine ⟨index + 1, ?_⟩
      rw [stopAfter, List.take_add_one,
        List.getElem?_eq_getElem hIndex, hGet]
      simp
  · rintro ⟨count, rfl⟩
    unfold Stops stopAfter
    cases hTake : (program.passed state).take count with
    | nil => exact Or.inl rfl
    | cons first rest =>
        have hMem :
            (first :: rest).getLastD state ∈
              (program.passed state).take count := by
          rw [hTake, List.getLastD_cons]
          exact List.getLastD_mem_cons
        exact Or.inr (List.mem_of_mem_take hMem)

/- The program never changes what `f` reads. -/
def Keeps
    (f : S → P)
    (program : Program S) :
    Prop :=
  ∀ state, ∀ later ∈ program.passed state,
    f later = f state

variable {f : S → P}
variable {program first second : Program S}

/- Interrupted or not, what is kept is kept. -/
theorem Keeps.of_stops
    (hKeeps : program.Keeps f)
    {state stopped : S}
    (hStops : program.Stops state stopped) :
    f stopped = f state := by
  rcases hStops with hStart | hPassed
  · rw [hStart]
  · exact hKeeps state stopped hPassed

theorem Keeps.finish
    (hKeeps : program.Keeps f)
    (state : S) :
    f (program.finish state) = f state :=
  hKeeps.of_stops (stops_finish program state)

theorem keeps_write
    (g : S → S)
    (hKeeps : ∀ state, f (g state) = f state) :
    (write g).Keeps f := by
  intro state later hLater
  rw [List.mem_singleton.mp hLater]
  exact hKeeps state

theorem Keeps.andThen
    (hFirst : first.Keeps f)
    (hSecond : second.Keeps f) :
    (first.andThen second).Keeps f := by
  intro state later hLater
  rcases List.mem_append.mp hLater with hOne | hTwo
  · exact hFirst state later hOne
  · exact
      (hSecond _ later hTwo).trans (hFirst.finish state)

theorem keeps_forEach
    {body : O → Program S}
    (hBody : ∀ op, (body op).Keeps f)
    (ops : List O) :
    (forEach body ops).Keeps f := by
  induction ops with
  | nil =>
      intro state later hLater
      cases hLater
  | cons op ops ih => exact (hBody op).andThen ih

theorem keeps_choose
    {programs : S → Program S}
    (hPrograms : ∀ state, (programs state).Keeps f) :
    (choose programs).Keeps f :=
  fun state => hPrograms state state

/- Beside its part, a lifted program keeps everything. -/
theorem keeps_lift
    {get : T → S}
    {set : S → T → T}
    {g : T → P}
    (hBeside : ∀ part state, g (set part state) = g state)
    (program : Program S) :
    (program.lift get set).Keeps g := by
  intro state later hLater
  rcases List.mem_map.mp hLater with ⟨part, _, rfl⟩
  exact hBeside part state

end Program

end Library
