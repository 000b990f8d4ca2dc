import Mathlib.Logic.Basic

/-
  Runs of a deterministic step function.

  Main definitions include:
    * `Library.run`
    * `Library.Along`

  Main theorems include:
    * `Library.run_invariant`
    * `Library.Along.of_step`
    * `Library.Along.of_invariant`
    * `Library.along_iff_of_invariant`
    * `Library.along_congr`
    * `Library.run_iff_along`
    * `Library.run_visit`

  A run feeds a list of operations to a step function.  A
  property of one step, which may look at the state before
  the step and at the operation, is lifted to every step of
  a run by `Along`.
-/

------------------------------------------------------------
-- Runs
------------------------------------------------------------

namespace Library

variable {S O : Type}

/- The state after all operations, first operation first. -/
def run
    (step : S → O → S) :
    S → List O → S
  | state, [] => state
  | state, op :: ops => run step (step state op) ops

/- `P` holds at every step of the run from `state`. -/
def Along
    (step : S → O → S)
    (P : S → O → Prop) :
    S → List O → Prop
  | _, [] => True
  | state, op :: ops =>
      P state op ∧ Along step P (step state op) ops

instance decidableAlong
    (step : S → O → S)
    (P : S → O → Prop)
    [hP : ∀ state op, Decidable (P state op)] :
    (state : S) →
    (ops : List O) →
    Decidable (Along step P state ops)
  | _, [] => isTrue trivial
  | state, op :: ops =>
      @instDecidableAnd _ _
        (hP state op)
        (decidableAlong step P (step state op) ops)

@[simp] theorem run_nil
    (step : S → O → S)
    (state : S) :
    run step state [] = state := by
  rfl

@[simp] theorem run_cons
    (step : S → O → S)
    (state : S)
    (op : O)
    (ops : List O) :
    run step state (op :: ops) =
      run step (step state op) ops := by
  rfl

theorem run_append
    (step : S → O → S)
    (state : S)
    (first second : List O) :
    run step state (first ++ second) =
      run step (run step state first) second := by
  induction first generalizing state with
  | nil => rfl
  | cons op first ih => exact ih (step state op)

end Library

------------------------------------------------------------
-- Induction Rules
------------------------------------------------------------

namespace Library

variable {S O : Type}
variable {step : S → O → S}
variable {I : S → Prop}
variable {P Q : S → O → Prop}

/- What every step keeps holds after the run. -/
theorem run_invariant
    (hStep :
      ∀ state op, I state → I (step state op))
    {state : S}
    (hStart : I state)
    (ops : List O) :
    I (run step state ops) := by
  induction ops generalizing state with
  | nil => exact hStart
  | cons op ops ih => exact ih (hStep state op hStart)

/- What every operation meets in any state, a run meets. -/
theorem Along.of_forall
    {ops : List O}
    (hAll : ∀ op ∈ ops, ∀ state, P state op)
    (state : S) :
    Along step P state ops := by
  induction ops generalizing state with
  | nil => trivial
  | cons op ops ih =>
      refine ⟨hAll op List.mem_cons_self state, ?_⟩
      apply ih
      intro other hMem
      exact hAll other (List.mem_cons_of_mem op hMem)

/- As `run_invariant`, for steps that meet `P`. -/
theorem run_invariant_along
    (hStep :
      ∀ state op,
        I state → P state op → I (step state op))
    {state : S}
    (hStart : I state)
    {ops : List O}
    (hAlong : Along step P state ops) :
    I (run step state ops) := by
  induction ops generalizing state with
  | nil => exact hStart
  | cons op ops ih =>
      exact ih (hStep state op hStart hAlong.1) hAlong.2

/- What every step from the invariant meets, all meet. -/
theorem Along.of_step
    (hGood : ∀ state op, I state → Q state op)
    (hStep :
      ∀ state op, I state → I (step state op))
    {state : S}
    (hStart : I state)
    (ops : List O) :
    Along step Q state ops := by
  induction ops generalizing state with
  | nil => trivial
  | cons op ops ih =>
      exact
        ⟨hGood state op hStart,
          ih (hStep state op hStart)⟩

/-
  A step that meets `P` from a state of the invariant
  meets `Q` and keeps the invariant; so a run whose steps
  all meet `P` meets `Q` at every step.
-/
theorem Along.of_invariant
    (hGood :
      ∀ state op, I state → P state op → Q state op)
    (hStep :
      ∀ state op,
        I state → P state op → I (step state op))
    {state : S}
    (hStart : I state)
    {ops : List O}
    (hAlong : Along step P state ops) :
    Along step Q state ops := by
  induction ops generalizing state with
  | nil => trivial
  | cons op ops ih =>
      exact
        ⟨hGood state op hStart hAlong.1,
          ih (hStep state op hStart hAlong.1) hAlong.2⟩

/- A run in two parts. -/
theorem along_append
    (state : S)
    (first second : List O) :
    Along step P state (first ++ second) ↔
      Along step P state first ∧
        Along step P (run step state first) second := by
  induction first generalizing state with
  | nil => exact (and_iff_right trivial).symm
  | cons op first ih =>
      rw [List.cons_append, Along, Along, ih, and_assoc]
      rfl

/-
  On the states of an invariant that good steps keep, two
  equivalent step properties hold along the same runs.
-/
theorem along_iff_of_invariant
    (hIff :
      ∀ state op, I state → (P state op ↔ Q state op))
    (hStep :
      ∀ state op,
        I state → P state op → I (step state op))
    {state : S}
    (hStart : I state)
    (ops : List O) :
    Along step P state ops ↔ Along step Q state ops := by
  induction ops generalizing state with
  | nil => exact Iff.rfl
  | cons op ops ih =>
      constructor
      · intro hAlong
        have hNext := hStep state op hStart hAlong.1
        exact
          ⟨(hIff state op hStart).mp hAlong.1,
            (ih hNext).mp hAlong.2⟩
      · intro hAlong
        have hHead := (hIff state op hStart).mpr hAlong.1
        have hNext := hStep state op hStart hHead
        exact ⟨hHead, (ih hNext).mpr hAlong.2⟩

/- Equivalent step properties hold along the same runs. -/
theorem along_congr
    (hIff : ∀ state op, P state op ↔ Q state op)
    (state : S)
    (ops : List O) :
    Along step P state ops ↔ Along step Q state ops :=
  along_iff_of_invariant (I := fun _ => True)
    (fun state op _ => hIff state op)
    (fun _ _ _ _ => trivial) trivial ops

/- As `along_congr`, for the operations of the run. -/
theorem along_congr_of_mem
    {ops : List O}
    (hIff : ∀ op ∈ ops, ∀ state, P state op ↔ Q state op)
    (state : S) :
    Along step P state ops ↔ Along step Q state ops := by
  induction ops generalizing state with
  | nil => exact Iff.rfl
  | cons op ops ih =>
      apply and_congr (hIff op List.mem_cons_self state)
      apply ih
      intro other hMem
      exact hIff other (List.mem_cons_of_mem op hMem)

/-
  If a step keeps `R` exactly if it meets `P`, a run keeps
  `R` exactly if all its steps meet `P`.
-/
theorem run_iff_along
    {R : S → Prop}
    (hIff :
      ∀ state op,
        I state →
          (R (step state op) ↔ R state ∧ P state op))
    (hStep :
      ∀ state op, I state → I (step state op))
    {state : S}
    (hStart : I state)
    (ops : List O) :
    R (run step state ops) ↔
      R state ∧ Along step P state ops := by
  induction ops generalizing state with
  | nil => exact (and_iff_left trivial).symm
  | cons op ops ih =>
      have hNext := ih (hStep state op hStart)
      rw [run_cons, hNext, hIff state op hStart, Along,
        and_assoc]

end Library

------------------------------------------------------------
-- Visits
------------------------------------------------------------

namespace Library

variable {S O : Type}
variable {step : S → O → S}
variable {R : S → S → Prop}
variable {ops : List O}

/- A run of operations that keep `R` keeps it. -/
theorem run_related
    (hR : Equivalence R)
    (hKeep : ∀ op ∈ ops, ∀ state, R state (step state op))
    (state : S) :
    R state (run step state ops) := by
  induction ops generalizing state with
  | nil => exact hR.refl state
  | cons op ops ih =>
      apply hR.trans (hKeep op List.mem_cons_self state)
      apply ih
      intro other hMem
      exact hKeep other (List.mem_cons_of_mem op hMem)

/-
  Where all other operations keep `R`, a run comes to an
  operation and goes on after it as far as `R` can tell.
-/
theorem run_visit
    (hR : Equivalence R)
    (hNodup : ops.Nodup)
    {op : O}
    (hMem : op ∈ ops)
    (hKeep :
      ∀ other ∈ ops, other ≠ op →
        ∀ state, R state (step state other))
    (state : S) :
    ∃ reached,
      R state reached ∧
        R (step reached op) (run step state ops) := by
  rcases List.append_of_mem hMem with
    ⟨before, after, rfl⟩
  have hSplit := List.nodup_append.mp hNodup
  refine ⟨run step state before, ?_, ?_⟩
  · apply run_related hR
    intro other hOther
    apply hKeep other (List.mem_append_left _ hOther)
    exact hSplit.2.2 other hOther op List.mem_cons_self
  · rw [run_append, run_cons]
    apply run_related hR
    intro other hOther
    apply hKeep other
      (List.mem_append_right _
        (List.mem_cons_of_mem op hOther))
    rintro rfl
    exact (List.nodup_cons.mp hSplit.2.1).1 hOther

end Library
