import Icmp2.Library.Trace
import Mathlib.Data.List.Range
import Mathlib.Logic.Function.Basic

/-
  Tasks that are tried again a limited number of times.

  Main definitions include:
    * `Library.Broker`
    * `Library.Broker.attemptsOf`
    * `Library.brokerStep`

  Main theorems include:
    * `Library.Broker.SoundAt.step`
    * `Library.soundAt_run`
    * `Library.mem_attempts_run`

  A task waits under its number until a worker takes it.
  An attempt that fails lets the task wait again, up to
  `limit` times.  Workers take the tasks in any order, and
  may lose one.
-/

------------------------------------------------------------
-- Brokers
------------------------------------------------------------

namespace Library

/- One attempt at a task, and what came of it. -/
structure Attempt (J R : Type) where
  id : Nat
  job : J
  retries : Nat
  result : R

/-
  The jobs in the order of their numbers, the count of
  retries of each task that waits, the tasks that workers
  have lost, and all attempts so far.
-/
structure Broker (J R : Type) where
  submitted : List J
  waiting : Nat → Option Nat
  lost : Nat → Bool
  attempts : List (Attempt J R)

inductive BrokerOp (J E : Type) where
  | submit (job : J)
  | take (id : Nat) (circumstances : E)
  | lose (id : Nat)

namespace Broker

variable {J R : Type}

def idle : Broker J R where
  submitted := []
  waiting := fun _ => none
  lost := fun _ => false
  attempts := []

/- The attempts at one task, first attempt first. -/
def attemptsOf
    (broker : Broker J R)
    (id : Nat) :
    List (Attempt J R) :=
  broker.attempts.filter fun attempt => attempt.id = id

end Broker

section Steps

variable {J E R : Type}
variable (perform : J → Nat → E → R)
variable (failed : R → Bool)
variable (limit : Nat)

/- What an attempt lets wait. -/
def again
    (retries : Nat)
    (result : R) :
    Option Nat :=
  if failed result ∧ retries < limit then
    some (retries + 1)
  else
    none

/- The broker after an attempt at a task that waits. -/
def Broker.carryOut
    (broker : Broker J R)
    (attempt : Attempt J R) :
    Broker J R :=
  { broker with
    waiting :=
      Function.update broker.waiting attempt.id
        (again failed limit attempt.retries attempt.result)
    attempts := broker.attempts ++ [attempt] }

def brokerStep
    (broker : Broker J R) :
    BrokerOp J E → Broker J R
  | .submit job =>
      { broker with
        submitted := broker.submitted ++ [job]
        waiting :=
          Function.update broker.waiting
            broker.submitted.length (some 0) }
  | .take id circumstances =>
      match broker.submitted[id]?, broker.waiting id with
      | some job, some retries =>
          broker.carryOut failed limit
            ⟨id, job, retries,
              perform job retries circumstances⟩
      | _, _ => broker
  | .lose id =>
      { broker with
        waiting := Function.update broker.waiting id none
        lost :=
          Function.update broker.lost id
            (broker.lost id || (broker.waiting id).isSome) }

end Steps

end Library

------------------------------------------------------------
-- One Task
------------------------------------------------------------

namespace Library

variable {J E R : Type}
variable {perform : J → Nat → E → R}
variable {failed : R → Bool}
variable {limit : Nat}

/- What holds of the task with a number in every run. -/
structure Broker.SoundAt
    (failed : R → Bool)
    (limit : Nat)
    (broker : Broker J R)
    (id : Nat) :
    Prop where
  unknown :
    broker.submitted.length ≤ id →
      broker.attemptsOf id = [] ∧ broker.waiting id = none
  same :
    ∀ attempt ∈ broker.attemptsOf id,
      broker.submitted[id]? = some attempt.job
  numbered :
    (broker.attemptsOf id).map Attempt.retries =
      List.range (broker.attemptsOf id).length
  bounded : (broker.attemptsOf id).length ≤ limit + 1
  before :
    ∀ attempt ∈ (broker.attemptsOf id).dropLast,
      failed attempt.result
  waits :
    ∀ retries, broker.waiting id = some retries →
      retries ≤ limit ∧
        (broker.attemptsOf id).length = retries ∧
        ∀ attempt ∈ broker.attemptsOf id,
          failed attempt.result
  ended :
    id < broker.submitted.length →
      broker.waiting id = none → broker.lost id = false →
        ∃ last,
          (broker.attemptsOf id).getLast? = some last ∧
            (failed last.result →
              (broker.attemptsOf id).length = limit + 1)

namespace Broker

variable {broker : Broker J R}
variable {id : Nat}

theorem soundAt_idle :
    (idle : Broker J R).SoundAt failed limit id where
  unknown := fun _ => ⟨rfl, rfl⟩
  same := fun _ hMem => by cases hMem
  numbered := rfl
  bounded := Nat.zero_le _
  before := fun _ hMem => by cases hMem
  waits := fun _ hWaits => by cases hWaits
  ended := fun hLess => absurd hLess (Nat.not_lt_zero id)

/- The attempts at a task after one more attempt. -/
theorem attemptsOf_carryOut
    (broker : Broker J R)
    (attempt : Attempt J R)
    (id : Nat) :
    (broker.carryOut failed limit attempt).attemptsOf id =
      if attempt.id = id then
        broker.attemptsOf id ++ [attempt]
      else
        broker.attemptsOf id := by
  unfold attemptsOf carryOut
  by_cases hId : attempt.id = id <;> simp [hId]

theorem attemptsOf_carryOut_self
    (broker : Broker J R)
    (attempt : Attempt J R) :
    (broker.carryOut failed limit attempt).attemptsOf
        attempt.id =
      broker.attemptsOf attempt.id ++ [attempt] := by
  rw [attemptsOf_carryOut, if_pos rfl]

theorem waiting_carryOut_self
    (broker : Broker J R)
    (attempt : Attempt J R) :
    (broker.carryOut failed limit attempt).waiting
        attempt.id =
      again failed limit attempt.retries attempt.result :=
  Function.update_self _ _ _

/- A job that is submitted leaves the earlier ones alone. -/
theorem SoundAt.submit
    (hSound : broker.SoundAt failed limit id)
    (job : J) :
    (brokerStep perform failed limit broker
      (.submit job)).SoundAt failed limit id := by
  have hAttempts :
      (brokerStep perform failed limit broker
        (.submit job)).attemptsOf id =
        broker.attemptsOf id :=
    rfl
  have hLength :
      (brokerStep perform failed limit broker
        (.submit job)).submitted.length =
        broker.submitted.length + 1 :=
    List.length_append
  by_cases hNew : id = broker.submitted.length
  · -- The new task has not been tried.
    have hNone := (hSound.unknown hNew.ge).1
    have hWaiting :
        (brokerStep perform failed limit broker
          (.submit job)).waiting id = some 0 := by
      subst hNew
      exact Function.update_self _ _ _
    refine ⟨?_, ?_, ?_, ?_, ?_, ?_, ?_⟩
    · intro hLe
      omega
    · rw [hAttempts, hNone]
      exact fun _ hMem => by cases hMem
    · rw [hAttempts, hNone]
      rfl
    · rw [hAttempts, hNone]
      exact Nat.zero_le _
    · rw [hAttempts, hNone]
      exact fun _ hMem => by cases hMem
    · intro retries hRetries
      rw [hWaiting] at hRetries
      cases hRetries
      rw [hAttempts, hNone]
      exact
        ⟨Nat.zero_le _, rfl, fun _ hMem => by cases hMem⟩
    · intro _ hIdle
      rw [hWaiting] at hIdle
      cases hIdle
  · have hWaiting :
        (brokerStep perform failed limit broker
          (.submit job)).waiting id =
          broker.waiting id :=
      Function.update_of_ne hNew _ _
    have hKnown :
        ∀ job',
          broker.submitted[id]? = some job' →
            (broker.submitted ++ [job])[id]? =
              some job' := by
      intro job' hJob
      rw [List.getElem?_append_left, hJob]
      exact (List.getElem?_eq_some_iff.mp hJob).1
    refine ⟨?_, ?_, ?_, ?_, ?_, ?_, ?_⟩
    · intro hLe
      rw [hAttempts, hWaiting]
      exact hSound.unknown (by omega)
    · intro attempt hMem
      exact hKnown _ (hSound.same attempt hMem)
    · exact hSound.numbered
    · exact hSound.bounded
    · exact hSound.before
    · rw [hWaiting]
      exact hSound.waits
    · rw [hWaiting]
      intro hLess
      exact hSound.ended (by omega)

/- A task that waits is tried once more. -/
theorem SoundAt.carryOut
    {attempt : Attempt J R}
    (hSound : broker.SoundAt failed limit attempt.id)
    (hJob :
      broker.submitted[attempt.id]? = some attempt.job)
    (hWaits :
      broker.waiting attempt.id = some attempt.retries) :
    (broker.carryOut failed limit attempt).SoundAt failed
      limit attempt.id := by
  rcases hSound.waits _ hWaits with
    ⟨hLimit, hLength, hFailed⟩
  have hKnown : attempt.id < broker.submitted.length :=
    (List.getElem?_eq_some_iff.mp hJob).1
  have hOneMore :
      ((broker.carryOut failed limit attempt).attemptsOf
          attempt.id).length =
        attempt.retries + 1 := by
    rw [attemptsOf_carryOut_self, List.length_append,
      hLength, List.length_singleton]
  refine ⟨?_, ?_, ?_, ?_, ?_, ?_, ?_⟩
  · intro hLe
    exact absurd hKnown (not_lt.mpr hLe)
  · rw [attemptsOf_carryOut_self]
    intro other hMem
    rcases List.mem_append.mp hMem with hOld | hNew
    · exact hSound.same other hOld
    · rw [List.mem_singleton.mp hNew]
      exact hJob
  · rw [hOneMore, attemptsOf_carryOut_self,
      List.map_append, hSound.numbered, hLength,
      List.range_succ]
    rfl
  · rw [hOneMore]
    exact Nat.succ_le_succ hLimit
  · rw [attemptsOf_carryOut_self, List.dropLast_concat]
    exact hFailed
  · intro later hLater
    rw [waiting_carryOut_self, again] at hLater
    split_ifs at hLater with hAgain
    cases hLater
    refine ⟨hAgain.2, hOneMore, ?_⟩
    rw [attemptsOf_carryOut_self]
    intro other hMem
    rcases List.mem_append.mp hMem with hOld | hNew
    · exact hFailed other hOld
    · rw [List.mem_singleton.mp hNew]
      exact hAgain.1
  · intro _ hIdle _
    rw [waiting_carryOut_self, again] at hIdle
    split_ifs at hIdle with hAgain
    refine ⟨attempt, ?_, ?_⟩
    · rw [attemptsOf_carryOut_self]
      exact List.getLast?_concat
    · intro hLast
      have hFull : ¬ attempt.retries < limit :=
        fun hLess => hAgain ⟨hLast, hLess⟩
      rw [hOneMore]
      omega

/- Work on another task is none on this one. -/
theorem SoundAt.of_same
    (hSound : broker.SoundAt failed limit id)
    {later : Broker J R}
    (hSubmitted : later.submitted = broker.submitted)
    (hWaiting : later.waiting id = broker.waiting id)
    (hLost : later.lost id = broker.lost id)
    (hAttempts :
      later.attemptsOf id = broker.attemptsOf id) :
    later.SoundAt failed limit id := by
  refine ⟨?_, ?_, ?_, ?_, ?_, ?_, ?_⟩
  · rw [hSubmitted, hAttempts, hWaiting]
    exact hSound.unknown
  · rw [hSubmitted, hAttempts]
    exact hSound.same
  · rw [hAttempts]
    exact hSound.numbered
  · rw [hAttempts]
    exact hSound.bounded
  · rw [hAttempts]
    exact hSound.before
  · rw [hAttempts, hWaiting]
    exact hSound.waits
  · rw [hSubmitted, hAttempts, hWaiting, hLost]
    exact hSound.ended

theorem SoundAt.take
    (hSound : broker.SoundAt failed limit id)
    (taken : Nat)
    (circumstances : E) :
    (brokerStep perform failed limit broker
      (.take taken circumstances)).SoundAt failed limit
        id := by
  simp only [brokerStep]
  split
  · rename_i job retries hJob hWaits
    by_cases hId : id = taken
    · subst hId
      exact SoundAt.carryOut hSound hJob hWaits
    · refine hSound.of_same rfl ?_ rfl ?_
      · exact Function.update_of_ne hId _ _
      · rw [attemptsOf_carryOut, if_neg (Ne.symm hId)]
  · exact hSound

theorem SoundAt.lose
    (hSound : broker.SoundAt failed limit id)
    (lost : Nat) :
    (brokerStep perform failed limit broker
      (.lose lost)).SoundAt failed limit id := by
  by_cases hId : id = lost
  · subst hId
    refine
      ⟨fun hLe => ⟨(hSound.unknown hLe).1,
          Function.update_self _ _ _⟩,
        hSound.same, hSound.numbered, hSound.bounded,
        hSound.before, ?_, ?_⟩
    · intro retries hWaits
      simp [brokerStep] at hWaits
    · intro hLess _ hLost
      simp only [brokerStep, Function.update_self,
        Bool.or_eq_false_iff, Option.isSome_eq_false_iff,
        Option.isNone_iff_eq_none] at hLost
      exact hSound.ended hLess hLost.2 hLost.1
  · exact
      hSound.of_same rfl (Function.update_of_ne hId _ _)
        (Function.update_of_ne hId _ _) rfl

/- Each operation keeps what holds of each task. -/
theorem SoundAt.step
    (hSound : broker.SoundAt failed limit id)
    (op : BrokerOp J E) :
    (brokerStep perform failed limit broker op).SoundAt
      failed limit id := by
  cases op with
  | submit job => exact hSound.submit job
  | take taken circumstances =>
      exact hSound.take taken circumstances
  | lose lost => exact hSound.lose lost

end Broker

/- In every run, in whatever order the tasks are taken. -/
theorem soundAt_run
    (ops : List (BrokerOp J E))
    (id : Nat) :
    (run (brokerStep perform failed limit) Broker.idle
      ops).SoundAt failed limit id :=
  run_invariant
    (I := fun broker : Broker J R =>
      broker.SoundAt failed limit id)
    (fun _ op hSound => hSound.step op)
    Broker.soundAt_idle ops

/- An attempt was made when its task was taken. -/
theorem mem_attempts_run
    {ops : List (BrokerOp J E)}
    {attempt : Attempt J R}
    (hMem :
      attempt ∈
        (run (brokerStep perform failed limit) Broker.idle
          ops).attempts) :
    ∃ circumstances,
      BrokerOp.take attempt.id circumstances ∈ ops ∧
        attempt.result =
          perform attempt.job attempt.retries
            circumstances := by
  induction ops using List.reverseRecOn with
  | nil => cases hMem
  | append_singleton ops op ih =>
      rw [run_append, run_cons, run_nil] at hMem
      have hOld :
          attempt ∈
              (run (brokerStep perform failed limit)
                Broker.idle ops).attempts →
            ∃ circumstances,
              BrokerOp.take attempt.id circumstances ∈
                  ops ++ [op] ∧
                attempt.result =
                  perform attempt.job attempt.retries
                    circumstances := by
        intro hBefore
        rcases ih hBefore with ⟨circumstances, hOp, hEq⟩
        exact
          ⟨circumstances, List.mem_append_left _ hOp, hEq⟩
      cases op with
      | submit job => exact hOld hMem
      | lose lost => exact hOld hMem
      | take taken circumstances =>
          simp only [brokerStep] at hMem
          split at hMem
          · rcases List.mem_append.mp hMem with
              hBefore | hNew
            · exact hOld hBefore
            · rw [List.mem_singleton] at hNew
              subst hNew
              exact
                ⟨circumstances,
                  List.mem_append_right _
                    (List.mem_singleton_self _), rfl⟩
          · exact hOld hMem

end Library
