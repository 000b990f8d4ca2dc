import Icmp2.Library.Cooldown
import Icmp2.Library.Rows
import Mathlib.Logic.Function.Basic

/-
  A cooldown whose check and set are two operations.

  Main definitions include:
    * `Library.Race`
    * `Library.raceStep`
    * `Library.Race.OncePerLifetime`
    * `Library.NotOvertaken`

  Main theorems include:
    * `Library.Race.Sound.raceStep`
    * `Library.Race.Sound.oncePerLifetime_iff`

  Any number of workers check the key of a request against
  the cache, and set it in a later step of their own.  A
  key is used at most once in its lifetime exactly if no
  worker is overtaken between its check and its set.
-/

------------------------------------------------------------
-- Races
------------------------------------------------------------

namespace Library

/-
  The clock, the cache, what each worker has checked and
  not yet set, with the number of requests set before its
  check, and the requests set so far with their times.
-/
structure Race (W R K : Type) where
  clock : Int
  cache : ExpiringCache K
  pending : W → Option (R × Nat)
  served : List (R × Int)

/- The operations on the cache, with the time they take. -/
inductive RaceOp (W R : Type) where
  | check (worker : W) (request : R) (elapsed : Nat)
  | set (worker : W) (elapsed : Nat)
  deriving DecidableEq, Repr

section Steps

variable {W R K : Type}
variable [DecidableEq W] [DecidableEq K]

/- No worker at work, and an empty cache. -/
def Race.initial : Race W R K where
  clock := 0
  cache := ExpiringCache.empty
  pending := fun _ => none
  served := []

/- Nothing but time passes. -/
def Race.tick
    (elapsed : Nat)
    (race : Race W R K) :
    Race W R K :=
  { race with clock := race.clock + elapsed }

/-
  A free worker goes on if the key of its request is not
  live, and sets the key in its next operation.
-/
def raceStep
    (key : R → K)
    (timeout : Int)
    (race : Race W R K) :
    RaceOp W R → Race W R K
  | .check worker request elapsed =>
      let now := race.clock + elapsed
      if race.pending worker = none ∧
          ¬ race.cache.Live now (key request) then
        { race.tick elapsed with
          pending :=
            Function.update race.pending worker
              (some (request, race.served.length)) }
      else
        race.tick elapsed
  | .set worker elapsed =>
      let now := race.clock + elapsed
      match race.pending worker with
      | none => race.tick elapsed
      | some (request, _) =>
          { clock := now
            cache := race.cache.set now timeout (key request)
            pending :=
              Function.update race.pending worker none
            served := race.served ++ [(request, now)] }

section Cases

variable {key : R → K}
variable {timeout : Int}
variable {race : Race W R K}
variable {worker : W}
variable {request : R}

/- A worker at work does not check. -/
theorem raceStep_check_of_busy
    (elapsed : Nat)
    (hBusy : race.pending worker ≠ none) :
    raceStep key timeout race
        (.check worker request elapsed) =
      race.tick elapsed := by
  simp only [raceStep]
  exact if_neg fun hBoth => hBusy hBoth.1

/- A live key turns a request away. -/
theorem raceStep_check_of_live
    {elapsed : Nat}
    (hLive :
      race.cache.Live (race.clock + elapsed)
        (key request)) :
    raceStep key timeout race
        (.check worker request elapsed) =
      race.tick elapsed := by
  simp only [raceStep]
  exact if_neg fun hBoth => hBoth.2 hLive

/- The request waits to be set. -/
theorem raceStep_check_of_free
    {elapsed : Nat}
    (hFree : race.pending worker = none)
    (hNot :
      ¬ race.cache.Live (race.clock + elapsed)
          (key request)) :
    raceStep key timeout race
        (.check worker request elapsed) =
      { race.tick elapsed with
        pending :=
          Function.update race.pending worker
            (some (request, race.served.length)) } := by
  simp only [raceStep]
  exact if_pos ⟨hFree, hNot⟩

theorem raceStep_set_of_none
    (elapsed : Nat)
    (hNone : race.pending worker = none) :
    raceStep key timeout race (.set worker elapsed) =
      race.tick elapsed := by
  simp only [raceStep, hNone]

/- The request is served. -/
theorem raceStep_set_of_some
    {seen : Nat}
    (elapsed : Nat)
    (hPending :
      race.pending worker = some (request, seen)) :
    raceStep key timeout race (.set worker elapsed) =
      { clock := race.clock + elapsed
        cache :=
          race.cache.set (race.clock + elapsed) timeout
            (key request)
        pending := Function.update race.pending worker none
        served :=
          race.served ++
            [(request, race.clock + elapsed)] } := by
  simp only [raceStep, hPending]

end Cases

/-
  The second of two requests with one key is served after
  the lifetime that the first one started.
-/
def Race.OncePerLifetime
    (key : R → K)
    (timeout : Int)
    (race : Race W R K) :
    Prop :=
  race.served.Pairwise fun earlier later =>
    key earlier.1 = key later.1 →
      earlier.2 + timeout ≤ later.2

/-
  Since the check of a worker that sets its key, no other
  request of the key was served within its lifetime.
-/
def NotOvertaken
    (key : R → K)
    (timeout : Int)
    (race : Race W R K) :
    RaceOp W R → Prop
  | .check _ _ _ => True
  | .set worker elapsed =>
      ∀ request seen,
        race.pending worker = some (request, seen) →
        ∀ other ∈ race.served.drop seen,
          key other.1 = key request →
            other.2 + timeout ≤ race.clock + elapsed

end Steps

end Library

------------------------------------------------------------
-- The Invariant
------------------------------------------------------------

namespace Library

section Soundness

variable {W R K : Type}
variable [DecidableEq W] [DecidableEq K]
variable {key : R → K}
variable {timeout : Int}

/-
  The cache remembers every served request, and a worker
  that has passed its check came after the lifetime of
  each request of its key served before the check.
-/
structure Race.Sound
    (key : R → K)
    (timeout : Int)
    (race : Race W R K) :
    Prop where
  past : ∀ other ∈ race.served, other.2 ≤ race.clock
  covered :
    ∀ other ∈ race.served,
      ∃ expiry ∈ race.cache (key other.1),
        other.2 + timeout ≤ expiry
  seen :
    ∀ worker request seen,
      race.pending worker = some (request, seen) →
        seen ≤ race.served.length ∧
          ∀ other ∈ race.served.take seen,
            key other.1 = key request →
              other.2 + timeout ≤ race.clock

omit [DecidableEq W] [DecidableEq K] in
theorem Race.Sound.initial :
    (Race.initial : Race W R K).Sound key timeout where
  past := by
    intro other hMem
    cases hMem
  covered := by
    intro other hMem
    cases hMem
  seen := by
    intro worker request seen hPending
    cases hPending

omit [DecidableEq W] [DecidableEq K] in
theorem Race.Sound.tick
    {race : Race W R K}
    (hSound : race.Sound key timeout)
    (elapsed : Nat) :
    (race.tick elapsed).Sound key timeout where
  past := by
    intro other hMem
    have hPast := hSound.past other hMem
    change other.2 ≤ race.clock + elapsed
    omega
  covered := hSound.covered
  seen := by
    intro worker request seen hPending
    rcases hSound.seen worker request seen hPending with
      ⟨hLe, hSeen⟩
    refine ⟨hLe, ?_⟩
    intro other hMem hKey
    have hPast := hSeen other hMem hKey
    change other.2 + timeout ≤ race.clock + elapsed
    omega

/- A check that passes has seen all lifetimes of its key. -/
theorem Race.Sound.check
    {race : Race W R K}
    (hSound : race.Sound key timeout)
    (worker : W)
    (request : R)
    (elapsed : Nat) :
    (raceStep key timeout race
      (.check worker request elapsed)).Sound
        key timeout := by
  have hTick := hSound.tick elapsed
  by_cases hBusy : race.pending worker ≠ none
  · rw [raceStep_check_of_busy elapsed hBusy]
    exact hTick
  have hFree : race.pending worker = none :=
    not_not.mp hBusy
  by_cases hLive :
      race.cache.Live (race.clock + elapsed) (key request)
  · rw [raceStep_check_of_live hLive]
    exact hTick
  rw [raceStep_check_of_free hFree hLive]
  refine ⟨hTick.past, hTick.covered, ?_⟩
  intro other task seen hPending
  rcases of_update_some hPending with
    ⟨_, hNew⟩ | ⟨_, hOld⟩
  · cases hNew
    refine ⟨Nat.le_refl _, ?_⟩
    intro entry hMem hKey
    have hServed : entry ∈ race.served :=
      List.mem_of_mem_take hMem
    rcases hSound.covered entry hServed with
      ⟨expiry, hExpiry, hLe⟩
    have hOver :
        ¬ race.clock + (elapsed : Int) < expiry := by
      intro hLt
      rw [hKey] at hExpiry
      exact hLive ⟨expiry, hExpiry, hLt⟩
    change entry.2 + timeout ≤ race.clock + elapsed
    omega
  · exact hTick.seen other task seen hOld

/- A set key covers the request, and keeps the others. -/
theorem Race.Sound.set
    {race : Race W R K}
    (hSound : race.Sound key timeout)
    (worker : W)
    (elapsed : Nat) :
    (raceStep key timeout race
      (.set worker elapsed)).Sound key timeout := by
  have hTick := hSound.tick elapsed
  cases hPending : race.pending worker with
  | none =>
      rw [raceStep_set_of_none elapsed hPending]
      exact hTick
  | some entry =>
      rcases entry with ⟨request, seen⟩
      rw [raceStep_set_of_some elapsed hPending]
      refine ⟨?_, ?_, ?_⟩
      · intro other hMem
        rcases List.mem_append.mp hMem with hOld | hNew
        · exact hTick.past other hOld
        · have hSame := List.mem_singleton.mp hNew
          subst hSame
          exact Int.le_refl _
      · intro other hMem
        by_cases hKey : key other.1 = key request
        · refine
            ⟨race.clock + elapsed + timeout,
              if_pos hKey, ?_⟩
          rcases List.mem_append.mp hMem with hOld | hNew
          · have hPast : other.2 ≤ race.clock + elapsed :=
              hTick.past other hOld
            omega
          · have hSame := List.mem_singleton.mp hNew
            subst hSame
            exact Int.le_refl _
        · rcases List.mem_append.mp hMem with hOld | hNew
          · rcases hSound.covered other hOld with
              ⟨expiry, hExpiry, hLe⟩
            exact
              ⟨expiry, (if_neg hKey).trans hExpiry, hLe⟩
          · rw [List.mem_singleton.mp hNew] at hKey
            exact absurd rfl hKey
      · intro other task count hOther
        rcases of_update_none hOther with ⟨_, hOld⟩
        rcases hTick.seen other task count hOld with
          ⟨hLe, hSeen⟩
        have hLength : count ≤ race.served.length := hLe
        refine ⟨?_, ?_⟩
        · rw [List.length_append]
          omega
        · intro earlier hMem hKey
          rw [List.take_append_of_le_length hLength]
            at hMem
          exact hSeen earlier hMem hKey

theorem Race.Sound.raceStep
    {race : Race W R K}
    (hSound : race.Sound key timeout)
    (op : RaceOp W R) :
    (raceStep key timeout race op).Sound key timeout := by
  cases op with
  | check worker request elapsed =>
      exact hSound.check worker request elapsed
  | set worker elapsed =>
      exact hSound.set worker elapsed

/-
  A step keeps the law exactly if it is not overtaken; the
  requests served before the check need not be looked at.
-/
theorem Race.Sound.oncePerLifetime_iff
    {race : Race W R K}
    (hSound : race.Sound key timeout)
    (op : RaceOp W R) :
    (Library.raceStep key timeout race
        op).OncePerLifetime key timeout ↔
      race.OncePerLifetime key timeout ∧
        NotOvertaken key timeout race op := by
  cases op with
  | check worker request elapsed =>
      have hServed :
          (Library.raceStep key timeout race
            (.check worker request elapsed)).served =
          race.served := by
        simp only [Library.raceStep]
        split_ifs <;> rfl
      rw [OncePerLifetime, hServed]
      exact (and_iff_left trivial).symm
  | set worker elapsed =>
      cases hPending : race.pending worker with
      | none =>
          rw [raceStep_set_of_none elapsed hPending]
          simp only [NotOvertaken, hPending]
          exact (and_iff_left nofun).symm
      | some entry =>
          rcases entry with ⟨request, seen⟩
          rcases hSound.seen worker request seen hPending
            with ⟨_, hSeen⟩
          rw [raceStep_set_of_some elapsed hPending]
          simp only [OncePerLifetime, hPending,
            List.pairwise_append, NotOvertaken]
          constructor
          · rintro ⟨hOld, _, hNew⟩
            refine ⟨hOld, ?_⟩
            intro task count hSome other hMem hKey
            cases hSome
            exact
              hNew other (List.mem_of_mem_drop hMem)
                (request, race.clock + elapsed)
                List.mem_cons_self hKey
          · rintro ⟨hOld, hDrop⟩
            refine
              ⟨hOld, List.pairwise_singleton _ _, ?_⟩
            intro other hMem last hLast hKey
            rw [List.mem_singleton.mp hLast] at hKey ⊢
            rw [← List.take_append_drop seen race.served]
              at hMem
            rcases List.mem_append.mp hMem with
              hBefore | hSince
            · have hLe := hSeen other hBefore hKey
              change
                other.2 + timeout ≤ race.clock + elapsed
              omega
            · exact
                hDrop request seen rfl other hSince hKey

end Soundness

end Library
