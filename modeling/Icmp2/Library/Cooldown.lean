import Icmp2.Library.Trace
import Mathlib.Data.List.Induction

/-
  A cooldown kept in a cache with expiry.

  Main definitions include:
    * `Library.ExpiringCache`
    * `Library.Request`
    * `Library.cooldownStep`
    * `Library.admitted`

  Main theorems include:
    * `Library.admitted_snoc`
    * `Library.mem_of_mem_admitted`
    * `Library.live_iff_admitted`

  A request is refused while its key is live, and makes its
  key live for a fixed time otherwise.  If the clock never
  goes back, a key is live exactly if a request for it was
  admitted within that time.
-/

------------------------------------------------------------
-- Caches
------------------------------------------------------------

namespace Library

variable {K : Type} [DecidableEq K]

/- The time at which each key expires, if it is set. -/
def ExpiringCache (K : Type) : Type :=
  K → Option Int

namespace ExpiringCache

def empty : ExpiringCache K :=
  fun _ => none

/- The key is set and has not expired. -/
def Live
    (cache : ExpiringCache K)
    (now : Int)
    (key : K) :
    Prop :=
  ∃ expiry ∈ cache key, now < expiry

instance
    (cache : ExpiringCache K)
    (now : Int)
    (key : K) :
    Decidable (cache.Live now key) := by
  unfold Live
  infer_instance

/- Set a key for some time from now on. -/
def set
    (cache : ExpiringCache K)
    (now timeout : Int)
    (key : K) :
    ExpiringCache K :=
  fun other =>
    if other = key then
      some (now + timeout)
    else
      cache other

omit [DecidableEq K] in
theorem not_live_empty
    (now : Int)
    (key : K) :
    ¬ (empty : ExpiringCache K).Live now key := by
  rintro ⟨expiry, hExpiry, _⟩
  cases hExpiry

theorem live_set_self
    (cache : ExpiringCache K)
    (now time timeout : Int)
    (key : K) :
    (cache.set time timeout key).Live now key ↔
      now < time + timeout := by
  simp [Live, set]

theorem live_set_of_ne
    (cache : ExpiringCache K)
    (now time timeout : Int)
    {key other : K}
    (hNe : other ≠ key) :
    (cache.set time timeout key).Live now other ↔
      cache.Live now other := by
  simp [Live, set, hNe]

end ExpiringCache

end Library

------------------------------------------------------------
-- Requests
------------------------------------------------------------

namespace Library

variable {K : Type} [DecidableEq K]

structure Request (K : Type) where
  time : Int
  key : K
  deriving DecidableEq, Repr

/- Refuse a live key; otherwise set it. -/
def cooldownStep
    (timeout : Int)
    (cache : ExpiringCache K)
    (request : Request K) :
    ExpiringCache K :=
  if cache.Live request.time request.key then
    cache
  else
    cache.set request.time timeout request.key

/- The requests of a list that are admitted. -/
def admitted
    (timeout : Int) :
    ExpiringCache K → List (Request K) → List (Request K)
  | _, [] => []
  | cache, request :: requests =>
      let rest :=
        admitted timeout
          (cooldownStep timeout cache request) requests
      if cache.Live request.time request.key then
        rest
      else
        request :: rest

theorem admitted_append
    (timeout : Int)
    (cache : ExpiringCache K)
    (first second : List (Request K)) :
    admitted timeout cache (first ++ second) =
      admitted timeout cache first ++
        admitted timeout
          (run (cooldownStep timeout) cache first)
          second := by
  induction first generalizing cache with
  | nil => rfl
  | cons request first ih =>
      simp only [List.cons_append, admitted, run_cons, ih]
      by_cases hLive : cache.Live request.time request.key
      · simp only [if_pos hLive]
      · simp only [if_neg hLive, List.cons_append]

/- The last request is admitted unless its key is live. -/
theorem admitted_snoc
    (timeout : Int)
    (cache : ExpiringCache K)
    (requests : List (Request K))
    (request : Request K) :
    admitted timeout cache (requests ++ [request]) =
      if (run (cooldownStep timeout) cache
          requests).Live request.time request.key then
        admitted timeout cache requests
      else
        admitted timeout cache requests ++ [request] := by
  rw [admitted_append]
  simp only [admitted]
  split_ifs
  · rw [List.append_nil]
  · rfl

theorem mem_of_mem_admitted
    {timeout : Int}
    {cache : ExpiringCache K}
    {requests : List (Request K)}
    {request : Request K}
    (hMem : request ∈ admitted timeout cache requests) :
    request ∈ requests := by
  induction requests generalizing cache with
  | nil => cases hMem
  | cons first requests ih =>
      simp only [admitted] at hMem
      by_cases hLive : cache.Live first.time first.key
      · rw [if_pos hLive] at hMem
        exact List.mem_cons_of_mem first (ih hMem)
      · rw [if_neg hLive] at hMem
        rcases List.mem_cons.mp hMem with hHead | hTail
        · rw [hHead]
          exact List.mem_cons_self
        · exact List.mem_cons_of_mem first (ih hTail)

/- Live keys are those that were admitted lately. -/
theorem live_iff_admitted
    (timeout : Int)
    {requests : List (Request K)}
    (hTime :
      requests.Pairwise fun earlier later =>
        earlier.time ≤ later.time)
    {now : Int}
    (hNow : ∀ request ∈ requests, request.time ≤ now)
    (key : K) :
    (run (cooldownStep timeout) ExpiringCache.empty
        requests).Live now key ↔
      ∃ earlier ∈
          admitted timeout ExpiringCache.empty requests,
        earlier.key = key ∧
          now < earlier.time + timeout := by
  induction requests using List.reverseRecOn
      generalizing now key with
  | nil =>
      constructor
      · intro hLive
        exact absurd hLive (ExpiringCache.not_live_empty _ _)
      · rintro ⟨earlier, hMem, _⟩
        cases hMem
  | append_singleton requests request ih =>
      rw [List.pairwise_append] at hTime
      have hBefore :
          ∀ earlier ∈ requests,
            earlier.time ≤ request.time := by
        intro earlier hMem
        exact
          hTime.2.2 earlier hMem request
            List.mem_cons_self
      have hOld :
          ∀ earlier ∈ requests, earlier.time ≤ now := by
        intro earlier hMem
        exact hNow earlier (List.mem_append_left _ hMem)
      rw [run_append, run_cons, run_nil, admitted_snoc,
        cooldownStep]
      by_cases hLive :
          (run (cooldownStep timeout) ExpiringCache.empty
            requests).Live request.time request.key
      · rw [if_pos hLive, if_pos hLive]
        exact ih hTime.1 hOld key
      · rw [if_neg hLive, if_neg hLive]
        by_cases hKey : key = request.key
        · rw [hKey, ExpiringCache.live_set_self]
          constructor
          · intro hLate
            exact ⟨request, by simp, rfl, hLate⟩
          · rintro ⟨earlier, hMem, _, hLate⟩
            rcases List.mem_append.mp hMem with
              hAdmitted | hNew
            · have hLe :=
                hBefore earlier
                  (mem_of_mem_admitted hAdmitted)
              omega
            · rw [List.mem_singleton.mp hNew] at hLate
              exact hLate
        · rw [ExpiringCache.live_set_of_ne _ _ _ _ hKey,
            ih hTime.1 hOld key]
          constructor
          · rintro ⟨earlier, hMem, hFound⟩
            exact
              ⟨earlier, List.mem_append_left _ hMem,
                hFound⟩
          · rintro ⟨earlier, hMem, hSame, hLate⟩
            rcases List.mem_append.mp hMem with
              hAdmitted | hNew
            · exact ⟨earlier, hAdmitted, hSame, hLate⟩
            · rw [List.mem_singleton.mp hNew] at hSame
              exact absurd hSame.symm hKey

end Library
