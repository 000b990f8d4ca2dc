import Icmp2.AiEngine.ChangePoint
import Icmp2.Library.Trace

/-
  What a detector keeps between its calls.

  Main definitions include:
    * `Icmp2.AiEngine.ChangePointDetector.calls`
    * `Icmp2.AiEngine.DetectorConfig.Answers`
    * `Icmp2.AiEngine.AnchorCorrect`

  Main theorems include:
    * `Icmp2.AiEngine.mem_gatedBy_iff`
    * `Icmp2.AiEngine.anchorCorrect_anchorStatus`
    * `Icmp2.AiEngine.lastContamination_run`
    * `Icmp2.AiEngine.anchor_bookkeeping`

  The library answers with positions of the signal.  What a
  call returns is tied to this answer, and to the values of
  the channel, over any run of pushes and calls.
-/

------------------------------------------------------------
-- Calls
------------------------------------------------------------

namespace Icmp2

namespace AiEngine

open Monitoring Library

inductive DetectorOp (K P : Type) where
  | push (point : P)
  | anchorStatus (now : Instant) (key : K)
  deriving DecidableEq, Repr

namespace ChangePointDetector

variable {K P : Type} [DecidableEq K]
variable (backend : ChangePointBackend)
variable (view : PointView K P)
variable (config : DetectorConfig)
variable {windowSize : Nat}

def step
    (detector : ChangePointDetector K P windowSize) :
    DetectorOp K P → ChangePointDetector K P windowSize
  | .push point => detector.push view point
  | .anchorStatus now key =>
      (detector.anchorStatus backend view config now key).2

/- What the calls of a run return, first call first. -/
def calls :
    ChangePointDetector K P windowSize →
      List (DetectorOp K P) → List (AnchorResult K)
  | _, [] => []
  | detector, .push point :: ops =>
      calls (detector.push view point) ops
  | detector, .anchorStatus now key :: ops =>
      let called :=
        detector.anchorStatus backend view config now key
      called.1 :: calls called.2 ops

end ChangePointDetector

/- The last result of a channel, where there is one. -/
def lastCall
    {K : Type}
    [DecidableEq K]
    (key : K)
    (results : List (AnchorResult K)) :
    Option (AnchorResult K) :=
  (results.filter fun result =>
    result.channel = key).getLast?

end AiEngine

end Icmp2

------------------------------------------------------------
-- Anchors Are the Last Jumps
------------------------------------------------------------

namespace Icmp2

namespace AiEngine

open Monitoring Library

/-
  What the change-point library documents: positions in
  increasing order, the last of which may be the length of
  the signal.
-/
def ChangePointBackend.Increasing
    (backend : ChangePointBackend) :
    Prop :=
  ∀ size signal penalty raw,
    backend.pelt size signal penalty = some raw →
      raw.Pairwise (· < ·) ∧
        ∀ b ∈ raw, b ≤ (signal.length : Int)

/-
  The means next to `b` are at least `gate` apart: up to it
  from the nearest bound below, and from it up to the
  nearest bound above.
-/
def JumpsAt
    (backend : ChangePointBackend)
    (gate : ℚ)
    (signal : List ℚ)
    (bounds : List Nat)
    (b : Nat) :
    Prop :=
  ∃ previous next,
    Beside bounds previous b next ∧
      jumpOf backend (slice signal previous b)
          (slice signal b next) ≥ gate

/- The breakpoints between the ends of a window. -/
def boundsOf
    (n : Nat)
    (breakpoints : List Nat) :
    List Nat :=
  0 :: (breakpoints ++ [n])

/- The values of a channel without gaps. -/
def signalOf
    (backend : ChangePointBackend)
    (values : List Sample) :
    List ℚ :=
  (interpolateNan backend values).getD []

/-
  The library is asked about the values of a channel, which
  fill two pieces and are not all the same, and it answers.
-/
structure DetectorConfig.Answers
    (config : DetectorConfig)
    (backend : ChangePointBackend)
    (windowSize : Nat)
    (values : List Sample)
    (raw : List Int) :
    Prop where
  known : ∃ sample ∈ values, sample.isNan = false
  long : 2 * config.minSize windowSize ≤ values.length
  varies : 0 < backend.variance (signalOf backend values)
  answer :
    config.rawBreakpoints backend windowSize
        (signalOf backend values) =
      some raw

/- The values that are there in the last block. -/
def lastBlock
    (size : Nat)
    (values : List Sample) :
    List ℚ :=
  (values.rtake size).filterMap Sample.value?

/- Those in the block before it. -/
def blockBefore
    (size : Nat)
    (values : List Sample) :
    List ℚ :=
  lastBlock size (values.rdrop size)

/- What a result says about the values of its channel. -/
structure AnchorCorrect
    {K : Type}
    (backend : ChangePointBackend)
    (config : DetectorConfig)
    (windowSize : Nat)
    (values : List Sample)
    (result : AnchorResult K) :
    Prop where
  increasing : result.breakpoints.Pairwise (· < ·)
  -- The answers of the library inside the window, and none
  -- where it is not asked or fails.
  found :
    ∀ raw,
      config.Answers backend windowSize values raw →
        ∀ b : Nat,
          b ∈ result.breakpoints ↔
            (b : Int) ∈ raw ∧ 0 < b ∧ b < values.length
  unfound :
    (∀ raw,
      ¬ config.Answers backend windowSize values raw) →
      result.breakpoints = []
  anchored :
    ∀ index,
      result.anchorIndex = some index →
        ∃ b ∈ result.breakpoints,
          index = b ∧
            JumpsAt backend config.magnitudeGate
              (signalOf backend values)
              (boundsOf values.length
                result.breakpoints) b ∧
            ∀ later ∈ result.breakpoints,
              b < later →
                ¬ JumpsAt backend config.magnitudeGate
                  (signalOf backend values)
                  (boundsOf values.length
                    result.breakpoints) later
  anchor_inside :
    ∀ index,
      result.anchorIndex = some index →
        0 < index ∧ index < values.length ∧
          result.segmentLength = values.length - index
  unanchored :
    result.anchorIndex = none →
      (∀ b ∈ result.breakpoints,
        ¬ JumpsAt backend config.magnitudeGate
          (signalOf backend values)
          (boundsOf values.length result.breakpoints) b) ∧
        result.segmentLength = values.length
  contamination :
    result.contamination = true ↔
      0 < config.contaminationBlock ∧
        2 * config.contaminationBlock ≤ values.length ∧
        JumpsBy backend config.magnitudeGate
          (blockBefore config.contaminationBlock.toNat
            values)
          (lastBlock config.contaminationBlock.toNat
            values)

theorem slice_ne_nil
    {signal : List ℚ}
    {start stop : Nat}
    (hLt : start < stop)
    (hLe : stop ≤ signal.length) :
    slice signal start stop ≠ [] := by
  apply List.ne_nil_of_length_pos
  rw [slice, List.length_drop, List.length_take]
  omega

theorem boundsOf_increasing
    {n : Nat}
    {breakpoints : List Nat}
    (hIncreasing : breakpoints.Pairwise (· < ·))
    (hInside : ∀ b ∈ breakpoints, 0 < b ∧ b < n)
    (hPos : 0 < n) :
    (boundsOf n breakpoints).Pairwise (· < ·) := by
  rw [boundsOf, List.pairwise_cons, List.pairwise_append]
  refine
    ⟨?_, hIncreasing, List.pairwise_singleton _ _, ?_⟩
  · intro b hMem
    rcases List.mem_append.mp hMem with hInner | hLast
    · exact (hInside b hInner).1
    · rw [List.mem_singleton.mp hLast]
      exact hPos
  · intro b hMem last hLast
    rw [List.mem_singleton.mp hLast]
    exact (hInside b hMem).2

theorem mem_boundsOf
    {n b : Nat}
    {breakpoints : List Nat} :
    b ∈ boundsOf n breakpoints ↔
      b = 0 ∨ b ∈ breakpoints ∨ b = n := by
  simp [boundsOf]

/- No bound reaches beyond the window. -/
theorem le_of_mem_boundsOf
    {n b : Nat}
    {breakpoints : List Nat}
    (hInside : ∀ b ∈ breakpoints, 0 < b ∧ b < n)
    (hMem : b ∈ boundsOf n breakpoints) :
    b ≤ n := by
  rcases mem_boundsOf.mp hMem with rfl | hInner | rfl
  · exact Nat.zero_le n
  · exact (hInside b hInner).2.le
  · exact le_rfl

/- The loop keeps the breakpoints at which there is a jump. -/
theorem mem_gatedBy_iff
    {backend : ChangePointBackend}
    {gate : ℚ}
    {signal : List ℚ}
    {breakpoints : List Nat}
    (hIncreasing : breakpoints.Pairwise (· < ·))
    (hInside :
      ∀ b ∈ breakpoints, 0 < b ∧ b < signal.length)
    (hPos : 0 < signal.length)
    (b : Nat) :
    b ∈ gatedBy backend gate signal
        (boundsOf signal.length breakpoints) ↔
      b ∈ breakpoints ∧
        JumpsAt backend gate signal
          (boundsOf signal.length breakpoints) b := by
  have hBounds :=
    boundsOf_increasing hIncreasing hInside hPos
  constructor
  · intro hGated
    have hInner : b ∈ breakpoints :=
      mem_inner_of_mem_middles _ hGated
    rcases (mem_middles_iff _ hBounds b).mp hGated with
      ⟨-, previous, next, hBeside, hJumps⟩
    exact
      ⟨hInner, previous, next, hBeside, hJumps.2.2⟩
  · rintro ⟨hMem, previous, next, hBeside, hJumps⟩
    apply (mem_middles_iff _ hBounds b).mpr
    refine
      ⟨mem_boundsOf.mpr (Or.inr (Or.inl hMem)),
        previous, next, hBeside, ?_, ?_, hJumps⟩
    · exact
        slice_ne_nil hBeside.previous_lt (hInside b hMem).2.le
    · exact
        slice_ne_nil hBeside.lt_next
          (le_of_mem_boundsOf hInside hBeside.next_mem)

theorem gatedBy_increasing
    {backend : ChangePointBackend}
    {gate : ℚ}
    {signal : List ℚ}
    {bounds : List Nat}
    (hIncreasing : bounds.Pairwise (· < ·)) :
    (gatedBy backend gate signal bounds).Pairwise (· < ·) :=
  hIncreasing.tail.sublist (middles_sublist _ bounds)

end AiEngine

end Icmp2

------------------------------------------------------------
-- One Call
------------------------------------------------------------

namespace Icmp2

namespace AiEngine

open Monitoring Library

variable {backend : ChangePointBackend}
variable {config : DetectorConfig}
variable {windowSize : Nat}

/- The positions of the library that are kept. -/
theorem mem_inside_iff
    {raw : List Int}
    {n b : Nat} :
    b ∈
        (raw.filter fun b : Int => 0 < b ∧ b < n).map
          Int.toNat ↔
      (b : Int) ∈ raw ∧ 0 < b ∧ b < n := by
  simp only [List.mem_map, List.mem_filter,
    decide_eq_true_eq]
  constructor
  · rintro ⟨found, ⟨hMem, hPos, hLt⟩, rfl⟩
    rw [Int.toNat_of_nonneg hPos.le]
    exact ⟨hMem, by omega, by omega⟩
  · rintro ⟨hMem, hPos, hLt⟩
    exact
      ⟨b, ⟨hMem, by omega, by omega⟩, Int.toNat_natCast b⟩

theorem breakpointsOf_increasing
    (hPelt : backend.Increasing)
    (signal : List ℚ) :
    (config.breakpointsOf backend windowSize
      signal).Pairwise (· < ·) := by
  unfold DetectorConfig.breakpointsOf
  cases hRaw :
      config.rawBreakpoints backend windowSize signal with
  | none =>
      simp only
      exact List.Pairwise.nil
  | some raw =>
      have hSorted := (hPelt _ _ _ raw hRaw).1
      simp only
      rw [List.pairwise_map]
      apply (hSorted.filter _).imp_of_mem
      intro a b hFirst hSecond hLt
      have hInside :=
        of_decide_eq_true (List.mem_filter.mp hFirst).2
      omega

/- A value that is there is a known point. -/
theorem knownPoints_ne_nil
    (first : Nat)
    {values : List (Option ℚ)}
    {y : ℚ}
    (hMem : some y ∈ values) :
    knownPoints first values ≠ [] := by
  induction values generalizing first with
  | nil => cases hMem
  | cons value rest ih =>
      cases value with
      | none =>
          rcases List.mem_cons.mp hMem with hNone | hRest
          · cases hNone
          · exact ih (first + 1) hRest
      | some z => exact List.cons_ne_nil _ _

/- Only where all is missing there is no signal. -/
theorem interpolateNan_eq_some
    {values : List Sample}
    (hFinite : ∀ sample ∈ values, sample ≠ .inf)
    (hKnown : ∃ sample ∈ values, sample.isNan = false) :
    interpolateNan backend values =
      some (signalOf backend values) := by
  rcases hKnown with ⟨sample, hMem, hNumber⟩
  have hSome : ∃ signal, interpolateNan backend values =
      some signal := by
    unfold interpolateNan
    rw [if_neg]
    · unfold filledBy
      split_ifs with hGaps
      · cases sample with
        | nan => cases hNumber
        | inf => exact absurd rfl (hFinite _ hMem)
        | value x =>
            have hPoints :=
              knownPoints_ne_nil 0
                (List.mem_map_of_mem (f := Sample.value?)
                  hMem)
            unfold fillGapsBy
            cases hKnown :
                knownPoints 0 (values.map Sample.value?) with
            | nil => exact absurd hKnown hPoints
            | cons point rest => exact ⟨_, rfl⟩
      · exact ⟨_, rfl⟩
    · intro hAll
      have hNan := List.all_eq_true.mp hAll sample hMem
      rw [hNumber] at hNan
      cases hNan
  rcases hSome with ⟨signal, hSignal⟩
  rw [signalOf, hSignal, Option.getD_some]

theorem known_of_interpolateNan
    {values : List Sample}
    {signal : List ℚ}
    (hSignal : interpolateNan backend values = some signal) :
    ∃ sample ∈ values, sample.isNan = false := by
  unfold interpolateNan at hSignal
  split_ifs at hSignal with hMissing
  by_contra hNone
  apply hMissing
  rw [List.all_eq_true]
  intro sample hMem
  by_contra hNumber
  exact hNone ⟨sample, hMem, Bool.eq_false_iff.mpr hNumber⟩

/- The breakpoints are the answers inside the window. -/
theorem mem_detectJumps_of_answers
    {values : List Sample}
    (hFinite : ∀ sample ∈ values, sample ≠ .inf)
    {raw : List Int}
    (hAnswers :
      config.Answers backend windowSize values raw)
    (b : Nat) :
    b ∈ (config.detectJumps backend windowSize values).1 ↔
      (b : Int) ∈ raw ∧ 0 < b ∧ b < values.length := by
  have hSignal :
      interpolateNan backend values =
        some (signalOf backend values) :=
    interpolateNan_eq_some hFinite hAnswers.known
  have hLength := length_of_interpolateNan hFinite hSignal
  unfold DetectorConfig.detectJumps
  simp only [hSignal]
  rw [if_pos ⟨hAnswers.long, hAnswers.varies⟩]
  simp only [DetectorConfig.breakpointsOf, hAnswers.answer]
  rw [mem_inside_iff, hLength.2]

theorem detectJumps_of_not_answers
    {values : List Sample}
    (hNone :
      ∀ raw,
        ¬ config.Answers backend windowSize values raw) :
    (config.detectJumps backend windowSize values).1 =
      [] := by
  unfold DetectorConfig.detectJumps
  cases hSignal : interpolateNan backend values with
  | none => rfl
  | some signal =>
      have hSignalOf : signalOf backend values = signal := by
        rw [signalOf, hSignal, Option.getD_some]
      simp only
      split_ifs with hConsulted
      · unfold DetectorConfig.breakpointsOf
        cases hRaw :
            config.rawBreakpoints backend windowSize
              signal with
        | none => rfl
        | some raw =>
            refine absurd ?_ (hNone raw)
            exact
              { known := known_of_interpolateNan hSignal
                long := hConsulted.1
                varies := by
                  rw [hSignalOf]
                  exact hConsulted.2
                answer := by
                  rw [hSignalOf]
                  exact hRaw }
      · rfl

/- A block of a positive size is the end of its list. -/
theorem contaminated_iff
    (values : List Sample) :
    config.contaminated backend values = true ↔
      0 < config.contaminationBlock ∧
        2 * config.contaminationBlock ≤ values.length ∧
        JumpsBy backend config.magnitudeGate
          (blockBefore config.contaminationBlock.toNat
            values)
          (lastBlock config.contaminationBlock.toNat
            values) := by
  by_cases hBlock : 0 < config.contaminationBlock
  · have hLast :
        (values.length - config.contaminationBlock).toNat =
          values.length -
            config.contaminationBlock.toNat := by
      omega
    have hBefore :
        (values.length -
            2 * config.contaminationBlock).toNat =
          (values.rdrop
              config.contaminationBlock.toNat).length -
            config.contaminationBlock.toNat := by
      rw [List.rdrop, List.length_take]
      omega
    simp only [DetectorConfig.contaminated, hLast, hBefore,
      decide_eq_true_eq, and_iff_right hBlock]
    rfl
  · refine iff_of_false ?_ (fun hAll => hBlock hAll.1)
    have hEmpty :
        values.drop
          (values.length -
            config.contaminationBlock).toNat = [] := by
      apply List.drop_eq_nil_of_le
      omega
    simp [DetectorConfig.contaminated, hEmpty, JumpsBy]

/- What is detected in values whose signal is given. -/
structure Detected
    (backend : ChangePointBackend)
    (gate : ℚ)
    (signal : List ℚ)
    (n : Nat)
    (jumps : List Nat × List Nat) :
    Prop where
  increasing : jumps.1.Pairwise (· < ·)
  inside : ∀ b ∈ jumps.1, 0 < b ∧ b < n
  gated_increasing : jumps.2.Pairwise (· < ·)
  mem_gated :
    ∀ b,
      b ∈ jumps.2 ↔
        b ∈ jumps.1 ∧
          JumpsAt backend gate signal (boundsOf n jumps.1) b

theorem detected_nothing
    (backend : ChangePointBackend)
    (gate : ℚ)
    (signal : List ℚ)
    (n : Nat) :
    Detected backend gate signal n ([], []) where
  increasing := List.Pairwise.nil
  inside := by
    intro b hMem
    cases hMem
  gated_increasing := List.Pairwise.nil
  mem_gated := by simp

section Detected

variable {backend : ChangePointBackend}
variable {gate : ℚ}
variable {signal : List ℚ}
variable {n : Nat}
variable {jumps : List Nat × List Nat}

/- The last gated breakpoint is the last jump. -/
theorem Detected.last
    (hDetected : Detected backend gate signal n jumps)
    {b : Nat}
    (hLast : jumps.2.getLast? = some b) :
    b ∈ jumps.1 ∧
      JumpsAt backend gate signal (boundsOf n jumps.1) b ∧
      ∀ later ∈ jumps.1,
        b < later →
          ¬ JumpsAt backend gate signal (boundsOf n jumps.1)
            later := by
  have hGreatest :=
    (getLast?_eq_some_iff_of_increasing
      hDetected.gated_increasing b).mp hLast
  have hJumps := (hDetected.mem_gated b).mp hGreatest.1
  refine ⟨hJumps.1, hJumps.2, ?_⟩
  intro later hLater hAfter hJump
  have hGated :=
    (hDetected.mem_gated later).mpr ⟨hLater, hJump⟩
  exact (hGreatest.2 later hGated).not_gt hAfter

theorem Detected.nowhere
    (hDetected : Detected backend gate signal n jumps)
    (hNone : jumps.2.getLast? = none) :
    ∀ b ∈ jumps.1,
      ¬ JumpsAt backend gate signal (boundsOf n jumps.1) b := by
  intro b hMem hJump
  have hGated := (hDetected.mem_gated b).mpr ⟨hMem, hJump⟩
  rw [List.getLast?_eq_none_iff.mp hNone] at hGated
  cases hGated

end Detected

theorem detected_detectJumps
    (hPelt : backend.Increasing)
    {values : List Sample}
    (hFinite : ∀ sample ∈ values, sample ≠ .inf) :
    Detected backend config.magnitudeGate
      (signalOf backend values) values.length
      (config.detectJumps backend windowSize values) := by
  unfold signalOf DetectorConfig.detectJumps
  cases hSignal : interpolateNan backend values with
  | none => exact detected_nothing _ _ _ _
  | some signal =>
      have hLength :=
        length_of_interpolateNan hFinite hSignal
      have hIncreasing :
          (config.breakpointsOf backend windowSize
            signal).Pairwise (· < ·) :=
        breakpointsOf_increasing hPelt signal
      have hInside :
          ∀ b ∈ config.breakpointsOf backend windowSize
              signal,
            0 < b ∧ b < signal.length :=
        fun b hMem => mem_breakpointsOf_bounds hMem
      simp only [Option.getD_some]
      rw [← hLength.2]
      split_ifs with hConsulted
      · exact
          { increasing := hIncreasing
            inside := hInside
            gated_increasing :=
              gatedBy_increasing
                (boundsOf_increasing hIncreasing hInside
                  hLength.1)
            mem_gated :=
              mem_gatedBy_iff hIncreasing hInside
                hLength.1 }
      · exact detected_nothing _ _ _ _

variable {K P : Type} [DecidableEq K]
variable (view : PointView K P)

theorem anchorCorrect_anchorStatus
    (hPelt : backend.Increasing)
    (now : Instant)
    (detector : ChangePointDetector K P windowSize)
    (key : K) :
    AnchorCorrect backend config windowSize
      (detector.values view key)
      (detector.anchorStatus backend view config now
        key).1 := by
  have hFinite := detector.values_finite view key
  have hDetected :
      Detected backend config.magnitudeGate
        (signalOf backend (detector.values view key))
        (detector.values view key).length
        (config.detectJumps backend windowSize
          (detector.values view key)) :=
    detected_detectJumps hPelt hFinite
  refine
    { increasing := hDetected.increasing
      found := fun raw hAnswers =>
        mem_detectJumps_of_answers hFinite hAnswers
      unfound := detectJumps_of_not_answers
      anchored := ?_
      anchor_inside := fun index hAnchor =>
        detector.anchor_bounds view now key hAnchor
      unanchored := ?_
      contamination := contaminated_iff _ }
  · intro index hAnchor
    rcases Option.map_eq_some_iff.mp hAnchor with
      ⟨b, hGated, rfl⟩
    have hLast := hDetected.last hGated
    exact ⟨b, hLast.1, rfl, hLast.2⟩
  · intro hAnchor
    have hNone := Option.map_eq_none_iff.mp hAnchor
    refine ⟨hDetected.nowhere hNone, ?_⟩
    simp only [ChangePointDetector.anchorStatus, hNone,
      Option.map_none]

end AiEngine

end Icmp2

------------------------------------------------------------
-- Calls over Runs
------------------------------------------------------------

namespace Icmp2

namespace AiEngine

open Monitoring Library

variable {backend : ChangePointBackend}
variable {config : DetectorConfig}
variable {windowSize : Nat}
variable {K P : Type} [DecidableEq K]
variable {view : PointView K P}

/- A later result of the channel counts before a first one. -/
theorem lastCall_cons
    (key : K)
    (result : AnchorResult K)
    (results : List (AnchorResult K)) :
    lastCall key (result :: results) =
      (lastCall key results).or
        (if result.channel = key then some result
        else none) := by
  unfold lastCall
  by_cases hChannel : result.channel = key
  · rw [List.filter_cons_of_pos (by simpa using hChannel),
      if_pos hChannel, List.getLast?_cons]
    cases (results.filter fun result =>
        result.channel = key).getLast? with
    | none => rfl
    | some last => rfl
  · rw [List.filter_cons_of_neg (by simpa using hChannel),
      if_neg hChannel, Option.or_none]

/-
  What is remembered of a channel is the contamination of
  its last call, in whatever order channels are called.
-/
theorem lastContamination_run
    (detector : ChangePointDetector K P windowSize)
    (ops : List (DetectorOp K P))
    (key : K) :
    (run (ChangePointDetector.step backend view config) detector
        ops).lastContamination key =
      ((lastCall key
          (detector.calls backend view config ops)).map
        AnchorResult.contamination).or
          (detector.lastContamination key) := by
  induction ops generalizing detector with
  | nil => rfl
  | cons op ops ih =>
      rw [run_cons, ih]
      cases op with
      | push point => rfl
      | anchorStatus now called =>
          rw [ChangePointDetector.calls, lastCall_cons]
          cases hLast :
              lastCall key
                (ChangePointDetector.calls backend view config
                  (detector.anchorStatus backend view config now
                    called).2 ops) with
          | some last =>
              simp only [ChangePointDetector.step, hLast]
              rfl
          | none =>
              simp only [ChangePointDetector.step, hLast]
              by_cases hKey : called = key
              · simp [ChangePointDetector.anchorStatus, hKey]
              · simp [ChangePointDetector.anchorStatus, hKey,
                  Ne.symm hKey]

/-
  The change has started: the channel is contaminated, and
  was not when it was asked about before, if it was.
-/
theorem trigger_run_iff
    (window : Queues K windowSize P)
    (before : List (DetectorOp K P))
    (now : Instant)
    (key : K) :
    let start :=
      ChangePointDetector.initial window
    let result :=
      ((run (ChangePointDetector.step backend view config) start
        before).anchorStatus backend view config now key).1
    result.trigger = true ↔
      result.contamination = true ∧
        ∀ previous,
          lastCall key (start.calls backend view config before) =
              some previous →
            previous.contamination = false := by
  intro start result
  have hRemembered :
      (run (ChangePointDetector.step backend view config) start
          before).lastContamination key =
        ((lastCall key
            (start.calls backend view config before)).map
          AnchorResult.contamination).or
            (start.lastContamination key) :=
    lastContamination_run start before key
  have hTrigger :
      result.trigger =
        (result.contamination &&
          !((run (ChangePointDetector.step backend view config)
            start before).lastContamination key).getD
              false) := by
    rfl
  rw [hTrigger, hRemembered]
  cases lastCall key (start.calls backend view config before) with
  | none => simp [start, ChangePointDetector.initial]
  | some previous => simp

/-
  Whatever was pushed and asked before, in whatever order
  of channels: the breakpoints of a call are the positions
  of the library inside the window, the anchor is the last
  one with a jump, and the trigger is the rise of the
  channel's contamination since its previous call.
-/
theorem anchor_bookkeeping
    (hPelt : backend.Increasing)
    (window : Queues K windowSize P)
    (before : List (DetectorOp K P))
    (now : Instant)
    (key : K) :
    let start :=
      ChangePointDetector.initial window
    let detector :=
      run (ChangePointDetector.step backend view config)
        start before
    let result :=
      (detector.anchorStatus backend view config now key).1
    AnchorCorrect backend config windowSize
        (detector.values view key) result ∧
      (result.trigger = true ↔
        result.contamination = true ∧
          ∀ previous,
            lastCall key
                  (start.calls backend view config before) =
                some previous →
              previous.contamination = false) := by
  intro start detector result
  exact
    ⟨anchorCorrect_anchorStatus view hPelt now detector key,
      trigger_run_iff window before now key⟩

/- Pieces of a quarter, and blocks of two values. -/
def shortDetector : DetectorConfig :=
  { DetectorConfig.default with contaminationBlock := 2 }

/- A library that splits eight values before the last two. -/
def lastTwo : ChangePointBackend where
  log := fun _ => 2.079
  mean := mean
  variance := variance
  interp := interpAt
  pelt := fun _ signal _ =>
    some
      (if signal.length = 8 then [6, 8]
      else [(signal.length : Int)])

theorem lastTwo_increasing : lastTwo.Increasing := by
  intro size signal penalty raw hRaw
  rw [← Option.some.inj hRaw]
  split_ifs with hLength
  · rw [hLength]
    decide
  · simp

/-
  Six low values, a call, one value and a call of another
  channel, and two high values: the next call raises the
  trigger, with its anchor at the seventh place.
-/
theorem anchor_bookkeeping_rise :
    let point := fun device value : ℚ =>
      (⟨0, if device = 0 then "gas_A" else "gas_B",
        .gas .co, some value, true⟩ : SensorPoint)
    let key : ChannelKey := ("gas_A", .gas .co)
    let before :=
      List.replicate 6 (.push (point 0 0)) ++
        [.anchorStatus 0 key, .push (point 1 100),
          .anchorStatus 0 ("gas_B", .gas .co),
          .push (point 0 100), .push (point 0 100)]
    let start :
        ChangePointDetector ChannelKey SensorPoint 9 :=
      .initial Queues.none
    let detector :=
      run
        (ChangePointDetector.step lastTwo DataPoint.view
          shortDetector)
        start before
    let result :=
      (detector.anchorStatus lastTwo DataPoint.view
        shortDetector 0 key).1
    result.anchorIndex = some 6 ∧
      result.trigger = true ∧
      AnchorCorrect lastTwo shortDetector 9
          (detector.values DataPoint.view key) result ∧
        (result.trigger = true ↔
          result.contamination = true ∧
            ∀ previous,
              lastCall key
                    (start.calls lastTwo DataPoint.view
                      shortDetector before) =
                  some previous →
                previous.contamination = false) := by
  intro point key before start detector result
  refine
    ⟨by decide +kernel, by decide +kernel, ?_⟩
  exact
    anchor_bookkeeping lastTwo_increasing Queues.none before
      0 key

end AiEngine

end Icmp2
