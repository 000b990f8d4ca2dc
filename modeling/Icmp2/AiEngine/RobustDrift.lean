import Icmp2.AiEngine.SteepRise
import Icmp2.Library.Majority
import Mathlib.Data.List.GetD
import Mathlib.Tactic.Linarith

/-
  What wrong values can do to the degraded forecast.

  Main definitions include:
    * `Icmp2.AiEngine.MostlyClean`

  Main theorems include:
    * `Icmp2.AiEngine.median_between`
    * `Icmp2.AiEngine.predict_cases`
    * `Icmp2.AiEngine.degraded_forecast_robust`

  The drift is the median of the steps of a segment.  A
  wrong value changes two steps, so that less than a quarter
  of wrong values, however large, does not move the drift
  out of the range of the true steps.
-/

------------------------------------------------------------
-- Medians
------------------------------------------------------------

namespace Icmp2

namespace AiEngine

open Library

variable {xs : List ℚ}
variable {lo hi : ℚ}

/- A place of the sorted numbers that most are around. -/
theorem getD_between
    {i : Nat}
    (hLt : i < xs.length)
    (hBelow :
      xs.countP (fun x => ¬ (lo ≤ x ∧ x ≤ hi)) ≤ i)
    (hAbove :
      xs.countP (fun x => ¬ (lo ≤ x ∧ x ≤ hi)) <
        xs.length - i) :
    lo ≤ (xs.insertionSort (· ≤ ·)).getD i 0 ∧
      (xs.insertionSort (· ≤ ·)).getD i 0 ≤ hi := by
  have hPerm := List.perm_insertionSort (· ≤ ·) xs
  have hSorted : (xs.insertionSort (· ≤ ·)).SortedLE :=
    List.sortedLE_insertionSort
  have hPlace :
      i < (xs.insertionSort (· ≤ ·)).length := by
    rw [hPerm.length_eq]
    exact hLt
  have hLow :
      xs.countP (fun x => x < lo) ≤
        xs.countP (fun x => ¬ (lo ≤ x ∧ x ≤ hi)) := by
    refine List.countP_mono_left fun x _ hx => ?_
    simp only [decide_eq_true_eq] at hx ⊢
    exact fun hIn => absurd hIn.1 (not_le.mpr hx)
  have hHigh :
      xs.countP (fun x => hi < x) ≤
        xs.countP (fun x => ¬ (lo ≤ x ∧ x ≤ hi)) := by
    refine List.countP_mono_left fun x _ hx => ?_
    simp only [decide_eq_true_eq] at hx ⊢
    exact fun hIn => absurd hIn.2 (not_le.mpr hx)
  rw [List.getD_eq_getElem _ _ hPlace]
  constructor
  · apply le_getElem_of_countP_le hSorted hPlace
    rw [hPerm.countP_eq]
    exact hLow.trans hBelow
  · apply getElem_le_of_countP_lt hSorted hPlace
    rw [hPerm.countP_eq, hPerm.length_eq]
    exact hHigh.trans_lt hAbove

/- The median is where more than half of the numbers are. -/
theorem median_between
    (hMost :
      2 * xs.countP (fun x => ¬ (lo ≤ x ∧ x ≤ hi)) <
        xs.length) :
    lo ≤ median xs ∧ median xs ≤ hi := by
  have hUpper :
      lo ≤ (xs.insertionSort (· ≤ ·)).getD
          (xs.length / 2) 0 ∧
        (xs.insertionSort (· ≤ ·)).getD
          (xs.length / 2) 0 ≤ hi := by
    apply getD_between <;> omega
  unfold median
  simp only
  split_ifs with hOdd
  · exact hUpper
  · have hLower :
        lo ≤ (xs.insertionSort (· ≤ ·)).getD
            (xs.length / 2 - 1) 0 ∧
          (xs.insertionSort (· ≤ ·)).getD
            (xs.length / 2 - 1) 0 ≤ hi := by
      apply getD_between <;> omega
    constructor
    · linarith [hUpper.1, hLower.1]
    · linarith [hUpper.2, hLower.2]

theorem diffs_eq_map_links
    (xs : List ℚ) :
    diffs xs = (links xs).map fun link =>
      link.2 - link.1 := by
  fun_induction diffs xs with
  | case1 => rfl
  | case2 x => rfl
  | case3 x y rest ih => rw [ih, links, List.map_cons]

/-
  A segment that is a clean one with less than a quarter of
  wrong values.
-/
structure MostlyClean
    (clean segment : List ℚ)
    (lo hi : ℚ) :
    Prop where
  length : segment.length = clean.length
  steps : ∀ step ∈ diffs clean, lo ≤ step ∧ step ≤ hi
  few : 4 * mismatches clean segment < segment.length - 1

theorem MostlyClean.drift_between
    {clean segment : List ℚ}
    (hClean : MostlyClean clean segment lo hi) :
    lo ≤ median (diffs segment) ∧
      median (diffs segment) ≤ hi := by
  have hSteps := hClean.steps
  rw [diffs_eq_map_links] at hSteps
  have hGood :
      ∀ link ∈ links clean,
        lo ≤ link.2 - link.1 ∧ link.2 - link.1 ≤ hi :=
    fun link hLink =>
      hSteps _ (List.mem_map_of_mem hLink)
  have hWrong := countP_links_le hClean.length hGood
  have hFew := hClean.few
  apply median_between
  rw [length_diffs, diffs_eq_map_links, List.countP_map]
  exact
    lt_of_le_of_lt
      (Nat.mul_le_mul_left 2 hWrong) (by omega)

end AiEngine

end Icmp2

------------------------------------------------------------
-- The Path of a Segment
------------------------------------------------------------

namespace Icmp2

namespace AiEngine

open Monitoring

variable {backend : ArimaBackend}
variable {config : ArimaConfig}
variable {now : Instant}
variable {anchor : CpAnchorResult}

/- A result without a filled segment is unknown. -/
theorem predict_cases
    {history : List Sample}
    {result : GasArimaResult}
    (hResult :
      predict backend config now anchor history =
        .ok result) :
    result.path = .unknown ∨
      ∃ segment,
        filledSegment
            (anchoredSegment config anchor history) =
          some segment ∧
        result =
          forecastSegment backend config now anchor
            segment := by
  unfold predict at hResult
  simp only at hResult
  split_ifs at hResult with hShort hInf hFew
  · left
    rw [← Except.ok.inj hResult]
    rfl
  · left
    rw [← Except.ok.inj hResult]
    rfl
  · left
    rw [← Except.ok.inj hResult]
    rfl
  · right
    cases hFilled :
        filledSegment
          (anchoredSegment config anchor history) with
    | none =>
        rw [hFilled] at hResult
        cases hResult
    | some segment =>
        rw [hFilled] at hResult
        exact ⟨segment, rfl, (Except.ok.inj hResult).symm⟩

/- The fitted path never gives a degraded result. -/
theorem normalForecast_path_ne
    (segment : List ℚ) :
    (normalForecast backend config now anchor
        segment).path ≠
      .degraded := by
  unfold normalForecast
  intro hPath
  simp only at hPath
  split at hPath
  · cases hPath
  · split at hPath
    · cases hPath
    · cases hPath

/- A degraded result extrapolates the median step. -/
theorem degradedForecast_eq
    {segment : List ℚ}
    {reason : String}
    (hPath :
      (degradedForecast backend config now anchor segment
        reason).path = .degraded) :
    (degradedForecast backend config now anchor segment
          reason).drift =
        some (median (diffs segment)) ∧
      (degradedForecast backend config now anchor segment
          reason).forecastMean =
        (List.range config.forecastSteps).map fun step =>
          segment.getLastD 0 +
            median (diffs segment) *
              ((step + 1 : Nat) : ℚ) := by
  unfold degradedForecast at hPath ⊢
  simp only at hPath ⊢
  split_ifs at hPath ⊢ with hFew
  · cases hPath
  · exact ⟨rfl, by simp only [List.map_map]; rfl⟩

/- A degraded result comes from the degraded path. -/
theorem forecastSegment_degraded
    {segment : List ℚ}
    (hPath :
      (forecastSegment backend config now anchor
        segment).path = .degraded) :
    ∃ reason,
      forecastSegment backend config now anchor segment =
        degradedForecast backend config now anchor segment
          reason := by
  unfold forecastSegment at hPath ⊢
  simp only at hPath ⊢
  split_ifs at hPath ⊢ with hShort hHorizon hContaminated
  · cases hSlope : robustSlope segment with
    | none =>
        rw [hSlope] at hPath
        cases hPath
    | some slope =>
        rw [hSlope] at hPath
        simp only at hPath ⊢
        split_ifs at hPath ⊢ with hGate
        · cases hPath
        · exact ⟨_, rfl⟩
  · cases hPath
  · exact ⟨_, rfl⟩
  · exact absurd hPath (normalForecast_path_ne segment)

/- A short segment is judged by its median step. -/
theorem forecastSegment_path_of_short
    {segment : List ℚ}
    (hShort : segment.length < config.minSegment) :
    (median (diffs segment) < config.slopeGate →
      (forecastSegment backend config now anchor
        segment).path = .unknown) ∧
      (6 ≤ segment.length →
        config.slopeGate ≤ median (diffs segment) →
          (forecastSegment backend config now anchor
            segment).path = .degraded) := by
  have hShortInt :
      (segment.length : Int) < config.minSegment := by
    exact_mod_cast hShort
  unfold forecastSegment
  simp only [if_pos hShortInt]
  by_cases hTwo : segment.length < 2
  · have hSlope : robustSlope segment = none :=
      if_pos hTwo
    rw [hSlope]
    refine ⟨fun _ => rfl, fun hLong => ?_⟩
    omega
  · have hSlope :
        robustSlope segment =
          some (median (diffs segment)) :=
      if_neg hTwo
    rw [hSlope]
    simp only
    constructor
    · intro hGentle
      rw [if_pos hGentle]
      rfl
    · intro hLong hSteep
      rw [if_neg (not_lt.mpr hSteep)]
      exact
        degradedForecast_path backend config now anchor
          hLong _

end AiEngine

end Icmp2

------------------------------------------------------------
-- Robust Forecasts
------------------------------------------------------------

namespace Icmp2

namespace AiEngine

open Monitoring

/-
  Less than a quarter of wrong values neither bends a
  degraded forecast out of the range of the true steps, nor
  makes a short segment look steep, nor hides that it is.
-/
theorem degraded_forecast_robust
    (backend : ArimaBackend)
    (config : ArimaConfig)
    (now : Instant)
    (anchor : CpAnchorResult)
    (history : List Sample)
    {clean segment : List ℚ}
    {lo hi : ℚ}
    (hSegment :
      filledSegment
          (anchoredSegment config anchor history) =
        some segment)
    (hClean : MostlyClean clean segment lo hi)
    {result : GasArimaResult}
    (hResult :
      predict backend config now anchor history =
        .ok result) :
    (result.path = .degraded →
      ∃ drift,
        result.drift = some drift ∧
          lo ≤ drift ∧ drift ≤ hi ∧
          result.forecastMean =
            (List.range config.forecastSteps).map
              fun step =>
                segment.getLastD 0 +
                  drift * ((step + 1 : Nat) : ℚ)) ∧
      (segment.length < config.minSegment →
        (hi < config.slopeGate →
          result.path = .unknown) ∧
        ((∀ sample ∈ anchoredSegment config anchor history,
              sample ≠ .inf) →
          config.degradedMinSegment ≤
              segLen config anchor history.length →
          config.minValidRatio ≤
              validRatio
                (anchoredSegment config anchor history) →
          config.slopeGate ≤ lo →
            result.path = .degraded)) := by
  have hDrift := hClean.drift_between
  constructor
  · intro hPath
    rcases predict_cases hResult with
      hUnknown | ⟨filled, hFilled, rfl⟩
    · rw [hUnknown] at hPath
      cases hPath
    · cases hSegment.symm.trans hFilled
      rcases forecastSegment_degraded hPath with
        ⟨reason, hDegraded⟩
      rw [hDegraded] at hPath ⊢
      rcases degradedForecast_eq hPath with
        ⟨hSome, hMean⟩
      exact ⟨_, hSome, hDrift.1, hDrift.2, hMean⟩
  · intro hShort
    constructor
    · intro hGentle
      rcases predict_cases hResult with
        hUnknown | ⟨filled, hFilled, rfl⟩
      · exact hUnknown
      · cases hSegment.symm.trans hFilled
        exact
          (forecastSegment_path_of_short hShort).1
            (hDrift.2.trans_lt hGentle)
    · intro hFinite hLong hValid hSteep
      have hGate :
          config.slopeGate ≤ median (diffs segment) :=
        hSteep.trans hDrift.1
      have hFew := hClean.few
      have hSlope :
          robustSlope segment =
            some (median (diffs segment)) :=
        if_neg (by omega)
      have hRise :
          SteepRise config anchor history segment :=
        ⟨hFinite, hLong, hValid, hSegment, _, hSlope, hGate⟩
      have hSix : 6 ≤ segment.length := by
        have hLength := hRise.length_segment
        have hMin := config.six_le_degradedMinSegment
        omega
      rw [hRise.predict_eq] at hResult
      rw [← Except.ok.inj hResult]
      exact
        (forecastSegment_path_of_short hShort).2 hSix hGate

/- A rise with two values that are far off. -/
def spikedRise : List ℚ :=
  ((rise 30).set 10 1000).set 20 (-5)

/- The two values neither hide the rise nor bend it. -/
theorem degraded_forecast_robust_spiked :
    ∃ result,
      predict flatBackend .default 0 noAnchor
            (spikedRise.map .value) =
          .ok result ∧
        result.path = .degraded ∧
        result.drift = some 2 := by
  have hSome :
      (predict flatBackend .default 0 noAnchor
        (spikedRise.map .value)).toOption.isSome = true := by
    decide +kernel
  cases hResult :
      predict flatBackend .default 0 noAnchor
        (spikedRise.map .value) with
  | error name =>
      rw [hResult] at hSome
      cases hSome
  | ok result =>
      have hClean : MostlyClean (rise 30) spikedRise 2 2 :=
        ⟨by decide, by decide +kernel, by decide +kernel⟩
      rcases
        degraded_forecast_robust flatBackend .default 0
          noAnchor (spikedRise.map .value)
          (by decide +kernel) hClean hResult with
        ⟨hDegraded, hShort⟩
      have hPath : result.path = .degraded :=
        (hShort (by decide)).2 (by decide) (by decide)
          (by decide +kernel) (by decide +kernel)
      rcases hDegraded hPath with
        ⟨drift, hDrift, hLow, hHigh, _⟩
      exact
        ⟨result, rfl, hPath,
          hDrift.trans
            (congrArg some (le_antisymm hHigh hLow))⟩

end AiEngine

end Icmp2
