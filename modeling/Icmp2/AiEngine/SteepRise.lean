import Icmp2.AiEngine.GasArima

/-
  Which steep rises are forecast.

  Main definitions include:
    * `Icmp2.AiEngine.SteepRise`
    * `Icmp2.AiEngine.FitSucceeds`

  Main theorems include:
    * `Icmp2.AiEngine.degradedForecast_path`
    * `Icmp2.AiEngine.normalForecast_path`
    * `Icmp2.AiEngine.forecastSegment_path_iff`
    * `Icmp2.AiEngine.SteepRise.predict_eq`
    * `Icmp2.AiEngine.steep_rise_forecast_iff`

  A short segment that rises steeply is forecast on the
  degraded path.  From the minimum length on the slope is
  not asked for, and what is shorter than the horizon gate
  wants stays unknown.
-/

------------------------------------------------------------
-- Steep Rises
------------------------------------------------------------

namespace Icmp2

namespace AiEngine

open Monitoring

/-
  A history whose segment has no `Inf`, is long enough for
  a forecast, valid enough, and rises as steeply as the gate
  asks.
-/
structure SteepRise
    (config : ArimaConfig)
    (anchor : CpAnchorResult)
    (history : List Sample)
    (segment : List ℚ) :
    Prop where
  finite :
    ∀ sample ∈ anchoredSegment config anchor history,
      sample ≠ .inf
  long :
    config.degradedMinSegment ≤
      segLen config anchor history.length
  valid :
    config.minValidRatio ≤
      validRatio (anchoredSegment config anchor history)
  gapless :
    filledSegment
        (anchoredSegment config anchor history) =
      some segment
  steep :
    ∃ slope ∈ robustSlope segment,
      config.slopeGate ≤ slope

/- The library fits a segment and forecasts numbers. -/
def FitSucceeds
    (backend : ArimaBackend)
    (config : ArimaConfig)
    (segment : List ℚ) :
    Prop :=
  ∃ fitted,
    backend.fit config.order config.trend segment
        config.forecastSteps =
      .ok fitted ∧
    (∀ sample ∈ fitted.predictedMean,
      sample.value?.isSome) ∧
    ∀ bound ∈ fitted.confInt,
      bound.1.value?.isSome ∧ bound.2.value?.isSome

section Paths

variable (backend : ArimaBackend)
variable (config : ArimaConfig)
variable (now : Instant)
variable (anchor : CpAnchorResult)
variable {segment : List ℚ}

/- Six samples have the five steps of a robust drift. -/
theorem degradedForecast_path
    (hLong : 6 ≤ segment.length)
    (reason : String) :
    (degradedForecast backend config now anchor segment
        reason).path =
      .degraded := by
  have hSteps : ¬ (diffs segment).length < 5 := by
    rw [length_diffs]
    omega
  simp only [degradedForecast, if_neg hSteps]

/- A fit that succeeds gives the normal path. -/
theorem normalForecast_path
    (hFit : FitSucceeds backend config segment) :
    (normalForecast backend config now anchor
        segment).path =
      .normal := by
  rcases hFit with ⟨fitted, hFitted, hMean, hBounds⟩
  have hLengths :
      (fitted.predictedMean.filterMap
            Sample.value?).length =
          fitted.predictedMean.length ∧
        (finiteBounds fitted.confInt).length =
          fitted.confInt.length := by
    constructor
    · rw [List.length_filterMap_eq_countP]
      exact List.countP_eq_length.mpr hMean
    · rw [finiteBounds, List.length_filterMap_eq_countP]
      apply List.countP_eq_length.mpr
      rintro ⟨lower, upper⟩ hMem
      have hFinite := hBounds _ hMem
      cases lower <;> cases upper <;>
        simp_all [Sample.value?]
  simp only [normalForecast, hFitted]
  rw [if_pos hLengths]

/- The gates from the slope on. -/
theorem forecastSegment_path_iff
    (hLong : config.degradedMinSegment ≤ segment.length)
    (hSteep :
      ∃ slope ∈ robustSlope segment,
        config.slopeGate ≤ slope)
    (hFit : FitSucceeds backend config segment) :
    (forecastSegment backend config now anchor
        segment).path ≠ .unknown ↔
      segment.length < config.minSegment ∨
        config.segmentHorizonRatio * config.forecastSteps ≤
          segment.length := by
  have hSix : 6 ≤ segment.length :=
    config.six_le_degradedMinSegment.trans hLong
  rcases hSteep with ⟨slope, hSlope, hGate⟩
  unfold forecastSegment
  by_cases hShort : segment.length < config.minSegment
  · have hShortInt :
        (segment.length : Int) < config.minSegment := by
      exact_mod_cast hShort
    refine iff_of_true ?_ (Or.inl hShort)
    simp only [if_pos hShortInt, Option.mem_def.mp hSlope,
      if_neg (not_lt.mpr hGate)]
    rw [degradedForecast_path backend config now anchor
      hSix]
    decide
  · have hShortInt :
        ¬ (segment.length : Int) < config.minSegment := by
      exact_mod_cast hShort
    simp only [if_neg hShortInt, hShort, false_or,
      Int.cast_natCast]
    by_cases hHorizon :
        config.segmentHorizonRatio * config.forecastSteps ≤
          segment.length
    · refine iff_of_true ?_ hHorizon
      rw [if_neg (not_lt.mpr hHorizon)]
      by_cases hContaminated : anchor.contamination = true
      · rw [if_pos hContaminated,
          degradedForecast_path backend config now anchor
            hSix]
        decide
      · rw [if_neg hContaminated,
          normalForecast_path backend config now anchor
            hFit]
        decide
    · refine iff_of_false ?_ hHorizon
      rw [if_pos (not_le.mp hHorizon)]
      exact fun hKnown => hKnown rfl

end Paths

section Rises

variable {config : ArimaConfig}
variable {anchor : CpAnchorResult}
variable {history : List Sample}
variable {segment : List ℚ}

theorem SteepRise.length_segment
    (hRise : SteepRise config anchor history segment) :
    (segment.length : Int) =
      segLen config anchor history.length := by
  rw [length_filledBy hRise.finite
    hRise.gapless]
  exact
    length_segmentOf
      (Int.le_trans (Int.natCast_nonneg _) hRise.long)
      (segLen_le config anchor history.length)

/- A steep rise passes the first three gates. -/
theorem SteepRise.predict_eq
    (hRise : SteepRise config anchor history segment)
    (backend : ArimaBackend)
    (now : Instant) :
    predict backend config now anchor history =
      .ok
        (forecastSegment backend config now anchor
          segment) := by
  have hNoInf :
      ¬ (anchoredSegment config anchor history).any
          Sample.isInf = true := by
    intro hAny
    rcases List.any_eq_true.mp hAny with
      ⟨sample, hMem, hInf⟩
    cases sample with
    | value x => cases hInf
    | nan => cases hInf
    | inf => exact hRise.finite _ hMem rfl
  simp only [predict, if_neg (not_lt.mpr hRise.long),
    if_neg hNoInf, if_neg (not_lt.mpr hRise.valid),
    hRise.gapless]

end Rises

/- A library that forecasts zero at every step. -/
def flatBackend : ArimaBackend where
  sqrt := fun x => x
  str := fun _ => ""
  fixed2 := fun _ => ""
  fixed3 := fun _ => ""
  fit := fun _ _ _ steps =>
    .ok
      { predictedMean := List.replicate steps (.value 0)
        confInt :=
          List.replicate steps (.value (-1), .value 1)
        trendParam := some (.value 0, .value 0) }

/- A channel without a change point. -/
def noAnchor : CpAnchorResult where
  timestamp := 0
  deviceId := "gas_A"
  sensorType := .gas .voc
  anchorIndex := none
  segmentLength := 60
  contamination := false
  trigger := false
  breakpoints := []
  gatedBreakpoints := []
  magnitudeGate := 50
  windowSize := 60
  reason := "anchor 없음 (최근 magnitude 변화점 미검출)"

/- A value that rises by two at every step. -/
def rise
    (count : Nat) :
    List ℚ :=
  (List.range count).map fun step => 2 * (step : ℚ)

end AiEngine

end Icmp2
