import Icmp2.AiEngine.ForecastPolicy
import Icmp2.AiEngine.Signal

/-
  The forecaster of the gas channels.

  Main definitions include:
    * `Icmp2.AiEngine.ArimaConfig`
    * `Icmp2.AiEngine.CpAnchorResult`
    * `Icmp2.AiEngine.GasArimaResult`
    * `Icmp2.AiEngine.anchoredSegment`
    * `Icmp2.AiEngine.forecastSegment`
    * `Icmp2.AiEngine.predict`

  Main theorems include:
    * `Icmp2.AiEngine.segLen_le`
    * `Icmp2.AiEngine.length_segmentOf`
    * `Icmp2.AiEngine.length_filledBy`
-/

------------------------------------------------------------
-- Configurations and Results
------------------------------------------------------------

namespace Icmp2

namespace AiEngine

open Monitoring

/- Parameters that the constructor accepts. -/
structure ArimaConfig where
  order : Nat × Nat × Nat
  trend : String
  forecastSteps : Nat
  minSegment : Nat
  maxSegment : Nat
  segmentHorizonRatio : ℚ
  minValidRatio : ℚ
  degradedMinSegment : Nat
  slopeGate : ℚ
  forecastSteps_pos : 1 ≤ forecastSteps
  two_le_minSegment : 2 ≤ minSegment
  minSegment_le : minSegment ≤ maxSegment
  minValidRatio_nonneg : 0 ≤ minValidRatio
  minValidRatio_le : minValidRatio ≤ 1
  six_le_degradedMinSegment : 6 ≤ degradedMinSegment
  degradedMinSegment_le : degradedMinSegment ≤ minSegment
  slopeGate_nonneg : 0 ≤ slopeGate

/- The default parameters. -/
def ArimaConfig.default : ArimaConfig where
  order := (0, 1, 1)
  trend := "t"
  forecastSteps := 60
  minSegment := 45
  maxSegment := 90
  segmentHorizonRatio := 1
  minValidRatio := 4 / 5
  degradedMinSegment := 20
  slopeGate := 1
  forecastSteps_pos := by decide
  two_le_minSegment := by decide
  minSegment_le := by decide
  minValidRatio_nonneg := by decide +kernel
  minValidRatio_le := by decide +kernel
  six_le_degradedMinSegment := by decide
  degradedMinSegment_le := by decide
  slopeGate_nonneg := by decide +kernel

/- `CPAnchorResult`. -/
structure CpAnchorResult where
  timestamp : Instant
  deviceId : String
  sensorType : SensorType
  anchorIndex : Option Int
  segmentLength : Int
  contamination : Bool
  trigger : Bool
  breakpoints : List Nat
  gatedBreakpoints : List Nat
  magnitudeGate : ℚ
  windowSize : Nat
  reason : String
  deriving DecidableEq, Repr

/- `ARIMAResult` with all of its columns. -/
structure GasArimaResult extends ArimaResult where
  drift : Option ℚ
  segmentLength : Int
  anchorIndex : Option Int
  order : Nat × Nat × Nat
  deriving DecidableEq, Repr

/-
  What a fitted model returns: the forecast, its interval
  and, where they are found, the trend coefficient and its
  t value.
-/
structure ArimaFit where
  predictedMean : List Sample
  confInt : List (Sample × Sample)
  trendParam : Option (Sample × Sample)
  deriving DecidableEq, Repr

/-
  The libraries behind the forecaster.  `fit` is given the
  order, the trend, the segment and the steps; it fails
  with the name of the exception.
-/
structure ArimaBackend where
  sqrt : ℚ → ℚ
  str : ℚ → String
  fixed2 : ℚ → String
  fixed3 : ℚ → String
  fit :
    Nat × Nat × Nat → String → List ℚ → Nat →
      Except String ArimaFit

end AiEngine

end Icmp2

------------------------------------------------------------
-- Paths
------------------------------------------------------------

namespace Icmp2

namespace AiEngine

open Monitoring

/- A whole number as text. -/
def intText
    (number : Int) :
    String :=
  (if number < 0 then "-" else "") ++
    String.ofList (Nat.toDigits 10 number.natAbs)

variable (backend : ArimaBackend)
variable (config : ArimaConfig)
variable (now : Instant)
variable (anchor : CpAnchorResult)

/- `_unknown`. -/
def unknownForecast
    (seglen : Int)
    (reason : String) :
    GasArimaResult where
  timestamp := now
  deviceId := anchor.deviceId
  sensorType := anchor.sensorType
  path := .unknown
  forecastMean := []
  ciLower := []
  ciUpper := []
  forecastSteps := config.forecastSteps
  driftTstat := none
  reason := reason
  sameSteps := rfl
  drift := none
  segmentLength := seglen
  anchorIndex := anchor.anchorIndex
  order := config.order

/- `_extract_drift`. -/
def extractDrift
    (fitted : ArimaFit) :
    Option ℚ × Option ℚ :=
  match fitted.trendParam with
  | none => (none, none)
  | some (param, tvalue) =>
      (param.value?, tvalue.value?.map fun t => |t|)

/- The bounds of an interval where both are numbers. -/
def finiteBounds
    (confInt : List (Sample × Sample)) :
    List (ℚ × ℚ) :=
  confInt.filterMap fun bound =>
    match bound with
    | (.value lower, .value upper) => some (lower, upper)
    | _ => none

/- `_normal_forecast`. -/
def normalForecast
    (segment : List ℚ) :
    GasArimaResult :=
  let seglen : Int := segment.length
  match backend.fit config.order config.trend segment
      config.forecastSteps with
  | .error name =>
      unknownForecast config now anchor seglen
        ("ARIMA 적합 실패: " ++ name)
  | .ok fitted =>
      let mean := fitted.predictedMean.filterMap
        Sample.value?
      let bounds := finiteBounds fitted.confInt
      -- `np.isfinite` of the mean and of both bounds.
      if mean.length = fitted.predictedMean.length ∧
          bounds.length = fitted.confInt.length then
        { timestamp := now
          deviceId := anchor.deviceId
          sensorType := anchor.sensorType
          path := .normal
          forecastMean := mean
          ciLower := bounds.map Prod.fst
          ciUpper := bounds.map Prod.snd
          forecastSteps := config.forecastSteps
          driftTstat := (extractDrift fitted).2
          reason :=
            "정규 경로 — 구간 " ++ intText seglen ++
              "시점 재적합"
          sameSteps := by simp
          drift := (extractDrift fitted).1
          segmentLength := seglen
          anchorIndex := anchor.anchorIndex
          order := config.order }
      else
        unknownForecast config now anchor seglen
          "예측에 NaN/Inf 발생"

/- The reason of the degraded path under contamination. -/
def contaminationReason : String :=
  "degraded 경로 — contamination 감지, " ++
    "robust drift 보조 예측"

/- `_degraded_forecast`.  Exact numbers are finite. -/
def degradedForecast
    (segment : List ℚ)
    (reason : String) :
    GasArimaResult :=
  let seglen : Int := segment.length
  let steps := diffs segment
  if steps.length < 5 then
    unknownForecast config now anchor seglen
      "robust drift 추정 실패 (구간 부족)"
  else
    let drift := median steps
    let last := segment.getLastD 0
    let horizon :=
      (List.range config.forecastSteps).map fun step =>
        ((step + 1 : Nat) : ℚ)
    let residuals := segment.mapIdx fun x value =>
      value - (last + drift * (x - (segment.length - 1)))
    let center := median residuals
    let mad :=
      median (residuals.map fun r => |r - center|)
    let half := fun step =>
      1.96 * (1.4826 * mad) * backend.sqrt step
    { timestamp := now
      deviceId := anchor.deviceId
      sensorType := anchor.sensorType
      path := .degraded
      forecastMean := horizon.map fun step =>
        last + drift * step
      ciLower := horizon.map fun step =>
        last + drift * step - half step
      ciUpper := horizon.map fun step =>
        last + drift * step + half step
      forecastSteps := config.forecastSteps
      driftTstat := none
      reason := reason
      sameSteps := by simp
      drift := some drift
      segmentLength := seglen
      anchorIndex := anchor.anchorIndex
      order := config.order }

/- `_robust_slope`. -/
def robustSlope
    (segment : List ℚ) :
    Option ℚ :=
  if segment.length < 2 then
    none
  else
    some (median (diffs segment))

end AiEngine

end Icmp2

------------------------------------------------------------
-- The Forecast
------------------------------------------------------------

namespace Icmp2

namespace AiEngine

open Monitoring

variable (backend : ArimaBackend)
variable (config : ArimaConfig)
variable (now : Instant)
variable (anchor : CpAnchorResult)

/- The length of the segment behind the anchor, capped. -/
def segLen
    (total : Nat) :
    Int :=
  match anchor.anchorIndex with
  | none => min total config.maxSegment
  | some _ =>
      min (min anchor.segmentLength config.maxSegment) total

/- `arr[total - seg_len:]`, for a length up to the total. -/
def segmentOf
    (history : List Sample)
    (seglen : Int) :
    List Sample :=
  history.drop (history.length - seglen.toNat)

/- The segment that a call cuts off the history. -/
def anchoredSegment
    (history : List Sample) :
    List Sample :=
  segmentOf history (segLen config anchor history.length)

/- `valid_ratio`. -/
def validRatio
    (segment : List Sample) :
    ℚ :=
  1 - (segment.filter Sample.isNan).length / segment.length

/-
  A segment without gaps; none where `np.interp` has no
  point to start from.
-/
def filledBy
    (interp : Nat → Nat × ℚ → List (Nat × ℚ) → ℚ)
    (segment : List Sample) :
    Option (List ℚ) :=
  if segment.any Sample.isNan then
    fillGapsBy interp (segment.map Sample.value?)
  else
    some (segment.filterMap Sample.value?)

/- The segment of a forecast, in exact numbers. -/
def filledSegment
    (segment : List Sample) :
    Option (List ℚ) :=
  filledBy interpAt segment

/- Gates 4 to 6: the path of a segment without gaps. -/
def forecastSegment
    (segment : List ℚ) :
    GasArimaResult :=
  let seglen : Int := segment.length
  if seglen < config.minSegment then
    match robustSlope segment with
    | none =>
        unknownForecast config now anchor seglen
          "단구간 — robust slope 추정 실패"
    | some slope =>
        if slope < config.slopeGate then
          unknownForecast config now anchor seglen
            ("단구간 — 기울기 완만 (slope " ++
              backend.fixed3 slope ++ " < gate " ++
              backend.str config.slopeGate ++
              "), 데이터 축적 대기")
        else
          degradedForecast backend config now anchor segment
            ("degraded 경로 (P3 slope-aware) — 단구간 " ++
              intText seglen ++ "시점, 가파른 상승(slope " ++
              backend.fixed3 slope ++ ") robust 외삽")
  else if (seglen : ℚ) <
      config.segmentHorizonRatio * config.forecastSteps then
    unknownForecast config now anchor seglen
      ("수평 대비 구간 부족 (" ++ intText seglen ++ " < " ++
        backend.str config.segmentHorizonRatio ++ "×" ++
        intText config.forecastSteps ++ ")")
  else if anchor.contamination then
    degradedForecast backend config now anchor segment
      contaminationReason
  else
    normalForecast backend config now anchor segment

/- `predict`. -/
def predict
    (history : List Sample) :
    Except String GasArimaResult :=
  let seglen := segLen config anchor history.length
  if seglen < config.degradedMinSegment then
    .ok
      (unknownForecast config now anchor seglen
        ("구간 부족 (" ++ intText seglen ++
          " < degraded_min " ++
          intText config.degradedMinSegment ++ ")"))
  else
    let segment := anchoredSegment config anchor history
    if segment.any Sample.isInf then
      .ok
        (unknownForecast config now anchor seglen
          "구간에 Inf 포함")
    else if validRatio segment < config.minValidRatio then
      .ok
        (unknownForecast config now anchor seglen
          ("유효 비율 부족 (" ++
            backend.fixed2 (validRatio segment) ++ " < " ++
            backend.str config.minValidRatio ++ ")"))
    else
      match filledSegment segment with
      | none => .error "array of sample points is empty"
      | some filled =>
          .ok
            (forecastSegment backend config now anchor
              filled)

end AiEngine

end Icmp2

------------------------------------------------------------
-- Lengths
------------------------------------------------------------

namespace Icmp2

namespace AiEngine

theorem segLen_le
    (config : ArimaConfig)
    (anchor : CpAnchorResult)
    (total : Nat) :
    segLen config anchor total ≤ total := by
  unfold segLen
  cases anchor.anchorIndex with
  | none => exact min_le_left _ _
  | some index => exact min_le_right _ _

/- A segment has its length if the history has that many. -/
theorem length_segmentOf
    {history : List Sample}
    {seglen : Int}
    (hNonneg : 0 ≤ seglen)
    (hLe : seglen ≤ history.length) :
    ((segmentOf history seglen).length : Int) = seglen := by
  rw [segmentOf, List.length_drop]
  omega

/- Filling the gaps keeps the length. -/
theorem length_filledBy
    {interp : Nat → Nat × ℚ → List (Nat × ℚ) → ℚ}
    {segment : List Sample}
    {filled : List ℚ}
    (hFinite : ∀ sample ∈ segment, sample ≠ .inf)
    (hFilled : filledBy interp segment = some filled) :
    filled.length = segment.length := by
  unfold filledBy at hFilled
  split_ifs at hFilled with hGaps
  · rw [length_fillGapsBy hFilled, List.length_map]
  · have hValues :
        ∀ sample ∈ segment, (sample.value?).isSome := by
      intro sample hMem
      cases sample with
      | value x => rfl
      | nan =>
          exact
            absurd (List.any_eq_true.mpr ⟨_, hMem, rfl⟩)
              hGaps
      | inf => exact absurd rfl (hFinite _ hMem)
    rw [← Option.some.inj hFilled,
      List.length_filterMap_eq_countP]
    exact List.countP_eq_length.mpr hValues

end AiEngine

end Icmp2
