import Icmp2.Monitoring.Reading
import Icmp2.Library.Rounding
import Mathlib.Algebra.Order.Ring.Rat

/-
  The two-axis grading of forecasts.

  Main definitions include:
    * `Icmp2.AiEngine.ArimaResult`
    * `Icmp2.AiEngine.ForecastPolicyResult`
    * `Icmp2.AiEngine.PolicyConfig.margin`
    * `Icmp2.AiEngine.gradeAxis`
    * `Icmp2.AiEngine.headline`
    * `Icmp2.AiEngine.grade`

  Main theorems include:
    * `Icmp2.AiEngine.grade_headline`
    * `Icmp2.AiEngine.headline_of_danger`
    * `Icmp2.AiEngine.headline_of_caution`

  Sums, differences and products are those of doubles: each
  result is rounded.
-/

------------------------------------------------------------
-- Results
------------------------------------------------------------

namespace Icmp2

namespace AiEngine

open Monitoring

/- The sensors whose values are forecast. -/
inductive SensorType where
  | gas (gas : Gas)
  | voltage
  | current
  | power
  deriving DecidableEq, Repr

/- The stored name of a sensor. -/
def SensorType.name : SensorType → String
  | gas g => g.name
  | voltage => "voltage"
  | current => "current"
  | power => "power"

/- `ForecastConfidence`. -/
inductive ForecastConfidence where
  | normal
  | tentative
  | confirmedWarning
  | confirmedStrong
  | unknown
  deriving DecidableEq, Repr

namespace ForecastConfidence

/- The stored label of a confidence. -/
def value : ForecastConfidence → String
  | normal => "정상"
  | tentative => "잠정"
  | confirmedWarning => "확정-경고"
  | confirmedStrong => "확정-강"
  | unknown => "판정불가"

/- `_CONF_RANK`. -/
def rank : ForecastConfidence → Nat
  | normal => 0
  | unknown => 0
  | tentative => 1
  | confirmedWarning => 2
  | confirmedStrong => 3

/- One of the two confirmed confidences. -/
def Confirmed
    (confidence : ForecastConfidence) :
    Prop :=
  confidence = .confirmedWarning ∨
    confidence = .confirmedStrong

instance
    (confidence : ForecastConfidence) :
    Decidable confidence.Confirmed := by
  unfold Confirmed
  infer_instance

theorem Confirmed.rank_pos
    {confidence : ForecastConfidence}
    (hConfirmed : confidence.Confirmed) :
    0 < confidence.rank := by
  rcases hConfirmed with hEq | hEq
  · rw [hEq]
    decide
  · rw [hEq]
    decide

end ForecastConfidence

/- The level of the present value. -/
inductive RiskLevel where
  | normal
  | caution
  | danger
  | unknown
  deriving DecidableEq, Repr

/- The stored label of a risk level. -/
def RiskLevel.value : RiskLevel → String
  | normal => "정상"
  | caution => "주의"
  | danger => "위험"
  | unknown => "판정불가"

/- The two graded thresholds. -/
inductive Axis where
  | caution
  | danger
  deriving DecidableEq, Repr

/- The stored name of an axis. -/
def Axis.name : Axis → String
  | caution => "caution"
  | danger => "danger"

/- The path a forecast was computed on. -/
inductive ForecastPath where
  | normal
  | degraded
  | unknown
  deriving DecidableEq, Repr

/- The stored name of a path. -/
def ForecastPath.name : ForecastPath → String
  | normal => "normal"
  | degraded => "degraded"
  | unknown => "unknown"

/-
  A raw forecast.  The bounds of the confidence interval
  are given for the same steps.
-/
structure ArimaResult where
  timestamp : Instant
  deviceId : String
  sensorType : SensorType
  path : ForecastPath
  forecastMean : List ℚ
  ciLower : List ℚ
  ciUpper : List ℚ
  forecastSteps : Nat
  driftTstat : Option ℚ
  reason : String
  sameSteps : ciLower.length = ciUpper.length
  deriving DecidableEq, Repr

/- A graded forecast of one sensor. -/
structure ForecastPolicyResult where
  timestamp : Instant
  deviceId : String
  sensorType : SensorType
  cautionConfidence : ForecastConfidence
  dangerConfidence : ForecastConfidence
  headlineSeverity : Option Axis
  headlineConfidence : ForecastConfidence
  cautionEtaStep : Option Nat
  dangerEtaStep : Option Nat
  path : ForecastPath
  forecastSteps : Nat
  presentLevel : RiskLevel
  corroborated : Bool
  reason : String
  deriving DecidableEq, Repr

end AiEngine

end Icmp2

------------------------------------------------------------
-- The Policy
------------------------------------------------------------

namespace Icmp2

namespace AiEngine

open Monitoring Library

/- Parameters that the constructor accepts. -/
structure PolicyConfig where
  marginRatio : ℚ
  driftTau : ℚ
  kConfirm : Nat
  degradedCiWidthRatio : ℚ
  marginRatio_nonneg : 0 ≤ marginRatio
  driftTau_nonneg : 0 ≤ driftTau
  kConfirm_pos : 1 ≤ kConfirm
  degradedCiWidthRatio_pos : 0 < degradedCiWidthRatio

/- `m`: the margin of a threshold. -/
def PolicyConfig.margin
    (config : PolicyConfig)
    (threshold : ℚ) :
    ℚ :=
  toDouble (config.marginRatio * threshold)

/- A channel and an axis. -/
structure AxisKey where
  deviceId : String
  sensorType : SensorType
  axis : Axis
  deriving DecidableEq, Repr

/- The streak counters; an absent key counts as zero. -/
structure PolicyState where
  warnStreak : AxisKey → Nat
  strongStreak : AxisKey → Nat

namespace PolicyState

/- The counters of a new policy object. -/
def initial : PolicyState where
  warnStreak := fun _ => 0
  strongStreak := fun _ => 0

/- Set both counters of one key. -/
def set
    (state : PolicyState)
    (key : AxisKey)
    (warn strong : Nat) :
    PolicyState where
  warnStreak := fun other =>
    if other = key then warn else state.warnStreak other
  strongStreak := fun other =>
    if other = key then strong else state.strongStreak other

/- `_reset`. -/
def reset
    (state : PolicyState)
    (key : AxisKey) :
    PolicyState :=
  state.set key 0 0

end PolicyState

/- The first step (from 1) at which the mean arrives. -/
def etaStep
    (margin threshold : ℚ) :
    List ℚ → Nat → Option Nat
  | [], _ => none
  | x :: rest, step =>
      if toDouble (x + margin) ≥ threshold then
        some step
      else
        etaStep margin threshold rest (step + 1)

/- The greatest width of the interval; zero if empty. -/
def ciWidth
    (lower upper : List ℚ) :
    ℚ :=
  match List.zipWith (fun l u => toDouble (u - l)) lower upper with
  | [] => 0
  | width :: widths => widths.foldl max width

/- `_grade_axis`. -/
def gradeAxis
    (config : PolicyConfig)
    (state : PolicyState)
    (key : AxisKey)
    (arima : ArimaResult)
    (threshold : ℚ) :
    (ForecastConfidence × Option Nat) × PolicyState :=
  let margin := config.margin threshold
  let eta := etaStep margin threshold arima.forecastMean 1
  let anyTentative :=
    arima.ciUpper.any fun u =>
      toDouble (u + margin) ≥ threshold
  if arima.path = .degraded then
    let width := ciWidth arima.ciLower arima.ciUpper
    let state := state.reset key
    if width >
        toDouble (config.degradedCiWidthRatio * threshold) then
      ((.unknown, none), state)
    else if anyTentative then
      ((.tentative, eta), state)
    else
      ((.normal, eta), state)
  else
    let warnCond :=
      (arima.forecastMean.any
          fun x => toDouble (x + margin) ≥ threshold) &&
        (match arima.driftTstat with
        | none => false
        | some tstat => tstat ≥ config.driftTau)
    let strongCond :=
      arima.ciLower.any fun l => l ≥ threshold
    let warn :=
      if warnCond then state.warnStreak key + 1 else 0
    let strong :=
      if strongCond then state.strongStreak key + 1 else 0
    let state := state.set key warn strong
    if strong ≥ config.kConfirm then
      ((.confirmedStrong, eta), state)
    else if warn ≥ config.kConfirm then
      ((.confirmedWarning, eta), state)
    else if anyTentative then
      ((.tentative, eta), state)
    else
      ((.normal, eta), state)

/- `_headline`: the axis and the confidence to show. -/
def headline
    (caution danger : ForecastConfidence) :
    Option Axis × ForecastConfidence :=
  if danger.rank > 0 then
    (some .danger, danger)
  else if caution.rank > 0 then
    (some .caution, caution)
  else if caution = .unknown ∨ danger = .unknown then
    (none, .unknown)
  else
    (none, .normal)

/- `_build`. -/
def buildResult
    (arima : ArimaResult)
    (caution danger : ForecastConfidence)
    (cautionEta dangerEta : Option Nat)
    (reason : String)
    (presentLevel : RiskLevel) :
    ForecastPolicyResult :=
  let shown := headline caution danger
  let corroborated : Bool :=
    (presentLevel = .caution ∨ presentLevel = .danger) ∧
      shown.2.rank ≥ 1
  { timestamp := arima.timestamp
    deviceId := arima.deviceId
    sensorType := arima.sensorType
    cautionConfidence := caution
    dangerConfidence := danger
    headlineSeverity := shown.1
    headlineConfidence := shown.2
    cautionEtaStep := cautionEta
    dangerEtaStep := dangerEta
    path := arima.path
    forecastSteps := arima.forecastSteps
    presentLevel := presentLevel
    corroborated := corroborated
    reason :=
      if corroborated then
        reason ++ " · 현재 " ++ presentLevel.value ++
          " — 추세 보강"
      else
        reason }

/- The arguments of one call of `grade`. -/
structure GradeCall where
  arima : ArimaResult
  caution : Option ℚ
  danger : Option ℚ
  direction : String
  presentLevel : RiskLevel
  deriving DecidableEq, Repr

/- The result of a call that cannot be graded. -/
def ungraded
    (state : PolicyState)
    (cautionKey dangerKey : AxisKey)
    (call : GradeCall)
    (reason : String) :
    ForecastPolicyResult × PolicyState :=
  (buildResult call.arima .unknown .unknown none none
      reason call.presentLevel,
    (state.reset cautionKey).reset dangerKey)

/- `grade`. -/
def grade
    (config : PolicyConfig)
    (state : PolicyState)
    (call : GradeCall) :
    ForecastPolicyResult × PolicyState :=
  let arima := call.arima
  let cautionKey : AxisKey :=
    ⟨arima.deviceId, arima.sensorType, .caution⟩
  let dangerKey : AxisKey :=
    ⟨arima.deviceId, arima.sensorType, .danger⟩
  if call.direction ≠ "high" then
    ungraded state cautionKey dangerKey call
      ("direction '" ++ call.direction ++
        "' 등급화 미구현 (후속 일반화 대상)")
  else
    match call.caution, call.danger with
    | some caution, some danger =>
        if arima.path = .unknown then
          ungraded state cautionKey dangerKey call
            ("ARIMA 예측 불가: " ++ arima.reason)
        else
          let cautionGrade :=
            gradeAxis config state cautionKey arima
              (toDouble caution)
          let dangerGrade :=
            gradeAxis config cautionGrade.2 dangerKey
              arima (toDouble danger)
          let reason :=
            arima.path.name ++ " 경로 — 주의:" ++
              cautionGrade.1.1.value ++ " / 위험:" ++
              dangerGrade.1.1.value
          (buildResult arima
              cautionGrade.1.1 dangerGrade.1.1
              cautionGrade.1.2 dangerGrade.1.2
              reason call.presentLevel,
            dangerGrade.2)
    | _, _ =>
        ungraded state cautionKey dangerKey call
          "임계(주의·위험) 미정의"

/- Grade the calls one after the other. -/
def gradeAll
    (config : PolicyConfig) :
    PolicyState → List GradeCall →
      List ForecastPolicyResult × PolicyState
  | state, [] => ([], state)
  | state, call :: calls =>
      let first := grade config state call
      let rest := gradeAll config first.2 calls
      (first.1 :: rest.1, rest.2)

end AiEngine

end Icmp2

------------------------------------------------------------
-- Headlines
------------------------------------------------------------

namespace Icmp2

namespace AiEngine

/- The headline fields follow from the two axes. -/
def ForecastPolicyResult.HasHeadline
    (result : ForecastPolicyResult) :
    Prop :=
  (result.headlineSeverity, result.headlineConfidence) =
    headline result.cautionConfidence
      result.dangerConfidence

theorem buildResult_headline
    (arima : ArimaResult)
    (caution danger : ForecastConfidence)
    (cautionEta dangerEta : Option Nat)
    (reason : String)
    (presentLevel : RiskLevel) :
    (buildResult arima caution danger cautionEta dangerEta
      reason presentLevel).HasHeadline := by
  rfl

/- Every graded result carries the headline of its axes. -/
theorem grade_headline
    (config : PolicyConfig)
    (state : PolicyState)
    (call : GradeCall) :
    (grade config state call).1.HasHeadline := by
  unfold grade ungraded
  by_cases hDirection : call.direction ≠ "high"
  · simp only [if_pos hDirection]
    exact buildResult_headline _ _ _ _ _ _ _
  · simp only [if_neg hDirection]
    cases hCaution : call.caution with
    | none =>
        simp only
        exact buildResult_headline _ _ _ _ _ _ _
    | some caution =>
        cases hDanger : call.danger with
        | none =>
            simp only
            exact buildResult_headline _ _ _ _ _ _ _
        | some danger =>
            by_cases hPath : call.arima.path = .unknown
            · simp only [if_pos hPath]
              exact buildResult_headline _ _ _ _ _ _ _
            · simp only [if_neg hPath]
              exact buildResult_headline _ _ _ _ _ _ _

theorem gradeAll_headline
    (config : PolicyConfig)
    (state : PolicyState)
    (calls : List GradeCall) :
    ∀ result ∈ (gradeAll config state calls).1,
      result.HasHeadline := by
  induction calls generalizing state with
  | nil =>
      intro result hMem
      cases hMem
  | cons call calls ih =>
      intro result hMem
      rcases List.mem_cons.mp hMem with hHead | hTail
      · rw [hHead]
        exact grade_headline config state call
      · exact ih (grade config state call).2 result hTail

/- A confirmed danger axis is the headline. -/
theorem headline_of_danger
    {caution danger : ForecastConfidence}
    (hDanger : danger.Confirmed) :
    headline caution danger = (some .danger, danger) := by
  simp [headline, hDanger.rank_pos]

/- A confirmed caution axis shows if danger is silent. -/
theorem headline_of_caution
    {caution danger : ForecastConfidence}
    (hCaution : caution.Confirmed)
    (hDanger : danger.rank = 0) :
    headline caution danger = (some .caution, caution) := by
  simp [headline, hCaution.rank_pos, hDanger]

end AiEngine

end Icmp2
