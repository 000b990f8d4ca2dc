import Icmp2.AiEngine.ForecastPolicy
import Icmp2.Library.Deviation
import Icmp2.Library.Dict
import Icmp2.Library.Leverage
import Icmp2.Monitoring.Reading

/-
  The detector of readings that are unlike those it learned.

  Main definitions include:
    * `Icmp2.AiEngine.SensorBundle`
    * `Icmp2.AiEngine.IfBackend`
    * `Icmp2.AiEngine.IsolationForestDetector`
    * `Icmp2.AiEngine.IsolationForestDetector.fit`
    * `Icmp2.AiEngine.IsolationForestDetector.predict`

  Main theorems include:
    * `Icmp2.AiEngine.IsolationForestDetector.fit_eq_ok`
    * `Icmp2.AiEngine.training_pool_bounds`

  The detectors for gas and for power differ in their
  sensors and their threshold.  The forest and the inverses
  of matrices come from libraries; arithmetic is exact, and
  distances are kept as their squares.
-/

------------------------------------------------------------
-- Bundles
------------------------------------------------------------

namespace Icmp2

namespace AiEngine

open Monitoring Library

/- The values of one device at one time. -/
structure SensorBundle where
  timestamp : Instant
  deviceId : String
  values : Dict String (Option ℚ)
  isValidFlags : Dict String Bool

namespace SensorBundle

/- `values.get(sensor_type)`. -/
def value?
    (bundle : SensorBundle)
    (sensorType : String) :
    Option ℚ :=
  (bundle.values.entries.lookup sensorType).join

/- `to_vector`; a missing value is NaN. -/
def toVector
    (bundle : SensorBundle)
    (sensorTypes : List String) :
    Fin sensorTypes.length → Option ℚ :=
  fun index => bundle.value? (sensorTypes.get index)

/- `valid_ratio`; zero where there are no values. -/
def validRatio
    (bundle : SensorBundle) :
    ℚ :=
  (bundle.values.entries.countP fun entry =>
      (bundle.isValidFlags.entries.lookup entry.1).getD true &&
        entry.2.isSome) /
    bundle.values.entries.length

/- The vector, if no number of it is NaN. -/
def row?
    (bundle : SensorBundle)
    (sensorTypes : List String) :
    Option (Fin sensorTypes.length → ℚ) :=
  if ∀ index,
      (bundle.toVector sensorTypes index).isSome = true then
    some fun index =>
      (bundle.toVector sensorTypes index).getD 0
  else
    none

end SensorBundle

end AiEngine

end Icmp2

------------------------------------------------------------
-- The Detector
------------------------------------------------------------

namespace Icmp2

namespace AiEngine

open Monitoring Library

/- A row of numbers, one for each sensor. -/
abbrev SensorRow
    (sensorTypes : List String) :
    Type :=
  Fin sensorTypes.length → ℚ

/- A square table with a row for each sensor. -/
abbrev SensorMatrix
    (sensorTypes : List String) :
    Type :=
  Matrix (Fin sensorTypes.length) (Fin sensorTypes.length) ℚ

inductive Contamination where
  | auto
  | ratio (value : ℚ)
  deriving DecidableEq, Repr

/- `__init__`, with what differs between the modules. -/
structure IsolationForestDetector where
  sensorTypes : List String
  needed : String
  nEstimators : Int
  randomState : Int
  contamination : Contamination
  mahalanobisThreshold : ℚ
  minValidRatio : ℚ
  sensors_some : sensorTypes ≠ []

/- `GasIsolationForestDetector` with its defaults. -/
def gasDetector : IsolationForestDetector where
  sensorTypes :=
    ["co", "h2s", "co2", "o2", "no2", "so2", "o3", "nh3",
      "voc"]
  needed := " 필요"
  nEstimators := 100
  randomState := 42
  contamination := .auto
  mahalanobisThreshold := 5
  minValidRatio := 4 / 5
  sensors_some := List.cons_ne_nil _ _

/- `PowerIsolationForestDetector` with its defaults. -/
def powerDetector : IsolationForestDetector where
  sensorTypes := ["voltage", "current", "power"]
  needed := ""
  nEstimators := 100
  randomState := 42
  contamination := .auto
  mahalanobisThreshold := 94 / 25
  minValidRatio := 4 / 5
  sensors_some := List.cons_ne_nil _ _

/- What the libraries for forests and matrices give. -/
structure IfBackend
    (detector : IsolationForestDetector) where
  Forest : Type
  fitForest :
    List (SensorRow detector.sensorTypes) →
      Except String Forest
  predict : Forest → SensorRow detector.sensorTypes → Int
  decisionFunction :
    Forest → SensorRow detector.sensorTypes → ℚ
  inv :
    SensorMatrix detector.sensorTypes →
      Option (SensorMatrix detector.sensorTypes)
  pinv :
    SensorMatrix detector.sensorTypes →
      SensorMatrix detector.sensorTypes

/- What a sentence of a result says. -/
inductive IfReason where
  | fewValid (ratio minValidRatio : ℚ)
  | missing
  | unlike
      (anomaly : Option ℚ)
      (outOfDistribution : Option (ℚ × ℚ))
  | alike (score square : ℚ)
  deriving DecidableEq, Repr

/- `IsolationForestResult`, with the square of the distance. -/
structure IsolationForestResult
    (sensorTypes : List String) where
  timestamp : Instant
  deviceId : String
  isAnomaly : Bool
  anomalyScore : Option ℚ
  mahalanobisSquare : Option ℚ
  isOutOfDistribution : Bool
  level : RiskLevel
  featureVector : Fin sensorTypes.length → Option ℚ
  validRatio : ℚ
  reason : IfReason

namespace IsolationForestDetector

variable (detector : IsolationForestDetector)

/- The rows of the bundles that have no NaN. -/
def cleanRows
    (bundles : List SensorBundle) :
    List (SensorRow detector.sensorTypes) :=
  bundles.filterMap fun bundle =>
    bundle.row? detector.sensorTypes

variable {detector}

/- `X_clean.mean(axis=0)`. -/
def meanRow
    (rows : List (SensorRow detector.sensorTypes)) :
    SensorRow detector.sensorTypes :=
  fun index => average (rows.map fun row => row index)

/- `np.cov(X_clean.T)`. -/
def covariance
    (rows : List (SensorRow detector.sensorTypes)) :
    SensorMatrix detector.sensorTypes :=
  Matrix.of fun left right =>
    (rows.map fun row =>
        (row left - meanRow rows left) *
          (row right - meanRow rows right)).sum /
      (rows.length - 1)

/- The inverse, or the pseudoinverse if there is none. -/
def covInverse
    (backend : IfBackend detector)
    (cov : SensorMatrix detector.sensorTypes) :
    SensorMatrix detector.sensorTypes :=
  (backend.inv cov).getD (backend.pinv cov)

/- What a detector has learned. -/
structure Fitted
    (backend : IfBackend detector) where
  model : backend.Forest
  trainMean : SensorRow detector.sensorTypes
  trainCovInv : SensorMatrix detector.sensorTypes

/- `diff @ train_cov_inv @ diff`. -/
def square
    (mean : SensorRow detector.sensorTypes)
    (covInv : SensorMatrix detector.sensorTypes)
    (row : SensorRow detector.sensorTypes) :
    ℚ :=
  Matrix.vecMul (row - mean) covInv ⬝ᵥ (row - mean)

/- What `fit` returns, with the squares of the distances. -/
structure Metrics where
  nSamplesInput : Nat
  nSamplesTrained : Nat
  nFeatures : Nat
  mahalanobisSquares : List ℚ
  deriving DecidableEq, Repr

/- `fit`. -/
def fit
    (backend : IfBackend detector)
    (bundles : List SensorBundle) :
    Except String (Fitted backend × Metrics) :=
  let rows := detector.cleanRows bundles
  let dimension := detector.sensorTypes.length
  if bundles = [] then
    .error "training_bundles가 비어있음"
  else if rows.length < dimension + 1 then
    .error
      ("유효 학습 샘플 부족: " ++
        String.ofList (Nat.toDigits 10 rows.length) ++
        "개 (최소 " ++
        String.ofList (Nat.toDigits 10 (dimension + 1)) ++
        detector.needed ++ ")")
  else
    match backend.fitForest rows with
    | .error error => .error error
    | .ok model =>
        let mean := meanRow rows
        let covInv := covInverse backend (covariance rows)
        .ok
          (⟨model, mean, covInv⟩,
            { nSamplesInput := bundles.length
              nSamplesTrained := rows.length
              nFeatures := dimension
              mahalanobisSquares :=
                rows.map (square mean covInv) })

/- `np.sqrt(square) >= threshold`; the root may be NaN. -/
def rootReaches
    (square threshold : ℚ) :
    Bool :=
  0 ≤ square ∧ (threshold ≤ 0 ∨ threshold ^ 2 ≤ square)

/- `_build_unknown`. -/
def buildUnknown
    (bundle : SensorBundle)
    (reason : IfReason) :
    IsolationForestResult detector.sensorTypes where
  timestamp := bundle.timestamp
  deviceId := bundle.deviceId
  isAnomaly := false
  anomalyScore := none
  mahalanobisSquare := none
  isOutOfDistribution := false
  level := .unknown
  featureVector := bundle.toVector detector.sensorTypes
  validRatio := bundle.validRatio
  reason := reason

/- `predict` of a detector that has learned. -/
def predict
    {backend : IfBackend detector}
    (fitted : Fitted backend)
    (bundle : SensorBundle) :
    IsolationForestResult detector.sensorTypes :=
  if bundle.validRatio < detector.minValidRatio then
    buildUnknown bundle
      (.fewValid bundle.validRatio detector.minValidRatio)
  else
    match bundle.row? detector.sensorTypes with
    | none => buildUnknown bundle .missing
    | some row =>
        let isAnomaly : Bool :=
          backend.predict fitted.model row = -1
        let score := backend.decisionFunction fitted.model row
        let distance :=
          square fitted.trainMean fitted.trainCovInv row
        let isOod :=
          rootReaches distance detector.mahalanobisThreshold
        { timestamp := bundle.timestamp
          deviceId := bundle.deviceId
          isAnomaly := isAnomaly
          anomalyScore := some score
          mahalanobisSquare := some distance
          isOutOfDistribution := isOod
          level :=
            if isAnomaly || isOod then .caution else .normal
          featureVector := bundle.toVector detector.sensorTypes
          validRatio := bundle.validRatio
          reason :=
            if isAnomaly || isOod then
              .unlike
                (if isAnomaly then some score else none)
                (if isOod then
                  some (distance, detector.mahalanobisThreshold)
                else
                  none)
            else
              .alike score distance }

end IsolationForestDetector

end AiEngine

end Icmp2

------------------------------------------------------------
-- What It Learned
------------------------------------------------------------

namespace Icmp2

namespace AiEngine

open Monitoring Library

namespace IsolationForestDetector

variable {detector : IsolationForestDetector}
variable {backend : IfBackend detector}
variable {bundles : List SensorBundle}

/- What a detector that has learned holds. -/
theorem fit_eq_ok
    {fitted : Fitted backend}
    {metrics : Metrics}
    (hFit : fit backend bundles = .ok (fitted, metrics)) :
    detector.sensorTypes.length + 1 ≤
        (detector.cleanRows bundles).length ∧
      fitted.trainMean =
        meanRow (detector.cleanRows bundles) ∧
      fitted.trainCovInv =
        covInverse backend
          (covariance (detector.cleanRows bundles)) ∧
      metrics.nSamplesTrained =
        (detector.cleanRows bundles).length := by
  unfold fit at hFit
  simp only at hFit
  split at hFit
  · cases hFit
  · split at hFit
    · cases hFit
    · next hEnough =>
        cases hForest :
            backend.fitForest
              (detector.cleanRows bundles) with
        | error error =>
            rw [hForest] at hFit
            cases hFit
        | ok model =>
            rw [hForest] at hFit
            cases hFit
            exact ⟨not_lt.mp hEnough, rfl, rfl, rfl⟩

variable {rows : List (SensorRow detector.sensorTypes)}

/- The rows without their mean. -/
def centred
    (rows : List (SensorRow detector.sensorTypes)) :
    Matrix (Fin rows.length)
      (Fin detector.sensorTypes.length) ℚ :=
  Matrix.of fun place index =>
    rows[place] index - meanRow rows index

theorem covariance_eq
    (rows : List (SensorRow detector.sensorTypes)) :
    covariance rows =
      spread ((rows.length : ℚ) - 1) (centred rows) := by
  ext left right
  have hSum :=
    Fin.sum_univ_fun_getElem rows fun row =>
      (row left - meanRow rows left) *
        (row right - meanRow rows right)
  rw [spread, Matrix.smul_apply, Matrix.mul_apply,
    smul_eq_mul, inv_mul_eq_div]
  simp only [covariance, Matrix.of_apply,
    Matrix.transpose_apply, centred]
  rw [← hSum]
  rfl

theorem sum_centred
    (hSome : rows ≠ [])
    (index : Fin detector.sensorTypes.length) :
    ∑ place, centred rows place index = 0 := by
  have hSum :=
    Fin.sum_univ_fun_getElem rows fun row =>
      row index - meanRow rows index
  have hValues : (rows.map fun row => row index) ≠ [] :=
    fun hNone => hSome (List.map_eq_nil_iff.mp hNone)
  have hZero := sum_sub_average hValues
  rw [List.map_map] at hZero
  exact hSum.trans hZero

/- The square of a distance is a leverage. -/
theorem square_eq
    (covInv : SensorMatrix detector.sensorTypes)
    (hCount : (rows.length : ℚ) - 1 ≠ 0)
    (place : Fin rows.length) :
    square (meanRow rows) covInv rows[place] =
      ((rows.length : ℚ) - 1) *
        leverage ((rows.length : ℚ) - 1) (centred rows) covInv
          place place := by
  rw [leverage, Matrix.smul_apply, smul_eq_mul, ← mul_assoc,
    mul_inv_cancel₀ hCount, one_mul, Matrix.mul_apply]
  rfl

/- The inverse that is kept is a pseudoinverse. -/
theorem isPseudoinverse_covInverse
    {cov : SensorMatrix detector.sensorTypes}
    (hInv :
      ∀ inverse, backend.inv cov = some inverse →
        cov * inverse = 1)
    (hPinv :
      backend.inv cov = none →
        IsPseudoinverse cov (backend.pinv cov)) :
    IsPseudoinverse cov (covInverse backend cov) := by
  unfold covInverse
  cases hSome : backend.inv cov with
  | none => exact hPinv hSome
  | some inverse =>
      exact IsPseudoinverse.of_mul_eq_one (hInv _ hSome)

/- A prediction measures the row of its bundle. -/
theorem predict_square
    {fitted : Fitted backend}
    {bundle : SensorBundle}
    {distance : ℚ}
    (hSquare :
      (predict fitted bundle).mahalanobisSquare =
        some distance) :
    ∃ row,
      bundle.row? detector.sensorTypes = some row ∧
        distance =
          square fitted.trainMean fitted.trainCovInv row := by
  unfold predict at hSquare
  split at hSquare
  · cases hSquare
  · cases hRow : bundle.row? detector.sensorTypes with
    | none =>
        rw [hRow] at hSquare
        cases hSquare
    | some row =>
        rw [hRow] at hSquare
        cases hSquare
        exact ⟨row, rfl, rfl⟩

/- Only a distance that reaches the threshold is outside. -/
theorem predict_outside
    {fitted : Fitted backend}
    {bundle : SensorBundle}
    (hThreshold : 0 < detector.mahalanobisThreshold)
    (hOutside :
      (predict fitted bundle).isOutOfDistribution = true) :
    ∃ distance,
      (predict fitted bundle).mahalanobisSquare =
          some distance ∧
        detector.mahalanobisThreshold ^ 2 ≤ distance := by
  unfold predict at hOutside ⊢
  split at hOutside
  · cases hOutside
  · next hEnough =>
      rw [if_neg hEnough]
      cases hRow : bundle.row? detector.sensorTypes with
      | none =>
          rw [hRow] at hOutside
          cases hOutside
      | some row =>
          rw [hRow] at hOutside
          refine ⟨_, rfl, ?_⟩
          rcases (of_decide_eq_true hOutside).2 with
            hNegative | hReaches
          · exact absurd hThreshold (not_lt.mpr hNegative)
          · exact hReaches

/- The rows of a list are named by their places. -/
theorem exists_place
    {row : SensorRow detector.sensorTypes}
    (hMem : row ∈ rows) :
    ∃ place : Fin rows.length, rows[place] = row := by
  rcases List.mem_iff_getElem.mp hMem with
    ⟨index, hLt, hRow⟩
  exact ⟨⟨index, hLt⟩, hRow⟩

section Bounds

variable {covInv : SensorMatrix detector.sensorTypes}

/- Each learned row is near the mean. -/
theorem square_bounds
    (hMany : 1 < rows.length)
    (hInverse : IsPseudoinverse (covariance rows) covInv)
    {row : SensorRow detector.sensorTypes}
    (hMem : row ∈ rows) :
    0 ≤ square (meanRow rows) covInv row ∧
      rows.length * square (meanRow rows) covInv row ≤
        ((rows.length : ℚ) - 1) ^ 2 := by
  have hCount : (1 : ℚ) < rows.length :=
    Nat.one_lt_cast.mpr hMany
  rcases exists_place hMem with ⟨place, rfl⟩
  rw [covariance_eq] at hInverse
  have hNonneg :=
    (isProjection_leverage hInverse).diag_nonneg place
  have hBound :=
    leverage_diag_le hInverse
      (sum_centred (List.length_pos_iff.mp (by omega))) place
  rw [Fintype.card_fin] at hBound
  rw [square_eq covInv (by linarith) place]
  generalize
    leverage ((rows.length : ℚ) - 1) (centred rows) covInv
      place place = part at *
  constructor
  · exact mul_nonneg (by linarith) hNonneg
  · have hPart : rows.length * part ≤ (rows.length : ℚ) - 1 := by
      have hScaled :=
        mul_le_mul_of_nonneg_left hBound
          (by linarith : (0 : ℚ) ≤ rows.length)
      rwa [mul_sub, mul_one,
        mul_inv_cancel₀ (by linarith)] at hScaled
    calc
      (rows.length : ℚ) *
            (((rows.length : ℚ) - 1) * part) =
          ((rows.length : ℚ) - 1) * (rows.length * part) := by
        ring
      _ ≤ ((rows.length : ℚ) - 1) *
            ((rows.length : ℚ) - 1) :=
        mul_le_mul_of_nonneg_left hPart (by linarith)
      _ = ((rows.length : ℚ) - 1) ^ 2 := (sq _).symm

/- All of them together are. -/
theorem sum_square_le
    (hMany : 1 < rows.length)
    (hInverse : IsPseudoinverse (covariance rows) covInv) :
    (rows.map (square (meanRow rows) covInv)).sum ≤
      detector.sensorTypes.length *
        ((rows.length : ℚ) - 1) := by
  have hCount : (1 : ℚ) < rows.length :=
    Nat.one_lt_cast.mpr hMany
  rw [covariance_eq] at hInverse
  have hTrace := trace_leverage_le hInverse
  rw [Fintype.card_fin] at hTrace
  have hSum :
      (rows.map (square (meanRow rows) covInv)).sum =
        ((rows.length : ℚ) - 1) *
          (leverage ((rows.length : ℚ) - 1) (centred rows)
            covInv).trace := by
    rw [← Fin.sum_univ_fun_getElem, Matrix.trace,
      Finset.mul_sum]
    apply Finset.sum_congr rfl
    intro place _
    exact square_eq covInv (by linarith) place
  rw [hSum, mul_comm]
  exact mul_le_mul_of_nonneg_right hTrace (by linarith)

/- Who is outside has a row that is far. -/
theorem countP_outside_le
    (bundles : List SensorBundle)
    (fitted : Fitted backend)
    (hThreshold : 0 < detector.mahalanobisThreshold) :
    bundles.countP (fun bundle =>
        (IsolationForestDetector.predict fitted
            bundle).isOutOfDistribution) ≤
      (detector.cleanRows bundles).countP fun row =>
        detector.mahalanobisThreshold ^ 2 ≤
          square fitted.trainMean fitted.trainCovInv row := by
  rw [cleanRows, List.countP_filterMap]
  apply List.countP_mono_left
  intro bundle _ hOutside
  rcases predict_outside hThreshold hOutside with
    ⟨distance, hSquare, hReaches⟩
  rcases predict_square hSquare with ⟨row, hRow, rfl⟩
  rw [hRow]
  exact decide_eq_true hReaches

end Bounds

end IsolationForestDetector

open IsolationForestDetector

/-
  What a detector says of the bundles it learned from: none
  is far out, and few are outside, whatever they were.
-/
theorem training_pool_bounds
    {detector : IsolationForestDetector}
    {backend : IfBackend detector}
    {bundles : List SensorBundle}
    {fitted : Fitted backend}
    {metrics : Metrics}
    (hFit : fit backend bundles = .ok (fitted, metrics))
    (hInv :
      ∀ inverse,
        backend.inv
              (covariance (detector.cleanRows bundles)) =
            some inverse →
          covariance (detector.cleanRows bundles) * inverse =
            1)
    (hPinv :
      backend.inv (covariance (detector.cleanRows bundles)) =
          none →
        IsPseudoinverse
          (covariance (detector.cleanRows bundles))
          (backend.pinv
            (covariance (detector.cleanRows bundles))))
    (hThreshold : 0 < detector.mahalanobisThreshold) :
    (∀ bundle ∈ bundles,
      ∀ distance,
        (IsolationForestDetector.predict fitted
            bundle).mahalanobisSquare =
            some distance →
          0 ≤ distance ∧
            metrics.nSamplesTrained * distance ≤
              ((metrics.nSamplesTrained : ℚ) - 1) ^ 2) ∧
      ((bundles.countP fun bundle =>
            (IsolationForestDetector.predict fitted
                bundle).isOutOfDistribution) :
          ℚ) *
          detector.mahalanobisThreshold ^ 2 ≤
        detector.sensorTypes.length *
          ((metrics.nSamplesTrained : ℚ) - 1) ∧
      (((metrics.nSamplesTrained : ℚ) - 1) ^ 2 <
          metrics.nSamplesTrained *
            detector.mahalanobisThreshold ^ 2 →
        ∀ bundle ∈ bundles,
          (IsolationForestDetector.predict fitted
              bundle).isOutOfDistribution =
            false) := by
  rcases fit_eq_ok hFit with
    ⟨hEnough, hMean, hCovInv, hTrained⟩
  have hMany : 1 < (detector.cleanRows bundles).length := by
    have hSensors :=
      List.length_pos_iff.mpr detector.sensors_some
    omega
  have hInverse := isPseudoinverse_covInverse hInv hPinv
  have hRow :
      ∀ bundle ∈ bundles, ∀ row,
        bundle.row? detector.sensorTypes = some row →
          row ∈ detector.cleanRows bundles := by
    intro bundle hMem row hSome
    exact List.mem_filterMap.mpr ⟨bundle, hMem, hSome⟩
  have hEach :
      ∀ bundle ∈ bundles, ∀ distance,
        (IsolationForestDetector.predict fitted
            bundle).mahalanobisSquare =
            some distance →
          0 ≤ distance ∧
            metrics.nSamplesTrained * distance ≤
              ((metrics.nSamplesTrained : ℚ) - 1) ^ 2 := by
    intro bundle hMem distance hSquare
    rcases predict_square hSquare with ⟨row, hSome, rfl⟩
    rw [hTrained, hMean, hCovInv]
    exact
      square_bounds hMany hInverse (hRow bundle hMem row hSome)
  refine ⟨hEach, ?_, ?_⟩
  · have hCount :=
      countP_outside_le bundles fitted hThreshold
    have hNonneg :
        ∀ row ∈ detector.cleanRows bundles,
          0 ≤ square fitted.trainMean fitted.trainCovInv
            row := by
      intro row hMem
      rw [hMean, hCovInv]
      exact (square_bounds hMany hInverse hMem).1
    have hFar :=
      countP_mul_le_sum hNonneg
        (detector.mahalanobisThreshold ^ 2)
    have hSum := sum_square_le hMany hInverse
    rw [← hMean, ← hCovInv, ← hTrained] at hSum
    refine le_trans ?_ (hFar.trans hSum)
    exact
      mul_le_mul_of_nonneg_right (Nat.cast_le.mpr hCount)
        (sq_nonneg _)
  · intro hFew bundle hMem
    by_contra hOutside
    rcases predict_outside hThreshold
        (Bool.eq_true_of_not_eq_false hOutside) with
      ⟨distance, hSquare, hReaches⟩
    have hNear := (hEach bundle hMem distance hSquare).2
    have hFar :=
      mul_le_mul_of_nonneg_left hReaches
        (Nat.cast_nonneg metrics.nSamplesTrained)
    linarith

/- A power reading at a moment that does not matter. -/
def powerBundle
    (voltage current power : ℚ) :
    SensorBundle where
  timestamp := 0
  deviceId := "power_1"
  values :=
    Dict.ofPairs
      [("voltage", some voltage), ("current", some current),
        ("power", some power)]
  isValidFlags := Dict.empty

/- One sensor at a time is off by one. -/
def steadyPool : List SensorBundle :=
  [powerBundle 221 5 1100, powerBundle 219 5 1100,
    powerBundle 220 6 1100, powerBundle 220 4 1100,
    powerBundle 220 5 1101, powerBundle 220 5 1099]

/- It inverts the multiple of one that it is asked for. -/
def steadyBackend : IfBackend powerDetector where
  Forest := Unit
  fitForest := fun _ => .ok ()
  predict := fun _ _ => 1
  decisionFunction := fun _ _ => 0
  inv := fun _ => some ((5 / 2 : ℚ) • 1)
  pinv := id

theorem covariance_steadyPool :
    covariance (powerDetector.cleanRows steadyPool) =
      (2 / 5 : ℚ) • 1 := by
  have hEntries :
      ∀ entry :
          Fin powerDetector.sensorTypes.length ×
            Fin powerDetector.sensorTypes.length,
        covariance (powerDetector.cleanRows steadyPool)
            entry.1 entry.2 =
          if entry.1 = entry.2 then 2 / 5 else 0 := by
    decide +kernel
  ext left right
  rw [hEntries (left, right), Matrix.smul_apply,
    Matrix.one_apply, smul_eq_mul, mul_ite, mul_one,
    mul_zero]

/- Six readings teach nothing that calls one of them odd. -/
theorem training_pool_bounds_steady :
    ∃ fitted metrics,
      fit steadyBackend steadyPool = .ok (fitted, metrics) ∧
        ∀ bundle ∈ steadyPool,
          (IsolationForestDetector.predict fitted
              bundle).isOutOfDistribution =
            false := by
  have hOk :
      (fit steadyBackend steadyPool).toOption.isSome =
        true := by
    decide +kernel
  cases hFit : fit steadyBackend steadyPool with
  | error error =>
      rw [hFit] at hOk
      cases hOk
  | ok learned =>
      rcases learned with ⟨fitted, metrics⟩
      refine ⟨fitted, metrics, rfl, ?_⟩
      have hTrained :
          metrics.nSamplesTrained = 6 := by
        rw [(fit_eq_ok hFit).2.2.2]
        decide +kernel
      have hInv :
          ∀ inverse,
            steadyBackend.inv
                  (covariance
                    (powerDetector.cleanRows steadyPool)) =
                some inverse →
              covariance (powerDetector.cleanRows steadyPool) *
                  inverse =
                1 := by
        intro inverse hSome
        cases hSome
        rw [covariance_steadyPool, smul_mul_smul_comm,
          mul_one]
        norm_num
      apply
        (training_pool_bounds hFit hInv
          (fun hNone => by cases hNone)
          (by norm_num [powerDetector])).2.2
      rw [hTrained]
      norm_num [powerDetector]

end AiEngine

end Icmp2
