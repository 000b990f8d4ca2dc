import Icmp2.AiEngine.ChangePoint
import Icmp2.Library.Deviation
import Mathlib.Analysis.Real.Sqrt

/-
  The statistical detector of spikes.

  Main definitions include:
    * `Icmp2.AiEngine.ZScoreDetector`
    * `Icmp2.AiEngine.ZScoreDetector.detect`
    * `Icmp2.AiEngine.ZScoreDetector.windowAfter`

  Main theorems include:
    * `Icmp2.AiEngine.isSpike_detect_iff`
    * `Icmp2.AiEngine.isSpike_iff_abs`
    * `Icmp2.AiEngine.spike_possible_iff`
    * `Icmp2.AiEngine.detect_in_other_units`

  Arithmetic is exact.  A score is kept as the deviation
  and the variance of its quotient, and the detector
  compares squares.
-/

------------------------------------------------------------
-- The Detector
------------------------------------------------------------

namespace Icmp2

namespace AiEngine

open Monitoring Library

/- `is_full`. -/
def SlidingWindow.isFull
    {windowSize : Nat}
    (window : SlidingWindow windowSize)
    (key : ChannelKey) :
    Bool :=
  match window key with
  | none => false
  | some queue => queue.items.length = windowSize

/- `p.value is not None and p.is_valid`. -/
def DataPoint.counts
    (point : SensorPoint) :
    Bool :=
  point.value.isSome && point.isValid

/- `valid_ratio`; zero where there are no points. -/
def SlidingWindow.validRatio
    {windowSize : Nat}
    (window : SlidingWindow windowSize)
    (key : ChannelKey) :
    ℚ :=
  (window.get key).countP DataPoint.counts /
    (window.get key).length

/- The entries of `values` that are not NaN. -/
def SlidingWindow.known
    {windowSize : Nat}
    (window : SlidingWindow windowSize)
    (key : ChannelKey) :
    List ℚ :=
  (window.getValues key).filterMap Sample.value?

/- `deviation / √variance`. -/
structure Score where
  deviation : ℚ
  variance : ℚ
  deriving DecidableEq, Repr

/- What the sentence of a result says. -/
inductive ZScoreReason where
  | missing
  | invalid
  | notFull (filled windowSize : Nat)
  | fewValid (ratio minValidRatio : ℚ)
  | noSpread
  | spike (score : Score) (zThreshold : ℚ)
  | inRange (score : Score) (zThreshold : ℚ)
  deriving DecidableEq, Repr

/- `ZScoreResult`, with the square of `std`. -/
structure ZScoreResult where
  timestamp : Instant
  deviceId : String
  sensorType : SensorType
  value : Option ℚ
  zScore : Option Score
  mean : Option ℚ
  variance : Option ℚ
  level : RiskLevel
  isSpike : Bool
  reason : ZScoreReason
  windowSize : Nat
  validCount : Nat
  deriving DecidableEq, Repr

/- The constructors raise for any other setting. -/
structure ZScoreDetector where
  windowSize : Nat
  zThreshold : ℚ
  minValidRatio : ℚ
  window_pos : 1 ≤ windowSize
  threshold_pos : 0 < zThreshold
  ratio_bounds : 0 ≤ minValidRatio ∧ minValidRatio ≤ 1

/- `np.nanmean`, of at least one number. -/
def nanmean
    (values : List ℚ) :
    Option ℚ :=
  if values = [] then none else some (average values)

/- The square of `np.nanstd(values, ddof=1)`. -/
def nanvar
    (values : List ℚ) :
    Option ℚ :=
  if values.length ≤ 1 then
    none
  else
    some (squaredDeviations values / (values.length - 1))

namespace ZScoreDetector

variable (detector : ZScoreDetector)

/- The window of W30 and the rule of three sigmas. -/
def default : ZScoreDetector where
  windowSize := 30
  zThreshold := 3
  minValidRatio := 4 / 5
  window_pos := by decide
  threshold_pos := by norm_num
  ratio_bounds := by norm_num

/- `_build_unknown`. -/
def buildUnknown
    (point : SensorPoint)
    (reason : ZScoreReason)
    (validCount : Nat) :
    ZScoreResult where
  timestamp := point.timestamp
  deviceId := point.deviceId
  sensorType := point.sensorType
  value := point.value
  zScore := none
  mean := none
  variance := none
  level := .unknown
  isSpike := false
  reason := reason
  windowSize := detector.windowSize
  validCount := validCount

/- The result for a value without spread around it. -/
def buildFlat
    (point : SensorPoint)
    (values : List ℚ) :
    ZScoreResult where
  timestamp := point.timestamp
  deviceId := point.deviceId
  sensorType := point.sensorType
  value := point.value
  zScore := some ⟨0, 1⟩
  mean := nanmean values
  variance := nanvar values
  level := .normal
  isSpike := false
  reason := .noSpread
  windowSize := detector.windowSize
  validCount := values.length

/- `abs(z) >= self._z_threshold`, in squares. -/
def Exceeds
    (score : Score) :
    Prop :=
  detector.zThreshold ^ 2 * score.variance ≤
    score.deviation ^ 2

instance
    (score : Score) :
    Decidable (detector.Exceeds score) := by
  unfold Exceeds
  infer_instance

/- The result for a value with a score. -/
def buildScored
    (point : SensorPoint)
    (values : List ℚ)
    (score : Score) :
    ZScoreResult where
  timestamp := point.timestamp
  deviceId := point.deviceId
  sensorType := point.sensorType
  value := point.value
  zScore := some score
  mean := nanmean values
  variance := nanvar values
  level :=
    if detector.Exceeds score then .caution else .normal
  isSpike := detector.Exceeds score
  reason :=
    if detector.Exceeds score then
      .spike score detector.zThreshold
    else
      .inRange score detector.zThreshold
  windowSize := detector.windowSize
  validCount := values.length

/- `detect`. -/
def detect
    (window : SlidingWindow detector.windowSize)
    (point : SensorPoint) :
    ZScoreResult :=
  match point.value with
  | none => detector.buildUnknown point .missing 0
  | some value =>
      if point.isValid = false then
        detector.buildUnknown point .invalid 0
      else
        let values := window.known point.key
        if window.isFull point.key = false then
          detector.buildUnknown point
            (.notFull (window.getValues point.key).length
              detector.windowSize) values.length
        else if window.validRatio point.key <
            detector.minValidRatio then
          detector.buildUnknown point
            (.fewValid (window.validRatio point.key)
              detector.minValidRatio) values.length
        else
          match nanvar values with
          | none => detector.buildFlat point values
          | some variance =>
              if variance = 0 then
                detector.buildFlat point values
              else
                detector.buildScored point values
                  ⟨value - average values, variance⟩

/- The window after the points of a stream were pushed. -/
def windowAfter
    (points : List SensorPoint) :
    SlidingWindow detector.windowSize :=
  points.foldl SlidingWindow.push Queues.none

end ZScoreDetector

end AiEngine

end Icmp2

------------------------------------------------------------
-- Spikes
------------------------------------------------------------

namespace Icmp2

namespace AiEngine

open Monitoring Library

variable {detector : ZScoreDetector}
variable {window : SlidingWindow detector.windowSize}
variable {point : SensorPoint}

/- What has to hold before a value is scored. -/
structure Judged
    (detector : ZScoreDetector)
    (window : SlidingWindow detector.windowSize)
    (point : SensorPoint) :
    Prop where
  valid : point.isValid = true
  full : window.isFull point.key = true
  known :
    detector.minValidRatio ≤ window.validRatio point.key

theorem nanvar_eq_some_iff
    {values : List ℚ}
    {variance : ℚ} :
    nanvar values = some variance ↔
      1 < values.length ∧
        squaredDeviations values / (values.length - 1) =
          variance := by
  unfold nanvar
  split_ifs with hFew
  · simp only [false_iff, not_and]
    exact fun hMany => absurd hMany (not_lt.mpr hFew)
  · rw [Option.some.injEq, iff_and_self]
    exact fun _ => not_le.mp hFew

theorem squaredDeviations_of_few
    {values : List ℚ}
    (hFew : values.length ≤ 1) :
    squaredDeviations values = 0 := by
  match values, hFew with
  | [], _ => rfl
  | [x], _ =>
      simp [squaredDeviations, average]

/- The value is far from the average of the values. -/
def ZScoreDetector.Apart
    (detector : ZScoreDetector)
    (values : List ℚ)
    (value : ℚ) :
    Prop :=
  0 < squaredDeviations values ∧
    detector.zThreshold ^ 2 *
        (squaredDeviations values / (values.length - 1)) ≤
      (value - average values) ^ 2

/- The spec lemma: where the detector reports a spike. -/
theorem isSpike_detect_iff :
    (detector.detect window point).isSpike = true ↔
      ∃ value, point.value = some value ∧
        Judged detector window point ∧
          detector.Apart (window.known point.key)
            value := by
  unfold ZScoreDetector.detect ZScoreDetector.Apart
  cases hValue : point.value with
  | none => simp [ZScoreDetector.buildUnknown]
  | some value =>
      simp only [Option.some.injEq, exists_eq_left']
      split_ifs with hInvalid hNotFull hFew
      · refine iff_of_false Bool.false_ne_true ?_
        rintro ⟨hJudged, _⟩
        exact absurd hJudged.valid
          (Bool.eq_false_iff.mp hInvalid)
      · refine iff_of_false Bool.false_ne_true ?_
        rintro ⟨hJudged, _⟩
        exact absurd hJudged.full
          (Bool.eq_false_iff.mp hNotFull)
      · refine iff_of_false Bool.false_ne_true ?_
        rintro ⟨hJudged, _⟩
        exact absurd hFew (not_lt.mpr hJudged.known)
      · have hJudged : Judged detector window point :=
          ⟨Bool.eq_true_of_not_eq_false hInvalid,
            Bool.eq_true_of_not_eq_false hNotFull,
            not_lt.mp hFew⟩
        rw [and_iff_right hJudged]
        have hNonneg :=
          squaredDeviations_nonneg (window.known point.key)
        cases hVar : nanvar (window.known point.key) with
        | none =>
            refine iff_of_false Bool.false_ne_true ?_
            rintro ⟨hSpread, _⟩
            have hShort :
                (window.known point.key).length ≤ 1 := by
              by_contra hMany
              rw [nanvar, if_neg hMany] at hVar
              cases hVar
            exact hSpread.ne'
              (squaredDeviations_of_few hShort)
        | some variance =>
            rcases nanvar_eq_some_iff.mp hVar with
              ⟨hMany, rfl⟩
            have hCount :
                (0 : ℚ) <
                  (window.known point.key).length - 1 := by
              rw [sub_pos]
              exact_mod_cast hMany
            simp only
            split_ifs with hFlat
            · refine iff_of_false Bool.false_ne_true ?_
              rintro ⟨hSpread, _⟩
              exact (div_pos hSpread hCount).ne' hFlat
            · have hSpread :
                  0 <
                    squaredDeviations
                      (window.known point.key) := by
                refine lt_of_le_of_ne hNonneg ?_
                intro hZero
                exact hFlat (by rw [← hZero, zero_div])
              rw [and_iff_right hSpread]
              exact decide_eq_true_iff

end AiEngine

end Icmp2

------------------------------------------------------------
-- Levels
------------------------------------------------------------

namespace Icmp2

namespace AiEngine

open Monitoring Library

/- Spikes are cautions, and nothing is a danger. -/
theorem level_detect
    (detector : ZScoreDetector)
    (window : SlidingWindow detector.windowSize)
    (point : SensorPoint) :
    (detector.detect window point).level ≠ .danger ∧
      ((detector.detect window point).level = .caution ↔
        (detector.detect window point).isSpike = true) ∧
      ((detector.detect window point).level ≠ .unknown ↔
        point.value.isSome = true ∧
          Judged detector window point) := by
  unfold ZScoreDetector.detect
  cases point.value with
  | none => simp [ZScoreDetector.buildUnknown]
  | some value =>
      simp only [Option.isSome_some, true_and]
      split_ifs with hInvalid hNotFull hFew
      · have hNot : ¬ Judged detector window point := by
          intro hJudged
          exact absurd hJudged.valid
            (Bool.eq_false_iff.mp hInvalid)
        simp [ZScoreDetector.buildUnknown, hNot]
      · have hNot : ¬ Judged detector window point := by
          intro hJudged
          exact absurd hJudged.full
            (Bool.eq_false_iff.mp hNotFull)
        simp [ZScoreDetector.buildUnknown, hNot]
      · have hNot : ¬ Judged detector window point := by
          intro hJudged
          exact absurd hFew (not_lt.mpr hJudged.known)
        simp [ZScoreDetector.buildUnknown, hNot]
      · have hJudged : Judged detector window point :=
          ⟨Bool.eq_true_of_not_eq_false hInvalid,
            Bool.eq_true_of_not_eq_false hNotFull,
            not_lt.mp hFew⟩
        cases nanvar (window.known point.key) with
        | none => simp [ZScoreDetector.buildFlat, hJudged]
        | some variance =>
            simp only
            split_ifs with hZero
            · simp [ZScoreDetector.buildFlat, hJudged]
            · simp only [ZScoreDetector.buildScored]
              split_ifs with hExceeds
              · simp [hJudged, hExceeds]
              · simp [hJudged, hExceeds]

/- Two levels of the detector that agree on both tests. -/
theorem level_eq_of_iff
    {left right : RiskLevel}
    (hLeft : left ≠ .danger)
    (hRight : right ≠ .danger)
    (hCaution : left = .caution ↔ right = .caution)
    (hUnknown : left ≠ .unknown ↔ right ≠ .unknown) :
    left = right := by
  cases left <;> cases right <;> simp_all

end AiEngine

end Icmp2

------------------------------------------------------------
-- Scores as Real Numbers
------------------------------------------------------------

namespace Icmp2

namespace AiEngine

open Monitoring Library

/- The score that the floats stand for. -/
noncomputable def Score.toReal
    (score : Score) :
    ℝ :=
  score.deviation / √(score.variance : ℝ)

theorem exceeds_iff_abs
    {detector : ZScoreDetector}
    {score : Score}
    (hSpread : 0 < score.variance) :
    detector.Exceeds score ↔
      (detector.zThreshold : ℝ) ≤ |score.toReal| := by
  have hVar : (0 : ℝ) < score.variance := by
    exact_mod_cast hSpread
  have hRoot := Real.sqrt_pos.mpr hVar
  have hLimit : (0 : ℝ) ≤ detector.zThreshold := by
    exact_mod_cast detector.threshold_pos.le
  rw [Score.toReal, abs_div, abs_of_pos hRoot,
    le_div_iff₀ hRoot,
    ← sq_le_sq₀ (mul_nonneg hLimit hRoot.le) (abs_nonneg _),
    mul_pow, Real.sq_sqrt hVar.le, sq_abs,
    ZScoreDetector.Exceeds]
  exact_mod_cast Iff.rfl

/- A spike is a score of at least the threshold. -/
theorem isSpike_iff_abs
    (detector : ZScoreDetector)
    (window : SlidingWindow detector.windowSize)
    (point : SensorPoint) :
    (detector.detect window point).isSpike = true ↔
      ∃ score, (detector.detect window point).zScore =
          some score ∧
        (detector.zThreshold : ℝ) ≤ |score.toReal| := by
  have hFlat :
      ¬ (detector.zThreshold : ℝ) ≤
        |(Score.mk 0 1).toReal| := by
    have hLimit : (0 : ℝ) < detector.zThreshold := by
      exact_mod_cast detector.threshold_pos
    simpa [Score.toReal] using hLimit
  unfold ZScoreDetector.detect
  cases point.value with
  | none => simp [ZScoreDetector.buildUnknown]
  | some value =>
      simp only
      split_ifs with hInvalid hNotFull hFew
      · simp [ZScoreDetector.buildUnknown]
      · simp [ZScoreDetector.buildUnknown]
      · simp [ZScoreDetector.buildUnknown]
      · cases hVar : nanvar (window.known point.key) with
        | none =>
            simpa [ZScoreDetector.buildFlat] using hFlat
        | some variance =>
            simp only
            split_ifs with hZero
            · simpa [ZScoreDetector.buildFlat] using hFlat
            · rcases nanvar_eq_some_iff.mp hVar with
                ⟨hMany, hEq⟩
              have hCount :
                  (0 : ℚ) ≤
                    (window.known point.key).length - 1 := by
                rw [sub_nonneg]
                exact_mod_cast hMany.le
              have hNonneg : 0 ≤ variance := by
                rw [← hEq]
                exact
                  div_nonneg (squaredDeviations_nonneg _)
                    hCount
              have hPos :=
                lt_of_le_of_ne hNonneg (Ne.symm hZero)
              simp only [ZScoreDetector.buildScored,
                decide_eq_true_eq, Option.some.injEq,
                exists_eq_left']
              exact exceeds_iff_abs hPos

end AiEngine

end Icmp2

------------------------------------------------------------
-- Windows of a Stream
------------------------------------------------------------

namespace Icmp2

namespace AiEngine

open Monitoring Library

variable {windowSize : Nat}

theorem isFull_iff
    (hPos : 1 ≤ windowSize)
    (window : SlidingWindow windowSize)
    (key : ChannelKey) :
    window.isFull key = true ↔
      (window.get key).length = windowSize := by
  unfold SlidingWindow.isFull SlidingWindow.get Queues.get
  cases window key with
  | none =>
      refine iff_of_false Bool.false_ne_true ?_
      exact (Nat.lt_of_lt_of_le Nat.zero_lt_one hPos).ne
  | some queue => exact decide_eq_true_iff

theorem known_eq
    (window : SlidingWindow windowSize)
    (key : ChannelKey) :
    window.known key =
      (window.get key).filterMap DataPoint.value := by
  unfold SlidingWindow.known SlidingWindow.getValues valuesOf
  rw [List.filterMap_map]
  apply List.filterMap_congr
  intro point _
  cases hValue : point.value with
  | none => simp [hValue, Sample.ofValue?, Sample.value?]
  | some value =>
      simp [hValue, Sample.ofValue?, Sample.value?]

theorem countP_counts_le
    (points : List SensorPoint) :
    points.countP DataPoint.counts ≤
      (points.filterMap DataPoint.value).length := by
  rw [List.length_filterMap_eq_countP]
  apply List.countP_mono_left
  intro point _ hCounts
  exact (Bool.and_eq_true_iff.mp hCounts).1

variable (detector : ZScoreDetector)

/- The window of a channel holds its newest points. -/
theorem get_windowAfter
    (points : List SensorPoint)
    (key : ChannelKey) :
    (detector.windowAfter points).get key =
      (points.filter fun point => point.key = key).rtake
        detector.windowSize := by
  exact
    Queues.get_foldl_push DataPoint.key
      (Queues.none :
        Queues ChannelKey detector.windowSize SensorPoint)
      points key

/- A point that was pushed last is in its window. -/
theorem mem_get_windowAfter
    (points : List SensorPoint)
    (point : SensorPoint) :
    point ∈
      (detector.windowAfter (points ++ [point])).get
        point.key := by
  rw [get_windowAfter, List.filter_append]
  simp only [List.filter_cons, decide_true, if_true,
    List.filter_nil]
  rcases Nat.exists_eq_succ_of_ne_zero
    (Nat.pos_iff_ne_zero.mp detector.window_pos) with
    ⟨size, hSize⟩
  rw [hSize, List.rtake_concat_succ]
  exact List.mem_append_right _ (List.mem_singleton.mpr rfl)

end AiEngine

end Icmp2

------------------------------------------------------------
-- Which Windows Can Flag
------------------------------------------------------------

namespace Icmp2

namespace AiEngine

open Monitoring Library

/- A bound on the deviation is one on the threshold. -/
theorem threshold_le_of_bound
    {t count spread deviation : ℚ}
    (hCount : 1 < count)
    (hSpread : 0 < spread)
    (hBound :
      count * deviation ^ 2 ≤ (count - 1) * spread)
    (hExceeds :
      t ^ 2 * (spread / (count - 1)) ≤ deviation ^ 2) :
    t ^ 2 * count ≤ (count - 1) ^ 2 := by
  have hLess : 0 < count - 1 := sub_pos.mpr hCount
  have hPos : 0 < count := lt_trans one_pos hCount
  have hScaled :=
    mul_le_mul_of_nonneg_left hExceeds hPos.le
  have hJoined := hScaled.trans hBound
  have hClear :=
    mul_le_mul_of_nonneg_left hJoined hLess.le
  have hLeft :
      (count - 1) *
          (count * (t ^ 2 * (spread / (count - 1)))) =
        t ^ 2 * count * spread := by
    field_simp
  have hRight :
      (count - 1) * ((count - 1) * spread) =
        (count - 1) ^ 2 * spread := by
    ring
  rw [hLeft, hRight] at hClear
  exact le_of_mul_le_mul_right hClear hSpread

theorem exceeds_of_threshold_le
    {t count spread deviation : ℚ}
    (hCount : 1 < count)
    (hSpread : 0 < spread)
    (hBound :
      count * deviation ^ 2 = (count - 1) * spread)
    (hLimit : t ^ 2 * count ≤ (count - 1) ^ 2) :
    t ^ 2 * (spread / (count - 1)) ≤ deviation ^ 2 := by
  have hLess : 0 < count - 1 := sub_pos.mpr hCount
  have hPos : 0 < count := lt_trans one_pos hCount
  have hScaled :=
    mul_le_mul_of_nonneg_right hLimit hSpread.le
  rw [← mul_div_assoc, div_le_iff₀ hLess]
  apply le_of_mul_le_mul_left _ hPos
  calc
    count * (t ^ 2 * spread) = t ^ 2 * count * spread := by
      ring
    _ ≤ (count - 1) ^ 2 * spread := hScaled
    _ = (count - 1) * ((count - 1) * spread) := by ring
    _ = (count - 1) * (count * deviation ^ 2) := by
      rw [hBound]
    _ = count * (deviation ^ 2 * (count - 1)) := by ring

variable {detector : ZScoreDetector}

/- What a spike says about the window it was found in. -/
theorem bounds_of_isSpike
    {points : List SensorPoint}
    {point : SensorPoint}
    (hSpike :
      (detector.detect
        (detector.windowAfter (points ++ [point]))
        point).isSpike = true) :
    let count :=
      ((detector.windowAfter
        (points ++ [point])).known point.key).length
    1 < count ∧ count ≤ detector.windowSize ∧
      detector.minValidRatio * detector.windowSize ≤
        count ∧
      detector.zThreshold ^ 2 * count ≤
        ((count : ℚ) - 1) ^ 2 := by
  intro count
  rcases isSpike_detect_iff.mp hSpike with
    ⟨value, hValue, hJudged, hSpread, hExceeds⟩
  have hFull :=
    (isFull_iff detector.window_pos _ _).mp hJudged.full
  have hMany : 1 < count := by
    by_contra hFew
    exact hSpread.ne'
      (squaredDeviations_of_few (not_lt.mp hFew))
  have hCount : (1 : ℚ) < count := by exact_mod_cast hMany
  have hSize :
      (0 : ℚ) < detector.windowSize := by
    exact_mod_cast detector.window_pos
  have hKnown :
      value ∈
        (detector.windowAfter
          (points ++ [point])).known point.key := by
    rw [known_eq]
    exact
      List.mem_filterMap.mpr
        ⟨point, mem_get_windowAfter detector points point,
          hValue⟩
  refine ⟨hMany, ?_, ?_, ?_⟩
  · rw [← hFull]
    change (SlidingWindow.known _ _).length ≤ _
    rw [known_eq]
    exact List.length_filterMap_le _ _
  · have hRatio := hJudged.known
    rw [SlidingWindow.validRatio, hFull,
      le_div_iff₀ hSize] at hRatio
    apply hRatio.trans
    change _ ≤ ((SlidingWindow.known _ _).length : ℚ)
    rw [known_eq]
    exact_mod_cast countP_counts_le _
  · exact
      threshold_le_of_bound hCount hSpread
        (sq_sub_average_le hKnown) hExceeds

/- A stream of missing values, zeros, and a one. -/
def lonePoint
    (value : Option ℚ) :
    SensorPoint where
  timestamp := 0
  deviceId := "gas_A"
  sensorType := .gas .co
  value := value
  isValid := value.isSome

def loneStream
    (gaps zeros : Nat) :
    List SensorPoint :=
  List.replicate gaps (lonePoint none) ++
    List.replicate zeros (lonePoint (some 0))

variable (detector)

theorem get_windowAfter_lone
    {gaps zeros : Nat}
    (hSize : gaps + zeros + 1 = detector.windowSize) :
    (detector.windowAfter
        (loneStream gaps zeros ++
          [lonePoint (some 1)])).get
        (lonePoint (some 1)).key =
      loneStream gaps zeros ++ [lonePoint (some 1)] := by
  have hKey :
      ∀ value, (lonePoint value).key =
        (lonePoint (some 1)).key :=
    fun _ => rfl
  rw [get_windowAfter, List.filter_eq_self.mpr ?_]
  · apply rtake_of_length_le
    simp only [loneStream, List.length_append,
      List.length_replicate, List.length_singleton, hSize,
      le_refl]
  · intro point hMem
    apply decide_eq_true
    simp only [loneStream, List.mem_append,
      List.mem_replicate, List.mem_singleton] at hMem
    rcases hMem with (⟨_, rfl⟩ | ⟨_, rfl⟩) | rfl <;>
      exact hKey _

theorem known_lone
    {gaps zeros : Nat}
    (hSize : gaps + zeros + 1 = detector.windowSize) :
    (detector.windowAfter
        (loneStream gaps zeros ++
          [lonePoint (some 1)])).known
        (lonePoint (some 1)).key =
      List.replicate zeros 0 ++ [1] := by
  rw [known_eq, get_windowAfter_lone detector hSize,
    loneStream, List.filterMap_append,
    List.filterMap_append]
  congr 1
  have hGaps :
      (List.replicate gaps (lonePoint none)).filterMap
          DataPoint.value =
        [] :=
    List.filterMap_replicate_of_none rfl
  have hZeros :
      (List.replicate zeros (lonePoint (some 0))).filterMap
          DataPoint.value =
        List.replicate zeros 0 := by
    rw [List.filterMap_replicate]
    rfl
  rw [hGaps, hZeros, List.nil_append]

theorem judged_lone
    {gaps zeros : Nat}
    (hSize : gaps + zeros + 1 = detector.windowSize)
    (hRatio :
      detector.minValidRatio * detector.windowSize ≤
        zeros + 1) :
    Judged detector
      (detector.windowAfter
        (loneStream gaps zeros ++ [lonePoint (some 1)]))
      (lonePoint (some 1)) := by
  have hGet := get_windowAfter_lone detector hSize
  have hLength :
      (loneStream gaps zeros ++
        [lonePoint (some 1)]).length =
          detector.windowSize := by
    simp only [loneStream, List.length_append,
      List.length_replicate, List.length_singleton, hSize]
  have hPos : (0 : ℚ) < detector.windowSize := by
    exact_mod_cast detector.window_pos
  refine ⟨rfl, ?_, ?_⟩
  · rw [isFull_iff detector.window_pos, hGet, hLength]
  · have hCount :
        (loneStream gaps zeros ++
          [lonePoint (some 1)]).countP DataPoint.counts =
            zeros + 1 := by
      simp [loneStream, List.countP_append,
        List.countP_replicate, DataPoint.counts, lonePoint]
    rw [SlidingWindow.validRatio, hGet, hLength, hCount,
      le_div_iff₀ hPos]
    exact_mod_cast hRatio

/-
  A window with `n` known values can report a spike exactly
  if it has that many, enough of them are valid, and
  `(n - 1) / √n` reaches the threshold.
-/
theorem spike_possible_iff
    (n : Nat) :
    (∃ points point,
      let window :=
        detector.windowAfter (points ++ [point])
      (window.known point.key).length = n ∧
        (detector.detect window point).isSpike = true) ↔
      1 < n ∧ n ≤ detector.windowSize ∧
        detector.minValidRatio * detector.windowSize ≤ n ∧
        detector.zThreshold ^ 2 * n ≤ ((n : ℚ) - 1) ^ 2 := by
  constructor
  · rintro ⟨points, point, hLength, hSpike⟩
    rw [← hLength]
    exact bounds_of_isSpike hSpike
  · rintro ⟨hMany, hFits, hRatio, hLimit⟩
    have hCount : (1 : ℚ) < n := by exact_mod_cast hMany
    have hZeros : 0 < n - 1 := Nat.sub_pos_of_lt hMany
    have hSucc : n - 1 + 1 = n := by omega
    have hSize :
        detector.windowSize - n + (n - 1) + 1 =
          detector.windowSize := by
      omega
    have hCast : (((n - 1 : Nat) : ℚ)) = n - 1 := by
      rw [Nat.cast_sub hMany.le, Nat.cast_one]
    have hPerm :
        (List.replicate (n - 1) (0 : ℚ) ++ [1]).Perm
          (1 :: List.replicate (n - 1) 0) :=
      List.perm_append_comm
    have hKnown := known_lone detector hSize
    refine
      ⟨loneStream (detector.windowSize - n) (n - 1),
        lonePoint (some 1), ?_, ?_⟩
    · rw [hKnown, List.length_append,
        List.length_replicate, List.length_singleton, hSucc]
    · rw [isSpike_detect_iff]
      refine ⟨1, rfl, judged_lone detector hSize ?_, ?_⟩
      · rw [hCast, sub_add_cancel]
        exact hRatio
      · rw [hKnown, ZScoreDetector.Apart,
          squaredDeviations_perm hPerm, average_perm hPerm,
          hPerm.length_eq, List.length_cons,
          List.length_replicate, hSucc]
        have hSpread :
            0 <
              squaredDeviations
                ((1 : ℚ) :: List.replicate (n - 1) 0) :=
          squaredDeviations_replicate_pos hZeros one_ne_zero
        have hBound :=
          sq_sub_average_replicate (1 : ℚ) 0 (n - 1)
        rw [hCast, sub_add_cancel] at hBound
        exact
          ⟨hSpread,
            exceeds_of_threshold_le hCount hSpread hBound
              hLimit⟩

end AiEngine

end Icmp2

------------------------------------------------------------
-- Other Units
------------------------------------------------------------

namespace Icmp2

namespace AiEngine

open Monitoring Library

/- A point in another unit. -/
def DataPoint.convert
    (a b : ℚ)
    (point : SensorPoint) :
    SensorPoint :=
  { point with value := point.value.map fun x => a * x + b }

variable (detector : ZScoreDetector)
variable (a b : ℚ)

@[simp] theorem key_convert
    (point : SensorPoint) :
    (point.convert a b).key = point.key := by
  rfl

@[simp] theorem counts_convert
    (point : SensorPoint) :
    (point.convert a b).counts = point.counts := by
  simp only [DataPoint.counts, DataPoint.convert,
    Option.isSome_map]

theorem get_windowAfter_convert
    (points : List SensorPoint)
    (key : ChannelKey) :
    (detector.windowAfter
        (points.map (DataPoint.convert a b))).get key =
      ((detector.windowAfter points).get key).map
        (DataPoint.convert a b) := by
  rw [get_windowAfter, get_windowAfter, List.filter_map,
    rtake_map]
  rfl

theorem known_windowAfter_convert
    (points : List SensorPoint)
    (key : ChannelKey) :
    (detector.windowAfter
        (points.map (DataPoint.convert a b))).known key =
      ((detector.windowAfter points).known key).map
        fun x => a * x + b := by
  rw [known_eq, known_eq, get_windowAfter_convert,
    List.filterMap_map, List.map_filterMap]
  rfl

theorem validRatio_windowAfter_convert
    (points : List SensorPoint)
    (key : ChannelKey) :
    (detector.windowAfter
        (points.map (DataPoint.convert a b))).validRatio
        key =
      (detector.windowAfter points).validRatio key := by
  unfold SlidingWindow.validRatio
  rw [get_windowAfter_convert, List.countP_map,
    List.length_map]
  simp only [Function.comp_def, counts_convert]

theorem judged_convert_iff
    (points : List SensorPoint)
    (point : SensorPoint) :
    Judged detector
        (detector.windowAfter
          (points.map (DataPoint.convert a b)))
        (point.convert a b) ↔
      Judged detector (detector.windowAfter points)
        point := by
  have hFull :
      (detector.windowAfter
          (points.map (DataPoint.convert a b))).isFull
          point.key = true ↔
        (detector.windowAfter points).isFull point.key =
          true := by
    rw [isFull_iff detector.window_pos,
      isFull_iff detector.window_pos,
      get_windowAfter_convert, List.length_map]
  have hRatio :=
    validRatio_windowAfter_convert detector a b points
      point.key
  constructor
  · rintro ⟨hValid, hIsFull, hKnown⟩
    exact ⟨hValid, hFull.mp hIsFull, hRatio ▸ hKnown⟩
  · rintro ⟨hValid, hIsFull, hKnown⟩
    refine ⟨hValid, hFull.mpr hIsFull, ?_⟩
    rw [key_convert, hRatio]
    exact hKnown

theorem apart_convert_iff
    (hScale : a ≠ 0)
    (values : List ℚ)
    (value : ℚ) :
    detector.Apart (values.map fun x => a * x + b)
        (a * value + b) ↔
      detector.Apart values value := by
  have hSquare : 0 < a ^ 2 := sq_pos_of_ne_zero hScale
  unfold ZScoreDetector.Apart
  rw [squaredDeviations_affine,
    mul_pos_iff_of_pos_left hSquare]
  apply and_congr_right
  intro hSpread
  have hSome : values ≠ [] := by
    rintro rfl
    exact lt_irrefl _ hSpread
  have hLeft :
      detector.zThreshold ^ 2 *
          (a ^ 2 * squaredDeviations values /
            (values.length - 1)) =
        a ^ 2 *
          (detector.zThreshold ^ 2 *
            (squaredDeviations values /
              (values.length - 1))) := by
    ring
  have hRight :
      (a * value + b - (a * average values + b)) ^ 2 =
        a ^ 2 * (value - average values) ^ 2 := by
    ring
  rw [average_affine hSome, List.length_map, hLeft, hRight,
    mul_le_mul_iff_right₀ hSquare]

theorem isSpike_convert
    (hScale : a ≠ 0)
    (points : List SensorPoint)
    (point : SensorPoint) :
    (detector.detect
        (detector.windowAfter
          (points.map (DataPoint.convert a b)))
        (point.convert a b)).isSpike = true ↔
      (detector.detect (detector.windowAfter points)
        point).isSpike = true := by
  rw [isSpike_detect_iff, isSpike_detect_iff,
    judged_convert_iff, key_convert,
    known_windowAfter_convert]
  cases hValue : point.value with
  | none =>
      refine iff_of_false ?_ ?_
      · rintro ⟨value, hSome, _⟩
        rw [DataPoint.convert, hValue] at hSome
        cases hSome
      · rintro ⟨value, hSome, _⟩
        cases hSome
  | some value =>
      have hConverted :
          (point.convert a b).value =
            some (a * value + b) := by
        rw [DataPoint.convert, hValue]
        rfl
      simp only [hConverted, Option.some.injEq,
        exists_eq_left',
        apart_convert_iff detector a b hScale]

/- The levels of a stream do not depend on its unit. -/
theorem detect_in_other_units
    (hScale : a ≠ 0)
    (points : List SensorPoint)
    (point : SensorPoint) :
    (detector.detect
        (detector.windowAfter
          (points.map (DataPoint.convert a b)))
        (point.convert a b)).level =
      (detector.detect (detector.windowAfter points)
        point).level := by
  rcases level_detect detector
    (detector.windowAfter
      (points.map (DataPoint.convert a b)))
    (point.convert a b) with
    ⟨hDanger, hCaution, hKnown⟩
  rcases level_detect detector
    (detector.windowAfter points) point with
    ⟨hDanger', hCaution', hKnown'⟩
  have hSome :
      (point.convert a b).value.isSome =
        point.value.isSome :=
    Option.isSome_map
  apply level_eq_of_iff hDanger hDanger'
  · rw [hCaution, hCaution']
    exact isSpike_convert detector a b hScale points point
  · rw [hKnown, hKnown', hSome, judged_convert_iff]

/- A lone peak among missing values, in thousandths. -/
theorem detect_in_other_units_peak :
    (ZScoreDetector.default.detect
        (ZScoreDetector.default.windowAfter
          ((loneStream 6 23 ++ [lonePoint (some 1)]).map
            (DataPoint.convert 1000 0)))
        ((lonePoint (some 1)).convert 1000 0)).level =
      .caution := by
  rw [detect_in_other_units _ _ _ (by norm_num)]
  decide +kernel

end AiEngine

end Icmp2
