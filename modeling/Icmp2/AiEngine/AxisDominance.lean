import Icmp2.AiEngine.KConfirmation
import Mathlib.Tactic.Linarith

/-
  How far the danger axis keeps behind the caution axis.

  Main definitions include:
    * `Icmp2.AiEngine.UpperReaches`
    * `Icmp2.AiEngine.countedRank`
    * `Icmp2.AiEngine.GradeCall.Ordered`
    * `Icmp2.AiEngine.GradeCall.Apart`
    * `Icmp2.AiEngine.StreaksDominated`
    * `Icmp2.AiEngine.DangerWithin`

  Main theorems include:
    * `Icmp2.AiEngine.etaStep_eq_some_iff`
    * `Icmp2.AiEngine.etaStep_le`
    * `Icmp2.AiEngine.gradeAxis_rank`
    * `Icmp2.AiEngine.arrives_of_apart`
    * `Icmp2.AiEngine.axis_dominance`

  Each condition of an axis only gets harder to meet as the
  threshold grows, since the margin takes at most the whole
  threshold away.  So a call that counts on the danger axis
  counts on the caution axis as well, unless the rounding
  of the sums outweighs the distance of the thresholds.
-/

------------------------------------------------------------
-- The First Step That Arrives
------------------------------------------------------------

namespace Icmp2

namespace AiEngine

open Library

variable {margin threshold : ℚ}

/- The forecast step is the first index that arrives. -/
theorem etaStep_eq_findIdx?
    (margin threshold : ℚ)
    (mean : List ℚ)
    (step : Nat) :
    etaStep margin threshold mean step =
      (mean.findIdx? fun x =>
          toDouble (x + margin) ≥ threshold).map
        fun index => index + step := by
  induction mean generalizing step with
  | nil => rfl
  | cons x rest ih =>
      rw [etaStep, List.findIdx?_cons]
      by_cases hArrives : toDouble (x + margin) ≥ threshold
      · simp [hArrives]
      · rw [if_neg hArrives, ih, if_neg (by simpa using hArrives),
          Option.map_map]
        congr 1
        funext index
        show index + (step + 1) = index + 1 + step
        omega

/- The mean arrives at a step, and at none before. -/
structure FirstArrival
    (margin threshold : ℚ)
    (mean : List ℚ)
    (step : Nat) :
    Prop where
  first : 1 ≤ step
  last : step ≤ mean.length
  arrives :
    ∃ x ∈ mean[step - 1]?,
      toDouble (x + margin) ≥ threshold
  notBefore :
    ∀ earlier,
      1 ≤ earlier → earlier < step →
      ∀ x ∈ mean[earlier - 1]?,
        ¬ toDouble (x + margin) ≥ threshold

theorem etaStep_eq_some_iff
    {mean : List ℚ}
    {step : Nat} :
    etaStep margin threshold mean 1 = some step ↔
      FirstArrival margin threshold mean step := by
  rw [etaStep_eq_findIdx?, Option.map_eq_some_iff]
  constructor
  · rintro ⟨index, hFind, rfl⟩
    rw [List.findIdx?_eq_some_iff_getElem] at hFind
    rcases hFind with ⟨hBound, hArrives, hBefore⟩
    refine ⟨by omega, by omega, ?_, ?_⟩
    · refine ⟨mean[index], by simp [hBound], ?_⟩
      simpa using hArrives
    · intro earlier hFirst hEarlier x hMem
      have hNot := hBefore (earlier - 1) (by omega)
      rw [Option.mem_def,
        List.getElem?_eq_getElem (by omega)] at hMem
      rw [← Option.some.inj hMem]
      simpa using hNot
  · rintro ⟨hFirst, hLast, ⟨x, hMem, hArrives⟩, hBefore⟩
    have hBound : step - 1 < mean.length := by omega
    rw [Option.mem_def,
      List.getElem?_eq_getElem hBound] at hMem
    refine ⟨step - 1, ?_, by omega⟩
    rw [List.findIdx?_eq_some_iff_getElem]
    refine ⟨hBound, ?_, ?_⟩
    · rw [Option.some.inj hMem]
      simpa using hArrives
    · intro index hIndex
      have hNot :=
        hBefore (index + 1) (by omega) (by omega)
          mean[index]
          (by simp [Nat.lt_trans hIndex hBound])
      simpa using hNot

/- Some step arrives exactly if some entry does. -/
theorem isSome_etaStep
    (margin threshold : ℚ)
    (mean : List ℚ) :
    (etaStep margin threshold mean 1).isSome ↔
      ∃ x ∈ mean, toDouble (x + margin) ≥ threshold := by
  rw [etaStep_eq_findIdx?, Option.isSome_map,
    List.findIdx?_isSome]
  simp

/- A bar that is met earlier is arrived at no later. -/
theorem etaStep_le
    {easier : ℚ}
    {easierMargin : ℚ}
    {mean : List ℚ}
    (hEasier :
      ∀ x, toDouble (x + margin) ≥ threshold →
        toDouble (x + easierMargin) ≥ easier)
    {late : Nat}
    (hLate :
      etaStep margin threshold mean 1 = some late) :
    ∃ early ∈ etaStep easierMargin easier mean 1,
      early ≤ late := by
  have hArrival := etaStep_eq_some_iff.mp hLate
  rcases hArrival.arrives with ⟨x, hMem, hArrives⟩
  have hSome :
      (etaStep easierMargin easier mean 1).isSome := by
    rw [isSome_etaStep]
    exact
      ⟨x, List.mem_of_getElem? hMem, hEasier x hArrives⟩
  rcases Option.isSome_iff_exists.mp hSome with
    ⟨early, hEarly⟩
  refine ⟨early, hEarly, ?_⟩
  by_contra hLater
  exact
    (etaStep_eq_some_iff.mp hEarly).notBefore late
      hArrival.first (by omega) x hMem
      (hEasier x hArrives)

end AiEngine

end Icmp2

------------------------------------------------------------
-- The Grade of an Axis
------------------------------------------------------------

namespace Icmp2

namespace AiEngine

open Monitoring Library

/- Some upper bound reaches the threshold with margin. -/
def UpperReaches
    (config : PolicyConfig)
    (arima : ArimaResult)
    (threshold : ℚ) :
    Prop :=
  ∃ upper ∈ arima.ciUpper,
    toDouble (upper + config.margin threshold) ≥
      threshold

instance
    (config : PolicyConfig)
    (arima : ArimaResult)
    (threshold : ℚ) :
    Decidable (UpperReaches config arima threshold) := by
  unfold UpperReaches
  infer_instance

/- The rank that the counters and the bounds give. -/
def countedRank
    (k strong warn : Nat)
    (reaches : Prop)
    [Decidable reaches] :
    Nat :=
  if k ≤ strong then
    3
  else if k ≤ warn then
    2
  else if reaches then
    1
  else
    0

/- It grows with the counters and with the reach. -/
theorem countedRank_le
    {k strong warn otherStrong otherWarn : Nat}
    {reaches otherReaches : Prop}
    [Decidable reaches]
    [Decidable otherReaches]
    (hStrong : strong ≤ otherStrong)
    (hWarn : warn ≤ otherWarn)
    (hReaches : reaches → otherReaches) :
    countedRank k strong warn reaches ≤
      countedRank k otherStrong otherWarn otherReaches := by
  unfold countedRank
  by_cases hFirst : k ≤ strong
  · rw [if_pos hFirst, if_pos (hFirst.trans hStrong)]
  · rw [if_neg hFirst]
    by_cases hSecond : k ≤ warn
    · rw [if_pos hSecond, if_pos (hSecond.trans hWarn)]
      split_ifs <;> omega
    · rw [if_neg hSecond]
      by_cases hThird : reaches
      · rw [if_pos hThird, if_pos (hReaches hThird)]
        split_ifs <;> omega
      · rw [if_neg hThird]
        exact Nat.zero_le _

section Axis

variable (config : PolicyConfig)
variable (state : PolicyState)
variable (key : AxisKey)
variable {arima : ArimaResult}
variable (threshold : ℚ)

/- Off the degraded path the counters give the rank. -/
theorem gradeAxis_rank
    (hPath : arima.path ≠ .degraded) :
    (gradeAxis config state key arima
        threshold).1.1.rank =
      countedRank config.kConfirm
        ((gradeAxis config state key arima
          threshold).2.strongStreak key)
        ((gradeAxis config state key arima
          threshold).2.warnStreak key)
        (UpperReaches config arima threshold) := by
  have hUpper :
      (arima.ciUpper.any fun u =>
          toDouble (u + config.margin threshold) ≥
            threshold) = true ↔
        UpperReaches config arima threshold := by
    simp [UpperReaches]
  simp only [countedRank, gradeAxis, if_neg hPath, ← hUpper,
    apply_ite Prod.fst, apply_ite Prod.snd,
    PolicyState.strongStreak_set,
    PolicyState.warnStreak_set, if_true, ite_self,
    apply_ite ForecastConfidence.rank, ge_iff_le]
  rfl

/- Off that path the step is that of the mean. -/
theorem gradeAxis_eta
    (hPath : arima.path ≠ .degraded) :
    (gradeAxis config state key arima threshold).1.2 =
      etaStep (config.margin threshold) threshold
        arima.forecastMean 1 := by
  simp only [gradeAxis, if_neg hPath,
    apply_ite Prod.fst, apply_ite Prod.snd, ite_self]

end Axis

end AiEngine

end Icmp2

------------------------------------------------------------
-- Margins
------------------------------------------------------------

namespace Icmp2

namespace AiEngine

open Library

variable (config : PolicyConfig)
variable {threshold : ℚ}

theorem PolicyConfig.margin_nonneg
    (hThreshold : 0 ≤ threshold) :
    0 ≤ config.margin threshold :=
  binary64.round_nonneg
    (mul_nonneg config.marginRatio_nonneg hThreshold)

/- A margin is its product up to the rounding. -/
theorem PolicyConfig.abs_margin_sub_le
    (hThreshold : 0 ≤ threshold) :
    |config.margin threshold -
        config.marginRatio * threshold| ≤
      config.marginRatio * threshold / 2 ^ 53 +
        halfLeastDouble := by
  have hProduct :=
    mul_nonneg config.marginRatio_nonneg hThreshold
  have hError :=
    abs_toDouble_sub_le (config.marginRatio * threshold)
  rwa [abs_of_nonneg hProduct] at hError

/- What rounds to a positive number is at most below it. -/
theorem le_of_le_toDouble
    {q bound : ℚ}
    (hBound : 0 < bound)
    (hLe : bound ≤ toDouble q) :
    bound ≤ q + (bound / 2 ^ 53 + halfLeastDouble) := by
  have hError := abs_toDouble_sub_le q
  have hLeast := halfLeastDouble_pos
  have hPart : 0 < bound / 2 ^ 53 := by
    positivity
  rcases le_total bound q with hAbove | hBelow
  · linarith
  · have hPos : 0 ≤ q := by
      by_contra hNeg
      have hZero := toDouble_mono (not_le.mp hNeg).le
      rw [toDouble_zero] at hZero
      linarith
    have hScaled :
        q / 2 ^ 53 ≤ bound / 2 ^ 53 :=
      div_le_div_of_nonneg_right hBelow (by positivity)
    rw [abs_of_nonneg hPos] at hError
    have hUpper := (abs_le.mp hError).2
    linarith

end AiEngine

end Icmp2

------------------------------------------------------------
-- Dominance
------------------------------------------------------------

namespace Icmp2

namespace AiEngine

open Monitoring Library

/- Positive thresholds, danger not the lower one. -/
def GradeCall.Ordered
    (call : GradeCall) :
    Prop :=
  ∀ caution ∈ call.threshold .caution,
    ∀ danger ∈ call.threshold .danger,
      0 < caution ∧ caution ≤ danger

/-
  The thresholds are equal, or there is no margin, or they
  stay apart by more than the rounding of a sum when their
  margins are taken away.
-/
def ThresholdsApart
    (config : PolicyConfig)
    (caution danger : ℚ) :
    Prop :=
  caution = danger ∨
    config.marginRatio = 0 ∨
    danger / 2 ^ 51 + 4 * halfLeastDouble ≤
      (danger - caution) * (1 - config.marginRatio)

/- The thresholds of a call are apart. -/
def GradeCall.Apart
    (config : PolicyConfig)
    (call : GradeCall) :
    Prop :=
  ∀ caution ∈ call.threshold .caution,
    ∀ danger ∈ call.threshold .danger,
      ThresholdsApart config caution danger

/- The strong counter of danger is not ahead. -/
def StrongDominated
    (deviceId : String)
    (sensorType : SensorType)
    (state : PolicyState) :
    Prop :=
  state.strongStreak ⟨deviceId, sensorType, .danger⟩ ≤
    state.strongStreak ⟨deviceId, sensorType, .caution⟩

/- The danger counters of a channel are not ahead. -/
def StreaksDominated
    (deviceId : String)
    (sensorType : SensorType)
    (state : PolicyState) :
    Prop :=
  state.warnStreak ⟨deviceId, sensorType, .danger⟩ ≤
      state.warnStreak ⟨deviceId, sensorType, .caution⟩ ∧
    StrongDominated deviceId sensorType state

/- Danger is confirmed by its bounds only after caution. -/
def StrongWithin
    (result : ForecastPolicyResult) :
    Prop :=
  result.dangerConfidence = .confirmedStrong →
    result.cautionConfidence = .confirmedStrong

/- The danger axis grades no higher and comes no earlier. -/
def DangerWithin
    (result : ForecastPolicyResult) :
    Prop :=
  result.dangerConfidence.rank ≤
      result.cautionConfidence.rank ∧
    ∀ late ∈ result.dangerEtaStep,
      ∃ early ∈ result.cautionEtaStep, early ≤ late

/- The thresholds of a call are doubles. -/
theorem holds_threshold
    {call : GradeCall}
    {axis : Axis}
    {threshold : ℚ}
    (hThreshold : threshold ∈ call.threshold axis) :
    binary64.Holds threshold := by
  cases axis with
  | caution =>
      rcases Option.mem_map.mp hThreshold with
        ⟨caution, _, rfl⟩
      exact toDouble_toDouble caution
  | danger =>
      rcases Option.mem_map.mp hThreshold with
        ⟨danger, _, rfl⟩
      exact toDouble_toDouble danger

section Thresholds

variable {config : PolicyConfig}
variable {caution danger : ℚ}
variable (hMargin : config.marginRatio ≤ 1)
variable (hCaution : binary64.Holds caution)
variable (hPos : 0 < caution)
variable (hLe : caution ≤ danger)
include hMargin hCaution hPos hLe

/-
  With a gap the rounding of both margins and of the sum
  cannot carry a value over danger and not over caution.
-/
theorem arrives_of_gap
    (hGap :
      danger / 2 ^ 51 + 4 * halfLeastDouble ≤
        (danger - caution) * (1 - config.marginRatio))
    (x : ℚ)
    (hArrives :
      toDouble (x + config.margin danger) ≥ danger) :
    toDouble (x + config.margin caution) ≥ caution := by
  have hDanger : 0 < danger := hPos.trans_le hLe
  have hSum := le_of_le_toDouble hDanger hArrives
  have hAbove :=
    (abs_le.mp (config.abs_margin_sub_le hDanger.le)).2
  have hBelow :=
    (abs_le.mp (config.abs_margin_sub_le hPos.le)).1
  have hDangerPart :
      config.marginRatio * danger ≤ danger :=
    mul_le_of_le_one_left hDanger.le hMargin
  have hCautionPart :
      config.marginRatio * caution ≤ caution :=
    mul_le_of_le_one_left hPos.le hMargin
  apply hCaution.le_round
  have hLeast := halfLeastDouble_pos
  have hSplit :
      (danger - caution) * (1 - config.marginRatio) =
        danger - caution - config.marginRatio * danger +
          config.marginRatio * caution := by
    ring
  linarith

/- What arrives at danger then arrives at caution. -/
theorem arrives_of_apart
    (hApart : ThresholdsApart config caution danger)
    (x : ℚ)
    (hArrives :
      toDouble (x + config.margin danger) ≥ danger) :
    toDouble (x + config.margin caution) ≥ caution := by
  rcases hApart with rfl | hZero | hGap
  · exact hArrives
  · have hNone : ∀ threshold,
        config.margin threshold = 0 := by
      intro threshold
      rw [PolicyConfig.margin, hZero, zero_mul,
        toDouble_zero]
    rw [hNone] at hArrives ⊢
    exact hLe.trans hArrives
  · exact
      arrives_of_gap hMargin hCaution hPos hLe hGap x
        hArrives

theorem MeanReaches.of_apart
    {arima : ArimaResult}
    (hApart : ThresholdsApart config caution danger)
    (hReaches : MeanReaches config arima danger) :
    MeanReaches config arima caution := by
  rcases hReaches with ⟨⟨mean, hMem, hArrives⟩, hDrift⟩
  exact
    ⟨⟨mean, hMem,
        arrives_of_apart hMargin hCaution hPos hLe hApart
          mean hArrives⟩,
      hDrift⟩

theorem UpperReaches.of_apart
    {arima : ArimaResult}
    (hApart : ThresholdsApart config caution danger)
    (hReaches : UpperReaches config arima danger) :
    UpperReaches config arima caution := by
  rcases hReaches with ⟨upper, hMem, hArrives⟩
  exact
    ⟨upper, hMem,
      arrives_of_apart hMargin hCaution hPos hLe hApart
        upper hArrives⟩

end Thresholds

/- The thresholds of a call that can count. -/
theorem GradeCall.Regular.caution
    {call : GradeCall}
    (hRegular : call.Regular) :
    ∃ caution, caution ∈ call.threshold .caution := by
  rcases Option.isSome_iff_exists.mp hRegular.2.2.1 with
    ⟨caution, hCaution⟩
  refine ⟨toDouble caution, ?_⟩
  rw [GradeCall.threshold, hCaution]
  rfl

/- A call that warns of danger warns of caution too. -/
theorem WarnCall.caution
    {config : PolicyConfig}
    {call : GradeCall}
    (hMargin : config.marginRatio ≤ 1)
    (hOrdered : call.Ordered)
    (hApart : call.Apart config)
    (hWarn : WarnCall config .danger call) :
    WarnCall config .caution call := by
  rcases hWarn with
    ⟨hRegular, danger, hDanger, hReaches⟩
  rcases hRegular.caution with ⟨caution, hCaution⟩
  rcases hOrdered caution hCaution danger hDanger with
    ⟨hPos, hLe⟩
  exact
    ⟨hRegular, caution, hCaution,
      hReaches.of_apart hMargin (holds_threshold hCaution)
        hPos hLe (hApart caution hCaution danger hDanger)⟩

/- Bounds in danger are bounds in caution. -/
theorem StrongCall.caution
    {call : GradeCall}
    (hOrdered : call.Ordered)
    (hStrong : StrongCall .danger call) :
    StrongCall .caution call := by
  rcases hStrong with
    ⟨hRegular, danger, hDanger, lower, hMem, hReaches⟩
  rcases hRegular.caution with ⟨caution, hCaution⟩
  exact
    ⟨hRegular, caution, hCaution, lower, hMem,
      (hOrdered caution hCaution danger hDanger).2.trans
        hReaches⟩

end AiEngine

end Icmp2

------------------------------------------------------------
-- Calls and Runs
------------------------------------------------------------

namespace Icmp2

namespace AiEngine

open Monitoring Library

variable {config : PolicyConfig}
variable {state : PolicyState}
variable {call : GradeCall}

/- The grade of a regular call on one axis. -/
theorem grade_of_regular
    (config : PolicyConfig)
    (state : PolicyState)
    (hRegular : call.Regular)
    (axis : Axis) :
    ∃ threshold ∈ call.threshold axis,
      ((grade config state call).1.confidence axis).rank =
        countedRank config.kConfirm
          ((grade config state call).2.strongStreak
            (call.key axis))
          ((grade config state call).2.warnStreak
            (call.key axis))
          (UpperReaches config call.arima threshold) ∧
      (grade config state call).1.etaOn axis =
        etaStep (config.margin threshold) threshold
          call.arima.forecastMean 1 := by
  have hPath : call.arima.path ≠ .degraded := by
    rw [hRegular.2.1]
    decide
  rcases grade_axis_of_gradable config state
      hRegular.gradable axis with
    ⟨threshold, hThreshold, hAxis, hWarn, hStrong⟩
  rcases Prod.mk.inj
      (hAxis.trans (Prod.mk.eta).symm) with
    ⟨hConfidence, hEta⟩
  refine ⟨threshold, hThreshold, ?_, ?_⟩
  · rw [hConfidence, hWarn, hStrong]
    exact gradeAxis_rank config state _ threshold hPath
  · rw [hEta]
    exact gradeAxis_eta config state _ threshold hPath

/- A call for one channel. -/
def GradeCall.For
    (deviceId : String)
    (sensorType : SensorType)
    (call : GradeCall) :
    Prop :=
  call.arima.deviceId = deviceId ∧
    call.arima.sensorType = sensorType

section Counters

variable {deviceId : String}
variable {sensorType : SensorType}

theorem GradeCall.For.key
    (hFor : call.For deviceId sensorType)
    (axis : Axis) :
    call.key axis = ⟨deviceId, sensorType, axis⟩ := by
  rw [GradeCall.key, hFor.1, hFor.2]

theorem not_onChannelOf
    (hOther : ¬ call.For deviceId sensorType)
    (axis : Axis) :
    ¬ call.OnChannelOf ⟨deviceId, sensorType, axis⟩ := by
  intro hOwn
  have hEq := AxisKey.mk.inj hOwn
  exact hOther ⟨hEq.1, hEq.2.1⟩

/- Ordered calls keep the strong counter of danger behind. -/
theorem strongDominated_grade
    (config : PolicyConfig)
    (hOrdered :
      call.For deviceId sensorType → call.Ordered)
    (hDominated :
      StrongDominated deviceId sensorType state) :
    StrongDominated deviceId sensorType
      (grade config state call).2 := by
  by_cases hFor : call.For deviceId sensorType
  · have hCaution :=
      (streaks_grade config state call .caution).2
    have hDanger :=
      (streaks_grade config state call .danger).2
    rw [hFor.key] at hCaution hDanger
    rw [StrongDominated, hCaution, hDanger]
    exact
      nextStreak_le
        (fun hStrong => hStrong.caution (hOrdered hFor))
        hDominated
  · have hStay := fun axis =>
      (streaks_grade_of_other config state
        (not_onChannelOf hFor axis)).2
    rw [StrongDominated, hStay, hStay]
    exact hDominated

/- Where they are apart, they keep both counters behind. -/
theorem streaksDominated_grade
    (hMargin : config.marginRatio ≤ 1)
    (hOrdered :
      call.For deviceId sensorType → call.Ordered)
    (hApart :
      call.For deviceId sensorType → call.Apart config)
    (hDominated :
      StreaksDominated deviceId sensorType state) :
    StreaksDominated deviceId sensorType
      (grade config state call).2 := by
  refine
    ⟨?_, strongDominated_grade config hOrdered hDominated.2⟩
  by_cases hFor : call.For deviceId sensorType
  · have hCaution :=
      (streaks_grade config state call .caution).1
    have hDanger :=
      (streaks_grade config state call .danger).1
    rw [hFor.key] at hCaution hDanger
    rw [hCaution, hDanger]
    exact
      nextStreak_le
        (fun hWarn =>
          hWarn.caution hMargin (hOrdered hFor)
            (hApart hFor))
        hDominated.1
  · have hStay := fun axis =>
      (streaks_grade_of_other config state
        (not_onChannelOf hFor axis)).1
    rw [hStay, hStay]
    exact hDominated.1

end Counters

/- With its strong counter behind, danger confirms later. -/
theorem strongWithin_grade
    (hDominated :
      StrongDominated call.arima.deviceId
        call.arima.sensorType
        (grade config state call).2) :
    StrongWithin (grade config state call).1 := by
  intro hStrong
  have hCaution :=
    (grade_confirmed_iff config state call .caution).1
  have hDanger :=
    (grade_confirmed_iff config state call .danger).1
  exact
    hCaution.mpr ((hDanger.mp hStrong).trans hDominated)

/- With its counters behind, the danger axis is within. -/
theorem dangerWithin_grade
    (hMargin : config.marginRatio ≤ 1)
    (hOrdered : call.Ordered)
    (hApart : call.Apart config)
    (hDominated :
      StreaksDominated call.arima.deviceId
        call.arima.sensorType
        (grade config state call).2)
    (hPath : call.arima.path = .normal) :
    DangerWithin (grade config state call).1 := by
  by_cases hGradable : call.Gradable
  · have hRegular : call.Regular :=
      ⟨hGradable.1, hPath, hGradable.2.1, hGradable.2.2.1⟩
    rcases grade_of_regular config state hRegular .caution
      with ⟨caution, hCaution, hCautionRank, hCautionEta⟩
    rcases grade_of_regular config state hRegular .danger
      with ⟨danger, hDanger, hDangerRank, hDangerEta⟩
    have hDouble := holds_threshold hCaution
    have hGap := hApart caution hCaution danger hDanger
    rcases hOrdered caution hCaution danger hDanger with
      ⟨hPos, hLe⟩
    constructor
    · exact
        hDangerRank.trans_le
          ((countedRank_le hDominated.2 hDominated.1
              (fun hReaches =>
                hReaches.of_apart hMargin hDouble hPos hLe
                  hGap)).trans
            hCautionRank.ge)
    · intro late hLate
      have hStep := hDangerEta.symm.trans hLate
      rcases etaStep_le
          (arrives_of_apart hMargin hDouble hPos hLe hGap)
          hStep
        with ⟨early, hEarly, hBefore⟩
      exact ⟨early, hCautionEta.trans hEarly, hBefore⟩
  · have hUnknown :=
      (grade_of_not_gradable config state hGradable).1
    have hNone :=
      grade_etaOn_of_not_gradable config state hGradable
    constructor
    · have hCaution := hUnknown .caution
      have hDanger := hUnknown .danger
      simp only [ForecastPolicyResult.confidence]
        at hCaution hDanger
      rw [hCaution, hDanger]
    · intro late hLate
      cases (hNone .danger).symm.trans hLate

/-
  The counters of danger are at most those of caution after
  a call; on the normal path the call grades danger no
  higher than caution and expects it no earlier.
-/
def Dominated
    (config : PolicyConfig)
    (deviceId : String)
    (sensorType : SensorType)
    (state : PolicyState)
    (call : GradeCall) :
    Prop :=
  StreaksDominated deviceId sensorType
      (grade config state call).2 ∧
    (call.For deviceId sensorType →
      call.arima.path = .normal →
      DangerWithin (grade config state call).1)

/- What is left of it whatever the thresholds round to. -/
def StronglyDominated
    (config : PolicyConfig)
    (deviceId : String)
    (sensorType : SensorType)
    (state : PolicyState)
    (call : GradeCall) :
    Prop :=
  StrongDominated deviceId sensorType
      (grade config state call).2 ∧
    (call.For deviceId sensorType →
      StrongWithin (grade config state call).1)

/- The policy object after a call. -/
def gradeStep
    (config : PolicyConfig)
    (state : PolicyState)
    (call : GradeCall) :
    PolicyState :=
  (grade config state call).2

/-
  On a channel whose thresholds are positive and danger
  never the lower one, after every call the strong counter
  of danger is at most that of caution, and danger is
  confirmed by its bounds only where caution is.  If the
  thresholds are also apart at every call, the danger axis
  is dominated by the caution axis throughout.
-/
theorem axis_dominance
    (config : PolicyConfig)
    (hMargin : config.marginRatio ≤ 1)
    (deviceId : String)
    (sensorType : SensorType)
    (calls : List GradeCall)
    (hOrdered :
      ∀ call ∈ calls,
        call.For deviceId sensorType → call.Ordered) :
    Along (gradeStep config)
        (StronglyDominated config deviceId sensorType)
        .initial calls ∧
      ((∀ call ∈ calls,
          call.For deviceId sensorType →
          call.Apart config) →
        Along (gradeStep config)
          (Dominated config deviceId sensorType)
          .initial calls) := by
  have hCalls :
      Along (gradeStep config)
        (fun _ call =>
          call.For deviceId sensorType → call.Ordered)
        .initial calls :=
    Along.of_forall
      (fun call hMem _ => hOrdered call hMem) _
  constructor
  · apply hCalls.of_invariant
      (I := StrongDominated deviceId sensorType)
    · intro state call hDominated hCall
      have hAfter :=
        strongDominated_grade config hCall hDominated
      refine ⟨hAfter, ?_⟩
      rintro ⟨rfl, rfl⟩
      exact strongWithin_grade hAfter
    · intro state call hDominated hCall
      exact strongDominated_grade config hCall hDominated
    · exact Nat.le_refl 0
  · intro hApart
    have hBoth :
        Along (gradeStep config)
          (fun _ call =>
            (call.For deviceId sensorType → call.Ordered) ∧
              (call.For deviceId sensorType →
                call.Apart config))
          .initial calls :=
      Along.of_forall
        (fun call hMem _ =>
          ⟨hOrdered call hMem, hApart call hMem⟩) _
    apply hBoth.of_invariant
      (I := StreaksDominated deviceId sensorType)
    · intro state call hDominated hCall
      have hAfter :=
        streaksDominated_grade hMargin hCall.1 hCall.2
          hDominated
      refine ⟨hAfter, ?_⟩
      rintro ⟨rfl, rfl⟩ hPath
      exact
        dangerWithin_grade hMargin (hCall.1 ⟨rfl, rfl⟩)
          (hCall.2 ⟨rfl, rfl⟩) hAfter hPath
    · intro state call hDominated hCall
      exact
        streaksDominated_grade hMargin hCall.1 hCall.2
          hDominated
    · exact ⟨Nat.le_refl 0, Nat.le_refl 0⟩

/- A policy that confirms at the second reading. -/
def secondConfig : PolicyConfig where
  marginRatio := 1 / 8
  driftTau := 3 / 2
  kConfirm := 2
  degradedCiWidthRatio := 1 / 4
  marginRatio_nonneg := by decide +kernel
  driftTau_nonneg := by decide +kernel
  kConfirm_pos := by decide
  degradedCiWidthRatio_pos := by decide +kernel

/- A forecast of co over two steps, from 25 and from 200. -/
def coCall
    (path : ForecastPath)
    (first second : ℚ) :
    GradeCall where
  arima :=
    { timestamp := 0
      deviceId := "GAS-001"
      sensorType := .gas .co
      path := path
      forecastMean := [first, second]
      ciLower := [first - 5, second - 5]
      ciUpper := [first + 5, second + 5]
      forecastSteps := 2
      driftTstat := some 3
      reason := ""
      sameSteps := rfl }
  caution := some 25
  danger := some 200
  direction := "high"
  presentLevel := .normal

theorem coCall_ordered
    (path : ForecastPath)
    (first second : ℚ) :
    (coCall path first second).Ordered := by
  intro caution hCaution danger hDanger
  cases hCaution
  cases hDanger
  decide +kernel

theorem coCall_apart
    (path : ForecastPath)
    (first second : ℚ) :
    (coCall path first second).Apart secondConfig := by
  intro caution hCaution danger hDanger
  cases hCaution
  cases hDanger
  exact Or.inr (Or.inr (by decide +kernel))

/- A rise, a degraded reading in it, and the rise again. -/
theorem axis_dominance_co :
    Along (gradeStep secondConfig)
      (Dominated secondConfig "GAS-001" (.gas .co))
      .initial
      [coCall .normal 40 170, coCall .degraded 40 170,
        coCall .normal 60 210, coCall .normal 90 230] := by
  apply
    (axis_dominance secondConfig (by decide +kernel)
      "GAS-001" (.gas .co) _ _).2
  · intro call hMem _
    simp only [List.mem_cons, List.not_mem_nil, or_false]
      at hMem
    rcases hMem with rfl | rfl | rfl | rfl
    all_goals exact coCall_apart _ _ _
  · intro call hMem _
    simp only [List.mem_cons, List.not_mem_nil, or_false]
      at hMem
    rcases hMem with rfl | rfl | rfl | rfl
    all_goals exact coCall_ordered _ _ _

/- A policy whose margin is the whole threshold. -/
def wholeMarginConfig : PolicyConfig :=
  { secondConfig with
    marginRatio := 1
    marginRatio_nonneg := zero_le_one }

/- A mean a last digit of 25 below zero. -/
def hairCall : GradeCall :=
  let hair : ℚ := -1 / 2 ^ 48
  { arima :=
      { timestamp := 0
        deviceId := "GAS-001"
        sensorType := .gas .co
        path := .normal
        forecastMean := [hair]
        ciLower := [-5]
        ciUpper := [hair]
        forecastSteps := 1
        driftTstat := some 3
        reason := ""
        sameSteps := rfl }
    caution := some 25
    danger := some 200
    direction := "high"
    presentLevel := .normal }

/-
  The sum with 200 is rounded up to 200, the sum with 25 is
  exact: the call warns of danger and not of caution.
-/
theorem hair_warns_of_danger_alone :
    wholeMarginConfig.marginRatio ≤ 1 ∧
      hairCall.Ordered ∧
      ¬ Along (gradeStep wholeMarginConfig)
          (Dominated wholeMarginConfig "GAS-001" (.gas .co))
          .initial [hairCall] := by
  refine ⟨by decide +kernel, ?_, ?_⟩
  · intro caution hCaution danger hDanger
    cases hCaution
    cases hDanger
    decide +kernel
  · rintro ⟨⟨⟨hWarn, _⟩, _⟩, _⟩
    revert hWarn
    decide +kernel

end AiEngine

end Icmp2
