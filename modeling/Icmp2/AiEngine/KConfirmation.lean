import Icmp2.AiEngine.ForecastPolicy
import Icmp2.Library.Streak

/-
  What the K confirmation counts.

  Main definitions include:
    * `Icmp2.AiEngine.GradeCall.Regular`
    * `Icmp2.AiEngine.StrongCall`
    * `Icmp2.AiEngine.WarnCall`
    * `Icmp2.AiEngine.channelCalls`

  Main theorems include:
    * `Icmp2.AiEngine.streaks_grade`
    * `Icmp2.AiEngine.streaks_gradeAll`
    * `Icmp2.AiEngine.grade_confirmed_iff`
    * `Icmp2.AiEngine.confirmation_exact`
-/

------------------------------------------------------------
-- Calls That Count
------------------------------------------------------------

namespace Icmp2

namespace AiEngine

open Monitoring Library

/- The confidence of one axis. -/
def ForecastPolicyResult.confidence
    (axis : Axis)
    (result : ForecastPolicyResult) :
    ForecastConfidence :=
  match axis with
  | .caution => result.cautionConfidence
  | .danger => result.dangerConfidence

/- The step at which the mean arrives on one axis. -/
def ForecastPolicyResult.etaOn
    (axis : Axis)
    (result : ForecastPolicyResult) :
    Option Nat :=
  match axis with
  | .caution => result.cautionEtaStep
  | .danger => result.dangerEtaStep

namespace GradeCall

/- The threshold of one axis, as a `float`. -/
def threshold
    (axis : Axis)
    (call : GradeCall) :
    Option ℚ :=
  match axis with
  | .caution => call.caution.map toDouble
  | .danger => call.danger.map toDouble

/- The counter key that a call addresses on an axis. -/
def key
    (axis : Axis)
    (call : GradeCall) :
    AxisKey :=
  ⟨call.arima.deviceId, call.arima.sensorType, axis⟩

/- Calls for the channel of a key. -/
def OnChannelOf
    (key : AxisKey)
    (call : GradeCall) :
    Prop :=
  call.key key.axis = key

instance
    (key : AxisKey) :
    DecidablePred (OnChannelOf key) := by
  intro call
  unfold OnChannelOf
  infer_instance

/-
  Normal path, direction 'high' and both thresholds: only
  such a call can advance a counter.
-/
def Regular
    (call : GradeCall) :
    Prop :=
  call.direction = "high" ∧
    call.arima.path = .normal ∧
    call.caution.isSome ∧
    call.danger.isSome

instance : DecidablePred Regular := by
  intro call
  unfold Regular
  infer_instance

end GradeCall

/- Some lower bound reaches the threshold. -/
def LowerReaches
    (arima : ArimaResult)
    (threshold : ℚ) :
    Prop :=
  ∃ lower ∈ arima.ciLower, lower ≥ threshold

/- Some mean reaches it with margin on a sure drift. -/
def MeanReaches
    (config : PolicyConfig)
    (arima : ArimaResult)
    (threshold : ℚ) :
    Prop :=
  (∃ mean ∈ arima.forecastMean,
      toDouble (mean + config.margin threshold) ≥
        threshold) ∧
    ∃ tstat ∈ arima.driftTstat, tstat ≥ config.driftTau

/- A call that counts toward CONFIRMED_STRONG. -/
def StrongCall
    (axis : Axis)
    (call : GradeCall) :
    Prop :=
  call.Regular ∧
    ∃ threshold ∈ call.threshold axis,
      LowerReaches call.arima threshold

/- A call that counts toward CONFIRMED_WARNING. -/
def WarnCall
    (config : PolicyConfig)
    (axis : Axis)
    (call : GradeCall) :
    Prop :=
  call.Regular ∧
    ∃ threshold ∈ call.threshold axis,
      MeanReaches config call.arima threshold

instance
    (arima : ArimaResult)
    (threshold : ℚ) :
    Decidable (LowerReaches arima threshold) := by
  unfold LowerReaches
  infer_instance

instance
    (config : PolicyConfig)
    (arima : ArimaResult)
    (threshold : ℚ) :
    Decidable (MeanReaches config arima threshold) := by
  unfold MeanReaches
  infer_instance

instance
    (axis : Axis) :
    DecidablePred (StrongCall axis) := by
  intro call
  unfold StrongCall
  infer_instance

instance
    (config : PolicyConfig)
    (axis : Axis) :
    DecidablePred (WarnCall config axis) := by
  intro call
  unfold WarnCall
  infer_instance

/- The calls of a list for the channel of one call. -/
def channelCalls
    (call : GradeCall)
    (calls : List GradeCall) :
    List GradeCall :=
  calls.filter fun other =>
    other.arima.deviceId = call.arima.deviceId ∧
      other.arima.sensorType = call.arima.sensorType

end AiEngine

end Icmp2

------------------------------------------------------------
-- One Axis
------------------------------------------------------------

namespace Icmp2

namespace AiEngine

open Monitoring Library

variable {config : PolicyConfig}
variable {state : PolicyState}
variable {key : AxisKey}
variable {arima : ArimaResult}
variable {threshold : ℚ}

@[simp] theorem PolicyState.warnStreak_set
    (other : AxisKey)
    (warn strong : Nat) :
    (state.set key warn strong).warnStreak other =
      if other = key then warn
      else state.warnStreak other := by
  rfl

@[simp] theorem PolicyState.strongStreak_set
    (other : AxisKey)
    (warn strong : Nat) :
    (state.set key warn strong).strongStreak other =
      if other = key then strong
      else state.strongStreak other := by
  rfl

/- The degraded path restarts and confirms nothing. -/
theorem gradeAxis_degraded
    (hPath : arima.path = .degraded) :
    (gradeAxis config state key arima threshold).2 =
        state.reset key ∧
      (gradeAxis config state key arima
        threshold).1.1.rank ≤ 1 := by
  simp only [gradeAxis, if_pos hPath]
  split_ifs with hWide hTentative
  · exact ⟨rfl, Nat.zero_le 1⟩
  · exact ⟨rfl, Nat.le_refl 1⟩
  · exact ⟨rfl, Nat.zero_le 1⟩

/- The confidence that the two counters stand for. -/
def countedConfidence
    (config : PolicyConfig)
    (arima : ArimaResult)
    (threshold : ℚ)
    (warn strong : Nat) :
    ForecastConfidence :=
  if config.kConfirm ≤ strong then .confirmedStrong
  else if config.kConfirm ≤ warn then .confirmedWarning
  else if
      arima.ciUpper.any fun u =>
        toDouble (u + config.margin threshold) ≥
          threshold then
    .tentative
  else
    .normal

theorem countedConfidence_confirmed_iff
    (warn strong : Nat) :
    (countedConfidence config arima threshold warn strong =
        .confirmedStrong ↔
      config.kConfirm ≤ strong) ∧
    (countedConfidence config arima threshold warn strong =
        .confirmedWarning ↔
      ¬ config.kConfirm ≤ strong ∧
        config.kConfirm ≤ warn) := by
  unfold countedConfidence
  split_ifs with hStrong hWarn <;> simp_all

/- The branches differ in the confidence only. -/
theorem pair_countedConfidence
    (warn strong : Nat)
    (eta : Option Nat)
    (later : PolicyState) :
    (if strong ≥ config.kConfirm then
        ((ForecastConfidence.confirmedStrong, eta), later)
      else if warn ≥ config.kConfirm then
        ((.confirmedWarning, eta), later)
      else if
          arima.ciUpper.any fun u =>
            toDouble (u + config.margin threshold) ≥
              threshold then
        ((.tentative, eta), later)
      else
        ((.normal, eta), later)) =
      ((countedConfidence config arima threshold warn strong,
          eta),
        later) := by
  unfold countedConfidence
  split_ifs <;> rfl

/-
  Off the degraded path both counters move, and the
  confidence is read off the moved ones.
-/
theorem gradeAxis_eq
    (hPath : arima.path ≠ .degraded) :
    gradeAxis config state key arima threshold =
      let warn :=
        if MeanReaches config arima threshold then
          state.warnStreak key + 1
        else
          0
      let strong :=
        if LowerReaches arima threshold then
          state.strongStreak key + 1
        else
          0
      ((countedConfidence config arima threshold warn strong,
          etaStep (config.margin threshold) threshold
            arima.forecastMean 1),
        state.set key warn strong) := by
  have hStrong :
      (arima.ciLower.any fun l => l ≥ threshold) = true ↔
        LowerReaches arima threshold := by
    simp [LowerReaches]
  cases hDrift : arima.driftTstat with
  | none =>
      have hMean : ¬ MeanReaches config arima threshold := by
        simp [MeanReaches, hDrift]
      simp only [gradeAxis, if_neg hPath, hDrift,
        Bool.and_false, Bool.false_eq_true, if_false,
        if_neg hMean, hStrong]
      exact pair_countedConfidence _ _ _ _
  | some tstat =>
      have hMean :
          ((arima.forecastMean.any fun x =>
                toDouble (x + config.margin threshold) ≥
                  threshold) &&
              decide (tstat ≥ config.driftTau)) = true ↔
            MeanReaches config arima threshold := by
        simp [MeanReaches, hDrift]
      simp only [gradeAxis, if_neg hPath, hDrift, hMean,
        hStrong]
      exact pair_countedConfidence _ _ _ _

theorem gradeAxis_state
    (hPath : arima.path ≠ .degraded) :
    (gradeAxis config state key arima threshold).2 =
      state.set key
        (if MeanReaches config arima threshold then
          state.warnStreak key + 1
        else
          0)
        (if LowerReaches arima threshold then
          state.strongStreak key + 1
        else
          0) := by
  rw [gradeAxis_eq hPath]

/- Off that path the confirmations read the counters. -/
theorem gradeAxis_confirmed_iff
    (hPath : arima.path ≠ .degraded) :
    ((gradeAxis config state key arima threshold).1.1 =
        .confirmedStrong ↔
      config.kConfirm ≤
        (gradeAxis config state key arima
          threshold).2.strongStreak key) ∧
    ((gradeAxis config state key arima threshold).1.1 =
        .confirmedWarning ↔
      ¬ config.kConfirm ≤
          (gradeAxis config state key arima
            threshold).2.strongStreak key ∧
        config.kConfirm ≤
          (gradeAxis config state key arima
            threshold).2.warnStreak key) := by
  rw [gradeAxis_eq hPath]
  simp only [PolicyState.strongStreak_set,
    PolicyState.warnStreak_set, if_true]
  exact countedConfidence_confirmed_iff _ _

end AiEngine

end Icmp2

------------------------------------------------------------
-- One Call
------------------------------------------------------------

namespace Icmp2

namespace AiEngine

open Monitoring Library

variable (config : PolicyConfig)
variable (state : PolicyState)
variable {call : GradeCall}

/- The state with the counters of one key only matters. -/
theorem gradeAxis_congr
    {state other : PolicyState}
    {key : AxisKey}
    (arima : ArimaResult)
    (threshold : ℚ)
    (hWarn : state.warnStreak key = other.warnStreak key)
    (hStrong :
      state.strongStreak key = other.strongStreak key) :
    (gradeAxis config state key arima threshold).1 =
        (gradeAxis config other key arima threshold).1 ∧
      (gradeAxis config state key arima
          threshold).2.warnStreak key =
        (gradeAxis config other key arima
          threshold).2.warnStreak key ∧
      (gradeAxis config state key arima
          threshold).2.strongStreak key =
        (gradeAxis config other key arima
          threshold).2.strongStreak key := by
  by_cases hPath : arima.path = .degraded
  · rw [(gradeAxis_degraded hPath).1,
      (gradeAxis_degraded hPath).1]
    refine ⟨?_, by simp [PolicyState.reset],
      by simp [PolicyState.reset]⟩
    simp only [gradeAxis, if_pos hPath]
    split_ifs <;> rfl
  · rw [gradeAxis_eq hPath, gradeAxis_eq hPath, hWarn,
      hStrong]
    exact ⟨rfl, by simp, by simp⟩

/- Only the counters of its own key move. -/
theorem gradeAxis_of_ne
    {key other : AxisKey}
    (arima : ArimaResult)
    (threshold : ℚ)
    (hOther : other ≠ key) :
    (gradeAxis config state key arima
          threshold).2.warnStreak other =
        state.warnStreak other ∧
      (gradeAxis config state key arima
          threshold).2.strongStreak other =
        state.strongStreak other := by
  by_cases hPath : arima.path = .degraded
  · rw [(gradeAxis_degraded hPath).1]
    simp [PolicyState.reset, hOther]
  · rw [gradeAxis_state hPath]
    simp [hOther]

/- A call that gets as far as the two axes. -/
def GradeCall.Gradable
    (call : GradeCall) :
    Prop :=
  call.direction = "high" ∧
    call.caution.isSome ∧
    call.danger.isSome ∧
    call.arima.path ≠ .unknown

/- A call that is turned away before the axes. -/
theorem grade_eq_ungraded
    (hNot : ¬ call.Gradable) :
    ∃ reason,
      grade config state call =
        ungraded state (call.key .caution)
          (call.key .danger) call reason := by
  unfold grade
  by_cases hDirection : call.direction ≠ "high"
  · simp only [if_pos hDirection]
    exact ⟨_, rfl⟩
  · simp only [if_neg hDirection]
    cases hCaution : call.caution with
    | none => exact ⟨_, rfl⟩
    | some caution =>
        cases hDanger : call.danger with
        | none => exact ⟨_, rfl⟩
        | some danger =>
            have hPath : call.arima.path = .unknown := by
              by_contra hKnown
              exact
                hNot
                  ⟨not_not.mp hDirection,
                    by simp [hCaution],
                    by simp [hDanger], hKnown⟩
            simp only [if_pos hPath]
            exact ⟨_, rfl⟩

/- Such a call is unknown and restarts the counters. -/
theorem grade_of_not_gradable
    (hNot : ¬ call.Gradable) :
    (∀ axis,
      (grade config state call).1.confidence axis =
        .unknown) ∧
      (grade config state call).2 =
        (state.reset (call.key .caution)).reset
          (call.key .danger) := by
  rcases grade_eq_ungraded config state hNot with
    ⟨reason, hEq⟩
  rw [hEq]
  refine ⟨?_, rfl⟩
  intro axis
  cases axis with
  | caution => rfl
  | danger => rfl

/- It has no forecast step either. -/
theorem grade_etaOn_of_not_gradable
    (hNot : ¬ call.Gradable)
    (axis : Axis) :
    (grade config state call).1.etaOn axis = none := by
  rcases grade_eq_ungraded config state hNot with
    ⟨reason, hEq⟩
  rw [hEq]
  cases axis with
  | caution => rfl
  | danger => rfl

/- An axis of a call is graded from the counters before. -/
theorem grade_axis_of_gradable
    (hGradable : call.Gradable)
    (axis : Axis) :
    ∃ threshold ∈ call.threshold axis,
      ((grade config state call).1.confidence axis,
          (grade config state call).1.etaOn axis) =
          (gradeAxis config state (call.key axis)
            call.arima threshold).1 ∧
        (grade config state call).2.warnStreak
            (call.key axis) =
          (gradeAxis config state (call.key axis)
            call.arima threshold).2.warnStreak
              (call.key axis) ∧
        (grade config state call).2.strongStreak
            (call.key axis) =
          (gradeAxis config state (call.key axis)
            call.arima threshold).2.strongStreak
              (call.key axis) := by
  rcases hGradable with
    ⟨hDirection, hCaution, hDanger, hPath⟩
  rcases Option.isSome_iff_exists.mp hCaution with
    ⟨caution, hCaution⟩
  rcases Option.isSome_iff_exists.mp hDanger with
    ⟨danger, hDanger⟩
  have hKeys : call.key .danger ≠ call.key .caution := by
    intro hEq
    cases congrArg AxisKey.axis hEq
  have hFirst :=
    gradeAxis_of_ne config state
      call.arima (toDouble caution) hKeys
  simp only [grade, hDirection, hCaution, hDanger,
    if_neg hPath, ne_eq, not_true_eq_false, if_false]
  cases axis with
  | caution =>
      have hSecond :=
        gradeAxis_of_ne config
          (gradeAxis config state (call.key .caution)
            call.arima (toDouble caution)).2
          call.arima (toDouble danger) hKeys.symm
      refine
        ⟨toDouble caution, ?_, rfl, hSecond.1, hSecond.2⟩
      rw [GradeCall.threshold, hCaution]
      rfl
  | danger =>
      have hSecond :=
        gradeAxis_congr config
          call.arima (toDouble danger) hFirst.1 hFirst.2
      refine
        ⟨toDouble danger, ?_, hSecond.1, hSecond.2⟩
      rw [GradeCall.threshold, hDanger]
      rfl

/- The confidence and the counters of an axis. -/
theorem grade_of_gradable
    (hGradable : call.Gradable)
    (axis : Axis) :
    ∃ threshold ∈ call.threshold axis,
      (grade config state call).1.confidence axis =
          (gradeAxis config state (call.key axis)
            call.arima threshold).1.1 ∧
        (grade config state call).2.warnStreak
            (call.key axis) =
          (gradeAxis config state (call.key axis)
            call.arima threshold).2.warnStreak
              (call.key axis) ∧
        (grade config state call).2.strongStreak
            (call.key axis) =
          (gradeAxis config state (call.key axis)
            call.arima threshold).2.strongStreak
              (call.key axis) := by
  rcases grade_axis_of_gradable config state hGradable
      axis with
    ⟨threshold, hThreshold, hAxis, hStreaks⟩
  exact
    ⟨threshold, hThreshold, congrArg Prod.fst hAxis,
      hStreaks⟩

end AiEngine

end Icmp2

------------------------------------------------------------
-- Counters and Confirmations of a Call
------------------------------------------------------------

namespace Icmp2

namespace AiEngine

open Monitoring Library

variable (config : PolicyConfig)
variable (state : PolicyState)
variable {call : GradeCall}

theorem GradeCall.Regular.gradable
    (hRegular : call.Regular) :
    call.Gradable := by
  rcases hRegular with
    ⟨hDirection, hPath, hCaution, hDanger⟩
  refine ⟨hDirection, hCaution, hDanger, ?_⟩
  rw [hPath]
  decide

theorem GradeCall.Gradable.regular
    (hGradable : call.Gradable)
    (hPath : call.arima.path ≠ .degraded) :
    call.Regular := by
  rcases hGradable with
    ⟨hDirection, hCaution, hDanger, hKnown⟩
  refine ⟨hDirection, ?_, hCaution, hDanger⟩
  cases hEq : call.arima.path with
  | normal => rfl
  | degraded => exact absurd hEq hPath
  | unknown => exact absurd hEq hKnown

/- A call that is not regular restarts both counters. -/
theorem streaks_grade_of_not_regular
    (hNot : ¬ call.Regular)
    (axis : Axis) :
    (grade config state call).2.warnStreak
          (call.key axis) = 0 ∧
      (grade config state call).2.strongStreak
          (call.key axis) = 0 := by
  by_cases hGradable : call.Gradable
  · have hPath : call.arima.path = .degraded := by
      by_contra hPath
      exact hNot (hGradable.regular hPath)
    rcases grade_of_gradable config state hGradable axis with
      ⟨threshold, _, _, hWarn, hStrong⟩
    rw [(gradeAxis_degraded hPath).1] at hWarn hStrong
    rw [hWarn, hStrong]
    simp [PolicyState.reset]
  · rw [(grade_of_not_gradable config state hGradable).2]
    cases axis with
    | caution => simp [PolicyState.reset, GradeCall.key]
    | danger => simp [PolicyState.reset]

/- The counters of the channel of a call advance or fall. -/
theorem streaks_grade
    (call : GradeCall)
    (axis : Axis) :
    (grade config state call).2.warnStreak
          (call.key axis) =
        nextStreak (WarnCall config axis)
          (state.warnStreak (call.key axis)) call ∧
      (grade config state call).2.strongStreak
          (call.key axis) =
        nextStreak (StrongCall axis)
          (state.strongStreak (call.key axis)) call := by
  by_cases hRegular : call.Regular
  · have hPath : call.arima.path ≠ .degraded := by
      rw [hRegular.2.1]
      decide
    rcases grade_of_gradable
        config state hRegular.gradable axis with
      ⟨threshold, hThreshold, _, hWarn, hStrong⟩
    have hWarnCall :
        WarnCall config axis call ↔
          MeanReaches config call.arima threshold := by
      simp [WarnCall, hRegular,
        Option.mem_def.mp hThreshold]
    have hStrongCall :
        StrongCall axis call ↔
          LowerReaches call.arima threshold := by
      simp [StrongCall, hRegular,
        Option.mem_def.mp hThreshold]
    rw [gradeAxis_state hPath] at hWarn hStrong
    rw [hWarn, hStrong]
    simp [nextStreak, hWarnCall, hStrongCall]
  · have hZero :=
      streaks_grade_of_not_regular
        config state hRegular axis
    rw [hZero.1, hZero.2]
    simp [nextStreak, WarnCall, StrongCall, hRegular]

/- The counters of every other channel stay. -/
theorem streaks_grade_of_other
    {key : AxisKey}
    (hOther : ¬ call.OnChannelOf key) :
    (grade config state call).2.warnStreak key =
        state.warnStreak key ∧
      (grade config state call).2.strongStreak key =
        state.strongStreak key := by
  have hKeys : ∀ axis, key ≠ call.key axis := by
    intro axis hEq
    apply hOther
    rw [hEq]
    rfl
  by_cases hGradable : call.Gradable
  · rcases hGradable with
      ⟨hDirection, hCaution, hDanger, hPath⟩
    rcases Option.isSome_iff_exists.mp hCaution with
      ⟨caution, hCaution⟩
    rcases Option.isSome_iff_exists.mp hDanger with
      ⟨danger, hDanger⟩
    simp only [grade, hDirection, hCaution, hDanger,
      if_neg hPath, ne_eq, not_true_eq_false, if_false]
    have hFirst :=
      gradeAxis_of_ne config state
        call.arima (toDouble caution) (hKeys .caution)
    have hSecond :=
      gradeAxis_of_ne config
        (gradeAxis config state (call.key .caution)
          call.arima (toDouble caution)).2
        call.arima (toDouble danger) (hKeys .danger)
    exact
      ⟨hSecond.1.trans hFirst.1,
        hSecond.2.trans hFirst.2⟩
  · rw [(grade_of_not_gradable config state hGradable).2]
    simp [PolicyState.reset, hKeys]

/- A degraded call is tentative at most. -/
theorem grade_degraded_rank
    (hPath : call.arima.path = .degraded)
    (axis : Axis) :
    ((grade config state call).1.confidence
      axis).rank ≤ 1 := by
  by_cases hGradable : call.Gradable
  · rcases grade_of_gradable config state hGradable axis with
      ⟨threshold, _, hConfidence, _⟩
    rw [hConfidence]
    exact (gradeAxis_degraded hPath).2
  · rw [(grade_of_not_gradable config state hGradable).1 axis]
    decide

/- A confirmation says that its counter has reached K. -/
theorem grade_confirmed_iff
    (call : GradeCall)
    (axis : Axis) :
    ((grade config state call).1.confidence axis =
        .confirmedStrong ↔
      config.kConfirm ≤
        (grade config state call).2.strongStreak
          (call.key axis)) ∧
    ((grade config state call).1.confidence axis =
        .confirmedWarning ↔
      ¬ config.kConfirm ≤
          (grade config state call).2.strongStreak
            (call.key axis) ∧
        config.kConfirm ≤
          (grade config state call).2.warnStreak
            (call.key axis)) := by
  by_cases hRegular : call.Regular
  · have hPath : call.arima.path ≠ .degraded := by
      rw [hRegular.2.1]
      decide
    rcases grade_of_gradable
        config state hRegular.gradable axis with
      ⟨threshold, _, hConfidence, hWarn, hStrong⟩
    rw [hConfidence, hWarn, hStrong]
    exact gradeAxis_confirmed_iff hPath
  · have hK := config.kConfirm_pos
    have hZero :=
      streaks_grade_of_not_regular
        config state hRegular axis
    have hNone :
        ¬ ((grade config state call).1.confidence
          axis).Confirmed := by
      by_cases hGradable : call.Gradable
      · have hPath : call.arima.path = .degraded := by
          by_contra hPath
          exact hRegular (hGradable.regular hPath)
        have hRank :=
          grade_degraded_rank config state hPath axis
        rintro (hEq | hEq)
        · rw [hEq] at hRank
          exact absurd hRank (by decide)
        · rw [hEq] at hRank
          exact absurd hRank (by decide)
      · rw [(grade_of_not_gradable
          config state hGradable).1 axis]
        decide
    rw [hZero.1, hZero.2]
    constructor
    · constructor
      · exact fun hEq => absurd (Or.inr hEq) hNone
      · intro hLe
        omega
    · constructor
      · exact fun hEq => absurd (Or.inl hEq) hNone
      · intro hLe
        omega

end AiEngine

end Icmp2

------------------------------------------------------------
-- Runs of Calls
------------------------------------------------------------

namespace Icmp2

namespace AiEngine

open Monitoring Library

variable (config : PolicyConfig)

/- The counters after all calls, as a run. -/
theorem gradeAll_state
    (state : PolicyState)
    (calls : List GradeCall) :
    (gradeAll config state calls).2 =
      run (fun state call => (grade config state call).2)
        state calls := by
  induction calls generalizing state with
  | nil => rfl
  | cons call calls ih => exact ih _

/- A call after others is graded from their counters. -/
theorem gradeAll_concat
    (state : PolicyState)
    (history : List GradeCall)
    (call : GradeCall) :
    (gradeAll config state (history ++ [call])).1 =
      (gradeAll config state history).1 ++
        [(grade config
          (gradeAll config state history).2 call).1] := by
  induction history generalizing state with
  | nil => rfl
  | cons first history ih =>
      simp only [List.cons_append, gradeAll, ih]

/- Each counter is the streak of its channel's calls. -/
theorem streaks_gradeAll
    (calls : List GradeCall)
    (key : AxisKey) :
    (gradeAll config .initial calls).2.warnStreak key =
        streak (WarnCall config key.axis)
          (calls.filter fun call =>
            call.OnChannelOf key) ∧
      (gradeAll config .initial calls).2.strongStreak key =
        streak (StrongCall key.axis)
          (calls.filter fun call =>
            call.OnChannelOf key) := by
  rw [gradeAll_state]
  constructor
  · apply count_run
      (fun state : PolicyState => state.warnStreak key)
      (GradeCall.OnChannelOf key)
    · intro state call hOwn
      have hStep :=
        (streaks_grade config state call key.axis).1
      rw [hOwn] at hStep
      exact hStep
    · intro state call hOther
      exact (streaks_grade_of_other config state hOther).1
    · rfl
  · apply count_run
      (fun state : PolicyState => state.strongStreak key)
      (GradeCall.OnChannelOf key)
    · intro state call hOwn
      have hStep :=
        (streaks_grade config state call key.axis).2
      rw [hOwn] at hStep
      exact hStep
    · intro state call hOther
      exact (streaks_grade_of_other config state hOther).2
    · rfl

/- The calls for a channel are those that meet its keys. -/
theorem filter_onChannelOf
    (call : GradeCall)
    (axis : Axis)
    (calls : List GradeCall) :
    (calls.filter fun other =>
        other.OnChannelOf (call.key axis)) =
      channelCalls call calls := by
  unfold channelCalls
  apply List.filter_congr
  intro other _
  simp [GradeCall.OnChannelOf, GradeCall.key]

/- Calls of one channel, graded with and without others. -/
theorem grade_congr
    {state other : PolicyState}
    (call : GradeCall)
    (hWarn :
      ∀ axis,
        state.warnStreak (call.key axis) =
          other.warnStreak (call.key axis))
    (hStrong :
      ∀ axis,
        state.strongStreak (call.key axis) =
          other.strongStreak (call.key axis)) :
    (grade config state call).1 =
      (grade config other call).1 := by
  have hKeys : call.key .danger ≠ call.key .caution := by
    intro hEq
    cases congrArg AxisKey.axis hEq
  unfold grade ungraded
  by_cases hDirection : call.direction ≠ "high"
  · simp only [if_pos hDirection]
  · simp only [if_neg hDirection]
    cases hCaution : call.caution with
    | none => rfl
    | some caution =>
        cases hDanger : call.danger with
        | none => rfl
        | some danger =>
            by_cases hPath : call.arima.path = .unknown
            · simp only [if_pos hPath]
            · simp only [if_neg hPath]
              have hFirst :=
                gradeAxis_congr config
                  call.arima (toDouble caution)
                  (hWarn .caution) (hStrong .caution)
              have hState :=
                gradeAxis_of_ne config state
                  call.arima (toDouble caution) hKeys
              have hOther :=
                gradeAxis_of_ne config other
                  call.arima (toDouble caution) hKeys
              have hSecond :=
                gradeAxis_congr config
                  call.arima (toDouble danger)
                  ((hState.1.trans (hWarn .danger)).trans
                    hOther.1.symm)
                  ((hState.2.trans (hStrong .danger)).trans
                    hOther.2.symm)
              simp only [GradeCall.key] at hFirst hSecond
              rw [hFirst.1, hSecond.1]

/-
  The K confirmation of an axis at a call reads the last K
  calls for the channel, this call included, and nothing
  else.
-/
theorem confirmation_exact
    (config : PolicyConfig)
    (history : List GradeCall)
    (call : GradeCall)
    (axis : Axis) :
    let before := (gradeAll config .initial history).2
    let graded := grade config before call
    let calls := channelCalls call (history ++ [call])
    (gradeAll config .initial (history ++ [call])).1 =
      (gradeAll config .initial history).1 ++ [graded.1] ∧
    (graded.1.confidence axis = .confirmedStrong ↔
      LastAll (StrongCall axis) config.kConfirm calls) ∧
    (graded.1.confidence axis = .confirmedWarning ↔
      ¬ LastAll (StrongCall axis) config.kConfirm calls ∧
        LastAll (WarnCall config axis)
          config.kConfirm calls) ∧
    (¬ call.Regular →
      graded.2.warnStreak (call.key axis) = 0 ∧
        graded.2.strongStreak (call.key axis) = 0) ∧
    (call.arima.path = .degraded →
      (graded.1.confidence axis).rank ≤ 1) ∧
    graded.1 =
      (grade config
        (gradeAll config .initial
          (channelCalls call history)).2
        call).1 := by
  intro before graded calls
  have hAfter :
      (gradeAll config .initial (history ++ [call])).2 =
        graded.2 := by
    simp only [gradeAll_state, run_append, run_cons,
      run_nil, graded, before]
  have hStreaks :=
    streaks_gradeAll
      config (history ++ [call]) (call.key axis)
  rw [hAfter, filter_onChannelOf] at hStreaks
  have hStrong :
      config.kConfirm ≤
          graded.2.strongStreak (call.key axis) ↔
        LastAll (StrongCall axis) config.kConfirm calls := by
    rw [hStreaks.2]
    exact le_streak_iff _ _
  have hWarn :
      config.kConfirm ≤
          graded.2.warnStreak (call.key axis) ↔
        LastAll (WarnCall config axis)
          config.kConfirm calls := by
    rw [hStreaks.1]
    exact le_streak_iff _ _
  have hConfirmed :=
    grade_confirmed_iff config before call axis
  refine ⟨gradeAll_concat _ _ _ _, ?_, ?_, ?_, ?_, ?_⟩
  · exact hConfirmed.1.trans hStrong
  · rw [hConfirmed.2, hStrong, hWarn]
  · intro hNot
    exact
      streaks_grade_of_not_regular config before hNot axis
  · intro hPath
    exact grade_degraded_rank config before hPath axis
  · have hSame :
        ∀ axis,
          (channelCalls call history).filter
              (fun other =>
                other.OnChannelOf (call.key axis)) =
            history.filter
              (fun other =>
                other.OnChannelOf (call.key axis)) := by
      intro axis
      rw [filter_onChannelOf, filter_onChannelOf]
      simp [channelCalls, List.filter_filter]
    apply grade_congr config call
    · intro axis
      rw [(streaks_gradeAll _ _ _).1,
        (streaks_gradeAll _ _ _).1, hSame axis]
    · intro axis
      rw [(streaks_gradeAll _ _ _).2,
        (streaks_gradeAll _ _ _).2, hSame axis]

end AiEngine

end Icmp2
