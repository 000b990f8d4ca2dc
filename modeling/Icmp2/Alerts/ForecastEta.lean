import Icmp2.AiEngine.AxisDominance
import Icmp2.Alerts.ForecastAlarms

/-
  Confirmed headlines and the steps that they announce.

  Main definitions include:
    * `Icmp2.AiEngine.GradeCall.Plausible`
    * `Icmp2.AiEngine.HasEta`
    * `Icmp2.Alerts.CarriesEta`

  Main theorems include:
    * `Icmp2.AiEngine.grade_hasEta`
    * `Icmp2.Alerts.carriesEta_forecastRound`
    * `Icmp2.Alerts.predictive_alarms_carry_eta`

  A confirmation counts calls of the past, but its counter
  is above zero only after a call that counts itself.  The
  curve of that call arrives at the threshold.
-/

------------------------------------------------------------
-- Confirmed Axes
------------------------------------------------------------

namespace Icmp2

namespace AiEngine

open Monitoring Library

/-
  Positive thresholds and, on the normal path, a mean that
  is nowhere below the interval around it.
-/
structure GradeCall.Plausible
    (call : GradeCall) :
    Prop where
  positive :
    ∀ axis, ∀ threshold ∈ call.threshold axis,
      0 < threshold
  within :
    call.arima.path = .normal →
    List.Forall₂ (· ≤ ·)
      call.arima.ciLower call.arima.forecastMean

/-
  The step of the headline axis is defined, and the mean
  arrives at the threshold there first.
-/
def HasEta
    (config : PolicyConfig)
    (call : GradeCall)
    (result : ForecastPolicyResult) :
    Prop :=
  result.headlineConfidence.Confirmed →
    ∃ axis step,
      result.headlineSeverity = some axis ∧
        result.etaOn axis = some step ∧
        ∃ threshold ∈ call.threshold axis,
          FirstArrival (config.margin threshold)
            threshold call.arima.forecastMean step

variable {config : PolicyConfig}
variable {state : PolicyState}
variable {call : GradeCall}
variable {axis : Axis}

/- A confirmed headline is that of its axis. -/
theorem ForecastPolicyResult.HasHeadline.confirmed
    {result : ForecastPolicyResult}
    (hHeadline : result.HasHeadline)
    (hConfirmed : result.headlineConfidence.Confirmed) :
    ∃ axis,
      result.headlineSeverity = some axis ∧
        (result.confidence axis).Confirmed := by
  have hRank := hConfirmed.rank_pos
  unfold HasHeadline headline at hHeadline
  split_ifs at hHeadline with hDanger hCaution hUnknown
  · rcases Prod.mk.inj hHeadline with ⟨hAxis, hShown⟩
    rw [hShown] at hConfirmed
    exact ⟨.danger, hAxis, hConfirmed⟩
  · rcases Prod.mk.inj hHeadline with ⟨hAxis, hShown⟩
    rw [hShown] at hConfirmed
    exact ⟨.caution, hAxis, hConfirmed⟩
  · rw [(Prod.mk.inj hHeadline).2] at hRank
    cases hRank
  · rw [(Prod.mk.inj hHeadline).2] at hRank
    cases hRank

/- A confirmed axis counts the call that confirms it. -/
theorem counts_of_confirmed
    (hConfirmed :
      ((grade config state call).1.confidence
        axis).Confirmed) :
    WarnCall config axis call ∨ StrongCall axis call := by
  have hK := config.kConfirm_pos
  have hStreaks := streaks_grade config state call axis
  have hReached :=
    grade_confirmed_iff config state call axis
  rcases hConfirmed with hWarning | hStrong
  · have hCount := (hReached.2.mp hWarning).2
    rw [hStreaks.1] at hCount
    exact
      Or.inl
        (of_nextStreak_pos (Nat.lt_of_lt_of_le hK hCount))
  · have hCount := hReached.1.mp hStrong
    rw [hStreaks.2] at hCount
    exact
      Or.inr
        (of_nextStreak_pos (Nat.lt_of_lt_of_le hK hCount))

/- Each entry of a list has its partner in the other. -/
theorem exists_mem_of_forall₂
    {A B : Type}
    {R : A → B → Prop}
    {xs : List A}
    {ys : List B}
    (hPairs : List.Forall₂ R xs ys)
    {x : A}
    (hMem : x ∈ xs) :
    ∃ y ∈ ys, R x y := by
  induction hPairs with
  | nil => cases hMem
  | cons hHead hRest ih =>
      rcases List.mem_cons.mp hMem with rfl | hTail
      · exact ⟨_, List.mem_cons_self, hHead⟩
      · rcases ih hTail with ⟨y, hPartner, hPair⟩
        exact ⟨y, List.mem_cons_of_mem _ hPartner, hPair⟩

/- A call that counts has a mean that arrives. -/
theorem GradeCall.Plausible.arrives
    (hPlausible : call.Plausible)
    (hCounts :
      WarnCall config axis call ∨ StrongCall axis call) :
    call.Regular ∧
      ∀ threshold ∈ call.threshold axis,
        ∃ x ∈ call.arima.forecastMean,
          toDouble (x + config.margin threshold) ≥
            threshold := by
  rcases hCounts with
    ⟨hRegular, own, hOwn, hMean, _⟩ |
      ⟨hRegular, own, hOwn, lower, hMem, hReaches⟩
  · refine ⟨hRegular, ?_⟩
    intro threshold hThreshold
    rw [Option.mem_unique hThreshold hOwn]
    exact hMean
  · refine ⟨hRegular, ?_⟩
    intro threshold hThreshold
    have hMargin : 0 ≤ config.margin threshold :=
      config.margin_nonneg
        (hPlausible.positive axis threshold hThreshold).le
    have hDouble := holds_threshold hThreshold
    rw [Option.mem_unique hOwn hThreshold] at hReaches
    rcases exists_mem_of_forall₂
        (hPlausible.within hRegular.2.1) hMem with
      ⟨x, hMean, hLe⟩
    exact ⟨x, hMean, hDouble.le_round (by linarith)⟩

/- A confirmed headline has its step, in any state. -/
theorem grade_hasEta
    (config : PolicyConfig)
    (state : PolicyState)
    (hPlausible : call.Plausible) :
    HasEta config call (grade config state call).1 := by
  intro hConfirmed
  rcases (grade_headline config state call).confirmed
      hConfirmed with
    ⟨axis, hAxis, hOnAxis⟩
  rcases hPlausible.arrives
      (counts_of_confirmed hOnAxis) with
    ⟨hRegular, hArrives⟩
  rcases grade_of_regular config state hRegular axis with
    ⟨threshold, hThreshold, _, hEta⟩
  have hSome :=
    (isSome_etaStep _ _ _).mpr
      (hArrives threshold hThreshold)
  rcases Option.isSome_iff_exists.mp hSome with
    ⟨step, hStep⟩
  exact
    ⟨axis, step, hAxis, hEta.trans hStep, threshold,
      hThreshold, etaStep_eq_some_iff.mp hStep⟩

/- The results of a run belong to its calls. -/
theorem gradeAll_hasEta
    (config : PolicyConfig)
    (state : PolicyState)
    {calls : List GradeCall}
    (hPlausible : ∀ call ∈ calls, call.Plausible) :
    List.Forall₂ (HasEta config) calls
      (gradeAll config state calls).1 := by
  induction calls generalizing state with
  | nil => exact List.Forall₂.nil
  | cons call calls ih =>
      apply List.Forall₂.cons
      · exact
          grade_hasEta config state
            (hPlausible call List.mem_cons_self)
      · apply ih
        intro other hMem
        exact
          hPlausible other (List.mem_cons_of_mem call hMem)

end AiEngine

end Icmp2

------------------------------------------------------------
-- Predictive Warnings
------------------------------------------------------------

namespace Icmp2

namespace Alerts

open Monitoring AiEngine Library

/-
  The current value of an event is the step of a confirmed
  headline among the results.
-/
def ShowsEta
    (results : List ForecastPolicyResult)
    (event : AlarmEvent) :
    Prop :=
  ∃ result ∈ results, ∃ step,
    result.headlineConfidence.Confirmed ∧
      headlineEta result = some step ∧
      event.currentValue = some (step : ℚ)

/-
  Events are left as they are or closed; every event that
  is created or refreshed shows a step.
-/
def CarriesEta
    (now : Instant)
    (results : List ForecastPolicyResult)
    (before after : AlertStore) :
    Prop :=
  ∀ id event,
    after.events.get? id = some event →
    before.events.get? id = some event ∨
      (∃ old,
        before.events.get? id = some old ∧
          event = old.close now) ∨
      ShowsEta results event

variable {now : Instant}
variable {rule : RuleOf .forecast}
variable {facility device : Nat}
variable {channel : Option DeviceChannel}
variable {results : List ForecastPolicyResult}

theorem CarriesEta.refl
    (store : AlertStore) :
    CarriesEta now results store store := by
  intro id event hGet
  exact Or.inl hGet

/- Closing again changes nothing, nor hides a step. -/
theorem CarriesEta.trans
    {first second third : AlertStore}
    (hFirst : CarriesEta now results first second)
    (hSecond : CarriesEta now results second third) :
    CarriesEta now results first third := by
  intro id event hGet
  rcases hSecond id event hGet with
    hSame | ⟨old, hOld, rfl⟩ | hShows
  · exact hFirst id event hSame
  · rcases hFirst id old hOld with
      hBefore | ⟨older, hOlder, rfl⟩ | hShows
    · exact Or.inr (Or.inl ⟨old, hBefore, rfl⟩)
    · exact Or.inr (Or.inl ⟨older, hOlder, rfl⟩)
    · exact Or.inr (Or.inr hShows)
  · exact Or.inr (Or.inr hShows)

/- The step of the headline axis is the one to show. -/
theorem exists_headlineEta
    {config : PolicyConfig}
    {call : GradeCall}
    {result : ForecastPolicyResult}
    (hEta : HasEta config call result)
    (hConfirmed : result.headlineConfidence.Confirmed) :
    ∃ step, headlineEta result = some step := by
  rcases hEta hConfirmed with
    ⟨axis, step, hAxis, hStep, _⟩
  refine ⟨step, ?_⟩
  unfold headlineEta
  rw [hAxis]
  cases axis with
  | caution => exact hStep
  | danger => exact hStep

/- Only a confirmed headline asks for an open event. -/
theorem confirmed_of_raised
    {result : ForecastPolicyResult}
    {refresh : AlarmEvent → AlarmEvent}
    {fresh : AlarmEvent}
    (hVerdict :
      forecastVerdict now rule facility device channel
          result =
        .raised refresh fresh) :
    result.headlineConfidence.Confirmed := by
  unfold forecastVerdict at hVerdict
  cases hConfidence : result.headlineConfidence with
  | confirmedWarning => exact Or.inl rfl
  | confirmedStrong => exact Or.inr rfl
  | normal =>
      rw [hConfidence] at hVerdict
      cases hVerdict
  | tentative =>
      rw [hConfidence] at hVerdict
      cases hVerdict
  | unknown =>
      rw [hConfidence] at hVerdict
      cases hVerdict

/- A round writes no event without its step. -/
theorem carriesEta_forecastRound
    (store : AlertStore)
    {result : ForecastPolicyResult}
    (hMem : result ∈ results)
    (hEta :
      result.headlineConfidence.Confirmed →
      ∃ step, headlineEta result = some step) :
    CarriesEta now results store
      (forecastRound now rule facility device channel
        store result) := by
  have hShows : ∀ refresh fresh,
      forecastVerdict now rule facility device channel
          result =
        .raised refresh fresh →
      ∀ event : AlarmEvent,
        event.currentValue = forecastValue result →
          ShowsEta results event := by
    intro refresh fresh hVerdict event hValue
    have hConfirmed := confirmed_of_raised hVerdict
    rcases hEta hConfirmed with ⟨step, hStep⟩
    refine
      ⟨result, hMem, step, hConfirmed, hStep, ?_⟩
    rw [hValue, forecastValue, hStep]
    rfl
  intro id event hGet
  rcases AlertStore.get?_reuseOpen_cases hGet with
    hSame | ⟨note, old, _, hLatest, hEq⟩ |
      ⟨refresh, fresh, old, hVerdict, _, hEq⟩ |
      ⟨refresh, hVerdict, _, _⟩
  · exact Or.inl hSame
  · have hOld :=
      ((AlertStore.latest_eq_some_iff _).mp hLatest).get
    exact Or.inr (Or.inl ⟨old, hOld, hEq⟩)
  · refine Or.inr (Or.inr (hShows refresh fresh hVerdict _ ?_))
    rw [hEq, (forecastVerdict_fresh hVerdict).1]
    rfl
  · refine Or.inr (Or.inr (hShows refresh event hVerdict _ ?_))
    rw [(forecastVerdict_fresh hVerdict).2]
    rfl

/- Nor do the rounds of a call. -/
theorem carriesEta_run
    {rounds : List ForecastPolicyResult}
    (hRounds : ∀ result ∈ rounds, result ∈ results)
    (hEta :
      ∀ result ∈ rounds,
        result.headlineConfidence.Confirmed →
        ∃ step, headlineEta result = some step)
    (store : AlertStore) :
    CarriesEta now results store
      (run
        (forecastRound now rule facility device channel)
        store rounds) := by
  induction rounds generalizing store with
  | nil => exact CarriesEta.refl store
  | cons result rounds ih =>
      have hHead :
          CarriesEta now results store
            (forecastRound now rule facility device
              channel store result) :=
        carriesEta_forecastRound store
          (hRounds result List.mem_cons_self)
          (hEta result List.mem_cons_self)
      apply hHead.trans
      apply ih
      · intro other hMem
        exact hRounds other (List.mem_cons_of_mem result hMem)
      · intro other hMem
        exact hEta other (List.mem_cons_of_mem result hMem)

theorem carriesEta_triggerForecastAlarms
    (now : Instant)
    (device : Device)
    (channel : Option DeviceChannel)
    (results : List ForecastPolicyResult)
    (hEta :
      ∀ result ∈ results,
        result.headlineConfidence.Confirmed →
        ∃ step, headlineEta result = some step)
    (store : AlertStore) :
    CarriesEta now results store
      (triggerForecastAlarms
        now device channel results store) := by
  cases hFacility : device.facility with
  | none =>
      simpa [triggerForecastAlarms, hFacility]
        using CarriesEta.refl store
  | some facility =>
      cases hRule : activeRule store.rules .forecast with
      | none =>
          simpa [triggerForecastAlarms, hFacility, hRule]
            using CarriesEta.refl store
      | some rule =>
          rw [triggerForecastAlarms_eq_run
            now channel results hFacility hRule]
          exact
            carriesEta_run (fun _ hMem => hMem) hEta store

/- The calls of a task have the forecasts of a predictor. -/
def ForecastTask.Plausible
    (task : ForecastTask) :
    Prop :=
  ∀ call ∈ task.calls, call.Plausible

/-
  What a task shows: the confirmed headline of each result
  has its step, and so has every event that is written.
-/
def EtaShown
    (config : PolicyConfig)
    (state : ForecastState)
    (task : ForecastTask) :
    Prop :=
  List.Forall₂ (HasEta config) task.calls
      (taskResults config state task) ∧
    CarriesEta task.now (taskResults config state task)
      state.store (forecastStep config state task).store

theorem etaShown_of_plausible
    (config : PolicyConfig)
    (state : ForecastState)
    {task : ForecastTask}
    (hPlausible : task.Plausible) :
    EtaShown config state task := by
  have hResults :
      List.Forall₂ (HasEta config) task.calls
        (taskResults config state task) :=
    gradeAll_hasEta config state.policy hPlausible
  refine ⟨hResults, ?_⟩
  apply carriesEta_triggerForecastAlarms
  intro result hMem hConfirmed
  rcases exists_mem_of_forall₂ hResults.flip hMem with
    ⟨call, _, hEta⟩
  exact exists_headlineEta hEta hConfirmed

/-
  In every run of tasks whose forecasts are plausible, a
  confirmed headline has a step at which the mean arrives
  first, and every event that is created or refreshed
  carries such a step as its current value.
-/
theorem predictive_alarms_carry_eta
    (config : PolicyConfig)
    (state : ForecastState)
    (tasks : List ForecastTask)
    (hPlausible : ∀ task ∈ tasks, task.Plausible) :
    Along (forecastStep config) (EtaShown config)
      state tasks :=
  Along.of_forall
    (fun task hMem later =>
      etaShown_of_plausible config later
        (hPlausible task hMem))
    state

/- The task of a confirmed caution. -/
theorem predictive_alarms_carry_eta_co :
    Along (forecastStep promptConfig)
      (EtaShown promptConfig)
      ⟨PolicyState.initial, ruleStore⟩
      [coTask 40, coTask 40] :=
  predictive_alarms_carry_eta promptConfig
    ⟨PolicyState.initial, ruleStore⟩ [coTask 40, coTask 40]
    (by
      intro task hTask call hCall
      obtain rfl : task = coTask 40 := by
        simpa using hTask
      obtain rfl : call = risingCo 40 :=
        List.mem_singleton.mp hCall
      constructor
      · intro axis
        cases axis with
        | caution => decide +kernel
        | danger => decide +kernel
      · decide +kernel)

end Alerts

end Icmp2
