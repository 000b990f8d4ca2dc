import Icmp2.Alerts.GasLocal

/-
  Confirmed forecasts and their predictive warnings.

  Main definitions include:
    * `Icmp2.Alerts.ForecastState`
    * `Icmp2.Alerts.forecastStep`
    * `Icmp2.Alerts.ForecastServed`

  Main theorems include:
    * `Icmp2.Alerts.forecastRound_serves`
    * `Icmp2.Alerts.forecastRound_keeps`
    * `Icmp2.Alerts.confirmed_forecasts_served`

  A call of STEP G handles its results in order.  The
  result of a sensor is served by its own round; the rounds
  before it leave the way free and the rounds after it
  leave its event alone.
-/

------------------------------------------------------------
-- Runs
------------------------------------------------------------

namespace Icmp2

namespace Alerts

open Monitoring AiEngine Library

/- The policy object and the alert store. -/
structure ForecastState where
  policy : PolicyState
  store : AlertStore

/- One task: grade the forecasts, then trigger alarms. -/
structure ForecastTask where
  now : Instant
  device : Device
  channel : Option DeviceChannel
  calls : List GradeCall

/- The graded results of a task. -/
def taskResults
    (config : PolicyConfig)
    (state : ForecastState)
    (task : ForecastTask) :
    List ForecastPolicyResult :=
  (gradeAll config state.policy task.calls).1

/- The state after a task. -/
def forecastStep
    (config : PolicyConfig)
    (state : ForecastState)
    (task : ForecastTask) :
    ForecastState where
  policy := (gradeAll config state.policy task.calls).2
  store :=
    triggerForecastAlarms task.now task.device task.channel
      (taskResults config state task) state.store

/-
  The danger axis is confirmed, or the caution axis is and
  the danger axis reports neither possibility nor danger.
-/
def ConfirmedHeadline
    (result : ForecastPolicyResult) :
    Prop :=
  result.dangerConfidence.Confirmed ∨
    (result.cautionConfidence.Confirmed ∧
      (result.dangerConfidence = .normal ∨
        result.dangerConfidence = .unknown))

/- Every sensor once, and co before co2, as predicted. -/
def InSensorOrder
    (results : List ForecastPolicyResult) :
    Prop :=
  results.Pairwise fun earlier later =>
    earlier.sensorType ≠ later.sensorType ∧
      ¬ (earlier.sensorType = .gas .co2 ∧
        later.sensorType = .gas .co)

/-
  The OPEN predictive warning of a result, created or
  refreshed at the given instant.
-/
structure Serves
    (now : Instant)
    (rule : RuleKey)
    (device : Nat)
    (channel : Option DeviceChannel)
    (result : ForecastPolicyResult)
    (event : AlarmEvent) :
    Prop where
  openUnder : OpenUnder rule device event
  onChannel : OnChannel channel event
  origin :
    event.origin =
      .forecast (channelCode channel) result.sensorType
  severity : event.severity = .predictiveWarning
  seen : event.lastSeenAt = some now
  message : event.message = forecastMessage channel result

/- No OPEN event of an origin exists for the device. -/
def NoOpenOrigin
    (rule : RuleKey)
    (device : Nat)
    (origin : Origin)
    (store : AlertStore) :
    Prop :=
  ∀ id event,
    store.events.get? id = some event →
    OpenUnder rule device event →
    event.origin ≠ origin

/- Events of STEP G carry the predictive severity. -/
def PredictiveSeverity
    (store : AlertStore) :
    Prop :=
  ∀ id event,
    store.events.get? id = some event →
    event.origin.ruleType = .forecast →
    event.severity = .predictiveWarning

end Alerts

end Icmp2

------------------------------------------------------------
-- Rounds
------------------------------------------------------------

namespace Icmp2

namespace Alerts

open Monitoring AiEngine Library

variable {now : Instant}
variable {rule : RuleOf .forecast}
variable {facility device : Nat}
variable {channel : Option DeviceChannel}
variable {store : AlertStore}

/- A confirmed headline asks for an open event. -/
theorem forecastVerdict_of_confirmed
    {result : ForecastPolicyResult}
    (hHeadline : result.HasHeadline)
    (hConfirmed : ConfirmedHeadline result) :
    forecastVerdict now rule facility device channel
        result =
      .raised
        (AlarmEvent.refresh now
          (forecastMessage channel result)
          (forecastValue result))
        (forecastEvent now rule facility device channel
          result) := by
  have hShown : result.headlineConfidence.Confirmed := by
    unfold ForecastPolicyResult.HasHeadline at hHeadline
    rcases hConfirmed with hDanger | ⟨hCaution, hQuiet⟩
    · rw [headline_of_danger hDanger] at hHeadline
      rw [(Prod.mk.inj hHeadline).2]
      exact hDanger
    · have hRank : result.dangerConfidence.rank = 0 := by
        rcases hQuiet with hEq | hEq
        · rw [hEq]
          rfl
        · rw [hEq]
          rfl
      rw [headline_of_caution hCaution hRank] at hHeadline
      rw [(Prod.mk.inj hHeadline).2]
      exact hCaution
  unfold forecastVerdict
  rcases hShown with hEq | hEq
  · rw [hEq]
  · rw [hEq]

/- A tentative danger axis is held back. -/
theorem forecastRound_of_tentative
    {result : ForecastPolicyResult}
    (hHeadline : result.HasHeadline)
    (hTentative : result.dangerConfidence = .tentative) :
    forecastRound now rule facility device channel
        store result =
      store := by
  have hShown : result.headlineConfidence = .tentative := by
    unfold ForecastPolicyResult.HasHeadline at hHeadline
    rw [hTentative] at hHeadline
    exact (Prod.mk.inj hHeadline).2
  unfold forecastRound forecastVerdict
  rw [hShown]
  rfl

/- A round keeps the severity of predictive warnings. -/
theorem forecastRound_predictive
    (result : ForecastPolicyResult)
    (hPredictive : PredictiveSeverity store) :
    PredictiveSeverity
      (forecastRound now rule facility device channel
        store result) := by
  intro id later hLater hType
  rcases AlertStore.get?_reuseOpen_cases hLater with
    hSame | ⟨note, event, _, hLatest, hEq⟩ |
      ⟨refresh, fresh, event, hVerdict, hLatest, hEq⟩ |
      ⟨refresh, hVerdict, _, _⟩
  · exact hPredictive id later hSame hType
  · have hGet :=
      ((AlertStore.latest_eq_some_iff _).mp hLatest).get
    subst hEq
    exact hPredictive id event hGet hType
  · have hGet :=
      ((AlertStore.latest_eq_some_iff _).mp hLatest).get
    rw [(forecastVerdict_fresh hVerdict).1] at hEq
    subst hEq
    exact hPredictive id event hGet hType
  · rw [(forecastVerdict_fresh hVerdict).2]
    rfl

/- A round of another sensor opens no event of a sensor. -/
theorem forecastRound_noOpenOrigin
    {result : ForecastPolicyResult}
    {sensor : SensorType}
    (hSensor : result.sensorType ≠ sensor)
    (hNone :
      NoOpenOrigin rule.1 device
        (.forecast (channelCode channel) sensor) store) :
    NoOpenOrigin rule.1 device
      (.forecast (channelCode channel) sensor)
      (forecastRound now rule facility device channel
        store result) := by
  intro id later hLater hOpen
  rcases AlertStore.get?_reuseOpen_cases hLater with
    hSame | ⟨note, event, _, _, hEq⟩ |
      ⟨refresh, fresh, event, hVerdict, hLatest, hEq⟩ |
      ⟨refresh, hVerdict, _, _⟩
  · exact hNone id later hSame hOpen
  · rw [hEq] at hOpen
    cases hOpen.2.2
  · have hGet :=
      ((AlertStore.latest_eq_some_iff _).mp hLatest).get
    rw [(forecastVerdict_fresh hVerdict).1] at hEq
    subst hEq
    exact hNone id event hGet hOpen
  · rw [(forecastVerdict_fresh hVerdict).2]
    intro hOrigin
    exact hSensor (Origin.forecast.inj hOrigin).2

/- A served event survives the rounds of other sensors. -/
theorem forecastRound_keeps
    {result other : ForecastPolicyResult}
    {id : Nat}
    {event : AlarmEvent}
    (hGet : store.events.get? id = some event)
    (hOrigin :
      event.origin =
        .forecast (channelCode channel) other.sensorType)
    (hSensor : other.sensorType ≠ result.sensorType)
    (hOrder :
      ¬ (other.sensorType = .gas .co2 ∧
        result.sensorType = .gas .co)) :
    (forecastRound now rule facility device channel
        store result).events.get? id =
      some event := by
  apply AlertStore.get?_reuseOpen_of_not now _ hGet
  intro hFound
  rcases origin_of_openForecast hFound with
    hOwn | ⟨hCo, hCo2⟩
  · rw [hOrigin] at hOwn
    exact hSensor (Origin.forecast.inj hOwn).2
  · rw [hOrigin] at hCo2
    exact hOrder ⟨(Origin.forecast.inj hCo2).2, hCo⟩

/- The round of a confirmed result serves it. -/
theorem forecastRound_serves
    {result : ForecastPolicyResult}
    (hPredictive : PredictiveSeverity store)
    (hHeadline : result.HasHeadline)
    (hConfirmed : ConfirmedHeadline result)
    (hFree :
      result.sensorType = .gas .co →
      NoOpenOrigin rule.1 device
        (.forecast (channelCode channel) (.gas .co2))
        store) :
    ∃ id event,
      (forecastRound now rule facility device channel
          store result).events.get? id =
        some event ∧
      Serves now rule.1 device channel result event := by
  unfold forecastRound
  rw [forecastVerdict_of_confirmed hHeadline hConfirmed]
  cases hLatest :
      store.latest
        (OpenForecast rule.1 device channel
          result.sensorType) with
  | none =>
      rw [AlertStore.reuseOpen_raised_of_none _ _ _ hLatest]
      refine
        ⟨store.events.nextId, _,
          Table.get?_insert_nextId _ _, ?_⟩
      refine ⟨⟨rfl, rfl, rfl⟩, ?_, rfl, rfl, rfl, rfl⟩
      unfold OnChannel
      cases channel with
      | none => trivial
      | some channel => rfl
  | some best =>
      have hNewest :=
        (AlertStore.latest_eq_some_iff best).mp hLatest
      have hFound := hNewest.selected
      have hOrigin :
          best.2.origin =
            .forecast (channelCode channel)
              result.sensorType := by
        rcases origin_of_openForecast hFound with
          hOwn | ⟨hCo, hCo2⟩
        · exact hOwn
        · exact
            absurd hCo2
              (hFree hCo best.1 best.2
                hNewest.get hFound.1)
      refine
        ⟨best.1,
          best.2.refresh now
            (forecastMessage channel result)
            (forecastValue result),
          AlertStore.get?_reuseOpen_newest now _ hNewest,
          hFound.1, hFound.2.2, hOrigin, ?_, rfl, rfl⟩
      exact
        hPredictive best.1 best.2 hNewest.get
          (by rw [hOrigin]; rfl)

end Alerts

end Icmp2

------------------------------------------------------------
-- Calls
------------------------------------------------------------

namespace Icmp2

namespace Alerts

open Monitoring AiEngine Library

/- A served event survives a whole list of later rounds. -/
theorem run_forecastRound_keeps
    {now : Instant}
    {rule : RuleOf .forecast}
    {facility device : Nat}
    {channel : Option DeviceChannel}
    {store : AlertStore}
    {rest : List ForecastPolicyResult}
    {result : ForecastPolicyResult}
    {id : Nat}
    {event : AlarmEvent}
    (hGet : store.events.get? id = some event)
    (hOrigin :
      event.origin =
        .forecast (channelCode channel) result.sensorType)
    (hOrder :
      ∀ later ∈ rest,
        result.sensorType ≠ later.sensorType ∧
          ¬ (result.sensorType = .gas .co2 ∧
            later.sensorType = .gas .co)) :
    (run
        (forecastRound now rule facility device channel)
        store rest).events.get? id =
      some event := by
  induction rest generalizing store with
  | nil => exact hGet
  | cons next rest ih =>
      have hNext := hOrder next List.mem_cons_self
      rw [run_cons]
      apply ih
      · exact
          forecastRound_keeps
            hGet hOrigin hNext.1 hNext.2
      · intro later hLater
        exact
          hOrder later (List.mem_cons_of_mem next hLater)

/- All rounds together serve each confirmed result. -/
theorem run_forecastRound_serves
    {now : Instant}
    {rule : RuleOf .forecast}
    {facility device : Nat}
    {channel : Option DeviceChannel}
    {store : AlertStore}
    {results : List ForecastPolicyResult}
    {result : ForecastPolicyResult}
    (hPredictive : PredictiveSeverity store)
    (hHeadlines :
      ∀ other ∈ results, other.HasHeadline)
    (hOrder : InSensorOrder results)
    (hMem : result ∈ results)
    (hConfirmed : ConfirmedHeadline result)
    (hFree :
      result.sensorType = .gas .co →
      NoOpenOrigin rule.1 device
        (.forecast (channelCode channel) (.gas .co2))
        store) :
    ∃ id event,
      (run
          (forecastRound now rule facility device channel)
          store results).events.get? id =
        some event ∧
      Serves now rule.1 device channel result event := by
  induction results generalizing store with
  | nil => cases hMem
  | cons head rest ih =>
      rw [InSensorOrder, List.pairwise_cons] at hOrder
      rcases List.mem_cons.mp hMem with hHead | hTail
      · -- The own round serves; the later rounds keep it.
        subst hHead
        have hServed :
            ∃ id event,
              (forecastRound now rule facility device
                  channel store result).events.get? id =
                some event ∧
              Serves now rule.1 device channel result
                event :=
          forecastRound_serves hPredictive
            (hHeadlines result List.mem_cons_self)
            hConfirmed hFree
        rcases hServed with ⟨id, event, hGet, hServes⟩
        refine ⟨id, event, ?_, hServes⟩
        rw [run_cons]
        exact
          run_forecastRound_keeps
            hGet hServes.origin hOrder.1
      · have hNext := hOrder.1 result hTail
        rw [run_cons]
        apply ih
        · exact forecastRound_predictive head hPredictive
        · intro other hOther
          exact
            hHeadlines other
              (List.mem_cons_of_mem head hOther)
        · exact hOrder.2
        · exact hTail
        · intro hCo
          apply forecastRound_noOpenOrigin _ (hFree hCo)
          intro hCo2
          exact hNext.2 ⟨hCo2, hCo⟩

/-
  What a task owes its results: a confirmed result has its
  predictive warning afterwards, where for co no warning of
  co2 is open, and a tentative danger changes nothing.
-/
def ForecastServed
    (config : PolicyConfig)
    (state : ForecastState)
    (task : ForecastTask) :
    Prop :=
  ∀ facility rule,
    task.device.facility = some facility →
    activeRule state.store.rules .forecast = some rule →
    InSensorOrder (taskResults config state task) →
    ∀ result ∈ taskResults config state task,
      (ConfirmedHeadline result →
        (result.sensorType = .gas .co →
          NoOpenOrigin rule.1 task.device.id
            (.forecast (channelCode task.channel)
              (.gas .co2))
            state.store) →
        ∃ id event,
          (forecastStep
              config state task).store.events.get? id =
            some event ∧
          Serves task.now rule.1 task.device.id
            task.channel result event) ∧
      (result.dangerConfidence = .tentative →
        ∀ store,
          forecastRound task.now rule facility
              task.device.id task.channel store result =
            store)

theorem triggerForecastAlarms_eq_run
    (now : Instant)
    {device : Device}
    (channel : Option DeviceChannel)
    (results : List ForecastPolicyResult)
    {store : AlertStore}
    {facility : Nat}
    {rule : RuleOf .forecast}
    (hFacility : device.facility = some facility)
    (hRule :
      activeRule store.rules .forecast = some rule) :
    triggerForecastAlarms now device channel results store =
      run
        (forecastRound now rule facility device.id channel)
        store results := by
  unfold triggerForecastAlarms
  cases results with
  | nil => simp [hFacility]
  | cons result results => simp [hFacility, hRule]

theorem triggerForecastAlarms_predictive
    (now : Instant)
    (device : Device)
    (channel : Option DeviceChannel)
    (results : List ForecastPolicyResult)
    {store : AlertStore}
    (hPredictive : PredictiveSeverity store) :
    PredictiveSeverity
      (triggerForecastAlarms
        now device channel results store) := by
  cases hFacility : device.facility with
  | none =>
      simpa [triggerForecastAlarms, hFacility]
        using hPredictive
  | some facility =>
      cases hRule : activeRule store.rules .forecast with
      | none =>
          simpa [triggerForecastAlarms, hFacility, hRule]
            using hPredictive
      | some rule =>
          rw [triggerForecastAlarms_eq_run
            now channel results hFacility hRule]
          exact
            run_invariant
              (fun _ result hLater =>
                forecastRound_predictive result hLater)
              hPredictive results

/-
  Every run of graded forecasts serves its confirmed
  results at every task.
-/
theorem confirmed_forecasts_served
    (config : PolicyConfig)
    (state : ForecastState)
    (tasks : List ForecastTask)
    (hStart : PredictiveSeverity state.store) :
    Along (forecastStep config) (ForecastServed config)
      state tasks := by
  apply Along.of_step
    (I := fun later => PredictiveSeverity later.store)
    _ _ hStart
  · intro later task hPredictive facility rule
      hFacility hRule hOrder result hMem
    have hHeadlines :=
      gradeAll_headline config later.policy task.calls
    constructor
    · intro hConfirmed hFree
      simp only [forecastStep]
      rw [triggerForecastAlarms_eq_run
        task.now task.channel _ hFacility hRule]
      exact
        run_forecastRound_serves hPredictive hHeadlines
          hOrder hMem hConfirmed hFree
    · intro hTentative store
      exact
        forecastRound_of_tentative
          (hHeadlines result hMem) hTentative
  · intro later task hPredictive
    exact
      triggerForecastAlarms_predictive
        task.now task.device task.channel _ hPredictive

/- A policy that confirms at the first reading. -/
def promptConfig : PolicyConfig where
  marginRatio := 1 / 4
  driftTau := 2
  kConfirm := 1
  degradedCiWidthRatio := 1 / 2
  marginRatio_nonneg := by decide +kernel
  driftTau_nonneg := by decide +kernel
  kConfirm_pos := by decide
  degradedCiWidthRatio_pos := by decide +kernel

/- A rising forecast of co with the given upper bound. -/
def risingCo
    (upperBound : ℚ) :
    GradeCall where
  arima :=
    { timestamp := 0
      deviceId := "GAS-001"
      sensorType := .gas .co
      path := .normal
      forecastMean := [30]
      ciLower := [20]
      ciUpper := [upperBound]
      forecastSteps := 1
      driftTstat := some 3
      reason := ""
      sameSteps := rfl }
  caution := some 25
  danger := some 200
  direction := "high"
  presentLevel := .normal

/- The task that grades one forecast of the device. -/
def coTask
    (upperBound : ℚ) :
    ForecastTask where
  now := 0
  device := gasDevice
  channel := none
  calls := [risingCo upperBound]

/- A caution forecast whose upper bound stays low. -/
theorem confirmed_forecasts_served_co :
    Along (forecastStep promptConfig)
      (ForecastServed promptConfig)
      ⟨PolicyState.initial, ruleStore⟩
      [coTask 40, coTask 40] :=
  confirmed_forecasts_served promptConfig
    ⟨PolicyState.initial, ruleStore⟩ [coTask 40, coTask 40]
    (fun id event hGet _ => by
      simp [ruleStore] at hGet)

/-
  The caution axis is confirmed, the danger axis tentative:
  the task opens no event.
-/
theorem tentative_danger_masks_caution :
    (taskResults promptConfig
          ⟨PolicyState.initial, ruleStore⟩
          (coTask 210)).map
        (fun result =>
          (result.cautionConfidence,
            result.dangerConfidence)) =
      [(.confirmedWarning, .tentative)] ∧
    (forecastStep promptConfig
        ⟨PolicyState.initial, ruleStore⟩
        (coTask 210)).store.events.rows =
      [] := by
  constructor
  · decide +kernel
  · decide +kernel

end Alerts

end Icmp2
