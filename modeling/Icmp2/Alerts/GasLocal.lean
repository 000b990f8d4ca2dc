import Icmp2.Alerts.Isolation

/-
  Whether handling the result of one gas touches the events
  of another.

  Main definitions include:
    * `Icmp2.Alerts.WritesOnly`
    * `Icmp2.Alerts.GasLocal`
    * `Icmp2.Alerts.Separate`

  Main theorems include:
    * `Icmp2.Alerts.gasLocal_reuseOpen_iff`
    * `Icmp2.Alerts.gas_events_local_iff`
-/

------------------------------------------------------------
-- Locality of One Verdict
------------------------------------------------------------

namespace Icmp2

namespace Alerts

open Monitoring AiEngine Library

/- Events of another origin keep every column. -/
def WritesOnly
    (origin : Origin)
    (before after : AlertStore) :
    Prop :=
  ∀ id event,
    before.events.get? id = some event →
    event.origin ≠ origin →
    after.events.get? id = some event

/- An OPEN event of one origin, in the selection's scope. -/
def HasOpen
    (scope : AlarmEvent → Prop)
    (origin : Origin)
    (store : AlertStore) :
    Prop :=
  ∃ id event,
    store.events.get? id = some event ∧
      scope event ∧ event.origin = origin

/- The verdict asks for an open event. -/
def Verdict.Raises : Verdict → Prop
  | .raised _ _ => True
  | _ => False

/-
  Handling one result writes events of its own origin only
  and, when it asks for an open event and its origin has
  none, creates one.
-/
def GasLocal
    (scope : AlarmEvent → Prop)
    (origin : Origin)
    (verdict : Verdict)
    (before after : AlertStore) :
    Prop :=
  WritesOnly origin before after ∧
    (verdict.Raises →
      ¬ HasOpen scope origin before →
      ∃ event,
        after.events.get? before.events.nextId =
            some event ∧
          event.origin = origin ∧
          event.eventStatus = .«open»)

/-
  The verdict leaves a foreign event as it is: it is held
  back, or it writes what the event already carries while
  the gas has an OPEN event of its own.
-/
def Spares
    (scope : AlarmEvent → Prop)
    (origin : Origin)
    (store : AlertStore)
    (event : AlarmEvent) :
    Verdict → Prop
  | .hold => True
  | .recovered _ => False
  | .raised refresh _ =>
      refresh event = event ∧ HasOpen scope origin store

variable {scope p : AlarmEvent → Prop} [DecidablePred p]
variable {origin : Origin}
variable {store : AlertStore}
variable {now : Instant}
variable {verdict : Verdict}

/- A local verdict spares a foreign event that it meets. -/
theorem spares_of_gasLocal
    (hScope : ∀ event, p event → scope event)
    (hOpen :
      ∀ event, scope event → event.eventStatus = .«open»)
    (hLocal :
      GasLocal scope origin verdict store
        (store.reuseOpen now p verdict))
    {best : Nat × AlarmEvent}
    (hNewest :
      store.events.IsNewest p AlarmEvent.occurredAt best)
    (hForeign : best.2.origin ≠ origin) :
    Spares scope origin store best.2 verdict := by
  have hRow :=
    hLocal.1 best.1 best.2 hNewest.get hForeign
  rw [AlertStore.get?_reuseOpen_newest
    now verdict hNewest] at hRow
  have hSame := Option.some.inj hRow
  cases verdict with
  | hold => trivial
  | recovered note =>
      have hStatus :=
        congrArg AlarmEvent.eventStatus hSame
      rw [hOpen _ (hScope _ hNewest.selected)] at hStatus
      cases hStatus
  | raised refresh fresh =>
      refine ⟨hSame, ?_⟩
      by_contra hNone
      rcases hLocal.2 trivial hNone with ⟨event, hGet, _⟩
      have hLt := Table.lt_nextId_of_get? hGet
      rw [(AlertStore.nextId_reuseOpen
        now _ hNewest).1] at hLt
      exact Nat.lt_irrefl _ hLt

/- A verdict that spares foreign events writes its own. -/
theorem writesOnly_of_spares
    (hSpared :
      ∀ best,
        store.events.IsNewest
          p AlarmEvent.occurredAt best →
        best.2.origin = origin ∨
          Spares scope origin store best.2 verdict) :
    WritesOnly origin store
      (store.reuseOpen now p verdict) := by
  intro id event hGet hForeign
  rcases AlertStore.get?_reuseOpen_of_get (p := p)
      now verdict hGet with
    ⟨hNewest, hWritten⟩ | hKept
  · have hSpares :=
      (hSpared _ hNewest).resolve_left hForeign
    rw [hWritten]
    cases verdict with
    | hold => rfl
    | recovered note => exact hSpares.elim
    | raised refresh fresh =>
        exact congrArg some hSpares.1
  · exact hKept

/- A raised verdict that finds none of its own creates. -/
theorem creates_of_spares
    (hScope : ∀ event, p event → scope event)
    {refresh : AlarmEvent → AlarmEvent}
    {fresh : AlarmEvent}
    (hSpared :
      ∀ best,
        store.events.IsNewest
          p AlarmEvent.occurredAt best →
        best.2.origin = origin ∨
          Spares scope origin store best.2
            (.raised refresh fresh))
    (hNone : ¬ HasOpen scope origin store) :
    (store.reuseOpen now p
        (.raised refresh fresh)).events.get?
        store.events.nextId =
      some fresh := by
  cases hLatest : store.latest p with
  | none =>
      rw [AlertStore.reuseOpen_raised_of_none _ _ _ hLatest]
      exact Table.get?_insert_nextId _ _
  | some best =>
      have hNewest :=
        (AlertStore.latest_eq_some_iff best).mp hLatest
      exfalso
      apply hNone
      rcases hSpared best hNewest with hOwn | hSpares
      · exact
          ⟨best.1, best.2, hNewest.get,
            hScope _ hNewest.selected, hOwn⟩
      · exact hSpares.2

/-
  A selection of OPEN events in a scope stays local exactly
  if its latest event is of the own origin or is spared.
-/
theorem gasLocal_reuseOpen_iff
    (hScope : ∀ event, p event → scope event)
    (hOpen :
      ∀ event, scope event → event.eventStatus = .«open»)
    (hFresh :
      ∀ refresh fresh,
        verdict = .raised refresh fresh →
        fresh.origin = origin ∧
          fresh.eventStatus = .«open») :
    GasLocal scope origin verdict store
        (store.reuseOpen now p verdict) ↔
      ∀ best,
        store.events.IsNewest
          p AlarmEvent.occurredAt best →
        best.2.origin = origin ∨
          Spares scope origin store best.2 verdict := by
  constructor
  · intro hLocal best hNewest
    by_cases hOwn : best.2.origin = origin
    · exact Or.inl hOwn
    · exact
        Or.inr
          (spares_of_gasLocal
            hScope hOpen hLocal hNewest hOwn)
  · intro hSpared
    refine ⟨writesOnly_of_spares hSpared, ?_⟩
    intro hRaises hNone
    cases verdict with
    | hold => exact hRaises.elim
    | recovered note => exact hRaises.elim
    | raised refresh fresh =>
        exact
          ⟨fresh, creates_of_spares hScope hSpared hNone,
            hFresh refresh fresh rfl⟩

end Alerts

end Icmp2

------------------------------------------------------------
-- Shadowing
------------------------------------------------------------

namespace Icmp2

namespace Alerts

open Monitoring AiEngine Library

/-
  Every selected event of the foreign origin is older than
  some selected event of the own origin.
-/
def Unshadowed
    (p : AlarmEvent → Prop)
    (origin foreign : Origin)
    (store : AlertStore) :
    Prop :=
  ∀ id event,
    store.events.get? id = some event →
    p event →
    event.origin = foreign →
    ∃ newerId newer,
      store.events.get? newerId = some newer ∧
        p newer ∧ newer.origin = origin ∧
        AlertStore.EventOlder (id, event) (newerId, newer)

/- The latest event is the own one iff none shadows it. -/
theorem unshadowed_iff
    {p : AlarmEvent → Prop}
    [DecidablePred p]
    {origin foreign : Origin}
    {store : AlertStore}
    (hNe : origin ≠ foreign)
    (hTwo :
      ∀ event,
        p event →
        event.origin = origin ∨ event.origin = foreign) :
    Unshadowed p origin foreign store ↔
      ∀ best,
        store.events.IsNewest
          p AlarmEvent.occurredAt best →
        best.2.origin = origin := by
  constructor
  · intro hUnshadowed best hNewest
    rcases hTwo best.2 hNewest.selected with hOwn | hOther
    · exact hOwn
    · rcases hUnshadowed best.1 best.2 hNewest.get
          hNewest.selected hOther with
        ⟨newerId, newer, hGet, hSelected, hOwn, hOlder⟩
      have hIds : newerId ≠ best.1 := by
        intro hId
        rw [hId, hNewest.get] at hGet
        rw [Option.some.inj hGet] at hOther
        exact hNe (hOwn.symm.trans hOther)
      exact
        absurd hOlder
          (hNewest.newest newerId newer
            hGet hSelected hIds).asymm
  · intro hLatest id event hGet hSelected hOther
    cases hBest : store.latest p with
    | none =>
        exact
          absurd hSelected
            (AlertStore.latest_eq_none_iff.mp
              hBest id event hGet)
    | some best =>
        have hNewest :=
          (AlertStore.latest_eq_some_iff best).mp hBest
        have hOwn := hLatest best hNewest
        have hIds : id ≠ best.1 := by
          intro hId
          have hRow := hNewest.get
          rw [← hId, hGet] at hRow
          rw [← Option.some.inj hRow] at hOwn
          exact hNe (hOwn.symm.trans hOther)
        exact
          ⟨best.1, best.2, hNewest.get, hNewest.selected,
            hOwn,
            hNewest.newest id event hGet hSelected hIds⟩

/-
  The selection of a gas stays apart from the selection of
  the foreign one: the verdict is held back, no foreign
  event shadows, or what would be written into the foreign
  event is there already and the gas has its own event.
-/
def Separate
    (scope p : AlarmEvent → Prop)
    (origin foreign : Origin)
    (verdict : Verdict)
    (store : AlertStore) :
    Prop :=
  verdict = .hold ∨
    Unshadowed p origin foreign store ∨
    ∃ refresh fresh,
      verdict = .raised refresh fresh ∧
        HasOpen scope origin store ∧
        ∀ best,
          store.events.IsNewest
            p AlarmEvent.occurredAt best →
          refresh best.2 = best.2

theorem separate_iff
    {scope p : AlarmEvent → Prop}
    [DecidablePred p]
    {origin foreign : Origin}
    {store : AlertStore}
    {verdict : Verdict}
    (hNe : origin ≠ foreign)
    (hTwo :
      ∀ event,
        p event →
        event.origin = origin ∨
          event.origin = foreign) :
    Separate scope p origin foreign verdict store ↔
      ∀ best,
        store.events.IsNewest
          p AlarmEvent.occurredAt best →
        best.2.origin = origin ∨
          Spares scope origin store best.2 verdict := by
  constructor
  · rintro (hHold | hUnshadowed |
      ⟨refresh, fresh, hRaised, hHas, hSame⟩) best hNewest
    · rw [hHold]
      exact Or.inr trivial
    · exact
        Or.inl
          ((unshadowed_iff hNe hTwo).mp
            hUnshadowed best hNewest)
    · rw [hRaised]
      exact Or.inr ⟨hSame best hNewest, hHas⟩
  · intro hAll
    by_cases hOwn :
        Unshadowed p origin foreign store
    · exact Or.inr (Or.inl hOwn)
    · rw [unshadowed_iff hNe hTwo] at hOwn
      push Not at hOwn
      rcases hOwn with ⟨best, hNewest, hOther⟩
      rcases hAll best hNewest with hSame | hSpares
      · exact absurd hSame hOther
      · cases verdict with
        | hold => exact Or.inl rfl
        | recovered note => exact hSpares.elim
        | raised refresh fresh =>
            refine
              Or.inr
                (Or.inr
                  ⟨refresh, fresh, rfl, hSpares.2, ?_⟩)
            intro other hNewestOther
            rw [hNewestOther.unique hNewest]
            exact hSpares.1

end Alerts

end Icmp2

------------------------------------------------------------
-- STEP E and STEP G
------------------------------------------------------------

namespace Icmp2

namespace Alerts

open Monitoring AiEngine Library

/-
  Under a FORECAST rule, an event that a tag of STEP G
  finds was created by STEP G, on the same channel for the
  sensor of the tag or, with the tag of co, for co2.
-/
theorem origin_of_openForecast
    {rule : RuleOf .forecast}
    {device : Nat}
    {channel : Option DeviceChannel}
    {sensor : SensorType}
    {event : AlarmEvent}
    (hFound :
      OpenForecast rule.1 device channel sensor event) :
    event.origin =
        .forecast (channelCode channel) sensor ∨
      (sensor = .gas .co ∧
        event.origin =
          .forecast (channelCode channel) (.gas .co2)) := by
  rcases hFound with ⟨⟨hRule, _, _⟩, hTag, _⟩
  have hType : event.origin.ruleType = .forecast := by
    rw [event.typed, hRule, rule.2]
  unfold AlarmEvent.title at hTag
  cases hOrigin : event.origin with
  | threshold gases =>
      rw [hOrigin] at hType
      cases hType
  | anomaly gases =>
      rw [hOrigin] at hType
      cases hType
  | changePoint gas =>
      rw [hOrigin] at hType
      cases hType
  | isolationForest =>
      rw [hOrigin] at hType
      cases hType
  | isolationForestPower label =>
      rw [hOrigin] at hType
      cases hType
  | forecast code other =>
      rw [hOrigin, contains_forecast_iff] at hTag
      rcases hTag with ⟨hCode, hSame | ⟨hCo, hCo2⟩⟩
      · exact Or.inl (by rw [hCode, hSame])
      · exact Or.inr ⟨hCo, by rw [hCode, hCo2]⟩
  | loadRate label rate level =>
      rw [hOrigin] at hType
      cases hType
  | missing deviceUid =>
      rw [hOrigin] at hType
      cases hType

/- Handling one change point result stays local. -/
def ChangePointLocal
    (text : FloatText)
    (now : Instant)
    (rule : RuleOf .threshold)
    (facility device : Nat)
    (store : AlertStore)
    (result : ChangePointResult) :
    Prop :=
  GasLocal (OpenUnder rule.1 device)
    (.changePoint result.metric)
    (changePointVerdict text now rule facility device
      result)
    store
    (changePointRound text now rule facility device store
      result)

/- The result is not of co, or co2 does not shadow co. -/
def ChangePointSeparate
    (text : FloatText)
    (now : Instant)
    (rule : RuleOf .threshold)
    (facility device : Nat)
    (store : AlertStore)
    (result : ChangePointResult) :
    Prop :=
  result.metric = .co →
  Separate (OpenUnder rule.1 device)
    (OpenChangePoint rule.1 device .co)
    (.changePoint .co) (.changePoint .co2)
    (changePointVerdict text now rule facility device
      result)
    store

theorem changePointLocal_iff
    (text : FloatText)
    (now : Instant)
    (rule : RuleOf .threshold)
    (facility device : Nat)
    (store : AlertStore)
    (result : ChangePointResult) :
    ChangePointLocal
        text now rule facility device store result ↔
      ChangePointSeparate
        text now rule facility device store result := by
  have hFresh :
      ∀ refresh fresh,
        changePointVerdict text now rule facility device
            result = .raised refresh fresh →
        fresh.origin = .changePoint result.metric ∧
          fresh.eventStatus = .«open» := by
    intro refresh fresh hVerdict
    unfold changePointVerdict at hVerdict
    cases hEvent : result.event with
    | none =>
        rw [hEvent] at hVerdict
        cases hVerdict
    | some event =>
        cases event with
        | changePoint =>
            rw [hEvent] at hVerdict
            cases hVerdict
            exact ⟨rfl, rfl⟩
        | backToStable =>
            rw [hEvent] at hVerdict
            cases hVerdict
  unfold ChangePointLocal changePointRound
  rw [gasLocal_reuseOpen_iff
    (fun event hEvent => hEvent.1.1)
    (fun event hEvent => hEvent.2.2) hFresh]
  unfold ChangePointSeparate
  by_cases hCo : result.metric = .co
  · simp only [hCo, true_implies]
    exact
      (separate_iff (by simp)
        (fun event hEvent =>
          (origin_of_openChangePoint hEvent).imp_right
            And.right)).symm
  · simp only [hCo, false_implies, iff_true]
    intro best hNewest
    rcases origin_of_openChangePoint hNewest.selected with
      hOwn | ⟨hGas, _⟩
    · exact Or.inl hOwn
    · exact absurd hGas hCo

/- Handling one forecast result stays local. -/
def ForecastLocal
    (now : Instant)
    (rule : RuleOf .forecast)
    (facility device : Nat)
    (store : AlertStore)
    (result : ForecastPolicyResult) :
    Prop :=
  GasLocal (OpenUnder rule.1 device)
    (.forecast none result.sensorType)
    (forecastVerdict now rule facility device none result)
    store
    (forecastRound now rule facility device none store
      result)

/- The result is not of co, or co2 does not shadow co. -/
def ForecastSeparate
    (now : Instant)
    (rule : RuleOf .forecast)
    (facility device : Nat)
    (store : AlertStore)
    (result : ForecastPolicyResult) :
    Prop :=
  result.sensorType = .gas .co →
  Separate (OpenUnder rule.1 device)
    (OpenForecast rule.1 device none (.gas .co))
    (.forecast none (.gas .co)) (.forecast none (.gas .co2))
    (forecastVerdict now rule facility device none result)
    store

/- An event that STEP G creates is its own and OPEN. -/
theorem forecastVerdict_fresh
    {now : Instant}
    {rule : RuleOf .forecast}
    {facility device : Nat}
    {channel : Option DeviceChannel}
    {result : ForecastPolicyResult}
    {refresh : AlarmEvent → AlarmEvent}
    {fresh : AlarmEvent}
    (hVerdict :
      forecastVerdict now rule facility device channel
          result = .raised refresh fresh) :
    refresh =
        AlarmEvent.refresh now
          (forecastMessage channel result)
          (forecastValue result) ∧
      fresh =
        forecastEvent now rule facility device channel
          result := by
  unfold forecastVerdict at hVerdict
  cases hConfidence : result.headlineConfidence with
  | normal =>
      rw [hConfidence] at hVerdict
      cases hVerdict
  | tentative =>
      rw [hConfidence] at hVerdict
      cases hVerdict
  | confirmedWarning =>
      rw [hConfidence] at hVerdict
      cases hVerdict
      exact ⟨rfl, rfl⟩
  | confirmedStrong =>
      rw [hConfidence] at hVerdict
      cases hVerdict
      exact ⟨rfl, rfl⟩
  | unknown =>
      rw [hConfidence] at hVerdict
      cases hVerdict

theorem forecastLocal_iff
    (now : Instant)
    (rule : RuleOf .forecast)
    (facility device : Nat)
    (store : AlertStore)
    (result : ForecastPolicyResult) :
    ForecastLocal now rule facility device store result ↔
      ForecastSeparate
        now rule facility device store result := by
  have hFresh :
      ∀ refresh fresh,
        forecastVerdict now rule facility device none
            result = .raised refresh fresh →
        fresh.origin = .forecast none result.sensorType ∧
          fresh.eventStatus = .«open» := by
    intro refresh fresh hVerdict
    rw [(forecastVerdict_fresh hVerdict).2]
    exact ⟨rfl, rfl⟩
  unfold ForecastLocal forecastRound
  rw [gasLocal_reuseOpen_iff
    (fun event hEvent => hEvent.1)
    (fun event hEvent => hEvent.2.2) hFresh]
  unfold ForecastSeparate
  by_cases hCo : result.sensorType = .gas .co
  · simp only [hCo, true_implies]
    exact
      (separate_iff (by simp)
        (fun event hEvent =>
          (origin_of_openForecast hEvent).imp_right
            And.right)).symm
  · simp only [hCo, false_implies, iff_true]
    intro best hNewest
    rcases origin_of_openForecast hNewest.selected with
      hOwn | ⟨hSensor, _⟩
    · exact Or.inl hOwn
    · exact absurd hSensor hCo

/- `P` holds at every round of STEP E. -/
def AlongChangepoint
    (text : FloatText)
    (now : Instant)
    (device : Device)
    (results : List ChangePointResult)
    (store : AlertStore)
    (P :
      RuleOf .threshold → Nat →
        AlertStore → ChangePointResult → Prop) :
    Prop :=
  ∀ facility rule,
    device.facility = some facility →
    activeRule store.rules .threshold = some rule →
    Along
      (changePointRound text now rule facility device.id)
      (P rule facility) store results

/- `P` holds at every round of STEP G without a channel. -/
def AlongForecast
    (now : Instant)
    (device : Device)
    (results : List ForecastPolicyResult)
    (store : AlertStore)
    (P :
      RuleOf .forecast → Nat →
        AlertStore → ForecastPolicyResult → Prop) :
    Prop :=
  ∀ facility rule,
    device.facility = some facility →
    activeRule store.rules .forecast = some rule →
    Along
      (forecastRound now rule facility device.id none)
      (P rule facility) store results

/-
  STEP E and STEP G keep to the gas of every result they
  handle exactly if no co2 event shadows co when a result
  of co is handled.
-/
theorem gas_events_local_iff
    (text : FloatText)
    (now : Instant)
    (device : Device)
    (cpResults : List ChangePointResult)
    (results : List ForecastPolicyResult)
    (store : AlertStore) :
    (AlongChangepoint text now device cpResults store
        (fun rule facility =>
          ChangePointLocal
            text now rule facility device.id) ↔
      AlongChangepoint text now device cpResults store
        (fun rule facility =>
          ChangePointSeparate
            text now rule facility device.id)) ∧
    (AlongForecast now device results store
        (fun rule facility =>
          ForecastLocal now rule facility device.id) ↔
      AlongForecast now device results store
        (fun rule facility =>
          ForecastSeparate
            now rule facility device.id)) := by
  constructor
  · unfold AlongChangepoint
    refine forall_congr' fun facility => ?_
    refine forall_congr' fun rule => ?_
    refine imp_congr_right fun _ => ?_
    refine imp_congr_right fun _ => ?_
    exact
      along_congr
        (changePointLocal_iff
          text now rule facility device.id)
        store cpResults
  · unfold AlongForecast
    refine forall_congr' fun facility => ?_
    refine forall_congr' fun rule => ?_
    refine imp_congr_right fun _ => ?_
    refine imp_congr_right fun _ => ?_
    exact
      along_congr
        (forecastLocal_iff now rule facility device.id)
        store results

/- A forecast of one sensor with the given headline. -/
def sampleForecast
    (sensor : SensorType)
    (confidence : ForecastConfidence) :
    ForecastPolicyResult where
  timestamp := 0
  deviceId := "GAS-001"
  sensorType := sensor
  cautionConfidence := confidence
  dangerConfidence := .normal
  headlineSeverity := some .caution
  headlineConfidence := confidence
  cautionEtaStep := some 3
  dangerEtaStep := none
  path := .normal
  forecastSteps := 10
  presentLevel := .normal
  corroborated := false
  reason := "normal 경로"

/- The open change point event of co2. -/
def co2ChangeStore : AlertStore :=
  triggerChangepointAlarms wholeText 0 gasDevice
    [sampleChangePoint .co2 .changePoint] ruleStore

/- The open predictive warning of co2. -/
def co2ForecastStore : AlertStore :=
  triggerForecastAlarms 0 gasDevice none
    [sampleForecast (.gas .co2) .confirmedWarning]
    ruleStore

/-
  With an event of co2 open, a change point of co creates
  no event of its own but rewrites the one of co2, and a
  normal forecast of co closes the warning of co2.
-/
theorem co_result_touches_co2 :
    co2ChangeStore.events.rows.map
        (fun event => (event.origin, event.lastSeenAt)) =
      [(.changePoint .co2, some 0)] ∧
    (triggerChangepointAlarms wholeText 60 gasDevice
          [sampleChangePoint .co .changePoint]
          co2ChangeStore).events.rows.map
        (fun event => (event.origin, event.lastSeenAt)) =
      [(.changePoint .co2, some 60)] ∧
    co2ForecastStore.events.rows.map
        (fun event => (event.title, event.eventStatus)) =
      [("[예측] CO2 사전 경고", .«open»)] ∧
    (triggerForecastAlarms 60 gasDevice none
          [sampleForecast (.gas .co) .normal]
          co2ForecastStore).events.rows.map
        (fun event => (event.title, event.eventStatus)) =
      [("[예측] CO2 사전 경고", .closed)] := by
  refine ⟨?_, ?_, ?_, ?_⟩
  · decide +kernel
  · decide +kernel
  · decide +kernel
  · decide +kernel

end Alerts

end Icmp2
