import Icmp2.Alerts.Titles

/-
  Which events the steps B, D and E write.

  Main definitions include:
    * `Icmp2.Alerts.KeepsViews`
    * `Icmp2.Alerts.ThresholdIsolated`
    * `Icmp2.Alerts.AnomalyIsolated`

  Main theorems include:
    * `Icmp2.Alerts.keepsViews_reuseOpen_iff`
    * `Icmp2.Alerts.keepsViews_changepoint`
    * `Icmp2.Alerts.steps_isolated_iff`
-/

------------------------------------------------------------
-- Views
------------------------------------------------------------

namespace Icmp2

namespace Alerts

open Monitoring AiEngine Library

/- The columns of an event that an operator sees. -/
structure EventView where
  eventStatus : EventStatus
  severity : Severity
  title : String
  message : String
  currentValue : Option ℚ
  closedAt : Option Instant
  deriving DecidableEq, Repr

/- The view of an event. -/
def AlarmEvent.view
    (event : AlarmEvent) :
    EventView where
  eventStatus := event.eventStatus
  severity := event.severity
  title := event.title
  message := event.message
  currentValue := event.currentValue
  closedAt := event.closedAt

/- Every event of some origins keeps its view. -/
def KeepsViews
    (origins : Origin → Prop)
    (before after : AlertStore) :
    Prop :=
  ∀ id event,
    before.events.get? id = some event →
    origins event.origin →
    ∃ later,
      after.events.get? id = some later ∧
        later.view = event.view

theorem keepsViews_refl
    (origins : Origin → Prop)
    (store : AlertStore) :
    KeepsViews origins store store := by
  intro id event hGet _
  exact ⟨event, hGet, rfl⟩

/- The verdict leaves the view of the found event alone. -/
def Harmless
    (event : AlarmEvent) :
    Verdict → Prop
  | .hold => True
  | .recovered _ => False
  | .raised refresh _ => (refresh event).view = event.view

/- For OPEN events, harmless is what keeps the view. -/
theorem harmless_iff_view_write
    {event : AlarmEvent}
    (now : Instant)
    (verdict : Verdict)
    (hOpen : event.eventStatus = .«open») :
    Harmless event verdict ↔
      (AlertStore.write now event verdict).view =
        event.view := by
  cases verdict with
  | hold => simp [Harmless, AlertStore.write]
  | recovered note =>
      simp [Harmless, AlertStore.write, AlarmEvent.view,
        AlarmEvent.close, hOpen]
  | raised refresh fresh => rfl

/-
  A selection of OPEN events keeps the views of some
  origins exactly if its latest event is of another origin
  or gets a harmless verdict.
-/
theorem keepsViews_reuseOpen_iff
    {origins : Origin → Prop}
    {store : AlertStore}
    {now : Instant}
    {p : AlarmEvent → Prop}
    [DecidablePred p]
    (hOpen :
      ∀ event, p event → event.eventStatus = .«open»)
    (verdict : Verdict) :
    KeepsViews origins store
        (store.reuseOpen now p verdict) ↔
      ∀ best,
        store.events.IsNewest
          p AlarmEvent.occurredAt best →
        origins best.2.origin →
        Harmless best.2 verdict := by
  constructor
  · intro hKeeps best hNewest hOrigin
    rcases hKeeps best.1 best.2 hNewest.get hOrigin with
      ⟨later, hLater, hView⟩
    rw [AlertStore.get?_reuseOpen_newest
      now verdict hNewest] at hLater
    rw [harmless_iff_view_write now verdict
      (hOpen best.2 hNewest.selected)]
    rw [← Option.some.inj hLater] at hView
    exact hView
  · intro hHarmless id event hGet hOrigin
    rcases AlertStore.get?_reuseOpen_of_get (p := p)
        now verdict hGet with
      ⟨hNewest, hWritten⟩ | hKept
    · exact
        ⟨AlertStore.write now event verdict, hWritten,
          (harmless_iff_view_write now verdict
            (hOpen event hNewest.selected)).mp
              (hHarmless _ hNewest hOrigin)⟩
    · exact ⟨event, hKept, rfl⟩

end Alerts

end Icmp2

------------------------------------------------------------
-- STEP E Keeps to Its Own Events
------------------------------------------------------------

namespace Icmp2

namespace Alerts

open Monitoring AiEngine Library

/-
  Under a THRESHOLD rule, an OPEN anomaly event that a tag
  of STEP E finds was created by STEP E, for the gas of the
  tag or, with the tag of co, for co2.
-/
theorem origin_of_openChangePoint
    {rule : RuleOf .threshold}
    {device : Nat}
    {gas : Gas}
    {event : AlarmEvent}
    (hFound :
      OpenChangePoint rule.1 device gas event) :
    event.origin = .changePoint gas ∨
      (gas = .co ∧ event.origin = .changePoint .co2) := by
  rcases hFound with ⟨⟨⟨hRule, _, _⟩, hSeverity⟩, hTag⟩
  have hType : event.origin.ruleType = .threshold := by
    rw [event.typed, hRule, rule.2]
  have hGraded := event.graded
  unfold AlarmEvent.title at hTag
  cases hOrigin : event.origin with
  | threshold gases =>
      rw [hOrigin] at hGraded
      rcases hGraded trivial with hDanger | hWarning
      · rw [hDanger] at hSeverity
        cases hSeverity
      · rw [hWarning] at hSeverity
        cases hSeverity
  | anomaly gases =>
      rw [hOrigin] at hTag
      exact absurd hTag (not_contains_anomaly gases gas)
  | changePoint other =>
      rw [hOrigin, contains_changePoint_iff] at hTag
      rcases hTag with hSame | ⟨hCo, hCo2⟩
      · exact Or.inl (by rw [hSame])
      · exact Or.inr ⟨hCo, by rw [hCo2]⟩
  | isolationForest =>
      rw [hOrigin] at hType
      cases hType
  | isolationForestPower label =>
      rw [hOrigin] at hType
      cases hType
  | forecast code sensor =>
      rw [hOrigin] at hType
      cases hType
  | loadRate label rate level =>
      rw [hOrigin] at hType
      cases hType
  | missing deviceUid =>
      rw [hOrigin] at hType
      cases hType

/- One round of STEP E writes no event of another step. -/
theorem get?_changePointRound
    (text : FloatText)
    (now : Instant)
    (rule : RuleOf .threshold)
    (facility device : Nat)
    {store : AlertStore}
    (result : ChangePointResult)
    {id : Nat}
    {event : AlarmEvent}
    (hGet : store.events.get? id = some event)
    (hOther : ¬ event.origin.FromChangePoint) :
    (changePointRound text now rule facility device
        store result).events.get? id =
      some event := by
  apply AlertStore.get?_reuseOpen_of_not now _ hGet
  intro hFound
  rcases origin_of_openChangePoint hFound with
    hOrigin | ⟨_, hOrigin⟩
  · rw [hOrigin] at hOther
    exact hOther trivial
  · rw [hOrigin] at hOther
    exact hOther trivial

/- STEP E keeps every event of another step. -/
theorem keepsViews_changepoint
    (text : FloatText)
    (now : Instant)
    (device : Device)
    (results : List ChangePointResult)
    (store : AlertStore) :
    KeepsViews
      (fun origin => ¬ origin.FromChangePoint)
      store
      (triggerChangepointAlarms
        text now device results store) := by
  unfold triggerChangepointAlarms
  cases hFacility : device.facility with
  | none => exact keepsViews_refl _ store
  | some facility =>
      cases hRule : activeRule store.rules .threshold with
      | none => exact keepsViews_refl _ store
      | some rule =>
          intro id event hGet hOther
          refine ⟨event, ?_, rfl⟩
          exact
            run_invariant
              (I := fun later : AlertStore =>
                later.events.get? id = some event)
              (fun _ result hLater =>
                get?_changePointRound text now rule
                  facility device.id result hLater hOther)
              hGet results

end Alerts

end Icmp2

------------------------------------------------------------
-- Isolation of STEP B and STEP D
------------------------------------------------------------

namespace Icmp2

namespace Alerts

open Monitoring AiEngine Library

/-
  STEP B finds one of its own events, or an event that
  already carries everything it is about to write.
-/
def ThresholdIsolated
    (text : FloatText)
    (policies : List ThresholdPolicy)
    (device : Device)
    (reading : GasReading)
    (store : AlertStore) :
    Prop :=
  let exceeded :=
    checkThresholdExceeded policies reading alarmScope
  device.facility ≠ none →
  reading.qualityFlag = .ok →
  ∀ rule best,
    activeRule store.rules .threshold = some rule →
    store.events.IsNewest
      (OpenUnder rule.1 device.id)
      AlarmEvent.occurredAt best →
    best.2.origin.FromThreshold ∨
      (exceeded ≠ [] ∧
        best.2.severity = thresholdSeverity exceeded ∧
        best.2.message = thresholdMessage text exceeded ∧
        best.2.currentValue = thresholdValue exceeded)

/-
  STEP D finds one of its own events, or an event that
  already carries everything it is about to write.
-/
def AnomalyIsolated
    (text : FloatText)
    (device : Device)
    (results : List ZscoreResult)
    (store : AlertStore) :
    Prop :=
  let found := anomalies results
  device.facility ≠ none →
  found ≠ [] →
  ∀ rule best,
    activeRule store.rules .threshold = some rule →
    store.events.IsNewest
      (OpenAnomaly rule.1 device.id)
      AlarmEvent.occurredAt best →
    best.2.origin.FromAnomaly ∨
      (best.2.message = anomalyMessage text found ∧
        best.2.currentValue = anomalyValue found)

theorem view_thresholdRefresh
    (text : FloatText)
    (now : Instant)
    (exceeded : List Exceeded)
    (event : AlarmEvent) :
    (thresholdRefresh text now exceeded event).view =
      { event.view with
        severity := thresholdSeverity exceeded
        message := thresholdMessage text exceeded
        currentValue := thresholdValue exceeded } := by
  rfl

theorem harmless_thresholdVerdict_iff
    (text : FloatText)
    (now : Instant)
    (rule : RuleOf .threshold)
    (facility device : Nat)
    (exceeded : List Exceeded)
    (event : AlarmEvent) :
    Harmless event
        (thresholdVerdict text now rule facility device
          exceeded) ↔
      exceeded ≠ [] ∧
        event.severity = thresholdSeverity exceeded ∧
        event.message = thresholdMessage text exceeded ∧
        event.currentValue = thresholdValue exceeded := by
  unfold thresholdVerdict
  by_cases hNone : exceeded = []
  · simp [hNone, Harmless]
  · simp only [Harmless, hNone, if_false, ne_eq,
      view_thresholdRefresh, not_false_eq_true, true_and]
    simp only [AlarmEvent.view, EventView.mk.injEq,
      true_and, and_true]
    constructor
    · rintro ⟨hSeverity, hMessage, hValue⟩
      exact ⟨hSeverity.symm, hMessage.symm, hValue.symm⟩
    · rintro ⟨hSeverity, hMessage, hValue⟩
      exact ⟨hSeverity.symm, hMessage.symm, hValue.symm⟩

theorem harmless_anomalyVerdict_iff
    (text : FloatText)
    (now : Instant)
    (rule : RuleOf .threshold)
    (facility device : Nat)
    (found : List Anomaly)
    (event : AlarmEvent) :
    Harmless event
        (anomalyVerdict text now rule facility device
          found) ↔
      event.message = anomalyMessage text found ∧
        event.currentValue = anomalyValue found := by
  simp only [anomalyVerdict, Harmless, AlarmEvent.view,
    AlarmEvent.refresh, AlarmEvent.title,
    EventView.mk.injEq, true_and, and_true]
  constructor
  · rintro ⟨hMessage, hValue⟩
    exact ⟨hMessage.symm, hValue.symm⟩
  · rintro ⟨hMessage, hValue⟩
    exact ⟨hMessage.symm, hValue.symm⟩

theorem keepsViews_checkGasThresholds_iff
    (text : FloatText)
    (now : Instant)
    (policies : List ThresholdPolicy)
    (device : Device)
    (reading : GasReading)
    (store : AlertStore) :
    KeepsViews (fun origin => ¬ origin.FromThreshold)
        store
        (checkGasThresholds
          text now policies device reading store) ↔
      ThresholdIsolated
        text policies device reading store := by
  unfold checkGasThresholds ThresholdIsolated
  cases hFacility : device.facility with
  | none =>
      simp [keepsViews_refl]
  | some facility =>
      by_cases hFlag : reading.qualityFlag ≠ .ok
      · simp [hFlag, keepsViews_refl]
      · cases hRule :
            activeRule store.rules .threshold with
        | none =>
            simp [hFlag, keepsViews_refl]
        | some rule =>
            simp only [if_neg hFlag]
            rw [keepsViews_reuseOpen_iff
              (fun event hEvent => hEvent.2.2)]
            simp only [harmless_thresholdVerdict_iff]
            constructor
            · intro hHarmless _ _ found best hSame hNewest
              rw [Option.some.inj hSame] at hHarmless
              by_cases hOwn : best.2.origin.FromThreshold
              · exact Or.inl hOwn
              · exact
                  Or.inr (hHarmless best hNewest hOwn)
            · intro hIsolated best hNewest hOther
              rcases hIsolated (by simp)
                  (not_not.mp hFlag) rule best rfl
                  hNewest with
                hOwn | hCarries
              · exact absurd hOwn hOther
              · exact hCarries

theorem keepsViews_triggerAnomalyAlarms_iff
    (text : FloatText)
    (now : Instant)
    (device : Device)
    (results : List ZscoreResult)
    (store : AlertStore) :
    KeepsViews (fun origin => ¬ origin.FromAnomaly)
        store
        (triggerAnomalyAlarms
          text now device results store) ↔
      AnomalyIsolated text device results store := by
  unfold triggerAnomalyAlarms AnomalyIsolated
  cases hFacility : device.facility with
  | none =>
      simp [keepsViews_refl]
  | some facility =>
      by_cases hNone : anomalies results = []
      · simp [hNone, keepsViews_refl]
      · cases hRule :
            activeRule store.rules .threshold with
        | none =>
            simp [hNone, keepsViews_refl]
        | some rule =>
            simp only [if_neg hNone]
            rw [keepsViews_reuseOpen_iff
              (fun event hEvent => hEvent.1.2.2)]
            simp only [harmless_anomalyVerdict_iff]
            constructor
            · intro hHarmless _ _ found best hSame hNewest
              rw [Option.some.inj hSame] at hHarmless
              by_cases hOwn : best.2.origin.FromAnomaly
              · exact Or.inl hOwn
              · exact
                  Or.inr (hHarmless best hNewest hOwn)
            · intro hIsolated best hNewest hOther
              rcases hIsolated (by simp) hNone
                  rule best rfl hNewest with
                hOwn | hCarries
              · exact absurd hOwn hOther
              · exact hCarries

/-
  STEP B and STEP D leave the events of the other steps
  alone exactly under their conditions, and STEP E always.
-/
theorem steps_isolated_iff
    (text : FloatText)
    (now : Instant)
    (policies : List ThresholdPolicy)
    (device : Device)
    (reading : GasReading)
    (zscoreResults : List ZscoreResult)
    (cpResults : List ChangePointResult)
    (store : AlertStore) :
    (KeepsViews (fun origin => ¬ origin.FromThreshold)
        store
        (checkGasThresholds
          text now policies device reading store) ↔
      ThresholdIsolated
        text policies device reading store) ∧
    (KeepsViews (fun origin => ¬ origin.FromAnomaly)
        store
        (triggerAnomalyAlarms
          text now device zscoreResults store) ↔
      AnomalyIsolated text device zscoreResults store) ∧
    KeepsViews (fun origin => ¬ origin.FromChangePoint)
      store
      (triggerChangepointAlarms
        text now device cpResults store) :=
  ⟨keepsViews_checkGasThresholds_iff
      text now policies device reading store,
    keepsViews_triggerAnomalyAlarms_iff
      text now device zscoreResults store,
    keepsViews_changepoint
      text now device cpResults store⟩

/- A device with a facility. -/
def gasDevice : Device where
  id := 1
  deviceUid := "GAS-001"
  facility := some 1
  isActive := true
  status := "active"

/- A store with two active rules and without events. -/
def ruleStore : AlertStore where
  rules :=
    [⟨⟨1, .threshold⟩, true⟩, ⟨⟨2, .forecast⟩, true⟩]
  events := Table.empty
  histories := []
  notifications := []

/- Values of clean air, but for co. -/
def airValue
    (co : ℚ) :
    Gas → Option ℚ
  | .co => some co
  | .o2 => some 21
  | _ => some 0

/- A complete reading of the device. -/
def airReading
    (measuredAt : Instant)
    (co : ℚ) :
    GasReading where
  id := 1
  device := gasDevice.id
  value := airValue co
  measuredAt := measuredAt
  qualityFlag := .ok

/- A Z-score warning for co. -/
def coAnomaly : ZscoreResult where
  metric := .co
  value := 20
  finalStatus := .anomalyWarning 4

/- A change point result of a gas. -/
def sampleChangePoint
    (gas : Gas)
    (event : ChangePointEvent) :
    ChangePointResult where
  metric := gas
  prevMean := 0
  currMean := 5
  meanShiftScore := 9
  stdRatio := 1
  event := some event

/- The store after one statistical anomaly. -/
def anomalyStore : AlertStore :=
  triggerAnomalyAlarms
    wholeText 0 gasDevice [coAnomaly] ruleStore

/- The store after one change point. -/
def changePointStore : AlertStore :=
  triggerChangepointAlarms
    wholeText 0 gasDevice
    [sampleChangePoint .h2s .changePoint] ruleStore

/-
  STEP B turns the event of a statistical anomaly into a
  danger alarm under the old title, and STEP D writes its
  own message into the event of a change point.
-/
theorem steps_not_isolated :
    (anomalyStore.events.get? 0).map AlarmEvent.view =
      some
        ⟨.«open», .anomaly, "[AI] CO 통계 이상 감지",
          "CO: 20.0 (z=4.00)", some 4, none⟩ ∧
    ((checkGasThresholds wholeText 60 [] gasDevice
          (airReading 60 250) anomalyStore).events.get?
        0).map AlarmEvent.view =
      some
        ⟨.«open», .danger, "[AI] CO 통계 이상 감지",
          "CO: 250.0 (위험)", some 250, none⟩ ∧
    (changePointStore.events.get? 0).map
        (fun event => event.title) =
      some "[CP] H2S 상태 변화 감지" ∧
    ((triggerAnomalyAlarms wholeText 60 gasDevice
          [coAnomaly] changePointStore).events.get?
        0).map AlarmEvent.view =
      some
        ⟨.«open», .anomaly, "[CP] H2S 상태 변화 감지",
          "CO: 20.0 (z=4.00)", some 4, none⟩ := by
  refine ⟨?_, ?_, ?_, ?_⟩
  · decide +kernel
  · decide +kernel
  · decide +kernel
  · decide +kernel

end Alerts

end Icmp2
