import Icmp2.Alerts.PowerLoad
import Mathlib.Logic.Relation

/-
  The life of alarm events: every operation that writes to
  them, and the writes that each operation is made of.

  Main definitions include:
    * `Icmp2.Alerts.triggerIfAnomalyAlarmsPower`
    * `Icmp2.Alerts.checkMissingDevices`
    * `Icmp2.Alerts.allowedTransitions`
    * `Icmp2.Alerts.changeEventStatusView`
    * `Icmp2.Alerts.StoreOp`
    * `Icmp2.Alerts.storeStep`
    * `Icmp2.Alerts.Write`

  Main theorems include:
    * `Icmp2.Alerts.writes_reuseOpen`
    * `Icmp2.Alerts.writes_checkMissingDevices`
    * `Icmp2.Alerts.changeEventStatusView_cases`
    * `Icmp2.Alerts.writes_storeStep`
-/

------------------------------------------------------------
-- STEP F on Power Channels
------------------------------------------------------------

namespace Icmp2

namespace Alerts

open Monitoring AiEngine Library

/- The message of STEP F on a channel. -/
def ifPowerMessage
    (channel : PowerChannel)
    (result : IfResult) :
    String :=
  "[전력·IF] " ++ channel.label ++ " 조합 이상 — " ++
    result.reason

/- What STEP F says about a result of a channel. -/
def ifPowerVerdict
    (now : Instant)
    (rule : RuleOf .ai)
    (facility device : Nat)
    (channel : PowerChannel)
    (result : IfResult) :
    Verdict :=
  match result.level with
  | .unknown => .hold
  | .normal =>
      .recovered "전력 IF 분포 정상 복귀로 자동 종료"
  | .caution =>
      .raised
        (AlarmEvent.refresh now
          (ifPowerMessage channel result)
          result.mahalanobisDistance)
        (newEvent now rule facility device
          (some channel.id)
          .anomaly
          (.isolationForestPower channel.label)
          (ifPowerMessage channel result)
          result.mahalanobisDistance
          rfl
          (fun hFrom => hFrom.elim))

/- STEP F, `trigger_if_anomaly_alarms_power`. -/
def triggerIfAnomalyAlarmsPower
    (now : Instant)
    (device : Device)
    (channel : PowerChannel)
    (result : Option IfResult)
    (store : AlertStore) :
    AlertStore :=
  match result, device.facility with
  | some result, some facility =>
      match activeRule store.rules .ai with
      | none => store
      | some rule =>
          store.reuseOpen now
            (OpenOnChannel rule.1 device.id channel)
            (ifPowerVerdict now rule facility device.id
              channel result)
  | _, _ => store

end Alerts

end Icmp2

------------------------------------------------------------
-- Missing Devices
------------------------------------------------------------

namespace Icmp2

namespace Alerts

open Monitoring AiEngine Library

/- A device with the time of its last data. -/
structure WatchedDevice extends Device where
  lastSeenAt : Option Instant
  deriving DecidableEq, Repr

/-
  The active rules of type MISSING with a timeout; the
  argument is the column `missing_timeout_seconds` by id.
-/
def missingRules
    (missingTimeoutSeconds : Nat → Option Nat)
    (rules : List AlarmRule) :
    List (RuleOf .missing × Nat) :=
  rules.filterMap fun rule =>
    if hRule :
        rule.ruleType = .missing ∧
          rule.isActive = true then
      (missingTimeoutSeconds rule.id).map fun seconds =>
        (⟨rule.toRuleKey, hRule.1⟩, seconds)
    else
      none

/- A whole number as text. -/
def natText
    (number : Nat) :
    String :=
  String.ofList (Nat.toDigits 10 number)

/- The message about a silent device. -/
def missingMessage
    (now seen : Instant)
    (seconds : Nat) :
    String :=
  "마지막 수신 " ++
    natText ((now - seen).tdiv 1000000).toNat ++
    "초 전 (기준: " ++ natText seconds ++ "초)"

/- The columns written into the event of a silent device. -/
def AlarmEvent.refreshMissing
    (now : Instant)
    (message : String)
    (event : AlarmEvent) :
    AlarmEvent :=
  { event with
    lastSeenAt := some now
    message := message }

/- What the check says about a silent device. -/
def missingVerdict
    (now seen : Instant)
    (rule : RuleOf .missing)
    (seconds facility : Nat)
    (device : WatchedDevice) :
    Verdict :=
  .raised
    (AlarmEvent.refreshMissing now
      (missingMessage now seen seconds))
    (newEvent now rule facility device.id none
      .warning
      (.missing device.deviceUid)
      (missingMessage now seen seconds)
      none
      rfl
      (fun hFrom => hFrom.elim))

/- `now - timeout`. -/
def missingCutoff
    (now : Instant)
    (seconds : Nat) :
    Instant :=
  now - seconds * 1000000

/- The first loop, over the silent devices. -/
def missingRound
    (now : Instant)
    (rule : RuleOf .missing)
    (seconds : Nat)
    (store : AlertStore)
    (device : WatchedDevice) :
    AlertStore :=
  match device.facility, device.lastSeenAt with
  | some facility, some seen =>
      if seen < missingCutoff now seconds then
        store.reuseOpen now (OpenUnder rule.1 device.id)
          (missingVerdict now seen rule seconds facility
            device)
      else
        store
  | _, _ => store

/- The second loop, over the devices heard again. -/
def recoveredRound
    (now : Instant)
    (rule : RuleOf .missing)
    (seconds : Nat)
    (store : AlertStore)
    (device : WatchedDevice) :
    AlertStore :=
  match device.facility, device.lastSeenAt with
  | some _, some seen =>
      if seen ≥ missingCutoff now seconds then
        store.reuseOpen now (OpenUnder rule.1 device.id)
          (.recovered "데이터 수신 재개로 자동 종료")
      else
        store
  | _, _ => store

/- `check_missing_devices`. -/
def checkMissingDevices
    (now : Instant)
    (missingTimeoutSeconds : Nat → Option Nat)
    (devices : List WatchedDevice)
    (store : AlertStore) :
    AlertStore :=
  run
    (fun store (rule : RuleOf .missing × Nat) =>
      run (recoveredRound now rule.1 rule.2)
        (run (missingRound now rule.1 rule.2)
          store devices)
        devices)
    store
    (missingRules missingTimeoutSeconds store.rules)

end Alerts

end Icmp2

------------------------------------------------------------
-- Status Changes
------------------------------------------------------------

namespace Icmp2

namespace Alerts

open Monitoring AiEngine Library

namespace EventStatus

/- The stored text of a status. -/
def text : EventStatus → String
  | «open» => "open"
  | acknowledged => "acknowledged"
  | closed => "closed"

/- `action_map`. -/
def action : EventStatus → String
  | acknowledged => "acknowledge"
  | closed => "close"
  | «open» => "reopen"

end EventStatus

/- `ALLOWED_TRANSITIONS`. -/
def allowedTransitions : EventStatus → List EventStatus
  | .«open» => [.acknowledged, .closed]
  | .acknowledged => [.closed, .«open»]
  | .closed => [.«open», .acknowledged]

/- The columns that a change of status writes. -/
def AlarmEvent.setStatus
    (now : Instant)
    (user : Option Nat)
    (event : AlarmEvent) :
    EventStatus → AlarmEvent
  | .acknowledged =>
      { event with
        eventStatus := .acknowledged
        acknowledgedBy := user
        acknowledgedAt := some now }
  | .closed =>
      { event with
        eventStatus := .closed
        closedAt := some now }
  | .«open» =>
      { event with
        eventStatus := .«open»
        closedAt := none }

/- The allowed status with the given text. -/
def requestedStatus?
    (event : AlarmEvent)
    (newStatus : String) :
    Option EventStatus :=
  (allowedTransitions event.eventStatus).find? fun status =>
    status.text = newStatus

/- The text of the `ValueError`. -/
def transitionError
    (event : AlarmEvent)
    (newStatus : String) :
    String :=
  "'" ++ event.eventStatus.text ++ "' → '" ++ newStatus ++
    "' 전환은 허용되지 않습니다."

/- Save a new status and log it. -/
def AlertStore.saveStatus
    (store : AlertStore)
    (now : Instant)
    (id : Nat)
    (status : EventStatus)
    (user : Option Nat)
    (actionNote : String) :
    AlertStore :=
  { store with
    events :=
      store.events.modify id fun event =>
        event.setStatus now user status
    histories :=
      store.histories ++
        [{ alarmEvent := id
           actionType := status.action
           actionBy := user
           actionNote := actionNote }] }

/- `change_event_status` of the event with a given id. -/
def changeEventStatus
    (now : Instant)
    (id : Nat)
    (event : AlarmEvent)
    (newStatus : String)
    (user : Option Nat)
    (actionNote : String)
    (store : AlertStore) :
    Except String String × AlertStore :=
  match requestedStatus? event newStatus with
  | none =>
      (.error (transitionError event newStatus), store)
  | some status =>
      (.ok newStatus,
        store.saveStatus now id status user actionNote)

inductive StatusReply where
  | notFound
  | error (message : String)
  | ok (newStatus : String)
  deriving DecidableEq, Repr

/- One request to change a status. -/
structure StatusCall where
  now : Instant
  id : Nat
  newStatus : String
  user : Option Nat
  actionNote : String
  deriving DecidableEq, Repr

/- `change_event_status_view`. -/
def changeEventStatusView
    (store : AlertStore)
    (call : StatusCall) :
    StatusReply × AlertStore :=
  match store.events.get? call.id with
  | none => (.notFound, store)
  | some event =>
      match changeEventStatus call.now call.id event
          call.newStatus call.user (strip call.actionNote)
          store with
      | (.error message, later) => (.error message, later)
      | (.ok newStatus, later) => (.ok newStatus, later)

end Alerts

end Icmp2

------------------------------------------------------------
-- Operations
------------------------------------------------------------

namespace Icmp2

namespace Alerts

open Monitoring AiEngine Library

/- OPEN and without a closing time, as events are created. -/
structure AlarmEvent.IsFresh
    (event : AlarmEvent) :
    Prop where
  opened : event.eventStatus = .«open»
  unclosed : event.closedAt = none

abbrev FreshEvent : Type :=
  { event : AlarmEvent // event.IsFresh }

/- The operations on events, and the editing of rules. -/
inductive StoreOp where
  | create (fresh : FreshEvent)
  | gas
      (now : Instant)
      (policies : List ThresholdPolicy)
      (device : Device)
      (reading : GasReading)
  | power (call : PowerCall)
  | anomaly
      (now : Instant)
      (device : Device)
      (results : List ZscoreResult)
  | changePoint
      (now : Instant)
      (device : Device)
      (results : List ChangePointResult)
  | isolationForest
      (now : Instant)
      (device : Device)
      (result : Option IfResult)
  | isolationForestPower
      (now : Instant)
      (device : Device)
      (channel : PowerChannel)
      (result : Option IfResult)
  | forecast
      (now : Instant)
      (device : Device)
      (channel : Option DeviceChannel)
      (results : List ForecastPolicyResult)
  | missing
      (now : Instant)
      (missingTimeoutSeconds : Nat → Option Nat)
      (devices : List WatchedDevice)
  | status (call : StatusCall)
  | editRules (rules : List AlarmRule)

/- The store after an operation. -/
def storeStep
    (text : PowerText)
    (store : AlertStore) :
    StoreOp → AlertStore
  | .create fresh => store.createAlarmEvent fresh.1
  | .gas now policies device reading =>
      checkGasThresholds
        text.toFloatText now policies device reading store
  | .power call => powerStep text store call
  | .anomaly now device results =>
      triggerAnomalyAlarms
        text.toFloatText now device results store
  | .changePoint now device results =>
      triggerChangepointAlarms
        text.toFloatText now device results store
  | .isolationForest now device result =>
      triggerIfAnomalyAlarms now device result store
  | .isolationForestPower now device channel result =>
      triggerIfAnomalyAlarmsPower
        now device channel result store
  | .forecast now device channel results =>
      triggerForecastAlarms now device channel results store
  | .missing now missingTimeoutSeconds devices =>
      checkMissingDevices
        now missingTimeoutSeconds devices store
  | .status call => (changeEventStatusView store call).2
  | .editRules rules => { store with rules := rules }

/- A store without events. -/
def AlertStore.initial
    (rules : List AlarmRule) :
    AlertStore where
  rules := rules
  events := Table.empty
  histories := []
  notifications := []

end Alerts

end Icmp2

------------------------------------------------------------
-- Writes
------------------------------------------------------------

namespace Icmp2

namespace Alerts

open Monitoring AiEngine Library

/- A refresh that leaves status and closing time alone. -/
def KeepsStatus
    (refresh : AlarmEvent → AlarmEvent) :
    Prop :=
  ∀ event,
    (refresh event).eventStatus = event.eventStatus ∧
      (refresh event).closedAt = event.closedAt

/- One write of an operation that no operator requests. -/
inductive Write : AlertStore → AlertStore → Prop where
  | edit
      (store : AlertStore)
      (rules : List AlarmRule) :
      Write store { store with rules := rules }
  | create
      (store : AlertStore)
      {fresh : AlarmEvent}
      (hFresh : fresh.IsFresh) :
      Write store (store.createAlarmEvent fresh)
  | refresh
      (store : AlertStore)
      (id : Nat)
      {refresh : AlarmEvent → AlarmEvent}
      (hKeeps : KeepsStatus refresh) :
      Write store (store.refreshEvent id refresh)
  | close
      {store : AlertStore}
      (now : Instant)
      {id : Nat}
      {event : AlarmEvent}
      (note : String)
      (hGet : store.events.get? id = some event)
      (hOpen : event.eventStatus = .«open») :
      Write store (store.autoClose now id note)

/- A sequence of writes. -/
abbrev Writes :
    AlertStore → AlertStore → Prop :=
  Relation.ReflTransGen Write

/- What every write keeps, a sequence of them keeps. -/
theorem Writes.invariant
    {I : AlertStore → Prop}
    (hWrite :
      ∀ before after, I before → Write before after →
        I after)
    {before after : AlertStore}
    (hWrites : Writes before after)
    (hBefore : I before) :
    I after := by
  induction hWrites with
  | refl => exact hBefore
  | tail _ hLast ih => exact hWrite _ _ ih hLast

/- A run of rounds that write is a sequence of writes. -/
theorem writes_run
    {O : Type}
    {step : AlertStore → O → AlertStore}
    (hStep : ∀ store op, Writes store (step store op))
    (store : AlertStore)
    (ops : List O) :
    Writes store (run step store ops) :=
  run_invariant
    (I := fun later => Writes store later)
    (fun later op hLater => hLater.trans (hStep later op))
    Relation.ReflTransGen.refl ops

/- A verdict that refreshes and creates as it should. -/
def Verdict.Regular : Verdict → Prop
  | .hold => True
  | .recovered _ => True
  | .raised refresh fresh =>
      KeepsStatus refresh ∧ fresh.IsFresh

/- A step on a selection of OPEN events only writes. -/
theorem writes_reuseOpen
    (store : AlertStore)
    (now : Instant)
    {p : AlarmEvent → Prop}
    [DecidablePred p]
    (hOpen :
      ∀ event, p event → event.eventStatus = .«open»)
    {verdict : Verdict}
    (hRegular : verdict.Regular) :
    Writes store (store.reuseOpen now p verdict) := by
  cases hLatest : store.latest p with
  | none =>
      cases verdict with
      | hold => exact Relation.ReflTransGen.refl
      | recovered note =>
          rw [AlertStore.reuseOpen_recovered_of_none
            now note hLatest]
      | raised refresh fresh =>
          rw [AlertStore.reuseOpen_raised_of_none
            now refresh fresh hLatest]
          exact
            Relation.ReflTransGen.single
              (Write.create store hRegular.2)
  | some best =>
      have hNewest :=
        (AlertStore.latest_eq_some_iff best).mp hLatest
      cases verdict with
      | hold => exact Relation.ReflTransGen.refl
      | recovered note =>
          rw [AlertStore.reuseOpen_recovered_of_some
            now note hLatest]
          exact
            Relation.ReflTransGen.single
              (Write.close now note hNewest.get
                (hOpen best.2 hNewest.selected))
      | raised refresh fresh =>
          rw [AlertStore.reuseOpen_raised_of_some
            now refresh fresh hLatest]
          exact
            Relation.ReflTransGen.single
              (Write.refresh store best.1 hRegular.1)

end Alerts

end Icmp2

------------------------------------------------------------
-- The Writes of the Operations
------------------------------------------------------------

namespace Icmp2

namespace Alerts

open Monitoring AiEngine Library

theorem keepsStatus_refresh
    {now : Instant}
    {message : String}
    {value : Option ℚ} :
    KeepsStatus (AlarmEvent.refresh now message value) :=
  fun _ => ⟨rfl, rfl⟩

theorem isFresh_newEvent
    {ruleType : RuleType}
    {now : Instant}
    {rule : RuleOf ruleType}
    {facility device : Nat}
    {channel : Option Nat}
    {severity : Severity}
    {origin : Origin}
    {message : String}
    {value : Option ℚ}
    {hTyped : origin.ruleType = ruleType}
    {hGraded : origin.FromThreshold → severity.IsAlarm} :
    (newEvent now rule facility device channel severity
      origin message value hTyped hGraded).IsFresh :=
  ⟨rfl, rfl⟩

theorem openUnder_open
    (rule : RuleKey)
    (device : Nat) :
    ∀ event,
      OpenUnder rule device event →
      event.eventStatus = .«open» :=
  fun _ hUnder => hUnder.2.2

theorem writes_checkGasThresholds
    (text : FloatText)
    (now : Instant)
    (policies : List ThresholdPolicy)
    (device : Device)
    (reading : GasReading)
    (store : AlertStore) :
    Writes store
      (checkGasThresholds
        text now policies device reading store) := by
  unfold checkGasThresholds
  split
  · exact Relation.ReflTransGen.refl
  · split
    · exact Relation.ReflTransGen.refl
    · split
      · exact Relation.ReflTransGen.refl
      · apply writes_reuseOpen store now
          (openUnder_open _ _)
        unfold thresholdVerdict
        split
        · trivial
        · exact ⟨fun _ => ⟨rfl, rfl⟩, isFresh_newEvent⟩

theorem writes_powerStep
    (text : PowerText)
    (store : AlertStore)
    (call : PowerCall) :
    Writes store (powerStep text store call) := by
  unfold powerStep checkPowerThresholds
  split
  · exact Relation.ReflTransGen.refl
  · split
    · exact Relation.ReflTransGen.refl
    · split
      · exact Relation.ReflTransGen.refl
      · split
        · exact Relation.ReflTransGen.refl
        · split
          · exact Relation.ReflTransGen.refl
          · exact
              Relation.ReflTransGen.single
                (Write.create store isFresh_newEvent)

theorem writes_triggerAnomalyAlarms
    (text : FloatText)
    (now : Instant)
    (device : Device)
    (results : List ZscoreResult)
    (store : AlertStore) :
    Writes store
      (triggerAnomalyAlarms
        text now device results store) := by
  unfold triggerAnomalyAlarms
  split
  · exact Relation.ReflTransGen.refl
  · split
    · exact Relation.ReflTransGen.refl
    · split
      · exact Relation.ReflTransGen.refl
      · exact
          writes_reuseOpen store now
            (fun _ hAnomaly => hAnomaly.1.2.2)
            ⟨keepsStatus_refresh, isFresh_newEvent⟩

theorem writes_changePointRound
    (text : FloatText)
    (now : Instant)
    (rule : RuleOf .threshold)
    (facility device : Nat)
    (store : AlertStore)
    (result : ChangePointResult) :
    Writes store
      (changePointRound
        text now rule facility device store result) := by
  apply writes_reuseOpen store now
    (fun _ hPoint => hPoint.1.1.2.2)
  unfold changePointVerdict
  split
  · trivial
  · exact ⟨keepsStatus_refresh, isFresh_newEvent⟩
  · trivial

theorem writes_triggerChangepointAlarms
    (text : FloatText)
    (now : Instant)
    (device : Device)
    (results : List ChangePointResult)
    (store : AlertStore) :
    Writes store
      (triggerChangepointAlarms
        text now device results store) := by
  unfold triggerChangepointAlarms
  split
  · exact Relation.ReflTransGen.refl
  · split
    · exact Relation.ReflTransGen.refl
    · exact
        writes_run
          (writes_changePointRound text now _ _ device.id)
          store results

theorem writes_triggerIfAnomalyAlarms
    (now : Instant)
    (device : Device)
    (result : Option IfResult)
    (store : AlertStore) :
    Writes store
      (triggerIfAnomalyAlarms
        now device result store) := by
  unfold triggerIfAnomalyAlarms
  split
  · split
    · exact Relation.ReflTransGen.refl
    · apply writes_reuseOpen store now
        (openUnder_open _ _)
      unfold ifVerdict
      split
      · trivial
      · trivial
      · exact ⟨keepsStatus_refresh, isFresh_newEvent⟩
  · exact Relation.ReflTransGen.refl

theorem writes_triggerIfAnomalyAlarmsPower
    (now : Instant)
    (device : Device)
    (channel : PowerChannel)
    (result : Option IfResult)
    (store : AlertStore) :
    Writes store
      (triggerIfAnomalyAlarmsPower
        now device channel result store) := by
  unfold triggerIfAnomalyAlarmsPower
  split
  · split
    · exact Relation.ReflTransGen.refl
    · apply writes_reuseOpen store now
        (fun _ hChannel => hChannel.1.2.2)
      unfold ifPowerVerdict
      split
      · trivial
      · trivial
      · exact ⟨keepsStatus_refresh, isFresh_newEvent⟩
  · exact Relation.ReflTransGen.refl

theorem writes_forecastRound
    (now : Instant)
    (rule : RuleOf .forecast)
    (facility device : Nat)
    (channel : Option DeviceChannel)
    (store : AlertStore)
    (result : ForecastPolicyResult) :
    Writes store
      (forecastRound
        now rule facility device channel store result) := by
  apply writes_reuseOpen store now
    (fun _ hForecast => hForecast.1.2.2)
  unfold forecastVerdict
  split
  · exact ⟨keepsStatus_refresh, isFresh_newEvent⟩
  · exact ⟨keepsStatus_refresh, isFresh_newEvent⟩
  · trivial
  · trivial
  · trivial

theorem writes_triggerForecastAlarms
    (now : Instant)
    (device : Device)
    (channel : Option DeviceChannel)
    (results : List ForecastPolicyResult)
    (store : AlertStore) :
    Writes store
      (triggerForecastAlarms
        now device channel results store) := by
  unfold triggerForecastAlarms
  split
  · exact Relation.ReflTransGen.refl
  · split
    · exact Relation.ReflTransGen.refl
    · split
      · exact Relation.ReflTransGen.refl
      · exact
          writes_run
            (writes_forecastRound now _ _ device.id
              channel)
            store results

/- Both loops of the check over the devices write. -/
theorem writes_missingRound
    (now : Instant)
    (rule : RuleOf .missing)
    (seconds : Nat)
    (store : AlertStore)
    (device : WatchedDevice) :
    Writes store
      (missingRound now rule seconds store device) := by
  unfold missingRound
  split
  · split
    · exact
        writes_reuseOpen store now (openUnder_open _ _)
          ⟨fun _ => ⟨rfl, rfl⟩, isFresh_newEvent⟩
    · exact Relation.ReflTransGen.refl
  · exact Relation.ReflTransGen.refl

theorem writes_recoveredRound
    (now : Instant)
    (rule : RuleOf .missing)
    (seconds : Nat)
    (store : AlertStore)
    (device : WatchedDevice) :
    Writes store
      (recoveredRound now rule seconds store device) := by
  unfold recoveredRound
  split
  · split
    · exact
        writes_reuseOpen store now (openUnder_open _ _)
          trivial
    · exact Relation.ReflTransGen.refl
  · exact Relation.ReflTransGen.refl

theorem writes_checkMissingDevices
    (now : Instant)
    (missingTimeoutSeconds : Nat → Option Nat)
    (devices : List WatchedDevice)
    (store : AlertStore) :
    Writes store
      (checkMissingDevices
        now missingTimeoutSeconds devices store) := by
  refine writes_run (fun later rule => ?_) store _
  have hMissing :=
    writes_run (writes_missingRound now rule.1 rule.2)
      later devices
  exact
    hMissing.trans
      (writes_run (writes_recoveredRound now rule.1 rule.2)
        _ devices)

/- Every operation but a status change only writes. -/
theorem writes_storeStep
    (text : PowerText)
    (store : AlertStore)
    (op : StoreOp)
    (hOp : ∀ call, op ≠ .status call) :
    Writes store (storeStep text store op) := by
  cases op with
  | create fresh =>
      exact
        Relation.ReflTransGen.single
          (Write.create store fresh.2)
  | gas now policies device reading =>
      exact writes_checkGasThresholds _ _ _ _ _ _
  | power call => exact writes_powerStep text store call
  | anomaly now device results =>
      exact writes_triggerAnomalyAlarms _ _ _ _ _
  | changePoint now device results =>
      exact writes_triggerChangepointAlarms _ _ _ _ _
  | isolationForest now device result =>
      exact writes_triggerIfAnomalyAlarms _ _ _ _
  | isolationForestPower now device channel result =>
      exact writes_triggerIfAnomalyAlarmsPower _ _ _ _ _
  | forecast now device channel results =>
      exact writes_triggerForecastAlarms _ _ _ _ _
  | missing now missingTimeoutSeconds devices =>
      exact writes_checkMissingDevices _ _ _ _
  | status call => exact absurd rfl (hOp call)
  | editRules rules =>
      exact
        Relation.ReflTransGen.single
          (Write.edit store rules)

end Alerts

end Icmp2

------------------------------------------------------------
-- Requested Changes
------------------------------------------------------------

namespace Icmp2

namespace Alerts

open Monitoring AiEngine Library

/- A request finds its status in the transition table. -/
theorem requestedStatus?_eq_some
    {event : AlarmEvent}
    {newStatus : String}
    {status : EventStatus}
    (hStatus :
      requestedStatus? event newStatus = some status) :
    status ∈ allowedTransitions event.eventStatus ∧
      status.text = newStatus := by
  refine ⟨List.mem_of_find?_eq_some hStatus, ?_⟩
  simpa using List.find?_some hStatus

/- What a request to change a status does to the store. -/
theorem changeEventStatusView_cases
    (store : AlertStore)
    (call : StatusCall) :
    (∃ event status,
      store.events.get? call.id = some event ∧
        requestedStatus? event call.newStatus =
          some status ∧
        changeEventStatusView store call =
          (.ok call.newStatus,
            store.saveStatus call.now call.id status
              call.user (strip call.actionNote))) ∨
    (∃ event,
      store.events.get? call.id = some event ∧
        requestedStatus? event call.newStatus = none ∧
        changeEventStatusView store call =
          (.error (transitionError event call.newStatus),
            store)) ∨
    (store.events.get? call.id = none ∧
      changeEventStatusView store call =
        (.notFound, store)) := by
  unfold changeEventStatusView changeEventStatus
  cases hGet : store.events.get? call.id with
  | none => exact Or.inr (Or.inr ⟨rfl, rfl⟩)
  | some event =>
      cases hStatus :
          requestedStatus? event call.newStatus with
      | none =>
          exact
            Or.inr (Or.inl
              ⟨event, rfl, hStatus, by simp [hStatus]⟩)
      | some status =>
          exact
            Or.inl
              ⟨event, status, rfl, hStatus,
                by simp [hStatus]⟩

end Alerts

end Icmp2
