import Icmp2.Alerts.Event
import Icmp2.Library.Trace
import Icmp2.Monitoring.Thresholds

/-
  The detection steps of the alert services.

  Main definitions include:
    * `Icmp2.Alerts.checkGasThresholds`
    * `Icmp2.Alerts.triggerAnomalyAlarms`
    * `Icmp2.Alerts.triggerChangepointAlarms`
    * `Icmp2.Alerts.triggerIfAnomalyAlarms`
    * `Icmp2.Alerts.triggerForecastAlarms`

  Each step guards its inputs, looks up its rule, and hands
  a verdict on the latest event of its own selection to
  `AlertStore.reuseOpen`.  The steps differ in the
  selection and in the verdict.
-/

------------------------------------------------------------
-- Selections and Columns
------------------------------------------------------------

namespace Icmp2

namespace Alerts

open Monitoring AiEngine Library

/- OPEN events of a device under a rule. -/
def OpenUnder
    (rule : RuleKey)
    (device : Nat)
    (event : AlarmEvent) :
    Prop :=
  event.rule = rule ∧ event.device = some device ∧
    event.eventStatus = .«open»

instance
    (rule : RuleKey)
    (device : Nat) :
    DecidablePred (OpenUnder rule device) := by
  intro event
  unfold OpenUnder
  infer_instance

/- A new OPEN event. -/
def newEvent
    {ruleType : RuleType}
    (now : Instant)
    (rule : RuleOf ruleType)
    (facility device : Nat)
    (channel : Option Nat)
    (severity : Severity)
    (origin : Origin)
    (message : String)
    (currentValue : Option ℚ)
    (hTyped : origin.ruleType = ruleType)
    (hGraded : origin.FromThreshold → severity.IsAlarm) :
    AlarmEvent where
  rule := rule.1
  facility := facility
  device := some device
  channel := channel
  severity := severity
  eventType := rule.1.ruleType.eventType
  origin := origin
  message := message
  currentValue := currentValue
  eventStatus := .«open»
  occurredAt := now
  lastSeenAt := some now
  closedAt := none
  typed := hTyped.trans rule.2.symm
  graded := hGraded

namespace AlarmEvent

/- The refreshed columns of STEP D, E, F and G. -/
def refresh
    (now : Instant)
    (message : String)
    (currentValue : Option ℚ)
    (event : AlarmEvent) :
    AlarmEvent :=
  { event with
    lastSeenAt := some now
    currentValue := currentValue
    message := message }

/- STEP B refreshes the severity as well. -/
def refreshAlarm
    (now : Instant)
    (severity : Severity)
    (hSeverity : severity.IsAlarm)
    (message : String)
    (currentValue : Option ℚ)
    (event : AlarmEvent) :
    AlarmEvent :=
  { event with
    lastSeenAt := some now
    currentValue := currentValue
    severity := severity
    message := message
    graded := fun _ => hSeverity }

end AlarmEvent

end Alerts

end Icmp2

------------------------------------------------------------
-- STEP B
------------------------------------------------------------

namespace Icmp2

namespace Alerts

open Monitoring AiEngine Library

/- The severity of the highest reported level. -/
def thresholdSeverity
    (exceeded : List Exceeded) :
    Severity :=
  if exceeded.any fun entry => entry.level = .danger then
    .danger
  else
    .warning

theorem thresholdSeverity_isAlarm
    (exceeded : List Exceeded) :
    (thresholdSeverity exceeded).IsAlarm := by
  unfold thresholdSeverity
  split
  · exact Or.inl rfl
  · exact Or.inr rfl

/- `max` of a list; the list is not empty where used. -/
def maxValue : List ℚ → ℚ
  | [] => 0
  | value :: values => values.foldl max value

/- The message of a threshold alarm. -/
def thresholdMessage
    (text : FloatText)
    (exceeded : List Exceeded) :
    String :=
  commaJoin
    (exceeded.map fun entry =>
      upper entry.gas ++ ": " ++ text.str entry.value ++
        " (" ++ entry.level.label ++ ")")

/- The value of a threshold alarm. -/
def thresholdValue
    (exceeded : List Exceeded) :
    Option ℚ :=
  some (maxValue (exceeded.map Exceeded.value))

/- The event that STEP B creates. -/
def thresholdEvent
    (text : FloatText)
    (now : Instant)
    (rule : RuleOf .threshold)
    (facility device : Nat)
    (exceeded : List Exceeded) :
    AlarmEvent :=
  newEvent now rule facility device none
    (thresholdSeverity exceeded)
    (.threshold (exceeded.map Exceeded.gas))
    (thresholdMessage text exceeded)
    (thresholdValue exceeded)
    rfl
    (fun _ => thresholdSeverity_isAlarm exceeded)

/- The columns that STEP B writes into an open event. -/
def thresholdRefresh
    (text : FloatText)
    (now : Instant)
    (exceeded : List Exceeded) :
    AlarmEvent → AlarmEvent :=
  AlarmEvent.refreshAlarm now
    (thresholdSeverity exceeded)
    (thresholdSeverity_isAlarm exceeded)
    (thresholdMessage text exceeded)
    (thresholdValue exceeded)

/- STEP B closes when nothing is exceeded. -/
def thresholdVerdict
    (text : FloatText)
    (now : Instant)
    (rule : RuleOf .threshold)
    (facility device : Nat)
    (exceeded : List Exceeded) :
    Verdict :=
  if exceeded = [] then
    .recovered "센서값 정상 복귀로 자동 종료"
  else
    .raised
      (thresholdRefresh text now exceeded)
      (thresholdEvent text now rule facility device
        exceeded)

/- STEP B, `check_gas_thresholds`. -/
def checkGasThresholds
    (text : FloatText)
    (now : Instant)
    (policies : List ThresholdPolicy)
    (device : Device)
    (reading : GasReading)
    (store : AlertStore) :
    AlertStore :=
  match device.facility with
  | none => store
  | some facility =>
      if reading.qualityFlag ≠ .ok then
        store
      else
        match activeRule store.rules .threshold with
        | none => store
        | some rule =>
            store.reuseOpen now
              (OpenUnder rule.1 device.id)
              (thresholdVerdict text now rule facility
                device.id
                (checkThresholdExceeded
                  policies reading alarmScope))

end Alerts

end Icmp2

------------------------------------------------------------
-- STEP D
------------------------------------------------------------

namespace Icmp2

namespace Alerts

open Monitoring AiEngine Library

/-
  The final status of a Z-score result.  Only a warning is
  read further, with its score.
-/
inductive ZscoreStatus where
  | critical
  | anomalyWarning (zScore : ℚ)
  | normal
  deriving DecidableEq, Repr

structure ZscoreResult where
  metric : Gas
  value : ℚ
  finalStatus : ZscoreStatus
  deriving DecidableEq, Repr

/- One anomaly: gas, value and score. -/
structure Anomaly where
  metric : Gas
  value : ℚ
  zScore : ℚ
  deriving DecidableEq, Repr

/- The results with status `ANOMALY_WARNING`. -/
def anomalies
    (results : List ZscoreResult) :
    List Anomaly :=
  results.filterMap fun result =>
    match result.finalStatus with
    | .anomalyWarning zScore =>
        some ⟨result.metric, result.value, zScore⟩
    | _ => none

/- The message of a statistical anomaly. -/
def anomalyMessage
    (text : FloatText)
    (found : List Anomaly) :
    String :=
  commaJoin
    (found.map fun anomaly =>
      upper anomaly.metric.name ++ ": " ++
        text.str anomaly.value ++ " (z=" ++
        text.fixed2 anomaly.zScore ++ ")")

/- The value of a statistical anomaly. -/
def anomalyValue
    (found : List Anomaly) :
    Option ℚ :=
  some (maxValue (found.map fun anomaly => |anomaly.zScore|))

/- OPEN anomaly events of a device under a rule. -/
def OpenAnomaly
    (rule : RuleKey)
    (device : Nat)
    (event : AlarmEvent) :
    Prop :=
  OpenUnder rule device event ∧ event.severity = .anomaly

instance
    (rule : RuleKey)
    (device : Nat) :
    DecidablePred (OpenAnomaly rule device) := by
  intro event
  unfold OpenAnomaly
  infer_instance

/- STEP D never closes. -/
def anomalyVerdict
    (text : FloatText)
    (now : Instant)
    (rule : RuleOf .threshold)
    (facility device : Nat)
    (found : List Anomaly) :
    Verdict :=
  .raised
    (AlarmEvent.refresh now
      (anomalyMessage text found) (anomalyValue found))
    (newEvent now rule facility device none
      .anomaly
      (.anomaly (found.map Anomaly.metric))
      (anomalyMessage text found)
      (anomalyValue found)
      rfl
      (fun hFrom => hFrom.elim))

/- STEP D, `trigger_anomaly_alarms`. -/
def triggerAnomalyAlarms
    (text : FloatText)
    (now : Instant)
    (device : Device)
    (results : List ZscoreResult)
    (store : AlertStore) :
    AlertStore :=
  match device.facility with
  | none => store
  | some facility =>
      if anomalies results = [] then
        store
      else
        match activeRule store.rules .threshold with
        | none => store
        | some rule =>
            store.reuseOpen now
              (OpenAnomaly rule.1 device.id)
              (anomalyVerdict text now rule facility
                device.id (anomalies results))

end Alerts

end Icmp2

------------------------------------------------------------
-- STEP E
------------------------------------------------------------

namespace Icmp2

namespace Alerts

open Monitoring AiEngine Library

inductive ChangePointEvent where
  | changePoint
  | backToStable
  deriving DecidableEq, Repr

structure ChangePointResult where
  metric : Gas
  prevMean : ℚ
  currMean : ℚ
  meanShiftScore : ℚ
  stdRatio : ℚ
  event : Option ChangePointEvent
  deriving DecidableEq, Repr

/- The tag by which STEP E finds the event of a gas. -/
def changePointTag
    (gas : Gas) :
    String :=
  "[CP] " ++ upper gas.name

/- OPEN anomaly events whose title contains the tag. -/
def OpenChangePoint
    (rule : RuleKey)
    (device : Nat)
    (gas : Gas)
    (event : AlarmEvent) :
    Prop :=
  OpenAnomaly rule device event ∧
    Contains event.title (changePointTag gas)

instance
    (rule : RuleKey)
    (device : Nat)
    (gas : Gas) :
    DecidablePred (OpenChangePoint rule device gas) := by
  intro event
  unfold OpenChangePoint
  infer_instance

/- The message of a change point. -/
def changePointMessage
    (text : FloatText)
    (result : ChangePointResult) :
    String :=
  "이전 평균 " ++ text.fixed2 result.prevMean ++
    " → 현재 평균 " ++ text.fixed2 result.currMean ++
    " (평균 이동량: " ++
    text.fixed2 result.meanShiftScore ++
    ", 표준편차 비율: " ++ text.fixed2 result.stdRatio ++
    ")"

/- The event that STEP E creates. -/
def changePointAlarm
    (text : FloatText)
    (now : Instant)
    (rule : RuleOf .threshold)
    (facility device : Nat)
    (result : ChangePointResult) :
    AlarmEvent :=
  newEvent now rule facility device none
    .anomaly
    (.changePoint result.metric)
    (changePointMessage text result)
    (some result.meanShiftScore)
    rfl
    (fun hFrom => hFrom.elim)

/- What STEP E says about one result. -/
def changePointVerdict
    (text : FloatText)
    (now : Instant)
    (rule : RuleOf .threshold)
    (facility device : Nat)
    (result : ChangePointResult) :
    Verdict :=
  match result.event with
  | none => .hold
  | some .changePoint =>
      .raised
        (AlarmEvent.refresh now
          (changePointMessage text result)
          (some result.meanShiftScore))
        (changePointAlarm text now rule facility device
          result)
  | some .backToStable =>
      .recovered
        (upper result.metric.name ++
          " 상태 안정화로 자동 종료")

/- One round of the loop of STEP E. -/
def changePointRound
    (text : FloatText)
    (now : Instant)
    (rule : RuleOf .threshold)
    (facility device : Nat)
    (store : AlertStore)
    (result : ChangePointResult) :
    AlertStore :=
  store.reuseOpen now
    (OpenChangePoint rule.1 device result.metric)
    (changePointVerdict text now rule facility device
      result)

/- STEP E, `trigger_changepoint_alarms`. -/
def triggerChangepointAlarms
    (text : FloatText)
    (now : Instant)
    (device : Device)
    (results : List ChangePointResult)
    (store : AlertStore) :
    AlertStore :=
  match device.facility with
  | none => store
  | some facility =>
      match activeRule store.rules .threshold with
      | none => store
      | some rule =>
          run
            (changePointRound text now rule facility
              device.id)
            store results

end Alerts

end Icmp2

------------------------------------------------------------
-- STEP F
------------------------------------------------------------

namespace Icmp2

namespace Alerts

open Monitoring AiEngine Library

inductive IfLevel where
  | normal
  | caution
  | unknown
  deriving DecidableEq, Repr

structure IfResult where
  level : IfLevel
  mahalanobisDistance : Option ℚ
  reason : String
  deriving DecidableEq, Repr

/- What STEP F says about a result. -/
def ifVerdict
    (now : Instant)
    (rule : RuleOf .ai)
    (facility device : Nat)
    (result : IfResult) :
    Verdict :=
  match result.level with
  | .unknown => .hold
  | .normal => .recovered "IF 분포 정상 복귀로 자동 종료"
  | .caution =>
      let message :=
        "[IF] 가스 9채널 분포 이상 — " ++ result.reason
      .raised
        (AlarmEvent.refresh now message
          result.mahalanobisDistance)
        (newEvent now rule facility device none
          .anomaly
          .isolationForest
          message
          result.mahalanobisDistance
          rfl
          (fun hFrom => hFrom.elim))

/- STEP F, `trigger_if_anomaly_alarms`. -/
def triggerIfAnomalyAlarms
    (now : Instant)
    (device : Device)
    (result : Option IfResult)
    (store : AlertStore) :
    AlertStore :=
  match result, device.facility with
  | some result, some facility =>
      match activeRule store.rules .ai with
      | none => store
      | some rule =>
          store.reuseOpen now
            (OpenUnder rule.1 device.id)
            (ifVerdict now rule facility device.id result)
  | _, _ => store

end Alerts

end Icmp2

------------------------------------------------------------
-- STEP G
------------------------------------------------------------

namespace Icmp2

namespace Alerts

open Monitoring AiEngine Library

/- The code of a channel, for titles. -/
def channelCode
    (channel : Option DeviceChannel) :
    Option ChannelCode :=
  channel.map DeviceChannel.channelCode

/- The tag by which STEP G finds the event of a sensor. -/
def forecastTag
    (code : Option ChannelCode)
    (sensor : SensorType) :
    String :=
  titlePrefix code ++ " " ++ upper sensor.name

/- The channel filter, set only where a channel is given. -/
def OnChannel
    (channel : Option DeviceChannel)
    (event : AlarmEvent) :
    Prop :=
  match channel with
  | none => True
  | some channel => event.channel = some channel.id

instance
    (channel : Option DeviceChannel) :
    DecidablePred (OnChannel channel) := by
  intro event
  unfold OnChannel
  cases channel with
  | none => infer_instance
  | some channel => infer_instance

/- OPEN events whose title contains the tag. -/
def OpenForecast
    (rule : RuleKey)
    (device : Nat)
    (channel : Option DeviceChannel)
    (sensor : SensorType)
    (event : AlarmEvent) :
    Prop :=
  OpenUnder rule device event ∧
    Contains event.title
      (forecastTag (channelCode channel) sensor) ∧
    OnChannel channel event

instance
    (rule : RuleKey)
    (device : Nat)
    (channel : Option DeviceChannel)
    (sensor : SensorType) :
    DecidablePred
      (OpenForecast rule device channel sensor) := by
  intro event
  unfold OpenForecast
  infer_instance

/- The forecast step of the headline. -/
def headlineEta
    (result : ForecastPolicyResult) :
    Option Nat :=
  if result.headlineSeverity = some .danger then
    result.dangerEtaStep
  else
    result.cautionEtaStep

/- The message of a predictive warning. -/
def forecastMessage
    (channel : Option DeviceChannel)
    (result : ForecastPolicyResult) :
    String :=
  forecastTag (channelCode channel) result.sensorType ++
    " " ++
    (match result.headlineSeverity with
    | none => "주의"
    | some axis => axis.name) ++
    " 임계 도달 예상 (ETA " ++
    (match headlineEta result with
    | none => "None"
    | some eta =>
        String.ofList (Nat.toDigits 10 eta)) ++
    "스텝) — " ++ result.reason

/- The value of a predictive warning. -/
def forecastValue
    (result : ForecastPolicyResult) :
    Option ℚ :=
  (headlineEta result).map fun eta => (eta : ℚ)

/- The event that STEP G creates. -/
def forecastEvent
    (now : Instant)
    (rule : RuleOf .forecast)
    (facility device : Nat)
    (channel : Option DeviceChannel)
    (result : ForecastPolicyResult) :
    AlarmEvent :=
  newEvent now rule facility device
    (channel.map DeviceChannel.id)
    .predictiveWarning
    (.forecast (channelCode channel) result.sensorType)
    (forecastMessage channel result)
    (forecastValue result)
    rfl
    (fun hFrom => hFrom.elim)

/- What STEP G says about one result. -/
def forecastVerdict
    (now : Instant)
    (rule : RuleOf .forecast)
    (facility device : Nat)
    (channel : Option DeviceChannel)
    (result : ForecastPolicyResult) :
    Verdict :=
  match result.headlineConfidence with
  | .confirmedWarning | .confirmedStrong =>
      .raised
        (AlarmEvent.refresh now
          (forecastMessage channel result)
          (forecastValue result))
        (forecastEvent now rule facility device channel
          result)
  | .normal =>
      .recovered
        (upper result.sensorType.name ++
          " 예측 정상 복귀로 자동 종료")
  | .tentative | .unknown => .hold

/- One round of the loop of STEP G. -/
def forecastRound
    (now : Instant)
    (rule : RuleOf .forecast)
    (facility device : Nat)
    (channel : Option DeviceChannel)
    (store : AlertStore)
    (result : ForecastPolicyResult) :
    AlertStore :=
  store.reuseOpen now
    (OpenForecast rule.1 device channel result.sensorType)
    (forecastVerdict now rule facility device channel
      result)

/- STEP G, `trigger_forecast_alarms`. -/
def triggerForecastAlarms
    (now : Instant)
    (device : Device)
    (channel : Option DeviceChannel)
    (results : List ForecastPolicyResult)
    (store : AlertStore) :
    AlertStore :=
  match device.facility with
  | none => store
  | some facility =>
      if results = [] then
        store
      else
        match activeRule store.rules .forecast with
        | none => store
        | some rule =>
            run
              (forecastRound now rule facility device.id
                channel)
              store results

end Alerts

end Icmp2
