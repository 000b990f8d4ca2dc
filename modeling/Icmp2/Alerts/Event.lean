import Icmp2.AiEngine.ForecastPolicy
import Icmp2.Library.Table
import Mathlib.Data.Rat.Init

/-
  Alarm rules, alarm events and the alert store.

  Main definitions include:
    * `Icmp2.Alerts.AlarmRule`
    * `Icmp2.Alerts.Origin`
    * `Icmp2.Alerts.AlarmEvent`
    * `Icmp2.Alerts.AlertStore`
    * `Icmp2.Alerts.AlertStore.createAlarmEvent`
    * `Icmp2.Alerts.AlertStore.reuseOpen`

  Main theorems include:
    * `Icmp2.Alerts.AlertStore.get?_reuseOpen_newest`
    * `Icmp2.Alerts.AlertStore.get?_reuseOpen_of_ne`
    * `Icmp2.Alerts.AlertStore.get?_reuseOpen_of_not`
    * `Icmp2.Alerts.AlertStore.get?_reuseOpen_cases`
-/

------------------------------------------------------------
-- Rules
------------------------------------------------------------

namespace Icmp2

namespace Alerts

open Monitoring AiEngine Library

inductive RuleType where
  | threshold
  | missing
  | power
  | ai
  | forecast
  deriving DecidableEq, Repr

/- What an event remembers of its rule. -/
structure RuleKey where
  id : Nat
  ruleType : RuleType
  deriving DecidableEq, Repr

structure AlarmRule extends RuleKey where
  isActive : Bool
  deriving DecidableEq, Repr

/- The rules of one type. -/
abbrev RuleOf
    (ruleType : RuleType) :
    Type :=
  { rule : RuleKey // rule.ruleType = ruleType }

/-
  The first active rule of a type; `rules` is ordered by
  id, as the model's `Meta.ordering` says.
-/
def activeRule
    (rules : List AlarmRule)
    (ruleType : RuleType) :
    Option (RuleOf ruleType) :=
  rules.findSome? fun rule =>
    if hRule :
        rule.ruleType = ruleType ∧ rule.isActive = true then
      some ⟨rule.toRuleKey, hRule.1⟩
    else
      none

end Alerts

end Icmp2

------------------------------------------------------------
-- Events
------------------------------------------------------------

namespace Icmp2

namespace Alerts

open Monitoring AiEngine Library

inductive Severity where
  | normal
  | warning
  | danger
  | anomaly
  | predictiveWarning
  deriving DecidableEq, Repr

inductive EventType where
  | gas
  | power
  | location
  | device
  deriving DecidableEq, Repr

inductive EventStatus where
  | «open»
  | acknowledged
  | closed
  deriving DecidableEq, Repr

/- `_RULE_TYPE_TO_EVENT_TYPE`. -/
def RuleType.eventType : RuleType → EventType
  | threshold => .gas
  | power => .power
  | missing => .device
  | ai => .gas
  | forecast => .gas

/- The channel codes of a power device. -/
inductive ChannelCode where
  | slave01
  | slave02
  | slave11
  | slave12
  | slave21
  | slave22
  | slave31
  | slave32
  | slave41
  | slave42
  | slave51
  | slave52
  | slave61
  | slave62
  | slave71
  | slave72
  deriving DecidableEq, Repr

/- The stored text of a channel code. -/
def ChannelCode.text : ChannelCode → String
  | slave01 => "slave01"
  | slave02 => "slave02"
  | slave11 => "slave11"
  | slave12 => "slave12"
  | slave21 => "slave21"
  | slave22 => "slave22"
  | slave31 => "slave31"
  | slave32 => "slave32"
  | slave41 => "slave41"
  | slave42 => "slave42"
  | slave51 => "slave51"
  | slave52 => "slave52"
  | slave61 => "slave61"
  | slave62 => "slave62"
  | slave71 => "slave71"
  | slave72 => "slave72"

structure DeviceChannel where
  id : Nat
  channelCode : ChannelCode
  deriving DecidableEq, Repr

/- `title_prefix` of STEP G: gas, or power by channel. -/
def titlePrefix : Option ChannelCode → String
  | none => "[예측]"
  | some code => "[예측·" ++ code.text ++ "]"

/-
  Who created an event and for what.  The title of an
  event is written at creation and never changed.
-/
inductive Origin where
  | threshold (gases : List String)
  | anomaly (gases : List Gas)
  | changePoint (gas : Gas)
  | isolationForest
  | isolationForestPower (label : String)
  | forecast
      (code : Option ChannelCode)
      (sensor : SensorType)
  | loadRate (label rate level : String)
  | missing (deviceUid : String)
  deriving DecidableEq, Repr

namespace Origin

/- The type of the rule under which an origin creates. -/
def ruleType : Origin → RuleType
  | threshold _ => .threshold
  | anomaly _ => .threshold
  | changePoint _ => .threshold
  | isolationForest => .ai
  | isolationForestPower _ => .ai
  | forecast _ _ => .forecast
  | loadRate _ _ _ => .power
  | missing _ => .missing

/- The title that an origin gives its event. -/
def title : Origin → String
  | threshold gases =>
      "[가스] " ++ commaJoin (gases.map upper) ++
        " 농도 이상 감지"
  | anomaly gases =>
      "[AI] " ++
        commaJoin (gases.map fun gas => upper gas.name) ++
        " 통계 이상 감지"
  | changePoint gas =>
      "[CP] " ++ upper gas.name ++ " 상태 변화 감지"
  | isolationForest =>
      "[IF] 가스 9채널 분포 이상 감지"
  | isolationForestPower label =>
      "[전력·IF] " ++ label ++ " 조합 이상 감지"
  | forecast code sensor =>
      titlePrefix code ++ " " ++ upper sensor.name ++
        " 사전 경고"
  | loadRate label rate level =>
      "[전력] " ++ label ++ " 부하율 " ++ rate ++ "% " ++
        level
  | missing deviceUid =>
      "[MISSING] " ++ deviceUid ++ " 데이터 미수신"

/- Created by STEP B. -/
def FromThreshold : Origin → Prop
  | threshold _ => True
  | _ => False

instance : DecidablePred FromThreshold
  | threshold _ => isTrue trivial
  | anomaly _ => isFalse id
  | changePoint _ => isFalse id
  | isolationForest => isFalse id
  | isolationForestPower _ => isFalse id
  | forecast _ _ => isFalse id
  | loadRate _ _ _ => isFalse id
  | missing _ => isFalse id

/- Created by STEP D. -/
def FromAnomaly : Origin → Prop
  | anomaly _ => True
  | _ => False

instance : DecidablePred FromAnomaly
  | threshold _ => isFalse id
  | anomaly _ => isTrue trivial
  | changePoint _ => isFalse id
  | isolationForest => isFalse id
  | isolationForestPower _ => isFalse id
  | forecast _ _ => isFalse id
  | loadRate _ _ _ => isFalse id
  | missing _ => isFalse id

/- Created by STEP E. -/
def FromChangePoint : Origin → Prop
  | changePoint _ => True
  | _ => False

instance : DecidablePred FromChangePoint
  | threshold _ => isFalse id
  | anomaly _ => isFalse id
  | changePoint _ => isTrue trivial
  | isolationForest => isFalse id
  | isolationForestPower _ => isFalse id
  | forecast _ _ => isFalse id
  | loadRate _ _ _ => isFalse id
  | missing _ => isFalse id

end Origin

/- One of the two severities of a threshold alarm. -/
def Severity.IsAlarm
    (severity : Severity) :
    Prop :=
  severity = .danger ∨ severity = .warning

instance
    (severity : Severity) :
    Decidable severity.IsAlarm := by
  unfold Severity.IsAlarm
  infer_instance

/-
  An alarm event.  Its rule has the type that its origin
  creates under, and an event of STEP B always carries one
  of the two alarm severities.
-/
structure AlarmEvent where
  rule : RuleKey
  facility : Nat
  device : Option Nat
  channel : Option Nat
  severity : Severity
  eventType : EventType
  origin : Origin
  message : String
  currentValue : Option ℚ
  eventStatus : EventStatus
  occurredAt : Instant
  lastSeenAt : Option Instant
  acknowledgedBy : Option Nat := none
  acknowledgedAt : Option Instant := none
  closedAt : Option Instant
  typed : origin.ruleType = rule.ruleType
  graded : origin.FromThreshold → severity.IsAlarm
  deriving DecidableEq

namespace AlarmEvent

/- The title of an event. -/
def title
    (event : AlarmEvent) :
    String :=
  event.origin.title

/- The event after an automatic closing. -/
def close
    (now : Instant)
    (event : AlarmEvent) :
    AlarmEvent :=
  { event with
    eventStatus := .closed
    closedAt := some now }

end AlarmEvent

/- One row of the event history. -/
structure EventHistory where
  alarmEvent : Nat
  actionType : String
  actionBy : Option Nat := none
  actionNote : String
  deriving DecidableEq, Repr

end Alerts

end Icmp2

------------------------------------------------------------
-- The Store
------------------------------------------------------------

namespace Icmp2

namespace Alerts

open Monitoring AiEngine Library

/-
  Rules, events, history, and the ids for which a task
  `send_all_notifications` was queued.
-/
structure AlertStore where
  rules : List AlarmRule
  events : Table AlarmEvent
  histories : List EventHistory
  notifications : List Nat
  deriving DecidableEq

/- What a detection step says when it meets its event. -/
inductive Verdict where
  | hold
  | recovered (note : String)
  | raised (refresh : AlarmEvent → AlarmEvent)
      (fresh : AlarmEvent)

namespace AlertStore

/- `order_by('-occurred_at').first()` on a selection. -/
def latest
    (store : AlertStore)
    (p : AlarmEvent → Prop)
    [DecidablePred p] :
    Option (Nat × AlarmEvent) :=
  store.events.newest? p AlarmEvent.occurredAt

/- The creation order of events. -/
def EventOlder
    (left right : Nat × AlarmEvent) :
    Prop :=
  Table.Older AlarmEvent.occurredAt left right

/- `create_alarm_event`: insert and queue the notice. -/
def createAlarmEvent
    (store : AlertStore)
    (event : AlarmEvent) :
    AlertStore :=
  { store with
    events := store.events.insert event
    notifications :=
      store.notifications ++ [store.events.nextId] }

/- Save the refreshed columns of one event. -/
def refreshEvent
    (store : AlertStore)
    (id : Nat)
    (refresh : AlarmEvent → AlarmEvent) :
    AlertStore :=
  { store with events := store.events.modify id refresh }

/- Close one event and log the closing. -/
def autoClose
    (store : AlertStore)
    (now : Instant)
    (id : Nat)
    (note : String) :
    AlertStore :=
  { store with
    events :=
      store.events.modify id (AlarmEvent.close now)
    histories :=
      store.histories ++
        [{ alarmEvent := id
           actionType := "close"
           actionNote := note }] }

/-
  The shape that the detection steps share: look up the
  latest event of a selection, then hold, close it, or
  refresh it, creating a fresh event if there is none.
-/
def reuseOpen
    (store : AlertStore)
    (now : Instant)
    (p : AlarmEvent → Prop)
    [DecidablePred p] :
    Verdict → AlertStore
  | .hold => store
  | .recovered note =>
      match store.latest p with
      | none => store
      | some (id, _) => store.autoClose now id note
  | .raised refresh fresh =>
      match store.latest p with
      | none => store.createAlarmEvent fresh
      | some (id, _) => store.refreshEvent id refresh

variable {store : AlertStore}
variable {p : AlarmEvent → Prop} [DecidablePred p]

theorem latest_eq_some_iff
    (best : Nat × AlarmEvent) :
    store.latest p = some best ↔
      store.events.IsNewest
        p AlarmEvent.occurredAt best :=
  Table.newest?_eq_some_iff _ _ _ _

theorem latest_eq_none_iff :
    store.latest p = none ↔
      ∀ id event,
        store.events.get? id = some event → ¬ p event :=
  Table.newest?_eq_none_iff _ _ _

theorem reuseOpen_recovered_of_none
    (now : Instant)
    (note : String)
    (hNone : store.latest p = none) :
    store.reuseOpen now p (.recovered note) = store := by
  simp [reuseOpen, hNone]

theorem reuseOpen_recovered_of_some
    (now : Instant)
    (note : String)
    {best : Nat × AlarmEvent}
    (hSome : store.latest p = some best) :
    store.reuseOpen now p (.recovered note) =
      store.autoClose now best.1 note := by
  simp [reuseOpen, hSome]

theorem reuseOpen_raised_of_none
    (now : Instant)
    (refresh : AlarmEvent → AlarmEvent)
    (fresh : AlarmEvent)
    (hNone : store.latest p = none) :
    store.reuseOpen now p (.raised refresh fresh) =
      store.createAlarmEvent fresh := by
  simp [reuseOpen, hNone]

theorem reuseOpen_raised_of_some
    (now : Instant)
    (refresh : AlarmEvent → AlarmEvent)
    (fresh : AlarmEvent)
    {best : Nat × AlarmEvent}
    (hSome : store.latest p = some best) :
    store.reuseOpen now p (.raised refresh fresh) =
      store.refreshEvent best.1 refresh := by
  simp [reuseOpen, hSome]

/- What a verdict writes into the event that it meets. -/
def write
    (now : Instant)
    (event : AlarmEvent) :
    Verdict → AlarmEvent
  | .hold => event
  | .recovered _ => event.close now
  | .raised refresh _ => refresh event

/- The newest selected event gets what the verdict writes. -/
theorem get?_reuseOpen_newest
    (now : Instant)
    (verdict : Verdict)
    {best : Nat × AlarmEvent}
    (hNewest :
      store.events.IsNewest
        p AlarmEvent.occurredAt best) :
    (store.reuseOpen now p verdict).events.get? best.1 =
      some (write now best.2 verdict) := by
  have hLatest := (latest_eq_some_iff best).mpr hNewest
  cases verdict with
  | hold => exact hNewest.get
  | recovered note =>
      rw [reuseOpen_recovered_of_some now note hLatest]
      simp only [autoClose, Table.get?_modify_self,
        hNewest.get, Option.map_some, write]
  | raised refresh fresh =>
      rw [reuseOpen_raised_of_some
        now refresh fresh hLatest]
      simp only [refreshEvent, Table.get?_modify_self,
        hNewest.get, Option.map_some, write]

/- Beside the newest selected event nothing is written. -/
theorem get?_reuseOpen_of_ne
    (now : Instant)
    (verdict : Verdict)
    {best : Nat × AlarmEvent}
    (hNewest :
      store.events.IsNewest
        p AlarmEvent.occurredAt best)
    {id : Nat}
    (hNe : best.1 ≠ id) :
    (store.reuseOpen now p verdict).events.get? id =
      store.events.get? id := by
  have hLatest := (latest_eq_some_iff best).mpr hNewest
  cases verdict with
  | hold => rfl
  | recovered note =>
      rw [reuseOpen_recovered_of_some now note hLatest]
      exact Table.get?_modify_of_ne _ _ hNe
  | raised refresh fresh =>
      rw [reuseOpen_raised_of_some
        now refresh fresh hLatest]
      exact Table.get?_modify_of_ne _ _ hNe

/- With a newest selected event nothing is inserted. -/
theorem nextId_reuseOpen
    (now : Instant)
    (verdict : Verdict)
    {best : Nat × AlarmEvent}
    (hNewest :
      store.events.IsNewest
        p AlarmEvent.occurredAt best) :
    (store.reuseOpen now p verdict).events.nextId =
        store.events.nextId ∧
      (store.reuseOpen now p verdict).notifications =
        store.notifications := by
  have hLatest := (latest_eq_some_iff best).mpr hNewest
  cases verdict with
  | hold => exact ⟨rfl, rfl⟩
  | recovered note =>
      rw [reuseOpen_recovered_of_some now note hLatest]
      exact ⟨Table.nextId_modify _ _ _, rfl⟩
  | raised refresh fresh =>
      rw [reuseOpen_raised_of_some
        now refresh fresh hLatest]
      exact ⟨Table.nextId_modify _ _ _, rfl⟩

/- Where nothing is selected, every row is kept. -/
theorem get?_reuseOpen_of_none
    (now : Instant)
    (verdict : Verdict)
    (hNone : store.latest p = none)
    {id : Nat}
    {event : AlarmEvent}
    (hGet : store.events.get? id = some event) :
    (store.reuseOpen now p verdict).events.get? id =
      some event := by
  cases verdict with
  | hold => exact hGet
  | recovered note =>
      rw [reuseOpen_recovered_of_none now note hNone]
      exact hGet
  | raised refresh fresh =>
      rw [reuseOpen_raised_of_none now refresh fresh hNone]
      exact Table.get?_insert_of_get? hGet fresh

/- An event is the newest selected one, or keeps its row. -/
theorem get?_reuseOpen_of_get
    (now : Instant)
    (verdict : Verdict)
    {id : Nat}
    {event : AlarmEvent}
    (hGet : store.events.get? id = some event) :
    (store.events.IsNewest
          p AlarmEvent.occurredAt (id, event) ∧
        (store.reuseOpen now p verdict).events.get? id =
          some (write now event verdict)) ∨
      (store.reuseOpen now p verdict).events.get? id =
        some event := by
  cases hLatest : store.latest p with
  | none =>
      exact
        Or.inr
          (get?_reuseOpen_of_none now verdict hLatest hGet)
  | some best =>
      have hNewest := (latest_eq_some_iff best).mp hLatest
      by_cases hId : best.1 = id
      · have hBest : best = (id, event) := by
          have hSame := hNewest.get
          rw [hId, hGet] at hSame
          exact Prod.ext hId (Option.some.inj hSame).symm
        subst hBest
        exact
          Or.inl
            ⟨hNewest,
              get?_reuseOpen_newest now verdict hNewest⟩
      · rw [get?_reuseOpen_of_ne now verdict hNewest hId]
        exact Or.inr hGet

/- Events outside of the selection keep every column. -/
theorem get?_reuseOpen_of_not
    (now : Instant)
    (verdict : Verdict)
    {id : Nat}
    {event : AlarmEvent}
    (hGet : store.events.get? id = some event)
    (hOut : ¬ p event) :
    (store.reuseOpen now p verdict).events.get? id =
      some event := by
  rcases get?_reuseOpen_of_get (p := p) now verdict hGet
    with ⟨hNewest, _⟩ | hKept
  · exact absurd hNewest.selected hOut
  · exact hKept

/- Where a row of the store after `reuseOpen` is from. -/
theorem get?_reuseOpen_cases
    {now : Instant}
    {verdict : Verdict}
    {id : Nat}
    {later : AlarmEvent}
    (hLater :
      (store.reuseOpen now p verdict).events.get? id =
        some later) :
    store.events.get? id = some later ∨
      (∃ note event,
        verdict = .recovered note ∧
          store.latest p = some (id, event) ∧
          later = event.close now) ∨
      (∃ refresh fresh event,
        verdict = .raised refresh fresh ∧
          store.latest p = some (id, event) ∧
          later = refresh event) ∨
      (∃ refresh,
        verdict = .raised refresh later ∧
          store.latest p = none ∧
          id = store.events.nextId) := by
  cases hLatest : store.latest p with
  | none =>
      cases verdict with
      | hold => exact Or.inl hLater
      | recovered note =>
          rw [reuseOpen_recovered_of_none now note hLatest]
            at hLater
          exact Or.inl hLater
      | raised refresh fresh =>
          rw [reuseOpen_raised_of_none
            now refresh fresh hLatest] at hLater
          simp only [createAlarmEvent,
            Table.get?_insert] at hLater
          by_cases hId : id = store.events.nextId
          · rw [if_pos hId] at hLater
            rw [← Option.some.inj hLater]
            exact
              Or.inr
                (Or.inr (Or.inr ⟨refresh, rfl, rfl, hId⟩))
          · rw [if_neg hId] at hLater
            exact Or.inl hLater
  | some best =>
      have hNewest := (latest_eq_some_iff best).mp hLatest
      by_cases hId : best.1 = id
      · subst hId
        rw [get?_reuseOpen_newest now verdict hNewest]
          at hLater
        rw [← Option.some.inj hLater]
        cases verdict with
        | hold => exact Or.inl hNewest.get
        | recovered note =>
            exact
              Or.inr (Or.inl ⟨note, best.2, rfl, rfl, rfl⟩)
        | raised refresh fresh =>
            exact
              Or.inr (Or.inr (Or.inl
                ⟨refresh, fresh, best.2, rfl, rfl, rfl⟩))
      · rw [get?_reuseOpen_of_ne now verdict hNewest hId]
          at hLater
        exact Or.inl hLater

/- The rules never change. -/
@[simp] theorem rules_reuseOpen
    (now : Instant)
    (verdict : Verdict) :
    (store.reuseOpen now p verdict).rules =
      store.rules := by
  cases verdict with
  | hold => rfl
  | recovered note =>
      simp only [reuseOpen]
      split
      · rfl
      · rfl
  | raised refresh fresh =>
      simp only [reuseOpen]
      split
      · rfl
      · rfl

end AlertStore

end Alerts

end Icmp2
