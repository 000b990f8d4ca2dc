import Icmp2.Alerts.Isolation
import Icmp2.Library.Cooldown

/-
  The dispatch of notifications and its cooldown.

  Main definitions include:
    * `Icmp2.Alerts.dedupKey`
    * `Icmp2.Alerts.NoticeCall`
    * `Icmp2.Alerts.sendAllNotifications`
    * `Icmp2.Alerts.dispatchedCalls`

  Main theorems include:
    * `Icmp2.Alerts.dedupKey_eq_iff`
    * `Icmp2.Alerts.dedup_run`
    * `Icmp2.Alerts.notification_suppressed_iff`
-/

------------------------------------------------------------
-- Keys
------------------------------------------------------------

namespace Icmp2

namespace Alerts

open Monitoring AiEngine Library

/- The stored text of a severity. -/
def Severity.value : Severity → String
  | normal => "normal"
  | warning => "warning"
  | danger => "danger"
  | anomaly => "anomaly"
  | predictiveWarning => "predictive_warning"

/- A row id as text. -/
def idText
    (id : Nat) :
    String :=
  String.ofList (Nat.toDigits 10 id)

/- `dedup_key`. -/
def dedupKey
    (event : AlarmEvent) :
    String :=
  "alarm:dedup:" ++ idText event.rule.id ++ ":" ++
    idText event.facility ++ ":" ++ event.severity.value

theorem Severity.value_injective :
    Function.Injective Severity.value := by
  intro left right hValue
  cases left <;> cases right <;>
    first | rfl | exact absurd hValue (by decide)

theorem toDigits_injective :
    Function.Injective (Nat.toDigits 10) := by
  intro left right hDigits
  rw [← Nat.ofDigitChars_ten_toDigits (n := left), hDigits,
    Nat.ofDigitChars_ten_toDigits]

/- Digits contain no colon. -/
theorem colon_not_mem_toDigits
    (id : Nat) :
    ':' ∉ Nat.toDigits 10 id := by
  intro hMem
  have hDigit :=
    Nat.isDigit_of_mem_toDigits
      (by decide) (by decide) hMem
  exact absurd hDigit (by decide)

/- A text with two ids, cut at the colons behind them. -/
theorem toList_idTexts
    (head last : String)
    (first second : Nat) :
    (head ++ idText first ++ ":" ++ idText second ++ ":" ++
        last).toList =
      head.toList ++
        (Nat.toDigits 10 first ++ ':' ::
          (Nat.toDigits 10 second ++ ':' ::
            last.toList)) := by
  have hColon : ":".toList = [':'] := rfl
  simp only [String.toList_append, idText,
    String.toList_ofList, hColon, List.append_assoc,
    List.cons_append, List.nil_append]

theorem toList_dedupKey
    (event : AlarmEvent) :
    (dedupKey event).toList =
      "alarm:dedup:".toList ++
        (Nat.toDigits 10 event.rule.id ++ ':' ::
          (Nat.toDigits 10 event.facility ++ ':' ::
            event.severity.value.toList)) :=
  toList_idTexts _ _ _ _

/- Two keys are one if all three parts are. -/
theorem dedupKey_eq_iff
    (left right : AlarmEvent) :
    dedupKey left = dedupKey right ↔
      left.rule.id = right.rule.id ∧
        left.facility = right.facility ∧
        left.severity = right.severity := by
  constructor
  · intro hKey
    have hChars := congrArg String.toList hKey
    rw [toList_dedupKey, toList_dedupKey] at hChars
    have hRest := List.append_cancel_left hChars
    rcases delimited_eq
        (colon_not_mem_toDigits left.rule.id)
        (colon_not_mem_toDigits right.rule.id) hRest with
      ⟨hRule, hRest⟩
    rcases delimited_eq
        (colon_not_mem_toDigits left.facility)
        (colon_not_mem_toDigits right.facility) hRest with
      ⟨hFacility, hSeverity⟩
    exact
      ⟨toDigits_injective hRule,
        toDigits_injective hFacility,
        Severity.value_injective
          (String.toList_injective hSeverity)⟩
  · rintro ⟨hRule, hFacility, hSeverity⟩
    apply String.toList_injective
    rw [toList_dedupKey, toList_dedupKey, hRule,
      hFacility, hSeverity]

end Alerts

end Icmp2

------------------------------------------------------------
-- Dispatch
------------------------------------------------------------

namespace Icmp2

namespace Alerts

open Monitoring AiEngine Library

/- The columns of a policy that the dispatch reads. -/
structure AlarmPolicy where
  eventType : String
  channels : String
  isActive : Bool
  deriving DecidableEq, Repr

/- `_POLICY_EVENT_TYPE.get(event_type, '')`. -/
def policyEventName : EventType → String
  | .gas => "가스 경보"
  | .power => "전력 이상"
  | .location => ""
  | .device => ""

/-
  The first active policy for the type of an event;
  `policies` is ordered as `Meta.ordering` says, the one
  updated last first.
-/
def alarmPolicyOf
    (policies : List AlarmPolicy)
    (event : AlarmEvent) :
    Option AlarmPolicy :=
  if policyEventName event.eventType = "" then
    none
  else
    policies.find? fun policy =>
      policy.eventType = policyEventName event.eventType ∧
        policy.isActive = true

/- The three tasks that a dispatch can queue. -/
inductive NoticeTask where
  | pushWebsocketAlert
  | sendSlackNotification
  | sendDiscordNotification
  deriving DecidableEq, Repr

/- The channels of a policy, cut at the commas. -/
def channelList
    (channels : String) :
    List String :=
  (channels.toList.splitOn ',').map fun part =>
    strip (String.ofList part)

/- What to queue under a policy; everything without one. -/
def noticeTasks :
    Option AlarmPolicy → List NoticeTask
  | none =>
      [.pushWebsocketAlert, .sendSlackNotification,
        .sendDiscordNotification]
  | some policy =>
      let chList := channelList policy.channels
      let sendWebsocket : Bool :=
        ∃ c ∈ chList, Contains c "관제" ∨ Contains c "실시간"
      let sendSlack : Bool := "Slack" ∈ chList
      let sendDiscord : Bool := "Discord" ∈ chList
      (if sendWebsocket then [.pushWebsocketAlert] else []) ++
        (if sendSlack then [.sendSlackNotification]
          else []) ++
        (if sendDiscord then [.sendDiscordNotification]
          else [])

/-
  One run of the task: the clock, the store and the
  policies at that moment, and the id of the event.
-/
structure NoticeCall where
  now : Instant
  store : AlertStore
  policies : List AlarmPolicy
  eventId : Nat

/- The event that a call reads. -/
def NoticeCall.event
    (call : NoticeCall) :
    Option AlarmEvent :=
  call.store.events.get? call.eventId

/- The cooldown cache and the queued tasks. -/
structure Dispatcher where
  dedup : ExpiringCache String
  queue : List (NoticeTask × Nat)

/- A new cache and no task. -/
def Dispatcher.initial : Dispatcher where
  dedup := ExpiringCache.empty
  queue := []

inductive NoticeOutcome where
  | unknownEvent
  | suppressed
  | dispatched (tasks : List NoticeTask)
  deriving DecidableEq, Repr

/- `timeout=300`, in microseconds. -/
def dedupTimeout : Int :=
  300 * 1000000

/- `send_all_notifications`. -/
def sendAllNotifications
    (dispatcher : Dispatcher)
    (call : NoticeCall) :
    NoticeOutcome × Dispatcher :=
  match call.event with
  | none => (.unknownEvent, dispatcher)
  | some event =>
      if dispatcher.dedup.Live call.now (dedupKey event) then
        (.suppressed, dispatcher)
      else
        let tasks :=
          noticeTasks (alarmPolicyOf call.policies event)
        (.dispatched tasks,
          { dedup :=
              dispatcher.dedup.set
                call.now dedupTimeout (dedupKey event)
            queue :=
              dispatcher.queue ++
                tasks.map fun task =>
                  (task, call.eventId) })

/- The dispatcher after a call. -/
def noticeStep
    (dispatcher : Dispatcher)
    (call : NoticeCall) :
    Dispatcher :=
  (sendAllNotifications dispatcher call).2

/- The calls of a run that are dispatched. -/
def dispatchedCalls :
    Dispatcher → List NoticeCall → List NoticeCall
  | _, [] => []
  | dispatcher, call :: calls =>
      let rest :=
        dispatchedCalls (noticeStep dispatcher call) calls
      match (sendAllNotifications dispatcher call).1 with
      | .dispatched _ => call :: rest
      | _ => rest

end Alerts

end Icmp2

------------------------------------------------------------
-- The Cooldown
------------------------------------------------------------

namespace Icmp2

namespace Alerts

open Monitoring AiEngine Library

/- What a call asks of the cooldown, if its event exists. -/
def NoticeCall.request?
    (call : NoticeCall) :
    Option (Request String) :=
  call.event.map fun event =>
    ⟨call.now, dedupKey event⟩

section Outcomes

variable {dispatcher : Dispatcher}
variable {call : NoticeCall}
variable {event : AlarmEvent}

theorem request?_of_none
    (hNone : call.event = none) :
    call.request? = none := by
  simp [NoticeCall.request?, hNone]

theorem request?_of_some
    (hEvent : call.event = some event) :
    call.request? = some ⟨call.now, dedupKey event⟩ := by
  simp [NoticeCall.request?, hEvent]

theorem sendAllNotifications_of_none
    (hNone : call.event = none) :
    sendAllNotifications dispatcher call =
      (.unknownEvent, dispatcher) := by
  simp [sendAllNotifications, hNone]

/- The key is live: nothing is dispatched. -/
theorem sendAllNotifications_of_live
    (hEvent : call.event = some event)
    (hLive :
      dispatcher.dedup.Live call.now (dedupKey event)) :
    sendAllNotifications dispatcher call =
      (.suppressed, dispatcher) := by
  simp [sendAllNotifications, hEvent, hLive]

/- The key is not live: it becomes live by the dispatch. -/
theorem sendAllNotifications_of_not_live
    (hEvent : call.event = some event)
    (hNot :
      ¬ dispatcher.dedup.Live call.now (dedupKey event)) :
    (∃ tasks,
      (sendAllNotifications dispatcher call).1 =
        .dispatched tasks) ∧
      (sendAllNotifications dispatcher call).2.dedup =
        dispatcher.dedup.set
          call.now dedupTimeout (dedupKey event) := by
  simp [sendAllNotifications, hEvent, hNot]

theorem suppressed_iff_live
    (hEvent : call.event = some event) :
    (sendAllNotifications dispatcher call).1 =
        .suppressed ↔
      dispatcher.dedup.Live call.now
        (dedupKey event) := by
  by_cases hLive :
      dispatcher.dedup.Live call.now (dedupKey event)
  · rw [sendAllNotifications_of_live hEvent hLive]
    exact iff_of_true rfl hLive
  · rcases sendAllNotifications_of_not_live
        hEvent hLive with
      ⟨⟨tasks, hTasks⟩, _⟩
    rw [hTasks]
    exact iff_of_false (fun hEq => by cases hEq) hLive

end Outcomes

/- On the cache a call steps as its request does. -/
theorem dedup_noticeStep
    (dispatcher : Dispatcher)
    (call : NoticeCall) :
    (noticeStep dispatcher call).dedup =
      run (cooldownStep dedupTimeout) dispatcher.dedup
        call.request?.toList := by
  rw [noticeStep]
  cases hEvent : call.event with
  | none =>
      rw [sendAllNotifications_of_none hEvent,
        request?_of_none hEvent]
      rfl
  | some event =>
      rw [request?_of_some hEvent, Option.toList_some,
        run_cons, run_nil, cooldownStep]
      by_cases hLive :
          dispatcher.dedup.Live call.now (dedupKey event)
      · rw [sendAllNotifications_of_live hEvent hLive,
          if_pos hLive]
      · rw [(sendAllNotifications_of_not_live
            hEvent hLive).2, if_neg hLive]

theorem filterMap_request_cons
    (call : NoticeCall)
    (calls : List NoticeCall) :
    (call :: calls).filterMap NoticeCall.request? =
      call.request?.toList ++
        calls.filterMap NoticeCall.request? := by
  cases hRequest : call.request? with
  | none => rw [List.filterMap_cons_none hRequest]; rfl
  | some request =>
      rw [List.filterMap_cons_some hRequest]
      rfl

/- The cache of a run is that of its requests. -/
theorem dedup_run
    (dispatcher : Dispatcher)
    (calls : List NoticeCall) :
    (run noticeStep dispatcher calls).dedup =
      run (cooldownStep dedupTimeout) dispatcher.dedup
        (calls.filterMap NoticeCall.request?) := by
  induction calls generalizing dispatcher with
  | nil => rfl
  | cons call calls ih =>
      rw [run_cons, ih, dedup_noticeStep,
        filterMap_request_cons, run_append]

/- A call is dispatched if its request is admitted. -/
theorem filterMap_dispatchedCalls_cons
    (dispatcher : Dispatcher)
    (call : NoticeCall)
    (calls : List NoticeCall) :
    (dispatchedCalls dispatcher
        (call :: calls)).filterMap NoticeCall.request? =
      admitted dedupTimeout dispatcher.dedup
          call.request?.toList ++
        (dispatchedCalls (noticeStep dispatcher call)
          calls).filterMap NoticeCall.request? := by
  cases hEvent : call.event with
  | none =>
      rw [request?_of_none hEvent]
      simp only [dispatchedCalls,
        sendAllNotifications_of_none hEvent]
      rfl
  | some event =>
      rw [request?_of_some hEvent]
      by_cases hLive :
          dispatcher.dedup.Live call.now (dedupKey event)
      · simp only [dispatchedCalls,
          sendAllNotifications_of_live hEvent hLive,
          Option.toList_some, admitted, if_pos hLive,
          List.nil_append]
      · rcases sendAllNotifications_of_not_live
            hEvent hLive with
          ⟨⟨tasks, hTasks⟩, _⟩
        simp only [dispatchedCalls, hTasks,
          Option.toList_some, admitted, if_neg hLive,
          List.filterMap_cons_some
            (request?_of_some hEvent),
          List.singleton_append]

/- The dispatched calls are the admitted requests. -/
theorem filterMap_dispatchedCalls
    (dispatcher : Dispatcher)
    (calls : List NoticeCall) :
    (dispatchedCalls dispatcher calls).filterMap
        NoticeCall.request? =
      admitted dedupTimeout dispatcher.dedup
        (calls.filterMap NoticeCall.request?) := by
  induction calls generalizing dispatcher with
  | nil => rfl
  | cons call calls ih =>
      rw [filterMap_dispatchedCalls_cons, ih,
        dedup_noticeStep, filterMap_request_cons,
        admitted_append]

/- A request of an earlier dispatch comes from its call. -/
theorem mem_filterMap_request_iff
    (calls : List NoticeCall)
    (request : Request String) :
    request ∈ calls.filterMap NoticeCall.request? ↔
      ∃ call ∈ calls, ∃ event,
        call.event = some event ∧
          request = ⟨call.now, dedupKey event⟩ := by
  simp [NoticeCall.request?, eq_comm]

/- The requests of calls in order are in order. -/
theorem pairwise_requests
    {calls : List NoticeCall}
    (hTime :
      calls.Pairwise fun earlier later =>
        earlier.now ≤ later.now) :
    (calls.filterMap NoticeCall.request?).Pairwise
      fun earlier later => earlier.time ≤ later.time := by
  rw [List.pairwise_filterMap]
  apply hTime.imp
  intro earlier later hLe first hFirst second hSecond
  simp only [NoticeCall.request?,
    Option.map_eq_some_iff] at hFirst hSecond
  rcases hFirst with ⟨_, _, rfl⟩
  rcases hSecond with ⟨_, _, rfl⟩
  exact hLe

/-
  With a clock that does not go back, the dispatch of an
  event is skipped exactly if an event of the same rule,
  facility and severity was dispatched less than 300
  seconds before.
-/
theorem notification_suppressed_iff
    (history : List NoticeCall)
    (call : NoticeCall)
    (event : AlarmEvent)
    (hTime :
      (history ++ [call]).Pairwise fun earlier later =>
        earlier.now ≤ later.now)
    (hEvent : call.event = some event) :
    (sendAllNotifications
        (run noticeStep .initial history) call).1 =
        .suppressed ↔
      ∃ earlier ∈ dispatchedCalls .initial history,
        ∃ other,
          earlier.event = some other ∧
            other.rule.id = event.rule.id ∧
            other.facility = event.facility ∧
            other.severity = event.severity ∧
            call.now < earlier.now + dedupTimeout := by
  rw [List.pairwise_append] at hTime
  have hNow :
      ∀ request ∈ history.filterMap NoticeCall.request?,
        request.time ≤ call.now := by
    intro request hMem
    rcases (mem_filterMap_request_iff _ _).mp hMem with
      ⟨earlier, hEarlier, _, _, rfl⟩
    exact
      hTime.2.2 earlier hEarlier call List.mem_cons_self
  have hLive :=
    live_iff_admitted
      dedupTimeout (pairwise_requests hTime.1) hNow
      (dedupKey event)
  have hAdmitted :=
    filterMap_dispatchedCalls .initial history
  rw [suppressed_iff_live hEvent, dedup_run]
  refine hLive.trans ?_
  rw [show ExpiringCache.empty =
    Dispatcher.initial.dedup from rfl, ← hAdmitted]
  constructor
  · rintro ⟨request, hMem, hKey, hLate⟩
    rcases (mem_filterMap_request_iff _ _).mp hMem with
      ⟨earlier, hEarlier, other, hOther, rfl⟩
    rcases (dedupKey_eq_iff other event).mp hKey with
      ⟨hRule, hFacility, hSeverity⟩
    exact
      ⟨earlier, hEarlier, other, hOther, hRule,
        hFacility, hSeverity, hLate⟩
  · rintro ⟨earlier, hEarlier, other, hOther, hRule,
      hFacility, hSeverity, hLate⟩
    refine
      ⟨⟨earlier.now, dedupKey other⟩, ?_, ?_, hLate⟩
    · exact
        (mem_filterMap_request_iff _ _).mpr
          ⟨earlier, hEarlier, other, hOther, rfl⟩
    · exact
        (dedupKey_eq_iff other event).mpr
          ⟨hRule, hFacility, hSeverity⟩

/- A danger alarm for co of a device of one facility. -/
def coAlarm
    (now : Instant)
    (device : Nat) :
    AlarmEvent :=
  thresholdEvent wholeText now ⟨⟨1, .threshold⟩, rfl⟩
    1 device [⟨"co", 250, .danger⟩]

/- Two devices of the facility have just raised alarms. -/
def twoAlarmStore : AlertStore :=
  (ruleStore.createAlarmEvent
    (coAlarm 0 1)).createAlarmEvent (coAlarm 10000000 2)

/- The notification of the first alarm. -/
def firstNotice : NoticeCall :=
  ⟨0, twoAlarmStore, [], 0⟩

/- The notification of the second, ten seconds later. -/
def secondNotice : NoticeCall :=
  ⟨10000000, twoAlarmStore, [], 1⟩

/- The second alarm falls into the cooldown of the first. -/
theorem notification_suppressed_neighbour :
    (sendAllNotifications
        (run noticeStep .initial [firstNotice])
        secondNotice).1 =
      .suppressed :=
  (notification_suppressed_iff [firstNotice] secondNotice
    (coAlarm 10000000 2) (by decide) rfl).mpr
      ⟨firstNotice, List.mem_singleton.mpr rfl,
        coAlarm 0 1, rfl, rfl, rfl, rfl, by decide⟩

/-
  STEP B raises an alarm for each of two devices, and the
  alarm of the second is silenced although nothing was
  dispatched for its device.
-/
theorem second_device_silenced :
    checkGasThresholds wholeText 10000000 []
        { gasDevice with id := 2, deviceUid := "GAS-002" }
        { airReading 10000000 250 with device := 2 }
        (checkGasThresholds wholeText 0 [] gasDevice
          (airReading 0 250) ruleStore) =
      twoAlarmStore ∧
    twoAlarmStore.notifications = [0, 1] ∧
    (sendAllNotifications
        (run noticeStep .initial [firstNotice])
        secondNotice).1 =
      .suppressed ∧
    secondNotice.event.map AlarmEvent.device =
      some (some 2) ∧
    ∀ earlier ∈ dispatchedCalls .initial [firstNotice],
      earlier.event.map AlarmEvent.device =
        some (some 1) := by
  refine ⟨?_, ?_, ?_, ?_, ?_⟩
  · decide +kernel
  · decide +kernel
  · decide +kernel
  · decide +kernel
  · decide +kernel

end Alerts

end Icmp2
