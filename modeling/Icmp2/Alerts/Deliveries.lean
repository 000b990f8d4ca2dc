import Icmp2.Alerts.Notifications
import Icmp2.Library.Retries

/-
  The deliveries of notifications.

  Main definitions include:
    * `Icmp2.Alerts.SendHistory`
    * `Icmp2.Alerts.saveSendHistory`
    * `Icmp2.Alerts.performNotice`
    * `Icmp2.Alerts.noticeBrokerStep`

  Main theorems include:
    * `Icmp2.Alerts.delivery_reported`

  The three tasks that a dispatch queues are taken by
  workers in any order.  Slack and Discord are tried again
  three times; the channel layer is not.  The text of a
  message is an input of its sender.
-/

------------------------------------------------------------
-- Send History
------------------------------------------------------------

namespace Icmp2

namespace Alerts

open Monitoring AiEngine Library

/- The columns of a policy that the senders read. -/
structure SendPolicy extends AlarmPolicy where
  id : Nat
  targets : String
  eventTypeFits : eventType.length ≤ 50
  targetsFit : targets.length ≤ 100

/- `_get_alarm_policy`. -/
def getAlarmPolicy
    (policies : List SendPolicy)
    (event : AlarmEvent) :
    Option SendPolicy :=
  if policyEventName event.eventType = "" then
    none
  else
    policies.find? fun policy =>
      policy.eventType = policyEventName event.eventType ∧
        policy.isActive = true

/- The values of `result` that are written. -/
inductive SendResult where
  | success
  | failure
  deriving DecidableEq, Repr

def SendResult.label : SendResult → String
  | success => "성공"
  | failure => "실패"

/- `AlarmSendHistory`. -/
structure SendHistory where
  sentAt : Instant
  channel : String
  targets : String
  result : SendResult
  alarmPolicy : Option Nat
  policyName : String
  scope : String
  content : String
  reason : String
  deriving DecidableEq, Repr

/- The lengths of the columns. -/
def SendHistory.Fits
    (row : SendHistory) :
    Prop :=
  row.channel.length ≤ 20 ∧
    row.targets.length ≤ 100 ∧
    row.result.label.length ≤ 10 ∧
    row.policyName.length ≤ 200 ∧
    row.scope.length ≤ 100

instance : DecidablePred SendHistory.Fits := by
  intro row
  unfold SendHistory.Fits
  infer_instance

/- `text[:500]`. -/
def first500
    (text : String) :
    String :=
  String.ofList (text.toList.take 500)

/- `alarm_policy.targets or ''`. -/
def targetsOf
    (policy : Option SendPolicy) :
    String :=
  (policy.map SendPolicy.targets).getD ""

/- The row of a delivery. -/
def sendHistory
    (now : Instant)
    (channel targets : String)
    (result : SendResult)
    (content : String)
    (policy : Option SendPolicy)
    (reason : String) :
    SendHistory where
  sentAt := now
  channel := channel
  targets := if targets = "" then "-" else targets
  result := result
  alarmPolicy := policy.map SendPolicy.id
  policyName :=
    (policy.map fun policy => policy.eventType).getD ""
  scope := targetsOf policy
  content := first500 content
  reason := first500 reason

/-
  `_save_send_history`: the row that is written, if the
  database takes it; an exception is only logged.
-/
def saveSendHistory
    (saves : Bool)
    (row : SendHistory) :
    Option SendHistory :=
  if saves = true ∧ row.Fits then some row else none

/- A row of a delivery fits, whatever the policy. -/
theorem fits_sendHistory
    (now : Instant)
    {channel : String}
    (hChannel : channel.length ≤ 20)
    (result : SendResult)
    (content : String)
    (policy : Option SendPolicy)
    (reason : String) :
    (sendHistory now channel (targetsOf policy) result
      content policy reason).Fits := by
  have hTargets : (targetsOf policy).length ≤ 100 := by
    cases policy with
    | none => decide
    | some policy => exact policy.targetsFit
  refine ⟨hChannel, ?_, ?_, ?_, hTargets⟩
  · simp only [sendHistory]
    split
    · decide
    · exact hTargets
  · change result.label.length ≤ 10
    cases result <;> decide
  · cases policy with
    | none => exact Nat.zero_le _
    | some policy =>
        exact policy.eventTypeFits.trans (by decide)

end Alerts

end Icmp2

------------------------------------------------------------
-- Senders
------------------------------------------------------------

namespace Icmp2

namespace Alerts

open Monitoring AiEngine Library

/- `max_retries`. -/
def maxRetries : Nat :=
  3

/-
  What a worker meets when it takes a task: an exception
  before anything is sent, or the settings, the event and
  the policies, the text of the message, the exception that
  sending raises, and whether the history can be written.
-/
structure SendCall where
  now : Instant
  crash : Bool
  webhookUrl : String
  event : Option AlarmEvent
  policies : List SendPolicy
  text : String
  refusal : Option String
  saves : Bool

/- How an attempt ends. -/
inductive SendEnd where
  | crashed
  | noWebhook
  | unknownEvent
  | pushed
  | accepted (row : Option SendHistory)
  | refused (row : Option SendHistory)
  deriving DecidableEq, Repr

namespace SendEnd

/- `raise self.retry(exc=exc)` is reached. -/
def failed : SendEnd → Bool
  | refused _ => true
  | crashed | noWebhook | unknownEvent | pushed
  | accepted _ => false

/- The receiver has taken the message. -/
def isAccepted : SendEnd → Bool
  | accepted _ => true
  | crashed | noWebhook | unknownEvent | pushed
  | refused _ => false

/- What the attempt has written to the history. -/
def row? : SendEnd → Option SendHistory
  | accepted row | refused row => row
  | crashed | noWebhook | unknownEvent | pushed => none

end SendEnd

/-
  `send_slack_notification`, `send_discord_notification`:
  the body of both, with the name of the channel.
-/
def sendNotification
    (channel : String)
    (retries : Nat)
    (call : SendCall) :
    SendEnd :=
  if call.webhookUrl = "" then
    .noWebhook
  else
    match call.event with
    | none => .unknownEvent
    | some event =>
        let policy := getAlarmPolicy call.policies event
        let row :=
          sendHistory call.now channel (targetsOf policy)
        match call.refusal with
        | none =>
            .accepted
              (saveSendHistory call.saves
                (row .success call.text policy ""))
        | some reason =>
            .refused
              (if maxRetries ≤ retries then
                saveSendHistory call.saves
                  (row .failure call.text policy reason)
              else
                none)

def sendSlackNotification
    (retries : Nat)
    (call : SendCall) :
    SendEnd :=
  sendNotification "Slack" retries call

def sendDiscordNotification
    (retries : Nat)
    (call : SendCall) :
    SendEnd :=
  sendNotification "Discord" retries call

/- `push_websocket_alert`, which is not tried again. -/
def pushWebsocketAlert
    (call : SendCall) :
    SendEnd :=
  match call.event with
  | none => .unknownEvent
  | some _ =>
      if call.refusal = none then .pushed else .crashed

/- A task that a worker takes, after so many retries. -/
def performNotice
    (job : NoticeTask × Nat)
    (retries : Nat)
    (call : SendCall) :
    SendEnd :=
  if call.crash then
    .crashed
  else
    match job.1 with
    | .pushWebsocketAlert => pushWebsocketAlert call
    | .sendSlackNotification =>
        sendSlackNotification retries call
    | .sendDiscordNotification =>
        sendDiscordNotification retries call

/- The channel that a task's rows name. -/
def sendChannel : NoticeTask → String
  | .pushWebsocketAlert => ""
  | .sendSlackNotification => "Slack"
  | .sendDiscordNotification => "Discord"

abbrev NoticeBroker : Type :=
  Broker (NoticeTask × Nat) SendEnd

abbrev NoticeBrokerOp : Type :=
  BrokerOp (NoticeTask × Nat) SendCall

/- A task is queued, taken by a worker, or lost. -/
def noticeBrokerStep :
    NoticeBroker → NoticeBrokerOp → NoticeBroker :=
  brokerStep performNotice SendEnd.failed maxRetries

/- How the attempts at one task have ended. -/
def endsOf
    (broker : NoticeBroker)
    (id : Nat) :
    List SendEnd :=
  (broker.attemptsOf id).map Attempt.result

end Alerts

end Icmp2

------------------------------------------------------------
-- Reports
------------------------------------------------------------

namespace Icmp2

namespace Alerts

open Monitoring AiEngine Library

/- What a complete history says of an attempt. -/
def SendEnd.report
    (retries : Nat) :
    SendEnd → Option SendResult
  | accepted _ => some .success
  | refused _ =>
      if maxRetries ≤ retries then some .failure else none
  | crashed | noWebhook | unknownEvent | pushed => none

section OneAttempt

variable {call : SendCall}

/- Nothing is accepted, refused or written. -/
def SendEnd.IsQuiet
    (sendEnd : SendEnd) :
    Prop :=
  sendEnd = .crashed ∨ sendEnd = .noWebhook ∨
    sendEnd = .unknownEvent ∨ sendEnd = .pushed

/- The row that a sender hands to the history. -/
def rowFor
    (channel : String)
    (call : SendCall)
    (policy : Option SendPolicy)
    (result : SendResult)
    (reason : String) :
    Option SendHistory :=
  saveSendHistory call.saves
    (sendHistory call.now channel (targetsOf policy) result
      call.text policy reason)

theorem sendNotification_cases
    (channel : String)
    (retries : Nat)
    (call : SendCall) :
    (sendNotification channel retries call).IsQuiet ∨
      (∃ policy,
        sendNotification channel retries call =
          .accepted
            (rowFor channel call policy .success "")) ∨
      ∃ policy reason,
        sendNotification channel retries call =
          .refused
            (if maxRetries ≤ retries then
              rowFor channel call policy .failure reason
            else
              none) := by
  unfold sendNotification
  by_cases hUrl : call.webhookUrl = ""
  · rw [if_pos hUrl]
    exact Or.inl (Or.inr (Or.inl rfl))
  · rw [if_neg hUrl]
    cases call.event with
    | none => exact Or.inl (Or.inr (Or.inr (Or.inl rfl)))
    | some event =>
        right
        cases call.refusal with
        | none => exact Or.inl ⟨_, rfl⟩
        | some reason => exact Or.inr ⟨_, _, rfl⟩

theorem isQuiet_pushWebsocketAlert
    (call : SendCall) :
    (pushWebsocketAlert call).IsQuiet := by
  unfold pushWebsocketAlert
  cases call.event with
  | none => exact Or.inr (Or.inr (Or.inl rfl))
  | some event =>
      by_cases hRefusal : call.refusal = none
      · exact
          Or.inr (Or.inr (Or.inr (if_pos hRefusal)))
      · exact Or.inl (if_neg hRefusal)

/- All that an attempt can end with. -/
theorem performNotice_cases
    (job : NoticeTask × Nat)
    (retries : Nat)
    (call : SendCall) :
    (performNotice job retries call).IsQuiet ∨
      (∃ policy,
        performNotice job retries call =
          .accepted
            (rowFor (sendChannel job.1) call policy .success
              "")) ∨
      ∃ policy reason,
        performNotice job retries call =
          .refused
            (if maxRetries ≤ retries then
              rowFor (sendChannel job.1) call policy
                .failure reason
            else
              none) := by
  unfold performNotice
  by_cases hCrash : call.crash = true
  · rw [if_pos hCrash]
    exact Or.inl (Or.inl rfl)
  · rw [if_neg hCrash]
    cases job.1 with
    | pushWebsocketAlert =>
        exact Or.inl (isQuiet_pushWebsocketAlert call)
    | sendSlackNotification =>
        exact sendNotification_cases "Slack" retries call
    | sendDiscordNotification =>
        exact sendNotification_cases "Discord" retries call

variable {channel : String}
variable {policy : Option SendPolicy}
variable {result : SendResult}
variable {reason : String}
variable {row : SendHistory}

/- A history that is written says how the attempt went. -/
theorem result_rowFor
    (hSaves : call.saves = true)
    (hChannel : channel.length ≤ 20) :
    (rowFor channel call policy result reason).map
        SendHistory.result =
      some result := by
  rw [rowFor, saveSendHistory,
    if_pos
      ⟨hSaves, fits_sendHistory _ hChannel _ _ _ _⟩]
  rfl

theorem channel_rowFor
    (hRow :
      rowFor channel call policy result reason =
        some row) :
    row.channel = channel := by
  unfold rowFor saveSendHistory at hRow
  split_ifs at hRow
  cases hRow
  rfl

theorem length_sendChannel
    (task : NoticeTask) :
    (sendChannel task).length ≤ 20 := by
  cases task <;> decide

theorem SendEnd.IsQuiet.eqs
    {sendEnd : SendEnd}
    (hQuiet : sendEnd.IsQuiet)
    (retries : Nat) :
    sendEnd.row? = none ∧
      sendEnd.report retries = none ∧
      sendEnd.failed = false ∧
      sendEnd.isAccepted = false := by
  rcases hQuiet with rfl | rfl | rfl | rfl <;>
    exact ⟨rfl, rfl, rfl, rfl⟩

/- The row of an attempt is the report on it. -/
theorem result_performNotice
    (hSaves : call.saves = true)
    (job : NoticeTask × Nat)
    (retries : Nat) :
    (performNotice job retries call).row?.map
        SendHistory.result =
      (performNotice job retries call).report retries := by
  rcases performNotice_cases job retries call with
    hQuiet | ⟨policy, hEnd⟩ | ⟨policy, reason, hEnd⟩
  · rcases hQuiet.eqs retries with ⟨hRow, hReport, _⟩
    rw [hRow, hReport]
    rfl
  · rw [hEnd]
    exact result_rowFor hSaves (length_sendChannel job.1)
  · rw [hEnd, SendEnd.row?, SendEnd.report]
    by_cases hLast : maxRetries ≤ retries
    · rw [if_pos hLast, if_pos hLast]
      exact result_rowFor hSaves (length_sendChannel job.1)
    · rw [if_neg hLast, if_neg hLast]
      rfl

/- And it names the channel of its task. -/
theorem channel_performNotice
    {job : NoticeTask × Nat}
    {retries : Nat}
    (hRow :
      (performNotice job retries call).row? = some row) :
    row.channel = sendChannel job.1 := by
  rcases performNotice_cases job retries call with
    hQuiet | ⟨policy, hEnd⟩ | ⟨policy, reason, hEnd⟩
  · rw [(hQuiet.eqs retries).1] at hRow
    cases hRow
  · rw [hEnd] at hRow
    exact channel_rowFor hRow
  · rw [hEnd, SendEnd.row?] at hRow
    by_cases hLast : maxRetries ≤ retries
    · rw [if_pos hLast] at hRow
      exact channel_rowFor hRow
    · rw [if_neg hLast] at hRow
      cases hRow

end OneAttempt

/- What the ends of a whole delivery amount to. -/
def outcomeOf
    (ends : List SendEnd) :
    List SendResult :=
  if ∃ sendEnd ∈ ends, sendEnd.isAccepted then
    [.success]
  else if ends.countP SendEnd.failed = maxRetries + 1 then
    [.failure]
  else
    []

abbrev NoticeAttempt : Type :=
  Attempt (NoticeTask × Nat) SendEnd

section Reports

variable {attempts front : List NoticeAttempt}

/- Retries before the last are not reported. -/
theorem filterMap_report_front
    (hFailed : ∀ attempt ∈ front, attempt.result.failed)
    (hEarly :
      ∀ attempt ∈ front, attempt.retries < maxRetries) :
    front.filterMap
        (fun attempt =>
          attempt.result.report attempt.retries) = [] := by
  apply List.filterMap_eq_nil_iff.mpr
  intro attempt hMem
  have hThis := hFailed attempt hMem
  have hLess := hEarly attempt hMem
  cases hResult : attempt.result with
  | refused row => exact if_neg (not_le.mpr hLess)
  | crashed | noWebhook | unknownEvent | pushed
  | accepted row =>
      rw [hResult] at hThis
      cases hThis

theorem not_isAccepted_of_failed
    {sendEnd : SendEnd}
    (hFailed : sendEnd.failed = true) :
    sendEnd.isAccepted = false := by
  cases sendEnd with
  | refused row => rfl
  | crashed | noWebhook | unknownEvent | pushed
  | accepted row => cases hFailed

/- The last attempt decides how a delivery is reported. -/
theorem outcomeOf_concat
    (hFailed : ∀ attempt ∈ front, attempt.result.failed)
    (hLength : front.length ≤ maxRetries)
    (last : SendEnd) :
    outcomeOf (front.map Attempt.result ++ [last]) =
      (last.report front.length).toList := by
  have hFront :
      ∀ sendEnd ∈ front.map Attempt.result,
        sendEnd.failed = true := by
    intro sendEnd hMem
    rcases List.mem_map.mp hMem with ⟨attempt, hIn, rfl⟩
    exact hFailed attempt hIn
  have hAccepted :
      (∃ sendEnd ∈ front.map Attempt.result ++ [last],
          sendEnd.isAccepted = true) ↔
        last.isAccepted = true := by
    constructor
    · rintro ⟨sendEnd, hMem, hAccepted⟩
      rcases List.mem_append.mp hMem with hOld | hNew
      · rw [not_isAccepted_of_failed (hFront _ hOld)]
          at hAccepted
        cases hAccepted
      · rwa [List.mem_singleton.mp hNew] at hAccepted
    · exact fun hAccepted =>
        ⟨last, List.mem_append_right _
          (List.mem_singleton_self _), hAccepted⟩
  have hCount :
      (front.map Attempt.result ++ [last]).countP
          SendEnd.failed =
        front.length + [last].countP SendEnd.failed := by
    rw [List.countP_append,
      List.countP_eq_length.mpr hFront, List.length_map]
  unfold outcomeOf
  simp only [hAccepted, hCount]
  cases last with
  | accepted row => rfl
  | refused row =>
      have hIff :
          front.length + 1 = maxRetries + 1 ↔
            maxRetries ≤ front.length := by
        omega
      change
        (if front.length + 1 = maxRetries + 1 then
            [SendResult.failure]
          else
            []) = _
      simp only [hIff, SendEnd.report]
      split_ifs <;> rfl
  | crashed | noWebhook | unknownEvent | pushed =>
      have hNot : ¬ front.length + 0 = maxRetries + 1 := by
        omega
      exact if_neg hNot

/- A whole delivery is reported by its attempts. -/
theorem filterMap_report
    (hNumbered :
      attempts.map Attempt.retries =
        List.range attempts.length)
    (hBounded : attempts.length ≤ maxRetries + 1)
    (hBefore :
      ∀ attempt ∈ attempts.dropLast,
        attempt.result.failed) :
    attempts.filterMap
        (fun attempt =>
          attempt.result.report attempt.retries) =
      outcomeOf (attempts.map Attempt.result) := by
  rcases List.eq_nil_or_concat attempts with
    rfl | ⟨front, last, rfl⟩
  · rfl
  · rw [List.concat_eq_append] at *
    rw [List.dropLast_concat] at hBefore
    rw [List.map_append, List.length_append,
      List.length_singleton, List.range_succ] at hNumbered
    rw [List.length_append, List.length_singleton]
      at hBounded
    rcases List.append_inj' hNumbered rfl with
      ⟨hFront, hLast⟩
    have hRetries : last.retries = front.length :=
      List.singleton_inj.mp hLast
    have hEarly :
        ∀ attempt ∈ front,
          attempt.retries < maxRetries := by
      intro attempt hMem
      have hRange :
          attempt.retries ∈ List.range front.length :=
        hFront ▸ List.mem_map_of_mem hMem
      have hLess := List.mem_range.mp hRange
      omega
    rw [List.filterMap_append,
      filterMap_report_front hBefore hEarly,
      List.nil_append, List.map_append, List.map_singleton,
      outcomeOf_concat hBefore (by omega), ← hRetries,
      List.filterMap_cons]
    cases last.result.report last.retries <;> rfl

end Reports

/- The rows of a delivery are the reports on it. -/
theorem result_rows
    {ops : List NoticeBrokerOp}
    (hSaves :
      ∀ id call,
        BrokerOp.take id call ∈ ops → call.saves = true)
    (id : Nat) :
    ((endsOf (run noticeBrokerStep .idle ops) id).filterMap
        SendEnd.row?).map SendHistory.result =
      ((run noticeBrokerStep .idle ops).attemptsOf
        id).filterMap fun attempt =>
          attempt.result.report attempt.retries := by
  rw [endsOf, List.filterMap_map, List.map_filterMap]
  apply List.filterMap_congr
  intro attempt hMem
  rcases mem_attempts_run (List.mem_filter.mp hMem).1 with
    ⟨call, hOp, hResult⟩
  change attempt.result.row?.map _ = _
  rw [hResult]
  exact result_performNotice (hSaves _ call hOp) _ _

/- An attempt at a task ends as the task is performed. -/
theorem performed_of_mem_endsOf
    {ops : List NoticeBrokerOp}
    {id : Nat}
    {sendEnd : SendEnd}
    (hEnd :
      sendEnd ∈
        endsOf (run noticeBrokerStep .idle ops) id) :
    ∃ job retries call,
      (run noticeBrokerStep .idle ops).submitted[id]? =
          some job ∧
        sendEnd = performNotice job retries call := by
  rcases List.mem_map.mp hEnd with ⟨attempt, hMem, rfl⟩
  rcases mem_attempts_run (List.mem_filter.mp hMem).1 with
    ⟨call, _, hResult⟩
  have hSound :
      (run noticeBrokerStep .idle ops).SoundAt
        SendEnd.failed maxRetries id :=
    soundAt_run ops id
  exact
    ⟨attempt.job, _, call, hSound.same attempt hMem,
      hResult⟩

theorem channel_rows
    {ops : List NoticeBrokerOp}
    {id : Nat}
    {row : SendHistory}
    (hRow :
      row ∈
        (endsOf (run noticeBrokerStep .idle ops)
          id).filterMap SendEnd.row?) :
    ∃ job,
      (run noticeBrokerStep .idle ops).submitted[id]? =
          some job ∧
        row.channel = sendChannel job.1 := by
  rcases List.mem_filterMap.mp hRow with
    ⟨sendEnd, hEnd, hWritten⟩
  rcases performed_of_mem_endsOf hEnd with
    ⟨job, retries, call, hJob, rfl⟩
  exact ⟨job, hJob, channel_performNotice hWritten⟩

/- The tasks whose attempts can end so. -/
def SendEnd.EndOf
    (task : NoticeTask) :
    SendEnd → Prop
  | crashed | unknownEvent => True
  | pushed => task = .pushWebsocketAlert
  | noWebhook | accepted _ | refused _ =>
      task ≠ .pushWebsocketAlert

theorem endOf_sendNotification
    {task : NoticeTask}
    (hTask : task ≠ .pushWebsocketAlert)
    (channel : String)
    (retries : Nat)
    (call : SendCall) :
    (sendNotification channel retries call).EndOf task := by
  unfold sendNotification
  by_cases hUrl : call.webhookUrl = ""
  · rw [if_pos hUrl]
    exact hTask
  · rw [if_neg hUrl]
    cases call.event with
    | none => trivial
    | some event =>
        cases call.refusal with
        | none => exact hTask
        | some reason => exact hTask

theorem endOf_performNotice
    (job : NoticeTask × Nat)
    (retries : Nat)
    (call : SendCall) :
    (performNotice job retries call).EndOf job.1 := by
  unfold performNotice
  split_ifs with hCrash
  · trivial
  · cases hTask : job.1 with
    | pushWebsocketAlert =>
        simp only [pushWebsocketAlert]
        cases call.event with
        | none => trivial
        | some event =>
            simp only
            split_ifs with hRefusal
            · rfl
            · trivial
    | sendSlackNotification =>
        have hNe :
            NoticeTask.sendSlackNotification ≠
              .pushWebsocketAlert := by
          decide
        exact endOf_sendNotification hNe "Slack" retries call
    | sendDiscordNotification =>
        have hNe :
            NoticeTask.sendDiscordNotification ≠
              .pushWebsocketAlert := by
          decide
        exact
          endOf_sendNotification hNe "Discord" retries call

/- The attempts at a task end as the task can. -/
theorem endOf_attempts
    {ops : List NoticeBrokerOp}
    {id : Nat}
    {sendEnd : SendEnd}
    (hEnd :
      sendEnd ∈
        endsOf (run noticeBrokerStep .idle ops) id) :
    ∃ job,
      (run noticeBrokerStep .idle ops).submitted[id]? =
          some job ∧
        sendEnd.EndOf job.1 := by
  rcases performed_of_mem_endsOf hEnd with
    ⟨job, retries, call, hJob, rfl⟩
  exact
    ⟨job, hJob, endOf_performNotice job retries call⟩

/-
  How a task is over after its last attempt: accepted,
  refused as all four, or without anything to try again.
-/
def SendEnd.IsLast
    (attempts : Nat)
    (sendEnd : SendEnd) :
    Prop :=
  (∃ row, sendEnd = .accepted row) ∨
    ((∃ row, sendEnd = .refused row) ∧
      attempts = maxRetries + 1) ∨
    sendEnd = .noWebhook ∨ sendEnd = .unknownEvent ∨
    sendEnd = .crashed ∨ sendEnd = .pushed

theorem isLast_of_failed
    {attempts : Nat}
    {sendEnd : SendEnd}
    (hFull :
      sendEnd.failed = true → attempts = maxRetries + 1) :
    sendEnd.IsLast attempts := by
  cases sendEnd with
  | accepted row => exact Or.inl ⟨row, rfl⟩
  | refused row =>
      exact Or.inr (Or.inl ⟨⟨row, rfl⟩, hFull rfl⟩)
  | noWebhook => simp [SendEnd.IsLast]
  | unknownEvent => simp [SendEnd.IsLast]
  | crashed => simp [SendEnd.IsLast]
  | pushed => simp [SendEnd.IsLast]

/-
  In whatever order the workers take the tasks, a delivery
  is tried at most four times and never again once it has
  ended otherwise than by a failure, and a history that is
  always written says that it was accepted, or that all
  four attempts failed, once.  A task waits for its next
  attempt, is lost, or is over in one of six ways.
-/
theorem delivery_reported
    (ops : List NoticeBrokerOp)
    (hSaves :
      ∀ id call,
        BrokerOp.take id call ∈ ops → call.saves = true)
    (id : Nat) :
    let broker := run noticeBrokerStep .idle ops
    let ends := endsOf broker id
    let rows := ends.filterMap SendEnd.row?
    ends.length ≤ maxRetries + 1 ∧
      (∀ sendEnd ∈ ends.dropLast, sendEnd.failed) ∧
      rows.map SendHistory.result = outcomeOf ends ∧
      (∀ row ∈ rows, ∃ job,
        broker.submitted[id]? = some job ∧
          row.channel = sendChannel job.1) ∧
      (∀ sendEnd ∈ ends, ∃ job,
        broker.submitted[id]? = some job ∧
          sendEnd.EndOf job.1) ∧
      (∀ retries, broker.waiting id = some retries →
        retries ≤ maxRetries ∧ ends.length = retries ∧
          ∀ sendEnd ∈ ends, sendEnd.failed) ∧
      (id < broker.submitted.length →
        broker.waiting id ≠ none ∨ broker.lost id = true ∨
          ∃ last, ends.getLast? = some last ∧
            last.IsLast ends.length) := by
  intro broker ends rows
  have hSound :
      broker.SoundAt SendEnd.failed maxRetries id :=
    soundAt_run ops id
  have hLength :
      ends.length = (broker.attemptsOf id).length :=
    List.length_map _
  refine ⟨?_, ?_, ?_, ?_, ?_, ?_, ?_⟩
  · rw [hLength]
    exact hSound.bounded
  · intro sendEnd hMem
    have hEnds :
        ends.dropLast =
          (broker.attemptsOf id).dropLast.map
            Attempt.result :=
      List.map_dropLast.symm
    rw [hEnds] at hMem
    rcases List.mem_map.mp hMem with ⟨attempt, hIn, rfl⟩
    exact hSound.before attempt hIn
  · exact
      (result_rows hSaves id).trans
        (filterMap_report hSound.numbered hSound.bounded
          hSound.before)
  · exact fun _ => channel_rows
  · exact fun _ => endOf_attempts
  · intro retries hWaiting
    rcases hSound.waits retries hWaiting with
      ⟨hLe, hCount, hFailed⟩
    refine ⟨hLe, hLength.trans hCount, ?_⟩
    intro sendEnd hMem
    rcases List.mem_map.mp hMem with ⟨attempt, hIn, rfl⟩
    exact hFailed attempt hIn
  · intro hKnown
    by_cases hWaiting : broker.waiting id = none
    · by_cases hLost : broker.lost id = true
      · exact Or.inr (Or.inl hLost)
      · refine Or.inr (Or.inr ?_)
        rcases hSound.ended hKnown hWaiting
          (Bool.eq_false_iff.mpr hLost) with
          ⟨last, hLast, hFull⟩
        refine ⟨last.result, ?_, ?_⟩
        · change
            ((broker.attemptsOf id).map
              Attempt.result).getLast? = _
          rw [List.getLast?_map, hLast]
          rfl
        · rw [hLength]
          exact isLast_of_failed hFull
    · exact Or.inl hWaiting

/- A worker's attempt to send the first alarm. -/
def coSend
    (refusal : Option String) :
    SendCall where
  now := 10000000
  crash := false
  webhookUrl := "https://hooks"
  event := some (coAlarm 0 1)
  policies := []
  text := "co"
  refusal := refusal
  saves := true

/- Slack refuses the alarm once, Discord four times. -/
def twoChannelRun : List NoticeBrokerOp :=
  [.submit (.sendSlackNotification, 0),
    .submit (.sendDiscordNotification, 0),
    .take 1 (coSend (some "502")),
    .take 0 (coSend (some "timeout")),
    .take 1 (coSend (some "502")),
    .take 0 (coSend none),
    .take 1 (coSend (some "502")),
    .take 1 (coSend (some "502"))]

/- One success of Slack, and one failure of Discord. -/
theorem delivery_reported_slack :
    let broker := run noticeBrokerStep .idle twoChannelRun
    (((endsOf broker 0).filterMap SendEnd.row?).map
        SendHistory.result =
      [.success]) ∧
      (((endsOf broker 1).filterMap SendEnd.row?).map
          SendHistory.result =
        [.failure]) := by
  intro broker
  have hSaves :
      ∀ id call,
        BrokerOp.take id call ∈ twoChannelRun →
          call.saves = true := by
    intro id call hMem
    simp only [twoChannelRun, List.mem_cons,
      List.not_mem_nil, or_false, reduceCtorEq,
      false_or, BrokerOp.take.injEq] at hMem
    rcases hMem with ⟨_, rfl⟩ | ⟨_, rfl⟩ | ⟨_, rfl⟩ |
      ⟨_, rfl⟩ | ⟨_, rfl⟩ | ⟨_, rfl⟩ <;> rfl
  rw [(delivery_reported twoChannelRun hSaves 0).2.2.1,
    (delivery_reported twoChannelRun hSaves 1).2.2.1]
  constructor
  · decide +kernel
  · decide +kernel

end Alerts

end Icmp2
