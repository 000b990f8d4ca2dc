import Icmp2.Alerts.Lifecycle
import Icmp2.Library.Replay

/-
  The history of an event and its closing time.

  Main definitions include:
    * `Icmp2.Alerts.AlertStore.historyOf`
    * `Icmp2.Alerts.Faithful`
    * `Icmp2.Alerts.ClosedAtTrue`

  Main theorems include:
    * `Icmp2.Alerts.Faithful.record`
    * `Icmp2.Alerts.history_faithful`
    * `Icmp2.Alerts.closedAtTrue_storeStep_iff`
    * `Icmp2.Alerts.closed_at_true_iff`
-/

------------------------------------------------------------
-- The History of an Event
------------------------------------------------------------

namespace Icmp2

namespace Alerts

open Monitoring AiEngine Library

/- The status to which a row of history led. -/
def EventHistory.status?
    (row : EventHistory) :
    Option EventStatus :=
  if row.actionType = "acknowledge" then
    some .acknowledged
  else if row.actionType = "close" then
    some .closed
  else if row.actionType = "reopen" then
    some .«open»
  else
    none

theorem status?_action
    (status : EventStatus)
    (row : EventHistory)
    (hAction : row.actionType = status.action) :
    row.status? = some status := by
  unfold EventHistory.status?
  rw [hAction]
  cases status with
  | «open» => decide
  | acknowledged => decide
  | closed => decide

/- The rows of one event, oldest first. -/
def AlertStore.historyOf
    (store : AlertStore)
    (id : Nat) :
    List EventHistory :=
  store.histories.filter fun row => row.alarmEvent = id

/- The transition table as a relation. -/
def AllowedChange
    (status next : EventStatus) :
    Prop :=
  next ∈ allowedTransitions status

/-
  Every row of history is about a stored event, and the
  rows of an event lead from OPEN to its status.
-/
structure Faithful
    (store : AlertStore) :
    Prop where
  known :
    ∀ row ∈ store.histories,
      row.alarmEvent < store.events.nextId
  logs :
    ∀ id event,
      store.events.get? id = some event →
      LogsTo EventHistory.status? AllowedChange
        .«open» (store.historyOf id) event.eventStatus

theorem faithful_initial
    (rules : List AlarmRule) :
    Faithful (AlertStore.initial rules) where
  known := by
    intro row hRow
    cases hRow
  logs := by
    intro id event hGet
    simp [AlertStore.initial] at hGet

/- No row is about an event that is not stored yet. -/
theorem Faithful.historyOf_nextId
    {store : AlertStore}
    (hFaithful : Faithful store) :
    store.historyOf store.events.nextId = [] := by
  unfold AlertStore.historyOf
  rw [List.filter_eq_nil_iff]
  intro row hRow hSame
  have hLt := hFaithful.known row hRow
  rw [of_decide_eq_true hSame] at hLt
  exact Nat.lt_irrefl _ hLt

theorem Faithful.create
    {store : AlertStore}
    (hFaithful : Faithful store)
    {fresh : AlarmEvent}
    (hFresh : fresh.IsFresh) :
    Faithful (store.createAlarmEvent fresh) where
  known := by
    intro row hRow
    simp only [AlertStore.createAlarmEvent,
      Table.nextId_insert]
    exact Nat.lt_succ_of_lt (hFaithful.known row hRow)
  logs := by
    intro id event hGet
    simp only [AlertStore.createAlarmEvent,
      Table.get?_insert] at hGet
    change
      LogsTo _ _ _ (store.historyOf id) event.eventStatus
    split at hGet
    · rename_i hId
      cases hGet
      rw [hId, hFaithful.historyOf_nextId, hFresh.opened]
      exact LogsTo.nil _
    · exact hFaithful.logs id event hGet

theorem Faithful.refresh
    {store : AlertStore}
    (hFaithful : Faithful store)
    (id : Nat)
    {refresh : AlarmEvent → AlarmEvent}
    (hKeeps : KeepsStatus refresh) :
    Faithful (store.refreshEvent id refresh) where
  known := by
    intro row hRow
    simp only [AlertStore.refreshEvent,
      Table.nextId_modify]
    exact hFaithful.known row hRow
  logs := by
    intro other event hGet
    change
      LogsTo _ _ _ (store.historyOf other) event.eventStatus
    simp only [AlertStore.refreshEvent,
      Table.get?_modify] at hGet
    split at hGet
    · rcases Option.map_eq_some_iff.mp hGet with
        ⟨before, hBefore, rfl⟩
      rw [(hKeeps before).1]
      exact hFaithful.logs other before hBefore
    · exact hFaithful.logs other event hGet

/- A change of status that adds its own row. -/
theorem Faithful.record
    {store later : AlertStore}
    (hFaithful : Faithful store)
    {id : Nat}
    {event : AlarmEvent}
    {change : AlarmEvent → AlarmEvent}
    {row : EventHistory}
    (hGet : store.events.get? id = some event)
    (hEvents : later.events = store.events.modify id change)
    (hHistories : later.histories = store.histories ++ [row])
    (hRow : row.alarmEvent = id)
    (hStatus :
      row.status? = some (change event).eventStatus)
    (hAllowed :
      AllowedChange event.eventStatus
        (change event).eventStatus) :
    Faithful later where
  known := by
    intro other hOther
    rw [hEvents, Table.nextId_modify]
    rw [hHistories, List.mem_append,
      List.mem_singleton] at hOther
    rcases hOther with hOld | rfl
    · exact hFaithful.known other hOld
    · rw [hRow]
      exact Table.lt_nextId_of_get? hGet
  logs := by
    intro other current hCurrent
    rw [hEvents, Table.get?_modify] at hCurrent
    unfold AlertStore.historyOf
    rw [hHistories, List.filter_append]
    by_cases hSame : id = other
    · subst hSame
      rw [if_pos rfl, hGet, Option.map_some,
        Option.some.injEq] at hCurrent
      subst hCurrent
      rw [List.filter_singleton, hRow]
      simp only [decide_true, cond_true]
      exact
        (hFaithful.logs id event hGet).snoc
          hStatus hAllowed
    · rw [if_neg hSame] at hCurrent
      have hOut : decide (row.alarmEvent = other) = false :=
        decide_eq_false (by rw [hRow]; exact hSame)
      rw [List.filter_singleton, hOut, cond_false,
        List.append_nil]
      exact hFaithful.logs other current hCurrent

theorem Faithful.write
    {before after : AlertStore}
    (hFaithful : Faithful before)
    (hWrite : Write before after) :
    Faithful after := by
  cases hWrite with
  | edit rules => exact ⟨hFaithful.known, hFaithful.logs⟩
  | create hFresh => exact hFaithful.create hFresh
  | refresh id hKeeps => exact hFaithful.refresh id hKeeps
  | close now note hGet hOpen =>
      apply hFaithful.record hGet rfl rfl rfl
      · exact status?_action .closed _ rfl
      · rw [hOpen]
        exact List.mem_cons_of_mem _ List.mem_cons_self

@[simp] theorem eventStatus_setStatus
    (now : Instant)
    (user : Option Nat)
    (event : AlarmEvent)
    (status : EventStatus) :
    (event.setStatus now user status).eventStatus =
      status := by
  cases status with
  | «open» => rfl
  | acknowledged => rfl
  | closed => rfl

theorem Faithful.changeStatus
    {store : AlertStore}
    (hFaithful : Faithful store)
    (call : StatusCall) :
    Faithful (changeEventStatusView store call).2 := by
  rcases changeEventStatusView_cases store call with
    ⟨event, status, hGet, hStatus, hEq⟩ |
      ⟨event, _, _, hEq⟩ | ⟨_, hEq⟩
  · rw [hEq]
    apply hFaithful.record hGet rfl rfl rfl
    · rw [eventStatus_setStatus]
      exact status?_action status _ rfl
    · rw [eventStatus_setStatus]
      exact (requestedStatus?_eq_some hStatus).1
  · rw [hEq]
    exact hFaithful
  · rw [hEq]
    exact hFaithful

theorem Faithful.step
    (text : PowerText)
    {store : AlertStore}
    (hFaithful : Faithful store)
    (op : StoreOp) :
    Faithful (storeStep text store op) := by
  by_cases hOp : ∃ call, op = .status call
  · rcases hOp with ⟨call, rfl⟩
    exact hFaithful.changeStatus call
  · push Not at hOp
    exact
      (writes_storeStep text store op hOp).invariant
        (fun _ _ hBefore hWrite => hBefore.write hWrite)
        hFaithful

/-
  After every run of operations the history of each event
  replays to its status by allowed changes, and a request
  that is answered with an error changes nothing.
-/
theorem history_faithful
    (text : PowerText)
    (rules : List AlarmRule)
    (ops : List StoreOp) :
    let store :=
      run (storeStep text) (AlertStore.initial rules) ops
    (∀ id event,
      store.events.get? id = some event →
      replay? EventHistory.status?
          .«open» (store.historyOf id) =
        some event.eventStatus ∧
      Legal EventHistory.status?
        (fun status next =>
          next ∈ allowedTransitions status)
        .«open» (store.historyOf id)) ∧
    ∀ call message,
      (changeEventStatusView store call).1 =
        .error message →
      (changeEventStatusView store call).2 = store := by
  intro store
  have hFaithful : Faithful store :=
    run_invariant
      (I := Faithful)
      (fun _ op hState => hState.step text op)
      (faithful_initial rules) ops
  refine ⟨?_, ?_⟩
  · intro id event hGet
    have hLogs := hFaithful.logs id event hGet
    exact ⟨hLogs.replayed, hLogs.legal⟩
  · intro call message hError
    rcases changeEventStatusView_cases store call with
      ⟨event, status, _, _, hEq⟩ |
        ⟨event, _, _, hEq⟩ | ⟨_, hEq⟩
    · rw [hEq] at hError
      cases hError
    · rw [hEq]
    · rw [hEq]

/- An alarm is closed, reopened and acknowledged. -/
def reopenedAlarm : List StoreOp :=
  [.power ⟨0, powerDevice, millChannel, 800⟩,
    .status ⟨60000000, 0, "closed", some 1, ""⟩,
    .status ⟨120000000, 0, "open", some 1, ""⟩,
    .status ⟨180000000, 0, "acknowledged", some 1, ""⟩]

/- The history of the alarm replays to its status. -/
theorem history_faithful_reopened :
    let store :=
      run (storeStep wholePowerText)
        (AlertStore.initial [⟨⟨3, .power⟩, true⟩])
        reopenedAlarm
    (store.historyOf 0).length = 3 ∧
      replay? EventHistory.status?
          .«open» (store.historyOf 0) =
        (store.events.get? 0).map
          AlarmEvent.eventStatus := by
  intro store
  have hEvent : (store.events.get? 0).isSome = true := by
    decide +kernel
  rcases Option.isSome_iff_exists.mp hEvent with
    ⟨event, hGet⟩
  have hFaithful :=
    history_faithful wholePowerText
      [⟨⟨3, .power⟩, true⟩] reopenedAlarm
  refine ⟨by decide +kernel, ?_⟩
  rw [(hFaithful.1 0 event hGet).1, hGet, Option.map_some]

end Alerts

end Icmp2

------------------------------------------------------------
-- The Closing Time
------------------------------------------------------------

namespace Icmp2

namespace Alerts

open Monitoring AiEngine Library

/- Exactly the closed events have a closing time. -/
def ClosedAtTrue
    (store : AlertStore) :
    Prop :=
  ∀ id event,
    store.events.get? id = some event →
    (event.closedAt.isSome ↔ event.eventStatus = .closed)

/- A request to acknowledge an event that is closed. -/
def AcknowledgesClosed
    (store : AlertStore) :
    StoreOp → Prop
  | .status call =>
      call.newStatus = EventStatus.acknowledged.text ∧
        ∃ event ∈ store.events.get? call.id,
          event.eventStatus = .closed
  | _ => False

theorem closedAtTrue_initial
    (rules : List AlarmRule) :
    ClosedAtTrue (AlertStore.initial rules) := by
  intro id event hGet
  simp [AlertStore.initial] at hGet

/- A changed event tells the truth, so all events do. -/
theorem ClosedAtTrue.modify
    {store later : AlertStore}
    (hTrue : ClosedAtTrue store)
    {id : Nat}
    {change : AlarmEvent → AlarmEvent}
    (hEvents : later.events = store.events.modify id change)
    (hChange :
      ∀ event,
        store.events.get? id = some event →
        ((change event).closedAt.isSome ↔
          (change event).eventStatus = .closed)) :
    ClosedAtTrue later := by
  intro other event hGet
  rw [hEvents, Table.get?_modify] at hGet
  split at hGet
  · rename_i hSame
    subst hSame
    rcases Option.map_eq_some_iff.mp hGet with
      ⟨before, hBefore, rfl⟩
    exact hChange before hBefore
  · exact hTrue other event hGet

theorem ClosedAtTrue.write
    {before after : AlertStore}
    (hTrue : ClosedAtTrue before)
    (hWrite : Write before after) :
    ClosedAtTrue after := by
  cases hWrite with
  | edit rules => exact hTrue
  | create hFresh =>
      intro id event hGet
      simp only [AlertStore.createAlarmEvent,
        Table.get?_insert] at hGet
      split at hGet
      · cases hGet
        simp [hFresh.opened, hFresh.unclosed]
      · exact hTrue id event hGet
  | refresh id hKeeps =>
      apply hTrue.modify rfl
      intro event hGet
      rw [(hKeeps event).1, (hKeeps event).2]
      exact hTrue id event hGet
  | close now note hGet hOpen =>
      apply hTrue.modify rfl
      intro event _
      simp [AlarmEvent.close]

/-
  A change of status keeps the truth, unless it is the
  acknowledging of a closed event.
-/
theorem setStatus_truthful_iff
    (now : Instant)
    (user : Option Nat)
    {event : AlarmEvent}
    {status : EventStatus}
    (hTrue :
      event.closedAt.isSome ↔ event.eventStatus = .closed) :
    ((event.setStatus now user status).closedAt.isSome ↔
        (event.setStatus now user status).eventStatus =
          .closed) ↔
      ¬ (status = .acknowledged ∧
        event.eventStatus = .closed) := by
  cases status with
  | «open» => simp [AlarmEvent.setStatus]
  | acknowledged => simp [AlarmEvent.setStatus, hTrue]
  | closed => simp [AlarmEvent.setStatus]

theorem EventStatus.text_injective :
    Function.Injective EventStatus.text := by
  intro left right hText
  cases left <;> cases right <;>
    first | rfl | exact absurd hText (by decide)

/- A closed event can be asked to be acknowledged. -/
theorem acknowledged_allowed
    {event : AlarmEvent}
    (hClosed : event.eventStatus = .closed) :
    requestedStatus? event EventStatus.acknowledged.text =
      some .acknowledged := by
  unfold requestedStatus?
  rw [hClosed]
  decide

/- The exact condition for a request. -/
theorem closedAtTrue_changeStatus_iff
    {store : AlertStore}
    (hTrue : ClosedAtTrue store)
    (call : StatusCall) :
    ClosedAtTrue (changeEventStatusView store call).2 ↔
      ¬ AcknowledgesClosed store (.status call) := by
  rcases changeEventStatusView_cases store call with
    ⟨event, status, hGet, hStatus, hEq⟩ |
      ⟨event, hGet, hNone, hEq⟩ | ⟨hNone, hEq⟩
  · have hText := (requestedStatus?_eq_some hStatus).2
    have hBad :
        AcknowledgesClosed store (.status call) ↔
          status = .acknowledged ∧
            event.eventStatus = .closed := by
      constructor
      · rintro ⟨hAck, other, hOther, hClosed⟩
        rw [Option.mem_def, hGet,
          Option.some.injEq] at hOther
        subst hOther
        rw [← hText] at hAck
        exact ⟨EventStatus.text_injective hAck, hClosed⟩
      · rintro ⟨rfl, hClosed⟩
        exact ⟨hText.symm, event, hGet, hClosed⟩
    rw [hEq, hBad,
      ← setStatus_truthful_iff call.now call.user
        (hTrue call.id event hGet)]
    constructor
    · intro hLater
      refine hLater call.id _ ?_
      simp only [AlertStore.saveStatus,
        Table.get?_modify_self, hGet, Option.map_some]
    · intro hChanged
      apply hTrue.modify rfl
      intro before hBefore
      rw [hGet, Option.some.injEq] at hBefore
      subst hBefore
      exact hChanged
  · rw [hEq]
    refine ⟨fun _ => ?_, fun _ => hTrue⟩
    rintro ⟨hAck, other, hOther, hClosed⟩
    rw [Option.mem_def, hGet, Option.some.injEq] at hOther
    subst hOther
    rw [hAck, acknowledged_allowed hClosed] at hNone
    cases hNone
  · rw [hEq]
    refine ⟨fun _ => ?_, fun _ => hTrue⟩
    rintro ⟨_, other, hOther, _⟩
    rw [hNone] at hOther
    cases hOther

/- The exact condition for an operation. -/
theorem closedAtTrue_storeStep_iff
    (text : PowerText)
    {store : AlertStore}
    (hTrue : ClosedAtTrue store)
    (op : StoreOp) :
    ClosedAtTrue (storeStep text store op) ↔
      ¬ AcknowledgesClosed store op := by
  by_cases hOp : ∃ call, op = .status call
  · rcases hOp with ⟨call, rfl⟩
    exact closedAtTrue_changeStatus_iff hTrue call
  · push Not at hOp
    have hLater : ClosedAtTrue (storeStep text store op) :=
      (writes_storeStep text store op hOp).invariant
        (fun _ _ hBefore hWrite => hBefore.write hWrite)
        hTrue
    have hNot : ¬ AcknowledgesClosed store op := by
      cases op with
      | status call => exact absurd rfl (hOp call)
      | _ => exact id
    exact ⟨fun _ => hNot, fun _ => hLater⟩

/-
  In all states of a run the closing time tells the truth
  exactly if the run never acknowledges a closed event.
-/
theorem closed_at_true_iff
    (text : PowerText)
    (rules : List AlarmRule)
    (ops : List StoreOp) :
    Along (storeStep text)
        (fun store op =>
          ClosedAtTrue (storeStep text store op))
        (AlertStore.initial rules) ops ↔
      Along (storeStep text)
        (fun store op => ¬ AcknowledgesClosed store op)
        (AlertStore.initial rules) ops :=
  along_iff_of_invariant
    (I := ClosedAtTrue)
    (fun _ op hTrue =>
      closedAtTrue_storeStep_iff text hTrue op)
    (fun _ _ _ hLater => hLater)
    (closedAtTrue_initial rules) ops

/- An alarm, its closing, and its acknowledging. -/
def acknowledgedLate : List StoreOp :=
  [.power ⟨0, powerDevice, millChannel, 800⟩,
    .status ⟨60000000, 0, "closed", some 1, ""⟩,
    .status ⟨120000000, 0, "acknowledged", some 1, ""⟩]

/- The acknowledged event still has a closing time. -/
theorem closed_at_left :
    let store :=
      run (storeStep wholePowerText)
        (AlertStore.initial [⟨⟨3, .power⟩, true⟩])
        acknowledgedLate
    ¬ ClosedAtTrue store ∧
      (store.events.get? 0).map
          (fun event =>
            (event.eventStatus, event.closedAt)) =
        some (.acknowledged, some 60000000) := by
  intro store
  have hEvent :
      (store.events.get? 0).map
          (fun event =>
            (event.eventStatus, event.closedAt)) =
        some (.acknowledged, some 60000000) := by
    decide +kernel
  refine ⟨?_, hEvent⟩
  intro hTrue
  rcases Option.map_eq_some_iff.mp hEvent with
    ⟨event, hGet, hPair⟩
  have hIff := hTrue 0 event hGet
  rw [Prod.mk.injEq] at hPair
  rw [hPair.1, hPair.2] at hIff
  cases hIff.mp rfl

end Alerts

end Icmp2
