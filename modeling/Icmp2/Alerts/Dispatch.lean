import Icmp2.Alerts.Notifications
import Icmp2.Library.Program

/-
  The dispatch of notifications, write by write.

  Main definitions include:
    * `Icmp2.Alerts.NoticeFault`
    * `Icmp2.Alerts.noticeProgram`
    * `Icmp2.Alerts.executeNotice`
    * `Icmp2.Alerts.CooldownIsReal`
    * `Icmp2.Alerts.DispatchesFirst`

  Main theorems include:
    * `Icmp2.Alerts.executeStep_of_no_fault`
    * `Icmp2.Alerts.stops_noticeProgram_iff`
    * `Icmp2.Alerts.cooldownIsReal_iff`
    * `Icmp2.Alerts.cooldown_is_real_iff`

  The key of the cooldown is written before the policies
  are read and before the first task is queued, and the
  task is not retried.  An exception in between leaves the
  key without a notification.
-/

------------------------------------------------------------
-- Writes and Faults
------------------------------------------------------------

namespace Icmp2

namespace Alerts

open Monitoring AiEngine Library

/- Where the task can raise behind its check of the key. -/
inductive NoticeFault where
  | setKey
  | policyQuery
  | enqueue (position : Nat)
  deriving DecidableEq, Repr

/- An execution of the task, with the exception it meets. -/
structure NoticeExecution extends NoticeCall where
  fault : Option NoticeFault

/- What the policy in force asks to queue. -/
def NoticeCall.tasks
    (call : NoticeCall)
    (event : AlarmEvent) :
    List NoticeTask :=
  noticeTasks (alarmPolicyOf call.policies event)

/- `cache.set(dedup_key, 1, timeout=300)`. -/
def startCooldown
    (call : NoticeCall)
    (event : AlarmEvent)
    (dispatcher : Dispatcher) :
    Dispatcher :=
  { dispatcher with
    dedup :=
      dispatcher.dedup.set
        call.now dedupTimeout (dedupKey event) }

/- `.delay(event_id)` of one task. -/
def enqueueNotice
    (eventId : Nat)
    (task : NoticeTask)
    (dispatcher : Dispatcher) :
    Dispatcher :=
  { dispatcher with
    queue := dispatcher.queue ++ [(task, eventId)] }

/- The writes behind the check, in their order. -/
def noticeProgram
    (call : NoticeCall)
    (event : AlarmEvent) :
    Program Dispatcher :=
  (Program.write (startCooldown call event)).andThen
    (Program.forEach
      (fun task =>
        Program.write (enqueueNotice call.eventId task))
      (call.tasks event))

/- The writes that are made before a fault. -/
def NoticeFault.writes : NoticeFault → Nat
  | .setKey => 0
  | .policyQuery => 1
  | .enqueue position => position + 1

/-
  The execution comes by the fault: the policies are only
  queried for types that have one, and there are only so
  many calls of `.delay`.
-/
def NoticeFault.Met
    (call : NoticeCall)
    (event : AlarmEvent) :
    NoticeFault → Prop
  | .setKey => True
  | .policyQuery => policyEventName event.eventType ≠ ""
  | .enqueue position =>
      position < (call.tasks event).length

instance
    (call : NoticeCall)
    (event : AlarmEvent) :
    DecidablePred (NoticeFault.Met call event) :=
  fun fault =>
    match fault with
    | .setKey => isTrue trivial
    | .policyQuery =>
        inferInstanceAs
          (Decidable (policyEventName event.eventType ≠ ""))
    | .enqueue position =>
        inferInstanceAs
          (Decidable (position < (call.tasks event).length))

/- How an execution ends. -/
inductive NoticeEnd where
  | unknownEvent
  | suppressed
  | dispatched
  | raised (fault : NoticeFault)
  deriving DecidableEq, Repr

/- `send_all_notifications` with a possible exception. -/
def executeNotice
    (dispatcher : Dispatcher)
    (execution : NoticeExecution) :
    NoticeEnd × Dispatcher :=
  match execution.event with
  | none => (.unknownEvent, dispatcher)
  | some event =>
      let writes := noticeProgram execution.toNoticeCall event
      if dispatcher.dedup.Live execution.now
          (dedupKey event) then
        (.suppressed, dispatcher)
      else
        match execution.fault with
        | none => (.dispatched, writes.finish dispatcher)
        | some fault =>
            if fault.Met execution.toNoticeCall event then
              (.raised fault,
                writes.stopAfter fault.writes dispatcher)
            else
              (.dispatched, writes.finish dispatcher)

/- The dispatcher after an execution. -/
def executeStep
    (dispatcher : Dispatcher)
    (execution : NoticeExecution) :
    Dispatcher :=
  (executeNotice dispatcher execution).2

/- The cooldown started and some tasks queued. -/
def dispatchOf
    (call : NoticeCall)
    (event : AlarmEvent)
    (tasks : List NoticeTask)
    (dispatcher : Dispatcher) :
    Dispatcher where
  dedup :=
    dispatcher.dedup.set
      call.now dedupTimeout (dedupKey event)
  queue :=
    dispatcher.queue ++
      tasks.map fun task => (task, call.eventId)

section Writes

variable (call : NoticeCall)
variable (event : AlarmEvent)
variable (dispatcher : Dispatcher)

theorem run_enqueueNotice
    (tasks : List NoticeTask) :
    run (fun current task =>
        enqueueNotice call.eventId task current)
        dispatcher tasks =
      { dispatcher with
        queue :=
          dispatcher.queue ++
            tasks.map fun task => (task, call.eventId) } := by
  induction tasks generalizing dispatcher with
  | nil =>
      rw [run_nil, List.map_nil, List.append_nil]
  | cons task tasks ih =>
      rw [run_cons, ih]
      simp only [enqueueNotice, List.map_cons,
        List.append_assoc, List.singleton_append]

/- Behind the key, a number of tasks has been queued. -/
theorem stopAfter_noticeProgram
    (count : Nat) :
    (noticeProgram call event).stopAfter (count + 1)
        dispatcher =
      dispatchOf call event
        ((call.tasks event).take count) dispatcher := by
  rw [noticeProgram, Program.stopAfter_write_andThen,
    Program.stopAfter_forEach_write, run_enqueueNotice]
  rfl

theorem finish_noticeProgram :
    (noticeProgram call event).finish dispatcher =
      dispatchOf call event (call.tasks event)
        dispatcher := by
  rw [noticeProgram, Program.finish_andThen,
    Program.finish_forEach]
  simp only [Program.finish_write]
  rw [run_enqueueNotice]
  rfl

end Writes

end Alerts

end Icmp2

------------------------------------------------------------
-- Executions
------------------------------------------------------------

namespace Icmp2

namespace Alerts

open Monitoring AiEngine Library

section Executions

variable {dispatcher : Dispatcher}
variable {execution : NoticeExecution}
variable {event : AlarmEvent}

theorem executeNotice_of_none
    (hNone : execution.event = none) :
    executeNotice dispatcher execution =
      (.unknownEvent, dispatcher) := by
  simp only [executeNotice, hNone]

theorem executeNotice_of_live
    (hEvent : execution.event = some event)
    (hLive :
      dispatcher.dedup.Live execution.now
        (dedupKey event)) :
    executeNotice dispatcher execution =
      (.suppressed, dispatcher) := by
  simp only [executeNotice, hEvent, if_pos hLive]

/- Without an exception everything is queued. -/
theorem executeStep_of_not_met
    (hEvent : execution.event = some event)
    (hNot :
      ¬ dispatcher.dedup.Live execution.now
        (dedupKey event))
    (hMet :
      ∀ fault, execution.fault = some fault →
        ¬ fault.Met execution.toNoticeCall event) :
    executeStep dispatcher execution =
      dispatchOf execution.toNoticeCall event
        (execution.tasks event) dispatcher := by
  rw [← finish_noticeProgram]
  simp only [executeStep, executeNotice, hEvent,
    if_neg hNot]
  cases hFault : execution.fault with
  | none => rfl
  | some fault => simp only [if_neg (hMet fault hFault)]

/- A fault keeps the writes that were made before it. -/
theorem executeStep_of_met
    {fault : NoticeFault}
    (hEvent : execution.event = some event)
    (hNot :
      ¬ dispatcher.dedup.Live execution.now
        (dedupKey event))
    (hFault : execution.fault = some fault)
    (hMet : fault.Met execution.toNoticeCall event) :
    executeStep dispatcher execution =
      (noticeProgram execution.toNoticeCall
        event).stopAfter fault.writes dispatcher := by
  simp only [executeStep, executeNotice, hEvent,
    if_neg hNot, hFault, if_pos hMet]

/- An execution that does not raise is a call. -/
theorem executeStep_of_no_fault
    (hFault : execution.fault = none) :
    executeStep dispatcher execution =
      noticeStep dispatcher execution.toNoticeCall := by
  cases hEvent : execution.event with
  | none =>
      rw [executeStep, executeNotice_of_none hEvent,
        noticeStep, sendAllNotifications_of_none hEvent]
  | some event =>
      by_cases hLive :
          dispatcher.dedup.Live execution.now
            (dedupKey event)
      · rw [executeStep, executeNotice_of_live hEvent hLive,
          noticeStep,
          sendAllNotifications_of_live hEvent hLive]
      · rw [executeStep_of_not_met hEvent hLive
          (fun fault hSome => by
            rw [hFault] at hSome
            cases hSome)]
        simp only [noticeStep, sendAllNotifications,
          hEvent, if_neg hLive]
        rfl

/-
  Wherever an exception can leave the writes behind the
  check, some fault, or the end, leaves them.
-/
theorem stops_noticeProgram_iff
    (call : NoticeCall)
    (event : AlarmEvent)
    (dispatcher stopped : Dispatcher) :
    (noticeProgram call event).Stops dispatcher stopped ↔
      stopped = dispatcher ∨
        ∃ count, stopped =
          dispatchOf call event
            ((call.tasks event).take count) dispatcher := by
  rw [Program.stops_iff_stopAfter]
  constructor
  · rintro ⟨count, rfl⟩
    cases count with
    | zero => exact Or.inl rfl
    | succ count =>
        exact
          Or.inr ⟨count, stopAfter_noticeProgram _ _ _ _⟩
  · rintro (rfl | ⟨count, rfl⟩)
    · exact ⟨0, rfl⟩
    · exact
        ⟨count + 1,
          (stopAfter_noticeProgram _ _ _ _).symm⟩

end Executions

end Alerts

end Icmp2

------------------------------------------------------------
-- The Cooldown of a Failed Dispatch
------------------------------------------------------------

namespace Icmp2

namespace Alerts

open Monitoring AiEngine Library

/- Some channel was enqueued by the execution. -/
def Enqueues
    (dispatcher : Dispatcher)
    (execution : NoticeExecution) :
    Prop :=
  (executeStep dispatcher execution).queue ≠
    dispatcher.queue

/-
  If an execution passes its check and enqueues nothing,
  the key is not set behind it, and the next event of the
  key is dispatched.
-/
def CooldownIsReal
    (dispatcher : Dispatcher)
    (execution : NoticeExecution) :
    Prop :=
  ∀ event,
    execution.event = some event →
    ¬ dispatcher.dedup.Live execution.now
        (dedupKey event) →
    ¬ Enqueues dispatcher execution →
      ¬ (executeStep dispatcher execution).dedup.Live
          execution.now (dedupKey event) ∧
        ∀ (next : NoticeCall) (other : AlarmEvent),
          next.event = some other →
          other.rule.id = event.rule.id →
          other.facility = event.facility →
          other.severity = event.severity →
          execution.now ≤ next.now →
            ∃ tasks,
              (sendAllNotifications
                (executeStep dispatcher execution)
                next).1 =
                .dispatched tasks

/-
  An execution that passes its check names some channel,
  and neither the query of the policies nor the first call
  of `.delay` raises; or it raises before it sets the key.
-/
def DispatchesFirst
    (dispatcher : Dispatcher)
    (execution : NoticeExecution) :
    Prop :=
  ∀ event,
    execution.event = some event →
    ¬ dispatcher.dedup.Live execution.now
        (dedupKey event) →
      execution.fault = some .setKey ∨
        (execution.tasks event ≠ [] ∧
          execution.fault ≠ some (.enqueue 0) ∧
          (execution.fault = some .policyQuery →
            policyEventName event.eventType = ""))

section Dispatches

variable {dispatcher : Dispatcher}
variable {execution : NoticeExecution}
variable {event : AlarmEvent}

/-
  What an execution leaves that passes its check: nothing
  at all, or the key and the first tasks.
-/
theorem executeStep_cases
    (hEvent : execution.event = some event)
    (hNot :
      ¬ dispatcher.dedup.Live execution.now
        (dedupKey event)) :
    (execution.fault = some .setKey ∧
        executeStep dispatcher execution = dispatcher) ∨
      (execution.fault ≠ some .setKey ∧
        ∃ count,
          executeStep dispatcher execution =
            dispatchOf execution.toNoticeCall event
              ((execution.tasks event).take count)
              dispatcher ∧
          ((execution.tasks event).take count = [] ↔
            ¬ (execution.tasks event ≠ [] ∧
              execution.fault ≠ some (.enqueue 0) ∧
              (execution.fault = some .policyQuery →
                policyEventName event.eventType =
                  "")))) := by
  have hAll :
      (execution.tasks event).take
          (execution.tasks event).length =
        execution.tasks event :=
    List.take_length
  cases hFault : execution.fault with
  | none =>
      refine
        Or.inr
          ⟨nofun, (execution.tasks event).length, ?_, ?_⟩
      · rw [executeStep_of_not_met hEvent hNot
          (fun fault hSome => by
            rw [hFault] at hSome
            cases hSome), hAll]
      · rw [hAll]
        simp
  | some fault =>
      cases fault with
      | setKey =>
          refine Or.inl ⟨rfl, ?_⟩
          rw [executeStep_of_met hEvent hNot hFault trivial]
          rfl
      | policyQuery =>
          by_cases hName :
              policyEventName event.eventType = ""
          · refine
              Or.inr
                ⟨nofun, (execution.tasks event).length,
                  ?_, ?_⟩
            · rw [executeStep_of_not_met hEvent hNot
                (fun fault hSome hMet => by
                  rw [hFault] at hSome
                  cases hSome
                  exact hMet hName), hAll]
            · rw [hAll]
              simp [hName]
          · refine Or.inr ⟨nofun, 0, ?_, ?_⟩
            · rw [executeStep_of_met hEvent hNot hFault
                hName]
              exact stopAfter_noticeProgram _ _ _ 0
            · simp [hName]
      | enqueue position =>
          by_cases hMet :
              position < (execution.tasks event).length
          · refine Or.inr ⟨nofun, position, ?_, ?_⟩
            · rw [executeStep_of_met hEvent hNot hFault
                hMet]
              exact stopAfter_noticeProgram _ _ _ position
            · rw [List.take_eq_nil_iff]
              cases position with
              | zero => simp
              | succ position => simp
          · refine
              Or.inr
                ⟨nofun, (execution.tasks event).length,
                  ?_, ?_⟩
            · rw [executeStep_of_not_met hEvent hNot
                (fun fault hSome hOther => by
                  rw [hFault] at hSome
                  cases hSome
                  exact hMet hOther), hAll]
            · rw [hAll]
              cases position with
              | zero =>
                  have hNil : execution.tasks event = [] :=
                    List.length_eq_zero_iff.mp (by omega)
                  simp [hNil]
              | succ position => simp

/- A queue is only left unchanged by no task. -/
theorem dispatchOf_queue_eq_iff
    (call : NoticeCall)
    (event : AlarmEvent)
    (tasks : List NoticeTask)
    (dispatcher : Dispatcher) :
    (dispatchOf call event tasks dispatcher).queue =
        dispatcher.queue ↔
      tasks = [] := by
  simp only [dispatchOf, List.append_right_eq_self,
    List.map_eq_nil_iff]

theorem dispatchOf_live
    (call : NoticeCall)
    (event : AlarmEvent)
    (tasks : List NoticeTask)
    (dispatcher : Dispatcher) :
    (dispatchOf call event tasks dispatcher).dedup.Live
      call.now (dedupKey event) := by
  have hLate : call.now < call.now + dedupTimeout :=
    Int.lt_add_of_pos_right call.now (by decide)
  exact
    (ExpiringCache.live_set_self
      dispatcher.dedup call.now call.now dedupTimeout
      (dedupKey event)).mpr hLate

/- A key that is not live stays so as time passes. -/
theorem not_live_of_le
    {cache : ExpiringCache String}
    {now later : Instant}
    {key : String}
    (hNot : ¬ cache.Live now key)
    (hLe : now ≤ later) :
    ¬ cache.Live later key := by
  rintro ⟨expiry, hExpiry, hLt⟩
  exact hNot ⟨expiry, hExpiry, lt_of_le_of_lt hLe hLt⟩

/- The cooldown of one execution, decided by its inputs. -/
theorem cooldownIsReal_iff
    (dispatcher : Dispatcher)
    (execution : NoticeExecution) :
    CooldownIsReal dispatcher execution ↔
      DispatchesFirst dispatcher execution := by
  constructor
  · intro hReal event hEvent hNot
    rcases executeStep_cases hEvent hNot with
      ⟨hFault, _⟩ | ⟨_, count, hStep, hTasks⟩
    · exact Or.inl hFault
    · refine Or.inr (by_contra fun hFirst => ?_)
      have hNil := hTasks.mpr hFirst
      have hQueue :
          ¬ Enqueues dispatcher execution := by
        rw [Enqueues, not_not, hStep]
        exact (dispatchOf_queue_eq_iff _ _ _ _).mpr hNil
      have hDead := (hReal event hEvent hNot hQueue).1
      rw [hStep] at hDead
      exact hDead (dispatchOf_live _ _ _ _)
  · intro hFirst event hEvent hNot hQueue
    rcases executeStep_cases hEvent hNot with
      ⟨_, hStep⟩ | ⟨hSet, count, hStep, hTasks⟩
    · rw [hStep]
      refine ⟨hNot, ?_⟩
      intro next other hOther hRule hFacility hSeverity hLe
      have hKey : dedupKey other = dedupKey event :=
        (dedupKey_eq_iff other event).mpr
          ⟨hRule, hFacility, hSeverity⟩
      have hStill :
          ¬ dispatcher.dedup.Live next.now
            (dedupKey other) := by
        rw [hKey]
        exact not_live_of_le hNot hLe
      exact
        (sendAllNotifications_of_not_live
          hOther hStill).1
    · refine absurd ?_ hQueue
      rw [Enqueues, hStep, ne_eq,
        dispatchOf_queue_eq_iff, hTasks, not_not]
      exact
        (hFirst event hEvent hNot).resolve_left hSet

/- A key of the cache is old, or of a real dispatch. -/
theorem dedup_executeStep
    (hFirst : DispatchesFirst dispatcher execution)
    {key : String}
    {expiry : Int}
    (hKey :
      (executeStep dispatcher execution).dedup key =
        some expiry) :
    dispatcher.dedup key = some expiry ∨
      ∃ event,
        execution.event = some event ∧
          dedupKey event = key ∧
          Enqueues dispatcher execution ∧
          expiry = execution.now + dedupTimeout := by
  cases hEvent : execution.event with
  | none =>
      rw [executeStep, executeNotice_of_none hEvent] at hKey
      exact Or.inl hKey
  | some event =>
      by_cases hLive :
          dispatcher.dedup.Live execution.now
            (dedupKey event)
      · rw [executeStep,
          executeNotice_of_live hEvent hLive] at hKey
        exact Or.inl hKey
      · rcases executeStep_cases hEvent hLive with
          ⟨_, hStep⟩ | ⟨hSet, count, hStep, hTasks⟩
        · rw [hStep] at hKey
          exact Or.inl hKey
        · have hQueue : Enqueues dispatcher execution := by
            rw [Enqueues, hStep, ne_eq,
              dispatchOf_queue_eq_iff, hTasks, not_not]
            exact
              (hFirst event hEvent hLive).resolve_left hSet
          rw [hStep] at hKey
          by_cases hSame : key = dedupKey event
          · refine
              Or.inr ⟨event, rfl, hSame.symm, hQueue, ?_⟩
            have hNew :
                some (execution.now + dedupTimeout) =
                  some expiry := by
              rw [← hKey, hSame]
              exact (if_pos rfl).symm
            exact (Option.some.inj hNew).symm
          · refine Or.inl ?_
            rw [← hKey]
            exact (if_neg hSame).symm

end Dispatches

/-
  Where every execution dispatches first, a key that is
  set was there at the start, or was set by an execution
  of the run that enqueued a channel.
-/
theorem dedup_run_dispatched
    {dispatcher : Dispatcher}
    {history : List NoticeExecution}
    (hFirst :
      Along executeStep DispatchesFirst dispatcher history)
    {key : String}
    {expiry : Int}
    (hKey :
      (run executeStep dispatcher history).dedup key =
        some expiry) :
    dispatcher.dedup key = some expiry ∨
      ∃ before earlier between other,
        history = before ++ earlier :: between ∧
          earlier.event = some other ∧
          dedupKey other = key ∧
          Enqueues (run executeStep dispatcher before)
            earlier ∧
          expiry = earlier.now + dedupTimeout := by
  induction history generalizing dispatcher with
  | nil => exact Or.inl hKey
  | cons execution history ih =>
      rcases ih hFirst.2 hKey with hOld | hRest
      · rcases dedup_executeStep hFirst.1 hOld with
          hOlder | ⟨event, hEvent, hSame, hQueue, hTime⟩
        · exact Or.inl hOlder
        · exact
            Or.inr
              ⟨[], execution, history, event, rfl, hEvent,
                hSame, hQueue, hTime⟩
      · rcases hRest with
          ⟨before, earlier, between, other, rfl, hOther,
            hSame, hQueue, hTime⟩
        exact
          Or.inr
            ⟨execution :: before, earlier, between, other,
              rfl, hOther, hSame, hQueue, hTime⟩

/-
  The cooldown of every execution of a run is real exactly
  if every execution dispatches first; and then a
  suppressed event had an event of its rule, facility and
  severity enqueued less than 300 seconds before.
-/
theorem cooldown_is_real_iff
    (history : List NoticeExecution) :
    (∀ dispatcher,
      Along executeStep CooldownIsReal
          dispatcher history ↔
        Along executeStep DispatchesFirst
          dispatcher history) ∧
    ∀ execution event,
      Along executeStep DispatchesFirst
          .initial history →
      execution.event = some event →
      (executeNotice (run executeStep .initial history)
        execution).1 = .suppressed →
        ∃ before earlier between other,
          history = before ++ earlier :: between ∧
            earlier.event = some other ∧
            other.rule.id = event.rule.id ∧
            other.facility = event.facility ∧
            other.severity = event.severity ∧
            Enqueues (run executeStep .initial before)
              earlier ∧
            execution.now <
              earlier.now + dedupTimeout := by
  constructor
  · intro dispatcher
    exact along_congr cooldownIsReal_iff dispatcher history
  · intro execution event hFirst hEvent hEnd
    have hLive :
        (run executeStep .initial history).dedup.Live
          execution.now (dedupKey event) := by
      by_contra hNot
      simp only [executeNotice, hEvent, if_neg hNot] at hEnd
      split at hEnd
      · cases hEnd
      · split_ifs at hEnd
    rcases hLive with ⟨expiry, hExpiry, hLate⟩
    rcases dedup_run_dispatched hFirst hExpiry with
      hStart | ⟨before, earlier, between, other, hSplit,
        hOther, hSame, hQueue, hTime⟩
    · cases hStart
    · rcases (dedupKey_eq_iff other event).mp hSame with
        ⟨hRule, hFacility, hSeverity⟩
      rw [hTime] at hLate
      exact
        ⟨before, earlier, between, other, hSplit, hOther,
          hRule, hFacility, hSeverity, hQueue, hLate⟩

/- The broker is away for the first enqueue call. -/
def brokerDown : NoticeExecution where
  toNoticeCall := firstNotice
  fault := some (.enqueue 0)

/-
  The first alarm fails at its first enqueue call: nothing
  is queued, the key is set, and the next alarm of the
  rule and facility is silenced ten seconds later.
-/
theorem cooldown_without_dispatch :
    ¬ CooldownIsReal .initial brokerDown ∧
    ¬ Enqueues .initial brokerDown ∧
    (executeNotice .initial brokerDown).1 =
      .raised (.enqueue 0) ∧
    (sendAllNotifications
        (executeStep .initial brokerDown)
        secondNotice).1 = .suppressed := by
  have hQueue : ¬ Enqueues .initial brokerDown := by
    rw [Enqueues, not_not]
    rfl
  have hSilent :
      (sendAllNotifications
          (executeStep .initial brokerDown)
          secondNotice).1 = .suppressed := by
    decide +kernel
  refine ⟨?_, hQueue, by decide +kernel, hSilent⟩
  intro hReal
  rcases (hReal (coAlarm 0 1) rfl (by decide) hQueue).2
      secondNotice (coAlarm 10000000 2) rfl rfl rfl rfl
      (by decide) with
    ⟨tasks, hTasks⟩
  rw [hSilent] at hTasks
  cases hTasks

end Alerts

end Icmp2
