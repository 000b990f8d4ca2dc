import Icmp2.Library.OneRow
import Icmp2.Library.Trace
import Icmp2.Monitoring.Reading

/-
  The log of the tasks, written by the signals of Celery.

  Main definitions include:
    * `Icmp2.Alerts.TaskLog`
    * `Icmp2.Alerts.TrackedTask`
    * `Icmp2.Alerts.deliver`
    * `Icmp2.Alerts.TaskTrace`
    * `Icmp2.Alerts.loggedStatus`

  Main theorems include:
    * `Icmp2.Alerts.followsTask_deliver`
    * `Icmp2.Alerts.proceeds_of_taskTrace`
    * `Icmp2.Alerts.task_log_follows_task`

  No handler is connected to the signal of a success; it is
  logged when the run is over.
-/

------------------------------------------------------------
-- Handlers
------------------------------------------------------------

namespace Icmp2

namespace Alerts

open Monitoring Library

/- `TaskLog.Status`. -/
inductive TaskStatus where
  | pending
  | started
  | success
  | failure
  | retry
  deriving DecidableEq, Repr

structure TaskLog where
  taskId : String
  taskName : String
  status : TaskStatus := .pending
  error : String := ""
  createdAt : Instant
  startedAt : Option Instant := none
  completedAt : Option Instant := none
  deriving DecidableEq, Repr

abbrev TaskLogs : Type :=
  Rows TaskLog

/- `_TRACKED_TASKS`. -/
def trackedTasks : List String :=
  ["alerts.tasks.ingest_gas_task",
    "alerts.tasks.forecast_gas_task",
    "alerts.tasks.forecast_power_task",
    "alerts.tasks.send_all_notifications",
    "alerts.tasks.send_slack_notification",
    "alerts.tasks.send_discord_notification",
    "alerts.tasks.push_websocket_alert"]

/- The row is that of the task. -/
def TaskLog.isFor
    (taskId : String)
    (log : TaskLog) :
    Bool :=
  log.taskId = taskId

/- The lengths of the text columns. -/
def TaskLog.Fits
    (log : TaskLog) :
    Prop :=
  log.taskId.length ≤ 255 ∧ log.taskName.length ≤ 255

instance : DecidablePred TaskLog.Fits := by
  intro log
  unfold TaskLog.Fits
  infer_instance

/-
  `TaskLog.objects.create`; what the database refuses, as a
  second row of a task, is only written to the log file.
-/
def createLog
    (log : TaskLog)
    (logs : TaskLogs) :
    TaskLogs :=
  if log.Fits ∧ logs.find? (TaskLog.isFor log.taskId) = none
  then logs.insert log
  else logs

/- `on_before_task_publish`. -/
def onBeforeTaskPublish
    (sender : String)
    (headersId : Option String)
    (now : Instant)
    (logs : TaskLogs) :
    TaskLogs :=
  if sender ∉ trackedTasks then
    logs
  else
    match headersId with
    | none => logs
    | some taskId =>
        if taskId = "" then
          logs
        else
          createLog
            { taskId := taskId
              taskName := sender
              createdAt := now } logs

/- `on_task_prerun`, with its `update_or_create`. -/
def onTaskPrerun
    (taskId taskName : String)
    (now : Instant)
    (logs : TaskLogs) :
    TaskLogs :=
  if taskName ∉ trackedTasks then
    logs
  else
    match logs.find? (TaskLog.isFor taskId) with
    | some _ =>
        logs.updateWhere (TaskLog.isFor taskId) fun log =>
          { log with
            taskName := taskName
            status := .started
            startedAt := some now }
    | none =>
        createLog
          { taskId := taskId
            taskName := taskName
            status := .started
            createdAt := now
            startedAt := some now } logs

/- `on_task_postrun`. -/
def onTaskPostrun
    (taskId taskName state : String)
    (now : Instant)
    (logs : TaskLogs) :
    TaskLogs :=
  if taskName ∉ trackedTasks then
    logs
  else if state = "FAILURE" ∨ state = "RETRY" then
    logs
  else
    logs.updateWhere (TaskLog.isFor taskId) fun log =>
      { log with
        status := .success
        completedAt := some now }

/- `on_task_failure`. -/
def onTaskFailure
    (taskId taskName : String)
    (exceptionType exception : String)
    (now : Instant)
    (logs : TaskLogs) :
    TaskLogs :=
  if taskName ∉ trackedTasks then
    logs
  else
    logs.updateWhere (TaskLog.isFor taskId) fun log =>
      { log with
        status := .failure
        error := exceptionType ++ ": " ++ exception
        completedAt := some now }

/- `on_task_retry`. -/
def onTaskRetry
    (taskId taskName reason : String)
    (logs : TaskLogs) :
    TaskLogs :=
  if taskName ∉ trackedTasks then
    logs
  else
    logs.updateWhere (TaskLog.isFor taskId) fun log =>
      { log with
        status := .retry
        error := reason }

end Alerts

end Icmp2

------------------------------------------------------------
-- Signals of a Task
------------------------------------------------------------

namespace Icmp2

namespace Alerts

open Monitoring Library

/- A task that is tracked, under an id that fits. -/
structure TrackedTask where
  id : String
  name : String
  tracked : name ∈ trackedTasks
  named : id ≠ ""
  fits : id.length ≤ 255

/- The signals that Celery sends for a task. -/
inductive TaskSignal where
  | publish
  | prerun
  | retry (reason : String)
  | success
  | failure (exceptionType exception : String)
  | postrun (state : String)
  deriving DecidableEq, Repr

/- A signal, and the clock when it is handled. -/
structure SentSignal where
  signal : TaskSignal
  now : Instant
  deriving DecidableEq, Repr

/- What is connected to the signals of a task. -/
def deliver
    (task : TrackedTask)
    (logs : TaskLogs)
    (sent : SentSignal) :
    TaskLogs :=
  match sent.signal with
  | .publish =>
      onBeforeTaskPublish task.name (some task.id) sent.now
        logs
  | .prerun => onTaskPrerun task.id task.name sent.now logs
  | .retry reason =>
      onTaskRetry task.id task.name reason logs
  | .success => logs
  | .failure exceptionType exception =>
      onTaskFailure task.id task.name exceptionType exception
        sent.now logs
  | .postrun state =>
      onTaskPostrun task.id task.name state sent.now logs

/- A run that is tried again; the retry may be published. -/
inductive RetryRun : List TaskSignal → Prop where
  | unpublished (reason : String) :
      RetryRun [.prerun, .retry reason, .postrun "RETRY"]
  | before (reason : String) :
      RetryRun
        [.prerun, .publish, .retry reason, .postrun "RETRY"]
  | after (reason : String) :
      RetryRun
        [.prerun, .retry reason, .publish, .postrun "RETRY"]
  | late (reason : String) :
      RetryRun
        [.prerun, .retry reason, .postrun "RETRY", .publish]

/- The last run of a task. -/
inductive LastRun : List TaskSignal → Prop where
  | success :
      LastRun [.prerun, .success, .postrun "SUCCESS"]
  | failure (exceptionType exception : String) :
      LastRun
        [.prerun, .failure exceptionType exception,
          .postrun "FAILURE"]

inductive TaskRuns : List TaskSignal → Prop where
  | last
      {run : List TaskSignal}
      (hRun : LastRun run) :
      TaskRuns run
  | again
      {run runs : List TaskSignal}
      (hRun : RetryRun run)
      (hRuns : TaskRuns runs) :
      TaskRuns (run ++ runs)

/- All signals of a task; it need not be published. -/
inductive TaskTrace : List TaskSignal → Prop where
  | received
      {runs : List TaskSignal}
      (hRuns : TaskRuns runs) :
      TaskTrace runs
  | published
      {runs : List TaskSignal}
      (hRuns : TaskRuns runs) :
      TaskTrace (.publish :: runs)

/- The status after a signal that is logged at once. -/
def TaskStatus.announced
    (status : TaskStatus) :
    TaskSignal → TaskStatus
  | .prerun => .started
  | .retry _ => .retry
  | .success => .success
  | .failure _ _ => .failure
  | .publish | .postrun _ => status

/- The same, where a success counts when its run is over. -/
def TaskStatus.logged
    (status : TaskStatus) :
    TaskSignal → TaskStatus
  | .prerun => .started
  | .retry _ => .retry
  | .failure _ _ => .failure
  | .postrun state =>
      if state = "SUCCESS" then .success else status
  | .publish | .success => status

/- The status of the last signal that has one. -/
def announcedStatus
    (signals : List TaskSignal) :
    TaskStatus :=
  signals.foldl TaskStatus.announced .pending

def loggedStatus
    (signals : List TaskSignal) :
    TaskStatus :=
  signals.foldl TaskStatus.logged .pending

def TaskStatus.isFinal : TaskStatus → Bool
  | success | failure => true
  | pending | started | retry => false

/- One row for the task, complete if its status is final. -/
def FollowsTask
    (task : TrackedTask)
    (logs : TaskLogs)
    (status : TaskStatus) :
    Prop :=
  logs.HoldsOne (TaskLog.isFor task.id) fun log =>
    log.status = status ∧
      log.completedAt.isSome = status.isFinal

/- The table after the signals that were sent. -/
def logsAfter
    (task : TrackedTask) :
    TaskLogs → List SentSignal → TaskLogs :=
  run (deliver task)

end Alerts

end Icmp2

------------------------------------------------------------
-- The Row Follows the Signals
------------------------------------------------------------

namespace Icmp2

namespace Alerts

open Monitoring Library

variable {task : TrackedTask}
variable {logs : TaskLogs}
variable {status : TaskStatus}

theorem trackedTasks_fit :
    ∀ name ∈ trackedTasks, name.length ≤ 255 := by
  decide +kernel

/- A first row is made for a task without one. -/
theorem followsTask_createLog
    {log : TaskLog}
    (hNew : logs.find? (TaskLog.isFor task.id) = none)
    (hId : log.taskId = task.id)
    (hName : log.taskName = task.name)
    (hOpen : log.completedAt = none)
    (hFinal : log.status.isFinal = false) :
    FollowsTask task (createLog log logs) log.status := by
  have hFits : log.Fits := by
    refine ⟨?_, ?_⟩
    · rw [hId]
      exact task.fits
    · rw [hName]
      exact trackedTasks_fit task.name task.tracked
  rw [createLog, hId, if_pos ⟨hFits, hNew⟩]
  apply Rows.holdsOne_insert hNew
  · exact decide_eq_true hId
  · refine ⟨rfl, ?_⟩
    rw [hOpen, hFinal]
    rfl

/- A second row is refused. -/
theorem createLog_of_followsTask
    {log : TaskLog}
    (hFollows : FollowsTask task logs status)
    (hId : log.taskId = task.id) :
    createLog log logs = logs := by
  rw [createLog, hId]
  apply if_neg
  rintro ⟨-, hNone⟩
  exact hFollows.find?_ne_none hNone

/- What the first signal of a task makes. -/
theorem followsTask_first
    {signal : TaskSignal}
    (hNew : logs.find? (TaskLog.isFor task.id) = none)
    (hFirst : signal = .publish ∨ signal = .prerun)
    (now : Instant) :
    FollowsTask task (deliver task logs ⟨signal, now⟩)
      (TaskStatus.pending.logged signal) := by
  rcases hFirst with rfl | rfl
  · simp only [deliver, onBeforeTaskPublish,
      not_true_eq_false, task.tracked, if_false,
      if_neg task.named]
    exact followsTask_createLog hNew rfl rfl rfl rfl
  · simp only [deliver, onTaskPrerun, not_true_eq_false,
      task.tracked, if_false, hNew]
    exact followsTask_createLog hNew rfl rfl rfl rfl

/- A task whose status is final is not started again. -/
def Allowed
    (status : TaskStatus) :
    TaskSignal → Prop
  | .prerun | .retry _ => status.isFinal = false
  | .publish | .success | .failure _ _ => True
  | .postrun state =>
      state = "SUCCESS" ∨ state = "FAILURE" ∨
        state = "RETRY"

/- A write to the row of the task moves it on. -/
theorem followsTask_updateWhere
    {f : TaskLog → TaskLog}
    {later : TaskStatus}
    (hFollows : FollowsTask task logs status)
    (hId : ∀ log, (f log).taskId = log.taskId)
    (hStatus : ∀ log, (f log).status = later)
    (hCompleted :
      ∀ log,
        log.completedAt.isSome = status.isFinal →
          (f log).completedAt.isSome = later.isFinal) :
    FollowsTask task
      (logs.updateWhere (TaskLog.isFor task.id) f) later := by
  apply Rows.HoldsOne.updateWhere hFollows
  · intro log hFor
    rw [TaskLog.isFor, hId]
    exact hFor
  · rintro log ⟨-, hHeld⟩
    exact ⟨hStatus log, hCompleted log hHeld⟩

/- Each signal that is allowed moves the row on. -/
theorem followsTask_deliver
    {sent : SentSignal}
    (hFollows : FollowsTask task logs status)
    (hAllowed : Allowed status sent.signal) :
    FollowsTask task (deliver task logs sent)
      (status.logged sent.signal) := by
  rcases sent with ⟨signal, now⟩
  cases signal with
  | publish =>
      simp only [deliver, onBeforeTaskPublish,
        not_true_eq_false, task.tracked, if_false,
        if_neg task.named]
      rw [createLog_of_followsTask hFollows rfl]
      exact hFollows
  | prerun =>
      simp only [deliver, onTaskPrerun, not_true_eq_false,
        task.tracked, if_false]
      cases hFind :
          logs.find? (TaskLog.isFor task.id) with
      | none => exact absurd hFind hFollows.find?_ne_none
      | some id =>
          apply followsTask_updateWhere hFollows
          · exact fun _ => rfl
          · exact fun _ => rfl
          · intro log hHeld
            rw [hHeld]
            exact hAllowed
  | retry reason =>
      simp only [deliver, onTaskRetry, not_true_eq_false,
        task.tracked, if_false]
      apply followsTask_updateWhere hFollows
      · exact fun _ => rfl
      · exact fun _ => rfl
      · intro log hHeld
        rw [hHeld]
        exact hAllowed
  | success => exact hFollows
  | failure exceptionType exception =>
      simp only [deliver, onTaskFailure, not_true_eq_false,
        task.tracked, if_false]
      apply followsTask_updateWhere hFollows
      · exact fun _ => rfl
      · exact fun _ => rfl
      · exact fun _ _ => rfl
  | postrun state =>
      simp only [deliver, onTaskPostrun, not_true_eq_false,
        task.tracked, if_false]
      rcases hAllowed with rfl | rfl | rfl
      · rw [if_neg (by decide)]
        apply followsTask_updateWhere hFollows
        · exact fun _ => rfl
        · exact fun _ => rfl
        · exact fun _ _ => rfl
      · exact hFollows
      · exact hFollows

/- All signals are allowed when they come. -/
def Proceeds :
    TaskStatus → List TaskSignal → Prop
  | _, [] => True
  | status, signal :: signals =>
      Allowed status signal ∧
        Proceeds (status.logged signal) signals

theorem Proceeds.take
    {signals : List TaskSignal}
    (hProceeds : Proceeds status signals)
    (count : Nat) :
    Proceeds status (signals.take count) := by
  induction signals generalizing status count with
  | nil =>
      rw [List.take_nil]
      trivial
  | cons signal signals ih =>
      cases count with
      | zero => trivial
      | succ count =>
          exact ⟨hProceeds.1, ih hProceeds.2 count⟩

/- A run of allowed signals keeps the row up to date. -/
theorem followsTask_run
    {sent : List SentSignal}
    (hFollows : FollowsTask task logs status)
    (hProceeds :
      Proceeds status (sent.map SentSignal.signal)) :
    FollowsTask task (logsAfter task logs sent)
      ((sent.map SentSignal.signal).foldl TaskStatus.logged
        status) := by
  induction sent generalizing logs status with
  | nil => exact hFollows
  | cons first rest ih =>
      exact
        ih (followsTask_deliver hFollows hProceeds.1)
          hProceeds.2

end Alerts

end Icmp2

------------------------------------------------------------
-- Traces
------------------------------------------------------------

namespace Icmp2

namespace Alerts

open Monitoring Library

variable {status : TaskStatus}
variable {signals : List TaskSignal}

/- A run that is tried again leads back to a start. -/
theorem proceeds_again
    {run : List TaskSignal}
    (hRun : RetryRun run)
    (hOpen : status.isFinal = false)
    (hRest :
      ∀ later : TaskStatus,
        later.isFinal = false → Proceeds later signals) :
    Proceeds status (run ++ signals) := by
  have hRetry : Allowed .retry (.postrun "RETRY") :=
    Or.inr (Or.inr rfl)
  cases hRun with
  | unpublished reason =>
      exact ⟨hOpen, rfl, hRetry, hRest _ rfl⟩
  | before reason =>
      exact ⟨hOpen, trivial, rfl, hRetry, hRest _ rfl⟩
  | after reason =>
      exact ⟨hOpen, rfl, trivial, hRetry, hRest _ rfl⟩
  | late reason =>
      exact ⟨hOpen, rfl, hRetry, trivial, hRest _ rfl⟩

theorem proceeds_of_taskRuns
    (hRuns : TaskRuns signals)
    (hOpen : status.isFinal = false) :
    Proceeds status signals := by
  induction hRuns generalizing status with
  | last hRun =>
      cases hRun with
      | success =>
          exact ⟨hOpen, trivial, Or.inl rfl, trivial⟩
      | failure exceptionType exception =>
          exact
            ⟨hOpen, trivial, Or.inr (Or.inl rfl), trivial⟩
  | again hRun hRuns ih =>
      exact proceeds_again hRun hOpen fun later => ih

theorem first_of_taskRuns
    (hRuns : TaskRuns signals) :
    ∃ rest, signals = .prerun :: rest := by
  cases hRuns with
  | last hRun =>
      cases hRun with
      | success => exact ⟨_, rfl⟩
      | failure exceptionType exception => exact ⟨_, rfl⟩
  | again hRun hRest =>
      cases hRun with
      | unpublished reason => exact ⟨_, rfl⟩
      | before reason => exact ⟨_, rfl⟩
      | after reason => exact ⟨_, rfl⟩
      | late reason => exact ⟨_, rfl⟩

/- A trace starts with the first row, and goes on from it. -/
theorem proceeds_of_taskTrace
    (hTrace : TaskTrace signals) :
    ∃ first rest,
      signals = first :: rest ∧
        (first = .publish ∨ first = .prerun) ∧
          Proceeds (TaskStatus.pending.logged first) rest := by
  cases hTrace with
  | received hRuns =>
      rcases first_of_taskRuns hRuns with ⟨rest, rfl⟩
      have hProceeds :
          Proceeds .pending (.prerun :: rest) :=
        proceeds_of_taskRuns hRuns rfl
      exact ⟨_, rest, rfl, Or.inr rfl, hProceeds.2⟩
  | published hRuns =>
      exact
        ⟨_, _, rfl, Or.inl rfl,
          proceeds_of_taskRuns hRuns rfl⟩

/-
  At every moment after the first signal there is one row
  for the task; its status is that of the last signal that
  is logged, and it is complete if that signal was a failure
  or the end of a successful run.
-/
theorem task_log_follows_task
    (task : TrackedTask)
    (start : TaskLogs)
    (hNew : start.find? (TaskLog.isFor task.id) = none)
    (sent : List SentSignal)
    (hTrace : TaskTrace (sent.map SentSignal.signal))
    (count : Nat)
    (hFirst : 0 < count) :
    FollowsTask task
      (logsAfter task start (sent.take count))
      (loggedStatus
        ((sent.map SentSignal.signal).take count)) := by
  rcases proceeds_of_taskTrace hTrace with
    ⟨first, rest, hSignals, hCreates, hProceeds⟩
  cases sent with
  | nil => cases hSignals
  | cons head tail =>
      cases hSignals
      cases count with
      | zero => exact absurd hFirst (Nat.lt_irrefl 0)
      | succ count =>
          have hRest :
              Proceeds (TaskStatus.pending.logged head.signal)
                ((tail.take count).map
                  SentSignal.signal) := by
            rw [List.map_take]
            exact hProceeds.take count
          have hRun :=
            followsTask_run
              (followsTask_first hNew hCreates head.now) hRest
          rw [List.map_take] at hRun
          exact hRun

/- A task that notifies, under a short id. -/
def slackTask : TrackedTask where
  id := "tid-4"
  name := "alerts.tasks.send_slack_notification"
  tracked := by simp [trackedTasks]
  named := by decide
  fits := by decide

/- A run that succeeds after one that was tried again. -/
def retriedTrace : List SentSignal :=
  [⟨.publish, 0⟩, ⟨.prerun, 1⟩, ⟨.publish, 2⟩,
    ⟨.retry "ConnectionError: redis down", 3⟩,
    ⟨.postrun "RETRY", 4⟩, ⟨.prerun, 5⟩, ⟨.success, 6⟩,
    ⟨.postrun "SUCCESS", 7⟩]

/- The success is logged at the end of the trace. -/
theorem retried_task_is_logged :
    FollowsTask slackTask
      (logsAfter slackTask Rows.empty (retriedTrace.take 8))
      (loggedStatus
        ((retriedTrace.map SentSignal.signal).take 8)) :=
  task_log_follows_task slackTask Rows.empty (by rfl)
    retriedTrace
    (.published (.again (.before _) (.last .success))) 8
    (by decide)

/- A run that succeeds at once. -/
def directTrace : List SentSignal :=
  [⟨.prerun, 1⟩, ⟨.success, 2⟩, ⟨.postrun "SUCCESS", 3⟩]

/-
  The signal of a success was sent, but the status is that
  of the start until the run is over.
-/
theorem success_is_not_logged_at_once :
    TaskTrace (directTrace.map SentSignal.signal) ∧
      ¬ FollowsTask slackTask
        (logsAfter slackTask Rows.empty (directTrace.take 2))
        (announcedStatus
          ((directTrace.map SentSignal.signal).take 2)) := by
  refine ⟨.received (.last .success), ?_⟩
  rintro ⟨id, log, hGet, -, ⟨hStatus, -⟩, -⟩
  have hTable :
      logsAfter slackTask Rows.empty (directTrace.take 2) =
        Rows.empty.insert
          { taskId := slackTask.id
            taskName := slackTask.name
            status := .started
            createdAt := 1
            startedAt := some 1 } := by
    rfl
  rw [hTable] at hGet
  rcases Rows.get?_of_get?_insert hGet with
    ⟨-, rfl⟩ | ⟨-, hNone⟩
  · cases hStatus
  · cases hNone

end Alerts

end Icmp2
