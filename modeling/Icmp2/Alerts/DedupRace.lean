import Icmp2.Alerts.Notifications
import Icmp2.Library.CheckThenSet

/-
  The cooldown under several workers.

  Main definitions include:
    * `Icmp2.Alerts.NoticeWorkers`
    * `Icmp2.Alerts.NoticeOp`
    * `Icmp2.Alerts.noticeWorkersStep`
    * `Icmp2.Alerts.NoticeNotOvertaken`

  Main theorems include:
    * `Icmp2.Alerts.noticeWorkersStep_atomic`
    * `Icmp2.Alerts.one_dispatch_per_lifetime_iff`

  `cache.get` and `cache.set` are two operations, and the
  steps of other workers may come between them.
-/

------------------------------------------------------------
-- Workers
------------------------------------------------------------

namespace Icmp2

namespace Alerts

open Monitoring AiEngine Library

/- An event that a worker has read. -/
structure ReadNotice where
  eventId : Nat
  event : AlarmEvent

def ReadNotice.key
    (notice : ReadNotice) :
    String :=
  dedupKey notice.event

/- The race for the keys, and the queued tasks. -/
structure NoticeWorkers where
  race : Race Nat ReadNotice String
  queue : List (NoticeTask × Nat)

def NoticeWorkers.initial : NoticeWorkers where
  race := Race.initial
  queue := []

/-
  What a worker does in `send_all_notifications`: read its
  event and get the key, or set the key and dispatch.
-/
inductive NoticeOp where
  | get
      (worker : Nat)
      (store : AlertStore)
      (eventId : Nat)
      (elapsed : Nat)
  | set
      (worker : Nat)
      (policies : List AlarmPolicy)
      (elapsed : Nat)

/- The tasks that a worker queues behind its set. -/
def NoticeWorkers.dispatch
    (workers : NoticeWorkers)
    (worker : Nat)
    (policies : List AlarmPolicy) :
    List (NoticeTask × Nat) :=
  match workers.race.pending worker with
  | none => []
  | some (notice, _) =>
      (noticeTasks
        (alarmPolicyOf policies notice.event)).map
        fun task => (task, notice.eventId)

def noticeWorkersStep
    (workers : NoticeWorkers) :
    NoticeOp → NoticeWorkers
  | .get worker store eventId elapsed =>
      match store.events.get? eventId with
      | none => workers
      | some event =>
          { workers with
            race :=
              raceStep ReadNotice.key dedupTimeout
                workers.race
                (.check worker ⟨eventId, event⟩ elapsed) }
  | .set worker policies elapsed =>
      { race :=
          raceStep ReadNotice.key dedupTimeout
            workers.race (.set worker elapsed)
        queue :=
          workers.queue ++
            workers.dispatch worker policies }

/-
  No other worker has set the key of an execution between
  its get and its set, unless 300 seconds ago.
-/
def NoticeNotOvertaken
    (workers : NoticeWorkers) :
    NoticeOp → Prop
  | .get _ _ _ _ => True
  | .set worker _ elapsed =>
      NotOvertaken ReadNotice.key dedupTimeout
        workers.race (.set worker elapsed)

/- The cache and the queue, as one worker sees them. -/
def NoticeWorkers.dispatcher
    (workers : NoticeWorkers) :
    Dispatcher where
  dedup := workers.race.cache
  queue := workers.queue

section Steps

variable {workers : NoticeWorkers}
variable {worker eventId : Nat}
variable {store : AlertStore}
variable {event : AlarmEvent}

theorem noticeWorkersStep_get_of_none
    (hNone : store.events.get? eventId = none)
    (elapsed : Nat) :
    noticeWorkersStep workers
        (.get worker store eventId elapsed) =
      workers := by
  simp only [noticeWorkersStep, hNone]

theorem noticeWorkersStep_get_of_some
    (hEvent : store.events.get? eventId = some event)
    (elapsed : Nat) :
    noticeWorkersStep workers
        (.get worker store eventId elapsed) =
      { workers with
        race :=
          raceStep ReadNotice.key dedupTimeout
            workers.race
            (.check worker ⟨eventId, event⟩ elapsed) } := by
  simp only [noticeWorkersStep, hEvent]

/- A worker without a read event sets and queues nothing. -/
theorem dispatcher_set_of_none
    (hFree : workers.race.pending worker = none)
    (policies : List AlarmPolicy)
    (elapsed : Nat) :
    (noticeWorkersStep workers
        (.set worker policies elapsed)).dispatcher =
      workers.dispatcher := by
  simp only [noticeWorkersStep,
    NoticeWorkers.dispatcher, NoticeWorkers.dispatch,
    raceStep_set_of_none elapsed hFree, hFree,
    List.append_nil, Race.tick]

/- A worker that has read an event dispatches it. -/
theorem dispatcher_set_of_some
    {notice : ReadNotice}
    {seen : Nat}
    (hPending :
      workers.race.pending worker = some (notice, seen))
    (policies : List AlarmPolicy)
    (elapsed : Nat) :
    (noticeWorkersStep workers
        (.set worker policies elapsed)).dispatcher =
      { dedup :=
          workers.race.cache.set
            (workers.race.clock + elapsed) dedupTimeout
            (dedupKey notice.event)
        queue :=
          workers.queue ++
            (noticeTasks
              (alarmPolicyOf policies notice.event)).map
              fun task => (task, notice.eventId) } := by
  simp only [noticeWorkersStep,
    NoticeWorkers.dispatcher, NoticeWorkers.dispatch,
    raceStep_set_of_some elapsed hPending, hPending]
  rfl

/-
  A free worker whose get and set come together makes one
  call of `send_all_notifications`.
-/
theorem noticeWorkersStep_atomic
    (hFree : workers.race.pending worker = none)
    (policies : List AlarmPolicy)
    (elapsed : Nat) :
    (run noticeWorkersStep workers
        [.get worker store eventId elapsed,
          .set worker policies 0]).dispatcher =
      noticeStep workers.dispatcher
        { now := workers.race.clock + elapsed
          store := store
          policies := policies
          eventId := eventId } := by
  rw [run_cons, run_cons, run_nil, noticeStep]
  cases hEvent : store.events.get? eventId with
  | none =>
      have hNone :
          NoticeCall.event
              ⟨workers.race.clock + elapsed, store,
                policies, eventId⟩ =
            none :=
        hEvent
      rw [sendAllNotifications_of_none hNone,
        noticeWorkersStep_get_of_none hEvent]
      exact dispatcher_set_of_none hFree policies 0
  | some event =>
      have hSome :
          NoticeCall.event
              ⟨workers.race.clock + elapsed, store,
                policies, eventId⟩ =
            some event :=
        hEvent
      rw [noticeWorkersStep_get_of_some hEvent]
      by_cases hLive :
          workers.race.cache.Live
            (workers.race.clock + elapsed)
            (dedupKey event)
      · have hCheck :
            workers.race.cache.Live
              (workers.race.clock + elapsed)
              (ReadNotice.key ⟨eventId, event⟩) :=
          hLive
        rw [sendAllNotifications_of_live hSome hLive,
          raceStep_check_of_live hCheck]
        have hLater :
            (NoticeWorkers.mk (workers.race.tick elapsed)
              workers.queue).race.pending worker = none :=
          hFree
        exact dispatcher_set_of_none hLater policies 0
      · have hCheck :
            ¬ workers.race.cache.Live
                (workers.race.clock + elapsed)
                (ReadNotice.key ⟨eventId, event⟩) :=
          hLive
        rw [raceStep_check_of_free hFree hCheck,
          dispatcher_set_of_some (Function.update_self ..)]
        have hDead :
            ¬ workers.dispatcher.dedup.Live
                (workers.race.clock + elapsed)
                (dedupKey event) :=
          hLive
        simp only [sendAllNotifications, hSome,
          if_neg hDead]
        simp only [NoticeWorkers.dispatcher, Race.tick,
          Int.natCast_zero, Int.add_zero]

end Steps

theorem sound_noticeWorkersStep
    (workers : NoticeWorkers)
    (op : NoticeOp)
    (hSound :
      workers.race.Sound ReadNotice.key dedupTimeout) :
    (noticeWorkersStep workers op).race.Sound
      ReadNotice.key dedupTimeout := by
  cases op with
  | get worker store eventId elapsed =>
      cases hEvent : store.events.get? eventId with
      | none =>
          rw [noticeWorkersStep_get_of_none hEvent]
          exact hSound
      | some event =>
          rw [noticeWorkersStep_get_of_some hEvent]
          exact
            hSound.raceStep
              (.check worker ⟨eventId, event⟩ elapsed)
  | set worker policies elapsed =>
      exact hSound.raceStep (.set worker elapsed)

/- What a step of a worker does to the law. -/
theorem oncePerLifetime_noticeWorkersStep
    (workers : NoticeWorkers)
    (op : NoticeOp)
    (hSound :
      workers.race.Sound ReadNotice.key dedupTimeout) :
    (noticeWorkersStep workers op).race.OncePerLifetime
        ReadNotice.key dedupTimeout ↔
      workers.race.OncePerLifetime
          ReadNotice.key dedupTimeout ∧
        NoticeNotOvertaken workers op := by
  cases op with
  | get worker store eventId elapsed =>
      rw [NoticeNotOvertaken, and_true]
      cases hEvent : store.events.get? eventId with
      | none => rw [noticeWorkersStep_get_of_none hEvent]
      | some event =>
          rw [noticeWorkersStep_get_of_some hEvent]
          exact
            (hSound.oncePerLifetime_iff
              (.check worker ⟨eventId, event⟩
                elapsed)).trans
              (and_iff_left trivial)
  | set worker policies elapsed =>
      exact hSound.oncePerLifetime_iff (.set worker elapsed)

/-
  Over all interleavings of any number of workers: at most
  one execution of a key is dispatched in a lifetime of
  300 seconds exactly if no execution is overtaken between
  its get and its set.
-/
theorem one_dispatch_per_lifetime_iff
    (ops : List NoticeOp) :
    (run noticeWorkersStep .initial
        ops).race.OncePerLifetime
        ReadNotice.key dedupTimeout ↔
      Along noticeWorkersStep NoticeNotOvertaken
        .initial ops := by
  have hStart :
      NoticeWorkers.initial.race.Sound
        ReadNotice.key dedupTimeout :=
    Race.Sound.initial
  have hRun :=
    run_iff_along
      (I := fun workers : NoticeWorkers =>
        workers.race.Sound ReadNotice.key dedupTimeout)
      (R := fun workers : NoticeWorkers =>
        workers.race.OncePerLifetime
          ReadNotice.key dedupTimeout)
      oncePerLifetime_noticeWorkersStep
      sound_noticeWorkersStep hStart ops
  exact hRun.trans (and_iff_right List.Pairwise.nil)

/- Two workers, each between its get and its set. -/
def overtakenOps : List NoticeOp :=
  [.get 1 twoAlarmStore 0 0,
    .get 2 twoAlarmStore 1 1000,
    .set 1 [] 1000,
    .set 2 [] 1000]

/- Both get the key before either of them sets it. -/
theorem two_dispatches_in_lifetime :
    ¬ (run noticeWorkersStep .initial
        overtakenOps).race.OncePerLifetime
        ReadNotice.key dedupTimeout ∧
      (run noticeWorkersStep .initial
        overtakenOps).queue.map Prod.snd =
        [0, 0, 0, 1, 1, 1] := by
  refine ⟨?_, by decide +kernel⟩
  intro hOnce
  have hServed :
      (run noticeWorkersStep .initial
        overtakenOps).race.served =
        [(⟨0, coAlarm 0 1⟩, 2000),
          (⟨1, coAlarm 10000000 2⟩, 3000)] :=
    rfl
  rw [Race.OncePerLifetime, hServed,
    List.pairwise_cons] at hOnce
  exact
    absurd
      (hOnce.1 _ List.mem_cons_self (by decide +kernel))
      (by decide)

end Alerts

end Icmp2
