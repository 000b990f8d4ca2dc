import Icmp2.Alerts.AlertPopup
import Icmp2.Library.Trace

/-
  What comes up in a session of a browser tab.

  Main definitions include:
    * `Icmp2.Alerts.arrivals`
    * `Icmp2.Alerts.PopupSession`
    * `Icmp2.Alerts.PopupSession.backlog`
    * `Icmp2.Alerts.PopupSession.MostUrgentFirst`

  Main theorems include:
    * `Icmp2.Alerts.PopupSession.Kept.serves_step`
    * `Icmp2.Alerts.popups_in_turn`

  A page is a `Library.Backlog` of the alarms that were new
  to the session when they came; a page that is left takes
  with it what waits there.
-/

------------------------------------------------------------
-- Backlogs of Pages
------------------------------------------------------------

namespace Icmp2

namespace Alerts

open Monitoring Library

/- What came up on a page and what waits, and what came. -/
def AlertPopup.backlog
    (arrived : List Alarm)
    (page : AlertPopup) :
    Backlog Alarm where
  arrived := arrived
  served := page.body.map Popup.alarm
  waiting := page.queue

/- The alarms that an event adds to the queue. -/
def arrivals
    (page : AlertPopup) :
    PopupEvent → List Alarm
  | .answer answer => page.newAlarms answer.alarms
  | .message alarm => page.newAlarms [alarm]
  | _ => []

variable {arrived : List Alarm}
variable {page : AlertPopup}

theorem map_alarm_modify
    (body : List Popup)
    (index : Nat)
    {f : Popup → Popup}
    (hKeep : ∀ popup, (f popup).alarm = popup.alarm) :
    (body.modify index f).map Popup.alarm =
      body.map Popup.alarm := by
  induction body generalizing index with
  | nil => simp
  | cons popup body ih =>
      cases index with
      | zero => simp [hKeep]
      | succ index => simp [ih]

theorem map_alarm_listen
    (body : List Popup) :
    (AlertPopup.listen body).map Popup.alarm =
      body.map Popup.alarm := by
  unfold AlertPopup.listen
  cases AlertPopup.overlay? body with
  | none => rfl
  | some index =>
      exact map_alarm_modify body index fun _ => rfl

/- What comes up next is the first that waits. -/
theorem serves_showNext :
    (page.backlog arrived).Serves
      (page.showNext.backlog arrived) := by
  unfold AlertPopup.showNext
  cases page.isShowing with
  | true => exact Backlog.Serves.refl _
  | false =>
      cases hQueue : page.queue with
      | nil => exact Backlog.Serves.refl _
      | cons alarm queue =>
          have hServe :
              AlertPopup.backlog arrived
                  { page with
                    queue := queue
                    isShowing := true
                    body :=
                      AlertPopup.listen
                        (page.body ++
                          [AlertPopup.newPopup alarm]) } =
                (page.backlog arrived).serve := by
            simp only [AlertPopup.backlog, Backlog.serve,
              hQueue, map_alarm_listen, List.map_append]
            rfl
          simp only
          rw [hServe]
          exact Backlog.serves_serve _

theorem backlog_modify
    (index : Nat)
    {f : Popup → Popup}
    (hKeep : ∀ popup, (f popup).alarm = popup.alarm) :
    AlertPopup.backlog arrived
        { page with body := page.body.modify index f } =
      page.backlog arrived := by
  simp only [AlertPopup.backlog,
    map_alarm_modify page.body index hKeep]

theorem serves_afterClose
    (index : Nat) :
    (page.backlog arrived).Serves
      ((page.afterClose index).backlog arrived) := by
  have hGone :
      AlertPopup.backlog arrived
          { page with
            isShowing := false
            body := AlertPopup.remove index page.body } =
        page.backlog arrived := by
    simp only [AlertPopup.backlog, AlertPopup.remove]
    rw [map_alarm_modify
      (f := fun popup => { popup with removed := true })
      page.body index fun _ => rfl]
  rw [← hGone]
  exact serves_showNext

theorem serves_animationEnd
    (index : Nat) :
    (page.backlog arrived).Serves
      ((page.animationEnd index).backlog arrived) := by
  have hCalls :
      ∀ count,
        (page.backlog arrived).Serves
          (((AlertPopup.afterClose index)^[count]
            (page.takeCalls index)).backlog arrived) := by
    intro count
    induction count with
    | zero =>
        have hSame :
            (page.takeCalls index).backlog arrived =
              page.backlog arrived :=
          backlog_modify index fun _ => rfl
        rw [Function.iterate_zero, id, hSame]
        exact Backlog.Serves.refl _
    | succ count ih =>
        rw [Function.iterate_succ_apply']
        exact ih.trans (serves_afterClose index)
  unfold AlertPopup.animationEnd
  cases page.body[index]? with
  | none => exact Backlog.Serves.refl _
  | some popup =>
      simp only
      split
      · exact Backlog.Serves.refl _
      · exact hCalls popup.closing

theorem backlog_click
    (index : Nat) :
    (page.click index).backlog arrived =
      page.backlog arrived := by
  have hClose :
      ∀ count,
        ((AlertPopup.close index)^[count] page).backlog
            arrived =
          page.backlog arrived := by
    intro count
    induction count with
    | zero => rfl
    | succ count ih =>
        rw [Function.iterate_succ_apply', ← ih]
        exact backlog_modify index fun _ => rfl
  unfold AlertPopup.click
  cases page.body[index]? with
  | none => rfl
  | some popup =>
      simp only
      split
      · rfl
      · exact hClose popup.listeners

/- What is pushed is put behind what waits. -/
theorem queue_foldl_push
    (page : AlertPopup)
    (alarms : List Alarm) :
    (alarms.foldl AlertPopup.push page).queue =
        page.queue ++ alarms ∧
      (alarms.foldl AlertPopup.push page).body =
        page.body := by
  induction alarms generalizing page with
  | nil => exact ⟨(List.append_nil _).symm, rfl⟩
  | cons alarm alarms ih =>
      rcases ih (page.push alarm) with ⟨hQueue, hBody⟩
      refine ⟨?_, hBody⟩
      rw [List.foldl_cons, hQueue, AlertPopup.push,
        List.append_assoc, List.singleton_append]

/- New alarms arrive, and one of those who wait may go. -/
theorem serves_arrivals
    (alarms : List Alarm) :
    ((page.backlog arrived).arrive Alarm.urgency
        alarms).Serves
      ((AlertPopup.showNext
        (AlertPopup.sortQueue
          (alarms.foldl AlertPopup.push page))).backlog
        (arrived ++ alarms)) := by
  rcases queue_foldl_push page alarms with ⟨hQueue, hBody⟩
  have hArrive :
      (page.backlog arrived).arrive Alarm.urgency alarms =
        (AlertPopup.sortQueue
          (alarms.foldl AlertPopup.push page)).backlog
          (arrived ++ alarms) := by
    simp only [AlertPopup.backlog, Backlog.arrive,
      AlertPopup.sortQueue, hQueue, hBody]
  rw [hArrive]
  exact serves_showNext

end Alerts

end Icmp2

------------------------------------------------------------
-- Memories of Pages
------------------------------------------------------------

namespace Icmp2

namespace Alerts

open Monitoring Library

variable {page : AlertPopup}

theorem seen_showNext
    (page : AlertPopup) :
    page.showNext.seen = page.seen := by
  unfold AlertPopup.showNext
  cases page.isShowing with
  | true => rfl
  | false =>
      cases page.queue with
      | nil => rfl
      | cons alarm queue => rfl

theorem seen_animationEnd
    (index : Nat) :
    (page.animationEnd index).seen = page.seen := by
  have hCalls :
      ∀ count,
        ((AlertPopup.afterClose index)^[count]
            (page.takeCalls index)).seen =
          page.seen := by
    intro count
    induction count with
    | zero => rfl
    | succ count ih =>
        rw [Function.iterate_succ_apply', ← ih]
        exact seen_showNext _
  unfold AlertPopup.animationEnd
  cases page.body[index]? with
  | none => rfl
  | some popup =>
      simp only
      split
      · rfl
      · exact hCalls popup.closing

theorem seen_click
    (index : Nat) :
    (page.click index).seen = page.seen := by
  have hClose :
      ∀ count,
        ((AlertPopup.close index)^[count] page).seen =
          page.seen := by
    intro count
    induction count with
    | zero => rfl
    | succ count ih =>
        rw [Function.iterate_succ_apply', ← ih]
        rfl
  unfold AlertPopup.click
  cases page.body[index]? with
  | none => rfl
  | some popup =>
      simp only
      split
      · rfl
      · exact hClose popup.listeners

theorem seen_foldl_push
    (page : AlertPopup)
    (alarms : List Alarm) :
    (alarms.foldl AlertPopup.push page).seen =
      (alarms.map Alarm.id).foldl Deque.remember
        page.seen := by
  induction alarms generalizing page with
  | nil => rfl
  | cons alarm alarms ih => exact ih (page.push alarm)

/- A new alarm comes as if it were all of an answer. -/
theorem handleIncoming_cases
    (page : AlertPopup)
    (alarm : Alarm) :
    (page.newAlarms [alarm] = [] ∧
        page.handleIncoming alarm = page) ∨
      page.handleIncoming alarm =
        AlertPopup.showNext
          (AlertPopup.sortQueue
            ((page.newAlarms [alarm]).foldl AlertPopup.push
              page)) := by
  unfold AlertPopup.handleIncoming AlertPopup.newAlarms
  rw [List.filter_singleton]
  by_cases hSeen : alarm.id ∈ page.seen.items
  · left
    simp [hSeen]
  · by_cases hUrgent : alarm.isUrgent = false
    · left
      simp [hUrgent]
    · right
      simp [hSeen, Bool.eq_true_of_not_eq_false hUrgent]

end Alerts

end Icmp2

------------------------------------------------------------
-- Sessions
------------------------------------------------------------

namespace Icmp2

namespace Alerts

open Monitoring Library

/- A page, what came to it, and the pages left before. -/
structure PopupSession where
  page : AlertPopup
  arrived : List Alarm
  left : List (Backlog Alarm)

namespace PopupSession

def opened : PopupSession where
  page := firstPage
  arrived := []
  left := []

def backlog
    (session : PopupSession) :
    Backlog Alarm :=
  session.page.backlog session.arrived

def step
    (session : PopupSession) :
    PopupEvent → PopupSession
  | .load =>
      { page := session.page.load
        arrived := []
        left := session.left ++ [session.backlog] }
  | event =>
      { page := popupStep session.page event
        arrived :=
          session.arrived ++ arrivals session.page event
        left := session.left }

/- The keys of all alarms that were queued, in order. -/
def queuedIds
    (session : PopupSession) :
    List Nat :=
  (session.left.flatMap Backlog.arrived ++
    session.arrived).map Alarm.id

/- Of those who waited, the most urgent came up. -/
def MostUrgentFirst
    (session : PopupSession)
    (event : PopupEvent) :
    Prop :=
  ∀ popup ∈
      (session.step event).page.body.drop
        session.page.body.length,
    ∀ alarm ∈ (session.step event).page.queue,
      severityRank popup.alarm.severity ≤
        severityRank alarm.severity

/- An urgent alarm is queued if it was not lately. -/
def QueuedIfNew
    (session : PopupSession)
    (event : PopupEvent) :
    Prop :=
  ∀ alarm,
    alarm ∈ arrivals session.page event ↔
      (match event with
        | .answer answer => alarm ∈ answer.alarms
        | .message message => alarm = message
        | _ => False) ∧
      (alarm.severity = .danger ∨
        alarm.severity = .warning) ∧
      alarm.id ∉ session.queuedIds.rtake 200

/- What holds of a session at any time. -/
structure Kept
    (session : PopupSession) :
    Prop where
  fair :
    ∀ backlog ∈ session.left ++ [session.backlog],
      backlog.Fair Alarm.urgency
  spaced : Spaced 200 session.queuedIds
  seen :
    session.page.seen.items = session.queuedIds.rtake 200

/- The pages of a session are those of the script. -/
theorem page_step
    (session : PopupSession)
    (event : PopupEvent) :
    (session.step event).page =
      popupStep session.page event := by
  cases event with
  | load => rfl
  | answer answer => rfl
  | message alarm => rfl
  | click index => rfl
  | animationEnd index => rfl

theorem kept_opened : opened.Kept where
  fair := by
    intro backlog hMem
    cases List.mem_singleton.mp hMem
    exact Backlog.fair_empty
  spaced := by
    intro i j key _ hFirst
    cases hFirst
  seen := rfl

variable {session : PopupSession}

theorem Kept.fair_backlog
    (hKept : session.Kept) :
    session.backlog.Fair Alarm.urgency :=
  hKept.fair session.backlog
    (List.mem_append_right _ List.mem_cons_self)

/- Any event but a load lets alarms come and then go. -/
theorem Kept.serves_step
    (hKept : session.Kept)
    {event : PopupEvent}
    (hStay : event ≠ .load) :
    (session.backlog.arrive Alarm.urgency
        (arrivals session.page event)).Serves
      (session.step event).backlog := by
  have hNobody :
      session.backlog.arrive Alarm.urgency [] =
        session.page.backlog (session.arrived ++ []) := by
    rw [hKept.fair_backlog.arrive_nil, List.append_nil]
    rfl
  cases event with
  | load => exact absurd rfl hStay
  | answer answer => exact serves_arrivals _
  | message alarm =>
      rcases handleIncoming_cases session.page alarm with
        ⟨hNone, hSame⟩ | hNew
      · simp only [arrivals, hNone, backlog, step,
          popupStep, hSame] at hNobody ⊢
        rw [hNobody]
        exact Backlog.Serves.refl _
      · simp only [arrivals, backlog, step, popupStep, hNew]
        exact serves_arrivals _
  | click index =>
      simp only [arrivals, backlog, step, popupStep,
        backlog_click] at hNobody ⊢
      rw [hNobody]
      exact Backlog.Serves.refl _
  | animationEnd index =>
      simp only [arrivals, backlog, step,
        popupStep] at hNobody ⊢
      rw [hNobody]
      exact serves_animationEnd index

theorem seen_step
    (session : PopupSession)
    (event : PopupEvent) :
    (session.step event).page.seen =
      ((arrivals session.page event).map Alarm.id).foldl
        Deque.remember session.page.seen := by
  rw [page_step]
  cases event with
  | load => rfl
  | answer answer =>
      exact (seen_showNext _).trans (seen_foldl_push _ _)
  | message alarm =>
      rcases handleIncoming_cases session.page alarm with
        ⟨hNone, hSame⟩ | hNew
      · simp only [arrivals, hNone, popupStep, hSame]
        rfl
      · simp only [arrivals, popupStep, hNew]
        exact (seen_showNext _).trans (seen_foldl_push _ _)
  | click index => exact seen_click index
  | animationEnd index => exact seen_animationEnd index

theorem queuedIds_step
    (session : PopupSession)
    (event : PopupEvent) :
    (session.step event).queuedIds =
      session.queuedIds ++
        (arrivals session.page event).map Alarm.id := by
  cases event with
  | load =>
      simp only [queuedIds, step, arrivals, backlog,
        AlertPopup.backlog, List.flatMap_append,
        List.flatMap_singleton, List.append_nil,
        List.map_nil]
  | answer answer =>
      simp only [queuedIds, step, ← List.append_assoc,
        List.map_append]
  | message alarm =>
      simp only [queuedIds, step, ← List.append_assoc,
        List.map_append]
  | click index =>
      simp only [queuedIds, step, arrivals, List.append_nil,
        List.map_nil]
  | animationEnd index =>
      simp only [queuedIds, step, arrivals, List.append_nil,
        List.map_nil]

/- Arriving alarms have keys that are new to the session. -/
theorem arrivals_new
    (page : AlertPopup)
    (event : PopupEvent) :
    ((arrivals page event).map Alarm.id).Nodup ∧
      ∀ id ∈ (arrivals page event).map Alarm.id,
        id ∉ page.seen.items := by
  have hNew :
      ∀ alarms : List Alarm,
        ∀ id ∈ (page.newAlarms alarms).map Alarm.id,
          id ∉ page.seen.items := by
    intro alarms id hMem
    rcases List.mem_map.mp hMem with ⟨alarm, hAlarm, rfl⟩
    exact (of_decide_eq_true (List.mem_filter.mp hAlarm).2).2
  cases event with
  | answer answer =>
      refine ⟨?_, hNew answer.alarms⟩
      exact
        answer.once.sublist (List.filter_sublist.map Alarm.id)
  | message alarm =>
      refine ⟨?_, hNew [alarm]⟩
      exact
        (List.nodup_singleton alarm.id).sublist
          (List.filter_sublist.map Alarm.id)
  | load => exact ⟨List.nodup_nil, List.forall_mem_nil _⟩
  | click index =>
      exact ⟨List.nodup_nil, List.forall_mem_nil _⟩
  | animationEnd index =>
      exact ⟨List.nodup_nil, List.forall_mem_nil _⟩

/- The backlogs stay fair, also those of pages left. -/
theorem Kept.fair_step
    (hKept : session.Kept)
    (event : PopupEvent) :
    ∀ backlog ∈
        (session.step event).left ++
          [(session.step event).backlog],
      backlog.Fair Alarm.urgency := by
  intro backlog hMem
  rcases List.mem_append.mp hMem with hLeft | hPage
  · cases event with
    | load => exact hKept.fair backlog hLeft
    | answer answer =>
        exact
          hKept.fair backlog (List.mem_append_left _ hLeft)
    | message alarm =>
        exact
          hKept.fair backlog (List.mem_append_left _ hLeft)
    | click index =>
        exact
          hKept.fair backlog (List.mem_append_left _ hLeft)
    | animationEnd index =>
        exact
          hKept.fair backlog (List.mem_append_left _ hLeft)
  · cases List.mem_singleton.mp hPage
    by_cases hStay : event = .load
    · rw [hStay]
      exact Backlog.fair_empty
    · exact
        (hKept.fair_backlog.arrive _).serves
          (hKept.serves_step hStay)

theorem Kept.step
    (hKept : session.Kept)
    (event : PopupEvent) :
    (session.step event).Kept := by
  rcases arrivals_new session.page event with ⟨hOnce, hNew⟩
  refine ⟨hKept.fair_step event, ?_, ?_⟩
  · rw [queuedIds_step]
    apply hKept.spaced.append hOnce
    intro id hMem
    rw [← hKept.seen]
    exact hNew id hMem
  · rw [seen_step, queuedIds_step,
      Deque.items_foldl_remember _ hOnce hNew, hKept.seen,
      rtake_rtake_append]

/- Who comes up was in front of all who wait on. -/
theorem Kept.mostUrgentFirst
    (hKept : session.Kept)
    (event : PopupEvent) :
    session.MostUrgentFirst event := by
  intro popup hPopup alarm hAlarm
  by_cases hStay : event = .load
  · rw [hStay] at hPopup
    rw [PopupSession.step, AlertPopup.load,
      List.drop_nil] at hPopup
    cases hPopup
  · have hFair := hKept.fair_backlog.arrive
      (arrivals session.page event)
    apply
      hFair.served_greatest (hKept.serves_step hStay)
        popup.alarm ?_ alarm hAlarm
    have hServed :
        (session.backlog.arrive Alarm.urgency
            (arrivals session.page event)).served.length =
          session.page.body.length := by
      simp only [Backlog.arrive, backlog, AlertPopup.backlog,
        List.length_map]
    rw [hServed]
    simp only [backlog, AlertPopup.backlog]
    rw [← List.map_drop]
    exact List.mem_map_of_mem hPopup

theorem Kept.queuedIfNew
    (hKept : session.Kept)
    (event : PopupEvent) :
    session.QueuedIfNew event := by
  have hNew :
      ∀ alarms alarm,
        alarm ∈ session.page.newAlarms alarms ↔
          alarm ∈ alarms ∧
            (alarm.severity = .danger ∨
              alarm.severity = .warning) ∧
            alarm.id ∉ session.queuedIds.rtake 200 := by
    intro alarms alarm
    rw [AlertPopup.newAlarms, List.mem_filter, hKept.seen,
      Alarm.isUrgent, decide_eq_true_eq, decide_eq_true_eq]
  intro alarm
  cases event with
  | answer answer => exact hNew answer.alarms alarm
  | message message =>
      rw [arrivals, hNew, List.mem_singleton]
  | load => simp [arrivals]
  | click index => simp [arrivals]
  | animationEnd index => simp [arrivals]

end PopupSession

open PopupSession

/-
  Whatever comes and is clicked in whatever order, no alarm
  is lost on its page or comes up twice, and none is queued
  again before 200 others.
-/
theorem popups_in_turn
    (events : List PopupEvent) :
    (run PopupSession.step .opened events).Kept ∧
      Along PopupSession.step
        (fun session event =>
          session.MostUrgentFirst event ∧
            session.QueuedIfNew event)
        .opened events := by
  constructor
  · apply run_invariant (I := fun session => Kept session)
    · intro session event hKept
      exact hKept.step event
    · exact kept_opened
  · apply Along.of_step (I := fun session => Kept session)
    · intro session event hKept
      exact
        ⟨hKept.mostUrgentFirst event, hKept.queuedIfNew event⟩
    · intro session event hKept
      exact hKept.step event
    · exact kept_opened

end Alerts

end Icmp2
