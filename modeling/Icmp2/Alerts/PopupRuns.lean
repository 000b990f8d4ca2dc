import Icmp2.Alerts.AlertPopup
import Icmp2.Library.Trace

/-
  Popups come up one at a time.

  Main definitions include:
    * `Icmp2.Alerts.OnScreen`
    * `Icmp2.Alerts.Orderly`
    * `Icmp2.Alerts.Clash`

  Main theorems include:
    * `Icmp2.Alerts.Matched.showNext`
    * `Icmp2.Alerts.orderly_popupStep_iff`
    * `Icmp2.Alerts.popups_one_at_a_time_iff`

  A popup that is clicked twice before it is gone closes
  twice.  The second time it takes the next popup, which has
  come up meanwhile, for gone.
-/

------------------------------------------------------------
-- Elements
------------------------------------------------------------

namespace Icmp2

namespace Alerts

open Monitoring Library

/- The popup at a place is in the document. -/
def OnScreen
    (body : List Popup)
    (index : Nat)
    (popup : Popup) :
    Prop :=
  body[index]? = some popup ∧ popup.removed = false

/- Some popup at a place is in the document. -/
def Live
    (body : List Popup)
    (index : Nat) :
    Prop :=
  ∃ popup, OnScreen body index popup

variable {body : List Popup}
variable {index place : Nat}
variable {popup : Popup}
variable {f : Popup → Popup}

theorem Live.lt_length
    (hLive : Live body index) :
    index < body.length := by
  rcases hLive with ⟨popup, hGet, _⟩
  exact (List.getElem?_eq_some_iff.mp hGet).1

/- A change of other fields, seen on the screen. -/
theorem onScreen_modify
    (hKeep : ∀ popup, (f popup).removed = popup.removed)
    (hShown : OnScreen (body.modify index f) place popup) :
    ∃ old,
      OnScreen body place old ∧
        popup = if index = place then f old else old := by
  rcases hShown with ⟨hGet, hHere⟩
  rw [List.getElem?_modify] at hGet
  rcases Option.map_eq_some_iff.mp hGet with
    ⟨old, hOld, rfl⟩
  refine ⟨old, ⟨hOld, ?_⟩, ?_⟩
  · by_cases hSame : index = place
    · rw [← hHere]
      simp only [hSame, if_true]
      exact (hKeep old).symm
    · rw [← hHere]
      simp only [hSame, if_false]
  · by_cases hSame : index = place
    · simp only [hSame, if_true]
    · simp only [hSame, if_false]

theorem live_modify_iff
    (hKeep : ∀ popup, (f popup).removed = popup.removed) :
    Live (body.modify index f) place ↔ Live body place := by
  constructor
  · rintro ⟨popup, hShown⟩
    rcases onScreen_modify hKeep hShown with ⟨old, hOld, _⟩
    exact ⟨old, hOld⟩
  · rintro ⟨old, hGet, hHere⟩
    refine ⟨if index = place then f old else old, ?_, ?_⟩
    · rw [List.getElem?_modify, hGet]
      by_cases hSame : index = place
      · simp only [hSame, if_true]
        rfl
      · simp only [hSame, if_false]
        rfl
    · by_cases hSame : index = place
      · rw [if_pos hSame, hKeep, hHere]
      · rw [if_neg hSame, hHere]

/- A popup that is removed is on the screen no more. -/
theorem onScreen_remove
    (hShown :
      OnScreen (AlertPopup.remove index body) place popup) :
    OnScreen body place popup ∧ place ≠ index := by
  rcases hShown with ⟨hGet, hHere⟩
  rw [AlertPopup.remove, List.getElem?_modify] at hGet
  rcases Option.map_eq_some_iff.mp hGet with
    ⟨old, hOld, hPopup⟩
  by_cases hSame : index = place
  · rw [if_pos hSame] at hPopup
    rw [← hPopup] at hHere
    cases hHere
  · rw [if_neg hSame] at hPopup
    cases hPopup
    exact ⟨⟨hOld, hHere⟩, fun hEq => hSame hEq.symm⟩

theorem live_remove
    (hLive : Live body place)
    (hOther : place ≠ index) :
    Live (AlertPopup.remove index body) place := by
  rcases hLive with ⟨popup, hGet, hHere⟩
  refine ⟨popup, ?_, hHere⟩
  rw [AlertPopup.remove,
    List.getElem?_modify_ne _ _ hOther.symm, hGet]

theorem live_append_newPopup_iff
    (alarm : Alarm) :
    Live (body ++ [AlertPopup.newPopup alarm]) place ↔
      Live body place ∨ place = body.length := by
  constructor
  · intro hLive
    have hLt := hLive.lt_length
    rw [List.length_append, List.length_singleton] at hLt
    rcases hLive with ⟨popup, hGet, hHere⟩
    by_cases hOld : place < body.length
    · rw [List.getElem?_append_left hOld] at hGet
      exact Or.inl ⟨popup, hGet, hHere⟩
    · exact Or.inr (by omega)
  · rintro (hLive | rfl)
    · rcases hLive with ⟨popup, hGet, hHere⟩
      refine ⟨popup, ?_, hHere⟩
      rw [List.getElem?_append_left
        (List.getElem?_eq_some_iff.mp hGet).1, hGet]
    · exact
        ⟨AlertPopup.newPopup alarm,
          List.getElem?_concat_length, rfl⟩

theorem live_listen_iff :
    Live (AlertPopup.listen body) place ↔
      Live body place := by
  unfold AlertPopup.listen
  cases AlertPopup.overlay? body with
  | none => exact Iff.rfl
  | some index => exact live_modify_iff fun _ => rfl

/- The first popup on the screen hears its own clicks. -/
theorem listen_append_newPopup
    (hNone : ∀ place, ¬ Live body place)
    (alarm : Alarm) :
    AlertPopup.listen (body ++ [AlertPopup.newPopup alarm]) =
      body ++
        [{ AlertPopup.newPopup alarm with listeners := 1 }] := by
  have hBody :
      body.findIdx? (fun popup => !popup.removed) = none := by
    rw [List.findIdx?_eq_none_iff]
    intro popup hMem
    rcases List.mem_iff_getElem?.mp hMem with ⟨index, hGet⟩
    by_contra hHere
    apply hNone index
    refine ⟨popup, hGet, ?_⟩
    cases hRemoved : popup.removed with
    | false => rfl
    | true =>
        rw [hRemoved] at hHere
        exact absurd rfl hHere
  have hFirst :
      AlertPopup.overlay?
          (body ++ [AlertPopup.newPopup alarm]) =
        some body.length := by
    rw [AlertPopup.overlay?, List.findIdx?_append, hBody]
    simp [AlertPopup.newPopup, List.findIdx?_cons]
  rw [AlertPopup.listen, hFirst]
  simp only
  rw [List.modify_eq_take_cons_drop (by simp)]
  simp [AlertPopup.newPopup]

end Alerts

end Icmp2

------------------------------------------------------------
-- Orderly Pages
------------------------------------------------------------

namespace Icmp2

namespace Alerts

open Monitoring Library

/- What the script believes to be shown is shown. -/
structure Matched
    (page : AlertPopup) :
    Prop where
  single :
    ∀ i j, Live page.body i → Live page.body j → i = j
  closable :
    ∀ index popup,
      OnScreen page.body index popup → popup.listeners = 1
  showing :
    page.isShowing = true ↔ ∃ index, Live page.body index

/-
  At most one popup is on the screen, one click closes it,
  and alarms wait only for one that is on the screen.
-/
structure Orderly
    (page : AlertPopup) :
    Prop
    extends Matched page where
  waiting : page.queue ≠ [] → page.isShowing = true

/- A popup that was clicked twice goes while alarms wait. -/
def Clash
    (page : AlertPopup) :
    PopupEvent → Prop
  | .animationEnd index =>
      page.queue ≠ [] ∧
        ∃ popup,
          OnScreen page.body index popup ∧ 2 ≤ popup.closing
  | _ => False

variable {page : AlertPopup}
variable {index place : Nat}

theorem Matched.not_live
    (hMatched : Matched page)
    (hIdle : page.isShowing = false)
    (place : Nat) :
    ¬ Live page.body place := by
  intro hLive
  have hShowing := hMatched.showing.mpr ⟨place, hLive⟩
  rw [hIdle] at hShowing
  cases hShowing

/- The next popup comes up if there is none. -/
theorem Matched.showNext
    (hMatched : Matched page) :
    Orderly page.showNext := by
  unfold AlertPopup.showNext
  cases hShowing : page.isShowing with
  | true => exact ⟨hMatched, fun _ => hShowing⟩
  | false =>
      have hNone := hMatched.not_live hShowing
      cases hQueue : page.queue with
      | nil =>
          refine ⟨hMatched, fun hSome => ?_⟩
          exact absurd hQueue hSome
      | cons alarm queue =>
          simp only
          rw [listen_append_newPopup hNone]
          have hOnly :
              ∀ place popup,
                OnScreen
                    (page.body ++
                      [{ AlertPopup.newPopup alarm with
                          listeners := 1 }]) place popup →
                  place = page.body.length ∧
                    popup.listeners = 1 := by
            rintro place popup ⟨hGet, hHere⟩
            rcases Nat.lt_or_ge place page.body.length with
              hOld | hNew
            · rw [List.getElem?_append_left hOld] at hGet
              exact absurd ⟨popup, hGet, hHere⟩ (hNone place)
            · rw [List.getElem?_append_right hNew] at hGet
              have hZero : place - page.body.length = 0 := by
                by_contra hLater
                rw [List.getElem?_eq_none] at hGet
                · cases hGet
                · rw [List.length_singleton]
                  omega
              rw [hZero] at hGet
              cases hGet
              exact ⟨by omega, rfl⟩
          refine ⟨⟨?_, ?_, ?_⟩, fun _ => rfl⟩
          · rintro i j ⟨left, hLeft⟩ ⟨right, hRight⟩
            rw [(hOnly i left hLeft).1, (hOnly j right hRight).1]
          · intro index popup hShown
            exact (hOnly index popup hShown).2
          · refine ⟨fun _ => ?_, fun _ => rfl⟩
            exact
              ⟨page.body.length, _,
                List.getElem?_concat_length, rfl⟩

end Alerts

end Icmp2

------------------------------------------------------------
-- Closing
------------------------------------------------------------

namespace Icmp2

namespace Alerts

open Monitoring Library

variable {page : AlertPopup}
variable {index place : Nat}

/- Other fields of the popups do not matter. -/
theorem Matched.modify
    (hMatched : Matched page)
    {f : Popup → Popup}
    (hKeep : ∀ popup, (f popup).removed = popup.removed)
    (hListeners :
      ∀ popup, (f popup).listeners = popup.listeners)
    (index : Nat) :
    Matched
      { page with body := page.body.modify index f } where
  single := by
    intro i j hLeft hRight
    exact
      hMatched.single i j ((live_modify_iff hKeep).mp hLeft)
        ((live_modify_iff hKeep).mp hRight)
  closable := by
    intro place popup hShown
    rcases onScreen_modify hKeep hShown with
      ⟨old, hOld, rfl⟩
    by_cases hSame : index = place
    · rw [if_pos hSame, hListeners]
      exact hMatched.closable place old hOld
    · rw [if_neg hSame]
      exact hMatched.closable place old hOld
  showing := by
    rw [hMatched.showing]
    exact
      exists_congr fun place => (live_modify_iff hKeep).symm

theorem Orderly.click
    (hOrderly : Orderly page)
    (index : Nat) :
    Orderly (page.click index) := by
  have hClose :
      ∀ count,
        Orderly ((AlertPopup.close index)^[count] page) := by
    intro count
    induction count with
    | zero => exact hOrderly
    | succ count ih =>
        rw [Function.iterate_succ_apply']
        refine ⟨?_, ih.waiting⟩
        exact
          ih.toMatched.modify
            (f := fun popup =>
              { popup with closing := popup.closing + 1 })
            (fun _ => rfl) (fun _ => rfl) index
  unfold AlertPopup.click
  cases page.body[index]? with
  | none => exact hOrderly
  | some popup =>
      simp only
      by_cases hRemoved : popup.removed = true
      · rw [if_pos hRemoved]
        exact hOrderly
      · rw [if_neg hRemoved]
        exact hClose popup.listeners

/- Nothing is on the screen when its only popup is gone. -/
theorem Matched.not_live_remove
    (hMatched : Matched page)
    (hLive : Live page.body index)
    (place : Nat) :
    ¬ Live (AlertPopup.remove index page.body) place := by
  rintro ⟨popup, hShown⟩
  rcases onScreen_remove hShown with ⟨hOld, hOther⟩
  exact
    hOther (hMatched.single place index ⟨popup, hOld⟩ hLive)

theorem matched_of_not_live
    (hNone : ∀ place, ¬ Live page.body place)
    (hIdle : page.isShowing = false) :
    Matched page where
  single := by
    intro i j hLive
    exact absurd hLive (hNone i)
  closable := by
    intro place popup hShown
    exact absurd ⟨popup, hShown⟩ (hNone place)
  showing := by
    rw [hIdle]
    constructor
    · intro hShowing
      cases hShowing
    · rintro ⟨place, hLive⟩
      exact absurd hLive (hNone place)

theorem Matched.afterClose
    (hMatched : Matched page)
    (hLive : Live page.body index) :
    Orderly (page.afterClose index) :=
  Matched.showNext
    (matched_of_not_live (hMatched.not_live_remove hLive)
      rfl)

/- No popup and no alarm. -/
structure Idle
    (page : AlertPopup) :
    Prop where
  notShowing : page.isShowing = false
  queue : page.queue = []
  notLive : ∀ place, ¬ Live page.body place

theorem Idle.orderly
    (hIdle : Idle page) :
    Orderly page :=
  ⟨matched_of_not_live hIdle.notLive hIdle.notShowing,
    fun hSome => absurd hIdle.queue hSome⟩

/- Where no alarm waits a second closing does no harm. -/
theorem idle_afterClose
    (hQueue : page.queue = [])
    (hNone :
      ∀ place,
        ¬ Live (AlertPopup.remove index page.body) place) :
    Idle (page.afterClose index) := by
  unfold AlertPopup.afterClose AlertPopup.showNext
  simp only [hQueue]
  exact ⟨rfl, rfl, hNone⟩

theorem Idle.afterClose
    (hIdle : Idle page)
    (index : Nat) :
    Idle (page.afterClose index) := by
  apply idle_afterClose hIdle.queue
  rintro place ⟨popup, hShown⟩
  exact
    hIdle.notLive place
      ⟨popup, (onScreen_remove hShown).1⟩

/- A popup that stays behind is taken for gone. -/
theorem live_showNext
    (hLive : Live page.body place) :
    Live page.showNext.body place := by
  unfold AlertPopup.showNext
  cases page.isShowing with
  | true => exact hLive
  | false =>
      cases page.queue with
      | nil => exact hLive
      | cons alarm queue =>
          exact
            live_listen_iff.mpr
              ((live_append_newPopup_iff alarm).mpr
                (Or.inl hLive))

theorem not_orderly_afterClose
    (hLive : Live page.body place)
    (hOther : place ≠ index) :
    ¬ Orderly (page.afterClose index) := by
  intro hOrderly
  have hStays := live_remove hLive hOther
  have hHere : Live (page.afterClose index).body place :=
    live_showNext hStays
  have hShowing :=
    hOrderly.showing.mpr ⟨place, hHere⟩
  cases hQueue : page.queue with
  | nil =>
      simp only [AlertPopup.afterClose, AlertPopup.showNext,
        hQueue] at hShowing
      cases hShowing
  | cons alarm queue =>
      have hNew :
          Live (page.afterClose index).body
            (AlertPopup.remove index page.body).length := by
        simp only [AlertPopup.afterClose,
          AlertPopup.showNext, hQueue]
        exact
          live_listen_iff.mpr
            ((live_append_newPopup_iff alarm).mpr
              (Or.inr rfl))
      exact
        hStays.lt_length.ne
          (hOrderly.single place _ hHere hNew)

theorem not_orderly_iterate_afterClose
    (hLive : Live page.body place)
    (hOther : place ≠ index)
    (count : Nat) :
    ¬ Orderly
      ((AlertPopup.afterClose index)^[count + 1] page) := by
  have hStays :
      ∀ count,
        Live ((AlertPopup.afterClose index)^[count] page).body
          place := by
    intro count
    induction count with
    | zero => exact hLive
    | succ count ih =>
        rw [Function.iterate_succ_apply']
        exact live_showNext (live_remove ih hOther)
  rw [Function.iterate_succ_apply']
  exact not_orderly_afterClose (hStays count) hOther

end Alerts

end Icmp2

------------------------------------------------------------
-- One at a Time
------------------------------------------------------------

namespace Icmp2

namespace Alerts

open Monitoring Library

variable {page : AlertPopup}

/- Alarms that come do not touch the document. -/
theorem body_foldl_push
    (page : AlertPopup)
    (alarms : List Alarm) :
    (alarms.foldl AlertPopup.push page).body = page.body ∧
      (alarms.foldl AlertPopup.push page).isShowing =
        page.isShowing := by
  induction alarms generalizing page with
  | nil => exact ⟨rfl, rfl⟩
  | cons alarm alarms ih => exact ih (page.push alarm)

theorem Matched.of_body
    (hMatched : Matched page)
    {later : AlertPopup}
    (hBody : later.body = page.body)
    (hShowing : later.isShowing = page.isShowing) :
    Matched later := by
  refine ⟨?_, ?_, ?_⟩
  · rw [hBody]
    exact hMatched.single
  · rw [hBody]
    exact hMatched.closable
  · rw [hBody, hShowing]
    exact hMatched.showing

theorem Matched.poll
    (hMatched : Matched page)
    (answer : Answer) :
    Orderly (page.poll answer) := by
  have hPush :=
    body_foldl_push page (page.newAlarms answer.alarms)
  apply Matched.showNext
  exact hMatched.of_body hPush.1 hPush.2

theorem Orderly.handleIncoming
    (hOrderly : Orderly page)
    (alarm : Alarm) :
    Orderly (page.handleIncoming alarm) := by
  unfold AlertPopup.handleIncoming
  split
  · exact hOrderly
  · split
    · exact hOrderly
    · apply Matched.showNext
      exact hOrderly.toMatched.of_body rfl rfl

theorem orderly_load
    (page : AlertPopup) :
    Orderly page.load := by
  apply Idle.orderly
  refine ⟨rfl, rfl, ?_⟩
  intro place hLive
  exact absurd hLive.lt_length (Nat.not_lt_zero place)

theorem Orderly.takeCalls
    (hOrderly : Orderly page)
    (index : Nat) :
    Orderly (page.takeCalls index) := by
  refine ⟨?_, hOrderly.waiting⟩
  exact
    hOrderly.toMatched.modify
      (f := fun popup => { popup with closing := 0 })
      (fun _ => rfl) (fun _ => rfl) index

theorem Idle.iterate_afterClose
    (hIdle : Idle page)
    (index count : Nat) :
    Idle ((AlertPopup.afterClose index)^[count] page) := by
  induction count with
  | zero => exact hIdle
  | succ count ih =>
      rw [Function.iterate_succ_apply']
      exact ih.afterClose index

/- Closing once brings up the next alarm. -/
theorem live_afterClose
    (index : Nat)
    (hQueue : page.queue ≠ []) :
    Live (page.afterClose index).body page.body.length := by
  cases hAlarms : page.queue with
  | nil => exact absurd hAlarms hQueue
  | cons alarm queue =>
      simp only [AlertPopup.afterClose, AlertPopup.showNext,
        hAlarms]
      rw [live_listen_iff, live_append_newPopup_iff,
        AlertPopup.remove, List.length_modify]
      exact Or.inr rfl

/- Closing more than once is in order if nothing waits. -/
theorem Orderly.iterate_afterClose_iff
    (hOrderly : Orderly page)
    {index : Nat}
    (hLive : Live page.body index)
    (count : Nat) :
    Orderly ((AlertPopup.afterClose index)^[count] page) ↔
      ¬ (page.queue ≠ [] ∧ 2 ≤ count) := by
  match count with
  | 0 =>
      refine iff_of_true hOrderly ?_
      rintro ⟨_, hTwice⟩
      omega
  | 1 =>
      refine
        iff_of_true (hOrderly.toMatched.afterClose hLive) ?_
      rintro ⟨_, hTwice⟩
      omega
  | count + 2 =>
      rw [Function.iterate_succ_apply]
      by_cases hQueue : page.queue = []
      · refine iff_of_true ?_ fun hClash => hClash.1 hQueue
        have hIdle :=
          idle_afterClose hQueue
            (hOrderly.toMatched.not_live_remove hLive)
        exact
          (hIdle.iterate_afterClose index (count + 1)).orderly
      · refine
          iff_of_false ?_ fun hNot =>
            hNot ⟨hQueue, Nat.le_add_left 2 count⟩
        exact
          not_orderly_iterate_afterClose
            (live_afterClose index hQueue)
            hLive.lt_length.ne' count

/- The popup goes in order unless it closes twice. -/
theorem Orderly.animationEnd_iff
    (hOrderly : Orderly page)
    (index : Nat) :
    Orderly (page.animationEnd index) ↔
      ¬ Clash page (.animationEnd index) := by
  by_cases hLive : Live page.body index
  · rcases hLive with ⟨popup, hGet, hHere⟩
    have hClash :
        Clash page (.animationEnd index) ↔
          page.queue ≠ [] ∧ 2 ≤ popup.closing := by
      constructor
      · rintro ⟨hQueue, other, ⟨hSome, _⟩, hTwice⟩
        rw [hGet] at hSome
        cases hSome
        exact ⟨hQueue, hTwice⟩
      · rintro ⟨hQueue, hTwice⟩
        exact ⟨hQueue, popup, ⟨hGet, hHere⟩, hTwice⟩
    have hTaken : Live (page.takeCalls index).body index :=
      (live_modify_iff
        (f := fun popup => { popup with closing := 0 })
        fun _ => rfl).mpr ⟨popup, hGet, hHere⟩
    rw [hClash, AlertPopup.animationEnd, hGet]
    simp only [hHere, Bool.false_eq_true, if_false]
    exact
      (hOrderly.takeCalls index).iterate_afterClose_iff hTaken
        popup.closing
  · have hSame : page.animationEnd index = page := by
      unfold AlertPopup.animationEnd
      cases hGet : page.body[index]? with
      | none => rfl
      | some popup =>
          cases hRemoved : popup.removed with
          | true => simp only [hRemoved, if_true]
          | false =>
              exact absurd ⟨popup, hGet, hRemoved⟩ hLive
    rw [hSame]
    refine iff_of_true hOrderly ?_
    rintro ⟨_, popup, hShown, _⟩
    exact hLive ⟨popup, hShown⟩

theorem orderly_popupStep_iff
    (hOrderly : Orderly page)
    (event : PopupEvent) :
    Orderly (popupStep page event) ↔ ¬ Clash page event := by
  cases event with
  | load => exact iff_of_true (orderly_load page) id
  | answer answer =>
      exact iff_of_true (hOrderly.toMatched.poll answer) id
  | message alarm =>
      exact iff_of_true (hOrderly.handleIncoming alarm) id
  | click index => exact iff_of_true (hOrderly.click index) id
  | animationEnd index => exact hOrderly.animationEnd_iff index

theorem popups_one_at_a_time_iff
    (events : List PopupEvent) :
    Along popupStep
        (fun page event => Orderly (popupStep page event))
        firstPage events ↔
      Along popupStep (fun page event => ¬ Clash page event)
        firstPage events := by
  apply
    along_iff_of_invariant (I := fun page => Orderly page)
  · intro page event hOrderly
    exact orderly_popupStep_iff hOrderly event
  · intro page event _ hNext
    exact hNext
  · exact orderly_load firstPage

end Alerts

end Icmp2
