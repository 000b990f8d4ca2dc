import Icmp2.Alerts.Event
import Icmp2.Library.Backlog
import Icmp2.Library.Recent

/-
  The popups of alarms in a browser tab.

  Main definitions include:
    * `Icmp2.Alerts.Alarm`
    * `Icmp2.Alerts.Popup`
    * `Icmp2.Alerts.AlertPopup`
    * `Icmp2.Alerts.AlertPopup.showNext`
    * `Icmp2.Alerts.AlertPopup.poll`
    * `Icmp2.Alerts.AlertPopup.handleIncoming`
    * `Icmp2.Alerts.AlertPopup.animationEnd`
    * `Icmp2.Alerts.popupStep`

  Alarms come by polling and by a websocket.  What has come
  up or waits is remembered by the session of the tab, what
  waits only by the page.  The elements of the document are
  named by the order in which they were inserted.
-/

------------------------------------------------------------
-- Alarms
------------------------------------------------------------

namespace Icmp2

namespace Alerts

open Monitoring Library

/- An alarm as the server sends it. -/
structure Alarm where
  id : Nat
  severity : Severity
  title : String
  message : String
  occurredAt : Instant
  deriving DecidableEq, Repr

/- Only these two severities come up. -/
def Alarm.isUrgent
    (alarm : Alarm) :
    Bool :=
  alarm.severity = .danger ∨ alarm.severity = .warning

/- `rank[severity] ?? 2`. -/
def severityRank : Severity → Nat
  | .danger => 0
  | .warning => 1
  | _ => 2

/- The key of the order of the queue, greatest first. -/
def Alarm.urgency
    (alarm : Alarm) :
    Natᵒᵈ :=
  OrderDual.toDual (severityRank alarm.severity)

/- What the popup of an alarm says. -/
structure PopupText where
  colorClass : String
  label : String
  headline : String
  occurredAt : Instant
  message : String
  deriving DecidableEq, Repr

/- The texts of `buildPopupHTML`. -/
def buildPopupHTML
    (alarm : Alarm) :
    PopupText where
  colorClass :=
    if alarm.severity = .danger then "danger" else "warning"
  label := if alarm.severity = .danger then "위험" else "주의"
  headline :=
    if alarm.severity = .danger then "즉시 대피하세요!"
    else "주의하세요!"
  occurredAt := alarm.occurredAt
  message :=
    if alarm.message = "" then alarm.title else alarm.message

/- The rows of an answer have different keys. -/
structure Answer where
  alarms : List Alarm
  once : (alarms.map Alarm.id).Nodup

end Alerts

end Icmp2

------------------------------------------------------------
-- The Page
------------------------------------------------------------

namespace Icmp2

namespace Alerts

open Monitoring Library

/-
  An overlay: how many times a click on it calls `close`,
  and how many calls wait for the end of its animation.
-/
structure Popup where
  alarm : Alarm
  text : PopupText
  listeners : Nat
  closing : Nat
  removed : Bool
  deriving DecidableEq, Repr

/- The state of the script, its page and its session. -/
structure AlertPopup where
  seen : Deque 200 Nat
  queue : List Alarm
  isShowing : Bool
  body : List Popup

namespace AlertPopup

/- The place of `getElementById('alertPopupOverlay')`. -/
def overlay?
    (body : List Popup) :
    Option Nat :=
  body.findIdx? fun popup => !popup.removed

/- The listeners that `showNext` adds to what it finds. -/
def listen
    (body : List Popup) :
    List Popup :=
  match overlay? body with
  | none => body
  | some index =>
      body.modify index fun popup =>
        { popup with listeners := popup.listeners + 1 }

def newPopup
    (alarm : Alarm) :
    Popup where
  alarm := alarm
  text := buildPopupHTML alarm
  listeners := 0
  closing := 0
  removed := false

def showNext
    (page : AlertPopup) :
    AlertPopup :=
  match page.isShowing, page.queue with
  | false, alarm :: queue =>
      { page with
        queue := queue
        isShowing := true
        body := listen (page.body ++ [newPopup alarm]) }
  | _, _ => page

/- `close`: one more call waits for the animation. -/
def close
    (index : Nat)
    (page : AlertPopup) :
    AlertPopup :=
  { page with
    body :=
      page.body.modify index fun popup =>
        { popup with closing := popup.closing + 1 } }

/- `overlay.remove()`. -/
def remove
    (index : Nat)
    (body : List Popup) :
    List Popup :=
  body.modify index fun popup =>
    { popup with removed := true }

/- The call that waited for the end of the animation. -/
def afterClose
    (index : Nat)
    (page : AlertPopup) :
    AlertPopup :=
  showNext
    { page with
      isShowing := false
      body := remove index page.body }

/- A click on an overlay in the document. -/
def click
    (index : Nat)
    (page : AlertPopup) :
    AlertPopup :=
  match page.body[index]? with
  | none => page
  | some popup =>
      if popup.removed then
        page
      else
        (close index)^[popup.listeners] page

/- The calls are taken off the overlay (`once: true`). -/
def takeCalls
    (index : Nat)
    (page : AlertPopup) :
    AlertPopup :=
  { page with
    body :=
      page.body.modify index fun popup =>
        { popup with closing := 0 } }

/- The end of its animation; each call is made once. -/
def animationEnd
    (index : Nat)
    (page : AlertPopup) :
    AlertPopup :=
  match page.body[index]? with
  | none => page
  | some popup =>
      if popup.removed then
        page
      else
        (afterClose index)^[popup.closing]
          (takeCalls index page)

/- `markSeen` and `queue.push` of one alarm. -/
def push
    (page : AlertPopup)
    (alarm : Alarm) :
    AlertPopup :=
  { page with
    seen := page.seen.remember alarm.id
    queue := page.queue ++ [alarm] }

/- The queue in the order of the severities. -/
def sortQueue
    (page : AlertPopup) :
    AlertPopup :=
  { page with queue := orderDesc Alarm.urgency page.queue }

/- The alarms of an answer that are new to the session. -/
def newAlarms
    (page : AlertPopup)
    (alarms : List Alarm) :
    List Alarm :=
  alarms.filter fun alarm =>
    alarm.isUrgent ∧ alarm.id ∉ page.seen.items

/- `poll`, with the answer of the server. -/
def poll
    (answer : Answer)
    (page : AlertPopup) :
    AlertPopup :=
  showNext
    (sortQueue ((page.newAlarms answer.alarms).foldl push page))

/- `handleIncoming`. -/
def handleIncoming
    (alarm : Alarm)
    (page : AlertPopup) :
    AlertPopup :=
  if alarm.id ∈ page.seen.items then
    page
  else if alarm.isUrgent = false then
    page
  else
    showNext (sortQueue (page.push alarm))

/- Another page is loaded in the tab. -/
def load
    (page : AlertPopup) :
    AlertPopup where
  seen := page.seen
  queue := []
  isShowing := false
  body := []

end AlertPopup

/- What happens to a page; a failed poll changes nothing. -/
inductive PopupEvent where
  | load
  | answer (answer : Answer)
  | message (alarm : Alarm)
  | click (index : Nat)
  | animationEnd (index : Nat)

def popupStep
    (page : AlertPopup) :
    PopupEvent → AlertPopup
  | .load => page.load
  | .answer answer => page.poll answer
  | .message alarm => page.handleIncoming alarm
  | .click index => page.click index
  | .animationEnd index => page.animationEnd index

/- The first page of a session. -/
def firstPage : AlertPopup where
  seen := Deque.empty
  queue := []
  isShowing := false
  body := []

end Alerts

end Icmp2
