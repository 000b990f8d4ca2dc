import Icmp2.Library.Cursor
import Icmp2.Library.Rows
import Icmp2.Library.Trace
import Mathlib.Logic.Function.Basic

/-
  Broadcasts over the list of connected clients.

  Main definitions include:
    * `Icmp2.FastapiApp.Broadcast`
    * `Icmp2.FastapiApp.Hub`
    * `Icmp2.FastapiApp.HubOp`
    * `Icmp2.FastapiApp.hubStep`
    * `Icmp2.FastapiApp.Undisturbed`

  Main theorems include:
    * `Icmp2.FastapiApp.Hub.Sound.hubStep`
    * `Icmp2.FastapiApp.broadcast_safe_of_undisturbed`

  Between two awaits a coroutine runs alone.  A broadcast
  awaits each send, and meanwhile handlers and other
  broadcasts append to the list and remove from it.
-/

------------------------------------------------------------
-- The Hub
------------------------------------------------------------

namespace Icmp2

namespace FastapiApp

open Library

/-
  A broadcast that awaits a send: its place in the list,
  the client that it sends to, those to which its sends
  failed or succeeded, and the list at its start.
-/
structure Broadcast where
  cursor : Cursor Nat
  current : Nat
  dead : List Nat
  received : List Nat
  atStart : List Nat
  deriving DecidableEq, Repr

/- Before, in and behind the loop of a handler. -/
inductive HandlerState where
  | absent
  | connected
  | closed
  deriving DecidableEq, Repr

/- Who was well all along a broadcast, and who got it. -/
structure Delivery where
  healthy : List Nat
  received : List Nat
  deriving DecidableEq, Repr

/-
  `_clients`, the handlers, the clients that were left by
  their handler or by a send, the broadcasts at work, the
  finished ones, and the coroutines that ended with a
  `ValueError` of `_clients.remove`.
-/
structure Hub where
  clients : List Nat
  handler : Nat → HandlerState
  leaving : Nat → Bool
  running : Nat → Option Broadcast
  finished : List Delivery
  failedBroadcasts : List Nat
  failedHandlers : List Nat

def Hub.initial : Hub where
  clients := []
  handler := fun _ => .absent
  leaving := fun _ => false
  running := fun _ => none
  finished := []
  failedBroadcasts := []
  failedHandlers := []

/-
  What runs between two awaits: a handler behind its
  `accept`, a handler that meets `WebSocketDisconnect`, the
  start of a broadcast, and the end of a send.
-/
inductive HubOp where
  | connect (client : Nat)
  | disconnect (client : Nat)
  | start (broadcast : Nat)
  | sent (broadcast : Nat) (ok : Bool)
  deriving DecidableEq, Repr

/-
  `for ws in dead: _clients.remove(ws)`, and whether it
  came to its end.
-/
def removeDead : List Nat → List Nat → List Nat × Bool
  | clients, [] => (clients, true)
  | clients, ws :: dead =>
      if ws ∈ clients then
        removeDead (clients.erase ws) dead
      else
        (clients, false)

/- The broadcast with the outcome of its present send. -/
def Broadcast.noted
    (broadcast : Broadcast)
    (ok : Bool) :
    Broadcast :=
  if ok then
    { broadcast with
      received :=
        broadcast.received ++ [broadcast.current] }
  else
    { broadcast with
      dead := broadcast.dead ++ [broadcast.current] }

/- A failed send leaves its client. -/
def Hub.leavingAfter
    (hub : Hub)
    (client : Nat)
    (ok : Bool) :
    Nat → Bool :=
  if ok then
    hub.leaving
  else
    Function.update hub.leaving client true

/- `_clients.append(ws)`, once for each handler. -/
def Hub.connect
    (hub : Hub)
    (client : Nat) :
    Hub :=
  if hub.handler client = .absent then
    { hub with
      clients := hub.clients ++ [client]
      handler :=
        Function.update hub.handler client .connected }
  else
    hub

/- `except WebSocketDisconnect: _clients.remove(ws)`. -/
def Hub.disconnect
    (hub : Hub)
    (client : Nat) :
    Hub :=
  if hub.handler client = .connected then
    { hub with
      clients := hub.clients.erase client
      handler := Function.update hub.handler client .closed
      leaving := Function.update hub.leaving client true
      failedHandlers :=
        if client ∈ hub.clients then
          hub.failedHandlers
        else
          hub.failedHandlers ++ [client] }
  else
    hub

/- `_broadcast` up to its first send. -/
def Hub.start
    (hub : Hub)
    (broadcast : Nat) :
    Hub :=
  match hub.running broadcast, hub.clients with
  | none, [] =>
      { hub with finished := hub.finished ++ [⟨[], []⟩] }
  | none, first :: rest =>
      { hub with
        running :=
          Function.update hub.running broadcast
            (some
              { cursor := Cursor.start first
                current := first
                dead := []
                received := []
                atStart := first :: rest }) }
  | some _, _ => hub

/- The end of a broadcast behind its last send. -/
def Hub.finish
    (hub : Hub)
    (broadcast : Nat)
    (state : Broadcast) :
    Hub :=
  match removeDead hub.clients state.dead with
  | (clients, true) =>
      { hub with
        clients := clients
        running := Function.update hub.running broadcast none
        finished :=
          hub.finished ++
            [{ healthy :=
                 state.atStart.filter fun client =>
                   hub.leaving client = false
               received := state.received }] }
  | (clients, false) =>
      { hub with
        clients := clients
        running := Function.update hub.running broadcast none
        failedBroadcasts :=
          hub.failedBroadcasts ++ [broadcast] }

/- `_broadcast` from one send to the next. -/
def Hub.sent
    (hub : Hub)
    (broadcast : Nat)
    (ok : Bool) :
    Hub :=
  match hub.running broadcast with
  | none => hub
  | some state =>
      let noted := state.noted ok
      let left :=
        { hub with
          leaving := hub.leavingAfter state.current ok }
      match hub.clients[state.cursor.position + 1]? with
      | some next =>
          { left with
            running :=
              Function.update hub.running broadcast
                (some
                  { noted with
                    cursor := noted.cursor.advance next
                    current := next }) }
      | none => left.finish broadcast noted

def hubStep
    (hub : Hub) :
    HubOp → Hub
  | .connect client => hub.connect client
  | .disconnect client => hub.disconnect client
  | .start broadcast => hub.start broadcast
  | .sent broadcast ok => hub.sent broadcast ok

/- No coroutine ended with an exception of the list. -/
def Hub.Safe
    (hub : Hub) :
    Prop :=
  hub.failedBroadcasts = [] ∧ hub.failedHandlers = []

/- Who was well all along got each broadcast once. -/
def Hub.Delivered
    (hub : Hub) :
    Prop :=
  ∀ delivery ∈ hub.finished,
    ∀ client ∈ delivery.healthy,
      delivery.received.count client = 1

/- A removal skips nobody in the broadcasts but one. -/
def ClearOfOthers
    (hub : Hub)
    (broadcast : Option Nat)
    (clients : List Nat)
    (client : Nat) :
    Prop :=
  ∀ other state,
    some other ≠ broadcast →
    hub.running other = some state →
      state.cursor.Clear clients client

/- The removals of a dead list, one after the other. -/
def AllClearOfOthers
    (hub : Hub)
    (broadcast : Nat) :
    List Nat → List Nat → Prop
  | _, [] => True
  | clients, ws :: dead =>
      ClearOfOthers hub (some broadcast) clients ws ∧
        AllClearOfOthers hub broadcast
          (clients.erase ws) dead

/-
  A client is left for one reason only, by its handler or
  by one failed send; and when it is removed, no other
  broadcast has come to its place and has clients ahead.
-/
def Undisturbed
    (hub : Hub) :
    HubOp → Prop
  | .connect _ => True
  | .disconnect client =>
      hub.handler client = .connected →
        hub.leaving client = false ∧
          ClearOfOthers hub none hub.clients client
  | .start _ => True
  | .sent broadcast ok =>
      ∀ state,
        hub.running broadcast = some state →
          (ok = false →
            hub.leaving state.current = false) ∧
          (hub.clients[state.cursor.position + 1]? = none →
            AllClearOfOthers hub broadcast hub.clients
              (state.noted ok).dead)

end FastapiApp

end Icmp2

------------------------------------------------------------
-- Removals
------------------------------------------------------------

namespace Icmp2

namespace FastapiApp

open Library

/- Distinct listed clients are all removed. -/
theorem removeDead_of_listed
    {clients dead : List Nat}
    (hNodup : dead.Nodup)
    (hListed : ∀ client ∈ dead, client ∈ clients) :
    removeDead clients dead = (clients.diff dead, true) := by
  induction dead generalizing clients with
  | nil => rfl
  | cons ws dead ih =>
      rcases List.nodup_cons.mp hNodup with
        ⟨hFirst, hRest⟩
      have hWs : ws ∈ clients :=
        hListed ws List.mem_cons_self
      have hLater :
          ∀ client ∈ dead, client ∈ clients.erase ws := by
        intro client hClient
        have hNe : client ≠ ws := by
          intro hSame
          rw [hSame] at hClient
          exact hFirst hClient
        exact
          (List.mem_erase_of_ne hNe).mpr
            (hListed client
              (List.mem_cons_of_mem ws hClient))
      rw [removeDead, if_pos hWs, ih hRest hLater,
        List.diff_cons]

/- Clear removals leave another broadcast on its track. -/
theorem tracks_diff
    {hub : Hub}
    {broadcast other : Nat}
    {state : Broadcast}
    {stays : Nat → Prop}
    (hOther : some other ≠ some broadcast)
    (hRunning : hub.running other = some state)
    {clients dead : List Nat}
    (hNodup : clients.Nodup)
    (hClear : AllClearOfOthers hub broadcast clients dead)
    (hTracks : state.cursor.Tracks clients stays) :
    state.cursor.Tracks (clients.diff dead) stays := by
  induction dead generalizing clients with
  | nil => exact hTracks
  | cons ws dead ih =>
      rw [List.diff_cons]
      apply ih (hNodup.erase ws) hClear.2
      exact
        hTracks.erase hNodup
          (hClear.1 other state hOther hRunning)

end FastapiApp

end Icmp2

------------------------------------------------------------
-- The Invariant
------------------------------------------------------------

namespace Icmp2

namespace FastapiApp

open Library

/- Whom a broadcast owes its message. -/
def Hub.Owed
    (hub : Hub)
    (state : Broadcast)
    (client : Nat) :
    Prop :=
  client ∈ state.atStart ∧ hub.leaving client = false

/-
  A broadcast at work is on its track, has noted every
  send but the present one, and finds its dead clients
  still in the list.
-/
structure Broadcast.Sound
    (hub : Hub)
    (state : Broadcast) :
    Prop where
  tracks : state.cursor.Tracks hub.clients (hub.Owed state)
  known :
    ∀ client ∈ state.cursor.visited,
      hub.handler client ≠ .absent
  knownStart :
    ∀ client ∈ state.atStart,
      hub.handler client ≠ .absent
  present : state.current ∈ state.cursor.visited
  count :
    ∀ client,
      state.cursor.visited.count client =
        state.received.count client +
          state.dead.count client +
          [state.current].count client
  listed :
    ∀ client ∈ state.dead,
      client ∈ hub.clients ∧ hub.leaving client = true

/- What a broadcast sees of the hub. -/
theorem Broadcast.Sound.frame
    {hub next : Hub}
    {state : Broadcast}
    (hState : state.Sound hub)
    (hClients : next.clients = hub.clients)
    (hHandler : next.handler = hub.handler)
    (hLeaving : next.leaving = hub.leaving) :
    state.Sound next := by
  have hOwed : next.Owed state = hub.Owed state := by
    funext client
    unfold Hub.Owed
    rw [hLeaving]
  refine
    ⟨?_, ?_, ?_, hState.present, hState.count, ?_⟩
  · rw [hClients, hOwed]
    exact hState.tracks
  · rw [hHandler]
    exact hState.known
  · rw [hHandler]
    exact hState.knownStart
  · rw [hClients, hLeaving]
    exact hState.listed

structure Hub.Sound
    (hub : Hub) :
    Prop where
  nodup : hub.clients.Nodup
  listed :
    ∀ client,
      hub.handler client = .connected →
      hub.leaving client = false →
        client ∈ hub.clients
  opened :
    ∀ client ∈ hub.clients,
      hub.handler client = .connected
  closed :
    ∀ client,
      hub.handler client = .closed →
        hub.leaving client = true
  running :
    ∀ broadcast state,
      hub.running broadcast = some state →
        state.Sound hub
  disjoint :
    ∀ left right first second client,
      left ≠ right →
      hub.running left = some first →
      hub.running right = some second →
      client ∈ first.dead →
        client ∉ second.dead
  safe : hub.Safe
  delivered : hub.Delivered

theorem Hub.Sound.initial :
    Hub.initial.Sound where
  nodup := List.nodup_nil
  listed := by
    intro client hHandler
    cases hHandler
  opened := by
    intro client hClient
    cases hClient
  closed := by
    intro client hHandler
    cases hHandler
  running := by
    intro broadcast state hRunning
    cases hRunning
  disjoint := by
    intro left right first second client _ hLeft
    cases hLeft
  safe := ⟨rfl, rfl⟩
  delivered := by
    intro delivery hDelivery
    cases hDelivery

/- A client that is known and not left is in the list. -/
theorem Hub.Sound.mem_clients
    {hub : Hub}
    (hSound : hub.Sound)
    {client : Nat}
    (hKnown : hub.handler client ≠ .absent)
    (hStays : hub.leaving client = false) :
    client ∈ hub.clients := by
  cases hHandler : hub.handler client with
  | absent => exact absurd hHandler hKnown
  | connected => exact hSound.listed client hHandler hStays
  | closed =>
      have hLeaving := hSound.closed client hHandler
      rw [hStays] at hLeaving
      cases hLeaving

/- A handler behind its `accept` is where it was. -/
theorem handler_connect_of_known
    {hub : Hub}
    {client other : Nat}
    (hAbsent : hub.handler client = .absent)
    (hKnown : hub.handler other ≠ .absent) :
    (hub.connect client).handler other =
      hub.handler other := by
  unfold Hub.connect
  rw [if_pos hAbsent]
  apply Function.update_of_ne
  intro hSame
  rw [hSame] at hKnown
  exact hKnown hAbsent

/- A new client disturbs no broadcast. -/
theorem Broadcast.Sound.connect
    {hub : Hub}
    {state : Broadcast}
    (hState : state.Sound hub)
    {client : Nat}
    (hAbsent : hub.handler client = .absent) :
    state.Sound (hub.connect client) := by
  have hConnect :
      hub.connect client =
        { hub with
          clients := hub.clients ++ [client]
          handler :=
            Function.update hub.handler client
              .connected } :=
    if_pos hAbsent
  refine ⟨?_, ?_, ?_, hState.present, hState.count, ?_⟩
  · rw [hConnect]
    apply hState.tracks.push
    · intro hVisited
      exact hState.known client hVisited hAbsent
    · intro hOwed
      exact hState.knownStart client hOwed.1 hAbsent
  · intro other hVisited
    have hOther := hState.known other hVisited
    rw [handler_connect_of_known hAbsent hOther]
    exact hOther
  · intro other hStart
    have hOther := hState.knownStart other hStart
    rw [handler_connect_of_known hAbsent hOther]
    exact hOther
  · intro other hDead
    rw [hConnect]
    rcases hState.listed other hDead with
      ⟨hMem, hLeaving⟩
    exact ⟨List.mem_append_left _ hMem, hLeaving⟩

/- A new client is the last of the list. -/
theorem Hub.Sound.connect
    {hub : Hub}
    (hSound : hub.Sound)
    (client : Nat) :
    (hub.connect client).Sound := by
  by_cases hAbsent : hub.handler client = .absent
  · have hConnect :
        hub.connect client =
          { hub with
            clients := hub.clients ++ [client]
            handler :=
              Function.update hub.handler client
                .connected } :=
      if_pos hAbsent
    have hSelf :
        (hub.connect client).handler client =
          .connected := by
      rw [hConnect]
      exact Function.update_self ..
    have hNew : client ∉ hub.clients := by
      intro hMem
      have hOpen := hSound.opened client hMem
      rw [hAbsent] at hOpen
      cases hOpen
    have hOld :
        ∀ other, other ≠ client →
          (hub.connect client).handler other =
            hub.handler other := by
      intro other hNe
      rw [hConnect]
      exact Function.update_of_ne hNe _ _
    refine ⟨?_, ?_, ?_, ?_, ?_, ?_, ?_, ?_⟩
    · rw [hConnect]
      exact
        hSound.nodup.append (List.nodup_singleton client)
          (by simpa using hNew)
    · intro other hHandler hStays
      rw [hConnect] at hStays ⊢
      by_cases hSame : other = client
      · rw [hSame]
        exact
          List.mem_append_right _
            (List.mem_singleton.mpr rfl)
      · rw [hOld other hSame] at hHandler
        exact
          List.mem_append_left _
            (hSound.listed other hHandler hStays)
    · intro other hMem
      rw [hConnect] at hMem
      rcases List.mem_append.mp hMem with hBefore | hLast
      · have hNe : other ≠ client :=
          ne_of_mem_of_not_mem hBefore hNew
        rw [hOld other hNe]
        exact hSound.opened other hBefore
      · rw [List.mem_singleton.mp hLast]
        exact hSelf
    · intro other hHandler
      by_cases hSame : other = client
      · rw [hSame, hSelf] at hHandler
        cases hHandler
      · rw [hOld other hSame] at hHandler
        rw [hConnect]
        exact hSound.closed other hHandler
    · intro broadcast state hRunning
      rw [hConnect] at hRunning
      exact
        (hSound.running broadcast state hRunning).connect
          hAbsent
    · rw [hConnect]
      exact hSound.disjoint
    · rw [hConnect]
      exact hSound.safe
    · rw [hConnect]
      exact hSound.delivered
  · have hConnect : hub.connect client = hub :=
      if_neg hAbsent
    rw [hConnect]
    exact hSound

section Disconnections

variable {hub : Hub}
variable {client : Nat}

/- The handler of the client meets `WebSocketDisconnect`. -/
variable (hOpen : hub.handler client = .connected)
include hOpen

theorem disconnect_of_connected :
    hub.disconnect client =
      { hub with
        clients := hub.clients.erase client
        handler :=
          Function.update hub.handler client .closed
        leaving := Function.update hub.leaving client true
        failedHandlers :=
          if client ∈ hub.clients then
            hub.failedHandlers
          else
            hub.failedHandlers ++ [client] } :=
  if_pos hOpen

/- Who was left before stays left. -/
theorem leaving_disconnect
    {other : Nat}
    (hLeaving : hub.leaving other = true) :
    (hub.disconnect client).leaving other = true := by
  rw [disconnect_of_connected hOpen]
  change Function.update hub.leaving client true other = true
  by_cases hSame : other = client
  · rw [hSame, Function.update_self]
  · rw [Function.update_of_ne hSame]
    exact hLeaving

/- Who is not left is another, and was not left before. -/
theorem leaving_of_disconnect
    {other : Nat}
    (hStays : (hub.disconnect client).leaving other = false) :
    other ≠ client ∧ hub.leaving other = false := by
  rw [disconnect_of_connected hOpen] at hStays
  change
    Function.update hub.leaving client true other = false
    at hStays
  by_cases hSame : other = client
  · rw [hSame, Function.update_self] at hStays
    cases hStays
  · rw [Function.update_of_ne hSame] at hStays
    exact ⟨hSame, hStays⟩

theorem handler_disconnect_of_ne
    {other : Nat}
    (hNe : other ≠ client) :
    (hub.disconnect client).handler other =
      hub.handler other := by
  rw [disconnect_of_connected hOpen]
  exact Function.update_of_ne hNe _ _

theorem handler_disconnect_self :
    (hub.disconnect client).handler client = .closed := by
  rw [disconnect_of_connected hOpen]
  exact Function.update_self ..

theorem handler_disconnect_of_known
    {other : Nat}
    (hKnown : hub.handler other ≠ .absent) :
    (hub.disconnect client).handler other ≠ .absent := by
  by_cases hSame : other = client
  · rw [hSame, handler_disconnect_self hOpen]
    nofun
  · rw [handler_disconnect_of_ne hOpen hSame]
    exact hKnown

/- A client is removed behind the place of a broadcast. -/
theorem Broadcast.Sound.disconnect
    {state : Broadcast}
    (hState : state.Sound hub)
    (hNodup : hub.clients.Nodup)
    (hStays : hub.leaving client = false)
    (hClear : state.cursor.Clear hub.clients client) :
    state.Sound (hub.disconnect client) := by
  have hClients :
      (hub.disconnect client).clients =
        hub.clients.erase client := by
    rw [disconnect_of_connected hOpen]
  refine ⟨?_, ?_, ?_, hState.present, hState.count, ?_⟩
  · rw [hClients]
    apply (hState.tracks.erase hNodup hClear).mono
    rintro other ⟨hStart, hOther⟩
    exact ⟨hStart, (leaving_of_disconnect hOpen hOther).2⟩
  · intro other hVisited
    exact
      handler_disconnect_of_known hOpen
        (hState.known other hVisited)
  · intro other hStart
    exact
      handler_disconnect_of_known hOpen
        (hState.knownStart other hStart)
  · intro other hDead
    rcases hState.listed other hDead with
      ⟨hListed, hLeft⟩
    have hNe : other ≠ client := by
      intro hSame
      rw [hSame, hStays] at hLeft
      cases hLeft
    rw [hClients]
    exact
      ⟨(List.mem_erase_of_ne hNe).mpr hListed,
        leaving_disconnect hOpen hLeft⟩

end Disconnections

/- A handler that leaves first, and is clear of all. -/
theorem Hub.Sound.disconnect
    {hub : Hub}
    (hSound : hub.Sound)
    {client : Nat}
    (hUndisturbed : Undisturbed hub (.disconnect client)) :
    (hub.disconnect client).Sound := by
  by_cases hOpen : hub.handler client = .connected
  · rcases hUndisturbed hOpen with ⟨hStays, hClear⟩
    have hMem : client ∈ hub.clients :=
      hSound.listed client hOpen hStays
    have hDisconnect := disconnect_of_connected hOpen
    have hClients :
        (hub.disconnect client).clients =
          hub.clients.erase client := by
      rw [hDisconnect]
    refine ⟨?_, ?_, ?_, ?_, ?_, ?_, ?_, ?_⟩
    · rw [hClients]
      exact hSound.nodup.erase client
    · intro other hHandler hOther
      rcases leaving_of_disconnect hOpen hOther with
        ⟨hNe, hOld⟩
      rw [handler_disconnect_of_ne hOpen hNe] at hHandler
      rw [hClients]
      exact
        (List.mem_erase_of_ne hNe).mpr
          (hSound.listed other hHandler hOld)
    · intro other hOther
      rw [hClients] at hOther
      rcases (List.Nodup.mem_erase_iff hSound.nodup).mp
          hOther with
        ⟨hNe, hOld⟩
      rw [handler_disconnect_of_ne hOpen hNe]
      exact hSound.opened other hOld
    · intro other hHandler
      by_cases hSame : other = client
      · rw [hSame, hDisconnect]
        exact Function.update_self ..
      · rw [handler_disconnect_of_ne hOpen hSame]
          at hHandler
        exact
          leaving_disconnect hOpen
            (hSound.closed other hHandler)
    · intro broadcast state hRunning
      rw [hDisconnect] at hRunning
      exact
        (hSound.running broadcast state
          hRunning).disconnect hOpen hSound.nodup hStays
            (hClear broadcast state nofun hRunning)
    · rw [hDisconnect]
      exact hSound.disjoint
    · rw [hDisconnect]
      refine ⟨hSound.safe.1, ?_⟩
      change
        (if client ∈ hub.clients then hub.failedHandlers
          else hub.failedHandlers ++ [client]) = []
      rw [if_pos hMem]
      exact hSound.safe.2
    · rw [hDisconnect]
      exact hSound.delivered
  · have hDisconnect : hub.disconnect client = hub :=
      if_neg hOpen
    rw [hDisconnect]
    exact hSound

/-
  The dead of two broadcasts, after one was filled in whose
  dead are those of no other.
-/
theorem Hub.Sound.disjoint_filled
    {hub : Hub}
    (hSound : hub.Sound)
    {broadcast : Nat}
    {filled : Broadcast}
    (hNew :
      ∀ other second client,
        other ≠ broadcast →
        hub.running other = some second →
        client ∈ filled.dead →
          client ∉ second.dead)
    (left right : Nat)
    (one two : Broadcast)
    (client : Nat)
    (hNe : left ≠ right)
    (hLeft :
      Function.update hub.running broadcast (some filled)
        left = some one)
    (hRight :
      Function.update hub.running broadcast (some filled)
        right = some two)
    (hDead : client ∈ one.dead) :
    client ∉ two.dead := by
  rcases of_update_some hLeft with
    ⟨rfl, rfl⟩ | ⟨hOne, hLeftOld⟩
  · rcases of_update_some hRight with
      ⟨rfl, _⟩ | ⟨hTwo, hRightOld⟩
    · exact absurd rfl hNe
    · exact hNew right two client hTwo hRightOld hDead
  · rcases of_update_some hRight with
      ⟨rfl, rfl⟩ | ⟨_, hRightOld⟩
    · intro hSecond
      exact hNew left one client hOne hLeftOld hSecond hDead
    · exact
        hSound.disjoint left right one two client hNe
          hLeftOld hRightOld hDead

/- A broadcast that starts sends to the first client. -/
theorem Broadcast.Sound.start
    {hub : Hub}
    (hSound : hub.Sound)
    {first : Nat}
    {rest : List Nat}
    (hClients : hub.clients = first :: rest) :
    ({ cursor := Cursor.start first
       current := first
       dead := []
       received := []
       atStart := first :: rest } : Broadcast).Sound
      hub := by
  have hKnown :
      ∀ client ∈ first :: rest,
        hub.handler client ≠ .absent := by
    intro client hMem
    rw [← hClients] at hMem
    rw [hSound.opened client hMem]
    nofun
  refine
    ⟨?_, ?_, hKnown, List.mem_singleton.mpr rfl, ?_, nofun⟩
  · rw [hClients]
    exact Cursor.Tracks.start first rest _
  · intro client hVisited
    rw [List.mem_singleton.mp hVisited]
    exact hKnown first List.mem_cons_self
  · intro client
    change
      [first].count client = 0 + 0 + [first].count client
    omega

/- A broadcast starts at the first client. -/
theorem Hub.Sound.start
    {hub : Hub}
    (hSound : hub.Sound)
    (broadcast : Nat) :
    (hub.start broadcast).Sound := by
  cases hRunning : hub.running broadcast with
  | some state =>
      have hStart : hub.start broadcast = hub := by
        simp only [Hub.start, hRunning]
      rw [hStart]
      exact hSound
  | none =>
      cases hClients : hub.clients with
      | nil =>
          have hStart :
              hub.start broadcast =
                { hub with
                  finished :=
                    hub.finished ++ [⟨[], []⟩] } := by
            simp only [Hub.start, hRunning, hClients]
          rw [hStart]
          refine
            ⟨hSound.nodup, hSound.listed, hSound.opened,
              hSound.closed,
              fun other state hOther =>
                (hSound.running other state hOther).frame
                  rfl rfl rfl,
              hSound.disjoint, hSound.safe, ?_⟩
          intro delivery hDelivery client hClient
          rcases List.mem_append.mp hDelivery with
            hOld | hLast
          · exact
              hSound.delivered delivery hOld client hClient
          · rw [List.mem_singleton.mp hLast] at hClient
            cases hClient
      | cons first rest =>
          have hStart :
              hub.start broadcast =
                { hub with
                  running :=
                    Function.update hub.running broadcast
                      (some
                        { cursor := Cursor.start first
                          current := first
                          dead := []
                          received := []
                          atStart := first :: rest }) } := by
            simp only [Hub.start, hRunning, hClients]
          rw [hStart]
          refine
            ⟨hSound.nodup, hSound.listed, hSound.opened,
              hSound.closed, ?_, ?_, hSound.safe,
              hSound.delivered⟩
          · intro other state hOther
            rcases of_update_some hOther with
              ⟨rfl, rfl⟩ | ⟨_, hOld⟩
            · exact
                (Broadcast.Sound.start hSound
                  hClients).frame rfl rfl rfl
            · exact
                (hSound.running other state hOld).frame
                  rfl rfl rfl
          · apply hSound.disjoint_filled
            intro other second client _ _ hDead
            cases hDead

/- The hub with the outcome of a send noted. -/
def Hub.noted
    (hub : Hub)
    (client : Nat)
    (ok : Bool) :
    Hub :=
  { hub with leaving := hub.leavingAfter client ok }

section Sends

variable {hub : Hub}
variable {state : Broadcast}
variable {ok : Bool}

theorem leavingAfter_of_leaving
    {client other : Nat}
    (hLeaving : hub.leaving other = true) :
    hub.leavingAfter client ok other = true := by
  unfold Hub.leavingAfter
  cases ok with
  | true => exact hLeaving
  | false =>
      by_cases hSame : other = client
      · rw [hSame]
        exact Function.update_self ..
      · exact
          (Function.update_of_ne hSame _ _).trans hLeaving

theorem leaving_of_leavingAfter
    {client other : Nat}
    (hStays : hub.leavingAfter client ok other = false) :
    hub.leaving other = false := by
  cases hLeaving : hub.leaving other with
  | false => rfl
  | true =>
      rw [leavingAfter_of_leaving hLeaving] at hStays
      cases hStays

/- A noted broadcast keeps its place and its start. -/
theorem noted_frame
    (state : Broadcast)
    (ok : Bool) :
    (state.noted ok).cursor = state.cursor ∧
      (state.noted ok).atStart = state.atStart := by
  unfold Broadcast.noted
  cases ok with
  | true => exact ⟨rfl, rfl⟩
  | false => exact ⟨rfl, rfl⟩

/- Every client that was visited is noted once. -/
theorem count_noted
    (hState : state.Sound hub)
    (ok : Bool)
    (client : Nat) :
    state.cursor.visited.count client =
      (state.noted ok).received.count client +
        (state.noted ok).dead.count client := by
  have hCount := hState.count client
  unfold Broadcast.noted
  cases ok with
  | true =>
      simp only [if_true, List.count_append]
      omega
  | false =>
      simp only [Bool.false_eq_true, if_false,
        List.count_append]
      omega

/- The dead clients of a noted broadcast are distinct. -/
theorem nodup_noted_dead
    (hState : state.Sound hub) :
    (state.noted ok).dead.Nodup := by
  rw [List.nodup_iff_count_le_one]
  intro client
  have hOnce :=
    List.nodup_iff_count_le_one.mp
      hState.tracks.nodup client
  have hCount :=
    count_noted hState ok client
  omega

/- They were dead before, or their send has just failed. -/
theorem mem_noted_dead
    {client : Nat}
    (hDead : client ∈ (state.noted ok).dead) :
    client ∈ state.dead ∨
      ok = false ∧ client = state.current := by
  unfold Broadcast.noted at hDead
  cases ok with
  | true => exact Or.inl hDead
  | false =>
      rcases List.mem_append.mp hDead with hOld | hLast
      · exact Or.inl hOld
      · exact Or.inr ⟨rfl, List.mem_singleton.mp hLast⟩

/- They are in the list, and left. -/
theorem listed_noted_dead
    (hSound : hub.Sound)
    (hState : state.Sound hub)
    (hFirst :
      ok = false → hub.leaving state.current = false)
    {client : Nat}
    (hDead : client ∈ (state.noted ok).dead) :
    client ∈ hub.clients ∧
      hub.leavingAfter state.current ok client = true := by
  rcases mem_noted_dead hDead with hOld | ⟨rfl, rfl⟩
  · rcases hState.listed client hOld with ⟨hMem, hLeaving⟩
    exact ⟨hMem, leavingAfter_of_leaving hLeaving⟩
  · have hKnown := hState.known state.current hState.present
    exact
      ⟨hSound.mem_clients hKnown (hFirst rfl),
        Function.update_self ..⟩

/- No other broadcast has them among its dead. -/
theorem disjoint_noted_dead
    (hSound : hub.Sound)
    {broadcast other : Nat}
    {second : Broadcast}
    (hRunning : hub.running broadcast = some state)
    (hOther : hub.running other = some second)
    (hNe : broadcast ≠ other)
    (hFirst :
      ok = false → hub.leaving state.current = false)
    {client : Nat}
    (hDead : client ∈ (state.noted ok).dead) :
    client ∉ second.dead := by
  rcases mem_noted_dead hDead with hOld | ⟨rfl, rfl⟩
  · exact
      hSound.disjoint broadcast other state second client
        hNe hRunning hOther hOld
  · intro hSecond
    have hLeaving :=
      ((hSound.running other second hOther).listed
        state.current hSecond).2
    rw [hFirst rfl] at hLeaving
    cases hLeaving

/- A failed send only changes whom a broadcast owes. -/
theorem Broadcast.Sound.noted
    (hState : state.Sound hub)
    (client : Nat)
    (ok : Bool) :
    state.Sound (hub.noted client ok) where
  tracks := by
    apply hState.tracks.mono
    rintro other ⟨hStart, hStays⟩
    exact ⟨hStart, leaving_of_leavingAfter hStays⟩
  known := hState.known
  knownStart := hState.knownStart
  present := hState.present
  count := hState.count
  listed := by
    intro other hDead
    rcases hState.listed other hDead with
      ⟨hMem, hLeaving⟩
    exact ⟨hMem, leavingAfter_of_leaving hLeaving⟩

/- The present send is noted, and the next one begins. -/
theorem Broadcast.Sound.advance
    (hSound : hub.Sound)
    (hState : state.Sound hub)
    {next : Nat}
    (hNext :
      hub.clients[state.cursor.position + 1]? = some next)
    (hFirst :
      ok = false → hub.leaving state.current = false) :
    ({ state.noted ok with
       cursor := (state.noted ok).cursor.advance next
       current := next } : Broadcast).Sound
      (hub.noted state.current ok) := by
  rcases noted_frame state ok with ⟨hCursor, hStart⟩
  refine ⟨?_, ?_, ?_, ?_, ?_, ?_⟩
  · have hTracks :=
      (hState.noted state.current ok).tracks.advance
        hSound.nodup hNext
    rw [← hCursor] at hTracks
    apply hTracks.mono
    rintro client ⟨hMember, hStays⟩
    change client ∈ (state.noted ok).atStart at hMember
    rw [hStart] at hMember
    exact ⟨hMember, hStays⟩
  · intro client hVisited
    change
      client ∈ (state.noted ok).cursor.visited ++ [next]
      at hVisited
    rw [hCursor] at hVisited
    change hub.handler client ≠ .absent
    rcases List.mem_append.mp hVisited with hOld | hLast
    · exact hState.known client hOld
    · have hMem : next ∈ hub.clients :=
        List.mem_of_getElem? hNext
      rw [List.mem_singleton.mp hLast,
        hSound.opened next hMem]
      nofun
  · intro client hMember
    change client ∈ (state.noted ok).atStart at hMember
    rw [hStart] at hMember
    exact hState.knownStart client hMember
  · exact
      List.mem_append_right _ (List.mem_singleton.mpr rfl)
  · intro client
    have hCount := count_noted hState ok client
    change
      ((state.noted ok).cursor.visited ++
          [next]).count client =
        (state.noted ok).received.count client +
          (state.noted ok).dead.count client +
          [next].count client
    rw [hCursor, List.count_append, hCount]
  · intro client hDead
    exact listed_noted_dead hSound hState hFirst hDead

/- From one client to the next. -/
theorem Hub.Sound.sentNext
    (hSound : hub.Sound)
    {broadcast next : Nat}
    (hRunning : hub.running broadcast = some state)
    (hNext :
      hub.clients[state.cursor.position + 1]? = some next)
    (hFirst :
      ok = false → hub.leaving state.current = false) :
    (hub.sent broadcast ok).Sound := by
  have hState := hSound.running broadcast state hRunning
  have hSent :
      hub.sent broadcast ok =
        { hub.noted state.current ok with
          running :=
            Function.update hub.running broadcast
              (some
                { state.noted ok with
                  cursor :=
                    (state.noted ok).cursor.advance next
                  current := next }) } := by
    simp only [Hub.sent, hRunning, hNext, Hub.noted]
  rw [hSent]
  refine
    ⟨hSound.nodup, ?_, hSound.opened, ?_, ?_, ?_,
      hSound.safe, hSound.delivered⟩
  · intro client hHandler hStays
    exact
      hSound.listed client hHandler
        (leaving_of_leavingAfter hStays)
  · intro client hHandler
    exact
      leavingAfter_of_leaving
        (hSound.closed client hHandler)
  · intro other second hOther
    rcases of_update_some hOther with
      ⟨rfl, rfl⟩ | ⟨_, hOld⟩
    · exact
        (Broadcast.Sound.advance hSound hState hNext
          hFirst).frame rfl rfl rfl
    · exact
        ((hSound.running other second hOld).noted
          state.current ok).frame rfl rfl rfl
  · apply hSound.disjoint_filled
    intro other second client hNe hOther hDead
    exact
      disjoint_noted_dead hSound hRunning hOther
        hNe.symm hFirst hDead

/- Behind the last client, who was well got one message. -/
theorem received_of_healthy
    (hSound : hub.Sound)
    (hState : state.Sound hub)
    (hNone :
      hub.clients[state.cursor.position + 1]? = none)
    (hFirst :
      ok = false → hub.leaving state.current = false)
    {client : Nat}
    (hMember : client ∈ state.atStart)
    (hStays :
      hub.leavingAfter state.current ok client = false) :
    (state.noted ok).received.count client = 1 := by
  have hOld := leaving_of_leavingAfter hStays
  have hIn :=
    hSound.mem_clients
      (hState.knownStart client hMember) hOld
  have hEnd :
      hub.clients.length ≤ state.cursor.position + 1 :=
    List.getElem?_eq_none_iff.mp hNone
  have hOnce :=
    hState.tracks.count_eq_one hEnd hIn ⟨hMember, hOld⟩
  have hCount := count_noted hState ok client
  have hAlive :
      (state.noted ok).dead.count client = 0 := by
    apply List.count_eq_zero_of_not_mem
    intro hDead
    have hLeaving :=
      (listed_noted_dead hSound hState hFirst hDead).2
    rw [hStays] at hLeaving
    cases hLeaving
  omega

/- A broadcast that has none of them does not lose track. -/
theorem Broadcast.Sound.diff
    (hState : state.Sound hub)
    (hNodup : hub.clients.Nodup)
    {dead : List Nat}
    (hTracks :
      state.cursor.Tracks (hub.clients.diff dead)
        (hub.Owed state))
    (hApart : ∀ client ∈ dead, client ∉ state.dead) :
    state.Sound
      { hub with clients := hub.clients.diff dead } where
  tracks := hTracks
  known := hState.known
  knownStart := hState.knownStart
  present := hState.present
  count := hState.count
  listed := by
    intro client hDead
    rcases hState.listed client hDead with
      ⟨hListed, hLeaving⟩
    refine ⟨hNodup.mem_sdiff_iff.mpr ⟨hListed, ?_⟩, hLeaving⟩
    intro hOwn
    exact hApart client hOwn hDead

/- What the last send of a broadcast leaves. -/
theorem Hub.sent_last
    {broadcast : Nat}
    (hRunning : hub.running broadcast = some state)
    (hNone :
      hub.clients[state.cursor.position + 1]? = none)
    {clients : List Nat}
    (hRemove :
      removeDead hub.clients (state.noted ok).dead =
        (clients, true)) :
    hub.sent broadcast ok =
      { hub.noted state.current ok with
        clients := clients
        running := Function.update hub.running broadcast none
        finished :=
          hub.finished ++
            [{ healthy :=
                 (state.noted ok).atStart.filter
                   fun client =>
                     hub.leavingAfter state.current ok
                       client = false
               received :=
                 (state.noted ok).received }] } := by
  simp only [Hub.sent, hRunning, hNone, Hub.finish,
    hRemove, Hub.noted]

/- The last send, and the removal of the dead clients. -/
theorem Hub.Sound.sentLast
    (hSound : hub.Sound)
    {broadcast : Nat}
    (hRunning : hub.running broadcast = some state)
    (hNone :
      hub.clients[state.cursor.position + 1]? = none)
    (hFirst :
      ok = false → hub.leaving state.current = false)
    (hClear :
      AllClearOfOthers hub broadcast hub.clients
        (state.noted ok).dead) :
    (hub.sent broadcast ok).Sound := by
  have hState := hSound.running broadcast state hRunning
  have hListed :
      ∀ client ∈ (state.noted ok).dead,
        client ∈ hub.clients ∧
          hub.leavingAfter state.current ok client =
            true :=
    fun client hDead =>
      listed_noted_dead hSound hState hFirst hDead
  have hRemove :
      removeDead hub.clients (state.noted ok).dead =
        (hub.clients.diff (state.noted ok).dead, true) :=
    removeDead_of_listed (nodup_noted_dead hState)
      fun client hDead => (hListed client hDead).1
  have hMem :
      ∀ client,
        client ∈ hub.clients.diff (state.noted ok).dead ↔
          client ∈ hub.clients ∧
            client ∉ (state.noted ok).dead :=
    fun client => hSound.nodup.mem_sdiff_iff
  rw [Hub.sent_last hRunning hNone hRemove]
  refine
    ⟨hSound.nodup.diff, ?_, ?_, ?_, ?_, ?_, hSound.safe,
      ?_⟩
  · intro client hHandler hStays
    refine (hMem client).mpr ⟨?_, ?_⟩
    · exact
        hSound.listed client hHandler
          (leaving_of_leavingAfter hStays)
    · intro hDead
      have hLeaving := (hListed client hDead).2
      change
        hub.leavingAfter state.current ok client = false
        at hStays
      rw [hStays] at hLeaving
      cases hLeaving
  · intro client hClient
    exact hSound.opened client ((hMem client).mp hClient).1
  · intro client hHandler
    exact
      leavingAfter_of_leaving
        (hSound.closed client hHandler)
  · intro other second hOther
    rcases of_update_none hOther with ⟨hNe, hOld⟩
    have hSecond :=
      (hSound.running other second hOld).noted
        state.current ok
    have hTracks :=
      tracks_diff
        (fun hSame => hNe (Option.some.inj hSame))
        hOld hSound.nodup hClear hSecond.tracks
    refine
      (hSecond.diff hSound.nodup hTracks ?_).frame
        rfl rfl rfl
    intro client hOwn
    exact
      disjoint_noted_dead hSound hRunning hOld
        hNe.symm hFirst hOwn
  · intro left right one two client hNe hLeft hRight
    exact
      hSound.disjoint left right one two client hNe
        (of_update_none hLeft).2 (of_update_none hRight).2
  · intro delivery hDelivery client hClient
    rcases List.mem_append.mp hDelivery with hOld | hLast
    · exact hSound.delivered delivery hOld client hClient
    · rw [List.mem_singleton.mp hLast] at hClient ⊢
      rcases List.mem_filter.mp hClient with
        ⟨hMember, hStays⟩
      rw [(noted_frame state ok).2] at hMember
      exact
        received_of_healthy hSound hState hNone hFirst
          hMember (of_decide_eq_true hStays)

end Sends

theorem Hub.Sound.hubStep
    {hub : Hub}
    (hSound : hub.Sound)
    {op : HubOp}
    (hUndisturbed : Undisturbed hub op) :
    (hubStep hub op).Sound := by
  cases op with
  | connect client => exact hSound.connect client
  | disconnect client =>
      exact hSound.disconnect hUndisturbed
  | start broadcast => exact hSound.start broadcast
  | sent broadcast ok =>
      cases hRunning : hub.running broadcast with
      | none =>
          have hSent : hub.sent broadcast ok = hub := by
            simp only [Hub.sent, hRunning]
          change (hub.sent broadcast ok).Sound
          rw [hSent]
          exact hSound
      | some state =>
          rcases hUndisturbed state hRunning with
            ⟨hFirst, hClear⟩
          cases hNext :
              hub.clients[state.cursor.position + 1]? with
          | some next =>
              exact hSound.sentNext hRunning hNext hFirst
          | none =>
              exact
                hSound.sentLast hRunning hNext hFirst
                  (hClear hNext)

/-
  In an undisturbed interleaving of connections,
  disconnections, broadcasts and failing sends, no
  coroutine ends with an exception of the list, and each
  client that is well all along a broadcast gets it once.
-/
theorem broadcast_safe_of_undisturbed
    (ops : List HubOp)
    (hUndisturbed :
      Along hubStep Undisturbed .initial ops) :
    (run hubStep .initial ops).Safe ∧
      (run hubStep .initial ops).Delivered := by
  have hSound : (run hubStep .initial ops).Sound := by
    refine
      run_invariant_along ?_ Hub.Sound.initial hUndisturbed
    intro hub op hHub hStep
    exact hHub.hubStep hStep
  exact ⟨hSound.safe, hSound.delivered⟩

/- A broadcast to two clients, one of which is dead. -/
def oneDeadOps : List HubOp :=
  [.connect 1, .connect 2, .start 7, .sent 7 true,
    .sent 7 false]

/- The first client got it, and the second is removed. -/
theorem broadcast_safe_one_dead :
    (run hubStep .initial oneDeadOps).Safe ∧
      (run hubStep .initial oneDeadOps).Delivered :=
  broadcast_safe_of_undisturbed oneDeadOps
    (by
      refine
        ⟨trivial, trivial, trivial, ?_, ?_, trivial⟩
      · intro state hRunning
        cases hRunning
        exact ⟨nofun, nofun⟩
      · intro state hRunning
        cases hRunning
        refine ⟨fun _ => rfl, fun _ => ⟨?_, trivial⟩⟩
        intro other second hNe hOther
        have hNotSeven : other ≠ 7 := by
          intro hSame
          rw [hSame] at hNe
          exact hNe rfl
        change
          Function.update
              (Function.update (fun _ => none) 7 _) 7 _
              other =
            some second at hOther
        rw [Function.update_of_ne hNotSeven,
          Function.update_of_ne hNotSeven] at hOther
        cases hOther)

/- The first client leaves while it is being sent to. -/
def skippedClientOps : List HubOp :=
  [.connect 1, .connect 2, .connect 3, .start 7,
    .disconnect 1, .sent 7 true, .sent 7 true]

/- A send fails, and then the handler leaves. -/
def removedTwiceOps : List HubOp :=
  [.connect 1, .start 7, .sent 7 false, .disconnect 1]

/- The sends of two broadcasts fail. -/
def deadTwiceOps : List HubOp :=
  [.connect 1, .start 7, .start 8, .sent 7 false,
    .sent 8 false]

/-
  The second client, well all along, is skipped; a handler
  ends with a `ValueError`, and so does a broadcast.
-/
theorem broadcast_disturbed :
    ¬ (run hubStep .initial
        skippedClientOps).Delivered ∧
      (run hubStep .initial skippedClientOps).finished =
        [⟨[2, 3], [1, 3]⟩] ∧
      ¬ (run hubStep .initial removedTwiceOps).Safe ∧
      ¬ (run hubStep .initial deadTwiceOps).Safe := by
  have hFinished :
      (run hubStep .initial skippedClientOps).finished =
        [⟨[2, 3], [1, 3]⟩] := by
    decide +kernel
  have hHandler :
      (run hubStep .initial
        removedTwiceOps).failedHandlers = [1] := by
    decide +kernel
  have hBroadcast :
      (run hubStep .initial
        deadTwiceOps).failedBroadcasts = [8] := by
    decide +kernel
  refine ⟨?_, hFinished, ?_, ?_⟩
  · intro hDelivered
    have hOnce :=
      hDelivered ⟨[2, 3], [1, 3]⟩
        (by rw [hFinished]; exact List.mem_cons_self) 2
        List.mem_cons_self
    cases hOnce
  · intro hSafe
    have hNone := hSafe.2
    rw [hHandler] at hNone
    cases hNone
  · intro hSafe
    have hNone := hSafe.1
    rw [hBroadcast] at hNone
    cases hNone

end FastapiApp

end Icmp2
