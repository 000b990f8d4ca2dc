import Icmp2.Alerts.Lifecycle
import Mathlib.Logic.Relation

/-
  What a sweep for missing devices leaves behind.

  Main definitions include:
    * `Icmp2.Alerts.Concerns`
    * `Icmp2.Alerts.missingSweep`
    * `Icmp2.Alerts.Elsewhere`
    * `Icmp2.Alerts.Swept`

  Main theorems include:
    * `Icmp2.Alerts.sameOn_reuseOpen`
    * `Icmp2.Alerts.openAsDue_missingSweep`
    * `Icmp2.Alerts.missing_sweep_reaches`

  A round for a rule and a device only touches the OPEN
  events of the two.  So what the sweep does to them is
  what their own two rounds do.
-/

------------------------------------------------------------
-- Frames
------------------------------------------------------------

namespace Icmp2

namespace Alerts

open Monitoring AiEngine Library

/- Events of a rule and a device, of any status. -/
def Concerns
    (rule : RuleKey)
    (device : Nat)
    (event : AlarmEvent) :
    Prop :=
  event.rule = rule ∧ event.device = some device

/- The same selected events in two stores. -/
def SameEvents
    (p : AlarmEvent → Prop)
    (before after : AlertStore) :
    Prop :=
  Table.SameOn p before.events after.events

theorem sameEvents_equivalence
    (p : AlarmEvent → Prop) :
    Equivalence (SameEvents p) :=
  Table.sameOn_equivalence.comap AlertStore.events

/- Reusing an event keeps what it neither finds nor writes. -/
theorem sameOn_reuseOpen
    {store : AlertStore}
    {p q : AlarmEvent → Prop}
    [DecidablePred q]
    (now : Instant)
    (verdict : Verdict)
    (hApart : ∀ event, p event → ¬ q event)
    (hWritten :
      ∀ event, q event →
        ¬ p (AlertStore.write now event verdict))
    (hFresh :
      ∀ refresh fresh,
        verdict = .raised refresh fresh → ¬ p fresh) :
    SameEvents p store (store.reuseOpen now q verdict) := by
  intro id event hEvent
  constructor
  · intro hGet
    exact
      AlertStore.get?_reuseOpen_of_not now verdict hGet
        (hApart event hEvent)
  · intro hGet
    have hFound : ∀ found,
        store.latest q = some (id, found) → q found :=
      fun found hLatest =>
        ((AlertStore.latest_eq_some_iff _).mp
          hLatest).selected
    rcases AlertStore.get?_reuseOpen_cases hGet with
      hSame | ⟨note, found, rfl, hLatest, rfl⟩ |
        ⟨refresh, fresh, found, rfl, hLatest, rfl⟩ |
        ⟨refresh, hVerdict, _, _⟩
    · exact hSame
    · exact
        absurd hEvent (hWritten found (hFound _ hLatest))
    · exact
        absurd hEvent (hWritten found (hFound _ hLatest))
    · exact absurd hEvent (hFresh refresh event hVerdict)

/- A verdict that writes about its own rule and device. -/
structure OwnVerdict
    (now : Instant)
    (rule : RuleKey)
    (device : Nat)
    (verdict : Verdict) :
    Prop where
  written :
    ∀ event, Concerns rule device event →
      Concerns rule device
        (AlertStore.write now event verdict)
  fresh :
    ∀ refresh fresh, verdict = .raised refresh fresh →
      Concerns rule device fresh

/- A round reuses an OPEN event of the two, or does nothing. -/
def OwnRound
    (now : Instant)
    (rule : RuleKey)
    (device : Nat)
    (before after : AlertStore) :
    Prop :=
  after = before ∨
    ∃ verdict,
      OwnVerdict now rule device verdict ∧
        after =
          before.reuseOpen now (OpenUnder rule device)
            verdict

section Rounds

variable {now : Instant}
variable {rule : RuleKey}
variable {device : Nat}
variable {before after : AlertStore}

/- It keeps all events of others. -/
theorem OwnRound.sameEvents
    (hRound : OwnRound now rule device before after)
    {p : AlarmEvent → Prop}
    (hApart :
      ∀ event, p event → ¬ Concerns rule device event) :
    SameEvents p before after := by
  rcases hRound with rfl | ⟨verdict, hOwn, rfl⟩
  · exact (sameEvents_equivalence p).refl after
  · apply sameOn_reuseOpen
    · intro event hEvent hOpen
      exact hApart event hEvent ⟨hOpen.1, hOpen.2.1⟩
    · intro event hOpen hEvent
      exact
        hApart _ hEvent
          (hOwn.written event ⟨hOpen.1, hOpen.2.1⟩)
    · intro refresh fresh hVerdict hEvent
      exact
        hApart fresh hEvent
          (hOwn.fresh refresh fresh hVerdict)

/- It keeps every event that is not OPEN. -/
theorem OwnRound.settled
    (hRound : OwnRound now rule device before after)
    {id : Nat}
    {event : AlarmEvent}
    (hStatus : event.eventStatus ≠ .«open»)
    (hGet : before.events.get? id = some event) :
    after.events.get? id = some event := by
  rcases hRound with rfl | ⟨verdict, _, rfl⟩
  · exact hGet
  · apply AlertStore.get?_reuseOpen_of_not now _ hGet
    exact fun hOpen => hStatus hOpen.2.2

end Rounds

variable (now : Instant)
variable (rule : RuleOf .missing)
variable (seconds : Nat)
variable (store : AlertStore)
variable (device : WatchedDevice)

theorem ownRound_missingRound :
    OwnRound now rule.1 device.id store
      (missingRound now rule seconds store device) := by
  unfold missingRound
  split
  · split_ifs with hSilent
    · refine Or.inr ⟨_, ⟨?_, ?_⟩, rfl⟩
      · exact fun event hOwn => hOwn
      · intro refresh fresh hVerdict
        cases hVerdict
        exact ⟨rfl, rfl⟩
    · exact Or.inl rfl
  · exact Or.inl rfl

theorem ownRound_recoveredRound :
    OwnRound now rule.1 device.id store
      (recoveredRound now rule seconds store device) := by
  unfold recoveredRound
  split
  · split_ifs with hHeard
    · refine Or.inr ⟨_, ⟨?_, ?_⟩, rfl⟩
      · exact fun event hOwn => hOwn
      · intro refresh fresh hVerdict
        cases hVerdict
    · exact Or.inl rfl
  · exact Or.inl rfl

/- A device without a facility or data gets no round. -/
theorem missingRound_of_unwatched
    (hNot :
      ¬ (device.facility.isSome = true ∧
        device.lastSeenAt.isSome = true)) :
    missingRound now rule seconds store device = store := by
  unfold missingRound
  split
  · rename_i hFacility hSeen
    exact absurd ⟨by simp [hFacility], by simp [hSeen]⟩ hNot
  · rfl

theorem recoveredRound_of_unwatched
    (hNot :
      ¬ (device.facility.isSome = true ∧
        device.lastSeenAt.isSome = true)) :
    recoveredRound now rule seconds store device =
      store := by
  unfold recoveredRound
  split
  · rename_i hFacility hSeen
    exact absurd ⟨by simp [hFacility], by simp [hSeen]⟩ hNot
  · rfl

end Alerts

end Icmp2

------------------------------------------------------------
-- The Rounds of a Rule and a Device
------------------------------------------------------------

namespace Icmp2

namespace Alerts

open Monitoring AiEngine Library

section Pair

variable {now seen : Instant}
variable {rule : RuleOf .missing}
variable {seconds facility : Nat}
variable {store : AlertStore}
variable {device : WatchedDevice}
variable (hFacility : device.facility = some facility)
variable (hSeen : device.lastSeenAt = some seen)
variable
  (hOne :
    store.events.AtMostOne (OpenUnder rule.1 device.id))
include hFacility hSeen

theorem missingRound_of_heard
    (hHeard : ¬ seen < missingCutoff now seconds) :
    missingRound now rule seconds store device = store := by
  simp [missingRound, hFacility, hSeen, hHeard]

theorem recoveredRound_of_silent
    (hSilent : seen < missingCutoff now seconds) :
    recoveredRound now rule seconds store device =
      store := by
  simp [recoveredRound, hFacility, hSeen,
    not_le.mpr hSilent]

include hOne

/- The first round of a silent device opens one event. -/
theorem ids_missingRound_of_silent
    (hSilent : seen < missingCutoff now seconds) :
    ∃ id,
      (missingRound now rule seconds store
          device).events.ids (OpenUnder rule.1 device.id) =
        [id] := by
  simp only [missingRound, hFacility, hSeen, if_pos hSilent]
  cases hLatest :
      store.latest (OpenUnder rule.1 device.id) with
  | none =>
      have hNone := AlertStore.latest_eq_none_iff.mp hLatest
      rw [missingVerdict,
        AlertStore.reuseOpen_raised_of_none _ _ _ hLatest]
      refine ⟨store.events.nextId, ?_⟩
      apply Table.ids_eq_singleton
      · exact Table.atMostOne_insert_of_none hNone _
      · exact Table.get?_insert_nextId _ _
      · exact ⟨rfl, rfl, rfl⟩
  | some best =>
      have hNewest :=
        (AlertStore.latest_eq_some_iff best).mp hLatest
      refine ⟨best.1, ?_⟩
      apply Table.ids_eq_singleton
      · apply Table.Within.atMostOne _ hOne
        intro id event hGet hOpen
        rcases AlertStore.get?_reuseOpen_cases hGet with
          hSame | ⟨note, found, hVerdict, _, _⟩ |
            ⟨refresh, fresh, found, _, hFound, _⟩ |
            ⟨refresh, _, hNone, _⟩
        · exact ⟨event, hSame, hOpen⟩
        · cases hVerdict
        · have hOld :=
            (AlertStore.latest_eq_some_iff _).mp hFound
          exact ⟨found, hOld.get, hOld.selected⟩
        · rw [hLatest] at hNone
          cases hNone
      · exact
          AlertStore.get?_reuseOpen_newest now _ hNewest
      · exact hNewest.selected

/- The second round of a device that is heard closes it. -/
theorem ids_recoveredRound_of_heard
    (hHeard : ¬ seen < missingCutoff now seconds) :
    (recoveredRound now rule seconds store
        device).events.ids (OpenUnder rule.1 device.id) =
      [] := by
  simp only [recoveredRound, hFacility, hSeen, ge_iff_le,
    if_pos (not_lt.mp hHeard)]
  apply Table.ids_eq_nil_iff.mpr
  intro id event hGet hOpen
  rcases AlertStore.get?_reuseOpen_cases hGet with
    hSame | ⟨note, found, _, _, rfl⟩ |
      ⟨refresh, fresh, found, hVerdict, _, _⟩ |
      ⟨refresh, hVerdict, _, _⟩
  · cases hLatest :
        store.latest (OpenUnder rule.1 device.id) with
    | none =>
        exact
          AlertStore.latest_eq_none_iff.mp hLatest id event
            hSame hOpen
    | some best =>
        have hNewest :=
          (AlertStore.latest_eq_some_iff best).mp hLatest
        obtain rfl : best.1 = id :=
          hOne best.1 id best.2 event hNewest.get hSame
            hNewest.selected hOpen
        have hClosed :=
          AlertStore.get?_reuseOpen_newest now
            (.recovered "데이터 수신 재개로 자동 종료") hNewest
        rw [hClosed] at hGet
        rw [← Option.some.inj hGet] at hOpen
        cases hOpen.2.2
  · cases hOpen.2.2
  · cases hVerdict
  · cases hVerdict

end Pair

end Alerts

end Icmp2

------------------------------------------------------------
-- The Sweep of a Rule
------------------------------------------------------------

namespace Icmp2

namespace Alerts

open Monitoring AiEngine Library

/- Both loops over the devices, for one rule. -/
def missingSweep
    (now : Instant)
    (devices : List WatchedDevice)
    (store : AlertStore)
    (rule : RuleOf .missing × Nat) :
    AlertStore :=
  run (recoveredRound now rule.1 rule.2)
    (run (missingRound now rule.1 rule.2) store devices)
    devices

theorem checkMissingDevices_eq_run
    (now : Instant)
    (missingTimeoutSeconds : Nat → Option Nat)
    (devices : List WatchedDevice)
    (store : AlertStore) :
    checkMissingDevices
        now missingTimeoutSeconds devices store =
      run (missingSweep now devices) store
        (missingRules missingTimeoutSeconds store.rules) := by
  rfl

variable {now : Instant}
variable {devices : List WatchedDevice}

/- A device that the queries of the sweep can return. -/
def WatchedDevice.Watched
    (device : WatchedDevice) :
    Prop :=
  device.facility.isSome = true ∧
    device.lastSeenAt.isSome = true

/- The sweep of a rule keeps all events of others. -/
theorem sameEvents_missingSweep
    (store : AlertStore)
    (rule : RuleOf .missing × Nat)
    {p : AlarmEvent → Prop}
    (hApart :
      ∀ device ∈ devices, device.Watched →
        ∀ event, p event →
          ¬ Concerns rule.1.1 device.id event) :
    SameEvents p store
      (missingSweep now devices store rule) := by
  have hEquivalence := sameEvents_equivalence p
  have hMissing : ∀ device ∈ devices, ∀ later,
      SameEvents p later
        (missingRound now rule.1 rule.2 later device) := by
    intro device hMem later
    by_cases hWatched : device.Watched
    · exact
        (ownRound_missingRound now rule.1 rule.2 later
          device).sameEvents (hApart device hMem hWatched)
    · rw [missingRound_of_unwatched _ _ _ _ _ hWatched]
      exact hEquivalence.refl later
  have hRecovered : ∀ device ∈ devices, ∀ later,
      SameEvents p later
        (recoveredRound now rule.1 rule.2 later
          device) := by
    intro device hMem later
    by_cases hWatched : device.Watched
    · exact
        (ownRound_recoveredRound now rule.1 rule.2 later
          device).sameEvents (hApart device hMem hWatched)
    · rw [recoveredRound_of_unwatched _ _ _ _ _ hWatched]
      exact hEquivalence.refl later
  exact
    hEquivalence.trans
      (run_related hEquivalence hMissing store)
      (run_related hEquivalence hRecovered _)

/- It keeps every event that is not OPEN. -/
theorem settled_missingSweep
    (rule : RuleOf .missing × Nat)
    {store : AlertStore}
    {id : Nat}
    {event : AlarmEvent}
    (hStatus : event.eventStatus ≠ .«open»)
    (hGet : store.events.get? id = some event) :
    (missingSweep now devices store rule).events.get? id =
      some event := by
  apply run_invariant
    (I := fun later : AlertStore =>
      later.events.get? id = some event)
  · intro later device hLater
    exact
      (ownRound_recoveredRound now rule.1 rule.2 later
        device).settled hStatus hLater
  · apply run_invariant
      (I := fun later : AlertStore =>
        later.events.get? id = some event)
    · intro later device hLater
      exact
        (ownRound_missingRound now rule.1 rule.2 later
          device).settled hStatus hLater
    · exact hGet

/- What is wanted of the OPEN events of a device. -/
def OpenAsDue
    (now : Instant)
    (rule : RuleOf .missing × Nat)
    (device : WatchedDevice)
    (seen : Instant)
    (store : AlertStore) :
    Prop :=
  if seen < missingCutoff now rule.2 then
    ∃ id,
      store.events.ids (OpenUnder rule.1.1 device.id) =
        [id]
  else
    store.events.ids (OpenUnder rule.1.1 device.id) = []

/-
  A pass of rounds over all devices comes to each of them,
  as far as its own OPEN events can tell.
-/
theorem visit_device
    {rule : RuleKey}
    {round : AlertStore → WatchedDevice → AlertStore}
    (hOwn :
      ∀ store device,
        OwnRound now rule device.id store
          (round store device))
    (hDevices :
      (devices.map fun device => device.id).Nodup)
    {device : WatchedDevice}
    (hMem : device ∈ devices)
    (store : AlertStore) :
    ∃ reached,
      SameEvents (OpenUnder rule device.id) store
          reached ∧
        SameEvents (OpenUnder rule device.id)
          (round reached device)
          (run round store devices) := by
  refine
    run_visit (sameEvents_equivalence _) hDevices.of_map
      hMem ?_ store
  intro other hOther hNe later
  apply (hOwn later other).sameEvents
  intro event hOpen hConcerns
  have hId := hOpen.2.1.symm.trans hConcerns.2
  exact
    hNe
      (List.inj_on_of_nodup_map hDevices hOther hMem
        (Option.some.inj hId).symm)

/- After the sweep of a rule a device has what is due. -/
theorem openAsDue_missingSweep
    {rule : RuleOf .missing × Nat}
    {device : WatchedDevice}
    {facility : Nat}
    {seen : Instant}
    {store : AlertStore}
    (hDevices :
      (devices.map fun device => device.id).Nodup)
    (hMem : device ∈ devices)
    (hFacility : device.facility = some facility)
    (hSeen : device.lastSeenAt = some seen)
    (hOne :
      store.events.AtMostOne
        (OpenUnder rule.1.1 device.id)) :
    OpenAsDue now rule device seen
      (missingSweep now devices store rule) := by
  rcases visit_device
      (ownRound_missingRound now rule.1 rule.2)
      hDevices hMem store with
    ⟨reached, hReached, hMiddle⟩
  rcases visit_device
      (ownRound_recoveredRound now rule.1 rule.2)
      hDevices hMem
      (run (missingRound now rule.1 rule.2) store devices)
    with ⟨again, hAgain, hFinal⟩
  have hReachedOne := hReached.within.atMostOne hOne
  unfold OpenAsDue missingSweep
  rw [hFinal.ids_eq]
  split_ifs with hSilent
  · rw [recoveredRound_of_silent hFacility hSeen hSilent,
      hAgain.ids_eq, hMiddle.ids_eq]
    exact
      ids_missingRound_of_silent hFacility hSeen
        hReachedOne hSilent
  · rw [missingRound_of_heard hFacility hSeen hSilent]
      at hMiddle
    have hBefore :=
      (sameEvents_equivalence _).trans hMiddle hAgain
    exact
      ids_recoveredRound_of_heard hFacility hSeen
        (hBefore.within.atMostOne hReachedOne) hSilent

end Alerts

end Icmp2

------------------------------------------------------------
-- The Whole Sweep
------------------------------------------------------------

namespace Icmp2

namespace Alerts

open Monitoring AiEngine Library

/- The keys of the swept rules are keys of the table. -/
theorem missingRules_ids_sublist
    (missingTimeoutSeconds : Nat → Option Nat)
    (rules : List AlarmRule) :
    ((missingRules missingTimeoutSeconds rules).map
        fun rule => rule.1.1.id).Sublist
      (rules.map fun rule => rule.id) := by
  induction rules with
  | nil => exact List.Sublist.slnil
  | cons rule rules ih =>
      rw [missingRules, List.filterMap_cons, List.map_cons]
      split
      · exact ih.cons _
      · rename_i swept hSwept
        have hId : swept.1.1.id = rule.id := by
          split_ifs at hSwept with hRule
          rcases Option.map_eq_some_iff.mp hSwept with
            ⟨seconds, _, rfl⟩
          rfl
        rw [List.map_cons, hId]
        exact ih.cons_cons _

/- No device and rule of the sweep meet in the event. -/
def Elsewhere
    (rules : List (RuleOf .missing × Nat))
    (devices : List WatchedDevice)
    (event : AlarmEvent) :
    Prop :=
  ∀ rule ∈ rules, ∀ device ∈ devices, device.Watched →
    ¬ Concerns rule.1.1 device.id event

/-
  What the sweep leaves: the due OPEN event of each rule
  and device, at most one of each, and all else as it was.
-/
structure Swept
    (now : Instant)
    (missingTimeoutSeconds : Nat → Option Nat)
    (devices : List WatchedDevice)
    (before after : AlertStore) :
    Prop where
  due :
    ∀ rule ∈
        missingRules missingTimeoutSeconds before.rules,
      ∀ device ∈ devices,
        ∀ facility seen,
          device.facility = some facility →
          device.lastSeenAt = some seen →
            OpenAsDue now rule device seen after
  atMostOne :
    ∀ rule device,
      after.events.AtMostOne (OpenUnder rule device)
  elsewhere :
    SameEvents
      (Elsewhere
        (missingRules missingTimeoutSeconds before.rules)
        devices)
      before after
  settled :
    ∀ id event,
      before.events.get? id = some event →
      event.eventStatus ≠ .«open» →
        after.events.get? id = some event

section Sweep

variable (now : Instant)
variable {devices : List WatchedDevice}
variable {rules : List (RuleOf .missing × Nat)}

/- The rules have their effects side by side. -/
theorem openAsDue_run
    {store : AlertStore}
    (hRules : (rules.map fun rule => rule.1.1.id).Nodup)
    (hDevices :
      (devices.map fun device => device.id).Nodup)
    {rule : RuleOf .missing × Nat}
    (hRule : rule ∈ rules)
    {device : WatchedDevice}
    (hDevice : device ∈ devices)
    {facility : Nat}
    {seen : Instant}
    (hFacility : device.facility = some facility)
    (hSeen : device.lastSeenAt = some seen)
    (hOne :
      store.events.AtMostOne
        (OpenUnder rule.1.1 device.id)) :
    OpenAsDue now rule device seen
      (run (missingSweep now devices) store rules) := by
  have hEquivalence :=
    sameEvents_equivalence (OpenUnder rule.1.1 device.id)
  have hOthers : ∀ other ∈ rules, other ≠ rule →
      ∀ later,
        SameEvents (OpenUnder rule.1.1 device.id) later
          (missingSweep now devices later other) := by
    intro other hOther hNe later
    apply sameEvents_missingSweep
    intro _ _ _ event hOpen hConcerns
    apply hNe
    apply List.inj_on_of_nodup_map hRules hOther hRule
    rw [← hConcerns.1, ← hOpen.1]
  rcases run_visit hEquivalence hRules.of_map hRule hOthers
      store with
    ⟨reached, hReached, hFinal⟩
  have hDue :
      OpenAsDue now rule device seen
        (missingSweep now devices reached rule) :=
    openAsDue_missingSweep hDevices hDevice hFacility hSeen
      (hReached.within.atMostOne hOne)
  unfold OpenAsDue at hDue ⊢
  rw [hFinal.ids_eq]
  exact hDue

theorem sameEvents_run
    (store : AlertStore)
    {p : AlarmEvent → Prop}
    (hApart :
      ∀ event, p event → Elsewhere rules devices event) :
    SameEvents p store
      (run (missingSweep now devices) store rules) := by
  apply run_related (sameEvents_equivalence p)
  intro rule hRule later
  apply sameEvents_missingSweep
  intro device hDevice hWatched event hEvent
  exact hApart event hEvent rule hRule device hDevice hWatched

/- What is due is at most one OPEN event. -/
theorem OpenAsDue.atMostOne
    {rule : RuleOf .missing × Nat}
    {device : WatchedDevice}
    {seen : Instant}
    {store : AlertStore}
    (hDue : OpenAsDue now rule device seen store) :
    store.events.AtMostOne
      (OpenUnder rule.1.1 device.id) := by
  apply Table.atMostOne_of_ids_length
  unfold OpenAsDue at hDue
  split_ifs at hDue with hSilent
  · rcases hDue with ⟨id, hIds⟩
    rw [hIds]
    exact Nat.le_refl 1
  · rw [hDue]
    exact Nat.zero_le 1

/- Swept or not, each rule and device keeps at most one. -/
theorem atMostOne_run
    {store : AlertStore}
    (hRules : (rules.map fun rule => rule.1.1.id).Nodup)
    (hDevices :
      (devices.map fun device => device.id).Nodup)
    (hOne :
      ∀ rule device,
        store.events.AtMostOne (OpenUnder rule device))
    (key : RuleKey)
    (deviceId : Nat) :
    (run (missingSweep now devices) store
        rules).events.AtMostOne
      (OpenUnder key deviceId) := by
  by_cases hPair :
      ∃ rule ∈ rules, ∃ device ∈ devices,
        device.Watched ∧ rule.1.1 = key ∧
          device.id = deviceId
  · rcases hPair with
      ⟨rule, hRule, device, hDevice, hWatched, rfl, rfl⟩
    rcases Option.isSome_iff_exists.mp hWatched.1 with
      ⟨facility, hFacility⟩
    rcases Option.isSome_iff_exists.mp hWatched.2 with
      ⟨seen, hSeen⟩
    have hDue :=
      openAsDue_run now hRules hDevices hRule hDevice
        hFacility hSeen (hOne rule.1.1 device.id)
    exact hDue.atMostOne now
  · have hSame :
        SameEvents (OpenUnder key deviceId) store
          (run (missingSweep now devices) store rules) := by
      apply sameEvents_run
      intro event hOpen rule hRule device hDevice
        hWatched hConcerns
      apply hPair
      refine
        ⟨rule, hRule, device, hDevice, hWatched,
          hConcerns.1.symm.trans hOpen.1, ?_⟩
      exact
        Option.some.inj
          (hConcerns.2.symm.trans hOpen.2.1)
    exact hSame.within.atMostOne (hOne key deviceId)

end Sweep

/-
  From at most one OPEN event of each rule and device, the
  sweep reaches the state that is due.
-/
theorem missing_sweep_reaches
    (now : Instant)
    (missingTimeoutSeconds : Nat → Option Nat)
    (devices : List WatchedDevice)
    (store : AlertStore)
    (hRules :
      (store.rules.map fun rule => rule.id).Nodup)
    (hDevices :
      (devices.map fun device => device.id).Nodup)
    (hOne :
      ∀ rule device,
        store.events.AtMostOne (OpenUnder rule device)) :
    Swept now missingTimeoutSeconds devices store
      (checkMissingDevices
        now missingTimeoutSeconds devices store) := by
  rw [checkMissingDevices_eq_run]
  have hKeys :=
    hRules.sublist
      (missingRules_ids_sublist missingTimeoutSeconds
        store.rules)
  generalize hSwept :
    missingRules missingTimeoutSeconds store.rules = rules
    at hKeys
  constructor
  · rw [hSwept]
    intro rule hRule device hDevice _ _ hFacility hSeen
    exact
      openAsDue_run now hKeys hDevices hRule hDevice
        hFacility hSeen (hOne rule.1.1 device.id)
  · exact atMostOne_run now hKeys hDevices hOne
  · rw [hSwept]
    exact sameEvents_run now store fun _ hEvent => hEvent
  · intro id event hGet hStatus
    exact
      run_invariant
        (I := fun later : AlertStore =>
          later.events.get? id = some event)
        (fun later rule hLater =>
          settled_missingSweep rule hStatus hLater)
        hGet rules

/- Two rules, of one minute and of ten minutes. -/
def timeoutOf : Nat → Option Nat
  | 4 => some 60
  | 5 => some 600
  | _ => none

def missingStore : AlertStore where
  rules := [⟨⟨4, .missing⟩, true⟩, ⟨⟨5, .missing⟩, true⟩]
  events := Table.empty
  histories := []
  notifications := []

/- A device that was heard five minutes ago. -/
def quietDevice : WatchedDevice where
  toDevice := powerDevice
  lastSeenAt := some 0

/- The rule of one minute opens its event. -/
theorem missing_sweep_reaches_quiet :
    Swept 300000000 timeoutOf [quietDevice] missingStore
        (checkMissingDevices
          300000000 timeoutOf [quietDevice] missingStore) ∧
      (checkMissingDevices 300000000 timeoutOf
            [quietDevice] missingStore).events.rows.map
          (fun event => (event.rule.id, event.title)) =
        [(4, "[MISSING] PWR-001 데이터 미수신")] :=
  ⟨missing_sweep_reaches 300000000 timeoutOf [quietDevice]
      missingStore (by decide) (by decide)
      (by
        intro rule device left right leftRow rightRow hLeft
        cases hLeft),
    by decide +kernel⟩

end Alerts

end Icmp2
