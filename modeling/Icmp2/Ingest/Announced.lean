import Icmp2.Ingest.OneAlarm

/-
  Whether a reading over its limits is announced.

  Main definitions include:
    * `Icmp2.Ingest.AlarmServed`
    * `Icmp2.Ingest.FindsOwnAlarm`
    * `Icmp2.Ingest.AlarmInvariant`

  Main theorems include:
    * `Icmp2.Ingest.thresholdServed_iff`
    * `Icmp2.Ingest.siteInvariant_ingestStep`
    * `Icmp2.Ingest.threshold_alarms_served_iff`
-/

------------------------------------------------------------
-- The Severity of a Reading
------------------------------------------------------------

namespace Icmp2

namespace Ingest

open Monitoring Alerts Facilities Library

/- The severity that stands for a level. -/
def levelSeverity : Level → Severity
  | .danger => .danger
  | .caution => .warning
  | .normal => .normal

/- The highest level of a report. -/
def highestLevel
    (exceeded : List Exceeded) :
    Level :=
  (exceeded.map Exceeded.level).foldl Level.highest .normal

theorem foldl_highest_eq_danger_iff
    (levels : List Level)
    (start : Level) :
    levels.foldl Level.highest start = .danger ↔
      start = .danger ∨ .danger ∈ levels := by
  induction levels generalizing start with
  | nil => simp
  | cons level levels ih =>
      have hHead :
          start.highest level = .danger ↔
            start = .danger ∨ .danger = level := by
        cases start <;> cases level <;> decide
      simp only [List.foldl_cons, ih, hHead,
        List.mem_cons, or_assoc]

theorem foldl_highest_eq_normal_iff
    (levels : List Level)
    (start : Level) :
    levels.foldl Level.highest start = .normal ↔
      start = .normal ∧ ∀ level ∈ levels,
        level = .normal := by
  induction levels generalizing start with
  | nil => simp
  | cons level levels ih =>
      have hHead :
          start.highest level = .normal ↔
            start = .normal ∧ level = .normal := by
        cases start <;> cases level <;> decide
      simp only [List.foldl_cons, ih, hHead,
        List.forall_mem_cons, and_assoc]

/- STEP B writes the severity of the highest level. -/
theorem thresholdSeverity_eq
    {exceeded : List Exceeded}
    (hSome : exceeded ≠ [])
    (hLevels :
      ∀ entry ∈ exceeded, entry.level ≠ .normal) :
    thresholdSeverity exceeded =
      levelSeverity (highestLevel exceeded) := by
  have hAny :
      (exceeded.any fun entry => entry.level = .danger) =
          true ↔
        highestLevel exceeded = .danger := by
    simp only [highestLevel, foldl_highest_eq_danger_iff,
      List.any_eq_true, decide_eq_true_eq, reduceCtorEq,
      List.mem_map, false_or]
  unfold thresholdSeverity
  by_cases hDanger : highestLevel exceeded = .danger
  · rw [if_pos (hAny.mpr hDanger), hDanger]
    rfl
  · rw [if_neg (fun hTrue => hDanger (hAny.mp hTrue))]
    cases hLevel : highestLevel exceeded with
    | danger => exact absurd hLevel hDanger
    | caution => rfl
    | normal =>
        rcases List.exists_mem_of_ne_nil exceeded hSome with
          ⟨entry, hMem⟩
        have hNormal :=
          ((foldl_highest_eq_normal_iff _ _).mp hLevel).2
            entry.level (List.mem_map_of_mem hMem)
        exact absurd hNormal (hLevels entry hMem)

end Ingest

end Icmp2

------------------------------------------------------------
-- One Verdict of STEP B
------------------------------------------------------------

namespace Icmp2

namespace Ingest

open Monitoring Alerts Facilities Library

/- An event carries the report of a reading. -/
def CarriesReport
    (text : FloatText)
    (exceeded : List Exceeded)
    (event : AlarmEvent) :
    Prop :=
  event.severity = levelSeverity (highestLevel exceeded) ∧
    event.currentValue = thresholdValue exceeded ∧
    event.message = thresholdMessage text exceeded

instance
    (text : FloatText)
    (exceeded : List Exceeded) :
    DecidablePred (CarriesReport text exceeded) := by
  intro event
  unfold CarriesReport
  infer_instance

/-
  What STEP B owes to a report: without an open event of
  its own for the device, one new open event with the
  severity of the highest level, and one notification; with
  one, its refresh, and no new event.
-/
structure AlarmServed
    (text : FloatText)
    (exceeded : List Exceeded)
    (device : Nat)
    (before after : AlertStore) :
    Prop where
  announced :
    (∀ id event, before.events.get? id = some event →
      ¬ OpenAlarm device event) →
    ∃ fresh,
      OpenAlarm device fresh ∧
        CarriesReport text exceeded fresh ∧
        after.events = before.events.insert fresh ∧
        after.notifications =
          before.notifications ++ [before.events.nextId]
  refreshed :
    ∀ id event, before.events.get? id = some event →
      OpenAlarm device event →
      ∃ later,
        after.events.get? id = some later ∧
          OpenAlarm device later ∧
          CarriesReport text exceeded later ∧
          after.events.nextId = before.events.nextId ∧
          after.notifications = before.notifications

/-
  The newest OPEN event is one of STEP B, or an event of
  STEP B carries the report already.
-/
def NewestIsOwn
    (text : FloatText)
    (exceeded : List Exceeded)
    (rule : RuleKey)
    (device : Nat)
    (store : AlertStore) :
    Prop :=
  ∀ best ∈ store.latest (OpenUnder rule device),
    best.2.origin.FromThreshold ∨
      ∃ event ∈ store.events.rows,
        OpenAlarm device event ∧
          CarriesReport text exceeded event

instance
    (text : FloatText)
    (exceeded : List Exceeded)
    (rule : RuleKey)
    (device : Nat)
    (store : AlertStore) :
    Decidable
      (NewestIsOwn text exceeded rule device store) := by
  unfold NewestIsOwn
  infer_instance

/-
  OPEN events under a rule of the threshold type are under
  the given one, and each device has at most one OPEN event
  of STEP B.
-/
structure AlarmInvariant
    (rule : RuleKey)
    (store : AlertStore) :
    Prop where
  noStray :
    ∀ id event, store.events.get? id = some event →
      ¬ StrayEvent rule event
  oneAlarm :
    ∀ device, store.events.AtMostOne (OpenAlarm device)

variable {store : AlertStore}
variable {rule : RuleOf .threshold}

/- OPEN events of STEP B are under the rule. -/
theorem AlarmInvariant.openUnder
    (hInvariant : AlarmInvariant rule.1 store)
    {device id : Nat}
    {event : AlarmEvent}
    (hGet : store.events.get? id = some event)
    (hOpen : OpenAlarm device event) :
    OpenUnder rule.1 device event := by
  rcases hOpen with ⟨hDevice, hStatus, hFrom⟩
  refine ⟨?_, hDevice, hStatus⟩
  by_contra hOther
  apply hInvariant.noStray id event hGet
  refine ⟨hStatus, ?_, hOther⟩
  rw [← event.typed]
  cases hOrigin : event.origin with
  | threshold gases => rfl
  | _ =>
      rw [hOrigin] at hFrom
      exact hFrom.elim

theorem AlarmInvariant.no_alarm_of_latest_none
    (hInvariant : AlarmInvariant rule.1 store)
    {device : Nat}
    (hNone :
      store.latest (OpenUnder rule.1 device) = none) :
    ∀ id event, store.events.get? id = some event →
      ¬ OpenAlarm device event := by
  intro id event hGet hOpen
  exact
    AlertStore.latest_eq_none_iff.mp hNone id event hGet
      (hInvariant.openUnder hGet hOpen)

/- What STEP B writes carries the report. -/
theorem carriesReport_thresholdRefresh
    (text : FloatText)
    (now : Instant)
    {exceeded : List Exceeded}
    (hSeverity :
      thresholdSeverity exceeded =
        levelSeverity (highestLevel exceeded))
    (event : AlarmEvent) :
    CarriesReport text exceeded
      (thresholdRefresh text now exceeded event) :=
  ⟨hSeverity, rfl, rfl⟩

/- What STEP B does with the report of a reading. -/
def raiseReport
    (text : FloatText)
    (now : Instant)
    (rule : RuleOf .threshold)
    (facility device : Nat)
    (exceeded : List Exceeded)
    (store : AlertStore) :
    AlertStore :=
  store.reuseOpen now (OpenUnder rule.1 device)
    (.raised (thresholdRefresh text now exceeded)
      (thresholdEvent
        text now rule facility device exceeded))

variable {text : FloatText}
variable {now : Instant}
variable {facility device : Nat}
variable {exceeded : List Exceeded}

/- Without any OPEN event the report is announced. -/
theorem alarmServed_of_latest_none
    (hSeverity :
      thresholdSeverity exceeded =
        levelSeverity (highestLevel exceeded))
    (hInvariant : AlarmInvariant rule.1 store)
    (hLatest :
      store.latest (OpenUnder rule.1 device) = none) :
    AlarmServed text exceeded device store
      (raiseReport
        text now rule facility device exceeded store) := by
  rw [raiseReport,
    AlertStore.reuseOpen_raised_of_none _ _ _ hLatest]
  constructor
  · intro _
    exact
      ⟨thresholdEvent
          text now rule facility device exceeded,
        ⟨rfl, rfl, trivial⟩,
        ⟨hSeverity, rfl, rfl⟩, rfl, rfl⟩
  · intro id event hGet hOpen
    exact
      absurd hOpen
        (hInvariant.no_alarm_of_latest_none
          hLatest id event hGet)

/- The only event of STEP B carries the report later. -/
theorem alarmServed_of_later
    {best : Nat × AlarmEvent}
    (hInvariant : AlarmInvariant rule.1 store)
    (hNewest :
      store.events.IsNewest (OpenUnder rule.1 device)
        AlarmEvent.occurredAt best)
    {id : Nat}
    {event later : AlarmEvent}
    (hGet : store.events.get? id = some event)
    (hOpen : OpenAlarm device event)
    (hLater :
      (raiseReport text now rule facility device exceeded
          store).events.get? id =
        some later)
    (hOpenLater : OpenAlarm device later)
    (hCarries : CarriesReport text exceeded later) :
    AlarmServed text exceeded device store
      (raiseReport
        text now rule facility device exceeded store) := by
  constructor
  · intro hNone
    exact absurd hOpen (hNone id event hGet)
  · intro otherId other hOther hOtherOpen
    have hId :=
      hInvariant.oneAlarm device otherId id
        other event hOther hGet hOtherOpen hOpen
    rw [hId]
    exact
      ⟨later, hLater, hOpenLater, hCarries,
        AlertStore.nextId_reuseOpen now _ hNewest⟩

/- An event of STEP B that is not newest is not written. -/
theorem get?_raiseReport_of_not_newest
    {best : Nat × AlarmEvent}
    (hNewest :
      store.events.IsNewest (OpenUnder rule.1 device)
        AlarmEvent.occurredAt best)
    (hOther : ¬ best.2.origin.FromThreshold)
    {id : Nat}
    {event : AlarmEvent}
    (hGet : store.events.get? id = some event)
    (hOpen : OpenAlarm device event) :
    (raiseReport text now rule facility device exceeded
        store).events.get? id =
      some event := by
  have hNe : best.1 ≠ id := by
    intro hId
    have hBest := hNewest.get
    rw [hId, hGet] at hBest
    exact hOther (Option.some.inj hBest ▸ hOpen.2.2)
  rw [raiseReport,
    AlertStore.get?_reuseOpen_of_ne now _ hNewest hNe]
  exact hGet

/- Under the condition the report is served. -/
theorem alarmServed_of_newestIsOwn
    (hSeverity :
      thresholdSeverity exceeded =
        levelSeverity (highestLevel exceeded))
    (hInvariant : AlarmInvariant rule.1 store)
    (hOwn :
      NewestIsOwn text exceeded rule.1 device store) :
    AlarmServed text exceeded device store
      (raiseReport
        text now rule facility device exceeded store) := by
  cases hLatest :
      store.latest (OpenUnder rule.1 device) with
  | none =>
      exact
        alarmServed_of_latest_none
          hSeverity hInvariant hLatest
  | some best =>
      have hBest :=
        (AlertStore.latest_eq_some_iff best).mp hLatest
      by_cases hFrom : best.2.origin.FromThreshold
      · have hOpen : OpenAlarm device best.2 :=
          ⟨hBest.selected.2.1, hBest.selected.2.2, hFrom⟩
        exact
          alarmServed_of_later
            hInvariant hBest hBest.get hOpen
            (AlertStore.get?_reuseOpen_newest now _ hBest)
            hOpen
            (carriesReport_thresholdRefresh
              text now hSeverity best.2)
      · rcases (hOwn best hLatest).resolve_left hFrom with
          ⟨event, hMem, hOpen, hCarries⟩
        rcases List.getElem?_of_mem hMem with ⟨id, hGet⟩
        exact
          alarmServed_of_later
            hInvariant hBest hGet hOpen
            (get?_raiseReport_of_not_newest
              hBest hFrom hGet hOpen)
            hOpen hCarries

/- A served report meets the condition. -/
theorem newestIsOwn_of_alarmServed
    (hServed :
      AlarmServed text exceeded device store
        (raiseReport text now rule facility device exceeded
          store)) :
    NewestIsOwn text exceeded rule.1 device store := by
  intro best hLatest
  have hBest :=
    (AlertStore.latest_eq_some_iff best).mp hLatest
  by_cases hFrom : best.2.origin.FromThreshold
  · exact Or.inl hFrom
  · right
    by_cases hAny :
        ∃ id event,
          store.events.get? id = some event ∧
            OpenAlarm device event
    · rcases hAny with ⟨id, event, hGet, hOpen⟩
      rcases hServed.refreshed id event hGet hOpen with
        ⟨later, hLater, _, hCarries, _⟩
      rw [get?_raiseReport_of_not_newest
        hBest hFrom hGet hOpen] at hLater
      rcases Option.some.inj hLater with rfl
      exact
        ⟨event, List.mem_of_getElem? hGet, hOpen, hCarries⟩
    · push Not at hAny
      -- an announcement inserts, but STEP B refreshed
      rcases hServed.announced hAny with
        ⟨fresh, _, _, hEvents, _⟩
      have hKept :=
        (AlertStore.nextId_reuseOpen now
          (.raised (thresholdRefresh text now exceeded)
            (thresholdEvent
              text now rule facility device exceeded))
          hBest).1
      have hInserted := congrArg Table.nextId hEvents
      rw [Table.nextId_insert] at hInserted
      exact
        absurd (hInserted.symm.trans hKept)
          (Nat.succ_ne_self _)

end Ingest

end Icmp2

------------------------------------------------------------
-- One Call
------------------------------------------------------------

namespace Icmp2

namespace Ingest

open Monitoring Alerts Facilities Library

/- The gases that a call reports to STEP B. -/
def reported
    (site : Site)
    (reading : GasReading) :
    List Exceeded :=
  checkThresholdExceeded site.policies reading alarmScope

/- STEP B serves the report of a call, if it has one. -/
def ThresholdServed
    (text : FloatText)
    (site : Site)
    (call : GasIngest) :
    Prop :=
  ∀ arrival ∈ arrival? site call,
    ∀ _rule ∈ activeRule site.alerts.rules .threshold,
      arrival.1.facility ≠ none →
      arrival.2.qualityFlag = .ok →
      reported site arrival.2 ≠ [] →
      AlarmServed text (reported site arrival.2)
        arrival.1.id site.alerts
        (afterThresholds text site call arrival.1 arrival.2)

/- STEP B finds an event of its own, if any is OPEN. -/
def FindsOwnAlarm
    (text : FloatText)
    (site : Site)
    (call : GasIngest) :
    Prop :=
  ∀ arrival ∈ arrival? site call,
    ∀ rule ∈ activeRule site.alerts.rules .threshold,
      arrival.1.facility ≠ none →
      arrival.2.qualityFlag = .ok →
      reported site arrival.2 ≠ [] →
      NewestIsOwn text (reported site arrival.2)
        rule.1 arrival.1.id site.alerts

instance
    (text : FloatText)
    (site : Site)
    (call : GasIngest) :
    Decidable (FindsOwnAlarm text site call) := by
  unfold FindsOwnAlarm
  infer_instance

/- The invariant under the active rule, if there is one. -/
def SiteInvariant
    (site : Site) :
    Prop :=
  ∀ rule ∈ activeRule site.alerts.rules .threshold,
    AlarmInvariant rule.1 site.alerts

/- A call serves its report exactly under the condition. -/
theorem thresholdServed_iff
    {text : FloatText}
    {site : Site}
    {call : GasIngest}
    (hInvariant : SiteInvariant site) :
    ThresholdServed text site call ↔
      FindsOwnAlarm text site call := by
  refine forall_congr' fun arrival => ?_
  refine forall_congr' fun _ => ?_
  refine forall_congr' fun rule => ?_
  refine forall_congr' fun hRule => ?_
  refine forall_congr' fun hFacility => ?_
  refine forall_congr' fun hOk => ?_
  refine forall_congr' fun hSome => ?_
  rcases Option.ne_none_iff_exists'.mp hFacility with
    ⟨facility, hFacility⟩
  have hEq :
      afterThresholds text site call
          arrival.1 arrival.2 =
        raiseReport text call.now rule facility
          arrival.1.id (reported site arrival.2)
          site.alerts := by
    have hStep :=
      checkGasThresholds_eq
        text call.now site.policies hFacility hOk hRule
    have hReported :
        checkThresholdExceeded
            site.policies arrival.2 alarmScope ≠ [] :=
      hSome
    rw [thresholdVerdict, if_neg hReported] at hStep
    exact hStep
  have hSeverity :=
    thresholdSeverity_eq hSome
      (fun entry hMem => level_ne_normal_of_mem hMem)
  rw [hEq]
  exact
    ⟨newestIsOwn_of_alarmServed,
      alarmServed_of_newestIsOwn
        hSeverity (hInvariant rule hRule)⟩

end Ingest

end Icmp2

------------------------------------------------------------
-- The Invariant
------------------------------------------------------------

namespace Icmp2

namespace Ingest

open Monitoring Alerts Facilities Library

variable {text : FloatText}
variable {now : Instant}
variable {policies : List ThresholdPolicy}
variable {device : Device}
variable {reading : GasReading}
variable {store : AlertStore}
variable {rule : RuleOf .threshold}

/- STEP B writes under the active rule only. -/
theorem within_strayEvent_checkGasThresholds
    (hRule :
      activeRule store.rules .threshold = some rule) :
    Table.Within (StrayEvent rule.1)
      (checkGasThresholds
        text now policies device reading store).events
      store.events := by
  apply within_checkGasThresholds text now policies hRule
  · exact (alarmOnly_strayEvent rule.1).closed now
  · intro exceeded event _ hStray
    exact hStray
  · rintro facility exceeded ⟨_, _, hOther⟩
    exact hOther rfl

/- STEP B creates an event only where it has none OPEN. -/
theorem oneAlarm_checkGasThresholds
    (hInvariant : AlarmInvariant rule.1 store)
    (hRule :
      activeRule store.rules .threshold = some rule)
    (other : Nat) :
    (checkGasThresholds text now policies device reading
        store).events.AtMostOne
      (OpenAlarm other) := by
  have hOne := hInvariant.oneAlarm other
  by_cases hGuard :
      device.facility = none ∨ reading.qualityFlag ≠ .ok
  · rw [checkGasThresholds_eq_self
      text now policies hGuard]
    exact hOne
  · push Not at hGuard
    rcases Option.ne_none_iff_exists'.mp hGuard.1 with
      ⟨facility, hFacility⟩
    rw [checkGasThresholds_eq
      text now policies hFacility hGuard.2 hRule]
    generalize
      checkThresholdExceeded policies reading alarmScope =
        exceeded
    unfold thresholdVerdict
    split
    · exact
        (AlertStore.within_reuseOpen now _
          ((alarmOnly_openAlarm rule.1 other).closed now)
          (fun _ _ hVerdict => by
            cases hVerdict)).atMostOne hOne
    · cases hLatest :
          store.latest (OpenUnder rule.1 device.id) with
      | none =>
          rw [AlertStore.reuseOpen_raised_of_none
            _ _ _ hLatest]
          by_cases hDevice : device.id = other
          · subst hDevice
            exact
              Table.atMostOne_insert_of_none
                (hInvariant.no_alarm_of_latest_none
                  hLatest) _
          · refine (Table.within_insert ?_).atMostOne hOne
            rintro ⟨hOther, _⟩
            exact hDevice (Option.some.inj hOther)
      | some best =>
          refine Table.Within.atMostOne ?_ hOne
          intro id later hLater hOpen
          have hBest :=
            (AlertStore.latest_eq_some_iff best).mp hLatest
          by_cases hId : best.1 = id
          · subst hId
            rw [AlertStore.get?_reuseOpen_newest
              now _ hBest] at hLater
            rw [← Option.some.inj hLater] at hOpen
            exact ⟨best.2, hBest.get, hOpen⟩
          · rw [AlertStore.get?_reuseOpen_of_ne
              now _ hBest hId] at hLater
            exact ⟨later, hLater, hOpen⟩

/- Every call keeps the invariant. -/
theorem siteInvariant_ingestStep
    (text : FloatText)
    {site : Site}
    (call : GasIngest)
    (hInvariant : SiteInvariant site) :
    SiteInvariant (ingestStep text site call) := by
  intro rule hRule
  rw [rules_ingestStep] at hRule
  have hBefore := hInvariant rule hRule
  cases hArrival : arrival? site call with
  | none =>
      rw [ingestStep_of_no_arrival text hArrival]
      exact hBefore
  | some arrival =>
      rw [ingestStep_of_arrival text hArrival]
      constructor
      · apply Table.Within.none _ hBefore.noStray
        exact
          (within_afterIsolationForest
            (alarmOnly_strayEvent rule.1) hRule).trans
              (within_strayEvent_checkGasThresholds hRule)
      · intro device
        exact
          (within_afterIsolationForest
            (alarmOnly_openAlarm rule.1 device)
            hRule).atMostOne
              (oneAlarm_checkGasThresholds
                hBefore hRule device)

end Ingest

end Icmp2

------------------------------------------------------------
-- Runs
------------------------------------------------------------

namespace Icmp2

namespace Ingest

open Monitoring Alerts Facilities Library

/-
  Along every run, STEP B serves the report of every call
  exactly if it finds an event of its own, or no event,
  whenever there is something to report.
-/
theorem threshold_alarms_served_iff
    (text : FloatText)
    (site : Site)
    (calls : List GasIngest)
    (hStart : SiteInvariant site) :
    Along (ingestStep text) (ThresholdServed text)
        site calls ↔
      Along (ingestStep text) (FindsOwnAlarm text)
        site calls :=
  along_iff_of_invariant
    (I := SiteInvariant)
    (fun _ _ hInvariant => thresholdServed_iff hInvariant)
    (fun _ call hInvariant _ =>
      siteInvariant_ingestStep text call hInvariant)
    hStart calls

/- Without anomalies every report is served. -/
theorem threshold_alarms_served_plain :
    Along (ingestStep wholeText) (ThresholdServed wholeText)
      gasSite plainCalls :=
  (threshold_alarms_served_iff wholeText gasSite plainCalls
    (by
      intro rule _
      constructor
      · intro id event hGet
        cases hGet
      · intro device left _ _ _ hLeft
        cases hLeft)).mpr
    (by decide +kernel)

/- The site after one statistical anomaly. -/
def anomalySite : Site :=
  ingestStep wholeText gasSite (airCall 1 20 [coAnomaly])

/-
  While the anomaly is open, a danger reading is written
  over it, and nobody is notified of the danger.
-/
theorem danger_absorbed_by_anomaly :
    ¬ Along (ingestStep wholeText)
        (ThresholdServed wholeText) gasSite
        [airCall 1 20 [coAnomaly], airCall 2 250 []] ∧
      (anomalySite.alerts.events.rows.map
          (fun event => (event.title, event.severity)) =
        [("[AI] CO 통계 이상 감지", .anomaly)] ∧
        anomalySite.alerts.notifications = [0]) ∧
      ((ingestStep wholeText anomalySite
            (airCall 2 250 [])).alerts.events.rows.map
          (fun event => (event.title, event.severity)) =
        [("[AI] CO 통계 이상 감지", .danger)] ∧
        (ingestStep wholeText anomalySite
            (airCall 2 250 [])).alerts.notifications =
          [0]) := by
  refine
    ⟨?_, ⟨by decide +kernel, by decide +kernel⟩,
      by decide +kernel, by decide +kernel⟩
  intro hAlong
  have hFacts :
      ∀ arrival ∈ arrival? anomalySite (airCall 2 250 []),
        arrival.1.facility ≠ none ∧
          arrival.2.qualityFlag = .ok ∧
          reported anomalySite arrival.2 ≠ [] ∧
          (∀ event ∈ anomalySite.alerts.events.rows,
            ¬ OpenAlarm arrival.1.id event) ∧
          (afterThresholds wholeText anomalySite
              (airCall 2 250 []) arrival.1
              arrival.2).events.nextId =
            anomalySite.alerts.events.nextId := by
    decide +kernel
  have hSome :
      (arrival? anomalySite (airCall 2 250 [])).isSome := by
    decide +kernel
  rcases Option.isSome_iff_exists.mp hSome with
    ⟨arrival, hArrival⟩
  rcases hFacts arrival hArrival with
    ⟨hFacility, hOk, hReported, hNone, hNext⟩
  have hServed :=
    hAlong.2.1 arrival hArrival ⟨⟨1, .threshold⟩, rfl⟩
      (by decide +kernel) hFacility hOk hReported
  rcases hServed.announced
      (fun id event hGet =>
        hNone event (List.mem_of_getElem? hGet)) with
    ⟨fresh, _, _, hEvents, _⟩
  have hInserted := congrArg Table.nextId hEvents
  rw [Table.nextId_insert] at hInserted
  exact
    Nat.succ_ne_self _ (hNext.symm.trans hInserted).symm

end Ingest

end Icmp2
