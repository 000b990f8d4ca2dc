import Icmp2.Alerts.Isolation
import Icmp2.Ingest.Pipeline

/-
  At most one live threshold alarm for each device.

  Main definitions include:
    * `Icmp2.Ingest.OneAlarmEach`
    * `Icmp2.Ingest.NewestIsLive`
    * `Icmp2.Ingest.OneLiveAlarm`
    * `Icmp2.Ingest.FindsLiveAlarm`

  Main theorems include:
    * `Icmp2.Ingest.recovered_iff_newestIsLive`
    * `Icmp2.Ingest.raised_iff_newestIsLive`
    * `Icmp2.Ingest.oneLiveAlarm_iff`
    * `Icmp2.Ingest.one_live_alarm_iff`
-/

------------------------------------------------------------
-- One Verdict of STEP B
------------------------------------------------------------

namespace Icmp2

namespace Ingest

open Monitoring Alerts Facilities Library

/- At most one live alarm of each device under the rule. -/
def OneAlarmEach
    (rule : RuleKey)
    (store : AlertStore) :
    Prop :=
  ∀ device, store.events.AtMostOne (LiveAlarm rule device)

/- The newest OPEN event is an alarm, if any of them is. -/
def NewestIsLive
    (rule : RuleKey)
    (device : Nat)
    (store : AlertStore) :
    Prop :=
  ∀ best ∈ store.latest (OpenUnder rule device),
    best.2.severity.IsAlarm ∨
      ∀ event ∈ store.events.rows,
        ¬ LiveAlarm rule device event

instance
    (rule : RuleKey)
    (device : Nat)
    (store : AlertStore) :
    Decidable (NewestIsLive rule device store) := by
  unfold NewestIsLive
  infer_instance

variable {rule : RuleKey}
variable {device : Nat}
variable {store : AlertStore}

/- With one live alarm, the newest event is that alarm. -/
theorem NewestIsLive.newest
    (hNewest : NewestIsLive rule device store)
    (hOne :
      store.events.AtMostOne (LiveAlarm rule device))
    {id : Nat}
    {event : AlarmEvent}
    (hGet : store.events.get? id = some event)
    (hLive : LiveAlarm rule device event) :
    store.latest (OpenUnder rule device) =
      some (id, event) := by
  cases hLatest : store.latest (OpenUnder rule device) with
  | none =>
      exact
        absurd hLive.1
          (AlertStore.latest_eq_none_iff.mp hLatest
            id event hGet)
  | some best =>
      have hBest :=
        (AlertStore.latest_eq_some_iff best).mp hLatest
      rcases hNewest best hLatest with hAlarm | hNone
      · have hId :=
          hOne best.1 id best.2 event hBest.get hGet
            ⟨hBest.selected, hAlarm⟩ hLive
        have hEvent := hBest.get
        rw [hId, hGet] at hEvent
        rw [← hId, Option.some.inj hEvent]
      · exact
          absurd hLive
            (hNone event (List.mem_of_getElem? hGet))

/- A live alarm that is not newest, if the law is broken. -/
theorem exists_live_of_not_newestIsLive
    (hNot : ¬ NewestIsLive rule device store) :
    ∃ best id event,
      store.events.IsNewest (OpenUnder rule device)
          AlarmEvent.occurredAt best ∧
        store.events.get? id = some event ∧
        LiveAlarm rule device event ∧
        best.1 ≠ id := by
  unfold NewestIsLive at hNot
  push Not at hNot
  rcases hNot with
    ⟨best, hLatest, hQuiet, event, hMem, hLive⟩
  have hBest :=
    (AlertStore.latest_eq_some_iff best).mp hLatest
  rcases List.getElem?_of_mem hMem with ⟨id, hGet⟩
  refine ⟨best, id, event, hBest, hGet, hLive, ?_⟩
  intro hId
  have hSame := hBest.get
  rw [hId, Table.get?, hGet] at hSame
  exact hQuiet (Option.some.inj hSame ▸ hLive.2)

/- Closing the newest OPEN event leaves no live alarm. -/
theorem recovered_iff_newestIsLive
    (now : Instant)
    (note : String)
    (hOne :
      store.events.AtMostOne (LiveAlarm rule device)) :
    (∀ id event,
      (store.reuseOpen now (OpenUnder rule device)
          (.recovered note)).events.get? id = some event →
      ¬ LiveAlarm rule device event) ↔
    NewestIsLive rule device store := by
  constructor
  · intro hNone
    by_contra hNot
    rcases exists_live_of_not_newestIsLive hNot with
      ⟨best, id, event, hBest, hGet, hLive, hNe⟩
    apply hNone id event _ hLive
    rw [AlertStore.get?_reuseOpen_of_ne now _ hBest hNe]
    exact hGet
  · intro hNewest id later hLater hLive
    rcases AlertStore.get?_reuseOpen_cases hLater with
      hSame | ⟨_, event, _, _, hEq⟩ |
        ⟨_, _, _, hVerdict, _⟩ | ⟨_, hVerdict, _⟩
    · have hBest :=
        (AlertStore.latest_eq_some_iff (id, later)).mp
          (hNewest.newest hOne hSame hLive)
      rw [AlertStore.get?_reuseOpen_newest now _ hBest]
        at hLater
      have hOpen := hLive.1.2.2
      rw [← Option.some.inj hLater] at hOpen
      cases hOpen
    · rw [hEq] at hLive
      cases hLive.1.2.2
    · cases hVerdict
    · cases hVerdict

/- Raising the newest OPEN event keeps the alarm alone. -/
theorem raised_iff_newestIsLive
    (now : Instant)
    {refresh : AlarmEvent → AlarmEvent}
    (fresh : AlarmEvent)
    (hRefresh :
      ∀ event, OpenUnder rule device event →
        LiveAlarm rule device (refresh event))
    (hOne :
      store.events.AtMostOne (LiveAlarm rule device)) :
    (store.reuseOpen now (OpenUnder rule device)
        (.raised refresh fresh)).events.AtMostOne
        (LiveAlarm rule device) ↔
      NewestIsLive rule device store := by
  constructor
  · intro hLater
    by_contra hNot
    rcases exists_live_of_not_newestIsLive hNot with
      ⟨best, id, event, hBest, hGet, hLive, hNe⟩
    apply hNe
    apply hLater best.1 id (refresh best.2) event _ _
      (hRefresh best.2 hBest.selected) hLive
    · exact AlertStore.get?_reuseOpen_newest now _ hBest
    · rw [AlertStore.get?_reuseOpen_of_ne now _ hBest hNe]
      exact hGet
  · intro hNewest
    cases hLatest :
        store.latest (OpenUnder rule device) with
    | none =>
        rw [AlertStore.reuseOpen_raised_of_none
          now refresh fresh hLatest]
        apply Table.atMostOne_insert_of_none
        intro id event hGet hLive
        exact
          AlertStore.latest_eq_none_iff.mp hLatest
            id event hGet hLive.1
    | some best =>
        -- every live alarm of the later store is the best
        have hOnly :
            ∀ id later,
              (store.reuseOpen now
                  (OpenUnder rule device)
                  (.raised refresh fresh)).events.get? id =
                some later →
              LiveAlarm rule device later →
              id = best.1 := by
          intro id later hLater hLive
          rcases AlertStore.get?_reuseOpen_cases hLater with
            hSame | ⟨_, _, hVerdict, _⟩ |
              ⟨_, _, event, _, hFound, _⟩ |
              ⟨_, _, hNone, _⟩
          · have hFound :=
              hNewest.newest hOne hSame hLive
            rw [hLatest] at hFound
            rw [Option.some.inj hFound]
          · cases hVerdict
          · rw [hLatest] at hFound
            rw [Option.some.inj hFound]
          · rw [hLatest] at hNone
            cases hNone
        intro left right leftRow rightRow
          hLeft hRight hLeftLive hRightLive
        rw [hOnly left leftRow hLeft hLeftLive,
          hOnly right rightRow hRight hRightLive]

end Ingest

end Icmp2

------------------------------------------------------------
-- One Call
------------------------------------------------------------

namespace Icmp2

namespace Ingest

open Monitoring Alerts Facilities Library

/-
  After each step of a call at most one alarm is live for
  each device, and none for the device of the call once
  STEP B judged a complete reading to be normal.
-/
structure OneAlarmThroughout
    (text : FloatText)
    (site : Site)
    (call : GasIngest)
    (arrival : Device × GasReading)
    (rule : RuleKey) :
    Prop where
  thresholds :
    OneAlarmEach rule
      (afterThresholds text site call arrival.1 arrival.2)
  anomalies :
    OneAlarmEach rule
      (afterAnomalies text site call arrival.1 arrival.2)
  changepoints :
    OneAlarmEach rule
      (afterChangepoints text site call arrival.1 arrival.2)
  isolationForest :
    OneAlarmEach rule
      (afterIsolationForest
        text site call arrival.1 arrival.2)
  recovered :
    arrival.1.facility ≠ none →
    arrival.2.qualityFlag = .ok →
    checkThresholdExceeded
        site.policies arrival.2 alarmScope = [] →
    ∀ id event,
      (afterThresholds text site call
          arrival.1 arrival.2).events.get? id =
        some event →
      ¬ LiveAlarm rule arrival.1.id event

/- The law of one live alarm at one call. -/
def OneLiveAlarm
    (text : FloatText)
    (site : Site)
    (call : GasIngest) :
    Prop :=
  ∀ arrival ∈ arrival? site call,
    ∀ rule ∈ activeRule site.alerts.rules .threshold,
      OneAlarmThroughout text site call arrival rule.1

/- STEP B finds the live alarm, if there is one. -/
def FindsLiveAlarm
    (site : Site)
    (call : GasIngest) :
    Prop :=
  ∀ arrival ∈ arrival? site call,
    ∀ rule ∈ activeRule site.alerts.rules .threshold,
      arrival.1.facility ≠ none →
      arrival.2.qualityFlag = .ok →
      NewestIsLive rule.1 arrival.1.id site.alerts

instance
    (site : Site)
    (call : GasIngest) :
    Decidable (FindsLiveAlarm site call) := by
  unfold FindsLiveAlarm
  infer_instance

/- Every device has at most one live alarm. -/
def OneAlarmInvariant
    (site : Site) :
    Prop :=
  ∀ rule ∈ activeRule site.alerts.rules .threshold,
    OneAlarmEach rule.1 site.alerts

variable {text : FloatText}
variable {site : Site}
variable {call : GasIngest}
variable {arrival : Device × GasReading}
variable {rule : RuleOf .threshold}

/- What STEP B writes is live. -/
theorem liveAlarm_thresholdRefresh
    (text : FloatText)
    (now : Instant)
    (exceeded : List Exceeded)
    {device : Nat}
    {event : AlarmEvent}
    (hOpen : OpenUnder rule.1 device event) :
    LiveAlarm rule.1 device
      (thresholdRefresh text now exceeded event) :=
  ⟨hOpen, thresholdSeverity_isAlarm exceeded⟩

/- The live alarms of another device are left alone. -/
theorem atMostOne_afterThresholds_of_ne
    (hRule :
      activeRule site.alerts.rules .threshold = some rule)
    {device : Nat}
    (hNe : arrival.1.id ≠ device)
    (hOne :
      site.alerts.events.AtMostOne
        (LiveAlarm rule.1 device)) :
    (afterThresholds text site call
        arrival.1 arrival.2).events.AtMostOne
      (LiveAlarm rule.1 device) := by
  have hWithin :
      Table.Within (LiveAlarm rule.1 device)
        (afterThresholds text site call
          arrival.1 arrival.2).events
        site.alerts.events := by
    apply within_checkGasThresholds
      text call.now site.policies hRule
    · exact
        (alarmOnly_liveAlarm rule.1 rule.1 device).closed
          call.now
    · intro exceeded event hOpen hLive
      have hDevice := hOpen.2.1.symm.trans hLive.1.2.1
      exact absurd (Option.some.inj hDevice) hNe
    · intro facility exceeded hLive
      exact hNe (Option.some.inj hLive.1.2.1)
  exact hWithin.atMostOne hOne

/- STEP B keeps the law exactly if it finds the alarm. -/
theorem thresholds_iff_newestIsLive
    (text : FloatText)
    (call : GasIngest)
    (hRule :
      activeRule site.alerts.rules .threshold = some rule)
    (hFacility : arrival.1.facility ≠ none)
    (hOk : arrival.2.qualityFlag = .ok)
    (hOne : OneAlarmEach rule.1 site.alerts) :
    (OneAlarmEach rule.1
        (afterThresholds text site call
          arrival.1 arrival.2) ∧
      (checkThresholdExceeded
          site.policies arrival.2 alarmScope = [] →
        ∀ id event,
          (afterThresholds text site call
              arrival.1 arrival.2).events.get? id =
            some event →
          ¬ LiveAlarm rule.1 arrival.1.id event)) ↔
      NewestIsLive rule.1 arrival.1.id site.alerts := by
  rcases Option.ne_none_iff_exists'.mp hFacility with
    ⟨facility, hFacility⟩
  have hEq :
      afterThresholds text site call
          arrival.1 arrival.2 =
        site.alerts.reuseOpen call.now
          (OpenUnder rule.1 arrival.1.id)
          (thresholdVerdict text call.now rule facility
            arrival.1.id
            (checkThresholdExceeded
              site.policies arrival.2 alarmScope)) :=
    checkGasThresholds_eq
      text call.now site.policies hFacility hOk hRule
  have hEach :
      OneAlarmEach rule.1
          (afterThresholds text site call
            arrival.1 arrival.2) ↔
        (afterThresholds text site call
            arrival.1 arrival.2).events.AtMostOne
          (LiveAlarm rule.1 arrival.1.id) := by
    constructor
    · intro hAll
      exact hAll arrival.1.id
    · intro hOwn device
      by_cases hDevice : arrival.1.id = device
      · rw [← hDevice]
        exact hOwn
      · exact
          atMostOne_afterThresholds_of_ne
            hRule hDevice (hOne device)
  rw [hEach]
  by_cases hNone :
      checkThresholdExceeded
        site.policies arrival.2 alarmScope = []
  · simp only [hEq, hNone, thresholdVerdict, if_true,
      true_implies]
    rw [recovered_iff_newestIsLive _ _
      (hOne arrival.1.id)]
    constructor
    · exact fun hBoth => hBoth.2
    · intro hNewest
      refine ⟨?_, hNewest⟩
      intro left right leftRow rightRow
        hLeft hRight hLeftLive _
      exact
        absurd hLeftLive
          ((recovered_iff_newestIsLive _ _
            (hOne arrival.1.id)).mpr
              hNewest left leftRow hLeft)
  · simp only [hEq, hNone, thresholdVerdict, if_false,
      false_implies, and_true]
    exact
      raised_iff_newestIsLive _ _
        (fun event hOpen =>
          liveAlarm_thresholdRefresh _ _ _ hOpen)
        (hOne arrival.1.id)

/- The later steps of a call keep what STEP B left. -/
theorem oneAlarmThroughout_of_thresholds
    (hRule :
      activeRule site.alerts.rules .threshold = some rule)
    (hThresholds :
      OneAlarmEach rule.1
        (afterThresholds text site call
          arrival.1 arrival.2))
    (hRecovered :
      arrival.1.facility ≠ none →
      arrival.2.qualityFlag = .ok →
      checkThresholdExceeded
          site.policies arrival.2 alarmScope = [] →
      ∀ id event,
        (afterThresholds text site call
            arrival.1 arrival.2).events.get? id =
          some event →
        ¬ LiveAlarm rule.1 arrival.1.id event) :
    OneAlarmThroughout text site call arrival rule.1 where
  thresholds := hThresholds
  anomalies device :=
    (within_afterAnomalies
      (alarmOnly_liveAlarm rule.1 rule.1 device)
      hRule).atMostOne (hThresholds device)
  changepoints device :=
    (within_afterChangepoints
      (alarmOnly_liveAlarm rule.1 rule.1 device)
      hRule).atMostOne (hThresholds device)
  isolationForest device :=
    (within_afterIsolationForest
      (alarmOnly_liveAlarm rule.1 rule.1 device)
      hRule).atMostOne (hThresholds device)
  recovered := hRecovered

/- The law holds at a call if STEP B finds the alarm. -/
theorem oneLiveAlarm_iff
    (hInvariant : OneAlarmInvariant site) :
    OneLiveAlarm text site call ↔
      FindsLiveAlarm site call := by
  constructor
  · intro hLaw arrival hArrival rule hRule hFacility hOk
    have hAll := hLaw arrival hArrival rule hRule
    exact
      (thresholds_iff_newestIsLive text call
        hRule hFacility hOk (hInvariant rule hRule)).mp
          ⟨hAll.thresholds, hAll.recovered hFacility hOk⟩
  · intro hFinds arrival hArrival rule hRule
    have hOne := hInvariant rule hRule
    by_cases hGuard :
        arrival.1.facility = none ∨
          arrival.2.qualityFlag ≠ .ok
    · have hSame :
          afterThresholds text site call
              arrival.1 arrival.2 =
            site.alerts :=
        checkGasThresholds_eq_self
          text call.now site.policies hGuard
      apply oneAlarmThroughout_of_thresholds hRule
      · rw [hSame]
        exact hOne
      · intro hFacility hOk
        rcases hGuard with hNone | hFlag
        · exact absurd hNone hFacility
        · exact absurd hOk hFlag
    · push Not at hGuard
      have hBoth :=
        (thresholds_iff_newestIsLive text call
          hRule hGuard.1 hGuard.2 hOne).mpr
            (hFinds arrival hArrival rule hRule
              hGuard.1 hGuard.2)
      exact
        oneAlarmThroughout_of_thresholds
          hRule hBoth.1 (fun _ _ => hBoth.2)

end Ingest

end Icmp2

------------------------------------------------------------
-- Runs
------------------------------------------------------------

namespace Icmp2

namespace Ingest

open Monitoring Alerts Facilities Library

/- A call that keeps the law keeps the invariant. -/
theorem oneAlarmInvariant_ingestStep
    {text : FloatText}
    {site : Site}
    {call : GasIngest}
    (hInvariant : OneAlarmInvariant site)
    (hLaw : OneLiveAlarm text site call) :
    OneAlarmInvariant (ingestStep text site call) := by
  intro rule hRule
  rw [rules_ingestStep] at hRule
  cases hArrival : arrival? site call with
  | none =>
      rw [ingestStep_of_no_arrival text hArrival]
      exact hInvariant rule hRule
  | some arrival =>
      rw [ingestStep_of_arrival text hArrival]
      exact
        (hLaw arrival hArrival rule hRule).isolationForest

/-
  Along a run from a site with at most one live alarm for
  each device, the law of one live alarm holds exactly if
  STEP B finds the live alarm at every call.
-/
theorem one_live_alarm_iff
    (text : FloatText)
    (site : Site)
    (calls : List GasIngest)
    (hStart : OneAlarmInvariant site) :
    Along (ingestStep text) (OneLiveAlarm text)
        site calls ↔
      Along (ingestStep text) FindsLiveAlarm site calls :=
  along_iff_of_invariant
    (I := OneAlarmInvariant)
    (fun _ _ hInvariant => oneLiveAlarm_iff hInvariant)
    (fun _ _ hInvariant hLaw =>
      oneAlarmInvariant_ingestStep hInvariant hLaw)
    hStart calls

/- A site with one device, two rules, and nothing else. -/
def gasSite : Site where
  devices := [gasDevice]
  sensors := []
  policies := []
  readings := Table.empty
  alerts := ruleStore
  geofences := Table.empty
  forecastQueue := []

/- A call with a complete reading and some anomalies. -/
def airCall
    (now : Instant)
    (co : ℚ)
    (zscoreResults : List ZscoreResult) :
    GasIngest where
  now := now
  payload := ⟨"GAS-001", airValue co, .given now⟩
  zscoreResults := zscoreResults
  cpResults := []
  ifResult := none

/- Danger, a caution, and the return to normal. -/
def plainCalls : List GasIngest :=
  [airCall 1 250 [], airCall 2 50 [], airCall 3 0 []]

/- Without anomalies one alarm opens and closes. -/
theorem one_live_alarm_plain :
    Along (ingestStep wholeText) (OneLiveAlarm wholeText)
      gasSite plainCalls :=
  (one_live_alarm_iff wholeText gasSite plainCalls
    (by
      intro rule _ device left _ _ _ hLeft
      cases hLeft)).mpr
    (by decide +kernel)

/- A Z-score warning for a fall of h2s to zero. -/
def h2sAnomaly : ZscoreResult where
  metric := .h2s
  value := 0
  finalStatus := .anomalyWarning (-4)

/- Danger, an anomaly beside it, and normal values. -/
def mixedCalls : List GasIngest :=
  [airCall 1 250 [], airCall 2 250 [h2sAnomaly],
    airCall 3 0 []]

/- The site before the return to normal. -/
def normalSite : Site :=
  run (ingestStep wholeText) gasSite (mixedCalls.take 2)

/-
  The return to normal closes the newer anomaly, and the
  danger alarm stays open.
-/
theorem anomaly_shields_alarm :
    ¬ Along (ingestStep wholeText)
        (OneLiveAlarm wholeText) gasSite mixedCalls ∧
      (run (ingestStep wholeText) gasSite
          mixedCalls).alerts.events.rows.map
          (fun event =>
            (event.title, event.severity,
              event.eventStatus)) =
        [("[가스] CO 농도 이상 감지", .danger, .«open»),
          ("[AI] H2S 통계 이상 감지", .anomaly, .closed)] := by
  constructor
  · intro hAlong
    have hBroken :
        ∀ arrival ∈ arrival? normalSite (airCall 3 0 []),
          arrival.1.facility ≠ none ∧
            arrival.2.qualityFlag = .ok ∧
            checkThresholdExceeded
                normalSite.policies arrival.2
                alarmScope = [] ∧
            ∃ event ∈ (afterThresholds wholeText normalSite
                (airCall 3 0 []) arrival.1
                arrival.2).events.rows,
              LiveAlarm ⟨1, .threshold⟩
                arrival.1.id event := by
      decide +kernel
    have hSome :
        (arrival? normalSite (airCall 3 0 [])).isSome := by
      decide +kernel
    rcases Option.isSome_iff_exists.mp hSome with
      ⟨arrival, hArrival⟩
    rcases hBroken arrival hArrival with
      ⟨hFacility, hOk, hNormal, event, hMem, hLive⟩
    rcases List.getElem?_of_mem hMem with ⟨id, hGet⟩
    exact
      (hAlong.2.2.1 arrival hArrival
        ⟨⟨1, .threshold⟩, rfl⟩
        (by decide +kernel)).recovered
          hFacility hOk hNormal id event hGet hLive
  · decide +kernel

end Ingest

end Icmp2
