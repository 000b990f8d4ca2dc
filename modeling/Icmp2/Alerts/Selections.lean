import Icmp2.Alerts.Services

/-
  Selections of events that the detection steps can only
  shrink.

  Main definitions include:
    * `Icmp2.Alerts.OpenAlarm`
    * `Icmp2.Alerts.LiveAlarm`
    * `Icmp2.Alerts.StrayEvent`
    * `Icmp2.Alerts.AlarmOnly`

  Main theorems include:
    * `Icmp2.Alerts.AlertStore.within_reuseOpen`
    * `Icmp2.Alerts.AlarmOnly.within_triggerAnomalyAlarms`
    * `Icmp2.Alerts.AlarmOnly.within_triggerChangepointAlarms`
    * `Icmp2.Alerts.AlarmOnly.within_triggerIfAnomalyAlarms`
-/

------------------------------------------------------------
-- Shrinking Selections
------------------------------------------------------------

namespace Icmp2

namespace Alerts

open Monitoring AiEngine Library

/-
  A selection without closed events only shrinks, if the
  refresh takes no found event into it and the fresh event
  is outside of it.
-/
theorem AlertStore.within_reuseOpen
    {store : AlertStore}
    {p q : AlarmEvent → Prop}
    [DecidablePred p]
    (now : Instant)
    (verdict : Verdict)
    (hClosed : ∀ event, ¬ q (AlarmEvent.close now event))
    (hRaised :
      ∀ refresh fresh, verdict = .raised refresh fresh →
        (∀ event, p event → q (refresh event) → q event) ∧
          ¬ q fresh) :
    Table.Within q
      (store.reuseOpen now p verdict).events
      store.events := by
  intro id later hLater hSelected
  rcases AlertStore.get?_reuseOpen_cases hLater with
    hSame | ⟨note, event, _, _, hEq⟩ |
      ⟨refresh, fresh, event, hVerdict, hBest, hEq⟩ |
      ⟨refresh, hVerdict, _, _⟩
  · exact ⟨later, hSame, hSelected⟩
  · rw [hEq] at hSelected
    exact absurd hSelected (hClosed event)
  · have hNewest :=
      (AlertStore.latest_eq_some_iff _).mp hBest
    rw [hEq] at hSelected
    exact
      ⟨event, hNewest.get,
        (hRaised refresh fresh hVerdict).1 event
          hNewest.selected hSelected⟩
  · exact
      absurd hSelected (hRaised refresh later hVerdict).2

/- OPEN events of a device that STEP B created. -/
def OpenAlarm
    (device : Nat)
    (event : AlarmEvent) :
    Prop :=
  event.device = some device ∧
    event.eventStatus = .«open» ∧
    event.origin.FromThreshold

instance
    (device : Nat) :
    DecidablePred (OpenAlarm device) := by
  intro event
  unfold OpenAlarm
  infer_instance

/- OPEN events of a device under a rule that are alarms. -/
def LiveAlarm
    (rule : RuleKey)
    (device : Nat)
    (event : AlarmEvent) :
    Prop :=
  OpenUnder rule device event ∧ event.severity.IsAlarm

instance
    (rule : RuleKey)
    (device : Nat) :
    DecidablePred (LiveAlarm rule device) := by
  intro event
  unfold LiveAlarm
  infer_instance

/- OPEN events under another rule of the threshold type. -/
def StrayEvent
    (rule : RuleKey)
    (event : AlarmEvent) :
    Prop :=
  event.eventStatus = .«open» ∧
    event.rule.ruleType = .threshold ∧
    event.rule ≠ rule

/-
  A selection to which the anomaly steps cannot add: it
  has no closed events, ignores what they refresh, and has
  no place for an anomaly under the rule of STEP B or under
  a rule of another type.
-/
structure AlarmOnly
    (rule : RuleKey)
    (q : AlarmEvent → Prop) :
    Prop where
  closed : ∀ now event, ¬ q (AlarmEvent.close now event)
  refreshed :
    ∀ now message value event,
      q (AlarmEvent.refresh now message value event) →
      q event
  created :
    ∀ event,
      event.severity = .anomaly →
      (event.rule = rule ∨
        event.rule.ruleType ≠ .threshold) →
      ¬ q event

theorem alarmOnly_liveAlarm
    (rule underRule : RuleKey)
    (device : Nat) :
    AlarmOnly rule (LiveAlarm underRule device) where
  closed := by
    rintro now event ⟨⟨_, _, hOpen⟩, _⟩
    cases hOpen
  refreshed := fun _ _ _ _ hLive => hLive
  created := by
    rintro event hAnomaly _ ⟨_, hAlarm⟩
    simp [Severity.IsAlarm, hAnomaly] at hAlarm

theorem alarmOnly_openAlarm
    (rule : RuleKey)
    (device : Nat) :
    AlarmOnly rule (OpenAlarm device) where
  closed := by
    rintro now event ⟨_, hOpen, _⟩
    cases hOpen
  refreshed := fun _ _ _ _ hOpen => hOpen
  created := by
    rintro event hAnomaly _ ⟨_, _, hFrom⟩
    have hAlarm := event.graded hFrom
    simp [Severity.IsAlarm, hAnomaly] at hAlarm

theorem alarmOnly_strayEvent
    (rule : RuleKey) :
    AlarmOnly rule (StrayEvent rule) where
  closed := by
    rintro now event ⟨hOpen, _⟩
    cases hOpen
  refreshed := fun _ _ _ _ hStray => hStray
  created := by
    rintro event _ (hRule | hType) ⟨_, hTyped, hStray⟩
    · exact hStray hRule
    · exact hType hTyped

end Alerts

end Icmp2

------------------------------------------------------------
-- STEP B
------------------------------------------------------------

namespace Icmp2

namespace Alerts

open Monitoring AiEngine Library

variable {device : Device}
variable {reading : GasReading}
variable {store : AlertStore}
variable {rule : RuleOf .threshold}

/- STEP B passes its guards and judges a reading. -/
theorem checkGasThresholds_eq
    {facility : Nat}
    (text : FloatText)
    (now : Instant)
    (policies : List ThresholdPolicy)
    (hFacility : device.facility = some facility)
    (hOk : reading.qualityFlag = .ok)
    (hRule :
      activeRule store.rules .threshold = some rule) :
    checkGasThresholds
        text now policies device reading store =
      store.reuseOpen now
        (OpenUnder rule.1 device.id)
        (thresholdVerdict text now rule facility device.id
          (checkThresholdExceeded
            policies reading alarmScope)) := by
  simp [checkGasThresholds, hFacility, hOk, hRule]

/- Or it is stopped by a guard and does nothing. -/
theorem checkGasThresholds_eq_self
    (text : FloatText)
    (now : Instant)
    (policies : List ThresholdPolicy)
    (hGuard :
      device.facility = none ∨
        reading.qualityFlag ≠ .ok) :
    checkGasThresholds
        text now policies device reading store =
      store := by
  unfold checkGasThresholds
  rcases hGuard with hFacility | hFlag
  · rw [hFacility]
  · split
    · rfl
    · rw [if_pos hFlag]

/-
  STEP B adds nothing to a selection that its refresh does
  not enlarge and that has no place for its fresh event.
-/
theorem within_checkGasThresholds
    {q : AlarmEvent → Prop}
    (text : FloatText)
    (now : Instant)
    (policies : List ThresholdPolicy)
    (hRule :
      activeRule store.rules .threshold = some rule)
    (hClosed : ∀ event, ¬ q (AlarmEvent.close now event))
    (hRefreshed :
      ∀ exceeded event,
        OpenUnder rule.1 device.id event →
        q (thresholdRefresh text now exceeded event) →
        q event)
    (hCreated :
      ∀ facility exceeded,
        ¬ q (thresholdEvent
          text now rule facility device.id exceeded)) :
    Table.Within q
      (checkGasThresholds
        text now policies device reading store).events
      store.events := by
  by_cases hGuard :
      device.facility = none ∨ reading.qualityFlag ≠ .ok
  · rw [checkGasThresholds_eq_self
      text now policies hGuard]
    exact Table.Within.refl _
  · push Not at hGuard
    rcases Option.ne_none_iff_exists'.mp hGuard.1 with
      ⟨facility, hFacility⟩
    rw [checkGasThresholds_eq
      text now policies hFacility hGuard.2 hRule]
    apply AlertStore.within_reuseOpen now _ hClosed
    intro refresh fresh hVerdict
    unfold thresholdVerdict at hVerdict
    split at hVerdict
    · cases hVerdict
    · simp only [Verdict.raised.injEq] at hVerdict
      rcases hVerdict with ⟨rfl, rfl⟩
      exact ⟨hRefreshed _, hCreated facility _⟩

end Alerts

end Icmp2

------------------------------------------------------------
-- The Anomaly Steps
------------------------------------------------------------

namespace Icmp2

namespace Alerts

open Monitoring AiEngine Library

variable {rule : RuleOf .threshold}
variable {q : AlarmEvent → Prop}

@[simp] theorem rules_checkGasThresholds
    (text : FloatText)
    (now : Instant)
    (policies : List ThresholdPolicy)
    (device : Device)
    (reading : GasReading)
    (store : AlertStore) :
    (checkGasThresholds
        text now policies device reading store).rules =
      store.rules := by
  unfold checkGasThresholds
  split
  · rfl
  · split
    · rfl
    · split
      · rfl
      · rw [AlertStore.rules_reuseOpen]

@[simp] theorem rules_triggerAnomalyAlarms
    (text : FloatText)
    (now : Instant)
    (device : Device)
    (results : List ZscoreResult)
    (store : AlertStore) :
    (triggerAnomalyAlarms
        text now device results store).rules =
      store.rules := by
  unfold triggerAnomalyAlarms
  split
  · rfl
  · split
    · rfl
    · split
      · rfl
      · rw [AlertStore.rules_reuseOpen]

@[simp] theorem rules_triggerChangepointAlarms
    (text : FloatText)
    (now : Instant)
    (device : Device)
    (results : List ChangePointResult)
    (store : AlertStore) :
    (triggerChangepointAlarms
        text now device results store).rules =
      store.rules := by
  unfold triggerChangepointAlarms
  split
  · rfl
  · split
    · rfl
    · exact
        run_invariant
          (I := fun later : AlertStore =>
            later.rules = store.rules)
          (fun later result hLater => by
            rw [changePointRound,
              AlertStore.rules_reuseOpen, hLater])
          rfl results

@[simp] theorem rules_triggerIfAnomalyAlarms
    (now : Instant)
    (device : Device)
    (result : Option IfResult)
    (store : AlertStore) :
    (triggerIfAnomalyAlarms
        now device result store).rules =
      store.rules := by
  unfold triggerIfAnomalyAlarms
  split
  · split
    · rfl
    · rw [AlertStore.rules_reuseOpen]
  · rfl

/- STEP D adds nothing to a selection of alarms. -/
theorem AlarmOnly.within_triggerAnomalyAlarms
    (hOnly : AlarmOnly rule.1 q)
    (text : FloatText)
    (now : Instant)
    (device : Device)
    (results : List ZscoreResult)
    {store : AlertStore}
    (hRule :
      activeRule store.rules .threshold = some rule) :
    Table.Within q
      (triggerAnomalyAlarms
        text now device results store).events
      store.events := by
  unfold triggerAnomalyAlarms
  split
  · exact Table.Within.refl _
  · split
    · exact Table.Within.refl _
    · simp only [hRule]
      apply AlertStore.within_reuseOpen now _
        (hOnly.closed now)
      intro refresh fresh hVerdict
      simp only [anomalyVerdict,
        Verdict.raised.injEq] at hVerdict
      rcases hVerdict with ⟨rfl, rfl⟩
      exact
        ⟨fun event _ => hOnly.refreshed _ _ _ event,
          hOnly.created _ rfl (Or.inl rfl)⟩

/- So does one round of STEP E. -/
theorem AlarmOnly.within_changePointRound
    (hOnly : AlarmOnly rule.1 q)
    (text : FloatText)
    (now : Instant)
    (facility device : Nat)
    (store : AlertStore)
    (result : ChangePointResult) :
    Table.Within q
      (changePointRound
        text now rule facility device store result).events
      store.events := by
  unfold changePointRound
  apply AlertStore.within_reuseOpen now _
    (hOnly.closed now)
  intro refresh fresh hVerdict
  unfold changePointVerdict at hVerdict
  split at hVerdict
  · cases hVerdict
  · simp only [Verdict.raised.injEq] at hVerdict
    rcases hVerdict with ⟨rfl, rfl⟩
    exact
      ⟨fun event _ => hOnly.refreshed _ _ _ event,
        hOnly.created _ rfl (Or.inl rfl)⟩
  · cases hVerdict

/- STEP E adds nothing to a selection of alarms. -/
theorem AlarmOnly.within_triggerChangepointAlarms
    (hOnly : AlarmOnly rule.1 q)
    (text : FloatText)
    (now : Instant)
    (device : Device)
    (results : List ChangePointResult)
    {store : AlertStore}
    (hRule :
      activeRule store.rules .threshold = some rule) :
    Table.Within q
      (triggerChangepointAlarms
        text now device results store).events
      store.events := by
  unfold triggerChangepointAlarms
  split
  · exact Table.Within.refl _
  · simp only [hRule]
    exact
      run_invariant
        (I := fun later : AlertStore =>
          Table.Within q later.events store.events)
        (fun later result hLater =>
          (hOnly.within_changePointRound
            text now _ device.id later result).trans
              hLater)
        (Table.Within.refl _) results

/- STEP F works under a rule of another type. -/
theorem AlarmOnly.within_triggerIfAnomalyAlarms
    (hOnly : AlarmOnly rule.1 q)
    (now : Instant)
    (device : Device)
    (result : Option IfResult)
    (store : AlertStore) :
    Table.Within q
      (triggerIfAnomalyAlarms
        now device result store).events
      store.events := by
  unfold triggerIfAnomalyAlarms
  split
  · split
    · exact Table.Within.refl _
    · rename_i aiRule _
      apply AlertStore.within_reuseOpen now _
        (hOnly.closed now)
      intro refresh fresh hVerdict
      unfold ifVerdict at hVerdict
      split at hVerdict
      · cases hVerdict
      · cases hVerdict
      · simp only [Verdict.raised.injEq] at hVerdict
        rcases hVerdict with ⟨rfl, rfl⟩
        refine
          ⟨fun event _ => hOnly.refreshed _ _ _ event,
            hOnly.created _ rfl (Or.inr ?_)⟩
        simp [newEvent, aiRule.2]
  · exact Table.Within.refl _

end Alerts

end Icmp2
