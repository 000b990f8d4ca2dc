import Icmp2.Alerts.Services
import Icmp2.Library.Program

/-
  The single writes of the detection steps.

  Main definitions include:
    * `Icmp2.Alerts.AlertStore.reuseProgram`
    * `Icmp2.Alerts.thresholdsProgram`
    * `Icmp2.Alerts.anomaliesProgram`
    * `Icmp2.Alerts.changepointsProgram`
    * `Icmp2.Alerts.isolationForestProgram`

  Main theorems include:
    * `Icmp2.Alerts.AlertStore.finish_reuseProgram`
    * `Icmp2.Alerts.finish_thresholdsProgram`
    * `Icmp2.Alerts.finish_anomaliesProgram`
    * `Icmp2.Alerts.finish_changepointsProgram`
    * `Icmp2.Alerts.finish_isolationForestProgram`

  No transaction holds the writes of a detection step
  together.  Each step is given again as the program of its
  writes, and finishes as the step does.
-/

------------------------------------------------------------
-- Writes of a Verdict
------------------------------------------------------------

namespace Icmp2

namespace Alerts

open Monitoring AiEngine Library

namespace AlertStore

def insertEvent
    (event : AlarmEvent)
    (store : AlertStore) :
    AlertStore :=
  { store with events := store.events.insert event }

/- `send_all_notifications.delay`. -/
def queueNotification
    (id : Nat)
    (store : AlertStore) :
    AlertStore :=
  { store with
    notifications := store.notifications ++ [id] }

def logClosing
    (id : Nat)
    (note : String)
    (store : AlertStore) :
    AlertStore :=
  { store with
    histories :=
      store.histories ++
        [{ alarmEvent := id
           actionType := "close"
           actionNote := note }] }

/- The writes of `create_alarm_event`. -/
def createProgram
    (event : AlarmEvent) :
    Program AlertStore :=
  Program.choose fun store =>
    (Program.write (insertEvent event)).andThen
      (Program.write
        (queueNotification store.events.nextId))

/- The writes of an automatic closing. -/
def closeProgram
    (now : Instant)
    (id : Nat)
    (note : String) :
    Program AlertStore :=
  (Program.write fun store =>
    store.refreshEvent id (AlarmEvent.close now)).andThen
      (Program.write (logClosing id note))

/- The writes of a verdict. -/
def reuseProgram
    (now : Instant)
    (p : AlarmEvent → Prop)
    [DecidablePred p]
    (verdict : Verdict) :
    Program AlertStore :=
  Program.choose fun store =>
    match verdict with
    | .hold => Program.skip
    | .recovered note =>
        match store.latest p with
        | none => Program.skip
        | some (id, _) => closeProgram now id note
    | .raised refresh fresh =>
        match store.latest p with
        | none => createProgram fresh
        | some (id, _) =>
            Program.write fun current =>
              current.refreshEvent id refresh

@[simp] theorem finish_createProgram
    (event : AlarmEvent)
    (store : AlertStore) :
    (createProgram event).finish store =
      store.createAlarmEvent event := by
  rfl

@[simp] theorem finish_closeProgram
    (now : Instant)
    (id : Nat)
    (note : String)
    (store : AlertStore) :
    (closeProgram now id note).finish store =
      store.autoClose now id note := by
  rfl

/- Uninterrupted, the writes are those of `reuseOpen`. -/
@[simp] theorem finish_reuseProgram
    (now : Instant)
    (p : AlarmEvent → Prop)
    [DecidablePred p]
    (verdict : Verdict)
    (store : AlertStore) :
    (reuseProgram now p verdict).finish store =
      store.reuseOpen now p verdict := by
  rw [reuseProgram, Program.finish_choose]
  cases verdict with
  | hold => rfl
  | recovered note =>
      cases hLatest : store.latest p with
      | none => simp [reuseOpen, hLatest]
      | some best => simp [reuseOpen, hLatest]
  | raised refresh fresh =>
      cases hLatest : store.latest p with
      | none => simp [reuseOpen, hLatest]
      | some best => simp [reuseOpen, hLatest]

end AlertStore

end Alerts

end Icmp2

------------------------------------------------------------
-- Writes of the Steps
------------------------------------------------------------

namespace Icmp2

namespace Alerts

open Monitoring AiEngine Library

/- Writes under the first active rule, if there is one. -/
def underRule
    (ruleType : RuleType)
    (program : RuleOf ruleType → Program AlertStore) :
    Program AlertStore :=
  Program.choose fun store =>
    match activeRule store.rules ruleType with
    | none => Program.skip
    | some rule => program rule

/- STEP B. -/
def thresholdsProgram
    (text : FloatText)
    (now : Instant)
    (policies : List ThresholdPolicy)
    (device : Device)
    (reading : GasReading) :
    Program AlertStore :=
  match device.facility with
  | none => Program.skip
  | some facility =>
      if reading.qualityFlag ≠ .ok then
        Program.skip
      else
        underRule .threshold fun rule =>
          AlertStore.reuseProgram now
            (OpenUnder rule.1 device.id)
            (thresholdVerdict text now rule facility
              device.id
              (checkThresholdExceeded
                policies reading alarmScope))

/- STEP D. -/
def anomaliesProgram
    (text : FloatText)
    (now : Instant)
    (device : Device)
    (results : List ZscoreResult) :
    Program AlertStore :=
  match device.facility with
  | none => Program.skip
  | some facility =>
      if anomalies results = [] then
        Program.skip
      else
        underRule .threshold fun rule =>
          AlertStore.reuseProgram now
            (OpenAnomaly rule.1 device.id)
            (anomalyVerdict text now rule facility
              device.id (anomalies results))

/- STEP E. -/
def changepointsProgram
    (text : FloatText)
    (now : Instant)
    (device : Device)
    (results : List ChangePointResult) :
    Program AlertStore :=
  match device.facility with
  | none => Program.skip
  | some facility =>
      underRule .threshold fun rule =>
        Program.forEach
          (fun result =>
            AlertStore.reuseProgram now
              (OpenChangePoint rule.1 device.id
                result.metric)
              (changePointVerdict text now rule facility
                device.id result))
          results

/- STEP F. -/
def isolationForestProgram
    (now : Instant)
    (device : Device)
    (result : Option IfResult) :
    Program AlertStore :=
  match result, device.facility with
  | some result, some facility =>
      underRule .ai fun rule =>
        AlertStore.reuseProgram now
          (OpenUnder rule.1 device.id)
          (ifVerdict now rule facility device.id result)
  | _, _ => Program.skip

variable {ruleType : RuleType}
variable {program : RuleOf ruleType → Program AlertStore}
variable {store : AlertStore}

theorem finish_underRule_of_none
    (hNone : activeRule store.rules ruleType = none) :
    (underRule ruleType program).finish store = store := by
  rw [underRule, Program.finish_choose, hNone,
    Program.finish_skip]

theorem finish_underRule_of_some
    {rule : RuleOf ruleType}
    (hRule : activeRule store.rules ruleType = some rule) :
    (underRule ruleType program).finish store =
      (program rule).finish store := by
  rw [underRule, Program.finish_choose, hRule]

@[simp] theorem finish_thresholdsProgram
    (text : FloatText)
    (now : Instant)
    (policies : List ThresholdPolicy)
    (device : Device)
    (reading : GasReading)
    (store : AlertStore) :
    (thresholdsProgram
        text now policies device reading).finish store =
      checkGasThresholds
        text now policies device reading store := by
  unfold thresholdsProgram checkGasThresholds
  cases device.facility with
  | none => rfl
  | some facility =>
      by_cases hFlag : reading.qualityFlag ≠ .ok
      · simp only [if_pos hFlag, Program.finish_skip]
      · simp only [if_neg hFlag]
        cases hRule : activeRule store.rules .threshold with
        | none => rw [finish_underRule_of_none hRule]
        | some rule =>
            rw [finish_underRule_of_some hRule,
              AlertStore.finish_reuseProgram]

@[simp] theorem finish_anomaliesProgram
    (text : FloatText)
    (now : Instant)
    (device : Device)
    (results : List ZscoreResult)
    (store : AlertStore) :
    (anomaliesProgram text now device results).finish
        store =
      triggerAnomalyAlarms text now device results store := by
  unfold anomaliesProgram triggerAnomalyAlarms
  cases device.facility with
  | none => rfl
  | some facility =>
      by_cases hFound : anomalies results = []
      · simp only [if_pos hFound, Program.finish_skip]
      · simp only [if_neg hFound]
        cases hRule : activeRule store.rules .threshold with
        | none => rw [finish_underRule_of_none hRule]
        | some rule =>
            rw [finish_underRule_of_some hRule,
              AlertStore.finish_reuseProgram]

@[simp] theorem finish_changepointsProgram
    (text : FloatText)
    (now : Instant)
    (device : Device)
    (results : List ChangePointResult)
    (store : AlertStore) :
    (changepointsProgram text now device results).finish
        store =
      triggerChangepointAlarms
        text now device results store := by
  unfold changepointsProgram triggerChangepointAlarms
  cases device.facility with
  | none => rfl
  | some facility =>
      dsimp only
      cases hRule : activeRule store.rules .threshold with
      | none => rw [finish_underRule_of_none hRule]
      | some rule =>
          rw [finish_underRule_of_some hRule,
            Program.finish_forEach]
          simp only [AlertStore.finish_reuseProgram]
          rfl

@[simp] theorem finish_isolationForestProgram
    (now : Instant)
    (device : Device)
    (result : Option IfResult)
    (store : AlertStore) :
    (isolationForestProgram now device result).finish
        store =
      triggerIfAnomalyAlarms now device result store := by
  unfold isolationForestProgram triggerIfAnomalyAlarms
  cases result with
  | none => rfl
  | some result =>
      cases device.facility with
      | none => rfl
      | some facility =>
          dsimp only
          cases hRule : activeRule store.rules .ai with
          | none => rw [finish_underRule_of_none hRule]
          | some rule =>
              rw [finish_underRule_of_some hRule,
                AlertStore.finish_reuseProgram]

end Alerts

end Icmp2
