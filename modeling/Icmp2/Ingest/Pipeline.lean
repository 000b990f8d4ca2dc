import Icmp2.Alerts.Selections
import Icmp2.Facilities.Geofence

/-
  The gas ingestion pipeline.

  Main definitions include:
    * `Icmp2.Ingest.Site`
    * `Icmp2.Ingest.GasIngest`
    * `Icmp2.Ingest.processGasIngest`
    * `Icmp2.Ingest.ingestStep`
    * `Icmp2.Ingest.arrival?`

  Main theorems include:
    * `Icmp2.Ingest.ingestStep_of_arrival`
    * `Icmp2.Ingest.ingestStep_of_no_arrival`
    * `Icmp2.Ingest.within_afterIsolationForest`

  A call of the pipeline carries its clock and the answers
  of the detectors, which are computed elsewhere.
-/

------------------------------------------------------------
-- Calls
------------------------------------------------------------

namespace Icmp2

namespace Ingest

open Monitoring Alerts Facilities Library

/-
  The entry `measured_at` of a payload: left out or empty,
  not of the format, of the format but no date, or a time.
-/
inductive PayloadTime where
  | absent
  | unreadable
  | impossible
  | given (measuredAt : Instant)
  deriving DecidableEq, Repr

structure GasPayload where
  deviceUid : String
  value : Gas → Option ℚ
  measuredAt : PayloadTime

/- One call of `process_gas_ingest`. -/
structure GasIngest where
  now : Instant
  payload : GasPayload
  zscoreResults : List ZscoreResult
  cpResults : List ChangePointResult
  ifResult : Option IfResult

/- The two exceptions that a call can raise. -/
inductive IngestError where
  | invalidTime
  | duplicateReading
  deriving DecidableEq, Repr

/- What the pipeline reads and writes. -/
structure Site where
  devices : List Device
  sensors : List SensorLocation
  policies : List ThresholdPolicy
  readings : Table GasReading
  alerts : AlertStore
  geofences : Table Geofence
  forecastQueue : List GasPayload

/- The time that the pipeline stores for a payload. -/
def PayloadTime.resolve
    (now : Instant) :
    PayloadTime → Except IngestError Instant
  | absent => .ok now
  | unreadable => .ok now
  | impossible => .error .invalidTime
  | given measuredAt => .ok measuredAt

/- The time of a call that does not fail on its time. -/
def GasIngest.measuredAt
    (call : GasIngest) :
    Instant :=
  match call.payload.measuredAt with
  | .given measuredAt => measuredAt
  | _ => call.now

theorem resolve_eq_ok_iff
    (call : GasIngest)
    (measuredAt : Instant) :
    call.payload.measuredAt.resolve call.now =
        .ok measuredAt ↔
      call.payload.measuredAt ≠ .impossible ∧
        measuredAt = call.measuredAt := by
  unfold GasIngest.measuredAt
  cases call.payload.measuredAt <;>
    simp [PayloadTime.resolve, eq_comm]

/- The device with the given uid. -/
def findDevice
    (devices : List Device)
    (deviceUid : String) :
    Option Device :=
  devices.find? fun device => device.deviceUid = deviceUid

/- The row that a call inserts. -/
def newReading
    (site : Site)
    (device : Device)
    (payload : GasPayload)
    (measuredAt : Instant) :
    GasReading where
  id := site.readings.nextId
  device := device.id
  value := payload.value
  measuredAt := measuredAt
  qualityFlag := qualityFlag payload.value

/- A row of the same device and time is stored already. -/
def Stored
    (readings : Table GasReading)
    (reading : GasReading) :
    Prop :=
  ∃ row ∈ readings.rows,
    row.device = reading.device ∧
      row.measuredAt = reading.measuredAt

instance
    (readings : Table GasReading)
    (reading : GasReading) :
    Decidable (Stored readings reading) := by
  unfold Stored
  infer_instance

end Ingest

end Icmp2

------------------------------------------------------------
-- The Pipeline
------------------------------------------------------------

namespace Icmp2

namespace Ingest

open Monitoring Alerts Facilities Library

/- The alerts after STEP B of a call. -/
def afterThresholds
    (text : FloatText)
    (site : Site)
    (call : GasIngest)
    (device : Device)
    (reading : GasReading) :
    AlertStore :=
  checkGasThresholds
    text call.now site.policies device reading site.alerts

/- The alerts after STEP D. -/
def afterAnomalies
    (text : FloatText)
    (site : Site)
    (call : GasIngest)
    (device : Device)
    (reading : GasReading) :
    AlertStore :=
  triggerAnomalyAlarms
    text call.now device call.zscoreResults
    (afterThresholds text site call device reading)

/- The alerts after STEP E. -/
def afterChangepoints
    (text : FloatText)
    (site : Site)
    (call : GasIngest)
    (device : Device)
    (reading : GasReading) :
    AlertStore :=
  triggerChangepointAlarms
    text call.now device call.cpResults
    (afterAnomalies text site call device reading)

/- The alerts after STEP F. -/
def afterIsolationForest
    (text : FloatText)
    (site : Site)
    (call : GasIngest)
    (device : Device)
    (reading : GasReading) :
    AlertStore :=
  triggerIfAnomalyAlarms
    call.now device call.ifResult
    (afterChangepoints text site call device reading)

/-
  Everything from the insertion of the reading on: steps B,
  D, E and F, the task of STEP G, and the geofence.
-/
def processReading
    (text : FloatText)
    (site : Site)
    (call : GasIngest)
    (device : Device)
    (reading : GasReading) :
    Site :=
  { site with
    readings := site.readings.insert reading
    alerts :=
      afterIsolationForest text site call device reading
    forecastQueue := site.forecastQueue ++ [call.payload]
    geofences :=
      syncGeofence
        call.now site.policies site.sensors reading
        site.geofences }

/- `process_gas_ingest`. -/
def processGasIngest
    (text : FloatText)
    (site : Site)
    (call : GasIngest) :
    Except IngestError Site :=
  match findDevice site.devices call.payload.deviceUid with
  | none => .ok site
  | some device =>
      if device.isActive = false ∨
          device.status ≠ "active" then
        .ok site
      else
        match call.payload.measuredAt.resolve call.now with
        | .error error => .error error
        | .ok measuredAt =>
            let reading :=
              newReading site device call.payload measuredAt
            if Stored site.readings reading then
              .error .duplicateReading
            else
              .ok
                (processReading
                  text site call device reading)

/- A task whose call raised is retried; nothing is kept. -/
def ingestStep
    (text : FloatText)
    (site : Site)
    (call : GasIngest) :
    Site :=
  match processGasIngest text site call with
  | .ok later => later
  | .error _ => site

/- The device and the row of a call that gets to insert. -/
def arrival?
    (site : Site)
    (call : GasIngest) :
    Option (Device × GasReading) :=
  match findDevice site.devices call.payload.deviceUid with
  | none => none
  | some device =>
      if device.isActive = false ∨
          device.status ≠ "active" then
        none
      else
        match call.payload.measuredAt.resolve call.now with
        | .error _ => none
        | .ok measuredAt =>
            let reading :=
              newReading site device call.payload measuredAt
            if Stored site.readings reading then
              none
            else
              some (device, reading)

/- When a call gets to insert, and what. -/
theorem arrival?_eq_some_iff
    (site : Site)
    (call : GasIngest)
    (arrival : Device × GasReading) :
    arrival? site call = some arrival ↔
      findDevice site.devices call.payload.deviceUid =
          some arrival.1 ∧
        arrival.1.isActive = true ∧
        arrival.1.status = "active" ∧
        call.payload.measuredAt ≠ .impossible ∧
        arrival.2 =
          newReading site arrival.1 call.payload
            call.measuredAt ∧
        ¬ Stored site.readings arrival.2 := by
  unfold arrival?
  cases hFound :
      findDevice site.devices call.payload.deviceUid with
  | none => simp
  | some device =>
      simp only [Option.some.injEq]
      by_cases hOff :
          device.isActive = false ∨ device.status ≠ "active"
      · simp only [if_pos hOff]
        constructor
        · intro hNone
          cases hNone
        · rintro ⟨rfl, hActive, hStatus, _⟩
          simp [hActive, hStatus] at hOff
      · simp only [if_neg hOff]
        push Not at hOff
        cases hTime :
            call.payload.measuredAt.resolve call.now with
        | error error =>
            constructor
            · intro hNone
              cases hNone
            · rintro ⟨_, _, _, hPossible, _⟩
              have hOk :=
                (resolve_eq_ok_iff
                  call call.measuredAt).mpr ⟨hPossible, rfl⟩
              rw [hTime] at hOk
              cases hOk
        | ok measuredAt =>
            rcases (resolve_eq_ok_iff
              call measuredAt).mp hTime with
              ⟨hPossible, rfl⟩
            by_cases hStored :
                Stored site.readings
                  (newReading site device call.payload
                    call.measuredAt)
            · simp only [if_pos hStored]
              constructor
              · intro hNone
                cases hNone
              · rintro ⟨rfl, _, _, _, hReading, hNew⟩
                rw [hReading] at hNew
                exact absurd hStored hNew
            · simp only [if_neg hStored]
              constructor
              · intro hSome
                rcases Option.some.inj hSome with rfl
                exact
                  ⟨rfl, Bool.eq_true_of_not_eq_false hOff.1,
                    hOff.2, hPossible, rfl, hStored⟩
              · rintro ⟨rfl, _, _, _, hReading, _⟩
                rw [← hReading]

/- A call steps as its arrival, if there is one, says. -/
theorem ingestStep_eq
    (text : FloatText)
    (site : Site)
    (call : GasIngest) :
    ingestStep text site call =
      match arrival? site call with
      | none => site
      | some arrival =>
          processReading
            text site call arrival.1 arrival.2 := by
  unfold ingestStep processGasIngest arrival?
  cases findDevice
      site.devices call.payload.deviceUid with
  | none => rfl
  | some device =>
      by_cases hOff :
          device.isActive = false ∨ device.status ≠ "active"
      · simp only [if_pos hOff]
      · simp only [if_neg hOff]
        cases call.payload.measuredAt.resolve call.now with
        | error error => rfl
        | ok measuredAt =>
            by_cases hStored :
                Stored site.readings
                  (newReading
                    site device call.payload measuredAt)
            · simp only [if_pos hStored]
            · simp only [if_neg hStored]

theorem ingestStep_of_arrival
    {site : Site}
    {call : GasIngest}
    {arrival : Device × GasReading}
    (text : FloatText)
    (hArrival : arrival? site call = some arrival) :
    ingestStep text site call =
      processReading
        text site call arrival.1 arrival.2 := by
  rw [ingestStep_eq, hArrival]

theorem ingestStep_of_no_arrival
    {site : Site}
    {call : GasIngest}
    (text : FloatText)
    (hNone : arrival? site call = none) :
    ingestStep text site call = site := by
  rw [ingestStep_eq, hNone]

/- A call never changes devices, sensors and policies. -/
theorem ingestStep_static
    (text : FloatText)
    (site : Site)
    (call : GasIngest) :
    (ingestStep text site call).devices = site.devices ∧
      (ingestStep text site call).sensors = site.sensors ∧
      (ingestStep text site call).policies =
        site.policies := by
  cases hArrival : arrival? site call with
  | none =>
      rw [ingestStep_of_no_arrival text hArrival]
      exact ⟨rfl, rfl, rfl⟩
  | some arrival =>
      rw [ingestStep_of_arrival text hArrival]
      exact ⟨rfl, rfl, rfl⟩

end Ingest

end Icmp2

------------------------------------------------------------
-- Alerts Through a Call
------------------------------------------------------------

namespace Icmp2

namespace Ingest

open Monitoring Alerts Facilities Library

variable {text : FloatText}
variable {site : Site}
variable {call : GasIngest}
variable {device : Device}
variable {reading : GasReading}

@[simp] theorem rules_afterThresholds :
    (afterThresholds
        text site call device reading).rules =
      site.alerts.rules := by
  simp [afterThresholds]

@[simp] theorem rules_afterAnomalies :
    (afterAnomalies
        text site call device reading).rules =
      site.alerts.rules := by
  simp [afterAnomalies]

@[simp] theorem rules_afterChangepoints :
    (afterChangepoints
        text site call device reading).rules =
      site.alerts.rules := by
  simp [afterChangepoints]

@[simp] theorem rules_afterIsolationForest :
    (afterIsolationForest
        text site call device reading).rules =
      site.alerts.rules := by
  simp [afterIsolationForest]

/- A call never changes the rules. -/
@[simp] theorem rules_ingestStep
    (text : FloatText)
    (site : Site)
    (call : GasIngest) :
    (ingestStep text site call).alerts.rules =
      site.alerts.rules := by
  cases hArrival : arrival? site call with
  | none => rw [ingestStep_of_no_arrival text hArrival]
  | some arrival =>
      rw [ingestStep_of_arrival text hArrival]
      exact rules_afterIsolationForest

variable {rule : RuleOf .threshold}
variable {q : AlarmEvent → Prop}

/- From STEP B on, a selection of alarms only shrinks. -/
theorem within_afterAnomalies
    (hOnly : AlarmOnly rule.1 q)
    (hRule :
      activeRule site.alerts.rules .threshold =
        some rule) :
    Table.Within q
      (afterAnomalies text site call device reading).events
      (afterThresholds
        text site call device reading).events :=
  hOnly.within_triggerAnomalyAlarms
    text call.now device call.zscoreResults
    (by rw [rules_afterThresholds, hRule])

theorem within_afterChangepoints
    (hOnly : AlarmOnly rule.1 q)
    (hRule :
      activeRule site.alerts.rules .threshold =
        some rule) :
    Table.Within q
      (afterChangepoints
        text site call device reading).events
      (afterThresholds
        text site call device reading).events :=
  (hOnly.within_triggerChangepointAlarms
    text call.now device call.cpResults
    (by rw [rules_afterAnomalies, hRule])).trans
      (within_afterAnomalies hOnly hRule)

theorem within_afterIsolationForest
    (hOnly : AlarmOnly rule.1 q)
    (hRule :
      activeRule site.alerts.rules .threshold =
        some rule) :
    Table.Within q
      (afterIsolationForest
        text site call device reading).events
      (afterThresholds
        text site call device reading).events :=
  (hOnly.within_triggerIfAnomalyAlarms
    call.now device call.ifResult _).trans
      (within_afterChangepoints hOnly hRule)

end Ingest

end Icmp2
