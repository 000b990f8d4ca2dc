import Icmp2.Alerts.Writes
import Icmp2.Ingest.OneAlarm
import Icmp2.Monitoring.Window

/-
  Retries of an ingestion that raised after its insertion.

  Main definitions include:
    * `Icmp2.Ingest.Plant`
    * `Icmp2.Ingest.raisingPart`
    * `Icmp2.Ingest.ingestProgram`
    * `Icmp2.Ingest.ingestGasTask`
    * `Icmp2.Ingest.retryIngest`
    * `Icmp2.Ingest.RaisedAfterInsert`

  Main theorems include:
    * `Icmp2.Ingest.toSite_finish_ingestProgram`
    * `Icmp2.Ingest.stops_ingestProgram_iff`
    * `Icmp2.Ingest.ingestPlant_refines`
    * `Icmp2.Ingest.retry_never_completes`

  The pipeline is given as the program of its single
  writes; an exception keeps the writes before it.
-/

------------------------------------------------------------
-- The Writes of the Pipeline
------------------------------------------------------------

namespace Icmp2

namespace Ingest

open Monitoring Alerts Facilities Library

/- The site, with the window buffers of the worker. -/
structure Plant extends Site where
  buffers : Buffers

namespace Plant

def insertReading
    (reading : GasReading)
    (plant : Plant) :
    Plant :=
  { plant with readings := plant.readings.insert reading }

/- STEP C. -/
def pushWindow
    (device : Device)
    (reading : GasReading)
    (plant : Plant) :
    Plant :=
  { plant with
    buffers :=
      pushReading device.deviceUid reading plant.buffers }

def rowsOf
    (plant : Plant)
    (device : Device) :
    List GasReading :=
  plant.readings.rows.filter fun row =>
    row.device = device.id

/- STEP E reads a window, and restores it if it is empty. -/
def readWindow
    (device : Device)
    (gas : Gas)
    (plant : Plant) :
    Plant :=
  { plant with
    buffers :=
      (windowGet (plant.rowsOf device) device.deviceUid gas
        bufferSize plant.buffers).2 }

def setAlerts
    (alerts : AlertStore)
    (plant : Plant) :
    Plant :=
  { plant with alerts := alerts }

/- `forecast_gas_task.delay`. -/
def queueForecast
    (payload : GasPayload)
    (plant : Plant) :
    Plant :=
  { plant with
    forecastQueue := plant.forecastQueue ++ [payload] }

/- The callers catch the exceptions of an update. -/
def updateGeofence
    (now : Instant)
    (reading : GasReading)
    (plant : Plant) :
    Plant :=
  { plant with
    geofences :=
      syncGeofence now plant.policies plant.sensors reading
        plant.geofences }

end Plant

/- Writes to the alerts alone. -/
def onAlerts
    (program : Program AlertStore) :
    Program Plant :=
  program.lift (fun plant => plant.alerts) Plant.setAlerts

/-
  From the insertion to STEP G: whatever raises here leaves
  the pipeline.  STEP G itself is not part of it, as a call
  that raises has queued nothing.
-/
def raisingPart
    (text : FloatText)
    (call : GasIngest)
    (device : Device)
    (reading : GasReading) :
    Program Plant :=
  (Program.write (Plant.pushWindow device reading)).andThen
  ((Program.choose fun plant =>
    onAlerts
      (thresholdsProgram
        text call.now plant.policies device
        reading)).andThen
  ((onAlerts
    (anomaliesProgram
      text call.now device call.zscoreResults)).andThen
  ((Program.forEach
    (fun gas =>
      Program.write (Plant.readWindow device gas))
    cpGasFields).andThen
  ((onAlerts
    (changepointsProgram
      text call.now device call.cpResults)).andThen
  (onAlerts
    (isolationForestProgram
      call.now device call.ifResult))))))

/- All writes of a call that gets to insert. -/
def ingestProgram
    (text : FloatText)
    (call : GasIngest)
    (device : Device)
    (reading : GasReading) :
    Program Plant :=
  (Program.write (Plant.insertReading reading)).andThen
  ((raisingPart text call device reading).andThen
  ((Program.write
    (Plant.queueForecast call.payload)).andThen
  (Program.write
    (Plant.updateGeofence call.now reading))))

end Ingest

end Icmp2

------------------------------------------------------------
-- The Task
------------------------------------------------------------

namespace Icmp2

namespace Ingest

open Monitoring Alerts Facilities Library

/- `process_gas_ingest`, with the window buffers. -/
def ingestPlant
    (text : FloatText)
    (plant : Plant)
    (call : GasIngest) :
    Except IngestError Plant :=
  match findDevice plant.devices call.payload.deviceUid with
  | none => .ok plant
  | some device =>
      if device.isActive = false ∨
          device.status ≠ "active" then
        .ok plant
      else
        match call.payload.measuredAt.resolve call.now with
        | .error error => .error error
        | .ok measuredAt =>
            let reading :=
              newReading plant.toSite device call.payload
                measuredAt
            if Stored plant.readings reading then
              .error .duplicateReading
            else
              .ok
                ((ingestProgram
                  text call device reading).finish plant)

/- `ingest_gas_task`, one attempt. -/
def ingestGasTask
    (text : FloatText)
    (plant : Plant)
    (call : GasIngest) :
    Except IngestError Plant :=
  if call.payload.deviceUid = "" then
    .ok plant
  else
    ingestPlant text plant call

/-
  The retries of a task, until one does not raise.  Both
  exceptions come before the first write.
-/
def retryIngest
    (text : FloatText)
    (plant : Plant) :
    List GasIngest → Plant
  | [] => plant
  | call :: calls =>
      match ingestGasTask text plant call with
      | .ok later => later
      | .error _ => retryIngest text plant calls

/-
  The states that an exception between the insertion and
  the end of STEP G can leave.
-/
def RaisedAfterInsert
    (text : FloatText)
    (plant : Plant)
    (call : GasIngest)
    (failed : Plant) :
    Prop :=
  call.payload.deviceUid ≠ "" ∧
    ∃ arrival,
      arrival? plant.toSite call = some arrival ∧
        (raisingPart text call arrival.1 arrival.2).Stops
          (plant.insertReading arrival.2) failed

/-
  As many readings and as many forecast tasks: the least
  that two equal outcomes have in common.
-/
def SameCounts
    (left right : Plant) :
    Prop :=
  left.readings.nextId = right.readings.nextId ∧
    left.forecastQueue.length = right.forecastQueue.length

instance
    (left right : Plant) :
    Decidable (SameCounts left right) := by
  unfold SameCounts
  infer_instance

end Ingest

end Icmp2

------------------------------------------------------------
-- Refinement
------------------------------------------------------------

namespace Icmp2

namespace Ingest

open Monitoring Alerts Facilities Library

theorem finish_onAlerts
    (program : Program AlertStore)
    (plant : Plant) :
    (onAlerts program).finish plant =
      plant.setAlerts (program.finish plant.alerts) :=
  Program.finish_lift _ _ (fun _ => rfl) program plant

/- The windows are no part of the site. -/
theorem toSite_readWindows
    (device : Device)
    (gases : List Gas)
    (plant : Plant) :
    ((Program.forEach
      (fun gas =>
        Program.write (Plant.readWindow device gas))
      gases).finish plant).toSite = plant.toSite := by
  rw [Program.finish_forEach]
  simp only [Program.finish_write]
  refine
    run_invariant
      (I := fun later : Plant => later.toSite = plant.toSite)
      ?_ rfl gases
  intro later gas hLater
  exact hLater

/- Uninterrupted, the writes are those of the pipeline. -/
theorem toSite_finish_ingestProgram
    (text : FloatText)
    (plant : Plant)
    (call : GasIngest)
    (device : Device)
    (reading : GasReading) :
    ((ingestProgram
        text call device reading).finish plant).toSite =
      processReading text plant.toSite call device
        reading := by
  simp only [ingestProgram, raisingPart,
    Program.finish_andThen, Program.finish_write,
    Program.finish_choose, finish_onAlerts,
    finish_thresholdsProgram, finish_anomaliesProgram,
    finish_changepointsProgram,
    finish_isolationForestProgram]
  simp only [Plant.updateGeofence, Plant.queueForecast,
    Plant.setAlerts, toSite_readWindows]
  rfl

/-
  The states of a call: before the insertion, up to STEP G,
  after STEP G, and after the geofence.
-/
theorem stops_ingestProgram_iff
    (text : FloatText)
    (plant stopped : Plant)
    (call : GasIngest)
    (device : Device)
    (reading : GasReading) :
    (ingestProgram text call device reading).Stops
        plant stopped ↔
      stopped = plant ∨
        (raisingPart text call device reading).Stops
          (plant.insertReading reading) stopped ∨
        stopped =
          ((raisingPart text call device reading).finish
            (plant.insertReading reading)).queueForecast
              call.payload ∨
        stopped =
          (ingestProgram text call device reading).finish
            plant := by
  have hStart :
      (raisingPart text call device reading).Stops
        (plant.insertReading reading)
        (plant.insertReading reading) :=
    Or.inl rfl
  have hEnd :=
    Program.stops_finish
      (raisingPart text call device reading)
      (plant.insertReading reading)
  simp only [ingestProgram, Program.stops_andThen_iff,
    Program.stops_write_iff, Program.finish_andThen,
    Program.finish_write]
  constructor
  · rintro ((hBefore | rfl) | hRaising |
      (rfl | hQueued) | (hQueued | hFinal))
    · exact Or.inl hBefore
    · exact Or.inr (Or.inl hStart)
    · exact Or.inr (Or.inl hRaising)
    · exact Or.inr (Or.inl hEnd)
    · exact Or.inr (Or.inr (Or.inl hQueued))
    · exact Or.inr (Or.inr (Or.inl hQueued))
    · exact Or.inr (Or.inr (Or.inr hFinal))
  · rintro (hBefore | hRaising | hQueued | hFinal)
    · exact Or.inl (Or.inl hBefore)
    · exact Or.inr (Or.inl hRaising)
    · exact Or.inr (Or.inr (Or.inl (Or.inr hQueued)))
    · exact Or.inr (Or.inr (Or.inr (Or.inr hFinal)))

/- A task that raises raises as on the site alone. -/
theorem ingestPlant_refines
    (text : FloatText)
    (plant : Plant)
    (call : GasIngest) :
    (ingestPlant text plant call).map Plant.toSite =
      processGasIngest text plant.toSite call := by
  unfold ingestPlant processGasIngest
  cases findDevice
      plant.devices call.payload.deviceUid with
  | none => rfl
  | some device =>
      by_cases hOff :
          device.isActive = false ∨ device.status ≠ "active"
      · simp only [if_pos hOff]
        rfl
      · simp only [if_neg hOff]
        cases call.payload.measuredAt.resolve call.now with
        | error error => rfl
        | ok measuredAt =>
            by_cases hStored :
                Stored plant.readings
                  (newReading plant.toSite device
                    call.payload measuredAt)
            · simp only [if_pos hStored]
              rfl
            · simp only [if_neg hStored]
              rw [Except.map,
                toSite_finish_ingestProgram]

end Ingest

end Icmp2

------------------------------------------------------------
-- Retries
------------------------------------------------------------

namespace Icmp2

namespace Ingest

open Monitoring Alerts Facilities Library

/- How many more readings than forecast tasks there are. -/
def lead
    (plant : Plant) :
    Int :=
  plant.readings.nextId - plant.forecastQueue.length

theorem keeps_onAlerts
    (program : Program AlertStore) :
    (onAlerts program).Keeps lead := by
  apply Program.keeps_lift
  intro alerts plant
  rfl

/- Between insertion and STEP G the lead stays. -/
theorem keeps_raisingPart
    (text : FloatText)
    (call : GasIngest)
    (device : Device)
    (reading : GasReading) :
    (raisingPart text call device reading).Keeps lead := by
  have hPush :
      (Program.write
        (Plant.pushWindow device reading)).Keeps lead := by
    apply Program.keeps_write
    intro plant
    rfl
  have hReads :
      (Program.forEach
        (fun gas =>
          Program.write (Plant.readWindow device gas))
        cpGasFields).Keeps lead := by
    apply Program.keeps_forEach
    intro gas
    apply Program.keeps_write
    intro plant
    rfl
  refine hPush.andThen (Program.Keeps.andThen ?_ ?_)
  · apply Program.keeps_choose
    intro plant
    exact keeps_onAlerts _
  · exact
      (keeps_onAlerts _).andThen
        (hReads.andThen
          ((keeps_onAlerts _).andThen (keeps_onAlerts _)))

variable {text : FloatText}
variable {plant failed later : Plant}
variable {call : GasIngest}

/- The failure leaves one reading without its task. -/
theorem lead_failed
    (hFailed : RaisedAfterInsert text plant call failed) :
    lead failed = lead plant + 1 := by
  rcases hFailed with ⟨_, arrival, _, hStops⟩
  rw [(keeps_raisingPart _ _ _ _).of_stops hStops]
  simp only [lead, Plant.insertReading, Table.nextId,
    Table.insert, List.length_append, List.length_singleton]
  omega

/- On the site, an attempt that returns is a step. -/
theorem toSite_of_ingestGasTask
    (hTask : ingestGasTask text plant call = .ok later) :
    later.toSite = plant.toSite ∨
      later.toSite =
        ingestStep text plant.toSite call := by
  unfold ingestGasTask at hTask
  split at hTask
  · cases hTask
    exact Or.inl rfl
  · have hSite := ingestPlant_refines text plant call
    rw [hTask] at hSite
    rw [ingestStep, ← hSite]
    exact Or.inr rfl

/- A step inserts and queues once, or does neither. -/
theorem lead_ingestStep
    (text : FloatText)
    (site : Site)
    (call : GasIngest) :
    ((ingestStep text site call).readings.nextId : Int) -
        (ingestStep text site call).forecastQueue.length =
      site.readings.nextId - site.forecastQueue.length := by
  cases hArrival : arrival? site call with
  | none => rw [ingestStep_of_no_arrival text hArrival]
  | some arrival =>
      rw [ingestStep_of_arrival text hArrival]
      simp only [processReading, Table.nextId, Table.insert,
        List.length_append, List.length_singleton]
      omega

theorem lead_ingestGasTask
    (hTask : ingestGasTask text plant call = .ok later) :
    lead later = lead plant := by
  unfold lead
  rcases toSite_of_ingestGasTask hTask with hSite | hSite
  · rw [hSite]
  · rw [hSite]
    exact lead_ingestStep text plant.toSite call

/- No retry makes up for the lead. -/
theorem lead_retryIngest
    (text : FloatText)
    (plant : Plant)
    (retries : List GasIngest) :
    lead (retryIngest text plant retries) = lead plant := by
  induction retries with
  | nil => rfl
  | cons call retries ih =>
      rw [retryIngest]
      cases hTask : ingestGasTask text plant call with
      | ok later => exact lead_ingestGasTask hTask
      | error error => exact ih

/-
  Wherever the pipeline raises after the insertion, and
  whatever the retries: the outcome is not that of the call
  that did not raise.
-/
theorem retry_never_completes
    (text : FloatText)
    {plant failed unfailed : Plant}
    {call : GasIngest}
    (hFailed : RaisedAfterInsert text plant call failed)
    (hUnfailed :
      ingestGasTask text plant call = .ok unfailed)
    (retries : List GasIngest) :
    ¬ SameCounts
        (retryIngest text failed retries) unfailed := by
  rintro ⟨hReadings, hQueue⟩
  have hLead :
      lead (retryIngest text failed retries) =
        lead unfailed := by
    rw [lead, lead, hReadings, hQueue]
  rw [lead_retryIngest, lead_failed hFailed,
    lead_ingestGasTask hUnfailed] at hLead
  omega

/- The site with a worker that has just started. -/
def gasPlant : Plant :=
  { gasSite with buffers := Buffers.started }

/- A reading with a dangerous value of co. -/
def dangerCall : GasIngest :=
  airCall 1 250 []

def dangerReading : GasReading :=
  newReading gasSite gasDevice dangerCall.payload 1

/- The call raised right after its insertion. -/
def failedPlant : Plant :=
  gasPlant.insertReading dangerReading

/- The call did not raise. -/
def unfailedPlant : Plant :=
  (ingestProgram
    wholeText dangerCall gasDevice dangerReading).finish
      gasPlant

/- The three retries, ten seconds apart. -/
def dangerRetries : List GasIngest :=
  [{ dangerCall with now := 10000001 },
    { dangerCall with now := 20000001 },
    { dangerCall with now := 30000001 }]

theorem danger_raised :
    RaisedAfterInsert
      wholeText gasPlant dangerCall failedPlant :=
  ⟨by decide, (gasDevice, dangerReading), rfl, Or.inl rfl⟩

theorem danger_unfailed :
    ingestGasTask wholeText gasPlant dangerCall =
      .ok unfailedPlant := by
  rfl

/- The three retries of a dangerous reading. -/
theorem retry_never_completes_danger :
    ¬ SameCounts
        (retryIngest wholeText failedPlant dangerRetries)
        unfailedPlant :=
  retry_never_completes
    wholeText danger_raised danger_unfailed dangerRetries

/-
  The dangerous reading is stored, and no retry opens its
  alarm, pushes its values or queues its forecast.
-/
theorem retry_opens_no_alarm :
    RaisedAfterInsert
        wholeText gasPlant dangerCall failedPlant ∧
      ingestGasTask wholeText gasPlant dangerCall =
        .ok unfailedPlant ∧
      ¬ SameCounts
          (retryIngest wholeText failedPlant dangerRetries)
          unfailedPlant ∧
      unfailedPlant.alerts.events.rows.map
          AlarmEvent.title =
        ["[가스] CO 농도 이상 감지"] ∧
      unfailedPlant.alerts.notifications = [0] ∧
      unfailedPlant.forecastQueue.length = 1 ∧
      ((unfailedPlant.buffers.ensure
        "GAS-001") .co).items = [250] ∧
      (retryIngest wholeText failedPlant
          dangerRetries).alerts.events.rows = [] ∧
      (retryIngest wholeText failedPlant
          dangerRetries).forecastQueue.length = 0 ∧
      (((retryIngest wholeText failedPlant
          dangerRetries).buffers.ensure
            "GAS-001") .co).items = [] := by
  refine ⟨danger_raised, danger_unfailed, ?_⟩
  decide +kernel

end Ingest

end Icmp2
