import Icmp2.AiEngine.Signal
import Icmp2.Library.OrderBy
import Icmp2.Library.Watermark
import Icmp2.Monitoring.Reading

/-
  What the forecast worker feeds to its prediction windows.

  Main definitions include:
    * `Icmp2.Monitoring.ForecastDatabase`
    * `Icmp2.Monitoring.ForecastWorker`
    * `Icmp2.Monitoring.backfill`
    * `Icmp2.Monitoring.runForecast`
    * `Icmp2.Monitoring.FedOnce`

  Main theorems include:
    * `Icmp2.Monitoring.channelOf_runForecast`
    * `Icmp2.Monitoring.guarded_channelOf_readyWorker`
    * `Icmp2.Monitoring.forecast_fed_once_iff`

  The worker is an instance of `Library.Watermark` on each
  of its channels.
-/

------------------------------------------------------------
-- The Worker
------------------------------------------------------------

namespace Icmp2

namespace Monitoring

open Library

/- A point that is pushed into the windows. -/
abbrev GasPoint : Type :=
  AiEngine.DataPoint Gas

/-
  The stored readings of a gas device, at most one for each
  time.
-/
structure GasHistory where
  deviceUid : String
  readings : List GasReading
  once : (readings.map GasReading.measuredAt).Nodup

/- The gas devices, each under its own uid. -/
structure ForecastDatabase where
  devices : List GasHistory
  distinct : (devices.map GasHistory.deviceUid).Nodup

/-
  The memory of the process.  `pushed` are the points that
  were pushed into the windows of the subsystem, also those
  that the windows have dropped since.
-/
structure ForecastWorker where
  built : Bool
  lastProcessed : String → Option Instant
  pushed : List GasPoint

namespace ForecastWorker

/- A process that has just started. -/
def cold : ForecastWorker where
  built := false
  lastProcessed := fun _ => none
  pushed := []

/- `_last_processed[uid] = measured_at`. -/
def mark
    (worker : ForecastWorker)
    (deviceUid : String)
    (measuredAt : Instant) :
    ForecastWorker :=
  { worker with
    lastProcessed := fun other =>
      if other = deviceUid then
        some measuredAt
      else
        worker.lastProcessed other }

def push
    (worker : ForecastWorker)
    (point : GasPoint) :
    ForecastWorker :=
  { worker with pushed := worker.pushed ++ [point] }

end ForecastWorker

/-
  The points of one reading, channel by channel; one is
  valid if it has a value.
-/
def readingPoints
    (deviceUid : String)
    (measuredAt : Instant)
    (value : Gas → Option ℚ) :
    List GasPoint :=
  Gas.gasFields.map fun gas =>
    { timestamp := measuredAt
      deviceId := deviceUid
      sensorType := gas
      value := value gas
      isValid := (value gas).isSome }

end Monitoring

end Icmp2

------------------------------------------------------------
-- The Backfill
------------------------------------------------------------

namespace Icmp2

namespace Monitoring

open Library

/- `_BACKFILL_POINTS`. -/
def backfillPoints : Nat :=
  200

/-
  One step of the backfill.  Predicting and saving do not
  touch the windows, but they can raise.
-/
inductive BackfillStep where
  | push (point : GasPoint)
  | predict (deviceUid : String) (gas : Gas)
  | saveSnapshots (deviceUid : String)
  | mark (deviceUid : String) (measuredAt : Instant)
  deriving DecidableEq, Repr

/- The last readings of a device, oldest first. -/
def backfillReadings
    (history : GasHistory) :
    List GasReading :=
  ((orderDesc GasReading.measuredAt
    history.readings).take backfillPoints).reverse

/- The points that the backfill pushes for a device. -/
def backfillPushes
    (history : GasHistory) :
    List GasPoint :=
  (backfillReadings history).flatMap fun reading =>
    readingPoints history.deviceUid reading.measuredAt
      reading.value

/- The backfill of one device; without readings, nothing. -/
def deviceSteps
    (history : GasHistory) :
    List BackfillStep :=
  match (backfillReadings history).getLast? with
  | none => []
  | some last =>
      (backfillPushes history).map BackfillStep.push ++
        Gas.gasFields.map
          (BackfillStep.predict history.deviceUid) ++
        [.saveSnapshots history.deviceUid,
          .mark history.deviceUid last.measuredAt]

/- `_backfill`. -/
def backfill
    (database : ForecastDatabase) :
    List BackfillStep :=
  database.devices.flatMap deviceSteps

/- The steps before an exception; all steps without one. -/
def executedSteps
    (database : ForecastDatabase)
    (raisesAfter : Option Nat) :
    List BackfillStep :=
  match raisesAfter with
  | none => backfill database
  | some done => (backfill database).take done

def backfillStep
    (worker : ForecastWorker) :
    BackfillStep → ForecastWorker
  | .push point => worker.push point
  | .predict _ _ => worker
  | .saveSnapshots _ => worker
  | .mark deviceUid measuredAt =>
      worker.mark deviceUid measuredAt

/-
  `_get_subsystem`: the first call builds the subsystem and
  fills it, and an exception of the backfill is swallowed.
-/
def getSubsystem
    (database : ForecastDatabase)
    (raisesAfter : Option Nat)
    (worker : ForecastWorker) :
    ForecastWorker :=
  if worker.built then
    worker
  else
    run backfillStep { worker with built := true }
      (executedSteps database raisesAfter)

/- A payload with a time that can be parsed. -/
structure Delivery where
  deviceUid : String
  measuredAt : Instant
  value : Gas → Option ℚ

/- `run_forecast`, as far as it changes the windows. -/
def runForecast
    (database : ForecastDatabase)
    (raisesAfter : Option Nat)
    (worker : ForecastWorker)
    (delivery : Delivery) :
    ForecastWorker :=
  let ready := getSubsystem database raisesAfter worker
  if ∃ last ∈ ready.lastProcessed delivery.deviceUid,
      delivery.measuredAt ≤ last then
    ready
  else
    (readingPoints delivery.deviceUid delivery.measuredAt
      delivery.value).foldl ForecastWorker.push
      (ready.mark delivery.deviceUid delivery.measuredAt)

end Monitoring

end Icmp2

------------------------------------------------------------
-- Channels
------------------------------------------------------------

namespace Icmp2

namespace Monitoring

open Library

/- The times of the points of one channel. -/
def channelTimes
    (points : List GasPoint)
    (deviceUid : String)
    (gas : Gas) :
    List Instant :=
  (points.filter fun point =>
    point.deviceId = deviceUid ∧
      point.sensorType = gas).map AiEngine.DataPoint.timestamp

theorem channelTimes_append
    (first second : List GasPoint)
    (deviceUid : String)
    (gas : Gas) :
    channelTimes (first ++ second) deviceUid gas =
      channelTimes first deviceUid gas ++
        channelTimes second deviceUid gas := by
  unfold channelTimes
  rw [List.filter_append, List.map_append]

/- A reading has one point in each channel of its device. -/
theorem channelTimes_readingPoints
    (deviceUid other : String)
    (measuredAt : Instant)
    (value : Gas → Option ℚ)
    (gas : Gas) :
    channelTimes (readingPoints other measuredAt value)
        deviceUid gas =
      if other = deviceUid then [measuredAt] else [] := by
  unfold channelTimes readingPoints
  by_cases hUid : other = deviceUid
  · rw [if_pos hUid]
    cases gas <;> simp [Gas.gasFields, hUid]
  · rw [if_neg hUid]
    simp [hUid]

theorem mem_channelTimes
    {points : List GasPoint}
    {deviceUid : String}
    {gas : Gas}
    {time : Instant} :
    time ∈ channelTimes points deviceUid gas ↔
      ∃ point ∈ points,
        point.deviceId = deviceUid ∧
          point.sensorType = gas ∧
          point.timestamp = time := by
  unfold channelTimes
  simp only [List.mem_map, List.mem_filter,
    decide_eq_true_eq]
  constructor
  · rintro ⟨point, ⟨hMem, hUid, hGas⟩, hTime⟩
    exact ⟨point, hMem, hUid, hGas, hTime⟩
  · rintro ⟨point, hMem, hUid, hGas, hTime⟩
    exact ⟨point, ⟨hMem, hUid, hGas⟩, hTime⟩

/- The mark of a channel and the times fed to it. -/
def ForecastWorker.channelOf
    (worker : ForecastWorker)
    (deviceUid : String)
    (gas : Gas) :
    Watermark Instant where
  mark := worker.lastProcessed deviceUid
  times := channelTimes worker.pushed deviceUid gas

theorem foldl_push
    (worker : ForecastWorker)
    (points : List GasPoint) :
    points.foldl ForecastWorker.push worker =
      { worker with pushed := worker.pushed ++ points } := by
  induction points generalizing worker with
  | nil => simp
  | cons point points ih =>
      rw [List.foldl_cons, ih]
      simp [ForecastWorker.push]

section Deliveries

variable (database : ForecastDatabase)
variable (raisesAfter : Option Nat)

theorem getSubsystem_of_built
    {worker : ForecastWorker}
    (hBuilt : worker.built = true) :
    getSubsystem database raisesAfter worker = worker := by
  rw [getSubsystem, if_pos hBuilt]

theorem built_runForecast
    {worker : ForecastWorker}
    (hBuilt : worker.built = true)
    (delivery : Delivery) :
    (runForecast database raisesAfter worker
        delivery).built =
      true := by
  simp only [runForecast]
  rw [getSubsystem_of_built database raisesAfter hBuilt]
  split
  · exact hBuilt
  · rw [foldl_push]
    exact hBuilt

/-
  On each channel of its device a delivery is accepted or
  turned down by the mark; other channels do not change.
-/
theorem channelOf_runForecast
    {worker : ForecastWorker}
    (hBuilt : worker.built = true)
    (delivery : Delivery)
    (deviceUid : String)
    (gas : Gas) :
    (runForecast database raisesAfter worker
        delivery).channelOf deviceUid gas =
      if delivery.deviceUid = deviceUid then
        (worker.channelOf deviceUid gas).accept
          delivery.measuredAt
      else
        worker.channelOf deviceUid gas := by
  simp only [runForecast]
  rw [getSubsystem_of_built database raisesAfter hBuilt]
  by_cases hUid : delivery.deviceUid = deviceUid
  · subst hUid
    rw [if_pos rfl]
    unfold Watermark.accept
    split
    · rename_i hLast
      rw [if_pos]
      exact hLast
    · rename_i hLast
      rw [if_neg]
      · rw [foldl_push]
        simp [ForecastWorker.channelOf, ForecastWorker.mark,
          channelTimes_append, channelTimes_readingPoints]
      · exact hLast
  · rw [if_neg hUid]
    split
    · rfl
    · have hOther : ¬ deviceUid = delivery.deviceUid :=
        fun hEq => hUid hEq.symm
      rw [foldl_push]
      simp [ForecastWorker.channelOf, ForecastWorker.mark,
        channelTimes_append, channelTimes_readingPoints,
        hUid, hOther]

/- The deliveries of a device pass the mark one by one. -/
theorem channelOf_run
    {worker : ForecastWorker}
    (hBuilt : worker.built = true)
    (deliveries : List Delivery)
    (deviceUid : String)
    (gas : Gas) :
    (run (runForecast database raisesAfter) worker
        deliveries).channelOf deviceUid gas =
      run Watermark.accept (worker.channelOf deviceUid gas)
        ((deliveries.filter fun delivery =>
          delivery.deviceUid = deviceUid).map
            Delivery.measuredAt) := by
  induction deliveries generalizing worker with
  | nil => rfl
  | cons delivery deliveries ih =>
      rw [run_cons,
        ih (built_runForecast database raisesAfter hBuilt
          delivery),
        channelOf_runForecast database raisesAfter hBuilt]
      by_cases hUid : delivery.deviceUid = deviceUid
      · rw [if_pos hUid,
          List.filter_cons_of_pos (by simpa using hUid),
          List.map_cons, run_cons]
      · rw [if_neg hUid,
          List.filter_cons_of_neg (by simpa using hUid)]

end Deliveries

end Monitoring

end Icmp2

------------------------------------------------------------
-- What the Backfill Leaves
------------------------------------------------------------

namespace Icmp2

namespace Monitoring

open Library

/- The point that a step pushes. -/
def BackfillStep.point? : BackfillStep → Option GasPoint
  | .push point => some point
  | .predict _ _ => none
  | .saveSnapshots _ => none
  | .mark _ _ => none

theorem pushed_run_backfillStep
    (worker : ForecastWorker)
    (steps : List BackfillStep) :
    (run backfillStep worker steps).pushed =
      worker.pushed ++
        steps.filterMap BackfillStep.point? := by
  induction steps generalizing worker with
  | nil => simp
  | cons step steps ih =>
      rw [run_cons, ih]
      cases step with
      | push point =>
          simp [backfillStep, ForecastWorker.push,
            BackfillStep.point?]
      | predict deviceUid gas => rfl
      | saveSnapshots deviceUid => rfl
      | mark deviceUid measuredAt => rfl

theorem built_run_backfillStep
    (worker : ForecastWorker)
    (steps : List BackfillStep) :
    (run backfillStep worker steps).built =
      worker.built :=
  run_invariant
    (I := fun later : ForecastWorker =>
      later.built = worker.built)
    (fun later step hLater => by
      cases step with
      | push point => exact hLater
      | predict deviceUid gas => exact hLater
      | saveSnapshots deviceUid => exact hLater
      | mark deviceUid measuredAt => exact hLater)
    rfl steps

/- The time that a step marks for a device. -/
def BackfillStep.mark?
    (deviceUid : String) :
    BackfillStep → Option Instant
  | .mark other measuredAt =>
      if deviceUid = other then some measuredAt else none
  | .push _ => none
  | .predict _ _ => none
  | .saveSnapshots _ => none

theorem BackfillStep.mark?_eq_some_iff
    (deviceUid : String)
    (step : BackfillStep)
    (measuredAt : Instant) :
    step.mark? deviceUid = some measuredAt ↔
      step = .mark deviceUid measuredAt := by
  cases step with
  | mark other time =>
      simp [BackfillStep.mark?, eq_comm]
  | push point => simp [BackfillStep.mark?]
  | predict other gas => simp [BackfillStep.mark?]
  | saveSnapshots other => simp [BackfillStep.mark?]

/- What a step marks replaces what was marked. -/
theorem lastProcessed_backfillStep
    (worker : ForecastWorker)
    (step : BackfillStep)
    (deviceUid : String) :
    (backfillStep worker step).lastProcessed deviceUid =
      (step.mark? deviceUid).or
        (worker.lastProcessed deviceUid) := by
  cases step with
  | mark other measuredAt =>
      simp only [backfillStep, ForecastWorker.mark,
        BackfillStep.mark?]
      split
      · rfl
      · rfl
  | push point => rfl
  | predict other gas => rfl
  | saveSnapshots other => rfl

/- A mark after the steps comes from before or from them. -/
theorem lastProcessed_run_backfillStep
    (worker : ForecastWorker)
    (steps : List BackfillStep)
    (deviceUid : String) :
    (∀ measuredAt,
      (run backfillStep worker steps).lastProcessed
          deviceUid = some measuredAt →
      worker.lastProcessed deviceUid = some measuredAt ∨
        .mark deviceUid measuredAt ∈ steps) ∧
    ((run backfillStep worker steps).lastProcessed
        deviceUid = none ↔
      worker.lastProcessed deviceUid = none ∧
        ∀ measuredAt,
          .mark deviceUid measuredAt ∉ steps) := by
  induction steps using List.reverseRecOn with
  | nil => simp
  | append_singleton steps step ih =>
      have hMem (measuredAt : Instant) :
          .mark deviceUid measuredAt ∈ steps ++ [step] ↔
            .mark deviceUid measuredAt ∈ steps ∨
              step.mark? deviceUid = some measuredAt := by
        rw [List.mem_append, List.mem_singleton,
          BackfillStep.mark?_eq_some_iff, eq_comm (a := step)]
      rw [run_append, run_cons, run_nil,
        lastProcessed_backfillStep]
      simp only [hMem]
      cases hMark : step.mark? deviceUid with
      | none =>
          simp only [Option.none_or, reduceCtorEq, or_false]
          exact ih
      | some time =>
          constructor
          · intro measuredAt hMarked
            exact Or.inr (Or.inr hMarked)
          · constructor
            · intro hNone
              cases hNone
            · rintro ⟨_, hUnmarked⟩
              exact absurd (Or.inr rfl) (hUnmarked time)

/- The times of the readings that are pushed increase. -/
theorem increasing_backfillReadings
    (history : GasHistory) :
    ((backfillReadings history).map
      GasReading.measuredAt).Pairwise (· < ·) :=
  increasing_reverse_take_orderDesc history.once _

theorem filterMap_point?_deviceSteps
    (history : GasHistory) :
    (deviceSteps history).filterMap BackfillStep.point? =
      backfillPushes history := by
  unfold deviceSteps
  cases hLast : (backfillReadings history).getLast? with
  | none =>
      have hNil := List.getLast?_eq_none_iff.mp hLast
      simp [backfillPushes, hNil]
  | some last =>
      have hPush :
          ((backfillPushes history).map
              BackfillStep.push).filterMap
              BackfillStep.point? =
            backfillPushes history := by
        rw [List.filterMap_map]
        exact List.filterMap_some
      have hPredict :
          (Gas.gasFields.map
              (BackfillStep.predict
                history.deviceUid)).filterMap
              BackfillStep.point? =
            [] := by
        rfl
      have hRest :
          [BackfillStep.saveSnapshots history.deviceUid,
              .mark history.deviceUid
                last.measuredAt].filterMap
              BackfillStep.point? =
            [] := by
        rfl
      simp only [List.filterMap_append, hPush, hPredict,
        hRest, List.append_nil]

/- The channel of a device gets the time of each reading. -/
theorem channelTimes_flatMap_readingPoints
    (deviceUid other : String)
    (gas : Gas)
    (readings : List GasReading) :
    channelTimes
        (readings.flatMap fun reading =>
          readingPoints other reading.measuredAt
            reading.value)
        deviceUid gas =
      if other = deviceUid then
        readings.map GasReading.measuredAt
      else
        [] := by
  induction readings with
  | nil =>
      split
      · rfl
      · rfl
  | cons reading readings ih =>
      rw [List.flatMap_cons, channelTimes_append, ih,
        channelTimes_readingPoints]
      split
      · rfl
      · rfl

theorem channelTimes_backfillPushes
    (history : GasHistory)
    (deviceUid : String)
    (gas : Gas) :
    channelTimes (backfillPushes history) deviceUid gas =
      if history.deviceUid = deviceUid then
        (backfillReadings history).map GasReading.measuredAt
      else
        [] :=
  channelTimes_flatMap_readingPoints
    deviceUid history.deviceUid gas
    (backfillReadings history)

/- The points of a device carry its uid. -/
theorem deviceId_of_mem_backfillPushes
    {history : GasHistory}
    {point : GasPoint}
    (hPoint : point ∈ backfillPushes history) :
    point.deviceId = history.deviceUid ∧
      ∃ reading ∈ backfillReadings history,
        point.timestamp = reading.measuredAt := by
  rcases List.mem_flatMap.mp hPoint with
    ⟨reading, hReading, hPoint⟩
  rcases List.mem_map.mp hPoint with ⟨gas, _, rfl⟩
  exact ⟨rfl, reading, hReading, rfl⟩

end Monitoring

end Icmp2

------------------------------------------------------------
-- Fed at Most Once
------------------------------------------------------------

namespace Icmp2

namespace Monitoring

open Library

/- A device is in the database once. -/
theorem ForecastDatabase.history_unique
    (database : ForecastDatabase)
    {left right : GasHistory}
    (hLeft : left ∈ database.devices)
    (hRight : right ∈ database.devices)
    (hUid : left.deviceUid = right.deviceUid) :
    left = right :=
  List.inj_on_of_nodup_map database.distinct hLeft hRight
    hUid

theorem pairwise_channelTimes_flatMap
    {histories : List GasHistory}
    (hDistinct :
      (histories.map GasHistory.deviceUid).Nodup)
    (deviceUid : String)
    (gas : Gas) :
    (channelTimes (histories.flatMap backfillPushes)
      deviceUid gas).Pairwise (· < ·) := by
  induction histories with
  | nil => exact List.Pairwise.nil
  | cons history histories ih =>
      rw [List.map_cons, List.nodup_cons] at hDistinct
      rw [List.flatMap_cons, channelTimes_append,
        channelTimes_backfillPushes]
      by_cases hUid : history.deviceUid = deviceUid
      · have hRest :
            channelTimes (histories.flatMap backfillPushes)
                deviceUid gas =
              [] := by
          rw [List.eq_nil_iff_forall_not_mem]
          intro time hTime
          rcases mem_channelTimes.mp hTime with
            ⟨point, hPoint, hDevice, _, _⟩
          rcases List.mem_flatMap.mp hPoint with
            ⟨other, hOther, hPushed⟩
          have hId :=
            (deviceId_of_mem_backfillPushes hPushed).1
          apply hDistinct.1
          rw [hUid, ← hDevice, hId]
          exact List.mem_map_of_mem hOther
        rw [if_pos hUid, hRest, List.append_nil]
        exact increasing_backfillReadings history
      · rw [if_neg hUid, List.nil_append]
        exact ih hDistinct.2

theorem filterMap_point?_backfill
    (database : ForecastDatabase) :
    (backfill database).filterMap BackfillStep.point? =
      database.devices.flatMap backfillPushes := by
  unfold backfill
  rw [List.filterMap_flatMap]
  simp only [filterMap_point?_deviceSteps]

theorem executedSteps_isPrefix
    (database : ForecastDatabase)
    (raisesAfter : Option Nat) :
    executedSteps database raisesAfter <+:
      backfill database := by
  cases raisesAfter with
  | none => exact List.prefix_refl _
  | some done => exact List.take_prefix done _

/- A mark of the backfill is as late as all its points. -/
theorem timestamp_le_of_mark
    {database : ForecastDatabase}
    {deviceUid : String}
    {measuredAt : Instant}
    {point : GasPoint}
    (hMark :
      BackfillStep.mark deviceUid measuredAt ∈
        backfill database)
    (hPoint :
      point ∈ database.devices.flatMap backfillPushes)
    (hDevice : point.deviceId = deviceUid) :
    point.timestamp ≤ measuredAt := by
  rcases List.mem_flatMap.mp hMark with
    ⟨history, hHistory, hStep⟩
  rcases List.mem_flatMap.mp hPoint with
    ⟨other, hOther, hPushed⟩
  rcases deviceId_of_mem_backfillPushes hPushed with
    ⟨hId, reading, hReading, hTime⟩
  unfold deviceSteps at hStep
  cases hLast : (backfillReadings history).getLast? with
  | none =>
      rw [hLast] at hStep
      cases hStep
  | some last =>
      rw [hLast] at hStep
      simp only [List.mem_append, List.mem_map,
        List.mem_cons, List.not_mem_nil, or_false,
        reduceCtorEq, and_false, exists_false, false_or,
        BackfillStep.mark.injEq] at hStep
      rcases hStep with ⟨rfl, rfl⟩
      have hSame : history = other :=
        database.history_unique hHistory hOther
          (hDevice.symm.trans hId)
      subst hSame
      rw [hTime]
      have hIncreasing := increasing_backfillReadings history
      rw [← List.dropLast_append_getLast? last hLast,
        List.map_append, List.pairwise_append]
        at hIncreasing
      rw [← List.dropLast_append_getLast? last hLast,
        List.mem_append, List.mem_singleton] at hReading
      rcases hReading with hEarlier | rfl
      · exact
          (hIncreasing.2.2 _
            (List.mem_map_of_mem hEarlier) _
            (List.mem_map_of_mem
              List.mem_cons_self)).le
      · exact le_rfl

/- The worker that the first delivery finds. -/
def readyWorker
    (database : ForecastDatabase)
    (raisesAfter : Option Nat) :
    ForecastWorker :=
  getSubsystem database raisesAfter .cold

section Ready

variable (database : ForecastDatabase)
variable (raisesAfter : Option Nat)

theorem readyWorker_eq :
    readyWorker database raisesAfter =
      run backfillStep
        { ForecastWorker.cold with built := true }
        (executedSteps database raisesAfter) := by
  rfl

theorem built_readyWorker :
    (readyWorker database raisesAfter).built = true := by
  rw [readyWorker_eq, built_run_backfillStep]

theorem pushed_readyWorker :
    (readyWorker database raisesAfter).pushed =
      (executedSteps database raisesAfter).filterMap
        BackfillStep.point? := by
  rw [readyWorker_eq, pushed_run_backfillStep]
  rfl

theorem mem_pushed_readyWorker
    (point : GasPoint) :
    point ∈ (readyWorker database raisesAfter).pushed ↔
      .push point ∈ executedSteps database raisesAfter := by
  rw [pushed_readyWorker, List.mem_filterMap]
  constructor
  · rintro ⟨step, hStep, hPoint⟩
    cases step with
    | push other =>
        cases hPoint
        exact hStep
    | predict deviceUid gas => cases hPoint
    | saveSnapshots deviceUid => cases hPoint
    | mark deviceUid measuredAt => cases hPoint
  · intro hStep
    exact ⟨_, hStep, rfl⟩

/- However far the backfill came, its channels are guarded. -/
theorem guarded_channelOf_readyWorker
    (deviceUid : String)
    (gas : Gas) :
    ((readyWorker database raisesAfter).channelOf
      deviceUid gas).Guarded := by
  have hPrefix :
      (readyWorker database raisesAfter).pushed <+:
        database.devices.flatMap backfillPushes := by
    rw [pushed_readyWorker, ← filterMap_point?_backfill]
    exact
      (executedSteps_isPrefix database raisesAfter).filterMap
        _
  constructor
  · have hAll :=
      pairwise_channelTimes_flatMap
        database.distinct deviceUid gas
    exact
      hAll.sublist
        ((hPrefix.sublist.filter _).map
          AiEngine.DataPoint.timestamp)
  · intro mark hMark time hTime
    have hMarked :=
      (lastProcessed_run_backfillStep
        { ForecastWorker.cold with built := true }
        (executedSteps database raisesAfter)
        deviceUid).1 mark hMark
    rcases mem_channelTimes.mp hTime with
      ⟨point, hPoint, hDevice, _, rfl⟩
    rcases hMarked with hCold | hStep
    · cases hCold
    · exact
        timestamp_le_of_mark
          ((executedSteps_isPrefix database
            raisesAfter).subset hStep)
          (hPrefix.subset hPoint) hDevice

theorem lastProcessed_readyWorker_eq_none_iff
    (deviceUid : String) :
    (readyWorker database raisesAfter).lastProcessed
        deviceUid = none ↔
      ∀ measuredAt,
        .mark deviceUid measuredAt ∉
          executedSteps database raisesAfter := by
  rw [readyWorker_eq,
    (lastProcessed_run_backfillStep _ _ deviceUid).2]
  simp [ForecastWorker.cold]

/- The first delivery builds the worker, then goes on. -/
theorem run_runForecast_cold
    (delivery : Delivery)
    (deliveries : List Delivery) :
    run (runForecast database raisesAfter) .cold
        (delivery :: deliveries) =
      run (runForecast database raisesAfter)
        (readyWorker database raisesAfter)
        (delivery :: deliveries) := by
  have hReady :
      getSubsystem database raisesAfter
          (readyWorker database raisesAfter) =
        getSubsystem database raisesAfter .cold :=
    getSubsystem_of_built database raisesAfter
      (built_readyWorker database raisesAfter)
  rw [run_cons, run_cons]
  congr 1
  simp only [runForecast, hReady]

end Ready

/-
  Every channel got every time at most once, and in the
  order of the times.
-/
def FedOnce
    (worker : ForecastWorker) :
    Prop :=
  ∀ deviceUid gas,
    (channelTimes worker.pushed deviceUid gas).Nodup ∧
      (channelTimes worker.pushed deviceUid gas).Pairwise
        (· < ·)

theorem fedOnce_iff
    (worker : ForecastWorker) :
    FedOnce worker ↔
      ∀ deviceUid gas,
        (worker.channelOf deviceUid gas).times.Pairwise
          (· < ·) := by
  constructor
  · intro hFed deviceUid gas
    exact (hFed deviceUid gas).2
  · intro hPairwise deviceUid gas
    have hTimes := hPairwise deviceUid gas
    exact ⟨hTimes.imp fun hLt => ne_of_lt hLt, hTimes⟩

/-
  A device whose points were pushed by the backfill without
  a mark is first delivered with a time after all of them.
-/
def FirstIsLater
    (database : ForecastDatabase)
    (raisesAfter : Option Nat)
    (deliveries : List Delivery) :
    Prop :=
  ∀ deviceUid delivery,
    deliveries.find?
        (fun delivery => delivery.deviceUid = deviceUid) =
      some delivery →
    (∀ measuredAt,
      .mark deviceUid measuredAt ∉
        executedSteps database raisesAfter) →
    ∀ point,
      .push point ∈ executedSteps database raisesAfter →
      point.deviceId = deviceUid →
      point.timestamp < delivery.measuredAt

/-
  The channels are fed at most once and in order exactly if
  no device that an interrupted backfill left unmarked is
  first delivered with a time that was pushed or passed.
-/
theorem forecast_fed_once_iff
    (database : ForecastDatabase)
    (raisesAfter : Option Nat)
    (deliveries : List Delivery) :
    FedOnce
        (run (runForecast database raisesAfter) .cold
          deliveries) ↔
      FirstIsLater database raisesAfter deliveries := by
  cases deliveries with
  | nil =>
      constructor
      · intro _ deviceUid delivery hFind
        cases hFind
      · intro _ deviceUid gas
        exact ⟨List.nodup_nil, List.Pairwise.nil⟩
  | cons first rest =>
      rw [run_runForecast_cold, fedOnce_iff]
      generalize hAll : first :: rest = deliveries
      have hBuilt := built_readyWorker database raisesAfter
      -- each channel of a device is guarded by its mark
      have hChannel (deviceUid : String) (gas : Gas) :
          ((run (runForecast database raisesAfter)
              (readyWorker database raisesAfter)
              deliveries).channelOf deviceUid
              gas).times.Pairwise (· < ·) ↔
            ((∀ measuredAt,
                .mark deviceUid measuredAt ∉
                  executedSteps database raisesAfter) →
              ∀ delivery ∈ deliveries.find?
                  (fun delivery =>
                    delivery.deviceUid = deviceUid),
                ∀ earlier ∈
                    channelTimes
                      (readyWorker database
                        raisesAfter).pushed
                      deviceUid gas,
                  earlier < delivery.measuredAt) := by
        rw [channelOf_run database raisesAfter hBuilt,
          Watermark.pairwise_run_accept_iff
            (guarded_channelOf_readyWorker
              database raisesAfter deviceUid gas),
          List.head?_map, List.head?_filter,
          ← lastProcessed_readyWorker_eq_none_iff]
        simp only [Option.mem_def, Option.map_eq_some_iff,
          forall_exists_index, and_imp,
          forall_apply_eq_imp_iff₂]
        rfl
      simp only [hChannel]
      constructor
      · intro hTimes deviceUid delivery hFind hUnmarked
          point hPoint hDevice
        refine
          hTimes deviceUid point.sensorType hUnmarked
            delivery hFind point.timestamp ?_
        exact
          mem_channelTimes.mpr
            ⟨point,
              (mem_pushed_readyWorker
                database raisesAfter point).mpr hPoint,
              hDevice, rfl, rfl⟩
      · intro hLater deviceUid gas hUnmarked delivery hFind
          earlier hEarlier
        rcases mem_channelTimes.mp hEarlier with
          ⟨point, hPoint, hDevice, _, rfl⟩
        exact
          hLater deviceUid delivery hFind hUnmarked point
            ((mem_pushed_readyWorker
              database raisesAfter point).mp hPoint)
            hDevice

/- A device with one stored reading. -/
def oneReading : ForecastDatabase where
  devices :=
    [{ deviceUid := "GAS-001"
       readings := [soleReading .co 5]
       once := by decide }]
  distinct := by decide

/- The same reading from the queue. -/
def storedDelivery : Delivery where
  deviceUid := "GAS-001"
  measuredAt := 0
  value := (soleReading .co 5).value

/-
  The backfill raises while it saves the snapshots, and the
  queued reading is pushed a second time.
-/
theorem stored_reading_fed_twice :
    ¬ FedOnce
        (run (runForecast oneReading (some 18)) .cold
          [storedDelivery]) ∧
      channelTimes
          (run (runForecast oneReading (some 18)) .cold
            [storedDelivery]).pushed
          "GAS-001" .co =
        [0, 0] := by
  have hTwice :
      channelTimes
          (run (runForecast oneReading (some 18)) .cold
            [storedDelivery]).pushed
          "GAS-001" .co =
        [0, 0] := by
    decide +kernel
  refine ⟨?_, hTwice⟩
  intro hFed
  have hOnce := (hFed "GAS-001" .co).1
  rw [hTwice] at hOnce
  exact absurd hOnce (by decide)

end Monitoring

end Icmp2
