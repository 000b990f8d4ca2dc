import Icmp2.AiEngine.Signal
import Icmp2.Alerts.Event
import Icmp2.Library.Feeds
import Icmp2.Library.OrderBy

/-
  What the forecast worker feeds to its power windows.

  Main definitions include:
    * `Icmp2.Monitoring.PowerDatabase`
    * `Icmp2.Monitoring.PowerWorker`
    * `Icmp2.Monitoring.powerBackfill`
    * `Icmp2.Monitoring.runPowerForecast`

  Main theorems include:
    * `Icmp2.Monitoring.seriesKey_injective`
    * `Icmp2.Monitoring.feeds_runPowerForecast`
    * `Icmp2.Monitoring.in_order_of_complete_iff`
    * `Icmp2.Monitoring.power_windows_in_order_iff`

  A channel of a device is a series.  Its windows are found
  under a text that joins both names, its mark under the
  pair; and the stored readings of a channel may share a
  time.  The worker is an instance of `Library.Feeds`.
-/

------------------------------------------------------------
-- The Worker
------------------------------------------------------------

namespace Icmp2

namespace Monitoring

open Alerts Library

/- `POWER_SENSOR_TYPES`. -/
inductive PowerSensor where
  | voltage
  | current
  | power
  deriving DecidableEq, Repr

def powerSensorTypes : List PowerSensor :=
  [.voltage, .current, .power]

/- A device and one of its channels. -/
abbrev Series : Type :=
  String × ChannelCode

/- `_series_key`. -/
def seriesKey
    (series : Series) :
    String :=
  series.1 ++ "/" ++ series.2.text

/- A point that is pushed into the windows. -/
abbrev PowerPoint : Type :=
  AiEngine.DataPoint PowerSensor

/- The columns of a stored reading that are replayed. -/
structure PowerRow where
  measuredAt : Instant
  voltageV : ℚ
  currentA : ℚ
  powerW : ℚ
  deriving DecidableEq, Repr

/- A channel with its readings, in any order. -/
structure ChannelHistory where
  channelCode : ChannelCode
  isActive : Bool
  readings : List PowerRow

structure PowerDevice where
  deviceUid : String
  channels : List ChannelHistory
  distinct :
    (channels.map ChannelHistory.channelCode).Nodup

structure PowerDatabase where
  devices : List PowerDevice
  distinct : (devices.map PowerDevice.deviceUid).Nodup

/-
  The memory of the process.  `pushed` are the points that
  were pushed into the windows of the subsystem, also those
  that the windows have dropped since.
-/
structure PowerWorker where
  built : Bool
  lastProcessed : Series → Option Instant
  pushed : List PowerPoint

namespace PowerWorker

/- A process that has just started. -/
def cold : PowerWorker where
  built := false
  lastProcessed := fun _ => none
  pushed := []

/- `_last_processed[(uid, ch_code)] = measured_at`. -/
def mark
    (worker : PowerWorker)
    (series : Series)
    (measuredAt : Instant) :
    PowerWorker :=
  { worker with
    lastProcessed :=
      Function.update worker.lastProcessed series
        (some measuredAt) }

def push
    (worker : PowerWorker)
    (point : PowerPoint) :
    PowerWorker :=
  { worker with pushed := worker.pushed ++ [point] }

end PowerWorker

/- `-1` stands for a value that did not arrive. -/
def reported
    (value : ℚ) :
    Option ℚ :=
  if value = -1 then none else some value

/- The points of one reading, sensor by sensor. -/
def seriesPoints
    (series : Series)
    (measuredAt : Instant)
    (value : PowerSensor → Option ℚ) :
    List PowerPoint :=
  powerSensorTypes.map fun sensor =>
    { timestamp := measuredAt
      deviceId := seriesKey series
      sensorType := sensor
      value := value sensor
      isValid := (value sensor).isSome }

/- The value of a stored reading. -/
def PowerRow.value
    (row : PowerRow) :
    PowerSensor → Option ℚ
  | .voltage => reported row.voltageV
  | .current => reported row.currentA
  | .power => reported row.powerW

end Monitoring

end Icmp2

------------------------------------------------------------
-- The Backfill
------------------------------------------------------------

namespace Icmp2

namespace Monitoring

open Alerts Library

/- `_BACKFILL_POINTS`. -/
def powerBackfillPoints : Nat :=
  200

/-
  One step of the backfill.  Predicting and saving do not
  touch the windows, but they can raise.
-/
inductive PowerBackfillStep where
  | push (point : PowerPoint)
  | predict (series : Series) (sensor : PowerSensor)
  | saveSnapshots (series : Series)
  | mark (series : Series) (measuredAt : Instant)

/- The last readings of a channel, oldest first. -/
def replayed
    (channel : ChannelHistory) :
    List PowerRow :=
  ((orderDesc PowerRow.measuredAt channel.readings).take
    powerBackfillPoints).reverse

/- The backfill of one channel; without readings, nothing. -/
def channelSteps
    (deviceUid : String)
    (channel : ChannelHistory) :
    List PowerBackfillStep :=
  let series := (deviceUid, channel.channelCode)
  match (replayed channel).getLast? with
  | none => []
  | some last =>
      ((replayed channel).flatMap fun row =>
          (seriesPoints series row.measuredAt
            row.value).map PowerBackfillStep.push) ++
        powerSensorTypes.map
          (PowerBackfillStep.predict series) ++
        [.saveSnapshots series, .mark series last.measuredAt]

/- `_backfill`; only active channels are replayed. -/
def powerBackfill
    (database : PowerDatabase) :
    List PowerBackfillStep :=
  database.devices.flatMap fun device =>
    (device.channels.filter
      ChannelHistory.isActive).flatMap
        (channelSteps device.deviceUid)

/- The steps before an exception; all steps without one. -/
def executedPowerSteps
    (database : PowerDatabase)
    (raisesAfter : Option Nat) :
    List PowerBackfillStep :=
  match raisesAfter with
  | none => powerBackfill database
  | some done => (powerBackfill database).take done

def powerBackfillStep
    (worker : PowerWorker) :
    PowerBackfillStep → PowerWorker
  | .push point => worker.push point
  | .predict _ _ => worker
  | .saveSnapshots _ => worker
  | .mark series measuredAt => worker.mark series measuredAt

/-
  `_get_subsystem`: the first call builds the subsystem and
  fills it, and an exception of the backfill is swallowed.
-/
def getPowerSubsystem
    (database : PowerDatabase)
    (raisesAfter : Option Nat)
    (worker : PowerWorker) :
    PowerWorker :=
  if worker.built then
    worker
  else
    run powerBackfillStep { worker with built := true }
      (executedPowerSteps database raisesAfter)

/- A payload with a time that can be parsed. -/
structure PowerDelivery where
  series : Series
  measuredAt : Instant
  value : PowerSensor → Option ℚ

/- `run_forecast`, as far as it changes the windows. -/
def runPowerForecast
    (database : PowerDatabase)
    (raisesAfter : Option Nat)
    (worker : PowerWorker)
    (delivery : PowerDelivery) :
    PowerWorker :=
  let ready := getPowerSubsystem database raisesAfter worker
  if ∃ last ∈ ready.lastProcessed delivery.series,
      delivery.measuredAt ≤ last then
    ready
  else
    (seriesPoints delivery.series delivery.measuredAt
      fun sensor =>
        (delivery.value sensor).bind reported).foldl
      PowerWorker.push
      (ready.mark delivery.series delivery.measuredAt)

end Monitoring

end Icmp2

------------------------------------------------------------
-- Series
------------------------------------------------------------

namespace Icmp2

namespace Monitoring

open Alerts Library

theorem length_text
    (code : ChannelCode) :
    code.text.toList.length = 7 := by
  cases code <;> rfl

theorem text_injective
    {left right : ChannelCode}
    (hText : left.text = right.text) :
    left = right := by
  revert hText
  cases left <;> cases right <;> decide

/- The text that joins two names keeps them apart. -/
theorem seriesKey_injective
    {left right : Series}
    (hKey : seriesKey left = seriesKey right) :
    left = right := by
  have hChars := congrArg String.toList hKey
  unfold seriesKey at hChars
  simp only [String.toList_append] at hChars
  rcases
    List.append_inj' hChars
      ((length_text left.2).trans
        (length_text right.2).symm) with
    ⟨hUid, hCode⟩
  have hSame := List.append_cancel_right hUid
  exact
    Prod.ext (String.toList_inj.mp hSame)
      (text_injective (String.toList_inj.mp hCode))

/- The windows of a series. -/
def windowsOf
    (series : Series) :
    List (String × PowerSensor) :=
  powerSensorTypes.map fun sensor =>
    (seriesKey series, sensor)

theorem mem_windowsOf_iff
    {series : Series}
    {window : String × PowerSensor} :
    window ∈ windowsOf series ↔
      window.1 = seriesKey series := by
  rcases window with ⟨key, sensor⟩
  constructor
  · intro hMem
    rcases List.mem_map.mp hMem with ⟨other, _, hEq⟩
    exact (Prod.mk.inj hEq).1.symm
  · rintro rfl
    refine List.mem_map.mpr ⟨sensor, ?_, rfl⟩
    cases sensor <;> decide

theorem separate_windowsOf :
    Feeds.Separate windowsOf where
  nodup := by
    intro series
    apply List.Nodup.map
    · intro left right hEq
      exact (Prod.mk.inj hEq).2
    · decide
  disjoint := by
    intro left right window hLeft hRight
    apply seriesKey_injective
    rw [← mem_windowsOf_iff.mp hLeft,
      mem_windowsOf_iff.mp hRight]

end Monitoring

end Icmp2

------------------------------------------------------------
-- The Worker as Feeds
------------------------------------------------------------

namespace Icmp2

namespace Monitoring

open Alerts Library

/- The window that a point goes to, and its time. -/
def PowerPoint.entry
    (point : PowerPoint) :
    (String × PowerSensor) × Instant :=
  ((point.deviceId, point.sensorType), point.timestamp)

/- The marks of a worker and the times of its windows. -/
def PowerWorker.feeds
    (worker : PowerWorker) :
    Feeds Series (String × PowerSensor) Instant where
  mark := worker.lastProcessed
  log := worker.pushed.map PowerPoint.entry

/- What a step of the backfill means for the windows. -/
def PowerBackfillStep.feedOp? :
    PowerBackfillStep →
      Option (FeedOp Series (String × PowerSensor) Instant)
  | .push point =>
      some (.write (point.deviceId, point.sensorType)
        point.timestamp)
  | .predict _ _ => none
  | .saveSnapshots _ => none
  | .mark series measuredAt =>
      some (.setMark series measuredAt)

theorem feeds_run_powerBackfillStep
    (worker : PowerWorker)
    (steps : List PowerBackfillStep) :
    (run powerBackfillStep worker steps).feeds =
      run Feeds.prepare worker.feeds
        (steps.filterMap PowerBackfillStep.feedOp?) := by
  induction steps generalizing worker with
  | nil => rfl
  | cons step steps ih =>
      rw [run_cons, ih]
      cases step with
      | push point =>
          have hFeeds :
              (worker.push point).feeds =
                worker.feeds.prepare
                  (.write (point.deviceId, point.sensorType)
                    point.timestamp) := by
            simp only [PowerWorker.feeds, PowerWorker.push,
              Feeds.prepare, PowerPoint.entry,
              List.map_append, List.map_cons, List.map_nil]
          change
            run Feeds.prepare (worker.push point).feeds _ = _
          rw [hFeeds]
          rfl
      | predict series sensor => rfl
      | saveSnapshots series => rfl
      | mark series measuredAt => rfl

theorem built_run_powerBackfillStep
    (worker : PowerWorker)
    (steps : List PowerBackfillStep) :
    (run powerBackfillStep worker steps).built =
      worker.built :=
  run_invariant
    (I := fun later : PowerWorker =>
      later.built = worker.built)
    (fun later step hLater => by
      cases step with
      | push point => exact hLater
      | predict series sensor => exact hLater
      | saveSnapshots series => exact hLater
      | mark series measuredAt => exact hLater)
    rfl steps

theorem foldl_powerPush
    (worker : PowerWorker)
    (points : List PowerPoint) :
    points.foldl PowerWorker.push worker =
      { worker with pushed := worker.pushed ++ points } := by
  induction points generalizing worker with
  | nil => simp
  | cons point points ih =>
      rw [List.foldl_cons, ih]
      simp [PowerWorker.push]

variable (database : PowerDatabase)
variable (raisesAfter : Option Nat)
variable {worker : PowerWorker}

/- A delivery is an arrival at its series. -/
def PowerDelivery.arrival
    (delivery : PowerDelivery) :
    Series × Instant :=
  (delivery.series, delivery.measuredAt)

theorem getPowerSubsystem_of_built
    (hBuilt : worker.built = true) :
    getPowerSubsystem database raisesAfter worker =
      worker := by
  rw [getPowerSubsystem, if_pos hBuilt]

theorem built_runPowerForecast
    (hBuilt : worker.built = true)
    (delivery : PowerDelivery) :
    (runPowerForecast database raisesAfter worker
        delivery).built =
      true := by
  simp only [runPowerForecast]
  rw [getPowerSubsystem_of_built database raisesAfter hBuilt]
  split
  · exact hBuilt
  · rw [foldl_powerPush]
    exact hBuilt

theorem feeds_runPowerForecast
    (hBuilt : worker.built = true)
    (delivery : PowerDelivery) :
    (runPowerForecast database raisesAfter worker
        delivery).feeds =
      worker.feeds.arrive windowsOf delivery.arrival := by
  simp only [runPowerForecast]
  rw [getPowerSubsystem_of_built database raisesAfter hBuilt]
  unfold Feeds.arrive
  split
  · rename_i hMarked
    exact (if_pos hMarked).symm
  · rename_i hMarked
    rw [foldl_powerPush]
    refine Eq.trans ?_ (if_neg hMarked).symm
    simp only [PowerWorker.feeds, PowerWorker.mark,
      List.map_append]
    rfl

theorem feeds_run_runPowerForecast
    (hBuilt : worker.built = true)
    (deliveries : List PowerDelivery) :
    (run (runPowerForecast database raisesAfter) worker
        deliveries).feeds =
      run (Feeds.arrive windowsOf) worker.feeds
        (deliveries.map PowerDelivery.arrival) := by
  induction deliveries generalizing worker with
  | nil => rfl
  | cons delivery deliveries ih =>
      rw [run_cons,
        ih (built_runPowerForecast database raisesAfter
          hBuilt delivery),
        feeds_runPowerForecast database raisesAfter hBuilt]
      rfl

/- The operations of the backfill as far as it came. -/
def feedOps :
    List (FeedOp Series (String × PowerSensor) Instant) :=
  (executedPowerSteps database raisesAfter).filterMap
    PowerBackfillStep.feedOp?

/- The first delivery builds the worker, then all arrive. -/
theorem feeds_run_cold
    {deliveries : List PowerDelivery}
    (hSome : deliveries ≠ []) :
    (run (runPowerForecast database raisesAfter) .cold
        deliveries).feeds =
      run (Feeds.arrive windowsOf)
        (run Feeds.prepare Feeds.initial
          (feedOps database raisesAfter))
        (deliveries.map PowerDelivery.arrival) := by
  let ready :=
    run powerBackfillStep
      { PowerWorker.cold with built := true }
      (executedPowerSteps database raisesAfter)
  have hBuilt : ready.built = true := by
    rw [built_run_powerBackfillStep]
  have hReady :
      getPowerSubsystem database raisesAfter ready =
        getPowerSubsystem database raisesAfter .cold :=
    getPowerSubsystem_of_built database raisesAfter hBuilt
  have hStart :
      run (runPowerForecast database raisesAfter) .cold
          deliveries =
        run (runPowerForecast database raisesAfter) ready
          deliveries := by
    cases deliveries with
    | nil => exact absurd rfl hSome
    | cons delivery deliveries =>
        rw [run_cons, run_cons]
        congr 1
        simp only [runPowerForecast, hReady]
  rw [hStart,
    feeds_run_runPowerForecast database raisesAfter hBuilt,
    feeds_run_powerBackfillStep]
  rfl

end Monitoring

end Icmp2

------------------------------------------------------------
-- What the Backfill Writes
------------------------------------------------------------

namespace Icmp2

namespace Monitoring

open Alerts Library

/- The active channels, each with the uid of its device. -/
def activeChannels
    (database : PowerDatabase) :
    List (String × ChannelHistory) :=
  database.devices.flatMap fun device =>
    (device.channels.filter
      ChannelHistory.isActive).map fun channel =>
        (device.deviceUid, channel)

def seriesOf
    (active : String × ChannelHistory) :
    Series :=
  (active.1, active.2.channelCode)

theorem powerBackfill_eq
    (database : PowerDatabase) :
    powerBackfill database =
      (activeChannels database).flatMap fun active =>
        channelSteps active.1 active.2 := by
  unfold powerBackfill activeChannels
  rw [List.flatMap_assoc]
  simp only [List.flatMap_map]

/- A series is replayed once. -/
theorem nodup_seriesOf
    (database : PowerDatabase) :
    ((activeChannels database).map seriesOf).Nodup := by
  unfold activeChannels
  rw [List.map_flatMap, List.Nodup, List.pairwise_flatMap]
  constructor
  · intro device hDevice
    have hCodes :
        ((device.channels.filter
          ChannelHistory.isActive).map
            ChannelHistory.channelCode).Nodup :=
      device.distinct.sublist (List.filter_sublist.map _)
    rw [List.map_map]
    refine List.Nodup.map_on ?_ hCodes.of_map
    intro left hLeft right hRight hEq
    exact
      List.inj_on_of_nodup_map hCodes hLeft hRight
        (Prod.mk.inj hEq).2
  · refine (List.pairwise_map.mp database.distinct).imp ?_
    intro left right hUid first hFirst second hSecond hEq
    rw [List.map_map, List.mem_map] at hFirst hSecond
    rcases hFirst with ⟨channel, _, rfl⟩
    rcases hSecond with ⟨other, _, rfl⟩
    exact hUid (Prod.mk.inj hEq).1

/- The times that steps push to a window. -/
def pushedTimes
    (steps : List PowerBackfillStep)
    (window : String × PowerSensor) :
    List Instant :=
  (steps.filterMap PowerBackfillStep.feedOp?).filterMap
    (Feeds.written? window)

theorem pushedTimes_append
    (first second : List PowerBackfillStep)
    (window : String × PowerSensor) :
    pushedTimes (first ++ second) window =
      pushedTimes first window ++
        pushedTimes second window := by
  unfold pushedTimes
  rw [List.filterMap_append, List.filterMap_append]

theorem pushedTimes_flatMap
    {A : Type}
    (steps : A → List PowerBackfillStep)
    (parts : List A)
    (window : String × PowerSensor) :
    pushedTimes (parts.flatMap steps) window =
      parts.flatMap fun part =>
        pushedTimes (steps part) window := by
  induction parts with
  | nil => rfl
  | cons part parts ih =>
      rw [List.flatMap_cons, pushedTimes_append, ih,
        List.flatMap_cons]

/- One reading is one time in each window of its series. -/
theorem pushedTimes_seriesPoints
    (series : Series)
    (measuredAt : Instant)
    (value : PowerSensor → Option ℚ)
    (window : String × PowerSensor) :
    pushedTimes
        ((seriesPoints series measuredAt value).map
          PowerBackfillStep.push)
        window =
      if window.1 = seriesKey series then
        [measuredAt]
      else
        [] := by
  rcases window with ⟨key, sensor⟩
  by_cases hKey : key = seriesKey series
  · subst hKey
    rw [if_pos rfl]
    cases sensor <;>
      simp [pushedTimes, seriesPoints, powerSensorTypes,
        PowerBackfillStep.feedOp?, Feeds.written?]
  · rw [if_neg hKey]
    simp [pushedTimes, seriesPoints, powerSensorTypes,
      PowerBackfillStep.feedOp?, Feeds.written?,
      Ne.symm hKey]

/- A channel is written to the windows of its own series. -/
theorem pushedTimes_channelSteps
    (active : String × ChannelHistory)
    (window : String × PowerSensor) :
    pushedTimes (channelSteps active.1 active.2) window =
      if window.1 = seriesKey (seriesOf active) then
        (replayed active.2).map PowerRow.measuredAt
      else
        [] := by
  unfold channelSteps
  cases hLast : (replayed active.2).getLast? with
  | none =>
      rw [List.getLast?_eq_none_iff.mp hLast]
      simp [pushedTimes]
  | some last =>
      have hRest :
          pushedTimes
              (powerSensorTypes.map
                  (PowerBackfillStep.predict
                    (seriesOf active)) ++
                [.saveSnapshots (seriesOf active),
                  .mark (seriesOf active) last.measuredAt])
              window =
            [] := by
        rfl
      change
        pushedTimes
            (_ ++
              powerSensorTypes.map
                (PowerBackfillStep.predict
                  (seriesOf active)) ++
              [.saveSnapshots (seriesOf active),
                .mark (seriesOf active) last.measuredAt])
            window =
          _
      rw [List.append_assoc, pushedTimes_append, hRest,
        List.append_nil, pushedTimes_flatMap]
      change
        ((replayed active.2).flatMap fun row =>
          pushedTimes
            ((seriesPoints (seriesOf active) row.measuredAt
              row.value).map PowerBackfillStep.push)
            window) =
          _
      simp only [pushedTimes_seriesPoints]
      split
      · exact List.flatMap_pure_eq_map _ _
      · exact List.flatMap_eq_nil_iff.mpr fun _ _ => rfl

/- The readings of a channel are replayed oldest first. -/
theorem pairwise_replayed
    (channel : ChannelHistory) :
    ((replayed channel).map
      PowerRow.measuredAt).Pairwise (· ≤ ·) := by
  unfold replayed
  rw [List.pairwise_map, List.pairwise_reverse]
  exact
    (pairwise_orderDesc PowerRow.measuredAt
      channel.readings).sublist (List.take_sublist _ _)

variable (database : PowerDatabase)
variable (raisesAfter : Option Nat)

theorem executedPowerSteps_isPrefix :
    executedPowerSteps database raisesAfter <+:
      powerBackfill database := by
  cases raisesAfter with
  | none => exact List.prefix_refl _
  | some done => exact List.take_prefix done _

/- However far the backfill came, no time goes back. -/
theorem pairwise_pushedTimes
    (window : String × PowerSensor) :
    (pushedTimes (executedPowerSteps database raisesAfter)
      window).Pairwise (· ≤ ·) := by
  have hAll :
      (pushedTimes (powerBackfill database)
        window).Pairwise (· ≤ ·) := by
    rw [powerBackfill_eq, pushedTimes_flatMap,
      List.pairwise_flatMap]
    simp only [pushedTimes_channelSteps]
    constructor
    · intro active _
      split
      · exact pairwise_replayed active.2
      · exact List.Pairwise.nil
    · refine
        (List.pairwise_map.mp
          (nodup_seriesOf database)).imp ?_
      -- two series do not share the window
      intro left right hNe first hFirst second hSecond
      split_ifs at hFirst hSecond with hLeft hRight
      · exact
          absurd
            (seriesKey_injective (hLeft.symm.trans hRight))
            hNe
      · cases hSecond
      · cases hFirst
      · cases hFirst
  have hPrefix :=
    ((executedPowerSteps_isPrefix database
      raisesAfter).filterMap
        PowerBackfillStep.feedOp?).filterMap
          (Feeds.written? window)
  exact hAll.sublist hPrefix.sublist

/- The mark of a channel is its last reading. -/
theorem mem_channelSteps_mark
    {active : String × ChannelHistory}
    {series : Series}
    {measuredAt : Instant}
    (hMark :
      .mark series measuredAt ∈
        channelSteps active.1 active.2) :
    series = seriesOf active ∧
      ∀ time ∈ (replayed active.2).map PowerRow.measuredAt,
        time ≤ measuredAt := by
  unfold channelSteps at hMark
  cases hLast : (replayed active.2).getLast? with
  | none =>
      rw [hLast] at hMark
      cases hMark
  | some last =>
      rw [hLast] at hMark
      simp only [List.mem_append, List.mem_flatMap,
        List.mem_map, List.mem_cons, List.not_mem_nil,
        or_false, reduceCtorEq, and_false, exists_false,
        false_or, PowerBackfillStep.mark.injEq] at hMark
      rcases hMark with ⟨rfl, rfl⟩
      refine ⟨rfl, ?_⟩
      have hSorted := pairwise_replayed active.2
      rw [← List.dropLast_append_getLast? last hLast,
        List.map_append, List.pairwise_append] at hSorted
      intro time hTime
      rw [← List.dropLast_append_getLast? last hLast,
        List.map_append, List.mem_append] at hTime
      rcases hTime with hEarlier | hTime
      · exact hSorted.2.2 time hEarlier _ List.mem_cons_self
      · rw [List.map_cons, List.map_nil,
          List.mem_singleton] at hTime
        exact hTime.le

/- A mark of the backfill is as late as all its times. -/
theorem le_of_mark
    {series : Series}
    {measuredAt : Instant}
    (hMark :
      .mark series measuredAt ∈
        executedPowerSteps database raisesAfter)
    {sensor : PowerSensor}
    {time : Instant}
    (hTime :
      time ∈
        pushedTimes (executedPowerSteps database raisesAfter)
          (seriesKey series, sensor)) :
    time ≤ measuredAt := by
  have hPrefix :=
    executedPowerSteps_isPrefix database raisesAfter
  have hMark := hPrefix.subset hMark
  have hTime :=
    ((hPrefix.filterMap
      PowerBackfillStep.feedOp?).filterMap
        (Feeds.written? (seriesKey series, sensor))).subset
      hTime
  change time ∈ pushedTimes (powerBackfill database) _
    at hTime
  rw [powerBackfill_eq] at hMark hTime
  rw [pushedTimes_flatMap] at hTime
  rcases List.mem_flatMap.mp hMark with
    ⟨active, hActive, hMark⟩
  rcases List.mem_flatMap.mp hTime with
    ⟨other, hOther, hTime⟩
  rcases mem_channelSteps_mark hMark with ⟨hSeries, hLate⟩
  rw [pushedTimes_channelSteps] at hTime
  split_ifs at hTime with hKey
  · have hSame : active = other :=
      List.inj_on_of_nodup_map (nodup_seriesOf database)
        hActive hOther
        (hSeries.symm.trans (seriesKey_injective hKey))
    subst hSame
    exact hLate time hTime
  · cases hTime

end Monitoring

end Icmp2

------------------------------------------------------------
-- Windows in Order
------------------------------------------------------------

namespace Icmp2

namespace Monitoring

open Alerts Library

/- The times of the points in a window, in order. -/
def PowerWorker.windowTimes
    (worker : PowerWorker)
    (series : Series)
    (sensor : PowerSensor) :
    List Instant :=
  (worker.pushed.filter fun point =>
    point.deviceId = seriesKey series ∧
      point.sensorType = sensor).map AiEngine.DataPoint.timestamp

theorem times_feeds
    (worker : PowerWorker)
    (series : Series)
    (sensor : PowerSensor) :
    worker.feeds.times (seriesKey series, sensor) =
      worker.windowTimes series sensor := by
  unfold Feeds.times PowerWorker.windowTimes
    PowerWorker.feeds
  rw [List.filter_map, List.map_map]
  simp only [Function.comp_def, PowerPoint.entry,
    Prod.mk.injEq]

variable (database : PowerDatabase)
variable (raisesAfter : Option Nat)

theorem setMark_mem_feedOps_iff
    {series : Series}
    {measuredAt : Instant} :
    .setMark series measuredAt ∈
        feedOps database raisesAfter ↔
      .mark series measuredAt ∈
        executedPowerSteps database raisesAfter := by
  unfold feedOps
  rw [List.mem_filterMap]
  constructor
  · rintro ⟨step, hStep, hOp⟩
    cases step with
    | push point => cases hOp
    | predict other sensor => cases hOp
    | saveSnapshots other => cases hOp
    | mark other time =>
        cases hOp
        exact hStep
  · intro hStep
    exact ⟨_, hStep, rfl⟩

/-
  In the end a window is in order exactly if the backfill
  pushed no time to it twice and, where it set no mark, the
  first delivery of the series is later than what it pushed.
-/
theorem pairwise_windowTimes_iff
    {deliveries : List PowerDelivery}
    (hSome : deliveries ≠ [])
    (series : Series)
    (sensor : PowerSensor) :
    ((run (runPowerForecast database raisesAfter) .cold
        deliveries).windowTimes series sensor).Pairwise
        (· < ·) ↔
      (pushedTimes (executedPowerSteps database raisesAfter)
          (seriesKey series, sensor)).Nodup ∧
        ((∀ measuredAt,
            .mark series measuredAt ∉
              executedPowerSteps database raisesAfter) →
          ∀ delivery ∈ deliveries.find? fun delivery =>
              delivery.series = series,
            ∀ earlier ∈
                pushedTimes
                  (executedPowerSteps database raisesAfter)
                  (seriesKey series, sensor),
              earlier < delivery.measuredAt) := by
  have hOwn :
      (seriesKey series, sensor) ∈ windowsOf series :=
    mem_windowsOf_iff.mpr rfl
  have hMarked :
      ∀ last,
        .setMark series last ∈
            feedOps database raisesAfter →
          ∀ time,
            .write (seriesKey series, sensor) time ∈
                feedOps database raisesAfter →
              time ≤ last := by
    intro last hLast time hTime
    rw [setMark_mem_feedOps_iff] at hLast
    rw [← Feeds.mem_filterMap_written?] at hTime
    exact le_of_mark database raisesAfter hLast hTime
  have hFirst :
      (Feeds.arrivalsAt
          (deliveries.map PowerDelivery.arrival)
          series).head? =
        (deliveries.find? fun delivery =>
          delivery.series = series).map
            PowerDelivery.measuredAt := by
    unfold Feeds.arrivalsAt
    rw [List.filter_map, List.map_map, List.head?_map,
      List.head?_filter]
    rfl
  rw [← times_feeds,
    feeds_run_cold database raisesAfter hSome,
    Feeds.increasing_prepared_iff separate_windowsOf hOwn
      hMarked,
    hFirst]
  simp only [setMark_mem_feedOps_iff,
    ← Feeds.mem_filterMap_written?, Option.mem_def,
    Option.map_eq_some_iff, forall_exists_index, and_imp,
    forall_apply_eq_imp_iff₂]
  refine and_congr_left fun _ => ?_
  -- the backfill goes forward, so only equal times matter
  constructor
  · intro hLt
    exact hLt.imp fun hLt => ne_of_lt hLt
  · intro hNodup
    exact
      (pairwise_pushedTimes database raisesAfter _).imp₂
        (fun _ _ hLe hNe => lt_of_le_of_ne hLe hNe) hNodup

/-
  A series that the backfill left without a mark is first
  delivered with a time after all that it pushed.
-/
def FirstOfSeriesIsLater
    (deliveries : List PowerDelivery) :
    Prop :=
  ∀ series,
    (∀ measuredAt,
      .mark series measuredAt ∉
        executedPowerSteps database raisesAfter) →
    ∀ delivery ∈ deliveries.find? fun delivery =>
        delivery.series = series,
      ∀ sensor,
        ∀ earlier ∈
            pushedTimes
              (executedPowerSteps database raisesAfter)
              (seriesKey series, sensor),
          earlier < delivery.measuredAt

/- What a complete backfill of an active channel pushes. -/
theorem pushedTimes_powerBackfill
    {active : String × ChannelHistory}
    (hActive : active ∈ activeChannels database)
    (sensor : PowerSensor) :
    pushedTimes (powerBackfill database)
        (seriesKey (seriesOf active), sensor) =
      (replayed active.2).map PowerRow.measuredAt := by
  rw [powerBackfill_eq, pushedTimes_flatMap]
  simp only [pushedTimes_channelSteps]
  have hNodup := nodup_seriesOf database
  revert hActive hNodup
  generalize activeChannels database = channels
  intro hActive hNodup
  induction channels with
  | nil => cases hActive
  | cons channel channels ih =>
      rw [List.map_cons, List.nodup_cons] at hNodup
      rw [List.flatMap_cons]
      rcases List.mem_cons.mp hActive with rfl | hRest
      · have hOthers :
            (channels.flatMap fun other =>
              if seriesKey (seriesOf active) =
                  seriesKey (seriesOf other) then
                (replayed other.2).map PowerRow.measuredAt
              else
                []) =
              [] := by
          refine List.flatMap_eq_nil_iff.mpr ?_
          intro other hOther
          rw [if_neg]
          intro hKey
          apply hNodup.1
          rw [seriesKey_injective hKey]
          exact List.mem_map_of_mem hOther
        rw [if_pos rfl, hOthers, List.append_nil]
      · rw [if_neg, List.nil_append, ih hRest hNodup.2]
        intro hKey
        apply hNodup.1
        rw [← seriesKey_injective hKey]
        exact List.mem_map_of_mem hRest

/- What a complete backfill pushes, it marks. -/
theorem exists_active_of_pushed
    {series : Series}
    {sensor : PowerSensor}
    {time : Instant}
    (hTime :
      time ∈
        pushedTimes (powerBackfill database)
          (seriesKey series, sensor)) :
    ∃ active ∈ activeChannels database,
      seriesOf active = series ∧
        ∃ measuredAt,
          .mark series measuredAt ∈ powerBackfill database := by
  rw [powerBackfill_eq, pushedTimes_flatMap] at hTime
  rcases List.mem_flatMap.mp hTime with
    ⟨active, hActive, hTime⟩
  rw [pushedTimes_channelSteps] at hTime
  split_ifs at hTime with hKey
  · have hSeries : seriesOf active = series :=
      (seriesKey_injective hKey).symm
    refine ⟨active, hActive, hSeries, ?_⟩
    cases hLast : (replayed active.2).getLast? with
    | none =>
        rw [List.getLast?_eq_none_iff.mp hLast] at hTime
        cases hTime
    | some last =>
        refine ⟨last.measuredAt, ?_⟩
        rw [powerBackfill_eq, List.mem_flatMap]
        refine ⟨active, hActive, ?_⟩
        rw [← hSeries]
        unfold channelSteps
        rw [hLast]
        exact
          List.mem_append_right _
            (List.mem_cons_of_mem _ List.mem_cons_self)
  · cases hTime

/-
  After a complete backfill only readings of a channel that
  share a time can bring a window out of order.
-/
theorem in_order_of_complete_iff
    (first : PowerDelivery)
    (rest : List PowerDelivery) :
    (∀ series sensor,
      ((run (runPowerForecast database none) .cold
        (first :: rest)).windowTimes series
          sensor).Pairwise (· < ·)) ↔
      ∀ active ∈ activeChannels database,
        ((replayed active.2).map
          PowerRow.measuredAt).Nodup := by
  simp only [
    pairwise_windowTimes_iff database none
      (List.cons_ne_nil first rest)]
  constructor
  · intro hAll active hActive
    rw [← pushedTimes_powerBackfill database hActive
      .voltage]
    exact (hAll (seriesOf active) .voltage).1
  · intro hNodup series sensor
    constructor
    · by_cases hEmpty :
          pushedTimes (powerBackfill database)
              (seriesKey series, sensor) =
            []
      · exact hEmpty ▸ List.nodup_nil
      · rcases List.exists_mem_of_ne_nil _ hEmpty with
          ⟨time, hTime⟩
        rcases exists_active_of_pushed database hTime with
          ⟨active, hActive, rfl, _⟩
        have hTimes :=
          pushedTimes_powerBackfill database hActive sensor
        exact hTimes.symm ▸ hNodup active hActive
    · intro hUnmarked delivery _ earlier hEarlier
      rcases exists_active_of_pushed database hEarlier with
        ⟨_, _, _, measuredAt, hMark⟩
      exact absurd hMark (hUnmarked measuredAt)

/-
  The windows of all series are in order exactly if the
  backfill pushed no time twice and no unmarked series
  begins with a time that is not later.
-/
theorem power_windows_in_order_iff
    (first : PowerDelivery)
    (rest : List PowerDelivery) :
    (∀ series sensor,
      ((run (runPowerForecast database raisesAfter) .cold
        (first :: rest)).windowTimes series
          sensor).Pairwise (· < ·)) ↔
      (∀ series sensor,
        (pushedTimes
          (executedPowerSteps database raisesAfter)
          (seriesKey series, sensor)).Nodup) ∧
        FirstOfSeriesIsLater database raisesAfter
          (first :: rest) := by
  simp only [
    pairwise_windowTimes_iff database raisesAfter
      (List.cons_ne_nil first rest)]
  constructor
  · intro hAll
    refine ⟨fun series sensor => (hAll series sensor).1, ?_⟩
    intro series hUnmarked delivery hDelivery sensor
    exact (hAll series sensor).2 hUnmarked delivery hDelivery
  · rintro ⟨hNodup, hLater⟩ series sensor
    refine ⟨hNodup series sensor, ?_⟩
    intro hUnmarked delivery hDelivery
    exact hLater series hUnmarked delivery hDelivery sensor

end Monitoring

end Icmp2
