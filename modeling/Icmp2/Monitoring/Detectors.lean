import Icmp2.Monitoring.Window
import Icmp2.Monitoring.Thresholds
import Icmp2.Library.Edges
import Icmp2.Library.Rounding

/-
  The detectors of STEP D and STEP E.

  Main definitions include:
    * `Icmp2.Monitoring.Zscore.analyze`
    * `Icmp2.Monitoring.Changepoint.detect`
    * `Icmp2.Monitoring.Detectors`
    * `Icmp2.Monitoring.detectorStep`

  The standard deviation is a parameter; means are exact.
  Both detectors read the window of the process, and the
  second one keeps a state for each device and gas.
-/

------------------------------------------------------------
-- Statistics
------------------------------------------------------------

namespace Icmp2

namespace Monitoring

open Library

/- `np.mean`. -/
def mean
    (values : List ℚ) :
    ℚ :=
  values.sum / values.length

/- `1e-9`. -/
def tiny : ℚ :=
  1 / 10 ^ 9

/- `round(value, 4)`. -/
def fourPlaces
    (value : ℚ) :
    ℚ :=
  roundHalfEven (value * 10 ^ 4) / 10 ^ 4

/- What the process keeps in its modules. -/
structure Detectors where
  window : WindowState
  /- `_state`; `_ensure_state` enters `STABLE`. -/
  shifted : String → Gas → Bool

end Monitoring

end Icmp2

------------------------------------------------------------
-- STEP D
------------------------------------------------------------

namespace Icmp2

namespace Monitoring

namespace Zscore

open Library

/- `MIN_SAMPLES`. -/
def minSamples : Nat :=
  10

/- `Z_THRESHOLD`. -/
def zThreshold : ℚ :=
  3

/- `DECREASING_DANGER`. -/
def decreasingDanger : List Gas :=
  [.o2]

inductive Direction where
  | decrease
  | increase
  deriving DecidableEq, Repr

inductive Status where
  | critical
  | anomalyWarning
  | normal
  deriving DecidableEq, Repr

/- `_make_result`. -/
structure Result where
  deviceUid : String
  metric : Gas
  value : ℚ
  mean : Option ℚ
  std : Option ℚ
  zScore : Option ℚ
  direction : Option Direction
  thresholdStatus : String
  statStatus : Status
  finalStatus : Status
  measuredAt : Instant
  deriving DecidableEq, Repr

/- `is_ready`. -/
def isReady
    (buffers : Buffers)
    (deviceUid : String)
    (gas : Gas)
    (samples : Nat) :
    Bool :=
  match buffers deviceUid with
  | none => false
  | some gasBuffers =>
      samples ≤ (gasBuffers gas).items.length

/- The level in the dictionary of the exceeded gases. -/
def exceededLevel?
    (exceeded : List Exceeded)
    (gas : Gas) :
    Option Level :=
  (exceeded.reverse.find? fun found =>
    found.gas = gas.name).map Exceeded.level

/- The result of a gas that exceeds its limits. -/
def criticalResult
    (deviceUid : String)
    (measuredAt : Instant)
    (gas : Gas)
    (current : ℚ)
    (level : Level) :
    Result where
  deviceUid := deviceUid
  metric := gas
  value := current
  mean := none
  std := none
  zScore := none
  direction := none
  thresholdStatus := level.label
  statStatus := .normal
  finalStatus := .critical
  measuredAt := measuredAt

variable (std : List ℚ → ℚ)

/- The score of a value against earlier ones. -/
def score
    (history : List ℚ)
    (current : ℚ) :
    ℚ :=
  (current - mean history) / (std history + tiny)

/- Whether a score is out of the ordinary. -/
def anomalous
    (gas : Gas)
    (z : ℚ) :
    Bool :=
  if gas ∈ decreasingDanger then
    z ≤ -zThreshold
  else
    zThreshold ≤ |z|

/- The result of a gas within its limits. -/
def statResult
    (deviceUid : String)
    (measuredAt : Instant)
    (gas : Gas)
    (current : ℚ)
    (history : List ℚ) :
    Result :=
  let z := score std history current
  let status :=
    if anomalous gas z then Status.anomalyWarning
    else .normal
  { deviceUid := deviceUid
    metric := gas
    value := current
    mean := some (fourPlaces (Monitoring.mean history))
    std := some (fourPlaces (std history + tiny))
    zScore := some (fourPlaces z)
    direction := some (if z < 0 then .decrease else .increase)
    thresholdStatus := "normal"
    statStatus := status
    finalStatus := status
    measuredAt := measuredAt }

/- `values[:-1] if len(values) > 1 else values`. -/
def historyOf
    (values : List ℚ) :
    List ℚ :=
  if 1 < values.length then values.dropLast else values

/- One gas in the loop of `analyze`. -/
def analyzeGas
    (exceeded : List Exceeded)
    (deviceUid : String)
    (reading : GasReading)
    (memory : WindowState)
    (gas : Gas) :
    WindowState × Option Result :=
  match reading.value gas with
  | none => (memory, none)
  | some current =>
      match exceededLevel? exceeded gas with
      | some level =>
          (memory,
            some
              (criticalResult deviceUid reading.measuredAt
                gas current level))
      | none =>
          if isReady memory.buffers deviceUid gas
              minSamples then
            let read :=
              windowGet (memory.rowsOf deviceUid) deviceUid
                gas windowSize memory.buffers
            let history := historyOf read.1
            ({ memory with buffers := read.2 },
              if history.length < 2 then
                none
              else
                some
                  (statResult std deviceUid
                    reading.measuredAt gas current history))
          else
            (memory, none)

/- The loop of `analyze`. -/
def analyzeGases
    (exceeded : List Exceeded)
    (deviceUid : String)
    (reading : GasReading) :
    List Gas → WindowState → WindowState × List Result
  | [], memory => (memory, [])
  | gas :: gases, memory =>
      let first :=
        analyzeGas std exceeded deviceUid reading memory gas
      let rest :=
        analyzeGases exceeded deviceUid reading gases first.1
      (rest.1, first.2.toList ++ rest.2)

/- `analyze`. -/
def analyze
    (policies : List ThresholdPolicy)
    (deviceUid : String)
    (reading : GasReading)
    (memory : WindowState) :
    WindowState × List Result :=
  analyzeGases std
    (checkThresholdExceeded policies reading "실시간 관제")
    deviceUid reading Gas.gasFields memory

end Zscore

end Monitoring

end Icmp2

------------------------------------------------------------
-- STEP E
------------------------------------------------------------

namespace Icmp2

namespace Monitoring

namespace Changepoint

open Library

/- `MEAN_SHIFT_THRESHOLD`. -/
def meanShiftThreshold : ℚ :=
  3

/- `STD_RATIO_HIGH`. -/
def stdRatioHigh : ℚ :=
  3

/- `STD_RATIO_LOW`. -/
def stdRatioLow : ℚ :=
  1 / 3

inductive Event where
  | changePoint
  | backToStable
  deriving DecidableEq, Repr

/- The result of one gas. -/
structure Result where
  deviceUid : String
  metric : Gas
  prevMean : ℚ
  prevStd : ℚ
  currMean : ℚ
  currStd : ℚ
  meanShiftScore : ℚ
  stdRatio : ℚ
  isChange : Bool
  /- `SHIFT`, or else `STABLE`. -/
  shift : Bool
  event : Option Event
  measuredAt : Instant
  deriving DecidableEq, Repr

variable (std : List ℚ → ℚ)

/- `mean_shift_score` of a whole window. -/
def meanShiftScore
    (values : List ℚ) :
    ℚ :=
  |mean (values.drop windowSize) -
      mean (values.take windowSize)| /
    (std (values.take windowSize) + tiny)

/- `std_ratio` of a whole window. -/
def stdRatio
    (values : List ℚ) :
    ℚ :=
  (std (values.drop windowSize) + tiny) /
    (std (values.take windowSize) + tiny)

/- `is_change` of a whole window. -/
def isChange
    (values : List ℚ) :
    Bool :=
  meanShiftThreshold ≤ meanShiftScore std values ∨
    stdRatioHigh ≤ stdRatio std values ∨
    stdRatio std values ≤ stdRatioLow

/- The event of a change of the state. -/
def transition
    (shift change : Bool) :
    Option Event :=
  if change && !shift then
    some .changePoint
  else if !change && shift then
    some .backToStable
  else
    none

/- The result of a whole window in a given state. -/
def windowResult
    (deviceUid : String)
    (measuredAt : Instant)
    (gas : Gas)
    (shift : Bool)
    (values : List ℚ) :
    Result :=
  let prev := values.take windowSize
  let curr := values.drop windowSize
  let change := isChange std values
  { deviceUid := deviceUid
    metric := gas
    prevMean := fourPlaces (mean prev)
    prevStd := fourPlaces (std prev)
    currMean := fourPlaces (mean curr)
    currStd := fourPlaces (std curr)
    meanShiftScore := fourPlaces (meanShiftScore std values)
    stdRatio := fourPlaces (stdRatio std values)
    isChange := change
    -- The state has been written before it is reported.
    shift :=
      match transition shift change with
      | some .changePoint => true
      | some .backToStable => false
      | none => shift
    event := transition shift change
    measuredAt := measuredAt }

/- One gas in the loop of `detect`. -/
def detectGas
    (deviceUid : String)
    (measuredAt : Instant)
    (memory : Detectors)
    (gas : Gas) :
    Detectors × Option Result :=
  let values :=
    (windowGet (memory.window.rowsOf deviceUid) deviceUid
      gas bufferSize memory.window.buffers).1
  let window := detectorRead deviceUid memory.window gas
  if values.length < bufferSize then
    ({ memory with window := window }, none)
  else
    let result :=
      windowResult std deviceUid measuredAt gas
        (memory.shifted deviceUid gas) values
    ({ window := window
       shifted :=
        Function.update memory.shifted deviceUid
          (Function.update (memory.shifted deviceUid) gas
            result.shift) },
      some result)

/- The loop of `detect`. -/
def detectGases
    (deviceUid : String)
    (measuredAt : Instant) :
    List Gas → Detectors → Detectors × List Result
  | [], memory => (memory, [])
  | gas :: gases, memory =>
      let first :=
        detectGas std deviceUid measuredAt memory gas
      let rest :=
        detectGases deviceUid measuredAt gases first.1
      (rest.1, first.2.toList ++ rest.2)

/- `detect`. -/
def detect
    (deviceUid : String)
    (reading : GasReading)
    (memory : Detectors) :
    Detectors × List Result :=
  detectGases std deviceUid reading.measuredAt cpGasFields
    memory

end Changepoint

end Monitoring

end Icmp2

------------------------------------------------------------
-- Runs
------------------------------------------------------------

namespace Icmp2

namespace Monitoring

open Library

namespace Detectors

/- A process that has just started, with its database. -/
def started
    (stored : List JoinedReading) :
    Detectors where
  window :=
    { stored := stored
      buffers := Buffers.started }
  shifted := fun _ _ => false

end Detectors

/- A reading under the policies of its time, or a restart. -/
inductive DetectorOp where
  | ingest
      (policies : List ThresholdPolicy)
      (reading : JoinedReading)
  | restart

/- The operation as the window sees it. -/
def DetectorOp.window :
    DetectorOp → WindowOp
  | .ingest _ reading => .ingest reading
  | .restart => .restart

/- What the two detectors answer. -/
structure Answers where
  zscore : List Zscore.Result
  changepoint : List Changepoint.Result

variable (std : List ℚ → ℚ)

/- Insertion and STEP C. -/
def Detectors.push
    (memory : Detectors)
    (reading : JoinedReading) :
    Detectors :=
  { memory with
    window :=
      { stored := memory.window.stored ++ [reading]
        buffers :=
          pushReading reading.deviceUid
            reading.toGasReading memory.window.buffers } }

/- Insertion, STEP C, STEP D and STEP E of one reading. -/
def ingestReading
    (memory : Detectors)
    (policies : List ThresholdPolicy)
    (reading : JoinedReading) :
    Detectors × Answers :=
  let pushed := memory.push reading
  let analyzed :=
    Zscore.analyze std policies reading.deviceUid
      reading.toGasReading pushed.window
  let detected :=
    Changepoint.detect std reading.deviceUid
      reading.toGasReading
      { pushed with window := analyzed.1 }
  (detected.1, ⟨analyzed.2, detected.2⟩)

def detectorStep
    (memory : Detectors) :
    DetectorOp → Detectors
  | .ingest policies reading =>
      (ingestReading std memory policies reading).1
  | .restart => .started memory.window.stored

/- What an operation makes the detectors answer. -/
def answers
    (memory : Detectors) :
    DetectorOp → Answers
  | .ingest policies reading =>
      (ingestReading std memory policies reading).2
  | .restart => ⟨[], []⟩

end Monitoring

end Icmp2
