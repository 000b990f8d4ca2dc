import Icmp2.AiEngine.AxisDominance
import Icmp2.AiEngine.ChangePoint
import Icmp2.AiEngine.SteepRise
import Icmp2.Library.Trace

/-
  The two windows of the prediction subsystem.

  Main definitions include:
    * `Icmp2.AiEngine.classifyValue`
    * `Icmp2.AiEngine.PredictionSubsystem`
    * `Icmp2.AiEngine.predictChannel`
    * `Icmp2.AiEngine.SegmentAligned`

  Main theorems include:
    * `Icmp2.AiEngine.windows_run`
    * `Icmp2.AiEngine.anchoredSegment_eq_rtake`
    * `Icmp2.AiEngine.prediction_windows_aligned`

  Both windows are queues of the same points; the shorter
  one thus holds the end of the longer one.
-/

------------------------------------------------------------
-- Present Levels
------------------------------------------------------------

namespace Icmp2

namespace AiEngine

/- `_ALLOWED_DIRECTIONS`. -/
inductive Direction where
  | high
  | low
  | both
  deriving DecidableEq, Repr

/- The stored name of a direction. -/
def Direction.name : Direction → String
  | high => "high"
  | low => "low"
  | both => "both"

/- The entry of a sensor in the threshold table. -/
structure ThresholdInfo where
  direction : Direction
  caution : Option ℚ
  danger : Option ℚ
  cautionHigh : Option ℚ
  dangerHigh : Option ℚ
  cautionLow : Option ℚ
  dangerLow : Option ℚ
  deriving DecidableEq, Repr

/- `_evaluate`. -/
def evaluate
    (info : ThresholdInfo)
    (value : ℚ) :
    RiskLevel :=
  match info.direction with
  | .high =>
      match info.caution, info.danger with
      | some caution, some danger =>
          if value ≥ danger then .danger
          else if value ≥ caution then .caution
          else .normal
      | _, _ => .unknown
  | .low =>
      match info.caution, info.danger with
      | some caution, some danger =>
          if value ≤ danger then .danger
          else if value ≤ caution then .caution
          else .normal
      | _, _ => .unknown
  | .both =>
      match info.cautionHigh, info.dangerHigh,
          info.cautionLow, info.dangerLow with
      | some cautionHigh, some dangerHigh,
          some cautionLow, some dangerLow =>
          if value ≥ dangerHigh ∨ value ≤ dangerLow then
            .danger
          else if
              value ≥ cautionHigh ∨ value ≤ cautionLow then
            .caution
          else
            .normal
      | _, _, _, _ => .unknown

/- `threshold_table`. -/
abbrev ThresholdTable : Type :=
  SensorType → Option ThresholdInfo

/- `classify_value`. -/
def classifyValue
    (table : ThresholdTable)
    (sensorType : SensorType)
    (value : ℚ) :
    RiskLevel :=
  match table sensorType with
  | none => .unknown
  | some info => evaluate info value

end AiEngine

end Icmp2

------------------------------------------------------------
-- The Subsystem
------------------------------------------------------------

namespace Icmp2

namespace AiEngine

open Monitoring Library

/- Parameters that the constructors accept. -/
structure SubsystemConfig where
  table : ThresholdTable
  cpWindow : Nat
  historySize : Nat
  arima : ArimaConfig
  policy : PolicyConfig
  cpWindow_pos : 1 ≤ cpWindow
  cpWindow_le : cpWindow ≤ historySize

/- The libraries that a subsystem calls. -/
structure PredictionBackend where
  arima : ArimaBackend
  changePoint : ChangePointBackend

/- `PredictionSubsystem`, with the state of its parts. -/
structure PredictionSubsystem (config : SubsystemConfig) where
  cpWindow : SlidingWindow config.cpWindow
  history : SlidingWindow config.historySize
  lastContamination : ChannelKey → Option Bool
  policy : PolicyState

namespace PredictionSubsystem

variable {config : SubsystemConfig}

/- A subsystem that has just been built. -/
def initial : PredictionSubsystem config where
  cpWindow := Queues.none
  history := Queues.none
  lastContamination := fun _ => none
  policy := .initial

/- `push`. -/
def push
    (subsystem : PredictionSubsystem config)
    (point : SensorPoint) :
    PredictionSubsystem config :=
  { subsystem with
    cpWindow := subsystem.cpWindow.push point
    history := subsystem.history.push point }

end PredictionSubsystem

/- The clock when the two parts of a prediction read it. -/
structure PredictionClock where
  anchored : Instant
  predicted : Instant
  deriving DecidableEq, Repr

/- The level of the last value, where there is one. -/
def presentLevel
    (table : ThresholdTable)
    (sensorType : SensorType)
    (history : List Sample) :
    RiskLevel :=
  match history.getLast? with
  | some (.value value) => classifyValue table sensorType value
  | _ => .unknown

/-
  `predict_channel`.  The contamination is remembered even
  if the forecaster raises.
-/
def predictChannel
    (backend : PredictionBackend)
    {config : SubsystemConfig}
    (clock : PredictionClock)
    (subsystem : PredictionSubsystem config)
    (key : ChannelKey) :
    Except String ForecastPolicyResult ×
      PredictionSubsystem config :=
  let anchored :=
    anchorStatus backend.changePoint clock.anchored
      subsystem.cpWindow subsystem.lastContamination key
  let subsystem :=
    { subsystem with lastContamination := anchored.2 }
  let history := subsystem.history.getValues key
  match predict backend.arima config.arima clock.predicted
      anchored.1 history with
  | .error error => (.error error, subsystem)
  | .ok arima =>
      let info := config.table key.2
      let graded :=
        grade config.policy subsystem.policy
          { arima := arima.toArimaResult
            caution := info.bind ThresholdInfo.caution
            danger := info.bind ThresholdInfo.danger
            direction :=
              match info with
              | none => "high"
              | some info => info.direction.name
            presentLevel :=
              presentLevel config.table key.2 history }
      (.ok graded.1, { subsystem with policy := graded.2 })

inductive PredictionOp where
  | push (point : SensorPoint)
  | predictChannel (clock : PredictionClock) (key : ChannelKey)
  deriving DecidableEq, Repr

def predictionStep
    (backend : PredictionBackend)
    {config : SubsystemConfig}
    (subsystem : PredictionSubsystem config) :
    PredictionOp → PredictionSubsystem config
  | .push point => subsystem.push point
  | .predictChannel clock key =>
      (predictChannel backend clock subsystem key).2

/- The points that a run pushes. -/
def pushed
    (ops : List PredictionOp) :
    List SensorPoint :=
  ops.filterMap fun op =>
    match op with
    | .push point => some point
    | .predictChannel _ _ => none

/- Those of one channel. -/
def pushedTo
    (key : ChannelKey)
    (ops : List PredictionOp) :
    List SensorPoint :=
  (pushed ops).filter fun point => point.key = key

end AiEngine

end Icmp2

------------------------------------------------------------
-- Windows over Runs
------------------------------------------------------------

namespace Icmp2

namespace AiEngine

open Monitoring Library

/- A prediction pushes nothing. -/
theorem predictChannel_windows
    (backend : PredictionBackend)
    {config : SubsystemConfig}
    (clock : PredictionClock)
    (subsystem : PredictionSubsystem config)
    (key : ChannelKey) :
    (predictChannel backend clock subsystem
          key).2.cpWindow = subsystem.cpWindow ∧
      (predictChannel backend clock subsystem
          key).2.history = subsystem.history := by
  unfold predictChannel
  dsimp only
  split <;> exact ⟨rfl, rfl⟩

/- Only the pushes of a run fill the windows. -/
theorem windows_run
    (backend : PredictionBackend)
    {config : SubsystemConfig}
    (state : PredictionSubsystem config)
    (ops : List PredictionOp) :
    (run (predictionStep backend) state ops).cpWindow =
        (pushed ops).foldl SlidingWindow.push
          state.cpWindow ∧
      (run (predictionStep backend) state ops).history =
        (pushed ops).foldl SlidingWindow.push
          state.history := by
  induction ops generalizing state with
  | nil => exact ⟨rfl, rfl⟩
  | cons op ops ih =>
      rw [run_cons]
      cases op with
      | push point => exact ih (state.push point)
      | predictChannel clock key =>
          have hWindows :=
            predictChannel_windows backend clock state key
          have hRest :=
            ih (predictChannel backend clock state key).2
          rw [hWindows.1, hWindows.2] at hRest
          exact hRest

/- Each channel's windows hold its newest points. -/
theorem get_windows_run
    (backend : PredictionBackend)
    (config : SubsystemConfig)
    (ops : List PredictionOp)
    (key : ChannelKey) :
    let state :=
      run (predictionStep backend)
        (.initial : PredictionSubsystem config) ops
    state.cpWindow.get key =
        (pushedTo key ops).rtake config.cpWindow ∧
      state.history.get key =
        (pushedTo key ops).rtake config.historySize := by
  intro state
  have hWindows :=
    windows_run backend
      (.initial : PredictionSubsystem config) ops
  constructor
  · rw [SlidingWindow.get, hWindows.1]
    exact
      Queues.get_foldl_push DataPoint.key Queues.none
        (pushed ops) key
  · rw [SlidingWindow.get, hWindows.2]
    exact
      Queues.get_foldl_push DataPoint.key Queues.none
        (pushed ops) key

end AiEngine

end Icmp2

------------------------------------------------------------
-- Aligned Segments
------------------------------------------------------------

namespace Icmp2

namespace AiEngine

open Monitoring Library

/-
  The segment behind an anchor at an index of the window,
  where `points` are all points of the channel.
-/
structure SegmentAligned
    (config : ArimaConfig)
    (anchor : CpAnchorResult)
    (points window history : List SensorPoint)
    (index : Int) :
    Prop where
  inside : 0 < index ∧ index < window.length
  -- From the anchor on, the window has the newest points.
  newest : window.drop index.toNat <:+ points
  last :
    anchoredSegment config anchor (valuesOf history) =
      (valuesOf history).rtake
        (min anchor.segmentLength config.maxSegment).toNat
  length :
    ((anchoredSegment config anchor
        (valuesOf history)).length : Int) =
      min anchor.segmentLength config.maxSegment
  sinceAnchor :
    anchoredSegment config anchor (valuesOf history) <:+
      valuesOf (window.drop index.toNat)

/- A segment is the end of the history. -/
theorem anchoredSegment_eq_rtake
    (config : ArimaConfig)
    {anchor : CpAnchorResult}
    {index : Int}
    (hAnchor : anchor.anchorIndex = some index)
    (history : List Sample) :
    anchoredSegment config anchor history =
      history.rtake
        (min anchor.segmentLength config.maxSegment).toNat
      := by
  simp only [anchoredSegment, segmentOf, segLen, hAnchor,
    List.rtake]
  congr 1
  omega

/- Both windows are ends of the points of the channel. -/
theorem segmentAligned_of_rtake
    {config : ArimaConfig}
    {anchor : CpAnchorResult}
    {index : Int}
    {points : List SensorPoint}
    {cpWindow historySize : Nat}
    (hLe : cpWindow ≤ historySize)
    (hAnchor : anchor.anchorIndex = some index)
    (hInside :
      0 < index ∧ index < (points.rtake cpWindow).length)
    (hLength :
      anchor.segmentLength =
        (points.rtake cpWindow).length - index) :
    SegmentAligned config anchor points
      (points.rtake cpWindow) (points.rtake historySize)
      index := by
  have hWindow := length_rtake points cpWindow
  have hDrop :
      (points.rtake cpWindow).drop index.toNat =
        points.rtake anchor.segmentLength.toNat := by
    rw [drop_rtake points (by omega), hLength]
    congr 1
    omega
  have hLast :=
    anchoredSegment_eq_rtake config hAnchor
      (valuesOf (points.rtake historySize))
  have hFits :
      (points.rtake cpWindow).length ≤
        (points.rtake historySize).length := by
    rw [hWindow, length_rtake]
    exact min_le_min_right _ hLe
  refine ⟨hInside, ?_, hLast, ?_, ?_⟩
  · rw [hDrop]
    exact List.drop_suffix _ _
  · rw [hLast, length_rtake, valuesOf, List.length_map]
    omega
  · rw [hLast, hDrop, valuesOf, rtake_map, rtake_rtake,
      valuesOf, ← rtake_map, ← rtake_map]
    apply rtake_suffix_rtake
    omega

/-
  Whatever is pushed and predicted in whatever order, the
  short window of a channel is the end of its history, and
  the segment behind an anchor is the end of the history
  that starts at the anchor or later.
-/
theorem prediction_windows_aligned
    (backend : PredictionBackend)
    (config : SubsystemConfig)
    (ops : List PredictionOp)
    (key : ChannelKey) :
    let state :=
      run (predictionStep backend)
        (.initial : PredictionSubsystem config) ops
    state.cpWindow.get key <:+ state.history.get key ∧
      ∀ now index,
        let anchor :=
          (anchorStatus backend.changePoint now
            state.cpWindow state.lastContamination key).1
        anchor.anchorIndex = some index →
          SegmentAligned config.arima anchor
            (pushedTo key ops) (state.cpWindow.get key)
            (state.history.get key) index := by
  intro state
  have hGet := get_windows_run backend config ops key
  refine ⟨?_, ?_⟩
  · rw [hGet.1, hGet.2]
    exact rtake_suffix_rtake _ config.cpWindow_le
  · intro now index anchor hAnchor
    have hStatus :=
      anchorStatus_anchor backend.changePoint now
        state.cpWindow state.lastContamination key hAnchor
    rw [hGet.1] at hStatus
    rw [hGet.1, hGet.2]
    exact
      segmentAligned_of_rtake config.cpWindow_le hAnchor
        ⟨hStatus.1, hStatus.2.1⟩ hStatus.2.2

/- The same value of one gas, measured again and again. -/
def measured
    (count : Nat)
    (value : ℚ) :
    List PredictionOp :=
  List.replicate count
    (.push ⟨0, "gas_A", .gas .co, some value, true⟩)

/-
  A short subsystem; its library finds the one jump of the
  signal that it is given.
-/
def shortSubsystem : SubsystemConfig where
  table := fun _ => none
  cpWindow := 8
  historySize := 12
  arima := .default
  policy := secondConfig
  cpWindow_pos := by decide
  cpWindow_le := by decide

def oneJump : PredictionBackend where
  arima := flatBackend
  changePoint :=
    { log := fun _ => 2.079
      mean := mean
      variance := variance
      interp := interpAt
      pelt := fun _ signal _ => some [4, signal.length] }

/-
  After eleven low values, a missing one and three high
  ones, the anchor is at the fifth place of the window.
-/
theorem prediction_windows_aligned_jump :
    let ops :=
      measured 11 0 ++
        [.push ⟨0, "gas_A", .gas .co, none, false⟩] ++
        measured 3 100
    let state :=
      run (predictionStep oneJump)
        (.initial : PredictionSubsystem shortSubsystem) ops
    let key : ChannelKey := ("gas_A", .gas .co)
    SegmentAligned shortSubsystem.arima
      (anchorStatus oneJump.changePoint 0 state.cpWindow
        state.lastContamination key).1
      (pushedTo key ops) (state.cpWindow.get key)
      (state.history.get key) 4 :=
  (prediction_windows_aligned oneJump shortSubsystem
    (measured 11 0 ++
      [.push ⟨0, "gas_A", .gas .co, none, false⟩] ++
      measured 3 100)
    ("gas_A", .gas .co)).2 0 4 (by decide +kernel)

end AiEngine

end Icmp2
