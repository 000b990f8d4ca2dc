import Icmp2.AiEngine.GasArima
import Icmp2.Library.Deque
import Icmp2.Library.Middles
import Icmp2.Library.Rounding
import Mathlib.Algebra.Order.Floor.Semifield

/-
  Where the recent history of a channel has jumped.

  Main definitions include:
    * `Icmp2.AiEngine.SlidingWindow`
    * `Icmp2.AiEngine.ChangePointBackend`
    * `Icmp2.AiEngine.DetectorConfig`
    * `Icmp2.AiEngine.ChangePointDetector.anchorStatus`
    * `Icmp2.AiEngine.anchorStatus`

  Main theorems include:
    * `Icmp2.AiEngine.mem_breakpointsOf_bounds`
    * `Icmp2.AiEngine.ChangePointDetector.anchor_bounds`
    * `Icmp2.AiEngine.anchorStatus_anchor`

  A detector has any parameters and any channels, and it
  remembers the contamination of every channel that it was
  asked about.  The predictions use one of the default
  parameters.
-/

------------------------------------------------------------
-- Windows
------------------------------------------------------------

namespace Icmp2

namespace AiEngine

open Monitoring Library

/- One value of a sensor whose values are forecast. -/
abbrev SensorPoint : Type :=
  DataPoint SensorType

/- A device and one of its sensors. -/
abbrev ChannelKey : Type :=
  String × SensorType

/- The channel of a point. -/
def DataPoint.key
    (point : SensorPoint) :
    ChannelKey :=
  (point.deviceId, point.sensorType)

/- The last points of every channel, valid or not. -/
abbrev SlidingWindow
    (windowSize : Nat) :
    Type :=
  Queues ChannelKey windowSize SensorPoint

namespace SlidingWindow

variable {windowSize : Nat}

def push
    (window : SlidingWindow windowSize)
    (point : SensorPoint) :
    SlidingWindow windowSize :=
  Queues.push DataPoint.key window point

def get
    (window : SlidingWindow windowSize)
    (key : ChannelKey) :
    List SensorPoint :=
  Queues.get window key

end SlidingWindow

/- An array of the values of points; a missing one is NaN. -/
def valuesOf
    (points : List SensorPoint) :
    List Sample :=
  points.map fun point => Sample.ofValue? point.value

/- `get_values`. -/
def SlidingWindow.getValues
    {windowSize : Nat}
    (window : SlidingWindow windowSize)
    (key : ChannelKey) :
    List Sample :=
  valuesOf (window.get key)

end AiEngine

end Icmp2

------------------------------------------------------------
-- Jumps
------------------------------------------------------------

namespace Icmp2

namespace AiEngine

open Monitoring Library

/-
  The libraries behind a detector, on floats.  `interp` is
  given a place, the first known point and the others;
  `pelt` the least size of a piece, the signal and the
  penalty, and it fails by an exception.
-/
structure ChangePointBackend where
  log : Nat → ℚ
  mean : List ℚ → ℚ
  variance : List ℚ → ℚ
  interp : Nat → Nat × ℚ → List (Nat × ℚ) → ℚ
  pelt : Nat → List ℚ → ℚ → Option (List Int)

/- Parameters that the constructor accepts. -/
structure DetectorConfig where
  minSizeRatio : ℚ
  magnitudeGate : ℚ
  contaminationBlock : Int
  minSizeRatio_pos : 0 < minSizeRatio
  minSizeRatio_le : minSizeRatio ≤ 1 / 2

/- `_interpolate_nan`. -/
def interpolateNan
    (backend : ChangePointBackend)
    (values : List Sample) :
    Option (List ℚ) :=
  if values.all Sample.isNan then
    none
  else
    filledBy backend.interp values

/- `signal[start:stop]`. -/
def slice
    (signal : List ℚ)
    (start stop : Nat) :
    List ℚ :=
  (signal.take stop).drop start

/- The difference of two means, as a float. -/
def jumpOf
    (backend : ChangePointBackend)
    (before after : List ℚ) :
    ℚ :=
  |toDouble (backend.mean after - backend.mean before)|

/- A jump of at least `gate` between two parts that exist. -/
def JumpsBy
    (backend : ChangePointBackend)
    (gate : ℚ)
    (before after : List ℚ) :
    Prop :=
  before ≠ [] ∧ after ≠ [] ∧
    jumpOf backend before after ≥ gate

instance
    (backend : ChangePointBackend)
    (gate : ℚ)
    (before after : List ℚ) :
    Decidable (JumpsBy backend gate before after) := by
  unfold JumpsBy
  infer_instance

/- The loop over the inner bounds. -/
def gatedBy
    (backend : ChangePointBackend)
    (gate : ℚ)
    (signal : List ℚ)
    (bounds : List Nat) :
    List Nat :=
  middles
    (fun previous b next =>
      JumpsBy backend gate (slice signal previous b)
        (slice signal b next))
    bounds

namespace DetectorConfig

/- `_min_size`. -/
def minSize
    (config : DetectorConfig)
    (windowSize : Nat) :
    Nat :=
  max 1 ⌊toDouble (windowSize * config.minSizeRatio)⌋₊

/- The answer of the library about a signal. -/
def rawBreakpoints
    (config : DetectorConfig)
    (backend : ChangePointBackend)
    (windowSize : Nat)
    (signal : List ℚ) :
    Option (List Int) :=
  let penalty :=
    toDouble
      (backend.log signal.length * backend.variance signal)
  backend.pelt (config.minSize windowSize) signal penalty

/- The breakpoints of the library inside the signal. -/
def breakpointsOf
    (config : DetectorConfig)
    (backend : ChangePointBackend)
    (windowSize : Nat)
    (signal : List ℚ) :
    List Nat :=
  match config.rawBreakpoints backend windowSize signal with
  | none => []
  | some raw =>
      let inside := raw.filter fun b : Int =>
        0 < b ∧ b < signal.length
      inside.map Int.toNat

/- All breakpoints of the values, and the gated ones. -/
def detectJumps
    (config : DetectorConfig)
    (backend : ChangePointBackend)
    (windowSize : Nat)
    (values : List Sample) :
    List Nat × List Nat :=
  match interpolateNan backend values with
  | none => ([], [])
  | some signal =>
      if values.length ≥ 2 * config.minSize windowSize ∧
          backend.variance signal > 0 then
        let breakpoints :=
          config.breakpointsOf backend windowSize signal
        (breakpoints,
          gatedBy backend config.magnitudeGate signal
            (0 :: (breakpoints ++ [signal.length])))
      else
        ([], [])

/-
  The last block lies apart from the one before it.  A
  block that is not positive leaves nothing to compare, as
  the slices start at the end of the values.
-/
def contaminated
    (config : DetectorConfig)
    (backend : ChangePointBackend)
    (values : List Sample) :
    Bool :=
  let n : Int := values.length
  let blk := config.contaminationBlock
  let recent :=
    (values.drop (n - blk).toNat).filterMap Sample.value?
  let previous :=
    ((values.take (n - blk).toNat).drop
      (n - 2 * blk).toNat).filterMap Sample.value?
  n ≥ 2 * blk ∧
    JumpsBy backend config.magnitudeGate previous recent

end DetectorConfig

end AiEngine

end Icmp2

------------------------------------------------------------
-- Detectors
------------------------------------------------------------

namespace Icmp2

namespace AiEngine

open Monitoring Library

/- What a detector reads of a point. -/
structure PointView (K P : Type) where
  key : P → K
  timestamp : P → Instant
  value : P → Option ℚ

/- `CPAnchorResult`, with its two columns for a channel. -/
structure AnchorResult (K : Type) where
  timestamp : Instant
  channel : K
  anchorIndex : Option Int
  segmentLength : Int
  contamination : Bool
  trigger : Bool
  breakpoints : List Nat
  gatedBreakpoints : List Nat
  magnitudeGate : ℚ
  windowSize : Nat
  reason : String
  deriving DecidableEq, Repr

/- `ChangePointDetector`, with the window it was given. -/
structure ChangePointDetector
    (K P : Type)
    (windowSize : Nat) where
  window : Queues K windowSize P
  lastContamination : K → Option Bool

namespace ChangePointDetector

variable {K P : Type} [DecidableEq K]
variable (backend : ChangePointBackend)
variable (view : PointView K P)
variable (config : DetectorConfig)
variable {windowSize : Nat}

/- `push`, on the window of the detector. -/
def push
    (detector : ChangePointDetector K P windowSize)
    (point : P) :
    ChangePointDetector K P windowSize :=
  { detector with
    window := Queues.push view.key detector.window point }

/- `get_values`. -/
def values
    (detector : ChangePointDetector K P windowSize)
    (key : K) :
    List Sample :=
  (detector.window.get key).map fun point =>
    Sample.ofValue? (view.value point)

/-
  `anchor_status`.  `now` is read for a channel without
  points.
-/
def anchorStatus
    (now : Instant)
    (detector : ChangePointDetector K P windowSize)
    (key : K) :
    AnchorResult K × ChangePointDetector K P windowSize :=
  let points := detector.window.get key
  let values := detector.values view key
  let n := values.length
  let jumps := config.detectJumps backend windowSize values
  let anchorIndex : Option Int :=
    jumps.2.getLast?.map Int.ofNat
  let contamination := config.contaminated backend values
  let trigger :=
    contamination &&
      !(detector.lastContamination key).getD false
  let segmentLength : Int :=
    match anchorIndex with
    | none => n
    | some index => n - index
  let reason :=
    match anchorIndex with
    | none => "anchor 없음 (최근 magnitude 변화점 미검출)"
    | some index =>
        "anchor=idx" ++ intText index ++ ", 구간 " ++
          intText segmentLength ++ "시점"
  ({ timestamp :=
        match points.getLast? with
        | none => now
        | some last => view.timestamp last
     channel := key
     anchorIndex := anchorIndex
     segmentLength := segmentLength
     contamination := contamination
     trigger := trigger
     breakpoints := jumps.1
     gatedBreakpoints := jumps.2
     magnitudeGate := config.magnitudeGate
     windowSize := windowSize
     reason := reason },
    { detector with
      lastContamination := fun other =>
        if other = key then some contamination
        else detector.lastContamination other })

/- A detector that has just been built over a window. -/
def initial
    (window : Queues K windowSize P) :
    ChangePointDetector K P windowSize where
  window := window
  lastContamination := fun _ => none

end ChangePointDetector

/- `_DEFAULT_MAGNITUDE_GATE`. -/
def magnitudeGate : ℚ :=
  50

/- `_DEFAULT_CONTAMINATION_BLOCK`. -/
def contaminationBlock : Int :=
  8

theorem quarter_pos : (0 : ℚ) < 1 / 4 := by
  decide +kernel

theorem quarter_le_half : (1 / 4 : ℚ) ≤ 1 / 2 := by
  decide +kernel

/- The default parameters of the constructor. -/
def DetectorConfig.default : DetectorConfig where
  minSizeRatio := 1 / 4
  magnitudeGate := AiEngine.magnitudeGate
  contaminationBlock := AiEngine.contaminationBlock
  minSizeRatio_pos := quarter_pos
  minSizeRatio_le := quarter_le_half

/- What the detector of the predictions reads. -/
def DataPoint.view : PointView ChannelKey SensorPoint where
  key := DataPoint.key
  timestamp := DataPoint.timestamp
  value := DataPoint.value

/- The result with a column for each part of the channel. -/
def AnchorResult.toCpAnchorResult
    (result : AnchorResult ChannelKey) :
    CpAnchorResult where
  timestamp := result.timestamp
  deviceId := result.channel.1
  sensorType := result.channel.2
  anchorIndex := result.anchorIndex
  segmentLength := result.segmentLength
  contamination := result.contamination
  trigger := result.trigger
  breakpoints := result.breakpoints
  gatedBreakpoints := result.gatedBreakpoints
  magnitudeGate := result.magnitudeGate
  windowSize := result.windowSize
  reason := result.reason

/- `anchor_status` of the detector of the predictions. -/
def anchorStatus
    (backend : ChangePointBackend)
    (now : Instant)
    {windowSize : Nat}
    (window : SlidingWindow windowSize)
    (lastContamination : ChannelKey → Option Bool)
    (key : ChannelKey) :
    CpAnchorResult × (ChannelKey → Option Bool) :=
  let detector :
      ChangePointDetector ChannelKey SensorPoint
        windowSize :=
    ⟨window, lastContamination⟩
  let called :=
    detector.anchorStatus backend DataPoint.view .default
      now key
  (called.1.toCpAnchorResult, called.2.lastContamination)

end AiEngine

end Icmp2

------------------------------------------------------------
-- Anchors Lie Inside the Window
------------------------------------------------------------

namespace Icmp2

namespace AiEngine

open Monitoring Library

variable {backend : ChangePointBackend}
variable {config : DetectorConfig}
variable {windowSize : Nat}

/- What is left of the library's positions. -/
theorem bounds_of_mem_inside
    {raw : List Int}
    {n b : Nat}
    (hMem :
      b ∈
        (raw.filter fun b : Int => 0 < b ∧ b < n).map
          Int.toNat) :
    0 < b ∧ b < n := by
  rcases List.mem_map.mp hMem with ⟨found, hFound, rfl⟩
  have hInside :=
    of_decide_eq_true (List.mem_filter.mp hFound).2
  omega

theorem mem_breakpointsOf_bounds
    {signal : List ℚ}
    {b : Nat}
    (hMem :
      b ∈ config.breakpointsOf backend windowSize signal) :
    0 < b ∧ b < signal.length := by
  unfold DetectorConfig.breakpointsOf at hMem
  cases hRaw :
      config.rawBreakpoints backend windowSize signal with
  | none =>
      simp only [hRaw] at hMem
      cases hMem
  | some raw =>
      simp only [hRaw] at hMem
      exact bounds_of_mem_inside hMem

/- A missing value is NaN and no value is infinite. -/
theorem Sample.ofValue?_ne_inf
    (value : Option ℚ) :
    Sample.ofValue? value ≠ .inf := by
  cases value with
  | none => exact Sample.noConfusion
  | some value => exact Sample.noConfusion

/- Values without an infinite one keep their number. -/
theorem length_of_interpolateNan
    {values : List Sample}
    {signal : List ℚ}
    (hFinite : ∀ sample ∈ values, sample ≠ .inf)
    (hSignal : interpolateNan backend values = some signal) :
    0 < signal.length ∧
      signal.length = values.length := by
  unfold interpolateNan at hSignal
  split_ifs at hSignal with hMissing
  have hLength := length_filledBy hFinite hSignal
  refine ⟨?_, hLength⟩
  rw [hLength]
  apply List.length_pos_of_ne_nil
  rintro rfl
  exact hMissing rfl

/- A gated breakpoint is an inner index of the values. -/
theorem detectJumps_gated_bounds
    {values : List Sample}
    (hFinite : ∀ sample ∈ values, sample ≠ .inf)
    {b : Nat}
    (hMem :
      b ∈
        (config.detectJumps backend windowSize values).2) :
    0 < b ∧ b < values.length := by
  unfold DetectorConfig.detectJumps at hMem
  cases hSignal : interpolateNan backend values with
  | none =>
      simp only [hSignal] at hMem
      cases hMem
  | some signal =>
      simp only [hSignal] at hMem
      split_ifs at hMem
      · rw [← (length_of_interpolateNan hFinite hSignal).2]
        exact
          mem_breakpointsOf_bounds
            (mem_inner_of_mem_middles _ hMem)
      · cases hMem

variable {K P : Type}
variable (view : PointView K P)

theorem ChangePointDetector.values_finite
    (detector : ChangePointDetector K P windowSize)
    (key : K) :
    ∀ sample ∈ detector.values view key, sample ≠ .inf := by
  intro sample hMem
  rcases List.mem_map.mp hMem with ⟨point, _, rfl⟩
  exact Sample.ofValue?_ne_inf _

variable [DecidableEq K]

/- What an anchor says about the window it was found in. -/
theorem ChangePointDetector.anchor_bounds
    (now : Instant)
    (detector : ChangePointDetector K P windowSize)
    (key : K)
    {index : Int}
    (hAnchor :
      (detector.anchorStatus backend view config now
        key).1.anchorIndex =
          some index) :
    0 < index ∧
      index < (detector.values view key).length ∧
      (detector.anchorStatus backend view config now
          key).1.segmentLength =
        (detector.values view key).length - index := by
  have hLast :
      (config.detectJumps backend windowSize
          (detector.values view key)).2.getLast?.map
            Int.ofNat =
        some index :=
    hAnchor
  rcases Option.map_eq_some_iff.mp hLast with
    ⟨b, hGated, rfl⟩
  have hBounds :=
    detectJumps_gated_bounds
      (detector.values_finite view key)
      (List.mem_of_getLast? hGated)
  refine
    ⟨Int.natCast_pos.mpr hBounds.1,
      Int.ofNat_lt.mpr hBounds.2, ?_⟩
  simp only [anchorStatus, hGated, Option.map_some]

theorem anchorStatus_anchor
    (backend : ChangePointBackend)
    (now : Instant)
    (window : SlidingWindow windowSize)
    (lastContamination : ChannelKey → Option Bool)
    (key : ChannelKey)
    {index : Int}
    (hAnchor :
      (anchorStatus backend now window lastContamination
        key).1.anchorIndex =
          some index) :
    0 < index ∧
      index < (window.get key).length ∧
      (anchorStatus backend now window lastContamination
          key).1.segmentLength =
        (window.get key).length - index := by
  have hBounds :=
    ChangePointDetector.anchor_bounds DataPoint.view now
      (⟨window, lastContamination⟩ :
        ChangePointDetector ChannelKey SensorPoint
          windowSize)
      key hAnchor
  rw [ChangePointDetector.values, List.length_map]
    at hBounds
  exact hBounds

end AiEngine

end Icmp2
