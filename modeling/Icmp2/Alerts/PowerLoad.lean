import Icmp2.Alerts.Services
import Icmp2.Library.Rounding

/-
  Alarms on the load rate of a power channel.

  Main definitions include:
    * `Icmp2.Alerts.PowerChannel`
    * `Icmp2.Alerts.loadPercent`
    * `Icmp2.Alerts.loadRate?`
    * `Icmp2.Alerts.checkPowerThresholds`
    * `Icmp2.Alerts.DangerRecorded`
    * `Icmp2.Alerts.NotBlocked`

  Main theorems include:
    * `Icmp2.Alerts.dangerRecorded_iff`
    * `Icmp2.Alerts.danger_loads_recorded_iff`
-/

------------------------------------------------------------
-- Load Rates
------------------------------------------------------------

namespace Icmp2

namespace Alerts

open Monitoring AiEngine Library

/- A channel with the columns that the load check reads. -/
structure PowerChannel extends DeviceChannel where
  channelName : String
  ratedPowerW : Nat
  deriving DecidableEq, Repr

/- `channel_name or channel_code`. -/
def PowerChannel.label
    (channel : PowerChannel) :
    String :=
  if channel.channelName = "" then
    channel.channelCode.text
  else
    channel.channelName

/- Number texts with no and with one decimal besides. -/
structure PowerText extends FloatText where
  fixed0 : ℚ → String
  fixed1 : ℚ → String

/- `float(channel.rated_power_w or 1000)`. -/
def PowerChannel.ratedW
    (channel : PowerChannel) :
    ℚ :=
  if channel.ratedPowerW = 0 then
    1000
  else
    channel.ratedPowerW

/-
  `(power_w / rated_w) * 100`: the quotient is rounded to a
  double before it is scaled.
-/
def loadPercent
    (powerW ratedW : ℚ) :
    ℚ :=
  toDouble (toDouble (powerW / ratedW) * 100)

/- The load rate in percent; none without power. -/
def loadRate?
    (channel : PowerChannel)
    (powerW : ℚ) :
    Option ℚ :=
  if powerW ≤ 0 ∨ channel.ratedW ≤ 0 then
    none
  else
    some (loadPercent powerW channel.ratedW)

/- The severity of a load rate. -/
def loadSeverity?
    (loadRate : ℚ) :
    Option Severity :=
  if loadRate ≥ 75 then
    some .danger
  else if loadRate ≥ 50 then
    some .warning
  else
    none

/- `_SEVERITY_LABEL`. -/
def severityLabel : Severity → String
  | .danger => "위험"
  | .warning => "주의"
  | _ => ""

/- Five minutes. -/
def powerDedup : Int :=
  5 * 60 * 1000000

end Alerts

end Icmp2

------------------------------------------------------------
-- The Check
------------------------------------------------------------

namespace Icmp2

namespace Alerts

open Monitoring AiEngine Library

/- OPEN events of a channel under a rule. -/
def OpenOnChannel
    (rule : RuleKey)
    (device : Nat)
    (channel : PowerChannel)
    (event : AlarmEvent) :
    Prop :=
  OpenUnder rule device event ∧
    event.channel = some channel.id

instance
    (rule : RuleKey)
    (device : Nat)
    (channel : PowerChannel) :
    DecidablePred (OpenOnChannel rule device channel) := by
  intro event
  unfold OpenOnChannel
  infer_instance

/- OPEN events of a channel that are not five minutes old. -/
def YoungOnChannel
    (now : Instant)
    (rule : RuleKey)
    (device : Nat)
    (channel : PowerChannel)
    (event : AlarmEvent) :
    Prop :=
  OpenOnChannel rule device channel event ∧
    event.occurredAt ≥ now - powerDedup

instance
    (now : Instant)
    (rule : RuleKey)
    (device : Nat)
    (channel : PowerChannel) :
    DecidablePred
      (YoungOnChannel now rule device channel) := by
  intro event
  unfold YoungOnChannel
  infer_instance

/- The event that a load rate creates. -/
def loadEvent
    (text : PowerText)
    (now : Instant)
    (rule : RuleOf .power)
    (facility device : Nat)
    (channel : PowerChannel)
    (powerW loadRate : ℚ)
    (severity : Severity) :
    AlarmEvent :=
  newEvent now rule facility device (some channel.id)
    severity
    (.loadRate channel.label (text.fixed0 loadRate)
      (severityLabel severity))
    ("현재 전력: " ++ text.str powerW ++ "W, 부하율: " ++
      text.fixed1 loadRate ++ "%")
    none
    rfl
    (fun hFrom => hFrom.elim)

/- `check_power_thresholds`. -/
def checkPowerThresholds
    (text : PowerText)
    (now : Instant)
    (device : Device)
    (channel : PowerChannel)
    (powerW : ℚ)
    (store : AlertStore) :
    AlertStore :=
  match device.facility with
  | none => store
  | some facility =>
      match loadRate? channel powerW with
      | none => store
      | some loadRate =>
          match loadSeverity? loadRate with
          | none => store
          | some severity =>
              match activeRule store.rules .power with
              | none => store
              | some rule =>
                  if ∃ event ∈ store.events.rows,
                      YoungOnChannel now rule.1 device.id
                        channel event then
                    store
                  else
                    store.createAlarmEvent
                      (loadEvent text now rule facility
                        device.id channel powerW loadRate
                        severity)

end Alerts

end Icmp2

------------------------------------------------------------
-- Danger Loads
------------------------------------------------------------

namespace Icmp2

namespace Alerts

open Monitoring AiEngine Library

/- One call of the check. -/
structure PowerCall where
  now : Instant
  device : Device
  channel : PowerChannel
  powerW : ℚ

/- The store after a call. -/
def powerStep
    (text : PowerText)
    (store : AlertStore)
    (call : PowerCall) :
    AlertStore :=
  checkPowerThresholds
    text call.now call.device call.channel call.powerW store

/- A load of at least 75 percent on a checked channel. -/
structure DangerLoad
    (store : AlertStore)
    (call : PowerCall)
    (rule : RuleOf .power) :
    Prop where
  facility : call.device.facility.isSome
  rule : activeRule store.rules .power = some rule
  load :
    ∃ loadRate ∈ loadRate? call.channel call.powerW,
      loadRate ≥ 75

/- An OPEN danger event of the channel is in the store. -/
def DangerOpen
    (store : AlertStore)
    (call : PowerCall)
    (rule : RuleOf .power) :
    Prop :=
  ∃ event ∈ store.events.rows,
    OpenOnChannel rule.1 call.device.id call.channel
        event ∧
      event.severity = .danger

/- After a danger load a danger event is OPEN. -/
def DangerRecorded
    (text : PowerText)
    (store : AlertStore)
    (call : PowerCall) :
    Prop :=
  ∀ rule,
    DangerLoad store call rule →
    DangerOpen (powerStep text store call) call rule

/-
  Before a danger load no event of the channel is OPEN and
  younger than five minutes, unless a danger event is OPEN.
-/
def NotBlocked
    (store : AlertStore)
    (call : PowerCall) :
    Prop :=
  ∀ rule,
    DangerLoad store call rule →
    (∃ event ∈ store.events.rows,
      YoungOnChannel call.now rule.1 call.device.id
        call.channel event) →
    DangerOpen store call rule

/- What a call with a danger load does. -/
theorem powerStep_of_dangerLoad
    (text : PowerText)
    {store : AlertStore}
    {call : PowerCall}
    {rule : RuleOf .power}
    (hLoad : DangerLoad store call rule) :
    ∃ facility loadRate,
      powerStep text store call =
        if ∃ event ∈ store.events.rows,
            YoungOnChannel call.now rule.1 call.device.id
              call.channel event then
          store
        else
          store.createAlarmEvent
            (loadEvent text call.now rule facility
              call.device.id call.channel call.powerW
              loadRate .danger) := by
  rcases Option.isSome_iff_exists.mp hLoad.facility with
    ⟨facility, hFacility⟩
  rcases hLoad.load with ⟨loadRate, hRate, hDanger⟩
  have hSeverity : loadSeverity? loadRate = some .danger := by
    rw [loadSeverity?, if_pos hDanger]
  refine ⟨facility, loadRate, ?_⟩
  simp only [powerStep, checkPowerThresholds, hFacility,
    Option.mem_def.mp hRate, hSeverity, hLoad.rule]

/-
  A danger load is recorded exactly if it is not blocked:
  behind a young OPEN event the call changes nothing.
-/
theorem dangerRecorded_iff
    (text : PowerText)
    (store : AlertStore)
    (call : PowerCall) :
    DangerRecorded text store call ↔
      NotBlocked store call := by
  constructor
  · intro hRecorded rule hLoad hYoung
    have hOpen := hRecorded rule hLoad
    rcases powerStep_of_dangerLoad text hLoad with
      ⟨facility, loadRate, hStep⟩
    rw [hStep, if_pos hYoung] at hOpen
    exact hOpen
  · intro hNot rule hLoad
    rcases powerStep_of_dangerLoad text hLoad with
      ⟨facility, loadRate, hStep⟩
    rw [hStep]
    by_cases hYoung :
        ∃ event ∈ store.events.rows,
          YoungOnChannel call.now rule.1 call.device.id
            call.channel event
    · rw [if_pos hYoung]
      exact hNot rule hLoad hYoung
    · rw [if_neg hYoung]
      refine
        ⟨loadEvent text call.now rule facility
            call.device.id call.channel call.powerW
            loadRate .danger,
          ?_, ⟨⟨rfl, rfl, rfl⟩, rfl⟩, rfl⟩
      exact List.mem_append_right _ List.mem_cons_self

/-
  Along a run of calls every danger load is recorded exactly
  if no call with one is blocked.
-/
theorem danger_loads_recorded_iff
    (text : PowerText)
    (store : AlertStore)
    (calls : List PowerCall) :
    Along (powerStep text) (DangerRecorded text)
        store calls ↔
      Along (powerStep text) NotBlocked store calls :=
  along_congr (dangerRecorded_iff text) store calls

/- Number texts restricted to whole numbers. -/
def wholePowerText : PowerText where
  toFloatText := wholeText
  fixed0 := fun value =>
    String.ofList (Nat.toDigits 10 value.num.natAbs)
  fixed1 := wholeText.str

/- A power device with a facility. -/
def powerDevice : Device where
  id := 5
  deviceUid := "PWR-001"
  facility := some 1
  isActive := true
  status := "active"

/- Its first channel, rated at one kilowatt. -/
def millChannel : PowerChannel where
  id := 1
  channelCode := .slave01
  channelName := "압연기 전원"
  ratedPowerW := 1000

/- A store with an active power rule. -/
def powerStore : AlertStore where
  rules := [⟨⟨3, .power⟩, true⟩]
  events := Table.empty
  histories := []
  notifications := []

/- Half of the rated power, and most of it a minute on. -/
def climbingLoad : List PowerCall :=
  [⟨0, powerDevice, millChannel, 500⟩,
    ⟨60000000, powerDevice, millChannel, 800⟩]

/- The load climbs to danger, and the warning stays alone. -/
theorem danger_blocked_by_warning :
    ¬ Along (powerStep wholePowerText)
        (DangerRecorded wholePowerText)
        powerStore climbingLoad ∧
      (run (powerStep wholePowerText) powerStore
          climbingLoad).events.rows.map
          (fun event => (event.title, event.severity)) =
        [("[전력] 압연기 전원 부하율 50% 주의", .warning)] := by
  have hRows :
      (run (powerStep wholePowerText) powerStore
          climbingLoad).events.rows.map
          (fun event => (event.title, event.severity)) =
        [("[전력] 압연기 전원 부하율 50% 주의",
          .warning)] := by
    decide +kernel
  refine ⟨?_, hRows⟩
  rintro ⟨_, hSecond, _⟩
  have hLoad :
      DangerLoad
        (powerStep wholePowerText powerStore
          ⟨0, powerDevice, millChannel, 500⟩)
        ⟨60000000, powerDevice, millChannel, 800⟩
        ⟨⟨3, .power⟩, rfl⟩ :=
    ⟨rfl, by decide +kernel, 80, by decide +kernel,
      by decide +kernel⟩
  rcases hSecond _ hLoad with ⟨event, hMem, _, hDanger⟩
  have hIn :
      (event.title, event.severity) ∈
        (run (powerStep wholePowerText) powerStore
          climbingLoad).events.rows.map
            (fun event => (event.title, event.severity)) :=
    List.mem_map_of_mem hMem
  rw [hRows, List.mem_singleton, hDanger] at hIn
  cases congrArg Prod.snd hIn

end Alerts

end Icmp2
