import Icmp2.Alerts.PowerLoad

/-
  The displayed level of a power channel and its alarm.

  Main definitions include:
    * `Icmp2.Alerts.calcPowerChannelLevel`
    * `Icmp2.Alerts.powerStepB`
    * `Icmp2.Alerts.AlarmMatches`
    * `Icmp2.Alerts.SameSides`

  Main theorems include:
    * `Icmp2.Alerts.powerStepB_outcome`
    * `Icmp2.Alerts.severity_levelOfLoad_iff`
    * `Icmp2.Alerts.power_alarm_matches_iff`
    * `Icmp2.Alerts.sameSides_all_iff`

  The level is graded by the limits of the load rate policy,
  the alarm by 50 and 75 percent.
-/

------------------------------------------------------------
-- Levels of a Channel
------------------------------------------------------------

namespace Icmp2

namespace Alerts

open Monitoring AiEngine Library

/- What `calc_power_channel_level` returns. -/
inductive PowerLevel where
  | error
  | off
  | danger
  | warning
  | normal
  deriving DecidableEq, Repr

/- The returned text. -/
def PowerLevel.value : PowerLevel → String
  | error => "error"
  | off => "off"
  | danger => "danger"
  | warning => "warning"
  | normal => "normal"

/- A power reading with the columns that are graded. -/
structure PowerReading where
  channel : PowerChannel
  currentA : Option ℚ
  voltageV : Option ℚ
  powerW : Option ℚ
  deriving DecidableEq, Repr

/- The first active policy of the load rate, by id. -/
def loadRatePolicy?
    (policies : List ThresholdPolicy) :
    Option ThresholdPolicy :=
  policies.find? fun policy =>
    policy.category = "TH_POWER" ∧
      policy.metricCode = "load_rate" ∧
      policy.isActive = true

/- `warn_pct`. -/
def warnPct
    (policies : List ThresholdPolicy) :
    ℚ :=
  ((loadRatePolicy? policies).bind
    ThresholdPolicy.warningMax).getD 50

/- `danger_pct`. -/
def dangerPct
    (policies : List ThresholdPolicy) :
    ℚ :=
  ((loadRatePolicy? policies).bind
    ThresholdPolicy.dangerMax).getD 75

/- The level of a load rate. -/
def levelOfLoad
    (policies : List ThresholdPolicy)
    (loadPct : ℚ) :
    PowerLevel :=
  if loadPct ≥ dangerPct policies then
    .danger
  else if loadPct ≥ warnPct policies then
    .warning
  else
    .normal

/- `calc_power_channel_level`. -/
def calcPowerChannelLevel
    (policies : List ThresholdPolicy)
    (reading : PowerReading) :
    PowerLevel :=
  if reading.currentA = some (-1) ∧
      reading.voltageV = some (-1) ∧
      reading.powerW = some (-1) then
    .error
  else if reading.currentA = some 0 ∧
      reading.voltageV = some 0 ∧
      reading.powerW = some 0 then
    .off
  else
    match reading.powerW with
    | none => .normal
    | some powerW =>
        if powerW ≤ 0 then
          .normal
        else
          levelOfLoad policies
            (loadPercent powerW reading.channel.ratedW)

/-
  The load check of an ingested reading.  A value that is
  missing fails in `float(power_w)`.
-/
def powerStepB
    (text : PowerText)
    (now : Instant)
    (device : Device)
    (reading : PowerReading)
    (store : AlertStore) :
    AlertStore :=
  match reading.powerW with
  | none => store
  | some powerW =>
      checkPowerThresholds
        text now device reading.channel powerW store

/- The load rate of a reading. -/
def PowerReading.load?
    (reading : PowerReading) :
    Option ℚ :=
  reading.powerW.bind (loadRate? reading.channel)

theorem PowerChannel.ratedW_pos
    (channel : PowerChannel) :
    0 < channel.ratedW := by
  unfold ratedW
  split_ifs with hZero
  · decide +kernel
  · exact_mod_cast Nat.pos_of_ne_zero hZero

/- A load rate is there exactly for positive power. -/
theorem load?_eq
    (reading : PowerReading) :
    reading.load? =
      reading.powerW.bind fun powerW =>
        if powerW ≤ 0 then
          none
        else
          some
            (loadPercent powerW reading.channel.ratedW) := by
  have hRated := not_le.mpr reading.channel.ratedW_pos
  unfold PowerReading.load?
  congr 1
  funext powerW
  simp [loadRate?, hRated]

end Alerts

end Icmp2

------------------------------------------------------------
-- Severities
------------------------------------------------------------

namespace Icmp2

namespace Alerts

open Monitoring AiEngine Library

/- The severity that an alarm of a level has. -/
def PowerLevel.severity? : PowerLevel → Option Severity
  | danger => some .danger
  | warning => some .warning
  | error | off | normal => none

/- A level that alarms is the level of the load rate. -/
theorem severity_calcPowerChannelLevel
    (policies : List ThresholdPolicy)
    (reading : PowerReading) :
    (calcPowerChannelLevel policies reading).severity? =
      reading.load?.bind fun load =>
        (levelOfLoad policies load).severity? := by
  rw [load?_eq]
  unfold calcPowerChannelLevel
  split_ifs with hError hOff
  · rw [hError.2.2]
    rfl
  · rw [hOff.2.2]
    rfl
  · cases hPower : reading.powerW with
    | none => rfl
    | some powerW =>
        by_cases hNone : powerW ≤ 0
        · simp only [if_pos hNone, Option.bind_some]
          rfl
        · simp only [if_neg hNone, Option.bind_some]

/-
  The load rate is on the same side of the danger limit and
  of 75 and, below both, on the same side of the warning
  limit and of 50.
-/
def SameSides
    (policies : List ThresholdPolicy)
    (load : ℚ) :
    Prop :=
  (75 ≤ load ↔ dangerPct policies ≤ load) ∧
    (load < 75 → (50 ≤ load ↔ warnPct policies ≤ load))

instance
    (policies : List ThresholdPolicy)
    (load : ℚ) :
    Decidable (SameSides policies load) := by
  unfold SameSides
  infer_instance

/- The severity under a warning and a danger limit. -/
def limitSeverity?
    (warning danger load : ℚ) :
    Option Severity :=
  if load ≥ danger then
    some .danger
  else if load ≥ warning then
    some .warning
  else
    none

theorem limitSeverity?_eq_iff
    (warning danger fixedWarning fixedDanger load : ℚ) :
    limitSeverity? warning danger load =
        limitSeverity? fixedWarning fixedDanger load ↔
      (fixedDanger ≤ load ↔ danger ≤ load) ∧
        (load < fixedDanger →
          (fixedWarning ≤ load ↔ warning ≤ load)) := by
  unfold limitSeverity?
  by_cases hDanger : danger ≤ load
  · by_cases hFixed : fixedDanger ≤ load
    · simp [hDanger, hFixed, not_lt.mpr hFixed]
    · rw [if_pos hDanger, if_neg hFixed]
      split_ifs <;> simp [hDanger, hFixed]
  · by_cases hFixed : fixedDanger ≤ load
    · rw [if_neg hDanger, if_pos hFixed]
      split_ifs <;> simp [hDanger, hFixed]
    · have hBelow : load < fixedDanger := not_le.mp hFixed
      rw [if_neg hDanger, if_neg hFixed]
      split_ifs with hWarning hFirst hFirst
      · simp [hDanger, hFixed, hWarning, hFirst]
      · simp [hFixed, hBelow, hWarning, hFirst]
      · simp [hFixed, hBelow, hWarning, hFirst]
      · simp [hDanger, hFixed, hWarning, hFirst]

theorem severity_levelOfLoad
    (policies : List ThresholdPolicy)
    (load : ℚ) :
    (levelOfLoad policies load).severity? =
      limitSeverity? (warnPct policies)
        (dangerPct policies) load := by
  unfold levelOfLoad limitSeverity?
  split_ifs <;> rfl

/- The two gradings of one load rate. -/
theorem severity_levelOfLoad_iff
    (policies : List ThresholdPolicy)
    (load : ℚ) :
    (levelOfLoad policies load).severity? =
        loadSeverity? load ↔
      SameSides policies load := by
  rw [severity_levelOfLoad]
  exact limitSeverity?_eq_iff _ _ 50 75 load

end Alerts

end Icmp2

------------------------------------------------------------
-- Agreement
------------------------------------------------------------

namespace Icmp2

namespace Alerts

open Monitoring AiEngine Library

/- One event of the severity is created, and no other. -/
def Creates
    (severity : Severity)
    (before after : AlertStore) :
    Prop :=
  ∃ event : AlarmEvent,
    event.severity = severity ∧
      after = before.createAlarmEvent event

/-
  The check creates a danger event for the level danger, a
  warning event for the level warning, and else nothing.
-/
structure AlarmMatches
    (text : PowerText)
    (policies : List ThresholdPolicy)
    (now : Instant)
    (device : Device)
    (reading : PowerReading)
    (store : AlertStore) :
    Prop where
  danger :
    Creates .danger store
        (powerStepB text now device reading store) ↔
      calcPowerChannelLevel policies reading = .danger
  warning :
    Creates .warning store
        (powerStepB text now device reading store) ↔
      calcPowerChannelLevel policies reading = .warning
  nothing :
    powerStepB text now device reading store = store ↔
      calcPowerChannelLevel policies reading ≠ .danger ∧
        calcPowerChannelLevel policies reading ≠ .warning

theorem createAlarmEvent_ne
    (store : AlertStore)
    (event : AlarmEvent) :
    store.createAlarmEvent event ≠ store := by
  intro hSame
  have hLength :=
    congrArg (fun store => store.events.rows.length) hSame
  simp [AlertStore.createAlarmEvent, Table.insert]
    at hLength

theorem creates_createAlarmEvent_iff
    (store : AlertStore)
    (event : AlarmEvent)
    (severity : Severity) :
    Creates severity store (store.createAlarmEvent event) ↔
      event.severity = severity := by
  constructor
  · rintro ⟨other, rfl, hSame⟩
    have hRows :=
      congrArg (fun store => store.events.rows) hSame
    simp only [AlertStore.createAlarmEvent, Table.insert,
      List.append_cancel_left_eq, List.cons.injEq,
      and_true] at hRows
    rw [hRows]
  · intro hSeverity
    exact ⟨event, hSeverity, rfl⟩

theorem not_creates_self
    (store : AlertStore)
    (severity : Severity) :
    ¬ Creates severity store store := by
  rintro ⟨event, _, hSame⟩
  exact createAlarmEvent_ne store event hSame.symm

section Check

variable (text : PowerText)
variable (policies : List ThresholdPolicy)
variable (now : Instant)
variable {device : Device}
variable {reading : PowerReading}
variable {store : AlertStore}
variable {facility : Nat}
variable {rule : RuleOf .power}
variable (hFacility : device.facility = some facility)
variable
  (hRule : activeRule store.rules .power = some rule)
variable
  (hNoOpen :
    ¬ ∃ event ∈ store.events.rows,
      OpenOnChannel rule.1 device.id reading.channel event)
include hFacility hRule hNoOpen

/- With the way free, the severity decides. -/
theorem powerStepB_outcome :
    (∀ severity,
      Creates severity store
          (powerStepB text now device reading store) ↔
        reading.load?.bind loadSeverity? =
          some severity) ∧
      (powerStepB text now device reading store = store ↔
        reading.load?.bind loadSeverity? = none) := by
  have hQuiet :
      (∀ severity,
        Creates severity store store ↔
          none = some severity) ∧
        (store = store ↔
          (none : Option Severity) = none) :=
    ⟨fun severity =>
        iff_of_false (not_creates_self store severity)
          (by simp),
      iff_of_true rfl rfl⟩
  have hYoung :
      ¬ ∃ event ∈ store.events.rows,
        YoungOnChannel now rule.1 device.id
          reading.channel event := by
    rintro ⟨event, hMem, hOpen, _⟩
    exact hNoOpen ⟨event, hMem, hOpen⟩
  unfold powerStepB PowerReading.load?
  cases hPower : reading.powerW with
  | none => exact hQuiet
  | some powerW =>
      simp only [Option.bind_some, checkPowerThresholds,
        hFacility]
      cases hLoad : loadRate? reading.channel powerW with
      | none => exact hQuiet
      | some load =>
          simp only [Option.bind_some]
          cases hSeverity : loadSeverity? load with
          | none => exact hQuiet
          | some severity =>
              simp only [hRule, if_neg hYoung]
              constructor
              · intro other
                rw [creates_createAlarmEvent_iff,
                  Option.some.injEq]
                rfl
              · exact
                  iff_of_false
                    (createAlarmEvent_ne store _) (by simp)

/- The alarm matches the level if their severities do. -/
theorem alarmMatches_iff :
    AlarmMatches text policies now device reading store ↔
      (calcPowerChannelLevel policies reading).severity? =
        reading.load?.bind loadSeverity? := by
  have hOutcome :=
    powerStepB_outcome text now hFacility hRule hNoOpen
  generalize hLevel :
    calcPowerChannelLevel policies reading = level
  generalize hGraded :
    reading.load?.bind loadSeverity? = graded at hOutcome
  constructor
  · intro hMatches
    have hDanger := hMatches.danger
    have hWarning := hMatches.warning
    have hNothing := hMatches.nothing
    rw [hLevel, hOutcome.1] at hDanger hWarning
    rw [hLevel, hOutcome.2] at hNothing
    cases level with
    | danger => exact (hDanger.mpr rfl).symm
    | warning => exact (hWarning.mpr rfl).symm
    | error => exact (hNothing.mpr (by decide)).symm
    | off => exact (hNothing.mpr (by decide)).symm
    | normal => exact (hNothing.mpr (by decide)).symm
  · intro hSame
    refine ⟨?_, ?_, ?_⟩
    · rw [hLevel, hOutcome.1, ← hSame]
      cases level <;> decide
    · rw [hLevel, hOutcome.1, ← hSame]
      cases level <;> decide
    · rw [hLevel, hOutcome.2, ← hSame]
      cases level <;> decide

/-
  For every policy table and every reading, the alarm
  matches the displayed level exactly if the load rate, if
  there is one, is on the same sides of the limits of the
  policy and of the literals.
-/
theorem power_alarm_matches_iff :
    AlarmMatches text policies now device reading store ↔
      ∀ load ∈ reading.load?, SameSides policies load := by
  rw [alarmMatches_iff text policies now hFacility hRule
      hNoOpen,
    severity_calcPowerChannelLevel]
  cases hLoad : reading.load? with
  | none => simp
  | some load =>
      simp only [Option.bind_some, Option.mem_some_iff,
        forall_eq']
      exact severity_levelOfLoad_iff policies load

end Check

/- Every load is on the same sides of equal limits only. -/
theorem sameSides_all_iff
    (policies : List ThresholdPolicy) :
    (∀ load, 0 < load → SameSides policies load) ↔
      dangerPct policies = 75 ∧ warnPct policies = 50 := by
  constructor
  · intro hAll
    have hDanger : dangerPct policies = 75 := by
      apply le_antisymm
      · exact
          (hAll 75 (by decide +kernel)).1.mp (le_refl 75)
      · by_contra hLess
        have hMiddle :=
          hAll (max (dangerPct policies) 1)
            (lt_max_of_lt_right one_pos)
        have hReached :=
          hMiddle.1.mpr (le_max_left _ _)
        exact
          absurd hReached
            (not_le.mpr
              (max_lt (not_le.mp hLess) (by decide +kernel)))
    refine ⟨hDanger, le_antisymm ?_ ?_⟩
    · exact
        ((hAll 50 (by decide +kernel)).2
          (by decide +kernel)).mp (le_refl 50)
    · by_contra hLess
      have hMiddle :=
        hAll (max (warnPct policies) 1)
          (lt_max_of_lt_right one_pos)
      have hBelow : max (warnPct policies) 1 < 50 :=
        max_lt (not_le.mp hLess) (by decide +kernel)
      exact
        absurd
          ((hMiddle.2
              (hBelow.trans (by decide +kernel))).mpr
            (le_max_left _ _))
          (not_le.mpr hBelow)
  · rintro ⟨hDanger, hWarning⟩ load _
    unfold SameSides
    rw [hDanger, hWarning]
    exact ⟨Iff.rfl, fun _ => Iff.rfl⟩

/- A policy that alarms at 60 and at 80 percent. -/
def laxPolicy : ThresholdPolicy where
  id := 1
  metricCode := "load_rate"
  category := "TH_POWER"
  unit := "%"
  condition := "이상"
  scope := ""
  description := ""
  warningMin := none
  warningMax := some 60
  dangerMin := none
  dangerMax := some 80
  isActive := true
  updatedBy := ""

/- A reading of the rolling mill at some power. -/
def millReading
    (powerW : ℚ) :
    PowerReading where
  channel := millChannel
  currentA := some 4
  voltageV := some 220
  powerW := some powerW

theorem activeRule_powerStore :
    activeRule powerStore.rules .power =
      some ⟨⟨3, .power⟩, rfl⟩ := by
  rfl

theorem not_openOnChannel_powerStore
    (rule : RuleKey)
    (device : Nat)
    (channel : PowerChannel) :
    ¬ ∃ event ∈ powerStore.events.rows,
      OpenOnChannel rule device channel event := by
  rintro ⟨event, hMem, _⟩
  cases hMem

/- At 85 percent both speak of danger. -/
theorem power_alarm_matches_mill :
    AlarmMatches wholePowerText [laxPolicy] 0 powerDevice
      (millReading 850) powerStore :=
  (power_alarm_matches_iff wholePowerText [laxPolicy] 0
      rfl activeRule_powerStore
      (not_openOnChannel_powerStore _ _ _)).mpr
    (by decide +kernel)

/- At 78 percent the alarm says danger, the level warning. -/
theorem alarm_above_displayed_level :
    ¬ AlarmMatches wholePowerText [laxPolicy] 0 powerDevice
      (millReading 780) powerStore := by
  intro hMatches
  have hCreates :
      Creates .danger powerStore
        (powerStepB wholePowerText 0 powerDevice
          (millReading 780) powerStore) :=
    ((powerStepB_outcome wholePowerText 0 rfl
        activeRule_powerStore
        (not_openOnChannel_powerStore _ _ _)).1
      .danger).mpr
      (by decide +kernel)
  have hLevel := hMatches.danger.mp hCreates
  revert hLevel
  decide +kernel

end Alerts

end Icmp2
