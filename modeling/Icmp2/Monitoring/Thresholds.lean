import Icmp2.Library.Dict
import Icmp2.Monitoring.Reading
import Mathlib.Algebra.Order.Ring.Rat

/-
  Threshold policies and the grading of gas readings.

  Main definitions include:
    * `Icmp2.Monitoring.ThresholdPolicy`
    * `Icmp2.Monitoring.getThresholds`
    * `Icmp2.Monitoring.calcDangerLevel`
    * `Icmp2.Monitoring.checkThresholdExceeded`

  Main theorems include:
    * `Icmp2.Monitoring.o2_not_mem_getThresholds`
    * `Icmp2.Monitoring.mem_getThresholds_of_sole`
    * `Icmp2.Monitoring.mem_checkThresholdExceeded_iff`
    * `Icmp2.Monitoring.calcDangerLevel_eq_highest`
-/

------------------------------------------------------------
-- Levels
------------------------------------------------------------

namespace Icmp2

namespace Monitoring

/- The three danger levels. -/
inductive Level where
  | normal
  | caution
  | danger
  deriving DecidableEq, Repr

namespace Level

/- The label under which the server stores a level. -/
def label : Level → String
  | normal => "정상"
  | caution => "주의"
  | danger => "위험"

/- `LEVEL_PRIORITY`. -/
def priority : Level → Nat
  | normal => 0
  | caution => 1
  | danger => 2

/- `max(left, right, key=LEVEL_PRIORITY)`. -/
def highest
    (left right : Level) :
    Level :=
  if left.priority < right.priority then right else left

@[simp] theorem highest_normal
    (level : Level) :
    level.highest .normal = level := by
  cases level <;> rfl

@[simp] theorem normal_highest
    (level : Level) :
    Level.normal.highest level = level := by
  cases level <;> rfl

@[simp] theorem highest_danger
    (level : Level) :
    level.highest .danger = .danger := by
  cases level <;> rfl

theorem highest_assoc
    (first second third : Level) :
    (first.highest second).highest third =
      first.highest (second.highest third) := by
  cases first <;> cases second <;> cases third <;> rfl

theorem highest_right_comm
    (first second third : Level) :
    (first.highest second).highest third =
      (first.highest third).highest second := by
  cases first <;> cases second <;> cases third <;> rfl

end Level

end Monitoring

end Icmp2

------------------------------------------------------------
-- Threshold Policies
------------------------------------------------------------

namespace Icmp2

namespace Monitoring

/- One row of the threshold policy table. -/
structure ThresholdPolicy where
  id : Nat
  metricCode : String
  category : String
  unit : String
  condition : String
  scope : String
  description : String
  warningMin : Option ℚ
  warningMax : Option ℚ
  dangerMin : Option ℚ
  dangerMax : Option ℚ
  isActive : Bool
  updatedBy : String
  deriving DecidableEq, Repr

namespace ThresholdPolicy

/- Active, and in the scope or without a scope. -/
def Applies
    (scope : String)
    (policy : ThresholdPolicy) :
    Prop :=
  policy.isActive = true ∧
    (Library.Contains policy.scope scope ∨
      policy.scope = "")

instance
    (scope : String)
    (policy : ThresholdPolicy) :
    Decidable (policy.Applies scope) := by
  unfold Applies
  infer_instance

/- The entry of a policy in the threshold dictionary. -/
def limits
    (policy : ThresholdPolicy) :
    Option (String × (ℚ × ℚ)) :=
  if policy.metricCode = "o2" then
    none
  else
    match policy.warningMax, policy.dangerMax with
    | some warning, some danger =>
        some (policy.metricCode, (warning, danger))
    | _, _ => none

theorem limits_eq_some_iff
    (policy : ThresholdPolicy)
    (metric : String)
    (warning danger : ℚ) :
    policy.limits = some (metric, (warning, danger)) ↔
      policy.metricCode = metric ∧ metric ≠ "o2" ∧
        policy.warningMax = some warning ∧
        policy.dangerMax = some danger := by
  by_cases hO2 : policy.metricCode = "o2"
  · simp only [limits, if_pos hO2, reduceCtorEq,
      false_iff]
    rintro ⟨hMetric, hNe, _⟩
    exact hNe (hMetric ▸ hO2)
  · simp only [limits, if_neg hO2]
    cases hWarning : policy.warningMax with
    | none => simp
    | some w =>
        cases hDanger : policy.dangerMax with
        | none => simp
        | some d =>
            simp only [Option.some.injEq, Prod.mk.injEq]
            constructor
            · rintro ⟨hMetric, hW, hD⟩
              exact ⟨hMetric, hMetric ▸ hO2, hW, hD⟩
            · rintro ⟨hMetric, _, hW, hD⟩
              exact ⟨hMetric, hW, hD⟩

end ThresholdPolicy

/- `DEFAULT_THRESHOLDS`. -/
def defaultThresholds :
    Library.Dict String (ℚ × ℚ) where
  entries :=
    [("co", (25, 200)),
      ("h2s", (10, 15)),
      ("co2", (1000, 5000)),
      ("no2", (3, 5)),
      ("so2", (2, 5)),
      ("o3", (0.06, 0.12)),
      ("nh3", (25, 35)),
      ("voc", (0.5, 1.0))]
  nodup := by decide

/- The default scope of `get_thresholds`. -/
def realtimeScope : String :=
  "실시간 관제"

/- The scope under which alarms are decided. -/
def alarmScope : String :=
  "알림"

/- The policies that `get_thresholds` selects. -/
def applicable
    (policies : List ThresholdPolicy)
    (scope : String) :
    List ThresholdPolicy :=
  policies.filter fun policy => policy.Applies scope

/- The limits in force, by metric. -/
def getThresholds
    (policies : List ThresholdPolicy)
    (scope : String) :
    Library.Dict String (ℚ × ℚ) :=
  if applicable policies scope = [] then
    defaultThresholds
  else
    Library.Dict.ofPairs
      ((applicable policies scope).filterMap
        ThresholdPolicy.limits)

theorem getThresholds_of_applicable_nil
    {policies : List ThresholdPolicy}
    {scope : String}
    (hNone : applicable policies scope = []) :
    getThresholds policies scope = defaultThresholds := by
  simp [getThresholds, hNone]

theorem getThresholds_of_applicable
    {policies : List ThresholdPolicy}
    {scope : String}
    (hSome : applicable policies scope ≠ []) :
    getThresholds policies scope =
      Library.Dict.ofPairs
        ((applicable policies scope).filterMap
          ThresholdPolicy.limits) := by
  simp [getThresholds, hSome]

/- An entry of a non-default table is a policy's limits. -/
theorem exists_policy_of_mem_getThresholds
    {policies : List ThresholdPolicy}
    {scope metric : String}
    {warning danger : ℚ}
    (hSome : applicable policies scope ≠ [])
    (hMem :
      (metric, (warning, danger)) ∈
        (getThresholds policies scope).entries) :
    ∃ policy ∈ applicable policies scope,
      policy.metricCode = metric ∧
        policy.warningMax = some warning ∧
        policy.dangerMax = some danger := by
  rw [getThresholds_of_applicable hSome] at hMem
  have hPair := Library.Dict.mem_of_mem_ofPairs hMem
  rcases List.mem_filterMap.mp hPair with
    ⟨policy, hPolicy, hLimits⟩
  rcases (policy.limits_eq_some_iff
    metric warning danger).mp hLimits with
    ⟨hMetric, _, hWarning, hDanger⟩
  exact ⟨policy, hPolicy, hMetric, hWarning, hDanger⟩

/- Oxygen never takes its limits from a table. -/
theorem o2_not_mem_getThresholds
    (policies : List ThresholdPolicy)
    (scope : String)
    (limits : ℚ × ℚ) :
    ("o2", limits) ∉
      (getThresholds policies scope).entries := by
  intro hMem
  by_cases hNone : applicable policies scope = []
  · rw [getThresholds_of_applicable_nil hNone] at hMem
    simp [defaultThresholds] at hMem
  · rw [getThresholds_of_applicable hNone] at hMem
    rcases List.mem_filterMap.mp
      (Library.Dict.mem_of_mem_ofPairs hMem) with
      ⟨policy, _, hLimits⟩
    exact
      ((policy.limits_eq_some_iff
        "o2" limits.1 limits.2).mp hLimits).2.1 rfl

/-
  A complete applicable policy that no other applicable
  policy of its metric competes with sets the limits.
-/
theorem mem_getThresholds_of_sole
    {policies : List ThresholdPolicy}
    {scope : String}
    {policy : ThresholdPolicy}
    {warning danger : ℚ}
    (hPolicy : policy ∈ applicable policies scope)
    (hO2 : policy.metricCode ≠ "o2")
    (hWarning : policy.warningMax = some warning)
    (hDanger : policy.dangerMax = some danger)
    (hSole :
      ∀ other ∈ applicable policies scope,
        other.metricCode = policy.metricCode →
        other = policy) :
    (policy.metricCode, (warning, danger)) ∈
      (getThresholds policies scope).entries := by
  have hSome : applicable policies scope ≠ [] :=
    List.ne_nil_of_mem hPolicy
  rw [getThresholds_of_applicable hSome]
  apply Library.Dict.mem_ofPairs_of_unique
  · apply List.mem_filterMap.mpr
    refine ⟨policy, hPolicy, ?_⟩
    exact
      (policy.limits_eq_some_iff _ _ _).mpr
        ⟨rfl, hO2, hWarning, hDanger⟩
  · intro limits hOther
    rcases List.mem_filterMap.mp hOther with
      ⟨other, hMem, hLimits⟩
    rcases (other.limits_eq_some_iff
      _ limits.1 limits.2).mp hLimits with
      ⟨hMetric, _, hOtherWarning, hOtherDanger⟩
    have hSame := hSole other hMem hMetric
    rw [hSame, hWarning] at hOtherWarning
    rw [hSame, hDanger] at hOtherDanger
    exact
      Prod.ext
        (Option.some.inj hOtherWarning).symm
        (Option.some.inj hOtherDanger).symm

end Monitoring

end Icmp2

------------------------------------------------------------
-- Grading
------------------------------------------------------------

namespace Icmp2

namespace Monitoring

/- `O2_WARN`. -/
def o2Warn : ℚ := 18

/- `O2_DANGER`. -/
def o2Danger : ℚ := 16

/- `O2_HIGH`. -/
def o2High : ℚ := 23.5

/- The level of an oxygen value. -/
def o2Level
    (value : ℚ) :
    Level :=
  if value < o2Danger then
    .danger
  else if value < o2Warn then
    .caution
  else if value > o2High then
    .caution
  else
    .normal

/- The level of a value under upper limits. -/
def gradeValue
    (limits : ℚ × ℚ)
    (value : ℚ) :
    Level :=
  if value ≥ limits.2 then
    .danger
  else if value ≥ limits.1 then
    .caution
  else
    .normal

theorem gradeValue_eq_danger_iff
    (limits : ℚ × ℚ)
    (value : ℚ) :
    gradeValue limits value = .danger ↔
      limits.2 ≤ value := by
  unfold gradeValue
  by_cases hDanger : value ≥ limits.2
  · simp [hDanger]
  · by_cases hWarning : value ≥ limits.1
    · simp [hDanger, hWarning]
    · simp [hDanger, hWarning]

theorem gradeValue_eq_caution_iff
    (limits : ℚ × ℚ)
    (value : ℚ) :
    gradeValue limits value = .caution ↔
      limits.1 ≤ value ∧ value < limits.2 := by
  unfold gradeValue
  by_cases hDanger : value ≥ limits.2
  · simp [hDanger, not_lt.mpr hDanger]
  · by_cases hWarning : value ≥ limits.1
    · simp [hDanger, hWarning, not_le.mp hDanger]
    · simp [hDanger, hWarning]

theorem gradeValue_eq_normal_iff
    (limits : ℚ × ℚ)
    {value : ℚ}
    (hOrder : limits.1 ≤ limits.2) :
    gradeValue limits value = .normal ↔
      value < limits.1 := by
  unfold gradeValue
  by_cases hWarning : value ≥ limits.1
  · by_cases hDanger : value ≥ limits.2
    · simp [hDanger, not_lt.mpr hWarning]
    · simp [hDanger, hWarning, not_lt.mpr hWarning]
  · have hDanger : ¬ value ≥ limits.2 :=
      fun hGe => hWarning (le_trans hOrder hGe)
    simp [hDanger, hWarning, not_le.mp hWarning]

/- One round of the loop of `calc_danger_level`. -/
def gradeEntry
    (reading : GasReading)
    (level : Level)
    (entry : String × (ℚ × ℚ)) :
    Level :=
  if entry.1 = "o2" then
    level
  else
    match reading.getattr entry.1 with
    | none => level
    | some value =>
        match gradeValue entry.2 value with
        | .danger => .danger
        | .caution => level.highest .caution
        | .normal => level

/- The level that oxygen alone gives a reading. -/
def o2Start
    (reading : GasReading) :
    Level :=
  match reading.value .o2 with
  | none => .normal
  | some value => o2Level value

/- The overall danger level of a reading. -/
def calcDangerLevel
    (policies : List ThresholdPolicy)
    (reading : GasReading) :
    Level :=
  (getThresholds policies realtimeScope).entries.foldl
    (gradeEntry reading)
    (o2Start reading)

/- One reported gas. -/
structure Exceeded where
  gas : String
  value : ℚ
  level : Level
  deriving DecidableEq, Repr

/- A gas is reported unless its level is normal. -/
def report
    (gas : String)
    (value : ℚ)
    (level : Level) :
    Option Exceeded :=
  if level = .normal then
    none
  else
    some ⟨gas, value, level⟩

/- The report on oxygen. -/
def o2Exceeded
    (reading : GasReading) :
    Option Exceeded :=
  match reading.value .o2 with
  | none => none
  | some value => report "o2" value (o2Level value)

/- One round of the loop of `check_threshold_exceeded`. -/
def entryExceeded
    (reading : GasReading)
    (entry : String × (ℚ × ℚ)) :
    Option Exceeded :=
  if entry.1 = "o2" then
    none
  else
    match reading.getattr entry.1 with
    | none => none
    | some value =>
        report entry.1 value (gradeValue entry.2 value)

/- The gases of a reading that exceed their limits. -/
def checkThresholdExceeded
    (policies : List ThresholdPolicy)
    (reading : GasReading)
    (scope : String) :
    List Exceeded :=
  (o2Exceeded reading).toList ++
    (getThresholds policies scope).entries.filterMap
      (entryExceeded reading)

theorem report_eq_some_iff
    (gas : String)
    (value : ℚ)
    (level : Level)
    (entry : Exceeded) :
    report gas value level = some entry ↔
      level ≠ .normal ∧ entry = ⟨gas, value, level⟩ := by
  unfold report
  by_cases hNormal : level = .normal
  · simp [hNormal]
  · simp [hNormal, eq_comm]

theorem entryExceeded_eq_some_iff
    (reading : GasReading)
    (entry : String × (ℚ × ℚ))
    (found : Exceeded) :
    entryExceeded reading entry = some found ↔
      entry.1 ≠ "o2" ∧
        ∃ value,
          reading.getattr entry.1 = some value ∧
          gradeValue entry.2 value ≠ .normal ∧
          found =
            ⟨entry.1, value,
              gradeValue entry.2 value⟩ := by
  unfold entryExceeded
  by_cases hO2 : entry.1 = "o2"
  · simp [hO2]
  · rw [if_neg hO2]
    cases hValue : reading.getattr entry.1 with
    | none => simp
    | some value => simp [report_eq_some_iff, hO2]

/- The report of a gas carries the name of the gas. -/
theorem entryExceeded_gas
    {reading : GasReading}
    {entry : String × (ℚ × ℚ)}
    {found : Exceeded}
    (hFound : entryExceeded reading entry = some found) :
    found.gas = entry.1 := by
  rcases (entryExceeded_eq_some_iff
    reading entry found).mp hFound with
    ⟨_, value, _, _, hEq⟩
  rw [hEq]

theorem o2Exceeded_gas
    {reading : GasReading}
    {found : Exceeded}
    (hFound : o2Exceeded reading = some found) :
    found.gas = "o2" := by
  unfold o2Exceeded at hFound
  cases hValue : reading.value .o2 with
  | none => simp [hValue] at hFound
  | some value =>
      simp only [hValue, report_eq_some_iff] at hFound
      rw [hFound.2]

/- What the list says about a gas other than oxygen. -/
theorem mem_checkThresholdExceeded_iff
    (policies : List ThresholdPolicy)
    (reading : GasReading)
    (scope : String)
    {found : Exceeded}
    (hO2 : found.gas ≠ "o2") :
    found ∈ checkThresholdExceeded
        policies reading scope ↔
      ∃ limits value,
        (found.gas, limits) ∈
          (getThresholds policies scope).entries ∧
        reading.getattr found.gas = some value ∧
        gradeValue limits value ≠ .normal ∧
        found =
          ⟨found.gas, value,
            gradeValue limits value⟩ := by
  simp only [checkThresholdExceeded, List.mem_append,
    Option.mem_toList, List.mem_filterMap]
  constructor
  · rintro (hStart | ⟨⟨gas, limits⟩, hMem, hFound⟩)
    · exact absurd (o2Exceeded_gas hStart) hO2
    · have hGas := entryExceeded_gas hFound
      simp only at hGas
      rcases (entryExceeded_eq_some_iff
        reading (gas, limits) found).mp hFound with
        ⟨_, value, hValue, hLevel, hEq⟩
      subst hGas
      exact ⟨limits, value, hMem, hValue, hLevel, hEq⟩
  · rintro ⟨limits, value, hMem, hValue, hLevel, hEq⟩
    refine Or.inr ⟨(found.gas, limits), hMem, ?_⟩
    exact
      (entryExceeded_eq_some_iff _ _ _).mpr
        ⟨hO2, value, hValue, hLevel, hEq⟩

/- No reported level is normal. -/
theorem level_ne_normal_of_mem
    {policies : List ThresholdPolicy}
    {reading : GasReading}
    {scope : String}
    {found : Exceeded}
    (hMem :
      found ∈ checkThresholdExceeded
        policies reading scope) :
    found.level ≠ .normal := by
  rcases List.mem_append.mp hMem with hO2 | hEntry
  · rw [Option.mem_toList] at hO2
    unfold o2Exceeded at hO2
    cases hValue : reading.value .o2 with
    | none => simp [hValue] at hO2
    | some value =>
        simp only [hValue, report_eq_some_iff] at hO2
        rw [hO2.2]
        exact hO2.1
  · rcases List.mem_filterMap.mp hEntry with
      ⟨entry, _, hFound⟩
    rcases (entryExceeded_eq_some_iff
      reading entry found).mp hFound with
      ⟨_, value, _, hLevel, hEq⟩
    rw [hEq]
    exact hLevel

/- The list speaks about oxygen by the fixed limits. -/
theorem filter_o2_checkThresholdExceeded
    (policies : List ThresholdPolicy)
    (reading : GasReading)
    (scope : String) :
    (checkThresholdExceeded policies reading scope).filter
        (fun entry => entry.gas = "o2") =
      (o2Exceeded reading).toList := by
  rw [checkThresholdExceeded, List.filter_append]
  have hTail :
      ((getThresholds policies scope).entries.filterMap
          (entryExceeded reading)).filter
        (fun entry => entry.gas = "o2") = [] := by
    rw [List.filter_eq_nil_iff]
    intro found hFound
    rcases List.mem_filterMap.mp hFound with
      ⟨entry, _, hEntry⟩
    have hO2 :=
      ((entryExceeded_eq_some_iff
        reading entry found).mp hEntry).1
    simpa [entryExceeded_gas hEntry] using hO2
  rw [hTail, List.append_nil]
  cases hStart : o2Exceeded reading with
  | none => rfl
  | some found => simp [o2Exceeded_gas hStart]

/- The level that one entry gives a reading. -/
def entryLevel
    (reading : GasReading)
    (entry : String × (ℚ × ℚ)) :
    Level :=
  if entry.1 = "o2" then
    .normal
  else
    match reading.getattr entry.1 with
    | none => .normal
    | some value => gradeValue entry.2 value

theorem gradeEntry_eq_highest
    (reading : GasReading)
    (level : Level)
    (entry : String × (ℚ × ℚ)) :
    gradeEntry reading level entry =
      level.highest (entryLevel reading entry) := by
  unfold gradeEntry entryLevel
  by_cases hO2 : entry.1 = "o2"
  · simp [hO2]
  · rw [if_neg hO2, if_neg hO2]
    cases hValue : reading.getattr entry.1 with
    | none => simp
    | some value =>
        cases hLevel : gradeValue entry.2 value with
        | normal => simp [hLevel]
        | caution => simp [hLevel]
        | danger => simp [hLevel]

theorem foldl_gradeEntry
    (reading : GasReading)
    (entries : List (String × (ℚ × ℚ)))
    (level : Level) :
    entries.foldl (gradeEntry reading) level =
      level.highest
        (entries.foldl (gradeEntry reading) .normal) := by
  induction entries generalizing level with
  | nil => simp
  | cons entry entries ih =>
      simp only [List.foldl_cons, gradeEntry_eq_highest,
        Level.normal_highest]
      rw [ih (level.highest _), ih (entryLevel _ _),
        Level.highest_assoc]

/- The level that the metric itself gives a reading. -/
def metricLevel
    (policies : List ThresholdPolicy)
    (scope : String)
    (reading : GasReading)
    (metric : String) :
    Level :=
  ((getThresholds policies scope).entries.filter
      fun entry => decide (¬ entry.1 ≠ metric)).foldl
    (gradeEntry reading)
    .normal

/- The level of a reading without regard to one metric. -/
def dangerLevelWithout
    (policies : List ThresholdPolicy)
    (reading : GasReading)
    (metric : String) :
    Level :=
  ((getThresholds
      policies realtimeScope).entries.filter
        fun entry => decide (entry.1 ≠ metric)).foldl
    (gradeEntry reading)
    (o2Start reading)

/- The danger level splits off the level of one metric. -/
theorem calcDangerLevel_eq_highest
    (policies : List ThresholdPolicy)
    (reading : GasReading)
    (metric : String) :
    calcDangerLevel policies reading =
      (dangerLevelWithout policies reading metric).highest
        (metricLevel
          policies realtimeScope reading metric) := by
  unfold calcDangerLevel dangerLevelWithout metricLevel
  generalize o2Start reading = level
  induction (getThresholds
      policies realtimeScope).entries generalizing level with
  | nil => simp
  | cons entry entries ih =>
      by_cases hMetric : entry.1 = metric
      · rw [List.filter_cons_of_neg (by simp [hMetric]),
          List.filter_cons_of_pos (by simp [hMetric])]
        simp only [List.foldl_cons, gradeEntry_eq_highest,
          Level.normal_highest]
        rw [ih, foldl_gradeEntry _ _ (level.highest _),
          foldl_gradeEntry _ _ level,
          foldl_gradeEntry _ _ (entryLevel _ _),
          ← Level.highest_assoc,
          Level.highest_right_comm level (entryLevel _ _)]
      · rw [List.filter_cons_of_pos (by simp [hMetric]),
          List.filter_cons_of_neg (by simp [hMetric])]
        simp only [List.foldl_cons]
        exact ih _

end Monitoring

end Icmp2
