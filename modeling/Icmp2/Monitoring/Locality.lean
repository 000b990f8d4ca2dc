import Icmp2.Library.Loop
import Icmp2.Monitoring.Thresholds

/-
  What one change of the policy table can change.

  Main definitions include:
    * `Icmp2.Monitoring.PolicyEdit`
    * `Icmp2.Monitoring.PolicyEdit.Concerns`
    * `Icmp2.Monitoring.checkThresholdExceeded?`
    * `Icmp2.Monitoring.calcDangerLevel?`

  Main theorems include:
    * `Icmp2.Monitoring.PolicyEdit.otherPolicies_apply`
    * `Icmp2.Monitoring.checkThresholdExceeded?_eq`
    * `Icmp2.Monitoring.policyEdit_local`

  Both functions raise where a policy names an attribute of
  the reading that does not compare with a number.
-/

------------------------------------------------------------
-- Edits of the Policy Table
------------------------------------------------------------

namespace Icmp2

namespace Monitoring

/- Adding, removing or deactivating one policy. -/
inductive PolicyEdit where
  | add (policy : ThresholdPolicy)
  | remove (id : Nat)
  | deactivate (id : Nat)
  deriving DecidableEq, Repr

namespace PolicyEdit

/- The policy table after an edit. -/
def apply
    (policies : List ThresholdPolicy) :
    PolicyEdit → List ThresholdPolicy
  | add policy => policies ++ [policy]
  | remove id =>
      policies.filter fun policy => policy.id ≠ id
  | deactivate id =>
      policies.map fun policy =>
        if policy.id = id then
          { policy with isActive := false }
        else
          policy

/- The edited policy is one of the given metric. -/
def Concerns
    (policies : List ThresholdPolicy)
    (metric : String) :
    PolicyEdit → Prop
  | add policy => policy.metricCode = metric
  | remove id =>
      ∀ policy ∈ policies,
        policy.id = id → policy.metricCode = metric
  | deactivate id =>
      ∀ policy ∈ policies,
        policy.id = id → policy.metricCode = metric

end PolicyEdit

/- The policies of every metric but one. -/
def otherPolicies
    (policies : List ThresholdPolicy)
    (metric : String) :
    List ThresholdPolicy :=
  policies.filter fun policy =>
    decide (policy.metricCode ≠ metric)

/- An edit leaves the policies of other metrics alone. -/
theorem PolicyEdit.otherPolicies_apply
    {policies : List ThresholdPolicy}
    {metric : String}
    {edit : PolicyEdit}
    (hConcerns : edit.Concerns policies metric) :
    otherPolicies (edit.apply policies) metric =
      otherPolicies policies metric := by
  cases edit with
  | add policy =>
      have hMetric : policy.metricCode = metric := hConcerns
      simp [apply, otherPolicies, hMetric]
  | remove id =>
      simp only [apply, otherPolicies, List.filter_filter]
      apply List.filter_congr
      intro policy hPolicy
      by_cases hId : policy.id = id
      · simp [hConcerns policy hPolicy hId]
      · simp [hId]
  | deactivate id =>
      simp only [apply, otherPolicies]
      induction policies with
      | nil => rfl
      | cons policy policies ih =>
          have hTail :=
            ih fun other hOther =>
              hConcerns other
                (List.mem_cons_of_mem policy hOther)
          by_cases hId : policy.id = id
          · have hMetric : policy.metricCode = metric :=
              hConcerns policy List.mem_cons_self hId
            rw [List.map_cons, if_pos hId,
              List.filter_cons_of_neg (by simp [hMetric]),
              List.filter_cons_of_neg (by simp [hMetric]),
              hTail]
          · rw [List.map_cons, if_neg hId,
              List.filter_cons, List.filter_cons, hTail]

end Monitoring

end Icmp2

------------------------------------------------------------
-- Limits of the Other Metrics
------------------------------------------------------------

namespace Icmp2

namespace Monitoring

/- The limits of other metrics come from their policies. -/
theorem filter_limits_eq
    (policies : List ThresholdPolicy)
    (scope metric : String) :
    ((applicable policies scope).filterMap
        ThresholdPolicy.limits).filter
          (fun entry => decide (entry.1 ≠ metric)) =
      (applicable
        (otherPolicies policies metric) scope).filterMap
          ThresholdPolicy.limits := by
  have hKey :
      ∀ policy entry,
        ThresholdPolicy.limits policy = some entry →
        decide (entry.1 ≠ metric) =
          decide (policy.metricCode ≠ metric) := by
    rintro policy ⟨key, warning, danger⟩ hLimits
    have hCode :=
      ((policy.limits_eq_some_iff
        key warning danger).mp hLimits).1
    simp [hCode]
  rw [Library.filter_filterMap_of_key hKey]
  simp only [applicable, otherPolicies,
    List.filter_filter, Bool.and_comm]

/-
  Two tables with the same policies of other metrics that
  are both empty or both not empty in the scope have the
  same limits for other metrics.
-/
theorem filter_getThresholds_eq
    {before after : List ThresholdPolicy}
    {scope metric : String}
    (hOther :
      otherPolicies after metric =
        otherPolicies before metric)
    (hSwitch :
      applicable before scope = [] ↔
        applicable after scope = []) :
    (getThresholds after scope).entries.filter
        (fun entry => decide (entry.1 ≠ metric)) =
      (getThresholds before scope).entries.filter
        (fun entry => decide (entry.1 ≠ metric)) := by
  by_cases hNone : applicable before scope = []
  · rw [getThresholds_of_applicable_nil hNone,
      getThresholds_of_applicable_nil (hSwitch.mp hNone)]
  · have hSome : applicable after scope ≠ [] :=
      fun hNil => hNone (hSwitch.mpr hNil)
    rw [getThresholds_of_applicable hNone,
      getThresholds_of_applicable hSome]
    rw [Library.Dict.filter_ofPairs
        (fun key => decide (key ≠ metric)),
      Library.Dict.filter_ofPairs
        (fun key => decide (key ≠ metric))]
    rw [filter_limits_eq, filter_limits_eq, hOther]

/- What the list says about the other gases. -/
theorem filter_checkThresholdExceeded
    (policies : List ThresholdPolicy)
    (reading : GasReading)
    (scope metric : String) :
    (checkThresholdExceeded policies reading scope).filter
        (fun found => decide (found.gas ≠ metric)) =
      (o2Exceeded reading).toList.filter
          (fun found => decide (found.gas ≠ metric)) ++
        ((getThresholds policies scope).entries.filter
          fun entry => decide (entry.1 ≠ metric)).filterMap
            (entryExceeded reading) := by
  have hKey :
      ∀ entry found,
        entryExceeded reading entry = some found →
        decide (found.gas ≠ metric) =
          decide (entry.1 ≠ metric) := by
    intro entry found hFound
    rw [entryExceeded_gas hFound]
  rw [checkThresholdExceeded, List.filter_append,
    Library.filter_filterMap_of_key hKey]

end Monitoring

end Icmp2

------------------------------------------------------------
-- Comparisons That Raise
------------------------------------------------------------

namespace Icmp2

namespace Monitoring

/- An attribute of a reading, as a comparison meets it. -/
inductive Attribute where
  | missing
  | number (value : ℚ)
  | other
  deriving DecidableEq, Repr

/-
  `getattr(reading, name, None)`, where `others` has the
  attributes that are no numbers: the other columns, and
  what the class of the reading defines.
-/
def GasReading.attribute
    (others : String → Bool)
    (reading : GasReading)
    (name : String) :
    Attribute :=
  match reading.getattr name with
  | some value => .number value
  | none =>
      if Gas.ofName? name = none ∧ others name = true then
        .other
      else
        .missing

/- One round of `check_threshold_exceeded`, which may raise. -/
def exceededRound
    (others : String → Bool)
    (reading : GasReading)
    (exceeded : List Exceeded)
    (entry : String × (ℚ × ℚ)) :
    Option (List Exceeded) :=
  if entry.1 = "o2" then
    some exceeded
  else
    match reading.attribute others entry.1 with
    | .missing => some exceeded
    | .number value =>
        some
          (exceeded ++
            (report entry.1 value
              (gradeValue entry.2 value)).toList)
    | .other => none

/- `check_threshold_exceeded`; none is a `TypeError`. -/
def checkThresholdExceeded?
    (others : String → Bool)
    (policies : List ThresholdPolicy)
    (reading : GasReading)
    (scope : String) :
    Option (List Exceeded) :=
  (getThresholds policies scope).entries.foldlM
    (exceededRound others reading)
    (o2Exceeded reading).toList

/- One round of `calc_danger_level`, which may raise. -/
def levelRound
    (others : String → Bool)
    (reading : GasReading)
    (level : Level)
    (entry : String × (ℚ × ℚ)) :
    Option Level :=
  if entry.1 = "o2" then
    some level
  else
    match reading.attribute others entry.1 with
    | .missing => some level
    | .number value =>
        match gradeValue entry.2 value with
        | .danger => some .danger
        | .caution => some (level.highest .caution)
        | .normal => some level
    | .other => none

/- `calc_danger_level`; none is a `TypeError`. -/
def calcDangerLevel?
    (others : String → Bool)
    (policies : List ThresholdPolicy)
    (reading : GasReading) :
    Option Level :=
  (getThresholds policies realtimeScope).entries.foldlM
    (levelRound others reading)
    (o2Start reading)

/- The name of an attribute that is there and no number. -/
def Incomparable
    (others : String → Bool)
    (name : String) :
    Prop :=
  Gas.ofName? name = none ∧ name ≠ "id" ∧ name ≠ "pk" ∧
    name ≠ "device_id" ∧ others name = true

instance
    (others : String → Bool) :
    DecidablePred (Incomparable others) := by
  intro name
  unfold Incomparable
  infer_instance

/- An entry of the limits for such an attribute. -/
def HasIncomparable
    (others : String → Bool)
    (entries : List (String × (ℚ × ℚ))) :
    Prop :=
  ∃ entry ∈ entries, Incomparable others entry.1

instance
    (others : String → Bool) :
    DecidablePred (HasIncomparable others) := by
  intro entries
  unfold HasIncomparable
  infer_instance

section Raising

variable {others : String → Bool}
variable {reading : GasReading}

theorem not_incomparable_gas
    (others : String → Bool)
    (gas : Gas) :
    ¬ Incomparable others gas.name := by
  rintro ⟨hName, _⟩
  rw [Gas.ofName?_name] at hName
  cases hName

theorem attribute_of_incomparable
    {name : String}
    (hName : Incomparable others name) :
    reading.attribute others name = .other := by
  rcases hName with ⟨hGas, hId, hPk, hDevice, hOther⟩
  simp [GasReading.attribute, GasReading.getattr, hGas, hId,
    hPk, hDevice, hOther]

theorem attribute_of_comparable
    {name : String}
    (hName : ¬ Incomparable others name) :
    reading.attribute others name =
      match reading.getattr name with
      | some value => .number value
      | none => .missing := by
  unfold GasReading.attribute
  cases hValue : reading.getattr name with
  | some value => rfl
  | none =>
      simp only
      rw [if_neg]
      rintro ⟨hGas, hOther⟩
      simp only [GasReading.getattr, hGas] at hValue
      split_ifs at hValue with hKey hDevice
      exact
        hName
          ⟨hGas, fun hId => hKey (Or.inl hId),
            fun hPk => hKey (Or.inr hPk), hDevice, hOther⟩

theorem exceededRound_eq
    (exceeded : List Exceeded)
    (entry : String × (ℚ × ℚ)) :
    exceededRound others reading exceeded entry =
      if Incomparable others entry.1 then none
      else
        some
          (exceeded ++
            (entryExceeded reading entry).toList) := by
  unfold exceededRound entryExceeded
  by_cases hO2 : entry.1 = "o2"
  · rw [if_pos hO2, if_pos hO2, hO2, if_neg]
    · rw [Option.toList_none, List.append_nil]
    · exact not_incomparable_gas others .o2
  · rw [if_neg hO2, if_neg hO2]
    by_cases hName : Incomparable others entry.1
    · rw [if_pos hName, attribute_of_incomparable hName]
    · rw [if_neg hName, attribute_of_comparable hName]
      cases reading.getattr entry.1 with
      | none => simp
      | some value => rfl

theorem levelRound_eq
    (level : Level)
    (entry : String × (ℚ × ℚ)) :
    levelRound others reading level entry =
      if Incomparable others entry.1 then none
      else some (gradeEntry reading level entry) := by
  unfold levelRound gradeEntry
  by_cases hO2 : entry.1 = "o2"
  · rw [if_pos hO2, if_pos hO2, hO2, if_neg]
    exact not_incomparable_gas others .o2
  · rw [if_neg hO2, if_neg hO2]
    by_cases hName : Incomparable others entry.1
    · rw [if_pos hName, attribute_of_incomparable hName]
    · rw [if_neg hName, attribute_of_comparable hName]
      cases reading.getattr entry.1 with
      | none => rfl
      | some value =>
          simp only
          cases gradeValue entry.2 value <;> rfl

/- The appends of the rounds, one behind the other. -/
theorem foldl_entryExceeded
    (entries : List (String × (ℚ × ℚ)))
    (exceeded : List Exceeded) :
    entries.foldl
        (fun exceeded entry =>
          exceeded ++ (entryExceeded reading entry).toList)
        exceeded =
      exceeded ++
        entries.filterMap (entryExceeded reading) := by
  induction entries generalizing exceeded with
  | nil => simp
  | cons entry entries ih =>
      rw [List.foldl_cons, ih, List.append_assoc]
      congr 1
      cases hFound : entryExceeded reading entry with
      | none => simp [hFound]
      | some found => simp [hFound]

variable (others reading)

/- Where nothing raises, the functions are as without it. -/
theorem checkThresholdExceeded?_eq
    (policies : List ThresholdPolicy)
    (scope : String) :
    checkThresholdExceeded? others policies reading scope =
      if HasIncomparable others
          (getThresholds policies scope).entries then
        none
      else
        some
          (checkThresholdExceeded policies reading
            scope) := by
  rw [checkThresholdExceeded?,
    Library.foldlM_eq_of_fails exceededRound_eq,
    foldl_entryExceeded]
  rfl

theorem foldlM_levelRound_eq
    (entries : List (String × (ℚ × ℚ)))
    (level : Level) :
    entries.foldlM (levelRound others reading) level =
      if HasIncomparable others entries then none
      else
        some (entries.foldl (gradeEntry reading) level) := by
  rw [Library.foldlM_eq_of_fails levelRound_eq]
  rfl

theorem calcDangerLevel?_eq
    (policies : List ThresholdPolicy) :
    calcDangerLevel? others policies reading =
      if HasIncomparable others
          (getThresholds policies realtimeScope).entries then
        none
      else
        some (calcDangerLevel policies reading) :=
  foldlM_levelRound_eq others reading _ _

end Raising

end Monitoring

end Icmp2

------------------------------------------------------------
-- Locality of an Edit
------------------------------------------------------------

namespace Icmp2

namespace Monitoring

/- The part of a list that speaks of other gases. -/
def reportsBut
    (metric : String)
    (exceeded : List Exceeded) :
    List Exceeded :=
  exceeded.filter fun found => decide (found.gas ≠ metric)

/- What `limits` alone report. -/
def reportsUnder
    (limits : Library.Dict String (ℚ × ℚ))
    (reading : GasReading) :
    List Exceeded :=
  (o2Exceeded reading).toList ++
    limits.entries.filterMap (entryExceeded reading)

/- The level that `limits` alone give. -/
def levelUnder
    (limits : Library.Dict String (ℚ × ℚ))
    (reading : GasReading) :
    Level :=
  limits.entries.foldl (gradeEntry reading)
    (o2Start reading)

/- `calc_danger_level` over all gases but one metric. -/
def dangerLevelWithout?
    (others : String → Bool)
    (policies : List ThresholdPolicy)
    (reading : GasReading)
    (metric : String) :
    Option Level :=
  ((getThresholds
      policies realtimeScope).entries.filter
        fun entry => decide (entry.1 ≠ metric)).foldlM
    (levelRound others reading)
    (o2Start reading)

/- The edit does not empty or fill the scope. -/
def KeepsScope
    (before after : List ThresholdPolicy)
    (scope : String) :
    Prop :=
  applicable before scope = [] ↔
    applicable after scope = []

instance
    (before after : List ThresholdPolicy)
    (scope : String) :
    Decidable (KeepsScope before after scope) := by
  unfold KeepsScope
  infer_instance

/- A policy that sets no pair of upper limits. -/
def Incomplete
    (policy : ThresholdPolicy) :
    Prop :=
  policy.warningMax = none ∨ policy.dangerMax = none

/- Another metric decides whether the limits raise. -/
theorem hasIncomparable_filter_iff
    {others : String → Bool}
    {metric : String}
    (hMetric : ¬ Incomparable others metric)
    (entries : List (String × (ℚ × ℚ))) :
    HasIncomparable others
        (entries.filter fun entry =>
          decide (entry.1 ≠ metric)) ↔
      HasIncomparable others entries := by
  unfold HasIncomparable
  constructor
  · rintro ⟨entry, hMem, hName⟩
    exact ⟨entry, List.mem_of_mem_filter hMem, hName⟩
  · rintro ⟨entry, hMem, hName⟩
    refine ⟨entry, List.mem_filter.mpr ⟨hMem, ?_⟩, hName⟩
    apply decide_eq_true
    rintro rfl
    exact hMetric hName

/- No gas of the default limits is incomparable. -/
theorem not_hasIncomparable_default
    (others : String → Bool) :
    ¬ HasIncomparable others defaultThresholds.entries := by
  rintro ⟨entry, hMem, hName⟩
  have hGas :
      ∀ entry ∈ defaultThresholds.entries,
        (Gas.ofName? entry.1).isSome := by
    decide
  have hSome := hGas entry hMem
  rw [hName.1] at hSome
  cases hSome

section Edit

variable {before after : List ThresholdPolicy}
variable {policies : List ThresholdPolicy}
variable {scope metric : String}
variable (others : String → Bool)
variable (reading : GasReading)

theorem reportsBut_checkThresholdExceeded
    (hOther :
      otherPolicies after metric =
        otherPolicies before metric)
    (hScope : KeepsScope before after scope) :
    reportsBut metric
        (checkThresholdExceeded after reading scope) =
      reportsBut metric
        (checkThresholdExceeded before reading scope) := by
  unfold reportsBut
  rw [filter_checkThresholdExceeded,
    filter_checkThresholdExceeded,
    filter_getThresholds_eq hOther hScope]

/- The same raises, and the same list for other gases. -/
theorem reportsBut_eq
    (hMetric : ¬ Incomparable others metric)
    (hOther :
      otherPolicies after metric =
        otherPolicies before metric)
    (hScope : KeepsScope before after scope) :
    (checkThresholdExceeded? others after reading
          scope).map (reportsBut metric) =
      (checkThresholdExceeded? others before reading
          scope).map (reportsBut metric) := by
  have hRaises :
      HasIncomparable others
          (getThresholds after scope).entries ↔
        HasIncomparable others
          (getThresholds before scope).entries := by
    rw [← hasIncomparable_filter_iff hMetric,
      filter_getThresholds_eq hOther hScope,
      hasIncomparable_filter_iff hMetric]
  rw [checkThresholdExceeded?_eq, checkThresholdExceeded?_eq]
  by_cases hBefore :
      HasIncomparable others
        (getThresholds before scope).entries
  · rw [if_pos hBefore, if_pos (hRaises.mpr hBefore)]
  · rw [if_neg hBefore,
      if_neg fun hAfter => hBefore (hRaises.mp hAfter),
      Option.map_some, Option.map_some,
      reportsBut_checkThresholdExceeded reading hOther
        hScope]

/- The level is that of the other gases and of the metric. -/
theorem calcDangerLevel?_eq_map
    (hMetric : ¬ Incomparable others metric) :
    calcDangerLevel? others policies reading =
      (dangerLevelWithout? others policies reading
          metric).map fun rest =>
        rest.highest
          (metricLevel policies realtimeScope reading
            metric) := by
  rw [calcDangerLevel?_eq, dangerLevelWithout?,
    foldlM_levelRound_eq]
  by_cases hRaises :
      HasIncomparable others
        (getThresholds policies realtimeScope).entries
  · rw [if_pos hRaises,
      if_pos
        ((hasIncomparable_filter_iff hMetric _).mpr hRaises)]
    rfl
  · rw [if_neg hRaises,
      if_neg fun hFiltered =>
        hRaises
          ((hasIncomparable_filter_iff hMetric _).mp
            hFiltered),
      Option.map_some,
      calcDangerLevel_eq_highest policies reading metric]
    rfl

theorem dangerLevelWithout?_eq
    (hOther :
      otherPolicies after metric =
        otherPolicies before metric)
    (hScope : KeepsScope before after realtimeScope) :
    dangerLevelWithout? others after reading metric =
      dangerLevelWithout? others before reading metric := by
  unfold dangerLevelWithout?
  rw [filter_getThresholds_eq hOther hScope]

/- Without policies the defaults alone decide. -/
theorem checkThresholdExceeded?_default
    (hNone : applicable policies scope = []) :
    checkThresholdExceeded? others policies reading scope =
      some (reportsUnder defaultThresholds reading) := by
  rw [checkThresholdExceeded?_eq, checkThresholdExceeded,
    getThresholds_of_applicable_nil hNone,
    if_neg (not_hasIncomparable_default others)]
  rfl

theorem calcDangerLevel?_default
    (hNone : applicable policies realtimeScope = []) :
    calcDangerLevel? others policies reading =
      some (levelUnder defaultThresholds reading) := by
  rw [calcDangerLevel?_eq, calcDangerLevel,
    getThresholds_of_applicable_nil hNone,
    if_neg (not_hasIncomparable_default others)]
  rfl

variable {gas : Gas}
variable (hSome : applicable policies scope ≠ [])
variable
  (hIncomplete :
    ∀ policy ∈ applicable policies scope,
      policy.metricCode = gas.name →
      Incomplete policy)
include hSome hIncomplete

/- A gas without complete policy has no limits. -/
theorem ne_of_mem_getThresholds_of_incomplete
    {entry : String × (ℚ × ℚ)}
    (hMem : entry ∈ (getThresholds policies scope).entries) :
    entry.1 ≠ gas.name := by
  intro hGas
  rcases exists_policy_of_mem_getThresholds
    hSome hMem with
    ⟨policy, hPolicy, hMetric, hWarning, hDanger⟩
  rcases hIncomplete policy hPolicy
    (hMetric.trans hGas) with hNone | hNone
  · rw [hNone] at hWarning
    cases hWarning
  · rw [hNone] at hDanger
    cases hDanger

/- It drops out of the list. -/
theorem not_reported_of_incomplete
    (hO2 : gas ≠ .o2)
    {exceeded : List Exceeded}
    (hExceeded :
      checkThresholdExceeded? others policies reading
          scope =
        some exceeded) :
    ∀ found ∈ exceeded, found.gas ≠ gas.name := by
  intro found hFound hGas
  rw [checkThresholdExceeded?_eq] at hExceeded
  split_ifs at hExceeded
  rw [← Option.some.inj hExceeded] at hFound
  have hName : found.gas ≠ "o2" := by
    intro hEq
    exact hO2 (Gas.name_injective (hGas.symm.trans hEq))
  rcases (mem_checkThresholdExceeded_iff
    policies reading scope hName).mp hFound with
    ⟨limits, value, hMem, _⟩
  exact
    ne_of_mem_getThresholds_of_incomplete hSome hIncomplete
      hMem hGas

end Edit

/- The rounds read the gases of the limits only. -/
theorem foldlM_levelRound_withValue
    (others : String → Bool)
    (reading : GasReading)
    {gas : Gas}
    (value : ℚ)
    {entries : List (String × (ℚ × ℚ))}
    (hNe : ∀ entry ∈ entries, entry.1 ≠ gas.name)
    (level : Level) :
    entries.foldlM
        (levelRound others (reading.withValue gas value))
        level =
      entries.foldlM (levelRound others reading) level := by
  induction entries generalizing level with
  | nil => rfl
  | cons entry entries ih =>
      have hEntry := hNe entry List.mem_cons_self
      have hRound :
          levelRound others (reading.withValue gas value)
              level entry =
            levelRound others reading level entry := by
        unfold levelRound GasReading.attribute
        rw [reading.getattr_withValue_of_ne value hEntry]
      rw [List.foldlM_cons, List.foldlM_cons, hRound]
      congr 1
      funext next
      apply ih
      intro other hMem
      exact hNe other (List.mem_cons_of_mem entry hMem)

/- A value of such a gas does not count for the level. -/
theorem calcDangerLevel?_withValue
    (others : String → Bool)
    {policies : List ThresholdPolicy}
    (reading : GasReading)
    (hSome : applicable policies realtimeScope ≠ [])
    {gas : Gas}
    (hO2 : gas ≠ .o2)
    (hIncomplete :
      ∀ policy ∈ applicable policies realtimeScope,
        policy.metricCode = gas.name →
        Incomplete policy)
    (value : ℚ) :
    calcDangerLevel? others policies
        (reading.withValue gas value) =
      calcDangerLevel? others policies reading := by
  have hValue :
      (reading.withValue gas value).value .o2 =
        reading.value .o2 :=
    Function.update_of_ne hO2.symm _ _
  have hStart :
      o2Start (reading.withValue gas value) =
        o2Start reading := by
    unfold o2Start
    rw [hValue]
  unfold calcDangerLevel?
  rw [hStart]
  apply foldlM_levelRound_withValue
  intro entry hMem
  exact
    ne_of_mem_getThresholds_of_incomplete hSome hIncomplete
      hMem

/-
  An edit of one metric that neither empties nor fills the
  scope, and is none of an attribute that does not compare,
  changes the grading of no other gas.  A scope without
  policies is graded by the defaults; in a scope with
  policies a gas that they leave out is not graded.
-/
theorem policyEdit_local
    (others : String → Bool)
    (policies : List ThresholdPolicy)
    (edit : PolicyEdit)
    (metric scope : String)
    (reading : GasReading)
    (hConcerns : edit.Concerns policies metric) :
    (¬ Incomparable others metric →
      KeepsScope policies (edit.apply policies) scope →
      (checkThresholdExceeded? others
            (edit.apply policies) reading scope).map
          (reportsBut metric) =
        (checkThresholdExceeded? others policies reading
            scope).map (reportsBut metric)) ∧
    (¬ Incomparable others metric →
      KeepsScope
        policies (edit.apply policies) realtimeScope →
      calcDangerLevel? others policies reading =
          (dangerLevelWithout? others policies reading
              metric).map (fun rest =>
            rest.highest
              (metricLevel
                policies realtimeScope reading metric)) ∧
        calcDangerLevel? others (edit.apply policies)
            reading =
          (dangerLevelWithout? others policies reading
              metric).map (fun rest =>
            rest.highest
              (metricLevel
                (edit.apply policies)
                realtimeScope reading metric))) ∧
    (applicable policies scope = [] →
      checkThresholdExceeded? others policies reading
          scope =
        some (reportsUnder defaultThresholds reading)) ∧
    (applicable policies realtimeScope = [] →
      calcDangerLevel? others policies reading =
        some (levelUnder defaultThresholds reading)) ∧
    ∀ gas : Gas,
      gas ≠ .o2 →
      (applicable policies scope ≠ [] →
        (∀ policy ∈ applicable policies scope,
          policy.metricCode = gas.name →
          Incomplete policy) →
        ∀ exceeded,
          checkThresholdExceeded? others policies reading
              scope =
            some exceeded →
          ∀ found ∈ exceeded, found.gas ≠ gas.name) ∧
      (applicable policies realtimeScope ≠ [] →
        (∀ policy ∈ applicable policies realtimeScope,
          policy.metricCode = gas.name →
          Incomplete policy) →
        ∀ value,
          calcDangerLevel? others policies
              (reading.withValue gas value) =
            calcDangerLevel? others policies reading) := by
  have hOther :
      otherPolicies (edit.apply policies) metric =
        otherPolicies policies metric :=
    PolicyEdit.otherPolicies_apply hConcerns
  refine
    ⟨?_, ?_,
      fun hNone =>
        checkThresholdExceeded?_default others reading hNone,
      fun hNone =>
        calcDangerLevel?_default others reading hNone, ?_⟩
  · intro hMetric hScope
    exact reportsBut_eq others reading hMetric hOther hScope
  · intro hMetric hScope
    refine
      ⟨calcDangerLevel?_eq_map others reading hMetric, ?_⟩
    rw [← dangerLevelWithout?_eq others reading hOther
      hScope]
    exact calcDangerLevel?_eq_map others reading hMetric
  · intro gas hO2
    constructor
    · intro hSome hIncomplete exceeded hExceeded
      exact
        not_reported_of_incomplete others reading hSome
          hIncomplete hO2 hExceeded
    · intro hSome hIncomplete value
      exact
        calcDangerLevel?_withValue others reading hSome hO2
          hIncomplete value

/- An active upper-limit policy for every scope. -/
def upperPolicy
    (id : Nat)
    (gas : Gas)
    (warning danger : ℚ) :
    ThresholdPolicy where
  id := id
  metricCode := gas.name
  category := "TH_GAS"
  unit := "ppm"
  condition := "이상"
  scope := ""
  description := ""
  warningMin := none
  warningMax := some warning
  dangerMin := none
  dangerMax := some danger
  isActive := true
  updatedBy := "관리자"

/- The other columns of a reading. -/
def otherColumns
    (name : String) :
    Bool :=
  name ∈ ["device", "measured_at", "received_at",
    "quality_flag", "raw_payload"]

/- With policies for h2s, one for co changes co alone. -/
theorem policyEdit_local_add_co :
    (checkThresholdExceeded? otherColumns
          ((PolicyEdit.add (upperPolicy 2 .co 25 200)).apply
            [upperPolicy 1 .h2s 10 15])
          (soleReading .h2s 20) alarmScope).map
        (reportsBut "co") =
      (checkThresholdExceeded? otherColumns
          [upperPolicy 1 .h2s 10 15]
          (soleReading .h2s 20) alarmScope).map
        (reportsBut "co") :=
  (policyEdit_local otherColumns
    [upperPolicy 1 .h2s 10 15]
    (PolicyEdit.add (upperPolicy 2 .co 25 200))
    "co" alarmScope (soleReading .h2s 20) rfl).1
    (by decide) (by decide +kernel)

/- A policy for the time of a reading. -/
def timePolicy
    (id : Nat) :
    ThresholdPolicy :=
  { upperPolicy id .co 25 200 with
    metricCode := "measured_at" }

/-
  The first policy for co ends the grading of h2s.  A second
  one for the time of a reading ends all grading.
-/
theorem first_co_policy_stops_h2s :
    (PolicyEdit.add (upperPolicy 1 .co 25 200)).Concerns
        [] "co" ∧
      checkThresholdExceeded? otherColumns []
          (soleReading .h2s 20) alarmScope =
        some [⟨"h2s", 20, .danger⟩] ∧
      checkThresholdExceeded? otherColumns
          ((PolicyEdit.add
            (upperPolicy 1 .co 25 200)).apply [])
          (soleReading .h2s 20) alarmScope =
        some [] ∧
      calcDangerLevel? otherColumns []
          (soleReading .h2s 20) =
        some .danger ∧
      calcDangerLevel? otherColumns
          ((PolicyEdit.add
            (upperPolicy 1 .co 25 200)).apply [])
          (soleReading .h2s 20) =
        some .normal ∧
      (PolicyEdit.add (timePolicy 2)).Concerns
        [upperPolicy 1 .h2s 10 15] "measured_at" ∧
      checkThresholdExceeded? otherColumns
          [upperPolicy 1 .h2s 10 15]
          (soleReading .h2s 20) alarmScope =
        some [⟨"h2s", 20, .danger⟩] ∧
      checkThresholdExceeded? otherColumns
          ((PolicyEdit.add (timePolicy 2)).apply
            [upperPolicy 1 .h2s 10 15])
          (soleReading .h2s 20) alarmScope =
        none := by
  refine ⟨rfl, ?_, ?_, ?_, ?_, rfl, ?_, ?_⟩
  · decide +kernel
  · decide +kernel
  · decide +kernel
  · decide +kernel
  · decide +kernel
  · decide +kernel

end Monitoring

end Icmp2
