import Icmp2.Monitoring.Thresholds

/-
  Registering and editing threshold policies.

  Main definitions include:
    * `Icmp2.Manager.ThresholdForm`
    * `Icmp2.Manager.thresholdCreate`
    * `Icmp2.Manager.thresholdEdit`
    * `Icmp2.Manager.ThresholdRequest`

  Main theorems include:
    * `Icmp2.Manager.submit_policy`
    * `Icmp2.Manager.registered_upper_limits_enforced`
-/

------------------------------------------------------------
-- Forms
------------------------------------------------------------

namespace Icmp2

namespace Manager

open Monitoring

variable [Letters]

/- The posted fields; an absent field is `none`. -/
structure ThresholdForm where
  metricCode : Option String
  unit : Option String
  condition : Option String
  warningVal : Option String
  dangerVal : Option String
  scope : Option String
  description : Option String
  category : Option String
  isActive : Option String
  deriving DecidableEq, Repr

/- How a request is turned down. -/
inductive Refusal where
  | fieldError (field error : String)
  | saveError (error : String)
  | notFound
  | raised (error : String)
  deriving DecidableEq, Repr

/- A saved policy and the table that holds it. -/
structure Saved where
  policy : ThresholdPolicy
  policies : List ThresholdPolicy
  deriving DecidableEq, Repr

/- `value or None` on a posted text. -/
def orNone : Option String → Option String
  | none => none
  | some text => if text = "" then none else some text

/- `float(value) if value else None`. -/
def floatOrNone
    (text : FloatText) :
    Option String → Except String (Option ℚ)
  | none => .ok none
  | some value =>
      match text.parse value with
      | .ok number => .ok (some number)
      | .error error => .error error

/- The columns that a form writes. -/
structure ThresholdValues where
  metricCode : String
  unit : String
  condition : String
  warningVal : Option String
  dangerVal : Option String
  scope : String
  description : String
  isActive : Bool
  deriving DecidableEq, Repr

namespace ThresholdForm

/-
  The values of a form.  `threshold_create` and
  `threshold_edit` differ in the defaults they pass for
  the measured metric, the unit and the condition.
-/
def values
    (form : ThresholdForm)
    (metricCode unit condition : String) :
    ThresholdValues where
  metricCode :=
    Letters.lower
      (strip (form.metricCode.getD metricCode))
  unit := strip (form.unit.getD unit)
  condition := strip (form.condition.getD condition)
  warningVal := orNone form.warningVal
  dangerVal := orNone form.dangerVal
  scope := strip (form.scope.getD "")
  description := strip (form.description.getD "")
  isActive := form.isActive.getD "true" = "true"

end ThresholdForm

namespace ThresholdValues

/- The limits go to one pair of columns, by direction. -/
def write
    (text : FloatText)
    (values : ThresholdValues)
    (updatedBy : String)
    (row : ThresholdPolicy) :
    Except String ThresholdPolicy :=
  match floatOrNone text values.warningVal with
  | .error error => .error error
  | .ok warning =>
      match floatOrNone text values.dangerVal with
      | .error error => .error error
      | .ok danger =>
          let isLte : Bool := values.condition = "이하"
          .ok
            { row with
              metricCode := values.metricCode
              unit := values.unit
              condition := values.condition
              scope := values.scope
              description := values.description
              warningMin := if isLte then warning else none
              warningMax := if isLte then none else warning
              dangerMin := if isLte then danger else none
              dangerMax := if isLte then none else danger
              isActive := values.isActive
              updatedBy := updatedBy }

end ThresholdValues

/- The error text of a duplicate metric. -/
def duplicateMetric : Refusal :=
  .fieldError "metric_code"
    "동일한 기준 분류에 같은 측정 항목이 이미 등록되어 있습니다."

/- The error text of a missing metric. -/
def missingMetric : Refusal :=
  .fieldError "metric_code" "측정 항목을 입력해 주세요."

/- Some policy has the metric and the category. -/
def Registered
    (policies : List ThresholdPolicy)
    (metricCode category : String) :
    Prop :=
  ∃ policy ∈ policies,
    policy.metricCode = metricCode ∧
      policy.category = category

instance
    (policies : List ThresholdPolicy)
    (metricCode category : String) :
    Decidable (Registered policies metricCode category) := by
  unfold Registered
  infer_instance

/- A primary key that no policy has. -/
def freshId
    (policies : List ThresholdPolicy) :
    Nat :=
  (policies.map ThresholdPolicy.id).foldr max 0 + 1

/- A row with every optional column empty. -/
def blankPolicy
    (id : Nat)
    (category : String) :
    ThresholdPolicy where
  id := id
  metricCode := ""
  category := category
  unit := ""
  condition := ""
  scope := ""
  description := ""
  warningMin := none
  warningMax := none
  dangerMin := none
  dangerMax := none
  isActive := true
  updatedBy := ""

end Manager

end Icmp2

------------------------------------------------------------
-- Requests
------------------------------------------------------------

namespace Icmp2

namespace Manager

open Monitoring

variable [Letters]

/- `threshold_create`. -/
def thresholdCreate
    (text : FloatText)
    (updatedBy : String)
    (policies : List ThresholdPolicy)
    (form : ThresholdForm) :
    Except Refusal Saved :=
  let values := form.values "" "" "이상"
  let category := form.category.getD "TH_GAS"
  if Registered policies values.metricCode category then
    .error duplicateMetric
  else if values.metricCode = "" then
    .error missingMetric
  else
    let row := blankPolicy (freshId policies) category
    match values.write text updatedBy row with
    | .error error =>
        .error
          (.saveError
            ("저장 중 오류가 발생했습니다: " ++ error))
    | .ok policy => .ok ⟨policy, policies ++ [policy]⟩

/- `threshold_edit`; the category stays as it was. -/
def thresholdEdit
    (text : FloatText)
    (updatedBy : String)
    (policies : List ThresholdPolicy)
    (pk : Nat)
    (form : ThresholdForm) :
    Except Refusal Saved :=
  match policies.find? fun policy => policy.id = pk with
  | none => .error .notFound
  | some row =>
      let values :=
        form.values row.metricCode row.unit row.condition
      if values.metricCode ≠ row.metricCode ∧
          Registered
            policies values.metricCode row.category then
        .error duplicateMetric
      else
        -- Here `float` is called outside the try block.
        match values.write text updatedBy row with
        | .error error => .error (.raised error)
        | .ok policy =>
            .ok
              ⟨policy,
                policies.map fun other =>
                  if other.id = pk then policy else other⟩

/- A request of an operator. -/
inductive ThresholdRequest where
  | create (form : ThresholdForm)
  | edit (pk : Nat) (form : ThresholdForm)
  deriving DecidableEq, Repr

/- Serve a request. -/
def submit
    (text : FloatText)
    (updatedBy : String)
    (policies : List ThresholdPolicy) :
    ThresholdRequest → Except Refusal Saved
  | .create form =>
      thresholdCreate text updatedBy policies form
  | .edit pk form =>
      thresholdEdit text updatedBy policies pk form

/- The values that a request asks for. -/
def requestedValues
    (policies : List ThresholdPolicy) :
    ThresholdRequest → ThresholdValues
  | .create form => form.values "" "" "이상"
  | .edit pk form =>
      match policies.find? fun policy => policy.id = pk with
      | none => form.values "" "" ""
      | some row =>
          form.values row.metricCode row.unit row.condition

/-
  An accepted request wrote its values into some row, and
  what it wrote is a row of the saved table.
-/
theorem submit_policy
    {text : FloatText}
    {updatedBy : String}
    {policies : List ThresholdPolicy}
    {request : ThresholdRequest}
    {saved : Saved}
    (hSaved :
      submit text updatedBy policies request = .ok saved) :
    ∃ row,
      (requestedValues policies request).write
          text updatedBy row =
        .ok saved.policy ∧
      saved.policy ∈ saved.policies := by
  cases request with
  | create form =>
      simp only [submit, thresholdCreate] at hSaved
      split at hSaved
      · cases hSaved
      · split at hSaved
        · cases hSaved
        · split at hSaved
          · cases hSaved
          · rename_i policy hWrite
            cases hSaved
            refine ⟨_, hWrite, ?_⟩
            exact
              List.mem_append_right _
                (List.mem_singleton_self policy)
  | edit pk form =>
      simp only [submit, thresholdEdit] at hSaved
      cases hRow :
          policies.find? fun policy => policy.id = pk with
      | none =>
          rw [hRow] at hSaved
          cases hSaved
      | some row =>
          simp only [hRow] at hSaved
          split at hSaved
          · cases hSaved
          · split at hSaved
            · cases hSaved
            · rename_i policy hWrite
              cases hSaved
              have hMem := List.mem_of_find?_eq_some hRow
              have hId : row.id = pk := by
                simpa using List.find?_some hRow
              refine ⟨row, ?_, ?_⟩
              · simp only [requestedValues, hRow]
                exact hWrite
              · exact
                  List.mem_map.mpr
                    ⟨row, hMem, by rw [if_pos hId]⟩

end Manager

end Icmp2

------------------------------------------------------------
-- Enforcement
------------------------------------------------------------

namespace Icmp2

namespace Manager

open Monitoring

/-
  The values ask for upper limits of one gas, in force for
  alarms.
-/
structure AsksUpperLimits
    (text : FloatText)
    (values : ThresholdValues)
    (gas : Gas)
    (warning danger : ℚ) :
    Prop where
  metric : values.metricCode = gas.name
  condition : values.condition = "이상"
  warningParses :
    floatOrNone text values.warningVal = .ok (some warning)
  dangerParses :
    floatOrNone text values.dangerVal = .ok (some danger)
  active : values.isActive = true
  inScope :
    Library.Contains values.scope alarmScope ∨
      values.scope = ""

/- Values that ask for upper limits are written as such. -/
theorem AsksUpperLimits.written
    {text : FloatText}
    {values : ThresholdValues}
    {gas : Gas}
    {warning danger : ℚ}
    {updatedBy : String}
    {row policy : ThresholdPolicy}
    (hAsks :
      AsksUpperLimits text values gas warning danger)
    (hWrite :
      values.write text updatedBy row = .ok policy) :
    policy.metricCode = gas.name ∧
      policy.warningMax = some warning ∧
      policy.dangerMax = some danger ∧
      policy.Applies alarmScope := by
  have hUpper : ¬ values.condition = "이하" := by
    rw [hAsks.condition]
    decide
  simp only [ThresholdValues.write, hAsks.warningParses,
    hAsks.dangerParses, hUpper, decide_false,
    Bool.false_eq_true, if_false,
    Except.ok.injEq] at hWrite
  subst hWrite
  exact
    ⟨hAsks.metric, rfl, rfl, hAsks.active, hAsks.inScope⟩

/- The list reports the gas of the reading at the level. -/
def ReportedAs
    (policies : List ThresholdPolicy)
    (reading : GasReading)
    (gas : Gas)
    (level : Level) :
    Prop :=
  ∃ value,
    reading.value gas = some value ∧
      ⟨gas.name, value, level⟩ ∈
        checkThresholdExceeded policies reading alarmScope

/- The list does not mention the gas. -/
def NotReported
    (policies : List ThresholdPolicy)
    (reading : GasReading)
    (gas : Gas) :
    Prop :=
  ∀ found ∈ checkThresholdExceeded
      policies reading alarmScope,
    found.gas ≠ gas.name

instance
    (policies : List ThresholdPolicy)
    (reading : GasReading)
    (gas : Gas) :
    Decidable (NotReported policies reading gas) := by
  unfold NotReported
  infer_instance

private theorem name_ne_o2
    {gas : Gas}
    (hGas : gas ≠ .o2) :
    gas.name ≠ "o2" := by
  intro hName
  exact hGas (Gas.name_injective hName)

/- Limits in force decide how a measured gas is reported. -/
theorem reportedAs_iff_of_limits
    {policies : List ThresholdPolicy}
    {reading : GasReading}
    {gas : Gas}
    {limits : ℚ × ℚ}
    {value : ℚ}
    (hGas : gas ≠ .o2)
    (hLimits :
      (gas.name, limits) ∈
        (getThresholds policies alarmScope).entries)
    (hValue : reading.value gas = some value)
    (level : Level) :
    ReportedAs policies reading gas level ↔
      gradeValue limits value = level ∧
        level ≠ .normal := by
  have hName := name_ne_o2 hGas
  constructor
  · rintro ⟨found, hFound, hMem⟩
    have hSame : found = value :=
      Option.some.inj (hFound.symm.trans hValue)
    subst hSame
    rcases (mem_checkThresholdExceeded_iff
      policies reading alarmScope hName).mp hMem with
      ⟨other, _, hOther, hAttr, hLevel, hEq⟩
    simp only [GasReading.getattr_name, hFound,
      Option.some.injEq] at hAttr
    subst hAttr
    have hPair :=
      Library.Dict.value_unique _ hLimits hOther
    subst hPair
    simp only [Exceeded.mk.injEq, true_and] at hEq
    rw [hEq]
    exact ⟨rfl, hLevel⟩
  · rintro ⟨hGrade, hLevel⟩
    refine ⟨value, hValue, ?_⟩
    apply (mem_checkThresholdExceeded_iff
      policies reading alarmScope hName).mpr
    refine ⟨limits, value, hLimits, ?_, ?_, ?_⟩
    · simp [hValue]
    · rw [hGrade]
      exact hLevel
    · rw [hGrade]

/- A measured gas is left out exactly at normal level. -/
theorem notReported_iff_of_limits
    {policies : List ThresholdPolicy}
    {reading : GasReading}
    {gas : Gas}
    {limits : ℚ × ℚ}
    {value : ℚ}
    (hGas : gas ≠ .o2)
    (hLimits :
      (gas.name, limits) ∈
        (getThresholds policies alarmScope).entries)
    (hValue : reading.value gas = some value) :
    NotReported policies reading gas ↔
      gradeValue limits value = .normal := by
  constructor
  · intro hNone
    by_contra hLevel
    rcases (reportedAs_iff_of_limits hGas hLimits hValue
      (gradeValue limits value)).mpr ⟨rfl, hLevel⟩ with
      ⟨_, _, hMem⟩
    exact hNone _ hMem rfl
  · intro hNormal found hFound hName
    have hO2 : found.gas ≠ "o2" :=
      hName ▸ name_ne_o2 hGas
    rcases (mem_checkThresholdExceeded_iff
      policies reading alarmScope hO2).mp hFound with
      ⟨other, attr, hOther, hAttr, hLevel, _⟩
    rw [hName] at hOther hAttr
    rw [GasReading.getattr_name, hValue] at hAttr
    have hPair :=
      Library.Dict.value_unique _ hLimits hOther
    rw [← hPair, ← Option.some.inj hAttr] at hLevel
    exact hLevel hNormal

/-
  Accepted upper limits of a gas other than oxygen are the
  ones by which its later readings are reported, as long
  as no other applicable policy has the metric.  Oxygen is
  reported by its fixed limits under every table.
-/
theorem registered_upper_limits_enforced
    [Letters]
    (text : FloatText)
    (updatedBy : String)
    (policies later : List ThresholdPolicy)
    (request : ThresholdRequest)
    (saved : Saved)
    (gas : Gas)
    (warning danger value : ℚ)
    (reading : GasReading)
    (hSaved :
      submit text updatedBy policies request = .ok saved)
    (hAsks :
      AsksUpperLimits text
        (requestedValues policies request)
        gas warning danger)
    (hGas : gas ≠ .o2)
    (hOrder : warning ≤ danger)
    (hLater : saved.policy ∈ later)
    (hSole :
      ∀ other ∈ applicable later alarmScope,
        other.metricCode = gas.name →
        other = saved.policy)
    (hValue : reading.value gas = some value) :
    saved.policy ∈ saved.policies ∧
      (ReportedAs later reading gas .danger ↔
        danger ≤ value) ∧
      (ReportedAs later reading gas .caution ↔
        warning ≤ value ∧ value < danger) ∧
      (NotReported later reading gas ↔
        value < warning) ∧
      (checkThresholdExceeded
            later reading alarmScope).filter
          (fun found => found.gas = "o2") =
        (o2Exceeded reading).toList := by
  rcases submit_policy hSaved with ⟨row, hWrite, hMem⟩
  rcases hAsks.written hWrite with
    ⟨hMetric, hWarning, hDanger, hApplies⟩
  have hPolicy :
      saved.policy ∈ applicable later alarmScope := by
    apply List.mem_filter.mpr
    exact ⟨hLater, by simpa using hApplies⟩
  have hLimits :
      (gas.name, (warning, danger)) ∈
        (getThresholds later alarmScope).entries := by
    rw [← hMetric]
    apply mem_getThresholds_of_sole
      hPolicy _ hWarning hDanger
    · intro other hOther hCode
      exact hSole other hOther (hCode.trans hMetric)
    · rw [hMetric]
      exact name_ne_o2 hGas
  refine
    ⟨hMem, ?_, ?_, ?_,
      filter_o2_checkThresholdExceeded _ _ _⟩
  · rw [reportedAs_iff_of_limits hGas hLimits hValue,
      gradeValue_eq_danger_iff]
    simp
  · rw [reportedAs_iff_of_limits hGas hLimits hValue,
      gradeValue_eq_caution_iff]
    simp
  · rw [notReported_iff_of_limits hGas hLimits hValue,
      gradeValue_eq_normal_iff (warning, danger) hOrder]

/- A form as the screen posts it. -/
def postedForm
    (metricCode condition warningVal dangerVal : String) :
    ThresholdForm where
  metricCode := some metricCode
  unit := some "ppm"
  condition := some condition
  warningVal := some warningVal
  dangerVal := some dangerVal
  scope := some ""
  description := some ""
  category := some "TH_GAS"
  isActive := some "true"

/- The row that a form for upper limits of co creates. -/
def coPolicy : ThresholdPolicy where
  id := 1
  metricCode := "co"
  category := "TH_GAS"
  unit := "ppm"
  condition := "이상"
  scope := ""
  description := ""
  warningMin := none
  warningMax := some 25
  dangerMin := none
  dangerMax := some 200
  isActive := true
  updatedBy := "관리자"

/- Registering 25 and 200 for co puts 250 in danger. -/
theorem registered_co_limits_enforced :
    ReportedAs [coPolicy] (soleReading .co 250) .co
      .danger :=
  (@registered_upper_limits_enforced asciiLetters
    wholeText "관리자" [] [coPolicy]
    (.create (postedForm " CO " "이상" "25" "200"))
    ⟨coPolicy, [coPolicy]⟩
    .co 25 200 250 (soleReading .co 250)
    (by decide +kernel)
    ⟨by decide, by decide, by decide +kernel,
      by decide +kernel, by decide, by decide⟩
    (by decide) (by decide +kernel) (by decide)
    (by decide +kernel) rfl).2.1.mpr (by decide +kernel)

/- The row that a form for lower limits of o2 creates. -/
def o2LowerPolicy : ThresholdPolicy where
  id := 1
  metricCode := "o2"
  category := "TH_GAS"
  unit := "ppm"
  condition := "이하"
  scope := ""
  description := ""
  warningMin := some 19
  warningMax := none
  dangerMin := some 17
  dangerMax := none
  isActive := true
  updatedBy := "관리자"

/-
  An accepted form asks for danger at 17 and below; the
  oxygen value 16.5 is reported as caution only.
-/
theorem registered_o2_limits_ignored :
    @submit asciiLetters wholeText "관리자" []
        (.create (postedForm "o2" "이하" "19" "17")) =
      .ok ⟨o2LowerPolicy, [o2LowerPolicy]⟩ ∧
    checkThresholdExceeded [o2LowerPolicy]
        (soleReading .o2 16.5) alarmScope =
      [⟨"o2", 16.5, .caution⟩] := by
  constructor
  · decide +kernel
  · decide +kernel

end Manager

end Icmp2
