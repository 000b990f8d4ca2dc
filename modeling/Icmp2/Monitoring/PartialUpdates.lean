import Icmp2.Facilities.NodeSync
import Icmp2.Library.Rows
import Icmp2.Library.Trace

/-
  Rows that are validated by the submitted fields only.

  Main definitions include:
    * `Icmp2.Monitoring.Resource.serve`
    * `Icmp2.Monitoring.validatePolicy`
    * `Icmp2.Monitoring.validateInspection`
    * `Icmp2.Monitoring.ApiStore`

  Main theorems include:
    * `Icmp2.Monitoring.Resource.all_after_iff`
    * `Icmp2.Monitoring.LimitCheck.inOrder_overlay_iff`
    * `Icmp2.Monitoring.inspection_onto_sound_iff`
    * `Icmp2.Monitoring.api_rows_valid_iff`

  A request carries the fields that the field validators let
  through; a field that was left out keeps what is stored.
-/

------------------------------------------------------------
-- Requests
------------------------------------------------------------

namespace Icmp2

namespace Monitoring

open Library

/- The requests of a `ModelViewSet` that write a row. -/
inductive ApiMethod where
  | create
  | put (id : Nat)
  | patch (id : Nat)
  deriving DecidableEq, Repr

inductive ApiError where
  | notFound
  | required (fields : List String)
  | notUnique (fields : List String)
  | invalid (field message : String)
  deriving DecidableEq, Repr

namespace ApiMethod

/- `partial`. -/
def isPartial : ApiMethod → Bool
  | create | put _ => false
  | patch _ => true

end ApiMethod

/-
  A table behind a serializer.  An update starts from the
  stored row, where a `PUT` fills in defaults; `clean` gets
  the table, the id and the row that the update starts from.
-/
structure Resource (R A : Type) where
  blank : R
  putBase : R → R
  clean : Bool → Rows R → Nat → R → A → Except ApiError R

namespace Resource

variable {R A : Type}

/- The row that a request starts from. -/
def base
    (resource : Resource R A)
    (rows : Rows R) :
    ApiMethod →
    Option R
  | .create => some resource.blank
  | .put id => (rows.get? id).map resource.putBase
  | .patch id => rows.get? id

/- The id of the row that a request writes. -/
def target
    (rows : Rows R) :
    ApiMethod →
    Nat
  | .create => rows.nextId
  | .put id | .patch id => id

def write
    (rows : Rows R)
    (row : R) :
    ApiMethod →
    Rows R
  | .create => rows.insert row
  | .put id | .patch id => rows.set id row

def serve
    (resource : Resource R A)
    (rows : Rows R)
    (method : ApiMethod)
    (attrs : A) :
    Except ApiError (Rows R) :=
  match resource.base rows method with
  | none => .error .notFound
  | some start =>
      match
          resource.clean method.isPartial rows
            (target rows method) start attrs with
      | .error error => .error error
      | .ok row => .ok (write rows row method)

/- The table after a request, accepted or not. -/
def after
    (resource : Resource R A)
    (rows : Rows R)
    (method : ApiMethod)
    (attrs : A) :
    Rows R :=
  match resource.serve rows method attrs with
  | .error _ => rows
  | .ok later => later

variable {resource : Resource R A}
variable {rows : Rows R}
variable {method : ApiMethod}
variable {P : R → Prop}

/- A written table is sound if the written row is. -/
theorem all_write_iff
    {start row : R}
    (hBase : resource.base rows method = some start)
    (hAll : rows.All P) :
    (write rows row method).All P ↔ P row := by
  cases method with
  | create =>
      constructor
      · intro hLater
        exact hLater _ _ (Rows.get?_insert_nextId rows row)
      · exact hAll.insert
  | put id =>
      rcases Option.map_eq_some_iff.mp hBase with
        ⟨old, hOld, -⟩
      constructor
      · intro hLater
        exact hLater _ _ (Rows.get?_set_self hOld row)
      · exact fun hRow => hAll.set hRow id
  | patch id =>
      constructor
      · intro hLater
        exact hLater _ _ (Rows.get?_set_self hBase row)
      · exact fun hRow => hAll.set hRow id

/- What a request starts from is sound. -/
theorem sound_base
    {start : R}
    (hBase : resource.base rows method = some start)
    (hBlank : P resource.blank)
    (hPut : ∀ row, P row → P (resource.putBase row))
    (hAll : rows.All P) :
    P start := by
  cases method with
  | create =>
      cases hBase
      exact hBlank
  | put id =>
      rcases Option.map_eq_some_iff.mp hBase with
        ⟨old, hOld, rfl⟩
      exact hPut old (hAll id old hOld)
  | patch id => exact hAll id start hBase

/- A request keeps a table sound if its row, if any, is. -/
theorem all_after_iff
    (attrs : A)
    (hAll : rows.All P) :
    (resource.after rows method attrs).All P ↔
      ∀ start,
        resource.base rows method = some start →
          ∀ row,
            resource.clean method.isPartial rows
                (target rows method) start attrs =
              .ok row →
              P row := by
  unfold after serve
  cases hBase : resource.base rows method with
  | none =>
      constructor
      · intro _ start hStart
        cases hStart
      · intro _
        exact hAll
  | some start =>
      simp only [Option.some.injEq, forall_eq']
      cases hClean :
          resource.clean method.isPartial rows
            (target rows method) start attrs with
      | error error =>
          constructor
          · intro _ row hRow
            cases hRow
          · intro _
            exact hAll
      | ok row =>
          simp only [Except.ok.injEq, forall_eq']
          exact all_write_iff hBase hAll

end Resource

end Monitoring

end Icmp2

------------------------------------------------------------
-- Policies
------------------------------------------------------------

namespace Icmp2

namespace Facilities

namespace FloatValue

/- `a < b`; nothing is above or below `nan`. -/
def lt : FloatValue → FloatValue → Bool
  | nan, _ | _, nan => false
  | finite a, finite b => a < b
  | finite _, infinite negative => !negative
  | infinite negative, finite _ => negative
  | infinite first, infinite second => first && !second

/- `a <= b`. -/
def le
    (a b : FloatValue) :
    Bool :=
  a ≠ nan && b ≠ nan && !b.lt a

theorem ne_nan_of_lt
    {a b : FloatValue}
    (hLt : a.lt b = true) :
    a ≠ nan ∧ b ≠ nan := by
  constructor
  · rintro rfl
    cases hLt
  · rintro rfl
    cases a <;> cases hLt

end FloatValue

end Facilities

end Icmp2

namespace Icmp2

namespace Monitoring

open Library Facilities

/- One value for each of the checked columns. -/
structure Limits (V : Type) where
  warningMin : V
  warningMax : V
  dangerMin : V
  dangerMax : V
  deriving DecidableEq, Repr

inductive LimitField where
  | warningMin
  | warningMax
  | dangerMin
  | dangerMax
  deriving DecidableEq, Repr

def Limits.get
    {V : Type}
    (limits : Limits V) :
    LimitField →
    V
  | .warningMin => limits.warningMin
  | .warningMax => limits.warningMax
  | .dangerMin => limits.dangerMin
  | .dangerMax => limits.dangerMax

abbrev StoredLimits : Type :=
  Limits (Option FloatValue)

/- A field is left out, or submitted with null or a value. -/
abbrev SubmittedLimits : Type :=
  Limits (Option (Option FloatValue))

/- The submitted fields over the stored ones. -/
def StoredLimits.overlay
    (stored : StoredLimits)
    (data : SubmittedLimits) :
    StoredLimits where
  warningMin := data.warningMin.getD stored.warningMin
  warningMax := data.warningMax.getD stored.warningMax
  dangerMin := data.dangerMin.getD stored.dangerMin
  dangerMax := data.dangerMax.getD stored.dangerMax

@[simp] theorem get_overlay
    (stored : StoredLimits)
    (data : SubmittedLimits)
    (field : LimitField) :
    (stored.overlay data).get field =
      (data.get field).getD (stored.get field) := by
  cases field <;> rfl

/- One `if` of `ThresholdPolicySerializer.validate`. -/
structure LimitCheck where
  lower : LimitField
  upper : LimitField
  strict : Bool
  error : String
  deriving DecidableEq, Repr

def limitChecks : List LimitCheck :=
  [⟨.warningMin, .warningMax, true,
      "warning_min은 warning_max보다 작아야 합니다."⟩,
    ⟨.dangerMin, .dangerMax, true,
      "danger_min은 danger_max보다 작아야 합니다."⟩,
    ⟨.warningMax, .dangerMin, false,
      "주의 범위(warning_max)는 위험 범위(danger_min)보다 작거나 같아야 합니다."⟩]

namespace LimitCheck

/- `lower >= upper`, or `lower > upper`. -/
def refuses
    (check : LimitCheck)
    (lower upper : FloatValue) :
    Bool :=
  if check.strict then upper.le lower else upper.lt lower

/- `data.get(...)` on both sides, and the comparison. -/
def fails
    (check : LimitCheck)
    (data : SubmittedLimits) :
    Bool :=
  match
      (data.get check.lower).join,
      (data.get check.upper).join with
  | some lower, some upper => check.refuses lower upper
  | _, _ => false

end LimitCheck

/- `ThresholdPolicySerializer.validate`. -/
def validatePolicy
    (data : SubmittedLimits) :
    Except ApiError Unit :=
  match limitChecks.find? fun check => check.fails data with
  | some check =>
      .error (.invalid "non_field_errors" check.error)
  | none => .ok ()

/- The columns of a policy that a request is checked by. -/
structure PolicyRow where
  metricCode : String
  category : String
  limits : StoredLimits
  deriving DecidableEq, Repr

structure PolicyAttrs where
  metricCode : Option String
  category : Option String
  limits : SubmittedLimits
  deriving DecidableEq, Repr

/- `unique_together`. -/
def PolicyRow.key
    (row : PolicyRow) :
    Option (String × String) :=
  some (row.metricCode, row.category)

/- The submitted fields over the row of the update. -/
def PolicyAttrs.onto
    (attrs : PolicyAttrs)
    (start : PolicyRow) :
    PolicyRow where
  metricCode := attrs.metricCode.getD start.metricCode
  category := attrs.category.getD start.category
  limits := start.limits.overlay attrs.limits

/-
  `ThresholdPolicySerializer`.  A unique column with a
  default is a field with a default, also in a `PUT`.
-/
def thresholdPolicies : Resource PolicyRow PolicyAttrs where
  blank := ⟨"", "TH_GAS", ⟨none, none, none, none⟩⟩
  putBase := fun row => { row with category := "TH_GAS" }
  clean := fun isPartial rows id start attrs =>
    let row := attrs.onto start
    if isPartial = false ∧ attrs.metricCode = none then
      .error (.required ["metric_code"])
    else if ¬rows.Free PolicyRow.key id row then
      .error (.notUnique ["metric_code", "category"])
    else
      match validatePolicy attrs.limits with
      | .error error => .error error
      | .ok _ => .ok row

/- The two sides of a check, in the order it asks for. -/
def LimitCheck.Ordered
    (check : LimitCheck)
    (lower upper : FloatValue) :
    Prop :=
  if check.strict then lower.lt upper = true
  else lower.le upper = true

instance
    (check : LimitCheck)
    (lower upper : FloatValue) :
    Decidable (check.Ordered lower upper) := by
  unfold LimitCheck.Ordered
  infer_instance

/- Where both sides of a check are set, they are in order. -/
def LimitCheck.InOrder
    (check : LimitCheck)
    (limits : StoredLimits) :
    Prop :=
  ∀ lower ∈ limits.get check.lower,
    ∀ upper ∈ limits.get check.upper,
      check.Ordered lower upper

/- What the policies are meant to satisfy. -/
def PolicyRow.Valid
    (row : PolicyRow) :
    Prop :=
  ∀ check ∈ limitChecks, check.InOrder row.limits

/-
  A side that is submitted alone is in order with the
  stored side; sides that are submitted together are
  numbers.
-/
def LimitCheck.Keeps
    (check : LimitCheck)
    (stored : StoredLimits)
    (data : SubmittedLimits) :
    Prop :=
  match data.get check.lower, data.get check.upper with
  | some (some lower), some (some upper) =>
      lower ≠ .nan ∧ upper ≠ .nan
  | some (some lower), none =>
      ∀ upper ∈ stored.get check.upper,
        check.Ordered lower upper
  | none, some (some upper) =>
      ∀ lower ∈ stored.get check.lower,
        check.Ordered lower upper
  | _, _ => True

theorem valid_blank_policy :
    thresholdPolicies.blank.Valid := by
  intro check _ lower hLower
  cases hField : check.lower <;>
    rw [hField] at hLower <;> cases hLower

/- Sides that pass a check are in order, but for `nan`. -/
theorem LimitCheck.ordered_iff
    {check : LimitCheck}
    {lower upper : FloatValue}
    (hPass : check.refuses lower upper = false) :
    check.Ordered lower upper ↔
      lower ≠ .nan ∧ upper ≠ .nan := by
  unfold refuses at hPass
  unfold Ordered
  cases hStrict : check.strict with
  | true =>
      simp only [hStrict, if_true] at hPass ⊢
      constructor
      · exact FloatValue.ne_nan_of_lt
      · rintro ⟨hLower, hUpper⟩
        simpa [FloatValue.le, hLower, hUpper] using hPass
  | false =>
      simp only [hStrict, Bool.false_eq_true,
        if_false] at hPass ⊢
      simp [FloatValue.le, hPass]

/- A check of the submitted fields keeps the stored order. -/
theorem LimitCheck.inOrder_overlay_iff
    {check : LimitCheck}
    {stored : StoredLimits}
    {data : SubmittedLimits}
    (hStored : check.InOrder stored)
    (hPass : check.fails data = false) :
    check.InOrder (stored.overlay data) ↔
      check.Keeps stored data := by
  unfold InOrder at hStored ⊢
  unfold fails at hPass
  unfold Keeps
  rw [get_overlay, get_overlay]
  cases hLower : data.get check.lower with
  | none =>
      cases hUpper : data.get check.upper with
      | none => simpa using hStored
      | some upper =>
          cases upper with
          | none => simp
          | some upper => simp
  | some lower =>
      cases lower with
      | none => simp
      | some lower =>
          cases hUpper : data.get check.upper with
          | none => simp
          | some upper =>
              cases upper with
              | none => simp
              | some upper =>
                  simp only [hLower, hUpper,
                    Option.join_some] at hPass
                  simpa using ordered_iff hPass

theorem validatePolicy_eq_ok_iff
    (data : SubmittedLimits) :
    validatePolicy data = .ok () ↔
      ∀ check ∈ limitChecks, check.fails data = false := by
  unfold validatePolicy
  cases hFind :
      limitChecks.find? fun check => check.fails data with
  | none =>
      have hNone := List.find?_eq_none.mp hFind
      simp only [true_iff]
      intro check hCheck
      simpa using hNone check hCheck
  | some check =>
      constructor
      · intro hOk
        cases hOk
      · intro hPass
        have hFails : check.fails data = true := by
          simpa using List.find?_some hFind
        rw [hPass check (List.mem_of_find?_eq_some hFind)]
          at hFails
        cases hFails

end Monitoring

end Icmp2

------------------------------------------------------------
-- Inspections
------------------------------------------------------------

namespace Icmp2

namespace Monitoring

open Library Facilities

inductive InspectionType where
  | regular
  | abnormal
  deriving DecidableEq, Repr

inductive InspectionStatus where
  | normal
  | actionRequired
  deriving DecidableEq, Repr

/- A `DateField`, counted in days. -/
abbrev Day : Type :=
  Nat

structure InspectionRow where
  device : Nat
  inspectionType : InspectionType
  inspectionDate : Day
  status : InspectionStatus
  expectedActionDate : Option Day
  deriving DecidableEq, Repr

structure InspectionAttrs where
  device : Option Nat
  inspectionType : Option InspectionType
  inspectionDate : Option Day
  status : Option InspectionStatus
  expectedActionDate : Option (Option Day)
  deriving DecidableEq, Repr

/- The required fields that were left out. -/
def InspectionAttrs.missing
    (attrs : InspectionAttrs) :
    List String :=
  [("device", attrs.device.isNone),
    ("inspection_type", attrs.inspectionType.isNone),
    ("inspection_date", attrs.inspectionDate.isNone),
    ("status", attrs.status.isNone)].filterMap
      fun field => if field.2 then some field.1 else none

/- `InspectionLogSerializer.validate`. -/
def validateInspection
    (data : InspectionAttrs) :
    Except ApiError Unit :=
  if data.status = some .actionRequired ∧
      data.expectedActionDate.join = none then
    .error
      (.invalid "expected_action_date"
        "조치 필요 상태일 때 예상 조치일은 필수입니다.")
  else
    match data.inspectionDate, data.expectedActionDate.join with
    | some inspected, some expected =>
        if expected < inspected then
          .error
            (.invalid "expected_action_date"
              "예상 조치일은 점검일 이후여야 합니다.")
        else
          .ok ()
    | _, _ => .ok ()

/- The submitted fields over the row of the update. -/
def InspectionAttrs.onto
    (attrs : InspectionAttrs)
    (start : InspectionRow) :
    InspectionRow where
  device := attrs.device.getD start.device
  inspectionType :=
    attrs.inspectionType.getD start.inspectionType
  inspectionDate :=
    attrs.inspectionDate.getD start.inspectionDate
  status := attrs.status.getD start.status
  expectedActionDate :=
    attrs.expectedActionDate.getD start.expectedActionDate

/-
  `InspectionLogSerializer`.  The required columns of the
  blank row are never read, since a `POST` submits them.
-/
def inspectionLogs :
    Resource InspectionRow InspectionAttrs where
  blank := ⟨0, .regular, 0, .normal, none⟩
  putBase := id
  clean := fun isPartial _ _ start attrs =>
    if isPartial = false ∧ attrs.missing ≠ [] then
      .error (.required attrs.missing)
    else
      match validateInspection attrs with
      | .error error => .error error
      | .ok _ => .ok (attrs.onto start)

/- What the inspections are meant to satisfy. -/
def InspectionRow.Valid
    (row : InspectionRow) :
    Prop :=
  row.status = .actionRequired →
    ∃ expected,
      row.expectedActionDate = some expected ∧
        row.inspectionDate ≤ expected

/-
  Where the row is left in need of action, a date that is
  submitted alone fits the stored date, and the expected
  date is not taken away.
-/
def InspectionAttrs.Keeps
    (attrs : InspectionAttrs)
    (stored : InspectionRow) :
    Prop :=
  attrs.status.getD stored.status = .actionRequired →
    match attrs.inspectionDate, attrs.expectedActionDate with
    | some inspected, none =>
        ∀ expected ∈ stored.expectedActionDate,
          inspected ≤ expected
    | none, some (some expected) =>
        stored.inspectionDate ≤ expected
    | _, some none => False
    | _, _ => True

/- The submitted fields fit each other. -/
structure InspectionAttrs.Consistent
    (data : InspectionAttrs) :
    Prop where
  expected :
    data.status = some .actionRequired →
      data.expectedActionDate.join ≠ none
  dates :
    ∀ inspected ∈ data.inspectionDate,
      ∀ expected ∈ data.expectedActionDate.join,
        inspected ≤ expected

theorem InspectionAttrs.consistent_iff
    {data : InspectionAttrs}
    (hExpected :
      data.status = some .actionRequired →
        data.expectedActionDate.join ≠ none) :
    data.Consistent ↔
      ∀ inspected ∈ data.inspectionDate,
        ∀ expected ∈ data.expectedActionDate.join,
          inspected ≤ expected :=
  ⟨fun h => h.dates, fun h => ⟨hExpected, h⟩⟩

/- When the submitted fields of an inspection pass. -/
theorem validateInspection_eq_ok_iff
    (data : InspectionAttrs) :
    validateInspection data = .ok () ↔
      data.Consistent := by
  unfold validateInspection
  by_cases hNeeds :
      data.status = some .actionRequired ∧
        data.expectedActionDate.join = none
  · rw [if_pos hNeeds]
    constructor
    · intro hOk
      cases hOk
    · intro hFits
      exact absurd hNeeds.2 (hFits.expected hNeeds.1)
  · have hSet :
        data.status = some .actionRequired →
          data.expectedActionDate.join ≠ none :=
      fun hStatus hNone => hNeeds ⟨hStatus, hNone⟩
    rw [if_neg hNeeds, InspectionAttrs.consistent_iff hSet]
    cases hInspected : data.inspectionDate with
    | none => simp
    | some inspected =>
        cases hExpected : data.expectedActionDate.join with
        | none => simp
        | some expected =>
            by_cases hEarly : expected < inspected
            · simp [hEarly]
            · simp [hEarly, Nat.le_of_not_lt hEarly]

/- Fields that pass keep a sound row sound. -/
theorem inspection_onto_sound_iff
    {attrs : InspectionAttrs}
    {stored : InspectionRow}
    (hStored : stored.Valid)
    (hPass : attrs.Consistent) :
    (attrs.onto stored).Valid ↔ attrs.Keeps stored := by
  rcases hPass with ⟨hNeeds, hDates⟩
  unfold InspectionRow.Valid InspectionAttrs.Keeps
  refine forall_congr' fun hStatus => ?_
  have hStatus :
      attrs.status.getD stored.status = .actionRequired :=
    hStatus
  have hKept :
      attrs.expectedActionDate.join = none →
        stored.status = .actionRequired := by
    intro hNone
    cases hSubmitted : attrs.status with
    | none =>
        rw [hSubmitted] at hStatus
        exact hStatus
    | some status =>
        rw [hSubmitted] at hStatus
        exact absurd hNone
          (hNeeds (by rw [hSubmitted]; exact congrArg _ hStatus))
  unfold InspectionAttrs.onto
  cases hExpected : attrs.expectedActionDate with
  | none =>
      rcases hStored (hKept (by rw [hExpected]; rfl)) with
        ⟨expected, hStoredDate, hOrder⟩
      cases hInspected : attrs.inspectionDate with
      | none => simp [hStoredDate, hOrder]
      | some inspected => simp [hStoredDate]
  | some submitted =>
      cases submitted with
      | none =>
          cases hInspected : attrs.inspectionDate with
          | none => simp
          | some inspected => simp
      | some expected =>
          cases hInspected : attrs.inspectionDate with
          | none => simp
          | some inspected =>
              have hOrder : inspected ≤ expected :=
                hDates inspected hInspected expected
                  (by rw [hExpected]; rfl)
              simp [hOrder]

end Monitoring

end Icmp2

------------------------------------------------------------
-- Runs
------------------------------------------------------------

namespace Icmp2

namespace Monitoring

open Library Facilities

structure ApiStore where
  policies : Rows PolicyRow
  inspections : Rows InspectionRow

def ApiStore.empty : ApiStore where
  policies := Rows.empty
  inspections := Rows.empty

inductive ApiRequest where
  | policy (method : ApiMethod) (attrs : PolicyAttrs)
  | inspection (method : ApiMethod) (attrs : InspectionAttrs)
  deriving DecidableEq, Repr

/- The store after a request, accepted or not. -/
def serveApi
    (store : ApiStore) :
    ApiRequest →
    ApiStore
  | .policy method attrs =>
      { store with
        policies :=
          thresholdPolicies.after store.policies method
            attrs }
  | .inspection method attrs =>
      { store with
        inspections :=
          inspectionLogs.after store.inspections method
            attrs }

/- Every row is what the serializers promise. -/
structure ApiStore.Valid
    (store : ApiStore) :
    Prop where
  policies : store.policies.All PolicyRow.Valid
  inspections : store.inspections.All InspectionRow.Valid

/-
  Unless the request is turned down for its own fields or
  for its key, each of its fields fits the stored fields
  that it is compared with.
-/
def KeepsChecked
    (store : ApiStore) :
    ApiRequest →
    Prop
  | .policy method attrs =>
      ∀ start,
        thresholdPolicies.base store.policies method =
            some start →
        (method.isPartial = false →
          attrs.metricCode ≠ none) →
        store.policies.Free PolicyRow.key
            (Resource.target store.policies method)
            (attrs.onto start) →
        (∀ check ∈ limitChecks,
          check.fails attrs.limits = false) →
        ∀ check ∈ limitChecks,
          check.Keeps start.limits attrs.limits
  | .inspection method attrs =>
      ∀ start,
        inspectionLogs.base store.inspections method =
            some start →
        (method.isPartial = false → attrs.missing = []) →
        attrs.Consistent →
        attrs.Keeps start

/- When the serializer of policies accepts, and what. -/
theorem clean_policy_eq_ok_iff
    {isPartial : Bool}
    {rows : Rows PolicyRow}
    {id : Nat}
    {start row : PolicyRow}
    {attrs : PolicyAttrs} :
    thresholdPolicies.clean isPartial rows id start attrs =
        .ok row ↔
      (isPartial = false → attrs.metricCode ≠ none) ∧
      rows.Free PolicyRow.key id (attrs.onto start) ∧
      (∀ check ∈ limitChecks,
        check.fails attrs.limits = false) ∧
      attrs.onto start = row := by
  rw [← validatePolicy_eq_ok_iff]
  simp only [thresholdPolicies]
  by_cases hMissing :
      isPartial = false ∧ attrs.metricCode = none
  · simp [hMissing]
  · have hGiven :
        isPartial = false → attrs.metricCode ≠ none :=
      fun hFull hNone => hMissing ⟨hFull, hNone⟩
    rw [if_neg hMissing]
    by_cases hFree :
        rows.Free PolicyRow.key id (attrs.onto start)
    · rw [if_neg (not_not_intro hFree)]
      cases hValidate : validatePolicy attrs.limits with
      | error error => simp
      | ok value =>
          rw [and_iff_right hGiven, and_iff_right hFree]
          simp
    · simp [hFree]

/- When the serializer of inspections accepts, and what. -/
theorem clean_inspection_eq_ok_iff
    {isPartial : Bool}
    {rows : Rows InspectionRow}
    {id : Nat}
    {start row : InspectionRow}
    {attrs : InspectionAttrs} :
    inspectionLogs.clean isPartial rows id start attrs =
        .ok row ↔
      (isPartial = false → attrs.missing = []) ∧
      attrs.Consistent ∧
      attrs.onto start = row := by
  rw [← validateInspection_eq_ok_iff]
  simp only [inspectionLogs]
  by_cases hMissing :
      isPartial = false ∧ attrs.missing ≠ []
  · simp [hMissing]
  · have hGiven : isPartial = false → attrs.missing = [] := by
      intro hFull
      by_contra hSome
      exact hMissing ⟨hFull, hSome⟩
    rw [if_neg hMissing]
    cases hValidate : validateInspection attrs with
    | error error => simp
    | ok value =>
        rw [and_iff_right hGiven]
        simp

/- A request keeps a valid store exactly if its fields fit. -/
theorem valid_serveApi_iff
    {store : ApiStore}
    (hValid : store.Valid)
    (request : ApiRequest) :
    (serveApi store request).Valid ↔
      KeepsChecked store request := by
  cases request with
  | policy method attrs =>
      have hIff :
          (serveApi store (.policy method attrs)).Valid ↔
            (thresholdPolicies.after store.policies method
              attrs).All PolicyRow.Valid :=
        ⟨fun h => h.policies, fun h => ⟨h, hValid.inspections⟩⟩
      rw [hIff,
        Resource.all_after_iff attrs hValid.policies,
        KeepsChecked]
      refine forall_congr' fun start =>
        forall_congr' fun hBase => ?_
      have hStart : start.Valid :=
        Resource.sound_base hBase
          valid_blank_policy (fun row hRow => hRow)
          hValid.policies
      simp only [clean_policy_eq_ok_iff]
      constructor
      · intro hRow hGiven hFree hPass check hCheck
        refine (LimitCheck.inOrder_overlay_iff
          (hStart check hCheck) (hPass check hCheck)).mp ?_
        exact hRow _ ⟨hGiven, hFree, hPass, rfl⟩ check hCheck
      · rintro hKeeps row ⟨hGiven, hFree, hPass, rfl⟩
          check hCheck
        exact (LimitCheck.inOrder_overlay_iff
          (hStart check hCheck) (hPass check hCheck)).mpr
          (hKeeps hGiven hFree hPass check hCheck)
  | inspection method attrs =>
      have hIff :
          (serveApi store (.inspection method attrs)).Valid ↔
            (inspectionLogs.after store.inspections method
              attrs).All InspectionRow.Valid :=
        ⟨fun h => h.inspections, fun h => ⟨hValid.policies, h⟩⟩
      rw [hIff,
        Resource.all_after_iff attrs hValid.inspections,
        KeepsChecked]
      refine forall_congr' fun start =>
        forall_congr' fun hBase => ?_
      have hStart : start.Valid :=
        Resource.sound_base hBase
          (by intro hStatus; cases hStatus)
          (fun row hRow => hRow) hValid.inspections
      simp only [clean_inspection_eq_ok_iff]
      constructor
      · intro hRow hGiven hPass
        exact (inspection_onto_sound_iff hStart hPass).mp
          (hRow _ ⟨hGiven, hPass, rfl⟩)
      · rintro hKeeps row ⟨hGiven, hPass, rfl⟩
        exact (inspection_onto_sound_iff hStart hPass).mpr
          (hKeeps hGiven hPass)

theorem ApiStore.Valid.empty :
    ApiStore.empty.Valid where
  policies := Rows.All.empty
  inspections := Rows.All.empty

/-
  Along a run of requests every stored row stays valid
  exactly if the fields of every request fit the stored
  fields.
-/
theorem api_rows_valid_iff
    (requests : List ApiRequest) :
    Along serveApi
        (fun store request =>
          (serveApi store request).Valid)
        ApiStore.empty requests ↔
      Along serveApi KeepsChecked ApiStore.empty
        requests := by
  refine along_iff_of_invariant
    (I := ApiStore.Valid)
    (fun store request hValid =>
      valid_serveApi_iff hValid request)
    ?_ ApiStore.Valid.empty requests
  intro store request _ hLater
  exact hLater

/- A policy whose danger starts at 20. -/
def warnedPolicy : ApiRequest :=
  .policy .create
    ⟨some "co", none,
      ⟨none, some (some (.finite 10)),
        some (some (.finite 20)), none⟩⟩

/- The warning is moved over the danger. -/
def raisedWarning : ApiRequest :=
  .policy (.patch 0)
    ⟨none, none,
      ⟨none, some (some (.finite 30)), none, none⟩⟩

/- An inspection that asks for action by the tenth day. -/
def dueInspection : ApiRequest :=
  .inspection .create
    ⟨some 1, some .regular, some 5, some .actionRequired,
      some (some 10)⟩

/- The inspection is moved behind its expected date. -/
def postponedInspection : ApiRequest :=
  .inspection (.patch 0)
    ⟨none, none, some 20, none, none⟩

/- A partial update breaks a policy, and an inspection. -/
theorem api_rows_not_valid :
    ¬(run serveApi ApiStore.empty
        [warnedPolicy, raisedWarning]).policies.All
          PolicyRow.Valid ∧
      ¬(run serveApi ApiStore.empty
        [dueInspection, postponedInspection]).inspections.All
          InspectionRow.Valid := by
  constructor
  · intro hAll
    have hValid := hAll 0 _ rfl
    have hOrdered :=
      hValid limitChecks[2] (by decide) (.finite 30) rfl
        (.finite 20) rfl
    exact absurd hOrdered (by decide +kernel)
  · intro hAll
    rcases hAll 0 _ rfl rfl with ⟨expected, hSet, hOrder⟩
    cases hSet
    exact absurd hOrder (by decide)

end Monitoring

end Icmp2
