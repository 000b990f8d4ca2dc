import Icmp2.Accounts.Users
import Icmp2.Library.OrderBy

/-
  The criteria for risk levels, and who looks them up.

  Main definitions include:
    * `Icmp2.Manager.RiskCriterion`
    * `Icmp2.Manager.riskCriteriaCreate`
    * `Icmp2.Manager.riskCriteriaEdit`
    * `Icmp2.Manager.getRiskCriteria`

  Main theorems include:
    * `Icmp2.Manager.RiskCriteriaSound.step`
    * `Icmp2.Manager.risk_criteria_lookup`

  Requests are handled one after the other.
-/

------------------------------------------------------------
-- Criteria
------------------------------------------------------------

namespace Icmp2

namespace Manager

open Accounts Library

/- `RiskCriteria`. -/
structure RiskCriterion where
  stageCode : String
  stageName : String
  colorType : String
  alertEmphasis : String
  priority : Int
  isActive : Bool
  description : String
  updatedBy : String
  deriving DecidableEq, Repr

/- What the columns can hold. -/
def RiskCriterion.Fits
    (row : RiskCriterion) :
    Prop :=
  row.stageCode.length ≤ 50 ∧
    row.stageName.length ≤ 100 ∧
    row.colorType.length ≤ 20 ∧
    row.alertEmphasis.length ≤ 100 ∧
    row.updatedBy.length ≤ 100 ∧
    0 ≤ row.priority ∧ row.priority ≤ 2147483647

instance : DecidablePred RiskCriterion.Fits := by
  intro row
  unfold RiskCriterion.Fits
  infer_instance

namespace RiskCriterion

/- The key of the unique column. -/
def codeKey
    (row : RiskCriterion) :
    Option String :=
  some row.stageCode

def nameKey
    (row : RiskCriterion) :
    Option String :=
  some row.stageName

def priorityKey
    (row : RiskCriterion) :
    Option Int :=
  some row.priority

end RiskCriterion

abbrev RiskCriteria : Type :=
  Rows RiskCriterion

/- The fields of both forms, and the name of the user. -/
structure RiskCriteriaForm where
  stageCode : Option String
  stageName : Option String
  colorType : Option String
  alertEmphasis : Option String
  priority : Option String
  isActive : Option String
  description : Option String
  user : String

inductive RiskCriteriaAnswer where
  | ok
  | refused (field error : String)
  | failed
  | redirect
  | notFound
  | raised
  deriving DecidableEq, Repr

/-
  The number of the field; a default stands in for a field
  that is missing or blank.
-/
def priorityOf
    (field : Option String)
    (default : Int) :
    Option Int :=
  let raw := strip (field.getD "")
  if raw = "" then some default else intOf? raw

/- `is_active`. -/
def isTrue
    (field : Option String) :
    Bool :=
  field.getD "true" = "true"

/-
  The field and the message of the first check that fails;
  only a creation asks for a color.
-/
def riskCriteriaFault?
    (rows : RiskCriteria)
    (pk : Nat)
    (stageCode stageName : String)
    (color : Option String)
    (priority : Option Int) :
    Option (String × String) :=
  if stageCode = "" then
    some ("code", "단계 코드를 입력해 주세요.")
  else if stageName = "" then
    some ("name", "단계명을 입력해 주세요.")
  else if rows.Taken pk fun row => row.stageCode = stageCode
  then
    some ("code", "이미 등록된 단계 코드입니다.")
  else if rows.Taken pk fun row => row.stageName = stageName
  then
    some ("name", "이미 등록된 단계명입니다.")
  else if color = some "" then
    some ("color", "표시 색상을 선택해 주세요.")
  else
    match priority.filter fun number => 1 ≤ number with
    | none =>
        some
          ("priority",
            "이벤트 우선순위는 1 이상의 숫자여야 합니다.")
    | some number =>
        if rows.Taken pk fun row => row.priority = number
        then
          some
            ("priority", "이미 사용 중인 이벤트 우선순위입니다.")
        else
          none

/- What the database takes. -/
def RiskCriteria.Takes
    (rows : RiskCriteria)
    (pk : Nat)
    (row : RiskCriterion) :
    Prop :=
  row.Fits ∧ rows.Free RiskCriterion.codeKey pk row

instance
    (rows : RiskCriteria)
    (pk : Nat)
    (row : RiskCriterion) :
    Decidable (RiskCriteria.Takes rows pk row) := by
  unfold RiskCriteria.Takes
  infer_instance

variable [Letters]

/- The row of a creation. -/
def createdCriterion
    (form : RiskCriteriaForm) :
    RiskCriterion where
  stageCode :=
    Letters.upper (strip (form.stageCode.getD ""))
  stageName := strip (form.stageName.getD "")
  colorType := strip (form.colorType.getD "")
  alertEmphasis := strip (form.alertEmphasis.getD "")
  priority := (priorityOf form.priority 1).getD 1
  isActive := isTrue form.isActive
  description := strip (form.description.getD "")
  updatedBy := form.user

/- `risk_criteria_create`. -/
def riskCriteriaCreate
    (rows : RiskCriteria)
    (form : RiskCriteriaForm) :
    RiskCriteriaAnswer × RiskCriteria :=
  let row := createdCriterion form
  match
    riskCriteriaFault? rows rows.nextId row.stageCode
      row.stageName (some row.colorType)
      (priorityOf form.priority 1) with
  | some (field, error) => (.refused field error, rows)
  | none =>
      if RiskCriteria.Takes rows rows.nextId row then
        (.ok, rows.insert row)
      else
        (.failed, rows)

/- The row of an edit. -/
def editedCriterion
    (old : RiskCriterion)
    (form : RiskCriteriaForm) :
    RiskCriterion where
  stageCode :=
    Letters.upper
      (strip (form.stageCode.getD old.stageCode))
  stageName := strip (form.stageName.getD old.stageName)
  colorType := form.colorType.getD old.colorType
  alertEmphasis :=
    strip (form.alertEmphasis.getD old.alertEmphasis)
  priority :=
    (priorityOf form.priority old.priority).getD old.priority
  isActive := isTrue form.isActive
  description :=
    strip (form.description.getD old.description)
  updatedBy := form.user

/- `risk_criteria_edit`. -/
def riskCriteriaEdit
    (rows : RiskCriteria)
    (pk : Nat)
    (form : RiskCriteriaForm) :
    RiskCriteriaAnswer × RiskCriteria :=
  match rows.get? pk with
  | none => (.notFound, rows)
  | some old =>
      let row := editedCriterion old form
      match
        riskCriteriaFault? rows pk row.stageCode
          row.stageName none
          (priorityOf form.priority old.priority) with
      | some (field, error) => (.refused field error, rows)
      | none =>
          if RiskCriteria.Takes rows pk row then
            (.ok, rows.set pk row)
          else
            (.failed, rows)

/- `risk_criteria_delete`. -/
def riskCriteriaDelete
    (rows : RiskCriteria)
    (pks : List String) :
    RiskCriteriaAnswer × RiskCriteria :=
  match intsOf? pks with
  | none => (.raised, rows)
  | some ids =>
      (.redirect,
        (ids.filter fun id => 0 ≤ id).foldl
          (fun rows id => rows.erase id.toNat) rows)

inductive RiskCriteriaOp where
  | create (form : RiskCriteriaForm)
  | edit (pk : Nat) (form : RiskCriteriaForm)
  | delete (pks : List String)

def riskCriteriaStep
    (rows : RiskCriteria) :
    RiskCriteriaOp → RiskCriteria
  | .create form => (riskCriteriaCreate rows form).2
  | .edit pk form => (riskCriteriaEdit rows pk form).2
  | .delete pks => (riskCriteriaDelete rows pks).2

/- The stored rows, by their id. -/
def storedCriteria
    (rows : RiskCriteria) :
    List RiskCriterion :=
  (List.range rows.nextId).filterMap rows.get?

/- `_get_risk_criteria`; `Meta.ordering` is by priority. -/
def getRiskCriteria
    (rows : RiskCriteria)
    (severity : String) :
    Option RiskCriterion :=
  (orderDesc (fun row => -row.priority)
    (storedCriteria rows)).find? fun row =>
      Letters.sqlUpper row.stageCode =
          Letters.sqlUpper severity ∧
        row.isActive = true

end Manager

end Icmp2

------------------------------------------------------------
-- Requests
------------------------------------------------------------

namespace Icmp2

namespace Manager

open Accounts Library

variable {rows : RiskCriteria}

/- What is known of a row that passes the checks. -/
theorem riskCriteriaFault?_eq_none
    {pk : Nat}
    {stageCode stageName : String}
    {color : Option String}
    {priority : Option Int}
    (hNone :
      riskCriteriaFault? rows pk stageCode stageName color
        priority = none) :
    (¬ rows.Taken pk fun row => row.stageCode = stageCode) ∧
      (¬ rows.Taken pk fun row =>
        row.stageName = stageName) ∧
      ∃ number, priority = some number ∧ 1 ≤ number ∧
        ¬ rows.Taken pk fun row => row.priority = number := by
  unfold riskCriteriaFault? at hNone
  split_ifs at hNone with _ _ hCode hName _
  refine ⟨hCode, hName, ?_⟩
  cases hNumber :
      priority.filter fun number => 1 ≤ number with
  | none =>
      rw [hNumber] at hNone
      cases hNone
  | some number =>
      rw [hNumber] at hNone
      simp only [ite_eq_right_iff, reduceCtorEq,
        imp_false] at hNone
      rcases Option.filter_eq_some_iff.mp hNumber with
        ⟨hPriority, hOne⟩
      exact
        ⟨number, hPriority, of_decide_eq_true hOne, hNone⟩

variable [Letters]

/- A row whose columns no other row has. -/
structure RiskCriterion.Apart
    (rows : RiskCriteria)
    (pk : Nat)
    (row : RiskCriterion) :
    Prop where
  code : rows.Free codeKey pk row
  name : rows.Free nameKey pk row
  priority : rows.Free priorityKey pk row
  upperCase : Letters.sqlUpper row.stageCode = row.stageCode

/- A row that passes the checks is apart from the others. -/
theorem apart_of_fault?_eq_none
    {pk : Nat}
    {row : RiskCriterion}
    {color : Option String}
    {priority : Option Int}
    (hNone :
      riskCriteriaFault? rows pk row.stageCode row.stageName
        color priority = none)
    (hPriority :
      ∀ number, priority = some number →
        row.priority = number)
    (hUpper :
      Letters.sqlUpper row.stageCode = row.stageCode) :
    row.Apart rows pk := by
  rcases riskCriteriaFault?_eq_none hNone with
    ⟨hCode, hName, number, hNumber, _, hFree⟩
  refine ⟨?_, ?_, ?_, hUpper⟩
  · apply Rows.free_of_not_taken hCode
    rintro stored value hRow hStored
    exact decide_eq_true
      (Option.some.inj (hStored.trans hRow.symm))
  · apply Rows.free_of_not_taken hName
    rintro stored value hRow hStored
    exact decide_eq_true
      (Option.some.inj (hStored.trans hRow.symm))
  · rw [← hPriority number hNumber] at hFree
    apply Rows.free_of_not_taken hFree
    rintro stored value hRow hStored
    exact decide_eq_true
      (Option.some.inj (hStored.trans hRow.symm))

theorem riskCriteriaCreate_cases
    (rows : RiskCriteria)
    (form : RiskCriteriaForm) :
    (riskCriteriaCreate rows form).2 = rows ∨
      (createdCriterion form).Apart rows rows.nextId ∧
        (riskCriteriaCreate rows form).2 =
          rows.insert (createdCriterion form) := by
  simp only [riskCriteriaCreate]
  cases hFault :
      riskCriteriaFault? rows rows.nextId
        (createdCriterion form).stageCode
        (createdCriterion form).stageName
        (some (createdCriterion form).colorType)
        (priorityOf form.priority 1) with
  | some fault => exact Or.inl rfl
  | none =>
      simp only
      split_ifs with hTakes
      · right
        refine ⟨apart_of_fault?_eq_none hFault ?_ ?_, rfl⟩
        · intro number hNumber
          simp only [createdCriterion, hNumber,
            Option.getD_some]
        · exact Letters.sqlUpper_upper _
      · exact Or.inl rfl

theorem riskCriteriaEdit_cases
    (rows : RiskCriteria)
    (pk : Nat)
    (form : RiskCriteriaForm) :
    (riskCriteriaEdit rows pk form).2 = rows ∨
      ∃ row : RiskCriterion,
        row.Apart rows pk ∧
          (riskCriteriaEdit rows pk form).2 =
            rows.set pk row := by
  unfold riskCriteriaEdit
  cases rows.get? pk with
  | none => exact Or.inl rfl
  | some old =>
      simp only
      cases hFault :
          riskCriteriaFault? rows pk
            (editedCriterion old form).stageCode
            (editedCriterion old form).stageName none
            (priorityOf form.priority old.priority) with
      | some fault => exact Or.inl rfl
      | none =>
          simp only
          split_ifs with hTakes
          · right
            refine
              ⟨editedCriterion old form,
                apart_of_fault?_eq_none hFault ?_ ?_, rfl⟩
            · intro number hNumber
              simp only [editedCriterion, hNumber,
                Option.getD_some]
            · exact Letters.sqlUpper_upper _
          · exact Or.inl rfl

/- What requests keep of the table. -/
structure RiskCriteriaSound
    (rows : RiskCriteria) :
    Prop where
  codes : rows.UniqueBy RiskCriterion.codeKey
  names : rows.UniqueBy RiskCriterion.nameKey
  priorities : rows.UniqueBy RiskCriterion.priorityKey
  upperCase :
    rows.All fun row =>
      Letters.sqlUpper row.stageCode = row.stageCode

namespace RiskCriteriaSound

theorem empty :
    RiskCriteriaSound Rows.empty where
  codes := Rows.UniqueBy.empty
  names := Rows.UniqueBy.empty
  priorities := Rows.UniqueBy.empty
  upperCase := Rows.All.empty

theorem insert
    {row : RiskCriterion}
    (hSound : RiskCriteriaSound rows)
    (hApart : row.Apart rows rows.nextId) :
    RiskCriteriaSound (rows.insert row) where
  codes := hSound.codes.insert hApart.code
  names := hSound.names.insert hApart.name
  priorities := hSound.priorities.insert hApart.priority
  upperCase := hSound.upperCase.insert hApart.upperCase

theorem set
    {pk : Nat}
    {row : RiskCriterion}
    (hSound : RiskCriteriaSound rows)
    (hApart : row.Apart rows pk) :
    RiskCriteriaSound (rows.set pk row) where
  codes := hSound.codes.set hApart.code
  names := hSound.names.set hApart.name
  priorities := hSound.priorities.set hApart.priority
  upperCase := hSound.upperCase.set hApart.upperCase pk

theorem erase
    (hSound : RiskCriteriaSound rows)
    (pk : Nat) :
    RiskCriteriaSound (rows.erase pk) where
  codes := hSound.codes.erase pk
  names := hSound.names.erase pk
  priorities := hSound.priorities.erase pk
  upperCase := hSound.upperCase.erase pk

/- Every request keeps it. -/
theorem step
    (hSound : RiskCriteriaSound rows)
    (op : RiskCriteriaOp) :
    RiskCriteriaSound (riskCriteriaStep rows op) := by
  cases op with
  | create form =>
      rcases riskCriteriaCreate_cases rows form with
        hSame | ⟨hApart, hInsert⟩
      · rw [riskCriteriaStep, hSame]
        exact hSound
      · rw [riskCriteriaStep, hInsert]
        exact hSound.insert hApart
  | edit pk form =>
      rcases riskCriteriaEdit_cases rows pk form with
        hSame | ⟨row, hApart, hSet⟩
      · rw [riskCriteriaStep, hSame]
        exact hSound
      · rw [riskCriteriaStep, hSet]
        exact hSound.set hApart
  | delete pks =>
      simp only [riskCriteriaStep, riskCriteriaDelete]
      cases intsOf? pks with
      | none => exact hSound
      | some ids =>
          simp only
          generalize (ids.filter fun id => 0 ≤ id) = known
          induction known generalizing rows with
          | nil => exact hSound
          | cons id known ih =>
              exact ih (hSound.erase id.toNat)

end RiskCriteriaSound

end Manager

end Icmp2

------------------------------------------------------------
-- Lookup
------------------------------------------------------------

namespace Icmp2

namespace Manager

open Accounts Library

variable {rows : RiskCriteria}
variable {row : RiskCriterion}

theorem mem_storedCriteria_iff :
    row ∈ storedCriteria rows ↔
      ∃ id, rows.get? id = some row := by
  unfold storedCriteria
  rw [List.mem_filterMap]
  constructor
  · rintro ⟨id, _, hGet⟩
    exact ⟨id, hGet⟩
  · rintro ⟨id, hGet⟩
    exact
      ⟨id, List.mem_range.mpr (Rows.lt_nextId hGet), hGet⟩

variable [Letters]

/- What is found is an active row with the code. -/
theorem of_getRiskCriteria
    {severity : String}
    (hFind : getRiskCriteria rows severity = some row) :
    row ∈ storedCriteria rows ∧
      Letters.sqlUpper row.stageCode =
        Letters.sqlUpper severity ∧
      row.isActive = true := by
  unfold getRiskCriteria at hFind
  exact
    ⟨(mem_orderDesc _ _ _).mp
        (List.mem_of_find?_eq_some hFind),
      by simpa using List.find?_some hFind⟩

/-
  Codes are written in capitals and once each, so that the
  lookup that ignores case has one row to find.
-/
theorem getRiskCriteria_eq_some_iff
    (hSound : RiskCriteriaSound rows)
    (severity : String) :
    getRiskCriteria rows severity = some row ↔
      ∃ id, rows.get? id = some row ∧
        row.isActive = true ∧
        row.stageCode = Letters.sqlUpper severity := by
  have hCode :
      ∀ {found : RiskCriterion},
        found ∈ storedCriteria rows →
          Letters.sqlUpper found.stageCode =
            found.stageCode := by
    intro found hMem
    rcases mem_storedCriteria_iff.mp hMem with ⟨id, hGet⟩
    exact hSound.upperCase id found hGet
  constructor
  · intro hFind
    rcases of_getRiskCriteria hFind with
      ⟨hMem, hSame, hActive⟩
    rcases mem_storedCriteria_iff.mp hMem with ⟨id, hGet⟩
    exact ⟨id, hGet, hActive, (hCode hMem).symm.trans hSame⟩
  · rintro ⟨id, hGet, hActive, hSame⟩
    have hMem := mem_storedCriteria_iff.mpr ⟨id, hGet⟩
    cases hFind : getRiskCriteria rows severity with
    | none =>
        have hNot :=
          List.find?_eq_none.mp hFind row
            ((mem_orderDesc _ _ _).mpr hMem)
        rw [decide_eq_true_eq] at hNot
        exact
          absurd ⟨(hCode hMem).trans hSame, hActive⟩ hNot
    | some found =>
        rcases of_getRiskCriteria hFind with
          ⟨hFound, hOtherCode, _⟩
        rcases mem_storedCriteria_iff.mp hFound with
          ⟨other, hOther⟩
        have hId : other = id := by
          apply
            hSound.codes other id found row
              (Letters.sqlUpper severity) hOther hGet
          · exact
              congrArg some
                ((hCode hFound).symm.trans hOtherCode)
          · exact congrArg some hSame
        subst hId
        exact hOther.symm.trans hGet

/-
  After every run of requests, a severity has at most one
  active criterion, which the lookup finds whatever the
  case of its letters; names and priorities are unique.
-/
theorem risk_criteria_lookup
    (ops : List RiskCriteriaOp)
    (severity : String)
    (row : RiskCriterion) :
    let rows := run riskCriteriaStep Rows.empty ops
    (getRiskCriteria rows severity = some row ↔
      ∃ id, rows.get? id = some row ∧
        row.isActive = true ∧
        row.stageCode = Letters.sqlUpper severity) ∧
      rows.UniqueBy RiskCriterion.codeKey ∧
      rows.UniqueBy RiskCriterion.nameKey ∧
      rows.UniqueBy RiskCriterion.priorityKey := by
  intro rows
  have hSound : RiskCriteriaSound rows :=
    run_invariant (fun _ op hRows => hRows.step op)
      RiskCriteriaSound.empty ops
  exact
    ⟨getRiskCriteria_eq_some_iff hSound severity,
      hSound.codes, hSound.names, hSound.priorities⟩

/- A criterion for warnings, found by its small letters. -/
example :
    let _ := asciiLetters
    let form : RiskCriteriaForm :=
      { stageCode := some " warning ", stageName := some "주의"
        colorType := some "yellow", alertEmphasis := none
        priority := some "2", isActive := none
        description := none, user := "관리자" }
    (getRiskCriteria
        (run riskCriteriaStep Rows.empty [.create form])
        "warning").map RiskCriterion.colorType =
      some "yellow" := by
  decide +kernel

end Manager

end Icmp2
