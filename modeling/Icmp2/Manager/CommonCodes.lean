import Icmp2.Manager.RiskCriteria
import Icmp2.Manager.ThresholdPage

/-
  The pages that write the common codes.

  Main definitions include:
    * `Icmp2.Manager.CommonCode`
    * `Icmp2.Manager.codeGroupCreate`
    * `Icmp2.Manager.codeValueEdit`
    * `Icmp2.Manager.thresholdGroupEdit`
    * `Icmp2.Manager.codeStep`

  A group is a row with the code `__meta__`; the other rows
  with its code are its values.  Requests are handled one
  after the other.
-/

------------------------------------------------------------
-- Rows
------------------------------------------------------------

namespace Icmp2

namespace Manager

open Accounts Library

/- `CommonCode`. -/
structure CommonCode where
  groupCode : String
  code : String
  codeName : String
  sortOrder : Int
  isActive : Bool
  description : String
  updatedBy : String
  scope : String
  mapReflect : Bool
  deriving DecidableEq, Repr

/- The code of the row that stands for a group. -/
def metaCode : String :=
  "__meta__"

namespace CommonCode

/- What the columns can hold. -/
def Fits
    (row : CommonCode) :
    Prop :=
  row.groupCode.length ≤ 50 ∧ row.code.length ≤ 50 ∧
    row.codeName.length ≤ 100 ∧
    row.updatedBy.length ≤ 100 ∧ row.scope.length ≤ 200 ∧
    0 ≤ row.sortOrder ∧ row.sortOrder ≤ 2147483647

instance : DecidablePred Fits := by
  intro row
  unfold Fits
  infer_instance

/- `unique_together`. -/
def pairKey
    (row : CommonCode) :
    Option (String × String) :=
  some (row.groupCode, row.code)

/- The name of a value, in its group. -/
def valueName
    (row : CommonCode) :
    Option (String × String) :=
  if row.code = metaCode then
    none
  else
    some (row.groupCode, row.codeName)

/- The name of a group. -/
def groupName
    (row : CommonCode) :
    Option String :=
  if row.code = metaCode then some row.codeName else none

/- `group_code=group_code, code=code`. -/
def isAt
    (groupCode code : String)
    (row : CommonCode) :
    Bool :=
  row.groupCode = groupCode ∧ row.code = code

/- A value of the group with the name. -/
def isValueNamed
    (groupCode name : String)
    (row : CommonCode) :
    Bool :=
  row.groupCode = groupCode ∧ row.codeName = name ∧
    row.code ≠ metaCode

/- A group with the name. -/
def isGroupNamed
    (name : String)
    (row : CommonCode) :
    Bool :=
  row.code = metaCode ∧ row.codeName = name

end CommonCode

abbrev CommonCodes : Type :=
  Rows CommonCode

inductive CodeAnswer where
  | ok
  | refused (field error : String)
  | incomplete (error : String)
  | redirect (groupCode : String)
  | badRequest
  | notFound
  | raised
  deriving DecidableEq, Repr

abbrev CodeResult : Type :=
  CodeAnswer × CommonCodes

/- `objects.create`; the database may refuse the row. -/
def createCode
    (rows : CommonCodes)
    (row : CommonCode)
    (answer : CodeAnswer) :
    CodeResult :=
  if row.Fits ∧
      rows.Free CommonCode.pairKey rows.nextId row then
    (answer, rows.insert row)
  else
    (.raised, rows)

/- `obj.save()`. -/
def saveCode
    (rows : CommonCodes)
    (pk : Nat)
    (row : CommonCode)
    (answer : CodeAnswer) :
    CodeResult :=
  if row.Fits ∧ rows.Free CommonCode.pairKey pk row then
    (answer, rows.set pk row)
  else
    (.raised, rows)

/- `request.POST.get(field, '').strip()`. -/
def fieldText
    (field : Option String) :
    String :=
  strip (field.getD "")

/- `int(request.POST.get('sort_order', default) or 0)`. -/
def sortOrderOf
    (field : Option String)
    (default : Int) :
    Option Int :=
  match field with
  | none => some default
  | some text => if text = "" then some 0 else intOf? text

end Manager

end Icmp2

------------------------------------------------------------
-- Groups
------------------------------------------------------------

namespace Icmp2

namespace Manager

open Accounts Library

variable [Letters]

/- The fields of the forms for groups. -/
structure GroupForm where
  isAjax : Bool
  groupCode : Option String
  groupName : Option String
  scope : List String
  isActive : Option String
  description : Option String
  user : String

/- What a page answers to a refusal or a success. -/
def answerTo
    (isAjax : Bool)
    (groupCode : String)
    (answer : CodeAnswer) :
    CodeAnswer :=
  if isAjax then answer else .redirect groupCode

/- The checks of a new group, and its row. -/
def createGroup
    (rows : CommonCodes)
    (isAjax : Bool)
    (row : CommonCode)
    (codeError nameError : String) :
    CodeResult :=
  let answer := answerTo isAjax row.groupCode
  if rows.Taken rows.nextId
      (CommonCode.isAt row.groupCode metaCode) then
    (answer (.refused "group_code" codeError), rows)
  else if rows.Taken rows.nextId
      (CommonCode.isGroupNamed row.codeName) then
    (answer (.refused "group_name" nameError), rows)
  else
    createCode rows row (answer .ok)

/- `code_group_create`. -/
def codeGroupCreate
    (rows : CommonCodes)
    (form : GroupForm) :
    CodeResult :=
  let groupCode := Letters.upper (fieldText form.groupCode)
  let groupName := fieldText form.groupName
  if groupCode ≠ "" ∧ groupName ≠ "" then
    createGroup rows form.isAjax
      { groupCode := groupCode
        code := metaCode
        codeName := groupName
        sortOrder := 0
        isActive := true
        description := fieldText form.description
        updatedBy := form.user
        scope := fieldText form.scope.getLast?
        mapReflect := false }
      "이미 등록된 그룹 코드입니다. 다른 그룹 코드를 입력해 주세요."
      "이미 등록된 그룹명입니다. 다른 그룹명을 입력해 주세요."
  else
    (answerTo form.isAjax groupCode .ok, rows)

/- `'RISK_'`, unless the code starts with it. -/
def withRiskPrefix
    (groupCode : String) :
    String :=
  if groupCode.toList.take 5 = "RISK_".toList then
    groupCode
  else
    "RISK_" ++ groupCode

/- `risk_group_create`. -/
def riskGroupCreate
    (rows : CommonCodes)
    (form : GroupForm) :
    CodeResult :=
  let groupCode := Letters.upper (fieldText form.groupCode)
  let groupName := fieldText form.groupName
  if groupCode ≠ "" ∧ groupName ≠ "" then
    createGroup rows form.isAjax
      { groupCode := withRiskPrefix groupCode
        code := metaCode
        codeName := groupName
        sortOrder := 0
        isActive := isTrue form.isActive
        description := fieldText form.description
        updatedBy := form.user
        scope := ",".intercalate form.scope
        mapReflect := false }
      "이미 등록된 분류 코드입니다. 다른 분류 코드를 입력해 주세요."
      "이미 등록된 분류명입니다. 다른 분류명을 입력해 주세요."
  else
    (answerTo form.isAjax groupCode .ok, rows)

/- What `code_group_edit` makes of the row of a group. -/
def codeGroupEdited
    (old : CommonCode)
    (form : GroupForm) :
    CommonCode :=
  { old with
    codeName := fieldText form.groupName
    scope := fieldText form.scope.getLast?
    updatedBy := form.user
    description := fieldText form.description }

/- What `risk_group_edit` makes of it. -/
def riskGroupEdited
    (old : CommonCode)
    (form : GroupForm) :
    CommonCode :=
  { old with
    codeName := fieldText form.groupName
    isActive := isTrue form.isActive
    scope := form.scope.getLast?.getD ""
    description := fieldText form.description
    updatedBy := form.user }

/- The body of both edits; the name is not compared. -/
def editGroup
    (edited : CommonCode → GroupForm → CommonCode)
    (rows : CommonCodes)
    (groupCode : String)
    (form : GroupForm) :
    CodeResult :=
  match rows.find? (CommonCode.isAt groupCode metaCode) with
  | none => (.notFound, rows)
  | some pk =>
      match rows.get? pk with
      | none => (.notFound, rows)
      | some old =>
          let answer := answerTo form.isAjax groupCode .ok
          if fieldText form.groupName = "" then
            (answer, rows)
          else
            saveCode rows pk (edited old form) answer

/- `code_group_edit`. -/
def codeGroupEdit :
    CommonCodes → String → GroupForm → CodeResult :=
  editGroup codeGroupEdited

/- `risk_group_edit`. -/
def riskGroupEdit :
    CommonCodes → String → GroupForm → CodeResult :=
  editGroup riskGroupEdited

end Manager

end Icmp2

------------------------------------------------------------
-- Values
------------------------------------------------------------

namespace Icmp2

namespace Manager

open Accounts Library

variable [Letters]

/-
  The fields of the forms for values; `group` is that of
  the query string.
-/
structure ValueForm where
  isAjax : Bool
  group : Option String
  groupCode : Option String
  code : Option String
  codeName : Option String
  sortOrder : Option String
  isActive : Option String
  mapReflect : Option String
  description : Option String
  user : String

/- `request.GET.get(..) or request.POST.get(..)`. -/
def ValueForm.groupOf
    (form : ValueForm) :
    String :=
  if form.group.getD "" = "" then
    form.groupCode.getD ""
  else
    form.group.getD ""

/- The row of a new value. -/
def createdValue
    (form : ValueForm)
    (sortOrder : Int)
    (mapReflect : Bool) :
    CommonCode where
  groupCode := form.groupOf
  code := Letters.upper (fieldText form.code)
  codeName := fieldText form.codeName
  sortOrder := sortOrder
  isActive := isTrue form.isActive
  description := fieldText form.description
  updatedBy := form.user
  scope := ""
  mapReflect := mapReflect

/-
  The checks of a new value; `otherwise` answers a form
  with a blank field.
-/
def createValue
    (rows : CommonCodes)
    (form : ValueForm)
    (mapReflect : Bool)
    (nameError : String)
    (otherwise : CodeAnswer) :
    CodeResult :=
  match sortOrderOf form.sortOrder 0 with
  | none => (.raised, rows)
  | some sortOrder =>
      let row := createdValue form sortOrder mapReflect
      let answer := answerTo form.isAjax row.groupCode
      if row.code ≠ "" ∧ row.codeName ≠ "" ∧
          row.groupCode ≠ "" then
        if rows.Taken rows.nextId
            (CommonCode.isAt row.groupCode row.code) then
          (answer
            (.refused "code"
              "이미 해당 코드 그룹에 등록된 코드입니다."), rows)
        else if rows.Taken rows.nextId
            (CommonCode.isValueNamed row.groupCode
              row.codeName) then
          (answer (.refused "code_name" nameError), rows)
        else
          createCode rows row (answer .ok)
      else
        (answer otherwise, rows)

/- `code_value_create`. -/
def codeValueCreate
    (rows : CommonCodes)
    (form : ValueForm) :
    CodeResult :=
  createValue rows form false
    "같은 코드 그룹에 동일한 코드명이 이미 등록되어 있습니다." .ok

/- `risk_create`; its `update_or_create` creates. -/
def riskCreate
    (rows : CommonCodes)
    (form : ValueForm) :
    CodeResult :=
  createValue rows form
    (form.mapReflect.getD "" = "true")
    "같은 코드 그룹에 동일한 유형명이 이미 등록되어 있습니다."
    (.incomplete "필수 항목을 확인하세요.")

/- What an edit makes of a row. -/
def editedValue
    (old : CommonCode)
    (form : ValueForm)
    (sortOrder : Int)
    (mapReflect : Bool) :
    CommonCode :=
  { old with
    codeName := strip (form.codeName.getD old.codeName)
    sortOrder := sortOrder
    isActive := isTrue form.isActive
    mapReflect := mapReflect
    description := fieldText form.description
    updatedBy := form.user }

/- The body of both edits; the row may be that of a group. -/
def editValue
    (rows : CommonCodes)
    (pk : Nat)
    (form : ValueForm)
    (mapReflect : CommonCode → Bool)
    (nameError : String) :
    CodeResult :=
  match rows.get? pk with
  | none => (.notFound, rows)
  | some old =>
      let answer := answerTo form.isAjax old.groupCode
      if rows.Taken pk
          (CommonCode.isValueNamed old.groupCode
            (strip (form.codeName.getD old.codeName))) then
        (answer (.refused "code_name" nameError), rows)
      else
        match sortOrderOf form.sortOrder old.sortOrder with
        | none => (.raised, rows)
        | some sortOrder =>
            saveCode rows pk
              (editedValue old form sortOrder
                (mapReflect old)) (answer .ok)

/- `code_value_edit`. -/
def codeValueEdit
    (rows : CommonCodes)
    (pk : Nat)
    (form : ValueForm) :
    CodeResult :=
  editValue rows pk form CommonCode.mapReflect
    "같은 코드 그룹에 동일한 코드명이 이미 등록되어 있습니다."

/- `risk_edit`. -/
def riskEdit
    (rows : CommonCodes)
    (pk : Nat)
    (form : ValueForm) :
    CodeResult :=
  editValue rows pk form
    (fun _ => form.mapReflect.getD "" = "true")
    "같은 코드 그룹에 동일한 유형명이 이미 등록되어 있습니다."

/- Deletes a row that is not that of a group. -/
def eraseValue
    (rows : CommonCodes)
    (pk : Int) :
    CommonCodes :=
  if 0 ≤ pk ∧
      (rows.get? pk.toNat).any
        (fun row => row.code ≠ metaCode) = true then
    rows.erase pk.toNat
  else
    rows

/- `code_value_delete` and `risk_delete`. -/
def codeValueDelete
    (rows : CommonCodes)
    (isAjax : Bool)
    (groupCode : String)
    (pks : List String) :
    CodeResult :=
  match intsOf? pks with
  | none => (.raised, rows)
  | some ids =>
      (answerTo isAjax groupCode .ok,
        ids.foldl eraseValue rows)

end Manager

end Icmp2

------------------------------------------------------------
-- Threshold Categories
------------------------------------------------------------

namespace Icmp2

namespace Manager

open Accounts Library

variable [Letters]

def thCategoryGroup : String :=
  "TH_CATEGORY"

/- `re.match(r'^[A-Z0-9_]+$', code)`. -/
def isThCode
    (text : String) :
    Bool :=
  text ≠ "" ∧
    text.toList.all fun c =>
      c.isUpper || c.isDigit || c = '_'

/- `re.match(r'^[가-힣\s]+$', code_name)`. -/
def isThName
    (text : String) :
    Bool :=
  text ≠ "" ∧
    text.toList.all fun c =>
      ('가' ≤ c && c ≤ '힣') || isSpace c

/- The fields of both forms. -/
structure ThGroupForm where
  isAjax : Bool
  code : Option String
  codeName : Option String
  scope : Option String
  isActive : Option String
  description : Option String
  user : String

/-
  The checks of both views; an edit passes what it keeps of
  `old` without asking whether it is taken.
-/
def thGroupFault?
    (rows : CommonCodes)
    (old : Option CommonCode)
    (code codeName : String) :
    Option (String × String) :=
  let taken := fun test => rows.Taken rows.nextId test
  if code = "" then
    some ("code", "분류 코드를 입력해주세요.")
  else if 50 < code.length then
    some ("code", "그룹명은 최대 50자까지 입력할 수 있습니다.")
  else if isThCode code = false then
    some
      ("code",
        "그룹 코드는 영문 대문자, 숫자, 밑줄(_)만 사용할 수 있습니다.")
  else if old.map CommonCode.code ≠ some code ∧
      taken (CommonCode.isAt thCategoryGroup code) then
    some
      ("code",
        "이미 등록된 분류 코드입니다. 다른 분류 코드를 입력해 주세요.")
  else if codeName = "" then
    some ("name", "분류명 입력해 주세요.")
  else if 50 < codeName.length then
    some ("name", "분류명은 최대 50자까지 입력할 수 있습니다.")
  else if isThName codeName = false then
    some ("name", "분류명은 한글만 입력할 수 있습니다.")
  else if old.map CommonCode.codeName ≠ some codeName ∧
      taken (fun row =>
        row.groupCode = thCategoryGroup ∧
          row.codeName = codeName) then
    some
      ("name",
        "이미 등록된 분류명입니다. 다른 분류명을 입력해 주세요.")
  else
    none

/- `filter(group_code='TH_CATEGORY').count()`. -/
def countThGroups
    (rows : CommonCodes) :
    Nat :=
  (List.range rows.nextId).countP fun id =>
    (rows.get? id).any fun row =>
      row.groupCode = thCategoryGroup

/- `threshold_group_create`. -/
def thresholdGroupCreate
    (rows : CommonCodes)
    (form : ThGroupForm) :
    CodeResult :=
  if form.isAjax then
    let code := Letters.upper (fieldText form.code)
    let codeName := fieldText form.codeName
    match thGroupFault? rows none code codeName with
    | some (field, error) => (.refused field error, rows)
    | none =>
        createCode rows
          { groupCode := thCategoryGroup
            code := code
            codeName := codeName
            sortOrder := countThGroups rows + 1
            isActive := isTrue form.isActive
            description := fieldText form.description
            updatedBy := form.user
            scope := fieldText form.scope
            mapReflect := false }
          .ok
  else
    (.badRequest, rows)

/- What the edit makes of a row. -/
def thGroupEdited
    (old : CommonCode)
    (form : ThGroupForm) :
    CommonCode :=
  { old with
    code := Letters.upper (strip (form.code.getD old.code))
    codeName := strip (form.codeName.getD old.codeName)
    scope := fieldText form.scope
    isActive := isTrue form.isActive
    description := fieldText form.description
    updatedBy := form.user }

/- `threshold_group_edit`; `cat_code` may be `__meta__`. -/
def thresholdGroupEdit
    (rows : CommonCodes)
    (catCode : String)
    (form : ThGroupForm) :
    CodeResult :=
  match rows.find?
      (CommonCode.isAt thCategoryGroup catCode) with
  | none => (.notFound, rows)
  | some pk =>
      match rows.get? pk with
      | none => (.notFound, rows)
      | some old =>
          if form.isAjax then
            let row := thGroupEdited old form
            match
              thGroupFault? rows (some old) row.code
                row.codeName with
            | some (field, error) =>
                (.refused field error, rows)
            | none => saveCode rows pk row .ok
          else
            (.badRequest, rows)

/- A default category as a row. -/
def defaultCategory
    (default : ThCategoryCode) :
    CommonCode where
  groupCode := thCategoryGroup
  code := default.code
  codeName := default.codeName
  sortOrder := default.sortOrder
  isActive := true
  description := ""
  updatedBy := default.updatedBy
  scope := default.scope
  mapReflect := false

/- `get_or_create`, and a scope for a row without one. -/
def ensureCategory
    (rows : CommonCodes)
    (default : ThCategoryCode) :
    CommonCodes :=
  match rows.find?
      (CommonCode.isAt thCategoryGroup default.code) with
  | none => rows.insert (defaultCategory default)
  | some pk =>
      rows.updateEach fun id row =>
        if id = pk ∧ row.scope = "" then
          { row with
            scope := default.scope
            updatedBy := default.updatedBy }
        else
          row

/-
  `_ensure_th_categories`, as far as it writes codes; the
  views of the thresholds begin with it.
-/
def ensureCategories
    (rows : CommonCodes) :
    CommonCodes :=
  (categoryDefaults.foldl ensureCategory rows).mapRows
    fun row =>
      if row.groupCode = thCategoryGroup then
        { row with updatedBy := renameSystem row.updatedBy }
      else
        row

end Manager

end Icmp2

------------------------------------------------------------
-- Steps
------------------------------------------------------------

namespace Icmp2

namespace Manager

open Accounts Library

variable [Letters]

inductive CodeOp where
  | codeGroupCreate (form : GroupForm)
  | codeGroupEdit (groupCode : String) (form : GroupForm)
  | riskGroupCreate (form : GroupForm)
  | riskGroupEdit (groupCode : String) (form : GroupForm)
  | codeValueCreate (form : ValueForm)
  | codeValueEdit (pk : Nat) (form : ValueForm)
  | riskCreate (form : ValueForm)
  | riskEdit (pk : Nat) (form : ValueForm)
  | codeValueDelete
      (isAjax : Bool)
      (groupCode : String)
      (pks : List String)
  | thresholdGroupCreate (form : ThGroupForm)
  | thresholdGroupEdit
      (catCode : String)
      (form : ThGroupForm)
  | ensureCategories

def codeStep
    (rows : CommonCodes) :
    CodeOp → CommonCodes
  | .codeGroupCreate form => (codeGroupCreate rows form).2
  | .codeGroupEdit groupCode form =>
      (codeGroupEdit rows groupCode form).2
  | .riskGroupCreate form => (riskGroupCreate rows form).2
  | .riskGroupEdit groupCode form =>
      (riskGroupEdit rows groupCode form).2
  | .codeValueCreate form => (codeValueCreate rows form).2
  | .codeValueEdit pk form =>
      (codeValueEdit rows pk form).2
  | .riskCreate form => (riskCreate rows form).2
  | .riskEdit pk form => (riskEdit rows pk form).2
  | .codeValueDelete isAjax groupCode pks =>
      (codeValueDelete rows isAjax groupCode pks).2
  | .thresholdGroupCreate form =>
      (thresholdGroupCreate rows form).2
  | .thresholdGroupEdit catCode form =>
      (thresholdGroupEdit rows catCode form).2
  | .ensureCategories => ensureCategories rows

end Manager

end Icmp2
