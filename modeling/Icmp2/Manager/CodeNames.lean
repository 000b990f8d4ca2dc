import Icmp2.Manager.CommonCodes

/-
  The names of groups and values of common codes.

  Main definitions include:
    * `Icmp2.Manager.savedRow?`
    * `Icmp2.Manager.ValueNamesKept`
    * `Icmp2.Manager.GroupNamesKept`

  Main theorems include:
    * `Icmp2.Manager.codeStep_cases`
    * `Icmp2.Manager.unique_pairKey_run`
    * `Icmp2.Manager.value_names_unique_iff`
    * `Icmp2.Manager.group_names_unique_iff`

  New rows are compared with the stored ones; edits compare
  the names of values, but not those of groups.
-/

------------------------------------------------------------
-- Free Names
------------------------------------------------------------

namespace Icmp2

namespace Manager

open Accounts Library

variable {rows : CommonCodes}
variable {pk : Nat}
variable {row : CommonCode}

namespace CommonCode

theorem valueName_eq_some_iff
    (row : CommonCode)
    (groupCode name : String) :
    row.valueName = some (groupCode, name) ↔
      row.isValueNamed groupCode name = true := by
  unfold valueName isValueNamed
  by_cases hMeta : row.code = metaCode
  · simp [hMeta]
  · simp [hMeta]

theorem groupName_eq_some_iff
    (row : CommonCode)
    (name : String) :
    row.groupName = some name ↔
      row.isGroupNamed name = true := by
  unfold groupName isGroupNamed
  by_cases hMeta : row.code = metaCode
  · simp [hMeta]
  · simp [hMeta]

end CommonCode

/- A key is free if no other row has it, and only then. -/
theorem free_iff_not_taken
    {K : Type}
    {key : CommonCode → Option K}
    {value : K}
    {test : CommonCode → Bool}
    (hKey : key row = some value)
    (hTest :
      ∀ stored : CommonCode,
        key stored = some value ↔ test stored = true) :
    rows.Free key pk row ↔ ¬ rows.Taken pk test := by
  constructor
  · rintro hFree ⟨other, hRange, hNe, hAny⟩
    apply hFree other hRange hNe value hKey
    cases hGet : rows.get? other with
    | none =>
        rw [hGet] at hAny
        cases hAny
    | some stored =>
        rw [hGet] at hAny
        exact (hTest stored).mpr hAny
  · intro hNot
    apply Rows.free_of_not_taken hNot
    intro stored taken hRow hStored
    cases hKey.symm.trans hRow
    exact (hTest stored).mp hStored

theorem free_valueName_iff
    (hCode : row.code ≠ metaCode) :
    rows.Free CommonCode.valueName pk row ↔
      ¬ rows.Taken pk
        (CommonCode.isValueNamed row.groupCode
          row.codeName) :=
  free_iff_not_taken (if_neg hCode) fun stored =>
    stored.valueName_eq_some_iff _ _

theorem free_groupName_iff
    (hCode : row.code = metaCode) :
    rows.Free CommonCode.groupName pk row ↔
      ¬ rows.Taken pk
        (CommonCode.isGroupNamed row.codeName) :=
  free_iff_not_taken (if_pos hCode) fun stored =>
    stored.groupName_eq_some_iff _

/- A group has no name among the values. -/
theorem free_valueName_of_group
    (hCode : row.code = metaCode) :
    rows.Free CommonCode.valueName pk row := by
  intro other _ _ value hValue
  rw [CommonCode.valueName, if_pos hCode] at hValue
  cases hValue

theorem free_groupName_of_value
    (hCode : row.code ≠ metaCode) :
    rows.Free CommonCode.groupName pk row := by
  intro other _ _ value hValue
  rw [CommonCode.groupName, if_neg hCode] at hValue
  cases hValue

end Manager

end Icmp2

------------------------------------------------------------
-- Saved Rows
------------------------------------------------------------

namespace Icmp2

namespace Manager

open Accounts Library

/- The row that `obj.save()` writes, if it does. -/
def taken?
    (rows : CommonCodes)
    (pk : Nat)
    (row : CommonCode) :
    Option (Nat × CommonCode) :=
  if row.Fits ∧ rows.Free CommonCode.pairKey pk row then
    some (pk, row)
  else
    none

def savedGroup?
    (edited : CommonCode → GroupForm → CommonCode)
    (rows : CommonCodes)
    (groupCode : String)
    (form : GroupForm) :
    Option (Nat × CommonCode) := do
  let pk ← rows.find? (CommonCode.isAt groupCode metaCode)
  let old ← rows.get? pk
  if fieldText form.groupName = "" then
    none
  else
    taken? rows pk (edited old form)

def savedValue?
    (rows : CommonCodes)
    (pk : Nat)
    (form : ValueForm)
    (mapReflect : CommonCode → Bool) :
    Option (Nat × CommonCode) := do
  let old ← rows.get? pk
  if rows.Taken pk
      (CommonCode.isValueNamed old.groupCode
        (strip (form.codeName.getD old.codeName))) then
    none
  else
    let sortOrder ←
      sortOrderOf form.sortOrder old.sortOrder
    taken? rows pk
      (editedValue old form sortOrder (mapReflect old))

/- The table with a row that was saved. -/
def afterSave
    (rows : CommonCodes)
    (saved : Option (Nat × CommonCode)) :
    CommonCodes :=
  match saved with
  | none => rows
  | some (pk, row) => rows.set pk row

variable {rows : CommonCodes}

theorem saveCode_eq
    (pk : Nat)
    (row : CommonCode)
    (answer : CodeAnswer) :
    (saveCode rows pk row answer).2 =
      afterSave rows (taken? rows pk row) := by
  unfold saveCode taken?
  split_ifs <;> rfl

theorem editGroup_eq
    (edited : CommonCode → GroupForm → CommonCode)
    (groupCode : String)
    (form : GroupForm) :
    (editGroup edited rows groupCode form).2 =
      afterSave rows
        (savedGroup? edited rows groupCode form) := by
  unfold editGroup savedGroup?
  cases rows.find?
      (CommonCode.isAt groupCode metaCode) with
  | none => rfl
  | some pk =>
      simp only [Option.bind_eq_bind, Option.bind_some]
      cases rows.get? pk with
      | none => rfl
      | some old =>
          simp only [Option.bind_some]
          by_cases hBlank : fieldText form.groupName = ""
          · rw [if_pos hBlank, if_pos hBlank]
            rfl
          · rw [if_neg hBlank, if_neg hBlank]
            exact saveCode_eq pk _ _

theorem editValue_eq
    (pk : Nat)
    (form : ValueForm)
    (mapReflect : CommonCode → Bool)
    (nameError : String) :
    (editValue rows pk form mapReflect nameError).2 =
      afterSave rows
        (savedValue? rows pk form mapReflect) := by
  unfold editValue savedValue?
  cases rows.get? pk with
  | none => rfl
  | some old =>
      simp only [Option.bind_eq_bind, Option.bind_some]
      split_ifs with hTaken
      · rfl
      · cases sortOrderOf form.sortOrder old.sortOrder with
        | none => rfl
        | some sortOrder => exact saveCode_eq pk _ _

variable [Letters]

def savedThGroup?
    (rows : CommonCodes)
    (catCode : String)
    (form : ThGroupForm) :
    Option (Nat × CommonCode) := do
  let pk ←
    rows.find? (CommonCode.isAt thCategoryGroup catCode)
  let old ← rows.get? pk
  let row := thGroupEdited old form
  if form.isAjax = true ∧
      thGroupFault? rows (some old) row.code row.codeName =
        none then
    taken? rows pk row
  else
    none

/- The stored row that an edit replaces, and by what. -/
def savedRow?
    (rows : CommonCodes) :
    CodeOp → Option (Nat × CommonCode)
  | .codeGroupEdit groupCode form =>
      savedGroup? codeGroupEdited rows groupCode form
  | .riskGroupEdit groupCode form =>
      savedGroup? riskGroupEdited rows groupCode form
  | .codeValueEdit pk form =>
      savedValue? rows pk form CommonCode.mapReflect
  | .riskEdit pk form =>
      savedValue? rows pk form
        fun _ => form.mapReflect.getD "" = "true"
  | .thresholdGroupEdit catCode form =>
      savedThGroup? rows catCode form
  | .codeGroupCreate _ | .riskGroupCreate _
  | .codeValueCreate _ | .riskCreate _
  | .codeValueDelete _ _ _ | .thresholdGroupCreate _
  | .ensureCategories => none

theorem thresholdGroupEdit_eq
    (catCode : String)
    (form : ThGroupForm) :
    (thresholdGroupEdit rows catCode form).2 =
      afterSave rows (savedThGroup? rows catCode form) := by
  unfold thresholdGroupEdit savedThGroup?
  cases rows.find?
      (CommonCode.isAt thCategoryGroup catCode) with
  | none => rfl
  | some pk =>
      simp only [Option.bind_eq_bind, Option.bind_some]
      cases rows.get? pk with
      | none => rfl
      | some old =>
          simp only [Option.bind_some]
          by_cases hAjax : form.isAjax = true
          · rw [if_pos hAjax]
            cases hFault :
                thGroupFault? rows (some old)
                  (thGroupEdited old form).code
                  (thGroupEdited old form).codeName with
            | some fault =>
                rw [if_neg (fun hBoth =>
                  Option.some_ne_none fault hBoth.2)]
                rfl
            | none =>
                rw [if_pos ⟨hAjax, rfl⟩]
                exact saveCode_eq pk _ _
          · rw [if_neg hAjax,
              if_neg (fun hBoth => hAjax hBoth.1)]
            rfl

end Manager

end Icmp2

------------------------------------------------------------
-- What a Request Writes
------------------------------------------------------------

namespace Icmp2

namespace Manager

open Accounts Library

variable {rows : CommonCodes}
variable {pk : Nat}
variable {row : CommonCode}
variable {op : CodeOp}

/- How a row is edited: as a group, a value, a category. -/
inductive EditedFrom
    (rows : CommonCodes)
    (pk : Nat)
    (old row : CommonCode) :
    Prop where
  | group
      (hOld : old.code = metaCode)
      (hCode : row.code = metaCode)
  | value
      (hCode : row.code = old.code)
      (hName :
        ¬ rows.Taken pk
          (CommonCode.isValueNamed row.groupCode
            row.codeName))
  | category
      (hCode : row.code ≠ metaCode)
      (hGroup : row.groupCode = old.groupCode)
      (hName :
        row.codeName = old.codeName ∨
          ¬ rows.Taken pk
            (CommonCode.isValueNamed row.groupCode
              row.codeName))

theorem taken?_eq_some
    {written : Nat × CommonCode}
    (hTaken : taken? rows pk row = some written) :
    written = (pk, row) ∧
      rows.Free CommonCode.pairKey pk row := by
  unfold taken? at hTaken
  split_ifs at hTaken with hBoth
  exact ⟨(Option.some.inj hTaken).symm, hBoth.2⟩

theorem savedGroup?_cases
    {edited : CommonCode → GroupForm → CommonCode}
    (hEdited : ∀ old form, (edited old form).code = old.code)
    {groupCode : String}
    {form : GroupForm}
    (hSaved :
      savedGroup? edited rows groupCode form =
        some (pk, row)) :
    ∃ old, rows.get? pk = some old ∧
      rows.Free CommonCode.pairKey pk row ∧
      EditedFrom rows pk old row := by
  unfold savedGroup? at hSaved
  rcases Option.bind_eq_some_iff.mp hSaved with
    ⟨id, hFind, hSaved⟩
  rcases Option.bind_eq_some_iff.mp hSaved with
    ⟨old, hGet, hSaved⟩
  split_ifs at hSaved with hBlank
  rcases taken?_eq_some hSaved with ⟨hEq, hFree⟩
  cases hEq
  rcases Rows.find?_eq_some hFind with
    ⟨found, hFound, hAt⟩
  cases hGet.symm.trans hFound
  have hMeta : old.code = metaCode :=
    (of_decide_eq_true hAt).2
  exact
    ⟨old, hGet, hFree,
      .group hMeta ((hEdited old form).trans hMeta)⟩

theorem savedValue?_cases
    {form : ValueForm}
    {mapReflect : CommonCode → Bool}
    {id : Nat}
    (hSaved :
      savedValue? rows id form mapReflect =
        some (pk, row)) :
    ∃ old, rows.get? pk = some old ∧
      rows.Free CommonCode.pairKey pk row ∧
      EditedFrom rows pk old row := by
  unfold savedValue? at hSaved
  rcases Option.bind_eq_some_iff.mp hSaved with
    ⟨old, hGet, hSaved⟩
  split_ifs at hSaved with hTaken
  rcases Option.bind_eq_some_iff.mp hSaved with
    ⟨sortOrder, _, hSaved⟩
  rcases taken?_eq_some hSaved with ⟨hEq, hFree⟩
  cases hEq
  exact ⟨old, hGet, hFree, .value rfl hTaken⟩

theorem isThCode_metaCode : isThCode metaCode = false := by
  decide +kernel

/- The checks of a category keep its name apart. -/
theorem thGroupFault?_eq_none
    {old : Option CommonCode}
    {code codeName : String}
    (hNone :
      thGroupFault? rows old code codeName = none) :
    code ≠ metaCode ∧
      (old.map CommonCode.codeName = some codeName ∨
        ¬ rows.Taken rows.nextId fun row =>
          row.groupCode = thCategoryGroup ∧
            row.codeName = codeName) := by
  simp only [thGroupFault?] at hNone
  split_ifs at hNone with _ _ hTh _ _ _ _ hName
  refine ⟨?_, ?_⟩
  · rintro rfl
    exact hTh isThCode_metaCode
  · exact or_iff_not_imp_left.mpr fun hNe hTaken =>
      hName ⟨hNe, hTaken⟩

/- A name that no row of the group has is that of none. -/
theorem not_taken_value_of_not_taken
    {name : String}
    (hNot :
      ¬ rows.Taken rows.nextId fun row =>
        row.groupCode = thCategoryGroup ∧
          row.codeName = name)
    (pk : Nat) :
    ¬ rows.Taken pk
      (CommonCode.isValueNamed thCategoryGroup name) := by
  rw [Rows.not_taken_iff] at hNot ⊢
  intro other stored hGet _
  have hFalse :=
    hNot other stored hGet
      (Nat.ne_of_lt (Rows.lt_nextId hGet))
  rw [decide_eq_false_iff_not] at hFalse
  apply decide_eq_false
  rintro ⟨hGroup, hName, _⟩
  exact hFalse ⟨hGroup, hName⟩

variable [Letters]

theorem groupCode_thGroupEdited
    (old : CommonCode)
    (form : ThGroupForm) :
    (thGroupEdited old form).groupCode = old.groupCode := by
  simp only [thGroupEdited]

theorem savedThGroup?_cases
    {catCode : String}
    {form : ThGroupForm}
    (hSaved :
      savedThGroup? rows catCode form = some (pk, row)) :
    ∃ old, rows.get? pk = some old ∧
      rows.Free CommonCode.pairKey pk row ∧
      EditedFrom rows pk old row := by
  unfold savedThGroup? at hSaved
  rcases Option.bind_eq_some_iff.mp hSaved with
    ⟨id, hFind, hSaved⟩
  rcases Option.bind_eq_some_iff.mp hSaved with
    ⟨old, hGet, hSaved⟩
  simp only at hSaved
  split_ifs at hSaved with hBoth
  rcases taken?_eq_some hSaved with ⟨hEq, hFree⟩
  rcases Prod.mk.inj hEq with ⟨rfl, hRow⟩
  rcases thGroupFault?_eq_none hBoth.2 with
    ⟨hCode, hName⟩
  rcases Rows.find?_eq_some hFind with
    ⟨found, hFound, hAt⟩
  cases hGet.symm.trans hFound
  have hGroup : old.groupCode = thCategoryGroup :=
    (of_decide_eq_true hAt).1
  have hSame := groupCode_thGroupEdited old form
  subst hRow
  refine ⟨old, hGet, hFree, .category hCode hSame ?_⟩
  rcases hName with hKept | hNot
  · exact Or.inl (Option.some.inj hKept).symm
  · right
    rw [hSame, hGroup]
    exact not_taken_value_of_not_taken hNot pk

/- An edited row was there, and keeps its pair of codes. -/
theorem savedRow?_cases
    (hSaved : savedRow? rows op = some (pk, row)) :
    ∃ old, rows.get? pk = some old ∧
      rows.Free CommonCode.pairKey pk row ∧
      EditedFrom rows pk old row := by
  cases op with
  | codeGroupEdit groupCode form =>
      have hCode :
          ∀ old form,
            (codeGroupEdited old form).code = old.code :=
        fun _ _ => rfl
      exact savedGroup?_cases hCode hSaved
  | riskGroupEdit groupCode form =>
      have hCode :
          ∀ old form,
            (riskGroupEdited old form).code = old.code :=
        fun _ _ => rfl
      exact savedGroup?_cases hCode hSaved
  | codeValueEdit id form => exact savedValue?_cases hSaved
  | riskEdit id form => exact savedValue?_cases hSaved
  | thresholdGroupEdit catCode form =>
      exact savedThGroup?_cases hSaved
  | codeGroupCreate form | riskGroupCreate form
  | codeValueCreate form | riskCreate form
  | codeValueDelete isAjax groupCode pks
  | thresholdGroupCreate form | ensureCategories =>
      cases hSaved

/- What a request makes of the table. -/
inductive CodeChange
    (rows : CommonCodes)
    (op : CodeOp) :
    CommonCodes → Prop where
  | same
      (hSaved : savedRow? rows op = none)
      (hOp : op ≠ .ensureCategories) :
      CodeChange rows op rows
  | created
      (row : CommonCode)
      (hSaved : savedRow? rows op = none)
      (hOp : op ≠ .ensureCategories)
      (hPair :
        rows.Free CommonCode.pairKey rows.nextId row)
      (hValue :
        rows.Free CommonCode.valueName rows.nextId row)
      (hGroup :
        rows.Free CommonCode.groupName rows.nextId row) :
      CodeChange rows op (rows.insert row)
  | saved
      (pk : Nat)
      (old row : CommonCode)
      (hSaved : savedRow? rows op = some (pk, row))
      (hOp : op ≠ .ensureCategories)
      (hGet : rows.get? pk = some old)
      (hPair : rows.Free CommonCode.pairKey pk row)
      (hFrom : EditedFrom rows pk old row) :
      CodeChange rows op (rows.set pk row)
  | deleted
      (pks : List Int)
      (hSaved : savedRow? rows op = none)
      (hOp : op ≠ .ensureCategories) :
      CodeChange rows op (pks.foldl eraseValue rows)
  | ensured
      (hOp : op = .ensureCategories) :
      CodeChange rows op (ensureCategories rows)

theorem upper_ne_metaCode
    (text : String) :
    Letters.upper text ≠ metaCode := by
  intro hMeta
  have hUpper := Letters.upper_upper text
  rw [hMeta, Letters.upper_ascii metaCode (by decide)]
    at hUpper
  revert hUpper
  decide +kernel

/- A new row is written with names that are free. -/
theorem createCode_cases
    {answer : CodeAnswer}
    (hSaved : savedRow? rows op = none)
    (hOp : op ≠ .ensureCategories)
    (hValue :
      rows.Free CommonCode.valueName rows.nextId row)
    (hGroup :
      rows.Free CommonCode.groupName rows.nextId row) :
    CodeChange rows op (createCode rows row answer).2 := by
  unfold createCode
  split_ifs with hBoth
  · exact .created row hSaved hOp hBoth.2 hValue hGroup
  · exact .same hSaved hOp

theorem createGroup_cases
    {isAjax : Bool}
    {codeError nameError : String}
    (hSaved : savedRow? rows op = none)
    (hOp : op ≠ .ensureCategories)
    (hCode : row.code = metaCode) :
    CodeChange rows op
      (createGroup rows isAjax row codeError
        nameError).2 := by
  simp only [createGroup]
  split_ifs with hAt hName
  · exact .same hSaved hOp
  · exact .same hSaved hOp
  · exact
      createCode_cases hSaved hOp
        (free_valueName_of_group hCode)
        ((free_groupName_iff hCode).mpr hName)

theorem createValue_cases
    {form : ValueForm}
    {mapReflect : Bool}
    {nameError : String}
    {otherwise : CodeAnswer}
    (hSaved : savedRow? rows op = none)
    (hOp : op ≠ .ensureCategories) :
    CodeChange rows op
      (createValue rows form mapReflect nameError
        otherwise).2 := by
  unfold createValue
  cases sortOrderOf form.sortOrder 0 with
  | none => exact .same hSaved hOp
  | some sortOrder =>
      simp only
      split_ifs with hFilled hAt hName
      · exact .same hSaved hOp
      · exact .same hSaved hOp
      · have hCode :
            (createdValue form sortOrder mapReflect).code ≠
              metaCode := by
          rw [createdValue]
          exact upper_ne_metaCode _
        exact
          createCode_cases hSaved hOp
            ((free_valueName_iff hCode).mpr hName)
            (free_groupName_of_value hCode)
      · exact .same hSaved hOp

theorem createCategory_cases
    {answer : CodeAnswer}
    (hSaved : savedRow? rows op = none)
    (hOp : op ≠ .ensureCategories)
    (hGroup : row.groupCode = thCategoryGroup)
    (hNone :
      thGroupFault? rows none row.code row.codeName =
        none) :
    CodeChange rows op (createCode rows row answer).2 := by
  rcases thGroupFault?_eq_none hNone with ⟨hCode, hName⟩
  have hFree :=
    hName.resolve_left (Option.some_ne_none _).symm
  refine createCode_cases hSaved hOp ?_ ?_
  · rw [free_valueName_iff hCode, hGroup]
    exact not_taken_value_of_not_taken hFree _
  · exact free_groupName_of_value hCode

theorem thresholdGroupCreate_cases
    {form : ThGroupForm}
    (hSaved : savedRow? rows op = none)
    (hOp : op ≠ .ensureCategories) :
    CodeChange rows op
      (thresholdGroupCreate rows form).2 := by
  unfold thresholdGroupCreate
  split_ifs with hAjax
  · simp only
    cases hFault :
        thGroupFault? rows none
          (Letters.upper (fieldText form.code))
          (fieldText form.codeName) with
    | some fault => exact .same hSaved hOp
    | none =>
        exact createCategory_cases hSaved hOp rfl hFault
  · exact .same hSaved hOp

theorem afterSave_cases
    (hOp : op ≠ .ensureCategories) :
    CodeChange rows op
      (afterSave rows (savedRow? rows op)) := by
  cases hSaved : savedRow? rows op with
  | none => exact .same hSaved hOp
  | some written =>
      rcases written with ⟨pk, row⟩
      rcases savedRow?_cases hSaved with
        ⟨old, hGet, hPair, hFrom⟩
      exact .saved pk old row hSaved hOp hGet hPair hFrom

/- The step lemma. -/
theorem codeStep_cases
    (rows : CommonCodes)
    (op : CodeOp) :
    CodeChange rows op (codeStep rows op) := by
  cases op with
  | codeGroupCreate form =>
      simp only [codeStep, codeGroupCreate]
      split_ifs with hFilled
      · exact createGroup_cases rfl CodeOp.noConfusion rfl
      · exact .same rfl CodeOp.noConfusion
  | riskGroupCreate form =>
      simp only [codeStep, riskGroupCreate]
      split_ifs with hFilled
      · exact createGroup_cases rfl CodeOp.noConfusion rfl
      · exact .same rfl CodeOp.noConfusion
  | codeValueCreate form =>
      exact createValue_cases rfl CodeOp.noConfusion
  | riskCreate form =>
      exact createValue_cases rfl CodeOp.noConfusion
  | thresholdGroupCreate form =>
      exact thresholdGroupCreate_cases rfl CodeOp.noConfusion
  | codeGroupEdit groupCode form =>
      rw [codeStep, codeGroupEdit, editGroup_eq]
      exact afterSave_cases CodeOp.noConfusion
  | riskGroupEdit groupCode form =>
      rw [codeStep, riskGroupEdit, editGroup_eq]
      exact afterSave_cases CodeOp.noConfusion
  | codeValueEdit pk form =>
      rw [codeStep, codeValueEdit, editValue_eq]
      exact afterSave_cases CodeOp.noConfusion
  | riskEdit pk form =>
      rw [codeStep, riskEdit, editValue_eq]
      exact afterSave_cases CodeOp.noConfusion
  | thresholdGroupEdit catCode form =>
      rw [codeStep, thresholdGroupEdit_eq]
      exact afterSave_cases CodeOp.noConfusion
  | codeValueDelete isAjax groupCode pks =>
      simp only [codeStep, codeValueDelete]
      cases intsOf? pks with
      | none => exact .same rfl CodeOp.noConfusion
      | some ids =>
          exact .deleted ids rfl CodeOp.noConfusion
  | ensureCategories => exact .ensured rfl

end Manager

end Icmp2

------------------------------------------------------------
-- Pairs of Codes
------------------------------------------------------------

namespace Icmp2

namespace Manager

open Accounts Library

variable {K : Type}
variable {key : CommonCode → Option K}
variable {rows : CommonCodes}
variable {op : CodeOp}

theorem unique_eraseValues
    (hUnique : rows.UniqueBy key)
    (pks : List Int) :
    (pks.foldl eraseValue rows).UniqueBy key := by
  induction pks generalizing rows with
  | nil => exact hUnique
  | cons pk pks ih =>
      apply ih
      unfold eraseValue
      split_ifs with hValue
      · exact hUnique.erase pk.toNat
      · exact hUnique

/- Whether a default category is stored. -/
def Stored
    (rows : CommonCodes)
    (default : ThCategoryCode) :
    Prop :=
  rows.find?
    (CommonCode.isAt thCategoryGroup default.code) ≠ none

/- The columns that keys read are not filled in. -/
def KeepsKey
    (key : CommonCode → Option K) :
    Prop :=
  ∀ row scope updatedBy,
    key
        { row with
          scope := scope
          updatedBy := updatedBy } =
      key row

theorem keepsKey_pairKey :
    KeepsKey CommonCode.pairKey := by
  intro row scope updatedBy
  simp only [CommonCode.pairKey]

theorem keepsKey_valueName :
    KeepsKey CommonCode.valueName := by
  intro row scope updatedBy
  simp only [CommonCode.valueName]

theorem keepsKey_groupName :
    KeepsKey CommonCode.groupName := by
  intro row scope updatedBy
  simp only [CommonCode.groupName]

/- A missing category is inserted, and no key else moves. -/
theorem unique_ensureCategory_iff
    (hKey : KeepsKey key)
    (rows : CommonCodes)
    (default : ThCategoryCode) :
    (ensureCategory rows default).UniqueBy key ↔
      rows.UniqueBy key ∧
        (Stored rows default ∨
          rows.Free key rows.nextId
            (defaultCategory default)) := by
  unfold ensureCategory Stored
  cases rows.find?
      (CommonCode.isAt thCategoryGroup default.code) with
  | none =>
      simp only [ne_eq, not_true_eq_false, false_or]
      constructor
      · intro hLater
        have hUnique := Rows.UniqueBy.of_insert hLater
        exact
          ⟨hUnique,
            (Rows.uniqueBy_insert_iff hUnique).mp hLater⟩
      · rintro ⟨hUnique, hFree⟩
        exact hUnique.insert hFree
  | some pk =>
      rw [and_iff_left (Or.inl (Option.some_ne_none pk))]
      apply Rows.uniqueBy_congr
      intro id
      rw [Rows.get?_updateEach]
      cases rows.get? id with
      | none => rfl
      | some row =>
          simp only [Option.map_some, Option.bind_some]
          split_ifs with hBlank
          · exact hKey row default.scope default.updatedBy
          · rfl

/- Both defaults are there, or have keys that are free. -/
theorem unique_ensureCategories_iff
    (hKey : KeepsKey key)
    (hUnique : rows.UniqueBy key) :
    (ensureCategories rows).UniqueBy key ↔
      Along ensureCategory
        (fun rows default =>
          Stored rows default ∨
            rows.Free key rows.nextId
              (defaultCategory default))
        rows categoryDefaults := by
  have hRename :
      (ensureCategories rows).UniqueBy key ↔
        (run ensureCategory rows
          categoryDefaults).UniqueBy key := by
    apply Rows.uniqueBy_congr
    intro id
    rw [ensureCategories, Rows.get?_mapRows]
    change _ =
      ((categoryDefaults.foldl ensureCategory
        rows).get? id).bind key
    cases (categoryDefaults.foldl ensureCategory
        rows).get? id with
    | none => rfl
    | some row =>
        simp only [Option.map_some, Option.bind_some]
        split_ifs with hGroup
        · exact
            hKey row row.scope (renameSystem row.updatedBy)
        · rfl
  have hRun :
      (run ensureCategory rows categoryDefaults).UniqueBy
          key ↔
        rows.UniqueBy key ∧ _ :=
    run_iff_along (I := fun _ : CommonCodes => True)
      (fun rows default _ =>
        unique_ensureCategory_iff hKey rows default)
      (fun _ _ _ => trivial) trivial categoryDefaults
  rw [hRename, hRun, and_iff_right hUnique]

theorem free_pairKey_of_not_stored
    {default : ThCategoryCode}
    (hStored : ¬ Stored rows default) :
    rows.Free CommonCode.pairKey rows.nextId
      (defaultCategory default) := by
  have hNone :=
    (Rows.find?_eq_none_iff rows _).mp
      (not_not.mp hStored)
  apply Rows.free_of_not_taken
    (Rows.not_taken_iff.mpr fun other stored hGet _ =>
      hNone other stored hGet)
  intro stored value hRow hKey
  have hSame := Option.some.inj (hKey.trans hRow.symm)
  exact decide_eq_true (Prod.mk.inj hSame)

variable [Letters]

theorem unique_pairKey_codeStep
    (hUnique : rows.UniqueBy CommonCode.pairKey)
    (op : CodeOp) :
    (codeStep rows op).UniqueBy CommonCode.pairKey := by
  have hChange := codeStep_cases rows op
  generalize codeStep rows op = later at hChange ⊢
  cases hChange with
  | same hSaved hOp => exact hUnique
  | created row hSaved hOp hPair hValue hGroup =>
      exact hUnique.insert hPair
  | saved pk old row hSaved hOp hGet hPair hFrom =>
      exact hUnique.set hPair
  | deleted pks hSaved hOp =>
      exact unique_eraseValues hUnique pks
  | ensured hOp =>
      rw [unique_ensureCategories_iff keepsKey_pairKey
        hUnique]
      apply Along.of_forall
      intro default _ state
      exact or_iff_not_imp_left.mpr
        free_pairKey_of_not_stored

/- A pair of codes finds at most one row, in all requests. -/
theorem unique_pairKey_run
    (hUnique : rows.UniqueBy CommonCode.pairKey)
    (ops : List CodeOp) :
    (run codeStep rows ops).UniqueBy CommonCode.pairKey :=
  run_invariant
    (I := fun rows : CommonCodes =>
      rows.UniqueBy CommonCode.pairKey)
    (fun _ op hBefore => unique_pairKey_codeStep hBefore op)
    hUnique ops

end Manager

end Icmp2

------------------------------------------------------------
-- Unique Names
------------------------------------------------------------

namespace Icmp2

namespace Manager

open Accounts Library

variable {rows : CommonCodes}
variable {pk : Nat}
variable {old row : CommonCode}
variable {op : CodeOp}

/- Only a group that an edit makes a value has to be free. -/
theorem EditedFrom.free_valueName_iff
    (hFrom : EditedFrom rows pk old row)
    (hUnique : rows.UniqueBy CommonCode.valueName)
    (hGet : rows.get? pk = some old) :
    rows.Free CommonCode.valueName pk row ↔
      (old.code = metaCode →
        row.code ≠ metaCode →
          ¬ rows.Taken pk
            (CommonCode.isValueNamed row.groupCode
              row.codeName)) := by
  constructor
  · intro hFree _ hCode
    exact (Manager.free_valueName_iff hCode).mp hFree
  · intro hKept
    cases hFrom with
    | group hOld hCode =>
        exact free_valueName_of_group hCode
    | value hCode hName =>
        by_cases hMeta : row.code = metaCode
        · exact free_valueName_of_group hMeta
        · exact (Manager.free_valueName_iff hMeta).mpr hName
    | category hCode hGroup hName =>
        by_cases hMeta : old.code = metaCode
        · exact
            (Manager.free_valueName_iff hCode).mpr
              (hKept hMeta hCode)
        · rcases hName with hSame | hNot
          · apply hUnique.free_of_key_eq hGet
            rw [CommonCode.valueName, if_neg hCode,
              CommonCode.valueName, if_neg hMeta, hGroup,
              hSame]
          · exact (Manager.free_valueName_iff hCode).mpr hNot

/- The name of a missing category is not that of a value. -/
def CategoryNameFree
    (rows : CommonCodes)
    (default : ThCategoryCode) :
    Prop :=
  Stored rows default ∨
    ¬ rows.Taken rows.nextId
      (CommonCode.isValueNamed thCategoryGroup
        default.codeName)

instance
    (rows : CommonCodes)
    (default : ThCategoryCode) :
    Decidable (CategoryNameFree rows default) := by
  unfold CategoryNameFree Stored
  infer_instance

theorem code_ne_metaCode_of_default
    {default : ThCategoryCode}
    (hDefault : default ∈ categoryDefaults) :
    (defaultCategory default).code ≠ metaCode := by
  revert default
  decide +kernel

section ValueNames

variable [Letters]

/- What an edit may do to the name of a value. -/
def EditKeepsValueNames
    (rows : CommonCodes)
    (op : CodeOp) :
    Prop :=
  ∀ saved ∈ savedRow? rows op,
    (rows.get? saved.1).map CommonCode.code =
        some metaCode →
      saved.2.code ≠ metaCode →
        ¬ rows.Taken saved.1
          (CommonCode.isValueNamed saved.2.groupCode
            saved.2.codeName)

instance
    (rows : CommonCodes)
    (op : CodeOp) :
    Decidable (EditKeepsValueNames rows op) := by
  unfold EditKeepsValueNames
  infer_instance

/-
  No group becomes a value with a name that is taken, and
  no category is added under one.
-/
def ValueNamesKept
    (rows : CommonCodes)
    (op : CodeOp) :
    Prop :=
  match op with
  | .ensureCategories =>
      Along ensureCategory CategoryNameFree rows
        categoryDefaults
  | op => EditKeepsValueNames rows op

instance
    (rows : CommonCodes)
    (op : CodeOp) :
    Decidable (ValueNamesKept rows op) := by
  unfold ValueNamesKept
  split <;> infer_instance

theorem valueNamesKept_of_ne
    (hOp : op ≠ .ensureCategories) :
    ValueNamesKept rows op = EditKeepsValueNames rows op := by
  unfold ValueNamesKept
  split
  · exact absurd rfl hOp
  · rfl

theorem editKeepsValueNames_of_none
    (hSaved : savedRow? rows op = none) :
    EditKeepsValueNames rows op := by
  intro saved hMem
  cases hSaved.symm.trans hMem

/- One request keeps the names of values apart or does not. -/
theorem unique_valueName_codeStep_iff
    (hUnique : rows.UniqueBy CommonCode.valueName)
    (op : CodeOp) :
    (codeStep rows op).UniqueBy CommonCode.valueName ↔
      ValueNamesKept rows op := by
  have hChange := codeStep_cases rows op
  generalize codeStep rows op = later at hChange ⊢
  cases hChange with
  | same hSaved hOp =>
      rw [valueNamesKept_of_ne hOp]
      exact
        iff_of_true hUnique
          (editKeepsValueNames_of_none hSaved)
  | created row hSaved hOp hPair hValue hGroup =>
      rw [valueNamesKept_of_ne hOp]
      exact
        iff_of_true (hUnique.insert hValue)
          (editKeepsValueNames_of_none hSaved)
  | deleted pks hSaved hOp =>
      rw [valueNamesKept_of_ne hOp]
      exact
        iff_of_true (unique_eraseValues hUnique pks)
          (editKeepsValueNames_of_none hSaved)
  | saved pk old row hSaved hOp hGet hPair hFrom =>
      rw [Rows.uniqueBy_set_iff hUnique hGet,
        hFrom.free_valueName_iff hUnique hGet,
        valueNamesKept_of_ne hOp, EditKeepsValueNames,
        hSaved]
      simp only [Option.mem_def, Option.some.injEq,
        forall_eq', hGet, Option.map_some]
  | ensured hOp =>
      subst hOp
      rw [unique_ensureCategories_iff keepsKey_valueName
        hUnique]
      apply along_congr_of_mem
      intro default hDefault state
      exact or_congr_right
        (Manager.free_valueName_iff
          (code_ne_metaCode_of_default hDefault))

/-
  The values of a group keep different names along a run
  exactly if no group that is edited into a value and no
  category that is added takes the name of another value.
-/
theorem value_names_unique_iff
    (hUnique : rows.UniqueBy CommonCode.valueName)
    (ops : List CodeOp) :
    Along codeStep
        (fun rows op =>
          (codeStep rows op).UniqueBy CommonCode.valueName)
        rows ops ↔
      Along codeStep ValueNamesKept rows ops :=
  along_iff_of_invariant
    (I := fun rows : CommonCodes =>
      rows.UniqueBy CommonCode.valueName)
    (fun _ op hBefore =>
      unique_valueName_codeStep_iff hBefore op)
    (fun _ _ _ hAfter => hAfter) hUnique ops

end ValueNames

/-
  The row of the group of categories is edited into a
  category; its name stays, and is that of another one.
-/
theorem value_names_unique_iff_broken :
    ¬ Along (@codeStep asciiLetters)
      (fun rows op =>
        (@codeStep asciiLetters rows op).UniqueBy
          CommonCode.valueName)
      Rows.empty
      [.codeGroupCreate
          { isAjax := true
            groupCode := some "th_category"
            groupName := some "유해가스"
            scope := []
            isActive := none
            description := none
            user := "관리자" },
        .ensureCategories,
        .thresholdGroupEdit "__meta__"
          { isAjax := true
            code := some "th_etc"
            codeName := none
            scope := none
            isActive := none
            description := none
            user := "관리자" }] := by
  rw [@value_names_unique_iff _ asciiLetters
    Rows.UniqueBy.empty]
  decide +kernel

section GroupNames

variable [Letters]

/- An edit gives no group the name of another one. -/
def GroupNamesKept
    (rows : CommonCodes)
    (op : CodeOp) :
    Prop :=
  ∀ saved ∈ savedRow? rows op,
    saved.2.code = metaCode →
      ¬ rows.Taken saved.1
        (CommonCode.isGroupNamed saved.2.codeName)

instance
    (rows : CommonCodes)
    (op : CodeOp) :
    Decidable (GroupNamesKept rows op) := by
  unfold GroupNamesKept
  infer_instance

theorem groupNamesKept_of_none
    (hSaved : savedRow? rows op = none) :
    GroupNamesKept rows op := by
  intro saved hMem
  cases hSaved.symm.trans hMem

theorem unique_groupName_codeStep_iff
    (hUnique : rows.UniqueBy CommonCode.groupName)
    (op : CodeOp) :
    (codeStep rows op).UniqueBy CommonCode.groupName ↔
      GroupNamesKept rows op := by
  have hChange := codeStep_cases rows op
  generalize codeStep rows op = later at hChange ⊢
  cases hChange with
  | same hSaved hOp =>
      exact
        iff_of_true hUnique (groupNamesKept_of_none hSaved)
  | created row hSaved hOp hPair hValue hGroup =>
      exact
        iff_of_true (hUnique.insert hGroup)
          (groupNamesKept_of_none hSaved)
  | deleted pks hSaved hOp =>
      exact
        iff_of_true (unique_eraseValues hUnique pks)
          (groupNamesKept_of_none hSaved)
  | saved pk old row hSaved hOp hGet hPair hFrom =>
      rw [Rows.uniqueBy_set_iff hUnique hGet,
        GroupNamesKept, hSaved]
      simp only [Option.mem_def, Option.some.injEq,
        forall_eq']
      by_cases hCode : row.code = metaCode
      · rw [free_groupName_iff hCode, imp_iff_right hCode]
      · exact
          iff_of_true (free_groupName_of_value hCode)
            fun hMeta => absurd hMeta hCode
  | ensured hOp =>
      subst hOp
      refine iff_of_true ?_ (groupNamesKept_of_none rfl)
      rw [unique_ensureCategories_iff keepsKey_groupName
        hUnique]
      apply Along.of_forall
      intro default hDefault state
      exact Or.inr
        (free_groupName_of_value
          (code_ne_metaCode_of_default hDefault))

/-
  Groups keep different names along a run exactly if no
  edit of one takes the name of another.
-/
theorem group_names_unique_iff
    (hUnique : rows.UniqueBy CommonCode.groupName)
    (ops : List CodeOp) :
    Along codeStep
        (fun rows op =>
          (codeStep rows op).UniqueBy CommonCode.groupName)
        rows ops ↔
      Along codeStep GroupNamesKept rows ops :=
  along_iff_of_invariant
    (I := fun rows : CommonCodes =>
      rows.UniqueBy CommonCode.groupName)
    (fun _ op hBefore =>
      unique_groupName_codeStep_iff hBefore op)
    (fun _ _ _ hAfter => hAfter) hUnique ops

end GroupNames

/- A second group is renamed to the name of the first. -/
theorem group_names_unique_iff_broken :
    ¬ Along (@codeStep asciiLetters)
      (fun rows op =>
        (@codeStep asciiLetters rows op).UniqueBy
          CommonCode.groupName)
      Rows.empty
      [.codeGroupCreate
          { isAjax := true
            groupCode := some "area"
            groupName := some "구역"
            scope := []
            isActive := none
            description := none
            user := "관리자" },
        .riskGroupCreate
          { isAjax := true
            groupCode := some "fire"
            groupName := some "화재"
            scope := []
            isActive := none
            description := none
            user := "관리자" },
        .riskGroupEdit "RISK_FIRE"
          { isAjax := true
            groupCode := none
            groupName := some "구역"
            scope := []
            isActive := none
            description := none
            user := "관리자" }] := by
  rw [@group_names_unique_iff _ asciiLetters
    Rows.UniqueBy.empty]
  decide +kernel

end Manager

end Icmp2
