import Icmp2.Facilities.BulkSave
import Icmp2.Library.Upserts
import Mathlib.Data.Prod.Lex

/-
  Saving the safety checklist that all workers answer.

  Main definitions include:
    * `Icmp2.Manager.CheckItem`
    * `Icmp2.Manager.ChecklistReader`
    * `Icmp2.Manager.safetyChecklistSave`
    * `Icmp2.Manager.postedQuestions`
    * `Icmp2.Manager.SavesExactly`
    * `Icmp2.Manager.SaveCondition`

  Main theorems include:
    * `Icmp2.Manager.saveSections_eq`
    * `Icmp2.Manager.saveChecklist_eq`
    * `Icmp2.Manager.safetyChecklistSave_exact_iff`

  The loops write an item at a time and there is no
  transaction, so a request that fails keeps what it wrote
  before.  Items that are no longer posted are deactivated
  at the end.
-/

------------------------------------------------------------
-- Items
------------------------------------------------------------

namespace Icmp2

namespace Manager

open Library
open Facilities (Json member?)

structure CheckItem where
  category : String
  categoryOrder : Nat
  categoryDescription : String
  answerType : String
  itemText : String
  itemOrder : Nat
  isActive : Bool
  deriving DecidableEq, Repr

/- `data` is the list under the key `sections`. -/
structure ChecklistSnapshot where
  savedBy : Option Nat
  data : Json

structure ChecklistStore where
  items : Rows CheckItem
  snapshots : Rows ChecklistSnapshot

/- What is raised while a checklist is saved. -/
inductive SaveFault where
  | attributeError
  | typeError
  | valueError
  | databaseError
  deriving DecidableEq, Repr

/-
  `int` of a text, `str` of a value that is none, and
  whether the column of a snapshot takes a value.
-/
structure ChecklistReader where
  int : String → Option Int
  str : Json → String
  storesJson : Json → Bool

abbrev ChecklistAction (R : Type) : Type :=
  Action SaveFault ChecklistStore R

/- A value that was computed, or what was raised instead. -/
def raised
    {R : Type} :
    Except SaveFault R →
    ChecklistAction R
  | .ok value => pure value
  | .error fault => throw fault

/- `value.get(key, fallback)`. -/
def dictGet
    (value : Json)
    (key : String)
    (fallback : Json) :
    Except SaveFault Json :=
  match value with
  | .object entries =>
      .ok ((member? entries key).getD fallback)
  | _ => .error .attributeError

/- `value.get(key, "").strip()`. -/
def strippedGet
    (value : Json)
    (key : String) :
    Except SaveFault String := do
  match ← dictGet value key (.text "") with
  | .text text => .ok (strip text)
  | _ => .error .attributeError

/- What a loop over the value goes through. -/
def iterate : Json → Except SaveFault (List Json)
  | .array items => .ok items
  | .text text =>
      .ok (text.toList.map fun c => .text (String.ofList [c]))
  | .object entries =>
      .ok (entries.map fun entry => .text entry.1)
  | _ => .error .typeError

/- `int(value)` of what is no text is cut towards zero. -/
def ChecklistReader.key
    (reader : ChecklistReader) :
    Json →
    Except SaveFault Int
  | .bool value => .ok (if value then 1 else 0)
  | .number value => .ok (value.num.tdiv value.den)
  | .text text =>
      match reader.int text with
      | some key => .ok key
      | none => .error .valueError
  | _ => .error .typeError

/- The item that an id asks for; there is none below zero. -/
def ChecklistReader.named
    (reader : ChecklistReader)
    (itemId : Json) :
    Except SaveFault (Option Nat) := do
  if itemId.truthy then
    let key ← reader.key itemId
    return if 0 ≤ key then some key.toNat else none
  else
    return none

/-
  What a text column of a width stores: blanks that do not
  fit are cut off, and a null character is refused.
-/
def fitColumn
    (width : Option Nat)
    (text : String) :
    Except SaveFault String :=
  if Char.ofNat 0 ∈ text.toList then
    .error .databaseError
  else
    match width with
    | none => .ok text
    | some width =>
        if (text.toList.drop width).all (· = ' ') then
          .ok (String.ofList (text.toList.take width))
        else
          .error .databaseError

/- What a text column stores for a posted value. -/
def ChecklistReader.column
    (reader : ChecklistReader)
    (width : Nat) :
    Json →
    Except SaveFault String
  | .null => .error .databaseError
  | .text text => fitColumn (some width) text
  | value => fitColumn (some width) (reader.str value)

/- What the questions of a section have in common. -/
structure SectionHeading where
  name : String
  desc : Json
  answerType : Json
  order : Nat

/- The columns of an item, as they are stored. -/
def itemRow
    (reader : ChecklistReader)
    (heading : SectionHeading)
    (text : String)
    (qOrder : Nat) :
    Except SaveFault CheckItem := do
  let category ← fitColumn (some 100) heading.name
  let description ← reader.column 300 heading.desc
  let answerType ← reader.column 20 heading.answerType
  let itemText ← fitColumn none text
  return {
    category := category
    categoryOrder := heading.order
    categoryDescription := description
    answerType := answerType
    itemText := itemText
    itemOrder := qOrder + 1
    isActive := true }

def storeItems
    (write : Rows CheckItem → Rows CheckItem) :
    ChecklistAction Unit :=
  modify fun store =>
    { store with items := write store.items }

end Manager

end Icmp2

------------------------------------------------------------
-- Saving
------------------------------------------------------------

namespace Icmp2

namespace Manager

open Library
open Facilities (Json member?)

/- The body of the loop over the questions. -/
def saveQuestion
    (reader : ChecklistReader)
    (heading : SectionHeading)
    (qOrder : Nat)
    (q : Json)
    (newPks : List Nat) :
    ChecklistAction (List Nat) := do
  let text ← raised (strippedGet q "text")
  if text = "" then
    return newPks
  let itemId ← raised (dictGet q "id" .null)
  let named ← raised (reader.named itemId)
  let store ← get
  match named.filter store.items.stored with
  | some pk =>
      let row ← raised (itemRow reader heading text qOrder)
      storeItems fun items => items.set pk row
      return pk :: newPks
  | none =>
      let row ← raised (itemRow reader heading text qOrder)
      storeItems fun items => items.insert row
      return store.items.nextId :: newPks

def saveQuestions
    (reader : ChecklistReader)
    (heading : SectionHeading) :
    Nat →
    List Json →
    List Nat →
    ChecklistAction (List Nat)
  | _, [], newPks => pure newPks
  | qOrder, q :: qs, newPks => do
      let newPks ←
        saveQuestion reader heading qOrder q newPks
      saveQuestions reader heading (qOrder + 1) qs newPks

/- The body of the loop over the sections. -/
def saveSection
    (reader : ChecklistReader)
    (sOrder : Nat)
    (posted : Json)
    (newPks : List Nat) :
    ChecklistAction (List Nat) := do
  let name ← raised (strippedGet posted "name")
  let desc ← raised (dictGet posted "desc" (.text ""))
  let answerType ←
    raised (dictGet posted "answer_type" (.text "체크 박스"))
  if name = "" then
    return newPks
  let questions ←
    raised (dictGet posted "questions" (.array []))
  let qs ← raised (iterate questions)
  saveQuestions reader ⟨name, desc, answerType, sOrder + 1⟩ 0
    qs newPks

def saveSections
    (reader : ChecklistReader) :
    Nat →
    List Json →
    List Nat →
    ChecklistAction (List Nat)
  | _, [], newPks => pure newPks
  | sOrder, posted :: sections, newPks => do
      let newPks ← saveSection reader sOrder posted newPks
      saveSections reader (sOrder + 1) sections newPks

def deactivated
    (item : CheckItem) :
    CheckItem :=
  { item with isActive := false }

/- The ids of the active items. -/
def activePks
    (items : Rows CheckItem) :
    List Nat :=
  (List.range items.nextId).filter fun pk =>
    (items.get? pk).any CheckItem.isActive

/- Deactivate the items with the given ids. -/
def deactivateItems
    (removed : List Nat)
    (items : Rows CheckItem) :
    Rows CheckItem :=
  items.updateEach fun pk item =>
    if pk ∈ removed then deactivated item else item

def createSnapshot
    (reader : ChecklistReader)
    (user : Option Nat)
    (sections : Json) :
    ChecklistAction Nat := do
  if reader.storesJson sections then
    let store ← get
    set { store with
      snapshots := store.snapshots.insert ⟨user, sections⟩ }
    return store.snapshots.nextId
  else
    throw .databaseError

/- The response; a saved checklist is told by its snapshot. -/
inductive SaveReply where
  | saved (snapshot : Nat)
  | badRequest (message : String)
  deriving DecidableEq, Repr

/- `body.get("sections", [])` of a body that is read. -/
def sectionsOf : Option Json → Option Json
  | some (.object entries) =>
      some ((member? entries "sections").getD (.array []))
  | _ => none

/- The view from the loop over the sections on. -/
def saveChecklist
    (reader : ChecklistReader)
    (user : Option Nat)
    (sections : Json) :
    ChecklistAction SaveReply := do
  let store ← get
  let items ← raised (iterate sections)
  let newPks ← saveSections reader 0 items []
  storeItems fun items =>
    deactivateItems
      ((activePks store.items).filter (· ∉ newPks)) items
  let snapshot ← createSnapshot reader user sections
  return .saved snapshot

/- `safety_checklist_save`; a body that is no JSON is `none`. -/
def safetyChecklistSave
    (reader : ChecklistReader)
    (user : Option Nat)
    (body : Option Json) :
    ChecklistAction SaveReply :=
  match sectionsOf body with
  | none => pure (.badRequest "잘못된 요청")
  | some sections => saveChecklist reader user sections

end Manager

end Icmp2

------------------------------------------------------------
-- Reading the Body
------------------------------------------------------------

namespace Icmp2

namespace Manager

open Library
open Facilities (Json member?)

/-
  The questions of a body that are to be stored, up to
  where something is raised.
-/
structure Posted where
  questions : List (Upsert CheckItem)
  fault : Option SaveFault

namespace Posted

def nothing : Posted where
  questions := []
  fault := none

def stopped
    (fault : SaveFault) :
    Posted where
  questions := []
  fault := some fault

/- What is posted after what was read so far. -/
def andThen
    (first second : Posted) :
    Posted :=
  match first.fault with
  | some _ => first
  | none =>
      { questions := first.questions ++ second.questions
        fault := second.fault }

/- Store the questions, and raise what was raised. -/
def carryOut
    (posted : Posted)
    (newPks : List Nat) :
    ChecklistAction (List Nat) := fun store =>
  let later :=
    { store with items := store.items.upserts posted.questions }
  match posted.fault with
  | some fault => .error fault later
  | none =>
      .ok
        ((store.items.targets posted.questions).reverse ++
          newPks)
        later

end Posted

/- A question with a text, and the item it asks for. -/
def readQuestion
    (reader : ChecklistReader)
    (heading : SectionHeading)
    (qOrder : Nat)
    (q : Json) :
    Except SaveFault (Option (Upsert CheckItem)) := do
  let text ← strippedGet q "text"
  if text = "" then
    return none
  let itemId ← dictGet q "id" .null
  let named ← reader.named itemId
  let row ← itemRow reader heading text qOrder
  return some ⟨named, row⟩

def postedQuestion
    (reader : ChecklistReader)
    (heading : SectionHeading)
    (qOrder : Nat)
    (q : Json) :
    Posted :=
  match readQuestion reader heading qOrder q with
  | .error fault => .stopped fault
  | .ok none => .nothing
  | .ok (some request) => ⟨[request], none⟩

def readQuestions
    (reader : ChecklistReader)
    (heading : SectionHeading) :
    Nat →
    List Json →
    Posted
  | _, [] => .nothing
  | qOrder, q :: qs =>
      (postedQuestion reader heading qOrder q).andThen
        (readQuestions reader heading (qOrder + 1) qs)

/- A section with a name, and its questions. -/
def readHeading
    (sOrder : Nat)
    (posted : Json) :
    Except SaveFault
      (Option (SectionHeading × List Json)) := do
  let name ← strippedGet posted "name"
  let desc ← dictGet posted "desc" (.text "")
  let answerType ←
    dictGet posted "answer_type" (.text "체크 박스")
  if name = "" then
    return none
  let questions ← dictGet posted "questions" (.array [])
  let qs ← iterate questions
  return some (⟨name, desc, answerType, sOrder + 1⟩, qs)

def readSection
    (reader : ChecklistReader)
    (sOrder : Nat)
    (posted : Json) :
    Posted :=
  match readHeading sOrder posted with
  | .error fault => .stopped fault
  | .ok none => .nothing
  | .ok (some (heading, qs)) =>
      readQuestions reader heading 0 qs

def readSections
    (reader : ChecklistReader) :
    Nat →
    List Json →
    Posted
  | _, [] => .nothing
  | sOrder, posted :: sections =>
      (readSection reader sOrder posted).andThen
        (readSections reader (sOrder + 1) sections)

/- The questions of the value under `sections`. -/
def postedQuestions
    (reader : ChecklistReader)
    (sections : Json) :
    Posted :=
  match iterate sections with
  | .error fault => .stopped fault
  | .ok items => readSections reader 0 items

end Manager

end Icmp2

------------------------------------------------------------
-- The Loops Store What Is Posted
------------------------------------------------------------

namespace Icmp2

namespace Manager

open Library
open Facilities (Json member?)

variable {reader : ChecklistReader}

theorem ok_bind
    {R T : Type}
    (value : R)
    (next : R → Except SaveFault T) :
    (Except.ok value >>= next) = next value := by
  rfl

@[simp] theorem raised_ok
    {R : Type}
    (value : R) :
    raised (.ok value) = pure value := by
  rfl

@[simp] theorem raised_error
    {R : Type}
    (fault : SaveFault) :
    (raised (.error fault) : ChecklistAction R) =
      throw fault := by
  rfl

@[simp] theorem carryOut_nothing
    (newPks : List Nat) :
    Posted.nothing.carryOut newPks = pure newPks := by
  rfl

@[simp] theorem carryOut_stopped
    (fault : SaveFault)
    (newPks : List Nat) :
    (Posted.stopped fault).carryOut newPks =
      throw fault := by
  rfl

theorem carryOut_single
    (request : Upsert CheckItem)
    (newPks : List Nat)
    (store : ChecklistStore) :
    (Posted.mk [request] none).carryOut newPks store =
      .ok (store.items.target request :: newPks)
        { store with items := store.items.upsert request } := by
  simp only [Posted.carryOut, Rows.targets_cons,
    Rows.targets_nil, Rows.upserts_cons, Rows.upserts_nil,
    List.reverse_singleton, List.singleton_append]

theorem carryOut_andThen
    (first second : Posted)
    (newPks : List Nat) :
    (first.andThen second).carryOut newPks =
      (first.carryOut newPks >>= second.carryOut) := by
  funext store
  cases hFault : first.fault with
  | some fault =>
      have hFirst :
          first.carryOut newPks store =
            .error fault
              { store with
                items :=
                  store.items.upserts first.questions } := by
        simp only [Posted.carryOut, hFault]
      rw [Action.bind_of_error hFirst, ← hFirst,
        Posted.andThen, hFault]
  | none =>
      have hFirst :
          first.carryOut newPks store =
            .ok
              ((store.items.targets
                first.questions).reverse ++ newPks)
              { store with
                items :=
                  store.items.upserts first.questions } := by
        simp only [Posted.carryOut, hFault]
      rw [Action.bind_of_ok hFirst, Posted.andThen, hFault]
      simp only [Posted.carryOut, Rows.upserts_append,
        Rows.targets_append, List.reverse_append,
        List.append_assoc]

/- A question is read, and then stored. -/
theorem saveQuestion_eq
    (heading : SectionHeading)
    (qOrder : Nat)
    (q : Json)
    (newPks : List Nat) :
    saveQuestion reader heading qOrder q newPks =
      (postedQuestion reader heading qOrder q).carryOut
        newPks := by
  unfold saveQuestion postedQuestion readQuestion
  cases strippedGet q "text" with
  | error fault => rfl
  | ok text =>
      simp only [raised_ok, pure_bind, ok_bind]
      by_cases hBlank : text = ""
      · rw [if_pos hBlank, if_pos hBlank]
        rfl
      · rw [if_neg hBlank, if_neg hBlank]
        cases dictGet q "id" .null with
        | error fault => rfl
        | ok itemId =>
            simp only [raised_ok, pure_bind, ok_bind]
            cases reader.named itemId with
            | error fault => rfl
            | ok named =>
                simp only [raised_ok, pure_bind,
                  ok_bind]
                cases itemRow reader heading text qOrder with
                | error fault =>
                    funext store
                    rw [Action.get_bind]
                    cases named.filter store.items.stored with
                    | none => rfl
                    | some pk => rfl
                | ok row =>
                    funext store
                    change
                      _ =
                        (Posted.mk [⟨named, row⟩]
                          none).carryOut newPks store
                    rw [Action.get_bind, carryOut_single,
                      Rows.target, Rows.upsert]
                    cases named.filter store.items.stored with
                    | none => rfl
                    | some pk => rfl

theorem saveQuestions_eq
    (heading : SectionHeading)
    (qs : List Json)
    (qOrder : Nat)
    (newPks : List Nat) :
    saveQuestions reader heading qOrder qs newPks =
      (readQuestions reader heading qOrder qs).carryOut
        newPks := by
  induction qs generalizing qOrder newPks with
  | nil => rfl
  | cons q qs ih =>
      rw [readQuestions, carryOut_andThen, saveQuestions,
        saveQuestion_eq]
      congr 1
      funext later
      exact ih (qOrder + 1) later

theorem saveSection_eq
    (sOrder : Nat)
    (posted : Json)
    (newPks : List Nat) :
    saveSection reader sOrder posted newPks =
      (readSection reader sOrder posted).carryOut newPks := by
  unfold saveSection readSection readHeading
  cases strippedGet posted "name" with
  | error fault => rfl
  | ok name =>
      simp only [raised_ok, pure_bind, ok_bind]
      cases dictGet posted "desc" (.text "") with
      | error fault => rfl
      | ok desc =>
          simp only [raised_ok, pure_bind, ok_bind]
          cases
            dictGet posted "answer_type"
              (.text "체크 박스") with
          | error fault => rfl
          | ok answerType =>
              simp only [raised_ok, pure_bind, ok_bind]
              by_cases hBlank : name = ""
              · rw [if_pos hBlank, if_pos hBlank]
                rfl
              · rw [if_neg hBlank, if_neg hBlank]
                cases
                  dictGet posted "questions" (.array []) with
                | error fault => rfl
                | ok questions =>
                    simp only [raised_ok, pure_bind, ok_bind]
                    cases iterate questions with
                    | error fault => rfl
                    | ok qs =>
                        exact saveQuestions_eq _ qs 0 newPks

/- The two loops store the posted questions in order. -/
theorem saveSections_eq
    (sections : List Json)
    (sOrder : Nat)
    (newPks : List Nat) :
    saveSections reader sOrder sections newPks =
      (readSections reader sOrder sections).carryOut
        newPks := by
  induction sections generalizing sOrder newPks with
  | nil => rfl
  | cons posted sections ih =>
      rw [readSections, carryOut_andThen, saveSections,
        saveSection_eq]
      congr 1
      funext later
      exact ih (sOrder + 1) later

end Manager

end Icmp2

------------------------------------------------------------
-- Posted Items
------------------------------------------------------------

namespace Icmp2

namespace Manager

open Library
open Facilities (Json member?)

/- The order of the items of the checklist. -/
def CheckItem.position
    (item : CheckItem) :
    Nat ×ₗ Nat :=
  toLex (item.categoryOrder, item.itemOrder)

theorem position_lt_iff
    (left right : CheckItem) :
    left.position < right.position ↔
      left.categoryOrder < right.categoryOrder ∨
        left.categoryOrder = right.categoryOrder ∧
          left.itemOrder < right.itemOrder :=
  Prod.Lex.toLex_lt_toLex

variable {reader : ChecklistReader}
variable {heading : SectionHeading}
variable {request : Upsert CheckItem}
variable {first second : Posted}

theorem mem_andThen
    (hMem : request ∈ (first.andThen second).questions) :
    request ∈ first.questions ∨
      request ∈ second.questions := by
  rw [Posted.andThen] at hMem
  cases hFault : first.fault with
  | some fault =>
      rw [hFault] at hMem
      exact Or.inl hMem
  | none =>
      rw [hFault] at hMem
      exact List.mem_append.mp hMem

theorem pairwise_andThen
    {before : Upsert CheckItem → Upsert CheckItem → Prop}
    (hFirst : first.questions.Pairwise before)
    (hSecond : second.questions.Pairwise before)
    (hAcross :
      ∀ left ∈ first.questions, ∀ right ∈ second.questions,
        before left right) :
    (first.andThen second).questions.Pairwise before := by
  rw [Posted.andThen]
  cases hFault : first.fault with
  | some fault => exact hFirst
  | none =>
      exact
        List.pairwise_append.mpr ⟨hFirst, hSecond, hAcross⟩

/- Two posted questions in the order of the checklist. -/
def Before
    (left right : Upsert CheckItem) :
    Prop :=
  left.row.position < right.row.position

theorem of_itemRow
    {text : String}
    {qOrder : Nat}
    {row : CheckItem}
    (hRow : itemRow reader heading text qOrder = .ok row) :
    row.isActive = true ∧
      row.categoryOrder = heading.order ∧
      row.itemOrder = qOrder + 1 := by
  unfold itemRow at hRow
  rcases of_except_bind_ok hRow with ⟨category, -, hRow⟩
  rcases of_except_bind_ok hRow with ⟨description, -, hRow⟩
  rcases of_except_bind_ok hRow with ⟨answerType, -, hRow⟩
  rcases of_except_bind_ok hRow with ⟨itemText, -, hRow⟩
  cases hRow
  exact ⟨rfl, rfl, rfl⟩

/- A posted question has the place at which it was read. -/
theorem of_mem_postedQuestion
    {qOrder : Nat}
    {q : Json}
    (hMem :
      request ∈
        (postedQuestion reader heading qOrder q).questions) :
    request.row.isActive = true ∧
      request.row.categoryOrder = heading.order ∧
      request.row.itemOrder = qOrder + 1 := by
  unfold postedQuestion at hMem
  cases hRead : readQuestion reader heading qOrder q with
  | error fault =>
      rw [hRead] at hMem
      cases hMem
  | ok read =>
      rw [hRead] at hMem
      cases read with
      | none => cases hMem
      | some posted =>
          cases List.mem_singleton.mp hMem
          unfold readQuestion at hRead
          rcases of_except_bind_ok hRead with ⟨text, -, hRead⟩
          by_cases hBlank : text = ""
          · rw [if_pos hBlank] at hRead
            cases hRead
          · rw [if_neg hBlank] at hRead
            rcases of_except_bind_ok hRead with ⟨_, -, hRead⟩
            rcases of_except_bind_ok hRead with ⟨_, -, hRead⟩
            rcases of_except_bind_ok hRead with
              ⟨row, hRow, hRead⟩
            cases hRead
            exact of_itemRow hRow

/- At most one question is read at a time. -/
theorem pairwise_postedQuestion
    (qOrder : Nat)
    (q : Json) :
    (postedQuestion reader heading qOrder
      q).questions.Pairwise Before := by
  unfold postedQuestion
  cases readQuestion reader heading qOrder q with
  | error fault => exact List.Pairwise.nil
  | ok read =>
      cases read with
      | none => exact List.Pairwise.nil
      | some posted => exact List.pairwise_singleton _ _

theorem of_mem_readQuestions
    {qs : List Json}
    {qOrder : Nat}
    (hMem :
      request ∈
        (readQuestions reader heading qOrder qs).questions) :
    request.row.isActive = true ∧
      request.row.categoryOrder = heading.order ∧
      qOrder < request.row.itemOrder := by
  induction qs generalizing qOrder with
  | nil => cases hMem
  | cons q qs ih =>
      rcases mem_andThen hMem with hFirst | hRest
      · rcases of_mem_postedQuestion hFirst with
          ⟨hActive, hSection, hPlace⟩
        exact ⟨hActive, hSection, by omega⟩
      · rcases ih hRest with ⟨hActive, hSection, hPlace⟩
        exact ⟨hActive, hSection, by omega⟩

theorem pairwise_readQuestions
    (qs : List Json)
    (qOrder : Nat) :
    (readQuestions reader heading qOrder
      qs).questions.Pairwise Before := by
  induction qs generalizing qOrder with
  | nil => exact List.Pairwise.nil
  | cons q qs ih =>
      apply
        pairwise_andThen (pairwise_postedQuestion qOrder q)
          (ih (qOrder + 1))
      intro left hLeft right hRight
      rcases of_mem_postedQuestion hLeft with
        ⟨-, hLeftSection, hLeftPlace⟩
      rcases of_mem_readQuestions hRight with
        ⟨-, hRightSection, hRightPlace⟩
      apply (position_lt_iff left.row right.row).mpr
      right
      exact ⟨hLeftSection.trans hRightSection.symm, by omega⟩

theorem of_mem_readSection
    {sOrder : Nat}
    {posted : Json}
    (hMem :
      request ∈
        (readSection reader sOrder posted).questions) :
    request.row.isActive = true ∧
      request.row.categoryOrder = sOrder + 1 := by
  unfold readSection at hMem
  cases hRead : readHeading sOrder posted with
  | error fault =>
      rw [hRead] at hMem
      cases hMem
  | ok read =>
      rw [hRead] at hMem
      cases read with
      | none => cases hMem
      | some read =>
          rcases of_mem_readQuestions hMem with
            ⟨hActive, hSection, -⟩
          refine ⟨hActive, hSection.trans ?_⟩
          unfold readHeading at hRead
          rcases of_except_bind_ok hRead with ⟨name, -, hRead⟩
          rcases of_except_bind_ok hRead with ⟨_, -, hRead⟩
          rcases of_except_bind_ok hRead with ⟨_, -, hRead⟩
          by_cases hBlank : name = ""
          · rw [if_pos hBlank] at hRead
            cases hRead
          · rw [if_neg hBlank] at hRead
            rcases of_except_bind_ok hRead with ⟨_, -, hRead⟩
            rcases of_except_bind_ok hRead with ⟨_, -, hRead⟩
            cases hRead
            rfl

theorem pairwise_readSection
    (sOrder : Nat)
    (posted : Json) :
    (readSection reader sOrder posted).questions.Pairwise
      Before := by
  unfold readSection
  cases readHeading sOrder posted with
  | error fault => exact List.Pairwise.nil
  | ok read =>
      cases read with
      | none => exact List.Pairwise.nil
      | some read => exact pairwise_readQuestions read.2 0

theorem of_mem_readSections
    {sections : List Json}
    {sOrder : Nat}
    (hMem :
      request ∈
        (readSections reader sOrder sections).questions) :
    request.row.isActive = true ∧
      sOrder < request.row.categoryOrder := by
  induction sections generalizing sOrder with
  | nil => cases hMem
  | cons posted sections ih =>
      rcases mem_andThen hMem with hFirst | hRest
      · rcases of_mem_readSection hFirst with
          ⟨hActive, hSection⟩
        exact ⟨hActive, by omega⟩
      · rcases ih hRest with ⟨hActive, hSection⟩
        exact ⟨hActive, by omega⟩

/- The posted questions come in the order of the checklist. -/
theorem pairwise_readSections
    (sections : List Json)
    (sOrder : Nat) :
    (readSections reader sOrder
      sections).questions.Pairwise Before := by
  induction sections generalizing sOrder with
  | nil => exact List.Pairwise.nil
  | cons posted sections ih =>
      apply
        pairwise_andThen (pairwise_readSection sOrder posted)
          (ih (sOrder + 1))
      intro left hLeft right hRight
      apply (position_lt_iff left.row right.row).mpr
      left
      rw [(of_mem_readSection hLeft).2]
      exact (of_mem_readSections hRight).2

theorem isActive_of_mem_postedQuestions
    {sections : Json}
    (hMem :
      request ∈
        (postedQuestions reader sections).questions) :
    request.row.isActive = true := by
  unfold postedQuestions at hMem
  cases hItems : iterate sections with
  | error fault =>
      rw [hItems] at hMem
      cases hMem
  | ok items =>
      rw [hItems] at hMem
      exact (of_mem_readSections hMem).1

theorem pairwise_postedQuestions
    (sections : Json) :
    (postedQuestions reader
      sections).questions.Pairwise Before := by
  unfold postedQuestions
  cases iterate sections with
  | error fault => exact List.Pairwise.nil
  | ok items => exact pairwise_readSections items 0

end Manager

end Icmp2

------------------------------------------------------------
-- What a Request Leaves
------------------------------------------------------------

namespace Icmp2

namespace Manager

open Library
open Facilities (Json member?)

/- The items at the end of the view. -/
def savedItems
    (items : Rows CheckItem)
    (questions : List (Upsert CheckItem)) :
    Rows CheckItem :=
  deactivateItems
    ((activePks items).filter
      (· ∉ items.targets questions))
    (items.upserts questions)

variable {reader : ChecklistReader}
variable {user : Option Nat}
variable {store : ChecklistStore}
variable {sections : Json}
variable {items : Rows CheckItem}
variable {questions : List (Upsert CheckItem)}

theorem mem_activePks_iff
    (pk : Nat) :
    pk ∈ activePks items ↔
      (items.get? pk).any CheckItem.isActive = true := by
  rw [activePks, List.mem_filter, List.mem_range]
  refine and_iff_right_of_imp ?_
  intro hActive
  by_contra hNot
  rw [items.fresh pk (Nat.le_of_not_lt hNot)] at hActive
  cases hActive

/- A snapshot is stored after the items. -/
theorem createSnapshot_apply
    (store : ChecklistStore) :
    createSnapshot reader user sections store =
      if reader.storesJson sections then
        .ok store.snapshots.nextId
          { store with
            snapshots :=
              store.snapshots.insert ⟨user, sections⟩ }
      else
        .error .databaseError store := by
  unfold createSnapshot
  by_cases hStores : reader.storesJson sections = true
  · rw [if_pos hStores, if_pos hStores]
    rfl
  · rw [if_neg hStores, if_neg hStores]
    rfl

/- How a request ends that posts the given questions. -/
def Posted.ends
    (posted : Posted)
    (reader : ChecklistReader)
    (user : Option Nat)
    (sections : Json)
    (store : ChecklistStore) :
    EStateM.Result SaveFault ChecklistStore SaveReply :=
  match posted.fault with
  | some fault =>
      .error fault
        { store with
          items := store.items.upserts posted.questions }
  | none =>
      let items := savedItems store.items posted.questions
      if reader.storesJson sections then
        .ok (.saved store.snapshots.nextId)
          ⟨items, store.snapshots.insert ⟨user, sections⟩⟩
      else
        .error .databaseError { store with items := items }

/- The view stores what is posted, then it deactivates. -/
theorem saveChecklist_eq
    (store : ChecklistStore) :
    saveChecklist reader user sections store =
      (postedQuestions reader sections).ends reader user
        sections store := by
  rw [saveChecklist, Action.get_bind]
  unfold postedQuestions
  cases iterate sections with
  | error fault => rfl
  | ok parts =>
      simp only [raised_ok, pure_bind, saveSections_eq]
      generalize readSections reader 0 parts = posted
      cases hFault : posted.fault with
      | some fault =>
          have hCarried :
              posted.carryOut [] store =
                .error fault
                  { store with
                    items :=
                      store.items.upserts
                        posted.questions } := by
            simp only [Posted.carryOut, hFault]
          rw [Action.bind_of_error hCarried, Posted.ends,
            hFault]
      | none =>
          have hCarried :
              posted.carryOut [] store =
                .ok
                  ((store.items.targets
                    posted.questions).reverse ++ [])
                  { store with
                    items :=
                      store.items.upserts
                        posted.questions } := by
            simp only [Posted.carryOut, hFault]
          rw [Action.bind_of_ok hCarried, storeItems,
            Action.modify_bind, Posted.ends, hFault]
          simp only [List.append_nil, List.mem_reverse]
          by_cases hStores : reader.storesJson sections = true
          · rw [if_pos hStores]
            apply Action.bind_of_ok
            rw [createSnapshot_apply, if_pos hStores]
            rfl
          · rw [if_neg hStores]
            apply Action.bind_of_error
            rw [createSnapshot_apply, if_neg hStores]
            rfl

theorem get?_savedItems
    (items : Rows CheckItem)
    (questions : List (Upsert CheckItem))
    (pk : Nat) :
    (savedItems items questions).get? pk =
      match lastAt (items.writes questions) pk with
      | some row => some row
      | none =>
          (items.get? pk).map fun item =>
            if item.isActive then deactivated item
            else item := by
  rw [savedItems, deactivateItems, Rows.get?_updateEach,
    Rows.get?_upserts]
  cases hLast : lastAt (items.writes questions) pk with
  | some row =>
      have hTarget : pk ∈ items.targets questions := by
        by_contra hNot
        rw [Rows.lastAt_writes_eq_none_iff.mpr hNot] at hLast
        cases hLast
      have hKept :
          pk ∉ (activePks items).filter
            (· ∉ items.targets questions) := by
        intro hMem
        exact
          of_decide_eq_true (List.mem_filter.mp hMem).2
            hTarget
      simp only [Option.map_some, if_neg hKept]
  | none =>
      have hNot := Rows.lastAt_writes_eq_none_iff.mp hLast
      cases hGet : items.get? pk with
      | none => rfl
      | some item =>
          have hRemoved :
              pk ∈ (activePks items).filter
                  (· ∉ items.targets questions) ↔
                item.isActive = true := by
            rw [List.mem_filter, mem_activePks_iff, hGet,
              decide_eq_true hNot, eq_self, and_true,
              Option.any_some]
          simp only [Option.map_some, hRemoved]

end Manager

end Icmp2

------------------------------------------------------------
-- Exact and Atomic Saving
------------------------------------------------------------

namespace Icmp2

namespace Manager

open Library
open Facilities (Json member?)

/- The items that the questions of a body stand for. -/
def postedItems
    (reader : ChecklistReader)
    (body : Option Json) :
    List CheckItem :=
  match sectionsOf body with
  | none => []
  | some sections =>
      (postedQuestions reader sections).questions.map
        Upsert.row

def SameItems
    (before after : Rows CheckItem) :
    Prop :=
  ∀ pk, after.get? pk = before.get? pk

/-
  The active items in their order are the posted ones, and
  every item that was stored still is.
-/
def HoldsExactly
    (before after : Rows CheckItem)
    (posted : List CheckItem) :
    Prop :=
  (∀ listing,
    after.Listing CheckItem.isActive CheckItem.position
        listing →
      listing = posted) ∧
    ∀ pk, before.stored pk = true → after.stored pk = true

/- A saved request is exact; any other changes no item. -/
def SavesExactly
    (reader : ChecklistReader)
    (user : Option Nat)
    (body : Option Json)
    (store : ChecklistStore) :
    Prop :=
  match safetyChecklistSave reader user body store with
  | .ok (.saved _) after =>
      HoldsExactly store.items after.items
        (postedItems reader body)
  | .ok (.badRequest _) after =>
      SameItems store.items after.items
  | .error _ after => SameItems store.items after.items

/- Every active item is named by some question. -/
def NamesActive
    (items : Rows CheckItem)
    (questions : List (Upsert CheckItem)) :
    Prop :=
  ∀ pk ∈ activePks items,
    ∃ question ∈ questions, question.named = some pk

/-
  A body is saved exactly if its questions are to go to
  different items.  A body that fails changes nothing if the
  questions before the fault repeat what is stored; and if
  it is the snapshot that fails, also all active items have
  to be posted.
-/
def SaveCondition
    (reader : ChecklistReader)
    (body : Option Json)
    (items : Rows CheckItem) :
    Prop :=
  match sectionsOf body with
  | none => True
  | some sections =>
      let posted := postedQuestions reader sections
      match posted.fault with
      | some _ => items.Repeats posted.questions
      | none =>
          if reader.storesJson sections then
            (items.targets posted.questions).Nodup
          else
            items.Repeats posted.questions ∧
              NamesActive items posted.questions

variable {reader : ChecklistReader}
variable {items : Rows CheckItem}
variable {questions : List (Upsert CheckItem)}

theorem stored_savedItems
    {pk : Nat}
    (hStored : items.stored pk = true)
    (questions : List (Upsert CheckItem)) :
    (savedItems items questions).stored pk = true := by
  rw [Rows.stored, get?_savedItems]
  cases lastAt (items.writes questions) pk with
  | some row => rfl
  | none =>
      rw [Option.isSome_map]
      exact hStored

theorem isActive_deactivate
    (item : CheckItem) :
    (if item.isActive then deactivated item
      else item).isActive = false := by
  cases hActive : item.isActive with
  | true => rfl
  | false => exact hActive

/- The active items at the end are those written to. -/
theorem filter_savedItems
    (hActive :
      ∀ question ∈ questions, question.row.isActive = true)
    (pk : Nat) :
    ((savedItems items questions).get? pk).filter
        CheckItem.isActive =
      lastAt (items.writes questions) pk := by
  rw [get?_savedItems]
  cases hLast : lastAt (items.writes questions) pk with
  | some row =>
      have hRow := (List.of_mem_zip (mem_of_lastAt hLast)).2
      rcases List.mem_map.mp hRow with
        ⟨question, hMem, rfl⟩
      exact if_pos (hActive question hMem)
  | none =>
      cases items.get? pk with
      | none => rfl
      | some item =>
          apply if_neg
          rw [isActive_deactivate item]
          exact Bool.false_ne_true

/- A saved checklist is exact if no item is used twice. -/
theorem holdsExactly_iff
    (hActive :
      ∀ question ∈ questions, question.row.isActive = true)
    (hOrdered : questions.Pairwise Before) :
    HoldsExactly items (savedItems items questions)
        (questions.map Upsert.row) ↔
      (items.targets questions).Nodup := by
  have hKept :
      ∀ pk, items.stored pk = true →
        (savedItems items questions).stored pk = true :=
    fun pk hStored => stored_savedItems hStored questions
  rw [HoldsExactly, and_iff_left hKept]
  apply
    Rows.listing_eq_iff (filter_savedItems hActive)
  · rw [Rows.length_targets, List.length_map]
  · rw [List.pairwise_map]
    exact hOrdered

/- Nothing is deactivated if all active items are targets. -/
theorem get?_savedItems_of_subset
    (hTargets :
      ∀ pk ∈ activePks items, pk ∈ items.targets questions)
    (pk : Nat) :
    (savedItems items questions).get? pk =
      (items.upserts questions).get? pk := by
  have hNone :
      (activePks items).filter
          (· ∉ items.targets questions) = [] := by
    rw [List.filter_eq_nil_iff]
    intro active hActive
    rw [decide_eq_true_iff, not_not]
    exact hTargets active hActive
  rw [savedItems, hNone, deactivateItems,
    Rows.get?_updateEach]
  simp only [List.not_mem_nil, if_false, Option.map_id']

/- When saving the questions leaves every item as it was. -/
theorem sameItems_savedItems_iff :
    SameItems items (savedItems items questions) ↔
      items.Repeats questions ∧
        NamesActive items questions := by
  constructor
  · intro hSame
    have hTargets :
        ∀ pk ∈ activePks items,
          pk ∈ items.targets questions := by
      intro pk hActive
      by_contra hNot
      have hGet := hSame pk
      rw [get?_savedItems,
        Rows.lastAt_writes_eq_none_iff.mpr hNot] at hGet
      rw [mem_activePks_iff] at hActive
      cases hItem : items.get? pk with
      | none =>
          rw [hItem] at hActive
          cases hActive
      | some item =>
          rw [hItem] at hGet hActive
          have hInactive := isActive_deactivate item
          have hKept :
              (if item.isActive then deactivated item
                else item) = item :=
            Option.some.inj hGet
          rw [hKept] at hInactive
          rw [Option.any_some, hInactive] at hActive
          cases hActive
    have hRepeats : items.Repeats questions := by
      rw [← Rows.upserts_unchanged_iff]
      intro pk
      rw [← get?_savedItems_of_subset hTargets, hSame pk]
    refine ⟨hRepeats, ?_⟩
    intro pk hActive
    exact
      (Rows.mem_targets_iff_of_names
        (Rows.names_of_repeats hRepeats) pk).mp
        (hTargets pk hActive)
  · rintro ⟨hRepeats, hNamesActive⟩ pk
    have hTargets :
        ∀ pk ∈ activePks items,
          pk ∈ items.targets questions := by
      intro pk hActive
      exact
        (Rows.mem_targets_iff_of_names
          (Rows.names_of_repeats hRepeats) pk).mpr
          (hNamesActive pk hActive)
    rw [get?_savedItems_of_subset hTargets]
    exact
      (Rows.upserts_unchanged_iff items questions).mpr
        hRepeats pk

/- When a request saves the checklist exactly or not at all. -/
theorem safetyChecklistSave_exact_iff
    (reader : ChecklistReader)
    (user : Option Nat)
    (body : Option Json)
    (store : ChecklistStore) :
    SavesExactly reader user body store ↔
      SaveCondition reader body store.items := by
  unfold SavesExactly SaveCondition safetyChecklistSave
    postedItems
  cases sectionsOf body with
  | none => exact iff_of_true (fun _ => rfl) trivial
  | some sections =>
      simp only [saveChecklist_eq, Posted.ends]
      cases (postedQuestions reader sections).fault with
      | some fault =>
          exact Rows.upserts_unchanged_iff store.items _
      | none =>
          by_cases hStores : reader.storesJson sections = true
          · simp only [if_pos hStores]
            apply holdsExactly_iff
            · exact fun question hMem =>
                isActive_of_mem_postedQuestions hMem
            · exact pairwise_postedQuestions sections
          · simp only [if_neg hStores]
            exact sameItems_savedItems_iff

/- One item is stored, under the id 1. -/
def oneItem : CheckItem where
  category := "밀폐공간"
  categoryOrder := 1
  categoryDescription := ""
  answerType := "체크 박스"
  itemText := "가스 농도 확인"
  itemOrder := 1
  isActive := true

def oneItemStore : ChecklistStore where
  items :=
    Rows.insert ⟨fun _ => none, 1, fun _ _ => rfl⟩ oneItem
  snapshots := .empty

def plainReader : ChecklistReader where
  int := fun _ => none
  str := fun _ => ""
  storesJson := fun _ => true

/- A body with one section, and what else is posted. -/
def oneSection
    (questions : List Json)
    (rest : List Json) :
    Option Json :=
  some
    (.object
      [("sections",
        .array
          (.object
            [("name", .text "밀폐공간"),
              ("questions", .array questions)] :: rest))])

def askedFor
    (text : String) :
    Json :=
  .object [("id", .number 1), ("text", .text text)]

/-
  Two questions with one id are saved as one item, and a
  section that is no dict stops a body half-way.
-/
theorem not_savesExactly :
    ¬ SavesExactly plainReader none
        (oneSection
          [askedFor "가스 농도 확인", askedFor "환기 확인"] [])
        oneItemStore ∧
      ¬ SavesExactly plainReader none
        (oneSection [askedFor "환기 확인"] [.null])
        oneItemStore := by
  constructor
  · rintro ⟨hListed, -⟩
    have hOne :=
      hListed
        [{ oneItem with
          itemText := "환기 확인"
          itemOrder := 2 }]
        ⟨by decide +kernel, List.pairwise_singleton _ _⟩
    exact
      absurd (congrArg List.length hOne) (by decide +kernel)
  · intro hSame
    exact absurd (hSame 1) (by decide +kernel)

end Manager

end Icmp2
