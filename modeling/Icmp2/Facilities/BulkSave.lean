import Icmp2.Facilities.MapViews
import Icmp2.Library.Batch

/-
  The bulk save of the map editor, from its payload on.

  Main definitions include:
    * `Icmp2.Facilities.Json`
    * `Icmp2.Facilities.categoryItems`
    * `Icmp2.Facilities.BulkReader`
    * `Icmp2.Facilities.bulkSavePayload`
    * `Icmp2.Facilities.BulkPayload`

  Main theorems include:
    * `Icmp2.Facilities.categoryItems_of_form`
    * `Icmp2.Facilities.categoryItems_of_empty_update`
    * `Icmp2.Facilities.bulkSavePayload_eq`

  A payload lists objects by category and key, in one of
  two forms.  A good payload is saved as a batch.
-/

------------------------------------------------------------
-- Payloads
------------------------------------------------------------

namespace Icmp2

namespace Facilities

open Library

/- What the body of a request is parsed to. -/
inductive Json where
  | null
  | bool (value : Bool)
  | number (value : ℚ)
  | text (value : String)
  | array (items : List Json)
  | object (entries : List (String × Json))

/- The truth value that `or` looks at. -/
def Json.truthy : Json → Bool
  | null => false
  | bool value => value
  | number value => value ≠ 0
  | text value => value ≠ ""
  | array items => !items.isEmpty
  | object entries => !entries.isEmpty

/- `dict.get`. -/
def member?
    (entries : List (String × Json))
    (key : String) :
    Option Json :=
  (entries.find? fun entry => entry.1 = key).map Prod.snd

/- `value or fallback`; a missing value is not true. -/
def orElse
    (value : Option Json)
    (fallback : Json) :
    Json :=
  match value with
  | none => fallback
  | some value => if value.truthy then value else fallback

/- How a request ends without a response. -/
inductive BulkFault where
  | valueError
  | attributeError
  deriving DecidableEq, Repr

/-
  The items of a category: those under `update`, if there
  are any, and else all of the category.  What is no dict
  has no method `get`, and items that are no dict are
  passed over.
-/
def categoryItems
    (payload : List (String × Json))
    (category : String) :
    Except BulkFault (List (String × Json)) :=
  let value := member? payload category
  match orElse value (.object []) with
  | .object entries =>
      match
        orElse (member? entries "update")
          (orElse value (.object [])) with
      | .object items => .ok items
      | _ => .ok []
  | _ => .error .attributeError

/- The names of `_BULK_CONFIG`. -/
def MapKind.category : MapKind → String
  | equipment => "equipment"
  | locationNode => "locationNode"
  | sensor => "sensor"
  | geofence => "geofence"

/- The order of `_BULK_CONFIG`. -/
def bulkConfig : List MapKind :=
  [.equipment, .locationNode, .sensor, .geofence]

end Facilities

end Icmp2

------------------------------------------------------------
-- Saving
------------------------------------------------------------

namespace Icmp2

namespace Facilities

open Library

/-
  How texts and data are read: `int` of a key, and the
  typed fields of the four serializers, if there are such.
-/
structure BulkReader where
  int : String → Option Int
  equipment : Json → Option EquipmentData
  locationNode : Json → Option LocationNodeData
  sensor : Json → Option SensorData
  geofence : Json → Option GeofenceData

def BulkReader.data
    (reader : BulkReader)
    (data : Json) :
    MapKind → MapData
  | .equipment => .equipment (reader.equipment data)
  | .locationNode => .locationNode (reader.locationNode data)
  | .sensor => .sensor (reader.sensor data)
  | .geofence => .geofence (reader.geofence data)

/- A key of a category with its data. -/
structure ListedItem where
  kind : MapKind
  pk : String
  data : Json

/- An error of the response. -/
structure BulkError where
  kind : MapKind
  pk : String
  error : MapError
  deriving DecidableEq, Repr

/- The response; `failed` is the number of its errors. -/
structure BulkResponse where
  success : Nat
  errors : List BulkError
  deriving DecidableEq, Repr

abbrev BulkAction (R : Type) : Type :=
  Action BulkFault MapStore R

/- The object of a number; there is none below zero. -/
def saveObject
    (actor : Option Nat)
    (id : Int)
    (data : MapData) :
    MapAction Unit :=
  if 0 ≤ id then
    bulkItem actor id.toNat data
  else
    throw .notFound

/- The body of the loop for a key that is a number. -/
def saveListed
    (reader : BulkReader)
    (actor : Option Nat)
    (item : ListedItem) :
    MapAction Unit :=
  match reader.int item.pk with
  | none => throw .valueError
  | some id =>
      saveObject actor id (reader.data item.data item.kind)

/- The loop over the items of a category. -/
def saveItems
    (reader : BulkReader)
    (actor : Option Nat)
    (kind : MapKind) :
    List (String × Json) →
    BulkResponse →
    BulkAction BulkResponse
  | [], reply => pure reply
  | (pk, data) :: items, reply => fun store =>
      match reader.int pk with
      | none => .error .valueError store
      | some _ =>
          match saveListed reader actor ⟨kind, pk, data⟩
            store with
          | .ok _ after =>
              saveItems reader actor kind items
                { reply with success := reply.success + 1 }
                after
          | .error error after =>
              saveItems reader actor kind items
                { reply with
                  errors :=
                    reply.errors ++ [⟨kind, pk, error⟩] }
                after

/- The loop over the categories. -/
def saveCategories
    (reader : BulkReader)
    (actor : Option Nat)
    (payload : List (String × Json)) :
    List MapKind →
    BulkResponse →
    BulkAction BulkResponse
  | [], reply => pure reply
  | kind :: kinds, reply => fun store =>
      match categoryItems payload kind.category with
      | .error fault => .error fault store
      | .ok items =>
          match saveItems reader actor kind items reply
            store with
          | .error fault after => .error fault after
          | .ok reply after =>
              saveCategories reader actor payload kinds
                reply after

/- `bulk_map_editor_save` for a payload that is a dict. -/
def bulkSavePayload
    (reader : BulkReader)
    (actor : Option Nat)
    (payload : List (String × Json)) :
    BulkAction BulkResponse :=
  saveCategories reader actor payload bulkConfig ⟨0, []⟩

end Facilities

end Icmp2

------------------------------------------------------------
-- Forms of a Payload
------------------------------------------------------------

namespace Icmp2

namespace Facilities

open Library

/- The two accepted forms of a category. -/
inductive CategoryForm where
  | flat (items : List (String × Json))
  | update (items : List (String × Json))

def CategoryForm.json : CategoryForm → Json
  | flat items => .object items
  | update items => .object [("update", .object items)]

def CategoryForm.items :
    CategoryForm → List (String × Json)
  | flat items => items
  | update items => items

/- A category whose `update` has no items. -/
def CategoryForm.IsEmptyUpdate : CategoryForm → Prop
  | flat _ => False
  | update items => items = []

/- A payload by its categories; some may be missing. -/
abbrev BulkPayload : Type :=
  MapKind → Option CategoryForm

/- The entry of a category in the body. -/
def BulkPayload.entry
    (payload : BulkPayload)
    (kind : MapKind) :
    List (String × Json) :=
  match payload kind with
  | none => []
  | some form => [(kind.category, form.json)]

/- The body of the request. -/
def BulkPayload.json
    (payload : BulkPayload) :
    List (String × Json) :=
  bulkConfig.flatMap payload.entry

/- The listed items of one category. -/
def BulkPayload.listedOf
    (payload : BulkPayload)
    (kind : MapKind) :
    List ListedItem :=
  match payload kind with
  | none => []
  | some form =>
      form.items.map fun item => ⟨kind, item.1, item.2⟩

/- All listed items, in the order in which they are saved. -/
def BulkPayload.listed
    (payload : BulkPayload) :
    List ListedItem :=
  bulkConfig.flatMap payload.listedOf

/- A payload with one item. -/
def onlyItem
    (item : ListedItem) :
    BulkPayload := fun kind =>
  if kind = item.kind then
    some (.flat [(item.pk, item.data)])
  else
    none

end Facilities

end Icmp2

------------------------------------------------------------
-- Reading a Payload
------------------------------------------------------------

namespace Icmp2

namespace Facilities

open Library

theorem category_injective :
    Function.Injective MapKind.category := by
  intro one two hSame
  cases one <;> cases two <;>
    first
      | rfl
      | exact absurd hSame (by decide)

theorem member?_append
    (first second : List (String × Json))
    (key : String) :
    member? (first ++ second) key =
      (member? first key).or (member? second key) := by
  rw [member?, member?, member?, List.find?_append]
  cases first.find? fun entry => entry.1 = key <;> rfl

theorem member?_entry
    (payload : BulkPayload)
    (kind : MapKind) :
    member? (payload.entry kind) kind.category =
      (payload kind).map CategoryForm.json := by
  unfold BulkPayload.entry
  cases payload kind with
  | none => rfl
  | some form => simp [member?]

theorem member?_entry_of_ne
    (payload : BulkPayload)
    {kind other : MapKind}
    (hNe : kind ≠ other) :
    member? (payload.entry kind) other.category = none := by
  unfold BulkPayload.entry
  have hName : kind.category ≠ other.category :=
    fun hSame => hNe (category_injective hSame)
  cases payload kind with
  | none => rfl
  | some form => simp [member?, hName]

/- The categories of a body have different names. -/
theorem member?_flatMap
    (payload : BulkPayload)
    (kind : MapKind)
    (kinds : List MapKind) :
    member? (kinds.flatMap payload.entry) kind.category =
      if kind ∈ kinds then
        (payload kind).map CategoryForm.json
      else
        none := by
  induction kinds with
  | nil => rfl
  | cons first kinds ih =>
      rw [List.flatMap_cons, member?_append, ih]
      by_cases hFirst : first = kind
      · subst hFirst
        rw [member?_entry]
        cases payload first <;> simp
      · rw [member?_entry_of_ne payload hFirst]
        simp [Ne.symm hFirst]

theorem member?_json
    (payload : BulkPayload)
    (kind : MapKind) :
    member? payload.json kind.category =
      (payload kind).map CategoryForm.json := by
  rw [BulkPayload.json, member?_flatMap, if_pos]
  cases kind <;> decide

/- No key of a flat category is taken for the other form. -/
def CategoryForm.Plain : CategoryForm → Prop
  | flat items => ∀ item ∈ items, item.1 ≠ "update"
  | update _ => True

/- Both forms are told apart, but for an empty update. -/
theorem categoryItems_of_form
    {payload : BulkPayload}
    {kind : MapKind}
    {form : CategoryForm}
    (hForm : payload kind = some form)
    (hPlain : form.Plain)
    (hSome : ¬form.IsEmptyUpdate) :
    categoryItems payload.json kind.category =
      .ok form.items := by
  have hEntry := member?_json payload kind
  rw [hForm] at hEntry
  rw [categoryItems, hEntry]
  cases form with
  | flat items =>
      have hNone : member? items "update" = none := by
        rw [member?, Option.map_eq_none_iff,
          List.find?_eq_none]
        intro item hItem
        simpa using hPlain item hItem
      cases items with
      | nil => rfl
      | cons item items =>
          simp only [Option.map_some, CategoryForm.json,
            orElse, Json.truthy, List.isEmpty_cons,
            Bool.not_false, if_true, hNone]
          rfl
  | update items =>
      cases items with
      | nil => exact absurd rfl hSome
      | cons item items => rfl

theorem categoryItems_of_none
    {payload : BulkPayload}
    {kind : MapKind}
    (hNone : payload kind = none) :
    categoryItems payload.json kind.category = .ok [] := by
  rw [categoryItems, member?_json, hNone]
  rfl

/- An empty update is read as an item with the key "update". -/
theorem categoryItems_of_empty_update
    {payload : BulkPayload}
    {kind : MapKind}
    (hEmpty : payload kind = some (.update [])) :
    categoryItems payload.json kind.category =
      .ok [("update", .object [])] := by
  rw [categoryItems, member?_json, hEmpty]
  rfl

end Facilities

end Icmp2

------------------------------------------------------------
-- The Loops
------------------------------------------------------------

namespace Icmp2

namespace Facilities

open Library

/- What the loop notes about an item. -/
def BulkResponse.note
    (reply : BulkResponse)
    (item : ListedItem) :
    Option MapError → BulkResponse
  | none => { reply with success := reply.success + 1 }
  | some error =>
      { reply with
        errors :=
          reply.errors ++ [⟨item.kind, item.pk, error⟩] }

def BulkResponse.noteAll
    (reply : BulkResponse)
    (items : List ListedItem)
    (ends : List (Option MapError)) :
    BulkResponse :=
  (items.zip ends).foldl
    (fun reply entry => reply.note entry.1 entry.2) reply

variable {reader : BulkReader}
variable {actor : Option Nat}

/- Every key of the items is a number. -/
def Numeric
    (reader : BulkReader)
    (items : List ListedItem) :
    Prop :=
  ∀ item ∈ items, (reader.int item.pk).isSome = true

theorem saveItems_eq
    (kind : MapKind)
    (items : List (String × Json))
    (hNumeric :
      Numeric reader
        (items.map fun item => ⟨kind, item.1, item.2⟩))
    (reply : BulkResponse)
    (store : MapStore) :
    saveItems reader actor kind items reply store =
      .ok
        (reply.noteAll
          (items.map fun item => ⟨kind, item.1, item.2⟩)
          (outcomes (saveListed reader actor) store
            (items.map fun item => ⟨kind, item.1, item.2⟩)))
        (run (batchStep (saveListed reader actor)) store
          (items.map
            fun item => ⟨kind, item.1, item.2⟩)) := by
  induction items generalizing reply store with
  | nil => rfl
  | cons item items ih =>
      rcases item with ⟨pk, data⟩
      simp only [Numeric, List.map_cons,
        List.forall_mem_cons] at hNumeric
      rcases hNumeric with ⟨hKey, hRest⟩
      rcases Option.isSome_iff_exists.mp hKey with
        ⟨id, hId⟩
      rw [List.map_cons, outcomes, run_cons, batchStep]
      unfold saveItems
      simp only [hId]
      cases hItem :
          saveListed reader actor ⟨kind, pk, data⟩ store with
      | ok _ after =>
          simp only [Action.stateAfter_of_ok hItem]
          rw [ih hRest]
          simp only [BulkResponse.noteAll, List.zip_cons_cons,
            List.foldl_cons, Action.error?, hItem,
            BulkResponse.note]
      | error error after =>
          simp only [Action.stateAfter_of_error hItem]
          rw [ih hRest]
          simp only [BulkResponse.noteAll, List.zip_cons_cons,
            List.foldl_cons, Action.error?, hItem,
            BulkResponse.note]

/- What the loop takes up of a category. -/
theorem categoryItems_of_payload
    {payload : BulkPayload}
    (hInt : reader.int "update" = none)
    (hNumeric : Numeric reader payload.listed)
    (hSome :
      ∀ kind form,
        payload kind = some form → ¬form.IsEmptyUpdate)
    (kind : MapKind) :
    ∃ items,
      categoryItems payload.json kind.category = .ok items ∧
        payload.listedOf kind =
          items.map fun item => ⟨kind, item.1, item.2⟩ := by
  cases hForm : payload kind with
  | none =>
      refine ⟨[], categoryItems_of_none hForm, ?_⟩
      simp [BulkPayload.listedOf, hForm]
  | some form =>
      refine ⟨form.items, ?_, ?_⟩
      · refine categoryItems_of_form hForm ?_
          (hSome kind form hForm)
        cases form with
        | update items => trivial
        | flat items =>
            intro item hItem hUpdate
            have hListed :
                (⟨kind, item.1, item.2⟩ : ListedItem) ∈
                  payload.listed := by
              refine List.mem_flatMap.mpr ⟨kind, ?_, ?_⟩
              · cases kind <;> decide
              · rw [BulkPayload.listedOf, hForm]
                exact List.mem_map.mpr ⟨item, hItem, rfl⟩
            have hKey := hNumeric _ hListed
            rw [hUpdate, hInt] at hKey
            cases hKey
      · rw [BulkPayload.listedOf, hForm]

theorem noteAll_append
    (reply : BulkResponse)
    (first second : List ListedItem)
    {firstEnds : List (Option MapError)}
    (secondEnds : List (Option MapError))
    (hLength : first.length = firstEnds.length) :
    reply.noteAll (first ++ second)
        (firstEnds ++ secondEnds) =
      (reply.noteAll first firstEnds).noteAll second
        secondEnds := by
  rw [BulkResponse.noteAll, List.zip_append hLength,
    List.foldl_append]
  rfl

/- Each noted item is a success or an error. -/
theorem count_noteAll
    (reply : BulkResponse)
    (items : List ListedItem)
    (ends : List (Option MapError))
    (hLength : items.length = ends.length) :
    (reply.noteAll items ends).success +
        (reply.noteAll items ends).errors.length =
      reply.success + reply.errors.length +
        items.length := by
  induction items generalizing reply ends with
  | nil => rfl
  | cons item items ih =>
      cases ends with
      | nil => simp at hLength
      | cons finish ends =>
          have hRest := ih (reply.note item finish) ends
            (by simpa using hLength)
          have hNote :
              (reply.note item finish).success +
                  (reply.note item finish).errors.length =
                reply.success + reply.errors.length + 1 := by
            cases finish with
            | none =>
                simp only [BulkResponse.note]
                omega
            | some error =>
                simp only [BulkResponse.note,
                  List.length_append, List.length_cons,
                  List.length_nil]
                omega
          show
            ((reply.note item finish).noteAll items
                  ends).success +
                ((reply.note item finish).noteAll items
                  ends).errors.length =
              reply.success + reply.errors.length +
                (items.length + 1)
          omega

theorem saveCategories_eq
    {payload : BulkPayload}
    (hInt : reader.int "update" = none)
    (hNumeric : Numeric reader payload.listed)
    (hSome :
      ∀ kind form,
        payload kind = some form → ¬form.IsEmptyUpdate)
    (kinds : List MapKind)
    (hKinds : ∀ kind ∈ kinds, kind ∈ bulkConfig)
    (reply : BulkResponse)
    (store : MapStore) :
    saveCategories reader actor payload.json kinds reply
        store =
      .ok
        (reply.noteAll (kinds.flatMap payload.listedOf)
          (outcomes (saveListed reader actor) store
            (kinds.flatMap payload.listedOf)))
        (run (batchStep (saveListed reader actor)) store
          (kinds.flatMap payload.listedOf)) := by
  induction kinds generalizing reply store with
  | nil => rfl
  | cons kind kinds ih =>
      rcases categoryItems_of_payload hInt hNumeric hSome
        kind with ⟨items, hItems, hListed⟩
      have hHere :
          Numeric reader
            (items.map
              fun item => ⟨kind, item.1, item.2⟩) := by
        rw [← hListed]
        intro item hItem
        exact hNumeric item
          (List.mem_flatMap.mpr
            ⟨kind, hKinds kind List.mem_cons_self, hItem⟩)
      rw [List.flatMap_cons, outcomes_append, run_append,
        noteAll_append _ _ _ _ (length_outcomes _ _ _).symm,
        hListed]
      unfold saveCategories
      simp only [hItems, saveItems_eq kind items hHere]
      exact ih
        (fun other hOther =>
          hKinds other (List.mem_cons_of_mem _ hOther)) _ _

/- A good payload is saved as the batch of its items. -/
theorem bulkSavePayload_eq
    {payload : BulkPayload}
    (hInt : reader.int "update" = none)
    (hNumeric : Numeric reader payload.listed)
    (hSome :
      ∀ kind form,
        payload kind = some form → ¬form.IsEmptyUpdate)
    (store : MapStore) :
    bulkSavePayload reader actor payload.json store =
      .ok
        (BulkResponse.noteAll ⟨0, []⟩ payload.listed
          (outcomes (saveListed reader actor) store
            payload.listed))
        (run (batchStep (saveListed reader actor)) store
          payload.listed) :=
  saveCategories_eq hInt hNumeric hSome bulkConfig
    (fun _ hKind => hKind) ⟨0, []⟩ store

end Facilities

end Icmp2
