import Icmp2.Facilities.MapApi
import Icmp2.Facilities.NodeEffects

/-
  The views of the map API, and what every request keeps.

  Main definitions include:
    * `Icmp2.Facilities.MapModel.accepted?`
    * `Icmp2.Facilities.MapModel.Keeps`
    * `Icmp2.Facilities.itemStep`
    * `Icmp2.Facilities.MapStore.initial`

  Main theorems include:
    * `Icmp2.Facilities.updateView_of_accepted`
    * `Icmp2.Facilities.tableModel_keeps`
    * `Icmp2.Facilities.stateAfter_bulkMapEditorSave`
    * `Icmp2.Facilities.handleRequest_keeps`
    * `Icmp2.Facilities.intact_mapApiStep`
-/

------------------------------------------------------------
-- Views
------------------------------------------------------------

namespace Icmp2

namespace Facilities

open Library

variable {Row Data : Type}

/- The object of an update and its data, if both are good. -/
def MapModel.accepted?
    (model : MapModel Row Data)
    (store : MapStore)
    (inQuery : Row → Bool)
    (id : Nat)
    (isPartial : Bool)
    (data : Option Data) :
    Option (Row × Data) :=
  match ((model.rows store).get? id).filter inQuery with
  | none => none
  | some row =>
      match
        model.serializer.isValid (model.rows store) id
          isPartial data with
      | .error _ => none
      | .ok attrs => some (row, attrs)

section Views

variable {model : MapModel Row Data}
variable {store : MapStore}
variable {actor : Option Nat}
variable {inQuery : Row → Bool}
variable {id : Nat}
variable {isPartial : Bool}
variable {data : Option Data}
variable {row : Row}
variable {attrs : Data}

theorem getObject_of_none
    (hNone :
      ((model.rows store).get? id).filter inQuery = none) :
    model.getObject inQuery id store =
      .error .notFound store := by
  simp only [MapModel.getObject, hNone]

theorem getObject_of_some
    (hSome :
      ((model.rows store).get? id).filter inQuery =
        some row) :
    model.getObject inQuery id store = .ok row store := by
  simp only [MapModel.getObject, hSome]

theorem validated_of_error
    {errors : List FieldError}
    (hInvalid :
      model.serializer.isValid (model.rows store) id
          isPartial data =
        .error errors) :
    model.validated id isPartial data store =
      .error (.invalid errors) store := by
  simp only [MapModel.validated, hInvalid]

theorem validated_of_ok
    (hValid :
      model.serializer.isValid (model.rows store) id
          isPartial data =
        .ok attrs) :
    model.validated id isPartial data store =
      .ok attrs store := by
  simp only [MapModel.validated, hValid]

theorem accepted?_eq_some
    (hAccepted :
      model.accepted? store inQuery id isPartial data =
        some (row, attrs)) :
    ((model.rows store).get? id).filter inQuery =
        some row ∧
      model.serializer.isValid (model.rows store) id
          isPartial data =
        .ok attrs := by
  unfold MapModel.accepted? at hAccepted
  cases hFind :
      ((model.rows store).get? id).filter inQuery with
  | none =>
      simp only [hFind] at hAccepted
      cases hAccepted
  | some found =>
      cases hValid :
          model.serializer.isValid (model.rows store) id
            isPartial data with
      | error errors =>
          simp only [hFind, hValid] at hAccepted
          cases hAccepted
      | ok given =>
          simp only [hFind, hValid] at hAccepted
          cases hAccepted
          exact ⟨rfl, rfl⟩

/- A request for no object, or with bad data, does nothing. -/
theorem updateView_of_rejected
    (hNone :
      model.accepted? store inQuery id isPartial data =
        none) :
    ∃ error,
      model.updateView actor inQuery id isPartial data
          store =
        .error error store := by
  unfold MapModel.accepted? at hNone
  cases hFind :
      ((model.rows store).get? id).filter inQuery with
  | none =>
      exact
        ⟨_, Action.bind_of_error (getObject_of_none hFind)⟩
  | some found =>
      cases hValid :
          model.serializer.isValid (model.rows store) id
            isPartial data with
      | error errors =>
          refine ⟨.invalid errors, ?_⟩
          rw [MapModel.updateView,
            Action.bind_of_ok (getObject_of_some hFind)]
          exact
            Action.bind_of_error (validated_of_error hValid)
      | ok given =>
          simp only [hFind, hValid] at hNone
          cases hNone

theorem updateView_of_accepted
    (hAccepted :
      model.accepted? store inQuery id isPartial data =
        some (row, attrs)) :
    model.updateView actor inQuery id isPartial data store =
      model.performUpdate actor id row attrs store := by
  rcases accepted?_eq_some hAccepted with
    ⟨hFind, hValid⟩
  rw [MapModel.updateView,
    Action.bind_of_ok (getObject_of_some hFind),
    Action.bind_of_ok (validated_of_ok hValid)]

section Creations

variable {perform : Data → MapAction Unit}

theorem createView_of_invalid
    {errors : List FieldError}
    (hInvalid :
      model.serializer.isValid (model.rows store)
          (model.rows store).nextId false data =
        .error errors) :
    model.createView perform data store =
      .error (.invalid errors) store := by
  rw [MapModel.createView, Action.get_bind]
  exact Action.bind_of_error (validated_of_error hInvalid)

theorem createView_of_valid
    (hValid :
      model.serializer.isValid (model.rows store)
          (model.rows store).nextId false data =
        .ok attrs) :
    model.createView perform data store =
      perform attrs store := by
  rw [MapModel.createView, Action.get_bind]
  exact Action.bind_of_ok (validated_of_ok hValid)

end Creations

variable {perform : Nat → Row → MapAction Unit}

theorem destroyView_of_none
    (hNone :
      ((model.rows store).get? id).filter inQuery = none) :
    model.destroyView perform inQuery id store =
      .error .notFound store :=
  Action.bind_of_error (getObject_of_none hNone)

theorem destroyView_of_some
    (hSome :
      ((model.rows store).get? id).filter inQuery =
        some row) :
    model.destroyView perform inQuery id store =
      perform id row store :=
  Action.bind_of_ok (getObject_of_some hSome)

end Views

/- What `log_change` leaves. -/
theorem stateAfter_logChange
    (actor : Option Nat)
    (target : MapKey)
    (before after : Option Captured)
    (action : ChangeAction)
    (store : MapStore) :
    ∃ log,
      (logChange actor target before after
          action).stateAfter store =
        { store with changeLog := log } := by
  unfold Action.stateAfter logChange
  by_cases hJson :
      before.all Captured.isJson ∧ after.all Captured.isJson
  · rw [if_pos hJson]
    exact ⟨_, rfl⟩
  · rw [if_neg hJson]
    exact ⟨store.changeLog, rfl⟩

end Facilities

end Icmp2

------------------------------------------------------------
-- Invariants
------------------------------------------------------------

namespace Icmp2

namespace Facilities

open Library

variable {Row Data : Type}

/- The writes of a model keep what holds of the tables. -/
structure MapModel.Keeps
    (I : MapStore → Prop)
    (model : MapModel Row Data) :
    Prop where
  save :
    ∀ store id stored attrs,
      I store →
      (model.rows store).get? id = some stored →
      model.serializer.validate (some stored) attrs = [] →
        I
          ((model.save id
            (model.serializer.update stored
              attrs)).stateAfter store)
  create :
    ∀ store attrs,
      I store →
      model.serializer.validate none attrs = [] →
        I
          ((model.create
            (model.serializer.update
              model.serializer.defaults
              attrs)).stateAfter store)
  delete :
    ∀ store id,
      I store → I ((model.delete id).stateAfter store)

/-
  A table keeps it, if the rows of the table may be any that
  the serializer lets pass.
-/
theorem tableModel_keeps
    {I : MapStore → Prop}
    {P : Row → Prop}
    {kind : MapKind}
    {serializer : MapSerializer Row Data}
    {rows : MapStore → Rows Row}
    {setRows : MapStore → Rows Row → MapStore}
    {capture : Row → Captured}
    (hAll : ∀ store, I store → (rows store).All P)
    (hSet :
      ∀ store later,
        I store → later.All P → I (setRows store later))
    (hValid :
      ∀ stored attrs,
        serializer.validate stored attrs = [] →
          P
            (serializer.update
              (stored.getD serializer.defaults) attrs)) :
    (tableModel kind serializer rows setRows
      capture).Keeps I where
  save := by
    intro store id stored attrs hInv _ hData
    exact
      hSet store _ hInv
        ((hAll store hInv).set (hValid (some stored) attrs
          hData) id)
  create := by
    intro store attrs hInv hData
    exact
      hSet store _ hInv
        ((hAll store hInv).insert
          (hValid none attrs hData))
  delete := by
    intro store id hInv
    exact hSet store _ hInv ((hAll store hInv).erase id)

section Requests

variable {I : MapStore → Prop}
variable {model : MapModel Row Data}
variable {store : MapStore}

theorem createView_keeps
    {perform : Data → MapAction Unit}
    (hPerform :
      ∀ store attrs,
        I store →
        model.serializer.validate none attrs = [] →
          I ((perform attrs).stateAfter store))
    (data : Option Data)
    (hInv : I store) :
    I ((model.createView perform data).stateAfter store) := by
  have hNew :
      (model.rows store).get? (model.rows store).nextId =
        none :=
    Rows.get?_nextId _
  cases hValid :
      model.serializer.isValid (model.rows store)
        (model.rows store).nextId false data with
  | error errors =>
      rw [Action.stateAfter_of_error
        (createView_of_invalid hValid)]
      exact hInv
  | ok attrs =>
      have hData := validate_of_isValid hValid
      rw [hNew] at hData
      rw [Action.stateAfter_congr
        (createView_of_valid hValid)]
      exact hPerform store attrs hInv hData

theorem performCreate_keeps
    (hKeeps : model.Keeps I)
    (attrs : Data)
    (hInv : I store)
    (hData :
      model.serializer.validate none attrs = []) :
    I ((model.performCreate attrs).stateAfter store) := by
  rw [MapModel.performCreate, Action.stateAfter_bind_pure]
  exact hKeeps.create store attrs hInv hData

variable
  (hLog :
    ∀ store log,
      I store → I { store with changeLog := log })

include hLog

theorem logChange_keeps
    (actor : Option Nat)
    (target : MapKey)
    (before after : Option Captured)
    (action : ChangeAction)
    (hInv : I store) :
    I
      ((logChange actor target before after
        action).stateAfter store) := by
  rcases
    stateAfter_logChange actor target before after action
      store with
    ⟨log, hStore⟩
  rw [hStore]
  exact hLog store log hInv

variable (hKeeps : model.Keeps I)

include hKeeps

theorem updateView_keeps
    (actor : Option Nat)
    (inQuery : Row → Bool)
    (id : Nat)
    (isPartial : Bool)
    (data : Option Data)
    (hInv : I store) :
    I
      ((model.updateView actor inQuery id isPartial
        data).stateAfter store) := by
  cases hAccepted :
      model.accepted? store inQuery id isPartial data with
  | none =>
      rcases updateView_of_rejected hAccepted with
        ⟨error, hError⟩
      rw [Action.stateAfter_of_error hError]
      exact hInv
  | some found =>
      rcases found with ⟨row, attrs⟩
      rcases accepted?_eq_some hAccepted with
        ⟨hFind, hValid⟩
      have hGet := (Option.filter_eq_some_iff.mp hFind).1
      have hData := validate_of_isValid hValid
      rw [hGet] at hData
      rw [Action.stateAfter_congr
        (updateView_of_accepted hAccepted)]
      apply Action.stateAfter_bind_keeps
      · exact hKeeps.save store id row attrs hInv hGet hData
      · intro _ later hLater
        exact logChange_keeps hLog _ _ _ _ _ hLater

theorem performDestroy_keeps
    (actor : Option Nat)
    (id : Nat)
    (row : Row)
    (hInv : I store) :
    I
      ((model.performDestroy actor id row).stateAfter
        store) := by
  apply Action.stateAfter_bind_keeps
  · exact logChange_keeps hLog _ _ _ _ _ hInv
  · intro _ later hLater
    exact hKeeps.delete later id hLater

end Requests

/- What performing a deletion keeps, the view keeps. -/
theorem destroyView_keeps
    {I : MapStore → Prop}
    {model : MapModel Row Data}
    {perform : Nat → Row → MapAction Unit}
    {inQuery : Row → Bool}
    {id : Nat}
    {store : MapStore}
    (hPerform :
      ∀ row,
        (model.rows store).get? id = some row →
          I ((perform id row).stateAfter store))
    (hInv : I store) :
    I
      ((model.destroyView perform inQuery id).stateAfter
        store) := by
  cases hFind :
      ((model.rows store).get? id).filter inQuery with
  | none =>
      rw [Action.stateAfter_of_error
        (destroyView_of_none hFind)]
      exact hInv
  | some row =>
      have hGet := (Option.filter_eq_some_iff.mp hFind).1
      rw [Action.stateAfter_congr
        (destroyView_of_some hFind)]
      exact hPerform row hGet

end Facilities

end Icmp2

------------------------------------------------------------
-- Requests
------------------------------------------------------------

namespace Icmp2

namespace Facilities

open Library

/- The items in front of a key that is no number. -/
def readItems :
    List (Option Nat × MapData) → List (Nat × MapData)
  | [] => []
  | (none, _) :: _ => []
  | (some id, data) :: items => (id, data) :: readItems items

/- What one item of a bulk save does. -/
def itemStep
    (actor : Option Nat)
    (store : MapStore)
    (item : Nat × MapData) :
    MapStore :=
  (bulkItem actor item.1 item.2).stateAfter store

/- A bulk save is the run of its items. -/
theorem stateAfter_bulkMapEditorSave
    (actor : Option Nat)
    (items : List (Option Nat × MapData))
    (reply : BulkReply)
    (store : MapStore) :
    (bulkMapEditorSave actor items reply).stateAfter store =
      run (itemStep actor) store (readItems items) := by
  induction items generalizing reply store with
  | nil => rfl
  | cons item items ih =>
      rcases item with ⟨key, data⟩
      cases key with
      | none => rfl
      | some id =>
          rw [readItems, run_cons, itemStep]
          cases hItem : bulkItem actor id data store with
          | ok _ after =>
              rw [Action.stateAfter_of_ok hItem,
                ← ih
                  { reply with
                    success := reply.success + 1 }]
              simp only [Action.stateAfter,
                bulkMapEditorSave, hItem]
          | error error after =>
              rw [Action.stateAfter_of_error hItem,
                ← ih
                  { reply with
                    errors := reply.errors ++ [error] }]
              simp only [Action.stateAfter,
                bulkMapEditorSave, hItem]

/- A geofence is deleted by an update of one field. -/
theorem deactivate_eq_update
    (row : GeofenceRow) :
    { row with isActive := false } =
      geofenceModel.serializer.update row
        ⟨none, none, none, none, none, none, some false,
          none, none, none, none⟩ := by
  rfl

/- All that a request can write keeps it. -/
structure WritesKeep
    (I : MapStore → Prop) :
    Prop where
  changeLog :
    ∀ store log,
      I store → I { store with changeLog := log }
  equipment : equipmentModel.Keeps I
  locationNode : locationNodeModel.Keeps I
  sensor : sensorLocationModel.Keeps I
  geofence : geofenceModel.Keeps I

section Kept

variable {I : MapStore → Prop}
variable {store : MapStore}
variable (hWrites : WritesKeep I)

include hWrites

theorem bulkItem_keeps
    (actor : Option Nat)
    (id : Nat)
    (data : MapData)
    (hInv : I store) :
    I ((bulkItem actor id data).stateAfter store) := by
  cases data with
  | equipment data =>
      exact
        updateView_keeps hWrites.changeLog
          hWrites.equipment _ _ _ _ _ hInv
  | locationNode data =>
      exact
        updateView_keeps hWrites.changeLog
          hWrites.locationNode _ _ _ _ _ hInv
  | sensor data =>
      exact
        updateView_keeps hWrites.changeLog
          hWrites.sensor _ _ _ _ _ hInv
  | geofence data =>
      exact
        updateView_keeps hWrites.changeLog
          hWrites.geofence _ _ _ _ _ hInv

theorem createRequest_keeps
    (actor : Option Nat)
    (data : MapData)
    (hInv : I store) :
    I ((createRequest actor data).stateAfter store) := by
  cases data with
  | equipment data =>
      apply createView_keeps _ data hInv
      intro store attrs hInv hData
      exact
        performCreate_keeps hWrites.equipment attrs hInv
          hData
  | locationNode data =>
      apply createView_keeps _ data hInv
      intro store attrs hInv hData
      exact
        performCreate_keeps hWrites.locationNode attrs hInv
          hData
  | sensor data =>
      apply createView_keeps _ data hInv
      intro store attrs hInv hData
      exact
        performCreate_keeps hWrites.sensor attrs hInv
          hData
  | geofence data =>
      apply createView_keeps _ data hInv
      intro store attrs hInv hData
      apply Action.stateAfter_bind_keeps
      · exact hWrites.geofence.create store attrs hInv hData
      · intro _ later hLater
        exact logChange_keeps hWrites.changeLog _ _ _ _ _ hLater

theorem updateRequest_keeps
    (actor : Option Nat)
    (query : MapQuery)
    (id : Nat)
    (isPartial : Bool)
    (data : MapData)
    (hInv : I store) :
    I
      ((updateRequest actor query id isPartial
        data).stateAfter store) := by
  cases data with
  | equipment data =>
      exact
        updateView_keeps hWrites.changeLog
          hWrites.equipment _ _ _ _ _ hInv
  | locationNode data =>
      exact
        updateView_keeps hWrites.changeLog
          hWrites.locationNode _ _ _ _ _ hInv
  | sensor data =>
      exact
        updateView_keeps hWrites.changeLog
          hWrites.sensor _ _ _ _ _ hInv
  | geofence data =>
      exact
        updateView_keeps hWrites.changeLog
          hWrites.geofence _ _ _ _ _ hInv

theorem destroyRequest_keeps
    (actor : Option Nat)
    (query : MapQuery)
    (id : Nat)
    (kind : MapKind)
    (hInv : I store) :
    I
      ((destroyRequest actor query id kind).stateAfter
        store) := by
  cases kind with
  | equipment =>
      apply destroyView_keeps _ hInv
      intro row _
      exact
        performDestroy_keeps hWrites.changeLog
          hWrites.equipment _ _ _ hInv
  | locationNode =>
      apply destroyView_keeps _ hInv
      intro row _
      exact
        performDestroy_keeps hWrites.changeLog
          hWrites.locationNode _ _ _ hInv
  | sensor =>
      apply destroyView_keeps _ hInv
      intro row _
      exact
        performDestroy_keeps hWrites.changeLog
          hWrites.sensor _ _ _ hInv
  | geofence =>
      apply destroyView_keeps _ hInv
      intro row hGet
      rw [performDestroyGeofence]
      apply Action.stateAfter_bind_keeps
      · rw [deactivate_eq_update]
        exact hWrites.geofence.save store id row _ hInv hGet rfl
      · intro _ later hLater
        exact logChange_keeps hWrites.changeLog _ _ _ _ _ hLater

/- What the writes of the models keep, a request keeps. -/
theorem handleRequest_keeps
    (actor : Option Nat)
    (request : MapRequest)
    (hInv : I store) :
    I ((handleRequest actor request).stateAfter store) := by
  cases request with
  | create data =>
      exact
        createRequest_keeps hWrites actor data hInv
  | update query id isPartial data =>
      exact
        updateRequest_keeps hWrites actor query id isPartial
          data hInv
  | destroy query kind id =>
      exact
        destroyRequest_keeps hWrites actor query id kind
          hInv
  | bulkSave items =>
      rw [handleRequest, Action.stateAfter_bind_pure,
        stateAfter_bulkMapEditorSave]
      apply run_invariant _ hInv
      intro later item hLater
      exact
        bulkItem_keeps hWrites actor item.1 item.2 hLater

end Kept

end Facilities

end Icmp2

------------------------------------------------------------
-- Links
------------------------------------------------------------

namespace Icmp2

namespace Facilities

open Library

/- The tables of nodes and devices behind an action. -/
theorem stateAfter_onNodes
    {R : Type}
    (action : SyncAction R)
    (store : MapStore) :
    (onNodes action).stateAfter store =
      { store with
        toNodeStore :=
          action.stateAfter store.toNodeStore } := by
  unfold Action.stateAfter onNodes
  cases action store.toNodeStore <;> rfl

/- The writes of nodes, in the tables of nodes. -/
theorem stateAfter_saveNode
    (id : Nat)
    (node : LocationNode)
    (store : MapStore) :
    (locationNodeModel.save id node).stateAfter store =
      { store with
        toNodeStore :=
          (nodeCall (.saveNode id node none)).stateAfter
            store.toNodeStore } := by
  rw [locationNodeModel, stateAfter_onNodes,
    Action.stateAfter_bind_pure]

theorem stateAfter_createNode
    (node : LocationNode)
    (store : MapStore) :
    (locationNodeModel.create node).stateAfter store =
      { store with
        toNodeStore :=
          (nodeCall (.createNode node)).stateAfter
            store.toNodeStore } :=
  stateAfter_onNodes ..

theorem stateAfter_deleteNode
    (id : Nat)
    (store : MapStore) :
    (locationNodeModel.delete id).stateAfter store =
      { store with
        toNodeStore :=
          (nodeCall (.deleteNode id)).stateAfter
            store.toNodeStore } := by
  rw [locationNodeModel, stateAfter_onNodes,
    Action.stateAfter_bind_pure]

/- A table without signals leaves the links alone. -/
theorem tableModel_intact
    {Row Data : Type}
    {kind : MapKind}
    {serializer : MapSerializer Row Data}
    {rows : MapStore → Rows Row}
    {setRows : MapStore → Rows Row → MapStore}
    {capture : Row → Captured}
    (hSet :
      ∀ store later,
        (setRows store later).toNodeStore =
          store.toNodeStore) :
    (tableModel kind serializer rows setRows
      capture).Keeps fun store => store.Intact := by
  apply tableModel_keeps (P := fun _ => True)
  · intro store _
    exact Rows.All.trivially _
  · intro store later hIntact _
    rw [hSet]
    exact hIntact
  · intro _ _ _
    trivial

theorem intact_writesKeep :
    WritesKeep fun store => store.Intact where
  changeLog := by
    intro store log hIntact
    exact hIntact
  equipment := tableModel_intact fun _ _ => rfl
  sensor := tableModel_intact fun _ _ => rfl
  geofence := tableModel_intact fun _ _ => rfl
  locationNode := {
    save := by
      intro store id stored attrs hIntact _ _
      rw [stateAfter_saveNode]
      apply hIntact.saveNode
      intro _ _
      rfl
    create := by
      intro store attrs hIntact _
      rw [stateAfter_createNode]
      exact hIntact.createNode _
    delete := by
      intro store id hIntact
      rw [stateAfter_deleteNode]
      exact hIntact.deleteNode id }

theorem intact_deleteFloor
    {store : MapStore}
    (hIntact : store.Intact)
    (floor : Nat) :
    (store.deleteFloor floor).Intact := by
  refine ⟨?_, ?_, hIntact.guardOff, ?_, ?_⟩
  · intro _ _ _ _ _ _ _ hExempt
    exact absurd trivial hExempt
  · apply hIntact.oneNode.mapRows
    intro row dev hLink
    exact hLink
  · intro id dev node hNode hLink
    rcases Option.map_eq_some_iff.mp hNode with
      ⟨old, hOld, rfl⟩
    rcases hIntact.linked id dev old hOld hLink with
      ⟨device, hDevice⟩
    exact ⟨_, congrArg (Option.map _) hDevice⟩
  · intro id node hNode
    rcases Option.map_eq_some_iff.mp hNode with
      ⟨old, hOld, rfl⟩
    exact hIntact.namesFit id old hOld

/- No step breaks a link. -/
theorem intact_mapApiStep
    {store : MapStore}
    (hIntact : store.Intact)
    (op : MapApiOp) :
    (mapApiStep store op).Intact := by
  cases op with
  | request actor request =>
      exact
        handleRequest_keeps intact_writesKeep actor request
          hIntact
  | deleteFloor floor =>
      exact intact_deleteFloor hIntact floor
  | device op =>
      exact hIntact.nodeStep (Or.inr fun _ _ => trivial)

/- The tables without rows, with one facility. -/
def MapStore.initial : MapStore where
  toNodeStore := .initial (fun _ => some 1) (some 1)
  zoneFloor := fun _ => none
  equipments := .empty
  sensors := .empty
  geofences := .empty
  changeLog := []

theorem intact_initial :
    MapStore.initial.Intact where
  agree := by
    intro id dev node device hNode
    cases hNode
  oneNode := Rows.UniqueBy.empty
  guardOff := rfl
  linked := by
    intro id dev node hNode
    cases hNode
  namesFit := by
    intro id node hNode
    cases hNode

end Facilities

end Icmp2
