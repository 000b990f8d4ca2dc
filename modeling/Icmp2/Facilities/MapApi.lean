import Icmp2.Facilities.MapObjects

/-
  The requests of the map API, with the change log.

  Main definitions include:
    * `Icmp2.Facilities.MapStore`
    * `Icmp2.Facilities.logChange`
    * `Icmp2.Facilities.MapModel`
    * `Icmp2.Facilities.MapModel.updateView`
    * `Icmp2.Facilities.bulkMapEditorSave`
    * `Icmp2.Facilities.handleRequest`
    * `Icmp2.Facilities.mapApiStep`

  No transaction surrounds a request: `on_commit` runs its
  hook at once, and an exception keeps what was written.
-/

------------------------------------------------------------
-- The Change Log
------------------------------------------------------------

namespace Icmp2

namespace Facilities

open Library

inductive MapKind where
  | equipment
  | locationNode
  | sensor
  | geofence
  deriving DecidableEq, Repr

/- An object by its model and its id. -/
abbrev MapKey : Type :=
  MapKind × Nat

/- What `capture_state` makes of an object. -/
inductive Captured where
  | equipment (row : Equipment)
  | locationNode (row : LocationNode)
  | sensor (row : SensorRow)
  | geofence (row : GeofenceRow)
  deriving DecidableEq, Repr

/- The numbers of a captured object. -/
def Captured.floats : Captured → List (Option FloatValue)
  | .equipment row =>
      [row.width, row.height, row.centerX, row.centerY]
  | .locationNode row => [row.x, row.y, row.z]
  | .sensor row => [row.x, row.y]
  | .geofence row => [row.centerX, row.centerY, row.radius]

/- A number that JSON can hold. -/
def FloatValue.isFinite : FloatValue → Bool
  | .finite _ => true
  | .nan => false
  | .infinite _ => false

/- The database takes it in a column of JSON. -/
def Captured.isJson
    (captured : Captured) :
    Bool :=
  captured.floats.all fun value =>
    value.all FloatValue.isFinite

inductive ChangeAction where
  | create
  | update
  | delete
  deriving DecidableEq, Repr

structure ChangeLogRow where
  actor : Option Nat
  target : MapKey
  action : ChangeAction
  before : Option Captured
  after : Option Captured
  deriving DecidableEq, Repr

/- All tables behind the map; `zoneFloor` is that of zones. -/
structure MapStore extends NodeStore where
  zoneFloor : Nat → Option Nat
  equipments : Rows Equipment
  sensors : Rows SensorRow
  geofences : Rows GeofenceRow
  changeLog : List ChangeLogRow

inductive MapError where
  | sync (error : SyncError)
  | notFound
  | invalid (errors : List FieldError)
  | dataError
  | valueError
  deriving DecidableEq, Repr

abbrev MapAction (R : Type) : Type :=
  Action MapError MapStore R

/- `log_change`, whose hook writes at once. -/
def logChange
    (actor : Option Nat)
    (target : MapKey)
    (before after : Option Captured)
    (action : ChangeAction) :
    MapAction Unit := fun store =>
  if before.all Captured.isJson ∧ after.all Captured.isJson
  then
    .ok ()
      { store with
        changeLog :=
          store.changeLog ++
            [⟨actor, target, action, before, after⟩] }
  else
    .error .dataError store

/- An action on the nodes and devices. -/
def onNodes
    {R : Type}
    (action : SyncAction R) :
    MapAction R := fun store =>
  match action store.toNodeStore with
  | .ok value after =>
      .ok value { store with toNodeStore := after }
  | .error error after =>
      .error (.sync error) { store with toNodeStore := after }

end Facilities

end Icmp2

------------------------------------------------------------
-- Models and Views
------------------------------------------------------------

namespace Icmp2

namespace Facilities

open Library

/- A model of the map: its table, and how rows are written. -/
structure MapModel (Row Data : Type) where
  kind : MapKind
  serializer : MapSerializer Row Data
  rows : MapStore → Rows Row
  create : Row → MapAction Nat
  save : Nat → Row → MapAction Unit
  delete : Nat → MapAction Unit
  capture : Row → Captured

/- A model whose writes send no signals. -/
def tableModel
    {Row Data : Type}
    (kind : MapKind)
    (serializer : MapSerializer Row Data)
    (rows : MapStore → Rows Row)
    (setRows : MapStore → Rows Row → MapStore)
    (capture : Row → Captured) :
    MapModel Row Data where
  kind := kind
  serializer := serializer
  rows := rows
  create := fun row store =>
    .ok (rows store).nextId
      (setRows store ((rows store).insert row))
  save := fun id row store =>
    .ok () (setRows store ((rows store).set id row))
  delete := fun id store =>
    .ok () (setRows store ((rows store).erase id))
  capture := capture

def equipmentModel : MapModel Equipment EquipmentData :=
  tableModel .equipment equipmentSerializer
    MapStore.equipments
    (fun store rows => { store with equipments := rows })
    .equipment

def sensorLocationModel : MapModel SensorRow SensorData :=
  tableModel .sensor sensorLocationSerializer
    MapStore.sensors
    (fun store rows => { store with sensors := rows })
    .sensor

def geofenceModel : MapModel GeofenceRow GeofenceData :=
  tableModel .geofence geofenceSerializer
    MapStore.geofences
    (fun store rows => { store with geofences := rows })
    .geofence

def locationNodeModel :
    MapModel LocationNode LocationNodeData where
  kind := .locationNode
  serializer := locationNodeSerializer
  rows := fun store => store.nodes
  create := fun row => onNodes (nodeCall (.createNode row))
  save := fun id row => onNodes do
    let _ ← nodeCall (.saveNode id row none)
    pure ()
  delete := fun id => onNodes do
    let _ ← nodeCall (.deleteNode id)
    pure ()
  capture := .locationNode

variable {Row Data : Type}
variable (model : MapModel Row Data)

/- `get_object` over what the query parameters leave. -/
def MapModel.getObject
    (inQuery : Row → Bool)
    (id : Nat) :
    MapAction Row := fun store =>
  match ((model.rows store).get? id).filter inQuery with
  | none => .error .notFound store
  | some row => .ok row store

/-
  `perform_update`, the same in the four view sets.  The
  signals change the saved instance as they change its row,
  so the row is what is captured behind the save.
-/
def MapModel.performUpdate
    (actor : Option Nat)
    (id : Nat)
    (row : Row)
    (attrs : Data) :
    MapAction Unit := do
  let before := some (model.capture row)
  model.save id (model.serializer.update row attrs)
  let store ← get
  let after := ((model.rows store).get? id).map model.capture
  logChange actor (model.kind, id) before after .update

/- `perform_destroy` of all view sets but the geofences'. -/
def MapModel.performDestroy
    (actor : Option Nat)
    (id : Nat)
    (row : Row) :
    MapAction Unit := do
  let before := some (model.capture row)
  logChange actor (model.kind, id) before none .delete
  model.delete id

/- `GeofenceViewSet.perform_destroy`. -/
def performDestroyGeofence
    (actor : Option Nat)
    (id : Nat)
    (row : GeofenceRow) :
    MapAction Unit := do
  let before := some (Captured.geofence row)
  let instance' := { row with isActive := false }
  geofenceModel.save id instance'
  let after := some (Captured.geofence instance')
  logChange actor (.geofence, id) before after .delete

/- `perform_create` of all view sets but the geofences'. -/
def MapModel.performCreate
    (attrs : Data) :
    MapAction Unit := do
  let _ ←
    model.create
      (model.serializer.update model.serializer.defaults
        attrs)
  pure ()

/- `GeofenceViewSet.perform_create`. -/
def performCreateGeofence
    (actor : Option Nat)
    (attrs : GeofenceData) :
    MapAction Unit := do
  let geofence :=
    geofenceSerializer.defaults.update attrs
  let id ← geofenceModel.create geofence
  let after := some (Captured.geofence geofence)
  logChange actor (.geofence, id) none after .create

/- The data of a request against the rows of the model. -/
def MapModel.validated
    (id : Nat)
    (isPartial : Bool)
    (data : Option Data) :
    MapAction Data := fun store =>
  match
    model.serializer.isValid (model.rows store) id isPartial
      data with
  | .error errors => .error (.invalid errors) store
  | .ok attrs => .ok attrs store

/- `PUT` and `PATCH`. -/
def MapModel.updateView
    (actor : Option Nat)
    (inQuery : Row → Bool)
    (id : Nat)
    (isPartial : Bool)
    (data : Option Data) :
    MapAction Unit := do
  let row ← model.getObject inQuery id
  let attrs ← model.validated id isPartial data
  model.performUpdate actor id row attrs

/- `POST`, for the id that the row is going to get. -/
def MapModel.createView
    (perform : Data → MapAction Unit)
    (data : Option Data) :
    MapAction Unit := do
  let store ← get
  let attrs ←
    model.validated (model.rows store).nextId false data
  perform attrs

/- `DELETE`. -/
def MapModel.destroyView
    (perform : Nat → Row → MapAction Unit)
    (inQuery : Row → Bool)
    (id : Nat) :
    MapAction Unit := do
  let row ← model.getObject inQuery id
  perform id row

end Facilities

end Icmp2

------------------------------------------------------------
-- Requests
------------------------------------------------------------

namespace Icmp2

namespace Facilities

open Library

/- The query parameters of a request. -/
structure MapQuery where
  floorId : Option Nat
  zoneId : Option Nat
  isPlaced : Option Bool
  isActive : Option Bool
  status : Option String
  sensorType : Option String
  deriving DecidableEq, Repr

def EquipmentStatus.text : EquipmentStatus → String
  | active => "active"
  | inactive => "inactive"
  | maintenance => "maintenance"

def SensorType.text : SensorType → String
  | gas => "gas"
  | power => "power"
  | location => "location"

/- A filter that is applied if its parameter is given. -/
def whenGiven
    {T : Type}
    (parameter : Option T)
    (test : T → Bool) :
    Bool :=
  parameter.all test

/- `EquipmentViewSet.get_queryset`. -/
def MapQuery.equipment
    (query : MapQuery)
    (row : Equipment) :
    Bool :=
  whenGiven query.floorId (row.floor = some ·) &&
    whenGiven query.zoneId (row.zone = some ·) &&
    whenGiven query.isPlaced (row.isPlaced = ·) &&
    whenGiven query.status (row.status.text = ·)

/- `LocationNodeViewSet.get_queryset`. -/
def MapQuery.locationNode
    (query : MapQuery)
    (row : LocationNode) :
    Bool :=
  whenGiven query.floorId (row.floor = some ·) &&
    whenGiven query.zoneId (row.zone = some ·)

/-
  `SensorLocationViewSet.get_queryset`: active sensors only,
  if nothing is asked for.
-/
def MapQuery.sensor
    (query : MapQuery)
    (row : SensorRow) :
    Bool :=
  whenGiven query.floorId (row.floor = some ·) &&
    whenGiven query.sensorType (row.sensorType.text = ·) &&
    row.isActive = query.isActive.getD true

/- `GeofenceViewSet.get_queryset`. -/
def MapQuery.geofence
    (query : MapQuery)
    (row : GeofenceRow) :
    Bool :=
  whenGiven query.floorId (row.floor = ·) &&
    whenGiven query.isActive (row.isActive = ·)

/- The data for an object of one of the models. -/
inductive MapData where
  | equipment (data : Option EquipmentData)
  | locationNode (data : Option LocationNodeData)
  | sensor (data : Option SensorData)
  | geofence (data : Option GeofenceData)
  deriving DecidableEq, Repr

/-
  A request.  The items of a bulk save come in the order in
  which the categories and their keys are read; a key that
  is no number has no id.
-/
inductive MapRequest where
  | create (data : MapData)
  | update
      (query : MapQuery)
      (id : Nat)
      (isPartial : Bool)
      (data : MapData)
  | destroy
      (query : MapQuery)
      (kind : MapKind)
      (id : Nat)
  | bulkSave (items : List (Option Nat × MapData))
  deriving DecidableEq, Repr

def createRequest
    (actor : Option Nat) :
    MapData → MapAction Unit
  | .equipment data =>
      equipmentModel.createView equipmentModel.performCreate
        data
  | .locationNode data =>
      locationNodeModel.createView
        locationNodeModel.performCreate data
  | .sensor data =>
      sensorLocationModel.createView
        sensorLocationModel.performCreate data
  | .geofence data =>
      geofenceModel.createView (performCreateGeofence actor)
        data

def updateRequest
    (actor : Option Nat)
    (query : MapQuery)
    (id : Nat)
    (isPartial : Bool) :
    MapData → MapAction Unit
  | .equipment data =>
      equipmentModel.updateView actor query.equipment id
        isPartial data
  | .locationNode data =>
      locationNodeModel.updateView actor query.locationNode
        id isPartial data
  | .sensor data =>
      sensorLocationModel.updateView actor query.sensor id
        isPartial data
  | .geofence data =>
      geofenceModel.updateView actor query.geofence id
        isPartial data

def destroyRequest
    (actor : Option Nat)
    (query : MapQuery)
    (id : Nat) :
    MapKind → MapAction Unit
  | .equipment =>
      equipmentModel.destroyView
        (equipmentModel.performDestroy actor)
        query.equipment id
  | .locationNode =>
      locationNodeModel.destroyView
        (locationNodeModel.performDestroy actor)
        query.locationNode id
  | .sensor =>
      sensorLocationModel.destroyView
        (sensorLocationModel.performDestroy actor)
        query.sensor id
  | .geofence =>
      geofenceModel.destroyView
        (performDestroyGeofence actor) query.geofence id

/- One item of a bulk save, without query parameters. -/
def bulkItem
    (actor : Option Nat)
    (id : Nat) :
    MapData → MapAction Unit
  | .equipment data =>
      equipmentModel.updateView actor (fun _ => true) id true
        data
  | .locationNode data =>
      locationNodeModel.updateView actor (fun _ => true) id
        true data
  | .sensor data =>
      sensorLocationModel.updateView actor (fun _ => true) id
        true data
  | .geofence data =>
      geofenceModel.updateView actor (fun _ => true) id true
        data

/- The answer to a bulk save. -/
structure BulkReply where
  success : Nat
  errors : List MapError
  deriving DecidableEq, Repr

/-
  `bulk_map_editor_save`: an item that fails is noted, and
  the next one is taken up; a key that is no number ends
  the request.
-/
def bulkMapEditorSave
    (actor : Option Nat) :
    List (Option Nat × MapData) →
    BulkReply →
    MapAction BulkReply
  | [], reply => pure reply
  | (none, _) :: _, _ => throw .valueError
  | (some id, data) :: items, reply => fun store =>
      match bulkItem actor id data store with
      | .ok _ after =>
          bulkMapEditorSave actor items
            { reply with success := reply.success + 1 }
            after
      | .error error after =>
          bulkMapEditorSave actor items
            { reply with errors := reply.errors ++ [error] }
            after

def handleRequest
    (actor : Option Nat) :
    MapRequest → MapAction Unit
  | .create data => createRequest actor data
  | .update query id isPartial data =>
      updateRequest actor query id isPartial data
  | .destroy query kind id =>
      destroyRequest actor query id kind
  | .bulkSave items => do
      let _ ← bulkMapEditorSave actor items ⟨0, []⟩
      pure ()

end Facilities

end Icmp2

------------------------------------------------------------
-- Steps
------------------------------------------------------------

namespace Icmp2

namespace Facilities

open Library

/- What is done to devices, and to what holds rows. -/
inductive DeviceOp where
  | create (device : DeviceRow)
  | save (id : Nat) (device : DeviceRow)
  | saveFields
      (id : Nat)
      (fields : List SharedField)
      (shared : Shared)
  | delete (id : Nat)
  | holdNode (id : Nat) (held : Bool)
  | holdDevice (id : Nat) (held : Bool)
  deriving DecidableEq, Repr

def DeviceOp.nodeOp : DeviceOp → NodeOp
  | .create device => .createDevice device
  | .save id device => .saveDevice id device
  | .saveFields id fields shared =>
      .saveDeviceFields id fields shared
  | .delete id => .deleteDevice id
  | .holdNode id held => .holdNode id held
  | .holdDevice id held => .holdDevice id held

/- A foreign key after the deletion of its row (SET_NULL). -/
def clearKey
    (deleted : Nat → Bool)
    (key : Option Nat) :
    Option Nat :=
  key.filter fun id => !deleted id

/-
  `Floor.delete`: the floor's zones and geofences go with
  it, and no other object of the map does.
-/
def MapStore.deleteFloor
    (store : MapStore)
    (floor : Nat) :
    MapStore :=
  let inFloor := fun id => id == floor
  let inZones := fun zone =>
    store.zoneFloor zone == some floor
  { store with
    nodes :=
      store.nodes.mapRows fun row =>
        { row with
          floor := clearKey inFloor row.floor
          zone := clearKey inZones row.zone }
    devices :=
      store.devices.mapRows fun row =>
        { row with floor := clearKey inFloor row.floor }
    equipments :=
      store.equipments.mapRows fun row =>
        { row with
          floor := clearKey inFloor row.floor
          zone := clearKey inZones row.zone }
    sensors :=
      store.sensors.mapRows fun row =>
        { row with floor := clearKey inFloor row.floor }
    geofences :=
      (store.geofences.eraseWhere
        fun row => inFloor row.floor).mapRows fun row =>
          { row with zone := clearKey inZones row.zone }
    zoneFloor := fun zone =>
      if inZones zone then none else store.zoneFloor zone
    facilityOfFloor := fun other =>
      if inFloor other then none
      else store.facilityOfFloor other }

inductive MapApiOp where
  | request (actor : Option Nat) (request : MapRequest)
  | deleteFloor (floor : Nat)
  | device (op : DeviceOp)
  deriving DecidableEq, Repr

def mapApiStep
    (store : MapStore) :
    MapApiOp → MapStore
  | .request actor request =>
      (handleRequest actor request).stateAfter store
  | .deleteFloor floor => store.deleteFloor floor
  | .device op =>
      { store with
        toNodeStore :=
          nodeStep store.toNodeStore op.nodeOp }

end Facilities

end Icmp2
