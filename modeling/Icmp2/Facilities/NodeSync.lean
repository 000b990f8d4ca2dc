import Icmp2.Library.Action
import Icmp2.Library.Rows
import Icmp2.Library.Trace
import Mathlib.Data.Rat.Defs

/-
  Location nodes, their devices, and the signals between.

  Main definitions include:
    * `Icmp2.Facilities.LocationNode`
    * `Icmp2.Facilities.DeviceRow`
    * `Icmp2.Facilities.handleCall`
    * `Icmp2.Facilities.nodeCall`
    * `Icmp2.Facilities.nodeStep`
    * `Icmp2.Facilities.NodeStore.Mirrors`
    * `Icmp2.Facilities.NameFits`

  A save or a deletion on either side is carried over to the
  other.  A guard that is thread-local keeps the signals of
  the carried-over call quiet.
-/

------------------------------------------------------------
-- Rows
------------------------------------------------------------

namespace Icmp2

namespace Facilities

open Library

/- A `FloatField`; the texts "nan" and 1e999 are floats. -/
inductive FloatValue where
  | finite (value : ℚ)
  | nan
  | infinite (negative : Bool)
  deriving DecidableEq, Repr

inductive NodeStatus where
  | active
  | inactive
  deriving DecidableEq, Repr

inductive DeviceType where
  | gas
  | power
  | loc
  deriving DecidableEq, Repr

structure LocationNode where
  floor : Option Nat
  zone : Option Nat
  nodeName : String
  nodeCode : String
  x : Option FloatValue
  y : Option FloatValue
  z : Option FloatValue
  status : NodeStatus
  isPlaced : Bool
  device : Option Nat
  deriving DecidableEq, Repr

/- The columns of `Device` that the signals touch. -/
structure DeviceRow where
  facility : Nat
  floor : Option Nat
  deviceType : DeviceType
  deviceCode : String
  deviceUid : String
  deviceName : String
  isActive : Bool
  deriving DecidableEq, Repr

/- What a node and its device have in common. -/
structure Shared where
  name : String
  floor : Option Nat
  active : Bool
  deriving DecidableEq, Repr

inductive SharedField where
  | name
  | floor
  | active
  deriving DecidableEq, Repr

def LocationNode.shared
    (node : LocationNode) :
    Shared where
  name := node.nodeName
  floor := node.floor
  active := node.status == .active

def DeviceRow.shared
    (device : DeviceRow) :
    Shared where
  name := device.deviceName
  floor := device.floor
  active := device.isActive

/- `'active' if is_active else 'inactive'`. -/
def statusOfActive
    (active : Bool) :
    NodeStatus :=
  if active then .active else .inactive

/- The shared fields in which the second differs. -/
def dirtyFields
    (old new : Shared) :
    List SharedField :=
  (if old.name ≠ new.name then [.name] else []) ++
    (if old.floor ≠ new.floor then [.floor] else []) ++
    (if old.active ≠ new.active then [.active] else [])

/- The given fields of a node set to shared values. -/
def LocationNode.write
    (node : LocationNode)
    (fields : List SharedField)
    (shared : Shared) :
    LocationNode :=
  { node with
    nodeName :=
      if .name ∈ fields then shared.name else node.nodeName
    floor :=
      if .floor ∈ fields then shared.floor else node.floor
    status :=
      if .active ∈ fields then statusOfActive shared.active
      else node.status }

/- The given fields of a device set to shared values. -/
def DeviceRow.write
    (device : DeviceRow)
    (fields : List SharedField)
    (shared : Shared) :
    DeviceRow :=
  { device with
    deviceName :=
      if .name ∈ fields then shared.name
      else device.deviceName
    floor :=
      if .floor ∈ fields then shared.floor
      else device.floor
    isActive :=
      if .active ∈ fields then shared.active
      else device.isActive }

/- The lengths of the text columns of a node. -/
def LocationNode.Fits
    (node : LocationNode) :
    Prop :=
  node.nodeName.length ≤ 100 ∧ node.nodeCode.length ≤ 50

instance : DecidablePred LocationNode.Fits := by
  intro node
  unfold LocationNode.Fits
  infer_instance

/- The lengths of the text columns of a device. -/
def DeviceRow.Fits
    (device : DeviceRow) :
    Prop :=
  device.deviceName.length ≤ 200 ∧
    device.deviceCode.length ≤ 50 ∧
    device.deviceUid.length ≤ 100

instance : DecidablePred DeviceRow.Fits := by
  intro device
  unfold DeviceRow.Fits
  infer_instance

end Facilities

end Icmp2

------------------------------------------------------------
-- Tables
------------------------------------------------------------

namespace Icmp2

namespace Facilities

open Library

/-
  The two tables; the rows that a `PROTECT` reference of a
  reading or an inspection holds; the facility of a floor's
  building and the first facility; and `_LN_DEV_SYNC`.
-/
structure NodeStore where
  nodes : Rows LocationNode
  devices : Rows DeviceRow
  nodeProtected : Nat → Bool
  deviceProtected : Nat → Bool
  facilityOfFloor : Nat → Option Nat
  firstFacility : Option Nat
  syncing : Bool

inductive SyncError where
  | dataError
  | integrityError
  | doesNotExist
  | protectedError
  | recursionError
  deriving DecidableEq, Repr

abbrev SyncAction (R : Type) : Type :=
  Action SyncError NodeStore R

/- The constraints on a node that is stored under an id. -/
def NodeStore.AcceptsNode
    (store : NodeStore)
    (id : Nat)
    (node : LocationNode) :
    Prop :=
  store.nodes.Free (fun row => some row.nodeCode) id node ∧
    store.nodes.Free LocationNode.device id node ∧
    ∀ dev ∈ node.device, (store.devices.get? dev).isSome

instance
    (store : NodeStore)
    (id : Nat)
    (node : LocationNode) :
    Decidable (store.AcceptsNode id node) := by
  unfold NodeStore.AcceptsNode
  infer_instance

/- What the database objects to in a node, if anything. -/
def NodeStore.nodeFault?
    (store : NodeStore)
    (id : Nat)
    (node : LocationNode) :
    Option SyncError :=
  if ¬ node.Fits then
    some .dataError
  else if ¬ store.AcceptsNode id node then
    some .integrityError
  else
    none

/- What the database objects to in a device, if anything. -/
def NodeStore.deviceFault?
    (store : NodeStore)
    (id : Nat)
    (device : DeviceRow) :
    Option SyncError :=
  if ¬ device.Fits then
    some .dataError
  else if
      ¬ store.devices.Free
        (fun row => some row.deviceUid) id device then
    some .integrityError
  else
    none

/- The same for an `UPDATE` of shared columns only. -/
def fieldsFault?
    (limit : Nat)
    (fields : List SharedField)
    (shared : Shared) :
    Option SyncError :=
  if .name ∈ fields ∧ limit < shared.name.length then
    some .dataError
  else
    none

/- `INSERT` of a node. -/
def insertNode
    (node : LocationNode) :
    SyncAction Nat := fun store =>
  match store.nodeFault? store.nodes.nextId node with
  | some error => .error error store
  | none =>
      .ok store.nodes.nextId
        { store with nodes := store.nodes.insert node }

/- `INSERT` of a device. -/
def insertDevice
    (device : DeviceRow) :
    SyncAction Nat := fun store =>
  match store.deviceFault? store.devices.nextId device with
  | some error => .error error store
  | none =>
      .ok store.devices.nextId
        { store with devices := store.devices.insert device }

/- What an update of a node runs into, if anything. -/
def NodeStore.nodeUpdateFault?
    (store : NodeStore)
    (id : Nat)
    (node : LocationNode)
    (updateFields : Option (List SharedField)) :
    Option SyncError :=
  match updateFields with
  | none => store.nodeFault? id node
  | some fields => fieldsFault? 100 fields node.shared

/- What an update of a device runs into, if anything. -/
def NodeStore.deviceUpdateFault?
    (store : NodeStore)
    (id : Nat)
    (device : DeviceRow)
    (updateFields : Option (List SharedField)) :
    Option SyncError :=
  match updateFields with
  | none => store.deviceFault? id device
  | some fields => fieldsFault? 200 fields device.shared

/- The columns that `save(update_fields=...)` writes. -/
def LocationNode.saved
    (stored node : LocationNode)
    (updateFields : Option (List SharedField)) :
    LocationNode :=
  match updateFields with
  | none => node
  | some fields => stored.write fields node.shared

def DeviceRow.saved
    (stored device : DeviceRow)
    (updateFields : Option (List SharedField)) :
    DeviceRow :=
  match updateFields with
  | none => device
  | some fields => stored.write fields device.shared

/- `UPDATE` of a loaded node. -/
def updateNode
    (id : Nat)
    (node : LocationNode)
    (updateFields : Option (List SharedField)) :
    SyncAction Unit := fun store =>
  match store.nodes.get? id with
  | none => .error .doesNotExist store
  | some stored =>
      match
        store.nodeUpdateFault? id node updateFields with
      | some error => .error error store
      | none =>
          .ok ()
            { store with
              nodes :=
                store.nodes.set id
                  (stored.saved node updateFields) }

/- `UPDATE` of a loaded device. -/
def updateDevice
    (id : Nat)
    (device : DeviceRow)
    (updateFields : Option (List SharedField)) :
    SyncAction Unit := fun store =>
  match store.devices.get? id with
  | none => .error .doesNotExist store
  | some stored =>
      match
        store.deviceUpdateFault? id device
          updateFields with
      | some error => .error error store
      | none =>
          .ok ()
            { store with
              devices :=
                store.devices.set id
                  (stored.saved device updateFields) }

/- The node that is to be deleted, if nothing holds it. -/
def loadNode
    (id : Nat) :
    SyncAction LocationNode := fun store =>
  match store.nodes.get? id with
  | none => .error .doesNotExist store
  | some node =>
      if store.nodeProtected id then
        .error .protectedError store
      else
        .ok node store

/- The device that is to be deleted, if nothing holds it. -/
def loadDevice
    (id : Nat) :
    SyncAction DeviceRow := fun store =>
  match store.devices.get? id with
  | none => .error .doesNotExist store
  | some device =>
      if store.deviceProtected id then
        .error .protectedError store
      else
        .ok device store

def NodeStore.eraseNode
    (store : NodeStore)
    (id : Nat) :
    NodeStore :=
  { store with nodes := store.nodes.erase id }

/- The foreign key of a node after a deletion (SET_NULL). -/
def LocationNode.unlink
    (dev : Nat)
    (node : LocationNode) :
    LocationNode :=
  if node.device = some dev then
    { node with device := none }
  else
    node

def NodeStore.eraseDevice
    (store : NodeStore)
    (id : Nat) :
    NodeStore :=
  { store with
    nodes := store.nodes.mapRows (LocationNode.unlink id)
    devices := store.devices.erase id }

end Facilities

end Icmp2

------------------------------------------------------------
-- Signals
------------------------------------------------------------

namespace Icmp2

namespace Facilities

open Library

/- The calls of the mapper that send signals. -/
inductive OrmCall where
  | createNode (node : LocationNode)
  | saveNode
      (id : Nat)
      (node : LocationNode)
      (updateFields : Option (List SharedField))
  | deleteNode (id : Nat)
  | createDevice (device : DeviceRow)
  | saveDevice
      (id : Nat)
      (device : DeviceRow)
      (updateFields : Option (List SharedField))
  | deleteDevice (id : Nat)
  deriving DecidableEq, Repr

/- `_LN_DEV_SYNC.active = ...`. -/
def NodeStore.setSyncing
    (syncing : Bool)
    (store : NodeStore) :
    NodeStore :=
  { store with syncing := syncing }

/- `with _LnDevSyncGuard():`. -/
def lnDevSyncGuard
    {R : Type}
    (action : SyncAction R) :
    SyncAction R :=
  Action.bracket (NodeStore.setSyncing true)
    (NodeStore.setSyncing false) action

/- `_resolve_facility_for_node`. -/
def NodeStore.resolveFacilityForNode
    (store : NodeStore)
    (node : LocationNode) :
    Option Nat :=
  match node.floor.bind store.facilityOfFloor with
  | some facility => some facility
  | none => store.firstFacility

/- The device that is created for a node. -/
def LocationNode.newDevice
    (node : LocationNode)
    (facility : Nat) :
    DeviceRow where
  facility := facility
  floor := node.floor
  deviceType := .loc
  deviceCode := node.nodeCode
  deviceUid := node.nodeCode
  deviceName := node.nodeName
  isActive := node.status == .active

/- The node that is created for a device. -/
def DeviceRow.newNode
    (device : DeviceRow)
    (id : Nat) :
    LocationNode where
  floor := device.floor
  zone := none
  nodeName := device.deviceName
  nodeCode := device.deviceCode
  x := none
  y := none
  z := some (.finite 0)
  status := statusOfActive device.isActive
  isPlaced := false
  device := some id

/- `filter(pk=instance.pk).update(device=dev)`. -/
def NodeStore.linkNode
    (store : NodeStore)
    (id dev : Nat) :
    NodeStore :=
  match store.nodes.get? id with
  | none => store
  | some node =>
      { store with
        nodes :=
          store.nodes.set id
            { node with device := some dev } }

/- `LocationNode.objects.filter(device_id=...).first()`. -/
def NodeStore.nodeOf
    (store : NodeStore)
    (dev : Nat) :
    Option Nat :=
  store.nodes.find? fun node => node.device = some dev

variable (orm : OrmCall → SyncAction Nat)

/- `_ln_to_device_sync`. -/
def lnToDeviceSync
    (id : Nat)
    (node : LocationNode) :
    SyncAction Unit := do
  let store ← get
  if store.syncing then
    pure ()
  else
    match node.device with
    | none =>
        match store.resolveFacilityForNode node with
        | none => pure ()
        | some facility =>
            lnDevSyncGuard do
              let dev ←
                orm (.createDevice (node.newDevice facility))
              modify fun store => store.linkNode id dev
    | some dev =>
        match store.devices.get? dev with
        | none => throw .doesNotExist
        | some device =>
            let dirty := dirtyFields device.shared node.shared
            if dirty = [] then
              pure ()
            else
              lnDevSyncGuard do
                let _ ←
                  orm
                    (.saveDevice dev
                      (device.write dirty node.shared)
                      (some dirty))
                pure ()

/- `_ln_to_device_delete`. -/
def lnToDeviceDelete
    (node : LocationNode) :
    SyncAction Unit := do
  let store ← get
  if store.syncing then
    pure ()
  else
    match node.device with
    | none => pure ()
    | some dev =>
        lnDevSyncGuard <| Action.ignoring .protectedError do
          let _ ← orm (.deleteDevice dev)
          pure ()

/- `_device_to_ln_sync`. -/
def deviceToLnSync
    (id : Nat)
    (device : DeviceRow)
    (created : Bool) :
    SyncAction Unit := do
  let store ← get
  if store.syncing then
    pure ()
  else if device.deviceType ≠ .loc then
    pure ()
  else
    match store.nodeOf id with
    | none =>
        if created then
          lnDevSyncGuard do
            let _ ← orm (.createNode (device.newNode id))
            pure ()
        else
          pure ()
    | some nodeId =>
        match store.nodes.get? nodeId with
        | none => pure ()
        | some node =>
            let dirty := dirtyFields node.shared device.shared
            if dirty = [] then
              pure ()
            else
              lnDevSyncGuard do
                let _ ←
                  orm
                    (.saveNode nodeId
                      (node.write dirty device.shared)
                      (some dirty))
                pure ()

/- `_device_to_ln_delete`. -/
def deviceToLnDelete
    (id : Nat)
    (device : DeviceRow) :
    SyncAction Unit := do
  let store ← get
  if store.syncing then
    pure ()
  else if device.deviceType ≠ .loc then
    pure ()
  else
    match store.nodeOf id with
    | none => pure ()
    | some nodeId =>
        lnDevSyncGuard <| Action.ignoring .protectedError do
          let _ ← orm (.deleteNode nodeId)
          pure ()

/-
  A call with its signals: `post_save` and `post_delete`
  behind the write, `pre_delete` of a device before it.
-/
def handleCall : OrmCall → SyncAction Nat
  | .createNode node => do
      let id ← insertNode node
      lnToDeviceSync orm id node
      pure id
  | .saveNode id node updateFields => do
      updateNode id node updateFields
      lnToDeviceSync orm id node
      pure id
  | .deleteNode id => do
      let node ← loadNode id
      modify fun store => store.eraseNode id
      lnToDeviceDelete orm node
      pure id
  | .createDevice device => do
      let id ← insertDevice device
      deviceToLnSync orm id device true
      pure id
  | .saveDevice id device updateFields => do
      updateDevice id device updateFields
      deviceToLnSync orm id device false
      pure id
  | .deleteDevice id => do
      let device ← loadDevice id
      deviceToLnDelete orm id device
      modify fun store => store.eraseDevice id
      pure id

end Facilities

end Icmp2

------------------------------------------------------------
-- Operations
------------------------------------------------------------

namespace Icmp2

namespace Facilities

open Library

/- A call with the cascade of its signals. -/
def nodeCall : OrmCall → SyncAction Nat :=
  cascade (fun _ => throw .recursionError) handleCall 2

/-
  What is done to one object that was just loaded or made;
  devices are those of the type `loc`.  Readings and
  inspections come and go, and hold their rows.
-/
inductive NodeOp where
  | createNode (node : LocationNode)
  | saveNode (id : Nat) (node : LocationNode)
  | saveNodeFields
      (id : Nat)
      (fields : List SharedField)
      (shared : Shared)
  | deleteNode (id : Nat)
  | createDevice (device : DeviceRow)
  | saveDevice (id : Nat) (device : DeviceRow)
  | saveDeviceFields
      (id : Nat)
      (fields : List SharedField)
      (shared : Shared)
  | deleteDevice (id : Nat)
  | holdNode (id : Nat) (held : Bool)
  | holdDevice (id : Nat) (held : Bool)
  deriving DecidableEq, Repr

/- The call of the mapper that an operation makes. -/
def NodeOp.call?
    (store : NodeStore) :
    NodeOp → Option OrmCall
  | .createNode node => some (.createNode node)
  | .saveNode id node => some (.saveNode id node none)
  | .saveNodeFields id fields shared =>
      (store.nodes.get? id).map fun stored =>
        .saveNode id (stored.write fields shared)
          (some fields)
  | .deleteNode id => some (.deleteNode id)
  | .createDevice device =>
      some (.createDevice { device with deviceType := .loc })
  | .saveDevice id device =>
      some
        (.saveDevice id { device with deviceType := .loc }
          none)
  | .saveDeviceFields id fields shared =>
      ((store.devices.get? id).filter
        (·.deviceType = .loc)).map fun stored =>
          .saveDevice id (stored.write fields shared)
            (some fields)
  | .deleteDevice id => some (.deleteDevice id)
  | .holdNode _ _ => none
  | .holdDevice _ _ => none

/- The references that an operation adds or removes. -/
def NodeStore.hold
    (store : NodeStore) :
    NodeOp → NodeStore
  | .holdNode id held =>
      { store with
        nodeProtected :=
          Function.update store.nodeProtected id held }
  | .holdDevice id held =>
      { store with
        deviceProtected :=
          Function.update store.deviceProtected id held }
  | _ => store

def nodeStep
    (store : NodeStore)
    (op : NodeOp) :
    NodeStore :=
  match op.call? store with
  | some call => (nodeCall call).stateAfter store
  | none => store.hold op

/-
  Linked pairs agree, but for those that are exempt, and no
  device has two nodes.
-/
structure NodeStore.SyncedBut
    (exempt : Nat → Nat → Prop)
    (store : NodeStore) :
    Prop where
  agree :
    ∀ id dev node device,
      store.nodes.get? id = some node →
      node.device = some dev →
      store.devices.get? dev = some device →
      ¬ exempt id dev →
        node.shared = device.shared
  oneNode : store.nodes.UniqueBy LocationNode.device
  guardOff : store.syncing = false
  linked :
    ∀ id dev node,
      store.nodes.get? id = some node →
      node.device = some dev →
        ∃ device, store.devices.get? dev = some device
  namesFit :
    ∀ id node,
      store.nodes.get? id = some node →
        node.nodeName.length ≤ 100

/- Every linked pair agrees. -/
abbrev NodeStore.InSync
    (store : NodeStore) :
    Prop :=
  store.SyncedBut fun _ _ => False

/- What is seen of it: the mirror and the guard. -/
structure NodeStore.Mirrors
    (store : NodeStore) :
    Prop where
  agree :
    ∀ id dev node device,
      store.nodes.get? id = some node →
      node.device = some dev →
      store.devices.get? dev = some device →
        node.shared = device.shared
  oneNode : store.nodes.UniqueBy LocationNode.device
  guardOff : store.syncing = false

/-
  The step keeps the mirror, and the cascade of its signals
  ends: a greater depth and what lies at the bottom make no
  difference.
-/
def MirrorKept
    (store : NodeStore)
    (op : NodeOp) :
    Prop :=
  (nodeStep store op).Mirrors ∧
    ∀ call ∈ op.call? store,
      ∀ bottom extra,
        cascade bottom handleCall (extra + 2) call store =
          nodeCall call store

/-
  A device that is saved has at most 100 characters in its
  name, if it has a node and the database takes the save.
-/
def OrmCall.NameFits
    (store : NodeStore) :
    OrmCall → Prop
  | .saveDevice id device updateFields =>
      store.deviceUpdateFault? id device updateFields =
          none →
        store.nodeOf id ≠ none →
          device.deviceName.length ≤ 100
  | _ => True

def NameFits
    (store : NodeStore)
    (op : NodeOp) :
    Prop :=
  ∀ call ∈ op.call? store, call.NameFits store

end Facilities

end Icmp2
