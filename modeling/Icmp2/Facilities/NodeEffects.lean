import Icmp2.Facilities.NodeMirror

/-
  What a save and a deletion do to the table of nodes.

  Main definitions include:
    * `Icmp2.Facilities.SaveOutcome`
    * `Icmp2.Facilities.NodeStore.signalFault?`
    * `Icmp2.Facilities.NodeStore.saveOutcome`
    * `Icmp2.Facilities.NodeStore.Intact`

  Main theorems include:
    * `Icmp2.Facilities.nodeCall_saveNode`
    * `Icmp2.Facilities.nodeCall_deleteNode`
    * `Icmp2.Facilities.nodes_after_createNode`
    * `Icmp2.Facilities.nodes_after_createDevice`
    * `Icmp2.Facilities.nodes_after_saveDevice`
    * `Icmp2.Facilities.nodes_after_deleteDevice`
-/

------------------------------------------------------------
-- Outcomes
------------------------------------------------------------

namespace Icmp2

namespace Facilities

open Library

/-
  How a save ends: nothing is written; the row is, and then
  a receiver raises; or the row is stored.
-/
inductive SaveOutcome (Row : Type) where
  | refused
  | interrupted (row : Row)
  | stored (row : Row)
  deriving DecidableEq, Repr

/- The device that a save creates for an unlinked node. -/
def NodeStore.deviceFor?
    (store : NodeStore)
    (node : LocationNode) :
    Option DeviceRow :=
  match node.device with
  | some _ => none
  | none =>
      (store.resolveFacilityForNode node).map node.newDevice

/- What the database objects to in that device, if anything. -/
def NodeStore.signalFault?
    (store : NodeStore)
    (node : LocationNode) :
    Option SyncError :=
  (store.deviceFor? node).bind
    (store.deviceFault? store.devices.nextId)

/- The node once it has its device. -/
def NodeStore.afterSignal
    (store : NodeStore)
    (node : LocationNode) :
    LocationNode :=
  if (store.deviceFor? node).isSome then
    { node with device := some store.devices.nextId }
  else
    node

/- A row written to the table of nodes. -/
def NodeStore.putNode
    (store : NodeStore)
    (id : Nat)
    (node : LocationNode) :
    NodeStore :=
  { store with nodes := store.nodes.set id node }

/- A row stored in the table of nodes. -/
def NodeStore.addNode
    (store : NodeStore)
    (node : LocationNode) :
    NodeStore :=
  { store with nodes := store.nodes.insert node }

/- A row stored in the table of devices. -/
def NodeStore.addDevice
    (store : NodeStore)
    (device : DeviceRow) :
    NodeStore :=
  { store with devices := store.devices.insert device }

/- A row written to the table of devices. -/
def NodeStore.putDevice
    (store : NodeStore)
    (dev : Nat)
    (device : DeviceRow) :
    NodeStore :=
  { store with devices := store.devices.set dev device }

/- How the save of a node that is there ends. -/
def NodeStore.saveOutcome
    (store : NodeStore)
    (id : Nat)
    (node : LocationNode) :
    SaveOutcome LocationNode :=
  if (store.nodeFault? id node).isSome then
    .refused
  else if (store.signalFault? node).isSome then
    .interrupted node
  else
    .stored (store.afterSignal node)

/- The links of the tables, whatever the pairs contain. -/
abbrev NodeStore.Intact
    (store : NodeStore) :
    Prop :=
  store.SyncedBut fun _ _ => True

end Facilities

end Icmp2

------------------------------------------------------------
-- Saves
------------------------------------------------------------

namespace Icmp2

namespace Facilities

open Library

section Saves

variable {store : NodeStore}
variable {id dev : Nat}
variable {node : LocationNode}

theorem deviceFor?_of_linked
    (hLink : node.device = some dev) :
    store.deviceFor? node = none := by
  simp only [NodeStore.deviceFor?, hLink]

theorem deviceFor?_of_unlinked
    (store : NodeStore)
    (hLink : node.device = none) :
    store.deviceFor? node =
      (store.resolveFacilityForNode node).map
        node.newDevice := by
  simp only [NodeStore.deviceFor?, hLink]

/- A device that the database refuses stays unlinked. -/
theorem lnToDeviceSync_of_fault
    {error : SyncError}
    (hOff : store.syncing = false)
    (hFault : store.signalFault? node = some error) :
    ∃ later,
      lnToDeviceSync plainCall id node store =
          .error error later ∧
        later.nodes = store.nodes := by
  rcases Option.bind_eq_some_iff.mp hFault with
    ⟨device, hDevice, hRefused⟩
  cases hLink : node.device with
  | some dev =>
      rw [deviceFor?_of_linked hLink] at hDevice
      cases hDevice
  | none =>
      rw [deviceFor?_of_unlinked store hLink] at hDevice
      rcases plain_lnToDeviceSync_unlinked hOff hLink with
        ⟨hNone, _⟩ | ⟨facility, hFacility, hMade⟩
      · rw [hNone] at hDevice
        cases hDevice
      · rw [hFacility] at hDevice
        cases hDevice
        rw [hRefused] at hMade
        exact ⟨_, hMade, rfl⟩

/-
  `_ln_to_device_sync` of a stored node, where no device is
  refused: the node has its device behind it.
-/
theorem lnToDeviceSync_of_no_fault
    (hOff : store.syncing = false)
    (hGet : store.nodes.get? id = some node)
    (hName : node.nodeName.length ≤ 100)
    (hExists :
      ∀ dev ∈ node.device,
        ∃ device, store.devices.get? dev = some device)
    (hFault : store.signalFault? node = none) :
    ∃ later,
      lnToDeviceSync plainCall id node store =
          .ok () later ∧
        later.nodes =
          store.nodes.set id (store.afterSignal node) := by
  have hSame :
      store.nodes = store.nodes.set id node :=
    (Rows.set_eq_self hGet).symm
  cases hLink : node.device with
  | none =>
      have hFor := deviceFor?_of_unlinked store hLink
      rcases plain_lnToDeviceSync_unlinked hOff hLink with
        ⟨hNone, hKept⟩ | ⟨facility, hFacility, hMade⟩
      · rw [hNone] at hFor
        refine ⟨store, hKept, ?_⟩
        rw [NodeStore.afterSignal, hFor]
        exact hSame
      · rw [hFacility] at hFor
        have hTaken :
            store.deviceFault? store.devices.nextId
                (node.newDevice facility) =
              none := by
          rw [NodeStore.signalFault?, hFor] at hFault
          exact hFault
        rw [hTaken] at hMade
        refine ⟨_, hMade, ?_⟩
        rw [NodeStore.afterSignal, hFor]
        simp only [NodeStore.linkNode, hGet,
          NodeStore.setSyncing, Option.map_some,
          Option.isSome_some, if_true]
  | some dev =>
      have hKept : store.afterSignal node = node := by
        rw [NodeStore.afterSignal,
          deviceFor?_of_linked hLink]
        rfl
      rw [hKept]
      rcases hExists dev hLink with ⟨device, hDevice⟩
      rcases
        plain_lnToDeviceSync_linked hOff hLink hDevice
          hName with
        ⟨_, hClean⟩ | hWritten
      · exact ⟨store, hClean, hSame⟩
      · exact ⟨_, hWritten, hSame⟩

/- A save of a node ends as `saveOutcome` says. -/
theorem nodeCall_saveNode
    {stored : LocationNode}
    (hIntact : store.Intact)
    (hGet : store.nodes.get? id = some stored)
    (node : LocationNode) :
    match store.saveOutcome id node with
    | .refused =>
        ∃ error,
          nodeCall (.saveNode id node none) store =
            .error error store
    | .interrupted row =>
        ∃ error later,
          nodeCall (.saveNode id node none) store =
              .error error later ∧
            later.nodes = store.nodes.set id row
    | .stored row =>
        ∃ later,
          nodeCall (.saveNode id node none) store =
              .ok id later ∧
            later.nodes = store.nodes.set id row := by
  rw [nodeCall_eq, handleCall, NodeStore.saveOutcome]
  cases hFault : store.nodeFault? id node with
  | some error =>
      refine ⟨error, ?_⟩
      exact
        Action.bind_of_error (updateNode_of_some hGet hFault)
  | none =>
      rcases nodeFault?_eq_none hFault with
        ⟨hName, _, hExists⟩
      have hUpdate :
          updateNode id node none store =
            .ok () (store.putNode id node) :=
        updateNode_of_none hGet hFault
      have hOff : (store.putNode id node).syncing = false :=
        hIntact.guardOff
      rw [Action.bind_of_ok hUpdate]
      cases hSignal : store.signalFault? node with
      | some error =>
          have hRefused :
              (store.putNode id node).signalFault? node =
                some error :=
            hSignal
          rcases lnToDeviceSync_of_fault hOff hRefused with
            ⟨later, hRaised, hNodes⟩
          exact
            ⟨error, later, Action.bind_of_error hRaised,
              hNodes⟩
      | none =>
          have hTaken :
              (store.putNode id node).signalFault? node =
                none :=
            hSignal
          have hWritten :
              (store.putNode id node).nodes.get? id =
                some node :=
            Rows.get?_set_self hGet node
          rcases
            lnToDeviceSync_of_no_fault hOff hWritten hName
              hExists hTaken with
            ⟨later, hReturned, hNodes⟩
          refine ⟨later, ?_, ?_⟩
          · rw [Action.bind_of_ok hReturned]
            rfl
          · exact hNodes.trans (Rows.set_set ..)

end Saves

end Facilities

end Icmp2

------------------------------------------------------------
-- Deletions
------------------------------------------------------------

namespace Icmp2

namespace Facilities

open Library

section Deletions

variable {store : NodeStore}
variable {id dev : Nat}
variable {node : LocationNode}

theorem unlink_of_ne
    (hNe : node.device ≠ some dev) :
    node.unlink dev = node :=
  if_neg hNe

/- A device without nodes goes, and no node changes. -/
theorem nodes_eraseDevice
    (hNone :
      ∀ other row,
        store.nodes.get? other = some row →
          row.device ≠ some dev)
    (other : Nat) :
    (store.eraseDevice dev).nodes.get? other =
      store.nodes.get? other := by
  change (store.nodes.get? other).map _ = _
  cases hGet : store.nodes.get? other with
  | none => rfl
  | some row =>
      exact congrArg some (unlink_of_ne (hNone other row hGet))

/-
  `_ln_to_device_delete` of a node that is gone: its device
  goes or is protected, and no other node is its node.
-/
theorem lnToDeviceDelete_effect
    (hOff : store.syncing = false)
    (hAlone :
      ∀ dev ∈ node.device,
        ∀ other row,
          store.nodes.get? other = some row →
            row.device ≠ some dev)
    (hExists :
      ∀ dev ∈ node.device,
        ∃ device, store.devices.get? dev = some device) :
    ∃ later,
      lnToDeviceDelete plainCall node store =
          .ok () later ∧
        ∀ other,
          later.nodes.get? other =
            store.nodes.get? other := by
  cases hLink : node.device with
  | none =>
      exact
        ⟨store, lnToDeviceDelete_of_unlinked hOff hLink,
          fun _ => rfl⟩
  | some dev =>
      rcases hExists dev hLink with ⟨device, hDevice⟩
      rw [lnToDeviceDelete_of_linked hOff hLink,
        lnDevSyncGuard_eq
          (Action.Blind.ignoring _
            ((blind_plainCall true _).bind fun _ =>
              Action.Blind.returns _ ())),
        Action.ignoring]
      cases hHeld : store.deviceProtected dev with
      | true =>
          have hLoad :
              loadDevice dev store =
                .error .protectedError store := by
            simp only [loadDevice, hDevice, hHeld, if_true]
          have hKept :
              plainCall (.deleteDevice dev) store =
                .error .protectedError store :=
            Action.bind_of_error hLoad
          rw [Action.bind_of_error hKept]
          exact ⟨_, rfl, fun _ => rfl⟩
      | false =>
          have hLoad :
              loadDevice dev store = .ok device store :=
            loadDevice_eq_ok_iff.mpr ⟨hDevice, hHeld, rfl⟩
          have hErased :
              plainCall (.deleteDevice dev) store =
                .ok dev (store.eraseDevice dev) := by
            rw [plainCall, Action.bind_of_ok hLoad]
            rfl
          rw [Action.bind_of_ok hErased]
          exact
            ⟨_, rfl, nodes_eraseDevice (hAlone dev hLink)⟩

theorem nodeCall_deleteNode_held
    (hGet : store.nodes.get? id = some node)
    (hHeld : store.nodeProtected id = true) :
    nodeCall (.deleteNode id) store =
      .error .protectedError store := by
  have hLoad :
      loadNode id store = .error .protectedError store := by
    simp only [loadNode, hGet, hHeld, if_true]
  rw [nodeCall_eq, handleCall]
  exact Action.bind_of_error hLoad

/- A node that no reading holds goes, and only it. -/
theorem nodeCall_deleteNode
    (hIntact : store.Intact)
    (hGet : store.nodes.get? id = some node)
    (hFree : store.nodeProtected id = false) :
    ∃ later,
      nodeCall (.deleteNode id) store = .ok id later ∧
        ∀ other,
          later.nodes.get? other =
            (store.nodes.erase id).get? other := by
  have hLoad : loadNode id store = .ok node store :=
    loadNode_eq_ok_iff.mpr ⟨hGet, hFree, rfl⟩
  have hErased := hIntact.eraseNode id
  have hAlone :
      ∀ dev ∈ node.device,
        ∀ other row,
          (store.eraseNode id).nodes.get? other = some row →
            row.device ≠ some dev := by
    intro dev hLink other row hOther hTaken
    rcases Rows.get?_of_get?_erase hOther with
      ⟨hNe, hOld⟩
    exact
      hNe
        (hIntact.oneNode other id row node dev hOld hGet
          hTaken hLink)
  have hExists :
      ∀ dev ∈ node.device,
        ∃ device,
          (store.eraseNode id).devices.get? dev =
            some device := by
    intro dev hLink
    exact hIntact.linked id dev node hGet hLink
  rcases
    lnToDeviceDelete_effect hErased.guardOff hAlone
      hExists with
    ⟨later, hReturned, hNodes⟩
  refine ⟨later, ?_, hNodes⟩
  rw [nodeCall_eq, handleCall, Action.bind_of_ok hLoad,
    Action.modify_bind, Action.bind_of_ok hReturned]
  rfl

end Deletions

end Facilities

end Icmp2

------------------------------------------------------------
-- Nodes after Other Calls
------------------------------------------------------------

namespace Icmp2

namespace Facilities

open Library

section OtherCalls

variable {store : NodeStore}
variable {dev nodeId : Nat}
variable {node : LocationNode}
variable {device stored : DeviceRow}
variable {updateFields : Option (List SharedField)}

/- The link of a node apart, its signal writes nothing. -/
theorem afterSignal_eq_link
    (store : NodeStore)
    (node : LocationNode) :
    ∃ link,
      store.afterSignal node =
        { node with device := link } := by
  unfold NodeStore.afterSignal
  by_cases hSome : (store.deviceFor? node).isSome = true
  · rw [if_pos hSome]
    exact ⟨_, rfl⟩
  · rw [if_neg hSome]
    exact ⟨node.device, rfl⟩

/- A node that is taken is stored, and may get a device. -/
theorem nodes_after_createNode
    (hIntact : store.Intact)
    (node : LocationNode) :
    ((nodeCall (.createNode node)).stateAfter
          store).nodes =
        store.nodes ∨
      ∃ link,
        ((nodeCall (.createNode node)).stateAfter
            store).nodes =
          (store.nodes.insert node).set store.nodes.nextId
            { node with device := link } := by
  rw [Action.stateAfter_congr (nodeCall_eq ..), handleCall]
  cases hFault :
      store.nodeFault? store.nodes.nextId node with
  | some error =>
      left
      rw [Action.stateAfter_bind_of_error
        (insertNode_of_some hFault)]
  | none =>
      right
      rcases nodeFault?_eq_none hFault with
        ⟨hName, _, hExists⟩
      have hInsert :
          insertNode node store =
            .ok store.nodes.nextId (store.addNode node) :=
        insertNode_of_none hFault
      have hOff : (store.addNode node).syncing = false :=
        hIntact.guardOff
      have hNew :
          (store.addNode node).nodes.get?
              store.nodes.nextId =
            some node :=
        Rows.get?_insert_nextId ..
      rw [Action.stateAfter_bind_of_ok hInsert,
        Action.stateAfter_bind_pure]
      cases hSignal :
          (store.addNode node).signalFault? node with
      | some error =>
          rcases lnToDeviceSync_of_fault hOff hSignal with
            ⟨later, hRaised, hNodes⟩
          rw [Action.stateAfter_of_error hRaised, hNodes]
          exact ⟨node.device, (Rows.set_eq_self hNew).symm⟩
      | none =>
          rcases
            lnToDeviceSync_of_no_fault hOff hNew hName
              hExists hSignal with
            ⟨later, hReturned, hNodes⟩
          rcases
            afterSignal_eq_link (store.addNode node)
              node with
            ⟨link, hLink⟩
          rw [Action.stateAfter_of_ok hReturned, hNodes,
            hLink]
          exact ⟨link, rfl⟩

/- A new device may get a node that is not placed. -/
theorem nodes_after_createDevice
    (hIntact : store.Intact)
    (hType : device.deviceType = .loc) :
    ((nodeCall (.createDevice device)).stateAfter
          store).nodes =
        store.nodes ∨
      ((nodeCall (.createDevice device)).stateAfter
          store).nodes =
        store.nodes.insert
          (device.newNode store.devices.nextId) := by
  rw [Action.stateAfter_congr (nodeCall_eq ..), handleCall]
  cases hFault :
      store.deviceFault? store.devices.nextId device with
  | some error =>
      left
      rw [Action.stateAfter_bind_of_error
        (insertDevice_of_some hFault)]
  | none =>
      have hInsert :
          insertDevice device store =
            .ok store.devices.nextId
              (store.addDevice device) :=
        insertDevice_of_none hFault
      have hOff : (store.addDevice device).syncing = false :=
        hIntact.guardOff
      have hNone :
          (store.addDevice device).nodeOf
              store.devices.nextId =
            none :=
        hIntact.nodeOf_eq_none (Rows.get?_nextId _)
      rw [Action.stateAfter_bind_of_ok hInsert,
        Action.stateAfter_bind_pure]
      have hMade :=
        plain_deviceToLnSync_created hOff hType hNone
      cases hTaken :
          (store.addDevice device).nodeFault?
            (store.addDevice device).nodes.nextId
            (device.newNode store.devices.nextId) with
      | some error =>
          left
          rw [hTaken] at hMade
          rw [Action.stateAfter_of_error hMade]
          rfl
      | none =>
          right
          rw [hTaken] at hMade
          rw [Action.stateAfter_of_ok hMade]
          rfl

/- What a device that is saved leaves of its node. -/
def LocationNode.mirror
    (node : LocationNode)
    (shared : Shared) :
    LocationNode :=
  node.write (dirtyFields node.shared shared) shared

theorem nodes_after_deviceSync
    (hIntact : store.Intact)
    (hType : device.deviceType = .loc)
    (hFind : store.nodeOf dev = some nodeId)
    (hGet : store.nodes.get? nodeId = some node) :
    ((deviceToLnSync plainCall dev device
        false).stateAfter store).nodes =
      if device.deviceName.length ≤ 100 then
        store.nodes.set nodeId (node.mirror device.shared)
      else
        store.nodes := by
  have hName := hIntact.namesFit nodeId node hGet
  rcases
    plain_deviceToLnSync_linked hIntact.guardOff hType hFind
      hGet hName with
    ⟨hShared, hKept⟩ | ⟨hLong, hRefused⟩ |
      ⟨hShort, hWritten⟩
  · have hSame : node.mirror device.shared = node := by
      rw [LocationNode.mirror,
        (dirtyFields_eq_nil_iff _ _).mpr hShared]
      rfl
    rw [Action.stateAfter_of_ok hKept, hSame,
      Rows.set_eq_self hGet, ite_self]
  · rw [Action.stateAfter_of_error hRefused,
      if_neg (Nat.not_le_of_lt hLong)]
    rfl
  · rw [Action.stateAfter_of_ok hWritten, if_pos hShort]
    rfl

section DeviceSaves

variable
  (hIntact : store.Intact)
  (hSaved :
    ∀ stored,
      store.devices.get? dev = some stored →
        stored.saved device updateFields = device)

include hIntact hSaved

/- The node of a device that is saved, if the name fits it. -/
theorem nodes_after_saveDevice
    (hType : device.deviceType = .loc)
    (hFind : store.nodeOf dev = some nodeId)
    (hGet : store.nodes.get? nodeId = some node)
    (hFault :
      store.deviceUpdateFault? dev device updateFields =
        none) :
    ((nodeCall
        (.saveDevice dev device updateFields)).stateAfter
          store).nodes =
      if device.deviceName.length ≤ 100 then
        store.nodes.set nodeId (node.mirror device.shared)
      else
        store.nodes := by
  rcases nodeOf_eq_some hFind with ⟨row, hRow, hLink⟩
  rcases hIntact.linked nodeId dev row hRow hLink with
    ⟨stored, hStored⟩
  have hUpdate :
      updateDevice dev device updateFields store =
        .ok () (store.putDevice dev device) := by
    rw [updateDevice_of_none hStored hFault,
      hSaved stored hStored]
    rfl
  have hLater : (store.putDevice dev device).Intact := by
    have hSet := hIntact.setDevice dev device
    apply hSet.settle
    intro _ _ _ _ _ _ _ _ hNot
    exact absurd trivial hNot
  rw [Action.stateAfter_congr (nodeCall_eq ..), handleCall,
    Action.stateAfter_bind_of_ok hUpdate,
    Action.stateAfter_bind_pure]
  exact nodes_after_deviceSync hLater hType hFind hGet

/- A device without a node, or one that is refused. -/
theorem nodes_after_saveDevice_alone
    (hAlone :
      store.deviceUpdateFault? dev device updateFields =
          none →
        store.nodeOf dev = none) :
    ((nodeCall
        (.saveDevice dev device updateFields)).stateAfter
          store).nodes =
      store.nodes := by
  rw [Action.stateAfter_congr (nodeCall_eq ..), handleCall]
  cases hGet : store.devices.get? dev with
  | none =>
      rw [Action.stateAfter_bind_of_error
        (updateDevice_of_missing updateFields hGet)]
  | some stored =>
      cases hFault :
          store.deviceUpdateFault? dev device
            updateFields with
      | some error =>
          rw [Action.stateAfter_bind_of_error
            (updateDevice_of_some hGet hFault)]
      | none =>
          have hOff :
              (store.putDevice dev device).syncing =
                false :=
            hIntact.guardOff
          have hNone :
              (store.putDevice dev device).nodeOf dev =
                none :=
            hAlone hFault
          have hUpdate :
              updateDevice dev device updateFields store =
                .ok () (store.putDevice dev device) := by
            rw [updateDevice_of_none hGet hFault,
              hSaved stored hGet]
            rfl
          rw [Action.stateAfter_bind_of_ok hUpdate,
            Action.stateAfter_bind_pure,
            Action.stateAfter_of_ok
              (deviceToLnSync_of_unlinked hOff hNone)]
          rfl

end DeviceSaves

/- A deletion without signals leaves rows that were there. -/
theorem nodes_after_plainDelete
    (store : NodeStore)
    (nodeId : Nat)
    {id : Nat}
    {row : LocationNode}
    (hGet :
      ((plainCall (.deleteNode nodeId)).stateAfter
        store).nodes.get? id = some row) :
    store.nodes.get? id = some row := by
  rw [plainCall] at hGet
  cases hLoad : loadNode nodeId store with
  | error error later =>
      rw [Action.stateAfter_bind_of_error hLoad,
        loadNode_error hLoad] at hGet
      exact hGet
  | ok node later =>
      rw [Action.stateAfter_bind_of_ok hLoad,
        Action.stateAfter_bind_pure,
        (loadNode_eq_ok_iff.mp hLoad).2.2] at hGet
      exact (Rows.get?_of_get?_erase hGet).2

theorem nodes_before_deviceDelete
    (hOff : store.syncing = false)
    (dev : Nat)
    (device : DeviceRow)
    {id : Nat}
    {row : LocationNode}
    (hGet :
      ((deviceToLnDelete plainCall dev device).stateAfter
        store).nodes.get? id = some row) :
    store.nodes.get? id = some row := by
  by_cases hType : device.deviceType = .loc
  · cases hFind : store.nodeOf dev with
    | none =>
        rw [Action.stateAfter_of_ok
          (deviceToLnDelete_of_unlinked hOff hFind)] at hGet
        exact hGet
    | some nodeId =>
        rw [Action.stateAfter_congr
            (deviceToLnDelete_of_linked hOff hType hFind),
          stateAfter_guarded_call] at hGet
        exact nodes_after_plainDelete store nodeId hGet
  · rw [Action.stateAfter_of_ok
      (deviceToLnDelete_of_other_type hOff hType)] at hGet
    exact hGet

/- Every row behind the deletion of a device was there. -/
theorem nodes_after_deleteDevice
    (hOff : store.syncing = false)
    (dev : Nat)
    {id : Nat}
    {row : LocationNode}
    (hGet :
      ((nodeCall (.deleteDevice dev)).stateAfter
        store).nodes.get? id = some row) :
    ∃ old,
      store.nodes.get? id = some old ∧
        (row = old ∨ row = old.unlink dev) := by
  rw [Action.stateAfter_congr (nodeCall_eq ..),
    handleCall] at hGet
  cases hLoad : loadDevice dev store with
  | error error later =>
      rw [Action.stateAfter_bind_of_error hLoad,
        loadDevice_error hLoad] at hGet
      exact ⟨row, hGet, Or.inl rfl⟩
  | ok device later =>
      have hSame := (loadDevice_eq_ok_iff.mp hLoad).2.2
      subst hSame
      rw [Action.stateAfter_bind_of_ok hLoad] at hGet
      cases hSignal :
          deviceToLnDelete plainCall dev device later with
      | error error after =>
          rw [Action.stateAfter_bind_of_error
            hSignal] at hGet
          rw [← Action.stateAfter_of_error hSignal] at hGet
          exact
            ⟨row, nodes_before_deviceDelete hOff dev device
              hGet, Or.inl rfl⟩
      | ok _ after =>
          rw [Action.stateAfter_bind_of_ok hSignal,
            Action.stateAfter_bind_pure] at hGet
          rcases Option.map_eq_some_iff.mp hGet with
            ⟨old, hOld, hUnlinked⟩
          rw [← Action.stateAfter_of_ok hSignal] at hOld
          exact
            ⟨old, nodes_before_deviceDelete hOff dev device
              hOld, Or.inr hUnlinked.symm⟩

end OtherCalls

end Facilities

end Icmp2
