import Icmp2.Facilities.NodeGuard

/-
  What the signals between nodes and devices keep.

  Main definitions include:
    * `Icmp2.Facilities.NodeStore.initial`

  Main theorems include:
    * `Icmp2.Facilities.NodeStore.SyncedBut.afterNodeSave`
    * `Icmp2.Facilities.NodeStore.SyncedBut.afterDeviceSave`
    * `Icmp2.Facilities.NodeStore.SyncedBut.nodeStep`
    * `Icmp2.Facilities.mirror_kept_iff`

  A write leaves the pair of its row open, and the receiver
  of its signal closes it.
-/

------------------------------------------------------------
-- Writes
------------------------------------------------------------

namespace Icmp2

namespace Facilities

open Library

section Writes

variable {store later : NodeStore}
variable {exempt base : Nat → Nat → Prop}
variable {id dev nodeId : Nat}
variable {node : LocationNode}
variable {device : DeviceRow}

theorem NodeStore.SyncedBut.congr
    (hSynced : store.SyncedBut exempt)
    (hNodes : later.nodes = store.nodes)
    (hDevices : later.devices = store.devices)
    (hOff : later.syncing = false) :
    later.SyncedBut exempt := by
  rcases later with
    ⟨nodes, devices, nodeProtected, deviceProtected,
      facilityOfFloor, firstFacility, syncing⟩
  cases hNodes
  cases hDevices
  exact
    ⟨hSynced.agree, hSynced.oneNode, hOff, hSynced.linked,
      hSynced.namesFit⟩

/- Exempt pairs that agree are exempt no longer. -/
theorem NodeStore.SyncedBut.settle
    (hSynced : store.SyncedBut exempt)
    (hPairs :
      ∀ id dev node device,
        store.nodes.get? id = some node →
        node.device = some dev →
        store.devices.get? dev = some device →
        exempt id dev →
        ¬ base id dev →
          node.shared = device.shared) :
    store.SyncedBut base := by
  refine
    ⟨?_, hSynced.oneNode, hSynced.guardOff, hSynced.linked,
      hSynced.namesFit⟩
  intro id dev node device hNode hLink hDevice hNot
  by_cases hExempt : exempt id dev
  · exact hPairs id dev node device hNode hLink hDevice
      hExempt hNot
  · exact
      hSynced.agree id dev node device hNode hLink hDevice
        hExempt

/- A row is written for a node; its own pair is still open. -/
theorem NodeStore.SyncedBut.writtenNode
    {nodes : Rows LocationNode}
    (hSync : store.SyncedBut base)
    (hFits : node.nodeName.length ≤ 100)
    (hFree :
      store.nodes.Free LocationNode.device id node)
    (hExists :
      ∀ dev ∈ node.device,
        ∃ device, store.devices.get? dev = some device)
    (hRows :
      ∀ other row,
        nodes.get? other = some row →
          (other = id ∧ row = node) ∨
            (other ≠ id ∧
              store.nodes.get? other = some row)) :
    NodeStore.SyncedBut
      (fun other dev => other = id ∨ base other dev)
      { store with nodes := nodes } := by
  refine
    ⟨?_, hSync.oneNode.of_written hFree hRows,
      hSync.guardOff, ?_, ?_⟩
  · intro other dev row device hNode hLink hDevice hExempt
    rcases not_or.mp hExempt with ⟨hNe, hStill⟩
    rcases hRows other row hNode with
      ⟨hSame, _⟩ | ⟨_, hOld⟩
    · exact absurd hSame hNe
    · exact
        hSync.agree other dev row device hOld hLink hDevice
          hStill
  · intro other dev row hNode hLink
    rcases hRows other row hNode with
      ⟨_, rfl⟩ | ⟨_, hOld⟩
    · exact hExists dev hLink
    · exact hSync.linked other dev row hOld hLink
  · intro other row hNode
    rcases hRows other row hNode with
      ⟨_, rfl⟩ | ⟨_, hOld⟩
    · exact hFits
    · exact hSync.namesFit other row hOld

theorem NodeStore.SyncedBut.insertNode
    (hSync : store.SyncedBut base)
    (hFits : node.nodeName.length ≤ 100)
    (hFree :
      store.nodes.Free LocationNode.device
        store.nodes.nextId node)
    (hExists :
      ∀ dev ∈ node.device,
        ∃ device, store.devices.get? dev = some device) :
    NodeStore.SyncedBut
      (fun id dev => id = store.nodes.nextId ∨ base id dev)
      { store with nodes := store.nodes.insert node } := by
  apply hSync.writtenNode hFits hFree hExists
  intro other row hGet
  exact Rows.get?_of_get?_insert hGet

theorem NodeStore.SyncedBut.setNode
    (hSync : store.SyncedBut exempt)
    (hFits : node.nodeName.length ≤ 100)
    (hFree :
      store.nodes.Free LocationNode.device id node)
    (hExists :
      ∀ dev ∈ node.device,
        ∃ device, store.devices.get? dev = some device) :
    NodeStore.SyncedBut
      (fun other dev => other = id ∨ exempt other dev)
      { store with nodes := store.nodes.set id node } := by
  apply hSync.writtenNode hFits hFree hExists
  intro other row hGet
  exact Rows.get?_of_get?_set hGet

/- A new device has no node. -/
theorem NodeStore.SyncedBut.insertDevice
    (hSynced : store.SyncedBut exempt)
    (device : DeviceRow) :
    NodeStore.SyncedBut exempt
      { store with
        devices := store.devices.insert device } := by
  refine
    ⟨?_, hSynced.oneNode, hSynced.guardOff, ?_,
      hSynced.namesFit⟩
  · intro id dev row other hNode hLink hDevice hExempt
    rcases hSynced.linked id dev row hNode hLink with
      ⟨old, hOld⟩
    have hKept := Rows.get?_insert_of_get? hOld device
    have hSame : other = old :=
      Option.some.inj (hDevice.symm.trans hKept)
    rw [hSame]
    exact
      hSynced.agree id dev row old hNode hLink hOld hExempt
  · intro id dev row hNode hLink
    rcases hSynced.linked id dev row hNode hLink with
      ⟨old, hOld⟩
    exact ⟨old, Rows.get?_insert_of_get? hOld device⟩

/- A row is stored for a device; its pair is still open. -/
theorem NodeStore.SyncedBut.setDevice
    (hSynced : store.SyncedBut exempt)
    (dev : Nat)
    (device : DeviceRow) :
    NodeStore.SyncedBut
      (fun id other => other = dev ∨ exempt id other)
      { store with
        devices := store.devices.set dev device } := by
  refine
    ⟨?_, hSynced.oneNode, hSynced.guardOff, ?_,
      hSynced.namesFit⟩
  · intro id other row held hNode hLink hDevice hExempt
    rcases not_or.mp hExempt with ⟨hNe, hStill⟩
    change (store.devices.set dev device).get? other =
      some held at hDevice
    rw [Rows.get?_set_of_ne hNe] at hDevice
    exact
      hSynced.agree id other row held hNode hLink hDevice
        hStill
  · intro id other row hNode hLink
    rcases hSynced.linked id other row hNode hLink with
      ⟨old, hOld⟩
    by_cases hSame : other = dev
    · subst hSame
      exact ⟨device, Rows.get?_set_self hOld device⟩
    · exact
        ⟨old, (Rows.get?_set_of_ne hSame device).trans hOld⟩

theorem NodeStore.SyncedBut.eraseNode
    (hSynced : store.SyncedBut exempt)
    (id : Nat) :
    (store.eraseNode id).SyncedBut exempt := by
  refine
    ⟨?_, hSynced.oneNode.erase id, hSynced.guardOff, ?_,
      ?_⟩
  · intro other dev row device hNode hLink hDevice hExempt
    exact
      hSynced.agree other dev row device
        (Rows.get?_of_get?_erase hNode).2 hLink hDevice
        hExempt
  · intro other dev row hNode hLink
    exact
      hSynced.linked other dev row
        (Rows.get?_of_get?_erase hNode).2 hLink
  · intro other row hNode
    exact
      hSynced.namesFit other row
        (Rows.get?_of_get?_erase hNode).2

/- A node that is still linked was so before, elsewhere. -/
theorem LocationNode.device_unlink
    {other : Nat}
    (hLink : (node.unlink dev).device = some other) :
    node.device = some other ∧ other ≠ dev := by
  unfold LocationNode.unlink at hLink
  by_cases hSame : node.device = some dev
  · rw [if_pos hSame] at hLink
    cases hLink
  · rw [if_neg hSame] at hLink
    refine ⟨hLink, ?_⟩
    intro hEq
    rw [hEq] at hLink
    exact hSame hLink

theorem LocationNode.unlink_frame
    (dev : Nat)
    (node : LocationNode) :
    (node.unlink dev).shared = node.shared ∧
      (node.unlink dev).nodeName = node.nodeName := by
  unfold LocationNode.unlink
  by_cases hSame : node.device = some dev
  · rw [if_pos hSame]
    exact ⟨rfl, rfl⟩
  · rw [if_neg hSame]
    exact ⟨rfl, rfl⟩

theorem NodeStore.SyncedBut.eraseDevice
    (hSynced : store.SyncedBut exempt)
    (dev : Nat) :
    (store.eraseDevice dev).SyncedBut exempt := by
  refine ⟨?_, ?_, hSynced.guardOff, ?_, ?_⟩
  · intro id other row device hNode hLink hDevice hExempt
    rcases Option.map_eq_some_iff.mp hNode with
      ⟨old, hOld, rfl⟩
    rcases LocationNode.device_unlink hLink with
      ⟨hOldLink, _⟩
    rw [(old.unlink_frame dev).1]
    exact
      hSynced.agree id other old device hOld hOldLink
        (Rows.get?_of_get?_erase hDevice).2 hExempt
  · apply hSynced.oneNode.mapRows
    intro row value hLink
    exact (LocationNode.device_unlink hLink).1
  · intro id other row hNode hLink
    rcases Option.map_eq_some_iff.mp hNode with
      ⟨old, hOld, rfl⟩
    rcases LocationNode.device_unlink hLink with
      ⟨hOldLink, hNe⟩
    rcases hSynced.linked id other old hOld hOldLink with
      ⟨device, hDevice⟩
    exact
      ⟨device, (Rows.get?_erase_of_ne hNe _).trans hDevice⟩
  · intro id row hNode
    rcases Option.map_eq_some_iff.mp hNode with
      ⟨old, hOld, rfl⟩
    rw [(old.unlink_frame dev).2]
    exact hSynced.namesFit id old hOld

end Writes

end Facilities

end Icmp2

------------------------------------------------------------
-- Receivers
------------------------------------------------------------

namespace Icmp2

namespace Facilities

open Library

section Carried

variable {store : NodeStore}
variable {base : Nat → Nat → Prop}
variable {id dev nodeId : Nat}
variable {node : LocationNode}
variable {device : DeviceRow}

theorem nodeFault?_eq_none
    (hNone : store.nodeFault? id node = none) :
    node.nodeName.length ≤ 100 ∧
      store.nodes.Free LocationNode.device id node ∧
      ∀ dev ∈ node.device,
        ∃ device,
          store.devices.get? dev = some device := by
  unfold NodeStore.nodeFault? at hNone
  split_ifs at hNone with hFits hAccepts
  refine ⟨hFits.1, hAccepts.2.1, ?_⟩
  intro dev hMem
  exact
    Option.isSome_iff_exists.mp (hAccepts.2.2 dev hMem)

/- A node without a device gets one, or stays without. -/
theorem NodeStore.SyncedBut.linkNew
    (hSynced :
      store.SyncedBut fun other otherDev =>
        other = id ∨ base other otherDev)
    (hGet : store.nodes.get? id = some node)
    (hShared : device.shared = node.shared) :
    NodeStore.SyncedBut base
      (NodeStore.linkNode
        { store with
          devices := store.devices.insert device }
        id store.devices.nextId) := by
  have hInserted := hSynced.insertDevice device
  have hFree :
      store.nodes.Free LocationNode.device id
        { node with
          device := some store.devices.nextId } := by
    intro other _ hNe value hMem hTaken
    cases hMem
    rcases Option.bind_eq_some_iff.mp hTaken with
      ⟨row, hRow, hLink⟩
    rcases hSynced.linked other _ row hRow hLink with
      ⟨old, hOld⟩
    rw [Rows.get?_nextId] at hOld
    cases hOld
  have hNew :
      (store.devices.insert device).get?
          store.devices.nextId =
        some device :=
    Rows.get?_insert_nextId ..
  have hExists :
      ∀ dev ∈ some store.devices.nextId,
        ∃ held,
          (store.devices.insert device).get? dev =
            some held := by
    intro dev hMem
    cases hMem
    exact ⟨device, hNew⟩
  have hName :
      (LocationNode.nodeName
        { node with
          device := some store.devices.nextId }).length ≤
        100 :=
    hSynced.namesFit id node hGet
  have hSet := hInserted.setNode hName hFree hExists
  have hLinked :
      NodeStore.linkNode
          { store with
            devices := store.devices.insert device }
          id store.devices.nextId =
        { store with
          devices := store.devices.insert device
          nodes :=
            store.nodes.set id
              { node with
                device := some store.devices.nextId } } := by
    simp only [NodeStore.linkNode, hGet]
  rw [hLinked]
  apply hSet.settle
  intro other dev row held hNode hLink hDevice hExempt hNot
  have hSame : other = id := by
    rcases hExempt with hId | hId | hBase
    · exact hId
    · exact hId
    · exact absurd hBase hNot
  subst hSame
  have hRow :=
    Option.some.inj
      (hNode.symm.trans (Rows.get?_set_self hGet _))
  subst hRow
  cases hLink
  have hHeld := Option.some.inj (hDevice.symm.trans hNew)
  rw [hHeld, hShared]
  rfl

/- The device of a node takes over what the node has. -/
theorem NodeStore.SyncedBut.mirrorDevice
    (hSynced :
      store.SyncedBut fun other otherDev =>
        other = id ∨ base other otherDev)
    (hGet : store.nodes.get? id = some node)
    (hLink : node.device = some dev)
    (hShared : device.shared = node.shared) :
    NodeStore.SyncedBut base
      { store with
        devices := store.devices.set dev device } := by
  apply (hSynced.setDevice dev device).settle
  intro other otherDev row held hNode hRowLink hHeld hExempt
    hNot
  rcases hSynced.linked id dev node hGet hLink with
    ⟨old, hOld⟩
  have hPair : other = id ∧ otherDev = dev := by
    rcases hExempt with rfl | rfl | hBase
    · exact
        ⟨hSynced.oneNode other id row node otherDev hNode
            hGet hRowLink hLink,
          rfl⟩
    · have hRow := Option.some.inj (hNode.symm.trans hGet)
      rw [hRow, hLink] at hRowLink
      exact ⟨rfl, (Option.some.inj hRowLink).symm⟩
    · exact absurd hBase hNot
  rcases hPair with ⟨rfl, rfl⟩
  have hRow := Option.some.inj (hNode.symm.trans hGet)
  have hDevice :=
    Option.some.inj
      (hHeld.symm.trans (Rows.get?_set_self hOld device))
  rw [hRow, hDevice, hShared]

/- The node of a device takes over what the device has. -/
theorem NodeStore.SyncedBut.mirrorNode
    {row : LocationNode}
    (hSynced :
      store.SyncedBut fun other otherDev =>
        otherDev = dev ∨ base other otherDev)
    (hGet : store.nodes.get? nodeId = some node)
    (hLink : node.device = some dev)
    (hDevice : store.devices.get? dev = some device)
    (hFits : row.nodeName.length ≤ 100)
    (hRow : row.device = node.device)
    (hShared : row.shared = device.shared) :
    NodeStore.SyncedBut base
      { store with
        nodes := store.nodes.set nodeId row } := by
  have hFree :
      store.nodes.Free LocationNode.device nodeId row :=
    hSynced.oneNode.free_of_key_eq hGet hRow
  have hSet :=
    hSynced.setNode hFits hFree
      (by
        intro other hMem
        rw [hRow, hLink] at hMem
        cases hMem
        exact ⟨device, hDevice⟩)
  apply hSet.settle
  intro other otherDev otherRow held hNode hOther hHeld
    hExempt hNot
  rcases Rows.get?_of_get?_set hNode with
    ⟨rfl, rfl⟩ | ⟨hNe, hOld⟩
  · rw [hRow, hLink] at hOther
    cases hOther
    rw [hShared, Option.some.inj (hHeld.symm.trans hDevice)]
  · rcases hExempt with hSame | rfl | hBase
    · exact absurd hSame hNe
    · exact
        absurd
          (hSynced.oneNode other nodeId otherRow node
            otherDev hOld hGet hOther hLink)
          hNe
    · exact absurd hBase hNot

/- The deletions without signals. -/
theorem NodeStore.SyncedBut.plainDeleteNode
    (hSync : store.SyncedBut base)
    (id : Nat) :
    ((plainCall (.deleteNode id)).stateAfter
      store).SyncedBut base := by
  rw [plainCall]
  cases hLoad : loadNode id store with
  | error error later =>
      have hSame := loadNode_error hLoad
      rw [Action.stateAfter_bind_of_error hLoad, hSame]
      exact hSync
  | ok node later =>
      have hSame := (loadNode_eq_ok_iff.mp hLoad).2.2
      rw [Action.stateAfter_bind_of_ok hLoad,
        Action.stateAfter_bind_pure, hSame]
      exact hSync.eraseNode id

theorem NodeStore.SyncedBut.plainDeleteDevice
    (hSync : store.SyncedBut base)
    (id : Nat) :
    ((plainCall (.deleteDevice id)).stateAfter
      store).SyncedBut base := by
  rw [plainCall]
  cases hLoad : loadDevice id store with
  | error error later =>
      have hSame := loadDevice_error hLoad
      rw [Action.stateAfter_bind_of_error hLoad, hSame]
      exact hSync
  | ok device later =>
      have hSame := (loadDevice_eq_ok_iff.mp hLoad).2.2
      rw [Action.stateAfter_bind_of_ok hLoad,
        Action.stateAfter_bind_pure, hSame]
      exact hSync.eraseDevice id

theorem NodeStore.SyncedBut.guardLeft
    (hSync : store.SyncedBut base) :
    (store.setSyncing false).SyncedBut base :=
  hSync.congr rfl rfl rfl

/- `_ln_to_device_sync` closes the pair of its node. -/
theorem NodeStore.SyncedBut.afterNodeSave
    (hSynced :
      store.SyncedBut fun other otherDev =>
        other = id ∨ base other otherDev)
    (hGet : store.nodes.get? id = some node) :
    ((lnToDeviceSync plainCall id node).stateAfter
      store).SyncedBut base := by
  have hOff := hSynced.guardOff
  have hName := hSynced.namesFit id node hGet
  cases hLink : node.device with
  | none =>
      have hSync : store.SyncedBut base := by
        apply hSynced.settle
        intro other dev row device hNode hRow _ hExempt hNot
        have hSame := hExempt.resolve_right hNot
        subst hSame
        rw [Option.some.inj (hNode.symm.trans hGet),
          hLink] at hRow
        cases hRow
      rcases plain_lnToDeviceSync_unlinked hOff hLink with
        ⟨_, hKept⟩ | ⟨facility, _, hMade⟩
      · rw [Action.stateAfter_of_ok hKept]
        exact hSync
      · cases hFault :
            store.deviceFault? store.devices.nextId
              (node.newDevice facility) with
        | some error =>
            rw [hFault] at hMade
            rw [Action.stateAfter_of_error hMade]
            exact hSync.guardLeft
        | none =>
            rw [hFault] at hMade
            rw [Action.stateAfter_of_ok hMade]
            exact (hSynced.linkNew hGet rfl).guardLeft
  | some dev =>
      rcases hSynced.linked id dev node hGet hLink with
        ⟨device, hDevice⟩
      rcases
        plain_lnToDeviceSync_linked hOff hLink hDevice
          hName with
        ⟨hShared, hKept⟩ | hWritten
      · rw [Action.stateAfter_of_ok hKept]
        apply hSynced.settle
        intro other otherDev row held hNode hRow hHeld
          hExempt hNot
        have hId := hExempt.resolve_right hNot
        subst hId
        have hSame :=
          Option.some.inj (hNode.symm.trans hGet)
        rw [hSame, hLink] at hRow
        cases hRow
        rw [hSame,
          Option.some.inj (hHeld.symm.trans hDevice)]
        exact hShared.symm
      · rw [Action.stateAfter_of_ok hWritten]
        apply guardLeft
        exact
          hSynced.mirrorDevice hGet hLink
            (device.shared_write_dirty node.shared)

/- `_ln_to_device_delete` keeps the other pairs. -/
theorem NodeStore.SyncedBut.afterNodeDelete
    (hSync : store.SyncedBut base)
    (node : LocationNode) :
    ((lnToDeviceDelete plainCall node).stateAfter
      store).SyncedBut base := by
  have hOff := hSync.guardOff
  cases hLink : node.device with
  | none =>
      rw [Action.stateAfter_of_ok
        (lnToDeviceDelete_of_unlinked hOff hLink)]
      exact hSync
  | some dev =>
      rw [Action.stateAfter_congr
          (lnToDeviceDelete_of_linked hOff hLink),
        stateAfter_guarded_call]
      apply guardLeft
      exact hSync.plainDeleteDevice dev

theorem nodeOf_eq_some
    (hFind : store.nodeOf dev = some nodeId) :
    ∃ node,
      store.nodes.get? nodeId = some node ∧
        node.device = some dev := by
  rcases Rows.find?_eq_some hFind with ⟨node, hGet, hLink⟩
  exact ⟨node, hGet, of_decide_eq_true hLink⟩

theorem nodeOf_eq_none
    (hNone : store.nodeOf dev = none)
    (hGet : store.nodes.get? nodeId = some node) :
    node.device ≠ some dev :=
  of_decide_eq_false
    ((Rows.find?_eq_none_iff _ _).mp hNone nodeId node hGet)

/- A pair that is still open is that of the first node. -/
theorem NodeStore.SyncedBut.closePair
    (hSynced :
      store.SyncedBut fun other otherDev =>
        otherDev = dev ∨ base other otherDev)
    (hGet : store.nodes.get? nodeId = some node)
    (hLink : node.device = some dev)
    (hDevice : store.devices.get? dev = some device)
    (hShared : node.shared = device.shared) :
    store.SyncedBut base := by
  apply hSynced.settle
  intro other otherDev row held hNode hRow hHeld hExempt
    hNot
  have hDev := hExempt.resolve_right hNot
  subst hDev
  have hSame :=
    hSynced.oneNode other nodeId row node otherDev hNode
      hGet hRow hLink
  subst hSame
  rw [Option.some.inj (hNode.symm.trans hGet),
    Option.some.inj (hHeld.symm.trans hDevice)]
  exact hShared

/- `_device_to_ln_sync` of a device that was there. -/
theorem NodeStore.SyncedBut.afterDeviceSave
    (hSynced :
      store.SyncedBut fun other otherDev =>
        otherDev = dev ∨ base other otherDev)
    (hDevice : store.devices.get? dev = some device)
    (hType : device.deviceType = .loc)
    (hFits :
      (store.nodeOf dev ≠ none →
          device.deviceName.length ≤ 100) ∨
        ∀ id, base id dev) :
    ((deviceToLnSync plainCall dev device
      false).stateAfter store).SyncedBut base := by
  have hOff := hSynced.guardOff
  cases hFind : store.nodeOf dev with
  | none =>
      rw [Action.stateAfter_of_ok
        (deviceToLnSync_of_unlinked hOff hFind)]
      apply hSynced.settle
      intro other otherDev row held hNode hRow _ hExempt
        hNot
      have hDev := hExempt.resolve_right hNot
      subst hDev
      exact absurd hRow (nodeOf_eq_none hFind hNode)
  | some nodeId =>
      rcases nodeOf_eq_some hFind with ⟨node, hGet, hLink⟩
      have hName := hSynced.namesFit nodeId node hGet
      rcases
        plain_deviceToLnSync_linked hOff hType hFind hGet
          hName with
        ⟨hShared, hKept⟩ | ⟨hLong, hRefused⟩ |
          ⟨hShort, hWritten⟩
      · rw [Action.stateAfter_of_ok hKept]
        exact hSynced.closePair hGet hLink hDevice hShared
      · -- The node keeps its name; the pair stays exempt.
        have hBase : ∀ id, base id dev := by
          apply hFits.resolve_left
          intro hAny
          have hLe := hAny (by
            rw [hFind]
            exact Option.some_ne_none nodeId)
          omega
        rw [Action.stateAfter_of_error hRefused]
        apply guardLeft
        apply hSynced.settle
        intro other otherDev row held _ _ _ hExempt hNot
        have hDev := hExempt.resolve_right hNot
        rw [hDev] at hNot
        exact absurd (hBase other) hNot
      · have hShared :=
          node.shared_write_dirty device.shared
        rw [Action.stateAfter_of_ok hWritten]
        apply guardLeft
        refine
          hSynced.mirrorNode hGet hLink hDevice ?_ rfl
            hShared
        have hSameName :=
          congrArg (fun shared => shared.name.length)
            hShared
        exact hSameName.le.trans hShort

/-
  With a longer name the node is not saved, and the pair
  differs.
-/
theorem NodeStore.SyncedBut.afterLongSave
    (hSynced :
      store.SyncedBut fun other otherDev =>
        otherDev = dev ∨ base other otherDev)
    (hDevice : store.devices.get? dev = some device)
    (hType : device.deviceType = .loc)
    (hFind : store.nodeOf dev = some nodeId)
    (hLong : 100 < device.deviceName.length) :
    ¬ ((deviceToLnSync plainCall dev device
      false).stateAfter store).Mirrors := by
  rcases nodeOf_eq_some hFind with ⟨node, hGet, hLink⟩
  have hName := hSynced.namesFit nodeId node hGet
  have hDiffer : node.shared ≠ device.shared := by
    intro hSame
    exact
      name_ne_of_longName hName hLong
        (congrArg Shared.name hSame)
  rcases
    plain_deviceToLnSync_linked hSynced.guardOff hType hFind
      hGet hName with
    ⟨hShared, _⟩ | ⟨_, hRefused⟩ | ⟨hShort, _⟩
  · exact absurd hShared hDiffer
  · rw [Action.stateAfter_of_error hRefused]
    intro hMirrors
    exact
      hDiffer
        (hMirrors.agree nodeId dev node device hGet hLink
          hDevice)
  · omega

/- No node is linked to a device that is not there. -/
theorem NodeStore.SyncedBut.nodeOf_eq_none
    (hSync : store.SyncedBut base)
    (hNew : store.devices.get? dev = none) :
    store.nodeOf dev = none := by
  apply (Rows.find?_eq_none_iff _ _).mpr
  intro id row hGet
  apply decide_eq_false
  intro hLink
  rcases hSync.linked id dev row hGet hLink with
    ⟨held, hHeld⟩
  rw [hNew] at hHeld
  cases hHeld

/- `_device_to_ln_sync` of a device that is new. -/
theorem NodeStore.SyncedBut.afterDeviceCreate
    (hSync : store.SyncedBut base)
    (hNew : store.devices.get? dev = none)
    (hOld : dev = store.devices.nextId)
    (hType : device.deviceType = .loc) :
    ((deviceToLnSync plainCall dev device
      true).stateAfter
        { store with
          devices :=
            store.devices.insert device }).SyncedBut
      base := by
  have hInserted := hSync.insertDevice device
  have hOff := hInserted.guardOff
  have hNone :
      NodeStore.nodeOf
          { store with
            devices := store.devices.insert device }
          dev =
        none :=
    hSync.nodeOf_eq_none hNew
  have hDevice :
      (store.devices.insert device).get? dev =
        some device := by
    rw [hOld]
    exact Rows.get?_insert_nextId ..
  have hMade :=
    plain_deviceToLnSync_created hOff hType hNone
  cases hFault :
      NodeStore.nodeFault?
        { store with
          devices := store.devices.insert device }
        store.nodes.nextId (device.newNode dev) with
  | some error =>
      rw [hFault] at hMade
      rw [Action.stateAfter_of_error hMade]
      exact hInserted.guardLeft
  | none =>
      rw [hFault] at hMade
      rw [Action.stateAfter_of_ok hMade]
      apply guardLeft
      rcases nodeFault?_eq_none hFault with
        ⟨hFits, hFree, hExists⟩
      have hNode :=
        NodeStore.SyncedBut.insertNode hInserted hFits
          hFree hExists
      apply hNode.settle
      intro id other row held hGet hLink hHeld hExempt hNot
      have hId := hExempt.resolve_right hNot
      subst hId
      have hRow :=
        Option.some.inj
          (hGet.symm.trans (Rows.get?_insert_nextId ..))
      subst hRow
      cases hLink
      have hSame :=
        Option.some.inj (hHeld.symm.trans hDevice)
      rw [hSame, LocationNode.shared, DeviceRow.shared]
      exact
        congrArg (Shared.mk device.deviceName device.floor)
          (active_statusOfActive device.isActive)

/- `_device_to_ln_delete` keeps the other pairs. -/
theorem NodeStore.SyncedBut.beforeDeviceDelete
    (hSync : store.SyncedBut base)
    (dev : Nat)
    (device : DeviceRow) :
    ((deviceToLnDelete plainCall dev device).stateAfter
      store).SyncedBut base := by
  have hOff := hSync.guardOff
  by_cases hType : device.deviceType = .loc
  · cases hFind : store.nodeOf dev with
    | none =>
        rw [Action.stateAfter_of_ok
          (deviceToLnDelete_of_unlinked hOff hFind)]
        exact hSync
    | some nodeId =>
        rw [Action.stateAfter_congr
            (deviceToLnDelete_of_linked hOff hType hFind),
          stateAfter_guarded_call]
        apply guardLeft
        exact hSync.plainDeleteNode nodeId
  · rw [Action.stateAfter_of_ok
      (deviceToLnDelete_of_other_type hOff hType)]
    exact hSync

end Carried

end Facilities

end Icmp2

------------------------------------------------------------
-- Steps
------------------------------------------------------------

namespace Icmp2

namespace Facilities

open Library

section Steps

variable {store : NodeStore}
variable {base : Nat → Nat → Prop}
variable {id dev : Nat}
variable {node : LocationNode}
variable {device : DeviceRow}
variable {updateFields : Option (List SharedField)}

theorem NodeStore.SyncedBut.mirrors
    (hSync : store.InSync) :
    store.Mirrors := by
  refine ⟨?_, hSync.oneNode, hSync.guardOff⟩
  intro id dev node device hNode hLink hDevice
  exact
    hSync.agree id dev node device hNode hLink hDevice
      not_false

/- What the database takes keeps names and links in order. -/
theorem NodeStore.SyncedBut.accepted
    {stored : LocationNode}
    (hSync : store.SyncedBut base)
    (hGet : store.nodes.get? id = some stored)
    (hSaved : stored.saved node updateFields = node)
    (hNone :
      store.nodeUpdateFault? id node updateFields =
        none) :
    node.nodeName.length ≤ 100 ∧
      store.nodes.Free LocationNode.device id node ∧
      ∀ dev ∈ node.device,
        ∃ device,
          store.devices.get? dev = some device := by
  cases updateFields with
  | none => exact nodeFault?_eq_none hNone
  | some fields =>
      have hLink : node.device = stored.device := by
        rw [← hSaved]
        rfl
      refine
        ⟨?_, hSync.oneNode.free_of_key_eq hGet hLink, ?_⟩
      · by_cases hMem : SharedField.name ∈ fields
        · by_contra hLong
          have hFault :
              fieldsFault? 100 fields node.shared =
                some .dataError :=
            if_pos ⟨hMem, Nat.lt_of_not_le hLong⟩
          rw [NodeStore.nodeUpdateFault?, hFault] at hNone
          cases hNone
        · have hName : node.nodeName = stored.nodeName := by
            rw [← hSaved]
            exact if_neg hMem
          rw [hName]
          exact hSync.namesFit id stored hGet
      · intro dev hMem
        rw [hLink] at hMem
        exact hSync.linked id dev stored hGet hMem

theorem NodeStore.SyncedBut.createNode
    (hSync : store.SyncedBut base)
    (node : LocationNode) :
    ((nodeCall (.createNode node)).stateAfter
      store).SyncedBut base := by
  rw [Action.stateAfter_congr (nodeCall_eq ..), handleCall]
  cases hFault :
      store.nodeFault? store.nodes.nextId node with
  | some error =>
      rw [Action.stateAfter_bind_of_error
        (insertNode_of_some hFault)]
      exact hSync
  | none =>
      rcases nodeFault?_eq_none hFault with
        ⟨hFits, hFree, hExists⟩
      rw [Action.stateAfter_bind_of_ok
          (insertNode_of_none hFault),
        Action.stateAfter_bind_pure]
      have hInserted :=
        NodeStore.SyncedBut.insertNode hSync hFits hFree
          hExists
      exact
        hInserted.afterNodeSave
          (Rows.get?_insert_nextId ..)

theorem NodeStore.SyncedBut.saveNode
    (hSync : store.SyncedBut base)
    (hSaved :
      ∀ stored,
        store.nodes.get? id = some stored →
          stored.saved node updateFields = node) :
    ((nodeCall (.saveNode id node updateFields)).stateAfter
      store).SyncedBut base := by
  rw [Action.stateAfter_congr (nodeCall_eq ..), handleCall]
  cases hGet : store.nodes.get? id with
  | none =>
      rw [Action.stateAfter_bind_of_error
        (updateNode_of_missing updateFields hGet)]
      exact hSync
  | some stored =>
      cases hFault :
          store.nodeUpdateFault? id node updateFields with
      | some error =>
          rw [Action.stateAfter_bind_of_error
            (updateNode_of_some hGet hFault)]
          exact hSync
      | none =>
          have hSame := hSaved stored hGet
          rcases hSync.accepted hGet hSame hFault with
            ⟨hFits, hFree, hExists⟩
          rw [Action.stateAfter_bind_of_ok
              (updateNode_of_none hGet hFault),
            Action.stateAfter_bind_pure, hSame]
          exact
            (hSync.setNode hFits hFree
              hExists).afterNodeSave
                (Rows.get?_set_self hGet _)

theorem NodeStore.SyncedBut.deleteNode
    (hSync : store.SyncedBut base)
    (id : Nat) :
    ((nodeCall (.deleteNode id)).stateAfter
      store).SyncedBut base := by
  rw [Action.stateAfter_congr (nodeCall_eq ..), handleCall]
  cases hLoad : loadNode id store with
  | error error later =>
      rw [Action.stateAfter_bind_of_error hLoad,
        loadNode_error hLoad]
      exact hSync
  | ok node later =>
      have hSame := (loadNode_eq_ok_iff.mp hLoad).2.2
      have hWrite :
          (modify fun store => store.eraseNode id :
              SyncAction Unit) later =
            .ok () (later.eraseNode id) :=
        rfl
      rw [Action.stateAfter_bind_of_ok hLoad,
        Action.stateAfter_bind_of_ok hWrite,
        Action.stateAfter_bind_pure, hSame]
      exact
        NodeStore.SyncedBut.afterNodeDelete
          (hSync.eraseNode id) node

theorem NodeStore.SyncedBut.createDevice
    (hSync : store.SyncedBut base)
    (hType : device.deviceType = .loc) :
    ((nodeCall (.createDevice device)).stateAfter
      store).SyncedBut base := by
  rw [Action.stateAfter_congr (nodeCall_eq ..), handleCall]
  cases hFault :
      store.deviceFault? store.devices.nextId device with
  | some error =>
      rw [Action.stateAfter_bind_of_error
        (insertDevice_of_some hFault)]
      exact hSync
  | none =>
      rw [Action.stateAfter_bind_of_ok
          (insertDevice_of_none hFault),
        Action.stateAfter_bind_pure]
      exact
        hSync.afterDeviceCreate (Rows.get?_nextId _) rfl
          hType

section Saves

variable
  (hSync : store.SyncedBut base)
  (hType : device.deviceType = .loc)
  (hSaved :
    ∀ stored,
      store.devices.get? dev = some stored →
        stored.saved device updateFields = device)

include hSync hType hSaved

theorem NodeStore.SyncedBut.saveDevice
    (hFits :
      (OrmCall.saveDevice dev device updateFields).NameFits
          store ∨
        ∀ id dev, base id dev) :
    ((nodeCall
      (.saveDevice dev device updateFields)).stateAfter
        store).SyncedBut base := by
  rw [Action.stateAfter_congr (nodeCall_eq ..), handleCall]
  cases hGet : store.devices.get? dev with
  | none =>
      rw [Action.stateAfter_bind_of_error
        (updateDevice_of_missing updateFields hGet)]
      exact hSync
  | some stored =>
      cases hFault :
          store.deviceUpdateFault? dev device
            updateFields with
      | some error =>
          rw [Action.stateAfter_bind_of_error
            (updateDevice_of_some hGet hFault)]
          exact hSync
      | none =>
          rw [Action.stateAfter_bind_of_ok
              (updateDevice_of_none hGet hFault),
            Action.stateAfter_bind_pure,
            hSaved stored hGet]
          exact
            (hSync.setDevice dev device).afterDeviceSave
              (Rows.get?_set_self hGet device) hType
              (hFits.imp (fun hName => hName hFault)
                fun hAny id => hAny id dev)

/- A long name that is taken for a linked device splits. -/
theorem NodeStore.SyncedBut.nameFits_of_mirrors
    (hMirrors :
      ((nodeCall
        (.saveDevice dev device updateFields)).stateAfter
          store).Mirrors) :
    (OrmCall.saveDevice dev device updateFields).NameFits
      store := by
  intro hFault hFind
  by_contra hLong
  rcases Option.ne_none_iff_exists'.mp hFind with
    ⟨nodeId, hNode⟩
  rcases nodeOf_eq_some hNode with ⟨node, hGet, hLink⟩
  rcases hSync.linked nodeId dev node hGet hLink with
    ⟨stored, hStored⟩
  rw [Action.stateAfter_congr (nodeCall_eq ..), handleCall,
    Action.stateAfter_bind_of_ok
      (updateDevice_of_none hStored hFault),
    Action.stateAfter_bind_pure,
    hSaved stored hStored] at hMirrors
  exact
    (hSync.setDevice dev device).afterLongSave
      (Rows.get?_set_self hStored device) hType hNode
      (Nat.lt_of_not_le hLong) hMirrors

end Saves

theorem NodeStore.SyncedBut.deleteDevice
    (hSync : store.SyncedBut base)
    (dev : Nat) :
    ((nodeCall (.deleteDevice dev)).stateAfter
      store).SyncedBut base := by
  rw [Action.stateAfter_congr (nodeCall_eq ..), handleCall]
  cases hLoad : loadDevice dev store with
  | error error later =>
      rw [Action.stateAfter_bind_of_error hLoad,
        loadDevice_error hLoad]
      exact hSync
  | ok device later =>
      have hSame := (loadDevice_eq_ok_iff.mp hLoad).2.2
      subst hSame
      have hBefore :=
        hSync.beforeDeviceDelete dev device
      rw [Action.stateAfter_bind_of_ok hLoad]
      cases hSignal :
          deviceToLnDelete plainCall dev device later with
      | error error after =>
          rw [Action.stateAfter_of_error hSignal] at hBefore
          rw [Action.stateAfter_bind_of_error hSignal]
          exact hBefore
      | ok _ after =>
          rw [Action.stateAfter_of_ok hSignal] at hBefore
          rw [Action.stateAfter_bind_of_ok hSignal,
            Action.stateAfter_bind_pure]
          exact hBefore.eraseDevice dev

theorem saveDeviceFields_call
    {fields : List SharedField}
    {shared : Shared}
    {call : OrmCall}
    (hCall :
      (NodeOp.saveDeviceFields id fields shared).call?
        store = some call) :
    ∃ stored,
      store.devices.get? id = some stored ∧
        (stored.write fields shared).deviceType = .loc ∧
        call =
          .saveDevice id (stored.write fields shared)
            (some fields) := by
  rcases Option.map_eq_some_iff.mp hCall with
    ⟨stored, hStored, rfl⟩
  rcases Option.filter_eq_some_iff.mp hStored with
    ⟨hGet, hType⟩
  exact ⟨stored, hGet, of_decide_eq_true hType, rfl⟩

theorem nodeStep_of_call
    {op : NodeOp}
    {call : OrmCall}
    (hCall : op.call? store = some call) :
    nodeStep store op =
      (nodeCall call).stateAfter store := by
  simp only [nodeStep, hCall]

/-
  Where the names fit, every operation keeps the pairs; and
  it keeps the links of the tables in any case.
-/
theorem NodeStore.SyncedBut.nodeStep
    (hSync : store.SyncedBut base)
    {op : NodeOp}
    (hFits :
      NameFits store op ∨ ∀ id dev, base id dev) :
    (nodeStep store op).SyncedBut base := by
  cases op with
  | createNode node => exact hSync.createNode node
  | saveNode id node =>
      rw [nodeStep_of_call rfl]
      apply hSync.saveNode
      intro stored _
      rfl
  | saveNodeFields id fields shared =>
      cases hGet : store.nodes.get? id with
      | none =>
          have hNone :
              (NodeOp.saveNodeFields id fields
                shared).call? store = none := by
            simp only [NodeOp.call?, hGet, Option.map_none]
          simp only [Facilities.nodeStep, hNone]
          exact hSync
      | some stored =>
          have hCall :
              (NodeOp.saveNodeFields id fields
                shared).call? store =
                some
                  (.saveNode id (stored.write fields shared)
                    (some fields)) := by
            simp only [NodeOp.call?, hGet, Option.map_some]
          rw [nodeStep_of_call hCall]
          apply hSync.saveNode
          intro other hOther
          rw [Option.some.inj (hOther.symm.trans hGet)]
          exact stored.saved_write fields shared
  | deleteNode id => exact hSync.deleteNode id
  | createDevice device => exact hSync.createDevice rfl
  | saveDevice id device =>
      rw [nodeStep_of_call rfl]
      apply hSync.saveDevice rfl
      · intro stored _
        rfl
      · exact hFits.imp_left fun hName => hName _ rfl
  | saveDeviceFields id fields shared =>
      cases hCall :
          (NodeOp.saveDeviceFields id fields shared).call?
            store with
      | none =>
          simp only [Facilities.nodeStep, hCall]
          exact hSync
      | some call =>
          rcases saveDeviceFields_call hCall with
            ⟨stored, hGet, hType, rfl⟩
          rw [nodeStep_of_call hCall]
          apply hSync.saveDevice hType
          · intro other hOther
            rw [Option.some.inj (hOther.symm.trans hGet)]
            exact stored.saved_write fields shared
          · exact hFits.imp_left fun hName => hName _ hCall
  | deleteDevice id => exact hSync.deleteDevice id
  | holdNode id held =>
      exact hSync.congr rfl rfl hSync.guardOff
  | holdDevice id held =>
      exact hSync.congr rfl rfl hSync.guardOff

/- Where the mirror is kept, the names fit. -/
theorem NodeStore.SyncedBut.nameFits
    (hSync : store.InSync)
    {op : NodeOp}
    (hMirrors : (Facilities.nodeStep store op).Mirrors) :
    NameFits store op := by
  intro call hCall
  rw [nodeStep_of_call hCall] at hMirrors
  cases op with
  | createNode node =>
      cases hCall
      trivial
  | saveNode id node =>
      cases hCall
      trivial
  | saveNodeFields id fields shared =>
      rcases Option.map_eq_some_iff.mp hCall with
        ⟨stored, _, rfl⟩
      trivial
  | deleteNode id =>
      cases hCall
      trivial
  | createDevice device =>
      cases hCall
      trivial
  | saveDevice id device =>
      cases hCall
      apply hSync.nameFits_of_mirrors rfl _ hMirrors
      intro stored _
      rfl
  | saveDeviceFields id fields shared =>
      rcases saveDeviceFields_call hCall with
        ⟨stored, hGet, hType, rfl⟩
      apply hSync.nameFits_of_mirrors hType _ hMirrors
      intro other hOther
      rw [Option.some.inj (hOther.symm.trans hGet)]
      exact stored.saved_write fields shared
  | deleteDevice id =>
      cases hCall
      trivial
  | holdNode id held => cases hCall
  | holdDevice id held => cases hCall

theorem mirrorKept_iff
    (hSync : store.InSync)
    (op : NodeOp) :
    MirrorKept store op ↔ NameFits store op := by
  constructor
  · intro hKept
    exact hSync.nameFits hKept.1
  · intro hFits
    refine ⟨(hSync.nodeStep (Or.inl hFits)).mirrors, ?_⟩
    intro call _ bottom extra
    exact cascade_eq_nodeCall bottom extra call store

/-
  Every step of a run keeps the mirror, with a guard that is
  off and a cascade that ends, exactly if every name that is
  saved for a device with a node fits the column of the
  node.
-/
theorem mirror_kept_iff
    (hStart : store.InSync)
    (ops : List NodeOp) :
    Along Facilities.nodeStep MirrorKept store ops ↔
      Along Facilities.nodeStep NameFits store ops := by
  symm
  apply
    along_iff_of_invariant
      (I := fun store : NodeStore => store.InSync)
      _ _ hStart ops
  · intro state op hSync
    exact (mirrorKept_iff hSync op).symm
  · intro state op hSync hFits
    exact hSync.nodeStep (Or.inl hFits)

end Steps

/- The tables without rows. -/
def NodeStore.initial
    (facilityOfFloor : Nat → Option Nat)
    (firstFacility : Option Nat) :
    NodeStore where
  nodes := .empty
  devices := .empty
  nodeProtected := fun _ => false
  deviceProtected := fun _ => false
  facilityOfFloor := facilityOfFloor
  firstFacility := firstFacility
  syncing := false

theorem inSync_initial
    (facilityOfFloor : Nat → Option Nat)
    (firstFacility : Option Nat) :
    (NodeStore.initial facilityOfFloor
      firstFacility).InSync where
  agree := by
    intro id dev node device hNode
    cases hNode
  oneNode := Rows.UniqueBy.empty
  guardOff := rfl
  linked := by
    intro id dev node hNode
    cases hNode
  namesFit := by
    intro id node hNode
    cases hNode

/- A node at the gate, and the device that it gets. -/
def gateNode : LocationNode where
  floor := none
  zone := none
  nodeName := "Gate"
  nodeCode := "LOC-1"
  x := none
  y := none
  z := some (.finite 0)
  status := .active
  isPlaced := false
  device := none

def gateDevice : DeviceRow :=
  gateNode.newDevice 1

def gateStore : NodeStore :=
  nodeStep (.initial (fun _ => none) (some 1))
    (.createNode gateNode)

theorem inSync_gateStore :
    gateStore.InSync := by
  rw [gateStore, nodeStep_of_call rfl]
  exact (inSync_initial _ _).createNode gateNode

/- The device is renamed, and its node with it. -/
theorem mirror_kept_renamed :
    Along nodeStep MirrorKept gateStore
        [.saveDevice 0
          { gateDevice with deviceName := "East gate" }] ∧
      ((nodeStep gateStore
          (.saveDevice 0
            { gateDevice with
              deviceName := "East gate" })).nodes.get?
          0).map LocationNode.nodeName =
        some "East gate" := by
  refine ⟨?_, by decide +kernel⟩
  apply (mirror_kept_iff inSync_gateStore _).mpr
  refine ⟨?_, trivial⟩
  intro call hCall
  cases hCall
  intro _ _
  decide +kernel

/- A name of 101 characters. -/
def longName : String :=
  String.ofList (List.replicate 101 'a')

def longNamedDevice : DeviceRow :=
  { gateDevice with deviceName := longName }

/-
  The device takes the long name; its node raises an error
  and keeps the old one.
-/
theorem long_name_splits_pair :
    ¬ MirrorKept gateStore
        (.saveDevice 0 longNamedDevice) ∧
      ¬ (nodeStep gateStore
        (.saveDevice 0 longNamedDevice)).Mirrors := by
  have hLong : longName.length = 101 :=
    String.length_ofList.trans List.length_replicate
  have hColumns : longNamedDevice.Fits := by
    refine ⟨?_, by decide +kernel, by decide +kernel⟩
    change longName.length ≤ 200
    omega
  have hFree :
      gateStore.devices.Free
        (fun row => some row.deviceUid) 0
        longNamedDevice := by
    decide +kernel
  have hTaken :
      gateStore.deviceUpdateFault? 0 longNamedDevice
        none = none := by
    rw [NodeStore.deviceUpdateFault?,
      NodeStore.deviceFault?,
      if_neg (not_not.mpr hColumns),
      if_neg (not_not.mpr hFree)]
  have hLinked : gateStore.nodeOf 0 ≠ none := by
    decide +kernel
  have hSplit :
      ¬ (nodeStep gateStore
        (.saveDevice 0 longNamedDevice)).Mirrors := by
    intro hMirrors
    have hFits := inSync_gateStore.nameFits hMirrors
    have hCall :
        OrmCall.NameFits gateStore
          (.saveDevice 0 longNamedDevice none) :=
      hFits _ rfl
    have hLength : longName.length ≤ 100 :=
      hCall hTaken hLinked
    omega
  exact ⟨fun hKept => hSplit hKept.1, hSplit⟩

end Facilities

end Icmp2
