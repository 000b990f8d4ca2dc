import Icmp2.Facilities.NodeEffects

/-
  What the save of one node takes from the others.

  Main definitions include:
    * `Icmp2.Facilities.NodeStore.UidTaken`
    * `Icmp2.Facilities.NodeStore.Keyed`
    * `Icmp2.Facilities.NodeStore.AgreesAt`

  Main theorems include:
    * `Icmp2.Facilities.NodeStore.Keyed.saveNode`
    * `Icmp2.Facilities.NodeStore.Keyed.agreesAt_saveNode`
    * `Icmp2.Facilities.nodeFault?_congr`
    * `Icmp2.Facilities.signalFault?_congr`

  A node that keeps its code is refused for its own row or
  for a device that has its code.  The saves of the other
  nodes change neither.
-/

------------------------------------------------------------
-- Uids
------------------------------------------------------------

namespace Icmp2

namespace Facilities

open Library

/- Some device has the uid. -/
def NodeStore.UidTaken
    (store : NodeStore)
    (uid : String) :
    Prop :=
  ∃ dev device,
    store.devices.get? dev = some device ∧
      device.deviceUid = uid

section Uids

variable {store later : NodeStore}
variable {id dev : Nat}
variable {node : LocationNode}
variable {device row : DeviceRow}
variable {uid : String}

theorem uidTaken_insert_iff
    (hDevices :
      later.devices = store.devices.insert device) :
    later.UidTaken uid ↔
      device.deviceUid = uid ∨ store.UidTaken uid := by
  unfold NodeStore.UidTaken
  rw [hDevices]
  constructor
  · rintro ⟨dev, row, hGet, hUid⟩
    rcases Rows.get?_of_get?_insert hGet with
      ⟨-, rfl⟩ | ⟨-, hOld⟩
    · exact Or.inl hUid
    · exact Or.inr ⟨dev, row, hOld, hUid⟩
  · rintro (hUid | ⟨dev, row, hGet, hUid⟩)
    · exact ⟨_, device, Rows.get?_insert_nextId .., hUid⟩
    · exact
        ⟨dev, row, Rows.get?_insert_of_get? hGet _, hUid⟩

/- The shared columns of a device are not its uid. -/
theorem uidTaken_set_iff
    (hGet : store.devices.get? dev = some row)
    (hUid : device.deviceUid = row.deviceUid)
    (hDevices :
      later.devices = store.devices.set dev device) :
    later.UidTaken uid ↔ store.UidTaken uid := by
  unfold NodeStore.UidTaken
  rw [hDevices]
  constructor
  · rintro ⟨other, found, hFound, hSame⟩
    rcases Rows.get?_of_get?_set hFound with
      ⟨-, rfl⟩ | ⟨-, hOld⟩
    · exact ⟨dev, row, hGet, hUid ▸ hSame⟩
    · exact ⟨other, found, hOld, hSame⟩
  · rintro ⟨other, found, hFound, hSame⟩
    by_cases hOther : other = dev
    · subst hOther
      rw [hGet] at hFound
      cases hFound
      exact
        ⟨other, device, Rows.get?_set_self hGet _,
          hUid.trans hSame⟩
    · exact
        ⟨other, found,
          (Rows.get?_set_of_ne hOther _).trans hFound,
          hSame⟩

@[simp] theorem devices_linkNode
    (store : NodeStore)
    (id dev : Nat) :
    (store.linkNode id dev).devices = store.devices := by
  unfold NodeStore.linkNode
  split
  · rfl
  · rfl

/- The facilities of a store, by floor and the first. -/
def NodeStore.facilities
    (store : NodeStore) :
    (Nat → Option Nat) × Option Nat :=
  (store.facilityOfFloor, store.firstFacility)

@[simp] theorem facilities_linkNode
    (store : NodeStore)
    (id dev : Nat) :
    (store.linkNode id dev).facilities =
      store.facilities := by
  unfold NodeStore.linkNode
  split
  · rfl
  · rfl

/- The tables differ in no facility and one uid at most. -/
structure NodeStore.KeepsUids
    (store : NodeStore)
    (code : String)
    (later : NodeStore) :
    Prop where
  facilities : later.facilities = store.facilities
  uids :
    ∀ uid,
      uid ≠ code →
        (later.UidTaken uid ↔ store.UidTaken uid)

theorem NodeStore.KeepsUids.refl
    (store : NodeStore)
    (code : String) :
    store.KeepsUids code store :=
  ⟨rfl, fun _ _ => Iff.rfl⟩

/- The signal of a node makes a device with its code. -/
theorem keepsUids_lnToDeviceSync
    (hOff : store.syncing = false)
    (hName : node.nodeName.length ≤ 100)
    (hExists :
      ∀ dev ∈ node.device,
        ∃ device, store.devices.get? dev = some device) :
    store.KeepsUids node.nodeCode
      ((lnToDeviceSync plainCall id node).stateAfter
        store) := by
  cases hLink : node.device with
  | none =>
      rcases plain_lnToDeviceSync_unlinked hOff hLink with
        ⟨-, hKept⟩ | ⟨facility, -, hMade⟩
      · rw [Action.stateAfter_of_ok hKept]
        exact .refl _ _
      · cases hFault :
            store.deviceFault? store.devices.nextId
              (node.newDevice facility) with
        | some error =>
            rw [hFault] at hMade
            rw [Action.stateAfter_of_error hMade]
            exact ⟨rfl, fun _ _ => Iff.rfl⟩
        | none =>
            rw [hFault] at hMade
            rw [Action.stateAfter_of_ok hMade]
            refine ⟨?_, fun uid hNe => ?_⟩
            · exact facilities_linkNode _ _ _
            · refine
                (uidTaken_insert_iff
                  (devices_linkNode _ _ _)).trans ?_
              exact or_iff_right (Ne.symm hNe)
  | some dev =>
      rcases hExists dev hLink with ⟨device, hDevice⟩
      rcases
        plain_lnToDeviceSync_linked hOff hLink hDevice
          hName with
        ⟨-, hClean⟩ | hWritten
      · rw [Action.stateAfter_of_ok hClean]
        exact .refl _ _
      · have hUid :
            (device.write
                (dirtyFields device.shared node.shared)
                node.shared).deviceUid =
              device.deviceUid :=
          rfl
        rw [Action.stateAfter_of_ok hWritten]
        exact
          ⟨rfl, fun uid _ =>
            uidTaken_set_iff hDevice hUid rfl⟩

end Uids

end Facilities

end Icmp2

------------------------------------------------------------
-- Saves
------------------------------------------------------------

namespace Icmp2

namespace Facilities

open Library

/- The constraints on the tables of nodes and devices. -/
structure NodeStore.Keyed
    (store : NodeStore) :
    Prop where
  intact : store.Intact
  codes :
    store.nodes.UniqueBy fun node => some node.nodeCode

/-
  Two stores agree on what the save of a node reads, if the
  node keeps its code: its row, the facilities, and whether
  its code is taken among the devices.
-/
structure NodeStore.AgreesAt
    (id : Nat)
    (store later : NodeStore) :
    Prop where
  node : later.nodes.get? id = store.nodes.get? id
  facilities : later.facilities = store.facilities
  uid :
    ∀ row ∈ store.nodes.get? id,
      (later.UidTaken row.nodeCode ↔
        store.UidTaken row.nodeCode)

theorem NodeStore.AgreesAt.refl
    (id : Nat)
    (store : NodeStore) :
    store.AgreesAt id store :=
  ⟨rfl, rfl, fun _ _ => Iff.rfl⟩

section Saves

variable {store middle later : NodeStore}
variable {id other : Nat}
variable {stored node : LocationNode}

theorem NodeStore.AgreesAt.trans
    (hFirst : store.AgreesAt id middle)
    (hSecond : middle.AgreesAt id later) :
    store.AgreesAt id later := by
  refine
    ⟨hSecond.node.trans hFirst.node,
      hSecond.facilities.trans hFirst.facilities, ?_⟩
  intro row hRow
  have hMiddle : row ∈ middle.nodes.get? id := by
    rw [hFirst.node]
    exact hRow
  exact (hSecond.uid row hMiddle).trans (hFirst.uid row hRow)

theorem nodeFault?_eq_none_iff :
    store.nodeFault? id node = none ↔
      node.Fits ∧ store.AcceptsNode id node := by
  unfold NodeStore.nodeFault?
  by_cases hFits : node.Fits
  · by_cases hAccepts : store.AcceptsNode id node
    · simp [hFits, hAccepts]
    · simp [hFits, hAccepts]
  · simp [hFits]

/- What a save writes that the database takes. -/
theorem saveNode_written
    (hKeyed : store.Keyed)
    (hGet : store.nodes.get? id = some stored)
    (hFault : store.nodeFault? id node = none) :
    ∃ row,
      ((nodeCall (.saveNode id node none)).stateAfter
            store).nodes =
          store.nodes.set id row ∧
        row.nodeCode = node.nodeCode ∧
          store.KeepsUids node.nodeCode
            ((nodeCall (.saveNode id node none)).stateAfter
              store) := by
  rcases nodeFault?_eq_none hFault with
    ⟨hName, -, hExists⟩
  have hUids :
      store.KeepsUids node.nodeCode
        ((nodeCall (.saveNode id node none)).stateAfter
          store) := by
    have hUpdate :
        updateNode id node none store =
          .ok () (store.putNode id node) :=
      updateNode_of_none hGet hFault
    rw [Action.stateAfter_congr (nodeCall_eq ..), handleCall,
      Action.stateAfter_bind_of_ok hUpdate,
      Action.stateAfter_bind_pure]
    have hSync :
        (store.putNode id node).KeepsUids node.nodeCode
          ((lnToDeviceSync plainCall id node).stateAfter
            (store.putNode id node)) :=
      keepsUids_lnToDeviceSync hKeyed.intact.guardOff hName
        hExists
    exact ⟨hSync.facilities, hSync.uids⟩
  have hEffect := nodeCall_saveNode hKeyed.intact hGet node
  rw [NodeStore.saveOutcome, hFault] at hEffect
  by_cases hSignal : (store.signalFault? node).isSome = true
  · simp only [Option.isSome_none, Bool.false_eq_true,
      if_false, hSignal, if_true] at hEffect
    rcases hEffect with ⟨error, later, hCall, hNodes⟩
    rw [Action.stateAfter_of_error hCall] at hUids ⊢
    exact ⟨node, hNodes, rfl, hUids⟩
  · simp only [Option.isSome_none, Bool.false_eq_true,
      if_false, hSignal] at hEffect
    rcases hEffect with ⟨later, hCall, hNodes⟩
    rcases afterSignal_eq_link store node with ⟨link, hLink⟩
    rw [Action.stateAfter_of_ok hCall] at hUids ⊢
    exact ⟨_, hNodes, by rw [hLink], hUids⟩

/- A save that the database does not take writes nothing. -/
theorem saveNode_refused
    (hKeyed : store.Keyed)
    (hGet : store.nodes.get? id = some stored)
    (hFault : store.nodeFault? id node ≠ none) :
    (nodeCall (.saveNode id node none)).stateAfter store =
      store := by
  have hSome := Option.isSome_iff_ne_none.mpr hFault
  have hEffect := nodeCall_saveNode hKeyed.intact hGet node
  rw [NodeStore.saveOutcome, if_pos hSome] at hEffect
  rcases hEffect with ⟨error, hCall⟩
  exact Action.stateAfter_of_error hCall

theorem saveNode_missing
    (hGet : store.nodes.get? id = none) :
    (nodeCall (.saveNode id node none)).stateAfter store =
      store := by
  rw [Action.stateAfter_congr (nodeCall_eq ..), handleCall,
    Action.stateAfter_bind_of_error
      (updateNode_of_missing none hGet)]

/- The save of a node keeps the constraints. -/
theorem NodeStore.Keyed.saveNode
    (hKeyed : store.Keyed)
    (id : Nat)
    (node : LocationNode) :
    NodeStore.Keyed
      ((nodeCall (.saveNode id node none)).stateAfter
        store) := by
  refine ⟨hKeyed.intact.saveNode fun _ _ => rfl, ?_⟩
  cases hGet : store.nodes.get? id with
  | none =>
      rw [saveNode_missing hGet]
      exact hKeyed.codes
  | some stored =>
      by_cases hFault : store.nodeFault? id node = none
      · rcases saveNode_written hKeyed hGet hFault with
          ⟨row, hNodes, hCode, -⟩
        rw [hNodes]
        refine hKeyed.codes.set ?_
        have hFree := (nodeFault?_eq_none_iff.mp hFault).2.1
        intro other hOther hNe value hValue
        refine hFree other hOther hNe value ?_
        exact (congrArg some hCode).symm.trans hValue
      · rw [saveNode_refused hKeyed hGet hFault]
        exact hKeyed.codes

/- The save of a node leaves what the others read. -/
theorem NodeStore.Keyed.agreesAt_saveNode
    (hKeyed : store.Keyed)
    (hOther : other ≠ id)
    (node : LocationNode) :
    store.AgreesAt other
      ((nodeCall (.saveNode id node none)).stateAfter
        store) := by
  cases hGet : store.nodes.get? id with
  | none =>
      rw [saveNode_missing hGet]
      exact .refl _ _
  | some stored =>
      by_cases hFault : store.nodeFault? id node = none
      · rcases saveNode_written hKeyed hGet hFault with
          ⟨row, hNodes, -, hUids⟩
        refine ⟨?_, hUids.facilities, ?_⟩
        · rw [hNodes]
          exact Rows.get?_set_of_ne hOther row
        · intro found hFound
          refine hUids.uids found.nodeCode ?_
          have hFree :=
            (nodeFault?_eq_none_iff.mp hFault).2.1
          intro hSame
          exact
            hOther (hFree.eq_id hFound rfl
              (congrArg some hSame))
      · rw [saveNode_refused hKeyed hGet hFault]
        exact .refl _ _

/- Two good tables take the same row of a node that stays. -/
theorem nodeFault?_congr
    (hKeyed : store.Keyed)
    (hLater : later.Keyed)
    (hAgrees : store.AgreesAt id later)
    (hGet : store.nodes.get? id = some stored)
    (hCode : node.nodeCode = stored.nodeCode)
    (hLink : node.device = stored.device) :
    store.nodeFault? id node = none ↔
      later.nodeFault? id node = none := by
  have hAccepts :
      ∀ tables : NodeStore,
        tables.Keyed →
          tables.nodes.get? id = some stored →
            tables.AcceptsNode id node := by
    intro tables hTables hStored
    refine
      ⟨hTables.codes.free_of_key_eq hStored
          (congrArg some hCode),
        hTables.intact.oneNode.free_of_key_eq hStored hLink,
        ?_⟩
    intro dev hDev
    rcases
      hTables.intact.linked id dev stored hStored
        (hLink ▸ hDev) with ⟨device, hDevice⟩
    rw [hDevice]
    rfl
  rw [nodeFault?_eq_none_iff, nodeFault?_eq_none_iff]
  refine and_congr_right fun _ => ?_
  exact
    iff_of_true (hAccepts store hKeyed hGet)
      (hAccepts later hLater (hAgrees.node.trans hGet))

/- A device is taken where its uid is free. -/
theorem deviceFault?_new_iff
    (store : NodeStore)
    (device : DeviceRow) :
    store.deviceFault? store.devices.nextId device = none ↔
      device.Fits ∧ ¬store.UidTaken device.deviceUid := by
  have hFree :
      store.devices.Free (fun row => some row.deviceUid)
          store.devices.nextId device ↔
        ¬store.UidTaken device.deviceUid := by
    rw [Rows.free_nextId_iff, NodeStore.UidTaken]
    simp only [not_exists, not_and, ne_eq]
  rw [← hFree]
  unfold NodeStore.deviceFault?
  by_cases hFits : device.Fits
  · simp [hFits]
  · simp [hFits]

/- The signal of a node that stays ends alike in both. -/
theorem signalFault?_congr
    (hAgrees : store.AgreesAt id later)
    (hGet : store.nodes.get? id = some stored)
    (hCode : node.nodeCode = stored.nodeCode) :
    store.signalFault? node = none ↔
      later.signalFault? node = none := by
  have hFor : later.deviceFor? node = store.deviceFor? node := by
    have hFacilities := hAgrees.facilities
    rw [NodeStore.facilities, NodeStore.facilities,
      Prod.mk.injEq] at hFacilities
    unfold NodeStore.deviceFor?
      NodeStore.resolveFacilityForNode
    rw [hFacilities.1, hFacilities.2]
  have hUid := hAgrees.uid stored hGet
  rw [← hCode] at hUid
  unfold NodeStore.signalFault?
  rw [hFor]
  cases hDevice : store.deviceFor? node with
  | none => exact Iff.rfl
  | some device =>
      have hNamed : device.deviceUid = node.nodeCode := by
        unfold NodeStore.deviceFor? at hDevice
        split at hDevice
        · cases hDevice
        · rcases Option.map_eq_some_iff.mp hDevice with
            ⟨facility, -, rfl⟩
          rfl
      simp only [Option.bind_some, deviceFault?_new_iff,
        hNamed, hUid]

end Saves

end Facilities

end Icmp2
