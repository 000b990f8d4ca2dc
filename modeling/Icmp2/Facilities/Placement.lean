import Icmp2.Facilities.MapViews

/-
  Placed objects have a place.

  Main definitions include:
    * `Icmp2.Facilities.MapStore.AllPlaced`
    * `Icmp2.Facilities.MapStore.KeepsPlaces`

  Main theorems include:
    * `Icmp2.Facilities.placed_writesKeep`
    * `Icmp2.Facilities.allPlaced_deleteFloor_iff`
    * `Icmp2.Facilities.placed_nodeStep_iff`
    * `Icmp2.Facilities.places_kept_iff`

  The serializers check what they write.  A floor that is
  deleted, and a device that loses its floor, take the floor
  from an object that stays placed.
-/

------------------------------------------------------------
-- Places
------------------------------------------------------------

namespace Icmp2

namespace Facilities

open Library

/- Every object of the map that is placed has its place. -/
structure MapStore.AllPlaced
    (store : MapStore) :
    Prop where
  equipments : store.equipments.All Equipment.HasPlace
  nodes : store.nodes.All LocationNode.HasPlace
  sensors : store.sensors.All SensorRow.HasPlace

/- No placed object stands on the floor. -/
structure MapStore.NonePlacedOn
    (store : MapStore)
    (floor : Nat) :
    Prop where
  equipments :
    store.equipments.All fun row =>
      row.isPlaced = true → row.floor ≠ some floor
  nodes :
    store.nodes.All fun row =>
      row.isPlaced = true → row.floor ≠ some floor
  sensors :
    store.sensors.All fun row =>
      row.isPlaced = true → row.floor ≠ some floor

/-
  A device that is saved without a floor has no placed node,
  if the database takes both saves.
-/
def OrmCall.KeepsPlace
    (store : NodeStore) :
    OrmCall → Prop
  | .saveDevice dev device updateFields =>
      store.deviceUpdateFault? dev device updateFields =
          none →
        device.deviceName.length ≤ 100 →
        device.floor = none →
          store.nodes.All fun node =>
            node.device = some dev → node.isPlaced = false
  | _ => True

/- The condition on one step. -/
def MapStore.KeepsPlaces
    (store : MapStore) :
    MapApiOp → Prop
  | .request _ _ => True
  | .deleteFloor floor => store.NonePlacedOn floor
  | .device op =>
      ∀ call ∈ op.nodeOp.call? store.toNodeStore,
        call.KeepsPlace store.toNodeStore

end Facilities

end Icmp2

------------------------------------------------------------
-- Requests
------------------------------------------------------------

namespace Icmp2

namespace Facilities

open Library

section Nodes

variable {store : NodeStore}
variable {id : Nat}
variable {node : LocationNode}

/- The link of a node says nothing of its place. -/
theorem hasPlace_link
    (node : LocationNode)
    (link : Option Nat) :
    LocationNode.HasPlace { node with device := link } ↔
      node.HasPlace :=
  Iff.rfl

theorem hasPlace_unlink
    (hPlace : node.HasPlace)
    (dev : Nat) :
    (node.unlink dev).HasPlace := by
  unfold LocationNode.unlink
  split_ifs
  · exact hPlace
  · exact hPlace

theorem hasPlace_afterSignal
    (hPlace : node.HasPlace) :
    (store.afterSignal node).HasPlace := by
  rcases afterSignal_eq_link store node with ⟨link, hLink⟩
  rw [hLink]
  exact hPlace

/- A node takes the floor of its device, and stays placed. -/
theorem hasPlace_mirror_iff
    (hPlace : node.HasPlace)
    (shared : Shared) :
    (node.mirror shared).HasPlace ↔
      (shared.floor = none → node.isPlaced = false) := by
  have hShared := node.shared_write_dirty shared
  have hFloor : (node.mirror shared).floor = shared.floor :=
    congrArg Shared.floor hShared
  constructor
  · intro hMirror hNone
    by_contra hTrue
    have hHas := hMirror (Bool.eq_true_of_not_eq_false hTrue)
    rw [hFloor, hNone] at hHas
    exact hHas.1 rfl
  · intro hFree hTrue
    refine ⟨?_, (hPlace hTrue).2⟩
    rw [hFloor]
    intro hNone
    have hFalse := hFree hNone
    change node.isPlaced = true at hTrue
    rw [hFalse] at hTrue
    cases hTrue

variable (hIntact : store.Intact)
variable (hPlaced : store.nodes.All LocationNode.HasPlace)

include hIntact hPlaced

theorem placed_createNode
    (hPlace : node.HasPlace) :
    ((nodeCall (.createNode node)).stateAfter
      store).nodes.All LocationNode.HasPlace := by
  rcases nodes_after_createNode hIntact node with
    hSame | ⟨link, hNodes⟩
  · rw [hSame]
    exact hPlaced
  · rw [hNodes]
    exact
      (hPlaced.insert hPlace).set
        ((hasPlace_link node link).mpr hPlace) _

theorem placed_saveNode
    {stored : LocationNode}
    (hGet : store.nodes.get? id = some stored)
    (hPlace : node.HasPlace) :
    ((nodeCall (.saveNode id node none)).stateAfter
      store).nodes.All LocationNode.HasPlace := by
  have hEffect := nodeCall_saveNode hIntact hGet node
  rw [NodeStore.saveOutcome] at hEffect
  by_cases hRefused :
      (store.nodeFault? id node).isSome = true
  · rw [if_pos hRefused] at hEffect
    rcases hEffect with ⟨error, hCall⟩
    rw [Action.stateAfter_of_error hCall]
    exact hPlaced
  · rw [if_neg hRefused] at hEffect
    by_cases hSignal :
        (store.signalFault? node).isSome = true
    · rw [if_pos hSignal] at hEffect
      rcases hEffect with ⟨error, later, hCall, hNodes⟩
      rw [Action.stateAfter_of_error hCall, hNodes]
      exact hPlaced.set hPlace id
    · rw [if_neg hSignal] at hEffect
      rcases hEffect with ⟨later, hCall, hNodes⟩
      rw [Action.stateAfter_of_ok hCall, hNodes]
      exact hPlaced.set (hasPlace_afterSignal hPlace) id

theorem placed_deleteNode
    (id : Nat) :
    ((nodeCall (.deleteNode id)).stateAfter
      store).nodes.All LocationNode.HasPlace := by
  cases hGet : store.nodes.get? id with
  | none =>
      have hLoad :
          loadNode id store = .error .doesNotExist store := by
        simp only [loadNode, hGet]
      rw [Action.stateAfter_congr (nodeCall_eq ..),
        handleCall, Action.stateAfter_bind_of_error hLoad]
      exact hPlaced
  | some node =>
      cases hHeld : store.nodeProtected id with
      | true =>
          rw [Action.stateAfter_of_error
            (nodeCall_deleteNode_held hGet hHeld)]
          exact hPlaced
      | false =>
          rcases nodeCall_deleteNode hIntact hGet hHeld with
            ⟨later, hCall, hNodes⟩
          rw [Action.stateAfter_of_ok hCall]
          exact (hPlaced.erase id).congr hNodes

theorem placed_createDevice
    {device : DeviceRow}
    (hType : device.deviceType = .loc) :
    ((nodeCall (.createDevice device)).stateAfter
      store).nodes.All LocationNode.HasPlace := by
  rcases nodes_after_createDevice hIntact hType with
    hSame | hNodes
  · rw [hSame]
    exact hPlaced
  · rw [hNodes]
    apply hPlaced.insert
    intro hTrue
    cases hTrue

theorem placed_deleteDevice
    (dev : Nat) :
    ((nodeCall (.deleteDevice dev)).stateAfter
      store).nodes.All LocationNode.HasPlace := by
  intro id row hGet
  rcases
    nodes_after_deleteDevice hIntact.guardOff dev hGet with
    ⟨old, hOld, rfl | rfl⟩
  · exact hPlaced id row hOld
  · exact hasPlace_unlink (hPlaced id old hOld) dev

/-
  A save of a device: only its node is written, with the
  floor of the device.
-/
theorem placed_saveDevice_iff
    {dev : Nat}
    {device : DeviceRow}
    {updateFields : Option (List SharedField)}
    (hType : device.deviceType = .loc)
    (hSaved :
      ∀ stored,
        store.devices.get? dev = some stored →
          stored.saved device updateFields = device) :
    ((nodeCall
        (.saveDevice dev device updateFields)).stateAfter
          store).nodes.All LocationNode.HasPlace ↔
      (OrmCall.saveDevice dev device
        updateFields).KeepsPlace store := by
  cases hFind : store.nodeOf dev with
  | none =>
      rw [nodes_after_saveDevice_alone hIntact hSaved
        fun _ => hFind]
      refine iff_of_true hPlaced ?_
      intro _ _ _ id node hGet hLink
      exact absurd hLink (nodeOf_eq_none hFind hGet)
  | some nodeId =>
      rcases nodeOf_eq_some hFind with ⟨node, hGet, hLink⟩
      by_cases hFault :
          store.deviceUpdateFault? dev device updateFields =
            none
      · rw [nodes_after_saveDevice hIntact hSaved hType
          hFind hGet hFault]
        by_cases hName : device.deviceName.length ≤ 100
        · have hMirror :=
            hasPlace_mirror_iff (hPlaced nodeId node hGet)
              device.shared
          rw [if_pos hName]
          constructor
          · intro hAll _ _ hFloor id row hRow hOther
            have hSame :=
              hIntact.oneNode id nodeId row node dev hRow
                hGet hOther hLink
            subst hSame
            rw [Option.some.inj (hRow.symm.trans hGet)]
            apply hMirror.mp _ hFloor
            exact hAll id _ (Rows.get?_set_self hGet _)
          · intro hKeeps
            apply hPlaced.set
            apply hMirror.mpr
            intro hFloor
            exact
              hKeeps hFault hName hFloor nodeId node hGet
                hLink
        · rw [if_neg hName]
          refine iff_of_true hPlaced ?_
          intro _ hShort
          exact absurd hShort hName
      · rw [nodes_after_saveDevice_alone hIntact hSaved
          fun hNone => absurd hNone hFault]
        refine iff_of_true hPlaced ?_
        intro hNone
        exact absurd hNone hFault

/- An operation on devices, by the call that it makes. -/
theorem placed_nodeStep_iff
    (op : DeviceOp) :
    (nodeStep store op.nodeOp).nodes.All
        LocationNode.HasPlace ↔
      ∀ call ∈ op.nodeOp.call? store,
        call.KeepsPlace store := by
  cases op with
  | create device =>
      refine
        iff_of_true (placed_createDevice hIntact hPlaced rfl)
          ?_
      intro call hCall
      cases hCall
      trivial
  | save dev device =>
      simp only [DeviceOp.nodeOp, NodeOp.call?,
        Option.mem_def, Option.some.injEq, forall_eq']
      apply placed_saveDevice_iff hIntact hPlaced rfl
      intro stored _
      rfl
  | saveFields dev fields shared =>
      cases hCall :
          (DeviceOp.saveFields dev fields
            shared).nodeOp.call? store with
      | none =>
          have hStep :
              nodeStep store
                  (DeviceOp.saveFields dev fields
                    shared).nodeOp =
                store := by
            simp only [nodeStep, hCall]
            rfl
          rw [hStep]
          refine iff_of_true hPlaced ?_
          intro call hOther
          cases hOther
      | some call =>
          rcases saveDeviceFields_call hCall with
            ⟨stored, hGet, hType, rfl⟩
          rw [nodeStep_of_call hCall]
          simp only [Option.mem_def, Option.some.injEq,
            forall_eq']
          apply
            placed_saveDevice_iff hIntact hPlaced hType
          intro other hOther
          rw [Option.some.inj (hOther.symm.trans hGet)]
          exact stored.saved_write fields shared
  | delete dev =>
      refine
        iff_of_true (placed_deleteDevice hIntact hPlaced dev)
          ?_
      intro call hCall
      cases hCall
      trivial
  | holdNode id held =>
      refine iff_of_true hPlaced ?_
      intro call hCall
      cases hCall
  | holdDevice id held =>
      refine iff_of_true hPlaced ?_
      intro call hCall
      cases hCall

end Nodes

end Facilities

end Icmp2

------------------------------------------------------------
-- Steps
------------------------------------------------------------

namespace Icmp2

namespace Facilities

open Library

/- The serializers let no object be placed without a place. -/
theorem placed_writesKeep :
    WritesKeep fun store =>
      store.Intact ∧ store.AllPlaced where
  changeLog := by
    rintro store log ⟨hIntact, hPlaced⟩
    exact
      ⟨hIntact, hPlaced.equipments, hPlaced.nodes,
        hPlaced.sensors⟩
  equipment := by
    apply tableModel_keeps (P := Equipment.HasPlace)
    · intro store hInv
      exact hInv.2.equipments
    · intro store later hInv hLater
      exact ⟨hInv.1, hLater, hInv.2.nodes, hInv.2.sensors⟩
    · intro stored attrs hValid
      exact Equipment.hasPlace_update hValid
  sensor := by
    apply tableModel_keeps (P := SensorRow.HasPlace)
    · intro store hInv
      exact hInv.2.sensors
    · intro store later hInv hLater
      exact
        ⟨hInv.1, hInv.2.equipments, hInv.2.nodes, hLater⟩
    · intro stored attrs hValid
      exact SensorRow.hasPlace_update hValid
  geofence := by
    apply tableModel_keeps (P := fun _ => True)
    · intro store _
      exact Rows.All.trivially _
    · intro store later hInv _
      exact
        ⟨hInv.1, hInv.2.equipments, hInv.2.nodes,
          hInv.2.sensors⟩
    · intro _ _ _
      trivial
  locationNode := {
    save := by
      intro store id stored attrs hInv hGet hData
      have hPlace := LocationNode.hasPlace_update hData
      rw [stateAfter_saveNode]
      exact
        ⟨hInv.1.saveNode fun _ _ => rfl,
          hInv.2.equipments,
          placed_saveNode hInv.1 hInv.2.nodes hGet hPlace,
          hInv.2.sensors⟩
    create := by
      intro store attrs hInv hData
      have hPlace := LocationNode.hasPlace_update hData
      rw [stateAfter_createNode]
      exact
        ⟨hInv.1.createNode _,
          hInv.2.equipments,
          placed_createNode hInv.1 hInv.2.nodes hPlace,
          hInv.2.sensors⟩
    delete := by
      intro store id hInv
      rw [stateAfter_deleteNode]
      exact
        ⟨hInv.1.deleteNode id, hInv.2.equipments,
          placed_deleteNode hInv.1 hInv.2.nodes id,
          hInv.2.sensors⟩ }

/- A key that is left was there, and is of another row. -/
theorem clearKey_eq_none_iff
    (key : Option Nat)
    (floor : Nat) :
    clearKey (fun id => id == floor) key = none ↔
      key = none ∨ key = some floor := by
  cases key with
  | none => exact iff_of_true rfl (Or.inl rfl)
  | some id =>
      by_cases hSame : id = floor
      · subst hSame
        simp [clearKey]
      · simp [clearKey, hSame]

/- An object loses its place with its floor. -/
theorem place_clearKey_iff
    {isPlaced : Bool}
    {key : Option Nat}
    {Rest : Prop}
    (floor : Nat)
    (hPlace : isPlaced = true → key ≠ none ∧ Rest) :
    (isPlaced = true →
        clearKey (fun id => id == floor) key ≠ none ∧
          Rest) ↔
      (isPlaced = true → key ≠ some floor) := by
  constructor
  · intro hStill hTrue hSame
    exact
      (hStill hTrue).1
        ((clearKey_eq_none_iff key floor).mpr (Or.inr hSame))
  · intro hOther hTrue
    refine ⟨?_, (hPlace hTrue).2⟩
    intro hNone
    rcases (clearKey_eq_none_iff key floor).mp hNone with
      hNull | hSame
    · exact (hPlace hTrue).1 hNull
    · exact hOther hTrue hSame

theorem allPlaced_deleteFloor_iff
    {store : MapStore}
    (hPlaced : store.AllPlaced)
    (floor : Nat) :
    (store.deleteFloor floor).AllPlaced ↔
      store.NonePlacedOn floor := by
  have hEquipments :
      (store.deleteFloor floor).equipments.All
          Equipment.HasPlace ↔
        store.equipments.All fun row =>
          row.isPlaced = true → row.floor ≠ some floor := by
    apply Rows.all_mapRows_iff.trans
    apply hPlaced.equipments.iff_of_forall
    intro row hPlace
    exact place_clearKey_iff floor hPlace
  have hNodes :
      (store.deleteFloor floor).nodes.All
          LocationNode.HasPlace ↔
        store.nodes.All fun row =>
          row.isPlaced = true → row.floor ≠ some floor := by
    apply Rows.all_mapRows_iff.trans
    apply hPlaced.nodes.iff_of_forall
    intro row hPlace
    exact place_clearKey_iff floor hPlace
  have hSensors :
      (store.deleteFloor floor).sensors.All
          SensorRow.HasPlace ↔
        store.sensors.All fun row =>
          row.isPlaced = true → row.floor ≠ some floor := by
    apply Rows.all_mapRows_iff.trans
    apply hPlaced.sensors.iff_of_forall
    intro row hPlace
    exact place_clearKey_iff floor hPlace
  constructor
  · intro hAll
    exact
      ⟨hEquipments.mp hAll.equipments,
        hNodes.mp hAll.nodes, hSensors.mp hAll.sensors⟩
  · intro hNone
    exact
      ⟨hEquipments.mpr hNone.equipments,
        hNodes.mpr hNone.nodes, hSensors.mpr hNone.sensors⟩

/- One step keeps all places exactly under the condition. -/
theorem allPlaced_mapApiStep_iff
    {store : MapStore}
    (hIntact : store.Intact)
    (hPlaced : store.AllPlaced)
    (op : MapApiOp) :
    (mapApiStep store op).AllPlaced ↔ store.KeepsPlaces op := by
  cases op with
  | request actor request =>
      refine iff_of_true ?_ trivial
      exact
        (handleRequest_keeps placed_writesKeep actor request
          ⟨hIntact, hPlaced⟩).2
  | deleteFloor floor =>
      exact allPlaced_deleteFloor_iff hPlaced floor
  | device op =>
      have hNodes :=
        placed_nodeStep_iff hIntact hPlaced.nodes op
      constructor
      · intro hAll
        exact hNodes.mp hAll.nodes
      · intro hKeeps
        exact
          ⟨hPlaced.equipments, hNodes.mpr hKeeps,
            hPlaced.sensors⟩

/-
  Every step of a run leaves all placed objects with their
  places, exactly if no floor is deleted under a placed
  object and no device of a placed node loses its floor.
-/
theorem places_kept_iff
    {store : MapStore}
    (hIntact : store.Intact)
    (hPlaced : store.AllPlaced)
    (ops : List MapApiOp) :
    Along mapApiStep
        (fun state op => (mapApiStep state op).AllPlaced)
        store ops ↔
      Along mapApiStep MapStore.KeepsPlaces store ops := by
  apply
    along_iff_of_invariant
      (I := fun state : MapStore =>
        state.Intact ∧ state.AllPlaced)
      _ _ ⟨hIntact, hPlaced⟩ ops
  · intro state op hInv
    exact allPlaced_mapApiStep_iff hInv.1 hInv.2 op
  · intro state op hInv hStep
    exact ⟨intact_mapApiStep hInv.1 op, hStep⟩

theorem allPlaced_initial :
    MapStore.initial.AllPlaced :=
  ⟨Rows.All.empty, Rows.All.empty, Rows.All.empty⟩

/- A press that is placed on the floor 1. -/
def pressData : EquipmentData where
  floor := some (some 1)
  zone := none
  equipmentCode := some "E-1"
  equipmentName := some "Press"
  width := some (some (.finite 2))
  height := some (some (.finite 1))
  centerX := some (some (.finite 5))
  centerY := some (some (.finite 5))
  rotation := none
  status := none
  isPlaced := some true

def placePress : MapApiOp :=
  .request none (.create (.equipment (some pressData)))

def pressStore : MapStore :=
  mapApiStep .initial placePress

theorem equipments_pressStore :
    pressStore.equipments =
      Rows.empty.insert
        (equipmentSerializer.defaults.update pressData) := by
  rfl

/- Another floor may go. -/
theorem places_kept_other_floor :
    Along mapApiStep
      (fun state op => (mapApiStep state op).AllPlaced)
      .initial [placePress, .deleteFloor 2] := by
  apply
    (places_kept_iff intact_initial allPlaced_initial _).mpr
  refine ⟨trivial, ⟨?_, ?_, ?_⟩, trivial⟩
  · change pressStore.equipments.All _
    rw [equipments_pressStore]
    exact Rows.All.empty.insert (by decide)
  · exact Rows.All.empty
  · exact Rows.All.empty

/- A node that is placed on the floor 1. -/
def beaconData : LocationNodeData where
  floor := some (some 1)
  zone := none
  nodeName := some "Beacon"
  nodeCode := some "LOC-2"
  x := some (some (.finite 3))
  y := some (some (.finite 4))
  status := none
  isPlaced := some true

def placeBeacon : MapApiOp :=
  .request none (.create (.locationNode (some beaconData)))

/- The device of the node is saved without its floor. -/
def clearDeviceFloor : MapApiOp :=
  .device (.saveFields 0 [.floor] ⟨"", none, true⟩)

/-
  The press stays placed when its floor goes, and so does
  the node when its device loses the floor.
-/
theorem places_lost :
    ¬ (run mapApiStep .initial
        [placePress, .deleteFloor 1]).AllPlaced ∧
      ¬ (run mapApiStep .initial
        [placeBeacon, clearDeviceFloor]).AllPlaced := by
  constructor
  · intro hPlaced
    have hRow :
        ((run mapApiStep .initial
          [placePress, .deleteFloor 1]).equipments.get?
            0).map (fun row => (row.isPlaced, row.floor)) =
          some (true, none) := by
      decide +kernel
    rcases Option.map_eq_some_iff.mp hRow with
      ⟨row, hGet, hFields⟩
    rw [Prod.mk.injEq] at hFields
    have hPlace := hPlaced.equipments 0 row hGet hFields.1
    exact hPlace.1 hFields.2
  · intro hPlaced
    have hRow :
        ((run mapApiStep .initial
          [placeBeacon, clearDeviceFloor]).nodes.get?
            0).map (fun row => (row.isPlaced, row.floor)) =
          some (true, none) := by
      decide +kernel
    rcases Option.map_eq_some_iff.mp hRow with
      ⟨row, hGet, hFields⟩
    rw [Prod.mk.injEq] at hFields
    have hPlace := hPlaced.nodes 0 row hGet hFields.1
    exact hPlace.1 hFields.2

end Facilities

end Icmp2
