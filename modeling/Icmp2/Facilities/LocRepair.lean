import Icmp2.Facilities.LocSync

/-
  What the pairing command leaves behind.

  Main definitions include:
    * `Icmp2.Facilities.LocSync.Repaired`
    * `Icmp2.Facilities.LocSync.mixedStep`

  Main theorems include:
    * `Icmp2.Facilities.LocSync.repaired_synced`
    * `Icmp2.Facilities.LocSync.command_repairs`
    * `Icmp2.Facilities.LocSync.mirror_kept_with_commands_iff`

  A command that is done leaves no node without a device, a
  second one finds nothing to do, and commands in between
  the operations keep the mirror.
-/

------------------------------------------------------------
-- Pairs
------------------------------------------------------------

namespace Icmp2

namespace Facilities

namespace LocSync

open Library

/- A new device was made for a node and linked to it. -/
def Made
    (start now : NodeStore)
    (fallback : Option Nat)
    (id : Nat)
    (node : LocationNode) :
    Prop :=
  ∃ dev facility,
    now.nodes.get? id =
        some { node with device := some dev } ∧
      now.devices.get? dev =
        some (node.newDevice facility) ∧
      facilityFor fallback start node = some facility ∧
      start.devices.nextId ≤ dev

/- How the loop got from one state to another. -/
structure Linking
    (start now : NodeStore)
    (fallback : Option Nat)
    (rest : List (Nat × LocationNode)) :
    Prop where
  waiting :
    ∀ row ∈ rest,
      start.nodes.get? row.1 = some row.2 ∧
        row.2.device = none ∧
        now.nodes.get? row.1 = some row.2
  nodes :
    ∀ id node,
      start.nodes.get? id = some node →
        (now.nodes.get? id = some node ∧
            (node.device ≠ none ∨ (id, node) ∈ rest)) ∨
          (node.device = none ∧
            Made start now fallback id node)
  noNodes :
    ∀ id,
      start.nodes.get? id = none →
        now.nodes.get? id = none
  devices :
    ∀ dev device,
      start.devices.get? dev = some device →
        now.devices.get? dev = some device
  origin :
    ∀ dev device,
      now.devices.get? dev = some device →
        start.devices.get? dev = some device ∨
          ∃ id node,
            start.nodes.get? id = some node ∧
              node.device = none ∧
              now.nodes.get? id =
                some { node with device := some dev }
  grown : start.devices.nextId ≤ now.devices.nextId
  floors : now.facilityOfFloor = start.facilityOfFloor

section Linkings

variable {start now : NodeStore}
variable {fallback : Option Nat}
variable {row : Nat × LocationNode}
variable {rest : List (Nat × LocationNode)}
variable {base : Nat → Nat → Prop}

/- A step links the node of its row to the new device. -/
theorem nodes_pair
    (hPairable : Pairable fallback now row)
    (hGet : now.nodes.get? row.1 = some row.2) :
    (pair fallback now row).nodes =
      now.nodes.set row.1
        { row.2 with
          device := some now.devices.nextId } := by
  rcases hPairable with ⟨facility, hFacility, _⟩
  rw [pair_of_facility hFacility]
  simp only [NodeStore.linkNode, hGet]

/- A pair that was made stays as it is. -/
theorem Made.pair
    {id : Nat}
    {node : LocationNode}
    (hMade : Made start now fallback id node)
    (hPairable : Pairable fallback now row)
    (hGet : now.nodes.get? row.1 = some row.2)
    (hNe : id ≠ row.1) :
    Made start (pair fallback now row) fallback id
      node := by
  rcases hMade with
    ⟨dev, facility, hNode, hDevice, hFacility, hFresh⟩
  rcases devices_pair hPairable with ⟨_, _, hDevices⟩
  refine ⟨dev, facility, ?_, ?_, hFacility, hFresh⟩
  · rw [nodes_pair hPairable hGet, Rows.get?_set_of_ne hNe]
    exact hNode
  · rw [hDevices]
    exact Rows.get?_insert_of_get? hDevice _

theorem facilityFor_congr
    (hFloors :
      now.facilityOfFloor = start.facilityOfFloor)
    (node : LocationNode) :
    facilityFor fallback now node =
      facilityFor fallback start node := by
  rw [facilityFor, facilityFor, hFloors]

/- The node of the row is paired by the step. -/
theorem Linking.made
    (hLinking :
      Linking start now fallback (row :: rest))
    (hPairable : Pairable fallback now row) :
    Made start (pair fallback now row) fallback row.1
      row.2 := by
  have hGet :=
    (hLinking.waiting row List.mem_cons_self).2.2
  rcases devices_pair hPairable with
    ⟨facility, hFacility, hDevices⟩
  refine
    ⟨now.devices.nextId, facility, ?_, ?_, ?_,
      hLinking.grown⟩
  · rw [nodes_pair hPairable hGet]
    exact Rows.get?_set_self hGet _
  · rw [hDevices]
    exact Rows.get?_insert_nextId ..
  · rw [← facilityFor_congr hLinking.floors]
    exact hFacility

theorem Linking.step
    (hLinking :
      Linking start now fallback (row :: rest))
    (hPairable : Pairable fallback now row)
    (hOnce : row.1 ∉ rest.map Prod.fst) :
    Linking start (pair fallback now row) fallback
      rest := by
  rcases hLinking.waiting row List.mem_cons_self with
    ⟨hRow, hUnlinked, hGet⟩
  have hNodes := nodes_pair hPairable hGet
  have hMade := hLinking.made hPairable
  rcases devices_pair hPairable with
    ⟨facility, _, hDevices⟩
  have hOthers :
      ∀ id,
        id ≠ row.1 →
          (pair fallback now row).nodes.get? id =
            now.nodes.get? id := by
    intro id hNe
    rw [hNodes, Rows.get?_set_of_ne hNe]
  constructor
  · intro other hMem
    have hNe : other.1 ≠ row.1 := by
      intro hSame
      apply hOnce
      rw [← hSame]
      exact List.mem_map_of_mem hMem
    rw [hOthers other.1 hNe]
    exact
      hLinking.waiting other (List.mem_cons_of_mem row hMem)
  · intro id node hStart
    by_cases hSame : id = row.1
    · subst hSame
      cases Option.some.inj (hStart.symm.trans hRow)
      exact Or.inr ⟨hUnlinked, hMade⟩
    · rw [hOthers id hSame]
      rcases hLinking.nodes id node hStart with
        ⟨hNow, hOpen⟩ | ⟨hNone, hDone⟩
      · left
        refine ⟨hNow, hOpen.imp_right fun hMem => ?_⟩
        rcases List.mem_cons.mp hMem with rfl | hRest
        · exact absurd rfl hSame
        · exact hRest
      · exact
          Or.inr
            ⟨hNone, hDone.pair hPairable hGet hSame⟩
  · intro id hNone
    have hNow := hLinking.noNodes id hNone
    by_cases hSame : id = row.1
    · rw [hSame, hGet] at hNow
      cases hNow
    · rw [hOthers id hSame]
      exact hNow
  · intro dev device hStart
    rw [hDevices]
    exact
      Rows.get?_insert_of_get?
        (hLinking.devices dev device hStart) _
  · intro dev device hDevice
    rw [hDevices] at hDevice
    rcases Rows.get?_of_get?_insert hDevice with
      ⟨rfl, _⟩ | ⟨_, hOld⟩
    · refine Or.inr ⟨row.1, row.2, hRow, hUnlinked, ?_⟩
      rw [hNodes]
      exact Rows.get?_set_self hGet _
    · refine (hLinking.origin dev device hOld).imp_right ?_
      rintro ⟨id, node, hStart, hNone, hNow⟩
      refine ⟨id, node, hStart, hNone, ?_⟩
      rw [hOthers id]
      · exact hNow
      · -- The node of the row had no device before.
        rintro rfl
        have hSame := Option.some.inj (hGet.symm.trans hNow)
        rw [hSame] at hUnlinked
        cases hUnlinked
  · rw [hDevices]
    exact hLinking.grown.trans (Nat.le_succ _)
  · exact (pair_frame _ now row).2.1.trans hLinking.floors

/- The loop from its start to its end. -/
theorem Linking.run
    (hLinking : Linking start now fallback rest)
    (hNodup : (rest.map Prod.fst).Nodup)
    (hAlong :
      Along (pair fallback) (Pairable fallback) now rest) :
    Linking start (Library.run (pair fallback) now rest)
      fallback [] := by
  induction rest generalizing now with
  | nil => exact hLinking
  | cons row rest ih =>
      rw [List.map_cons, List.nodup_cons] at hNodup
      exact
        ih (hLinking.step hAlong.1 hNodup.1) hNodup.2
          hAlong.2

/- A step keeps the pairs that agree. -/
theorem syncedBut_pair
    (hSync : now.SyncedBut base)
    (hPairable : Pairable fallback now row)
    (hGet : now.nodes.get? row.1 = some row.2) :
    (pair fallback now row).SyncedBut base := by
  rcases hPairable with ⟨facility, hFacility, _⟩
  rw [pair_of_facility hFacility]
  have hOpen :
      now.SyncedBut fun id dev => id = row.1 ∨ base id dev := by
    refine
      ⟨?_, hSync.oneNode, hSync.guardOff, hSync.linked,
        hSync.namesFit⟩
    intro id dev node device hNode hLink hDevice hNot
    exact
      hSync.agree id dev node device hNode hLink hDevice
        (fun hBase => hNot (Or.inr hBase))
  exact hOpen.linkNew hGet rfl

theorem syncedBut_pairs
    (hSync : now.SyncedBut base)
    (hNodup : (rest.map Prod.fst).Nodup)
    (hAlong :
      Along (pair fallback) (Pairable fallback) now
        rest)
    (hWaiting :
      ∀ row ∈ rest, now.nodes.get? row.1 = some row.2) :
    (Library.run (pair fallback) now
      rest).SyncedBut base := by
  induction rest generalizing now with
  | nil => exact hSync
  | cons row rest ih =>
      rw [List.map_cons, List.nodup_cons] at hNodup
      have hGet := hWaiting row List.mem_cons_self
      apply ih (syncedBut_pair hSync hAlong.1 hGet)
        hNodup.2 hAlong.2
      intro other hMem
      have hNe : other.1 ≠ row.1 := by
        intro hSame
        apply hNodup.1
        rw [← hSame]
        exact List.mem_map_of_mem hMem
      rw [nodes_pair hAlong.1 hGet,
        Rows.get?_set_of_ne hNe]
      exact hWaiting other (List.mem_cons_of_mem row hMem)

theorem syncedBut_drops
    (hSync : now.SyncedBut base)
    (devs : List Nat) :
    (Library.run drop now devs).SyncedBut base := by
  apply run_invariant _ hSync
  intro state dev hState
  unfold drop
  split
  · exact hState
  · exact hState.eraseDevice dev

end Linkings

end LocSync

end Facilities

end Icmp2

------------------------------------------------------------
-- Repaired Tables
------------------------------------------------------------

namespace Icmp2

namespace Facilities

namespace LocSync

open Library

/- A device that was made for a node without one. -/
def MadeFor
    (store later : NodeStore)
    (id : Nat)
    (node : LocationNode)
    (dev : Nat)
    (device : DeviceRow) :
    Prop :=
  node.device = none ∧
    later.nodes.get? id =
      some { node with device := some dev } ∧
    store.devices.get? dev = none ∧
    ∃ facility,
      store.resolveFacilityForNode node = some facility ∧
        device = node.newDevice facility

/-
  Every node has its device or a new one; of the devices
  those are gone that are orphans and can be deleted.
-/
structure Repaired
    (store later : NodeStore) :
    Prop where
  nodes :
    ∀ id node,
      store.nodes.get? id = some node →
        (node.device ≠ none ∧
            later.nodes.get? id = some node) ∨
          ∃ dev device,
            later.devices.get? dev = some device ∧
              MadeFor store later id node dev device
  noNodes :
    ∀ id,
      store.nodes.get? id = none →
        later.nodes.get? id = none
  devices :
    ∀ dev device,
      later.devices.get? dev = some device ↔
        (store.devices.get? dev = some device ∧
            (Orphan store dev →
              store.deviceProtected dev = true)) ∨
          ∃ id node,
            store.nodes.get? id = some node ∧
              MadeFor store later id node dev device
  orphans :
    ∀ dev,
      Orphan later dev ↔
        Orphan store dev ∧
          store.deviceProtected dev = true
  held : later.deviceProtected = store.deviceProtected

section Repair

variable {store later : NodeStore}
variable {order : QueryOrder}
variable {base : Nat → Nat → Prop}

theorem linking_dropped
    (order : QueryOrder)
    (store : NodeStore) :
    Linking (dropped order store) (dropped order store)
      store.firstFacility (rowsToPair order store) where
  waiting := by
    intro row hMem
    rcases mem_rowsToPair_iff.mp hMem with ⟨hGet, hNone⟩
    have hNode :=
      (nodes_dropped order store row.1).trans hGet
    exact ⟨hNode, hNone, hNode⟩
  nodes := by
    intro id node hGet
    refine Or.inl ⟨hGet, ?_⟩
    by_cases hNone : node.device = none
    · rw [nodes_dropped] at hGet
      exact
        Or.inr (mem_rowsToPair_iff.mpr ⟨hGet, hNone⟩)
    · exact Or.inl hNone
  noNodes := fun _ hNone => hNone
  devices := fun _ _ hGet => hGet
  origin := fun _ _ hGet => Or.inl hGet
  grown := Nat.le_refl _
  floors := rfl

theorem linking_synced
    (hPairable : AllPairable order store) :
    Linking (dropped order store) (synced order store)
      store.firstFacility [] :=
  (linking_dropped order store).run
    (nodup_rowsToPair order store) hPairable

/- What a new device was made for, in terms of the start. -/
theorem madeFor_of_made
    {id : Nat}
    {node : LocationNode}
    (hNone : node.device = none)
    (hMade :
      Made (dropped order store) later store.firstFacility
        id node) :
    ∃ dev device,
      later.devices.get? dev = some device ∧
        MadeFor store later id node dev device := by
  rcases hMade with
    ⟨dev, facility, hNode, hDevice, hFacility, hFresh⟩
  have hFrame :=
    drops_frame store
      (order.devices (orphanDevices store))
  refine
    ⟨dev, node.newDevice facility, hDevice, hNone, hNode,
      ?_, facility, ?_, rfl⟩
  · apply store.devices.fresh
    exact hFrame.2.2.1.symm.le.trans hFresh
  · exact
      (facilityFor_congr hFrame.2.1 node).symm.trans
        hFacility

theorem synced_nodes
    (hPairable : AllPairable order store)
    {id : Nat}
    {node : LocationNode}
    (hGet : store.nodes.get? id = some node) :
    (node.device ≠ none ∧
        (synced order store).nodes.get? id = some node) ∨
      ∃ dev device,
        (synced order store).devices.get? dev =
            some device ∧
          MadeFor store (synced order store) id node dev
            device := by
  have hLinking := linking_synced hPairable
  have hDropped := (nodes_dropped order store id).trans hGet
  rcases hLinking.nodes id node hDropped with
    ⟨hNow, hLinked | hMem⟩ | ⟨hNone, hMade⟩
  · exact Or.inl ⟨hLinked, hNow⟩
  · cases hMem
  · exact Or.inr (madeFor_of_made hNone hMade)

/- The node of a new device, and what the device is. -/
theorem synced_origin
    (hPairable : AllPairable order store)
    {dev : Nat}
    {device : DeviceRow}
    (hGet :
      (synced order store).devices.get? dev = some device) :
    (store.devices.get? dev = some device ∧
        (Orphan store dev →
          store.deviceProtected dev = true)) ∨
      ∃ id node,
        store.nodes.get? id = some node ∧
          MadeFor store (synced order store) id node dev
            device := by
  have hLinking := linking_synced hPairable
  rcases hLinking.origin dev device hGet with
    hOld | ⟨id, node, hDropped, hNone, hNow⟩
  · exact
      Or.inl ((devices_dropped order store dev device).mp hOld)
  · rw [nodes_dropped] at hDropped
    refine Or.inr ⟨id, node, hDropped, ?_⟩
    rcases synced_nodes hPairable hDropped with
      ⟨hLinked, _⟩ | ⟨other, row, hRow, hFor⟩
    · exact absurd hNone hLinked
    · -- A node has one device, so the new one is this one.
      have hSame := hNow.symm.trans hFor.2.1
      injection hSame with hSame
      injection hSame with _ _ _ _ _ _ _ _ _ hDev
      injection hDev with hDev
      subst hDev
      rw [Option.some.inj (hGet.symm.trans hRow)]
      exact hFor

theorem held_synced
    (order : QueryOrder)
    (store : NodeStore) :
    (synced order store).deviceProtected =
      store.deviceProtected := by
  have hPairs :
      ∀ rows now,
        (run (pair store.firstFacility) now
            rows).deviceProtected =
          now.deviceProtected := by
    intro rows
    induction rows with
    | nil => intro now; rfl
    | cons row rows ih =>
        intro now
        rw [run_cons, ih, (pair_frame _ now row).1]
  rw [synced, hPairs]
  exact (drops_frame store _).1

/- What remains an orphan could not be deleted. -/
theorem orphan_synced_iff
    (hPairable : AllPairable order store)
    (dev : Nat) :
    Orphan (synced order store) dev ↔
      Orphan store dev ∧
        store.deviceProtected dev = true := by
  have hLinking := linking_synced hPairable
  constructor
  · rintro ⟨⟨device, hGet, hType⟩, hNobody⟩
    rcases synced_origin hPairable hGet with
      ⟨hOld, hKept⟩ | ⟨id, node, _, _, hNow, _⟩
    · have hOrphan : Orphan store dev := by
        refine ⟨⟨device, hOld, hType⟩, ?_⟩
        intro id node hNode hLink
        rcases synced_nodes hPairable hNode with
          ⟨_, hNow⟩ | ⟨_, _, _, hNone, _⟩
        · exact hNobody id node hNow hLink
        · rw [hLink] at hNone
          cases hNone
      exact ⟨hOrphan, hKept hOrphan⟩
    · exact absurd rfl (hNobody id _ hNow)
  · rintro ⟨⟨⟨device, hGet, hType⟩, hNobody⟩, hHeld⟩
    refine ⟨⟨device, ?_, hType⟩, ?_⟩
    · apply hLinking.devices
      exact
        (devices_dropped order store dev device).mpr
          ⟨hGet, fun _ => hHeld⟩
    · intro id node hNow hLink
      cases hNode : store.nodes.get? id with
      | none =>
          have hNone :=
            hLinking.noNodes id
              ((nodes_dropped order store id).trans hNode)
          rw [hNow] at hNone
          cases hNone
      | some old =>
          rcases synced_nodes hPairable hNode with
            ⟨_, hSame⟩ | ⟨other, _, _, _, hMade, hFresh, _⟩
          · rw [Option.some.inj (hNow.symm.trans hSame)]
              at hLink
            exact hNobody id old hNode hLink
          · rw [Option.some.inj (hNow.symm.trans hMade)]
              at hLink
            cases hLink
            rw [hGet] at hFresh
            cases hFresh

theorem repaired_synced
    (hPairable : AllPairable order store) :
    Repaired store (synced order store) where
  nodes := fun _ _ hGet => synced_nodes hPairable hGet
  noNodes := by
    intro id hNone
    exact
      (linking_synced hPairable).noNodes id
        ((nodes_dropped order store id).trans hNone)
  devices := by
    intro dev device
    constructor
    · exact synced_origin hPairable
    · rintro (hKept | ⟨id, node, hNode, hFor⟩)
      · apply (linking_synced hPairable).devices
        exact
          (devices_dropped order store dev device).mpr hKept
      · rcases synced_nodes hPairable hNode with
          ⟨hLinked, _⟩ | ⟨other, row, hRow, hOther⟩
        · exact absurd hFor.1 hLinked
        · have hSame := hFor.2.1.symm.trans hOther.2.1
          injection hSame with hSame
          injection hSame with _ _ _ _ _ _ _ _ _ hDev
          injection hDev with hDev
          subst hDev
          rcases hFor.2.2.2 with ⟨facility, hFacility, rfl⟩
          rcases hOther.2.2.2 with ⟨found, hFound, rfl⟩
          rw [Option.some.inj (hFacility.symm.trans hFound)]
          exact hRow
  orphans := orphan_synced_iff hPairable
  held := held_synced order store

/- The transaction keeps the pairs that agree. -/
theorem syncedBut_synced
    (hSync : store.SyncedBut base)
    (hPairable : AllPairable order store) :
    (synced order store).SyncedBut base := by
  apply syncedBut_pairs _ (nodup_rowsToPair order store)
    hPairable
  · intro row hMem
    exact
      ((linking_dropped order store).waiting row hMem).2.2
  · exact syncedBut_drops hSync _

end Repair

end LocSync

end Facilities

end Icmp2

------------------------------------------------------------
-- Verification Lines
------------------------------------------------------------

namespace Icmp2

namespace Facilities

namespace LocSync

open Library

section Counts

variable {store later : NodeStore}
variable {order : QueryOrder}

theorem countRows_congr
    {R : Type}
    {rows : Rows R}
    {left right : Nat → R → Bool}
    (hSame :
      ∀ id row,
        rows.get? id = some row →
          left id row = right id row) :
    countRows rows left = countRows rows right := by
  apply List.countP_congr
  intro id _
  cases hGet : rows.get? id with
  | none => exact Iff.rfl
  | some row =>
      rw [Option.any_some, Option.any_some,
        hSame id row hGet]

/- Devices of the type `loc` have a node, or are orphans. -/
theorem dvTotal_verify
    (store : NodeStore)
    (deletedCount createdCount : Nat) :
    (verify store deletedCount createdCount).dvTotal =
      (verify store deletedCount createdCount).dvLinked +
        (orphanDevices store).length := by
  have hSplit :
      ∀ ids : List Nat,
        (ids.countP fun dev =>
            (store.devices.get? dev).any
              (·.deviceType = .loc)) =
          (ids.countP fun dev =>
              (store.devices.get? dev).any fun device =>
                device.deviceType = .loc ∧
                  store.nodeOf dev ≠ none) +
            ids.countP fun dev =>
              (store.devices.get? dev).any
                  (·.deviceType = .loc) ∧
                store.nodeOf dev = none := by
    intro ids
    induction ids with
    | nil => rfl
    | cons dev ids ih =>
        rw [List.countP_cons, List.countP_cons,
          List.countP_cons, ih]
        cases store.devices.get? dev with
        | none => simp
        | some device =>
            by_cases hType : device.deviceType = .loc
            · by_cases hNone : store.nodeOf dev = none
              · simp [hType, hNone]
                omega
              · simp [hType, hNone]
                omega
            · simp [hType]
  rw [orphanDevices, ← List.countP_eq_length_filter]
  exact hSplit (List.range store.devices.nextId)

/- All nodes are linked, so both counts are the same. -/
theorem lnLinked_verify
    (hLinked :
      ∀ id node,
        store.nodes.get? id = some node →
          node.device ≠ none)
    (deletedCount createdCount : Nat) :
    (verify store deletedCount createdCount).lnLinked =
      (verify store deletedCount createdCount).lnTotal := by
  apply countRows_congr
  intro id node hGet
  exact decide_eq_true (hLinked id node hGet)

/- The orphans that are left, counted from the start. -/
theorem Repaired.length_orphanDevices
    (hRepaired : Repaired store later) :
    (orphanDevices later).length =
      (orphanDevices store).countP
        store.deviceProtected := by
  rw [List.countP_eq_length_filter]
  apply List.Perm.length_eq
  rw [List.perm_ext_iff_of_nodup
    (nodup_orphanDevices later)
    ((nodup_orphanDevices store).filter _)]
  intro dev
  rw [mem_orphanDevices_iff, hRepaired.orphans,
    List.mem_filter, mem_orphanDevices_iff]

theorem length_rowsToPair
    (order : QueryOrder)
    (store : NodeStore) :
    (rowsToPair order store).length =
      (unlinkedNodes store).length := by
  have hNodup :
      ∀ now : NodeStore, (unlinkedNodes now).Nodup :=
    fun now =>
      List.Pairwise.of_map Prod.fst
        (fun _ _ hNe hSame => hNe (congrArg Prod.fst hSame))
        (nodup_unlinkedNodes now)
  apply List.Perm.length_eq
  rw [rowsToPair]
  rw [List.perm_ext_iff_of_nodup
    ((order.permNodes _).nodup_iff.mpr (hNodup _))
    (hNodup store)]
  rintro ⟨id, node⟩
  exact
    mem_rowsToPair_iff.trans mem_unlinkedNodes_iff.symm

theorem deletedCount_eq
    (order : QueryOrder)
    (store : NodeStore) :
    deletedCount order store =
      (orphanDevices store).countP fun dev =>
        !store.deviceProtected dev :=
  (order.permDevices _).countP_eq _

/- No node is without a device. -/
theorem Repaired.linked
    (hRepaired : Repaired store later)
    {id : Nat}
    {node : LocationNode}
    (hGet : later.nodes.get? id = some node) :
    node.device ≠ none := by
  cases hOld : store.nodes.get? id with
  | none =>
      have hNone := hRepaired.noNodes id hOld
      rw [hGet] at hNone
      cases hNone
  | some old =>
      rcases hRepaired.nodes id old hOld with
        ⟨hLinked, hSame⟩ | ⟨dev, _, _, _, hMade, _⟩
      · rw [Option.some.inj (hGet.symm.trans hSame)]
        exact hLinked
      · rw [Option.some.inj (hGet.symm.trans hMade)]
        exact Option.some_ne_none dev

end Counts

section Again

variable {store : NodeStore}

theorem drops_of_held
    {devs : List Nat}
    (hHeld :
      ∀ dev ∈ devs, store.deviceProtected dev = true) :
    run drop store devs = store := by
  induction devs with
  | nil => rfl
  | cons dev devs ih =>
      have hStay : drop store dev = store :=
        if_pos (hHeld dev List.mem_cons_self)
      rw [run_cons, hStay]
      apply ih
      intro other hMem
      exact hHeld other (List.mem_cons_of_mem dev hMem)

/- A command that finds nothing to do does nothing. -/
theorem handle_of_complete
    (hOff : store.syncing = false)
    (hLinked :
      ∀ id node,
        store.nodes.get? id = some node →
          node.device ≠ none)
    (hHeld :
      ∀ dev,
        Orphan store dev → store.deviceProtected dev = true)
    (order : QueryOrder) :
    handle order false store =
      .ok (.done (verify store 0 0)) store := by
  have hNone : unlinkedNodes store = [] := by
    apply List.eq_nil_iff_forall_not_mem.mpr
    rintro ⟨id, node⟩ hMem
    rcases mem_unlinkedNodes_iff.mp hMem with ⟨hGet, hFree⟩
    exact hLinked id node hGet hFree
  have hOrphans :
      ∀ dev ∈ order.devices (orphanDevices store),
        store.deviceProtected dev = true := by
    intro dev hMem
    exact
      hHeld dev
        (mem_orphanDevices_iff.mp
          ((order.permDevices _).mem_iff.mp hMem))
  have hDropped : dropped order store = store :=
    drops_of_held hOrphans
  have hRows : rowsToPair order store = [] := by
    apply List.eq_nil_of_length_eq_zero
    rw [length_rowsToPair, hNone]
    rfl
  have hSynced : synced order store = store := by
    rw [synced, hRows, hDropped]
    rfl
  have hDeleted : deletedCount order store = 0 := by
    apply List.countP_eq_zero.mpr
    intro dev hMem
    rw [hOrphans dev hMem]
    exact Bool.false_ne_true
  apply (handle_eq_done_iff hOff).mpr
  refine ⟨fun hLacks => hLacks.2 hNone, ?_, ?_, ?_⟩
  · rw [AllPairable, hRows]
    trivial
  · rw [hSynced, hDeleted, hRows]
    rfl
  · exact hSynced.symm

end Again

end LocSync

end Facilities

end Icmp2

------------------------------------------------------------
-- Repair
------------------------------------------------------------

namespace Icmp2

namespace Facilities

namespace LocSync

open Library

/-
  A command that is done has repaired the tables and kept
  what agreed; it counts what it did, reports that all nodes
  are linked, and says which devices it could not delete. A
  second command finds nothing to do.
-/
theorem command_repairs
    {store later : NodeStore}
    {order : QueryOrder}
    {report : Report}
    (hOff : store.syncing = false)
    (hDone :
      handle order false store =
        .ok (.done report) later) :
    Repaired store later ∧
      (∀ exempt,
        store.SyncedBut exempt → later.SyncedBut exempt) ∧
      report.deletedCount =
        ((orphanDevices store).countP fun dev =>
          !store.deviceProtected dev) ∧
      report.createdCount = (unlinkedNodes store).length ∧
      report.lnLinked = report.lnTotal ∧
      report.dvTotal =
        report.dvLinked +
          (orphanDevices store).countP
            store.deviceProtected ∧
      ∀ again,
        handle again false later =
          .ok
            (.done
              { report with
                deletedCount := 0
                createdCount := 0 })
            later := by
  rcases (handle_eq_done_iff hOff).mp hDone with
    ⟨_, hPairable, rfl, rfl⟩
  have hRepaired := repaired_synced hPairable
  have hLinked :
      ∀ id node,
        (synced order store).nodes.get? id = some node →
          node.device ≠ none :=
    fun _ _ hGet => hRepaired.linked hGet
  refine
    ⟨hRepaired,
      fun _ hSync => syncedBut_synced hSync hPairable,
      deletedCount_eq order store,
      length_rowsToPair order store,
      lnLinked_verify hLinked _ _, ?_, ?_⟩
  · rw [dvTotal_verify, hRepaired.length_orphanDevices]
  · intro again
    apply handle_of_complete _ hLinked
    · intro dev hOrphan
      rw [hRepaired.held]
      exact ((hRepaired.orphans dev).mp hOrphan).2
    · exact (synced_syncing order store).trans hOff

/- The device in the way is replaced by one with a node. -/
theorem command_repairs_separate :
    ∃ report later,
      handle byId false separateStore =
          .ok (.done report) later ∧
        Repaired separateStore later ∧
        report.deletedCount = 1 ∧
        report.createdCount = 1 := by
  have hPairable :=
    (allPairable_iff constrained_separateStore
      not_lacksFacility_separateStore byId).mpr
        codesFree_separateStore
  have hDone :
      handle byId false separateStore = .ok (.done _) _ :=
    (handle_eq_done_iff rfl).mpr
      ⟨not_lacksFacility_separateStore, hPairable, rfl, rfl⟩
  rcases command_repairs rfl hDone with
    ⟨hRepaired, _, hDeleted, hCreated, _⟩
  refine ⟨_, _, hDone, hRepaired, ?_, ?_⟩
  · rw [hDeleted]
    decide +kernel
  · rw [hCreated]
    decide +kernel

end LocSync

end Facilities

end Icmp2

------------------------------------------------------------
-- Operations and Commands
------------------------------------------------------------

namespace Icmp2

namespace Facilities

namespace LocSync

open Library

/- An operation on one object, or a call of the command. -/
inductive MixedOp where
  | single (op : NodeOp)
  | command (order : QueryOrder) (dry : Bool)

def mixedStep
    (store : NodeStore) :
    MixedOp → NodeStore
  | .single op => nodeStep store op
  | .command order dry => (handle order dry).stateAfter store

/- The step keeps the mirror. -/
def MixedKept
    (store : NodeStore)
    (op : MixedOp) :
    Prop :=
  (mixedStep store op).Mirrors

/- A name that is saved for a device fits, as before. -/
def MixedFits
    (store : NodeStore) :
    MixedOp → Prop
  | .single op => NameFits store op
  | .command _ _ => True

section Mixed

variable {store : NodeStore}

/- A dry run is not done. -/
theorem dry_of_done
    {later : NodeStore}
    {order : QueryOrder}
    {dry : Bool}
    {report : Report}
    (hDone :
      handle order dry store = .ok (.done report) later) :
    dry = false := by
  cases dry with
  | false => rfl
  | true =>
      by_cases hFacility : LacksFacility store
      · rw [handle, Action.get_bind, if_pos hFacility]
          at hDone
        cases hDone
      · rw [handle, Action.get_bind, if_neg hFacility,
          if_pos rfl] at hDone
        cases hDone

/- A command keeps the pairs that agree, done or not. -/
theorem syncedBut_command
    {base : Nat → Nat → Prop}
    (hSync : store.SyncedBut base)
    (order : QueryOrder)
    (dry : Bool) :
    ((handle order dry).stateAfter store).SyncedBut
      base := by
  by_cases hNot :
      ∀ report later,
        handle order dry store ≠ .ok (.done report) later
  · rw [stateAfter_handle_of_not_done hSync.guardOff hNot]
    exact hSync
  · push Not at hNot
    rcases hNot with ⟨report, later, hDone⟩
    cases dry_of_done hDone
    rcases (handle_eq_done_iff hSync.guardOff).mp hDone with
      ⟨_, hPairable, _, hLater⟩
    rw [Action.stateAfter_of_ok hDone, hLater]
    exact syncedBut_synced hSync hPairable

/-
  In a run of operations and commands every step keeps the
  mirror exactly if every name that an operation saves for a
  device with a node fits the column of the node.
-/
theorem mirror_kept_with_commands_iff
    (hStart : store.InSync)
    (ops : List MixedOp) :
    Along mixedStep MixedKept store ops ↔
      Along mixedStep MixedFits store ops := by
  symm
  apply
    along_iff_of_invariant
      (I := fun store : NodeStore => store.InSync)
      _ _ hStart ops
  · intro state op hSync
    cases op with
    | single op =>
        constructor
        · intro hFits
          exact (hSync.nodeStep (Or.inl hFits)).mirrors
        · intro hKept
          exact hSync.nameFits hKept
    | command order dry =>
        refine iff_of_true trivial ?_
        exact (syncedBut_command hSync order dry).mirrors
  · intro state op hSync hFits
    cases op with
    | single op => exact hSync.nodeStep (Or.inl hFits)
    | command order dry =>
        exact syncedBut_command hSync order dry

/- A held node loses its device and gets another one. -/
theorem mirror_kept_between :
    Along mixedStep MixedKept gateStore
      [.single (.holdNode 0 true),
        .single (.deleteDevice 0),
        .command byId false] := by
  apply
    (mirror_kept_with_commands_iff inSync_gateStore _).mpr
  refine ⟨?_, ?_, trivial, trivial⟩
  · intro call hCall
    cases hCall
  · intro call hCall
    cases hCall
    trivial

end Mixed

end LocSync

end Facilities

end Icmp2
