import Icmp2.Library.Transaction
import Icmp2.Facilities.NodeEffects

/-
  The command that pairs nodes and devices of old.

  Main definitions include:
    * `Icmp2.Facilities.LocSync.handle`
    * `Icmp2.Facilities.LocSync.synced`
    * `Icmp2.Facilities.LocSync.Constrained`
    * `Icmp2.Facilities.LocSync.CodesFree`

  Main theorems include:
    * `Icmp2.Facilities.LocSync.handle_eq_done_iff`
    * `Icmp2.Facilities.LocSync.handle_dry`
    * `Icmp2.Facilities.LocSync.stateAfter_handle_of_not_done`
    * `Icmp2.Facilities.LocSync.allPairable_iff`
    * `Icmp2.Facilities.LocSync.command_completes_iff`

  The command deletes the devices of the type `loc` that no
  node has, and makes a device for every node that has none.
  It runs as one transaction under the guard of the signals.
-/

------------------------------------------------------------
-- Queries
------------------------------------------------------------

namespace Icmp2

namespace Facilities

namespace LocSync

open Library

/- The orders in which the two queries answer. -/
structure QueryOrder where
  devices : List Nat → List Nat
  nodes :
    List (Nat × LocationNode) → List (Nat × LocationNode)
  permDevices : ∀ rows, (devices rows).Perm rows
  permNodes : ∀ rows, (nodes rows).Perm rows

/- `filter(device_type='loc', location_node__isnull=True)`. -/
def orphanDevices
    (store : NodeStore) :
    List Nat :=
  (List.range store.devices.nextId).filter fun dev =>
    (store.devices.get? dev).any (·.deviceType = .loc) ∧
      store.nodeOf dev = none

/- `LocationNode.objects.filter(device__isnull=True)`. -/
def unlinkedNodes
    (store : NodeStore) :
    List (Nat × LocationNode) :=
  (List.range store.nodes.nextId).filterMap fun id =>
    ((store.nodes.get? id).filter (·.device = none)).map
      fun node => (id, node)

/- The rows of a table that pass a test, counted. -/
def countRows
    {R : Type}
    (rows : Rows R)
    (test : Nat → R → Bool) :
    Nat :=
  (List.range rows.nextId).countP fun id =>
    (rows.get? id).any (test id)

end LocSync

end Facilities

end Icmp2

------------------------------------------------------------
-- Command
------------------------------------------------------------

namespace Icmp2

namespace Facilities

namespace LocSync

open Library

/- The counts that the command prints at its end. -/
structure Report where
  deletedCount : Nat
  createdCount : Nat
  lnLinked : Nat
  lnTotal : Nat
  dvLinked : Nat
  dvTotal : Nat
  deriving DecidableEq, Repr

inductive Outcome where
  | noFacility
  | planned
  | done (report : Report)
  deriving DecidableEq, Repr

/- `dev.delete()` inside of `try ... except Exception`. -/
def dropOrphan
    (dev : Nat) :
    SyncAction Bool :=
  Action.attempt (nodeCall (.deleteDevice dev))

/- The facility of a new device, `NULL` if there is none. -/
def facilityFor
    (fallback : Option Nat)
    (store : NodeStore)
    (node : LocationNode) :
    Option Nat :=
  match node.floor.bind store.facilityOfFloor with
  | some facility => some facility
  | none => fallback

/- A device is made for a node and linked to it. -/
def createFor
    (fallback : Option Nat)
    (row : Nat × LocationNode) :
    SyncAction Unit := do
  let store ← get
  match facilityFor fallback store row.2 with
  | none => throw .integrityError
  | some facility =>
      let dev ←
        nodeCall (.createDevice (row.2.newDevice facility))
      modify fun store => store.linkNode row.1 dev

/- A transaction that fails leaves the tables as they were. -/
def rollBack
    (before after : NodeStore) :
    NodeStore :=
  before.setSyncing after.syncing

/- The verification at the end. -/
def verify
    (store : NodeStore)
    (deletedCount createdCount : Nat) :
    Report where
  deletedCount := deletedCount
  createdCount := createdCount
  lnTotal := countRows store.nodes fun _ _ => true
  lnLinked :=
    countRows store.nodes fun _ node => node.device ≠ none
  dvTotal :=
    countRows store.devices fun _ device =>
      device.deviceType = .loc
  dvLinked :=
    countRows store.devices fun dev device =>
      device.deviceType = .loc ∧ store.nodeOf dev ≠ none

/- The body of the transaction, with both of its counts. -/
def synchronise
    (order : QueryOrder)
    (orphans : List Nat)
    (fallback : Option Nat) :
    SyncAction (Nat × Nat) := do
  let deletedCount ← Action.countEach dropOrphan orphans
  let store ← get
  let rows := order.nodes (unlinkedNodes store)
  Action.forEach (createFor fallback) rows
  pure (deletedCount, rows.length)

/- Nodes are unlinked, and there is no `Facility`. -/
def LacksFacility
    (store : NodeStore) :
    Prop :=
  store.firstFacility = none ∧ unlinkedNodes store ≠ []

instance
    (store : NodeStore) :
    Decidable (LacksFacility store) := by
  unfold LacksFacility
  infer_instance

/- `Command.handle`. -/
def handle
    (order : QueryOrder)
    (dry : Bool) :
    SyncAction Outcome := do
  let store ← get
  -- The listing of the plan has evaluated this query.
  let orphans := order.devices (orphanDevices store)
  let fallback := store.firstFacility
  if LacksFacility store then
    pure .noFacility
  else if dry then
    pure .planned
  else
    let counts ←
      Action.atomically rollBack
        (lnDevSyncGuard (synchronise order orphans fallback))
    let store ← get
    pure (.done (verify store counts.1 counts.2))

end LocSync

end Facilities

end Icmp2

------------------------------------------------------------
-- Answers of the Queries
------------------------------------------------------------

namespace Icmp2

namespace Facilities

namespace LocSync

open Library

section Queries

variable {store : NodeStore}
variable {id dev : Nat}
variable {node : LocationNode}

/- A device of the type `loc` that no node has. -/
def Orphan
    (store : NodeStore)
    (dev : Nat) :
    Prop :=
  (∃ device,
    store.devices.get? dev = some device ∧
      device.deviceType = .loc) ∧
    ∀ id node,
      store.nodes.get? id = some node →
        node.device ≠ some dev

theorem mem_orphanDevices_iff :
    dev ∈ orphanDevices store ↔ Orphan store dev := by
  rw [orphanDevices, List.mem_filter, decide_eq_true_iff,
    Option.any_eq_true]
  constructor
  · rintro ⟨_, ⟨device, hGet, hType⟩, hNone⟩
    refine ⟨⟨device, hGet, of_decide_eq_true hType⟩, ?_⟩
    intro id node hNode
    exact nodeOf_eq_none hNone hNode
  · rintro ⟨⟨device, hGet, hType⟩, hNone⟩
    refine
      ⟨List.mem_range.mpr (Rows.lt_nextId hGet),
        ⟨device, hGet, decide_eq_true hType⟩, ?_⟩
    apply (Rows.find?_eq_none_iff _ _).mpr
    intro id node hNode
    exact decide_eq_false (hNone id node hNode)

theorem mem_unlinkedNodes_iff :
    (id, node) ∈ unlinkedNodes store ↔
      store.nodes.get? id = some node ∧
        node.device = none := by
  rw [unlinkedNodes, List.mem_filterMap]
  constructor
  · rintro ⟨other, _, hRow⟩
    rcases Option.map_eq_some_iff.mp hRow with
      ⟨row, hFilter, hPair⟩
    cases hPair
    rcases Option.filter_eq_some_iff.mp hFilter with
      ⟨hGet, hNone⟩
    exact ⟨hGet, of_decide_eq_true hNone⟩
  · rintro ⟨hGet, hNone⟩
    refine
      ⟨id, List.mem_range.mpr (Rows.lt_nextId hGet), ?_⟩
    apply Option.map_eq_some_iff.mpr
    refine ⟨node, ?_, rfl⟩
    exact
      Option.filter_eq_some_iff.mpr
        ⟨hGet, decide_eq_true hNone⟩

theorem nodup_orphanDevices
    (store : NodeStore) :
    (orphanDevices store).Nodup :=
  List.nodup_range.filter _

/- A node is listed once. -/
theorem nodup_unlinkedNodes
    (store : NodeStore) :
    ((unlinkedNodes store).map Prod.fst).Nodup := by
  have hSub :
      List.Sublist ((unlinkedNodes store).map Prod.fst)
        (List.range store.nodes.nextId) := by
    rw [unlinkedNodes]
    induction List.range store.nodes.nextId with
    | nil => exact List.Sublist.slnil
    | cons other rest ih =>
        rw [List.filterMap_cons]
        cases (store.nodes.get? other).filter
            (·.device = none) with
        | none => exact ih.cons other
        | some row => exact ih.cons_cons other
  exact List.nodup_range.sublist hSub

end Queries

end LocSync

end Facilities

end Icmp2

------------------------------------------------------------
-- Deletion of the Orphans
------------------------------------------------------------

namespace Icmp2

namespace Facilities

namespace LocSync

open Library

/- What `dropOrphan` does to a device that is there. -/
def drop
    (store : NodeStore)
    (dev : Nat) :
    NodeStore :=
  if store.deviceProtected dev then store
  else store.eraseDevice dev

section Drops

variable {store : NodeStore}
variable {dev : Nat}
variable {devs : List Nat}
variable {base : Nat → Nat → Prop}

theorem nodeCall_deleteDevice
    (hOn : store.syncing = true)
    {device : DeviceRow}
    (hGet : store.devices.get? dev = some device) :
    nodeCall (.deleteDevice dev) store =
      if store.deviceProtected dev then
        .error .protectedError store
      else
        .ok dev (store.eraseDevice dev) := by
  rw [nodeCall_eq, handleCall_of_syncing hOn, plainCall]
  cases hHeld : store.deviceProtected dev with
  | true =>
      have hLoad :
          loadDevice dev store =
            .error .protectedError store := by
        simp only [loadDevice, hGet, hHeld, if_true]
      rw [Action.bind_of_error hLoad, if_pos rfl]
  | false =>
      have hLoad := loadDevice_eq_ok_iff.mpr ⟨hGet, hHeld, rfl⟩
      rw [Action.bind_of_ok hLoad, Action.modify_bind,
        if_neg Bool.false_ne_true]
      rfl

theorem dropOrphan_eq
    (hOn : store.syncing = true)
    {device : DeviceRow}
    (hGet : store.devices.get? dev = some device) :
    dropOrphan dev store =
      .ok (!store.deviceProtected dev) (drop store dev) := by
  rw [dropOrphan, Action.attempt,
    nodeCall_deleteDevice hOn hGet, drop]
  cases store.deviceProtected dev <;> rfl

theorem drop_setSyncing
    (syncing : Bool)
    (store : NodeStore)
    (dev : Nat) :
    drop (store.setSyncing syncing) dev =
      (drop store dev).setSyncing syncing := by
  unfold drop
  change ite (store.deviceProtected dev = true) _ _ = _
  split <;> rfl

/- What a deletion does not touch. -/
theorem drop_frame
    (store : NodeStore)
    (dev : Nat) :
    (drop store dev).deviceProtected =
        store.deviceProtected ∧
      (drop store dev).facilityOfFloor =
        store.facilityOfFloor ∧
      (drop store dev).devices.nextId =
        store.devices.nextId ∧
      (drop store dev).syncing = store.syncing := by
  unfold drop
  split <;> exact ⟨rfl, rfl, rfl, rfl⟩

theorem devices_drop
    (store : NodeStore)
    (dev other : Nat)
    (device : DeviceRow) :
    (drop store dev).devices.get? other = some device ↔
      store.devices.get? other = some device ∧
        (other = dev → store.deviceProtected other = true) := by
  unfold drop
  cases hHeld : store.deviceProtected dev with
  | true =>
      rw [if_pos rfl]
      refine (and_iff_left ?_).symm
      rintro rfl
      exact hHeld
  | false =>
      rw [if_neg Bool.false_ne_true]
      constructor
      · intro hGet
        rcases Rows.get?_of_get?_erase hGet with ⟨hNe, hOld⟩
        exact ⟨hOld, fun hSame => absurd hSame hNe⟩
      · rintro ⟨hGet, hKept⟩
        refine (Rows.get?_erase_of_ne ?_ _).trans hGet
        intro hSame
        have hTrue := hKept hSame
        rw [hSame, hHeld] at hTrue
        cases hTrue

/- The devices that the deletions leave. -/
theorem devices_drops
    (store : NodeStore)
    (devs : List Nat)
    (other : Nat)
    (device : DeviceRow) :
    (run drop store devs).devices.get? other =
        some device ↔
      store.devices.get? other = some device ∧
        (other ∈ devs →
          store.deviceProtected other = true) := by
  induction devs generalizing store with
  | nil =>
      refine (and_iff_left ?_).symm
      intro hMem
      cases hMem
  | cons dev devs ih =>
      rw [run_cons, ih, (drop_frame store dev).1,
        devices_drop, and_assoc]
      refine and_congr_right fun _ => ?_
      constructor
      · rintro ⟨hHead, hTail⟩ hMem
        exact (List.mem_cons.mp hMem).elim hHead hTail
      · intro hBoth
        constructor
        · intro hSame
          exact hBoth (List.mem_cons.mpr (Or.inl hSame))
        · intro hMem
          exact hBoth (List.mem_cons_of_mem dev hMem)

theorem drops_frame
    (store : NodeStore)
    (devs : List Nat) :
    (run drop store devs).deviceProtected =
        store.deviceProtected ∧
      (run drop store devs).facilityOfFloor =
        store.facilityOfFloor ∧
      (run drop store devs).devices.nextId =
        store.devices.nextId ∧
      (run drop store devs).syncing = store.syncing := by
  induction devs generalizing store with
  | nil => exact ⟨rfl, rfl, rfl, rfl⟩
  | cons dev devs ih =>
      rcases ih (drop store dev) with
        ⟨hHeld, hFloors, hNext, hGuard⟩
      rcases drop_frame store dev with
        ⟨hHeldOne, hFloorsOne, hNextOne, hGuardOne⟩
      exact
        ⟨hHeld.trans hHeldOne, hFloors.trans hFloorsOne,
          hNext.trans hNextOne, hGuard.trans hGuardOne⟩

/- Devices without nodes go, and the nodes stay. -/
theorem nodes_drops
    (hNone :
      ∀ dev ∈ devs,
        ∀ id node,
          store.nodes.get? id = some node →
            node.device ≠ some dev)
    (id : Nat) :
    (run drop store devs).nodes.get? id =
      store.nodes.get? id := by
  induction devs generalizing store with
  | nil => rfl
  | cons dev devs ih =>
      have hHead :
          ∀ other,
            (drop store dev).nodes.get? other =
              store.nodes.get? other := by
        intro other
        unfold drop
        split
        · rfl
        · exact nodes_eraseDevice
            (hNone dev List.mem_cons_self) other
      rw [run_cons, ih, hHead]
      intro other hMem row node hNode
      rw [hHead] at hNode
      exact
        hNone other (List.mem_cons_of_mem dev hMem) row node
          hNode

/- The loop over the orphans, and what it counts. -/
theorem countEach_dropOrphan
    (hOn : store.syncing = true)
    (hNodup : devs.Nodup)
    (hStored :
      ∀ dev ∈ devs,
        ∃ device, store.devices.get? dev = some device) :
    Action.countEach dropOrphan devs store =
      .ok
        (devs.countP fun dev => !store.deviceProtected dev)
        (run drop store devs) := by
  apply
    Action.countEach_eq
      (I := fun now rest =>
        now.syncing = true ∧
          now.deviceProtected = store.deviceProtected ∧
          rest.Nodup ∧
          ∀ dev ∈ rest,
            ∃ device, now.devices.get? dev = some device)
  · rintro now dev rest ⟨hGuard, hHeld, hApart, hThere⟩
    rcases hThere dev List.mem_cons_self with
      ⟨device, hGet⟩
    rcases drop_frame now dev with
      ⟨hHeldKept, _, _, hGuardKept⟩
    rw [← hHeld]
    refine
      ⟨dropOrphan_eq hGuard hGet, hGuardKept.trans hGuard,
        hHeldKept, (List.nodup_cons.mp hApart).2, ?_⟩
    intro other hMem
    rcases hThere other (List.mem_cons_of_mem dev hMem) with
      ⟨row, hRow⟩
    refine ⟨row, (devices_drop now dev other row).mpr ?_⟩
    refine ⟨hRow, ?_⟩
    rintro rfl
    exact absurd hMem (List.nodup_cons.mp hApart).1
  · exact ⟨hOn, rfl, hNodup, hStored⟩

end Drops

end LocSync

end Facilities

end Icmp2

------------------------------------------------------------
-- Devices for the Unlinked Nodes
------------------------------------------------------------

namespace Icmp2

namespace Facilities

namespace LocSync

open Library

/- What `createFor` does where it raises nothing. -/
def pair
    (fallback : Option Nat)
    (store : NodeStore)
    (row : Nat × LocationNode) :
    NodeStore :=
  match facilityFor fallback store row.2 with
  | none => store
  | some facility =>
      NodeStore.linkNode
        { store with
          devices :=
            store.devices.insert
              (row.2.newDevice facility) }
        row.1 store.devices.nextId

/- There is a facility, and the database takes the device. -/
def Pairable
    (fallback : Option Nat)
    (store : NodeStore)
    (row : Nat × LocationNode) :
    Prop :=
  ∃ facility,
    facilityFor fallback store row.2 = some facility ∧
      store.deviceFault? store.devices.nextId
          (row.2.newDevice facility) =
        none

section Pairs

variable {store : NodeStore}
variable {fallback : Option Nat}
variable {row : Nat × LocationNode}
variable {facility : Nat}

theorem pair_of_facility
    (hFacility :
      facilityFor fallback store row.2 = some facility) :
    pair fallback store row =
      NodeStore.linkNode
        { store with
          devices :=
            store.devices.insert
              (row.2.newDevice facility) }
        row.1 store.devices.nextId := by
  simp only [pair, hFacility]

theorem linkNode_frame
    (store : NodeStore)
    (id dev : Nat) :
    (store.linkNode id dev).devices = store.devices ∧
      (store.linkNode id dev).deviceProtected =
        store.deviceProtected ∧
      (store.linkNode id dev).facilityOfFloor =
        store.facilityOfFloor ∧
      (store.linkNode id dev).syncing = store.syncing := by
  unfold NodeStore.linkNode
  split <;> exact ⟨rfl, rfl, rfl, rfl⟩

/- What a new pair does not touch. -/
theorem pair_frame
    (fallback : Option Nat)
    (store : NodeStore)
    (row : Nat × LocationNode) :
    (pair fallback store row).deviceProtected =
        store.deviceProtected ∧
      (pair fallback store row).facilityOfFloor =
        store.facilityOfFloor ∧
      (pair fallback store row).syncing =
        store.syncing := by
  unfold pair
  split
  · exact ⟨rfl, rfl, rfl⟩
  · exact (linkNode_frame _ _ _).2

theorem linkNode_setSyncing
    (syncing : Bool)
    (store : NodeStore)
    (id dev : Nat) :
    (store.setSyncing syncing).linkNode id dev =
      (store.linkNode id dev).setSyncing syncing := by
  have hRows :
      (store.setSyncing syncing).nodes.get? id =
        store.nodes.get? id :=
    rfl
  unfold NodeStore.linkNode
  rw [hRows]
  split <;> rfl

theorem pair_setSyncing
    (syncing : Bool)
    (fallback : Option Nat)
    (store : NodeStore)
    (row : Nat × LocationNode) :
    pair fallback (store.setSyncing syncing) row =
      (pair fallback store row).setSyncing syncing := by
  have hSame :
      facilityFor fallback (store.setSyncing syncing) row.2 =
        facilityFor fallback store row.2 :=
    rfl
  unfold pair
  rw [hSame]
  cases facilityFor fallback store row.2 with
  | none => rfl
  | some facility =>
      exact
        linkNode_setSyncing syncing
          { store with
            devices :=
              store.devices.insert
                (row.2.newDevice facility) }
          row.1 store.devices.nextId

theorem nodeCall_createDevice
    (hOn : store.syncing = true)
    (device : DeviceRow) :
    nodeCall (.createDevice device) store =
      insertDevice device store := by
  rw [nodeCall_eq, handleCall_of_syncing hOn, plainCall]

theorem createFor_of_pairable
    (hOn : store.syncing = true)
    (hPairable : Pairable fallback store row) :
    createFor fallback row store =
      .ok () (pair fallback store row) := by
  rcases hPairable with ⟨facility, hFacility, hFault⟩
  rw [createFor, Action.get_bind,
    pair_of_facility hFacility]
  simp only [hFacility]
  rw [Action.bind_of_ok
    ((nodeCall_createDevice hOn _).trans
      (insertDevice_of_none hFault))]
  rfl

theorem createFor_of_not_pairable
    (hOn : store.syncing = true)
    (hNot : ¬ Pairable fallback store row) :
    ∃ error later,
      createFor fallback row store =
        .error error later := by
  rw [createFor, Action.get_bind]
  cases hFacility : facilityFor fallback store row.2 with
  | none => exact ⟨.integrityError, store, rfl⟩
  | some facility =>
      cases hFault :
          store.deviceFault? store.devices.nextId
            (row.2.newDevice facility) with
      | none => exact absurd ⟨facility, hFacility, hFault⟩ hNot
      | some error =>
          refine ⟨error, store, ?_⟩
          exact
            Action.bind_of_error
              ((nodeCall_createDevice hOn _).trans
                (insertDevice_of_some hFault))

/- The loop over the nodes does one pair after the other. -/
theorem steps_createFor
    (fallback : Option Nat) :
    Action.Steps (fun store => store.syncing = true)
      (pair fallback) (Pairable fallback)
      (createFor fallback) where
  returns := fun _ _ hOn hGood =>
    createFor_of_pairable hOn hGood
  raises := fun _ _ hOn hNot =>
    createFor_of_not_pairable hOn hNot
  keeps := fun store row hOn _ =>
    (pair_frame fallback store row).2.2.trans hOn

end Pairs

end LocSync

end Facilities

end Icmp2

------------------------------------------------------------
-- Transaction
------------------------------------------------------------

namespace Icmp2

namespace Facilities

namespace LocSync

open Library

/- The tables without the orphans that could be deleted. -/
def dropped
    (order : QueryOrder)
    (store : NodeStore) :
    NodeStore :=
  run drop store (order.devices (orphanDevices store))

/- The nodes that get a device, in the order of the loop. -/
def rowsToPair
    (order : QueryOrder)
    (store : NodeStore) :
    List (Nat × LocationNode) :=
  order.nodes (unlinkedNodes (dropped order store))

/- The tables after a transaction that was committed. -/
def synced
    (order : QueryOrder)
    (store : NodeStore) :
    NodeStore :=
  run (pair store.firstFacility) (dropped order store)
    (rowsToPair order store)

/- No node of the loop raises an exception. -/
def AllPairable
    (order : QueryOrder)
    (store : NodeStore) :
    Prop :=
  Along (pair store.firstFacility)
    (Pairable store.firstFacility) (dropped order store)
    (rowsToPair order store)

def deletedCount
    (order : QueryOrder)
    (store : NodeStore) :
    Nat :=
  (order.devices (orphanDevices store)).countP fun dev =>
    !store.deviceProtected dev

section Transaction

variable {store later : NodeStore}
variable {order : QueryOrder}
variable {counts : Nat × Nat}

/- The body of the transaction, under the guard. -/
theorem synchronise_eq_ok_iff
    (hOn : store.syncing = true) :
    synchronise order
        (order.devices (orphanDevices store))
        store.firstFacility store =
      .ok counts later ↔
      AllPairable order store ∧
        counts =
          (deletedCount order store,
            (rowsToPair order store).length) ∧
        later = synced order store := by
  have hDrops :
      Action.countEach dropOrphan
          (order.devices (orphanDevices store)) store =
        .ok (deletedCount order store)
          (dropped order store) := by
    apply countEach_dropOrphan hOn
    · exact
        (order.permDevices _).nodup_iff.mpr
          (nodup_orphanDevices store)
    · intro dev hMem
      have hOrphan :=
        mem_orphanDevices_iff.mp
          ((order.permDevices _).mem_iff.mp hMem)
      rcases hOrphan.1 with ⟨device, hGet, _⟩
      exact ⟨device, hGet⟩
  have hStill : (dropped order store).syncing = true :=
    (drops_frame store _).2.2.2.trans hOn
  rw [synchronise, Action.bind_of_ok hDrops,
    Action.get_bind, Action.bind_eq_ok_iff]
  constructor
  · rintro ⟨_, middle, hLoop, hCounts⟩
    have hRun :=
      (Action.forEach_eq_ok_iff (steps_createFor _) hStill
        _).mp hLoop
    injection hCounts with hValue hLater
    exact ⟨hRun.1, hValue.symm, hLater.symm.trans hRun.2⟩
  · rintro ⟨hPairable, rfl, rfl⟩
    refine ⟨(), synced order store, ?_, rfl⟩
    exact
      (Action.forEach_eq_ok_iff (steps_createFor _) hStill
        _).mpr ⟨hPairable, rfl⟩

theorem dropped_setSyncing
    (syncing : Bool)
    (order : QueryOrder)
    (store : NodeStore) :
    dropped order (store.setSyncing syncing) =
      (dropped order store).setSyncing syncing :=
  run_commute (drop_setSyncing syncing) store _

theorem rowsToPair_setSyncing
    (syncing : Bool)
    (order : QueryOrder)
    (store : NodeStore) :
    rowsToPair order (store.setSyncing syncing) =
      rowsToPair order store := by
  rw [rowsToPair, dropped_setSyncing]
  rfl

theorem synced_setSyncing
    (syncing : Bool)
    (order : QueryOrder)
    (store : NodeStore) :
    synced order (store.setSyncing syncing) =
      (synced order store).setSyncing syncing := by
  rw [synced, dropped_setSyncing, rowsToPair_setSyncing]
  exact run_commute (pair_setSyncing syncing _) _ _

theorem allPairable_setSyncing
    (syncing : Bool)
    (order : QueryOrder)
    (store : NodeStore) :
    AllPairable order (store.setSyncing syncing) ↔
      AllPairable order store := by
  rw [AllPairable, dropped_setSyncing,
    rowsToPair_setSyncing]
  exact
    along_commute (pair_setSyncing syncing _)
      (fun _ _ => Iff.rfl) _ _

theorem synced_syncing
    (order : QueryOrder)
    (store : NodeStore) :
    (synced order store).syncing = store.syncing := by
  have hPairs :
      ∀ rows now,
        (run (pair store.firstFacility) now rows).syncing =
          now.syncing := by
    intro rows
    induction rows with
    | nil => intro now; rfl
    | cons row rows ih =>
        intro now
        rw [run_cons, ih, (pair_frame _ now row).2.2]
  rw [synced, hPairs]
  exact (drops_frame store _).2.2.2

theorem setSyncing_of_eq
    {syncing : Bool}
    (hSame : store.syncing = syncing) :
    store.setSyncing syncing = store := by
  subst hSame
  rfl

/- The transaction, from the state of a call. -/
theorem transaction_eq_ok_iff
    (hOff : store.syncing = false) :
    Action.atomically rollBack
        (lnDevSyncGuard
          (synchronise order
            (order.devices (orphanDevices store))
            store.firstFacility)) store =
      .ok counts later ↔
      AllPairable order store ∧
        counts =
          (deletedCount order store,
            (rowsToPair order store).length) ∧
        later = synced order store := by
  have hBody : ∀ inner : NodeStore,
      synchronise order
          (order.devices
            (orphanDevices (store.setSyncing true)))
          (store.setSyncing true).firstFacility
          (store.setSyncing true) =
        .ok counts inner ↔ _ :=
    fun _ => synchronise_eq_ok_iff rfl
  rw [Action.atomically_eq_ok_iff, lnDevSyncGuard,
    Action.bracket]
  simp only [rowsToPair_setSyncing, synced_setSyncing,
    allPairable_setSyncing] at hBody
  have hBack :
      ((synced order store).setSyncing true).setSyncing
          false =
        synced order store :=
    setSyncing_of_eq ((synced_syncing order store).trans hOff)
  constructor
  · intro hOk
    cases hResult :
        synchronise order
          (order.devices (orphanDevices store))
          store.firstFacility (store.setSyncing true) with
    | error error after =>
        rw [hResult] at hOk
        cases hOk
    | ok value after =>
        rw [hResult] at hOk
        injection hOk with hValue hLater
        subst hValue
        rcases (hBody after).mp hResult with
          ⟨hPairable, hCounts, rfl⟩
        exact
          ⟨hPairable, hCounts, hLater.symm.trans hBack⟩
  · rintro ⟨hPairable, hCounts, rfl⟩
    have hResult := (hBody _).mpr ⟨hPairable, hCounts, rfl⟩
    simp only [
      show
        synchronise order
            (order.devices (orphanDevices store))
            store.firstFacility (store.setSyncing true) =
          _ from hResult, hBack]

end Transaction

end LocSync

end Facilities

end Icmp2

------------------------------------------------------------
-- Outcomes
------------------------------------------------------------

namespace Icmp2

namespace Facilities

namespace LocSync

open Library

section Outcomes

variable {store later : NodeStore}
variable {order : QueryOrder}
variable {report : Report}

/- The guard is off behind its block. -/
theorem guard_left
    {R : Type}
    {action : SyncAction R}
    {error : SyncError}
    (hError :
      lnDevSyncGuard action store = .error error later) :
    later.syncing = false := by
  unfold lnDevSyncGuard Action.bracket at hError
  cases hResult : action (store.setSyncing true) with
  | ok value after =>
      simp only [hResult] at hError
      cases hError
  | error raised after =>
      simp only [hResult] at hError
      injection hError with _ hLater
      rw [← hLater]
      rfl

/- A call that is not a dry run and has a facility. -/
theorem handle_of_facility
    (hFacility : ¬ LacksFacility store) :
    handle order false store =
      (do
        let counts ←
          Action.atomically rollBack
            (lnDevSyncGuard
              (synchronise order
                (order.devices (orphanDevices store))
                store.firstFacility))
        let store ← get
        pure (.done (verify store counts.1 counts.2)) :
          SyncAction Outcome) store := by
  rw [handle, Action.get_bind, if_neg hFacility,
    if_neg Bool.false_ne_true]

theorem handle_eq_done_iff
    (hOff : store.syncing = false) :
    handle order false store = .ok (.done report) later ↔
      ¬ LacksFacility store ∧
        AllPairable order store ∧
        report =
          verify (synced order store)
            (deletedCount order store)
            (rowsToPair order store).length ∧
        later = synced order store := by
  by_cases hFacility : LacksFacility store
  · refine iff_of_false ?_ (fun hBoth => hBoth.1 hFacility)
    intro hOk
    rw [handle, Action.get_bind, if_pos hFacility] at hOk
    cases hOk
  · rw [handle_of_facility hFacility, Action.bind_eq_ok_iff]
    constructor
    · rintro ⟨counts, middle, hBody, hEnd⟩
      rcases (transaction_eq_ok_iff hOff).mp hBody with
        ⟨hPairable, rfl, rfl⟩
      injection hEnd with hValue hLater
      injection hValue with hReport
      exact
        ⟨hFacility, hPairable, hReport.symm, hLater.symm⟩
    · rintro ⟨_, hPairable, rfl, rfl⟩
      exact
        ⟨_, _,
          (transaction_eq_ok_iff hOff).mpr
            ⟨hPairable, rfl, rfl⟩,
          rfl⟩

/- A dry run lists its plan, or says what is missing. -/
theorem handle_dry
    (order : QueryOrder)
    (store : NodeStore) :
    handle order true store =
      .ok
        (if LacksFacility store then .noFacility
        else .planned)
        store := by
  rw [handle, Action.get_bind]
  by_cases hFacility : LacksFacility store
  · rw [if_pos hFacility, if_pos hFacility]
    rfl
  · rw [if_neg hFacility, if_neg hFacility, if_pos rfl]
    rfl

/- Only a command that is done writes anything. -/
theorem stateAfter_handle_of_not_done
    (hOff : store.syncing = false)
    {dry : Bool}
    (hNot :
      ∀ report later,
        handle order dry store ≠ .ok (.done report) later) :
    (handle order dry).stateAfter store = store := by
  by_cases hFacility : LacksFacility store
  · apply Action.stateAfter_of_ok
    rw [handle, Action.get_bind, if_pos hFacility]
    rfl
  · cases dry with
    | true =>
        exact Action.stateAfter_of_ok (handle_dry order store)
    | false =>
        rw [Action.stateAfter_congr
          (handle_of_facility hFacility)]
        cases hBody :
            Action.atomically rollBack
              (lnDevSyncGuard
                (synchronise order
                  (order.devices (orphanDevices store))
                  store.firstFacility)) store with
        | ok counts middle =>
            have hDone :
                handle order false store =
                  .ok
                    (.done
                      (verify middle counts.1 counts.2))
                    middle := by
              rw [handle_of_facility hFacility,
                Action.bind_of_ok hBody]
              rfl
            exact absurd hDone (hNot _ _)
        | error error later =>
            rw [Action.stateAfter_bind_of_error hBody]
            rcases Action.atomically_eq_error hBody with
              ⟨after, hError, rfl⟩
            exact
              setSyncing_of_eq
                (hOff.trans (guard_left hError).symm)

end Outcomes

end LocSync

end Facilities

end Icmp2

------------------------------------------------------------
-- Completion
------------------------------------------------------------

namespace Icmp2

namespace Facilities

namespace LocSync

open Library

/- What the columns of the node table guarantee. -/
structure Constrained
    (store : NodeStore) :
    Prop where
  fits : store.nodes.All LocationNode.Fits
  codes :
    store.nodes.UniqueBy fun node => some node.nodeCode

/-
  No unlinked node has the code that is the uid of a device,
  unless the device is an orphan that can be deleted.
-/
def CodesFree
    (store : NodeStore) :
    Prop :=
  ∀ id node dev device,
    store.nodes.get? id = some node →
    node.device = none →
    store.devices.get? dev = some device →
    (Orphan store dev → store.deviceProtected dev = true) →
      device.deviceUid ≠ node.nodeCode

section Completion

variable {store now : NodeStore}
variable {order : QueryOrder}
variable {fallback : Option Nat}
variable {row : Nat × LocationNode}
variable {rows : List (Nat × LocationNode)}
variable {id : Nat}
variable {node : LocationNode}

theorem fits_newDevice
    (hFits : node.Fits)
    (facility : Nat) :
    (node.newDevice facility).Fits := by
  refine ⟨?_, hFits.2, ?_⟩
  · exact hFits.1.trans (by decide)
  · exact hFits.2.trans (by decide)

theorem pairable_iff
    (hFits : row.2.Fits)
    (hFacility : fallback ≠ none) :
    Pairable fallback now row ↔
      ∀ dev device,
        now.devices.get? dev = some device →
          device.deviceUid ≠ row.2.nodeCode := by
  have hGiven :
      ∃ facility,
        facilityFor fallback now row.2 = some facility := by
    rcases Option.ne_none_iff_exists'.mp hFacility with
      ⟨first, hFirst⟩
    unfold facilityFor
    split
    · exact ⟨_, rfl⟩
    · exact ⟨first, hFirst⟩
  have hFault :
      ∀ facility,
        now.deviceFault? now.devices.nextId
              (row.2.newDevice facility) =
            none ↔
          ∀ dev device,
            now.devices.get? dev = some device →
              device.deviceUid ≠ row.2.nodeCode := by
    intro facility
    rw [NodeStore.deviceFault?,
      if_neg (not_not.mpr (fits_newDevice hFits facility)),
      ite_eq_right_iff, Rows.free_nextId_iff]
    constructor
    · intro hNone
      by_contra hTaken
      cases hNone hTaken
    · intro hFree hTaken
      exact absurd hFree hTaken
  constructor
  · rintro ⟨facility, _, hNone⟩
    exact (hFault facility).mp hNone
  · intro hFree
    rcases hGiven with ⟨facility, hFound⟩
    exact ⟨facility, hFound, (hFault facility).mpr hFree⟩

/- The devices after a step are the old ones and a new one. -/
theorem devices_pair
    (hPairable : Pairable fallback now row) :
    ∃ facility,
      facilityFor fallback now row.2 = some facility ∧
        (pair fallback now row).devices =
          now.devices.insert (row.2.newDevice facility) := by
  rcases hPairable with ⟨facility, hFacility, _⟩
  refine ⟨facility, hFacility, ?_⟩
  rw [pair_of_facility hFacility]
  exact (linkNode_frame _ _ _).1

/- The loop raises nothing if all codes are free before it. -/
theorem along_pairable_iff
    (hFacility : fallback ≠ none)
    (hFits : ∀ row ∈ rows, row.2.Fits)
    (hCodes :
      (rows.map fun row => row.2.nodeCode).Nodup) :
    Along (pair fallback) (Pairable fallback) now rows ↔
      ∀ row ∈ rows,
        ∀ dev device,
          now.devices.get? dev = some device →
            device.deviceUid ≠ row.2.nodeCode := by
  induction rows generalizing now with
  | nil => exact iff_of_true trivial (List.forall_mem_nil _)
  | cons row rows ih =>
      rw [List.map_cons, List.nodup_cons] at hCodes
      have hHeadFits := hFits row List.mem_cons_self
      have hTailFits :
          ∀ other ∈ rows, other.2.Fits := by
        intro other hMem
        exact hFits other (List.mem_cons_of_mem row hMem)
      have hHead :
          Pairable fallback now row ↔
            ∀ dev device,
              now.devices.get? dev = some device →
                device.deviceUid ≠ row.2.nodeCode :=
        pairable_iff hHeadFits hFacility
      have hRest :
          Along (pair fallback) (Pairable fallback)
              (pair fallback now row) rows ↔
            ∀ other ∈ rows,
              ∀ dev device,
                (pair fallback now row).devices.get? dev =
                    some device →
                  device.deviceUid ≠ other.2.nodeCode :=
        ih hTailFits hCodes.2
      change
        Pairable fallback now row ∧
            Along (pair fallback) (Pairable fallback)
              (pair fallback now row) rows ↔ _
      rw [hHead, hRest, List.forall_mem_cons]
      refine and_congr_right fun hFree => ?_
      rcases devices_pair (hHead.mpr hFree) with
        ⟨facility, _, hDevices⟩
      rw [hDevices]
      refine forall_congr' fun other => ?_
      refine forall_congr' fun hMem => ?_
      have hApart : row.2.nodeCode ≠ other.2.nodeCode := by
        intro hSame
        apply hCodes.1
        rw [hSame]
        exact List.mem_map_of_mem hMem
      constructor
      · intro hAll dev device hGet
        exact
          hAll dev device (Rows.get?_insert_of_get? hGet _)
      · intro hAll dev device hGet
        rcases Rows.get?_of_get?_insert hGet with
          ⟨_, rfl⟩ | ⟨_, hOld⟩
        · exact hApart
        · exact hAll dev device hOld

/- The deletions leave the nodes as they are. -/
theorem nodes_dropped
    (order : QueryOrder)
    (store : NodeStore)
    (id : Nat) :
    (dropped order store).nodes.get? id =
      store.nodes.get? id := by
  apply nodes_drops
  intro dev hMem
  exact
    (mem_orphanDevices_iff.mp
      ((order.permDevices _).mem_iff.mp hMem)).2

theorem mem_rowsToPair_iff :
    (id, node) ∈ rowsToPair order store ↔
      store.nodes.get? id = some node ∧
        node.device = none := by
  rw [rowsToPair, (order.permNodes _).mem_iff,
    mem_unlinkedNodes_iff, nodes_dropped]

theorem devices_dropped
    (order : QueryOrder)
    (store : NodeStore)
    (dev : Nat)
    (device : DeviceRow) :
    (dropped order store).devices.get? dev = some device ↔
      store.devices.get? dev = some device ∧
        (Orphan store dev →
          store.deviceProtected dev = true) := by
  rw [dropped, devices_drops,
    (order.permDevices _).mem_iff, mem_orphanDevices_iff]

/- A node is treated once. -/
theorem nodup_rowsToPair
    (order : QueryOrder)
    (store : NodeStore) :
    ((rowsToPair order store).map Prod.fst).Nodup :=
  ((order.permNodes _).map _).nodup_iff.mpr
    (nodup_unlinkedNodes _)

/- The codes of the loop are those of different nodes. -/
theorem nodup_codes
    (hCodes :
      store.nodes.UniqueBy fun node => some node.nodeCode)
    (order : QueryOrder) :
    ((rowsToPair order store).map fun row =>
      row.2.nodeCode).Nodup := by
  have hIds := nodup_rowsToPair order store
  rw [List.Nodup, List.pairwise_map] at hIds ⊢
  apply hIds.imp_of_mem
  intro left right hLeft hRight hNe hSame
  apply hNe
  exact
    hCodes left.1 right.1 left.2 right.2 left.2.nodeCode
      (mem_rowsToPair_iff.mp hLeft).1
      (mem_rowsToPair_iff.mp hRight).1 rfl
      (congrArg some hSame.symm)

/- The loop of a command raises nothing if codes are free. -/
theorem allPairable_iff
    (hConstrained : Constrained store)
    (hFacility : ¬ LacksFacility store)
    (order : QueryOrder) :
    AllPairable order store ↔ CodesFree store := by
  have hRows :
      CodesFree store ↔
        ∀ row ∈ rowsToPair order store,
          ∀ dev device,
            (dropped order store).devices.get? dev =
                some device →
              device.deviceUid ≠ row.2.nodeCode := by
    constructor
    · intro hFree row hMem dev device hGet
      rcases mem_rowsToPair_iff.mp hMem with
        ⟨hNode, hNone⟩
      rcases (devices_dropped order store dev device).mp
          hGet with
        ⟨hOld, hHeld⟩
      exact
        hFree row.1 row.2 dev device hNode hNone hOld hHeld
    · intro hAll id node dev device hNode hNone hOld hHeld
      exact
        hAll (id, node)
          (mem_rowsToPair_iff.mpr ⟨hNode, hNone⟩) dev device
          ((devices_dropped order store dev device).mpr
            ⟨hOld, hHeld⟩)
  rw [hRows]
  by_cases hFirst : store.firstFacility = none
  · have hNil : rowsToPair order store = [] := by
      apply List.eq_nil_iff_forall_not_mem.mpr
      rintro ⟨id, node⟩ hMem
      apply hFacility
      refine ⟨hFirst, ?_⟩
      exact
        List.ne_nil_of_mem
          (mem_unlinkedNodes_iff.mpr
            (mem_rowsToPair_iff.mp hMem))
    rw [AllPairable, hNil]
    exact iff_of_true trivial (List.forall_mem_nil _)
  · apply along_pairable_iff hFirst _
      (nodup_codes hConstrained.codes order)
    intro row hMem
    exact
      hConstrained.fits row.1 row.2
        (mem_rowsToPair_iff.mp hMem).1

end Completion

end LocSync

end Facilities

end Icmp2

------------------------------------------------------------
-- Exact Completion
------------------------------------------------------------

namespace Icmp2

namespace Facilities

namespace LocSync

open Library

/-
  The command is done exactly if there is a facility to fall
  back on and the codes of the unlinked nodes are free; in
  any other case it leaves the tables and the guard as they
  were, and so does every dry run.
-/
theorem command_completes_iff
    {store : NodeStore}
    (hConstrained : Constrained store)
    (hOff : store.syncing = false)
    (order : QueryOrder) :
    ((∃ report later,
        handle order false store =
          .ok (.done report) later) ↔
      ¬ LacksFacility store ∧ CodesFree store) ∧
      ((∀ report later,
          handle order false store ≠
            .ok (.done report) later) →
        (handle order false).stateAfter store = store) ∧
      handle order true store =
        .ok
          (if LacksFacility store then .noFacility
          else .planned)
          store := by
  refine ⟨?_, ?_, handle_dry order store⟩
  · constructor
    · rintro ⟨report, later, hDone⟩
      rcases (handle_eq_done_iff hOff).mp hDone with
        ⟨hFacility, hPairable, _⟩
      refine ⟨hFacility, ?_⟩
      exact
        (allPairable_iff hConstrained hFacility order).mp
          hPairable
    · rintro ⟨hFacility, hFree⟩
      have hPairable :=
        (allPairable_iff hConstrained hFacility order).mpr
          hFree
      exact
        ⟨_, _,
          (handle_eq_done_iff hOff).mpr
            ⟨hFacility, hPairable, rfl, rfl⟩⟩
  · intro hNot
    exact stateAfter_handle_of_not_done hOff hNot

/- The queries answer by id. -/
def byId : QueryOrder where
  devices := id
  nodes := id
  permDevices := fun rows => List.Perm.refl rows
  permNodes := fun rows => List.Perm.refl rows

/- A node and a device of one code, entered separately. -/
def separateStore : NodeStore :=
  { NodeStore.initial (fun _ => none) (some 1) with
    nodes := Rows.empty.insert gateNode
    devices := Rows.empty.insert gateDevice }

theorem constrained_separateStore :
    Constrained separateStore where
  fits := by
    have hFits : gateNode.Fits := by
      decide +kernel
    exact Rows.All.empty.insert hFits
  codes := by
    have hFree :
        Rows.Free (fun node => some node.nodeCode)
          Rows.empty 0 gateNode := by
      decide +kernel
    exact Rows.UniqueBy.empty.insert hFree

theorem codesFree_separateStore :
    CodesFree separateStore := by
  intro id node dev device hNode hNone hDevice hHeld
  have hNobody :
      ∀ other row,
        separateStore.nodes.get? other = some row →
          row.device ≠ some dev := by
    intro other row hRow hLink
    rcases Rows.get?_of_get?_insert hRow with
      ⟨_, rfl⟩ | ⟨_, hOld⟩
    · cases hLink
    · cases hOld
  rcases Rows.get?_of_get?_insert hDevice with
    ⟨_, rfl⟩ | ⟨_, hOld⟩
  · cases hHeld ⟨⟨gateDevice, hDevice, rfl⟩, hNobody⟩
  · cases hOld

theorem not_lacksFacility_separateStore :
    ¬ LacksFacility separateStore := by
  decide +kernel

/- The device is in the way of its code, and is deleted. -/
theorem command_completes_separate :
    ∃ report later,
      handle byId false separateStore =
        .ok (.done report) later :=
  (command_completes_iff constrained_separateStore rfl
    byId).1.mpr
      ⟨not_lacksFacility_separateStore,
        codesFree_separateStore⟩

end LocSync

end Facilities

end Icmp2
