import Icmp2.Facilities.NodeSync

/-
  The receivers of the signals, case by case.

  Main definitions include:
    * `Icmp2.Facilities.plainCall`

  Main theorems include:
    * `Icmp2.Facilities.handleCall_of_syncing`
    * `Icmp2.Facilities.shielded_handleCall`
    * `Icmp2.Facilities.cascade_eq_nodeCall`
    * `Icmp2.Facilities.blind_plainCall`
    * `Icmp2.Facilities.plain_lnToDeviceSync_unlinked`
    * `Icmp2.Facilities.plain_lnToDeviceSync_linked`
    * `Icmp2.Facilities.plain_deviceToLnSync_linked`
    * `Icmp2.Facilities.plain_deviceToLnSync_created`

  With the guard on a call sends no signals that do
  anything, so no cascade is deeper than two.
-/

------------------------------------------------------------
-- Shared Fields
------------------------------------------------------------

namespace Icmp2

namespace Facilities

open Library

theorem ite_ne_eq_nil_iff
    {T : Type}
    [DecidableEq T]
    (old new : T)
    (field : SharedField) :
    (if old ≠ new then [field] else []) = [] ↔
      old = new := by
  by_cases hSame : old = new
  · rw [if_neg (not_not.mpr hSame)]
    exact iff_of_true rfl hSame
  · rw [if_pos hSame]
    exact iff_of_false (List.cons_ne_nil _ _) hSame

theorem dirtyFields_eq_nil_iff
    (old new : Shared) :
    dirtyFields old new = [] ↔ old = new := by
  rcases old with ⟨name, floor, active⟩
  rcases new with ⟨newName, newFloor, newActive⟩
  rw [Shared.mk.injEq, dirtyFields,
    List.append_eq_nil_iff, List.append_eq_nil_iff,
    and_assoc, ite_ne_eq_nil_iff, ite_ne_eq_nil_iff,
    ite_ne_eq_nil_iff]

theorem name_mem_dirtyFields_iff
    (old new : Shared) :
    SharedField.name ∈ dirtyFields old new ↔
      old.name ≠ new.name := by
  simp [dirtyFields]

theorem floor_mem_dirtyFields_iff
    (old new : Shared) :
    SharedField.floor ∈ dirtyFields old new ↔
      old.floor ≠ new.floor := by
  simp [dirtyFields]

theorem active_mem_dirtyFields_iff
    (old new : Shared) :
    SharedField.active ∈ dirtyFields old new ↔
      old.active ≠ new.active := by
  simp [dirtyFields]

/- What is not dirty is equal already. -/
theorem ite_ne_eq
    {T : Type}
    [DecidableEq T]
    (old new : T) :
    (if old ≠ new then new else old) = new := by
  by_cases hSame : old = new
  · rw [if_neg (not_not.mpr hSame), hSame]
  · rw [if_pos hSame]

theorem active_statusOfActive
    (active : Bool) :
    (statusOfActive active == NodeStatus.active) =
      active := by
  cases active <;> rfl

theorem LocationNode.shared_write_dirty
    (node : LocationNode)
    (shared : Shared) :
    (node.write (dirtyFields node.shared shared)
      shared).shared = shared := by
  rcases shared with ⟨name, floor, active⟩
  rw [LocationNode.write, LocationNode.shared,
    Shared.mk.injEq]
  simp only [name_mem_dirtyFields_iff,
    floor_mem_dirtyFields_iff, active_mem_dirtyFields_iff]
  refine ⟨ite_ne_eq .., ite_ne_eq .., ?_⟩
  by_cases hSame : node.shared.active = active
  · rw [if_neg (not_not.mpr hSame)]
    exact hSame
  · rw [if_pos hSame, active_statusOfActive]

theorem DeviceRow.shared_write_dirty
    (device : DeviceRow)
    (shared : Shared) :
    (device.write (dirtyFields device.shared shared)
      shared).shared = shared := by
  rcases shared with ⟨name, floor, active⟩
  rw [DeviceRow.write, DeviceRow.shared, Shared.mk.injEq]
  simp only [name_mem_dirtyFields_iff,
    floor_mem_dirtyFields_iff, active_mem_dirtyFields_iff]
  exact ⟨ite_ne_eq .., ite_ne_eq .., ite_ne_eq ..⟩

/- The instance of a handler has its dirty fields only. -/
theorem LocationNode.saved_write
    (node : LocationNode)
    (fields : List SharedField)
    (shared : Shared) :
    node.saved (node.write fields shared) (some fields) =
      node.write fields shared := by
  rw [LocationNode.saved, LocationNode.write,
    LocationNode.mk.injEq]
  simp only [LocationNode.shared]
  refine ⟨?_, rfl, ?_, rfl, rfl, rfl, rfl, ?_, rfl, rfl⟩
  · by_cases hMem : SharedField.floor ∈ fields
    · simp only [if_pos hMem, LocationNode.write]
    · simp only [if_neg hMem, LocationNode.write]
  · by_cases hMem : SharedField.name ∈ fields
    · simp only [if_pos hMem, LocationNode.write]
    · simp only [if_neg hMem, LocationNode.write]
  · by_cases hMem : SharedField.active ∈ fields
    · simp only [if_pos hMem, LocationNode.write,
        active_statusOfActive]
    · simp only [if_neg hMem, LocationNode.write]

theorem DeviceRow.saved_write
    (device : DeviceRow)
    (fields : List SharedField)
    (shared : Shared) :
    device.saved (device.write fields shared)
        (some fields) =
      device.write fields shared := by
  rw [DeviceRow.saved, DeviceRow.write, DeviceRow.mk.injEq]
  simp only [DeviceRow.shared]
  refine ⟨rfl, ?_, rfl, rfl, rfl, ?_, ?_⟩
  · by_cases hMem : SharedField.floor ∈ fields
    · simp only [if_pos hMem, DeviceRow.write]
    · simp only [if_neg hMem, DeviceRow.write]
  · by_cases hMem : SharedField.name ∈ fields
    · simp only [if_pos hMem, DeviceRow.write]
    · simp only [if_neg hMem, DeviceRow.write]
  · by_cases hMem : SharedField.active ∈ fields
    · simp only [if_pos hMem, DeviceRow.write]
    · simp only [if_neg hMem, DeviceRow.write]

end Facilities

end Icmp2

------------------------------------------------------------
-- Calls under the Guard
------------------------------------------------------------

namespace Icmp2

namespace Facilities

open Library

/- A call without its signals. -/
def plainCall : OrmCall → SyncAction Nat
  | .createNode node => insertNode node
  | .saveNode id node updateFields => do
      updateNode id node updateFields
      pure id
  | .deleteNode id => do
      let _ ← loadNode id
      modify fun store => store.eraseNode id
      pure id
  | .createDevice device => insertDevice device
  | .saveDevice id device updateFields => do
      updateDevice id device updateFields
      pure id
  | .deleteDevice id => do
      let _ ← loadDevice id
      modify fun store => store.eraseDevice id
      pure id

section Guarded

variable {orm other : OrmCall → SyncAction Nat}
variable {store later : NodeStore}
variable {id : Nat}

theorem insertNode_syncing
    {node : LocationNode}
    (hOk : insertNode node store = .ok id later) :
    later.syncing = store.syncing := by
  unfold insertNode at hOk
  split at hOk
  · cases hOk
  · cases hOk
    rfl

theorem insertDevice_syncing
    {device : DeviceRow}
    (hOk : insertDevice device store = .ok id later) :
    later.syncing = store.syncing := by
  unfold insertDevice at hOk
  split at hOk
  · cases hOk
  · cases hOk
    rfl

theorem updateNode_syncing
    {node : LocationNode}
    {updateFields : Option (List SharedField)}
    (hOk :
      updateNode id node updateFields store =
        .ok () later) :
    later.syncing = store.syncing := by
  unfold updateNode at hOk
  split at hOk
  · cases hOk
  · split at hOk
    · cases hOk
    · cases hOk
      rfl

theorem updateDevice_syncing
    {device : DeviceRow}
    {updateFields : Option (List SharedField)}
    (hOk :
      updateDevice id device updateFields store =
        .ok () later) :
    later.syncing = store.syncing := by
  unfold updateDevice at hOk
  split at hOk
  · cases hOk
  · split at hOk
    · cases hOk
    · cases hOk
      rfl

theorem loadNode_eq_ok_iff
    {node : LocationNode} :
    loadNode id store = .ok node later ↔
      store.nodes.get? id = some node ∧
        store.nodeProtected id = false ∧
        later = store := by
  unfold loadNode
  cases hGet : store.nodes.get? id with
  | none =>
      refine iff_of_false ?_ ?_
      · intro hOk
        cases hOk
      · rintro ⟨hSome, _⟩
        cases hSome
  | some stored =>
      cases hHeld : store.nodeProtected id with
      | true =>
          refine iff_of_false ?_ ?_
          · intro hOk
            cases hOk
          · rintro ⟨_, hFree, _⟩
            cases hFree
      | false =>
          constructor
          · intro hOk
            cases hOk
            exact ⟨rfl, rfl, rfl⟩
          · rintro ⟨hNode, _, hLater⟩
            cases hNode
            rw [hLater]
            rfl

theorem loadDevice_eq_ok_iff
    {device : DeviceRow} :
    loadDevice id store = .ok device later ↔
      store.devices.get? id = some device ∧
        store.deviceProtected id = false ∧
        later = store := by
  unfold loadDevice
  cases hGet : store.devices.get? id with
  | none =>
      refine iff_of_false ?_ ?_
      · intro hOk
        cases hOk
      · rintro ⟨hSome, _⟩
        cases hSome
  | some stored =>
      cases hHeld : store.deviceProtected id with
      | true =>
          refine iff_of_false ?_ ?_
          · intro hOk
            cases hOk
          · rintro ⟨_, hFree, _⟩
            cases hFree
      | false =>
          constructor
          · intro hOk
            cases hOk
            exact ⟨rfl, rfl, rfl⟩
          · rintro ⟨hDevice, _, hLater⟩
            cases hDevice
            rw [hLater]
            rfl

theorem loadNode_error
    {error : SyncError}
    (hError : loadNode id store = .error error later) :
    later = store := by
  unfold loadNode at hError
  split at hError
  · cases hError
    rfl
  · split_ifs at hError
    cases hError
    rfl

theorem loadDevice_error
    {error : SyncError}
    (hError : loadDevice id store = .error error later) :
    later = store := by
  unfold loadDevice at hError
  split at hError
  · cases hError
    rfl
  · split_ifs at hError
    cases hError
    rfl

/- The receivers return at once. -/
theorem lnToDeviceSync_of_syncing
    (hOn : store.syncing = true)
    (node : LocationNode) :
    lnToDeviceSync orm id node store = .ok () store := by
  rw [lnToDeviceSync, Action.get_bind, if_pos hOn]
  rfl

theorem lnToDeviceDelete_of_syncing
    (hOn : store.syncing = true)
    (node : LocationNode) :
    lnToDeviceDelete orm node store = .ok () store := by
  rw [lnToDeviceDelete, Action.get_bind, if_pos hOn]
  rfl

theorem deviceToLnSync_of_syncing
    (hOn : store.syncing = true)
    (device : DeviceRow)
    (created : Bool) :
    deviceToLnSync orm id device created store =
      .ok () store := by
  rw [deviceToLnSync, Action.get_bind, if_pos hOn]
  rfl

theorem deviceToLnDelete_of_syncing
    (hOn : store.syncing = true)
    (device : DeviceRow) :
    deviceToLnDelete orm id device store =
      .ok () store := by
  rw [deviceToLnDelete, Action.get_bind, if_pos hOn]
  rfl

/- Under the guard a call is what it is without signals. -/
theorem handleCall_of_syncing
    (hOn : store.syncing = true)
    (call : OrmCall) :
    handleCall orm call store = plainCall call store := by
  cases call with
  | createNode node =>
      rw [handleCall, plainCall]
      cases hInsert : insertNode node store with
      | error error later =>
          rw [Action.bind_of_error hInsert]
      | ok id later =>
          have hStill : later.syncing = true :=
            (insertNode_syncing hInsert).trans hOn
          rw [Action.bind_of_ok hInsert,
            Action.bind_of_ok
              (lnToDeviceSync_of_syncing hStill node)]
          rfl
  | saveNode id node updateFields =>
      rw [handleCall, plainCall]
      apply Action.bind_congr_at
      intro _ later hUpdate
      have hStill : later.syncing = true :=
        (updateNode_syncing hUpdate).trans hOn
      rw [Action.bind_of_ok
        (lnToDeviceSync_of_syncing hStill node)]
  | deleteNode id =>
      rw [handleCall, plainCall]
      apply Action.bind_congr_at
      intro node later hLoad
      have hSame : later = store :=
        (loadNode_eq_ok_iff.mp hLoad).2.2
      subst hSame
      have hStill : (later.eraseNode id).syncing = true :=
        hOn
      rw [Action.modify_bind, Action.modify_bind,
        Action.bind_of_ok
          (lnToDeviceDelete_of_syncing hStill node)]
  | createDevice device =>
      rw [handleCall, plainCall]
      cases hInsert : insertDevice device store with
      | error error later =>
          rw [Action.bind_of_error hInsert]
      | ok id later =>
          have hStill : later.syncing = true :=
            (insertDevice_syncing hInsert).trans hOn
          rw [Action.bind_of_ok hInsert,
            Action.bind_of_ok
              (deviceToLnSync_of_syncing hStill device
                true)]
          rfl
  | saveDevice id device updateFields =>
      rw [handleCall, plainCall]
      apply Action.bind_congr_at
      intro _ later hUpdate
      have hStill : later.syncing = true :=
        (updateDevice_syncing hUpdate).trans hOn
      rw [Action.bind_of_ok
        (deviceToLnSync_of_syncing hStill device false)]
  | deleteDevice id =>
      rw [handleCall, plainCall]
      apply Action.bind_congr_at
      intro device later hLoad
      have hSame : later = store :=
        (loadDevice_eq_ok_iff.mp hLoad).2.2
      subst hSame
      rw [Action.bind_of_ok
        (deviceToLnDelete_of_syncing hOn device)]

end Guarded

section Receivers

variable {orm : OrmCall → SyncAction Nat}
variable {store : NodeStore}
variable {id dev nodeId : Nat}
variable {node : LocationNode}
variable {device : DeviceRow}

theorem lnToDeviceSync_of_unresolved
    (hOff : store.syncing = false)
    (hLink : node.device = none)
    (hNone : store.resolveFacilityForNode node = none) :
    lnToDeviceSync orm id node store = .ok () store := by
  rw [lnToDeviceSync, Action.get_bind]
  simp only [hOff, hLink, hNone, Bool.false_eq_true,
    if_false]
  rfl

theorem lnToDeviceSync_of_unlinked
    {facility : Nat}
    (hOff : store.syncing = false)
    (hLink : node.device = none)
    (hSome :
      store.resolveFacilityForNode node = some facility) :
    lnToDeviceSync orm id node store =
      lnDevSyncGuard
        (do
          let dev ←
            orm (.createDevice (node.newDevice facility))
          modify fun store => store.linkNode id dev)
        store := by
  rw [lnToDeviceSync, Action.get_bind]
  simp only [hOff, hLink, hSome, Bool.false_eq_true,
    if_false]

theorem lnToDeviceSync_of_lost
    (hOff : store.syncing = false)
    (hLink : node.device = some dev)
    (hNone : store.devices.get? dev = none) :
    lnToDeviceSync orm id node store =
      .error .doesNotExist store := by
  rw [lnToDeviceSync, Action.get_bind]
  simp only [hOff, hLink, hNone, Bool.false_eq_true,
    if_false]
  rfl

theorem lnToDeviceSync_of_clean
    (hOff : store.syncing = false)
    (hLink : node.device = some dev)
    (hGet : store.devices.get? dev = some device)
    (hClean : dirtyFields device.shared node.shared = []) :
    lnToDeviceSync orm id node store = .ok () store := by
  rw [lnToDeviceSync, Action.get_bind]
  simp only [hOff, hLink, hGet, hClean,
    Bool.false_eq_true, if_false, if_true]
  rfl

theorem lnToDeviceSync_of_dirty
    (hOff : store.syncing = false)
    (hLink : node.device = some dev)
    (hGet : store.devices.get? dev = some device)
    (hDirty :
      dirtyFields device.shared node.shared ≠ []) :
    lnToDeviceSync orm id node store =
      lnDevSyncGuard
        (do
          let _ ←
            orm
              (.saveDevice dev
                (device.write
                  (dirtyFields device.shared node.shared)
                  node.shared)
                (some
                  (dirtyFields device.shared node.shared)))
          pure ())
        store := by
  rw [lnToDeviceSync, Action.get_bind]
  simp only [hOff, hLink, hGet, Bool.false_eq_true,
    if_false, if_neg hDirty]

theorem lnToDeviceDelete_of_unlinked
    (hOff : store.syncing = false)
    (hLink : node.device = none) :
    lnToDeviceDelete orm node store = .ok () store := by
  rw [lnToDeviceDelete, Action.get_bind]
  simp only [hOff, hLink, Bool.false_eq_true, if_false]
  rfl

theorem lnToDeviceDelete_of_linked
    (hOff : store.syncing = false)
    (hLink : node.device = some dev) :
    lnToDeviceDelete orm node store =
      lnDevSyncGuard
        (Action.ignoring .protectedError do
          let _ ← orm (.deleteDevice dev)
          pure ())
        store := by
  rw [lnToDeviceDelete, Action.get_bind]
  simp only [hOff, hLink, Bool.false_eq_true, if_false]

theorem deviceToLnSync_of_other_type
    {created : Bool}
    (hOff : store.syncing = false)
    (hType : device.deviceType ≠ .loc) :
    deviceToLnSync orm id device created store =
      .ok () store := by
  rw [deviceToLnSync, Action.get_bind]
  simp only [hOff, Bool.false_eq_true, if_false,
    if_pos hType]
  rfl

theorem deviceToLnSync_of_unlinked
    (hOff : store.syncing = false)
    (hNone : store.nodeOf id = none) :
    deviceToLnSync orm id device false store =
      .ok () store := by
  rw [deviceToLnSync, Action.get_bind]
  simp only [hOff, hNone, Bool.false_eq_true, if_false]
  split_ifs <;> rfl

theorem deviceToLnSync_of_created
    (hOff : store.syncing = false)
    (hType : device.deviceType = .loc)
    (hNone : store.nodeOf id = none) :
    deviceToLnSync orm id device true store =
      lnDevSyncGuard
        (do
          let _ ← orm (.createNode (device.newNode id))
          pure ())
        store := by
  rw [deviceToLnSync, Action.get_bind]
  simp only [hOff, hNone, hType, Bool.false_eq_true,
    if_false, ne_eq, not_true_eq_false, if_true]

theorem deviceToLnSync_of_clean
    {created : Bool}
    (hOff : store.syncing = false)
    (hFind : store.nodeOf id = some nodeId)
    (hGet : store.nodes.get? nodeId = some node)
    (hClean : dirtyFields node.shared device.shared = []) :
    deviceToLnSync orm id device created store =
      .ok () store := by
  rw [deviceToLnSync, Action.get_bind]
  simp only [hOff, hFind, hGet, hClean,
    Bool.false_eq_true, if_false, if_true]
  split_ifs <;> rfl

theorem deviceToLnSync_of_dirty
    {created : Bool}
    (hOff : store.syncing = false)
    (hType : device.deviceType = .loc)
    (hFind : store.nodeOf id = some nodeId)
    (hGet : store.nodes.get? nodeId = some node)
    (hDirty :
      dirtyFields node.shared device.shared ≠ []) :
    deviceToLnSync orm id device created store =
      lnDevSyncGuard
        (do
          let _ ←
            orm
              (.saveNode nodeId
                (node.write
                  (dirtyFields node.shared device.shared)
                  device.shared)
                (some
                  (dirtyFields node.shared device.shared)))
          pure ())
        store := by
  rw [deviceToLnSync, Action.get_bind]
  simp only [hOff, hFind, hGet, hType, Bool.false_eq_true,
    if_false, ne_eq, not_true_eq_false, if_neg hDirty]

theorem deviceToLnDelete_of_other_type
    (hOff : store.syncing = false)
    (hType : device.deviceType ≠ .loc) :
    deviceToLnDelete orm id device store =
      .ok () store := by
  rw [deviceToLnDelete, Action.get_bind]
  simp only [hOff, Bool.false_eq_true, if_false,
    if_pos hType]
  rfl

theorem deviceToLnDelete_of_unlinked
    (hOff : store.syncing = false)
    (hNone : store.nodeOf id = none) :
    deviceToLnDelete orm id device store =
      .ok () store := by
  rw [deviceToLnDelete, Action.get_bind]
  simp only [hOff, hNone, Bool.false_eq_true, if_false]
  split_ifs <;> rfl

theorem deviceToLnDelete_of_linked
    (hOff : store.syncing = false)
    (hType : device.deviceType = .loc)
    (hFind : store.nodeOf id = some nodeId) :
    deviceToLnDelete orm id device store =
      lnDevSyncGuard
        (Action.ignoring .protectedError do
          let _ ← orm (.deleteNode nodeId)
          pure ())
        store := by
  rw [deviceToLnDelete, Action.get_bind]
  simp only [hOff, hFind, hType, Bool.false_eq_true,
    if_false, ne_eq, not_true_eq_false]

end Receivers

section Nested

variable {orm other : OrmCall → SyncAction Nat}

/- What runs in the block runs with the guard on. -/
theorem lnDevSyncGuard_congr
    {R : Type}
    {first second : SyncAction R}
    (hSame :
      ∀ later : NodeStore,
        later.syncing = true → first later = second later)
    (store : NodeStore) :
    lnDevSyncGuard first store =
      lnDevSyncGuard second store := by
  apply Action.bracket_congr
  apply hSame
  rfl

variable
  (hSame :
    ∀ (call : OrmCall) (later : NodeStore),
      later.syncing = true →
        orm call later = other call later)

include hSame

/- The receivers make calls under the guard only. -/
theorem lnToDeviceSync_congr
    (id : Nat)
    (node : LocationNode)
    (store : NodeStore) :
    lnToDeviceSync orm id node store =
      lnToDeviceSync other id node store := by
  cases hOn : store.syncing with
  | true =>
      rw [lnToDeviceSync_of_syncing hOn,
        lnToDeviceSync_of_syncing hOn]
  | false =>
      cases hLink : node.device with
      | none =>
          cases hFacility :
              store.resolveFacilityForNode node with
          | none =>
              rw [lnToDeviceSync_of_unresolved hOn hLink
                  hFacility,
                lnToDeviceSync_of_unresolved hOn hLink
                  hFacility]
          | some facility =>
              rw [lnToDeviceSync_of_unlinked hOn hLink
                  hFacility,
                lnToDeviceSync_of_unlinked hOn hLink
                  hFacility]
              apply lnDevSyncGuard_congr
              intro later hLater
              apply Action.bind_congr_left
              exact hSame _ later hLater
      | some dev =>
          cases hGet : store.devices.get? dev with
          | none =>
              rw [lnToDeviceSync_of_lost hOn hLink hGet,
                lnToDeviceSync_of_lost hOn hLink hGet]
          | some device =>
              by_cases hDirty :
                  dirtyFields device.shared node.shared =
                    []
              · rw [lnToDeviceSync_of_clean hOn hLink hGet
                    hDirty,
                  lnToDeviceSync_of_clean hOn hLink hGet
                    hDirty]
              · rw [lnToDeviceSync_of_dirty hOn hLink hGet
                    hDirty,
                  lnToDeviceSync_of_dirty hOn hLink hGet
                    hDirty]
                apply lnDevSyncGuard_congr
                intro later hLater
                apply Action.bind_congr_left
                exact hSame _ later hLater

theorem lnToDeviceDelete_congr
    (node : LocationNode)
    (store : NodeStore) :
    lnToDeviceDelete orm node store =
      lnToDeviceDelete other node store := by
  cases hOn : store.syncing with
  | true =>
      rw [lnToDeviceDelete_of_syncing hOn,
        lnToDeviceDelete_of_syncing hOn]
  | false =>
      cases hLink : node.device with
      | none =>
          rw [lnToDeviceDelete_of_unlinked hOn hLink,
            lnToDeviceDelete_of_unlinked hOn hLink]
      | some dev =>
          rw [lnToDeviceDelete_of_linked hOn hLink,
            lnToDeviceDelete_of_linked hOn hLink]
          apply lnDevSyncGuard_congr
          intro later hLater
          apply Action.ignoring_congr
          apply Action.bind_congr_left
          exact hSame _ later hLater

theorem deviceToLnSync_congr
    (id : Nat)
    (device : DeviceRow)
    (created : Bool)
    (store : NodeStore) :
    deviceToLnSync orm id device created store =
      deviceToLnSync other id device created store := by
  cases hOn : store.syncing with
  | true =>
      rw [deviceToLnSync_of_syncing hOn,
        deviceToLnSync_of_syncing hOn]
  | false =>
      by_cases hType : device.deviceType = .loc
      · cases hFind : store.nodeOf id with
        | none =>
            cases created with
            | false =>
                rw [deviceToLnSync_of_unlinked hOn hFind,
                  deviceToLnSync_of_unlinked hOn hFind]
            | true =>
                rw [deviceToLnSync_of_created hOn hType
                    hFind,
                  deviceToLnSync_of_created hOn hType
                    hFind]
                apply lnDevSyncGuard_congr
                intro later hLater
                apply Action.bind_congr_left
                exact hSame _ later hLater
        | some nodeId =>
            rcases Rows.find?_eq_some hFind with
              ⟨node, hGet, _⟩
            by_cases hDirty :
                dirtyFields node.shared device.shared = []
            · rw [deviceToLnSync_of_clean hOn hFind hGet
                  hDirty,
                deviceToLnSync_of_clean hOn hFind hGet
                  hDirty]
            · rw [deviceToLnSync_of_dirty hOn hType hFind
                  hGet hDirty,
                deviceToLnSync_of_dirty hOn hType hFind
                  hGet hDirty]
              apply lnDevSyncGuard_congr
              intro later hLater
              apply Action.bind_congr_left
              exact hSame _ later hLater
      · rw [deviceToLnSync_of_other_type hOn hType,
          deviceToLnSync_of_other_type hOn hType]

theorem deviceToLnDelete_congr
    (id : Nat)
    (device : DeviceRow)
    (store : NodeStore) :
    deviceToLnDelete orm id device store =
      deviceToLnDelete other id device store := by
  cases hOn : store.syncing with
  | true =>
      rw [deviceToLnDelete_of_syncing hOn,
        deviceToLnDelete_of_syncing hOn]
  | false =>
      by_cases hType : device.deviceType = .loc
      · cases hFind : store.nodeOf id with
        | none =>
            rw [deviceToLnDelete_of_unlinked hOn hFind,
              deviceToLnDelete_of_unlinked hOn hFind]
        | some nodeId =>
            rw [deviceToLnDelete_of_linked hOn hType hFind,
              deviceToLnDelete_of_linked hOn hType hFind]
            apply lnDevSyncGuard_congr
            intro later hLater
            apply Action.ignoring_congr
            apply Action.bind_congr_left
            exact hSame _ later hLater
      · rw [deviceToLnDelete_of_other_type hOn hType,
          deviceToLnDelete_of_other_type hOn hType]

theorem handleCall_congr
    (call : OrmCall)
    (store : NodeStore) :
    handleCall orm call store =
      handleCall other call store := by
  cases call with
  | createNode node =>
      apply Action.bind_congr_at
      intro id later _
      apply Action.bind_congr_left
      exact lnToDeviceSync_congr hSame id node later
  | saveNode id node updateFields =>
      apply Action.bind_congr_at
      intro _ later _
      apply Action.bind_congr_left
      exact lnToDeviceSync_congr hSame id node later
  | deleteNode id =>
      apply Action.bind_congr_at
      intro node later _
      apply Action.bind_congr_at
      intro _ erased _
      apply Action.bind_congr_left
      exact lnToDeviceDelete_congr hSame node erased
  | createDevice device =>
      apply Action.bind_congr_at
      intro id later _
      apply Action.bind_congr_left
      exact deviceToLnSync_congr hSame id device true later
  | saveDevice id device updateFields =>
      apply Action.bind_congr_at
      intro _ later _
      apply Action.bind_congr_left
      exact deviceToLnSync_congr hSame id device false later
  | deleteDevice id =>
      apply Action.bind_congr_at
      intro device later _
      apply Action.bind_congr_left
      exact deviceToLnDelete_congr hSame id device later

end Nested

/- The guard keeps every cascade at a depth of two. -/
theorem shielded_handleCall :
    Shielded
      (fun store : NodeStore => store.syncing = true)
      handleCall where
  quiet := by
    intro first second call store hOn
    rw [handleCall_of_syncing hOn,
      handleCall_of_syncing hOn]
  within := by
    intro first second call store hSame
    exact handleCall_congr hSame call store

theorem nodeCall_eq
    (call : OrmCall)
    (store : NodeStore) :
    nodeCall call store =
      handleCall plainCall call store := by
  apply handleCall_congr
  intro inner later hOn
  exact handleCall_of_syncing hOn inner

theorem cascade_eq_nodeCall
    (bottom : OrmCall → SyncAction Nat)
    (extra : Nat)
    (call : OrmCall)
    (store : NodeStore) :
    cascade bottom handleCall (extra + 2) call store =
      nodeCall call store := by
  have hDeep :=
    shielded_handleCall.cascade_eq bottom bottom extra call
      store
  have hTwo :=
    shielded_handleCall.cascade_eq
      (fun _ => throw .recursionError) bottom 0 call store
  exact hDeep.trans hTwo.symm

end Facilities

end Icmp2

------------------------------------------------------------
-- Writes with and without the Guard
------------------------------------------------------------

namespace Icmp2

namespace Facilities

open Library

section PlainWrites

variable {store : NodeStore}
variable {id : Nat}
variable {node : LocationNode}
variable {device : DeviceRow}

theorem insertNode_of_none
    (hFault :
      store.nodeFault? store.nodes.nextId node = none) :
    insertNode node store =
      .ok store.nodes.nextId
        { store with nodes := store.nodes.insert node } := by
  simp only [insertNode, hFault]

theorem insertNode_of_some
    {error : SyncError}
    (hFault :
      store.nodeFault? store.nodes.nextId node =
        some error) :
    insertNode node store = .error error store := by
  simp only [insertNode, hFault]

theorem insertDevice_of_none
    (hFault :
      store.deviceFault? store.devices.nextId device =
        none) :
    insertDevice device store =
      .ok store.devices.nextId
        { store with
          devices := store.devices.insert device } := by
  simp only [insertDevice, hFault]

theorem insertDevice_of_some
    {error : SyncError}
    (hFault :
      store.deviceFault? store.devices.nextId device =
        some error) :
    insertDevice device store = .error error store := by
  simp only [insertDevice, hFault]

theorem updateNode_of_none
    {stored : LocationNode}
    {updateFields : Option (List SharedField)}
    (hGet : store.nodes.get? id = some stored)
    (hFault :
      store.nodeUpdateFault? id node updateFields = none) :
    updateNode id node updateFields store =
      .ok ()
        { store with
          nodes :=
            store.nodes.set id
              (stored.saved node updateFields) } := by
  simp only [updateNode, hGet, hFault]

theorem updateNode_of_some
    {stored : LocationNode}
    {updateFields : Option (List SharedField)}
    {error : SyncError}
    (hGet : store.nodes.get? id = some stored)
    (hFault :
      store.nodeUpdateFault? id node updateFields =
        some error) :
    updateNode id node updateFields store =
      .error error store := by
  simp only [updateNode, hGet, hFault]

/- A row that was deleted meanwhile. -/
theorem updateNode_of_missing
    (updateFields : Option (List SharedField))
    (hGet : store.nodes.get? id = none) :
    updateNode id node updateFields store =
      .error .doesNotExist store := by
  simp only [updateNode, hGet]

theorem updateDevice_of_missing
    (updateFields : Option (List SharedField))
    (hGet : store.devices.get? id = none) :
    updateDevice id device updateFields store =
      .error .doesNotExist store := by
  simp only [updateDevice, hGet]

theorem updateDevice_of_none
    {stored : DeviceRow}
    {updateFields : Option (List SharedField)}
    (hGet : store.devices.get? id = some stored)
    (hFault :
      store.deviceUpdateFault? id device updateFields =
        none) :
    updateDevice id device updateFields store =
      .ok ()
        { store with
          devices :=
            store.devices.set id
              (stored.saved device updateFields) } := by
  simp only [updateDevice, hGet, hFault]

theorem updateDevice_of_some
    {stored : DeviceRow}
    {updateFields : Option (List SharedField)}
    {error : SyncError}
    (hGet : store.devices.get? id = some stored)
    (hFault :
      store.deviceUpdateFault? id device updateFields =
        some error) :
    updateDevice id device updateFields store =
      .error error store := by
  simp only [updateDevice, hGet, hFault]

/- No write of a row looks at the guard. -/
theorem blind_insertNode
    (syncing : Bool)
    (node : LocationNode) :
    Action.Blind (NodeStore.setSyncing syncing)
      (insertNode node) := by
  intro store
  have hFault :
      (store.setSyncing syncing).nodeFault?
          (store.setSyncing syncing).nodes.nextId node =
        store.nodeFault? store.nodes.nextId node :=
    rfl
  unfold insertNode
  rw [hFault]
  split <;> rfl

theorem blind_insertDevice
    (syncing : Bool)
    (device : DeviceRow) :
    Action.Blind (NodeStore.setSyncing syncing)
      (insertDevice device) := by
  intro store
  have hFault :
      (store.setSyncing syncing).deviceFault?
          (store.setSyncing syncing).devices.nextId
          device =
        store.deviceFault? store.devices.nextId device :=
    rfl
  unfold insertDevice
  rw [hFault]
  split <;> rfl

theorem blind_updateNode
    (syncing : Bool)
    (id : Nat)
    (node : LocationNode)
    (updateFields : Option (List SharedField)) :
    Action.Blind (NodeStore.setSyncing syncing)
      (updateNode id node updateFields) := by
  intro store
  have hRows :
      (store.setSyncing syncing).nodes.get? id =
        store.nodes.get? id :=
    rfl
  have hFault :
      (store.setSyncing syncing).nodeUpdateFault? id node
          updateFields =
        store.nodeUpdateFault? id node updateFields :=
    rfl
  unfold updateNode
  rw [hRows, hFault]
  split
  · rfl
  · split <;> rfl

theorem blind_updateDevice
    (syncing : Bool)
    (id : Nat)
    (device : DeviceRow)
    (updateFields : Option (List SharedField)) :
    Action.Blind (NodeStore.setSyncing syncing)
      (updateDevice id device updateFields) := by
  intro store
  have hRows :
      (store.setSyncing syncing).devices.get? id =
        store.devices.get? id :=
    rfl
  have hFault :
      (store.setSyncing syncing).deviceUpdateFault? id
          device updateFields =
        store.deviceUpdateFault? id device updateFields :=
    rfl
  unfold updateDevice
  rw [hRows, hFault]
  split
  · rfl
  · split <;> rfl

theorem blind_loadNode
    (syncing : Bool)
    (id : Nat) :
    Action.Blind (NodeStore.setSyncing syncing)
      (loadNode id) := by
  intro store
  have hRows :
      (store.setSyncing syncing).nodes.get? id =
        store.nodes.get? id :=
    rfl
  have hHeld :
      (store.setSyncing syncing).nodeProtected id =
        store.nodeProtected id :=
    rfl
  unfold loadNode
  rw [hRows, hHeld]
  split
  · rfl
  · split <;> rfl

theorem blind_loadDevice
    (syncing : Bool)
    (id : Nat) :
    Action.Blind (NodeStore.setSyncing syncing)
      (loadDevice id) := by
  intro store
  have hRows :
      (store.setSyncing syncing).devices.get? id =
        store.devices.get? id :=
    rfl
  have hHeld :
      (store.setSyncing syncing).deviceProtected id =
        store.deviceProtected id :=
    rfl
  unfold loadDevice
  rw [hRows, hHeld]
  split
  · rfl
  · split <;> rfl

theorem blind_plainCall
    (syncing : Bool)
    (call : OrmCall) :
    Action.Blind (NodeStore.setSyncing syncing)
      (plainCall call) := by
  cases call with
  | createNode node => exact blind_insertNode syncing node
  | saveNode id node updateFields =>
      apply (blind_updateNode syncing id node _).bind
      intro _
      exact Action.Blind.returns _ id
  | deleteNode id =>
      apply (blind_loadNode syncing id).bind
      intro _
      apply Action.Blind.bind
      · apply Action.Blind.write
        intro store
        rfl
      · intro _
        exact Action.Blind.returns _ id
  | createDevice device =>
      exact blind_insertDevice syncing device
  | saveDevice id device updateFields =>
      apply (blind_updateDevice syncing id device _).bind
      intro _
      exact Action.Blind.returns _ id
  | deleteDevice id =>
      apply (blind_loadDevice syncing id).bind
      intro _
      apply Action.Blind.bind
      · apply Action.Blind.write
        intro store
        rfl
      · intro _
        exact Action.Blind.returns _ id

theorem blind_createAndLink
    (id : Nat)
    (device : DeviceRow) :
    Action.Blind (NodeStore.setSyncing true)
      (do
        let dev ← plainCall (.createDevice device)
        modify fun store => store.linkNode id dev) := by
  apply (blind_plainCall true _).bind
  intro dev
  apply Action.Blind.write
  intro store
  have hRows :
      (store.setSyncing true).nodes.get? id =
        store.nodes.get? id :=
    rfl
  unfold NodeStore.linkNode
  rw [hRows]
  split <;> rfl

/- A receiver's block, with the guard off behind it. -/
theorem lnDevSyncGuard_eq
    {R : Type}
    {action : SyncAction R}
    (hBlind :
      action.Blind (NodeStore.setSyncing true))
    (store : NodeStore) :
    lnDevSyncGuard action store =
      Action.mapState (NodeStore.setSyncing false)
        (action store) := by
  apply hBlind.bracket_eq
  intro later
  rfl

theorem stateAfter_lnDevSyncGuard
    {R : Type}
    {action : SyncAction R}
    (hBlind :
      action.Blind (NodeStore.setSyncing true))
    (store : NodeStore) :
    (lnDevSyncGuard action).stateAfter store =
      (action.stateAfter store).setSyncing false := by
  apply hBlind.stateAfter_bracket
  intro later
  rfl

/- A call in the block whose refusal is dropped. -/
theorem stateAfter_guarded_call
    (kind : SyncError)
    (call : OrmCall)
    (store : NodeStore) :
    (lnDevSyncGuard
        (Action.ignoring kind do
          let _ ← plainCall call
          pure ())).stateAfter store =
      ((plainCall call).stateAfter store).setSyncing
        false := by
  rw [stateAfter_lnDevSyncGuard
      (Action.Blind.ignoring _
        ((blind_plainCall true call).bind fun _ =>
          Action.Blind.returns _ ())),
    Action.stateAfter_ignoring, Action.stateAfter_bind_pure]

end PlainWrites

end Facilities

end Icmp2

------------------------------------------------------------
-- Receivers without a Cascade
------------------------------------------------------------

namespace Icmp2

namespace Facilities

open Library

section Effects

variable {store : NodeStore}
variable {id dev nodeId : Nat}
variable {node : LocationNode}
variable {device : DeviceRow}

theorem fieldsFault?_eq_none
    {limit : Nat}
    {fields : List SharedField}
    {shared : Shared}
    (hLe : shared.name.length ≤ limit) :
    fieldsFault? limit fields shared = none := by
  apply if_neg
  rintro ⟨_, hLong⟩
  omega

theorem plainCall_saveDevice
    {stored : DeviceRow}
    {updateFields : Option (List SharedField)}
    (hGet : store.devices.get? dev = some stored)
    (hFault :
      store.deviceUpdateFault? dev device updateFields =
        none) :
    plainCall (.saveDevice dev device updateFields) store =
      .ok dev
        { store with
          devices :=
            store.devices.set dev
              (stored.saved device updateFields) } := by
  rw [plainCall,
    Action.bind_of_ok (updateDevice_of_none hGet hFault)]
  rfl

theorem plainCall_saveNode
    {stored : LocationNode}
    {updateFields : Option (List SharedField)}
    (hGet : store.nodes.get? id = some stored)
    (hFault :
      store.nodeUpdateFault? id node updateFields = none) :
    plainCall (.saveNode id node updateFields) store =
      .ok id
        { store with
          nodes :=
            store.nodes.set id
              (stored.saved node updateFields) } := by
  rw [plainCall,
    Action.bind_of_ok (updateNode_of_none hGet hFault)]
  rfl

/- A node without a device: none is made, or one is. -/
theorem plain_lnToDeviceSync_unlinked
    (hOff : store.syncing = false)
    (hLink : node.device = none) :
    (store.resolveFacilityForNode node = none ∧
        lnToDeviceSync plainCall id node store =
          .ok () store) ∨
      ∃ facility,
        store.resolveFacilityForNode node = some facility ∧
          lnToDeviceSync plainCall id node store =
            match
              store.deviceFault? store.devices.nextId
                (node.newDevice facility) with
            | some error =>
                .error error (store.setSyncing false)
            | none =>
                .ok ()
                  ((NodeStore.linkNode
                    { store with
                      devices :=
                        store.devices.insert
                          (node.newDevice facility) }
                    id store.devices.nextId).setSyncing
                      false) := by
  cases hFacility : store.resolveFacilityForNode node with
  | none =>
      exact
        Or.inl
          ⟨rfl,
            lnToDeviceSync_of_unresolved hOff hLink
              hFacility⟩
  | some facility =>
      refine Or.inr ⟨facility, rfl, ?_⟩
      rw [lnToDeviceSync_of_unlinked hOff hLink hFacility,
        lnDevSyncGuard_eq (blind_createAndLink id _),
        plainCall]
      cases hFault :
          store.deviceFault? store.devices.nextId
            (node.newDevice facility) with
      | some error =>
          rw [Action.bind_of_error
            (insertDevice_of_some hFault)]
          rfl
      | none =>
          rw [Action.bind_of_ok
            (insertDevice_of_none hFault)]
          rfl

/- A linked node: its device has all it has, or gets it. -/
theorem plain_lnToDeviceSync_linked
    (hOff : store.syncing = false)
    (hLink : node.device = some dev)
    (hGet : store.devices.get? dev = some device)
    (hName : node.nodeName.length ≤ 100) :
    (device.shared = node.shared ∧
        lnToDeviceSync plainCall id node store =
          .ok () store) ∨
      lnToDeviceSync plainCall id node store =
        .ok ()
          (NodeStore.setSyncing false
            { store with
              devices :=
                store.devices.set dev
                  (device.write
                    (dirtyFields device.shared node.shared)
                    node.shared) }) := by
  by_cases hDirty :
      dirtyFields device.shared node.shared = []
  · exact
      Or.inl
        ⟨(dirtyFields_eq_nil_iff _ _).mp hDirty,
          lnToDeviceSync_of_clean hOff hLink hGet hDirty⟩
  · right
    have hTaken :
        store.deviceUpdateFault? dev
            (device.write
              (dirtyFields device.shared node.shared)
              node.shared)
            (some
              (dirtyFields device.shared node.shared)) =
          none := by
      apply fieldsFault?_eq_none
      rw [DeviceRow.shared_write_dirty]
      change node.nodeName.length ≤ 200
      omega
    have hSaved := plainCall_saveDevice hGet hTaken
    rw [DeviceRow.saved_write] at hSaved
    rw [lnToDeviceSync_of_dirty hOff hLink hGet hDirty,
      lnDevSyncGuard_eq
        ((blind_plainCall true _).bind fun _ =>
          Action.Blind.returns _ ()),
      Action.bind_of_ok hSaved]
    rfl

/- A name of over 100 characters is not that of a node. -/
theorem name_ne_of_longName
    (hName : node.nodeName.length ≤ 100)
    (hLong : 100 < device.deviceName.length) :
    node.shared.name ≠ device.shared.name := by
  intro hSame
  have hLength := congrArg String.length hSame
  change
    node.nodeName.length = device.deviceName.length
      at hLength
  omega

/- A node does not take such a name. -/
theorem nodeUpdateFault?_of_longName
    (hName : node.nodeName.length ≤ 100)
    (hLong : 100 < device.deviceName.length) :
    store.nodeUpdateFault? nodeId
        (node.write
          (dirtyFields node.shared device.shared)
          device.shared)
        (some (dirtyFields node.shared device.shared)) =
      some .dataError := by
  have hMem :=
    (name_mem_dirtyFields_iff _ _).mpr
      (name_ne_of_longName hName hLong)
  rw [NodeStore.nodeUpdateFault?, node.shared_write_dirty]
  exact if_pos ⟨hMem, hLong⟩

/-
  A device with a node: the node has all that the device
  has, or refuses its name, or gets it.
-/
theorem plain_deviceToLnSync_linked
    (hOff : store.syncing = false)
    (hType : device.deviceType = .loc)
    (hFind : store.nodeOf dev = some nodeId)
    (hGet : store.nodes.get? nodeId = some node)
    (hName : node.nodeName.length ≤ 100) :
    (node.shared = device.shared ∧
        deviceToLnSync plainCall dev device false store =
          .ok () store) ∨
      (100 < device.deviceName.length ∧
        deviceToLnSync plainCall dev device false store =
          .error .dataError (store.setSyncing false)) ∨
      device.deviceName.length ≤ 100 ∧
        deviceToLnSync plainCall dev device false store =
          .ok ()
            (NodeStore.setSyncing false
              { store with
                nodes :=
                  store.nodes.set nodeId
                    (node.write
                      (dirtyFields node.shared
                        device.shared)
                      device.shared) }) := by
  by_cases hDirty :
      dirtyFields node.shared device.shared = []
  · exact
      Or.inl
        ⟨(dirtyFields_eq_nil_iff _ _).mp hDirty,
          deviceToLnSync_of_clean hOff hFind hGet hDirty⟩
  · right
    rw [deviceToLnSync_of_dirty hOff hType hFind hGet
        hDirty,
      lnDevSyncGuard_eq
        ((blind_plainCall true _).bind fun _ =>
          Action.Blind.returns _ ())]
    rcases Nat.lt_or_ge 100 device.deviceName.length with
      hLong | hShort
    · left
      refine ⟨hLong, ?_⟩
      have hRefused :
          plainCall
              (.saveNode nodeId
                (node.write
                  (dirtyFields node.shared device.shared)
                  device.shared)
                (some
                  (dirtyFields node.shared device.shared)))
              store =
            .error .dataError store :=
        Action.bind_of_error
          (updateNode_of_some hGet
            (nodeUpdateFault?_of_longName hName hLong))
      rw [Action.bind_of_error hRefused]
      rfl
    · right
      refine ⟨hShort, ?_⟩
      have hTaken :
          store.nodeUpdateFault? nodeId
              (node.write
                (dirtyFields node.shared device.shared)
                device.shared)
              (some
                (dirtyFields node.shared device.shared)) =
            none := by
        apply fieldsFault?_eq_none
        rw [node.shared_write_dirty]
        exact hShort
      have hSaved := plainCall_saveNode hGet hTaken
      rw [LocationNode.saved_write] at hSaved
      rw [Action.bind_of_ok hSaved]
      rfl

/- A new device: its node is taken, or refused. -/
theorem plain_deviceToLnSync_created
    (hOff : store.syncing = false)
    (hType : device.deviceType = .loc)
    (hNone : store.nodeOf dev = none) :
    deviceToLnSync plainCall dev device true store =
      match
        store.nodeFault? store.nodes.nextId
          (device.newNode dev) with
      | some error => .error error (store.setSyncing false)
      | none =>
          .ok ()
            (NodeStore.setSyncing false
              { store with
                nodes :=
                  store.nodes.insert
                    (device.newNode dev) }) := by
  rw [deviceToLnSync_of_created hOff hType hNone,
    lnDevSyncGuard_eq
      ((blind_plainCall true _).bind fun _ =>
        Action.Blind.returns _ ()),
    plainCall]
  cases hFault :
      store.nodeFault? store.nodes.nextId
        (device.newNode dev) with
  | some error =>
      rw [Action.bind_of_error (insertNode_of_some hFault)]
      rfl
  | none =>
      rw [Action.bind_of_ok (insertNode_of_none hFault)]
      rfl

end Effects

end Facilities

end Icmp2
