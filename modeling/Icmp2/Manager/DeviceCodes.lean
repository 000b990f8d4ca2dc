import Icmp2.Facilities.NodeMirror
import Icmp2.Library.NumberedCode
import Icmp2.Text

/-
  Registering devices under codes that are counted up.

  Main definitions include:
    * `Icmp2.Manager.gasCreate`
    * `Icmp2.Manager.RegisterOp`
    * `Icmp2.Manager.Registers`
    * `Icmp2.Manager.Unclaimed`

  Main theorems include:
    * `Icmp2.Manager.nodeCall_createDevice`
    * `Icmp2.Manager.registers_iff`
    * `Icmp2.Manager.registration_succeeds_iff`

  The number is counted within the devices of one type; the
  code is unique among all devices, and for a location node
  also among the nodes.
-/

------------------------------------------------------------
-- Registering
------------------------------------------------------------

namespace Icmp2

namespace Manager

open Facilities Library

/- The keys of `TYPE_MAP`. -/
inductive UiType where
  | gas
  | pwr
  | loc
  deriving DecidableEq, Repr

namespace UiType

/- `TYPE_MAP`. -/
def dbType : UiType → DeviceType
  | gas => .gas
  | pwr => .power
  | loc => .loc

/- `PREFIX_MAP`. -/
def codePrefix : UiType → String
  | gas => "GAS"
  | pwr => "PWR"
  | loc => "LOC"

/- `NAME_MAP`. -/
def name : UiType → String
  | gas => "유해가스 센서"
  | pwr => "스마트 전력 시스템"
  | loc => "위치 노드"

/- What stands in front of the number. -/
def marker
    (uiType : UiType) :
    List Char :=
  (uiType.codePrefix ++ "-").toList

/- `f'{prefix}-{number:03d}'`. -/
def codeOf
    (uiType : UiType)
    (number : Nat) :
    String :=
  String.ofList (numberedCode uiType.marker 3 number)

end UiType

/-
  A posted form without a MAC.  Of `ip`, `port`, `department`,
  `manager` and `equipment` only whether the database takes
  them is kept: no unique key and no signal reads them.
-/
structure RegisterForm where
  uiType : UiType
  deviceName : String
  isActive : Bool
  othersTaken : Bool
  deriving DecidableEq, Repr

/- `device_name`, or a name made of the code. -/
def RegisterForm.name
    (form : RegisterForm)
    (deviceUid : String) :
    String :=
  if strip form.deviceName = "" then
    form.uiType.name ++ " " ++ deviceUid
  else
    strip form.deviceName

def RegisterForm.device
    (form : RegisterForm)
    (deviceUid : String)
    (facility : Nat) :
    DeviceRow where
  facility := facility
  floor := none
  deviceType := form.uiType.dbType
  deviceCode := deviceUid
  deviceUid := deviceUid
  deviceName := form.name deviceUid
  isActive := form.isActive

inductive RegisterError where
  | noFacility (error : String)
  | othersRefused
  | raised (error : SyncError)
  deriving DecidableEq, Repr

structure Registration where
  deviceUid : String
  id : Nat
  store : NodeStore

/- `existing_uids`. -/
def existingUids
    (store : NodeStore)
    (deviceType : DeviceType) :
    List String :=
  (((List.range store.devices.nextId).filterMap
        store.devices.get?).filter
      fun row => row.deviceType = deviceType).map
    DeviceRow.deviceUid

/- `nums`. -/
def existingNumbers
    (decimals : Decimals)
    (store : NodeStore)
    (uiType : UiType) :
    List Nat :=
  ((existingUids store uiType.dbType).map
      String.toList).filterMap
    (firstNumber decimals uiType.marker)

/- `gas_create`; what raises in the block is rolled back. -/
def gasCreate
    (decimals : Decimals)
    (store : NodeStore)
    (form : RegisterForm) :
    Except RegisterError Registration :=
  let deviceUid :=
    form.uiType.codeOf
      (nextNumber
        (existingNumbers decimals store form.uiType))
  match store.firstFacility with
  | none => .error (.noFacility "사업장 정보가 없습니다.")
  | some facility =>
      if form.othersTaken then
        match
            nodeCall
              (.createDevice
                (form.device deviceUid facility))
              store with
        | .error error _ => .error (.raised error)
        | .ok id later => .ok ⟨deviceUid, id, later⟩
      else
        .error .othersRefused

/-
  What changes the tables: a registration; the creation of
  a device through `DeviceViewSet`; deletions; and readings
  and inspections, which hold their rows.
-/
inductive RegisterOp where
  | gasCreate (form : RegisterForm)
  | createDevice (device : DeviceRow)
  | deleteDevice (id : Nat)
  | deleteNode (id : Nat)
  | holdNode (id : Nat) (held : Bool)
  | holdDevice (id : Nat) (held : Bool)
  deriving DecidableEq, Repr

def registerStep
    (decimals : Decimals)
    (store : NodeStore) :
    RegisterOp →
    NodeStore
  | .gasCreate form =>
      match gasCreate decimals store form with
      | .error _ => store
      | .ok registered => registered.store
  | .createDevice device =>
      (nodeCall (.createDevice device)).stateAfter store
  | .deleteDevice id => nodeStep store (.deleteDevice id)
  | .deleteNode id => nodeStep store (.deleteNode id)
  | .holdNode id held => nodeStep store (.holdNode id held)
  | .holdDevice id held =>
      nodeStep store (.holdDevice id held)

theorem mem_existingUids_iff
    {store : NodeStore}
    {deviceType : DeviceType}
    {deviceUid : String} :
    deviceUid ∈ existingUids store deviceType ↔
      ∃ id row,
        store.devices.get? id = some row ∧
          row.deviceType = deviceType ∧
            row.deviceUid = deviceUid := by
  unfold existingUids
  constructor
  · intro hMem
    rcases List.mem_map.mp hMem with ⟨row, hRow, hUid⟩
    rcases List.mem_filter.mp hRow with ⟨hStored, hType⟩
    rcases List.mem_filterMap.mp hStored with ⟨id, _, hGet⟩
    exact ⟨id, row, hGet, by simpa using hType, hUid⟩
  · rintro ⟨id, row, hGet, hType, hUid⟩
    refine List.mem_map.mpr ⟨row, ?_, hUid⟩
    refine List.mem_filter.mpr ⟨?_, by simpa using hType⟩
    refine List.mem_filterMap.mpr ⟨id, ?_, hGet⟩
    exact List.mem_range.mpr (Rows.lt_nextId hGet)

end Manager

end Icmp2

------------------------------------------------------------
-- Created Devices
------------------------------------------------------------

namespace Icmp2

namespace Manager

open Facilities Library

section Created

variable {store : NodeStore}
variable {device : DeviceRow}

/- The tables with a new device and, maybe, its node. -/
def withDevice
    (store : NodeStore)
    (device : DeviceRow) :
    NodeStore :=
  { store with devices := store.devices.insert device }

def withNode
    (store : NodeStore)
    (device : DeviceRow) :
    NodeStore :=
  { withDevice store device with
    nodes :=
      store.nodes.insert
        (device.newNode store.devices.nextId)
    syncing := false }

/- What stops the node of a new device. -/
def newNodeFault?
    (store : NodeStore)
    (device : DeviceRow) :
    Option SyncError :=
  (withDevice store device).nodeFault? store.nodes.nextId
    (device.newNode store.devices.nextId)

/- How the creation of a device ends. -/
theorem nodeCall_createDevice
    (hSync : store.InSync)
    (hTaken :
      store.deviceFault? store.devices.nextId device =
        none) :
    nodeCall (.createDevice device) store =
      if device.deviceType ≠ .loc then
        .ok store.devices.nextId (withDevice store device)
      else
        match newNodeFault? store device with
        | some error =>
            .error error
              ((withDevice store device).setSyncing false)
        | none =>
            .ok store.devices.nextId
              (withNode store device) := by
  have hOff : (withDevice store device).syncing = false :=
    hSync.guardOff
  rw [nodeCall_eq, handleCall,
    Action.bind_of_ok (insertDevice_of_none hTaken)]
  by_cases hType : device.deviceType = .loc
  · rw [if_neg (not_not_intro hType)]
    have hNone :
        (withDevice store device).nodeOf
            store.devices.nextId =
          none :=
      hSync.nodeOf_eq_none (Rows.get?_nextId _)
    have hMade :=
      plain_deviceToLnSync_created hOff hType hNone
    cases hFault : newNodeFault? store device with
    | some error =>
        have hFault :
            (withDevice store device).nodeFault?
                (withDevice store device).nodes.nextId
                (device.newNode store.devices.nextId) =
              some error :=
          hFault
        rw [hFault] at hMade
        exact Action.bind_of_error hMade
    | none =>
        have hFault :
            (withDevice store device).nodeFault?
                (withDevice store device).nodes.nextId
                (device.newNode store.devices.nextId) =
              none :=
          hFault
        rw [hFault] at hMade
        exact Action.bind_of_ok hMade
  · rw [if_pos hType]
    exact
      Action.bind_of_ok
        (deviceToLnSync_of_other_type hOff hType)

theorem nodeCall_createDevice_refused
    {error : SyncError}
    (hFault :
      store.deviceFault? store.devices.nextId device =
        some error) :
    nodeCall (.createDevice device) store =
      .error error store := by
  rw [nodeCall_eq, handleCall]
  exact
    Action.bind_of_error (insertDevice_of_some hFault)

theorem deviceFault?_eq_none_iff :
    store.deviceFault? store.devices.nextId device =
        none ↔
      device.Fits ∧
        ∀ other row,
          store.devices.get? other = some row →
            row.deviceUid ≠ device.deviceUid := by
  have hUid :
      store.devices.Free (fun row => some row.deviceUid)
          store.devices.nextId device ↔
        ∀ other row,
          store.devices.get? other = some row →
            row.deviceUid ≠ device.deviceUid :=
    Rows.free_nextId_iff
  rw [← hUid]
  unfold NodeStore.deviceFault?
  by_cases hFits : device.Fits
  · rw [if_neg (not_not_intro hFits), and_iff_right hFits]
    split_ifs with hFree
    · exact iff_of_true rfl hFree
    · exact iff_of_false (by simp) hFree
  · simp [hFits]

/- The node of a new device needs a code that is free. -/
theorem newNodeFault?_eq_none_iff
    (hSync : store.InSync) :
    newNodeFault? store device = none ↔
      (device.newNode store.devices.nextId).Fits ∧
        ∀ other row,
          store.nodes.get? other = some row →
            row.nodeCode ≠ device.deviceCode := by
  have hAccepts :
      (withDevice store device).AcceptsNode
          store.nodes.nextId
          (device.newNode store.devices.nextId) ↔
        ∀ other row,
          store.nodes.get? other = some row →
            row.nodeCode ≠ device.deviceCode := by
    have hAlone :
        store.nodes.Free LocationNode.device
          store.nodes.nextId
          (device.newNode store.devices.nextId) := by
      intro other _ _ dev hDev hTaken
      cases hDev
      rcases Option.bind_eq_some_iff.mp hTaken with
        ⟨row, hRow, hLink⟩
      rcases hSync.linked other _ row hRow hLink with
        ⟨held, hHeld⟩
      rw [Rows.get?_nextId] at hHeld
      cases hHeld
    have hStored :
        ∀ dev ∈ (device.newNode
            store.devices.nextId).device,
          ((withDevice store device).devices.get?
            dev).isSome := by
      intro dev hDev
      cases hDev
      exact
        Option.isSome_iff_exists.mpr
          ⟨device, Rows.get?_insert_nextId ..⟩
    constructor
    · rintro ⟨hFree, -, -⟩
      exact Rows.free_nextId_iff.mp hFree
    · intro hFree
      exact
        ⟨Rows.free_nextId_iff.mpr hFree, hAlone, hStored⟩
  rw [← hAccepts]
  unfold newNodeFault? NodeStore.nodeFault?
  by_cases hFits :
      (device.newNode store.devices.nextId).Fits
  · rw [if_neg (not_not_intro hFits), and_iff_right hFits]
    split_ifs with hFree
    · exact iff_of_true rfl hFree
    · exact iff_of_false (by simp) hFree
  · simp [hFits]

end Created

end Manager

end Icmp2

------------------------------------------------------------
-- Free Codes
------------------------------------------------------------

namespace Icmp2

namespace Manager

open Facilities Library

/- The device is there, alone with its code, and linked. -/
structure Registration.Sound
    (registered : Registration)
    (form : RegisterForm) :
    Prop where
  stored :
    ∃ row,
      registered.store.devices.get? registered.id =
          some row ∧
        row.deviceUid = registered.deviceUid
  alone :
    ∀ other row,
      registered.store.devices.get? other = some row →
        row.deviceUid = registered.deviceUid →
          other = registered.id
  node :
    form.uiType = .loc →
      ∃ id row,
        registered.store.nodes.get? id = some row ∧
          row.device = some registered.id

/- With a facility, a registration does what it is for. -/
def Registers
    (decimals : Decimals)
    (store : NodeStore) :
    RegisterOp →
    Prop
  | .gasCreate form =>
      store.firstFacility ≠ none →
        ∃ registered,
          gasCreate decimals store form = .ok registered ∧
            registered.Sound form
  | _ => True

/- The columns that the name is stored in. -/
def UiType.nameLimit : UiType → Nat
  | .loc => 100
  | .gas | .pwr => 200

/- No other table row and no column is in the way. -/
structure CodeFree
    (store : NodeStore)
    (form : RegisterForm)
    (code : String) :
    Prop where
  devices :
    ∀ id row,
      store.devices.get? id = some row →
        row.deviceType ≠ form.uiType.dbType →
          row.deviceUid ≠ code
  nodes :
    form.uiType = .loc →
      ∀ id row,
        store.nodes.get? id = some row →
          row.nodeCode ≠ code
  code : code.length ≤ 50
  name :
    (strip form.deviceName).length ≤ form.uiType.nameLimit
  others : form.othersTaken = true

/- The number is above those in the codes of the type. -/
def AboveType
    (decimals : Decimals)
    (store : NodeStore)
    (uiType : UiType)
    (number : Nat) :
    Prop :=
  0 < number ∧
    ∀ id row,
      store.devices.get? id = some row →
        row.deviceType = uiType.dbType →
          ∀ other ∈
            firstNumber decimals uiType.marker
              row.deviceUid.toList,
            other < number

/-
  The code with the least number above all numbers of the
  type is claimed by no device of another type and, for a
  location node, by no node; and the texts fit.
-/
def Unclaimed
    (decimals : Decimals)
    (store : NodeStore) :
    RegisterOp →
    Prop
  | .gasCreate form =>
      store.firstFacility ≠ none →
        ∀ number,
          IsLeast
              {number |
                AboveType decimals store form.uiType number}
              number →
            CodeFree store form (form.uiType.codeOf number)
  | _ => True

section Free

variable {decimals : Decimals}
variable {store : NodeStore}
variable {form : RegisterForm}

/- A name made of a code fits wherever a name fits. -/
theorem length_name_le_iff
    {code : String}
    {limit : Nat}
    (hCode : code.length ≤ 50)
    (hLimit : 100 ≤ limit) :
    (form.name code).length ≤ limit ↔
      (strip form.deviceName).length ≤ limit := by
  unfold RegisterForm.name
  split
  · rename_i hEmpty
    have hShort : form.uiType.name.length ≤ 10 := by
      cases form.uiType <;> decide
    refine iff_of_true ?_ ?_
    · rw [String.length_append, String.length_append]
      have hBlank : " ".length = 1 := rfl
      omega
    · rw [hEmpty]
      exact Nat.zero_le limit
  · exact Iff.rfl

/- The number that is counted is the least one above. -/
theorem isLeast_aboveType
    (decimals : Decimals)
    (store : NodeStore)
    (uiType : UiType) :
    IsLeast
      {number | AboveType decimals store uiType number}
      (nextNumber
        (existingNumbers decimals store uiType)) := by
  have hSame :
      {number | AboveType decimals store uiType number} =
        {number | 0 < number ∧
          ∀ other ∈ existingNumbers decimals store uiType,
            other < number} := by
    ext number
    refine and_congr_right fun _ => ?_
    constructor
    · intro hAbove other hOther
      rcases List.mem_filterMap.mp hOther with
        ⟨text, hText, hNumber⟩
      rcases List.mem_map.mp hText with ⟨uid, hUid, rfl⟩
      rcases mem_existingUids_iff.mp hUid with
        ⟨id, row, hGet, hType, rfl⟩
      exact hAbove id row hGet hType other hNumber
    · intro hAbove id row hGet hType other hNumber
      refine hAbove other (List.mem_filterMap.mpr ?_)
      refine ⟨_, List.mem_map_of_mem ?_, hNumber⟩
      exact
        mem_existingUids_iff.mpr ⟨id, row, hGet, hType, rfl⟩
  rw [hSame]
  exact isLeast_nextNumber _

/- Within its type the next code is free. -/
theorem codeOf_not_mem_existingUids
    (decimals : Decimals)
    (store : NodeStore)
    (uiType : UiType) :
    uiType.codeOf
        (nextNumber
          (existingNumbers decimals store uiType)) ∉
      existingUids store uiType.dbType := by
  intro hMem
  have hApart :=
    numberedCode_nextNumber_not_mem decimals uiType.marker 3
      ((existingUids store uiType.dbType).map String.toList)
  have hListed := List.mem_map_of_mem (f := String.toList) hMem
  rw [UiType.codeOf, String.toList_ofList] at hListed
  exact hApart hListed

/- What the columns of a new device and its node hold. -/
theorem fits_device_iff
    (form : RegisterForm)
    (code : String)
    (facility : Nat) :
    (form.device code facility).Fits ↔
      (form.name code).length ≤ 200 ∧ code.length ≤ 50 := by
  simp only [DeviceRow.Fits, RegisterForm.device]
  constructor
  · rintro ⟨hName, hCode, -⟩
    exact ⟨hName, hCode⟩
  · rintro ⟨hName, hCode⟩
    exact ⟨hName, hCode, Nat.le_trans hCode (by decide)⟩

theorem fits_newNode_iff
    (form : RegisterForm)
    (code : String)
    (facility id : Nat) :
    ((form.device code facility).newNode id).Fits ↔
      (form.name code).length ≤ 100 ∧ code.length ≤ 50 := by
  rw [LocationNode.Fits, DeviceRow.newNode,
    RegisterForm.device]

theorem nameLimit_of_ne_loc
    {uiType : UiType}
    (hOther : uiType ≠ .loc) :
    uiType.nameLimit = 200 := by
  cases uiType with
  | gas => rfl
  | pwr => rfl
  | loc => exact absurd rfl hOther

/- What the database asks of a registered device. -/
theorem codeFree_iff
    (hSync : store.InSync)
    {code : String}
    (facility : Nat)
    (hOwn :
      code ∉ existingUids store form.uiType.dbType) :
    CodeFree store form code ↔
      form.othersTaken = true ∧
        store.deviceFault? store.devices.nextId
            (form.device code facility) =
          none ∧
        (form.uiType = .loc →
          newNodeFault? store (form.device code facility) =
            none) := by
  rw [deviceFault?_eq_none_iff,
    newNodeFault?_eq_none_iff hSync, fits_device_iff,
    fits_newNode_iff]
  have hWide : form.uiType.nameLimit ≤ 200 := by
    cases form.uiType <;> decide
  have hLeast : 100 ≤ form.uiType.nameLimit := by
    cases form.uiType <;> decide
  constructor
  · rintro ⟨hDevices, hNodes, hCode, hName, hOthers⟩
    have hLong :=
      (length_name_le_iff hCode hLeast).mpr hName
    refine
      ⟨hOthers, ⟨⟨hLong.trans hWide, hCode⟩, ?_⟩, ?_⟩
    · intro other row hGet hSame
      by_cases hType : row.deviceType = form.uiType.dbType
      · exact hOwn
          (mem_existingUids_iff.mpr
            ⟨other, row, hGet, hType, hSame⟩)
      · exact hDevices other row hGet hType hSame
    · intro hLoc
      have hLimit : form.uiType.nameLimit = 100 := by
        rw [hLoc]
        rfl
      exact ⟨⟨hLimit ▸ hLong, hCode⟩, hNodes hLoc⟩
  · rintro ⟨hOthers, ⟨⟨hName, hCode⟩, hFree⟩, hNode⟩
    refine
      ⟨?_, fun hLoc => (hNode hLoc).2, hCode, ?_, hOthers⟩
    · exact fun id row hGet _ => hFree id row hGet
    · refine (length_name_le_iff hCode hLeast).mp ?_
      by_cases hLoc : form.uiType = .loc
      · have hLimit : form.uiType.nameLimit = 100 := by
          rw [hLoc]
          rfl
        rw [hLimit]
        exact (hNode hLoc).1.1
      · rw [nameLimit_of_ne_loc hLoc]
        exact hName

theorem deviceType_ne_loc_iff :
    form.uiType.dbType ≠ .loc ↔ form.uiType ≠ .loc := by
  cases form.uiType <;> decide

/- A device that was just stored is alone with its code. -/
theorem sound_of_stored
    {device : DeviceRow}
    {later : NodeStore}
    (hDevices :
      later.devices = store.devices.insert device)
    (hFree :
      ∀ other row,
        store.devices.get? other = some row →
          row.deviceUid ≠ device.deviceUid)
    (hNode :
      form.uiType = .loc →
        ∃ id row,
          later.nodes.get? id = some row ∧
            row.device = some store.devices.nextId) :
    Registration.Sound
      ⟨device.deviceUid, store.devices.nextId, later⟩
      form := by
  refine ⟨⟨device, ?_, rfl⟩, ?_, hNode⟩
  · simp only [hDevices]
    exact Rows.get?_insert_nextId ..
  · intro other row hGet hSame
    simp only [hDevices] at hGet
    rcases Rows.get?_of_get?_insert hGet with
      ⟨hNew, -⟩ | ⟨-, hOld⟩
    · exact hNew
    · exact absurd hSame (hFree other row hOld)

/- At a site a registration ends as its code allows. -/
theorem gasCreate_succeeds_iff
    (hSync : store.InSync)
    {facility : Nat}
    (hFacility : store.firstFacility = some facility)
    (form : RegisterForm) :
    (∃ registered,
        gasCreate decimals store form = .ok registered ∧
          registered.Sound form) ↔
      CodeFree store form
        (form.uiType.codeOf
          (nextNumber
            (existingNumbers decimals store
              form.uiType))) := by
  let code :=
    form.uiType.codeOf
      (nextNumber
        (existingNumbers decimals store form.uiType))
  have hOwn :=
    codeOf_not_mem_existingUids decimals store form.uiType
  rw [codeFree_iff hSync facility hOwn]
  simp only [gasCreate, hFacility]
  by_cases hOthers : form.othersTaken = false
  · simp [hOthers]
  rw [Bool.not_eq_false] at hOthers
  simp only [hOthers, if_true, true_and]
  cases hFault :
      store.deviceFault? store.devices.nextId
        (form.device code facility) with
  | some error =>
      rw [nodeCall_createDevice_refused hFault]
      simp
  | none =>
      have hFree := (deviceFault?_eq_none_iff.mp hFault).2
      rw [nodeCall_createDevice hSync hFault]
      by_cases hType : form.uiType = .loc
      · have hLoc :
            ¬(form.device code facility).deviceType ≠ .loc :=
          fun hNe => deviceType_ne_loc_iff.mp hNe hType
        rw [if_neg hLoc]
        cases hNode :
            newNodeFault? store
              (form.device code facility) with
        | some error => simp [hType]
        | none =>
            refine iff_of_true ⟨_, rfl, ?_⟩
              ⟨rfl, fun _ => rfl⟩
            refine sound_of_stored rfl hFree fun _ => ?_
            exact ⟨_, _, Rows.get?_insert_nextId .., rfl⟩
      · have hOther :
            (form.device code facility).deviceType ≠ .loc :=
          deviceType_ne_loc_iff.mpr hType
        rw [if_pos hOther]
        refine iff_of_true ⟨_, rfl, ?_⟩
          ⟨rfl, fun hLoc => absurd hLoc hType⟩
        exact
          sound_of_stored rfl hFree fun hLoc =>
            absurd hLoc hType

/- A registration succeeds exactly if its code is free. -/
theorem registers_iff
    (hSync : store.InSync)
    (op : RegisterOp) :
    Registers decimals store op ↔
      Unclaimed decimals store op := by
  cases op with
  | gasCreate form =>
      have hLeast :=
        isLeast_aboveType decimals store form.uiType
      simp only [Registers, Unclaimed]
      refine forall_congr' fun hSome => ?_
      rcases Option.ne_none_iff_exists'.mp hSome with
        ⟨facility, hFacility⟩
      rw [gasCreate_succeeds_iff hSync hFacility]
      constructor
      · intro hFree number hNumber
        rw [hNumber.unique hLeast]
        exact hFree
      · intro hAll
        exact hAll _ hLeast
  | createDevice device => exact Iff.rfl
  | deleteDevice id => exact Iff.rfl
  | deleteNode id => exact Iff.rfl
  | holdNode id held => exact Iff.rfl
  | holdDevice id held => exact Iff.rfl

/- The creation of a device of any type keeps the pairs. -/
theorem inSync_createDevice
    (hSync : store.InSync)
    (device : DeviceRow) :
    NodeStore.InSync
      ((nodeCall (.createDevice device)).stateAfter
        store) := by
  by_cases hType : device.deviceType = .loc
  · exact hSync.createDevice hType
  · cases hFault :
        store.deviceFault? store.devices.nextId device with
    | some error =>
        rw [Action.stateAfter_of_error
          (nodeCall_createDevice_refused hFault)]
        exact hSync
    | none =>
        have hMade := nodeCall_createDevice hSync hFault
        rw [if_pos hType] at hMade
        rw [Action.stateAfter_of_ok hMade]
        exact hSync.insertDevice device

theorem inSync_of_created
    {device : DeviceRow}
    {id : Nat}
    {later : NodeStore}
    (hSync : store.InSync)
    (hMade :
      nodeCall (.createDevice device) store =
        .ok id later) :
    later.InSync := by
  have hLater := inSync_createDevice hSync device
  rw [Action.stateAfter_of_ok hMade] at hLater
  exact hLater

theorem inSync_registerStep
    (decimals : Decimals)
    (hSync : store.InSync)
    (op : RegisterOp) :
    (registerStep decimals store op).InSync := by
  cases op with
  | gasCreate form =>
      cases hResult : gasCreate decimals store form with
      | error error =>
          simp only [registerStep, hResult]
          exact hSync
      | ok registered =>
          simp only [registerStep, hResult]
          simp only [gasCreate] at hResult
          split at hResult
          · cases hResult
          · split at hResult
            · split at hResult
              · cases hResult
              · rename_i id later hMade
                cases hResult
                exact inSync_of_created hSync hMade
            · cases hResult
  | createDevice device =>
      rw [registerStep]
      exact inSync_createDevice hSync device
  | deleteDevice id =>
      rw [registerStep]
      refine hSync.nodeStep (Or.inl ?_)
      intro call hCall
      cases hCall
      trivial
  | deleteNode id =>
      rw [registerStep]
      refine hSync.nodeStep (Or.inl ?_)
      intro call hCall
      cases hCall
      trivial
  | holdNode id held =>
      rw [registerStep]
      refine hSync.nodeStep (Or.inl ?_)
      intro call hCall
      cases hCall
  | holdDevice id held =>
      rw [registerStep]
      refine hSync.nodeStep (Or.inl ?_)
      intro call hCall
      cases hCall

end Free

/-
  In a run from empty tables every registration succeeds,
  with a device that is alone with its code, exactly if
  every next code is unclaimed and the columns take the
  form.
-/
theorem registration_succeeds_iff
    (decimals : Decimals)
    (facilityOfFloor : Nat → Option Nat)
    (firstFacility : Option Nat)
    (ops : List RegisterOp) :
    Along (registerStep decimals) (Registers decimals)
        (.initial facilityOfFloor firstFacility) ops ↔
      Along (registerStep decimals) (Unclaimed decimals)
        (.initial facilityOfFloor firstFacility) ops := by
  refine along_iff_of_invariant
    (I := fun store : NodeStore => store.InSync)
    ?_ ?_ (inSync_initial _ _) ops
  · intro store op hSync
    exact registers_iff hSync op
  · intro store op hSync _
    exact inSync_registerStep decimals hSync op

/- A site with a facility and empty tables. -/
def emptySite : NodeStore :=
  .initial (fun _ => none) (some 1)

/- A power meter that was entered under a gas code. -/
def borrowedCode : DeviceRow where
  facility := 1
  floor := none
  deviceType := .power
  deviceCode := "001"
  deviceUid := "GAS-001"
  deviceName := "Meter"
  isActive := true

def gasForm : RegisterForm :=
  ⟨.gas, "", true, true⟩

def locForm : RegisterForm :=
  ⟨.loc, "", true, true⟩

/- A location node that a reading holds outlives its device. -/
def orphanedNode : List RegisterOp :=
  [.gasCreate locForm, .holdNode 0 true, .deleteDevice 0]

/-
  A gas sensor is not registered since a meter has its
  code, nor a location node since an old node has it.
-/
theorem registration_fails :
    ¬Along (registerStep asciiDecimals)
        (Registers asciiDecimals) emptySite
        [.createDevice borrowedCode, .gasCreate gasForm] ∧
      ¬Along (registerStep asciiDecimals)
        (Registers asciiDecimals) emptySite
        (orphanedNode ++ [.gasCreate locForm]) := by
  have hRefused : ∀ (store : NodeStore) (form : RegisterForm),
      store.firstFacility ≠ none →
        (gasCreate asciiDecimals store form).toOption.isSome =
            false →
          ¬Registers asciiDecimals store
            (.gasCreate form) := by
    intro store form hFacility hNone hRegisters
    rcases hRegisters hFacility with ⟨registered, hOk, -⟩
    rw [hOk] at hNone
    cases hNone
  constructor
  · rintro ⟨-, hLast, -⟩
    exact hRefused _ _ (by decide) (by decide +kernel) hLast
  · rintro ⟨-, -, -, hLast, -⟩
    exact hRefused _ _ (by decide +kernel)
      (by decide +kernel) hLast

end Manager

end Icmp2
