import Icmp2.Facilities.NodeSync
import Icmp2.Library.Rows
import Icmp2.Library.TaggedText
import Icmp2.Library.Trace
import Icmp2.Text

/-
  MAC addresses that are kept in the notes of devices.

  Main definitions include:
    * `Icmp2.Manager.recordedMac`
    * `Icmp2.Manager.MacNotes.gasCreate`
    * `Icmp2.Manager.MacNotes.editDevice`
    * `Icmp2.Manager.MacNotes.KeepsMacs`

  Main theorems include:
    * `Icmp2.Manager.MacNotes.free_iff`
    * `Icmp2.Manager.MacNotes.keeps_iff`
    * `Icmp2.Manager.MacNotes.identified_iff`
    * `Icmp2.Manager.MacNotes.macs_identify_iff`

  A note opens with a line for the MAC.  Two of the four
  views look for notes that begin with the submitted one.
-/

------------------------------------------------------------
-- Notes
------------------------------------------------------------

namespace Icmp2

namespace Manager

open Facilities Library

structure NotedDevice where
  deviceType : DeviceType
  note : String
  deriving DecidableEq, Repr

def macTag : String :=
  "MAC: "

/- The text behind `MAC: ` on the first line. -/
def recordedMac
    (note : String) :
    Option (List Char) :=
  tagged? macTag.toList '\n' note.toList

def NotedDevice.mac
    (device : NotedDevice) :
    Option (List Char) :=
  recordedMac device.note

/- `f'MAC: {mac}\n' + note if mac else note`. -/
def noteFull
    (mac note : String) :
    String :=
  if mac = "" then note
  else macTag ++ mac ++ "\n" ++ note

/- `note__startswith=f'MAC: {mac}'`. -/
def NotedDevice.StartsWith
    (device : NotedDevice)
    (mac : String) :
    Prop :=
  (macTag ++ mac).toList <+: device.note.toList

instance
    (device : NotedDevice)
    (mac : String) :
    Decidable (device.StartsWith mac) := by
  unfold NotedDevice.StartsWith
  infer_instance

/- A note with a MAC records the first line of the MAC. -/
theorem recordedMac_noteFull
    {mac : String}
    (hMac : mac ≠ "")
    (note : String) :
    recordedMac (noteFull mac note) =
      some (firstLine '\n' mac.toList) := by
  have hList :
      (noteFull mac note).toList =
        macTag.toList ++
          (mac.toList ++ '\n' :: note.toList) := by
    rw [noteFull, if_neg hMac]
    simp only [String.toList_append, List.append_assoc]
    rfl
  rw [recordedMac, hList, tagged?_append]

/- What a device carries, its note begins with. -/
theorem NotedDevice.startsWith_of_mac
    {device : NotedDevice}
    {mac : String}
    (hMac : device.mac = some mac.toList) :
    device.StartsWith mac := by
  unfold StartsWith
  rw [String.toList_append]
  exact prefix_of_tagged? hMac

end Manager

end Icmp2

------------------------------------------------------------
-- Requests
------------------------------------------------------------

namespace Icmp2

namespace Manager

namespace MacNotes

open Facilities Library

inductive MacRefusal where
  | notFound
  | duplicateMac (error : String)
  deriving DecidableEq, Repr

def alreadyRegistered : MacRefusal :=
  .duplicateMac "이미 등록된 장비 ID입니다."

/- `Device.objects.filter(note__startswith=...)`. -/
def noted
    (rows : Rows NotedDevice)
    (mac : String) :
    List Nat :=
  (List.range rows.nextId).filter fun id =>
    (rows.get? id).any fun device => device.StartsWith mac

/- `gas_create`, where a code and a facility are found. -/
def gasCreate
    (rows : Rows NotedDevice)
    (deviceType : DeviceType)
    (deviceMac note : String) :
    Except MacRefusal (Rows NotedDevice) :=
  let mac := strip deviceMac
  if mac ≠ "" ∧ noted rows mac ≠ [] then
    .error alreadyRegistered
  else
    .ok
      (rows.insert ⟨deviceType, noteFull mac (strip note)⟩)

/-
  The three views that edit a device look for it among the
  devices of their type; one of them checks the MAC.
-/
def editDevice
    (deviceType : DeviceType)
    (checksMac : Bool)
    (rows : Rows NotedDevice)
    (pk : Nat)
    (deviceMac note : String) :
    Except MacRefusal (Rows NotedDevice) :=
  let mac := strip deviceMac
  match
      (rows.get? pk).filter fun device =>
        device.deviceType = deviceType with
  | none => .error .notFound
  | some device =>
      if checksMac = true ∧ mac ≠ "" ∧
          (noted rows mac).filter (· ≠ pk) ≠ [] then
        .error alreadyRegistered
      else
        .ok
          (rows.set pk
            { device with note := noteFull mac (strip note) })

/- `gas_edit`. -/
def gasEdit :=
  editDevice .gas true

/- `power_edit`. -/
def powerEdit :=
  editDevice .power false

/- `node_edit`. -/
def nodeEdit :=
  editDevice .loc false

/- A request with the posted MAC and note. -/
inductive MacRequest where
  | gasCreate
      (deviceType : DeviceType)
      (deviceMac note : String)
  | gasEdit (pk : Nat) (deviceMac note : String)
  | powerEdit (pk : Nat) (deviceMac note : String)
  | nodeEdit (pk : Nat) (deviceMac note : String)
  deriving DecidableEq, Repr

def serveMac
    (rows : Rows NotedDevice) :
    MacRequest →
    Except MacRefusal (Rows NotedDevice)
  | .gasCreate deviceType deviceMac note =>
      gasCreate rows deviceType deviceMac note
  | .gasEdit pk deviceMac note =>
      gasEdit rows pk deviceMac note
  | .powerEdit pk deviceMac note =>
      powerEdit rows pk deviceMac note
  | .nodeEdit pk deviceMac note =>
      nodeEdit rows pk deviceMac note

/- The table after a request, accepted or not. -/
def afterMac
    (rows : Rows NotedDevice)
    (request : MacRequest) :
    Rows NotedDevice :=
  match serveMac rows request with
  | .ok later => later
  | .error _ => rows

/- A device other than the target carries the MAC. -/
def Carried
    (rows : Rows NotedDevice)
    (target : Nat)
    (mac : List Char) :
    Prop :=
  ∃ other device,
    other ≠ target ∧
      rows.get? other = some device ∧
        device.mac = some mac

/- The note of another device begins with the MAC. -/
def Begun
    (rows : Rows NotedDevice)
    (target : Nat)
    (mac : String) :
    Prop :=
  ∃ other device,
    other ≠ target ∧
      rows.get? other = some device ∧
        device.StartsWith mac

theorem Carried.begun
    {rows : Rows NotedDevice}
    {target : Nat}
    {mac : String}
    (hCarried : Carried rows target mac.toList) :
    Begun rows target mac := by
  rcases hCarried with ⟨other, device, hNe, hGet, hMac⟩
  exact
    ⟨other, device, hNe, hGet,
      NotedDevice.startsWith_of_mac hMac⟩

theorem mem_noted_iff
    {rows : Rows NotedDevice}
    {mac : String}
    {id : Nat} :
    id ∈ noted rows mac ↔
      ∃ device,
        rows.get? id = some device ∧
          device.StartsWith mac := by
  unfold noted
  constructor
  · intro hMem
    have hAny := (List.mem_filter.mp hMem).2
    cases hGet : rows.get? id with
    | none =>
        rw [hGet] at hAny
        cases hAny
    | some device =>
        rw [hGet] at hAny
        exact ⟨device, rfl, by simpa using hAny⟩
  · rintro ⟨device, hGet, hStarts⟩
    refine List.mem_filter.mpr ⟨?_, ?_⟩
    · exact List.mem_range.mpr (Rows.lt_nextId hGet)
    · rw [hGet]
      simpa using hStarts

/- The query of `gas_edit` finds something. -/
theorem noted_others_ne_nil_iff
    {rows : Rows NotedDevice}
    {mac : String}
    {target : Nat} :
    (noted rows mac).filter (· ≠ target) ≠ [] ↔
      Begun rows target mac := by
  constructor
  · intro hSome
    rcases List.exists_mem_of_ne_nil _ hSome with
      ⟨other, hMem⟩
    rcases List.mem_filter.mp hMem with ⟨hNoted, hNe⟩
    rcases mem_noted_iff.mp hNoted with
      ⟨device, hGet, hStarts⟩
    exact
      ⟨other, device, by simpa using hNe, hGet, hStarts⟩
  · rintro ⟨other, device, hNe, hGet, hStarts⟩
    refine List.ne_nil_of_mem (a := other) ?_
    refine List.mem_filter.mpr ⟨?_, by simpa using hNe⟩
    exact mem_noted_iff.mpr ⟨device, hGet, hStarts⟩

/- The query of `gas_create` finds something. -/
theorem noted_ne_nil_iff
    {rows : Rows NotedDevice}
    {mac : String} :
    noted rows mac ≠ [] ↔ Begun rows rows.nextId mac := by
  rw [← noted_others_ne_nil_iff, List.filter_eq_self.mpr]
  intro id hMem
  rcases mem_noted_iff.mp hMem with ⟨device, hGet, -⟩
  simpa using Nat.ne_of_lt (Rows.lt_nextId hGet)

/- A row may be written if nobody carries its MAC. -/
theorem free_iff
    {rows : Rows NotedDevice}
    {target : Nat}
    {device : NotedDevice} :
    rows.Free NotedDevice.mac target device ↔
      ∀ mac ∈ recordedMac device.note,
        ¬Carried rows target mac := by
  constructor
  · rintro hFree mac hMac ⟨other, row, hNe, hGet, hRow⟩
    exact hNe (hFree.eq_id hGet hMac hRow)
  · intro hAlone other _ hNe mac hMac hTaken
    rcases Option.bind_eq_some_iff.mp hTaken with
      ⟨row, hGet, hRow⟩
    exact hAlone mac hMac ⟨other, row, hNe, hGet, hRow⟩

end MacNotes

end Manager

end Icmp2

------------------------------------------------------------
-- Identification
------------------------------------------------------------

namespace Icmp2

namespace Manager

namespace MacNotes

open Facilities Library

/- The id that a request writes. -/
def MacRequest.target
    (rows : Rows NotedDevice) :
    MacRequest →
    Nat
  | .gasCreate _ _ _ => rows.nextId
  | .gasEdit pk _ _ | .powerEdit pk _ _ | .nodeEdit pk _ _ =>
      pk

/- The submitted MAC. -/
def MacRequest.mac : MacRequest → String
  | .gasCreate _ deviceMac _
  | .gasEdit _ deviceMac _
  | .powerEdit _ deviceMac _
  | .nodeEdit _ deviceMac _ => strip deviceMac

/-
  After the request MACs identify devices, and it was not
  refused for a MAC that no other device carries.
-/
structure Identified
    (rows : Rows NotedDevice)
    (request : MacRequest) :
    Prop where
  unique : (afterMac rows request).UniqueBy NotedDevice.mac
  justified :
    serveMac rows request = .error alreadyRegistered →
      Carried rows (request.target rows) request.mac.toList

/-
  Where the MAC is checked, a note that begins with it
  belongs to a device that carries it, and a MAC of more
  than one line is not carried by its first line; elsewhere
  nobody carries what the note records.
-/
def KeepsNote
    (rows : Rows NotedDevice)
    (target : Nat)
    (checksMac : Bool)
    (mac note : String) :
    Prop :=
  if checksMac = true ∧ mac ≠ "" then
    (Begun rows target mac →
        Carried rows target mac.toList) ∧
      ('\n' ∈ mac.toList →
        ¬Begun rows target mac →
          ¬Carried rows target (firstLine '\n' mac.toList))
  else
    ∀ carried ∈ recordedMac (noteFull mac note),
      ¬Carried rows target carried

/- The device of the type that is edited is there. -/
def Editable
    (rows : Rows NotedDevice)
    (deviceType : DeviceType)
    (pk : Nat) :
    Prop :=
  ∃ device,
    rows.get? pk = some device ∧
      device.deviceType = deviceType

def KeepsMacs
    (rows : Rows NotedDevice) :
    MacRequest →
    Prop
  | .gasCreate _ deviceMac note =>
      KeepsNote rows rows.nextId true (strip deviceMac)
        (strip note)
  | .gasEdit pk deviceMac note =>
      Editable rows .gas pk →
        KeepsNote rows pk true (strip deviceMac) (strip note)
  | .powerEdit pk deviceMac note =>
      Editable rows .power pk →
        KeepsNote rows pk false (strip deviceMac) (strip note)
  | .nodeEdit pk deviceMac note =>
      Editable rows .loc pk →
        KeepsNote rows pk false (strip deviceMac) (strip note)

section Identification

variable {rows : Rows NotedDevice}
variable {target : Nat}
variable {checksMac : Bool}
variable {mac note : String}

/- What is asked of a request, by how it is answered. -/
theorem keeps_iff :
    KeepsNote rows target checksMac mac note ↔
      (checksMac = true ∧ mac ≠ "" ∧
          Begun rows target mac →
        Carried rows target mac.toList) ∧
      (¬(checksMac = true ∧ mac ≠ "" ∧
          Begun rows target mac) →
        ∀ carried ∈ recordedMac (noteFull mac note),
          ¬Carried rows target carried) := by
  unfold KeepsNote
  by_cases hChecked : checksMac = true ∧ mac ≠ ""
  · rcases hChecked with ⟨hChecks, hMac⟩
    rw [if_pos ⟨hChecks, hMac⟩, recordedMac_noteFull hMac]
    simp only [hChecks, ne_eq, hMac, not_false_eq_true,
      true_and, Option.mem_def, Option.some.injEq,
      forall_eq']
    refine and_congr_right fun _ => ?_
    by_cases hLine : '\n' ∈ mac.toList
    · simp only [hLine, true_implies]
    · rw [firstLine_of_not_mem hLine]
      simp only [hLine, false_implies, true_iff]
      exact fun hNone hCarried => hNone hCarried.begun
  · rw [if_neg hChecked]
    have hFree :
        ¬(checksMac = true ∧ mac ≠ "" ∧
          Begun rows target mac) :=
      fun h => hChecked ⟨h.1, h.2.1⟩
    simp only [hFree, false_implies, true_and,
      not_false_eq_true, true_implies]

/- A request that is refused or written as the checks say. -/
theorem identified_of_served
    {request : MacRequest}
    {later : Rows NotedDevice}
    (deviceType : DeviceType)
    (hUnique : rows.UniqueBy NotedDevice.mac)
    (hTarget : request.target rows = target)
    (hMac : request.mac = mac)
    (hRefuse :
      checksMac = true ∧ mac ≠ "" ∧ Begun rows target mac →
        serveMac rows request = .error alreadyRegistered)
    (hAccept :
      ¬(checksMac = true ∧ mac ≠ "" ∧
          Begun rows target mac) →
        serveMac rows request = .ok later)
    (hLater :
      later.UniqueBy NotedDevice.mac ↔
        rows.Free NotedDevice.mac target
          ⟨deviceType, noteFull mac note⟩) :
    Identified rows request ↔
      KeepsNote rows target checksMac mac note := by
  rw [free_iff] at hLater
  rw [keeps_iff]
  by_cases hRefused :
      checksMac = true ∧ mac ≠ "" ∧ Begun rows target mac
  · have hServe := hRefuse hRefused
    have hAfter : afterMac rows request = rows := by
      rw [afterMac, hServe]
    constructor
    · intro hIdentified
      have hCarried := hIdentified.justified hServe
      rw [hTarget, hMac] at hCarried
      exact
        ⟨fun _ => hCarried,
          fun hNot => absurd hRefused hNot⟩
    · rintro ⟨hCarried, -⟩
      refine ⟨?_, fun _ => ?_⟩
      · rw [hAfter]
        exact hUnique
      · rw [hTarget, hMac]
        exact hCarried hRefused
  · have hServe := hAccept hRefused
    have hAfter : afterMac rows request = later := by
      rw [afterMac, hServe]
    constructor
    · intro hIdentified
      have hKept := hIdentified.unique
      rw [hAfter, hLater] at hKept
      exact
        ⟨fun hYes => absurd hYes hRefused, fun _ => hKept⟩
    · rintro ⟨-, hKept⟩
      refine ⟨?_, fun hError => ?_⟩
      · rw [hAfter, hLater]
        exact hKept hRefused
      · rw [hServe] at hError
        cases hError

/- A view that does not find its device does nothing. -/
theorem editDevice_of_not_editable
    {deviceType : DeviceType}
    {pk : Nat}
    (hNone : ¬Editable rows deviceType pk)
    (deviceMac note : String) :
    editDevice deviceType checksMac rows pk deviceMac note =
      .error .notFound := by
  have hFilter :
      (rows.get? pk).filter
          (fun device => device.deviceType = deviceType) =
        none := by
    rw [Option.filter_eq_none_iff]
    intro device hGet hType
    exact hNone ⟨device, hGet, by simpa using hType⟩
  simp only [editDevice, hFilter]

/- An edit keeps the MACs as its note does. -/
theorem identified_edit_iff
    {request : MacRequest}
    {deviceType : DeviceType}
    {pk : Nat}
    {deviceMac : String}
    (hUnique : rows.UniqueBy NotedDevice.mac)
    (hTarget : request.target rows = pk)
    (hMac : request.mac = strip deviceMac)
    (hServe :
      serveMac rows request =
        editDevice deviceType checksMac rows pk deviceMac
          note) :
    Identified rows request ↔
      (Editable rows deviceType pk →
        KeepsNote rows pk checksMac (strip deviceMac)
          (strip note)) := by
  by_cases hThere : Editable rows deviceType pk
  · simp only [hThere, true_implies]
    rcases hThere with ⟨device, hGet, hType⟩
    have hFilter :
        (rows.get? pk).filter
            (fun device => device.deviceType = deviceType) =
          some device := by
      rw [hGet, Option.filter_some_pos (by simpa using hType)]
    simp only [editDevice, hFilter] at hServe
    refine identified_of_served device.deviceType
      hUnique hTarget hMac ?_ ?_
      (Rows.uniqueBy_set_iff hUnique hGet)
    · rintro ⟨hChecks, hSome, hBegun⟩
      rw [hServe, if_pos]
      exact
        ⟨hChecks, hSome, noted_others_ne_nil_iff.mpr hBegun⟩
    · intro hFree
      rw [hServe, if_neg]
      rintro ⟨hChecks, hSome, hNoted⟩
      exact hFree
        ⟨hChecks, hSome, noted_others_ne_nil_iff.mp hNoted⟩
  · simp only [hThere, false_implies, iff_true]
    rw [editDevice_of_not_editable hThere] at hServe
    refine ⟨?_, fun hError => ?_⟩
    · rw [afterMac, hServe]
      exact hUnique
    · rw [hServe] at hError
      cases hError

/- A request keeps the MACs exactly if its note does. -/
theorem identified_iff
    (hUnique : rows.UniqueBy NotedDevice.mac)
    (request : MacRequest) :
    Identified rows request ↔ KeepsMacs rows request := by
  cases request with
  | gasCreate deviceType deviceMac note =>
      refine identified_of_served deviceType
        hUnique rfl rfl ?_ ?_
        (Rows.uniqueBy_insert_iff hUnique)
      · rintro ⟨-, hSome, hBegun⟩
        rw [serveMac, gasCreate, if_pos]
        exact ⟨hSome, noted_ne_nil_iff.mpr hBegun⟩
      · intro hFree
        rw [serveMac, gasCreate, if_neg]
        rintro ⟨hSome, hNoted⟩
        exact hFree ⟨rfl, hSome, noted_ne_nil_iff.mp hNoted⟩
  | gasEdit pk deviceMac note =>
      exact identified_edit_iff hUnique rfl rfl rfl
  | powerEdit pk deviceMac note =>
      exact identified_edit_iff hUnique rfl rfl rfl
  | nodeEdit pk deviceMac note =>
      exact identified_edit_iff hUnique rfl rfl rfl

end Identification

/-
  In a run from an empty table MACs identify devices after
  every request, and no request is refused without cause,
  exactly if every request keeps the MACs.
-/
theorem macs_identify_iff
    (requests : List MacRequest) :
    Along afterMac Identified Rows.empty requests ↔
      Along afterMac KeepsMacs Rows.empty requests := by
  refine along_iff_of_invariant
    (I := fun rows : Rows NotedDevice =>
      rows.UniqueBy NotedDevice.mac)
    ?_ ?_ Rows.UniqueBy.empty requests
  · intro rows request hUnique
    exact identified_iff hUnique request
  · intro rows request _ hIdentified
    exact hIdentified.unique

/-
  An edited meter takes the MAC of another one; and a MAC is
  refused that an old one only begins with.
-/
theorem macs_not_identified :
    ¬Along afterMac Identified Rows.empty
        [.gasCreate .power "0A" "", .gasCreate .power "0B" "",
          .powerEdit 1 "0A" ""] ∧
      ¬Along afterMac Identified Rows.empty
        [.gasCreate .gas "0A:01" "", .gasCreate .gas "0A" ""] := by
  constructor
  · rintro ⟨-, -, hLast, -⟩
    have hSame :=
      hLast.unique 0 1 _ _ "0A".toList rfl rfl
        (by decide +kernel) (by decide +kernel)
    cases hSame
  · rintro ⟨-, hLast, -⟩
    rcases hLast.justified (by rfl) with
      ⟨other, device, hNe, hGet, hMac⟩
    have hOther := Rows.lt_nextId hGet
    have hZero : other = 0 := Nat.lt_one_iff.mp hOther
    subst hZero
    cases hGet
    exact absurd hMac (by decide +kernel)

end MacNotes

end Manager

end Icmp2
