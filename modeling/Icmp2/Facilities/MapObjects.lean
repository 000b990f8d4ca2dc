import Icmp2.Facilities.Geofence
import Icmp2.Facilities.NodeSync

/-
  The objects of the map and their serializers.

  Main definitions include:
    * `Icmp2.Facilities.Equipment`
    * `Icmp2.Facilities.SensorRow`
    * `Icmp2.Facilities.GeofenceRow`
    * `Icmp2.Facilities.MapSerializer`
    * `Icmp2.Facilities.MapSerializer.isValid`
    * `Icmp2.Facilities.equipmentSerializer`
    * `Icmp2.Facilities.locationNodeSerializer`
    * `Icmp2.Facilities.sensorLocationSerializer`
    * `Icmp2.Facilities.geofenceSerializer`

  Main theorems include:
    * `Icmp2.Facilities.Equipment.hasPlace_update`
    * `Icmp2.Facilities.LocationNode.hasPlace_update`
    * `Icmp2.Facilities.SensorRow.hasPlace_update`
-/

------------------------------------------------------------
-- Rows
------------------------------------------------------------

namespace Icmp2

namespace Facilities

open Library

inductive EquipmentStatus where
  | active
  | inactive
  | maintenance
  deriving DecidableEq, Repr

structure Equipment where
  floor : Option Nat
  zone : Option Nat
  equipmentName : String
  equipmentCode : String
  width : Option FloatValue
  height : Option FloatValue
  centerX : Option FloatValue
  centerY : Option FloatValue
  rotation : Int
  status : EquipmentStatus
  powerSystem : String
  note : String
  updatedBy : Option Nat
  isPlaced : Bool
  deriving DecidableEq, Repr

inductive SensorType where
  | gas
  | power
  | location
  deriving DecidableEq, Repr

/- A `SensorLocation` with all of its editable columns. -/
structure SensorRow where
  deviceId : Int
  floor : Option Nat
  sensorType : SensorType
  x : Option FloatValue
  y : Option FloatValue
  deviceName : String
  isActive : Bool
  isPlaced : Bool
  deriving DecidableEq, Repr

/-
  A `Geofence` with all of its editable columns; the polygon
  is kept as the text of its JSON.
-/
structure GeofenceRow where
  floor : Nat
  zone : Option Nat
  name : String
  geofenceType : GeofenceType
  severity : ZoneSeverity
  description : String
  isActive : Bool
  centerX : Option FloatValue
  centerY : Option FloatValue
  radius : Option FloatValue
  polygonData : Option String
  deriving DecidableEq, Repr

/- A placed machine stands on a floor, and has a size. -/
def Equipment.HasPlace
    (row : Equipment) :
    Prop :=
  row.isPlaced = true →
    row.floor ≠ none ∧
      row.centerX ≠ none ∧
      row.centerY ≠ none ∧
      row.width ≠ none ∧
      row.height ≠ none

/- A placed node is on a floor, at some point. -/
def LocationNode.HasPlace
    (row : LocationNode) :
    Prop :=
  row.isPlaced = true →
    row.floor ≠ none ∧ row.x ≠ none ∧ row.y ≠ none

def SensorRow.HasPlace
    (row : SensorRow) :
    Prop :=
  row.isPlaced = true →
    row.floor ≠ none ∧ row.x ≠ none ∧ row.y ≠ none

end Facilities

end Icmp2

------------------------------------------------------------
-- Serializers
------------------------------------------------------------

namespace Icmp2

namespace Facilities

open Library

/- A field and what is wrong with it. -/
abbrev FieldError : Type :=
  String × String

/-
  A serializer of one model.  `update` writes the fields
  that the data gives, `missing` are the required ones that
  it lacks, `fieldErrors` come from the declared fields
  against the other rows, and `validate` runs behind them.
-/
structure MapSerializer (Row Data : Type) where
  defaults : Row
  update : Row → Data → Row
  missing : Data → List String
  fieldErrors : Rows Row → Nat → Data → List FieldError
  validate : Option Row → Data → List FieldError

/- What is wrong with the single fields. -/
def MapSerializer.allFieldErrors
    {Row Data : Type}
    (serializer : MapSerializer Row Data)
    (rows : Rows Row)
    (id : Nat)
    (isPartial : Bool)
    (data : Data) :
    List FieldError :=
  (if isPartial then []
    else
      (serializer.missing data).map fun field =>
        (field, "required")) ++
    serializer.fieldErrors rows id data

/-
  `is_valid` for the row at `id`, or for a new one.  The
  data are the typed fields, or none if a field that is
  derived from the model cannot be read; such data, and
  fields that are missing, are named by the error code of
  the framework.
-/
def MapSerializer.isValid
    {Row Data : Type}
    (serializer : MapSerializer Row Data)
    (rows : Rows Row)
    (id : Nat)
    (isPartial : Bool)
    (data : Option Data) :
    Except (List FieldError) Data :=
  match data with
  | none => .error [("", "invalid")]
  | some data =>
      let errors :=
        serializer.allFieldErrors rows id isPartial data
      if errors ≠ [] then
        .error errors
      else
        let errors := serializer.validate (rows.get? id) data
        if errors ≠ [] then
          .error errors
        else
          .ok data

/- A `CharField` with a length and a `UniqueValidator`. -/
def codeErrors
    {Row : Type}
    (field : String)
    (maxLength : Nat)
    (message : String)
    (column : Row → String)
    (rows : Rows Row)
    (id : Nat)
    (code : Option String) :
    List FieldError :=
  match code with
  | none => []
  | some code =>
      let taken :=
        (rows.erase id).find? fun row => column row = code
      (if taken.isSome then [(field, message)] else []) ++
        (if maxLength < code.length then
          [(field, "max_length")]
        else [])

/- The nulls among the fields of an object that is placed. -/
def placementErrors
    (isPlaced : Bool)
    (required : List (String × Bool)) :
    List FieldError :=
  if isPlaced then
    (required.filter Prod.snd).map fun entry =>
      (entry.1, "배치 완료 상태에서는 비-null 값이 필요합니다.")
  else
    []

/- The names of the fields that are not given. -/
def absentFields
    (fields : List (String × Bool)) :
    List String :=
  (fields.filter fun entry => entry.2 = false).map Prod.fst

structure EquipmentData where
  floor : Option (Option Nat)
  zone : Option (Option Nat)
  equipmentCode : Option String
  equipmentName : Option String
  width : Option (Option FloatValue)
  height : Option (Option FloatValue)
  centerX : Option (Option FloatValue)
  centerY : Option (Option FloatValue)
  rotation : Option Int
  status : Option EquipmentStatus
  isPlaced : Option Bool
  deriving DecidableEq, Repr

def Equipment.update
    (row : Equipment)
    (data : EquipmentData) :
    Equipment :=
  { row with
    floor := data.floor.getD row.floor
    zone := data.zone.getD row.zone
    equipmentCode :=
      data.equipmentCode.getD row.equipmentCode
    equipmentName :=
      data.equipmentName.getD row.equipmentName
    width := data.width.getD row.width
    height := data.height.getD row.height
    centerX := data.centerX.getD row.centerX
    centerY := data.centerY.getD row.centerY
    rotation := data.rotation.getD row.rotation
    status := data.status.getD row.status
    isPlaced := data.isPlaced.getD row.isPlaced }

/- `EquipmentSerializer.validate`. -/
def validateEquipment
    (instance' : Option Equipment)
    (attrs : EquipmentData) :
    List FieldError :=
  placementErrors
    (attrs.isPlaced.getD (instance'.any Equipment.isPlaced))
    [("floor",
        (attrs.floor.getD
          (instance'.bind Equipment.floor)).isNone),
      ("center_x",
        (attrs.centerX.getD
          (instance'.bind Equipment.centerX)).isNone),
      ("center_y",
        (attrs.centerY.getD
          (instance'.bind Equipment.centerY)).isNone),
      ("width",
        (attrs.width.getD
          (instance'.bind Equipment.width)).isNone),
      ("height",
        (attrs.height.getD
          (instance'.bind Equipment.height)).isNone)]

/- `EquipmentSerializer`. -/
def equipmentSerializer :
    MapSerializer Equipment EquipmentData where
  defaults :=
    ⟨none, none, "", "", none, none, none, none, 0, .active,
      "", "", none, false⟩
  update := Equipment.update
  missing := fun data =>
    absentFields
      [("equipment_code", data.equipmentCode.isSome),
        ("equipment_name", data.equipmentName.isSome)]
  fieldErrors := fun rows id data =>
    codeErrors "equipment_code" 20
      "이미 등록된 설비 코드입니다." Equipment.equipmentCode
      rows id data.equipmentCode
  validate := validateEquipment

structure LocationNodeData where
  floor : Option (Option Nat)
  zone : Option (Option Nat)
  nodeName : Option String
  nodeCode : Option String
  x : Option (Option FloatValue)
  y : Option (Option FloatValue)
  status : Option NodeStatus
  isPlaced : Option Bool
  deriving DecidableEq, Repr

def LocationNode.update
    (row : LocationNode)
    (data : LocationNodeData) :
    LocationNode :=
  { row with
    floor := data.floor.getD row.floor
    zone := data.zone.getD row.zone
    nodeName := data.nodeName.getD row.nodeName
    nodeCode := data.nodeCode.getD row.nodeCode
    x := data.x.getD row.x
    y := data.y.getD row.y
    status := data.status.getD row.status
    isPlaced := data.isPlaced.getD row.isPlaced }

/- `LocationNodeSerializer.validate`. -/
def validateLocationNode
    (instance' : Option LocationNode)
    (attrs : LocationNodeData) :
    List FieldError :=
  placementErrors
    (attrs.isPlaced.getD
      (instance'.any LocationNode.isPlaced))
    [("floor",
        (attrs.floor.getD
          (instance'.bind LocationNode.floor)).isNone),
      ("x",
        (attrs.x.getD
          (instance'.bind LocationNode.x)).isNone),
      ("y",
        (attrs.y.getD
          (instance'.bind LocationNode.y)).isNone)]

/- `LocationNodeSerializer`. -/
def locationNodeSerializer :
    MapSerializer LocationNode LocationNodeData where
  defaults :=
    ⟨none, none, "", "", none, none, some (.finite 0),
      .active, false, none⟩
  update := LocationNode.update
  missing := fun data =>
    absentFields
      [("node_name", data.nodeName.isSome),
        ("node_code", data.nodeCode.isSome)]
  fieldErrors := fun rows id data =>
    codeErrors "node_code" 50 "이미 등록된 노드 코드입니다."
      LocationNode.nodeCode rows id data.nodeCode
  validate := validateLocationNode

structure SensorData where
  deviceId : Option Int
  floor : Option (Option Nat)
  sensorType : Option SensorType
  x : Option (Option FloatValue)
  y : Option (Option FloatValue)
  deviceName : Option String
  isActive : Option Bool
  isPlaced : Option Bool
  deriving DecidableEq, Repr

def SensorRow.update
    (row : SensorRow)
    (data : SensorData) :
    SensorRow where
  deviceId := data.deviceId.getD row.deviceId
  floor := data.floor.getD row.floor
  sensorType := data.sensorType.getD row.sensorType
  x := data.x.getD row.x
  y := data.y.getD row.y
  deviceName := data.deviceName.getD row.deviceName
  isActive := data.isActive.getD row.isActive
  isPlaced := data.isPlaced.getD row.isPlaced

/- `SensorLocationSerializer.validate`. -/
def validateSensorLocation
    (instance' : Option SensorRow)
    (attrs : SensorData) :
    List FieldError :=
  placementErrors
    (attrs.isPlaced.getD (instance'.any SensorRow.isPlaced))
    [("floor",
        (attrs.floor.getD
          (instance'.bind SensorRow.floor)).isNone),
      ("x",
        (attrs.x.getD
          (instance'.bind SensorRow.x)).isNone),
      ("y",
        (attrs.y.getD
          (instance'.bind SensorRow.y)).isNone)]

/- `SensorLocationSerializer`. -/
def sensorLocationSerializer :
    MapSerializer SensorRow SensorData where
  defaults :=
    ⟨0, none, .gas, none, none, "", true, false⟩
  update := SensorRow.update
  missing := fun data =>
    absentFields [("device_id", data.deviceId.isSome)]
  fieldErrors := fun rows id data =>
    match data.deviceId with
    | none => []
    | some deviceId =>
        let taken :=
          (rows.erase id).find? fun row =>
            row.deviceId = deviceId
        if taken.isSome then [("device_id", "unique")]
        else []
  validate := validateSensorLocation

structure GeofenceData where
  floor : Option Nat
  zone : Option (Option Nat)
  name : Option String
  geofenceType : Option GeofenceType
  severity : Option ZoneSeverity
  description : Option String
  isActive : Option Bool
  centerX : Option (Option FloatValue)
  centerY : Option (Option FloatValue)
  radius : Option (Option FloatValue)
  polygonData : Option (Option String)
  deriving DecidableEq, Repr

def GeofenceRow.update
    (row : GeofenceRow)
    (data : GeofenceData) :
    GeofenceRow where
  floor := data.floor.getD row.floor
  zone := data.zone.getD row.zone
  name := data.name.getD row.name
  geofenceType := data.geofenceType.getD row.geofenceType
  severity := data.severity.getD row.severity
  description := data.description.getD row.description
  isActive := data.isActive.getD row.isActive
  centerX := data.centerX.getD row.centerX
  centerY := data.centerY.getD row.centerY
  radius := data.radius.getD row.radius
  polygonData := data.polygonData.getD row.polygonData

/- `GeofenceSerializer`, which declares nothing. -/
def geofenceSerializer :
    MapSerializer GeofenceRow GeofenceData where
  defaults :=
    ⟨0, none, "", .circle, .danger, "", true, none, none,
      none, none⟩
  update := GeofenceRow.update
  missing := fun data =>
    absentFields
      [("floor", data.floor.isSome),
        ("name", data.name.isSome)]
  fieldErrors := fun _ _ _ => []
  validate := fun _ _ => []

end Facilities

end Icmp2

------------------------------------------------------------
-- Valid Data
------------------------------------------------------------

namespace Icmp2

namespace Facilities

open Library

/- Validation hands on the data as they were given. -/
theorem data_of_isValid
    {Row Data : Type}
    {serializer : MapSerializer Row Data}
    {rows : Rows Row}
    {id : Nat}
    {isPartial : Bool}
    {data : Option Data}
    {attrs : Data}
    (hValid :
      serializer.isValid rows id isPartial data =
        .ok attrs) :
    attrs ∈ data := by
  cases data with
  | none => cases hValid
  | some given =>
      simp only [MapSerializer.isValid] at hValid
      split_ifs at hValid
      cases hValid
      rfl

/- Valid data passed `validate` against the stored row. -/
theorem validate_of_isValid
    {Row Data : Type}
    {serializer : MapSerializer Row Data}
    {rows : Rows Row}
    {id : Nat}
    {isPartial : Bool}
    {data : Option Data}
    {attrs : Data}
    (hValid :
      serializer.isValid rows id isPartial data =
        .ok attrs) :
    serializer.validate (rows.get? id) attrs = [] := by
  cases data with
  | none => cases hValid
  | some given =>
      simp only [MapSerializer.isValid] at hValid
      split_ifs at hValid with hFields hPlace
      cases hValid
      exact not_not.mp hPlace

theorem placementErrors_eq_nil
    {isPlaced : Bool}
    {required : List (String × Bool)}
    (hNone : placementErrors isPlaced required = [])
    (hPlaced : isPlaced = true) :
    ∀ entry ∈ required, entry.2 = false := by
  rw [placementErrors, if_pos hPlaced, List.map_eq_nil_iff,
    List.filter_eq_nil_iff] at hNone
  intro entry hMem
  exact Bool.eq_false_iff.mpr (hNone entry hMem)

theorem ne_none_of_isNone
    {T : Type}
    {value : Option T}
    (hSome : value.isNone = false) :
    value ≠ none := by
  intro hNone
  rw [hNone] at hSome
  cases hSome

/-
  What the serializer checks are the columns that the write
  leaves, over the stored row and over the defaults.
-/
theorem Equipment.hasPlace_update
    {stored : Option Equipment}
    {data : EquipmentData}
    (hValid : validateEquipment stored data = []) :
    ((stored.getD equipmentSerializer.defaults).update
      data).HasPlace := by
  intro hPlaced
  have hRequired :=
    placementErrors_eq_nil hValid
      (by cases stored <;> exact hPlaced)
  simp only [List.forall_mem_cons] at hRequired
  rcases hRequired with
    ⟨hFloor, hX, hY, hWidth, hHeight, _⟩
  cases stored <;>
    exact
      ⟨ne_none_of_isNone hFloor, ne_none_of_isNone hX,
        ne_none_of_isNone hY, ne_none_of_isNone hWidth,
        ne_none_of_isNone hHeight⟩

theorem LocationNode.hasPlace_update
    {stored : Option LocationNode}
    {data : LocationNodeData}
    (hValid : validateLocationNode stored data = []) :
    ((stored.getD locationNodeSerializer.defaults).update
      data).HasPlace := by
  intro hPlaced
  have hRequired :=
    placementErrors_eq_nil hValid
      (by cases stored <;> exact hPlaced)
  simp only [List.forall_mem_cons] at hRequired
  rcases hRequired with ⟨hFloor, hX, hY, _⟩
  cases stored <;>
    exact
      ⟨ne_none_of_isNone hFloor, ne_none_of_isNone hX,
        ne_none_of_isNone hY⟩

theorem SensorRow.hasPlace_update
    {stored : Option SensorRow}
    {data : SensorData}
    (hValid : validateSensorLocation stored data = []) :
    ((stored.getD sensorLocationSerializer.defaults).update
      data).HasPlace := by
  intro hPlaced
  have hRequired :=
    placementErrors_eq_nil hValid
      (by cases stored <;> exact hPlaced)
  simp only [List.forall_mem_cons] at hRequired
  rcases hRequired with ⟨hFloor, hX, hY, _⟩
  cases stored <;>
    exact
      ⟨ne_none_of_isNone hFloor, ne_none_of_isNone hX,
        ne_none_of_isNone hY⟩

end Facilities

end Icmp2
