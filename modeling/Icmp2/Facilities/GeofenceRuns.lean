import Icmp2.Facilities.Geofence

/-
  Automatic geofences over edits and readings.

  Main definitions include:
    * `Icmp2.Facilities.MapOp`
    * `Icmp2.Facilities.mapStep`
    * `Icmp2.Facilities.Faithful`
    * `Icmp2.Facilities.Undisturbed`
    * `Icmp2.Facilities.AutoInvariant`

  Main theorems include:
    * `Icmp2.Facilities.autoInvariant_mapStep`
    * `Icmp2.Facilities.faithful_of_undisturbed`
    * `Icmp2.Facilities.geofences_faithful`
-/

------------------------------------------------------------
-- Edits and Readings
------------------------------------------------------------

namespace Icmp2

namespace Facilities

open Monitoring Library

structure MapState where
  sensors : List SensorLocation
  geofences : Table Geofence
  deriving DecidableEq, Repr

/-
  An operator renames or moves a sensor, or a reading
  arrives under the policies of the moment.
-/
inductive MapOp where
  | edit (device : Nat) (deviceName : String)
      (floor : Nat) (x y : ℚ)
  | reading (now : Instant)
      (policies : List ThresholdPolicy)
      (reading : GasReading)

/- The sensors after an edit. -/
def editSensor
    (device : Nat)
    (deviceName : String)
    (floor : Nat)
    (x y : ℚ)
    (sensors : List SensorLocation) :
    List SensorLocation :=
  sensors.map fun sensor =>
    if sensor.deviceId = device then
      { sensor with
        deviceName := deviceName
        floor := some floor
        x := some x
        y := some y }
    else
      sensor

/-
  One operation on the map.  The column of a device name
  holds 100 characters, and an edit with more is refused.
-/
def mapStep
    (state : MapState) :
    MapOp → MapState
  | .edit device deviceName floor x y =>
      if deviceName.length ≤ 100 then
        { state with
          sensors :=
            editSensor device deviceName floor x y
              state.sensors }
      else
        state
  | .reading now policies reading =>
      { state with
        geofences :=
          syncGeofence now policies state.sensors reading
            state.geofences }

/- Generated for a device, and active. -/
def ActiveAuto
    (device : Nat)
    (geofence : Geofence) :
    Prop :=
  geofence.origin = .auto device ∧
    geofence.isActive = true

instance
    (device : Nat) :
    DecidablePred (ActiveAuto device) := by
  intro geofence
  unfold ActiveAuto
  infer_instance

/- A zone that shows a sensor at a severity. -/
structure Represents
    (sensor : SensorLocation)
    (floor : Nat)
    (severity : ZoneSeverity)
    (geofence : Geofence) :
    Prop where
  activeAuto : ActiveAuto sensor.deviceId geofence
  onFloor : geofence.floor = floor
  atX : geofence.centerX = sensor.x
  atY : geofence.centerY = sensor.y
  atSeverity : geofence.severity = severity
  inRadius :
    geofence.radius = some (geofenceRadius severity)

/-
  The active geofences of a device are as its sensor and
  the severity say: none at the severity safe, and else
  exactly one.
-/
def ShowsDevice
    (sensor : SensorLocation)
    (floor : Nat)
    (severity : ZoneSeverity)
    (geofences : Table Geofence) :
    Prop :=
  if severity = .safe then
    ∀ id geofence,
      geofences.get? id = some geofence →
      ¬ ActiveAuto sensor.deviceId geofence
  else
    ∃ id geofence,
      geofences.get? id = some geofence ∧
        Represents sensor floor severity geofence ∧
        ∀ otherId other,
          geofences.get? otherId = some other →
          ActiveAuto sensor.deviceId other →
          otherId = id

/- The geofences generated for other devices are kept. -/
def KeepsOtherDevices
    (device : Nat)
    (before after : Table Geofence) :
    Prop :=
  ∀ id geofence other,
    before.get? id = some geofence →
    geofence.origin = .auto other →
    other ≠ device →
    after.get? id = some geofence

/-
  A fresh reading of a device with a registered sensor on
  a floor leaves the geofences faithful to the device.
-/
def Faithful
    (state : MapState) :
    MapOp → Prop
  | .edit _ _ _ _ _ => True
  | .reading now policies reading =>
      Fresh now reading →
      ∀ sensor floor,
        activeSensor state.sensors reading.device =
            some sensor →
        sensor.floor = some floor →
        ShowsDevice sensor floor
            (severityOf (calcDangerLevel policies reading))
            (syncGeofence now policies state.sensors
              reading state.geofences) ∧
          KeepsOtherDevices reading.device
            state.geofences
            (syncGeofence now policies state.sensors
              reading state.geofences)

/-
  Before the reading, the active geofences of the device
  carry the present floor and name of its sensor, and no
  geofence of another origin carries them; for a normal
  reading it is enough that no active one does.
-/
def KeyIsOwn
    (sensor : SensorLocation)
    (floor : Nat)
    (severity : ZoneSeverity)
    (geofences : Table Geofence) :
    Prop :=
  (∀ geofence ∈ geofences.rows,
    ActiveAuto sensor.deviceId geofence →
    Keyed floor (autoName sensor) geofence) ∧
  ∀ geofence ∈ geofences.rows,
    Keyed floor (autoName sensor) geofence →
    (severity = .safe → geofence.isActive = true) →
    geofence.origin = .auto sensor.deviceId

instance
    (sensor : SensorLocation)
    (floor : Nat)
    (severity : ZoneSeverity)
    (geofences : Table Geofence) :
    Decidable
      (KeyIsOwn sensor floor severity geofences) := by
  unfold KeyIsOwn
  infer_instance

/-
  A fresh reading finds the key of its sensor its own, and
  the name of a zone that it asks for fits its column.
-/
def Undisturbed
    (state : MapState) :
    MapOp → Prop
  | .edit _ _ _ _ _ => True
  | .reading now policies reading =>
      Fresh now reading →
      match activeSensor state.sensors reading.device with
      | none => True
      | some sensor =>
          match sensor.floor with
          | none => True
          | some floor =>
              KeyIsOwn sensor floor
                  (severityOf
                    (calcDangerLevel policies reading))
                  state.geofences ∧
                (severityOf
                    (calcDangerLevel policies reading) ≠
                    .safe →
                  ZoneNameFits sensor)

instance
    (state : MapState)
    (op : MapOp) :
    Decidable (Undisturbed state op) := by
  cases op with
  | edit device deviceName floor x y =>
      exact isTrue trivial
  | reading now policies reading =>
      unfold Undisturbed
      simp only
      split
      · infer_instance
      · split
        · infer_instance
        · infer_instance

end Facilities

end Icmp2

------------------------------------------------------------
-- The Invariant of Automatic Names
------------------------------------------------------------

namespace Icmp2

namespace Facilities

open Monitoring Library

/- The name is one that `_auto_name` writes. -/
def AutoNamed
    (name : String) :
    Prop :=
  ∃ rest, name = "[자동] " ++ rest

/- No two geofences share a floor and an automatic name. -/
def AutoInvariant
    (geofences : Table Geofence) :
    Prop :=
  ∀ floor name,
    AutoNamed name →
    geofences.AtMostOne (Keyed floor name)

/- A map without automatic names satisfies the invariant. -/
theorem autoInvariant_of_not_autoNamed
    {geofences : Table Geofence}
    (hNames :
      ∀ id geofence,
        geofences.get? id = some geofence →
        ¬ AutoNamed geofence.name) :
    AutoInvariant geofences := by
  intro floor name hAuto left right leftRow rightRow
    hLeft _ hKey _
  exact
    absurd (hKey.2.symm ▸ hAuto)
      (hNames left leftRow hLeft)

/- Every operation keeps the invariant. -/
theorem autoInvariant_mapStep
    (state : MapState)
    (op : MapOp)
    (hInvariant : AutoInvariant state.geofences) :
    AutoInvariant (mapStep state op).geofences := by
  cases op with
  | edit device deviceName floor x y =>
      simp only [mapStep]
      split_ifs <;> exact hInvariant
  | reading now policies reading =>
      intro floor name hAuto
      exact
        atMostOne_syncGeofence
          now policies state.sensors reading
          (hInvariant floor name hAuto)

end Facilities

end Icmp2

------------------------------------------------------------
-- Faithful Readings
------------------------------------------------------------

namespace Icmp2

namespace Facilities

open Monitoring Library

variable {sensor : SensorLocation}
variable {floor : Nat}
variable {geofences : Table Geofence}

/- Switching off an own key shows the device as safe. -/
theorem deactivateKeyed_faithful
    (hOwn :
      KeyIsOwn sensor floor .safe geofences) :
    ShowsDevice sensor floor .safe
        (deactivateKeyed
          floor (autoName sensor) geofences) ∧
      KeepsOtherDevices sensor.deviceId geofences
        (deactivateKeyed
          floor (autoName sensor) geofences) := by
  constructor
  · rw [ShowsDevice, if_pos rfl]
    intro id later hLater hActive
    simp only [deactivateKeyed, Table.get?_modifyWhere,
      Option.map_eq_some_iff] at hLater
    rcases hLater with ⟨earlier, hEarlier, hEq⟩
    have hRow : earlier ∈ geofences.rows :=
      (geofences.mem_rows_iff earlier).mpr ⟨id, hEarlier⟩
    by_cases hKey :
        Keyed floor (autoName sensor) earlier ∧
          earlier.isActive = true
    · rw [if_pos hKey] at hEq
      rw [← hEq] at hActive
      cases hActive.2
    · rw [if_neg hKey] at hEq
      rw [← hEq] at hActive
      exact
        hKey ⟨hOwn.1 earlier hRow hActive, hActive.2⟩
  · intro id geofence other hGet hOrigin hOther
    have hRow : geofence ∈ geofences.rows :=
      (geofences.mem_rows_iff geofence).mpr ⟨id, hGet⟩
    have hKey :
        ¬ (Keyed floor (autoName sensor) geofence ∧
          geofence.isActive = true) := by
      rintro ⟨hKeyed, hActive⟩
      have hDevice :=
        hOwn.2 geofence hRow hKeyed (fun _ => hActive)
      rw [hOrigin] at hDevice
      exact hOther (GeofenceOrigin.auto.inj hDevice)
    simp only [deactivateKeyed, Table.get?_modifyWhere,
      hGet, Option.map_some, if_neg hKey]

/- The new geofence of a free key shows the device. -/
theorem newGeofence_faithful
    {severity : ZoneSeverity}
    (hUnsafe : severity ≠ .safe)
    (hOwn : KeyIsOwn sensor floor severity geofences)
    (hNone :
      ∀ id geofence,
        geofences.get? id = some geofence →
        ¬ Keyed floor (autoName sensor) geofence) :
    ShowsDevice sensor floor severity
        (geofences.insert
          (newGeofence sensor floor severity)) ∧
      KeepsOtherDevices sensor.deviceId geofences
        (geofences.insert
          (newGeofence sensor floor severity)) := by
  constructor
  · rw [ShowsDevice, if_neg hUnsafe]
    refine
      ⟨geofences.nextId, _, Table.get?_insert_nextId _ _,
        ⟨⟨rfl, rfl⟩, rfl, rfl, rfl, rfl, rfl⟩, ?_⟩
    intro id other hGet hActive
    rw [Table.get?_insert] at hGet
    by_cases hNew : id = geofences.nextId
    · exact hNew
    · rw [if_neg hNew] at hGet
      have hRow : other ∈ geofences.rows :=
        (geofences.mem_rows_iff other).mpr ⟨id, hGet⟩
      exact
        absurd (hOwn.1 other hRow hActive)
          (hNone id other hGet)
  · intro id geofence other hGet _ _
    exact Table.get?_insert_of_get? hGet _

/- Refreshing the own geofence shows the device. -/
theorem refreshGeofence_faithful
    {severity : ZoneSeverity}
    (hUnsafe : severity ≠ .safe)
    (hOwn : KeyIsOwn sensor floor severity geofences)
    (hOne :
      geofences.AtMostOne (Keyed floor (autoName sensor)))
    {id : Nat}
    {geofence : Geofence}
    (hGet : geofences.get? id = some geofence)
    (hKey : Keyed floor (autoName sensor) geofence) :
    ShowsDevice sensor floor severity
        (geofences.modify id
          (refreshGeofence sensor severity)) ∧
      KeepsOtherDevices sensor.deviceId geofences
        (geofences.modify id
          (refreshGeofence sensor severity)) := by
  have hRow : geofence ∈ geofences.rows :=
    (geofences.mem_rows_iff geofence).mpr ⟨id, hGet⟩
  have hOrigin :
      geofence.origin = .auto sensor.deviceId :=
    hOwn.2 geofence hRow hKey
      (fun hSafe => absurd hSafe hUnsafe)
  constructor
  · rw [ShowsDevice, if_neg hUnsafe]
    refine
      ⟨id, refreshGeofence sensor severity geofence,
        by simp [hGet],
        ⟨⟨hOrigin, rfl⟩, hKey.1, rfl, rfl, rfl, rfl⟩, ?_⟩
    intro otherId other hOther hActive
    by_cases hId : id = otherId
    · exact hId.symm
    · rw [Table.get?_modify_of_ne _ _ hId] at hOther
      have hOtherRow : other ∈ geofences.rows :=
        (geofences.mem_rows_iff other).mpr
          ⟨otherId, hOther⟩
      exact
        hOne otherId id other geofence hOther hGet
          (hOwn.1 other hOtherRow hActive) hKey
  · intro otherId other device hOther hAuto hDevice
    have hId : id ≠ otherId := by
      intro hEq
      rw [hEq, hOther] at hGet
      rw [Option.some.inj hGet, hOrigin] at hAuto
      exact hDevice (GeofenceOrigin.auto.inj hAuto).symm
    rw [Table.get?_modify_of_ne _ _ hId, hOther]

/- A reading that finds its key its own is faithful. -/
theorem faithful_of_undisturbed
    (state : MapState)
    (op : MapOp)
    (hInvariant : AutoInvariant state.geofences)
    (hUndisturbed : Undisturbed state op) :
    Faithful state op := by
  cases op with
  | edit device deviceName floor x y => trivial
  | reading now policies reading =>
      intro hFresh sensor floor hSensor hFloor
      have hBefore := hUndisturbed hFresh
      simp only [hSensor, hFloor] at hBefore
      rcases hBefore with ⟨hOwn, hFits⟩
      have hDevice := activeSensor_deviceId hSensor
      have hOne :=
        hInvariant floor (autoName sensor)
          ⟨sensor.deviceName, rfl⟩
      rw [← hDevice]
      by_cases hSafe :
          severityOf (calcDangerLevel policies reading) =
            .safe
      · rw [syncGeofence_safe
          hFresh hSensor hFloor hSafe, hSafe]
        rw [hSafe] at hOwn
        exact deactivateKeyed_faithful hOwn
      · by_cases hNone :
            ∀ id geofence,
              state.geofences.get? id = some geofence →
              ¬ Keyed floor (autoName sensor) geofence
        · rw [syncGeofence_new hNone hFresh hSensor hFloor
            hSafe (hFits hSafe)]
          exact newGeofence_faithful hSafe hOwn hNone
        · push Not at hNone
          rcases hNone with ⟨id, geofence, hGet, hKey⟩
          rw [syncGeofence_known
            hFresh hSensor hFloor hSafe hOne hGet hKey]
          exact
            refreshGeofence_faithful
              hSafe hOwn hOne hGet hKey

/-
  In every run of edits and readings whose readings find
  the keys of their sensors their own, the automatic
  geofences stay faithful.
-/
theorem geofences_faithful
    (state : MapState)
    (ops : List MapOp)
    (hStart : AutoInvariant state.geofences)
    (hUndisturbed :
      Along mapStep Undisturbed state ops) :
    Along mapStep Faithful state ops :=
  Along.of_invariant
    (fun later op hInvariant hOp =>
      faithful_of_undisturbed later op hInvariant hOp)
    (fun later op hInvariant _ =>
      autoInvariant_mapStep later op hInvariant)
    hStart hUndisturbed

/- A gas sensor on the first floor. -/
def mapSensor
    (device : Nat)
    (deviceName : String) :
    SensorLocation where
  deviceId := device
  sensorType := "gas"
  deviceName := deviceName
  floor := some 1
  x := some 2
  y := some 3
  isActive := true

/- The reading of a device that measured co only. -/
def coReading
    (device : Nat)
    (co : ℚ) :
    GasReading :=
  { soleReading .co co with device := device }

/- A map with one sensor and no geofences. -/
def oneSensorMap : MapState where
  sensors := [mapSensor 1 "A"]
  geofences := Table.empty

/- Danger, a move on the floor, caution, and normal. -/
def undisturbedOps : List MapOp :=
  [.reading 0 [] (coReading 1 250),
    .edit 1 "A" 1 5 5,
    .reading 0 [] (coReading 1 50),
    .reading 0 [] (coReading 1 0)]

/- Moving a sensor on its floor keeps its zone faithful. -/
theorem geofences_faithful_move :
    Along mapStep Faithful oneSensorMap undisturbedOps :=
  geofences_faithful oneSensorMap undisturbedOps
    (autoInvariant_of_not_autoNamed
      (fun id geofence hGet => by
        simp [oneSensorMap] at hGet))
    (by decide +kernel)

/- Danger, a renaming, and danger again. -/
def renamedOps : List MapOp :=
  [.reading 0 [] (coReading 1 250),
    .edit 1 "B" 1 2 3,
    .reading 0 [] (coReading 1 250)]

/- Two sensors of one name on one floor. -/
def twinSensorMap : MapState where
  sensors := [mapSensor 1 "A", mapSensor 2 "A"]
  geofences := Table.empty

/- Danger at the first sensor, normal at the second. -/
def twinOps : List MapOp :=
  [.reading 0 [] (coReading 1 250),
    .reading 0 [] (coReading 2 0)]

/- A sensor whose name fills 96 of 100 characters. -/
def longNameMap : MapState where
  sensors :=
    [mapSensor 1 (String.ofList (List.replicate 96 'A'))]
  geofences := Table.empty

/-
  After a renaming the old zone stays active beside the
  new one; the normal reading of a second sensor of the
  same name switches off the zone of the first; and with a
  long name no zone comes at all.
-/
theorem renamed_sensor_leaves_zone :
    (¬ Along mapStep Faithful oneSensorMap renamedOps ∧
      (run mapStep oneSensorMap
          renamedOps).geofences.rows.map
          (fun geofence =>
            (geofence.name, geofence.origin,
              geofence.isActive)) =
        [("[자동] A", .auto 1, true),
          ("[자동] B", .auto 1, true)]) ∧
    (¬ Along mapStep Faithful twinSensorMap twinOps ∧
      (run mapStep twinSensorMap
          twinOps).geofences.rows.map
          (fun geofence =>
            (geofence.name, geofence.origin,
              geofence.isActive)) =
        [("[자동] A", .auto 1, false)]) ∧
    (¬ Along mapStep Faithful longNameMap
        [.reading 0 [] (coReading 1 250)] ∧
      (run mapStep longNameMap
        [.reading 0 [] (coReading 1 250)]).geofences.rows =
        []) := by
  refine
    ⟨⟨?_, by decide +kernel⟩, ⟨?_, by decide +kernel⟩,
      ?_, by decide +kernel⟩
  · intro hAlong
    have hShows :=
      (hAlong.2.2.1 (by decide +kernel)
        (mapSensor 1 "B") 1
        (by decide +kernel) rfl).1
    rw [ShowsDevice, if_neg (by decide +kernel)] at hShows
    rcases hShows with ⟨id, _, _, _, hOnly⟩
    -- rows 0 and 1 are both active and of device 1
    have hOld :=
      hOnly 0 (newGeofence (mapSensor 1 "A") 1 .danger)
        (by decide +kernel) (by decide +kernel)
    have hNew :=
      hOnly 1 (newGeofence (mapSensor 1 "B") 1 .danger)
        (by decide +kernel) (by decide +kernel)
    omega
  · intro hAlong
    have hKept :=
      (hAlong.2.1 (by decide +kernel)
        (mapSensor 2 "A") 1
        (by decide +kernel) rfl).2
        0 (newGeofence (mapSensor 1 "A") 1 .danger) 1
        (by decide +kernel) rfl (by decide)
    exact absurd hKept (by decide +kernel)
  · intro hAlong
    have hShows :=
      (hAlong.1 (by decide +kernel)
        (mapSensor 1
          (String.ofList (List.replicate 96 'A'))) 1
        (by decide +kernel) rfl).1
    rw [ShowsDevice, if_neg (by decide +kernel)] at hShows
    rcases hShows with ⟨id, geofence, hGet, _⟩
    have hEmpty :
        (syncGeofence 0 [] longNameMap.sensors
          (coReading 1 250) longNameMap.geofences).rows =
          [] := by
      decide +kernel
    have hRow := List.mem_of_getElem? hGet
    rw [hEmpty] at hRow
    cases hRow

end Facilities

end Icmp2
