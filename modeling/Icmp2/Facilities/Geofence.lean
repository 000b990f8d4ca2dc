import Icmp2.Library.Table
import Icmp2.Library.Trace
import Icmp2.Monitoring.Thresholds

/-
  Sensors on the map and the automatic geofences.

  Main definitions include:
    * `Icmp2.Facilities.SensorLocation`
    * `Icmp2.Facilities.Geofence`
    * `Icmp2.Facilities.updateGeofenceFromGas`

  Main theorems include:
    * `Icmp2.Facilities.syncGeofence_cases`
    * `Icmp2.Facilities.atMostOne_syncGeofence`
-/

------------------------------------------------------------
-- Sensors and Geofences
------------------------------------------------------------

namespace Icmp2

namespace Facilities

open Monitoring Library

/- The place of the sensor of one device. -/
structure SensorLocation where
  deviceId : Nat
  sensorType : String
  deviceName : String
  floor : Option Nat
  x : Option ℚ
  y : Option ℚ
  isActive : Bool
  deriving DecidableEq, Repr

inductive GeofenceType where
  | circle
  | polygon
  deriving DecidableEq, Repr

/- The severities of a zone. -/
inductive ZoneSeverity where
  | danger
  | warning
  | safe
  deriving DecidableEq, Repr

/- Who created a geofence. -/
inductive GeofenceOrigin where
  | manual (description : String)
  | auto (device : Nat)
  deriving DecidableEq, Repr

/- The description that an origin writes. -/
def GeofenceOrigin.description : GeofenceOrigin → String
  | manual description => description
  | auto device =>
      "가스센서 자동 생성 — device_id=" ++
        String.ofList (Nat.toDigits 10 device)

structure Geofence where
  floor : Nat
  name : String
  geofenceType : GeofenceType
  severity : ZoneSeverity
  origin : GeofenceOrigin
  isActive : Bool
  centerX : Option ℚ
  centerY : Option ℚ
  radius : Option ℚ
  polygonData : Option (List (ℚ × ℚ))
  deriving DecidableEq, Repr

/- Two minutes without data make a value stale. -/
def staleThreshold : Int :=
  2 * 60 * 1000000

/- `_auto_name`. -/
def autoName
    (sensor : SensorLocation) :
    String :=
  "[자동] " ++ sensor.deviceName

/- The column `Geofence.name` has room for the name. -/
def ZoneNameFits
    (sensor : SensorLocation) :
    Prop :=
  (autoName sensor).length ≤ 100

instance
    (sensor : SensorLocation) :
    Decidable (ZoneNameFits sensor) := by
  unfold ZoneNameFits
  infer_instance

/- `SEVERITY_MAP`. -/
def severityOf : Level → ZoneSeverity
  | .danger => .danger
  | .caution => .warning
  | .normal => .safe

/- `GEOFENCE_RADIUS`; a safe zone has no radius. -/
def geofenceRadius : ZoneSeverity → ℚ
  | .warning => 3
  | .danger => 5
  | .safe => 0

/- The floor and the name of a geofence. -/
def Keyed
    (floor : Nat)
    (name : String)
    (geofence : Geofence) :
    Prop :=
  geofence.floor = floor ∧ geofence.name = name

instance
    (floor : Nat)
    (name : String) :
    DecidablePred (Keyed floor name) := by
  intro geofence
  unfold Keyed
  infer_instance

/- The geofence that `get_or_create` creates. -/
def newGeofence
    (sensor : SensorLocation)
    (floor : Nat)
    (severity : ZoneSeverity) :
    Geofence where
  floor := floor
  name := autoName sensor
  geofenceType := .circle
  severity := severity
  origin := .auto sensor.deviceId
  isActive := true
  centerX := sensor.x
  centerY := sensor.y
  radius := some (geofenceRadius severity)
  polygonData := none

/- The columns that are brought up to date. -/
def refreshGeofence
    (sensor : SensorLocation)
    (severity : ZoneSeverity)
    (geofence : Geofence) :
    Geofence :=
  { geofence with
    severity := severity
    radius := some (geofenceRadius severity)
    centerX := sensor.x
    centerY := sensor.y
    isActive := true }

/- The geofence after switching it off. -/
def Geofence.deactivate
    (geofence : Geofence) :
    Geofence :=
  { geofence with isActive := false }

/- The registered active sensor of a device. -/
def activeSensor
    (sensors : List SensorLocation)
    (device : Nat) :
    Option SensorLocation :=
  sensors.find? fun sensor =>
    sensor.deviceId = device ∧ sensor.isActive = true

/- Switch off the active geofences under a key. -/
def deactivateKeyed
    (floor : Nat)
    (name : String)
    (geofences : Table Geofence) :
    Table Geofence :=
  geofences.modifyWhere
    (fun geofence =>
      Keyed floor name geofence ∧
        geofence.isActive = true)
    Geofence.deactivate

/-
  Create or refresh the geofence of a sensor.  A name that
  its column cannot hold is found under no row, and the
  database refuses the row with it.
-/
def raiseGeofence
    (sensor : SensorLocation)
    (floor : Nat)
    (severity : ZoneSeverity)
    (geofences : Table Geofence) :
    Except String (Table Geofence) :=
  match geofences.ids (Keyed floor (autoName sensor)) with
  | [] =>
      if ZoneNameFits sensor then
        .ok
          (geofences.insert
            (newGeofence sensor floor severity))
      else
        .error "value too long for character varying(100)"
  | [id] =>
      .ok
        (geofences.modify id
          (refreshGeofence sensor severity))
  | _ =>
      .error "get() returned more than one Geofence"

/- `update_geofence_from_gas`. -/
def updateGeofenceFromGas
    (now : Instant)
    (policies : List ThresholdPolicy)
    (sensors : List SensorLocation)
    (reading : GasReading)
    (geofences : Table Geofence) :
    Except String (Table Geofence) :=
  if reading.measuredAt < now - staleThreshold then
    .ok geofences
  else
    let severity :=
      severityOf (calcDangerLevel policies reading)
    match activeSensor sensors reading.device with
    | none => .ok geofences
    | some sensor =>
        match sensor.floor with
        | none =>
            if severity = .safe then
              .ok geofences
            else
              .error "null value in column floor_id"
        | some floor =>
            if severity = .safe then
              .ok
                (deactivateKeyed
                  floor (autoName sensor) geofences)
            else
              raiseGeofence sensor floor severity geofences

/- The callers catch the exceptions of an update. -/
def syncGeofence
    (now : Instant)
    (policies : List ThresholdPolicy)
    (sensors : List SensorLocation)
    (reading : GasReading)
    (geofences : Table Geofence) :
    Table Geofence :=
  match updateGeofenceFromGas
    now policies sensors reading geofences with
  | .ok later => later
  | .error _ => geofences

end Facilities

end Icmp2

------------------------------------------------------------
-- One Fresh Reading
------------------------------------------------------------

namespace Icmp2

namespace Facilities

open Monitoring Library

/- A reading that the freshness guard lets pass. -/
def Fresh
    (now : Instant)
    (reading : GasReading) :
    Prop :=
  now - staleThreshold ≤ reading.measuredAt

instance
    (now : Instant)
    (reading : GasReading) :
    Decidable (Fresh now reading) := by
  unfold Fresh
  infer_instance

variable {now : Instant}
variable {policies : List ThresholdPolicy}
variable {sensors : List SensorLocation}
variable {sensor : SensorLocation}
variable {reading : GasReading}
variable {floor : Nat}
variable {geofences : Table Geofence}

theorem activeSensor_deviceId
    {device : Nat}
    (hSensor :
      activeSensor sensors device = some sensor) :
    sensor.deviceId = device := by
  have hFound := List.find?_some hSensor
  simp only [decide_eq_true_eq] at hFound
  exact hFound.1

/- A normal reading switches its key off. -/
theorem syncGeofence_safe
    (hFresh : Fresh now reading)
    (hSensor :
      activeSensor sensors reading.device = some sensor)
    (hFloor : sensor.floor = some floor)
    (hSafe :
      severityOf (calcDangerLevel policies reading) =
        .safe) :
    syncGeofence now policies sensors reading geofences =
      deactivateKeyed
        floor (autoName sensor) geofences := by
  simp [syncGeofence, updateGeofenceFromGas,
    not_lt.mpr hFresh, hSensor, hFloor, hSafe]

section Unkeyed

variable
  (hNone :
    ∀ id geofence,
      geofences.get? id = some geofence →
      ¬ Keyed floor (autoName sensor) geofence)
include hNone

/- Without a row under the key, one is created. -/
theorem syncGeofence_new
    (hFresh : Fresh now reading)
    (hSensor :
      activeSensor sensors reading.device = some sensor)
    (hFloor : sensor.floor = some floor)
    (hUnsafe :
      severityOf (calcDangerLevel policies reading) ≠
        .safe)
    (hFits : ZoneNameFits sensor) :
    syncGeofence now policies sensors reading geofences =
      geofences.insert
        (newGeofence sensor floor
          (severityOf
            (calcDangerLevel policies reading))) := by
  simp [syncGeofence, updateGeofenceFromGas,
    not_lt.mpr hFresh, hSensor, hFloor, hUnsafe,
    raiseGeofence, Table.ids_eq_nil_iff.mpr hNone, hFits]

/- With a name that is too long, none is. -/
theorem syncGeofence_tooLong
    (hFresh : Fresh now reading)
    (hSensor :
      activeSensor sensors reading.device = some sensor)
    (hFloor : sensor.floor = some floor)
    (hUnsafe :
      severityOf (calcDangerLevel policies reading) ≠
        .safe)
    (hLong : ¬ ZoneNameFits sensor) :
    syncGeofence now policies sensors reading geofences =
      geofences := by
  simp [syncGeofence, updateGeofenceFromGas,
    not_lt.mpr hFresh, hSensor, hFloor, hUnsafe,
    raiseGeofence, Table.ids_eq_nil_iff.mpr hNone, hLong]

end Unkeyed

/- The only row under the key is brought up to date. -/
theorem syncGeofence_known
    {id : Nat}
    {geofence : Geofence}
    (hFresh : Fresh now reading)
    (hSensor :
      activeSensor sensors reading.device = some sensor)
    (hFloor : sensor.floor = some floor)
    (hUnsafe :
      severityOf (calcDangerLevel policies reading) ≠
        .safe)
    (hOne :
      geofences.AtMostOne (Keyed floor (autoName sensor)))
    (hGet : geofences.get? id = some geofence)
    (hKey : Keyed floor (autoName sensor) geofence) :
    syncGeofence now policies sensors reading geofences =
      geofences.modify id
        (refreshGeofence sensor
          (severityOf
            (calcDangerLevel policies reading))) := by
  simp [syncGeofence, updateGeofenceFromGas,
    not_lt.mpr hFresh, hSensor, hFloor, hUnsafe,
    raiseGeofence, Table.ids_eq_singleton hOne hGet hKey]

/- What one update can do to the geofences. -/
theorem syncGeofence_cases
    (now : Instant)
    (policies : List ThresholdPolicy)
    (sensors : List SensorLocation)
    (reading : GasReading)
    (geofences : Table Geofence) :
    syncGeofence now policies sensors reading geofences =
        geofences ∨
      ∃ sensor floor,
        activeSensor sensors reading.device =
            some sensor ∧
          sensor.floor = some floor ∧
          (syncGeofence
                now policies sensors reading geofences =
              deactivateKeyed
                floor (autoName sensor) geofences ∨
            (∃ severity,
              syncGeofence
                    now policies sensors reading geofences =
                  geofences.insert
                    (newGeofence sensor floor severity) ∧
                ∀ id geofence,
                  geofences.get? id = some geofence →
                  ¬ Keyed
                      floor (autoName sensor) geofence) ∨
            ∃ severity id geofence,
              syncGeofence
                    now policies sensors reading geofences =
                  geofences.modify id
                    (refreshGeofence sensor severity) ∧
                geofences.get? id = some geofence ∧
                Keyed floor (autoName sensor) geofence) := by
  unfold syncGeofence updateGeofenceFromGas
  by_cases hStale : reading.measuredAt < now - staleThreshold
  · simp [hStale]
  · simp only [if_neg hStale]
    cases hSensor : activeSensor sensors reading.device with
    | none => exact Or.inl rfl
    | some sensor =>
        cases hFloor : sensor.floor with
        | none =>
            left
            simp only [hFloor]
            split
            · rename_i later hOk
              split at hOk
              · exact (Except.ok.inj hOk).symm
              · cases hOk
            · rfl
        | some floor =>
            simp only [hFloor]
            by_cases hSafe :
                severityOf
                    (calcDangerLevel policies reading) =
                  .safe
            · simp only [if_pos hSafe]
              exact
                Or.inr
                  ⟨sensor, floor, rfl, hFloor, Or.inl rfl⟩
            · simp only [if_neg hSafe, raiseGeofence]
              cases hIds :
                  geofences.ids
                    (Keyed floor (autoName sensor)) with
              | nil =>
                  by_cases hFits : ZoneNameFits sensor
                  · simp only [if_pos hFits]
                    exact
                      Or.inr
                        ⟨sensor, floor, rfl, hFloor,
                          Or.inr (Or.inl
                            ⟨_, rfl,
                              Table.ids_eq_nil_iff.mp
                                hIds⟩)⟩
                  · simp only [if_neg hFits, true_or]
              | cons id rest =>
                  cases rest with
                  | nil =>
                      have hMem :
                          id ∈ geofences.ids
                            (Keyed
                              floor (autoName sensor)) := by
                        rw [hIds]
                        exact List.mem_cons_self
                      rcases (Table.mem_ids_iff id).mp
                          hMem with
                        ⟨geofence, hGet, hKey⟩
                      exact
                        Or.inr
                          ⟨sensor, floor, rfl, hFloor,
                            Or.inr (Or.inr
                              ⟨_, id, geofence, rfl,
                                hGet, hKey⟩)⟩
                  | cons second rest =>
                      exact Or.inl rfl

end Facilities

end Icmp2

------------------------------------------------------------
-- Keys
------------------------------------------------------------

namespace Icmp2

namespace Facilities

open Monitoring Library

/- Every later row has the key and origin of an earlier. -/
def SameKeys
    (before after : Table Geofence) :
    Prop :=
  ∀ id later,
    after.get? id = some later →
    ∃ earlier,
      before.get? id = some earlier ∧
        later.floor = earlier.floor ∧
        later.name = earlier.name ∧
        later.origin = earlier.origin

theorem sameKeys_deactivateKeyed
    (floor : Nat)
    (name : String)
    (geofences : Table Geofence) :
    SameKeys geofences
      (deactivateKeyed floor name geofences) := by
  intro id later hLater
  simp only [deactivateKeyed, Table.get?_modifyWhere,
    Option.map_eq_some_iff] at hLater
  rcases hLater with ⟨earlier, hEarlier, hEq⟩
  refine ⟨earlier, hEarlier, ?_⟩
  rw [← hEq]
  split
  · exact ⟨rfl, rfl, rfl⟩
  · exact ⟨rfl, rfl, rfl⟩

theorem sameKeys_refreshGeofence
    (sensor : SensorLocation)
    (severity : ZoneSeverity)
    (id : Nat)
    (geofences : Table Geofence) :
    SameKeys geofences
      (geofences.modify id
        (refreshGeofence sensor severity)) := by
  intro other later hLater
  by_cases hId : id = other
  · subst hId
    simp only [Table.get?_modify_self,
      Option.map_eq_some_iff] at hLater
    rcases hLater with ⟨earlier, hEarlier, hEq⟩
    rw [← hEq]
    exact ⟨earlier, hEarlier, rfl, rfl, rfl⟩
  · rw [Table.get?_modify_of_ne _ _ hId] at hLater
    exact ⟨later, hLater, rfl, rfl, rfl⟩

theorem SameKeys.atMostOne
    {before after : Table Geofence}
    (hSame : SameKeys before after)
    {floor : Nat}
    {name : String}
    (hOne : before.AtMostOne (Keyed floor name)) :
    after.AtMostOne (Keyed floor name) := by
  have hWithin :
      Table.Within (Keyed floor name) after before := by
    intro id later hLater hKey
    rcases hSame id later hLater with
      ⟨earlier, hEarlier, hFloor, hName, _⟩
    exact
      ⟨earlier, hEarlier,
        hFloor.symm.trans hKey.1, hName.symm.trans hKey.2⟩
  exact hWithin.atMostOne hOne

/- A new row under a free key leaves every key unique. -/
theorem atMostOne_insert
    {geofences : Table Geofence}
    {sensor : SensorLocation}
    {floor : Nat}
    {severity : ZoneSeverity}
    (hNone :
      ∀ id geofence,
        geofences.get? id = some geofence →
        ¬ Keyed floor (autoName sensor) geofence)
    {otherFloor : Nat}
    {otherName : String}
    (hOne :
      geofences.AtMostOne (Keyed otherFloor otherName)) :
    (geofences.insert
        (newGeofence sensor floor severity)).AtMostOne
      (Keyed otherFloor otherName) := by
  by_cases hKey :
      Keyed otherFloor otherName
        (newGeofence sensor floor severity)
  · apply Table.atMostOne_insert_of_none
    rw [← hKey.1, ← hKey.2]
    exact hNone
  · exact (Table.within_insert hKey).atMostOne hOne

/- An update keeps a key unique. -/
theorem atMostOne_syncGeofence
    (now : Instant)
    (policies : List ThresholdPolicy)
    (sensors : List SensorLocation)
    (reading : GasReading)
    {geofences : Table Geofence}
    {floor : Nat}
    {name : String}
    (hOne : geofences.AtMostOne (Keyed floor name)) :
    (syncGeofence now policies sensors reading
        geofences).AtMostOne
      (Keyed floor name) := by
  rcases syncGeofence_cases
      now policies sensors reading geofences with
    hSame | ⟨sensor, keyFloor, _, _,
      hOff | ⟨severity, hNew, hNone⟩ |
        ⟨severity, id, geofence, hKnown, _, _⟩⟩
  · rw [hSame]
    exact hOne
  · rw [hOff]
    exact
      (sameKeys_deactivateKeyed _ _ _).atMostOne hOne
  · rw [hNew]
    exact atMostOne_insert hNone hOne
  · rw [hKnown]
    exact
      (sameKeys_refreshGeofence _ _ _ _).atMostOne hOne

end Facilities

end Icmp2
