import Icmp2.Facilities.GeofenceRuns
import Icmp2.Ingest.OneAlarm

/-
  The automatic geofence of one sensor over readings in any
  order of measurement.

  Main definitions include:
    * `Icmp2.Ingest.processed`
    * `Icmp2.Ingest.FenceShows`
    * `Icmp2.Ingest.HasFence`
    * `Icmp2.Ingest.ArrivalRun`

  Main theorems include:
    * `Icmp2.Ingest.fenceShows_syncGeofence`
    * `Icmp2.Ingest.fenceShows_last`
    * `Icmp2.Ingest.fenceShows_none`
    * `Icmp2.Ingest.fence_shows_greatest_iff`
-/

------------------------------------------------------------
-- What a Geofence Shows
------------------------------------------------------------

namespace Icmp2

namespace Ingest

open Monitoring Alerts Facilities Library

/-
  The geofence under the key of a sensor shows a severity:
  active with it and its radius, or not active if safe.
-/
def FenceShows
    (sensor : SensorLocation)
    (floor : Nat)
    (severity : ZoneSeverity)
    (geofences : Table Geofence) :
    Prop :=
  if severity = .safe then
    ∀ id geofence,
      geofences.get? id = some geofence →
      Keyed floor (autoName sensor) geofence →
      geofence.isActive = false
  else
    ∃ id geofence,
      geofences.get? id = some geofence ∧
        Keyed floor (autoName sensor) geofence ∧
        geofence.isActive = true ∧
        geofence.severity = severity ∧
        geofence.radius = some (geofenceRadius severity)

variable {sensor : SensorLocation}
variable {floor : Nat}
variable {geofences : Table Geofence}

theorem fenceShows_safe_iff :
    FenceShows sensor floor .safe geofences ↔
      ∀ id geofence,
        geofences.get? id = some geofence →
        Keyed floor (autoName sensor) geofence →
        geofence.isActive = false := by
  rw [FenceShows, if_pos rfl]

theorem fenceShows_unsafe_iff
    {severity : ZoneSeverity}
    (hUnsafe : severity ≠ .safe) :
    FenceShows sensor floor severity geofences ↔
      ∃ id geofence,
        geofences.get? id = some geofence ∧
          Keyed floor (autoName sensor) geofence ∧
          geofence.isActive = true ∧
          geofence.severity = severity ∧
          geofence.radius =
            some (geofenceRadius severity) := by
  rw [FenceShows, if_neg hUnsafe]

/- The only geofence of a key shows one severity at most. -/
theorem FenceShows.unique
    {left right : ZoneSeverity}
    (hOne :
      geofences.AtMostOne (Keyed floor (autoName sensor)))
    (hLeft : FenceShows sensor floor left geofences)
    (hRight : FenceShows sensor floor right geofences) :
    left = right := by
  by_cases hLeftSafe : left = .safe
  · by_cases hRightSafe : right = .safe
    · rw [hLeftSafe, hRightSafe]
    · rw [hLeftSafe, fenceShows_safe_iff] at hLeft
      rcases (fenceShows_unsafe_iff hRightSafe).mp hRight
        with ⟨id, geofence, hGet, hKey, hActive, _⟩
      rw [hLeft id geofence hGet hKey] at hActive
      cases hActive
  · rcases (fenceShows_unsafe_iff hLeftSafe).mp hLeft with
      ⟨id, geofence, hGet, hKey, hActive, hSeverity, _⟩
    by_cases hRightSafe : right = .safe
    · rw [hRightSafe, fenceShows_safe_iff] at hRight
      rw [hRight id geofence hGet hKey] at hActive
      cases hActive
    · rcases (fenceShows_unsafe_iff hRightSafe).mp hRight
        with ⟨otherId, other, hOtherGet, hOtherKey, _,
          hOtherSeverity, _⟩
      have hId :=
        hOne id otherId geofence other
          hGet hOtherGet hKey hOtherKey
      rw [hId, hOtherGet] at hGet
      rw [← hSeverity, ← hOtherSeverity,
        Option.some.inj hGet]

/-
  A row is under the key of a sensor, or the name of the
  key fits into a new one.
-/
def HasFence
    (sensor : SensorLocation)
    (floor : Nat)
    (geofences : Table Geofence) :
    Prop :=
  ZoneNameFits sensor ∨
    ∃ id geofence,
      geofences.get? id = some geofence ∧
        Keyed floor (autoName sensor) geofence

/- Without any, every key is shown as safe. -/
theorem fenceShows_safe_of_not_hasFence
    (hNo : ¬ HasFence sensor floor geofences) :
    FenceShows sensor floor .safe geofences := by
  rw [fenceShows_safe_iff]
  intro id geofence hGet hKey
  exact absurd (Or.inr ⟨id, geofence, hGet, hKey⟩) hNo

theorem normal_of_severityOf
    {level : Level}
    (hSafe : severityOf level = .safe) :
    level = .normal := by
  cases level with
  | normal => rfl
  | caution => cases hSafe
  | danger => cases hSafe

/- A level is told by the severity that stands for it. -/
theorem severityOf_injective :
    Function.Injective severityOf := by
  intro left right hSeverity
  cases left <;> cases right <;>
    simp [severityOf] at hSeverity ⊢

/- A fresh reading is shown, whatever was shown before. -/
theorem fenceShows_syncGeofence
    {now : Instant}
    {policies : List ThresholdPolicy}
    {sensors : List SensorLocation}
    {reading : GasReading}
    (hFresh : Fresh now reading)
    (hSensor :
      activeSensor sensors reading.device = some sensor)
    (hFloor : sensor.floor = some floor)
    (hOne :
      geofences.AtMostOne
        (Keyed floor (autoName sensor)))
    (hFence : HasFence sensor floor geofences) :
    FenceShows sensor floor
      (severityOf (calcDangerLevel policies reading))
      (syncGeofence
        now policies sensors reading geofences) := by
  by_cases hSafe :
      severityOf (calcDangerLevel policies reading) = .safe
  · rw [syncGeofence_safe hFresh hSensor hFloor hSafe,
      hSafe, fenceShows_safe_iff]
    intro id later hLater hKey
    simp only [deactivateKeyed, Table.get?_modifyWhere,
      Option.map_eq_some_iff] at hLater
    rcases hLater with ⟨earlier, _, hEq⟩
    rw [← hEq] at hKey ⊢
    by_cases hOld : Keyed floor (autoName sensor) earlier ∧
        earlier.isActive = true
    · rw [if_pos hOld]
      rfl
    · rw [if_neg hOld] at hKey ⊢
      exact
        Bool.eq_false_of_not_eq_true
          (fun hActive => hOld ⟨hKey, hActive⟩)
  · rw [fenceShows_unsafe_iff hSafe]
    by_cases hAny :
        ∃ id geofence,
          geofences.get? id = some geofence ∧
            Keyed floor (autoName sensor) geofence
    · rcases hAny with ⟨id, geofence, hGet, hKey⟩
      rw [syncGeofence_known
        hFresh hSensor hFloor hSafe hOne hGet hKey]
      refine
        ⟨id,
          refreshGeofence sensor
            (severityOf (calcDangerLevel policies reading))
            geofence,
          ?_, hKey, rfl, rfl, rfl⟩
      rw [Table.get?_modify_self, hGet]
      rfl
    · have hFits := hFence.resolve_right hAny
      push Not at hAny
      rw [syncGeofence_new hAny hFresh hSensor hFloor hSafe
        hFits]
      refine
        ⟨geofences.nextId,
          newGeofence sensor floor
            (severityOf (calcDangerLevel policies reading)),
          ?_, ⟨rfl, rfl⟩, rfl, rfl, rfl⟩
      rw [Table.get?_insert, if_pos rfl]

/- An update leaves every row under its key. -/
theorem hasFence_syncGeofence
    (now : Instant)
    (policies : List ThresholdPolicy)
    (sensors : List SensorLocation)
    (reading : GasReading)
    (hFence : HasFence sensor floor geofences) :
    HasFence sensor floor
      (syncGeofence
        now policies sensors reading geofences) := by
  refine hFence.imp_right ?_
  rintro ⟨id, geofence, hGet, hKey⟩
  rcases syncGeofence_cases
      now policies sensors reading geofences with
    hSame | ⟨other, _, _, _,
      hOff | ⟨_, hNew, _⟩ | ⟨severity, known, _, hOn, _, _⟩⟩
  · rw [hSame]
    exact ⟨id, geofence, hGet, hKey⟩
  · rw [hOff, deactivateKeyed]
    simp only [Table.get?_modifyWhere]
    refine ⟨id, _, by rw [hGet]; rfl, ?_⟩
    beta_reduce
    split_ifs <;> exact hKey
  · rw [hNew]
    exact
      ⟨id, geofence, Table.get?_insert_of_get? hGet _, hKey⟩
  · rw [hOn]
    by_cases hId : known = id
    · refine
        ⟨id, refreshGeofence other severity geofence, ?_, hKey⟩
      rw [hId, Table.get?_modify_self, hGet]
      rfl
    · refine ⟨id, geofence, ?_, hKey⟩
      rw [Table.get?_modify_of_ne _ _ hId, hGet]

/- Where no row can come under a key, none comes. -/
theorem not_hasFence_syncGeofence
    {now : Instant}
    {policies : List ThresholdPolicy}
    {sensors : List SensorLocation}
    {reading : GasReading}
    (hFresh : Fresh now reading)
    (hSensor :
      activeSensor sensors reading.device = some sensor)
    (hFloor : sensor.floor = some floor)
    (hNo : ¬ HasFence sensor floor geofences) :
    ¬ HasFence sensor floor
        (syncGeofence
          now policies sensors reading geofences) := by
  have hLong : ¬ ZoneNameFits sensor := fun hFits =>
    hNo (Or.inl hFits)
  have hNone : ∀ id geofence,
      geofences.get? id = some geofence →
      ¬ Keyed floor (autoName sensor) geofence := by
    intro id geofence hGet hKey
    exact hNo (Or.inr ⟨id, geofence, hGet, hKey⟩)
  by_cases hSafe :
      severityOf (calcDangerLevel policies reading) = .safe
  · rw [syncGeofence_safe hFresh hSensor hFloor hSafe]
    rintro (hFits | ⟨id, later, hGet, hKey⟩)
    · exact hLong hFits
    · rcases sameKeys_deactivateKeyed _ _ _ id later hGet
        with ⟨earlier, hEarlier, hOnFloor, hName, _⟩
      exact
        hNone id earlier hEarlier
          ⟨hOnFloor.symm.trans hKey.1,
            hName.symm.trans hKey.2⟩
  · rwa [syncGeofence_tooLong hNone hFresh hSensor hFloor
      hSafe hLong]

end Ingest

end Icmp2

------------------------------------------------------------
-- Runs of Arrivals
------------------------------------------------------------

namespace Icmp2

namespace Ingest

open Monitoring Alerts Facilities Library

/- The readings that a run inserts, in arrival order. -/
def processed
    (text : FloatText) :
    Site → List GasIngest → List GasReading
  | _, [] => []
  | site, call :: calls =>
      let rest :=
        processed text (ingestStep text site call) calls
      match arrival? site call with
      | none => rest
      | some arrival => arrival.2 :: rest

/-
  Calls for one active device whose sensor is registered on
  a floor, with times that are fresh, distinct and not yet
  stored; and no two geofences under the key of the sensor.
-/
structure ArrivalRun
    (device : Device)
    (sensor : SensorLocation)
    (floor : Nat)
    (site : Site)
    (calls : List GasIngest) :
    Prop where
  found :
    findDevice site.devices device.deviceUid = some device
  active : device.isActive = true
  inService : device.status = "active"
  registered :
    activeSensor site.sensors device.id = some sensor
  onFloor : sensor.floor = some floor
  oneFence :
    site.geofences.AtMostOne (Keyed floor (autoName sensor))
  onDevice :
    ∀ call ∈ calls,
      call.payload.deviceUid = device.deviceUid
  readable :
    ∀ call ∈ calls, call.payload.measuredAt ≠ .impossible
  fresh :
    ∀ call ∈ calls,
      call.now - staleThreshold ≤ call.measuredAt
  distinct : (calls.map GasIngest.measuredAt).Nodup
  unstored :
    ∀ row ∈ site.readings.rows,
      row.device = device.id →
      row.measuredAt ∉ calls.map GasIngest.measuredAt

variable {device : Device}
variable {sensor : SensorLocation}
variable {floor : Nat}
variable {site : Site}
variable {call : GasIngest}
variable {calls : List GasIngest}

/- The first call of such a run gets to insert. -/
theorem ArrivalRun.arrival
    (hRun :
      ArrivalRun device sensor floor site
        (call :: calls)) :
    arrival? site call =
      some
        (device,
          newReading site device call.payload
            call.measuredAt) := by
  rw [arrival?_eq_some_iff]
  refine
    ⟨?_, hRun.active, hRun.inService,
      hRun.readable call List.mem_cons_self, rfl, ?_⟩
  · rw [hRun.onDevice call List.mem_cons_self]
    exact hRun.found
  · rintro ⟨row, hRow, hDevice, hTime⟩
    apply hRun.unstored row hRow hDevice
    rw [hTime]
    exact List.mem_cons_self

/- The rest of such a run is such a run. -/
theorem ArrivalRun.tail
    (text : FloatText)
    (hRun :
      ArrivalRun device sensor floor site
        (call :: calls)) :
    ArrivalRun device sensor floor
      (ingestStep text site call) calls := by
  rcases ingestStep_static text site call with
    ⟨hDevices, hSensors, _⟩
  have hStep := ingestStep_of_arrival text hRun.arrival
  have hDistinct := List.nodup_cons.mp hRun.distinct
  exact
    { found := by
        rw [hDevices]
        exact hRun.found
      active := hRun.active
      inService := hRun.inService
      registered := by
        rw [hSensors]
        exact hRun.registered
      onFloor := hRun.onFloor
      oneFence := by
        rw [hStep]
        exact atMostOne_syncGeofence _ _ _ _ hRun.oneFence
      onDevice := fun later hLater =>
        hRun.onDevice later (List.mem_cons_of_mem _ hLater)
      readable := fun later hLater =>
        hRun.readable later (List.mem_cons_of_mem _ hLater)
      fresh := fun later hLater =>
        hRun.fresh later (List.mem_cons_of_mem _ hLater)
      distinct := hDistinct.2
      unstored := by
        intro row hRow hDevice
        rw [hStep] at hRow
        simp only [processReading, Table.insert,
          List.mem_append, List.mem_singleton] at hRow
        rcases hRow with hOld | hNew
        · intro hMem
          exact
            hRun.unstored row hOld hDevice
              (List.mem_cons_of_mem _ hMem)
        · rw [hNew]
          exact hDistinct.1 }

/- Every call of such a run inserts its reading. -/
theorem processed_measuredAt
    (text : FloatText)
    (hRun : ArrivalRun device sensor floor site calls) :
    (processed text site calls).map GasReading.measuredAt =
      calls.map GasIngest.measuredAt := by
  induction calls generalizing site with
  | nil => rfl
  | cons call calls ih =>
      simp only [processed, hRun.arrival, List.map_cons]
      rw [ih (hRun.tail text)]
      rfl

/- The run keeps the key of the sensor unique. -/
theorem ArrivalRun.oneFence_run
    (text : FloatText)
    (hRun : ArrivalRun device sensor floor site calls) :
    (run (ingestStep text) site
        calls).geofences.AtMostOne
      (Keyed floor (autoName sensor)) := by
  induction calls generalizing site with
  | nil => exact hRun.oneFence
  | cons call calls ih => exact ih (hRun.tail text)

/- With a row or room for one, the last reading is shown. -/
theorem fenceShows_last
    (text : FloatText)
    (hRun : ArrivalRun device sensor floor site calls)
    (hFence : HasFence sensor floor site.geofences)
    {last : GasReading}
    (hLast :
      (processed text site calls).getLast? = some last) :
    FenceShows sensor floor
      (severityOf (calcDangerLevel site.policies last))
      (run (ingestStep text) site calls).geofences := by
  induction calls generalizing site with
  | nil => cases hLast
  | cons call calls ih =>
      have hStep := ingestStep_of_arrival text hRun.arrival
      have hPolicies :=
        (ingestStep_static text site call).2.2
      simp only [processed, hRun.arrival] at hLast
      rw [run_cons]
      cases hRest :
          (processed text (ingestStep text site call)
            calls).getLast? with
      | none =>
          -- nothing follows, so the first call is the last
          rw [List.getLast?_eq_none_iff] at hRest
          have hCalls :=
            processed_measuredAt text (hRun.tail text)
          rw [hRest] at hLast hCalls
          rcases List.map_eq_nil_iff.mp hCalls.symm with rfl
          simp only [List.getLast?_singleton,
            Option.some.injEq] at hLast
          rw [run_nil, hStep, ← hLast]
          exact
            fenceShows_syncGeofence
              (hRun.fresh call List.mem_cons_self)
              hRun.registered hRun.onFloor hRun.oneFence
              hFence
      | some found =>
          rw [List.getLast?_cons, hRest] at hLast
          rcases Option.some.inj hLast with rfl
          rw [← hPolicies]
          have hNext :
              HasFence sensor floor
                (ingestStep text site call).geofences := by
            rw [hStep]
            exact hasFence_syncGeofence _ _ _ _ hFence
          exact ih (hRun.tail text) hNext hRest

/- Without either there is no geofence after the run. -/
theorem fenceShows_none
    (text : FloatText)
    (hRun : ArrivalRun device sensor floor site calls)
    (hNo : ¬ HasFence sensor floor site.geofences) :
    FenceShows sensor floor .safe
      (run (ingestStep text) site calls).geofences := by
  induction calls generalizing site with
  | nil => exact fenceShows_safe_of_not_hasFence hNo
  | cons call calls ih =>
      apply ih (hRun.tail text)
      rw [ingestStep_of_arrival text hRun.arrival]
      exact
        not_hasFence_syncGeofence
          (hRun.fresh call List.mem_cons_self)
          hRun.registered hRun.onFloor hNo

/-
  Every call of a run of fresh arrivals is processed; and
  the geofence afterwards shows the reading with the
  greatest time exactly if the reading that arrived last
  is of the same level or, where the sensor has no geofence
  and a name too long for one, if that level is normal.
-/
theorem fence_shows_greatest_iff
    (text : FloatText)
    (hRun : ArrivalRun device sensor floor site calls) :
    (processed text site calls).map GasReading.measuredAt =
        calls.map GasIngest.measuredAt ∧
      ∀ greatest ∈ processed text site calls,
        (∀ reading ∈ processed text site calls,
          reading.measuredAt ≤ greatest.measuredAt) →
        ∀ last ∈ (processed text site calls).getLast?,
          (FenceShows sensor floor
              (severityOf
                (calcDangerLevel site.policies greatest))
              (run (ingestStep text) site
                calls).geofences ↔
            (HasFence sensor floor site.geofences →
              calcDangerLevel site.policies last =
                calcDangerLevel site.policies greatest) ∧
            (¬ HasFence sensor floor site.geofences →
              calcDangerLevel site.policies greatest =
                .normal)) := by
  refine ⟨processed_measuredAt text hRun, ?_⟩
  intro greatest _ _ last hLast
  have hOne := hRun.oneFence_run text
  by_cases hFence : HasFence sensor floor site.geofences
  · have hShows := fenceShows_last text hRun hFence hLast
    constructor
    · intro hGreatest
      refine ⟨fun _ => ?_, fun hNo => absurd hFence hNo⟩
      exact
        severityOf_injective
          (hShows.unique hOne hGreatest)
    · rintro ⟨hLevel, _⟩
      rw [← hLevel hFence]
      exact hShows
  · have hShows := fenceShows_none text hRun hFence
    constructor
    · intro hGreatest
      refine ⟨fun hHas => absurd hHas hFence, fun _ => ?_⟩
      exact
        normal_of_severityOf (hGreatest.unique hOne hShows)
    · rintro ⟨_, hNormal⟩
      rw [hNormal hFence]
      exact hShows

/- The site of one device with its sensor on the map. -/
def fenceSite : Site :=
  { gasSite with sensors := [mapSensor 1 "A"] }

/- Readings of the device are a run from the empty map. -/
theorem arrivalRun_fenceSite
    {calls : List GasIngest}
    (hOnDevice :
      ∀ call ∈ calls, call.payload.deviceUid = "GAS-001")
    (hReadable :
      ∀ call ∈ calls, call.payload.measuredAt ≠ .impossible)
    (hFresh :
      ∀ call ∈ calls,
        call.now - staleThreshold ≤ call.measuredAt)
    (hDistinct : (calls.map GasIngest.measuredAt).Nodup) :
    ArrivalRun gasDevice (mapSensor 1 "A") 1
      fenceSite calls where
  found := by decide +kernel
  active := rfl
  inService := rfl
  registered := by decide +kernel
  onFloor := rfl
  oneFence := by
    intro left _ _ _ hLeft
    cases hLeft
  onDevice := hOnDevice
  readable := hReadable
  fresh := hFresh
  distinct := hDistinct
  unstored := by
    intro row hRow
    cases hRow

/- Danger, and then a caution that was measured later. -/
def orderedCalls : List GasIngest :=
  [airCall 1 250 [], airCall 2 50 []]

/- Readings in order leave the zone of the newest one. -/
theorem fence_shows_greatest_in_order :
    FenceShows (mapSensor 1 "A") 1 .warning
      (run (ingestStep wholeText) fenceSite
        orderedCalls).geofences := by
  have hLevels :
      ∃ greatest ∈
          processed wholeText fenceSite orderedCalls,
        (∀ reading ∈
            processed wholeText fenceSite orderedCalls,
          reading.measuredAt ≤ greatest.measuredAt) ∧
        ∃ last ∈
            (processed wholeText fenceSite
              orderedCalls).getLast?,
          calcDangerLevel fenceSite.policies greatest =
              .caution ∧
            calcDangerLevel fenceSite.policies last =
              .caution := by
    decide +kernel
  rcases hLevels with
    ⟨greatest, hMem, hGreatest, last, hLast,
      hCaution, hSame⟩
  have hRun :
      ArrivalRun gasDevice (mapSensor 1 "A") 1
        fenceSite orderedCalls :=
    arrivalRun_fenceSite
      (by decide +kernel) (by decide +kernel)
      (by decide +kernel) (by decide +kernel)
  have hIff :=
    (fence_shows_greatest_iff wholeText hRun).2
      greatest hMem hGreatest last hLast
  have hFits : ZoneNameFits (mapSensor 1 "A") := by
    decide +kernel
  rw [hCaution] at hIff
  exact
    hIff.mpr
      ⟨fun _ => hSame, fun hNo => absurd (Or.inl hFits) hNo⟩

/- Danger, and then a normal reading from before it. -/
def lateCalls : List GasIngest :=
  [airCall 2 250 [], { airCall 1 0 [] with now := 3 }]

/- A sensor whose name fills 96 of 100 characters. -/
def longNameSensor : SensorLocation :=
  mapSensor 1 (String.ofList (List.replicate 96 'A'))

/- The site with its sensor under that name. -/
def longNameSite : Site :=
  { gasSite with sensors := [longNameSensor] }

/-
  The late reading switches the danger zone off; and under
  a long name a single danger reading shows no zone.
-/
theorem late_reading_rewinds_fence :
    (ArrivalRun gasDevice (mapSensor 1 "A") 1
        fenceSite lateCalls ∧
      ∃ greatest ∈
          processed wholeText fenceSite lateCalls,
        (∀ reading ∈
            processed wholeText fenceSite lateCalls,
          reading.measuredAt ≤ greatest.measuredAt) ∧
        calcDangerLevel fenceSite.policies greatest =
            .danger ∧
          ¬ FenceShows (mapSensor 1 "A") 1
              (severityOf
                (calcDangerLevel
                  fenceSite.policies greatest))
              (run (ingestStep wholeText) fenceSite
                lateCalls).geofences) ∧
    ((processed wholeText longNameSite
          [airCall 1 250 []]).map
          (calcDangerLevel longNameSite.policies) =
        [.danger] ∧
      ¬ FenceShows longNameSensor 1 .danger
          (run (ingestStep wholeText) longNameSite
            [airCall 1 250 []]).geofences) := by
  have hDanger :
      ∃ greatest ∈
          processed wholeText fenceSite lateCalls,
        (∀ reading ∈
            processed wholeText fenceSite lateCalls,
          reading.measuredAt ≤ greatest.measuredAt) ∧
        calcDangerLevel fenceSite.policies greatest =
          .danger := by
    decide +kernel
  have hOff :
      ∀ geofence ∈
          (run (ingestStep wholeText) fenceSite
            lateCalls).geofences.rows,
        geofence.isActive = false := by
    decide +kernel
  have hNone :
      (run (ingestStep wholeText) longNameSite
        [airCall 1 250 []]).geofences.rows = [] := by
    decide +kernel
  refine ⟨⟨?_, ?_⟩, by decide +kernel, ?_⟩
  · exact
      arrivalRun_fenceSite
        (by decide +kernel) (by decide +kernel)
        (by decide +kernel) (by decide +kernel)
  · rcases hDanger with
      ⟨greatest, hMem, hGreatest, hLevel⟩
    refine ⟨greatest, hMem, hGreatest, hLevel, ?_⟩
    intro hShows
    rw [hLevel, fenceShows_unsafe_iff (by decide)]
      at hShows
    rcases hShows with ⟨id, geofence, hGet, _, hActive, _⟩
    rw [hOff geofence (List.mem_of_getElem? hGet)]
      at hActive
    cases hActive
  · intro hShows
    rw [fenceShows_unsafe_iff (by decide)] at hShows
    rcases hShows with ⟨id, geofence, hGet, _⟩
    have hRow := List.mem_of_getElem? hGet
    rw [hNone] at hRow
    cases hRow

end Ingest

end Icmp2
