import Icmp2.Facilities.Geofence

/-
  Workers, their positions and their safety status.

  Main definitions include:
    * `Icmp2.Facilities.isInsideCircle`
    * `Icmp2.Facilities.isInsidePolygon`
    * `Icmp2.Facilities.checkWorkerInGeofence`
    * `Icmp2.Facilities.WorkOp`
    * `Icmp2.Facilities.workStep`

  Main theorems include:
    * `Icmp2.Facilities.checkWorkerInGeofence_of_danger`
    * `Icmp2.Facilities.hasDuty_workStep`
    * `Icmp2.Facilities.worker_in_danger_seen`
-/

------------------------------------------------------------
-- Positions
------------------------------------------------------------

namespace Icmp2

namespace Facilities

open Monitoring Library

/- `is_inside_circle`. -/
def isInsideCircle
    (x y : ℚ)
    (geofence : Geofence) :
    Bool :=
  match geofence.centerX, geofence.centerY,
      geofence.radius with
  | some centerX, some centerY, some radius =>
      let dx := x - centerX
      let dy := y - centerY
      dx * dx + dy * dy ≤ radius * radius
  | _, _, _ => false

/- The edge between two vertices crosses the ray from x. -/
def crossesRay
    (x y : ℚ)
    (vertex previous : ℚ × ℚ) :
    Bool :=
  (decide (vertex.2 > y) != decide (previous.2 > y)) &&
    x < (previous.1 - vertex.1) * (y - vertex.2) /
      (previous.2 - vertex.2) + vertex.1

/- The loop over the vertices, with the one before. -/
def castRay
    (x y : ℚ) :
    ℚ × ℚ → List (ℚ × ℚ) → Bool → Bool
  | _, [], inside => inside
  | previous, vertex :: rest, inside =>
      castRay x y vertex rest
        (if crossesRay x y vertex previous then
          !inside
        else
          inside)

/- `is_inside_polygon`. -/
def isInsidePolygon
    (x y : ℚ)
    (geofence : Geofence) :
    Bool :=
  match geofence.polygonData with
  | none => false
  | some polygon =>
      if polygon.length < 3 then
        false
      else
        castRay x y (polygon.getLastD (0, 0)) polygon false

/- The test that fits the type of the geofence. -/
def isInside
    (x y : ℚ)
    (geofence : Geofence) :
    Bool :=
  match geofence.geofenceType with
  | .circle => isInsideCircle x y geofence
  | .polygon => isInsidePolygon x y geofence

end Facilities

end Icmp2

------------------------------------------------------------
-- Workers
------------------------------------------------------------

namespace Icmp2

namespace Facilities

open Monitoring Library

inductive DutyState where
  | onDuty
  | offDuty
  deriving DecidableEq, Repr

structure Worker where
  id : Nat
  currentState : DutyState
  safetyStatus : ZoneSeverity
  deriving DecidableEq, Repr

structure WorkerLocation where
  worker : Nat
  floor : Option Nat
  x : ℚ
  y : ℚ
  measuredAt : Instant
  deriving DecidableEq, Repr

/- Active zones of a floor that are not safe. -/
def activeZones
    (floor : Nat)
    (severity : ZoneSeverity)
    (geofences : Table Geofence) :
    List Geofence :=
  geofences.rows.filter fun geofence =>
    geofence.floor = floor ∧ geofence.isActive = true ∧
      geofence.severity = severity

/- The loop over the zones. -/
def scanZones
    (x y : ℚ) :
    List Geofence → Bool → ZoneSeverity
  | [], foundWarning =>
      if foundWarning then .warning else .safe
  | geofence :: rest, foundWarning =>
      if isInside x y geofence then
        match geofence.severity with
        | .danger => .danger
        | .warning => scanZones x y rest true
        | .safe => scanZones x y rest foundWarning
      else
        scanZones x y rest foundWarning

/-
  `check_worker_in_geofence`.  Sorting by descending
  severity text puts the warning zones first.
-/
def checkWorkerInGeofence
    (geofences : Table Geofence)
    (worker : Worker)
    (location : WorkerLocation) :
    ZoneSeverity :=
  if worker.currentState = .offDuty then
    .safe
  else
    match location.floor with
    | none => .safe
    | some floor =>
        scanZones location.x location.y
          (activeZones floor .warning geofences ++
            activeZones floor .danger geofences)
          false

/- `sync_worker_status`. -/
def syncWorkerStatus
    (geofences : Table Geofence)
    (location : WorkerLocation)
    (worker : Worker) :
    Worker :=
  { worker with
    safetyStatus :=
      checkWorkerInGeofence geofences worker location }

/- Some zone of the list that is danger is entered. -/
theorem scanZones_eq_danger
    {x y : ℚ}
    {zones : List Geofence}
    (foundWarning : Bool)
    (hDanger :
      ∃ zone ∈ zones,
        isInside x y zone = true ∧
          zone.severity = .danger) :
    scanZones x y zones foundWarning = .danger := by
  induction zones generalizing foundWarning with
  | nil =>
      rcases hDanger with ⟨zone, hMem, _⟩
      cases hMem
  | cons head rest ih =>
      rcases hDanger with ⟨zone, hMem, hInside, hSeverity⟩
      rcases List.mem_cons.mp hMem with hHead | hTail
      · subst hHead
        simp [scanZones, hInside, hSeverity]
      · have hRest := fun flag =>
          ih flag ⟨zone, hTail, hInside, hSeverity⟩
        unfold scanZones
        split
        · split
          · rfl
          · exact hRest true
          · exact hRest foundWarning
        · exact hRest foundWarning

/- The position is inside an active danger zone. -/
def InDangerZone
    (geofences : Table Geofence)
    (floor : Nat)
    (x y : ℚ) :
    Prop :=
  ∃ geofence ∈ geofences.rows,
    geofence.floor = floor ∧
      geofence.isActive = true ∧
      geofence.severity = .danger ∧
      isInside x y geofence = true

instance
    (geofences : Table Geofence)
    (floor : Nat)
    (x y : ℚ) :
    Decidable (InDangerZone geofences floor x y) := by
  unfold InDangerZone
  infer_instance

/- A worker on duty in a danger zone is graded danger. -/
theorem checkWorkerInGeofence_of_danger
    {geofences : Table Geofence}
    {worker : Worker}
    {location : WorkerLocation}
    {floor : Nat}
    (hDuty : worker.currentState = .onDuty)
    (hFloor : location.floor = some floor)
    (hZone :
      InDangerZone geofences floor location.x location.y) :
    checkWorkerInGeofence geofences worker location =
      .danger := by
  rcases hZone with
    ⟨zone, hMem, hOn, hActive, hSeverity, hInside⟩
  unfold checkWorkerInGeofence
  rw [hDuty, hFloor]
  apply scanZones_eq_danger
  refine ⟨zone, ?_, hInside, hSeverity⟩
  apply List.mem_append_right
  apply List.mem_filter.mpr
  exact ⟨hMem, by simp [hOn, hActive, hSeverity]⟩

end Facilities

end Icmp2

------------------------------------------------------------
-- Posts, Sweeps and Polls
------------------------------------------------------------

namespace Icmp2

namespace Facilities

open Monitoring Library

/- What the worker services read and write. -/
structure WorkSite where
  workers : List Worker
  locations : Table WorkerLocation
  geofences : Table Geofence
  sensors : List SensorLocation
  readings : Table GasReading
  policies : List ThresholdPolicy

/-
  The posts and polls of `WorkerLocationViewSet.dummy` and
  the stale sweep.  `served` are the workers that a poll
  reaches before the grid service raises, if it does.
  `map` is whatever else happens to geofences, sensors,
  readings and policies in between.
-/
inductive WorkOp where
  | post (now : Instant) (worker : Nat)
      (floor : Option Nat) (x y : ℚ)
  | sweep (now : Instant)
  | poll (now : Instant) (floor : Option Nat)
      (served : List Nat)
  | map (geofences : Table Geofence)
      (sensors : List SensorLocation)
      (readings : Table GasReading)
      (policies : List ThresholdPolicy)

/- The worker with the given key. -/
def findWorker
    (workers : List Worker)
    (id : Nat) :
    Option Worker :=
  workers.find? fun worker => worker.id = id

/- The latest position of a worker. -/
def latestLocation
    (locations : Table WorkerLocation)
    (worker : Nat) :
    Option WorkerLocation :=
  (locations.newest?
    (fun location => location.worker = worker)
    WorkerLocation.measuredAt).map Prod.snd

/- No position of the worker, or only stale ones. -/
def StaleWorker
    (now : Instant)
    (locations : Table WorkerLocation)
    (worker : Nat) :
    Prop :=
  match latestLocation locations worker with
  | none => True
  | some location =>
      location.measuredAt < now - staleThreshold

instance
    (now : Instant)
    (locations : Table WorkerLocation)
    (worker : Nat) :
    Decidable (StaleWorker now locations worker) := by
  unfold StaleWorker
  split
  · infer_instance
  · infer_instance

/- What the sweep does to one worker. -/
def sweepWorker
    (now : Instant)
    (locations : Table WorkerLocation)
    (worker : Worker) :
    Worker :=
  if worker.currentState ≠ .offDuty ∧
      StaleWorker now locations worker.id then
    { worker with
      currentState := .offDuty
      safetyStatus := .safe }
  else
    worker

/- What a post does to one worker. -/
def postWorker
    (geofences : Table Geofence)
    (location : WorkerLocation)
    (worker : Worker) :
    Worker :=
  if worker.id = location.worker then
    syncWorkerStatus geofences location worker
  else
    worker

/- What a poll does to one worker. -/
def pollWorker
    (geofences : Table Geofence)
    (locations : Table WorkerLocation)
    (served : List Nat)
    (worker : Worker) :
    Worker :=
  if worker.currentState ≠ .offDuty ∧
      worker.id ∈ served then
    match latestLocation locations worker.id with
    | none => worker
    | some location =>
        if location.floor = none then
          worker
        else
          syncWorkerStatus geofences location worker
  else
    worker

/- Refresh the zones of one floor from latest readings. -/
def pollGeofences
    (now : Instant)
    (site : WorkSite)
    (floor : Nat) :
    Table Geofence :=
  (site.sensors.filter fun sensor =>
      sensor.floor = some floor ∧
        sensor.sensorType = "gas" ∧
        sensor.isActive = true).foldl
    (fun geofences sensor =>
      match site.readings.newest?
          (fun reading =>
            reading.device = sensor.deviceId)
          GasReading.measuredAt with
      | none => geofences
      | some best =>
          syncGeofence now site.policies site.sensors
            best.2 geofences)
    site.geofences

/- One operation. -/
def workStep
    (site : WorkSite) :
    WorkOp → WorkSite
  | .post now id floor x y =>
      match findWorker site.workers id with
      | none => site
      | some _ =>
          let location : WorkerLocation :=
            ⟨id, floor, x, y, now⟩
          { site with
            locations := site.locations.insert location
            workers :=
              if floor = none then
                site.workers
              else
                site.workers.map
                  (postWorker site.geofences location) }
  | .sweep now =>
      { site with
        workers :=
          site.workers.map
            (sweepWorker now site.locations) }
  | .poll now floor served =>
      let geofences :=
        match floor with
        | none => site.geofences
        | some floor => pollGeofences now site floor
      { site with
        geofences := geofences
        workers :=
          site.workers.map
            (pollWorker geofences site.locations served) }
  | .map geofences sensors readings policies =>
      { site with
        geofences := geofences
        sensors := sensors
        readings := readings
        policies := policies }

end Facilities

end Icmp2

------------------------------------------------------------
-- Duty
------------------------------------------------------------

namespace Icmp2

namespace Facilities

open Monitoring Library

/- A worker with the key exists and has the duty state. -/
def HasDuty
    (id : Nat)
    (duty : DutyState)
    (site : WorkSite) :
    Prop :=
  ∃ worker,
    findWorker site.workers id = some worker ∧
      worker.currentState = duty

/- The safety status of a worker. -/
def statusOf
    (site : WorkSite)
    (id : Nat) :
    Option ZoneSeverity :=
  (findWorker site.workers id).map Worker.safetyStatus

theorem findWorker_id
    {workers : List Worker}
    {id : Nat}
    {worker : Worker}
    (hFound : findWorker workers id = some worker) :
    worker.id = id := by
  have hId := List.find?_some hFound
  simpa using hId

/- Updates keep keys, so they commute with the lookup. -/
theorem findWorker_map
    {f : Worker → Worker}
    (hId : ∀ worker, (f worker).id = worker.id)
    (workers : List Worker)
    (id : Nat) :
    findWorker (workers.map f) id =
      (findWorker workers id).map f := by
  unfold findWorker
  rw [List.find?_map]
  congr 2
  funext worker
  simp [hId]

theorem sweepWorker_id
    (now : Instant)
    (locations : Table WorkerLocation)
    (worker : Worker) :
    (sweepWorker now locations worker).id = worker.id := by
  unfold sweepWorker
  split
  · rfl
  · rfl

theorem postWorker_id
    (geofences : Table Geofence)
    (location : WorkerLocation)
    (worker : Worker) :
    (postWorker geofences location worker).id =
      worker.id := by
  unfold postWorker
  split
  · rfl
  · rfl

theorem postWorker_currentState
    (geofences : Table Geofence)
    (location : WorkerLocation)
    (worker : Worker) :
    (postWorker geofences location worker).currentState =
      worker.currentState := by
  unfold postWorker
  split
  · rfl
  · rfl

theorem pollWorker_id
    (geofences : Table Geofence)
    (locations : Table WorkerLocation)
    (served : List Nat)
    (worker : Worker) :
    (pollWorker geofences locations served worker).id =
      worker.id := by
  unfold pollWorker
  split
  · split
    · rfl
    · split
      · rfl
      · rfl
  · rfl

theorem pollWorker_currentState
    (geofences : Table Geofence)
    (locations : Table WorkerLocation)
    (served : List Nat)
    (worker : Worker) :
    (pollWorker geofences locations served
        worker).currentState =
      worker.currentState := by
  unfold pollWorker
  split
  · split
    · rfl
    · split
      · rfl
      · rfl
  · rfl

/- The sweep finds a fresh position of the worker. -/
def FreshAtSweep
    (id : Nat)
    (site : WorkSite) :
    WorkOp → Prop
  | .sweep now => ¬ StaleWorker now site.locations id
  | _ => True

instance
    (id : Nat)
    (site : WorkSite)
    (op : WorkOp) :
    Decidable (FreshAtSweep id site op) := by
  cases op with
  | post now worker floor x y => exact isTrue trivial
  | sweep now =>
      unfold FreshAtSweep
      infer_instance
  | poll now floor served => exact isTrue trivial
  | map geofences sensors readings policies =>
      exact isTrue trivial

/- An update of all workers that keeps keys and the state. -/
theorem hasDuty_map
    {id : Nat}
    {duty : DutyState}
    {site later : WorkSite}
    {f : Worker → Worker}
    (hId : ∀ worker, (f worker).id = worker.id)
    (hLater : later.workers = site.workers.map f)
    (hState :
      ∀ worker, findWorker site.workers id = some worker →
        (f worker).currentState = duty)
    (hExists : (findWorker site.workers id).isSome) :
    HasDuty id duty later := by
  rcases Option.isSome_iff_exists.mp hExists with
    ⟨worker, hFound⟩
  refine ⟨f worker, ?_, hState worker hFound⟩
  rw [hLater, findWorker_map hId, hFound]
  rfl

/-
  Nothing but a sweep that finds the worker stale changes
  the duty state, and such a sweep only ends duty.
-/
theorem hasDuty_workStep
    {id : Nat}
    {duty : DutyState}
    {site : WorkSite}
    {op : WorkOp}
    (hDuty : HasDuty id duty site)
    (hOp : duty = .offDuty ∨ FreshAtSweep id site op) :
    HasDuty id duty (workStep site op) := by
  rcases hDuty with ⟨worker, hFound, hState⟩
  have hExists : (findWorker site.workers id).isSome := by
    rw [hFound]
    rfl
  have hSame :
      ∀ other, findWorker site.workers id = some other →
        other.currentState = duty := by
    intro other hOther
    rw [hFound] at hOther
    exact Option.some.inj hOther ▸ hState
  cases op with
  | post now poster floor x y =>
      simp only [workStep]
      cases hPoster : findWorker site.workers poster with
      | none => exact ⟨worker, hFound, hState⟩
      | some _ =>
          cases floor with
          | none => exact ⟨worker, hFound, hState⟩
          | some floor =>
              refine
                hasDuty_map (postWorker_id _ _) rfl ?_
                  hExists
              intro other hOther
              rw [postWorker_currentState]
              exact hSame other hOther
  | sweep now =>
      refine
        hasDuty_map (sweepWorker_id _ _) rfl ?_ hExists
      intro other hOther
      unfold sweepWorker
      rw [findWorker_id hOther, hSame other hOther]
      split
      · rename_i hSwept
        rcases hOp with hOff | hFresh
        · exact absurd hOff hSwept.1
        · exact absurd hSwept.2 hFresh
      · exact hSame other hOther
  | poll now floor served =>
      refine
        hasDuty_map (pollWorker_id _ _ _) rfl ?_ hExists
      intro other hOther
      rw [pollWorker_currentState]
      exact hSame other hOther
  | map geofences sensors readings policies =>
      exact ⟨worker, hFound, hState⟩

/- A sweep that finds the worker stale ends duty. -/
theorem hasDuty_sweep_of_stale
    {id : Nat}
    {site : WorkSite}
    {now : Instant}
    (hDuty : HasDuty id .onDuty site)
    (hStale : StaleWorker now site.locations id) :
    HasDuty id .offDuty (workStep site (.sweep now)) := by
  rcases hDuty with ⟨worker, hFound, hState⟩
  refine
    hasDuty_map (sweepWorker_id _ _) rfl ?_
      (by rw [hFound]; rfl)
  intro other hOther
  rw [hFound] at hOther
  rcases Option.some.inj hOther with rfl
  unfold sweepWorker
  rw [findWorker_id hFound, hState, if_pos]
  exact ⟨by simp, hStale⟩

/- A post of the worker in an active danger zone. -/
def DangerSeen
    (id : Nat)
    (site : WorkSite) :
    WorkOp → Prop
  | .post now poster (some floor) x y =>
      poster = id →
      InDangerZone site.geofences floor x y →
      statusOf
          (workStep site
            (.post now poster (some floor) x y)) id =
        some .danger
  | _ => True

/- A post of the worker leaves the status safe. -/
def PostedSafe
    (id : Nat)
    (site : WorkSite) :
    WorkOp → Prop
  | .post now poster (some floor) x y =>
      poster = id →
      statusOf
          (workStep site
            (.post now poster (some floor) x y)) id =
        some .safe
  | _ => True

/- The status that a post with a floor leaves. -/
theorem statusOf_post
    {id : Nat}
    {site : WorkSite}
    {worker : Worker}
    (hFound : findWorker site.workers id = some worker)
    (now : Instant)
    (floor : Nat)
    (x y : ℚ) :
    statusOf
        (workStep site (.post now id (some floor) x y)) id =
      some
        (checkWorkerInGeofence site.geofences worker
          ⟨id, some floor, x, y, now⟩) := by
  simp only [workStep, hFound, reduceCtorEq, if_false,
    statusOf]
  rw [findWorker_map (postWorker_id _ _), hFound]
  simp [postWorker, findWorker_id hFound,
    syncWorkerStatus]

theorem dangerSeen_of_onDuty
    {id : Nat}
    {site : WorkSite}
    (op : WorkOp)
    (hDuty : HasDuty id .onDuty site) :
    DangerSeen id site op := by
  rcases hDuty with ⟨worker, hFound, hState⟩
  cases op with
  | post now poster floor x y =>
      cases floor with
      | none => trivial
      | some floor =>
          intro hPoster hZone
          subst hPoster
          have hDanger :
              checkWorkerInGeofence site.geofences worker
                  ⟨poster, some floor, x, y, now⟩ =
                .danger :=
            checkWorkerInGeofence_of_danger
              hState rfl hZone
          rw [statusOf_post hFound, hDanger]
  | sweep now => trivial
  | poll now floor served => trivial
  | map geofences sensors readings policies => trivial

theorem postedSafe_of_offDuty
    {id : Nat}
    {site : WorkSite}
    (op : WorkOp)
    (hDuty : HasDuty id .offDuty site) :
    PostedSafe id site op := by
  rcases hDuty with ⟨worker, hFound, hState⟩
  cases op with
  | post now poster floor x y =>
      cases floor with
      | none => trivial
      | some floor =>
          intro hPoster
          subst hPoster
          rw [statusOf_post hFound]
          simp [checkWorkerInGeofence, hState]
  | sweep now => trivial
  | poll now floor served => trivial
  | map geofences sensors readings policies => trivial

/-
  A worker on duty is seen in every danger zone it posts
  from, as long as every sweep finds a fresh position of
  it; after a sweep that does not, its posts leave it safe.
-/
theorem worker_in_danger_seen
    (id : Nat)
    (site : WorkSite)
    (ops : List WorkOp)
    (hDuty : HasDuty id .onDuty site) :
    (Along workStep (FreshAtSweep id) site ops →
      Along workStep (DangerSeen id) site ops) ∧
    ∀ now,
      Along workStep (FreshAtSweep id) site ops →
      StaleWorker now
        (run workStep site ops).locations id →
      ∀ later,
        Along workStep (PostedSafe id)
          (run workStep site (ops ++ [.sweep now]))
          later := by
  constructor
  · intro hFresh
    exact
      Along.of_invariant
        (I := HasDuty id .onDuty)
        (fun later op hOn _ =>
          dangerSeen_of_onDuty op hOn)
        (fun later op hOn hOp =>
          hasDuty_workStep hOn (Or.inr hOp))
        hDuty hFresh
  · intro now hFresh hStale later
    have hOn : HasDuty id .onDuty (run workStep site ops) :=
      run_invariant_along
        (fun state op hOn hOp =>
          hasDuty_workStep hOn (Or.inr hOp))
        hDuty hFresh
    rw [run_append]
    exact
      Along.of_step
        (I := HasDuty id .offDuty)
        (fun state op hOff => postedSafe_of_offDuty op hOff)
        (fun state op hOff =>
          hasDuty_workStep hOff (Or.inl rfl))
        (hasDuty_sweep_of_stale hOn hStale) later

instance
    (id : Nat)
    (site : WorkSite)
    (op : WorkOp) :
    Decidable (DangerSeen id site op) := by
  unfold DangerSeen
  split
  · infer_instance
  · infer_instance

/- A danger zone of radius five around the origin. -/
def furnaceZone : Geofence where
  floor := 1
  name := "furnace"
  geofenceType := .circle
  severity := .danger
  origin := .manual ""
  isActive := true
  centerX := some 0
  centerY := some 0
  radius := some 5
  polygonData := none

/- One worker on duty on the floor of the furnace. -/
def furnaceSite : WorkSite where
  workers := [⟨7, .onDuty, .safe⟩]
  locations := Table.empty
  geofences := Table.empty.insert furnaceZone
  sensors := []
  readings := Table.empty
  policies := []

/- Posts half a minute apart, with a sweep between. -/
def steadyOps : List WorkOp :=
  [.post 0 7 (some 1) 9 9,
    .sweep 30000000,
    .post 30000000 7 (some 1) 1 1]

/- A steady worker is seen in the zone of the furnace. -/
theorem worker_in_danger_seen_furnace :
    Along workStep (DangerSeen 7) furnaceSite steadyOps ∧
      Along workStep (PostedSafe 7)
        (run workStep furnaceSite
          (steadyOps ++ [.sweep 180000000]))
        [.post 180000000 7 (some 1) 1 1] := by
  have hSeen :=
    worker_in_danger_seen 7 furnaceSite steadyOps
      ⟨⟨7, .onDuty, .safe⟩, rfl, rfl⟩
  have hFresh :
      Along workStep (FreshAtSweep 7)
        furnaceSite steadyOps := by
    decide +kernel
  exact
    ⟨hSeen.1 hFresh,
      hSeen.2 180000000 hFresh (by decide +kernel)
        [.post 180000000 7 (some 1) 1 1]⟩

/- After a gap and a sweep the same worker is not seen. -/
theorem returning_worker_not_seen :
    HasDuty 7 .onDuty furnaceSite ∧
      ¬ Along workStep (DangerSeen 7) furnaceSite
        [.post 0 7 (some 1) 9 9,
          .sweep 150000000,
          .post 160000000 7 (some 1) 1 1] ∧
      statusOf
          (run workStep furnaceSite
            [.post 0 7 (some 1) 9 9,
              .sweep 150000000,
              .post 160000000 7 (some 1) 1 1]) 7 =
        some .safe := by
  refine ⟨⟨⟨7, .onDuty, .safe⟩, rfl, rfl⟩, ?_, ?_⟩
  · decide +kernel
  · decide +kernel

end Facilities

end Icmp2
