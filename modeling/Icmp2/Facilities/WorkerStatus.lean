import Icmp2.Library.Peak
import Icmp2.Facilities.Workers
import Mathlib.Tactic.Linarith

/-
  The status of a worker is the highest severity around.

  Main definitions include:
    * `Icmp2.Facilities.Geofence.Entered`
    * `Icmp2.Facilities.enteredSeverities`
    * `Icmp2.Facilities.Geofence.withRadius`

  Main theorems include:
    * `Icmp2.Facilities.scanZones_eq_peak`
    * `Icmp2.Facilities.checkWorkerInGeofence_eq_peak`
    * `Icmp2.Facilities.isInside_withRadius`
    * `Icmp2.Facilities.worker_status_is_highest`

  The loop returns at the first danger zone and remembers
  a warning zone; either way it ends at the highest
  severity that it meets.
-/

------------------------------------------------------------
-- The Order of the Severities
------------------------------------------------------------

namespace Icmp2

namespace Facilities

open Monitoring Library

namespace ZoneSeverity

/- danger > warning > safe. -/
def priority : ZoneSeverity → Nat
  | danger => 2
  | warning => 1
  | safe => 0

theorem priority_injective :
    Function.Injective priority := by
  intro left right hPriority
  cases left <;> cases right <;> first | rfl | cases hPriority

instance : LinearOrder ZoneSeverity :=
  LinearOrder.lift' priority priority_injective

instance : OrderBot ZoneSeverity where
  bot := .safe
  bot_le severity := Nat.zero_le severity.priority

@[simp] theorem bot_eq_safe :
    (⊥ : ZoneSeverity) = .safe := by
  rfl

theorem le_danger
    (severity : ZoneSeverity) :
    severity ≤ .danger := by
  cases severity <;> decide

end ZoneSeverity

end Facilities

end Icmp2

------------------------------------------------------------
-- The Loop
------------------------------------------------------------

namespace Icmp2

namespace Facilities

open Monitoring Library

/- Active, on the floor, not safe, and around a position. -/
def Geofence.Entered
    (floor : Nat)
    (x y : ℚ)
    (geofence : Geofence) :
    Prop :=
  geofence.floor = floor ∧
    geofence.isActive = true ∧
    geofence.severity ≠ .safe ∧
    isInside x y geofence = true

instance
    (floor : Nat)
    (x y : ℚ) :
    DecidablePred (Geofence.Entered floor x y) := by
  intro geofence
  unfold Geofence.Entered
  infer_instance

/- The severities of the geofences around a position. -/
def enteredSeverities
    (geofences : List Geofence)
    (floor : Nat)
    (x y : ℚ) :
    List ZoneSeverity :=
  (geofences.filter fun geofence =>
    geofence.Entered floor x y).map Geofence.severity

/- The loop ends at the highest severity that it meets. -/
theorem scanZones_eq_peak
    (x y : ℚ)
    (zones : List Geofence)
    (foundWarning : Bool) :
    scanZones x y zones foundWarning =
      max (if foundWarning then .warning else .safe)
        (peak
          ((zones.filter fun zone => isInside x y zone).map
            Geofence.severity)) := by
  induction zones generalizing foundWarning with
  | nil => cases foundWarning <;> rfl
  | cons zone rest ih =>
      rw [scanZones]
      by_cases hInside : isInside x y zone = true
      · rw [if_pos hInside, List.filter_cons_of_pos hInside,
          List.map_cons, peak_cons]
        cases hSeverity : zone.severity with
        | danger =>
            simp only
            rw [max_eq_left (ZoneSeverity.le_danger _),
              max_eq_right (ZoneSeverity.le_danger _)]
        | warning =>
            simp only
            rw [ih true, ← max_assoc]
            cases foundWarning <;> rfl
        | safe =>
            simp only
            rw [ih foundWarning, ← ZoneSeverity.bot_eq_safe,
              bot_sup_eq]
      · rw [if_neg hInside, ih foundWarning,
          List.filter_cons_of_neg hInside]

end Facilities

end Icmp2

------------------------------------------------------------
-- The Status
------------------------------------------------------------

namespace Icmp2

namespace Facilities

open Monitoring Library

variable {geofences other : Table Geofence}
variable {worker : Worker}
variable {location : WorkerLocation}

theorem mem_activeZones_iff
    {floor : Nat}
    {severity : ZoneSeverity}
    {zone : Geofence} :
    zone ∈ activeZones floor severity geofences ↔
      zone ∈ geofences.rows ∧ zone.floor = floor ∧
        zone.isActive = true ∧ zone.severity = severity := by
  simp [activeZones]

/- The zones that the loop enters, by severity. -/
theorem mem_enteredSeverities_iff
    {floor : Nat}
    {x y : ℚ}
    {severity : ZoneSeverity} :
    severity ∈
        enteredSeverities geofences.rows floor x y ↔
      severity ≠ .safe ∧
        ∃ zone ∈ activeZones floor severity geofences,
          isInside x y zone = true := by
  unfold enteredSeverities
  simp only [List.mem_map, List.mem_filter,
    decide_eq_true_eq, mem_activeZones_iff]
  constructor
  · rintro ⟨zone,
      ⟨hMem, hFloor, hActive, hSafe, hInside⟩, rfl⟩
    exact
      ⟨hSafe, zone, ⟨hMem, hFloor, hActive, rfl⟩, hInside⟩
  · rintro ⟨hSafe, zone, ⟨hMem, hFloor, hActive, rfl⟩,
      hInside⟩
    exact
      ⟨zone, ⟨hMem, hFloor, hActive, hSafe, hInside⟩, rfl⟩

theorem checkWorkerInGeofence_eq_safe
    (hNowhere :
      worker.currentState = .offDuty ∨
        location.floor = none) :
    checkWorkerInGeofence geofences worker location =
      .safe := by
  unfold checkWorkerInGeofence
  rcases hNowhere with hDuty | hFloor
  · rw [if_pos hDuty]
  · rw [hFloor]
    exact ite_self _

/- On duty, the status is the highest severity around. -/
theorem checkWorkerInGeofence_eq_peak
    {floor : Nat}
    (hDuty : worker.currentState = .onDuty)
    (hFloor : location.floor = some floor) :
    checkWorkerInGeofence geofences worker location =
      peak
        (enteredSeverities geofences.rows floor
          location.x location.y) := by
  have hOn : ¬ worker.currentState = .offDuty := by
    rw [hDuty]
    decide
  simp only [checkWorkerInGeofence, if_neg hOn, hFloor]
  rw [scanZones_eq_peak, if_neg (by decide),
    ← ZoneSeverity.bot_eq_safe, bot_sup_eq]
  apply peak_congr
  intro severity hSafe
  rw [mem_enteredSeverities_iff]
  constructor
  · intro hMem
    rcases List.mem_map.mp hMem with ⟨zone, hZone, rfl⟩
    rcases List.mem_filter.mp hZone with ⟨hListed, hInside⟩
    refine ⟨hSafe, zone, ?_, hInside⟩
    rcases List.mem_append.mp hListed with hOne | hOne
    · have hSeverity := (mem_activeZones_iff.mp hOne).2.2.2
      rwa [hSeverity]
    · have hSeverity := (mem_activeZones_iff.mp hOne).2.2.2
      rwa [hSeverity]
  · rintro ⟨_, zone, hZone, hInside⟩
    have hSeverity := (mem_activeZones_iff.mp hZone).2.2.2
    apply List.mem_map.mpr
    refine ⟨zone, ?_, hSeverity⟩
    apply List.mem_filter.mpr
    refine ⟨?_, hInside⟩
    cases severity with
    | danger => exact List.mem_append_right _ hZone
    | warning => exact List.mem_append_left _ hZone
    | safe => exact absurd rfl hSafe

/- Every geofence has one over it that is as severe. -/
def Outranked
    (geofences other : List Geofence) :
    Prop :=
  ∀ zone ∈ geofences,
    ∃ cover ∈ other,
      zone.severity ≤ cover.severity ∧
        ∀ floor x y,
          zone.Entered floor x y →
            cover.Entered floor x y

/- Outranked geofences give no higher status. -/
theorem checkWorkerInGeofence_mono
    (hOutranked : Outranked geofences.rows other.rows)
    (worker : Worker)
    (location : WorkerLocation) :
    checkWorkerInGeofence geofences worker location ≤
      checkWorkerInGeofence other worker location := by
  by_cases hNowhere :
      worker.currentState = .offDuty ∨
        location.floor = none
  · rw [checkWorkerInGeofence_eq_safe hNowhere]
    exact bot_le
  · rcases not_or.mp hNowhere with ⟨hOff, hOn⟩
    rcases Option.ne_none_iff_exists'.mp hOn with
      ⟨floor, hFloor⟩
    have hDuty : worker.currentState = .onDuty := by
      cases hState : worker.currentState with
      | onDuty => rfl
      | offDuty => exact absurd hState hOff
    rw [checkWorkerInGeofence_eq_peak hDuty hFloor,
      checkWorkerInGeofence_eq_peak hDuty hFloor]
    apply peak_mono
    intro severity hMem
    rcases List.mem_map.mp hMem with ⟨zone, hZone, rfl⟩
    rcases List.mem_filter.mp hZone with ⟨hRow, hEntered⟩
    rcases hOutranked zone hRow with
      ⟨cover, hCover, hSeverity, hOver⟩
    refine ⟨cover.severity, ?_, hSeverity⟩
    apply List.mem_map_of_mem
    apply List.mem_filter.mpr
    refine ⟨hCover, ?_⟩
    exact
      decide_eq_true
        (hOver floor location.x location.y
          (of_decide_eq_true hEntered))

/- Geofences that stay cover themselves. -/
theorem outranked_of_subset
    {zones more : List Geofence}
    (hSubset : ∀ zone ∈ zones, zone ∈ more) :
    Outranked zones more := by
  intro zone hMem
  exact
    ⟨zone, hSubset zone hMem, le_refl _,
      fun _ _ _ hEntered => hEntered⟩

/- The geofence with another radius. -/
def Geofence.withRadius
    (geofence : Geofence)
    (radius : ℚ) :
    Geofence :=
  { geofence with radius := some radius }

/- What is inside stays inside of a greater circle. -/
theorem isInside_withRadius
    {geofence : Geofence}
    {small large : ℚ}
    (hRadius : geofence.radius = some small)
    (hNonneg : 0 ≤ small)
    (hLe : small ≤ large)
    {x y : ℚ}
    (hInside : isInside x y geofence = true) :
    isInside x y (geofence.withRadius large) = true := by
  cases hType : geofence.geofenceType with
  | polygon =>
      simp only [isInside, Geofence.withRadius, hType]
        at hInside ⊢
      exact hInside
  | circle =>
      simp only [isInside, Geofence.withRadius, hType,
        isInsideCircle, hRadius] at hInside ⊢
      cases hX : geofence.centerX with
      | none =>
          rw [hX] at hInside
          cases hInside
      | some centerX =>
          cases hY : geofence.centerY with
          | none =>
              rw [hX, hY] at hInside
              cases hInside
          | some centerY =>
              simp only [hX, hY, decide_eq_true_eq]
                at hInside ⊢
              exact
                hInside.trans
                  (mul_self_le_mul_self hNonneg hLe)

/- A circle that grows covers itself. -/
theorem outranked_withRadius
    {before after : List Geofence}
    {zone : Geofence}
    {small large : ℚ}
    (hRadius : zone.radius = some small)
    (hNonneg : 0 ≤ small)
    (hLe : small ≤ large) :
    Outranked (before ++ zone :: after)
      (before ++ zone.withRadius large :: after) := by
  intro other hMem
  by_cases hOther : other = zone
  · subst hOther
    refine
      ⟨other.withRadius large, by simp, le_refl _, ?_⟩
    rintro floor x y ⟨hFloor, hActive, hSafe, hInside⟩
    exact
      ⟨hFloor, hActive, hSafe,
        isInside_withRadius hRadius hNonneg hLe hInside⟩
  · refine
      ⟨other, ?_, le_refl _, fun _ _ _ hEntered => hEntered⟩
    rcases List.mem_append.mp hMem with hFirst | hRest
    · exact List.mem_append_left _ hFirst
    · rcases List.mem_cons.mp hRest with hSame | hLast
      · exact absurd hSame hOther
      · exact
          List.mem_append_right _
            (List.mem_cons_of_mem _ hLast)

/-
  The status of a worker on duty on a floor is the highest
  severity of the geofences around, whatever their order;
  one more geofence or a greater circle never lowers it,
  and off duty or without a floor a worker is safe.
-/
theorem worker_status_is_highest
    (worker : Worker)
    (location : WorkerLocation) :
    let status := fun geofences =>
      checkWorkerInGeofence ⟨geofences⟩ worker location
    (∀ geofences floor,
      worker.currentState = .onDuty →
      location.floor = some floor →
        status geofences =
          peak
            (enteredSeverities geofences floor
              location.x location.y)) ∧
      (∀ geofences other,
        geofences.Perm other →
          status geofences = status other) ∧
      (∀ before after zone,
        status (before ++ after) ≤
          status (before ++ zone :: after)) ∧
      (∀ before after zone small large,
        zone.radius = some small →
        0 ≤ small →
        small ≤ large →
          status (before ++ zone :: after) ≤
            status
              (before ++ zone.withRadius large :: after)) ∧
      ∀ geofences,
        worker.currentState = .offDuty ∨
          location.floor = none →
        status geofences = .safe := by
  intro status
  refine ⟨?_, ?_, ?_, ?_, ?_⟩
  · intro geofences floor hDuty hFloor
    exact checkWorkerInGeofence_eq_peak hDuty hFloor
  · intro geofences other hPerm
    apply le_antisymm
    · apply checkWorkerInGeofence_mono
      exact outranked_of_subset fun _ => hPerm.mem_iff.mp
    · apply checkWorkerInGeofence_mono
      exact outranked_of_subset fun _ => hPerm.mem_iff.mpr
  · intro before after zone
    apply checkWorkerInGeofence_mono
    apply outranked_of_subset
    intro other hMem
    rcases List.mem_append.mp hMem with hFirst | hLast
    · exact List.mem_append_left _ hFirst
    · exact
        List.mem_append_right _
          (List.mem_cons_of_mem zone hLast)
  · intro before after zone small large hRadius hNonneg hLe
    apply checkWorkerInGeofence_mono
    exact outranked_withRadius hRadius hNonneg hLe
  · intro geofences hNowhere
    exact checkWorkerInGeofence_eq_safe hNowhere

/- The zone of the furnace grows over a worker. -/
theorem worker_status_is_highest_furnace :
    checkWorkerInGeofence ⟨[furnaceZone]⟩
        ⟨7, .onDuty, .safe⟩ ⟨7, some 1, 6, 0, 0⟩ ≤
      checkWorkerInGeofence ⟨[furnaceZone.withRadius 10]⟩
        ⟨7, .onDuty, .safe⟩ ⟨7, some 1, 6, 0, 0⟩ :=
  (worker_status_is_highest ⟨7, .onDuty, .safe⟩
    ⟨7, some 1, 6, 0, 0⟩).2.2.2.1
      [] [] furnaceZone 5 10 rfl (by decide +kernel)
      (by decide +kernel)

end Facilities

end Icmp2
