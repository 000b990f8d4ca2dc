import Icmp2.Monitoring.Reading

/-
  The daily deletion of data whose retention has ended.

  Main definitions include:
    * `Icmp2.Manager.DataRetentionPolicy`
    * `Icmp2.Manager.isScheduleToday`
    * `Icmp2.Manager.runDataRetention`
    * `Icmp2.Manager.Covers`

  Main theorems include:
    * `Icmp2.Manager.retentionRound_cases`
    * `Icmp2.Manager.deleted_retentionRound`
    * `Icmp2.Manager.deleted_retentionRounds`
    * `Icmp2.Manager.deleted_by_expired_policy`
    * `Icmp2.Manager.neverEarly_of_unique`
-/

------------------------------------------------------------
-- Policies
------------------------------------------------------------

namespace Icmp2

namespace Manager

open Monitoring

/- The columns of a policy that the deletion reads. -/
structure DataRetentionPolicy where
  deviceType : String
  dataCategory : String
  originDays : Nat
  historyDays : Nat
  deleteSchedule : String
  isActive : Bool
  deriving DecidableEq, Repr

/- `get_device_type_display`. -/
def deviceTypeDisplay
    (deviceType : String) :
    String :=
  if deviceType = "gas" then
    "유해가스 센서"
  else if deviceType = "power" then
    "스마트 전력 시스템"
  else if deviceType = "node" then
    "위치 노드"
  else
    deviceType

/- `get_data_category_display`. -/
def dataCategoryDisplay
    (dataCategory : String) :
    String :=
  if dataCategory = "raw" then
    "원천 로그"
  else if dataCategory = "event" then
    "이벤트 이력"
  else if dataCategory = "aggregate" then
    "집계 이력"
  else if dataCategory = "location" then
    "위치 이력"
  else
    dataCategory

/- The label of a policy in the notices. -/
def DataRetentionPolicy.label
    (policy : DataRetentionPolicy) :
    String :=
  deviceTypeDisplay policy.deviceType ++ " / " ++
    dataCategoryDisplay policy.dataCategory

/- The tables from which records are deleted. -/
inductive RecordKind where
  | gasReading
  | powerReading
  | nodeReading
  | workerLocation
  | alarmEvent
  deriving DecidableEq, Repr

/- `RAW_MAP`. -/
def rawMap?
    (deviceType dataCategory : String) :
    Option RecordKind :=
  if (deviceType, dataCategory) = ("gas", "raw") then
    some .gasReading
  else if (deviceType, dataCategory) = ("power", "raw") then
    some .powerReading
  else if (deviceType, dataCategory) = ("node", "raw") then
    some .nodeReading
  else if (deviceType, dataCategory) =
      ("node", "location") then
    some .workerLocation
  else
    none

end Manager

end Icmp2

------------------------------------------------------------
-- The Calendar
------------------------------------------------------------

namespace Icmp2

namespace Manager

open Monitoring

structure Date where
  year : Nat
  month : Nat
  day : Nat
  deriving DecidableEq, Repr

/- `timezone.localtime()`, with its date. -/
structure LocalNow where
  instant : Instant
  today : Date
  deriving DecidableEq, Repr

/- `calendar.monthrange(year, month)[1]`. -/
def monthLength
    (year month : Nat) :
    Nat :=
  if month = 2 then
    if year % 4 = 0 ∧ (year % 100 ≠ 0 ∨ year % 400 = 0) then
      29
    else
      28
  else if month = 4 ∨ month = 6 ∨ month = 9 ∨ month = 11 then
    30
  else
    31

/- `quarter_ends`. -/
def quarterEnd? : Nat → Option Nat
  | 3 => some 31
  | 6 => some 30
  | 9 => some 30
  | 12 => some 31
  | _ => none

/- `_is_schedule_today`. -/
def isScheduleToday
    (today : Date)
    (schedule : String) :
    Bool :=
  if schedule = "daily" then
    true
  else if schedule = "monthly_1" then
    today.day = 1
  else if schedule = "monthly_15" then
    today.day = 15
  else if schedule = "monthly_last" then
    today.day = monthLength today.year today.month
  else if schedule = "quarterly" then
    quarterEnd? today.month = some today.day
  else
    false

/- A day. -/
def dayLength : Int :=
  24 * 60 * 60 * 1000000

/- The first instant of the year 1 in Korean time. -/
def firstInstant : Instant :=
  -(62135596800 + 9 * 60 * 60) * 1000000

/- `now - timedelta(days=days)`; none if it overflows. -/
def daysBefore?
    (now : Instant)
    (days : Nat) :
    Option Instant :=
  let before := now - days * dayLength
  if before < firstInstant then none else some before

end Manager

end Icmp2

------------------------------------------------------------
-- Deletion
------------------------------------------------------------

namespace Icmp2

namespace Manager

open Monitoring

/-
  A record with the time by which its age is measured, and
  the number of `EventHistory` rows of an alarm event.
-/
structure Record where
  id : Nat
  timestamp : Instant
  histories : Nat
  deriving DecidableEq, Repr

/- The rows that go with a record, itself included. -/
def Record.rows
    (record : Record) :
    RecordKind →
    Nat
  | .alarmEvent => 1 + record.histories
  | .gasReading | .powerReading | .nodeReading => 1
  | .workerLocation => 1

abbrev RecordStore : Type :=
  RecordKind → List Record

inductive RetentionNotice where
  | soon (label : String) (retentionDays count : Nat)
  | deleted (label : String) (count : Nat)
  deriving DecidableEq, Repr

/- What one run of the task has written so far. -/
structure RetentionState where
  records : RecordStore
  notices : List RetentionNotice
  eventProcessed : Bool

/- The subtraction of the days went out of range. -/
inductive RetentionError where
  | overflow
  deriving DecidableEq, Repr

/- The records of a kind from before an instant. -/
def expired
    (records : RecordStore)
    (kind : RecordKind)
    (cutoff : Instant) :
    List Record :=
  (records kind).filter fun record =>
    record.timestamp < cutoff

/- The warning about records that expire within a week. -/
def warnSoon
    (now : LocalNow)
    (state : RetentionState)
    (label : String)
    (kind : RecordKind)
    (retentionDays : Nat) :
    RetentionState :=
  let soonCount :=
    (expired state.records kind
      (now.instant - (retentionDays - 7 : Nat) *
        dayLength)).length
  if soonCount > 0 then
    { state with
      notices :=
        state.notices ++
          [.soon label retentionDays soonCount] }
  else
    state

/-
  Delete the records of a kind from before an instant; the
  rows that go with them are counted too.
-/
def deleteExpired
    (state : RetentionState)
    (label : String)
    (kind : RecordKind)
    (cutoff : Instant) :
    RetentionState :=
  let deletedCount :=
    (expired state.records kind cutoff).foldl
      (fun count record => count + record.rows kind) 0
  { state with
    records := fun other =>
      if other = kind then
        (state.records kind).filter fun record =>
          ¬ record.timestamp < cutoff
      else
        state.records other
    notices :=
      if deletedCount > 0 then
        state.notices ++ [.deleted label deletedCount]
      else
        state.notices }

/- Warn, and delete if the schedule falls on today. -/
def applyPolicy
    (now : LocalNow)
    (policy : DataRetentionPolicy)
    (label : String)
    (kind : RecordKind)
    (retentionDays : Nat)
    (state : RetentionState) :
    Except RetentionError RetentionState :=
  match daysBefore? now.instant retentionDays with
  | none => .error .overflow
  | some cutoff =>
      let warned :=
        warnSoon now state label kind retentionDays
      if isScheduleToday now.today
          policy.deleteSchedule then
        .ok (deleteExpired warned label kind cutoff)
      else
        .ok warned

/- One round of the loop over the active policies. -/
def retentionRound
    (now : LocalNow)
    (state : RetentionState)
    (policy : DataRetentionPolicy) :
    Except RetentionError RetentionState :=
  if policy.dataCategory = "aggregate" then
    .ok state
  else if policy.dataCategory = "event" then
    if state.eventProcessed then
      .ok state
    else
      (applyPolicy now policy "이벤트 이력 (전체)"
          .alarmEvent policy.historyDays state).map
        fun later => { later with eventProcessed := true }
  else
    match rawMap? policy.deviceType
        policy.dataCategory with
    | none => .ok state
    | some kind =>
        applyPolicy now policy policy.label kind
          (if policy.dataCategory = "location" then
            policy.historyDays
          else
            policy.originDays)
          state

/- The loop; an exception leaves what is written so far. -/
def retentionRounds
    (now : LocalNow) :
    RetentionState →
    List DataRetentionPolicy →
    Except RetentionError Unit × RetentionState
  | state, [] => (.ok (), state)
  | state, policy :: policies =>
      match retentionRound now state policy with
      | .error error => (.error error, state)
      | .ok later => retentionRounds now later policies

/- The active policies, in the order of the query. -/
def activePolicies
    (policies : List DataRetentionPolicy) :
    List DataRetentionPolicy :=
  policies.filter fun policy => policy.isActive

/- `run_data_retention`, on all records. -/
def runDataRetention
    (now : LocalNow)
    (policies : List DataRetentionPolicy)
    (records : RecordStore) :
    Except RetentionError Unit × RetentionState :=
  retentionRounds now
    { records := records
      notices := []
      eventProcessed := false }
    (activePolicies policies)

end Manager

end Icmp2

------------------------------------------------------------
-- Coverage
------------------------------------------------------------

namespace Icmp2

namespace Manager

open Monitoring

/-
  The kind of records that a policy covers, and for how
  many days.
-/
def coverage?
    (policy : DataRetentionPolicy) :
    Option (RecordKind × Nat) :=
  if policy.dataCategory = "event" then
    some (.alarmEvent, policy.historyDays)
  else if policy.dataCategory = "location" then
    (rawMap? policy.deviceType "location").map fun kind =>
      (kind, policy.historyDays)
  else
    (rawMap? policy.deviceType policy.dataCategory).map
      fun kind => (kind, policy.originDays)

/- The records of a kind are kept for some days. -/
def Covers
    (policy : DataRetentionPolicy)
    (kind : RecordKind)
    (days : Nat) :
    Prop :=
  coverage? policy = some (kind, days)

instance
    (policy : DataRetentionPolicy)
    (kind : RecordKind)
    (days : Nat) :
    Decidable (Covers policy kind days) := by
  unfold Covers
  infer_instance

/- The record is older than a number of days. -/
def Record.OlderThan
    (record : Record)
    (now : LocalNow)
    (days : Nat) :
    Prop :=
  record.timestamp < now.instant - days * dayLength

instance
    (record : Record)
    (now : LocalNow)
    (days : Nat) :
    Decidable (record.OlderThan now days) := by
  unfold Record.OlderThan
  infer_instance

/-
  A policy that deletes a record on a day: the record is
  older than the policy keeps its kind, and the schedule of
  the policy falls on that day.
-/
structure Expires
    (now : LocalNow)
    (policy : DataRetentionPolicy)
    (kind : RecordKind)
    (record : Record) :
    Prop where
  due : isScheduleToday now.today policy.deleteSchedule
  expired :
    ∃ days, Covers policy kind days ∧
      record.OlderThan now days

end Manager

end Icmp2

------------------------------------------------------------
-- One Round
------------------------------------------------------------

namespace Icmp2

namespace Manager

open Monitoring

@[simp] theorem records_warnSoon
    (now : LocalNow)
    (state : RetentionState)
    (label : String)
    (kind : RecordKind)
    (retentionDays : Nat) :
    (warnSoon now state label kind retentionDays).records =
      state.records := by
  unfold warnSoon
  simp only
  split
  · rfl
  · rfl

@[simp] theorem eventProcessed_warnSoon
    (now : LocalNow)
    (state : RetentionState)
    (label : String)
    (kind : RecordKind)
    (retentionDays : Nat) :
    (warnSoon now state label kind
        retentionDays).eventProcessed =
      state.eventProcessed := by
  unfold warnSoon
  simp only
  split
  · rfl
  · rfl

theorem daysBefore?_eq_some
    {now cutoff : Instant}
    {days : Nat}
    (hCutoff : daysBefore? now days = some cutoff) :
    cutoff = now - days * dayLength := by
  simp only [daysBefore?] at hCutoff
  split at hCutoff
  · cases hCutoff
  · exact (Option.some.inj hCutoff).symm

/- What a policy deletes is due and old enough. -/
theorem deleted_applyPolicy
    {now : LocalNow}
    {policy : DataRetentionPolicy}
    {label : String}
    {target kind : RecordKind}
    {days : Nat}
    {state later : RetentionState}
    {record : Record}
    (hApply :
      applyPolicy now policy label target days state =
        .ok later)
    (hMem : record ∈ state.records kind)
    (hGone : record ∉ later.records kind) :
    kind = target ∧
      isScheduleToday now.today policy.deleteSchedule ∧
      record.OlderThan now days := by
  unfold applyPolicy at hApply
  split at hApply
  · cases hApply
  · rename_i cutoff hCutoff
    simp only at hApply
    split at hApply
    · rename_i hDue
      cases hApply
      simp only [deleteExpired, records_warnSoon] at hGone
      split at hGone
      · rename_i hKind
        subst hKind
        have hOld : record.timestamp < cutoff := by
          by_contra hNew
          exact
            hGone (List.mem_filter.mpr
              ⟨hMem, decide_eq_true hNew⟩)
        rw [daysBefore?_eq_some hCutoff] at hOld
        exact ⟨rfl, hDue, hOld⟩
      · exact absurd hMem hGone
    · cases hApply
      rw [records_warnSoon] at hGone
      exact absurd hMem hGone

theorem eventProcessed_applyPolicy
    {now : LocalNow}
    {policy : DataRetentionPolicy}
    {label : String}
    {kind : RecordKind}
    {days : Nat}
    {state later : RetentionState}
    (hApply :
      applyPolicy now policy label kind days state =
        .ok later) :
    later.eventProcessed = state.eventProcessed := by
  unfold applyPolicy at hApply
  split at hApply
  · cases hApply
  · simp only at hApply
    split at hApply
    · cases hApply
      exact eventProcessed_warnSoon _ _ _ _ _
    · cases hApply
      exact eventProcessed_warnSoon _ _ _ _ _

/- No raw policy is about alarm events. -/
theorem rawMap?_ne_alarmEvent
    (deviceType dataCategory : String) :
    rawMap? deviceType dataCategory ≠ some .alarmEvent := by
  unfold rawMap?
  split
  · decide
  · split
    · decide
    · split
      · decide
      · split
        · decide
        · decide

/- A policy for events. -/
def DataRetentionPolicy.ForEvents
    (policy : DataRetentionPolicy) :
    Prop :=
  policy.dataCategory = "event"

instance : DecidablePred DataRetentionPolicy.ForEvents := by
  intro policy
  unfold DataRetentionPolicy.ForEvents
  infer_instance

theorem covers_of_forEvents
    {policy : DataRetentionPolicy}
    (hEvent : policy.ForEvents) :
    Covers policy .alarmEvent policy.historyDays :=
  if_pos hEvent

/-
  What a round does: nothing; apply the first policy for
  events to the alarm events; or apply another policy to
  the kind that it covers.
-/
theorem retentionRound_cases
    {now : LocalNow}
    {policy : DataRetentionPolicy}
    {state later : RetentionState}
    (hRound : retentionRound now state policy = .ok later) :
    (later = state ∧
      (policy.ForEvents → state.eventProcessed = true)) ∨
    (policy.ForEvents ∧ state.eventProcessed = false ∧
      ∃ label applied,
        applyPolicy now policy label .alarmEvent
            policy.historyDays state =
          .ok applied ∧
        later = { applied with eventProcessed := true }) ∨
    (¬ policy.ForEvents ∧
      ∃ kind days,
        Covers policy kind days ∧ kind ≠ .alarmEvent ∧
          applyPolicy now policy policy.label kind days
              state =
            .ok later) := by
  unfold retentionRound at hRound
  split at hRound
  · rename_i hAggregate
    cases hRound
    refine Or.inl ⟨rfl, fun hEvent => ?_⟩
    rw [DataRetentionPolicy.ForEvents, hAggregate] at hEvent
    exact absurd hEvent (by decide)
  · split at hRound
    · rename_i hEvent
      split at hRound
      · rename_i hProcessed
        cases hRound
        exact Or.inl ⟨rfl, fun _ => hProcessed⟩
      · rename_i hFirst
        cases hApply :
            applyPolicy now policy "이벤트 이력 (전체)"
              .alarmEvent policy.historyDays state with
        | error error =>
            rw [hApply] at hRound
            cases hRound
        | ok applied =>
            rw [hApply] at hRound
            cases hRound
            exact
              Or.inr (Or.inl
                ⟨hEvent, Bool.eq_false_iff.mpr hFirst,
                  _, applied, hApply, rfl⟩)
    · rename_i hEvent
      split at hRound
      · cases hRound
        exact
          Or.inl ⟨rfl, fun hFor => absurd hFor hEvent⟩
      · rename_i kind hTarget
        refine
          Or.inr (Or.inr ⟨hEvent, kind, _, ?_, ?_, hRound⟩)
        · rw [Covers, coverage?, if_neg hEvent]
          split
          · rename_i hLocation
            rw [hLocation] at hTarget
            rw [hTarget, Option.map_some]
          · rw [hTarget, Option.map_some]
        · rintro rfl
          exact absurd hTarget (rawMap?_ne_alarmEvent _ _)

/-
  What one round deletes, its policy expires; and an alarm
  event goes only in the first round about events.
-/
theorem deleted_retentionRound
    {now : LocalNow}
    {policy : DataRetentionPolicy}
    {kind : RecordKind}
    {state later : RetentionState}
    {record : Record}
    (hRound : retentionRound now state policy = .ok later)
    (hMem : record ∈ state.records kind)
    (hGone : record ∉ later.records kind) :
    Expires now policy kind record ∧
      (kind = .alarmEvent →
        policy.ForEvents ∧
          state.eventProcessed = false) := by
  rcases retentionRound_cases hRound with
    ⟨rfl, _⟩ |
      ⟨hEvent, hFirst, label, applied, hApply, rfl⟩ |
      ⟨_, target, days, hCovers, hOther, hApply⟩
  · exact absurd hMem hGone
  · rcases deleted_applyPolicy hApply hMem hGone with
      ⟨rfl, hDue, hOld⟩
    exact
      ⟨⟨hDue, policy.historyDays,
          covers_of_forEvents hEvent, hOld⟩,
        fun _ => ⟨hEvent, hFirst⟩⟩
  · rcases deleted_applyPolicy hApply hMem hGone with
      ⟨rfl, hDue, hOld⟩
    exact
      ⟨⟨hDue, days, hCovers, hOld⟩,
        fun hAlarm => absurd hAlarm hOther⟩

/- After a round without events none were met before. -/
theorem not_forEvents_of_eventProcessed
    {now : LocalNow}
    {policy : DataRetentionPolicy}
    {state later : RetentionState}
    (hRound : retentionRound now state policy = .ok later)
    (hLater : later.eventProcessed = false) :
    ¬ policy.ForEvents ∧ state.eventProcessed = false := by
  rcases retentionRound_cases hRound with
    ⟨rfl, hProcessed⟩ | ⟨_, _, _, applied, _, rfl⟩ |
      ⟨hEvent, _, _, _, _, hApply⟩
  · refine ⟨fun hEvent => ?_, hLater⟩
    rw [hProcessed hEvent] at hLater
    cases hLater
  · cases hLater
  · rw [eventProcessed_applyPolicy hApply] at hLater
    exact ⟨hEvent, hLater⟩

end Manager

end Icmp2

------------------------------------------------------------
-- The Whole Run
------------------------------------------------------------

namespace Icmp2

namespace Manager

open Monitoring

/- What the rounds delete, one of their policies expires. -/
theorem deleted_retentionRounds
    {now : LocalNow}
    {policies : List DataRetentionPolicy}
    {kind : RecordKind}
    {state : RetentionState}
    {record : Record}
    (hMem : record ∈ state.records kind)
    (hGone :
      record ∉
        (retentionRounds now state policies).2.records
          kind) :
    ∃ policy ∈ policies,
      Expires now policy kind record ∧
        (kind = .alarmEvent →
          state.eventProcessed = false ∧
            policies.find?
                (fun other => other.ForEvents) =
              some policy) := by
  induction policies generalizing state with
  | nil => exact absurd hMem hGone
  | cons policy policies ih =>
      rw [retentionRounds] at hGone
      cases hRound : retentionRound now state policy with
      | error error =>
          rw [hRound] at hGone
          exact absurd hMem hGone
      | ok later =>
          rw [hRound] at hGone
          by_cases hLater : record ∈ later.records kind
          · rcases ih hLater hGone with
              ⟨other, hOther, hExpires, hFirst⟩
            refine
              ⟨other, List.mem_cons_of_mem _ hOther,
                hExpires, ?_⟩
            intro hAlarm
            rcases hFirst hAlarm with ⟨hUnmet, hFound⟩
            have hSkipped :=
              not_forEvents_of_eventProcessed hRound hUnmet
            refine ⟨hSkipped.2, ?_⟩
            rw [List.find?_cons_of_neg (by
              simpa using hSkipped.1)]
            exact hFound
          · rcases deleted_retentionRound hRound hMem hLater
              with ⟨hExpires, hFirst⟩
            refine
              ⟨policy, List.mem_cons_self, hExpires, ?_⟩
            intro hAlarm
            rcases hFirst hAlarm with ⟨hEvent, hUnmet⟩
            refine ⟨hUnmet, ?_⟩
            exact List.find?_cons_of_pos (by simpa using hEvent)

/-
  The run deletes a record only for an active policy that
  is due, covers the kind of the record, and keeps it for a
  shorter time; for an alarm event this is the first active
  policy for events.
-/
theorem deleted_by_expired_policy
    (now : LocalNow)
    (policies : List DataRetentionPolicy)
    (records : RecordStore)
    {kind : RecordKind}
    {record : Record}
    (hMem : record ∈ records kind)
    (hGone :
      record ∉
        (runDataRetention now policies records).2.records
          kind) :
    ∃ policy ∈ activePolicies policies,
      Expires now policy kind record ∧
        (kind = .alarmEvent →
          (activePolicies policies).find?
              (fun other => other.ForEvents) =
            some policy) := by
  rcases deleted_retentionRounds hMem hGone with
    ⟨policy, hPolicy, hExpires, hFirst⟩
  exact
    ⟨policy, hPolicy, hExpires,
      fun hAlarm => (hFirst hAlarm).2⟩

/- No deletion before every covering policy has expired. -/
def NeverEarly
    (now : LocalNow)
    (policies : List DataRetentionPolicy)
    (records : RecordStore) :
    Prop :=
  ∀ kind, ∀ record ∈ records kind,
    record ∉
      (runDataRetention now policies records).2.records
        kind →
    ∀ policy ∈ activePolicies policies,
      ∀ days, Covers policy kind days →
        record.OlderThan now days

/- With one active policy for each kind, none goes early. -/
theorem neverEarly_of_unique
    (now : LocalNow)
    {policies : List DataRetentionPolicy}
    (records : RecordStore)
    (hUnique :
      ∀ left ∈ activePolicies policies,
        ∀ right ∈ activePolicies policies,
          ∀ kind leftDays rightDays,
            Covers left kind leftDays →
            Covers right kind rightDays →
            left = right) :
    NeverEarly now policies records := by
  intro kind record hMem hGone policy hPolicy days hCovers
  rcases deleted_retentionRounds hMem hGone with
    ⟨other, hOther, ⟨_, otherDays, hCovered, hOld⟩, _⟩
  have hSame :=
    hUnique other hOther policy hPolicy kind otherDays days
      hCovered hCovers
  subst hSame
  have hPair := hCovered.symm.trans hCovers
  simp only [Option.some.injEq, Prod.mk.injEq,
    true_and] at hPair
  rw [← hPair]
  exact hOld

/- A policy that is due every day. -/
def dailyPolicy
    (deviceType dataCategory : String)
    (days : Nat) :
    DataRetentionPolicy where
  deviceType := deviceType
  dataCategory := dataCategory
  originDays := days
  historyDays := days
  deleteSchedule := "daily"
  isActive := true

/- The first of January 2026, three in the morning. -/
def newYear : LocalNow where
  instant := 1767204000 * 1000000
  today := ⟨2026, 1, 1⟩

/- In every table one record that is 100 days old. -/
def hundredDays : RecordStore :=
  fun _ => [⟨1, newYear.instant - 100 * dayLength, 0⟩]

/- A gas reading goes under a policy of ninety days. -/
theorem gasReading_deleted :
    ∃ policy ∈
        activePolicies [dailyPolicy "gas" "raw" 90],
      Expires newYear policy .gasReading
          ⟨1, newYear.instant - 100 * dayLength, 0⟩ ∧
        (RecordKind.gasReading = .alarmEvent →
          (activePolicies
              [dailyPolicy "gas" "raw" 90]).find?
              (fun other => other.ForEvents) =
            some policy) :=
  deleted_by_expired_policy newYear
    [dailyPolicy "gas" "raw" 90] hundredDays
    (by decide) (by decide)

/-
  An alarm event goes by the first policy for events though
  the second keeps it for two years, and a gas reading by
  the shorter of two policies.
-/
theorem deleted_early :
    ¬ NeverEarly newYear
        [dailyPolicy "gas" "event" 30,
          dailyPolicy "power" "event" 730]
        hundredDays ∧
      ¬ NeverEarly newYear
        [dailyPolicy "gas" "raw" 365,
          dailyPolicy "gas" "raw" 30]
        hundredDays := by
  constructor
  · intro hNever
    exact
      absurd
        (hNever .alarmEvent
          ⟨1, newYear.instant - 100 * dayLength, 0⟩
          (by decide) (by decide)
          (dailyPolicy "power" "event" 730)
          (by decide) 730 (by decide))
        (by decide)
  · intro hNever
    exact
      absurd
        (hNever .gasReading
          ⟨1, newYear.instant - 100 * dayLength, 0⟩
          (by decide) (by decide)
          (dailyPolicy "gas" "raw" 365)
          (by decide) 365 (by decide))
        (by decide)

end Manager

end Icmp2
