import Icmp2.Library.Action
import Icmp2.Library.Calendar
import Icmp2.Monitoring.Reading
import Icmp2.Text

/-
  The two reports of the safety checks.

  Main definitions include:
    * `Icmp2.Safety.SessionTable`
    * `Icmp2.Safety.buildCalendar`
    * `Icmp2.Safety.historyPrint`
    * `Icmp2.Safety.historyDownload`

  Main theorems include:
    * `Icmp2.Safety.shown_buildMonths`
    * `Icmp2.Safety.rowsOf_eq`
    * `Icmp2.Safety.rangeDays_interval`
    * `Icmp2.Safety.download_shows_print`

  The print lays the days out in the weeks of whole months;
  the download has one row for each day.
-/

------------------------------------------------------------
-- Sessions
------------------------------------------------------------

namespace Icmp2

namespace Safety

open Library Monitoring

/- `SafetyCheckSession`. -/
structure SafetyCheckSession where
  worker : Int
  checkDate : Date
  checklistCompleted : Bool
  checklistCompletedAt : Option Instant
  vrCompleted : Bool
  vrCompletedAt : Option Instant

/- The table; a worker has one session a day. -/
structure SessionTable where
  rows : List SafetyCheckSession
  once :
    (rows.map fun session =>
      (session.worker, session.checkDate)).Nodup

/- A worker of the lists, with the key. -/
structure ListedWorker where
  pk : Int
  workerName : String
  deriving DecidableEq, Repr

variable (table : SessionTable)

/- The sessions of a worker; none without a worker. -/
def SessionTable.ofWorker
    (worker : Option ListedWorker) :
    List SafetyCheckSession :=
  table.rows.filter fun session =>
    worker.map ListedWorker.pk = some session.worker

/- The session that a map by date holds for a day. -/
def sessionAt
    (sessions : List SafetyCheckSession)
    (date : Date) :
    Option SafetyCheckSession :=
  sessions.find? fun session => session.checkDate = date

end Safety

end Icmp2

------------------------------------------------------------
-- The Print
------------------------------------------------------------

namespace Icmp2

namespace Safety

open Library Monitoring

inductive DayStatus where
  | complete
  | partly
  | incomplete
  deriving DecidableEq, Repr

/- A cell of the calendar; those before and after are empty. -/
inductive Cell where
  | empty
  | day
      (date : Date)
      (checklist vr : Option Bool)
      (status : Option DayStatus)
  deriving DecidableEq

def dayStatus
    (session : SafetyCheckSession) :
    DayStatus :=
  if session.checklistCompleted && session.vrCompleted then
    .complete
  else if session.checklistCompleted ||
      session.vrCompleted then
    .partly
  else
    .incomplete

/- The cell of a number of the calendar, which may be zero. -/
def cellOf
    (sessions : List SafetyCheckSession)
    (month : Month)
    (day : Nat) :
    Cell :=
  match Date.date? month day with
  | none => .empty
  | some date =>
      .day date
        ((sessionAt sessions date).map
          SafetyCheckSession.checklistCompleted)
        ((sessionAt sessions date).map
          SafetyCheckSession.vrCompleted)
        ((sessionAt sessions date).map dayStatus)

/- `_build_calendar`. -/
def buildCalendar
    (sessions : List SafetyCheckSession)
    (month : Month) :
    List (List Cell) :=
  let inMonth := sessions.filter fun session =>
    session.checkDate.inMonth = month
  month.monthCalendar.map fun week =>
    week.map (cellOf inMonth month)

structure MonthPage where
  month : Month
  weeks : List (List Cell)

/- `build_months`. -/
def buildMonths
    (sessions : List SafetyCheckSession)
    (start stop : Date) :
    List MonthPage :=
  (Month.monthsTo stop.inMonth start.inMonth).map
    fun month =>
      { month := month
        weeks := buildCalendar sessions month }

/-
  A request for a report.  The dates are those of the
  parameters, none where they cannot be read, and `worker`
  is the worker of the user.
-/
structure HistoryRequest where
  start : Option Date
  stop : Option Date
  workers : String
  isAdmin : Bool
  isStaff : Bool
  worker : Option ListedWorker

/- The keys in `workers`; none where one cannot be read. -/
def workerIds
    (readInt : String → Option Int)
    (workers : String) :
    Option (List Int) :=
  (((workers.toList.splitOn ',').map String.ofList).filter
    fun part => strip part ≠ "").mapM readInt

/-
  `Worker.objects.filter(pk__in=worker_ids)`, where the
  rows come in the order of `listed`.
-/
def listedWorkers
    (listed : List ListedWorker)
    (ids : List Int) :
    List ListedWorker :=
  listed.filter fun worker => worker.pk ∈ ids

structure PrintPage where
  worker : Option ListedWorker
  months : List MonthPage

variable (readInt : String → Option Int)
variable (listed : List ListedWorker)
variable (table : SessionTable)

/-
  `mysafety_history` with `print=1`, on a day; none is the
  page for users without a worker.
-/
def historyPrint
    (today : Date)
    (request : HistoryRequest) :
    Option (List PrintPage) :=
  if request.worker.isNone && !request.isAdmin then
    none
  else
    let range :=
      match request.start, request.stop with
      | some start, some stop => (start, stop)
      | _, _ =>
          -- the first day of this month until today
          (((Date.date? today.inMonth 1).getD today), today)
    let targets :=
      if request.workers ≠ "" && request.isStaff then
        (listedWorkers listed
          ((workerIds readInt request.workers).getD
            [])).map some
      else
        [request.worker]
    some
      (targets.map fun worker =>
        { worker := worker
          months :=
            buildMonths (table.ofWorker worker)
              range.1 range.2 })

end Safety

end Icmp2

------------------------------------------------------------
-- The Download
------------------------------------------------------------

namespace Icmp2

namespace Safety

open Library Monitoring

structure HistoryRow where
  workerName : String
  date : Date
  checklist : String
  checklistCompletedAt : String
  vr : String
  vrCompletedAt : String

inductive DownloadError where
  | badRequest (text : String)
  | overflowError
  deriving DecidableEq, Repr

/- The word for a flag of a session. -/
def doneText
    (flag : Option Bool) :
    String :=
  if flag = some true then "완료" else "미완료"

variable (koreaTime : Instant → String)

/- The row of a day. -/
def historyRow
    (sessions : List SafetyCheckSession)
    (workerName : String)
    (date : Date) :
    HistoryRow where
  workerName := workerName
  date := date
  checklist :=
    doneText
      ((sessionAt sessions date).map
        SafetyCheckSession.checklistCompleted)
  checklistCompletedAt :=
    (((sessionAt sessions date).bind
      SafetyCheckSession.checklistCompletedAt).map
        koreaTime).getD "-"
  vr :=
    doneText
      ((sessionAt sessions date).map
        SafetyCheckSession.vrCompleted)
  vrCompletedAt :=
    (((sessionAt sessions date).bind
      SafetyCheckSession.vrCompletedAt).map
        koreaTime).getD "-"

variable (readInt : String → Option Int)
variable (listed : List ListedWorker)
variable (table : SessionTable)

/- The rows of one worker. -/
def rowsOf
    (start stop : Date)
    (worker : ListedWorker) :
    Except DownloadError (List HistoryRow) :=
  let sessions :=
    (table.ofWorker (some worker)).filter fun session =>
      start.NotAfter session.checkDate ∧
        session.checkDate.NotAfter stop
  match Date.daysTo stop start with
  | none => .error .overflowError
  | some days =>
      .ok
        (days.map
          (historyRow koreaTime sessions worker.workerName))

/- The workers whose rows are downloaded. -/
def downloadTargets
    (request : HistoryRequest) :
    Except DownloadError (List ListedWorker) :=
  if request.workers ≠ "" && request.isAdmin then
    match workerIds readInt request.workers with
    | none => .error (.badRequest "잘못된 worker id")
    | some ids => .ok (listedWorkers listed ids)
  else
    match request.worker with
    | none => .error (.badRequest "근무자 정보 없음")
    | some worker => .ok [worker]

/- `mysafety_history_download`. -/
def historyDownload
    (request : HistoryRequest) :
    Except DownloadError (List HistoryRow) :=
  match request.start, request.stop with
  | some start, some stop => do
      let targets ← downloadTargets readInt listed request
      let rows ←
        targets.mapM (rowsOf koreaTime table start stop)
      return rows.flatten
  | _, _ => .error (.badRequest "날짜 형식 오류")

end Safety

end Icmp2

------------------------------------------------------------
-- Lines
------------------------------------------------------------

namespace Icmp2

namespace Safety

open Library Monitoring

/- What both reports say about a day of a worker. -/
structure DayLine where
  workerName : String
  date : Date
  checklist : String
  vr : String
  deriving DecidableEq

def HistoryRow.line
    (row : HistoryRow) :
    DayLine where
  workerName := row.workerName
  date := row.date
  checklist := row.checklist
  vr := row.vr

/- The line of a cell, if its day is in the range. -/
def Cell.line?
    (workerName : String)
    (start stop : Date) :
    Cell → Option DayLine
  | .empty => none
  | .day date checklist vr _ =>
      if start.NotAfter date ∧ date.NotAfter stop then
        some
          { workerName := workerName
            date := date
            checklist := doneText checklist
            vr := doneText vr }
      else
        none

/- The lines of a printed worker, in the order of reading. -/
def PrintPage.lines
    (start stop : Date)
    (page : PrintPage) :
    List DayLine :=
  (page.months.flatMap fun month =>
      month.weeks.flatten).filterMap
    (Cell.line?
      ((page.worker.map ListedWorker.workerName).getD "")
      start stop)

def dayLine
    (sessions : List SafetyCheckSession)
    (workerName : String)
    (date : Date) :
    DayLine where
  workerName := workerName
  date := date
  checklist :=
    doneText
      ((sessionAt sessions date).map
        SafetyCheckSession.checklistCompleted)
  vr :=
    doneText
      ((sessionAt sessions date).map
        SafetyCheckSession.vrCompleted)

/- A query that keeps a day does not change its session. -/
theorem sessionAt_filter
    (sessions : List SafetyCheckSession)
    (keep : Date → Prop)
    [DecidablePred keep]
    {date : Date}
    (hKeep : keep date) :
    sessionAt
        (sessions.filter fun session =>
          keep session.checkDate)
        date =
      sessionAt sessions date := by
  unfold sessionAt
  rw [List.find?_filter]
  congr 1
  funext session
  by_cases hDate : session.checkDate = date
  · simp [hDate, hKeep]
  · simp [hDate]

/- A cell of the calendar of a month stands for its day. -/
theorem line?_cellOf
    (sessions : List SafetyCheckSession)
    (workerName : String)
    (start stop : Date)
    (month : Month)
    (day : Nat) :
    (cellOf
        (sessions.filter fun session =>
          session.checkDate.inMonth = month)
        month day).line? workerName start stop =
      (Date.date? month day).bind fun date =>
        if start.NotAfter date ∧ date.NotAfter stop then
          some (dayLine sessions workerName date)
        else
          none := by
  unfold cellOf
  cases hDate : Date.date? month day with
  | none => rfl
  | some date =>
      have hMonth := (Date.date?_eq_some_iff.mp hDate).1
      have hSession :=
        sessionAt_filter sessions
          (fun other => other.inMonth = month) hMonth
      simp only [hSession]
      rfl

/- The months show the days of the range once, in order. -/
theorem shown_buildMonths
    (sessions : List SafetyCheckSession)
    (workerName : String)
    (start stop : Date) :
    ((buildMonths sessions start stop).flatMap fun page =>
        page.weeks.flatten).filterMap
        (Cell.line? workerName start stop) =
      (Date.interval start stop).map
        (dayLine sessions workerName) := by
  have hMonth (month : Month) :
      (buildCalendar sessions month).flatten.filterMap
          (Cell.line? workerName start stop) =
        (Date.daysOf month).filterMap fun date =>
          if start.NotAfter date ∧ date.NotAfter stop then
            some (dayLine sessions workerName date)
          else
            none := by
    unfold buildCalendar
    rw [← List.map_flatten, Month.monthCalendar,
      flatten_weeksOf, List.filterMap_map,
      ← Month.filterMap_monthDays, List.filterMap_filterMap]
    congr 1
    funext day
    exact
      line?_cellOf sessions workerName start stop month day
  rw [buildMonths, List.flatMap_map, List.filterMap_flatMap]
  simp only [hMonth]
  rw [← List.filterMap_flatMap,
    ← Date.filter_days_monthsTo]
  generalize
    (Month.monthsTo stop.inMonth start.inMonth).flatMap
      Date.daysOf = days
  induction days with
  | nil => rfl
  | cons date days ih =>
      by_cases hRange :
          start.NotAfter date ∧ date.NotAfter stop
      · simp [hRange, ih]
      · simp [hRange, ih]

variable {koreaTime : Instant → String}
variable {readInt : String → Option Int}
variable {listed : List ListedWorker}
variable {table : SessionTable}

/- The rows of a worker are the days of the range. -/
theorem rowsOf_eq
    {start stop : Date}
    {worker : ListedWorker}
    {rows : List HistoryRow}
    (hRows :
      rowsOf koreaTime table start stop worker =
        .ok rows) :
    rows.map HistoryRow.line =
      (Date.interval start stop).map
        (dayLine (table.ofWorker (some worker))
          worker.workerName) := by
  simp only [rowsOf, Date.daysTo_eq] at hRows
  split_ifs at hRows with hLast
  cases hRows
  rw [List.map_map]
  apply List.map_congr_left
  intro date hDate
  have hRange :
      start.NotAfter date ∧ date.NotAfter stop := by
    rw [Date.notAfter_iff, Date.notAfter_iff]
    exact Date.mem_interval_iff.mp hDate
  have hSession :=
    sessionAt_filter (table.ofWorker (some worker))
      (fun other =>
        start.NotAfter other ∧ other.NotAfter stop)
      hRange
  simp only [Function.comp_apply, historyRow,
    HistoryRow.line, dayLine, hSession]

/- The days of a range, each of them once and in order. -/
structure RangeDays
    (start stop : Date)
    (days : List Date) :
    Prop where
  ordered :
    days.Pairwise fun left right => ¬ right.NotAfter left
  exact :
    ∀ date,
      date ∈ days ↔
        start.NotAfter date ∧ date.NotAfter stop

theorem rangeDays_interval
    (start stop : Date) :
    RangeDays start stop (Date.interval start stop) where
  ordered := by
    refine
      (pairwise_iterate Date.ordinal_next start _).imp ?_
    intro left right hLt hNotAfter
    rw [Date.notAfter_iff] at hNotAfter
    omega
  exact := by
    intro date
    rw [Date.mem_interval_iff, Date.notAfter_iff,
      Date.notAfter_iff]

end Safety

end Icmp2

------------------------------------------------------------
-- The Reports Agree
------------------------------------------------------------

namespace Icmp2

namespace Safety

open Library Monitoring

variable {koreaTime : Instant → String}
variable {readInt : String → Option Int}
variable {printed downloaded : List ListedWorker}
variable {table : SessionTable}

/- The lines of a worker on the days of a list. -/
def workerLines
    (table : SessionTable)
    (days : List Date)
    (worker : ListedWorker) :
    List DayLine :=
  days.map
    (dayLine (table.ofWorker (some worker))
      worker.workerName)

/- The page of a worker. -/
def printPage
    (table : SessionTable)
    (start stop : Date)
    (worker : ListedWorker) :
    PrintPage where
  worker := some worker
  months :=
    buildMonths (table.ofWorker (some worker)) start stop

/- The rows of several workers, one after the other. -/
theorem lines_of_mapM_rowsOf
    {start stop : Date}
    {targets : List ListedWorker}
    {rows : List (List HistoryRow)}
    (hRows :
      targets.mapM (rowsOf koreaTime table start stop) =
        .ok rows) :
    rows.flatten.map HistoryRow.line =
      targets.flatMap
        (workerLines table (Date.interval start stop)) := by
  induction targets generalizing rows with
  | nil =>
      cases hRows
      rfl
  | cons worker targets ih =>
      rw [List.mapM_cons] at hRows
      rcases of_except_bind_ok hRows with
        ⟨first, hFirst, hRows⟩
      rcases of_except_bind_ok hRows with
        ⟨rest, hRest, hRows⟩
      cases hRows
      rw [List.flatten_cons, List.map_append,
        rowsOf_eq hFirst, ih hRest, List.flatMap_cons]
      rfl

/- The print is of the workers that are downloaded. -/
theorem historyPrint_of_targets
    (table : SessionTable)
    {request : HistoryRequest}
    {start stop : Date}
    (hStart : request.start = some start)
    (hStop : request.stop = some stop)
    (hStaff :
      request.isStaff = request.isAdmin ∨
        request.workers = "")
    (hSame : printed.Perm downloaded)
    {targets : List ListedWorker}
    (hTargets :
      downloadTargets readInt downloaded request =
        .ok targets)
    (today : Date) :
    ∃ shown : List ListedWorker,
      shown.Perm targets ∧
        historyPrint readInt printed table today request =
          some (shown.map (printPage table start stop)) := by
  have hNamed :
      (request.workers ≠ "" && request.isStaff) =
        (request.workers ≠ "" && request.isAdmin) := by
    rcases hStaff with hStaff | hNamed
    · rw [hStaff]
    · simp [hNamed]
  unfold downloadTargets at hTargets
  unfold historyPrint
  rw [hStart, hStop, hNamed]
  cases hIds : request.workers ≠ "" && request.isAdmin with
  | false =>
      rw [hIds] at hTargets
      cases hWorker : request.worker with
      | none =>
          rw [hWorker] at hTargets
          cases hTargets
      | some worker =>
          rw [hWorker] at hTargets
          cases hTargets
          exact ⟨[worker], List.Perm.refl _, rfl⟩
  | true =>
      rw [hIds] at hTargets
      have hAdmin := (Bool.and_eq_true_iff.mp hIds).2
      cases hRead : workerIds readInt request.workers with
      | none =>
          rw [hRead] at hTargets
          cases hTargets
      | some ids =>
          rw [hRead] at hTargets
          cases hTargets
          refine
            ⟨listedWorkers printed ids, hSame.filter _, ?_⟩
          simp [hAdmin, printPage]

/-
  How a printed month is laid out: in weeks of seven cells,
  each day of the month under its weekday, and marked as
  complete if both flags are set.
-/
structure MonthPage.LaidOut
    (page : MonthPage) :
    Prop where
  seven : ∀ week ∈ page.weeks, week.length = 7
  placed :
    ∀ week ∈ page.weeks,
      ∀ column date checklist vr status,
        week[column]? =
            some (Cell.day date checklist vr status) →
          date.inMonth = page.month ∧
            date.weekday = column
  marked :
    ∀ week ∈ page.weeks,
      ∀ date checklist vr status,
        Cell.day date checklist vr status ∈ week →
          (status = some .complete ↔
            checklist = some true ∧ vr = some true)

theorem cellOf_eq_day
    {sessions : List SafetyCheckSession}
    {month : Month}
    {number : Nat}
    {date : Date}
    {checklist vr : Option Bool}
    {status : Option DayStatus}
    (hCell :
      cellOf sessions month number =
        .day date checklist vr status) :
    Date.date? month number = some date ∧
      (status = some .complete ↔
        checklist = some true ∧ vr = some true) := by
  unfold cellOf at hCell
  cases hDate : Date.date? month number with
  | none =>
      rw [hDate] at hCell
      cases hCell
  | some day =>
      rw [hDate] at hCell
      cases hCell
      refine ⟨rfl, ?_⟩
      cases sessionAt sessions date with
      | none => simp
      | some session =>
          simp only [Option.map_some, Option.some.injEq,
            dayStatus]
          cases session.checklistCompleted <;>
            cases session.vrCompleted <;> decide

theorem laidOut_of_mem_buildMonths
    {sessions : List SafetyCheckSession}
    {start stop : Date}
    {page : MonthPage}
    (hPage : page ∈ buildMonths sessions start stop) :
    page.LaidOut := by
  rcases List.mem_map.mp hPage with ⟨month, _, rfl⟩
  constructor
  · intro week hWeek
    rcases List.mem_map.mp hWeek with ⟨days, hDays, rfl⟩
    rw [List.length_map]
    exact (Month.weekday_of_monthCalendar hDays).1
  · intro week hWeek column date checklist vr status hCell
    rcases List.mem_map.mp hWeek with ⟨days, hDays, rfl⟩
    rw [List.getElem?_map, Option.map_eq_some_iff] at hCell
    rcases hCell with ⟨number, hNumber, hCell⟩
    rcases Date.date?_eq_some_iff.mp
      (cellOf_eq_day hCell).1 with ⟨hMonth, rfl⟩
    exact
      ⟨hMonth,
        (Month.weekday_of_monthCalendar hDays).2 column date
          hMonth hNumber⟩
  · intro week hWeek date checklist vr status hCell
    rcases List.mem_map.mp hWeek with ⟨days, _, rfl⟩
    rcases List.mem_map.mp hCell with ⟨number, _, hCell⟩
    exact (cellOf_eq_day hCell).2

/-
  Where staff are the admins, or no workers are named, a
  download has the days of the range of each of its workers,
  and the print has a page of each of them that shows the
  same days, in months that are laid out as they should.
  The two queries for the workers may answer in different
  orders.
-/
theorem download_shows_print
    (today : Date)
    (request : HistoryRequest)
    {start stop : Date}
    (hStart : request.start = some start)
    (hStop : request.stop = some stop)
    (hStaff :
      request.isStaff = request.isAdmin ∨
        request.workers = "")
    (hSame : printed.Perm downloaded)
    {rows : List HistoryRow}
    (hRows :
      historyDownload koreaTime readInt downloaded table
        request = .ok rows) :
    ∃ targets days pages,
      downloadTargets readInt downloaded request =
          .ok targets ∧
        RangeDays start stop days ∧
        rows.map HistoryRow.line =
          targets.flatMap (workerLines table days) ∧
        historyPrint readInt printed table today request =
          some pages ∧
        (pages.map PrintPage.worker).Perm
          (targets.map some) ∧
        ∀ page ∈ pages,
          (∀ worker,
            page.worker = some worker →
              page.lines start stop =
                workerLines table days worker) ∧
            ∀ month ∈ page.months, month.LaidOut := by
  unfold historyDownload at hRows
  rw [hStart, hStop] at hRows
  rcases of_except_bind_ok hRows with
    ⟨targets, hTargets, hRows⟩
  rcases of_except_bind_ok hRows with
    ⟨parts, hParts, hRows⟩
  cases hRows
  rcases historyPrint_of_targets table hStart hStop hStaff
      hSame hTargets today with
    ⟨shown, hPerm, hPrint⟩
  refine
    ⟨targets, Date.interval start stop, _, hTargets,
      rangeDays_interval start stop,
      lines_of_mapM_rowsOf hParts, hPrint, ?_, ?_⟩
  · rw [List.map_map]
    exact hPerm.map some
  · intro page hPage
    rcases List.mem_map.mp hPage with ⟨shownTo, _, rfl⟩
    refine ⟨?_, ?_⟩
    · rintro worker hWorker
      cases hWorker
      exact shown_buildMonths _ _ start stop
    · intro month hMonth
      exact laidOut_of_mem_buildMonths hMonth

/- The last days of February in a leap year. -/
def february28 : Date :=
  ⟨.ofIndex 49, 28, by decide, by decide⟩

def leapDay : Date :=
  february28.next

def march1 : Date :=
  leapDay.next

def leapRequest : HistoryRequest where
  start := some february28
  stop := some march1
  workers := ""
  isAdmin := false
  isStaff := false
  worker := some ⟨1, "김철수"⟩

/- The leap day has the only session. -/
def leapTable : SessionTable where
  rows :=
    [{ worker := 1
       checkDate := leapDay
       checklistCompleted := true
       checklistCompletedAt := some 0
       vrCompleted := true
       vrCompletedAt := none }]
  once := by decide

/- The three days of the range, and their marks. -/
theorem download_shows_print_leap :
    ∃ rows pages,
      historyDownload (fun _ => "09:00") (fun _ => none) []
          leapTable leapRequest = .ok rows ∧
        historyPrint (fun _ => none) [] leapTable march1
            leapRequest = some pages ∧
        rows.map (fun row => (row.date, row.checklist)) =
          [(february28, "미완료"), (leapDay, "완료"),
            (march1, "미완료")] ∧
        ∃ days, RangeDays february28 march1 days ∧
          ∀ page ∈ pages,
            ∀ worker, page.worker = some worker →
              page.lines february28 march1 =
                workerLines leapTable days worker := by
  have hDays :
      Date.daysTo march1 february28 =
        some [february28, leapDay, march1] := by
    rw [Date.daysTo_eq]
    decide
  have hRow :
      rowsOf (fun _ => "09:00") leapTable february28 march1
          ⟨1, "김철수"⟩ =
        .ok
          ([february28, leapDay, march1].map
            (historyRow (fun _ => "09:00")
              leapTable.rows "김철수")) := by
    simp only [rowsOf, hDays]
    rfl
  have hRows :
      historyDownload (fun _ => "09:00") (fun _ => none) []
          leapTable leapRequest =
        .ok
          ([february28, leapDay, march1].map
            (historyRow (fun _ => "09:00")
              leapTable.rows "김철수")) := by
    change
      ([ListedWorker.mk 1 "김철수"].mapM
        (rowsOf (fun _ => "09:00") leapTable february28
          march1)).bind (fun parts => .ok parts.flatten) =
        _
    rw [List.mapM_cons, hRow]
    rfl
  rcases
    download_shows_print march1 leapRequest rfl rfl
      (Or.inl rfl) (List.Perm.refl []) hRows with
    ⟨_, days, pages, _, hRange, _, hPages, _, hShown⟩
  exact
    ⟨_, pages, hRows, hPages, by decide, days, hRange,
      fun page hPage => (hShown page hPage).1⟩

end Safety

end Icmp2
