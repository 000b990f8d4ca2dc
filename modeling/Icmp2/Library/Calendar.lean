import Mathlib.Data.List.Iterate
import Mathlib.Data.List.Sort

/-
  Months and days of the Gregorian calendar.

  Main definitions include:
    * `Library.Month`
    * `Library.Month.monthsTo`
    * `Library.Month.monthCalendar`
    * `Library.Date`
    * `Library.Date.daysTo`

  Main theorems include:
    * `Library.mem_iterate_iff`
    * `Library.Month.monthsTo_eq`
    * `Library.Date.ordinal_next`
    * `Library.Date.daysTo_eq`
    * `Library.Date.filter_days_monthsTo`
    * `Library.Month.weekday_of_monthCalendar`

  Days are counted month by month.  The loop over the days
  of an interval and the loop over its months visit the same
  days, in the same order.
-/

------------------------------------------------------------
-- Successors
------------------------------------------------------------

namespace Library

variable {A : Type}
variable {rank : A → Nat}
variable {next : A → A}

theorem rank_iterate
    (hNext : ∀ a, rank (next a) = rank a + 1)
    (a : A)
    (n : Nat) :
    rank (next^[n] a) = rank a + n := by
  induction n generalizing a with
  | zero => rfl
  | succ n ih =>
      rw [Function.iterate_succ_apply, ih, hNext]
      omega

/- A loop over successors visits an interval of ranks. -/
theorem mem_iterate_iff
    (hNext : ∀ a, rank (next a) = rank a + 1)
    (hInj : Function.Injective rank)
    {a b : A}
    {n : Nat} :
    b ∈ List.iterate next a n ↔
      rank a ≤ rank b ∧ rank b < rank a + n := by
  rw [List.mem_iterate]
  constructor
  · rintro ⟨i, hLt, rfl⟩
    rw [rank_iterate hNext]
    omega
  · rintro ⟨hLe, hLt⟩
    refine ⟨rank b - rank a, by omega, ?_⟩
    apply hInj
    rw [rank_iterate hNext]
    omega

theorem pairwise_iterate
    (hNext : ∀ a, rank (next a) = rank a + 1)
    (a : A)
    (n : Nat) :
    (List.iterate next a n).Pairwise
      fun left right => rank left < rank right := by
  induction n generalizing a with
  | zero => exact List.Pairwise.nil
  | succ n ih =>
      rw [List.iterate, List.pairwise_cons]
      refine ⟨?_, ih (next a)⟩
      intro b hMem
      rcases List.mem_iterate.mp hMem with ⟨i, _, rfl⟩
      rw [rank_iterate hNext, hNext]
      omega

end Library

------------------------------------------------------------
-- Months
------------------------------------------------------------

namespace Library

structure Month where
  year : Nat
  month : Nat
  one_le : 1 ≤ month
  le_twelve : month ≤ 12
  deriving DecidableEq

namespace Month

def isLeap
    (year : Nat) :
    Bool :=
  year % 4 = 0 ∧ (year % 100 ≠ 0 ∨ year % 400 = 0)

/- How many days a month has. -/
def length
    (month : Month) :
    Nat :=
  if month.month = 2 then
    if isLeap month.year then 29 else 28
  else if month.month ∈ [4, 6, 9, 11] then
    30
  else
    31

/- The months before this one, from the year 0 on. -/
def index
    (month : Month) :
    Nat :=
  12 * month.year + (month.month - 1)

def ofIndex
    (index : Nat) :
    Month where
  year := index / 12
  month := index % 12 + 1
  one_le := Nat.le_add_left 1 _
  le_twelve := Nat.mod_lt index (by decide)

def next
    (month : Month) :
    Month :=
  if hLast : month.month + 1 > 12 then
    { year := month.year + 1
      month := 1
      one_le := Nat.le_add_left 1 0
      le_twelve := by decide }
  else
    { year := month.year
      month := month.month + 1
      one_le := Nat.le_add_left 1 month.month
      le_twelve := Nat.le_of_not_gt hLast }

/- `(year, month) <= (year, month)`. -/
def NotAfter
    (left right : Month) :
    Prop :=
  left.year < right.year ∨
    left.year = right.year ∧ left.month ≤ right.month

instance
    (left right : Month) :
    Decidable (left.NotAfter right) := by
  unfold NotAfter
  infer_instance

theorem one_le_length
    (month : Month) :
    1 ≤ month.length := by
  unfold length
  split_ifs <;> omega

theorem index_next
    (month : Month) :
    month.next.index = month.index + 1 := by
  have hOne := month.one_le
  have hTwelve := month.le_twelve
  unfold next index
  split
  · simp only
    omega
  · simp only
    omega

theorem ofIndex_index
    (month : Month) :
    ofIndex month.index = month := by
  rcases month with ⟨year, month, hOne, hTwelve⟩
  simp only [index, ofIndex, mk.injEq]
  omega

theorem index_injective :
    Function.Injective index := by
  intro left right hIndex
  rw [← ofIndex_index left, hIndex, ofIndex_index]

theorem notAfter_iff
    {left right : Month} :
    left.NotAfter right ↔ left.index ≤ right.index := by
  have hOne := left.one_le
  have hTwelve := left.le_twelve
  have hOne' := right.one_le
  have hTwelve' := right.le_twelve
  unfold NotAfter index
  omega

/- The months up to `stop`, by a loop. -/
def monthsTo
    (stop current : Month) :
    List Month :=
  if current.NotAfter stop then
    current :: monthsTo stop current.next
  else
    []
termination_by stop.index + 1 - current.index
decreasing_by
  rename_i hNotAfter
  rw [notAfter_iff] at hNotAfter
  rw [index_next]
  omega

theorem monthsTo_eq
    (stop current : Month) :
    monthsTo stop current =
      List.iterate next current
        (stop.index + 1 - current.index) := by
  fun_induction monthsTo stop current with
  | case1 current hNotAfter ih =>
      rw [notAfter_iff] at hNotAfter
      rw [ih, index_next]
      have hCount :
          stop.index + 1 - current.index =
            stop.index + 1 - (current.index + 1) + 1 := by
        omega
      rw [hCount, List.iterate]
  | case2 current hAfter =>
      rw [notAfter_iff] at hAfter
      have hCount :
          stop.index + 1 - current.index = 0 := by
        omega
      rw [hCount, List.iterate]

theorem mem_monthsTo_iff
    {stop current month : Month} :
    month ∈ monthsTo stop current ↔
      current.index ≤ month.index ∧
        month.index ≤ stop.index := by
  rw [monthsTo_eq,
    mem_iterate_iff index_next index_injective]
  omega

end Month

end Library

------------------------------------------------------------
-- Days
------------------------------------------------------------

namespace Library

/- The days of the months with a smaller index. -/
def Month.daysUntil : Nat → Nat
  | 0 => 0
  | index + 1 =>
      daysUntil index + (Month.ofIndex index).length

theorem Month.daysUntil_next
    (month : Month) :
    daysUntil month.next.index =
      daysUntil month.index + month.length := by
  rw [Month.index_next, daysUntil, Month.ofIndex_index]

theorem Month.daysUntil_mono :
    Monotone daysUntil :=
  monotone_nat_of_le_succ fun _ => Nat.le_add_right _ _

/- A day of a month. -/
structure Date where
  inMonth : Month
  day : Nat
  one_le : 1 ≤ day
  le_length : day ≤ inMonth.length
  deriving DecidableEq

namespace Date

/- The days up to this one, from the year 0 on. -/
def ordinal
    (date : Date) :
    Nat :=
  Month.daysUntil date.inMonth.index + date.day

/- `weekday()`, from Monday on. -/
def weekday
    (date : Date) :
    Nat :=
  (date.ordinal + 4) % 7

/- The day after. -/
def next
    (date : Date) :
    Date :=
  if hLast : date.day = date.inMonth.length then
    { inMonth := date.inMonth.next
      day := 1
      one_le := Nat.le_add_left 1 0
      le_length := Month.one_le_length _ }
  else
    { inMonth := date.inMonth
      day := date.day + 1
      one_le := Nat.le_add_left 1 date.day
      le_length :=
        Nat.lt_of_le_of_ne date.le_length hLast }

/- `date <= date`. -/
def NotAfter
    (left right : Date) :
    Prop :=
  left.inMonth.index < right.inMonth.index ∨
    left.inMonth = right.inMonth ∧ left.day ≤ right.day

instance
    (left right : Date) :
    Decidable (left.NotAfter right) := by
  unfold NotAfter
  infer_instance

theorem ordinal_next
    (date : Date) :
    date.next.ordinal = date.ordinal + 1 := by
  unfold next ordinal
  split
  · rename_i hLast
    simp only [Month.daysUntil_next, hLast]
  · simp only [Nat.add_assoc]

/- A day in an earlier month is earlier. -/
theorem ordinal_lt
    {left right : Date}
    (hIndex : left.inMonth.index < right.inMonth.index) :
    left.ordinal < right.ordinal := by
  have hMonth := Month.daysUntil_mono hIndex
  rw [Nat.succ_eq_add_one, ← Month.index_next,
    Month.daysUntil_next] at hMonth
  have hLeft := left.le_length
  have hRight := right.one_le
  unfold ordinal
  omega

theorem ordinal_injective :
    Function.Injective ordinal := by
  intro left right hOrdinal
  have hIndex : left.inMonth.index = right.inMonth.index := by
    rcases Nat.lt_trichotomy left.inMonth.index
      right.inMonth.index with hLt | hEq | hGt
    · exact absurd hOrdinal (ordinal_lt hLt).ne
    · exact hEq
    · exact absurd hOrdinal (ordinal_lt hGt).ne'
  have hMonth := Month.index_injective hIndex
  unfold ordinal at hOrdinal
  rw [hIndex] at hOrdinal
  rcases left with ⟨month, day, _, _⟩
  rcases right with ⟨month', day', _, _⟩
  simp only [mk.injEq]
  exact ⟨hMonth, Nat.add_left_cancel hOrdinal⟩

theorem notAfter_iff
    {left right : Date} :
    left.NotAfter right ↔ left.ordinal ≤ right.ordinal := by
  unfold NotAfter
  rcases Nat.lt_trichotomy left.inMonth.index
    right.inMonth.index with hLt | hEq | hGt
  · exact iff_of_true (Or.inl hLt) (ordinal_lt hLt).le
  · have hMonth := Month.index_injective hEq
    unfold ordinal
    rw [hMonth]
    simp
  · refine
      iff_of_false ?_ (Nat.not_le.mpr (ordinal_lt hGt))
    rintro (hLt | ⟨hMonth, _⟩)
    · exact absurd hLt (Nat.lt_asymm hGt)
    · exact absurd (congrArg Month.index hMonth) hGt.ne'

/-
  The days up to `stop`, by a loop.  After the last day of
  the year 9999 the date overflows.
-/
def daysTo
    (stop current : Date) :
    Option (List Date) :=
  if current.NotAfter stop then
    if current.next.inMonth.year ≤ 9999 then
      (daysTo stop current.next).map fun days =>
        current :: days
    else
      none
  else
    some []
termination_by stop.ordinal + 1 - current.ordinal
decreasing_by
  rename_i hNotAfter _
  rw [notAfter_iff] at hNotAfter
  rw [ordinal_next]
  omega

/- The days of an interval. -/
def interval
    (start stop : Date) :
    List Date :=
  List.iterate next start
    (stop.ordinal + 1 - start.ordinal)

theorem mem_interval_iff
    {start stop date : Date} :
    date ∈ interval start stop ↔
      start.ordinal ≤ date.ordinal ∧
        date.ordinal ≤ stop.ordinal := by
  unfold interval
  rw [mem_iterate_iff ordinal_next ordinal_injective]
  omega

theorem year_le
    {left right : Date}
    (hLe : left.ordinal ≤ right.ordinal) :
    left.inMonth.year ≤ right.inMonth.year := by
  have hIndex : left.inMonth.index ≤ right.inMonth.index := by
    by_contra hGt
    exact
      absurd hLe
        (Nat.not_le.mpr (ordinal_lt (Nat.not_le.mp hGt)))
  have hOne := left.inMonth.one_le
  have hTwelve := right.inMonth.le_twelve
  unfold Month.index at hIndex
  omega

/- The loop visits the interval, unless it overflows. -/
theorem daysTo_eq
    (stop current : Date) :
    daysTo stop current =
      if current.NotAfter stop ∧
          9999 < stop.next.inMonth.year then
        none
      else
        some (interval current stop) := by
  fun_induction daysTo stop current with
  | case1 current hNotAfter hYear ih =>
      have hLe := notAfter_iff.mp hNotAfter
      have hCount :
          stop.ordinal + 1 - current.ordinal =
            stop.ordinal + 1 - (current.ordinal + 1) + 1 := by
        omega
      have hInterval :
          interval current stop =
            current :: interval current.next stop := by
        unfold interval
        rw [hCount, List.iterate, ordinal_next]
      rw [ih, hInterval]
      by_cases hLast : 9999 < stop.next.inMonth.year
      · have hNe : current.ordinal ≠ stop.ordinal := by
          intro hSame
          rw [ordinal_injective hSame] at hYear
          omega
        have hNext : current.next.NotAfter stop := by
          rw [notAfter_iff, ordinal_next]
          omega
        rw [if_pos ⟨hNext, hLast⟩,
          if_pos ⟨hNotAfter, hLast⟩]
        rfl
      · rw [if_neg fun hBoth => hLast hBoth.2,
          if_neg fun hBoth => hLast hBoth.2]
        rfl
  | case2 current hNotAfter hYear =>
      have hLe := notAfter_iff.mp hNotAfter
      have hNext : current.next.ordinal ≤ stop.next.ordinal := by
        rw [ordinal_next, ordinal_next]
        omega
      rw [if_pos]
      exact
        ⟨hNotAfter,
          (Nat.not_le.mp hYear).trans_le (year_le hNext)⟩
  | case3 current hAfter =>
      rw [if_neg fun hBoth => hAfter hBoth.1]
      rw [notAfter_iff] at hAfter
      have hCount :
          stop.ordinal + 1 - current.ordinal = 0 := by
        omega
      rw [interval, hCount, List.iterate]

end Date

end Library

------------------------------------------------------------
-- The Days of a Month
------------------------------------------------------------

namespace Library

namespace Date

/- `date(year, month, day)`; none where it raises. -/
def date?
    (month : Month)
    (day : Nat) :
    Option Date :=
  if hDay : 1 ≤ day ∧ day ≤ month.length then
    some
      { inMonth := month
        day := day
        one_le := hDay.1
        le_length := hDay.2 }
  else
    none

theorem date?_eq_some_iff
    {month : Month}
    {day : Nat}
    {date : Date} :
    date? month day = some date ↔
      date.inMonth = month ∧ date.day = day := by
  unfold date?
  split
  · rename_i hDay
    rw [Option.some.injEq]
    constructor
    · rintro rfl
      exact ⟨rfl, rfl⟩
    · rintro ⟨rfl, rfl⟩
      rfl
  · rename_i hDay
    refine iff_of_false (fun hSome => nomatch hSome) ?_
    rintro ⟨rfl, rfl⟩
    exact hDay ⟨date.one_le, date.le_length⟩

/- The days of a month, in order. -/
def daysOf
    (month : Month) :
    List Date :=
  (List.range' 1 month.length).filterMap (date? month)

theorem mem_daysOf_iff
    {month : Month}
    {date : Date} :
    date ∈ daysOf month ↔ date.inMonth = month := by
  unfold daysOf
  rw [List.mem_filterMap]
  constructor
  · rintro ⟨day, _, hDate⟩
    exact (date?_eq_some_iff.mp hDate).1
  · rintro rfl
    refine
      ⟨date.day, ?_, date?_eq_some_iff.mpr ⟨rfl, rfl⟩⟩
    rw [List.mem_range'_1]
    have hOne := date.one_le
    have hLength := date.le_length
    omega

theorem pairwise_daysOf
    (month : Month) :
    (daysOf month).Pairwise fun left right =>
      left.ordinal < right.ordinal := by
  unfold daysOf
  refine
    List.Pairwise.filterMap (date? month) ?_
      (List.pairwise_lt_range' (s := 1) (n := month.length))
  intro day day' hLt date hDate date' hDate'
  rcases date?_eq_some_iff.mp hDate with ⟨hMonth, rfl⟩
  rcases date?_eq_some_iff.mp hDate' with ⟨hMonth', rfl⟩
  unfold ordinal
  rw [hMonth, hMonth']
  omega

/- The months of an interval have its days. -/
theorem filter_days_monthsTo
    (start stop : Date) :
    ((Month.monthsTo stop.inMonth start.inMonth).flatMap
        daysOf).filter
        (fun date =>
          start.NotAfter date ∧ date.NotAfter stop) =
      interval start stop := by
  have hMonths :
      ((Month.monthsTo stop.inMonth start.inMonth).flatMap
        daysOf).Pairwise fun left right =>
          left.ordinal < right.ordinal := by
    rw [List.pairwise_flatMap]
    refine ⟨fun month _ => pairwise_daysOf month, ?_⟩
    rw [Month.monthsTo_eq]
    refine (pairwise_iterate Month.index_next _ _).imp ?_
    intro month month' hLt date hDate date' hDate'
    rw [mem_daysOf_iff] at hDate hDate'
    subst hDate hDate'
    exact ordinal_lt hLt
  have hInterval :=
    pairwise_iterate ordinal_next start
      (stop.ordinal + 1 - start.ordinal)
  have hIrrefl :
      Std.Irrefl fun left right : Date =>
        left.ordinal < right.ordinal :=
    ⟨fun date => Nat.lt_irrefl date.ordinal⟩
  refine
    List.Pairwise.eq_of_mem_iff (hMonths.filter _)
      hInterval ?_
  intro date
  rw [mem_interval_iff, List.mem_filter, List.mem_flatMap]
  simp only [decide_eq_true_eq, notAfter_iff]
  rw [and_iff_right_iff_imp]
  rintro ⟨hStart, hStop⟩
  refine
    ⟨date.inMonth, ?_, mem_daysOf_iff.mpr rfl⟩
  rw [Month.mem_monthsTo_iff]
  constructor
  · by_contra hLt
    exact
      absurd hStart
        (Nat.not_le.mpr (ordinal_lt (Nat.not_le.mp hLt)))
  · by_contra hLt
    exact
      absurd hStop
        (Nat.not_le.mpr (ordinal_lt (Nat.not_le.mp hLt)))

end Date

end Library

------------------------------------------------------------
-- Weeks
------------------------------------------------------------

namespace Library

/- The pieces of seven of a list. -/
def weeksOf
    {A : Type}
    (days : List A) :
    List (List A) :=
  (List.range ((days.length + 6) / 7)).map fun week =>
    (days.drop (7 * week)).take 7

theorem flatten_weeksOf
    {A : Type}
    (days : List A) :
    (weeksOf days).flatten = days := by
  have hFirst (n : Nat) :
      ((List.range n).map fun week =>
          (days.drop (7 * week)).take 7).flatten =
        days.take (7 * n) := by
    induction n with
    | zero => simp
    | succ n ih =>
        rw [List.range_succ, List.map_append,
          List.flatten_append, ih, Nat.mul_succ,
          List.take_add]
        simp
  rw [weeksOf, hFirst, List.take_of_length_le]
  omega

namespace Month

open Date

/- `monthrange(year, month)[0]`. -/
def firstWeekday
    (month : Month) :
    Nat :=
  (daysUntil month.index + 1 + 4) % 7

/- `itermonthdays`: zeros fill the first and last week. -/
def monthDays
    (month : Month) :
    List Nat :=
  List.replicate month.firstWeekday 0 ++
    List.range' 1 month.length ++
      List.replicate
        ((7 - (month.firstWeekday + month.length) % 7) % 7)
        0

/- `monthcalendar`. -/
def monthCalendar
    (month : Month) :
    List (List Nat) :=
  weeksOf month.monthDays

theorem filterMap_monthDays
    (month : Month) :
    month.monthDays.filterMap (date? month) =
      daysOf month := by
  have hZeros (n : Nat) :
      (List.replicate n 0).filterMap (date? month) = [] := by
    rw [List.filterMap_eq_nil_iff]
    intro day hDay
    rw [List.eq_of_mem_replicate hDay]
    exact dif_neg (by omega)
  unfold monthDays
  rw [List.filterMap_append, List.filterMap_append, hZeros,
    hZeros, List.nil_append, List.append_nil]
  rfl

theorem seven_dvd_length_monthDays
    (month : Month) :
    7 ∣ month.monthDays.length := by
  unfold monthDays
  simp only [List.length_append, List.length_replicate,
    List.length_range']
  omega

/- A day stands at its place behind the first weekday. -/
theorem getElem?_monthDays
    {month : Month}
    {place day : Nat}
    (hDay : month.monthDays[place]? = some day)
    (hOne : 1 ≤ day) :
    place + 1 = month.firstWeekday + day := by
  unfold monthDays at hDay
  rcases Nat.lt_or_ge place month.firstWeekday with
    hBefore | hFrom
  · rw [List.append_assoc, List.getElem?_append_left
      (by simpa using hBefore),
      List.getElem?_replicate_of_lt hBefore] at hDay
    have hZero := Option.some.inj hDay
    omega
  · rw [List.append_assoc, List.getElem?_append_right
      (by simpa using hFrom)] at hDay
    rw [List.length_replicate] at hDay
    rcases Nat.lt_or_ge (place - month.firstWeekday)
      month.length with hInside | hBehind
    · rw [List.getElem?_append_left (by simpa using hInside),
        List.getElem?_range' hInside] at hDay
      have hSame := Option.some.inj hDay
      omega
    · rw [List.getElem?_append_right
        (by simpa using hBehind)] at hDay
      have hZero :=
        List.eq_of_mem_replicate
          (List.mem_of_getElem? hDay)
      omega

/-
  The weeks of a calendar have seven columns, and every day
  stands in the column of its weekday.
-/
theorem weekday_of_monthCalendar
    {month : Month}
    {week : List Nat}
    (hWeek : week ∈ month.monthCalendar) :
    week.length = 7 ∧
      ∀ (column : Nat) (date : Date),
        date.inMonth = month →
          week[column]? = some date.day →
            date.weekday = column := by
  have hSeven := seven_dvd_length_monthDays month
  unfold monthCalendar weeksOf at hWeek
  rcases List.mem_map.mp hWeek with ⟨n, hMem, rfl⟩
  rw [List.mem_range] at hMem
  have hLength :
      ((month.monthDays.drop (7 * n)).take 7).length = 7 := by
    rw [List.length_take, List.length_drop]
    omega
  refine ⟨hLength, ?_⟩
  intro column date hMonth hDay
  have hColumn : column < 7 := by
    rcases List.getElem?_eq_some_iff.mp hDay with ⟨hLt, _⟩
    omega
  rw [List.getElem?_take_of_lt hColumn, List.getElem?_drop]
    at hDay
  have hPlace := getElem?_monthDays hDay date.one_le
  unfold weekday ordinal
  rw [hMonth]
  unfold firstWeekday at hPlace
  omega

end Month

end Library
