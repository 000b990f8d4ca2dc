import Icmp2.Library.Watermark
import Mathlib.Logic.Function.Basic

/-
  Marked sources that write to windows.

  Main definitions include:
    * `Library.Feeds`
    * `Library.Feeds.channel`
    * `Library.Feeds.arrive`
    * `Library.Feeds.prepare`

  Main theorems include:
    * `Library.Feeds.channel_run_arrivals`
    * `Library.Feeds.increasing_iff`
    * `Library.Feeds.increasing_prepared_iff`

  A source has a mark and writes each time it accepts to
  its windows.  Times may also be written to a window
  without a mark, before the sources start.
-/

------------------------------------------------------------
-- Feeds
------------------------------------------------------------

namespace Library

variable {K W T : Type}

/- The marks of the sources and the times written, in order. -/
structure Feeds (K W T : Type) where
  mark : K → Option T
  log : List (W × T)

namespace Feeds

def initial : Feeds K W T where
  mark := fun _ => none
  log := []

variable [DecidableEq W]

/- The times of a window. -/
def times
    (feeds : Feeds K W T)
    (window : W) :
    List T :=
  (feeds.log.filter fun entry => entry.1 = window).map
    Prod.snd

/- A source and one of its windows. -/
def channel
    (feeds : Feeds K W T)
    (source : K)
    (window : W) :
    Watermark T where
  mark := feeds.mark source
  times := feeds.times window

variable [DecidableEq K]
variable [LinearOrder T]

/- A time that arrives at a source, unless it is marked. -/
def arrive
    (windowsOf : K → List W)
    (feeds : Feeds K W T)
    (arrival : K × T) :
    Feeds K W T :=
  if ∃ last ∈ feeds.mark arrival.1, arrival.2 ≤ last then
    feeds
  else
    { mark :=
        Function.update feeds.mark arrival.1
          (some arrival.2)
      log :=
        feeds.log ++
          (windowsOf arrival.1).map fun window =>
            (window, arrival.2) }

end Feeds

end Library

------------------------------------------------------------
-- Channels
------------------------------------------------------------

namespace Library

namespace Feeds

variable {K W T : Type}
variable [DecidableEq W]

theorem times_append
    (mark : K → Option T)
    (log more : List (W × T))
    (window : W) :
    (Feeds.mk mark (log ++ more)).times window =
      (Feeds.mk mark log).times window ++
        (Feeds.mk mark more).times window := by
  unfold times
  rw [List.filter_append, List.map_append]

/- What one time writes to a window. -/
theorem times_map
    (mark : K → Option T)
    {windows : List W}
    (hNodup : windows.Nodup)
    (time : T)
    (window : W) :
    (Feeds.mk mark
        (windows.map fun other => (other, time))).times
        window =
      if window ∈ windows then [time] else [] := by
  induction windows with
  | nil => rfl
  | cons other windows ih =>
      rw [List.nodup_cons] at hNodup
      have hRest := ih hNodup.2
      unfold times at hRest ⊢
      rw [List.map_cons, List.filter_cons]
      by_cases hSame : other = window
      · subst hSame
        rw [if_pos (decide_eq_true rfl), List.map_cons,
          hRest, if_neg hNodup.1,
          if_pos List.mem_cons_self]
      · rw [if_neg (by simpa using hSame), hRest]
        simp only [List.mem_cons, Ne.symm hSame, false_or]

variable [DecidableEq K] [LinearOrder T]
variable {windowsOf : K → List W}

/- An arrival passes the mark of its own source. -/
theorem channel_arrive_self
    (feeds : Feeds K W T)
    {source : K}
    {window : W}
    (hNodup : (windowsOf source).Nodup)
    (hOwn : window ∈ windowsOf source)
    (time : T) :
    (feeds.arrive windowsOf (source, time)).channel source
        window =
      (feeds.channel source window).accept time := by
  unfold arrive
  by_cases hMarked :
      ∃ last ∈ feeds.mark source, time ≤ last
  · rw [if_pos hMarked]
    exact (if_pos hMarked).symm
  · rw [if_neg hMarked]
    refine Eq.trans ?_ (if_neg hMarked).symm
    have hTimes :=
      times_map (Function.update feeds.mark source
        (some time)) hNodup time window
    rw [if_pos hOwn] at hTimes
    unfold channel
    rw [times_append, hTimes]
    simp only [Function.update_self]
    rfl

/- The other windows and marks do not see it. -/
theorem channel_arrive_of_ne
    (feeds : Feeds K W T)
    {source other : K}
    {window : W}
    (hNodup : (windowsOf other).Nodup)
    (hNe : source ≠ other)
    (hOwn : window ∉ windowsOf other)
    (time : T) :
    (feeds.arrive windowsOf (other, time)).channel source
        window =
      feeds.channel source window := by
  unfold arrive
  by_cases hMarked : ∃ last ∈ feeds.mark other, time ≤ last
  · rw [if_pos hMarked]
  · rw [if_neg hMarked]
    have hTimes :=
      times_map (Function.update feeds.mark other
        (some time)) hNodup time window
    rw [if_neg hOwn] at hTimes
    unfold channel
    rw [times_append, hTimes, List.append_nil]
    simp only [Function.update_of_ne hNe]
    rfl

/- Windows that belong to one source each. -/
structure Separate
    (windowsOf : K → List W) :
    Prop where
  nodup : ∀ source, (windowsOf source).Nodup
  disjoint :
    ∀ source other window,
      window ∈ windowsOf source →
        window ∈ windowsOf other → source = other

/- The times that arrive at one source. -/
def arrivalsAt
    (arrivals : List (K × T))
    (source : K) :
    List T :=
  (arrivals.filter fun arrival =>
    arrival.1 = source).map Prod.snd

/- A run of arrivals, as one window sees it. -/
theorem channel_run_arrivals
    (hSeparate : Separate windowsOf)
    {source : K}
    {window : W}
    (hOwn : window ∈ windowsOf source)
    (feeds : Feeds K W T)
    (arrivals : List (K × T)) :
    (run (arrive windowsOf) feeds arrivals).channel source
        window =
      run Watermark.accept (feeds.channel source window)
        (arrivalsAt arrivals source) := by
  induction arrivals generalizing feeds with
  | nil => rfl
  | cons arrival arrivals ih =>
      rcases arrival with ⟨other, time⟩
      rw [run_cons, ih]
      unfold arrivalsAt
      rw [List.filter_cons]
      by_cases hSame : other = source
      · subst hSame
        rw [if_pos (decide_eq_true rfl), List.map_cons,
          run_cons,
          channel_arrive_self feeds
            (hSeparate.nodup other) hOwn]
      · rw [if_neg (by simpa using hSame),
          channel_arrive_of_ne feeds
            (hSeparate.nodup other) (Ne.symm hSame)]
        exact fun hOther =>
          hSame
            (hSeparate.disjoint other source window hOther
              hOwn)

/-
  What was written before the arrivals decides with the
  first of them whether a window is in order in the end.
-/
theorem increasing_iff
    (hSeparate : Separate windowsOf)
    {source : K}
    {window : W}
    (hOwn : window ∈ windowsOf source)
    {feeds : Feeds K W T}
    (hMarked :
      ∀ last ∈ feeds.mark source,
        ∀ time ∈ feeds.times window, time ≤ last)
    (arrivals : List (K × T)) :
    ((run (arrive windowsOf) feeds arrivals).times
        window).Pairwise (· < ·) ↔
      (feeds.times window).Pairwise (· < ·) ∧
        (feeds.mark source = none →
          ∀ first ∈ (arrivalsAt arrivals source).head?,
            ∀ earlier ∈ feeds.times window,
              earlier < first) := by
  have hRun :=
    congrArg Watermark.times
      (channel_run_arrivals hSeparate hOwn feeds arrivals)
  change
    (run (arrive windowsOf) feeds arrivals).times window =
      _ at hRun
  rw [hRun]
  constructor
  · intro hPairwise
    have hStart :
        (feeds.times window).Pairwise (· < ·) :=
      hPairwise.sublist
        (Watermark.times_run_accept
          (feeds.channel source window)
          (arrivalsAt arrivals source)).sublist
    have hGuarded :
        (feeds.channel source window).Guarded :=
      ⟨hStart, hMarked⟩
    refine ⟨hStart, ?_⟩
    exact
      (Watermark.pairwise_run_accept_iff hGuarded _).mp
        hPairwise
  · rintro ⟨hStart, hFirst⟩
    exact
      (Watermark.pairwise_run_accept_iff
        ⟨hStart, hMarked⟩ _).mpr hFirst

end Feeds

end Library

------------------------------------------------------------
-- Preparation
------------------------------------------------------------

namespace Library

/- What is done before any time arrives. -/
inductive FeedOp (K W T : Type) where
  | write (window : W) (time : T)
  | setMark (source : K) (time : T)

namespace Feeds

variable {K W T : Type}
variable [DecidableEq K] [DecidableEq W]

def prepare
    (feeds : Feeds K W T) :
    FeedOp K W T → Feeds K W T
  | .write window time =>
      { feeds with log := feeds.log ++ [(window, time)] }
  | .setMark source time =>
      { feeds with
        mark :=
          Function.update feeds.mark source (some time) }

/- The time that an operation writes to a window. -/
def written?
    (window : W) :
    FeedOp K W T → Option T
  | .write other time =>
      if other = window then some time else none
  | .setMark _ _ => none

omit [DecidableEq K] in
theorem mem_filterMap_written?
    {ops : List (FeedOp K W T)}
    {window : W}
    {time : T} :
    time ∈ ops.filterMap (written? window) ↔
      .write window time ∈ ops := by
  rw [List.mem_filterMap]
  constructor
  · rintro ⟨op, hMem, hWritten⟩
    cases op with
    | write other written =>
        simp only [written?] at hWritten
        split_ifs at hWritten with hSame
        cases hWritten
        exact hSame ▸ hMem
    | setMark source marked => cases hWritten
  · intro hMem
    exact ⟨_, hMem, if_pos rfl⟩

theorem times_run_prepare
    (feeds : Feeds K W T)
    (ops : List (FeedOp K W T))
    (window : W) :
    (run prepare feeds ops).times window =
      feeds.times window ++
        ops.filterMap (written? window) := by
  induction ops generalizing feeds with
  | nil => exact (List.append_nil _).symm
  | cons op ops ih =>
      rw [run_cons, ih]
      cases op with
      | setMark source time => rfl
      | write other time =>
          rw [prepare, times_append, List.filterMap_cons]
          unfold times written?
          by_cases hSame : other = window
          · simp [hSame]
          · simp [hSame]

/- A mark was there before or is that of an operation. -/
omit [DecidableEq W] in
theorem mark_run_prepare
    (feeds : Feeds K W T)
    (ops : List (FeedOp K W T))
    (source : K) :
    (∀ time, (run prepare feeds ops).mark source =
        some time →
      feeds.mark source = some time ∨
        .setMark source time ∈ ops) ∧
    ((run prepare feeds ops).mark source = none ↔
      feeds.mark source = none ∧
        ∀ time, .setMark source time ∉ ops) := by
  induction ops generalizing feeds with
  | nil => simp
  | cons op ops ih =>
      rcases ih (feeds.prepare op) with ⟨hSome, hNone⟩
      rw [run_cons]
      cases op with
      | write window time =>
          constructor
          · intro last hLast
            rcases hSome last hLast with hOld | hMem
            · exact Or.inl hOld
            · exact Or.inr (List.mem_cons_of_mem _ hMem)
          · rw [hNone]
            simp [prepare]
      | setMark other time =>
          by_cases hSame : source = other
          · subst hSame
            constructor
            · intro last hLast
              right
              rcases hSome last hLast with hOld | hMem
              · simp only [prepare, Function.update_self,
                  Option.some.injEq] at hOld
                rw [hOld]
                exact List.mem_cons_self
              · exact List.mem_cons_of_mem _ hMem
            · rw [hNone]
              refine iff_of_false ?_ ?_
              · rintro ⟨hStart, _⟩
                simp [prepare] at hStart
              · rintro ⟨_, hUnmarked⟩
                exact hUnmarked time List.mem_cons_self
          · have hMark :
                (feeds.prepare (.setMark other time)).mark
                    source =
                  feeds.mark source :=
              Function.update_of_ne hSame ..
            rw [hMark] at hSome hNone
            constructor
            · intro last hLast
              rcases hSome last hLast with hOld | hMem
              · exact Or.inl hOld
              · exact Or.inr (List.mem_cons_of_mem _ hMem)
            · rw [hNone]
              simp [hSame]

variable [LinearOrder T]
variable {windowsOf : K → List W}

/-
  A window is in order in the end exactly if it was before
  the arrivals and no source that was not marked begins
  with a time that is not later.
-/
theorem increasing_prepared_iff
    (hSeparate : Separate windowsOf)
    {source : K}
    {window : W}
    (hOwn : window ∈ windowsOf source)
    {ops : List (FeedOp K W T)}
    (hMarked :
      ∀ last, .setMark source last ∈ ops →
        ∀ time, .write window time ∈ ops → time ≤ last)
    (arrivals : List (K × T)) :
    ((run (arrive windowsOf) (run prepare initial ops)
        arrivals).times window).Pairwise (· < ·) ↔
      (ops.filterMap (written? window)).Pairwise (· < ·) ∧
        ((∀ last, .setMark source last ∉ ops) →
          ∀ first ∈ (arrivalsAt arrivals source).head?,
            ∀ earlier, .write window earlier ∈ ops →
              earlier < first) := by
  have hTimes := times_run_prepare initial ops window
  rw [show (initial : Feeds K W T).times window = [] from
    rfl, List.nil_append] at hTimes
  rcases mark_run_prepare initial ops source with
    ⟨hSome, hNone⟩
  have hLate :
      ∀ last ∈ (run prepare initial ops).mark source,
        ∀ time ∈ (run prepare initial ops).times window,
          time ≤ last := by
    intro last hLast time hTime
    rcases hSome last hLast with hStart | hMem
    · cases hStart
    · rw [hTimes, mem_filterMap_written?] at hTime
      exact hMarked last hMem time hTime
  rw [increasing_iff hSeparate hOwn hLate arrivals, hNone,
    and_iff_right (show initial.mark source = none from rfl),
    hTimes]
  simp only [mem_filterMap_written?]

end Feeds

end Library
