import Icmp2.Library.Trace
import Mathlib.Data.Finset.Card
import Mathlib.Data.Finset.Dedup

/-
  The daily safety checklist of a worker.

  Main definitions include:
    * `Icmp2.Safety.submitChecklist`
    * `Icmp2.Safety.vrComplete`
    * `Icmp2.Safety.ChecklistRun.Means`
    * `Icmp2.Safety.Matches`

  Main theorems include:
    * `Icmp2.Safety.card_eq_iff`
    * `Icmp2.Safety.means_step_iff`
    * `Icmp2.Safety.checklist_means_iff`

  The checklist is taken for complete if as many different
  items were submitted as there are active ones; what is
  stored is which of the active items were submitted.
-/

------------------------------------------------------------
-- Sessions
------------------------------------------------------------

namespace Icmp2

namespace Safety

open Library

/- The keys of the active items, as a query returns them. -/
structure ActiveItems where
  ids : List Int
  nodup : ids.Nodup

structure ItemResult where
  item : Int
  isChecked : Bool
  deriving DecidableEq, Repr

/- The session of a worker and a day, with its results. -/
structure CheckSession where
  checklistCompleted : Bool
  vrCompleted : Bool
  results : List ItemResult
  deriving DecidableEq, Repr

/- A session that was just created. -/
def CheckSession.blank : CheckSession where
  checklistCompleted := false
  vrCompleted := false
  results := []

inductive CheckError where
  | alreadyCompleted (error : String)
  | valueError
  | integrityError
  deriving DecidableEq, Repr

/- `set(map(int, request.POST.getlist("checked_items")))`. -/
def checkedIds
    (readInt : String → Option Int)
    (checkedItems : List String) :
    Option (Finset Int) :=
  (checkedItems.mapM readInt).map List.toFinset

/- The session that is there, or a new one. -/
def getSession
    (hasFacility : Bool) :
    Option CheckSession →
    Except CheckError CheckSession
  | some session => .ok session
  | none =>
      if hasFacility then .ok CheckSession.blank
      else .error .integrityError

/- The results and the flag that a submission stores. -/
def CheckSession.answer
    (session : CheckSession)
    (items : ActiveItems)
    (checked : Finset Int) :
    CheckSession :=
  { session with
    checklistCompleted := checked.card = items.ids.length
    results :=
      items.ids.map fun item =>
        ⟨item, decide (item ∈ checked)⟩ }

/- `submit_checklist`. -/
def submitChecklist
    (readInt : String → Option Int)
    (hasFacility : Bool)
    (session : Option CheckSession)
    (items : ActiveItems)
    (checkedItems : List String) :
    Except CheckError CheckSession :=
  if session.any CheckSession.checklistCompleted then
    .error
      (.alreadyCompleted "이미 오늘 체크리스트를 완료하였습니다.")
  else
    match checkedIds readInt checkedItems with
    | none => .error .valueError
    | some checked =>
        match getSession hasFacility session with
        | .error error => .error error
        | .ok held => .ok (held.answer items checked)

/- `vr_complete`; without a checklist it redirects. -/
def vrComplete
    (session : Option CheckSession) :
    Option CheckSession :=
  session.map fun held =>
    if held.checklistCompleted then
      { held with vrCompleted := true }
    else
      held

/- A request, with the items that are active at the time. -/
inductive CheckRequest where
  | submitChecklist
      (items : ActiveItems)
      (checkedItems : List String)
  | vrComplete

/-
  The session of the day, and the items that were active at
  the last accepted submission.
-/
structure ChecklistRun where
  session : Option CheckSession
  asked : List Int
  deriving DecidableEq, Repr

def ChecklistRun.start : ChecklistRun where
  session := none
  asked := []

def checkStep
    (readInt : String → Option Int)
    (hasFacility : Bool)
    (state : ChecklistRun) :
    CheckRequest →
    ChecklistRun
  | .submitChecklist items checkedItems =>
      match
          submitChecklist readInt hasFacility state.session
            items checkedItems with
      | .error _ => state
      | .ok session => ⟨some session, items.ids⟩
  | .vrComplete =>
      { state with session := vrComplete state.session }

end Safety

end Icmp2

------------------------------------------------------------
-- Completion
------------------------------------------------------------

namespace Icmp2

namespace Safety

open Library

/- The item has a result that says it was checked. -/
def CheckSession.Checked
    (session : CheckSession)
    (item : Int) :
    Prop :=
  ⟨item, true⟩ ∈ session.results

instance
    (session : CheckSession)
    (item : Int) :
    Decidable (session.Checked item) := by
  unfold CheckSession.Checked
  infer_instance

/- What a completed checklist is meant to say. -/
structure ChecklistRun.Means
    (state : ChecklistRun) :
    Prop where
  completed :
    ∀ session ∈ state.session,
      session.checklistCompleted = true ↔
        ∀ item ∈ state.asked, session.Checked item
  vr :
    ∀ session ∈ state.session,
      session.vrCompleted = true →
        session.checklistCompleted = true

/-
  With all active items no others are submitted; and where
  active items are left out, they are not replaced by just
  as many others.
-/
structure ActiveItems.Matches
    (items : ActiveItems)
    (checked : Finset Int) :
    Prop where
  whole :
    items.ids.toFinset ⊆ checked →
      checked ⊆ items.ids.toFinset
  partly :
    ¬items.ids.toFinset ⊆ checked →
      (checked \ items.ids.toFinset).card ≠
        (items.ids.toFinset \ checked).card

/- The accepted submissions match the active items. -/
def Matches
    (readInt : String → Option Int)
    (hasFacility : Bool)
    (state : ChecklistRun) :
    CheckRequest →
    Prop
  | .submitChecklist items checkedItems =>
      (∀ session ∈ state.session,
        session.checklistCompleted = false) →
      (state.session = none → hasFacility = true) →
      ∀ checked ∈ checkedIds readInt checkedItems,
        items.Matches checked
  | .vrComplete => True

theorem card_toFinset
    (items : ActiveItems) :
    items.ids.toFinset.card = items.ids.length :=
  List.toFinset_card_of_nodup items.nodup

/- Equal numbers, by what is on one side only. -/
theorem card_eq_iff
    (items : ActiveItems)
    (checked : Finset Int) :
    checked.card = items.ids.length ↔
      (checked \ items.ids.toFinset).card =
        (items.ids.toFinset \ checked).card := by
  rw [← card_toFinset]
  exact Finset.card_sdiff_eq_card_sdiff_iff.symm

/- The active items that a submission checks. -/
theorem checked_answer_iff
    {session : CheckSession}
    {items : ActiveItems}
    {checked : Finset Int}
    {item : Int}
    (hItem : item ∈ items.ids) :
    (session.answer items checked).Checked item ↔
      item ∈ checked := by
  unfold CheckSession.Checked CheckSession.answer
  constructor
  · intro hMem
    rcases List.mem_map.mp hMem with ⟨other, _, hSame⟩
    rcases ItemResult.mk.inj hSame with ⟨hOther, hChecked⟩
    rw [← hOther]
    exact of_decide_eq_true hChecked
  · intro hChecked
    refine List.mem_map.mpr ⟨item, hItem, ?_⟩
    rw [decide_eq_true hChecked]

/- A submission counts what it stores if it matches. -/
theorem counts_iff
    (items : ActiveItems)
    (checked : Finset Int) :
    (checked.card = items.ids.length ↔
        ∀ item ∈ items.ids, item ∈ checked) ↔
      items.Matches checked := by
  have hAll :
      (∀ item ∈ items.ids, item ∈ checked) ↔
        items.ids.toFinset ⊆ checked := by
    simp only [Finset.subset_iff, List.mem_toFinset]
  rw [hAll, card_eq_iff]
  constructor
  · intro hIff
    constructor
    · intro hWhole
      have hNone :
          items.ids.toFinset \ checked = ∅ :=
        Finset.sdiff_eq_empty_iff_subset.mpr hWhole
      have hCards := hIff.mpr hWhole
      rw [hNone, Finset.card_empty,
        Finset.card_eq_zero] at hCards
      exact Finset.sdiff_eq_empty_iff_subset.mp hCards
    · intro hPart hCards
      exact hPart (hIff.mp hCards)
  · rintro ⟨hWhole, hPartly⟩
    constructor
    · intro hCards
      by_contra hPart
      exact hPartly hPart hCards
    · intro hSubset
      rw [Finset.sdiff_eq_empty_iff_subset.mpr hSubset,
        Finset.sdiff_eq_empty_iff_subset.mpr
          (hWhole hSubset)]

/- What an accepted submission leaves, if VR was not done. -/
theorem means_answer_iff
    {session : CheckSession}
    (hNoVr : session.vrCompleted = false)
    (items : ActiveItems)
    (checked : Finset Int) :
    ChecklistRun.Means
        ⟨some (session.answer items checked), items.ids⟩ ↔
      items.Matches checked := by
  have hFlag :
      (session.answer items checked).checklistCompleted =
          true ↔
        checked.card = items.ids.length :=
    decide_eq_true_iff
  have hItems :
      (∀ item ∈ items.ids,
          (session.answer items checked).Checked item) ↔
        ∀ item ∈ items.ids, item ∈ checked :=
    forall₂_congr fun _ hItem => checked_answer_iff hItem
  rw [← counts_iff, ← hFlag, ← hItems]
  constructor
  · intro hMeans
    exact hMeans.completed _ rfl
  · intro hIff
    constructor
    · intro other hOther
      cases hOther
      exact hIff
    · intro other hOther hVr
      cases hOther
      rw [CheckSession.answer, hNoVr] at hVr
      cases hVr

/- What a completed session is left with, it stays with. -/
theorem vrComplete_means
    {state : ChecklistRun}
    (hMeans : state.Means) :
    ChecklistRun.Means
      { state with session := vrComplete state.session } := by
  have hHeld : ∀ session ∈ vrComplete state.session,
      ∃ held ∈ state.session,
        session.checklistCompleted =
            held.checklistCompleted ∧
          session.results = held.results ∧
            (session.vrCompleted = true →
              held.checklistCompleted = true ∨
                held.vrCompleted = true) := by
    intro session hSession
    rcases Option.map_eq_some_iff.mp hSession with
      ⟨held, hMem, rfl⟩
    refine ⟨held, hMem, ?_⟩
    split
    · rename_i hDone
      exact ⟨rfl, rfl, fun _ => Or.inl hDone⟩
    · exact ⟨rfl, rfl, Or.inr⟩
  constructor
  · intro session hSession
    rcases hHeld session hSession with
      ⟨held, hMem, hFlag, hResults, -⟩
    unfold CheckSession.Checked
    rw [hFlag, hResults]
    exact hMeans.completed held hMem
  · intro session hSession hVr
    rcases hHeld session hSession with
      ⟨held, hMem, hFlag, -, hCause⟩
    rw [hFlag]
    rcases hCause hVr with hDone | hOld
    · exact hDone
    · exact hMeans.vr held hMem hOld

/- When a submission is accepted, and what it stores. -/
theorem submitChecklist_eq_ok_iff
    {readInt : String → Option Int}
    {hasFacility : Bool}
    {session : Option CheckSession}
    (items : ActiveItems)
    {checkedItems : List String}
    {later : CheckSession} :
    submitChecklist readInt hasFacility session items
          checkedItems =
        .ok later ↔
      (∀ held ∈ session, held.checklistCompleted = false) ∧
      (session = none → hasFacility = true) ∧
      ∃ checked ∈ checkedIds readInt checkedItems,
        (session.getD CheckSession.blank).answer items
            checked =
          later := by
  unfold submitChecklist
  cases hChecked : checkedIds readInt checkedItems with
  | none =>
      split <;> simp
  | some checked =>
      cases session with
      | none =>
          cases hasFacility with
          | true => simp [getSession]
          | false => simp [getSession]
      | some held =>
          cases hDone : held.checklistCompleted with
          | true => simp [hDone]
          | false => simp [hDone, getSession]

/- Before the checklist is completed VR was not done. -/
theorem ChecklistRun.Means.vrCompleted_eq_false
    {state : ChecklistRun}
    (hMeans : state.Means)
    (hOpen :
      ∀ held ∈ state.session,
        held.checklistCompleted = false) :
    (state.session.getD
      CheckSession.blank).vrCompleted = false := by
  cases hSession : state.session with
  | none => rfl
  | some held =>
      have hMem : held ∈ state.session := hSession
      by_contra hVr
      have hDone :=
        hMeans.vr held hMem (by simpa using hVr)
      rw [hOpen held hMem] at hDone
      cases hDone

/- What is asked of a submission that is accepted. -/
theorem matches_submit_iff
    {readInt : String → Option Int}
    {hasFacility : Bool}
    {state : ChecklistRun}
    {items : ActiveItems}
    {checkedItems : List String}
    {checked : Finset Int}
    (hOpen :
      ∀ held ∈ state.session,
        held.checklistCompleted = false)
    (hSite : state.session = none → hasFacility = true)
    (hChecked : checked ∈ checkedIds readInt checkedItems) :
    Matches readInt hasFacility state
        (.submitChecklist items checkedItems) ↔
      items.Matches checked := by
  constructor
  · intro hAll
    exact hAll hOpen hSite checked hChecked
  · intro hOne _ _ other hOther
    rw [Option.mem_unique hOther hChecked]
    exact hOne

/- A step keeps the meaning exactly if it matches. -/
theorem means_step_iff
    {readInt : String → Option Int}
    {hasFacility : Bool}
    {state : ChecklistRun}
    (hMeans : state.Means)
    (request : CheckRequest) :
    (checkStep readInt hasFacility state request).Means ↔
      Matches readInt hasFacility state request := by
  cases request with
  | vrComplete =>
      exact iff_of_true (vrComplete_means hMeans) trivial
  | submitChecklist items checkedItems =>
      cases hResult :
          submitChecklist readInt hasFacility state.session
            items checkedItems with
      | error error =>
          have hKept :
              checkStep readInt hasFacility state
                  (.submitChecklist items checkedItems) =
                state := by
            simp only [checkStep, hResult]
          rw [hKept]
          refine iff_of_true hMeans ?_
          intro hOpen hSite checked hChecked
          have hOk :=
            (submitChecklist_eq_ok_iff items).mpr
              ⟨hOpen, hSite, checked, hChecked, rfl⟩
          rw [hResult] at hOk
          cases hOk
      | ok later =>
          rcases
            (submitChecklist_eq_ok_iff items).mp hResult with
            ⟨hOpen, hSite, checked, hChecked, rfl⟩
          have hStep :
              checkStep readInt hasFacility state
                  (.submitChecklist items checkedItems) =
                ⟨some
                    ((state.session.getD
                      CheckSession.blank).answer items
                        checked),
                  items.ids⟩ := by
            simp only [checkStep, hResult]
          have hNoVr := hMeans.vrCompleted_eq_false hOpen
          rw [matches_submit_iff hOpen hSite hChecked, hStep]
          exact means_answer_iff hNoVr items checked

theorem ChecklistRun.Means.start :
    ChecklistRun.start.Means where
  completed := by
    intro session hSession
    cases hSession
  vr := by
    intro session hSession
    cases hSession

/-
  Over the requests of a worker on a day the flags say what
  they mean after every request exactly if every accepted
  submission matches the items that are active then.
-/
theorem checklist_means_iff
    (readInt : String → Option Int)
    (hasFacility : Bool)
    (requests : List CheckRequest) :
    Along (checkStep readInt hasFacility)
        (fun state request =>
          (checkStep readInt hasFacility state request).Means)
        ChecklistRun.start requests ↔
      Along (checkStep readInt hasFacility)
        (Matches readInt hasFacility)
        ChecklistRun.start requests := by
  refine along_iff_of_invariant
    (I := ChecklistRun.Means) ?_ ?_
    ChecklistRun.Means.start requests
  · intro state request hMeans
    exact means_step_iff hMeans request
  · intro state request _ hLater
    exact hLater

/- Numbers of one digit. -/
def readDigit
    (text : String) :
    Option Int :=
  match text.toList with
  | [c] =>
      if c.isDigit then some (c.toNat - '0'.toNat : Nat)
      else none
  | _ => none

/- Two active items. -/
def twoItems : ActiveItems where
  ids := [1, 2]
  nodup := by decide

/-
  One item of two and an unknown one make a completed
  checklist; both items and an unknown one do not.
-/
theorem checklist_not_means :
    ¬(run (checkStep readDigit true) ChecklistRun.start
        [.submitChecklist twoItems ["1", "9"]]).Means ∧
      ¬(run (checkStep readDigit true) ChecklistRun.start
        [.submitChecklist twoItems ["1", "2", "9"]]).Means := by
  constructor
  · intro hMeans
    have hAll :=
      (hMeans.completed _ rfl).mp (by decide +kernel)
    exact absurd (hAll 2 (by decide))
      (by decide +kernel)
  · intro hMeans
    have hDone := (hMeans.completed _ rfl).mpr
    exact absurd (hDone (by decide +kernel))
      (by decide +kernel)

end Safety

end Icmp2
