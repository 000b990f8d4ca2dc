import Icmp2.Facilities.Geofence
import Icmp2.Library.Loop
import Icmp2.Library.OrderBy
import Mathlib.Data.Prod.Lex

/-
  The danger zones that an open map page shows.

  Main definitions include:
    * `Icmp2.Facilities.firstPage`
    * `Icmp2.Facilities.Leaflet`
    * `Icmp2.Facilities.processFullData`
    * `Icmp2.Facilities.processDelta`
    * `Icmp2.Facilities.feedStep`
    * `Icmp2.Facilities.Session`
    * `Icmp2.Facilities.Session.Undisturbed`

  Main theorems include:
    * `Icmp2.Facilities.shownAs_processFullData`
    * `Icmp2.Facilities.shownAs_processDelta`
    * `Icmp2.Facilities.run_feedStep`
    * `Icmp2.Facilities.zoneOf_run_serverStep`
    * `Icmp2.Facilities.map_exact`

  The functions of the page may throw in the middle, and
  their callers catch and log; what was done until then
  stays.
-/

------------------------------------------------------------
-- The List Endpoint
------------------------------------------------------------

namespace Icmp2

namespace Facilities

open Monitoring Library

/- A geofence with its id. -/
abbrev ZoneRow : Type :=
  Nat × Geofence

/- The stored text of a severity. -/
def ZoneSeverity.text : ZoneSeverity → String
  | danger => "danger"
  | warning => "warning"
  | safe => "safe"

/- The place of a severity in the order of the texts. -/
def ZoneSeverity.rank : ZoneSeverity → Nat
  | danger => 0
  | safe => 1
  | warning => 2

theorem ZoneSeverity.rank_lt_iff
    (left right : ZoneSeverity) :
    left.rank < right.rank ↔ left.text < right.text := by
  cases left <;> cases right <;> decide

/- The geofences that the map of a floor has to show. -/
def OnMap
    (floor : Nat)
    (geofence : Geofence) :
    Prop :=
  geofence.floor = floor ∧ geofence.isActive = true

instance
    (floor : Nat) :
    DecidablePred (OnMap floor) := by
  intro geofence
  unfold OnMap
  infer_instance

/- The rows with `floor_id` and `is_active=true`. -/
def activeRows
    (floor : Nat)
    (server : Table Geofence) :
    List ZoneRow :=
  (server.rows.zipIdx.map Prod.swap).filter fun row =>
    OnMap floor row.2

/-
  `order_by('-severity')`; geofences of one severity are
  taken in the order of their ids.
-/
def listKey
    (row : ZoneRow) :
    Nat ×ₗ Natᵒᵈ :=
  toLex (row.2.severity.rank, OrderDual.toDual row.1)

/- `PAGE_SIZE`. -/
def pageSize : Nat :=
  20

/- The answer to a request without a limit. -/
def firstPage
    (floor : Nat)
    (server : Table Geofence) :
    List ZoneRow :=
  (orderDesc listKey (activeRows floor server)).take
    pageSize

theorem mem_activeRows
    {floor : Nat}
    {server : Table Geofence}
    (row : ZoneRow) :
    row ∈ activeRows floor server ↔
      server.get? row.1 = some row.2 ∧
        OnMap floor row.2 := by
  unfold activeRows
  rw [List.mem_filter, decide_eq_true_eq, List.mem_map]
  constructor
  · rintro ⟨⟨pair, hPair, rfl⟩, hMap⟩
    exact ⟨List.mem_zipIdx_iff_getElem?.mp hPair, hMap⟩
  · rintro ⟨hGet, hMap⟩
    exact
      ⟨⟨row.swap,
          List.mem_zipIdx_iff_getElem?.mpr hGet, rfl⟩,
        hMap⟩

end Facilities

end Icmp2

------------------------------------------------------------
-- The Page
------------------------------------------------------------

namespace Icmp2

namespace Facilities

open Monitoring Library

/-
  What the page gets from Leaflet: whether a layer with a
  centre can be drawn, or throws.  With both coordinates it
  can.
-/
structure Leaflet where
  canPlace : Option ℚ → Option ℚ → Bool
  canPlace_some : ∀ x y, canPlace (some x) (some y) = true

/- Leaflet can draw a geofence with its label. -/
def Drawable
    (leaflet : Leaflet)
    (geofence : Geofence) :
    Prop :=
  leaflet.canPlace geofence.centerX geofence.centerY = true

instance
    (leaflet : Leaflet)
    (geofence : Geofence) :
    Decidable (Drawable leaflet geofence) := by
  unfold Drawable
  infer_instance

/-
  What the page holds of a drawn geofence: also whether its
  label was drawn, and the centre of a circle.
-/
structure ZoneState where
  geofenceType : GeofenceType
  severity : ZoneSeverity
  labelled : Bool
  cx : Option ℚ
  cy : Option ℚ
  deriving DecidableEq, Repr

/- `geofenceState`; its keys are below a bound. -/
structure ZonePage where
  zones : Nat → Option ZoneState
  bound : Nat
  isSome_lt : ∀ id, (zones id).isSome → id < bound

namespace ZonePage

def blank : ZonePage where
  zones := fun _ => none
  bound := 0
  isSome_lt := fun _ hSome => by cases hSome

def set
    (page : ZonePage)
    (id : Nat)
    (state : Option ZoneState) :
    ZonePage where
  zones := fun other =>
    if other = id then state else page.zones other
  bound := max page.bound (id + 1)
  isSome_lt := by
    intro other hSome
    by_cases hId : other = id
    · omega
    · rw [if_neg hId] at hSome
      have hBelow := page.isSome_lt other hSome
      omega

/- `Object.keys(geofenceState)`, in ascending order. -/
def keys
    (page : ZonePage) :
    List Nat :=
  (List.range page.bound).filter fun id =>
    (page.zones id).isSome

theorem mem_keys
    (page : ZonePage)
    {id : Nat}
    (hSome : (page.zones id).isSome) :
    id ∈ page.keys :=
  List.mem_filter.mpr
    ⟨List.mem_range.mpr (page.isSome_lt id hSome), hSome⟩

/- The severity under which the page shows a geofence. -/
def shown
    (page : ZonePage)
    (id : Nat) :
    Option ZoneSeverity :=
  (page.zones id).map ZoneState.severity

/- Every drawn geofence has its label. -/
def Labelled
    (page : ZonePage) :
    Prop :=
  ∀ id, ∀ state ∈ page.zones id, state.labelled = true

end ZonePage

section Drawing

variable (leaflet : Leaflet)

/-
  `renderGeofence`.  The state of a polygon is set before
  its label is drawn, that of a circle after the circle.
-/
def renderGeofence
    (page : ZonePage)
    (row : ZoneRow) :
    Except ZonePage ZonePage :=
  if row.2.geofenceType = .polygon ∧
      row.2.polygonData.isSome then
    if Drawable leaflet row.2 then
      .ok
        (page.set row.1
          (some ⟨.polygon, row.2.severity, true, none, none⟩))
    else
      .error
        (page.set row.1
          (some
            ⟨.polygon, row.2.severity, false, none, none⟩))
  else if Drawable leaflet row.2 then
    .ok
      (page.set row.1
        (some
          ⟨.circle, row.2.severity, true,
            row.2.centerX, row.2.centerY⟩))
  else
    .error page

/- Draw again; a missing label cannot be removed. -/
def redrawGeofence
    (page : ZonePage)
    (state : ZoneState)
    (row : ZoneRow) :
    Except ZonePage ZonePage :=
  if state.labelled = true then
    renderGeofence leaflet (page.set row.1 none) row
  else
    .error page

/- A coordinate differs by more than one half. -/
def Moved
    (before after : Option ℚ) :
    Prop :=
  |before.getD 0 - after.getD 0| > 1 / 2

instance
    (before after : Option ℚ) :
    Decidable (Moved before after) := by
  unfold Moved
  infer_instance

/- Move a drawn circle to the centre of its geofence. -/
def moveCircle
    (page : ZonePage)
    (state : ZoneState)
    (row : ZoneRow) :
    Except ZonePage ZonePage :=
  if Moved state.cx row.2.centerX ∨
      Moved state.cy row.2.centerY then
    if Drawable leaflet row.2 then
      .ok
        (page.set row.1
          (some
            { state with
              cx := row.2.centerX
              cy := row.2.centerY }))
    else
      .error page
  else
    .ok page

/- `_applyGeofence`. -/
def applyGeofence
    (page : ZonePage)
    (row : ZoneRow) :
    Except ZonePage ZonePage :=
  match page.zones row.1 with
  | none => renderGeofence leaflet page row
  | some state =>
      if state.severity ≠ row.2.severity then
        redrawGeofence leaflet page state row
      else if row.2.geofenceType = .polygon then
        redrawGeofence leaflet page state row
      else if state.geofenceType = .circle then
        moveCircle leaflet page state row
      else
        .ok page

/- `_removeGeofence`. -/
def removeGeofence
    (page : ZonePage)
    (id : Nat) :
    Except ZonePage ZonePage :=
  match page.zones id with
  | none => .ok page
  | some state =>
      if state.labelled = true then
        .ok (page.set id none)
      else
        .error page

/- `_processFullData`. -/
def processFullData
    (page : ZonePage)
    (results : List ZoneRow) :
    Except ZonePage ZonePage :=
  let gone := page.keys.filter fun id =>
    id ∉ results.map Prod.fst
  match forEach removeGeofence page gone with
  | .ok kept => forEach (applyGeofence leaflet) kept results
  | .error left => .error left

/-
  `_processDeltaData` of one geofence.  A delta has every
  column that the page reads, so nothing of what the page
  remembers is merged into it.
-/
def processDelta
    (page : ZonePage)
    (row : ZoneRow) :
    Except ZonePage ZonePage :=
  if row.2.isActive = false then
    removeGeofence page row.1
  else
    applyGeofence leaflet page row

end Drawing

/- What a delta says about its geofence. -/
def deltaZone
    (geofence : Geofence) :
    Option ZoneSeverity :=
  if geofence.isActive = false then
    none
  else
    some geofence.severity

/- The page shows some severities, all of them labelled. -/
structure ShownAs
    (page : ZonePage)
    (shown : Nat → Option ZoneSeverity) :
    Prop where
  labelled : page.Labelled
  same : ∀ id, page.shown id = shown id

/- The severities with that of one geofence replaced. -/
def tell
    (shown : Nat → Option ZoneSeverity)
    (id : Nat)
    (severity : Option ZoneSeverity) :
    Nat → Option ZoneSeverity :=
  fun other => if other = id then severity else shown other

section Steps

variable {leaflet : Leaflet}
variable {page : ZonePage}
variable {shown : Nat → Option ZoneSeverity}

theorem shownAs_blank :
    ShownAs ZonePage.blank fun _ => none := by
  constructor
  · intro id state hState
    cases hState
  · intro id
    rfl

/- Setting a labelled state tells its severity. -/
theorem ShownAs.set
    (hPage : ShownAs page shown)
    (id : Nat)
    {state : Option ZoneState}
    (hLabelled : ∀ drawn ∈ state, drawn.labelled = true) :
    ShownAs (page.set id state)
      (tell shown id (state.map ZoneState.severity)) := by
  constructor
  · intro other drawn hDrawn
    simp only [ZonePage.set] at hDrawn
    split_ifs at hDrawn with hId
    · exact hLabelled drawn hDrawn
    · exact hPage.labelled other drawn hDrawn
  · intro other
    simp only [ZonePage.shown, ZonePage.set, tell]
    split_ifs with hId
    · rfl
    · exact hPage.same other

theorem ShownAs.clear
    (hPage : ShownAs page shown)
    (id : Nat) :
    ShownAs (page.set id none) (tell shown id none) := by
  apply hPage.set id
  intro drawn hDrawn
  cases hDrawn

/- Telling what is shown already changes nothing. -/
theorem ShownAs.tell_same
    (hPage : ShownAs page shown)
    {id : Nat}
    {severity : Option ZoneSeverity}
    (hShown : page.shown id = severity) :
    ShownAs page (tell shown id severity) := by
  refine ⟨hPage.labelled, ?_⟩
  intro other
  unfold tell
  split_ifs with hId
  · rw [hId, hShown]
  · exact hPage.same other

theorem ShownAs.tell_twice
    {id : Nat}
    {first second : Option ZoneSeverity}
    (hPage :
      ShownAs page
        (tell (tell shown id first) id second)) :
    ShownAs page (tell shown id second) := by
  refine ⟨hPage.labelled, ?_⟩
  intro other
  rw [hPage.same other]
  unfold tell
  split_ifs <;> rfl

variable {row : ZoneRow}

/- A geofence that can be drawn is shown. -/
theorem shownAs_renderGeofence
    (hPage : ShownAs page shown)
    (hDrawable : Drawable leaflet row.2) :
    ∃ later,
      renderGeofence leaflet page row = .ok later ∧
        ShownAs later
          (tell shown row.1 (some row.2.severity)) := by
  unfold renderGeofence
  rw [if_pos hDrawable, if_pos hDrawable]
  split_ifs with hPolygon
  · exact
      ⟨_, rfl, hPage.set row.1
        (fun drawn hDrawn => by cases hDrawn; rfl)⟩
  · exact
      ⟨_, rfl, hPage.set row.1
        (fun drawn hDrawn => by cases hDrawn; rfl)⟩

theorem shownAs_redrawGeofence
    (hPage : ShownAs page shown)
    (hDrawable : Drawable leaflet row.2)
    {state : ZoneState}
    (hState : page.zones row.1 = some state) :
    ∃ later,
      redrawGeofence leaflet page state row = .ok later ∧
        ShownAs later
          (tell shown row.1 (some row.2.severity)) := by
  have hLabelled := hPage.labelled row.1 state hState
  rw [redrawGeofence, if_pos hLabelled]
  rcases shownAs_renderGeofence (hPage.clear row.1)
      hDrawable with
    ⟨later, hLater, hShown⟩
  exact ⟨later, hLater, hShown.tell_twice⟩

/- Moving a circle shows it as before. -/
theorem shownAs_moveCircle
    (hPage : ShownAs page shown)
    (hDrawable : Drawable leaflet row.2)
    {state : ZoneState}
    (hState : page.zones row.1 = some state) :
    ∃ later,
      moveCircle leaflet page state row = .ok later ∧
        ShownAs later
          (tell shown row.1 (some state.severity)) := by
  unfold moveCircle
  rw [if_pos hDrawable]
  split_ifs with hMoved
  · refine ⟨_, rfl, hPage.set row.1 ?_⟩
    intro drawn hDrawn
    cases hDrawn
    exact hPage.labelled row.1 state hState
  · refine ⟨_, rfl, hPage.tell_same ?_⟩
    rw [ZonePage.shown, hState]
    rfl

/- Applying such a geofence shows it under its severity. -/
theorem shownAs_applyGeofence
    (hPage : ShownAs page shown)
    (hDrawable : Drawable leaflet row.2) :
    ∃ later,
      applyGeofence leaflet page row = .ok later ∧
        ShownAs later
          (tell shown row.1 (some row.2.severity)) := by
  unfold applyGeofence
  cases hState : page.zones row.1 with
  | none => exact shownAs_renderGeofence hPage hDrawable
  | some state =>
      simp only
      split_ifs with hSeverity hPolygon hCircle
      · exact shownAs_redrawGeofence hPage hDrawable hState
      · exact shownAs_redrawGeofence hPage hDrawable hState
      · rw [← not_not.mp hSeverity]
        exact shownAs_moveCircle hPage hDrawable hState
      · refine ⟨page, rfl, hPage.tell_same ?_⟩
        rw [ZonePage.shown, hState, Option.map_some,
          not_not.mp hSeverity]

/- With labels everywhere a removal succeeds. -/
theorem shownAs_removeGeofence
    (hPage : ShownAs page shown)
    (id : Nat) :
    ∃ later,
      removeGeofence page id = .ok later ∧
        ShownAs later (tell shown id none) := by
  unfold removeGeofence
  cases hState : page.zones id with
  | none =>
      refine ⟨page, rfl, hPage.tell_same ?_⟩
      rw [ZonePage.shown, hState]
      rfl
  | some state =>
      simp only [if_pos (hPage.labelled id state hState)]
      exact ⟨_, rfl, hPage.clear id⟩

/- A row that is inactive, or can be drawn. -/
def Fine
    (leaflet : Leaflet)
    (row : ZoneRow) :
    Prop :=
  row.2.isActive = true → Drawable leaflet row.2

instance
    (leaflet : Leaflet)
    (row : ZoneRow) :
    Decidable (Fine leaflet row) := by
  unfold Fine
  infer_instance

theorem shownAs_processDelta
    (hPage : ShownAs page shown)
    (hFine : Fine leaflet row) :
    ∃ later,
      processDelta leaflet page row = .ok later ∧
        ShownAs later
          (tell shown row.1 (deltaZone row.2)) := by
  unfold processDelta deltaZone
  split_ifs with hActive
  · exact shownAs_removeGeofence hPage row.1
  · exact
      shownAs_applyGeofence hPage
        (hFine (Bool.eq_true_of_not_eq_false hActive))

end Steps

/- The last row with an id. -/
def lastRow?
    (id : Nat)
    (rows : List ZoneRow) :
    Option Geofence :=
  (rows.filter fun row => row.1 = id).getLast?.map Prod.snd

theorem lastRow?_snoc
    (id : Nat)
    (rows : List ZoneRow)
    (row : ZoneRow) :
    lastRow? id (rows ++ [row]) =
      if id = row.1 then some row.2
      else lastRow? id rows := by
  unfold lastRow?
  rw [List.filter_append]
  by_cases hId : id = row.1
  · simp [hId]
  · have hOther : ¬ row.1 = id := fun hEq => hId hEq.symm
    simp [hId, hOther]

/- What the last of some deltas says about a geofence. -/
def lastWord
    (id : Nat)
    (rows : List ZoneRow)
    (otherwise : Option ZoneSeverity) :
    Option ZoneSeverity :=
  match lastRow? id rows with
  | some geofence => deltaZone geofence
  | none => otherwise

@[simp] theorem lastWord_nil
    (id : Nat)
    (otherwise : Option ZoneSeverity) :
    lastWord id [] otherwise = otherwise := by
  rfl

theorem lastWord_snoc
    (id : Nat)
    (rows : List ZoneRow)
    (row : ZoneRow)
    (otherwise : Option ZoneSeverity) :
    lastWord id (rows ++ [row]) otherwise =
      if id = row.1 then deltaZone row.2
      else lastWord id rows otherwise := by
  unfold lastWord
  rw [lastRow?_snoc]
  by_cases hId : id = row.1
  · rw [if_pos hId, if_pos hId]
  · rw [if_neg hId, if_neg hId]

theorem lastWord_append
    (id : Nat)
    (first second : List ZoneRow)
    (otherwise : Option ZoneSeverity) :
    lastWord id (first ++ second) otherwise =
      lastWord id second (lastWord id first otherwise) := by
  induction second using List.reverseRecOn with
  | nil => rw [List.append_nil, lastWord_nil]
  | append_singleton second row ih =>
      rw [← List.append_assoc, lastWord_snoc, lastWord_snoc,
        ih]

/- What a page shows after a delta. -/
def deltaShown
    (shown : Nat → Option ZoneSeverity)
    (row : ZoneRow) :
    Nat → Option ZoneSeverity :=
  tell shown row.1 (deltaZone row.2)

/- What it shows after a row of the list. -/
def rowShown
    (shown : Nat → Option ZoneSeverity)
    (row : ZoneRow) :
    Nat → Option ZoneSeverity :=
  tell shown row.1 (some row.2.severity)

/- What is left of it without the rows not listed. -/
def listedOnly
    (shown : Nat → Option ZoneSeverity)
    (rows : List ZoneRow) :
    Nat → Option ZoneSeverity :=
  fun id =>
    if id ∈ rows.map Prod.fst then shown id else none

/- The last delta of a geofence has the last word. -/
theorem foldl_deltaShown
    (shown : Nat → Option ZoneSeverity)
    (rows : List ZoneRow)
    (id : Nat) :
    rows.foldl deltaShown shown id =
      lastWord id rows (shown id) := by
  induction rows using List.reverseRecOn with
  | nil => rfl
  | append_singleton rows row ih =>
      rw [List.foldl_append, List.foldl_cons,
        List.foldl_nil, deltaShown, tell, lastWord_snoc, ih]

theorem foldl_rowShown
    (shown : Nat → Option ZoneSeverity)
    (rows : List ZoneRow)
    (id : Nat) :
    rows.foldl rowShown shown id =
      match lastRow? id rows with
      | some geofence => some geofence.severity
      | none => shown id := by
  induction rows using List.reverseRecOn with
  | nil => rfl
  | append_singleton rows row ih =>
      rw [List.foldl_append, List.foldl_cons,
        List.foldl_nil, rowShown, tell, lastRow?_snoc, ih]
      by_cases hId : id = row.1
      · rw [if_pos hId, if_pos hId]
      · rw [if_neg hId, if_neg hId]

/- Told to be gone, a geofence is not shown any more. -/
theorem foldl_gone
    (shown : Nat → Option ZoneSeverity)
    (gone : List Nat)
    (id : Nat) :
    gone.foldl (fun shown id => tell shown id none) shown
        id =
      if id ∈ gone then none else shown id := by
  induction gone generalizing shown with
  | nil => rfl
  | cons first rest ih =>
      rw [List.foldl_cons, ih]
      simp only [tell, List.mem_cons]
      split_ifs <;> tauto

theorem lastRow?_eq_none_iff
    (id : Nat)
    (rows : List ZoneRow) :
    lastRow? id rows = none ↔
      id ∉ rows.map Prod.fst := by
  unfold lastRow?
  rw [Option.map_eq_none_iff, List.getLast?_eq_none_iff,
    List.filter_eq_nil_iff]
  constructor
  · intro hNone hMem
    rcases List.mem_map.mp hMem with ⟨row, hRow, hId⟩
    exact hNone row hRow (decide_eq_true hId)
  · intro hOut row hRow hId
    exact
      hOut (List.mem_map.mpr
        ⟨row, hRow, of_decide_eq_true hId⟩)

theorem mem_of_lastRow?_eq_some
    {id : Nat}
    {rows : List ZoneRow}
    {geofence : Geofence}
    (hLast : lastRow? id rows = some geofence) :
    (id, geofence) ∈ rows := by
  rcases Option.map_eq_some_iff.mp hLast with
    ⟨row, hRow, rfl⟩
  have hMem :=
    List.mem_filter.mp (List.mem_of_getLast? hRow)
  rw [← of_decide_eq_true hMem.2]
  exact hMem.1

section Lists

variable {leaflet : Leaflet}
variable {page : ZonePage}
variable {shown : Nat → Option ZoneSeverity}
variable {rows : List ZoneRow}

/- What is not listed is removed, and the rest stays. -/
theorem shownAs_removeGone
    (hPage : ShownAs page shown)
    (rows : List ZoneRow) :
    ∃ kept,
      forEach removeGeofence page
            (page.keys.filter fun id =>
              id ∉ rows.map Prod.fst) =
          .ok kept ∧
        ShownAs kept (listedOnly shown rows) := by
  have hGone :
      ∃ kept,
        forEach removeGeofence page
              (page.keys.filter fun id =>
                id ∉ rows.map Prod.fst) =
            .ok kept ∧
          ShownAs kept
            ((page.keys.filter fun id =>
                id ∉ rows.map Prod.fst).foldl
              (fun shown id => tell shown id none)
              shown) := by
    apply forEach_simulates _ hPage
    intro id _ old _ hOld
    exact shownAs_removeGeofence hOld id
  rcases hGone with ⟨kept, hKept, hShown⟩
  refine ⟨kept, hKept, hShown.labelled, ?_⟩
  intro id
  rw [hShown.same id, foldl_gone, listedOnly]
  by_cases hListed : id ∈ rows.map Prod.fst
  · simp [hListed]
  · rw [if_neg hListed]
    split_ifs with hKey
    · rfl
    · rw [← hPage.same id, ZonePage.shown,
        Option.map_eq_none_iff]
      by_contra hSome
      apply hKey
      rw [List.mem_filter]
      exact
        ⟨page.mem_keys (Option.isSome_iff_ne_none.mpr hSome),
          decide_eq_true hListed⟩

/- The list replaces everything that the page has shown. -/
theorem shownAs_processFullData
    (hPage : ShownAs page shown)
    (hDrawable : ∀ row ∈ rows, Drawable leaflet row.2) :
    ∃ later,
      processFullData leaflet page rows = .ok later ∧
        ShownAs later fun id =>
          (lastRow? id rows).map Geofence.severity := by
  rcases shownAs_removeGone hPage rows with
    ⟨kept, hKept, hKeptShown⟩
  have hRows :
      ∃ later,
        forEach (applyGeofence leaflet) kept rows =
            .ok later ∧
          ShownAs later
            (rows.foldl rowShown (listedOnly shown rows)) := by
    apply forEach_simulates _ hKeptShown
    intro row hMem old _ hOld
    exact shownAs_applyGeofence hOld (hDrawable row hMem)
  rcases hRows with ⟨later, hLater, hShown⟩
  refine ⟨later, ?_, hShown.labelled, ?_⟩
  · simp only [processFullData, hKept, hLater]
  · intro id
    rw [hShown.same id, foldl_rowShown]
    cases hLast : lastRow? id rows with
    | some geofence => rfl
    | none =>
        have hOut := (lastRow?_eq_none_iff id rows).mp hLast
        simp only [listedOnly, if_neg hOut,
          Option.map_none]

/- Deltas that can be drawn have their last words. -/
theorem shownAs_foldl_processDelta
    (hPage : ShownAs page shown)
    (hFine : ∀ row ∈ rows, Fine leaflet row) :
    ShownAs
      (rows.foldl
        (fun page row =>
          caught (processDelta leaflet page row)) page)
      (rows.foldl deltaShown shown) := by
  apply foldl_caught_simulates _ hPage
  intro row hMem old _ hOld
  exact shownAs_processDelta hOld (hFine row hMem)

end Lists

end Facilities

end Icmp2

------------------------------------------------------------
-- Changes and Deltas
------------------------------------------------------------

namespace Icmp2

namespace Facilities

open Monitoring Library

/-
  What happens on the server and on the open connection.
  A bulk save of the map editor announces nothing.
-/
inductive Traffic where
  | create (geofence : Geofence)
  | save (id : Nat) (change : Geofence → Geofence)
  | destroy (id : Nat)
  | bulkSave (id : Nat) (change : Geofence → Geofence)
  | deliver

/- How many deltas some traffic delivers. -/
def deliveries : List Traffic → Nat
  | [] => 0
  | .deliver :: ops => deliveries ops + 1
  | _ :: ops => deliveries ops

/- The geofences of the server after a change. -/
def serverStep
    (server : Table Geofence) :
    Traffic → Table Geofence
  | .create geofence => server.insert geofence
  | .save id change => server.modify id change
  | .destroy id => server.modify id Geofence.deactivate
  | .bulkSave id change => server.modify id change
  | .deliver => server

/- The geofence that `_broadcast_geofence` is called with. -/
def announcement?
    (server : Table Geofence) :
    Traffic → Option ZoneRow
  | .create geofence => some (server.nextId, geofence)
  | .save id change =>
      (server.get? id).map fun geofence =>
        (id, change geofence)
  | .destroy id =>
      (server.get? id).map fun geofence =>
        (id, geofence.deactivate)
  | .bulkSave _ _ => none
  | .deliver => none

/- The deltas for the group of a floor. -/
def announced
    (floor : Nat)
    (server : Table Geofence)
    (op : Traffic) :
    List ZoneRow :=
  ((announcement? server op).filter fun row =>
    row.2.floor = floor).toList

/- The server, the deltas on their way, and the page. -/
structure Feed where
  server : Table Geofence
  queue : List ZoneRow
  page : ZonePage

/-
  One event; the page processes deltas in their order, and
  catches what they throw.
-/
def feedStep
    (leaflet : Leaflet)
    (floor : Nat)
    (feed : Feed)
    (op : Traffic) :
    Feed :=
  match op, feed.queue with
  | .deliver, row :: rows =>
      { feed with
        queue := rows
        page := caught (processDelta leaflet feed.page row) }
  | .deliver, [] => feed
  | op, _ =>
      { feed with
        server := serverStep feed.server op
        queue := feed.queue ++ announced floor feed.server op }

/- All deltas for a floor that a run sends. -/
def announcedAll
    (floor : Nat) :
    Table Geofence → List Traffic → List ZoneRow
  | _, [] => []
  | server, op :: ops =>
      announced floor server op ++
        announcedAll floor (serverStep server op) ops

section Feeds

variable (leaflet : Leaflet)
variable (floor : Nat)

/- An event that is no delivery changes the server. -/
theorem feedStep_of_ne_deliver
    (feed : Feed)
    {op : Traffic}
    (hDeliver : op ≠ .deliver) :
    feedStep leaflet floor feed op =
      { feed with
        server := serverStep feed.server op
        queue :=
          feed.queue ++ announced floor feed.server op } := by
  cases op with
  | deliver => exact absurd rfl hDeliver
  | _ => rfl

/-
  A run processes the deltas that were on their way and
  those that it sends, first in, first out.
-/
theorem run_feedStep
    (feed : Feed)
    (ops : List Traffic) :
    ∃ processed,
      feed.queue ++ announcedAll floor feed.server ops =
          processed ++
            (run (feedStep leaflet floor) feed ops).queue ∧
        (run (feedStep leaflet floor) feed ops).page =
          processed.foldl
            (fun page row =>
              caught (processDelta leaflet page row))
            feed.page := by
  induction ops generalizing feed with
  | nil => exact ⟨[], by simp [announcedAll], rfl⟩
  | cons op ops ih =>
      rw [run_cons]
      rcases ih (feedStep leaflet floor feed op) with
        ⟨processed, hQueue, hPage⟩
      by_cases hDeliver : op = .deliver
      · subst hDeliver
        cases hFirst : feed.queue with
        | nil =>
            have hSame :
                feedStep leaflet floor feed .deliver =
                  feed := by
              simp only [feedStep, hFirst]
            rw [hSame, hFirst] at hQueue
            rw [hSame] at hPage ⊢
            exact ⟨processed, hQueue, hPage⟩
        | cons row rows =>
            have hNext :
                feedStep leaflet floor feed .deliver =
                  { feed with
                    queue := rows
                    page :=
                      caught
                        (processDelta leaflet feed.page
                          row) } := by
              simp only [feedStep, hFirst]
            rw [hNext] at hQueue hPage ⊢
            refine ⟨row :: processed, ?_, hPage⟩
            rw [List.cons_append, List.cons_append,
              ← hQueue]
            rfl
      · rw [feedStep_of_ne_deliver leaflet floor feed
          hDeliver] at hQueue hPage ⊢
        refine ⟨processed, ?_, hPage⟩
        rw [announcedAll, ← List.append_assoc]
        exact hQueue

theorem server_run_feedStep
    (feed : Feed)
    (ops : List Traffic) :
    (run (feedStep leaflet floor) feed ops).server =
      run serverStep feed.server ops := by
  induction ops generalizing feed with
  | nil => rfl
  | cons op ops ih =>
      rw [run_cons, run_cons, ih]
      congr 1
      by_cases hDeliver : op = .deliver
      · subst hDeliver
        cases hQueue : feed.queue with
        | nil => simp only [feedStep, hQueue, serverStep]
        | cons row rows =>
            simp only [feedStep, hQueue, serverStep]
      · rw [feedStep_of_ne_deliver leaflet floor feed
          hDeliver]

/-
  While only deltas are delivered that were on their way,
  the rest of them stays ahead of those that are sent.
-/
theorem queue_run_feedStep
    (feed : Feed)
    {ops : List Traffic}
    (hOld : deliveries ops ≤ feed.queue.length) :
    (run (feedStep leaflet floor) feed ops).queue =
      feed.queue.drop (deliveries ops) ++
        announcedAll floor feed.server ops := by
  induction ops generalizing feed with
  | nil => simp [deliveries, announcedAll]
  | cons op ops ih =>
      rw [run_cons]
      by_cases hDeliver : op = .deliver
      · subst hDeliver
        rw [deliveries] at hOld ⊢
        cases hQueue : feed.queue with
        | nil =>
            rw [hQueue] at hOld
            cases hOld
        | cons row rows =>
            rw [hQueue, List.length_cons] at hOld
            have hNext :
                feedStep leaflet floor feed .deliver =
                  { feed with
                    queue := rows
                    page :=
                      caught
                        (processDelta leaflet feed.page
                          row) } := by
              simp only [feedStep, hQueue]
            rw [hNext, ih _ (by simpa using hOld),
              List.drop_succ_cons]
            rfl
      · have hCount :
            deliveries (op :: ops) = deliveries ops := by
          cases op with
          | deliver => exact absurd rfl hDeliver
          | _ => rfl
        rw [hCount] at hOld ⊢
        rw [feedStep_of_ne_deliver leaflet floor feed
            hDeliver,
          ih _
            (by rw [List.length_append]; omega),
          List.drop_append_of_le_length hOld,
          announcedAll, List.append_assoc]

end Feeds

end Facilities

end Icmp2

------------------------------------------------------------
-- A Session
------------------------------------------------------------

namespace Icmp2

namespace Facilities

open Monitoring Library

/-
  A page that opens its connection, and what happens before
  its list is read, until the answer arrives, and after.
-/
structure Session where
  leaflet : Leaflet
  floor : Nat
  server : Table Geofence
  before : List Traffic
  between : List Traffic
  after : List Traffic

namespace Session

/- The list is about to be read. -/
def asked
    (session : Session) :
    Feed :=
  run (feedStep session.leaflet session.floor)
    { server := session.server
      queue := []
      page := ZonePage.blank }
    session.before

/- The answer is about to arrive. -/
def answered
    (session : Session) :
    Feed :=
  run (feedStep session.leaflet session.floor)
    session.asked session.between

/- The page has processed the answer. -/
def loaded
    (session : Session) :
    Feed :=
  { session.answered with
    page :=
      caught
        (processFullData session.leaflet
          session.answered.page
          (firstPage session.floor
            session.asked.server)) }

/- The end of the session. -/
def final
    (session : Session) :
    Feed :=
  run (feedStep session.leaflet session.floor)
    session.loaded session.after

/- The deltas that reach the page behind the answer. -/
def lateDeltas
    (session : Session) :
    List ZoneRow :=
  session.answered.queue ++
    announcedAll session.floor session.answered.server
      session.after

end Session

/- The severity with which a map has to show a geofence. -/
def zoneOf
    (floor : Nat)
    (server : Table Geofence)
    (id : Nat) :
    Option ZoneSeverity :=
  match server.get? id with
  | none => none
  | some geofence =>
      if OnMap floor geofence then
        some geofence.severity
      else
        none

/- The page shows exactly what the map has to show. -/
def Session.Exact
    (session : Session) :
    Prop :=
  ∀ id,
    session.final.page.shown id =
      zoneOf session.floor session.final.server id

/- A list that fits on one page is the map of the floor. -/
theorem mem_firstPage_iff
    {floor : Nat}
    {server : Table Geofence}
    (hShort :
      (activeRows floor server).length ≤ pageSize)
    (row : ZoneRow) :
    row ∈ firstPage floor server ↔
      server.get? row.1 = some row.2 ∧
        OnMap floor row.2 := by
  have hLength :
      (orderDesc listKey (activeRows floor server)).length ≤
        pageSize := by
    rw [(perm_orderDesc listKey _).length_eq]
    exact hShort
  rw [firstPage, List.take_of_length_le hLength,
    mem_orderDesc, mem_activeRows]

/- What such an answer says about a geofence. -/
theorem lastRow?_firstPage
    {floor : Nat}
    {server : Table Geofence}
    (hShort :
      (activeRows floor server).length ≤ pageSize)
    (id : Nat) :
    (lastRow? id (firstPage floor server)).map
        Geofence.severity =
      zoneOf floor server id := by
  unfold zoneOf
  cases hLast : lastRow? id (firstPage floor server) with
  | some geofence =>
      have hFound :=
        (mem_firstPage_iff hShort _).mp
          (mem_of_lastRow?_eq_some hLast)
      simp only [hFound.1]
      rw [if_pos hFound.2, Option.map_some]
  | none =>
      have hOut :=
        (lastRow?_eq_none_iff _ _).mp hLast
      cases hGet : server.get? id with
      | none => rfl
      | some geofence =>
          simp only
          rw [if_neg]
          · rfl
          · intro hMap
            exact
              hOut (List.mem_map.mpr
                ⟨(id, geofence),
                  (mem_firstPage_iff hShort _).mpr
                    ⟨hGet, hMap⟩,
                  rfl⟩)

end Facilities

end Icmp2

------------------------------------------------------------
-- Sessions without Surprises
------------------------------------------------------------

namespace Icmp2

namespace Facilities

open Monitoring Library

/-
  A change of what the map of the floor has to show is
  announced to the floor.
-/
def Loud
    (floor : Nat)
    (server : Table Geofence)
    (op : Traffic) :
    Prop :=
  announced floor server op = [] →
    ∀ id,
      zoneOf floor (serverStep server op) id =
        zoneOf floor server id

/- What is announced to the floor can be drawn. -/
def DrawnWhenTold
    (leaflet : Leaflet)
    (floor : Nat)
    (server : Table Geofence)
    (op : Traffic) :
    Prop :=
  ∀ row ∈ announced floor server op, Fine leaflet row

instance
    (leaflet : Leaflet)
    (floor : Nat)
    (server : Table Geofence)
    (op : Traffic) :
    Decidable (DrawnWhenTold leaflet floor server op) := by
  unfold DrawnWhenTold
  infer_instance

/-
  Every change of the map is announced to its floor, and
  what is announced or listed can be drawn; the list fits
  on one page; and until the answer arrives no more deltas
  are delivered than were on their way when it was read.
-/
structure Session.Undisturbed
    (session : Session) :
    Prop where
  loud :
    Along serverStep (Loud session.floor) session.server
      (session.before ++ session.between ++ session.after)
  drawn :
    Along serverStep
      (DrawnWhenTold session.leaflet session.floor)
      session.server
      (session.before ++ session.between ++ session.after)
  listed :
    ∀ row ∈ activeRows session.floor session.asked.server,
      Drawable session.leaflet row.2
  short :
    (activeRows session.floor
      session.asked.server).length ≤ pageSize
  behind :
    deliveries session.between ≤ session.asked.queue.length

/- The floor of a geofence and what its delta says. -/
theorem zone_of_onMap
    (floor : Nat)
    (geofence : Geofence) :
    (if OnMap floor geofence then
        some geofence.severity
      else
        none) =
      if geofence.floor = floor then deltaZone geofence
      else none := by
  unfold OnMap deltaZone
  by_cases hFloor : geofence.floor = floor
  · by_cases hActive : geofence.isActive = false
    · simp [hActive]
    · simp [hFloor, hActive]
  · simp [hFloor]

theorem zoneOf_of_some
    {floor : Nat}
    {server : Table Geofence}
    {id : Nat}
    {geofence : Geofence}
    (hGet : server.get? id = some geofence) :
    zoneOf floor server id =
      if geofence.floor = floor then deltaZone geofence
      else none := by
  rw [zoneOf, hGet]
  exact zone_of_onMap floor geofence

/- An announcement is the row as it is stored then. -/
theorem get?_of_announcement
    {server : Table Geofence}
    {op : Traffic}
    {row : ZoneRow}
    (hTold : announcement? server op = some row)
    (id : Nat) :
    (serverStep server op).get? id =
      if id = row.1 then some row.2 else server.get? id := by
  have hSaved : ∀ (target : Nat)
      (change : Geofence → Geofence),
      ((server.get? target).map fun geofence =>
          (target, change geofence)) = some row →
        (server.modify target change).get? id =
          if id = row.1 then some row.2
          else server.get? id := by
    intro target change hRow
    rcases Option.map_eq_some_iff.mp hRow with
      ⟨geofence, hGet, rfl⟩
    by_cases hId : id = target
    · rw [if_pos hId, hId, Table.get?_modify_self, hGet]
      rfl
    · rw [if_neg hId,
        Table.get?_modify_of_ne _ _ (Ne.symm hId)]
  cases op with
  | create geofence =>
      cases hTold
      exact Table.get?_insert server geofence id
  | save target change => exact hSaved target change hTold
  | destroy target => exact hSaved target _ hTold
  | bulkSave target change => cases hTold
  | deliver => cases hTold

/- A loud change is told by its delta. -/
theorem zoneOf_serverStep
    {floor : Nat}
    {server : Table Geofence}
    {op : Traffic}
    (hLoud : Loud floor server op)
    (id : Nat) :
    zoneOf floor (serverStep server op) id =
      lastWord id (announced floor server op)
        (zoneOf floor server id) := by
  cases hTold : announced floor server op with
  | nil => exact hLoud hTold id
  | cons row rest =>
      unfold announced at hTold
      cases hRow :
          (announcement? server op).filter fun row =>
            row.2.floor = floor with
      | none =>
          rw [hRow] at hTold
          cases hTold
      | some told =>
          rw [hRow] at hTold
          cases hTold
          rcases Option.filter_eq_some_iff.mp hRow with
            ⟨hAnnounced, hFloor⟩
          have hGet := get?_of_announcement hAnnounced id
          have hWord :=
            lastWord_snoc id [] row
              (zoneOf floor server id)
          rw [List.nil_append] at hWord
          rw [hWord, lastWord_nil]
          by_cases hId : id = row.1
          · rw [if_pos hId] at hGet ⊢
            rw [zoneOf_of_some hGet,
              if_pos (of_decide_eq_true hFloor)]
          · rw [if_neg hId] at hGet ⊢
            rw [zoneOf, zoneOf, hGet]

/- Loud changes are told by the last of their deltas. -/
theorem zoneOf_run_serverStep
    {floor : Nat}
    {server : Table Geofence}
    {ops : List Traffic}
    (hLoud : Along serverStep (Loud floor) server ops)
    (id : Nat) :
    zoneOf floor (run serverStep server ops) id =
      lastWord id (announcedAll floor server ops)
        (zoneOf floor server id) := by
  induction ops generalizing server with
  | nil => rfl
  | cons op ops ih =>
      rw [run_cons, announcedAll, lastWord_append,
        ih hLoud.2, zoneOf_serverStep hLoud.1]

theorem fine_of_announcedAll
    {leaflet : Leaflet}
    {floor : Nat}
    {server : Table Geofence}
    {ops : List Traffic}
    (hDrawn :
      Along serverStep (DrawnWhenTold leaflet floor)
        server ops) :
    ∀ row ∈ announcedAll floor server ops,
      Fine leaflet row := by
  induction ops generalizing server with
  | nil =>
      intro row hMem
      cases hMem
  | cons op ops ih =>
      intro row hMem
      rcases List.mem_append.mp hMem with hFirst | hRest
      · exact hDrawn.1 row hFirst
      · exact ih hDrawn.2 row hRest

/-
  Over traffic that can be drawn the page shows the last
  words of what it has processed.
-/
theorem shownAs_run_feedStep
    (leaflet : Leaflet)
    (floor : Nat)
    (feed : Feed)
    {ops : List Traffic}
    {shown : Nat → Option ZoneSeverity}
    (hPage : ShownAs feed.page shown)
    (hQueue : ∀ row ∈ feed.queue, Fine leaflet row)
    (hDrawn :
      Along serverStep (DrawnWhenTold leaflet floor)
        feed.server ops) :
    ∃ processed,
      feed.queue ++ announcedAll floor feed.server ops =
          processed ++
            (run (feedStep leaflet floor) feed ops).queue ∧
        ShownAs (run (feedStep leaflet floor) feed ops).page
          (processed.foldl deltaShown shown) ∧
        ∀ row ∈ (run (feedStep leaflet floor) feed
            ops).queue,
          Fine leaflet row := by
  rcases run_feedStep leaflet floor feed ops with
    ⟨processed, hSplit, hEnd⟩
  have hAll : ∀ row ∈ processed ++
      (run (feedStep leaflet floor) feed ops).queue,
      Fine leaflet row := by
    rw [← hSplit]
    intro row hMem
    rcases List.mem_append.mp hMem with hOld | hNew
    · exact hQueue row hOld
    · exact fine_of_announcedAll hDrawn row hNew
  refine ⟨processed, hSplit, ?_, ?_⟩
  · rw [hEnd]
    exact
      shownAs_foldl_processDelta hPage
        (fun row hMem =>
          hAll row (List.mem_append_left _ hMem))
  · exact fun row hMem =>
      hAll row (List.mem_append_right _ hMem)

section Exactness

variable {session : Session}

/- What holds along the traffic holds along its parts. -/
theorem Session.along_parts
    {P : Table Geofence → Traffic → Prop}
    (hAlong :
      Along serverStep P session.server
        (session.before ++ session.between ++
          session.after)) :
    Along serverStep P session.server session.before ∧
      Along serverStep P session.asked.server
        session.between ∧
      Along serverStep P session.answered.server
        session.after := by
  have hAsked :
      session.asked.server =
        run serverStep session.server session.before :=
    server_run_feedStep _ _ _ _
  have hAnswered :
      session.answered.server =
        run serverStep session.asked.server
          session.between :=
    server_run_feedStep _ _ _ _
  rw [along_append, along_append, run_append] at hAlong
  rw [hAnswered, hAsked]
  exact ⟨hAlong.1.1, hAlong.1.2, hAlong.2⟩

variable (hCalm : session.Undisturbed)
include hCalm

/-
  The map of the floor when the list is read is what was
  announced before; and deltas that are on their way then
  agree with it.
-/
theorem lastWord_old
    (count id : Nat) :
    lastWord id (session.asked.queue.drop count)
        (zoneOf session.floor session.asked.server id) =
      zoneOf session.floor session.asked.server id := by
  have hLoud := (Session.along_parts hCalm.loud).1
  have hZone :=
    zoneOf_run_serverStep hLoud id
  rw [← server_run_feedStep session.leaflet session.floor
    ⟨session.server, [], ZonePage.blank⟩] at hZone
  change zoneOf session.floor session.asked.server id = _
    at hZone
  rcases run_feedStep session.leaflet session.floor
      ⟨session.server, [], ZonePage.blank⟩ session.before
    with ⟨processed, hQueue, _⟩
  change _ = processed ++ session.asked.queue at hQueue
  rw [List.nil_append] at hQueue
  rw [hQueue,
    ← List.take_append_drop count session.asked.queue,
    lastWord_append, lastWord_append] at hZone
  cases hLast :
      lastRow? id (session.asked.queue.drop count) with
  | none => simp only [lastWord, hLast]
  | some geofence =>
      rw [hZone]
      simp only [lastWord, hLast]

/- With the answer the page shows the map as it was read. -/
theorem loaded_shown :
    ShownAs session.loaded.page
        (zoneOf session.floor session.asked.server) ∧
      ∀ row ∈ session.loaded.queue,
        Fine session.leaflet row := by
  rcases Session.along_parts hCalm.drawn with
    ⟨hBefore, hBetween, _⟩
  have hNothing :
      ∀ row ∈ ([] : List ZoneRow),
        Fine session.leaflet row := by
    intro row hMem
    cases hMem
  rcases shownAs_run_feedStep session.leaflet
      session.floor
      ⟨session.server, [], ZonePage.blank⟩
      shownAs_blank hNothing hBefore with
    ⟨_, _, hAsked, hAskedQueue⟩
  rcases shownAs_run_feedStep session.leaflet
      session.floor session.asked hAsked hAskedQueue
      hBetween with
    ⟨_, _, hAnswered, hAnsweredQueue⟩
  have hListed :
      ∀ row ∈ firstPage session.floor
          session.asked.server,
        Drawable session.leaflet row.2 := by
    intro row hMem
    apply hCalm.listed row
    rw [mem_activeRows]
    exact (mem_firstPage_iff hCalm.short row).mp hMem
  rcases shownAs_processFullData hAnswered hListed with
    ⟨later, hLater, hShown⟩
  have hPage : session.loaded.page = later := by
    exact congrArg caught hLater
  refine ⟨?_, hAnsweredQueue⟩
  rw [hPage]
  refine ⟨hShown.labelled, ?_⟩
  intro id
  rw [hShown.same id, lastRow?_firstPage hCalm.short]

/- What the page shows when all deltas are processed. -/
theorem shown_final
    (hDelivered : session.final.queue = [])
    (id : Nat) :
    session.final.page.shown id =
      lastWord id session.lateDeltas
        (zoneOf session.floor session.asked.server id) := by
  rcases loaded_shown hCalm with ⟨hPage, hQueue⟩
  rcases shownAs_run_feedStep session.leaflet
      session.floor session.loaded hPage hQueue
      (Session.along_parts hCalm.drawn).2.2 with
    ⟨processed, hSplit, hShown, _⟩
  change _ = processed ++ session.final.queue at hSplit
  rw [hDelivered, List.append_nil] at hSplit
  change session.lateDeltas = processed at hSplit
  rw [hSplit, ← foldl_deltaShown]
  exact hShown.same id

/-
  Once all deltas are processed, an undisturbed page shows
  exactly the active geofences of its floor.
-/
theorem map_exact
    (hDelivered : session.final.queue = []) :
    session.Exact := by
  intro id
  rcases Session.along_parts hCalm.loud with
    ⟨_, hBetween, hAfter⟩
  have hAnswered :
      zoneOf session.floor session.answered.server id =
        lastWord id
          (announcedAll session.floor session.asked.server
            session.between)
          (zoneOf session.floor session.asked.server
            id) := by
    rw [← zoneOf_run_serverStep hBetween]
    congr 1
    exact server_run_feedStep _ _ _ _
  have hFinal :
      zoneOf session.floor session.final.server id =
        lastWord id
          (announcedAll session.floor
            session.answered.server session.after)
          (zoneOf session.floor session.answered.server
            id) := by
    rw [← zoneOf_run_serverStep hAfter]
    congr 1
    exact server_run_feedStep _ _ _ _
  have hLate :
      session.lateDeltas =
        session.asked.queue.drop
            (deliveries session.between) ++
          announcedAll session.floor session.asked.server
            session.between ++
          announcedAll session.floor
            session.answered.server session.after := by
    unfold Session.lateDeltas
    congr 1
    exact queue_run_feedStep _ _ _ hCalm.behind
  rw [shown_final hCalm hDelivered, hLate, lastWord_append,
    lastWord_append, lastWord_old hCalm, ← hAnswered,
    ← hFinal]

end Exactness

/- Leaflet throws where the latitude is missing. -/
def browserLeaflet : Leaflet where
  canPlace := fun _ y => y.isSome
  canPlace_some := fun _ _ => rfl

/- A zone of the first floor. -/
def sampleZone
    (severity : ZoneSeverity) :
    Geofence where
  floor := 1
  name := "용해로 주변"
  geofenceType := .circle
  severity := severity
  origin := .manual ""
  isActive := true
  centerX := some 0
  centerY := some 0
  radius := some 5
  polygonData := none

/- A page that is opened while nothing happens. -/
def calmSession
    (server : List Geofence) :
    Session where
  leaflet := browserLeaflet
  floor := 1
  server := ⟨server⟩
  before := []
  between := []
  after := []

/-
  A warning grows into danger before the list is read, and
  a zone is drawn while the answer is on its way.
-/
def busySession : Session :=
  { calmSession [sampleZone .warning] with
    before :=
      [.save 0 fun zone => { zone with severity := .danger }]
    between := [.deliver, .create (sampleZone .warning)]
    after := [.destroy 0, .deliver, .deliver] }

/- One zone more than a page has room for. -/
def crowdedSession : Session :=
  calmSession
    (List.replicate 20 (sampleZone .warning) ++
      [sampleZone .danger])

/- The destruction of a zone overtakes the list. -/
def overtakenSession : Session :=
  { calmSession [sampleZone .danger] with
    between := [.destroy 0, .deliver] }

/- A zone without a centre is listed before another. -/
def centrelessSession : Session :=
  calmSession
    [sampleZone .danger,
      { sampleZone .warning with
        centerX := none
        centerY := none }]

/- The map editor switches a zone off. -/
def silentSession : Session :=
  { calmSession [sampleZone .danger] with
    after := [.bulkSave 0 Geofence.deactivate] }

/- The busy page follows the map of its floor. -/
theorem map_exact_busy : busySession.Exact :=
  map_exact
    { loud := by
        refine
          ⟨?_, fun _ _ => rfl, ?_, ?_, fun _ _ => rfl,
            fun _ _ => rfl, trivial⟩
        all_goals
          intro hSilent
          exact absurd hSilent (by decide +kernel)
      drawn := by decide +kernel
      listed := by decide +kernel
      short := by decide +kernel
      behind := by decide +kernel }
    (by decide +kernel)

/-
  Behind twenty warnings the list has no room for a danger
  zone; an overtaken list brings a destroyed zone back; a
  zone without a centre ends the list before the next one;
  and a bulk save is not told.
-/
theorem map_not_exact :
    (crowdedSession.final.queue = [] ∧
        ¬ crowdedSession.Exact) ∧
      (overtakenSession.final.queue = [] ∧
        ¬ overtakenSession.Exact) ∧
      (centrelessSession.final.queue = [] ∧
        ¬ centrelessSession.Exact) ∧
      (silentSession.final.queue = [] ∧
        ¬ silentSession.Exact) := by
  refine ⟨⟨rfl, ?_⟩, ⟨rfl, ?_⟩, ⟨rfl, ?_⟩, ⟨rfl, ?_⟩⟩
  · intro hExact
    exact absurd (hExact 20) (by decide +kernel)
  · intro hExact
    exact absurd (hExact 0) (by decide +kernel)
  · intro hExact
    exact absurd (hExact 0) (by decide +kernel)
  · intro hExact
    exact absurd (hExact 0) (by decide +kernel)

end Facilities

end Icmp2
