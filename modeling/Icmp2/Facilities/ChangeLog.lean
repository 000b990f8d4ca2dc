import Icmp2.Facilities.MapViews

/-
  What the change log says of the objects of the map.

  Main definitions include:
    * `Icmp2.Facilities.MapStore.captured?`
    * `Icmp2.Facilities.Truthful`
    * `Icmp2.Facilities.LogTruthful`
    * `Icmp2.Facilities.SaveOutcome.Recorded`
    * `Icmp2.Facilities.LogRecorded`

  Main theorems include:
    * `Icmp2.Facilities.performUpdate_truthful_iff`
    * `Icmp2.Facilities.performDestroyNode_truthful_iff`
    * `Icmp2.Facilities.changeLog_truthful_iff`

  An update is logged behind the save, and a deletion before
  it; each may fail when the other has been done.
-/

------------------------------------------------------------
-- Truthful Actions
------------------------------------------------------------

namespace Icmp2

namespace Facilities

open Library

/- The captured state of an object that is there. -/
def MapStore.captured?
    (store : MapStore) :
    MapKey → Option Captured
  | (.equipment, id) =>
      (store.equipments.get? id).map .equipment
  | (.locationNode, id) =>
      (store.nodes.get? id).map .locationNode
  | (.sensor, id) =>
      (store.sensors.get? id).map .sensor
  | (.geofence, id) =>
      (store.geofences.get? id).map .geofence

/- The rows of a log that are about an object. -/
def rowsAbout
    (key : MapKey)
    (rows : List ChangeLogRow) :
    List ChangeLogRow :=
  rows.filter fun row => row.target = key

/-
  The log gets the rows of an action: one with both states
  for an object that changed, and none for one that a failed
  action left as it was.
-/
structure Tells
    (store later : MapStore)
    (failed : Prop)
    (rows : List ChangeLogRow) :
    Prop where
  appended : later.changeLog = store.changeLog ++ rows
  changed :
    ∀ key,
      later.captured? key ≠ store.captured? key →
        ∃ row,
          rowsAbout key rows = [row] ∧
            row.before = store.captured? key ∧
            row.after = later.captured? key
  failed :
    failed →
      ∀ key,
        later.captured? key = store.captured? key →
          rowsAbout key rows = []

/- The log is truthful about what the action does. -/
def Truthful
    (store : MapStore)
    (action : MapAction Unit) :
    Prop :=
  ∃ rows,
    Tells store (action.stateAfter store)
      (action.error? store ≠ none) rows

/- The same of every item, for a request that saves many. -/
def RequestTruthful
    (actor : Option Nat)
    (store : MapStore) :
    MapRequest → Prop
  | .create _ => True
  | .update query id isPartial data =>
      Truthful store
        (updateRequest actor query id isPartial data)
  | .destroy query kind id =>
      Truthful store (destroyRequest actor query id kind)
  | .bulkSave items =>
      Along (itemStep actor)
        (fun state item =>
          Truthful state (bulkItem actor item.1 item.2))
        store (readItems items)

def LogTruthful
    (store : MapStore) :
    MapApiOp → Prop
  | .request actor request =>
      RequestTruthful actor store request
  | .deleteFloor _ => True
  | .device _ => True

end Facilities

end Icmp2

------------------------------------------------------------
-- Conditions
------------------------------------------------------------

namespace Icmp2

namespace Facilities

open Library

/-
  A save is recorded if the row stays the same, or if it is
  stored without an exception and both rows can be logged.
-/
def SaveOutcome.Recorded
    {Row : Type}
    (capture : Row → Captured)
    (old : Row) :
    SaveOutcome Row → Prop
  | .refused => True
  | .interrupted row => row = old
  | .stored row =>
      row = old ∨
        (capture old).isJson = true ∧
          (capture row).isJson = true

/- The condition on an update of a model. -/
def MapModel.UpdateRecorded
    {Row Data : Type}
    (model : MapModel Row Data)
    (outcome : MapStore → Nat → Row → SaveOutcome Row)
    (store : MapStore)
    (inQuery : Row → Bool)
    (id : Nat)
    (isPartial : Bool)
    (data : Option Data) :
    Prop :=
  ∀ row attrs,
    model.accepted? store inQuery id isPartial data =
        some (row, attrs) →
      (outcome store id
        (model.serializer.update row attrs)).Recorded
          model.capture row

/- A table without signals stores the row as it is. -/
def tableOutcome
    {Row : Type}
    (_ : MapStore)
    (_ : Nat)
    (row : Row) :
    SaveOutcome Row :=
  .stored row

def nodeOutcome
    (store : MapStore)
    (id : Nat)
    (row : LocationNode) :
    SaveOutcome LocationNode :=
  store.toNodeStore.saveOutcome id row

def UpdateRecorded
    (store : MapStore)
    (query : MapQuery)
    (id : Nat)
    (isPartial : Bool) :
    MapData → Prop
  | .equipment data =>
      equipmentModel.UpdateRecorded tableOutcome store
        query.equipment id isPartial data
  | .locationNode data =>
      locationNodeModel.UpdateRecorded nodeOutcome store
        query.locationNode id isPartial data
  | .sensor data =>
      sensorLocationModel.UpdateRecorded tableOutcome store
        query.sensor id isPartial data
  | .geofence data =>
      geofenceModel.UpdateRecorded tableOutcome store
        query.geofence id isPartial data

/- An item is looked up by its id alone. -/
def ItemRecorded
    (store : MapStore)
    (id : Nat) :
    MapData → Prop
  | .equipment data =>
      equipmentModel.UpdateRecorded tableOutcome store
        (fun _ => true) id true data
  | .locationNode data =>
      locationNodeModel.UpdateRecorded nodeOutcome store
        (fun _ => true) id true data
  | .sensor data =>
      sensorLocationModel.UpdateRecorded tableOutcome store
        (fun _ => true) id true data
  | .geofence data =>
      geofenceModel.UpdateRecorded tableOutcome store
        (fun _ => true) id true data

/-
  The condition on a deletion: a node that a reading holds
  cannot be logged, and an active geofence can.
-/
def DestroyRecorded
    (store : MapStore)
    (query : MapQuery)
    (id : Nat) :
    MapKind → Prop
  | .equipment => True
  | .locationNode =>
      ∀ row,
        (store.nodes.get? id).filter query.locationNode =
            some row →
          store.nodeProtected id = true →
            (Captured.locationNode row).isJson = false
  | .sensor => True
  | .geofence =>
      ∀ row,
        (store.geofences.get? id).filter query.geofence =
            some row →
          row.isActive = true →
            (Captured.geofence row).isJson = true

def RequestRecorded
    (actor : Option Nat)
    (store : MapStore) :
    MapRequest → Prop
  | .create _ => True
  | .update query id isPartial data =>
      UpdateRecorded store query id isPartial data
  | .destroy query kind id =>
      DestroyRecorded store query id kind
  | .bulkSave items =>
      Along (itemStep actor)
        (fun state item =>
          ItemRecorded state item.1 item.2)
        store (readItems items)

/- The condition on one step. -/
def LogRecorded
    (store : MapStore) :
    MapApiOp → Prop
  | .request actor request =>
      RequestRecorded actor store request
  | .deleteFloor _ => True
  | .device _ => True

end Facilities

end Icmp2

------------------------------------------------------------
-- One Object
------------------------------------------------------------

namespace Icmp2

namespace Facilities

open Library

/- Nothing but the object was written, and nothing logged. -/
structure MapStore.WroteOnly
    (store : MapStore)
    (key : MapKey)
    (later : MapStore) :
    Prop where
  changeLog : later.changeLog = store.changeLog
  others :
    ∀ other,
      other ≠ key →
        later.captured? other = store.captured? other

/- The store with one more row in the log. -/
def MapStore.logged
    (store : MapStore)
    (row : ChangeLogRow) :
    MapStore :=
  { store with changeLog := store.changeLog ++ [row] }

@[simp] theorem captured?_logged
    (store : MapStore)
    (row : ChangeLogRow)
    (key : MapKey) :
    (store.logged row).captured? key =
      store.captured? key := by
  rcases key with ⟨kind, id⟩
  cases kind <;> rfl

theorem rowsAbout_self
    (row : ChangeLogRow) :
    rowsAbout row.target [row] = [row] := by
  simp [rowsAbout]

section Ends

variable {store later : MapStore}
variable {action : MapAction Unit}
variable {error : MapError}
variable {key : MapKey}
variable {row : ChangeLogRow}

/- The log has no row more than the rows that are told. -/
theorem Tells.rows_eq
    {failed : Prop}
    {rows new : List ChangeLogRow}
    (hTells : Tells store later failed rows)
    (hLog : later.changeLog = store.changeLog ++ new) :
    rows = new :=
  List.append_cancel_left (hTells.appended.symm.trans hLog)

/- Two actions that end in the same way. -/
theorem truthful_congr
    {other : MapAction Unit}
    (hSame : action store = other store) :
    Truthful store action ↔ Truthful store other := by
  unfold Truthful Action.stateAfter Action.error?
  rw [hSame]

/- An exception before anything is done. -/
theorem truthful_of_refused
    (hError : action store = .error error store) :
    Truthful store action := by
  refine ⟨[], ?_, ?_, ?_⟩
  · rw [Action.stateAfter_of_error hError,
      List.append_nil]
  · intro key hChanged
    rw [Action.stateAfter_of_error hError] at hChanged
    exact absurd rfl hChanged
  · intro _ _ _
    rfl

/- An exception behind the write, with nothing logged. -/
theorem truthful_iff_of_interrupted
    (hError : action store = .error error later)
    (hWrote : store.WroteOnly key later) :
    Truthful store action ↔
      later.captured? key = store.captured? key := by
  have hLater := Action.stateAfter_of_error hError
  constructor
  · rintro ⟨rows, hTells⟩
    rw [hLater] at hTells
    have hRows : rows = [] := by
      apply hTells.rows_eq
      rw [hWrote.changeLog, List.append_nil]
    subst hRows
    by_contra hChanged
    rcases hTells.changed key hChanged with ⟨row, hRow, _⟩
    cases hRow
  · intro hSame
    refine ⟨[], ?_, ?_, ?_⟩
    · rw [hLater, hWrote.changeLog, List.append_nil]
    · intro other hChanged
      rw [hLater] at hChanged
      by_cases hKey : other = key
      · rw [hKey] at hChanged
        exact absurd hSame hChanged
      · exact absurd (hWrote.others other hKey) hChanged
    · intro _ _ _
      rfl

/- An exception behind the log, with nothing done. -/
theorem not_truthful_of_logged
    (hError : action store = .error error (store.logged row)) :
    ¬ Truthful store action := by
  rintro ⟨rows, hTells⟩
  rw [Action.stateAfter_of_error hError] at hTells
  have hRows : rows = [row] := hTells.rows_eq rfl
  subst hRows
  have hFailed : action.error? store ≠ none := by
    simp only [Action.error?, hError]
    exact Option.some_ne_none error
  have hNone :=
    hTells.failed hFailed row.target
      (captured?_logged store row row.target)
  rw [rowsAbout_self] at hNone
  cases hNone

/- The write and its row in the log, in either order. -/
theorem truthful_of_logged
    (hOk : action store = .ok () later)
    (hLog : later.changeLog = store.changeLog ++ [row])
    (hOthers :
      ∀ other,
        other ≠ row.target →
          later.captured? other = store.captured? other)
    (hBefore : row.before = store.captured? row.target)
    (hAfter : row.after = later.captured? row.target) :
    Truthful store action := by
  have hLater := Action.stateAfter_of_ok hOk
  refine ⟨[row], ?_, ?_, ?_⟩
  · rw [hLater, hLog]
  · intro key hChanged
    rw [hLater] at hChanged
    by_cases hKey : key = row.target
    · subst hKey
      refine ⟨row, rowsAbout_self row, hBefore, ?_⟩
      rw [hLater, hAfter]
    · exact absurd (hOthers key hKey) hChanged
  · intro hFailed
    simp only [Action.error?, hOk] at hFailed
    exact absurd rfl hFailed

end Ends

/- `log_change`, by what it is given. -/
theorem logChange_of_json
    (actor : Option Nat)
    (target : MapKey)
    (before after : Option Captured)
    (action : ChangeAction)
    (store : MapStore)
    (hBefore : before.all Captured.isJson = true)
    (hAfter : after.all Captured.isJson = true) :
    logChange actor target before after action store =
      .ok ()
        (store.logged
          ⟨actor, target, action, before, after⟩) :=
  if_pos ⟨hBefore, hAfter⟩

theorem logChange_of_not_json
    (actor : Option Nat)
    (target : MapKey)
    (before after : Option Captured)
    (action : ChangeAction)
    (store : MapStore)
    (hNot :
      ¬ (before.all Captured.isJson = true ∧
        after.all Captured.isJson = true)) :
    logChange actor target before after action store =
      .error .dataError store :=
  if_neg hNot

end Facilities

end Icmp2

------------------------------------------------------------
-- Updates and Deletions
------------------------------------------------------------

namespace Icmp2

namespace Facilities

open Library

variable {Row Data : Type}

/- The captured states of a model are those of its rows. -/
structure MapModel.Captures
    (model : MapModel Row Data) :
    Prop where
  eq_map :
    ∀ (store : MapStore) id,
      store.captured? (model.kind, id) =
        ((model.rows store).get? id).map model.capture
  injective : Function.Injective model.capture

/- A save of the model ends as the outcome says. -/
def MapModel.SaveEnds
    (model : MapModel Row Data)
    (store : MapStore)
    (id : Nat)
    (row : Row) :
    SaveOutcome Row → Prop
  | .refused =>
      ∃ error, model.save id row store = .error error store
  | .interrupted written =>
      ∃ error later,
        model.save id row store = .error error later ∧
          store.WroteOnly (model.kind, id) later ∧
          (model.rows later).get? id = some written
  | .stored written =>
      ∃ later,
        model.save id row store = .ok () later ∧
          store.WroteOnly (model.kind, id) later ∧
          (model.rows later).get? id = some written

/- A deletion of the model that goes through. -/
def MapModel.DeleteEnds
    (model : MapModel Row Data)
    (store : MapStore)
    (id : Nat) :
    Prop :=
  ∃ later,
    model.delete id store = .ok () later ∧
      store.WroteOnly (model.kind, id) later ∧
      (model.rows later).get? id = none

section Performed

variable {model : MapModel Row Data}
variable {store later : MapStore}
variable {id : Nat}
variable {row written : Row}
variable {attrs : Data}
/- The row of the log comes behind the save. -/
theorem performUpdate_of_stored
    (actor : Option Nat)
    (hSave :
      model.save id (model.serializer.update row attrs)
          store =
        .ok () later)
    (hLater : (model.rows later).get? id = some written) :
    model.performUpdate actor id row attrs store =
      logChange actor (model.kind, id)
        (some (model.capture row))
        (some (model.capture written)) .update later := by
  rw [MapModel.performUpdate, Action.bind_of_ok hSave,
    Action.get_bind, hLater]
  rfl

/- The log comes first; what it does not take stays. -/
theorem performDestroy_of_not_json
    (actor : Option Nat)
    (store : MapStore)
    (hNot : (model.capture row).isJson ≠ true) :
    model.performDestroy actor id row store =
      .error .dataError store := by
  apply Action.bind_of_error
  apply logChange_of_not_json
  rintro ⟨hJson, _⟩
  exact hNot hJson

theorem performDestroy_of_json
    (actor : Option Nat)
    (store : MapStore)
    (hJson : (model.capture row).isJson = true) :
    model.performDestroy actor id row store =
      model.delete id
        (store.logged
          ⟨actor, (model.kind, id), .delete,
            some (model.capture row), none⟩) :=
  Action.bind_of_ok
    (logChange_of_json actor _ _ _ _ store hJson rfl)

variable (hCaptures : model.Captures)

include hCaptures

theorem captured?_of_get?
    (hGet : (model.rows store).get? id = some row) :
    store.captured? (model.kind, id) =
      some (model.capture row) := by
  rw [hCaptures.eq_map, hGet, Option.map_some]

/- The captured state tells whether a row has changed. -/
theorem captured?_eq_iff
    (hGet : (model.rows store).get? id = some row)
    (hLater : (model.rows later).get? id = some written) :
    later.captured? (model.kind, id) =
        store.captured? (model.kind, id) ↔
      written = row := by
  rw [captured?_of_get? hCaptures hGet,
    captured?_of_get? hCaptures hLater, Option.some.injEq]
  exact hCaptures.injective.eq_iff

/- A row is written, and then both states are logged. -/
theorem truthful_iff_of_log_after
    {perform : MapAction Unit}
    {action : ChangeAction}
    {actor : Option Nat}
    (hPerform :
      perform store =
        logChange actor (model.kind, id)
          (some (model.capture row))
          (some (model.capture written)) action later)
    (hWrote : store.WroteOnly (model.kind, id) later)
    (hGet : (model.rows store).get? id = some row)
    (hLater : (model.rows later).get? id = some written) :
    Truthful store perform ↔
      written = row ∨
        (model.capture row).isJson = true ∧
          (model.capture written).isJson = true := by
  by_cases hJson :
      (model.capture row).isJson = true ∧
        (model.capture written).isJson = true
  · have hLogged :=
      hPerform.trans
        (logChange_of_json actor _ _ _ _ later hJson.1
          hJson.2)
    refine iff_of_true ?_ (Or.inr hJson)
    apply truthful_of_logged hLogged
    · rw [MapStore.logged, hWrote.changeLog]
    · intro other hOther
      rw [captured?_logged]
      exact hWrote.others other hOther
    · exact (captured?_of_get? hCaptures hGet).symm
    · rw [captured?_logged]
      exact (captured?_of_get? hCaptures hLater).symm
  · have hRaised :=
      hPerform.trans
        (logChange_of_not_json actor _ _ _ _ later hJson)
    rw [truthful_iff_of_interrupted hRaised hWrote,
      captured?_eq_iff hCaptures hGet hLater]
    exact (or_iff_left hJson).symm

/- What an update does is logged as the outcome says. -/
theorem performUpdate_truthful_iff
    {outcome : SaveOutcome Row}
    (actor : Option Nat)
    (hGet : (model.rows store).get? id = some row)
    (hEnds :
      model.SaveEnds store id
        (model.serializer.update row attrs) outcome) :
    Truthful store
        (model.performUpdate actor id row attrs) ↔
      outcome.Recorded model.capture row := by
  cases outcome with
  | refused =>
      rcases hEnds with ⟨error, hSave⟩
      refine iff_of_true ?_ trivial
      exact
        truthful_of_refused (Action.bind_of_error hSave)
  | interrupted written =>
      rcases hEnds with
        ⟨error, later, hSave, hWrote, hLater⟩
      have hPerform :
          model.performUpdate actor id row attrs store =
            .error error later :=
        Action.bind_of_error hSave
      rw [truthful_iff_of_interrupted hPerform hWrote]
      exact captured?_eq_iff hCaptures hGet hLater
  | stored written =>
      rcases hEnds with ⟨later, hSave, hWrote, hLater⟩
      exact
        truthful_iff_of_log_after hCaptures
          (performUpdate_of_stored actor hSave hLater)
          hWrote hGet hLater

/- A deletion that goes through is logged. -/
theorem performDestroy_truthful
    (actor : Option Nat)
    (hGet : (model.rows store).get? id = some row)
    (hEnds :
      ∀ logged,
        model.DeleteEnds (store.logged logged) id) :
    Truthful store (model.performDestroy actor id row) := by
  by_cases hJson : (model.capture row).isJson = true
  · rcases hEnds _ with ⟨later, hDelete, hWrote, hLater⟩
    have hPerform :=
      (performDestroy_of_json actor store hJson).trans
        hDelete
    apply truthful_of_logged hPerform hWrote.changeLog
    · intro other hOther
      rw [hWrote.others other hOther, captured?_logged]
    · exact (captured?_of_get? hCaptures hGet).symm
    · change none = later.captured? (model.kind, id)
      rw [hCaptures.eq_map, hLater, Option.map_none]
  · exact
      truthful_of_refused
        (performDestroy_of_not_json actor store hJson)

end Performed

end Facilities

end Icmp2

------------------------------------------------------------
-- Models
------------------------------------------------------------

namespace Icmp2

namespace Facilities

open Library

theorem equipmentModel_captures :
    equipmentModel.Captures where
  eq_map := fun _ _ => rfl
  injective := fun _ _ => Captured.equipment.inj

theorem locationNodeModel_captures :
    locationNodeModel.Captures where
  eq_map := fun _ _ => rfl
  injective := fun _ _ => Captured.locationNode.inj

theorem sensorLocationModel_captures :
    sensorLocationModel.Captures where
  eq_map := fun _ _ => rfl
  injective := fun _ _ => Captured.sensor.inj

theorem geofenceModel_captures :
    geofenceModel.Captures where
  eq_map := fun _ _ => rfl
  injective := fun _ _ => Captured.geofence.inj

/- A table of the map that is written on its own. -/
structure IsTable
    {Row : Type}
    (kind : MapKind)
    (rows : MapStore → Rows Row)
    (setRows : MapStore → Rows Row → MapStore) :
    Prop where
  rows_setRows :
    ∀ store later, rows (setRows store later) = later
  wroteOnly :
    ∀ (store : MapStore) later id,
      (∀ other,
        other ≠ id →
          later.get? other = (rows store).get? other) →
        store.WroteOnly (kind, id) (setRows store later)

/- Another id of the same model. -/
theorem id_ne_of_key_ne
    {kind : MapKind}
    {id other : Nat}
    (hNe : (kind, other) ≠ (kind, id)) :
    other ≠ id := by
  rintro rfl
  exact hNe rfl

theorem equipment_isTable :
    IsTable .equipment MapStore.equipments
      fun store rows => { store with equipments := rows } where
  rows_setRows := fun _ _ => rfl
  wroteOnly := by
    intro store later id hSame
    refine ⟨rfl, ?_⟩
    rintro ⟨kind, other⟩ hNe
    cases kind with
    | equipment =>
        exact
          congrArg (Option.map _)
            (hSame other (id_ne_of_key_ne hNe))
    | locationNode => rfl
    | sensor => rfl
    | geofence => rfl

theorem sensor_isTable :
    IsTable .sensor MapStore.sensors
      fun store rows => { store with sensors := rows } where
  rows_setRows := fun _ _ => rfl
  wroteOnly := by
    intro store later id hSame
    refine ⟨rfl, ?_⟩
    rintro ⟨kind, other⟩ hNe
    cases kind with
    | equipment => rfl
    | locationNode => rfl
    | sensor =>
        exact
          congrArg (Option.map _)
            (hSame other (id_ne_of_key_ne hNe))
    | geofence => rfl

theorem geofence_isTable :
    IsTable .geofence MapStore.geofences
      fun store rows => { store with geofences := rows } where
  rows_setRows := fun _ _ => rfl
  wroteOnly := by
    intro store later id hSame
    refine ⟨rfl, ?_⟩
    rintro ⟨kind, other⟩ hNe
    cases kind with
    | equipment => rfl
    | locationNode => rfl
    | sensor => rfl
    | geofence =>
        exact
          congrArg (Option.map _)
            (hSame other (id_ne_of_key_ne hNe))

section Tables

variable {Row Data : Type}
variable {kind : MapKind}
variable {serializer : MapSerializer Row Data}
variable {rows : MapStore → Rows Row}
variable {setRows : MapStore → Rows Row → MapStore}
variable {capture : Row → Captured}

theorem tableModel_saveEnds
    {store : MapStore}
    {id : Nat}
    {old : Row}
    (hTable : IsTable kind rows setRows)
    (hGet : (rows store).get? id = some old)
    (row : Row) :
    (tableModel kind serializer rows setRows
      capture).SaveEnds store id row
        (tableOutcome store id row) := by
  refine ⟨_, rfl, ?_, ?_⟩
  · apply hTable.wroteOnly
    intro other hNe
    exact Rows.get?_set_of_ne hNe row
  · change (rows (setRows store _)).get? id = some row
    rw [hTable.rows_setRows]
    exact Rows.get?_set_self hGet row

theorem tableModel_deleteEnds
    (hTable : IsTable kind rows setRows)
    (store : MapStore)
    (id : Nat) :
    (tableModel kind serializer rows setRows
      capture).DeleteEnds store id := by
  refine ⟨_, rfl, ?_, ?_⟩
  · apply hTable.wroteOnly
    intro other hNe
    exact Rows.get?_erase_of_ne hNe _
  · change (rows (setRows store _)).get? id = none
    rw [hTable.rows_setRows]
    exact Rows.get?_erase_self _ id

end Tables

section Nodes

variable {store : MapStore}
variable {later : NodeStore}
variable {id : Nat}
variable {row : LocationNode}

theorem wroteOnly_nodes
    (hSame :
      ∀ other,
        other ≠ id →
          later.nodes.get? other = store.nodes.get? other) :
    store.WroteOnly (.locationNode, id)
      { store with toNodeStore := later } := by
  refine ⟨rfl, ?_⟩
  rintro ⟨kind, other⟩ hNe
  cases kind with
  | equipment => rfl
  | locationNode =>
      exact
        congrArg (Option.map _)
          (hSame other (id_ne_of_key_ne hNe))
  | sensor => rfl
  | geofence => rfl

/- A node that is written, with its signal. -/
theorem wroteOnly_setNode
    {old : LocationNode}
    (hGet : store.nodes.get? id = some old)
    (hNodes : later.nodes = store.nodes.set id row) :
    store.WroteOnly (.locationNode, id)
        { store with toNodeStore := later } ∧
      later.nodes.get? id = some row := by
  rw [hNodes]
  refine ⟨?_, Rows.get?_set_self hGet row⟩
  apply wroteOnly_nodes
  intro other hNe
  rw [hNodes]
  exact Rows.get?_set_of_ne hNe row

/- An action on the nodes whose value is not needed. -/
theorem onNodes_of_ok
    {action : SyncAction Nat}
    (hOk : action store.toNodeStore = .ok id later) :
    onNodes (do
      let _ ← action
      pure ()) store =
      .ok () { store with toNodeStore := later } := by
  rw [onNodes, Action.bind_of_ok hOk]
  rfl

theorem onNodes_of_error
    {action : SyncAction Nat}
    {error : SyncError}
    (hError :
      action store.toNodeStore = .error error later) :
    onNodes (do
      let _ ← action
      pure ()) store =
      .error (.sync error)
        { store with toNodeStore := later } := by
  rw [onNodes, Action.bind_of_error hError]

theorem locationNodeModel_saveEnds
    {old : LocationNode}
    (hIntact : store.Intact)
    (hGet : store.nodes.get? id = some old)
    (row : LocationNode) :
    locationNodeModel.SaveEnds store id row
      (nodeOutcome store id row) := by
  have hEffect := nodeCall_saveNode hIntact hGet row
  rw [nodeOutcome]
  cases hOutcome :
      store.toNodeStore.saveOutcome id row with
  | refused =>
      rw [hOutcome] at hEffect
      rcases hEffect with ⟨error, hCall⟩
      exact ⟨.sync error, onNodes_of_error hCall⟩
  | interrupted written =>
      rw [hOutcome] at hEffect
      rcases hEffect with ⟨error, later, hCall, hNodes⟩
      exact
        ⟨.sync error, _, onNodes_of_error hCall,
          wroteOnly_setNode hGet hNodes⟩
  | stored written =>
      rw [hOutcome] at hEffect
      rcases hEffect with ⟨later, hCall, hNodes⟩
      exact
        ⟨_, onNodes_of_ok hCall,
          wroteOnly_setNode hGet hNodes⟩

theorem locationNodeModel_deleteEnds
    (hIntact : store.Intact)
    (hGet : store.nodes.get? id = some row)
    (hFree : store.nodeProtected id = false) :
    locationNodeModel.DeleteEnds store id := by
  rcases nodeCall_deleteNode hIntact hGet hFree with
    ⟨later, hCall, hNodes⟩
  refine ⟨_, onNodes_of_ok hCall, ?_, ?_⟩
  · apply wroteOnly_nodes
    intro other hNe
    rw [hNodes other]
    exact Rows.get?_erase_of_ne hNe _
  · exact (hNodes id).trans (Rows.get?_erase_self _ id)

/-
  A node that a reading holds stays, behind a row of the log
  that says it is gone, if it can be logged.
-/
theorem performDestroyNode_truthful_iff
    (actor : Option Nat)
    (hIntact : store.Intact)
    (hGet : store.nodes.get? id = some row) :
    Truthful store
        (locationNodeModel.performDestroy actor id row) ↔
      (store.nodeProtected id = true →
        (Captured.locationNode row).isJson = false) := by
  cases hHeld : store.nodeProtected id with
  | false =>
      refine iff_of_true ?_ ?_
      · apply
          performDestroy_truthful locationNodeModel_captures
            actor hGet
        intro logged
        exact
          locationNodeModel_deleteEnds hIntact hGet hHeld
      · intro hTrue
        cases hTrue
  | true =>
      cases hJson : (Captured.locationNode row).isJson with
      | false =>
          refine iff_of_true ?_ fun _ => rfl
          apply truthful_of_refused
          apply performDestroy_of_not_json
          exact ne_true_of_eq_false hJson
      | true =>
          refine iff_of_false ?_ ?_
          · have hRaised :
                ∀ logged,
                  locationNodeModel.delete id
                      (store.logged logged) =
                    .error (.sync .protectedError)
                      (store.logged logged) := by
              intro logged
              exact
                onNodes_of_error
                  (nodeCall_deleteNode_held hGet hHeld)
            exact
              not_truthful_of_logged
                ((performDestroy_of_json actor store
                  hJson).trans (hRaised _))
          · intro hFalse
            cases hFalse rfl

end Nodes

section Geofences

variable {store : MapStore}
variable {id : Nat}
variable {row : GeofenceRow}

/-
  The deletion of a geofence is an update of its flag, with
  another word in the log.
-/
theorem performDestroyGeofence_truthful_iff
    (actor : Option Nat)
    (hGet : store.geofences.get? id = some row) :
    Truthful store (performDestroyGeofence actor id row) ↔
      (row.isActive = true →
        (Captured.geofence row).isJson = true) := by
  have hEnds :
      geofenceModel.SaveEnds store id
        { row with isActive := false }
        (.stored { row with isActive := false }) :=
    tableModel_saveEnds geofence_isTable hGet _
  rcases hEnds with ⟨later, hSave, hWrote, hLater⟩
  have hPerform :
      performDestroyGeofence actor id row store =
        logChange actor (.geofence, id)
          (some (Captured.geofence row))
          (some
            (Captured.geofence { row with isActive := false }))
          .delete later := by
    rw [performDestroyGeofence, Action.bind_of_ok hSave]
  have hFlag :
      { row with isActive := false } = row ↔
        row.isActive = false := by
    constructor
    · intro hSame
      rw [← hSame]
    · intro hInactive
      rw [← hInactive]
  rw [truthful_iff_of_log_after geofenceModel_captures
    hPerform hWrote hGet hLater, hFlag]
  have hJson :
      (Captured.geofence
          { row with isActive := false }).isJson =
        (Captured.geofence row).isJson :=
    rfl
  change
    row.isActive = false ∨
        (Captured.geofence row).isJson = true ∧
          (Captured.geofence
            { row with isActive := false }).isJson = true ↔
      _
  rw [hJson, and_self]
  cases row.isActive with
  | false => exact iff_of_true (Or.inl rfl) (by simp)
  | true => simp

end Geofences

end Facilities

end Icmp2

------------------------------------------------------------
-- Requests
------------------------------------------------------------

namespace Icmp2

namespace Facilities

open Library

variable {Row Data : Type}

/- An update that is accepted is what it performs. -/
theorem updateView_truthful_iff
    {model : MapModel Row Data}
    {outcome : MapStore → Nat → Row → SaveOutcome Row}
    {store : MapStore}
    {inQuery : Row → Bool}
    {id : Nat}
    {isPartial : Bool}
    {data : Option Data}
    (hCaptures : model.Captures)
    (actor : Option Nat)
    (hEnds :
      ∀ old row,
        (model.rows store).get? id = some old →
          model.SaveEnds store id row
            (outcome store id row)) :
    Truthful store
        (model.updateView actor inQuery id isPartial data) ↔
      model.UpdateRecorded outcome store inQuery id
        isPartial data := by
  cases hAccepted :
      model.accepted? store inQuery id isPartial data with
  | none =>
      refine iff_of_true ?_ ?_
      · rcases updateView_of_rejected hAccepted with
          ⟨error, hError⟩
        exact truthful_of_refused hError
      · intro row attrs hSome
        rw [hAccepted] at hSome
        cases hSome
  | some found =>
      rcases found with ⟨row, attrs⟩
      have hFind := (accepted?_eq_some hAccepted).1
      have hGet := (Option.filter_eq_some_iff.mp hFind).1
      have hPerform :=
        performUpdate_truthful_iff hCaptures actor hGet
          (hEnds row (model.serializer.update row attrs)
            hGet)
      rw [truthful_congr (updateView_of_accepted hAccepted),
        hPerform]
      constructor
      · intro hRecorded other given hSome
        rw [hAccepted] at hSome
        cases hSome
        exact hRecorded
      · intro hRecorded
        exact hRecorded row attrs hAccepted

/- A deletion of an object that is there is performed. -/
theorem destroyView_truthful_iff
    {model : MapModel Row Data}
    {perform : Nat → Row → MapAction Unit}
    {P : Row → Prop}
    {store : MapStore}
    {inQuery : Row → Bool}
    {id : Nat}
    (hPerform :
      ∀ row,
        (model.rows store).get? id = some row →
          (Truthful store (perform id row) ↔ P row)) :
    Truthful store (model.destroyView perform inQuery id) ↔
      ∀ row,
        ((model.rows store).get? id).filter inQuery =
            some row →
          P row := by
  cases hFind :
      ((model.rows store).get? id).filter inQuery with
  | none =>
      refine iff_of_true ?_ ?_
      · exact truthful_of_refused (destroyView_of_none hFind)
      · intro row hSome
        cases hSome
  | some row =>
      have hGet := (Option.filter_eq_some_iff.mp hFind).1
      rw [truthful_congr (destroyView_of_some hFind),
        hPerform row hGet]
      constructor
      · intro hRow other hSome
        cases hSome
        exact hRow
      · intro hAll
        exact hAll row rfl

/- Where nothing holds the row, the log tells of the end. -/
theorem destroyView_truthful
    {model : MapModel Row Data}
    {store : MapStore}
    {actor : Option Nat}
    {inQuery : Row → Bool}
    {id : Nat}
    (hCaptures : model.Captures)
    (hEnds :
      ∀ logged,
        model.DeleteEnds (store.logged logged) id) :
    Truthful store
      (model.destroyView (model.performDestroy actor)
        inQuery id) := by
  apply (destroyView_truthful_iff (P := fun _ => True) _).mpr
  · intro _ _
    trivial
  · intro row hGet
    apply iff_of_true _ trivial
    exact
      performDestroy_truthful hCaptures actor hGet hEnds

section Steps

variable {store : MapStore}
variable (hIntact : store.Intact)

include hIntact

/- The update of any model, whatever the query. -/
theorem updateRequest_truthful_iff
    (actor : Option Nat)
    (query : MapQuery)
    (id : Nat)
    (isPartial : Bool)
    (data : MapData) :
    Truthful store
        (updateRequest actor query id isPartial data) ↔
      UpdateRecorded store query id isPartial data := by
  cases data with
  | equipment data =>
      exact
        updateView_truthful_iff equipmentModel_captures actor
          fun _ row hGet =>
            tableModel_saveEnds equipment_isTable hGet row
  | locationNode data =>
      exact
        updateView_truthful_iff locationNodeModel_captures
          actor fun _ row hGet =>
            locationNodeModel_saveEnds hIntact hGet row
  | sensor data =>
      exact
        updateView_truthful_iff sensorLocationModel_captures
          actor fun _ row hGet =>
            tableModel_saveEnds sensor_isTable hGet row
  | geofence data =>
      exact
        updateView_truthful_iff geofenceModel_captures actor
          fun _ row hGet =>
            tableModel_saveEnds geofence_isTable hGet row

theorem bulkItem_truthful_iff
    (actor : Option Nat)
    (id : Nat)
    (data : MapData) :
    Truthful store (bulkItem actor id data) ↔
      ItemRecorded store id data := by
  cases data with
  | equipment data =>
      exact
        updateView_truthful_iff equipmentModel_captures actor
          fun _ row hGet =>
            tableModel_saveEnds equipment_isTable hGet row
  | locationNode data =>
      exact
        updateView_truthful_iff locationNodeModel_captures
          actor fun _ row hGet =>
            locationNodeModel_saveEnds hIntact hGet row
  | sensor data =>
      exact
        updateView_truthful_iff sensorLocationModel_captures
          actor fun _ row hGet =>
            tableModel_saveEnds sensor_isTable hGet row
  | geofence data =>
      exact
        updateView_truthful_iff geofenceModel_captures actor
          fun _ row hGet =>
            tableModel_saveEnds geofence_isTable hGet row

theorem destroyRequest_truthful_iff
    (actor : Option Nat)
    (query : MapQuery)
    (id : Nat)
    (kind : MapKind) :
    Truthful store (destroyRequest actor query id kind) ↔
      DestroyRecorded store query id kind := by
  cases kind with
  | equipment =>
      refine iff_of_true ?_ trivial
      apply destroyView_truthful equipmentModel_captures
      intro logged
      exact tableModel_deleteEnds equipment_isTable _ id
  | locationNode =>
      apply destroyView_truthful_iff
      intro row hGet
      exact performDestroyNode_truthful_iff actor hIntact hGet
  | sensor =>
      refine iff_of_true ?_ trivial
      apply destroyView_truthful sensorLocationModel_captures
      intro logged
      exact tableModel_deleteEnds sensor_isTable _ id
  | geofence =>
      apply destroyView_truthful_iff
      intro row hGet
      exact performDestroyGeofence_truthful_iff actor hGet

theorem request_truthful_iff
    (actor : Option Nat)
    (request : MapRequest) :
    RequestTruthful actor store request ↔
      RequestRecorded actor store request := by
  cases request with
  | create data => exact Iff.rfl
  | update query id isPartial data =>
      exact
        updateRequest_truthful_iff hIntact actor query id
          isPartial data
  | destroy query kind id =>
      exact
        destroyRequest_truthful_iff hIntact actor query id
          kind
  | bulkSave items =>
      apply
        along_iff_of_invariant
          (I := fun state : MapStore => state.Intact)
          _ _ hIntact (readItems items)
      · intro state item hState
        exact
          bulkItem_truthful_iff hState actor item.1 item.2
      · intro state item hState _
        exact
          bulkItem_keeps intact_writesKeep actor item.1
            item.2 hState

theorem logTruthful_iff
    (op : MapApiOp) :
    LogTruthful store op ↔ LogRecorded store op := by
  cases op with
  | request actor request =>
      exact request_truthful_iff hIntact actor request
  | deleteFloor floor => exact Iff.rfl
  | device op => exact Iff.rfl

end Steps

/-
  The log is truthful in every step of a run, exactly if
  every step meets the condition.
-/
theorem changeLog_truthful_iff
    {store : MapStore}
    (hIntact : store.Intact)
    (ops : List MapApiOp) :
    Along mapApiStep LogTruthful store ops ↔
      Along mapApiStep LogRecorded store ops := by
  apply
    along_iff_of_invariant
      (I := fun state : MapStore => state.Intact)
      _ _ hIntact ops
  · intro state op hState
    exact logTruthful_iff hState op
  · intro state op hState _
    exact intact_mapApiStep hState op

/- A request without query parameters. -/
def noQuery : MapQuery :=
  ⟨none, none, none, none, none, none⟩

/- A crane, and what moves it. -/
def craneData : EquipmentData :=
  ⟨none, none, some "E-2", some "Crane", none, none, none,
    none, none, none, none⟩

def moveCrane : EquipmentData :=
  ⟨none, none, none, none, none, none,
    some (some (.finite 7)), none, none, none, none⟩

/- The crane is stored, moved and deleted. -/
def craneOps : List MapApiOp :=
  [.request none (.create (.equipment (some craneData))),
    .request (some 1)
      (.update noQuery 0 true (.equipment (some moveCrane))),
    .request (some 1) (.destroy noQuery .equipment 0)]

/- The log tells of the move and of the deletion. -/
theorem changeLog_truthful_crane :
    Along mapApiStep LogTruthful .initial craneOps ∧
      (run mapApiStep .initial craneOps).changeLog.map
          (fun row => (row.target, row.action)) =
        [((.equipment, 0), .update),
          ((.equipment, 0), .delete)] := by
  refine ⟨?_, by decide +kernel⟩
  apply (changeLog_truthful_iff intact_initial _).mpr
  refine ⟨trivial, ?_, trivial, trivial⟩
  intro row attrs hAccepted
  cases hAccepted
  exact Or.inr (by decide +kernel)

/- A tag with a reading that holds it. -/
def tagData : LocationNodeData :=
  ⟨none, none, some "Tag", some "LOC-3", none, none, none,
    none⟩

def heldTag : List MapApiOp :=
  [.request none (.create (.locationNode (some tagData))),
    .device (.holdNode 0 true)]

def deleteTag : MapApiOp :=
  .request (some 1) (.destroy noQuery .locationNode 0)

/-
  The tag stays, and the log has a row that says it was
  deleted.
-/
theorem held_tag_logged_as_deleted :
    ¬ LogTruthful (run mapApiStep .initial heldTag) deleteTag ∧
      ((run mapApiStep .initial
        (heldTag ++ [deleteTag])).nodes.get? 0).map
          LocationNode.nodeCode =
        some "LOC-3" ∧
      (run mapApiStep .initial
        (heldTag ++ [deleteTag])).changeLog.map
          (fun row => (row.target, row.action)) =
        [((.locationNode, 0), .delete)] := by
  refine ⟨?_, by decide +kernel, by decide +kernel⟩
  intro hTruthful
  have hIntact :
      (run mapApiStep .initial heldTag).Intact := by
    apply
      run_invariant
        (I := fun state : MapStore => state.Intact)
        _ intact_initial
    intro state op hState
    exact intact_mapApiStep hState op
  have hRecorded :=
    (logTruthful_iff hIntact deleteTag).mp hTruthful
  have hFalse := hRecorded _ rfl rfl
  revert hFalse
  decide +kernel

end Facilities

end Icmp2
