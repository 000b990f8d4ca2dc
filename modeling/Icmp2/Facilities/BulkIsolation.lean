import Icmp2.Facilities.BulkSave
import Icmp2.Facilities.ChangeLog
import Icmp2.Facilities.NodeIsolation

/-
  How far a bulk save keeps its items apart.

  Main definitions include:
    * `Icmp2.Facilities.MapError.IsRefusal`
    * `Icmp2.Facilities.MapData.StandsAlone`
    * `Icmp2.Facilities.SavedAlone`
    * `Icmp2.Facilities.BulkIsolated`

  Main theorems include:
    * `Icmp2.Facilities.batchStep_of_refused`
    * `Icmp2.Facilities.bulkItem_error?_congr`
    * `Icmp2.Facilities.bulk_save_isolated`

  An item that is refused does not touch the others, and an
  update without unique columns ends as its own object is.
-/

------------------------------------------------------------
-- Refused Items
------------------------------------------------------------

namespace Icmp2

namespace Facilities

open Library

/- The errors of the lookup and of the validation. -/
def MapError.IsRefusal : MapError → Prop
  | notFound => True
  | invalid _ => True
  | _ => False

instance
    (error : MapError) :
    Decidable error.IsRefusal := by
  cases error <;> unfold MapError.IsRefusal <;>
    infer_instance

variable {reader : BulkReader}
variable {actor : Option Nat}
variable {store : MapStore}

/- The log only fails on what is no JSON. -/
theorem error?_logChange
    (target : MapKey)
    (before after : Option Captured)
    (action : ChangeAction) :
    (logChange actor target before after action).error?
        store =
      if before.all Captured.isJson ∧
          after.all Captured.isJson then
        none
      else
        some .dataError := by
  unfold logChange Action.error?
  split_ifs <;> rfl

/- The saves of a model never end with a refusal. -/
def MapModel.NeverRefuses
    {Row Data : Type}
    (model : MapModel Row Data) :
    Prop :=
  ∀ id row store error later,
    model.save id row store = .error error later →
      ¬error.IsRefusal

theorem tableModel_neverRefuses
    {Row Data : Type}
    (kind : MapKind)
    (serializer : MapSerializer Row Data)
    (rows : MapStore → Rows Row)
    (setRows : MapStore → Rows Row → MapStore)
    (capture : Row → Captured) :
    (tableModel kind serializer rows setRows
      capture).NeverRefuses := by
  intro id row store error later hError
  cases hError

theorem locationNodeModel_neverRefuses :
    locationNodeModel.NeverRefuses := by
  intro id row store error later hError
  have hSync : ∃ sync, error = .sync sync := by
    simp only [locationNodeModel, onNodes] at hError
    split at hError
    · cases hError
    · cases hError
      exact ⟨_, rfl⟩
  rcases hSync with ⟨sync, rfl⟩
  exact not_false

theorem performUpdate_not_refusal
    {Row Data : Type}
    {model : MapModel Row Data}
    (hSaves : model.NeverRefuses)
    {id : Nat}
    {row : Row}
    {attrs : Data}
    {error : MapError}
    {later : MapStore}
    (hError :
      model.performUpdate actor id row attrs store =
        .error error later) :
    ¬error.IsRefusal := by
  cases hSave :
      model.save id (model.serializer.update row attrs)
        store with
  | error found after =>
      rw [MapModel.performUpdate,
        Action.bind_of_error hSave] at hError
      cases hError
      exact hSaves _ _ _ _ _ hSave
  | ok _ after =>
      rw [MapModel.performUpdate, Action.bind_of_ok hSave,
        Action.get_bind] at hError
      simp only [logChange] at hError
      split_ifs at hError
      cases hError
      exact not_false

/- A refused update leaves the store as it was. -/
theorem updateView_refused
    {Row Data : Type}
    {model : MapModel Row Data}
    (hSaves : model.NeverRefuses)
    {inQuery : Row → Bool}
    {id : Nat}
    {isPartial : Bool}
    {data : Option Data}
    {error : MapError}
    {later : MapStore}
    (hError :
      model.updateView actor inQuery id isPartial data
          store =
        .error error later)
    (hRefusal : error.IsRefusal) :
    later = store := by
  cases hAccepted :
      model.accepted? store inQuery id isPartial data with
  | none =>
      have hRejected :
          ∃ found,
            model.updateView actor inQuery id isPartial data
                store =
              .error found store :=
        updateView_of_rejected hAccepted
      rcases hRejected with ⟨found, hFound⟩
      rw [hFound] at hError
      cases hError
      rfl
  | some accepted =>
      rcases accepted with ⟨row, attrs⟩
      rw [updateView_of_accepted hAccepted] at hError
      exact absurd hRefusal
        (performUpdate_not_refusal hSaves hError)

theorem bulkItem_refused
    {id : Nat}
    {data : MapData}
    {error : MapError}
    {later : MapStore}
    (hError :
      bulkItem actor id data store = .error error later)
    (hRefusal : error.IsRefusal) :
    later = store := by
  cases data with
  | equipment data =>
      exact
        updateView_refused
          (tableModel_neverRefuses _ _ _ _ _) hError hRefusal
  | locationNode data =>
      exact
        updateView_refused locationNodeModel_neverRefuses
          hError hRefusal
  | sensor data =>
      exact
        updateView_refused
          (tableModel_neverRefuses _ _ _ _ _) hError hRefusal
  | geofence data =>
      exact
        updateView_refused
          (tableModel_neverRefuses _ _ _ _ _) hError hRefusal

/- An item that is refused leaves the store as it was. -/
theorem batchStep_of_refused
    {item : ListedItem}
    {error : MapError}
    (hError :
      (saveListed reader actor item).error? store =
        some error)
    (hRefusal : error.IsRefusal) :
    batchStep (saveListed reader actor) store item =
      store := by
  unfold batchStep
  cases hSave : saveListed reader actor item store with
  | ok _ later =>
      simp only [Action.error?, hSave] at hError
      cases hError
  | error found later =>
      simp only [Action.error?, hSave] at hError
      cases hError
      rw [Action.stateAfter_of_error hSave]
      cases hKey : reader.int item.pk with
      | none =>
          simp only [saveListed, hKey] at hSave
          cases hSave
          rfl
      | some id =>
          simp only [saveListed, hKey, saveObject] at hSave
          by_cases hId : 0 ≤ id
          · rw [if_pos hId] at hSave
            exact bulkItem_refused hSave hRefusal
          · rw [if_neg hId] at hSave
            cases hSave
            rfl

end Facilities

end Icmp2

------------------------------------------------------------
-- Items That Stand Alone
------------------------------------------------------------

namespace Icmp2

namespace Facilities

open Library

variable {actor : Option Nat}
variable {store other : MapStore}

section Updates

variable {Row Data : Type}

/- An update saves its row and logs, or does nothing. -/
theorem stateAfter_updateView
    (actor : Option Nat)
    (model : MapModel Row Data)
    (inQuery : Row → Bool)
    (id : Nat)
    (isPartial : Bool)
    (data : Option Data)
    (store : MapStore) :
    (model.updateView actor inQuery id isPartial
          data).stateAfter store =
        store ∨
      ∃ row log,
        (model.updateView actor inQuery id isPartial
            data).stateAfter store =
          { (model.save id row).stateAfter store with
            changeLog := log } := by
  cases hAccepted :
      model.accepted? store inQuery id isPartial data with
  | none =>
      have hRejected :
          ∃ error,
            model.updateView actor inQuery id isPartial data
                store =
              .error error store :=
        updateView_of_rejected hAccepted
      rcases hRejected with ⟨error, hError⟩
      exact Or.inl (Action.stateAfter_of_error hError)
  | some accepted =>
      rcases accepted with ⟨row, attrs⟩
      right
      refine ⟨model.serializer.update row attrs, ?_⟩
      have hView :
          model.updateView actor inQuery id isPartial data
              store =
            model.performUpdate actor id row attrs store :=
        updateView_of_accepted hAccepted
      rw [Action.stateAfter_congr hView]
      cases hSave :
          model.save id (model.serializer.update row attrs)
            store with
      | error error later =>
          refine ⟨later.changeLog, ?_⟩
          rw [Action.stateAfter_of_error hSave,
            MapModel.performUpdate,
            Action.stateAfter_bind_of_error hSave]
      | ok _ later =>
          rcases stateAfter_logChange actor (model.kind, id)
            (some (model.capture row))
            (((model.rows later).get? id).map model.capture)
            .update later with ⟨log, hLog⟩
          refine ⟨log, ?_⟩
          rw [Action.stateAfter_of_ok hSave,
            MapModel.performUpdate,
            Action.stateAfter_bind_of_ok hSave]
          exact hLog

/- How an update ends. -/
theorem error?_updateView
    (actor : Option Nat)
    (model : MapModel Row Data)
    (id : Nat)
    (data : Option Data)
    (store : MapStore) :
    (model.updateView actor (fun _ => true) id true
          data).error? store =
      match (model.rows store).get? id with
      | none => some .notFound
      | some row =>
          match
            model.serializer.isValid (model.rows store) id
              true data with
          | .error errors => some (.invalid errors)
          | .ok attrs =>
              (model.performUpdate actor id row
                attrs).error? store := by
  have hFind :
      ∀ found : Option Row,
        found.filter (fun _ => true) = found := by
    intro found
    cases found with
    | none => rfl
    | some row => rfl
  rw [Action.error?, MapModel.updateView]
  cases hGet : (model.rows store).get? id with
  | none =>
      rw [Action.bind_of_error
        (getObject_of_none ((hFind _).trans hGet))]
  | some row =>
      rw [Action.bind_of_ok
        (getObject_of_some ((hFind _).trans hGet))]
      cases hValid :
          model.serializer.isValid (model.rows store) id
            true data with
      | error errors =>
          rw [Action.bind_of_error
            (validated_of_error hValid)]
      | ok attrs =>
          rw [Action.bind_of_ok (validated_of_ok hValid)]
          rfl

variable {kind : MapKind}
variable {serializer : MapSerializer Row Data}
variable {rows : MapStore → Rows Row}
variable {setRows : MapStore → Rows Row → MapStore}
variable {capture : Row → Captured}

/- An update in a table leaves all other objects alone. -/
theorem captured?_updateView_table
    (hTable : IsTable kind rows setRows)
    {key : MapKey}
    {id : Nat}
    (hOther : key ≠ (kind, id))
    (data : Option Data)
    (store : MapStore) :
    (((tableModel kind serializer rows setRows
          capture).updateView actor (fun _ => true) id true
            data).stateAfter store).captured? key =
      store.captured? key := by
  rcases stateAfter_updateView actor
    (tableModel kind serializer rows setRows capture)
    (fun _ => true) id true data store with
    hSame | ⟨row, log, hSaved⟩
  · rw [hSame]
  · rw [hSaved]
    have hOnly :=
      hTable.wroteOnly store ((rows store).set id row) id
        (fun _ hNe => Rows.get?_set_of_ne hNe row)
    refine Eq.trans ?_ (hOnly.others key hOther)
    rcases key with ⟨keyKind, keyId⟩
    cases keyKind <;> rfl

/- An accepted update in a table is stored and logged. -/
theorem error?_performUpdate_table
    (hTable : IsTable kind rows setRows)
    {id : Nat}
    {row : Row}
    (hGet : (rows store).get? id = some row)
    (attrs : Data) :
    ((tableModel kind serializer rows setRows
          capture).performUpdate actor id row attrs).error?
        store =
      if (capture row).isJson = true ∧
          (capture
            (serializer.update row attrs)).isJson = true then
        none
      else
        some .dataError := by
  have hEnds :
      (tableModel kind serializer rows setRows
          capture).SaveEnds store id
        (serializer.update row attrs)
        (tableOutcome store id
          (serializer.update row attrs)) :=
    tableModel_saveEnds hTable hGet _
  rcases hEnds with ⟨later, hSave, -, hLater⟩
  rw [Action.error?, performUpdate_of_stored actor hSave hLater]
  exact error?_logChange (kind, id) (some (capture row))
    (some (capture (serializer.update row attrs))) .update

/- How an update in a table ends. -/
theorem error?_updateView_table
    (hTable : IsTable kind rows setRows)
    (id : Nat)
    (data : Option Data)
    (store : MapStore) :
    ((tableModel kind serializer rows setRows
          capture).updateView actor (fun _ => true) id true
            data).error? store =
      match (rows store).get? id with
      | none => some .notFound
      | some row =>
          match
            serializer.isValid (rows store) id true data with
          | .error errors => some (.invalid errors)
          | .ok attrs =>
              if (capture row).isJson = true ∧
                  (capture
                    (serializer.update row attrs)).isJson =
                    true then
                none
              else
                some .dataError := by
  let model :=
    tableModel kind serializer rows setRows capture
  rw [error?_updateView]
  cases hGet : (rows store).get? id with
  | none =>
      have hRow : (model.rows store).get? id = none := hGet
      simp only [hRow, model]
  | some row =>
      have hRow : (model.rows store).get? id = some row :=
        hGet
      cases hValid :
          serializer.isValid (rows store) id true data with
      | error errors =>
          have hInvalid :
              model.serializer.isValid (model.rows store) id
                  true data =
                .error errors :=
            hValid
          simp only [hRow, hInvalid, model]
      | ok attrs =>
          have hAccepted :
              model.serializer.isValid (model.rows store) id
                  true data =
                .ok attrs :=
            hValid
          simp only [hRow, hAccepted, model]
          exact error?_performUpdate_table hTable hGet attrs

end Updates

end Facilities

end Icmp2

------------------------------------------------------------
-- Congruence
------------------------------------------------------------

namespace Icmp2

namespace Facilities

open Library

variable {reader : BulkReader}
variable {actor : Option Nat}
variable {store other : MapStore}

/- Data that submit no unique column. -/
def MapData.StandsAlone : MapData → Prop
  | .equipment data =>
      ∀ given ∈ data, given.equipmentCode = none
  | .locationNode data =>
      ∀ given ∈ data, given.nodeCode = none
  | .sensor data => ∀ given ∈ data, given.deviceId = none
  | .geofence _ => True

/- What is checked of data without unique columns. -/
theorem isValid_congr
    {Row Data : Type}
    {serializer : MapSerializer Row Data}
    {rows others : Rows Row}
    {id : Nat}
    {data : Option Data}
    (hErrors :
      ∀ given ∈ data,
        serializer.fieldErrors rows id given =
          serializer.fieldErrors others id given)
    (hSame : rows.get? id = others.get? id) :
    serializer.isValid rows id true data =
      serializer.isValid others id true data := by
  cases data with
  | none => rfl
  | some given =>
      simp only [MapSerializer.isValid,
        MapSerializer.allFieldErrors, hSame,
        hErrors given rfl]

/- The rows of a captured object. -/
theorem get?_of_captured?
    {Row Data : Type}
    {model : MapModel Row Data}
    (hCaptures : model.Captures)
    {id : Nat}
    (hSame :
      store.captured? (model.kind, id) =
        other.captured? (model.kind, id)) :
    (model.rows store).get? id =
      (model.rows other).get? id := by
  rw [hCaptures.eq_map, hCaptures.eq_map] at hSame
  exact Option.map_injective hCaptures.injective hSame

/- An update of a table ends as the row of its object is. -/
theorem error?_updateView_congr
    {Row Data : Type}
    {kind : MapKind}
    {serializer : MapSerializer Row Data}
    {rows : MapStore → Rows Row}
    {setRows : MapStore → Rows Row → MapStore}
    {capture : Row → Captured}
    (hTable : IsTable kind rows setRows)
    {id : Nat}
    {data : Option Data}
    (hErrors :
      ∀ given ∈ data,
        serializer.fieldErrors (rows store) id given =
          serializer.fieldErrors (rows other) id given)
    (hSame :
      (rows store).get? id = (rows other).get? id) :
    ((tableModel kind serializer rows setRows
          capture).updateView actor (fun _ => true) id true
            data).error? store =
      ((tableModel kind serializer rows setRows
          capture).updateView actor (fun _ => true) id true
            data).error? other := by
  rw [error?_updateView_table hTable,
    error?_updateView_table hTable, hSame,
    isValid_congr hErrors hSame]

/- An update whose save fails is not saved. -/
theorem error?_performUpdate_of_save_error
    {id : Nat}
    {row : LocationNode}
    {attrs : LocationNodeData}
    {error : MapError}
    {after : MapStore}
    (hSave :
      locationNodeModel.save id (row.update attrs) store =
        .error error after) :
    (locationNodeModel.performUpdate actor id row
        attrs).error? store ≠ none := by
  have hUpdate :
      locationNodeModel.performUpdate actor id row attrs
          store =
        .error error after :=
    Action.bind_of_error hSave
  simp [Action.error?, hUpdate]

/- After the save of a node its update is logged. -/
theorem error?_performUpdate_of_saved
    {id : Nat}
    {row : LocationNode}
    {attrs : LocationNodeData}
    {after : MapStore}
    (hSave :
      locationNodeModel.save id (row.update attrs) store =
        .ok () after)
    (hLater :
      after.nodes.get? id =
        some (store.afterSignal (row.update attrs))) :
    (locationNodeModel.performUpdate actor id row
          attrs).error? store = none ↔
      (Captured.locationNode row).isJson = true ∧
        (Captured.locationNode
          (row.update attrs)).isJson = true := by
  rcases
    afterSignal_eq_link store.toNodeStore
      (row.update attrs) with ⟨link, hLink⟩
  have hJson :
      (Captured.locationNode
          (store.afterSignal (row.update attrs))).isJson =
        (Captured.locationNode
          (row.update attrs)).isJson := by
    rw [hLink]
    rfl
  have hEnd :
      (locationNodeModel.performUpdate actor id row
            attrs).error? store =
        (logChange actor (.locationNode, id)
            (some (.locationNode row))
            (some
              (.locationNode
                (store.afterSignal (row.update attrs))))
            .update).error? after := by
    rw [Action.error?,
      performUpdate_of_stored actor hSave hLater]
    rfl
  rw [hEnd, error?_logChange]
  simp [hJson]

/- An accepted update of a node is saved and logged. -/
theorem performUpdate_node_saved_iff
    {id : Nat}
    {row : LocationNode}
    (hIntact : store.Intact)
    (hGet : store.nodes.get? id = some row)
    (attrs : LocationNodeData) :
    (locationNodeModel.performUpdate actor id row
          attrs).error? store = none ↔
      store.nodeFault? id (row.update attrs) = none ∧
        store.signalFault? (row.update attrs) = none ∧
          (Captured.locationNode row).isJson = true ∧
            (Captured.locationNode
              (row.update attrs)).isJson = true := by
  have hEnds :=
    locationNodeModel_saveEnds hIntact hGet
      (row.update attrs)
  rw [nodeOutcome, NodeStore.saveOutcome] at hEnds
  by_cases hFault :
      store.nodeFault? id (row.update attrs) = none
  · by_cases hSignal :
        store.signalFault? (row.update attrs) = none
    · rw [hFault, hSignal] at hEnds
      rcases hEnds with ⟨after, hSave, -, hLater⟩
      rw [error?_performUpdate_of_saved hSave hLater]
      simp [hFault, hSignal]
    · have hSome := Option.isSome_iff_ne_none.mpr hSignal
      rw [hFault, if_neg (by simp), if_pos hSome] at hEnds
      rcases hEnds with ⟨error, after, hSave, -⟩
      exact
        iff_of_false
          (error?_performUpdate_of_save_error hSave)
          fun hAll => hSignal hAll.2.1
  · have hSome := Option.isSome_iff_ne_none.mpr hFault
    rw [if_pos hSome] at hEnds
    rcases hEnds with ⟨error, hSave⟩
    exact
      iff_of_false
        (error?_performUpdate_of_save_error hSave)
        fun hAll => hFault hAll.1

/- An update of a node without its code, in two stores. -/
theorem updateView_node_saved_congr
    {id : Nat}
    {data : Option LocationNodeData}
    (hAlone : ∀ given ∈ data, given.nodeCode = none)
    (hKeyed : store.Keyed)
    (hOther : other.Keyed)
    (hAgrees :
      store.toNodeStore.AgreesAt id other.toNodeStore) :
    (locationNodeModel.updateView actor (fun _ => true) id
          true data).error? store = none ↔
      (locationNodeModel.updateView actor (fun _ => true) id
          true data).error? other = none := by
  have hRows :
      (locationNodeModel.rows store).get? id =
        (locationNodeModel.rows other).get? id :=
    hAgrees.node.symm
  have hValid :
      locationNodeModel.serializer.isValid
          (locationNodeModel.rows store) id true data =
        locationNodeModel.serializer.isValid
          (locationNodeModel.rows other) id true data := by
    refine isValid_congr ?_ hRows
    intro given hGiven
    simp only [locationNodeModel, locationNodeSerializer,
      codeErrors, hAlone given hGiven]
  rw [error?_updateView, error?_updateView, hValid, ← hRows]
  cases hGet : (locationNodeModel.rows store).get? id with
  | none => exact Iff.rfl
  | some row =>
      cases hData :
          locationNodeModel.serializer.isValid
            (locationNodeModel.rows other) id true data with
      | error errors => exact Iff.rfl
      | ok attrs =>
          have hCode :
              (row.update attrs).nodeCode = row.nodeCode := by
            have hNone := hAlone attrs (data_of_isValid hData)
            rw [LocationNode.update, hNone]
            rfl
          have hStored : other.nodes.get? id = some row :=
            hRows.symm.trans hGet
          rw [performUpdate_node_saved_iff hKeyed.intact hGet,
            performUpdate_node_saved_iff hOther.intact
              hStored,
            nodeFault?_congr hKeyed hOther hAgrees hGet hCode
              rfl,
            signalFault?_congr hAgrees hGet hCode]

/- The kind of the object that data are for. -/
def MapData.kind : MapData → MapKind
  | .equipment _ => .equipment
  | .locationNode _ => .locationNode
  | .sensor _ => .sensor
  | .geofence _ => .geofence

/- Data that stand alone end as their object is. -/
theorem bulkItem_error?_congr
    {id : Nat}
    {data : MapData}
    (hTable : data.kind ≠ .locationNode)
    (hAlone : data.StandsAlone)
    (hSame :
      store.captured? (data.kind, id) =
        other.captured? (data.kind, id)) :
    (bulkItem actor id data).error? store =
      (bulkItem actor id data).error? other := by
  cases data with
  | equipment data =>
      refine error?_updateView_congr equipment_isTable ?_
        (get?_of_captured? equipmentModel_captures hSame)
      intro given hGiven
      simp only [equipmentSerializer, codeErrors,
        hAlone given hGiven]
  | locationNode data => exact absurd rfl hTable
  | sensor data =>
      refine error?_updateView_congr sensor_isTable ?_
        (get?_of_captured? sensorLocationModel_captures
          hSame)
      intro given hGiven
      simp only [sensorLocationSerializer,
        hAlone given hGiven]
  | geofence data =>
      refine error?_updateView_congr geofence_isTable ?_
        (get?_of_captured? geofenceModel_captures hSame)
      intro given hGiven
      rfl

/- An item leaves the objects of tables it does not name. -/
theorem captured?_bulkItem
    {key : MapKey}
    {id : Nat}
    {data : MapData}
    (hTable : key.1 ≠ .locationNode)
    (hOther : key ≠ (data.kind, id)) :
    ((bulkItem actor id data).stateAfter
        store).captured? key =
      store.captured? key := by
  cases data with
  | equipment data =>
      exact captured?_updateView_table equipment_isTable
        hOther data store
  | locationNode data =>
      rcases stateAfter_updateView actor locationNodeModel
        (fun _ => true) id true data store with
        hSame | ⟨row, log, hSaved⟩
      · exact congrArg (MapStore.captured? · key) hSame
      · refine
          (congrArg (MapStore.captured? · key) hSaved).trans
            ?_
        rw [stateAfter_saveNode]
        rcases key with ⟨kind, keyId⟩
        cases kind with
        | equipment => rfl
        | locationNode => exact absurd rfl hTable
        | sensor => rfl
        | geofence => rfl
  | sensor data =>
      exact captured?_updateView_table sensor_isTable
        hOther data store
  | geofence data =>
      exact captured?_updateView_table geofence_isTable
        hOther data store

/- An update of a model whose saves send no signals. -/
theorem toNodeStore_updateView
    {Row Data : Type}
    (actor : Option Nat)
    (model : MapModel Row Data)
    (hSave :
      ∀ id row store,
        ((model.save id row).stateAfter store).toNodeStore =
          store.toNodeStore)
    (id : Nat)
    (data : Option Data)
    (store : MapStore) :
    ((model.updateView actor (fun _ => true) id true
          data).stateAfter store).toNodeStore =
      store.toNodeStore := by
  rcases stateAfter_updateView actor model (fun _ => true)
    id true data store with
    hSame | ⟨row, log, hSaved⟩
  · exact congrArg MapStore.toNodeStore hSame
  · refine (congrArg MapStore.toNodeStore hSaved).trans ?_
    exact hSave id row store

/- Only an item for a node touches nodes and devices. -/
theorem toNodeStore_bulkItem
    (actor : Option Nat)
    (id : Nat)
    (data : MapData)
    (store : MapStore) :
    ((bulkItem actor id data).stateAfter store).toNodeStore =
        store.toNodeStore ∨
      data.kind = .locationNode ∧
        ∃ node,
          ((bulkItem actor id data).stateAfter
                store).toNodeStore =
            (nodeCall (.saveNode id node none)).stateAfter
              store.toNodeStore := by
  cases data with
  | equipment data =>
      left
      exact
        toNodeStore_updateView actor equipmentModel
          (fun _ _ _ => rfl) id data store
  | locationNode data =>
      rcases stateAfter_updateView actor locationNodeModel
        (fun _ => true) id true data store with
        hSame | ⟨row, log, hSaved⟩
      · exact Or.inl (congrArg MapStore.toNodeStore hSame)
      · refine Or.inr ⟨rfl, row, ?_⟩
        refine
          (congrArg MapStore.toNodeStore hSaved).trans ?_
        rw [stateAfter_saveNode]
  | sensor data =>
      left
      exact
        toNodeStore_updateView actor sensorLocationModel
          (fun _ _ _ => rfl) id data store
  | geofence data =>
      left
      exact
        toNodeStore_updateView actor geofenceModel
          (fun _ _ _ => rfl) id data store

end Facilities

end Icmp2

------------------------------------------------------------
-- Isolation
------------------------------------------------------------

namespace Icmp2

namespace Facilities

open Library

variable {reader : BulkReader}
variable {actor : Option Nat}
variable {store other : MapStore}

/- The model and the number that an item names. -/
def ListedItem.object?
    (reader : BulkReader)
    (item : ListedItem) :
    Option (MapKind × Int) :=
  (reader.int item.pk).map fun id => (item.kind, id)

/- The item submits no unique column to a table. -/
def ListedItem.StandsAlone
    (reader : BulkReader)
    (item : ListedItem) :
    Prop :=
  (reader.data item.data item.kind).StandsAlone

/- Submitted on its own, the item is saved. -/
def SavedAlone
    (reader : BulkReader)
    (actor : Option Nat)
    (store : MapStore)
    (item : ListedItem) :
    Prop :=
  ∃ reply later,
    bulkSavePayload reader actor (onlyItem item).json store =
        .ok reply later ∧
      reply.success = 1

/- The errors of a response, in the order of the items. -/
def notedErrors
    (items : List ListedItem)
    (ends : List (Option MapError)) :
    List BulkError :=
  (items.zip ends).filterMap fun entry =>
    entry.2.map fun error =>
      ⟨entry.1.kind, entry.1.pk, error⟩

theorem kind_data
    (reader : BulkReader)
    (data : Json)
    (kind : MapKind) :
    (reader.data data kind).kind = kind := by
  cases kind <;> rfl

theorem noteAll_eq
    (reply : BulkResponse)
    (items : List ListedItem)
    (ends : List (Option MapError)) :
    reply.noteAll items ends =
      { success :=
          reply.success +
            (items.zip ends).countP fun entry =>
              entry.2.isNone
        errors := reply.errors ++ notedErrors items ends } := by
  unfold BulkResponse.noteAll notedErrors
  induction items.zip ends generalizing reply with
  | nil => simp
  | cons entry entries ih =>
      rcases entry with ⟨item, finish⟩
      rw [List.foldl_cons, ih]
      cases finish with
      | none =>
          simp [BulkResponse.note, Nat.add_assoc,
            Nat.add_comm 1]
      | some error => simp [BulkResponse.note]

/- A payload of one item is its item. -/
theorem listed_onlyItem
    (item : ListedItem) :
    (onlyItem item).listed = [item] := by
  rcases item with ⟨kind, pk, data⟩
  cases kind <;> rfl

theorem savedAlone_iff
    {item : ListedItem}
    (hInt : reader.int "update" = none)
    (hKey : (reader.int item.pk).isSome = true) :
    SavedAlone reader actor store item ↔
      (saveListed reader actor item).error? store = none := by
  have hNumeric :
      Numeric reader (onlyItem item).listed := by
    rw [listed_onlyItem]
    intro only hOnly
    rw [List.mem_singleton.mp hOnly]
    exact hKey
  have hSome :
      ∀ kind form,
        onlyItem item kind = some form →
          ¬form.IsEmptyUpdate := by
    intro kind form hForm
    unfold onlyItem at hForm
    split_ifs at hForm
    cases hForm
    exact not_false
  unfold SavedAlone
  rw [bulkSavePayload_eq hInt hNumeric hSome store,
    listed_onlyItem]
  cases hError :
      (saveListed reader actor item).error? store with
  | none =>
      refine iff_of_true ⟨_, _, rfl, ?_⟩ rfl
      simp [outcomes, hError, BulkResponse.noteAll,
        BulkResponse.note]
  | some error =>
      refine iff_of_false ?_ (by simp)
      rintro ⟨reply, later, hReply, hOne⟩
      cases hReply
      simp [outcomes, hError, BulkResponse.noteAll,
        BulkResponse.note] at hOne

/- An item that stands alone ends as its object is. -/
theorem error?_saveListed_congr
    {item : ListedItem}
    {id : Int}
    (hTable : item.kind ≠ .locationNode)
    (hAlone : item.StandsAlone reader)
    (hKey : reader.int item.pk = some id)
    (hSame :
      0 ≤ id →
        store.captured? (item.kind, id.toNat) =
          other.captured? (item.kind, id.toNat)) :
    (saveListed reader actor item).error? store =
      (saveListed reader actor item).error? other := by
  unfold saveListed saveObject
  simp only [hKey]
  by_cases hId : 0 ≤ id
  · rw [if_pos hId]
    refine bulkItem_error?_congr ?_ hAlone ?_
    · rw [kind_data]
      exact hTable
    · rw [kind_data]
      exact hSame hId
  · rw [if_neg hId]
    rfl

/- The same for a node, as far as the two tables agree. -/
theorem saveListed_node_saved_congr
    {item : ListedItem}
    {id : Int}
    (hNode : item.kind = .locationNode)
    (hAlone : item.StandsAlone reader)
    (hKey : reader.int item.pk = some id)
    (hKeyed : store.Keyed)
    (hOther : other.Keyed)
    (hAgrees :
      0 ≤ id →
        store.toNodeStore.AgreesAt id.toNat
          other.toNodeStore) :
    (saveListed reader actor item).error? store = none ↔
      (saveListed reader actor item).error? other = none := by
  unfold ListedItem.StandsAlone at hAlone
  unfold saveListed saveObject
  rw [hNode] at hAlone ⊢
  simp only [hKey]
  by_cases hId : 0 ≤ id
  · rw [if_pos hId]
    exact
      updateView_node_saved_congr hAlone hKeyed hOther
        (hAgrees hId)
  · rw [if_neg hId]
    exact Iff.rfl

/- An item is passed over, or saved as its object. -/
theorem batchStep_cases
    (reader : BulkReader)
    (actor : Option Nat)
    (store : MapStore)
    (item : ListedItem) :
    batchStep (saveListed reader actor) store item = store ∨
      ∃ id : Nat,
        item.object? reader = some (item.kind, (id : Int)) ∧
          batchStep (saveListed reader actor) store item =
            (bulkItem actor id
              (reader.data item.data item.kind)).stateAfter
                store := by
  unfold batchStep
  cases hKey : reader.int item.pk with
  | none =>
      left
      have hThrow :
          saveListed reader actor item store =
            .error .valueError store := by
        simp only [saveListed, hKey]
        rfl
      exact Action.stateAfter_of_error hThrow
  | some id =>
      by_cases hId : 0 ≤ id
      · right
        have hItem :
            saveListed reader actor item store =
              bulkItem actor id.toNat
                (reader.data item.data item.kind) store := by
          simp only [saveListed, hKey, saveObject, hId,
            if_true]
        refine
          ⟨id.toNat, ?_, Action.stateAfter_congr hItem⟩
        rw [ListedItem.object?, hKey, Option.map_some,
          Int.toNat_of_nonneg hId]
      · left
        have hThrow :
            saveListed reader actor item store =
              .error .notFound store := by
          simp only [saveListed, hKey, saveObject, hId,
            if_false]
          rfl
        exact Action.stateAfter_of_error hThrow

/- Other items leave an object of a table alone. -/
theorem captured?_batchStep
    {item : ListedItem}
    {kind : MapKind}
    {id : Int}
    (hTable : kind ≠ .locationNode)
    (hId : 0 ≤ id)
    (hOther : item.object? reader ≠ some (kind, id)) :
    (batchStep (saveListed reader actor) store
        item).captured? (kind, id.toNat) =
      store.captured? (kind, id.toNat) := by
  rcases batchStep_cases reader actor store item with
    hSame | ⟨found, hObject, hStep⟩
  · rw [hSame]
  · rw [hStep]
    refine captured?_bulkItem hTable ?_
    rw [kind_data]
    intro hSame
    rw [Prod.mk.injEq] at hSame
    refine hOther ?_
    rw [hObject, ← hSame.1, ← hSame.2,
      Int.toNat_of_nonneg hId]

/- What an item does to the tables of nodes and devices. -/
theorem toNodeStore_batchStep
    (reader : BulkReader)
    (actor : Option Nat)
    (store : MapStore)
    (item : ListedItem) :
    (batchStep (saveListed reader actor) store
          item).toNodeStore =
        store.toNodeStore ∨
      ∃ (id : Nat) (node : LocationNode),
        item.object? reader =
            some (.locationNode, (id : Int)) ∧
          (batchStep (saveListed reader actor) store
                item).toNodeStore =
            (nodeCall (.saveNode id node none)).stateAfter
              store.toNodeStore := by
  rcases batchStep_cases reader actor store item with
    hSame | ⟨id, hObject, hStep⟩
  · exact Or.inl (congrArg MapStore.toNodeStore hSame)
  · rw [hStep]
    rcases toNodeStore_bulkItem actor id
        (reader.data item.data item.kind) store with
      hSame | ⟨hNode, node, hSaved⟩
    · exact Or.inl hSame
    · rw [kind_data] at hNode
      rw [hNode] at hObject
      exact Or.inr ⟨id, node, hObject, hSaved⟩

/- The other items leave what the save of a node reads. -/
theorem node_batchStep
    (actor : Option Nat)
    {item : ListedItem}
    {id : Int}
    (hKeyed : store.Keyed)
    (hId : 0 ≤ id)
    (hOther : item.object? reader ≠ some (.locationNode, id)) :
    (batchStep (saveListed reader actor) store item).Keyed ∧
      store.toNodeStore.AgreesAt id.toNat
        (batchStep (saveListed reader actor) store
          item).toNodeStore := by
  rcases toNodeStore_batchStep reader actor store item with
    hSame | ⟨found, node, hObject, hStep⟩
  · rw [hSame]
    exact ⟨hKeyed, .refl _ _⟩
  · rw [hStep]
    refine
      ⟨hKeyed.saveNode found node,
        hKeyed.agreesAt_saveNode ?_ node⟩
    rintro rfl
    refine hOther ?_
    rw [hObject, Int.toNat_of_nonneg hId]

/- No item before a position names the object. -/
def NotBefore
    (reader : BulkReader)
    (items : List ListedItem)
    (position : Nat)
    (item : ListedItem) :
    Prop :=
  ∀ earlier ∈ items.take position,
    earlier.object? reader ≠ item.object? reader

theorem captured?_turn
    {items : List ListedItem}
    {kind : MapKind}
    {id : Int}
    (hTable : kind ≠ .locationNode)
    (hId : 0 ≤ id)
    (hOthers :
      ∀ item ∈ items, item.object? reader ≠ some (kind, id))
    (store : MapStore) :
    (run (batchStep (saveListed reader actor)) store
        items).captured? (kind, id.toNat) =
      store.captured? (kind, id.toNat) := by
  induction items generalizing store with
  | nil => rfl
  | cons item items ih =>
      rw [run_cons,
        ih (fun later hLater =>
          hOthers later (List.mem_cons_of_mem _ hLater)),
        captured?_batchStep hTable hId
          (hOthers item List.mem_cons_self)]

theorem node_turn
    (actor : Option Nat)
    {items : List ListedItem}
    {id : Int}
    (hKeyed : store.Keyed)
    (hId : 0 ≤ id)
    (hOthers :
      ∀ item ∈ items,
        item.object? reader ≠ some (.locationNode, id)) :
    (run (batchStep (saveListed reader actor)) store
          items).Keyed ∧
      store.toNodeStore.AgreesAt id.toNat
        (run (batchStep (saveListed reader actor)) store
          items).toNodeStore := by
  induction items generalizing store with
  | nil => exact ⟨hKeyed, .refl _ _⟩
  | cons item items ih =>
      rw [run_cons]
      have hStep :=
        node_batchStep actor hKeyed hId
          (hOthers item List.mem_cons_self)
      have hRest :=
        ih hStep.1 fun later hLater =>
          hOthers later (List.mem_cons_of_mem _ hLater)
      exact ⟨hRest.1, hStep.2.trans hRest.2⟩

end Facilities

end Icmp2

------------------------------------------------------------
-- The Claimed Isolation
------------------------------------------------------------

namespace Icmp2

namespace Facilities

open Library

/-
  How a payload is saved.  An item ends as it would alone
  at its turn; if it is refused, the others are saved as
  without it.  Of an object that no item names before, and
  without unique columns, the turn is the start; for a node
  this rests on the constraints of its two tables.
-/
structure BulkIsolated
    (reader : BulkReader)
    (actor : Option Nat)
    (payload : BulkPayload)
    (store : MapStore) :
    Prop where
  returns :
    ∃ reply,
      bulkSavePayload reader actor payload.json store =
          .ok reply
            (run (batchStep (saveListed reader actor)) store
              payload.listed) ∧
        reply.success + reply.errors.length =
          payload.listed.length ∧
        reply.errors =
          notedErrors payload.listed
            (outcomes (saveListed reader actor) store
              payload.listed)
  savedAtTurn :
    ∀ position item,
      payload.listed[position]? = some item →
        ((outcomes (saveListed reader actor) store
              payload.listed)[position]? = some none ↔
          SavedAlone reader actor
            (turn (saveListed reader actor) store
              payload.listed position) item)
  refused :
    ∀ position item error,
      payload.listed[position]? = some item →
        (outcomes (saveListed reader actor) store
              payload.listed)[position]? =
            some (some error) →
          error.IsRefusal →
            turn (saveListed reader actor) store
                  payload.listed (position + 1) =
                turn (saveListed reader actor) store
                  payload.listed position ∧
              outcomes (saveListed reader actor) store
                  (payload.listed.eraseIdx position) =
                (outcomes (saveListed reader actor) store
                  payload.listed).eraseIdx position ∧
              run (batchStep (saveListed reader actor)) store
                  (payload.listed.eraseIdx position) =
                run (batchStep (saveListed reader actor))
                  store payload.listed
  savedAlone :
    ∀ position item,
      payload.listed[position]? = some item →
        item.StandsAlone reader →
          NotBefore reader payload.listed position item →
            (item.kind = .locationNode → store.Keyed) →
            ((outcomes (saveListed reader actor) store
                  payload.listed)[position]? = some none ↔
              SavedAlone reader actor store item)

theorem bulk_save_isolated
    {reader : BulkReader}
    (hInt : reader.int "update" = none)
    {payload : BulkPayload}
    (hNumeric : Numeric reader payload.listed)
    (hSome :
      ∀ kind form,
        payload kind = some form → ¬form.IsEmptyUpdate)
    (actor : Option Nat)
    (store : MapStore) :
    BulkIsolated reader actor payload store where
  returns := by
    refine
      ⟨_, bulkSavePayload_eq hInt hNumeric hSome store,
        ?_, ?_⟩
    · have hCount :=
        count_noteAll ⟨0, []⟩ payload.listed
          (outcomes (saveListed reader actor) store
            payload.listed) (length_outcomes _ _ _).symm
      simpa using hCount
    · rw [noteAll_eq]
      rfl
  savedAtTurn := by
    intro position item hItem
    have hKey := hNumeric item (List.mem_of_getElem? hItem)
    rw [getElem?_outcomes _ _ hItem, Option.some.injEq,
      savedAlone_iff hInt hKey]
  refused := by
    intro position item error hItem hEnd hRefusal
    rw [getElem?_outcomes _ _ hItem,
      Option.some.injEq] at hEnd
    have hSame := batchStep_of_refused hEnd hRefusal
    have hErased :=
      outcomes_eraseIdx (saveListed reader actor) store
        hItem hSame
    exact
      ⟨(turn_succ _ _ hItem).trans hSame, hErased.1,
        hErased.2⟩
  savedAlone := by
    intro position item hItem hAlone hBefore hKeyed
    have hKey := hNumeric item (List.mem_of_getElem? hItem)
    rcases Option.isSome_iff_exists.mp hKey with ⟨id, hId⟩
    have hObject :
        item.object? reader = some (item.kind, id) := by
      rw [ListedItem.object?, hId, Option.map_some]
    rw [getElem?_outcomes _ _ hItem, Option.some.injEq,
      savedAlone_iff hInt hKey]
    unfold NotBefore at hBefore
    rw [hObject] at hBefore
    by_cases hNode : item.kind = .locationNode
    · rw [hNode] at hBefore
      by_cases hPositive : 0 ≤ id
      · have hTurn :=
          node_turn actor (hKeyed hNode) hPositive hBefore
        exact
          (saveListed_node_saved_congr hNode hAlone hId
            (hKeyed hNode) hTurn.1 fun _ => hTurn.2).symm
      · unfold saveListed saveObject
        simp only [hId, if_neg hPositive]
        exact Iff.rfl
    · refine iff_of_eq (congrArg (· = none) ?_)
      refine error?_saveListed_congr hNode hAlone hId ?_
      intro hPositive
      exact captured?_turn hNode hPositive hBefore store

/-
  Items whose keys are natural numbers go through the loop
  over typed items.
-/
theorem run_saveListed_eq
    (reader : BulkReader)
    (actor : Option Nat)
    (items : List ListedItem)
    (hNatural :
      ∀ item ∈ items,
        ∃ id : Nat,
          reader.int item.pk = some (id : Int))
    (reply : BulkReply)
    (store : MapStore) :
    run (batchStep (saveListed reader actor)) store items =
      (bulkMapEditorSave actor
        (items.map fun item =>
          ((reader.int item.pk).map Int.toNat,
            reader.data item.data item.kind))
        reply).stateAfter store := by
  rw [stateAfter_bulkMapEditorSave]
  induction items generalizing store with
  | nil => rfl
  | cons item items ih =>
      rcases hNatural item List.mem_cons_self with ⟨id, hId⟩
      have hStep :
          batchStep (saveListed reader actor) store item =
            itemStep actor store
              (id, reader.data item.data item.kind) := by
        refine Action.stateAfter_congr ?_
        simp only [saveListed, hId, saveObject,
          Int.natCast_nonneg, if_true, Int.toNat_natCast]
      rw [run_cons, hStep, List.map_cons, hId,
        Option.map_some, Int.toNat_natCast, readItems,
        run_cons]
      exact ih
        (fun later hLater =>
          hNatural later (List.mem_cons_of_mem _ hLater)) _

/- Reads two keys, and two fields of a machine. -/
def craneReader : BulkReader where
  int := fun pk =>
    if pk = "0" then some 0
    else if pk = "1" then some 1
    else none
  equipment := fun data =>
    match data with
    | .object entries =>
        some
          { craneData with
            equipmentName := none
            equipmentCode :=
              match member? entries "equipment_code" with
              | some (.text code) => some code
              | _ => none
            centerX :=
              match member? entries "center_x" with
              | some (.number x) => some (some (.finite x))
              | some (.text _) => some (some .nan)
              | _ => none }
    | _ => none
  locationNode := fun _ => none
  sensor := fun _ => none
  geofence := fun _ => none

/- Two stored cranes, with the codes E-1 and E-2. -/
def twoCranes : MapStore :=
  run mapApiStep .initial
    [.request none
        (.create
          (.equipment
            (some { craneData with
              equipmentCode := some "E-1" }))),
      .request none (.create (.equipment (some craneData)))]

/- A payload that lists cranes. -/
def cranePayload
    (form : CategoryForm) :
    BulkPayload := fun kind =>
  if kind = .equipment then some form else none

def moveTo
    (x : Json) :
    Json :=
  .object [("center_x", x)]

def renameTo
    (code : String) :
    Json :=
  .object [("equipment_code", .text code)]

/- A crane is moved, with an item for no crane before it. -/
theorem bulk_save_isolated_crane :
    BulkIsolated craneReader (some 1)
      (cranePayload
        (.update [("1", .null), ("0", moveTo (.number 7))]))
      twoCranes := by
  apply bulk_save_isolated
  · decide
  · intro item hItem
    revert item
    rw [← List.all_eq_true]
    decide +kernel
  · intro kind form hForm
    unfold cranePayload at hForm
    split_ifs at hForm
    cases hForm
    exact List.cons_ne_nil _ _

/-
  An empty update and a key that is no number raise, the
  second with a crane saved.  A crane gets a code that
  another one has given up before it, and not alone; and an
  item with a number that the log does not take is counted
  as failed, with its crane moved.
-/
theorem bulk_save_not_isolated :
    (bulkSavePayload craneReader (some 1)
          (cranePayload (.update [])).json).error?
        twoCranes = some .valueError ∧
      (bulkSavePayload craneReader (some 1)
          (cranePayload
            (.flat
              [("0", moveTo (.number 7)),
                ("x", moveTo (.number 7))])).json).error?
        twoCranes = some .valueError ∧
      outcomes (saveListed craneReader (some 1)) twoCranes
          (cranePayload
            (.flat
              [("0", renameTo "E-3"),
                ("1", renameTo "E-1")])).listed =
        [none, none] ∧
      ¬SavedAlone craneReader (some 1) twoCranes
        ⟨.equipment, "1", renameTo "E-1"⟩ ∧
      outcomes (saveListed craneReader (some 1)) twoCranes
          (cranePayload
            (.flat [("0", moveTo (.text "NaN"))])).listed =
        [some .dataError] ∧
      ((run (batchStep (saveListed craneReader (some 1)))
            twoCranes
            (cranePayload
              (.flat
                [("0",
                  moveTo (.text "NaN"))])).listed
              ).equipments.get? 0).bind Equipment.centerX =
        some .nan := by
  refine ⟨?_, ?_, ?_, ?_, ?_, ?_⟩
  · decide +kernel
  · decide +kernel
  · decide +kernel
  · rw [savedAlone_iff (by decide) (by decide)]
    decide +kernel
  · decide +kernel
  · decide +kernel

end Facilities

end Icmp2
