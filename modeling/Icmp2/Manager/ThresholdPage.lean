import Icmp2.Alerts.PowerLevels
import Icmp2.Library.Action
import Icmp2.Library.Trace
import Icmp2.Manager.ThresholdForm

/-
  What the threshold page does to the policies it shows.

  Main definitions include:
    * `Icmp2.Manager.ensureThCategories`
    * `Icmp2.Manager.settle`
    * `Icmp2.Manager.Sound`
    * `Icmp2.Manager.PageEffect`

  Main theorems include:
    * `Icmp2.Manager.rewriteSelected_eq_ok_iff`
    * `Icmp2.Manager.ensurePolicies_eq_ok_iff`
    * `Icmp2.Manager.settle_settle`
    * `Icmp2.Manager.sound_run_submitted`
    * `Icmp2.Manager.threshold_page_effect`

  Every view of the page fills in policies without a unit
  and moves power metrics out of the category of gases.
-/

------------------------------------------------------------
-- Rewritten Columns
------------------------------------------------------------

namespace Icmp2

namespace Manager

open Monitoring Library

/- `_GAS_METRICS`. -/
def gasMetrics : List String :=
  ["co", "h2s", "co2", "o2", "no2", "so2", "o3", "nh3",
    "voc", "ch4"]

/- `_POWER_METRICS`. -/
def powerMetrics : List String :=
  ["current_value", "power_value", "voltage", "kw", "kwh",
    "pf"]

/- `_METRIC_UNIT.get(metric, '')`. -/
def metricUnit
    (metric : String) :
    String :=
  if metric ∈
      ["co", "h2s", "co2", "no2", "so2", "o3", "nh3",
        "voc"] then
    "ppm"
  else if metric = "ch4" then "%LEL"
  else if metric = "o2" then "%"
  else if metric = "current_value" then "A"
  else if metric = "power_value" then "kW"
  else if metric = "voltage" then "V"
  else if metric = "kw" then "kW"
  else if metric = "kwh" then "kWh"
  else ""

def gasScope : String :=
  "실시간 관제,AI 예측,알림"

def powerScope : String :=
  "실시간 관제,알림"

/- The columns that an update of the page sets. -/
structure PolicyColumns where
  category : String
  unit : String
  condition : String
  scope : String
  deriving DecidableEq, Repr

def PolicyColumns.set
    (columns : PolicyColumns)
    (policy : ThresholdPolicy) :
    ThresholdPolicy :=
  { policy with
    category := columns.category
    unit := columns.unit
    condition := columns.condition
    scope := columns.scope }

/- `unit=''`. -/
def LacksUnit
    (policy : ThresholdPolicy) :
    Prop :=
  policy.unit = ""

/- `category='TH_GAS', metric_code__in=_POWER_METRICS`. -/
def IsStray
    (policy : ThresholdPolicy) :
    Prop :=
  policy.category = "TH_GAS" ∧
    policy.metricCode ∈ powerMetrics

instance : DecidablePred LacksUnit := by
  intro policy
  unfold LacksUnit
  infer_instance

instance : DecidablePred IsStray := by
  intro policy
  unfold IsStray
  infer_instance

/- `updated_by`, renamed. -/
def renameSystem
    (updatedBy : String) :
    String :=
  if updatedBy = "system" then "시스템" else updatedBy

/- The old names of the conditions. -/
def restoreCondition
    (condition : String) :
    String :=
  if condition = "초과" then "이상"
  else if condition = "미만" then "이하"
  else condition

variable [Letters]

/- `_th_category`. -/
def thCategory
    (metricCode : String) :
    String :=
  let mc := Letters.lower metricCode
  if mc ∈ gasMetrics then "TH_GAS"
  else if mc ∈ powerMetrics then "TH_POWER"
  else "TH_COMMON"

/- What a policy without a unit gets. -/
def unitColumns
    (metricCode : String) :
    PolicyColumns where
  category := thCategory metricCode
  unit := metricUnit (Letters.lower metricCode)
  condition :=
    if Letters.lower metricCode = "o2" then "이하" else "이상"
  scope :=
    if thCategory metricCode = "TH_GAS" then gasScope
    else powerScope

/- What a power metric among the gases gets. -/
def powerColumns
    (metricCode : String) :
    PolicyColumns where
  category := "TH_POWER"
  unit := metricUnit (Letters.lower metricCode)
  condition := "이상"
  scope := powerScope

end Manager

end Icmp2

------------------------------------------------------------
-- The Page
------------------------------------------------------------

namespace Icmp2

namespace Manager

open Monitoring Library

/- A `CommonCode` of the group `TH_CATEGORY`. -/
structure ThCategoryCode where
  code : String
  codeName : String
  sortOrder : Nat
  isActive : Bool
  scope : String
  updatedBy : String
  deriving DecidableEq, Repr

structure ThresholdPage where
  codes : List ThCategoryCode
  policies : List ThresholdPolicy
  deriving DecidableEq, Repr

/- The constraint on the metric and the category. -/
inductive PageFault where
  | integrityError
  deriving DecidableEq, Repr

abbrev PolicyAction (R : Type) : Type :=
  Action PageFault (List ThresholdPolicy) R

/- The defaults of the categories. -/
def categoryDefaults : List ThCategoryCode :=
  [⟨"TH_GAS", "유해가스", 1, true, gasScope, "시스템"⟩,
    ⟨"TH_POWER", "전력", 2, true, powerScope, "시스템"⟩]

/- `get_or_create`, and a scope for a code without one. -/
def ensureCode
    (codes : List ThCategoryCode)
    (default : ThCategoryCode) :
    List ThCategoryCode :=
  if codes.any fun row => row.code = default.code then
    codes.map fun row =>
      if row.code = default.code ∧ row.scope = "" then
        { row with
          scope := default.scope
          updatedBy := default.updatedBy }
      else
        row
  else
    codes ++ [default]

/- The categories that the page leaves. -/
def ensureCodes
    (codes : List ThCategoryCode) :
    List ThCategoryCode :=
  (categoryDefaults.foldl ensureCode codes).map fun row =>
    { row with updatedBy := renameSystem row.updatedBy }

/- `filter(pk=p.pk).update(...)`. -/
def updatePolicy
    (p : ThresholdPolicy)
    (columns : PolicyColumns) :
    PolicyAction Unit := fun policies =>
  if
      Registered
        (policies.filter fun other => other.id ≠ p.id)
        p.metricCode columns.category then
    .error .integrityError policies
  else
    .ok ()
      (policies.map fun other =>
        if other.id = p.id then columns.set other else other)

/- The loop over rows that are read before it starts. -/
def rewriteEach
    (columns : String → PolicyColumns) :
    List ThresholdPolicy →
    PolicyAction Unit
  | [] => pure ()
  | p :: rest => do
      updatePolicy p (columns p.metricCode)
      rewriteEach columns rest

/- A loop over the policies that a filter selects. -/
def rewriteSelected
    (selected : ThresholdPolicy → Prop)
    [DecidablePred selected]
    (columns : String → PolicyColumns) :
    PolicyAction Unit := do
  let policies ← get
  rewriteEach columns (policies.filter fun p => selected p)

variable [Letters]

/- What is done to the policies. -/
def ensurePolicies :
    PolicyAction Unit := do
  modify fun policies =>
    policies.map fun p =>
      { p with updatedBy := renameSystem p.updatedBy }
  rewriteSelected LacksUnit unitColumns
  rewriteSelected IsStray powerColumns
  modify fun policies =>
    policies.map fun p =>
      { p with condition := restoreCondition p.condition }

/- `_ensure_th_categories`. -/
def ensureThCategories :
    Action PageFault ThresholdPage Unit := fun page =>
  match ensurePolicies page.policies with
  | .ok _ policies =>
      .ok () ⟨ensureCodes page.codes, policies⟩
  | .error fault policies =>
      .error fault ⟨ensureCodes page.codes, policies⟩

end Manager

end Icmp2

------------------------------------------------------------
-- Rewriting Rows
------------------------------------------------------------

namespace Icmp2

namespace Manager

open Monitoring Library

/- Different policies differ in their ids. -/
def IdsUnique
    (policies : List ThresholdPolicy) :
    Prop :=
  (policies.map ThresholdPolicy.id).Nodup

/- No two policies have one metric and one category. -/
def KeysUnique
    (policies : List ThresholdPolicy) :
    Prop :=
  ∀ p ∈ policies, ∀ q ∈ policies,
    p.metricCode = q.metricCode →
      p.category = q.category →
        p.id = q.id

instance
    (policies : List ThresholdPolicy) :
    Decidable (KeysUnique policies) := by
  unfold KeysUnique
  infer_instance

/- What a loop makes of a row. -/
def rewritten
    (selected : ThresholdPolicy → Prop)
    [DecidablePred selected]
    (columns : String → PolicyColumns)
    (p : ThresholdPolicy) :
    ThresholdPolicy :=
  if selected p then (columns p.metricCode).set p else p

section Rewriting

variable {selected : ThresholdPolicy → Prop}
variable [DecidablePred selected]
variable {columns : String → PolicyColumns}

@[simp] theorem id_rewritten
    (p : ThresholdPolicy) :
    (rewritten selected columns p).id = p.id := by
  unfold rewritten
  split <;> rfl

@[simp] theorem metricCode_rewritten
    (p : ThresholdPolicy) :
    (rewritten selected columns p).metricCode =
      p.metricCode := by
  unfold rewritten
  split <;> rfl

theorem category_rewritten
    (p : ThresholdPolicy) :
    (rewritten selected columns p).category =
      if selected p then (columns p.metricCode).category
      else p.category := by
  unfold rewritten
  split <;> rfl

theorem map_id_of_keeps
    {f : ThresholdPolicy → ThresholdPolicy}
    (hKeeps : ∀ p, (f p).id = p.id)
    (policies : List ThresholdPolicy) :
    (policies.map f).map ThresholdPolicy.id =
      policies.map ThresholdPolicy.id := by
  rw [List.map_map]
  exact List.map_congr_left fun p _ => hKeeps p

/- The category that a row is going to have. -/
theorem category_rewritten_of_same
    {p other : ThresholdPolicy}
    (hSelected : selected p)
    (hMetric : other.metricCode = p.metricCode)
    (hCategory :
      other.category = (columns p.metricCode).category) :
    (rewritten selected columns other).category =
      (rewritten selected columns p).category := by
  rw [category_rewritten, category_rewritten,
    if_pos hSelected, hMetric, hCategory, ite_self]

/- No other row is in the way of an update. -/
theorem not_registered_of_keysUnique
    {done rest : List ThresholdPolicy}
    {p : ThresholdPolicy}
    (hSelected : selected p)
    (hKeys :
      KeysUnique
        ((done ++ p :: rest).map
          (rewritten selected columns))) :
    ¬Registered
      ((done.map (rewritten selected columns) ++
          p :: rest).filter fun other => other.id ≠ p.id)
      p.metricCode (columns p.metricCode).category := by
  rintro ⟨other, hOther, hMetric, hCategory⟩
  rcases List.mem_filter.mp hOther with ⟨hMem, hNe⟩
  have hApart : other.id ≠ p.id := by simpa using hNe
  have hGoal : ∀ q ∈ done ++ p :: rest,
      q.metricCode = p.metricCode →
        (rewritten selected columns q).category =
          (rewritten selected columns p).category →
          q.id = p.id := by
    intro q hq hSameMetric hSameCategory
    have hSame := hKeys _ (List.mem_map_of_mem hq)
      (rewritten selected columns p)
      (List.mem_map_of_mem (by simp))
      (by simpa using hSameMetric) hSameCategory
    simpa using hSame
  rcases List.mem_append.mp hMem with hDone | hRest
  · rcases List.mem_map.mp hDone with ⟨q, hq, rfl⟩
    refine hApart ?_
    rw [id_rewritten]
    refine hGoal q (List.mem_append_left _ hq)
      (by simpa using hMetric) ?_
    rw [hCategory, category_rewritten, if_pos hSelected]
  · refine hApart
      (hGoal other (List.mem_append_right _ hRest) hMetric
        ?_)
    exact category_rewritten_of_same hSelected hMetric
      hCategory

/- Rows with other ids stay. -/
theorem map_update_of_absent
    {id : Nat}
    {f : ThresholdPolicy → ThresholdPolicy}
    {policies : List ThresholdPolicy}
    (hAbsent : id ∉ policies.map ThresholdPolicy.id) :
    policies.map
        (fun other => if other.id = id then f other else other) =
      policies := by
  calc
    policies.map
        (fun other => if other.id = id then f other else other)
    _ = policies.map (fun other => other) := by
        refine List.map_congr_left fun other hOther => ?_
        refine if_neg fun hSame => hAbsent ?_
        exact List.mem_map.mpr ⟨other, hOther, hSame⟩
    _ = policies := List.map_id' policies

/- An update touches the row with its id only. -/
theorem map_update_of_split
    {done rest : List ThresholdPolicy}
    {p : ThresholdPolicy}
    (hSelected : selected p)
    (hIds : IdsUnique (done ++ p :: rest)) :
    (done.map (rewritten selected columns) ++
          p :: rest).map
        (fun other =>
          if other.id = p.id then
            (columns p.metricCode).set other
          else other) =
      done.map (rewritten selected columns) ++
        rewritten selected columns p :: rest := by
  unfold IdsUnique at hIds
  rw [List.map_append, List.map_cons, List.nodup_append]
    at hIds
  rcases hIds with ⟨-, hBehind, hApart⟩
  have hNotRest := (List.nodup_cons.mp hBehind).1
  have hNotDone :
      p.id ∉
        (done.map (rewritten selected columns)).map
          ThresholdPolicy.id := by
    rw [map_id_of_keeps id_rewritten]
    intro hMem
    exact hApart p.id hMem p.id List.mem_cons_self rfl
  rw [List.map_append, List.map_cons,
    map_update_of_absent hNotDone,
    map_update_of_absent hNotRest, if_pos rfl, rewritten,
    if_pos hSelected]

/-
  The loop, with some rows done and some to do: it goes
  through if no two rows get one metric and one category.
-/
theorem rewriteEach_of_split
    (done rest : List ThresholdPolicy)
    (hIds : IdsUnique (done ++ rest))
    (hKeys :
      KeysUnique
        ((done ++ rest).map
          (rewritten selected columns))) :
    rewriteEach columns (rest.filter fun p => selected p)
        (done.map (rewritten selected columns) ++ rest) =
      .ok ()
        ((done ++ rest).map
          (rewritten selected columns)) := by
  induction rest generalizing done with
  | nil =>
      simp only [List.filter_nil, List.append_nil]
      rfl
  | cons p rest ih =>
      have hSplit :
          done ++ p :: rest = (done ++ [p]) ++ rest := by
        simp
      have hTail :=
        ih (done ++ [p]) (hSplit ▸ hIds) (hSplit ▸ hKeys)
      rw [← hSplit, List.map_append, List.append_assoc,
        List.map_singleton, List.singleton_append] at hTail
      by_cases hSelected : selected p
      · have hUpdate :
            updatePolicy p (columns p.metricCode)
                (done.map (rewritten selected columns) ++
                  p :: rest) =
              .ok ()
                (done.map (rewritten selected columns) ++
                  rewritten selected columns p :: rest) := by
          rw [updatePolicy, if_neg
            (not_registered_of_keysUnique hSelected hKeys),
            map_update_of_split hSelected hIds]
        rw [List.filter_cons_of_pos (by simpa using hSelected),
          rewriteEach, Action.bind_of_ok hUpdate]
        exact hTail
      · rw [List.filter_cons_of_neg
          (by simpa using hSelected)]
        have hSame : rewritten selected columns p = p :=
          if_neg hSelected
        rwa [hSame] at hTail

/- When an update goes through, and what it leaves. -/
theorem updatePolicy_eq_ok_iff
    {p : ThresholdPolicy}
    {values : PolicyColumns}
    {policies later : List ThresholdPolicy} :
    updatePolicy p values policies = .ok () later ↔
      ¬Registered
          (policies.filter fun other => other.id ≠ p.id)
          p.metricCode values.category ∧
        later =
          policies.map fun other =>
            if other.id = p.id then values.set other
            else other := by
  unfold updatePolicy
  split
  · rename_i hTaken
    refine iff_of_false ?_ fun hBoth => hBoth.1 hTaken
    intro hOk
    cases hOk
  · rename_i hFree
    rw [and_iff_right hFree]
    constructor
    · intro hOk
      cases hOk
      rfl
    · rintro rfl
      rfl

/- An update that goes through keeps the constraint. -/
theorem keysUnique_updatePolicy
    {p : ThresholdPolicy}
    {values : PolicyColumns}
    {policies later : List ThresholdPolicy}
    (hKeys : KeysUnique policies)
    (hRow :
      ∀ q ∈ policies, q.id = p.id →
        q.metricCode = p.metricCode)
    (hOk : updatePolicy p values policies = .ok () later) :
    KeysUnique later := by
  rcases updatePolicy_eq_ok_iff.mp hOk with ⟨hFree, rfl⟩
  have hClash : ∀ r ∈ policies, ∀ q ∈ policies,
      r.id = p.id → q.id ≠ p.id →
        q.metricCode = r.metricCode →
          q.category ≠ values.category := by
    intro r hr q hq hId hNe hMetric hCategory
    refine hFree ⟨q, ?_, ?_, hCategory⟩
    · exact List.mem_filter.mpr ⟨hq, by simpa using hNe⟩
    · exact hMetric.trans (hRow r hr hId)
  intro one hOne two hTwo hMetric hCategory
  rcases List.mem_map.mp hOne with ⟨r, hr, rfl⟩
  rcases List.mem_map.mp hTwo with ⟨q, hq, rfl⟩
  by_cases hR : r.id = p.id <;> by_cases hQ : q.id = p.id
  · simp only [hR, hQ, if_true, PolicyColumns.set]
  · simp only [hR, hQ, if_true, if_false,
      PolicyColumns.set] at hMetric hCategory
    exact absurd hCategory.symm
      (hClash r hr q hq hR hQ hMetric.symm)
  · simp only [hR, hQ, if_true, if_false,
      PolicyColumns.set] at hMetric hCategory
    exact absurd hCategory
      (hClash q hq r hr hQ hR hMetric)
  · simp only [hR, hQ, if_false] at hMetric hCategory ⊢
    exact hKeys r hr q hq hMetric hCategory

/- The loop keeps the constraint while it goes through. -/
theorem keysUnique_rewriteEach
    {rows policies later : List ThresholdPolicy}
    (hKeys : KeysUnique policies)
    (hRows :
      ∀ p ∈ rows, ∀ q ∈ policies,
        q.id = p.id → q.metricCode = p.metricCode)
    (hOk : rewriteEach columns rows policies = .ok () later) :
    KeysUnique later := by
  induction rows generalizing policies with
  | nil =>
      cases hOk
      exact hKeys
  | cons p rows ih =>
      rw [rewriteEach] at hOk
      rcases Action.bind_eq_ok_iff.mp hOk with
        ⟨_, after, hUpdate, hRest⟩
      refine ih
        (keysUnique_updatePolicy hKeys
          (hRows p List.mem_cons_self) hUpdate)
        ?_ hRest
      rcases updatePolicy_eq_ok_iff.mp hUpdate with ⟨-, rfl⟩
      intro row hRow q hq hId
      rcases List.mem_map.mp hq with ⟨r, hr, rfl⟩
      have hSame :=
        hRows row (List.mem_cons_of_mem _ hRow) r hr
      split at hId
      · rw [if_pos (by assumption)]
        exact hSame hId
      · rw [if_neg (by assumption)]
        exact hSame hId

/- What the loop leaves, if it goes through. -/
theorem rewriteEach_eq_of_ok
    (done rest : List ThresholdPolicy)
    {later : List ThresholdPolicy}
    (hIds : IdsUnique (done ++ rest))
    (hOk :
      rewriteEach columns (rest.filter fun p => selected p)
          (done.map (rewritten selected columns) ++ rest) =
        .ok () later) :
    later =
      (done ++ rest).map (rewritten selected columns) := by
  induction rest generalizing done with
  | nil =>
      rw [List.append_nil] at hOk ⊢
      cases hOk
      rfl
  | cons p rest ih =>
      have hSplit :
          done ++ p :: rest = (done ++ [p]) ++ rest := by
        simp
      have hTail := ih (done ++ [p]) (hSplit ▸ hIds)
      rw [← hSplit, List.map_append, List.append_assoc,
        List.map_singleton, List.singleton_append] at hTail
      by_cases hSelected : selected p
      · rw [List.filter_cons_of_pos (by simpa using hSelected),
          rewriteEach] at hOk
        rcases Action.bind_eq_ok_iff.mp hOk with
          ⟨_, after, hUpdate, hRest⟩
        rcases updatePolicy_eq_ok_iff.mp hUpdate with ⟨-, rfl⟩
        rw [map_update_of_split hSelected hIds] at hRest
        exact hTail hRest
      · rw [List.filter_cons_of_neg
          (by simpa using hSelected)] at hOk
        have hSame : rewritten selected columns p = p :=
          if_neg hSelected
        rw [hSame] at hTail
        exact hTail hOk

theorem rewriteSelected_eq
    (policies : List ThresholdPolicy) :
    rewriteSelected selected columns policies =
      rewriteEach columns
        (policies.filter fun p => selected p) policies :=
  rfl

/- Rows of one id are one row. -/
theorem eq_of_id_eq
    {policies : List ThresholdPolicy}
    (hIds : IdsUnique policies)
    {p q : ThresholdPolicy}
    (hp : p ∈ policies)
    (hq : q ∈ policies)
    (hSame : p.id = q.id) :
    p = q :=
  List.inj_on_of_nodup_map hIds hp hq hSame

/- When a loop goes through, and what it leaves. -/
theorem rewriteSelected_eq_ok_iff
    {policies : List ThresholdPolicy}
    (hIds : IdsUnique policies)
    (hKeys : KeysUnique policies)
    (later : List ThresholdPolicy) :
    rewriteSelected selected columns policies =
        .ok () later ↔
      KeysUnique
          (policies.map (rewritten selected columns)) ∧
        later =
          policies.map (rewritten selected columns) := by
  rw [rewriteSelected_eq]
  constructor
  · intro hOk
    have hLater :=
      rewriteEach_eq_of_ok [] policies hIds hOk
    rw [List.nil_append] at hLater
    refine ⟨?_, hLater⟩
    rw [← hLater]
    refine keysUnique_rewriteEach hKeys ?_ hOk
    intro p hp q hq hSame
    rw [eq_of_id_eq hIds hq (List.mem_of_mem_filter hp)
      hSame]
  · rintro ⟨hAfter, rfl⟩
    exact rewriteEach_of_split [] policies hIds hAfter

end Rewriting

end Manager

end Icmp2

------------------------------------------------------------
-- Settled Policies
------------------------------------------------------------

namespace Icmp2

namespace Manager

open Monitoring Library

def renamed
    (p : ThresholdPolicy) :
    ThresholdPolicy :=
  { p with updatedBy := renameSystem p.updatedBy }

def restored
    (p : ThresholdPolicy) :
    ThresholdPolicy :=
  { p with condition := restoreCondition p.condition }

/- The constraint behind a map that keeps ids and metrics. -/
theorem keysUnique_map_iff
    {f : ThresholdPolicy → ThresholdPolicy}
    (hId : ∀ p, (f p).id = p.id)
    (hMetric : ∀ p, (f p).metricCode = p.metricCode)
    (policies : List ThresholdPolicy) :
    KeysUnique (policies.map f) ↔
      ∀ p ∈ policies, ∀ q ∈ policies,
        p.metricCode = q.metricCode →
          (f p).category = (f q).category →
            p.id = q.id := by
  unfold KeysUnique
  simp only [List.forall_mem_map, hId, hMetric]

variable [Letters]

/- What the page makes of a policy. -/
def settle
    (p : ThresholdPolicy) :
    ThresholdPolicy :=
  restored
    (rewritten IsStray powerColumns
      (rewritten LacksUnit unitColumns (renamed p)))

@[simp] theorem id_settle
    (p : ThresholdPolicy) :
    (settle p).id = p.id := by
  simp [settle, restored, renamed]

@[simp] theorem metricCode_settle
    (p : ThresholdPolicy) :
    (settle p).metricCode = p.metricCode := by
  simp [settle, restored, renamed]

/- Rows of one key are stray together. -/
theorem keysUnique_of_stray
    {policies : List ThresholdPolicy}
    (hAfter :
      KeysUnique
        (policies.map (rewritten IsStray powerColumns))) :
    KeysUnique policies := by
  rw [keysUnique_map_iff id_rewritten
    metricCode_rewritten] at hAfter
  intro p hp q hq hMetric hCategory
  refine hAfter p hp q hq hMetric ?_
  simp only [category_rewritten, IsStray, hMetric,
    hCategory]

theorem ensurePolicies_eq_ok_iff
    {policies : List ThresholdPolicy}
    (hIds : IdsUnique policies)
    (hKeys : KeysUnique policies)
    (later : List ThresholdPolicy) :
    ensurePolicies policies = .ok () later ↔
      KeysUnique (policies.map settle) ∧
        later = policies.map settle := by
  let first := policies.map renamed
  let second :=
    first.map (rewritten LacksUnit unitColumns)
  let third := second.map (rewritten IsStray powerColumns)
  have hFirstIds : IdsUnique first := by
    unfold IdsUnique
    rw [map_id_of_keeps (f := renamed) (fun _ => rfl)]
    exact hIds
  have hFirstKeys : KeysUnique first :=
    (keysUnique_map_iff (f := renamed) (fun _ => rfl)
      (fun _ => rfl) policies).mpr hKeys
  have hSecondIds : IdsUnique second := by
    unfold IdsUnique
    rw [map_id_of_keeps id_rewritten]
    exact hFirstIds
  have hMap : third.map restored = policies.map settle := by
    simp only [third, second, first, List.map_map]
    rfl
  have hThird :
      KeysUnique (policies.map settle) ↔
        KeysUnique third := by
    rw [← hMap]
    exact keysUnique_map_iff (f := restored)
      (fun _ => rfl) (fun _ => rfl) third
  have hUnfold :
      ensurePolicies policies =
        ((rewriteSelected LacksUnit unitColumns >>= fun _ =>
          rewriteSelected IsStray powerColumns >>= fun _ =>
            (modify fun policies => policies.map restored :
              PolicyAction Unit)) first) := by
    rfl
  rw [hUnfold, hThird]
  constructor
  · intro hOk
    rcases Action.bind_eq_ok_iff.mp hOk with
      ⟨_, _, hOne, hRest⟩
    rcases (rewriteSelected_eq_ok_iff hFirstIds hFirstKeys
      _).mp hOne with ⟨hAfter, rfl⟩
    rcases Action.bind_eq_ok_iff.mp hRest with
      ⟨_, _, hTwo, hLeft⟩
    rcases (rewriteSelected_eq_ok_iff hSecondIds hAfter
      _).mp hTwo with ⟨hLast, rfl⟩
    cases hLeft
    exact ⟨hLast, hMap⟩
  · rintro ⟨hLast, rfl⟩
    have hAfter := keysUnique_of_stray hLast
    have hOne :=
      (rewriteSelected_eq_ok_iff hFirstIds hFirstKeys
        second).mpr ⟨hAfter, rfl⟩
    have hTwo :=
      (rewriteSelected_eq_ok_iff hSecondIds hAfter
        third).mpr ⟨hLast, rfl⟩
    rw [Action.bind_of_ok hOne, Action.bind_of_ok hTwo,
      ← hMap]
    rfl

end Manager

end Icmp2

------------------------------------------------------------
-- Second Views
------------------------------------------------------------

namespace Icmp2

namespace Manager

open Monitoring Library

theorem renameSystem_idem
    (updatedBy : String) :
    renameSystem (renameSystem updatedBy) =
      renameSystem updatedBy := by
  by_cases hSystem : updatedBy = "system"
  · rw [hSystem]
    decide
  · have hSame : renameSystem updatedBy = updatedBy :=
      if_neg hSystem
    rw [hSame, hSame]

theorem restoreCondition_idem
    (condition : String) :
    restoreCondition (restoreCondition condition) =
      restoreCondition condition := by
  by_cases hOver : condition = "초과"
  · rw [hOver]
    decide
  · by_cases hUnder : condition = "미만"
    · rw [hUnder]
      decide
    · have hSame :
          restoreCondition condition = condition := by
        rw [restoreCondition, if_neg hOver, if_neg hUnder]
      rw [hSame, hSame]

/- A category with its defaults. -/
structure HasDefault
    (codes : List ThCategoryCode)
    (default : ThCategoryCode) :
    Prop where
  code : ∃ row ∈ codes, row.code = default.code
  scope :
    ∀ row ∈ codes, row.code = default.code → row.scope ≠ ""

/- With its defaults a category is left as it is. -/
theorem HasDefault.ensureCode_eq
    {codes : List ThCategoryCode}
    {default : ThCategoryCode}
    (hDefault : HasDefault codes default) :
    ensureCode codes default = codes := by
  have hAny :
      (codes.any fun row => row.code = default.code) =
        true := by
    simpa using hDefault.code
  rw [ensureCode, if_pos hAny]
  calc
    codes.map
        (fun row =>
          if row.code = default.code ∧ row.scope = "" then
            { row with
              scope := default.scope
              updatedBy := default.updatedBy }
          else
            row)
    _ = codes.map (fun row => row) := by
        refine List.map_congr_left fun row hRow => ?_
        refine if_neg fun hEmpty => ?_
        exact hDefault.scope row hRow hEmpty.1 hEmpty.2
    _ = codes := List.map_id' codes

/- The codes and scopes that a default leaves. -/
theorem hasDefault_ensureCode
    {default : ThCategoryCode}
    (hScope : default.scope ≠ "")
    (codes : List ThCategoryCode) :
    HasDefault (ensureCode codes default) default := by
  unfold ensureCode
  split
  · rename_i hAny
    rcases List.any_eq_true.mp hAny with ⟨row, hRow, hCode⟩
    have hSame : row.code = default.code := by
      simpa using hCode
    constructor
    · refine ⟨_, List.mem_map_of_mem hRow, ?_⟩
      split <;> exact hSame
    · intro other hOther hOtherCode
      rcases List.mem_map.mp hOther with ⟨old, hOld, rfl⟩
      split
      · exact hScope
      · rename_i hKept
        rw [if_neg hKept] at hOtherCode
        exact fun hEmpty => hKept ⟨hOtherCode, hEmpty⟩
  · rename_i hAny
    have hNone :
        ∀ row ∈ codes, row.code ≠ default.code := by
      simpa using hAny
    constructor
    · exact ⟨default, by simp, rfl⟩
    · intro row hRow hCode
      rcases List.mem_append.mp hRow with hOld | hNew
      · exact absurd hCode (hNone row hOld)
      · rw [List.mem_singleton.mp hNew]
        exact hScope

/- Another default keeps it. -/
theorem HasDefault.of_ensureCode
    {codes : List ThCategoryCode}
    {default other : ThCategoryCode}
    (hDefault : HasDefault codes default)
    (hScope : other.scope ≠ "")
    (hCode : other.code ≠ default.code) :
    HasDefault (ensureCode codes other) default := by
  rcases hDefault.code with ⟨row, hRow, hSame⟩
  unfold ensureCode
  split
  · constructor
    · refine ⟨_, List.mem_map_of_mem hRow, ?_⟩
      split <;> exact hSame
    · intro later hLater hLaterCode
      rcases List.mem_map.mp hLater with ⟨old, hOld, rfl⟩
      split
      · exact hScope
      · rename_i hKept
        rw [if_neg hKept] at hLaterCode
        exact hDefault.scope old hOld hLaterCode
  · constructor
    · exact ⟨row, List.mem_append_left _ hRow, hSame⟩
    · intro later hLater hLaterCode
      rcases List.mem_append.mp hLater with hOld | hNew
      · exact hDefault.scope later hOld hLaterCode
      · rw [List.mem_singleton.mp hNew] at hLaterCode
        exact absurd hLaterCode hCode

/- Renaming the author keeps it. -/
theorem HasDefault.rename
    {codes : List ThCategoryCode}
    {default : ThCategoryCode}
    (hDefault : HasDefault codes default) :
    HasDefault
      (codes.map fun row =>
        { row with updatedBy := renameSystem row.updatedBy })
      default := by
  rcases hDefault.code with ⟨row, hRow, hSame⟩
  constructor
  · exact ⟨_, List.mem_map_of_mem hRow, hSame⟩
  · intro later hLater hCode
    rcases List.mem_map.mp hLater with ⟨old, hOld, rfl⟩
    exact hDefault.scope old hOld hCode

/- A second view leaves the categories as they are. -/
theorem ensureCodes_ensureCodes
    (codes : List ThCategoryCode) :
    ensureCodes (ensureCodes codes) =
      ensureCodes codes := by
  have hAll :
      ∀ default ∈ categoryDefaults,
        HasDefault (ensureCodes codes) default := by
    intro default hDefault
    refine HasDefault.rename ?_
    simp only [categoryDefaults, List.mem_cons,
      List.not_mem_nil, or_false] at hDefault
    rcases hDefault with rfl | rfl
    · exact
        (hasDefault_ensureCode (by decide) codes).of_ensureCode
          (by decide) (by decide)
    · exact hasDefault_ensureCode (by decide) _
  have hFold :
      categoryDefaults.foldl ensureCode (ensureCodes codes) =
        ensureCodes codes := by
    have hOne := (hAll _ List.mem_cons_self).ensureCode_eq
    have hTwo :=
      (hAll _ (List.mem_cons_of_mem _
        List.mem_cons_self)).ensureCode_eq
    rw [categoryDefaults, List.foldl_cons, hOne,
      List.foldl_cons, hTwo, List.foldl_nil]
  conv_lhs => rw [ensureCodes, hFold, ensureCodes]
  rw [ensureCodes, List.map_map]
  refine List.map_congr_left fun row _ => ?_
  simp only [Function.comp_apply, renameSystem_idem]

variable [Letters]

/- A policy in which the page finds nothing to do. -/
structure Settled
    (p : ThresholdPolicy) :
    Prop where
  name : renameSystem p.updatedBy = p.updatedBy
  unit :
    LacksUnit p → (unitColumns p.metricCode).set p = p
  category : ¬IsStray p
  condition : restoreCondition p.condition = p.condition

/- A settled policy is left as it is. -/
theorem Settled.settle_eq
    {p : ThresholdPolicy}
    (hSettled : Settled p) :
    settle p = p := by
  have hNamed : renamed p = p := by
    rw [renamed, hSettled.name]
  have hUnit :
      rewritten LacksUnit unitColumns p = p := by
    unfold rewritten
    split
    · rename_i hLacks
      exact hSettled.unit hLacks
    · rfl
  have hCategory :
      rewritten IsStray powerColumns p = p :=
    if_neg hSettled.category
  rw [settle, hNamed, hUnit, hCategory, restored,
    hSettled.condition]

/- The columns of a policy without a unit need no repair. -/
theorem restoreCondition_unitColumns
    (metricCode : String) :
    restoreCondition (unitColumns metricCode).condition =
      (unitColumns metricCode).condition := by
  simp only [unitColumns]
  split <;> rfl

/- The power metrics are in small letters of ASCII. -/
theorem lower_of_power
    {metricCode : String}
    (hPower : metricCode ∈ powerMetrics) :
    Letters.lower metricCode = metricCode := by
  have hSmall :
      ∀ metric ∈ powerMetrics,
        isAscii metric = true ∧ lower metric = metric := by
    decide
  rcases hSmall metricCode hPower with ⟨hAscii, hSame⟩
  rw [Letters.lower_ascii metricCode hAscii, hSame]

/- No metric is among the gases and a power metric. -/
theorem thCategory_of_power
    {metricCode : String}
    (hPower : metricCode ∈ powerMetrics) :
    thCategory metricCode = "TH_POWER" := by
  have hOther : metricCode ∉ gasMetrics := by
    revert metricCode
    decide
  simp only [thCategory, lower_of_power hPower,
    if_neg hOther, if_pos hPower]

/- For a power metric both loops write the same columns. -/
theorem unitColumns_of_power
    {metricCode : String}
    (hPower : metricCode ∈ powerMetrics) :
    unitColumns metricCode = powerColumns metricCode := by
  have hOther : metricCode ≠ "o2" := by
    revert metricCode
    decide
  simp [unitColumns, powerColumns, lower_of_power hPower,
    thCategory_of_power hPower, hOther]

/- Filling in the unit makes no stray policy. -/
theorem not_isStray_unitColumns
    (p : ThresholdPolicy) :
    ¬IsStray ((unitColumns p.metricCode).set p) := by
  simp only [IsStray, PolicyColumns.set, unitColumns]
  rintro ⟨hGas, hPower⟩
  rw [thCategory_of_power hPower] at hGas
  exact absurd hGas (by decide)

/- Filling in the unit settles a policy. -/
theorem settled_set_unitColumns
    (p : ThresholdPolicy) :
    Settled ((unitColumns p.metricCode).set (renamed p)) where
  name := by
    simp only [PolicyColumns.set, renamed, renameSystem_idem]
  unit := by
    intro _
    simp only [PolicyColumns.set, renamed]
  category := not_isStray_unitColumns (renamed p)
  condition := by
    simp only [PolicyColumns.set,
      restoreCondition_unitColumns]

/- What the page makes of a policy is settled. -/
theorem settled_settle
    (p : ThresholdPolicy) :
    Settled (settle p) := by
  by_cases hLacks : LacksUnit p
  · have hUnit :
        rewritten LacksUnit unitColumns (renamed p) =
          (unitColumns p.metricCode).set (renamed p) :=
      if_pos hLacks
    have hStray :
        ¬IsStray
          ((unitColumns p.metricCode).set (renamed p)) :=
      not_isStray_unitColumns (renamed p)
    have hSettle :
        settle p =
          (unitColumns p.metricCode).set (renamed p) := by
      rw [settle, hUnit, rewritten, if_neg hStray, restored]
      simp only [PolicyColumns.set,
        restoreCondition_unitColumns]
    rw [hSettle]
    exact settled_set_unitColumns p
  · have hUnit :
        rewritten LacksUnit unitColumns (renamed p) =
          renamed p :=
      if_neg hLacks
    by_cases hStray : IsStray p
    · have hMoved :
          rewritten IsStray powerColumns (renamed p) =
            (powerColumns p.metricCode).set (renamed p) :=
        if_pos hStray
      have hSettle :
          settle p =
            (powerColumns p.metricCode).set (renamed p) := by
        rw [settle, hUnit, hMoved]
        rfl
      rw [hSettle, ← unitColumns_of_power hStray.2]
      exact settled_set_unitColumns p
    · have hKept :
          rewritten IsStray powerColumns (renamed p) =
            renamed p :=
        if_neg hStray
      have hSettle : settle p = restored (renamed p) := by
        rw [settle, hUnit, hKept]
      rw [hSettle]
      exact
        { name := renameSystem_idem p.updatedBy
          unit := fun hUnitless => absurd hUnitless hLacks
          category := hStray
          condition := restoreCondition_idem p.condition }

theorem settle_settle
    (p : ThresholdPolicy) :
    settle (settle p) = settle p :=
  (settled_settle p).settle_eq

/- A second view finds the policies settled. -/
theorem map_settle_settle
    (policies : List ThresholdPolicy) :
    (policies.map settle).map settle =
      policies.map settle := by
  rw [List.map_map]
  exact List.map_congr_left fun p _ => settle_settle p

end Manager

end Icmp2

------------------------------------------------------------
-- Submitted Policies
------------------------------------------------------------

namespace Icmp2

namespace Manager

open Monitoring Library

/- What the forms keep. -/
structure Sound
    (policies : List ThresholdPolicy) :
    Prop where
  ids : IdsUnique policies
  keys : KeysUnique policies

/- A form and the name of who submits it. -/
structure Submission where
  updatedBy : String
  request : ThresholdRequest
  deriving DecidableEq, Repr

theorem le_foldr_max
    {id : Nat}
    {ids : List Nat}
    (hMem : id ∈ ids) :
    id ≤ ids.foldr max 0 := by
  induction ids with
  | nil => exact absurd hMem List.not_mem_nil
  | cons first ids ih =>
      rw [List.foldr_cons]
      rcases List.mem_cons.mp hMem with rfl | hRest
      · exact le_max_left _ _
      · exact le_max_of_le_right (ih hRest)

theorem freshId_not_mem
    (policies : List ThresholdPolicy) :
    freshId policies ∉
      policies.map ThresholdPolicy.id := by
  intro hMem
  have hLe := le_foldr_max hMem
  unfold freshId at hLe
  omega

/- What a form writes, and what it leaves. -/
theorem write_keeps
    {text : FloatText}
    {values : ThresholdValues}
    {updatedBy : String}
    {row policy : ThresholdPolicy}
    (hWrite : values.write text updatedBy row = .ok policy) :
    policy.id = row.id ∧
      policy.category = row.category ∧
        policy.metricCode = values.metricCode := by
  unfold ThresholdValues.write at hWrite
  split at hWrite
  · cases hWrite
  · split at hWrite
    · cases hWrite
    · cases hWrite
      exact ⟨rfl, rfl, rfl⟩

/- A policy of a new metric of its category. -/
theorem Sound.append
    {policies : List ThresholdPolicy}
    {policy : ThresholdPolicy}
    (hSound : Sound policies)
    (hId : policy.id = freshId policies)
    (hFree :
      ¬Registered policies policy.metricCode
          policy.category) :
    Sound (policies ++ [policy]) := by
  have hClash : ∀ p ∈ policies,
      p.metricCode = policy.metricCode →
        p.category ≠ policy.category := by
    intro p hp hMetric hCategory
    exact hFree ⟨p, hp, hMetric, hCategory⟩
  constructor
  · unfold IdsUnique
    rw [List.map_append, List.map_singleton,
      ← List.concat_eq_append]
    refine hSound.ids.concat ?_
    rw [hId]
    exact freshId_not_mem policies
  · intro p hp q hq hMetric hCategory
    rcases List.mem_append.mp hp with hOldP | hNewP <;>
      rcases List.mem_append.mp hq with hOldQ | hNewQ
    · exact hSound.keys p hOldP q hOldQ hMetric hCategory
    · rw [List.mem_singleton.mp hNewQ] at hMetric hCategory
      exact absurd hCategory (hClash p hOldP hMetric)
    · rw [List.mem_singleton.mp hNewP] at hMetric hCategory
      exact absurd hCategory.symm
        (hClash q hOldQ hMetric.symm)
    · rw [List.mem_singleton.mp hNewP,
        List.mem_singleton.mp hNewQ]

/- A policy whose metric changes to a free one, if at all. -/
theorem Sound.replace
    {policies : List ThresholdPolicy}
    {row policy : ThresholdPolicy}
    (hSound : Sound policies)
    (hRow : row ∈ policies)
    (hId : policy.id = row.id)
    (hCategory : policy.category = row.category)
    (hFree :
      policy.metricCode ≠ row.metricCode →
        ¬Registered policies policy.metricCode
            row.category) :
    Sound
      (policies.map fun other =>
        if other.id = row.id then policy else other) := by
  have hClash : ∀ q ∈ policies, q.id ≠ row.id →
      q.metricCode = policy.metricCode →
        q.category ≠ row.category := by
    intro q hq hNe hMetric hSame
    by_cases hMoved : policy.metricCode = row.metricCode
    · exact hNe
        (hSound.keys q hq row hRow (hMetric.trans hMoved)
          hSame)
    · exact hFree hMoved ⟨q, hq, hMetric, hSame⟩
  constructor
  · have hKeeps : ∀ other : ThresholdPolicy,
        (if other.id = row.id then policy else other).id =
          other.id := by
      intro other
      split
      · rename_i hSame
        rw [hId, hSame]
      · rfl
    unfold IdsUnique
    rw [map_id_of_keeps hKeeps]
    exact hSound.ids
  · intro one hOne two hTwo hMetric hSame
    rcases List.mem_map.mp hOne with ⟨p, hp, rfl⟩
    rcases List.mem_map.mp hTwo with ⟨q, hq, rfl⟩
    by_cases hP : p.id = row.id <;>
      by_cases hQ : q.id = row.id
    · simp only [hP, hQ, if_true]
    · simp only [hP, hQ, if_true, if_false] at hMetric hSame
      rw [hCategory] at hSame
      exact absurd hSame.symm
        (hClash q hq hQ hMetric.symm)
    · simp only [hP, hQ, if_true, if_false] at hMetric hSame
      rw [hCategory] at hSame
      exact absurd hSame (hClash p hp hP hMetric)
    · simp only [hP, hQ, if_false] at hMetric hSame ⊢
      exact hSound.keys p hp q hq hMetric hSame

variable [Letters]

/- The policies after a form, accepted or not. -/
def submitted
    (text : FloatText)
    (policies : List ThresholdPolicy)
    (submission : Submission) :
    List ThresholdPolicy :=
  match
      submit text submission.updatedBy policies
        submission.request with
  | .ok saved => saved.policies
  | .error _ => policies

/- A form keeps ids and keys unique. -/
theorem sound_submitted
    (text : FloatText)
    {policies : List ThresholdPolicy}
    (submission : Submission)
    (hSound : Sound policies) :
    Sound (submitted text policies submission) := by
  rcases submission with ⟨updatedBy, request⟩
  cases hResult : submit text updatedBy policies request with
  | error refusal =>
      simp only [submitted, hResult]
      exact hSound
  | ok saved =>
      simp only [submitted, hResult]
      cases request with
      | create form =>
          simp only [submit, thresholdCreate] at hResult
          split at hResult
          · cases hResult
          · rename_i hFree
            split at hResult
            · cases hResult
            · split at hResult
              · cases hResult
              · rename_i policy hWrite
                cases hResult
                rcases write_keeps hWrite with
                  ⟨hId, hCategory, hMetric⟩
                refine hSound.append hId ?_
                rw [hMetric, hCategory]
                exact hFree
      | edit pk form =>
          simp only [submit, thresholdEdit] at hResult
          cases hRow :
              policies.find? fun policy => policy.id = pk with
          | none =>
              rw [hRow] at hResult
              cases hResult
          | some row =>
              have hPk : row.id = pk := by
                simpa using List.find?_some hRow
              simp only [hRow] at hResult
              split at hResult
              · cases hResult
              · rename_i hFree
                split at hResult
                · cases hResult
                · rename_i policy hWrite
                  cases hResult
                  rcases write_keeps hWrite with
                    ⟨hId, hCategory, hMetric⟩
                  rw [← hPk]
                  refine hSound.replace
                    (List.mem_of_find?_eq_some hRow) hId
                    hCategory ?_
                  rw [hMetric]
                  exact fun hMoved hTaken =>
                    hFree ⟨hMoved, hTaken⟩

/- Every table that forms fill. -/
theorem sound_run_submitted
    (text : FloatText)
    (submissions : List Submission) :
    Sound (run (submitted text) [] submissions) := by
  refine run_invariant
    (fun policies submission hSound =>
      sound_submitted text submission hSound) ?_ submissions
  constructor
  · exact List.nodup_nil
  · exact fun p hp => absurd hp List.not_mem_nil

end Manager

end Icmp2

------------------------------------------------------------
-- Enforcement
------------------------------------------------------------

namespace Icmp2

namespace Manager

open Monitoring Alerts Library

section Enforced

/- The row is rewritten by one of the loops. -/
def Repaired
    (p : ThresholdPolicy) :
    Prop :=
  LacksUnit p ∨ IsStray p

/- The columns that no loop writes. -/
structure SameLimits
    (p q : ThresholdPolicy) :
    Prop where
  isActive : p.isActive = q.isActive
  limits : p.limits = q.limits
  warningMax : p.warningMax = q.warningMax
  dangerMax : p.dangerMax = q.dangerMax

theorem sameLimits_rewritten
    (selected : ThresholdPolicy → Prop)
    [DecidablePred selected]
    (columns : String → PolicyColumns)
    (p : ThresholdPolicy) :
    SameLimits (rewritten selected columns p) p := by
  unfold rewritten
  split
  · exact ⟨rfl, rfl, rfl, rfl⟩
  · exact ⟨rfl, rfl, rfl, rfl⟩

theorem SameLimits.trans
    {p q r : ThresholdPolicy}
    (hFirst : SameLimits p q)
    (hSecond : SameLimits q r) :
    SameLimits p r where
  isActive := hFirst.isActive.trans hSecond.isActive
  limits := hFirst.limits.trans hSecond.limits
  warningMax := hFirst.warningMax.trans hSecond.warningMax
  dangerMax := hFirst.dangerMax.trans hSecond.dangerMax

/- The policies that grade the load of a channel. -/
def IsLoadRate
    (p : ThresholdPolicy) :
    Prop :=
  p.category = "TH_POWER" ∧
    p.metricCode = "load_rate" ∧
      p.isActive = true

instance : DecidablePred IsLoadRate := by
  intro p
  unfold IsLoadRate
  infer_instance

theorem loadRatePolicy?_eq
    (policies : List ThresholdPolicy) :
    loadRatePolicy? policies =
      policies.find? fun p => IsLoadRate p :=
  rfl

/- The policies of the load rate are one. -/
theorem isLoadRate_unique
    {policies : List ThresholdPolicy}
    (hSound : Sound policies)
    {p q : ThresholdPolicy}
    (hp : p ∈ policies)
    (hq : q ∈ policies)
    (hLoadP : IsLoadRate p)
    (hLoadQ : IsLoadRate q) :
    p = q := by
  refine eq_of_id_eq hSound.ids hp hq ?_
  exact hSound.keys p hp q hq
    (hLoadP.2.1.trans hLoadQ.2.1.symm)
    (hLoadP.1.trans hLoadQ.1.symm)

/- A channel's level looks at the two limits only. -/
theorem calcPowerChannelLevel_congr
    {first second : List ThresholdPolicy}
    (hWarn : warnPct first = warnPct second)
    (hDanger : dangerPct first = dangerPct second)
    (reading : PowerReading) :
    calcPowerChannelLevel first reading =
      calcPowerChannelLevel second reading := by
  unfold calcPowerChannelLevel levelOfLoad
  rw [hWarn, hDanger]

variable [Letters]

/- The page returns, with the policies settled. -/
theorem ensureThCategories_eq_ok_iff
    (page : ThresholdPage)
    (hSound : Sound page.policies)
    (later : ThresholdPage) :
    ensureThCategories page = .ok () later ↔
      KeysUnique (page.policies.map settle) ∧
        later =
          ⟨ensureCodes page.codes,
            page.policies.map settle⟩ := by
  have hIff := fun after =>
    ensurePolicies_eq_ok_iff hSound.ids hSound.keys after
  unfold ensureThCategories
  cases hResult : ensurePolicies page.policies with
  | ok value policies =>
      rcases (hIff policies).mp hResult with ⟨hKeys, rfl⟩
      constructor
      · intro hOk
        cases hOk
        exact ⟨hKeys, rfl⟩
      · rintro ⟨-, rfl⟩
        rfl
  | error fault policies =>
      constructor
      · intro hOk
        cases hOk
      · rintro ⟨hKeys, -⟩
        have hOk := (hIff _).mpr ⟨hKeys, rfl⟩
        rw [hResult] at hOk
        cases hOk

/- Settling a table keeps it sound, if the keys allow. -/
theorem sound_map_settle
    {policies : List ThresholdPolicy}
    (hSound : Sound policies)
    (hKeys : KeysUnique (policies.map settle)) :
    Sound (policies.map settle) := by
  refine ⟨?_, hKeys⟩
  unfold IdsUnique
  rw [map_id_of_keeps id_settle]
  exact hSound.ids

theorem sameLimits_settle
    (p : ThresholdPolicy) :
    SameLimits (settle p) p := by
  have hRenamed : SameLimits (renamed p) p :=
    ⟨rfl, rfl, rfl, rfl⟩
  have hRestored : ∀ q, SameLimits (restored q) q :=
    fun _ => ⟨rfl, rfl, rfl, rfl⟩
  exact
    (hRestored _).trans
      ((sameLimits_rewritten IsStray powerColumns _).trans
        ((sameLimits_rewritten LacksUnit unitColumns
          _).trans hRenamed))

/- A policy that no loop rewrites keeps its scope. -/
theorem scope_settle_of_not_repaired
    {p : ThresholdPolicy}
    (hKept : ¬Repaired p) :
    (settle p).scope = p.scope := by
  have hUnit :
      rewritten LacksUnit unitColumns (renamed p) =
        renamed p :=
    if_neg fun hLacks => hKept (Or.inl hLacks)
  have hCategory :
      rewritten IsStray powerColumns (renamed p) =
        renamed p :=
    if_neg fun hStray => hKept (Or.inr hStray)
  rw [settle, hUnit, hCategory]
  rfl

/- Limits move with the scopes of the rewritten policies. -/
theorem getThresholds_map_settle
    {policies : List ThresholdPolicy}
    {scope : String}
    (hScopes :
      ∀ p ∈ policies, Repaired p →
        ((settle p).Applies scope ↔ p.Applies scope)) :
    getThresholds (policies.map settle) scope =
      getThresholds policies scope := by
  have hApplies : ∀ p ∈ policies,
      ((settle p).Applies scope ↔ p.Applies scope) := by
    intro p hp
    by_cases hRepaired : Repaired p
    · exact hScopes p hp hRepaired
    · unfold ThresholdPolicy.Applies
      rw [(sameLimits_settle p).isActive,
        scope_settle_of_not_repaired hRepaired]
  have hApplicable :
      applicable (policies.map settle) scope =
        (applicable policies scope).map settle := by
    unfold applicable
    rw [List.filter_map]
    congr 1
    refine List.filter_congr fun p hp => ?_
    exact decide_eq_decide.mpr (hApplies p hp)
  have hLimits :
      ((applicable policies scope).map settle).filterMap
          ThresholdPolicy.limits =
        (applicable policies scope).filterMap
          ThresholdPolicy.limits := by
    rw [List.filterMap_map]
    refine List.filterMap_congr fun p _ => ?_
    exact (sameLimits_settle p).limits
  by_cases hNone : applicable policies scope = []
  · rw [getThresholds_of_applicable_nil hNone,
      getThresholds_of_applicable_nil]
    rw [hApplicable, hNone, List.map_nil]
  · rw [getThresholds_of_applicable hNone,
      getThresholds_of_applicable, hApplicable, hLimits]
    rw [hApplicable]
    exact fun hNil => hNone (List.map_eq_nil_iff.mp hNil)

/- The load rate is no metric that the page knows. -/
theorem category_settle_of_load_rate
    {p : ThresholdPolicy}
    (hMetric : p.metricCode = "load_rate") :
    (settle p).category =
      if LacksUnit p then "TH_COMMON" else p.category := by
  have hStray : ∀ q : ThresholdPolicy,
      q.metricCode = "load_rate" → ¬IsStray q := by
    rintro q hSame ⟨-, hPower⟩
    rw [hSame] at hPower
    exact absurd hPower (by decide)
  have hSecond :
      (rewritten LacksUnit unitColumns
          (renamed p)).metricCode = "load_rate" := by
    rw [metricCode_rewritten]
    exact hMetric
  have hUnit :
      (unitColumns (renamed p).metricCode).category =
        "TH_COMMON" := by
    have hSame : (renamed p).metricCode = "load_rate" :=
      hMetric
    have hLower : Letters.lower "load_rate" = "load_rate" :=
      (Letters.lower_ascii _ (by decide)).trans (by decide)
    simp [hSame, unitColumns, thCategory, hLower, gasMetrics,
      powerMetrics]
  rw [settle, restored, category_rewritten,
    if_neg (hStray _ hSecond), category_rewritten, hUnit]
  rfl

/- Without a unit the policy of the load rate is lost. -/
theorem isLoadRate_settle_iff
    (p : ThresholdPolicy) :
    IsLoadRate (settle p) ↔
      IsLoadRate p ∧ ¬LacksUnit p := by
  unfold IsLoadRate
  rw [metricCode_settle, (sameLimits_settle p).isActive]
  by_cases hMetric : p.metricCode = "load_rate"
  · rw [category_settle_of_load_rate hMetric]
    by_cases hLacks : LacksUnit p
    · simp [hLacks]
    · simp [hLacks]
  · simp [hMetric]

/- The policy of the load rate after the page. -/
theorem loadRatePolicy?_map_settle
    {policies : List ThresholdPolicy}
    (hSound : Sound policies) :
    loadRatePolicy? (policies.map settle) =
      ((loadRatePolicy? policies).filter
        fun p => ¬LacksUnit p).map settle := by
  rw [loadRatePolicy?_eq, loadRatePolicy?_eq, List.find?_map]
  congr 1
  cases hFound : policies.find? fun p => IsLoadRate p with
  | none =>
      rw [Option.filter_none, List.find?_eq_none]
      intro p hp hSettled
      have hLoad : IsLoadRate (settle p) := by
        simpa using hSettled
      have hNone := List.find?_eq_none.mp hFound p hp
      exact hNone (by
        simpa using ((isLoadRate_settle_iff p).mp hLoad).1)
  | some row =>
      have hRow : IsLoadRate row := by
        simpa using List.find?_some hFound
      have hMem := List.mem_of_find?_eq_some hFound
      by_cases hLacks : LacksUnit row
      · rw [Option.filter_some_neg (by simpa using hLacks),
          List.find?_eq_none]
        intro p hp hSettled
        have hLoad :=
          (isLoadRate_settle_iff p).mp (by simpa using hSettled)
        rw [isLoadRate_unique hSound hp hMem hLoad.1 hRow]
          at hLoad
        exact hLoad.2 hLacks
      · rw [Option.filter_some_pos (by simpa using hLacks)]
        cases hLater :
            policies.find?
              ((fun p => decide (IsLoadRate p)) ∘ settle) with
        | none =>
            have hNone :=
              List.find?_eq_none.mp hLater row hMem
            exact absurd
              ((isLoadRate_settle_iff row).mpr ⟨hRow, hLacks⟩)
              (by simpa using hNone)
        | some other =>
            have hLoad :=
              (isLoadRate_settle_iff other).mp
                (by simpa using List.find?_some hLater)
            rw [isLoadRate_unique hSound
              (List.mem_of_find?_eq_some hLater) hMem
              hLoad.1 hRow]

/- With a unit the load rate keeps its limits. -/
theorem level_settle_of_unit
    {policies : List ThresholdPolicy}
    (hSound : Sound policies)
    (hUnit :
      ∀ p, loadRatePolicy? policies = some p →
        ¬LacksUnit p)
    (reading : PowerReading) :
    calcPowerChannelLevel (policies.map settle) reading =
      calcPowerChannelLevel policies reading := by
  have hKept :
      loadRatePolicy? (policies.map settle) =
        (loadRatePolicy? policies).map settle := by
    rw [loadRatePolicy?_map_settle hSound]
    cases hFound : loadRatePolicy? policies with
    | none => rfl
    | some p =>
        rw [Option.filter_some_pos (by
          simpa using hUnit p hFound)]
  have hColumns : ∀ column : ThresholdPolicy → Option ℚ,
      (∀ p, column (settle p) = column p) →
        (loadRatePolicy? (policies.map settle)).bind column =
          (loadRatePolicy? policies).bind column := by
    intro column hColumn
    rw [hKept]
    cases loadRatePolicy? policies with
    | none => rfl
    | some p => exact hColumn p
  refine calcPowerChannelLevel_congr ?_ ?_ reading
  · unfold warnPct
    rw [hColumns _ fun p => (sameLimits_settle p).warningMax]
  · unfold dangerPct
    rw [hColumns _ fun p => (sameLimits_settle p).dangerMax]

/- What a view of the page does to what is enforced. -/
structure PageEffect
    (page : ThresholdPage) :
    Prop where
  returns :
    KeysUnique (page.policies.map settle) →
      ∃ later, ensureThCategories page = .ok () later
  policies :
    ∀ later, ensureThCategories page = .ok () later →
      later.policies = page.policies.map settle
  again :
    ∀ later, ensureThCategories page = .ok () later →
      ensureThCategories later = .ok () later
  thresholds :
    ∀ later, ensureThCategories page = .ok () later →
      ∀ scope,
        (∀ p ∈ page.policies, Repaired p →
          ((settle p).Applies scope ↔ p.Applies scope)) →
        getThresholds later.policies scope =
          getThresholds page.policies scope
  levels :
    ∀ later, ensureThCategories page = .ok () later →
      (∀ p, loadRatePolicy? page.policies = some p →
        ¬LacksUnit p) →
      ∀ reading,
        calcPowerChannelLevel later.policies reading =
          calcPowerChannelLevel page.policies reading

end Enforced

/- A form without a unit. -/
def unitlessForm
    (metricCode category scope : String)
    (warningVal dangerVal : String) :
    ThresholdForm :=
  { postedForm metricCode "이상" warningVal dangerVal with
    unit := some ""
    scope := some scope
    category := some category }

/- A page whose policies the forms of an operator fill. -/
def filledPage
    (forms : List ThresholdForm) :
    ThresholdPage where
  codes := []
  policies :=
    run (@submitted asciiLetters wholeText) []
      (forms.map fun form => ⟨"관리자", .create form⟩)

/- One policy for the alarms, without a unit. -/
def alarmPage : ThresholdPage :=
  filledPage
    [unitlessForm "co" "TH_GAS" "알림" "30" "40"]

/- One policy for the load rate, without a unit. -/
def loadPage : ThresholdPage :=
  filledPage
    [unitlessForm "load_rate" "TH_POWER" "" "30" "60"]

/- One metric in two categories. -/
def clashingPage : ThresholdPage :=
  filledPage
    [postedForm "co" "이상" "30" "40",
      unitlessForm "co" "TH_COMMON" "" "30" "40"]

/- The mill at 65 percent of its rated power. -/
def loadedReading : PowerReading where
  channel := millChannel
  currentA := some 3
  voltageV := some 220
  powerW := some 650

end Manager

end Icmp2
