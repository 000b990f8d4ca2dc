import Icmp2.Accounts.Users

/-
  Workers are the mirror of their users.

  Main definitions include:
    * `Icmp2.Accounts.Mirrors`
    * `Icmp2.Accounts.AccountStore.Mirrored`
    * `Icmp2.Accounts.Carried`

  Main theorems include:
    * `Icmp2.Accounts.AccountStore.Intact.accountStep`
    * `Icmp2.Accounts.mirrored_accountStep_iff`
    * `Icmp2.Accounts.workers_mirror_users_iff`

  What a view saves by itself is carried over to the worker,
  unless the column of the worker is too short for the name.
  What it updates in bulk is not carried over.
-/

------------------------------------------------------------
-- The Mirror
------------------------------------------------------------

namespace Icmp2

namespace Accounts

open Library

/- The name, the department and the phone of the user. -/
def Mirrors
    (user : User)
    (worker : WorkerRow) :
    Prop :=
  worker.workerName = user.workerName ∧
    worker.department = user.department ∧
    worker.phone = user.phone

instance
    (user : User)
    (worker : WorkerRow) :
    Decidable (Mirrors user worker) := by
  unfold Mirrors
  infer_instance

/- Every worker that belongs to a user mirrors it. -/
def AccountStore.Mirrored
    (store : AccountStore) :
    Prop :=
  ∀ id pk worker user,
    store.workers.get? id = some worker →
    worker.user = some pk →
    store.users.get? pk = some user →
      Mirrors user worker

/- What the columns and keys of the tables ensure. -/
structure AccountStore.Intact
    (store : AccountStore) :
    Prop where
  linked :
    ∀ id pk worker,
      store.workers.get? id = some worker →
      worker.user = some pk →
        (store.users.get? pk).isSome
  oneWorker : store.workers.UniqueBy WorkerRow.user
  namesFit :
    store.workers.All fun worker =>
      worker.workerName.length ≤ 50

/- The user that `user_edit` comes to save. -/
def editedUser?
    (store : AccountStore)
    (pk : Nat)
    (form : EditForm) :
    Option User :=
  match store.users.get? pk, form.departmentOf? store with
  | some target, some department =>
      if form.mismatch then
        none
      else
        some
          { form.apply target with
            department := department }
  | _, _ => none

/- The bulk update that a request comes to, if any. -/
def bulkUpdate?
    (store : AccountStore) :
    AccountOp → Option (List Int × Option Nat)
  | .orgAddMembers deptId userIds =>
      if deptId = "" ∨ userIds = [] then
        none
      else
        match intOf? deptId, intsOf? userIds with
        | some number, some ids =>
            (store.departments.get?
                (keyOf store number)).map fun _ =>
              (ids, some (keyOf store number))
        | _, _ => none
  | .orgExcludeMembers userIds =>
      if userIds = [] then
        none
      else
        (intsOf? userIds).map fun ids => (ids, none)
  | _ => none

/- The users of the list that have a worker stay there. -/
def NobodyMoves
    (store : AccountStore)
    (ids : List Int)
    (department : Option Nat) :
    Prop :=
  ∀ (pk : Nat) user,
    (pk : Int) ∈ ids →
    store.users.get? pk = some user →
    store.workerOf pk ≠ none →
      user.department = department

/- The saved name is short enough for the worker. -/
def NameFits
    (store : AccountStore)
    (pk : Nat)
    (user : User) :
    Prop :=
  store.userFault? pk user = none →
    store.workerOf pk ≠ none →
      user.workerName.length ≤ 50

/- What the operation writes reaches the workers. -/
def Carried
    (store : AccountStore)
    (op : AccountOp) :
    Prop :=
  match op with
  | .userEdit pk form =>
      ∀ user,
        editedUser? store pk form = some user →
          NameFits store pk user
  | .orgAddMembers _ _ | .orgExcludeMembers _ =>
      ∀ ids department,
        bulkUpdate? store op = some (ids, department) →
          NobodyMoves store ids department
  | .userCreate _ | .deleteDepartment _ => True

end Accounts

end Icmp2

------------------------------------------------------------
-- Workers
------------------------------------------------------------

namespace Icmp2

namespace Accounts

open Library

section Fields

variable {worker : WorkerRow}
variable {user : User}

@[simp] theorem workerName_mem_dirtyFields :
    .workerName ∈ dirtyFields worker user ↔
      worker.workerName ≠ user.workerName := by
  simp [dirtyFields]

@[simp] theorem department_mem_dirtyFields :
    .department ∈ dirtyFields worker user ↔
      worker.department ≠ user.department := by
  simp [dirtyFields]

@[simp] theorem phone_mem_dirtyFields :
    .phone ∈ dirtyFields worker user ↔
      worker.phone ≠ user.phone := by
  simp [dirtyFields]

/- The dirty columns make the worker the mirror. -/
theorem write_dirtyFields
    (worker : WorkerRow)
    (user : User) :
    worker.write (dirtyFields worker user) user =
      { worker with
        workerName := user.workerName
        department := user.department
        phone := user.phone } := by
  simp only [WorkerRow.write, workerName_mem_dirtyFields,
    department_mem_dirtyFields, phone_mem_dirtyFields,
    ite_not, ite_eq_right_iff, WorkerRow.mk.injEq, true_and]
  refine ⟨?_, ?_, ?_⟩
  · intro hSame
    exact hSame
  · intro hSame
    exact hSame
  · intro hSame
    exact hSame

/- Only a name that is too long keeps a worker back. -/
theorem workerFieldsFault?_eq_none_iff
    (hPhone : user.phone.length ≤ 20)
    (hName : worker.workerName.length ≤ 50) :
    workerFieldsFault? (dirtyFields worker user)
        (worker.write (dirtyFields worker user) user) =
          none ↔
      user.workerName.length ≤ 50 := by
  rw [write_dirtyFields, workerFieldsFault?]
  simp only [workerName_mem_dirtyFields,
    phone_mem_dirtyFields]
  constructor
  · intro hNone
    by_contra hLong
    rw [if_pos] at hNone
    · cases hNone
    · refine Or.inl ⟨?_, by omega⟩
      intro hSame
      rw [hSame] at hName
      exact hLong hName
  · intro hShort
    rw [if_neg]
    rintro (⟨_, hLong⟩ | ⟨_, hLong⟩)
    · omega
    · omega

end Fields

variable {store : AccountStore}
variable {pk id : Nat}
variable {user : User}
variable {worker : WorkerRow}

theorem workerOf_eq_none_iff :
    store.workerOf pk = none ↔
      ∀ id worker, store.workers.get? id = some worker →
        worker.user ≠ some pk := by
  rw [AccountStore.workerOf, Rows.find?_eq_none_iff]
  simp only [decide_eq_false_iff_not, ne_eq]

theorem workerOf_eq_some
    (hWorker : store.workerOf pk = some id) :
    ∃ worker,
      store.workers.get? id = some worker ∧
        worker.user = some pk := by
  rcases Rows.find?_eq_some hWorker with
    ⟨worker, hGet, hUser⟩
  exact ⟨worker, hGet, of_decide_eq_true hUser⟩

/- A worker of a user is the worker of that user. -/
theorem AccountStore.Intact.workerOf_eq
    (hIntact : store.Intact)
    (hGet : store.workers.get? id = some worker)
    (hUser : worker.user = some pk) :
    store.workerOf pk = some id := by
  cases hWorker : store.workerOf pk with
  | none =>
      exact
        absurd hUser
          (workerOf_eq_none_iff.mp hWorker id worker hGet)
  | some other =>
      rcases workerOf_eq_some hWorker with
        ⟨found, hFound, hSame⟩
      rw [hIntact.oneWorker other id found worker pk hFound
        hGet hSame hUser]

/- A new user has no worker yet. -/
theorem AccountStore.Intact.workerOf_nextId
    (hIntact : store.Intact) :
    store.workerOf store.users.nextId = none := by
  rw [workerOf_eq_none_iff]
  intro id worker hGet hUser
  have hSome := hIntact.linked id _ worker hGet hUser
  rw [Rows.get?_nextId] at hSome
  cases hSome

end Accounts

end Icmp2

------------------------------------------------------------
-- Saves
------------------------------------------------------------

namespace Icmp2

namespace Accounts

open Library

variable {store : AccountStore}
variable {pk : Nat}
variable {user : User}

theorem fits_of_userFault?
    (hFault : store.userFault? pk user = none) :
    user.Fits := by
  by_contra hNot
  rw [AccountStore.userFault?, if_pos hNot] at hFault
  cases hFault

/- A user is stored that nobody works as yet. -/
theorem AccountStore.Intact.insertUser
    (hIntact : store.Intact)
    (user : User) :
    ({ store with users := store.users.insert user } :
      AccountStore).Intact where
  linked := by
    intro id other worker hGet hUser
    rcases Option.isSome_iff_exists.mp
        (hIntact.linked id other worker hGet hUser) with
      ⟨old, hOld⟩
    rw [Rows.get?_insert_of_get? hOld]
    rfl
  oneWorker := hIntact.oneWorker
  namesFit := hIntact.namesFit

theorem AccountStore.Mirrored.insertUser
    (hIntact : store.Intact)
    (hMirrored : store.Mirrored)
    (user : User) :
    ({ store with users := store.users.insert user } :
      AccountStore).Mirrored := by
  intro id other worker row hGet hUser hRow
  rcases Rows.get?_of_get?_insert hRow with
    ⟨rfl, _⟩ | ⟨_, hOld⟩
  · exact
      absurd hUser
        (workerOf_eq_none_iff.mp hIntact.workerOf_nextId id
          worker hGet)
  · exact hMirrored id other worker row hGet hUser hOld

/- The tables after a new user and its worker are stored. -/
theorem createUser_cases
    (hIntact : store.Intact)
    (user : User) :
    (createUser user).stateAfter store = store ∨
      (createUser user).stateAfter store =
        { store with users := store.users.insert user } ∨
      store.workerFault? store.workers.nextId
          (user.newWorker store.users.nextId) = none ∧
        (createUser user).stateAfter store =
          { store with
            users := store.users.insert user
            workers :=
              store.workers.insert
                (user.newWorker store.users.nextId) } := by
  cases hFault :
      store.userFault? store.users.nextId user with
  | some error =>
      left
      simp only [Action.stateAfter, createUser, hFault]
  | none =>
      right
      let stored : AccountStore :=
        { store with users := store.users.insert user }
      have hNone :
          stored.workerOf store.users.nextId = none :=
        hIntact.workerOf_nextId
      cases hWorker :
          store.workerFault? store.workers.nextId
            (user.newWorker store.users.nextId) with
      | some error =>
          left
          have hStored :
              stored.workerFault? store.workers.nextId
                  (user.newWorker store.users.nextId) =
                some error :=
            hWorker
          simp only [Action.stateAfter, createUser, hFault,
            syncWorker, if_true, getOrCreateWorker]
          rw [hNone]
          simp only [hStored, stored]
      | none =>
          right
          have hStored :
              stored.workerFault? store.workers.nextId
                  (user.newWorker store.users.nextId) =
                none :=
            hWorker
          refine ⟨rfl, ?_⟩
          simp only [Action.stateAfter, createUser, hFault,
            syncWorker, if_true, getOrCreateWorker]
          rw [hNone]
          simp only [hStored, stored]

theorem of_workerFault?
    {id : Nat}
    {worker : WorkerRow}
    (hFault : store.workerFault? id worker = none) :
    worker.Fits ∧
      store.workers.Free WorkerRow.user id worker := by
  unfold AccountStore.workerFault? at hFault
  by_cases hFits : worker.Fits
  · rw [if_neg (not_not.mpr hFits)] at hFault
    refine ⟨hFits, ?_⟩
    by_contra hNot
    rw [if_pos] at hFault
    · cases hFault
    · rintro ⟨_, hFree⟩
      exact hNot hFree
  · rw [if_pos hFits] at hFault
    cases hFault

theorem AccountStore.Intact.createUser
    (hIntact : store.Intact)
    (user : User) :
    ((createUser user).stateAfter store).Intact := by
  have hInserted := hIntact.insertUser user
  rcases createUser_cases hIntact user with
    hStep | hStep | ⟨hFault, hStep⟩
  · rw [hStep]
    exact hIntact
  · rw [hStep]
    exact hInserted
  · rw [hStep]
    rcases of_workerFault? hFault with ⟨hFits, hFree⟩
    refine ⟨?_, hIntact.oneWorker.insert hFree, ?_⟩
    · intro id pk worker hGet hUser
      rcases Rows.get?_of_get?_insert hGet with
        ⟨_, rfl⟩ | ⟨_, hOld⟩
      · cases hUser
        rw [Rows.get?_insert_nextId]
        rfl
      · exact hInserted.linked id pk worker hOld hUser
    · exact hIntact.namesFit.insert hFits.2.1

theorem AccountStore.Mirrored.createUser
    (hIntact : store.Intact)
    (hMirrored : store.Mirrored)
    (user : User) :
    ((Accounts.createUser user).stateAfter
      store).Mirrored := by
  have hInserted := hMirrored.insertUser hIntact user
  rcases createUser_cases hIntact user with
    hStep | hStep | ⟨_, hStep⟩
  · rw [hStep]
    exact hMirrored
  · rw [hStep]
    exact hInserted
  · rw [hStep]
    intro id pk worker row hGet hUser hRow
    rcases Rows.get?_of_get?_insert hGet with
      ⟨_, rfl⟩ | ⟨_, hOld⟩
    · cases hUser
      rw [Rows.get?_insert_nextId] at hRow
      cases hRow
      exact ⟨rfl, rfl, rfl⟩
    · exact hInserted id pk worker row hOld hUser hRow

/- The tables with a user and, it may be, its worker set. -/
def AccountStore.setUser
    (store : AccountStore)
    (pk : Nat)
    (user : User) :
    AccountStore :=
  { store with users := store.users.set pk user }

/- The tables after a loaded user is saved. -/
theorem saveUser_cases
    (store : AccountStore)
    (pk : Nat)
    (user : User) :
    store.userFault? pk user ≠ none ∧
        (saveUser pk user).stateAfter store = store ∨
      store.userFault? pk user = none ∧
        (store.workerOf pk = none ∧
            (saveUser pk user).stateAfter store =
              store.setUser pk user ∨
          ∃ id worker,
            store.workerOf pk = some id ∧
              store.workers.get? id = some worker ∧
              (saveUser pk user).stateAfter store =
                if workerFieldsFault?
                    (dirtyFields worker user)
                    (worker.write (dirtyFields worker user)
                      user) = none then
                  (store.setUser pk user).setWorker id
                    (worker.write (dirtyFields worker user)
                      user)
                else
                  store.setUser pk user) := by
  cases hFault : store.userFault? pk user with
  | some error =>
      left
      refine ⟨Option.some_ne_none _, ?_⟩
      simp only [Action.stateAfter, saveUser, hFault]
  | none =>
      right
      refine ⟨rfl, ?_⟩
      have hRun :
          (saveUser pk user).stateAfter store =
            (updateWorker pk user).stateAfter
              (store.setUser pk user) := by
        simp only [Action.stateAfter, saveUser, hFault,
          syncWorker, Bool.false_eq_true, if_false,
          AccountStore.setUser]
      rw [hRun]
      have hSame :
          (store.setUser pk user).workerOf pk =
            store.workerOf pk :=
        rfl
      cases hWorker : store.workerOf pk with
      | none =>
          left
          refine ⟨rfl, ?_⟩
          rw [hWorker] at hSame
          simp only [Action.stateAfter, updateWorker, hSame]
      | some id =>
          right
          rcases workerOf_eq_some hWorker with
            ⟨worker, hGet, _⟩
          refine ⟨id, worker, rfl, hGet, ?_⟩
          rw [hWorker] at hSame
          have hStored :
              (store.setUser pk user).workers.get? id =
                some worker :=
            hGet
          simp only [Action.stateAfter, updateWorker, hSame,
            hStored]
          cases hFields :
              workerFieldsFault? (dirtyFields worker user)
                (worker.write (dirtyFields worker user)
                  user) with
          | none => rfl
          | some error => rfl

theorem AccountStore.Intact.setUser
    (hIntact : store.Intact)
    (pk : Nat)
    (user : User) :
    (store.setUser pk user).Intact where
  linked := by
    intro id other worker hGet hUser
    change ((store.users.set pk user).get? other).isSome
    rw [Rows.isSome_get?_set]
    exact hIntact.linked id other worker hGet hUser
  oneWorker := hIntact.oneWorker
  namesFit := hIntact.namesFit

/- A worker is replaced by one of the same user. -/
theorem AccountStore.Intact.setWorker
    (hIntact : store.Intact)
    {id : Nat}
    {old worker : WorkerRow}
    (hGet : store.workers.get? id = some old)
    (hUser : worker.user = old.user)
    (hName : worker.workerName.length ≤ 50) :
    (store.setWorker id worker).Intact where
  linked := by
    intro other pk row hRow hPk
    rcases Rows.get?_of_get?_set hRow with
      ⟨_, rfl⟩ | ⟨_, hOld⟩
    · rw [hUser] at hPk
      exact hIntact.linked id pk old hGet hPk
    · exact hIntact.linked other pk row hOld hPk
  oneWorker :=
    hIntact.oneWorker.set
      (hIntact.oneWorker.free_of_key_eq hGet hUser)
  namesFit := hIntact.namesFit.set hName id

/- A user without a worker has nothing to be mirrored in. -/
theorem mirrored_setUser_of_no_worker
    (hMirrored : store.Mirrored)
    (hNone : store.workerOf pk = none)
    (user : User) :
    (store.setUser pk user).Mirrored := by
  intro id other worker row hGet hUser hRow
  rcases Rows.get?_of_get?_set hRow with
    ⟨rfl, _⟩ | ⟨_, hOld⟩
  · exact
      absurd hUser
        (workerOf_eq_none_iff.mp hNone id worker hGet)
  · exact hMirrored id other worker row hGet hUser hOld

section SavedUser

variable (hIntact : store.Intact)
include hIntact

theorem AccountStore.Intact.saveUser
    (pk : Nat)
    (user : User) :
    ((saveUser pk user).stateAfter store).Intact := by
  rcases saveUser_cases store pk user with
    ⟨_, hStep⟩ | ⟨hFault, ⟨_, hStep⟩ | ⟨id, worker, _, hGet,
      hStep⟩⟩
  · rw [hStep]
    exact hIntact
  · rw [hStep]
    exact hIntact.setUser pk user
  · rw [hStep]
    have hPhone := (fits_of_userFault? hFault).2.2.2.1
    have hName := hIntact.namesFit id worker hGet
    by_cases hFields :
        workerFieldsFault? (dirtyFields worker user)
          (worker.write (dirtyFields worker user) user) =
            none
    · rw [if_pos hFields]
      rw [workerFieldsFault?_eq_none_iff hPhone hName]
        at hFields
      apply (hIntact.setUser pk user).setWorker hGet
      · rw [write_dirtyFields]
      · rw [write_dirtyFields]
        exact hFields
    · rw [if_neg hFields]
      exact hIntact.setUser pk user

/- The worker is written as the user is. -/
theorem mirrored_setUser_setWorker
    (hMirrored : store.Mirrored)
    {id : Nat}
    {worker : WorkerRow}
    (hWorker : store.workerOf pk = some id)
    (hMirrors : Mirrors user worker)
    (hUser : worker.user = some pk) :
    ((store.setUser pk user).setWorker id
      worker).Mirrored := by
  intro other key row found hGet hKey hFound
  rcases Rows.get?_of_get?_set hGet with
    ⟨_, rfl⟩ | ⟨hNe, hOldRow⟩
  · rw [hUser] at hKey
    cases hKey
    rcases Rows.get?_of_get?_set hFound with
      ⟨_, rfl⟩ | ⟨hNe, _⟩
    · exact hMirrors
    · exact absurd rfl hNe
  · rcases Rows.get?_of_get?_set hFound with
      ⟨rfl, _⟩ | ⟨_, hOld⟩
    · have hSame := hIntact.workerOf_eq hOldRow hKey
      rw [hWorker] at hSame
      exact absurd (Option.some.inj hSame).symm hNe
    · exact hMirrored other key row found hOldRow hKey hOld

/- A save of a user keeps the mirror if its name fits. -/
theorem mirrored_saveUser_iff
    (hMirrored : store.Mirrored)
    {old : User}
    (hOld : store.users.get? pk = some old)
    (user : User) :
    ((saveUser pk user).stateAfter store).Mirrored ↔
      NameFits store pk user := by
  rcases saveUser_cases store pk user with
    ⟨hFault, hStep⟩ | ⟨hFault, ⟨hNone, hStep⟩ | ⟨id, worker,
      hWorker, hGet, hStep⟩⟩
  · rw [hStep]
    refine iff_of_true hMirrored ?_
    intro hNoFault
    exact absurd hNoFault hFault
  · rw [hStep]
    refine
      iff_of_true
        (mirrored_setUser_of_no_worker hMirrored hNone
          user) ?_
    intro _ hSome
    exact absurd hNone hSome
  · rw [hStep]
    have hPhone := (fits_of_userFault? hFault).2.2.2.1
    have hName : worker.workerName.length ≤ 50 :=
      hIntact.namesFit id worker hGet
    have hUser : worker.user = some pk := by
      rcases workerOf_eq_some hWorker with
        ⟨found, hFound, hPk⟩
      rw [Option.some.inj (hGet.symm.trans hFound)]
      exact hPk
    have hFields :
        workerFieldsFault? (dirtyFields worker user)
            (worker.write (dirtyFields worker user) user) =
              none ↔
          user.workerName.length ≤ 50 :=
      workerFieldsFault?_eq_none_iff hPhone hName
    constructor
    · intro hKept _ _
      by_contra hLong
      rw [if_neg (hFields.not.mpr hLong)] at hKept
      have hSaved :
          (store.setUser pk user).users.get? pk =
            some user :=
        Rows.get?_set_self hOld user
      have hMirrors := hKept id pk worker user hGet hUser hSaved
      rw [hMirrors.1] at hName
      exact hLong hName
    · intro hFits
      have hShort : user.workerName.length ≤ 50 := by
        apply hFits hFault
        rw [hWorker]
        exact Option.some_ne_none _
      rw [if_pos (hFields.mpr hShort), write_dirtyFields]
      exact
        mirrored_setUser_setWorker hIntact hMirrored hWorker
          ⟨rfl, rfl, rfl⟩ hUser

end SavedUser

end Accounts

end Icmp2

------------------------------------------------------------
-- Bulk Updates and Deletions
------------------------------------------------------------

namespace Icmp2

namespace Accounts

open Library

variable {store : AccountStore}

section Moves

variable {ids : List Int}
variable {department : Option Nat}

theorem get?_moveUsers
    (store : AccountStore)
    (ids : List Int)
    (department : Option Nat)
    (pk : Nat) :
    (store.moveUsers ids department).users.get? pk =
      (store.users.get? pk).map fun user =>
        if (pk : Int) ∈ ids then
          { user with department := department }
        else
          user := by
  rfl

theorem AccountStore.Intact.moveUsers
    (hIntact : store.Intact)
    (ids : List Int)
    (department : Option Nat) :
    (store.moveUsers ids department).Intact where
  linked := by
    intro id pk worker hGet hUser
    rw [get?_moveUsers, Option.isSome_map]
    exact hIntact.linked id pk worker hGet hUser
  oneWorker := hIntact.oneWorker
  namesFit := hIntact.namesFit

/- A bulk update keeps the mirror if nobody moves. -/
theorem mirrored_moveUsers_iff
    (hIntact : store.Intact)
    (hMirrored : store.Mirrored) :
    (store.moveUsers ids department).Mirrored ↔
      NobodyMoves store ids department := by
  constructor
  · intro hKept pk user hMem hGet hWorker
    rcases Option.ne_none_iff_exists'.mp hWorker with
      ⟨id, hOf⟩
    rcases workerOf_eq_some hOf with
      ⟨worker, hRow, hUser⟩
    have hMoved :
        (store.moveUsers ids department).users.get? pk =
          some { user with department := department } := by
      rw [get?_moveUsers, hGet, Option.map_some, if_pos hMem]
    have hBefore :=
      hMirrored id pk worker user hRow hUser hGet
    have hAfter := hKept id pk worker _ hRow hUser hMoved
    exact hBefore.2.1.symm.trans hAfter.2.1
  · intro hStays id pk worker row hRow hUser hGet
    rw [get?_moveUsers] at hGet
    rcases Option.map_eq_some_iff.mp hGet with
      ⟨user, hOld, hMoved⟩
    have hBefore :=
      hMirrored id pk worker user hRow hUser hOld
    by_cases hMem : (pk : Int) ∈ ids
    · rw [if_pos hMem] at hMoved
      have hOf : store.workerOf pk ≠ none := by
        rw [hIntact.workerOf_eq hRow hUser]
        exact Option.some_ne_none _
      have hSame := hStays pk user hMem hOld hOf
      rw [← hMoved]
      exact ⟨hBefore.1, hBefore.2.1.trans hSame, hBefore.2.2⟩
    · rw [if_neg hMem] at hMoved
      rw [← hMoved]
      exact hBefore

end Moves

/- Users and workers of the department lose it together. -/
theorem AccountStore.Intact.deleteDepartment
    (hIntact : store.Intact)
    (id : Nat) :
    (store.deleteDepartment id).Intact where
  linked := by
    intro other pk worker hGet hUser
    rcases Option.map_eq_some_iff.mp hGet with
      ⟨old, hOld, rfl⟩
    change ((store.users.get? pk).map _).isSome
    rw [Option.isSome_map]
    exact hIntact.linked other pk old hOld hUser
  oneWorker := by
    apply hIntact.oneWorker.mapRows
    intro worker pk hUser
    exact hUser
  namesFit := by
    intro other worker hGet
    rcases Option.map_eq_some_iff.mp hGet with
      ⟨old, hOld, rfl⟩
    exact hIntact.namesFit other old hOld

theorem AccountStore.Mirrored.deleteDepartment
    (hMirrored : store.Mirrored)
    (id : Nat) :
    (store.deleteDepartment id).Mirrored := by
  intro other pk worker user hGet hUser hRow
  rcases Option.map_eq_some_iff.mp hGet with
    ⟨oldWorker, hOldWorker, rfl⟩
  rcases Option.map_eq_some_iff.mp hRow with
    ⟨oldUser, hOldUser, rfl⟩
  rcases hMirrored other pk oldWorker oldUser hOldWorker
      hUser hOldUser with
    ⟨hName, hDepartment, hPhone⟩
  refine ⟨hName, ?_, hPhone⟩
  exact congrArg (withoutDepartment id) hDepartment

end Accounts

end Icmp2

------------------------------------------------------------
-- Runs
------------------------------------------------------------

namespace Icmp2

namespace Accounts

open Library

/- A registration leaves the tables, or saves a new user. -/
theorem userCreate_cases
    (store : AccountStore)
    (form : CreateForm) :
    accountStep store (.userCreate form) = store ∨
      ∃ user,
        accountStep store (.userCreate form) =
          (createUser user).stateAfter store := by
  simp only [accountStep, Action.stateAfter, userCreate]
  by_cases hErrors :
      createErrors store form.stripped ≠ []
  · left
    rw [if_pos hErrors]
  · rw [if_neg hErrors]
    cases intOf? form.stripped.department with
    | none => exact Or.inl rfl
    | some department =>
        right
        refine
          ⟨form.stripped.user
            (some (keyOf store department)), ?_⟩
        simp only
        cases createUser
            (form.stripped.user
              (some (keyOf store department))) store with
        | ok value later => rfl
        | error error later => rfl

/- An edit saves the edited user, if it comes to that. -/
theorem userEdit_eq
    (store : AccountStore)
    (pk : Nat)
    (form : EditForm) :
    accountStep store (.userEdit pk form) =
      match editedUser? store pk form with
      | none => store
      | some user => (saveUser pk user).stateAfter store := by
  simp only [accountStep, Action.stateAfter, userEdit,
    editedUser?]
  cases store.users.get? pk with
  | none => rfl
  | some target =>
      cases form.departmentOf? store with
      | none => rfl
      | some department =>
          simp only
          cases form.mismatch with
          | true => rfl
          | false =>
              simp only [Bool.false_eq_true, if_false]
              cases saveUser pk
                  { form.apply target with
                    department := department } store with
              | ok value later => rfl
              | error error later => rfl

theorem get?_of_editedUser?
    {store : AccountStore}
    {pk : Nat}
    {form : EditForm}
    {user : User}
    (hEdited : editedUser? store pk form = some user) :
    ∃ target, store.users.get? pk = some target := by
  unfold editedUser? at hEdited
  cases hGet : store.users.get? pk with
  | none =>
      rw [hGet] at hEdited
      cases hEdited
  | some target => exact ⟨target, rfl⟩

/- A request of the organisation is one bulk update. -/
theorem orgAddMembers_eq
    (store : AccountStore)
    (deptId : String)
    (userIds : List String) :
    accountStep store (.orgAddMembers deptId userIds) =
      match bulkUpdate? store
          (.orgAddMembers deptId userIds) with
      | none => store
      | some (ids, department) =>
          store.moveUsers ids department := by
  simp only [accountStep, Action.stateAfter, orgAddMembers,
    bulkUpdate?]
  by_cases hEmpty : deptId = "" ∨ userIds = []
  · rw [if_pos hEmpty, if_pos hEmpty]
  · rw [if_neg hEmpty, if_neg hEmpty]
    cases intOf? deptId with
    | none => rfl
    | some number =>
        simp only
        cases hDept :
            store.departments.get?
              (keyOf store number) with
        | none =>
            cases intsOf? userIds with
            | none => rfl
            | some ids => simp only [hDept, Option.map_none]
        | some dept =>
            cases intsOf? userIds with
            | none => rfl
            | some ids => simp only [hDept, Option.map_some]

theorem orgExcludeMembers_eq
    (store : AccountStore)
    (userIds : List String) :
    accountStep store (.orgExcludeMembers userIds) =
      match bulkUpdate? store
          (.orgExcludeMembers userIds) with
      | none => store
      | some (ids, department) =>
          store.moveUsers ids department := by
  simp only [accountStep, Action.stateAfter,
    orgExcludeMembers, bulkUpdate?]
  by_cases hEmpty : userIds = []
  · rw [if_pos hEmpty, if_pos hEmpty]
  · rw [if_neg hEmpty, if_neg hEmpty]
    cases intsOf? userIds with
    | none => rfl
    | some ids => rfl

/- Every operation keeps what columns and keys ensure. -/
theorem AccountStore.Intact.accountStep
    {store : AccountStore}
    (hIntact : store.Intact)
    (op : AccountOp) :
    (accountStep store op).Intact := by
  cases op with
  | userCreate form =>
      rcases userCreate_cases store form with
        hStep | ⟨user, hStep⟩
      · rw [hStep]
        exact hIntact
      · rw [hStep]
        exact hIntact.createUser user
  | userEdit pk form =>
      rw [userEdit_eq]
      cases editedUser? store pk form with
      | none => exact hIntact
      | some user => exact hIntact.saveUser pk user
  | orgAddMembers deptId userIds =>
      rw [orgAddMembers_eq]
      cases bulkUpdate? store
          (.orgAddMembers deptId userIds) with
      | none => exact hIntact
      | some update =>
          exact hIntact.moveUsers update.1 update.2
  | orgExcludeMembers userIds =>
      rw [orgExcludeMembers_eq]
      cases bulkUpdate? store
          (.orgExcludeMembers userIds) with
      | none => exact hIntact
      | some update =>
          exact hIntact.moveUsers update.1 update.2
  | deleteDepartment id => exact hIntact.deleteDepartment id

/- A request with a bulk update, if it comes to one. -/
theorem mirrored_bulkUpdate_iff
    {store : AccountStore}
    (hIntact : store.Intact)
    (hMirrored : store.Mirrored)
    (update : Option (List Int × Option Nat)) :
    (match update with
      | none => store
      | some (ids, department) =>
          store.moveUsers ids department).Mirrored ↔
      ∀ ids department,
        update = some (ids, department) →
          NobodyMoves store ids department := by
  cases update with
  | none =>
      refine iff_of_true hMirrored ?_
      intro ids department hNone
      cases hNone
  | some update =>
      rcases update with ⟨ids, department⟩
      refine
        (mirrored_moveUsers_iff hIntact hMirrored).trans ?_
      constructor
      · intro hStays _ _ hSame
        cases hSame
        exact hStays
      · intro hAll
        exact hAll ids department rfl

/- One operation keeps the mirror if it is carried over. -/
theorem mirrored_accountStep_iff
    {store : AccountStore}
    (hIntact : store.Intact)
    (hMirrored : store.Mirrored)
    (op : AccountOp) :
    (accountStep store op).Mirrored ↔ Carried store op := by
  cases op with
  | userCreate form =>
      refine iff_of_true ?_ trivial
      rcases userCreate_cases store form with
        hStep | ⟨user, hStep⟩
      · rw [hStep]
        exact hMirrored
      · rw [hStep]
        exact hMirrored.createUser hIntact user
  | userEdit pk form =>
      rw [userEdit_eq, Carried]
      cases hEdited : editedUser? store pk form with
      | none =>
          refine iff_of_true hMirrored ?_
          intro user hSome
          cases hSome
      | some user =>
          rcases get?_of_editedUser? hEdited with
            ⟨target, hGet⟩
          refine
            (mirrored_saveUser_iff hIntact hMirrored hGet
              user).trans ?_
          constructor
          · intro hFits other hSame
            cases hSame
            exact hFits
          · intro hAll
            exact hAll user rfl
  | orgAddMembers deptId userIds =>
      rw [orgAddMembers_eq]
      exact mirrored_bulkUpdate_iff hIntact hMirrored _
  | orgExcludeMembers userIds =>
      rw [orgExcludeMembers_eq]
      exact mirrored_bulkUpdate_iff hIntact hMirrored _
  | deleteDepartment id =>
      exact
        iff_of_true (hMirrored.deleteDepartment id) trivial

/-
  From tables in which every worker mirrors its user, the
  workers mirror the users after every operation of a run
  exactly if every operation is carried over: no bulk update
  moves a user that has a worker, and no edit gives one a
  name that its worker cannot take.
-/
theorem workers_mirror_users_iff
    {store : AccountStore}
    (hIntact : store.Intact)
    (hMirrored : store.Mirrored)
    (ops : List AccountOp) :
    Along accountStep
        (fun state op => (accountStep state op).Mirrored)
        store ops ↔
      Along accountStep Carried store ops := by
  symm
  apply
    along_iff_of_invariant
      (I := fun store : AccountStore =>
        store.Intact ∧ store.Mirrored)
      _ _ ⟨hIntact, hMirrored⟩ ops
  · intro state op hState
    exact
      (mirrored_accountStep_iff hState.1 hState.2 op).symm
  · intro state op hState hCarried
    exact
      ⟨hState.1.accountStep op,
        (mirrored_accountStep_iff hState.1 hState.2
          op).mpr hCarried⟩

/- Two departments, and nobody in them. -/
def AccountStore.initial : AccountStore where
  departments :=
    (Rows.empty.insert ⟨"제강팀"⟩).insert ⟨"안전팀"⟩
  users := Rows.empty
  workers := Rows.empty

theorem intact_initial :
    AccountStore.initial.Intact where
  linked := by
    intro id pk worker hGet
    cases hGet
  oneWorker := Rows.UniqueBy.empty
  namesFit := Rows.All.empty

theorem mirrored_initial :
    AccountStore.initial.Mirrored := by
  intro id pk worker user hGet
  cases hGet

/- A registration in the first department. -/
def minsuForm : CreateForm where
  name := "김민수"
  username := "minsu"
  password1 := "abcd1234"
  password2 := "abcd1234"
  department := "0"
  userType := "worker"
  position := ""
  isActive := "true"
  email := "minsu@icmp.kr"
  phone := "010-1234-5678"

/- The user that is registered, and its worker. -/
def minsu : User :=
  minsuForm.user (some 0)

def registered : AccountStore :=
  accountStep .initial (.userCreate minsuForm)

/- An edit of the name and of the department. -/
def minsuEdit : EditForm where
  name := some "김민준"
  department := some "1"

/- The worker gets the new name and the new department. -/
theorem workers_mirror_users_edited :
    Along accountStep
        (fun state op => (accountStep state op).Mirrored)
        .initial
        [.userCreate minsuForm, .userEdit 0 minsuEdit] ∧
      ((accountStep registered
          (.userEdit 0 minsuEdit)).workers.get? 0).map
          (fun worker =>
            (worker.workerName, worker.department)) =
        some ("김민준", some 1) := by
  refine ⟨?_, by decide +kernel⟩
  apply
    (workers_mirror_users_iff intact_initial
      mirrored_initial _).mpr
  refine ⟨trivial, ?_, trivial⟩
  intro user hEdited _ _
  have hUser :
      editedUser? registered 0 minsuEdit =
        some
          { minsu with
            name := "김민준"
            department := some 1 } := by
    decide +kernel
  have hSame := hUser.symm.trans hEdited
  rw [← Option.some.inj hSame]
  decide +kernel

/- The user changes its department, and its worker stays. -/
theorem moved_member_keeps_worker :
    ¬ Along accountStep
        (fun state op => (accountStep state op).Mirrored)
        .initial
        [.userCreate minsuForm, .orgAddMembers "1" ["0"]] := by
  rintro ⟨_, hMirrored, _⟩
  have hMirrors :
      Mirrors { minsu with department := some 1 }
        (minsu.newWorker 0) :=
    hMirrored 0 0 _ _ (by decide +kernel) rfl
      (by decide +kernel)
  revert hMirrors
  decide +kernel

end Accounts

end Icmp2
