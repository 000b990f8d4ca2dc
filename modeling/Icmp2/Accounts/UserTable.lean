import Icmp2.Accounts.WorkerMirror

/-
  What requests do to the table of users.

  Main definitions include:
    * `Icmp2.Accounts.createdUser?`
    * `Icmp2.Accounts.insertedUser?`
    * `Icmp2.Accounts.replacedUser?`
    * `Icmp2.Accounts.savedUser?`

  Main theorems include:
    * `Icmp2.Accounts.userCreate_eq`
    * `Icmp2.Accounts.get?_users_of_savedUser?`
    * `Icmp2.Accounts.users_of_savedUser?_eq_none`
    * `Icmp2.Accounts.savedUser?_cases`
    * `Icmp2.Accounts.forall_users_iff_of_savedUser?`

  A user is saved if the database takes the row.  What the
  signal does to the workers afterwards, and whether it
  raises, does not matter to the users.
-/

------------------------------------------------------------
-- Saved Users
------------------------------------------------------------

namespace Icmp2

namespace Accounts

open Library

/- The user that `user_create` comes to save. -/
def createdUser?
    (store : AccountStore)
    (form : CreateForm) :
    Option User :=
  if createErrors store form.stripped = [] then
    (intOf? form.stripped.department).map fun department =>
      form.stripped.user (some (keyOf store department))
  else
    none

/- The user that the database takes as a new row. -/
def insertedUser?
    (store : AccountStore)
    (form : CreateForm) :
    Option User :=
  (createdUser? store form).filter fun user =>
    store.userFault? store.users.nextId user = none

/- The user that the database takes in place of a row. -/
def replacedUser?
    (store : AccountStore)
    (pk : Nat)
    (form : EditForm) :
    Option User :=
  (editedUser? store pk form).filter fun user =>
    store.userFault? pk user = none

variable {store : AccountStore}
variable {pk : Nat}
variable {user : User}

theorem users_getOrCreateWorker
    (pk : Nat)
    (user : User)
    (store : AccountStore) :
    ((getOrCreateWorker pk user).stateAfter store).users =
      store.users := by
  simp only [Action.stateAfter, getOrCreateWorker]
  cases store.workerOf pk with
  | some id => rfl
  | none =>
      simp only
      cases
        store.workerFault? store.workers.nextId
          (user.newWorker pk) with
      | some error => rfl
      | none => rfl

theorem users_createUser
    (user : User)
    (store : AccountStore) :
    ((createUser user).stateAfter store).users =
      if store.userFault? store.users.nextId user = none then
        store.users.insert user
      else
        store.users := by
  cases hFault :
      store.userFault? store.users.nextId user with
  | some error =>
      rw [if_neg (Option.some_ne_none error)]
      simp only [Action.stateAfter, createUser, hFault]
  | none =>
      rw [if_pos rfl]
      have hRun :
          (createUser user).stateAfter store =
            (getOrCreateWorker store.users.nextId
              user).stateAfter
              { store with users := store.users.insert user } := by
        simp only [Action.stateAfter, createUser, hFault,
          syncWorker, if_true]
      rw [hRun, users_getOrCreateWorker]

theorem users_saveUser
    (pk : Nat)
    (user : User)
    (store : AccountStore) :
    ((saveUser pk user).stateAfter store).users =
      if store.userFault? pk user = none then
        store.users.set pk user
      else
        store.users := by
  rcases saveUser_cases store pk user with
    ⟨hFault, hStep⟩ | ⟨hFault, ⟨-, hStep⟩ |
      ⟨id, worker, -, -, hStep⟩⟩
  · rw [hStep, if_neg hFault]
  · rw [hStep, if_pos hFault]
    rfl
  · rw [hStep, if_pos hFault]
    by_cases hFields :
        workerFieldsFault? (dirtyFields worker user)
          (worker.write (dirtyFields worker user) user) =
            none
    · rw [if_pos hFields]
      rfl
    · rw [if_neg hFields]
      rfl

/- A registration saves the created user, if there is one. -/
theorem userCreate_eq
    (store : AccountStore)
    (form : CreateForm) :
    accountStep store (.userCreate form) =
      match createdUser? store form with
      | none => store
      | some user => (createUser user).stateAfter store := by
  simp only [accountStep, Action.stateAfter, userCreate,
    createdUser?]
  by_cases hErrors : createErrors store form.stripped = []
  · rw [if_neg (not_not.mpr hErrors), if_pos hErrors]
    cases intOf? form.stripped.department with
    | none => rfl
    | some department =>
        simp only [Option.map_some]
        cases createUser
            (form.stripped.user
              (some (keyOf store department))) store with
        | ok value later => rfl
        | error error later => rfl
  · rw [if_pos hErrors, if_neg hErrors]

/- A registration inserts a user or changes none. -/
theorem users_userCreate
    (store : AccountStore)
    (form : CreateForm) :
    (accountStep store (.userCreate form)).users =
      match insertedUser? store form with
      | none => store.users
      | some user => store.users.insert user := by
  rw [userCreate_eq, insertedUser?]
  cases createdUser? store form with
  | none => rfl
  | some user =>
      simp only [users_createUser, Option.filter_some,
        decide_eq_true_eq]
      by_cases hFault :
          store.userFault? store.users.nextId user = none
      · simp only [if_pos hFault]
      · simp only [if_neg hFault]

/- An edit replaces a user or changes none. -/
theorem users_userEdit
    (store : AccountStore)
    (pk : Nat)
    (form : EditForm) :
    (accountStep store (.userEdit pk form)).users =
      match replacedUser? store pk form with
      | none => store.users
      | some user => store.users.set pk user := by
  rw [userEdit_eq, replacedUser?]
  cases editedUser? store pk form with
  | none => rfl
  | some user =>
      simp only [users_saveUser, Option.filter_some,
        decide_eq_true_eq]
      by_cases hFault : store.userFault? pk user = none
      · simp only [if_pos hFault]
      · simp only [if_neg hFault]

/- What an edit saves is the form applied to a stored user. -/
theorem of_replacedUser?
    {form : EditForm}
    (hUser : replacedUser? store pk form = some user) :
    ∃ target department,
      store.users.get? pk = some target ∧
        form.mismatch = false ∧
        user =
          { form.apply target with
            department := department } := by
  have hEdited :
      editedUser? store pk form = some user :=
    (Option.filter_eq_some_iff.mp hUser).1
  unfold editedUser? at hEdited
  cases hGet : store.users.get? pk with
  | none =>
      rw [hGet] at hEdited
      cases hEdited
  | some target =>
      cases hDepartment : form.departmentOf? store with
      | none =>
          rw [hGet, hDepartment] at hEdited
          cases hEdited
      | some department =>
          rw [hGet, hDepartment] at hEdited
          cases hMismatch : form.mismatch with
          | true =>
              simp only [hMismatch, if_true] at hEdited
              cases hEdited
          | false =>
              simp only [hMismatch, Bool.false_eq_true,
                if_false] at hEdited
              cases hEdited
              exact ⟨target, department, rfl, rfl, rfl⟩

/- What a registration inserts was read from a valid form. -/
theorem of_insertedUser?
    {form : CreateForm}
    (hUser : insertedUser? store form = some user) :
    createErrors store form.stripped = [] ∧
      ∃ department, user = form.stripped.user department := by
  have hCreated :
      createdUser? store form = some user :=
    (Option.filter_eq_some_iff.mp hUser).1
  unfold createdUser? at hCreated
  by_cases hErrors : createErrors store form.stripped = []
  · rw [if_pos hErrors] at hCreated
    rcases Option.map_eq_some_iff.mp hCreated with
      ⟨department, -, rfl⟩
    exact ⟨hErrors, _, rfl⟩
  · rw [if_neg hErrors] at hCreated
    cases hCreated

end Accounts

end Icmp2

------------------------------------------------------------
-- Operations
------------------------------------------------------------

namespace Icmp2

namespace Accounts

open Library

/- The row that an operation writes for a user, if any. -/
def savedUser?
    (store : AccountStore) :
    AccountOp → Option (Nat × User)
  | .userCreate form =>
      (insertedUser? store form).map fun user =>
        (store.users.nextId, user)
  | .userEdit pk form =>
      (replacedUser? store pk form).map fun user => (pk, user)
  | _ => none

/- All users were there before, maybe in a department. -/
def OnlyDepartments
    (before after : Rows User) :
    Prop :=
  ∀ pk user,
    after.get? pk = some user →
      ∃ department old,
        before.get? pk = some old ∧
          user = { old with department := department }

theorem OnlyDepartments.refl
    (users : Rows User) :
    OnlyDepartments users users := by
  intro pk user hGet
  exact ⟨user.department, user, hGet, rfl⟩

theorem onlyDepartments_moveUsers
    (store : AccountStore)
    (ids : List Int)
    (department : Option Nat) :
    OnlyDepartments store.users
      (store.moveUsers ids department).users := by
  intro pk user hGet
  rw [get?_moveUsers] at hGet
  rcases Option.map_eq_some_iff.mp hGet with
    ⟨old, hOld, rfl⟩
  by_cases hMem : (pk : Int) ∈ ids
  · exact ⟨department, old, hOld, if_pos hMem⟩
  · exact ⟨old.department, old, hOld, if_neg hMem⟩

theorem onlyDepartments_deleteDepartment
    (store : AccountStore)
    (id : Nat) :
    OnlyDepartments store.users
      (store.deleteDepartment id).users := by
  intro pk user hGet
  rcases Option.map_eq_some_iff.mp hGet with
    ⟨old, hOld, rfl⟩
  exact ⟨_, old, hOld, rfl⟩

variable {store : AccountStore}
variable {op : AccountOp}
variable {pk : Nat}
variable {user : User}

/- What a written row was made of. -/
theorem savedUser?_cases
    (hSaved : savedUser? store op = some (pk, user)) :
    (∃ form department,
      op = .userCreate form ∧
        createErrors store form.stripped = [] ∧
          user = form.stripped.user department) ∨
      ∃ form target department,
        op = .userEdit pk form ∧
          replacedUser? store pk form = some user ∧
          store.users.get? pk = some target ∧
            user =
              { form.apply target with
                department := department } := by
  cases op with
  | userCreate form =>
      rcases Option.map_eq_some_iff.mp hSaved with
        ⟨_, hUser, hPair⟩
      cases hPair
      rcases of_insertedUser? hUser with
        ⟨hErrors, department, hForm⟩
      exact Or.inl ⟨form, department, rfl, hErrors, hForm⟩
  | userEdit id form =>
      rcases Option.map_eq_some_iff.mp hSaved with
        ⟨_, hUser, hPair⟩
      cases hPair
      rcases of_replacedUser? hUser with
        ⟨target, department, hTarget, -, hForm⟩
      exact
        Or.inr
          ⟨form, target, department, rfl, hUser, hTarget,
            hForm⟩
  | orgAddMembers deptId userIds => cases hSaved
  | orgExcludeMembers userIds => cases hSaved
  | deleteDepartment id => cases hSaved

/- The written row is stored, and no other one changes. -/
theorem get?_users_of_savedUser?
    (hSaved : savedUser? store op = some (pk, user))
    (other : Nat) :
    (accountStep store op).users.get? other =
      if other = pk then some user
      else store.users.get? other := by
  cases op with
  | userCreate form =>
      rcases Option.map_eq_some_iff.mp hSaved with
        ⟨_, hUser, hPair⟩
      cases hPair
      rw [users_userCreate, hUser]
      exact Rows.get?_insert store.users user other
  | userEdit id form =>
      rcases Option.map_eq_some_iff.mp hSaved with
        ⟨_, hUser, hPair⟩
      cases hPair
      rcases of_replacedUser? hUser with
        ⟨target, _, hTarget, -, -⟩
      rw [users_userEdit, hUser]
      by_cases hSame : other = pk
      · rw [if_pos hSame, hSame]
        exact Rows.get?_set_self hTarget user
      · rw [if_neg hSame]
        exact Rows.get?_set_of_ne hSame user
  | orgAddMembers deptId userIds => cases hSaved
  | orgExcludeMembers userIds => cases hSaved
  | deleteDepartment id => cases hSaved

/- Other operations change departments at most. -/
theorem users_of_savedUser?_eq_none
    (hSaved : savedUser? store op = none) :
    OnlyDepartments store.users
      (accountStep store op).users := by
  cases op with
  | userCreate form =>
      rw [users_userCreate, Option.map_eq_none_iff.mp hSaved]
      exact OnlyDepartments.refl store.users
  | userEdit id form =>
      rw [users_userEdit, Option.map_eq_none_iff.mp hSaved]
      exact OnlyDepartments.refl store.users
  | orgAddMembers deptId userIds =>
      rw [orgAddMembers_eq]
      cases bulkUpdate? store
          (.orgAddMembers deptId userIds) with
      | none => exact OnlyDepartments.refl store.users
      | some update =>
          exact onlyDepartments_moveUsers store _ _
  | orgExcludeMembers userIds =>
      rw [orgExcludeMembers_eq]
      cases bulkUpdate? store
          (.orgExcludeMembers userIds) with
      | none => exact OnlyDepartments.refl store.users
      | some update =>
          exact onlyDepartments_moveUsers store _ _
  | deleteDepartment id =>
      exact onlyDepartments_deleteDepartment store id

section AllUsers

variable {P : Nat → User → Prop}

/- A written row decides, as the other rows stay. -/
theorem forall_users_iff_of_savedUser?
    (hAll :
      ∀ pk user, store.users.get? pk = some user → P pk user)
    (hSaved : savedUser? store op = some (pk, user)) :
    (∀ other row,
      (accountStep store op).users.get? other = some row →
        P other row) ↔
      P pk user := by
  constructor
  · intro hLater
    apply hLater pk
    rw [get?_users_of_savedUser? hSaved, if_pos rfl]
  · intro hUser other row hGet
    rw [get?_users_of_savedUser? hSaved] at hGet
    by_cases hSame : other = pk
    · rw [if_pos hSame] at hGet
      cases hGet
      rw [hSame]
      exact hUser
    · rw [if_neg hSame] at hGet
      exact hAll other row hGet

/- Where no row is written, departments do not matter. -/
theorem forall_users_of_savedUser?_eq_none
    (hAll :
      ∀ pk user, store.users.get? pk = some user → P pk user)
    (hMoved :
      ∀ pk user department,
        P pk user →
          P pk { user with department := department })
    (hSaved : savedUser? store op = none)
    (pk : Nat)
    (user : User)
    (hGet :
      (accountStep store op).users.get? pk = some user) :
    P pk user := by
  rcases users_of_savedUser?_eq_none hSaved pk user hGet with
    ⟨department, old, hOld, rfl⟩
  exact hMoved pk old department (hAll pk old hOld)

end AllUsers

end Accounts

end Icmp2
