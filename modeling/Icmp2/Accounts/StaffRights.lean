import Icmp2.Accounts.UserTable

/-
  Staff rights and the role of an administrator.

  Main definitions include:
    * `Icmp2.Accounts.mysafetyHistoryPrint`
    * `Icmp2.Accounts.AccountStore.StaffRights`
    * `Icmp2.Accounts.KeepsRole`

  Main theorems include:
    * `Icmp2.Accounts.followsRole_accountStep_iff`
    * `Icmp2.Accounts.staff_rights_follow_role_iff`

  Both views set the flag for an administrator, and no view
  takes it away again.
-/

------------------------------------------------------------
-- The Flag and the Role
------------------------------------------------------------

namespace Icmp2

namespace Accounts

open Library

/- `[int(i) for i in text.split(",") if i.strip()]`. -/
def requestedWorkers?
    (text : String) :
    Option (List Int) :=
  intsOf?
    (((text.toList.splitOn ',').map String.ofList).filter
      fun part => strip part ≠ "")

/- The workers whose months are printed. -/
def printTargets
    (store : AccountStore)
    (user : User)
    (worker : Option Nat)
    (workers : String) :
    List (Option Nat) :=
  if workers ≠ "" ∧ user.isStaff then
    let ids := (requestedWorkers? workers).getD []
    ((List.range store.workers.nextId).filter fun id =>
      (store.workers.get? id).isSome ∧
        (id : Int) ∈ ids).map some
  else
    [worker]

/-
  The print mode of `mysafety_history` for a user that is
  signed in; none is the page of a user without a worker.
-/
def mysafetyHistoryPrint
    (store : AccountStore)
    (pk : Nat)
    (user : User)
    (workers : String) :
    Option (List (Option Nat)) :=
  let worker := store.workerOf pk
  if worker = none ∧ user.userType ≠ "admin" then
    none
  else
    some (printTargets store user worker workers)

def User.FollowsRole
    (user : User) :
    Prop :=
  user.isStaff = true ↔ user.userType = "admin"

/- Administrators are staff, and nobody else is. -/
def AccountStore.FollowsRole
    (store : AccountStore) :
    Prop :=
  ∀ pk user,
    store.users.get? pk = some user → user.FollowsRole

/-
  The flag follows the role, and whoever is no administrator
  sees the history of no other worker.
-/
structure AccountStore.StaffRights
    (store : AccountStore) :
    Prop where
  follows : store.FollowsRole
  closed :
    ∀ pk user workers targets,
      store.users.get? pk = some user →
      user.userType ≠ "admin" →
      mysafetyHistoryPrint store pk user workers =
          some targets →
        targets = [store.workerOf pk]

def AccountStore.NoStaff
    (store : AccountStore) :
    Prop :=
  ∀ pk user,
    store.users.get? pk = some user → user.isStaff = false

def AccountStore.NoAdmin
    (store : AccountStore) :
    Prop :=
  ∀ pk user,
    store.users.get? pk = some user →
      user.userType ≠ "admin"

/- No edit that is saved makes staff something else. -/
def KeepsRole
    (store : AccountStore)
    (op : AccountOp) :
    Prop :=
  match op with
  | .userEdit pk form =>
      ∀ target,
        store.users.get? pk = some target →
        target.isStaff = true →
        (replacedUser? store pk form).isSome = true →
          form.userType.getD target.userType = "admin"
  | _ => True

variable {store : AccountStore}

theorem staffRights_iff :
    store.StaffRights ↔ store.FollowsRole := by
  refine ⟨AccountStore.StaffRights.follows, ?_⟩
  intro hFollows
  refine ⟨hFollows, ?_⟩
  intro pk user workers targets hGet hRole hPrint
  have hStaff : ¬ (workers ≠ "" ∧ user.isStaff = true) :=
    fun hGuard =>
      hRole ((hFollows pk user hGet).mp hGuard.2)
  simp only [mysafetyHistoryPrint, printTargets,
    if_neg hStaff] at hPrint
  rcases Option.ite_none_left_eq_some.mp hPrint with
    ⟨-, hTargets⟩
  exact (Option.some.inj hTargets).symm

/- Without staff the flag follows the role of no admin. -/
theorem AccountStore.NoStaff.followsRole_iff
    (hNoStaff : store.NoStaff) :
    store.FollowsRole ↔ store.NoAdmin := by
  constructor
  · intro hFollows pk user hGet hAdmin
    have hStaff := (hFollows pk user hGet).mpr hAdmin
    rw [hNoStaff pk user hGet] at hStaff
    cases hStaff
  · intro hNoAdmin pk user hGet
    rw [User.FollowsRole, hNoStaff pk user hGet]
    exact
      iff_of_false Bool.false_ne_true (hNoAdmin pk user hGet)

theorem followsRole_user
    (form : CreateForm)
    (department : Option Nat) :
    (form.user department).FollowsRole := by
  exact decide_eq_true_iff

/- An edit keeps the flag, so the role has to stay. -/
theorem followsRole_apply_iff
    (form : EditForm)
    (target : User)
    (department : Option Nat) :
    User.FollowsRole
        { form.apply target with department := department } ↔
      (target.isStaff = true →
        form.userType.getD target.userType = "admin") := by
  simp only [User.FollowsRole, EditForm.apply,
    Bool.or_eq_true, decide_eq_true_eq]
  constructor
  · intro hFollows hStaff
    exact hFollows.mp (Or.inr hStaff)
  · intro hKeeps
    constructor
    · rintro (hAdmin | hStaff)
      · exact hAdmin
      · exact hKeeps hStaff
    · exact Or.inl

end Accounts

end Icmp2

------------------------------------------------------------
-- Runs
------------------------------------------------------------

namespace Icmp2

namespace Accounts

open Library

variable {store : AccountStore}

/- What saves no row takes no role away. -/
theorem keepsRole_of_savedUser?_eq_none
    {op : AccountOp}
    (hSaved : savedUser? store op = none) :
    KeepsRole store op := by
  cases op with
  | userEdit pk form =>
      intro target _ _ hSome
      rw [Option.map_eq_none_iff.mp hSaved] at hSome
      cases hSome
  | userCreate form => trivial
  | orgAddMembers deptId userIds => trivial
  | orgExcludeMembers userIds => trivial
  | deleteDepartment id => trivial

/- Where the flag follows the role, one step more. -/
theorem followsRole_accountStep_iff
    (hFollows : store.FollowsRole)
    (op : AccountOp) :
    (accountStep store op).FollowsRole ↔
      KeepsRole store op := by
  cases hSaved : savedUser? store op with
  | none =>
      refine
        iff_of_true ?_ (keepsRole_of_savedUser?_eq_none hSaved)
      exact
        forall_users_of_savedUser?_eq_none hFollows
          (fun _ _ _ hUser => hUser) hSaved
  | some saved =>
      rcases saved with ⟨pk, user⟩
      refine
        (forall_users_iff_of_savedUser? hFollows hSaved).trans
          ?_
      rcases savedUser?_cases hSaved with
        ⟨form, department, rfl, -, rfl⟩ |
          ⟨form, target, department, rfl, hUser, hTarget,
            rfl⟩
      · exact
          iff_of_true
            (followsRole_user form.stripped department) trivial
      · rw [followsRole_apply_iff]
        constructor
        · intro hKeeps other hOther hStaff _
          cases Option.some.inj (hTarget.symm.trans hOther)
          exact hKeeps hStaff
        · intro hKeeps hStaff
          apply hKeeps target hTarget hStaff
          rw [hUser]
          rfl

/-
  From users without staff rights, the flag follows the role
  in every state of a run exactly if there is no admin to
  begin with, and no edit takes the role of one away.
-/
theorem staff_rights_follow_role_iff
    {start : AccountStore}
    (hNoStaff : start.NoStaff)
    (ops : List AccountOp) :
    (start.StaffRights ∧
      Along accountStep
        (fun store op => (accountStep store op).StaffRights)
        start ops) ↔
      start.NoAdmin ∧
        Along accountStep KeepsRole start ops := by
  simp only [staffRights_iff]
  rw [← hNoStaff.followsRole_iff]
  refine and_congr_right fun hFollows => ?_
  apply
    along_iff_of_invariant (I := AccountStore.FollowsRole)
      _ _ hFollows ops
  · intro store op hState
    exact followsRole_accountStep_iff hState op
  · intro store op _ hLater
    exact hLater

theorem noStaff_initial :
    AccountStore.initial.NoStaff := by
  intro pk user hGet
  cases hGet

/- A worker is promoted. -/
def promotion : EditForm where
  userType := some "admin"

/- An administrator is demoted again. -/
def demotion : EditForm where
  userType := some "worker"

/- Staff rights come with the promotion of a worker. -/
theorem staff_rights_promoted :
    AccountStore.initial.StaffRights ∧
      Along accountStep
        (fun store op => (accountStep store op).StaffRights)
        .initial
        [.userCreate minsuForm, .userEdit 0 promotion] := by
  apply
    (staff_rights_follow_role_iff noStaff_initial _).mpr
  refine ⟨?_, trivial, ?_, trivial⟩
  · intro pk user hGet
    cases hGet
  · intro target _ _ _
    rfl

/- The demoted user still sees the history of all workers. -/
theorem demoted_user_keeps_staff_rights :
    ¬ (AccountStore.initial.StaffRights ∧
      Along accountStep
        (fun store op => (accountStep store op).StaffRights)
        .initial
        [.userCreate minsuForm, .userEdit 0 promotion,
          .userEdit 0 demotion]) := by
  rintro ⟨-, -, -, hDemoted, -⟩
  have hFollows :
      User.FollowsRole
        { minsu with isStaff := true, department := none } :=
    hDemoted.follows 0 _ (by decide +kernel)
  exact absurd (hFollows.mp rfl) (by decide +kernel)

end Accounts

end Icmp2
