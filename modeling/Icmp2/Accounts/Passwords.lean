import Icmp2.Accounts.UserTable

/-
  Passwords are set by three views and read by a fourth.

  Main definitions include:
    * `Icmp2.Accounts.validateUsername`
    * `Icmp2.Accounts.validatePassword`
    * `Icmp2.Accounts.loginView`
    * `Icmp2.Accounts.changePasswordView`
    * `Icmp2.Accounts.loginStep`
    * `Icmp2.Accounts.LoginStore.CanLogIn`
    * `Icmp2.Accounts.KeepsStrong`

  Main theorems include:
    * `Icmp2.Accounts.validatePassword_eq_none_iff`
    * `Icmp2.Accounts.passesLogin_iff`
    * `Icmp2.Accounts.accepted_credentials_log_in_iff`

  A registration and a change of one's own password check
  the new password; an edit by an administrator does not.
-/

------------------------------------------------------------
-- Login
------------------------------------------------------------

namespace Icmp2

namespace Accounts

open Library

/- `_validate_username`. -/
def validateUsername
    (value : String) :
    Option String :=
  firstFault
    [(value = "", "아이디를 입력해주세요."),
      (!value.toList.all Char.isAlphanum,
        "아이디는 영문 또는 숫자만 입력할 수 있습니다."),
      (!(4 ≤ value.length && value.length ≤ 20),
        "아이디를 4~20자로 입력해주세요.")]

/- `_validate_password`. -/
def validatePassword
    (value : String) :
    Option String :=
  firstFault
    [(value = "", "비밀번호를 입력해주세요."),
      (value.length < 8,
        "비밀번호를 8자 이상 입력해야 합니다."),
      (!isMixed value,
        "비밀번호는 영문, 숫자, 특수문자 중 2가지 이상을 포함해야 합니다.")]

/- A request of the login page, with its form if posted. -/
structure LoginRequest where
  isAuthenticated : Bool
  form : Option (String × String)

/- What the login page shows. -/
structure LoginContext where
  username : Option String := none
  usernameError : Option String := none
  passwordError : Option String := none
  authError : Option String := none
  deriving DecidableEq, Repr

inductive LoginReply where
  | redirect
  | page (context : LoginContext)
  deriving DecidableEq, Repr

/-
  What a login request does: the credentials with which
  `authenticate` was called, and who is signed in.
-/
structure LoginRun where
  calls : List (String × String) := []
  signedIn : Option Nat := none
  reply : LoginReply
  deriving DecidableEq, Repr

/- `login_view`, over what authenticates a user. -/
def loginView
    (authenticate : String → String → Option (Nat × User))
    (request : LoginRequest) :
    LoginRun :=
  if request.isAuthenticated then
    { reply := .redirect }
  else
    match request.form with
    | none => { reply := .page {} }
    | some (username, password) =>
        let usernameError := validateUsername username
        let passwordError := validatePassword password
        if usernameError.isSome ∨ passwordError.isSome then
          { reply :=
              .page
                { username := some username
                  usernameError := usernameError
                  passwordError := passwordError } }
        else
          match authenticate username password with
          | some (pk, user) =>
              if user.isLocked then
                { calls := [(username, password)]
                  reply :=
                    .page
                      { username := some username
                        authError :=
                          some
                            "계정이 잠금 처리되어 있습니다. 관리자에게 문의하세요." } }
              else
                { calls := [(username, password)]
                  signedIn := some pk
                  reply := .redirect }
          | none =>
              { calls := [(username, password)]
                reply :=
                  .page
                    { username := some username
                      authError :=
                        some
                          "아이디 또는 비밀번호가 올바르지 않습니다." } }

/-
  Credentials pass both checks of the login page, and are
  those with which a user is authenticated.
-/
structure PassesLogin
    (username password : String) :
    Prop where
  usernameValid : validateUsername username = none
  passwordValid : validatePassword password = none
  reaches :
    ∀ authenticate,
      (loginView authenticate
        ⟨false, some (username, password)⟩).calls =
        [(username, password)]

/- No branch was taken. -/
theorem firstFault_eq_none_iff
    (branches : List (Bool × String)) :
    firstFault branches = none ↔
      ∀ branch ∈ branches, branch.1 = false := by
  rw [firstFault, Option.map_eq_none_iff, List.find?_eq_none]
  simp only [Bool.not_eq_true]

theorem validateUsername_eq_none_iff
    (value : String) :
    validateUsername value = none ↔
      value.toList.all Char.isAlphanum = true ∧
        4 ≤ value.length ∧ value.length ≤ 20 := by
  simp only [validateUsername, firstFault_eq_none_iff,
    List.forall_mem_cons, List.not_mem_nil, false_implies,
    implies_true, and_true, decide_eq_false_iff_not,
    Bool.not_eq_false', Bool.and_eq_true,
    decide_eq_true_eq]
  refine and_iff_right_of_imp ?_
  rintro ⟨-, hLong, -⟩ rfl
  exact absurd hLong (by decide)

theorem validatePassword_eq_none_iff
    (value : String) :
    validatePassword value = none ↔
      8 ≤ value.length ∧ isMixed value = true := by
  simp only [validatePassword, firstFault_eq_none_iff,
    List.forall_mem_cons, List.not_mem_nil, false_implies,
    implies_true, and_true, decide_eq_false_iff_not,
    Bool.not_eq_false', Nat.not_lt]
  refine and_iff_right_of_imp ?_
  rintro ⟨hLong, -⟩ rfl
  exact absurd hLong (by decide)

/- What passes both checks reaches the authentication. -/
theorem passesLogin_iff
    (username password : String) :
    PassesLogin username password ↔
      validateUsername username = none ∧
        validatePassword password = none := by
  constructor
  · intro hPasses
    exact ⟨hPasses.usernameValid, hPasses.passwordValid⟩
  · rintro ⟨hUsername, hPassword⟩
    refine ⟨hUsername, hPassword, ?_⟩
    intro authenticate
    simp only [loginView, hUsername, hPassword,
      Option.isSome_none, Bool.false_eq_true, or_self,
      if_false]
    cases authenticate username password with
    | none => rfl
    | some found =>
        cases hLocked : found.2.isLocked with
        | true => simp only [hLocked, if_true]
        | false =>
            simp only [hLocked, Bool.false_eq_true, if_false]

end Accounts

end Icmp2

------------------------------------------------------------
-- Changes of Passwords
------------------------------------------------------------

namespace Icmp2

namespace Accounts

open Library

/-
  The accounts, and for each user the password that was set
  last, of which the hash is stored.
-/
structure LoginStore where
  accounts : AccountStore
  passwords : Nat → Option String

/- The fields that `change_password_view` reads. -/
structure PasswordForm where
  currentPassword : String
  newPassword : String
  confirmPassword : String
  deriving DecidableEq, Repr

inductive PasswordReply where
  | redirect
  | error (field text : String)
  | ok
  deriving DecidableEq, Repr

/- The field and the text of the branch that is taken. -/
def passwordFormFault?
    (verified : Bool)
    (form : PasswordForm) :
    Option (String × String) :=
  let length := form.newPassword.length
  let branches : List (Bool × String × String) :=
    [(form.currentPassword = "",
        "current", "현재 사용 중인 비밀번호를 입력해 주세요."),
      (!verified,
        "current",
        "현재 비밀번호가 일치하지 않습니다. 다시 확인해 주세요."),
      (form.newPassword = "",
        "new", "새로운 비밀번호를 입력해 주세요."),
      (form.currentPassword = form.newPassword,
        "new",
        "현재 사용 중인 비밀번호는 신규 비밀번호로 사용할 수 없습니다."),
      (!(8 ≤ length && length ≤ 16) ||
          !isMixed form.newPassword,
        "new",
        "8~16자의 영문, 숫자, 특수문자를 조합하여 입력해 주세요."),
      (form.confirmPassword = "",
        "confirm",
        "비밀번호 확인을 위해 한 번 더 입력해 주세요."),
      (form.newPassword ≠ form.confirmPassword,
        "confirm",
        "입력하신 신규 비밀번호와 일치하지 않습니다.")]
  (branches.find? Prod.fst).map Prod.snd

/- The password column once a row was saved. -/
def LoginStore.setPassword
    (store : LoginStore)
    (pk : Nat)
    (password : Option String) :
    Nat → Option String :=
  match password with
  | none => store.passwords
  | some text =>
      Function.update store.passwords pk (some text)

/-
  `POST` of `change_password_view` by a signed-in user, and
  the tables after it.  A user that is not active any more
  is sent to the login page.
-/
def changePasswordView
    (checkPassword : String → String → Bool)
    (pk : Nat)
    (form : PasswordForm)
    (store : LoginStore) :
    Except AccountError PasswordReply × LoginStore :=
  match store.accounts.users.get? pk with
  | none => (.ok .redirect, store)
  | some user =>
      if user.isActive then
        let verified :=
          (store.passwords pk).any fun held =>
            checkPassword held form.currentPassword
        match passwordFormFault? verified form with
        | some (field, text) =>
            (.ok (.error field text), store)
        | none =>
            let passwords :=
              if store.accounts.userFault? pk user = none then
                store.setPassword pk (some form.newPassword)
              else
                store.passwords
            match saveUser pk user store.accounts with
            | .error error accounts =>
                (.error error, ⟨accounts, passwords⟩)
            | .ok _ accounts => (.ok .ok, ⟨accounts, passwords⟩)
      else
        (.ok .redirect, store)

/- The password that `user_edit` sets, if any. -/
def EditForm.newPassword
    (form : EditForm) :
    Option String :=
  let password := form.password1.getD ""
  if password = "" then none else some password

/- The password that a view sets for the user it saves. -/
def AccountOp.newPassword : AccountOp → Option String
  | .userCreate form => some form.password1
  | .userEdit _ form => form.newPassword
  | _ => none

/- What is done to accounts and to passwords. -/
inductive LoginOp where
  | account (op : AccountOp)
  | changePassword (pk : Nat) (form : PasswordForm)
  deriving DecidableEq, Repr

/- The password column after a request to the accounts. -/
def passwordsAfter
    (store : LoginStore)
    (op : AccountOp) :
    Nat → Option String :=
  match savedUser? store.accounts op with
  | none => store.passwords
  | some (pk, _) => store.setPassword pk op.newPassword

def loginStep
    (checkPassword : String → String → Bool)
    (store : LoginStore) :
    LoginOp → LoginStore
  | .account op =>
      ⟨accountStep store.accounts op, passwordsAfter store op⟩
  | .changePassword pk form =>
      (changePasswordView checkPassword pk form store).2

end Accounts

end Icmp2

------------------------------------------------------------
-- Accepted Credentials
------------------------------------------------------------

namespace Icmp2

namespace Accounts

open Library

/-
  Every active and unlocked user from the given id on passes
  the login page with the password that was set last.
-/
def LoginStore.CanLogIn
    (firstId : Nat)
    (store : LoginStore) :
    Prop :=
  ∀ pk user password,
    firstId ≤ pk →
    store.accounts.users.get? pk = some user →
    user.isActive = true →
    user.isLocked = false →
    store.passwords pk = some password →
      PassesLogin user.username password

/-
  An edit that is saved and leaves a user active and
  unlocked leaves it a password, new or kept, of eight
  characters of two kinds.
-/
def KeepsStrong
    (firstId : Nat)
    (store : LoginStore)
    (op : LoginOp) :
    Prop :=
  match op with
  | .account (.userEdit pk form) =>
      firstId ≤ pk →
      (replacedUser? store.accounts pk form).isSome = true →
      form.isActive.getD "true" ≠ "false" →
      form.isActive.getD "true" ≠ "locked" →
        ∀ password,
          (form.newPassword.or (store.passwords pk)) =
              some password →
            8 ≤ password.length ∧ isMixed password = true
  | _ => True

/- The usernames of the users that were registered. -/
def LoginStore.GoodUsernames
    (firstId : Nat)
    (store : LoginStore) :
    Prop :=
  ∀ pk user,
    firstId ≤ pk →
    store.accounts.users.get? pk = some user →
      validateUsername user.username = none

variable {store : LoginStore}
variable {firstId pk : Nat}
variable {user : User}

theorem setPassword_apply
    (store : LoginStore)
    (pk : Nat)
    (password : Option String)
    (other : Nat) :
    store.setPassword pk password other =
      if other = pk then password.or (store.passwords pk)
      else store.passwords other := by
  unfold LoginStore.setPassword
  cases password with
  | none =>
      by_cases hSame : other = pk
      · rw [if_pos hSame, hSame]
        rfl
      · rw [if_neg hSame]
  | some text => exact Function.update_apply ..

/- A registration checks what the login page checks. -/
theorem passesLogin_of_createErrors
    {accounts : AccountStore}
    {form : CreateForm}
    (hErrors : createErrors accounts form = []) :
    PassesLogin form.username form.password1 := by
  simp only [createErrors, List.filterMap_eq_nil_iff,
    List.forall_mem_cons, id] at hErrors
  rcases hErrors with ⟨-, hUsername, hPassword, -⟩
  rw [passesLogin_iff, validateUsername_eq_none_iff,
    validatePassword_eq_none_iff]
  simp only [usernameError?, firstFault_eq_none_iff,
    List.forall_mem_cons, decide_eq_false_iff_not,
    Bool.not_eq_false', Nat.not_lt] at hUsername
  simp only [passwordError?, firstFault_eq_none_iff,
    List.forall_mem_cons, decide_eq_false_iff_not,
    Bool.not_eq_false', Nat.not_lt] at hPassword
  rcases hUsername with ⟨-, -, hPlain, hLong, hShort, -⟩
  rcases hPassword with ⟨-, -, hEight, -, hMixed, -⟩
  exact ⟨⟨hPlain, hLong, hShort⟩, hEight, hMixed⟩

/- A change of one's own password checks it, too. -/
theorem strong_of_passwordFormFault?
    {verified : Bool}
    {form : PasswordForm}
    (hFault : passwordFormFault? verified form = none) :
    8 ≤ form.newPassword.length ∧
      isMixed form.newPassword = true := by
  simp only [passwordFormFault?, Option.map_eq_none_iff,
    List.find?_eq_none, List.forall_mem_cons,
    Bool.or_eq_true, Bool.not_eq_true', not_or,
    Bool.not_eq_false] at hFault
  rcases hFault with ⟨-, -, -, -, ⟨hLength, hMixed⟩, -⟩
  rw [Bool.and_eq_true, decide_eq_true_iff] at hLength
  exact ⟨hLength.1, hMixed⟩

/- The users are those before, but for one that is saved. -/
theorem goodUsernames_account
    (hGood : store.GoodUsernames firstId)
    (checkPassword : String → String → Bool)
    (op : AccountOp) :
    (loginStep checkPassword store
      (.account op)).GoodUsernames firstId := by
  have hAll :
      ∀ pk user,
        store.accounts.users.get? pk = some user →
          firstId ≤ pk →
            validateUsername user.username = none :=
    fun pk user hGet hFirst => hGood pk user hFirst hGet
  have hLater :
      ∀ pk user,
        (accountStep store.accounts op).users.get? pk =
            some user →
          firstId ≤ pk →
            validateUsername user.username = none := by
    cases hSaved : savedUser? store.accounts op with
    | none =>
        exact
          forall_users_of_savedUser?_eq_none hAll
            (fun _ _ _ hUser => hUser) hSaved
    | some saved =>
        rcases saved with ⟨id, row⟩
        apply (forall_users_iff_of_savedUser? hAll hSaved).mpr
        rcases savedUser?_cases hSaved with
          ⟨form, department, rfl, hErrors, rfl⟩ |
            ⟨form, target, department, rfl, -, hTarget, rfl⟩
        · intro _
          simp only [CreateForm.user]
          exact
            (passesLogin_of_createErrors hErrors).usernameValid
        · intro hFirst
          simp only [EditForm.apply]
          exact hGood id target hFirst hTarget
  intro pk user hFirst hGet
  exact hLater pk user hGet hFirst

/- Saving a user as it is stored changes no user. -/
theorem users_saveUser_self
    {accounts : AccountStore}
    (hGet : accounts.users.get? pk = some user) :
    ((saveUser pk user).stateAfter accounts).users =
      accounts.users := by
  rw [users_saveUser, Rows.set_eq_self hGet, ite_self]

/- A change of one's own password sets a strong one at most. -/
theorem changePasswordView_cases
    (checkPassword : String → String → Bool)
    (pk : Nat)
    (form : PasswordForm)
    (store : LoginStore) :
    let after :=
      (changePasswordView checkPassword pk form store).2
    after.accounts.users = store.accounts.users ∧
      (after.passwords = store.passwords ∨
        after.passwords =
            store.setPassword pk (some form.newPassword) ∧
          8 ≤ form.newPassword.length ∧
            isMixed form.newPassword = true) := by
  intro after
  simp only [after, changePasswordView]
  cases hGet : store.accounts.users.get? pk with
  | none => exact ⟨rfl, Or.inl rfl⟩
  | some user =>
      cases hActive : user.isActive with
      | false =>
          simp only [hActive, Bool.false_eq_true, if_false]
          exact ⟨trivial, Or.inl trivial⟩
      | true =>
          simp only [hActive, if_true]
          cases hFault :
              passwordFormFault?
                ((store.passwords pk).any fun held =>
                  checkPassword held form.currentPassword)
                form with
          | some fault => exact ⟨rfl, Or.inl rfl⟩
          | none =>
              have hStrong := strong_of_passwordFormFault? hFault
              have hUsers := users_saveUser_self hGet
              have hPasswords :=
                ite_eq_or_eq
                  (store.accounts.userFault? pk user = none)
                  (store.setPassword pk
                    (some form.newPassword))
                  store.passwords
              have hCases :=
                hPasswords.symm.imp_right
                  fun hSet => And.intro hSet hStrong
              rw [Action.stateAfter] at hUsers
              cases hSave :
                  saveUser pk user store.accounts with
              | ok value accounts =>
                  rw [hSave] at hUsers
                  exact ⟨hUsers, hCases⟩
              | error error accounts =>
                  rw [hSave] at hUsers
                  exact ⟨hUsers, hCases⟩

theorem goodUsernames_loginStep
    (hGood : store.GoodUsernames firstId)
    (checkPassword : String → String → Bool)
    (op : LoginOp) :
    (loginStep checkPassword store op).GoodUsernames
      firstId := by
  cases op with
  | account op =>
      exact goodUsernames_account hGood checkPassword op
  | changePassword pk form =>
      intro other user hFirst hGet
      have hUsers :=
        (changePasswordView_cases checkPassword pk form
          store).1
      change
        (changePasswordView checkPassword pk form
          store).2.accounts.users.get? other = _ at hGet
      rw [hUsers] at hGet
      exact hGood other user hFirst hGet

end Accounts

end Icmp2

------------------------------------------------------------
-- Runs
------------------------------------------------------------

namespace Icmp2

namespace Accounts

open Library

variable {store : LoginStore}
variable {firstId pk : Nat}
variable {user : User}
variable {checkPassword : String → String → Bool}

/- A written user decides, with the password it then has. -/
theorem canLogIn_of_savedUser?
    {op : AccountOp}
    (hCan : store.CanLogIn firstId)
    (hSaved :
      savedUser? store.accounts op = some (pk, user)) :
    (loginStep checkPassword store
        (.account op)).CanLogIn firstId ↔
      (firstId ≤ pk →
        user.isActive = true →
        user.isLocked = false →
          ∀ password,
            (op.newPassword.or (store.passwords pk)) =
                some password →
              PassesLogin user.username password) := by
  have hPasswords :
      passwordsAfter store op =
        store.setPassword pk op.newPassword := by
    rw [passwordsAfter, hSaved]
  constructor
  · intro hLater hFirst hActive hUnlocked password hHeld
    refine
      hLater pk user password hFirst ?_ hActive hUnlocked ?_
    · change (accountStep _ op).users.get? pk = _
      rw [get?_users_of_savedUser? hSaved, if_pos rfl]
    · change passwordsAfter store op pk = _
      rw [hPasswords, setPassword_apply, if_pos rfl, hHeld]
  · intro hUser other row password hFirst hGet hActive
      hUnlocked hHeld
    change (accountStep _ op).users.get? other = _ at hGet
    change passwordsAfter store op other = _ at hHeld
    rw [get?_users_of_savedUser? hSaved] at hGet
    rw [hPasswords, setPassword_apply] at hHeld
    by_cases hSame : other = pk
    · rw [if_pos hSame] at hGet hHeld
      cases hGet
      rw [hSame] at hFirst
      exact hUser hFirst hActive hUnlocked password hHeld
    · rw [if_neg hSame] at hGet hHeld
      exact
        hCan other row password hFirst hGet hActive hUnlocked
          hHeld

theorem canLogIn_of_savedUser?_eq_none
    {op : AccountOp}
    (hCan : store.CanLogIn firstId)
    (hSaved : savedUser? store.accounts op = none) :
    (loginStep checkPassword store
      (.account op)).CanLogIn firstId := by
  intro pk user password hFirst hGet hActive hUnlocked hHeld
  rcases users_of_savedUser?_eq_none hSaved pk user hGet with
    ⟨_, old, hOld, rfl⟩
  change passwordsAfter store op pk = _ at hHeld
  rw [passwordsAfter, hSaved] at hHeld
  exact
    hCan pk old password hFirst hOld hActive hUnlocked hHeld

/- A strong password of one's own keeps the way open. -/
theorem canLogIn_changePassword
    (hGood : store.GoodUsernames firstId)
    (hCan : store.CanLogIn firstId)
    (pk : Nat)
    (form : PasswordForm) :
    (loginStep checkPassword store
      (.changePassword pk form)).CanLogIn firstId := by
  intro other user password hFirst hGet hActive hUnlocked
    hHeld
  rcases
    changePasswordView_cases checkPassword pk form store with
    ⟨hUsers, hPasswords⟩
  change
    (changePasswordView checkPassword pk form
      store).2.accounts.users.get? other = _ at hGet
  change
    (changePasswordView checkPassword pk form
      store).2.passwords other = _ at hHeld
  rw [hUsers] at hGet
  have hOld :=
    fun held =>
      hCan other user held hFirst hGet hActive hUnlocked
  rcases hPasswords with hSame | ⟨hSet, hStrong⟩
  · rw [hSame] at hHeld
    exact hOld password hHeld
  · rw [hSet, setPassword_apply] at hHeld
    by_cases hSame : other = pk
    · rw [if_pos hSame] at hHeld
      cases hHeld
      rw [passesLogin_iff, validatePassword_eq_none_iff]
      exact ⟨hGood other user hFirst hGet, hStrong⟩
    · rw [if_neg hSame] at hHeld
      exact hOld password hHeld

/- An edited user passes with a strong password. -/
theorem passesLogin_of_edit_iff
    {form : EditForm}
    (hGood : store.GoodUsernames firstId)
    (hUser :
      replacedUser? store.accounts pk form = some user) :
    (firstId ≤ pk →
      user.isActive = true →
      user.isLocked = false →
        ∀ password,
          (form.newPassword.or (store.passwords pk)) =
              some password →
            PassesLogin user.username password) ↔
      (firstId ≤ pk →
        form.isActive.getD "true" ≠ "false" →
        form.isActive.getD "true" ≠ "locked" →
          ∀ password,
            (form.newPassword.or (store.passwords pk)) =
                some password →
              8 ≤ password.length ∧
                isMixed password = true) := by
  rcases of_replacedUser? hUser with
    ⟨target, department, hTarget, -, rfl⟩
  refine forall_congr' fun hFirst => ?_
  have hUsername := hGood pk target hFirst hTarget
  simp only [EditForm.apply, decide_eq_true_eq,
    decide_eq_false_iff_not, passesLogin_iff, hUsername,
    true_and, validatePassword_eq_none_iff, ne_eq]

/- What saves no row sets no password. -/
theorem keepsStrong_of_savedUser?_eq_none
    {op : AccountOp}
    (hSaved : savedUser? store.accounts op = none) :
    KeepsStrong firstId store (.account op) := by
  cases op with
  | userEdit pk form =>
      intro _ hSome
      rw [Option.map_eq_none_iff.mp hSaved] at hSome
      cases hSome
  | userCreate form => trivial
  | orgAddMembers deptId userIds => trivial
  | orgExcludeMembers userIds => trivial
  | deleteDepartment id => trivial

/- One step keeps the way open if it keeps strong. -/
theorem canLogIn_loginStep_iff
    (hGood : store.GoodUsernames firstId)
    (hCan : store.CanLogIn firstId)
    (op : LoginOp) :
    (loginStep checkPassword store op).CanLogIn firstId ↔
      KeepsStrong firstId store op := by
  cases op with
  | changePassword pk form =>
      exact
        iff_of_true (canLogIn_changePassword hGood hCan pk form)
          trivial
  | account op =>
      cases hSaved : savedUser? store.accounts op with
      | none =>
          exact
            iff_of_true
              (canLogIn_of_savedUser?_eq_none hCan hSaved)
              (keepsStrong_of_savedUser?_eq_none hSaved)
      | some saved =>
          rcases saved with ⟨pk, user⟩
          refine
            (canLogIn_of_savedUser? hCan hSaved).trans ?_
          rcases savedUser?_cases hSaved with
            ⟨form, department, rfl, hErrors, rfl⟩ |
              ⟨form, target, department, rfl, hUser, -, -⟩
          · refine iff_of_true ?_ trivial
            intro _ _ _ password hHeld
            cases hHeld
            simpa only [CreateForm.user, CreateForm.stripped]
              using passesLogin_of_createErrors hErrors
          · refine
              (passesLogin_of_edit_iff hGood hUser).trans ?_
            rw [KeepsStrong, hUser]
            simp only [Option.isSome_some, forall_const]

/-
  The users that are registered in a run can log in with
  the password accepted last, as long as they are active and
  unlocked, exactly if no edit leaves one of them a weak
  password.
-/
theorem accepted_credentials_log_in_iff
    (checkPassword : String → String → Bool)
    (start : LoginStore)
    (ops : List LoginOp) :
    Along (loginStep checkPassword)
        (fun store op =>
          (loginStep checkPassword store op).CanLogIn
            start.accounts.users.nextId)
        start ops ↔
      Along (loginStep checkPassword)
        (KeepsStrong start.accounts.users.nextId)
        start ops := by
  have hNew :
      ∀ pk user,
        start.accounts.users.nextId ≤ pk →
          start.accounts.users.get? pk ≠ some user := by
    intro pk user hFirst hGet
    rw [start.accounts.users.fresh pk hFirst] at hGet
    cases hGet
  apply
    along_iff_of_invariant
      (I := fun store : LoginStore =>
        store.GoodUsernames start.accounts.users.nextId ∧
          store.CanLogIn start.accounts.users.nextId)
  · intro store op hState
    exact canLogIn_loginStep_iff hState.1 hState.2 op
  · intro store op hState hLater
    exact
      ⟨goodUsernames_loginStep hState.1 checkPassword op,
        hLater⟩
  · constructor
    · intro pk user hFirst hGet
      exact absurd hGet (hNew pk user hFirst)
    · intro pk user password hFirst hGet
      exact absurd hGet (hNew pk user hFirst)

def initialLogins : LoginStore where
  accounts := .initial
  passwords := fun _ => none

/- An edit that sets a password of three letters. -/
def shortPassword : EditForm where
  password1 := some "abc"
  password2 := some "abc"

/-
  The password that an administrator sets is refused on the
  login page.
-/
theorem short_password_is_refused :
    ¬ Along (loginStep fun held text => held = text)
        (fun store op =>
          (loginStep (fun held text => held = text) store
            op).CanLogIn
            initialLogins.accounts.users.nextId)
        initialLogins
        [.account (.userCreate minsuForm),
          .account (.userEdit 0 shortPassword)] := by
  rintro ⟨-, hEdited, -⟩
  have hPasses :
      PassesLogin "minsu" "abc" :=
    hEdited 0 { minsu with department := none } "abc"
      (Nat.zero_le 0) (by decide +kernel) rfl rfl
      (by decide +kernel)
  exact absurd hPasses.passwordValid (by decide +kernel)

end Accounts

end Icmp2
