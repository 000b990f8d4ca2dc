import Icmp2.Library.Action
import Icmp2.Library.NumberedCode
import Icmp2.Library.Rows
import Icmp2.Library.Trace
import Icmp2.Text

/-
  Users, their departments, and the workers made of them.

  Main definitions include:
    * `Icmp2.Accounts.User`
    * `Icmp2.Accounts.WorkerRow`
    * `Icmp2.Accounts.syncWorker`
    * `Icmp2.Accounts.userCreate`
    * `Icmp2.Accounts.userEdit`
    * `Icmp2.Accounts.orgAddMembers`
    * `Icmp2.Accounts.orgExcludeMembers`
    * `Icmp2.Accounts.accountStep`

  A saved user is carried over to its worker by a signal.
  The views of the organisation update users in bulk, for
  which no signal is sent.
-/

------------------------------------------------------------
-- Texts of Forms
------------------------------------------------------------

namespace Icmp2

namespace Accounts

open Library

/- `sys.get_int_max_str_digits()`. -/
def maxStrDigits : Nat :=
  4300

/- The number that groups of digits denote together. -/
def intDigits?
    (digits : List Char) :
    Option Nat :=
  let groups := digits.splitOn '_'
  if groups.all (fun group => !group.isEmpty) ∧
      groups.flatten.length ≤ maxStrDigits then
    (groups.flatten.mapM decimalDigit?).map readDigits
  else
    none

/- `int(text)`; none stands for its `ValueError`. -/
def intOf?
    (text : String) :
    Option Int :=
  match (strip text).toList with
  | '-' :: digits =>
      (intDigits? digits).map fun number => -(number : Int)
  | '+' :: digits =>
      (intDigits? digits).map fun number => (number : Int)
  | digits =>
      (intDigits? digits).map fun number => (number : Int)

/- The numbers of a list of texts, if all are numbers. -/
def intsOf?
    (texts : List String) :
    Option (List Int) :=
  texts.mapM intOf?

/- The message of the first branch that is taken, if any. -/
def firstFault
    (branches : List (Bool × String)) :
    Option String :=
  (branches.find? Prod.fst).map Prod.snd

/- `[가-힣a-zA-Z0-9]`. -/
def isNameChar
    (c : Char) :
    Bool :=
  ('가' ≤ c && c ≤ '힣') || c.isAlphanum

/- `[^@\s]+@[^@\s]+\.[^@\s]+`. -/
def isEmail
    (text : String) :
    Bool :=
  match text.toList.splitOn '@' with
  | [user, host] =>
      !user.isEmpty && !(text.toList.any isSpace) &&
        (host.tail.dropLast).contains '.'
  | _ => false

/- `0\d{1,2}-\d{3,4}-\d{4}`, on digits and hyphens. -/
def isPhone
    (text : String) :
    Bool :=
  match text.toList.splitOn '-' with
  | [area, middle, last] =>
      area.head? = some '0' &&
        (area.length = 2 || area.length = 3) &&
        (middle.length = 3 || middle.length = 4) &&
        last.length = 4
  | _ => false

end Accounts

end Icmp2

------------------------------------------------------------
-- Rows
------------------------------------------------------------

namespace Icmp2

namespace Accounts

open Library

structure Department where
  name : String
  deriving DecidableEq, Repr

structure User where
  username : String
  name : String
  email : String
  phone : String
  position : String
  userType : String
  isActive : Bool
  isLocked : Bool
  isStaff : Bool
  department : Option Nat
  deriving DecidableEq, Repr

/- The columns of `Worker` that a user is copied to. -/
structure WorkerRow where
  user : Option Nat
  workerNo : String
  workerName : String
  department : Option Nat
  phone : String
  deriving DecidableEq, Repr

/- `instance.name or instance.username`. -/
def User.workerName
    (user : User) :
    String :=
  if user.name = "" then user.username else user.name

/- `f'W{instance.pk:05d}'`. -/
def workerNo
    (pk : Nat) :
    String :=
  "W" ++
    String.ofList ((Nat.toDigits 10 pk).leftpad 5 '0')

/- The worker that a new user gets. -/
def User.newWorker
    (user : User)
    (pk : Nat) :
    WorkerRow where
  user := some pk
  workerNo := Accounts.workerNo pk
  workerName := user.workerName
  department := user.department
  phone := user.phone

/- The lengths of the text columns of a user. -/
def User.Fits
    (user : User) :
    Prop :=
  user.username.length ≤ 150 ∧ user.name.length ≤ 100 ∧
    user.email.length ≤ 254 ∧ user.phone.length ≤ 20 ∧
    user.position.length ≤ 100 ∧ user.userType.length ≤ 20

instance : DecidablePred User.Fits := by
  intro user
  unfold User.Fits
  infer_instance

/- The lengths of the text columns of a worker. -/
def WorkerRow.Fits
    (worker : WorkerRow) :
    Prop :=
  worker.workerNo.length ≤ 50 ∧
    worker.workerName.length ≤ 50 ∧
    worker.phone.length ≤ 20

instance : DecidablePred WorkerRow.Fits := by
  intro worker
  unfold WorkerRow.Fits
  infer_instance

inductive WorkerField where
  | workerName
  | department
  | phone
  deriving DecidableEq, Repr

/- The columns in which a worker differs from its user. -/
def dirtyFields
    (worker : WorkerRow)
    (user : User) :
    List WorkerField :=
  (if worker.workerName ≠ user.workerName then
      [.workerName] else []) ++
    (if worker.department ≠ user.department then
      [.department] else []) ++
    (if worker.phone ≠ user.phone then [.phone] else [])

/- The given columns of a worker set to those of a user. -/
def WorkerRow.write
    (worker : WorkerRow)
    (fields : List WorkerField)
    (user : User) :
    WorkerRow :=
  { worker with
    workerName :=
      if .workerName ∈ fields then user.workerName
      else worker.workerName
    department :=
      if .department ∈ fields then user.department
      else worker.department
    phone :=
      if .phone ∈ fields then user.phone
      else worker.phone }

end Accounts

end Icmp2

------------------------------------------------------------
-- Tables
------------------------------------------------------------

namespace Icmp2

namespace Accounts

open Library

structure AccountStore where
  departments : Rows Department
  users : Rows User
  workers : Rows WorkerRow

inductive AccountError where
  | dataError
  | integrityError
  | valueError
  | notFound
  deriving DecidableEq, Repr

abbrev AccountAction (R : Type) : Type :=
  Action AccountError AccountStore R

/- A foreign key names a department that exists. -/
def AccountStore.HasDepartment
    (store : AccountStore)
    (department : Option Nat) :
    Prop :=
  ∀ id ∈ department, (store.departments.get? id).isSome

instance
    (store : AccountStore)
    (department : Option Nat) :
    Decidable (store.HasDepartment department) := by
  unfold AccountStore.HasDepartment
  infer_instance

/- What the database objects to in a user, if anything. -/
def AccountStore.userFault?
    (store : AccountStore)
    (id : Nat)
    (user : User) :
    Option AccountError :=
  if ¬ user.Fits then
    some .dataError
  else if
      ¬ (store.users.Free (fun row => some row.username) id
          user ∧
        store.HasDepartment user.department) then
    some .integrityError
  else
    none

/- The same for a worker. -/
def AccountStore.workerFault?
    (store : AccountStore)
    (id : Nat)
    (worker : WorkerRow) :
    Option AccountError :=
  if ¬ worker.Fits then
    some .dataError
  else if
      ¬ (store.workers.Free (fun row => some row.workerNo) id
          worker ∧
        store.workers.Free WorkerRow.user id worker) then
    some .integrityError
  else
    none

/- The same for an `UPDATE` of some columns of a worker. -/
def workerFieldsFault?
    (fields : List WorkerField)
    (worker : WorkerRow) :
    Option AccountError :=
  if (.workerName ∈ fields ∧
        50 < worker.workerName.length) ∨
      (.phone ∈ fields ∧ 20 < worker.phone.length) then
    some .dataError
  else
    none

/- `instance.worker`. -/
def AccountStore.workerOf
    (store : AccountStore)
    (user : Nat) :
    Option Nat :=
  store.workers.find? fun worker => worker.user = some user

def AccountStore.setWorker
    (store : AccountStore)
    (id : Nat)
    (worker : WorkerRow) :
    AccountStore :=
  { store with workers := store.workers.set id worker }

/- `Worker.objects.get_or_create` of a user. -/
def getOrCreateWorker
    (pk : Nat)
    (user : User) :
    AccountAction Unit := fun store =>
  match store.workerOf pk with
  | some _ => .ok () store
  | none =>
      match store.workerFault? store.workers.nextId
          (user.newWorker pk) with
      | some error => .error error store
      | none =>
          .ok ()
            { store with
              workers :=
                store.workers.insert (user.newWorker pk) }

/- The worker of a user that was there already. -/
def updateWorker
    (pk : Nat)
    (user : User) :
    AccountAction Unit := fun store =>
  match store.workerOf pk with
  | none => .ok () store
  | some id =>
      match store.workers.get? id with
      | none => .ok () store
      | some worker =>
          let fields := dirtyFields worker user
          let written := worker.write fields user
          match workerFieldsFault? fields written with
          | some error => .error error store
          | none => .ok () (store.setWorker id written)

/- `sync_worker`. -/
def syncWorker
    (pk : Nat)
    (user : User)
    (created : Bool) :
    AccountAction Unit :=
  if created then
    getOrCreateWorker pk user
  else
    updateWorker pk user

/- `User.save` of a new user, with its signal. -/
def createUser
    (user : User) :
    AccountAction Unit := fun store =>
  match store.userFault? store.users.nextId user with
  | some error => .error error store
  | none =>
      syncWorker store.users.nextId user true
        { store with users := store.users.insert user }

/- `User.save` of a loaded user, with its signal. -/
def saveUser
    (pk : Nat)
    (user : User) :
    AccountAction Unit := fun store =>
  match store.userFault? pk user with
  | some error => .error error store
  | none =>
      syncWorker pk user false
        { store with users := store.users.set pk user }

end Accounts

end Icmp2

------------------------------------------------------------
-- Views
------------------------------------------------------------

namespace Icmp2

namespace Accounts

open Library

/- The fields that `user_create` reads, none as empty. -/
structure CreateForm where
  name : String
  username : String
  password1 : String
  password2 : String
  department : String
  userType : String
  position : String
  isActive : String
  email : String
  phone : String
  deriving DecidableEq, Repr

/- The fields that `user_edit` reads. -/
structure EditForm where
  name : Option String := none
  email : Option String := none
  phone : Option String := none
  position : Option String := none
  userType : Option String := none
  isActive : Option String := none
  department : Option String := none
  password1 : Option String := none
  password2 : Option String := none
  deriving DecidableEq, Repr

/- The form without the spaces around its texts. -/
def CreateForm.stripped
    (form : CreateForm) :
    CreateForm :=
  { form with
    name := strip form.name
    username := strip form.username
    department := strip form.department
    userType := strip form.userType
    position := strip form.position
    isActive := strip form.isActive
    email := strip form.email
    phone := strip form.phone }

def nameError?
    (name : String) :
    Option String :=
  firstFault
    [(name = "", "사용자명을 입력해 주세요."),
      (name.length < 2,
        "사용자명을 2자 이상 입력해 주세요."),
      (20 < name.length,
        "사용자명은 20자 이하로 입력해 주세요."),
      (!name.toList.all isNameChar,
        "사용자명은 한글, 영문, 숫자만 입력할 수 있습니다.")]

/- The last check asks whether the username is taken. -/
def usernameError?
    (taken : Bool)
    (username : String) :
    Option String :=
  firstFault
    [(username = "", "아이디를 입력해 주세요."),
      (username.toList.contains ' ',
        "아이디에는 공백을 입력할 수 없습니다."),
      (!username.toList.all Char.isAlphanum,
        "아이디는 영문 또는 숫자만 입력할 수 있습니다."),
      (username.length < 4,
        "아이디를 4자 이상 입력해 주세요."),
      (20 < username.length,
        "아이디는 20자 이하로 입력해 주세요."),
      (taken, "이미 사용 중인 아이디입니다.")]

/- Letters, digits and other characters: at least two. -/
def isMixed
    (password : String) :
    Bool :=
  2 ≤
    [password.toList.any Char.isAlpha,
      password.toList.any Char.isDigit,
      password.toList.any fun c =>
        !c.isAlphanum].count true

def passwordError?
    (password : String) :
    Option String :=
  firstFault
    [(password = "", "비밀번호를 입력해 주세요."),
      (password.toList.contains ' ',
        "비밀번호에는 공백을 입력할 수 없습니다."),
      (password.length < 8,
        "비밀번호는 8자 이상 입력해 주세요."),
      (20 < password.length,
        "비밀번호는 20자 이하로 입력해 주세요."),
      (!isMixed password,
        "비밀번호는 영문, 숫자, 특수문자 중 2가지 이상을 포함해 주세요.")]

/- The repetition is compared with a valid password only. -/
def repetitionError?
    (password1 password2 : String) :
    Option String :=
  firstFault
    [(password2 = "", "비밀번호 확인을 입력해 주세요."),
      ((passwordError? password1).isNone &&
          password1 != password2,
        "비밀번호가 일치하지 않습니다.")]

def requiredError?
    (message text : String) :
    Option String :=
  firstFault [(text = "", message)]

def emailError?
    (email : String) :
    Option String :=
  firstFault
    [(email = "", "이메일을 입력해 주세요."),
      (100 < email.length,
        "이메일은 100자 이하로 입력해 주세요."),
      (!isEmail email,
        "이메일 형식이 올바르지 않습니다.")]

def phoneError?
    (phone : String) :
    Option String :=
  let digits := (phone.toList.filter Char.isDigit).length
  firstFault
    [(phone = "", "연락처를 입력해 주세요."),
      (!phone.toList.all fun c => c.isDigit || c == '-',
        "연락처는 숫자만 입력할 수 있습니다."),
      (digits ≠ 10 && digits ≠ 11,
        "연락처를 정확히 입력해 주세요."),
      (!isPhone phone,
        "연락처 형식이 올바르지 않습니다. (예: 010-1234-5678)")]

/- `errors` of `user_create`, on the stripped form. -/
def createErrors
    (store : AccountStore)
    (form : CreateForm) :
    List String :=
  let taken : Bool :=
    (store.users.find? fun row =>
      row.username = form.username).isSome
  [nameError? form.name,
    usernameError? taken form.username,
    passwordError? form.password1,
    repetitionError? form.password1 form.password2,
    requiredError? "소속을 선택해 주세요." form.department,
    requiredError? "권한을 선택해 주세요." form.userType,
    requiredError? "계정 상태를 선택해 주세요." form.isActive,
    emailError? form.email,
    phoneError? form.phone].filterMap id

/- The user that `user_create` saves. -/
def CreateForm.user
    (form : CreateForm)
    (department : Option Nat) :
    User where
  username := form.username
  name := form.name
  email := form.email
  phone := form.phone
  position := form.position
  userType := form.userType
  isActive := form.isActive ≠ "false"
  isLocked := form.isActive = "locked"
  isStaff := form.userType = "admin"
  department := department

/- A message that a view leaves for the next page. -/
inductive Message where
  | error (text : String)
  | success (text : String)
  | caught (text : String) (error : AccountError)
  deriving DecidableEq, Repr

/- The key that a number names; no row has another one. -/
def keyOf
    (store : AccountStore)
    (number : Int) :
    Nat :=
  if number < 0 then
    store.departments.nextId
  else
    number.toNat

/- `POST` of `user_create`. -/
def userCreate
    (form : CreateForm) :
    AccountAction (List Message) := fun store =>
  let form := form.stripped
  let errors := createErrors store form
  if errors ≠ [] then
    .ok (errors.map .error) store
  else
    match intOf? form.department with
    | none => .error .valueError store
    | some department =>
        let user := form.user (some (keyOf store department))
        match createUser user store with
        | .error error later =>
            .ok
              [.caught "사용자 등록 중 오류가 발생했습니다: "
                error] later
        | .ok _ later =>
            .ok
              [.success
                ("사용자 \"" ++ form.name ++ "\"(" ++
                  form.username ++
                  ")이 등록되었습니다.")] later

/- The fields of a user after the form, but its department. -/
def EditForm.apply
    (form : EditForm)
    (user : User) :
    User :=
  let status := form.isActive.getD "true"
  let userType := form.userType.getD user.userType
  { user with
    name := strip (form.name.getD user.name)
    email := strip (form.email.getD user.email)
    phone := strip (form.phone.getD user.phone)
    position := strip (form.position.getD user.position)
    userType := userType
    isLocked := status = "locked"
    isActive := status ≠ "false"
    isStaff := userType = "admin" || user.isStaff }

/- `int(dept_id) if dept_id else None`. -/
def EditForm.departmentOf?
    (form : EditForm)
    (store : AccountStore) :
    Option (Option Nat) :=
  let text := form.department.getD ""
  if text = "" then
    some none
  else
    (intOf? text).map fun number =>
      some (keyOf store number)

/- A new password that is not repeated. -/
def EditForm.mismatch
    (form : EditForm) :
    Bool :=
  let password := form.password1.getD ""
  password ≠ "" && password ≠ form.password2.getD ""

/- `POST` of `user_edit`. -/
def userEdit
    (pk : Nat)
    (form : EditForm) :
    AccountAction (List Message) := fun store =>
  match store.users.get? pk with
  | none => .error .notFound store
  | some target =>
      match form.departmentOf? store with
      | none => .error .valueError store
      | some department =>
          let user :=
            { form.apply target with
              department := department }
          if form.mismatch then
            .ok [.error "비밀번호가 일치하지 않습니다."] store
          else
            match saveUser pk user store with
            | .error error later => .error error later
            | .ok _ later =>
                .ok
                  [.success
                    ("\"" ++ user.name ++
                      "\" 정보가 수정되었습니다.")] later

/- `User.objects.filter(pk__in=ids).update(...)`. -/
def AccountStore.moveUsers
    (store : AccountStore)
    (ids : List Int)
    (department : Option Nat) :
    AccountStore :=
  { store with
    users :=
      store.users.updateEach fun id user =>
        if (id : Int) ∈ ids then
          { user with department := department }
        else
          user }

/- How many were sent, as text. -/
def countText
    (texts : List String) :
    String :=
  String.ofList (Nat.toDigits 10 texts.length) ++ "명이 "

/- `POST` of `org_add_members`. -/
def orgAddMembers
    (deptId : String)
    (userIds : List String) :
    AccountAction (List Message) := fun store =>
  if deptId = "" ∨ userIds = [] then
    .ok [.error "대상 부서 또는 구성원을 선택하세요."] store
  else
    match intOf? deptId with
    | none => .error .valueError store
    | some number =>
        let key := keyOf store number
        match store.departments.get? key with
        | none => .error .notFound store
        | some dept =>
            match intsOf? userIds with
            | none => .error .valueError store
            | some ids =>
                .ok
                  [.success
                    (countText userIds ++ dept.name ++
                      "에 추가되었습니다.")]
                  (store.moveUsers ids (some key))

/- `POST` of `org_exclude_members`. -/
def orgExcludeMembers
    (userIds : List String) :
    AccountAction (List Message) := fun store =>
  if userIds = [] then
    .ok [.error "제외할 구성원을 선택하세요."] store
  else
    match intsOf? userIds with
    | none => .error .valueError store
    | some ids =>
        .ok
          [.success
            (countText userIds ++ "소속에서 제외되었습니다.")]
          (store.moveUsers ids none)

/- The department column after a deletion (SET_NULL). -/
def withoutDepartment
    (id : Nat)
    (department : Option Nat) :
    Option Nat :=
  if department = some id then none else department

/- Deletion of a department. -/
def AccountStore.deleteDepartment
    (store : AccountStore)
    (id : Nat) :
    AccountStore where
  departments := store.departments.erase id
  users :=
    store.users.mapRows fun user =>
      { user with
        department :=
          withoutDepartment id user.department }
  workers :=
    store.workers.mapRows fun worker =>
      { worker with
        department :=
          withoutDepartment id worker.department }

/- What is done to users and departments. -/
inductive AccountOp where
  | userCreate (form : CreateForm)
  | userEdit (pk : Nat) (form : EditForm)
  | orgAddMembers (deptId : String) (userIds : List String)
  | orgExcludeMembers (userIds : List String)
  | deleteDepartment (id : Nat)
  deriving DecidableEq, Repr

/- The tables after an operation, returned or raised. -/
def accountStep
    (store : AccountStore) :
    AccountOp → AccountStore
  | .userCreate form => (userCreate form).stateAfter store
  | .userEdit pk form =>
      (userEdit pk form).stateAfter store
  | .orgAddMembers deptId userIds =>
      (orgAddMembers deptId userIds).stateAfter store
  | .orgExcludeMembers userIds =>
      (orgExcludeMembers userIds).stateAfter store
  | .deleteDepartment id => store.deleteDepartment id

end Accounts

end Icmp2
