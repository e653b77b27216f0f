import RvcOrchestrator.Foundation.Requests
import RvcOrchestrator.Manager.Ledger

/-! # Users and their administration

Accounts, access tokens, and the three requests with which administrators change
accounts. Every one of them takes the lifecycle fence, so that its checks and its
changes are one transaction.
-/

namespace RvcOrchestrator.Manager

open RvcOrchestrator.Foundation RvcOrchestrator.Contracts

/-! ## Accounts -/

abbrev UserId := String

inductive UserRole where
  | admin
  | user
deriving DecidableEq, Repr

def UserRole.value : UserRole → String
  | .admin => "admin"
  | .user => "user"

structure User where
  rowVersion : Nat
  email : String
  passwordHash : String
  role : UserRole
  disabled : Bool
  accessTokenVersion : Nat
  createdAt : Time
  updatedAt : Time
deriving DecidableEq

structure AdminUserRead where
  id : UserId
  email : String
  role : UserRole
  active : Bool
  rowVersion : Nat
  createdAt : Time
  updatedAt : Time
deriving DecidableEq

def toRead (userId : UserId) (user : User) : AdminUserRead where
  id := userId
  email := user.email
  role := user.role
  active := !user.disabled
  rowVersion := user.rowVersion
  createdAt := user.createdAt
  updatedAt := user.updatedAt

inductive AdminOperationType where
  | create
  | accessUpdate
  | passwordReset
deriving DecidableEq, Repr

def AdminOperationType.value : AdminOperationType → String
  | .create => "create"
  | .accessUpdate => "access_update"
  | .passwordReset => "password_reset"

/-- The digests that requests are recognised by, and the case folding of the password
policy. -/
structure Secrets (Digest : Type) where
  sha256 : String → Digest
  hmacSha256 : Json → Digest
  casefold : String → String

abbrev AdminUserOperation (Digest : Type) :=
  Recorded AdminOperationType Digest AdminUserRead

structure Accounts (Digest : Type) [DecidableEq Digest] where
  users : Table UserId User
  /-- The idempotency ledger, by actor and digest of the key. -/
  operations : Table (UserId × Digest) (AdminUserOperation Digest)
  revokedTokens : List String
  /-- `lock_version` of the singleton row that serializes lifecycle writes. -/
  fence : Option Nat

/-! ## Access tokens -/

structure AccessTokenClaims where
  subject : UserId
  jti : String
  accessTokenVersion : Nat
deriving DecidableEq

section

variable {Digest : Type} [DecidableEq Digest]

def requireUserAuth (accounts : Accounts Digest) (claims : AccessTokenClaims) :
    Except HttpError User :=
  if claims.jti ∈ accounts.revokedTokens then .error ⟨401, "invalid or expired access token"⟩
  else
    match accounts.users.find? claims.subject with
    | none => .error ⟨401, "invalid or expired access token"⟩
    | some user =>
        if user.disabled = true ∨ user.accessTokenVersion ≠ claims.accessTokenVersion then
          .error ⟨401, "invalid or expired access token"⟩
        else .ok user

def requireAdminUser (accounts : Accounts Digest) (claims : AccessTokenClaims) :
    Except HttpError User :=
  match requireUserAuth accounts claims with
  | .error error => .error error
  | .ok user =>
      if user.role ≠ .admin then .error ⟨403, "administrator role required"⟩ else .ok user

/-! ## Requests of administrators -/

abbrev RowVersion := { version : Nat // 1 ≤ version ∧ version ≤ 2147483647 }

structure AdminUserCreate where
  email : String
  password : String
  role : UserRole
  active : Bool
deriving DecidableEq

structure AdminUserAccessUpdate where
  expectedRowVersion : RowVersion
  role : UserRole
  active : Bool
deriving DecidableEq

structure AdminUserPasswordReset where
  expectedRowVersion : RowVersion
  newPassword : String
deriving DecidableEq

inductive AdminOperation where
  | create (payload : AdminUserCreate)
  | accessUpdate (userId : UserId) (payload : AdminUserAccessUpdate)
  | passwordReset (userId : UserId) (payload : AdminUserPasswordReset)
deriving DecidableEq

namespace AdminOperation

def operationType : AdminOperation → AdminOperationType
  | .create _ => .create
  | .accessUpdate _ _ => .accessUpdate
  | .passwordReset _ _ => .passwordReset

def resourceId : AdminOperation → String
  | .create _ => "new"
  | .accessUpdate userId _ => userId
  | .passwordReset userId _ => userId

def document : AdminOperation → Json
  | .create payload =>
      .object [("email", .str payload.email), ("password", .str payload.password),
        ("role", .str payload.role.value), ("active", .bool payload.active)]
  | .accessUpdate _ payload =>
      .object [("expected_row_version", .int payload.expectedRowVersion.1),
        ("role", .str payload.role.value), ("active", .bool payload.active)]
  | .passwordReset _ payload =>
      .object [("expected_row_version", .int payload.expectedRowVersion.1),
        ("new_password", .str payload.newPassword)]

def canonical (operation : AdminOperation) : Json :=
  .object [("operation_type", .str operation.operationType.value),
    ("resource_id", .str operation.resourceId), ("document", operation.document)]

end AdminOperation

/-- A request, with what it draws and reads while it is handled: the hash of its
password, the identifier of a new user and the clock. -/
structure AdminRequest where
  claims : AccessTokenClaims
  idempotencyKey : String
  operation : AdminOperation
  encodedPassword : String
  newId : UserId
  now : Time
deriving DecidableEq

def AdminRequest.actorId (request : AdminRequest) : UserId := request.claims.subject

def requestFingerprint (secrets : Secrets Digest) (operation : AdminOperation) : Digest :=
  secrets.hmacSha256 operation.canonical

structure AdminUserResponse where
  body : AdminUserRead
  /-- The header `Idempotency-Replayed`. -/
  replayed : Bool
deriving DecidableEq

def trivialPasswords : List String :=
  ["passwordpassword", "administrator", "changemechangeme", "correcthorsebatterystaple"]

def validateManagementPassword (secrets : Secrets Digest) (password email : String) : Bool :=
  let folded := secrets.casefold password
  let localPart := secrets.casefold (String.ofList (email.toList.takeWhile (· ≠ '@')))
  let compact := folded.toList.filter fun character =>
    ('a' ≤ character && character ≤ 'z') || ('0' ≤ character && character ≤ '9')
  decide (16 ≤ password.length) && decide (password.length ≤ 1024) &&
    !(password.toList.any fun character => character.toNat < 32 || character.toNat = 127) &&
    decide (8 ≤ password.toList.dedup.length) &&
    !(decide (3 ≤ localPart.length) && decide (localPart.toList <:+: folded.toList)) &&
    !decide (String.ofList compact ∈ trivialPasswords)

def validateNewPassword (secrets : Secrets Digest) (password email : String) :
    Except HttpError Unit :=
  if validateManagementPassword secrets password email then .ok ()
  else .error ⟨422, "password does not satisfy the administrator password policy"⟩

def idempotencyConflict : HttpError :=
  ⟨409, "idempotency key conflicts with a prior user lifecycle request"⟩

def staleUser : HttpError := ⟨409, "user changed; refresh and retry"⟩

def emailExists : HttpError := ⟨409, "user email already exists"⟩

def administratorRequired : HttpError := ⟨403, "administrator role required"⟩

/-- What the idempotency ledger says about the request. -/
def replayOf (secrets : Secrets Digest) (accounts : Accounts Digest) (request : AdminRequest) :
    Replay AdminUserRead :=
  replay (accounts.operations.find? (request.actorId, secrets.sha256 request.idempotencyKey))
    request.operation.operationType (requestFingerprint secrets request.operation)

/-- The row count of the singleton update, and the actor as it is behind the fence. -/
def lockLifecycleFence (accounts : Accounts Digest) (actorId : UserId) : Except HttpError Nat :=
  match accounts.fence with
  | none => .error ⟨503, "administrator lifecycle fence is unavailable"⟩
  | some lockVersion =>
      match accounts.users.find? actorId with
      | none => .error administratorRequired
      | some actor =>
          if actor.disabled = true ∨ actor.role ≠ .admin then .error administratorRequired
          else .ok (lockVersion + 1)

def lockedUser (users : Table UserId User) (userId : UserId) : Except HttpError User :=
  match users.find? userId with
  | none => .error ⟨404, "user not found"⟩
  | some user => .ok user

abbrev UserChange := Except HttpError (AdminUserRead × Table UserId User)

/-- The statements of `create_user` behind the fence. -/
def insertUser (users : Table UserId User) (payload : AdminUserCreate) (encodedPassword : String)
    (newId : UserId) (now : Time) : UserChange :=
  if users.rows.any fun row => row.2.email = payload.email then .error emailExists
  else if fresh : users.find? newId = none then
    let user : User :=
      { rowVersion := 1
        email := payload.email
        passwordHash := encodedPassword
        role := payload.role
        disabled := !payload.active
        accessTokenVersion := 1
        createdAt := now
        updatedAt := now }
    .ok (toRead newId user, users.insert newId user fresh)
  else .error emailExists

def User.isActiveAdmin (user : User) : Bool := user.role = .admin && !user.disabled

def activeAdminCount (users : Table UserId User) : Nat :=
  (users.rows.filter fun row => row.2.isActiveAdmin).length

/-- The statements of `update_user_access` behind the fence. -/
def changeAccess (users : Table UserId User) (actorId userId : UserId)
    (payload : AdminUserAccessUpdate) (now : Time) : UserChange :=
  match lockedUser users userId with
  | .error error => .error error
  | .ok user =>
      let desiredDisabled := !payload.active
      if user.rowVersion ≠ payload.expectedRowVersion.1 then .error staleUser
      else if userId = actorId ∧ (payload.role ≠ .admin ∨ desiredDisabled = true) then
        .error ⟨409, "administrators cannot disable or demote their own account"⟩
      else if user.isActiveAdmin = true ∧ (payload.role ≠ .admin ∨ desiredDisabled = true) ∧
          activeAdminCount users ≤ 1 then
        .error ⟨409, "at least one active administrator is required"⟩
      else if user.role ≠ payload.role ∨ user.disabled ≠ desiredDisabled then
        let changed : User :=
          { user with
            rowVersion := user.rowVersion + 1
            role := payload.role
            disabled := desiredDisabled
            accessTokenVersion := user.accessTokenVersion + 1
            updatedAt := now }
        .ok (toRead userId changed, users.modify userId fun _ => changed)
      else .ok (toRead userId user, users)

/-- The statements of `reset_user_password` behind the fence. -/
def changePassword (secrets : Secrets Digest) (users : Table UserId User) (userId : UserId)
    (payload : AdminUserPasswordReset) (encodedPassword : String) (now : Time) : UserChange :=
  match lockedUser users userId with
  | .error error => .error error
  | .ok user =>
      if user.rowVersion ≠ payload.expectedRowVersion.1 then .error staleUser
      else
        match validateNewPassword secrets payload.newPassword user.email with
        | .error error => .error error
        | .ok () =>
            let changed : User :=
              { user with
                rowVersion := user.rowVersion + 1
                passwordHash := encodedPassword
                accessTokenVersion := user.accessTokenVersion + 1
                updatedAt := now }
            .ok (toRead userId changed, users.modify userId fun _ => changed)

def userChange (secrets : Secrets Digest) (users : Table UserId User) (request : AdminRequest) :
    UserChange :=
  match request.operation with
  | .create payload =>
      insertUser users payload request.encodedPassword request.newId request.now
  | .accessUpdate userId payload =>
      changeAccess users request.actorId userId payload request.now
  | .passwordReset userId payload =>
      changePassword secrets users userId payload request.encodedPassword request.now

abbrev AdminAnswer := Except HttpError AdminUserResponse

/-- The transaction of a request: fence, replay, change, record. Whatever raises is
rolled back. -/
def administer (secrets : Secrets Digest) (request : AdminRequest) (accounts : Accounts Digest) :
    AdminAnswer × Accounts Digest :=
  match lockLifecycleFence accounts request.actorId with
  | .error error => (.error error, accounts)
  | .ok fence =>
      match replayed : replayOf secrets accounts request with
      | .conflict => (.error idempotencyConflict, accounts)
      | .again response => (.ok ⟨response, true⟩, accounts)
      | .fresh =>
          match userChange secrets accounts.users request with
          | .error error => (.error error, accounts)
          | .ok (result, users) =>
              (.ok ⟨result, false⟩,
                { accounts with
                  users := users
                  fence := some fence
                  operations := accounts.operations.insert
                    (request.actorId, secrets.sha256 request.idempotencyKey)
                    ⟨request.operation.operationType,
                      requestFingerprint secrets request.operation, result⟩
                    (replay_eq_fresh_iff.mp replayed) })

/-! ## The reads before the fence -/

abbrev AdminRead (Digest : Type) [DecidableEq Digest] :=
  Accounts Digest → Unit → Except AdminAnswer Unit

def authenticate (request : AdminRequest) : AdminRead Digest := fun accounts _ =>
  match requireAdminUser accounts request.claims with
  | .error error => .error (.error error)
  | .ok _ => .ok ()

def replayOrNone (secrets : Secrets Digest) (request : AdminRequest) : AdminRead Digest :=
  fun accounts _ =>
    match replayOf secrets accounts request with
    | .conflict => .error (.error idempotencyConflict)
    | .again response => .error (.ok ⟨response, true⟩)
    | .fresh => .ok ()

def checkNewPassword (secrets : Secrets Digest) (password email : String) :
    Except AdminAnswer Unit :=
  match validateNewPassword secrets password email with
  | .error error => .error (.error error)
  | .ok () => .ok ()

def readUnlockedUser (secrets : Secrets Digest) (userId : UserId) (password : String) :
    AdminRead Digest := fun accounts _ =>
  match lockedUser accounts.users userId with
  | .error error => .error (.error error)
  | .ok user => checkNewPassword secrets password user.email

def adminReads (secrets : Secrets Digest) (request : AdminRequest) : List (AdminRead Digest) :=
  match request.operation with
  | .create payload =>
      [authenticate request, replayOrNone secrets request,
        fun _ _ => checkNewPassword secrets payload.password payload.email]
  | .accessUpdate _ _ => [authenticate request, replayOrNone secrets request]
  | .passwordReset userId payload =>
      [authenticate request, replayOrNone secrets request,
        readUnlockedUser secrets userId payload.newPassword]

/-- Logging out revokes a token that authenticates. -/
def logout (claims : AccessTokenClaims) (accounts : Accounts Digest) : Accounts Digest :=
  match requireUserAuth accounts claims with
  | .error _ => accounts
  | .ok _ => { accounts with revokedTokens := accounts.revokedTokens ++ [claims.jti] }

def administration (secrets : Secrets Digest) :
    Service (Accounts Digest) AdminRequest Unit AdminAnswer AccessTokenClaims where
  start _ := ()
  reads := adminReads secrets
  commit request _ := administer secrets request
  disturb := logout

/-- The accounts after `bootstrap_admin`. -/
def Accounts.bootstrapped (userId : UserId) (email passwordHash : String) (now : Time) :
    Accounts Digest where
  users := Table.empty.insert userId
    { rowVersion := 1
      email := email
      passwordHash := passwordHash
      role := .admin
      disabled := false
      accessTokenVersion := 1
      createdAt := now
      updatedAt := now } rfl
  operations := Table.empty
  revokedTokens := []
  fence := some 1

end

end RvcOrchestrator.Manager
