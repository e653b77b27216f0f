import RvcOrchestrator.Manager.Accounts

/-! # What administrators' requests keep

There is always an active administrator, a token's version fences every change of its
user, and a request that is sent again changes nothing.
-/

namespace RvcOrchestrator.Manager

open RvcOrchestrator.Foundation RvcOrchestrator.Contracts

section

variable {Digest : Type} {secrets : Secrets Digest} {request : AdminRequest}

/-! ## What a change does to the users -/

def ActiveAdministrator (users : Table UserId User) (userId : UserId) : Prop :=
  ∃ user, users.find? userId = some user ∧ user.isActiveAdmin = true

instance (users : Table UserId User) (userId : UserId) :
    Decidable (ActiveAdministrator users userId) :=
  decidable_of_iff ((users.find? userId).any User.isActiveAdmin = true) (by
    cases found : users.find? userId <;> simp [ActiveAdministrator, found])

/-- The version of a user's tokens never decreases, and increases with every change of
the role, the active flag or the password. -/
def TokensFenced (before after : Table UserId User) : Prop :=
  ∀ userId user, before.find? userId = some user →
    ∃ later, after.find? userId = some later ∧
      user.accessTokenVersion ≤ later.accessTokenVersion ∧
      (user.role ≠ later.role ∨ user.disabled ≠ later.disabled ∨
        user.passwordHash ≠ later.passwordHash →
          user.accessTokenVersion < later.accessTokenVersion)

theorem TokensFenced.refl (users : Table UserId User) : TokensFenced users users := by
  intro userId user found
  refine ⟨user, found, le_rfl, ?_⟩
  rintro (different | different | different)
  · exact absurd rfl different
  · exact absurd rfl different
  · exact absurd rfl different

theorem TokensFenced.trans {first second third : Table UserId User}
    (left : TokensFenced first second) (right : TokensFenced second third) :
    TokensFenced first third := by
  intro userId user found
  rcases left userId user found with ⟨middle, middleFound, atMost, raised⟩
  rcases right userId middle middleFound with ⟨later, laterFound, atMostLater, raisedLater⟩
  refine ⟨later, laterFound, atMost.trans atMostLater, ?_⟩
  intro different
  by_cases changed : user.role ≠ middle.role ∨ user.disabled ≠ middle.disabled ∨
      user.passwordHash ≠ middle.passwordHash
  · exact (raised changed).trans_le atMostLater
  · simp only [ne_eq, not_or, Decidable.not_not] at changed
    rw [changed.1, changed.2.1, changed.2.2] at different
    exact atMost.trans_lt (raisedLater different)

theorem TokensFenced.insert (users : Table UserId User) {newId : UserId} (user : User)
    (fresh : users.find? newId = none) : TokensFenced users (users.insert newId user fresh) := by
  intro userId old found
  rcases TokensFenced.refl users userId old found with ⟨later, laterFound, versions⟩
  exact ⟨later, Table.find?_insert_of_some users newId user fresh laterFound, versions⟩

theorem TokensFenced.modify {users : Table UserId User} {target : UserId} {user changed : User}
    (found : users.find? target = some user)
    (raised : changed.accessTokenVersion = user.accessTokenVersion + 1) :
    TokensFenced users (users.modify target fun _ => changed) := by
  intro userId old oldFound
  by_cases same : userId = target
  · subst same
    rw [found] at oldFound
    injection oldFound with same
    subst same
    have changedFound := Table.find?_modify_of_some users userId (fun _ => changed) found
    rw [if_pos rfl] at changedFound
    exact ⟨changed, changedFound, by omega, fun _ => by omega⟩
  · rcases TokensFenced.refl users userId old oldFound with ⟨later, laterFound, versions⟩
    exact ⟨later, (Table.find?_modify_of_ne users target _ same).trans laterFound, versions⟩

/-- A change is one of three: a new user, an answer that changes nothing, or one user's
row with a raised token version. The acting administrator stays one. -/
theorem userChange_cases {users after : Table UserId User} {result : AdminUserRead}
    (accepted : userChange secrets users request = .ok (result, after)) :
    (∃ user fresh, after = users.insert request.newId user fresh) ∨ after = users ∨
      ∃ target user changed, users.find? target = some user ∧
        changed.accessTokenVersion = user.accessTokenVersion + 1 ∧
        (target = request.actorId → user.isActiveAdmin = true → changed.isActiveAdmin = true) ∧
        after = users.modify target fun _ => changed := by
  unfold userChange at accepted
  split at accepted
  · simp only [insertUser] at accepted
    split at accepted
    · cases accepted
    · split at accepted
      · next fresh =>
          injection accepted with accepted
          injection accepted with _ changed
          exact .inl ⟨_, fresh, changed.symm⟩
      · cases accepted
  · next userId payload _ =>
      simp only [changeAccess, lockedUser] at accepted
      split at accepted
      · cases accepted
      · next user found =>
          split at found
          · cases found
          · next stored =>
              injection found with same
              subst same
              split at accepted
              · cases accepted
              · split at accepted
                · cases accepted
                · next notSelf =>
                    split at accepted
                    · cases accepted
                    · split at accepted
                      · injection accepted with accepted
                        injection accepted with _ changed
                        refine .inr (.inr ⟨userId, _, _, stored, rfl, ?_, changed.symm⟩)
                        intro self _
                        rw [not_and, not_or, ne_eq, Decidable.not_not] at notSelf
                        have kept := notSelf self
                        simp [User.isActiveAdmin, kept.1, kept.2]
                      · injection accepted with accepted
                        injection accepted with _ changed
                        exact .inr (.inl changed.symm)
  · next userId payload _ =>
      simp only [changePassword, lockedUser] at accepted
      split at accepted
      · cases accepted
      · next user found =>
          split at found
          · cases found
          · next stored =>
              injection found with same
              subst same
              split at accepted
              · cases accepted
              · split at accepted
                · cases accepted
                · injection accepted with accepted
                  injection accepted with _ changed
                  refine .inr (.inr ⟨userId, _, _, stored, rfl, ?_, changed.symm⟩)
                  intro _ active
                  exact active

theorem tokensFenced_of_userChange {users after : Table UserId User} {result : AdminUserRead}
    (accepted : userChange secrets users request = .ok (result, after)) :
    TokensFenced users after := by
  rcases userChange_cases accepted with
    ⟨user, fresh, rfl⟩ | rfl | ⟨target, user, changed, found, raised, -, rfl⟩
  · exact TokensFenced.insert users user fresh
  · exact TokensFenced.refl _
  · exact TokensFenced.modify found raised

theorem activeAdministrator_of_userChange {users after : Table UserId User}
    {result : AdminUserRead}
    (accepted : userChange secrets users request = .ok (result, after))
    (acting : ActiveAdministrator users request.actorId) :
    ActiveAdministrator after request.actorId := by
  rcases acting with ⟨actor, found, active⟩
  rcases userChange_cases accepted with
    ⟨user, fresh, rfl⟩ | rfl | ⟨target, user, changed, targetFound, -, stays, rfl⟩
  · exact ⟨actor, Table.find?_insert_of_some users _ user fresh found, active⟩
  · exact ⟨actor, found, active⟩
  · by_cases self : target = request.actorId
    · subst self
      rw [targetFound] at found
      injection found with same
      subst same
      have changedFound := Table.find?_modify_of_some users request.actorId (fun _ => changed)
        targetFound
      rw [if_pos rfl] at changedFound
      exact ⟨changed, changedFound, stays rfl active⟩
    · have kept := Table.find?_modify_of_ne users target (fun _ => changed) (Ne.symm self)
      exact ⟨actor, kept.trans found, active⟩

/-! ## Transactions -/

variable [DecidableEq Digest] {accounts : Accounts Digest}

theorem activeAdministrator_of_lockLifecycleFence {fence : Nat}
    (locked : lockLifecycleFence accounts request.actorId = .ok fence) :
    ActiveAdministrator accounts.users request.actorId := by
  unfold lockLifecycleFence at locked
  split at locked
  · cases locked
  · split at locked
    · cases locked
    · next actor found =>
        split at locked
        · cases locked
        · next active =>
            rw [not_or, ne_eq, Decidable.not_not] at active
            refine ⟨actor, found, ?_⟩
            simp [User.isActiveAdmin, active.1, active.2]

/-- A transaction that changes anything acts for an active administrator, makes one
change of the users and records its answer under a key that was free. -/
theorem administer_cases (secrets : Secrets Digest) (request : AdminRequest)
    (accounts : Accounts Digest) :
    (administer secrets request accounts).2 = accounts ∨
      ∃ result users fence fresh,
        ActiveAdministrator accounts.users request.actorId ∧
        userChange secrets accounts.users request = .ok (result, users) ∧
        administer secrets request accounts = (.ok ⟨result, false⟩,
          { accounts with
            users := users
            fence := some fence
            operations := accounts.operations.insert
              (request.actorId, secrets.sha256 request.idempotencyKey)
              ⟨request.operation.operationType,
                requestFingerprint secrets request.operation, result⟩ fresh }) := by
  unfold administer
  split
  · exact .inl rfl
  · next fence locked =>
      split
      · exact .inl rfl
      · exact .inl rfl
      · next fresh =>
          split
          · exact .inl rfl
          · next result users accepted =>
              exact .inr ⟨result, users, fence, replay_eq_fresh_iff.mp fresh,
                activeAdministrator_of_lockLifecycleFence locked, accepted, rfl⟩

theorem administer_tokensFenced (secrets : Secrets Digest) (request : AdminRequest)
    (accounts : Accounts Digest) :
    TokensFenced accounts.users (administer secrets request accounts).2.users := by
  rcases administer_cases secrets request accounts with
    same | ⟨result, users, fence, fresh, -, accepted, done⟩
  · rw [same]
    exact TokensFenced.refl _
  · rw [done]
    exact tokensFenced_of_userChange accepted

/-- Records stay. -/
theorem administer_recorded (secrets : Secrets Digest) (other : AdminRequest)
    {key : UserId × Digest} {record : AdminUserOperation Digest}
    (found : accounts.operations.find? key = some record) :
    (administer secrets other accounts).2.operations.find? key = some record := by
  rcases administer_cases secrets other accounts with
    same | ⟨result, users, fence, fresh, -, -, done⟩
  · rw [same]
    exact found
  · rw [done]
    exact Table.find?_insert_of_some _ _ _ fresh found

/-! ## Requests that are sent again -/

theorem operationType_value_injective : Function.Injective AdminOperationType.value := by
  intro left right same
  cases left <;> cases right <;> first | rfl | exact absurd same (by decide)

theorem role_value_injective : Function.Injective UserRole.value := by
  intro left right same
  cases left <;> cases right <;> first | rfl | exact absurd same (by decide)

/-- The fingerprinted document determines the request. -/
theorem canonical_injective : Function.Injective AdminOperation.canonical := by
  intro left right same
  simp only [AdminOperation.canonical, Json.object.injEq, List.cons.injEq, Prod.mk.injEq,
    true_and, and_true, Json.str.injEq] at same
  rcases same with ⟨sameType, sameResource, sameDocument⟩
  have sameType := operationType_value_injective sameType
  cases left <;> cases right <;> try cases sameType
  case create.create payload other =>
      rcases payload with ⟨email, password, role, active⟩
      rcases other with ⟨otherEmail, otherPassword, otherRole, otherActive⟩
      simp only [AdminOperation.document, Json.object.injEq, List.cons.injEq, Prod.mk.injEq,
        true_and, and_true, Json.str.injEq, Json.bool.injEq] at sameDocument
      rcases sameDocument with ⟨rfl, rfl, sameRole, rfl⟩
      rw [role_value_injective sameRole]
  case accessUpdate.accessUpdate userId payload otherId other =>
      rcases payload with ⟨⟨version, _⟩, role, active⟩
      rcases other with ⟨⟨otherVersion, _⟩, otherRole, otherActive⟩
      simp only [AdminOperation.document, Json.object.injEq, List.cons.injEq, Prod.mk.injEq,
        true_and, and_true, Json.str.injEq, Json.int.injEq, Json.bool.injEq,
        Int.natCast_inj] at sameDocument
      rcases sameDocument with ⟨rfl, sameRole, rfl⟩
      rw [role_value_injective sameRole, show userId = otherId from sameResource]
  case passwordReset.passwordReset userId payload otherId other =>
      rcases payload with ⟨⟨version, _⟩, password⟩
      rcases other with ⟨⟨otherVersion, _⟩, otherPassword⟩
      simp only [AdminOperation.document, Json.object.injEq, List.cons.injEq, Prod.mk.injEq,
        true_and, and_true, Json.str.injEq, Json.int.injEq, Int.natCast_inj] at sameDocument
      rcases sameDocument with ⟨rfl, rfl⟩
      rw [show userId = otherId from sameResource]

def CarriedOut (secrets : Secrets Digest) (accounts : Accounts Digest) (request : AdminRequest)
    (body : AdminUserRead) : Prop :=
  accounts.operations.find? (request.actorId, secrets.sha256 request.idempotencyKey) =
    some ⟨request.operation.operationType, requestFingerprint secrets request.operation, body⟩

/-- The request is answered with `body` and changes nothing, also if it has already
passed its own replay check. Only an actor who has been demoted or disabled is refused. -/
structure Replays (secrets : Secrets Digest) (accounts : Accounts Digest)
    (request : AdminRequest) (body : AdminUserRead) : Prop where
  read : replayOrNone secrets request accounts () = .error (.ok ⟨body, true⟩)
  unchanged : (administer secrets request accounts).2 = accounts
  answer : (administer secrets request accounts).1 = .ok ⟨body, true⟩ ∨
    ¬ActiveAdministrator accounts.users request.actorId ∧
      (administer secrets request accounts).1 = .error administratorRequired

/-- The key belongs to another request, and this one is refused without effect. -/
structure Refused (secrets : Secrets Digest) (accounts : Accounts Digest)
    (request : AdminRequest) : Prop where
  read : replayOrNone secrets request accounts () = .error (.error idempotencyConflict)
  unchanged : (administer secrets request accounts).2 = accounts
  answer : (administer secrets request accounts).1 = .error idempotencyConflict ∨
    ¬ActiveAdministrator accounts.users request.actorId ∧
      (administer secrets request accounts).1 = .error administratorRequired

theorem lockLifecycleFence_cases (present : accounts.fence.isSome = true) (actorId : UserId) :
    (∃ fence, lockLifecycleFence accounts actorId = .ok fence) ∨
      ¬ActiveAdministrator accounts.users actorId ∧
        lockLifecycleFence accounts actorId = .error administratorRequired := by
  rcases Option.isSome_iff_exists.mp present with ⟨lockVersion, locked⟩
  rcases found : accounts.users.find? actorId with _ | actor
  · refine .inr ⟨?_, by simp only [lockLifecycleFence, locked, found]⟩
    rintro ⟨user, stored, -⟩
    rw [found] at stored
    cases stored
  · by_cases refused : actor.disabled = true ∨ actor.role ≠ .admin
    · refine .inr ⟨?_, by simp only [lockLifecycleFence, locked, found, if_pos refused]⟩
      rintro ⟨user, stored, active⟩
      rw [found] at stored
      injection stored with same
      subst same
      simp only [User.isActiveAdmin, Bool.and_eq_true, decide_eq_true_eq, Bool.not_eq_true'] at active
      rcases refused with disabled | demoted
      · rw [active.2] at disabled
        cases disabled
      · exact demoted active.1
    · exact .inl ⟨lockVersion + 1, by simp only [lockLifecycleFence, locked, found, if_neg refused]⟩

theorem Replays.of_carriedOut (present : accounts.fence.isSome = true) {body : AdminUserRead}
    (carriedOut : CarriedOut secrets accounts request body) :
    Replays secrets accounts request body := by
  have again : replayOf secrets accounts request = .again body :=
    replay_eq_again_iff.mpr carriedOut
  have read : replayOrNone secrets request accounts () = .error (.ok ⟨body, true⟩) := by
    simp only [replayOrNone, again]
  rcases lockLifecycleFence_cases present request.actorId with ⟨fence, locked⟩ | ⟨removed, locked⟩
  · have done : administer secrets request accounts = (.ok ⟨body, true⟩, accounts) := by
      unfold administer
      rw [locked]
      simp only
      split
      · next conflict => cases again.symm.trans conflict
      · next other =>
          injection again.symm.trans other with same
          rw [same]
      · next fresh => cases again.symm.trans fresh
    exact ⟨read, by rw [done], .inl (by rw [done])⟩
  · have done : administer secrets request accounts =
        (.error administratorRequired, accounts) := by
      rw [administer, locked]
    exact ⟨read, by rw [done], .inr ⟨removed, by rw [done]⟩⟩

theorem Refused.of_conflict (present : accounts.fence.isSome = true)
    (conflict : replayOf secrets accounts request = .conflict) :
    Refused secrets accounts request := by
  have read : replayOrNone secrets request accounts () = .error (.error idempotencyConflict) := by
    simp only [replayOrNone, conflict]
  rcases lockLifecycleFence_cases present request.actorId with ⟨fence, locked⟩ | ⟨removed, locked⟩
  · have done : administer secrets request accounts = (.error idempotencyConflict, accounts) := by
      unfold administer
      rw [locked]
      simp only
      split
      · rfl
      · next again => cases conflict.symm.trans again
      · next fresh => cases conflict.symm.trans fresh
    exact ⟨read, by rw [done], .inl (by rw [done])⟩
  · have done : administer secrets request accounts =
        (.error administratorRequired, accounts) := by
      rw [administer, locked]
    exact ⟨read, by rw [done], .inr ⟨removed, by rw [done]⟩⟩

/-! ## Runs -/

theorem logout_eq (claims : AccessTokenClaims) (accounts : Accounts Digest) :
    ∃ revokedTokens, logout claims accounts = { accounts with revokedTokens := revokedTokens } := by
  unfold logout
  split
  · exact ⟨accounts.revokedTokens, rfl⟩
  · exact ⟨_, rfl⟩

def Governed (accounts : Accounts Digest) : Prop :=
  accounts.fence.isSome = true ∧ ∃ userId, ActiveAdministrator accounts.users userId

theorem Governed.administer (governed : Governed accounts) (request : AdminRequest) :
    Governed (administer secrets request accounts).2 := by
  rcases administer_cases secrets request accounts with
    same | ⟨result, users, fence, fresh, acting, accepted, done⟩
  · rw [same]
    exact governed
  · rw [done]
    exact ⟨rfl, request.actorId, activeAdministrator_of_userChange accepted acting⟩

theorem Governed.logout (governed : Governed accounts) (claims : AccessTokenClaims) :
    Governed (logout claims accounts) := by
  rcases logout_eq claims accounts with ⟨revokedTokens, left⟩
  rw [left]
  exact governed

theorem governed_bootstrapped (userId : UserId) (email passwordHash : String) (now : Time) :
    Governed (.bootstrapped userId email passwordHash now : Accounts Digest) :=
  ⟨rfl, userId, _, Table.find?_insert_self _ _ _ rfl, rfl⟩

theorem carriedOut_of_administer {response : AdminUserResponse}
    (answered : (administer secrets request accounts).1 = .ok response) :
    CarriedOut secrets (administer secrets request accounts).2 request response.body := by
  unfold administer at answered ⊢
  split at answered
  · cases answered
  · split at answered
    · cases answered
    · next body again =>
        injection answered with same
        subst same
        exact replay_eq_again_iff.mp again
    · next fresh =>
        split at answered
        · cases answered
        · injection answered with same
          subst same
          exact Table.find?_insert_self _ _ _ (replay_eq_fresh_iff.mp fresh)

/-- Only the replay check answers before the fence with a user. -/
theorem carriedOut_of_read {read : AdminRead Digest} (member : read ∈ adminReads secrets request)
    {response : AdminUserResponse} (answered : read accounts () = .error (.ok response)) :
    CarriedOut secrets accounts request response.body := by
  have checked : ∀ password email, checkNewPassword secrets password email ≠
      .error (.ok response) := by
    intro password email
    unfold checkNewPassword
    split <;> simp
  have authenticated : authenticate request accounts () ≠ .error (.ok response) := by
    unfold authenticate
    split <;> simp
  have unlocked : ∀ userId password, readUnlockedUser secrets userId password accounts () ≠
      .error (.ok response) := by
    intro userId password
    unfold readUnlockedUser
    split
    · simp
    · exact checked _ _
  have replayed : replayOrNone secrets request accounts () = .error (.ok response) →
      CarriedOut secrets accounts request response.body := by
    intro replayed
    unfold replayOrNone at replayed
    split at replayed
    · cases replayed
    · next body again =>
        injection replayed with same
        injection same with same
        subst same
        exact replay_eq_again_iff.mp again
    · cases replayed
  unfold adminReads at member
  split at member <;>
    simp only [List.mem_cons, List.not_mem_nil, or_false] at member
  · rcases member with rfl | rfl | rfl
    · exact absurd answered authenticated
    · exact replayed answered
    · exact absurd answered (checked _ _)
  · rcases member with rfl | rfl
    · exact absurd answered authenticated
    · exact replayed answered
  · rcases member with rfl | rfl | rfl
    · exact absurd answered authenticated
    · exact replayed answered
    · exact absurd answered (unlocked _ _)

theorem carriedOut_run (secrets : Secrets Digest) (userId : UserId) (email passwordHash : String)
    (now : Time) (events : List (Service.Event AdminRequest AccessTokenClaims)) :
    let serving := run (administration secrets).step
      (.initial (.bootstrapped userId email passwordHash now)) events
    ∀ request response, (request, .ok response) ∈ serving.answers →
      CarriedOut secrets serving.state request response.body := by
  intro serving request response member
  have all := (administration secrets).run_answers Governed
    (fun accounts request answer => ∀ response, answer = .ok response →
      CarriedOut secrets accounts request response.body)
    (fun request _ _ governed => governed.administer request)
    (fun claims _ governed => governed.logout claims)
    (fun other _ _ _ _ _ holds response answered =>
      administer_recorded secrets other (holds response answered))
    (fun claims accounts _ _ _ holds response answered => by
      rcases logout_eq claims accounts with ⟨revokedTokens, left⟩
      have carriedOut := holds response answered
      simp only [administration, left]
      exact carriedOut)
    (fun _ _ _ _ _ answered => carriedOut_of_administer answered)
    (fun _ _ member _ _ _ _ refused _ answered => carriedOut_of_read member (answered ▸ refused))
    (.bootstrapped userId email passwordHash now)
    (governed_bootstrapped userId email passwordHash now) events
  exact all _ member response rfl

theorem tokensFenced_step (secrets : Secrets Digest)
    (serving : Service.Serving (Accounts Digest) AdminRequest Unit AdminAnswer)
    (event : Service.Event AdminRequest AccessTokenClaims) :
    TokensFenced serving.state.users ((administration secrets).step serving event).state.users := by
  rcases (administration secrets).step_cases serving event with
    ⟨same, -⟩ | ⟨_, _, _, -, -, same, -⟩ | ⟨_, request, _, -, -, changed, -⟩ |
      ⟨claims, -, changed, -⟩
  · rw [same]
    exact TokensFenced.refl _
  · rw [same]
    exact TokensFenced.refl _
  · rw [changed]
    exact administer_tokensFenced secrets request serving.state
  · rcases logout_eq claims serving.state with ⟨revokedTokens, left⟩
    rw [changed, show (administration secrets).disturb claims serving.state = _ from left]
    exact TokensFenced.refl _

theorem tokensFenced_run (secrets : Secrets Digest)
    (serving : Service.Serving (Accounts Digest) AdminRequest Unit AdminAnswer)
    (events : List (Service.Event AdminRequest AccessTokenClaims)) :
    TokensFenced serving.state.users
      (run (administration secrets).step serving events).state.users := by
  refine run_preserves
    (fun later : Service.Serving (Accounts Digest) AdminRequest Unit AdminAnswer =>
      TokensFenced serving.state.users later.state.users) ?_ (TokensFenced.refl _) events
  intro later event fenced
  exact fenced.trans (tokensFenced_step secrets later event)

/-- Whatever changes users or records acts for an active administrator. -/
theorem activeAdministrator_of_step (secrets : Secrets Digest)
    (serving : Service.Serving (Accounts Digest) AdminRequest Unit AdminAnswer)
    (event : Service.Event AdminRequest AccessTokenClaims)
    (changes : ((administration secrets).step serving event).state.users ≠ serving.state.users ∨
      ((administration secrets).step serving event).state.operations ≠
        serving.state.operations) :
    ∃ place request, event = .proceed place ∧ Service.Commits serving place request () ∧
      ActiveAdministrator serving.state.users request.actorId := by
  rcases (administration secrets).step_cases serving event with
    ⟨same, -⟩ | ⟨_, _, _, -, -, same, -⟩ | ⟨place, request, _, isProceed, commits, changed, -⟩ |
      ⟨claims, -, changed, -⟩
  · rw [same] at changes
    exact absurd changes (by simp)
  · rw [same] at changes
    exact absurd changes (by simp)
  · refine ⟨place, request, isProceed, commits, ?_⟩
    rcases administer_cases secrets request serving.state with
      same | ⟨_, _, _, _, acting, -, -⟩
    · rw [changed, show (administration secrets).commit request () serving.state =
        administer secrets request serving.state from rfl, same] at changes
      exact absurd changes (by simp)
    · exact acting
  · rcases logout_eq claims serving.state with ⟨revokedTokens, left⟩
    rw [changed, show (administration secrets).disturb claims serving.state = _ from left] at changes
    exact absurd changes (by simp)

/-- Two requests of one actor under one key are the same request if both were carried
out. -/
theorem CarriedOut.agree (collisionFree : Function.Injective secrets.hmacSha256)
    {other : AdminRequest} {body otherBody : AdminUserRead}
    (sameActor : other.actorId = request.actorId)
    (sameKey : other.idempotencyKey = request.idempotencyKey)
    (carriedOut : CarriedOut secrets accounts request body)
    (otherCarriedOut : CarriedOut secrets accounts other otherBody) :
    other.operation = request.operation ∧ otherBody = body := by
  rw [CarriedOut, sameActor, sameKey, show accounts.operations.find? _ = _ from carriedOut]
    at otherCarriedOut
  injection otherCarriedOut with same
  injection same with _ sameFingerprint sameBody
  exact ⟨(canonical_injective (collisionFree sameFingerprint)).symm, sameBody.symm⟩

/-- For every interleaving of requests by any administrators: there is an active
administrator; token versions fence every change; only active administrators change
anything; and a request that is sent again is answered as before without effect, while
another request under its key is refused without effect. -/
theorem administration_safe (secrets : Secrets Digest)
    (collisionFree : Function.Injective secrets.hmacSha256) (userId : UserId)
    (email passwordHash : String) (now : Time)
    (events : List (Service.Event AdminRequest AccessTokenClaims)) :
    let serving := run (administration secrets).step
      (.initial (.bootstrapped userId email passwordHash now)) events
    (∃ administrator, ActiveAdministrator serving.state.users administrator) ∧
    (∀ later, TokensFenced serving.state.users
      (run (administration secrets).step serving later).state.users) ∧
    (∀ event, ((administration secrets).step serving event).state.users ≠ serving.state.users ∨
        ((administration secrets).step serving event).state.operations ≠
          serving.state.operations →
      ∃ place request, event = .proceed place ∧ Service.Commits serving place request () ∧
        ActiveAdministrator serving.state.users request.actorId) ∧
    ∀ first response, (first, .ok response) ∈ serving.answers →
      ∀ request : AdminRequest, request.actorId = first.actorId →
        request.idempotencyKey = first.idempotencyKey →
        (request.operation = first.operation →
          Replays secrets serving.state request response.body) ∧
        (request.operation ≠ first.operation → Refused secrets serving.state request) ∧
        ∀ later, (request, .ok later) ∈ serving.answers →
          request.operation = first.operation ∧ later.body = response.body := by
  intro serving
  have governed : Governed serving.state :=
    (administration secrets).run_state_preserves Governed
      (fun request _ _ governed => governed.administer request)
      (fun claims _ governed => governed.logout claims)
      (governed_bootstrapped userId email passwordHash now) events
  have carriedOut := carriedOut_run secrets userId email passwordHash now events
  refine ⟨governed.2, tokensFenced_run secrets serving,
    activeAdministrator_of_step secrets serving, ?_⟩
  intro first response answered request sameActor sameKey
  have done : CarriedOut secrets serving.state first response.body :=
    carriedOut first response answered
  refine ⟨?_, ?_, ?_⟩
  · intro sameOperation
    apply Replays.of_carriedOut governed.1
    rw [CarriedOut, sameActor, sameKey, sameOperation]
    exact done
  · intro different
    apply Refused.of_conflict governed.1
    rw [replayOf, sameActor, sameKey, show serving.state.operations.find? _ = _ from done, replay,
      if_pos]
    refine .inr fun same => different ?_
    exact (canonical_injective (collisionFree same)).symm
  · intro later laterAnswered
    exact done.agree collisionFree sameActor sameKey (carriedOut request later laterAnswered)

end

/-! ## An administrator who is demoted and restored -/

def RemovedEarlier {Digest : Type} [DecidableEq Digest] (secrets : Secrets Digest)
    (accounts : Accounts Digest) (events : List (Service.Event AdminRequest AccessTokenClaims))
    (userId : UserId) : Prop :=
  ∃ front event back, events = front ++ event :: back ∧
    ActiveAdministrator (run (administration secrets).step (.initial accounts) front).state.users
      userId ∧
    ¬ActiveAdministrator
      ((administration secrets).step (run (administration secrets).step (.initial accounts) front)
        event).state.users userId

/-- Digests that are the digested document. -/
def sampleSecrets : Secrets Json where
  sha256 := .str
  hmacSha256 := id
  casefold := id

def sampleAccounts : Accounts Json := .bootstrapped "ada" "ada@rvc.example" "hash-1" 0

def sampleCreate (email : String) (role : UserRole) : AdminOperation :=
  .create ⟨email, "orange-kettle-42-violin", role, true⟩

def sampleAccess (version : RowVersion) (role : UserRole) : AdminOperation :=
  .accessUpdate "ada" ⟨version, role, true⟩

def sampleAdminRequest (actor : UserId) (tokenVersion : Nat) (key : String)
    (operation : AdminOperation) (newId : UserId) : AdminRequest where
  claims := ⟨actor, key, tokenVersion⟩
  idempotencyKey := key
  operation := operation
  encodedPassword := "hash-2"
  newId := newId
  now := 1

def handled (request : AdminRequest) (reads : Nat) :
    List (Service.Event AdminRequest AccessTokenClaims) :=
  .arrive request :: List.replicate reads (.proceed 0)

def appointing : AdminRequest :=
  sampleAdminRequest "ada" 1 "key-1" (sampleCreate "bob@rvc.example" .admin) "bob"

def appointment : List (Service.Event AdminRequest AccessTokenClaims) := handled appointing 4

def appointed : AdminUserRead := ⟨"bob", "bob@rvc.example", .admin, true, 1, 1, 1⟩

/-- Ada's request is carried out, and would be replayed. -/
theorem administration_safe_appointment :
    Function.Injective sampleSecrets.hmacSha256 ∧
      Replays sampleSecrets (run (administration sampleSecrets).step (.initial sampleAccounts)
        appointment).state appointing appointed := by
  have collisionFree : Function.Injective sampleSecrets.hmacSha256 := Function.injective_id
  have answered : (appointing, Except.ok ⟨appointed, false⟩) ∈
      (run (administration sampleSecrets).step (.initial sampleAccounts) appointment).answers :=
    List.mem_singleton.mpr rfl
  have safe := administration_safe sampleSecrets collisionFree "ada" "ada@rvc.example" "hash-1" 0
    appointment
  exact ⟨collisionFree, (safe.2.2.2 appointing _ answered appointing rfl rfl).1 rfl⟩

def firstVersion : RowVersion := ⟨1, by decide⟩

def demotion : AdminRequest :=
  sampleAdminRequest "bob" 1 "key-2" (sampleAccess firstVersion .user) ""

def restoration : AdminRequest :=
  sampleAdminRequest "bob" 1 "key-3" (sampleAccess ⟨2, by decide⟩ .admin) ""

def laterCreate : AdminRequest :=
  sampleAdminRequest "ada" 3 "key-4" (sampleCreate "carol@rvc.example" .user) "carol"

def beforeDemotion : List (Service.Event AdminRequest AccessTokenClaims) :=
  appointment ++ handled demotion 2

def beforeLaterCreate : List (Service.Event AdminRequest AccessTokenClaims) :=
  beforeDemotion ++ .proceed 0 :: (handled restoration 3 ++ handled laterCreate 3)

/-- A restored administrator acts again, although an earlier commit had demoted her. -/
theorem restored_administrator_commits :
    ¬∀ events place request,
      let serving := run (administration sampleSecrets).step (.initial sampleAccounts) events
      Service.Commits serving place request () →
      ((administration sampleSecrets).step serving (.proceed place)).state.users ≠
        serving.state.users →
      ¬RemovedEarlier sampleSecrets sampleAccounts events request.actorId := by
  intro never
  have commits : Service.Commits (run (administration sampleSecrets).step (.initial sampleAccounts)
      beforeLaterCreate) 0 laterCreate () := by
    rfl
  refine never beforeLaterCreate 0 laterCreate commits ?_ ?_
  · intro same
    have created := congrArg (fun users => (users.find? "carol").isSome) same
    exact absurd created (by decide +kernel)
  · exact ⟨beforeDemotion, .proceed 0, handled restoration 3 ++ handled laterCreate 3, rfl,
      by decide +kernel, by decide +kernel⟩

end RvcOrchestrator.Manager
