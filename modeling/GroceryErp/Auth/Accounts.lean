import GroceryErp.Auth.Permissions
import GroceryErp.Auth.Tokens

/-!
# Accounts

Those who may manage users create them, take them out of service and back, and change their
roles.  Nobody may assign a role that grants what they do not have themselves, and nobody may
change the role of their own account or deactivate it.

A user's permissions are looked up when a request comes in, and are what the request goes by
until it ends.

## Main definitions

* `AccountTables` — users, roles, and which user has which role.
* `getCurrentUser`, `requirePermission` — who is calling.
* `createUser`, `reactivateUser`, `updateUserRole` — the service functions.
* `AdminWork`, `administering` — the requests as sessions at READ COMMITTED.
* `AdminAdvance` — where a read or a lock takes a session.
* `AdminStep` — what a session that commits has done.

## Main results

* `updateUserRole_steps` — a change of role is its steps, one after the other.
* `administering_advance`, `administering_step` — every read or lock is one of nine, and every
  commit one of five.

## References

`backend/app/modules/auth/service.py`, `get_user_permissions`, `get_current_user`,
`require_permission`, `create_user`, `reactivate_user`, `update_user_role`.
-/

namespace GroceryErp

open Outcome Rows Runs Transactions

/-! ### The tables -/

/-- A version of a row of `user_roles`.  A version that is deleted stays, for the sessions that
have read it. -/
structure UserRole where
  userId : ℕ
  roleId : ℕ
  deleted : Bool := false
  deriving DecidableEq

structure RolePermission where
  roleId : ℕ
  permission : Permission
  deriving DecidableEq

/-- The tables; `emails` is a column of the users. -/
structure AccountTables where
  auth : AuthTables
  emails : List String
  roles : List Role
  rolePermissions : List RolePermission
  userRoles : List UserRole

inductive AccountError
  | app (e : AppError)
  | missingPermission (permission : Permission)
  | invalidRole
  | privilegeEscalationDenied
  | duplicateUser
  | cannotChangeOwnRole
  /-- The primary key of `user_roles`. -/
  | duplicateUserRole
  deriving DecidableEq

namespace AccountTables

variable (s : AccountTables)

/-- The roles of a user. -/
def rolesOf (userId : ℕ) : List (ℕ × UserRole) :=
  rowsWhere (fun r => r.userId = userId ∧ r.deleted = false) s.userRoles

/-- The permissions that the rows of `role_permissions` give a role. -/
def permissionsOf (roleId : ℕ) : List Permission :=
  (s.rolePermissions.filter (·.roleId = roleId)).map (·.permission)

/-- `get_user_permissions`: what the roles of a user grant, each read from its row. -/
def getUserPermissions (userId : ℕ) : List Permission :=
  (s.rolesOf userId).flatMap fun r => s.permissionsOf r.2.roleId

/-- `get_user_role_name`: a user has one role or none; a user with two is an error of the query. -/
def getUserRoleName (userId : ℕ) : Except AccountError (Option String) :=
  (scalarOneOrNone ((s.rolesOf userId).filterMap fun r =>
    s.roles[r.2.roleId]?.map (·.name))).mapError .app

/-- The role with a name, which is a unique key; it has to be there. -/
def roleNamed (roleName : String) : Except AccountError ℕ := do
  let found ← (scalarOneOrNone (rowsWhere (·.name = roleName) s.roles)).mapError .app
  let (roleId, _) ← orRaise found (.app .noRows)
  return roleId

def insertUser (user : User) (email : String) : Except AccountError AccountTables := do
  raiseIf ((∃ u ∈ s.auth.users, u.username = user.username) ∨ email ∈ s.emails) .duplicateUser
  return { s with
    auth := { s.auth with users := s.auth.users ++ [user] }
    emails := s.emails ++ [email] }

def insertUserRole (userId roleId : ℕ) : Except AccountError AccountTables := do
  raiseIf (∃ r ∈ s.userRoles, r.userId = userId ∧ r.roleId = roleId ∧ r.deleted = false)
    .duplicateUserRole
  return { s with userRoles := s.userRoles ++ [⟨userId, roleId, false⟩] }

def deleteUserRoles (versions : List ℕ) : AccountTables :=
  { s with
    userRoles := s.userRoles.mapIdx fun i r =>
      if i ∈ versions then { r with deleted := true } else r }

def setActive (userId : ℕ) : AccountTables :=
  { s with
    auth := { s.auth with
      users := s.auth.users.modify userId fun user => { user with isActive := true } } }

end AccountTables

/-! ### Who is calling -/

structure CurrentUser where
  id : ℕ
  permissions : List Permission

/-- What `get_current_user` checks of the user that the access token names. -/
def checkActive (s : AccountTables) (userId : ℕ) : Except AccountError Unit := do
  let user ← orRaise s.auth.users[userId]? (.app (.unauthorized .unauthorized))
  raiseIf (¬user.isActive) (.app (.unauthorized .unauthorized))

/-- `get_current_user`: an inactive or unknown user is refused whatever the token says, and the
permissions are those of this moment. -/
def getCurrentUser (s : AccountTables) (userId : ℕ) : Except AccountError CurrentUser := do
  checkActive s userId
  return ⟨userId, s.getUserPermissions userId⟩

/-- `require_permission`: the caller goes on only with the permission, which the error otherwise
names. -/
def requirePermission (permission : Permission) (user : CurrentUser) :
    Except AccountError CurrentUser := do
  raiseIf (permission ∉ user.permissions) (.missingPermission permission)
  return user

/-! ### The calls -/

/-- `_validate_role_within_actor_permissions`: nobody assigns a role that the matrix does not know,
or one that grants more than they have. -/
def validateRoleWithinActorPermissions (M : RoleMatrix) (roleName : String)
    (actorPermissions : List Permission) : Except AccountError Unit := do
  raiseIf (roleName ∉ M.allRoles) .invalidRole
  raiseIf (¬∀ p ∈ M.rolePermissions roleName, p ∈ actorPermissions) .privilegeEscalationDenied

structure CreateUser where
  username : String
  email : String
  password : String
  storeId : Option ℕ
  roleName : String

/-- The row of a new user, which the password is verified against. -/
def CreateUser.row (req : CreateUser) : User where
  username := req.username
  verifyPassword := (· = req.password)
  isActive := true
  storeId := req.storeId
  salesReturnApprove := false

/-- `create_user`: the role is checked against the caller's permissions before the user and the
assignment are written. -/
def createUser (M : RoleMatrix) (s : AccountTables) (actor : CurrentUser) (req : CreateUser) :
    Except AccountError AccountTables := do
  validateRoleWithinActorPermissions M req.roleName actor.permissions
  let added ← s.insertUser req.row req.email
  let roleId ← added.roleNamed req.roleName
  added.insertUserRole s.auth.users.length roleId

/-- Whether `reactivate_user` finds the user active already, in which case it changes nothing. -/
def loadReactivated (s : AccountTables) (targetUserId : ℕ) : Except AccountError Bool := do
  let user ← orRaise s.auth.users[targetUserId]? (.app .notFound)
  return user.isActive

/-- `reactivate_user`: a user who is active already stays so, and the request succeeds. -/
def reactivateUser (s : AccountTables) (targetUserId : ℕ) : Except AccountError AccountTables := do
  let _ ← loadReactivated s targetUserId
  return s.setActive targetUserId

structure UpdateUserRole where
  targetUserId : ℕ
  roleName : String

/-- What `update_user_role` reads before it writes: the role to assign. -/
def loadRoleChange (M : RoleMatrix) (s : AccountTables) (actor : CurrentUser)
    (req : UpdateUserRole) : Except AccountError ℕ := do
  raiseIf (req.targetUserId = actor.id) .cannotChangeOwnRole
  validateRoleWithinActorPermissions M req.roleName actor.permissions
  let _ ← orRaise s.auth.users[req.targetUserId]? (.app .notFound)
  let roleId ← s.roleNamed req.roleName
  let _ ← s.getUserRoleName req.targetUserId
  return roleId

/-- What it writes: the versions that its DELETE has found are deleted, and a row is inserted. -/
def changeRole (s : AccountTables) (targetUserId roleId : ℕ) (found : List ℕ) :
    Except AccountError AccountTables :=
  (s.deleteUserRoles found).insertUserRole targetUserId roleId

/-- `update_user_role`: every role of the user is deleted and the one asked for is inserted. -/
def updateUserRole (M : RoleMatrix) (s : AccountTables) (actor : CurrentUser)
    (req : UpdateUserRole) : Except AccountError AccountTables := do
  let roleId ← loadRoleChange M s actor req
  changeRole s req.targetUserId roleId ((s.rolesOf req.targetUserId).map Prod.fst)

/-! ### The sessions -/

/-- A row of the users or the tokens, or a version of a row of `user_roles`. -/
inductive AdminLock
  | auth (row : AuthLock)
  | userRole (version : ℕ)
  deriving DecidableEq

inductive AdminRequest
  | createUser (req : CreateUser)
  | reactivateUser (targetUserId : ℕ)
  | updateUserRole (req : UpdateUserRole)
  | deactivateUser (targetUserId : ℕ) (now : Instant)

/-- A request, with the user whose access token comes with it. -/
structure AdminCall where
  actorId : ℕ
  request : AdminRequest

/-- How far the service has come with a request. -/
inductive AdminTask
  | create (req : CreateUser)
  | loadReactivated (targetUserId : ℕ)
  | lockReactivated (targetUserId : ℕ)
  | reactivate (targetUserId : ℕ)
  /-- The user is active, and nothing is written. -/
  | leaveActive
  | loadRoleChange (req : UpdateUserRole)
  | findRoles (targetUserId roleId : ℕ)
  /-- The DELETE waits for the versions it has found, one after the other. -/
  | changeRole (targetUserId roleId : ℕ) (found waiting : List ℕ)
  | deactivate (work : AuthWork)

/-- How far a call has come. -/
inductive AdminWork
  | authenticate (call : AdminCall)
  | authorize (call : AdminCall)
  | serve (actor : CurrentUser) (task : AdminTask)

/-- What the service begins with: whether it reads first, or writes all it has to in one step. -/
def AdminRequest.task (actorId : ℕ) : AdminRequest → AdminTask
  | .createUser req => .create req
  | .reactivateUser targetUserId => .loadReactivated targetUserId
  | .updateUserRole req => .loadRoleChange req
  | .deactivateUser targetUserId now => .deactivate (.deactivate ⟨targetUserId, actorId, now⟩)

/-- What the service does next.  A read may be of a state that another request has changed before
the lock comes. -/
def AdminTask.next (cfg : AuthSettings) (M : RoleMatrix) (actor : CurrentUser) :
    AdminTask → Action AccountTables AdminLock AdminTask
  | .create req => .commit fun s => (createUser M s actor req).toOption
  | .loadReactivated targetUserId => .read fun s =>
    (GroceryErp.loadReactivated s targetUserId).toOption.map fun wasActive =>
      if wasActive then .leaveActive else .lockReactivated targetUserId
  | .lockReactivated targetUserId =>
    .lock (.auth (.user targetUserId)) fun _ => some (.reactivate targetUserId)
  | .reactivate targetUserId => .commit fun s => some (s.setActive targetUserId)
  | .leaveActive => .commit some
  | .loadRoleChange req => .read fun s =>
    (GroceryErp.loadRoleChange M s actor req).toOption.map (.findRoles req.targetUserId)
  | .findRoles targetUserId roleId => .read fun s =>
    let found := (s.rolesOf targetUserId).map Prod.fst
    some (.changeRole targetUserId roleId found found)
  | .changeRole targetUserId roleId found [] => .commit fun s =>
    (GroceryErp.changeRole s targetUserId roleId found).toOption
  | .changeRole targetUserId roleId found (version :: waiting) =>
    .lock (.userRole version) fun _ => some (.changeRole targetUserId roleId found waiting)
  | .deactivate work =>
    (((authenticating cfg).next work).onPart (·.auth) fun s auth => { s with auth }).map
      .auth .deactivate

/-- The calls, each in a session of its own. -/
def administering (cfg : AuthSettings) (M : RoleMatrix) :
    Program AccountTables AdminLock AdminWork AdminCall where
  start := .authenticate
  next
    | .authenticate call => .read fun s =>
      (checkActive s call.actorId).toOption.map fun _ => .authorize call
    | .authorize call => .read fun s =>
      (requirePermission .usersManage
        ⟨call.actorId, s.getUserPermissions call.actorId⟩).toOption.map fun actor =>
          .serve actor (call.request.task call.actorId)
    | .serve actor task => (task.next cfg M actor).map id (.serve actor)

/-! ### With nothing between -/

theorem mapError_eq_ok {ε ε' α : Type} {f : ε → ε'} {x : Except ε α} {a : α} :
    x.mapError f = .ok a ↔ x = .ok a := by
  cases x <;> simp [Except.mapError]

section Steps

variable {cfg : AuthSettings} {M : RoleMatrix} {s s' : AccountTables} {actor : CurrentUser}

theorem requirePermission_ok {permission : Permission} {user user' : CurrentUser} :
    requirePermission permission user = .ok user' ↔ permission ∈ user.permissions ∧ user' = user := by
  unfold requirePermission
  simp only [↓check_bind_eq_ok, raiseIf_eq_ok, not_not, pure_eq_ok]
  exact and_congr_right fun _ => eq_comm

theorem validateRole_ok {roleName : String} {permissions : List Permission} {u : Unit} :
    validateRoleWithinActorPermissions M roleName permissions = .ok u ↔
      roleName ∈ M.allRoles ∧ ∀ p ∈ M.rolePermissions roleName, p ∈ permissions := by
  unfold validateRoleWithinActorPermissions
  simp only [↓check_bind_eq_ok, raiseIf_eq_ok, not_not]

theorem roleNamed_ok {roleName : String} {roleId : ℕ} (h : s.roleNamed roleName = .ok roleId) :
    s.roles[roleId]? = some ⟨roleName⟩ := by
  unfold AccountTables.roleNamed at h
  simp only [bind_eq_ok, mapError_eq_ok, orRaise_eq_ok, pure_eq_ok, Prod.exists] at h
  obtain ⟨_, hfound, id, role, rfl, rfl⟩ := h
  have hmem : (id, role) ∈ rowsWhere (·.name = roleName) s.roles := by
    rw [scalarOneOrNone_eq_some.mp hfound]
    exact List.mem_singleton_self _
  obtain ⟨hrole, rfl⟩ := mem_rowsWhere.mp hmem
  exact hrole

theorem insertUserRole_ok {userId roleId : ℕ} (h : s.insertUserRole userId roleId = .ok s') :
    s' = { s with userRoles := s.userRoles ++ [⟨userId, roleId, false⟩] } := by
  unfold AccountTables.insertUserRole at h
  simp only [↓check_bind_eq_ok, pure_eq_ok] at h
  exact h.2.symm

/-- The role that is to be assigned grants nothing that the caller does not have. -/
theorem loadRoleChange_ok {req : UpdateUserRole} {roleId : ℕ}
    (h : loadRoleChange M s actor req = .ok roleId) : req.targetUserId ≠ actor.id ∧
      req.targetUserId < s.auth.users.length ∧ s.roles[roleId]? = some ⟨req.roleName⟩ ∧
      ∀ p ∈ M.rolePermissions req.roleName, p ∈ actor.permissions := by
  unfold loadRoleChange at h
  simp only [↓check_bind_eq_ok, raiseIf_eq_ok, validateRole_ok, bind_eq_ok, orRaise_eq_ok,
    pure_eq_ok] at h
  obtain ⟨hself, ⟨-, hwithin⟩, user, huser, id, hrole, -, -, rfl⟩ := h
  exact ⟨hself, (List.getElem?_eq_some_iff.mp huser).1, roleNamed_ok hrole, hwithin⟩

/-- A caller is let through in the two steps of a session: the user is found active, and then has
the permission. -/
theorem getCurrentUser_steps {userId : ℕ} {permission : Permission} :
    (getCurrentUser s userId >>= requirePermission permission) = .ok actor ↔
      checkActive s userId = .ok () ∧
      requirePermission permission ⟨userId, s.getUserPermissions userId⟩ = .ok actor := by
  unfold getCurrentUser
  simp only [bind_eq_ok, pure_eq_ok]
  constructor
  · rintro ⟨_, ⟨_, hactive, rfl⟩, hpermits⟩
    exact ⟨hactive, hpermits⟩
  · rintro ⟨hactive, hpermits⟩
    exact ⟨_, ⟨_, hactive, rfl⟩, hpermits⟩

/-- A reactivation is its steps, one after the other. -/
theorem reactivateUser_steps {targetUserId : ℕ} :
    reactivateUser s targetUserId = .ok s' ↔ ∃ wasActive,
      loadReactivated s targetUserId = .ok wasActive ∧
      s' = if wasActive then s else s.setActive targetUserId := by
  unfold reactivateUser
  simp only [bind_eq_ok, pure_eq_ok]
  refine exists_congr fun wasActive => and_congr_right fun hload => ?_
  unfold loadReactivated at hload
  simp only [bind_eq_ok, orRaise_eq_ok, pure_eq_ok] at hload
  obtain ⟨user, huser, hactive⟩ := hload
  cases wasActive with
  | false => exact eq_comm
  | true =>
    have hself : ({ user with isActive := true } : User) = user := by rw [← hactive]
    have hset : s.setActive targetUserId = s := by
      unfold AccountTables.setActive
      have hmodify : s.auth.users.modify targetUserId (fun user => { user with isActive := true })
          = s.auth.users := by
        refine List.ext_getElem? fun i => ?_
        rw [List.getElem?_modify]
        split
        · next hi =>
          subst hi
          rw [huser]
          exact congrArg some hself
        · exact Option.map_id'
      rw [hmodify]
    rw [hset]
    exact eq_comm

/-- A change of role is its steps, one after the other. -/
theorem updateUserRole_steps {req : UpdateUserRole} :
    updateUserRole M s actor req = .ok s' ↔ ∃ roleId, loadRoleChange M s actor req = .ok roleId ∧
      changeRole s req.targetUserId roleId ((s.rolesOf req.targetUserId).map Prod.fst)
        = .ok s' := by
  unfold updateUserRole
  rw [bind_eq_ok]

end Steps

/-! ### Where a read or a lock takes a session -/

/-- Where a read or a lock takes a session. -/
inductive AdminAdvance (cfg : AuthSettings) (M : RoleMatrix) (s : AccountTables) :
    AdminWork → AdminWork → Prop
  | authenticated {call : AdminCall} : AdminAdvance cfg M s (.authenticate call) (.authorize call)
  | authorized {call : AdminCall} (manages : .usersManage ∈ s.getUserPermissions call.actorId) :
      AdminAdvance cfg M s (.authorize call)
        (.serve ⟨call.actorId, s.getUserPermissions call.actorId⟩ (call.request.task call.actorId))
  | foundActive {actor : CurrentUser} {targetUserId : ℕ} :
      AdminAdvance cfg M s (.serve actor (.loadReactivated targetUserId)) (.serve actor .leaveActive)
  | foundInactive {actor : CurrentUser} {targetUserId : ℕ} :
      AdminAdvance cfg M s (.serve actor (.loadReactivated targetUserId))
        (.serve actor (.lockReactivated targetUserId))
  | locked {actor : CurrentUser} {targetUserId : ℕ} :
      AdminAdvance cfg M s (.serve actor (.lockReactivated targetUserId))
        (.serve actor (.reactivate targetUserId))
  | loaded {actor : CurrentUser} {req : UpdateUserRole} {roleId : ℕ}
      (load : loadRoleChange M s actor req = .ok roleId) :
      AdminAdvance cfg M s (.serve actor (.loadRoleChange req))
        (.serve actor (.findRoles req.targetUserId roleId))
  | found {actor : CurrentUser} {targetUserId roleId : ℕ} {versions : List ℕ}
      (versions_eq : versions = (s.rolesOf targetUserId).map Prod.fst) :
      AdminAdvance cfg M s (.serve actor (.findRoles targetUserId roleId))
        (.serve actor (.changeRole targetUserId roleId versions versions))
  | waited {actor : CurrentUser} {targetUserId roleId version : ℕ} {versions waiting : List ℕ} :
      AdminAdvance cfg M s (.serve actor (.changeRole targetUserId roleId versions
        (version :: waiting))) (.serve actor (.changeRole targetUserId roleId versions waiting))
  | deactivating {actor : CurrentUser} {work work' : AuthWork}
      (advance : (authenticating cfg).Advances s.auth work work') :
      AdminAdvance cfg M s (.serve actor (.deactivate work)) (.serve actor (.deactivate work'))

section Advances

variable {cfg : AuthSettings} {M : RoleMatrix} {s : AccountTables} {t t' : AdminWork}

theorem AdminAdvance.of_read {f : AccountTables → Option AdminWork}
    (hnext : (administering cfg M).next t = .read f) (hf : f s = some t') :
    AdminAdvance cfg M s t t' := by
  cases t with
  | authenticate call =>
    cases hnext
    obtain ⟨-, -, rfl⟩ := Option.map_eq_some_iff.mp hf
    exact .authenticated
  -- the caller's permissions are read here, and the session goes by them from then on
  | authorize call =>
    cases hnext
    obtain ⟨actor, hactor, rfl⟩ := Option.map_eq_some_iff.mp hf
    obtain ⟨hmanages, rfl⟩ := requirePermission_ok.mp (toOption_eq_some.mp hactor)
    exact .authorized hmanages
  -- the service reads on, or the session of `auth` that it has opened
  | serve actor task =>
    obtain ⟨f₀, htask, rfl⟩ := Action.map_eq_read.mp hnext
    obtain ⟨task', hf₀, rfl⟩ := Option.map_eq_some_iff.mp hf
    cases task with
    | create | lockReactivated | reactivate | leaveActive => cases htask
    | loadReactivated targetUserId =>
      cases htask
      obtain ⟨wasActive, -, rfl⟩ := Option.map_eq_some_iff.mp hf₀
      cases wasActive with
      | true => exact .foundActive
      | false => exact .foundInactive
    | loadRoleChange req =>
      cases htask
      obtain ⟨roleId, hload, rfl⟩ := Option.map_eq_some_iff.mp hf₀
      exact .loaded (toOption_eq_some.mp hload)
    | findRoles targetUserId roleId =>
      cases htask
      cases hf₀
      exact .found rfl
    | changeRole targetUserId roleId found waiting =>
      cases waiting with
      | nil | cons => cases htask
    | deactivate work =>
      obtain ⟨g, hg, rfl⟩ := Action.map_eq_read.mp htask
      obtain ⟨work', hwork, rfl⟩ := Option.map_eq_some_iff.mp hf₀
      obtain ⟨g₀, hnext₀, rfl⟩ := Action.onPart_eq_read.mp hg
      exact .deactivating (.read hnext₀ hwork)

theorem AdminAdvance.of_lock {key : AdminLock} {f : AccountTables → Option AdminWork}
    (hnext : (administering cfg M).next t = .lock key f) (hf : f s = some t') :
    AdminAdvance cfg M s t t' := by
  cases t with
  | authenticate | authorize => cases hnext
  | serve actor task =>
    obtain ⟨_, f₀, htask, -, rfl⟩ := Action.map_eq_lock.mp hnext
    obtain ⟨task', hf₀, rfl⟩ := Option.map_eq_some_iff.mp hf
    cases task with
    | create | loadReactivated | reactivate | leaveActive | loadRoleChange | findRoles =>
      cases htask
    | lockReactivated targetUserId =>
      cases htask
      cases hf₀
      exact .locked
    | changeRole targetUserId roleId found waiting =>
      cases waiting with
      | nil => cases htask
      | cons version waiting =>
        cases htask
        cases hf₀
        exact .waited
    | deactivate work =>
      obtain ⟨_, g, hg, -, rfl⟩ := Action.map_eq_lock.mp htask
      obtain ⟨work', hwork, rfl⟩ := Option.map_eq_some_iff.mp hf₀
      obtain ⟨g₀, hnext₀, rfl⟩ := Action.onPart_eq_lock.mp hg
      exact .deactivating (.lock hnext₀ hwork)

/-- **Every read or lock is one of nine.** -/
theorem administering_advance (h : (administering cfg M).Advances s t t') :
    AdminAdvance cfg M s t t' := by
  cases h with
  | read next result => exact .of_read next result
  | lock next result => exact .of_lock next result

end Advances

/-! ### What a session that commits has done -/

section Commits

variable {cfg : AuthSettings} {M : RoleMatrix} {s s' : AccountTables}

/-- What a session that commits has done: a user created, a role changed, a user activated or
deactivated, or nothing. -/
inductive AdminStep (cfg : AuthSettings) (M : RoleMatrix) (s : AccountTables)
    (actor : CurrentUser) : AdminTask → AccountTables → Prop
  | created {req : CreateUser} {roleId : ℕ} (role : s.roles[roleId]? = some ⟨req.roleName⟩)
      (within : ∀ p ∈ M.rolePermissions req.roleName, p ∈ actor.permissions) :
      AdminStep cfg M s actor (.create req)
        { s with
          auth := { s.auth with users := s.auth.users ++ [req.row] }
          emails := s.emails ++ [req.email]
          userRoles := s.userRoles ++ [⟨s.auth.users.length, roleId, false⟩] }
  | reactivated {targetUserId : ℕ} :
      AdminStep cfg M s actor (.reactivate targetUserId) (s.setActive targetUserId)
  | leftActive : AdminStep cfg M s actor .leaveActive s
  | roleChanged {targetUserId roleId : ℕ} {found : List ℕ} :
      AdminStep cfg M s actor (.changeRole targetUserId roleId found [])
        { s with
          userRoles := (s.deleteUserRoles found).userRoles ++ [⟨targetUserId, roleId, false⟩] }
  | deactivated {work : AuthWork} {auth : AuthTables} (step : AuthStep cfg s.auth work auth) :
      AdminStep cfg M s actor (.deactivate work) { s with auth }

/-- **Every commit is one of five.** -/
theorem administering_step {t : AdminWork} {f : AccountTables → Option AccountTables}
    (hnext : (administering cfg M).next t = .commit f) (hf : f s = some s') :
    ∃ actor task, t = .serve actor task ∧ AdminStep cfg M s actor task s' := by
  cases t with
  | authenticate | authorize => cases hnext
  | serve actor task =>
    refine ⟨actor, task, rfl, ?_⟩
    have htask : task.next cfg M actor = .commit f := Action.map_eq_commit.mp hnext
    cases task with
    | loadReactivated | lockReactivated | loadRoleChange | findRoles => cases htask
    -- the role is checked, the user inserted and the role found, all in the one commit
    | create req =>
      cases htask
      have hcreate := toOption_eq_some.mp hf
      unfold createUser AccountTables.insertUser at hcreate
      simp only [↓check_bind_eq_ok, validateRole_ok, bind_eq_ok, pure_eq_ok] at hcreate
      obtain ⟨⟨-, hwithin⟩, added, ⟨-, rfl⟩, roleId, hrole, hinsert⟩ := hcreate
      rw [insertUserRole_ok hinsert]
      exact .created (roleNamed_ok hrole) hwithin
    | reactivate targetUserId =>
      cases htask
      cases hf
      exact .reactivated
    | leaveActive =>
      cases htask
      cases hf
      exact .leftActive
    -- the DELETE has got all its locks, and the INSERT follows
    | changeRole targetUserId roleId found waiting =>
      cases waiting with
      | cons version waiting => cases htask
      | nil =>
        cases htask
        have hchange := toOption_eq_some.mp hf
        unfold changeRole at hchange
        rw [insertUserRole_ok hchange]
        exact .roleChanged
    | deactivate work =>
      obtain ⟨g, hwork, rfl⟩ := Action.onPart_eq_commit.mp (Action.map_eq_commit.mp htask)
      obtain ⟨auth, hauth, rfl⟩ := Option.map_eq_some_iff.mp hf
      exact .deactivated (authenticating_step hwork hauth)

end Commits

end GroceryErp
