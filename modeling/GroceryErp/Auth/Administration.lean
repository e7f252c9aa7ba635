import GroceryErp.Auth.Accounts

/-!
# Administration side by side

Requests of administrators run side by side, each going by the permissions that its actor had
when it came in.  However they do, nobody comes to have a permission that no administrator had
at the start.

## Main definitions

* `SeededFrom` — the roles grant no more than the matrix says.
* `Held` — a permission that a user who may manage users has.
* `PermissionsWithin` — every user has the roles of the start, or permissions that are held.
* `office` — tables seeded as the migration does.

## Main results

* `permissions_within` — **assigning roles side by side gives nobody a permission that no
  administrator has had.**

## References

`backend/app/modules/auth/service.py`, `create_user`, `reactivate_user`, `update_user_role`,
`deactivate_user`;
`backend/alembic/versions/e6180fca2ee0_m2_seed_rbac_roles_and_permissions.py`.
-/

namespace GroceryErp

open Outcome Rows Runs Transactions

/-! ### Roles and what they grant -/

namespace AccountTables

variable {s s' : AccountTables} {userId roleId : ℕ} {p : Permission}

theorem mem_rolesOf {it : ℕ × UserRole} : it ∈ s.rolesOf userId ↔
    s.userRoles[it.1]? = some it.2 ∧ it.2.userId = userId ∧ it.2.deleted = false :=
  mem_rowsWhere

theorem mem_getUserPermissions : p ∈ s.getUserPermissions userId ↔
    ∃ it ∈ s.rolesOf userId, p ∈ s.permissionsOf it.2.roleId :=
  List.mem_flatMap

theorem permissionsOf_congr (h : s'.rolePermissions = s.rolePermissions) :
    s'.permissionsOf roleId = s.permissionsOf roleId := by
  unfold permissionsOf
  rw [h]

theorem getElem?_deleteUserRoles {versions : List ℕ} {i : ℕ} {r : UserRole}
    (h : s.userRoles[i]? = some r) : (s.deleteUserRoles versions).userRoles[i]?
      = some (if i ∈ versions then { r with deleted := true } else r) := by
  unfold deleteUserRoles
  rw [List.getElem?_mapIdx, h, Option.map_some]

theorem length_deleteUserRoles (s : AccountTables) (versions : List ℕ) :
    (s.deleteUserRoles versions).userRoles.length = s.userRoles.length :=
  List.length_mapIdx

/-- The roles grant no more than the matrix says. -/
def SeededFrom (M : RoleMatrix) (s : AccountTables) : Prop :=
  ∀ roleId role, s.roles[roleId]? = some role →
    ∀ p ∈ s.permissionsOf roleId, p ∈ M.rolePermissions role.name

/-- A permission that a user who may manage users has. -/
def Held (s : AccountTables) (p : Permission) : Prop :=
  ∃ userId, .usersManage ∈ s.getUserPermissions userId ∧ p ∈ s.getUserPermissions userId

/-- Every row of `user_roles` is of a user that is there. -/
def Referenced (s : AccountTables) : Prop :=
  ∀ userId it, it ∈ s.rolesOf userId → userId < s.auth.users.length

end AccountTables

/-! ### What a commit makes of the roles -/

/-- The versions of role rows that a commit deletes: those that were read, before other requests may
have added some. -/
def AdminTask.deletes : AdminTask → List ℕ
  | changeRole _ _ found _ => found
  | _ => []

/-- To whom a commit gives which role: a new user, or the one whose role is changed. -/
inductive AdminTask.Assigns (s : AccountTables) : AdminTask → ℕ → ℕ → Prop
  | create {req : CreateUser} {roleId : ℕ} (role : s.roles[roleId]? = some ⟨req.roleName⟩) :
      Assigns s (.create req) s.auth.users.length roleId
  | changeRole {targetUserId roleId : ℕ} {found : List ℕ} :
      Assigns s (.changeRole targetUserId roleId found []) targetUserId roleId

section Steps

variable {cfg : AuthSettings} {M : RoleMatrix} {s s' : AccountTables} {actor : CurrentUser}
  {task : AdminTask} {i : ℕ} {r : UserRole}

theorem AdminStep.roles (h : AdminStep cfg M s actor task s') :
    s'.roles = s.roles ∧ s'.rolePermissions = s.rolePermissions := by
  cases h with
  | created | reactivated | leftActive | roleChanged | deactivated => exact ⟨rfl, rfl⟩

theorem AdminStep.length_le (h : AdminStep cfg M s actor task s') :
    s.userRoles.length ≤ s'.userRoles.length := by
  cases h with
  | reactivated | leftActive | deactivated => exact le_rfl
  | created => simp
  | roleChanged => simp [AccountTables.length_deleteUserRoles]

/-- A version that is not deleted is kept. -/
theorem AdminStep.kept (h : AdminStep cfg M s actor task s') (hr : s.userRoles[i]? = some r)
    (hi : i ∉ task.deletes) : s'.userRoles[i]? = some r := by
  have hlt : i < s.userRoles.length := (List.getElem?_eq_some_iff.mp hr).1
  cases h with
  | reactivated | leftActive | deactivated => exact hr
  | created => rw [List.getElem?_append_left hlt, hr]
  | @roleChanged targetUserId roleId found =>
    rw [← s.length_deleteUserRoles found] at hlt
    change i ∉ found at hi
    rw [List.getElem?_append_left hlt, AccountTables.getElem?_deleteUserRoles hr, if_neg hi]

/-- **A version that is live after a commit was so before, or is what the commit assigns.** -/
theorem AdminStep.live (h : AdminStep cfg M s actor task s') (hr : s'.userRoles[i]? = some r)
    (hlive : r.deleted = false) :
    (s.userRoles[i]? = some r ∧ i ∉ task.deletes) ∨
      (i = s.userRoles.length ∧ task.Assigns s r.userId r.roleId) := by
  cases h with
  | reactivated | leftActive | deactivated => exact .inl ⟨hr, List.not_mem_nil⟩
  | created role =>
    rcases getElem?_append_singleton_eq_some.mp hr with hold | ⟨rfl, rfl⟩
    · exact .inl ⟨hold, List.not_mem_nil⟩
    · exact .inr ⟨rfl, .create role⟩
  | @roleChanged targetUserId roleId found =>
    rcases getElem?_append_singleton_eq_some.mp hr with hold | ⟨rfl, rfl⟩
    · left
      have hlt : i < s.userRoles.length :=
        s.length_deleteUserRoles found ▸ (List.getElem?_eq_some_iff.mp hold).1
      have hbefore : s.userRoles[i]? = some s.userRoles[i] := List.getElem?_eq_getElem hlt
      rw [AccountTables.getElem?_deleteUserRoles hbefore] at hold
      by_cases hi : i ∈ found
      · rw [if_pos hi] at hold
        cases hold
        cases hlive
      · rw [if_neg hi] at hold
        exact ⟨hbefore.trans hold, hi⟩
    · exact .inr ⟨s.length_deleteUserRoles found, .changeRole⟩

theorem AdminStep.length_users_le (h : AdminStep cfg M s actor task s') :
    s.auth.users.length ≤ s'.auth.users.length := by
  cases h with
  | created => simp
  | reactivated => exact (List.length_modify ..).ge
  | leftActive | roleChanged => exact le_rfl
  | deactivated step =>
    cases step with
    | issued | rotated => exact le_rfl
    | @revoked r tokenIds =>
      unfold Revocation.write
      split
      · exact (List.length_modify ..).ge
      · exact le_rfl

/-- No step makes a version of a role row another user's, and none takes it out of the table. -/
theorem AdminStep.version (h : AdminStep cfg M s actor task s') (hr : s.userRoles[i]? = some r) :
    ∃ r', s'.userRoles[i]? = some r' ∧ r'.userId = r.userId := by
  have hlt : i < s.userRoles.length := (List.getElem?_eq_some_iff.mp hr).1
  cases h with
  | reactivated | leftActive | deactivated => exact ⟨r, hr, rfl⟩
  | created => exact ⟨r, by rw [List.getElem?_append_left hlt, hr], rfl⟩
  | @roleChanged targetUserId roleId found =>
    rw [← s.length_deleteUserRoles found] at hlt
    rw [List.getElem?_append_left hlt, AccountTables.getElem?_deleteUserRoles hr]
    refine ⟨_, rfl, ?_⟩
    split
    · rfl
    · rfl

end Steps

/-! ### Nobody gets more than was held -/

/-- Every user has the roles of the start, or permissions that were held then. -/
structure PermissionsWithin (s₀ s : AccountTables) : Prop where
  roles : s.roles = s₀.roles
  rolePermissions : s.rolePermissions = s₀.rolePermissions
  grown : s₀.userRoles.length ≤ s.userRoles.length
  referenced : s.Referenced
  users : ∀ userId, (∀ it ∈ s.rolesOf userId, it ∈ s₀.rolesOf userId) ∨
    ∀ p ∈ s.getUserPermissions userId, s₀.Held p

/-- What a request that changes a role knows: the role grants what was held, and the DELETE has
found all that is left of the roles of the start. -/
def AdminTask.Within (s₀ s : AccountTables) : AdminTask → Prop
  | findRoles targetUserId roleId => targetUserId < s.auth.users.length ∧
    ∀ p ∈ s₀.permissionsOf roleId, s₀.Held p
  | changeRole targetUserId roleId found _ => targetUserId < s.auth.users.length ∧
    (∀ p ∈ s₀.permissionsOf roleId, s₀.Held p) ∧
    ∀ it ∈ s.rolesOf targetUserId, it.1 < s₀.userRoles.length → it.1 ∈ found
  | _ => True

def AdminWork.Within (s₀ s : AccountTables) : AdminWork → Prop
  | serve actor task => (∀ p ∈ actor.permissions, s₀.Held p) ∧ task.Within s₀ s
  | _ => True

section Within

variable {cfg : AuthSettings} {M : RoleMatrix} {s₀ s s' : AccountTables} {actor : CurrentUser}
  {task : AdminTask}

theorem PermissionsWithin.permissionsOf (h : PermissionsWithin s₀ s) (roleId : ℕ) :
    s.permissionsOf roleId = s₀.permissionsOf roleId :=
  AccountTables.permissionsOf_congr h.rolePermissions

/-- A role that grants only what the actor has grants only what was held. -/
theorem PermissionsWithin.held_of_role (h : PermissionsWithin s₀ s) (hseeded : s₀.SeededFrom M)
    (hactor : ∀ p ∈ actor.permissions, s₀.Held p) {roleId : ℕ} {roleName : String}
    (hrole : s.roles[roleId]? = some ⟨roleName⟩)
    (hwithin : ∀ p ∈ M.rolePermissions roleName, p ∈ actor.permissions) :
    ∀ p ∈ s₀.permissionsOf roleId, s₀.Held p := by
  intro p hp
  rw [h.roles] at hrole
  exact hactor p (hwithin p (hseeded roleId _ hrole p hp))

/-- One who may manage users has only what was held. -/
theorem PermissionsWithin.held_of_manages (h : PermissionsWithin s₀ s) {userId : ℕ}
    (hmanages : .usersManage ∈ s.getUserPermissions userId) :
    ∀ p ∈ s.getUserPermissions userId, s₀.Held p := by
  rcases h.users userId with hold | hheld
  · have hstart : ∀ p ∈ s.getUserPermissions userId, p ∈ s₀.getUserPermissions userId := by
      intro p hp
      obtain ⟨it, hit, hp⟩ := AccountTables.mem_getUserPermissions.mp hp
      rw [h.permissionsOf] at hp
      exact AccountTables.mem_getUserPermissions.mpr ⟨it, hold it hit, hp⟩
    exact fun p hp => ⟨userId, hstart _ hmanages, hstart p hp⟩
  · exact hheld

/-- Without the role that a commit assigns, a user has what it had. -/
theorem AdminStep.rolesOf_of_not (h : AdminStep cfg M s actor task s') {userId : ℕ}
    (hnot : ∀ roleId, ¬task.Assigns s userId roleId) {it : ℕ × UserRole}
    (hit : it ∈ s'.rolesOf userId) : it ∈ s.rolesOf userId := by
  obtain ⟨hr, huser, hlive⟩ := AccountTables.mem_rolesOf.mp hit
  rcases h.live hr hlive with ⟨hr, -⟩ | ⟨-, hassigns⟩
  · exact AccountTables.mem_rolesOf.mpr ⟨hr, huser, hlive⟩
  · exact absurd (huser ▸ hassigns) (hnot _)

/-- The role that a commit assigns grants only what was held, to a user that is there. -/
theorem AdminStep.assigned (hstep : AdminStep cfg M s actor task s') (h : PermissionsWithin s₀ s)
    (hseeded : s₀.SeededFrom M) (hactor : ∀ p ∈ actor.permissions, s₀.Held p)
    (htask : task.Within s₀ s) {userId roleId : ℕ} (hassigns : task.Assigns s userId roleId) :
    userId < s'.auth.users.length ∧ ∀ p ∈ s₀.permissionsOf roleId, s₀.Held p := by
  cases hassigns with
  | create role =>
    cases hstep with
    | created _ within => exact ⟨by simp, h.held_of_role hseeded hactor role within⟩
  | changeRole => exact ⟨htask.1.trans_le hstep.length_users_le, htask.2.1⟩

/-- **A commit keeps every user within what was held.** -/
theorem PermissionsWithin.commit (h : PermissionsWithin s₀ s) (hseeded : s₀.SeededFrom M)
    (hactor : ∀ p ∈ actor.permissions, s₀.Held p) (htask : task.Within s₀ s)
    (hstep : AdminStep cfg M s actor task s') : PermissionsWithin s₀ s' where
  roles := hstep.roles.1.trans h.roles
  rolePermissions := hstep.roles.2.trans h.rolePermissions
  grown := h.grown.trans hstep.length_le
  referenced := by
    intro userId it hit
    obtain ⟨hr, huser, hlive⟩ := AccountTables.mem_rolesOf.mp hit
    rcases hstep.live hr hlive with ⟨hr, -⟩ | ⟨-, hassigns⟩
    · have hbefore := h.referenced userId it (AccountTables.mem_rolesOf.mpr ⟨hr, huser, hlive⟩)
      exact hbefore.trans_le hstep.length_users_le
    · exact huser ▸ (hstep.assigned h hseeded hactor htask hassigns).1
  users := by
    intro userId
    have hpermissions : ∀ roleId, s'.permissionsOf roleId = s.permissionsOf roleId := fun _ =>
      AccountTables.permissionsOf_congr hstep.roles.2
    by_cases hassigns : ∃ roleId, task.Assigns s userId roleId
    · -- what is left of the roles that the user had is not from the start
      right
      intro p hp
      obtain ⟨it, hit, hp⟩ := AccountTables.mem_getUserPermissions.mp hp
      rw [hpermissions] at hp
      obtain ⟨hr, huser, hlive⟩ := AccountTables.mem_rolesOf.mp hit
      rcases hstep.live hr hlive with ⟨hr, hkept⟩ | ⟨-, hassigned⟩
      · have hbefore : it ∈ s.rolesOf userId := AccountTables.mem_rolesOf.mpr ⟨hr, huser, hlive⟩
        obtain ⟨roleId, hassigns⟩ := hassigns
        cases hassigns with
        | create => exact absurd (h.referenced _ it hbefore) (lt_irrefl _)
        | @changeRole _ _ found =>
          have hnew : ¬it.1 < s₀.userRoles.length := fun hlt => hkept (htask.2.2 it hbefore hlt)
          rcases h.users userId with hold | hheld
          · have hstart := (AccountTables.mem_rolesOf.mp (hold it hbefore)).1
            exact absurd (List.getElem?_eq_some_iff.mp hstart).1 hnew
          · exact hheld p (AccountTables.mem_getUserPermissions.mpr ⟨it, hbefore, hp⟩)
      · rw [h.permissionsOf] at hp
        exact (hstep.assigned h hseeded hactor htask hassigned).2 p hp
    · rw [not_exists] at hassigns
      rcases h.users userId with hold | hheld
      · exact .inl fun it hit => hold it (hstep.rolesOf_of_not hassigns hit)
      · refine .inr fun p hp => hheld p ?_
        obtain ⟨it, hit, hp⟩ := AccountTables.mem_getUserPermissions.mp hp
        rw [hpermissions] at hp
        exact AccountTables.mem_getUserPermissions.mpr
          ⟨it, hstep.rolesOf_of_not hassigns hit, hp⟩

/-- What a session knows is kept by the commits of the others. -/
theorem AdminWork.Within.stable {t : AdminWork} (h : PermissionsWithin s₀ s)
    (ht : t.Within s₀ s) (hstep : AdminStep cfg M s actor task s') : t.Within s₀ s' := by
  cases t with
  | authenticate | authorize => trivial
  | serve actor' task' =>
    refine ⟨ht.1, ?_⟩
    have htask := ht.2
    cases task' with
    | findRoles targetUserId roleId =>
      exact ⟨htask.1.trans_le hstep.length_users_le, htask.2⟩
    | changeRole targetUserId roleId found waiting =>
      refine ⟨htask.1.trans_le hstep.length_users_le, htask.2.1, fun it hit hlt => ?_⟩
      obtain ⟨hr, huser, hlive⟩ := AccountTables.mem_rolesOf.mp hit
      rcases hstep.live hr hlive with ⟨hr, -⟩ | ⟨hnew, -⟩
      · exact htask.2.2 it (AccountTables.mem_rolesOf.mpr ⟨hr, huser, hlive⟩) hlt
      · have hgrown := h.grown
        omega
    | create | loadReactivated | lockReactivated | reactivate | leaveActive | loadRoleChange
    | deactivate => trivial

theorem AdminRequest.within (request : AdminRequest) (actorId : ℕ) :
    (request.task actorId).Within s₀ s := by
  cases request with
  | createUser | reactivateUser | updateUserRole | deactivateUser => trivial

/-- **What a session knows is so after each of its reads and locks.** -/
theorem AdminAdvance.within {t t' : AdminWork} (hadvance : AdminAdvance cfg M s t t')
    (h : PermissionsWithin s₀ s) (hseeded : s₀.SeededFrom M) (ht : t.Within s₀ s) :
    t'.Within s₀ s := by
  cases hadvance with
  | authenticated => trivial
  | @authorized call manages =>
    exact ⟨h.held_of_manages manages, call.request.within call.actorId⟩
  | foundActive | foundInactive | locked | deactivating => exact ⟨ht.1, trivial⟩
  | loaded load =>
    obtain ⟨-, huser, hrole, hwithin⟩ := loadRoleChange_ok load
    exact ⟨ht.1, huser, h.held_of_role hseeded ht.1 hrole hwithin⟩
  | found versions_eq =>
    subst versions_eq
    exact ⟨ht.1, ht.2.1, ht.2.2, fun it hit _ => List.mem_map_of_mem hit⟩
  | waited => exact ht

/-- **The events keep every user within what was held.** -/
theorem administering_within (cfg : AuthSettings) (hseeded : s₀.SeededFrom M) :
    (administering cfg M).Keeps (fun _ _ => True) (PermissionsWithin s₀)
      fun _ s t => t.Within s₀ s where
  start _ _ _ _ _ := trivial
  read _ _ _ _ _ hI ht hnext hf := (administering_advance (.read hnext hf)).within hI hseeded ht
  lock _ _ _ _ _ _ hI ht hnext hf :=
    (administering_advance (.lock hnext hf)).within hI hseeded ht
  commit sv k t f s hinv _ hopen hnext hf := by
    obtain ⟨actor, task, rfl, hstep⟩ := administering_step hnext hf
    have hknows := hinv.sessions k _ hopen
    exact hinv.tables.commit hseeded hknows.1 hknows.2 hstep
  stable sv k t f s j u hinv _ _ hnext hf _ hj := by
    obtain ⟨actor, task, -, hstep⟩ := administering_step hnext hf
    exact AdminWork.Within.stable hinv.tables (hinv.sessions j u hj) hstep

/-- **Nobody comes to have more than an administrator had.**  However the requests run side by
side, a user's roles are among those it had at the start, or it has no permission but those of
users who could manage users then. -/
theorem permissions_within {sv : Server AccountTables AdminLock AdminWork}
    (hseeded : s₀.SeededFrom M) (hreferenced : s₀.Referenced)
    (hrun : Reaches (administering cfg M).exec (fun _ _ => True) { tables := s₀ } sv)
    (userId : ℕ) : (∀ it ∈ sv.tables.rolesOf userId, it ∈ s₀.rolesOf userId) ∨
      ∀ p ∈ sv.tables.getUserPermissions userId, s₀.Held p := by
  have hstart : PermissionsWithin s₀ s₀ := ⟨rfl, rfl, le_rfl, hreferenced, fun _ => .inl fun _ => id⟩
  have hinv := (administering_within cfg hseeded).reaches (Server.inv_of_tables hstart) hrun
  exact hinv.tables.users userId

end Within

/-! ### Two administrators and a cashier -/

/-- The roles of a matrix and what they grant, as the migration inserts them. -/
def AccountTables.seed (M : RoleMatrix) (auth : AuthTables) (emails : List String)
    (userRoles : List UserRole) : AccountTables where
  auth := auth
  emails := emails
  roles := M.allRoles.map Role.mk
  rolePermissions := M.allRoles.zipIdx.flatMap fun r =>
    (M.rolePermissions r.1).map (RolePermission.mk r.2)
  userRoles := userRoles

/-- What the migration inserts is what the matrix says. -/
theorem AccountTables.seededFrom_seed (M : RoleMatrix) (auth : AuthTables) (emails : List String)
    (userRoles : List UserRole) : (seed M auth emails userRoles).SeededFrom M := by
  intro roleId role hrole p hp
  obtain ⟨row, hrow, rfl⟩ := List.mem_map.mp hp
  obtain ⟨hrow, hid⟩ := List.mem_filter.mp hrow
  obtain ⟨⟨roleName, i⟩, hname, hrow⟩ := List.mem_flatMap.mp hrow
  obtain ⟨q, hq, rfl⟩ := List.mem_map.mp hrow
  have hi : i = roleId := of_decide_eq_true hid
  subst hi
  have hname : M.allRoles[i]? = some roleName := List.mem_zipIdx_iff_getElem?.mp hname
  have hsame : (M.allRoles.map Role.mk)[i]? = some role := hrole
  rw [List.getElem?_map, hname] at hsame
  cases hsame
  exact hq

def officeUser (username : String) : User := ⟨username, (· = username), true, none, false, [], false⟩

/-- An office with two administrators, Amina and Omar, and the cashier Lena. -/
def office : AccountTables :=
  .seed roleMatrix { users := [officeUser "amina", officeUser "omar", officeUser "lena"] }
    ["amina@shop", "omar@shop", "lena@shop"] [⟨0, 0, false⟩, ⟨1, 0, false⟩, ⟨2, 2, false⟩]

def officeSettings : AuthSettings := ⟨id, 0⟩

theorem office_seeded : office.SeededFrom roleMatrix := 
  AccountTables.seededFrom_seed _ _ _ _

theorem office_referenced : office.Referenced := by
  intro userId it hit
  obtain ⟨hr, rfl, -⟩ := AccountTables.mem_rolesOf.mp hit
  have hall : ∀ r ∈ office.userRoles, r.userId < office.auth.users.length := by decide
  exact hall _ (mem_of_row hr)

/-- Amina makes the cashier a manager, one step of the request after the other. -/
def promotion : List (Event AdminCall) :=
  .begin 0 ⟨0, .updateUserRole ⟨2, managerRole⟩⟩ :: List.replicate 6 (.step 0)

def promoted : Server AccountTables AdminLock AdminWork :=
  value (promotion.foldlM (fun sv e => (administering officeSettings roleMatrix).exec e sv)
    { tables := office }) (by decide +kernel)

theorem permissions_within_lena : .salesVoid ∈ promoted.tables.getUserPermissions 2 ∧
    ((∀ it ∈ promoted.tables.rolesOf 2, it ∈ office.rolesOf 2) ∨
      ∀ p ∈ promoted.tables.getUserPermissions 2, office.Held p) := by
  have hrun : Reaches (administering officeSettings roleMatrix).exec (fun _ _ => True)
      { tables := office } promoted := reaches_of_foldlM (eq_ok_value _ _)
  exact ⟨by decide +kernel, permissions_within office_seeded office_referenced hrun 2⟩

end GroceryErp
