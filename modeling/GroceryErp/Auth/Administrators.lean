import GroceryErp.Auth.Administration

/-!
# Administrators remain

The system is not left without an administrator as long as those who commit still are
administrators, and every user has one role as long as no two changes of it overlap.  Two
administrators who deactivate each other at one time leave none, and two changes of one user's
role at one time leave both roles.

## Main definitions

* `Administrator` — an active user who may manage users.
* `CommitsAsAdministrator` — who commits may manage users at that moment.
* `ChangesUndisturbed` — a change of role is not overlapped by another.

## Main results

* `administrators_remain` — **an administrator remains while administrators commit.**
* `administrators_locked_out` — without that, none may remain.
* `role_names_found` — **every user's role can be told while changes of it do not overlap.**
* `two_roles_at_once` — otherwise it may not.

## References

`backend/app/modules/auth/service.py`, `update_user_role`, `deactivate_user`,
`get_user_role_name`.
-/

namespace GroceryErp

open Outcome Rows Runs Transactions

/-! ### An administrator remains -/

/-- An active user who may manage users, by one of the roles it holds. -/
structure AccountTables.Administrator (s : AccountTables) (userId : ℕ) : Prop where
  active : ∃ user, s.auth.users[userId]? = some user ∧ user.isActive = true
  manages : .usersManage ∈ s.getUserPermissions userId

/-- The deactivation is of another user than its actor. -/
def AuthWork.DeactivatesOther (actorId : ℕ) : AuthWork → Prop
  | deactivate req => req.actorId = actorId
  | readActive r => r.userId ≠ actorId
  | revoke r _ _ => r.userId ≠ actorId
  | _ => False

/-- The request leaves the actor its account and its roles. -/
def AdminTask.Spares (actorId : ℕ) (s : AccountTables) : AdminTask → Prop
  | findRoles targetUserId _ => targetUserId ≠ actorId
  | changeRole targetUserId _ found _ => targetUserId ≠ actorId ∧
    ∀ i ∈ found, ∃ r, s.userRoles[i]? = some r ∧ r.userId = targetUserId
  | deactivate work => work.DeactivatesOther actorId
  | _ => True

def AdminWork.Spares (s : AccountTables) : AdminWork → Prop
  | serve actor task => task.Spares actor.id s
  | _ => True

/-- The actor of a session that is about to commit. -/
def AdminWork.commitsFor : AdminWork → Option ℕ
  | serve actor (.create _) | serve actor (.reactivate _) | serve actor .leaveActive
  | serve actor (.changeRole _ _ _ []) | serve actor (.deactivate (.revoke _ _ [])) =>
    some actor.id
  | _ => none

/-- Whoever commits may manage users at that moment, and not only when the request came in. -/
def CommitsAsAdministrator (sv : Server AccountTables AdminLock AdminWork) :
    Event AdminCall → Prop
  | .step k => ∀ work ∈ sv.sessions k, ∀ actorId ∈ work.commitsFor,
    sv.tables.Administrator actorId
  | _ => True

section Administrators

variable {cfg : AuthSettings} {M : RoleMatrix} {s₀ s s' : AccountTables} {actor : CurrentUser}
  {task : AdminTask}

/-- The actor of a request stays active through it, unless it is a deactivation of the actor. -/
theorem AdminStep.active (h : AdminStep cfg M s actor task s') (hspares : task.Spares actor.id s)
    {user : User} (huser : s.auth.users[actor.id]? = some user) (hactive : user.isActive = true) :
    ∃ user', s'.auth.users[actor.id]? = some user' ∧ user'.isActive = true := by
  have hlt : actor.id < s.auth.users.length := (List.getElem?_eq_some_iff.mp huser).1
  cases h with
  | created => exact ⟨user, by rw [List.getElem?_append_left hlt, huser], hactive⟩
  | leftActive | roleChanged => exact ⟨user, huser, hactive⟩
  | reactivated =>
    unfold AccountTables.setActive
    dsimp only
    rw [List.getElem?_modify, huser]
    refine ⟨_, rfl, ?_⟩
    dsimp only
    split
    · rfl
    · exact hactive
  -- a session of `auth` writes the users only where it deactivates one
  | deactivated step =>
    cases step with
    | issued | rotated => exact ⟨user, huser, hactive⟩
    | @revoked r tokenIds =>
      change r.userId ≠ actor.id at hspares
      unfold Revocation.write AuthTables.revokeTokens
      split
      · exact ⟨user, by rw [getElem?_setInactive huser, if_neg hspares], hactive⟩
      · exact ⟨user, huser, hactive⟩

/-- A step keeps the roles of its actor, unless it changes the actor's own role. -/
theorem AdminStep.roles_kept (h : AdminStep cfg M s actor task s')
    (hspares : task.Spares actor.id s) {it : ℕ × UserRole} (hit : it ∈ s.rolesOf actor.id) :
    it ∈ s'.rolesOf actor.id := by
  obtain ⟨hr, huser, hlive⟩ := AccountTables.mem_rolesOf.mp hit
  refine AccountTables.mem_rolesOf.mpr ⟨h.kept hr fun hdeleted => ?_, huser, hlive⟩
  cases task with
  | changeRole targetUserId roleId found waiting =>
    obtain ⟨r, hfound, htarget⟩ := hspares.2 _ hdeleted
    rw [hr] at hfound
    cases hfound
    exact hspares.1 (htarget.symm.trans huser)
  | create | loadReactivated | lockReactivated | reactivate | leaveActive | loadRoleChange
  | findRoles | deactivate => exact List.not_mem_nil hdeleted

/-- **An administrator who commits still is one afterwards.** -/
theorem AdminStep.administrator (h : AdminStep cfg M s actor task s')
    (hspares : task.Spares actor.id s) (hactor : s.Administrator actor.id) :
    s'.Administrator actor.id where
  active := by
    obtain ⟨user, huser, hactive⟩ := hactor.active
    exact h.active hspares huser hactive
  manages := by
    obtain ⟨it, hit, hp⟩ := AccountTables.mem_getUserPermissions.mp hactor.manages
    rw [← AccountTables.permissionsOf_congr h.roles.2] at hp
    exact AccountTables.mem_getUserPermissions.mpr ⟨it, h.roles_kept hspares hit, hp⟩

theorem AdminStep.commitsFor (h : AdminStep cfg M s actor task s')
    (hspares : task.Spares actor.id s) : (AdminWork.serve actor task).commitsFor = some actor.id := by
  cases h with
  | created | reactivated | leftActive | roleChanged => rfl
  | deactivated step =>
    cases step with
    | issued | rotated => exact hspares.elim
    | revoked => rfl

theorem AdminRequest.spares (request : AdminRequest) (actorId : ℕ) :
    (request.task actorId).Spares actorId s := by
  cases request with
  | createUser | reactivateUser | updateUserRole => trivial
  | deactivateUser => rfl

/-- A deactivation of another user stays one. -/
theorem AuthWork.DeactivatesOther.advance {work work' : AuthWork} {actorId : ℕ}
    {auth : AuthTables} (h : work.DeactivatesOther actorId)
    (hadvance : (authenticating cfg).Advances auth work work') :
    work'.DeactivatesOther actorId := by
  -- the target is compared with the actor once, where it is loaded, and kept from then on
  cases work with
  | authenticate | touchUser | issue | present | checkUser | rotate => exact h.elim
  | deactivate req =>
    cases hadvance with
    | lock next => cases next
    | read next result =>
      cases next
      obtain ⟨wasActive, hload, rfl⟩ := Option.map_eq_some_iff.mp result
      have htarget := toOption_eq_some.mp hload
      unfold loadTarget at htarget
      simp only [↓check_bind_eq_ok, raiseIf_eq_ok] at htarget
      intro hself
      exact htarget.1 (hself.trans h.symm)
  | readActive r =>
    cases hadvance with
    | lock next => cases next
    | read next result =>
      cases next
      cases result
      exact h
  | revoke r tokenIds waiting =>
    cases waiting with
    | nil =>
      cases hadvance with
      | read next | lock next => cases next
    | cons row waiting =>
      cases hadvance with
      | read next => cases next
      | lock next result =>
        cases next
        cases result
        exact h

/-- **A request goes on sparing its actor.** -/
theorem AdminAdvance.spares {t t' : AdminWork} (hadvance : AdminAdvance cfg M s t t')
    (ht : t.Spares s) : t'.Spares s := by
  cases hadvance with
  | authenticated | foundActive | foundInactive | locked => trivial
  | @authorized call manages => exact call.request.spares call.actorId
  | loaded load => exact (loadRoleChange_ok load).1
  | found versions_eq =>
    subst versions_eq
    refine ⟨ht, fun i hi => ?_⟩
    obtain ⟨it, hit, rfl⟩ := List.mem_map.mp hi
    obtain ⟨hr, huser, -⟩ := AccountTables.mem_rolesOf.mp hit
    exact ⟨it.2, hr, huser⟩
  | waited => exact ht
  | deactivating advance => exact AuthWork.DeactivatesOther.advance ht advance

/-- **The events leave an administrator while administrators commit.** -/
theorem administering_administrators (cfg : AuthSettings) (M : RoleMatrix) :
    (administering cfg M).Keeps CommitsAsAdministrator
      (fun s => ∃ userId, s.Administrator userId) fun _ s t => t.Spares s where
  start _ _ _ _ _ := trivial
  read _ _ _ _ _ _ ht hnext hf := (administering_advance (.read hnext hf)).spares ht
  lock _ _ _ _ _ _ _ ht hnext hf := (administering_advance (.lock hnext hf)).spares ht
  commit sv k t f s hinv hok hopen hnext hf := by
    obtain ⟨actor, task, rfl, hstep⟩ := administering_step hnext hf
    have hspares := hinv.sessions k _ hopen
    have hactor := hok _ hopen _ (hstep.commitsFor hspares)
    exact ⟨actor.id, hstep.administrator hspares hactor⟩
  stable sv k t f s j u hinv _ _ hnext hf _ hj := by
    obtain ⟨actor, task, -, hstep⟩ := administering_step hnext hf
    have hu := hinv.sessions j u hj
    -- another session spares the administrators still, as the commit may have moved only versions
    -- it waits for
    cases u with
    | authenticate | authorize => trivial
    | serve actor' task' =>
      cases task' with
      | create | loadReactivated | lockReactivated | reactivate | leaveActive | loadRoleChange
      | findRoles | deactivate => exact hu
      | changeRole targetUserId roleId found waiting =>
        refine ⟨hu.1, fun i hi => ?_⟩
        obtain ⟨r, hr, huser⟩ := hu.2 i hi
        obtain ⟨r', hr', hsame⟩ := hstep.version hr
        exact ⟨r', hr', hsame.trans huser⟩

/-- **An administrator remains.**  Requests may run side by side: as long as everyone who
commits is still an active user who may manage users, there is such a user. -/
theorem administrators_remain {sv : Server AccountTables AdminLock AdminWork}
    (hstart : ∃ userId, s₀.Administrator userId)
    (hrun : Reaches (administering cfg M).exec CommitsAsAdministrator { tables := s₀ } sv) :
    ∃ userId, sv.tables.Administrator userId :=
  ((administering_administrators cfg M).reaches (Server.inv_of_tables hstart) hrun).tables

end Administrators

/-! ### One role each -/

/-- Whose role a session is about to change, with the versions that its DELETE has found. -/
def AdminWork.changes : AdminWork → Option (ℕ × List ℕ)
  | serve _ (.changeRole targetUserId _ found []) => some (targetUserId, found)
  | _ => none

/-- The roles of the user are still those that the DELETE has found. -/
def ChangesUndisturbed (sv : Server AccountTables AdminLock AdminWork) : Event AdminCall → Prop
  | .step k => ∀ work ∈ sv.sessions k, ∀ change ∈ work.changes,
    ∀ it ∈ sv.tables.rolesOf change.1, it.1 ∈ change.2
  | _ => True

section OneRole

variable {cfg : AuthSettings} {M : RoleMatrix} {s₀ s s' : AccountTables} {actor : CurrentUser}
  {task : AdminTask}

/-- No user has two roles at once, which is what `get_user_role_name` relies on. -/
def AccountTables.OneRoleEach (s : AccountTables) : Prop :=
  ∀ userId, (s.rolesOf userId).length ≤ 1

theorem AccountTables.oneRoleEach_iff : s.OneRoleEach ↔
    ∀ userId, ∀ it ∈ s.rolesOf userId, ∀ it' ∈ s.rolesOf userId, it = it' := by
  refine forall_congr' fun userId => ?_
  have hnodup : (s.rolesOf userId).Nodup := (nodup_fst_rowsWhere _ _).of_map
  revert hnodup
  rcases s.rolesOf userId with _ | ⟨a, _ | ⟨b, l⟩⟩
  · simp
  · simp
  · refine fun hnodup => iff_of_false (by simp) fun hsame => ?_
    have hab : a = b := hsame a (by simp) b (by simp)
    exact (List.nodup_cons.mp hnodup).1 (hab ▸ List.mem_cons_self)

/-- **A change that nothing has disturbed leaves one role each.** -/
theorem AdminStep.oneRoleEach (h : AdminStep cfg M s actor task s') (hone : s.OneRoleEach)
    (hreferenced : s.Referenced)
    (hundisturbed : ∀ change ∈ (AdminWork.serve actor task).changes,
      ∀ it ∈ s.rolesOf change.1, it.1 ∈ change.2) : s'.OneRoleEach := by
  rw [AccountTables.oneRoleEach_iff] at hone ⊢
  -- a role that is left is not beside one that is assigned
  have halone : ∀ {userId roleId : ℕ} {it : ℕ × UserRole}, it ∈ s.rolesOf userId →
      it.1 ∉ task.deletes → ¬task.Assigns s userId roleId := by
    intro userId roleId it hit hkept hassigns
    cases hassigns with
    | create => exact lt_irrefl _ (hreferenced _ it hit)
    | changeRole => exact hkept (hundisturbed _ rfl it hit)
  intro userId it hit it' hit'
  obtain ⟨hr, huser, hlive⟩ := AccountTables.mem_rolesOf.mp hit
  obtain ⟨hr', huser', hlive'⟩ := AccountTables.mem_rolesOf.mp hit'
  rcases h.live hr hlive with ⟨hbefore, hkept⟩ | ⟨hnew, hassigns⟩
  · have hold : it ∈ s.rolesOf userId := AccountTables.mem_rolesOf.mpr ⟨hbefore, huser, hlive⟩
    rcases h.live hr' hlive' with ⟨hbefore', -⟩ | ⟨-, hassigns'⟩
    · exact hone userId it hold it' (AccountTables.mem_rolesOf.mpr ⟨hbefore', huser', hlive'⟩)
    · exact absurd (huser' ▸ hassigns') (halone hold hkept)
  · rcases h.live hr' hlive' with ⟨hbefore', hkept'⟩ | ⟨hnew', -⟩
    · have hold' : it' ∈ s.rolesOf userId :=
        AccountTables.mem_rolesOf.mpr ⟨hbefore', huser', hlive'⟩
      exact absurd (huser ▸ hassigns) (halone hold' hkept')
    · have hindex : it.1 = it'.1 := hnew.trans hnew'.symm
      rw [hindex, hr'] at hr
      exact Prod.ext hindex (Option.some.inj hr).symm

theorem AccountTables.OneRoleEach.getUserRoleName (h : s.OneRoleEach) (userId : ℕ) :
    ∃ roleName, s.getUserRoleName userId = .ok roleName := by
  have hone : ∀ names : List String, names.length ≤ 1 →
      ∃ roleName, (scalarOneOrNone names).mapError AccountError.app = .ok roleName := by
    intro names hlength
    rcases names with _ | ⟨a, _ | ⟨b, l⟩⟩
    · exact ⟨none, rfl⟩
    · exact ⟨some a, rfl⟩
    · simp at hlength
  exact hone _ ((List.length_filterMap_le _ _).trans (h userId))

/-- **One role each.**  As long as no two changes of one user's role overlap, every user's role
can be told. -/
theorem role_names_found {sv : Server AccountTables AdminLock AdminWork}
    (hseeded : s₀.SeededFrom M) (hreferenced : s₀.Referenced) (hone : s₀.OneRoleEach)
    (hrun : Reaches (administering cfg M).exec ChangesUndisturbed { tables := s₀ } sv)
    (userId : ℕ) : ∃ roleName, sv.tables.getUserRoleName userId = .ok roleName := by
  have hstart : PermissionsWithin s₀ s₀ := ⟨rfl, rfl, le_rfl, hreferenced, fun _ => .inl fun _ => id⟩
  have hall : sv.tables.OneRoleEach := by
    induction hrun with
    | start => exact hone
    | @next sv sv' e run meets done ih =>
      have hinv := (administering_within cfg hseeded).reaches (Server.inv_of_tables hstart)
        (run.mono fun _ _ _ => trivial)
      rcases (Program.exec_did done).tables with hsame | ⟨k, t, f, rfl, hopen, hnext, hf⟩
      · rw [hsame]
        exact ih
      · obtain ⟨actor, task, rfl, hstep⟩ := administering_step hnext hf
        exact hstep.oneRoleEach ih hinv.tables.referenced (meets _ hopen)
  exact hall.getUserRoleName userId

end OneRole

/-! ### Two administrators and a cashier -/

instance (s : AccountTables) (userId : ℕ) : Decidable (s.Administrator userId) :=
  decidable_of_iff ((∃ user ∈ s.auth.users[userId]?, user.isActive = true) ∧
    .usersManage ∈ s.getUserPermissions userId)
    ⟨fun h => ⟨h.1, h.2⟩, fun h => ⟨h.active, h.manages⟩⟩

instance (sv : Server AccountTables AdminLock AdminWork) :
    ∀ e, Decidable (CommitsAsAdministrator sv e)
  | .begin _ _ | .rollback _ => isTrue trivial
  | .step k => inferInstanceAs (Decidable (∀ work ∈ sv.sessions k,
    ∀ actorId ∈ work.commitsFor, sv.tables.Administrator actorId))

instance (sv : Server AccountTables AdminLock AdminWork) :
    ∀ e, Decidable (ChangesUndisturbed sv e)
  | .begin _ _ | .rollback _ => isTrue trivial
  | .step k => inferInstanceAs (Decidable (∀ work ∈ sv.sessions k,
    ∀ change ∈ work.changes, ∀ it ∈ sv.tables.rolesOf change.1, it.1 ∈ change.2))

theorem office_oneRoleEach : office.OneRoleEach := by
  rw [AccountTables.oneRoleEach_iff]
  intro userId it hit it' hit'
  have hall : ∀ userId < 3, ∀ it ∈ office.rolesOf userId, ∀ it' ∈ office.rolesOf userId,
      it = it' := by decide
  exact hall userId (office_referenced userId it hit) it hit it' hit'

/-- The cashier's promotion, with no other request beside it. -/
def undisturbed : Server AccountTables AdminLock AdminWork :=
  value (promotion.foldlM (guarded (administering officeSettings roleMatrix).exec
    (fun sv e => CommitsAsAdministrator sv e ∧ ChangesUndisturbed sv e) .blocked)
    { tables := office }) (by decide +kernel)

theorem reaches_undisturbed : Reaches (administering officeSettings roleMatrix).exec
    (fun sv e => CommitsAsAdministrator sv e ∧ ChangesUndisturbed sv e) { tables := office }
    undisturbed :=
  reaches_of_guarded (eq_ok_value _ _)

theorem administrators_remain_amina : ∃ userId, undisturbed.tables.Administrator userId :=
  administrators_remain ⟨0, by decide +kernel⟩ (reaches_undisturbed.mono fun _ _ => And.left)

theorem role_names_found_lena : ∃ roleName, undisturbed.tables.getUserRoleName 2 = .ok roleName :=
  role_names_found office_seeded office_referenced office_oneRoleEach
    (reaches_undisturbed.mono fun _ _ => And.right) 2

/-- The two administrators deactivate each other at one time. -/
def deactivations : List (Event AdminCall) :=
  [.begin 0 ⟨0, .deactivateUser 1 0⟩, .begin 1 ⟨1, .deactivateUser 0 0⟩]
    ++ List.replicate 4 (.step 0) ++ List.replicate 6 (.step 1) ++ List.replicate 2 (.step 0)

def lockout : Server AccountTables AdminLock AdminWork :=
  value (deactivations.foldlM (fun sv e => (administering officeSettings roleMatrix).exec e sv)
    { tables := office }) (by decide +kernel)

/-- **Without an administrator.**  Administrators who deactivate each other side by side leave
none. -/
theorem administrators_locked_out : office.Administrator 0 ∧
    Reaches (administering officeSettings roleMatrix).exec (fun _ _ => True) { tables := office }
      lockout ∧ ∀ userId, ¬lockout.tables.Administrator userId := by
  refine ⟨by decide +kernel, reaches_of_foldlM (eq_ok_value _ _), fun userId hadmin => ?_⟩
  obtain ⟨user, huser, -⟩ := hadmin.active
  have hlength : lockout.tables.auth.users.length = 3 := by decide +kernel
  have hlt : userId < 3 := hlength ▸ (List.getElem?_eq_some_iff.mp huser).1
  have hnone : ∀ userId < 3, ¬lockout.tables.Administrator userId := by decide +kernel
  exact hnone userId hlt hadmin

/-- Both administrators change the cashier's role at one time. -/
def changesAtOnce : List (Event AdminCall) :=
  [.begin 0 ⟨0, .updateUserRole ⟨2, managerRole⟩⟩, .begin 1 ⟨1, .updateUserRole ⟨2, auditorRole⟩⟩]
    ++ List.replicate 4 (.step 0) ++ List.replicate 4 (.step 1)
    ++ List.replicate 2 (.step 0) ++ List.replicate 2 (.step 1)

def promotedTwice : Server AccountTables AdminLock AdminWork :=
  value (changesAtOnce.foldlM (fun sv e => (administering officeSettings roleMatrix).exec e sv)
    { tables := office }) (by decide +kernel)

/-- **Two roles.**  Changes of one user's role that overlap leave both, and its role cannot be
told. -/
theorem two_roles_at_once :
    Reaches (administering officeSettings roleMatrix).exec (fun _ _ => True) { tables := office }
      promotedTwice ∧ promotedTwice.tables.getUserRoleName 2 = .error (.app .multipleRows) :=
  ⟨reaches_of_foldlM (eq_ok_value _ _), by decide +kernel⟩

end GroceryErp
