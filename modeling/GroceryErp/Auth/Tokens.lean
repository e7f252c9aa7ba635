import GroceryErp.Lib.Transactions
import GroceryErp.Schema

/-!
# Refresh tokens

A login issues a refresh token.  Presenting it revokes it and issues its successor; a token
that is presented when it is already revoked is taken for stolen, and every token of its
user is revoked.  Deactivating a user revokes them as well.

Only the hash of a token is kept, and the hash is what a presented token is found by.

## Main definitions

* `RefreshToken`, `AuthTables` — the tables.
* `login`, `refreshAccessToken`, `deactivateUser` — the service functions.
* `AuthWork`, `authenticating` — the calls as sessions at READ COMMITTED.
* `AuthStep` — what a session that commits has done.

## Main results

* `refreshAccessToken_steps`, `deactivateUser_steps` — a call is its steps, one after the
  other.
* `authenticating_step` — every commit is one of three.
* `AuthStep.token` — what a commit leaves of a token.

## References

`backend/app/modules/auth/service.py`, `login`, `refresh_access_token`, `deactivate_user`,
`_revoke_all_refresh_tokens_for_user`; `backend/app/core/security.py`.
-/

namespace GroceryErp

open Outcome Rows Runs Transactions

/-! ### The tables -/

structure RefreshToken where
  userId : ℕ
  tokenHash : String
  expiresAt : Instant
  revokedAt : Option Instant := none
  deriving DecidableEq

/-- The tables.  `rotations` is none of them: it records which token was issued for which. -/
structure AuthTables where
  users : List User
  refreshTokens : List RefreshToken := []
  rotations : List (ℕ × ℕ) := []

structure AuthSettings where
  /-- `hash_refresh_token`: only the hash of a token is stored, and a token is looked up by it. -/
  hashRefreshToken : String → String
  /-- `REFRESH_TOKEN_EXPIRE_DAYS`, in microseconds as all times are. -/
  refreshTokenExpire : ℤ

/-- A new token, of which the client gets `raw`. -/
def AuthSettings.newToken (cfg : AuthSettings) (userId : ℕ) (raw : String) (now : Instant) :
    RefreshToken where
  userId := userId
  tokenHash := cfg.hashRefreshToken raw
  expiresAt := now + cfg.refreshTokenExpire

namespace AuthTables

/-- The token with a hash, which is a unique key. -/
def tokenWithHash (s : AuthTables) (tokenHash : String) : List (ℕ × RefreshToken) :=
  rowsWhere (·.tokenHash = tokenHash) s.refreshTokens

/-- The ids of the tokens of the user that are not revoked. -/
def activeTokens (s : AuthTables) (userId : ℕ) : List ℕ :=
  (rowsWhere (fun t => t.userId = userId ∧ t.revokedAt = none) s.refreshTokens).map Prod.fst

def insertToken (s : AuthTables) (token : RefreshToken) : Result AuthTables := do
  checkUnique (∃ t ∈ s.refreshTokens, t.tokenHash = token.tokenHash) .uqRefreshTokensTokenHash
  return { s with refreshTokens := s.refreshTokens ++ [token] }

def revokeTokens (s : AuthTables) (tokenIds : List ℕ) (now : Instant) : AuthTables :=
  { s with
    refreshTokens := s.refreshTokens.mapIdx fun i t =>
      if i ∈ tokenIds then { t with revokedAt := some now } else t }

def setInactive (s : AuthTables) (userId : ℕ) : AuthTables :=
  { s with users := s.users.modify userId fun user => { user with isActive := false } }

/-- `_revoke_all_refresh_tokens_for_user`: the tokens that have not been revoked, of every session
of the user. -/
def revokeAllRefreshTokensForUser (s : AuthTables) (userId : ℕ) (now : Instant) : AuthTables :=
  s.revokeTokens (s.activeTokens userId) now

end AuthTables

/-! ### The calls -/

/-- A login; `rawRefresh` is the token that is generated for it. -/
structure Login where
  username : String
  password : String
  rawRefresh : String
  now : Instant

/-- `authenticate_user`: an unknown name, an inactive user and a wrong password are told apart by
nothing in the error. -/
def authenticateUser (s : AuthTables) (username password : String) : Result ℕ := do
  let found ← scalarOneOrNone (rowsWhere (·.username = username) s.users)
  let (userId, user) ← orRaise found (.unauthorized .invalidCredentials)
  raiseIf (¬user.isActive ∨ ¬user.verifyPassword password) (.unauthorized .invalidCredentials)
  return userId

/-- `login`: a user who is authenticated is given a refresh token of their own; the tokens of other
sessions stay good. -/
def login (cfg : AuthSettings) (s : AuthTables) (req : Login) : Result AuthTables := do
  let userId ← authenticateUser s req.username req.password
  s.insertToken (cfg.newToken userId req.rawRefresh req.now)

/-- A refresh; `rawNew` is the token that is generated for it. -/
structure RefreshAccessToken where
  rawRefreshToken : String
  rawNew : String
  now : Instant

/-- What has become of a presented token: it is taken for stolen, or is to be rotated. -/
inductive Presented
  | reused (userId : ℕ)
  | valid (tokenId userId : ℕ)
  deriving DecidableEq

/-- What `refresh_access_token` does under the lock of the token. -/
def presentToken (cfg : AuthSettings) (s : AuthTables) (req : RefreshAccessToken) :
    Result Presented := do
  let found ← scalarOneOrNone (s.tokenWithHash (cfg.hashRefreshToken req.rawRefreshToken))
  let (tokenId, row) ← orRaise found (.unauthorized .unauthorized)
  if row.revokedAt ≠ none then return .reused row.userId else do
    raiseIf (row.expiresAt < req.now) (.unauthorized .unauthorized)
    return .valid tokenId row.userId

/-- The user of a token has to be active. -/
def checkTokenUser (s : AuthTables) (userId : ℕ) : Result Unit := do
  let user ← orRaise s.users[userId]? (.unauthorized .unauthorized)
  raiseIf (¬user.isActive) (.unauthorized .unauthorized)

/-- The token is revoked, and its successor issued, in one transaction. -/
def rotateToken (cfg : AuthSettings) (s : AuthTables) (req : RefreshAccessToken)
    (tokenId userId : ℕ) : Result AuthTables := do
  let s ← (s.revokeTokens [tokenId] req.now).insertToken (cfg.newToken userId req.rawNew req.now)
  return { s with rotations := s.rotations ++ [(tokenId, s.refreshTokens.length - 1)] }

/-- `refresh_access_token`: the tables, and the user whose token is rotated; none where the
call commits the revocations and then answers that it is unauthorized. -/
def refreshAccessToken (cfg : AuthSettings) (s : AuthTables) (req : RefreshAccessToken) :
    Result (AuthTables × Option ℕ) := do
  match ← presentToken cfg s req with
  | .reused userId => return (s.revokeAllRefreshTokensForUser userId req.now, none)
  | .valid tokenId userId => do
    checkTokenUser s userId
    let s ← rotateToken cfg s req tokenId userId
    return (s, some userId)

structure DeactivateUser where
  targetUserId : ℕ
  actorId : ℕ
  now : Instant

/-- What `deactivate_user` checks, and whether it finds the user active. -/
def loadTarget (s : AuthTables) (req : DeactivateUser) : Result Bool := do
  raiseIf (req.targetUserId = req.actorId) (.conflict .cannotDeactivateSelf)
  let user ← orRaise s.users[req.targetUserId]? .notFound
  return user.isActive

/-- `deactivate_user`: the user is inactive and every refresh token is revoked, in one transaction.
-/
def deactivateUser (s : AuthTables) (req : DeactivateUser) : Result AuthTables := do
  let _ ← loadTarget s req
  return (s.setInactive req.targetUserId).revokeAllRefreshTokensForUser req.targetUserId req.now

/-! ### The sessions -/

/-- The row of a user, or of the token with a hash. -/
inductive AuthLock
  | user (userId : ℕ)
  | token (tokenHash : String)
  deriving DecidableEq

inductive AuthRequest
  | login (req : Login)
  | refresh (req : RefreshAccessToken)
  | deactivate (req : DeactivateUser)

/-- Why the tokens of a user are revoked: one of them was used twice, or the user is deactivated. -/
inductive RevocationCause
  | reuseDetected
  | deactivated (wasActive : Bool)
  deriving DecidableEq

structure Revocation where
  userId : ℕ
  now : Instant
  cause : RevocationCause

/-- How far a call has come, with what it has read on its way. -/
inductive AuthWork
  | authenticate (req : Login)
  /-- The update of `last_login_at` waits for the user's row. -/
  | touchUser (req : Login) (userId : ℕ)
  | issue (req : Login) (userId : ℕ)
  | present (req : RefreshAccessToken)
  | checkUser (req : RefreshAccessToken) (tokenId userId : ℕ)
  | rotate (req : RefreshAccessToken) (tokenId userId : ℕ)
  | deactivate (req : DeactivateUser)
  | readActive (r : Revocation)
  /-- The updates wait for the rows, one after the other. -/
  | revoke (r : Revocation) (tokenIds : List ℕ) (waiting : List AuthLock)

namespace Revocation

/-- The rows that the updates are of: the user's where it was active, and the tokens'. -/
def rows (r : Revocation) (s : AuthTables) : List AuthLock :=
  (if r.cause = .deactivated true then [.user r.userId] else [])
    ++ (rowsWhere (fun t => t.userId = r.userId ∧ t.revokedAt = none) s.refreshTokens).map
      fun it => .token it.2.tokenHash

/-- The updates: of the user, where that changes it, and of the tokens that were read. -/
def write (r : Revocation) (s : AuthTables) (tokenIds : List ℕ) : AuthTables :=
  (if r.cause = .deactivated true then s.setInactive r.userId else s).revokeTokens tokenIds r.now

end Revocation

/-- What a presented token leads to: a rotation, an error, or the end of all sessions of its user.
-/
def AuthWork.ofPresented (req : RefreshAccessToken) : Presented → AuthWork
  | .reused userId => .readActive ⟨userId, req.now, .reuseDetected⟩
  | .valid tokenId userId => .checkUser req tokenId userId

/-- The calls, each in a session of its own.  A plain read takes no lock; the updates of a
revocation wait for the locks of their rows, but not for what they would read there. -/
def authenticating (cfg : AuthSettings) : Program AuthTables AuthLock AuthWork AuthRequest where
  start
    | .login req => .authenticate req
    | .refresh req => .present req
    | .deactivate req => .deactivate req
  next
    | .authenticate req => .read fun s =>
      (authenticateUser s req.username req.password).toOption.map fun userId =>
        .touchUser req userId
    | .touchUser req userId => .lock (.user userId) fun _ => some (.issue req userId)
    | .issue req userId => .commit fun s =>
      (s.insertToken (cfg.newToken userId req.rawRefresh req.now)).toOption
    | .present req => .lock (.token (cfg.hashRefreshToken req.rawRefreshToken)) fun s =>
      (presentToken cfg s req).toOption.map (.ofPresented req)
    | .checkUser req tokenId userId => .read fun s =>
      (checkTokenUser s userId).toOption.map fun _ => .rotate req tokenId userId
    | .rotate req tokenId userId => .commit fun s => (rotateToken cfg s req tokenId userId).toOption
    | .deactivate req => .read fun s => (loadTarget s req).toOption.map fun wasActive =>
      .readActive ⟨req.targetUserId, req.now, .deactivated wasActive⟩
    | .readActive r => .read fun s => some (.revoke r (s.activeTokens r.userId) (r.rows s))
    | .revoke r tokenIds [] => .commit fun s => some (r.write s tokenIds)
    | .revoke r tokenIds (row :: waiting) => .lock row fun _ => some (.revoke r tokenIds waiting)

/-! ### With nothing between -/

section Steps

variable {cfg : AuthSettings} {s s' : AuthTables}

theorem getElem?_setInactive {userId i : ℕ} {user : User} (h : s.users[i]? = some user) :
    (s.setInactive userId).users[i]?
      = some (if userId = i then { user with isActive := false } else user) := by
  unfold AuthTables.setInactive
  rw [List.getElem?_modify, h]
  rfl

/-- An inactive user is left as it is. -/
theorem setInactive_of_inactive {userId : ℕ} {user : User} (h : s.users[userId]? = some user)
    (hinactive : user.isActive = false) : s.setInactive userId = s := by
  have hself : ({ user with isActive := false } : User) = user := by rw [← hinactive]
  have hmodify : s.users.modify userId (fun user => { user with isActive := false })
      = s.users := by
    refine List.ext_getElem? fun i => ?_
    rw [List.getElem?_modify]
    split
    · next hi =>
      subst hi
      rw [h]
      exact congrArg some hself
    · exact Option.map_id'
  unfold AuthTables.setInactive
  rw [hmodify]

/-- A deactivation is its steps, one after the other. -/
theorem deactivateUser_steps {req : DeactivateUser} :
    deactivateUser s req = .ok s' ↔ ∃ wasActive, loadTarget s req = .ok wasActive ∧
      s' = Revocation.write ⟨req.targetUserId, req.now, .deactivated wasActive⟩ s
        (s.activeTokens req.targetUserId) := by
  unfold deactivateUser
  simp only [bind_eq_ok, pure_eq_ok]
  refine exists_congr fun wasActive => and_congr_right fun hload => ?_
  unfold loadTarget at hload
  simp only [↓check_bind_eq_ok, bind_eq_ok, orRaise_eq_ok, pure_eq_ok] at hload
  obtain ⟨-, user, huser, hactive⟩ := hload
  unfold Revocation.write AuthTables.revokeAllRefreshTokensForUser
  cases wasActive with
  | true =>
    rw [if_pos rfl]
    exact eq_comm
  | false =>
    rw [if_neg (by simp), setInactive_of_inactive huser hactive]
    exact eq_comm

/-- A refresh is its steps, one after the other. -/
theorem refreshAccessToken_steps {req : RefreshAccessToken} {userId : Option ℕ} :
    refreshAccessToken cfg s req = .ok (s', userId) ↔
      (∃ owner, presentToken cfg s req = .ok (.reused owner) ∧ userId = none ∧
        s' = Revocation.write ⟨owner, req.now, .reuseDetected⟩ s (s.activeTokens owner)) ∨
      ∃ tokenId owner, presentToken cfg s req = .ok (.valid tokenId owner) ∧
        userId = some owner ∧ checkTokenUser s owner = .ok () ∧
        rotateToken cfg s req tokenId owner = .ok s' := by
  unfold refreshAccessToken
  rw [bind_eq_ok]
  constructor
  · rintro ⟨presented, hpresented, h⟩
    cases presented with
    | reused owner =>
      simp only [pure_eq_ok, Prod.mk.injEq] at h
      exact .inl ⟨owner, hpresented, h.2.symm, h.1.symm⟩
    | valid tokenId owner =>
      simp only [↓check_bind_eq_ok, bind_eq_ok, pure_eq_ok, Prod.mk.injEq] at h
      obtain ⟨hcheck, d, hrotate, rfl, rfl⟩ := h
      exact .inr ⟨tokenId, owner, hpresented, rfl, hcheck, hrotate⟩
  · rintro (⟨owner, hpresented, rfl, rfl⟩ | ⟨tokenId, owner, hpresented, rfl, hcheck, hrotate⟩)
    · exact ⟨_, hpresented, rfl⟩
    · refine ⟨_, hpresented, ?_⟩
      simp only [↓check_bind_eq_ok, bind_eq_ok, pure_eq_ok]
      exact ⟨hcheck, s', hrotate, rfl⟩

end Steps

/-! ### What a session that commits has done -/

section Commits

variable {cfg : AuthSettings} {s s' : AuthTables}

/-- What a session that commits has done to the tables, by the step that it was at. -/
inductive AuthStep (cfg : AuthSettings) (s : AuthTables) : AuthWork → AuthTables → Prop
  | issued {req : Login} {userId : ℕ} : AuthStep cfg s (.issue req userId)
      { s with refreshTokens := s.refreshTokens ++ [cfg.newToken userId req.rawRefresh req.now] }
  | rotated {req : RefreshAccessToken} {tokenId userId : ℕ} :
      AuthStep cfg s (.rotate req tokenId userId)
        { s with
          refreshTokens := (s.revokeTokens [tokenId] req.now).refreshTokens
            ++ [cfg.newToken userId req.rawNew req.now]
          rotations := s.rotations ++ [(tokenId, s.refreshTokens.length)] }
  | revoked {r : Revocation} {tokenIds : List ℕ} :
      AuthStep cfg s (.revoke r tokenIds []) (r.write s tokenIds)

theorem insertToken_ok {token : RefreshToken} (h : s.insertToken token = .ok s') :
    s' = { s with refreshTokens := s.refreshTokens ++ [token] } := by
  unfold AuthTables.insertToken at h
  simp only [↓check_bind_eq_ok, pure_eq_ok] at h
  exact h.2.symm

/-- **Every commit is one of three.** -/
theorem authenticating_step {t : AuthWork} {f : AuthTables → Option AuthTables}
    (hnext : (authenticating cfg).next t = .commit f) (hf : f s = some s') :
    AuthStep cfg s t s' := by
  cases t with
  | authenticate | touchUser | present | checkUser | deactivate | readActive => cases hnext
  | issue req userId =>
    cases hnext
    rw [insertToken_ok (toOption_eq_some.mp hf)]
    exact .issued
  | rotate req tokenId userId =>
    cases hnext
    have hrotate := toOption_eq_some.mp hf
    unfold rotateToken at hrotate
    simp only [bind_eq_ok, pure_eq_ok] at hrotate
    obtain ⟨d, hd, rfl⟩ := hrotate
    rw [insertToken_ok hd]
    have hlength : (s.revokeTokens [tokenId] req.now).refreshTokens.length
        = s.refreshTokens.length := List.length_mapIdx
    simp only [List.length_append, List.length_singleton, Nat.add_sub_cancel, hlength]
    exact .rotated
  | revoke r tokenIds waiting =>
    cases waiting with
    | cons row waiting => cases hnext
    | nil =>
      cases hnext
      rw [← Option.some.inj hf]
      exact .revoked

/-- The tokens that a session revokes with its commit, as it had read them. -/
def AuthWork.revokes : AuthWork → List ℕ
  | rotate _ tokenId _ => [tokenId]
  | revoke _ tokenIds _ => tokenIds
  | _ => []

/-- A token as it is left: whose it is and its hash stay, and a revoked one stays revoked. -/
structure RefreshToken.Kept (t t' : RefreshToken) : Prop where
  userId : t'.userId = t.userId
  tokenHash : t'.tokenHash = t.tokenHash
  revoked : t.revokedAt ≠ none → t'.revokedAt ≠ none

theorem RefreshToken.Kept.refl (t : RefreshToken) : t.Kept t := ⟨rfl, rfl, id⟩

theorem getElem?_revokeTokens {tokenIds : List ℕ} {now : Instant} {i : ℕ} {t : RefreshToken}
    (h : s.refreshTokens[i]? = some t) :
    (s.revokeTokens tokenIds now).refreshTokens[i]? =
      some (if i ∈ tokenIds then { t with revokedAt := some now } else t) := by
  unfold AuthTables.revokeTokens
  rw [List.getElem?_mapIdx, h, Option.map_some]

theorem revokeTokens_kept {tokenIds : List ℕ} {now : Instant} {i : ℕ} {t : RefreshToken}
    (h : s.refreshTokens[i]? = some t) :
    ∃ t', (s.revokeTokens tokenIds now).refreshTokens[i]? = some t' ∧ t.Kept t' ∧
      (i ∈ tokenIds → t'.revokedAt ≠ none) ∧ (i ∉ tokenIds → t' = t) := by
  refine ⟨_, getElem?_revokeTokens h, ?_⟩
  split
  · next hi => exact ⟨⟨rfl, rfl, fun _ => by simp⟩, fun _ => by simp, fun hout => absurd hi hout⟩
  · next hi => exact ⟨.refl t, fun hin => absurd hin hi, fun _ => rfl⟩

theorem Revocation.write_refreshTokens (r : Revocation) (s : AuthTables) (tokenIds : List ℕ) :
    (r.write s tokenIds).refreshTokens = (s.revokeTokens tokenIds r.now).refreshTokens := by
  unfold Revocation.write AuthTables.revokeTokens AuthTables.setInactive
  split
  · rfl
  · rfl

/-- **What a commit leaves of a token.** -/
theorem AuthStep.token {t : AuthWork} (h : AuthStep cfg s t s') {i : ℕ} {row : RefreshToken}
    (hrow : s.refreshTokens[i]? = some row) :
    ∃ row', s'.refreshTokens[i]? = some row' ∧ row.Kept row' ∧
      (i ∈ t.revokes → row'.revokedAt ≠ none) ∧ (i ∉ t.revokes → row' = row) := by
  cases h with
  | issued =>
    have hlt := (List.getElem?_eq_some_iff.mp hrow).1
    refine ⟨row, ?_, .refl row, fun hi => (List.not_mem_nil hi).elim, fun _ => rfl⟩
    rw [List.getElem?_append_left hlt, hrow]
  | @rotated req tokenId userId =>
    obtain ⟨row', hrow', hkept⟩ := @revokeTokens_kept _ [tokenId] req.now _ _ hrow
    refine ⟨row', ?_, hkept⟩
    rw [List.getElem?_append_left (List.getElem?_eq_some_iff.mp hrow').1, hrow']
  | @revoked r tokenIds =>
    rw [r.write_refreshTokens]
    exact revokeTokens_kept hrow

/-- A token that is there after a commit was there before, or is new and active. -/
theorem AuthStep.token_of_mem {t : AuthWork} (h : AuthStep cfg s t s') {i : ℕ}
    {row' : RefreshToken} (hrow' : s'.refreshTokens[i]? = some row') :
    (∃ row, s.refreshTokens[i]? = some row) ∨
      (∃ req, t = .issue req row'.userId) ∨ ∃ req tokenId, t = .rotate req tokenId row'.userId := by
  have hlength : ∀ tokenIds now, (s.revokeTokens tokenIds now).refreshTokens.length
      = s.refreshTokens.length := fun _ _ => List.length_mapIdx
  by_cases hi : i < s.refreshTokens.length
  · exact .inl ⟨_, List.getElem?_eq_getElem hi⟩
  rw [not_lt] at hi
  cases h with
  | @issued req userId =>
    rw [List.getElem?_append_right hi] at hrow'
    rw [List.mem_singleton.mp (mem_of_row hrow')]
    exact .inr (.inl ⟨req, rfl⟩)
  | @rotated req tokenId userId =>
    rw [List.getElem?_append_right (hlength _ _ ▸ hi)] at hrow'
    rw [List.mem_singleton.mp (mem_of_row hrow')]
    exact .inr (.inr ⟨req, tokenId, rfl⟩)
  | @revoked r tokenIds =>
    rw [r.write_refreshTokens, List.getElem?_eq_none (hlength _ _ ▸ hi)] at hrow'
    cases hrow'

/-- Users are kept, and an inactive one stays inactive. -/
theorem AuthStep.user {t : AuthWork} (h : AuthStep cfg s t s') {i : ℕ} {user : User}
    (huser : s.users[i]? = some user) : ∃ user', s'.users[i]? = some user' ∧
      (user.isActive = false → user'.isActive = false) := by
  cases h with
  | issued | rotated => exact ⟨user, huser, id⟩
  | @revoked r tokenIds =>
    unfold Revocation.write AuthTables.revokeTokens
    split
    · refine ⟨_, getElem?_setInactive huser, ?_⟩
      split
      · exact fun _ => rfl
      · exact id
    · exact ⟨user, huser, id⟩

end Commits

end GroceryErp
