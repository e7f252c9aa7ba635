import GroceryErp.Auth.Tokens

/-!
# A refresh token is redeemed once

A refresh holds the lock of the token it presents, and reads under it whether the token is
revoked.  Whoever else revokes the token waits for that lock.

## Main definitions

* `AuthWork.Knows` — what a session knows of tokens and users.
* `AuthTables.Redeemed` — a token for which a successor was issued.
* `AuthTables.SingleUse` — what the rotations leave.

## Main results

* `AuthStep.knows` — what a session knows is kept by the commits of the others.
* `authenticating_keeps` — the invariants, over any run.
* `refresh_tokens_single_use` — **a token is redeemed once, taken for stolen afterwards, and
  not redeemed by calls that come after a deactivation.**

## References

`backend/app/modules/auth/service.py`, `login`, `refresh_access_token`, `deactivate_user`.
-/

namespace GroceryErp

open Outcome Rows Runs Transactions

/-! ### What a session knows -/

/-- The token is the user's, and not revoked, whether or not it has expired. -/
def ActiveToken (s : AuthTables) (tokenId userId : ℕ) (tokenHash : String) : Prop :=
  ∃ t, s.refreshTokens[tokenId]? = some t ∧ t.userId = userId ∧ t.tokenHash = tokenHash ∧
    t.revokedAt = none

/-- The user is there, and was deactivated. -/
def InactiveUser (s : AuthTables) (userId : ℕ) : Prop :=
  ∃ user, s.users[userId]? = some user ∧ user.isActive = false

/-- The user who is deactivated is there, and inactive if it was found so. -/
def Revocation.Target (r : Revocation) (s : AuthTables) : Prop :=
  ∀ wasActive, r.cause = .deactivated wasActive → ∃ user, s.users[r.userId]? = some user ∧
    (wasActive = false → user.isActive = false)

/-- What a session knows: a token that is to be rotated is locked and active, and a token that
is to be revoked is locked, or waited for. -/
def AuthWork.Knows (cfg : AuthSettings) (held : AuthLock → Prop) (s : AuthTables) :
    AuthWork → Prop
  | checkUser req tokenId userId | rotate req tokenId userId =>
      held (.token (cfg.hashRefreshToken req.rawRefreshToken)) ∧
        ActiveToken s tokenId userId (cfg.hashRefreshToken req.rawRefreshToken)
  | readActive r => r.Target s
  | revoke r tokenIds waiting => r.Target s ∧ ∀ i ∈ tokenIds, ∃ t,
      s.refreshTokens[i]? = some t ∧
        (.token t.tokenHash ∈ waiting ∨ held (.token t.tokenHash))
  | authenticate _ | touchUser _ _ | issue _ _ | present _ | deactivate _ => True

section Knows

variable {cfg : AuthSettings} {s s' : AuthTables}

theorem AuthStep.inactiveUser {t : AuthWork} (h : AuthStep cfg s t s') {userId : ℕ}
    (hinactive : InactiveUser s userId) : InactiveUser s' userId := by
  obtain ⟨user, huser, hwas⟩ := hinactive
  obtain ⟨user', huser', hkept⟩ := h.user huser
  exact ⟨user', huser', hkept hwas⟩

theorem AuthStep.target {t : AuthWork} (h : AuthStep cfg s t s') {r : Revocation}
    (hr : r.Target s) : r.Target s' := by
  intro wasActive hcause
  obtain ⟨user, huser, hwas⟩ := hr wasActive hcause
  obtain ⟨user', huser', hkept⟩ := h.user huser
  exact ⟨user', huser', fun hfalse => hkept (hwas hfalse)⟩

/-- A session that commits has locked the tokens it revokes. -/
theorem AuthStep.held {t : AuthWork} {held : AuthLock → Prop} (h : AuthStep cfg s t s')
    (hknows : t.Knows cfg held s) {i : ℕ} (hi : i ∈ t.revokes) {row : RefreshToken}
    (hrow : s.refreshTokens[i]? = some row) : held (.token row.tokenHash) := by
  cases h with
  | issued => exact (List.not_mem_nil hi).elim
  | rotated =>
    obtain ⟨hheld, t, ht, -, hhash, -⟩ := hknows
    obtain rfl := List.mem_singleton.mp hi
    obtain rfl : row = t := Option.some.inj (hrow.symm.trans ht)
    rw [hhash]
    exact hheld
  | revoked =>
    obtain ⟨t, ht, hwaiting | hheld⟩ := hknows.2 i hi
    · exact (List.not_mem_nil hwaiting).elim
    · obtain rfl : row = t := Option.some.inj (hrow.symm.trans ht)
      exact hheld

/-- A token that another session has locked stays active. -/
theorem AuthStep.activeToken {t : AuthWork} {held held' : AuthLock → Prop}
    (h : AuthStep cfg s t s') (hknows : t.Knows cfg held s)
    (hother : ∀ key, held key → ¬held' key) {tokenId userId : ℕ} {tokenHash : String}
    (hheld : held' (.token tokenHash)) (hactive : ActiveToken s tokenId userId tokenHash) :
    ActiveToken s' tokenId userId tokenHash := by
  obtain ⟨row, hrow, huser, hhash, hnone⟩ := hactive
  have hout : tokenId ∉ t.revokes := by
    intro hi
    have hlocked := h.held hknows hi hrow
    rw [hhash] at hlocked
    exact hother _ hlocked hheld
  obtain ⟨row', hrow', -, -, hsame⟩ := h.token hrow
  obtain rfl := hsame hout
  exact ⟨row', hrow', huser, hhash, hnone⟩

/-- **What a session knows is kept by the commits of the others.** -/
theorem AuthStep.knows {t u : AuthWork} {held held' : AuthLock → Prop} (h : AuthStep cfg s t s')
    (hknows : t.Knows cfg held s) (hother : ∀ key, held key → ¬held' key)
    (hu : u.Knows cfg held' s) : u.Knows cfg held' s' := by
  cases u with
  | authenticate | touchUser | issue | present | deactivate => trivial
  | checkUser | rotate => exact ⟨hu.1, h.activeToken hknows hother hu.1 hu.2⟩
  | readActive r => exact h.target hu
  | revoke r tokenIds waiting =>
    refine ⟨h.target hu.1, fun i hi => ?_⟩
    obtain ⟨row, hrow, hlock⟩ := hu.2 i hi
    obtain ⟨row', hrow', hkept, -⟩ := h.token hrow
    refine ⟨row', hrow', ?_⟩
    rw [hkept.tokenHash]
    exact hlock

theorem presentToken_ok {req : RefreshAccessToken} {p : Presented}
    (h : presentToken cfg s req = .ok p) :
    ∃ i t, s.tokenWithHash (cfg.hashRefreshToken req.rawRefreshToken) = [(i, t)] ∧
      ((t.revokedAt ≠ none ∧ p = .reused t.userId) ∨
        (t.revokedAt = none ∧ req.now ≤ t.expiresAt ∧ p = .valid i t.userId)) := by
  unfold presentToken at h
  simp only [bind_eq_ok, orRaise_eq_ok] at h
  obtain ⟨found, hfound, ⟨i, t⟩, rfl, h⟩ := h
  refine ⟨i, t, scalarOneOrNone_eq_some.mp hfound, ?_⟩
  split at h
  · next hrevoked =>
    rw [pure_eq_ok] at h
    exact .inl ⟨hrevoked, h.symm⟩
  · next hactive =>
    simp only [↓check_bind_eq_ok, raiseIf_eq_ok, pure_eq_ok, not_lt] at h
    exact .inr ⟨not_not.mp hactive, h.1, h.2.symm⟩

/-- The token that is found by its hash. -/
theorem getElem?_of_tokenWithHash {tokenHash : String} {i : ℕ} {t : RefreshToken}
    (h : s.tokenWithHash tokenHash = [(i, t)]) :
    s.refreshTokens[i]? = some t ∧ t.tokenHash = tokenHash := by
  have hmem : (i, t) ∈ s.tokenWithHash tokenHash := by
    rw [h]
    exact List.mem_cons_self
  exact mem_rowsWhere.mp hmem

/-- A token the revocation reads is active, and its row is waited for. -/
theorem mem_activeTokens {r : Revocation} {i : ℕ} :
    i ∈ s.activeTokens r.userId ↔ ∃ t, s.refreshTokens[i]? = some t ∧ t.userId = r.userId ∧
      t.revokedAt = none := by
  unfold AuthTables.activeTokens
  simp only [List.mem_map, Prod.exists, exists_and_right, exists_eq_right, mem_rowsWhere]

theorem token_mem_rows {r : Revocation} {i : ℕ} {t : RefreshToken}
    (ht : s.refreshTokens[i]? = some t) (huser : t.userId = r.userId) (hnone : t.revokedAt = none) :
    AuthLock.token t.tokenHash ∈ r.rows s := by
  refine List.mem_append_right _ (List.mem_map.mpr ⟨(i, t), ?_, rfl⟩)
  exact mem_rowsWhere.mpr ⟨ht, huser, hnone⟩

/-- The rules of a run, for an invariant that every commit keeps. -/
theorem authenticating_keeps {ok : Server AuthTables AuthLock AuthWork → Event AuthRequest → Prop}
    {I : AuthTables → Prop}
    (commit : ∀ sv k t s, sv.Inv I (AuthWork.Knows cfg) → ok sv (.step k) →
      sv.sessions k = some t → AuthStep cfg sv.tables t s → I s) :
    (authenticating cfg).Keeps ok I (AuthWork.Knows cfg) where
  start sv k r _ _ := by
    cases r with
    | login | refresh | deactivate => trivial
  read H s t t' f _ h hnext hf := by
    cases t with
    | touchUser | issue | present | rotate => cases hnext
    | authenticate req =>
      cases hnext
      obtain ⟨userId, -, rfl⟩ := Option.map_eq_some_iff.mp hf
      trivial
    | checkUser req tokenId userId =>
      cases hnext
      obtain ⟨-, -, rfl⟩ := Option.map_eq_some_iff.mp hf
      exact h
    | deactivate req =>
      cases hnext
      obtain ⟨wasActive, hload, rfl⟩ := Option.map_eq_some_iff.mp hf
      rw [toOption_eq_some] at hload
      unfold loadTarget at hload
      simp only [↓check_bind_eq_ok, bind_eq_ok, orRaise_eq_ok, pure_eq_ok] at hload
      obtain ⟨-, user, huser, rfl⟩ := hload
      rintro _ ⟨⟩
      exact ⟨user, huser, id⟩
    -- the tokens that a revocation reads are those it then waits for
    | readActive r =>
      cases hnext
      obtain rfl := Option.some.inj hf
      refine ⟨h, fun i hi => ?_⟩
      obtain ⟨t, ht, huser, hnone⟩ := mem_activeTokens.mp hi
      exact ⟨t, ht, .inl (token_mem_rows ht huser hnone)⟩
    | revoke r tokenIds waiting =>
      cases waiting with
      | nil | cons => cases hnext
  lock H s t t' key f _ h hnext hf := by
    cases t with
    | authenticate | issue | checkUser | rotate | deactivate | readActive => cases hnext
    | touchUser req userId =>
      cases hnext
      obtain rfl := Option.some.inj hf
      trivial
    | present req =>
      cases hnext
      obtain ⟨p, hp, rfl⟩ := Option.map_eq_some_iff.mp hf
      obtain ⟨i, t, hfound, hp⟩ := presentToken_ok (toOption_eq_some.mp hp)
      -- a token that is presented is locked with its row, and whoever is let through holds it
      obtain ⟨ht, hhash⟩ := getElem?_of_tokenWithHash hfound
      rcases hp with ⟨-, rfl⟩ | ⟨hnone, -, rfl⟩
      · rintro _ ⟨⟩
      · exact ⟨.inl rfl, t, ht, rfl, hhash, hnone⟩
    | revoke r tokenIds waiting =>
      cases waiting with
      | nil => cases hnext
      | cons row waiting =>
        cases hnext
        obtain rfl := Option.some.inj hf
        -- each lock takes one row off those it waits for
        refine ⟨h.1, fun i hi => ?_⟩
        obtain ⟨t, ht, hwaiting | hheld⟩ := h.2 i hi
        · rcases List.mem_cons.mp hwaiting with hrow | hwaiting
          · exact ⟨t, ht, .inr (.inl hrow)⟩
          · exact ⟨t, ht, .inl hwaiting⟩
        · exact ⟨t, ht, .inr (.inr hheld)⟩
  commit sv k t f s h hok hopen hnext hf := commit sv k t s h hok hopen (authenticating_step hnext hf)
  stable sv k t f s j u h _ hopen hnext hf hjk hj := by
    refine (authenticating_step hnext hf).knows (h.sessions k t hopen) (fun key hk hj' => ?_)
      (h.sessions j u hj)
    exact hjk (Option.some.inj (hj'.symm.trans hk))

end Knows

/-! ### Tokens that were redeemed -/

/-- The tokens for which a successor was issued, one entry for each time that this happened. -/
def AuthTables.redeemed (s : AuthTables) : List ℕ := s.rotations.map Prod.fst

/-- No token was redeemed twice, and those that were are revoked. -/
structure AuthTables.SingleUse (s : AuthTables) : Prop where
  once : s.redeemed.Nodup
  revoked : ∀ i ∈ s.redeemed, ∃ t, s.refreshTokens[i]? = some t ∧ t.revokedAt ≠ none

section Redeemed

variable {cfg : AuthSettings} {s s' : AuthTables}

theorem Revocation.write_rotations (r : Revocation) (s : AuthTables) (tokenIds : List ℕ) :
    (r.write s tokenIds).rotations = s.rotations := by
  unfold Revocation.write AuthTables.revokeTokens AuthTables.setInactive
  split
  · rfl
  · rfl

/-- A commit redeems a token if it rotates it. -/
theorem AuthStep.redeemed {t : AuthWork} (h : AuthStep cfg s t s') :
    s'.redeemed = s.redeemed ∨
      ∃ req tokenId userId, t = .rotate req tokenId userId ∧
        s'.redeemed = s.redeemed ++ [tokenId] := by
  cases h with
  | issued => exact .inl rfl
  | rotated => exact .inr ⟨_, _, _, rfl, List.map_append⟩
  | @revoked r tokenIds =>
    unfold AuthTables.redeemed
    rw [r.write_rotations]
    exact .inl rfl

/-- **A token that is rotated was not redeemed, and is revoked from then on.** -/
theorem AuthStep.singleUse {t : AuthWork} {held : AuthLock → Prop} (h : AuthStep cfg s t s')
    (hknows : t.Knows cfg held s) (hs : s.SingleUse) : s'.SingleUse := by
  have hkept : ∀ i ∈ s.redeemed, ∃ t', s'.refreshTokens[i]? = some t' ∧ t'.revokedAt ≠ none := by
    intro i hi
    obtain ⟨row, hrow, hrevoked⟩ := hs.revoked i hi
    obtain ⟨row', hrow', hkept, -⟩ := h.token hrow
    exact ⟨row', hrow', hkept.revoked hrevoked⟩
  rcases h.redeemed with hsame | ⟨req, tokenId, userId, rfl, hnew⟩
  · refine ⟨hsame ▸ hs.once, ?_⟩
    rw [hsame]
    exact hkept
  obtain ⟨-, row, hrow, -, -, hnone⟩ := hknows
  refine ⟨?_, ?_⟩
  · rw [hnew]
    refine List.nodup_append'.mpr ⟨hs.once, List.nodup_singleton _, ?_⟩
    refine List.disjoint_singleton.mpr fun hmem => ?_
    obtain ⟨row', hrow', hrevoked⟩ := hs.revoked tokenId hmem
    obtain rfl : row = row' := Option.some.inj (hrow.symm.trans hrow')
    exact hrevoked hnone
  · rw [hnew]
    intro i hi
    rcases List.mem_append.mp hi with hi | hi
    · exact hkept i hi
    · obtain rfl := List.mem_singleton.mp hi
      obtain ⟨row', hrow', -, hrevoked, -⟩ := h.token hrow
      exact ⟨row', hrow', hrevoked List.mem_cons_self⟩

theorem authenticating_singleUse (cfg : AuthSettings) :
    (authenticating cfg).Keeps (fun _ _ => True) AuthTables.SingleUse (AuthWork.Knows cfg) :=
  authenticating_keeps fun _ k _ _ h _ hopen hstep =>
    hstep.singleUse (h.sessions k _ hopen) h.tables

/-- A token of which a presentation reads that it is redeemed is taken for stolen. -/
theorem presentToken_redeemed {req : RefreshAccessToken} {i : ℕ} {t : RefreshToken}
    (hs : s.SingleUse)
    (hfound : s.tokenWithHash (cfg.hashRefreshToken req.rawRefreshToken) = [(i, t)])
    (hi : i ∈ s.redeemed) : presentToken cfg s req = .ok (.reused t.userId) := by
  obtain ⟨t', ht', hrevoked⟩ := hs.revoked i hi
  obtain rfl : t = t' := Option.some.inj ((getElem?_of_tokenWithHash hfound).1.symm.trans ht')
  unfold presentToken
  simp only [bind_eq_ok, orRaise_eq_ok]
  refine ⟨some (i, t), scalarOneOrNone_eq_some.mpr hfound, (i, t), rfl, ?_⟩
  rw [if_pos hrevoked]
  rfl

end Redeemed

/-! ### Users that are deactivated -/

section Deactivated

variable {cfg : AuthSettings}

/-- A user who is deactivated is inactive afterwards. -/
theorem inactiveUser_write {s : AuthTables} {r : Revocation} {tokenIds : List ℕ} {wasActive : Bool}
    (h : r.Target s) (hcause : r.cause = .deactivated wasActive) :
    InactiveUser (r.write s tokenIds) r.userId := by
  obtain ⟨user, huser, hwas⟩ := h wasActive hcause
  unfold Revocation.write AuthTables.revokeTokens
  cases wasActive with
  | true =>
    rw [if_pos hcause]
    refine ⟨_, getElem?_setInactive huser, ?_⟩
    rw [if_pos rfl]
  | false =>
    rw [if_neg (by simp [hcause])]
    exact ⟨user, huser, hwas rfl⟩

theorem checkTokenUser_inactive {s : AuthTables} {userId : ℕ} (h : InactiveUser s userId) :
    checkTokenUser s userId ≠ .ok () := by
  obtain ⟨user, huser, hinactive⟩ := h
  unfold checkTokenUser
  simp only [ne_eq, bind_eq_ok, orRaise_eq_ok, raiseIf_eq_ok, not_not, not_exists, not_and]
  rintro user' huser' hactive
  obtain rfl : user = user' := Option.some.inj (huser.symm.trans huser')
  rw [hinactive] at hactive
  cases hactive

/-- **While a user is inactive** no session gets to rotate a token of the user: one that is
about to was so before. -/
theorem rotate_of_inactive {ok : Server AuthTables AuthLock AuthWork → Event AuthRequest → Prop}
    {sv sv' : Server AuthTables AuthLock AuthWork} {userId : ℕ}
    (h : InactiveUser sv.tables userId) (hrun : Reaches (authenticating cfg).exec ok sv sv') :
    InactiveUser sv'.tables userId ∧ ∀ k req tokenId,
      sv'.sessions k = some (.rotate req tokenId userId) →
        sv.sessions k = some (.rotate req tokenId userId) := by
  refine hrun.invariant (I := fun sv' => InactiveUser sv'.tables userId ∧ ∀ k req tokenId,
    sv'.sessions k = some (.rotate req tokenId userId) →
      sv.sessions k = some (.rotate req tokenId userId)) ⟨h, fun _ _ _ => id⟩ ?_
  rintro mid e sv' ⟨hinactive, hbefore⟩ - hdone
  -- a session that comes to a state which is no such rotation, or ends
  have hput : ∀ {j : ℕ} {t : Option AuthWork}, (∀ req i, t ≠ some (.rotate req i userId)) →
      ∀ k req i, Function.update mid.sessions j t k = some (.rotate req i userId) →
        sv.sessions k = some (.rotate req i userId) := by
    intro j t hne k req i hk
    by_cases hkj : k = j
    · rw [hkj, Function.update_self] at hk
      exact absurd hk (hne req i)
    · rw [Function.update_of_ne hkj] at hk
      exact hbefore k req i hk
  cases Program.exec_did hdone with
  | @begin k r closed =>
    refine ⟨hinactive, hput ?_⟩
    intro req i hstart
    cases r with
    | login | refresh | deactivate => cases hstart
  | @read k t t' f opened next result =>
    refine ⟨hinactive, hput ?_⟩
    rintro req i ⟨⟩
    cases t with
    | checkUser req' tokenId owner =>
      cases next
      obtain ⟨⟨⟩, hcheck, heq⟩ := Option.map_eq_some_iff.mp result
      cases heq
      exact checkTokenUser_inactive hinactive (toOption_eq_some.mp hcheck)
    | authenticate | deactivate =>
      cases next
      obtain ⟨_, -, heq⟩ := Option.map_eq_some_iff.mp result
      cases heq
    | readActive => cases next; cases Option.some.inj result
    | touchUser | issue | present | rotate => cases next
    | revoke r ids waiting =>
      cases waiting with
      | nil | cons => cases next
  | @lock k t t' key f opened next free result =>
    refine ⟨hinactive, hput ?_⟩
    rintro req i ⟨⟩
    cases t with
    | present req' =>
      cases next
      obtain ⟨p, -, heq⟩ := Option.map_eq_some_iff.mp result
      cases p with
      | reused | valid => cases heq
    | touchUser => cases next; cases Option.some.inj result
    | authenticate | issue | checkUser | rotate | deactivate | readActive => cases next
    | revoke r ids waiting =>
      cases waiting with
      | nil => cases next
      | cons row waiting => cases next; cases Option.some.inj result
  | commit opened next result =>
    exact ⟨(authenticating_step next result).inactiveUser hinactive, hput nofun⟩
  | fail | rollback => exact ⟨hinactive, hput nofun⟩

end Deactivated

/-! ### Runs -/

section Runs

variable {cfg : AuthSettings}

/-- **A refresh token is redeemed once; a presentation of a redeemed token is taken for
stolen; a deactivation leaves its user inactive, and from then on** a token of the user is
redeemed at most by a call that had read the user before: a call that begins later does not. -/
theorem refresh_tokens_single_use {s : AuthTables} (hs : s.rotations = [])
    {sv : Server AuthTables AuthLock AuthWork}
    (h : Reaches (authenticating cfg).exec (fun _ _ => True) { tables := s } sv) :
    sv.tables.redeemed.Nodup ∧
    (∀ k req i t sv', sv.sessions k = some (.present req) →
      sv.tables.tokenWithHash (cfg.hashRefreshToken req.rawRefreshToken) = [(i, t)] →
      i ∈ sv.tables.redeemed → (authenticating cfg).exec (.step k) sv = .ok sv' →
      sv'.tables = sv.tables ∧
        sv'.sessions k = some (.readActive ⟨t.userId, req.now, .reuseDetected⟩)) ∧
    (∀ k r tokenIds wasActive sv', sv.sessions k = some (.revoke r tokenIds []) →
      r.cause = .deactivated wasActive → (authenticating cfg).exec (.step k) sv = .ok sv' →
      InactiveUser sv'.tables r.userId) ∧
    ∀ userId, InactiveUser sv.tables userId → ∀ mid e sv',
      Reaches (authenticating cfg).exec (fun _ _ => True) sv mid →
      (authenticating cfg).exec e mid = .ok sv' →
      ∀ i t, mid.tables.refreshTokens[i]? = some t → t.userId = userId →
        i ∈ sv'.tables.redeemed → i ∉ mid.tables.redeemed →
        ∃ k req, e = .step k ∧ sv.sessions k = some (.rotate req i userId) := by
  have hstart : s.SingleUse := by
    constructor
    · simp [AuthTables.redeemed, hs]
    · simp [AuthTables.redeemed, hs]
  have hsv := (authenticating_singleUse cfg).reaches (Server.inv_of_tables hstart) h
  refine ⟨hsv.tables.once, ?_, ?_, ?_⟩
  · intro k req i t sv' hopen hfound hi hdone
    have hpresent := presentToken_redeemed hsv.tables hfound hi
    unfold Program.exec at hdone
    simp only [hopen, authenticating, hpresent, Server.perform, Except.toOption, Option.map_some,
      AuthWork.ofPresented] at hdone
    split at hdone
    · cases hdone
      exact ⟨rfl, Function.update_self ..⟩
    · cases hdone
  · intro k r tokenIds wasActive sv' hopen hcause hdone
    have hknows := hsv.sessions k _ hopen
    unfold Program.exec at hdone
    simp only [hopen, authenticating, Server.perform] at hdone
    cases hdone
    exact inactiveUser_write hknows.1 hcause
  · intro userId hinactive mid e sv' hrun hdone i t ht huser hi hnot
    obtain ⟨-, hbefore⟩ := rotate_of_inactive hinactive hrun
    have hmid := (authenticating_singleUse cfg).reaches hsv hrun
    rcases (Program.exec_did hdone).tables with heq | ⟨k, u, f, rfl, hopen, hnext, hf⟩
    · rw [heq] at hi
      exact absurd hi hnot
    rcases (authenticating_step hnext hf).redeemed with hsame | ⟨req, tokenId, owner, rfl, hnew⟩
    · rw [hsame] at hi
      exact absurd hi hnot
    -- the token is the one that is rotated, and so the user's
    rw [hnew] at hi
    rcases List.mem_append.mp hi with hi | hi
    · exact absurd hi hnot
    obtain rfl := List.mem_singleton.mp hi
    obtain ⟨-, row, hrow, howner, -⟩ := hmid.sessions k _ hopen
    obtain rfl : t = row := Option.some.inj (ht.symm.trans hrow)
    obtain rfl : owner = userId := howner.symm.trans huser
    exact ⟨k, req, rfl, hbefore k req i hopen⟩

/-- The hash of a token is the token, and it expires after a hundred. -/
def plainTokens : AuthSettings := ⟨id, 100⟩

/-- A clerk who has logged in, and an administrator. -/
def clerkLoggedIn : AuthTables where
  users := [⟨"clerk", fun password => password = "open", true, none, false, [1], false⟩,
    ⟨"admin", fun _ => false, true, none, false, [0], false⟩]
  refreshTokens := [⟨0, "a", 100, none⟩]

/-- What has become of the server after some events. -/
def authAfter (es : List (Event AuthRequest)) (sv : Server AuthTables AuthLock AuthWork) :
    Except Refused (Server AuthTables AuthLock AuthWork) :=
  es.foldlM (fun sv e => (authenticating plainTokens).exec e sv) sv

/-- The clerk has a successor of the token, and presents the token again. -/
def presentedAgain : Server AuthTables AuthLock AuthWork :=
  value (authAfter [.begin 0 (.refresh ⟨"a", "b", 1⟩), .step 0, .step 0, .step 0,
    .begin 1 (.refresh ⟨"a", "c", 2⟩)] { tables := clerkLoggedIn }) (by decide +kernel)

/-- The clerk, who has no token yet. -/
def clerkLoggedOut : AuthTables := { clerkLoggedIn with refreshTokens := [] }

/-- The administrator deactivates the clerk, who has no token to revoke; before that is committed
the clerk logs in, and a refresh reads the clerk as active. -/
def refreshUnderWay : Server AuthTables AuthLock AuthWork :=
  value (authAfter [.begin 1 (.deactivate ⟨0, 1, 1⟩), .step 1, .step 1,
    .begin 2 (.login ⟨"clerk", "open", "a", 2⟩), .step 2, .step 2, .step 2,
    .begin 3 (.refresh ⟨"a", "b", 3⟩), .step 3, .step 3, .step 1] { tables := clerkLoggedOut })
    (by decide +kernel)

/-- The deactivation is committed: it revoked the tokens it had read, of which there were none. -/
def clerkDeactivated : Server AuthTables AuthLock AuthWork :=
  value ((authenticating plainTokens).exec (.step 1) refreshUnderWay) (by decide +kernel)

/-- The refresh that had read the clerk as active goes on, and commits a successor. -/
def rotatedLate : Server AuthTables AuthLock AuthWork :=
  value ((authenticating plainTokens).exec (.step 3) clerkDeactivated) (by decide +kernel)

/-- A token was redeemed once, and is taken for stolen; a clerk who is deactivated is inactive, and
of the clerk's token only the refresh makes use that had read the clerk before. -/
theorem refresh_tokens_single_use_clerk :
    (presentedAgain.tables.redeemed.Nodup ∧ ∃ sv',
      (authenticating plainTokens).exec (.step 1) presentedAgain = .ok sv' ∧
        sv'.sessions 1 = some (.readActive ⟨0, 2, .reuseDetected⟩)) ∧
    InactiveUser clerkDeactivated.tables 0 ∧
    ∃ k req, (Event.step 3 : Event AuthRequest) = .step k ∧
      clerkDeactivated.sessions k = some (.rotate req 0 0) := by
  constructor
  -- the token is rotated, and presented again while its successor is good
  · have hrun : Reaches (authenticating plainTokens).exec (fun _ _ => True)
        { tables := clerkLoggedIn } presentedAgain := reaches_of_foldlM (eq_ok_value _ _)
    obtain ⟨honce, hreused, -⟩ := refresh_tokens_single_use rfl hrun
    have hdone := eq_ok_value ((authenticating plainTokens).exec (.step 1) presentedAgain)
      (by decide +kernel)
    have hfound : presentedAgain.tables.tokenWithHash "a" = [(0, ⟨0, "a", 100, some 1⟩)] := by
      decide +kernel
    have hredeemed : 0 ∈ presentedAgain.tables.redeemed := by decide +kernel
    exact ⟨honce, _, hdone, (hreused 1 ⟨"a", "c", 2⟩ 0 _ _ rfl hfound hredeemed hdone).2⟩
  -- the deactivation, and the refresh that had read the clerk before it
  · have hrun : Reaches (authenticating plainTokens).exec (fun _ _ => True)
        { tables := clerkLoggedOut } refreshUnderWay := reaches_of_foldlM (eq_ok_value _ _)
    have hdone : (authenticating plainTokens).exec (.step 1) refreshUnderWay
        = .ok clerkDeactivated := eq_ok_value _ _
    have hlate : (authenticating plainTokens).exec (.step 3) clerkDeactivated
        = .ok rotatedLate := eq_ok_value _ _
    have hinactive : InactiveUser clerkDeactivated.tables 0 :=
      (refresh_tokens_single_use rfl hrun).2.2.1 1 ⟨0, 1, .deactivated true⟩ [] true _ rfl rfl hdone
    have hrow : clerkDeactivated.tables.refreshTokens[0]? = some ⟨0, "a", 102, none⟩ := by
      decide +kernel
    have hbefore : 0 ∉ clerkDeactivated.tables.redeemed := by decide +kernel
    have hafter : 0 ∈ rotatedLate.tables.redeemed := by decide +kernel
    have hrun' := hrun.next (r := .step 1) trivial hdone
    exact ⟨hinactive, (refresh_tokens_single_use rfl hrun').2.2.2 0 hinactive _ (.step 3) _ .start
      hlate 0 _ hrow rfl hafter hbefore⟩

end Runs

end GroceryErp
