import GroceryErp.Auth.Sessions

/-!
# A revoked token is presented

A call that finds its token revoked revokes every token of the user: those that are active
when it reads them.  A rotation that commits between this read and the commit of the call
issues a token that the call has not read.

## Main definitions

* `OnlyRefreshes` — the calls are refreshes.
* `RefreshesApart` — and no rotation commits between.
* `AllRevoked` — a user has no active token.

## Main results

* `reuse_ends_every_session` — **where no rotation comes between, no token of the user is
  active after the detection, then and later.**
* `rotation_survives_reuse` — a rotation in between leaves its token active.

## References

`backend/app/modules/auth/service.py`, `refresh_access_token`,
`_revoke_all_refresh_tokens_for_user`.
-/

namespace GroceryErp

open Outcome Rows Runs Transactions

/-! ### The condition -/

/-- The calls that are made are refreshes: nobody logs in or is deactivated meanwhile. -/
def OnlyRefreshes (_ : Server AuthTables AuthLock AuthWork) : Event AuthRequest → Prop
  | .begin _ (.refresh _) => True
  | .begin _ _ => False
  | .step _ | .rollback _ => True

instance (sv : Server AuthTables AuthLock AuthWork) (e : Event AuthRequest) :
    Decidable (OnlyRefreshes sv e) :=
  match e with
  | .begin _ (.refresh _) => .isTrue trivial
  | .begin _ (.login _) => .isFalse id
  | .begin _ (.deactivate _) => .isFalse id
  | .step _ => .isTrue trivial
  | .rollback _ => .isTrue trivial

/-- The calls are refreshes, and no rotation of a token commits while a call that has detected
reuse has read the active tokens of the same user. -/
structure RefreshesApart (sv : Server AuthTables AuthLock AuthWork) (e : Event AuthRequest) :
    Prop where
  only : OnlyRefreshes sv e
  apart : ∀ k req tokenId userId, e = .step k →
    sv.sessions k = some (.rotate req tokenId userId) →
    ∀ j r tokenIds waiting, sv.sessions j = some (.revoke r tokenIds waiting) → r.userId ≠ userId

/-! ### What a detection has read -/

/-- The session is of a refresh, and if it is to revoke the tokens of a user, it has read all
that are active. -/
def AuthWork.Complete (s : AuthTables) : AuthWork → Prop
  | present _ | checkUser _ _ _ | rotate _ _ _ => True
  | readActive r => r.cause = .reuseDetected
  | revoke r tokenIds _ => r.cause = .reuseDetected ∧ ∀ i t, s.refreshTokens[i]? = some t →
      t.userId = r.userId → t.revokedAt = none → i ∈ tokenIds
  | authenticate _ | touchUser _ _ | issue _ _ | deactivate _ => False

/-- No token of the user is active any more, so every session has to log in again. -/
def AllRevoked (userId : ℕ) (s : AuthTables) : Prop :=
  ∀ t ∈ s.refreshTokens, t.userId = userId → t.revokedAt ≠ none

section Detection

variable {cfg : AuthSettings} {s s' : AuthTables}

/-- A token that is active after a commit was active before, or was issued with it. -/
theorem AuthStep.active_before {t : AuthWork} (h : AuthStep cfg s t s') (ht : t.Complete s)
    {i : ℕ} {row' : RefreshToken} (hrow' : s'.refreshTokens[i]? = some row')
    (hnone : row'.revokedAt = none) :
    (∃ row, s.refreshTokens[i]? = some row ∧ row.userId = row'.userId ∧ row.revokedAt = none ∧
      i ∉ t.revokes) ∨ ∃ req tokenId, t = .rotate req tokenId row'.userId := by
  rcases h.token_of_mem hrow' with ⟨row, hrow⟩ | ⟨req, rfl⟩ | hrotate
  · obtain ⟨row'', hrow'', hkept, hrevoked, -⟩ := h.token hrow
    obtain rfl : row' = row'' := Option.some.inj (hrow'.symm.trans hrow'')
    refine .inl ⟨row, hrow, hkept.userId.symm, ?_, fun hi => hrevoked hi hnone⟩
    by_contra hwas
    exact hkept.revoked hwas hnone
  · exact ht.elim
  · exact .inr hrotate

/-- What a detection has read is kept by the commits of the others, rotations for the same
user apart. -/
theorem AuthStep.complete {t u : AuthWork} (h : AuthStep cfg s t s') (ht : t.Complete s)
    (hapart : ∀ req tokenId r tokenIds waiting, u = .revoke r tokenIds waiting →
      t ≠ .rotate req tokenId r.userId)
    (hu : u.Complete s) : u.Complete s' := by
  cases u with
  | authenticate | touchUser | issue | deactivate => exact hu.elim
  | present | checkUser | rotate => trivial
  | readActive r => exact hu
  | revoke r tokenIds waiting =>
    refine ⟨hu.1, fun i row' hrow' huser hnone => ?_⟩
    rcases h.active_before ht hrow' hnone with ⟨row, hrow, howner, hactive, -⟩ | ⟨req, j, hrotate⟩
    · exact hu.2 i row hrow (howner.trans huser) hactive
    · rw [huser] at hrotate
      exact absurd hrotate (hapart req j r tokenIds waiting rfl)

/-- **The rules of a run of refreshes that keep apart.** -/
theorem refreshing_keeps {I : AuthTables → Prop}
    (commit : ∀ (held : AuthLock → Prop) s t s', I s → t.Knows cfg held s → t.Complete s →
      AuthStep cfg s t s' → I s') :
    (authenticating cfg).Keeps RefreshesApart I
      fun held s t => t.Knows cfg held s ∧ t.Complete s := by
  have hknows : (authenticating cfg).Keeps (fun _ _ => False) (fun _ => True)
      (AuthWork.Knows cfg) := authenticating_keeps fun _ _ _ _ _ hok _ _ => hok.elim
  refine ⟨?_, ?_, ?_, ?_, ?_⟩
  -- a run of refreshes begins nothing else
  · intro sv k r _ hok
    cases r with
    | refresh req => exact ⟨trivial, trivial⟩
    | login | deactivate => exact hok.only.elim
  · rintro H s t t' f - ⟨hknow, hcomplete⟩ hnext hf
    refine ⟨hknows.read H s t t' f trivial hknow hnext hf, ?_⟩
    cases t with
    | authenticate | touchUser | issue | deactivate => exact hcomplete.elim
    | present | rotate => cases hnext
    | checkUser req tokenId userId =>
      cases hnext
      obtain ⟨-, -, rfl⟩ := Option.map_eq_some_iff.mp hf
      -- the tokens are read after the reuse was seen, and are all those of the user that are good
      trivial
    | readActive r =>
      cases hnext
      obtain rfl := Option.some.inj hf
      exact ⟨hcomplete, fun i t ht huser hnone => mem_activeTokens.mpr ⟨t, ht, huser, hnone⟩⟩
    | revoke r tokenIds waiting =>
      cases waiting with
      | nil | cons => cases hnext
  · rintro H s t t' key f - ⟨hknow, hcomplete⟩ hnext hf
    refine ⟨hknows.lock H s t t' key f trivial hknow hnext hf, ?_⟩
    cases t with
    | authenticate | touchUser | issue | deactivate => exact hcomplete.elim
    | checkUser | rotate | readActive => cases hnext
    | present req =>
      cases hnext
      obtain ⟨p, -, rfl⟩ := Option.map_eq_some_iff.mp hf
      cases p with
      | reused => rfl
      | valid => trivial
    | revoke r tokenIds waiting =>
      cases waiting with
      | nil => cases hnext
      | cons row waiting =>
        cases hnext
        obtain rfl := Option.some.inj hf
        exact hcomplete
  · intro sv k t f s h _ hopen hnext hf
    obtain ⟨hknow, hcomplete⟩ := h.sessions k t hopen
    exact commit _ _ t s h.tables hknow hcomplete (authenticating_step hnext hf)
  -- a token inserted between the read and the flush would not be among them; the refreshes keep
  -- apart
  · intro sv k t f s j u h hok hopen hnext hf hjk hj
    obtain ⟨hknow, hcomplete⟩ := h.sessions k t hopen
    obtain ⟨huknow, hucomplete⟩ := h.sessions j u hj
    have hstep := authenticating_step hnext hf
    refine ⟨hstep.knows hknow (fun key hk hj' => hjk (Option.some.inj (hj'.symm.trans hk))) huknow,
      hstep.complete hcomplete ?_ hucomplete⟩
    rintro req tokenId r tokenIds waiting rfl rfl
    exact hok.apart k req tokenId r.userId rfl hopen j r tokenIds waiting hj rfl

/-- A detection that commits leaves its user without an active token. -/
theorem AuthStep.allRevoked_of_reuse {r : Revocation} {tokenIds : List ℕ}
    (h : AuthStep cfg s (.revoke r tokenIds []) s')
    (hcomplete : AuthWork.Complete s (.revoke r tokenIds [])) : AllRevoked r.userId s' := by
  intro row' hmem huser hnone
  obtain ⟨i, hrow'⟩ := List.getElem?_of_mem hmem
  rcases h.active_before hcomplete hrow' hnone with ⟨row, hrow, howner, hactive, hout⟩ |
    ⟨req, j, hrotate⟩
  · exact hout (hcomplete.2 i row hrow (howner.trans huser) hactive)
  · cases hrotate

/-- A user without an active token gets none by a refresh. -/
theorem AuthStep.allRevoked {t : AuthWork} {held : AuthLock → Prop} {userId : ℕ}
    (h : AuthStep cfg s t s') (hknows : t.Knows cfg held s) (hcomplete : t.Complete s)
    (hs : AllRevoked userId s) : AllRevoked userId s' := by
  intro row' hmem huser hnone
  obtain ⟨i, hrow'⟩ := List.getElem?_of_mem hmem
  rcases h.active_before hcomplete hrow' hnone with ⟨row, hrow, howner, hactive, -⟩ |
    ⟨req, tokenId, rfl⟩
  · exact hs row (mem_of_row hrow) (howner.trans huser) hactive
  · -- the token that is rotated is one of the user's
    obtain ⟨-, row, hrow, howner, -, hactive⟩ := hknows
    exact hs row (mem_of_row hrow) (howner.trans huser) hactive

end Detection

/-! ### Runs -/

section Runs

variable {cfg : AuthSettings}

/-- **In a run of refreshes in which no rotation commits between the read and the commit of a
detection for the same user**, no token of the user is active once the detection has committed,
whenever it was issued. -/
theorem reuse_ends_every_session {s : AuthTables} {sv sv' sv'' : Server AuthTables AuthLock AuthWork}
    {k : ℕ} {r : Revocation} {tokenIds : List ℕ}
    (h : Reaches (authenticating cfg).exec RefreshesApart { tables := s } sv)
    (hopen : sv.sessions k = some (.revoke r tokenIds []))
    (hdone : (authenticating cfg).exec (.step k) sv = .ok sv')
    (hrest : Reaches (authenticating cfg).exec RefreshesApart sv' sv'') :
    ∀ t ∈ sv''.tables.refreshTokens, t.userId = r.userId → t.revokedAt ≠ none := by
  have hany : (authenticating cfg).Keeps RefreshesApart (fun _ => True)
      fun held s t => t.Knows cfg held s ∧ t.Complete s :=
    refreshing_keeps fun _ _ _ _ _ _ _ _ => trivial
  have hkeeps : (authenticating cfg).Keeps RefreshesApart (AllRevoked r.userId)
      fun held s t => t.Knows cfg held s ∧ t.Complete s :=
    refreshing_keeps fun _ _ _ _ hs hknows hcomplete hstep => hstep.allRevoked hknows hcomplete hs
  have hok : RefreshesApart sv (.step k) := by
    refine ⟨trivial, ?_⟩
    rintro _ req tokenId userId ⟨⟩ hrotate
    cases hopen.symm.trans hrotate
  have hsv := hany.reaches (Server.inv_of_tables trivial) h
  have hsv' := hany.exec hsv hok hdone
  -- the commit of the detection
  have hrevoked : AllRevoked r.userId sv'.tables := by
    have hdone' := hdone
    unfold Program.exec at hdone'
    simp only [hopen, authenticating, Server.perform] at hdone'
    cases hdone'
    exact (AuthStep.revoked : AuthStep cfg sv.tables _ _).allRevoked_of_reuse
      (hsv.sessions k _ hopen).2
  exact (hkeeps.reaches ⟨hrevoked, hsv'.sessions, hsv'.holders⟩ hrest).tables

/-- The clerk's token was rotated once, so there is an old one and an active one. -/
def clerkRefreshed : AuthTables :=
  { clerkLoggedIn with
    refreshTokens := [⟨0, "a", 100, some 1⟩, ⟨0, "b", 101, none⟩]
    rotations := [(0, 1)] }

/-- A server after some refreshes, from these tables on; it fails where an event is not possible. -/
def refreshesAfter (es : List (Event AuthRequest)) (s : AuthTables) :
    Except Refused (Server AuthTables AuthLock AuthWork) :=
  es.foldlM (guarded (authenticating plainTokens).exec OnlyRefreshes .blocked) { tables := s }

/-- The old token is presented, its reuse detected, and the active token locked. -/
def reuseLocked : Server AuthTables AuthLock AuthWork :=
  value (refreshesAfter [.begin 0 (.refresh ⟨"a", "x", 2⟩), .step 0, .step 0, .step 0]
    clerkRefreshed) (by decide +kernel)

def reuseCommitted : Server AuthTables AuthLock AuthWork :=
  value ((authenticating plainTokens).exec (.step 0) reuseLocked) (by decide +kernel)

/-- Nothing has come between: the clerk has two tokens, and neither is active. -/
theorem reuse_ends_every_session_clerk :
    reuseCommitted.tables.refreshTokens.map (·.userId) = [0, 0] ∧
      ∀ t ∈ reuseCommitted.tables.refreshTokens, t.userId = 0 → t.revokedAt ≠ none := by
  let begun := value ((authenticating plainTokens).exec (.begin 0 (.refresh ⟨"a", "x", 2⟩))
    { tables := clerkRefreshed }) (by decide +kernel)
  let presented := value ((authenticating plainTokens).exec (.step 0) begun) (by decide +kernel)
  let read := value ((authenticating plainTokens).exec (.step 0) presented) (by decide +kernel)
  have hbegun : Reaches (authenticating plainTokens).exec RefreshesApart
      { tables := clerkRefreshed } begun :=
    .next (r := .begin 0 (.refresh ⟨"a", "x", 2⟩)) .start ⟨trivial, nofun⟩ (eq_ok_value _ _)
  have hpresented : Reaches (authenticating plainTokens).exec RefreshesApart
      { tables := clerkRefreshed } presented := by
    refine .next (r := .step 0) hbegun ⟨trivial, ?_⟩ (eq_ok_value _ _)
    rintro _ req tokenId userId ⟨⟩ ⟨⟩
  have hread : Reaches (authenticating plainTokens).exec RefreshesApart
      { tables := clerkRefreshed } read := by
    refine .next (r := .step 0) hpresented ⟨trivial, ?_⟩ (eq_ok_value _ _)
    rintro _ req tokenId userId ⟨⟩ ⟨⟩
  have hlocked : Reaches (authenticating plainTokens).exec RefreshesApart
      { tables := clerkRefreshed } reuseLocked := by
    refine .next (r := .step 0) hread ⟨trivial, ?_⟩ (eq_ok_value _ _)
    rintro _ req tokenId userId ⟨⟩ ⟨⟩
  refine ⟨by decide +kernel, ?_⟩
  exact reuse_ends_every_session (r := ⟨0, 2, .reuseDetected⟩) hlocked rfl (eq_ok_value _ _) .start

/-! ### A rotation in between -/

/-- The old token is presented and the active tokens are read; then the active one is rotated,
and only then locked for the revocation. -/
def rotatedInBetween : Server AuthTables AuthLock AuthWork :=
  value (refreshesAfter [.begin 0 (.refresh ⟨"a", "b", 1⟩), .step 0, .step 0, .step 0,
    .begin 1 (.refresh ⟨"a", "x", 2⟩), .step 1, .step 1,
    .begin 0 (.refresh ⟨"b", "c", 3⟩), .step 0, .step 0, .step 0, .step 1] clerkLoggedIn)
    (by decide +kernel)

def reuseOverlooked : Server AuthTables AuthLock AuthWork :=
  value ((authenticating plainTokens).exec (.step 1) rotatedInBetween) (by decide +kernel)

/-- The token that was issued in between is active after the detection. -/
theorem rotation_survives_reuse :
    ¬∀ (sv sv' : Server AuthTables AuthLock AuthWork) (k : ℕ) (r : Revocation)
      (tokenIds : List ℕ),
      Reaches (authenticating plainTokens).exec OnlyRefreshes { tables := clerkLoggedIn } sv →
      sv.sessions k = some (.revoke r tokenIds []) →
      (authenticating plainTokens).exec (.step k) sv = .ok sv' →
      ∀ ij ∈ sv'.tables.rotations, ∀ t, sv'.tables.refreshTokens[ij.2]? = some t →
        t.userId = r.userId → t.revokedAt ≠ none := by
  intro hall
  have hrun : Reaches (authenticating plainTokens).exec OnlyRefreshes { tables := clerkLoggedIn }
      rotatedInBetween := reaches_of_guarded (eq_ok_value _ _)
  have hissued : (1, 2) ∈ reuseOverlooked.tables.rotations := by decide +kernel
  have hactive : reuseOverlooked.tables.refreshTokens[2]? = some ⟨0, "c", 103, none⟩ := by
    decide +kernel
  exact hall rotatedInBetween reuseOverlooked 1 ⟨0, 2, .reuseDetected⟩ [1] hrun rfl
    (eq_ok_value _ _) (1, 2) hissued _ hactive rfl rfl

end Runs

end GroceryErp
