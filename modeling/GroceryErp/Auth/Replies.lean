import GroceryErp.Auth.Browsers
import GroceryErp.Auth.Sessions
import Mathlib.Data.Set.Basic

/-!
# What the endpoints do to tokens

A browser whose cookie is good gets a good cookie back, or keeps the one it has, or has none after
a logout; the tokens of other browsers stay as good as they were.  Only a token that is revoked
already makes the server revoke others, and those are of the same user.

## Main definitions

* `AuthTables.good` — the tokens that are good, as far as they are a user's.
* `Replies` — what an endpoint does for a browser.

## Main results

* `refresh_replies`, `logout_replies`, `login_replies` — the endpoints.
* `respond_replies` — **what an endpoint does for a browser whose cookie is good.**

## References

`backend/app/api/v1/endpoints/auth.py`, `login`, `refresh`, `logout`.
-/

namespace GroceryErp

open Outcome Rows

/-! ### The tokens -/

namespace AuthTables

/-- The hashes of all tokens that were ever issued, revoked ones included. -/
def hashes (s : AuthTables) : Set String :=
  {tokenHash | ∃ t ∈ s.refreshTokens, t.tokenHash = tokenHash}

/-- The hashes of the tokens that are good, as far as they are the user's. -/
def good (s : AuthTables) (userId : ℕ) : Set String :=
  {tokenHash | ∃ (i : ℕ) (t : RefreshToken), s.refreshTokens[i]? = some t ∧
    t.tokenHash = tokenHash ∧ (t.userId = userId → t.revokedAt = none)}

/-- The tables are as the database keeps them, and the user is active. -/
structure Serves (s : AuthTables) (userId : ℕ) : Prop where
  unique : (s.refreshTokens.map (·.tokenHash)).Nodup
  active : ∃ user, s.users[userId]? = some user ∧ user.isActive = true

variable {s s' : AuthTables} {userId : ℕ}

theorem map_tokenHash_revokeTokens (s : AuthTables) (tokenIds : List ℕ) (now : Instant) :
    (s.revokeTokens tokenIds now).refreshTokens.map (·.tokenHash)
      = s.refreshTokens.map (·.tokenHash) := by
  refine List.ext_getElem? fun i => ?_
  rw [List.getElem?_map, List.getElem?_map]
  cases hrow : s.refreshTokens[i]? with
  | none =>
    unfold revokeTokens
    rw [List.getElem?_mapIdx, hrow]
    rfl
  | some t =>
    rw [getElem?_revokeTokens hrow]
    split
    · rfl
    · rfl

theorem hashes_eq (s : AuthTables) :
    s.hashes = {tokenHash | tokenHash ∈ s.refreshTokens.map (·.tokenHash)} := by
  ext tokenHash
  simp [hashes]

/-- Tokens with other hashes, or of other users, may be revoked. -/
theorem good_revokeTokens {tokenIds : List ℕ} {now : Instant} {tokenHash : String}
    (h : tokenHash ∈ s.good userId)
    (hother : ∀ i ∈ tokenIds, ∀ t, s.refreshTokens[i]? = some t →
      t.tokenHash = tokenHash → t.userId ≠ userId) :
    tokenHash ∈ (s.revokeTokens tokenIds now).good userId := by
  obtain ⟨i, t, ht, hhash, hgood⟩ := h
  refine ⟨i, _, getElem?_revokeTokens ht, ?_⟩
  split
  · next hi => exact ⟨hhash, fun howner => absurd howner (hother i hi t ht hhash)⟩
  · exact ⟨hhash, hgood⟩

theorem Serves.revokeTokens (h : s.Serves userId) (tokenIds : List ℕ) (now : Instant) :
    (s.revokeTokens tokenIds now).Serves userId where
  unique := by
    rw [map_tokenHash_revokeTokens]
    exact h.unique
  active := h.active

theorem hashes_revokeTokens (s : AuthTables) (tokenIds : List ℕ) (now : Instant) :
    (s.revokeTokens tokenIds now).hashes = s.hashes := by
  rw [hashes_eq, hashes_eq, map_tokenHash_revokeTokens]

/-- What issuing a token does: its hash is new, it is good from then on, and what was good stays so.
-/
structure Issues (s s' : AuthTables) (userId : ℕ) (tokenHash : String) : Prop where
  serves : s.Serves userId → s'.Serves userId
  fresh : tokenHash ∉ s.hashes
  issued : tokenHash ∈ s'.hashes
  good : tokenHash ∈ s'.good userId
  hashes : s.hashes ⊆ s'.hashes
  keeps : s.good userId ⊆ s'.good userId

theorem insertToken_issues {token : RefreshToken} (hactive : token.revokedAt = none)
    (h : s.insertToken token = .ok s') (userId : ℕ) : s.Issues s' userId token.tokenHash := by
  obtain rfl := insertToken_ok h
  have hfresh : token.tokenHash ∉ s.hashes := by
    unfold insertToken at h
    simp only [↓check_bind_eq_ok, checkUnique_eq_ok] at h
    exact h.1
  have hlast : (s.refreshTokens ++ [token])[s.refreshTokens.length]? = some token := by simp
  refine ⟨fun hserves => ⟨?_, hserves.active⟩, hfresh, ⟨token, by simp, rfl⟩,
    ⟨_, token, hlast, rfl, fun _ => hactive⟩, ?_, ?_⟩
  · rw [List.map_append, List.nodup_append]
    refine ⟨hserves.unique, List.nodup_singleton _, ?_⟩
    intro a ha b hb
    rw [List.map_singleton, List.mem_singleton] at hb
    subst hb
    rintro rfl
    obtain ⟨t, ht, hsame⟩ := List.mem_map.mp ha
    exact hfresh ⟨t, ht, hsame⟩
  · rintro tokenHash ⟨t, ht, hhash⟩
    exact ⟨t, List.mem_append_left _ ht, hhash⟩
  · rintro tokenHash ⟨i, t, ht, hhash, hgood⟩
    have hlt := (List.getElem?_eq_some_iff.mp ht).1
    exact ⟨i, t, by rw [List.getElem?_append_left hlt, ht], hhash, hgood⟩

end AuthTables

/-! ### The endpoints -/

/-- What an endpoint does for a browser: it may spoil the token in the cookie, and no other good
one, and the cookie it sets is the one that was there or a new one, and good. -/
structure Replies (cfg : AuthSettings) (userId : ℕ) (s : AuthTables) (cookie : Option String)
    (s' : AuthTables) (answer : Answer) : Prop where
  serves : s'.Serves userId
  hashes : s.hashes ⊆ s'.hashes
  spoils : ∀ tokenHash ∈ s.good userId, cookie.map cfg.hashRefreshToken ≠ some tokenHash →
    tokenHash ∈ s'.good userId
  holds : ∀ raw, answer.setCookie cookie = some raw →
    cfg.hashRefreshToken raw ∈ s'.good userId ∧
      (cookie = some raw ∨ (cfg.hashRefreshToken raw ∉ s.hashes ∧
        cfg.hashRefreshToken raw ∈ s'.hashes))

section Replies

variable {cfg : WebSettings} {userId : ℕ} {s s' : AuthTables} {cookie : Option String}
  {answer : Answer} {now : Instant}

/-- An answer that leaves the cookie. -/
theorem Replies.of_same (hserves : s.Serves userId)
    (hcookie : ∀ raw ∈ cookie, cfg.hashRefreshToken raw ∈ s.good userId)
    (hsame : ∀ c, answer.setCookie c = c) :
    Replies cfg.toAuthSettings userId s cookie s answer where
  serves := hserves
  hashes := Set.Subset.rfl
  spoils _ hgood _ := hgood
  holds raw hraw := by
    rw [hsame] at hraw
    exact ⟨hcookie raw hraw, .inl hraw⟩

theorem AppError.setCookie_answer (e : AppError) (c : Option String) : e.answer.setCookie c = c := by
  cases e <;> rfl

/-- The token that a hash finds is the only one with it. -/
theorem userId_ne_of_tokenWithHash {tokenHash : String} {tokenId : ℕ} {row : RefreshToken}
    (hunique : (s.refreshTokens.map (·.tokenHash)).Nodup)
    (hgood : tokenHash ∈ s.good userId) (hfound : s.tokenWithHash tokenHash = [(tokenId, row)])
    (hrevoked : row.revokedAt ≠ none) : row.userId ≠ userId := by
  obtain ⟨i, t, ht, hhash, hactive⟩ := hgood
  have hfound' : s.tokenWithHash tokenHash = [(i, t)] := rowsWhere_of_key hunique ht hhash
  obtain ⟨rfl, rfl⟩ : tokenId = i ∧ row = t := by
    rw [hfound] at hfound'
    simpa using hfound'
  exact fun howner => hrevoked (hactive howner)

/-- A token with another hash than the one that was found is left alone. -/
theorem good_revoke_found {tokenHash found : String} {tokenId : ℕ} {row : RefreshToken}
    (hgood : tokenHash ∈ s.good userId) (hfound : s.tokenWithHash found = [(tokenId, row)])
    (hne : found ≠ tokenHash) : tokenHash ∈ (s.revokeTokens [tokenId] now).good userId := by
  obtain ⟨hrow, hhash⟩ := getElem?_of_tokenWithHash hfound
  refine AuthTables.good_revokeTokens hgood fun i hi t ht hsame => ?_
  rw [List.mem_singleton.mp hi] at ht
  obtain rfl := Option.some.inj (hrow.symm.trans ht)
  exact absurd (hhash.symm.trans hsame) hne

/-- The tokens that are revoked with a stolen one are of its user. -/
theorem good_revokeAll {owner : ℕ} {tokenHash : String} (hgood : tokenHash ∈ s.good userId)
    (howner : owner ≠ userId) :
    tokenHash ∈ (s.revokeAllRefreshTokensForUser owner now).good userId := by
  refine AuthTables.good_revokeTokens hgood fun i hi t ht _ => ?_
  unfold AuthTables.activeTokens at hi
  obtain ⟨⟨j, t'⟩, hmem, rfl⟩ := List.mem_map.mp hi
  obtain ⟨ht', htheirs, -⟩ := mem_rowsWhere.mp hmem
  obtain rfl := Option.some.inj (ht'.symm.trans ht)
  rw [htheirs]
  exact howner

theorem refresh_replies {raw rawNew : String} (hserves : s.Serves userId)
    (hcookie : cfg.hashRefreshToken raw ∈ s.good userId) :
    Replies cfg.toAuthSettings userId s (some raw)
      (respondRefresh cfg s (some raw) rawNew now).1
      (respondRefresh cfg s (some raw) rawNew now).2 := by
  have hsame : ∀ raw' ∈ some raw, cfg.hashRefreshToken raw' ∈ s.good userId := by
    rintro _ ⟨⟩
    exact hcookie
  unfold respondRefresh
  dsimp only
  split
  · next s' owner hdone =>
    -- The token is rotated.
    obtain ⟨_, _, hnone, _⟩ | ⟨tokenId, owner', hpresent, -, -, hrotate⟩ :=
      refreshAccessToken_steps.mp hdone
    · cases hnone
    obtain ⟨i, t, hfound, ⟨-, hreused⟩ | ⟨-, -, hvalid⟩⟩ := presentToken_ok hpresent
    · cases hreused
    cases hvalid
    unfold rotateToken at hrotate
    simp only [bind_eq_ok, pure_eq_ok] at hrotate
    obtain ⟨d, hinsert, rfl⟩ := hrotate
    have hissues := AuthTables.insertToken_issues rfl hinsert userId
    have hserves' := hissues.serves (hserves.revokeTokens _ _)
    refine ⟨⟨hserves'.unique, hserves'.active⟩, ?_, ?_, ?_⟩
    · exact (AuthTables.hashes_revokeTokens s _ _).symm.subset.trans hissues.hashes
    · intro tokenHash hgood hne
      exact hissues.keeps (good_revoke_found hgood hfound fun heq => hne (congrArg some heq))
    · rintro _ ⟨⟩
      rw [← AuthTables.hashes_revokeTokens s [tokenId] now]
      exact ⟨hissues.good, .inr ⟨hissues.fresh, hissues.issued⟩⟩
  · next s' hdone =>
    -- It is taken for stolen, which a good token of the user is not.
    obtain ⟨owner, hpresent, -, rfl⟩ | ⟨_, _, _, hsome, _⟩ := refreshAccessToken_steps.mp hdone
    · obtain ⟨i, t, hfound, ⟨hrevoked, hreused⟩ | ⟨-, -, hvalid⟩⟩ := presentToken_ok hpresent
      · cases hreused
        have howner := userId_ne_of_tokenWithHash hserves.unique hcookie hfound hrevoked
        refine ⟨hserves.revokeTokens _ _, ?_, fun h hgood _ => good_revokeAll hgood howner, ?_⟩
        · exact (AuthTables.hashes_revokeTokens s _ _).symm.subset
        · rintro _ ⟨⟩
          exact ⟨good_revokeAll hcookie howner, .inl rfl⟩
      · cases hvalid
    · cases hsome
  · next e hfail => exact .of_same hserves hsame e.setCookie_answer

theorem logout_replies {raw : String} (hserves : s.Serves userId)
    (hcookie : cfg.hashRefreshToken raw ∈ s.good userId) :
    Replies cfg.toAuthSettings userId s (some raw) (respondLogout cfg s (some raw) now).1
      (respondLogout cfg s (some raw) now).2 := by
  -- the cookie's token may go bad by this, and no other token does
  have hsame : ∀ raw' ∈ some raw, cfg.hashRefreshToken raw' ∈ s.good userId := by
    rintro _ ⟨⟩
    exact hcookie
  unfold respondLogout
  dsimp only
  split
  · next s' hdone =>
    unfold logout at hdone
    simp only [bind_eq_ok] at hdone
    obtain ⟨found, hfound, hdone⟩ := hdone
    split at hdone
    · next tokenId row =>
      have hone := scalarOneOrNone_eq_some.mp hfound
      split at hdone
      · rw [pure_eq_ok] at hdone
        subst hdone
        refine ⟨hserves.revokeTokens _ _, ?_, ?_, fun _ h => by cases h⟩
        · exact (AuthTables.hashes_revokeTokens s _ _).symm.subset
        · intro tokenHash hgood hne
          exact good_revoke_found hgood hone fun heq => hne (congrArg some heq)
      · rw [pure_eq_ok] at hdone
        subst hdone
        exact ⟨hserves, Set.Subset.rfl, fun _ hgood _ => hgood, fun _ h => by cases h⟩
    · rw [pure_eq_ok] at hdone
      subst hdone
      exact ⟨hserves, Set.Subset.rfl, fun _ hgood _ => hgood, fun _ h => by cases h⟩
  · next e hfail => exact .of_same hserves hsame e.setCookie_answer

theorem login_replies {req : Login} (hserves : s.Serves userId)
    (hcookie : ∀ raw ∈ cookie, cfg.hashRefreshToken raw ∈ s.good userId) :
    Replies cfg.toAuthSettings userId s cookie (respondLogin cfg s req).1
      (respondLogin cfg s req).2 := by
  unfold respondLogin
  split
  · next owner s' hauth hdone =>
    unfold login at hdone
    rw [hauth, ok_bind] at hdone
    have hissues := AuthTables.insertToken_issues rfl hdone userId
    refine ⟨hissues.serves hserves, hissues.hashes, fun h hgood _ => hissues.keeps hgood, ?_⟩
    rintro _ ⟨⟩
    exact ⟨hissues.good, .inr ⟨hissues.fresh, hissues.issued⟩⟩
  · next e _ => exact .of_same hserves hcookie e.setCookie_answer
  · next e _ _ => exact .of_same hserves hcookie e.setCookie_answer

/-- **What an endpoint does for a browser whose cookie is good.** -/
theorem respond_replies {f : Fetch} {rawNew : String} (hserves : s.Serves userId)
    (hcookie : ∀ raw ∈ f.cookie, cfg.hashRefreshToken raw ∈ s.good userId) :
    Replies cfg.toAuthSettings userId s f.cookie (respond cfg s f rawNew now).1
      (respond cfg s f rawNew now).2 := by
  unfold respond
  split
  · exact login_replies hserves hcookie
  · cases hraw : f.cookie with
    | none => exact .of_same hserves (by simp) fun _ => rfl
    | some raw => exact refresh_replies hserves (hcookie raw hraw)
  · cases hraw : f.cookie with
    | none => exact .of_same hserves (by simp) fun _ => rfl
    | some raw => exact refresh_replies hserves (hcookie raw hraw)
  · cases hraw : f.cookie with
    | none =>
      exact ⟨hserves, Set.Subset.rfl, fun _ hgood _ => hgood, fun _ h => by cases h⟩
    | some raw => exact logout_replies hserves (hcookie raw hraw)
  · refine .of_same hserves hcookie fun c => ?_
    split <;> rfl
  · refine .of_same hserves hcookie fun c => ?_
    split <;> rfl

end Replies

end GroceryErp
