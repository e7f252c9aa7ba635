import GroceryErp.Auth.Cookies
import GroceryErp.Auth.Replies
import GroceryErp.Lib.Keyrings
import GroceryErp.Lib.Runs

/-!
# Sessions of browsers

A refresh token is used once, and one that comes again is taken for stolen, which ends every
session of its user.  What a browser sends when therefore matters: as long as it waits for the
answer of one request that goes with its cookie before it sends the next, and the answers arrive,
its session goes on until its token expires.  Two tabs, or two requests of one page, that find
their access tokens expired at the same time do not wait for each other.

What is said of a browser is said of what it holds, `Web.held`: its cookie, or, while an answer
that sets or clears the cookie is still on its way, what the cookie will be once that has come.

## Main definitions

* `Web.keyring` — the cookies as keys.
* `Web.Sound` — the invariant.

## Main results

* `Sound.exec` — one event keeps the invariant.
* `session_goes_on` — **the session of a browser goes on**, whatever the others do.
* `refreshes_promised` — `refresh` of `auth.ts` never overlaps itself in a tab.
* `overlapping_refreshes` — a laptop and a phone that are both signed out by two refreshes of one
  page of the laptop.

## References

`frontend/src/api/client.ts`, `apiFetch`, `refreshAccessToken`;
`backend/app/modules/auth/service.py`, `refresh_access_token`.
-/

namespace GroceryErp

open Keyrings Outcome Rows Runs

/-! ### One event -/

namespace Web

/-- The cookies as keys, of which those open that are good as far as they are the user's. -/
def keyring (cfg : AuthSettings) (userId : ℕ) (w : Web) : Keyring ℕ String where
  made := w.tables.hashes
  opening := w.tables.good userId
  held browser := (w.held browser).map cfg.hashRefreshToken

/-- The invariant of the whole web: the tabs wait for what is sent, the tables serve the user, and
the cookie's tokens follow one another in the order they were made. -/
structure Sound (cfg : AuthSettings) (userId : ℕ) (w : Web) : Prop where
  attended : w.Attended
  serves : w.tables.Serves userId
  keyring : (w.keyring cfg userId).InOrder

section Sound

variable {cfg : WebSettings} {userId : ℕ} {w w' : Web} {i : ℕ} {f : Fetch} {answer : Answer}

theorem keyring_congr (htables : w'.tables = w.tables) (hheld : w'.held = w.held) :
    w'.keyring cfg.toAuthSettings userId = w.keyring cfg.toAuthSettings userId := by
  unfold keyring
  rw [htables, hheld]

theorem Sound.of_same (h : w.Sound cfg.toAuthSettings userId) (hattended : w'.Attended)
    (htables : w'.tables = w.tables) (hheld : w'.held = w.held) :
    w'.Sound cfg.toAuthSettings userId where
  attended := hattended
  serves := htables ▸ h.serves
  keyring := by
    rw [keyring_congr htables hheld]
    exact h.keyring

theorem Sound.send (h : w.Sound cfg.toAuthSettings userId) {tab : TabId} {call : Call}
    (bearer : Option AccessToken) (hidle : call.ToAuth → w.Idle tab.browser) :
    (w.send tab call bearer).Sound cfg.toAuthSettings userId :=
  h.of_same (h.attended.send hidle) rfl held_send

/-- What a browser has in its cookie is good. -/
theorem Sound.good_of_held (h : w.Sound cfg.toAuthSettings userId) {browser : ℕ} {raw : String}
    (hheld : w.held browser = some raw) :
    cfg.hashRefreshToken raw ∈ w.tables.good userId := by
  refine h.keyring.opening browser _ ?_
  change (w.held browser).map _ = _
  rw [hheld]
  rfl

/-- A request on its way goes with the cookie that its browser has. -/
theorem Attended.held_of_unanswered (h : w.Attended) (hf : w.fetches[i]? = some f)
    (hpending : f.Pending) (hnone : f.answer = none) : w.held f.tab.browser = f.cookie := by
  rw [h.held_eq hf hpending, Fetch.leaves, hnone, h.carries f (mem_of_row hf) hpending hnone]

/-- An endpoint answers a request that goes with the cookie. -/
theorem Sound.answered (h : w.Sound cfg.toAuthSettings userId) (hf : w.fetches[i]? = some f)
    (hnone : f.answer = none) (hcall : f.call.ToAuth) {s : AuthTables}
    (hreplies : Replies cfg.toAuthSettings userId w.tables f.cookie s answer) :
    (w.answered i f s answer).Sound cfg.toAuthSettings userId := by
  have hpending := h.attended.pending hf hnone hcall
  have hcookie := h.attended.carries f (mem_of_row hf) hpending hnone
  have hheld := h.attended.held_answered hf hpending s answer
  refine ⟨h.attended.answered hf fun hplain => absurd hcall hplain, hreplies.serves, ?_⟩
  -- the answer is a move of the keyring: what it spoils, whom it leaves alone, and what it hands
  -- out
  refine h.keyring.next (c := f.tab.browser) ⟨hreplies.hashes, ?_, ?_, ?_⟩
  · intro tokenHash hgood hother
    refine hreplies.spoils tokenHash hgood fun hspoiled => hother ?_
    change (w.held f.tab.browser).map _ = _
    rw [h.attended.held_of_unanswered hf hpending hnone, hspoiled]
  · intro browser hne
    change ((w.answered i f s answer).held browser).map _ = (w.held browser).map _
    rw [hheld, Function.update_of_ne hne]
  · intro tokenHash hholds
    change ((w.answered i f s answer).held f.tab.browser).map _ = _ at hholds
    rw [hheld, Function.update_self, Option.map_eq_some_iff] at hholds
    obtain ⟨raw, hraw, rfl⟩ := hholds
    rw [← hcookie] at hraw
    obtain ⟨hgood, hsame | hfresh⟩ := hreplies.holds raw hraw
    · refine ⟨hgood, .inl ?_⟩
      change (w.held f.tab.browser).map _ = _
      rw [h.attended.held_of_unanswered hf hpending hnone, hsame]
      rfl
    · exact ⟨hgood, .inr hfresh⟩

/-- An endpoint other than those of `auth` answers: it touches neither tables nor cookie. -/
theorem Sound.answered_of_plain (h : w.Sound cfg.toAuthSettings userId)
    (hf : w.fetches[i]? = some f) (hcall : ¬f.call.ToAuth)
    (hplain : ∀ c, answer.setCookie c = c) :
    (w.answered i f w.tables answer).Sound cfg.toAuthSettings userId :=
  h.of_same (h.attended.answered hf fun _ => hplain) rfl (held_answered_of_plain hf hcall)

/-- What endpoints answer that are not under `/api/v1/auth`. -/
theorem respond_of_plain (cfg : WebSettings) (s : AuthTables) (hcall : ¬f.call.ToAuth)
    (rawNew : String) (now : Instant) : (respond cfg s f rawNew now).1 = s ∧
      ∀ c, (respond cfg s f rawNew now).2.setCookie c = c := by
  unfold respond
  cases hkind : f.call with
  | login | refresh | logout | silentRefresh =>
    rw [hkind] at hcall
    exact absurd trivial hcall
  | data | retry =>
    refine ⟨rfl, fun c => ?_⟩
    dsimp only
    split <;> rfl

/-- What `apiFetch` sends next goes with the cookie only after a 401. -/
theorem followUp_eq_some {call call' : Call} {bearer : Option AccessToken}
    (h : call.followUp answer = some (call', bearer)) :
    (call = .data ∧ answer = .unauthorized) ∨ ¬call'.ToAuth := by
  unfold Call.followUp at h
  split at h
  · exact .inl ⟨rfl, rfl⟩
  · cases h
    exact .inr id
  · cases h

theorem Sound.settle (h : w.Sound cfg.toAuthSettings userId) (hf : w.fetches[i]? = some f)
    (hanswer : f.Pending → f.answer = some answer) (hopen : f.settled = false)
    (hplain : ¬f.call.ToAuth → ∀ c, answer.setCookie c = c)
    (hidle : f.call = .data → answer = .unauthorized → w.Idle f.tab.browser) :
    (w.settle i f answer).Sound cfg.toAuthSettings userId := by
  have hclose : (w.close i f answer).Sound cfg.toAuthSettings userId :=
    h.of_same (h.attended.close hf hanswer hopen hplain) rfl
      (h.attended.held_close hf hanswer hopen hplain)
  unfold Web.settle
  split
  · exact hclose
  · next call bearer hnext =>
    refine hclose.send bearer fun hcall => ?_
    obtain ⟨hdata, hunauthorized⟩ | hplain' := followUp_eq_some hnext
    · intro g hg hpending
      obtain ⟨j, hj⟩ := List.getElem?_of_mem hg
      exact hidle hdata hunauthorized g (mem_of_row (pending_of_close hf hj hpending).1) hpending
    · exact absurd hcall hplain'

/-- What happens to users and to the tokens of others. -/
theorem Sound.of_tables (h : w.Sound cfg.toAuthSettings userId) {s : AuthTables}
    (hserves : s.Serves userId) (hhashes : w.tables.hashes ⊆ s.hashes)
    (hgood : w.tables.good userId ⊆ s.good userId) :
    ({ w with tables := s } : Web).Sound cfg.toAuthSettings userId where
  attended := ⟨h.attended.single, h.attended.plain, h.attended.heard, h.attended.carries⟩
  serves := hserves
  keyring := h.keyring.of_kept rfl hhashes hgood

theorem Sound.deactivate (h : w.Sound cfg.toAuthSettings userId) {req : DeactivateUser}
    (hother : req.targetUserId ≠ userId) {s : AuthTables}
    (hdone : deactivateUser w.tables req = .ok s) :
    ({ w with tables := s } : Web).Sound cfg.toAuthSettings userId := by
  unfold deactivateUser at hdone
  simp only [bind_eq_ok, pure_eq_ok] at hdone
  obtain ⟨-, -, rfl⟩ := hdone
  obtain ⟨user, huser, hactive⟩ := h.serves.active
  have hstays : (w.tables.setInactive req.targetUserId).users[userId]? = some user := by
    rw [getElem?_setInactive huser, if_neg hother]
  have hserves : (w.tables.setInactive req.targetUserId).Serves userId :=
    ⟨h.serves.unique, user, hstays, hactive⟩
  refine h.of_tables (hserves.revokeTokens _ _) ?_ fun tokenHash hgood => ?_
  · exact (AuthTables.hashes_revokeTokens (w.tables.setInactive _) _ _).symm.subset
  · exact good_revokeAll (s := w.tables.setInactive req.targetUserId) hgood hother

theorem Sound.reactivate (h : w.Sound cfg.toAuthSettings userId) (target : ℕ) :
    ({ w with tables := w.tables.setActive target } : Web).Sound cfg.toAuthSettings userId := by
  obtain ⟨user, huser, hactive⟩ := h.serves.active
  refine h.of_tables ⟨h.serves.unique, ?_⟩ Set.Subset.rfl Set.Subset.rfl
  refine ⟨if target = userId then { user with isActive := true } else user, ?_, ?_⟩
  · unfold AuthTables.setActive
    rw [List.getElem?_modify, huser]
    split
    · rfl
    · rfl
  · split
    · rfl
    · exact hactive

theorem unanswered_eq_ok : w.unanswered i = .ok f ↔ w.fetches[i]? = some f ∧ f.answer = none := by
  unfold unanswered
  simp only [bind_eq_ok, ↓check_bind_eq_ok, orRaise_eq_ok, raiseIf_eq_ok, pure_eq_ok, not_not]
  constructor
  · rintro ⟨g, hg, hnone, rfl⟩
    exact ⟨hg, hnone⟩
  · rintro ⟨hf, hnone⟩
    exact ⟨f, hf, hnone, rfl⟩

theorem unsettled_eq_ok : w.unsettled i = .ok f ↔ w.fetches[i]? = some f ∧ f.settled = false := by
  unfold unsettled
  simp only [bind_eq_ok, ↓check_bind_eq_ok, orRaise_eq_ok, raiseIf_eq_ok, pure_eq_ok,
    Bool.not_eq_true]
  constructor
  · rintro ⟨g, hg, hopen, rfl⟩
    exact ⟨hg, hopen⟩
  · rintro ⟨hf, hopen⟩
    exact ⟨f, hf, hopen, rfl⟩

/-- **One event keeps the invariant**, if it is one of an orderly run: a tab sends, the server
answers, an answer arrives, or an administrator steps in. -/
theorem Sound.exec (h : w.Sound cfg.toAuthSettings userId) {e : WebEvent}
    (horderly : w.Orderly userId e) (hdone : Web.exec cfg e w = .ok w') :
    w'.Sound cfg.toAuthSettings userId := by
  obtain ⟨hidle, hlost, hstays⟩ := horderly
  -- the events that send something keep to the condition that one tab of a browser talks to `auth`
  -- at a time
  cases e with
  | login tab username password =>
    cases hdone
    exact h.send _ fun _ => hidle tab rfl
  | logout tab =>
    cases hdone
    exact h.send _ fun _ => hidle tab rfl
  | apiFetch tab =>
    cases hdone
    exact h.send _ fun hcall => hcall.elim
  | refresh tab =>
    cases hdone
    unfold Web.refresh
    split
    · exact h
    · next hpromise =>
      have hsent : (w.send tab .refresh (w.tabs tab).accessToken).Sound cfg.toAuthSettings userId :=
        h.send _ fun _ => hidle tab (if_neg hpromise)
      exact hsent.of_same ⟨hsent.attended.single, hsent.attended.plain, hsent.attended.heard,
        hsent.attended.carries⟩ rfl rfl
  -- the server answers: only the endpoints of `auth` touch tokens and cookie
  | serve i rawNew now =>
    unfold Web.exec at hdone
    simp only [bind_eq_ok, unanswered_eq_ok, pure_eq_ok] at hdone
    obtain ⟨f, ⟨hf, hnone⟩, rfl⟩ := hdone
    by_cases hcall : f.call.ToAuth
    · have hpending := h.attended.pending hf hnone hcall
      refine h.answered hf hnone hcall (respond_replies h.serves fun raw hraw => ?_)
      exact h.good_of_held ((h.attended.held_of_unanswered hf hpending hnone).trans hraw)
    · obtain ⟨hsame, hplain⟩ := respond_of_plain cfg w.tables hcall rawNew now
      have hanswered := h.answered_of_plain hf hcall hplain
      rw [hsame]
      exact hanswered
  | turnAway i =>
    unfold Web.exec at hdone
    simp only [bind_eq_ok, unanswered_eq_ok, pure_eq_ok] at hdone
    obtain ⟨f, ⟨hf, hnone⟩, rfl⟩ := hdone
    by_cases hcall : f.call.ToAuth
    · have hpending := h.attended.pending hf hnone hcall
      refine h.answered hf hnone hcall (.of_same h.serves (fun raw hraw => ?_) fun _ => rfl)
      exact h.good_of_held ((h.attended.held_of_unanswered hf hpending hnone).trans hraw)
    · exact h.answered_of_plain hf hcall fun _ => rfl
  -- the browser takes the answer in, which may open the silent refresh
  | receive i =>
    unfold Web.exec at hdone
    simp only [bind_eq_ok, unsettled_eq_ok, orRaise_eq_ok, pure_eq_ok] at hdone
    obtain ⟨f, ⟨hf, hopen⟩, answer, hanswer, rfl⟩ := hdone
    refine h.settle hf (fun _ => hanswer) hopen
      (fun hcall => h.attended.plain f (mem_of_row hf) hcall answer hanswer) fun hdata h401 => ?_
    refine hidle f.tab ?_
    have hopens : w.opens (.receive i) = some f.tab := by
      unfold opens
      dsimp only
      rw [hf]
      exact if_pos ⟨hdata, h401 ▸ hanswer⟩
    exact hopens
  | lose i =>
    unfold Web.exec at hdone
    simp only [bind_eq_ok, unsettled_eq_ok, pure_eq_ok] at hdone
    obtain ⟨f, ⟨hf, hopen⟩, rfl⟩ := hdone
    have hcall : ¬f.call.ToAuth := hlost f hf
    exact h.settle hf (fun hpending => absurd hpending.1 hcall) hopen (fun _ _ => rfl)
      fun _ h401 => by cases h401
  | deactivate req =>
    unfold Web.exec at hdone
    dsimp only at hdone
    split at hdone
    · next s hs =>
      cases hdone
      exact h.deactivate (hstays req.targetUserId rfl) hs
    · cases hdone
  | reactivate target =>
    cases hdone
    exact h.reactivate target

end Sound

/-! ### Whole runs -/

/-- No browser has a cookie yet, and the user is active. -/
structure Fresh (userId : ℕ) (w : Web) : Prop where
  cookies : ∀ browser, w.cookies browser = none
  fetches : w.fetches = []
  serves : w.tables.Serves userId

end Web

section Runs

variable {cfg : WebSettings} {userId : ℕ} {w₀ w : Web}

theorem Web.Fresh.sound (h : w₀.Fresh userId) : w₀.Sound cfg.toAuthSettings userId := by
  have hnone : ∀ browser, w₀.held browser = none := by
    intro browser
    unfold Web.held
    rw [h.fetches]
    exact h.cookies browser
  refine ⟨⟨?_, ?_, ?_, ?_⟩, h.serves, Keyring.inOrder_of_empty fun browser => ?_⟩
  · simp [h.fetches]
  · simp [h.fetches]
  · simp [h.fetches]
  · simp [h.fetches]
  · change (w₀.held browser).map _ = none
    rw [hnone]
    rfl

theorem Web.sound_of_reaches (hstart : w₀.Fresh userId)
    (h : Reaches (Web.exec cfg) (Web.Orderly userId) w₀ w) : w.Sound cfg.toAuthSettings userId :=
  h.invariant hstart.sound fun _ _ _ hsound horderly hdone => hsound.exec horderly hdone

/-- A token that is good and not expired is rotated, for a user who is active. -/
theorem refreshAccessToken_of_good {s : AuthTables} {raw rawNew : String} {now : Instant}
    {tokenId : ℕ} {row : RefreshToken} (hserves : s.Serves row.userId)
    (hfound : s.tokenWithHash (cfg.hashRefreshToken raw) = [(tokenId, row)])
    (hactive : row.revokedAt = none) (hexpires : now ≤ row.expiresAt)
    (hfresh : cfg.hashRefreshToken rawNew ∉ s.hashes) :
    ∃ s', refreshAccessToken cfg.toAuthSettings s ⟨raw, rawNew, now⟩
      = .ok (s', some row.userId) := by
  obtain ⟨user, huser, hstays⟩ := hserves.active
  have hpresent : presentToken cfg.toAuthSettings s ⟨raw, rawNew, now⟩
      = .ok (.valid tokenId row.userId) := by
    unfold presentToken
    simp [hfound, scalarOneOrNone, orRaise, hactive, raiseIf, not_lt.mpr hexpires, ok_bind]
  have hcheck : checkTokenUser s row.userId = .ok () := by
    unfold checkTokenUser
    simp [huser, hstays]
  have hrotate : ∃ s', rotateToken cfg.toAuthSettings s ⟨raw, rawNew, now⟩ tokenId row.userId
      = .ok s' := by
    rw [← AuthTables.hashes_revokeTokens s [tokenId] now] at hfresh
    unfold rotateToken AuthTables.insertToken
    simp only [bind_eq_ok, ↓check_bind_eq_ok, checkUnique_eq_ok, pure_eq_ok]
    exact ⟨_, _, ⟨hfresh, rfl⟩, rfl⟩
  obtain ⟨s', hs'⟩ := hrotate
  exact ⟨s', refreshAccessToken_steps.mpr
    (.inr ⟨tokenId, row.userId, hpresent, rfl, hcheck, hs'⟩)⟩

/-- **The session of a browser goes on.**  In any run in which browsers are idle when they send
something with their cookies, and hear of what they have sent so, what a browser holds is good as
long as its user is not deactivated: the token is not revoked, every request on its way that has no
answer yet goes with it, and a refresh with it gets the next one. -/
theorem session_goes_on (hstart : w₀.Fresh userId)
    (h : Reaches (Web.exec cfg) (Web.Orderly userId) w₀ w) {browser tokenId : ℕ} {raw : String}
    {row : RefreshToken} (hheld : w.held browser = some raw)
    (hfound : w.tables.tokenWithHash (cfg.hashRefreshToken raw) = [(tokenId, row)])
    (howner : row.userId = userId) :
    row.revokedAt = none ∧
      (∀ f ∈ w.fetches, f.Pending → f.answer = none → f.tab.browser = browser →
        f.cookie = some raw) ∧
      ∀ rawNew now, now ≤ row.expiresAt → cfg.hashRefreshToken rawNew ∉ w.tables.hashes →
        ∃ s', refreshAccessToken cfg.toAuthSettings w.tables ⟨raw, rawNew, now⟩
          = .ok (s', some userId) := by
  have hsound := Web.sound_of_reaches hstart h
  have hgood := hsound.good_of_held hheld
  have hactive : row.revokedAt = none := by
    by_contra hrevoked
    exact userId_ne_of_tokenWithHash hsound.serves.unique hgood hfound hrevoked howner
  subst howner
  refine ⟨hactive, fun f hf hpending hnone hbrowser => ?_, fun rawNew now hexpires hfresh => ?_⟩
  · obtain ⟨i, hi⟩ := List.getElem?_of_mem hf
    rw [← hsound.attended.held_of_unanswered hi hpending hnone, hbrowser, hheld]
  · exact refreshAccessToken_of_good hsound.serves hfound hactive hexpires hfresh

end Runs

/-! ### The promise -/

/-- A refresh of `auth.ts` whose tab waits for it. -/
def Fetch.Awaited (f : Fetch) : Prop := f.call = .refresh ∧ f.settled = false

/-- A tab waits for one refresh of `auth.ts` at most, and has its promise. -/
def Web.Promised (w : Web) : Prop :=
  ∀ (i : ℕ) (f : Fetch), w.fetches[i]? = some f → f.Awaited →
    (w.tabs f.tab).refreshPromise = true ∧
      ∀ (j : ℕ) (g : Fetch), w.fetches[j]? = some g → g.Awaited → g.tab = f.tab → j = i

section Promise

variable {cfg : WebSettings} {w₀ w w' : Web} {i j : ℕ} {f g : Fetch} {answer : Answer}

theorem Web.Promised.send (h : w.Promised) (tab : TabId) {call : Call}
    (bearer : Option AccessToken) (hcall : call ≠ .refresh) : (w.send tab call bearer).Promised := by
  intro i f hf hawaited
  rcases getElem?_append_singleton_eq_some.mp hf with hf | ⟨-, rfl⟩
  · obtain ⟨hpromise, halone⟩ := h i f hf hawaited
    refine ⟨hpromise, fun j g hg hother htab => ?_⟩
    rcases getElem?_append_singleton_eq_some.mp hg with hg | ⟨-, rfl⟩
    · exact halone j g hg hother htab
    · exact absurd hother.1 hcall
  · exact absurd hawaited.1 hcall

/-- Who comes while the promise is there sends nothing. -/
theorem Web.Promised.refresh (h : w.Promised) (tab : TabId) : (w.refresh tab).Promised := by
  unfold Web.refresh
  split
  · exact h
  · next hnone =>
    have hidle : ∀ (i : ℕ) (f : Fetch), w.fetches[i]? = some f → f.Awaited → f.tab ≠ tab := by
      rintro i f hf hawaited rfl
      exact hnone (h i f hf hawaited).1
    intro i f hf hawaited
    dsimp only
    rcases getElem?_append_singleton_eq_some.mp hf with hf | ⟨rfl, rfl⟩
    · have hne := hidle i f hf hawaited
      obtain ⟨hpromise, halone⟩ := h i f hf hawaited
      rw [Function.update_of_ne hne]
      refine ⟨hpromise, fun j g hg hother htab => ?_⟩
      rcases getElem?_append_singleton_eq_some.mp hg with hg | ⟨-, rfl⟩
      · exact halone j g hg hother htab
      · exact absurd htab.symm hne
    · rw [Function.update_self]
      refine ⟨rfl, fun j g hg hother htab => ?_⟩
      rcases getElem?_append_singleton_eq_some.mp hg with hg | ⟨rfl, -⟩
      · exact absurd htab (hidle j g hg hother)
      · rfl

theorem Web.Promised.answered (h : w.Promised) (hf : w.fetches[i]? = some f) (s : AuthTables) :
    (w.answered i f s answer).Promised := by
  -- The answer changes neither what a request is for nor whether its tab waits.
  have old : ∀ {j : ℕ} {g : Fetch}, (w.answered i f s answer).fetches[j]? = some g → g.Awaited →
      ∃ g₀ : Fetch, w.fetches[j]? = some g₀ ∧ g₀.Awaited ∧ g₀.tab = g.tab := by
    intro j g hg hawaited
    change (w.fetches.set i _)[j]? = some g at hg
    rw [getElem?_set_of_some hf] at hg
    split at hg
    · next hij =>
      subst hij
      obtain rfl := Option.some.inj hg
      exact ⟨f, hf, hawaited, rfl⟩
    · exact ⟨g, hg, hawaited, rfl⟩
  intro j g hg hawaited
  obtain ⟨g₀, hg₀, hawaited₀, htab₀⟩ := old hg hawaited
  obtain ⟨hpromise, halone⟩ := h j g₀ hg₀ hawaited₀
  refine ⟨htab₀ ▸ hpromise, fun k g' hg' hother htab => ?_⟩
  obtain ⟨g₁, hg₁, hawaited₁, htab₁⟩ := old hg' hother
  exact halone k g₁ hg₁ hawaited₁ (by rw [htab₁, htab, htab₀])

/-- Only the answer to a refresh of `auth.ts` takes the promise away. -/
theorem refreshPromise_afterwards {call : Call} (hcall : call ≠ .refresh) (answer : Answer)
    (tab : Tab) : (call.afterwards answer tab).refreshPromise = tab.refreshPromise := by
  cases call with
  | refresh => exact absurd rfl hcall
  | login | logout | data | silentRefresh | retry => cases answer <;> rfl

theorem Web.Promised.close (h : w.Promised) (hf : w.fetches[i]? = some f)
    (hopen : f.settled = false) : (w.close i f answer).Promised := by
  have old : ∀ {j : ℕ} {g : Fetch}, (w.close i f answer).fetches[j]? = some g → g.Awaited →
      w.fetches[j]? = some g ∧ i ≠ j := by
    intro j g hg hawaited
    change (w.fetches.set i _)[j]? = some g at hg
    rw [getElem?_set_of_some hf] at hg
    split at hg
    · obtain rfl := Option.some.inj hg
      cases hawaited.2
    · next hij => exact ⟨hg, hij⟩
  intro j g hg hawaited
  obtain ⟨hg₀, hij⟩ := old hg hawaited
  obtain ⟨hpromise, halone⟩ := h j g hg₀ hawaited
  refine ⟨?_, fun k g' hg' hother htab => halone k g' (old hg' hother).1 hother htab⟩
  change (Function.update w.tabs f.tab _ g.tab).refreshPromise = true
  by_cases htab : g.tab = f.tab
  · have hcall : f.call ≠ .refresh := fun hcall => hij (halone i f hf ⟨hcall, hopen⟩ htab.symm)
    rw [htab, Function.update_self, refreshPromise_afterwards hcall, ← htab]
    exact hpromise
  · rw [Function.update_of_ne htab]
    exact hpromise

/-- What `apiFetch` sends next is no refresh of `auth.ts`. -/
theorem followUp_ne_refresh {call call' : Call} {bearer : Option AccessToken}
    (h : call.followUp answer = some (call', bearer)) : call' ≠ .refresh := by
  unfold Call.followUp at h
  split at h
  · cases h
    simp
  · cases h
    simp
  · cases h

theorem Web.Promised.settle (h : w.Promised) (hf : w.fetches[i]? = some f)
    (hopen : f.settled = false) : (w.settle i f answer).Promised := by
  unfold Web.settle
  split
  · exact h.close hf hopen
  · next call bearer hnext => exact (h.close hf hopen).send f.tab bearer (followUp_ne_refresh hnext)

theorem Web.Promised.exec (h : w.Promised) {e : WebEvent} (hdone : Web.exec cfg e w = .ok w') :
    w'.Promised := by
  -- a promise is made by `refresh` alone, and settled with its own fetch
  cases e with
  | login | logout | apiFetch =>
    cases hdone
    exact h.send _ _ (by simp)
  | refresh tab =>
    cases hdone
    exact h.refresh tab
  | serve | turnAway =>
    unfold Web.exec at hdone
    simp only [bind_eq_ok, Web.unanswered_eq_ok, pure_eq_ok] at hdone
    obtain ⟨f, ⟨hf, -⟩, rfl⟩ := hdone
    exact h.answered hf _
  | receive i =>
    unfold Web.exec at hdone
    simp only [bind_eq_ok, Web.unsettled_eq_ok, orRaise_eq_ok, pure_eq_ok] at hdone
    obtain ⟨f, ⟨hf, hopen⟩, answer, -, rfl⟩ := hdone
    exact h.settle hf hopen
  | lose i =>
    unfold Web.exec at hdone
    simp only [bind_eq_ok, Web.unsettled_eq_ok, pure_eq_ok] at hdone
    obtain ⟨f, ⟨hf, hopen⟩, rfl⟩ := hdone
    exact h.settle hf hopen
  | deactivate req =>
    unfold Web.exec at hdone
    dsimp only at hdone
    split at hdone
    · cases hdone
      exact h
    · cases hdone
  | reactivate target =>
    cases hdone
    exact h

/-- **`refresh` of `auth.ts` never overlaps itself in a tab**, whatever gets lost: the refreshes
that overlap are those of `apiFetch`, and those of other tabs. -/
theorem refreshes_promised (hstart : w₀.fetches = [])
    (h : Reaches (Web.exec cfg) (fun _ _ => True) w₀ w) (hf : w.fetches[i]? = some f)
    (hawaited : f.Awaited) (hg : w.fetches[j]? = some g) (hother : g.Awaited)
    (htab : g.tab = f.tab) : j = i := by
  have hpromised : w.Promised := by
    refine h.invariant (fun i f hf => ?_) fun _ _ _ hpromised _ hdone => hpromised.exec hdone
    rw [hstart] at hf
    cases hf
  exact (hpromised i f hf hawaited).2 j g hg hother htab

end Promise

/-! ### A laptop and a phone -/

/-- Access tokens are good for fifteen minutes, refresh tokens for fourteen days. -/
def webSettings : WebSettings where
  hashRefreshToken raw := raw
  refreshTokenExpire := 14 * 24 * 3600 * 1000000
  decodes token now := now < token.issuedAt + 15 * 60 * 1000000

/-- Twenty minutes after the start, when the first access tokens have expired. -/
def twentyMinutes : Instant := 20 * 60 * 1000000

def laptop : TabId := ⟨0, 0⟩

def phone : TabId := ⟨1, 0⟩

/-- A user with an account who is signed in nowhere. -/
def quietWeb : Web where
  tables :=
    { users := [{ username := "ana", verifyPassword := (· == "secret"), isActive := true
                  storeId := none, salesReturnApprove := false }] }

/-- Ana signs in on the laptop and on the phone. -/
def signingIn : List WebEvent :=
  [.login laptop "ana" "secret", .serve 0 "laptop-1" 0, .receive 0,
    .login phone "ana" "secret", .serve 1 "phone-1" 0, .receive 1]

/-- A page of the laptop finds its access token expired. -/
def oneStale : List WebEvent :=
  [.apiFetch laptop, .serve 2 "" twentyMinutes, .receive 2, .serve 3 "laptop-2" twentyMinutes,
    .receive 3, .serve 4 "" twentyMinutes, .receive 4]

/-- Two requests of the page find it expired at the same time, and each of them refreshes. -/
def twoStale : List WebEvent :=
  [.apiFetch laptop, .apiFetch laptop, .serve 2 "" twentyMinutes, .serve 3 "" twentyMinutes,
    .receive 2, .receive 3, .serve 4 "laptop-2" twentyMinutes, .serve 5 "laptop-3" twentyMinutes,
    .receive 4, .receive 5, .refresh phone]

def renewedWeb : Web :=
  value ((signingIn ++ oneStale).foldlM
    (guarded (Web.exec webSettings) (Web.Orderly 0) .settled) quietWeb) (by decide +kernel)

def lostWeb : Web :=
  value ((signingIn ++ twoStale).foldlM (fun w e => Web.exec webSettings e w) quietWeb)
    (by decide +kernel)

theorem quietWeb_fresh : quietWeb.Fresh 0 where
  cookies _ := rfl
  fetches := rfl
  serves := ⟨List.nodup_nil, _, rfl, rfl⟩

/-- The laptop has the second token by now, which gets it the third. -/
theorem session_goes_on_laptop : renewedWeb.held 0 = some "laptop-2" ∧
    ∃ s', refreshAccessToken webSettings.toAuthSettings renewedWeb.tables
      ⟨"laptop-2", "laptop-3", 2 * twentyMinutes⟩ = .ok (s', some 0) := by
  have hheld : renewedWeb.held 0 = some "laptop-2" := by decide +kernel
  have hfound : renewedWeb.tables.tokenWithHash "laptop-2"
      = [(2, webSettings.newToken 0 "laptop-2" twentyMinutes)] := by decide +kernel
  have hfresh : "laptop-3" ∉ renewedWeb.tables.hashes := by
    rw [AuthTables.hashes_eq]
    decide +kernel
  have hsession := session_goes_on quietWeb_fresh (reaches_of_guarded (eq_ok_value _ _)) hheld
    hfound rfl
  exact ⟨hheld, hsession.2.2 "laptop-3" (2 * twentyMinutes) (by decide +kernel) hfresh⟩

/-- **A run in which two refreshes overlap**: those of one page of the laptop go out with the same
cookie.  The second one is taken for stolen, the user has no active token left, the page is signed
out, and the phone, which has done nothing, is refused. -/
theorem overlapping_refreshes : lostWeb.tables.activeTokens 0 = [] ∧
    (lostWeb.tabs laptop).accessToken = none ∧
    lostWeb.fetches[7]?.map (fun f => (f.tab, (respond webSettings lostWeb.tables f "phone-2"
      twentyMinutes).2)) = some (phone, .unauthorized) := by
  decide +kernel

end GroceryErp
