import GroceryErp.Auth.Browsers

/-!
# The cookies of browsers

What the cookie of a browser will be once what it waits for has arrived.  A browser that waits for
one answer at most, before it sends the next request with its cookie, gets every answer while its
cookie is still the one that the request went with.

## Main definitions

* `Web.held` — the cookie of a browser, once what it waits for has arrived.
* `Web.Orderly` — the browser waits, its answers arrive, and the user is not deactivated.
* `Web.Attended` — what orderly browsers keep to.

## Main results

* `held_send`, `Attended.held_close` — sending and taking an answer are no news to the cookies.
* `Attended.held_answered` — what the server answers is.

## References

`frontend/src/api/client.ts`, `apiFetch`, `refreshAccessToken`; `frontend/src/api/auth.ts`.
-/

namespace GroceryErp

open Rows

/-! ### The cookies -/

/-- A row that is not looked for may be written over by another such. -/
theorem find?_set_of_not {α : Type*} {p : α → Bool} {l : List α} {i : ℕ} {a b : α}
    (ha : l[i]? = some a) (hpa : p a = false) (hpb : p b = false) :
    (l.set i b).find? p = l.find? p := by
  induction l generalizing i with
  | nil => rfl
  | cons c l ih =>
    cases i with
    | zero =>
      obtain rfl := Option.some.inj ha
      simp [hpa, hpb]
    | succ i =>
      rw [List.set_cons_succ, List.find?_cons, List.find?_cons, ih ha]

/-- The tab waits for an endpoint that may set the cookie. -/
def Fetch.Pending (f : Fetch) : Prop := f.call.ToAuth ∧ f.settled = false

instance : DecidablePred Fetch.Pending := fun _ => inferInstanceAs (Decidable (_ ∧ _))

/-- The cookie that a browser will have once the answer to a request has arrived. -/
def Fetch.leaves (f : Fetch) (cookie : Option String) : Option String :=
  match f.answer with
  | some answer => answer.setCookie cookie
  | none => cookie

/-- The user that an event deactivates, if it is such an event. -/
def WebEvent.deactivates : WebEvent → Option ℕ
  | deactivate req => some req.targetUserId
  | _ => none

namespace Web

/-- The cookie of a browser, once what it waits for has arrived. -/
def held (w : Web) (browser : ℕ) : Option String :=
  match w.fetches.find? fun f => f.Pending ∧ f.tab.browser = browser with
  | some f => f.leaves (w.cookies browser)
  | none => w.cookies browser

/-- The browser waits for nothing that may set its cookie. -/
def Idle (w : Web) (browser : ℕ) : Prop := ∀ f ∈ w.fetches, f.Pending → f.tab.browser ≠ browser

instance (w : Web) (browser : ℕ) : Decidable (w.Idle browser) :=
  inferInstanceAs (Decidable (∀ _ ∈ _, _ → _))

/-- The tab that an event makes send something with the cookie. -/
def opens (w : Web) : WebEvent → Option TabId
  | .login tab _ _ | .logout tab => some tab
  | .refresh tab => if (w.tabs tab).refreshPromise then none else some tab
  | .receive i => w.fetches[i]?.bind fun f =>
    if f.call = .data ∧ f.answer = some .unauthorized then some f.tab else none
  | _ => none

/-- The request whose answer an event loses on its way back to the tab. -/
def loses (w : Web) : WebEvent → Option Fetch
  | .lose i => w.fetches[i]?
  | _ => none

/-- The browser is idle when it sends something with its cookie, what it has sent so is heard of,
and the user is not deactivated. -/
def Orderly (userId : ℕ) (w : Web) (e : WebEvent) : Prop :=
  (∀ tab ∈ w.opens e, w.Idle tab.browser) ∧ (∀ f ∈ w.loses e, ¬f.call.ToAuth) ∧
    ∀ target ∈ e.deactivates, target ≠ userId

instance (userId : ℕ) (w : Web) (e : WebEvent) : Decidable (w.Orderly userId e) :=
  inferInstanceAs (Decidable ((∀ _ ∈ _, _) ∧ (∀ _ ∈ _, _) ∧ ∀ _ ∈ _, _))

section Held

variable {w : Web} {browser i : ℕ} {f g : Fetch}

theorem held_of_idle (h : w.Idle browser) : w.held browser = w.cookies browser := by
  have hnone : w.fetches.find? (fun f => f.Pending ∧ f.tab.browser = browser) = none := by
    rw [List.find?_eq_none]
    intro f hf hfound
    obtain ⟨hpending, hbrowser⟩ := of_decide_eq_true hfound
    exact h f hf hpending hbrowser
  unfold held
  rw [hnone]

/-- A browser is idle, or waits for one of its requests. -/
theorem held_cases (w : Web) (browser : ℕ) : w.Idle browser ∨
    ∃ (i : ℕ) (f : Fetch), w.fetches[i]? = some f ∧ f.Pending ∧ f.tab.browser = browser ∧
      w.held browser = f.leaves (w.cookies browser) := by
  cases hfound : w.fetches.find? fun f => f.Pending ∧ f.tab.browser = browser with
  | none =>
    left
    intro f hf hpending hbrowser
    exact List.find?_eq_none.mp hfound f hf (decide_eq_true ⟨hpending, hbrowser⟩)
  | some f =>
    right
    have hwaits := List.find?_some hfound
    obtain ⟨hpending, hbrowser⟩ := of_decide_eq_true hwaits
    obtain ⟨i, hi⟩ := List.getElem?_of_mem (List.mem_of_find?_eq_some hfound)
    refine ⟨i, f, hi, hpending, hbrowser, ?_⟩
    unfold held
    rw [hfound]

end Held

/-- What the browsers keep to, and what the server answers. -/
structure Attended (w : Web) : Prop where
  single : ∀ (i j : ℕ) (f g : Fetch), w.fetches[i]? = some f → w.fetches[j]? = some g → f.Pending → g.Pending →
    f.tab.browser = g.tab.browser → i = j
  plain : ∀ f ∈ w.fetches, ¬f.call.ToAuth → ∀ answer ∈ f.answer, ∀ c, answer.setCookie c = c
  heard : ∀ f ∈ w.fetches, f.call.ToAuth → f.settled → f.answer ≠ none
  carries : ∀ f ∈ w.fetches, f.Pending → f.answer = none → f.cookie = w.cookies f.tab.browser

section Attended

variable {w : Web} {browser i : ℕ} {f : Fetch}

/-- What a browser that is not idle waits for. -/
theorem Attended.held_eq (h : w.Attended) (hf : w.fetches[i]? = some f) (hpending : f.Pending) :
    w.held f.tab.browser = f.leaves (w.cookies f.tab.browser) := by
  rcases w.held_cases f.tab.browser with hidle | ⟨j, g, hg, hother, hbrowser, heq⟩
  · exact absurd rfl (hidle f (mem_of_row hf) hpending)
  · obtain rfl : j = i := h.single j i g f hg hf hother hpending hbrowser
    obtain rfl : g = f := Option.some.inj (hg.symm.trans hf)
    exact heq

end Attended

/-! ### Sending -/

section Send

variable {w : Web} {tab : TabId} {call : Call} {bearer : Option AccessToken}

theorem held_send : (w.send tab call bearer).held = w.held := by
  funext browser
  unfold held send
  dsimp only
  rw [List.find?_append]
  cases hfound : w.fetches.find? fun f => f.Pending ∧ f.tab.browser = browser with
  | some f => rfl
  | none =>
    rw [Option.none_or]
    split
    · next hsent =>
      -- What was sent just now has no answer.
      obtain rfl := List.mem_singleton.mp (List.mem_of_find?_eq_some hsent)
      rfl
    · rfl

theorem Attended.send (h : w.Attended) (hidle : call.ToAuth → w.Idle tab.browser) :
    (w.send tab call bearer).Attended where
  -- two requests to `auth` that wait: neither is the new one, as its browser was idle
  single i j f g hf hg hpf hpg hbrowser := by
    rcases getElem?_append_singleton_eq_some.mp hf with hf | ⟨rfl, rfl⟩
    · rcases getElem?_append_singleton_eq_some.mp hg with hg | ⟨rfl, rfl⟩
      · exact h.single i j f g hf hg hpf hpg hbrowser
      · exact absurd hbrowser (hidle hpg.1 f (mem_of_row hf) hpf)
    · rcases getElem?_append_singleton_eq_some.mp hg with hg | ⟨rfl, rfl⟩
      · exact absurd hbrowser.symm (hidle hpf.1 g (mem_of_row hg) hpg)
      · rfl
  plain f hf hcall answer hanswer := by
    rcases List.mem_append.mp hf with hf | hf
    · exact h.plain f hf hcall answer hanswer
    · rw [List.mem_singleton.mp hf] at hanswer
      cases hanswer
  heard f hf hcall hsettled := by
    rcases List.mem_append.mp hf with hf | hf
    · exact h.heard f hf hcall hsettled
    · rw [List.mem_singleton.mp hf] at hsettled
      cases hsettled
  -- the new request carries the cookie of this moment
  carries f hf hpending hanswer := by
    rcases List.mem_append.mp hf with hf | hf
    · exact h.carries f hf hpending hanswer
    · obtain rfl := List.mem_singleton.mp hf
      exact if_pos hpending.1

end Send

/-! ### Answering -/

section Answer

variable {w : Web} {i : ℕ} {f : Fetch} {s : AuthTables} {answer : Answer}

/-- A request that is not answered yet is waited for. -/
theorem Attended.pending (h : w.Attended) (hf : w.fetches[i]? = some f) (hnone : f.answer = none)
    (hcall : f.call.ToAuth) : f.Pending := by
  refine ⟨hcall, ?_⟩
  by_contra hsettled
  exact h.heard f (mem_of_row hf) hcall (by simpa using hsettled) hnone

theorem Attended.answered (h : w.Attended) (hf : w.fetches[i]? = some f)
    (hplain : ¬f.call.ToAuth → ∀ c, answer.setCookie c = c) :
    (w.answered i f s answer).Attended where
  single j k g g' hg hg' hpg hpg' hbrowser := by
    -- The answer changes neither what is waited for nor by whom.
    have old : ∀ {j : ℕ} {g : Fetch}, (w.fetches.set i { f with answer := some answer })[j]? = some g →
        g.Pending → ∃ g₀, w.fetches[j]? = some g₀ ∧ g₀.Pending ∧ g₀.tab = g.tab := by
      intro j g hg hpg
      rw [getElem?_set_of_some hf] at hg
      split at hg
      · next hij =>
        subst hij
        obtain rfl := Option.some.inj hg
        exact ⟨f, hf, hpg, rfl⟩
      · exact ⟨g, hg, hpg, rfl⟩
    obtain ⟨g₀, hg₀, hp₀, htab₀⟩ := old hg hpg
    obtain ⟨g₁, hg₁, hp₁, htab₁⟩ := old hg' hpg'
    exact h.single j k g₀ g₁ hg₀ hg₁ hp₀ hp₁ (by rw [htab₀, htab₁, hbrowser])
  plain g hg hcall answer' hanswer' := by
    rcases List.mem_or_eq_of_mem_set hg with hg | rfl
    · exact h.plain g hg hcall answer' hanswer'
    · cases hanswer'
      exact hplain hcall
  heard g hg hcall hsettled := by
    rcases List.mem_or_eq_of_mem_set hg with hg | rfl
    · exact h.heard g hg hcall hsettled
    · simp
  carries g hg hpending hnone := by
    rcases List.mem_or_eq_of_mem_set hg with hg | rfl
    · exact h.carries g hg hpending hnone
    · cases hnone

/-- The answer to a request that goes with the cookie is what its browser will have. -/
theorem Attended.held_answered (h : w.Attended) (hf : w.fetches[i]? = some f)
    (hpending : f.Pending) (s : AuthTables) (answer : Answer) :
    (w.answered i f s answer).held = Function.update w.held f.tab.browser
      (answer.setCookie (w.cookies f.tab.browser)) := by
  have h' : (w.answered i f s answer).Attended := h.answered hf fun hcall => absurd hpending.1 hcall
  have hf' : (w.answered i f s answer).fetches[i]? = some { f with answer := some answer } := by
    change (w.fetches.set i _)[i]? = _
    rw [getElem?_set_of_some hf, if_pos rfl]
  funext browser
  by_cases hbrowser : browser = f.tab.browser
  · subst hbrowser
    rw [Function.update_self]
    exact h'.held_eq hf' hpending
  · rw [Function.update_of_ne hbrowser]
    unfold held Web.answered
    dsimp only
    rw [find?_set_of_not hf (by simp [Ne.symm hbrowser]) (by simp [Ne.symm hbrowser])]

theorem held_answered_of_plain (hf : w.fetches[i]? = some f) (hcall : ¬f.call.ToAuth) :
    (w.answered i f s answer).held = w.held := by
  funext browser
  unfold held Web.answered
  dsimp only
  rw [find?_set_of_not hf (by simp [Fetch.Pending, hcall]) (by simp [Fetch.Pending, hcall])]

end Answer

/-! ### Going on -/

section Close

variable {w : Web} {i : ℕ} {f : Fetch} {answer : Answer}

/-- Where the answer sets no cookie, none is set. -/
theorem cookies_close_of_plain (hplain : ∀ c, answer.setCookie c = c) :
    (w.close i f answer).cookies = w.cookies := by
  unfold close
  dsimp only
  rw [hplain, Function.update_eq_self]

/-- Who is still waited for was waited for before, in another place. -/
theorem pending_of_close (hf : w.fetches[i]? = some f) {j : ℕ} {g : Fetch}
    (hg : (w.close i f answer).fetches[j]? = some g) (hpending : g.Pending) :
    w.fetches[j]? = some g ∧ i ≠ j := by
  change (w.fetches.set i _)[j]? = some g at hg
  rw [getElem?_set_of_some hf] at hg
  split at hg
  · obtain rfl := Option.some.inj hg
    cases hpending.2
  · next hij => exact ⟨hg, hij⟩

/-- What a browser has got is what it waited for, and it waits no more. -/
theorem Attended.idle_close (h : w.Attended) (hf : w.fetches[i]? = some f) (hpending : f.Pending) :
    (w.close i f answer).Idle f.tab.browser := by
  intro g hg hother hbrowser
  obtain ⟨j, hj⟩ := List.getElem?_of_mem hg
  obtain ⟨hold, hij⟩ := pending_of_close hf hj hother
  exact hij (h.single i j f g hf hold hpending hother hbrowser.symm)

theorem Attended.close (h : w.Attended) (hf : w.fetches[i]? = some f)
    (hanswer : f.Pending → f.answer = some answer)
    (hopen : f.settled = false) (hplain : ¬f.call.ToAuth → ∀ c, answer.setCookie c = c) :
    (w.close i f answer).Attended where
  single j k g g' hg hg' hpg hpg' hbrowser :=
    h.single j k g g' (pending_of_close hf hg hpg).1 (pending_of_close hf hg' hpg').1 hpg hpg' hbrowser
  plain g hg hcall answer' hanswer' := by
    rcases List.mem_or_eq_of_mem_set hg with hg | rfl
    · exact h.plain g hg hcall answer' hanswer'
    · exact h.plain f (mem_of_row hf) hcall answer' hanswer'
  heard g hg hcall hsettled := by
    rcases List.mem_or_eq_of_mem_set hg with hg | rfl
    · exact h.heard g hg hcall hsettled
    · rw [hanswer ⟨hcall, hopen⟩]
      simp
  carries g hg hpending hnone := by
    obtain ⟨j, hj⟩ := List.getElem?_of_mem hg
    obtain ⟨hold, hij⟩ := pending_of_close hf hj hpending
    rw [h.carries g (mem_of_row hold) hpending hnone]
    by_cases hcall : f.call.ToAuth
    · have hne : g.tab.browser ≠ f.tab.browser := fun hsame =>
        hij (h.single i j f g hf hold ⟨hcall, hopen⟩ hpending hsame.symm)
      exact (Function.update_of_ne hne _ _).symm
    · rw [cookies_close_of_plain (hplain hcall)]

/-- Taking an answer is no news to the cookies. -/
theorem Attended.held_close (h : w.Attended) (hf : w.fetches[i]? = some f)
    (hanswer : f.Pending → f.answer = some answer) (hopen : f.settled = false)
    (hplain : ¬f.call.ToAuth → ∀ c, answer.setCookie c = c) :
    (w.close i f answer).held = w.held := by
  funext browser
  by_cases hcall : f.call.ToAuth
  · have hpending : f.Pending := ⟨hcall, hopen⟩
    by_cases hbrowser : browser = f.tab.browser
    · subst hbrowser
      rw [held_of_idle (h.idle_close hf hpending), h.held_eq hf hpending, Fetch.leaves,
        hanswer hpending]
      exact Function.update_self ..
    · unfold held Web.close
      dsimp only
      rw [Function.update_of_ne hbrowser, find?_set_of_not hf (by simp [Ne.symm hbrowser])
        (by simp [Ne.symm hbrowser])]
  · unfold held
    rw [cookies_close_of_plain (hplain hcall)]
    unfold Web.close
    dsimp only
    rw [find?_set_of_not hf (by simp [Fetch.Pending, hcall]) (by simp [Fetch.Pending, hcall])]

end Close

end Web

end GroceryErp
