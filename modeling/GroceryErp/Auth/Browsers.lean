import GroceryErp.Auth.Tokens
import Mathlib.Logic.Function.Basic

/-!
# Browsers

A browser keeps the refresh token of its session in a cookie, which goes with every request to
the endpoints of `/api/v1/auth` and which their answers replace.  The tabs of a browser share
the cookie; each keeps an access token of its own, and the promise of the refresh that it waits
for.  Requests and answers take their time, and may get lost.

`apiFetch` answers a 401 by a refresh of its own, behind the back of the promise, and then
sends its request once more.

## Main definitions

* `Tab`, `Fetch`, `Web` — the tabs, what they have sent, and the whole system.
* `logout`, `respond` — what the endpoints do.
* `Web.settle` — how a tab goes on when an answer is there.
* `WebEvent`, `Web.exec` — one event.

## Main results

* `respond_data`, `respond_login`, `respond_refresh`, `respond_logout` — what an answer goes with.

## References

`frontend/src/api/client.ts`, `apiFetch`, `refreshAccessToken`; `frontend/src/api/auth.ts`;
`frontend/src/auth/AuthContext.tsx`; `backend/app/api/v1/endpoints/auth.py`, `login`, `refresh`,
`logout`; `backend/app/modules/auth/service.py`, `logout`, `get_current_user`,
`reactivate_user`.
-/

namespace GroceryErp

open Outcome Rows

/-! ### The tabs -/

/-- A tab of a browser.  The tabs of one browser share its cookie, and each has an access token of
its own. -/
structure TabId where
  browser : ℕ
  number : ℕ
  deriving DecidableEq

/-- An access token, signed for a user at some time. -/
structure AccessToken where
  userId : ℕ
  issuedAt : Instant
  deriving DecidableEq

/-- The module variables of a page: `accessToken`, and whether `refreshPromise` is there. -/
structure Tab where
  accessToken : Option AccessToken := none
  refreshPromise : Bool := false

/-- What a request is for.  Three of the endpoints go with the cookie, and the others with the
access token. -/
inductive Call
  | login (username password : String)
  /-- `refresh` of `auth.ts`, which keeps the promise. -/
  | refresh
  | logout
  /-- `apiFetch` of an endpoint that is not under `/api/v1/auth`. -/
  | data
  /-- `refreshAccessToken` of `client.ts`, after a 401. -/
  | silentRefresh
  /-- The request of `apiFetch` once more. -/
  | retry
  deriving DecidableEq

/-- The endpoint is under `/api/v1/auth`, where the cookie goes. -/
def Call.ToAuth : Call → Prop
  | login _ _ | refresh | logout | silentRefresh => True
  | data | retry => False

instance : DecidablePred Call.ToAuth
  | .login _ _ | .refresh | .logout | .silentRefresh => isTrue trivial
  | .data | .retry => isFalse id

/-- What comes back from an endpoint, as far as the browser tells answers apart. -/
inductive Answer
  /-- 200 of a login or a refresh: the access token, and the refresh token in a cookie. -/
  | tokens (accessToken : AccessToken) (rawRefresh : String)
  /-- 204 of a logout, which deletes the cookie. -/
  | signedOut
  /-- Any status but 401, from an endpoint that sets no cookie. -/
  | status
  | unauthorized
  /-- Another failure of an endpoint of `/api/v1/auth`, or none but an error of the network. -/
  | failed
  deriving DecidableEq

/-- What an answer makes of the cookie. -/
def Answer.setCookie (cookie : Option String) : Answer → Option String
  | tokens _ rawRefresh => some rawRefresh
  | signedOut => none
  | status | unauthorized | failed => cookie

/-- A request that was sent.  It is settled once its tab has gone on. -/
structure Fetch where
  tab : TabId
  call : Call
  cookie : Option String
  bearer : Option AccessToken
  answer : Option Answer := none
  settled : Bool := false
  deriving DecidableEq

/-- The server, the cookies of the browsers, the tabs, and what was sent. -/
structure Web where
  tables : AuthTables
  cookies : ℕ → Option String := fun _ => none
  tabs : TabId → Tab := fun _ => {}
  fetches : List Fetch := []

/-! ### The endpoints -/

/-- `decodes` tells whether `decode_access_token` takes a token. -/
structure WebSettings extends AuthSettings where
  decodes : AccessToken → Instant → Bool

/-- `logout` of the service: the token that comes with the request is revoked, if it is known and
still good. -/
def logout (cfg : AuthSettings) (s : AuthTables) (rawRefreshToken : String) (now : Instant) :
    Result AuthTables := do
  let row ← scalarOneOrNone (s.tokenWithHash (cfg.hashRefreshToken rawRefreshToken))
  match row with
  | some (tokenId, row) =>
    if row.revokedAt = none then return s.revokeTokens [tokenId] now else return s
  | none => return s

/-- What `reactivate_user` writes: the user is active, and tokens stay as they were. -/
def AuthTables.setActive (s : AuthTables) (userId : ℕ) : AuthTables :=
  { s with users := s.users.modify userId fun user => { user with isActive := true } }

section Endpoints

variable (cfg : WebSettings) (s : AuthTables)

/-- Whether `get_current_user` takes the bearer: the token decodes, and its user is still active. -/
def authorized (bearer : Option AccessToken) (now : Instant) : Bool :=
  match bearer with
  | none => false
  | some token => cfg.decodes token now && s.users[token.userId]?.any (·.isActive)

/-- The answer to a request that fails, of which a page sees little more than the status. -/
def AppError.answer : AppError → Answer
  | .unauthorized _ => .unauthorized
  | _ => .failed

/-- The endpoint `login`: the service's answer with both tokens, or its error. -/
def respondLogin (req : Login) : AuthTables × Answer :=
  match authenticateUser s req.username req.password, login cfg.toAuthSettings s req with
  | .ok userId, .ok s' => (s', .tokens ⟨userId, req.now⟩ req.rawRefresh)
  | .error e, _ | _, .error e => (s, e.answer)

/-- The endpoint `refresh`.  A token that is taken for stolen is answered after the commit. -/
def respondRefresh (cookie : Option String) (rawNew : String) (now : Instant) :
    AuthTables × Answer :=
  match cookie with
  | none => (s, .unauthorized)
  | some raw =>
    match refreshAccessToken cfg.toAuthSettings s ⟨raw, rawNew, now⟩ with
    | .ok (s', some userId) => (s', .tokens ⟨userId, now⟩ rawNew)
    | .ok (s', none) => (s', .unauthorized)
    | .error e => (s, e.answer)

/-- The endpoint `logout`, which succeeds with or without a cookie. -/
def respondLogout (cookie : Option String) (now : Instant) : AuthTables × Answer :=
  match cookie with
  | none => (s, .signedOut)
  | some raw =>
    match logout cfg.toAuthSettings s raw now with
    | .ok s' => (s', .signedOut)
    | .error e => (s, e.answer)

/-- The server answers; `rawNew` is the refresh token that is generated. -/
def respond (f : Fetch) (rawNew : String) (now : Instant) : AuthTables × Answer :=
  match f.call with
  | .login username password => respondLogin cfg s ⟨username, password, rawNew, now⟩
  | .refresh | .silentRefresh => respondRefresh cfg s f.cookie rawNew now
  | .logout => respondLogout cfg s f.cookie now
  | .data | .retry => (s, if authorized cfg s f.bearer now then .status else .unauthorized)

end Endpoints

/-! ### The pages -/

/-- What the variables of a page are when an answer is there. -/
def Call.afterwards (call : Call) (answer : Answer) (tab : Tab) : Tab :=
  match call, answer with
  | login _ _, .tokens accessToken _ => { tab with accessToken := some accessToken }
  | refresh, .tokens accessToken _ => { accessToken := some accessToken, refreshPromise := false }
  -- `finally` clears the promise, whatever has come.
  | refresh, _ => { tab with refreshPromise := false }
  -- `clearSession`, whatever has come.
  | logout, _ => { tab with accessToken := none }
  | silentRefresh, .tokens accessToken _ => { tab with accessToken := some accessToken }
  | silentRefresh, _ => { tab with accessToken := none }
  | login _ _, _ | data, _ | retry, _ => tab

/-- What `apiFetch` sends next: after a 401 one silent refresh, and after that the request once
more. -/
def Call.followUp (call : Call) (answer : Answer) : Option (Call × Option AccessToken) :=
  match call, answer with
  | data, .unauthorized => some (silentRefresh, none)
  | silentRefresh, .tokens accessToken _ => some (retry, some accessToken)
  | _, _ => none

namespace Web

variable (w : Web)

/-- A tab sends a request, with the cookie as it is now. -/
def send (tab : TabId) (call : Call) (bearer : Option AccessToken) : Web :=
  { w with
    fetches := w.fetches ++
      [{ tab, call, cookie := if call.ToAuth then w.cookies tab.browser else none, bearer }] }

/-- `refresh` of `auth.ts`: who comes while the promise is there gets the promise. -/
def refresh (tab : TabId) : Web :=
  if (w.tabs tab).refreshPromise then w else
    { w.send tab .refresh (w.tabs tab).accessToken with
      tabs := Function.update w.tabs tab { w.tabs tab with refreshPromise := true } }

/-- The server has answered; the browser has not yet seen the answer. -/
def answered (i : ℕ) (f : Fetch) (s : AuthTables) (answer : Answer) : Web :=
  { w with tables := s, fetches := w.fetches.set i { f with answer := some answer } }

/-- The browser takes the cookie of an answer, and the page takes the rest. -/
def close (i : ℕ) (f : Fetch) (answer : Answer) : Web :=
  { w with
    cookies := Function.update w.cookies f.tab.browser
      (answer.setCookie (w.cookies f.tab.browser))
    tabs := Function.update w.tabs f.tab (f.call.afterwards answer (w.tabs f.tab))
    fetches := w.fetches.set i { f with settled := true } }

/-- The page goes on with an answer: it sends what follows on it, or is done. -/
def settle (i : ℕ) (f : Fetch) (answer : Answer) : Web :=
  match f.call.followUp answer with
  | none => w.close i f answer
  | some (call, bearer) => (w.close i f answer).send f.tab call bearer

end Web

inductive WebEvent
  | login (tab : TabId) (username password : String)
  | refresh (tab : TabId)
  | logout (tab : TabId)
  | apiFetch (tab : TabId)
  /-- A request arrives at the server. -/
  | serve (fetch : ℕ) (rawNew : String) (now : Instant)
  /-- A request gets lost on its way, or is refused by the limiter of its endpoint. -/
  | turnAway (fetch : ℕ)
  /-- An answer arrives at its tab. -/
  | receive (fetch : ℕ)
  /-- The connection breaks, wherever the request has got to by then. -/
  | lose (fetch : ℕ)
  | deactivate (req : DeactivateUser)
  | reactivate (userId : ℕ)

/-- Why an event cannot happen now. -/
inductive WebRefused
  | notSent
  | answered
  | notAnswered
  | settled
  | auth (e : AppError)

/-- A request that has been sent and that the server is still to answer. -/
def Web.unanswered (w : Web) (i : ℕ) : Except WebRefused Fetch := do
  let f ← orRaise w.fetches[i]? .notSent
  raiseIf (f.answer ≠ none) .answered
  return f

/-- A request whose tab still waits for it, whether it has been answered or not. -/
def Web.unsettled (w : Web) (i : ℕ) : Except WebRefused Fetch := do
  let f ← orRaise w.fetches[i]? .notSent
  raiseIf f.settled .settled
  return f

/-- One event of a tab, of the server, or of the network between them. -/
def Web.exec (cfg : WebSettings) : WebEvent → Web → Except WebRefused Web
  | .login tab username password, w =>
    return w.send tab (.login username password) (w.tabs tab).accessToken
  | .refresh tab, w => return w.refresh tab
  | .logout tab, w => return w.send tab .logout (w.tabs tab).accessToken
  | .apiFetch tab, w => return w.send tab .data (w.tabs tab).accessToken
  | .serve i rawNew now, w => do
    let f ← w.unanswered i
    let (s, answer) := respond cfg w.tables f rawNew now
    return w.answered i f s answer
  | .turnAway i, w => do
    let f ← w.unanswered i
    return w.answered i f w.tables .failed
  | .receive i, w => do
    let f ← w.unsettled i
    let answer ← orRaise f.answer .notAnswered
    return w.settle i f answer
  | .lose i, w => do
    let f ← w.unsettled i
    return w.settle i f .failed
  | .deactivate req, w =>
    match deactivateUser w.tables req with
    | .ok s => return { w with tables := s }
    | .error e => .error (.auth e)
  | .reactivate userId, w => return { w with tables := w.tables.setActive userId }

end GroceryErp
