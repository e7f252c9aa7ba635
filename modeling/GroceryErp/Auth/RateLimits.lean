import GroceryErp.Lib.Windows
import GroceryErp.Auth.Tokens

/-!
# Login attempts are throttled

A login first passes a limiter, which counts the attempts of an address in windows, and only
then checks the password.  A login that succeeds resets the count of its address.  Threads
serve many attempts at once: each reads the clock, waits for the lock of the limiter, is counted
or refused by what it has read, checks the password, and takes the lock again after a login.
Between any two of these others come, so that attempts are counted in another order than that of
their readings.

## Main definitions

* `FixedWindowRateLimiter`, `check`, `reset` — the limiter.
* `LoginServer`, `LoginServer.exec` — the endpoint, with its threads.
* `Waits` — how long threads wait for the lock.
* `LoginTrace` — what a run has made of the attempts of one address.

## Main results

* `LoginTrace.of_reaches` — to the limiter a run is uses and resets of a window.
* `logins_throttled` — **so many windows let through ten attempts each, ten more, and ten for
  every login, when the waiting times are taken off; and an attempt is refused only when ten were
  let through since five minutes before its reading.**
* `attempts_at_the_edge` — two milliseconds of waiting let 29 attempts through in five minutes.

## References

`backend/app/core/rate_limit.py`; `backend/app/api/v1/endpoints/auth.py`, `login`.
-/

namespace GroceryErp

open Outcome Runs Windows

/-! ### The limiter -/

/-- The windows of the addresses; the lengths are in microseconds. -/
structure FixedWindowRateLimiter where
  limit : ℕ
  windowLength : ℤ
  windows : String → Option (Window Instant) := fun _ => none

namespace FixedWindowRateLimiter

variable (limiter : FixedWindowRateLimiter)

/-- The limiter with another window for one key, or with none for it. -/
def put (key : String) (window : Option (Window Instant)) : FixedWindowRateLimiter :=
  { limiter with windows := Function.update limiter.windows key window }

/-- `check` under the lock, by the `now` that was read before; none where it raises
`RateLimitedError`. -/
def check (key : String) (now : Instant) : Option FixedWindowRateLimiter :=
  match limiter.windows key with
  | none => some (limiter.put key (some ⟨now, 1⟩))
  | some window =>
    if limiter.windowLength ≤ now - window.startedAt then
      some (limiter.put key (some ⟨now, 1⟩))
    else if limiter.limit ≤ window.count then none
    else some (limiter.put key (some { window with count := window.count + 1 }))

/-- `reset`: the key is forgotten, and its next attempt starts a window. -/
def reset (key : String) : FixedWindowRateLimiter := limiter.put key none

/-- A check uses the window of its key. -/
theorem check_eq (key : String) (now : Instant) : limiter.check key now
    = (Window.use limiter.limit limiter.windowLength now (limiter.windows key)).map
        fun window => limiter.put key (some window) := by
  unfold check Window.use
  cases limiter.windows key with
  | none => rfl
  | some window =>
    dsimp only
    split
    · rfl
    · split <;> rfl

end FixedWindowRateLimiter

/-- `login_rate_limiter`: ten attempts of an address in five minutes. -/
def loginRateLimiter : FixedWindowRateLimiter where
  limit := 10
  windowLength := 300 * 1000000

/-! ### The endpoint -/

/-- Where a thread is that serves an attempt: it waits for the lock, checks a password, or is about
to reset. -/
inductive LoginThread
  /-- It has read the clock, and waits for the lock of the limiter. -/
  | waiting (clientIp : String) (readAt : Instant) (req : Login)
  /-- It was let through, and has yet to check the password. -/
  | letThrough (clientIp : String) (req : Login)
  /-- It has logged in, and has yet to reset the count. -/
  | loggedIn (clientIp : String)

/-- What the thread has read of the clock, while it waits for the lock. -/
def LoginThread.readAt : LoginThread → Option Instant
  | .waiting _ readAt _ => some readAt
  | .letThrough _ _ | .loggedIn _ => none

/-- The endpoint: the limiter, the tables and the threads.  `clock` is the time of the latest
event; `passed` and `logins` record when attempts were let through, and the addresses whose count
a login has reset. -/
structure LoginServer where
  limiter : FixedWindowRateLimiter
  tables : AuthTables
  clock : Instant := 0
  threads : ℕ → Option LoginThread := fun _ => none
  passed : List (String × Instant) := []
  logins : List String := []

inductive LoginAction
  /-- An attempt comes from an address; its thread reads the clock. -/
  | arrive (clientIp : String) (req : Login)
  /-- The thread takes the lock and is counted, or refused. -/
  | check
  /-- The thread checks the password. -/
  | login
  /-- The thread takes the lock and resets the count. -/
  | reset

/-- A thread does something at a time. -/
structure LoginEvent where
  now : Instant
  thread : ℕ
  action : LoginAction

/-- Why an event cannot happen now: the clock does not run back, and a thread does one thing after
the other. -/
inductive LoginRefused
  | threadBusy
  | threadElsewhere
  | timeRunsBack

namespace LoginServer

variable (cfg : AuthSettings)

/-- A thread goes on to where it is given. -/
def put (sv : LoginServer) (thread : ℕ) (next : Option LoginThread) : LoginServer :=
  { sv with threads := Function.update sv.threads thread next }

/-- `login_rate_limiter.check`: what the thread has read of the clock may be from long ago. -/
def check (sv : LoginServer) (thread : ℕ) (clientIp : String) (readAt : Instant) (req : Login) :
    LoginServer :=
  match sv.limiter.check clientIp readAt with
  | none => sv.put thread none
  | some limiter =>
    { sv.put thread (some (.letThrough clientIp req)) with
      limiter
      passed := sv.passed ++ [(clientIp, sv.clock)] }

/-- `service.login`; an attempt that fails is over, and stays counted. -/
def login (sv : LoginServer) (thread : ℕ) (clientIp : String) (req : Login) : LoginServer :=
  match GroceryErp.login cfg sv.tables req with
  | .error _ => sv.put thread none
  | .ok tables => { sv.put thread (some (.loggedIn clientIp)) with tables }

/-- `login_rate_limiter.reset`, after which the thread gives its answer and is done. -/
def reset (sv : LoginServer) (thread : ℕ) (clientIp : String) : LoginServer :=
  { sv.put thread none with
    limiter := sv.limiter.reset clientIp
    logins := sv.logins ++ [clientIp] }

/-- What the thread does, at the time that the clock of the server is at. -/
def act (thread : ℕ) : LoginAction → LoginServer → Except LoginRefused LoginServer
  | .arrive clientIp req, sv => do
    raiseIf (sv.threads thread).isSome .threadBusy
    return sv.put thread (some (.waiting clientIp sv.clock req))
  | .check, sv =>
    match sv.threads thread with
    | some (.waiting clientIp readAt req) => .ok (sv.check thread clientIp readAt req)
    | _ => .error .threadElsewhere
  | .login, sv =>
    match sv.threads thread with
    | some (.letThrough clientIp req) => .ok (sv.login cfg thread clientIp req)
    | _ => .error .threadElsewhere
  | .reset, sv =>
    match sv.threads thread with
    | some (.loggedIn clientIp) => .ok (sv.reset thread clientIp)
    | _ => .error .threadElsewhere

/-- One event.  `time.monotonic` is one clock for all threads, and does not run back. -/
def exec (e : LoginEvent) (sv : LoginServer) : Except LoginRefused LoginServer := do
  raiseIf (e.now < sv.clock) .timeRunsBack
  act cfg e.thread e.action { sv with clock := e.now }

/-- When the attempts of an address were let through, and how many of its logins have reset its
count. -/
def passedFrom (sv : LoginServer) (clientIp : String) : List Instant :=
  (sv.passed.filter (·.1 = clientIp)).map Prod.snd

def loginsFrom (sv : LoginServer) (clientIp : String) : ℕ :=
  (sv.logins.filter (· = clientIp)).length

/-- What threads have read of the clock is past. -/
def ReadBefore (sv : LoginServer) : Prop :=
  ∀ thread, ∀ w ∈ sv.threads thread, ∀ readAt ∈ w.readAt, readAt ≤ sv.clock

end LoginServer

/-- The thread has not waited longer than this for the lock, from its reading of the clock on. -/
def Waits (delay : Instant) (sv : LoginServer) (e : LoginEvent) : Prop :=
  ∀ w ∈ sv.threads e.thread, ∀ readAt ∈ w.readAt, e.now ≤ readAt + delay

instance Waits.decidable (delay : Instant) (sv : LoginServer) (e : LoginEvent) :
    Decidable (Waits delay sv e) := inferInstanceAs (Decidable (∀ w ∈ _, ∀ readAt ∈ _, _))

/-- What a thread has done, case by case, with where it was before. -/
inductive LoginServer.Acts (cfg : AuthSettings) (thread : ℕ) (sv : LoginServer) :
    LoginAction → LoginServer → Prop
  | arrive {clientIp : String} {req : Login} (free : sv.threads thread = none) :
    Acts cfg thread sv (.arrive clientIp req)
      (sv.put thread (some (.waiting clientIp sv.clock req)))
  | check {clientIp : String} {readAt : Instant} {req : Login}
    (waiting : sv.threads thread = some (.waiting clientIp readAt req)) :
    Acts cfg thread sv .check (sv.check thread clientIp readAt req)
  | login {clientIp : String} {req : Login}
    (letThrough : sv.threads thread = some (.letThrough clientIp req)) :
    Acts cfg thread sv .login (sv.login cfg thread clientIp req)
  | reset {clientIp : String} (loggedIn : sv.threads thread = some (.loggedIn clientIp)) :
    Acts cfg thread sv .reset (sv.reset thread clientIp)

theorem LoginServer.acts_of_act {cfg : AuthSettings} {thread : ℕ} {sv sv' : LoginServer}
    {action : LoginAction} (h : LoginServer.act cfg thread action sv = .ok sv') :
    LoginServer.Acts cfg thread sv action sv' := by
  cases action with
  | arrive clientIp req =>
    simp only [LoginServer.act, ↓check_bind_eq_ok, raiseIf_eq_ok, pure_eq_ok,
      Option.not_isSome_iff_eq_none] at h
    obtain ⟨hfree, rfl⟩ := h
    exact .arrive hfree
  | check =>
    simp only [LoginServer.act] at h
    split at h
    · next hthread => exact Except.ok.inj h ▸ .check hthread
    · cases h
  | login =>
    simp only [LoginServer.act] at h
    split at h
    · next hthread => exact Except.ok.inj h ▸ .login hthread
    · cases h
  | reset =>
    simp only [LoginServer.act] at h
    split at h
    · next hthread => exact Except.ok.inj h ▸ .reset hthread
    · cases h

/-! ### What a run has made of the attempts of an address -/

/-- To the window of an address, a run is uses and resets. -/
structure LoginTrace (clientIp : String) (sv sv' : LoginServer) (events : List (Event Instant)) :
    Prop where
  chronological : Chronological sv.clock events
  clock : sv.clock ≤ sv'.clock
  before : ∀ readAt now, .use readAt now ∈ events → now ≤ sv'.clock
  limit : sv'.limiter.limit = sv.limiter.limit
  windowLength : sv'.limiter.windowLength = sv.limiter.windowLength
  window : sv'.limiter.windows clientIp
    = after sv.limiter.limit sv.limiter.windowLength (sv.limiter.windows clientIp) events
  passed : sv'.passedFrom clientIp = sv.passedFrom clientIp
    ++ admitted sv.limiter.limit sv.limiter.windowLength (sv.limiter.windows clientIp) events
  logins : sv'.loginsFrom clientIp = sv.loginsFrom clientIp + resets events

section Traces

variable {cfg : AuthSettings} {clientIp : String} {sv sv' sv'' : LoginServer}
  {events events' : List (Event Instant)} {delay : Instant}

/-- Nothing has happened to the window. -/
theorem LoginTrace.idle (hclock : sv.clock ≤ sv'.clock)
    (hlimit : sv'.limiter.limit = sv.limiter.limit)
    (hlength : sv'.limiter.windowLength = sv.limiter.windowLength)
    (hwindow : sv'.limiter.windows clientIp = sv.limiter.windows clientIp)
    (hpassed : sv'.passedFrom clientIp = sv.passedFrom clientIp)
    (hlogins : sv'.loginsFrom clientIp = sv.loginsFrom clientIp) :
    LoginTrace clientIp sv sv' [] where
  chronological := trivial
  clock := hclock
  before _ _ hnow := absurd hnow List.not_mem_nil
  limit := hlimit
  windowLength := hlength
  window := hwindow
  passed := by rw [admitted_nil, List.append_nil, hpassed]
  logins := hlogins

theorem LoginTrace.trans (h : LoginTrace clientIp sv sv' events)
    (h' : LoginTrace clientIp sv' sv'' events') :
    LoginTrace clientIp sv sv'' (events ++ events') where
  chronological := h.chronological.append h.clock h.before h'.chronological
  clock := h.clock.trans h'.clock
  before readAt now hnow := by
    rcases List.mem_append.mp hnow with hnow | hnow
    · exact (h.before readAt now hnow).trans h'.clock
    · exact h'.before readAt now hnow
  limit := h'.limit.trans h.limit
  windowLength := h'.windowLength.trans h.windowLength
  window := by rw [h'.window, h.limit, h.windowLength, h.window, after_append]
  passed := by
    rw [h'.passed, h.limit, h.windowLength, h.window, h.passed, admitted_append, List.append_assoc]
  logins := by rw [h'.logins, h.logins, resets_append, Nat.add_assoc]

/-- A check is a use of the window of its address, by the reading of its thread. -/
theorem LoginServer.check_trace (sv : LoginServer) (thread : ℕ) (ip : String) {readAt : Instant}
    (req : Login) (hread : readAt ≤ sv.clock) :
    ∃ events, LoginTrace clientIp sv (sv.check thread ip readAt req) events ∧
      ∀ delay, sv.clock ≤ readAt + delay → Within delay events := by
  have hwithin : ∀ delay, sv.clock ≤ readAt + delay →
      Within delay [Event.use readAt sv.clock] := by
    intro delay hwaits t now hmem
    cases List.mem_singleton.mp hmem
    exact hwaits
  have hidle : ∀ delay, sv.clock ≤ readAt + delay → Within delay ([] : List (Event Instant)) :=
    fun _ _ _ _ hmem => absurd hmem List.not_mem_nil
  have hbefore : ∀ t now, .use t now ∈ [Event.use readAt sv.clock] → now ≤ sv.clock := by
    intro t now hmem
    cases List.mem_singleton.mp hmem
    exact le_rfl
  unfold LoginServer.check
  rw [sv.limiter.check_eq ip readAt]
  -- a check that is refused and one that is let through are the same event of the window
  cases huse : Window.use sv.limiter.limit sv.limiter.windowLength readAt
      (sv.limiter.windows ip) with
  | none =>
    by_cases hip : ip = clientIp
    · subst hip
      refine ⟨[.use readAt sv.clock], ⟨⟨le_rfl, hread, trivial⟩, le_rfl, hbefore, rfl, rfl, ?_, ?_,
        rfl⟩, hwithin⟩
      · simp only [Option.map_none, after_cons, after_nil, step, huse, Option.none_or]
        rfl
      · rw [admitted_of_refused huse, admitted_nil, List.append_nil]
        rfl
    · exact ⟨[], .idle le_rfl rfl rfl rfl rfl rfl, hidle⟩
  | some window =>
    by_cases hip : ip = clientIp
    · subst hip
      refine ⟨[.use readAt sv.clock], ⟨⟨le_rfl, hread, trivial⟩, le_rfl, hbefore, rfl, rfl, ?_, ?_,
        rfl⟩, hwithin⟩
      · simp [FixedWindowRateLimiter.put, step, huse]
      · rw [admitted_of_use huse, admitted_nil]
        simp [LoginServer.passedFrom]
    · -- another address: the window is not touched
      refine ⟨[], .idle le_rfl rfl rfl ?_ ?_ rfl, hidle⟩
      · simp [FixedWindowRateLimiter.put, Function.update_of_ne (Ne.symm hip)]
      · simp [LoginServer.passedFrom, hip]

/-- A reset is one of that window. -/
theorem LoginServer.reset_trace (clientIp : String) (sv : LoginServer) (thread : ℕ) (ip : String) :
    ∃ events, LoginTrace clientIp sv (sv.reset thread ip) events ∧
      ∀ delay, Within delay events := by
  unfold LoginServer.reset
  by_cases hip : ip = clientIp
  · subst hip
    refine ⟨[.reset], ⟨trivial, le_rfl, ?_, rfl, rfl, ?_, ?_, ?_⟩, ?_⟩
    · intro t now hmem
      cases List.mem_singleton.mp hmem
    · simp [FixedWindowRateLimiter.reset, FixedWindowRateLimiter.put, step]
    · simp [LoginServer.passedFrom, LoginServer.put]
    · simp [LoginServer.loginsFrom, resets]
    · intro delay t now hmem
      cases List.mem_singleton.mp hmem
  · refine ⟨[], .idle le_rfl rfl rfl ?_ rfl ?_, fun _ _ _ hmem => absurd hmem List.not_mem_nil⟩
    · simp [FixedWindowRateLimiter.reset, FixedWindowRateLimiter.put,
        Function.update_of_ne (Ne.symm hip)]
    · simp [LoginServer.loginsFrom, hip]

/-- **What an action makes of the attempts of an address.** -/
theorem LoginServer.Acts.trace {thread : ℕ} {action : LoginAction}
    (h : LoginServer.Acts cfg thread sv action sv') (clientIp : String) (hread : sv.ReadBefore) :
    ∃ events, LoginTrace clientIp sv sv' events ∧
      ∀ delay, Waits delay sv ⟨sv.clock, thread, action⟩ → Within delay events := by
  have hidle : ∀ delay (e : LoginEvent), Waits delay sv e →
      Within delay ([] : List (Event Instant)) :=
    fun _ _ _ _ _ hmem => absurd hmem List.not_mem_nil
  cases h with
  | arrive free => exact ⟨[], .idle le_rfl rfl rfl rfl rfl rfl, fun delay => hidle delay _⟩
  | @check ip readAt req waiting =>
    obtain ⟨events, htrace, hwithin⟩ :=
      sv.check_trace thread ip req (hread thread _ waiting readAt rfl)
    exact ⟨events, htrace, fun delay hwaits => hwithin delay (hwaits _ waiting readAt rfl)⟩
  | @login ip req letThrough =>
    refine ⟨[], ?_, fun delay => hidle delay _⟩
    unfold LoginServer.login
    cases GroceryErp.login cfg sv.tables req with
    | error e => exact .idle le_rfl rfl rfl rfl rfl rfl
    | ok tables => exact .idle le_rfl rfl rfl rfl rfl rfl
  | @reset ip loggedIn =>
    obtain ⟨events, htrace, hwithin⟩ := sv.reset_trace clientIp thread ip
    exact ⟨events, htrace, fun delay _ => hwithin delay⟩

/-- **What an event makes of them.** -/
theorem LoginServer.exec_trace {e : LoginEvent} (hread : sv.ReadBefore)
    (h : LoginServer.exec cfg e sv = .ok sv') :
    ∃ events, LoginTrace clientIp sv sv' events ∧
      ∀ delay, Waits delay sv e → Within delay events := by
  simp only [LoginServer.exec, ↓check_bind_eq_ok, raiseIf_eq_ok, not_lt] at h
  obtain ⟨hclock, hact⟩ := h
  have hacts := LoginServer.acts_of_act hact
  -- time goes on, and then the thread acts
  have hread' : ({ sv with clock := e.now } : LoginServer).ReadBefore :=
    fun thread w hw readAt hreadAt => (hread thread w hw readAt hreadAt).trans hclock
  obtain ⟨events, htrace, hwithin⟩ := hacts.trace clientIp hread'
  have hidle : LoginTrace clientIp sv { sv with clock := e.now } [] :=
    .idle hclock rfl rfl rfl rfl rfl
  exact ⟨events, hidle.trans htrace, fun delay hwaits => hwithin delay hwaits⟩

/-- Of the threads only the one that acts goes on. -/
theorem LoginServer.Acts.threads_of_ne {thread other : ℕ} {action : LoginAction}
    (h : LoginServer.Acts cfg thread sv action sv') (hne : other ≠ thread) :
    sv'.threads other = sv.threads other := by
  have hput : ∀ next, (sv.put thread next).threads other = sv.threads other :=
    fun _ => Function.update_of_ne hne _ _
  cases h with
  | arrive free => exact hput _
  | @check ip readAt req waiting =>
    unfold LoginServer.check
    cases sv.limiter.check ip readAt with
    | none => exact hput _
    | some limiter => exact hput _
  | @login ip req letThrough =>
    unfold LoginServer.login
    cases GroceryErp.login cfg sv.tables req with
    | error e => exact hput _
    | ok tables => exact hput _
  | reset loggedIn => exact hput _

/-- It waits only if it has read the clock now. -/
theorem LoginServer.Acts.readAt_eq {thread : ℕ} {action : LoginAction} {w : LoginThread}
    {readAt : Instant} (h : LoginServer.Acts cfg thread sv action sv')
    (hw : sv'.threads thread = some w) (hread : w.readAt = some readAt) : readAt = sv.clock := by
  have hput : ∀ next, (sv.put thread next).threads thread = next := fun _ => Function.update_self ..
  cases h with
  | arrive free =>
    cases (hput _).symm.trans hw
    exact (Option.some.inj hread).symm
  | @check ip t req waiting =>
    unfold LoginServer.check at hw
    cases hcheck : sv.limiter.check ip t with
    | none =>
      rw [hcheck] at hw
      cases (hput _).symm.trans hw
    | some limiter =>
      rw [hcheck] at hw
      cases (hput _).symm.trans hw
      cases hread
  | @login ip req letThrough =>
    unfold LoginServer.login at hw
    cases hlogin : GroceryErp.login cfg sv.tables req with
    | error e =>
      rw [hlogin] at hw
      cases (hput _).symm.trans hw
    | ok tables =>
      rw [hlogin] at hw
      cases (hput _).symm.trans hw
      cases hread
  | reset loggedIn => cases (hput _).symm.trans hw

/-- What threads have read stays past. -/
theorem LoginServer.ReadBefore.exec {e : LoginEvent} (hread : sv.ReadBefore)
    (h : LoginServer.exec cfg e sv = .ok sv') : sv'.ReadBefore := by
  simp only [LoginServer.exec, ↓check_bind_eq_ok, raiseIf_eq_ok, not_lt] at h
  obtain ⟨hclock, hact⟩ := h
  have hacts := LoginServer.acts_of_act hact
  have hread' : ({ sv with clock := e.now } : LoginServer).ReadBefore :=
    fun thread w hw readAt hreadAt => (hread thread w hw readAt hreadAt).trans hclock
  obtain ⟨events, htrace, -⟩ := hacts.trace "" hread'
  intro thread w hw readAt hreadAt
  by_cases hthread : thread = e.thread
  · subst hthread
    exact (hacts.readAt_eq hw hreadAt).le.trans htrace.clock
  · rw [hacts.threads_of_ne hthread] at hw
    exact (hread' thread w hw readAt hreadAt).trans htrace.clock

/-- **What a run makes of them.** -/
theorem LoginTrace.of_reaches {ok : LoginServer → LoginEvent → Prop} (clientIp : String)
    (hread : sv.ReadBefore) (h : Reaches (LoginServer.exec cfg) ok sv sv') :
    sv'.ReadBefore ∧ ∃ events, LoginTrace clientIp sv sv' events ∧
      ∀ delay, (∀ s e, ok s e → Waits delay s e) → Within delay events := by
  refine h.invariant (I := fun s => s.ReadBefore ∧ ∃ events, LoginTrace clientIp sv s events ∧
    ∀ delay, (∀ s e, ok s e → Waits delay s e) → Within delay events) ⟨hread, [], ?_, ?_⟩ ?_
  · exact .idle le_rfl rfl rfl rfl rfl rfl
  · exact fun _ _ _ _ hmem => absurd hmem List.not_mem_nil
  · rintro s e s' ⟨hread, events, htrace, hwithin⟩ hok hdone
    obtain ⟨events', htrace', hwithin'⟩ := LoginServer.exec_trace hread hdone
    refine ⟨hread.exec hdone, _, htrace.trans htrace', fun delay hwaits => ?_⟩
    exact (hwithin delay hwaits).append (hwithin' delay (hwaits s e hok))

/-- **Login attempts are throttled.**  While so many windows of five minutes go by, no more than
ten attempts of an address come to a password check for each of them, with ten more, and ten for
every login of the address, as long as the time that threads wait for the lock is taken off: once,
and once more for every login.  And an attempt is refused only when ten came to a password check
since five minutes before its reading of the clock. -/
theorem logins_throttled {tables : AuthTables} {clock : Instant}
    (hrun : Reaches (LoginServer.exec cfg) (fun _ _ => True)
      { limiter := loginRateLimiter, tables, clock } sv) (clientIp : String) :
    (∀ delay, 0 ≤ delay → ∀ sv', Reaches (LoginServer.exec cfg) (Waits delay) sv sv' → ∀ k : ℕ,
      sv'.clock + (sv'.loginsFrom clientIp - sv.loginsFrom clientIp + 1) * delay
          < sv.clock + k * (300 * 1000000) →
        (sv'.passedFrom clientIp).length + 10 * sv.loginsFrom clientIp
          ≤ (sv.passedFrom clientIp).length + 10 * (k + 1 + sv'.loginsFrom clientIp)) ∧
    ∀ readAt, sv.limiter.check clientIp readAt = none →
      10 ≤ ((sv.passedFrom clientIp).filter (readAt - 300 * 1000000 < ·)).length := by
  -- what has become of the window since it was put up is told by the events so far
  have hstart : ({ limiter := loginRateLimiter, tables, clock } : LoginServer).ReadBefore :=
    fun _ _ hw => by cases hw
  obtain ⟨hread, events, htrace, -⟩ := LoginTrace.of_reaches clientIp hstart hrun
  have hlimit : sv.limiter.limit = 10 := htrace.limit
  have hlength : sv.limiter.windowLength = 300 * 1000000 := htrace.windowLength
  have hwindow : sv.limiter.windows clientIp = after 10 (300 * 1000000) none events := htrace.window
  constructor
  -- over the stretch every reading is early enough, with the delays taken off
  · intro delay hdelay sv' hrun' k hspan
    obtain ⟨-, events', htrace', hwithin⟩ := LoginTrace.of_reaches clientIp hread hrun'
    have hbegun : Begun sv.clock (sv.limiter.windows clientIp) := by
      rw [hwindow]
      exact begun_after begun_none htrace.chronological htrace.clock htrace.before
    have hbefore : ∀ readAt now, .use readAt now ∈ events' →
        readAt + (resets events' + 1) • delay < sv.clock + k • (300 * 1000000 : ℤ) := by
      intro readAt now hmem
      have hpast : readAt ≤ sv'.clock :=
        (htrace'.chronological.readAt_le hmem).trans (htrace'.before readAt now hmem)
      have hlogins : (sv'.loginsFrom clientIp : ℤ) - sv.loginsFrom clientIp = resets events' := by
        rw [htrace'.logins]
        push_cast
        ring
      rw [hlogins] at hspan
      rw [nsmul_eq_mul, nsmul_eq_mul]
      push_cast
      exact (Int.add_le_add_right hpast _).trans_lt hspan
    have hadmitted : (admitted 10 (300 * 1000000) (sv.limiter.windows clientIp) events').length
        ≤ 10 * (k + 1 + resets events') :=
      length_admitted_span (by norm_num) (by norm_num) hdelay k hbegun htrace'.chronological
        (hwithin delay fun _ _ hwaits => hwaits) hbefore
    rw [htrace'.passed, htrace'.logins, hlimit, hlength, List.length_append]
    omega
  -- a refusal is one by the window as it is, and that is full of attempts that were let through
  · intro readAt hrefused
    rw [sv.limiter.check_eq, Option.map_eq_none_iff, hlimit, hlength, hwindow] at hrefused
    have hpassed : sv.passedFrom clientIp = admitted 10 (300 * 1000000) none events := htrace.passed
    rw [hpassed]
    exact full_of_refused htrace.chronological hrefused

end Traces

/-! ### Guesses -/

/-- A clerk whose password is to be found out. -/
def clerkTables : AuthTables where
  users := [⟨"clerk", (· = "secret"), true, none, false, [], false⟩]

def plainSettings : AuthSettings := ⟨id, 0⟩

def quietServer : LoginServer := { limiter := loginRateLimiter, tables := clerkTables }

/-- A thread reads the clock for a guess at the clerk's password. -/
def guessAt (now : Instant) (thread : ℕ) : LoginEvent :=
  ⟨now, thread, .arrive "10.0.0.1" ⟨"clerk", "guess", "token", now⟩⟩

def checkAt (now : Instant) (thread : ℕ) : LoginEvent := ⟨now, thread, .check⟩

/-- A guess is let through a millionth of a second after its reading, and is wrong. -/
def guess (n : ℕ) : List LoginEvent :=
  [guessAt n 0, checkAt (n + 1) 0, ⟨n + 1, 0, .login⟩]

/-- Ten guesses within a few millionths of a second; the eleventh is refused. -/
def guessed : LoginServer :=
  value (((List.range 10).flatMap guess).foldlM
    (guarded (LoginServer.exec plainSettings) (Waits 1) .threadElsewhere) quietServer)
    (by decide +kernel)

theorem logins_throttled_guesses : guessed.limiter.check "10.0.0.1" 11 = none ∧
    (guessed.passedFrom "10.0.0.1").length ≤ 10 * (1 + 1 + guessed.loginsFrom "10.0.0.1") ∧
    10 ≤ ((guessed.passedFrom "10.0.0.1").filter ((11 : ℤ) - 300 * 1000000 < ·)).length := by
  have hrefused : guessed.limiter.check "10.0.0.1" 11 = none :=
    Option.isNone_iff_eq_none.mp (by decide +kernel)
  have hwaited : Reaches (LoginServer.exec plainSettings) (Waits 1) quietServer guessed :=
    reaches_of_guarded (eq_ok_value _ _)
  have hrun : Reaches (LoginServer.exec plainSettings) (fun _ _ => True) quietServer guessed :=
    hwaited.mono fun _ _ _ => trivial
  have hspan : guessed.clock + ((guessed.loginsFrom "10.0.0.1" : ℤ)
      - quietServer.loginsFrom "10.0.0.1" + 1) * 1
        < quietServer.clock + (1 : ℕ) * (300 * 1000000) := by decide +kernel
  have hquiet : Reaches (LoginServer.exec plainSettings) (fun _ _ => True) quietServer
      quietServer := .start
  have hpassed := (logins_throttled hquiet "10.0.0.1").1 1 (by norm_num) guessed hwaited 1 hspan
  have hnone : (quietServer.passedFrom "10.0.0.1").length = 0 := by decide +kernel
  have hnone' : quietServer.loginsFrom "10.0.0.1" = 0 := by decide +kernel
  rw [hnone, hnone'] at hpassed
  refine ⟨hrefused, ?_, (logins_throttled hrun "10.0.0.1").2 11 hrefused⟩
  omega

/-- One guess opens a window.  Two milliseconds before it is over nine threads read the clock, and
two more when it is. -/
def beforeTheEdge : LoginServer :=
  value (([guessAt 0 0, checkAt 0 0]
    ++ (List.range 9).map (fun n => guessAt 299998000 (n + 1))
    ++ [guessAt 300000000 10, guessAt 300000001 11]).foldlM
    (fun sv e => LoginServer.exec plainSettings e sv) quietServer) (by decide +kernel)

/-- All of them get the lock, and eight guesses more; ten others come when the next window is
over. -/
def afterTheEdge : LoginServer :=
  value (((List.range 11).map (fun n => checkAt 300000001 (n + 1))
    ++ (List.range 8).flatMap (fun n => [guessAt 300000001 (n + 12), checkAt 300000001 (n + 12)])
    ++ (List.range 10).flatMap
      (fun n => [guessAt 600000000 (n + 20), checkAt 600000000 (n + 20)])).foldlM
    (guarded (LoginServer.exec plainSettings) (Waits 2001) .threadElsewhere) beforeTheEdge)
    (by decide +kernel)

/-- **The time that threads wait is not without effect**: nobody logs in, less than five minutes
go by, no thread waits longer than 2.001 milliseconds, and 29 attempts are let through. -/
theorem attempts_at_the_edge :
    Reaches (LoginServer.exec plainSettings) (fun _ _ => True) quietServer beforeTheEdge ∧
      Reaches (LoginServer.exec plainSettings) (Waits 2001) beforeTheEdge afterTheEdge ∧
      afterTheEdge.clock < beforeTheEdge.clock + 300 * 1000000 ∧
      afterTheEdge.logins = [] ∧
      (afterTheEdge.passedFrom "10.0.0.1").length
        = (beforeTheEdge.passedFrom "10.0.0.1").length + 29 := by
  refine ⟨reaches_of_foldlM (eq_ok_value _ _), reaches_of_guarded (eq_ok_value _ _), ?_, ?_, ?_⟩
  · decide +kernel
  · decide +kernel
  · decide +kernel

end GroceryErp
