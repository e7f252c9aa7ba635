import GroceryErp.Lib.Runs
import Mathlib.Data.Nat.Notation
import Mathlib.Logic.Function.Basic

/-!
# Transactions side by side

Sessions over shared tables at READ COMMITTED: a read sees what is committed, what a
session writes is seen by the others once it commits, and the lock of a row is held until
the session ends.  What a session has loaded, and means to write, is its own state.

A program says what a session does next.  Any event may follow any other: a session
begins, does its next action, or is given up.

## Main definitions

* `Action`, `Program` — what a session does.
* `Program.Advances` — where a read or a lock takes a session.
* `Server`, `Program.exec` — the tables with the open sessions, and one event.
* `Program.Did` — what an event that happens has done.
* `Server.Inv` — an invariant of the tables, and what every session knows of them.
* `Program.Keeps` — the rules by which the events keep it.
* `Program.CameFrom` — the read or lock with which a session came to its state.
* `Action.map`, `Action.onPart` — the action of a part of a program, and of a program over a
  part of the tables.

## Main results

* `Program.exec_did` — every event that happens is one of the few.
* `Program.session_induct` — what holds of every open session of a run.
* `Program.came` — an open session came to its state in the run.
* `Program.Keeps.exec`, `Program.Keeps.reaches` — the invariant, over one event and over
  any run.
-/

namespace Transactions

open Runs

/-- What a session does next; where it results in `none` the request fails. -/
inductive Action (σ κ τ : Type*)
  /-- The committed tables are read. -/
  | read (f : σ → Option τ)
  /-- A row is locked, and the committed tables are read. -/
  | lock (key : κ) (f : σ → Option τ)
  /-- What the session writes is committed. -/
  | commit (f : σ → Option σ)

/-- The action of a part of a program, whose locks and states are some of the program's. -/
def Action.map {σ κ κ' τ τ' : Type*} (g : κ → κ') (h : τ → τ') : Action σ κ τ → Action σ κ' τ'
  | .read f => .read fun s => (f s).map h
  | .lock key f => .lock (g key) fun s => (f s).map h
  | .commit f => .commit f

/-- The action of a program over a part of the tables. -/
def Action.onPart {σ σ' κ τ : Type*} (get : σ' → σ) (put : σ' → σ → σ') :
    Action σ κ τ → Action σ' κ τ
  | .read f => .read fun s => f (get s)
  | .lock key f => .lock key fun s => f (get s)
  | .commit f => .commit fun s => (f (get s)).map (put s)

section Map

variable {σ σ' κ κ' τ τ' : Type*} {a : Action σ κ τ} {g : κ → κ'} {h : τ → τ'}

theorem Action.map_eq_read {f : σ → Option τ'} :
    a.map g h = .read f ↔ ∃ f₀, a = .read f₀ ∧ f = fun s => (f₀ s).map h := by
  cases a <;> simp [Action.map, eq_comm]

theorem Action.map_eq_lock {key : κ'} {f : σ → Option τ'} : a.map g h = .lock key f ↔
    ∃ key₀ f₀, a = .lock key₀ f₀ ∧ key = g key₀ ∧ f = fun s => (f₀ s).map h := by
  cases a with
  | read | commit => simp [Action.map]
  | lock key₀ f₀ =>
    constructor
    · rintro ⟨⟩
      exact ⟨key₀, f₀, rfl, rfl, rfl⟩
    · rintro ⟨_, _, ⟨⟩, rfl, rfl⟩
      rfl

theorem Action.map_eq_commit {f : σ → Option σ} : a.map g h = .commit f ↔ a = .commit f := by
  cases a <;> simp [Action.map]

variable {get : σ' → σ} {put : σ' → σ → σ'}

theorem Action.onPart_eq_read {f : σ' → Option τ} :
    a.onPart get put = .read f ↔ ∃ f₀, a = .read f₀ ∧ f = fun s => f₀ (get s) := by
  cases a <;> simp [Action.onPart, eq_comm]

theorem Action.onPart_eq_lock {key : κ} {f : σ' → Option τ} :
    a.onPart get put = .lock key f ↔ ∃ f₀, a = .lock key f₀ ∧ f = fun s => f₀ (get s) := by
  cases a with
  | read | commit => simp [Action.onPart]
  | lock key₀ f₀ =>
    constructor
    · rintro ⟨⟩
      exact ⟨f₀, rfl, rfl⟩
    · rintro ⟨_, ⟨⟩, rfl⟩
      rfl

theorem Action.onPart_eq_commit {f : σ' → Option σ'} :
    a.onPart get put = .commit f ↔
      ∃ f₀, a = .commit f₀ ∧ f = fun s => (f₀ (get s)).map (put s) := by
  cases a <;> simp [Action.onPart, eq_comm]

end Map

/-- A session starts on a request, and goes on as its own state says. -/
structure Program (σ κ τ ρ : Type*) where
  start : ρ → τ
  next : τ → Action σ κ τ

/-- With the tables `s`, a read or a lock takes a session from `t` to `t'`. -/
inductive Program.Advances {σ κ τ ρ : Type*} (P : Program σ κ τ ρ) (s : σ) (t t' : τ) : Prop
  | read {f : σ → Option τ} (next : P.next t = .read f) (result : f s = some t')
  | lock {key : κ} {f : σ → Option τ} (next : P.next t = .lock key f) (result : f s = some t')

/-- The committed tables, the open sessions, and who holds the lock of which row. -/
structure Server (σ κ τ : Type*) where
  tables : σ
  sessions : ℕ → Option τ := fun _ => none
  holder : κ → Option ℕ := fun _ => none

/-- What may happen next: a request begins, a session takes its next step, or it is rolled back. -/
inductive Event (ρ : Type*)
  | begin (k : ℕ) (r : ρ)
  | step (k : ℕ)
  | rollback (k : ℕ)

/-- Why an event cannot happen now: a session begins that is open, one goes on that is not, or it
waits for a lock that another session has. -/
inductive Refused
  | sessionOpen
  | noSession
  | blocked

variable {σ κ τ ρ : Type*}

namespace Server

variable (sv : Server σ κ τ) (k : ℕ)

/-- The session `k` is in the state `t`; tables and locks are as they were. -/
def put (t : τ) : Server σ κ τ :=
  { sv with sessions := Function.update sv.sessions k (some t) }

/-- The session ends, and the locks it has are free, as they are once a transaction commits or is
rolled back. -/
def close : Server σ κ τ :=
  { sv with
    sessions := Function.update sv.sessions k none
    holder := fun key => if sv.holder key = some k then none else sv.holder key }

variable [DecidableEq κ]

/-- The session has the lock of a row, which it keeps until it ends. -/
def take (key : κ) : Server σ κ τ :=
  { sv with holder := Function.update sv.holder key (some k) }

/-- An action of the session.  A lock that another session holds is waited for; a request
that fails is rolled back. -/
def perform : Action σ κ τ → Except Refused (Server σ κ τ)
  | .read f => .ok <| match f sv.tables with
    | some t => sv.put k t
    | none => sv.close k
  | .lock key f =>
    if sv.holder key = none ∨ sv.holder key = some k then
      .ok <| match f sv.tables with
        | some t => (sv.put k t).take k key
        | none => sv.close k
    else .error .blocked
  | .commit f => .ok <| match f sv.tables with
    | some s => { sv.close k with tables := s }
    | none => sv.close k

end Server

/-! ### Events -/

namespace Program

variable [DecidableEq κ] (P : Program σ κ τ ρ)

/-- One event.  A session can be given up at any time. -/
def exec : Event ρ → Server σ κ τ → Except Refused (Server σ κ τ)
  | .begin k r, sv =>
    match sv.sessions k with
    | some _ => .error .sessionOpen
    | none => .ok (sv.put k (P.start r))
  | .step k, sv =>
    match sv.sessions k with
    | none => .error .noSession
    | some t => sv.perform k (P.next t)
  | .rollback k, sv => .ok (sv.close k)

/-- What an event that happens has done, with one constructor for each way a session begins, goes on
or ends. -/
inductive Did (sv : Server σ κ τ) : Event ρ → Server σ κ τ → Prop
  | begin {k : ℕ} {r : ρ} (closed : sv.sessions k = none) :
      Did sv (.begin k r) (sv.put k (P.start r))
  | read {k : ℕ} {t t' : τ} {f : σ → Option τ} (opened : sv.sessions k = some t)
      (next : P.next t = .read f) (result : f sv.tables = some t') :
      Did sv (.step k) (sv.put k t')
  | lock {k : ℕ} {t t' : τ} {key : κ} {f : σ → Option τ} (opened : sv.sessions k = some t)
      (next : P.next t = .lock key f) (free : sv.holder key = none ∨ sv.holder key = some k)
      (result : f sv.tables = some t') : Did sv (.step k) ((sv.put k t').take k key)
  | commit {k : ℕ} {t : τ} {f : σ → Option σ} {s : σ} (opened : sv.sessions k = some t)
      (next : P.next t = .commit f) (result : f sv.tables = some s) :
      Did sv (.step k) { sv.close k with tables := s }
  /-- A request has failed. -/
  | fail {k : ℕ} {t : τ} (opened : sv.sessions k = some t) : Did sv (.step k) (sv.close k)
  | rollback {k : ℕ} : Did sv (.rollback k) (sv.close k)

variable {P}

/-- **Every event that happens has done one of the few things an event does.** -/
theorem exec_did {sv sv' : Server σ κ τ} {e : Event ρ} (h : P.exec e sv = .ok sv') :
    P.Did sv e sv' := by
  cases e with
  | begin k r =>
    unfold exec at h
    dsimp only at h
    split at h
    · cases h
    · next hclosed =>
      cases h
      exact .begin hclosed
  | rollback k =>
    cases h
    exact .rollback
  -- a step is the read, the lock or the commit that comes next, or fails with its session
  | step k =>
    unfold exec at h
    dsimp only at h
    split at h
    · cases h
    · next t hopen =>
      unfold Server.perform at h
      split at h
      · next f hnext =>
        cases h
        split
        · next t' hresult => exact .read hopen hnext hresult
        · exact .fail hopen
      · next key f hnext =>
        split at h
        · next hfree =>
          cases h
          split
          · next t' hresult => exact .lock hopen hnext hfree hresult
          · exact .fail hopen
        · cases h
      · next f hnext =>
        cases h
        split
        · next s hresult => exact .commit hopen hnext hresult
        · exact .fail hopen

/-- A request that fails or is given up leaves the tables as they are, and so does every
event but a commit. -/
theorem Did.tables {sv sv' : Server σ κ τ} {e : Event ρ} (h : P.Did sv e sv') :
    sv'.tables = sv.tables ∨ ∃ k t f, e = .step k ∧ sv.sessions k = some t ∧
      P.next t = .commit f ∧ f sv.tables = some sv'.tables := by
  cases h with
  | commit opened next result => exact .inr ⟨_, _, _, rfl, opened, next, result⟩
  | begin | read | lock | fail | rollback => exact .inl rfl

end Program

/-! ### Where a session comes from -/

/-- A session came to the state `t` in the server `sv`: with its last read or lock there, from
the state `t₀` it was in. -/
inductive Program.CameFrom (P : Program σ κ τ ρ) (sv : Server σ κ τ) (k : ℕ) (t₀ t : τ) : Prop
  | read {f : σ → Option τ} (opened : sv.sessions k = some t₀) (next : P.next t₀ = .read f)
      (result : f sv.tables = some t)
  | lock {key : κ} {f : σ → Option τ} (opened : sv.sessions k = some t₀)
      (next : P.next t₀ = .lock key f) (result : f sv.tables = some t)

section Sessions

variable [DecidableEq κ] {P : Program σ κ τ ρ} {ok : Server σ κ τ → Event ρ → Prop} {s : σ}
  {sv : Server σ κ τ} {k : ℕ} {t : τ}

/-- **What holds of a session that starts, of what it comes to, and from event to event, holds of
every open session of a run.** -/
theorem Program.session_induct {Q : Server σ κ τ → ℕ → τ → Prop}
    (start : ∀ sv k r, Q sv k (P.start r))
    (came : ∀ sv k t t', Reaches P.exec ok { tables := s } sv → Q sv k t →
      P.CameFrom sv k t t' → Q sv k t')
    (kept : ∀ sv sv' e k t, ok sv e → P.exec e sv = .ok sv' → Q sv k t → Q sv' k t)
    (hrun : Reaches P.exec ok { tables := s } sv) (hopen : sv.sessions k = some t) :
    Q sv k t := by
  induction hrun generalizing t with
  | start => cases hopen
  | @next sv sv' e run meets done ih =>
    refine kept sv sv' e k t meets done ?_
    -- a session that the last event has left alone
    have hput : ∀ {j : ℕ} {u : τ}, Function.update sv.sessions j (some u) k = some t →
        (j = k → Q sv k u) → Q sv k t := by
      intro j u h hu
      by_cases hkj : k = j
      · subst hkj
        rw [Function.update_self] at h
        exact Option.some.inj h ▸ hu rfl
      · rw [Function.update_of_ne hkj] at h
        exact ih h
    have hclose : ∀ {j : ℕ}, Function.update sv.sessions j none k = some t → Q sv k t := by
      intro j h
      by_cases hkj : k = j
      · rw [hkj, Function.update_self] at h
        cases h
      · rw [Function.update_of_ne hkj] at h
        exact ih h
    cases exec_did done with
    | begin closed => exact hput hopen fun _ => start sv k _
    | read opened next result =>
      refine hput hopen ?_
      rintro rfl
      exact came sv _ _ _ run (ih opened) (.read opened next result)
    | lock opened next free result =>
      refine hput hopen ?_
      rintro rfl
      exact came sv _ _ _ run (ih opened) (.lock opened next result)
    | commit | fail | rollback => exact hclose hopen

/-- **An open session is where it started, or has come there in the run.** -/
theorem Program.came (hrun : Reaches P.exec ok { tables := s } sv)
    (hopen : sv.sessions k = some t) :
    (∃ r, t = P.start r) ∨ ∃ mid t₀, Reaches P.exec ok { tables := s } mid ∧
      Reaches P.exec ok mid sv ∧ P.CameFrom mid k t₀ t := by
  refine Program.session_induct (Q := fun sv k t => (∃ r, t = P.start r) ∨
    ∃ mid t₀, Reaches P.exec ok { tables := s } mid ∧ Reaches P.exec ok mid sv ∧
      P.CameFrom mid k t₀ t) (fun sv k r => .inl ⟨r, rfl⟩) ?_ ?_ hrun hopen
  · intro sv k t t' run _ hcame
    exact .inr ⟨sv, t, run, .start, hcame⟩
  · intro sv sv' e k t meets done h
    rcases h with hstart | ⟨mid, t₀, hmid, hrest, hcame⟩
    · exact .inl hstart
    · exact .inr ⟨mid, t₀, hmid, .next hrest meets done, hcame⟩

end Sessions

/-! ### Invariants -/

/-- The rows a session has locked, as the predicate that the knowledge of a session is stated over.
-/
def Server.Holds (sv : Server σ κ τ) (k : ℕ) (key : κ) : Prop := sv.holder key = some k

/-- `I` holds of the tables, and `Q` of what every open session has locked, the tables and
its state. -/
structure Server.Inv (I : σ → Prop) (Q : (κ → Prop) → σ → τ → Prop) (sv : Server σ κ τ) :
    Prop where
  tables : I sv.tables
  sessions : ∀ k t, sv.sessions k = some t → Q (sv.Holds k) sv.tables t
  holders : ∀ key k, sv.holder key = some k → sv.sessions k ≠ none

namespace Server

section Holds

variable {sv : Server σ κ τ} {k j : ℕ} {key : κ}

theorem holder_close : (sv.close k).holder key = some j ↔ sv.holder key = some j ∧ j ≠ k := by
  unfold close
  dsimp only
  split
  · next hk =>
    simp only [hk, Option.some.injEq, reduceCtorEq, false_iff, not_and, not_not]
    exact Eq.symm
  · next hk =>
    refine ⟨fun h => ⟨h, ?_⟩, And.left⟩
    rintro rfl
    exact hk h

variable [DecidableEq κ]

theorem holder_take_ne (h : j ≠ k) (free : sv.holder key = none ∨ sv.holder key = some k) {i : κ} :
    (sv.take k key).holder i = some j ↔ sv.holder i = some j := by
  unfold take
  by_cases hi : i = key
  · subst hi
    rcases free with free | free
    · simp [free, Ne.symm h]
    · simp [free, Ne.symm h]
  · simp [hi]

theorem holds_take : (sv.take k key).Holds k = fun i => i = key ∨ sv.Holds k i := by
  funext i
  unfold Holds take
  by_cases hi : i = key
  · simp [hi]
  · simp [hi]

end Holds

end Server

/-- The rules by which the events of a run, each of which meets `ok`, keep an invariant. -/
structure Program.Keeps [DecidableEq κ] (P : Program σ κ τ ρ)
    (ok : Server σ κ τ → Event ρ → Prop) (I : σ → Prop) (Q : (κ → Prop) → σ → τ → Prop) :
    Prop where
  start : ∀ sv k r, I sv.tables → ok sv (.begin k r) → Q (fun _ => False) sv.tables (P.start r)
  read : ∀ H s t t' f, I s → Q H s t → P.next t = .read f → f s = some t' → Q H s t'
  lock : ∀ H s t t' key f, I s → Q H s t → P.next t = .lock key f → f s = some t' →
    Q (fun i => i = key ∨ H i) s t'
  /-- A commit keeps the invariant of the tables. -/
  commit : ∀ sv k t f s, sv.Inv I Q → ok sv (.step k) → sv.sessions k = some t →
    P.next t = .commit f → f sv.tables = some s → I s
  /-- What a session knows is kept by the commits of the others. -/
  stable : ∀ sv k t f s j u, sv.Inv I Q → ok sv (.step k) → sv.sessions k = some t →
    P.next t = .commit f → f sv.tables = some s → j ≠ k → sv.sessions j = some u →
    Q (sv.Holds j) s u

namespace Server

variable {I : σ → Prop} {Q : (κ → Prop) → σ → τ → Prop} {sv : Server σ κ τ}

/-- A session comes to a state; `holder` is who has the locks then. -/
theorem Inv.put {k : ℕ} {t : τ} {holder : κ → Option ℕ} (h : sv.Inv I Q)
    (here : Q (fun key => holder key = some k) sv.tables t)
    (others : ∀ key j, j ≠ k → (holder key = some j ↔ sv.holder key = some j)) :
    Inv I Q { sv.put k t with holder } := by
  refine ⟨h.tables, fun j u hj => ?_, fun key j hj => ?_⟩
  · change Function.update sv.sessions k (some t) j = some u at hj
    change Q (fun key => holder key = some j) sv.tables u
    by_cases hjk : j = k
    · subst hjk
      rw [Function.update_self] at hj
      rw [← Option.some.inj hj]
      exact here
    · rw [Function.update_of_ne hjk] at hj
      have hheld : (fun key => holder key = some j) = sv.Holds j :=
        funext fun key => propext (others key j hjk)
      rw [hheld]
      exact h.sessions j u hj
  · change Function.update sv.sessions k (some t) j ≠ none
    by_cases hjk : j = k
    · rw [hjk, Function.update_self]
      exact Option.some_ne_none _
    · rw [Function.update_of_ne hjk]
      exact h.holders key j ((others key j hjk).mp hj)

/-- A session ends, and leaves the tables `s`. -/
theorem Inv.close {k : ℕ} {s : σ} (h : sv.Inv I Q) (hs : I s)
    (others : ∀ j u, j ≠ k → sv.sessions j = some u → Q (sv.Holds j) s u) :
    Inv I Q { sv.close k with tables := s } := by
  refine ⟨hs, fun j u hj => ?_, fun key j hj => ?_⟩
  · change Function.update sv.sessions k none j = some u at hj
    by_cases hjk : j = k
    · subst hjk
      rw [Function.update_self] at hj
      cases hj
    · rw [Function.update_of_ne hjk] at hj
      have hheld : (sv.close k).Holds j = sv.Holds j :=
        funext fun key => propext (holder_close.trans (and_iff_left hjk))
      change Q ((sv.close k).Holds j) s u
      rw [hheld]
      exact others j u hjk hj
  · obtain ⟨hold, hjk⟩ := holder_close.mp hj
    change Function.update sv.sessions k none j ≠ none
    rw [Function.update_of_ne hjk]
    exact h.holders key j hold

/-- With no session open the invariant is that of the tables. -/
theorem inv_of_tables {s : σ} (h : I s) : Inv I Q ({ tables := s } : Server σ κ τ) := by
  refine ⟨h, ?_, ?_⟩
  · rintro k t ⟨⟩
  · rintro key k ⟨⟩

end Server

namespace Program.Keeps

variable [DecidableEq κ] {P : Program σ κ τ ρ} {ok : Server σ κ τ → Event ρ → Prop}
  {I : σ → Prop} {Q : (κ → Prop) → σ → τ → Prop} {sv sv' : Server σ κ τ}

/-- **Every event keeps the invariant**, whichever session it is of and whatever the others hold. -/
theorem exec {e : Event ρ} (hP : P.Keeps ok I Q) (h : sv.Inv I Q) (hok : ok sv e)
    (hdone : P.exec e sv = .ok sv') : sv'.Inv I Q := by
  cases exec_did hdone with
  | @begin k r closed =>
    have hnone : (fun key => sv.holder key = some k) = fun _ => False :=
      funext fun key => eq_false fun hheld => h.holders key k hheld closed
    refine @Server.Inv.put _ _ _ _ _ _ k _ sv.holder h ?_ fun _ _ _ => Iff.rfl
    rw [hnone]
    exact hP.start sv k r h.tables hok
  | read opened next result =>
    exact h.put (hP.read _ _ _ _ _ h.tables (h.sessions _ _ opened) next result)
      fun _ _ _ => Iff.rfl
  | @lock k t t' key f opened next free result =>
    refine @Server.Inv.put _ _ _ _ _ _ k _ (sv.take k key).holder h ?_ fun i j hj =>
      Server.holder_take_ne hj free
    change Q ((sv.take k key).Holds k) sv.tables t'
    rw [Server.holds_take]
    exact hP.lock _ _ _ _ _ _ h.tables (h.sessions _ _ opened) next result
  | commit opened next result =>
    exact h.close (hP.commit sv _ _ _ _ h hok opened next result) fun j u hjk hj =>
      hP.stable sv _ _ _ _ j u h hok opened next result hjk hj
  | fail => exact h.close h.tables fun j u _ hj => h.sessions j u hj
  | rollback => exact h.close h.tables fun j u _ hj => h.sessions j u hj

/-- **Any run keeps the invariant**, as long as every event of it is allowed. -/
theorem reaches (hP : P.Keeps ok I Q) (h : sv.Inv I Q) (hrun : Reaches P.exec ok sv sv') :
    sv'.Inv I Q :=
  hrun.invariant h fun _ _ _ hs hok hdone => hP.exec hs hok hdone

end Program.Keeps

end Transactions
