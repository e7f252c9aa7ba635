import GroceryErp.Lib.Outcome

/-!
# Requests that commit on the way

A request works on its own view of the tables, and may commit what it has written before it is
done.  When it raises, what it has written since its last commit is lost, and no more than that.

## Main definitions

* `Work` — the tables as last committed, and as the request sees them.
* `Session` — a program that reads, writes, commits and raises.
* `Session.serve` — a request from its beginning to its end.
* `Session.Ends` — what holds of its view where a program goes on, and of what is committed where
  it raises.

## Main results

* `ends_bind` — the rule of sequence.
* `ends_read`, `ends_write`, `ends_commit` — the rules of the steps.
* `serve_of_ends` — what holds of a whole request.
-/

namespace Sessions

variable {σ ε α β : Type}

/-- The tables as last committed, and as the request sees them. -/
structure Work (σ : Type) where
  committed : σ
  current : σ

/-- A program of one request: from what it works on to a result, or an error, and what it leaves,
which includes what an error does not take back. -/
def Session (σ ε α : Type) : Type := Work σ → Except ε α × Work σ

namespace Session

/-- One program after another: what the first has written stays, whether or not it stops with an
error. -/
protected def bind (x : Session σ ε α) (f : α → Session σ ε β) : Session σ ε β := fun w =>
  match x w with
  | (.ok a, w') => f a w'
  | (.error e, w') => (.error e, w')

instance : Monad (Session σ ε) where
  pure a := fun w => (.ok a, w)
  bind := Session.bind

/-- Stop with an error, and leave what has been written. -/
def raise (e : ε) : Session σ ε α := fun w => (.error e, w)

/-- A query on the tables as they are now, which may raise. -/
def read (f : σ → Except ε α) : Session σ ε α := fun w => (f w.current, w)

/-- A change of the tables, which may raise instead. -/
def write (f : σ → Except ε (σ × α)) : Session σ ε α := fun w =>
  match f w.current with
  | .ok (s, a) => (.ok a, { w with current := s })
  | .error e => (.error e, w)

/-- What has been written so far is committed, and no later error takes it back. -/
def commit : Session σ ε Unit := fun w => (.ok (), { w with committed := w.current })

/-- A request from its beginning to its end: what it answers, and what it leaves committed. -/
def serve (x : Session σ ε α) (s : σ) : Except ε α × σ :=
  let r := x { committed := s, current := s }
  (r.1, r.2.committed)

/-! ### What holds at the end -/

/-- Where the program goes on, `ok` holds of its value and its view; where it raises, `err` holds of
the error and of what is committed. -/
def Ends (x : Session σ ε α) (w : Work σ) (ok : α → Work σ → Prop) (err : ε → σ → Prop) : Prop :=
  match x w with
  | (.ok a, w') => ok a w'
  | (.error e, w') => err e w'.committed

variable {w : Work σ} {ok ok' : α → Work σ → Prop} {err err' : ε → σ → Prop}

@[simp] theorem ends_pure (a : α) : (pure a : Session σ ε α).Ends w ok err ↔ ok a w := Iff.rfl

@[simp] theorem ends_raise (e : ε) :
    (raise e : Session σ ε α).Ends w ok err ↔ err e w.committed := Iff.rfl

@[simp] theorem ends_commit {ok : Unit → Work σ → Prop} :
    (commit : Session σ ε Unit).Ends w ok err ↔ ok () { w with committed := w.current } := Iff.rfl

/-- **The rule of sequence**: what the first program ends in, the second one starts from. -/
@[simp] theorem ends_bind (x : Session σ ε α) (f : α → Session σ ε β) {ok : β → Work σ → Prop} :
    (x >>= f).Ends w ok err ↔ x.Ends w (fun a w' => (f a).Ends w' ok err) err := by
  change (x.bind f).Ends w ok err ↔ _
  unfold Ends Session.bind
  match x w with
  | (.ok a, w') => rfl
  | (.error e, w') => rfl

theorem ends_read (f : σ → Except ε α) : (read f).Ends w ok err ↔
    (∀ a, f w.current = .ok a → ok a w) ∧ ∀ e, f w.current = .error e → err e w.committed := by
  unfold Ends read
  cases f w.current with
  | ok a => simp
  | error e => simp

theorem ends_write (f : σ → Except ε (σ × α)) : (write f).Ends w ok err ↔
    (∀ s a, f w.current = .ok (s, a) → ok a { w with current := s }) ∧
      ∀ e, f w.current = .error e → err e w.committed := by
  unfold Ends write
  match f w.current with
  | .ok (s, a) =>
    constructor
    · intro h
      refine ⟨fun s' a' heq => ?_, fun e heq => by cases heq⟩
      cases heq
      exact h
    · exact fun h => h.1 s a rfl
  | .error e => simp

/-- What a program ends in may be weakened. -/
theorem Ends.mono {x : Session σ ε α} (h : x.Ends w ok err) (hok : ∀ a w', ok a w' → ok' a w')
    (herr : ∀ e s, err e s → err' e s) : x.Ends w ok' err' := by
  unfold Ends at h ⊢
  match x w, h with
  | (.ok a, w'), h => exact hok a w' h
  | (.error e, w'), h => exact herr e w'.committed h

/-- **What a request answers and leaves**, where its program ends as said. -/
theorem serve_of_ends {x : Session σ ε α} {s : σ} (h : x.Ends ⟨s, s⟩ ok err) :
    (∃ a w', x.serve s = (.ok a, w'.committed) ∧ ok a w') ∨
      ∃ e s', x.serve s = (.error e, s') ∧ err e s' := by
  unfold Ends at h
  unfold serve
  match x ⟨s, s⟩, h with
  | (.ok a, w'), h => exact .inl ⟨a, w', rfl, h⟩
  | (.error e, w'), h => exact .inr ⟨e, w'.committed, rfl, h⟩

end Session

end Sessions
