import GroceryErp.Lib.Outcome

/-!
# Programs that read

A program that puts queries to a state, one after the other, and ends in a value or an
error.  It is evaluated against one state that stays as it is, or makes its reads one by
one while the state changes in between.

## Main definitions

* `Reading` — a program; `ask` and `query` put one question.
* `Reading.eval` — what comes out when every read sees the same state.
* `Reading.through` — the program after reads of some states, one after the other.
* `Reading.Same` — no read of the program tells two states apart.
* `Reading.Yields` — every value it may end in meets a condition.

## Main results

* `eval_bind`, `eval_mapM` — evaluation goes through sequences and loops.
* `Same.bind`, `same_mapM` — states that no part of a program tells apart.
* `eval_through` — reads of states that the program does not tell from the last one come to
  the same as reads of that one.
-/

namespace Readings

/-- A program that reads a state as often as it likes; between two reads the state may change. -/
inductive Reading (σ ε α : Type) : Type
  | done (a : α)
  | fail (e : ε)
  | read (next : σ → Reading σ ε α)

namespace Reading

variable {σ ε α β : Type}

/-- One program after another: the second begins with what the first has come to. -/
protected def bind : Reading σ ε α → (α → Reading σ ε β) → Reading σ ε β
  | .done a, f => f a
  | .fail e, _ => .fail e
  | .read next, f => .read fun s => (next s).bind f

instance : Monad (Reading σ ε) where
  pure := .done
  bind := Reading.bind

protected theorem bind_assoc {γ : Type} (x : Reading σ ε α) (f : α → Reading σ ε β)
    (g : β → Reading σ ε γ) : (x.bind f).bind g = x.bind fun a => (f a).bind g := by
  induction x with
  | done a => rfl
  | fail e => rfl
  | read next ih => exact congrArg Reading.read (funext ih)

protected theorem bind_done (x : Reading σ ε α) : x.bind .done = x := by
  induction x with
  | done a => rfl
  | fail e => rfl
  | read next ih => exact congrArg Reading.read (funext ih)

instance : LawfulMonad (Reading σ ε) :=
  LawfulMonad.mk' (Reading σ ε) Reading.bind_done (fun _ _ => rfl) Reading.bind_assoc

/-- A query that always has an answer. -/
def ask (f : σ → α) : Reading σ ε α := .read fun s => .done (f s)

/-- A computation that reads nothing: it is done at once, or has failed. -/
def lift : Except ε α → Reading σ ε α
  | .ok a => .done a
  | .error e => .fail e

/-- A query that may fail, of the state that there is when its turn comes. -/
def query (f : σ → Except ε α) : Reading σ ε α := .read fun s => lift (f s)

/-- What comes out when every read sees the same state, as when nothing else runs. -/
def eval : Reading σ ε α → σ → Except ε α
  | .done a, _ => .ok a
  | .fail e, _ => .error e
  | .read next, s => (next s).eval s

@[simp] theorem eval_pure (a : α) (s : σ) : (pure a : Reading σ ε α).eval s = .ok a := rfl

@[simp] theorem eval_ask (f : σ → α) (s : σ) : (ask f : Reading σ ε α).eval s = .ok (f s) := rfl

@[simp] theorem eval_lift (x : Except ε α) (s : σ) : (lift x).eval s = x := by
  cases x <;> rfl

@[simp] theorem eval_query (f : σ → Except ε α) (s : σ) : (query f).eval s = f s :=
  eval_lift (f s) s

@[simp] theorem eval_bind (x : Reading σ ε α) (f : α → Reading σ ε β) (s : σ) :
    (x >>= f).eval s = x.eval s >>= fun a => (f a).eval s := by
  change (x.bind f).eval s = _
  induction x with
  | done a => rfl
  | fail e => rfl
  | read next ih => exact ih s

theorem eval_mapM (f : α → Reading σ ε β) (l : List α) (s : σ) :
    (l.mapM f).eval s = l.mapM fun a => (f a).eval s := by
  induction l with
  | nil => rfl
  | cons a l ih =>
    simp only [List.mapM_cons, eval_bind, eval_pure, ih]
    rfl

/-- A loop of queries that do not fail. -/
theorem eval_mapM_ask (f : α → σ → β) (l : List α) (s : σ) :
    (l.mapM fun a => (ask (f a) : Reading σ ε β)).eval s = .ok (l.map fun a => f a s) := by
  rw [eval_mapM]
  exact List.mapM_pure

/-! ### Reads one by one -/

/-- One read, of the state as it is at that moment; a program that is done stays so. -/
def step (s : σ) : Reading σ ε α → Reading σ ε α
  | .read next => next s
  | x => x

theorem eval_step (x : Reading σ ε α) (s : σ) : (x.step s).eval s = x.eval s := by
  cases x <;> rfl

/-- The first reads of a program, one of each of these states. -/
def through (x : Reading σ ε α) (states : List σ) : Reading σ ε α :=
  states.foldl (fun x s => x.step s) x

theorem through_append_singleton (x : Reading σ ε α) (states : List σ) (s : σ) :
    x.through (states ++ [s]) = (x.through states).step s := by
  simp [through]

/-- No read of the program tells the two states apart. -/
def Same : Reading σ ε α → σ → σ → Prop
  | .done _, _, _ => True
  | .fail _, _, _ => True
  | .read next, s, s' => next s = next s' ∧ (next s).Same s s'

variable {x : Reading σ ε α} {s s' : σ}

theorem Same.step (h : x.Same s s') : x.step s = x.step s' ∧ (x.step s).Same s s' := by
  cases x with
  | done a => exact ⟨rfl, h⟩
  | fail e => exact ⟨rfl, h⟩
  | read next => exact h

theorem same_pure (a : α) : (pure a : Reading σ ε α).Same s s' := trivial

theorem same_ask {f : σ → α} (h : f s = f s') : (ask f : Reading σ ε α).Same s s' :=
  ⟨congrArg Reading.done h, trivial⟩

theorem same_lift (x : Except ε α) : (lift x : Reading σ ε α).Same s s' := by
  cases x <;> trivial

theorem same_query {f : σ → Except ε α} (h : f s = f s') : (query f).Same s s' :=
  ⟨congrArg lift h, same_lift (f s)⟩

theorem Same.bind {f : α → Reading σ ε β} (h : x.Same s s') (hf : ∀ a, (f a).Same s s') :
    (x >>= f).Same s s' := by
  change (x.bind f).Same s s'
  induction x with
  | done a => exact hf a
  | fail e => trivial
  | read next ih =>
    obtain ⟨heq, hrest⟩ := h
    exact ⟨congrArg (Reading.bind · f) heq, ih s hrest⟩

theorem same_mapM {f : α → Reading σ ε β} (hf : ∀ a, (f a).Same s s') (l : List α) :
    (l.mapM f).Same s s' := by
  induction l with
  | nil => exact same_pure []
  | cons a l ih =>
    rw [List.mapM_cons]
    exact (hf a).bind fun b => ih.bind fun bs => same_pure (b :: bs)

/-- **Reads of states that a program does not tell from `s` come to what `s` comes to.** -/
theorem eval_through {states : List σ} (h : ∀ s' ∈ states, x.Same s' s) :
    (x.through states).eval s = x.eval s := by
  induction states generalizing x with
  | nil => rfl
  | cons s₁ states ih =>
    have hfirst := (h s₁ List.mem_cons_self).step.1
    have hrest : ∀ s' ∈ states, (x.step s₁).Same s' s := by
      intro s' hs'
      obtain ⟨heq, hsame⟩ := (h s' (List.mem_cons_of_mem _ hs')).step
      rw [hfirst, ← heq]
      exact hsame
    calc (x.through (s₁ :: states)).eval s = ((x.step s₁).through states).eval s := rfl
      _ = (x.step s₁).eval s := ih hrest
      _ = x.eval s := by rw [hfirst, eval_step]

/-! ### What a program may end in -/

/-- Whatever states it reads, a value that the program ends in meets the condition. -/
def Yields (P : α → Prop) : Reading σ ε α → Prop
  | .done a => P a
  | .fail _ => True
  | .read next => ∀ s, (next s).Yields P

theorem yields_pure {P : α → Prop} {a : α} (h : P a) : (pure a : Reading σ ε α).Yields P := h

theorem Yields.bind {P : α → Prop} {Q : β → Prop} {f : α → Reading σ ε β} (h : x.Yields P)
    (hf : ∀ a, P a → (f a).Yields Q) : (x >>= f).Yields Q := by
  change (x.bind f).Yields Q
  induction x with
  | done a => exact hf a h
  | fail e => trivial
  | read next ih => exact fun s => ih s (h s)

theorem yields_true (x : Reading σ ε α) : x.Yields fun _ => True := by
  induction x with
  | done a => trivial
  | fail e => trivial
  | read next ih => exact ih

/-- What comes after any program: if the second always yields it, so do both together. -/
theorem yields_bind {Q : β → Prop} {f : α → Reading σ ε β} (x : Reading σ ε α)
    (hf : ∀ a, (f a).Yields Q) : (x >>= f).Yields Q :=
  (yields_true x).bind fun a _ => hf a

theorem Yields.through {P : α → Prop} (h : x.Yields P) (states : List σ) :
    (x.through states).Yields P := by
  induction states generalizing x with
  | nil => exact h
  | cons s states ih =>
    apply ih
    cases x with
    | done a => exact h
    | fail e => exact h
    | read next => exact h s

end Reading
end Readings
