import Mathlib.Data.List.Basic
import Mathlib.Data.List.Forall2

/-!
# Fallible computations

Inversion rules for programs in `Except`: what is known of each step once the
whole program has succeeded, and one induction rule for loops.

## Main definitions

* `raiseIf c e` — stop with `e` when `c` holds.
* `orRaise o e` — the value of an optional lookup, or the error `e`.

## Main results

* `bind_eq_ok` — a sequence succeeds when both its parts do.
* `forM_eq_ok` — a checking loop succeeds when every check does.
* `mapM_eq_ok` — a mapping loop succeeds when every element does.
* `foldlM_induct` — the invariant rule of an accumulating loop.
-/

namespace Outcome

variable {ε α β γ σ : Type}

instance decEqExcept [DecidableEq ε] [DecidableEq α] : DecidableEq (Except ε α)
  | .ok a, .ok b => decidable_of_iff (a = b) (by simp)
  | .error a, .error b => decidable_of_iff (a = b) (by simp)
  | .ok _, .error _ => isFalse (by simp)
  | .error _, .ok _ => isFalse (by simp)

/-! ### Steps -/

/-- Stop with the error `e` when the condition holds. -/
def raiseIf (c : Prop) [Decidable c] (e : ε) : Except ε Unit :=
  if c then .error e else .ok ()

/-- The value of an optional lookup, or the error `e`. -/
def orRaise (o : Option α) (e : ε) : Except ε α :=
  match o with
  | some a => .ok a
  | none => .error e

@[simp] theorem raiseIf_eq_ok {c : Prop} [Decidable c] {e : ε} {u : Unit} :
    raiseIf c e = .ok u ↔ ¬c := by
  unfold raiseIf
  split <;> simp [*]

@[simp] theorem orRaise_eq_ok {o : Option α} {e : ε} {a : α} :
    orRaise o e = .ok a ↔ o = some a := by
  cases o <;> simp [orRaise]

@[simp] theorem bind_eq_ok {x : Except ε α} {f : α → Except ε β} {b : β} :
    (x >>= f) = .ok b ↔ ∃ a, x = .ok a ∧ f a = .ok b := by
  cases x <;> simp [bind, Except.bind]

/-- A check and what follows it. -/
@[simp high] theorem check_bind_eq_ok {x : Except ε Unit} {f : Unit → Except ε β} {b : β} :
    (x >>= f) = .ok b ↔ x = .ok () ∧ f () = .ok b := by
  rw [bind_eq_ok]
  constructor
  · rintro ⟨⟨⟩, hx, hf⟩
    exact ⟨hx, hf⟩
  · rintro ⟨hx, hf⟩
    exact ⟨(), hx, hf⟩

@[simp] theorem pure_eq_ok {a b : α} : (pure a : Except ε α) = .ok b ↔ a = b := by
  simp [pure, Except.pure]

@[simp] theorem map_eq_ok {f : α → β} {x : Except ε α} {b : β} :
    (f <$> x) = .ok b ↔ ∃ a, x = .ok a ∧ f a = b := by
  cases x <;> simp [Functor.map, Except.map]

@[simp] theorem throw_eq_ok {e : ε} {a : α} : (throw e : Except ε α) = .ok a ↔ False := by
  simp [throw, throwThe, MonadExceptOf.throw]

theorem toOption_eq_some {x : Except ε α} {a : α} : x.toOption = some a ↔ x = .ok a := by
  cases x <;> simp [Except.toOption]

theorem ok_bind (a : α) (f : α → Except ε β) : (Except.ok a >>= f) = f a := rfl

theorem error_bind (e : ε) (f : α → Except ε β) : (Except.error e >>= f) = .error e := rfl

/-- The value of a computation that is known to succeed. -/
def value (x : Except ε α) (h : x.isOk = true) : α :=
  match x, h with
  | .ok a, _ => a

theorem eq_ok_value (x : Except ε α) (h : x.isOk = true) : x = .ok (value x h) := by
  cases x with
  | ok a => rfl
  | error e => cases h

/-- The error of a computation that fails, and nothing where it succeeds. -/
def errorOf : Except ε α → Option ε
  | .ok _ => none
  | .error e => some e

theorem raiseIf_eq_error {c : Prop} [Decidable c] {e e' : ε} :
    raiseIf c e = .error e' ↔ c ∧ e = e' := by
  unfold raiseIf
  split <;> simp [*]

theorem orRaise_eq_error {o : Option α} {e e' : ε} :
    orRaise o e = .error e' ↔ o = none ∧ e = e' := by
  cases o <;> simp [orRaise]

/-- The first step fails, or the second. -/
theorem bind_eq_error {x : Except ε α} {f : α → Except ε β} {e : ε} :
    (x >>= f) = .error e ↔ x = .error e ∨ ∃ a, x = .ok a ∧ f a = .error e := by
  cases x <;> simp [bind, Except.bind]

/-- A check fails, or what follows it. -/
theorem check_bind_eq_error {x : Except ε Unit} {f : Unit → Except ε β} {e : ε} :
    (x >>= f) = .error e ↔ x = .error e ∨ x = .ok () ∧ f () = .error e := by
  rw [bind_eq_error]
  refine or_congr_right ?_
  constructor
  · rintro ⟨⟨⟩, hx, hf⟩
    exact ⟨hx, hf⟩
  · rintro ⟨hx, hf⟩
    exact ⟨(), hx, hf⟩

/-! ### Loops -/

theorem forM_eq_ok {f : α → Except ε Unit} {l : List α} {u : Unit} :
    l.forM f = .ok u ↔ ∀ a ∈ l, f a = .ok () := by
  rw [List.forM_eq_forM]
  induction l with
  | nil => simp
  | cons a l ih =>
    rw [List.forM_cons, check_bind_eq_ok, List.forall_mem_cons, ih]

theorem forM_raiseIf_eq_ok {c : α → Prop} [DecidablePred c] {e : α → ε} {l : List α}
    {u : Unit} : (l.forM fun a => raiseIf (c a) (e a)) = .ok u ↔ ∀ a ∈ l, ¬c a := by
  rw [forM_eq_ok]
  simp only [raiseIf_eq_ok]

theorem mapM_eq_ok {f : α → Except ε β} {l : List α} {bs : List β} :
    l.mapM f = .ok bs ↔ List.Forall₂ (fun a b => f a = .ok b) l bs := by
  induction l generalizing bs with
  | nil =>
    rw [List.mapM_nil, pure_eq_ok, List.forall₂_nil_left_iff]
    exact eq_comm
  | cons a l ih =>
    simp only [List.mapM_cons, bind_eq_ok, pure_eq_ok, List.forall₂_cons_left_iff]
    constructor
    · rintro ⟨b, hb, bs', hbs', rfl⟩
      exact ⟨b, bs', hb, ih.mp hbs', rfl⟩
    · rintro ⟨b, bs', hb, hbs', rfl⟩
      exact ⟨b, hb, bs', ih.mpr hbs', rfl⟩

/-- Every result of a mapping loop comes from an element. -/
theorem exists_of_mem_mapM {f : α → Except ε β} {l : List α} {bs : List β}
    (h : l.mapM f = .ok bs) {b : β} (hb : b ∈ bs) : ∃ a ∈ l, f a = .ok b := by
  have h2 := mapM_eq_ok.mp h
  obtain ⟨k, hk, rfl⟩ := List.getElem_of_mem hb
  have hk' : k < l.length := by rwa [h2.length_eq]
  exact ⟨l[k], List.getElem_mem hk', (List.forall₂_iff_get.mp h2).2 k hk' hk⟩

theorem exists_of_mapM {f : α → Except ε β} {l : List α} {bs : List β}
    (h : l.mapM f = .ok bs) {a : α} (ha : a ∈ l) : ∃ b ∈ bs, f a = .ok b := by
  have h2 := mapM_eq_ok.mp h
  obtain ⟨k, hk, rfl⟩ := List.getElem_of_mem ha
  have hk' : k < bs.length := by rwa [← h2.length_eq]
  exact ⟨bs[k], List.getElem_mem hk', (List.forall₂_iff_get.mp h2).2 k hk hk'⟩

/-- A mapping loop fails at an element. -/
theorem exists_of_mapM_eq_error {f : α → Except ε β} {l : List α} {e : ε}
    (h : l.mapM f = .error e) : ∃ a ∈ l, f a = .error e := by
  induction l with
  | nil => cases h
  | cons a l ih =>
    rw [List.mapM_cons, bind_eq_error] at h
    rcases h with ha | ⟨b, -, h⟩
    · exact ⟨a, List.mem_cons_self, ha⟩
    · rcases bind_eq_error.mp h with hl | ⟨bs, -, h⟩
      · obtain ⟨a', ha', hfail⟩ := ih hl
        exact ⟨a', List.mem_cons_of_mem a ha', hfail⟩
      · cases h

/-- A loop whose results remember their elements gives the elements back. -/
theorem map_of_mapM {f : α → Except ε β} {g : β → γ} {k : α → γ} {l : List α} {bs : List β}
    (h : l.mapM f = .ok bs) (hg : ∀ a b, f a = .ok b → g b = k a) : bs.map g = l.map k := by
  have h2 := mapM_eq_ok.mp h
  clear h
  induction h2 with
  | nil => rfl
  | cons ha _ ih => rw [List.map_cons, List.map_cons, ih, hg _ _ ha]

/-- The invariant rule of an accumulating loop.  The invariant speaks of the
part of the list already gone through. -/
theorem foldlM_induct {f : σ → α → Except ε σ} {l : List α} {s s' : σ}
    (I : List α → σ → Prop) (h : l.foldlM f s = .ok s') (init : I [] s)
    (step : ∀ done a rest t t', l = done ++ a :: rest → I done t → f t a = .ok t' →
      I (done ++ [a]) t') : I l s' := by
  have aux : ∀ (rest done : List α) (t : σ), l = done ++ rest → I done t →
      rest.foldlM f t = .ok s' → I l s' := by
    intro rest
    induction rest with
    | nil =>
      intro done t hl hI ht
      simp only [List.foldlM_nil, pure_eq_ok] at ht
      subst ht
      rw [hl, List.append_nil]
      exact hI
    | cons a rest ih =>
      intro done t hl hI ht
      rw [List.foldlM_cons, bind_eq_ok] at ht
      obtain ⟨t', ha, ht'⟩ := ht
      exact ih (done ++ [a]) t' (by simp [hl]) (step done a rest t t' hl hI ha) ht'
  exact aux l [] s rfl init h

end Outcome
