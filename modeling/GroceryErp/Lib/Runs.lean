import Mathlib.Logic.Relation

/-!
# Runs of a system

A system is a step function that takes a state and a request to a new state or
fails.  A failed request leaves the state as it was, so only the requests that
succeed make up a run.

## Main definitions

* `Reaches step ok s₀ s` — `s` is reached from `s₀` by a run all of whose steps
  meet `ok`.

## Main results

* `Reaches.invariant` — what the start has and every step keeps, every reached
  state has.
-/

namespace Runs

variable {σ ρ ε : Type*}

/-- `s` is reached from `s₀` by requests that succeed and that each meet `ok` in
the state they start from. -/
inductive Reaches (step : ρ → σ → Except ε σ) (ok : σ → ρ → Prop) (s₀ : σ) : σ → Prop
  /-- The start is reached. -/
  | start : Reaches step ok s₀ s₀
  /-- One more request. -/
  | next {s s' : σ} {r : ρ} (run : Reaches step ok s₀ s) (meets : ok s r)
      (done : step r s = .ok s') : Reaches step ok s₀ s'

variable {step : ρ → σ → Except ε σ} {ok : σ → ρ → Prop} {s₀ s : σ}

/-- What holds at the start and is kept by every step holds in every reached
state. -/
theorem Reaches.invariant {I : σ → Prop} (h : Reaches step ok s₀ s) (start : I s₀)
    (keeps : ∀ s r s', I s → ok s r → step r s = .ok s' → I s') : I s := by
  induction h with
  | start => exact start
  | next _ meets done ih => exact keeps _ _ _ ih meets done

/-- A run goes on from where another has ended. -/
theorem Reaches.trans {s' : σ} (h : Reaches step ok s₀ s) (h' : Reaches step ok s s') :
    Reaches step ok s₀ s' := by
  induction h' with
  | start => exact h
  | next _ meets done ih => exact .next ih meets done

/-- A run under a stronger condition is a run under a weaker one. -/
theorem Reaches.mono {ok' : σ → ρ → Prop} (h : Reaches step ok s₀ s)
    (weaker : ∀ s r, ok s r → ok' s r) : Reaches step ok' s₀ s := by
  induction h with
  | start => exact .start
  | next _ meets done ih => exact .next ih (weaker _ _ meets) done

/-- A run of one system is a run of another that can do each of its steps. -/
theorem Reaches.map {ρ' : Type*} {step' : ρ' → σ → Except ε σ} {ok' : σ → ρ' → Prop}
    (h : Reaches step ok s₀ s) (f : ρ → ρ') (meets : ∀ s r, ok s r → ok' s (f r))
    (same : ∀ s r s', step r s = .ok s' → step' (f r) s = .ok s') : Reaches step' ok' s₀ s := by
  induction h with
  | start => exact .start
  | next _ hmeets hdone ih => exact .next ih (meets _ _ hmeets) (same _ _ _ hdone)

/-- A loop each of whose rounds is a request that meets the condition is a run. -/
theorem reaches_of_rounds {f : σ → ρ → Except ε σ}
    (round : ∀ s r s', f s r = .ok s' → ok s r ∧ step r s = .ok s') {rs : List ρ}
    (h : rs.foldlM f s₀ = .ok s) : Reaches step ok s₀ s := by
  have aux : ∀ (rs : List ρ) (t : σ), Reaches step ok s₀ t → rs.foldlM f t = .ok s →
      Reaches step ok s₀ s := by
    intro rs
    induction rs with
    | nil =>
      intro t ht hdone
      cases hdone
      exact ht
    | cons r rs ih =>
      intro t ht hdone
      rw [List.foldlM_cons] at hdone
      cases hstep : f t r with
      | error e =>
        rw [hstep] at hdone
        cases hdone
      | ok t' =>
        rw [hstep] at hdone
        obtain ⟨hmeets, hround⟩ := round t r t' hstep
        exact ih t' (.next ht hmeets hround) hdone
  exact aux rs s₀ .start h

/-- Requests made one after the other. -/
theorem reaches_of_foldlM {rs : List ρ}
    (h : rs.foldlM (fun s r => step r s) s₀ = .ok s) : Reaches step (fun _ _ => True) s₀ s :=
  reaches_of_rounds (fun _ _ _ hround => ⟨trivial, hround⟩) h

/-- One request, refused where it does not meet the condition. -/
def guarded (step : ρ → σ → Except ε σ) (ok : σ → ρ → Prop) [∀ s r, Decidable (ok s r)]
    (refusal : ε) (s : σ) (r : ρ) : Except ε σ :=
  if ok s r then step r s else .error refusal

/-- Requests made one after the other, each of which meets the condition. -/
theorem reaches_of_guarded [∀ s r, Decidable (ok s r)] {refusal : ε} {rs : List ρ}
    (h : rs.foldlM (guarded step ok refusal) s₀ = .ok s) : Reaches step ok s₀ s := by
  refine reaches_of_rounds (fun t r t' hround => ?_) h
  unfold guarded at hround
  split at hround
  · next hmeets => exact ⟨hmeets, hround⟩
  · cases hround

end Runs
