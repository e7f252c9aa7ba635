import GroceryErp.Lib.Runs
import Mathlib.Data.List.Basic

/-!
# Confinement

The rows of a table have owners.  A step that is confined adds rows of some owners and of no
others, so who looks at the rows of another owner sees the same as before, however many such steps
are taken.

## Main definitions

* `Appended` — rows are added at the end of a table, all of one kind.

## Main results

* `Appended.filter_eq` — rows of another kind are the same.
* `unseen` — what no step of a run shows, the run does not show.
-/

namespace Confinement

open Runs

section Rows

variable {α : Type*} {P Q : α → Prop} {t u v : List α}

/-- Rows are added at the end, all of one kind. -/
def Appended (P : α → Prop) (t u : List α) : Prop := ∃ new, u = t ++ new ∧ ∀ a ∈ new, P a

namespace Appended

theorem of_eq (h : u = t) : Appended P t u := ⟨[], by simp [h], by simp⟩

theorem refl (t : List α) : Appended P t t := of_eq rfl

theorem single {a : α} (ha : P a) : Appended P t (t ++ [a]) :=
  ⟨[a], rfl, fun _ hb => List.mem_singleton.mp hb ▸ ha⟩

theorem trans (h : Appended P t u) (h' : Appended P u v) : Appended P t v := by
  obtain ⟨new, rfl, hnew⟩ := h
  obtain ⟨more, rfl, hmore⟩ := h'
  refine ⟨new ++ more, by simp, fun a ha => ?_⟩
  rcases List.mem_append.mp ha with ha | ha
  · exact hnew a ha
  · exact hmore a ha

theorem mono (h : Appended P t u) (weaker : ∀ a, P a → Q a) : Appended Q t u := by
  obtain ⟨new, rfl, hnew⟩ := h
  exact ⟨new, rfl, fun a ha => weaker a (hnew a ha)⟩

/-- Rows of another kind are the same. -/
theorem filter_eq [DecidablePred Q] (h : Appended P t u) (other : ∀ a, P a → ¬Q a) :
    u.filter (Q ·) = t.filter (Q ·) := by
  obtain ⟨new, rfl, hnew⟩ := h
  have hnone : new.filter (Q ·) = [] := by
    refine List.filter_eq_nil_iff.mpr fun a ha => ?_
    simpa using other a (hnew a ha)
  rw [List.filter_append, hnone, List.append_nil]

end Appended

end Rows

section Views

variable {σ ρ ε ν : Type*} {step : ρ → σ → Except ε σ} {ok : σ → ρ → Prop} {s₀ s : σ}

/-- **What no step shows, a run does not show**: a view that every step keeps in the states that
are met is the same at the end. -/
theorem unseen (I : σ → Prop) (view : σ → ν) (h : Reaches step ok s₀ s) (start : I s₀)
    (keeps : ∀ s r s', I s → ok s r → step r s = .ok s' → I s' ∧ view s' = view s) :
    view s = view s₀ := by
  have hkept : I s ∧ view s = view s₀ := by
    refine h.invariant (I := fun t => I t ∧ view t = view s₀) ⟨start, rfl⟩ fun t r t' ht hr hdone => ?_
    obtain ⟨hI, hview⟩ := keeps t r t' ht.1 hr hdone
    exact ⟨hI, hview.trans ht.2⟩
  exact hkept.2

end Views

end Confinement
