import Mathlib.Data.Set.Basic

/-!
# Keyrings

Clients hold keys that open something.  A client that uses its key gets another one for it, which
no one has had before, and the old key opens no more.  As long as every client uses its own key
only, and with nobody taking away the keys of others, whoever holds a key can use it.

## Main definitions

* `Keyring` — which keys there are, which of them open, and who holds which.
* `Keyring.Next` — what may happen to a keyring.
* `Keyring.InOrder` — every key that is held opens, and no other client holds it.

## Main results

* `Keyring.InOrder.next` — what may happen keeps a keyring in order.
-/

namespace Keyrings

variable {C K : Type*}

/-- The keys that were made, those that open, and the key that each client holds. -/
structure Keyring (C K : Type*) where
  made : Set K
  opening : Set K
  held : C → Option K

namespace Keyring

/-- Every key that is held was made, opens, and is held by no one else. -/
structure InOrder (r : Keyring C K) : Prop where
  made : ∀ c k, r.held c = some k → k ∈ r.made
  opening : ∀ c k, r.held c = some k → k ∈ r.opening
  apart : ∀ c c' k, r.held c = some k → r.held c' = some k → c = c'

/-- What a client may do: it may spoil the key it holds, and no other; what it holds after that
is the key it had, if that still opens, or one that is new and opens. -/
structure Next (r r' : Keyring C K) (c : C) : Prop where
  made : r.made ⊆ r'.made
  spoils : ∀ k ∈ r.opening, r.held c ≠ some k → k ∈ r'.opening
  others : ∀ c', c' ≠ c → r'.held c' = r.held c'
  holds : ∀ k, r'.held c = some k → k ∈ r'.opening ∧
    (r.held c = some k ∨ (k ∉ r.made ∧ k ∈ r'.made))

variable {r r' : Keyring C K} {c : C}

theorem inOrder_of_empty (h : ∀ c, r.held c = none) : r.InOrder where
  made c k hk := by
    rw [h] at hk
    cases hk
  opening c k hk := by
    rw [h] at hk
    cases hk
  apart c c' k hk _ := by
    rw [h] at hk
    cases hk

/-- A key that a client gets is held by no one else. -/
theorem InOrder.fresh_or_kept (h : r.InOrder) (hnext : r.Next r' c) {k : K}
    (hk : r'.held c = some k) {c' : C} (hc : c' ≠ c) : r'.held c' ≠ some k := by
  intro hk'
  rw [hnext.others c' hc] at hk'
  obtain ⟨-, hsame | ⟨hfresh, -⟩⟩ := hnext.holds k hk
  · exact hc (h.apart c' c k hk' hsame)
  · exact hfresh (h.made c' k hk')

/-- **What may happen keeps a keyring in order.** -/
theorem InOrder.next (h : r.InOrder) (hnext : r.Next r' c) : r'.InOrder where
  made c' k hk := by
    by_cases hc : c' = c
    · subst hc
      obtain ⟨-, hsame | ⟨-, hmade⟩⟩ := hnext.holds k hk
      · exact hnext.made (h.made c' k hsame)
      · exact hmade
    · rw [hnext.others c' hc] at hk
      exact hnext.made (h.made c' k hk)
  opening c' k hk := by
    by_cases hc : c' = c
    · subst hc
      exact (hnext.holds k hk).1
    · rw [hnext.others c' hc] at hk
      refine hnext.spoils k (h.opening c' k hk) fun hsame => hc ?_
      exact h.apart c' c k hk hsame
  apart c₁ c₂ k h₁ h₂ := by
    by_cases hc₁ : c₁ = c
    · by_cases hc₂ : c₂ = c
      · rw [hc₁, hc₂]
      · rw [hc₁] at h₁
        exact absurd h₂ (h.fresh_or_kept hnext h₁ hc₂)
    · by_cases hc₂ : c₂ = c
      · rw [hc₂] at h₂
        exact absurd h₁ (h.fresh_or_kept hnext h₂ hc₁)
      · rw [hnext.others _ hc₁] at h₁
        rw [hnext.others _ hc₂] at h₂
        exact h.apart c₁ c₂ k h₁ h₂

/-- What nobody holds changes nothing, as long as no key that is held is spoiled. -/
theorem InOrder.of_kept (h : r.InOrder) (hheld : r'.held = r.held) (hmade : r.made ⊆ r'.made)
    (hopening : r.opening ⊆ r'.opening) : r'.InOrder where
  made c k hk := hmade (h.made c k (hheld ▸ hk))
  opening c k hk := hopening (h.opening c k (hheld ▸ hk))
  apart c c' k hk hk' := h.apart c c' k (hheld ▸ hk) (hheld ▸ hk')

end Keyring

end Keyrings
