import Mathlib.Data.List.Nodup
import Mathlib.Logic.Function.Basic

/-!
# Tickets

Clients are issued tickets, one at a time.  A client holds its ticket until it is redeemed, for
a result, or the client abandons it.

## Main definitions

* `Desk` — who was issued what, and what has become of it.
* `Desk.Next` — what may happen at a desk.
* `Desk.InOrder` — every ticket is held, redeemed or abandoned, and only one of these.

## Main results

* `Desk.InOrder.next` — what may happen keeps a desk in order.
-/

namespace Tickets

variable {C K R : Type*}

/-- Which ticket was issued to whom, who holds which, for which results they were redeemed, and
which were abandoned. -/
structure Desk (C K R : Type*) where
  issued : List (K × C) := []
  held : C → Option K := fun _ => none
  redeemed : List (K × R) := []
  abandoned : List K := []

namespace Desk

variable (d : Desk C K R)

/-- The tickets that are held no more, because they were redeemed or because their client has left
them. -/
def closed : List K := d.redeemed.map Prod.fst ++ d.abandoned

/-- Every ticket was issued once, and is held by the client it was issued to, redeemed or
abandoned. -/
structure InOrder : Prop where
  issued : (d.issued.map Prod.fst).Nodup
  held : ∀ c k, d.held c = some k → (k, c) ∈ d.issued ∧ k ∉ d.closed
  closed_nodup : d.closed.Nodup
  closed_issued : ∀ k ∈ d.closed, k ∈ d.issued.map Prod.fst
  accounted : ∀ k c, (k, c) ∈ d.issued → d.held c = some k ∨ k ∈ d.closed

section Next

variable [DecidableEq C]

def issue (c : C) (k : K) : Desk C K R :=
  { d with issued := d.issued ++ [(k, c)], held := Function.update d.held c (some k) }

def redeem (c : C) (k : K) (r : R) : Desk C K R :=
  { d with redeemed := d.redeemed ++ [(k, r)], held := Function.update d.held c none }

/-- The client leaves what it holds: the ticket counts as abandoned, and the client has none. -/
def abandon (c : C) : Desk C K R :=
  { d with
    abandoned := d.abandoned ++ (d.held c).toList
    held := Function.update d.held c none }

/-- What may happen to a desk in one step. -/
inductive Next : Desk C K R → Prop
  | same : Next d
  | issue {c : C} {k : K} (idle : d.held c = none) (fresh : k ∉ d.issued.map Prod.fst) :
      Next (d.issue c k)
  | redeem {c : C} {k : K} {r : R} (held : d.held c = some k) : Next (d.redeem c k r)
  | abandon {c : C} : Next (d.abandon c)

end Next

variable {d} {d' : Desk C K R}

theorem inOrder_empty : InOrder ({} : Desk C K R) where
  issued := List.nodup_nil
  held _ _ h := by cases h
  closed_nodup := List.nodup_nil
  closed_issued _ h := absurd h List.not_mem_nil
  accounted _ _ h := absurd h List.not_mem_nil

/-- Who holds a ticket, and no other. -/
theorem InOrder.holder (h : d.InOrder) {c c' : C} {k : K} (hc : d.held c = some k)
    (hc' : (k, c') ∈ d.issued) : c' = c := by
  have hpair := List.inj_on_of_nodup_map h.issued hc' (h.held c k hc).1 rfl
  exact congrArg Prod.snd hpair

variable [DecidableEq C]

theorem InOrder.issue (h : d.InOrder) {c : C} {k : K} (idle : d.held c = none)
    (fresh : k ∉ d.issued.map Prod.fst) : (d.issue c k).InOrder where
  issued := by
    change ((d.issued ++ [(k, c)]).map Prod.fst).Nodup
    rw [List.map_append, List.nodup_append]
    refine ⟨h.issued, List.nodup_singleton k, fun i hi j hj => ?_⟩
    rw [List.map_singleton, List.mem_singleton] at hj
    subst hj
    rintro rfl
    exact fresh hi
  held c' k' hheld := by
    change Function.update d.held c (some k) c' = some k' at hheld
    -- the new holder, whose ticket is fresh and so not closed
    by_cases hc : c' = c
    · subst hc
      rw [Function.update_self] at hheld
      cases hheld
      exact ⟨List.mem_append_right _ (List.mem_singleton_self _),
        fun hclosed => fresh (h.closed_issued k hclosed)⟩
    · rw [Function.update_of_ne hc] at hheld
      obtain ⟨hissued, hopen⟩ := h.held c' k' hheld
      exact ⟨List.mem_append_left _ hissued, hopen⟩
  closed_nodup := h.closed_nodup
  closed_issued k' hk' := by
    change k' ∈ (d.issued ++ [(k, c)]).map Prod.fst
    rw [List.map_append]
    exact List.mem_append_left _ (h.closed_issued k' hk')
  accounted k' c' hmem := by
    change Function.update d.held c (some k) c' = some k' ∨ k' ∈ d.closed
    rcases List.mem_append.mp hmem with hmem | hmem
    · rcases h.accounted k' c' hmem with hheld | hclosed
      · left
        rw [Function.update_of_ne, hheld]
        rintro rfl
        rw [idle] at hheld
        cases hheld
      · exact .inr hclosed
    -- the new ticket is held, and the old ones were held or closed before
    · cases List.mem_singleton.mp hmem
      exact .inl (Function.update_self ..)

/-- A ticket that its holder gives back is closed, and it alone. -/
theorem InOrder.close (h : d.InOrder) {c : C} {k : K} (hheld : d.held c = some k)
    (hissued : d'.issued = d.issued) (hd : d'.held = Function.update d.held c none)
    (hclosed : d'.closed.Perm (k :: d.closed)) : d'.InOrder where
  issued := hissued ▸ h.issued
  held c' k' hheld' := by
    rw [hd] at hheld'
    by_cases hc : c' = c
    · subst hc
      rw [Function.update_self] at hheld'
      cases hheld'
    · rw [Function.update_of_ne hc] at hheld'
      obtain ⟨hmem, hopen⟩ := h.held c' k' hheld'
      -- the other holders hold tickets of their own
      rw [hissued, hclosed.mem_iff, List.mem_cons]
      refine ⟨hmem, not_or.mpr ⟨?_, hopen⟩⟩
      rintro rfl
      exact hc (h.holder hheld hmem)
  closed_nodup := hclosed.nodup_iff.mpr (List.nodup_cons.mpr ⟨(h.held c k hheld).2, h.closed_nodup⟩)
  closed_issued k' hk' := by
    rw [hissued]
    rcases List.mem_cons.mp (hclosed.mem_iff.mp hk') with rfl | hk'
    · exact List.mem_map_of_mem (h.held c k' hheld).1
    · exact h.closed_issued k' hk'
  accounted k' c' hmem := by
    rw [hissued] at hmem
    rw [hd, hclosed.mem_iff, List.mem_cons]
    by_cases hk : k' = k
    · exact .inr (.inl hk)
    · rcases h.accounted k' c' hmem with hheld' | hclosed'
      · left
        rw [Function.update_of_ne, hheld']
        rintro rfl
        rw [hheld] at hheld'
        exact hk (Option.some.inj hheld').symm
      · exact .inr (.inr hclosed')

/-- **What may happen keeps a desk in order.** -/
theorem InOrder.next (h : d.InOrder) (hnext : d.Next d') : d'.InOrder := by
  cases hnext with
  | same => exact h
  | issue idle fresh => exact h.issue idle fresh
  | @redeem c k r held =>
    refine h.close held rfl rfl ?_
    change ((d.redeemed ++ [(k, r)]).map Prod.fst ++ d.abandoned).Perm _
    rw [List.map_append, List.append_assoc]
    exact List.perm_middle
  | @abandon c =>
    cases hheld : d.held c with
    | none =>
      have hsame : d.abandon c = d := by
        unfold abandon
        rw [hheld, Option.toList_none, List.append_nil, ← hheld, Function.update_eq_self]
      rw [hsame]
      exact h
    | some k =>
      refine h.close hheld rfl rfl ?_
      change (d.redeemed.map Prod.fst ++ (d.abandoned ++ (d.held c).toList)).Perm _
      rw [hheld, Option.toList_some, ← List.append_assoc]
      exact List.perm_append_singleton k _

end Desk

end Tickets
