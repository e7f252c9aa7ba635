import Mathlib.Data.List.Sort

/-!
# The first of a sorted list

A choice that sorts a list and takes its head.  The sort is stable, so among members that come
first alike the choice falls on the one that the list has first; where a list is known only up
to its order, the choice is determined when one member alone comes first.

## Main definitions

* `ComesFirst r l a` — `a` is a member of `l` that is before every member.

## Main results

* `comesFirst_of_head?` — what is chosen comes first.
* `exists_perm_head?` — what comes first is chosen in some order of the list.
* `head?_determined_iff` — the choice is the same in every order when one member comes first.
-/

namespace Choices

variable {α : Type*} (r : α → α → Prop)

/-- A member of a list that is before every member. -/
def ComesFirst (l : List α) (a : α) : Prop := a ∈ l ∧ ∀ b ∈ l, r a b

variable {r} {l l' : List α} {a : α}

theorem ComesFirst.perm (h : l.Perm l') (ha : ComesFirst r l a) : ComesFirst r l' a :=
  ⟨h.mem_iff.mp ha.1, fun b hb => ha.2 b (h.mem_iff.mpr hb)⟩

variable [DecidableRel r]

/-- **What is chosen comes first**: the head of the sorted list stands before all others. -/
theorem comesFirst_of_head? [Std.Total r] [IsTrans α r]
    (h : (l.insertionSort r).head? = some a) : ComesFirst r l a := by
  obtain ⟨rest, hsorted⟩ : ∃ rest, l.insertionSort r = a :: rest := by
    cases hl : l.insertionSort r with
    | nil => simp [hl] at h
    | cons x rest =>
      rw [hl, List.head?_cons, Option.some_inj] at h
      exact ⟨rest, by rw [h]⟩
  have hpairwise := List.pairwise_insertionSort r l
  rw [hsorted, List.pairwise_cons] at hpairwise
  have hmem : ∀ b, b ∈ l ↔ b ∈ a :: rest := by
    intro b
    rw [← hsorted, List.mem_insertionSort]
  constructor
  · exact (hmem a).mpr List.mem_cons_self
  · intro b hb
    rcases List.mem_cons.mp ((hmem b).mp hb) with rfl | hrest
    · exact (Std.Total.total b b).elim id id
    · exact hpairwise.1 b hrest

/-- A member that comes first is chosen when the list has it first. -/
theorem head?_insertionSort_cons (h : ∀ b ∈ l, r a b) :
    ((a :: l).insertionSort r).head? = some a := by
  rw [List.insertionSort_cons_of_forall_rel r h]
  rfl

/-- **What comes first is chosen in some order of the list.** -/
theorem exists_perm_head? (h : ComesFirst r l a) :
    ∃ l' : List α, l'.Perm l ∧ (l'.insertionSort r).head? = some a := by
  obtain ⟨before, after, rfl⟩ := List.append_of_mem h.1
  refine ⟨a :: (before ++ after), List.perm_middle.symm, head?_insertionSort_cons ?_⟩
  intro b hb
  refine h.2 b ?_
  rcases List.mem_append.mp hb with hbefore | hafter
  · exact List.mem_append_left _ hbefore
  · exact List.mem_append_right _ (List.mem_cons_of_mem _ hafter)

/-- **The choice is the same in every order exactly when one member alone comes first.** -/
theorem head?_determined_iff [Std.Total r] [IsTrans α r] :
    (∀ l' : List α, l'.Perm l → (l'.insertionSort r).head? = (l.insertionSort r).head?)
      ↔ ∀ a b, ComesFirst r l a → ComesFirst r l b → a = b := by
  constructor
  -- either member can be put first by a suitable order
  · intro hsame a b ha hb
    obtain ⟨la, hla, hheada⟩ := exists_perm_head? ha
    obtain ⟨lb, hlb, hheadb⟩ := exists_perm_head? hb
    rw [hsame la hla] at hheada
    rw [hsame lb hlb, hheada] at hheadb
    exact Option.some.inj hheadb
  -- whatever the order, its first member is the one that comes first
  · intro hunique l' hperm
    cases hl : (l.insertionSort r).head? with
    | none =>
      have hnil : l = [] := by
        rw [List.head?_eq_none_iff] at hl
        exact List.nil_perm.mp (hl ▸ List.perm_insertionSort r l)
      subst hnil
      rw [List.perm_nil.mp hperm]
      rfl
    | some a =>
      cases hl' : (l'.insertionSort r).head? with
      | none =>
        rw [List.head?_eq_none_iff] at hl'
        have hnil : l' = [] := List.nil_perm.mp (hl' ▸ List.perm_insertionSort r l')
        subst hnil
        have hmem := (comesFirst_of_head? hl).1
        rw [List.nil_perm.mp hperm] at hmem
        exact absurd hmem List.not_mem_nil
      | some b =>
        have hb := (comesFirst_of_head? hl').perm hperm
        rw [hunique b a hb (comesFirst_of_head? hl)]

end Choices
