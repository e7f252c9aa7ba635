import Mathlib.Algebra.BigOperators.Group.List.Basic
import Mathlib.Algebra.Order.BigOperators.Group.List
import Mathlib.Algebra.Order.Group.Defs
import Mathlib.Tactic.Abel

/-!
# Increments along a list

A quantity comes in parts, and every part is given what a function grows by over it.  Whatever
the parts are, together they are given what the function grows by over all of them.

## Main definitions

* `increments f a parts` — what `f` grows by over each of the parts, from `a` on.

## Main results

* `sum_increments` — the increments telescope.
* `increments_nonneg`, `sum_take_increments` — over a monotone function none is negative, and
  the first of them come to no more than all.
-/

namespace Increments

variable {α β : Type*}

section Sums

variable [AddMonoid α] [AddCommGroup β]

/-- What `f` grows by over each of the parts, from `a` on. -/
def increments (f : α → β) : α → List α → List β
  | _, [] => []
  | a, part :: parts => (f (a + part) - f a) :: increments f (a + part) parts

variable (f : α → β) (a : α) (parts : List α)

@[simp] theorem increments_nil : increments f a [] = [] := rfl

@[simp] theorem increments_cons (part : α) :
    increments f a (part :: parts) = (f (a + part) - f a) :: increments f (a + part) parts := rfl

/-- **The increments telescope**: what they come to depends on where they begin and end, and not on
the steps between. -/
theorem sum_increments : (increments f a parts).sum = f (a + parts.sum) - f a := by
  induction parts generalizing a with
  | nil => simp
  | cons part parts ih =>
    rw [increments_cons, List.sum_cons, ih, List.sum_cons, ← add_assoc]
    abel

/-- The first increments are those of the first parts. -/
theorem take_increments (n : ℕ) :
    (increments f a parts).take n = increments f a (parts.take n) := by
  induction parts generalizing a n with
  | nil => simp
  | cons part parts ih =>
    cases n with
    | zero => rfl
    | succ n => rw [increments_cons, List.take_succ_cons, ih, List.take_succ_cons, increments_cons]

/-- What shrinks instead of growing is given the opposite. -/
theorem increments_neg : increments (-f) a parts = (increments f a parts).map Neg.neg := by
  induction parts generalizing a with
  | nil => rfl
  | cons part parts ih =>
    rw [increments_cons, increments_cons, List.map_cons, ih]
    simp only [Pi.neg_apply, neg_sub_neg, neg_sub]

end Sums

section Monotone

variable [AddCommMonoid α] [PartialOrder α] [IsOrderedAddMonoid α]
  [AddCommGroup β] [PartialOrder β] [IsOrderedAddMonoid β] {f : α → β} {a : α} {parts : List α}

/-- Over a monotone function no increment is negative. -/
theorem increments_nonneg (hf : Monotone f) (hparts : ∀ part ∈ parts, 0 ≤ part) :
    ∀ increment ∈ increments f a parts, 0 ≤ increment := by
  induction parts generalizing a with
  | nil => exact List.forall_mem_nil _
  | cons part parts ih =>
    obtain ⟨hpart, hparts⟩ := List.forall_mem_cons.mp hparts
    refine List.forall_mem_cons.mpr ⟨?_, ih hparts⟩
    exact sub_nonneg.mpr (hf (le_add_of_nonneg_right hpart))

/-- **The first increments come to no more than all of them.** -/
theorem sum_take_increments (hf : Monotone f) (hparts : ∀ part ∈ parts, 0 ≤ part) (n : ℕ) :
    0 ≤ ((increments f a parts).take n).sum ∧
      ((increments f a parts).take n).sum ≤ f (a + parts.sum) - f a := by
  have htake : ∀ part ∈ parts.take n, 0 ≤ part := fun part hpart =>
    hparts part (List.mem_of_mem_take hpart)
  have hsum : (parts.take n).sum ≤ parts.sum :=
    (List.take_sublist n parts).sum_le_sum hparts
  rw [take_increments, sum_increments]
  refine ⟨sub_nonneg.mpr (hf ?_), sub_le_sub_right (hf ?_) _⟩
  · exact le_add_of_nonneg_right (List.sum_nonneg htake)
  · exact add_le_add_right hsum a

end Monotone

end Increments
