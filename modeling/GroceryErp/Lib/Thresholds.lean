import Mathlib.Algebra.BigOperators.Group.List.Lemmas
import Mathlib.Algebra.Order.BigOperators.Group.List
import Mathlib.Tactic.Linarith

/-!
# Amounts up to a threshold

What exceeds a threshold depends on what it is compared with: parts that are each compared with
it have as much below it as the whole only where the whole is below it, or is one of the parts.

## Main results

* `min_add_min_eq_iff` — two parts against their sum.
* `sum_map_min_eq_iff` — any number of them.
* `sum_map_excess` — what is beyond a threshold is what is left of the sum.
-/

namespace Thresholds

variable {α K : Type*} [Field K] [LinearOrder K] [IsStrictOrderedRing K] {x y t : K}

/-- What is beyond a threshold is what is not below it. -/
theorem excess_eq (x t : K) : max 0 (x - t) = x - min x t := by
  rcases le_total x t with h | h
  · rw [min_eq_left h, sub_self, max_eq_left (sub_nonpos.mpr h)]
  · rw [min_eq_right h, max_eq_right (sub_nonneg.mpr h)]

/-- Parts that are each compared with the threshold have at least as much below it. -/
theorem min_add_le (hx : 0 ≤ x) (hy : 0 ≤ y) (ht : 0 < t) : min (x + y) t ≤ min x t + min y t := by
  rcases le_total x t with hxt | hxt
  · rcases le_total y t with hyt | hyt
    · rw [min_eq_left hxt, min_eq_left hyt]
      exact min_le_left _ _
    · rw [min_eq_right hyt]
      exact (min_le_right _ _).trans (by linarith [le_min hx ht.le])
  · rw [min_eq_right hxt]
    exact (min_le_right _ _).trans (by linarith [le_min hy ht.le])

/-- **Two parts have as much below the threshold as their sum just where that is below it, or is
one of the two.** -/
theorem min_add_min_eq_iff (hx : 0 ≤ x) (hy : 0 ≤ y) (ht : 0 < t) :
    min x t + min y t = min (x + y) t ↔ x + y ≤ t ∨ x = 0 ∨ y = 0 := by
  constructor
  · intro heq
    by_contra hnot
    push Not at hnot
    obtain ⟨hover, hx0, hy0⟩ := hnot
    have hxpos : 0 < x := lt_of_le_of_ne hx hx0.symm
    have hypos : 0 < y := lt_of_le_of_ne hy hy0.symm
    rw [min_eq_right hover.le] at heq
    -- either a part reaches the threshold, and the other is too much, or none does
    rcases le_total x t with hxt | hxt
    · rcases le_total y t with hyt | hyt
      · rw [min_eq_left hxt, min_eq_left hyt] at heq
        linarith
      · rw [min_eq_right hyt] at heq
        linarith [lt_min hxpos ht]
    · rw [min_eq_right hxt] at heq
      linarith [lt_min hypos ht]
  · rintro (hle | rfl | rfl)
    · rw [min_eq_left hle, min_eq_left (by linarith), min_eq_left (by linarith)]
    · rw [min_eq_left ht.le, zero_add, zero_add]
    · rw [min_eq_left ht.le, add_zero, add_zero]

variable {l : List α} {f : α → K}

theorem sum_map_excess (l : List α) (f : α → K) (t : K) :
    (l.map fun a => max 0 (f a - t)).sum = (l.map f).sum - (l.map fun a => min (f a) t).sum := by
  induction l with
  | nil => simp
  | cons a l ih =>
    simp only [List.map_cons, List.sum_cons]
    rw [ih, excess_eq]
    linarith

/-- The parts have at least as much below the threshold as their sum. -/
theorem min_sum_le (hf : ∀ a ∈ l, 0 ≤ f a) (ht : 0 < t) :
    min (l.map f).sum t ≤ (l.map fun a => min (f a) t).sum := by
  induction l with
  | nil => simp
  | cons a l ih =>
    obtain ⟨ha, hl⟩ := List.forall_mem_cons.mp hf
    have hsum : 0 ≤ (l.map f).sum := List.sum_nonneg (by simpa using hl)
    simp only [List.map_cons, List.sum_cons]
    exact (min_add_le ha hsum ht).trans (add_le_add_right (ih hl) _)

/-- **Parts have as much below the threshold as their sum just where that is below it, or is one
of the parts.** -/
theorem sum_map_min_eq_iff (hf : ∀ a ∈ l, 0 ≤ f a) (ht : 0 < t) :
    (l.map fun a => min (f a) t).sum = min (l.map f).sum t ↔
      (l.map f).sum ≤ t ∨ ∃ a ∈ l, f a = (l.map f).sum := by
  induction l with
  | nil => simp [ht.le]
  | cons a l ih =>
    obtain ⟨ha, hl⟩ := List.forall_mem_cons.mp hf
    have hsum : 0 ≤ (l.map f).sum := List.sum_nonneg (by simpa using hl)
    have hrest := min_sum_le hl ht
    have htwo := min_add_le ha hsum ht
    simp only [List.map_cons, List.sum_cons, List.exists_mem_cons_iff]
    -- nothing is gained, neither by the first part nor among the others
    have hboth : min (f a) t + (l.map fun b => min (f b) t).sum = min (f a + (l.map f).sum) t ↔
        (l.map fun b => min (f b) t).sum = min (l.map f).sum t ∧
          min (f a) t + min (l.map f).sum t = min (f a + (l.map f).sum) t := by
      constructor
      · intro heq
        constructor <;> linarith
      · rintro ⟨hrest, htwo⟩
        rw [hrest, htwo]
    rw [hboth, ih hl, min_add_min_eq_iff ha hsum ht]
    constructor
    · rintro ⟨hrest, hle | hzero | hzero⟩
      · exact .inl hle
      · rw [hzero, zero_add]
        rcases hrest with hle | ⟨b, hb, hwhole⟩
        · exact .inl hle
        · exact .inr (.inr ⟨b, hb, hwhole⟩)
      · exact .inr (.inl (by rw [hzero, add_zero]))
    · rintro (hle | hwhole | ⟨b, hb, hwhole⟩)
      · exact ⟨.inl (by linarith), .inl hle⟩
      · have hzero : (l.map f).sum = 0 := by linarith
        exact ⟨.inl (by rw [hzero]; exact ht.le), .inr (.inr hzero)⟩
      · have hle : f b ≤ (l.map f).sum :=
          List.single_le_sum (by simpa using hl) _ (List.mem_map_of_mem hb)
        have hzero : f a = 0 := by linarith
        exact ⟨.inr ⟨b, hb, by rw [hwhole, hzero, zero_add]⟩, .inr (.inl hzero)⟩

end Thresholds
