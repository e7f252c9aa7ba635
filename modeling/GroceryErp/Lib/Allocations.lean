import Mathlib.Algebra.BigOperators.Group.List.Basic
import Mathlib.Algebra.Order.Group.Defs
import Mathlib.Algebra.Order.Group.Unbundled.Basic
import Mathlib.Order.MinMax

/-!
# Taking from sources in turn

A need is met from a list of sources, one after the other.  Each gives what is left of the
need, or all it has where that is less.

## Main definitions

* `takeInTurn` — what remains of the need, and what is taken of which source.

## Main results

* `taken_of_mem` — what is taken of a source is positive, and no more than it has.
* `rest_add_sum` — what remains and what is taken come to the need.
* `rest_nonneg` — no more is taken than is needed.
* `takeInTurn_closed` — a property that differences keep is kept.
-/

namespace Allocations

variable {ι α : Type*} [AddCommGroup α] [LinearOrder α]

/-- What remains of the need, and what is taken of which source. -/
def takeInTurn : α → List (ι × α) → α × List (ι × α)
  | need, [] => (need, [])
  | need, (source, available) :: sources =>
    if need ≤ 0 then (need, [])
    else if min need available ≤ 0 then takeInTurn need sources
    else
      let (rest, takes) := takeInTurn (need - min need available) sources
      (rest, (source, min need available) :: takes)

/-- **What is taken of a source is positive, and no more than it has.** -/
theorem taken_of_mem {need : α} {sources : List (ι × α)} :
    ∀ x ∈ (takeInTurn need sources).2,
      0 < x.2 ∧ ∃ available, (x.1, available) ∈ sources ∧ x.2 ≤ available := by
  induction sources generalizing need with
  | nil => simp [takeInTurn]
  | cons first sources ih =>
    obtain ⟨source, available⟩ := first
    -- what is taken of a later source
    have hlater : ∀ {need' : α}, ∀ x ∈ (takeInTurn need' sources).2, 0 < x.2 ∧
        ∃ a, (x.1, a) ∈ (source, available) :: sources ∧ x.2 ≤ a := by
      intro need' x hx
      obtain ⟨hpos, a, ha, hle⟩ := ih x hx
      exact ⟨hpos, a, List.mem_cons_of_mem _ ha, hle⟩
    unfold takeInTurn
    by_cases hneed : need ≤ 0
    · simp [hneed]
    · by_cases htaken : min need available ≤ 0
      · rw [if_neg hneed, if_pos htaken]
        exact hlater
      · rw [if_neg hneed, if_neg htaken]
        intro x hx
        rcases List.mem_cons.mp hx with rfl | hx
        · exact ⟨not_le.mp htaken, available, List.mem_cons_self, min_le_right _ _⟩
        · exact hlater x hx

/-- **What remains and what is taken come to the need.** -/
theorem rest_add_sum (need : α) (sources : List (ι × α)) :
    (takeInTurn need sources).1 + ((takeInTurn need sources).2.map Prod.snd).sum = need := by
  induction sources generalizing need with
  | nil => simp [takeInTurn]
  | cons first sources ih =>
    obtain ⟨source, available⟩ := first
    unfold takeInTurn
    by_cases hneed : need ≤ 0
    · simp [hneed]
    · by_cases htaken : min need available ≤ 0
      · rw [if_neg hneed, if_pos htaken]
        exact ih need
      · rw [if_neg hneed, if_neg htaken]
        have hrest := ih (need - min need available)
        simp only [List.map_cons, List.sum_cons]
        rw [add_left_comm, hrest, add_sub_cancel]

/-- **No more is taken than is needed.** -/
theorem rest_nonneg [IsOrderedAddMonoid α] {need : α} (h : 0 ≤ need) (sources : List (ι × α)) :
    0 ≤ (takeInTurn need sources).1 := by
  induction sources generalizing need with
  | nil => exact h
  | cons first sources ih =>
    obtain ⟨source, available⟩ := first
    unfold takeInTurn
    by_cases hneed : need ≤ 0
    · rwa [if_pos hneed]
    · by_cases htaken : min need available ≤ 0
      · rw [if_neg hneed, if_pos htaken]
        exact ih h
      · rw [if_neg hneed, if_neg htaken]
        exact ih (sub_nonneg.mpr (min_le_left _ _))

/-- **A property that differences keep is kept.** -/
theorem takeInTurn_closed {P : α → Prop} (hsub : ∀ {a b : α}, P a → P b → P (a - b)) {need : α}
    (hneed : P need) {sources : List (ι × α)} (hsources : ∀ x ∈ sources, P x.2) :
    P (takeInTurn need sources).1 ∧ ∀ x ∈ (takeInTurn need sources).2, P x.2 := by
  induction sources generalizing need with
  | nil => exact ⟨hneed, by simp [takeInTurn]⟩
  | cons first sources ih =>
    obtain ⟨source, available⟩ := first
    obtain ⟨havailable, hlater⟩ := List.forall_mem_cons.mp hsources
    have hmin : P (min need available) := by
      rcases min_choice need available with hleft | hright
      · rwa [hleft]
      · rwa [hright]
    unfold takeInTurn
    by_cases hzero : need ≤ 0
    · rw [if_pos hzero]
      exact ⟨hneed, List.forall_mem_nil _⟩
    · by_cases htaken : min need available ≤ 0
      · rw [if_neg hzero, if_pos htaken]
        exact ih hneed hlater
      · rw [if_neg hzero, if_neg htaken]
        obtain ⟨hrest, htakes⟩ := ih (hsub hneed hmin) hlater
        exact ⟨hrest, List.forall_mem_cons.mpr ⟨hmin, htakes⟩⟩

end Allocations
