import Mathlib.Algebra.BigOperators.Group.List.Basic
import Mathlib.Order.Lattice

/-!
# Statements

A statement lists the events of a period, each with the balance after it.  It opens with what the
events before the period come to, and closes with the balance after its last event.

## Main definitions

* `running amount z es` — the events with the balances after them, from the balance `z`.
* `closing amount z es` — the balance after all of them.
* `IsBefore`, `IsAfter` — an event lies before the first day of a period, or after its last.
* `opening`, `inRange` — what the events before a period come to, and those of the period.

## Main results

* `closing_eq` — a statement closes with its opening balance and what its events come to.
* `running_append` — the lines of a statement, and of one that goes on from where it closes.
* `opening_next`, `inRange_split` — a period that begins on the day after another has ended.
-/

namespace Statements

variable {E D M : Type*}

/-! ### Running balances -/

section Running

variable [AddMonoid M] (amount : E → M)

/-- The events with the balance after each of them. -/
def running : M → List E → List (E × M)
  | _, [] => []
  | z, e :: es => (e, z + amount e) :: running (z + amount e) es

/-- The balance after the last of some events. -/
def closing : M → List E → M
  | z, [] => z
  | z, e :: es => closing (z + amount e) es

theorem closing_eq (z : M) (es : List E) : closing amount z es = z + (es.map amount).sum := by
  induction es generalizing z with
  | nil => simp [closing]
  | cons e es ih => simp [closing, ih, add_assoc]

/-- **The lines of a statement, and of one that goes on from where it closes.** -/
theorem running_append (z : M) (es fs : List E) :
    running amount z (es ++ fs)
      = running amount z es ++ running amount (closing amount z es) fs := by
  induction es generalizing z with
  | nil => rfl
  | cons e es ih => simp [running, closing, ih]

theorem closing_append (z : M) (es fs : List E) :
    closing amount z (es ++ fs) = closing amount (closing amount z es) fs := by
  simp [closing_eq, add_assoc]

end Running

/-! ### Periods -/

section Periods

variable [LinearOrder D] (date : E → D)

/-- The event lies before the first day of the period, which never happens where the period has
none. -/
def IsBefore (dateFrom : Option D) (e : E) : Prop := ∃ a ∈ dateFrom, date e < a

/-- The event lies after the last day of the period, which never happens where the period has none.
-/
def IsAfter (dateTo : Option D) (e : E) : Prop := ∃ b ∈ dateTo, b < date e

instance (dateFrom : Option D) (e : E) : Decidable (IsBefore date dateFrom e) :=
  inferInstanceAs (Decidable (∃ _ ∈ _, _))

instance (dateTo : Option D) (e : E) : Decidable (IsAfter date dateTo e) :=
  inferInstanceAs (Decidable (∃ _ ∈ _, _))

/-- The events of a period, whose bounds belong to it; a bound that is left out does not restrict.
-/
def inRange (dateFrom dateTo : Option D) (es : List E) : List E :=
  es.filter fun e => ¬IsBefore date dateFrom e ∧ ¬IsAfter date dateTo e

/-- What the events before a period come to, which is the balance it opens with; where there is no
first day nothing comes before. -/
def opening [AddMonoid M] (amount : E → M) (dateFrom : Option D) (es : List E) : M :=
  ((es.filter fun e => IsBefore date dateFrom e).map amount).sum

@[simp] theorem not_isBefore_none (e : E) : ¬IsBefore date none e := by simp [IsBefore]

@[simp] theorem not_isAfter_none (e : E) : ¬IsAfter date none e := by simp [IsAfter]

theorem inRange_none (es : List E) : inRange date none none es = es := by
  simp [inRange]

theorem opening_none [AddMonoid M] (amount : E → M) (es : List E) :
    opening date amount none es = 0 := by
  simp [opening]

/-- Where what holds of an event holds of all before it, the events of which it holds come first,
and the others after them. -/
theorem filter_append_filter_not {p : E → Bool} {es : List E}
    (hsorted : es.Pairwise fun e f => p f → p e) : es.filter p ++ es.filter (!p ·) = es := by
  induction es with
  | nil => rfl
  | cons e es ih =>
    obtain ⟨hfirst, hrest⟩ := List.pairwise_cons.mp hsorted
    by_cases he : p e
    · simp [he, ih hrest]
    · -- it does not hold of any later event either
      have hnone : es.filter p = [] := by
        rw [List.filter_eq_nil_iff]
        intro f hf hpf
        exact he (hfirst f hf hpf)
      have hall : es.filter (!p ·) = es := by
        rw [List.filter_eq_self]
        intro f hf
        simp [mt (hfirst f hf) he]
      simp [he, hnone, hall]

variable {date} {dateFrom dateTo : Option D} {lastDay nextDay : D} {es : List E}

theorem isAfter_some {e : E} : IsAfter date (some lastDay) e ↔ ¬date e ≤ lastDay := by
  simp [IsAfter]

theorem isBefore_some {e : E} (hnext : ∀ d : D, d < nextDay ↔ d ≤ lastDay) :
    IsBefore date (some nextDay) e ↔ date e ≤ lastDay := by
  simp [IsBefore, hnext]

/-- What lies before a period lies before every day after its first. -/
theorem IsBefore.le {e : E} (h : IsBefore date dateFrom e)
    (hnext : ∀ d : D, d < nextDay ↔ d ≤ lastDay) (hfrom : ∀ a ∈ dateFrom, a ≤ nextDay) :
    date e ≤ lastDay := by
  obtain ⟨a, ha, hlt⟩ := h
  exact (hnext _).mp (hlt.trans_le (hfrom a ha))

theorem IsAfter.not_le {e : E} (h : IsAfter date dateTo e) (hto : ∀ b ∈ dateTo, lastDay ≤ b) :
    ¬date e ≤ lastDay := by
  obtain ⟨b, hb, hlt⟩ := h
  exact fun hle => absurd (hle.trans (hto b hb)) (not_le_of_gt hlt)

/-- **A period, split after one of its days.** -/
theorem inRange_split (hsorted : es.Pairwise fun e f => date e ≤ date f)
    (hnext : ∀ d : D, d < nextDay ↔ d ≤ lastDay) (hfrom : ∀ a ∈ dateFrom, a ≤ nextDay)
    (hto : ∀ b ∈ dateTo, lastDay ≤ b) :
    inRange date dateFrom dateTo es
      = inRange date dateFrom (some lastDay) es ++ inRange date (some nextDay) dateTo es := by
  have hearlier : (inRange date dateFrom dateTo es).Pairwise fun e f =>
      decide (date f ≤ lastDay) → decide (date e ≤ lastDay) := by
    refine (hsorted.filter _).imp fun {e f} h hle => ?_
    exact decide_eq_true (h.trans (of_decide_eq_true hle))
  rw [← filter_append_filter_not hearlier]
  unfold inRange
  rw [List.filter_filter, List.filter_filter]
  congr 1
  · refine List.filter_congr fun e _ => ?_
    have hafter : IsAfter date dateTo e → ¬date e ≤ lastDay := fun h => h.not_le hto
    rw [Bool.eq_iff_iff, Bool.and_eq_true]
    simp only [decide_eq_true_iff, isAfter_some]
    tauto
  · refine List.filter_congr fun e _ => ?_
    have hbefore : IsBefore date dateFrom e → date e ≤ lastDay := fun h => h.le hnext hfrom
    rw [Bool.eq_iff_iff, Bool.and_eq_true, Bool.not_eq_true']
    simp only [decide_eq_true_iff, decide_eq_false_iff_not, isBefore_some hnext]
    tauto

/-- **The next period opens with what the events so far come to.** -/
theorem opening_next [AddCommMonoid M] (amount : E → M)
    (hsorted : es.Pairwise fun e f => date e ≤ date f)
    (hnext : ∀ d : D, d < nextDay ↔ d ≤ lastDay) (hfrom : ∀ a ∈ dateFrom, a ≤ nextDay) :
    opening date amount (some nextDay) es
      = closing amount (opening date amount dateFrom es)
        (inRange date dateFrom (some lastDay) es) := by
  have hearlier : (es.filter fun e => IsBefore date (some nextDay) e).Pairwise fun e f =>
      decide (IsBefore date dateFrom f) → decide (IsBefore date dateFrom e) := by
    refine (hsorted.filter _).imp fun {e f} h hbefore => decide_eq_true ?_
    obtain ⟨a, ha, hlt⟩ := of_decide_eq_true hbefore
    exact ⟨a, ha, h.trans_lt hlt⟩
  have hbefore : ∀ e : E, IsBefore date dateFrom e → date e ≤ lastDay :=
    fun e h => h.le hnext hfrom
  rw [closing_eq]
  unfold opening inRange
  rw [← filter_append_filter_not hearlier, List.map_append, List.sum_append, List.filter_filter,
    List.filter_filter]
  congr 3
  · refine List.filter_congr fun e _ => ?_
    have hle := hbefore e
    rw [Bool.eq_iff_iff, Bool.and_eq_true]
    simp only [decide_eq_true_iff, isBefore_some hnext]
    tauto
  · refine List.filter_congr fun e _ => ?_
    rw [Bool.eq_iff_iff, Bool.and_eq_true, Bool.not_eq_true']
    simp only [decide_eq_true_iff, decide_eq_false_iff_not, isBefore_some hnext, isAfter_some]
    tauto

end Periods

end Statements
