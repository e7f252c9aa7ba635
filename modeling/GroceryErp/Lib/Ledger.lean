import GroceryErp.Lib.Rows
import Mathlib.Algebra.Order.Group.Defs

/-!
# Double entry

Journal lines over any accounts and any ordered group of amounts, and what a list
of them adds to an account.

## Main definitions

* `Line`, `debit`, `credit` — a line, and its two forms.
* `debitIf`, `creditIf` — the line of an amount that is left out when not positive.
* `totalDebit`, `totalCredit`, `Balanced` — the two sides of an entry.
* `net a` — what the lines add to the account `a`, debits positive.
* `Line.OneSided` — exactly one side is strictly positive.
* `pair a b` — one amount debited to `a` and credited to `b`.
* `mirror` — every debit a credit and every credit a debit.

## Main results

* `totalDebit_debitIf`, `totalCredit_creditIf`, `net_creditIf` — a nonnegative amount left
  out when zero counts in full.
* `net_mirror`, `Balanced.mirror` — the mirror undoes.
-/

namespace Ledger

open Rows

/-- A journal line: one account, with an amount on one of its two sides. -/
structure Line (A M : Type) where
  account : A
  debit : M
  credit : M
  deriving DecidableEq

variable {A M : Type}

section Group

variable [AddCommGroup M]

/-- A line that debits an account, with nothing on the credit side. -/
def debit (a : A) (x : M) : Line A M := ⟨a, x, 0⟩

/-- A line that credits an account, with nothing on the debit side. -/
def credit (a : A) (x : M) : Line A M := ⟨a, 0, x⟩

/-- The sum of the debits of the lines of an entry. -/
def totalDebit (ls : List (Line A M)) : M := (ls.map Line.debit).sum

/-- The sum of the credits of the lines of an entry. -/
def totalCredit (ls : List (Line A M)) : M := (ls.map Line.credit).sum

/-- The debits equal the credits, as they must in every entry that is kept. -/
def Balanced (ls : List (Line A M)) : Prop := totalDebit ls = totalCredit ls

instance [DecidableEq M] (ls : List (Line A M)) : Decidable (Balanced ls) :=
  inferInstanceAs (Decidable (_ = _))

/-- What the lines add to an account, debits positive. -/
def net [DecidableEq A] (a : A) (ls : List (Line A M)) : M :=
  sumWhere (·.account = a) (fun l => l.debit - l.credit) ls

/-- Every debit a credit and every credit a debit. -/
def mirror (ls : List (Line A M)) : List (Line A M) :=
  ls.map fun l => ⟨l.account, l.credit, l.debit⟩

@[simp] theorem totalDebit_nil : totalDebit ([] : List (Line A M)) = 0 := rfl

@[simp] theorem totalCredit_nil : totalCredit ([] : List (Line A M)) = 0 := rfl

@[simp] theorem totalDebit_append (k l : List (Line A M)) :
    totalDebit (k ++ l) = totalDebit k + totalDebit l := by
  simp [totalDebit]

@[simp] theorem totalCredit_append (k l : List (Line A M)) :
    totalCredit (k ++ l) = totalCredit k + totalCredit l := by
  simp [totalCredit]

@[simp] theorem totalDebit_debit (a : A) (x : M) (l : List (Line A M)) :
    totalDebit (debit a x :: l) = x + totalDebit l := by
  simp [totalDebit, debit]

@[simp] theorem totalCredit_debit (a : A) (x : M) (l : List (Line A M)) :
    totalCredit (debit a x :: l) = totalCredit l := by
  simp [totalCredit, debit]

@[simp] theorem totalDebit_credit (a : A) (x : M) (l : List (Line A M)) :
    totalDebit (credit a x :: l) = totalDebit l := by
  simp [totalDebit, credit]

@[simp] theorem totalCredit_credit (a : A) (x : M) (l : List (Line A M)) :
    totalCredit (credit a x :: l) = x + totalCredit l := by
  simp [totalCredit, credit]

@[simp] theorem totalDebit_mirror (ls : List (Line A M)) :
    totalDebit (mirror ls) = totalCredit ls := by
  simp [totalDebit, totalCredit, mirror, Function.comp_def]

@[simp] theorem totalCredit_mirror (ls : List (Line A M)) :
    totalCredit (mirror ls) = totalDebit ls := by
  simp [totalDebit, totalCredit, mirror, Function.comp_def]

theorem Balanced.mirror {ls : List (Line A M)} (h : Balanced ls) : Balanced (mirror ls) := by
  simpa [Balanced] using h.symm

variable [DecidableEq A] (a : A)

@[simp] theorem net_nil : net a ([] : List (Line A M)) = 0 := rfl

@[simp] theorem net_append (k l : List (Line A M)) : net a (k ++ l) = net a k + net a l :=
  sumWhere_append ..

@[simp] theorem net_debit (b : A) (x : M) (l : List (Line A M)) :
    net a (debit b x :: l) = (if b = a then x else 0) + net a l := by
  simp [net, sumWhere_cons, debit]

@[simp] theorem net_credit (b : A) (x : M) (l : List (Line A M)) :
    net a (credit b x :: l) = (if b = a then -x else 0) + net a l := by
  simp [net, sumWhere_cons, credit]

/-- What the lines add to an account is what they debit to it less what they credit. -/
theorem net_eq_sub (ls : List (Line A M)) : net a ls
    = sumWhere (·.account = a) Line.debit ls - sumWhere (·.account = a) Line.credit ls :=
  sumWhere_sub ..

/-- What the lines add to some accounts, account by account. -/
theorem sum_net {as : List A} (hn : as.Nodup) (ls : List (Line A M)) :
    (as.map fun a => net a ls).sum
      = sumWhere (·.account ∈ as) (fun l => l.debit - l.credit) ls := by
  have hkeys : (as.map fun a => sumWhere (fun l : Line A M => l.account = a ∧ True)
        (fun l => l.debit - l.credit) ls).sum
      = sumWhere (fun l => l.account ∈ as ∧ True) (fun l => l.debit - l.credit) ls :=
    sum_map_sumWhere_key hn ls
  simp only [and_true] at hkeys
  exact hkeys

omit [DecidableEq A] in
/-- What is debited is what is credited and what the lines add. -/
theorem sum_debit_sub_credit (ls : List (Line A M)) :
    (ls.map fun l => l.debit - l.credit).sum = totalDebit ls - totalCredit ls := by
  induction ls with
  | nil => simp
  | cons l ls ih =>
    simp only [totalDebit, totalCredit, List.map_cons, List.sum_cons] at ih ⊢
    rw [ih]
    abel

/-- **What lines that balance add to the accounts they are on comes to nothing.** -/
theorem sum_net_of_balanced {as : List A} (hn : as.Nodup) {ls : List (Line A M)}
    (hall : ∀ l ∈ ls, l.account ∈ as) (hb : Balanced ls) : (as.map fun a => net a ls).sum = 0 := by
  rw [sum_net hn, sumWhere, List.filter_eq_self.mpr fun l hl => decide_eq_true (hall l hl),
    sum_debit_sub_credit, hb, sub_self]

/-- **The mirror of an entry takes back what the entry added.** -/
@[simp] theorem net_mirror (ls : List (Line A M)) : net a (mirror ls) = -net a ls := by
  induction ls with
  | nil => simp [mirror]
  | cons l ls ih =>
    simp only [net, mirror, List.map_cons, sumWhere_cons] at ih ⊢
    rw [ih]
    split <;> abel

end Group

section Order

variable [AddCommGroup M] [LinearOrder M]

/-- Exactly one side of a line is positive, and the other is zero. -/
def Line.OneSided (l : Line A M) : Prop := (0 < l.debit ∧ l.credit = 0) ∨ (0 < l.credit ∧ l.debit = 0)

instance (l : Line A M) : Decidable l.OneSided := inferInstanceAs (Decidable (_ ∨ _))

/-- The debit of an amount, left out when the amount is not positive. -/
def debitIf (a : A) (x : M) : List (Line A M) := if 0 < x then [debit a x] else []

/-- The credit of an amount, left out when the amount is not positive. -/
def creditIf (a : A) (x : M) : List (Line A M) := if 0 < x then [credit a x] else []

theorem oneSided_debit {a : A} {x : M} (hx : 0 < x) : (debit a x).OneSided := .inl ⟨hx, rfl⟩

theorem oneSided_credit {a : A} {x : M} (hx : 0 < x) : (credit a x).OneSided := .inr ⟨hx, rfl⟩

theorem oneSided_of_mem_debitIf {a : A} {x : M} {l : Line A M} (h : l ∈ debitIf a x) :
    l.OneSided := by
  unfold debitIf at h
  split at h
  · next hx => rw [List.mem_singleton] at h; exact h ▸ oneSided_debit hx
  · exact absurd h List.not_mem_nil

theorem oneSided_of_mem_creditIf {a : A} {x : M} {l : Line A M} (h : l ∈ creditIf a x) :
    l.OneSided := by
  unfold creditIf at h
  split at h
  · next hx => rw [List.mem_singleton] at h; exact h ▸ oneSided_credit hx
  · exact absurd h List.not_mem_nil

theorem OneSided.mirror {ls : List (Line A M)} (h : ∀ l ∈ ls, l.OneSided) :
    ∀ l ∈ mirror ls, l.OneSided := by
  intro l hl
  obtain ⟨k, hk, rfl⟩ := List.mem_map.mp hl
  exact (h k hk).symm

theorem account_of_mem_debitIf {a : A} {x : M} {l : Line A M} (h : l ∈ debitIf a x) :
    l.account = a := by
  unfold debitIf at h
  split at h
  · rw [List.mem_singleton] at h
    exact h ▸ rfl
  · exact absurd h List.not_mem_nil

theorem account_of_mem_creditIf {a : A} {x : M} {l : Line A M} (h : l ∈ creditIf a x) :
    l.account = a := by
  unfold creditIf at h
  split at h
  · rw [List.mem_singleton] at h
    exact h ▸ rfl
  · exact absurd h List.not_mem_nil

theorem totalDebit_debitIf {x : M} (a : A) (hx : 0 ≤ x) : totalDebit (debitIf a x) = x := by
  unfold debitIf
  split
  · simp
  · next h => simp [le_antisymm hx (not_lt.mp h)]

@[simp] theorem totalCredit_debitIf (a : A) (x : M) : totalCredit (debitIf a x) = 0 := by
  unfold debitIf
  split <;> simp

theorem totalCredit_creditIf {x : M} (a : A) (hx : 0 ≤ x) : totalCredit (creditIf a x) = x := by
  unfold creditIf
  split
  · simp
  · next h => simp [le_antisymm hx (not_lt.mp h)]

@[simp] theorem totalDebit_creditIf (a : A) (x : M) : totalDebit (creditIf a x) = 0 := by
  unfold creditIf
  split <;> simp

/-- A nonnegative amount left out when zero counts in full. -/
theorem net_creditIf [DecidableEq A] {x : M} (a b : A) (hx : 0 ≤ x) :
    net a (creditIf b x) = if b = a then -x else 0 := by
  unfold creditIf
  split
  · simp
  · next h =>
    obtain rfl : x = 0 := le_antisymm (not_lt.mp h) hx
    simp

/-! ### One amount on two accounts -/

/-- One amount debited to one account and credited to another, left out when not
positive. -/
def pair (a b : A) (x : M) : List (Line A M) := debitIf a x ++ creditIf b x

/-- An amount posted on two accounts balances. -/
theorem balanced_pair (a b : A) (x : M) : Balanced (pair a b x) := by
  unfold Balanced pair debitIf creditIf
  split <;> simp

theorem oneSided_of_mem_pair {a b : A} {x : M} {l : Line A M} (h : l ∈ pair a b x) :
    l.OneSided := by
  rcases List.mem_append.mp h with h | h
  · exact oneSided_of_mem_debitIf h
  · exact oneSided_of_mem_creditIf h

end Order

end Ledger
