import GroceryErp.Accounting.Reports

/-!
# The accounts that the trial balance leaves out

The filters are asked of the rows of the outer join, where an account without lines has one row
with no entry in it.  Such an account keeps its row under every filter; an account that has
lines, and none that the filters keep, loses it.

## Main definitions

* `Books.Touches` — the account has a line.
* `CoversChart` — one row for each account of the chart, with zeros where nothing is kept.

## Main results

* `group_eq_none_iff` — when an account has no row.
* `trialBalance_coversChart_iff` — the trial balance has the whole chart when each account with
  lines has one that the filters keep.

## References

`backend/app/modules/accounting/service.py`.
-/

namespace GroceryErp

open Ledger Outcome Rows

variable {b : Books} {f : EntryFilter} {rows : List TrialBalanceRow}

/-- An entry of the books has a line of the account. -/
def Books.Touches (b : Books) (a : Account) : Prop :=
  ∃ e ∈ b.entries, ∃ l ∈ e.val.lines, l.account = a

/-- One row for each account of the chart, with zeros where no line of the account is kept. -/
structure CoversChart (b : Books) (f : EntryFilter) (rows : List TrialBalanceRow) : Prop where
  once : ∀ r ∈ systemAccounts, (rows.map TrialBalanceRow.accountCode).count r.account.code = 1
  sums : ∀ r ∈ systemAccounts, r.kept b f ∈ rows
  zeros : ∀ r ∈ systemAccounts, (∀ l ∈ keptLines b f, l.account ≠ r.account) → r.total 0 0 ∈ rows

theorem mem_keptLines {l : JournalLine} :
    l ∈ keptLines b f ↔ ∃ e ∈ b.entries, f.Keeps e.val ∧ l ∈ e.val.lines := by
  simp [keptLines, and_assoc]

/-! ### The rows of the join -/

/-- Where lines are joined, each row of the join is a line with its entry. -/
theorem mem_joined_some {a : Account} {el : BookEntry × JournalLine} :
    some el ∈ b.joined a
      ↔ ∃ e ∈ b.entries, ∃ l ∈ e.val.lines, l.account = a ∧ el = (e.val, l) := by
  have hpairs : el ∈ (b.entries.flatMap fun e =>
      (e.val.lines.filter (·.account = a)).map fun l => (e.val, l))
      ↔ ∃ e ∈ b.entries, ∃ l ∈ e.val.lines, l.account = a ∧ el = (e.val, l) := by
    simp [and_assoc, eq_comm]
  rw [← hpairs, Books.joined]
  split
  · next hnone => simp [hnone]
  · simp

/-- The row with no entry is there where the account has no lines. -/
theorem mem_joined_none {a : Account} : none ∈ b.joined a ↔ ¬b.Touches a := by
  unfold Books.joined Books.Touches
  split
  · next hnone =>
    simp only [List.mem_singleton, true_iff]
    rintro ⟨e, he, l, hl, ha⟩
    have hpair : (e.val, l) ∈ b.entries.flatMap fun e =>
        (e.val.lines.filter (·.account = a)).map fun l => (e.val, l) := by
      simp only [List.mem_flatMap, List.mem_map, List.mem_filter, decide_eq_true_eq]
      exact ⟨e, he, l, ⟨hl, ha⟩, rfl⟩
    rw [hnone] at hpair
    exact List.not_mem_nil hpair
  · next hsome =>
    simp only [List.mem_map, reduceCtorEq, and_false, exists_false, false_iff, not_not]
    obtain ⟨el, hel⟩ := List.exists_mem_of_ne_nil _ hsome
    simp only [List.mem_flatMap, List.mem_map, List.mem_filter, decide_eq_true_eq] at hel
    obtain ⟨e, he, l, ⟨hl, ha⟩, -⟩ := hel
    exact ⟨e, he, l, hl, ha⟩

/-- **An account has no row when it has lines and none of them is kept.** -/
theorem group_eq_none_iff (b : Books) (f : EntryFilter) (r : AccountRow) :
    b.group f r = none ↔ b.Touches r.account ∧ ∀ l ∈ keptLines b f, l.account ≠ r.account := by
  have hgroup : b.group f r = none ↔ ∀ x ∈ b.joined r.account, ¬f.KeepsJoined x := by
    unfold Books.group
    split
    · next hnone => simpa [List.filter_eq_nil_iff] using hnone
    · next hsome =>
      simp only [reduceCtorEq, false_iff, not_forall, not_not]
      obtain ⟨x, hx⟩ := List.exists_mem_of_ne_nil _ hsome
      rw [List.mem_filter, decide_eq_true_iff] at hx
      exact ⟨x, hx.1, hx.2⟩
  rw [hgroup]
  constructor
  · intro hnot
    constructor
    -- an account with no line at all has the row of the outer join, which every filter keeps
    · by_contra htouches
      exact hnot none (mem_joined_none.mpr htouches) fun _ h => nomatch h
    · intro l hl ha
      obtain ⟨e, he, hkeeps, hle⟩ := mem_keptLines.mp hl
      refine hnot (some (e.val, l)) (mem_joined_some.mpr ⟨e, he, l, hle, ha, rfl⟩) ?_
      rintro _ ⟨⟩
      exact hkeeps
  · rintro ⟨htouches, hnone⟩ x hx hkeeps
    cases x with
    | none => exact mem_joined_none.mp hx htouches
    | some el =>
      obtain ⟨e, he, l, hl, ha, rfl⟩ := mem_joined_some.mp hx
      exact hnone l (mem_keptLines.mpr ⟨e, he, hkeeps _ rfl, hl⟩) ha

/-! ### The chart -/

/-- A row of an account with its code is its own. -/
theorem accountCode_group {r : AccountRow} {row : TrialBalanceRow} (h : b.group f r = some row) :
    row = r.kept b f := by
  rcases group_cases b f r with hsome | ⟨hnone, -⟩
  · exact (Option.some.inj (h.symm.trans hsome))
  · exact absurd (h.symm.trans hnone) (by simp)

/-- The rows are those of the accounts that have one. -/
theorem mem_trialBalance (h : trialBalance b f = .ok rows) {row : TrialBalanceRow} :
    row ∈ rows ↔ ∃ r ∈ systemAccounts, b.group f r = some row := by
  rw [trialBalance_ok h, List.mem_filterMap]
  simp only [List.mem_insertionSort]

/-- Where every account has its row, the chart is covered. -/
theorem coversChart_of_group (h : trialBalance b f = .ok rows)
    (hall : ∀ r ∈ systemAccounts, b.group f r ≠ none) : CoversChart b f rows := by
  have hmem : ∀ r ∈ systemAccounts, r.kept b f ∈ rows := by
    intro r hr
    rcases group_cases b f r with hsome | ⟨hnone, -⟩
    · exact (mem_trialBalance h).mpr ⟨r, hr, hsome⟩
    · exact absurd hnone (hall r hr)
  refine ⟨?_, hmem, ?_⟩
  · intro r hr
    have hcode : r.account.code ∈ rows.map TrialBalanceRow.accountCode :=
      List.mem_map.mpr ⟨r.kept b f, hmem r hr, rfl⟩
    exact List.count_eq_one_of_mem (nodup_accountCode h) hcode
  · intro r hr hnone
    have hzero : r.kept b f = r.total 0 0 := by
      unfold AccountRow.kept
      rw [sumWhere_eq_zero _ _ fun l hl ha => absurd ha (hnone l hl),
        sumWhere_eq_zero _ _ fun l hl ha => absurd ha (hnone l hl)]
    exact hzero ▸ hmem r hr

/-- The trial balance is refused only when both kinds of store filter are given. -/
theorem trialBalance_isOk_iff (b : Books) (f : EntryFilter) :
    (∃ rows, trialBalance b f = .ok rows) ↔ ¬(f.storeId ≠ none ∧ f.storeIds ≠ none) := by
  unfold trialBalance
  simp only [↓check_bind_eq_ok, pure_eq_ok, exists_and_left, exists_eq', and_true, raiseIf_eq_ok]

/-- **The trial balance has one row for each account of the chart, with zeros where no line is
kept, exactly when only one kind of store filter is given and each account that has lines has
one that the filters keep.** -/
theorem trialBalance_coversChart_iff (b : Books) (f : EntryFilter) :
    (∃ rows, trialBalance b f = .ok rows ∧ CoversChart b f rows)
      ↔ ¬(f.storeId ≠ none ∧ f.storeIds ≠ none) ∧
        ∀ r ∈ systemAccounts, b.Touches r.account → ∃ l ∈ keptLines b f, l.account = r.account := by
  rw [← trialBalance_isOk_iff b f]
  constructor
  · rintro ⟨rows, h, hcovers⟩
    refine ⟨⟨rows, h⟩, ?_⟩
    intro r hr htouches
    by_contra hnot
    have hnone : b.group f r = none :=
      (group_eq_none_iff b f r).mpr ⟨htouches, fun l hl ha => hnot ⟨l, hl, ha⟩⟩
    -- the row that is there belongs to an account of the same code, which is this one
    obtain ⟨r', hr', hrow⟩ := (mem_trialBalance h).mp (hcovers.sums r hr)
    have hcode : r.account.code = r'.account.code :=
      congrArg TrialBalanceRow.accountCode (accountCode_group hrow)
    have hsame : r = r' := List.inj_on_of_nodup_map nodup_codes hr hr' hcode
    rw [← hsame, hnone] at hrow
    exact nomatch hrow
  · rintro ⟨⟨rows, h⟩, hlines⟩
    refine ⟨rows, h, coversChart_of_group h ?_⟩
    intro r hr hnone
    obtain ⟨htouches, hkept⟩ := (group_eq_none_iff b f r).mp hnone
    obtain ⟨l, hl, ha⟩ := hlines r hr htouches
    exact hkept l hl ha

/-- The second store alone has paid wages: the trial balance of the first has no row for them,
and one with zeros for an account that nobody has used. -/
theorem trialBalance_drops_wages :
    (¬∃ rows, trialBalance twoStoresBooks { storeId := some 0 } = .ok rows ∧
      CoversChart twoStoresBooks { storeId := some 0 } rows) ∧
    ∃ rows, trialBalance twoStoresBooks { storeId := some 0 } = .ok rows ∧
      (∀ row ∈ rows, row.accountCode ≠ Account.wageSalaryExpense.code) ∧
      ∃ row ∈ rows, row.accountCode = Account.cardClearing.code ∧
        row.totalDebit = 0 ∧ row.totalCredit = 0 := by
  constructor
  · rintro ⟨rows, h, hcovers⟩
    have hone := hcovers.once ⟨.wageSalaryExpense, "Wage & Salary Expense", .expense, .debit⟩
      (by decide +kernel)
    have hrows := Except.ok.inj h
    rw [← hrows] at hone
    revert hone
    decide +kernel
  · refine ⟨_, rfl, ?_, ?_⟩
    · decide +kernel
    · decide +kernel

end GroceryErp
