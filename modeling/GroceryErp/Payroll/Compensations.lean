import GroceryErp.Accounting.Compensations
import GroceryErp.Payroll.Lifecycle

/-!
# Reversed payrolls

The reversal of a payroll sums the results of its period again.  They are final, so it takes
back what was posted.

## Main definitions

* `payrollTaken` — what a posted period takes.
* `PayrollMirrored` — the reversals mirror the postings.

## Main results

* `PayrollMirrored.step` — every request keeps that.
* `PayrollMirrored.outside`, `PayrollInOrder.outside` — so do requests of other modules.

## References

`backend/app/modules/payroll/service.py`, `accounting/service.py`.
-/

namespace GroceryErp

open Decimal Ledger Outcome Rows

/-- The store a period has been posted for, which is none until the posting.  A reversal leaves the
status of the period as it is. -/
def PayrollPeriod.postedFor (p : PayrollPeriod) : Option ℕ :=
  if p.status = .posted then some p.storeId else none

/-- What a posted period takes from an account of a store, by the totals its row has. -/
def payrollTaken (db : Db) : ℕ → ℕ → Account → ℚ :=
  takenOf db.payroll.periods (·.val.postedFor) fun _ p => payrollJournalLines p.val.totals false

/-- The entries of payrolls mirror each other: what is posted for a period is what it takes, and for
one that is reversed the same the other way as well. -/
def PayrollMirrored (db : Db) : Prop :=
  Mirrored db .payrollPosting .payrollReversal (payrollTaken db) (Reversed db)

/-- The kinds of entries that payroll posts, which no other request writes. -/
def PayrollKind (t : SourceType) : Prop := t = .payrollPosting ∨ t = .payrollReversal

section Steps

variable {db db' : Db}

theorem PayrollPeriod.postedFor_of_not {p : PayrollPeriod} (h : p.status ≠ .posted) :
    p.postedFor = none := if_neg h

theorem PayrollPeriod.postedFor_of_posted {p : PayrollPeriod} (h : p.status = .posted) :
    p.postedFor = some p.storeId := if_pos h

/-- Requests that leave the payroll tables alone. -/
theorem PayrollMirrored.outside (h : PayrollMirrored db) {kinds : SourceType → Prop}
    (hposts : Posts kinds db db') (hkinds : ∀ t, PayrollKind t → ¬kinds t)
    (hpayroll : db'.payroll = db.payroll) : PayrollMirrored db' := by
  refine Mirrored.kept h hposts (hkinds _ (.inl rfl)) (hkinds _ (.inr rfl)) (fun i s a => ?_)
    fun i => ?_
  · unfold payrollTaken
    rw [hpayroll]
  · unfold Reversed
    rw [hpayroll]

/-- The invariant of payroll is about its own tables and entries. -/
theorem PayrollInOrder.outside (h : PayrollInOrder db) {kinds : SourceType → Prop}
    (hposts : Posts kinds db db') (hkinds : ∀ t, PayrollKind t → ¬kinds t)
    (hpayroll : db'.payroll = db.payroll) : PayrollInOrder db' := by
  obtain ⟨new, hnew, hof⟩ := hposts.added
  -- the entries of payroll are those that were there
  have hkept : ∀ e ∈ db'.ledger.entries, PayrollKind e.val.sourceType → e ∈ db.ledger.entries := by
    intro e he hkind
    rw [hnew] at he
    rcases List.mem_append.mp he with he | he
    · exact he
    · exact absurd (hof e he) (hkinds _ hkind)
  constructor
  · rw [hpayroll]
    exact h.of_period
  · rw [hpayroll]
    exact h.adds
  · unfold totalsOf resultsOf
    rw [hpayroll]
    exact h.totals
  · unfold totalsOf resultsOf
    rw [hpayroll]
    exact h.balanced
  · exact hposts.sources h.sources
  -- a posting or reversal entry is of a period that says so, and neither has changed
  · intro e he htype
    unfold PayrollEntry
    rw [hpayroll]
    exact h.postings e (hkept e he (.inl htype)) htype
  · intro e he htype
    unfold PayrollEntry Reversed
    rw [hpayroll]
    exact h.reversals e (hkept e he (.inr htype)) htype
  · intro i p hp hposted
    rw [hpayroll] at hp
    obtain ⟨e, he, hsource⟩ := h.posted i p hp hposted
    exact ⟨e, hnew ▸ List.mem_append_left _ he, hsource⟩
  · rw [hpayroll]
    exact h.reversed
  · rw [hpayroll]
    exact h.reversed_once

/-- A period that is written, and neither was nor is posted, takes nothing. -/
theorem payrollTaken_set {i : ℕ} {period period' : Row PayrollPeriod}
    (hrow : db.payroll.periods[i]? = some period) (hold : period.val.status ≠ .posted)
    (hnew : period'.val.status ≠ .posted)
    (hset : db'.payroll.periods = db.payroll.periods.set i period') (j s : ℕ) (a : Account) :
    payrollTaken db' j s a = payrollTaken db j s a := by
  have hbefore := PayrollPeriod.postedFor_of_not hold
  unfold payrollTaken
  rw [hset]
  refine takenOf_rewritten hrow ?_ fun hposted => absurd hbefore hposted
  exact (PayrollPeriod.postedFor_of_not hnew).trans hbefore.symm

/-- **Every step keeps the entries of payrolls mirrored.** -/
theorem PayrollMirrored.step (h : PayrollMirrored db) (hdb : PayrollInOrder db)
    (hstep : PayrollStep db db') : PayrollMirrored db' ∧ Posts PayrollKind db db' := by
  cases hstep with
  | aside same =>
    have hentries : db'.ledger.entries = db.ledger.entries := by rw [same.ledger]
    refine ⟨Mirrored.congr h hentries (fun i s a => ?_) fun i => ?_, .of_eq hentries⟩
    · unfold payrollTaken
      rw [same.periods]
    · unfold Reversed
      rw [same.reversals]
  | @created period _ _ _ _ value fresh =>
    refine ⟨Mirrored.congr h rfl (fun i s a => ?_) fun i => Iff.rfl, .of_eq rfl⟩
    have hdraft : period.val.postedFor = none := by
      rw [value]
      rfl
    refine (takenOf_append fun _ _ _ _ => rfl).trans ?_
    rw [if_neg fun hboth => ?_, add_zero]
    · rfl
    · rw [hdraft] at hboth
      exact Option.some_ne_none s hboth.2.symm
  | moved row moves =>
    refine ⟨Mirrored.congr h rfl (payrollTaken_set row ?_ moves.not_posted rfl)
      fun i => Iff.rfl, .of_eq rfl⟩
    rcases moves.from_live with hs | hs | hs | hs <;> simp [hs]
  | @calculated _ req period drafts done drafted =>
    obtain ⟨period', results, hperiod, -, rfl⟩ := done.written
    refine ⟨Mirrored.congr h rfl (payrollTaken_set done.row ?_ ?_ rfl) fun i => Iff.rfl, .of_eq rfl⟩
    · rcases done.calculable with hs | hs <;> simp [hs]
    · rw [hperiod]
      exact nofun
  | @posted req period posted entry row approved value unposted entry_value =>
    have hentry : PostsEntry db (db.postedPayroll req.payrollPeriodId posted entry)
        period.val.storeId .payrollPosting req.payrollPeriodId
        (payrollJournalLines (totalsOf db req.payrollPeriodId) false) :=
      .entry entry unposted (by rw [entry_value]) (by rw [entrySource, entry_value])
        (by rw [entry_value]) rfl
    refine ⟨Mirrored.post h (by decide) hentry (fun i s a => ?_) ?_ fun i => Iff.rfl,
      hentry.posts.mono fun t ht => .inl ht⟩
    · have hbefore : period.val.postedFor = none :=
        PayrollPeriod.postedFor_of_not (by rw [approved]; decide)
      have hafter : posted.val.postedFor = some period.val.storeId := by
        rw [value]
        rfl
      have htotals : posted.val.totals = totalsOf db req.payrollPeriodId := by
        rw [value]
        exact hdb.totals _ _ row
      unfold payrollTaken
      refine (takenOf_set row hbefore hafter fun _ _ _ _ _ => rfl).trans ?_
      rw [htotals]
    · -- only posted periods are reversed
      rintro ⟨r, hr, hri⟩
      obtain ⟨p, hp, hposted⟩ := hdb.reversed r hr
      obtain rfl : period = p := Option.some.inj (row.symm.trans (hri ▸ hp))
      rw [approved] at hposted
      cases hposted
  | @reversed req period entry row posted unreversed unposted entry_value =>
    let reversal : PayrollReversal := ⟨req.payrollPeriodId, db.ledger.entries.length⟩
    have hentry : PostsEntry db { db with
          ledger.entries := db.ledger.entries ++ [entry]
          payroll.reversals := db.payroll.reversals ++ [reversal] }
        period.val.storeId .payrollReversal req.payrollPeriodId
        (payrollJournalLines (totalsOf db req.payrollPeriodId) true) :=
      .entry entry unposted (by rw [entry_value]) (by rw [entrySource, entry_value])
        (by rw [entry_value]) rfl
    refine ⟨Mirrored.compensate h (by decide) hentry (fun s a => ?_) (fun _ _ _ => rfl) fun i => ?_,
      hentry.posts.mono fun t ht => .inr ht⟩
    · -- the results add up to what was posted
      unfold payrollTaken
      rw [takenOf_of_row row, hdb.totals _ _ row, PayrollPeriod.postedFor_of_posted posted,
        payrollJournalLines_reverse, map_storedLine_mirror, net_mirror]
      simp only [Option.some.injEq]
      split_ifs
      · rfl
      · exact neg_zero.symm
    · unfold Reversed
      simp only [List.mem_append, List.mem_singleton, or_and_right, exists_or, exists_eq_left]
      rw [@eq_comm _ i]

/-- A request of the workforce modules writes their tables and the ledger. -/
theorem exec_frame {r : WorkforceRequest} (h : r.exec db = .ok db') :
    db' = { db with ledger := db'.ledger, hr := db'.hr, payroll := db'.payroll } := by
  cases r with
  | hireEmployee req =>
    obtain ⟨statuses, assignments, -, -, rfl⟩ := hireEmployee_ok h
    rfl
  | changeEmploymentStatus req =>
    obtain ⟨⟨statuses, rfl⟩, -⟩ := changeEmploymentStatus_ok h
    rfl
  | reassignEmployee req =>
    obtain ⟨⟨assignments, rfl⟩, -⟩ := reassignEmployee_ok h
    rfl
  | changeCompensation req =>
    obtain ⟨⟨compensations, rfl⟩, -⟩ := changeCompensation_ok h
    rfl
  | clockIn req =>
    obtain ⟨workDate, record, -, rfl⟩ := clockIn_ok h
    rfl
  | clockOut req =>
    obtain ⟨record, closed, -, -, -, rfl⟩ := clockOut_ok h
    rfl
  | correctAttendance req =>
    obtain ⟨original, voided, record, workDate, -, -, -, -, -, rfl⟩ := correctAttendance_ok h
    rfl
  | configure req =>
    cases h
    rfl
  -- payroll writes its own tables and the ledger
  | createPayrollPeriod _ | openPayrollPeriod _ | calculatePayrollPeriod _ | approvePayrollPeriod _
  | cancelPayrollPeriod _ | postPayrollPeriod _ | reversePayrollPeriod _ =>
    rw [exec_payroll_frame h trivial]

end Steps

end GroceryErp
