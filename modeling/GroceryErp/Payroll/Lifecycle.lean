import GroceryErp.Payroll.Requests

/-!
# The life of a payroll period

What holds of periods, results, reversals and entries after any run of requests, and what
a later request can no longer change.

## Main definitions

* `BeforePayroll` — tables in which no payroll has been run yet.
* `PayrollInOrder` — the invariant: totals, results and lines agree, and an entry is there
  for what has been posted or reversed, and built from it.
* `PayrollSince` — what a run leaves as it was.

## Main results

* `PayrollStep.inOrder`, `PayrollStep.since` — what one step keeps.
* `payroll_lifecycle_sound` — what every run keeps.
-/

namespace GroceryErp

open Decimal Effective Ledger Outcome Rows Runs

variable {db db' : Db}

/-! ### Totals -/

theorem onGrid_map_sum_of_mem {β : Type} {f : β → ℚ} {l : List β} (h : ∀ x ∈ l, OnGrid 2 (f x)) :
    OnGrid 2 (l.map f).sum := by
  apply onGrid_sum
  intro x hx
  obtain ⟨y, hy, rfl⟩ := List.mem_map.mp hx
  exact h y hy

theorem onGrid_withheldBy {employer : Bool} {lines : List PayrollDeductionLine}
    (h : ∀ l ∈ lines, OnGrid 2 l.amount) : OnGrid 2 (withheldBy employer lines) := by
  unfold withheldBy sumWhere
  apply onGrid_map_sum_of_mem
  intro l hl
  exact h l (List.mem_filter.mp hl).1

namespace PayrollEmployeeResult

variable {r : PayrollEmployeeResult}

theorem Adds.onGrid (h : r.Adds) : OnGrid 2 r.grossPay ∧ OnGrid 2 r.totalDeductions ∧
    OnGrid 2 r.totalEmployerContributions ∧ OnGrid 2 r.netPay := by
  have hgross : OnGrid 2 r.grossPay := h.gross ▸ onGrid_map_sum_of_mem h.earnings_onGrid
  have hdeductions : OnGrid 2 r.totalDeductions :=
    h.deductions ▸ onGrid_withheldBy h.deductions_onGrid
  refine ⟨hgross, hdeductions, h.contributions ▸ onGrid_withheldBy h.deductions_onGrid, ?_⟩
  rw [h.net]
  exact hgross.sub hdeductions

/-- What the columns keep of a result still adds up. -/
theorem Adds.stored (h : r.Adds) : r.stored.Adds := by
  obtain ⟨hgross, hdeductions, hcontributions, hnet⟩ := h.onGrid
  have hearnings : (r.earningLines.map PayrollEarningLine.stored).map PayrollEarningLine.amount
      = r.earningLines.map PayrollEarningLine.amount := by
    rw [List.map_map]
    apply List.map_congr_left
    intro l hl
    exact numeric_eq_self (h.earnings_onGrid l hl)
  have hlines : r.deductionLines.map PayrollDeductionLine.stored = r.deductionLines := by
    calc r.deductionLines.map PayrollDeductionLine.stored = r.deductionLines.map id := by
          apply List.map_congr_left
          intro l hl
          simp only [PayrollDeductionLine.stored, numeric_eq_self (h.deductions_onGrid l hl), id]
      _ = r.deductionLines := List.map_id _
  -- every amount of a result is rounded to cents before it is stored
  constructor
  · simp only [PayrollEmployeeResult.stored, numeric_eq_self hgross, hearnings]
    exact h.gross
  · simp only [PayrollEmployeeResult.stored, numeric_eq_self hdeductions, hlines]
    exact h.deductions
  · simp only [PayrollEmployeeResult.stored, numeric_eq_self hcontributions, hlines]
    exact h.contributions
  · simp only [PayrollEmployeeResult.stored, numeric_eq_self hnet, numeric_eq_self hgross,
      numeric_eq_self hdeductions]
    exact h.net
  · intro l hl
    obtain ⟨k, -, rfl⟩ := List.mem_map.mp hl
    exact onGrid_numeric 2 _
  · intro l hl
    obtain ⟨k, -, rfl⟩ := List.mem_map.mp hl
    exact onGrid_numeric 2 _

end PayrollEmployeeResult

/-- The sums over results that add up have two decimals. -/
theorem onGrid_payrollTotals {rs : List PayrollEmployeeResult} (h : ∀ r ∈ rs, r.Adds) :
    OnGrid 2 (payrollTotals rs).gross ∧ OnGrid 2 (payrollTotals rs).deductions ∧
      OnGrid 2 (payrollTotals rs).employerContributions ∧ OnGrid 2 (payrollTotals rs).netPay :=
  ⟨onGrid_map_sum_of_mem fun r hr => (h r hr).onGrid.1,
    onGrid_map_sum_of_mem fun r hr => (h r hr).onGrid.2.1,
    onGrid_map_sum_of_mem fun r hr => (h r hr).onGrid.2.2.1,
    onGrid_map_sum_of_mem fun r hr => (h r hr).onGrid.2.2.2⟩

/-- A change of the results that keeps their amounts keeps the sums. -/
theorem payrollTotals_map {rs : List PayrollEmployeeResult}
    {f : PayrollEmployeeResult → PayrollEmployeeResult}
    (h : ∀ r ∈ rs, (f r).grossPay = r.grossPay ∧ (f r).totalDeductions = r.totalDeductions ∧
      (f r).totalEmployerContributions = r.totalEmployerContributions ∧
      (f r).netPay = r.netPay) : payrollTotals (rs.map f) = payrollTotals rs := by
  have hcolumn : ∀ g : PayrollEmployeeResult → ℚ, (∀ r ∈ rs, g (f r) = g r) →
      ((rs.map f).map g).sum = (rs.map g).sum := by
    intro g hg
    rw [List.map_map]
    exact congrArg List.sum (List.map_congr_left hg)
  unfold payrollTotals
  rw [hcolumn _ fun r hr => (h r hr).1, hcolumn _ fun r hr => (h r hr).2.1,
    hcolumn _ fun r hr => (h r hr).2.2.1, hcolumn _ fun r hr => (h r hr).2.2.2]

theorem payrollTotals_stored {rs : List PayrollEmployeeResult} (h : ∀ r ∈ rs, r.Adds) :
    payrollTotals (rs.map PayrollEmployeeResult.stored) = payrollTotals rs := by
  apply payrollTotals_map
  intro r hr
  obtain ⟨hgross, hdeductions, hcontributions, hnet⟩ := (h r hr).onGrid
  exact ⟨numeric_eq_self hgross, numeric_eq_self hdeductions, numeric_eq_self hcontributions,
    numeric_eq_self hnet⟩

/-- The totals that a period stores, in the form in which they are added up and posted. -/
def PayrollPeriod.totals (p : PayrollPeriod) : PayrollTotals :=
  ⟨p.totalGross, p.totalDeductions, p.totalEmployerContributions, p.totalNetPay⟩

theorem PayrollPeriod.Moves.totals {p p' : PayrollPeriod} (h : p.Moves p') :
    p'.totals = p.totals := by
  unfold PayrollPeriod.totals
  rw [h.totalGross, h.totalDeductions, h.totalEmployerContributions, h.totalNetPay]

/-- The columns keep the sums of results that add up. -/
theorem totals_calculated {req : CalculatePayrollPeriod} {p : PayrollPeriod}
    {rs : List PayrollEmployeeResult} (h : ∀ r ∈ rs, r.Adds) :
    (req.calculated p (payrollTotals rs)).totals = payrollTotals rs := by
  obtain ⟨hgross, hdeductions, hcontributions, hnet⟩ := onGrid_payrollTotals h
  simp only [PayrollPeriod.totals, CalculatePayrollPeriod.calculated, numeric_eq_self hgross,
    numeric_eq_self hdeductions, numeric_eq_self hcontributions, numeric_eq_self hnet]

/-- The sums over stored results that add up are those of a sound entry. -/
theorem sound_payrollTotals {rs : List (Row PayrollEmployeeResult)} (h : ∀ r ∈ rs, r.val.Adds)
    (hnet : ∀ r ∈ rs, 0 ≤ r.val.netPay) : (payrollTotals (rs.map Subtype.val)).Sound := by
  have hnonneg : ∀ f : PayrollEmployeeResult → ℚ, (∀ r ∈ rs, 0 ≤ f r.val) →
      0 ≤ ((rs.map Subtype.val).map f).sum := by
    intro f hf
    apply List.sum_nonneg
    intro x hx
    obtain ⟨y, hy, rfl⟩ := List.mem_map.mp hx
    obtain ⟨r, hr, rfl⟩ := List.mem_map.mp hy
    exact hf r hr
  refine ⟨hnonneg _ fun r _ => r.property.head.gross_pay_nonneg,
    hnonneg _ fun r _ => r.property.head.total_deductions_nonneg,
    hnonneg _ fun r hr => ?_, hnonneg _ hnet, ?_⟩
  · rw [(h r hr).contributions]
    apply sumWhere_nonneg
    intro l hl _
    exact r.property.deduction_lines_nonneg l hl
  · clear hnonneg hnet
    induction rs with
    | nil => simp [payrollTotals]
    | cons r rs ih =>
      have hrest := ih fun r hr => h r (List.mem_cons_of_mem _ hr)
      have hr := (h r List.mem_cons_self).net
      simp only [payrollTotals, List.map_cons, List.sum_cons] at hrest ⊢
      rw [hrest, hr]
      ring

/-! ### The results of a period after a step -/

/-- A calculation replaces the results of its period, and of no other. -/
theorem resultsOf_calculated {req : CalculatePayrollPeriod} {period : Row PayrollPeriod}
    {drafts : List PayrollEmployeeResult} (done : Calculated db db' req period drafts)
    (hdrafts : ∀ r ∈ drafts, r.payrollPeriodId = req.payrollPeriodId) (i : ℕ) :
    (i ≠ req.payrollPeriodId → resultsOf db' i = resultsOf db i) ∧
      (i = req.payrollPeriodId → (resultsOf db' i).map Subtype.val
        = drafts.map PayrollEmployeeResult.stored) := by
  obtain ⟨period', results, -, hresults, rfl⟩ := done.written
  have hnew : ∀ r ∈ results, r.val.payrollPeriodId = req.payrollPeriodId := by
    intro r hr
    have hmem : r.val ∈ results.map Subtype.val := List.mem_map_of_mem hr
    rw [hresults] at hmem
    obtain ⟨d, hd, heq⟩ := List.mem_map.mp hmem
    rw [← heq]
    exact hdrafts d hd
  unfold resultsOf
  dsimp only
  rw [List.filter_append, List.filter_filter]
  constructor
  -- of another period nothing is inserted, and nothing was deleted
  · intro hi
    have hnone : results.filter (fun r => decide (r.val.payrollPeriodId = i)) = [] := by
      apply List.filter_eq_nil_iff.mpr
      intro r hr
      simp [hnew r hr, Ne.symm hi]
    rw [hnone, List.append_nil]
    apply List.filter_congr
    intro r _
    by_cases hri : r.val.payrollPeriodId = i <;> simp [hri, hi]
  -- of this period all is deleted, and the drafts take its place
  · rintro rfl
    have hnone : db.payroll.results.filter (fun r =>
        decide (r.val.payrollPeriodId = req.payrollPeriodId) &&
          decide (r.val.payrollPeriodId ≠ req.payrollPeriodId)) = [] := by
      apply List.filter_eq_nil_iff.mpr
      intro r _
      simp
    have hall : results.filter (fun r => decide (r.val.payrollPeriodId = req.payrollPeriodId))
        = results := by
      apply List.filter_eq_self.mpr
      intro r hr
      simp [hnew r hr]
    rw [hnone, hall, List.nil_append, hresults]

/-- What the posting of a period makes of a result, which is final where it is one of the period's.
-/
def postedResult (i : ℕ) (r : Row PayrollEmployeeResult) : Row PayrollEmployeeResult :=
  if r.val.payrollPeriodId = i then finalResult r else r

theorem postedResult_val (i : ℕ) (r : Row PayrollEmployeeResult) :
    (postedResult i r).val = { r.val with
      status := if r.val.payrollPeriodId = i then .final else r.val.status } := by
  unfold postedResult
  split <;> rfl

/-- The results of a period after a posting are those it had. -/
theorem filter_map_postedResult (i j : ℕ) (rs : List (Row PayrollEmployeeResult)) :
    (rs.map (postedResult j)).filter (fun r => r.val.payrollPeriodId = i)
      = (rs.filter fun r => r.val.payrollPeriodId = i).map (postedResult j) := by
  rw [List.filter_map]
  congr 1
  apply List.filter_congr
  intro r _
  simp [postedResult_val]

theorem payrollTotals_postedResult (j : ℕ) (rs : List (Row PayrollEmployeeResult)) :
    payrollTotals ((rs.map (postedResult j)).map Subtype.val)
      = payrollTotals (rs.map Subtype.val) := by
  have hmap : (rs.map (postedResult j)).map Subtype.val = (rs.map Subtype.val).map fun r =>
      { r with status := if r.payrollPeriodId = j then .final else r.status } := by
    rw [List.map_map, List.map_map]
    apply List.map_congr_left
    intro r _
    exact postedResult_val j r
  rw [hmap]
  apply payrollTotals_map
  intro r _
  exact ⟨rfl, rfl, rfl, rfl⟩

/-! ### What is kept -/

/-- What a run leaves as it was: the rows of posted and cancelled periods, the results of
the posted ones, and every entry and reversal. -/
structure PayrollSince (db db' : Db) : Prop where
  kept : ∀ (i : ℕ) (p : Row PayrollPeriod), db.payroll.periods[i]? = some p →
    p.val.status = .posted ∨ p.val.status = .cancelled → db'.payroll.periods[i]? = some p
  results_kept : ∀ (i : ℕ) (p : Row PayrollPeriod), db.payroll.periods[i]? = some p →
    p.val.status = .posted → resultsOf db' i = resultsOf db i
  entries : db.ledger.entries <+: db'.ledger.entries
  reversals : db.payroll.reversals <+: db'.payroll.reversals

theorem PayrollSince.refl (db : Db) : PayrollSince db db :=
  ⟨fun _ _ h _ => h, fun _ _ _ _ => rfl, List.prefix_rfl, List.prefix_rfl⟩

theorem PayrollSince.trans {db₁ db₂ db₃ : Db} (h : PayrollSince db₁ db₂)
    (h' : PayrollSince db₂ db₃) : PayrollSince db₁ db₃ where
  kept i p hp hend := h'.kept i p (h.kept i p hp hend) hend
  results_kept i p hp hposted :=
    (h'.results_kept i p (h.kept i p hp (.inl hposted)) hposted).trans (h.results_kept i p hp hposted)
  entries := h.entries.trans h'.entries
  reversals := h.reversals.trans h'.reversals

/-- A row that is neither posted nor cancelled is written over. -/
theorem kept_of_set {periods : List (Row PayrollPeriod)} {i j : ℕ}
    {period period' p : Row PayrollPeriod} (hrow : periods[i]? = some period)
    (hlive : period.val.status ≠ .posted ∧ period.val.status ≠ .cancelled)
    (hp : periods[j]? = some p) (hend : p.val.status = .posted ∨ p.val.status = .cancelled) :
    i ≠ j ∧ (periods.set i period')[j]? = some p := by
  have hij : i ≠ j := by
    rintro rfl
    obtain rfl : period = p := Option.some.inj (hrow.symm.trans hp)
    rcases hend with hend | hend
    · exact hlive.1 hend
    · exact hlive.2 hend
  rw [getElem?_set_of_some hrow, if_neg hij]
  exact ⟨hij, hp⟩

/-- **No step touches a posted or cancelled period, or the results of a posted one.** -/
theorem PayrollStep.since (h : PayrollStep db db') : PayrollSince db db' := by
  cases h with
  | aside same =>
    refine ⟨fun i p hp _ => same.periods ▸ hp, fun i p _ _ => ?_, ?_, ?_⟩
    · unfold resultsOf
      rw [same.results]
    · rw [same.ledger]
    · rw [same.reversals]
  | created value fresh =>
    refine ⟨fun i p hp _ => ?_, fun _ _ _ _ => rfl, List.prefix_rfl, List.prefix_rfl⟩
    exact getElem?_append_singleton_eq_some.mpr (.inl hp)
  | moved row moves =>
    refine ⟨fun i p hp hend => ?_, fun _ _ _ _ => rfl, List.prefix_rfl, List.prefix_rfl⟩
    refine (kept_of_set row ?_ hp hend).2
    -- only live periods move
    rcases moves.from_live with hs | hs | hs | hs <;> simp [hs]
  | @calculated _ req period drafts done drafted =>
    obtain ⟨policy, hpays⟩ := drafted
    -- a period that is calculated is open or calculated, so a posted one is another
    have hlive : period.val.status ≠ .posted ∧ period.val.status ≠ .cancelled := by
      rcases done.calculable with hs | hs <;> simp [hs]
    have hof : ∀ r ∈ drafts, r.payrollPeriodId = req.payrollPeriodId := by
      intro r hr
      obtain ⟨k, hk, rfl⟩ := List.getElem_of_mem hr
      exact ((List.forall₂_iff_get.mp hpays).2 k (hpays.length_eq ▸ hk) hk).of_period
    refine ⟨fun i p hp hend => ?_, fun i p hp hposted => ?_, ?_, ?_⟩
    · obtain ⟨period', results, -, -, rfl⟩ := done.written
      exact (kept_of_set done.row hlive hp hend).2
    · have hij := (@kept_of_set _ _ _ _ period _ done.row hlive hp (.inl hposted)).1
      exact (resultsOf_calculated done hof i).1 hij.symm
    · obtain ⟨period', results, -, -, rfl⟩ := done.written
      exact List.prefix_rfl
    · obtain ⟨period', results, -, -, rfl⟩ := done.written
      exact List.prefix_rfl
  | @posted req period posted entry row approved value unposted entry_value =>
    have hlive : period.val.status ≠ .posted ∧ period.val.status ≠ .cancelled := by simp [approved]
    refine ⟨fun i p hp hend => (kept_of_set row hlive hp hend).2, fun i p hp hposted => ?_,
      List.prefix_append _ _, List.prefix_rfl⟩
    have hij := (@kept_of_set _ _ _ _ posted _ row hlive hp (.inl hposted)).1
    -- the results of other periods are not marked as posted
    refine (filter_map_postedResult i req.payrollPeriodId db.payroll.results).trans ?_
    calc _ = (resultsOf db i).map id := by
          apply List.map_congr_left
          intro r hr
          have hri := of_decide_eq_true (List.mem_filter.mp hr).2
          exact if_neg (hri ▸ hij.symm)
      _ = resultsOf db i := List.map_id _
  | reversed row posted unreversed unposted entry_value =>
    exact ⟨fun _ _ hp _ => hp, fun _ _ _ _ => rfl, List.prefix_append _ _, List.prefix_append _ _⟩

/-! ### The invariant -/

/-- Tables in which no payroll has been run yet. -/
structure BeforePayroll (db : Db) : Prop where
  periods : db.payroll.periods = []
  results : db.payroll.results = []
  reversals : db.payroll.reversals = []
  sources : db.UniqueSources
  entries : ∀ e ∈ db.ledger.entries,
    e.val.sourceType ≠ .payrollPosting ∧ e.val.sourceType ≠ .payrollReversal

/-- The entry is the one of a posted period, or of its reversal. -/
def PayrollEntry (db : Db) (e : JournalEntry) (reverse : Bool) : Prop :=
  ∃ p, db.payroll.periods[e.sourceId]? = some p ∧ p.val.status = .posted ∧
    e.storeId = p.val.storeId ∧
    e.lines = (payrollJournalLines p.val.totals reverse).map storedLine

/-- **Totals, results, lines and entries agree.** -/
structure PayrollInOrder (db : Db) : Prop where
  /-- A result is final exactly where its period is posted. -/
  of_period : ∀ r ∈ db.payroll.results, ∃ p, db.payroll.periods[r.val.payrollPeriodId]? = some p ∧
    (r.val.status = .final ↔ p.val.status = .posted)
  /-- The totals of a result are those of its lines. -/
  adds : ∀ r ∈ db.payroll.results, r.val.Adds
  /-- The totals of a period are those of its results. -/
  totals : ∀ (i : ℕ) (p : Row PayrollPeriod), db.payroll.periods[i]? = some p →
    p.val.totals = totalsOf db i
  /-- The entry of a period balances where no net pay is negative. -/
  balanced : ∀ i, (∀ r ∈ resultsOf db i, 0 ≤ r.val.netPay) →
    Ledger.Balanced (payrollJournalLines (totalsOf db i) false)
  sources : db.UniqueSources
  postings : ∀ e ∈ db.ledger.entries, e.val.sourceType = .payrollPosting →
    PayrollEntry db e.val false
  reversals : ∀ e ∈ db.ledger.entries, e.val.sourceType = .payrollReversal →
    PayrollEntry db e.val true ∧ Reversed db e.val.sourceId
  posted : ∀ (i : ℕ) (p : Row PayrollPeriod), db.payroll.periods[i]? = some p →
    p.val.status = .posted → ∃ e ∈ db.ledger.entries, entrySource e = (.payrollPosting, i)
  reversed : ∀ r ∈ db.payroll.reversals,
    ∃ p, db.payroll.periods[r.payrollPeriodId]? = some p ∧ p.val.status = .posted
  reversed_once : (db.payroll.reversals.map PayrollReversal.payrollPeriodId).Nodup

theorem balanced_totalsOf (hadds : ∀ r ∈ db.payroll.results, r.val.Adds) (i : ℕ)
    (hnet : ∀ r ∈ resultsOf db i, 0 ≤ r.val.netPay) :
    Ledger.Balanced (payrollJournalLines (totalsOf db i) false) := by
  apply balanced_payrollJournalLines
  exact sound_payrollTotals (fun r hr => hadds r (List.mem_filter.mp hr).1) hnet

theorem BeforePayroll.inOrder (h : BeforePayroll db) : PayrollInOrder db where
  of_period := by simp [h.results]
  adds := by simp [h.results]
  totals := by simp [h.periods]
  balanced := balanced_totalsOf (by simp [h.results])
  sources := h.sources
  postings e he htype := absurd htype (h.entries e he).1
  reversals e he htype := absurd htype (h.entries e he).2
  posted := by simp [h.periods]
  reversed := by simp [h.reversals]
  reversed_once := by simp [h.reversals]

/-- The entry of a posted period stays that. -/
theorem PayrollEntry.since {e : JournalEntry} {reverse : Bool} (h : PayrollEntry db e reverse)
    (hsince : PayrollSince db db') : PayrollEntry db' e reverse := by
  obtain ⟨p, hp, hposted, hstore, hlines⟩ := h
  exact ⟨p, hsince.kept _ p hp (.inl hposted), hposted, hstore, hlines⟩

theorem Reversed.since {i : ℕ} (h : Reversed db i) (hsince : PayrollSince db db') :
    Reversed db' i := by
  obtain ⟨r, hr, hri⟩ := h
  exact ⟨r, hsince.reversals.subset hr, hri⟩

/-- A period that is only moved on has no results that change their status. -/
theorem PayrollInOrder.of_period_set (h : PayrollInOrder db) {i : ℕ}
    {period period' : Row PayrollPeriod} (hrow : db.payroll.periods[i]? = some period)
    (hold : period.val.status ≠ .posted) (hnew : period'.val.status ≠ .posted) :
    ∀ r ∈ db.payroll.results,
      ∃ p, (db.payroll.periods.set i period')[r.val.payrollPeriodId]? = some p ∧
        (r.val.status = .final ↔ p.val.status = .posted) := by
  intro r hr
  obtain ⟨p, hp, hstatus⟩ := h.of_period r hr
  by_cases hi : i = r.val.payrollPeriodId
  · subst hi
    obtain rfl : period = p := Option.some.inj (hrow.symm.trans hp)
    refine ⟨period', by rw [getElem?_set_of_some hrow, if_pos rfl], ?_⟩
    simp [hstatus, hold, hnew]
  · exact ⟨p, by rw [getElem?_set_of_some hrow, if_neg hi, hp], hstatus⟩

/-- A period that is posted after an update that does not post was so before. -/
theorem posted_of_set {periods : List (Row PayrollPeriod)} {i j : ℕ}
    {period period' p : Row PayrollPeriod} (hrow : periods[i]? = some period)
    (hnew : period'.val.status ≠ .posted) (hp : (periods.set i period')[j]? = some p)
    (hposted : p.val.status = .posted) : periods[j]? = some p := by
  rw [getElem?_set_of_some hrow] at hp
  split at hp
  · obtain rfl := Option.some.inj hp
    exact absurd hposted hnew
  · exact hp

theorem PayrollInOrder.aside (h : PayrollInOrder db) (same : SamePayroll db db') :
    PayrollInOrder db' := by
  have hof : ∀ i, resultsOf db' i = resultsOf db i := by
    intro i
    unfold resultsOf
    rw [same.results]
  have htotals : ∀ i, totalsOf db' i = totalsOf db i := by
    intro i
    unfold totalsOf
    rw [hof]
  have hreversed : ∀ i, Reversed db' i ↔ Reversed db i := by
    intro i
    unfold Reversed
    rw [same.reversals]
  constructor
  · rw [same.results, same.periods]
    exact h.of_period
  · rw [same.results]
    exact h.adds
  · simp only [same.periods, htotals]
    exact h.totals
  · simp only [hof, htotals]
    exact h.balanced
  · unfold Db.UniqueSources
    rw [same.ledger]
    exact h.sources
  · simp only [same.ledger, PayrollEntry, same.periods]
    exact h.postings
  · simp only [same.ledger, PayrollEntry, same.periods, hreversed]
    exact h.reversals
  · simp only [same.ledger, same.periods]
    exact h.posted
  · rw [same.reversals, same.periods]
    exact h.reversed
  · rw [same.reversals]
    exact h.reversed_once

theorem PayrollInOrder.created (h : PayrollInOrder db) {period : Row PayrollPeriod} {storeId : ℕ}
    {periodStart periodEnd payDate : Date}
    (value : period.val = { storeId, periodStart, periodEnd, payDate })
    (hsince : PayrollSince db { db with payroll.periods := db.payroll.periods ++ [period] }) :
    PayrollInOrder { db with payroll.periods := db.payroll.periods ++ [period] } where
  of_period r hr := by
    obtain ⟨p, hp, hstatus⟩ := h.of_period r hr
    exact ⟨p, getElem?_append_singleton_eq_some.mpr (.inl hp), hstatus⟩
  adds := h.adds
  totals i p hp := by
    rcases getElem?_append_singleton_eq_some.mp hp with hp | ⟨rfl, rfl⟩
    · exact h.totals i p hp
    · -- the period is new, so no result is its own
      have hnone : resultsOf db db.payroll.periods.length = [] := by
        apply List.filter_eq_nil_iff.mpr
        intro r hr
        obtain ⟨p, hp, -⟩ := h.of_period r hr
        have hlt := (List.getElem?_eq_some_iff.mp hp).1
        simp [hlt.ne]
      change period.val.totals = payrollTotals ((resultsOf db _).map Subtype.val)
      rw [hnone, value]
      rfl
  balanced := h.balanced
  sources := h.sources
  postings e he htype := (h.postings e he htype).since hsince
  reversals e he htype := ⟨(h.reversals e he htype).1.since hsince, (h.reversals e he htype).2⟩
  posted i p hp hposted := by
    rcases getElem?_append_singleton_eq_some.mp hp with hp | ⟨rfl, rfl⟩
    · exact h.posted i p hp hposted
    · rw [value] at hposted
      cases hposted
  reversed r hr := by
    obtain ⟨p, hp, hposted⟩ := h.reversed r hr
    exact ⟨p, getElem?_append_singleton_eq_some.mpr (.inl hp), hposted⟩
  reversed_once := h.reversed_once

theorem PayrollInOrder.moved (h : PayrollInOrder db) {i : ℕ} {period period' : Row PayrollPeriod}
    (row : db.payroll.periods[i]? = some period) (moves : period.val.Moves period'.val)
    (hsince : PayrollSince db (db.setPayrollPeriod i period')) :
    PayrollInOrder (db.setPayrollPeriod i period') where
  of_period := h.of_period_set row (by rcases moves.from_live with hs | hs | hs | hs <;> simp [hs])
    moves.not_posted
  adds := h.adds
  totals j p hp := by
    change (db.payroll.periods.set i period')[j]? = some p at hp
    rw [getElem?_set_of_some row] at hp
    split at hp
    · next hij =>
      subst hij
      obtain rfl := Option.some.inj hp
      exact moves.totals.trans (h.totals i period row)
    · exact h.totals j p hp
  balanced := h.balanced
  sources := h.sources
  postings e he htype := (h.postings e he htype).since hsince
  reversals e he htype := ⟨(h.reversals e he htype).1.since hsince, (h.reversals e he htype).2⟩
  posted j p hp hposted := h.posted j p (posted_of_set row moves.not_posted hp hposted) hposted
  reversed r hr := by
    obtain ⟨p, hp, hposted⟩ := h.reversed r hr
    exact ⟨p, hsince.kept _ p hp (.inl hposted), hposted⟩
  reversed_once := h.reversed_once

/-- The results that a calculation drafts are all of its period, and add up. -/
theorem drafts_of_pays {i : ℕ} {period : PayrollPeriod}
    {policy : Option OvertimePolicy} {ids : List ℕ} {drafts : List PayrollEmployeeResult}
    (hpays : List.Forall₂ (PaysEmployee db i period policy) ids drafts) :
    ∀ r ∈ drafts, r.payrollPeriodId = i ∧ r.status = .draft ∧ r.Adds := by
  intro r hr
  obtain ⟨k, hk, rfl⟩ := List.getElem_of_mem hr
  have hpay := (List.forall₂_iff_get.mp hpays).2 k (hpays.length_eq ▸ hk) hk
  exact ⟨hpay.of_period, hpay.draft, hpay.adds⟩

theorem PayrollInOrder.calculated (h : PayrollInOrder db) {req : CalculatePayrollPeriod}
    {period : Row PayrollPeriod} {drafts : List PayrollEmployeeResult}
    (done : Calculated db db' req period drafts)
    (hdrafts : ∀ r ∈ drafts, r.payrollPeriodId = req.payrollPeriodId ∧ r.status = .draft ∧ r.Adds)
    (hsince : PayrollSince db db') : PayrollInOrder db' := by
  have hafter := resultsOf_calculated done fun r hr => (hdrafts r hr).1
  have hold : period.val.status ≠ .posted := by
    rcases done.calculable with hs | hs <;> simp [hs]
  obtain ⟨period', results, hperiod, hresults, rfl⟩ := done.written
  have hnew : period'.val.status ≠ .posted := by
    rw [hperiod]
    exact nofun
  -- a result of this period is a draft as its columns keep it
  have hdraft : ∀ r ∈ results, ∃ d ∈ drafts, r.val = d.stored := by
    intro r hr
    have hmem : r.val ∈ results.map Subtype.val := List.mem_map_of_mem hr
    rw [hresults] at hmem
    obtain ⟨d, hd, heq⟩ := List.mem_map.mp hmem
    exact ⟨d, hd, heq.symm⟩
  have hadds : ∀ r ∈ db.payroll.results.filter (·.val.payrollPeriodId ≠ req.payrollPeriodId)
      ++ results, r.val.Adds := by
    intro r hr
    rcases List.mem_append.mp hr with hr | hr
    · exact h.adds r (List.mem_filter.mp hr).1
    · obtain ⟨d, hd, heq⟩ := hdraft r hr
      rw [heq]
      exact (hdrafts d hd).2.2.stored
  constructor
  · intro r hr
    rcases List.mem_append.mp hr with hr | hr
    · exact h.of_period_set done.row hold hnew r (List.mem_filter.mp hr).1
    · obtain ⟨d, hd, heq⟩ := hdraft r hr
      have hid : r.val.payrollPeriodId = req.payrollPeriodId := by
        rw [heq]
        exact (hdrafts d hd).1
      have hstatus : r.val.status = .draft := by
        rw [heq]
        exact (hdrafts d hd).2.1
      refine ⟨period', ?_, ?_⟩
      · rw [hid]
        exact (getElem?_set_of_some done.row period' _).trans (if_pos rfl)
      · simp [hstatus, hnew]
  · exact hadds
  -- the totals written are those of the drafts, and other periods keep theirs
  · intro i p hp
    by_cases hi : i = req.payrollPeriodId
    · subst hi
      have hrow := (getElem?_set_of_some done.row period' req.payrollPeriodId).symm.trans hp
      rw [if_pos rfl] at hrow
      obtain rfl := Option.some.inj hrow
      unfold totalsOf
      rw [(hafter req.payrollPeriodId).2 rfl, hperiod,
        payrollTotals_stored fun r hr => (hdrafts r hr).2.2]
      exact totals_calculated fun r hr => (hdrafts r hr).2.2
    · have hrow := (getElem?_set_of_some done.row period' i).symm.trans hp
      rw [if_neg (Ne.symm hi)] at hrow
      unfold totalsOf
      rw [(hafter i).1 hi]
      exact h.totals i p hrow
  · exact balanced_totalsOf hadds
  · exact h.sources
  -- the entries stay, and the periods they are of were posted before
  · intro e he htype
    exact (h.postings e he htype).since hsince
  · intro e he htype
    exact ⟨(h.reversals e he htype).1.since hsince, (h.reversals e he htype).2⟩
  · intro i p hp hposted
    exact h.posted i p (posted_of_set done.row hnew hp hposted) hposted
  · intro r hr
    obtain ⟨p, hp, hposted⟩ := h.reversed r hr
    exact ⟨p, hsince.kept _ p hp (.inl hposted), hposted⟩
  · exact h.reversed_once

/-- The tables once a period is posted: its row, its results and the entry that was added. -/
def Db.postedPayroll (db : Db) (i : ℕ) (posted : Row PayrollPeriod) (entry : Row JournalEntry) :
    Db :=
  { db with
    ledger.entries := db.ledger.entries ++ [entry]
    payroll.periods := db.payroll.periods.set i posted
    payroll.results := db.payroll.results.map (postedResult i) }

theorem totalsOf_postedPayroll (i j : ℕ) (posted : Row PayrollPeriod) (entry : Row JournalEntry) :
    totalsOf (db.postedPayroll i posted entry) j = totalsOf db j := by
  unfold totalsOf resultsOf
  rw [Db.postedPayroll, filter_map_postedResult, payrollTotals_postedResult]

theorem PayrollInOrder.posted_step (h : PayrollInOrder db) {req : PostPayrollPeriod}
    {period posted : Row PayrollPeriod} {entry : Row JournalEntry}
    (row : db.payroll.periods[req.payrollPeriodId]? = some period)
    (value : posted.val = req.posted period.val db.ledger.entries.length)
    (unposted : Unposted db .payrollPosting req.payrollPeriodId)
    (entry_value : entry.val = ⟨period.val.storeId, period.val.payDate, .payrollPosting,
      req.payrollPeriodId,
      (payrollJournalLines (totalsOf db req.payrollPeriodId) false).map storedLine⟩)
    (hsince : PayrollSince db (db.postedPayroll req.payrollPeriodId posted entry)) :
    PayrollInOrder (db.postedPayroll req.payrollPeriodId posted entry) := by
  have hrows : ∀ j, (db.payroll.periods.set req.payrollPeriodId posted)[j]?
      = if req.payrollPeriodId = j then some posted else db.payroll.periods[j]? :=
    getElem?_set_of_some row posted
  have hstatus : posted.val.status = .posted := by rw [value]; rfl
  have htotals : posted.val.totals = totalsOf db req.payrollPeriodId := by
    rw [value]
    exact h.totals _ _ row
  -- marking a result as posted changes none of its amounts
  have hadds : ∀ r ∈ db.payroll.results.map (postedResult req.payrollPeriodId), r.val.Adds := by
    intro r hr
    obtain ⟨k, hk, rfl⟩ := List.mem_map.mp hr
    have hkept := h.adds k hk
    rw [postedResult_val]
    exact ⟨hkept.gross, hkept.deductions, hkept.contributions, hkept.net, hkept.earnings_onGrid,
      hkept.deductions_onGrid⟩
  constructor
  · intro r hr
    obtain ⟨k, hk, rfl⟩ := List.mem_map.mp hr
    obtain ⟨p, hp, hfinal⟩ := h.of_period k hk
    rw [postedResult_val]
    -- the results of this period become final with it, and all others are as they were
    by_cases hi : req.payrollPeriodId = k.val.payrollPeriodId
    · refine ⟨posted, (hrows _).trans (if_pos hi), ?_⟩
      simp [hi, hstatus]
    · refine ⟨p, ((hrows _).trans (if_neg hi)).trans hp, ?_⟩
      simp [Ne.symm hi, hfinal]
  · exact hadds
  · intro j p hp
    rw [totalsOf_postedPayroll]
    replace hp := (hrows j).symm.trans hp
    split at hp
    · next hij =>
      subst hij
      obtain rfl := Option.some.inj hp
      exact htotals
    · exact h.totals j p hp
  · exact balanced_totalsOf hadds
  · apply Db.UniqueSources.append h.sources
    rw [entry_value]
    exact unposted
  -- the new entry is of the period that is posted with it
  · intro e he htype
    rcases List.mem_append.mp he with he | he
    · exact (h.postings e he htype).since hsince
    · rw [List.mem_singleton.mp he, entry_value]
      refine ⟨posted, (hrows _).trans (if_pos rfl), hstatus, ?_, ?_⟩
      · rw [value]
        rfl
      · rw [htotals]
  · intro e he htype
    rcases List.mem_append.mp he with he | he
    · exact ⟨(h.reversals e he htype).1.since hsince, (h.reversals e he htype).2⟩
    · rw [List.mem_singleton.mp he, entry_value] at htype
      cases htype
  · intro j p hp hposted
    replace hp := (hrows j).symm.trans hp
    split at hp
    · next hij =>
      refine ⟨entry, List.mem_append_right _ (List.mem_singleton_self entry), ?_⟩
      rw [entrySource, entry_value, hij]
    · obtain ⟨e, he, hsource⟩ := h.posted j p hp hposted
      exact ⟨e, List.mem_append_left _ he, hsource⟩
  · intro r hr
    obtain ⟨p, hp, hposted⟩ := h.reversed r hr
    exact ⟨p, hsince.kept _ p hp (.inl hposted), hposted⟩
  · exact h.reversed_once

theorem PayrollInOrder.reversed_step (h : PayrollInOrder db) {req : ReversePayrollPeriod}
    {period : Row PayrollPeriod} {entry : Row JournalEntry} {reversal : PayrollReversal}
    (row : db.payroll.periods[req.payrollPeriodId]? = some period)
    (posted : period.val.status = .posted) (unreversed : ¬Reversed db req.payrollPeriodId)
    (unposted : Unposted db .payrollReversal req.payrollPeriodId)
    (entry_value : entry.val = ⟨period.val.storeId, req.today, .payrollReversal,
      req.payrollPeriodId,
      (payrollJournalLines (totalsOf db req.payrollPeriodId) true).map storedLine⟩)
    (reversal_value : reversal.payrollPeriodId = req.payrollPeriodId)
    (hsince : PayrollSince db { db with
      ledger.entries := db.ledger.entries ++ [entry]
      payroll.reversals := db.payroll.reversals ++ [reversal] }) :
    PayrollInOrder { db with
      ledger.entries := db.ledger.entries ++ [entry]
      payroll.reversals := db.payroll.reversals ++ [reversal] } := by
  constructor
  · exact h.of_period
  · exact h.adds
  · exact h.totals
  · exact h.balanced
  -- the source of the entry is fresh, as no reversal of the period was posted
  · apply Db.UniqueSources.append h.sources
    rw [entry_value]
    exact unposted
  · intro e he htype
    rcases List.mem_append.mp he with he | he
    · exact (h.postings e he htype).since hsince
    · rw [List.mem_singleton.mp he, entry_value] at htype
      cases htype
  · intro e he htype
    rcases List.mem_append.mp he with he | he
    · exact ⟨(h.reversals e he htype).1.since hsince, (h.reversals e he htype).2.since hsince⟩
    · rw [List.mem_singleton.mp he, entry_value]
      refine ⟨⟨period, row, posted, rfl, ?_⟩, reversal, by simp, reversal_value⟩
      rw [h.totals _ _ row]
  · intro i p hp hposted
    obtain ⟨e, he, hsource⟩ := h.posted i p hp hposted
    exact ⟨e, List.mem_append_left _ he, hsource⟩
  · intro r hr
    rcases List.mem_append.mp hr with hr | hr
    · exact h.reversed r hr
    · rw [List.mem_singleton.mp hr, reversal_value]
      exact ⟨period, row, posted⟩
  -- no period has two reversals
  · rw [List.map_append, List.nodup_append', List.map_singleton, List.disjoint_singleton]
    refine ⟨h.reversed_once, List.nodup_singleton _, ?_⟩
    intro hmem
    obtain ⟨r, hr, hri⟩ := List.mem_map.mp hmem
    exact unreversed ⟨r, hr, hri.trans reversal_value⟩

/-- **Every step keeps the invariant**, with one lemma for each kind of step. -/
theorem PayrollStep.inOrder (h : PayrollInOrder db) (hstep : PayrollStep db db') :
    PayrollInOrder db' := by
  have hsince := hstep.since
  cases hstep with
  | aside same => exact h.aside same
  | created value fresh => exact h.created value hsince
  | moved row moves => exact h.moved row moves hsince
  | calculated done drafted =>
    obtain ⟨policy, hpays⟩ := drafted
    exact h.calculated done (drafts_of_pays hpays) hsince
  | posted row approved value unposted entry_value =>
    exact h.posted_step row value unposted entry_value hsince
  | reversed row posted unreversed unposted entry_value =>
    exact h.reversed_step row posted unreversed unposted entry_value rfl hsince

/-! ### Runs -/

variable {db₀ : Db} {ok : Db → WorkforceRequest → Prop}

theorem payrollInOrder_of_reaches (h : PayrollInOrder db₀)
    (run : Reaches WorkforceRequest.exec ok db₀ db) : PayrollInOrder db :=
  run.invariant h fun _ _ _ hdb _ hdone => (exec_payrollStep hdone).inOrder hdb

theorem payrollSince_of_reaches (run : Reaches WorkforceRequest.exec ok db₀ db) :
    PayrollSince db₀ db :=
  run.invariant (.refl db₀) fun _ _ _ hdb _ hdone => hdb.trans (exec_payrollStep hdone).since

/-- **The life of a payroll period**: after any run it has been posted once and reversed once
at most, its totals are those of its results and theirs those of their lines, its entry
balances; and no later run takes it out of posted or cancelled, or touches a final result. -/
theorem payroll_lifecycle_sound (start : BeforePayroll db₀)
    (run : Reaches WorkforceRequest.exec (fun _ _ => True) db₀ db) :
    PayrollInOrder db ∧
      (∀ i, (entriesFor db .payrollPosting i).length ≤ 1 ∧
        (entriesFor db .payrollReversal i).length ≤ 1 ∧
        (db.payroll.reversals.filter (·.payrollPeriodId = i)).length ≤ 1) ∧
      ∀ later, Reaches WorkforceRequest.exec (fun _ _ => True) db later →
        PayrollSince db later := by
  have hdb := payrollInOrder_of_reaches start.inOrder run
  refine ⟨hdb, fun i => ⟨hdb.sources.length_entriesFor_le _ i,
    hdb.sources.length_entriesFor_le _ i, ?_⟩, fun later => payrollSince_of_reaches⟩
  have hcount := List.nodup_iff_count_le_one.mp hdb.reversed_once i
  rw [List.count_eq_length_filter, List.filter_map, List.length_map] at hcount
  simpa only [Function.comp_def, beq_eq_decide] using hcount

theorem newShops_beforePayroll : BeforePayroll newShops where
  periods := rfl
  results := rfl
  reversals := rfl
  sources := List.nodup_nil
  entries := fun _ he => absurd he List.not_mem_nil

/-- A salary is paid for thirty days. -/
def salaryPaid : Db :=
  value (WorkforceRequest.execAll newShops ([hireFor 0, paySalary] ++ openedFor 0 0 1 30
    ++ [calculateAt 0 0, approveAt 0 0, postFor 0])) (by decide +kernel)

/-- The pay is taken back, on day forty, and the period is reversed for good. -/
def salaryReversed : Db :=
  value ((reverseFor 0).exec salaryPaid) (by decide +kernel)

theorem reaches_salaryPaid :
    Reaches WorkforceRequest.exec (fun _ _ => True) newShops salaryPaid :=
  reaches_of_foldlM (eq_ok_value _ _)

/-- The period that is paid stays as it is when the pay is taken back. -/
theorem payroll_lifecycle_sound_salary :
    salaryPaid.payroll.periods.map (·.val.totals) = [⟨3000, 0, 0, 3000⟩] ∧
      salaryReversed.payroll.periods[0]? = salaryPaid.payroll.periods[0]? := by
  obtain ⟨-, -, hlater⟩ := payroll_lifecycle_sound newShops_beforePayroll reaches_salaryPaid
  have hsince := hlater salaryReversed (.next .start trivial (eq_ok_value _ _))
  have hposted : salaryPaid.payroll.periods.map (fun p => (p.val.status, p.val.totals))
      = [(.posted, ⟨3000, 0, 0, 3000⟩)] := by decide +kernel
  obtain ⟨p, hp, hpair⟩ := List.map_eq_singleton_iff.mp hposted
  have hrow : salaryPaid.payroll.periods[0]? = some p := by rw [hp]; rfl
  constructor
  · have htotals : p.val.totals = ⟨3000, 0, 0, 3000⟩ := congrArg Prod.snd hpair
    rw [hp, List.map_singleton, htotals]
  · rw [hsince.kept 0 p hrow (.inl (congrArg Prod.fst hpair)), hrow]

end GroceryErp
