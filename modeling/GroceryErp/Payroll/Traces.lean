import GroceryErp.Payroll.Lifecycle

/-!
# What a payroll is calculated from

The results of a period are those of its last calculation.  To say what they have counted,
a run keeps with every period the tables it was last calculated from.

## Main definitions

* `Traced`, `Traced.exec` — the tables with the sources of the periods, and one request.
* `Live` — a period that pays: it has results, and is neither cancelled nor reversed.
* `AttendanceSince` — how shifts change: a closed one keeps its hours.
* `TracedInOrder` — the results of a period are what its calculation comes to in its source.

## Main results

* `Traced.exec_period` — a period with results has been calculated by the request, or keeps
  what it had.
* `exec_attendanceSince`, `tracedInOrder_of_reaches` — what every run keeps.
-/

namespace GroceryErp

open Outcome Readings Rows Runs

variable {db₀ db db' : Db}

/-! ### Periods that pay -/

/-- A period in this status has the results of a calculation. -/
def PayrollPeriodStatus.HasResults (s : PayrollPeriodStatus) : Prop :=
  s = .calculated ∨ s = .approved ∨ s = .posted

instance (s : PayrollPeriodStatus) : Decidable s.HasResults :=
  inferInstanceAs (Decidable (_ ∨ _ ∨ _))

/-- The period has results, and is neither cancelled nor reversed. -/
def Live (db : Db) (payrollPeriodId : ℕ) (p : PayrollPeriod) : Prop :=
  p.status.HasResults ∧ ¬Reversed db payrollPeriodId

instance Live.decidable (db : Db) (payrollPeriodId : ℕ) (p : PayrollPeriod) :
    Decidable (Live db payrollPeriodId p) := inferInstanceAs (Decidable (_ ∧ _))

/-- The day is one of the period's, whose first and last day belong to it. -/
def PayrollPeriod.Has (p : PayrollPeriod) (d : Date) : Prop := p.periodStart ≤ d ∧ d ≤ p.periodEnd

instance (p : PayrollPeriod) (d : Date) : Decidable (p.Has d) := inferInstanceAs (Decidable (_ ∧ _))

/-- The results of a period as they were drafted. -/
def draftsOf (db : Db) (payrollPeriodId : ℕ) : List PayrollEmployeeResult :=
  (resultsOf db payrollPeriodId).map fun r => { r.val with status := .draft }

/-- The period is for the same store and days. -/
structure PayrollPeriod.SameRange (p p' : PayrollPeriod) : Prop where
  storeId : p'.storeId = p.storeId
  periodStart : p'.periodStart = p.periodStart
  periodEnd : p'.periodEnd = p.periodEnd

theorem PayrollPeriod.SameRange.refl (p : PayrollPeriod) : p.SameRange p := ⟨rfl, rfl, rfl⟩

theorem PayrollPeriod.SameRange.calculation {p p' : PayrollPeriod} (h : p.SameRange p') (i : ℕ) :
    calculation i p' = calculation i p :=
  calculation_congr h.storeId h.periodStart h.periodEnd

theorem PayrollPeriod.SameRange.has {p p' : PayrollPeriod} (h : p.SameRange p') (d : Date) :
    p'.Has d ↔ p.Has d := by
  unfold PayrollPeriod.Has
  rw [h.periodStart, h.periodEnd]

/-- A period that keeps its results, and is approved or posted at most. -/
structure SamePay (db db' : Db) (i : ℕ) (p p' : PayrollPeriod) : Prop where
  range : p.SameRange p'
  calculatedAt : p'.calculatedAt = p.calculatedAt
  status : p'.status = p.status ∨
    (p.status = .calculated ∧ p'.status = .approved ∧
      ∃ t ∈ p.calculatedAt, ¬StaleAttendance db p t) ∨
    (p.status = .approved ∧ p'.status = .posted)
  results : draftsOf db' i = draftsOf db i

theorem SamePay.of_results {i : ℕ} (p : PayrollPeriod)
    (h : db'.payroll.results = db.payroll.results) : SamePay db db' i p p := by
  refine ⟨.refl p, rfl, .inl rfl, ?_⟩
  unfold draftsOf resultsOf
  rw [h]

/-! ### Traces -/

/-- The tables, and those each period was last calculated from. -/
structure Traced where
  db : Db
  source : ℕ → Option Db := fun _ => none

/-- The sources after a request: a calculation that is not a replay has read the tables. -/
def WorkforceRequest.sources (db : Db) (source : ℕ → Option Db) : WorkforceRequest → ℕ → Option Db
  | .calculatePayrollPeriod req =>
    if req.Replayed db then source else Function.update source req.payrollPeriodId (some db)
  | _ => source

/-- One request, and for each result that it calculates the state it was calculated from. -/
def Traced.exec (r : WorkforceRequest) (t : Traced) : Result Traced := do
  let db ← r.exec t.db
  return { db, source := r.sources t.db t.source }

theorem Traced.exec_eq_ok {r : WorkforceRequest} {t t' : Traced} :
    Traced.exec r t = .ok t' ↔
      r.exec t.db = .ok t'.db ∧ t'.source = r.sources t.db t.source := by
  unfold Traced.exec
  simp only [bind_eq_ok, pure_eq_ok]
  constructor
  · rintro ⟨db, hdone, rfl⟩
    exact ⟨hdone, rfl⟩
  · rintro ⟨hdone, hsource⟩
    exact ⟨t'.db, hdone, by rw [← hsource]⟩

/-- Where the results of a period come from after a request. -/
inductive Traced.PeriodStep (r : WorkforceRequest) (t t' : Traced) (i : ℕ) (p' : Row PayrollPeriod) :
    Prop
  | calculated {req : CalculatePayrollPeriod} {p : Row PayrollPeriod}
      {drafts : List PayrollEmployeeResult} (request : r = .calculatePayrollPeriod req)
      (effective : ¬req.Replayed t.db) (of_period : req.payrollPeriodId = i)
      (evaluated : (calculation i p.val).eval t.db = .ok drafts)
      (done : Calculated t.db t'.db req p drafts) (source : t'.source i = some t.db) :
      PeriodStep r t t' i p'
  | kept {p : Row PayrollPeriod} (row : t.db.payroll.periods[i]? = some p)
      (had : p.val.status.HasResults) (same : SamePay t.db t'.db i p.val p'.val)
      (source : t'.source i = t.source i) : PeriodStep r t t' i p'

/-- The row of the period after its calculation. -/
theorem Calculated.row_after {req : CalculatePayrollPeriod} {period p' : Row PayrollPeriod}
    {drafts : List PayrollEmployeeResult} (done : Calculated db db' req period drafts)
    (hp' : db'.payroll.periods[req.payrollPeriodId]? = some p') :
    p'.val = req.calculated period.val (payrollTotals drafts) := by
  obtain ⟨period', results, hperiod, -, rfl⟩ := done.written
  have hrow := (getElem?_set_of_some done.row period' req.payrollPeriodId).symm.trans hp'
  rw [if_pos rfl] at hrow
  rw [← Option.some.inj hrow, hperiod]

theorem Calculated.hr {req : CalculatePayrollPeriod} {period : Row PayrollPeriod}
    {drafts : List PayrollEmployeeResult} (done : Calculated db db' req period drafts) :
    db'.hr = db.hr := by
  obtain ⟨period', results, -, -, rfl⟩ := done.written
  rfl

/-- The other periods keep their rows and results. -/
theorem Calculated.others {req : CalculatePayrollPeriod} {period : Row PayrollPeriod}
    {drafts : List PayrollEmployeeResult} (done : Calculated db db' req period drafts)
    (hof : ∀ r ∈ drafts, r.payrollPeriodId = req.payrollPeriodId) {i : ℕ}
    (hi : req.payrollPeriodId ≠ i) :
    db'.payroll.periods[i]? = db.payroll.periods[i]? ∧ draftsOf db' i = draftsOf db i := by
  constructor
  · obtain ⟨period', results, -, -, rfl⟩ := done.written
    exact (getElem?_set_of_some done.row period' i).trans (if_neg hi)
  · unfold GroceryErp.draftsOf
    rw [(resultsOf_calculated done hof i).1 (Ne.symm hi)]

theorem drafts_of_eval {i : ℕ} {p : PayrollPeriod} {drafts : List PayrollEmployeeResult}
    (heval : (calculation i p).eval db = .ok drafts) :
    ∀ r ∈ drafts, r.payrollPeriodId = i ∧ r.status = .draft := by
  intro r hr
  obtain ⟨policy, -, hpays⟩ := calculation_eq_ok heval
  obtain ⟨hperiod, hdraft, -⟩ := drafts_of_pays hpays r hr
  exact ⟨hperiod, hdraft⟩

/-- What is drafted is what is stored. -/
theorem Calculated.draftsOf {req : CalculatePayrollPeriod} {period : Row PayrollPeriod}
    {drafts : List PayrollEmployeeResult} (done : Calculated db db' req period drafts)
    (hall : ∀ r ∈ drafts, r.payrollPeriodId = req.payrollPeriodId ∧ r.status = .draft) :
    draftsOf db' req.payrollPeriodId = drafts.map PayrollEmployeeResult.stored := by
  have hafter := (resultsOf_calculated done (fun r hr => (hall r hr).1) req.payrollPeriodId).2 rfl
  have hdraft : ∀ r ∈ (resultsOf db' req.payrollPeriodId).map Subtype.val,
      ({ r with status := .draft } : PayrollEmployeeResult) = id r := by
    intro r hr
    rw [hafter] at hr
    obtain ⟨d, hd, rfl⟩ := List.mem_map.mp hr
    simp only [PayrollEmployeeResult.stored, (hall d hd).2, id]
  calc GroceryErp.draftsOf db' req.payrollPeriodId
      = ((resultsOf db' req.payrollPeriodId).map Subtype.val).map
          fun r => { r with status := .draft } := by rw [List.map_map]; rfl
    _ = ((resultsOf db' req.payrollPeriodId).map Subtype.val).map id := List.map_congr_left hdraft
    _ = drafts.map PayrollEmployeeResult.stored := by rw [List.map_id, hafter]

/-- An update of a period that does not come out with results keeps those of the others. -/
theorem Updated.samePay {i j : ℕ} {become : PayrollPeriod → PayrollPeriod → Prop}
    (h : Updated db db' j become) {p' : Row PayrollPeriod}
    (hbecome : ∀ p q, become p q → q.status.HasResults → p.status.HasResults ∧ p.SameRange q ∧
      q.calculatedAt = p.calculatedAt ∧ p.status = .calculated ∧ q.status = .approved ∧
      ∃ t ∈ p.calculatedAt, ¬StaleAttendance db p t)
    (hp' : db'.payroll.periods[i]? = some p') (hres : p'.val.status.HasResults) :
    ∃ p : Row PayrollPeriod, db.payroll.periods[i]? = some p ∧ p.val.status.HasResults ∧
      SamePay db db' i p.val p'.val := by
  rcases h with rfl | ⟨period, period', hrow, hupdate, rfl⟩
  · exact ⟨p', hp', hres, .of_results _ rfl⟩
  · replace hp' := (getElem?_set_of_some hrow period' i).symm.trans hp'
    split at hp'
    · next hji =>
      subst hji
      obtain rfl := Option.some.inj hp'
      obtain ⟨hhad, hrange, hat, hmoved⟩ := hbecome _ _ hupdate hres
      exact ⟨period, hrow, hhad, hrange, hat, .inr (.inl hmoved), rfl⟩
    · exact ⟨p', hp', hres, .of_results _ rfl⟩

theorem draftsOf_postedPayroll (i j : ℕ) (posted : Row PayrollPeriod) (entry : Row JournalEntry) :
    draftsOf (db.postedPayroll i posted entry) j = draftsOf db j := by
  unfold draftsOf resultsOf
  rw [Db.postedPayroll, filter_map_postedResult, List.map_map]
  apply List.map_congr_left
  intro r _
  simp [postedResult_val]

/-- **A period with results has been calculated by the request, or keeps what it had.** -/
theorem Traced.exec_period {r : WorkforceRequest} {t t' : Traced} (h : Traced.exec r t = .ok t')
    {i : ℕ} {p' : Row PayrollPeriod} (hp' : t'.db.payroll.periods[i]? = some p')
    (hres : p'.val.status.HasResults) : Traced.PeriodStep r t t' i p' := by
  obtain ⟨hdone, hsource⟩ := Traced.exec_eq_ok.mp h
  cases r with
  -- requests that leave payroll alone keep its periods and results
  | hireEmployee _ | changeEmploymentStatus _ | reassignEmployee _ | changeCompensation _
  | clockIn _ | clockOut _ | correctAttendance _ | configure _ =>
    have same := exec_aside hdone not_false
    exact .kept (same.periods ▸ hp') hres (.of_results _ same.results) (congrFun hsource i)
  | createPayrollPeriod req =>
    obtain ⟨period, hperiod, -, hdb⟩ := createPayrollPeriod_ok hdone
    rw [hdb] at hp'
    rcases getElem?_append_singleton_eq_some.mp hp' with hp' | ⟨-, rfl⟩
    · exact .kept hp' hres (.of_results _ (by rw [hdb])) (congrFun hsource i)
    · rw [hperiod] at hres
      rcases hres with hs | hs | hs <;> cases hs
  -- no status with results comes before these, except where the approval asks for one
  | openPayrollPeriod req =>
    obtain ⟨p, hp, hhad, hsame⟩ := (openPayrollPeriod_ok hdone).samePay (by
      rintro p q ⟨-, rfl⟩ hq
      rcases hq with hs | hs | hs <;> cases hs) hp' hres
    exact .kept hp hhad hsame (congrFun hsource i)
  | approvePayrollPeriod req =>
    obtain ⟨p, hp, hhad, hsame⟩ := (approvePayrollPeriod_ok hdone).samePay (by
      rintro p q ⟨hcalculated, hfresh, rfl⟩ -
      exact ⟨.inl hcalculated, ⟨rfl, rfl, rfl⟩, rfl, hcalculated, rfl, hfresh⟩) hp' hres
    exact .kept hp hhad hsame (congrFun hsource i)
  | cancelPayrollPeriod req =>
    obtain ⟨p, hp, hhad, hsame⟩ := (cancelPayrollPeriod_ok hdone).samePay (by
      rintro p q ⟨-, rfl⟩ hq
      rcases hq with hs | hs | hs <;> cases hs) hp' hres
    exact .kept hp hhad hsame (congrFun hsource i)
  | calculatePayrollPeriod req =>
    simp only [WorkforceRequest.sources] at hsource
    rcases calculatePayrollPeriod_ok hdone with ⟨hreplayed, hdb⟩ | ⟨hnew, period, drafts, heval, done⟩
    · rw [if_pos hreplayed] at hsource
      rw [hdb] at hp'
      exact .kept hp' hres (.of_results _ (by rw [hdb])) (congrFun hsource i)
    · rw [if_neg hnew] at hsource
      -- the period that is calculated, whose source is the state before; others keep their source
      by_cases hi : req.payrollPeriodId = i
      · subst hi
        refine .calculated rfl hnew rfl heval done ?_
        rw [hsource, Function.update_self]
      · obtain ⟨hrow, hresults⟩ := done.others (fun r hr => (drafts_of_eval heval r hr).1) hi
        refine .kept (hrow.symm.trans hp') hres ⟨.refl _, rfl, .inl rfl, hresults⟩ ?_
        rw [hsource, Function.update_of_ne (Ne.symm hi)]
  | postPayrollPeriod req =>
    rcases postPayrollPeriod_ok hdone with hdb | ⟨period, posted, entry, hrow, happroved, hposted,
      -, -, hdb⟩
    · rw [hdb] at hp'
      exact .kept hp' hres (.of_results _ (by rw [hdb])) (congrFun hsource i)
    -- a posting marks results, which counts in no draft
    · have hresults : draftsOf t'.db i = draftsOf t.db i := by
        rw [hdb]
        exact draftsOf_postedPayroll req.payrollPeriodId i posted entry
      rw [hdb] at hp'
      replace hp' := (getElem?_set_of_some hrow posted i).symm.trans hp'
      split at hp'
      · next hi =>
        subst hi
        obtain rfl := Option.some.inj hp'
        refine .kept hrow (.inr (.inl happroved)) ⟨?_, ?_, .inr (.inr ⟨happroved, ?_⟩), hresults⟩
          (congrFun hsource _)
        · rw [hposted]
          exact ⟨rfl, rfl, rfl⟩
        · rw [hposted]
          rfl
        · rw [hposted]
          rfl
      · exact .kept hp' hres ⟨.refl _, rfl, .inl rfl, hresults⟩ (congrFun hsource i)
  | reversePayrollPeriod req =>
    rcases reversePayrollPeriod_ok hdone with hdb | ⟨period, entry, -, -, -, -, -, hdb⟩
    · rw [hdb] at hp'
      exact .kept hp' hres (.of_results _ (by rw [hdb])) (congrFun hsource i)
    · rw [hdb] at hp'
      exact .kept hp' hres (.of_results _ (by rw [hdb])) (congrFun hsource i)

/-! ### Shifts -/

/-- What a shift may become: a closed one keeps its hours, or is voided for good. -/
structure AttendanceRecord.Becomes (r r' : AttendanceRecord) : Prop where
  employeeId : r'.employeeId = r.employeeId
  storeId : r'.storeId = r.storeId
  workDate : r'.workDate = r.workDate
  clockInAt : r'.clockInAt = r.clockInAt
  correctionOfId : r'.correctionOfId = r.correctionOfId
  closed : r.status = .closed → r'.status = .voided ∨ r' = r
  voided : r.status = .voided → r' = r

theorem AttendanceRecord.Becomes.refl (r : AttendanceRecord) : r.Becomes r :=
  ⟨rfl, rfl, rfl, rfl, rfl, fun _ => .inr rfl, fun _ => rfl⟩

theorem AttendanceRecord.Becomes.trans {r₁ r₂ r₃ : AttendanceRecord} (h : r₁.Becomes r₂)
    (h' : r₂.Becomes r₃) : r₁.Becomes r₃ where
  employeeId := h'.employeeId.trans h.employeeId
  storeId := h'.storeId.trans h.storeId
  workDate := h'.workDate.trans h.workDate
  clockInAt := h'.clockInAt.trans h.clockInAt
  correctionOfId := h'.correctionOfId.trans h.correctionOfId
  closed hclosed := by
    rcases h.closed hclosed with hvoided | rfl
    · exact .inl (h'.voided hvoided ▸ hvoided)
    · exact h'.closed hclosed
  voided hvoided := by
    obtain rfl := h.voided hvoided
    exact h'.voided hvoided

/-- The shifts of a run's start are those at its end, and may have been closed or voided. -/
def AttendanceSince (db db' : Db) : Prop :=
  ∀ (k : ℕ) (r : Row AttendanceRecord), db.hr.attendance[k]? = some r →
    ∃ r', db'.hr.attendance[k]? = some r' ∧ r.val.Becomes r'.val

theorem AttendanceSince.of_eq (h : db'.hr.attendance = db.hr.attendance) :
    AttendanceSince db db' := by
  intro k r hr
  exact ⟨r, by rw [h, hr], .refl r.val⟩

theorem AttendanceSince.trans {db₁ db₂ db₃ : Db} (h : AttendanceSince db₁ db₂)
    (h' : AttendanceSince db₂ db₃) : AttendanceSince db₁ db₃ := by
  intro k r hr
  obtain ⟨r', hr', hbecomes⟩ := h k r hr
  obtain ⟨r'', hr'', hbecomes'⟩ := h' k r' hr'
  exact ⟨r'', hr'', hbecomes.trans hbecomes'⟩

/-- A row that is not closed or voided yet is written over, and others follow. -/
theorem AttendanceSince.set {k : ℕ} {r r' : Row AttendanceRecord} {more : List (Row AttendanceRecord)}
    (hrow : db.hr.attendance[k]? = some r) (hbecomes : r.val.Becomes r'.val)
    (h : db'.hr.attendance = db.hr.attendance.set k r' ++ more) : AttendanceSince db db' := by
  intro j s hs
  have hlt : j < (db.hr.attendance.set k r').length := by
    rw [List.length_set]
    exact (List.getElem?_eq_some_iff.mp hs).1
  rw [h, List.getElem?_append_left hlt, getElem?_set_of_some hrow]
  by_cases hkj : k = j
  · subst hkj
    obtain rfl : r = s := Option.some.inj (hrow.symm.trans hs)
    exact ⟨r', if_pos rfl, hbecomes⟩
  · exact ⟨s, by rw [if_neg hkj, hs], .refl s.val⟩

/-- **A shift that is closed keeps its hours, whatever is asked for.** -/
theorem exec_attendanceSince {r : WorkforceRequest} (h : r.exec db = .ok db') :
    AttendanceSince db db' := by
  cases exec_attendanceStep h with
  | aside same => exact .of_eq same
  | clockedIn value =>
    intro k s hs
    exact ⟨s, getElem?_append_singleton_eq_some.mpr (.inl hs), .refl s.val⟩
  | clockedOut row opened value =>
    refine .set row ?_ (List.append_nil _).symm
    rw [value]
    exact ⟨rfl, rfl, rfl, rfl, rfl, by simp [opened], by simp [opened]⟩
  | corrected row live day voided_value value =>
    refine .set row ?_ rfl
    rw [voided_value]
    exact ⟨rfl, rfl, rfl, rfl, rfl, fun _ => .inl rfl, fun hdead => absurd hdead live⟩

/-! ### Runs -/

/-- **The results of a period are what its calculation comes to in its source.** -/
def TracedInOrder (t : Traced) : Prop :=
  ∀ (i : ℕ) (p : Row PayrollPeriod), t.db.payroll.periods[i]? = some p →
    p.val.status.HasResults → ∃ db₀ drafts, t.source i = some db₀ ∧
      (calculation i p.val).eval db₀ = .ok drafts ∧
      draftsOf t.db i = drafts.map PayrollEmployeeResult.stored ∧ AttendanceSince db₀ t.db

theorem TracedInOrder.exec {r : WorkforceRequest} {t t' : Traced} (h : TracedInOrder t)
    (hdone : Traced.exec r t = .ok t') : TracedInOrder t' := by
  intro i p' hp' hres
  have hshifts := exec_attendanceSince (Traced.exec_eq_ok.mp hdone).1
  cases Traced.exec_period hdone hp' hres with
  | @calculated req p drafts request effective of_period evaluated done source =>
    subst of_period
    have hrange : p.val.SameRange p'.val := by
      rw [done.row_after hp']
      exact ⟨rfl, rfl, rfl⟩
    exact ⟨t.db, drafts, source, by rw [hrange.calculation, evaluated],
      done.draftsOf (drafts_of_eval evaluated), hshifts⟩
  | kept row had same source =>
    obtain ⟨db₀, drafts, hsource, heval, hdrafts, hsince⟩ := h i _ row had
    exact ⟨db₀, drafts, source.trans hsource, by rw [same.range.calculation, heval],
      same.results.trans hdrafts, hsince.trans hshifts⟩

theorem BeforePayroll.tracedInOrder (h : BeforePayroll db) : TracedInOrder { db } := by
  intro i p hp _
  rw [h.periods] at hp
  cases hp

theorem tracedInOrder_of_reaches {ok : Traced → WorkforceRequest → Prop} {t : Traced}
    (start : BeforePayroll db₀) (run : Reaches Traced.exec ok { db := db₀ } t) : TracedInOrder t :=
  run.invariant start.tracedInOrder fun _ _ _ ht _ hdone => ht.exec hdone

end GroceryErp
