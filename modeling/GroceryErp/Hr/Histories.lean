import GroceryErp.Payroll.Requests
import Mathlib.Data.Int.SuccPred

/-!
# The histories of an employee

Whatever is requested, with whatever effective dates, the rows of an employee in each of
the three tables follow one another without a gap, and the last of them is open.  A change
is refused unless it takes effect after the open row began, so that it can neither reach
into a row that is closed nor leave the open one without a day.

## Main definitions

* `Kept` — a table in which the rows of everybody hired are unbroken.
* `HistoriesKept` — the three tables.
* `Timeline` — what the rows of an employee are to those who read them.

## Main results

* `Kept.hired`, `Kept.inserted`, `Kept.superseded` — the three writes.
* `exec_historiesKept` — what one request preserves.
* `histories_unbroken` — what any sequence of requests leaves.
* `statusOn_isSome_iff` — a history read as a function of the day has no hole.

## References

`backend/app/modules/hr/service.py`.
-/

namespace GroceryErp

open Effective Outcome Rows Runs

/-! ### One table -/

section Tables

variable {α : Type} {follows : α → α → Prop} {h h₁ h₂ : History ℕ α Date} {n k : ℕ}

/-- The rows of an employee are unbroken, and nobody who is not hired has any. -/
structure Kept (follows : α → α → Prop) (h : History ℕ α Date) (hired : ℕ) : Prop where
  owners : ∀ e ∈ h.rows, e.owner < hired
  unbroken : ∀ k, Unbroken follows (rowsOf h k)

theorem rowsOf_eq_nil (hkept : Kept follows h n) (hk : n ≤ k) : rowsOf h k = [] := by
  refine List.filter_eq_nil_iff.mpr fun e he => ?_
  have howner := hkept.owners e he
  simp only [decide_eq_true_eq]
  omega

theorem rowsOf_append_of_eq {e : Entry ℕ α Date} (hrows : h₂.rows = h₁.rows ++ [e])
    (howner : e.owner = k) : rowsOf h₂ k = rowsOf h₁ k ++ [e] := by
  simp [rowsOf, hrows, howner]

/-- An open row of an employee who has none yet. -/
theorem Kept.inserted {n' : ℕ} {value : α} {d : Date} (hkept : Kept follows h₁ n)
    (hle : n ≤ n') (hk : k < n') (hnone : rowsOf h₁ k = [])
    (hrows : h₂.rows = h₁.rows ++ [⟨k, value, d, none⟩]) : Kept follows h₂ n' := by
  constructor
  · intro e he
    rw [hrows, List.mem_append, List.mem_singleton] at he
    rcases he with he | rfl
    · exact (hkept.owners e he).trans_le hle
    · exact hk
  · intro k'
    by_cases hk' : k = k'
    · subst hk'
      rw [rowsOf_append_of_eq hrows rfl, hnone]
      exact unbroken_singleton rfl
    · rw [rowsOf_append_of_ne hrows hk']
      exact hkept.unbroken k'

/-- The first row of somebody who is hired. -/
theorem Kept.hired {value : α} {d : Date} (hkept : Kept follows h₁ n)
    (hrows : h₂.rows = h₁.rows ++ [⟨n, value, d, none⟩]) : Kept follows h₂ (n + 1) :=
  hkept.inserted n.le_succ n.lt_succ_self (rowsOf_eq_nil hkept le_rfl) hrows

variable {name₁ name₂ : Constraint} {employeeId : ℕ} {current : ℕ × Entry ℕ α Date} {value : α}
  {effectiveFrom : Date}

/-- **A change makes two rows of the open one.** -/
theorem rowsOf_superseded (hkept : Kept follows h n)
    (hcurrent : currentEntry h employeeId = .ok (some current))
    (hclose : closeEntry name₁ h current effectiveFrom = .ok h₁)
    (hinsert : insertEntry name₂ h₁ employeeId value effectiveFrom = .ok h₂) :
    ∃ before, rowsOf h employeeId = before ++ [current.2] ∧ rowsOf h₂ employeeId = before
      ++ [{ current.2 with effectiveTo := some (effectiveFrom - 1) },
        ⟨employeeId, value, effectiveFrom, none⟩] := by
  obtain ⟨hrow, howner, hopen⟩ := currentEntry_eq_some hcurrent
  obtain ⟨before, after, hrows, hset⟩ :=
    filter_eq_append_of_row (p := fun e => e.owner = employeeId) hrow (decide_eq_true howner)
  -- the open row is the last the employee has
  obtain rfl : after = [] := by
    have hunbroken := hkept.unbroken employeeId
    rw [rowsOf, hrows] at hunbroken
    exact hunbroken.after_open hopen
  have hclosed := hset { current.2 with effectiveTo := some (effectiveFrom - 1) }
    (decide_eq_true howner)
  refine ⟨before, hrows, ?_⟩
  rw [rowsOf_append_of_eq (flushHistory_eq_ok.mp hinsert) rfl, rowsOf,
    flushHistory_eq_ok.mp hclose, hclosed, List.append_assoc]
  rfl

/-- **What a change leaves is unbroken.** -/
theorem Kept.superseded (hkept : Kept follows h n)
    (hcurrent : currentEntry h employeeId = .ok (some current))
    (hafter : ¬effectiveFrom ≤ current.2.effectiveFrom)
    (hfollows : follows current.2.value value)
    (hclose : closeEntry name₁ h current effectiveFrom = .ok h₁)
    (hinsert : insertEntry name₂ h₁ employeeId value effectiveFrom = .ok h₂) :
    Kept follows h₂ n ∧ rowsOf h₂ employeeId ≠ [] := by
  obtain ⟨hrow, howner, hopen⟩ := currentEntry_eq_some hcurrent
  obtain ⟨before, hrows, hrows₂⟩ := rowsOf_superseded hkept hcurrent hclose hinsert
  refine ⟨⟨?_, ?_⟩, by simp [hrows₂]⟩
  · intro e he
    have hlt : current.2.owner < n := hkept.owners _ (mem_of_row hrow)
    rw [flushHistory_eq_ok.mp hinsert, flushHistory_eq_ok.mp hclose, List.mem_append,
      List.mem_singleton] at he
    rcases he with he | rfl
    · exact forall_mem_set (P := fun e => e.owner < n) hkept.owners hlt e he
    · exact howner ▸ hlt
  · intro k
    by_cases hk : k = employeeId
    · subst hk
      have hunbroken := hkept.unbroken k
      rw [hrows] at hunbroken
      rw [hrows₂]
      exact hunbroken.supersede (n := ⟨k, value, effectiveFrom, none⟩) (not_le.mp hafter)
        hfollows rfl
    · rw [supersede_rowsOf hcurrent hclose hinsert hk]
      exact hkept.unbroken k

/-- The open row of an employee is the last of a table that is kept. -/
theorem Kept.currentEntry (hkept : Kept follows h n) (k : ℕ) :
    ∃ found, GroceryErp.currentEntry h k = .ok found ∧ found.map Prod.snd = (rowsOf h k).getLast? := by
  let p : Entry ℕ α Date → Prop := fun e => e.owner = k ∧ e.effectiveTo = none
  have hrows : (rowsWhere p h.rows).map Prod.snd = (rowsOf h k).getLast?.toList := by
    rw [map_snd_rowsWhere, ← (hkept.unbroken k).filter_open, rowsOf, List.filter_filter]
    refine List.filter_congr fun e _ => ?_
    simp only [p, Bool.decide_and, Bool.and_comm]
  cases hlast : (rowsOf h k).getLast? with
  | none =>
    rw [hlast] at hrows
    have hnone := List.map_eq_nil_iff.mp hrows
    exact ⟨none, scalarOneOrNone_eq_none.mpr hnone, rfl⟩
  | some e =>
    rw [hlast] at hrows
    obtain ⟨current, hcurrent, hvalue⟩ := List.map_eq_singleton_iff.mp hrows
    exact ⟨some current, scalarOneOrNone_eq_some.mpr hcurrent, congrArg some hvalue⟩

/-- An employee whose rows are unbroken, and none of them open, has none. -/
theorem rowsOf_eq_nil_of_none (hkept : Kept follows h n)
    (hnone : currentEntry h employeeId = .ok none) : rowsOf h employeeId = [] := by
  obtain ⟨found, hfound, hlast⟩ := hkept.currentEntry employeeId
  obtain rfl : none = found := Except.ok.inj (hnone.symm.trans hfound)
  exact List.getLast?_eq_none_iff.mp hlast.symm

end Tables

/-- The rows of an employee, as the rest of the system reads them. -/
structure Timeline {κ α : Type} (follows : α → α → Prop) (rows : List (Entry κ α Date)) : Prop where
  /-- The rows are in order and have no day in common. -/
  ordered : rows.Pairwise fun e f => e.effectiveFrom < f.effectiveFrom ∧ e.Apart f
  /-- There is no day between one row and the next. -/
  gapless : rows.IsChain fun e f => e.effectiveTo = some (f.effectiveFrom - 1)
  /-- The last row is open. -/
  last_open : ∀ e ∈ rows.getLast?, e.effectiveTo = none
  /-- No other is. -/
  closed : ∀ e ∈ rows.dropLast, e.effectiveTo ≠ none
  /-- Each value may be followed by the next. -/
  follows : rows.IsChain fun e f => follows e.value f.value

theorem timeline_of_unbroken {κ α : Type} {follows : α → α → Prop} {rows : List (Entry κ α Date)}
    (h : Unbroken follows rows) : Timeline follows rows where
  ordered := h.pairwise
  gapless := h.linked.imp fun _ _ hlink => hlink.ends
  last_open := h.last_open
  closed := by
    intro e he
    have hne : rows ≠ [] := by
      rintro rfl
      exact List.not_mem_nil he
    rw [← List.dropLast_append_getLast hne] at h
    exact h.closed he
  follows := h.linked.imp fun _ _ hlink => hlink.follows

variable {db db' db₀ : Db}

/-! ### The three tables -/

/-- Everybody hired has a status and an assignment, and what the tables hold is unbroken. -/
structure HistoriesKept (db : Db) : Prop where
  statuses : Kept (fun s t => t ∈ s.validTransitions) db.hr.statuses db.hr.employees.length
  assignments : Kept (fun _ _ => True) db.hr.assignments db.hr.employees.length
  compensations : Kept (fun _ _ => True) db.hr.compensations db.hr.employees.length
  has_status : ∀ k < db.hr.employees.length, rowsOf db.hr.statuses k ≠ []
  has_assignment : ∀ k < db.hr.employees.length, rowsOf db.hr.assignments k ≠ []

/-- Nobody is hired yet, and the tables of employment and payroll are empty. -/
structure BeforeHiring (db : Db) : Prop where
  employees : db.hr.employees = []
  statuses : db.hr.statuses.rows = []
  assignments : db.hr.assignments.rows = []
  compensations : db.hr.compensations.rows = []

theorem BeforeHiring.historiesKept (h : BeforeHiring db) : HistoriesKept db where
  statuses := ⟨by simp [h.statuses], fun k => by simp [rowsOf, h.statuses, unbroken_nil]⟩
  assignments := ⟨by simp [h.assignments], fun k => by simp [rowsOf, h.assignments, unbroken_nil]⟩
  compensations :=
    ⟨by simp [h.compensations], fun k => by simp [rowsOf, h.compensations, unbroken_nil]⟩
  has_status := by simp [h.employees]
  has_assignment := by simp [h.employees]

/-- What is said of everybody's rows is said of the rows of the others, and of a change. -/
theorem forall_rowsOf_ne_nil {α : Type} {h h₂ : History ℕ α Date} {n employeeId : ℕ}
    (hne : ∀ k < n, rowsOf h k ≠ []) (hself : rowsOf h₂ employeeId ≠ [])
    (hothers : ∀ k ≠ employeeId, rowsOf h₂ k = rowsOf h k) : ∀ k < n, rowsOf h₂ k ≠ [] := by
  intro k hk
  by_cases hk' : k = employeeId
  · exact hk' ▸ hself
  · rw [hothers k hk']
    exact hne k hk

theorem hireEmployee_historiesKept {req : HireEmployee} (hkept : HistoriesKept db)
    (h : hireEmployee db req = .ok db') : HistoriesKept db' := by
  obtain ⟨statuses, assignments, hstatuses, hassignments, rfl⟩ := hireEmployee_ok h
  have hothers : ∀ k < db.hr.employees.length + 1, k ≠ db.hr.employees.length →
      k < db.hr.employees.length := by omega
  refine ⟨?_, ?_, ?_, ?_, ?_⟩ <;> simp only [List.length_append, List.length_singleton]
  · exact hkept.statuses.hired hstatuses
  · exact hkept.assignments.hired hassignments
  · exact ⟨fun e he => (hkept.compensations.owners e he).trans (Nat.lt_succ_self _),
      hkept.compensations.unbroken⟩
  · intro k hk
    by_cases hnew : k = db.hr.employees.length
    · simp [rowsOf_append_of_eq hstatuses hnew.symm]
    · rw [rowsOf_append_of_ne hstatuses (Ne.symm hnew)]
      exact hkept.has_status k (hothers k hk hnew)
  · intro k hk
    by_cases hnew : k = db.hr.employees.length
    · simp [rowsOf_append_of_eq hassignments hnew.symm]
    · rw [rowsOf_append_of_ne hassignments (Ne.symm hnew)]
      exact hkept.has_assignment k (hothers k hk hnew)

theorem changeEmploymentStatus_historiesKept {req : ChangeEmploymentStatus}
    (hkept : HistoriesKept db) (h : changeEmploymentStatus db req = .ok db') :
    HistoriesKept db' := by
  unfold changeEmploymentStatus at h
  simp only [getCurrentStatus, ↓check_bind_eq_ok, bind_eq_ok, orRaise_eq_ok, raiseIf_eq_ok,
    pure_eq_ok] at h
  obtain ⟨-, -, -, found, hfound, current, rfl, hvalid, hafter, closed, hclose, statuses, hinsert,
    rfl⟩ := h
  obtain ⟨hstatuses, hself⟩ :=
    hkept.statuses.superseded hfound hafter (not_not.mp hvalid) hclose hinsert
  exact { hkept with
    statuses := hstatuses
    has_status := forall_rowsOf_ne_nil hkept.has_status hself fun k hk =>
      supersede_rowsOf hfound hclose hinsert hk }

theorem reassignEmployee_historiesKept {req : ReassignEmployee} (hkept : HistoriesKept db)
    (h : reassignEmployee db req = .ok db') : HistoriesKept db' := by
  unfold reassignEmployee at h
  simp only [getCurrentAssignment, insertAssignment, ↓check_bind_eq_ok, bind_eq_ok, orRaise_eq_ok,
    raiseIf_eq_ok, pure_eq_ok] at h
  obtain ⟨-, -, found, hfound, current, rfl, -, -, -, hafter, closed, hclose, assignments,
    ⟨-, hinsert⟩, rfl⟩ := h
  obtain ⟨hassignments, hself⟩ :=
    hkept.assignments.superseded hfound hafter trivial hclose hinsert
  exact { hkept with
    assignments := hassignments
    has_assignment := forall_rowsOf_ne_nil hkept.has_assignment hself fun k hk =>
      supersede_rowsOf hfound hclose hinsert hk }

theorem changeCompensation_historiesKept {req : ChangeCompensation} (hkept : HistoriesKept db)
    (h : changeCompensation db req = .ok db') : HistoriesKept db' := by
  unfold changeCompensation at h
  simp only [lockEmployee, getCurrentCompensation, ↓check_bind_eq_ok, bind_eq_ok, orRaise_eq_ok,
    raiseIf_eq_ok, pure_eq_ok, onIntegrityError_eq_ok, flush_eq_ok] at h
  obtain ⟨employee, hemployee, -, found, hfound, hafter, closed, hclose, compensations,
    ⟨compensation, -, hinsert⟩, rfl⟩ := h
  refine { hkept with compensations := ?_ }
  cases found with
  | none =>
    -- the first compensation
    rw [closeCurrent, pure_eq_ok] at hclose
    subst hclose
    have hhired : req.employeeId < db.hr.employees.length :=
      (List.getElem?_eq_some_iff.mp hemployee).1
    exact hkept.compensations.inserted le_rfl hhired
      (rowsOf_eq_nil_of_none hkept.compensations hfound) (flushHistory_eq_ok.mp hinsert)
  | some current =>
    have hlater : ¬req.effectiveFrom ≤ current.2.effectiveFrom := by
      intro hle
      exact hafter ⟨current, rfl, hle⟩
    exact (hkept.compensations.superseded hfound hlater trivial hclose hinsert).1

/-! ### All requests -/

/-- **No request breaks a history**: those on employment append and close rows of one of the three,
and all others leave them alone. -/
theorem exec_historiesKept {r : WorkforceRequest} (hkept : HistoriesKept db)
    (h : r.exec db = .ok db') : HistoriesKept db' := by
  -- payroll writes none of the three histories
  by_cases hpay : r.IsPayroll
  · have hr := exec_hr hpay h
    constructor
    all_goals rw [hr]
    · exact hkept.statuses
    · exact hkept.assignments
    · exact hkept.compensations
    · exact hkept.has_status
    · exact hkept.has_assignment
  cases r with
  | hireEmployee req => exact hireEmployee_historiesKept hkept h
  | changeEmploymentStatus req => exact changeEmploymentStatus_historiesKept hkept h
  | reassignEmployee req => exact reassignEmployee_historiesKept hkept h
  | changeCompensation req => exact changeCompensation_historiesKept hkept h
  | clockIn req =>
    obtain ⟨workDate, record, -, rfl⟩ := clockIn_ok h
    exact { hkept with }
  | clockOut req =>
    obtain ⟨record, closed, -, -, -, rfl⟩ := clockOut_ok h
    exact { hkept with }
  | correctAttendance req =>
    obtain ⟨original, voided, record, workDate, -, -, -, -, -, rfl⟩ := correctAttendance_ok h
    exact { hkept with }
  | configure req =>
    cases h
    exact { hkept with }
  | createPayrollPeriod _ | openPayrollPeriod _ | calculatePayrollPeriod _
  | approvePayrollPeriod _ | cancelPayrollPeriod _ | postPayrollPeriod _
  | reversePayrollPeriod _ => exact absurd trivial hpay

theorem historiesKept_of_reaches (start : BeforeHiring db₀)
    (run : Reaches WorkforceRequest.exec (fun _ _ => True) db₀ db) : HistoriesKept db :=
  run.invariant start.historiesKept fun _ _ _ hkept _ hexec => exec_historiesKept hkept hexec

/-- **The rows of everybody hired are in order, have neither a day in common nor one between
them, and the last alone is open**, in each of the three tables; there is a status and an
assignment, and the statuses follow one another as the transitions allow. -/
theorem histories_unbroken (start : BeforeHiring db₀)
    (run : Reaches WorkforceRequest.exec (fun _ _ => True) db₀ db) (employeeId : ℕ)
    (hired : employeeId < db.hr.employees.length) :
    (rowsOf db.hr.statuses employeeId ≠ [] ∧
      Timeline (fun s t => t ∈ s.validTransitions) (rowsOf db.hr.statuses employeeId)) ∧
    (rowsOf db.hr.assignments employeeId ≠ [] ∧
      Timeline (fun _ _ => True) (rowsOf db.hr.assignments employeeId)) ∧
    Timeline (fun _ _ => True) (rowsOf db.hr.compensations employeeId) := by
  have hkept := historiesKept_of_reaches start run
  exact ⟨⟨hkept.has_status employeeId hired,
      timeline_of_unbroken (hkept.statuses.unbroken employeeId)⟩,
    ⟨hkept.has_assignment employeeId hired,
      timeline_of_unbroken (hkept.assignments.unbroken employeeId)⟩,
    timeline_of_unbroken (hkept.compensations.unbroken employeeId)⟩

/-- The first employee is hired, goes on leave on day 10, and comes back on day 15. -/
def backFromLeave : Db :=
  value (WorkforceRequest.execAll newShops
    [hireFor 0,
      .changeEmploymentStatus { employeeId := 0, newStatus := .onLeave, effectiveFrom := 10 },
      .changeEmploymentStatus { employeeId := 0, newStatus := .active, effectiveFrom := 15 }])
    (by decide +kernel)

theorem histories_unbroken_back_from_leave :
    (rowsOf backFromLeave.hr.statuses 0).map (fun e => (e.effectiveFrom, e.effectiveTo))
        = [(0, some 9), (10, some 14), (15, none)] ∧
      Timeline (fun s t => t ∈ s.validTransitions) (rowsOf backFromLeave.hr.statuses 0) := by
  have start : BeforeHiring newShops := ⟨rfl, rfl, rfl, rfl⟩
  have run : Reaches WorkforceRequest.exec (fun _ _ => True) newShops backFromLeave :=
    reaches_of_foldlM (eq_ok_value _ _)
  exact ⟨by decide +kernel, (histories_unbroken start run 0 (by decide +kernel)).1.2⟩

/-- **Everybody hired has a status on every day from some day on, and on none before.** -/
theorem statusOn_isSome_iff (start : BeforeHiring db₀)
    (run : Reaches WorkforceRequest.exec (fun _ _ => True) db₀ db) {employeeId : ℕ}
    (hired : employeeId < db.hr.employees.length) :
    ∃ first, ∀ d, (∃ s, statusOn db employeeId d = some s) ↔ first ≤ d := by
  have hkept := historiesKept_of_reaches start run
  obtain ⟨e, rows, hrows⟩ := List.exists_cons_of_ne_nil (hkept.has_status employeeId hired)
  have hunbroken := hkept.statuses.unbroken employeeId
  rw [hrows] at hunbroken
  refine ⟨e.effectiveFrom, fun d => ?_⟩
  rw [← hunbroken.exists_covers_iff, ← hrows]
  constructor
  · rintro ⟨s, hs⟩
    obtain ⟨f, hf, howner, hcovers, -⟩ := History.on_eq_some.mp hs
    exact ⟨f, List.mem_filter.mpr ⟨hf, decide_eq_true howner⟩, hcovers⟩
  · rintro ⟨f, hf, hcovers⟩
    obtain ⟨hf, howner⟩ := List.mem_filter.mp hf
    exact ⟨f.value, History.on_eq_some.mpr ⟨f, hf, of_decide_eq_true howner, hcovers, rfl⟩⟩

end GroceryErp
