import GroceryErp.Schema

/-!
# Employment

Hiring, and the three histories an employee has: of the status, of the assignment to a
store, and of the compensation.  A change closes the open row on the day before it takes
effect and appends another.  The abstract view of a history is a function of the day,
which a change overrides from its day on.

## Main definitions

* `hireEmployee`, `changeEmploymentStatus`, `reassignEmployee`, `changeCompensation`.
* `statusOn`, `assignmentOn`, `payTypeOn` — what the histories say of an employee on a day.

## Main results

* `supersede_on` — what a change makes of a history.
* `changeEmploymentStatus_ok`, `reassignEmployee_ok`, `changeCompensation_ok` — a change
  touches the one history, from its day on.

## References

`backend/app/modules/hr/service.py`, `backend/app/modules/hr/models.py`.
-/

namespace GroceryErp

open Effective Outcome Rows

/-! ### The histories -/

section Histories

variable {α : Type}

/-- Write the rows of an effective-dated table: the database takes them when every range
has a day and no two rows of an owner overlap. -/
def flushHistory (name : Constraint) {κ : Type} [DecidableEq κ] (rows : List (Entry κ α Date)) :
    Result (History κ α Date) :=
  if h : Consistent rows then .ok ⟨rows, h⟩ else .error (.integrity name)

theorem flushHistory_eq_ok {name : Constraint} {κ : Type} [DecidableEq κ]
    {rows : List (Entry κ α Date)} {h : History κ α Date} :
    flushHistory name rows = .ok h ↔ h.rows = rows := by
  unfold flushHistory
  cases h with
  | mk rows' consistent =>
    split
    · simp [eq_comm]
    · next hnot =>
      simp only [reduceCtorEq, false_iff]
      rintro rfl
      exact hnot consistent

/-- The row of an employee without a last day; there is at most one. -/
def currentEntry (h : History ℕ α Date) (employeeId : ℕ) : Result (Option (ℕ × Entry ℕ α Date)) :=
  scalarOneOrNone (rowsWhere (fun e => e.owner = employeeId ∧ e.effectiveTo = none) h.rows)

/-- Close the open row on the day before the next begins. -/
def closeEntry (name : Constraint) (h : History ℕ α Date) (current : ℕ × Entry ℕ α Date)
    (effectiveFrom : Date) : Result (History ℕ α Date) :=
  flushHistory name
    (h.rows.set current.1 { current.2 with effectiveTo := some (effectiveFrom - 1) })

/-- The open row is closed on the day before the change, where there is one. -/
def closeCurrent (name : Constraint) (h : History ℕ α Date) (effectiveFrom : Date) :
    Option (ℕ × Entry ℕ α Date) → Result (History ℕ α Date)
  | some current => closeEntry name h current effectiveFrom
  | none => return h

/-- Insert an open row, which holds from its day on with no end. -/
def insertEntry (name : Constraint) (h : History ℕ α Date) (employeeId : ℕ) (value : α)
    (effectiveFrom : Date) : Result (History ℕ α Date) :=
  flushHistory name (h.rows ++ [⟨employeeId, value, effectiveFrom, none⟩])

variable {h h₁ h₂ : History ℕ α Date} {employeeId k : ℕ} {current : ℕ × Entry ℕ α Date}

theorem currentEntry_eq_some (hc : currentEntry h employeeId = .ok (some current)) :
    h.rows[current.1]? = some current.2 ∧ current.2.owner = employeeId ∧
      current.2.effectiveTo = none := by
  have hmem : current ∈ rowsWhere (fun e : Entry ℕ α Date => e.owner = employeeId ∧
      e.effectiveTo = none) h.rows := by
    rw [scalarOneOrNone_eq_some.mp hc]
    exact List.mem_singleton_self current
  exact mem_rowsWhere.mp hmem

/-- **A change overrides a history from its day on.** -/
theorem supersede_on {name₁ name₂ : Constraint} {value : α} {effectiveFrom d : Date}
    (hcurrent : currentEntry h employeeId = .ok (some current))
    (hafter : ¬effectiveFrom ≤ current.2.effectiveFrom)
    (hclose : closeEntry name₁ h current effectiveFrom = .ok h₁)
    (hinsert : insertEntry name₂ h₁ employeeId value effectiveFrom = .ok h₂) :
    h₂.on k d = if k = employeeId ∧ effectiveFrom ≤ d then some value else h.on k d := by
  obtain ⟨hrow, howner, hopen⟩ := currentEntry_eq_some hcurrent
  have hrows := flushHistory_eq_ok.mp hinsert
  rw [flushHistory_eq_ok.mp hclose] at hrows
  rw [← howner]
  exact History.on_supersede hrow hopen hrows (fun d => Int.le_sub_one_iff) rfl
    (not_le.mp hafter) howner.symm

/-- The rows of an employee in a history, in the order they were written. -/
def rowsOf (h : History ℕ α Date) (k : ℕ) : List (Entry ℕ α Date) := h.rows.filter (·.owner = k)

/-- A row of another employee is not among them. -/
theorem rowsOf_append_of_ne {n : Entry ℕ α Date} (hrows : h₂.rows = h₁.rows ++ [n])
    (hne : n.owner ≠ k) : rowsOf h₂ k = rowsOf h₁ k := by
  simp [rowsOf, hrows, hne]

/-- A change leaves the rows of the others alone. -/
theorem supersede_rowsOf {name₁ name₂ : Constraint} {value : α} {effectiveFrom : Date}
    (hcurrent : currentEntry h employeeId = .ok (some current))
    (hclose : closeEntry name₁ h current effectiveFrom = .ok h₁)
    (hinsert : insertEntry name₂ h₁ employeeId value effectiveFrom = .ok h₂)
    (hne : k ≠ employeeId) : rowsOf h₂ k = rowsOf h k := by
  obtain ⟨hrow, howner, -⟩ := currentEntry_eq_some hcurrent
  rw [rowsOf_append_of_ne (flushHistory_eq_ok.mp hinsert) hne.symm]
  unfold rowsOf
  rw [flushHistory_eq_ok.mp hclose]
  apply filter_set_of_not hrow
  · simp [howner, hne.symm]
  · simp [howner, hne.symm]

end Histories

variable {db db' : Db}

/-- `get_current_status`: the row of the status history that no later change has closed. -/
def getCurrentStatus (db : Db) (employeeId : ℕ) : Result (Option (ℕ × EmploymentStatusPeriod)) :=
  currentEntry db.hr.statuses employeeId

/-- `get_current_assignment`: the row of the assignments that no later change has closed. -/
def getCurrentAssignment (db : Db) (employeeId : ℕ) :
    Result (Option (ℕ × EmploymentAssignment)) :=
  currentEntry db.hr.assignments employeeId

/-- `get_current_compensation`: the row of the compensations that no later change has closed. -/
def getCurrentCompensation (db : Db) (employeeId : ℕ) :
    Result (Option (ℕ × CompensationPeriod)) :=
  currentEntry db.hr.compensations employeeId

/-- `_lock_employee`: changes to one employee wait for each other on the row of the employee. -/
def lockEmployee (db : Db) (employeeId : ℕ) : Result Employee :=
  orRaise db.hr.employees[employeeId]? .notFound

/-- `_enforce_store_access_via_current_assignment`: a caller of one store sees only employees who
are assigned to it now; others are refused as are those with no assignment. -/
def enforceStoreAccessViaCurrentAssignment (db : Db) (employeeId : ℕ)
    (callerStoreId : Option ℕ) : Result Unit :=
  if callerStoreId = none then return
  else do
    let found ← getCurrentAssignment db employeeId
    let current ← orRaise found (.forbidden .storeAccessDenied)
    enforceStoreAccess callerStoreId current.2.value.storeId

/-- The checks of the references that an assignment holds. -/
def checkAssignment (db : Db) (a : Assignment) : Result Unit := do
  raiseIf (∃ i ∈ a.departmentId, db.hr.departments[i]? = none) (.validation .invalidDepartment)
  raiseIf (∃ i ∈ a.positionId, db.hr.positions[i]? = none) (.validation .invalidPosition)
  raiseIf (∃ i ∈ a.managerEmployeeId, db.hr.employees[i]? = none) (.validation .invalidManager)

/-- Insert the assignment of an employee; its store has to exist. -/
def insertAssignment (db : Db) (h : History ℕ Assignment Date) (employeeId : ℕ) (a : Assignment)
    (effectiveFrom : Date) : Result (History ℕ Assignment Date) := do
  raiseIf (db.master.stores[a.storeId]? = none) (.integrity .fkStores)
  insertEntry .employmentAssignments h employeeId a effectiveFrom

/-! ### Hiring -/

structure HireEmployee where
  employeeNumber : String
  hireDate : Date
  assignment : Assignment
  userId : Option ℕ := none
  callerStoreId : Option ℕ := none

/-- `hire_employee`: the employee is active from the day of hiring, and assigned to a store from the
same day; the compensation is set later. -/
def hireEmployee (db : Db) (req : HireEmployee) : Result Db := do
  enforceStoreAccess req.callerStoreId req.assignment.storeId
  checkAssignment db req.assignment
  onIntegrityError
    (checkUnique ((∃ e ∈ db.hr.employees, e.employeeNumber = req.employeeNumber ∨
        (e.userId ≠ none ∧ e.userId = req.userId)) ∨
        ∃ i ∈ req.userId, db.master.users[i]? = none) .employees)
    (.conflict .duplicateEmployeeNumber)
  let statuses ←
    insertEntry .employmentStatusPeriods db.hr.statuses db.hr.employees.length .active req.hireDate
  let assignments ←
    insertAssignment db db.hr.assignments db.hr.employees.length req.assignment req.hireDate
  return { db with
    hr.employees := db.hr.employees ++ [⟨req.employeeNumber, req.hireDate, req.userId⟩]
    hr.statuses := statuses
    hr.assignments := assignments }

/-- Hiring adds an employee, with the first rows of two histories. -/
theorem hireEmployee_ok {req : HireEmployee} (h : hireEmployee db req = .ok db') :
    ∃ statuses assignments,
      statuses.rows = db.hr.statuses.rows
        ++ [⟨db.hr.employees.length, .active, req.hireDate, none⟩] ∧
      assignments.rows = db.hr.assignments.rows
        ++ [⟨db.hr.employees.length, req.assignment, req.hireDate, none⟩] ∧
      db' = { db with
        hr.employees := db.hr.employees ++ [⟨req.employeeNumber, req.hireDate, req.userId⟩]
        hr.statuses := statuses
        hr.assignments := assignments } := by
  unfold hireEmployee at h
  simp only [insertAssignment, insertEntry, ↓check_bind_eq_ok, bind_eq_ok,
    pure_eq_ok, flushHistory_eq_ok] at h
  obtain ⟨-, -, -, statuses, hstatuses, assignments, ⟨-, hassignments⟩, rfl⟩ := h
  exact ⟨statuses, assignments, hstatuses, hassignments, rfl⟩

/-! ### Status -/

/-- `_VALID_STATUS_TRANSITIONS`; going back to work after a termination is a rehire. -/
def EmploymentStatus.validTransitions : EmploymentStatus → List EmploymentStatus
  | .active => [.onLeave, .suspended, .terminated]
  | .onLeave => [.active, .terminated]
  | .suspended => [.active, .terminated]
  | .terminated => [.active]

structure ChangeEmploymentStatus where
  employeeId : ℕ
  newStatus : EmploymentStatus
  effectiveFrom : Date
  callerStoreId : Option ℕ := none

/-- `change_employment_status`: the current status must allow the new one, and must have begun
before the day from which the new one holds. -/
def changeEmploymentStatus (db : Db) (req : ChangeEmploymentStatus) : Result Db := do
  let _ ← lockEmployee db req.employeeId
  enforceStoreAccessViaCurrentAssignment db req.employeeId req.callerStoreId
  let found ← getCurrentStatus db req.employeeId
  let current ← orRaise found (.conflict .noCurrentStatus)
  raiseIf (req.newStatus ∉ current.2.value.validTransitions) (.conflict .invalidStatusTransition)
  raiseIf (req.effectiveFrom ≤ current.2.effectiveFrom) (.validation .invalidEffectiveDate)
  let closed ← closeEntry .employmentStatusPeriods db.hr.statuses current req.effectiveFrom
  let statuses ←
    insertEntry .employmentStatusPeriods closed req.employeeId req.newStatus req.effectiveFrom
  return { db with hr.statuses := statuses }

/-- The status of an employee on a day, by the row of the history that covers it. -/
def statusOn (db : Db) (employeeId : ℕ) (d : Date) : Option EmploymentStatus :=
  db.hr.statuses.on employeeId d

theorem changeEmploymentStatus_ok {req : ChangeEmploymentStatus}
    (h : changeEmploymentStatus db req = .ok db') :
    (∃ statuses, db' = { db with hr.statuses := statuses }) ∧
      ∀ k d, statusOn db' k d
        = if k = req.employeeId ∧ req.effectiveFrom ≤ d then some req.newStatus
          else statusOn db k d := by
  unfold changeEmploymentStatus at h
  simp only [getCurrentStatus, ↓check_bind_eq_ok, bind_eq_ok,
    orRaise_eq_ok, raiseIf_eq_ok, pure_eq_ok] at h
  obtain ⟨-, -, -, found, hfound, current, rfl, -, hafter, closed, hclose, statuses, hinsert,
    rfl⟩ := h
  exact ⟨⟨statuses, rfl⟩, fun k d => supersede_on hfound hafter hclose hinsert⟩

/-! ### Assignment -/

structure ReassignEmployee where
  employeeId : ℕ
  effectiveFrom : Date
  assignment : Assignment
  callerStoreId : Option ℕ := none

/-- `reassign_employee`: the caller must have access to the store the employee leaves and to the one
they go to. -/
def reassignEmployee (db : Db) (req : ReassignEmployee) : Result Db := do
  let _ ← lockEmployee db req.employeeId
  let found ← getCurrentAssignment db req.employeeId
  let current ← orRaise found (.conflict .noCurrentAssignment)
  enforceStoreAccess req.callerStoreId current.2.value.storeId
  enforceStoreAccess req.callerStoreId req.assignment.storeId
  checkAssignment db req.assignment
  raiseIf (req.effectiveFrom ≤ current.2.effectiveFrom) (.validation .invalidEffectiveDate)
  let closed ← closeEntry .employmentAssignments db.hr.assignments current req.effectiveFrom
  let assignments ←
    insertAssignment db closed req.employeeId req.assignment req.effectiveFrom
  return { db with hr.assignments := assignments }

/-- The assignment of an employee on a day, by the row of the history that covers it. -/
def assignmentOn (db : Db) (employeeId : ℕ) (d : Date) : Option Assignment :=
  db.hr.assignments.on employeeId d

theorem reassignEmployee_ok {req : ReassignEmployee} (h : reassignEmployee db req = .ok db') :
    (∃ assignments, db' = { db with hr.assignments := assignments }) ∧
      (∀ k d, assignmentOn db' k d
        = if k = req.employeeId ∧ req.effectiveFrom ≤ d then some req.assignment
          else assignmentOn db k d) ∧
      ∀ k ≠ req.employeeId, rowsOf db'.hr.assignments k = rowsOf db.hr.assignments k := by
  unfold reassignEmployee at h
  simp only [getCurrentAssignment, insertAssignment, ↓check_bind_eq_ok,
    bind_eq_ok, orRaise_eq_ok, raiseIf_eq_ok, pure_eq_ok] at h
  obtain ⟨-, -, found, hfound, current, rfl, -, -, -, hafter, closed, hclose, assignments,
    ⟨-, hinsert⟩, rfl⟩ := h
  exact ⟨⟨assignments, rfl⟩, fun k d => supersede_on hfound hafter hclose hinsert,
    fun k hk => supersede_rowsOf hfound hclose hinsert hk⟩

/-! ### Compensation -/

structure ChangeCompensation where
  employeeId : ℕ
  effectiveFrom : Date
  compensation : Compensation
  callerStoreId : Option ℕ := none

/-- A compensation as its columns keep it, the rate rounded to four decimals. -/
def Compensation.stored (c : Compensation) : Compensation := { c with rate := numeric 4 c.rate }

/-- `change_compensation`: unlike the other histories this one may be empty, and then the change is
its first row. -/
def changeCompensation (db : Db) (req : ChangeCompensation) : Result Db := do
  let _ ← lockEmployee db req.employeeId
  enforceStoreAccessViaCurrentAssignment db req.employeeId req.callerStoreId
  let found ← getCurrentCompensation db req.employeeId
  raiseIf (∃ current ∈ found, req.effectiveFrom ≤ current.2.effectiveFrom)
    (.validation .invalidEffectiveDate)
  let closed ← closeCurrent .compensationPeriods db.hr.compensations req.effectiveFrom found
  let compensations ← onIntegrityError
    (do
      let compensation ← flush req.compensation.stored
      insertEntry .compensationPeriods closed req.employeeId compensation req.effectiveFrom)
    (.conflict .invalidCompensationPeriod)
  return { db with hr.compensations := compensations }

/-- The compensation of an employee on a day, by the row of the history that covers it. -/
def compensationOn (db : Db) (employeeId : ℕ) (d : Date) : Option (Row Compensation) :=
  db.hr.compensations.on employeeId d

/-- How an employee is paid on a day, by the hour or a salary. -/
def payTypeOn (db : Db) (employeeId : ℕ) (d : Date) : Option PayType :=
  (compensationOn db employeeId d).map fun c => c.val.payType

/-- The first compensation of an employee has no row to close. -/
theorem changeCompensation_ok {req : ChangeCompensation}
    (h : changeCompensation db req = .ok db') :
    (∃ compensations, db' = { db with hr.compensations := compensations }) ∧
      (∃ compensation : Row Compensation, compensation.val = req.compensation.stored ∧
        ∀ current, getCurrentCompensation db req.employeeId = .ok (some current) →
          ∀ k d, compensationOn db' k d
            = if k = req.employeeId ∧ req.effectiveFrom ≤ d then some compensation
              else compensationOn db k d) ∧
      ∀ k ≠ req.employeeId, rowsOf db'.hr.compensations k = rowsOf db.hr.compensations k := by
  unfold changeCompensation at h
  simp only [↓check_bind_eq_ok, bind_eq_ok, raiseIf_eq_ok, pure_eq_ok,
    onIntegrityError_eq_ok, flush_eq_ok] at h
  obtain ⟨-, -, -, found, hfound, hafter, closed, hclose, compensations,
    ⟨compensation, hvalue, hinsert⟩, rfl⟩ := h
  refine ⟨⟨compensations, rfl⟩, ⟨compensation, hvalue, fun current hcurrent k d => ?_⟩,
    fun k hk => ?_⟩
  · obtain rfl : found = some current := Except.ok.inj (hfound.symm.trans hcurrent)
    refine supersede_on hcurrent (fun hle => hafter ?_) hclose hinsert
    exact ⟨current, rfl, hle⟩
  · cases found with
    | none =>
      rw [closeCurrent, pure_eq_ok] at hclose
      subst hclose
      exact rowsOf_append_of_ne (flushHistory_eq_ok.mp hinsert) hk.symm
    | some current => exact supersede_rowsOf hfound hclose hinsert hk

end GroceryErp
