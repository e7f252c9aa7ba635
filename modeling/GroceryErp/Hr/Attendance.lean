import GroceryErp.Hr.Employment

/-!
# Attendance

Shifts are clocked in and out at a store, which need not be the one the employee is
assigned to.  A correction voids the row and inserts another; no clock time is ever
changed in place.  The day a shift counts for is the one its store's clock shows when it
begins.  `updated_at` is when the transaction of an update began, and is null on a row
that has only been inserted.

## Main definitions

* `resolveWorkDate` — the day of a shift.
* `clockIn`, `clockOut`, `correctAttendance`.

## Main results

* `clockIn_ok`, `clockOut_ok`, `correctAttendance_ok` — what each does to the table.

## References

`backend/app/modules/hr/service.py`, `backend/app/db/base_class.py`.
-/

namespace GroceryErp

open Outcome Rows

variable {db db' : Db}

/-- `_CLOCKABLE_STATUSES`: an employee on leave may clock in as well as one who is active. -/
def EmploymentStatus.Clockable (s : EmploymentStatus) : Prop := s = .active ∨ s = .onLeave

instance (s : EmploymentStatus) : Decidable s.Clockable := inferInstanceAs (Decidable (_ ∨ _))

/-- `resolve_work_date`: the local day, or the one before where the local hour is before
the one the store's day begins at. -/
def resolveWorkDate (clock : StoreClock) (clockInAt : Instant) : Result Date := do
  let astimezone ← orRaise clock.timezone (.validation .invalidStoreTimezone)
  let localDay := astimezone clockInAt / 86400000000
  let localHour := astimezone clockInAt % 86400000000 / 3600000000
  return if localHour < clock.attendanceDayBoundaryHour then localDay - 1 else localDay

/-- The shift is another of the employee's, not voided, and has a moment in common with
the given one; a shift that is still open has no end. -/
def AttendanceRecord.Overlaps (r r' : AttendanceRecord) : Prop :=
  r'.status ≠ .voided ∧ r'.employeeId = r.employeeId ∧
    (∀ t ∈ r'.clockOutAt, r.clockInAt < t) ∧ ∀ t ∈ r.clockOutAt, r'.clockInAt < t

instance AttendanceRecord.decidableOverlaps (r r' : AttendanceRecord) : Decidable (r.Overlaps r') :=
  inferInstanceAs (Decidable (_ ∧ _ ∧ _ ∧ _))

/-- Insert a shift, which the database refuses where it overlaps another. -/
def insertAttendance (attendance : List (Row AttendanceRecord)) (r : AttendanceRecord) :
    Result (List (Row AttendanceRecord)) :=
  onIntegrityError
    (do
      checkUnique (∃ r' ∈ attendance, r.Overlaps r'.val) .exclAttendanceRecordsNoOverlap
      let record ← flush r
      return attendance ++ [record])
    (.conflict .overlappingAttendance)

theorem insertAttendance_eq_ok {attendance attendance' : List (Row AttendanceRecord)}
    {r : AttendanceRecord} (h : insertAttendance attendance r = .ok attendance') :
    ∃ record : Row AttendanceRecord, record.val = r ∧ attendance' = attendance ++ [record] := by
  unfold insertAttendance at h
  simp only [onIntegrityError_eq_ok, ↓check_bind_eq_ok, bind_eq_ok, flush_eq_ok, pure_eq_ok] at h
  obtain ⟨-, record, hrecord, rfl⟩ := h
  exact ⟨record, hrecord, rfl⟩

/-! ### Clocking in and out -/

structure ClockIn where
  employeeId : ℕ
  storeId : ℕ
  clockInAt : Instant
  source : AttendanceSource := .clock
  callerStoreId : Option ℕ := none

/-- The row that a clock-in inserts, open until somebody clocks out. -/
def ClockIn.record (req : ClockIn) (workDate : Date) : AttendanceRecord where
  employeeId := req.employeeId
  storeId := req.storeId
  workDate := workDate
  clockInAt := req.clockInAt
  clockOutAt := none
  source := req.source
  status := .opened
  correctionOfId := none
  updatedAt := none

/-- `clock_in`.  Nothing asks whether the employee is assigned to the store. -/
def clockIn (db : Db) (req : ClockIn) : Result Db := do
  enforceStoreAccess req.callerStoreId req.storeId
  let _ ← orRaise db.master.stores[req.storeId]? .notFound
  let status ← getCurrentStatus db req.employeeId
  raiseIf (¬∃ current ∈ status, current.2.value.Clockable) (.conflict .employeeNotClockable)
  let workDate ← resolveWorkDate (db.hr.storeClocks req.storeId) req.clockInAt
  let attendance ← insertAttendance db.hr.attendance (req.record workDate)
  return { db with hr.attendance := attendance }

theorem clockIn_ok {req : ClockIn} (h : clockIn db req = .ok db') :
    ∃ (workDate : Date) (record : Row AttendanceRecord), record.val = req.record workDate ∧
      db' = { db with hr.attendance := db.hr.attendance ++ [record] } := by
  unfold clockIn at h
  simp only [↓check_bind_eq_ok, bind_eq_ok, pure_eq_ok] at h
  obtain ⟨-, -, -, -, -, -, workDate, -, attendance, hinsert, rfl⟩ := h
  obtain ⟨record, hrecord, rfl⟩ := insertAttendance_eq_ok hinsert
  exact ⟨workDate, record, hrecord, rfl⟩

structure ClockOut where
  attendanceRecordId : ℕ
  clockOutAt : Instant
  callerStoreId : Option ℕ := none
  /-- When the transaction began. -/
  startedAt : Instant

/-- `clock_out`: an open record is closed by a time after it was opened; no other record is. -/
def clockOut (db : Db) (req : ClockOut) : Result Db := do
  let record ← orRaise db.hr.attendance[req.attendanceRecordId]? .notFound
  enforceStoreAccess req.callerStoreId record.val.storeId
  raiseIf (record.val.status ≠ .opened) (.conflict .attendanceNotOpen)
  raiseIf (req.clockOutAt ≤ record.val.clockInAt) (.validation .invalidClockOut)
  let closed ← flush { record.val with
    clockOutAt := some req.clockOutAt
    status := .closed
    updatedAt := some req.startedAt }
  return { db with hr.attendance := db.hr.attendance.set req.attendanceRecordId closed }

theorem clockOut_ok {req : ClockOut} (h : clockOut db req = .ok db') :
    ∃ record closed : Row AttendanceRecord,
      db.hr.attendance[req.attendanceRecordId]? = some record ∧ record.val.status = .opened ∧
      closed.val = { record.val with
        clockOutAt := some req.clockOutAt
        status := .closed
        updatedAt := some req.startedAt } ∧
      db' = { db with hr.attendance := db.hr.attendance.set req.attendanceRecordId closed } := by
  unfold clockOut at h
  simp only [↓check_bind_eq_ok, bind_eq_ok, orRaise_eq_ok, raiseIf_eq_ok, flush_eq_ok, pure_eq_ok,
    not_not] at h
  obtain ⟨record, hrow, -, hopen, -, closed, hclosed, rfl⟩ := h
  exact ⟨record, closed, hrow, hopen, hclosed, rfl⟩

/-! ### Corrections -/

structure CorrectAttendance where
  attendanceRecordId : ℕ
  newClockInAt : Instant
  newClockOutAt : Option Instant
  reason : String
  callerStoreId : Option ℕ := none
  /-- When the transaction began. -/
  startedAt : Instant

/-- The row that takes the place of a corrected one. -/
def CorrectAttendance.record (req : CorrectAttendance) (original : AttendanceRecord)
    (workDate : Date) : AttendanceRecord where
  employeeId := original.employeeId
  storeId := original.storeId
  workDate := workDate
  clockInAt := req.newClockInAt
  clockOutAt := req.newClockOutAt
  source := original.source
  status := if req.newClockOutAt = none then .opened else .closed
  correctionOfId := some req.attendanceRecordId
  updatedAt := none

/-- `correct_attendance`: the record is voided and another takes its place, with the times of the
request and the working day that these fall on. A record is corrected once. -/
def correctAttendance (db : Db) (req : CorrectAttendance) : Result Db := do
  raiseIf (isBlank req.reason) (.validation .correctionReasonRequired)
  let original ← orRaise db.hr.attendance[req.attendanceRecordId]? .notFound
  enforceStoreAccess req.callerStoreId original.val.storeId
  raiseIf (original.val.status = .voided) (.conflict .alreadyCorrected)
  raiseIf (∃ t ∈ req.newClockOutAt, t ≤ req.newClockInAt) (.validation .invalidClockOut)
  let _ ← orRaise db.master.stores[original.val.storeId]? .notFound
  let workDate ← resolveWorkDate (db.hr.storeClocks original.val.storeId) req.newClockInAt
  let voided ← flush { original.val with status := .voided, updatedAt := some req.startedAt }
  let attendance ← insertAttendance (db.hr.attendance.set req.attendanceRecordId voided)
    (req.record original.val workDate)
  return { db with hr.attendance := attendance }

theorem correctAttendance_ok {req : CorrectAttendance} (h : correctAttendance db req = .ok db') :
    ∃ (original voided record : Row AttendanceRecord) (workDate : Date),
      db.hr.attendance[req.attendanceRecordId]? = some original ∧ original.val.status ≠ .voided ∧
      resolveWorkDate (db.hr.storeClocks original.val.storeId) req.newClockInAt = .ok workDate ∧
      voided.val = { original.val with status := .voided, updatedAt := some req.startedAt } ∧
      record.val = req.record original.val workDate ∧
      db' = { db with
        hr.attendance := db.hr.attendance.set req.attendanceRecordId voided ++ [record] } := by
  unfold correctAttendance at h
  simp only [↓check_bind_eq_ok, bind_eq_ok, orRaise_eq_ok, raiseIf_eq_ok, flush_eq_ok,
    pure_eq_ok] at h
  obtain ⟨-, original, hrow, -, hlive, -, -, -, workDate, hday, voided, hvoided, attendance,
    hinsert, rfl⟩ := h
  obtain ⟨record, hrecord, rfl⟩ := insertAttendance_eq_ok hinsert
  exact ⟨original, voided, record, workDate, hrow, hlive, hday, hvoided, hrecord, rfl⟩

end GroceryErp
