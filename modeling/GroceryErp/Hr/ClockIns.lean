import GroceryErp.Hr.Histories

/-!
# Who may clock in

A clock-in looks at the status that was recorded last, whatever day that takes effect.  It is the
one in force on the day of the shift as soon as the last change has taken effect by then; a
change that is recorded in advance counts before its day.

## Main definitions

* `latestStatus` — the status that was recorded last.
* `ClockIn.Admitted` — what else a clock-in checks, and the day it comes to.

## Main results

* `getCurrentStatus_latest` — the open row is the one that was recorded last.
* `clockIn_accepts_iff` — over any run, who is admitted is accepted just when that status allows it.
* `advance_change_decides` — a change in advance is obeyed before its day, either way.

## References

`backend/app/modules/hr/service.py`, `backend/app/modules/hr/models.py`, `docs/M10_DESIGN.md`.
-/

namespace GroceryErp

open Effective Outcome Rows Runs

variable {db₀ db db' : Db}

/-- The status of an employee that was recorded last, with its days. -/
def latestStatus (db : Db) (employeeId : ℕ) : Option EmploymentStatusPeriod :=
  (rowsOf db.hr.statuses employeeId).getLast?

/-- What a clock-in checks besides the status, and the day it comes to. -/
structure ClockIn.Admitted (db : Db) (req : ClockIn) (workDate : Date) : Prop where
  access : enforceStoreAccess req.callerStoreId req.storeId = .ok ()
  store : ∃ store, db.master.stores[req.storeId]? = some store
  day : resolveWorkDate (db.hr.storeClocks req.storeId) req.clockInAt = .ok workDate
  apart : ¬∃ r ∈ db.hr.attendance, (req.record workDate).Overlaps r.val

/-- **What `getCurrentStatus` finds is the status that was recorded last.** -/
theorem getCurrentStatus_latest (hkept : HistoriesKept db) (employeeId : ℕ) :
    ∃ found, getCurrentStatus db employeeId = .ok found ∧
      found.map Prod.snd = latestStatus db employeeId :=
  hkept.statuses.currentEntry employeeId

/-- The status that was recorded last is in force from its day on. -/
theorem statusOn_of_latest (hkept : HistoriesKept db) {employeeId : ℕ} {e : EmploymentStatusPeriod}
    {d : Date} (he : latestStatus db employeeId = some e) (hd : e.effectiveFrom ≤ d) :
    statusOn db employeeId d = some e.value := by
  have hmem : e ∈ rowsOf db.hr.statuses employeeId := List.mem_of_getLast? he
  have hopen := (hkept.statuses.unbroken employeeId).last_open e he
  obtain ⟨hrow, howner⟩ := List.mem_filter.mp hmem
  refine History.on_eq_some.mpr ⟨e, hrow, of_decide_eq_true howner, ⟨hd, ?_⟩, rfl⟩
  simp [hopen]

/-- Who has no status recorded has none in force. -/
theorem statusOn_of_none {employeeId : ℕ} (hnone : latestStatus db employeeId = none) (d : Date) :
    statusOn db employeeId d = none := by
  have hrows : rowsOf db.hr.statuses employeeId = [] := List.getLast?_eq_none_iff.mp hnone
  rw [Option.eq_none_iff_forall_ne_some]
  intro s hs
  obtain ⟨e, he, howner, -⟩ := History.on_eq_some.mp hs
  have hmem : e ∈ rowsOf db.hr.statuses employeeId :=
    List.mem_filter.mpr ⟨he, decide_eq_true howner⟩
  rw [hrows] at hmem
  exact List.not_mem_nil hmem

/-- A shift that overlaps none is inserted. -/
theorem insertAttendance_of_apart {req : ClockIn} {workDate : Date}
    {attendance : List (Row AttendanceRecord)}
    (hapart : ¬∃ r ∈ attendance, (req.record workDate).Overlaps r.val) :
    ∃ record, insertAttendance attendance (req.record workDate) = .ok (attendance ++ [record]) := by
  have hchecks : Table.Checks (req.record workDate) := fun t ht => by simp [ClockIn.record] at ht
  refine ⟨⟨_, hchecks⟩, ?_⟩
  unfold insertAttendance
  simp only [onIntegrityError_eq_ok, ↓check_bind_eq_ok, bind_eq_ok, checkUnique_eq_ok, flush_eq_ok,
    pure_eq_ok]
  exact ⟨hapart, ⟨_, hchecks⟩, rfl, rfl⟩

/-- Who is admitted is accepted just when the status that was recorded last allows it. -/
theorem ClockIn.Admitted.accepts_iff (hkept : HistoriesKept db) {req : ClockIn} {workDate : Date}
    (h : req.Admitted db workDate) :
    (∃ db', clockIn db req = .ok db') ↔
      ∃ e, latestStatus db req.employeeId = some e ∧ e.value.Clockable := by
  obtain ⟨found, hfound, hlatest⟩ := getCurrentStatus_latest hkept req.employeeId
  obtain ⟨store, hstore⟩ := h.store
  obtain ⟨record, hinsert⟩ := insertAttendance_of_apart h.apart
  have hgate : (∃ current ∈ found, current.2.value.Clockable) ↔
      ∃ e, latestStatus db req.employeeId = some e ∧ e.value.Clockable := by
    rw [← hlatest]
    cases found with
    | none => simp
    | some current => simp
  rw [← hgate]
  unfold clockIn
  simp only [↓check_bind_eq_ok, bind_eq_ok, orRaise_eq_ok, raiseIf_eq_ok, pure_eq_ok, not_not]
  constructor
  · rintro ⟨db', -, -, -, status, hstatus, hclockable, -⟩
    obtain rfl : found = status := Except.ok.inj (hfound.symm.trans hstatus)
    exact hclockable
  · intro hclockable
    exact ⟨_, h.access, store, hstore, found, hfound, hclockable, workDate, h.day, _, hinsert, rfl⟩

/-- **Over any run, who is admitted is accepted just when the status that was recorded last is
active or on leave; it is the status in force on the day of the shift that counts, wherever the
last change has taken effect by then.** -/
theorem clockIn_accepts_iff (start : BeforeHiring db₀)
    (run : Reaches WorkforceRequest.exec (fun _ _ => True) db₀ db) {req : ClockIn} {workDate : Date}
    (hadmitted : req.Admitted db workDate) :
    ((∃ db', clockIn db req = .ok db') ↔
      ∃ e, latestStatus db req.employeeId = some e ∧ e.value.Clockable) ∧
    ((∀ e, latestStatus db req.employeeId = some e → e.effectiveFrom ≤ workDate) →
      ((∃ db', clockIn db req = .ok db') ↔
        ∃ s, statusOn db req.employeeId workDate = some s ∧ s.Clockable)) := by
  have hkept := historiesKept_of_reaches start run
  have haccepts := hadmitted.accepts_iff hkept
  refine ⟨haccepts, fun heffective => haccepts.trans ?_⟩
  cases hlatest : latestStatus db req.employeeId with
  | none => simp [statusOn_of_none hlatest]
  | some e => simp [statusOn_of_latest hkept hlatest (heffective e hlatest)]

/-! ### Shifts of an employee -/

/-- A shift of the first employee begins at eight. -/
def shiftOn (d : Date) : ClockIn where
  employeeId := 0
  storeId := 0
  clockInAt := atHour d 8

theorem newShops_beforeHiring : BeforeHiring newShops := ⟨rfl, rfl, rfl, rfl⟩

/-- Who is back from leave since the fifteenth may clock in on the sixteenth. -/
theorem clockIn_accepts_back_from_leave : ∃ db', clockIn backFromLeave (shiftOn 16) = .ok db' := by
  have run : Reaches WorkforceRequest.exec (fun _ _ => True) newShops backFromLeave :=
    reaches_of_foldlM (eq_ok_value _ _)
  have hadmitted : (shiftOn 16).Admitted backFromLeave 16 :=
    ⟨rfl, ⟨_, rfl⟩, by decide +kernel, by decide +kernel⟩
  obtain ⟨-, hiff⟩ := clockIn_accepts_iff newShops_beforeHiring run hadmitted
  refine (hiff fun e he => ?_).mpr ⟨.active, by decide +kernel, .inl rfl⟩
  have hfrom : (latestStatus backFromLeave 0).map (·.effectiveFrom) = some 15 := by decide +kernel
  have he' : (latestStatus backFromLeave 0).map (·.effectiveFrom) = some e.effectiveFrom :=
    congrArg (Option.map (·.effectiveFrom)) he
  rw [hfrom] at he'
  rw [← Option.some.inj he']
  decide

/-- The employee is to leave on the tenth day, as was entered on the first. -/
def leavesLater : Db :=
  value (WorkforceRequest.execAll newShops
    [hireFor 0,
      .changeEmploymentStatus { employeeId := 0, newStatus := .terminated, effectiveFrom := 10 }])
    (by decide +kernel)

/-- And it is to be hired again on the twentieth. -/
def returnsLater : Db :=
  value (WorkforceRequest.execAll leavesLater
    [.changeEmploymentStatus { employeeId := 0, newStatus := .active, effectiveFrom := 20 }])
    (by decide +kernel)

/-- **A change that is recorded in advance decides before its day**: who is still active is
refused, and who is no longer employed is accepted. -/
theorem advance_change_decides :
    Reaches WorkforceRequest.exec (fun _ _ => True) newShops leavesLater ∧
    Reaches WorkforceRequest.exec (fun _ _ => True) newShops returnsLater ∧
    (shiftOn 5).Admitted leavesLater 5 ∧ statusOn leavesLater 0 5 = some .active ∧
    errorOf (clockIn leavesLater (shiftOn 5)) = some (.conflict .employeeNotClockable) ∧
    (shiftOn 15).Admitted returnsLater 15 ∧ statusOn returnsLater 0 15 = some .terminated ∧
    ∃ db', clockIn returnsLater (shiftOn 15) = .ok db' := by
  have hleaves : Reaches WorkforceRequest.exec (fun _ _ => True) newShops leavesLater :=
    reaches_of_foldlM (eq_ok_value _ _)
  have hreturns : Reaches WorkforceRequest.exec (fun _ _ => True) leavesLater returnsLater :=
    reaches_of_foldlM (eq_ok_value _ _)
  refine ⟨hleaves, hleaves.trans hreturns, ?_, by decide +kernel, by decide +kernel, ?_,
    by decide +kernel, ?_⟩
  · exact ⟨rfl, ⟨_, rfl⟩, by decide +kernel, by decide +kernel⟩
  · exact ⟨rfl, ⟨_, rfl⟩, by decide +kernel, by decide +kernel⟩
  · exact ⟨_, eq_ok_value (clockIn returnsLater (shiftOn 15)) (by decide +kernel)⟩

end GroceryErp
