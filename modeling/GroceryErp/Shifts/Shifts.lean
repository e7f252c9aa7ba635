import GroceryErp.Accounting.Postings
import GroceryErp.Sales.Returns

/-!
# Cashier shifts

A cashier opens a shift with a float, sells and refunds in it, and pays cash in and out.
Closing it adds up what its rows leave in the till, compares that with the count, and posts
the difference.

## Main definitions

* `openShift`, `recordCashMovement`, `closeShift` — the service functions.
* `computeExpectedCash` — the cash that should be in the till.

## Main results

* `openShift_ok`, `recordCashMovement_ok`, `closeShift_ok` — what a request that succeeds has
  checked and written.

## References

`backend/app/modules/shifts/service.py`; `backend/app/modules/accounting/service.py`,
`post_cash_shift_variance_journal`.
-/

namespace GroceryErp

open Decimal Ledger Outcome Rows

/-! ### Requests -/

structure OpenShift where
  storeId : ℕ
  cashierId : ℕ
  openingFloat : ℚ
  clientTransactionId : String
  callerStoreId : Option ℕ

structure RecordCashMovement where
  shiftId : ℕ
  movementType : CashMovementType
  amount : ℚ
  createdBy : ℕ
  clientTransactionId : String
  callerStoreId : Option ℕ

/-- `today` is the date of the UTC clock at the close. -/
structure CloseShift where
  shiftId : ℕ
  closingCountedAmount : ℚ
  actorId : ℕ
  callerStoreId : Option ℕ
  clientTransactionId : String
  today : Date

/-! ### Opening a shift -/

/-- The new shift as its columns keep it. -/
def OpenShift.row (req : OpenShift) : CashierShift where
  storeId := req.storeId
  cashierId := req.cashierId
  status := .opened
  openingFloat := numeric 2 req.openingFloat
  clientTransactionId := req.clientTransactionId
  closedAt := none
  closingCountedAmount := none
  expectedCashAmount := none
  varianceAmount := none
  closedBy := none
  closeClientTransactionId := none

/-- `open_shift`: the tables after the request, and the id of the shift. -/
def openShift (db : Db) (req : OpenShift) : Result (Db × ℕ) := do
  match ← scalarOneOrNone
      (rowsWhere (·.val.clientTransactionId = req.clientTransactionId) db.shifts.shifts) with
  | some (shiftId, _) => return (db, shiftId)
  | none => do
    raiseIf (req.openingFloat < 0) (.validation .invalidOpeningFloat)
    enforceStoreAccess req.callerStoreId req.storeId
    let store ← orRaise db.master.stores[req.storeId]? .notFound
    raiseIf (¬store.isActive) .notFound
    let active ← activeShiftForCashier db req.cashierId
    raiseIf (active ≠ none) (.conflict .shiftAlreadyOpen)
    let shift ← flush req.row
    return ({ db with shifts.shifts := db.shifts.shifts ++ [shift] }, db.shifts.shifts.length)

/-! ### Who may act on a shift -/

/-- `SHIFT_OVERRIDE` is among the permissions of the user. -/
def MayOverrideShift (db : Db) (userId : ℕ) : Prop :=
  ∃ u ∈ db.master.users[userId]?, u.shiftOverride

instance (db : Db) (userId : ℕ) : Decidable (MayOverrideShift db userId) :=
  inferInstanceAs (Decidable (∃ u ∈ db.master.users[userId]?, _))

/-- The cashier of an open shift may act on it, and so may who may override. -/
def enforceShiftActor (db : Db) (actorId : ℕ) (shift : CashierShift) : Result Unit := do
  raiseIf (actorId ≠ shift.cashierId ∧ ¬MayOverrideShift db actorId)
    (.forbidden .shiftOverrideRequired)
  raiseIf (shift.status ≠ .opened) (.conflict .shiftNotOpen)

/-! ### Cash movements -/

/-- The movement that already carries the key. -/
def movementWithKey (db : Db) (key : String) : List (ℕ × Row CashMovement) :=
  rowsWhere (·.val.clientTransactionId = key) db.shifts.movements

/-- The checks of `record_cash_movement` on the shift it has locked. -/
def checkMovement (db : Db) (req : RecordCashMovement) : Result Unit := do
  let shift ← orRaise db.shifts.shifts[req.shiftId]? .notFound
  enforceStoreAccess req.callerStoreId shift.val.storeId
  enforceShiftActor db req.createdBy shift.val

/-- The movement as its columns keep it. -/
def RecordCashMovement.row (req : RecordCashMovement) : CashMovement where
  shiftId := req.shiftId
  movementType := req.movementType
  amount := numeric 2 req.amount
  createdBy := req.createdBy
  clientTransactionId := req.clientTransactionId

/-- The insert of the movement.  Where its key is taken the insert fails, everything is rolled
back, and the movement with the key is returned. -/
def insertMovement (db : Db) (req : RecordCashMovement) : Result (Db × ℕ) := do
  match ← scalarOneOrNone (movementWithKey db req.clientTransactionId) with
  | some (winnerId, _) => return (db, winnerId)
  | none => do
    let movement ← flush req.row
    return ({ db with shifts.movements := db.shifts.movements ++ [movement] },
      db.shifts.movements.length)

/-- `record_cash_movement`: the tables after the request, and the id of the movement. -/
def recordCashMovement (db : Db) (req : RecordCashMovement) : Result (Db × ℕ) := do
  match ← scalarOneOrNone (movementWithKey db req.clientTransactionId) with
  | some (movementId, _) => return (db, movementId)
  | none => do
    raiseIf (req.amount ≤ 0) (.validation .invalidAmount)
    checkMovement db req
    insertMovement db req

/-! ### Expected cash -/

section Cash

variable (db : Db) (shiftId : ℕ)

/-- The cash handed over for the sales of the shift. -/
def cashTenderedInShift : ℚ :=
  sumWhere (fun p => p.val.paymentMethod = .cash ∧
      ∃ s ∈ db.sales.sales[p.val.saleId]?, s.val.shiftId = some shiftId)
    (·.val.amount) db.sales.payments

/-- The change given back in the sales of the shift. -/
def changeGiven : ℚ := sumWhere (·.val.shiftId = some shiftId) (·.val.changeDue) db.sales.sales

/-- What the returns of the shift have refunded in cash. -/
def cashRefunded : ℚ :=
  sumWhere (fun r => r.val.shiftId = some shiftId ∧ r.val.refundMethod = .cash)
    (·.val.refundAmount) db.sales.returns

/-- What has been paid in during the shift, or paid out. -/
def cashMoved (movementType : CashMovementType) : ℚ :=
  sumWhere (fun m => m.val.shiftId = shiftId ∧ m.val.movementType = movementType)
    (·.val.amount) db.shifts.movements

/-- What the rows of the shift have added to the till. -/
def tillCash : ℚ :=
  cashTenderedInShift db shiftId - changeGiven db shiftId - cashRefunded db shiftId
    + cashMoved db shiftId .paidIn - cashMoved db shiftId .paidOut

/-- `_compute_expected_cash`: the float and the cash tendered, less the change, the cash refunds and
what was paid out, with what was paid in. -/
def computeExpectedCash (shift : CashierShift) : ℚ :=
  roundMoney (shift.openingFloat + cashTenderedInShift db shiftId - changeGiven db shiftId
    - cashRefunded db shiftId + cashMoved db shiftId .paidIn - cashMoved db shiftId .paidOut)

end Cash

/-! ### Closing a shift -/

/-- The shift that a request with the key has closed. -/
def shiftClosedWithKey (db : Db) (key : String) : List (ℕ × Row CashierShift) :=
  rowsWhere (·.val.closeClientTransactionId = some key) db.shifts.shifts

/-- The checks of `close_shift` on the shift it has locked, with the second look-up of the key:
the shift that is found, or none. -/
def checkClose (db : Db) (req : CloseShift) : Result (Option ℕ) := do
  let shift ← orRaise db.shifts.shifts[req.shiftId]? .notFound
  enforceStoreAccess req.callerStoreId shift.val.storeId
  match ← scalarOneOrNone (shiftClosedWithKey db req.clientTransactionId) with
  | some (shiftId, _) => return some shiftId
  | none => do
    enforceShiftActor db req.actorId shift.val
    return none

/-- The cash that should be in the till of the shift. -/
def expectedCash (db : Db) (shiftId : ℕ) : Result ℚ := do
  let shift ← orRaise db.shifts.shifts[shiftId]? .notFound
  return computeExpectedCash db shiftId shift.val

/-- What the count has more than expected, and less than nothing where money is missing. -/
def CloseShift.variance (req : CloseShift) (expected : ℚ) : ℚ :=
  roundMoney (req.closingCountedAmount - expected)

/-- The closed shift as its columns keep it. -/
def CloseShift.row (req : CloseShift) (shift : CashierShift) (expected : ℚ) : CashierShift :=
  { shift with
    status := .closed
    closedAt := some req.today
    closingCountedAmount := some (numeric 2 req.closingCountedAmount)
    expectedCashAmount := some (numeric 2 expected)
    varianceAmount := some (numeric 2 (req.variance expected))
    closedBy := some req.actorId
    closeClientTransactionId := some req.clientTransactionId }

/-- `post_cash_shift_variance_journal`: a difference between the drawer and what was expected is
over or short; no entry when there is none. -/
def postCashShiftVarianceJournal (db : Db) (storeId shiftId : ℕ) (postingDate : Date)
    (variance : ℚ) : Result Db :=
  if variance = 0 then return db
  else
    let amount := ledgerQuantize |variance|
    postJournal db storeId postingDate .cashShiftVariance shiftId <|
      if 0 < variance then [debit .cashOnHand amount, credit .cashOverShort amount]
      else [debit .cashOverShort amount, credit .cashOnHand amount]

/-- The closing fields are written and the variance is posted.  Where the key of the request is
taken the write fails, everything is rolled back, and the shift with the key is returned. -/
def settleShift (db : Db) (req : CloseShift) (expected : ℚ) : Result (Db × ℕ) := do
  match ← scalarOneOrNone (shiftClosedWithKey db req.clientTransactionId) with
  | some (winnerId, _) => return (db, winnerId)
  | none => do
    let shift ← orRaise db.shifts.shifts[req.shiftId]? .notFound
    let closed ← flush (req.row shift.val expected)
    let db := { db with shifts.shifts := db.shifts.shifts.set req.shiftId closed }
    let db ← postCashShiftVarianceJournal db shift.val.storeId req.shiftId req.today
      (req.variance expected)
    return (db, req.shiftId)

/-- `close_shift`: the tables after the request, and the id of the shift. -/
def closeShift (db : Db) (req : CloseShift) : Result (Db × ℕ) := do
  match ← scalarOneOrNone (shiftClosedWithKey db req.clientTransactionId) with
  | some (shiftId, _) => return (db, shiftId)
  | none => do
    raiseIf (req.closingCountedAmount < 0) (.validation .invalidCountedAmount)
    match ← checkClose db req with
    | some shiftId => return (db, shiftId)
    | none => do
      let expected ← expectedCash db req.shiftId
      settleShift db req expected

/-! ### What a request that succeeds has done -/

section Inversion

variable {db db' : Db} {shiftId : ℕ}

theorem activeShiftForCashier_ok {cashierId : ℕ}
    (h : activeShiftForCashier db cashierId = .ok (some shiftId)) :
    ∃ shift, db.shifts.shifts[shiftId]? = some shift ∧ shift.val.cashierId = cashierId ∧
      shift.val.status = .opened := by
  have hmem := scalarOneOrNone_eq_some.mp h
  have hrow : shiftId ∈ [shiftId] := List.mem_singleton_self _
  rw [← hmem] at hrow
  obtain ⟨⟨i, shift⟩, hshift, rfl⟩ := List.mem_map.mp hrow
  obtain ⟨hat, hcashier, hopen⟩ := mem_rowsWhere.mp hshift
  exact ⟨shift, hat, hcashier, hopen⟩

/-- Without an active shift every shift of the cashier is closed. -/
theorem activeShiftForCashier_none {cashierId : ℕ}
    (h : activeShiftForCashier db cashierId = .ok none) {i : ℕ} {shift : Row CashierShift}
    (hshift : db.shifts.shifts[i]? = some shift) (hcashier : shift.val.cashierId = cashierId) :
    shift.val.status ≠ .opened := by
  intro hopen
  have hnone := List.map_eq_nil_iff.mp (scalarOneOrNone_eq_none.mp h)
  have hmem : (i, shift) ∈ rowsWhere (fun s : Row CashierShift =>
      s.val.cashierId = cashierId ∧ s.val.status = .opened) db.shifts.shifts :=
    mem_rowsWhere.mpr ⟨hshift, hcashier, hopen⟩
  rw [hnone] at hmem
  cases hmem

theorem openShift_ok {req : OpenShift} (h : openShift db req = .ok (db', shiftId)) :
    db' = db ∨ ∃ shift, shift.val = req.row ∧ shiftId = db.shifts.shifts.length ∧
      activeShiftForCashier db req.cashierId = .ok none ∧
      db' = { db with shifts.shifts := db.shifts.shifts ++ [shift] } := by
  unfold openShift at h
  rw [bind_eq_ok] at h
  obtain ⟨found, -, h⟩ := h
  cases found with
  | some found =>
    rw [pure_eq_ok, Prod.mk.injEq] at h
    exact .inl h.1.symm
  | none =>
    simp only [↓check_bind_eq_ok, bind_eq_ok, orRaise_eq_ok, raiseIf_eq_ok, flush_eq_ok,
      pure_eq_ok, Prod.mk.injEq, ne_eq, not_not] at h
    obtain ⟨-, -, store, -, -, active, hactive, rfl, shift, hshift, rfl, rfl⟩ := h
    exact .inr ⟨shift, hshift, rfl, hactive, rfl⟩

theorem enforceShiftActor_ok {actorId : ℕ} {shift : CashierShift}
    (h : enforceShiftActor db actorId shift = .ok ()) : shift.status = .opened := by
  unfold enforceShiftActor at h
  simp only [↓check_bind_eq_ok, raiseIf_eq_ok, ne_eq, not_not] at h
  exact h.2

theorem checkMovement_ok {req : RecordCashMovement} (h : checkMovement db req = .ok ()) :
    ∃ shift, db.shifts.shifts[req.shiftId]? = some shift ∧ shift.val.status = .opened := by
  unfold checkMovement at h
  simp only [↓check_bind_eq_ok, bind_eq_ok, orRaise_eq_ok] at h
  obtain ⟨shift, hshift, -, hactor⟩ := h
  exact ⟨shift, hshift, enforceShiftActor_ok hactor⟩

theorem insertMovement_ok {req : RecordCashMovement} {movementId : ℕ}
    (h : insertMovement db req = .ok (db', movementId)) :
    db' = db ∨ ∃ movement, movement.val = req.row ∧
      db' = { db with shifts.movements := db.shifts.movements ++ [movement] } := by
  unfold insertMovement at h
  rw [bind_eq_ok] at h
  obtain ⟨found, -, h⟩ := h
  cases found with
  | some found =>
    rw [pure_eq_ok, Prod.mk.injEq] at h
    exact .inl h.1.symm
  | none =>
    simp only [bind_eq_ok, flush_eq_ok, pure_eq_ok, Prod.mk.injEq] at h
    obtain ⟨movement, hmovement, rfl, -⟩ := h
    exact .inr ⟨movement, hmovement, rfl⟩

theorem recordCashMovement_ok {req : RecordCashMovement} {movementId : ℕ}
    (h : recordCashMovement db req = .ok (db', movementId)) :
    db' = db ∨ (checkMovement db req = .ok () ∧
      insertMovement db req = .ok (db', movementId)) := by
  unfold recordCashMovement at h
  rw [bind_eq_ok] at h
  obtain ⟨found, -, h⟩ := h
  cases found with
  | some found =>
    rw [pure_eq_ok, Prod.mk.injEq] at h
    exact .inl h.1.symm
  | none =>
    simp only [↓check_bind_eq_ok] at h
    exact .inr h.2

/-- A shift that may be closed is open. -/
theorem checkClose_ok {req : CloseShift} (h : checkClose db req = .ok none) :
    ∃ shift, db.shifts.shifts[req.shiftId]? = some shift ∧ shift.val.status = .opened := by
  unfold checkClose at h
  simp only [↓check_bind_eq_ok, bind_eq_ok, orRaise_eq_ok] at h
  obtain ⟨shift, hshift, -, found, -, h⟩ := h
  cases found with
  | some found =>
    rw [pure_eq_ok] at h
    cases h
  | none =>
    simp only [↓check_bind_eq_ok] at h
    exact ⟨shift, hshift, enforceShiftActor_ok h.1⟩

theorem expectedCash_eq_ok {expected : ℚ} : expectedCash db shiftId = .ok expected ↔
    ∃ shift, db.shifts.shifts[shiftId]? = some shift ∧
      expected = computeExpectedCash db shiftId shift.val := by
  unfold expectedCash
  simp only [bind_eq_ok, orRaise_eq_ok, pure_eq_ok, @eq_comm _ _ expected]

/-- The variance writes the journal and nothing else. -/
theorem postCashShiftVarianceJournal_frame {storeId : ℕ} {postingDate : Date} {variance : ℚ}
    (h : postCashShiftVarianceJournal db storeId shiftId postingDate variance = .ok db') :
    db' = { db with ledger.entries := db'.ledger.entries } := by
  unfold postCashShiftVarianceJournal at h
  split at h
  · rw [pure_eq_ok] at h
    exact h ▸ rfl
  · exact postJournal_frame h

theorem settleShift_ok {req : CloseShift} {expected : ℚ}
    (h : settleShift db req expected = .ok (db', shiftId)) :
    db' = db ∨ ∃ shift closed, db.shifts.shifts[req.shiftId]? = some shift ∧
      closed.val = req.row shift.val expected ∧
      postCashShiftVarianceJournal
        { db with shifts.shifts := db.shifts.shifts.set req.shiftId closed } shift.val.storeId
        req.shiftId req.today (req.variance expected) = .ok db' := by
  unfold settleShift at h
  rw [bind_eq_ok] at h
  obtain ⟨found, -, h⟩ := h
  cases found with
  | some found =>
    rw [pure_eq_ok, Prod.mk.injEq] at h
    exact .inl h.1.symm
  | none =>
    simp only [bind_eq_ok, orRaise_eq_ok, flush_eq_ok, pure_eq_ok, Prod.mk.injEq] at h
    obtain ⟨shift, hshift, closed, hclosed, d, hd, rfl, -⟩ := h
    exact .inr ⟨shift, closed, hshift, hclosed, hd⟩

theorem closeShift_ok {req : CloseShift} (h : closeShift db req = .ok (db', shiftId)) :
    db' = db ∨ (checkClose db req = .ok none ∧ ∃ expected,
      expectedCash db req.shiftId = .ok expected ∧
      settleShift db req expected = .ok (db', shiftId)) := by
  unfold closeShift at h
  rw [bind_eq_ok] at h
  obtain ⟨found, -, h⟩ := h
  cases found with
  | some found =>
    rw [pure_eq_ok, Prod.mk.injEq] at h
    exact .inl h.1.symm
  | none =>
    simp only [↓check_bind_eq_ok, bind_eq_ok] at h
    obtain ⟨-, again, hagain, h⟩ := h
    cases again with
    | some again =>
      rw [pure_eq_ok, Prod.mk.injEq] at h
      exact .inl h.1.symm
    | none =>
      simp only [bind_eq_ok] at h
      obtain ⟨expected, hexpected, hsettle⟩ := h
      exact .inr ⟨hagain, expected, hexpected, hsettle⟩

end Inversion

end GroceryErp
