import GroceryErp.Lib.Transactions
import GroceryErp.Shifts.Shifts
import GroceryErp.System.StockSessions

/-!
# Tills side by side

Sales, returns, voids, cash movements and closes of shifts, each in a session of its own.  All
of them lock the row of the shift before they write; a sale or a return looks its shift up
first, and where it has been closed by the time the lock is granted the row is not found.

What a sale or a return reads between its lock on the shift and its commit is under locks on
its products and on its sale, so the rest of it is one step.

## Main definitions

* `TillWork` — the requests.
* `TillEntry` — a sale or a return on its way to its shift.
* `till` — what a session does next.

## Main results

* `finalizeSale_eq_finish`, `createSaleReturn_eq_finish` — with nothing between, these are the
  requests.
* `TillEntry.finish_ok` — what a sale or a return writes of what a till counts.

## References

`backend/app/modules/sales/service.py`, `finalize_sale`, `create_sale_return`, `void_sale`;
`backend/app/modules/shifts/service.py`.
-/

namespace GroceryErp

open Decimal Outcome Rows Transactions

/-! ### Sales and returns under a given shift -/

/-- `writeSale` once the shift is known. -/
def writeSaleUnder (db : Db) (req : FinalizeSale) (cart : PricedCart) (changeDue : ℚ)
    (shiftId : Option ℕ) : Result (Db × ℕ) := do
  let sale ← flush (saleRow req cart changeDue shiftId)
  let saleId := db.sales.sales.length
  let db := { db with sales.sales := db.sales.sales ++ [sale] }
  let db ← cart.computed.foldlM (addSaleLine req.storeId saleId) db
  let db ← req.payments.foldlM (addPayment saleId) db
  return (db, saleId)

/-- `writeReturn` once the shift is known. -/
def writeReturnUnder (db : Db) (req : CreateSaleReturn) (sale : Row Sale)
    (lines : List ReturnLine) (approval : Bool × Option ℕ) (shiftId : Option ℕ) :
    Result (Db × ℕ) := do
  let saleReturnId := db.sales.returns.length
  let saleReturn ← flush (returnRow req (totalRefund lines) approval shiftId)
  let saleAfter ← flush
    { sale.val with status := advanceSaleStatus db req.saleId lines sale.val.status }
  let db ← lines.foldlM (addReturnLine req.storeId saleReturnId) db
  return ({ db with
    sales.returns := db.sales.returns ++ [saleReturn]
    sales.sales := db.sales.sales.set req.saleId saleAfter }, saleReturnId)

/-- What is rung up at a till: a sale or a return, by a user who may have a shift open. -/
inductive TillEntry
  | sale (req : FinalizeSale)
  | saleReturn (req : CreateSaleReturn)

namespace TillEntry

/-- The user whose shift is looked up. -/
def cashier : TillEntry → Option ℕ
  | sale req => some req.cashierId
  | saleReturn req => req.createdBy

/-- The rest of the request, once its shift is known.  A sale or a return whose key has been
taken since it was looked up is rolled back, and the winner is returned. -/
def finish (db : Db) (shiftId : Option ℕ) : TillEntry → Result Db
  | sale req => do
    let (cart, changeDue) ← checkout db req
    match ← scalarOneOrNone (saleWithKey db req.clientTransactionId) with
    | some _ => return db
    | none => do
      let (db, saleId) ← writeSaleUnder db req cart changeDue shiftId
      postSaleJournal db req saleId cart changeDue
  | saleReturn req => do
    match ← matchOrRejectIdempotentReturn db req with
    | some _ => return db
    | none => do
      let (original, lines) ← planReturn db req
      let store ← orRaise db.master.stores[req.storeId]? .notFound
      let approval ← resolveReturnApproval db req.storeId store (totalRefund lines) req
      let (db, saleReturnId) ← writeReturnUnder db req original lines approval shiftId
      postSaleReturnJournal db req saleReturnId (lines.map ReturnLine.effect)

end TillEntry

/-- The checks of `void_sale`, and the return it asks for. -/
def planSaleVoid (db : Db) (req : VoidSale) : Result CreateSaleReturn := do
  let sale ← orRaise db.sales.sales[req.saleId]? .notFound
  enforceStoreAccess req.callerStoreId sale.val.storeId
  raiseIf (remainingLines db req.saleId = []) (.conflict .nothingToVoid)
  return req.asReturn db

/-! ### Sessions -/

inductive TillWork
  | openShift (req : OpenShift)
  | recordCashMovement (req : RecordCashMovement)
  | closeShift (req : CloseShift)
  | finalizeSale (req : FinalizeSale)
  | createSaleReturn (req : CreateSaleReturn)
  | voidSale (req : VoidSale)

/-- The rows that are locked: a sale for its returns, and a shift for all that goes into its till.
-/
inductive TillLock
  | sale (saleId : ℕ)
  | shift (shiftId : ℕ)
  deriving DecidableEq

/-- Where a session at a till is, with what it has read so far. -/
inductive TillSession
  | begun (work : TillWork)
  /-- The request is a replay. -/
  | answered
  | returnMissed (req : CreateSaleReturn)
  /-- A sale or a return is about to look its shift up. -/
  | ready (entry : TillEntry)
  /-- It has seen that the shift is open, and waits for its lock. -/
  | found (entry : TillEntry) (shiftId : ℕ)
  /-- It will be attributed to the shift, or to none. -/
  | attributed (entry : TillEntry) (shiftId : Option ℕ)
  | movementMissed (req : RecordCashMovement)
  | movementChecked (req : RecordCashMovement)
  | closeMissed (req : CloseShift)
  | closeChecked (req : CloseShift)
  | closeCounted (req : CloseShift) (expected : ℚ)

/-- The query for the shift, as the lock gives it: the row may have changed while it was waited
for. -/
def relockShift (db : Db) (entry : TillEntry) (shiftId : ℕ) : Option ℕ :=
  if ∃ s ∈ db.shifts.shifts[shiftId]?, some s.val.cashierId = entry.cashier ∧
    s.val.status = .opened then some shiftId else none

/-- What a session does next.  The shift is looked up without a lock, then locked, and only then
written for. -/
def TillSession.next : TillSession → Action Db TillLock TillSession
  | begun (.openShift req) => .commit fun db => committed (Prod.fst <$> openShift db req)
  | begun (.recordCashMovement req) => .read fun db => Except.toOption do
    match ← scalarOneOrNone (movementWithKey db req.clientTransactionId) with
    | some _ => return answered
    | none => do
      raiseIf (req.amount ≤ 0) (.validation .invalidAmount)
      return movementMissed req
  | begun (.closeShift req) => .read fun db => Except.toOption do
    match ← scalarOneOrNone (shiftClosedWithKey db req.clientTransactionId) with
    | some _ => return answered
    | none => do
      raiseIf (req.closingCountedAmount < 0) (.validation .invalidCountedAmount)
      return closeMissed req
  | begun (.finalizeSale req) => .read fun db => Except.toOption do
    match ← lookUpSale db req with
    | some _ => return answered
    | none => return ready (.sale req)
  | begun (.createSaleReturn req) => .read fun db => Except.toOption do
    match ← matchOrRejectIdempotentReturn db req with
    | some _ => return answered
    | none => return returnMissed req
  | begun (.voidSale req) => .lock (.sale req.saleId) fun db => Except.toOption do
    let saleReturn ← planSaleVoid db req
    return begun (.createSaleReturn saleReturn)
  | answered => .commit fun db => some db
  | returnMissed req => .lock (.sale req.saleId) fun db => Except.toOption do
    match ← matchOrRejectIdempotentReturn db req with
    | some _ => return answered
    | none => return ready (.saleReturn req)
  | ready entry => .read fun db => Except.toOption do
    match ← processingShift db entry.cashier with
    | some shiftId => return found entry shiftId
    | none => return attributed entry none
  | found entry shiftId => .lock (.shift shiftId) fun db =>
    some (attributed entry (relockShift db entry shiftId))
  | attributed entry shiftId => .commit fun db => committed (entry.finish db shiftId)
  | movementMissed req => .lock (.shift req.shiftId) fun db => Except.toOption do
    checkMovement db req
    return movementChecked req
  | movementChecked req => .commit fun db => committed (Prod.fst <$> insertMovement db req)
  | closeMissed req => .lock (.shift req.shiftId) fun db => Except.toOption do
    match ← checkClose db req with
    | some _ => return answered
    | none => return closeChecked req
  | closeChecked req => .read fun db => Except.toOption do
    let expected ← expectedCash db req.shiftId
    return closeCounted req expected
  | closeCounted req expected => .commit fun db =>
    committed (Prod.fst <$> settleShift db req expected)

/-- The sessions of the tills, side by side on one database. -/
def till : Program Db TillLock TillSession TillWork where
  start := .begun
  next := TillSession.next

/-- The tables with the open sessions. -/
abbrev TillServer := Server Db TillLock TillSession

/-! ### The requests, with nothing between -/

section Serial

variable {db db' : Db} {shiftId : Option ℕ}

theorem writeSale_eq_under {req : FinalizeSale} {cart : PricedCart} {changeDue : ℚ}
    (hshift : activeShiftForCashier db req.cashierId = .ok shiftId) :
    writeSale db req cart changeDue = writeSaleUnder db req cart changeDue shiftId := by
  show (activeShiftForCashier db req.cashierId >>= _) = _
  rw [hshift]
  rfl

theorem writeReturn_eq_under {req : CreateSaleReturn} {sale : Row Sale} {lines : List ReturnLine}
    {approval : Bool × Option ℕ} (hshift : processingShift db req.createdBy = .ok shiftId) :
    writeReturn db req sale lines approval
      = writeReturnUnder db req sale lines approval shiftId := by
  show (processingShift db req.createdBy >>= _) = _
  rw [hshift]
  rfl

/-- A sale that looks its shift up and goes on at once is the request. -/
theorem finalizeSale_eq_finish {req : FinalizeSale} (h : lookUpSale db req = .ok none)
    (hshift : activeShiftForCashier db req.cashierId = .ok shiftId) :
    (TillEntry.sale req).finish db shiftId = .ok db' ↔
      ∃ saleId, finalizeSale db req = .ok (db', saleId) := by
  rw [finalizeSale_eq_locked req h]
  unfold finalizeSaleLocked TillEntry.finish insertSale
  simp only [bind_eq_ok, Prod.exists]
  constructor
  · rintro ⟨cart, changeDue, hcheckout, found, hfound, hrest⟩
    -- a replay looks the shift up and leaves it alone
    cases found with
    | some winner =>
      obtain ⟨winnerId, sale⟩ := winner
      rw [pure_eq_ok] at hrest
      subst hrest
      refine ⟨winnerId, cart, changeDue, hcheckout, _, hfound, ?_⟩
      exact bind_eq_ok.mpr ⟨shiftId, hshift, rfl⟩
    | none =>
      simp only [bind_eq_ok, Prod.exists] at hrest
      obtain ⟨d, saleId, hwrite, hpost⟩ := hrest
      refine ⟨saleId, cart, changeDue, hcheckout, _, hfound, ?_⟩
      simp only [bind_eq_ok, pure_eq_ok, Prod.exists]
      exact ⟨d, saleId, (writeSale_eq_under hshift).trans hwrite, db', hpost, rfl⟩
  · rintro ⟨saleId, cart, changeDue, hcheckout, found, hfound, hrest⟩
    refine ⟨cart, changeDue, hcheckout, found, hfound, ?_⟩
    -- the same steps backwards, with the shift that the session has found
    cases found with
    | some winner =>
      obtain ⟨winnerId, sale⟩ := winner
      simp only [bind_eq_ok, pure_eq_ok, Prod.mk.injEq] at hrest
      obtain ⟨-, -, rfl, -⟩ := hrest
      rfl
    | none =>
      simp only [bind_eq_ok, pure_eq_ok, Prod.exists, Prod.mk.injEq] at hrest
      obtain ⟨d, i, hwrite, d', hpost, rfl, -⟩ := hrest
      simp only [bind_eq_ok, Prod.exists]
      exact ⟨d, i, (writeSale_eq_under hshift).symm.trans hwrite, hpost⟩

/-- A return that looks its shift up and goes on at once is the request, as a sale is. -/
theorem createSaleReturn_eq_finish {req : CreateSaleReturn}
    (hshift : processingShift db req.createdBy = .ok shiftId) :
    (TillEntry.saleReturn req).finish db shiftId = .ok db' ↔
      ∃ saleReturnId, createSaleReturn db req = .ok (db', saleReturnId) := by
  unfold createSaleReturn TillEntry.finish
  simp only [bind_eq_ok]
  constructor
  · rintro ⟨found, hfound, hrest⟩
    -- the key is known, so no shift is needed
    cases found with
    | some returnId =>
      rw [pure_eq_ok] at hrest
      subst hrest
      exact ⟨returnId, _, hfound, rfl⟩
    | none =>
      simp only [bind_eq_ok] at hrest
      obtain ⟨⟨sale, lines⟩, hplan, store, hstore, approval, happroval, ⟨d, i⟩, hwrite, hpost⟩ :=
        hrest
      refine ⟨i, none, hfound, ?_⟩
      simp only [bind_eq_ok]
      exact ⟨(sale, lines), hplan, store, hstore, approval, happroval, (d, i),
        (writeReturn_eq_under hshift).trans hwrite, db', hpost, rfl⟩
  · rintro ⟨saleReturnId, found, hfound, hrest⟩
    refine ⟨found, hfound, ?_⟩
    cases found with
    | some returnId =>
      rw [pure_eq_ok, Prod.mk.injEq] at hrest
      exact congrArg Except.ok hrest.1
    | none =>
      simp only [bind_eq_ok] at hrest
      obtain ⟨⟨sale, lines⟩, hplan, store, hstore, approval, happroval, ⟨d, i⟩, hwrite, d', hpost,
        hsame⟩ := hrest
      rw [pure_eq_ok, Prod.mk.injEq] at hsame
      obtain ⟨rfl, -⟩ := hsame
      simp only [bind_eq_ok]
      exact ⟨(sale, lines), hplan, store, hstore, approval, happroval, (d, i),
        (writeReturn_eq_under hshift).symm.trans hwrite, hpost⟩

/-- A void is the return it asks for. -/
theorem voidSale_eq_planSaleVoid (req : VoidSale) :
    voidSale db req = planSaleVoid db req >>= createSaleReturn db := by
  unfold voidSale planSaleVoid
  cases orRaise db.sales.sales[req.saleId]? AppError.notFound with
  | error e => rfl
  | ok sale =>
    show (enforceStoreAccess req.callerStoreId sale.val.storeId >>= _)
      = (enforceStoreAccess req.callerStoreId sale.val.storeId >>= _) >>= _
    cases enforceStoreAccess req.callerStoreId sale.val.storeId with
    | error e => rfl
    | ok u =>
      show (raiseIf _ _ >>= _) = (raiseIf _ _ >>= _) >>= _
      by_cases hnone : remainingLines db req.saleId = []
      · rw [raiseIf, if_pos hnone]
        rfl
      · rw [raiseIf, if_neg hnone]
        rfl

end Serial

/-! ### What a till counts of what is written -/

/-- The columns of a sale that a till counts. -/
def Sale.tillColumns (s : Sale) : Option ℕ × ℚ := (s.shiftId, s.changeDue)

/-- What the rest of a sale or a return writes of what a till counts: nothing, or one row that
is attributed to the shift. -/
inductive TillWrites (shiftId : Option ℕ) (db db' : Db) : Prop
  | nothing (sales : db'.sales = db.sales) (shifts : db'.shifts = db.shifts)
  | sale (sale : Row Sale) (payments : List (Row Payment)) (of_shift : sale.val.shiftId = shiftId)
      (change : OnGrid 2 sale.val.changeDue)
      (paid : ∀ p ∈ payments, p.val.saleId = db.sales.sales.length ∧ OnGrid 2 p.val.amount)
      (sales : db'.sales.sales = db.sales.sales ++ [sale])
      (tendered : db'.sales.payments = db.sales.payments ++ payments)
      (returns : db'.sales.returns = db.sales.returns) (shifts : db'.shifts = db.shifts)
  | saleReturn (saleReturn : Row SaleReturn) (of_shift : saleReturn.val.shiftId = shiftId)
      (refund : OnGrid 2 saleReturn.val.refundAmount)
      (sales : db'.sales.sales.map (·.val.tillColumns) = db.sales.sales.map (·.val.tillColumns))
      (tendered : db'.sales.payments = db.sales.payments)
      (returns : db'.sales.returns = db.sales.returns ++ [saleReturn])
      (shifts : db'.shifts = db.shifts)

section Writes

variable {db d db' : Db} {shiftId : Option ℕ}

/-- An entry does not count in a till. -/
theorem TillWrites.posted (h : TillWrites shiftId db d)
    (hframe : db' = { d with ledger.entries := db'.ledger.entries }) :
    TillWrites shiftId db db' := by
  have hsales : db'.sales = d.sales := by rw [hframe]
  have hshifts : db'.shifts = d.shifts := by rw [hframe]
  cases h with
  | nothing sales shifts => exact .nothing (hsales.trans sales) (hshifts.trans shifts)
  | sale sale payments of_shift change paid sales tendered returns shifts =>
    exact .sale sale payments of_shift change paid (hsales ▸ sales) (hsales ▸ tendered)
      (hsales ▸ returns) (hshifts.trans shifts)
  | saleReturn saleReturn of_shift refund sales tendered returns shifts =>
    exact .saleReturn saleReturn of_shift refund (hsales ▸ sales) (hsales ▸ tendered)
      (hsales ▸ returns) (hshifts.trans shifts)

theorem writeSaleUnder_writes {req : FinalizeSale} {cart : PricedCart} {changeDue : ℚ} {saleId : ℕ}
    (h : writeSaleUnder db req cart changeDue shiftId = .ok (db', saleId)) :
    TillWrites shiftId db db' := by
  unfold writeSaleUnder at h
  simp only [bind_eq_ok, flush_eq_ok, pure_eq_ok, Prod.mk.injEq] at h
  obtain ⟨sale, hsale, d, hd, e, he, rfl, -⟩ := h
  obtain ⟨items, -, hd⟩ := addSaleLines_ok hd
  obtain ⟨payments, hpayments, rfl⟩ := addPayments_ok he
  refine .sale sale payments ?_ ?_ ?_ (by rw [hd]) (by rw [hd]) (by rw [hd]) (by rw [hd])
  · rw [hsale]
    rfl
  · rw [hsale]
    exact onGrid_numeric 2 _
  · intro p hp
    obtain ⟨input, -, hinput⟩ := exists_of_map_eq hpayments hp
    rw [← hinput]
    exact ⟨rfl, onGrid_numeric 2 _⟩

theorem writeReturnUnder_writes {req : CreateSaleReturn} {sale : Row Sale}
    {lines : List ReturnLine} {approval : Bool × Option ℕ} {saleReturnId : ℕ}
    (hsale : db.sales.sales[req.saleId]? = some sale)
    (h : writeReturnUnder db req sale lines approval shiftId = .ok (db', saleReturnId)) :
    TillWrites shiftId db db' := by
  unfold writeReturnUnder at h
  simp only [bind_eq_ok, flush_eq_ok, pure_eq_ok, Prod.mk.injEq] at h
  obtain ⟨saleReturn, hreturn, saleAfter, hafter, d, hd, rfl, -⟩ := h
  obtain ⟨t, hframe⟩ := addReturnLines_frame hd
  refine .saleReturn saleReturn ?_ ?_ ?_ (by rw [hframe]) (by rw [hframe]) (by rw [hframe])
  · rw [hreturn]
    rfl
  · rw [hreturn]
    exact onGrid_numeric 2 _
  · -- the sale has a new status
    have hsales : d.sales.sales = db.sales.sales := by rw [hframe]
    show (d.sales.sales.set req.saleId saleAfter).map _ = _
    rw [hsales]
    apply map_set_of_eq hsale
    rw [hafter]
    rfl

/-- **A sale or a return adds one row that a till counts, to the shift it has locked.** -/
theorem TillEntry.finish_ok {entry : TillEntry} (h : entry.finish db shiftId = .ok db') :
    TillWrites shiftId db db' := by
  cases entry with
  | sale req =>
    unfold TillEntry.finish at h
    simp only [bind_eq_ok] at h
    obtain ⟨⟨cart, changeDue⟩, -, found, -, h⟩ := h
    -- another request with the key was first, and its sale is the answer
    cases found with
    | some winner =>
      rw [pure_eq_ok] at h
      subst h
      exact .nothing rfl rfl
    | none =>
      simp only [bind_eq_ok] at h
      obtain ⟨⟨d, saleId⟩, hwrite, hpost⟩ := h
      exact (writeSaleUnder_writes hwrite).posted (postJournal_frame hpost)
  | saleReturn req =>
    unfold TillEntry.finish at h
    simp only [bind_eq_ok] at h
    obtain ⟨found, -, h⟩ := h
    cases found with
    | some winner =>
      rw [pure_eq_ok] at h
      subst h
      exact .nothing rfl rfl
    | none =>
      simp only [bind_eq_ok] at h
      obtain ⟨⟨sale, lines⟩, hplan, store, -, approval, -, ⟨d, saleReturnId⟩, hwrite, hpost⟩ := h
      obtain ⟨hsale, -⟩ := planReturn_ok hplan
      exact (writeReturnUnder_writes hsale hwrite).posted (postJournalUnlessEmpty_frame hpost)

end Writes

end GroceryErp
