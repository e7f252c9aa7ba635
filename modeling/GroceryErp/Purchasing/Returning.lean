import GroceryErp.Accounting.Postings
import GroceryErp.Inventory.Bookings

/-!
# Returning goods to a supplier

A purchase return takes goods of an order out of stock at the current average cost
and posts their value from Inventory to Purchase Clearing.

## Main definitions

* `planPurchaseReturn` — the checks on a request, and its lines with their costs.
* `createPurchaseReturn` — the service function.

## Main results

* `createPurchaseReturn_ok` — what a request that succeeds has checked and written.

## References

`backend/app/modules/purchasing/service.py`, `create_purchase_return`.
-/

namespace GroceryErp

open Decimal Ledger Outcome Rows

/-! ### Requests -/

structure PurchaseReturnLineInput where
  productId : ℕ
  quantity : ℚ

structure CreatePurchaseReturn where
  purchaseOrderId : ℕ
  storeId : ℕ
  returnDate : Date
  lines : List PurchaseReturnLineInput
  clientTransactionId : String
  callerStoreId : Option ℕ

/-- What the request takes back of a product, over all its lines. -/
def requestedReturn (lines : List PurchaseReturnLineInput) (productId : ℕ) : ℚ :=
  sumWhere (·.productId = productId) (·.quantity) lines

/-- What the order has delivered of a product, over all its items. -/
def receivedOfProduct (db : Db) (purchaseOrderId productId : ℕ) : ℚ :=
  sumWhere (fun i => i.val.purchaseOrderId = purchaseOrderId ∧ i.val.productId = productId)
    (·.val.quantityReceived) db.purchasing.orderItems

/-- What earlier returns have taken back of a product of the order. -/
def returnedOfProduct (db : Db) (purchaseOrderId productId : ℕ) : ℚ :=
  sumWhere (fun i => i.val.productId = productId ∧
      ∃ r ∈ db.purchasing.returns[i.val.purchaseReturnId]?, r.purchaseOrderId = purchaseOrderId)
    (·.val.quantity) db.purchasing.returnItems

/-- A line of a return with the cost of its product.  No movement of a return changes a
cost, so the cost the loop reads is the one that was loaded. -/
structure PurchaseReturnLine where
  productId : ℕ
  quantity : ℚ
  unitCost : ℚ

def costReturnLine (db : Db) (line : PurchaseReturnLineInput) : Result PurchaseReturnLine := do
  let product ← orRaise db.stock.products[line.productId]? .notFound
  return ⟨line.productId, line.quantity, product.val.currentCost⟩

/-- The checks of `create_purchase_return`, and its lines with their costs. -/
def planPurchaseReturn (db : Db) (req : CreatePurchaseReturn) :
    Result (List PurchaseReturnLine) := do
  raiseIf (req.lines = []) (.validation .emptyReturn)
  req.lines.forM fun line => raiseIf (line.quantity ≤ 0) (.validation .invalidQuantity)
  let order ← orRaise db.purchasing.orders[req.purchaseOrderId]? .notFound
  raiseIf (order.storeId ≠ req.storeId) (.conflict .storeMismatch)
  let productIds := req.lines.map (·.productId)
  (distinct productIds).forM fun productId =>
    raiseIf (returnedOfProduct db req.purchaseOrderId productId
        + requestedReturn req.lines productId
      > receivedOfProduct db req.purchaseOrderId productId)
      (.conflict .returnExceedsReceivedQuantity)
  (sortedIds productIds).forM fun productId => do
    let product ← orRaise db.stock.products[productId]? .notFound
    raiseIf (product.val.storeId ≠ req.storeId) (.conflict .storeMismatch)
  (distinct productIds).forM fun productId => do
    let product ← orRaise db.stock.products[productId]? .notFound
    raiseIf (requestedReturn req.lines productId > product.val.currentQtyOnHand)
      (.conflict .insufficientStock)
  req.lines.mapM (costReturnLine db)

/-! ### Writing the return -/

/-- The movement of a line: its quantity goes out, at the cost it had come in with. -/
def PurchaseReturnLine.movement (l : PurchaseReturnLine) (storeId purchaseReturnId : ℕ) :
    MovementInput where
  storeId := storeId
  movementType := .purchaseReturn
  quantityDelta := -l.quantity
  unitCostAtMovement := l.unitCost
  referenceType := .purchaseReturn
  referenceId := some purchaseReturnId

/-- The return item of a line as its columns keep it. -/
def PurchaseReturnLine.row (l : PurchaseReturnLine) (purchaseReturnId : ℕ) :
    PurchaseReturnItem where
  purchaseReturnId := purchaseReturnId
  productId := l.productId
  quantity := numeric 3 l.quantity
  unitCost := numeric 6 l.unitCost

/-- One line of a return: its movement is recorded first, and then its return item. -/
def addPurchaseReturnLine (storeId purchaseReturnId : ℕ) (db : Db) (l : PurchaseReturnLine) :
    Result Db := do
  let db ← recordMovement db l.productId (l.movement storeId purchaseReturnId)
  let row ← flush (l.row purchaseReturnId)
  return { db with purchasing.returnItems := db.purchasing.returnItems ++ [row] }

/-- The rows of a planned return, in the order in which the source writes them. -/
def writePurchaseReturn (db : Db) (req : CreatePurchaseReturn) (lines : List PurchaseReturnLine) :
    Result (Db × ℕ) := do
  let purchaseReturnId := db.purchasing.returns.length
  let db := { db with
    purchasing.returns := db.purchasing.returns ++ [{
      purchaseOrderId := req.purchaseOrderId
      storeId := req.storeId
      clientTransactionId := req.clientTransactionId
      returnDate := req.returnDate }] }
  let db ← lines.foldlM (addPurchaseReturnLine req.storeId purchaseReturnId) db
  return (db, purchaseReturnId)

/-- The quantities and unit costs the returned value is computed from. -/
def returnedLines (lines : List PurchaseReturnLine) : List (ℚ × ℚ) :=
  lines.map fun l => (l.quantity, l.unitCost)

/-- `create_purchase_return`: the tables after the request, and the id of the return. -/
def createPurchaseReturn (db : Db) (req : CreatePurchaseReturn) : Result (Db × ℕ) := do
  enforceStoreAccess req.callerStoreId req.storeId
  match ← scalarOneOrNone
      (rowsWhere (·.clientTransactionId = req.clientTransactionId) db.purchasing.returns) with
  | some (purchaseReturnId, _) => return (db, purchaseReturnId)
  | none => do
    let lines ← planPurchaseReturn db req
    let (db, purchaseReturnId) ← writePurchaseReturn db req lines
    let db ← postPurchaseReturnJournal db req.storeId purchaseReturnId req.returnDate
      (returnedLines lines)
    return (db, purchaseReturnId)

/-! ### What a request that succeeds has done -/

section Inversion

variable {db db' : Db} {req : CreatePurchaseReturn} {lines : List PurchaseReturnLine}
  {storeId purchaseReturnId : ℕ}

/-- What `planPurchaseReturn` has checked of a line, in a form that the proofs about returns share.
-/
structure PurchaseReturnLine.Planned (db : Db) (req : CreatePurchaseReturn)
    (l : PurchaseReturnLine) : Prop where
  quantity_pos : 0 < l.quantity
  requested : ∃ line ∈ req.lines, line.quantity = l.quantity
  product : ∃ p, db.stock.products[l.productId]? = some p ∧ p.val.storeId = req.storeId ∧
    l.unitCost = p.val.currentCost

theorem planPurchaseReturn_ok (h : planPurchaseReturn db req = .ok lines) :
    (∃ order, db.purchasing.orders[req.purchaseOrderId]? = some order ∧
      order.storeId = req.storeId) ∧ ∀ l ∈ lines, l.Planned db req := by
  unfold planPurchaseReturn at h
  simp only [↓check_bind_eq_ok, bind_eq_ok, orRaise_eq_ok, raiseIf_eq_ok, forM_eq_ok,
    mem_sortedIds, ne_eq, not_not, not_le] at h
  obtain ⟨-, hpos, order, horder, hstore, -, hproducts, -, hlines⟩ := h
  refine ⟨⟨order, horder, hstore⟩, fun l hl => ?_⟩
  obtain ⟨line, hline, hcost⟩ := exists_of_mem_mapM hlines hl
  unfold costReturnLine at hcost
  simp only [bind_eq_ok, orRaise_eq_ok, pure_eq_ok] at hcost
  obtain ⟨p, hp, rfl⟩ := hcost
  obtain ⟨p', hp', hpstore⟩ := hproducts line.productId (List.mem_map_of_mem hline)
  rw [hp] at hp'
  cases hp'
  exact ⟨hpos line hline, ⟨line, hline, rfl⟩, p, hp, hpstore, rfl⟩

/-- What `planPurchaseReturn` has checked of the sums of a product, and the lines it has
planned. -/
theorem planPurchaseReturn_sums (h : planPurchaseReturn db req = .ok lines) :
    (∀ productId ∈ req.lines.map (·.productId),
      returnedOfProduct db req.purchaseOrderId productId + requestedReturn req.lines productId
        ≤ receivedOfProduct db req.purchaseOrderId productId ∧
      ∃ p, db.stock.products[productId]? = some p ∧
        requestedReturn req.lines productId ≤ p.val.currentQtyOnHand) ∧
    List.Forall₂ (fun line l => l.productId = line.productId ∧ l.quantity = line.quantity)
      req.lines lines := by
  unfold planPurchaseReturn at h
  simp only [↓check_bind_eq_ok, bind_eq_ok, orRaise_eq_ok, raiseIf_eq_ok, forM_eq_ok,
    mem_distinct, gt_iff_lt, not_lt] at h
  obtain ⟨-, -, order, -, -, hreceived, -, hstock, hlines⟩ := h
  refine ⟨fun j hj => ⟨hreceived j hj, hstock j hj⟩, (mapM_eq_ok.mp hlines).imp ?_⟩
  intro line l hcost
  unfold costReturnLine at hcost
  simp only [bind_eq_ok, orRaise_eq_ok, pure_eq_ok] at hcost
  obtain ⟨p, -, rfl⟩ := hcost
  exact ⟨rfl, rfl⟩

theorem addPurchaseReturnLine_eq_ok {l : PurchaseReturnLine} :
    addPurchaseReturnLine storeId purchaseReturnId db l = .ok db' ↔
      ∃ d row, recordMovement db l.productId (l.movement storeId purchaseReturnId) = .ok d ∧
        row.val = l.row purchaseReturnId ∧
        db' = { d with purchasing.returnItems := d.purchasing.returnItems ++ [row] } := by
  unfold addPurchaseReturnLine
  simp only [bind_eq_ok, flush_eq_ok, pure_eq_ok, @eq_comm _ _ db', exists_and_left]

/-- The lines of a return write their return items in order, and beside them only
stock. -/
theorem addPurchaseReturnLines_ok
    (h : lines.foldlM (addPurchaseReturnLine storeId purchaseReturnId) db = .ok db') :
    ∃ rows, rows.map Subtype.val = lines.map (·.row purchaseReturnId) ∧
      db' = { db with
        stock := db.stock.moved db'.stock
        purchasing.returnItems := db.purchasing.returnItems ++ rows } := by
  refine foldlM_induct (fun done t => ∃ rows, rows.map Subtype.val
      = done.map (·.row purchaseReturnId) ∧
    t = { db with
      stock := db.stock.moved t.stock
      purchasing.returnItems := db.purchasing.returnItems ++ rows }) h
    ⟨[], rfl, by simp⟩ ?_
  rintro done l rest t t' - ⟨rows, hrows, ht⟩ hstep
  obtain ⟨d, row, hd, hrow, rfl⟩ := addPurchaseReturnLine_eq_ok.mp hstep
  refine ⟨rows ++ [row], by simp [hrows, hrow], ?_⟩
  rw [recordMovement_frame hd, ht]
  simp

/-- What writing a return leaves: its header, its items, and stock. -/
theorem writePurchaseReturn_ok
    (h : writePurchaseReturn db req lines = .ok (db', purchaseReturnId)) :
    purchaseReturnId = db.purchasing.returns.length ∧ ∃ rows,
      rows.map Subtype.val = lines.map (·.row purchaseReturnId) ∧
      db' = { db with
        stock := db.stock.moved db'.stock
        purchasing.returns := db.purchasing.returns ++
          [⟨req.purchaseOrderId, req.storeId, req.clientTransactionId, req.returnDate⟩]
        purchasing.returnItems := db.purchasing.returnItems ++ rows } := by
  unfold writePurchaseReturn at h
  simp only [bind_eq_ok, pure_eq_ok, Prod.mk.injEq] at h
  obtain ⟨d, hd, rfl, rfl⟩ := h
  obtain ⟨rows, hrows, hd⟩ := addPurchaseReturnLines_ok hd
  exact ⟨rfl, rows, hrows, hd⟩

/-- Writing a return books one movement for each line. -/
theorem bookedAll_of_writePurchaseReturn
    (h : writePurchaseReturn db req lines = .ok (db', purchaseReturnId)) :
    ∃ bss, List.Forall₂
        (fun l => BooksOne l.productId fun _ => l.movement req.storeId purchaseReturnId) lines bss ∧
      BookedAll bss.flatten db.stock db'.stock := by
  unfold writePurchaseReturn at h
  simp only [bind_eq_ok, pure_eq_ok, Prod.mk.injEq] at h
  obtain ⟨d, hd, rfl, rfl⟩ := h
  obtain ⟨bss, hbss, hrun⟩ := bookedAll_of_foldlM
    (fun l => BooksOne l.productId fun _ =>
      l.movement req.storeId db.purchasing.returns.length) hd
    fun l _ e e' hstep => by
      obtain ⟨f, row, hf, -, rfl⟩ := addPurchaseReturnLine_eq_ok.mp hstep
      obtain ⟨bs, hbs, hrun⟩ := exists_booksOne_const hf
      exact ⟨bs, hbs, hrun⟩
  exact ⟨bss, hbss, hrun⟩

/-- A request whose key is taken writes nothing; any other is planned, written and posted. -/
theorem createPurchaseReturn_steps
    (h : createPurchaseReturn db req = .ok (db', purchaseReturnId)) :
    (rowsWhere (·.clientTransactionId = req.clientTransactionId) db.purchasing.returns ≠ [] ∧
      db' = db) ∨
    (rowsWhere (·.clientTransactionId = req.clientTransactionId) db.purchasing.returns = [] ∧
      ∃ lines d, planPurchaseReturn db req = .ok lines ∧
        writePurchaseReturn db req lines = .ok (d, purchaseReturnId) ∧
        postPurchaseReturnJournal d req.storeId purchaseReturnId req.returnDate
          (returnedLines lines) = .ok db') := by
  unfold createPurchaseReturn at h
  simp only [↓check_bind_eq_ok, bind_eq_ok] at h
  obtain ⟨-, found, hfound, h⟩ := h
  cases found with
  | some r =>
    obtain ⟨i, row⟩ := r
    simp only [pure_eq_ok, Prod.mk.injEq] at h
    have hrows := scalarOneOrNone_eq_some.mp hfound
    exact .inl ⟨by rw [hrows]; exact List.cons_ne_nil _ _, h.1.symm⟩
  | none =>
    simp only [bind_eq_ok, pure_eq_ok, Prod.mk.injEq] at h
    obtain ⟨lines, hplan, ⟨d, i⟩, hwrite, d', hpost, rfl, rfl⟩ := h
    exact .inr ⟨scalarOneOrNone_eq_none.mp hfound, lines, d, hplan, hwrite, hpost⟩

/-- A request that is not a replay is planned, written and posted. -/
theorem createPurchaseReturn_ok
    (h : createPurchaseReturn db req = .ok (db', purchaseReturnId)) :
    db' = db ∨ ∃ lines d, planPurchaseReturn db req = .ok lines ∧
      writePurchaseReturn db req lines = .ok (d, purchaseReturnId) ∧
      postPurchaseReturnJournal d req.storeId purchaseReturnId req.returnDate
        (returnedLines lines) = .ok db' := by
  rcases createPurchaseReturn_steps h with ⟨-, hsame⟩ | ⟨-, lines, d, hplan, hwrite, hpost⟩
  · exact .inl hsame
  · exact .inr ⟨lines, d, hplan, hwrite, hpost⟩

end Inversion

end GroceryErp
