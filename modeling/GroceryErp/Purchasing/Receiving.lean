import GroceryErp.Accounting.Postings
import GroceryErp.Inventory.Bookings

/-!
# Receiving goods

A goods receipt takes the delivered quantities into stock at their cost, line by
line, adds them to the items of the order, and posts the received value from
Purchase Clearing to Inventory.

## Main definitions

* `planReceipt` — the checks on a request, and its lines with their order items.
* `addReceiptLine` — one line: its movement and its receipt item.
* `receiveItem` — the received quantity of one order item.
* `receiveGoods` — the service function.

## Main results

* `receiveGoods_ok` — what a request that succeeds has checked and written.

## References

`backend/app/modules/purchasing/service.py`, `receive_goods`.
-/

namespace GroceryErp

open Decimal Ledger Outcome Rows

/-! ### Requests -/

structure GoodsReceiptLineInput where
  purchaseOrderItemId : ℕ
  quantityReceived : ℚ
  unitCost : ℚ

structure ReceiveGoods where
  purchaseOrderId : ℕ
  receivedDate : Date
  lines : List GoodsReceiptLineInput
  clientTransactionId : String
  callerStoreId : Option ℕ

/-- A line of a receipt with the order item it is for, as loaded. -/
structure ReceiptLine where
  itemId : ℕ
  item : Row PurchaseOrderItem
  quantityReceived : ℚ
  unitCost : ℚ

/-- The order item a line names, which has to be one of the order. -/
def resolveReceiptLine (db : Db) (purchaseOrderId : ℕ) (line : GoodsReceiptLineInput) :
    Result ReceiptLine := do
  let item ← orRaise db.purchasing.orderItems[line.purchaseOrderItemId]? .notFound
  raiseIf (item.val.purchaseOrderId ≠ purchaseOrderId) .notFound
  return {
    itemId := line.purchaseOrderItemId
    item
    quantityReceived := line.quantityReceived
    unitCost := line.unitCost }

/-- The checks of `receive_goods`, up to the locks on the products. -/
def planReceipt (db : Db) (req : ReceiveGoods) : Result (PurchaseOrder × List ReceiptLine) := do
  raiseIf (req.lines = []) (.validation .emptyReceipt)
  req.lines.forM fun line => do
    raiseIf (line.quantityReceived ≤ 0) (.validation .invalidQuantity)
    raiseIf (line.unitCost < 0) (.validation .invalidUnitCost)
  let order ← orRaise db.purchasing.orders[req.purchaseOrderId]? .notFound
  raiseIf (order.status ≠ .ordered ∧ order.status ≠ .partiallyReceived) (.conflict .invalidPoState)
  let lines ← req.lines.mapM (resolveReceiptLine db req.purchaseOrderId)
  return (order, lines)

/-! ### Writing the receipt -/

/-- The movement of a line, at the average cost it leads to. -/
def ReceiptLine.movement (l : ReceiptLine) (storeId purchaseOrderId : ℕ) (product : Product) :
    MovementInput where
  storeId := storeId
  movementType := .purchaseReceipt
  quantityDelta := l.quantityReceived
  unitCostAtMovement := l.unitCost
  referenceType := .purchaseOrder
  referenceId := some purchaseOrderId
  newProductCost := some (computeNewWac product.currentQtyOnHand product.currentCost
    l.quantityReceived l.unitCost)

/-- The receipt item of a line as its columns keep it. -/
def ReceiptLine.row (l : ReceiptLine) (goodsReceiptId : ℕ) : GoodsReceiptItem where
  goodsReceiptId := goodsReceiptId
  purchaseOrderItemId := l.itemId
  quantityReceived := numeric 3 l.quantityReceived
  unitCost := numeric 6 l.unitCost

/-- One line of a receipt: its movement is recorded first, and then its receipt item. -/
def addReceiptLine (storeId purchaseOrderId goodsReceiptId : ℕ) (db : Db) (l : ReceiptLine) :
    Result Db := do
  let product ← orRaise db.stock.products[l.item.val.productId]? .notFound
  let db ← recordMovement db l.item.val.productId (l.movement storeId purchaseOrderId product.val)
  let row ← flush (l.row goodsReceiptId)
  return { db with purchasing.receiptItems := db.purchasing.receiptItems ++ [row] }

/-- What a receipt brings of an order item, over all its lines. -/
def receivedQty (lines : List ReceiptLine) (itemId : ℕ) : ℚ :=
  sumWhere (·.itemId = itemId) (·.quantityReceived) lines

/-- The received quantity of one order item, to which all lines for it are added at once. -/
def receiveItem (lines : List ReceiptLine) (db : Db) (itemId : ℕ) : Result Db := do
  let item ← orRaise db.purchasing.orderItems[itemId]? .notFound
  let item ← flush
    { item.val with quantityReceived := item.val.quantityReceived + receivedQty lines itemId }
  return { db with purchasing.orderItems := db.purchasing.orderItems.set itemId item }

/-- `_advance_purchase_order_status`: received once every item has come in full, and partially
received once anything has. -/
def advancePurchaseOrderStatus (db : Db) (purchaseOrderId : ℕ) (status : PurchaseOrderStatus) :
    PurchaseOrderStatus :=
  let items := db.purchasing.orderItems.filter (·.val.purchaseOrderId = purchaseOrderId)
  if items ≠ [] ∧ ∀ i ∈ items, i.val.quantityOrdered ≤ i.val.quantityReceived then .received
  else if ∃ i ∈ items, 0 < i.val.quantityReceived then .partiallyReceived
  else status

/-- The rows of a planned receipt, in the order in which the source writes them. -/
def writeReceipt (db : Db) (req : ReceiveGoods) (order : PurchaseOrder)
    (lines : List ReceiptLine) : Result (Db × ℕ) := do
  let goodsReceiptId := db.purchasing.receipts.length
  let db := { db with
    purchasing.receipts := db.purchasing.receipts ++ [{
      purchaseOrderId := req.purchaseOrderId
      storeId := order.storeId
      clientTransactionId := req.clientTransactionId
      receivedDate := req.receivedDate }] }
  let db ← lines.foldlM (addReceiptLine order.storeId req.purchaseOrderId goodsReceiptId) db
  let db ← (distinct (lines.map (·.itemId))).foldlM (receiveItem lines) db
  let status := advancePurchaseOrderStatus db req.purchaseOrderId order.status
  return ({ db with
    purchasing.orders := db.purchasing.orders.set req.purchaseOrderId { order with status } },
    goodsReceiptId)

/-- The quantities and unit costs the received value is computed from. -/
def receivedLines (lines : List ReceiptLine) : List (ℚ × ℚ) :=
  lines.map fun l => (l.quantityReceived, l.unitCost)

/-- `receive_goods`: the tables after the request, and the id of the receipt. -/
def receiveGoods (db : Db) (req : ReceiveGoods) : Result (Db × ℕ) := do
  db.purchasing.orders[req.purchaseOrderId]?.toList.forM fun order =>
    enforceStoreAccess req.callerStoreId order.storeId
  match ← scalarOneOrNone
      (rowsWhere (·.clientTransactionId = req.clientTransactionId) db.purchasing.receipts) with
  | some (goodsReceiptId, _) => return (db, goodsReceiptId)
  | none => do
    let (order, lines) ← planReceipt db req
    let (db, goodsReceiptId) ← writeReceipt db req order lines
    let db ← postGoodsReceiptJournal db order.storeId goodsReceiptId req.receivedDate
      (receivedLines lines)
    return (db, goodsReceiptId)

/-! ### What a request that succeeds has done -/

section Inversion

variable {db db' : Db} {req : ReceiveGoods} {order : PurchaseOrder} {lines : List ReceiptLine}
  {storeId purchaseOrderId goodsReceiptId : ℕ}

theorem resolveReceiptLine_eq_ok {line : GoodsReceiptLineInput} {l : ReceiptLine} :
    resolveReceiptLine db purchaseOrderId line = .ok l ↔
      ∃ item, db.purchasing.orderItems[line.purchaseOrderItemId]? = some item ∧
        item.val.purchaseOrderId = purchaseOrderId ∧
        l = ⟨line.purchaseOrderItemId, item, line.quantityReceived, line.unitCost⟩ := by
  unfold resolveReceiptLine
  simp only [↓check_bind_eq_ok, bind_eq_ok, orRaise_eq_ok, raiseIf_eq_ok, pure_eq_ok, ne_eq,
    not_not, @eq_comm _ _ l]

/-- What `planReceipt` has checked of a line, in a form that the proofs about receipts share. -/
structure ReceiptLine.Planned (db : Db) (req : ReceiveGoods) (l : ReceiptLine) : Prop where
  loaded : db.purchasing.orderItems[l.itemId]? = some l.item
  order : l.item.val.purchaseOrderId = req.purchaseOrderId
  quantity_pos : 0 < l.quantityReceived
  unit_cost_nonneg : 0 ≤ l.unitCost
  requested : ∃ line ∈ req.lines,
    line.quantityReceived = l.quantityReceived ∧ line.unitCost = l.unitCost

theorem planReceipt_ok (h : planReceipt db req = .ok (order, lines)) :
    db.purchasing.orders[req.purchaseOrderId]? = some order ∧
      (order.status = .ordered ∨ order.status = .partiallyReceived) ∧
      ∀ l ∈ lines, l.Planned db req := by
  unfold planReceipt at h
  simp only [↓check_bind_eq_ok, bind_eq_ok, orRaise_eq_ok, raiseIf_eq_ok, pure_eq_ok,
    Prod.mk.injEq, forM_eq_ok, ne_eq, not_and_or, not_not, not_lt, not_le] at h
  obtain ⟨-, hchecks, o, horder, hstatus, ls, hls, rfl, rfl⟩ := h
  refine ⟨horder, hstatus, fun l hl => ?_⟩
  obtain ⟨line, hline, hresolve⟩ := exists_of_mem_mapM hls hl
  obtain ⟨hpos, hcost⟩ := hchecks line hline
  obtain ⟨item, hitem, hpo, rfl⟩ := resolveReceiptLine_eq_ok.mp hresolve
  exact ⟨hitem, hpo, hpos, hcost, line, hline, rfl, rfl⟩

theorem addReceiptLine_eq_ok {l : ReceiptLine} :
    addReceiptLine storeId purchaseOrderId goodsReceiptId db l = .ok db' ↔
      ∃ product d row, db.stock.products[l.item.val.productId]? = some product ∧
        recordMovement db l.item.val.productId (l.movement storeId purchaseOrderId product.val)
          = .ok d ∧
        row.val = l.row goodsReceiptId ∧
        db' = { d with purchasing.receiptItems := d.purchasing.receiptItems ++ [row] } := by
  unfold addReceiptLine
  simp only [bind_eq_ok, orRaise_eq_ok, flush_eq_ok, pure_eq_ok, @eq_comm _ _ db',
    exists_and_left]

/-- The lines of a receipt write their receipt items in order, and beside them only
stock. -/
theorem addReceiptLines_ok
    (h : lines.foldlM (addReceiptLine storeId purchaseOrderId goodsReceiptId) db = .ok db') :
    ∃ rows, rows.map Subtype.val = lines.map (·.row goodsReceiptId) ∧
      db' = { db with
        stock := db.stock.moved db'.stock
        purchasing.receiptItems := db.purchasing.receiptItems ++ rows } := by
  refine foldlM_induct (fun done t => ∃ rows, rows.map Subtype.val = done.map (·.row goodsReceiptId)
    ∧ t = { db with
        stock := db.stock.moved t.stock
        purchasing.receiptItems := db.purchasing.receiptItems ++ rows }) h
    ⟨[], rfl, by simp⟩ ?_
  rintro done l rest t t' - ⟨rows, hrows, ht⟩ hstep
  obtain ⟨product, d, row, -, hd, hrow, rfl⟩ := addReceiptLine_eq_ok.mp hstep
  refine ⟨rows ++ [row], by simp [hrows, hrow], ?_⟩
  rw [recordMovement_frame hd, ht]
  simp

/-- The lines of a receipt book one movement each, at its average cost. -/
theorem bookedAll_of_addReceiptLines
    (h : lines.foldlM (addReceiptLine storeId purchaseOrderId goodsReceiptId) db = .ok db') :
    ∃ bss, List.Forall₂
        (fun l => BooksOne l.item.val.productId (l.movement storeId purchaseOrderId)) lines bss ∧
      BookedAll bss.flatten db.stock db'.stock := by
  refine bookedAll_of_foldlM _ h fun l _ d d' hstep => ?_
  obtain ⟨product, e, row, hproduct, he, -, rfl⟩ := addReceiptLine_eq_ok.mp hstep
  obtain ⟨bs, hbs, hrun⟩ := exists_booksOne hproduct he
  exact ⟨bs, hbs, hrun⟩

theorem receiveItem_eq_ok {itemId : ℕ} :
    receiveItem lines db itemId = .ok db' ↔
      ∃ old item, db.purchasing.orderItems[itemId]? = some old ∧
        item.val = { old.val with
          quantityReceived := old.val.quantityReceived + receivedQty lines itemId } ∧
        db' = { db with purchasing.orderItems := db.purchasing.orderItems.set itemId item } := by
  unfold receiveItem
  simp only [bind_eq_ok, orRaise_eq_ok, flush_eq_ok, pure_eq_ok, @eq_comm _ _ db', exists_and_left]

/-- What a receipt adds to an order item, nothing if no line names it. -/
theorem receivedQty_eq_zero {itemId : ℕ} (h : itemId ∉ lines.map (·.itemId)) :
    receivedQty lines itemId = 0 :=
  sumWhere_of_notMem _ h

/-- The received quantities after some items have been written. -/
theorem receiveItems_ok {ids : List ℕ} (hnodup : ids.Nodup)
    (h : ids.foldlM (receiveItem lines) db = .ok db') :
    ∃ items, db' = { db with purchasing.orderItems := items } ∧
      items.length = db.purchasing.orderItems.length ∧
      ∀ (i : ℕ) (old : Row PurchaseOrderItem), db.purchasing.orderItems[i]? = some old →
        ∃ item, items[i]? = some item ∧ item.val = { old.val with
          quantityReceived := old.val.quantityReceived
            + if i ∈ ids then receivedQty lines i else 0 } := by
  refine foldlM_induct (fun done t => ∃ items, t = { db with purchasing.orderItems := items } ∧
      items.length = db.purchasing.orderItems.length ∧
      ∀ (i : ℕ) (old : Row PurchaseOrderItem), db.purchasing.orderItems[i]? = some old →
        ∃ item, items[i]? = some item ∧ item.val = { old.val with
          quantityReceived := old.val.quantityReceived
            + if i ∈ done then receivedQty lines i else 0 }) h ?_ ?_
  · exact ⟨_, rfl, rfl, fun i old hold => ⟨old, hold, by simp⟩⟩
  rintro done itemId rest t t' rfl ⟨items, rfl, hlength, hitems⟩ hstep
  obtain ⟨old, item, hold, hitem, rfl⟩ := receiveItem_eq_ok.mp hstep
  have hfresh : itemId ∉ done := fun hmem =>
    (List.nodup_append'.mp hnodup).2.2 hmem List.mem_cons_self
  refine ⟨items.set itemId item, rfl, by rw [List.length_set, hlength], fun i old' hold' => ?_⟩
  obtain ⟨row, hrow, hval⟩ := hitems i old' hold'
  rw [getElem?_set_of_some hold]
  by_cases hi : itemId = i
  · -- the item written in this round
    subst hi
    obtain rfl : row = old := Option.some.inj (hrow.symm.trans hold)
    refine ⟨item, if_pos rfl, ?_⟩
    rw [hitem, hval]
    simp [hfresh]
  · refine ⟨row, by rw [if_neg hi, hrow], ?_⟩
    rw [hval]
    simp [Ne.symm hi]

/-- What writing a receipt leaves: its header and items, the received quantities, the
status of the order, and stock. -/
theorem writeReceipt_ok (h : writeReceipt db req order lines = .ok (db', goodsReceiptId)) :
    goodsReceiptId = db.purchasing.receipts.length ∧ ∃ receipt rows items status,
      receipt = ⟨req.purchaseOrderId, order.storeId, req.clientTransactionId, req.receivedDate⟩ ∧
      rows.map Subtype.val = lines.map (·.row goodsReceiptId) ∧
      items.length = db.purchasing.orderItems.length ∧
      (∀ (i : ℕ) (old : Row PurchaseOrderItem), db.purchasing.orderItems[i]? = some old →
        ∃ item, items[i]? = some item ∧ item.val = { old.val with
          quantityReceived := old.val.quantityReceived + receivedQty lines i }) ∧
      status = advancePurchaseOrderStatus db' req.purchaseOrderId order.status ∧
      db' = { db with
        stock := db.stock.moved db'.stock
        purchasing.receipts := db.purchasing.receipts ++ [receipt]
        purchasing.receiptItems := db.purchasing.receiptItems ++ rows
        purchasing.orderItems := items
        purchasing.orders :=
          db.purchasing.orders.set req.purchaseOrderId { order with status } } := by
  unfold writeReceipt at h
  simp only [bind_eq_ok, pure_eq_ok, Prod.mk.injEq] at h
  obtain ⟨d, hd, e, he, rfl, rfl⟩ := h
  obtain ⟨rows, hrows, hd⟩ := addReceiptLines_ok hd
  obtain ⟨items, rfl, hlength, hitems⟩ := receiveItems_ok (nodup_distinct _) he
  refine ⟨rfl, _, rows, items, advancePurchaseOrderStatus { d with purchasing.orderItems := items }
    req.purchaseOrderId order.status, rfl, hrows, ?_, fun i old hold => ?_, rfl, ?_⟩
  · rw [hlength, hd]
  · obtain ⟨item, hitem, hval⟩ := hitems i old (by rw [hd]; exact hold)
    refine ⟨item, hitem, ?_⟩
    rw [hval]
    -- an item that no line names takes nothing, and receives nothing
    by_cases hi : i ∈ lines.map (·.itemId)
    · simp only [mem_distinct, hi, if_true]
    · simp only [mem_distinct, hi, if_false, receivedQty_eq_zero hi]
  · rw [hd]
    rfl

/-- Writing a receipt books one movement for each line. -/
theorem bookedAll_of_writeReceipt
    (h : writeReceipt db req order lines = .ok (db', goodsReceiptId)) :
    ∃ bss, List.Forall₂
        (fun l => BooksOne l.item.val.productId (l.movement order.storeId req.purchaseOrderId))
        lines bss ∧
      BookedAll bss.flatten db.stock db'.stock := by
  unfold writeReceipt at h
  simp only [bind_eq_ok, pure_eq_ok, Prod.mk.injEq] at h
  obtain ⟨d, hd, e, he, rfl, rfl⟩ := h
  obtain ⟨items, rfl, -, -⟩ := receiveItems_ok (nodup_distinct _) he
  obtain ⟨bss, hbss, hrun⟩ := bookedAll_of_addReceiptLines hd
  exact ⟨bss, hbss, hrun⟩

/-- A request that is not a replay is planned, written and posted. -/
theorem receiveGoods_ok (h : receiveGoods db req = .ok (db', goodsReceiptId)) :
    db' = db ∨ ∃ order lines d, planReceipt db req = .ok (order, lines) ∧
      writeReceipt db req order lines = .ok (d, goodsReceiptId) ∧
      postGoodsReceiptJournal d order.storeId goodsReceiptId req.receivedDate
        (receivedLines lines) = .ok db' := by
  unfold receiveGoods at h
  simp only [↓check_bind_eq_ok, bind_eq_ok] at h
  obtain ⟨-, found, -, h⟩ := h
  cases found with
  | some r =>
    obtain ⟨i, receipt⟩ := r
    simp only [pure_eq_ok, Prod.mk.injEq] at h
    exact .inl h.1.symm
  | none =>
    simp only [bind_eq_ok, pure_eq_ok, Prod.mk.injEq] at h
    obtain ⟨⟨order, lines⟩, hplan, ⟨d, i⟩, hwrite, d', hpost, rfl, rfl⟩ := h
    exact .inr ⟨order, lines, d, hplan, hwrite, hpost⟩

end Inversion

end GroceryErp
