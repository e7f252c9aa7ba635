import GroceryErp.Lib.Rows
import GroceryErp.Errors
import GroceryErp.Schema

/-!
# Purchase orders

An order is created as a draft, submitted, and then received against; until it is
complete it can be cancelled.  Its items are frozen once it is submitted.

## Main definitions

* `createPurchaseOrder`, `submitPurchaseOrder`, `cancelPurchaseOrder` — the service
  functions.

## Main results

* `createPurchaseOrderInner_cases`, `createPurchaseOrder_ok`, `setOrderStatus_ok` — what they
  have checked and written.

## References

`backend/app/modules/purchasing/service.py`.
-/

namespace GroceryErp

open Decimal Outcome Rows

/-! ### Creating -/

structure PurchaseOrderItemInput where
  productId : ℕ
  quantityOrdered : ℚ
  unitCost : ℚ

structure CreatePurchaseOrder where
  storeId : ℕ
  supplierId : ℕ
  orderDate : Date
  lines : List PurchaseOrderItemInput
  clientTransactionId : String
  callerStoreId : Option ℕ

/-- `_validate_po_items`: an order has lines, each of a positive quantity and for a product of the
store. -/
def validatePoItems (db : Db) (storeId : ℕ) (lines : List PurchaseOrderItemInput) :
    Result Unit := do
  raiseIf (lines = []) (.validation .emptyPurchaseOrder)
  lines.forM fun line => do
    raiseIf (line.quantityOrdered ≤ 0) (.validation .invalidQuantity)
    raiseIf (line.unitCost < 0) (.validation .invalidUnitCost)
    let product ← orRaise db.stock.products[line.productId]? (.validation .invalidProduct)
    raiseIf (product.val.storeId ≠ storeId) (.conflict .storeMismatch)

/-- An order item as its columns keep it; nothing of it has been received or invoiced. -/
def PurchaseOrderItemInput.row (line : PurchaseOrderItemInput) (purchaseOrderId : ℕ) :
    PurchaseOrderItem where
  purchaseOrderId := purchaseOrderId
  productId := line.productId
  quantityOrdered := numeric 3 line.quantityOrdered
  quantityReceived := 0
  quantityInvoiced := 0
  unitCost := numeric 6 line.unitCost

/-- `_create_purchase_order_inner`: the tables after the request, and the id of the order. -/
def createPurchaseOrderInner (db : Db) (req : CreatePurchaseOrder)
    (replenishmentPlanId : Option ℕ) : Result (Db × ℕ) := do
  enforceStoreAccess req.callerStoreId req.storeId
  match ← scalarOneOrNone
      (rowsWhere (·.clientTransactionId = req.clientTransactionId) db.purchasing.orders) with
  | some (purchaseOrderId, _) => return (db, purchaseOrderId)
  | none => do
    let store ← orRaise db.master.stores[req.storeId]? .notFound
    raiseIf (¬store.isActive) .notFound
    let supplier ← orRaise db.master.suppliers[req.supplierId]? (.validation .invalidSupplier)
    raiseIf (¬supplier.isActive) (.validation .invalidSupplier)
    validatePoItems db req.storeId req.lines
    let purchaseOrderId := db.purchasing.orders.length
    let items ← req.lines.mapM fun line => flush (line.row purchaseOrderId)
    return ({ db with
      purchasing.orders := db.purchasing.orders ++ [{
        storeId := req.storeId
        supplierId := req.supplierId
        clientTransactionId := req.clientTransactionId
        status := .draft
        orderDate := req.orderDate
        replenishmentPlanId := replenishmentPlanId }]
      purchasing.orderItems := db.purchasing.orderItems ++ items }, purchaseOrderId)

/-- `create_purchase_order`: a draft that comes from no replenishment plan. -/
def createPurchaseOrder (db : Db) (req : CreatePurchaseOrder) : Result (Db × ℕ) :=
  createPurchaseOrderInner db req none

/-! ### Submitting and cancelling -/

/-- The request to move an order on, by submitting or by cancelling it. -/
structure MovePurchaseOrder where
  purchaseOrderId : ℕ
  callerStoreId : Option ℕ

/-- The transitions that check the caller's store and the status of the order and set
the next one. -/
def setOrderStatus (db : Db) (req : MovePurchaseOrder) (allowed : List PurchaseOrderStatus)
    (status : PurchaseOrderStatus) : Result Db := do
  let order ← orRaise db.purchasing.orders[req.purchaseOrderId]? .notFound
  enforceStoreAccess req.callerStoreId order.storeId
  raiseIf (order.status ∉ allowed) (.conflict .invalidPoState)
  return { db with
    purchasing.orders := db.purchasing.orders.set req.purchaseOrderId { order with status } }

/-- `submit_purchase_order`: a draft is ordered, and goods can be received against it. -/
def submitPurchaseOrder (db : Db) (req : MovePurchaseOrder) : Result Db :=
  setOrderStatus db req [.draft] .ordered

/-- `cancel_purchase_order`: an order that has not been received in full is given up, whatever came
in stays. -/
def cancelPurchaseOrder (db : Db) (req : MovePurchaseOrder) : Result Db :=
  setOrderStatus db req [.draft, .ordered, .partiallyReceived] .cancelled

/-! ### What a request that succeeds has done -/

section Inversion

variable {db db' : Db}

theorem validatePoItems_ok {storeId : ℕ} {lines : List PurchaseOrderItemInput}
    (h : validatePoItems db storeId lines = .ok ()) :
    ∀ l ∈ lines, ∃ p, db.stock.products[l.productId]? = some p ∧ p.val.storeId = storeId := by
  unfold validatePoItems at h
  rw [check_bind_eq_ok, forM_eq_ok] at h
  intro l hl
  have hl := h.2 l hl
  simp only [↓check_bind_eq_ok, bind_eq_ok, orRaise_eq_ok, raiseIf_eq_ok, ne_eq, not_not] at hl
  obtain ⟨-, -, p, hp, hstore⟩ := hl
  exact ⟨p, hp, hstore⟩

/-- A request is a replay of the order with its key, or there is none and it appends a draft
order and its items. -/
theorem createPurchaseOrderInner_cases {req : CreatePurchaseOrder} {replenishmentPlanId : Option ℕ}
    {purchaseOrderId : ℕ}
    (h : createPurchaseOrderInner db req replenishmentPlanId = .ok (db', purchaseOrderId)) :
    (db' = db ∧ ∃ order, db.purchasing.orders[purchaseOrderId]? = some order ∧
      order.clientTransactionId = req.clientTransactionId) ∨
    (∀ order ∈ db.purchasing.orders, order.clientTransactionId ≠ req.clientTransactionId) ∧
    purchaseOrderId = db.purchasing.orders.length ∧
    ∃ (order : PurchaseOrder) (items : List (Row PurchaseOrderItem)),
      (order.storeId = req.storeId ∧ order.supplierId = req.supplierId ∧
        order.replenishmentPlanId = replenishmentPlanId) ∧
      items.map Subtype.val = req.lines.map (·.row db.purchasing.orders.length) ∧
      (∀ l ∈ req.lines, ∃ p, db.stock.products[l.productId]? = some p ∧
        p.val.storeId = req.storeId) ∧
      db' = { db with
        purchasing.orders := db.purchasing.orders ++ [order]
        purchasing.orderItems := db.purchasing.orderItems ++ items } := by
  unfold createPurchaseOrderInner at h
  simp only [↓check_bind_eq_ok, bind_eq_ok] at h
  obtain ⟨-, found, hfound, h⟩ := h
  cases found with
  -- an order with the key of the request is returned as it is
  | some o =>
    obtain ⟨i, order⟩ := o
    simp only [pure_eq_ok, Prod.mk.injEq] at h
    obtain ⟨rfl, rfl⟩ := h
    have hmem := List.mem_singleton_self (i, order)
    rw [← scalarOneOrNone_eq_some.mp hfound] at hmem
    exact .inl ⟨rfl, order, mem_rowsWhere.mp hmem⟩
  | none =>
    have hnone := scalarOneOrNone_eq_none.mp hfound
    simp only [↓check_bind_eq_ok, bind_eq_ok, orRaise_eq_ok, pure_eq_ok, Prod.mk.injEq] at h
    obtain ⟨_, -, -, _, -, -, hvalid, items, hitems, rfl, rfl⟩ := h
    refine .inr ⟨?_, rfl, _, items, ⟨rfl, rfl, rfl⟩, ?_, validatePoItems_ok hvalid, rfl⟩
    -- the lookup by key found nothing, so no order has it
    · intro order horder hkey
      obtain ⟨i, hi⟩ := List.getElem?_of_mem horder
      have hmem : (i, order) ∈ rowsWhere (·.clientTransactionId = req.clientTransactionId)
          db.purchasing.orders := mem_rowsWhere.mpr ⟨hi, hkey⟩
      rw [hnone] at hmem
      exact absurd hmem List.not_mem_nil
    · exact map_of_mapM hitems fun line item hrow => flush_eq_ok.mp hrow

/-- A request that is not a replay appends a draft order and its items. -/
theorem createPurchaseOrderInner_ok {req : CreatePurchaseOrder} {replenishmentPlanId : Option ℕ}
    {purchaseOrderId : ℕ}
    (h : createPurchaseOrderInner db req replenishmentPlanId = .ok (db', purchaseOrderId)) :
    db' = db ∨ ∃ (order : PurchaseOrder) (items : List (Row PurchaseOrderItem)),
      order.storeId = req.storeId ∧ order.replenishmentPlanId = replenishmentPlanId ∧
      items.map Subtype.val = req.lines.map (·.row db.purchasing.orders.length) ∧
      (∀ l ∈ req.lines, ∃ p, db.stock.products[l.productId]? = some p ∧
        p.val.storeId = req.storeId) ∧
      db' = { db with
        purchasing.orders := db.purchasing.orders ++ [order]
        purchasing.orderItems := db.purchasing.orderItems ++ items } := by
  rcases createPurchaseOrderInner_cases h with ⟨rfl, -⟩ | ⟨-, -, order, items, ⟨hstore, -, hplan⟩,
    hitems, hproducts, rfl⟩
  · exact .inl rfl
  · exact .inr ⟨order, items, hstore, hplan, hitems, hproducts, rfl⟩

theorem createPurchaseOrder_ok {req : CreatePurchaseOrder} {purchaseOrderId : ℕ}
    (h : createPurchaseOrder db req = .ok (db', purchaseOrderId)) :
    db' = db ∨ ∃ (order : PurchaseOrder) (items : List (Row PurchaseOrderItem)),
      order.storeId = req.storeId ∧
      items.map Subtype.val = req.lines.map (·.row db.purchasing.orders.length) ∧
      (∀ l ∈ req.lines, ∃ p, db.stock.products[l.productId]? = some p ∧
        p.val.storeId = req.storeId) ∧
      db' = { db with
        purchasing.orders := db.purchasing.orders ++ [order]
        purchasing.orderItems := db.purchasing.orderItems ++ items } := by
  rcases createPurchaseOrderInner_ok h with rfl | ⟨order, items, hstore, -, hitems, hproducts, rfl⟩
  · exact .inl rfl
  · exact .inr ⟨order, items, hstore, hitems, hproducts, rfl⟩

theorem setOrderStatus_ok {req : MovePurchaseOrder} {allowed : List PurchaseOrderStatus}
    {status : PurchaseOrderStatus} (h : setOrderStatus db req allowed status = .ok db') :
    ∃ order, db.purchasing.orders[req.purchaseOrderId]? = some order ∧ order.status ∈ allowed ∧
      db' = { db with
        purchasing.orders :=
          db.purchasing.orders.set req.purchaseOrderId { order with status } } := by
  unfold setOrderStatus at h
  simp only [↓check_bind_eq_ok, bind_eq_ok, orRaise_eq_ok, raiseIf_eq_ok, pure_eq_ok, not_not] at h
  obtain ⟨order, horder, -, hstatus, rfl⟩ := h
  exact ⟨order, horder, hstatus, rfl⟩

end Inversion

end GroceryErp
