import GroceryErp.Accounting.Postings
import GroceryErp.Inventory.Bookings

/-!
# Stock adjustments

An adjustment corrects the quantity of one product at its current cost: one
adjustment row, one movement, and one entry against the gain or shrinkage account.

## Main definitions

* `createStockAdjustment` — the service function.
* `createAdjustment` — the endpoint, which names the product's own store.

## Main results

* `createStockAdjustment_ok` — what a request that succeeds has checked and written.

## References

`backend/app/modules/inventory/service.py`, `create_stock_adjustment`;
`backend/app/api/v1/endpoints/inventory.py`, `create_adjustment`.
-/

namespace GroceryErp

open Decimal Ledger Outcome Rows

/-! ### Adjusting -/

/-- The arguments of `create_stock_adjustment`: so many units more or fewer of a product, and why.
-/
structure StockAdjustmentInput where
  storeId : ℕ
  productId : ℕ
  quantityDelta : ℚ
  reasonCode : AdjustmentReason
  today : Date
  stockCountId : Option ℕ := none
  clientTransactionId : Option String := none
  callerStoreId : Option ℕ := none

namespace StockAdjustmentInput

variable (a : StockAdjustmentInput)

/-- The adjustment as its columns keep it, the quantity rounded to three decimals. -/
def row : StockAdjustment where
  storeId := a.storeId
  productId := a.productId
  quantityDelta := numeric 3 a.quantityDelta
  reasonCode := a.reasonCode
  stockCountId := a.stockCountId
  clientTransactionId := a.clientTransactionId

/-- The movement of the adjustment, at the product's current cost. -/
def movement (adjustmentId : ℕ) (product : Product) : MovementInput where
  storeId := a.storeId
  movementType := if 0 < a.quantityDelta then .stockAdjustmentIn else .stockAdjustmentOut
  quantityDelta := a.quantityDelta
  unitCostAtMovement := product.currentCost
  referenceType := .stockAdjustment
  referenceId := some adjustmentId

end StockAdjustmentInput

/-- The adjustment that already carries the client's key; no key finds none. -/
def adjustmentWithKey (db : Db) (key : Option String) : List (ℕ × Row StockAdjustment) :=
  rowsWhere (fun a => key ≠ none ∧ a.val.clientTransactionId = key) db.stock.adjustments

/-- The adjustment is written, with its movement and its entry. -/
def writeAdjustment (db : Db) (a : StockAdjustmentInput) : Result (Db × ℕ) := do
  let adjustment ← flush a.row
  let adjustmentId := db.stock.adjustments.length
  let db := { db with stock.adjustments := db.stock.adjustments ++ [adjustment] }
  let product ← orRaise db.stock.products[a.productId]? .notFound
  let db ← recordMovement db a.productId (a.movement adjustmentId product.val)
  let db ← postStockAdjustmentJournal db a.storeId adjustmentId a.today a.quantityDelta
    product.val.currentCost
  return (db, adjustmentId)

/-- `create_stock_adjustment`: the tables after the request, and the id of the
adjustment. -/
def createStockAdjustment (db : Db) (a : StockAdjustmentInput) : Result (Db × ℕ) := do
  match ← scalarOneOrNone (adjustmentWithKey db a.clientTransactionId) with
  | some (adjustmentId, _) => return (db, adjustmentId)
  | none => do
    enforceStoreAccess a.callerStoreId a.storeId
    writeAdjustment db a

/-- The body of a request to `/inventory/adjustments`, with the caller's store. -/
structure CreateAdjustment where
  productId : ℕ
  quantityDelta : ℚ
  reasonCode : AdjustmentReason
  clientTransactionId : Option String
  callerStoreId : Option ℕ
  today : Date

/-- The adjustment a request asks for, in the name of the product's store. -/
def CreateAdjustment.input (req : CreateAdjustment) (storeId : ℕ) : StockAdjustmentInput where
  storeId := storeId
  productId := req.productId
  quantityDelta := req.quantityDelta
  reasonCode := req.reasonCode
  today := req.today
  clientTransactionId := req.clientTransactionId
  callerStoreId := req.callerStoreId

/-- The endpoint `create_adjustment`, up to its commit.  The schema of the body has
refused a zero delta before. -/
def createAdjustment (db : Db) (req : CreateAdjustment) : Result (Db × ℕ) := do
  let product ← orRaise db.stock.products[req.productId]? .notFound
  enforceStoreAccess req.callerStoreId product.val.storeId
  createStockAdjustment db (req.input product.val.storeId)

/-! ### What a request that succeeds has done -/

section Inversion

variable {db db' : Db} {a : StockAdjustmentInput} {adjustmentId : ℕ}

theorem writeAdjustment_ok (h : writeAdjustment db a = .ok (db', adjustmentId)) :
    ∃ adjustment p d, db.stock.products[a.productId]? = some p ∧
      recordMovement { db with stock.adjustments := db.stock.adjustments ++ [adjustment] }
        a.productId (a.movement db.stock.adjustments.length p.val) = .ok d ∧
      postStockAdjustmentJournal d a.storeId db.stock.adjustments.length a.today a.quantityDelta
        p.val.currentCost = .ok db' := by
  unfold writeAdjustment at h
  simp only [bind_eq_ok, orRaise_eq_ok, pure_eq_ok, Prod.mk.injEq] at h
  obtain ⟨adjustment, -, p, hp, d, hd, d', hd', rfl, -⟩ := h
  exact ⟨adjustment, p, d, hp, hd, hd'⟩

/-- The entry of an adjustment is all its posting writes. -/
theorem postStockAdjustmentJournal_frame {storeId : ℕ} {today : Date} {q c : ℚ}
    (h : postStockAdjustmentJournal db storeId adjustmentId today q c = .ok db') :
    db' = { db with ledger.entries := db'.ledger.entries } := by
  unfold postStockAdjustmentJournal at h
  dsimp only at h
  split at h
  · exact postJournalUnlessEmpty_frame h
  · exact postJournalUnlessEmpty_frame h

/-- The row of the adjustment is added. -/
theorem writeAdjustment_added (h : writeAdjustment db a = .ok (db', adjustmentId)) :
    ∃ adjustment : Row StockAdjustment, adjustment.val = a.row ∧
      db'.stock.adjustments = db.stock.adjustments ++ [adjustment] := by
  unfold writeAdjustment at h
  simp only [bind_eq_ok, orRaise_eq_ok, flush_eq_ok, pure_eq_ok, Prod.mk.injEq] at h
  obtain ⟨adjustment, hrow, p, -, d, hd, d', hd', rfl, -⟩ := h
  refine ⟨adjustment, hrow, ?_⟩
  rw [postStockAdjustmentJournal_frame hd', recordMovement_frame hd]
  rfl

/-- A request that is not a replay is written. -/
theorem createStockAdjustment_ok (h : createStockAdjustment db a = .ok (db', adjustmentId)) :
    db' = db ∨ writeAdjustment db a = .ok (db', adjustmentId) := by
  unfold createStockAdjustment at h
  rw [bind_eq_ok] at h
  obtain ⟨found, -, h⟩ := h
  cases found with
  | some r =>
    obtain ⟨i, row⟩ := r
    simp only [pure_eq_ok, Prod.mk.injEq] at h
    exact .inl h.1.symm
  | none =>
    rw [check_bind_eq_ok] at h
    exact .inr h.2

/-- A request without a key is never a replay. -/
theorem createStockAdjustment_unkeyed (ha : a.clientTransactionId = none)
    (h : createStockAdjustment db a = .ok (db', adjustmentId)) :
    writeAdjustment db a = .ok (db', adjustmentId) := by
  have hnone : adjustmentWithKey db a.clientTransactionId = [] := by
    rw [ha]
    simp [adjustmentWithKey, rowsWhere]
  unfold createStockAdjustment at h
  rw [bind_eq_ok] at h
  obtain ⟨found, hfound, h⟩ := h
  rw [hnone] at hfound
  cases hfound
  rw [check_bind_eq_ok] at h
  exact h.2

/-- The product comes to its quantity and the delta. -/
theorem writeAdjustment_products (h : writeAdjustment db a = .ok (db', adjustmentId)) :
    ∃ p p' : Row Product, db.stock.products[a.productId]? = some p ∧
      p'.val.currentQtyOnHand = p.val.currentQtyOnHand + a.quantityDelta ∧
      db'.stock.products = db.stock.products.set a.productId p' := by
  obtain ⟨adjustment, p, d, hp, hm, hj⟩ := writeAdjustment_ok h
  obtain ⟨q, q', row, hq, -, hq', -, rfl⟩ := recordMovement_eq_ok.mp hm
  obtain rfl : p = q := Option.some.inj (hp.symm.trans hq)
  refine ⟨p, q', hp, ?_, by rw [postStockAdjustmentJournal_frame hj]⟩
  rw [hq']
  rfl

theorem createAdjustment_ok {req : CreateAdjustment}
    (h : createAdjustment db req = .ok (db', adjustmentId)) :
    ∃ p, db.stock.products[req.productId]? = some p ∧
      createStockAdjustment db (req.input p.val.storeId) = .ok (db', adjustmentId) := by
  unfold createAdjustment at h
  simp only [↓check_bind_eq_ok, bind_eq_ok, orRaise_eq_ok] at h
  obtain ⟨p, hp, -, h⟩ := h
  exact ⟨p, hp, h⟩

/-- What an adjustment posts to the accounts of a store. -/
theorem glBalance_postStockAdjustmentJournal {d d' : Db} {storeId : ℕ} {today : Date} {q c : ℚ}
    (h : postStockAdjustmentJournal d storeId adjustmentId today q c = .ok d') (hc : 0 ≤ c)
    (s : ℕ) :
    glBalance d' s .inventory = glBalance d s .inventory
      + if storeId = s then ledgerQuantize (q * c) else 0 := by
  have hx : 0 ≤ ledgerQuantize (|q| * c) := quantize_nonneg (mul_nonneg (abs_nonneg q) hc)
  have hg : OnGrid 6 (ledgerQuantize (|q| * c)) := onGrid_ledgerQuantize _
  unfold postStockAdjustmentJournal at h
  dsimp only at h
  split at h
  · next hq =>
    rw [glBalance_postPair h hx hg, abs_of_pos hq]
    simp
  · next hq =>
    have hneg : ledgerQuantize (|q| * c) = -ledgerQuantize (q * c) := by
      rw [abs_of_nonpos (not_lt.mp hq), neg_mul]
      exact quantize_neg 6 _
    rw [glBalance_postPair h hx hg, hneg]
    simp

end Inversion

end GroceryErp
