import GroceryErp.Errors
import GroceryErp.Schema

/-!
# The inventory ledger

Stock moves only through `recordMovement`, which appends one row to the ledger
and brings the product's cached quantity and cost up to date.

## Main definitions

* `computeNewWac` — the weighted average cost after an inflow.
* `recordMovement` — one movement.
* `getQuantityOnHandFromLedger` — the sum of a product's movements.

## Main results

* `recordMovement_eq_ok` — what a movement that succeeds has checked and written.
* `abs_newWac_value_sub_le` — an inflow at its new average cost is worth what was
  there and what came in, up to half a cost quantum per unit.

## References

`backend/app/modules/inventory/service.py`.
-/

namespace GroceryErp

open Decimal Outcome Rows

/-! ### Weighted average cost -/

/-- `compute_new_wac`: the weighted average of what is there and what comes in. It is the incoming
cost when the quantities cancel. -/
def computeNewWac (existingQty existingWac receivedQty receivedUnitCost : ℚ) : ℚ :=
  let totalQty := existingQty + receivedQty
  if totalQty = 0 then
    quantize 6 receivedUnitCost
  else
    quantize 6 ((existingQty * existingWac + receivedQty * receivedUnitCost) / totalQty)

/-- An inflow into stock that is not negative, priced at the new average cost, is
worth what was there and what came in, up to half a cost quantum per unit. -/
theorem abs_newWac_value_sub_le {q w r c : ℚ} (hq : 0 ≤ q) (hr : 0 < r) :
    |(q + r) * computeNewWac q w r c - (q * w + r * c)| ≤ quantum 6 / 2 * (q + r) := by
  have hqr : 0 < q + r := by linarith
  have hround := abs_quantize_sub_le 6 ((q * w + r * c) / (q + r))
  rw [computeNewWac, if_neg hqr.ne']
  calc |(q + r) * quantize 6 ((q * w + r * c) / (q + r)) - (q * w + r * c)|
      = |(q + r) * (quantize 6 ((q * w + r * c) / (q + r)) - (q * w + r * c) / (q + r))| := by
        congr 1
        field_simp
    _ = (q + r) * |quantize 6 ((q * w + r * c) / (q + r)) - (q * w + r * c) / (q + r)| := by
        rw [abs_mul, abs_of_pos hqr]
    _ ≤ (q + r) * (quantum 6 / 2) := mul_le_mul_of_nonneg_left hround hqr.le
    _ = quantum 6 / 2 * (q + r) := mul_comm _ _

theorem onGrid_computeNewWac (q w r c : ℚ) : OnGrid 6 (computeNewWac q w r c) := by
  unfold computeNewWac
  dsimp only
  split <;> exact onGrid_quantize 6 _

theorem computeNewWac_nonneg {q w r c : ℚ} (hq : 0 ≤ q) (hw : 0 ≤ w) (hr : 0 ≤ r) (hc : 0 ≤ c) :
    0 ≤ computeNewWac q w r c := by
  unfold computeNewWac
  dsimp only
  split
  · exact quantize_nonneg hc
  · exact quantize_nonneg (by positivity)

/-! ### Movements -/

/-- The arguments that `record_movement` takes after the product. -/
structure MovementInput where
  storeId : ℕ
  movementType : MovementType
  quantityDelta : ℚ
  unitCostAtMovement : ℚ
  referenceType : ReferenceType
  referenceId : Option ℕ
  newProductCost : Option ℚ := none

/-- The row of a product after a movement: its quantity, and its average cost where stock comes in.
-/
def Product.afterMovement (p : Product) (m : MovementInput) : Product :=
  { p with
    currentQtyOnHand := p.currentQtyOnHand + m.quantityDelta
    currentCost := m.newProductCost.getD p.currentCost }

/-- The row of a movement in the stock ledger, with the quantity that it leaves on hand. -/
def MovementInput.row (m : MovementInput) (productId : ℕ) (p : Product) : InventoryMovement where
  storeId := m.storeId
  productId := productId
  movementType := m.movementType
  quantityDelta := numeric 3 m.quantityDelta
  unitCostAtMovement := numeric 6 m.unitCostAtMovement
  resultingQuantityOnHand := numeric 3 (p.currentQtyOnHand + m.quantityDelta)
  referenceType := m.referenceType
  referenceId := m.referenceId

/-- `record_movement`, with the flush that writes the product row and the ledger
row. -/
def recordMovement (db : Db) (productId : ℕ) (m : MovementInput) : Result Db := do
  let product ← orRaise db.stock.products[productId]? .notFound
  raiseIf (product.val.currentQtyOnHand + m.quantityDelta < 0 ∧ ¬product.val.allowNegativeStock)
    (.conflict .insufficientStock)
  let product' ← flush (product.val.afterMovement m)
  let movement ← flush (m.row productId product.val)
  return { db with
    stock.products := db.stock.products.set productId product'
    stock.movements := db.stock.movements ++ [movement] }

variable {db db' : Db} {productId : ℕ} {m : MovementInput}

/-- What a movement that succeeds has checked and written. -/
theorem recordMovement_eq_ok :
    recordMovement db productId m = .ok db' ↔
      ∃ p p' row, db.stock.products[productId]? = some p ∧
        (0 ≤ p.val.currentQtyOnHand + m.quantityDelta ∨ p.val.allowNegativeStock) ∧
        p'.val = p.val.afterMovement m ∧ row.val = m.row productId p.val ∧
        db' = { db with
          stock.products := db.stock.products.set productId p'
          stock.movements := db.stock.movements ++ [row] } := by
  unfold recordMovement
  simp only [↓check_bind_eq_ok, bind_eq_ok, orRaise_eq_ok, raiseIf_eq_ok,
    flush_eq_ok, pure_eq_ok, not_and_or, not_lt, not_not, @eq_comm _ _ db']
  constructor
  · rintro ⟨p, hp, hq, p', hp', row, hrow, rfl⟩
    exact ⟨p, p', row, hp, hq, hp', hrow, rfl⟩
  · rintro ⟨p, p', row, hp, hq, hp', hrow, rfl⟩
    exact ⟨p, hp, hq, p', hp', row, hrow, rfl⟩

/-- The tables `s` with the products and the movements of `t`. -/
def StockTables.moved (s t : StockTables) : StockTables :=
  { s with products := t.products, movements := t.movements }

@[simp] theorem StockTables.moved_self (s : StockTables) : s.moved s = s := rfl

@[simp] theorem StockTables.moved_moved (s t u : StockTables) :
    (s.moved t).moved u = s.moved u := rfl

@[simp] theorem StockTables.moved_right (s t u : StockTables) : s.moved (t.moved u) = s.moved u :=
  rfl

/-- A movement writes a product and a row of the ledger and nothing else. -/
theorem recordMovement_frame (h : recordMovement db productId m = .ok db') :
    db' = { db with stock := db.stock.moved db'.stock } := by
  obtain ⟨_, _, _, _, _, _, _, rfl⟩ := recordMovement_eq_ok.mp h
  rfl

/-- `get_quantity_on_hand_from_ledger`: the authoritative quantity of a product, summed over its
movements. -/
def getQuantityOnHandFromLedger (s : StockTables) (productId : ℕ) : ℚ :=
  sumWhere (·.val.productId = productId) (·.val.quantityDelta) s.movements

end GroceryErp
