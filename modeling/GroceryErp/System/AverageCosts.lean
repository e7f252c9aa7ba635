import GroceryErp.System.StockRuns

/-!
# The average cost of what comes in

An inflow sets the average cost of its product to the mean of the stock there was and what
comes in, weighted by the quantities.  Into stock that is not negative this is a mean in the
usual sense.  A product that has been oversold enters with a negative weight, and the mean of a
negative and a positive quantity can lie anywhere.

## Main definitions

* `Inflow` — the movements of goods receipts, restocked returns and transfer receipts.
* `Averages` — the new cost lies between the old one and that of what comes in, and is accepted.

## Main results

* `Inflow.averages` — an inflow into stock that is not negative, or that it clears, averages.
* `average_cost_between` — in every state, and for no other products do all inflows.

## References

`backend/app/modules/inventory/service.py`, `compute_new_wac`;
`docs/TECHNICAL_BLUEPRINT.md`, `docs/M1_DATABASE_DESIGN.md`, negative inventory.
-/

namespace GroceryErp

open Decimal Outcome Rows Runs

/-! ### Weighted means -/

section Mean

variable {q w r c : ℚ}

theorem min_le_mean (hq : 0 ≤ q) (hr : 0 < r) : min w c ≤ (q * w + r * c) / (q + r) := by
  have hqr : 0 < q + r := by linarith
  rw [le_div_iff₀ hqr]
  have hw : q * min w c ≤ q * w := mul_le_mul_of_nonneg_left (min_le_left w c) hq
  have hc : r * min w c ≤ r * c := mul_le_mul_of_nonneg_left (min_le_right w c) hr.le
  linarith

theorem mean_le_max (hq : 0 ≤ q) (hr : 0 < r) : (q * w + r * c) / (q + r) ≤ max w c := by
  have hqr : 0 < q + r := by linarith
  rw [div_le_iff₀ hqr]
  have hw : q * w ≤ q * max w c := mul_le_mul_of_nonneg_left (le_max_left w c) hq
  have hc : r * c ≤ r * max w c := mul_le_mul_of_nonneg_left (le_max_right w c) hr.le
  linarith

/-- The new average is the weighted mean, up to half a quantum. -/
theorem abs_computeNewWac_sub_mean_le (h : q + r ≠ 0) :
    |computeNewWac q w r c - (q * w + r * c) / (q + r)| ≤ quantum 6 / 2 := by
  rw [computeNewWac, if_neg h]
  exact abs_quantize_sub_le 6 _

/-- **The new average lies between the two costs**, up to half a quantum, if the stock there was
is not negative or is cleared. -/
theorem computeNewWac_between (hr : 0 < r) (h : 0 ≤ q ∨ q + r = 0) :
    min w c - quantum 6 / 2 ≤ computeNewWac q w r c ∧
      computeNewWac q w r c ≤ max w c + quantum 6 / 2 := by
  by_cases hzero : q + r = 0
  · -- nothing is left, and the cost is that of what comes in
    have hclose := abs_le.mp (abs_quantize_sub_le 6 c)
    rw [computeNewWac, if_pos hzero]
    constructor
    · linarith [min_le_right w c]
    · linarith [le_max_right w c]
  · have hq := h.resolve_right hzero
    have hclose := abs_le.mp (abs_computeNewWac_sub_mean_le (w := w) (c := c) hzero)
    have hlow : min w c ≤ (q * w + r * c) / (q + r) := min_le_mean hq hr
    have hhigh : (q * w + r * c) / (q + r) ≤ max w c := mean_le_max hq hr
    constructor <;> linarith

end Mean

/-! ### Inflows -/

/-- The movements that goods receipts, restocked returns and transfer receipts make of a
product. -/
inductive Inflow (p : Product) : MovementInput → Prop
  | receipt {l : ReceiptLine} (storeId purchaseOrderId : ℕ) (quantity : 0 < l.quantityReceived)
      (cost : 0 ≤ l.unitCost) : Inflow p (l.movement storeId purchaseOrderId p)
  | restocked {l : ReturnLine} (storeId saleReturnId : ℕ) (quantity : 0 < l.quantity) :
      Inflow p (l.movement storeId saleReturnId p)
  | transferred {l : TransferReceiptLine} (storeId transferId : ℕ)
      (quantity : 0 < l.input.quantityReceived) (cost : 0 ≤ l.unitCost) :
      Inflow p (l.movement storeId transferId p)

/-- The cost the movement sets lies between that of the product and that of what comes in, up to
half a quantum; it is not negative, and the database takes it. -/
structure Averages (p : Product) (m : MovementInput) : Prop where
  low : min p.currentCost m.unitCostAtMovement - quantum 6 / 2 ≤ (p.afterMovement m).currentCost
  high : (p.afterMovement m).currentCost ≤ max p.currentCost m.unitCostAtMovement + quantum 6 / 2
  nonneg : 0 ≤ (p.afterMovement m).currentCost
  /-- `ck_products_current_cost_non_negative`: the average that the movement leads to is one the
  column takes. -/
  accepted : 0 ≤ (p.afterMovement m).stored.currentCost

namespace Inflow

variable {p : Product} {m : MovementInput}

/-- Every inflow is a positive quantity at a cost, and sets the new average. -/
theorem spec (h : Inflow p m) : 0 < m.quantityDelta ∧ 0 ≤ m.unitCostAtMovement ∧
    (p.afterMovement m).currentCost = computeNewWac p.currentQtyOnHand p.currentCost
      m.quantityDelta m.unitCostAtMovement := by
  cases h with
  | receipt storeId purchaseOrderId quantity cost => exact ⟨quantity, cost, rfl⟩
  | @restocked l storeId saleReturnId quantity =>
    exact ⟨quantity, l.item.property.cost_nonneg, rfl⟩
  | transferred storeId transferId quantity cost => exact ⟨quantity, cost, rfl⟩

/-- **An inflow into stock that is not negative, or that it clears, averages.** -/
theorem averages (h : Inflow p m) (hcost : 0 ≤ p.currentCost)
    (hstock : 0 ≤ p.currentQtyOnHand ∨ p.currentQtyOnHand + m.quantityDelta = 0) :
    Averages p m := by
  obtain ⟨hquantity, hunit, hnew⟩ := h.spec
  obtain ⟨hlow, hhigh⟩ := computeNewWac_between (w := p.currentCost) (c := m.unitCostAtMovement)
    hquantity hstock
  have hnonneg : 0 ≤ (p.afterMovement m).currentCost := by
    rw [hnew]
    rcases hstock with hq | hzero
    · exact computeNewWac_nonneg hq hcost hquantity.le hunit
    · rw [computeNewWac, if_pos hzero]
      exact quantize_nonneg hunit
  rw [← hnew] at hlow hhigh
  exact ⟨hlow, hhigh, hnonneg, quantize_nonneg hnonneg⟩

end Inflow

/-- Twice what a product is short of, at one more than its cost. -/
def doubleShortage (p : Product) : TransferReceiptLine where
  input := { transferLineId := 0, quantityReceived := -2 * p.currentQtyOnHand }
  productId := 0
  unitCost := p.currentCost + 1

/-- It takes the average one further. -/
theorem not_averages_doubleShortage {p : Product} (hcost : OnGrid 6 p.currentCost)
    (hstock : p.currentQtyOnHand < 0) : ¬Averages p ((doubleShortage p).movement 0 0 p) := by
  intro h
  have hne : p.currentQtyOnHand + -2 * p.currentQtyOnHand ≠ 0 := by
    intro heq
    linarith
  have hmean : (p.currentQtyOnHand * p.currentCost
      + -2 * p.currentQtyOnHand * (p.currentCost + 1))
        / (p.currentQtyOnHand + -2 * p.currentQtyOnHand) = p.currentCost + 2 := by
    rw [div_eq_iff hne]
    ring
  have hnew : (p.afterMovement ((doubleShortage p).movement 0 0 p)).currentCost
      = p.currentCost + 2 := by
    show computeNewWac p.currentQtyOnHand p.currentCost (-2 * p.currentQtyOnHand)
      (p.currentCost + 1) = _
    rw [computeNewWac, if_neg hne, hmean]
    exact quantize_eq_self (hcost.add ⟨2000000, by norm_num⟩)
  have hhigh := h.high
  rw [hnew] at hhigh
  have hmax : max p.currentCost (p.currentCost + 1) = p.currentCost + 1 :=
    max_eq_right (by linarith)
  change p.currentCost + 2 ≤ max p.currentCost (p.currentCost + 1) + quantum 6 / 2 at hhigh
  rw [hmax] at hhigh
  norm_num [quantum] at hhigh
  linarith

/-! ### Every state -/

section Runs

variable {db₀ db : Db}

/-- The products are as their columns keep them, so that storing one again changes nothing. -/
def ProductsStored (db : Db) : Prop := ∀ p ∈ db.stock.products, p.val.stored = p.val

theorem productsStored_of_reaches {ok : Db → StockRequest → Prop} (hstart : ProductsStored db₀)
    (hrun : Reaches StockRequest.exec ok db₀ db) : ProductsStored db := by
  refine hrun.invariant hstart ?_
  intro _ r _ _ _ hdone p hp
  obtain ⟨d, -, rfl⟩ := map_eq_ok.mp hdone
  obtain ⟨q, -, rfl⟩ := List.mem_map.mp hp
  exact q.val.stored_stored

/-- **In every state, an inflow into stock that is not negative, or that it clears, sets an average
between the old one and its own cost, and is accepted.**  Every other sets the mean weighted by
the quantities, up to half a quantum.  All inflows of a product average exactly when its stock is
not negative. -/
theorem average_cost_between (hstart : ProductsStored db₀)
    (hrun : Reaches StockRequest.exec (fun _ _ => True) db₀ db) {p : Row Product}
    (hp : p ∈ db.stock.products) :
    (∀ m, Inflow p.val m →
      0 ≤ p.val.currentQtyOnHand ∨ p.val.currentQtyOnHand + m.quantityDelta = 0 →
      Averages p.val m) ∧
    (∀ m, Inflow p.val m → p.val.currentQtyOnHand + m.quantityDelta ≠ 0 →
      |(p.val.afterMovement m).currentCost
        - (p.val.currentQtyOnHand * p.val.currentCost + m.quantityDelta * m.unitCostAtMovement)
          / (p.val.currentQtyOnHand + m.quantityDelta)| ≤ quantum 6 / 2) ∧
    ((∀ m, Inflow p.val m → Averages p.val m) ↔ 0 ≤ p.val.currentQtyOnHand) := by
  have hstored := productsStored_of_reaches hstart hrun p hp
  have hgrid : OnGrid 6 p.val.currentCost := by
    rw [← hstored]
    exact onGrid_numeric 6 _
  have hcost : 0 ≤ p.val.currentCost := by
    rw [← hstored]
    exact p.property.cost_nonneg
  refine ⟨fun m hm hstock => hm.averages hcost hstock, ?_, ?_⟩
  -- the average is rounded to its column, by half a quantum at the most
  · intro m hm hne
    rw [hm.spec.2.2]
    exact abs_computeNewWac_sub_mean_le hne
  · constructor
    -- twice the shortage at a cost above the average brings the average down
    · intro hall
      by_contra hneg
      rw [not_le] at hneg
      refine not_averages_doubleShortage hgrid hneg (hall _ (.transferred 0 0 ?_ ?_))
      · show 0 < -2 * p.val.currentQtyOnHand
        linarith
      · show 0 ≤ p.val.currentCost + 1
        linarith
    · intro hstock m hm
      exact hm.averages hcost (.inl hstock)

end Runs

/-! ### Apples on backorder -/

/-- The greengrocer's apples, which may be oversold. -/
def backorderShop : Db where
  master := greengrocer.master
  stock := {
    products := [⟨{
      storeId := 0, sku := "APPLE", categoryId := none, currentPrice := 2, currentCost := 0
      taxRateId := none, currentQtyOnHand := 0, allowNegativeStock := true, isActive := true },
      by decide +kernel⟩] }

theorem backorderShop_stored : ProductsStored backorderShop := by
  unfold ProductsStored
  decide +kernel

/-- An apple is delivered at four, and six are sold. -/
def applesOversold : Db :=
  value (([.createPurchaseOrder orderApples, .submitPurchaseOrder ⟨0, none⟩,
    .receiveGoods (deliverApples 1 4 "receipt-1"),
    .finalizeSale { sellApple with
      lines := [{ productId := 0, quantity := 6 }]
      payments := [⟨.cash, 12⟩] }] : List StockRequest).foldlM
      (fun db r => StockRequest.exec r db) backorderShop) (by decide +kernel)

theorem reaches_applesOversold :
    Reaches StockRequest.exec (fun _ _ => True) backorderShop applesOversold :=
  reaches_of_foldlM (eq_ok_value _ _)

def oversoldApples : Row Product := applesOversold.stock.products.head (by decide +kernel)

/-- What clears the shortage is averaged; not everything is. -/
theorem average_cost_between_apples :
    (∀ m, Inflow oversoldApples.val m → m.quantityDelta = 5 → Averages oversoldApples.val m) ∧
      ¬∀ m, Inflow oversoldApples.val m → Averages oversoldApples.val m := by
  have hshort : oversoldApples.val.currentQtyOnHand = -5 := by decide +kernel
  have hmem : oversoldApples ∈ applesOversold.stock.products := List.head_mem _
  obtain ⟨hclears, -, hall⟩ :=
    average_cost_between backorderShop_stored reaches_applesOversold hmem
  refine ⟨fun m hm hfive => hclears m hm (.inr ?_), fun h => ?_⟩
  · rw [hshort, hfive]
    norm_num
  · have hnonneg := hall.mp h
    rw [hshort] at hnonneg
    norm_num at hnonneg

/-- **Six apples at one are delivered on the five that are missing at four**: the average is -14,
and the receipt is refused. -/
theorem receipt_refused :
    Reaches StockRequest.exec (fun _ _ => True) backorderShop applesOversold ∧
      computeNewWac (-5) 4 6 1 = -14 ∧
      errorOf (receiveGoods applesOversold (deliverApples 6 1 "receipt-2"))
        = some (.integrity .products) :=
  ⟨reaches_applesOversold, by decide +kernel, by decide +kernel⟩

end GroceryErp
