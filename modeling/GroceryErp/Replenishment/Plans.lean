import GroceryErp.Purchasing.Orders
import GroceryErp.Replenishment.Positions
import Mathlib.Data.List.MinMax

/-!
# Executing a replenishment plan

An approved plan becomes a draft purchase order or a draft transfer.  What is executed is
capped by what was approved, by what is still short, and for a transfer by what the source has
above its reorder point once the drafts on it are counted.

The functions are the parts of `execute_plan`, between which other sessions may commit.

## Main definitions

* `committedOutboundTransferQuantity` — what the drafts request of a product.
* `applyMoqAndPackRounding`, `getCurrentSupplierProduct` — the terms of a supplier.
* `checkPlan`, `findSourceProduct`, `currentShortfall` — what an execution reads.
* `PlanHold.decide`, `PlanHold.settle` — what it comes to, and what is written.

## Main results

* `applyMoqAndPackRounding_least` — the least number of packs is ordered.
* `applyMoqAndPackRounding_le` — what was rounded up is not exceeded by what is rounded up of
  less.
* `planTransfer_eq_transfer` — a transfer is within its bounds.
* `PlanHold.settle_ok` — what an execution has written.

## References

`backend/app/modules/replenishment/service.py`.
-/

namespace GroceryErp

open Decimal Outcome Rows

/-! ### Drafts -/

/-- The transfer of a line is a draft. -/
def transferDraft (db : Db) (transferId : ℕ) : Prop :=
  ∃ transfer ∈ db.transfers.transfers[transferId]?, transfer.val.status = .draft

instance decidableTransferDraft (db : Db) (transferId : ℕ) :
    Decidable (transferDraft db transferId) := by
  unfold transferDraft
  infer_instance

/-- `_committed_outbound_transfer_quantity`: what draft transfers have promised of a product and not
shipped. -/
def committedOutboundTransferQuantity (db : Db) (sourceProductId : ℕ) : ℚ :=
  sumWhere (fun l => l.val.sourceProductId = sourceProductId ∧ transferDraft db l.val.transferId)
    (·.val.requestedQuantity) db.transfers.lines

/-! ### Terms of a supplier -/

/-- `get_current_supplier_product`: no two rows of a supplier and a product are effective from
one date. -/
def getCurrentSupplierProduct (db : Db) (supplierId productId : ℕ) (asOf : Date) :
    Option (Row SupplierProduct) :=
  -- the days are ordered as integers, by the order that computes
  @List.argmax (Row SupplierProduct) Date Int.instLinearOrder.toPreorder Int.decLt
    (·.val.effectiveDate) <| db.replenishment.supplierProducts.filter fun s =>
      s.val.supplierId = supplierId ∧ s.val.productId = productId ∧ s.val.isActive ∧
        s.val.effectiveDate ≤ asOf

/-- The need, raised to the minimum if there is one. -/
def raiseToMinimum (need : ℚ) : Option ℚ → ℚ
  | some minimum => if need < minimum then minimum else need
  | none => need

/-- The size of a pack, which is one unless it is given. -/
def packOrOne : Option ℚ → ℚ
  | some size => if 0 < size then size else 1
  | none => 1

/-- `apply_moq_and_pack_rounding`: at least the minimum order, and then whole packs. -/
def applyMoqAndPackRounding (need : ℚ) (minimumOrderQuantity packSize : Option ℚ) : ℚ :=
  let quantity := raiseToMinimum need minimumOrderQuantity
  let pack := packOrOne packSize
  if pack = 1 then quantity else roundUpTo pack quantity

/-! ### What an execution reads -/

structure ExecutePlan where
  planId : ℕ
  callerStoreId : Option ℕ
  clientTransactionId : String
  today : Date

/-- The plan that has been executed under the client's key. -/
def planExecutedWithKey (db : Db) (key : String) : List (ℕ × Row ReplenishmentPlan) :=
  rowsWhere (·.val.executionClientTransactionId = some key) db.replenishment.plans

/-- `_enforce_plan_access`: a caller of one store may act on a plan that supplies it, or that takes
from it. -/
def enforcePlanAccess (callerStoreId : Option ℕ) (plan : ReplenishmentPlan) : Result Unit :=
  raiseIf (callerStoreId ≠ none ∧ callerStoreId ≠ some plan.destinationStoreId ∧
    callerStoreId.map PlanSource.transfer ≠ some plan.source) (.forbidden .storeAccessDenied)

/-- The plan, once its row is locked; none where there is nothing left to execute. -/
def checkPlan (db : Db) (req : ExecutePlan) : Result (Option (Row ReplenishmentPlan)) := do
  let plan ← orRaise db.replenishment.plans[req.planId]? .notFound
  enforcePlanAccess req.callerStoreId plan.val
  if plan.val.status = .executed ∨
      plan.val.executionClientTransactionId = some req.clientTransactionId then
    return none
  else do
    raiseIf (plan.val.status ≠ .approved) (.conflict .invalidPlanState)
    return some plan

/-- The product of the source store with the SKU of the destination, for a transfer. -/
def findSourceProduct (db : Db) (plan : ReplenishmentPlan) : Result (Option ℕ) := do
  let destination ← orRaise db.stock.products[plan.productId]? .notFound
  match plan.source with
  | .supplier _ => return none
  | .transfer sourceStoreId => do
    let found ← scalarOneOrNone (rowsWhere (fun p => p.val.storeId = sourceStoreId ∧
      p.val.sku = destination.val.sku) db.stock.products)
    let (productId, _) ← orRaise found .notFound
    return some productId

/-- What an execution has loaded: its plan, and the products it has locked so far. -/
structure PlanHold where
  req : ExecutePlan
  plan : Row ReplenishmentPlan
  sourceProductId : Option ℕ
  lockedProducts : List (ℕ × Row Product) := []

namespace PlanHold

/-- `ids_to_lock`: the products of a plan in ascending order, so that two executions cannot wait for
each other in a circle. -/
def idsToLock (hold : PlanHold) : List ℕ :=
  sortedIds (hold.plan.val.productId :: hold.sourceProductId.toList)

/-- A locked product with its key. -/
def product (hold : PlanHold) (productId : ℕ) : Result (ℕ × Row Product) :=
  orRaise (hold.lockedProducts.find? (·.1 = productId)) .assertion

end PlanHold

/-- The quantity a product is to be brought up to; zero counts as none. -/
def Product.target (p : Product) : ℚ :=
  ((p.targetStockQuantity.filter (· ≠ 0)).or p.reorderPoint).getD 0

/-- What a product is short of, by what was read of transfers and orders on their way. -/
def currentShortfall (inbound openPo : ℕ → ℚ) (product : ℕ × Row Product) : ℚ :=
  product.2.val.target - (positionBreakdown inbound openPo product).position

/-! ### What an execution comes to -/

inductive PlanOutcome
  /-- The plan is marked stale, and the request fails with the code. -/
  | stale (code : ErrorCode)
  | order (supplierId : ℕ) (quantity unitCost : ℚ)
  | transfer (sourceStoreId sourceProductId : ℕ) (quantity : ℚ)

/-- The order of a plan that is sourced from a supplier. -/
def planOrder (db : Db) (supplierId productId : ℕ) (today : Date) (executableQuantity : ℚ) :
    PlanOutcome :=
  match db.master.suppliers[supplierId]?,
      getCurrentSupplierProduct db supplierId productId today with
  | some supplier, some terms =>
    if supplier.isActive then
      .order supplierId (applyMoqAndPackRounding executableQuantity
        terms.val.minimumOrderQuantity (some terms.val.packSize)) terms.val.unitCost
    else .stale .supplierNoLongerAvailable
  | _, _ => .stale .supplierNoLongerAvailable

/-- The transfer of a plan that is sourced from another store. -/
def planTransfer (db : Db) (sourceStoreId : ℕ) (source : ℕ × Row Product)
    (executableQuantity : ℚ) : PlanOutcome :=
  let alreadyCommitted := committedOutboundTransferQuantity db source.1
  let sourceSurplus := max 0
    (source.2.val.currentQtyOnHand - source.2.val.reorderPoint.getD 0 - alreadyCommitted)
  let roundedQuantity := min executableQuantity sourceSurplus
  if roundedQuantity ≤ 0 then .stale .sourceStoreInsufficientSurplus
  else .transfer sourceStoreId source.1 roundedQuantity

namespace PlanHold

variable (hold : PlanHold)

/-- What an execution comes to when it is still short of something. -/
def decide (db : Db) (shortfall : ℚ) : Result PlanOutcome := do
  let executableQuantity := min hold.plan.val.suggestedQuantity shortfall
  match hold.plan.val.source with
  | .supplier supplierId =>
    return planOrder db supplierId hold.plan.val.productId hold.req.today executableQuantity
  | .transfer sourceStoreId => do
    let sourceProductId ← orRaise hold.sourceProductId .assertion
    let source ← hold.product sourceProductId
    return planTransfer db sourceStoreId source executableQuantity

/-! ### What an execution writes -/

/-- The order that is asked for, of one item and from the supplier of the plan. -/
def orderRequest (supplierId : ℕ) (quantity unitCost : ℚ) : CreatePurchaseOrder where
  storeId := hold.plan.val.destinationStoreId
  supplierId := supplierId
  orderDate := hold.req.today
  lines := [⟨hold.plan.val.productId, quantity, unitCost⟩]
  clientTransactionId := "replenishment-plan-" ++ toString hold.req.planId
  callerStoreId := hold.req.callerStoreId

/-- The transfer that is asked for, of one line and from the source of the plan. -/
def transferRequest (sourceStoreId sourceProductId : ℕ) (quantity : ℚ) : CreateTransfer where
  fromStoreId := sourceStoreId
  toStoreId := hold.plan.val.destinationStoreId
  lines := [⟨sourceProductId, quantity, some hold.plan.val.productId⟩]
  callerStoreId := hold.req.callerStoreId

/-- The plan as it is executed, but for its document. -/
def executed (quantity : ℚ) : ReplenishmentPlan :=
  { hold.plan.val with
    status := .executed
    executedQuantity := some (numeric 3 quantity)
    executionClientTransactionId := some hold.req.clientTransactionId }

/-- Another plan is linked to a document of this one. -/
def linkTaken (db : Db) (plan : ReplenishmentPlan) : Prop :=
  ∃ other ∈ db.replenishment.plans,
    (plan.generatedPurchaseOrderId ≠ none ∧
      other.val.generatedPurchaseOrderId = plan.generatedPurchaseOrderId) ∨
    (plan.generatedTransferId ≠ none ∧ other.val.generatedTransferId = plan.generatedTransferId)

instance decidableLinkTaken (db : Db) (plan : ReplenishmentPlan) :
    Decidable (linkTaken db plan) := by
  unfold linkTaken
  infer_instance

/-- The row of the plan is written, and the document in `d` with it.  Where another plan has
been executed under the key, everything is rolled back and the winner is returned. -/
def finish (db d : Db) (plan : ReplenishmentPlan) : Result Db := do
  match ← scalarOneOrNone (planExecutedWithKey db hold.req.clientTransactionId) with
  | some _ => return db
  | none => do
    checkUnique (linkTaken db plan) .uqReplenishmentPlansGenerated
    let row ← flush plan
    return { d with
      replenishment.plans := db.replenishment.plans.set hold.req.planId row }

/-- What is committed of an execution. -/
def settle (db : Db) : PlanOutcome → Result Db
  | .stale _ => do
    let row ← flush { hold.plan.val with status := .stale }
    return { db with
      replenishment.plans := db.replenishment.plans.set hold.req.planId row }
  | .order supplierId quantity unitCost => do
    let (d, purchaseOrderId) ← createPurchaseOrderInner db
      (hold.orderRequest supplierId quantity unitCost) (some hold.req.planId)
    hold.finish db d { hold.executed quantity with
      executedUnitCost := some (numeric 6 unitCost)
      generatedPurchaseOrderId := some purchaseOrderId }
  | .transfer sourceStoreId sourceProductId quantity => do
    let (d, transferId) ← createTransferInner db
      (hold.transferRequest sourceStoreId sourceProductId quantity) (some hold.req.planId)
    hold.finish db d { hold.executed quantity with generatedTransferId := some transferId }

end PlanHold

/-! ### The rounding -/

section Rounding

variable {need need' : ℚ} {minimum pack : Option ℚ}

theorem packOrOne_pos (pack : Option ℚ) : 0 < packOrOne pack := by
  unfold packOrOne
  split
  · split
    · assumption
    · exact one_pos
  · exact one_pos

theorem le_raiseToMinimum (need : ℚ) (minimum : Option ℚ) : need ≤ raiseToMinimum need minimum := by
  unfold raiseToMinimum
  split
  · split
    · next hlt => exact hlt.le
    · exact le_refl need
  · exact le_refl need

theorem raiseToMinimum_mono (hle : need ≤ need') :
    raiseToMinimum need minimum ≤ raiseToMinimum need' minimum := by
  cases minimum with
  | none => exact hle
  | some m =>
    simp only [raiseToMinimum]
    by_cases hlt : need < m
    · rw [if_pos hlt]
      split
      · exact le_refl m
      · next hnot => exact not_lt.mp hnot
    · have hnot : ¬need' < m := by linarith
      rw [if_neg hlt, if_neg hnot]
      exact hle

/-- What is not below the raised need is not below the minimum either. -/
theorem raiseToMinimum_eq_self (h : raiseToMinimum need minimum ≤ need') :
    raiseToMinimum need' minimum = need' := by
  cases minimum with
  | none => rfl
  | some m =>
    have hm : m ≤ need' := by
      simp only [raiseToMinimum] at h
      split at h
      · exact h
      · next hnot => exact (not_lt.mp hnot).trans h
    exact if_neg (not_lt.mpr hm)

/-- Rounding takes nothing off what the minimum order already asks for. -/
theorem raiseToMinimum_le_apply :
    raiseToMinimum need minimum ≤ applyMoqAndPackRounding need minimum pack := by
  simp only [applyMoqAndPackRounding]
  split
  · exact le_refl _
  · exact le_roundUpTo (packOrOne_pos pack)

/-- **Rounding is monotone in the need.** -/
theorem applyMoqAndPackRounding_mono (hneed : 0 ≤ need) (hle : need ≤ need') :
    applyMoqAndPackRounding need minimum pack ≤ applyMoqAndPackRounding need' minimum pack := by
  have hquantity : raiseToMinimum need minimum ≤ raiseToMinimum need' minimum :=
    raiseToMinimum_mono hle
  have hnonneg : 0 ≤ raiseToMinimum need minimum := hneed.trans (le_raiseToMinimum _ _)
  simp only [applyMoqAndPackRounding]
  by_cases hpack : packOrOne pack = 1
  · rw [if_pos hpack, if_pos hpack]
    exact hquantity
  · rw [if_neg hpack, if_neg hpack]
    exact roundUpTo_mono (packOrOne_pos pack) hnonneg hquantity

/-- **A quantity that was rounded stays as it is under the same terms.** -/
theorem applyMoqAndPackRounding_apply :
    applyMoqAndPackRounding (applyMoqAndPackRounding need minimum pack) minimum pack
      = applyMoqAndPackRounding need minimum pack := by
  have hraised : raiseToMinimum (applyMoqAndPackRounding need minimum pack) minimum
      = applyMoqAndPackRounding need minimum pack :=
    raiseToMinimum_eq_self raiseToMinimum_le_apply
  have hagain : ∀ q, raiseToMinimum q minimum = q → applyMoqAndPackRounding q minimum pack
      = if packOrOne pack = 1 then q else roundUpTo (packOrOne pack) q := by
    intro q hq
    simp only [applyMoqAndPackRounding, hq]
  rw [hagain _ hraised]
  by_cases hpack : packOrOne pack = 1
  · rw [if_pos hpack]
  · rw [if_neg hpack]
    simp only [applyMoqAndPackRounding, if_neg hpack]
    exact roundUpTo_roundUpTo (packOrOne_pos pack)

/-- **Less than what was rounded is rounded to no more.** -/
theorem applyMoqAndPackRounding_le (hneed : 0 ≤ need)
    (hle : need ≤ applyMoqAndPackRounding need' minimum pack) :
    applyMoqAndPackRounding need minimum pack ≤ applyMoqAndPackRounding need' minimum pack :=
  calc applyMoqAndPackRounding need minimum pack
      ≤ applyMoqAndPackRounding (applyMoqAndPackRounding need' minimum pack) minimum pack :=
        applyMoqAndPackRounding_mono hneed hle
    _ = applyMoqAndPackRounding need' minimum pack := applyMoqAndPackRounding_apply

/-- The raised need is the greater of the need and the minimum. -/
theorem raiseToMinimum_le_iff {q : ℚ} :
    raiseToMinimum need minimum ≤ q ↔ need ≤ q ∧ ∀ m ∈ minimum, m ≤ q := by
  cases minimum with
  | none => simp [raiseToMinimum]
  | some m =>
    simp only [raiseToMinimum, Option.mem_def, Option.some.injEq, forall_eq']
    split
    · next hlt => exact ⟨fun h => ⟨hlt.le.trans h, h⟩, And.right⟩
    · next hnot => exact ⟨fun h => ⟨h, (not_lt.mp hnot).trans h⟩, And.left⟩

/-- **What is ordered for a need.**  In packs it is the least number of them that covers the need
and the minimum; whatever the packs, more is ordered for more, and a quantity that was rounded
stays as it is. -/
theorem applyMoqAndPackRounding_least (need : ℚ) (minimum pack : Option ℚ) :
    (0 ≤ need →
      (∀ size, pack = some size → 0 < size → size ≠ 1 →
        IsLeast {q | (∃ k : ℤ, q = size * k) ∧ need ≤ q ∧ ∀ m ∈ minimum, m ≤ q}
          (applyMoqAndPackRounding need minimum pack)) ∧
      ∀ need', need ≤ need' →
        applyMoqAndPackRounding need minimum pack ≤ applyMoqAndPackRounding need' minimum pack) ∧
    applyMoqAndPackRounding (applyMoqAndPackRounding need minimum pack) minimum pack
      = applyMoqAndPackRounding need minimum pack := by
  refine ⟨fun hneed => ⟨?_, fun need' hle => applyMoqAndPackRounding_mono hneed hle⟩,
    applyMoqAndPackRounding_apply⟩
  rintro size rfl hsize hone
  have hpack : packOrOne (some size) = size := if_pos hsize
  have hresult : applyMoqAndPackRounding need minimum (some size)
      = roundUpTo size (raiseToMinimum need minimum) := by
    simp only [applyMoqAndPackRounding, hpack, if_neg hone]
  have hraised : 0 ≤ raiseToMinimum need minimum := hneed.trans (le_raiseToMinimum _ _)
  rw [hresult]
  simpa only [raiseToMinimum_le_iff] using isLeast_roundUpTo hsize hraised

/-- Four and a half are needed, and five is the minimum; packs of 1.5 make it six. -/
theorem applyMoqAndPackRounding_least_six :
    IsLeast {q : ℚ | (∃ k : ℤ, q = 3 / 2 * k) ∧ 9 / 2 ≤ q ∧ ∀ m ∈ some (5 : ℚ), m ≤ q} 6 := by
  have hsix : applyMoqAndPackRounding (9 / 2) (some 5) (some (3 / 2)) = 6 := by decide +kernel
  have hpos : (0 : ℚ) < 3 / 2 := by norm_num
  have hone : (3 / 2 : ℚ) ≠ 1 := by norm_num
  rw [← hsix]
  exact ((applyMoqAndPackRounding_least (9 / 2) (some 5) (some (3 / 2))).1 (by norm_num)).1 (3 / 2)
    rfl hpos hone

end Rounding

/-! ### What an execution has read and written -/

section Inversion

variable {db db' : Db} {hold : PlanHold}

theorem checkPlan_ok {req : ExecutePlan} {plan : Row ReplenishmentPlan}
    (h : checkPlan db req = .ok (some plan)) :
    db.replenishment.plans[req.planId]? = some plan ∧ plan.val.status = .approved := by
  unfold checkPlan at h
  simp only [↓check_bind_eq_ok, bind_eq_ok, orRaise_eq_ok] at h
  obtain ⟨row, hrow, -, h⟩ := h
  split at h
  · cases h
  · simp only [↓check_bind_eq_ok, raiseIf_eq_ok, pure_eq_ok, ne_eq, not_not,
      Option.some.injEq] at h
    obtain ⟨hstatus, rfl⟩ := h
    exact ⟨hrow, hstatus⟩

theorem PlanHold.product_eq_ok {productId : ℕ} {x : ℕ × Row Product}
    (h : hold.product productId = .ok x) : x ∈ hold.lockedProducts ∧ x.1 = productId := by
  unfold PlanHold.product at h
  rw [orRaise_eq_ok] at h
  exact ⟨List.mem_of_find?_eq_some h, by simpa using List.find?_some h⟩

/-- **A transfer is positive, within what is executable, and within what the source has above
its reorder point beside the drafts on it.** -/
theorem planTransfer_eq_transfer {fromStoreId sourceStoreId sourceProductId : ℕ}
    {source : ℕ × Row Product} {executable quantity : ℚ}
    (h : planTransfer db sourceStoreId source executable
      = .transfer fromStoreId sourceProductId quantity) :
    fromStoreId = sourceStoreId ∧ sourceProductId = source.1 ∧ 0 < quantity ∧
      quantity ≤ executable ∧
      committedOutboundTransferQuantity db source.1 + quantity
        ≤ source.2.val.currentQtyOnHand - source.2.val.reorderPoint.getD 0 := by
  simp only [planTransfer] at h
  split at h
  · cases h
  · next hpos =>
    simp only [PlanOutcome.transfer.injEq] at h
    obtain ⟨rfl, rfl, rfl⟩ := h
    rw [not_le] at hpos
    refine ⟨rfl, rfl, hpos, min_le_left _ _, ?_⟩
    obtain ⟨-, hsurplus⟩ := lt_min_iff.mp hpos
    -- what is positive is not the zero of the maximum
    have hright : 0 < source.2.val.currentQtyOnHand - source.2.val.reorderPoint.getD 0
        - committedOutboundTransferQuantity db source.1 := by
      rcases lt_max_iff.mp hsurplus with hzero | hright
      · exact absurd hzero (lt_irrefl 0)
      · exact hright
    have hquantity := min_le_right executable (max 0 (source.2.val.currentQtyOnHand
      - source.2.val.reorderPoint.getD 0 - committedOutboundTransferQuantity db source.1))
    rw [max_eq_right hright.le] at hquantity ⊢
    linarith

/-- An order is of the current terms of the supplier. -/
theorem planOrder_eq_order {supplierId supplierId' productId : ℕ} {today : Date}
    {executable quantity unitCost : ℚ}
    (h : planOrder db supplierId productId today executable = .order supplierId' quantity unitCost) :
    supplierId' = supplierId ∧ ∃ terms,
      getCurrentSupplierProduct db supplierId productId today = some terms ∧
      quantity = applyMoqAndPackRounding executable terms.val.minimumOrderQuantity
        (some terms.val.packSize) := by
  unfold planOrder at h
  split at h
  · next supplier terms _ hterms =>
    split at h
    · simp only [PlanOutcome.order.injEq] at h
      obtain ⟨rfl, rfl, -⟩ := h
      exact ⟨rfl, terms, hterms, rfl⟩
    · cases h
  · cases h

namespace PlanHold

theorem decide_eq_order {shortfall quantity unitCost : ℚ} {supplierId : ℕ}
    (h : hold.decide db shortfall = .ok (.order supplierId quantity unitCost)) :
    hold.plan.val.source = .supplier supplierId ∧ ∃ terms,
      getCurrentSupplierProduct db supplierId hold.plan.val.productId hold.req.today
        = some terms ∧
      quantity = applyMoqAndPackRounding (min hold.plan.val.suggestedQuantity shortfall)
        terms.val.minimumOrderQuantity (some terms.val.packSize) := by
  unfold decide at h
  dsimp only at h
  split at h
  · next s hsource =>
    rw [pure_eq_ok] at h
    obtain ⟨rfl, hterms⟩ := planOrder_eq_order h
    exact ⟨hsource, hterms⟩
  · simp only [bind_eq_ok, pure_eq_ok] at h
    obtain ⟨i, -, source, -, h⟩ := h
    simp only [planTransfer] at h
    split at h
    · cases h
    · cases h

theorem decide_eq_transfer {shortfall quantity : ℚ} {sourceStoreId sourceProductId : ℕ}
    (h : hold.decide db shortfall = .ok (.transfer sourceStoreId sourceProductId quantity)) :
    hold.plan.val.source = .transfer sourceStoreId ∧ 0 < quantity ∧
      quantity ≤ hold.plan.val.suggestedQuantity ∧ quantity ≤ shortfall ∧
      ∃ source : Row Product, (sourceProductId, source) ∈ hold.lockedProducts ∧
        committedOutboundTransferQuantity db sourceProductId + quantity
          ≤ source.val.currentQtyOnHand - source.val.reorderPoint.getD 0 := by
  unfold decide at h
  dsimp only at h
  split at h
  · rw [pure_eq_ok] at h
    unfold planOrder at h
    split at h
    · split at h
      · cases h
      · cases h
    · cases h
  · next s hsource =>
    simp only [bind_eq_ok, orRaise_eq_ok, pure_eq_ok] at h
    obtain ⟨i, -, ⟨j, source⟩, hproduct, h⟩ := h
    obtain ⟨hmem, -⟩ := product_eq_ok hproduct
    obtain ⟨rfl, rfl, hpos, hexecutable, hbound⟩ := planTransfer_eq_transfer h
    obtain ⟨hsuggested, hshort⟩ := le_min_iff.mp hexecutable
    exact ⟨hsource, hpos, hsuggested, hshort, source, hmem, hbound⟩

/-- An execution is rolled back, or its plan is written with its document. -/
theorem finish_ok {d : Db} {plan : ReplenishmentPlan} (h : hold.finish db d plan = .ok db') :
    db' = db ∨ ∃ row : Row ReplenishmentPlan, row.val = plan ∧ db' = { d with
      replenishment.plans := db.replenishment.plans.set hold.req.planId row } := by
  unfold finish at h
  rw [bind_eq_ok] at h
  obtain ⟨found, -, h⟩ := h
  cases found with
  | some winner =>
    rw [pure_eq_ok] at h
    exact .inl h.symm
  | none =>
    simp only [↓check_bind_eq_ok, bind_eq_ok, flush_eq_ok, pure_eq_ok] at h
    obtain ⟨-, row, hrow, rfl⟩ := h
    exact .inr ⟨row, hrow, rfl⟩

end PlanHold

end Inversion

end GroceryErp
