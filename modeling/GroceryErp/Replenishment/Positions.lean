import GroceryErp.System.Frames
import GroceryErp.Transfers.InTransit

/-!
# Replenishment positions

The position of a product is what is on hand, what is on its way in a transfer and what is
open on a purchase order.  What is on its way is taken as what was shipped and has not
arrived in good order, so that units which a receipt found damaged, or which never came,
stay in the position for good; the check of a receipt itself leaves them out.

## Main definitions

* `computePositionsBulk`, `computePosition` — the one position formula.
* `receivable` — the units that receipts can still take in.
* `PositionsExact` — every position reported is what is on hand and what is receivable.

## Main results

* `orderOpen_iff_received`, `receivable_receiveGoods` — what is receivable of an order is what
  the checks of a receipt accept, and a receipt takes off it what it takes in.
* `computePosition_eq_bulk` — the two queries report the same position.
* `position_eq_iff` — the position of a product is that just when nothing of what was
  shipped to it has been found damaged or short.
* `positions_exact_iff` — over any run, and over any run of receipts in good order.
* `position_counts_losses` — a run in which four lost apples stay in the position.

## References

`backend/app/modules/replenishment/service.py`.
-/

namespace GroceryErp

open Decimal Outcome Rows Runs

/-! ### The position formula -/

structure PositionBreakdown where
  onHand : ℚ
  inboundTransferQty : ℚ
  openPurchaseOrderQty : ℚ
  position : ℚ
  deriving DecidableEq

/-- One round of the loop over the rows of a query: what remains of the row is added under
its product, if anything does. -/
def addRemaining (result : ℕ → ℚ) (row : ℕ × ℚ × ℚ) : ℕ → ℚ :=
  let remaining := row.2.1 - row.2.2
  if 0 < remaining then Function.update result row.1 (result row.1 + remaining) else result

/-- What remains, by product, of the open rows of a table that are for one of the products.
A product that is not a key of the result reads as zero. -/
def remainingQuantities {α : Type} (isOpen : α → Prop) [DecidablePred isOpen] (productId : α → ℕ)
    (whole part : α → ℚ) (productIds : List ℕ) (t : List α) : ℕ → ℚ :=
  let rows := t.filter fun a => isOpen a ∧ productId a ∈ productIds
  (rows.map fun a => (productId a, whole a, part a)).foldl addRemaining fun _ => 0

/-- The transfer of a line has been shipped. -/
def transferShipped (db : Db) (transferId : ℕ) : Prop :=
  ∃ transfer ∈ db.transfers.transfers[transferId]?, transfer.val.status = .shipped

instance decidableTransferShipped (db : Db) (transferId : ℕ) :
    Decidable (transferShipped db transferId) := by
  unfold transferShipped
  infer_instance

/-- `_OPEN_PO_STATUSES`: a draft counts as on order before it is submitted. -/
def openPoStatuses : List PurchaseOrderStatus := [.draft, .ordered, .partiallyReceived]

/-- The purchase order of an item is open. -/
def orderOpen (db : Db) (purchaseOrderId : ℕ) : Prop :=
  ∃ order ∈ db.purchasing.orders[purchaseOrderId]?, order.status ∈ openPoStatuses

instance decidableOrderOpen (db : Db) (purchaseOrderId : ℕ) :
    Decidable (orderOpen db purchaseOrderId) := by
  unfold orderOpen
  infer_instance

/-- `_inbound_transfer_quantities`: what was shipped and not received in good order, so that damaged
and short units stay in it. -/
def inboundTransferQuantities (db : Db) (productIds : List ℕ) : ℕ → ℚ :=
  remainingQuantities (fun l => transferShipped db l.val.transferId) (·.val.destinationProductId)
    (·.val.shippedQuantity) (·.val.receivedQuantity) productIds db.transfers.lines

/-- `_open_purchase_order_quantities`: what open orders have not received of what they ordered. -/
def openPurchaseOrderQuantities (db : Db) (productIds : List ℕ) : ℕ → ℚ :=
  remainingQuantities (fun i => orderOpen db i.val.purchaseOrderId) (·.val.productId)
    (·.val.quantityOrdered) (·.val.quantityReceived) productIds db.purchasing.orderItems

/-- The position of a product with its key. -/
def positionBreakdown (inbound openPo : ℕ → ℚ) (product : ℕ × Row Product) :
    PositionBreakdown where
  onHand := product.2.val.currentQtyOnHand
  inboundTransferQty := inbound product.1
  openPurchaseOrderQty := openPo product.1
  position := product.2.val.currentQtyOnHand + inbound product.1 + openPo product.1

/-- `compute_positions_bulk`: one query for what is inbound and one for what is on order, for all
the products together. -/
def computePositionsBulk (db : Db) (products : List (ℕ × Row Product)) :
    List (ℕ × PositionBreakdown) :=
  let productIds := products.map Prod.fst
  let inbound := inboundTransferQuantities db productIds
  let openPo := openPurchaseOrderQuantities db productIds
  products.map fun product => (product.1, positionBreakdown inbound openPo product)

/-- `compute_position`: the same two queries for a single product. -/
def computePosition (db : Db) (product : ℕ × Row Product) : PositionBreakdown :=
  positionBreakdown (inboundTransferQuantities db [product.1])
    (openPurchaseOrderQuantities db [product.1]) product

/-! ### What can still be received -/

/-- The line is of a shipped transfer and arrives as the product. -/
def Incoming (db : Db) (productId : ℕ) (l : Row InterStoreTransferLine) : Prop :=
  transferShipped db l.val.transferId ∧ l.val.destinationProductId = productId

instance decidableIncoming (db : Db) (productId : ℕ) :
    DecidablePred (Incoming db productId) := by
  unfold Incoming
  infer_instance

/-- The item is on an open order for the product. -/
def OnOrder (db : Db) (productId : ℕ) (i : Row PurchaseOrderItem) : Prop :=
  orderOpen db i.val.purchaseOrderId ∧ i.val.productId = productId

instance decidableOnOrder (db : Db) (productId : ℕ) : DecidablePred (OnOrder db productId) := by
  unfold OnOrder
  infer_instance

/-- The units that can still be received into a product: what receipts of shipped transfers
still accept, and what open purchase orders have not received of what they ordered. -/
def receivable (db : Db) (productId : ℕ) : ℚ :=
  sumWhere (Incoming db productId) (·.val.remaining) db.transfers.lines
    + sumWhere (OnOrder db productId)
        (fun i => max 0 (i.val.quantityOrdered - i.val.quantityReceived)) db.purchasing.orderItems

/-- Nothing of the line has been found damaged or short. -/
def InterStoreTransferLine.Undamaged (l : InterStoreTransferLine) : Prop :=
  l.damagedQuantity = 0 ∧ l.declaredShortQuantity = 0

/-- Every position that is reported of products as they are stored is what is on hand and
what can still be received. -/
def PositionsExact (db : Db) : Prop :=
  ∀ products : List (ℕ × Row Product), (∀ x ∈ products, db.stock.products[x.1]? = some x.2) →
    ∀ x ∈ computePositionsBulk db products, ∀ p, db.stock.products[x.1]? = some p →
      x.2.position = p.val.currentQtyOnHand + receivable db x.1

/-! ### The sums of the formula -/

section Formula

variable {db : Db} {productId : ℕ} {p : Row Product}

/-- The loop adds up what remains of each product. -/
theorem foldl_addRemaining (rows : List (ℕ × ℚ × ℚ)) (result : ℕ → ℚ) (k : ℕ) :
    rows.foldl addRemaining result k
      = result k + sumWhere (·.1 = k) (fun row => max 0 (row.2.1 - row.2.2)) rows := by
  induction rows generalizing result with
  | nil => simp
  | cons row rows ih =>
    rw [List.foldl_cons, ih, sumWhere_cons, ← add_assoc]
    congr 1
    simp only [addRemaining]
    by_cases hpos : 0 < row.2.1 - row.2.2
    · rw [if_pos hpos, max_eq_right hpos.le]
      by_cases hk : row.1 = k
      · subst hk
        simp
      · simp [Function.update_of_ne (Ne.symm hk), hk]
    · -- a row of which nothing remains is skipped
      rw [if_neg hpos, max_eq_left (not_lt.mp hpos)]
      simp

theorem remainingQuantities_apply {α : Type} {isOpen : α → Prop} [DecidablePred isOpen]
    {key : α → ℕ} {whole part : α → ℚ} {productIds : List ℕ} (t : List α)
    (hmem : productId ∈ productIds) :
    remainingQuantities isOpen key whole part productIds t productId
      = sumWhere (fun a => isOpen a ∧ key a = productId) (fun a => max 0 (whole a - part a)) t := by
  simp only [remainingQuantities]
  rw [foldl_addRemaining, zero_add, sumWhere_map (fun row : ℕ × ℚ × ℚ => row.1 = productId),
    sumWhere_filter]
  apply sumWhere_congr
  · intro a _
    constructor
    · rintro ⟨hkey, hopen, -⟩
      exact ⟨hopen, hkey⟩
    · rintro ⟨hopen, hkey⟩
      exact ⟨hkey, hopen, hkey ▸ hmem⟩
  · intro a _ _
    rfl

/-- **A query for many products and one for a single product report the same position.** -/
theorem computePosition_eq_bulk {products : List (ℕ × Row Product)} {x : ℕ × Row Product}
    (hx : x ∈ products) : (x.1, computePosition db x) ∈ computePositionsBulk db products := by
  have hmem : x.1 ∈ products.map Prod.fst := List.mem_map_of_mem hx
  have hself : x.1 ∈ [x.1] := List.mem_singleton_self _
  refine List.mem_map.mpr ⟨x, hx, ?_⟩
  simp only [positionBreakdown, computePosition, inboundTransferQuantities,
    openPurchaseOrderQuantities, remainingQuantities_apply _ hmem,
    remainingQuantities_apply _ hself]

/-- A transfer line as it is stored has shipped what it accounts for, and no negative
quantities. -/
theorem Db.Stored.line_checks (h : db.Stored) {l : Row InterStoreTransferLine}
    (hl : l ∈ db.transfers.lines) : 0 ≤ l.val.damagedQuantity ∧ 0 ≤ l.val.declaredShortQuantity ∧
      l.val.receivedQuantity + l.val.damagedQuantity + l.val.declaredShortQuantity
        ≤ l.val.shippedQuantity := by
  have hchecks : l.val.Checks := l.property
  have hdamaged := hchecks.damaged_nonneg
  have hshort := hchecks.declared_short_nonneg
  have haccounted := hchecks.accounted_le
  rw [h.lines l hl] at hdamaged hshort haccounted
  exact ⟨hdamaged, hshort, haccounted⟩

/-- What is on its way exceeds what receipts still accept by what they found damaged or
short. -/
theorem inbound_eq (h : db.Stored) {productIds : List ℕ} (hmem : productId ∈ productIds) :
    inboundTransferQuantities db productIds productId
      = sumWhere (Incoming db productId) (·.val.remaining) db.transfers.lines
        + sumWhere (Incoming db productId)
          (fun l => l.val.damagedQuantity + l.val.declaredShortQuantity) db.transfers.lines := by
  have happly : inboundTransferQuantities db productIds productId
      = sumWhere (Incoming db productId)
          (fun l => max 0 (l.val.shippedQuantity - l.val.receivedQuantity)) db.transfers.lines :=
    remainingQuantities_apply _ hmem
  rw [happly, ← sub_eq_iff_eq_add, ← sumWhere_sub]
  apply sumWhere_congr
  · intro l _
    rfl
  · intro l hl _
    obtain ⟨hdamaged, hshort, haccounted⟩ := h.line_checks hl
    rw [max_eq_right (by linarith)]
    unfold InterStoreTransferLine.remaining
    ring

/-- **The position of a product is what is on hand and what can still be received just when
nothing of what was shipped to it has been found damaged or short.** -/
theorem position_eq_iff (h : db.Stored) {productIds : List ℕ} (hmem : productId ∈ productIds) :
    (positionBreakdown (inboundTransferQuantities db productIds)
        (openPurchaseOrderQuantities db productIds) (productId, p)).position
      = p.val.currentQtyOnHand + receivable db productId ↔
    ∀ l ∈ db.transfers.lines, Incoming db productId l → l.val.Undamaged := by
  have hopen : openPurchaseOrderQuantities db productIds productId
      = sumWhere (OnOrder db productId)
          (fun i => max 0 (i.val.quantityOrdered - i.val.quantityReceived))
          db.purchasing.orderItems :=
    remainingQuantities_apply _ hmem
  -- neither quantity of a line is negative, so their sum is zero only where both are
  have hlost : ∀ l ∈ db.transfers.lines, Incoming db productId l →
      0 ≤ l.val.damagedQuantity + l.val.declaredShortQuantity := by
    intro l hl _
    obtain ⟨hdamaged, hshort, -⟩ := h.line_checks hl
    exact add_nonneg hdamaged hshort
  have hposition : (positionBreakdown (inboundTransferQuantities db productIds)
        (openPurchaseOrderQuantities db productIds) (productId, p)).position
      = p.val.currentQtyOnHand + receivable db productId ↔
      sumWhere (Incoming db productId)
        (fun l => l.val.damagedQuantity + l.val.declaredShortQuantity) db.transfers.lines = 0 := by
    simp only [positionBreakdown, receivable]
    rw [inbound_eq h hmem, hopen]
    constructor
    · intro heq
      linarith
    · intro hzero
      linarith
  rw [hposition, sumWhere_eq_zero_iff_of_nonneg hlost]
  constructor
  · intro hzero l hl hin
    obtain ⟨hdamaged, hshort, -⟩ := h.line_checks hl
    have hsum := hzero l hl hin
    exact ⟨by linarith, by linarith⟩
  · intro hundamaged l hl hin
    obtain ⟨hdamaged, hshort⟩ := hundamaged l hl hin
    rw [hdamaged, hshort, add_zero]

end Formula

/-! ### What receipts take in of open orders -/

section Receipts

variable {db d : Db} {req : ReceiveGoods} {i : ℕ} {item : Row PurchaseOrderItem} {unitCost : ℚ}

/-- The checks of a receipt accept what remains of an item, if anything does, just when goods
can be received against its order. -/
theorem planReceipt_rest_iff {order : PurchaseOrder}
    (hitem : db.purchasing.orderItems[i]? = some item)
    (horder : db.purchasing.orders[item.val.purchaseOrderId]? = some order)
    (hrest : 0 < item.val.quantityOrdered - item.val.quantityReceived) (hcost : 0 ≤ unitCost)
    (hreq : req.purchaseOrderId = item.val.purchaseOrderId)
    (hlines : req.lines
      = [⟨i, item.val.quantityOrdered - item.val.quantityReceived, unitCost⟩]) :
    (∃ planned, planReceipt db req = .ok planned) ↔
      order.status = .ordered ∨ order.status = .partiallyReceived := by
  constructor
  · rintro ⟨⟨o, lines⟩, hplan⟩
    obtain ⟨ho, hstatus, -⟩ := planReceipt_ok hplan
    rw [hreq, horder] at ho
    obtain rfl := Option.some.inj ho
    exact hstatus
  · intro hstatus
    have hresolve : resolveReceiptLine db item.val.purchaseOrderId
        ⟨i, item.val.quantityOrdered - item.val.quantityReceived, unitCost⟩
        = .ok ⟨i, item, item.val.quantityOrdered - item.val.quantityReceived, unitCost⟩ :=
      resolveReceiptLine_eq_ok.mpr ⟨item, hitem, rfl, rfl⟩
    refine ⟨(order, [⟨i, item, item.val.quantityOrdered - item.val.quantityReceived,
      unitCost⟩]), ?_⟩
    unfold planReceipt
    rw [hreq, hlines]
    simp only [↓check_bind_eq_ok, bind_eq_ok, orRaise_eq_ok, raiseIf_eq_ok, pure_eq_ok,
      forM_eq_ok, ne_eq, not_and_or, not_not, not_lt, not_le, List.mem_singleton, forall_eq]
    refine ⟨by simp, ⟨hrest, hcost⟩, order, horder, hstatus, _, ?_, rfl⟩
    rw [List.mapM_cons, hresolve]
    rfl

/-- **What remains of an item counts as receivable just when the checks of a receipt accept it,
at once or when its order, still a draft, has been submitted.** -/
theorem orderOpen_iff_received {order : PurchaseOrder}
    (hitem : db.purchasing.orderItems[i]? = some item)
    (horder : db.purchasing.orders[item.val.purchaseOrderId]? = some order)
    (hrest : 0 < item.val.quantityOrdered - item.val.quantityReceived) (hcost : 0 ≤ unitCost)
    (hreq : req.purchaseOrderId = item.val.purchaseOrderId)
    (hlines : req.lines
      = [⟨i, item.val.quantityOrdered - item.val.quantityReceived, unitCost⟩]) :
    orderOpen db item.val.purchaseOrderId ↔
      (∃ planned, planReceipt db req = .ok planned) ∨
      ∃ d planned, submitPurchaseOrder db ⟨item.val.purchaseOrderId, none⟩ = .ok d ∧
        planReceipt d req = .ok planned := by
  rw [planReceipt_rest_iff hitem horder hrest hcost hreq hlines]
  have hopen : orderOpen db item.val.purchaseOrderId ↔ order.status ∈ openPoStatuses := by
    simp [orderOpen, horder]
  rw [hopen]
  constructor
  · intro hstatus
    by_cases hdraft : order.status = .draft
    -- a draft is submitted first, which changes nothing but its status
    · right
      obtain ⟨d, hsubmit, hitemd, horderd⟩ : ∃ d,
          submitPurchaseOrder db ⟨item.val.purchaseOrderId, none⟩ = .ok d ∧
          d.purchasing.orderItems[i]? = some item ∧
          d.purchasing.orders[item.val.purchaseOrderId]?
            = some { order with status := .ordered } := by
        refine ⟨{ db with
          purchasing.orders := db.purchasing.orders.set item.val.purchaseOrderId
            { order with status := .ordered } }, ?_, hitem, ?_⟩
        · simp [submitPurchaseOrder, setOrderStatus, horder, orRaise, enforceStoreAccess, raiseIf,
            hdraft]
        · show (db.purchasing.orders.set _ _)[_]? = _
          rw [getElem?_set_of_some horder, if_pos rfl]
      obtain ⟨planned, hplan⟩ :=
        (planReceipt_rest_iff hitemd horderd hrest hcost hreq hlines).mpr (.inl rfl)
      exact ⟨d, planned, hsubmit, hplan⟩
    · left
      simpa [openPoStatuses, hdraft] using hstatus
  -- a receipt needs an order that was placed, a submission a draft, and both are open statuses
  · rintro (hplaced | ⟨d, planned, hsubmit, -⟩)
    · rcases hplaced with h | h <;> rw [h] <;> decide
    · obtain ⟨o, ho, hdraft, -⟩ := setOrderStatus_ok hsubmit
      obtain rfl : order = o := Option.some.inj (horder.symm.trans ho)
      rw [List.mem_singleton.mp hdraft]
      decide

/-- What a receipt takes in of the units for a product that open orders were waiting for. -/
def takenIn (db : Db) (lines : List ReceiptLine) (productId : ℕ) : ℚ :=
  sumWhere (fun x => OnOrder db productId x.2)
    (fun x => min (max 0 (x.2.val.quantityOrdered - x.2.val.quantityReceived))
      (receivedQty lines x.1)) (withKeys db.purchasing.orderItems)

/-- What remains of a quantity after something has been taken off. -/
theorem max_zero_sub_add_min {x y : ℚ} (hy : 0 ≤ y) : max 0 (x - y) + min (max 0 x) y = max 0 x := by
  grind

/-- An order that goods have been received against is open or has been received in full. -/
theorem advancePurchaseOrderStatus_cases (d : Db) (purchaseOrderId : ℕ)
    {status : PurchaseOrderStatus} (hstatus : status ∈ openPoStatuses) :
    advancePurchaseOrderStatus d purchaseOrderId status ∈ openPoStatuses ∨
      ∀ item ∈ d.purchasing.orderItems, item.val.purchaseOrderId = purchaseOrderId →
        item.val.quantityOrdered ≤ item.val.quantityReceived := by
  unfold advancePurchaseOrderStatus
  simp only
  split
  · next hall =>
    right
    intro item hitem horder
    exact hall.2 item (List.mem_filter.mpr ⟨hitem, by simpa using horder⟩)
  · split
    · exact .inl (by decide)
    · exact .inl hstatus

/-- What an item of the order still waits for counts after a receipt as it did before: the order
stays open, or nothing remains of the item. -/
theorem waiting_received {order : PurchaseOrder} {status : PurchaseOrderStatus}
    {a b : Row PurchaseOrderItem} {purchaseOrderId : ℕ} (productId : ℕ)
    (horder : db.purchasing.orders[purchaseOrderId]? = some order)
    (hwas : order.status ∈ openPoStatuses)
    (horders : d.purchasing.orders
      = db.purchasing.orders.set purchaseOrderId { order with status })
    (hof : a.val.purchaseOrderId = purchaseOrderId)
    (hkept : b.val.purchaseOrderId = a.val.purchaseOrderId ∧ b.val.productId = a.val.productId)
    (hadvance : status ∈ openPoStatuses ∨ b.val.quantityOrdered ≤ b.val.quantityReceived) :
    (if OnOrder d productId b
      then max 0 (b.val.quantityOrdered - b.val.quantityReceived) else 0)
      = if OnOrder db productId a
        then max 0 (b.val.quantityOrdered - b.val.quantityReceived) else 0 := by
  rcases hadvance with hopen | hfull
  · have hsame : OnOrder d productId b ↔ OnOrder db productId a := by
      have hbefore : orderOpen db a.val.purchaseOrderId := ⟨order, by rw [hof]; exact horder, hwas⟩
      have hafter : orderOpen d a.val.purchaseOrderId := by
        rw [orderOpen, horders, hof, getElem?_set_of_some horder, if_pos rfl]
        exact ⟨_, rfl, hopen⟩
      rw [OnOrder, OnOrder, hkept.1, hkept.2, and_iff_right hbefore, and_iff_right hafter]
    simp only [hsame]
  · rw [max_eq_left (sub_nonpos.mpr hfull), ite_self, ite_self]

/-- **A receipt takes off what is receivable the units it takes in that were on order, and
nothing else.** -/
theorem receivable_receiveGoods {goodsReceiptId : ℕ}
    (hdone : receiveGoods db req = .ok (d, goodsReceiptId)) :
    d = db ∨ ∃ order lines, planReceipt db req = .ok (order, lines) ∧
      ∀ productId, receivable d productId + takenIn db lines productId = receivable db productId := by
  rcases receiveGoods_ok hdone with rfl | ⟨order, lines, e, hplan, hwrite, hpost⟩
  · exact .inl rfl
  refine .inr ⟨order, lines, hplan, fun productId => ?_⟩
  obtain ⟨horder, hstatus, hlines⟩ := planReceipt_ok hplan
  obtain ⟨-, receipt, rows, items, status, -, -, hlength, hitems, hadvanced, he⟩ :=
    writeReceipt_ok hwrite
  have htransfers : d.transfers = db.transfers := by rw [postJournalUnlessEmpty_frame hpost, he]
  have hitemsd : d.purchasing.orderItems = items := by rw [postJournalUnlessEmpty_frame hpost, he]
  have hordersd : d.purchasing.orders
      = db.purchasing.orders.set req.purchaseOrderId { order with status } := by
    rw [postJournalUnlessEmpty_frame hpost, he]
  -- the transfers are as they were
  have hincoming : sumWhere (Incoming d productId) (·.val.remaining) d.transfers.lines
      = sumWhere (Incoming db productId) (·.val.remaining) db.transfers.lines := by
    rw [htransfers]
    apply sumWhere_congr
    · intro l _
      simp only [Incoming, transferShipped, htransfers]
    · intro l _ _
      rfl
  have hwritten : Overwritten (fun i old item => item.val = { old.val with
      quantityReceived := old.val.quantityReceived + receivedQty lines i })
      db.purchasing.orderItems items := ⟨hlength, hitems⟩
  have hnonneg : ∀ i, 0 ≤ receivedQty lines i := fun i =>
    sumWhere_nonneg fun l hl _ => (hlines l hl).quantity_pos.le
  have hordered : sumWhere (OnOrder d productId)
        (fun i => max 0 (i.val.quantityOrdered - i.val.quantityReceived)) d.purchasing.orderItems
      + takenIn db lines productId
      = sumWhere (OnOrder db productId)
        (fun i => max 0 (i.val.quantityOrdered - i.val.quantityReceived))
        db.purchasing.orderItems := by
    rw [hitemsd]
    have hwas : order.status ∈ openPoStatuses := by
      rcases hstatus with h | h <;> rw [h] <;> decide
    have hadvance := advancePurchaseOrderStatus_cases e req.purchaseOrderId hwas
    rw [← hadvanced] at hadvance
    refine hwritten.sumWhere_add_taken fun i a b ha hb' hb => ?_
    have hquantities : b.val.quantityOrdered - b.val.quantityReceived
        = a.val.quantityOrdered - a.val.quantityReceived - receivedQty lines i := by
      rw [hb]
      ring
    by_cases hof : a.val.purchaseOrderId = req.purchaseOrderId
    · -- an item of the order that is received against
      have hmem : b ∈ e.purchasing.orderItems := by
        rw [he]
        exact mem_of_row hb'
      have hofb : b.val.purchaseOrderId = req.purchaseOrderId := by rw [hb, ← hof]
      have hleft := waiting_received productId horder hwas hordersd hof
        (by rw [hb]; exact ⟨rfl, rfl⟩) (hadvance.imp_right fun hfull => hfull b hmem hofb)
      rw [hleft, hquantities]
      by_cases hon : OnOrder db productId a
      · rw [if_pos hon, if_pos hon, if_pos hon, max_zero_sub_add_min (hnonneg i)]
      · rw [if_neg hon, if_neg hon, if_neg hon, add_zero]
    · -- an item of another order, which no line names
      have hnone : receivedQty lines i = 0 := by
        apply receivedQty_eq_zero
        rintro hmem
        obtain ⟨l, hl, rfl⟩ := List.mem_map.mp hmem
        obtain rfl : l.item = a := Option.some.inj ((hlines l hl).loaded.symm.trans ha)
        exact hof (hlines l hl).order
      have hsame : OnOrder d productId b ↔ OnOrder db productId a := by
        simp only [OnOrder, orderOpen, hb, hordersd, List.getElem?_set_ne (Ne.symm hof)]
      simp only [hsame, hquantities, hnone, sub_zero]
      split
      · rw [min_eq_right (le_max_left ..), add_zero]
      · rw [add_zero]
  unfold receivable
  rw [hincoming, add_assoc, hordered]

end Receipts

/-! ### Runs -/

/-- A receipt of a transfer, if the request is one, finds nothing damaged or short. -/
def ErpRequest.ReceivesInGoodOrder : ErpRequest → Prop
  | stock (.receiveTransfer req) | transfer (.receiveTransfer req) =>
    ∀ l ∈ req.lines, l.quantityDamaged = 0 ∧ l.quantityDeclaredShort = 0
  | _ => True

/-- No line of a transfer has anything damaged or short. -/
def NothingLost (t : TransferTables) : Prop := ∀ l ∈ t.lines, l.val.Undamaged

section Runs

variable {db d db' : Db}

theorem sumReceived_eq_zero_of_forall {inputs : List ReceiveLineInput} {f : ReceiveLineInput → ℚ}
    (h : ∀ l ∈ inputs, f l = 0) (i : ℕ) : sumReceived inputs f i = 0 :=
  sumWhere_eq_zero _ _ fun l hl _ => h l hl

/-- A receipt in good order loses nothing. -/
theorem receiveTransfer_nothingLost {req : ReceiveTransfer} (h : NothingLost db.transfers)
    (hgood : ∀ l ∈ req.lines, l.quantityDamaged = 0 ∧ l.quantityDeclaredShort = 0)
    (hdone : receiveTransfer db req = .ok d) : NothingLost d.transfers := by
  rcases receiveTransfer_unpacked hdone with rfl | ⟨lines, new, found, hunpacked⟩
  · exact h
  intro b hb
  obtain ⟨i, hi⟩ := List.getElem?_of_mem hb
  obtain ⟨a, ha, hab⟩ := hunpacked.accounted.row hi
  obtain ⟨hdamaged, hshort⟩ := h a (mem_of_row ha)
  rw [hab]
  constructor
  · show a.val.damagedQuantity + _ = 0
    rw [hdamaged, sumReceived_eq_zero_of_forall fun l hl => (hgood l hl).1, add_zero]
  · show a.val.declaredShortQuantity + _ = 0
    rw [hshort, sumReceived_eq_zero_of_forall fun l hl => (hgood l hl).2, add_zero]

/-- Writing one line that is undamaged loses nothing. -/
theorem NothingLost.set {t : TransferTables} {i : ℕ} {b : Row InterStoreTransferLine}
    (h : NothingLost t) (hb : b.val.Undamaged) : NothingLost { t with lines := t.lines.set i b } :=
  forall_mem_set h hb

/-- Requests on transfers lose nothing unless a receipt finds it. -/
theorem transfer_nothingLost {r : TransferRequest} (h : NothingLost db.transfers)
    (hgood : (ErpRequest.transfer r).ReceivesInGoodOrder) (hdone : r.run db = .ok d) :
    NothingLost d.transfers := by
  cases r with
  | createTransfer req =>
    obtain ⟨⟨d, i⟩, hrun, rfl⟩ := map_eq_ok.mp hdone
    obtain ⟨transfer, lines, -, hlines, rfl⟩ := createTransfer_ok hrun
    intro l hl
    rcases List.mem_append.mp hl with hl | hl
    · exact h l hl
    -- a line is created with both quantities zero
    · obtain ⟨⟨line, hline⟩, -⟩ := hlines l hl
      rw [hline]
      exact ⟨rfl, rfl⟩
  | shipTransfer req =>
    rcases shipTransfer_ok hdone with rfl | ⟨transfer, lines, e, shipped, -, -, -, -, he, -, hj⟩
    · exact h
    rw [postJournalUnlessEmpty_frame hj]
    exact (shipLines_ok (P := InterStoreTransferLine.Undamaged) he
      (fun _ _ _ hrow => hrow) h).2
  -- the one request here that records a loss
  | receiveTransfer req => exact receiveTransfer_nothingLost h hgood hdone
  | cancelTransfer req =>
    rcases cancelTransfer_ok hdone with rfl | ⟨transfer, cancelled, -, -, -, rfl⟩
    · exact h
    · exact h
  | investigateDiscrepancy req =>
    obtain ⟨old, discrepancy, -, -, -, rfl⟩ := investigateDiscrepancy_ok hdone
    exact h
  | resolveDiscrepancy req =>
    obtain ⟨old, discrepancy, -, -, -, rfl⟩ := resolveDiscrepancy_ok hdone
    exact h
  | createWriteOff req =>
    obtain ⟨⟨e, i⟩, hmade, rfl⟩ := map_eq_ok.mp hdone
    rcases createWriteOff_ok hmade with rfl | ⟨disc, w, -, -, -, -, -, -, -, rfl⟩
    · exact h
    · exact h
  | approveWriteOff req =>
    rcases approveWriteOff_ok hdone with rfl | ⟨w, w', disc, line, line', a, approvedBy, e, -, -, -,
      hline, -, -, hline', -, rfl⟩
    · exact h
    -- a write-off adds to what was written off of the line, which is neither of the two
    · refine h.set ?_
      rw [hline']
      exact h line (mem_of_row hline)
  | denyWriteOff req =>
    rcases denyWriteOff_ok hdone with ⟨rfl, -⟩ | ⟨w, w', a, approvedBy, old, disc, -, -, -, -, -, -,
      rfl⟩
    · exact h
    · exact h
  | reverseWriteOff req =>
    rcases reverseWriteOff_ok hdone with rfl | ⟨w, w', line, line', e, -, -, hline, -, -, hline',
      rfl⟩
    · exact h
    · refine h.set ?_
      rw [hline']
      exact h line (mem_of_row hline)

/-- The same requests, where they are taken with those that move stock. -/
theorem stock_nothingLost {r : StockRequest} (h : NothingLost db.transfers)
    (hgood : (ErpRequest.stock r).ReceivesInGoodOrder) (hdone : r.run db = .ok d) :
    NothingLost d.transfers := by
  cases r with
  | createTransfer req => exact transfer_nothingLost (r := .createTransfer req) h trivial hdone
  | shipTransfer req => exact transfer_nothingLost (r := .shipTransfer req) h trivial hdone
  | receiveTransfer req => exact receiveTransfer_nothingLost h hgood hdone
  | cancelTransfer req => exact transfer_nothingLost (r := .cancelTransfer req) h trivial hdone
  | _ =>
    rw [(StockRequest.frame hdone).transfers id]
    exact h

/-- A commit rounds nothing that is zero. -/
theorem NothingLost.commit (h : NothingLost db.transfers) : NothingLost db.commit.transfers := by
  intro l hl
  obtain ⟨k, hk, rfl⟩ := List.mem_map.mp hl
  obtain ⟨hdamaged, hshort⟩ := h k hk
  refine ⟨?_, ?_⟩
  · show numeric 3 k.val.damagedQuantity = 0
    rw [hdamaged]
    exact numeric_eq_self (onGrid_zero 3)
  · show numeric 3 k.val.declaredShortQuantity = 0
    rw [hshort]
    exact numeric_eq_self (onGrid_zero 3)

/-- **Nothing is lost but by a receipt that finds it.** -/
theorem exec_nothingLost {r : ErpRequest} (h : NothingLost db.transfers)
    (hgood : r.ReceivesInGoodOrder) (hdone : r.exec db = .ok db') :
    NothingLost db'.transfers := by
  cases r with
  | stock r =>
    obtain ⟨d, hrun, rfl⟩ := map_eq_ok.mp hdone
    exact (stock_nothingLost h hgood hrun).commit
  | transfer r =>
    obtain ⟨d, hrun, rfl⟩ := map_eq_ok.mp hdone
    exact (transfer_nothingLost h hgood hrun).commit
  | createPurchaseInvoice req =>
    obtain ⟨⟨d, i⟩, hrun, rfl⟩ := map_eq_ok.mp hdone
    apply NothingLost.commit
    rw [(createPurchaseInvoice_frame hrun).transfers]
    exact h
  | postPurchaseInvoice req =>
    obtain ⟨d, hrun, rfl⟩ := map_eq_ok.mp hdone
    apply NothingLost.commit
    rw [(postPurchaseInvoice_frame hrun).transfers]
    exact h
  | settlement r =>
    obtain ⟨d, hrun, rfl⟩ := map_eq_ok.mp hdone
    apply NothingLost.commit
    rw [(settlement_frame hrun).transfers]
    exact h
  | workforce r =>
    rw [exec_frame hdone]
    exact h
  | closeAccountingPeriod req =>
    obtain ⟨books, -, rfl⟩ := map_eq_ok.mp hdone
    exact h

/-- Every request leaves products and transfer lines as their columns keep them. -/
theorem exec_stored {r : ErpRequest} (h : db.Stored) (hdone : r.exec db = .ok db') :
    db'.Stored := by
  cases r with
  | stock r =>
    obtain ⟨d, hrun, rfl⟩ := map_eq_ok.mp hdone
    exact stored_commit d
  | transfer r => exact stored_exec hdone
  | createPurchaseInvoice req =>
    obtain ⟨⟨d, i⟩, hrun, rfl⟩ := map_eq_ok.mp hdone
    exact stored_commit d
  | postPurchaseInvoice req =>
    obtain ⟨d, hrun, rfl⟩ := map_eq_ok.mp hdone
    exact stored_commit d
  | settlement r =>
    obtain ⟨d, hrun, rfl⟩ := map_eq_ok.mp hdone
    exact stored_commit d
  | workforce r =>
    rw [exec_frame hdone]
    exact ⟨h.products, h.lines⟩
  | closeAccountingPeriod req =>
    obtain ⟨books, -, rfl⟩ := map_eq_ok.mp hdone
    exact ⟨h.products, h.lines⟩

end Runs

section Theorem

variable {db₀ : Db}

/-- **Over any run the position of a product is exact just when nothing that was shipped to it
has been found damaged or short; over runs whose receipts find nothing so, every position
is.** -/
theorem positions_exact_iff (hstart : db₀.BeforeTransfers) :
    (∀ db, Reaches ErpRequest.exec (fun _ r => r.ReceivesInGoodOrder) db₀ db →
      PositionsExact db) ∧
    ∀ db, Reaches ErpRequest.exec (fun _ _ => True) db₀ db →
      ∀ products : List (ℕ × Row Product),
        (∀ x ∈ products, db.stock.products[x.1]? = some x.2) →
        ∀ x ∈ computePositionsBulk db products, ∀ p, db.stock.products[x.1]? = some p →
          (x.2.position = p.val.currentQtyOnHand + receivable db x.1 ↔
            ∀ l ∈ db.transfers.lines, Incoming db x.1 l → l.val.Undamaged) := by
  have hiff : ∀ db, Reaches ErpRequest.exec (fun _ _ => True) db₀ db →
      ∀ products : List (ℕ × Row Product),
        (∀ x ∈ products, db.stock.products[x.1]? = some x.2) →
        ∀ x ∈ computePositionsBulk db products, ∀ p, db.stock.products[x.1]? = some p →
          (x.2.position = p.val.currentQtyOnHand + receivable db x.1 ↔
            ∀ l ∈ db.transfers.lines, Incoming db x.1 l → l.val.Undamaged) := by
    intro db hrun products hproducts x hx p hp
    have hstored : db.Stored :=
      -- quantities that the columns hold are what the two queries sum up
      hrun.invariant (I := Db.Stored) hstart.stored fun _ _ _ hs _ hdone => exec_stored hs hdone
    obtain ⟨⟨productId, q⟩, hq, rfl⟩ := List.mem_map.mp hx
    obtain rfl : q = p := Option.some.inj ((hproducts _ hq).symm.trans hp)
    exact position_eq_iff hstored (List.mem_map_of_mem hq)
  refine ⟨?_, hiff⟩
  intro db hrun products hproducts x hx p hp
  have hnothing : NothingLost db.transfers := by
    refine hrun.invariant (I := fun db => NothingLost db.transfers) ?_ fun _ _ _ hs hgood hdone =>
      exec_nothingLost hs hgood hdone
    -- at the start there are no transfers yet
    intro l hl
    rw [hstart.lines] at hl
    cases hl
  have hany : Reaches ErpRequest.exec (fun _ _ => True) db₀ db :=
    hrun.mono fun _ _ _ => trivial
  rw [hiff db hany products hproducts x hx p hp]
  intro l hl _
  exact hnothing l hl

end Theorem

/-! ### Apples that are lost -/

/-- The requests on the lost apples are requests of the whole system. -/
theorem reaches_lossPosted_erp :
    Reaches ErpRequest.exec (fun _ _ => True) twoShops lossPosted := by
  have hlost : Reaches TransferRequest.exec (fun _ _ => True) twoShops lossPosted :=
    reaches_lossPosted fun _ _ _ _ _ => trivial
  exact hlost.map .transfer (fun _ _ _ => trivial) fun _ _ _ hdone => hdone

/-- The shipped apples are all on their way; and what is then lost is seen in a position. -/
theorem positions_exact_iff_apples : PositionsExact applesShipped ∧
    (∀ x ∈ computePositionsBulk lossPosted (withKeys lossPosted.stock.products),
      ∀ p, lossPosted.stock.products[x.1]? = some p →
        (x.2.position = p.val.currentQtyOnHand + receivable lossPosted x.1 ↔
          ∀ l ∈ lossPosted.transfers.lines, Incoming lossPosted x.1 l → l.val.Undamaged)) := by
  refine ⟨?_, ?_⟩
  · apply (positions_exact_iff twoShops_beforeTransfers).1
    have hsent : Reaches ErpRequest.exec (fun _ r => r.ReceivesInGoodOrder) twoShops applesSent :=
      .next .start (r := .transfer (.createTransfer sendApples)) trivial (eq_ok_value _ _)
    exact hsent.next (r := .transfer (.shipTransfer (shipApples [⟨0, 10⟩]))) trivial
      (eq_ok_value _ _)
  · apply (positions_exact_iff twoShops_beforeTransfers).2
    · exact reaches_lossPosted_erp
    · rintro ⟨i, p⟩ hx
      exact (mem_rowsWhere.mp hx).1

/-- **Ten apples are shipped; six arrive, three are damaged, one is missing, and one of them is
written off.  Nothing can still be received, but the position of the second shop is ten.** -/
theorem position_counts_losses :
    Reaches ErpRequest.exec (fun _ _ => True) twoShops lossPosted ∧ ¬PositionsExact lossPosted ∧
      lossPosted.stock.products.map (·.val.currentQtyOnHand) = [10, 6] ∧
      (computePositionsBulk lossPosted (withKeys lossPosted.stock.products)).map (·.2.position)
        = [10, 10] ∧
      receivable lossPosted 1 = 0 := by
  refine ⟨?_, ?_, by decide +kernel, by decide +kernel, by decide +kernel⟩
  · exact reaches_lossPosted_erp
  · intro hexact
    have hloaded : ∀ x ∈ withKeys lossPosted.stock.products,
        lossPosted.stock.products[x.1]? = some x.2 := fun x hx => (mem_rowsWhere.mp hx).1
    have hfalse : ¬∀ x ∈ computePositionsBulk lossPosted (withKeys lossPosted.stock.products),
        ∀ p ∈ lossPosted.stock.products[x.1]?,
          x.2.position = p.val.currentQtyOnHand + receivable lossPosted x.1 := by
      decide +kernel
    exact hfalse fun x hx p hp => hexact _ hloaded x hx p hp

end GroceryErp
