import GroceryErp.Accounting.Postings
import GroceryErp.Inventory.Bookings

/-!
# Finalizing a sale

A cart is priced from the catalogue, checked against stock and payments, and
written in one transaction: the sale, its items with one stock movement each, its
payments, and the journal entry.

## Main definitions

* `priceLine`, `priceCart` — the authoritative amounts of a cart.
* `checkPayments` — the payment rules, and the change due.
* `recordSale` — everything but the journal entry.
* `finalizeSale` — the service function.

## References

`backend/app/modules/sales/service.py`, `finalize_sale`.
-/

namespace GroceryErp

open Decimal Ledger Outcome Rows

/-! ### Requests -/

structure SaleLineInput where
  productId : ℕ
  quantity : ℚ
  discountAmount : ℚ := 0

structure FinalizeSale where
  storeId : ℕ
  cashierId : ℕ
  clientTransactionId : String
  callerStoreId : Option ℕ
  lines : List SaleLineInput
  payments : List PaymentInput
  today : Date

/-! ### Pricing -/

/-- `_ComputedLine`: a cart line with the price, the cost and the tax of this moment. -/
structure ComputedLine where
  productId : ℕ
  quantity : ℚ
  unitPrice : ℚ
  unitCost : ℚ
  discountAmount : ℚ
  taxRateId : Option ℕ
  taxAmount : ℚ
  lineTotal : ℚ
  lineSubtotal : ℚ

/-- The tax rate is active and in force on the day. -/
def TaxRate.EffectiveOn (r : TaxRate) (today : Date) : Prop :=
  r.isActive ∧ r.effectiveFrom ≤ today ∧ ∀ d ∈ r.effectiveTo, today ≤ d

instance (r : TaxRate) (today : Date) : Decidable (r.EffectiveOn today) :=
  inferInstanceAs (Decidable (_ ∧ _))

/-- `_resolve_tax`: the rate of a product, none meaning untaxed. -/
def resolveTax (db : Db) (product : Product) (today : Date) : Result (Option ℕ × ℚ) :=
  match product.taxRateId with
  | none => return (none, 0)
  | some rateId => do
    let rate ← orRaise db.master.taxRates[rateId]? (.conflict .productTaxConfigurationInvalid)
    raiseIf (¬rate.EffectiveOn today) (.conflict .productTaxConfigurationInvalid)
    return (some rateId, rate.ratePercent)

/-- The loop that locks the products, in ascending order of id. -/
def checkCartProducts (db : Db) (storeId : ℕ) (lines : List SaleLineInput) : Result Unit :=
  (sortedIds (lines.map (·.productId))).forM fun productId => do
    let product ← orRaise db.stock.products[productId]? .notFound
    raiseIf (product.val.storeId ≠ storeId) (.conflict .storeMismatch)
    raiseIf (¬product.val.isActive) (.conflict .productInactive)

/-- The stock check, on the quantities of each product summed over the cart. -/
def checkCartStock (db : Db) (lines : List SaleLineInput) : Result Unit := do
  lines.forM fun line => raiseIf (line.quantity ≤ 0) (.validation .invalidQuantity)
  (sortedIds (lines.map (·.productId))).forM fun productId => do
    let product ← orRaise db.stock.products[productId]? .notFound
    let requested := sumWhere (·.productId = productId) (·.quantity) lines
    raiseIf (product.val.currentQtyOnHand - requested < 0 ∧ ¬product.val.allowNegativeStock)
      (.conflict .insufficientStock)

/-- The amounts of one line, from the catalogue. -/
def priceLine (db : Db) (today : Date) (line : SaleLineInput) : Result ComputedLine := do
  let product ← orRaise db.stock.products[line.productId]? .notFound
  let lineSubtotal := roundMoney (line.quantity * product.val.currentPrice)
  raiseIf (line.discountAmount > lineSubtotal) (.validation .invalidDiscount)
  let taxableAmount := lineSubtotal - line.discountAmount
  let (taxRateId, ratePercent) ← resolveTax db product.val today
  let taxAmount := roundMoney (taxableAmount * ratePercent / 100)
  return {
    productId := line.productId
    quantity := line.quantity
    unitPrice := product.val.currentPrice
    unitCost := product.val.currentCost
    discountAmount := line.discountAmount
    taxRateId := taxRateId
    taxAmount := taxAmount
    lineTotal := taxableAmount + taxAmount
    lineSubtotal := lineSubtotal }

/-- A priced cart, line by line; its totals are sums over the lines. -/
structure PricedCart where
  computed : List ComputedLine

namespace PricedCart

variable (c : PricedCart)

def subtotal : ℚ := (c.computed.map (·.lineSubtotal)).sum

def discountTotal : ℚ := (c.computed.map (·.discountAmount)).sum

def taxTotal : ℚ := (c.computed.map (·.taxAmount)).sum

def grandTotal : ℚ := c.subtotal - c.discountTotal + c.taxTotal

/-- The quantities and unit costs the cost of goods is computed from. -/
def costed : List (ℚ × ℚ) := c.computed.map fun l => (l.quantity, l.unitCost)

end PricedCart

/-- The checks on the cart, and its amounts. -/
def priceCart (db : Db) (storeId : ℕ) (lines : List SaleLineInput) (today : Date) :
    Result PricedCart := do
  checkCartProducts db storeId lines
  checkCartStock db lines
  let computed ← lines.mapM (priceLine db today)
  return ⟨computed⟩

/-! ### Payments -/

def totalPaid (payments : List PaymentInput) : ℚ := (payments.map (·.amount)).sum

def nonCashPaid (payments : List PaymentInput) : ℚ :=
  sumWhere (·.paymentMethod ≠ .cash) (·.amount) payments

/-- The payment rules.  The result is the change due. -/
def checkPayments (payments : List PaymentInput) (grandTotal : ℚ) : Result ℚ := do
  raiseIf (nonCashPaid payments > grandTotal) (.conflict .overpaymentNotAllowed)
  raiseIf (totalPaid payments < grandTotal) (.conflict .insufficientPayment)
  return totalPaid payments - grandTotal

/-! ### Writing the sale -/

/-- `lock_active_shift_for_cashier`: the id of the cashier's open shift, if there is one. -/
def activeShiftForCashier (db : Db) (cashierId : ℕ) : Result (Option ℕ) :=
  scalarOneOrNone ((rowsWhere (fun s : Row CashierShift =>
    s.val.cashierId = cashierId ∧ s.val.status = .opened) db.shifts.shifts).map Prod.fst)

/-- The sale header as its columns keep it. -/
def saleRow (req : FinalizeSale) (cart : PricedCart) (changeDue : ℚ) (shiftId : Option ℕ) :
    Sale where
  storeId := req.storeId
  clientTransactionId := req.clientTransactionId
  cashierId := req.cashierId
  status := .completed
  subtotal := numeric 2 cart.subtotal
  discountTotal := numeric 2 cart.discountTotal
  taxTotal := numeric 2 cart.taxTotal
  grandTotal := numeric 2 cart.grandTotal
  amountTendered := numeric 2 (totalPaid req.payments)
  changeDue := numeric 2 changeDue
  completedAt := req.today
  shiftId := shiftId

/-- A sale item as its columns keep it. -/
def ComputedLine.item (c : ComputedLine) (saleId : ℕ) : SaleItem where
  saleId := saleId
  productId := c.productId
  quantity := numeric 3 c.quantity
  unitPriceAtSale := numeric 2 c.unitPrice
  unitCostAtSale := numeric 6 c.unitCost
  discountAmount := numeric 2 c.discountAmount
  taxRateId := c.taxRateId
  taxAmount := numeric 2 c.taxAmount
  lineTotal := numeric 2 c.lineTotal
  quantityReturned := 0

/-- The stock movement of a line, out of the store and with the sale as its source. -/
def ComputedLine.movement (c : ComputedLine) (storeId saleId : ℕ) : MovementInput where
  storeId := storeId
  movementType := .sale
  quantityDelta := -c.quantity
  unitCostAtMovement := c.unitCost
  referenceType := .sale
  referenceId := some saleId

/-- One line of a sale: its movement is recorded first, and then its item. -/
def addSaleLine (storeId saleId : ℕ) (db : Db) (c : ComputedLine) : Result Db := do
  let db ← recordMovement db c.productId (c.movement storeId saleId)
  let item ← flush (c.item saleId)
  return { db with sales.items := db.sales.items ++ [item] }

/-- One payment of the sale, as its column keeps it. -/
def addPayment (saleId : ℕ) (db : Db) (p : PaymentInput) : Result Db := do
  let payment ← flush { saleId, paymentMethod := p.paymentMethod, amount := numeric 2 p.amount : Payment }
  return { db with sales.payments := db.sales.payments ++ [payment] }

/-- The sale, its items, movements and payments, written from a priced cart. -/
def writeSale (db : Db) (req : FinalizeSale) (cart : PricedCart) (changeDue : ℚ) :
    Result (Db × ℕ) := do
  let shiftId ← activeShiftForCashier db req.cashierId
  let sale ← flush (saleRow req cart changeDue shiftId)
  let saleId := db.sales.sales.length
  let db := { db with sales.sales := db.sales.sales ++ [sale] }
  let db ← cart.computed.foldlM (addSaleLine req.storeId saleId) db
  let db ← req.payments.foldlM (addPayment saleId) db
  return (db, saleId)

/-- The checks on a new cart: its priced lines and the change due. -/
def checkout (db : Db) (req : FinalizeSale) : Result (PricedCart × ℚ) := do
  raiseIf (req.lines = []) (.validation .emptyCart)
  raiseIf (req.payments = []) (.validation .noPayment)
  let store ← orRaise db.master.stores[req.storeId]? .notFound
  raiseIf (¬store.isActive) .notFound
  let cart ← priceCart db req.storeId req.lines req.today
  let changeDue ← checkPayments req.payments cart.grandTotal
  return (cart, changeDue)

/-- `post_sale_journal`: the tenders less the change against revenue, discounts and tax, with the
cost of the goods beside them. -/
def postSaleJournal (db : Db) (req : FinalizeSale) (saleId : ℕ) (cart : PricedCart)
    (changeDue : ℚ) : Result Db :=
  postJournal db req.storeId req.today .sale saleId
    (saleJournalLines req.payments cart.discountTotal changeDue cart.subtotal cart.taxTotal
      cart.costed)

/-- The sale that already carries the client's key, as a retried request finds it. -/
def saleWithKey (db : Db) (key : String) : List (ℕ × Row Sale) :=
  rowsWhere (·.val.clientTransactionId = key) db.sales.sales

/-- `finalize_sale`: the tables after the request, and the id of the sale. -/
def finalizeSale (db : Db) (req : FinalizeSale) : Result (Db × ℕ) := do
  enforceStoreAccess req.callerStoreId req.storeId
  match ← scalarOneOrNone (saleWithKey db req.clientTransactionId) with
  | some (saleId, _) => return (db, saleId)
  | none => do
    let (cart, changeDue) ← checkout db req
    let (db, saleId) ← writeSale db req cart changeDue
    let db ← postSaleJournal db req saleId cart changeDue
    return (db, saleId)

/-! ### What a request that succeeds has done -/

section Inversion

variable {db db' : Db} {req : FinalizeSale} {cart : PricedCart} {changeDue : ℚ}
  {storeId saleId : ℕ}

theorem priceLine_eq_ok {today : Date} {line : SaleLineInput} {c : ComputedLine} :
    priceLine db today line = .ok c ↔
      ∃ p taxRateId ratePercent, db.stock.products[line.productId]? = some p ∧
        line.discountAmount ≤ roundMoney (line.quantity * p.val.currentPrice) ∧
        resolveTax db p.val today = .ok (taxRateId, ratePercent) ∧
        c = {
          productId := line.productId
          quantity := line.quantity
          unitPrice := p.val.currentPrice
          unitCost := p.val.currentCost
          discountAmount := line.discountAmount
          taxRateId := taxRateId
          taxAmount := roundMoney ((roundMoney (line.quantity * p.val.currentPrice)
            - line.discountAmount) * ratePercent / 100)
          lineTotal := roundMoney (line.quantity * p.val.currentPrice) - line.discountAmount
            + roundMoney ((roundMoney (line.quantity * p.val.currentPrice)
              - line.discountAmount) * ratePercent / 100)
          lineSubtotal := roundMoney (line.quantity * p.val.currentPrice) } := by
  unfold priceLine
  simp only [↓check_bind_eq_ok, bind_eq_ok, orRaise_eq_ok, raiseIf_eq_ok, pure_eq_ok, not_lt,
    gt_iff_lt, Prod.exists, @eq_comm _ _ c]
  constructor
  · rintro ⟨p, hp, hd, taxRateId, ratePercent, ht, hc⟩
    exact ⟨p, taxRateId, ratePercent, hp, hd, ht, hc⟩
  · rintro ⟨p, taxRateId, ratePercent, hp, hd, ht, hc⟩
    exact ⟨p, hp, hd, taxRateId, ratePercent, ht, hc⟩

/-- A cart that is priced: every product is an active one of the store, every
quantity is positive and in stock, and every line is priced. -/
theorem priceCart_ok {lines : List SaleLineInput} {today : Date}
    (h : priceCart db storeId lines today = .ok cart) :
    checkCartProducts db storeId lines = .ok () ∧ checkCartStock db lines = .ok () ∧
      List.Forall₂ (fun line c => priceLine db today line = .ok c) lines cart.computed := by
  unfold priceCart at h
  simp only [↓check_bind_eq_ok, bind_eq_ok, pure_eq_ok, mapM_eq_ok] at h
  obtain ⟨h1, h2, computed, h3, rfl⟩ := h
  exact ⟨h1, h2, h3⟩

theorem checkCartProducts_ok {lines : List SaleLineInput}
    (h : checkCartProducts db storeId lines = .ok ()) :
    ∀ l ∈ lines, ∃ p, db.stock.products[l.productId]? = some p ∧ p.val.storeId = storeId := by
  intro l hl
  have hp := forM_eq_ok.mp h l.productId (mem_sortedIds.mpr (List.mem_map_of_mem hl))
  simp only [↓check_bind_eq_ok, bind_eq_ok, orRaise_eq_ok, raiseIf_eq_ok, ne_eq, not_not] at hp
  obtain ⟨p, hp, hs, -⟩ := hp
  exact ⟨p, hp, hs⟩

theorem checkCartStock_quantity_pos {lines : List SaleLineInput}
    (h : checkCartStock db lines = .ok ()) : ∀ l ∈ lines, 0 < l.quantity := by
  unfold checkCartStock at h
  rw [check_bind_eq_ok, forM_raiseIf_eq_ok] at h
  exact fun l hl => not_le.mp (h.1 l hl)

theorem checkPayments_eq_ok {payments : List PaymentInput} {grandTotal : ℚ} :
    checkPayments payments grandTotal = .ok changeDue ↔
      nonCashPaid payments ≤ grandTotal ∧ grandTotal ≤ totalPaid payments ∧
        changeDue = totalPaid payments - grandTotal := by
  unfold checkPayments
  simp only [↓check_bind_eq_ok, raiseIf_eq_ok, pure_eq_ok, gt_iff_lt, not_lt, @eq_comm _ _ changeDue]

theorem checkout_ok (h : checkout db req = .ok (cart, changeDue)) :
    priceCart db req.storeId req.lines req.today = .ok cart ∧
      checkPayments req.payments cart.grandTotal = .ok changeDue := by
  unfold checkout at h
  simp only [↓check_bind_eq_ok, bind_eq_ok, orRaise_eq_ok, raiseIf_eq_ok, pure_eq_ok,
    Prod.mk.injEq] at h
  obtain ⟨-, -, _, -, -, c, h1, d, h2, rfl, rfl⟩ := h
  exact ⟨h1, h2⟩

theorem addSaleLine_eq_ok {c : ComputedLine} :
    addSaleLine storeId saleId db c = .ok db' ↔
      ∃ d item, recordMovement db c.productId (c.movement storeId saleId) = .ok d ∧
        item.val = c.item saleId ∧
        db' = { d with sales.items := d.sales.items ++ [item] } := by
  unfold addSaleLine
  simp only [bind_eq_ok, flush_eq_ok, pure_eq_ok, @eq_comm _ _ db', exists_and_left]

/-- The lines of a sale write their items in order, and beside them only stock. -/
theorem addSaleLines_ok {computed : List ComputedLine}
    (h : computed.foldlM (addSaleLine storeId saleId) db = .ok db') :
    ∃ items, items.map Subtype.val = computed.map (·.item saleId) ∧
      db' = { db with
        stock := db.stock.moved db'.stock, sales.items := db.sales.items ++ items } := by
  refine foldlM_induct (fun done t => ∃ items, items.map Subtype.val = done.map (·.item saleId) ∧
    t = { db with
      stock := db.stock.moved t.stock, sales.items := db.sales.items ++ items }) h
    ⟨[], rfl, by simp⟩ ?_
  rintro done c rest t t' - ⟨items, hitems, ht⟩ hstep
  obtain ⟨d, item, hd, hitem, rfl⟩ := addSaleLine_eq_ok.mp hstep
  refine ⟨items ++ [item], by simp [hitems, hitem], ?_⟩
  rw [recordMovement_frame hd, ht]
  simp

/-- The payments of a sale write their rows in order and nothing else. -/
theorem addPayments_ok {payments : List PaymentInput}
    (h : payments.foldlM (addPayment saleId) db = .ok db') :
    ∃ rows, rows.map Subtype.val
        = payments.map (fun p => ⟨saleId, p.paymentMethod, numeric 2 p.amount⟩) ∧
      db' = { db with sales.payments := db.sales.payments ++ rows } := by
  refine foldlM_induct (fun done t => ∃ rows, rows.map Subtype.val
    = done.map (fun p => ⟨saleId, p.paymentMethod, numeric 2 p.amount⟩) ∧
    t = { db with sales.payments := db.sales.payments ++ rows }) h ⟨[], rfl, by simp⟩ ?_
  rintro done p rest t t' - ⟨rows, hrows, rfl⟩ hstep
  unfold addPayment at hstep
  simp only [bind_eq_ok, flush_eq_ok, pure_eq_ok] at hstep
  obtain ⟨row, hrow, rfl⟩ := hstep
  exact ⟨rows ++ [row], by simp [hrows, hrow], by simp⟩

/-- The lines of a sale book one movement each. -/
theorem bookedAll_of_addSaleLines {computed : List ComputedLine}
    (h : computed.foldlM (addSaleLine storeId saleId) db = .ok db') :
    ∃ bss, List.Forall₂ (fun c => BooksOne c.productId fun _ => c.movement storeId saleId)
        computed bss ∧ BookedAll bss.flatten db.stock db'.stock := by
  refine bookedAll_of_foldlM _ h fun c _ d d' hstep => ?_
  obtain ⟨e, item, he, -, rfl⟩ := addSaleLine_eq_ok.mp hstep
  obtain ⟨bs, hbs, hrun⟩ := exists_booksOne_const he
  exact ⟨bs, hbs, hrun⟩

/-- What writing a sale leaves: its header, its items, its payments, and stock. -/
theorem writeSale_ok (h : writeSale db req cart changeDue = .ok (db', saleId)) :
    saleId = db.sales.sales.length ∧ ∃ shiftId sale items payments,
      sale.val = saleRow req cart changeDue shiftId ∧
      items.map Subtype.val = cart.computed.map (·.item saleId) ∧
      payments.map Subtype.val
        = req.payments.map (fun p => ⟨saleId, p.paymentMethod, numeric 2 p.amount⟩) ∧
      db' = { db with
        stock := db.stock.moved db'.stock
        sales.sales := db.sales.sales ++ [sale]
        sales.items := db.sales.items ++ items
        sales.payments := db.sales.payments ++ payments } := by
  unfold writeSale at h
  simp only [bind_eq_ok, flush_eq_ok, pure_eq_ok, Prod.mk.injEq] at h
  obtain ⟨shiftId, -, sale, hsale, d, hd, d', hd', rfl, rfl⟩ := h
  obtain ⟨items, hitems, hd⟩ := addSaleLines_ok hd
  obtain ⟨payments, hpayments, rfl⟩ := addPayments_ok hd'
  refine ⟨rfl, shiftId, sale, items, payments, hsale, hitems, hpayments, ?_⟩
  rw [hd]
  rfl

/-- Writing a sale books one movement for each line. -/
theorem bookedAll_of_writeSale (h : writeSale db req cart changeDue = .ok (db', saleId)) :
    ∃ bss, List.Forall₂ (fun c => BooksOne c.productId fun _ => c.movement req.storeId saleId)
        cart.computed bss ∧ BookedAll bss.flatten db.stock db'.stock := by
  unfold writeSale at h
  simp only [bind_eq_ok, flush_eq_ok, pure_eq_ok, Prod.mk.injEq] at h
  obtain ⟨shiftId, -, sale, -, d, hd, d', hd', rfl, rfl⟩ := h
  obtain ⟨bss, hbss, hrun⟩ := bookedAll_of_addSaleLines hd
  obtain ⟨payments, -, rfl⟩ := addPayments_ok hd'
  exact ⟨bss, hbss, hrun⟩

/-- A request that is not a replay is checked, written and posted. -/
theorem finalizeSale_ok (h : finalizeSale db req = .ok (db', saleId)) :
    (∃ sale, saleWithKey db req.clientTransactionId = [(saleId, sale)] ∧ db' = db) ∨
    (saleWithKey db req.clientTransactionId = [] ∧ ∃ cart changeDue d,
      checkout db req = .ok (cart, changeDue) ∧
      writeSale db req cart changeDue = .ok (d, saleId) ∧
      postSaleJournal d req saleId cart changeDue = .ok db') := by
  unfold finalizeSale at h
  simp only [↓check_bind_eq_ok, bind_eq_ok] at h
  obtain ⟨-, found, hfound, h⟩ := h
  cases found with
  | some s =>
    obtain ⟨i, sale⟩ := s
    simp only [pure_eq_ok, Prod.mk.injEq] at h
    obtain ⟨rfl, rfl⟩ := h
    exact .inl ⟨sale, scalarOneOrNone_eq_some.mp hfound, rfl⟩
  | none =>
    simp only [bind_eq_ok, pure_eq_ok, Prod.exists, Prod.mk.injEq] at h
    obtain ⟨cart, changeDue, h1, d, i, h2, d', h3, rfl, rfl⟩ := h
    exact .inr ⟨scalarOneOrNone_eq_none.mp hfound, cart, changeDue, d, h1, h2, h3⟩

end Inversion

end GroceryErp
