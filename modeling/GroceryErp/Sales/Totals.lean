import GroceryErp.Sales.Returns

/-!
# The totals of a sale and its entries

The amounts of a finalized sale agree with one another, and the entries of sales
and returns are assembled from conditional lines that balance whichever of them
are left out.

## Main results

* `WellFormed.saleJournalLines` — the entry of a priced and paid cart.
* `WellFormed.saleReturnJournalLines` — the entry of a return that refunds a
  nonnegative amount.
* `finalizeSale_totals` — the header, items, payments and entry of a new sale.
-/

namespace GroceryErp

open Decimal Ledger Outcome Rows

/-- An entry the database accepts: the debits equal the credits, and every line
has exactly one strictly positive side. -/
structure WellFormed (ls : List JournalLine) : Prop where
  balanced : Ledger.Balanced ls
  oneSided : ∀ l ∈ ls, l.OneSided

/-! ### The entry of a sale -/

theorem totalDebit_payments (payments : List PaymentInput) :
    totalDebit (payments.map fun p => debit p.paymentMethod.account p.amount)
      = totalPaid payments := by
  simp only [totalDebit, List.map_map, totalPaid]
  rfl

theorem totalCredit_payments (payments : List PaymentInput) :
    totalCredit (payments.map fun p => debit p.paymentMethod.account p.amount) = 0 := by
  simp [totalCredit, Function.comp_def, debit]

/-- A pair of equal amounts adds the same to both sides. -/
theorem totalDebit_pair_eq (a b : Account) (x : ℚ) :
    totalDebit (pair a b x) = totalCredit (pair a b x) := balanced_pair a b x

/-- **The entry of a sale is well formed**: the payments cover the total, the
change is the rest, and no amount is negative. -/
theorem WellFormed.saleJournalLines {payments : List PaymentInput}
    {discountTotal changeDue subtotal taxTotal : ℚ} (costed : List (ℚ × ℚ))
    (hpay : ∀ p ∈ payments, 0 < p.amount) (hd : 0 ≤ discountTotal) (hc : 0 ≤ changeDue)
    (hs : 0 ≤ subtotal) (ht : 0 ≤ taxTotal)
    (hchange : totalPaid payments - changeDue = subtotal - discountTotal + taxTotal) :
    WellFormed (saleJournalLines payments discountTotal changeDue subtotal taxTotal costed) where
  balanced := by
    unfold GroceryErp.saleJournalLines Ledger.Balanced
    simp only [totalDebit_append, totalCredit_append, totalDebit_payments, totalCredit_payments,
      totalDebit_debitIf _ hd, totalCredit_debitIf, totalDebit_creditIf,
      totalCredit_creditIf _ hc, totalCredit_creditIf _ hs, totalCredit_creditIf _ ht,
      totalDebit_pair_eq]
    linarith
  oneSided := by
    intro l hl
    simp only [GroceryErp.saleJournalLines, List.mem_append, List.mem_map] at hl
    rcases hl with ((((⟨p, hp, rfl⟩ | hl) | hl) | hl) | hl) | hl
    · exact oneSided_debit (hpay p hp)
    · exact oneSided_of_mem_debitIf hl
    · exact oneSided_of_mem_creditIf hl
    · exact oneSided_of_mem_creditIf hl
    · exact oneSided_of_mem_creditIf hl
    · exact oneSided_of_mem_pair hl

/-! ### The entry of a return -/

/-- **The entry of a return is well formed** when what it refunds in all is not
negative. -/
theorem WellFormed.saleReturnJournalLines {effects : List SaleReturnLineEffect}
    (method : PaymentMethod) (hp : 0 ≤ (effects.map (·.refundPrice)).sum)
    (hd : 0 ≤ (effects.map (·.discountRefunded)).sum)
    (ht : 0 ≤ (effects.map (·.taxRefunded)).sum)
    (hr : 0 ≤ (effects.map (·.refundPrice)).sum - (effects.map (·.discountRefunded)).sum
      + (effects.map (·.taxRefunded)).sum) :
    WellFormed (saleReturnJournalLines method effects) where
  balanced := by
    unfold GroceryErp.saleReturnJournalLines Ledger.Balanced
    simp only [totalDebit_append, totalCredit_append, totalDebit_debitIf _ hp,
      totalDebit_debitIf _ ht, totalCredit_debitIf, totalDebit_creditIf,
      totalCredit_creditIf _ hd, totalCredit_creditIf _ hr, totalDebit_pair_eq]
    ring
  oneSided := by
    intro l hl
    simp only [GroceryErp.saleReturnJournalLines, List.mem_append] at hl
    rcases hl with (((hl | hl) | hl) | hl) | hl
    · exact oneSided_of_mem_debitIf hl
    · exact oneSided_of_mem_debitIf hl
    · exact oneSided_of_mem_creditIf hl
    · exact oneSided_of_mem_creditIf hl
    · exact oneSided_of_mem_pair hl

theorem filter_debitIf_of_ne {a b : Account} (h : b ≠ a) (x : ℚ) :
    (debitIf b x).filter (·.account = a) = [] := by
  unfold debitIf
  split <;> simp [debit, h]

theorem filter_creditIf_of_ne {a b : Account} (h : b ≠ a) (x : ℚ) :
    (creditIf b x).filter (·.account = a) = [] := by
  unfold creditIf
  split <;> simp [credit, h]

theorem filter_creditIf_self (a : Account) (x : ℚ) :
    (creditIf a x).filter (·.account = a) = creditIf a x := by
  unfold creditIf
  split <;> simp [credit]

/-- The refund is the only line on the account of the refund method. -/
theorem filter_saleReturnJournalLines (method : PaymentMethod)
    (effects : List SaleReturnLineEffect) :
    (saleReturnJournalLines method effects).filter (·.account = method.account)
      = creditIf method.account ((effects.map (·.refundPrice)).sum
          - (effects.map (·.discountRefunded)).sum + (effects.map (·.taxRefunded)).sum) := by
  have hne : ∀ a ∈ [Account.salesRevenue, .taxPayable, .salesDiscounts, .inventory, .cogs],
      a ≠ method.account := by
    cases method <;> decide
  simp only [List.mem_cons, List.not_mem_nil, or_false, forall_eq_or_imp, forall_eq] at hne
  obtain ⟨h1, h2, h3, h4, h5⟩ := hne
  simp only [saleReturnJournalLines, pair, List.filter_append, filter_debitIf_of_ne h1,
    filter_debitIf_of_ne h2, filter_creditIf_of_ne h3, filter_creditIf_self,
    filter_debitIf_of_ne h4, filter_creditIf_of_ne h5, List.nil_append, List.append_nil]

/-! ### Planned returns -/

section Planned

variable {db : Db} {req : CreateSaleReturn} {sale : Row Sale} {lines : List ReturnLine}

theorem ReturnLine.refundPrice_nonneg {l : ReturnLine} (hq : 0 ≤ l.quantity) :
    0 ≤ l.refund.refundPrice :=
  quantize_nonneg (mul_nonneg l.item.property.price_nonneg hq)

theorem ReturnLine.discountRefunded_nonneg {l : ReturnLine} (hq : 0 ≤ l.quantity) :
    0 ≤ l.refund.discountRefunded :=
  proportionalShare_nonneg l.item.property.discount_nonneg l.item.property.quantity_pos hq

theorem ReturnLine.taxRefunded_nonneg {l : ReturnLine} (hq : 0 ≤ l.quantity) :
    0 ≤ l.refund.taxRefunded :=
  proportionalShare_nonneg l.item.property.tax_nonneg l.item.property.quantity_pos hq

theorem sum_effects (lines : List ReturnLine) (f : SaleReturnLineEffect → ℚ) :
    ((lines.map ReturnLine.effect).map f).sum = (lines.map fun l => f l.effect).sum := by
  rw [List.map_map]
  rfl

theorem totalRefund_eq (lines : List ReturnLine) :
    totalRefund lines = ((lines.map ReturnLine.effect).map (·.refundPrice)).sum
      - ((lines.map ReturnLine.effect).map (·.discountRefunded)).sum
      + ((lines.map ReturnLine.effect).map (·.taxRefunded)).sum := by
  induction lines with
  | nil => simp [totalRefund]
  | cons l lines ih =>
    simp only [totalRefund, List.map_cons, List.sum_cons, LineRefund.amount,
      ReturnLine.effect] at ih ⊢
    linarith

theorem sum_map_nonneg {l : List ReturnLine} {f : ReturnLine → ℚ} (h : ∀ a ∈ l, 0 ≤ f a) :
    0 ≤ (l.map f).sum :=
  List.sum_nonneg fun x hx => by
    obtain ⟨a, ha, rfl⟩ := List.mem_map.mp hx
    exact h a ha

/-- The entry of a planned return is well formed when its refund is not negative. -/
theorem wellFormed_of_planReturn (h : planReturn db req = .ok (sale, lines))
    (hr : 0 ≤ totalRefund lines) :
    WellFormed (saleReturnJournalLines req.refundMethod (lines.map ReturnLine.effect)) := by
  obtain ⟨-, -, -, -, hplanned⟩ := planReturn_ok h
  have hq : ∀ l ∈ lines, 0 ≤ l.quantity := fun l hl => (hplanned l hl).quantity_pos.le
  rw [totalRefund_eq] at hr
  refine WellFormed.saleReturnJournalLines _ ?_ ?_ ?_ hr
  · rw [sum_effects]
    exact sum_map_nonneg fun l hl => l.refundPrice_nonneg (hq l hl)
  · rw [sum_effects]
    exact sum_map_nonneg fun l hl => l.discountRefunded_nonneg (hq l hl)
  · rw [sum_effects]
    exact sum_map_nonneg fun l hl => l.taxRefunded_nonneg (hq l hl)

end Planned

/-! ### A new sale -/

/-- The scales of the columns: money at two decimals, quantities at three. -/
structure FinalizeSale.AtScale (req : FinalizeSale) : Prop where
  quantity : ∀ l ∈ req.lines, OnGrid 3 l.quantity
  discount : ∀ l ∈ req.lines, OnGrid 2 l.discountAmount
  payment : ∀ p ∈ req.payments, OnGrid 2 p.amount

/-- The amounts of a priced line are at two decimals. -/
structure ComputedLine.AtScale (c : ComputedLine) : Prop where
  subtotal : OnGrid 2 c.lineSubtotal
  discount : OnGrid 2 c.discountAmount
  tax : OnGrid 2 c.taxAmount
  total : c.lineTotal = c.lineSubtotal - c.discountAmount + c.taxAmount

namespace PricedCart

variable {c : PricedCart}

theorem onGrid_map_sum {f : ComputedLine → ℚ} (h : ∀ l ∈ c.computed, OnGrid 2 (f l)) :
    OnGrid 2 (c.computed.map f).sum :=
  onGrid_sum _ fun x hx => by
    obtain ⟨l, hl, rfl⟩ := List.mem_map.mp hx
    exact h l hl

theorem map_sum_nonneg {f : ComputedLine → ℚ} (h : ∀ l ∈ c.computed, 0 ≤ f l) :
    0 ≤ (c.computed.map f).sum :=
  List.sum_nonneg fun x hx => by
    obtain ⟨l, hl, rfl⟩ := List.mem_map.mp hx
    exact h l hl

theorem onGrid_grandTotal (h : ∀ l ∈ c.computed, l.AtScale) : OnGrid 2 c.grandTotal :=
  ((onGrid_map_sum fun l hl => (h l hl).subtotal).sub
    (onGrid_map_sum fun l hl => (h l hl).discount)).add (onGrid_map_sum fun l hl => (h l hl).tax)

/-- The total of a cart is the sum of its lines' totals. -/
theorem grandTotal_eq (h : ∀ l ∈ c.computed, l.AtScale) :
    c.grandTotal = (c.computed.map (·.lineTotal)).sum := by
  obtain ⟨computed⟩ := c
  simp only [grandTotal, subtotal, discountTotal, taxTotal] at h ⊢
  induction computed with
  | nil => simp
  | cons l computed ih =>
    have hl := (h l List.mem_cons_self).total
    have hrest := ih fun k hk => h k (List.mem_cons_of_mem _ hk)
    simp only [List.map_cons, List.sum_cons]
    linarith

end PricedCart

section NewSale

variable {db db' d : Db} {req : FinalizeSale} {cart : PricedCart} {changeDue : ℚ} {saleId : ℕ}

theorem ComputedLine.atScale_of_priceLine {today : Date} {line : SaleLineInput} {c : ComputedLine}
    (hd : OnGrid 2 line.discountAmount) (h : priceLine db today line = .ok c) : c.AtScale := by
  obtain ⟨p, rateId, rate, -, -, -, rfl⟩ := priceLine_eq_ok.mp h
  exact ⟨onGrid_quantize 2 _, hd, onGrid_quantize 2 _, rfl⟩

/-- Every priced line comes from a line of the request. -/
theorem exists_line_of_checkout (h : checkout db req = .ok (cart, changeDue)) :
    ∀ c ∈ cart.computed, ∃ line ∈ req.lines, 0 < line.quantity ∧
      priceLine db req.today line = .ok c := by
  obtain ⟨hprice, -⟩ := checkout_ok h
  obtain ⟨-, hstock, hlines⟩ := priceCart_ok hprice
  intro c hc
  obtain ⟨line, hline, hok⟩ := exists_of_mem_mapM (mapM_eq_ok.mpr hlines) hc
  exact ⟨line, hline, checkCartStock_quantity_pos hstock line hline, hok⟩

theorem atScale_of_checkout (hreq : req.AtScale) (h : checkout db req = .ok (cart, changeDue)) :
    ∀ c ∈ cart.computed, c.AtScale := by
  intro c hc
  obtain ⟨line, hline, -, hok⟩ := exists_line_of_checkout h c hc
  exact ComputedLine.atScale_of_priceLine (hreq.discount line hline) hok

theorem subtotal_nonneg_of_checkout (h : checkout db req = .ok (cart, changeDue)) :
    0 ≤ cart.subtotal := by
  refine PricedCart.map_sum_nonneg fun c hc => ?_
  obtain ⟨line, -, hq, hok⟩ := exists_line_of_checkout h c hc
  obtain ⟨p, rateId, rate, -, -, -, rfl⟩ := priceLine_eq_ok.mp hok
  exact quantize_nonneg (mul_nonneg hq.le p.property.price_nonneg)

/-- **The entry of a checked and written sale is well formed**, before any check
of the journal. -/
theorem wellFormed_of_writeSale (hreq : req.AtScale)
    (hc : checkout db req = .ok (cart, changeDue))
    (hw : writeSale db req cart changeDue = .ok (d, saleId)) :
    WellFormed (saleJournalLines req.payments cart.discountTotal changeDue cart.subtotal
      cart.taxTotal cart.costed) := by
  have hscale := atScale_of_checkout hreq hc
  obtain ⟨-, hpaid⟩ := checkout_ok hc
  obtain ⟨-, hcover, hchange⟩ := checkPayments_eq_ok.mp hpaid
  obtain ⟨-, shiftId, sale, items, payments, -, hitems, hpayments, -⟩ := writeSale_ok hw
  -- the CHECK constraints of the rows written give the signs
  have hitem : ∀ c ∈ cart.computed, ∃ i : Row SaleItem, i.val = c.item saleId := by
    intro c hc
    obtain ⟨i, -, hi⟩ := exists_of_map_eq hitems.symm hc
    exact ⟨i, hi⟩
  refine WellFormed.saleJournalLines _ ?_ ?_ ?_ (subtotal_nonneg_of_checkout hc) ?_ ?_
  · intro p hp
    obtain ⟨row, -, hrow⟩ := exists_of_map_eq hpayments.symm hp
    have hpos : 0 < row.val.amount := row.property
    rw [hrow] at hpos
    exact numeric_eq_self (hreq.payment p hp) ▸ hpos
  · refine PricedCart.map_sum_nonneg fun c hc => ?_
    obtain ⟨i, hi⟩ := hitem c hc
    have hnn : 0 ≤ i.val.discountAmount := i.property.discount_nonneg
    rw [hi] at hnn
    exact numeric_eq_self (hscale c hc).discount ▸ hnn
  · rw [hchange]
    linarith
  · refine PricedCart.map_sum_nonneg fun c hc => ?_
    obtain ⟨i, hi⟩ := hitem c hc
    have hnn : 0 ≤ i.val.taxAmount := i.property.tax_nonneg
    rw [hi] at hnn
    exact numeric_eq_self (hscale c hc).tax ▸ hnn
  · rw [hchange, PricedCart.grandTotal]
    ring

/-- The cash handed over, which may exceed what is due. -/
def cashTendered (payments : List PaymentInput) : ℚ :=
  sumWhere (·.paymentMethod = .cash) (·.amount) payments

theorem totalPaid_eq (payments : List PaymentInput) :
    totalPaid payments = cashTendered payments + nonCashPaid payments := by
  induction payments with
  | nil => simp [totalPaid, cashTendered, nonCashPaid]
  | cons p payments ih =>
    simp only [totalPaid, cashTendered, nonCashPaid, List.map_cons, List.sum_cons,
      sumWhere_cons] at ih ⊢
    rw [ih]
    split <;> simp_all <;> ring

/-- The amounts of a new sale agree, row by row. -/
structure SaleAgrees (sale : Row Sale) (items : List (Row SaleItem))
    (payments : List (Row Payment)) : Prop where
  grand_total : sale.val.grandTotal = (items.map (·.val.lineTotal)).sum
  change : sale.val.amountTendered - sale.val.changeDue = sale.val.grandTotal
  change_le_cash :
    sale.val.changeDue ≤ sumWhere (·.val.paymentMethod = .cash) (·.val.amount) payments

theorem saleAgrees_of_writeSale (hreq : req.AtScale)
    (hc : checkout db req = .ok (cart, changeDue)) {shiftId : Option ℕ} {sale : Row Sale}
    {items : List (Row SaleItem)} {payments : List (Row Payment)}
    (hsale : sale.val = saleRow req cart changeDue shiftId)
    (hitems : items.map Subtype.val = cart.computed.map (·.item saleId))
    (hpayments : payments.map Subtype.val
      = req.payments.map fun p => ⟨saleId, p.paymentMethod, numeric 2 p.amount⟩) :
    SaleAgrees sale items payments := by
  have hscale := atScale_of_checkout hreq hc
  obtain ⟨-, hpaid⟩ := checkout_ok hc
  obtain ⟨hnonCash, -, hchange⟩ := checkPayments_eq_ok.mp hpaid
  have hgrand := PricedCart.onGrid_grandTotal hscale
  have htotal : OnGrid 2 (totalPaid req.payments) := onGrid_sum _ fun x hx => by
    obtain ⟨p, hp, rfl⟩ := List.mem_map.mp hx
    exact hreq.payment p hp
  have hdue : OnGrid 2 changeDue := hchange ▸ htotal.sub hgrand
  refine ⟨?_, ?_, ?_⟩
  -- the scale of a request makes the columns exact, so that nothing is rounded below
  · have hsum : items.map (·.val.lineTotal) = cart.computed.map (·.lineTotal) := by
      have h := congrArg (List.map SaleItem.lineTotal) hitems
      rw [List.map_map, List.map_map] at h
      refine h.trans (List.map_congr_left fun c hc => ?_)
      have hgrid : OnGrid 2 c.lineTotal := (hscale c hc).total ▸
        ((hscale c hc).subtotal.sub (hscale c hc).discount).add (hscale c hc).tax
      exact numeric_eq_self hgrid
    rw [hsale, hsum, ← PricedCart.grandTotal_eq hscale]
    exact numeric_eq_self hgrand
  · rw [hsale]
    simp only [saleRow, numeric_eq_self htotal, numeric_eq_self hdue, numeric_eq_self hgrand]
    rw [hchange]
    ring
  -- change is given from the cash only
  · have hcash : sumWhere (·.val.paymentMethod = .cash) (·.val.amount) payments
        = cashTendered req.payments := by
      have h : sumWhere (·.val.paymentMethod = .cash) (·.val.amount) payments
          = sumWhere (fun p : Payment => p.paymentMethod = .cash) (·.amount)
            (payments.map Subtype.val) := by
        simp only [sumWhere_eq_sum_map, List.map_map, Function.comp_def]
      rw [h, hpayments, cashTendered]
      simp only [sumWhere_eq_sum_map, List.map_map]
      congr 1
      refine List.map_congr_left fun p hp => ?_
      simp only [Function.comp_apply, numeric_eq_self (hreq.payment p hp)]
    rw [hsale, hcash]
    simp only [saleRow, numeric_eq_self hdue]
    rw [hchange, totalPaid_eq]
    linarith

/-- **A new sale**: the rows it adds agree, and its entry is the one assembled
from the cart. -/
theorem finalizeSale_new (hreq : req.AtScale)
    (hnew : saleWithKey db req.clientTransactionId = [])
    (h : finalizeSale db req = .ok (db', saleId)) :
    ∃ sale items payments entry,
      db'.sales.sales = db.sales.sales ++ [sale] ∧ saleId = db.sales.sales.length ∧
      db'.sales.items = db.sales.items ++ items ∧ (∀ i ∈ items, i.val.saleId = saleId) ∧
      db'.sales.payments = db.sales.payments ++ payments ∧
      db'.ledger.entries = db.ledger.entries ++ [entry] ∧
      SaleAgrees sale items payments ∧ WellFormed entry.val.lines := by
  rcases finalizeSale_ok h with ⟨sale, hkey, -⟩ | ⟨-, cart, changeDue, d, hc, hw, hj⟩
  · rw [hnew] at hkey
    exact absurd hkey (List.cons_ne_nil _ _).symm
  obtain ⟨hid, shiftId, sale, items, payments, hsale, hitems, hpayments, hd⟩ := writeSale_ok hw
  obtain ⟨-, -, -, entry, hentry, rfl⟩ := postJournal_eq_ok.mp hj
  refine ⟨sale, items, payments, entry, ?_, hid, ?_, ?_, ?_, ?_,
    saleAgrees_of_writeSale hreq hc hsale hitems hpayments,
    ⟨entry.property.balanced, entry.property.exactly_one_side⟩⟩
  · rw [hd]
  · rw [hd]
  · intro i hi
    obtain ⟨c, -, hc⟩ := exists_of_map_eq hitems hi
    exact hc ▸ rfl
  · rw [hd]
  · rw [hd]

end NewSale

/-! ### The amounts of sales and returns -/

/-- **Sales and returns balance.**  A new sale's header, items and payments agree
and its entry is well formed; the entry assembled for a checked and written sale
is well formed before the journal checks it; and so is the entry of a planned
return whose refund is not negative, with the refund on one line of its own. -/
theorem sales_and_returns_balance (db : Db) :
    (∀ (db' : Db) (req : FinalizeSale) (saleId : ℕ), req.AtScale →
      saleWithKey db req.clientTransactionId = [] → finalizeSale db req = .ok (db', saleId) →
      ∃ sale items payments entry,
        db'.sales.sales = db.sales.sales ++ [sale] ∧ saleId = db.sales.sales.length ∧
        db'.sales.items = db.sales.items ++ items ∧ (∀ i ∈ items, i.val.saleId = saleId) ∧
        db'.sales.payments = db.sales.payments ++ payments ∧
        db'.ledger.entries = db.ledger.entries ++ [entry] ∧
        SaleAgrees sale items payments ∧ WellFormed entry.val.lines) ∧
    (∀ (d : Db) (req : FinalizeSale) (cart : PricedCart) (changeDue : ℚ) (saleId : ℕ),
      req.AtScale → checkout db req = .ok (cart, changeDue) →
      writeSale db req cart changeDue = .ok (d, saleId) →
      WellFormed (saleJournalLines req.payments cart.discountTotal changeDue cart.subtotal
        cart.taxTotal cart.costed)) ∧
    (∀ (req : CreateSaleReturn) (sale : Row Sale) (lines : List ReturnLine),
      planReturn db req = .ok (sale, lines) → 0 ≤ totalRefund lines →
      WellFormed (saleReturnJournalLines req.refundMethod (lines.map ReturnLine.effect)) ∧
      (saleReturnJournalLines req.refundMethod (lines.map ReturnLine.effect)).filter
          (·.account = req.refundMethod.account)
        = creditIf req.refundMethod.account (totalRefund lines)) := by
  refine ⟨fun db' req saleId hreq hnew h => finalizeSale_new hreq hnew h,
    fun d req cart changeDue saleId hreq hc hw => wellFormed_of_writeSale hreq hc hw,
    fun req sale lines hplan hr => ⟨wellFormed_of_planReturn hplan hr, ?_⟩⟩
  rw [filter_saleReturnJournalLines, totalRefund_eq]

/-- A shop with one product: ten loaves at 1.50, bought at 1. -/
def bakery : Db where
  master := { stores := [⟨true, none⟩] }
  stock := {
    products := [⟨{
      storeId := 0, sku := "LOAF", categoryId := none, currentPrice := 3 / 2, currentCost := 1
      taxRateId := none, currentQtyOnHand := 10, allowNegativeStock := false, isActive := true },
      by decide +kernel⟩] }

/-- Two loaves, ten cents off, paid with a five. -/
def twoLoaves : FinalizeSale where
  storeId := 0
  cashierId := 0
  clientTransactionId := "till-1"
  callerStoreId := none
  lines := [{ productId := 0, quantity := 2, discountAmount := 1 / 10 }]
  payments := [⟨.cash, 5⟩]
  today := 0

/-- The cart as priced, with the change due. -/
def twoLoavesCart : PricedCart × ℚ := value (checkout bakery twoLoaves) (by decide +kernel)

/-- The sale as written, before its entry. -/
def twoLoavesWritten : Db × ℕ :=
  value (writeSale bakery twoLoaves twoLoavesCart.1 twoLoavesCart.2) (by decide +kernel)

/-- The shop after the sale of two loaves, and the key of the sale. -/
def bakeryAfterSale : Db × ℕ := value (finalizeSale bakery twoLoaves) (by decide +kernel)

/-- One of the two loaves comes back. -/
def oneLoafBack : CreateSaleReturn where
  saleId := 0
  storeId := 0
  returnDate := 0
  lines := [{ saleItemId := 0, quantity := 1 }]
  refundMethod := .cash
  clientTransactionId := "return-1"
  callerStoreId := none

/-- The return of one loaf as it is planned. -/
def oneLoafPlan : Row Sale × List ReturnLine :=
  value (planReturn bakeryAfterSale.1 oneLoafBack) (by decide +kernel)

theorem sales_and_returns_balance_bakery :
    (∃ sale items payments entry,
      bakeryAfterSale.1.sales.sales = [sale] ∧ bakeryAfterSale.2 = 0 ∧
      bakeryAfterSale.1.sales.items = items ∧ (∀ i ∈ items, i.val.saleId = bakeryAfterSale.2) ∧
      bakeryAfterSale.1.sales.payments = payments ∧
      bakeryAfterSale.1.ledger.entries = [entry] ∧
      SaleAgrees sale items payments ∧ WellFormed entry.val.lines) ∧
    WellFormed (saleJournalLines [⟨.cash, 5⟩] twoLoavesCart.1.discountTotal twoLoavesCart.2
      twoLoavesCart.1.subtotal twoLoavesCart.1.taxTotal twoLoavesCart.1.costed) ∧
    WellFormed (saleReturnJournalLines .cash (oneLoafPlan.2.map ReturnLine.effect)) := by
  have hscale : twoLoaves.AtScale := ⟨by decide +kernel, by decide +kernel, by decide +kernel⟩
  refine ⟨?_, ?_, ?_⟩
  · exact (sales_and_returns_balance bakery).1 bakeryAfterSale.1 twoLoaves bakeryAfterSale.2
      hscale (by decide +kernel) (eq_ok_value _ _)
  · exact (sales_and_returns_balance bakery).2.1 twoLoavesWritten.1 twoLoaves twoLoavesCart.1
      twoLoavesCart.2 twoLoavesWritten.2 hscale (eq_ok_value _ _) (eq_ok_value _ _)
  · exact ((sales_and_returns_balance bakeryAfterSale.1).2.2 oneLoafBack oneLoafPlan.1
      oneLoafPlan.2 (eq_ok_value _ _) (by decide +kernel)).1

end GroceryErp
