import GroceryErp.Sales.SalesSummary

/-!
# The sales summary against the profit and loss

Both reports are about the same sales and returns, one by their rows and one by their entries.
Every sale and every return adds to the two sides the same amounts, but for what the columns
round; so the two sides stay together over every run, for all stores and days.

The discounts of sales are in the net sales of the summary and not in those of the profit and
loss.  What a return gives back of a discount or a tax is in the net sales of the summary too.

## Main definitions

* `Figure` — a figure that both reports have, with what rounding may add to it for each row.
* `Figure.Agrees` — rows and entries say the same of it, up to rounding.
* `Adds` — the rows and the lines that one request adds.

## Main results

* `Figure.Agrees.adds` — one request.
* `FiguresAgree.exec` — every request of a till keeps both figures together.
* `FiguresAgree.reconciles` — the two reports.

## References

`backend/app/modules/reports/service.py`, `sales_summary`;
`backend/app/modules/accounting/service.py`, `post_sale_journal`, `post_sale_return_journal`,
`profit_and_loss`; `docs/M11_DESIGN.md`.
-/

namespace GroceryErp

open Decimal Ledger Outcome Rows Runs

/-! ### Figures -/

/-- A figure that rows and entries both have. -/
structure Figure where
  ofItem : SaleItem → ℚ
  ofReturnItem : SaleReturnItem → ℚ
  /-- What the lines say, from what they add to each account. -/
  ofNet : (Account → ℚ) → ℚ
  /-- What rounding may add for an item, and for a return item. -/
  itemMargin : SaleItem → ℚ
  returnMargin : SaleReturnItem → ℚ
  ofItem_returned : ∀ i q, ofItem { i with quantityReturned := q } = ofItem i
  itemMargin_returned : ∀ i q, itemMargin { i with quantityReturned := q } = itemMargin i
  ofNet_zero : ofNet (fun _ => 0) = 0
  ofNet_add : ∀ m n, ofNet (fun a => m a + n a) = ofNet m + ofNet n

namespace Figure

variable (F : Figure) (db : Db) (f : ReportScope)

/-- What the rows in scope say. -/
def ofRows : ℚ := sumGross db f F.ofItem - sumReturned db f F.ofReturnItem

/-- What the entries in scope say of the figure. -/
def ofBooks : ℚ := F.ofNet fun a => net a (keptLines db.books f.entries)

/-- What rounding may add for the rows in scope. -/
def margin : ℚ := sumGross db f F.itemMargin + sumReturned db f F.returnMargin

/-- The rows and the entries say the same, up to rounding. -/
def Agrees : Prop := |F.ofRows db f - F.ofBooks db f| ≤ F.margin db f

end Figure

/-- Revenue less discounts.  The price of an item is rounded to cents, and so is the price of
what comes back; its quantity is rounded to thousandths. -/
def netSalesFigure : Figure where
  ofItem i := i.gross - i.discountAmount
  ofReturnItem i := i.refunded - i.taxRefunded
  ofNet n := -n .salesRevenue - n .salesDiscounts
  itemMargin _ := quantum 2
  returnMargin i := (quantum 2 + i.unitPriceRefunded * quantum 3) / 2
  ofItem_returned _ _ := rfl
  itemMargin_returned _ _ := rfl
  ofNet_zero := by simp
  ofNet_add m n := by ring

/-- The cost of goods sold, rounded line by line. -/
def cogsFigure : Figure where
  ofItem := SaleItem.cost
  ofReturnItem := SaleReturnItem.costReversed
  ofNet n := n .cogs
  itemMargin i := (quantum 6 + i.unitCostAtSale * quantum 3) / 2
  returnMargin i := if i.restock then (quantum 6 + i.unitCostRefunded * quantum 3) / 2 else 0
  ofItem_returned _ _ := rfl
  itemMargin_returned _ _ := rfl
  ofNet_zero := rfl
  ofNet_add _ _ := rfl

/-! ### What a request adds -/

/-- The columns of an item that its returns leave alone. -/
def Unreturned (g : SaleItem → ℚ) : Prop :=
  ∀ i q, g { i with quantityReturned := q } = g i

/-- Items and return items of a store and a day are added, and lines are posted for them. -/
structure Adds (db db' : Db) (storeId : ℕ) (day : Date) (items : List SaleItem)
    (rows : List SaleReturnItem) (lines : List JournalLine) : Prop where
  gross : ∀ f g, Unreturned g → sumGross db' f g
    = sumGross db f g + if f.Has storeId day then (items.map g).sum else 0
  returned : ∀ f g, sumReturned db' f g
    = sumReturned db f g + if f.Has storeId day then (rows.map g).sum else 0
  kept : ∀ (f : ReportScope) (a : Account), net a (keptLines db'.books f.entries)
    = net a (keptLines db.books f.entries) + if f.Has storeId day then net a lines else 0

/-- **What is added stays within its margin, and the figure with it.** -/
theorem Figure.Agrees.adds {F : Figure} {db db' : Db} {f : ReportScope} {storeId : ℕ} {day : Date}
    {items : List SaleItem} {rows : List SaleReturnItem} {lines : List JournalLine}
    (h : F.Agrees db f) (hadds : Adds db db' storeId day items rows lines)
    (hclose : |(items.map F.ofItem).sum - (rows.map F.ofReturnItem).sum - F.ofNet fun a => net a lines|
      ≤ (items.map F.itemMargin).sum + (rows.map F.returnMargin).sum) : F.Agrees db' f := by
  have hbooks : F.ofBooks db' f
      = F.ofBooks db f + if f.Has storeId day then F.ofNet fun a => net a lines else 0 := by
    unfold Figure.ofBooks
    simp only [hadds.kept f, F.ofNet_add]
    congr 1
    split
    · rfl
    · exact F.ofNet_zero
  unfold Figure.Agrees at h ⊢
  rw [hbooks]
  unfold Figure.ofRows Figure.margin at h ⊢
  rw [hadds.gross f _ F.ofItem_returned, hadds.gross f _ F.itemMargin_returned, hadds.returned,
    hadds.returned]
  -- out of scope the request adds to neither side
  by_cases hin : f.Has storeId day
  · simp only [if_pos hin]
    rw [abs_le] at h hclose ⊢
    constructor <;> linarith [h.1, h.2, hclose.1, hclose.2]
  · simpa only [if_neg hin, add_zero] using h

/-! ### Rows and their days -/

/-- The stores and days of the sales. -/
def saleDays (db : Db) : List (ℕ × Date) :=
  db.sales.sales.map fun s => (s.val.storeId, s.val.completedAt)

/-- The stores and days of the returns. -/
def returnDays (db : Db) : List (ℕ × Date) :=
  db.sales.returns.map fun r => (r.val.storeId, returnBusinessDate r.val)

/-- The items as they were sold. -/
def soldItems (db : Db) : List SaleItem :=
  db.sales.items.map fun i => { i.val with quantityReturned := 0 }

/-- No sale is open or voided, and every return is of a sale of its store. -/
structure SalesCounted (db : Db) : Prop where
  statuses : ∀ s ∈ db.sales.sales, s.val.status ∈ grossSaleStatuses
  headers : ∀ r ∈ db.sales.returns,
    HasAt db.sales.sales (·.val.storeId) r.val.saleId r.val.storeId

section Days

variable {db db' d : Db} {f : ReportScope}

/-- An item is selected with the day of its sale. -/
theorem SalesCounted.grossItem_iff (h : SalesCounted db) (i : Row SaleItem) :
    GrossItem db f i ↔ ∃ x ∈ (saleDays db)[i.val.saleId]?, f.Has x.1 x.2 := by
  unfold GrossItem saleDays
  rw [List.getElem?_map]
  cases hsale : db.sales.sales[i.val.saleId]? with
  | none => simp
  | some sale => simp [h.statuses sale (mem_of_row hsale)]

/-- A return item is selected with the day of its return. -/
theorem SalesCounted.returnedItem_iff (h : SalesCounted db) (i : Row SaleReturnItem) :
    ReturnedItem db f i ↔ ∃ x ∈ (returnDays db)[i.val.saleReturnId]?, f.Has x.1 x.2 := by
  unfold ReturnedItem returnDays
  rw [List.getElem?_map]
  cases hreturn : db.sales.returns[i.val.saleReturnId]? with
  | none => simp
  | some r =>
    obtain ⟨sale, hsale, -⟩ := h.headers r (mem_of_row hreturn)
    have hstatus : sale.val.status ≠ .voided := by
      intro hvoided
      have hgross := h.statuses sale (mem_of_row hsale)
      rw [hvoided] at hgross
      exact absurd hgross (by decide)
    simp [hsale, hstatus]

theorem SalesCounted.sumGross_eq (h : SalesCounted db) {g : SaleItem → ℚ} (hg : Unreturned g) :
    sumGross db f g
      = sumWhere (fun i => ∃ x ∈ (saleDays db)[i.saleId]?, f.Has x.1 x.2) g (soldItems db) := by
  unfold sumGross soldItems
  rw [sumWhere_map]
  exact sumWhere_congr (fun i _ => h.grossItem_iff i) fun i _ _ => (hg i.val 0).symm

theorem SalesCounted.sumReturned_eq (h : SalesCounted db) (g : SaleReturnItem → ℚ) :
    sumReturned db f g = sumWhere (fun i => ∃ x ∈ (returnDays db)[i.saleReturnId]?, f.Has x.1 x.2) g
      (db.sales.returnItems.map Subtype.val) := by
  unfold sumReturned
  rw [sumWhere_map]
  exact sumWhere_congr (fun i _ => h.returnedItem_iff i) fun _ _ _ => rfl

/-- What the entries in scope add to an account. -/
theorem net_keptLines_entries (db : Db) (f : ReportScope) (a : Account) :
    net a (keptLines db.books f.entries)
      = sumWhere (fun e => f.Has e.val.storeId e.val.postingDate) (entryNet a)
          db.ledger.entries := by
  unfold net keptLines Db.books
  rw [sumWhere_flatMap, List.filter_map, List.map_map, sumWhere]
  congr 1
  simp only [Function.comp_def, EntryFilter.Keeps, bookRow, ReportScope.has_iff]
  rfl

end Days

/-! ### A sale -/

section Sale

variable {db db' : Db} {req : FinalizeSale} {saleId : ℕ}

/-- What a new sale writes: its row, an item for each line of the cart, and no return. -/
structure SaleWritten (db db' : Db) (req : FinalizeSale) (cart : PricedCart) : Prop where
  sales : ∃ sale changeDue shiftId, db'.sales.sales = db.sales.sales ++ [sale] ∧
    sale.val = saleRow req cart changeDue shiftId
  items : ∃ items, db'.sales.items = db.sales.items ++ items ∧
    items.map Subtype.val = cart.computed.map (·.item db.sales.sales.length)
  returns : db'.sales.returns = db.sales.returns
  returnItems : db'.sales.returnItems = db.sales.returnItems

theorem SaleWritten.row_of_computed {cart : PricedCart} (h : SaleWritten db db' req cart) :
    ∀ c ∈ cart.computed, ∃ i : Row SaleItem, i.val = c.item db.sales.sales.length := by
  intro c hc
  obtain ⟨items, -, hitems⟩ := h.items
  obtain ⟨i, -, hi⟩ := exists_of_map_eq hitems.symm hc
  exact ⟨i, hi⟩

theorem SaleWritten.counted {cart : PricedCart} (h : SaleWritten db db' req cart)
    (hcounted : SalesCounted db) : SalesCounted db' := by
  obtain ⟨sale, _, _, hsales, hsale⟩ := h.sales
  constructor
  · rw [hsales]
    intro s hs
    rcases List.mem_append.mp hs with hs | hs
    · exact hcounted.statuses s hs
    · rw [List.mem_singleton.mp hs, hsale]
      exact List.mem_cons_self
  · rw [h.returns, hsales]
    exact fun r hr => (hcounted.headers r hr).append _

/-- What a new sale adds to the two sides, items and entries, unless it is a replay and adds
nothing. -/
theorem finalizeSale_adds (hdb : SalesRecorded db) (hcounted : SalesCounted db)
    (h : finalizeSale db req = .ok (db', saleId)) :
    db' = db ∨ ∃ cart changeDue, checkout db req = .ok (cart, changeDue) ∧
      SaleWritten db db' req cart ∧
      Adds db db' req.storeId req.today (cart.computed.map (·.item db.sales.sales.length)) []
        ((saleJournalLines req.payments cart.discountTotal changeDue cart.subtotal cart.taxTotal
          cart.costed).map storedLine) := by
  rcases finalizeSale_ok h with ⟨-, -, rfl⟩ | ⟨-, cart, changeDue, d, hc, hw, hj⟩
  · exact .inl rfl
  obtain ⟨rfl, shiftId, sale, items, payments, hsale, hitems, -, hd⟩ := writeSale_ok hw
  have hsales : db'.sales.sales = db.sales.sales ++ [sale] := by rw [postJournal_frame hj, hd]
  have hall : db'.sales.items = db.sales.items ++ items := by rw [postJournal_frame hj, hd]
  have hreturns : db'.sales.returns = db.sales.returns := by rw [postJournal_frame hj, hd]
  have hrows : db'.sales.returnItems = db.sales.returnItems := by rw [postJournal_frame hj, hd]
  have hentries : d.ledger.entries = db.ledger.entries := by rw [hd]
  have hwritten : SaleWritten db db' req cart :=
    ⟨⟨sale, changeDue, shiftId, hsales, hsale⟩, ⟨items, hall, hitems⟩, hreturns, hrows⟩
  have hcounted' := hwritten.counted hcounted
  have hdays : saleDays db' = saleDays db ++ [(req.storeId, req.today)] := by
    unfold saleDays
    rw [hsales, List.map_append, List.map_singleton, hsale]
    rfl
  have hsold : soldItems db' = soldItems db ++ cart.computed.map (·.item db.sales.sales.length) := by
    unfold soldItems
    rw [hall, List.map_append, ← hitems]
    congr 1
    refine List.map_congr_left fun i hi => ?_
    obtain ⟨c, -, hc⟩ := exists_of_map_eq hitems hi
    rw [← hc]
    rfl
  have hlength : (saleDays db).length = db.sales.sales.length := List.length_map _
  refine .inr ⟨cart, changeDue, hc, hwritten, ?_, ?_, ?_⟩
  -- the sale is the last of its table, and its items are found through it alone
  · intro f g hg
    rw [hcounted'.sumGross_eq hg, hcounted.sumGross_eq hg, hdays, hsold]
    refine sumWhere_append_document g _ (fun i hi => ?_) fun i hi => ?_
    · obtain ⟨row, hrow, rfl⟩ := List.mem_map.mp hi
      rw [hlength]
      exact (hdb.items row hrow).1
    · obtain ⟨c, -, rfl⟩ := List.mem_map.mp hi
      exact hlength.symm
  · intro f g
    rw [hcounted'.sumReturned_eq, hcounted.sumReturned_eq, returnDays, returnDays, hreturns, hrows]
    simp
  · intro f a
    rw [net_keptLines_entries, net_keptLines_entries,
      sumWhere_postJournal hj (fun e => f.Has e.storeId e.postingDate), hentries]

/-- What the lines of a cart that is checked out have of their products. -/
structure ComputedLine.Costed (c : ComputedLine) : Prop where
  subtotal_nonneg : 0 ≤ c.lineSubtotal
  subtotal : OnGrid 2 c.lineSubtotal
  tax : OnGrid 2 c.taxAmount
  total : c.lineTotal = c.lineSubtotal - c.discountAmount + c.taxAmount
  quantity_pos : 0 < c.quantity
  unit_cost_nonneg : 0 ≤ c.unitCost
  unit_cost : numeric 6 c.unitCost = c.unitCost

theorem costed_of_checkout {cart : PricedCart} {changeDue : ℚ}
    (hstored : ∀ p ∈ db.stock.products, p.val.stored = p.val)
    (hc : checkout db req = .ok (cart, changeDue)) : ∀ c ∈ cart.computed, c.Costed := by
  intro c hmem
  obtain ⟨line, -, hq, hok⟩ := exists_line_of_checkout hc c hmem
  obtain ⟨p, rateId, rate, hp, -, -, rfl⟩ := priceLine_eq_ok.mp hok
  have hcost : numeric 6 p.val.currentCost = p.val.currentCost :=
    congrArg Product.currentCost (hstored p (mem_of_row hp))
  have hnonneg : 0 ≤ numeric 6 p.val.currentCost := p.property.cost_nonneg
  exact ⟨quantize_nonneg (mul_nonneg hq.le p.property.price_nonneg), onGrid_quantize 2 _,
    onGrid_quantize 2 _, rfl, hq, hcost ▸ hnonneg, hcost⟩

/-- The discounts posted are those of the lines, off by half a cent for each line. -/
theorem abs_postedAmount_discountTotal_le {cart : PricedCart}
    (hitem : ∀ c ∈ cart.computed, ∃ i : Row SaleItem, i.val = c.item saleId) :
    |postedAmount cart.discountTotal - cart.discountTotal|
      ≤ (cart.computed.map fun _ => quantum 2 / 2).sum := by
  have hround := @abs_sum_map_sub_le _ cart.computed _ (fun c => c.discountAmount)
    (fun _ => quantum 2 / 2) fun c _ => abs_quantize_sub_le 2 c.discountAmount
  rw [postedAmount]
  split
  · next hpos =>
    -- there is a line, and its half cent is more than what the entry rounds
    have hlines : cart.computed ≠ [] := by
      rintro hnil
      rw [PricedCart.discountTotal, hnil] at hpos
      exact absurd hpos (lt_irrefl 0)
    obtain ⟨c, cs, hcs⟩ := List.exists_cons_of_ne_nil hlines
    have hrest : 0 ≤ (cs.map fun _ => quantum 2 / 2).sum :=
      List.sum_nonneg fun x hx => by
        obtain ⟨-, -, rfl⟩ := List.mem_map.mp hx
        exact (half_pos (quantum_pos 2)).le
    have hfine : quantum 6 / 2 ≤ quantum 2 / 2 := by norm_num [quantum]
    rw [hcs, List.map_cons, List.sum_cons]
    exact (abs_quantize_sub_le 6 _).trans (hfine.trans (le_add_of_nonneg_right hrest))
  · next hneg =>
    -- no stored discount is negative, so the sum is so by what rounding adds at most
    have hstored : 0 ≤ (cart.computed.map fun c => quantize 2 c.discountAmount).sum := by
      refine PricedCart.map_sum_nonneg fun c hc => ?_
      obtain ⟨i, hi⟩ := hitem c hc
      have hnonneg := i.property.discount_nonneg
      rw [hi] at hnonneg
      exact hnonneg
    rw [zero_sub, abs_neg, abs_of_nonpos (not_lt.mp hneg)]
    have htotal := (abs_le.mp hround).2
    rw [PricedCart.discountTotal]
    linarith

/-- **The items of a sale say of its revenue and discounts what its entry says.** -/
theorem sale_netSales_close {cart : PricedCart} {changeDue : ℚ}
    (hcosted : ∀ c ∈ cart.computed, c.Costed)
    (hitem : ∀ c ∈ cart.computed, ∃ i : Row SaleItem, i.val = c.item saleId) :
    |((cart.computed.map (·.item saleId)).map netSalesFigure.ofItem).sum
        - netSalesFigure.ofNet fun a => net a ((saleJournalLines req.payments cart.discountTotal
          changeDue cart.subtotal cart.taxTotal cart.costed).map storedLine)|
      ≤ ((cart.computed.map (·.item saleId)).map netSalesFigure.itemMargin).sum := by
  -- prices and quantities have the scales of their columns, so the subtotal posts as it is
  have hsubtotal : postedAmount cart.subtotal = cart.subtotal :=
    postedAmount_of_onGrid (PricedCart.map_sum_nonneg fun c hc => (hcosted c hc).subtotal_nonneg)
      ((PricedCart.onGrid_map_sum fun c hc => (hcosted c hc).subtotal).mono (by norm_num))
  have hposted := abs_postedAmount_discountTotal_le hitem
  -- a row is rounded by at most half a cent, and the header by half a cent for each row at most
  have hrows : |(cart.computed.map fun c => numeric 2 c.lineTotal - numeric 2 c.taxAmount).sum
      - (cart.subtotal - cart.discountTotal)| ≤ (cart.computed.map fun _ => quantum 2 / 2).sum := by
    rw [PricedCart.subtotal, PricedCart.discountTotal, ← sum_map_sub]
    refine abs_sum_map_sub_le fun c hc => ?_
    have hround := abs_quantize_sub_le 2 c.lineTotal
    have hline : numeric 2 c.lineTotal - numeric 2 c.taxAmount
        - (c.lineSubtotal - c.discountAmount) = quantize 2 c.lineTotal - c.lineTotal := by
      rw [numeric_eq_self (hcosted c hc).tax, numeric, (hcosted c hc).total]
      ring
    rwa [hline]
  have hitems : (cart.computed.map (·.item saleId)).map netSalesFigure.ofItem
      = cart.computed.map fun c => numeric 2 c.lineTotal - numeric 2 c.taxAmount := by
    rw [List.map_map]
    refine List.map_congr_left fun c _ => ?_
    simp only [Function.comp_apply, netSalesFigure, SaleItem.gross, ComputedLine.item]
    ring
  have hmargin : ((cart.computed.map (·.item saleId)).map netSalesFigure.itemMargin).sum
      = (cart.computed.map fun _ => quantum 2 / 2).sum
        + (cart.computed.map fun _ => quantum 2 / 2).sum := by
    rw [List.map_map, ← List.sum_map_add]
    simp [netSalesFigure, Function.comp_def]
  have hlines : (netSalesFigure.ofNet fun a => net a ((saleJournalLines req.payments
      cart.discountTotal changeDue cart.subtotal cart.taxTotal cart.costed).map storedLine))
      = cart.subtotal - postedAmount cart.discountTotal := by
    -- no payment method has the account of the revenue or of the discounts
    have hrevenue := PaymentMethod.account_ne (a := .salesRevenue) (by decide)
    have hdiscounts := PaymentMethod.account_ne (a := .salesDiscounts) (by decide)
    simp [netSalesFigure, net_saleJournalLines hrevenue, net_saleJournalLines hdiscounts, hsubtotal]
  rw [hitems, hmargin, hlines]
  rw [abs_le] at hrows hposted ⊢
  constructor <;> linarith [hrows.1, hrows.2, hposted.1, hposted.2]

/-- **The items of a sale say of their cost what its entry says.** -/
theorem sale_cogs_close {cart : PricedCart} {changeDue : ℚ}
    (hcosted : ∀ c ∈ cart.computed, c.Costed) :
    |((cart.computed.map (·.item saleId)).map cogsFigure.ofItem).sum
        - cogsFigure.ofNet fun a => net a ((saleJournalLines req.payments cart.discountTotal
          changeDue cart.subtotal cart.taxTotal cart.costed).map storedLine)|
      ≤ ((cart.computed.map (·.item saleId)).map cogsFigure.itemMargin).sum := by
  have hvalue : 0 ≤ valueOfLines cart.costed := by
    refine valueOfLines_nonneg fun l hl => ?_
    obtain ⟨c, hc, rfl⟩ := List.mem_map.mp hl
    exact ⟨(hcosted c hc).quantity_pos.le, (hcosted c hc).unit_cost_nonneg⟩
  have hposted : postedAmount (valueOfLines cart.costed)
      = (cart.computed.map fun c => ledgerQuantize (c.quantity * c.unitCost)).sum := by
    rw [postedAmount_of_onGrid hvalue (onGrid_valueOfLines _), valueOfLines, PricedCart.costed,
      List.map_map]
    rfl
  have hlines : (cogsFigure.ofNet fun a => net a ((saleJournalLines req.payments
      cart.discountTotal changeDue cart.subtotal cart.taxTotal cart.costed).map storedLine))
      = (cart.computed.map fun c => ledgerQuantize (c.quantity * c.unitCost)).sum := by
    have hcogs := PaymentMethod.account_ne (a := .cogs) (by decide)
    simp [cogsFigure, net_saleJournalLines hcogs, hposted]
  rw [hlines, List.map_map, List.map_map]
  refine abs_sum_map_sub_le fun c hc => ?_
  simp only [Function.comp_apply, cogsFigure, SaleItem.cost, ComputedLine.item,
    (hcosted c hc).unit_cost]
  rw [mul_comm (numeric 3 c.quantity), mul_comm c.quantity]
  exact abs_mul_quantize_sub_le 3 6 (hcosted c hc).unit_cost_nonneg _

end Sale

/-! ### A return -/

section Return

variable {db db' : Db} {req : CreateSaleReturn} {saleReturnId : ℕ}

/-- The status of a sale after a return is one that counts. -/
theorem advanceSaleStatus_mem {saleId : ℕ} {lines : List ReturnLine} {status : SaleStatus}
    (h : status ∈ grossSaleStatuses) : advanceSaleStatus db saleId lines status
      ∈ grossSaleStatuses := by
  unfold advanceSaleStatus
  dsimp only
  split
  · decide
  · split
    · decide
    · exact h

/-- What a new return adds to the two sides, items and entries, unless it is a replay and adds
nothing. -/
theorem createSaleReturn_adds (hdb : SalesRecorded db) (hcounted : SalesCounted db)
    (h : createSaleReturn db req = .ok (db', saleReturnId)) :
    db' = db ∨ ∃ sale lines, planReturn db req = .ok (sale, lines) ∧ SalesCounted db' ∧
      ReturnWritten db db' req lines ∧
      Adds db db' req.storeId req.returnDate [] (lines.map (·.row db.sales.returns.length))
        ((saleReturnJournalLines req.refundMethod (lines.map ReturnLine.effect)).map
          storedLine) := by
  rcases createSaleReturn_ok h with ⟨-, rfl⟩ | ⟨hkey, sale, lines, _, _, d, hplan, -, -, hw, hj⟩
  · exact .inl rfl
  have hwritten := returnWritten_of_ok hkey hplan hw hj
  obtain ⟨hsale, hstore, hopen, hids, hplanned⟩ := planReturn_ok hplan
  obtain ⟨rfl, _, saleReturn, saleAfter, e, hreturn, hafter, hlines, rfl⟩ := writeReturn_ok hw
  obtain ⟨t, ht⟩ := addReturnLines_frame hlines
  have hsales : db'.sales.sales = db.sales.sales.set req.saleId saleAfter := by
    rw [postJournalUnlessEmpty_frame hj, ht]
  have hreturns : db'.sales.returns = db.sales.returns ++ [saleReturn] := by
    rw [postJournalUnlessEmpty_frame hj, ht]
  have hcounted' : SalesCounted db' := by
    constructor
    · rw [hsales]
      refine forall_mem_set hcounted.statuses ?_
      rw [hafter]
      exact advanceSaleStatus_mem (hcounted.statuses sale (mem_of_row hsale))
    · rw [hsales, hreturns]
      intro r hr
      rcases List.mem_append.mp hr with hr | hr
      · exact (hcounted.headers r hr).set hsale (by rw [hafter])
      · rw [List.mem_singleton.mp hr, hreturn]
        have hat : HasAt db.sales.sales (·.val.storeId) req.saleId req.storeId :=
          ⟨sale, hsale, hstore⟩
        exact hat.set hsale (by rw [hafter])
  have hsaleDays : saleDays db' = saleDays db := by
    unfold saleDays
    rw [hsales]
    exact map_set_of_eq hsale (by rw [hafter])
  have hreturnDays : returnDays db' = returnDays db ++ [(req.storeId, req.returnDate)] := by
    unfold returnDays
    rw [hreturns, List.map_append, List.map_singleton, hreturn]
    rfl
  have hsold : soldItems db' = soldItems db := by
    -- the items that come back differ in their quantity returned only
    unfold soldItems
    refine hwritten.items_kept.map_eq fun i old new hnew => ?_
    rw [hnew]
  have hlength : (returnDays db).length = db.sales.returns.length := List.length_map _
  refine .inr ⟨sale, lines, hplan, hcounted', hwritten, ?_, ?_, ?_⟩
  · intro f g hg
    rw [hcounted'.sumGross_eq hg, hcounted.sumGross_eq hg, hsaleDays, hsold]
    simp
  · intro f g
    obtain ⟨rows, hrows, hvals⟩ := hwritten.rows
    rw [hcounted'.sumReturned_eq, hcounted.sumReturned_eq, hreturnDays, hrows, List.map_append,
      hvals]
    refine sumWhere_append_document g _ (fun i hi => ?_) fun i hi => ?_
    · obtain ⟨row, hrow, rfl⟩ := List.mem_map.mp hi
      rw [hlength]
      exact (hdb.rows row hrow).1
    · obtain ⟨l, -, rfl⟩ := List.mem_map.mp hi
      exact hlength.symm
  · intro f a
    rw [net_keptLines_entries, net_keptLines_entries,
      sumWhere_postJournalUnlessEmpty hj fun e => f.Has e.storeId e.postingDate, ht]

/-- **The rows of a return say of its revenue and discounts what its entry says.** -/
theorem return_netSales_close {lines : List ReturnLine} (hplanned : ∀ l ∈ lines, l.Planned db req) :
    |-((lines.map (·.row saleReturnId)).map netSalesFigure.ofReturnItem).sum
        - netSalesFigure.ofNet fun a => net a ((saleReturnJournalLines req.refundMethod
          (lines.map ReturnLine.effect)).map storedLine)|
      ≤ ((lines.map (·.row saleReturnId)).map netSalesFigure.returnMargin).sum := by
  have hq : ∀ l ∈ lines, 0 ≤ l.quantity := fun l hl => (hplanned l hl).quantity_pos.le
  have hgrid : ∀ l ∈ lines, OnGrid 2 l.refund.discountRefunded ∧ OnGrid 2 l.refund.taxRefunded :=
    fun l _ => ⟨onGrid_proportionalShare .., onGrid_proportionalShare ..⟩
  -- sums of whole cents post as they are
  have hcents : ∀ g : ReturnLine → ℚ, (∀ l ∈ lines, OnGrid 2 (g l)) → (∀ l ∈ lines, 0 ≤ g l) →
      postedAmount (lines.map g).sum = (lines.map g).sum := by
    intro g hg hnonneg
    have hsum : OnGrid 2 (lines.map g).sum := onGrid_sum _ fun x hx => by
      obtain ⟨l, hl, rfl⟩ := List.mem_map.mp hx
      exact hg l hl
    exact postedAmount_of_onGrid (sum_map_nonneg hnonneg) (hsum.mono (by norm_num))
  have hprice := hcents (fun l => l.refund.refundPrice) (fun l _ => onGrid_quantize 2 _)
    fun l hl => l.refundPrice_nonneg (hq l hl)
  have hdiscount := hcents (fun l => l.refund.discountRefunded) (fun l hl => (hgrid l hl).1)
    fun l hl => l.discountRefunded_nonneg (hq l hl)
  have hlines : (netSalesFigure.ofNet fun a => net a ((saleReturnJournalLines req.refundMethod
      (lines.map ReturnLine.effect)).map storedLine))
      = -(lines.map fun l => l.refund.refundPrice - l.refund.discountRefunded).sum := by
    have hrevenue := PaymentMethod.account_ne (a := .salesRevenue) (by decide)
    have hdiscounts := PaymentMethod.account_ne (a := .salesDiscounts) (by decide)
    rw [sum_map_sub, ← hprice, ← hdiscount]
    simp only [netSalesFigure, net_saleReturnJournalLines hrevenue,
      net_saleReturnJournalLines hdiscounts, sum_effects]
    simp [ReturnLine.effect]
    ring
  rw [hlines, List.map_map, List.map_map, neg_sub_neg, abs_sub_comm]
  refine abs_sum_map_sub_le fun l hl => ?_
  -- a row keeps the price and the rounded quantity, the entry their rounded product
  have hrow : netSalesFigure.ofReturnItem (l.row saleReturnId)
      - (l.refund.refundPrice - l.refund.discountRefunded)
      = l.item.val.unitPriceAtSale * quantize 3 l.quantity
        - quantize 2 (l.item.val.unitPriceAtSale * l.quantity) := by
    simp only [netSalesFigure, SaleReturnItem.refunded, ReturnLine.row,
      numeric_eq_self (hgrid l hl).1]
    simp only [ReturnLine.refund, computeLineRefund, roundMoney, numeric]
    ring
  rw [Function.comp_apply, hrow]
  exact abs_mul_quantize_sub_le 3 2 l.item.property.price_nonneg _

/-- **The rows of a return say of its cost what its entry says.** -/
theorem return_cogs_close {lines : List ReturnLine} (hplanned : ∀ l ∈ lines, l.Planned db req) :
    |-((lines.map (·.row saleReturnId)).map cogsFigure.ofReturnItem).sum
        - cogsFigure.ofNet fun a => net a ((saleReturnJournalLines req.refundMethod
          (lines.map ReturnLine.effect)).map storedLine)|
      ≤ ((lines.map (·.row saleReturnId)).map cogsFigure.returnMargin).sum := by
  have hposted := postedAmount_of_onGrid
    (restockedValue_nonneg fun l hl => (hplanned l hl).quantity_pos) (onGrid_valueOfLines _)
  rw [restockedValue_eq] at hposted
  have hlines : (cogsFigure.ofNet fun a => net a ((saleReturnJournalLines req.refundMethod
      (lines.map ReturnLine.effect)).map storedLine))
      = -(lines.map fun l => if l.restock then
          ledgerQuantize (l.quantity * l.item.val.unitCostAtSale) else 0).sum := by
    have hcogs := PaymentMethod.account_ne (a := .cogs) (by decide)
    simp [cogsFigure, net_saleReturnJournalLines hcogs, hposted, restockedValue_eq]
  rw [hlines, List.map_map, List.map_map, neg_sub_neg, abs_sub_comm]
  refine abs_sum_map_sub_le fun l _ => ?_
  simp only [Function.comp_apply, cogsFigure, SaleReturnItem.costReversed, ReturnLine.row]
  split
  · rw [mul_comm (numeric 3 l.quantity), mul_comm l.quantity]
    exact abs_mul_quantize_sub_le 3 6 l.item.property.cost_nonneg _
  · simp

end Return

/-! ### Every run -/

/-- The tables are as requests leave them, and both figures agree for all stores and days. -/
structure FiguresAgree (db : Db) : Prop where
  recorded : SalesRecorded db
  counted : SalesCounted db
  products : ∀ p ∈ db.stock.products, p.val.stored = p.val
  netSales : ∀ f, netSalesFigure.Agrees db f
  cogs : ∀ f, cogsFigure.Agrees db f

/-- Nothing has been sold, and nothing is posted to the accounts of sales. -/
structure Db.NothingSold (db : Db) : Prop where
  sales : db.sales.sales = []
  items : db.sales.items = []
  returns : db.sales.returns = []
  return_items : db.sales.returnItems = []
  products : ∀ p ∈ db.stock.products, p.val.stored = p.val
  entries : ∀ e ∈ db.ledger.entries, ∀ l ∈ e.val.lines,
    l.account ∉ [Account.salesRevenue, .salesDiscounts, .cogs]

section Runs

variable {db db' : Db}

theorem Db.NothingSold.net_eq_zero (h : db.NothingSold) (f : ReportScope) {a : Account}
    (ha : a ∈ [Account.salesRevenue, .salesDiscounts, .cogs]) :
    net a (keptLines db.books f.entries) = 0 := by
  rw [net_keptLines_entries]
  refine sumWhere_eq_zero _ _ fun e he _ => sumWhere_eq_zero _ _ fun l hl hla => ?_
  exact absurd (hla ▸ ha) (h.entries e he l hl)

theorem Db.NothingSold.figuresAgree (h : db.NothingSold) : FiguresAgree db where
  recorded := by
    refine ⟨?_, ?_, ?_, fun saleReturnId => ?_⟩
    · simp [returnKeys, h.returns]
    · simp [h.items]
    · simp [h.return_items]
    · simp [h.return_items]
  counted := ⟨by simp [h.sales], by simp [h.returns]⟩
  products := h.products
  netSales := by
    intro f
    simp [Figure.Agrees, Figure.ofRows, Figure.ofBooks, Figure.margin, sumGross, sumReturned,
      h.items, h.return_items, netSalesFigure, h.net_eq_zero]
  cogs := by
    intro f
    simp [Figure.Agrees, Figure.ofRows, Figure.ofBooks, Figure.margin, sumGross, sumReturned,
      h.items, h.return_items, cogsFigure, h.net_eq_zero]

/-- A commit stores the products, which no figure reads. -/
theorem FiguresAgree.commit (hrecorded : SalesRecorded db) (hcounted : SalesCounted db)
    (hnet : ∀ f, netSalesFigure.Agrees db f) (hcogs : ∀ f, cogsFigure.Agrees db f) :
    FiguresAgree db.commit where
  recorded := salesRecorded_of_eq hrecorded rfl
  counted := ⟨hcounted.statuses, hcounted.headers⟩
  products p hp := by
    obtain ⟨q, -, rfl⟩ := List.mem_map.mp hp
    exact q.val.stored_stored
  netSales := hnet
  cogs := hcogs

theorem FiguresAgree.finalizeSale {req : FinalizeSale} {saleId : ℕ} (hdb : FiguresAgree db)
    (h : GroceryErp.finalizeSale db req = .ok (db', saleId)) : FiguresAgree db'.commit := by
  have hrecorded := (finalizeSale_grows hdb.recorded h).1
  rcases finalizeSale_adds hdb.recorded hdb.counted h with rfl | ⟨cart, changeDue, hc, hwritten,
    hadds⟩
  · exact .commit hdb.recorded hdb.counted hdb.netSales hdb.cogs
  have hcosted := costed_of_checkout hdb.products hc
  refine .commit hrecorded (hwritten.counted hdb.counted) (fun f => ?_) fun f => ?_
  · refine (hdb.netSales f).adds hadds ?_
    simpa using sale_netSales_close hcosted hwritten.row_of_computed
  · refine (hdb.cogs f).adds hadds ?_
    simpa using sale_cogs_close hcosted

theorem FiguresAgree.createSaleReturn {req : CreateSaleReturn} {saleReturnId : ℕ}
    (hdb : FiguresAgree db) (h : GroceryErp.createSaleReturn db req = .ok (db', saleReturnId)) :
    FiguresAgree db'.commit := by
  have hrecorded := (createSaleReturn_grows hdb.recorded h).1
  rcases createSaleReturn_adds hdb.recorded hdb.counted h with rfl | ⟨sale, lines, hplan, hcounted,
    hwritten, hadds⟩
  · exact .commit hdb.recorded hdb.counted hdb.netSales hdb.cogs
  refine .commit hrecorded hcounted (fun f => ?_) fun f => ?_
  · refine (hdb.netSales f).adds hadds ?_
    simpa using return_netSales_close hwritten.planned
  · refine (hdb.cogs f).adds hadds ?_
    simpa using return_cogs_close hwritten.planned

/-- **Every request of a till keeps both figures together.** -/
theorem FiguresAgree.exec {t t' : Till} {r : SalesRequest} (ht : FiguresAgree t.db)
    (h : Till.exec r t = .ok t') : FiguresAgree t'.db := by
  cases r with
  | finalizeSale req =>
    simp only [Till.exec, bind_eq_ok, pure_eq_ok] at h
    obtain ⟨⟨db', saleId⟩, h, rfl⟩ := h
    exact ht.finalizeSale h
  | createSaleReturn req =>
    simp only [Till.exec, bind_eq_ok, pure_eq_ok] at h
    obtain ⟨⟨db', saleReturnId⟩, h, rfl⟩ := h
    exact ht.createSaleReturn h
  | voidSale req =>
    simp only [Till.exec, bind_eq_ok, pure_eq_ok] at h
    obtain ⟨⟨db', saleReturnId⟩, h, rfl⟩ := h
    exact ht.createSaleReturn (voidSale_ok h)

end Runs

/-! ### The two reports -/

section Reports

variable {db : Db} {f : ReportScope} {s : SalesSummary} {p : ProfitAndLoss}

/-- The net sales of the summary are revenue less discounts, with the discounts of the sales
again, and without the tax that came back. -/
theorem SalesSummary.Reads.netSales_eq (h : s.Reads db f) : s.netSales
    = netSalesFigure.ofRows db f + s.discounts - sumReturned db f (·.taxRefunded) := by
  have hgross : sumGross db f netSalesFigure.ofItem
      = sumGross db f SaleItem.gross - sumGross db f (·.discountAmount) := sumWhere_sub _ _ _ _
  have hreturned : sumReturned db f netSalesFigure.ofReturnItem
      = sumReturned db f SaleReturnItem.refunded - sumReturned db f (·.taxRefunded) :=
    sumWhere_sub _ _ _ _
  rw [Figure.ofRows, hgross, hreturned, h.netSales, h.discounts]
  ring

/-- What the summary says, the profit and loss says up to rounding.  The discounts are taken off
only there; a return is the same to both where it gives back as much discount as tax. -/
structure SalesSummary.Reconciles (s : SalesSummary) (p : ProfitAndLoss) (db : Db)
    (f : ReportScope) : Prop where
  cogs : |s.cogs - p.cogs| ≤ cogsFigure.margin db f
  netSales : sumReturned db f (·.discountRefunded) = sumReturned db f (·.taxRefunded) →
    |s.netSales - (p.netSales + (s.discounts - sumReturned db f (·.discountRefunded)))|
      ≤ netSalesFigure.margin db f
  grossProfit : sumReturned db f (·.discountRefunded) = sumReturned db f (·.taxRefunded) →
    |s.grossProfit - (p.grossProfit + (s.discounts - sumReturned db f (·.discountRefunded)))|
      ≤ netSalesFigure.margin db f + cogsFigure.margin db f

/-- **The reports agree where the rows and the entries do.** -/
theorem FiguresAgree.reconciles (hdb : FiguresAgree db) {auditLogs : List AuditLog}
    (hs : salesSummary db auditLogs f = .ok s) (hp : profitAndLoss db.books f.entries = .ok p) :
    s.Reconciles p db f := by
  have hsummary := salesSummary_ok hs
  have hreads := profitAndLoss_ok hp
  have hcogs : |s.cogs - p.cogs| ≤ cogsFigure.margin db f := by
    rw [hsummary.cogs, hreads.cogs]
    exact hdb.cogs f
  have hnet : sumReturned db f (·.discountRefunded) = sumReturned db f (·.taxRefunded) →
      |s.netSales - (p.netSales + (s.discounts - sumReturned db f (·.discountRefunded)))|
        ≤ netSalesFigure.margin db f := by
    intro hsame
    have hrows : s.netSales - (p.netSales + (s.discounts - sumReturned db f (·.discountRefunded)))
        = netSalesFigure.ofRows db f - netSalesFigure.ofBooks db f := by
      rw [hsummary.netSales_eq, hreads.netSales, hsame, Figure.ofBooks]
      simp only [netSalesFigure]
      ring
    rw [hrows]
    exact hdb.netSales f
  refine ⟨hcogs, hnet, fun hsame => ?_⟩
  have hsales := hnet hsame
  rw [hsummary.grossProfit, hreads.grossProfit]
  rw [abs_le] at hsales hcogs ⊢
  constructor <;> linarith [hsales.1, hsales.2, hcogs.1, hcogs.2]

end Reports

end GroceryErp
