import GroceryErp.Sales.Reconciliation

/-!
# What a sale that came back contributes

Every return item is of an item of its sale, at the price of the item, and the quantities of the
return items of an item are what has come back of it.  So a sale all of which has come back
leaves in the net sales the rounding of its prices, and the discounts and taxes given back.

## Main definitions

* `ReturnsTraced` — what the return items say of the items they are for.
* `ReturnedSameDay` — a sale all of which has come back on its day.

## Main results

* `ReturnsTraced.exec` — every request of a till keeps the return items traced.
* `ReturnedSameDay.netSalesOf_eq` — the contribution of a sale that has come back.
* `sales_summary_reconciles` — the two reports, and the sales that came back, over every run.

## References

`backend/app/modules/reports/service.py`, `sales_summary`; `docs/M11_DESIGN.md`.
-/

namespace GroceryErp

open Decimal Ledger Outcome Rows Runs

/-! ### Return items and their items -/

/-- Every return item has an item of its sale, at its price, and an item has come back as far as
its return items say. -/
structure ReturnsTraced (db : Db) : Prop where
  cents : ∀ i ∈ db.sales.items, OnGrid 2 i.val.discountAmount ∧ OnGrid 2 i.val.taxAmount
  rows : ∀ r ∈ db.sales.returnItems, ∃ item, db.sales.items[r.val.saleItemId]? = some item ∧
    r.val.OfSale db item.val.saleId ∧ r.val.unitPriceRefunded = item.val.unitPriceAtSale
  returned : ∀ (i : ℕ) (item : Row SaleItem), db.sales.items[i]? = some item →
    item.val.quantityReturned
      = sumWhere (·.val.saleItemId = i) (·.val.quantity) db.sales.returnItems

section Traced

variable {db db' : Db}

theorem Db.NothingSold.traced (h : db.NothingSold) : ReturnsTraced db where
  cents := by simp [h.items]
  rows := by simp [h.return_items]
  returned := by simp [h.items]

/-- A new return leaves the others of their sales. -/
theorem SaleReturnItem.OfSale.append {i : SaleReturnItem} {saleId : ℕ} {added : List (Row SaleReturn)}
    (h : i.OfSale db saleId) (hreturns : db'.sales.returns = db.sales.returns ++ added) :
    i.OfSale db' saleId := by
  unfold SaleReturnItem.OfSale at h ⊢
  obtain ⟨r, hr, hid⟩ := Option.map_eq_some_iff.mp h
  rw [hreturns, List.getElem?_append_left (List.getElem?_eq_some_iff.mp hr).1, hr]
  exact congrArg some hid

/-- A return item is of one sale. -/
theorem SaleReturnItem.OfSale.unique {i : SaleReturnItem} {k k' : ℕ} (h : i.OfSale db k)
    (h' : i.OfSale db k') : k = k' := by
  unfold SaleReturnItem.OfSale at h h'
  exact Option.some.inj (h.symm.trans h')

/-- What is sold has not come back. -/
theorem ReturnsTraced.sold {req : FinalizeSale} {cart : PricedCart} (h : ReturnsTraced db)
    (hwritten : SaleWritten db db' req cart) : ReturnsTraced db' := by
  obtain ⟨items, hall, hitems⟩ := hwritten.items
  have hnew : ∀ i ∈ items, ∃ c : ComputedLine, i.val = c.item db.sales.sales.length := by
    intro i hi
    obtain ⟨c, -, hc⟩ := exists_of_map_eq hitems hi
    exact ⟨c, hc.symm⟩
  refine ⟨?_, ?_, ?_⟩
  · rw [hall]
    intro i hi
    rcases List.mem_append.mp hi with hi | hi
    · exact h.cents i hi
    · obtain ⟨c, hc⟩ := hnew i hi
      rw [hc]
      exact ⟨onGrid_numeric 2 _, onGrid_numeric 2 _⟩
  · rw [hwritten.returnItems]
    intro r hr
    obtain ⟨item, hitem, hof, hprice⟩ := h.rows r hr
    refine ⟨item, ?_, hof.append (by rw [hwritten.returns, List.append_nil]), hprice⟩
    rw [hall, List.getElem?_append_left (List.getElem?_eq_some_iff.mp hitem).1, hitem]
  · rw [hall, hwritten.returnItems]
    intro i item hi
    rcases lt_or_ge i db.sales.items.length with hlt | hge
    · rw [List.getElem?_append_left hlt] at hi
      exact h.returned i item hi
    · -- a new item has no return items, as these are of items that were there
      rw [List.getElem?_append_right hge] at hi
      obtain ⟨c, hc⟩ := hnew item (mem_of_row hi)
      rw [hc]
      refine (sumWhere_eq_zero _ _ fun r hr hri => ?_).symm
      obtain ⟨old, hold, -⟩ := h.rows r hr
      rw [hri] at hold
      exact absurd (List.getElem?_eq_some_iff.mp hold).1 (not_lt.mpr hge)

/-- What comes back is added to what has come back. -/
theorem ReturnsTraced.cameBack {req : CreateSaleReturn} {lines : List ReturnLine}
    (hdb : SalesRecorded db) (h : ReturnsTraced db) (hwritten : ReturnWritten db db' req lines) :
    ReturnsTraced db' := by
  obtain ⟨header, hreturns, -, hsale, -⟩ := hwritten.header
  obtain ⟨rows, hrows, hvals⟩ := hwritten.rows
  have hnodup : (lines.map (·.saleItemId)).Nodup := hwritten.named ▸ nodup_distinct _
  have hkept := hwritten.items_kept
  refine ⟨?_, ?_, ?_⟩
  · refine hkept.forall_mem h.cents fun i old new hold hnew => ?_
    rw [hnew]
    exact hold
  · rw [hrows]
    intro r hr
    rcases List.mem_append.mp hr with hr | hr
    · obtain ⟨item, hold, hof, hprice⟩ := h.rows r hr
      obtain ⟨item', hnew, hval⟩ := hkept.2 _ item hold
      refine ⟨item', hnew, ?_, ?_⟩
      · rw [hval]
        exact hof.append hreturns
      · rw [hval]
        exact hprice
    · obtain ⟨l, hl, hrow⟩ := exists_of_map_eq hvals hr
      have hp := hwritten.planned l hl
      obtain ⟨item', hnew, hval⟩ := hkept.2 _ l.item hp.loaded
      rw [← hrow]
      refine ⟨item', hnew, ?_, ?_⟩
      · rw [hval]
        show db'.sales.returns[db.sales.returns.length]?.map (·.val.saleId) = _
        rw [hreturns, List.getElem?_concat_length, Option.map_some, hsale, ← hp.of_sale]
      · rw [hval]
        rfl
  · intro i item' hi
    have hadded : sumWhere (·.val.saleItemId = i) (·.val.quantity) rows
        = sumWhere (·.saleItemId = i) (fun l => numeric 3 l.quantity) lines := by
      have hmap : sumWhere (·.saleItemId = i) (·.quantity) (rows.map Subtype.val)
          = sumWhere (·.val.saleItemId = i) (·.val.quantity) rows := sumWhere_map _ _ _ _
      rw [← hmap, hvals, sumWhere_map]
      rfl
    rw [hrows, sumWhere_append, hadded]
    obtain ⟨item, hold, hnew⟩ := hwritten.overwritten.row hi
    rw [← h.returned i item hold]
    rcases hnew with ⟨l, hl, rfl, rfl, hval⟩ | ⟨hmem, rfl⟩
    · -- one line names the item, and its quantity is rounded as the column of the item is
      have hp := hwritten.planned l hl
      have hgrid := (hdb.items l.item (mem_of_row hold)).2.2
      have hnonneg := l.item.property.returned_nonneg
      rw [hval, sumWhere_key _ hnodup hl]
      show numeric 3 (l.item.val.quantityReturned + l.quantity) = _
      rw [add_comm, numeric, quantize_add_of_onGrid hgrid hp.quantity_pos.le
        (add_nonneg hp.quantity_pos.le hnonneg), add_comm]
      rfl
    · rw [sumWhere_of_notMem _ hmem, add_zero]

end Traced

/-! ### Every run -/

section Runs

variable {t t' t₀ : Till} {r : SalesRequest}

theorem ReturnsTraced.createSaleReturn {db db' : Db} {req : CreateSaleReturn} {saleReturnId : ℕ}
    (hdb : FiguresAgree db) (htraced : ReturnsTraced db)
    (h : GroceryErp.createSaleReturn db req = .ok (db', saleReturnId)) :
    ReturnsTraced db'.commit := by
  have hwritten : ReturnsTraced db' := by
    rcases createSaleReturn_adds hdb.recorded hdb.counted h with rfl | ⟨_, lines, -, -, hw, -⟩
    · exact htraced
    · exact htraced.cameBack hdb.recorded hw
  exact ⟨hwritten.cents, hwritten.rows, hwritten.returned⟩

/-- **Every request of a till keeps the return items traced.** -/
theorem ReturnsTraced.exec (hdb : FiguresAgree t.db) (htraced : ReturnsTraced t.db)
    (h : Till.exec r t = .ok t') : ReturnsTraced t'.db := by
  cases r with
  | finalizeSale req =>
    simp only [Till.exec, bind_eq_ok, pure_eq_ok] at h
    obtain ⟨⟨db', saleId⟩, h, rfl⟩ := h
    have hwritten : ReturnsTraced db' := by
      rcases finalizeSale_adds hdb.recorded hdb.counted h with rfl | ⟨cart, _, -, hw, -⟩
      · exact htraced
      · exact htraced.sold hw
    exact ⟨hwritten.cents, hwritten.rows, hwritten.returned⟩
  | createSaleReturn req =>
    simp only [Till.exec, bind_eq_ok, pure_eq_ok] at h
    obtain ⟨⟨db', saleReturnId⟩, h, rfl⟩ := h
    exact htraced.createSaleReturn hdb h
  | voidSale req =>
    simp only [Till.exec, bind_eq_ok, pure_eq_ok] at h
    obtain ⟨⟨db', saleReturnId⟩, h, rfl⟩ := h
    exact htraced.createSaleReturn hdb (voidSale_ok h)

/-- What a till that opened before its first sale keeps. -/
theorem figuresAgree_of_reaches (h₀ : t₀.db.NothingSold)
    (h : Reaches Till.exec (fun _ _ => True) t₀ t) : FiguresAgree t.db ∧ ReturnsTraced t.db := by
  refine h.invariant (I := fun t => FiguresAgree t.db ∧ ReturnsTraced t.db)
    ⟨h₀.figuresAgree, h₀.traced⟩ ?_
  rintro s r s' ⟨hdb, htraced⟩ - hstep
  exact ⟨hdb.exec hstep, htraced.exec hdb hstep⟩

end Runs

/-! ### A sale that came back -/

/-- All of the sale has come back, on its day. -/
structure ReturnedSameDay (db : Db) (saleId : ℕ) (sale : Row Sale) : Prop where
  sold : db.sales.sales[saleId]? = some sale
  none_left : remainingLines db saleId = []
  days : ∀ r ∈ db.sales.returns, r.val.saleId = saleId →
    returnBusinessDate r.val = sale.val.completedAt

/-- The sum of a column of the items of a sale. -/
def sumOfItems (db : Db) (saleId : ℕ) (g : SaleItem → ℚ) : ℚ :=
  sumWhere (·.val.saleId = saleId) (fun i => g i.val) db.sales.items

/-- The sum of a column of what came back of a sale. -/
def sumOfReturns (db : Db) (saleId : ℕ) (g : SaleReturnItem → ℚ) : ℚ :=
  sumWhere (fun r => r.val.OfSale db saleId) (fun r => g r.val) db.sales.returnItems

/-- What the rounding of its price adds to an item. -/
def SaleItem.rounding (i : SaleItem) : ℚ := i.gross - i.unitPriceAtSale * i.quantity

section Contribution

variable {db : Db} {f : ReportScope} {saleId : ℕ} {sale : Row Sale}

/-- The prices of what came back of a sale, item by item. -/
theorem ReturnsTraced.sum_prices (h : ReturnsTraced db) :
    sumOfReturns db saleId (fun r => r.unitPriceRefunded * r.quantity)
      = sumOfItems db saleId (fun i => i.unitPriceAtSale * i.quantityReturned) := by
  refine sumWhere_parents (·.val.saleItemId) (fun r hr => ?_) fun n item hitem _ => ?_
  · obtain ⟨item, hitem, hof, -⟩ := h.rows r hr
    refine ⟨item, hitem, fun hr' => hof.unique hr', fun hsale => ?_⟩
    rwa [hsale] at hof
  · show item.val.unitPriceAtSale * item.val.quantityReturned = _
    rw [h.returned n item hitem, sumWhere, sumWhere, ← List.sum_map_mul_left]
    congr 1
    refine List.map_congr_left fun r hr => ?_
    obtain ⟨hmem, hn⟩ := List.mem_filter.mp hr
    obtain ⟨item', hitem', -, hprice⟩ := h.rows r hmem
    rw [of_decide_eq_true hn] at hitem'
    obtain rfl := Option.some.inj (hitem'.symm.trans hitem)
    exact congrArg (· * r.val.quantity) hprice.symm

/-- A sale in scope is in it with all its items, and with what came back of it on its day. -/
theorem SalesCounted.netSalesOf_eq (h : SalesCounted db) (hsold : db.sales.sales[saleId]? = some sale)
    (hdays : ∀ r ∈ db.sales.returns, r.val.saleId = saleId →
      returnBusinessDate r.val = sale.val.completedAt) :
    netSalesOf db f saleId = if f.Has sale.val.storeId sale.val.completedAt then
      sumOfItems db saleId SaleItem.gross - sumOfReturns db saleId SaleReturnItem.refunded
    else 0 := by
  have hgross : ∀ i ∈ db.sales.items, i.val.saleId = saleId →
      (GrossItem db f i ↔ f.Has sale.val.storeId sale.val.completedAt) := by
    intro i _ hi
    rw [h.grossItem_iff, hi, saleDays, List.getElem?_map, hsold]
    simp
  have hreturned : ∀ i ∈ db.sales.returnItems, i.val.OfSale db saleId →
      (ReturnedItem db f i ↔ f.Has sale.val.storeId sale.val.completedAt) := by
    intro i _ hi
    obtain ⟨r, hr, hid⟩ := Option.map_eq_some_iff.mp hi
    have hstore := (h.headers r (mem_of_row hr)).eq_of_row (hid ▸ hsold)
    rw [h.returnedItem_iff, returnDays, List.getElem?_map, hr]
    simp [hdays r (mem_of_row hr) hid, hstore]
  unfold netSalesOf sumOfItems sumOfReturns
  split
  · next hin =>
    congr 1
    · exact sumWhere_congr (fun i hi => and_iff_left_of_imp fun hof => (hgross i hi hof).mpr hin)
        fun _ _ _ => rfl
    · exact sumWhere_congr (fun i hi => and_iff_left_of_imp fun hof => (hreturned i hi hof).mpr hin)
        fun _ _ _ => rfl
  · next hout =>
    rw [sumWhere_eq_zero _ _ fun i hi hof => absurd ((hgross i hi hof.1).mp hof.2) hout,
      sumWhere_eq_zero _ _ fun i hi hof => absurd ((hreturned i hi hof.1).mp hof.2) hout, sub_zero]

/-- **A sale that has come back leaves the rounding of its prices, and the discounts less the
taxes given back.** -/
theorem ReturnedSameDay.netSalesOf_eq (h : ReturnedSameDay db saleId sale) (hdb : SalesCounted db)
    (htraced : ReturnsTraced db) :
    netSalesOf db f saleId = if f.Has sale.val.storeId sale.val.completedAt then
      sumOfItems db saleId SaleItem.rounding
        + (sumOfReturns db saleId (·.discountRefunded) - sumOfReturns db saleId (·.taxRefunded))
    else 0 := by
  have hrefunded : sumOfReturns db saleId SaleReturnItem.refunded
      = sumOfReturns db saleId (fun r => r.unitPriceRefunded * r.quantity)
        - sumOfReturns db saleId (·.discountRefunded) + sumOfReturns db saleId (·.taxRefunded) := by
    unfold sumOfReturns
    rw [← sumWhere_sub]
    exact List.sum_map_add
  have hall : sumOfItems db saleId (fun i => i.unitPriceAtSale * i.quantityReturned)
      = sumOfItems db saleId (fun i => i.unitPriceAtSale * i.quantity) := by
    refine sumWhere_congr (fun _ _ => Iff.rfl) fun i hi hof => ?_
    obtain ⟨n, hn⟩ := List.getElem?_of_mem hi
    have hle := remainingLines_eq_nil_iff.mp h.none_left n i hn hof
    exact congrArg (i.val.unitPriceAtSale * ·) (le_antisymm i.property.returned_le hle)
  have hrounding : sumOfItems db saleId SaleItem.rounding = sumOfItems db saleId SaleItem.gross
      - sumOfItems db saleId (fun i => i.unitPriceAtSale * i.quantity) := sumWhere_sub _ _ _ _
  -- the prices of what came back are those of the sale, so what is left of them cancels
  rw [hdb.netSalesOf_eq h.sold h.days, hrefunded, htraced.sum_prices, hall, hrounding]
  congr 1
  ring

/-- The rounding of a price is at most half a cent. -/
theorem SaleItem.abs_rounding_le (i : Row SaleItem) : |i.val.rounding| ≤ quantum 2 / 2 := by
  have hround := abs_quantize_sub_le 2
    (i.val.quantity * i.val.unitPriceAtSale - i.val.discountAmount + i.val.taxAmount)
  have htotal : i.val.rounding = i.val.lineTotal
      - (i.val.quantity * i.val.unitPriceAtSale - i.val.discountAmount + i.val.taxAmount) := by
    unfold SaleItem.rounding SaleItem.gross
    ring
  rwa [htotal, i.property.line_total_consistent]

/-- A price in whole cents is not rounded. -/
theorem ReturnsTraced.rounding_eq_zero (h : ReturnsTraced db) {i : Row SaleItem}
    (hi : i ∈ db.sales.items) (hcents : OnGrid 2 (i.val.quantity * i.val.unitPriceAtSale)) :
    i.val.rounding = 0 := by
  obtain ⟨hdiscount, htax⟩ := h.cents i hi
  unfold SaleItem.rounding SaleItem.gross
  rw [i.property.line_total_consistent, numeric_eq_self ((hcents.sub hdiscount).add htax)]
  ring

/-- What the roundings of the prices of a sale add up to. -/
theorem abs_sumOfItems_rounding_le (db : Db) (saleId : ℕ) :
    |sumOfItems db saleId SaleItem.rounding| ≤ sumOfItems db saleId fun _ => quantum 2 / 2 := by
  have hsum := abs_sum_map_sub_le (l := db.sales.items.filter (·.val.saleId = saleId))
    (f := fun i => i.val.rounding) (g := fun _ => 0) (m := fun _ => quantum 2 / 2)
    fun i _ => by simpa using SaleItem.abs_rounding_le i
  simpa [sumOfItems, sumWhere] using hsum

end Contribution

/-! ### The two reports -/

/-- The summary is made for days in order. -/
theorem exists_salesSummary (db : Db) (auditLogs : List AuditLog) {f : ReportScope}
    (hdays : ∀ a ∈ f.dateFrom, ∀ b ∈ f.dateTo, a ≤ b) :
    ∃ s, salesSummary db auditLogs f = .ok s := by
  have hrange : validateDateRange f.dateFrom f.dateTo = .ok () := by
    refine raiseIf_eq_ok.mpr ?_
    rintro ⟨a, ha, b, hb, hlt⟩
    exact absurd (hdays a ha b hb) (not_le.mpr hlt)
  unfold salesSummary
  rw [hrange]
  exact ⟨_, rfl⟩

/-- The profit and loss is made for the filters of a summary. -/
theorem exists_profitAndLoss (b : Books) (f : ReportScope) :
    ∃ p, profitAndLoss b f.entries = .ok p := by
  have hstore : ¬(f.entries.storeId ≠ none ∧ f.entries.storeIds ≠ none) := fun h => h.1 rfl
  unfold profitAndLoss trialBalance
  rw [raiseIf_eq_ok (u := ()).mpr hstore]
  exact ⟨_, rfl⟩

/-- What came back of a sale gave back as much discount as tax. -/
def EvenReturns (db : Db) (saleId : ℕ) : Prop :=
  sumOfReturns db saleId (·.discountRefunded) = sumOfReturns db saleId (·.taxRefunded)

/-- The prices of a sale are in whole cents. -/
def WholeCents (db : Db) (saleId : ℕ) : Prop :=
  ∀ i ∈ db.sales.items, i.val.saleId = saleId → OnGrid 2 (i.val.quantity * i.val.unitPriceAtSale)

/-- **The sales summary and the profit and loss say the same of every run, up to rounding, but
for the discounts; and a sale that has come back on its day leaves nothing but rounding.** -/
theorem sales_summary_reconciles {t₀ t : Till} (h₀ : t₀.db.NothingSold)
    (h : Reaches Till.exec (fun _ _ => True) t₀ t) (auditLogs : List AuditLog) (f : ReportScope)
    (hdays : ∀ a ∈ f.dateFrom, ∀ b ∈ f.dateTo, a ≤ b) :
    ∃ s p, salesSummary t.db auditLogs f = .ok s ∧ profitAndLoss t.db.books f.entries = .ok p ∧
      s.Reconciles p t.db f ∧
      s.netSales = ∑ saleId ∈ Finset.range t.db.sales.sales.length, netSalesOf t.db f saleId ∧
      ∀ saleId sale, ReturnedSameDay t.db saleId sale → EvenReturns t.db saleId →
        |netSalesOf t.db f saleId| ≤ sumOfItems t.db saleId (fun _ => quantum 2 / 2) ∧
        (WholeCents t.db saleId → netSalesOf t.db f saleId = 0) := by
  obtain ⟨hdb, htraced⟩ := figuresAgree_of_reaches h₀ h
  obtain ⟨s, hs⟩ := exists_salesSummary t.db auditLogs hdays
  obtain ⟨p, hp⟩ := exists_profitAndLoss t.db.books f
  have hitems : ∀ i ∈ t.db.sales.items, i.val.saleId < t.db.sales.sales.length :=
    fun i hi => (hdb.recorded.items i hi).1
  have hrows : ∀ r ∈ t.db.sales.returnItems,
      ∃ saleId < t.db.sales.sales.length, r.val.OfSale t.db saleId := by
    intro r hr
    obtain ⟨item, hitem, hof, -⟩ := htraced.rows r hr
    exact ⟨_, hitems item (mem_of_row hitem), hof⟩
  refine ⟨s, p, hs, hp, hdb.reconciles hs hp, sum_netSalesOf (salesSummary_ok hs) hitems hrows, ?_⟩
  intro saleId sale hreturned heven
  -- what the rows of the sale and of its returns net to is the rounding of the sale
  rw [hreturned.netSalesOf_eq hdb.counted htraced, sub_eq_zero.mpr heven, add_zero]
  constructor
  · split
    · exact abs_sumOfItems_rounding_le t.db saleId
    · rw [abs_zero]
      exact sumWhere_nonneg fun _ _ _ => (half_pos (quantum_pos 2)).le
  -- in whole cents the columns round nothing
  · intro hcents
    have hnone : sumOfItems t.db saleId SaleItem.rounding = 0 :=
      sumWhere_eq_zero _ _ fun i hi hof => htraced.rounding_eq_zero hi (hcents i hi hof)
    rw [hnone, ite_self]

/-! ### A day at the bakery -/

def bakeryTill : Till := { db := bakery }

theorem bakeryTill_nothingSold : bakeryTill.db.NothingSold :=
  ⟨rfl, rfl, rfl, rfl, by decide +kernel, by decide +kernel⟩

/-- Two loaves are sold with ten cents off. -/
def discountedTill : Till :=
  value (Till.exec (.finalizeSale twoLoaves) bakeryTill) (by decide +kernel)

theorem reaches_discountedTill : Reaches Till.exec (fun _ _ => True) bakeryTill discountedTill :=
  .next .start trivial (eq_ok_value _ _)

/-- One loaf more, sold to another customer of the same till. -/
def oneLoaf : FinalizeSale where
  storeId := 0
  cashierId := 0
  clientTransactionId := "till-2"
  callerStoreId := none
  lines := [{ productId := 0, quantity := 1 }]
  payments := [⟨.cash, 2⟩]
  today := 0

/-- The second sale, of the one loaf, is voided on its day. -/
def voidLoaf : VoidSale where
  saleId := 1
  storeId := 0
  returnDate := 0
  refundMethod := .cash
  clientTransactionId := "void-1"
  callerStoreId := none

def oneLoafTill : Till :=
  value (Till.exec (.finalizeSale oneLoaf) discountedTill) (by decide +kernel)

def voidedTill : Till :=
  value (Till.exec (.voidSale voidLoaf) oneLoafTill) (by decide +kernel)

theorem reaches_voidedTill : Reaches Till.exec (fun _ _ => True) bakeryTill voidedTill :=
  .next (.next reaches_discountedTill trivial (eq_ok_value _ _)) trivial (eq_ok_value _ _)

def loafSale : Row Sale := voidedTill.db.sales.sales.getLast (by decide +kernel)

theorem loaf_returnedSameDay : ReturnedSameDay voidedTill.db 1 loafSale :=
  ⟨by decide +kernel, by decide +kernel, by decide +kernel⟩

/-- The reports of the day reconcile, and the loaf that was voided is in neither. -/
theorem sales_summary_reconciles_bakery :
    (∃ s p, salesSummary voidedTill.db [] {} = .ok s ∧
      profitAndLoss voidedTill.db.books (ReportScope.entries {}) = .ok p ∧
      s.Reconciles p voidedTill.db {} ∧ 0 < s.discounts) ∧
    netSalesOf voidedTill.db {} 1 = 0 := by
  have h := sales_summary_reconciles bakeryTill_nothingSold reaches_voidedTill [] {} (by simp)
  obtain ⟨s, p, hs, hp, hagree, -, hback⟩ := h
  refine ⟨⟨s, p, hs, hp, hagree, ?_⟩, ?_⟩
  · rw [(salesSummary_ok hs).discounts]
    decide +kernel
  · exact (hback 1 loafSale loaf_returnedSameDay (by unfold EvenReturns; decide +kernel)).2
      (by unfold WholeCents; decide +kernel)

/-- A cheese at ten cents the kilo. -/
def sliverTill : Till := { db := shopAt (1 / 10) (by decide +kernel) }

/-- A third of a kilo is sold for three cents. -/
def sliverSold : Till :=
  value (Till.exec (.finalizeSale (cashSale (333 / 1000) (3 / 100))) sliverTill) (by decide +kernel)

def sliverVoided : Till :=
  value (Till.exec (.voidSale { voidLoaf with saleId := 0 }) sliverSold) (by decide +kernel)

def sliverSale : Row Sale := sliverVoided.db.sales.sales.head (by decide +kernel)

/-- **The discount of the two loaves is in the net sales of the summary alone**, and the sliver
that was voided leaves a third of a cent there. -/
theorem discounts_and_slivers_left :
    (bakeryTill.db.NothingSold ∧
      Reaches Till.exec (fun _ _ => True) bakeryTill discountedTill ∧
      ∃ s p, salesSummary discountedTill.db [] {} = .ok s ∧
        profitAndLoss discountedTill.db.books (ReportScope.entries {}) = .ok p ∧
        s.netSales = 3 ∧ p.netSales = 29 / 10 ∧ s.grossProfit = 1 ∧ p.grossProfit = 9 / 10) ∧
    sliverTill.db.NothingSold ∧ Reaches Till.exec (fun _ _ => True) sliverTill sliverVoided ∧
      ReturnedSameDay sliverVoided.db 0 sliverSale ∧
      netSalesOf sliverVoided.db {} 0 = -(33 / 10000) := by
  refine ⟨⟨bakeryTill_nothingSold, reaches_discountedTill, ?_⟩, ?_, ?_, ?_, by decide +kernel⟩
  · refine ⟨value (salesSummary discountedTill.db [] {}) (by decide +kernel),
      value (profitAndLoss discountedTill.db.books (ReportScope.entries {})) (by decide +kernel),
      eq_ok_value _ _, eq_ok_value _ _, ?_⟩
    decide +kernel
  · exact ⟨rfl, rfl, rfl, rfl, by decide +kernel, by decide +kernel⟩
  · exact .next (.next .start trivial (eq_ok_value _ _)) trivial (eq_ok_value _ _)
  · exact ⟨by decide +kernel, by decide +kernel, by decide +kernel⟩

end GroceryErp
