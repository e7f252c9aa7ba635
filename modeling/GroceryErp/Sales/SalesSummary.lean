import GroceryErp.Accounting.Reports
import GroceryErp.Sales.Voids

/-!
# The sales summary

The summary adds up sale items and return items, not journal lines.  Its net sales are net of
returns and not of discounts, which have a column of their own; the profit and loss takes the
discounts off.  A sale item counts before its discount and its tax, a return item with what was
refunded for it.

## Main definitions

* `AuditLog` — the audit trail, which alone tells a void from a return.
* `ReportScope` — the stores and days of a report.
* `GrossItem`, `ReturnedItem` — the rows the two queries select.
* `salesSummary` — the service function.
* `netSalesOf` — what one sale contributes to the net sales.

## Main results

* `salesSummary_ok` — the figures, as sums over the rows.
* `sum_netSalesOf` — the net sales are the contributions of the sales.

## References

`backend/app/modules/reports/service.py`, `sales_summary`; `docs/M11_DESIGN.md`.
-/

namespace GroceryErp

open Decimal Ledger Outcome Rows

/-! ### The audit trail -/

/-- The actions logged for sales and their returns. -/
inductive AuditAction
  | saleCompleted
  | saleReturnInitiated
  | saleReturnCompleted
  | voidCompleted
  deriving DecidableEq

inductive AuditEntity
  | sale
  | saleReturn
  deriving DecidableEq

/-- A row of `audit_logs`, as far as the reports read it. -/
structure AuditLog where
  action : AuditAction
  entityType : AuditEntity
  entityId : Option ℕ
  deriving DecidableEq

/-! ### Scopes -/

/-- `_validate_date_range`: a range that ends before it begins is refused. -/
def validateDateRange (dateFrom dateTo : Option Date) : Result Unit :=
  raiseIf (∃ a ∈ dateFrom, ∃ b ∈ dateTo, b < a) (.validation .invalidDateRange)

/-- The arguments of a report: its stores and its days; what is left out does not restrict. -/
structure ReportScope where
  storeIds : Option (List ℕ) := none
  dateFrom : Option Date := none
  dateTo : Option Date := none
  deriving DecidableEq

namespace ReportScope

variable (f : ReportScope)

/-- The first bound of `_day_range_bounds`: the beginning of the first day. -/
def start : Option Date := f.dateFrom

/-- The second bound of `_day_range_bounds`: the day after the last one. -/
def stop : Option Date := f.dateTo.map (· + 1)

/-- The conditions of `_apply_sale_scope` and `_apply_return_scope`. -/
def Has (storeId : ℕ) (day : Date) : Prop :=
  (∀ ids ∈ f.storeIds, storeId ∈ ids) ∧ (∀ a ∈ f.start, a ≤ day) ∧ ∀ b ∈ f.stop, day < b

instance decidableHas (storeId : ℕ) (day : Date) : Decidable (f.Has storeId day) :=
  inferInstanceAs (Decidable (_ ∧ _))

/-- The same filters for the entries of the journal. -/
def entries : EntryFilter where
  storeIds := f.storeIds
  dateFrom := f.dateFrom
  dateTo := f.dateTo

/-- The day after the last one bounds the days up to the last one. -/
theorem has_iff {f : ReportScope} {storeId : ℕ} {day : Date} :
    f.Has storeId day ↔ f.entries.HasStore storeId ∧ f.entries.HasDate day := by
  have hstore : (∀ ids ∈ f.storeIds, storeId ∈ ids) ↔ f.entries.HasStore storeId := by
    unfold EntryFilter.HasStore entries
    cases f.storeIds <;> simp
  have hstop : (∀ b ∈ f.stop, day < b) ↔ ∀ b ∈ f.dateTo, day ≤ b := by
    unfold stop
    cases f.dateTo with
    | none => simp
    | some b =>
      simp only [Option.map_some, Option.mem_some_iff, forall_eq']
      exact Int.lt_add_one_iff
  unfold Has
  rw [hstore, hstop]
  rfl

end ReportScope

/-! ### The rows selected -/

/-- `_GROSS_SALE_STATUSES`: a sale counts as gross whatever was returned of it later. -/
def grossSaleStatuses : List SaleStatus := [.completed, .refunded, .partiallyRefunded]

/-- `_return_business_date`.  Every return that is written has its date. -/
def returnBusinessDate (r : SaleReturn) : Date := r.returnDate

/-- The item is selected by the query for gross sales. -/
def GrossItem (db : Db) (f : ReportScope) (i : Row SaleItem) : Prop :=
  ∃ sale ∈ db.sales.sales[i.val.saleId]?,
    sale.val.status ∈ grossSaleStatuses ∧ f.Has sale.val.storeId sale.val.completedAt

instance (db : Db) (f : ReportScope) (i : Row SaleItem) : Decidable (GrossItem db f i) :=
  inferInstanceAs (Decidable (∃ _ ∈ _, _))

/-- The return item is selected by the query for returns, which leaves out those of voided
sales. -/
def ReturnedItem (db : Db) (f : ReportScope) (i : Row SaleReturnItem) : Prop :=
  ∃ r ∈ db.sales.returns[i.val.saleReturnId]?,
    (∃ sale ∈ db.sales.sales[r.val.saleId]?, sale.val.status ≠ .voided) ∧
      f.Has r.val.storeId (returnBusinessDate r.val)

instance (db : Db) (f : ReportScope) (i : Row SaleReturnItem) : Decidable (ReturnedItem db f i) :=
  inferInstanceAs (Decidable (∃ _ ∈ _, _))

/-- What an item counts before its discount and its tax. -/
def SaleItem.gross (i : SaleItem) : ℚ := i.lineTotal + i.discountAmount - i.taxAmount

/-- What a return item counts: what was refunded for it. -/
def SaleReturnItem.refunded (i : SaleReturnItem) : ℚ :=
  i.unitPriceRefunded * i.quantity - i.discountRefunded + i.taxRefunded

/-- The cost of an item: what its product had cost on average when it was sold. -/
def SaleItem.cost (i : SaleItem) : ℚ := i.quantity * i.unitCostAtSale

/-- The cost that a return item takes back, none where it was not restocked. -/
def SaleReturnItem.costReversed (i : SaleReturnItem) : ℚ :=
  if i.restock then i.quantity * i.unitCostRefunded else 0

/-- The sum of a column of the items selected. -/
def sumGross (db : Db) (f : ReportScope) (g : SaleItem → ℚ) : ℚ :=
  sumWhere (GrossItem db f) (fun i => g i.val) db.sales.items

/-- The sum of a column of the return items selected. -/
def sumReturned (db : Db) (f : ReportScope) (g : SaleReturnItem → ℚ) : ℚ :=
  sumWhere (ReturnedItem db f) (fun i => g i.val) db.sales.returnItems

/-- The return items of voids: those selected, once for each log of their void. -/
def voidItems (db : Db) (auditLogs : List AuditLog) (f : ReportScope) : List SaleReturnItem :=
  (db.sales.returnItems.filter (ReturnedItem db f ·)).flatMap fun i =>
    (auditLogs.filter fun l => l.entityType = .saleReturn ∧
      l.entityId = some i.val.saleReturnId ∧ l.action = .voidCompleted).map fun _ => i.val

/-! ### The summary -/

structure SalesSummary where
  storeIds : Option (List ℕ)
  dateFrom : Option Date
  dateTo : Option Date
  grossSales : ℚ
  discounts : ℚ
  returns : ℚ
  voidCount : ℕ
  voidAmount : ℚ
  netSales : ℚ
  tax : ℚ
  cogs : ℚ
  grossProfit : ℚ
  grossMarginPercent : Option ℚ
  transactionCount : ℕ
  unitsSold : ℚ
  averageTransactionValue : Option ℚ

/-- `_safe_ratio`: a ratio, and nothing where it would be over zero. -/
def safeRatio (numerator denominator : ℚ) : Option ℚ :=
  if denominator = 0 then none else some (numerator / denominator)

/-- `sales_summary`: gross sales count without tax and returns with it, so that the two do not
cancel for a taxed sale. -/
def salesSummary (db : Db) (auditLogs : List AuditLog) (f : ReportScope) :
    Result SalesSummary := do
  validateDateRange f.dateFrom f.dateTo
  let grossSales := sumGross db f SaleItem.gross
  let discounts := sumGross db f (·.discountAmount)
  let transactionCount :=
    (distinct ((db.sales.items.filter (GrossItem db f ·)).map (·.val.saleId))).length
  let returnsTotal := sumReturned db f SaleReturnItem.refunded
  let voids := voidItems db auditLogs f
  let tax := sumGross db f (·.taxAmount) - sumReturned db f (·.taxRefunded)
  let netSales := grossSales - returnsTotal
  let cogs := sumGross db f SaleItem.cost - sumReturned db f SaleReturnItem.costReversed
  let grossProfit := netSales - cogs
  let unitsSold := sumGross db f (·.quantity) - sumReturned db f (·.quantity)
  return {
    storeIds := f.storeIds
    dateFrom := f.dateFrom
    dateTo := f.dateTo
    grossSales, discounts
    returns := returnsTotal
    voidCount := (distinct (voids.map (·.saleReturnId))).length
    voidAmount := (voids.map SaleReturnItem.refunded).sum
    netSales, tax, cogs, grossProfit
    grossMarginPercent := safeRatio (grossProfit * 100) netSales
    transactionCount, unitsSold
    averageTransactionValue := safeRatio netSales transactionCount }

/-! ### What it says -/

section Figures

variable {db : Db} {auditLogs : List AuditLog} {f : ReportScope} {s : SalesSummary}

/-- The figures that the profit and loss has as well, as sums over the rows. -/
structure SalesSummary.Reads (s : SalesSummary) (db : Db) (f : ReportScope) : Prop where
  discounts : s.discounts = sumGross db f (·.discountAmount)
  netSales : s.netSales = sumGross db f SaleItem.gross - sumReturned db f SaleReturnItem.refunded
  cogs : s.cogs = sumGross db f SaleItem.cost - sumReturned db f SaleReturnItem.costReversed
  grossProfit : s.grossProfit = s.netSales - s.cogs

theorem salesSummary_ok (h : salesSummary db auditLogs f = .ok s) : s.Reads db f := by
  unfold salesSummary at h
  simp only [↓check_bind_eq_ok, pure_eq_ok] at h
  obtain ⟨-, rfl⟩ := h
  exact ⟨rfl, rfl, rfl, rfl⟩

/-! ### What a sale contributes -/

/-- The return item is of a return of the sale. -/
def SaleReturnItem.OfSale (db : Db) (saleId : ℕ) (i : SaleReturnItem) : Prop :=
  db.sales.returns[i.saleReturnId]?.map (·.val.saleId) = some saleId

instance (db : Db) (saleId : ℕ) (i : SaleReturnItem) : Decidable (i.OfSale db saleId) :=
  inferInstanceAs (Decidable (_ = _))

/-- What the rows of a sale, and of its returns, add to the net sales. -/
def netSalesOf (db : Db) (f : ReportScope) (saleId : ℕ) : ℚ :=
  sumWhere (fun i => i.val.saleId = saleId ∧ GrossItem db f i) (fun i => i.val.gross) db.sales.items
    - sumWhere (fun i => i.val.OfSale db saleId ∧ ReturnedItem db f i) (fun i => i.val.refunded)
        db.sales.returnItems

/-- **The net sales are what the sales contribute.** -/
theorem sum_netSalesOf (h : s.Reads db f)
    (hitems : ∀ i ∈ db.sales.items, i.val.saleId < db.sales.sales.length)
    (hrows : ∀ i ∈ db.sales.returnItems, ∃ saleId < db.sales.sales.length, i.val.OfSale db saleId) :
    s.netSales = ∑ k ∈ Finset.range db.sales.sales.length, netSalesOf db f k := by
  have hgross : ∑ k ∈ Finset.range db.sales.sales.length,
      sumWhere (fun i => i.val.saleId = k ∧ GrossItem db f i) (fun i => i.val.gross) db.sales.items
      = sumGross db f SaleItem.gross := by
    simp only [← sumWhere_filter]
    exact sum_range_sumWhere _ fun i hi => hitems i (List.mem_of_mem_filter hi)
  have hreturned : ∑ k ∈ Finset.range db.sales.sales.length,
      sumWhere (fun i => i.val.OfSale db k ∧ ReturnedItem db f i) (fun i => i.val.refunded)
        db.sales.returnItems = sumReturned db f SaleReturnItem.refunded := by
    -- the sale of a return item, as a key
    have hkey : ∀ i ∈ db.sales.returnItems, ∀ k, i.val.OfSale db k ↔
        (db.sales.returns[i.val.saleReturnId]?.map (·.val.saleId)).getD 0 = k := by
      intro i hi k
      obtain ⟨saleId, -, hof⟩ := hrows i hi
      unfold SaleReturnItem.OfSale at hof ⊢
      simp [hof]
    have hrewrite : ∀ k, sumWhere (fun i => i.val.OfSale db k ∧ ReturnedItem db f i)
        (fun i => i.val.refunded) db.sales.returnItems
        = sumWhere (fun i => (db.sales.returns[i.val.saleReturnId]?.map (·.val.saleId)).getD 0 = k)
            (fun i => i.val.refunded) (db.sales.returnItems.filter (ReturnedItem db f ·)) := by
      intro k
      rw [sumWhere_filter]
      exact sumWhere_congr (fun i hi => by rw [hkey i hi k]) fun _ _ _ => rfl
    simp only [hrewrite]
    refine sum_range_sumWhere _ fun i hi => ?_
    obtain ⟨saleId, hlt, hof⟩ := hrows i (List.mem_of_mem_filter hi)
    rwa [(hkey i (List.mem_of_mem_filter hi) saleId).mp hof]
  rw [h.netSales, ← hgross, ← hreturned, ← Finset.sum_sub_distrib]
  rfl

end Figures

end GroceryErp
