import GroceryErp.Lib.Grouping
import GroceryErp.Sales.SalesSummary

/-!
# Breakdowns of the sales summary

The same items and return items, summed up by store, by product and by day.  Every breakdown
groups the two queries of the summary on their own and joins the groups by their keys, so that a
store, a product or a day that has returns only has a row of its own.

## Main definitions

* `grossRows`, `returnedRows` — the rows of the two queries, joined with their headers.
* `salesByStore`, `salesByProduct`, `salesTrendByDay` — the service functions.
* `SalesReferenced` — items have their products, and return items their items.
* `SalesByDimensionRow.SumTo`, `SalesTrendPoint.SumTo` — rows that add up to a summary.

## Main results

* `salesByStore_sumTo`, `salesByProduct_sumTo`, `salesTrendByDay_sumTo` — the breakdowns add up.

## References

`backend/app/modules/reports/service.py`, `_returns_by`, `sales_by_store`, `sales_by_product`,
`sales_trend_by_day`; `docs/M11_DESIGN.md`.
-/

namespace GroceryErp

open Grouping Outcome Rows

/-! ### The rows selected -/

/-- The rows of the query for gross sales: items with their sales. -/
def grossRows (db : Db) (f : ReportScope) : List (SaleItem × Sale) :=
  db.sales.items.filterMap fun i => do
    let sale ← db.sales.sales[i.val.saleId]?
    guard (sale.val.status ∈ grossSaleStatuses ∧ f.Has sale.val.storeId sale.val.completedAt)
    return (i.val, sale.val)

/-- The rows of the query for returns: return items with their returns. -/
def returnedRows (db : Db) (f : ReportScope) : List (SaleReturnItem × SaleReturn) :=
  db.sales.returnItems.filterMap fun i => do
    let r ← db.sales.returns[i.val.saleReturnId]?
    let sale ← db.sales.sales[r.val.saleId]?
    guard (sale.val.status ≠ .voided ∧ f.Has r.val.storeId (returnBusinessDate r.val))
    return (i.val, r.val)

/-- The number of sales that some rows are of. -/
def countSales (rows : List (SaleItem × Sale)) : ℕ := (distinct (rows.map (·.1.saleId))).length

/-- Gross sales, their cost, the units and the transactions of some rows. -/
def grossColumns (rows : List (SaleItem × Sale)) : ℚ × ℚ × ℚ × ℕ :=
  ((rows.map (·.1.gross)).sum, (rows.map (·.1.cost)).sum, (rows.map (·.1.quantity)).sum,
    countSales rows)

/-- What is refunded, the cost taken back and the units of some rows. -/
def returnedColumns (rows : List (SaleReturnItem × SaleReturn)) : ℚ × ℚ × ℚ :=
  ((rows.map (·.1.refunded)).sum, (rows.map (·.1.costReversed)).sum, (rows.map (·.1.quantity)).sum)

/-- `_returns_by`: the returned items of a scope, summed by a column. -/
def returnsBy {κ : Type} [DecidableEq κ] (db : Db) (f : ReportScope)
    (groupCol : SaleReturnItem × SaleReturn → κ) : List (κ × ℚ × ℚ × ℚ) :=
  groupBy groupCol returnedColumns (returnedRows db f)

/-! ### The reports -/

structure SalesByDimensionRow where
  key : ℕ
  label : String
  grossSales : ℚ
  returns : ℚ
  netSales : ℚ
  cogs : ℚ
  unitsSold : ℚ
  transactionCount : ℕ
  deriving DecidableEq

/-- The row of a key, which both breakdowns by dimension write in the same way. -/
def dimensionRow (key : ℕ) (label : String) (gross : ℚ × ℚ × ℚ × ℕ) (returned : ℚ × ℚ × ℚ) :
    SalesByDimensionRow where
  key := key
  label := label
  grossSales := gross.1
  returns := returned.1
  netSales := gross.1 - returned.1
  cogs := gross.2.1 - returned.2.1
  unitsSold := gross.2.2.1 - returned.2.2
  transactionCount := gross.2.2.2

/-- `sales_by_store`: a row for every store with sales or returns in the scope. -/
def salesByStore (db : Db) (f : ReportScope) : Result (List SalesByDimensionRow) := do
  validateDateRange f.dateFrom f.dateTo
  let gross := groupBy (·.2.storeId) grossColumns (grossRows db f)
  let returned := returnsBy db f (·.2.storeId)
  return (mergedKeys (gross.map Prod.fst) (returned.map Prod.fst)).map fun storeId =>
    dimensionRow storeId (toString storeId) (get gross storeId 0) (get returned storeId 0)

/-- The rows of the query for gross sales, joined with their products. -/
def productRows (db : Db) (f : ReportScope) : List ((SaleItem × Sale) × Product) :=
  (grossRows db f).filterMap fun x => do
    let p ← db.stock.products[x.1.productId]?
    return (x, p.val)

/-- Gross sales by product, with its name: one row for each product that was sold in scope. -/
def grossByProduct (db : Db) (f : ReportScope) : List (ℕ × Option String × ℚ × ℚ × ℚ × ℕ) :=
  (groupBy (fun x => (x.1.1.productId, x.2.name)) (fun rows => grossColumns (rows.map Prod.fst))
    (productRows db f)).map fun e => (e.1.1, some e.1.2, e.2)

/-- Returns by product, which a return item has through its item only. -/
def returnsByProduct (db : Db) (f : ReportScope) : List (ℕ × ℚ × ℚ × ℚ) :=
  collect (fun saleItemId => db.sales.items[saleItemId]?.map (·.val.productId))
    (returnsBy db f (·.1.saleItemId))

/-- The name of a product, or its key where it has none. -/
def productLabel (productId : ℕ) (name : Option String) : String :=
  (name.filter (· ≠ "")).getD ("Product " ++ toString productId)

/-- `sales_by_product`: a row for every product with sales or returns in the scope, labelled by its
name where a sale has one. -/
def salesByProduct (db : Db) (f : ReportScope) : Result (List SalesByDimensionRow) := do
  validateDateRange f.dateFrom f.dateTo
  let gross := grossByProduct db f
  let returned := returnsByProduct db f
  return (mergedKeys (gross.map Prod.fst) (returned.map Prod.fst)).map fun productId =>
    let row := get gross productId (none, 0)
    dimensionRow productId (productLabel productId row.1) row.2 (get returned productId 0)

structure SalesTrendPoint where
  saleDate : Date
  grossSales : ℚ
  returns : ℚ
  netSales : ℚ
  transactionCount : ℕ
  deriving DecidableEq

/-- `sales_trend_by_day`, which has no range without its two ends. -/
def salesTrendByDay (db : Db) (storeIds : Option (List ℕ)) (dateFrom dateTo : Date) :
    Result (List SalesTrendPoint) := do
  let f : ReportScope := ⟨storeIds, dateFrom, dateTo⟩
  validateDateRange f.dateFrom f.dateTo
  let gross := groupBy (·.2.completedAt) (fun rows => ((rows.map (·.1.gross)).sum, countSales rows))
    (grossRows db f)
  let returned := groupBy (fun x => returnBusinessDate x.2) (fun rows => (rows.map (·.1.refunded)).sum)
    (returnedRows db f)
  return (mergedKeys (gross.map Prod.fst) (returned.map Prod.fst)).map fun day =>
    let row := get gross day 0
    let amount := get returned day 0
    ⟨day, row.1, amount, row.1 - amount, row.2⟩

/-! ### What they add up to -/

/-- Items have their products, and return items their items. -/
structure SalesReferenced (db : Db) : Prop where
  products : ∀ i ∈ db.sales.items, i.val.productId < db.stock.products.length
  items : ∀ r ∈ db.sales.returnItems, r.val.saleItemId < db.sales.items.length

/-- The rows add up to the summary, in sales, returns, cost and units. -/
structure SalesByDimensionRow.SumTo (rows : List SalesByDimensionRow) (s : SalesSummary) :
    Prop where
  grossSales : (rows.map (·.grossSales)).sum = s.grossSales
  returns : (rows.map (·.returns)).sum = s.returns
  netSales : (rows.map (·.netSales)).sum = s.netSales
  cogs : (rows.map (·.cogs)).sum = s.cogs
  unitsSold : (rows.map (·.unitsSold)).sum = s.unitsSold

/-- The points add up to the summary, in gross sales, returns and net sales. -/
structure SalesTrendPoint.SumTo (points : List SalesTrendPoint) (s : SalesSummary) : Prop where
  grossSales : (points.map (·.grossSales)).sum = s.grossSales
  returns : (points.map (·.returns)).sum = s.returns
  netSales : (points.map (·.netSales)).sum = s.netSales

section Sums

variable {db : Db} {f : ReportScope} {auditLogs : List AuditLog} {s : SalesSummary}

/-- The figures of a summary, as sums over the rows. -/
theorem salesSummary_sums (h : salesSummary db auditLogs f = .ok s) :
    s.grossSales = sumGross db f SaleItem.gross ∧
      s.returns = sumReturned db f SaleReturnItem.refunded ∧
      s.unitsSold = sumGross db f (·.quantity) - sumReturned db f (·.quantity) := by
  unfold salesSummary at h
  simp only [↓check_bind_eq_ok, pure_eq_ok] at h
  obtain ⟨-, rfl⟩ := h
  exact ⟨rfl, rfl, rfl⟩

theorem validateDateRange_of_salesSummary (h : salesSummary db auditLogs f = .ok s) :
    validateDateRange f.dateFrom f.dateTo = .ok () := by
  unfold salesSummary at h
  rw [check_bind_eq_ok] at h
  exact h.1

theorem sum_grossRows (db : Db) (f : ReportScope) (g : SaleItem → ℚ) :
    ((grossRows db f).map fun x => g x.1).sum = sumGross db f g := by
  refine sum_map_filterMap (fun i _ h => ?_) fun i _ h => ?_
  · obtain ⟨sale, hsale, hin⟩ := h
    refine ⟨(i.val, sale.val), ?_, rfl⟩
    rw [Option.mem_def.mp hsale]
    simp [hin]
  · cases hsale : db.sales.sales[i.val.saleId]? with
    | none => rfl
    | some sale =>
      have hout : ¬(sale.val.status ∈ grossSaleStatuses ∧
          f.Has sale.val.storeId sale.val.completedAt) := fun hin => h ⟨sale, hsale, hin⟩
      simp [guard, hout]

theorem sum_returnedRows (db : Db) (f : ReportScope) (g : SaleReturnItem → ℚ) :
    ((returnedRows db f).map fun x => g x.1).sum = sumReturned db f g := by
  refine sum_map_filterMap (fun i _ h => ?_) fun i _ h => ?_
  · obtain ⟨r, hr, ⟨sale, hsale, hlive⟩, hin⟩ := h
    refine ⟨(i.val, r.val), ?_, rfl⟩
    rw [Option.mem_def.mp hr]
    simp [Option.mem_def.mp hsale, hlive, hin]
  · cases hr : db.sales.returns[i.val.saleReturnId]? with
    | none => rfl
    | some r =>
      cases hsale : db.sales.sales[r.val.saleId]? with
      | none => simp [hsale]
      | some sale =>
        have hout : ¬(sale.val.status ≠ .voided ∧ f.Has r.val.storeId (returnBusinessDate r.val)) :=
          fun hin => h ⟨r, hr, ⟨sale, hsale, hin.1⟩, hin.2⟩
        simp [hsale, guard, hout]

/-- Rows add up to the summary where the columns they are made of do. -/
theorem sumTo_dimensionRows (h : salesSummary db auditLogs f = .ok s) {keys : List ℕ}
    {label : ℕ → String} {gross : ℕ → ℚ × ℚ × ℚ × ℕ} {returned : ℕ → ℚ × ℚ × ℚ}
    (hgross : (keys.map fun k => (gross k).1).sum = sumGross db f SaleItem.gross)
    (hcost : (keys.map fun k => (gross k).2.1).sum = sumGross db f SaleItem.cost)
    (hunits : (keys.map fun k => (gross k).2.2.1).sum = sumGross db f (·.quantity))
    (hrefunded : (keys.map fun k => (returned k).1).sum = sumReturned db f SaleReturnItem.refunded)
    (hreversed : (keys.map fun k => (returned k).2.1).sum
      = sumReturned db f SaleReturnItem.costReversed)
    (hreturned : (keys.map fun k => (returned k).2.2).sum = sumReturned db f (·.quantity)) :
    SalesByDimensionRow.SumTo
      (keys.map fun k => dimensionRow k (label k) (gross k) (returned k)) s := by
  have hreads := salesSummary_ok h
  obtain ⟨hs, hr, hu⟩ := salesSummary_sums h
  constructor
  · rw [List.map_map, hs, ← hgross]
    rfl
  · rw [List.map_map, hr, ← hrefunded]
    rfl
  · rw [List.map_map, hreads.netSales, ← hgross, ← hrefunded, ← sum_map_sub]
    rfl
  · rw [List.map_map, hreads.cogs, ← hcost, ← hreversed, ← sum_map_sub]
    rfl
  · rw [List.map_map, hu, ← hunits, ← hreturned, ← sum_map_sub]
    rfl

/-- A column of the groups of the query for returns. -/
theorem sum_returnsBy {κ : Type} [DecidableEq κ] (groupCol : SaleReturnItem × SaleReturn → κ) :
    ((returnsBy db f groupCol).map Prod.snd).sum
      = (sumReturned db f SaleReturnItem.refunded, sumReturned db f SaleReturnItem.costReversed,
          sumReturned db f (·.quantity)) := by
  have hcolumns : ∀ rows : List (SaleReturnItem × SaleReturn), returnedColumns rows
      = (rows.map fun x => (x.1.refunded, x.1.costReversed, x.1.quantity)).sum := by
    intro rows
    rw [sum_columns]
    simp only [List.map_map, Function.comp_def, returnedColumns]
  have hsum := @sum_groupBy _ _ _ _ _ _ groupCol returnedColumns id _ hcolumns (returnedRows db f)
  rw [← hcolumns] at hsum
  unfold returnsBy
  refine hsum.trans ?_
  unfold returnedColumns
  rw [sum_returnedRows, sum_returnedRows, sum_returnedRows]

/-- The columns read from the groups of returns. -/
theorem sum_get_returned {d : List (ℕ × ℚ × ℚ × ℚ)} {keys : List ℕ}
    (hd : (d.map Prod.fst).Nodup) (hkeys : keys.Nodup) (hsub : ∀ k ∈ d.map Prod.fst, k ∈ keys)
    {a b c : ℚ} (hsum : (d.map Prod.snd).sum = (a, b, c)) :
    (keys.map fun k => (get d k 0).1).sum = a ∧ (keys.map fun k => (get d k 0).2.1).sum = b ∧
      (keys.map fun k => (get d k 0).2.2).sum = c := by
  have hall : (keys.map fun k => get d k 0).sum = (a, b, c) :=
    (sum_get (g := id) hd hkeys hsub rfl).trans hsum
  rw [sum_columns] at hall
  simpa only [List.map_map, Function.comp_def, Prod.mk.injEq] using hall

/-- The columns of the groups of the query for gross sales. -/
theorem sum_get_gross {β : Type} {d : List (ℕ × β)} {keys : List ℕ} {g : β → ℚ × ℚ × ℚ × ℕ} {z : β}
    (hd : (d.map Prod.fst).Nodup) (hkeys : keys.Nodup) (hsub : ∀ k ∈ d.map Prod.fst, k ∈ keys)
    (hz : g z = 0) {a b c : ℚ} (ha : (d.map fun e => (g e.2).1).sum = a)
    (hb : (d.map fun e => (g e.2).2.1).sum = b) (hc : (d.map fun e => (g e.2).2.2.1).sum = c) :
    (keys.map fun k => (g (get d k z)).1).sum = a ∧
      (keys.map fun k => (g (get d k z)).2.1).sum = b ∧
      (keys.map fun k => (g (get d k z)).2.2.1).sum = c :=
  ⟨(sum_get (g := fun v => (g v).1) hd hkeys hsub (by rw [hz]; rfl)).trans ha,
    (sum_get (g := fun v => (g v).2.1) hd hkeys hsub (by rw [hz]; rfl)).trans hb,
    (sum_get (g := fun v => (g v).2.2.1) hd hkeys hsub (by rw [hz]; rfl)).trans hc⟩

/-- **The rows by store add up to the summary.** -/
theorem salesByStore_sumTo (h : salesSummary db auditLogs f = .ok s) :
    ∃ rows, salesByStore db f = .ok rows ∧ SalesByDimensionRow.SumTo rows s := by
  let gross := groupBy (·.2.storeId) grossColumns (grossRows db f)
  let returned := returnsBy db f (·.2.storeId)
  have hgross : (gross.map Prod.fst).Nodup := by
    rw [map_fst_groupBy]
    exact nodup_distinct _
  have hreturned : (returned.map Prod.fst).Nodup := by
    unfold returned returnsBy
    rw [map_fst_groupBy]
    exact nodup_distinct _
  have hkeys := nodup_mergedKeys (gross.map Prod.fst) (returned.map Prod.fst)
  obtain ⟨hamount, hcost, hunits⟩ := sum_get_gross (g := id) (z := 0) hgross hkeys
    (fun k hk => mem_mergedKeys.mpr (.inl hk)) rfl
    (sum_groupBy (g := fun v : ℚ × ℚ × ℚ × ℕ => v.1) (fun rows => rfl) (grossRows db f))
    (sum_groupBy (g := fun v : ℚ × ℚ × ℚ × ℕ => v.2.1) (fun rows => rfl) (grossRows db f))
    (sum_groupBy (g := fun v : ℚ × ℚ × ℚ × ℕ => v.2.2.1) (fun rows => rfl) (grossRows db f))
  obtain ⟨hrefunded, hreversed, hback⟩ := sum_get_returned hreturned hkeys
    (fun k hk => mem_mergedKeys.mpr (.inr hk)) (sum_returnsBy _)
  refine ⟨_, check_bind_eq_ok.mpr ⟨validateDateRange_of_salesSummary h, rfl⟩, ?_⟩
  exact sumTo_dimensionRows h (hamount.trans (sum_grossRows db f _))
    (hcost.trans (sum_grossRows db f _)) (hunits.trans (sum_grossRows db f (·.quantity)))
    hrefunded hreversed hback

/-- The rows selected are of items, and of return items. -/
theorem exists_of_mem_grossRows {x : SaleItem × Sale} (hx : x ∈ grossRows db f) :
    ∃ i ∈ db.sales.items, i.val = x.1 := by
  obtain ⟨i, hi, hsel⟩ := List.mem_filterMap.mp hx
  simp only [Option.bind_eq_bind, Option.bind_eq_some_iff, Option.guard_eq_some', Option.pure_def,
    Option.some.injEq] at hsel
  obtain ⟨sale, -, -, -, rfl⟩ := hsel
  exact ⟨i, hi, rfl⟩

theorem exists_of_mem_returnedRows {x : SaleReturnItem × SaleReturn} (hx : x ∈ returnedRows db f) :
    ∃ i ∈ db.sales.returnItems, i.val = x.1 := by
  obtain ⟨i, hi, hsel⟩ := List.mem_filterMap.mp hx
  simp only [Option.bind_eq_bind, Option.bind_eq_some_iff, Option.guard_eq_some', Option.pure_def,
    Option.some.injEq] at hsel
  obtain ⟨r, -, sale, -, -, -, rfl⟩ := hsel
  exact ⟨i, hi, rfl⟩

/-- The join with the products leaves no item out. -/
theorem sum_productRows (hdb : SalesReferenced db) (g : SaleItem → ℚ) :
    ((productRows db f).map fun x => g x.1.1).sum = sumGross db f g := by
  have hjoin : ((productRows db f).map fun x => g x.1.1).sum
      = sumWhere (fun _ => True) (fun x => g x.1) (grossRows db f) := by
    refine sum_map_filterMap (fun x hx _ => ?_) fun _ _ h => absurd trivial h
    obtain ⟨i, hi, hval⟩ := exists_of_mem_grossRows hx
    have hlt := hdb.products i hi
    rw [hval] at hlt
    refine ⟨(x, db.stock.products[x.1.productId].val), ?_, rfl⟩
    rw [List.getElem?_eq_getElem hlt]
    rfl
  rw [hjoin, ← sum_grossRows]
  simp [sumWhere]

/-- A product has one name, so grouping by key and name is grouping by key. -/
theorem nodup_keys_grossByProduct (db : Db) (f : ReportScope) :
    ((grossByProduct db f).map Prod.fst).Nodup := by
  have hname : ∀ x ∈ productRows db f,
      db.stock.products[x.1.1.productId]?.map (·.val.name) = some x.2.name := by
    intro x hx
    obtain ⟨y, -, hsel⟩ := List.mem_filterMap.mp hx
    simp only [Option.bind_eq_bind, Option.bind_eq_some_iff, Option.pure_def,
      Option.some.injEq] at hsel
    obtain ⟨p, hp, rfl⟩ := hsel
    rw [hp]
    rfl
  have hkeys : (grossByProduct db f).map Prod.fst
      = (distinct ((productRows db f).map fun x => (x.1.1.productId, x.2.name))).map Prod.fst := by
    unfold grossByProduct
    rw [← map_fst_groupBy _ fun rows : List ((SaleItem × Sale) × Product) =>
      grossColumns (rows.map Prod.fst), List.map_map, List.map_map]
    rfl
  rw [hkeys]
  refine List.Nodup.map_on ?_ (nodup_distinct _)
  intro a ha b hb hab
  rw [mem_distinct] at ha hb
  obtain ⟨x, hx, rfl⟩ := List.mem_map.mp ha
  obtain ⟨y, hy, rfl⟩ := List.mem_map.mp hb
  have hsame : some x.2.name = some y.2.name := by
    rw [← hname x hx, ← hname y hy]
    exact congrArg (fun k => db.stock.products[k]?.map (·.val.name)) hab
  exact Prod.ext hab (Option.some.inj hsame)

/-- A column of the groups by product. -/
theorem sum_grossByProduct (hdb : SalesReferenced db) {g : ℚ × ℚ × ℚ × ℕ → ℚ} {column : SaleItem → ℚ}
    (hg : ∀ rows, g (grossColumns rows) = (rows.map fun x => column x.1).sum) :
    ((grossByProduct db f).map fun e => g e.2.2).sum = sumGross db f column := by
  unfold grossByProduct
  rw [← sum_productRows hdb, List.map_map]
  refine sum_groupBy (fun rows => ?_) (productRows db f)
  rw [hg, List.map_map]
  rfl

/-- **So do the rows by product**, where items have their products and return items their
items. -/
theorem salesByProduct_sumTo (hdb : SalesReferenced db) (h : salesSummary db auditLogs f = .ok s) :
    ∃ rows, salesByProduct db f = .ok rows ∧ SalesByDimensionRow.SumTo rows s := by
  have hreturned : ((returnsByProduct db f).map Prod.fst).Nodup := nodup_keys_collect _ _
  have hkeys := nodup_mergedKeys ((grossByProduct db f).map Prod.fst)
    ((returnsByProduct db f).map Prod.fst)
  obtain ⟨hamount, hcost, hunits⟩ := sum_get_gross (g := Prod.snd) (z := (none, 0))
    (nodup_keys_grossByProduct db f) hkeys (fun k hk => mem_mergedKeys.mpr (.inl hk)) rfl
    (sum_grossByProduct hdb (g := fun v => v.1) fun rows => rfl)
    (sum_grossByProduct hdb (g := fun v => v.2.1) fun rows => rfl)
    (sum_grossByProduct hdb (g := fun v => v.2.2.1) fun rows => rfl)
  have hcollected : ((returnsByProduct db f).map Prod.snd).sum
      = ((returnsBy db f (·.1.saleItemId)).map Prod.snd).sum := by
    refine sum_collect fun saleItemId hid => ?_
    unfold returnsBy at hid
    rw [map_fst_groupBy, mem_distinct] at hid
    obtain ⟨x, hx, rfl⟩ := List.mem_map.mp hid
    obtain ⟨i, hi, hval⟩ := exists_of_mem_returnedRows hx
    have hlt := hdb.items i hi
    rw [hval] at hlt
    rw [List.getElem?_eq_getElem hlt]
    exact Option.some_ne_none _
  obtain ⟨hrefunded, hreversed, hback⟩ := sum_get_returned hreturned hkeys
    (fun k hk => mem_mergedKeys.mpr (.inr hk)) (hcollected.trans (sum_returnsBy _))
  refine ⟨_, check_bind_eq_ok.mpr ⟨validateDateRange_of_salesSummary h, rfl⟩, ?_⟩
  exact sumTo_dimensionRows h hamount hcost hunits hrefunded hreversed hback

/-- **So do the points of the trend.** -/
theorem salesTrendByDay_sumTo {storeIds : Option (List ℕ)} {dateFrom dateTo : Date}
    (h : salesSummary db auditLogs ⟨storeIds, some dateFrom, some dateTo⟩ = .ok s) :
    ∃ points, salesTrendByDay db storeIds dateFrom dateTo = .ok points ∧
      SalesTrendPoint.SumTo points s := by
  let f : ReportScope := ⟨storeIds, some dateFrom, some dateTo⟩
  let gross := groupBy (·.2.completedAt)
    (fun rows : List (SaleItem × Sale) => ((rows.map (·.1.gross)).sum, countSales rows)) (grossRows db f)
  let returned := groupBy (fun x => returnBusinessDate x.2)
    (fun rows : List (SaleReturnItem × SaleReturn) => (rows.map (·.1.refunded)).sum)
    (returnedRows db f)
  let keys := mergedKeys (gross.map Prod.fst) (returned.map Prod.fst)
  have hgross : (gross.map Prod.fst).Nodup := by
    rw [map_fst_groupBy]
    exact nodup_distinct _
  have hreturned : (returned.map Prod.fst).Nodup := by
    rw [map_fst_groupBy]
    exact nodup_distinct _
  have hkeys : keys.Nodup := nodup_mergedKeys _ _
  -- a day that only one of the two queries has counts zero in the other
  have hamount : (keys.map fun k => (get gross k 0).1).sum = sumGross db f SaleItem.gross := by
    rw [← sum_grossRows]
    exact (sum_get (g := Prod.fst) hgross hkeys (fun k hk => mem_mergedKeys.mpr (.inl hk)) rfl).trans
      (sum_groupBy (g := Prod.fst) (fun _ => rfl) _)
  have hrefunded : (keys.map fun k => get returned k 0).sum
      = sumReturned db f SaleReturnItem.refunded := by
    rw [← sum_returnedRows]
    exact (sum_get (g := id) hreturned hkeys (fun k hk => mem_mergedKeys.mpr (.inr hk)) rfl).trans
      (sum_groupBy (g := id) (fun _ => rfl) _)
  obtain ⟨hs, hr, -⟩ := salesSummary_sums h
  refine ⟨_, check_bind_eq_ok.mpr ⟨validateDateRange_of_salesSummary h, rfl⟩, ?_, ?_, ?_⟩
  · rw [List.map_map, hs]
    exact hamount
  · rw [List.map_map, hr]
    exact hrefunded
  · rw [List.map_map, (salesSummary_ok h).netSales]
    -- a point nets day by day, and the sum of differences is the difference of the sums
    refine Eq.trans ?_ (congrArg₂ (· - ·) hamount hrefunded)
    exact sum_map_sub (fun k => (get gross k 0).1) (fun k => get returned k 0) keys

end Sums

end GroceryErp
