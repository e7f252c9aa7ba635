import GroceryErp.Sales.Breakdowns
import GroceryErp.System.OversoldCounts
import GroceryErp.System.ReturnReplays

/-!
# The breakdowns over runs

Products are never deleted, sales and returns neither, and each is written with the keys of rows
that are there.  So the joins of the breakdowns leave nothing out, whatever has happened.

## Main definitions

* `BackOfficeEvent` — a request on stock or on shifts, or anything that leaves sales alone.

## Main results

* `SalesReferenced.exec` — no event takes a product from an item, or an item from a return item.
* `breakdowns_sumTo` — by store, by product and by day, the rows add up to the summary.

## References

`backend/app/modules/reports/service.py`.
-/

namespace GroceryErp

open Outcome Rows Runs

/-- A request on stock, sales or shifts, or a change of other tables: a product may be added to the
catalogue, or be given another name or price. -/
inductive BackOfficeEvent
  | request (r : TillRequest)
  | elsewhere (db : Db)

namespace BackOfficeEvent

def exec : BackOfficeEvent → Db → Result Db
  | request r, db => r.exec db
  | elsewhere db', _ => .ok db'

/-- A change elsewhere leaves sales alone and deletes no product. -/
def Permitted (db : Db) : BackOfficeEvent → Prop
  | request _ => True
  | elsewhere db' => db'.sales = db.sales ∧ db.stock.products.length ≤ db'.stock.products.length

end BackOfficeEvent

variable {db₀ db db' : Db}

theorem Db.BeforeSales.referenced (h : db.BeforeSales) : SalesReferenced db where
  products := by simp [h.items]
  items := by simp [h.return_items]

/-- Where sales are left alone, and no product is deleted, they keep their products. -/
theorem SalesReferenced.of_eq (h : SalesReferenced db) (hsales : db'.sales = db.sales)
    (hproducts : db.stock.products.length ≤ db'.stock.products.length) : SalesReferenced db' where
  products := by
    rw [hsales]
    exact fun i hi => (h.products i hi).trans_le hproducts
  items := by
    rw [hsales]
    exact h.items

/-- A sale is of products that are there. -/
theorem SalesReferenced.finalizeSale {req : FinalizeSale} {saleId : ℕ} (h : SalesReferenced db)
    (hproducts : db'.stock.products.length = db.stock.products.length)
    (hrun : GroceryErp.finalizeSale db req = .ok (db', saleId)) : SalesReferenced db' := by
  rcases finalizeSale_ok hrun with ⟨-, -, rfl⟩ | ⟨-, cart, changeDue, d, hc, hw, hj⟩
  · exact h
  obtain ⟨-, shiftId, sale, items, payments, -, hitems, -, hd⟩ := writeSale_ok hw
  have hall : db'.sales.items = db.sales.items ++ items := by rw [postJournal_frame hj, hd]
  have hrows : db'.sales.returnItems = db.sales.returnItems := by rw [postJournal_frame hj, hd]
  constructor
  · rw [hall, hproducts]
    intro i hi
    rcases List.mem_append.mp hi with hi | hi
    · exact h.products i hi
    · obtain ⟨c, hmem, hval⟩ := exists_of_map_eq hitems hi
      obtain ⟨line, -, -, hok⟩ := exists_line_of_checkout hc c hmem
      obtain ⟨p, rateId, rate, hp, -, -, rfl⟩ := priceLine_eq_ok.mp hok
      rw [← hval]
      exact (List.getElem?_eq_some_iff.mp hp).1
  · rw [hrows, hall, List.length_append]
    exact fun r hr => (h.items r hr).trans_le (Nat.le_add_right _ _)

/-- A return is of items that are there. -/
theorem SalesReferenced.createSaleReturn {req : CreateSaleReturn} {saleReturnId : ℕ}
    (h : SalesReferenced db) (hproducts : db'.stock.products.length = db.stock.products.length)
    (hrun : GroceryErp.createSaleReturn db req = .ok (db', saleReturnId)) :
    SalesReferenced db' := by
  rcases createSaleReturn_written hrun with ⟨-, rfl⟩ | ⟨-, lines, hwritten⟩
  · exact h
  obtain ⟨rows, hrows, hvals⟩ := hwritten.rows
  constructor
  · refine hwritten.items_kept.forall_mem h.products fun i old new hold hnew => ?_
    rw [hnew, hproducts]
    exact hold
  · rw [hrows, hwritten.length_items]
    intro r hr
    rcases List.mem_append.mp hr with hr | hr
    · exact h.items r hr
    · obtain ⟨l, hl, hval⟩ := exists_of_map_eq hvals hr
      rw [← hval]
      exact (List.getElem?_eq_some_iff.mp (hwritten.planned l hl).loaded).1

/-- **No request takes a product from an item, or an item from a return item.** -/
theorem SalesReferenced.run {r : TillRequest} (h : SalesReferenced db) (hrun : r.run db = .ok db') :
    SalesReferenced db' := by
  cases r with
  | stock s =>
    have hproducts := (run_stockBooked hrun).length_products
    cases s with
    | finalizeSale req =>
      obtain ⟨⟨d, i⟩, hrow, rfl⟩ := map_eq_ok.mp hrun
      exact h.finalizeSale hproducts hrow
    | createSaleReturn req =>
      obtain ⟨⟨d, i⟩, hrow, rfl⟩ := map_eq_ok.mp hrun
      exact h.createSaleReturn hproducts hrow
    | voidSale req =>
      obtain ⟨⟨d, i⟩, hrow, rfl⟩ := map_eq_ok.mp hrun
      exact h.createSaleReturn hproducts (voidSale_ok hrow)
    | _ =>
      exact h.of_eq (TillRequest.sales_kept (fun s hs => by cases hs; exact id) hrun) hproducts.ge
  | openShift _ | recordCashMovement _ | closeShift _ =>
    have hframe := TillRequest.shift_frame (fun s hs => by cases hs) hrun
    exact h.of_eq (by rw [hframe]) (by rw [hframe])

/-- **Nor does any event**: sales always refer to products and stores that are there. -/
theorem SalesReferenced.exec {e : BackOfficeEvent} (h : SalesReferenced db)
    (hpermitted : e.Permitted db) (hdone : e.exec db = .ok db') : SalesReferenced db' := by
  cases e with
  | request r =>
    obtain ⟨d, hrun, rfl⟩ := map_eq_ok.mp hdone
    have hcommit : d.stock.products.length ≤ d.commit.stock.products.length :=
      (List.length_map _).ge
    exact (h.run hrun).of_eq rfl hcommit
  | elsewhere d =>
    obtain rfl := Except.ok.inj hdone
    exact h.of_eq hpermitted.1 hpermitted.2

theorem salesReferenced_of_reaches (start : db₀.BeforeSales)
    (run : Reaches BackOfficeEvent.exec BackOfficeEvent.Permitted db₀ db) : SalesReferenced db :=
  run.invariant start.referenced fun _ _ _ hdb hpermitted hdone => hdb.exec hpermitted hdone

/-- **After any run, by store, by product and by day, the rows add up to the summary**: no item
and no return item is lost, or counted twice, by a breakdown. -/
theorem breakdowns_sumTo {auditLogs : List AuditLog} {f : ReportScope} {s : SalesSummary}
    (start : db₀.BeforeSales)
    (run : Reaches BackOfficeEvent.exec BackOfficeEvent.Permitted db₀ db)
    (h : salesSummary db auditLogs f = .ok s) :
    (∃ rows, salesByStore db f = .ok rows ∧ SalesByDimensionRow.SumTo rows s) ∧
    (∃ rows, salesByProduct db f = .ok rows ∧ SalesByDimensionRow.SumTo rows s) ∧
    ∀ dateFrom ∈ f.dateFrom, ∀ dateTo ∈ f.dateTo, ∃ points,
      salesTrendByDay db f.storeIds dateFrom dateTo = .ok points ∧
        SalesTrendPoint.SumTo points s := by
  refine ⟨salesByStore_sumTo h, salesByProduct_sumTo (salesReferenced_of_reaches start run) h, ?_⟩
  intro dateFrom hfrom dateTo hto
  have hrange : salesSummary db auditLogs ⟨f.storeIds, some dateFrom, some dateTo⟩ = .ok s := by
    rw [← h, ← Option.mem_def.mp hfrom, ← Option.mem_def.mp hto]
  exact salesTrendByDay_sumTo hrange

/-- The day on which cheese is sold and comes back. -/
def firstDay : ReportScope := { dateFrom := some 0, dateTo := some 0 }

/-- Two kilos are sold and one comes back; what is left is one kilo of one product. -/
theorem breakdowns_sumTo_cheese :
    ∃ rows, salesByProduct oneKiloLeft firstDay = .ok rows ∧
      rows.map (fun r => (r.key, r.grossSales, r.returns, r.unitsSold)) = [(0, 20, 10, 1)] ∧
      ∃ s, salesSummary oneKiloLeft [] firstDay = .ok s ∧ (rows.map (·.netSales)).sum = s.netSales := by
  have hsummary := eq_ok_value (salesSummary oneKiloLeft [] firstDay) (by decide +kernel)
  have hrun : Reaches BackOfficeEvent.exec BackOfficeEvent.Permitted cheeseTill.db oneKiloLeft :=
    .next (r := .request (.stock (.createSaleReturn (kiloBack [1]))))
      (.next (r := .request (.stock (.finalizeSale (cashSale 2 20)))) .start trivial
        (eq_ok_value _ _)) trivial (eq_ok_value _ _)
  obtain ⟨-, ⟨rows, hrows, hsum⟩, -⟩ := breakdowns_sumTo cheeseTill_beforeSales hrun hsummary
  refine ⟨rows, hrows, ?_, _, hsummary, hsum.netSales⟩
  have hvalue : (salesByProduct oneKiloLeft firstDay).toOption.map
      (·.map fun r => (r.key, r.grossSales, r.returns, r.unitsSold)) = some [(0, 20, 10, 1)] := by
    decide +kernel
  rw [hrows] at hvalue
  exact Option.some.inj hvalue

end GroceryErp
