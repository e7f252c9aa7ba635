import GroceryErp.Lib.Runs
import GroceryErp.Sales.Splits
import GroceryErp.Sales.Totals

/-!
# What a till pays back

Sales, returns and voids as they follow each other, with the refunds that were
computed for each sale item along the way.

## Main definitions

* `SalesRequest`, `Till.exec` — the requests, and one request on the tables.
* `Till.refundedFor` — the refunds computed for a sale item so far.
* `SafeRequest` — a sale of safe lines, a return of whole thousandths, any void.

## Main results

* `finalizeSale_items` — the items a sale writes are fresh ones of its lines.
* `Till.Sound.exec` — every safe request keeps the refunds of every item those of a
  sequence of valid returns.
* `refunds_match_line_totals_iff` — the refunds of safe items are their line totals,
  and of no others.
-/

namespace GroceryErp

open Decimal Outcome Rows Runs

/-! ### Requests -/

inductive SalesRequest
  | finalizeSale (req : FinalizeSale)
  | createSaleReturn (req : CreateSaleReturn)
  | voidSale (req : VoidSale)

/-- The tables, and the refunds computed so far with the items they were for. -/
structure Till where
  db : Db
  refunds : List (ℕ × ℚ) := []

/-- The refunds computed so far for one sale item. -/
def Till.refundedFor (t : Till) (saleItemId : ℕ) : ℚ :=
  sumWhere (·.1 = saleItemId) (·.2) t.refunds

/-- The refunds a return computes, none when it replays an earlier one. -/
def computedRefunds (db : Db) (req : CreateSaleReturn) : List (ℕ × ℚ) :=
  match matchOrRejectIdempotentReturn db req, planReturn db req with
  | .ok none, .ok (_, lines) => lines.map fun l => (l.saleItemId, l.refund.amount)
  | _, _ => []

/-- One request at the till, committed with the scale of the columns. -/
def Till.exec : SalesRequest → Till → Result Till
  | .finalizeSale req, t => do
    let (db, _) ← finalizeSale t.db req
    return { t with db := db.commit }
  | .createSaleReturn req, t => do
    let (db, _) ← createSaleReturn t.db req
    return { db := db.commit, refunds := t.refunds ++ computedRefunds t.db req }
  | .voidSale req, t => do
    let (db, _) ← voidSale t.db req
    return { db := db.commit, refunds := t.refunds ++ computedRefunds t.db (req.asReturn t.db) }

/-- The line is at the scales of its columns, and its price is safe to split. -/
structure SaleLineInput.Safe (line : SaleLineInput) (db : Db) : Prop where
  quantity : OnGrid 3 line.quantity
  discount : OnGrid 2 line.discountAmount
  price : ∀ p, db.stock.products[line.productId]? = some p →
    SplitSafe p.val.currentPrice line.quantity

/-- Sales are of safe lines and returns of whole thousandths; a void can be any. -/
def SafeRequest (t : Till) : SalesRequest → Prop
  | .finalizeSale req => ∀ line ∈ req.lines, line.Safe t.db
  | .createSaleReturn req => ∀ line ∈ req.lines, OnGrid 3 line.quantity
  | .voidSale _ => True

/-! ### The items of a sale -/

/-- The prices of the catalogue are at two decimals, as its column keeps them. -/
def PricesAtScale (db : Db) : Prop := ∀ p ∈ db.stock.products, OnGrid 2 p.val.currentPrice

section Finalize

variable {db db' : Db} {req : FinalizeSale} {cart : PricedCart} {changeDue : ℚ} {saleId : ℕ}

/-- The item a priced line writes is fresh, and is of the line and its product. -/
theorem fresh_of_priceLine {today : Date} {line : SaleLineInput} {c : ComputedLine}
    {item : Row SaleItem} (hprices : PricesAtScale db) (hq : OnGrid 3 line.quantity)
    (hd : OnGrid 2 line.discountAmount) (h : priceLine db today line = .ok c)
    (hitem : item.val = c.item saleId) :
    item.val.Fresh ∧ item.val.quantity = line.quantity ∧
      ∃ p, db.stock.products[line.productId]? = some p ∧
        item.val.unitPriceAtSale = p.val.currentPrice := by
  obtain ⟨p, rateId, rate, hp, hdiscount, -, rfl⟩ := priceLine_eq_ok.mp h
  have hprice := hprices p (mem_of_row hp)
  have hsub : OnGrid 2 (roundMoney (line.quantity * p.val.currentPrice)) := onGrid_quantize 2 _
  have htax : ∀ x, OnGrid 2 (roundMoney x) := fun x => onGrid_quantize 2 x
  have htotal := (hsub.sub hd).add (htax
    ((roundMoney (line.quantity * p.val.currentPrice) - line.discountAmount) * rate / 100))
  have hcomm : p.val.currentPrice * line.quantity = line.quantity * p.val.currentPrice :=
    mul_comm _ _
  rw [hitem]
  simp only [ComputedLine.item, numeric_eq_self hq, numeric_eq_self hprice, numeric_eq_self hd]
  refine ⟨⟨hq, hd, onGrid_numeric 2 _, rfl, ?_, ?_⟩, trivial, p, hp, rfl⟩
  · rw [hcomm]
    exact hdiscount
  · rw [hcomm, numeric_eq_self (htax _), numeric_eq_self htotal]

/-- **The items a sale writes** are fresh ones of its lines. -/
theorem finalizeSale_items (hprices : PricesAtScale db)
    (hscale : ∀ line ∈ req.lines, OnGrid 3 line.quantity ∧ OnGrid 2 line.discountAmount)
    (h : finalizeSale db req = .ok (db', saleId)) :
    ∃ items, db'.sales.items = db.sales.items ++ items ∧
      ∀ i ∈ items, i.val.Fresh ∧ ∃ line ∈ req.lines, i.val.quantity = line.quantity ∧
        ∃ p, db.stock.products[line.productId]? = some p ∧
          i.val.unitPriceAtSale = p.val.currentPrice := by
  rcases finalizeSale_ok h with ⟨sale, -, rfl⟩ | ⟨-, cart, changeDue, d, hc, hw, hj⟩
  · exact ⟨[], by simp, by simp⟩
  obtain ⟨hid, shiftId, sale, items, payments, -, hitems, -, hd⟩ := writeSale_ok hw
  obtain ⟨-, -, -, entry, -, rfl⟩ := postJournal_eq_ok.mp hj
  refine ⟨items, by rw [hd], fun i hi => ?_⟩
  obtain ⟨c, hcmem, hci⟩ := exists_of_map_eq hitems hi
  obtain ⟨line, hline, -, hprice⟩ := exists_line_of_checkout hc c hcmem
  obtain ⟨hfresh, hqty, hproduct⟩ := fresh_of_priceLine hprices (hscale line hline).1
    (hscale line hline).2 hprice hci.symm
  exact ⟨hfresh, line, hline, hqty, hproduct⟩

theorem finalizeSale_prices (hprices : PricesAtScale db)
    (h : finalizeSale db req = .ok (db', saleId)) : PricesAtScale db' := by
  rcases finalizeSale_ok h with ⟨sale, -, rfl⟩ | ⟨-, cart, changeDue, d, -, hw, hj⟩
  · exact hprices
  obtain ⟨bss, -, hrun⟩ := bookedAll_of_writeSale hw
  obtain ⟨-, -, -, entry, -, rfl⟩ := postJournal_eq_ok.mp hj
  exact hrun.forall_products (P := fun p => OnGrid 2 p.currentPrice) (fun _ _ hp => hp) hprices

end Finalize

/-! ### The items of a return -/

section Return

variable {db db' : Db} {req : CreateSaleReturn} {sale : Row Sale} {lines : List ReturnLine}
  {storeId saleReturnId : ℕ}

theorem onGrid_requestedQty {ls : List SaleReturnLineInput} (h : ∀ l ∈ ls, OnGrid 3 l.quantity)
    (i : ℕ) : OnGrid 3 (requestedQty ls i) := by
  rw [requestedQty, sumWhere]
  refine onGrid_sum _ fun x hx => ?_
  obtain ⟨l, hl, rfl⟩ := List.mem_map.mp hx
  exact h l (List.mem_of_mem_filter hl)

/-- A line writes its own item and leaves the others. -/
theorem items_of_addReturnLine {l : ReturnLine}
    (h : addReturnLine storeId saleReturnId db l = .ok db') :
    ∃ item, item.val = l.item.val.afterReturn l.quantity ∧
      db'.sales.items = db.sales.items.set l.saleItemId item := by
  obtain ⟨_, d, item, -, hd, hitem, rfl⟩ := addReturnLine_eq_ok.mp h
  rw [restockLine_frame hd]
  exact ⟨item, hitem, rfl⟩

/-- The lines of a return write their items, each from the row it was planned with. -/
theorem items_of_addReturnLines (hnodup : (lines.map (·.saleItemId)).Nodup)
    (hloaded : ∀ l ∈ lines, db.sales.items[l.saleItemId]? = some l.item)
    (h : lines.foldlM (addReturnLine storeId saleReturnId) db = .ok db') :
    db'.sales.items.length = db.sales.items.length ∧
      (∀ l ∈ lines, ∃ item, db'.sales.items[l.saleItemId]? = some item ∧
        item.val = l.item.val.afterReturn l.quantity) ∧
      ∀ i ∉ lines.map (·.saleItemId), db'.sales.items[i]? = db.sales.items[i]? := by
  refine foldlM_induct (fun done d => d.sales.items.length = db.sales.items.length ∧
      (∀ l ∈ done, ∃ item, d.sales.items[l.saleItemId]? = some item ∧
        item.val = l.item.val.afterReturn l.quantity) ∧
      ∀ i ∉ done.map (·.saleItemId), d.sales.items[i]? = db.sales.items[i]?) h ?_ ?_
  · exact ⟨rfl, by simp, by simp⟩
  rintro done l rest d d' rfl ⟨hlength, hdone, hrest⟩ hstep
  obtain ⟨item, hitem, hset⟩ := items_of_addReturnLine hstep
  rw [List.map_append, List.map_cons, List.nodup_append'] at hnodup
  -- each line has its own item, so the earlier rounds have not touched this one
  have hfresh : l.saleItemId ∉ done.map (·.saleItemId) := fun hmem =>
    hnodup.2.2 hmem List.mem_cons_self
  have hat : d.sales.items[l.saleItemId]? = some l.item :=
    (hrest _ hfresh).trans (hloaded l (by simp))
  have hget := fun j => getElem?_set_of_some hat item j
  refine ⟨by rw [hset, List.length_set, hlength], ?_, ?_⟩
  · intro k hk
    rcases List.mem_append.mp hk with hk | hk
    · have hne : l.saleItemId ≠ k.saleItemId := fun heq =>
        hfresh (heq ▸ List.mem_map_of_mem hk)
      obtain ⟨row, hrow, hval⟩ := hdone k hk
      exact ⟨row, by rw [hset, hget, if_neg hne, hrow], hval⟩
    · obtain rfl := List.mem_singleton.mp hk
      exact ⟨item, by rw [hset, hget, if_pos rfl], hitem⟩
  -- an item that no line names is as it was
  · intro i hi
    rw [List.map_append, List.mem_append, not_or] at hi
    have hne : l.saleItemId ≠ i := fun heq => hi.2 (by simp [heq])
    rw [hset, hget, if_neg hne, hrest i hi.1]

/-- What a return that is no replay does to the items, and what it refunds. -/
theorem createSaleReturn_items (h : createSaleReturn db req = .ok (db', saleReturnId)) :
    (computedRefunds db req = [] ∧ db' = db) ∨
    ∃ lines : List ReturnLine, computedRefunds db req = lines.map (fun l => (l.saleItemId, l.refund.amount)) ∧
      (lines.map (·.saleItemId)).Nodup ∧ (∀ l ∈ lines, l.Planned db req) ∧
      db'.sales.items.length = db.sales.items.length ∧
      (∀ l ∈ lines, ∃ item, db'.sales.items[l.saleItemId]? = some item ∧
        item.val = l.item.val.afterReturn l.quantity) ∧
      ∀ i ∉ lines.map (·.saleItemId), db'.sales.items[i]? = db.sales.items[i]? := by
  rcases createSaleReturn_ok h with ⟨hkey, rfl⟩ | ⟨hkey, sale, lines, _, _, d, hplan, -, -, hw, hj⟩
  · exact .inl ⟨by rw [computedRefunds, hkey], rfl⟩
  obtain ⟨-, -, -, hids, hplanned⟩ := planReturn_ok hplan
  obtain ⟨-, _, _, _, e, -, -, hlines, rfl⟩ := writeReturn_ok hw
  have hnodup : (lines.map (·.saleItemId)).Nodup := hids ▸ nodup_distinct _
  have hitems := items_of_addReturnLines hnodup (fun l hl => (hplanned l hl).loaded) hlines
  rw [postJournalUnlessEmpty_frame hj]
  exact .inr ⟨lines, by rw [computedRefunds, hkey, hplan], hnodup, hplanned, hitems⟩

theorem createSaleReturn_prices (hprices : PricesAtScale db)
    (h : createSaleReturn db req = .ok (db', saleReturnId)) : PricesAtScale db' := by
  rcases createSaleReturn_ok h with ⟨-, rfl⟩ | ⟨-, sale, lines, _, _, d, -, -, -, hw, hj⟩
  · exact hprices
  obtain ⟨-, _, _, _, e, -, -, hlines, rfl⟩ := writeReturn_ok hw
  obtain ⟨bss, -, hrun⟩ := bookedAll_of_foldlM _ hlines fun l _ _ _ hl =>
    bookedAll_of_addReturnLine hl
  rw [postJournalUnlessEmpty_frame hj]
  exact hrun.forall_products (P := fun p => OnGrid 2 p.currentPrice) (fun _ _ hp => hp) hprices

end Return

/-! ### Accounts of an item -/

/-- The item is what is left of a safely sold one, and `amount` is what its returns
so far refund. -/
def SaleItem.Accounted (i : SaleItem) (amount : ℚ) : Prop :=
  ∃ (sold : Row SaleItem) (qs : List ℚ), sold.val.Fresh ∧
    SplitSafe sold.val.unitPriceAtSale sold.val.quantity ∧ (∀ q ∈ qs, OnGrid 3 q) ∧
    sold.val.ValidReturns qs ∧ i = sold.val.afterReturns qs ∧ amount = sold.val.refunded qs

namespace SaleItem.Accounted

variable {i : SaleItem} {amount q : ℚ}

theorem of_fresh {sold : Row SaleItem} (hfresh : sold.val.Fresh)
    (hsafe : SplitSafe sold.val.unitPriceAtSale sold.val.quantity) : sold.val.Accounted 0 :=
  ⟨sold, [], hfresh, hsafe, by simp, trivial, rfl, rfl⟩

/-- One more valid return: what an item has refunded grows by what the return refunds for it. -/
theorem afterReturn (h : i.Accounted amount) (hgrid : OnGrid 3 q) (hpos : 0 < q)
    (hle : q ≤ i.quantity - i.quantityReturned) :
    (i.afterReturn q).Accounted (amount + (computeLineRefund i q).amount) := by
  obtain ⟨sold, qs, hfresh, hsafe, hqs, hv, rfl, rfl⟩ := h
  refine ⟨sold, qs ++ [q], hfresh, hsafe, ?_, (validReturns_append _ _ _).mpr ⟨hv, hpos, hle⟩,
    (afterReturns_append _ _ _).symm, (refunded_append _ _ _).symm⟩
  intro r hr
  rcases List.mem_append.mp hr with hr | hr
  · exact hqs r hr
  · exact List.mem_singleton.mp hr ▸ hgrid

/-- What remains of the item is a whole number of thousandths. -/
theorem onGrid_remaining (h : i.Accounted amount) : OnGrid 3 (i.quantity - i.quantityReturned) := by
  obtain ⟨sold, qs, hfresh, -, hqs, -, rfl, -⟩ := h
  have hr0 : OnGrid 3 sold.val.quantityReturned := hfresh.returned ▸ onGrid_zero 3
  rw [quantityReturned_afterReturns hr0 hqs, afterReturns_eq]
  exact hfresh.quantity.sub (hr0.add (onGrid_sum qs hqs))

/-- The refunds stay within the line total, and are it once all has come back. -/
theorem refund_le (h : i.Accounted amount) :
    amount ≤ i.lineTotal ∧ (i.quantityReturned = i.quantity → amount = i.lineTotal) := by
  obtain ⟨sold, qs, hfresh, hsafe, hqs, hv, rfl, rfl⟩ := h
  have hrefund := refundsLineTotal_of_splitSafe hfresh hsafe hqs hv
  rw [afterReturns_eq]
  exact hrefund

end SaleItem.Accounted

/-! ### Every run -/

/-- Every item is accounted for by the refunds computed for it. -/
structure Till.Sound (t : Till) : Prop where
  prices : PricesAtScale t.db
  known : ∀ r ∈ t.refunds, r.1 < t.db.sales.items.length
  accounted : ∀ (i : ℕ) (item : Row SaleItem), t.db.sales.items[i]? = some item →
    item.val.Accounted (t.refundedFor i)

/-- Nothing has been sold, and the prices are at their scale. -/
structure Till.Opening (t : Till) : Prop where
  prices : PricesAtScale t.db
  items : t.db.sales.items = []
  refunds : t.refunds = []

theorem pricesAtScale_commit {db : Db} (h : PricesAtScale db) : PricesAtScale db.commit := by
  intro p hp
  obtain ⟨q, hq, rfl⟩ := List.mem_map.mp hp
  exact h q hq

namespace Till

variable {t t' : Till}

theorem Opening.sound (h : t.Opening) : t.Sound where
  prices := h.prices
  known := by simp [h.refunds]
  accounted := by simp [h.items]

/-- An item no refund is for has none. -/
theorem refundedFor_eq_zero {i : ℕ} (h : ∀ r ∈ t.refunds, r.1 ≠ i) : t.refundedFor i = 0 :=
  sumWhere_eq_zero _ _ fun r hr hri => absurd hri (h r hr)

theorem Sound.finalizeSale {db' : Db} {req : FinalizeSale} {saleId : ℕ} (ht : t.Sound)
    (hsafe : ∀ line ∈ req.lines, line.Safe t.db)
    (h : GroceryErp.finalizeSale t.db req = .ok (db', saleId)) :
    Sound { t with db := db'.commit } := by
  obtain ⟨items, happend, hitems⟩ := finalizeSale_items ht.prices
    (fun line hline => ⟨(hsafe line hline).quantity, (hsafe line hline).discount⟩) h
  have hcommit : db'.commit.sales.items = t.db.sales.items ++ items := happend
  refine ⟨pricesAtScale_commit (finalizeSale_prices ht.prices h), ?_, ?_⟩
  · intro r hr
    rw [hcommit, List.length_append]
    exact Nat.lt_add_right _ (ht.known r hr)
  · intro i item hi
    change (db'.commit.sales.items)[i]? = some item at hi
    rw [hcommit] at hi
    rcases lt_or_ge i t.db.sales.items.length with hlt | hge
    · rw [List.getElem?_append_left hlt] at hi
      exact ht.accounted i item hi
    · rw [List.getElem?_append_right hge] at hi
      obtain ⟨hfresh, line, hline, hqty, p, hp, hprice⟩ := hitems item (mem_of_row hi)
      have hnone : Till.refundedFor { t with db := db'.commit } i = 0 :=
        refundedFor_eq_zero fun r hr heq => absurd (ht.known r hr) (by omega)
      rw [hnone]
      refine .of_fresh hfresh ?_
      rw [hqty, hprice]
      exact (hsafe line hline).price p hp

theorem Sound.createSaleReturn {db' : Db} {req : CreateSaleReturn} {saleReturnId : ℕ}
    (ht : t.Sound) (hgrid : ∀ line ∈ req.lines, OnGrid 3 line.quantity)
    (h : GroceryErp.createSaleReturn t.db req = .ok (db', saleReturnId)) :
    Sound { db := db'.commit, refunds := t.refunds ++ computedRefunds t.db req } := by
  have hprices := pricesAtScale_commit (createSaleReturn_prices ht.prices h)
  rcases createSaleReturn_items h with ⟨hnone, rfl⟩ |
    ⟨lines, hrefunds, hnodup, hplanned, hlength, hback, hother⟩
  -- a replay records nothing and computes no refund
  · rw [hnone, List.append_nil]
    exact ⟨hprices, ht.known, ht.accounted⟩
  have hcommit : db'.commit.sales.items = db'.sales.items := rfl
  refine ⟨hprices, ?_, ?_⟩
  · intro r hr
    show r.1 < db'.sales.items.length
    rw [hlength]
    rcases List.mem_append.mp hr with hr | hr
    · exact ht.known r hr
    · rw [hrefunds] at hr
      obtain ⟨l, hl, rfl⟩ := List.mem_map.mp hr
      exact (List.getElem?_eq_some_iff.mp (hplanned l hl).loaded).1
  · intro i item hi
    change db'.sales.items[i]? = some item at hi
    have hsum : Till.refundedFor
        { db := db'.commit, refunds := t.refunds ++ computedRefunds t.db req } i
        = t.refundedFor i + sumWhere (·.saleItemId = i) (·.refund.amount) lines := by
      rw [Till.refundedFor, sumWhere_append, hrefunds]
      congr 1
      simp only [sumWhere_eq_sum_map, List.map_map]
      rfl
    rw [hsum]
    by_cases hmem : i ∈ lines.map (·.saleItemId)
    · obtain ⟨l, hl, rfl⟩ := List.mem_map.mp hmem
      obtain ⟨row, hrow, hval⟩ := hback l hl
      obtain rfl : row = item := Option.some.inj (hrow.symm.trans hi)
      have hp := hplanned l hl
      -- the lines were merged by item, so one line at the most is for this one
      rw [sumWhere_key _ hnodup hl, hval]
      refine (ht.accounted _ _ hp.loaded).afterReturn ?_ hp.quantity_pos hp.quantity_le
      rw [hp.quantity_eq]
      exact onGrid_requestedQty hgrid _
    · rw [sumWhere_of_notMem _ hmem, add_zero]
      exact ht.accounted i item ((hother i hmem).symm.trans hi)

/-- What a void gives back is what remains, in whole thousandths. -/
theorem Sound.voidSale {db' : Db} {req : VoidSale} {saleReturnId : ℕ} (ht : t.Sound)
    (h : GroceryErp.voidSale t.db req = .ok (db', saleReturnId)) :
    Sound { db := db'.commit, refunds := t.refunds ++ computedRefunds t.db (req.asReturn t.db) } := by
  refine ht.createSaleReturn (fun line hline => ?_) (voidSale_ok h)
  obtain ⟨⟨i, item⟩, hi, rfl⟩ := List.mem_map.mp hline
  obtain ⟨hloaded, -⟩ := mem_rowsWhere.mp (List.mem_of_mem_filter hi)
  exact (ht.accounted i item hloaded).onGrid_remaining

/-- **Every safe request keeps every item accounted for.** -/
theorem Sound.exec {r : SalesRequest} (ht : t.Sound) (hsafe : SafeRequest t r)
    (h : Till.exec r t = .ok t') : t'.Sound := by
  cases r with
  | finalizeSale req =>
    simp only [Till.exec, bind_eq_ok, pure_eq_ok] at h
    obtain ⟨⟨db', saleId⟩, h, rfl⟩ := h
    exact ht.finalizeSale hsafe h
  | createSaleReturn req =>
    simp only [Till.exec, bind_eq_ok, pure_eq_ok] at h
    obtain ⟨⟨db', saleReturnId⟩, h, rfl⟩ := h
    exact ht.createSaleReturn hsafe h
  | voidSale req =>
    simp only [Till.exec, bind_eq_ok, pure_eq_ok] at h
    obtain ⟨⟨db', saleReturnId⟩, h, rfl⟩ := h
    exact ht.voidSale h

theorem sound_of_reaches {t₀ : Till} (h₀ : t₀.Opening) (h : Reaches exec SafeRequest t₀ t) :
    t.Sound :=
  h.invariant h₀.sound fun _ _ _ ht hsafe hexec => ht.exec hsafe hexec

end Till

/-! ### Exactly the safe items -/

/-- **The refunds of safely sold items are their line totals.**  In every run of safe
requests the refunds of every item stay within its line total and are it once all of
it has come back; and an item that a sale writes refunds its line total in every
sequence of valid returns exactly when its price is safe to split. -/
theorem refunds_match_line_totals_iff (t₀ : Till) (hprices : PricesAtScale t₀.db) :
    (∀ t : Till, t₀.Opening → Reaches Till.exec SafeRequest t₀ t →
      ∀ (i : ℕ) (item : Row SaleItem), t.db.sales.items[i]? = some item →
        t.refundedFor i ≤ item.val.lineTotal ∧
        (item.val.quantityReturned = item.val.quantity →
          t.refundedFor i = item.val.lineTotal)) ∧
    (∀ (db' : Db) (req : FinalizeSale) (saleId : ℕ),
      (∀ line ∈ req.lines, OnGrid 3 line.quantity ∧ OnGrid 2 line.discountAmount) →
      finalizeSale t₀.db req = .ok (db', saleId) →
      ∃ items, db'.sales.items = t₀.db.sales.items ++ items ∧ ∀ i ∈ items,
        ((∀ qs, (∀ q ∈ qs, OnGrid 3 q) → i.val.ValidReturns qs → i.val.RefundsLineTotal qs) ↔
          SplitSafe i.val.unitPriceAtSale i.val.quantity)) := by
  constructor
  · intro t h₀ h i item hi
    exact ((Till.sound_of_reaches h₀ h).accounted i item hi).refund_le
  · intro db' req saleId hscale h
    obtain ⟨items, happend, hitems⟩ := finalizeSale_items hprices hscale h
    exact ⟨items, happend, fun i hi => splits_refund_line_total_iff (hitems i hi).1⟩

/-- A product at the given price, ten of it in stock. -/
def productAt (price : ℚ) : Product where
  storeId := 0
  sku := "SKU-1"
  categoryId := none
  currentPrice := price
  currentCost := 1
  taxRateId := none
  currentQtyOnHand := 10
  allowNegativeStock := false
  isActive := true

/-- A shop with one product at the given price. -/
def shopAt (price : ℚ) (h : Table.Checks (productAt price)) : Db where
  master := { stores := [⟨true, none⟩] }
  stock := { products := [⟨productAt price, h⟩] }

/-- The sale of a quantity for cash. -/
def cashSale (quantity cash : ℚ) : FinalizeSale where
  storeId := 0
  cashierId := 0
  clientTransactionId := "till-1"
  callerStoreId := none
  lines := [{ productId := 0, quantity := quantity }]
  payments := [⟨.cash, cash⟩]
  today := 0

/-- Half a unit comes back, under a key of its own. -/
def halfBack (clientTransactionId : String) : CreateSaleReturn where
  saleId := 0
  storeId := 0
  returnDate := 0
  lines := [{ saleItemId := 0, quantity := 1 / 2 }]
  refundMethod := .cash
  clientTransactionId := clientTransactionId
  callerStoreId := none

/-- A cheese at ten the kilo, safe to split. -/
def cheeseTill : Till := { db := shopAt 10 (by decide +kernel) }

def cheeseSold : Till :=
  value (Till.exec (.finalizeSale (cashSale 2 20)) cheeseTill) (by decide +kernel)

def cheeseBack : Till :=
  value (Till.exec (.createSaleReturn (halfBack "return-1")) cheeseSold) (by decide +kernel)

def cheeseSale : Db × ℕ := value (finalizeSale cheeseTill.db (cashSale 2 20)) (by decide +kernel)

/-- Two kilos sold and half a kilo back. -/
theorem refunds_match_line_totals_iff_cheese :
    (∀ (i : ℕ) (item : Row SaleItem), cheeseBack.db.sales.items[i]? = some item →
      cheeseBack.refundedFor i ≤ item.val.lineTotal ∧
      (item.val.quantityReturned = item.val.quantity →
        cheeseBack.refundedFor i = item.val.lineTotal)) ∧
    ∃ items, cheeseSale.1.sales.items = cheeseTill.db.sales.items ++ items ∧ ∀ i ∈ items,
      ((∀ qs, (∀ q ∈ qs, OnGrid 3 q) → i.val.ValidReturns qs → i.val.RefundsLineTotal qs) ↔
        SplitSafe i.val.unitPriceAtSale i.val.quantity) := by
  have hprices : PricesAtScale cheeseTill.db := by
    unfold PricesAtScale
    decide +kernel
  have hsafe : SafeRequest cheeseTill (.finalizeSale (cashSale 2 20)) := by
    intro line hline
    obtain rfl := List.mem_singleton.mp hline
    refine ⟨by decide +kernel, by decide +kernel, fun p hp => ?_⟩
    cases hp
    decide +kernel
  have hback : SafeRequest cheeseSold (.createSaleReturn (halfBack "return-1")) := by
    unfold SafeRequest
    decide +kernel
  have h := refunds_match_line_totals_iff cheeseTill hprices
  constructor
  · exact h.1 cheeseBack ⟨hprices, rfl, rfl⟩
      (.next (.next .start hsafe (eq_ok_value _ _)) hback (eq_ok_value _ _))
  · exact h.2 cheeseSale.1 (cashSale 2 20) cheeseSale.2 (by decide +kernel) (eq_ok_value _ _)

/-- A till that sells sweets at a cent. -/
def pennyTill : Till := { db := shopAt (1 / 100) (by decide +kernel) }

def pennySold : Till :=
  value (Till.exec (.finalizeSale (cashSale 1 (1 / 100))) pennyTill) (by decide +kernel)

def pennyHalfBack : Till :=
  value (Till.exec (.createSaleReturn (halfBack "return-1")) pennySold) (by decide +kernel)

def pennyAllBack : Till :=
  value (Till.exec (.createSaleReturn (halfBack "return-2")) pennyHalfBack) (by decide +kernel)

/-- Half a cent is a cent: the two halves of a sweet at one cent refund two. -/
theorem penny_refunded_twice :
    Reaches Till.exec (fun _ _ => True) pennyTill pennyAllBack ∧
      ∃ item, pennyAllBack.db.sales.items[0]? = some item ∧ item.val.lineTotal = 1 / 100 ∧
        pennyAllBack.refundedFor 0 = 2 / 100 := by
  refine ⟨.next (.next (.next .start trivial (eq_ok_value _ _)) trivial (eq_ok_value _ _)) trivial
    (eq_ok_value _ _), pennyAllBack.db.sales.items.head (by decide +kernel), ?_⟩
  decide +kernel

end GroceryErp
