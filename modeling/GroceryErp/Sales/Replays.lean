import GroceryErp.Sales.Refunds

/-!
# Repeated returns

A return that is asked for again under its key is compared with the rows it has left.  The
rows are one for each item, at three decimals; the request may name an item twice.

## Main definitions

* `storedSignature`, `requestedSignature` — what is compared.
* `CreateSaleReturn.RecordedAs` — the request is the one a return was recorded for.
* `SalesRecorded` — what the tables of the sales module keep.
* `SalesGrown` — what later requests leave of them.

## Main results

* `createSaleReturn_recorded` — what a request that succeeds has recorded.
* `recordedAs_iff` — a request is recorded as it was asked exactly when it names every item
  once, in whole thousandths.
* `finalizeSale_grows`, `createSaleReturn_grows` — one request.

## References

`backend/app/modules/sales/service.py`, `_match_or_reject_idempotent_return`,
`create_sale_return`.
-/

namespace GroceryErp

open Decimal Outcome Rows

/-! ### What is compared -/

/-- The keys of all returns, which the table keeps different. -/
def returnKeys (db : Db) : List String := db.sales.returns.map (·.val.clientTransactionId)

/-- `existing_signature`: what is compared of a stored return, one entry for each stored item. -/
def storedSignature (db : Db) (saleReturnId : ℕ) : List (ℕ × ℚ × Bool) :=
  (db.sales.returnItems.filter (·.val.saleReturnId = saleReturnId)).map fun i =>
    (i.val.saleItemId, i.val.quantity, i.val.restock)

/-- `requested_signature`: what is compared of a request, one entry for each line as it came. -/
def requestedSignature (lines : List SaleReturnLineInput) : List (ℕ × ℚ × Bool) :=
  lines.map fun l => (l.saleItemId, l.quantity, l.restock)

/-- The return is recorded under the key of the request, with the same sale, refund method and
lines. -/
def CreateSaleReturn.RecordedAs (db : Db) (req : CreateSaleReturn) (saleReturnId : ℕ) : Prop :=
  ∃ existing, db.sales.returns[saleReturnId]? = some existing ∧
    existing.val.clientTransactionId = req.clientTransactionId ∧
    existing.val.saleId = req.saleId ∧ existing.val.refundMethod = req.refundMethod ∧
    (storedSignature db saleReturnId).Perm (requestedSignature req.lines)

/-- Every item is named once, in whole thousandths. -/
def CreateSaleReturn.NamesItemsOnce (req : CreateSaleReturn) : Prop :=
  (req.lines.map (·.saleItemId)).Nodup ∧ ∀ l ∈ req.lines, OnGrid 3 l.quantity

instance (req : CreateSaleReturn) : Decidable req.NamesItemsOnce :=
  inferInstanceAs (Decidable (_ ∧ _))

section Keys

variable {db : Db} {req : CreateSaleReturn} {saleReturnId : ℕ}

theorem matchOrReject_eq_none :
    matchOrRejectIdempotentReturn db req = .ok none ↔ req.clientTransactionId ∉ returnKeys db := by
  have hkey : rowsWhere (·.val.clientTransactionId = req.clientTransactionId) db.sales.returns = []
      ↔ req.clientTransactionId ∉ returnKeys db := by
    simp only [List.eq_nil_iff_forall_not_mem, Prod.forall, mem_rowsWhere, returnKeys,
      List.mem_map, not_exists, not_and]
    constructor
    · intro h row hrow hk
      obtain ⟨n, hn, hget⟩ := List.getElem_of_mem hrow
      exact h n row (hget ▸ List.getElem?_eq_getElem hn) hk
    · intro h n row hrow hk
      exact h row (mem_of_row hrow) hk
  rw [← hkey, ← scalarOneOrNone_eq_none]
  unfold matchOrRejectIdempotentReturn
  rw [bind_eq_ok]
  constructor
  · rintro ⟨found, hfound, h⟩
    cases found with
    | none => exact hfound
    | some found =>
      simp only [↓check_bind_eq_ok, pure_eq_ok] at h
      exact absurd h.2 (by simp)
  · intro h
    exact ⟨none, h, rfl⟩

theorem matchOrReject_eq_some (hkeys : (returnKeys db).Nodup) :
    matchOrRejectIdempotentReturn db req = .ok (some saleReturnId) ↔
      req.RecordedAs db saleReturnId := by
  unfold matchOrRejectIdempotentReturn
  rw [bind_eq_ok]
  constructor
  · rintro ⟨found, hfound, h⟩
    cases found with
    | none => cases h
    | some found =>
      obtain ⟨i, existing⟩ := found
      simp only [↓check_bind_eq_ok, raiseIf_eq_ok, pure_eq_ok, Option.some.injEq, not_or,
        not_not] at h
      obtain ⟨⟨hsale, hmethod, hperm⟩, rfl⟩ := h
      have hmem : (i, existing) ∈ rowsWhere
          (·.val.clientTransactionId = req.clientTransactionId) db.sales.returns := by
        rw [scalarOneOrNone_eq_some.mp hfound]
        exact List.mem_singleton_self _
      obtain ⟨hrow, hkey⟩ := mem_rowsWhere.mp hmem
      exact ⟨existing, hrow, hkey, hsale, hmethod, hperm⟩
  · rintro ⟨existing, hrow, hkey, hsale, hmethod, hperm⟩
    refine ⟨some (saleReturnId, existing), ?_, ?_⟩
    · exact scalarOneOrNone_eq_some.mpr (rowsWhere_of_key hkeys hrow hkey)
    · simp only [↓check_bind_eq_ok, raiseIf_eq_ok, pure_eq_ok, and_true, not_or, not_not]
      exact ⟨hsale, hmethod, hperm⟩

theorem CreateSaleReturn.RecordedAs.mem_returnKeys (h : req.RecordedAs db saleReturnId) :
    req.clientTransactionId ∈ returnKeys db := by
  obtain ⟨existing, hrow, hkey, -⟩ := h
  exact List.mem_map.mpr ⟨existing, mem_of_row hrow, hkey⟩

end Keys

/-! ### What the tables keep -/

/-- No key has two returns; items and rows belong to what is there, at three decimals, and no
return has two rows for an item. -/
structure SalesRecorded (db : Db) : Prop where
  keys : (returnKeys db).Nodup
  items : ∀ i ∈ db.sales.items, i.val.saleId < db.sales.sales.length ∧
    OnGrid 3 i.val.quantity ∧ OnGrid 3 i.val.quantityReturned
  rows : ∀ r ∈ db.sales.returnItems,
    r.val.saleReturnId < db.sales.returns.length ∧ OnGrid 3 r.val.quantity
  distinct : ∀ saleReturnId, ((db.sales.returnItems.filter
    (·.val.saleReturnId = saleReturnId)).map (·.val.saleItemId)).Nodup

/-- Sales stay in their stores, items only come back, and what is new is of new sales and new
returns. -/
structure SalesGrown (db later : Db) : Prop where
  sales : ∀ saleId storeId, HasAt db.sales.sales (·.val.storeId) saleId storeId →
    HasAt later.sales.sales (·.val.storeId) saleId storeId
  items : ∀ (i : ℕ) (item : Row SaleItem), db.sales.items[i]? = some item →
    ∃ item', later.sales.items[i]? = some item' ∧ item'.val.saleId = item.val.saleId ∧
      item'.val.quantity = item.val.quantity ∧
      item.val.quantityReturned ≤ item'.val.quantityReturned
  fresh : ∀ (i : ℕ) (item : Row SaleItem), later.sales.items[i]? = some item →
    item.val.saleId < db.sales.sales.length → i < db.sales.items.length
  returns : db.sales.returns <+: later.sales.returns
  rows : ∃ added, later.sales.returnItems = db.sales.returnItems ++ added ∧
    ∀ r ∈ added, db.sales.returns.length ≤ r.val.saleReturnId

namespace SalesGrown

variable {db d later : Db}

/-- Nothing is sold or comes back. -/
theorem of_eq (h : later.sales = db.sales) : SalesGrown db later where
  sales := by
    rw [h]
    exact fun _ _ hat => hat
  items := by
    rw [h]
    exact fun i item hi => ⟨item, hi, rfl, rfl, le_rfl⟩
  fresh := by
    rw [h]
    exact fun i item hi _ => (List.getElem?_eq_some_iff.mp hi).1
  returns := by rw [h]
  rows := ⟨[], by rw [h, List.append_nil], by simp⟩

theorem length_sales_le (h : SalesGrown db later) :
    db.sales.sales.length ≤ later.sales.sales.length := by
  by_contra hlt
  rw [not_le] at hlt
  obtain ⟨sale, hsale, -⟩ := h.sales _ _ ⟨_, List.getElem?_eq_getElem hlt, rfl⟩
  exact absurd (List.getElem?_eq_some_iff.mp hsale).1 (lt_irrefl _)

theorem trans (h : SalesGrown db d) (h' : SalesGrown d later) : SalesGrown db later where
  sales saleId storeId hat := h'.sales saleId storeId (h.sales saleId storeId hat)
  items := by
    intro i item hi
    obtain ⟨mid, hmid, hsale, hquantity, hle⟩ := h.items i item hi
    obtain ⟨last, hlast, hsale', hquantity', hle'⟩ := h'.items i mid hmid
    exact ⟨last, hlast, hsale'.trans hsale, hquantity'.trans hquantity, hle.trans hle'⟩
  fresh := by
    intro i item hi hlt
    have hmid := h'.fresh i item hi (hlt.trans_le h.length_sales_le)
    obtain ⟨last, hlast, hsale, -⟩ := h'.items i _ (List.getElem?_eq_getElem hmid)
    obtain rfl : last = item := Option.some.inj (hlast.symm.trans hi)
    exact h.fresh i _ (List.getElem?_eq_getElem hmid) (hsale ▸ hlt)
  returns := h.returns.trans h'.returns
  rows := by
    obtain ⟨rows, hrows, hnew⟩ := h.rows
    obtain ⟨rows', hrows', hnew'⟩ := h'.rows
    refine ⟨rows ++ rows', by rw [hrows', hrows, List.append_assoc], fun r hr => ?_⟩
    rcases List.mem_append.mp hr with hr | hr
    · exact hnew r hr
    · exact h.returns.length_le.trans (hnew' r hr)

/-- What was recorded of a return stays as it was. -/
theorem storedSignature_eq (h : SalesGrown db later) {saleReturnId : ℕ}
    (hlt : saleReturnId < db.sales.returns.length) :
    storedSignature later saleReturnId = storedSignature db saleReturnId := by
  obtain ⟨added, hrows, hnew⟩ := h.rows
  have hnone : added.filter (·.val.saleReturnId = saleReturnId) = [] := by
    refine List.filter_eq_nil_iff.mpr fun r hr => ?_
    have := hnew r hr
    simp only [decide_eq_true_eq]
    omega
  rw [storedSignature, hrows, List.filter_append, hnone, List.append_nil, storedSignature]

/-- A request that is recorded stays recorded. -/
theorem recordedAs_iff (h : SalesGrown db later) {req : CreateSaleReturn} {saleReturnId : ℕ}
    (hlt : saleReturnId < db.sales.returns.length) :
    req.RecordedAs later saleReturnId ↔ req.RecordedAs db saleReturnId := by
  obtain ⟨rest, hrest⟩ := h.returns
  unfold CreateSaleReturn.RecordedAs
  rw [h.storedSignature_eq hlt, ← hrest, List.getElem?_append_left hlt]

end SalesGrown

theorem salesRecorded_of_eq {db d : Db} (hdb : SalesRecorded db) (h : d.sales = db.sales) :
    SalesRecorded d where
  keys := by
    unfold returnKeys
    rw [h]
    exact hdb.keys
  items := h ▸ hdb.items
  rows := h ▸ hdb.rows
  distinct := h ▸ hdb.distinct

/-! ### One sale -/

section Steps

variable {db d db' : Db}

theorem finalizeSale_grows {req : FinalizeSale} {saleId : ℕ} (hdb : SalesRecorded db)
    (h : finalizeSale db req = .ok (db', saleId)) : SalesRecorded db' ∧ SalesGrown db db' := by
  rcases finalizeSale_ok h with ⟨-, -, rfl⟩ | ⟨-, cart, changeDue, d, -, hw, hj⟩
  · exact ⟨hdb, .of_eq rfl⟩
  obtain ⟨rfl, shiftId, sale, items, payments, -, hitems, -, hd⟩ := writeSale_ok hw
  rw [postJournal_frame hj, hd]
  have hnew : ∀ i ∈ items, i.val.saleId = db.sales.sales.length ∧
      OnGrid 3 i.val.quantity ∧ OnGrid 3 i.val.quantityReturned := by
    intro i hi
    obtain ⟨c, -, hc⟩ := exists_of_map_eq hitems hi
    rw [← hc]
    exact ⟨rfl, onGrid_numeric 3 _, onGrid_zero 3⟩
  constructor
  · refine ⟨hdb.keys, ?_, hdb.rows, hdb.distinct⟩
    intro i hi
    rw [List.length_append, List.length_singleton]
    rcases List.mem_append.mp hi with hi | hi
    · exact ⟨Nat.lt_succ_of_lt (hdb.items i hi).1, (hdb.items i hi).2⟩
    · exact ⟨by rw [(hnew i hi).1]; omega, (hnew i hi).2⟩
  · refine ⟨fun _ _ hat => hat.append _, ?_, ?_, List.prefix_refl _, [], by simp, by simp⟩
    · intro i item hi
      have hlt := (List.getElem?_eq_some_iff.mp hi).1
      exact ⟨item, (List.getElem?_append_left hlt).trans hi, rfl, rfl, le_rfl⟩
    · intro i item hi hlt
      by_contra hge
      change (db.sales.items ++ items)[i]? = some item at hi
      rw [List.getElem?_append_right (not_lt.mp hge)] at hi
      have := (hnew item (mem_of_row hi)).1
      omega

/-! ### One return -/

section Return

variable {req : CreateSaleReturn} {sale : Row Sale} {lines : List ReturnLine}
  {storeId saleReturnId : ℕ}

/-- The restock flag of a merged line: one restocking line restocks the item. -/
theorem restock_of_planReturn (h : planReturn db req = .ok (sale, lines)) :
    ∀ l ∈ lines, l.restock
      = req.lines.any fun k => k.saleItemId = l.saleItemId && k.restock := by
  intro l hl
  obtain ⟨i, -, hmerge⟩ := exists_of_mem_mapM (planReturn_merged h) hl
  obtain ⟨item, -, -, rfl⟩ := mergeReturnLine_eq_ok.mp hmerge
  rfl

/-- The lines of a return add their rows. -/
theorem returnItems_of_addReturnLines
    (h : lines.foldlM (addReturnLine storeId saleReturnId) db = .ok d) :
    ∃ rows, d.sales.returnItems = db.sales.returnItems ++ rows ∧
      rows.map Subtype.val = lines.map (·.row saleReturnId) := by
  refine foldlM_induct (fun done t => ∃ rows, t.sales.returnItems = db.sales.returnItems ++ rows ∧
      rows.map Subtype.val = done.map (·.row saleReturnId)) h
    ⟨[], by rw [List.append_nil], rfl⟩ ?_
  rintro done l rest t t' - ⟨rows, hrows, hvals⟩ hstep
  obtain ⟨row, u, item, hrow, hu, -, rfl⟩ := addReturnLine_eq_ok.mp hstep
  rw [restockLine_frame hu]
  exact ⟨rows ++ [row], by rw [hrows, List.append_assoc], by simp [hvals, hrow]⟩

/-- What a return that is no replay writes, and what it leaves alone. -/
structure ReturnWritten (db db' : Db) (req : CreateSaleReturn) (lines : List ReturnLine) : Prop where
  unused : req.clientTransactionId ∉ returnKeys db
  named : lines.map (·.saleItemId) = distinct (req.lines.map (·.saleItemId))
  planned : ∀ l ∈ lines, l.Planned db req
  restock : ∀ l ∈ lines, l.restock
    = req.lines.any fun k => k.saleItemId = l.saleItemId && k.restock
  header : ∃ row, db'.sales.returns = db.sales.returns ++ [row] ∧
    row.val.clientTransactionId = req.clientTransactionId ∧ row.val.saleId = req.saleId ∧
    row.val.refundMethod = req.refundMethod
  rows : ∃ rows, db'.sales.returnItems = db.sales.returnItems ++ rows ∧
    rows.map Subtype.val = lines.map (·.row db.sales.returns.length)
  sales : ∀ saleId storeId, HasAt db.sales.sales (·.val.storeId) saleId storeId →
    HasAt db'.sales.sales (·.val.storeId) saleId storeId
  length_sales : db'.sales.sales.length = db.sales.sales.length
  length_items : db'.sales.items.length = db.sales.items.length
  returned : ∀ l ∈ lines, ∃ item, db'.sales.items[l.saleItemId]? = some item ∧
    item.val = l.item.val.afterReturn l.quantity
  others : ∀ i ∉ lines.map (·.saleItemId), db'.sales.items[i]? = db.sales.items[i]?

/-- What is planned is written: a row for the return, one for each line, and the items with what has
come back of them. -/
theorem returnWritten_of_ok {approval : Bool × Option ℕ}
    (hkey : matchOrRejectIdempotentReturn db req = .ok none)
    (hplan : planReturn db req = .ok (sale, lines))
    (hw : writeReturn db req sale lines approval = .ok (d, saleReturnId))
    (hj : postSaleReturnJournal d req saleReturnId (lines.map ReturnLine.effect) = .ok db') :
    ReturnWritten db db' req lines := by
  obtain ⟨hsale, -, -, hids, hplanned⟩ := planReturn_ok hplan
  obtain ⟨rfl, _, saleReturn, saleAfter, e, hreturn, hafter, hlines, rfl⟩ := writeReturn_ok hw
  have hnodup : (lines.map (·.saleItemId)).Nodup := hids ▸ nodup_distinct _
  obtain ⟨hlength, hback, hothers⟩ :=
    items_of_addReturnLines hnodup (fun l hl => (hplanned l hl).loaded) hlines
  have hrows := returnItems_of_addReturnLines hlines
  obtain ⟨t, hframe⟩ := addReturnLines_frame hlines
  have hsales : e.sales.sales = db.sales.sales := by rw [hframe]
  have hreturns : e.sales.returns = db.sales.returns := by rw [hframe]
  rw [postJournalUnlessEmpty_frame hj]
  refine ⟨matchOrReject_eq_none.mp hkey, hids, hplanned, restock_of_planReturn hplan,
    ⟨saleReturn, ?_, ?_⟩, hrows, ?_, ?_, hlength, hback, hothers⟩
  · show e.sales.returns ++ [saleReturn] = _
    rw [hreturns]
  · rw [hreturn]
    exact ⟨rfl, rfl, rfl⟩
  · intro saleId storeId hat
    show HasAt (e.sales.sales.set req.saleId saleAfter) _ saleId storeId
    rw [hsales]
    exact hat.set hsale (by rw [hafter])
  · show (e.sales.sales.set req.saleId saleAfter).length = _
    rw [List.length_set, hsales]

/-- **A request that succeeds is a replay, or its return is written.** -/
theorem createSaleReturn_written (h : createSaleReturn db req = .ok (db', saleReturnId)) :
    (matchOrRejectIdempotentReturn db req = .ok (some saleReturnId) ∧ db' = db) ∨
    (saleReturnId = db.sales.returns.length ∧ ∃ lines, ReturnWritten db db' req lines) := by
  rcases createSaleReturn_ok h with hreplay | ⟨hkey, sale, lines, _, _, d, hplan, -, -, hw, hj⟩
  · exact .inl hreplay
  · exact .inr ⟨(writeReturn_ok hw).1, lines, returnWritten_of_ok hkey hplan hw hj⟩

theorem SalesRecorded.length_notMem (hdb : SalesRecorded db) :
    ∀ r ∈ db.sales.returnItems, r.val.saleReturnId ≠ db.sales.returns.length :=
  fun r hr => ((hdb.rows r hr).1).ne

namespace ReturnWritten

/-- The items of the lines have come back; the others are what they were. -/
theorem overwritten (h : ReturnWritten db db' req lines) :
    Overwritten (fun i old new =>
      (∃ l ∈ lines, l.saleItemId = i ∧ l.item = old ∧ new.val = old.val.afterReturn l.quantity) ∨
      (i ∉ lines.map (·.saleItemId) ∧ new = old)) db.sales.items db'.sales.items := by
  refine ⟨h.length_items, fun i item hi => ?_⟩
  by_cases hmem : i ∈ lines.map (·.saleItemId)
  · obtain ⟨l, hl, rfl⟩ := List.mem_map.mp hmem
    obtain ⟨item', hitem', hval⟩ := h.returned l hl
    obtain rfl : l.item = item := Option.some.inj ((h.planned l hl).loaded.symm.trans hi)
    exact ⟨item', hitem', .inl ⟨l, hl, rfl, rfl, hval⟩⟩
  · exact ⟨item, (h.others i hmem).trans hi, .inr ⟨hmem, rfl⟩⟩

/-- An item that comes back changes its quantity returned and nothing else. -/
theorem items_kept (h : ReturnWritten db db' req lines) :
    Overwritten (fun _ old new => new.val
      = { old.val with quantityReturned := new.val.quantityReturned })
      db.sales.items db'.sales.items := by
  refine h.overwritten.mono fun i old new hnew => ?_
  rcases hnew with ⟨l, -, -, -, hval⟩ | ⟨-, rfl⟩
  · rw [hval]
    rfl
  · rfl

/-- The rows are one for each merged line. -/
theorem storedSignature_eq (h : ReturnWritten db db' req lines) (hdb : SalesRecorded db) :
    storedSignature db' db.sales.returns.length
      = lines.map fun l => (l.saleItemId, numeric 3 l.quantity, l.restock) := by
  obtain ⟨rows, hrows, hvals⟩ := h.rows
  have hid : ∀ r ∈ rows, r.val.saleReturnId = db.sales.returns.length := by
    intro r hr
    obtain ⟨l, -, hl⟩ := exists_of_map_eq hvals hr
    rw [← hl]
    rfl
  have hold : db.sales.returnItems.filter (·.val.saleReturnId = db.sales.returns.length) = [] :=
    List.filter_eq_nil_iff.mpr fun r hr => by simpa using hdb.length_notMem r hr
  have hnew : rows.filter (·.val.saleReturnId = db.sales.returns.length) = rows :=
    List.filter_eq_self.mpr fun r hr => by simpa using hid r hr
  have hmap : (rows.map Subtype.val).map (fun r => (r.saleItemId, r.quantity, r.restock))
      = lines.map fun l => (l.saleItemId, numeric 3 l.quantity, l.restock) := by
    rw [hvals, List.map_map]
    rfl
  rw [storedSignature, hrows, List.filter_append, hold, hnew, List.nil_append, ← hmap,
    List.map_map]
  rfl

/-- A line on its own is merged with no other. -/
theorem merged_eq_self {ls : List SaleReturnLineInput} (hnodup : (ls.map (·.saleItemId)).Nodup)
    {l : SaleReturnLineInput} (hl : l ∈ ls) :
    requestedQty ls l.saleItemId = l.quantity ∧
      (ls.any fun k => k.saleItemId = l.saleItemId && k.restock) = l.restock := by
  refine ⟨sumWhere_key _ hnodup hl, ?_⟩
  rw [Bool.eq_iff_iff, List.any_eq_true]
  constructor
  · rintro ⟨k, hk, hboth⟩
    rw [Bool.and_eq_true, decide_eq_true_iff] at hboth
    rw [← List.inj_on_of_nodup_map hnodup hk hl hboth.1]
    exact hboth.2
  · intro hrestock
    exact ⟨l, hl, by simp [hrestock]⟩

/-- **The return is recorded as it was asked for exactly when the request names every item
once, in whole thousandths.** -/
theorem recordedAs_iff (h : ReturnWritten db db' req lines) (hdb : SalesRecorded db) :
    req.RecordedAs db' db.sales.returns.length ↔ req.NamesItemsOnce := by
  have hstored := h.storedSignature_eq hdb
  constructor
  · rintro ⟨existing, -, -, -, -, hperm⟩
    rw [hstored] at hperm
    constructor
    · have hids := hperm.map Prod.fst
      simp only [requestedSignature, List.map_map, Function.comp_def] at hids
      rw [h.named] at hids
      exact nodup_of_length_le_distinct hids.length_eq.ge
    · intro l hl
      have hmem : (l.saleItemId, l.quantity, l.restock) ∈ requestedSignature req.lines :=
        List.mem_map_of_mem hl
      obtain ⟨k, -, hk⟩ := List.mem_map.mp (hperm.mem_iff.mpr hmem)
      simp only [Prod.mk.injEq] at hk
      rw [← hk.2.1]
      exact onGrid_numeric 3 _
  · rintro ⟨hnodup, hgrid⟩
    obtain ⟨row, hreturns, hkey, hsale, hmethod⟩ := h.header
    refine ⟨row, by rw [hreturns]; simp, hkey, hsale, hmethod, ?_⟩
    -- what a merged line says is what the request says of its item
    let merged := fun i => (i, numeric 3 (requestedQty req.lines i),
      req.lines.any fun k => k.saleItemId = i && k.restock)
    have hlines : (lines.map fun l => (l.saleItemId, numeric 3 l.quantity, l.restock))
        = (lines.map (·.saleItemId)).map merged := by
      rw [List.map_map]
      refine List.map_congr_left fun l hl => ?_
      simp only [Function.comp_apply, merged, (h.planned l hl).quantity_eq, h.restock l hl]
    have hrequest : (req.lines.map (·.saleItemId)).map merged = requestedSignature req.lines := by
      rw [List.map_map]
      refine List.map_congr_left fun l hl => ?_
      obtain ⟨hqty, hrestock⟩ := merged_eq_self hnodup hl
      simp only [Function.comp_apply, merged, hqty, hrestock, numeric_eq_self (hgrid l hl)]
    rw [hstored, hlines, h.named, distinct_eq_self hnodup, hrequest]

theorem recorded (h : ReturnWritten db db' req lines) (hdb : SalesRecorded db) :
    SalesRecorded db' := by
  obtain ⟨row, hreturns, hkey, -⟩ := h.header
  obtain ⟨rows, hrows, hvals⟩ := h.rows
  have hnew : ∀ r ∈ rows, r.val.saleReturnId = db.sales.returns.length ∧
      OnGrid 3 r.val.quantity := by
    intro r hr
    obtain ⟨l, -, hl⟩ := exists_of_map_eq hvals hr
    rw [← hl]
    exact ⟨rfl, onGrid_numeric 3 _⟩
  refine ⟨?_, ?_, ?_, ?_⟩
  -- the key was looked up under the lock, and no return had it
  · rw [returnKeys, hreturns, List.map_append, List.map_singleton, hkey]
    exact List.Nodup.append hdb.keys (List.nodup_singleton _)
      (List.disjoint_singleton.mpr h.unused)
  · rw [h.length_sales]
    refine h.overwritten.forall_mem hdb.items fun i old new hold hnew => ?_
    rcases hnew with ⟨l, -, -, -, hval⟩ | ⟨-, rfl⟩
    · rw [hval]
      exact ⟨hold.1, hold.2.1, onGrid_numeric 3 _⟩
    · exact hold
  · intro r hr
    rw [hreturns, List.length_append, List.length_singleton]
    rw [hrows] at hr
    rcases List.mem_append.mp hr with hr | hr
    · exact ⟨Nat.lt_succ_of_lt (hdb.rows r hr).1, (hdb.rows r hr).2⟩
    · exact ⟨by rw [(hnew r hr).1]; omega, (hnew r hr).2⟩
  -- the new return has one row for each item named; the rows of earlier returns are the same
  · intro k
    by_cases hk : k = db.sales.returns.length
    · have hsignature : (storedSignature db' k).map Prod.fst
          = (db'.sales.returnItems.filter (·.val.saleReturnId = k)).map (·.val.saleItemId) := by
        rw [storedSignature, List.map_map]
        rfl
      rw [← hsignature, hk, h.storedSignature_eq hdb, List.map_map]
      show (lines.map (·.saleItemId)).Nodup
      rw [h.named]
      exact nodup_distinct _
    · have hnone : rows.filter (·.val.saleReturnId = k) = [] := by
        refine List.filter_eq_nil_iff.mpr fun r hr => ?_
        simpa [(hnew r hr).1] using Ne.symm hk
      rw [hrows, List.filter_append, hnone, List.append_nil]
      exact hdb.distinct k

theorem grown (h : ReturnWritten db db' req lines) (hdb : SalesRecorded db) :
    SalesGrown db db' := by
  obtain ⟨row, hreturns, -⟩ := h.header
  obtain ⟨rows, hrows, hvals⟩ := h.rows
  refine ⟨h.sales, ?_, ?_, ⟨[row], hreturns.symm⟩, rows, hrows, ?_⟩
  · intro i item hi
    obtain ⟨item', hitem', hnew⟩ := h.overwritten.2 i item hi
    rcases hnew with ⟨l, hl, -, -, hval⟩ | ⟨-, rfl⟩
    · refine ⟨item', hitem', by rw [hval]; rfl, by rw [hval]; rfl, ?_⟩
      have hgrid := (hdb.items item (mem_of_row hi)).2.2
      rw [hval, ← numeric_eq_self hgrid]
      exact quantize_mono (by linarith [(h.planned l hl).quantity_pos])
    · exact ⟨item', hitem', rfl, rfl, le_rfl⟩
  · intro i item hi _
    rw [← h.length_items]
    exact (List.getElem?_eq_some_iff.mp hi).1
  · intro r hr
    obtain ⟨l, -, hl⟩ := exists_of_map_eq hvals hr
    rw [← hl]
    exact le_rfl

end ReturnWritten

theorem createSaleReturn_grows (hdb : SalesRecorded db)
    (h : createSaleReturn db req = .ok (db', saleReturnId)) :
    SalesRecorded db' ∧ SalesGrown db db' := by
  rcases createSaleReturn_written h with ⟨-, rfl⟩ | ⟨-, lines, hwritten⟩
  · exact ⟨hdb, .of_eq rfl⟩
  · exact ⟨hwritten.recorded hdb, hwritten.grown hdb⟩

theorem CreateSaleReturn.RecordedAs.lt_length (h : req.RecordedAs db saleReturnId) :
    saleReturnId < db.sales.returns.length := by
  obtain ⟨existing, hrow, -⟩ := h
  exact (List.getElem?_eq_some_iff.mp hrow).1

/-- What a return was recorded for names every item once. -/
theorem CreateSaleReturn.RecordedAs.namesItemsOnce (hdb : SalesRecorded db)
    (h : req.RecordedAs db saleReturnId) : req.NamesItemsOnce := by
  obtain ⟨existing, -, -, -, -, hperm⟩ := h
  constructor
  · have hids := hperm.map Prod.fst
    simp only [requestedSignature, storedSignature, List.map_map, Function.comp_def] at hids
    exact hids.nodup_iff.mp (hdb.distinct saleReturnId)
  · intro l hl
    have hmem : (l.saleItemId, l.quantity, l.restock) ∈ requestedSignature req.lines :=
      List.mem_map_of_mem hl
    obtain ⟨r, hr, hk⟩ := List.mem_map.mp (hperm.mem_iff.mpr hmem)
    simp only [Prod.mk.injEq] at hk
    rw [← hk.2.1]
    exact (hdb.rows r (List.mem_of_mem_filter hr)).2

/-- **A request that succeeds is recorded as it was asked for exactly when it names every item
once**, in whole thousandths. -/
theorem createSaleReturn_recordedAs_iff (hdb : SalesRecorded db)
    (h : createSaleReturn db req = .ok (db', saleReturnId)) :
    saleReturnId < db'.sales.returns.length ∧ req.clientTransactionId ∈ returnKeys db' ∧
      (req.RecordedAs db' saleReturnId ↔ req.NamesItemsOnce) := by
  rcases createSaleReturn_written h with ⟨hkey, rfl⟩ | ⟨rfl, lines, hwritten⟩
  · have hrecorded := (matchOrReject_eq_some hdb.keys).mp hkey
    exact ⟨hrecorded.lt_length, hrecorded.mem_returnKeys,
      iff_of_true hrecorded (hrecorded.namesItemsOnce hdb)⟩
  · obtain ⟨row, hreturns, hkey, -⟩ := hwritten.header
    refine ⟨by rw [hreturns]; simp, ?_, hwritten.recordedAs_iff hdb⟩
    rw [returnKeys, hreturns, List.map_append, List.map_singleton, hkey]
    exact List.mem_append_right _ (List.mem_singleton_self _)

/-- Where the key is taken, a request is answered only with the return it was recorded for. -/
theorem createSaleReturn_eq_self_iff (hkeys : (returnKeys db).Nodup)
    (htaken : req.clientTransactionId ∈ returnKeys db) :
    createSaleReturn db req = .ok (db', saleReturnId) ↔
      req.RecordedAs db saleReturnId ∧ db' = db := by
  rw [← matchOrReject_eq_some hkeys]
  constructor
  · intro h
    rcases createSaleReturn_ok h with hreplay | ⟨hnone, -⟩
    · exact hreplay
    · exact absurd htaken (matchOrReject_eq_none.mp hnone)
  · rintro ⟨hfound, rfl⟩
    unfold createSaleReturn
    rw [hfound]
    rfl

end Return

end Steps

end GroceryErp
