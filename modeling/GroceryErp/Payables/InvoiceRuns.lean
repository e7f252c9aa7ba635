import GroceryErp.Payables.InvoiceSteps

/-!
# Three-way match, and voided invoices

Over any run the invoiced quantity of an order item is what the lines of its posted
invoices come to, and lies between zero and what was received.  A voided invoice stays
voided in the runs in which no posting writes over a void that has come in between.

## Main definitions

* `StillAsRefreshed` — the row a posting writes is the one it has read again.

## Main results

* `three_way_match` — **the invoiced quantities, over any run.**
* `voided_invoice_stays_voided` — where rows are as refreshed, a voided invoice stays so.
* `voided_invoice_posted` — a void in between is written over.

## References

`backend/app/modules/ap/service.py`, `post_purchase_invoice`, `void_purchase_invoice`.
-/

namespace GroceryErp

open Decimal Ledger Outcome Rows Runs Transactions

section Match

variable {db db' : Db} {held : PayablesLock → Prop}

/-! ### The lines of one invoice -/

/-- What the lines of an invoice ask for of an order item. -/
theorem requestedByItem_invoiceLines (purchaseInvoiceId itemId : ℕ) :
    requestedByItem (invoiceLines db purchaseInvoiceId) itemId
      = sumWhere (fun l => l.val.purchaseOrderItemId = itemId ∧
          l.val.purchaseInvoiceId = purchaseInvoiceId) (·.val.quantityInvoiced)
          db.payables.lines := by
  calc requestedByItem (invoiceLines db purchaseInvoiceId) itemId
      = sumWhere (·.val.purchaseOrderItemId = itemId) (·.val.quantityInvoiced)
          ((invoiceLines db purchaseInvoiceId).map Prod.snd) := by
        rw [sumWhere_map]
        rfl
    _ = _ := by
      unfold invoiceLines
      rw [map_snd_rowsWhere, sumWhere_filter]

theorem requestedByItem_eq_zero {lines : List (ℕ × Row PurchaseInvoiceLine)} {itemId : ℕ}
    (h : itemId ∉ invoicedItemIds lines) : requestedByItem lines itemId = 0 := by
  rw [invoicedItemIds, mem_distinct] at h
  exact sumWhere_of_notMem _ h

theorem onGrid_requestedByItem {purchaseInvoiceId : ℕ}
    (h : ∀ l ∈ db.payables.lines, OnGrid 3 l.val.quantityInvoiced) (itemId : ℕ) :
    OnGrid 3 (requestedByItem (invoiceLines db purchaseInvoiceId) itemId) := by
  rw [requestedByItem_invoiceLines]
  refine onGrid_sum _ fun x hx => ?_
  obtain ⟨l, hl, rfl⟩ := List.mem_map.mp hx
  exact h l (List.mem_of_mem_filter hl)

/-! ### One commit -/

theorem liveInvoice_congr {i : ℕ}
    (h : db'.payables.invoices[i]? = db.payables.invoices[i]?) :
    (LiveInvoice db' i ↔ LiveInvoice db i) ∧ liveTotal db' i = liveTotal db i := by
  unfold LiveInvoice liveTotal
  rw [h]
  exact ⟨Iff.rfl, rfl⟩

/-- A draft that is appended does not count. -/
theorem InvoicesKept.live {locked : ℕ → Prop} (h : InvoicesKept locked db db') (i : ℕ) :
    (LiveInvoice db' i ↔ LiveInvoice db i) ∧ liveTotal db' i = liveTotal db i := by
  obtain ⟨new, hnew, hdraft⟩ := h.invoices
  by_cases hi : i < db.payables.invoices.length
  · refine liveInvoice_congr ?_
    rw [hnew, List.getElem?_append_left hi]
  have hnone : db.payables.invoices[i]? = none := List.getElem?_eq_none (not_lt.mp hi)
  have hnotLive : ∀ x, db'.payables.invoices[i]? = some x → ¬x.val.status.Counted := by
    intro x hx hlive
    rw [hnew, List.getElem?_append_right (not_lt.mp hi)] at hx
    exact hlive.1 (hdraft x (mem_of_row hx))
  unfold LiveInvoice liveTotal
  rw [hnone]
  constructor
  · constructor
    · rintro ⟨x, hx, hlive⟩
      exact absurd hlive (hnotLive x hx)
    · rintro ⟨x, hx, -⟩
      cases hx
  · cases hx : db'.payables.invoices[i]? with
    | none => rfl
    | some x => exact if_neg (hnotLive x hx)

theorem InvoicesKept.liveQty {locked : ℕ → Prop} (h : InvoicesKept locked db db') (i : ℕ) :
    liveQty db' i = liveQty db i := by
  obtain ⟨new, hnew, hlines⟩ := h.lines
  have hfresh : ¬LiveInvoice db db.payables.invoices.length := by
    rintro ⟨x, hx, -⟩
    rw [List.getElem?_eq_none le_rfl] at hx
    cases hx
  unfold GroceryErp.liveQty
  rw [hnew, sumWhere_append]
  have hnone : sumWhere (fun l => l.val.purchaseOrderItemId = i ∧
      LiveInvoice db' l.val.purchaseInvoiceId) (·.val.quantityInvoiced) new = 0 := by
    refine sumWhere_eq_zero _ _ fun l hl hlive => absurd ?_ hfresh
    rw [← (hlines l hl).2]
    exact (h.live _).1.mp hlive.2
  rw [hnone, add_zero]
  exact sumWhere_congr (fun l _ => and_congr_right fun _ => (h.live _).1) fun _ _ _ => rfl

theorem InvoicesKept.matched {locked : ℕ → Prop} (h : InvoicesKept locked db db')
    (hdb : db.InvoicedMatch) : db'.InvoicedMatch where
  items := by
    intro item hitem
    obtain ⟨i, hi⟩ := List.getElem?_of_mem hitem
    obtain ⟨old, -, hstored, -⟩ := h.items.row hi
    exact hstored
  lines := by
    obtain ⟨new, hnew, hlines⟩ := h.lines
    intro l hl
    rw [hnew] at hl
    rcases List.mem_append.mp hl with hl | hl
    · exact hdb.lines l hl
    · exact (hlines l hl).1
  invoiced := by
    intro i item hitem
    obtain ⟨old, hold, -, -, hinvoiced, -⟩ := h.items.row hitem
    rw [hinvoiced, h.liveQty, hdb.invoiced i old hold]

section Moved

variable {purchaseInvoiceId : ℕ} {row : Row PurchaseInvoice} {status : InvoiceStatus}
  {loaded : List (ℕ × Row PurchaseOrderItem)} {change : ℕ → ℚ} {owed : ℚ}

/-- Of all invoices, only the one that is moved may come to count, or cease to. -/
theorem InvoiceMoved.live (h : InvoiceMoved purchaseInvoiceId row status loaded change owed db db')
    (i : ℕ) : LiveInvoice db' i ↔
      (i = purchaseInvoiceId ∧ status.Counted) ∨ (i ≠ purchaseInvoiceId ∧ LiveInvoice db i) := by
  obtain ⟨row', hinvoices, hstatus, -⟩ := h.invoices
  unfold LiveInvoice
  rw [hinvoices, getElem?_set_of_some h.found]
  by_cases hi : purchaseInvoiceId = i
  · subst hi
    simp [hstatus]
  · simp [hi, Ne.symm hi]

theorem InvoiceMoved.live_before
    (h : InvoiceMoved purchaseInvoiceId row status loaded change owed db db') :
    LiveInvoice db purchaseInvoiceId ↔ row.val.status.Counted := by
  unfold LiveInvoice
  rw [h.found]
  simp

/-- An invoice comes to count: what was live of an item grows by the quantities of its lines. -/
theorem InvoiceMoved.liveQty_posted
    (h : InvoiceMoved purchaseInvoiceId row status loaded change owed db db')
    (hrow : ¬row.val.status.Counted) (hstatus : status.Counted) (i : ℕ) :
    liveQty db' i = liveQty db i + requestedByItem (invoiceLines db purchaseInvoiceId) i := by
  rw [requestedByItem_invoiceLines]
  unfold liveQty
  rw [h.lines]
  refine sumWhere_or (fun l _ => ?_) fun l _ hlive heq => ?_
  · rw [h.live]
    by_cases hl : l.val.purchaseInvoiceId = purchaseInvoiceId
    · rw [hl]
      simp only [hstatus, h.live_before, hrow]
      tauto
    · simp [hl]
  · rw [heq.2, h.live_before] at hlive
    exact hrow hlive.2

/-- An invoice that has counted does no longer. -/
theorem InvoiceMoved.liveQty_unposted
    (h : InvoiceMoved purchaseInvoiceId row status loaded change owed db db')
    (hrow : row.val.status.Counted) (hstatus : ¬status.Counted) (i : ℕ) :
    liveQty db' i = liveQty db i + -requestedByItem (invoiceLines db purchaseInvoiceId) i := by
  rw [requestedByItem_invoiceLines, eq_add_neg_iff_add_eq]
  symm
  unfold liveQty
  rw [h.lines]
  refine sumWhere_or (fun l _ => ?_) fun l _ hlive heq => ?_
  · rw [h.live]
    by_cases hl : l.val.purchaseInvoiceId = purchaseInvoiceId
    · simp [hl, h.live_before, hrow, hstatus]
    · simp [hl]
  · rw [heq.2, h.live] at hlive
    rcases hlive.2 with ⟨-, hlive⟩ | ⟨hne, -⟩
    · exact hstatus hlive
    · exact hne rfl

/-- A draft does not count before its void, and not after. -/
theorem InvoiceMoved.liveQty_voided
    (h : InvoiceMoved purchaseInvoiceId row status loaded change owed db db')
    (hrow : ¬row.val.status.Counted) (hstatus : ¬status.Counted) (i : ℕ) :
    liveQty db' i = liveQty db i := by
  unfold liveQty
  rw [h.lines]
  refine sumWhere_congr (fun l _ => and_congr_right fun _ => ?_) fun _ _ _ => rfl
  rw [h.live]
  by_cases hl : l.val.purchaseInvoiceId = purchaseInvoiceId
  · simp [hl, h.live_before, hrow, hstatus]
  · simp [hl]

/-- The invoiced quantities are right after a commit that changes them as the lines of the
posted invoices change. -/
theorem InvoiceMoved.matched
    (h : InvoiceMoved purchaseInvoiceId row status loaded change owed db db')
    (hdb : db.InvoicedMatch)
    (hcurrent : ∀ x ∈ loaded, db.purchasing.orderItems[x.1]? = some x.2)
    (hnone : ∀ i ∉ loaded.map (·.1), change i = 0) (hgrid : ∀ i, OnGrid 3 (change i))
    (hqty : ∀ i, liveQty db' i = liveQty db i + change i) : db'.InvoicedMatch where
  items := by
    intro item hitem
    obtain ⟨i, hi⟩ := List.getElem?_of_mem hitem
    obtain ⟨old, -, hstored, -⟩ := h.items.row hi
    exact hstored
  lines := by
    rw [h.lines]
    exact hdb.lines
  invoiced := by
    intro i item hitem
    obtain ⟨old, hold, -, -, hwritten⟩ := h.items.row hitem
    have hbefore := hdb.invoiced i old hold
    rcases hwritten with ⟨x, hx, rfl, hval⟩ | ⟨hnot, rfl⟩
    · obtain rfl : x.2 = old := Option.some.inj ((hcurrent x hx).symm.trans hold)
      have hstored : OnGrid 3 x.2.val.quantityInvoiced := by
        rw [← hdb.items x.2 (mem_of_row hold)]
        exact onGrid_numeric 3 _
      rw [hval, numeric_eq_self (hstored.add (hgrid x.1)), hqty, hbefore]
    · rw [hqty, hnone i hnot, add_zero, hbefore]

/-- What the entries for the invoices add to Accounts Payable, after one of them is moved. -/
theorem InvoiceMoved.payable_matched
    (h : InvoiceMoved purchaseInvoiceId row status loaded change owed db db')
    (hdb : db.PayableMatch)
    (howed : (if status.Counted then numeric 6 row.val.grandTotal else 0)
      = (if row.val.status.Counted then numeric 6 row.val.grandTotal else 0) + owed) :
    db'.PayableMatch := by
  intro i
  obtain ⟨row', hinvoices, hstatus, htotal⟩ := h.invoices
  rw [h.payable, hdb i]
  unfold liveTotal
  rw [hinvoices, getElem?_set_of_some h.found]
  by_cases hi : i = purchaseInvoiceId
  · subst hi
    rw [if_pos rfl, if_pos rfl, h.found]
    dsimp only
    rw [hstatus, htotal, howed]
  · rw [if_neg hi, if_neg (Ne.symm hi), add_zero]

end Moved

/-- A commit keeps the invoiced quantities, and what the invoices add to Accounts Payable. -/
theorem InvoiceStep.matched {t : InvoiceWork} (h : InvoiceStep db t db') (ht : t.Knows held db)
    (hdb : db.InvoicedMatch) :
    db'.InvoicedMatch ∧ (db.PayableMatch → db'.PayableMatch) := by
  cases h with
  | kept h => exact ⟨h.matched hdb, fun hp i => by rw [h.payable, hp i, (h.live i).2]⟩
  | received h => exact ⟨h.matched hdb, fun hp i => by rw [h.payable, hp i, (h.live i).2]⟩
  -- the planned quantities are those of the lines, and the items are as the plan has read them
  | @posted req plan row _ h =>
    obtain ⟨-, hplan⟩ := ht
    obtain ⟨r, hr, htotal, hstatus⟩ := hplan.row
    obtain rfl : row = r := Option.some.inj (h.found.symm.trans hr)
    have hrow : ¬row.val.status.Counted := by
      rcases hstatus with rfl | hvoided
      · exact fun hlive => hlive.1 hplan.draft
      · exact fun hlive => hlive.2 hvoided
    have hposted : InvoiceStatus.Counted .posted := by decide
    refine ⟨h.matched hdb hplan.items.current (fun i hi => ?_) (fun i => ?_) fun i => ?_,
      fun hp => h.payable_matched hp ?_⟩
    · rw [hplan.items.keys] at hi
      exact requestedByItem_eq_zero hi
    · rw [hplan.lines]
      exact onGrid_requestedByItem hdb.lines i
    · rw [h.liveQty_posted hrow hposted, hplan.lines]
    · rw [if_pos hposted, if_neg hrow, zero_add, htotal]
  -- voiding a posted invoice takes its quantities off, the same ones that its posting added
  | @unposted req invoice row plan _ h =>
    obtain ⟨hvoid, hitems⟩ := ht
    obtain rfl : row = invoice := Option.some.inj (h.found.symm.trans hvoid.row)
    have hrow : row.val.status.Counted := by
      rw [hvoid.posted]
      decide
    have hvoided : ¬InvoiceStatus.Counted .voided := by decide
    refine ⟨h.matched hdb hitems.current (fun i hi => ?_) (fun i => ?_) fun i => ?_,
      fun hp => h.payable_matched hp ?_⟩
    · rw [hitems.keys] at hi
      rw [requestedByItem_eq_zero hi, neg_zero]
    · rw [hvoid.loaded]
      exact (onGrid_requestedByItem hdb.lines i).neg
    · rw [h.liveQty_unposted hrow hvoided, hvoid.loaded]
    · rw [if_neg hvoided, if_pos hrow, add_neg_cancel]
  -- a draft was never counted, so voiding it changes no sum
  | @voided req invoice row _ h =>
    obtain ⟨-, hrow, hdraft⟩ := ht
    obtain rfl : row = invoice := Option.some.inj (h.found.symm.trans hrow)
    have hlive : ¬row.val.status.Counted := fun hlive => hlive.1 hdraft
    have hvoided : ¬InvoiceStatus.Counted .voided := by decide
    refine ⟨h.matched hdb (fun x hx => absurd hx List.not_mem_nil) (fun _ _ => rfl)
      (fun _ => onGrid_zero 3) fun i => ?_, fun hp => h.payable_matched hp ?_⟩
    · rw [h.liveQty_voided hlive hvoided, add_zero]
    · rw [if_neg hvoided, if_neg hlive, add_zero]

end Match

/-! ### Any run -/

theorem invoicing_matched : invoicing.Keeps (fun _ _ => True) Db.InvoicedMatch InvoiceWork.Knows :=
  invoicing_keeps (fun _ hdb => hdb.items) fun _ k t _ hsv _ hopen hstep =>
    (hstep.matched (hsv.sessions k t hopen) hsv.tables).1

/-- **The three-way match, over any run**: the invoiced quantity of an order item is what the
lines of its posted, non-voided invoices come to, and no more than was received. -/
theorem three_way_match {db₀ : Db} (hdb₀ : db₀.InvoicedMatch)
    {sv : Server Db PayablesLock InvoiceWork}
    (h : Reaches invoicing.exec (fun _ _ => True) { tables := db₀ } sv) (i : ℕ)
    (item : Row PurchaseOrderItem) (hitem : sv.tables.purchasing.orderItems[i]? = some item) :
    0 ≤ item.val.quantityInvoiced ∧ item.val.quantityInvoiced ≤ item.val.quantityReceived ∧
      item.val.quantityInvoiced = sumWhere
        (fun l => l.val.purchaseOrderItemId = i ∧ LiveInvoice sv.tables l.val.purchaseInvoiceId)
        (·.val.quantityInvoiced) sv.tables.payables.lines := by
  have hsv := invoicing_matched.reaches (Server.inv_of_tables hdb₀) h
  have hstored := hsv.tables.items item (mem_of_row hitem)
  have hnonneg := item.property.invoiced_nonneg
  have hle := item.property.invoiced_le
  rw [hstored] at hnonneg hle
  exact ⟨hnonneg, hle, hsv.tables.invoiced i item hitem⟩

/-- Ten apples were ordered and four have come; an invoice for three of them is a draft. -/
def applesInvoiced : Db where
  master := { stores := [⟨true, none⟩], suppliers := [⟨true, some 30⟩] }
  stock := {
    products := [
      ⟨{ storeId := 0, sku := "APPLE", categoryId := none, currentPrice := 2, currentCost := 1
         taxRateId := none, currentQtyOnHand := 4, allowNegativeStock := false
         isActive := true }, by decide +kernel⟩] }
  purchasing := {
    orders := [⟨0, 0, "order-1", .partiallyReceived, 0, none⟩]
    orderItems := [⟨⟨0, 0, 10, 4, 0, 1⟩, by decide +kernel⟩]
    receipts := [⟨0, 0, "receipt-1", 0⟩]
    receiptItems := [⟨⟨0, 0, 4, 1⟩, by decide +kernel⟩] }
  payables := {
    invoices := [
      ⟨{ storeId := 0, supplierId := 0, purchaseOrderId := some 0, invoiceNumber := "A-1"
         invoiceDate := 0, dueDate := 30, status := .draft, subtotal := 3, discountTotal := 0
         taxTotal := 0, grandTotal := 3, amountPaid := 0, amountCredited := 0
         clientTransactionId := "invoice-1", postedAt := none, voidedAt := none },
        by decide +kernel⟩]
    lines := [⟨⟨0, 0, 0, 3, 1, 0, 0, 3⟩, by decide +kernel⟩] }

theorem applesInvoiced_match : applesInvoiced.InvoicedMatch where
  items := by decide +kernel
  lines := by decide +kernel
  invoiced := by
    intro i item hitem
    obtain rfl : i = 0 := by
      have hi := (List.getElem?_eq_some_iff.mp hitem).1
      exact Nat.lt_one_iff.mp hi
    obtain rfl := Option.some.inj hitem
    decide +kernel

/-- What has become of the server after some events. -/
def invoicingAfter (es : List (Event InvoiceRequest)) (sv : Server Db PayablesLock InvoiceWork) :
    Except Refused (Server Db PayablesLock InvoiceWork) :=
  es.foldlM (fun sv e => invoicing.exec e sv) sv

def applesDrafted : Server Db PayablesLock InvoiceWork := { tables := applesInvoiced }

def applesPosted : Server Db PayablesLock InvoiceWork :=
  value (invoicingAfter [.begin 0 (.postPurchaseInvoice ⟨0, none, 1⟩), .step 0, .step 0, .step 0,
    .step 0, .step 0] applesDrafted) (by decide +kernel)

/-- The invoice is posted, and three of the four apples are invoiced. -/
theorem three_way_match_apples : ∃ item, applesPosted.tables.purchasing.orderItems[0]? = some item ∧
    item.val.quantityInvoiced = 3 ∧ 0 ≤ item.val.quantityInvoiced ∧
    item.val.quantityInvoiced ≤ item.val.quantityReceived := by
  have hitem : ∃ item, applesPosted.tables.purchasing.orderItems[0]? = some item ∧
      item.val.quantityInvoiced = 3 := by
    have hinvoiced : (applesPosted.tables.purchasing.orderItems[0]?.map (·.val.quantityInvoiced))
        = some 3 := by decide +kernel
    exact Option.map_eq_some_iff.mp hinvoiced
  obtain ⟨item, hrow, hthree⟩ := hitem
  obtain ⟨hnonneg, hle, -⟩ := three_way_match applesInvoiced_match
    (reaches_of_foldlM (eq_ok_value _ _)) 0 item hrow
  exact ⟨item, hrow, hthree, hnonneg, hle⟩

/-! ### Voided invoices -/

/-- The row that a posting writes is the one it has read again. -/
def StillAsRefreshed (sv : Server Db PayablesLock InvoiceWork) : Event InvoiceRequest → Prop
  | .step k => ∀ req plan, sv.sessions k = some (.finishPosting req plan) →
      sv.tables.payables.invoices[req.purchaseInvoiceId]? = some plan.invoice
  | .begin _ _ | .rollback _ => True

/-- The invoices that were voided then are voided now. -/
def Db.VoidedSince (db₀ db : Db) : Prop :=
  ∀ i, HasAt db₀.payables.invoices (·.val.status) i .voided →
    HasAt db.payables.invoices (·.val.status) i .voided

section Voided

variable {db db' : Db} {held : PayablesLock → Prop}

/-- A move to another row, or to the same status. -/
theorem InvoiceMoved.voided_kept {i : ℕ} {row : Row PurchaseInvoice} {status : InvoiceStatus}
    {loaded : List (ℕ × Row PurchaseOrderItem)} {change : ℕ → ℚ} {owed : ℚ}
    (h : InvoiceMoved i row status loaded change owed db db')
    (hrow : row.val.status = .voided → status = .voided) : db.VoidedSince db' := by
  obtain ⟨row', hinvoices, hstatus, -⟩ := h.invoices
  rintro j ⟨r, hr, hvoided⟩
  rw [hinvoices]
  by_cases hj : i = j
  · subst hj
    obtain rfl : r = row := Option.some.inj (hr.symm.trans h.found)
    refine ⟨row', by rw [getElem?_set_of_some h.found, if_pos rfl], ?_⟩
    exact hstatus.trans (hrow hvoided)
  · exact ⟨r, by rw [getElem?_set_of_some h.found, if_neg hj, hr], hvoided⟩

/-- A commit keeps voided invoices voided, where a posting writes the row it has read. -/
theorem InvoiceStep.voided_kept {t : InvoiceWork} (h : InvoiceStep db t db')
    (ht : t.Knows held db) (hread : ∀ req plan, t = .finishPosting req plan →
      db.payables.invoices[req.purchaseInvoiceId]? = some plan.invoice) :
    db.VoidedSince db' := by
  have hkept : ∀ {locked}, InvoicesKept locked db db' → db.VoidedSince db' := by
    intro locked hk i hi
    obtain ⟨new, hnew, -⟩ := hk.invoices
    rw [hnew]
    exact hi.append new
  cases h with
  | kept h => exact hkept h
  | received h => exact hkept h
  | @posted req plan row _ h =>
    refine h.voided_kept fun hvoided => ?_
    obtain rfl : row = plan.invoice :=
      Option.some.inj (h.found.symm.trans (hread req plan rfl))
    rw [ht.2.draft] at hvoided
    cases hvoided
  | unposted h => exact h.voided_kept fun _ => rfl
  | voided h => exact h.voided_kept fun _ => rfl

/-- A posting that commits on another row than it has read writes over a void. -/
theorem posting_over_void {req : PostPurchaseInvoice} {plan : PostingPlan} {d : Db}
    (hdb : db.InvoicedMatch) (hplan : plan.Known held db req.purchaseInvoiceId)
    (hdone : finishPosting db req plan = .ok d)
    (hread : db.payables.invoices[req.purchaseInvoiceId]? ≠ some plan.invoice) :
    HasAt db.payables.invoices (·.val.status) req.purchaseInvoiceId .voided ∧
      HasAt d.commit.payables.invoices (·.val.status) req.purchaseInvoiceId .posted := by
  obtain ⟨row, hrow, -, hstatus⟩ := hplan.row
  obtain ⟨r, hmoved⟩ := invoiceMoved_posted hdb.items hdone
  obtain ⟨row', hinvoices, hposted, -⟩ := hmoved.invoices
  constructor
  · refine ⟨row, hrow, hstatus.resolve_left ?_⟩
    rintro rfl
    exact hread hrow
  · refine ⟨row', ?_, hposted⟩
    rw [hinvoices, getElem?_set_of_some hmoved.found, if_pos rfl]

theorem Db.VoidedSince.trans {db'' : Db} (h : db.VoidedSince db') (h' : db'.VoidedSince db'') :
    db.VoidedSince db'' := fun i hi => h' i (h i hi)

theorem invoicing_voided (db₀ : Db) : invoicing.Keeps StillAsRefreshed
    (fun db => db.InvoicedMatch ∧ db.PayableMatch ∧ db₀.VoidedSince db) InvoiceWork.Knows := by
  refine invoicing_keeps (fun _ hdb => hdb.1.items) fun sv k t d hsv hok hopen hstep => ?_
  obtain ⟨hmatch, hpayable, hvoided⟩ := hsv.tables
  have ht := hsv.sessions k t hopen
  obtain ⟨hmatch', hpayable'⟩ := hstep.matched ht hmatch
  refine ⟨hmatch', hpayable' hpayable, hvoided.trans (hstep.voided_kept ht ?_)⟩
  rintro req plan rfl
  exact hok req plan hopen

/-- A voided invoice has no part in the invoiced quantities, and adds nothing to Accounts
Payable. -/
theorem voided_contributes_nothing {i : ℕ} (hmatch : db.InvoicedMatch) (hpayable : db.PayableMatch)
    (hi : HasAt db.payables.invoices (·.val.status) i .voided) :
    invoicedAp db i = 0 ∧ ∀ (j : ℕ) (item : Row PurchaseOrderItem),
      db.purchasing.orderItems[j]? = some item → item.val.quantityInvoiced = sumWhere
        (fun l => l.val.purchaseOrderItemId = j ∧ l.val.purchaseInvoiceId ≠ i ∧
          LiveInvoice db l.val.purchaseInvoiceId) (·.val.quantityInvoiced) db.payables.lines := by
  obtain ⟨invoice, hinvoice, hvoided⟩ := hi
  have hcounted : ¬invoice.val.status.Counted := fun hcounted => hcounted.2 hvoided
  constructor
  · rw [hpayable i, liveTotal, hinvoice]
    exact if_neg hcounted
  · intro j item hitem
    rw [hmatch.invoiced j item hitem]
    refine sumWhere_congr (fun l _ => and_congr_right fun _ => ?_) fun _ _ _ => rfl
    refine ⟨fun hlive => ⟨?_, hlive⟩, And.right⟩
    rintro rfl
    obtain ⟨x, hx, hlive⟩ := hlive
    obtain rfl : invoice = x := Option.some.inj (hinvoice.symm.trans hx)
    exact hcounted hlive

end Voided

/-- **Where every posting writes the row it has read again**, a voided invoice stays voided
and contributes nothing; and a posting that commits on another row makes a voided invoice a
posted one. -/
theorem voided_invoice_stays_voided {db₀ : Db} (hmatch : db₀.InvoicedMatch)
    (hpayable : db₀.PayableMatch) :
    (∀ sv sv', Reaches invoicing.exec StillAsRefreshed { tables := db₀ } sv →
      Reaches invoicing.exec StillAsRefreshed sv sv' →
      ∀ i, HasAt sv.tables.payables.invoices (·.val.status) i .voided →
        HasAt sv'.tables.payables.invoices (·.val.status) i .voided ∧
        invoicedAp sv'.tables i = 0 ∧
        ∀ (j : ℕ) (item : Row PurchaseOrderItem),
          sv'.tables.purchasing.orderItems[j]? = some item →
          item.val.quantityInvoiced = sumWhere
            (fun l => l.val.purchaseOrderItemId = j ∧ l.val.purchaseInvoiceId ≠ i ∧
              LiveInvoice sv'.tables l.val.purchaseInvoiceId)
            (·.val.quantityInvoiced) sv'.tables.payables.lines) ∧
    ∀ sv k req plan d, Reaches invoicing.exec (fun _ _ => True) { tables := db₀ } sv →
      sv.sessions k = some (.finishPosting req plan) →
      finishPosting sv.tables req plan = .ok d →
      sv.tables.payables.invoices[req.purchaseInvoiceId]? ≠ some plan.invoice →
      HasAt sv.tables.payables.invoices (·.val.status) req.purchaseInvoiceId .voided ∧
        HasAt d.commit.payables.invoices (·.val.status) req.purchaseInvoiceId .posted := by
  constructor
  -- the run up to the first state, and the run on from it with the voided invoices as its start
  · intro sv sv' h h' i hi
    have hsv := (invoicing_voided db₀).reaches
      (Server.inv_of_tables ⟨hmatch, hpayable, fun _ => id⟩) h
    obtain ⟨hsvMatch, hsvPayable, -⟩ := hsv.tables
    have hsv' := (invoicing_voided sv.tables).reaches
      ⟨⟨hsvMatch, hsvPayable, fun _ => id⟩, hsv.sessions, hsv.holders⟩ h'
    obtain ⟨hmatch', hpayable', hvoided⟩ := hsv'.tables
    exact ⟨hvoided i hi, voided_contributes_nothing hmatch' hpayable' (hvoided i hi)⟩
  · intro sv k req plan d h hopen hdone hread
    have hsv := invoicing_matched.reaches (Server.inv_of_tables hmatch) h
    exact posting_over_void hsv.tables (hsv.sessions k _ hopen).2 hdone hread

theorem applesInvoiced_payable : applesInvoiced.PayableMatch := by
  intro i
  cases i with
  | zero => decide +kernel
  | succ i =>
    have hnone : applesInvoiced.payables.invoices[i + 1]? = none := rfl
    rw [liveTotal, hnone]
    exact neg_zero

def voidBegun : Server Db PayablesLock InvoiceWork :=
  value (invoicing.exec (.begin 0 (.voidPurchaseInvoice ⟨0, none, 2⟩)) applesDrafted)
    (by decide +kernel)

def voidLocked : Server Db PayablesLock InvoiceWork :=
  value (invoicing.exec (.step 0) voidBegun) (by decide +kernel)

def applesVoided : Server Db PayablesLock InvoiceWork :=
  value (invoicing.exec (.step 0) voidLocked) (by decide +kernel)

def postBegun : Server Db PayablesLock InvoiceWork :=
  value (invoicing.exec (.begin 0 (.postPurchaseInvoice ⟨0, none, 3⟩)) applesVoided)
    (by decide +kernel)

def postRefused : Server Db PayablesLock InvoiceWork :=
  value (invoicing.exec (.step 0) postBegun) (by decide +kernel)

/-- The invoice is voided, and then cannot be posted. -/
theorem voided_invoice_stays_voided_apples :
    HasAt postRefused.tables.payables.invoices (·.val.status) 0 .voided ∧
      invoicedAp postRefused.tables 0 = 0 := by
  obtain ⟨hstays, -⟩ := voided_invoice_stays_voided applesInvoiced_match applesInvoiced_payable
  have hbegun : Reaches invoicing.exec StillAsRefreshed applesDrafted voidBegun :=
    .next (r := .begin 0 (.voidPurchaseInvoice ⟨0, none, 2⟩)) .start trivial (eq_ok_value _ _)
  have hlocked : Reaches invoicing.exec StillAsRefreshed applesDrafted voidLocked := by
    refine .next (r := .step 0) hbegun ?_ (eq_ok_value _ _)
    rintro req plan ⟨⟩
  have hvoided : Reaches invoicing.exec StillAsRefreshed applesDrafted applesVoided := by
    refine .next (r := .step 0) hlocked ?_ (eq_ok_value _ _)
    rintro req plan ⟨⟩
  have hpost : Reaches invoicing.exec StillAsRefreshed applesVoided postBegun :=
    .next (r := .begin 0 (.postPurchaseInvoice ⟨0, none, 3⟩)) .start trivial (eq_ok_value _ _)
  have hrefused : Reaches invoicing.exec StillAsRefreshed applesVoided postRefused := by
    refine .next (r := .step 0) hpost ?_ (eq_ok_value _ _)
    have hloads : (postBegun.sessions 0).all (fun | .finishPosting _ _ => false | _ => true) := by
      decide +kernel
    intro req plan hopen
    rw [hopen] at hloads
    cases hloads
  have hrow : HasAt applesVoided.tables.payables.invoices (·.val.status) 0 .voided := by
    have hstatus : (applesVoided.tables.payables.invoices[0]?.map (·.val.status))
        = some .voided := by decide +kernel
    exact Option.map_eq_some_iff.mp hstatus
  obtain ⟨hkept, hap, -⟩ := hstays applesVoided postRefused hvoided hrefused 0 hrow
  exact ⟨hkept, hap⟩

/-! ### A void between the second look and the write -/

/-- A posting has the lock on the order and has read the draft again; the draft is voided. -/
def voidedAfterRefresh : Server Db PayablesLock InvoiceWork :=
  value (invoicingAfter [.begin 0 (.postPurchaseInvoice ⟨0, none, 1⟩), .step 0, .step 0, .step 0,
    .begin 1 (.voidPurchaseInvoice ⟨0, none, 1⟩), .step 1, .step 1] applesDrafted)
    (by decide +kernel)

/-- The posting gets the lock on the invoice, and commits. -/
def postedAfterVoid : Server Db PayablesLock InvoiceWork :=
  value (invoicingAfter [.step 0, .step 0] voidedAfterRefresh) (by decide +kernel)

/-- A voided invoice is posted, by a posting that had read it as a draft before the void and writes
its status afterwards. -/
theorem voided_invoice_posted :
    ¬∀ sv sv' : Server Db PayablesLock InvoiceWork,
      Reaches invoicing.exec (fun _ _ => True) applesDrafted sv →
      Reaches invoicing.exec (fun _ _ => True) sv sv' →
      ∀ i, HasAt sv.tables.payables.invoices (·.val.status) i .voided →
        HasAt sv'.tables.payables.invoices (·.val.status) i .voided := by
  intro hall
  have hbefore : (voidedAfterRefresh.tables.payables.invoices[0]?.map (·.val.status))
      = some .voided := by decide +kernel
  have hafter : (postedAfterVoid.tables.payables.invoices[0]?.map (·.val.status))
      = some .posted := by decide +kernel
  obtain ⟨row, hrow, hvoided⟩ := hall voidedAfterRefresh postedAfterVoid
    (reaches_of_foldlM (eq_ok_value _ _)) (reaches_of_foldlM (eq_ok_value _ _)) 0
    (Option.map_eq_some_iff.mp hbefore)
  have hstatus : row.val.status = .voided := hvoided
  rw [hrow, Option.map_some, hstatus] at hafter
  cases hafter

end GroceryErp
