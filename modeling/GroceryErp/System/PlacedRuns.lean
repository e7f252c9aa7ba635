import GroceryErp.System.Compensations
import GroceryErp.System.Orders

/-!
# What a request does to the stock

A request of any module is a request on stock, writes off losses, is about invoices, or writes
neither stock nor documents of it.  Whichever it is, its bookings are sound and the documents stay
placed.

## Main definitions

* `ErpRequest.asStock` — the request on stock that a request is.
* `LossesOnly`, `InvoicedOnly`, `OffStock` — what the others write at most.
* `StockCourse` — what a request does to the stock before its commit.
* `ErpRequest.AtScale` — the quantities that it moves have at most three decimals.

## Main results

* `ErpRequest.exec_course` — every request takes one of these courses.
* `exec_soundStep` — every request books soundly and keeps the documents placed.

## References

`backend/app/modules/inventory/service.py`, `discrepancies/service.py`, `writeoffs/service.py`,
`ap/service.py`.
-/

namespace GroceryErp

open Decimal Outcome Rows Runs

section Courses

variable {db d db' : Db}

/-! ### Losses -/

/-- Something is written off the lines at most. -/
structure LossesOnly (db db' : Db) : Prop where
  frame : db' = { db with
    transfers.lines := db'.transfers.lines
    losses := db'.losses
    ledger.entries := db'.ledger.entries }
  lines : Overwritten (fun _ a b => ∃ q, b.val = { a.val with writtenOffQuantity := q })
    db.transfers.lines db'.transfers.lines

theorem LossesOnly.of_frame
    (h : db' = { db with losses := db'.losses, ledger.entries := db'.ledger.entries }) :
    LossesOnly db db' := by
  have hlines : db'.transfers.lines = db.transfers.lines := by rw [h]
  refine ⟨by rw [h], ?_⟩
  rw [hlines]
  exact .refl _ fun i a _ => ⟨a.val.writtenOffQuantity, rfl⟩

/-- One line of which something else is written off. -/
theorem LossesOnly.of_set {i : ℕ} {line line' : Row InterStoreTransferLine} {q : ℚ}
    (hline : db.transfers.lines[i]? = some line)
    (hline' : line'.val = { line.val with writtenOffQuantity := q })
    (h : db' = { db with
      transfers.lines := db.transfers.lines.set i line'
      losses := db'.losses
      ledger.entries := db'.ledger.entries }) : LossesOnly db db' := by
  have hlines : db'.transfers.lines = db.transfers.lines.set i line' := by rw [h]
  have hsame : Overwritten (fun _ a b => ∃ q, b.val = { a.val with writtenOffQuantity := q })
      db.transfers.lines db.transfers.lines := .refl _ fun i a _ => ⟨a.val.writtenOffQuantity, rfl⟩
  refine ⟨by rw [h], ?_⟩
  rw [hlines]
  refine hsame.set hline ?_ fun _ _ _ _ hab => hab
  rintro a ⟨q', ha⟩
  exact ⟨q, by rw [hline', ha]⟩

/-- The request on stock that a request on transfers is. -/
def TransferRequest.asStock : TransferRequest → Option StockRequest
  | createTransfer req => some (.createTransfer req)
  | shipTransfer req => some (.shipTransfer req)
  | receiveTransfer req => some (.receiveTransfer req)
  | cancelTransfer req => some (.cancelTransfer req)
  | _ => none

/-- A request on transfers is one on stock, or writes off losses at most. -/
theorem TransferRequest.course {r : TransferRequest} (h : r.run db = .ok db') :
    (∃ s, r.asStock = some s ∧ s.run db = .ok db') ∨ LossesOnly db db' := by
  cases r with
  | createTransfer req => exact .inl ⟨_, rfl, h⟩
  | shipTransfer req => exact .inl ⟨_, rfl, h⟩
  | receiveTransfer req => exact .inl ⟨_, rfl, h⟩
  | cancelTransfer req => exact .inl ⟨_, rfl, h⟩
  | investigateDiscrepancy req =>
    obtain ⟨old, discrepancy, -, -, -, rfl⟩ := investigateDiscrepancy_ok h
    exact .inr (.of_frame rfl)
  | resolveDiscrepancy req =>
    obtain ⟨old, discrepancy, -, -, -, rfl⟩ := resolveDiscrepancy_ok h
    exact .inr (.of_frame rfl)
  | createWriteOff req =>
    obtain ⟨⟨d, i⟩, hrun, rfl⟩ := map_eq_ok.mp h
    rcases createWriteOff_ok hrun with rfl | ⟨discrepancy, w, -, -, -, -, -, -, -, rfl⟩
    · exact .inr (.of_frame rfl)
    · exact .inr (.of_frame rfl)
  -- a write-off posts, and writes the line of its discrepancy over
  | approveWriteOff req =>
    rcases approveWriteOff_ok h with rfl | ⟨w, w', discrepancy, line, line', approval, approvedBy, d,
      -, -, -, hline, -, -, hline', -, rfl⟩
    · exact .inr (.of_frame rfl)
    · exact .inr (.of_set hline hline' rfl)
  | denyWriteOff req =>
    rcases denyWriteOff_ok h with ⟨rfl, -⟩ | ⟨w, w', approval, approvedBy, old, discrepancy, -, -, -,
      -, -, -, rfl⟩
    · exact .inr (.of_frame rfl)
    · exact .inr (.of_frame rfl)
  | reverseWriteOff req =>
    rcases reverseWriteOff_ok h with rfl | ⟨w, w', line, line', d, -, -, hline, -, -, hline', rfl⟩
    · exact .inr (.of_frame rfl)
    · exact .inr (.of_set hline hline' rfl)

/-- Writing off leaves the lines where they are. -/
theorem LossesOnly.placed (h : LossesOnly db db') (hplaced : Placed db) : Placed db' := by
  have hframe := h.frame
  have hstock : db'.stock = db.stock := by rw [hframe]
  have htransfers : db'.transfers.transfers = db.transfers.transfers := by rw [hframe]
  refine hplaced.next (.of_eq (by rw [hstock])) (.inl (by rw [hframe])) (.inl (by rw [hframe]))
    (.inr ?_) (.inl ⟨by rw [hstock], by rw [hstock]⟩)
  intro b hb
  obtain ⟨i, hi⟩ := List.getElem?_of_mem hb
  obtain ⟨a, ha, q, hab⟩ := h.lines.row hi
  rw [hab, hstock, htransfers]
  exact hplaced.transfers a (mem_of_row ha)

/-! ### Invoices -/

/-- Order items are invoiced at most. -/
structure InvoicedOnly (db db' : Db) : Prop where
  frame : db' = { db with
    purchasing.orderItems := db'.purchasing.orderItems
    payables := db'.payables
    ledger.entries := db'.ledger.entries }
  items : db'.purchasing.orderItems.map (·.val.made) = db.purchasing.orderItems.map (·.val.made)

theorem InvoicedOnly.of_frame
    (h : db' = { db with payables := db'.payables, ledger.entries := db'.ledger.entries }) :
    InvoicedOnly db db' := by
  refine ⟨by rw [h], ?_⟩
  rw [h]

theorem settlement_invoicedOnly {r : SettlementRequest} (h : r.run db = .ok db') :
    InvoicedOnly db db' := by
  cases r with
  | recordSupplierPayment req =>
    obtain ⟨⟨d, i⟩, hrun, rfl⟩ := map_eq_ok.mp h
    rcases recordSupplierPayment_ok hrun with rfl | ⟨-, -, -, payment, rows, d, -, -, hd, hpost⟩
    · exact .of_frame rfl
    · exact .of_frame (by rw [postJournalUnlessEmpty_frame hpost, settleAll_frame hd])
  | createSupplierCreditNote req =>
    obtain ⟨⟨d, i⟩, hrun, rfl⟩ := map_eq_ok.mp h
    rcases createSupplierCreditNote_ok hrun with ⟨rfl, -⟩ | ⟨-, -, -, note, lines, rows, d, -, -, -,
      hd, hpost⟩
    · exact .of_frame rfl
    · exact .of_frame (by rw [postJournalUnlessEmpty_frame hpost, settleAll_frame hd])
  | reverseSupplierPayment req =>
    rcases reverseSupplierPayment_ok h with rfl | ⟨payment, d, e, -, -, hd, hpost, rfl⟩
    · exact .of_frame rfl
    · exact .of_frame (by rw [postJournal_frame hpost, settleAll_frame hd])
  | reverseSupplierCreditNote req =>
    rcases reverseSupplierCreditNote_ok h with rfl | ⟨note, row, d, e, -, -, hd, -, hpost, rfl⟩
    · exact .of_frame rfl
    · exact .of_frame (by rw [postJournal_frame hpost, settleAll_frame hd])
  | voidPurchaseInvoice req =>
    rcases voidPurchaseInvoice_steps h with rfl | ⟨invoice, -, hcases⟩
    · exact .of_frame rfl
    rcases hcases with ⟨-, plan, -, hfinish⟩ | ⟨-, hwrite⟩
    · obtain ⟨items, d, row, voided, hitems, hpost, -, -, rfl⟩ := finishVoid_ok hfinish
      -- a void gives the invoiced quantities back to their lines
      have hframe := postJournalUnlessEmpty_frame hpost
      exact ⟨by rw [hframe], by rw [hframe]; exact hitems.map_made⟩
    · obtain ⟨row, voided, -, -, rfl⟩ := writeVoided_eq_ok.mp hwrite
      exact .of_frame rfl

theorem createPurchaseInvoice_invoicedOnly {req : CreatePurchaseInvoice} {invoiceId : ℕ}
    (h : createPurchaseInvoice db req = .ok (db', invoiceId)) : InvoicedOnly db db' := by
  unfold createPurchaseInvoice at h
  rw [bind_eq_ok] at h
  obtain ⟨found, -, h⟩ := h
  cases found with
  | some found =>
    rw [pure_eq_ok, Prod.mk.injEq] at h
    exact .of_frame (by rw [← h.1])
  | none =>
    rw [bind_eq_ok] at h
    obtain ⟨plan, -, hinsert⟩ := h
    rcases insertInvoice_ok hinsert with rfl | ⟨invoice, lines, -, -, rfl⟩
    · exact .of_frame rfl
    · exact .of_frame rfl

theorem postPurchaseInvoice_invoicedOnly {req : PostPurchaseInvoice}
    (h : postPurchaseInvoice db req = .ok db') : InvoicedOnly db db' := by
  rcases postPurchaseInvoice_steps h with rfl | ⟨lines, plan, hload, -, hfinish⟩
  · exact .of_frame rfl
  obtain ⟨rfl, -, -⟩ := loadForPosting_ok hload
  obtain ⟨rows, items, row, posted, -, hitems, -, -, hpost⟩ := finishPosting_ok hfinish
  have hframe := postJournalUnlessEmpty_frame hpost
  exact ⟨by rw [hframe], by rw [hframe]; exact hitems.map_made⟩

/-- Invoicing leaves the order items where they are. -/
theorem InvoicedOnly.placed (h : InvoicedOnly db db') (hplaced : Placed db) : Placed db' := by
  have hframe := h.frame
  have hstock : db'.stock = db.stock := by rw [hframe]
  have horders : db'.purchasing.orders = db.purchasing.orders := by rw [hframe]
  refine hplaced.next (.of_eq (by rw [hstock])) (.inr ?_) (.inl (by rw [hframe]))
    (.inl (by rw [hframe])) (.inl ⟨by rw [hstock], by rw [hstock]⟩)
  intro i hi
  obtain ⟨j, hj, hsame⟩ := exists_of_map_eq h.items hi
  obtain ⟨storeId, hof, hproduct⟩ := hplaced.orders j hj
  have hmade : j.val.purchaseOrderId = i.val.purchaseOrderId ∧ j.val.productId = i.val.productId :=
    ⟨congrArg (·.1) hsame, congrArg (·.2.1) hsame⟩
  rw [hstock, horders, ← hmade.1, ← hmade.2]
  exact ⟨storeId, hof, hproduct⟩

/-! ### All requests -/

/-- Neither stock nor the documents that move it are written. -/
structure OffStock (db db' : Db) : Prop where
  stock : db'.stock = db.stock
  purchasing : db'.purchasing = db.purchasing
  sales : db'.sales = db.sales
  transfers : db'.transfers = db.transfers

theorem OffStock.placed (h : OffStock db db') (hplaced : Placed db) : Placed db' := by
  have hstock := h.stock
  exact hplaced.next (.of_eq (by rw [hstock])) (.inl h.purchasing) (.inl h.sales) (.inl h.transfers)
    (.inl ⟨by rw [hstock], by rw [hstock]⟩)

namespace ErpRequest

/-- The request on stock that a request is. -/
def asStock : ErpRequest → Option StockRequest
  | stock r => some r
  | transfer r => r.asStock
  | _ => none

/-- The quantities that the request moves have at most three decimals. -/
def AtScale (_ : Db) : ErpRequest → Prop
  | stock r => r.AtScale
  | transfer r => r.AtScale
  | _ => True

theorem AtScale.asStock {r : ErpRequest} {s : StockRequest} (hr : r.AtScale db)
    (h : r.asStock = some s) : s.AtScale := by
  cases r with
  | stock r => exact Option.some.inj h ▸ hr
  | transfer r =>
    cases r with
    | createTransfer req => exact Option.some.inj h ▸ trivial
    | shipTransfer req =>
      obtain rfl := Option.some.inj h
      exact hr
    | receiveTransfer req =>
      obtain rfl := Option.some.inj h
      exact fun l hl => (hr l hl).1
    | cancelTransfer req => exact Option.some.inj h ▸ trivial
    | _ => cases h
  | _ => cases h

end ErpRequest

/-- What a request does to the stock, before its commit. -/
inductive StockCourse (r : ErpRequest) (db d : Db) : Prop
  | onStock (s : StockRequest) (same : r.asStock = some s) (run : s.run db = .ok d)
  | losses (only : LossesOnly db d)
  | invoices (only : InvoicedOnly db d)
  | off (off : OffStock db d)

/-- **Every request takes one of these courses.** -/
theorem ErpRequest.exec_course {r : ErpRequest} (h : r.exec db = .ok db') :
    ∃ d, StockCourse r db d ∧ (db' = d ∨ db' = d.commit) := by
  cases r with
  | stock r =>
    obtain ⟨d, hrun, rfl⟩ := map_eq_ok.mp h
    exact ⟨d, .onStock r rfl hrun, .inr rfl⟩
  | transfer r =>
    obtain ⟨d, hrun, rfl⟩ := map_eq_ok.mp h
    rcases TransferRequest.course hrun with ⟨s, hsame, hs⟩ | honly
    · exact ⟨d, .onStock s hsame hs, .inr rfl⟩
    · exact ⟨d, .losses honly, .inr rfl⟩
  | createPurchaseInvoice req =>
    obtain ⟨⟨d, i⟩, hrun, rfl⟩ := map_eq_ok.mp h
    exact ⟨d, .invoices (createPurchaseInvoice_invoicedOnly hrun), .inr rfl⟩
  | postPurchaseInvoice req =>
    obtain ⟨d, hrun, rfl⟩ := map_eq_ok.mp h
    exact ⟨d, .invoices (postPurchaseInvoice_invoicedOnly hrun), .inr rfl⟩
  | settlement r =>
    obtain ⟨d, hrun, rfl⟩ := map_eq_ok.mp h
    exact ⟨d, .invoices (settlement_invoicedOnly hrun), .inr rfl⟩
  | workforce r =>
    have hframe := exec_frame h
    refine ⟨db', .off ⟨?_, ?_, ?_, ?_⟩, .inl rfl⟩
    all_goals rw [hframe]
  | closeAccountingPeriod req =>
    obtain ⟨books, -, rfl⟩ := map_eq_ok.mp h
    exact ⟨{ db with ledger.periods := books.periods }, .off ⟨rfl, rfl, rfl, rfl⟩, .inl rfl⟩

/-! ### Sound steps -/

/-- The bookings of the step are sound, and documents stay placed. -/
structure SoundStep (db db' : Db) : Prop where
  booked : ∃ bs, BookedAll bs db.stock db'.stock ∧ ∀ b ∈ bs, b.Sound
  placed : Placed db'

theorem SoundStep.of_eq (hstock : db'.stock = db.stock) (hplaced : Placed db') : SoundStep db db' :=
  ⟨⟨[], .nil (by rw [hstock]) (by rw [hstock]), by simp⟩, hplaced⟩

theorem SoundStep.inScale (h : SoundStep db db') (hs : StockInScale db.stock) :
    StockInScale db'.stock := by
  obtain ⟨bs, hrun, hsound⟩ := h.booked
  exact (hrun.value hsound hs).1

/-- Products in scale are committed as they are. -/
theorem SoundStep.commit (h : SoundStep db d) (hs : StockInScale db.stock) :
    SoundStep db d.commit := by
  obtain ⟨bs, hrun, hsound⟩ := h.booked
  exact ⟨⟨bs, hrun.congr_right (commit_products (h.inScale hs)) rfl, hsound⟩, h.placed.commit⟩

theorem StockCourse.soundStep {r : ErpRequest} (h : StockCourse r db d) (hs : StockInScale db.stock)
    (hplaced : Placed db) (hr : r.AtScale db) : SoundStep db d := by
  cases h with
  | onStock s same run =>
    obtain ⟨⟨bs, hrun, hsound, -⟩, hplaced'⟩ := StockRequest.run_placed hs hplaced (hr.asStock same) run
    exact ⟨⟨bs, hrun, hsound⟩, hplaced'⟩
  | losses only => exact .of_eq (by rw [only.frame]) (only.placed hplaced)
  | invoices only => exact .of_eq (by rw [only.frame]) (only.placed hplaced)
  | off off => exact .of_eq off.stock (off.placed hplaced)

/-- **Every request of every module books soundly and keeps the documents placed.** -/
theorem exec_soundStep {r : ErpRequest} (hs : StockInScale db.stock) (hplaced : Placed db)
    (hr : r.AtScale db) (h : r.exec db = .ok db') : SoundStep db db' := by
  obtain ⟨d, hcourse, rfl | rfl⟩ := ErpRequest.exec_course h
  · exact hcourse.soundStep hs hplaced hr
  · exact (hcourse.soundStep hs hplaced hr).commit hs

end Courses

end GroceryErp
