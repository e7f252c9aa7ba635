import GroceryErp.Payables.LiabilitySteps
import GroceryErp.System.Asides

/-!
# Requests that owe nothing

Stock, transfers, write-offs and payroll post on accounts of their own.  None of their entries
has a line on Accounts Payable, so what the ledger says is owed stays what it was.

## Main definitions

* `OwedKept` — the ledger says the same of what is owed.

## Main results

* `StockRequest.owedKept`, `TransferRequest.owedKept`, `PayrollStep.owedKept` — every such request
  keeps that.

## References

`backend/app/modules/accounting/service.py`.
-/

namespace GroceryErp

open Decimal Ledger Outcome Rows

/-- The ledger says the same of what is owed, whatever the stores. -/
def OwedKept (db db' : Db) : Prop :=
  ∀ (p : ℕ → Prop) [DecidablePred p], ledgerOwed db' p = ledgerOwed db p

section Lines

/-- One amount on two other accounts. -/
theorem net_pair_of_ne {dr cr a : Account} (hdr : dr ≠ a) (hcr : cr ≠ a) (x : ℚ) :
    net a ((pair dr cr x).map storedLine) = 0 := by
  rw [net_storedLine_pair, if_neg hdr, if_neg hcr, add_zero]

theorem net_swap_of_ne {dr cr a : Account} (hdr : dr ≠ a) (hcr : cr ≠ a) (x : ℚ) :
    net a ([debit dr x, credit cr x].map storedLine) = 0 := by
  refine net_map_storedLine_eq_zero fun l hl => ?_
  rcases List.mem_pair.mp hl with rfl | rfl
  · exact hdr
  · exact hcr

theorem net_payrollJournalLines_accountsPayable (totals : PayrollTotals) (reverse : Bool) :
    net .accountsPayable ((payrollJournalLines totals reverse).map storedLine) = 0 := by
  have hlines : net .accountsPayable ((payrollJournalLines totals false).map storedLine) = 0 := by
    refine net_map_storedLine_eq_zero fun l hl => ?_
    simp only [payrollJournalLines, Bool.false_eq_true, if_false, List.mem_append] at hl
    rcases hl with (((hl | hl) | hl) | hl) | hl
    · rw [account_of_mem_debitIf hl]; decide
    · rw [account_of_mem_debitIf hl]; decide
    · rw [account_of_mem_creditIf hl]; decide
    · rw [account_of_mem_creditIf hl]; decide
    · rw [account_of_mem_creditIf hl]; decide
  cases reverse with
  | false => exact hlines
  | true => rw [payrollJournalLines_reverse, map_storedLine_mirror, net_mirror, hlines, neg_zero]

end Lines

section Requests

variable {db d db' : Db} {storeId sourceId : ℕ} {postingDate : Date} {sourceType : SourceType}
  {lines : List JournalLine}

namespace OwedKept

theorem refl (db : Db) : OwedKept db db := fun _ _ => rfl

theorem of_eq (h : db'.ledger.entries = db.ledger.entries) : OwedKept db db' :=
  fun p _ => ledgerOwed_congr h p

theorem trans (h : OwedKept db d) (h' : OwedKept d db') : OwedKept db db' :=
  fun p _ => (h' p).trans (h p)

/-- An entry that is even on Accounts Payable changes nothing of what is owed. -/
theorem post (h : postJournal d storeId postingDate sourceType sourceId lines = .ok db')
    (hnet : net .accountsPayable (lines.map storedLine) = 0) : OwedKept d db' := by
  intro p _
  rw [ledgerOwed_postJournal h, hnet, neg_zero, ite_self, add_zero]

theorem postUnlessEmpty
    (h : postJournalUnlessEmpty d storeId postingDate sourceType sourceId lines = .ok db')
    (hnet : net .accountsPayable (lines.map storedLine) = 0) : OwedKept d db' := by
  intro p _
  rw [ledgerOwed_postJournalUnlessEmpty h, hnet, neg_zero, ite_self, add_zero]

end OwedKept

/-- Nothing is paid from or to Accounts Payable. -/
theorem PaymentMethod.account_ne_accountsPayable (m : PaymentMethod) :
    m.account ≠ .accountsPayable := by
  cases m <;> decide

/-! #### Stock -/

theorem receiveGoods_owedKept {req : ReceiveGoods} {goodsReceiptId : ℕ}
    (h : receiveGoods db req = .ok (db', goodsReceiptId)) : OwedKept db db' := by
  rcases receiveGoods_ok h with rfl | ⟨order, planned, d, -, hw, hj⟩
  · exact .refl db'
  obtain ⟨-, receipt, rows, items, status, -, -, -, -, -, hd⟩ := writeReceipt_ok hw
  have hbefore : OwedKept db d := .of_eq (by rw [hd])
  exact hbefore.trans (.postUnlessEmpty hj (net_pair_of_ne (by decide) (by decide) _))

theorem createPurchaseReturn_owedKept {req : CreatePurchaseReturn} {purchaseReturnId : ℕ}
    (h : createPurchaseReturn db req = .ok (db', purchaseReturnId)) : OwedKept db db' := by
  rcases createPurchaseReturn_ok h with rfl | ⟨planned, d, -, hw, hj⟩
  · exact .refl db'
  obtain ⟨-, rows, -, hd⟩ := writePurchaseReturn_ok hw
  have hbefore : OwedKept db d := .of_eq (by rw [hd])
  exact hbefore.trans (.postUnlessEmpty hj (net_pair_of_ne (by decide) (by decide) _))

theorem finalizeSale_owedKept {req : FinalizeSale} {saleId : ℕ}
    (h : finalizeSale db req = .ok (db', saleId)) : OwedKept db db' := by
  rcases finalizeSale_ok h with ⟨-, -, rfl⟩ | ⟨-, cart, changeDue, d, -, hw, hj⟩
  · exact .refl db'
  obtain ⟨-, shiftId, sale, items, payments, -, -, -, hd⟩ := writeSale_ok hw
  have hbefore : OwedKept db d := .of_eq (by rw [hd])
  refine hbefore.trans (.post hj ?_)
  rw [net_saleJournalLines PaymentMethod.account_ne_accountsPayable]
  simp

theorem createSaleReturn_owedKept {req : CreateSaleReturn} {saleReturnId : ℕ}
    (h : createSaleReturn db req = .ok (db', saleReturnId)) : OwedKept db db' := by
  rcases createSaleReturn_ok h with ⟨-, rfl⟩ | ⟨-, sale, planned, _, _, d, -, -, -, hw, hj⟩
  · exact .refl db'
  obtain ⟨-, _, saleReturn, saleAfter, e, -, -, he, hd⟩ := writeReturn_ok hw
  have hentries : e.ledger.entries = db.ledger.entries := by
    obtain ⟨t, ht⟩ := addReturnLines_frame he
    rw [ht]
  have hbefore : OwedKept db d := .of_eq (by rw [hd, ← hentries])
  refine hbefore.trans (.postUnlessEmpty hj ?_)
  rw [net_saleReturnJournalLines PaymentMethod.account_ne_accountsPayable]
  simp

theorem createStockAdjustment_owedKept {a : StockAdjustmentInput} {adjustmentId : ℕ}
    (h : createStockAdjustment db a = .ok (db', adjustmentId)) : OwedKept db db' := by
  rcases createStockAdjustment_ok h with rfl | hwrite
  · exact .refl db'
  obtain ⟨adjustment, p, d, -, hm, hj⟩ := writeAdjustment_ok hwrite
  have hbefore : OwedKept db d := .of_eq (by rw [recordMovement_frame hm])
  refine hbefore.trans ?_
  unfold postStockAdjustmentJournal at hj
  dsimp only at hj
  split at hj
  · exact .postUnlessEmpty hj (net_pair_of_ne (by decide) (by decide) _)
  · exact .postUnlessEmpty hj (net_pair_of_ne (by decide) (by decide) _)

theorem openStockCount_owedKept {req : MoveStockCount} (h : openStockCount db req = .ok db') :
    OwedKept db db' := by
  rcases openStockCount_ok h with rfl | ⟨count, d, -, hd, rfl⟩
  · exact .refl db'
  have hframe := (snapshotLines_ok (P := fun _ => True) hd (fun _ _ _ _ => trivial)
    (fun _ _ => trivial) fun _ _ => trivial).1
  exact .of_eq (by rw [hframe])

theorem moveStockCount_owedKept {req : MoveStockCount} {again : Option StockCountStatus}
    {allowed : List StockCountStatus} {status : StockCountStatus}
    (h : moveStockCount db req again allowed status = .ok db') : OwedKept db db' := by
  rcases moveStockCount_ok h with rfl | ⟨count, -, -, rfl⟩
  · exact .refl db'
  · exact .of_eq rfl

/-- A count posts one adjustment after the other, and none of them is owed to a supplier. -/
theorem postStockCount_owedKept {req : PostStockCount} (h : postStockCount db req = .ok db') :
    OwedKept db db' := by
  rcases postStockCount_ok h with rfl | ⟨count, counted, d, -, -, -, hd, rfl⟩
  · exact .refl db'
  have hlines : OwedKept db d := by
    refine foldlM_induct (fun _ t => OwedKept db t) hd (.refl db) ?_
    rintro done line rest t t' - ht hstep
    rcases postCountLine_ok hstep with rfl | ⟨p, counted, i, -, -, hadjust⟩
    · exact ht
    · exact ht.trans (createStockAdjustment_owedKept hadjust)
  exact hlines.trans (.of_eq rfl)

theorem shipTransfer_owedKept {req : ShipTransfer} (h : shipTransfer db req = .ok db') :
    OwedKept db db' := by
  rcases shipTransfer_ok h with rfl | ⟨transfer, planned, e, shipped, -, -, -, -, he, -, hj⟩
  · exact .refl db'
  have heframe := (shipLines_ok (P := fun _ => True) he (fun _ _ _ _ => trivial)
    fun _ _ => trivial).1
  have hposted := OwedKept.postUnlessEmpty hj (net_pair_of_ne (by decide) (by decide) _)
  exact OwedKept.trans (.of_eq (by rw [heframe])) hposted

theorem receiveTransfer_owedKept {req : ReceiveTransfer} (h : receiveTransfer db req = .ok db') :
    OwedKept db db' := by
  rcases receiveTransfer_ok h with rfl | ⟨transfer, planned, d, receiptId, -, -, hw, hj⟩
  · exact .refl db'
  obtain ⟨hdframe, -, -⟩ := writeTransferReceipt_ok hw (P := fun _ => True)
    (fun _ _ _ _ _ => trivial) fun _ _ => trivial
  have hbefore : OwedKept db d := .of_eq (by rw [hdframe])
  exact hbefore.trans (.postUnlessEmpty hj (net_pair_of_ne (by decide) (by decide) _))

theorem cancelTransfer_owedKept {req : CancelTransfer} (h : cancelTransfer db req = .ok db') :
    OwedKept db db' := by
  rcases cancelTransfer_ok h with rfl | ⟨transfer, cancelled, -, -, -, rfl⟩
  · exact .refl db'
  · exact .of_eq rfl

/-- **A request that moves stock owes nothing.** -/
theorem StockRequest.owedKept {r : StockRequest} (h : r.run db = .ok db') : OwedKept db db' := by
  cases r with
  | createPurchaseOrder req =>
    obtain ⟨⟨d, i⟩, hrun, rfl⟩ := map_eq_ok.mp h
    rcases createPurchaseOrder_ok hrun with rfl | ⟨order, items, -, -, -, rfl⟩
    · exact .refl d
    · exact .of_eq rfl
  -- an order owes nothing until it is invoiced
  | submitPurchaseOrder req =>
    obtain ⟨order, -, -, rfl⟩ := setOrderStatus_ok h
    exact .of_eq rfl
  | cancelPurchaseOrder req =>
    obtain ⟨order, -, -, rfl⟩ := setOrderStatus_ok h
    exact .of_eq rfl
  | receiveGoods req =>
    obtain ⟨⟨d, i⟩, hrun, rfl⟩ := map_eq_ok.mp h
    exact receiveGoods_owedKept hrun
  | createPurchaseReturn req =>
    obtain ⟨⟨d, i⟩, hrun, rfl⟩ := map_eq_ok.mp h
    exact createPurchaseReturn_owedKept hrun
  | finalizeSale req =>
    obtain ⟨⟨d, i⟩, hrun, rfl⟩ := map_eq_ok.mp h
    exact finalizeSale_owedKept hrun
  | createSaleReturn req =>
    obtain ⟨⟨d, i⟩, hrun, rfl⟩ := map_eq_ok.mp h
    exact createSaleReturn_owedKept hrun
  | voidSale req =>
    obtain ⟨⟨d, i⟩, hrun, rfl⟩ := map_eq_ok.mp h
    exact createSaleReturn_owedKept (voidSale_ok hrun)
  | createAdjustment req =>
    obtain ⟨⟨d, i⟩, hrun, rfl⟩ := map_eq_ok.mp h
    obtain ⟨p, -, hadjust⟩ := createAdjustment_ok hrun
    exact createStockAdjustment_owedKept hadjust
  | createStockCount req =>
    obtain ⟨⟨d, i⟩, hrun, rfl⟩ := map_eq_ok.mp h
    obtain ⟨lines, rfl, -⟩ := createStockCount_ok hrun
    exact .of_eq rfl
  | openStockCount req => exact openStockCount_owedKept h
  | recordCountEntry req =>
    obtain ⟨lineId, line, row, -, -, -, -, rfl⟩ := recordCountEntry_ok h
    exact .of_eq rfl
  | markStockCountCounted req => exact moveStockCount_owedKept h
  | reviewStockCount req => exact moveStockCount_owedKept h
  | reopenStockCountForRecount req => exact moveStockCount_owedKept h
  -- a count posts its variance as gain or shrinkage, which no supplier is owed
  | postStockCount req => exact postStockCount_owedKept h
  | cancelStockCount req => exact moveStockCount_owedKept h
  | createTransfer req =>
    obtain ⟨⟨d, i⟩, hrun, rfl⟩ := map_eq_ok.mp h
    obtain ⟨transfer, lines, -, -, rfl⟩ := createTransfer_ok hrun
    exact .of_eq rfl
  | shipTransfer req => exact shipTransfer_owedKept h
  | receiveTransfer req => exact receiveTransfer_owedKept h
  | cancelTransfer req => exact cancelTransfer_owedKept h

/-! #### Transfers and write-offs -/

/-- **Neither do transfers and their write-offs**, and the payables are left alone. -/
theorem TransferRequest.owedKept {r : TransferRequest} (h : r.run db = .ok db') :
    db'.payables = db.payables ∧ OwedKept db db' := by
  cases r with
  | createTransfer req =>
    have hstock : (StockRequest.createTransfer req).run db = .ok db' := h
    exact ⟨(StockRequest.aside hstock).payables, StockRequest.owedKept hstock⟩
  | shipTransfer req => exact ⟨(shipTransfer_aside h).payables, shipTransfer_owedKept h⟩
  | receiveTransfer req => exact ⟨(receiveTransfer_aside h).payables, receiveTransfer_owedKept h⟩
  | cancelTransfer req => exact ⟨(cancelTransfer_aside h).payables, cancelTransfer_owedKept h⟩
  | investigateDiscrepancy req =>
    obtain ⟨old, discrepancy, -, -, -, rfl⟩ := investigateDiscrepancy_ok h
    exact ⟨rfl, .of_eq rfl⟩
  | resolveDiscrepancy req =>
    obtain ⟨old, discrepancy, -, -, -, rfl⟩ := resolveDiscrepancy_ok h
    exact ⟨rfl, .of_eq rfl⟩
  | createWriteOff req =>
    obtain ⟨⟨d, i⟩, hrun, rfl⟩ := map_eq_ok.mp h
    rcases createWriteOff_ok hrun with rfl | ⟨discrepancy, w, -, -, -, -, -, -, -, rfl⟩
    · exact ⟨rfl, .refl d⟩
    · exact ⟨rfl, .of_eq rfl⟩
  | approveWriteOff req =>
    rcases approveWriteOff_ok h with rfl | ⟨w, w', discrepancy, line, line', approval, approvedBy, d,
      -, -, -, -, hpost, -, -, -, rfl⟩
    · exact ⟨rfl, .refl db'⟩
    -- a write-off moves between the transit account and its loss account
    · have hposted : OwedKept db d := .post hpost (net_swap_of_ne (by decide) (by decide) _)
      exact ⟨rfl, hposted.trans (.of_eq rfl)⟩
  | denyWriteOff req =>
    rcases denyWriteOff_ok h with ⟨rfl, -⟩ | ⟨w, w', approval, approvedBy, old, discrepancy, -, -, -, -,
      -, -, rfl⟩
    · exact ⟨rfl, .refl db'⟩
    · exact ⟨rfl, .of_eq rfl⟩
  | reverseWriteOff req =>
    rcases reverseWriteOff_ok h with rfl | ⟨w, w', line, line', d, -, -, -, hpost, -, -, rfl⟩
    · exact ⟨rfl, .refl db'⟩
    · have hposted : OwedKept db d := .post hpost (net_swap_of_ne (by decide) (by decide) _)
      exact ⟨rfl, hposted.trans (.of_eq rfl)⟩

/-! #### Payroll -/

/-- An entry that is appended on other accounts. -/
theorem owedKept_append {e : Row JournalEntry} (h : db'.ledger.entries = db.ledger.entries ++ [e])
    (hnet : entryNet .accountsPayable e = 0) : OwedKept db db' := by
  intro p _
  unfold ledgerOwed
  rw [h, sumWhere_append, sumWhere_singleton, hnet, ite_self, add_zero]

/-- **Neither does payroll**, whose entries are on accounts and source types of their own. -/
theorem PayrollStep.owedKept (h : PayrollStep db db') : OwedKept db db' := by
  cases h with
  | aside same => exact .of_eq (by rw [same.ledger])
  | created => exact .of_eq rfl
  | moved => exact .of_eq rfl
  | calculated done =>
    obtain ⟨period', results, -, -, rfl⟩ := done.written
    exact .of_eq rfl
  | posted _ _ _ _ entry_value =>
    refine owedKept_append rfl ?_
    rw [entryNet, entry_value]
    exact net_payrollJournalLines_accountsPayable _ false
  | reversed _ _ _ _ entry_value =>
    refine owedKept_append rfl ?_
    rw [entryNet, entry_value]
    exact net_payrollJournalLines_accountsPayable _ true

end Requests

end GroceryErp
