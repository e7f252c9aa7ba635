import GroceryErp.Losses.Compensations
import GroceryErp.Losses.Decisions
import GroceryErp.Payables.Compensations
import GroceryErp.Payroll.Compensations
import GroceryErp.System.StockRuns

/-!
# Requests with no part in compensations

Orders, receipts, sales, returns, adjustments, counts and transfers leave invoices, payments,
credit notes, write-offs and payrolls alone, and post entries of their own kinds.

## Main definitions

* `StockKind` — the kinds of entries that they post.
* `Aside` — what such a request leaves alone.

## Main results

* `PayablesKind.apart`, `WriteOffKind.apart`, `PayrollKind.apart` — the kinds are apart.
* `StockRequest.aside` — every one of them is aside.
-/

namespace GroceryErp

open Decimal Outcome Rows

/-- The kinds of entries that move stock, which the payables and payroll never write. -/
def StockKind (t : SourceType) : Prop :=
  t ∈ [SourceType.sale, .saleReturn, .purchaseReceipt, .purchaseReturn, .stockAdjustment,
    .interStoreTransferShip, .interStoreTransferReceive]

instance decidableStockKind (t : SourceType) : Decidable (StockKind t) :=
  inferInstanceAs (Decidable (_ ∈ _))

/-- The payables post kinds of their own. -/
theorem PayablesKind.apart {t : SourceType} (h : PayablesKind t) :
    ¬WriteOffKind t ∧ ¬PayrollKind t ∧ ¬StockKind t := by
  unfold WriteOffKind PayrollKind
  rcases h with rfl | rfl | ⟨way, rfl | rfl⟩
  · decide
  · decide
  · cases way <;> decide
  · cases way <;> decide

/-- The source types of write-offs are none of those of payables, payroll or stock. -/
theorem WriteOffKind.apart {t : SourceType} (h : WriteOffKind t) :
    ¬PayablesKind t ∧ ¬PayrollKind t ∧ ¬StockKind t := by
  refine ⟨fun hpayables => hpayables.apart.1 h, ?_⟩
  unfold PayrollKind
  rcases h with rfl | rfl <;> decide

/-- The source types of payroll are none of those of payables, write-offs or stock. -/
theorem PayrollKind.apart {t : SourceType} (h : PayrollKind t) :
    ¬PayablesKind t ∧ ¬WriteOffKind t ∧ ¬StockKind t := by
  refine ⟨fun hpayables => hpayables.apart.2.1 h, fun hwriteOff => hwriteOff.apart.2.1 h, ?_⟩
  rcases h with rfl | rfl <;> decide

/-- A request that has no part in what is compensated.  The lots it receives are as their
columns keep them. -/
structure Aside (db db' : Db) : Prop where
  payables : db'.payables = db.payables
  writeOffs : db'.losses.writeOffs = db.losses.writeOffs
  payroll : db'.payroll = db.payroll
  lots : ∃ rows, db'.purchasing.receiptItems = db.purchasing.receiptItems ++ rows ∧
    ∀ r ∈ rows, r.val.InScale
  posts : Posts StockKind db db'

section Requests

variable {db d db' : Db}

/-- The lots are what they were. -/
theorem lots_of_eq (h : db'.purchasing.receiptItems = db.purchasing.receiptItems) :
    ∃ rows, db'.purchasing.receiptItems = db.purchasing.receiptItems ++ rows ∧
      ∀ r ∈ rows, r.val.InScale :=
  ⟨[], by rw [h, List.append_nil], by simp⟩

theorem Aside.refl (db : Db) : Aside db db := ⟨rfl, rfl, rfl, lots_of_eq rfl, .of_eq rfl⟩

theorem Aside.trans (h : Aside db d) (h' : Aside d db') : Aside db db' where
  payables := h'.payables.trans h.payables
  writeOffs := h'.writeOffs.trans h.writeOffs
  payroll := h'.payroll.trans h.payroll
  lots := by
    obtain ⟨rows, hrows, hscale⟩ := h.lots
    obtain ⟨more, hmore, hscale'⟩ := h'.lots
    refine ⟨rows ++ more, by rw [hmore, hrows, List.append_assoc], fun r hr => ?_⟩
    rcases List.mem_append.mp hr with hr | hr
    · exact hscale r hr
    · exact hscale' r hr
  posts := h.posts.trans h'.posts

/-- One entry, of one of these kinds. -/
theorem PostsEntry.stockKind {storeId sourceId : ℕ} {sourceType : SourceType}
    {lines : List JournalLine} (h : PostsEntry db db' storeId sourceType sourceId lines)
    (hkind : StockKind sourceType) : Posts StockKind db db' :=
  h.posts.mono fun _ ht => ht ▸ hkind

/-! #### Purchasing -/

theorem createPurchaseOrder_aside {req : CreatePurchaseOrder} {purchaseOrderId : ℕ}
    (h : createPurchaseOrder db req = .ok (db', purchaseOrderId)) : Aside db db' := by
  rcases createPurchaseOrder_ok h with rfl | ⟨order, items, -, -, -, rfl⟩
  · exact .refl db'
  · exact ⟨rfl, rfl, rfl, lots_of_eq rfl, .of_eq rfl⟩

theorem setOrderStatus_aside {req : MovePurchaseOrder} {allowed : List PurchaseOrderStatus}
    {status : PurchaseOrderStatus} (h : setOrderStatus db req allowed status = .ok db') :
    Aside db db' := by
  obtain ⟨order, -, -, rfl⟩ := setOrderStatus_ok h
  exact ⟨rfl, rfl, rfl, lots_of_eq rfl, .of_eq rfl⟩

theorem receiveGoods_aside {req : ReceiveGoods} {goodsReceiptId : ℕ}
    (h : receiveGoods db req = .ok (db', goodsReceiptId)) : Aside db db' := by
  rcases receiveGoods_ok h with rfl | ⟨order, lines, d, -, hw, hj⟩
  · exact .refl db'
  obtain ⟨-, receipt, rows, items, status, -, hrows, -, -, -, hd⟩ := writeReceipt_ok hw
  have hframe := postJournalUnlessEmpty_frame hj
  have hentry : PostsEntry db db' _ _ _ _ :=
    postsEntry_of_postJournalUnlessEmpty hj (by rw [hd]) rfl
  refine ⟨by rw [hframe, hd], by rw [hframe, hd], by rw [hframe, hd],
    ⟨rows, by rw [hframe, hd], fun r hr => ?_⟩, hentry.stockKind (by decide)⟩
  have hval : r.val ∈ rows.map Subtype.val := List.mem_map_of_mem hr
  rw [hrows] at hval
  obtain ⟨l, -, hl⟩ := List.mem_map.mp hval
  rw [← hl]
  exact ⟨onGrid_numeric 3 _, onGrid_numeric 6 _⟩

theorem createPurchaseReturn_aside {req : CreatePurchaseReturn} {purchaseReturnId : ℕ}
    (h : createPurchaseReturn db req = .ok (db', purchaseReturnId)) : Aside db db' := by
  rcases createPurchaseReturn_ok h with rfl | ⟨lines, d, -, hw, hj⟩
  · exact .refl db'
  obtain ⟨-, rows, -, hd⟩ := writePurchaseReturn_ok hw
  have hframe := postJournalUnlessEmpty_frame hj
  have hentry : PostsEntry db db' _ _ _ _ :=
    postsEntry_of_postJournalUnlessEmpty hj (by rw [hd]) rfl
  exact ⟨by rw [hframe, hd], by rw [hframe, hd], by rw [hframe, hd],
    lots_of_eq (by rw [hframe, hd]), hentry.stockKind (by decide)⟩

/-! #### Sales -/

theorem finalizeSale_aside {req : FinalizeSale} {saleId : ℕ}
    (h : finalizeSale db req = .ok (db', saleId)) : Aside db db' := by
  rcases finalizeSale_ok h with ⟨-, -, rfl⟩ | ⟨-, cart, changeDue, d, -, hw, hj⟩
  · exact .refl db'
  obtain ⟨-, shiftId, sale, items, payments, -, -, -, hd⟩ := writeSale_ok hw
  have hframe := postJournal_frame hj
  have hentry : PostsEntry db db' _ _ _ _ := postsEntry_of_postJournal hj (by rw [hd]) rfl
  exact ⟨by rw [hframe, hd], by rw [hframe, hd], by rw [hframe, hd],
    lots_of_eq (by rw [hframe, hd]), hentry.stockKind (by decide)⟩

theorem createSaleReturn_aside {req : CreateSaleReturn} {saleReturnId : ℕ}
    (h : createSaleReturn db req = .ok (db', saleReturnId)) : Aside db db' := by
  rcases createSaleReturn_ok h with ⟨-, rfl⟩ | ⟨-, sale, lines, _, _, d, -, -, -, hw, hj⟩
  · exact .refl db'
  obtain ⟨-, _, saleReturn, saleAfter, e, -, -, he, rfl⟩ := writeReturn_ok hw
  have hframe := postJournalUnlessEmpty_frame hj
  have heframe : e = { db with stock := e.stock, sales := e.sales } := by
    refine foldlM_induct (fun _ t => t = { db with stock := t.stock, sales := t.sales }) he rfl ?_
    rintro done l rest t t' - ht hstep
    obtain ⟨row, u, item, -, hu, -, rfl⟩ := addReturnLine_eq_ok.mp hstep
    rw [restockLine_frame hu, ht]
  have hentry : PostsEntry db db' _ _ _ _ :=
    postsEntry_of_postJournalUnlessEmpty hj (by rw [heframe]) rfl
  exact ⟨by rw [hframe, heframe], by rw [hframe, heframe], by rw [hframe, heframe],
    lots_of_eq (by rw [hframe, heframe]), hentry.stockKind (by decide)⟩

/-! #### Adjustments and counts -/

theorem createStockAdjustment_aside {a : StockAdjustmentInput} {adjustmentId : ℕ}
    (h : createStockAdjustment db a = .ok (db', adjustmentId)) : Aside db db' := by
  rcases createStockAdjustment_ok h with rfl | hwrite
  · exact .refl db'
  have hframe := createStockAdjustment_frame h
  obtain ⟨adjustment, p, d, -, hm, hj⟩ := writeAdjustment_ok hwrite
  have hentries : d.ledger.entries = db.ledger.entries := by rw [recordMovement_frame hm]
  have hposts : Posts StockKind db db' := by
    unfold postStockAdjustmentJournal at hj
    dsimp only at hj
    split at hj
    · exact (postsEntry_of_postJournalUnlessEmpty hj hentries rfl).stockKind (by decide)
    · exact (postsEntry_of_postJournalUnlessEmpty hj hentries rfl).stockKind (by decide)
  exact ⟨by rw [hframe], by rw [hframe], by rw [hframe], lots_of_eq (by rw [hframe]), hposts⟩

theorem moveStockCount_aside {req : MoveStockCount} {again : Option StockCountStatus}
    {allowed : List StockCountStatus} {status : StockCountStatus}
    (h : moveStockCount db req again allowed status = .ok db') : Aside db db' := by
  rcases moveStockCount_ok h with rfl | ⟨count, -, -, rfl⟩
  · exact .refl db'
  · exact ⟨rfl, rfl, rfl, lots_of_eq rfl, .of_eq rfl⟩

theorem openStockCount_aside {req : MoveStockCount} (h : openStockCount db req = .ok db') :
    Aside db db' := by
  rcases openStockCount_ok h with rfl | ⟨count, d, -, hd, rfl⟩
  · exact .refl db'
  have hframe := (snapshotLines_ok (P := fun _ => True) hd (fun _ _ _ _ => trivial)
    (fun _ _ => trivial) fun _ _ => trivial).1
  exact ⟨by rw [hframe], by rw [hframe], by rw [hframe], lots_of_eq (by rw [hframe]),
    .of_eq (by rw [hframe])⟩

/-- The lines of a count are adjusted one after the other. -/
theorem postStockCount_aside {req : PostStockCount} (h : postStockCount db req = .ok db') :
    Aside db db' := by
  rcases postStockCount_ok h with rfl | ⟨count, lines, d, -, -, -, hd, rfl⟩
  · exact .refl db'
  have hlines : Aside db d := by
    refine foldlM_induct (fun _ t => Aside db t) hd (.refl db) ?_
    rintro done line rest t t' - ht hstep
    rcases postCountLine_ok hstep with rfl | ⟨p, counted, i, -, -, hadjust⟩
    · exact ht
    · exact ht.trans (createStockAdjustment_aside hadjust)
  exact hlines.trans ⟨rfl, rfl, rfl, lots_of_eq rfl, .of_eq rfl⟩

/-! #### Transfers -/

theorem shipTransfer_aside {req : ShipTransfer} (h : shipTransfer db req = .ok db') :
    Aside db db' := by
  rcases shipTransfer_ok h with rfl | ⟨transfer, lines, e, shipped, -, -, -, -, he, -, hj⟩
  · exact .refl db'
  have heframe := (shipLines_ok (P := fun _ => True) he (fun _ _ _ _ => trivial)
    fun _ _ => trivial).1
  have hframe := postJournalUnlessEmpty_frame hj
  have hentry : PostsEntry db db' _ _ _ _ :=
    postsEntry_of_postJournalUnlessEmpty hj (by rw [heframe]) rfl
  exact ⟨by rw [hframe, heframe], by rw [hframe, heframe], by rw [hframe, heframe],
    lots_of_eq (by rw [hframe, heframe]), hentry.stockKind (by decide)⟩

theorem receiveTransfer_aside {req : ReceiveTransfer} (h : receiveTransfer db req = .ok db') :
    Aside db db' := by
  rcases receiveTransfer_ok h with rfl | ⟨transfer, lines, d, receiptId, -, -, hw, hj⟩
  · exact .refl db'
  obtain ⟨hdframe, -, -⟩ := writeTransferReceipt_ok hw (P := fun _ => True)
    (fun _ _ _ _ _ => trivial) fun _ _ => trivial
  have hframe := postJournalUnlessEmpty_frame hj
  have hentry : PostsEntry db db' _ _ _ _ :=
    postsEntry_of_postJournalUnlessEmpty hj (by rw [hdframe]) rfl
  exact ⟨by rw [hframe, hdframe], by rw [hframe, hdframe], by rw [hframe, hdframe],
    lots_of_eq (by rw [hframe, hdframe]), hentry.stockKind (by decide)⟩

theorem cancelTransfer_aside {req : CancelTransfer} (h : cancelTransfer db req = .ok db') :
    Aside db db' := by
  rcases cancelTransfer_ok h with rfl | ⟨transfer, cancelled, -, -, -, rfl⟩
  · exact .refl db'
  · exact ⟨rfl, rfl, rfl, lots_of_eq rfl, .of_eq rfl⟩

theorem investigateDiscrepancy_aside {req : InvestigateDiscrepancy}
    (h : investigateDiscrepancy db req = .ok db') : Aside db db' := by
  obtain ⟨old, discrepancy, -, -, -, rfl⟩ := investigateDiscrepancy_ok h
  exact ⟨rfl, rfl, rfl, lots_of_eq rfl, .of_eq rfl⟩

theorem resolveDiscrepancy_aside {req : ResolveDiscrepancy}
    (h : resolveDiscrepancy db req = .ok db') : Aside db db' := by
  obtain ⟨old, discrepancy, -, -, -, rfl⟩ := resolveDiscrepancy_ok h
  exact ⟨rfl, rfl, rfl, lots_of_eq rfl, .of_eq rfl⟩

/-! #### All of them -/

/-- **A request that moves stock has no part in compensations.** -/
theorem StockRequest.aside {r : StockRequest} (h : r.run db = .ok db') : Aside db db' := by
  cases r with
  | createPurchaseOrder req =>
    obtain ⟨⟨d, i⟩, hrun, rfl⟩ := map_eq_ok.mp h
    exact createPurchaseOrder_aside hrun
  -- the status of an order, which is in no compensation
  | submitPurchaseOrder req => exact setOrderStatus_aside h
  | cancelPurchaseOrder req => exact setOrderStatus_aside h
  | receiveGoods req =>
    obtain ⟨⟨d, i⟩, hrun, rfl⟩ := map_eq_ok.mp h
    exact receiveGoods_aside hrun
  | createPurchaseReturn req =>
    obtain ⟨⟨d, i⟩, hrun, rfl⟩ := map_eq_ok.mp h
    exact createPurchaseReturn_aside hrun
  | finalizeSale req =>
    obtain ⟨⟨d, i⟩, hrun, rfl⟩ := map_eq_ok.mp h
    exact finalizeSale_aside hrun
  | createSaleReturn req =>
    obtain ⟨⟨d, i⟩, hrun, rfl⟩ := map_eq_ok.mp h
    exact createSaleReturn_aside hrun
  | voidSale req =>
    obtain ⟨⟨d, i⟩, hrun, rfl⟩ := map_eq_ok.mp h
    exact createSaleReturn_aside (voidSale_ok hrun)
  | createAdjustment req =>
    obtain ⟨⟨d, i⟩, hrun, rfl⟩ := map_eq_ok.mp h
    obtain ⟨p, -, hadjust⟩ := createAdjustment_ok hrun
    exact createStockAdjustment_aside hadjust
  | createStockCount req =>
    obtain ⟨⟨d, i⟩, hrun, rfl⟩ := map_eq_ok.mp h
    obtain ⟨lines, rfl, -⟩ := createStockCount_ok hrun
    exact ⟨rfl, rfl, rfl, lots_of_eq rfl, .of_eq rfl⟩
  | openStockCount req => exact openStockCount_aside h
  | recordCountEntry req =>
    obtain ⟨lineId, line, row, -, -, -, -, rfl⟩ := recordCountEntry_ok h
    exact ⟨rfl, rfl, rfl, lots_of_eq rfl, .of_eq rfl⟩
  | markStockCountCounted req => exact moveStockCount_aside h
  | reviewStockCount req => exact moveStockCount_aside h
  | reopenStockCountForRecount req => exact moveStockCount_aside h
  | postStockCount req => exact postStockCount_aside h
  | cancelStockCount req => exact moveStockCount_aside h
  | createTransfer req =>
    obtain ⟨⟨d, i⟩, hrun, rfl⟩ := map_eq_ok.mp h
    obtain ⟨transfer, lines, -, -, rfl⟩ := createTransfer_ok hrun
    exact ⟨rfl, rfl, rfl, lots_of_eq rfl, .of_eq rfl⟩
  | shipTransfer req => exact shipTransfer_aside h
  | receiveTransfer req => exact receiveTransfer_aside h
  | cancelTransfer req => exact cancelTransfer_aside h

end Requests

end GroceryErp
