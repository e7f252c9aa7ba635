import GroceryErp.Shifts.Shifts
import GroceryErp.System.Frames

/-!
# What leaves the tills alone

Orders, receipts, adjustments, counts and transfers write neither sales nor shifts, and post no
entry that a till has a part in.

## Main definitions

* `TillKind` — the kinds of entries that sales, returns and closes post.
* `StockRequest.OnSale` — the requests on sales.
* `OffTill` — what any other request leaves alone.

## Main results

* `StockRequest.offTill` — a request that is not on a sale is off the tills.
-/

namespace GroceryErp

open Decimal Outcome Rows

/-- The kinds of entries that sales, returns and closes of shifts post. -/
def TillKind (t : SourceType) : Prop := t ∈ [SourceType.sale, .saleReturn, .cashShiftVariance]

instance decidableTillKind (t : SourceType) : Decidable (TillKind t) :=
  inferInstanceAs (Decidable (_ ∈ _))

/-- The request is about a sale. -/
def StockRequest.OnSale : StockRequest → Prop
  | finalizeSale _ | createSaleReturn _ | voidSale _ => True
  | _ => False

/-- Sales, shifts and the entries of both are left alone. -/
structure OffTill (db db' : Db) : Prop where
  sales : db'.sales = db.sales
  shifts : db'.shifts = db.shifts
  posts : Posts (¬TillKind ·) db db'

section Requests

variable {db d db' : Db}

theorem OffTill.refl (db : Db) : OffTill db db := ⟨rfl, rfl, .of_eq rfl⟩

theorem OffTill.trans (h : OffTill db d) (h' : OffTill d db') : OffTill db db' :=
  ⟨h'.sales.trans h.sales, h'.shifts.trans h.shifts, h.posts.trans h'.posts⟩

/-- One entry of another kind than the tills post, over tables whose sales and shifts have not
changed. -/
theorem OffTill.posted {storeId sourceId : ℕ} {sourceType : SourceType} {postingDate : Date}
    {lines : List JournalLine} (sales : d.sales = db.sales) (shifts : d.shifts = db.shifts)
    (entries : d.ledger.entries = db.ledger.entries) (hkind : ¬TillKind sourceType)
    (h : postJournalUnlessEmpty d storeId postingDate sourceType sourceId lines = .ok db') :
    OffTill db db' := by
  have hframe := postJournalUnlessEmpty_frame h
  have hentry := (postsEntry_of_postJournalUnlessEmpty h entries rfl).posts
  refine ⟨?_, ?_, ?_⟩
  · rw [hframe, sales]
  · rw [hframe, shifts]
  · exact hentry.mono fun t ht => ht ▸ hkind

/-! #### Purchasing -/

theorem createPurchaseOrder_offTill {req : CreatePurchaseOrder} {purchaseOrderId : ℕ}
    (h : createPurchaseOrder db req = .ok (db', purchaseOrderId)) : OffTill db db' := by
  rcases createPurchaseOrder_ok h with rfl | ⟨order, items, -, -, -, rfl⟩
  · exact .refl db'
  · exact ⟨rfl, rfl, .of_eq rfl⟩

theorem setOrderStatus_offTill {req : MovePurchaseOrder} {allowed : List PurchaseOrderStatus}
    {status : PurchaseOrderStatus} (h : setOrderStatus db req allowed status = .ok db') :
    OffTill db db' := by
  obtain ⟨order, -, -, rfl⟩ := setOrderStatus_ok h
  exact ⟨rfl, rfl, .of_eq rfl⟩

theorem receiveGoods_offTill {req : ReceiveGoods} {goodsReceiptId : ℕ}
    (h : receiveGoods db req = .ok (db', goodsReceiptId)) : OffTill db db' := by
  rcases receiveGoods_ok h with rfl | ⟨order, lines, d, -, hw, hj⟩
  · exact .refl db'
  · obtain ⟨-, receipt, rows, items, status, -, -, -, -, -, hd⟩ := writeReceipt_ok hw
    exact .posted (by rw [hd]) (by rw [hd]) (by rw [hd]) (by decide) hj

theorem createPurchaseReturn_offTill {req : CreatePurchaseReturn} {purchaseReturnId : ℕ}
    (h : createPurchaseReturn db req = .ok (db', purchaseReturnId)) : OffTill db db' := by
  rcases createPurchaseReturn_ok h with rfl | ⟨lines, d, -, hw, hj⟩
  · exact .refl db'
  · obtain ⟨-, rows, -, hd⟩ := writePurchaseReturn_ok hw
    exact .posted (by rw [hd]) (by rw [hd]) (by rw [hd]) (by decide) hj

/-! #### Adjustments and counts -/

theorem createStockAdjustment_offTill {a : StockAdjustmentInput} {adjustmentId : ℕ}
    (h : createStockAdjustment db a = .ok (db', adjustmentId)) : OffTill db db' := by
  rcases createStockAdjustment_ok h with rfl | hwrite
  · exact .refl db'
  · obtain ⟨adjustment, p, d, -, hm, hj⟩ := writeAdjustment_ok hwrite
    have hframe := recordMovement_frame hm
    unfold postStockAdjustmentJournal at hj
    dsimp only at hj
    split at hj
    · exact .posted (by rw [hframe]) (by rw [hframe]) (by rw [hframe]) (by decide) hj
    · exact .posted (by rw [hframe]) (by rw [hframe]) (by rw [hframe]) (by decide) hj

theorem moveStockCount_offTill {req : MoveStockCount} {again : Option StockCountStatus}
    {allowed : List StockCountStatus} {status : StockCountStatus}
    (h : moveStockCount db req again allowed status = .ok db') : OffTill db db' := by
  rcases moveStockCount_ok h with rfl | ⟨count, -, -, rfl⟩
  · exact .refl db'
  · exact ⟨rfl, rfl, .of_eq rfl⟩

theorem openStockCount_offTill {req : MoveStockCount} (h : openStockCount db req = .ok db') :
    OffTill db db' := by
  rcases openStockCount_ok h with rfl | ⟨count, d, -, hd, rfl⟩
  · exact .refl db'
  · have hframe := (snapshotLines_ok (P := fun _ => True) hd (fun _ _ _ _ => trivial)
      (fun _ _ => trivial) fun _ _ => trivial).1
    exact ⟨by rw [hframe], by rw [hframe], .of_eq (by rw [hframe])⟩

/-- The lines of a count are adjusted one after the other. -/
theorem postStockCount_offTill {req : PostStockCount} (h : postStockCount db req = .ok db') :
    OffTill db db' := by
  rcases postStockCount_ok h with rfl | ⟨count, lines, d, -, -, -, hd, rfl⟩
  · exact .refl db'
  · have hlines : OffTill db d := by
      refine foldlM_induct (fun _ t => OffTill db t) hd (.refl db) ?_
      rintro done line rest t t' - ht hstep
      rcases postCountLine_ok hstep with rfl | ⟨p, counted, i, -, -, hadjust⟩
      · exact ht
      · exact ht.trans (createStockAdjustment_offTill hadjust)
    exact hlines.trans ⟨rfl, rfl, .of_eq rfl⟩

/-! #### Transfers -/

theorem shipTransfer_offTill {req : ShipTransfer} (h : shipTransfer db req = .ok db') :
    OffTill db db' := by
  rcases shipTransfer_ok h with rfl | ⟨transfer, lines, e, shipped, -, -, -, -, he, -, hj⟩
  · exact .refl db'
  · have hframe := (shipLines_ok (P := fun _ => True) he (fun _ _ _ _ => trivial)
      fun _ _ => trivial).1
    exact .posted (by rw [hframe]) (by rw [hframe]) (by rw [hframe]) (by decide) hj

theorem receiveTransfer_offTill {req : ReceiveTransfer} (h : receiveTransfer db req = .ok db') :
    OffTill db db' := by
  rcases receiveTransfer_ok h with rfl | ⟨transfer, lines, d, receiptId, -, -, hw, hj⟩
  · exact .refl db'
  · obtain ⟨hframe, -, -⟩ := writeTransferReceipt_ok hw (P := fun _ => True)
      (fun _ _ _ _ _ => trivial) fun _ _ => trivial
    exact .posted (by rw [hframe]) (by rw [hframe]) (by rw [hframe]) (by decide) hj

theorem cancelTransfer_offTill {req : CancelTransfer} (h : cancelTransfer db req = .ok db') :
    OffTill db db' := by
  rcases cancelTransfer_ok h with rfl | ⟨transfer, cancelled, -, -, -, rfl⟩
  · exact .refl db'
  · exact ⟨rfl, rfl, .of_eq rfl⟩

/-- **A request that is not on a sale leaves the tills alone.** -/
theorem StockRequest.offTill {r : StockRequest} (hr : ¬r.OnSale) (h : r.run db = .ok db') :
    OffTill db db' := by
  cases r with
  | createPurchaseOrder req =>
    obtain ⟨⟨d, i⟩, hrun, rfl⟩ := map_eq_ok.mp h
    exact createPurchaseOrder_offTill hrun
  | submitPurchaseOrder req => exact setOrderStatus_offTill h
  | cancelPurchaseOrder req => exact setOrderStatus_offTill h
  | receiveGoods req =>
    obtain ⟨⟨d, i⟩, hrun, rfl⟩ := map_eq_ok.mp h
    exact receiveGoods_offTill hrun
  | createPurchaseReturn req =>
    obtain ⟨⟨d, i⟩, hrun, rfl⟩ := map_eq_ok.mp h
    exact createPurchaseReturn_offTill hrun
  -- these are on a sale, and are excluded
  | finalizeSale | createSaleReturn | voidSale => exact absurd trivial hr
  | createAdjustment req =>
    obtain ⟨⟨d, i⟩, hrun, rfl⟩ := map_eq_ok.mp h
    -- an adjustment moves stock and posts, and no till has a part in it
    obtain ⟨p, -, hadjust⟩ := createAdjustment_ok hrun
    exact createStockAdjustment_offTill hadjust
  | createStockCount req =>
    obtain ⟨⟨d, i⟩, hrun, rfl⟩ := map_eq_ok.mp h
    obtain ⟨lines, rfl, -⟩ := createStockCount_ok hrun
    exact ⟨rfl, rfl, .of_eq rfl⟩
  | openStockCount req => exact openStockCount_offTill h
  | recordCountEntry req =>
    obtain ⟨lineId, line, row, -, -, -, -, rfl⟩ := recordCountEntry_ok h
    exact ⟨rfl, rfl, .of_eq rfl⟩
  | markStockCountCounted req => exact moveStockCount_offTill h
  | reviewStockCount req => exact moveStockCount_offTill h
  | reopenStockCountForRecount req => exact moveStockCount_offTill h
  | postStockCount req => exact postStockCount_offTill h
  | cancelStockCount req => exact moveStockCount_offTill h
  | createTransfer req =>
    obtain ⟨⟨d, i⟩, hrun, rfl⟩ := map_eq_ok.mp h
    obtain ⟨transfer, lines, -, -, rfl⟩ := createTransfer_ok hrun
    exact ⟨rfl, rfl, .of_eq rfl⟩
  | shipTransfer req => exact shipTransfer_offTill h
  | receiveTransfer req => exact receiveTransfer_offTill h
  | cancelTransfer req => exact cancelTransfer_offTill h

end Requests

end GroceryErp
