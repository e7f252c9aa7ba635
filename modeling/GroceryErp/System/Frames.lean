import GroceryErp.System.Compensations

/-!
# What requests leave alone

Transfers and what a receipt finds of them are written by the requests on transfers only,
counts, their lines and their adjustments by the requests on counts only, and orders, receipts
and purchase returns by the requests on purchase orders only.

## Main definitions

* `OnTransfer`, `OnCount`, `OnPurchase` — the requests on transfers, on counts and on purchase
  orders.
* `UncountedRows` — rows of adjustments that no count has made.
* `Elsewhere` — what any other request leaves alone.
* `StockRequest.Frame` — the tables that a request may write.

## Main results

* `StockRequest.elsewhere` — a request on neither leaves transfers and counts alone.
* `StockRequest.counts_kept` — so do the requests on transfers with counts.
* `StockRequest.frame`, `StockRequest.losses_kept` — what is outside the tables of a request is
  left alone.
* `settlement_frame`, `createPurchaseInvoice_frame`, `postPurchaseInvoice_frame` — what the
  requests on the payables may write.
-/

namespace GroceryErp

open Decimal Outcome Rows

namespace StockRequest

/-- The request is about a transfer. -/
def OnTransfer : StockRequest → Prop
  | createTransfer _ | shipTransfer _ | receiveTransfer _ | cancelTransfer _ => True
  | _ => False

/-- The request is about a count. -/
def OnCount : StockRequest → Prop
  | createStockCount _ | openStockCount _ | recordCountEntry _ | markStockCountCounted _
  | reviewStockCount _ | reopenStockCountForRecount _ | postStockCount _
  | cancelStockCount _ => True
  | _ => False

/-- The request is about a purchase order. -/
def OnPurchase : StockRequest → Prop
  | createPurchaseOrder _ | submitPurchaseOrder _ | cancelPurchaseOrder _ | receiveGoods _
  | createPurchaseReturn _ => True
  | _ => False

end StockRequest

/-- Adjustments are added that no count has made, and the rows before them stay. -/
def UncountedRows (s t : StockTables) : Prop :=
  ∃ rows, t.adjustments = s.adjustments ++ rows ∧ ∀ a ∈ rows, a.val.stockCountId = none

/-- Counts, their lines and their adjustments are left alone. -/
structure CountsKept (s t : StockTables) : Prop where
  counts : t.counts = s.counts
  countLines : t.countLines = s.countLines
  adjustments : UncountedRows s t

/-- Transfers and counts are left alone, as by a request that is about neither. -/
structure Elsewhere (db db' : Db) : Prop where
  transfers : db'.transfers = db.transfers
  counts : CountsKept db.stock db'.stock

/-- The tables that a request on stock may write; orders are written by those about a purchase
alone, and transfers by those about a transfer. -/
structure StockRequest.Frame (r : StockRequest) (db db' : Db) : Prop where
  others : db' = { db with
    stock := db'.stock
    purchasing := db'.purchasing
    sales := db'.sales
    transfers := db'.transfers
    losses := db'.losses
    ledger.entries := db'.ledger.entries }
  purchasing : ¬r.OnPurchase → db'.purchasing = db.purchasing
  transfers : ¬r.OnTransfer → db'.transfers = db.transfers

section Requests

variable {db d db' : Db}

theorem uncountedRows_of_eq {s t : StockTables} (h : t.adjustments = s.adjustments) :
    UncountedRows s t :=
  ⟨[], by rw [h, List.append_nil], by simp⟩

/-- Movements leave counts alone: no line of a count changes, nor what it noted. -/
theorem CountsKept.moved (s t : StockTables) : CountsKept s (s.moved t) :=
  ⟨rfl, rfl, uncountedRows_of_eq rfl⟩

theorem Elsewhere.refl (db : Db) : Elsewhere db db := ⟨rfl, .moved db.stock db.stock⟩

/-- An entry leaves transfers and counts alone, and all else but the ledger. -/
theorem Elsewhere.posted (h : Elsewhere db d)
    (hframe : db' = { d with ledger.entries := db'.ledger.entries }) : Elsewhere db db' := by
  rw [hframe]
  exact ⟨h.transfers, h.counts⟩

/-! #### Orders, sales and adjustments -/

theorem createPurchaseOrder_elsewhere {req : CreatePurchaseOrder} {purchaseOrderId : ℕ}
    (h : createPurchaseOrder db req = .ok (db', purchaseOrderId)) : Elsewhere db db' := by
  rcases createPurchaseOrder_ok h with rfl | ⟨order, items, -, -, -, rfl⟩
  · exact .refl db'
  · exact ⟨rfl, .moved _ _⟩

theorem setOrderStatus_elsewhere {req : MovePurchaseOrder} {allowed : List PurchaseOrderStatus}
    {status : PurchaseOrderStatus} (h : setOrderStatus db req allowed status = .ok db') :
    Elsewhere db db' := by
  obtain ⟨order, -, -, rfl⟩ := setOrderStatus_ok h
  exact ⟨rfl, .moved _ _⟩

theorem receiveGoods_elsewhere {req : ReceiveGoods} {goodsReceiptId : ℕ}
    (h : receiveGoods db req = .ok (db', goodsReceiptId)) : Elsewhere db db' := by
  rcases receiveGoods_ok h with rfl | ⟨order, lines, d, -, hw, hj⟩
  · exact .refl db'
  obtain ⟨-, receipt, rows, items, status, -, -, -, -, -, hd⟩ := writeReceipt_ok hw
  have hwritten : Elsewhere db d := by
    rw [hd]
    exact ⟨rfl, .moved _ _⟩
  exact hwritten.posted (postJournalUnlessEmpty_frame hj)

theorem createPurchaseReturn_elsewhere {req : CreatePurchaseReturn} {purchaseReturnId : ℕ}
    (h : createPurchaseReturn db req = .ok (db', purchaseReturnId)) : Elsewhere db db' := by
  rcases createPurchaseReturn_ok h with rfl | ⟨lines, d, -, hw, hj⟩
  · exact .refl db'
  obtain ⟨-, rows, -, hd⟩ := writePurchaseReturn_ok hw
  have hwritten : Elsewhere db d := by
    rw [hd]
    exact ⟨rfl, .moved _ _⟩
  exact hwritten.posted (postJournalUnlessEmpty_frame hj)

theorem finalizeSale_elsewhere {req : FinalizeSale} {saleId : ℕ}
    (h : finalizeSale db req = .ok (db', saleId)) : Elsewhere db db' := by
  rcases finalizeSale_ok h with ⟨-, -, rfl⟩ | ⟨-, cart, changeDue, d, -, hw, hj⟩
  · exact .refl db'
  obtain ⟨-, shiftId, sale, items, payments, -, -, -, hd⟩ := writeSale_ok hw
  have hwritten : Elsewhere db d := by
    rw [hd]
    exact ⟨rfl, .moved _ _⟩
  exact hwritten.posted (postJournal_frame hj)

/-- A return writes stock, sales and its entry. -/
theorem createSaleReturn_frame {req : CreateSaleReturn} {saleReturnId : ℕ}
    (h : createSaleReturn db req = .ok (db', saleReturnId)) : ∃ t, db' = { db with
      stock := db.stock.moved t
      sales := db'.sales
      ledger.entries := db'.ledger.entries } := by
  rcases createSaleReturn_ok h with ⟨-, rfl⟩ | ⟨-, sale, lines, _, _, d, -, -, -, hw, hj⟩
  · exact ⟨db'.stock, rfl⟩
  obtain ⟨-, _, saleReturn, saleAfter, e, -, -, he, rfl⟩ := writeReturn_ok hw
  have hlines : ∃ t, e = { db with stock := db.stock.moved t, sales := e.sales } := by
    refine foldlM_induct (fun _ d => ∃ t, d = { db with
      stock := db.stock.moved t, sales := d.sales }) he ⟨db.stock, rfl⟩ ?_
    rintro done l rest d d' - ⟨t, ht⟩ hstep
    obtain ⟨row, u, item, -, hu, -, rfl⟩ := addReturnLine_eq_ok.mp hstep
    refine ⟨u.stock, ?_⟩
    rw [restockLine_frame hu, ht]
    rfl
  obtain ⟨t, ht⟩ := hlines
  refine ⟨t, ?_⟩
  rw [postJournalUnlessEmpty_frame hj, ht]

theorem createSaleReturn_elsewhere {req : CreateSaleReturn} {saleReturnId : ℕ}
    (h : createSaleReturn db req = .ok (db', saleReturnId)) : Elsewhere db db' := by
  obtain ⟨t, ht⟩ := createSaleReturn_frame h
  rw [ht]
  exact ⟨rfl, .moved _ _⟩

/-- An adjustment that is not of a count leaves the counts alone. -/
theorem createStockAdjustment_elsewhere {a : StockAdjustmentInput} {adjustmentId : ℕ}
    (ha : a.stockCountId = none) (h : createStockAdjustment db a = .ok (db', adjustmentId)) :
    Elsewhere db db' := by
  rcases createStockAdjustment_ok h with rfl | hw
  · exact .refl db'
  obtain ⟨row, hrow, hadded⟩ := writeAdjustment_added hw
  have hframe := createStockAdjustment_frame h
  refine ⟨by rw [hframe], by rw [hframe], by rw [hframe], [row], hadded, fun k hk => ?_⟩
  rw [List.mem_singleton.mp hk, hrow]
  exact ha

/-- **A request that is about neither transfers nor counts leaves both alone.** -/
theorem StockRequest.elsewhere {r : StockRequest} (htransfer : ¬r.OnTransfer) (hcount : ¬r.OnCount)
    (h : r.run db = .ok db') : Elsewhere db db' := by
  cases r with
  | createPurchaseOrder req =>
    obtain ⟨⟨d, i⟩, hrun, rfl⟩ := map_eq_ok.mp h
    exact createPurchaseOrder_elsewhere hrun
  -- an order's status is all that changes
  | submitPurchaseOrder req => exact setOrderStatus_elsewhere h
  | cancelPurchaseOrder req => exact setOrderStatus_elsewhere h
  | receiveGoods req =>
    obtain ⟨⟨d, i⟩, hrun, rfl⟩ := map_eq_ok.mp h
    exact receiveGoods_elsewhere hrun
  | createPurchaseReturn req =>
    obtain ⟨⟨d, i⟩, hrun, rfl⟩ := map_eq_ok.mp h
    exact createPurchaseReturn_elsewhere hrun
  | finalizeSale req =>
    obtain ⟨⟨d, i⟩, hrun, rfl⟩ := map_eq_ok.mp h
    exact finalizeSale_elsewhere hrun
  | createSaleReturn req =>
    obtain ⟨⟨d, i⟩, hrun, rfl⟩ := map_eq_ok.mp h
    exact createSaleReturn_elsewhere hrun
  | voidSale req =>
    obtain ⟨⟨d, i⟩, hrun, rfl⟩ := map_eq_ok.mp h
    exact createSaleReturn_elsewhere (voidSale_ok hrun)
  | createAdjustment req =>
    obtain ⟨⟨d, i⟩, hrun, rfl⟩ := map_eq_ok.mp h
    obtain ⟨p, -, hadjust⟩ := createAdjustment_ok hrun
    exact createStockAdjustment_elsewhere rfl hadjust
  -- requests on counts and on transfers are the two that are excluded
  | createStockCount req => exact absurd trivial hcount
  | openStockCount req => exact absurd trivial hcount
  | recordCountEntry req => exact absurd trivial hcount
  | markStockCountCounted req => exact absurd trivial hcount
  | reviewStockCount req => exact absurd trivial hcount
  | reopenStockCountForRecount req => exact absurd trivial hcount
  | postStockCount req => exact absurd trivial hcount
  | cancelStockCount req => exact absurd trivial hcount
  | createTransfer req => exact absurd trivial htransfer
  | shipTransfer req => exact absurd trivial htransfer
  | receiveTransfer req => exact absurd trivial htransfer
  | cancelTransfer req => exact absurd trivial htransfer

/-! #### Counts -/

/-- The lines of a count are adjusted one after the other. -/
theorem postCountLines_frame {count : StockCount} {stockCountId : ℕ} {today : Date}
    {lines : List (Row StockCountLine)}
    (h : lines.foldlM (postCountLine count stockCountId today) db = .ok db') : db' = { db with
      stock.products := db'.stock.products
      stock.movements := db'.stock.movements
      stock.adjustments := db'.stock.adjustments
      ledger.entries := db'.ledger.entries } := by
  refine foldlM_induct (fun _ t => t = { db with
      stock.products := t.stock.products
      stock.movements := t.stock.movements
      stock.adjustments := t.stock.adjustments
      ledger.entries := t.ledger.entries }) h rfl ?_
  rintro done line rest t t' - ht hstep
  rcases postCountLine_ok hstep with rfl | ⟨p, counted, i, -, -, hadjust⟩
  · exact ht
  · rw [createStockAdjustment_frame hadjust, ht]

/-! #### Transfers -/

theorem shipTransfer_counts {req : ShipTransfer} (h : shipTransfer db req = .ok db') :
    CountsKept db.stock db'.stock := by
  rcases shipTransfer_ok h with rfl | ⟨transfer, lines, e, shipped, -, -, -, -, he, -, hj⟩
  · exact .moved _ _
  have heframe := (shipLines_ok (P := fun _ => True) he (fun _ _ _ _ => trivial)
    fun _ _ => trivial).1
  rw [postJournalUnlessEmpty_frame hj, heframe]
  exact .moved _ _

theorem receiveTransfer_counts {req : ReceiveTransfer} (h : receiveTransfer db req = .ok db') :
    CountsKept db.stock db'.stock := by
  rcases receiveTransfer_ok h with rfl | ⟨transfer, lines, d, receiptId, -, -, hw, hj⟩
  · exact .moved _ _
  obtain ⟨hdframe, -, -⟩ := writeTransferReceipt_ok hw (P := fun _ => True)
    (fun _ _ _ _ _ => trivial) fun _ _ => trivial
  rw [postJournalUnlessEmpty_frame hj, hdframe]
  exact .moved _ _

/-- **Only the requests on counts write counts, their lines and their adjustments.** -/
theorem StockRequest.counts_kept {r : StockRequest} (hr : ¬r.OnCount) (h : r.run db = .ok db') :
    CountsKept db.stock db'.stock := by
  cases r with
  | createTransfer req =>
    obtain ⟨⟨d, i⟩, hrun, rfl⟩ := map_eq_ok.mp h
    obtain ⟨transfer, lines, -, -, rfl⟩ := createTransfer_ok hrun
    exact .moved _ _
  | shipTransfer req => exact shipTransfer_counts h
  | receiveTransfer req => exact receiveTransfer_counts h
  | cancelTransfer req =>
    rcases cancelTransfer_ok h with rfl | ⟨transfer, cancelled, -, -, -, rfl⟩
    · exact .moved _ _
    · exact .moved _ _
  | _ => exact (StockRequest.elsewhere id hr h).counts

/-! #### The tables a request writes -/

theorem createPurchaseOrder_frame {req : CreatePurchaseOrder} {purchaseOrderId : ℕ}
    (h : createPurchaseOrder db req = .ok (db', purchaseOrderId)) :
    db' = { db with purchasing := db'.purchasing } := by
  rcases createPurchaseOrder_ok h with rfl | ⟨order, items, -, -, -, rfl⟩
  · rfl
  · rfl

theorem setOrderStatus_frame {req : MovePurchaseOrder} {allowed : List PurchaseOrderStatus}
    {status : PurchaseOrderStatus} (h : setOrderStatus db req allowed status = .ok db') :
    db' = { db with purchasing := db'.purchasing } := by
  obtain ⟨order, -, -, rfl⟩ := setOrderStatus_ok h
  rfl

theorem receiveGoods_frame {req : ReceiveGoods} {goodsReceiptId : ℕ}
    (h : receiveGoods db req = .ok (db', goodsReceiptId)) : db' = { db with
      stock := db'.stock
      purchasing := db'.purchasing
      ledger.entries := db'.ledger.entries } := by
  rcases receiveGoods_ok h with rfl | ⟨order, lines, d, -, hw, hj⟩
  · rfl
  obtain ⟨-, receipt, rows, items, status, -, -, -, -, -, hd⟩ := writeReceipt_ok hw
  rw [postJournalUnlessEmpty_frame hj, hd]

theorem createPurchaseReturn_frame {req : CreatePurchaseReturn} {purchaseReturnId : ℕ}
    (h : createPurchaseReturn db req = .ok (db', purchaseReturnId)) : db' = { db with
      stock := db'.stock
      purchasing := db'.purchasing
      ledger.entries := db'.ledger.entries } := by
  rcases createPurchaseReturn_ok h with rfl | ⟨lines, d, -, hw, hj⟩
  · rfl
  obtain ⟨-, rows, -, hd⟩ := writePurchaseReturn_ok hw
  rw [postJournalUnlessEmpty_frame hj, hd]

theorem finalizeSale_frame {req : FinalizeSale} {saleId : ℕ}
    (h : finalizeSale db req = .ok (db', saleId)) : db' = { db with
      stock := db'.stock
      sales := db'.sales
      ledger.entries := db'.ledger.entries } := by
  rcases finalizeSale_ok h with ⟨-, -, rfl⟩ | ⟨-, cart, changeDue, d, -, hw, hj⟩
  · rfl
  obtain ⟨-, shiftId, sale, items, payments, -, -, -, hd⟩ := writeSale_ok hw
  rw [postJournal_frame hj, hd]

theorem moveStockCount_frame {req : MoveStockCount} {again : Option StockCountStatus}
    {allowed : List StockCountStatus} {status : StockCountStatus}
    (h : moveStockCount db req again allowed status = .ok db') :
    db' = { db with stock := db'.stock } := by
  rcases moveStockCount_ok h with rfl | ⟨count, -, -, rfl⟩
  · rfl
  · rfl

theorem openStockCount_frame {req : MoveStockCount} (h : openStockCount db req = .ok db') :
    db' = { db with stock := db'.stock } := by
  rcases openStockCount_ok h with rfl | ⟨count, d, -, hd, rfl⟩
  · rfl
  · rw [(snapshotLines_ok (P := fun _ => True) hd (fun _ _ _ _ => trivial)
      (fun _ _ => trivial) fun _ _ => trivial).1]

theorem postStockCount_frame {req : PostStockCount} (h : postStockCount db req = .ok db') :
    db' = { db with stock := db'.stock, ledger.entries := db'.ledger.entries } := by
  rcases postStockCount_ok h with rfl | ⟨count, lines, d, -, -, -, hd, rfl⟩
  · rfl
  · rw [postCountLines_frame hd]

theorem createTransfer_frame {req : CreateTransfer} {transferId : ℕ}
    (h : createTransfer db req = .ok (db', transferId)) :
    db' = { db with transfers := db'.transfers } := by
  obtain ⟨transfer, lines, -, -, rfl⟩ := createTransfer_ok h
  rfl

theorem shipTransfer_frame {req : ShipTransfer} (h : shipTransfer db req = .ok db') :
    db' = { db with
      stock := db'.stock
      transfers := db'.transfers
      ledger.entries := db'.ledger.entries } := by
  rcases shipTransfer_ok h with rfl | ⟨transfer, lines, e, shipped, -, -, -, -, he, -, hj⟩
  · rfl
  rw [postJournalUnlessEmpty_frame hj, (shipLines_ok (P := fun _ => True) he
    (fun _ _ _ _ => trivial) fun _ _ => trivial).1]

theorem receiveTransfer_frame {req : ReceiveTransfer} (h : receiveTransfer db req = .ok db') :
    db' = { db with
      stock := db'.stock
      transfers := db'.transfers
      losses := db'.losses
      ledger.entries := db'.ledger.entries } := by
  rcases receiveTransfer_ok h with rfl | ⟨transfer, lines, d, receiptId, -, -, hw, hj⟩
  · rfl
  rw [postJournalUnlessEmpty_frame hj, (writeTransferReceipt_ok hw (P := fun _ => True)
    (fun _ _ _ _ _ => trivial) fun _ _ => trivial).1]

theorem cancelTransfer_frame {req : CancelTransfer} (h : cancelTransfer db req = .ok db') :
    db' = { db with transfers := db'.transfers } := by
  rcases cancelTransfer_ok h with rfl | ⟨transfer, cancelled, -, -, -, rfl⟩
  · rfl
  · rfl

/-- **A request writes stock and what it is about: orders, sales or transfers, with entries and
what a receipt finds.** -/
theorem StockRequest.frame {r : StockRequest} (h : r.run db = .ok db') : r.Frame db db' := by
  cases r with
  | createPurchaseOrder req =>
    obtain ⟨⟨d, i⟩, hrun, rfl⟩ := map_eq_ok.mp h
    have hframe := createPurchaseOrder_frame hrun
    exact ⟨by rw [hframe], fun hr => absurd trivial hr, fun _ => by rw [hframe]⟩
  | submitPurchaseOrder req | cancelPurchaseOrder req =>
    have hframe := setOrderStatus_frame h
    exact ⟨by rw [hframe], fun hr => absurd trivial hr, fun _ => by rw [hframe]⟩
  | receiveGoods req =>
    obtain ⟨⟨d, i⟩, hrun, rfl⟩ := map_eq_ok.mp h
    have hframe := receiveGoods_frame hrun
    exact ⟨by rw [hframe], fun hr => absurd trivial hr, fun _ => by rw [hframe]⟩
  | createPurchaseReturn req =>
    obtain ⟨⟨d, i⟩, hrun, rfl⟩ := map_eq_ok.mp h
    have hframe := createPurchaseReturn_frame hrun
    exact ⟨by rw [hframe], fun hr => absurd trivial hr, fun _ => by rw [hframe]⟩
  | finalizeSale req =>
    obtain ⟨⟨d, i⟩, hrun, rfl⟩ := map_eq_ok.mp h
    have hframe := finalizeSale_frame hrun
    exact ⟨by rw [hframe], fun _ => by rw [hframe], fun _ => by rw [hframe]⟩
  | createSaleReturn req =>
    obtain ⟨⟨d, i⟩, hrun, rfl⟩ := map_eq_ok.mp h
    -- which stock a return leaves depends on its lines, and the frame says nothing of it
    obtain ⟨t, hframe⟩ := createSaleReturn_frame hrun
    exact ⟨by rw [hframe], fun _ => by rw [hframe], fun _ => by rw [hframe]⟩
  | voidSale req =>
    obtain ⟨⟨d, i⟩, hrun, rfl⟩ := map_eq_ok.mp h
    obtain ⟨t, hframe⟩ := createSaleReturn_frame (voidSale_ok hrun)
    exact ⟨by rw [hframe], fun _ => by rw [hframe], fun _ => by rw [hframe]⟩
  | createAdjustment req =>
    obtain ⟨⟨d, i⟩, hrun, rfl⟩ := map_eq_ok.mp h
    obtain ⟨p, -, hadjust⟩ := createAdjustment_ok hrun
    have hframe := createStockAdjustment_frame hadjust
    exact ⟨by rw [hframe], fun _ => by rw [hframe], fun _ => by rw [hframe]⟩
  | createStockCount req =>
    obtain ⟨⟨d, i⟩, hrun, rfl⟩ := map_eq_ok.mp h
    obtain ⟨lines, rfl, -⟩ := createStockCount_ok hrun
    exact ⟨rfl, fun _ => rfl, fun _ => rfl⟩
  | recordCountEntry req =>
    obtain ⟨lineId, line, row, -, -, -, -, rfl⟩ := recordCountEntry_ok h
    -- a count in progress writes its own rows only
    exact ⟨rfl, fun _ => rfl, fun _ => rfl⟩
  | openStockCount req =>
    have hframe := openStockCount_frame h
    exact ⟨by rw [hframe], fun _ => by rw [hframe], fun _ => by rw [hframe]⟩
  | markStockCountCounted req | reviewStockCount req | reopenStockCountForRecount req
  | cancelStockCount req =>
    have hframe := moveStockCount_frame h
    exact ⟨by rw [hframe], fun _ => by rw [hframe], fun _ => by rw [hframe]⟩
  | postStockCount req =>
    have hframe := postStockCount_frame h
    exact ⟨by rw [hframe], fun _ => by rw [hframe], fun _ => by rw [hframe]⟩
  | createTransfer req =>
    obtain ⟨⟨d, i⟩, hrun, rfl⟩ := map_eq_ok.mp h
    have hframe := createTransfer_frame hrun
    exact ⟨by rw [hframe], fun _ => by rw [hframe], fun hr => absurd trivial hr⟩
  | shipTransfer req =>
    have hframe := shipTransfer_frame h
    exact ⟨by rw [hframe], fun _ => by rw [hframe], fun hr => absurd trivial hr⟩
  | receiveTransfer req =>
    have hframe := receiveTransfer_frame h
    exact ⟨by rw [hframe], fun _ => by rw [hframe], fun hr => absurd trivial hr⟩
  | cancelTransfer req =>
    have hframe := cancelTransfer_frame h
    exact ⟨by rw [hframe], fun _ => by rw [hframe], fun hr => absurd trivial hr⟩

/-- Requests that are not about transfers lose nothing. -/
theorem StockRequest.losses_kept {r : StockRequest} (h : r.run db = .ok db')
    (hr : ¬r.OnTransfer) : db'.losses = db.losses := by
  cases r with
  | createPurchaseOrder req =>
    obtain ⟨⟨d, i⟩, hrun, rfl⟩ := map_eq_ok.mp h
    rw [createPurchaseOrder_frame hrun]
  | submitPurchaseOrder req | cancelPurchaseOrder req => rw [setOrderStatus_frame h]
  | receiveGoods req =>
    obtain ⟨⟨d, i⟩, hrun, rfl⟩ := map_eq_ok.mp h
    rw [receiveGoods_frame hrun]
  | createPurchaseReturn req =>
    obtain ⟨⟨d, i⟩, hrun, rfl⟩ := map_eq_ok.mp h
    rw [createPurchaseReturn_frame hrun]
  | finalizeSale req =>
    obtain ⟨⟨d, i⟩, hrun, rfl⟩ := map_eq_ok.mp h
    rw [finalizeSale_frame hrun]
  | createSaleReturn req =>
    obtain ⟨⟨d, i⟩, hrun, rfl⟩ := map_eq_ok.mp h
    obtain ⟨t, hframe⟩ := createSaleReturn_frame hrun
    rw [hframe]
  | voidSale req =>
    obtain ⟨⟨d, i⟩, hrun, rfl⟩ := map_eq_ok.mp h
    obtain ⟨t, hframe⟩ := createSaleReturn_frame (voidSale_ok hrun)
    rw [hframe]
  | createAdjustment req =>
    obtain ⟨⟨d, i⟩, hrun, rfl⟩ := map_eq_ok.mp h
    obtain ⟨p, -, hadjust⟩ := createAdjustment_ok hrun
    rw [createStockAdjustment_frame hadjust]
  | createStockCount req =>
    obtain ⟨⟨d, i⟩, hrun, rfl⟩ := map_eq_ok.mp h
    obtain ⟨lines, rfl, -⟩ := createStockCount_ok hrun
    rfl
  | recordCountEntry req =>
    obtain ⟨lineId, line, row, -, -, -, -, rfl⟩ := recordCountEntry_ok h
    rfl
  | openStockCount req => rw [openStockCount_frame h]
  | markStockCountCounted req | reviewStockCount req | reopenStockCountForRecount req
  | cancelStockCount req => rw [moveStockCount_frame h]
  | postStockCount req => rw [postStockCount_frame h]
  -- shipments and receipts find losses, and are excluded
  | createTransfer req | shipTransfer req | receiveTransfer req | cancelTransfer req =>
    exact absurd trivial hr

/-! #### Payables -/

/-- What the requests on the payables may write. -/
def PayablesFrame (db db' : Db) : Prop :=
  db' = { db with
    stock := db'.stock
    purchasing := db'.purchasing
    payables := db'.payables
    ledger.entries := db'.ledger.entries }

theorem PayablesFrame.transfers (h : PayablesFrame db db') : db'.transfers = db.transfers := by
  unfold PayablesFrame at h
  rw [h]

theorem PayablesFrame.losses (h : PayablesFrame db db') : db'.losses = db.losses := by
  unfold PayablesFrame at h
  rw [h]

theorem PayablesFrame.replenishment (h : PayablesFrame db db') :
    db'.replenishment = db.replenishment := by
  unfold PayablesFrame at h
  rw [h]

theorem settlement_frame {r : SettlementRequest} (h : r.run db = .ok db') :
    PayablesFrame db db' := by
  unfold PayablesFrame
  cases r with
  | recordSupplierPayment req =>
    obtain ⟨⟨d, i⟩, hrun, rfl⟩ := map_eq_ok.mp h
    rcases recordSupplierPayment_ok hrun with rfl | ⟨-, -, -, payment, rows, d, -, -, hd, hpost⟩
    · rfl
    · rw [postJournalUnlessEmpty_frame hpost, settleAll_frame hd]
  | createSupplierCreditNote req =>
    obtain ⟨⟨d, i⟩, hrun, rfl⟩ := map_eq_ok.mp h
    rcases createSupplierCreditNote_ok hrun with ⟨rfl, -⟩ | ⟨-, -, -, note, lines, rows, d, -, -, -,
      hd, hpost⟩
    · rfl
    · rw [postJournalUnlessEmpty_frame hpost, settleAll_frame hd]
  | reverseSupplierPayment req =>
    rcases reverseSupplierPayment_ok h with rfl | ⟨payment, d, e, -, -, hd, hpost, rfl⟩
    · rfl
    · rw [postJournal_frame hpost, settleAll_frame hd]
  | reverseSupplierCreditNote req =>
    rcases reverseSupplierCreditNote_ok h with rfl | ⟨note, row, d, e, -, -, hd, -, hpost, rfl⟩
    · rfl
    · rw [postJournal_frame hpost, settleAll_frame hd]
  | voidPurchaseInvoice req =>
    rcases voidPurchaseInvoice_steps h with rfl | ⟨invoice, -, hcases⟩
    · rfl
    -- a posted invoice is voided with an entry, a draft without
    rcases hcases with ⟨-, plan, -, hfinish⟩ | ⟨-, hwrite⟩
    · obtain ⟨items, d, row, voided, -, hpost, -, -, rfl⟩ := finishVoid_ok hfinish
      rw [postJournalUnlessEmpty_frame hpost]
    · obtain ⟨row, voided, -, -, rfl⟩ := writeVoided_eq_ok.mp hwrite
      rfl

theorem createPurchaseInvoice_frame {req : CreatePurchaseInvoice} {invoiceId : ℕ}
    (h : createPurchaseInvoice db req = .ok (db', invoiceId)) : PayablesFrame db db' := by
  unfold createPurchaseInvoice at h
  rw [bind_eq_ok] at h
  obtain ⟨found, -, h⟩ := h
  cases found with
  | some found =>
    rw [pure_eq_ok, Prod.mk.injEq] at h
    rw [← h.1]
    rfl
  | none =>
    rw [bind_eq_ok] at h
    obtain ⟨plan, -, hinsert⟩ := h
    rcases insertInvoice_ok hinsert with rfl | ⟨invoice, lines, -, -, rfl⟩
    · rfl
    · rfl

theorem postPurchaseInvoice_frame {req : PostPurchaseInvoice}
    (h : postPurchaseInvoice db req = .ok db') : PayablesFrame db db' := by
  unfold PayablesFrame
  rcases postPurchaseInvoice_steps h with rfl | ⟨lines, plan, hload, -, hfinish⟩
  · rfl
  obtain ⟨rfl, -, -⟩ := loadForPosting_ok hload
  obtain ⟨rows, items, row, posted, -, -, -, -, hpost⟩ := finishPosting_ok hfinish
  rw [postJournalUnlessEmpty_frame hpost]

end Requests

end GroceryErp
