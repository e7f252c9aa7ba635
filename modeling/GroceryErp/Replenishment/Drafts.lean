import GroceryErp.Replenishment.Plans

/-!
# Drafts and the documents of plans

What the drafts request of a product only shrinks under the requests that run beside the
executions of plans: sales, receipts, shipments and cancellations draft nothing.

## Main definitions

* `StockRequest.BesidePlans` — the requests that draft neither orders nor transfers.
* `planDocuments` — how many orders and transfers a plan has generated.
* `DraftsNothing` — what such a request keeps.

## Main results

* `StockRequest.draftsNothing` — these requests draft nothing.
* `DraftsNothing.committed_le`, `DraftsNothing.planDocuments_eq` — they commit no more of a
  product, and generate no document.
-/

namespace GroceryErp

open Decimal Outcome Rows

/-- Sales, receipts, and what moves orders and transfers on once they are drafted. -/
def StockRequest.BesidePlans : StockRequest → Prop
  | finalizeSale _ | createSaleReturn _ | voidSale _ => True
  | submitPurchaseOrder _ | cancelPurchaseOrder _ | receiveGoods _ | createPurchaseReturn _ => True
  | shipTransfer _ | receiveTransfer _ | cancelTransfer _ => True
  | _ => False

/-- The orders and transfers that carry a plan's id. -/
def planDocuments (db : Db) (planId : ℕ) : ℕ :=
  (db.purchasing.orders.map (·.replenishmentPlanId)).count (some planId)
    + (db.transfers.transfers.map (·.val.replenishmentPlanId)).count (some planId)

/-- The columns of a line that are written when it is drafted, and stay. -/
def InterStoreTransferLine.drafted (l : InterStoreTransferLine) : ℕ × ℕ × ℚ :=
  (l.transferId, l.sourceProductId, l.requestedQuantity)

/-- No order and no transfer is added, no transfer becomes a draft, and the lines keep what
they request. -/
structure DraftsNothing (db db' : Db) : Prop where
  orders : db'.purchasing.orders.map (·.replenishmentPlanId)
    = db.purchasing.orders.map (·.replenishmentPlanId)
  transfers : Overwritten (fun _ a b => b.val.replenishmentPlanId = a.val.replenishmentPlanId ∧
    (b.val.status = .draft → a.val.status = .draft)) db.transfers.transfers db'.transfers.transfers
  lines : db'.transfers.lines.map (·.val.drafted) = db.transfers.lines.map (·.val.drafted)

section Requests

variable {db d db' : Db}

theorem DraftsNothing.of_eq (orders : db'.purchasing.orders.map (·.replenishmentPlanId)
    = db.purchasing.orders.map (·.replenishmentPlanId)) (transfers : db'.transfers = db.transfers) :
    DraftsNothing db db' := by
  refine ⟨orders, ?_, ?_⟩
  · rw [transfers]
    exact .refl _ fun _ _ _ => ⟨rfl, id⟩
  · rw [transfers]

/-- A transfer is written that is no draft. -/
theorem overwritten_of_moved_on {t : List (Row InterStoreTransfer)} {i : ℕ}
    {a b : Row InterStoreTransfer} (ha : t[i]? = some a)
    (hplan : b.val.replenishmentPlanId = a.val.replenishmentPlanId) (hb : b.val.status ≠ .draft) :
    Overwritten (fun _ a b => b.val.replenishmentPlanId = a.val.replenishmentPlanId ∧
      (b.val.status = .draft → a.val.status = .draft)) t (t.set i b) := by
  refine (Overwritten.refl (R := fun _ a b => b.val.replenishmentPlanId
    = a.val.replenishmentPlanId ∧ (b.val.status = .draft → a.val.status = .draft)) t
    fun _ _ _ => ⟨rfl, id⟩).set ha ?_ fun _ _ _ _ h => h
  rintro c ⟨hc, -⟩
  exact ⟨hplan.trans hc, fun hdraft => absurd hdraft hb⟩

/-! #### Orders -/

theorem setOrderStatus_draftsNothing {req : MovePurchaseOrder} {allowed : List PurchaseOrderStatus}
    {status : PurchaseOrderStatus} (h : setOrderStatus db req allowed status = .ok db') :
    DraftsNothing db db' := by
  obtain ⟨order, horder, -, rfl⟩ := setOrderStatus_ok h
  exact .of_eq (map_set_of_eq horder rfl) rfl

theorem receiveGoods_draftsNothing {req : ReceiveGoods} {goodsReceiptId : ℕ}
    (h : receiveGoods db req = .ok (db', goodsReceiptId)) : DraftsNothing db db' := by
  have hframe := receiveGoods_frame h
  refine .of_eq ?_ (by rw [hframe])
  rcases receiveGoods_ok h with rfl | ⟨order, lines, d, hplan, hw, hj⟩
  · rfl
  obtain ⟨horder, -, -⟩ := planReceipt_ok hplan
  obtain ⟨-, receipt, rows, items, status, -, -, -, -, -, hd⟩ := writeReceipt_ok hw
  rw [postJournalUnlessEmpty_frame hj, hd]
  exact map_set_of_eq horder rfl

theorem createPurchaseReturn_draftsNothing {req : CreatePurchaseReturn} {purchaseReturnId : ℕ}
    (h : createPurchaseReturn db req = .ok (db', purchaseReturnId)) : DraftsNothing db db' := by
  have hframe := createPurchaseReturn_frame h
  refine .of_eq ?_ (by rw [hframe])
  rcases createPurchaseReturn_ok h with rfl | ⟨lines, d, -, hw, hj⟩
  · rfl
  obtain ⟨-, rows, -, hd⟩ := writePurchaseReturn_ok hw
  rw [postJournalUnlessEmpty_frame hj, hd]

/-! #### Transfers -/

/-- Shipped lines keep what they request. -/
theorem shipLines_drafted {storeId transferId : ℕ} {lines : List ShipLine}
    (h : lines.foldlM (shipLine storeId transferId) db = .ok db') :
    db'.transfers.lines.map (·.val.drafted) = db.transfers.lines.map (·.val.drafted) := by
  refine foldlM_induct (fun _ t => t.transfers.lines.map (·.val.drafted)
    = db.transfers.lines.map (·.val.drafted)) h rfl ?_
  rintro done l rest t t' - ht hstep
  obtain ⟨old, line, hold, hline, hm⟩ := shipLine_eq_ok.mp hstep
  rw [recordMovement_frame hm, ← ht]
  refine map_set_of_eq hold ?_
  rw [hline]
  rfl

theorem shipTransfer_draftsNothing {req : ShipTransfer} (h : shipTransfer db req = .ok db') :
    DraftsNothing db db' := by
  have hframe := shipTransfer_frame h
  refine ⟨by rw [hframe], ?_, ?_⟩
  · rcases shipTransfer_ok h with rfl | ⟨transfer, lines, e, shipped, -, htransfer, -, -, he, hshipped,
      hj⟩
    · exact .refl _ fun _ _ _ => ⟨rfl, id⟩
    rw [postJournalUnlessEmpty_frame hj, (shipLines_ok (P := fun _ => True) he
      (fun _ _ _ _ => trivial) fun _ _ => trivial).1]
    refine overwritten_of_moved_on htransfer ?_ ?_
    · rw [hshipped]
    · rw [hshipped]
      exact TransferStatus.noConfusion
  · rcases shipTransfer_ok h with rfl | ⟨transfer, lines, e, shipped, -, -, -, -, he, -, hj⟩
    · rfl
    have hdrafted := shipLines_drafted he
    rw [postJournalUnlessEmpty_frame hj]
    exact hdrafted

theorem receiveTransfer_draftsNothing {req : ReceiveTransfer}
    (h : receiveTransfer db req = .ok db') : DraftsNothing db db' := by
  have hframe := receiveTransfer_frame h
  refine ⟨by rw [hframe], ?_, ?_⟩
  · rcases receiveTransfer_unpacked h with rfl | ⟨lines, new, found, hunpacked⟩
    · exact .refl _ fun _ _ _ => ⟨rfl, id⟩
    · rw [hunpacked.transfers]
      exact .refl _ fun _ _ _ => ⟨rfl, id⟩
  · rcases receiveTransfer_unpacked h with rfl | ⟨lines, new, found, hunpacked⟩
    · rfl
    · refine hunpacked.accounted.map_eq fun i a b hab => ?_
      rw [hab]
      rfl

theorem cancelTransfer_draftsNothing {req : CancelTransfer} (h : cancelTransfer db req = .ok db') :
    DraftsNothing db db' := by
  rcases cancelTransfer_ok h with rfl | ⟨transfer, cancelled, htransfer, -, hcancelled, rfl⟩
  · exact .of_eq rfl rfl
  refine ⟨rfl, overwritten_of_moved_on htransfer ?_ ?_, rfl⟩
  · rw [hcancelled]
  · rw [hcancelled]
    exact TransferStatus.noConfusion

/-- **The requests beside the executions draft nothing.** -/
theorem StockRequest.draftsNothing {r : StockRequest} (hr : r.BesidePlans)
    (h : r.run db = .ok db') : DraftsNothing db db' := by
  cases r with
  | finalizeSale | createSaleReturn | voidSale =>
    have hframe := StockRequest.frame h
    exact .of_eq (by rw [hframe.purchasing id]) (hframe.transfers id)
  | submitPurchaseOrder req | cancelPurchaseOrder req => exact setOrderStatus_draftsNothing h
  | receiveGoods req =>
    obtain ⟨⟨d, i⟩, hrun, rfl⟩ := map_eq_ok.mp h
    exact receiveGoods_draftsNothing hrun
  | createPurchaseReturn req =>
    obtain ⟨⟨d, i⟩, hrun, rfl⟩ := map_eq_ok.mp h
    exact createPurchaseReturn_draftsNothing hrun
  | shipTransfer req => exact shipTransfer_draftsNothing h
  | receiveTransfer req => exact receiveTransfer_draftsNothing h
  | cancelTransfer req => exact cancelTransfer_draftsNothing h
  | _ => exact hr.elim

end Requests

/-! ### What it means for plans -/

section Kept

variable {db db' : Db}

theorem DraftsNothing.commit (h : DraftsNothing db db') : DraftsNothing db db'.commit := by
  refine ⟨h.orders, h.transfers, ?_⟩
  rw [← h.lines]
  exact List.map_map

theorem DraftsNothing.transferDraft (h : DraftsNothing db db') {transferId : ℕ}
    (hdraft : transferDraft db' transferId) : transferDraft db transferId := by
  obtain ⟨b, hb, hstatus⟩ := hdraft
  obtain ⟨a, ha, -, hkept⟩ := h.transfers.row hb
  exact ⟨a, ha, hkept hstatus⟩

theorem committed_eq_drafted (db : Db) (sourceProductId : ℕ) :
    committedOutboundTransferQuantity db sourceProductId
      = sumWhere (fun c => c.2.1 = sourceProductId ∧ GroceryErp.transferDraft db c.1) (·.2.2)
        (db.transfers.lines.map (·.val.drafted)) := by
  rw [sumWhere_map]
  rfl

/-- **No more of a product is committed.** -/
theorem DraftsNothing.committed_le (h : DraftsNothing db db') (sourceProductId : ℕ) :
    committedOutboundTransferQuantity db' sourceProductId
      ≤ committedOutboundTransferQuantity db sourceProductId := by
  rw [committed_eq_drafted, committed_eq_drafted, h.lines]
  apply sumWhere_le_of_imp
  · rintro c - ⟨hsource, hdraft⟩
    exact ⟨hsource, h.transferDraft hdraft⟩
  · intro c hc
    obtain ⟨l, -, rfl⟩ := List.mem_map.mp hc
    exact l.2.requested_pos.le

/-- **No plan has generated another document.** -/
theorem DraftsNothing.planDocuments_eq (h : DraftsNothing db db') (planId : ℕ) :
    planDocuments db' planId = planDocuments db planId := by
  have htransfers : db'.transfers.transfers.map (·.val.replenishmentPlanId)
      = db.transfers.transfers.map (·.val.replenishmentPlanId) :=
    h.transfers.map_eq fun i a b hab => hab.1
  unfold planDocuments
  rw [h.orders, htransfers]

end Kept

/-! ### What a plan drafts -/

section Drafted

variable {db db' : Db} {transfer : Row InterStoreTransfer} {line : Row InterStoreTransferLine}

/-- A transfer that was there is a draft when it was. -/
theorem transferDraft_append (htransfers :
    db'.transfers.transfers = db.transfers.transfers ++ [transfer]) {transferId : ℕ}
    (hlt : transferId < db.transfers.transfers.length) :
    transferDraft db' transferId ↔ transferDraft db transferId := by
  unfold transferDraft
  rw [htransfers, List.getElem?_append_left hlt]

/-- **A draft commits what its line requests of its source, and nothing else.** -/
theorem committed_append (htransfers :
    db'.transfers.transfers = db.transfers.transfers ++ [transfer])
    (hlines : db'.transfers.lines = db.transfers.lines ++ [line])
    (hplaced : ∀ l ∈ db.transfers.lines, l.val.transferId < db.transfers.transfers.length)
    (hdraft : transfer.val.status = .draft)
    (hline : line.val.transferId = db.transfers.transfers.length) (sourceProductId : ℕ) :
    committedOutboundTransferQuantity db' sourceProductId
      = committedOutboundTransferQuantity db sourceProductId
        + if line.val.sourceProductId = sourceProductId then line.val.requestedQuantity else 0 := by
  have hnew : transferDraft db' line.val.transferId := by
    refine ⟨transfer, ?_, hdraft⟩
    rw [htransfers, hline, List.getElem?_concat_length]
    rfl
  unfold committedOutboundTransferQuantity
  rw [hlines, sumWhere_append, sumWhere_singleton]
  congr 1
  · apply sumWhere_congr
    · intro l hl
      rw [transferDraft_append htransfers (hplaced l hl)]
    · intro l _ _
      rfl
  · simp only [hnew, and_true]

theorem planDocuments_of_order {order : PurchaseOrder} {planId : ℕ}
    (horders : db'.purchasing.orders = db.purchasing.orders ++ [order])
    (htransfers : db'.transfers = db.transfers) (hplan : order.replenishmentPlanId = some planId)
    (i : ℕ) : planDocuments db' i = planDocuments db i + if planId = i then 1 else 0 := by
  unfold planDocuments
  rw [horders, htransfers, List.map_append, List.count_append, List.map_singleton,
    List.count_singleton, hplan]
  by_cases hi : planId = i
  · simp only [hi, BEq.rfl, if_true]
    omega
  · simp [hi]

theorem planDocuments_of_transfer {planId : ℕ}
    (htransfers : db'.transfers.transfers = db.transfers.transfers ++ [transfer])
    (hpurchasing : db'.purchasing = db.purchasing)
    (hplan : transfer.val.replenishmentPlanId = some planId) (i : ℕ) :
    planDocuments db' i = planDocuments db i + if planId = i then 1 else 0 := by
  unfold planDocuments
  rw [hpurchasing, htransfers, List.map_append, List.count_append, List.map_singleton,
    List.count_singleton, hplan]
  by_cases hi : planId = i
  · simp only [hi, BEq.rfl, if_true]
    omega
  · simp [hi]

end Drafted

end GroceryErp
