import GroceryErp.System.Frames

/-!
# What requests do to orders

An order keeps what it was made with: its store and supplier, the key of the client and the
plan, and of its items the products and what was ordered of them.  Items are added with their
order, and to no order that is there.

## Main definitions

* `PurchaseOrder.made`, `PurchaseOrderItem.made` — what is kept.
* `OrdersGrown` — orders are added with their items.

## Main results

* `TransferRequest.frame` — the tables that a request on transfers may write.
* `ErpRequest.ordersGrown` — every request adds orders at the most.
* `ErpRequest.replenishment_kept` — and leaves the plans alone.
-/

namespace GroceryErp

open Decimal Outcome Rows

/-- The columns of an order that no request writes again. -/
def PurchaseOrder.made (o : PurchaseOrder) : ℕ × ℕ × String × Option ℕ :=
  (o.storeId, o.supplierId, o.clientTransactionId, o.replenishmentPlanId)

/-- The columns of an order item that no request writes again. -/
def PurchaseOrderItem.made (i : PurchaseOrderItem) : ℕ × ℕ × ℚ :=
  (i.purchaseOrderId, i.productId, i.quantityOrdered)

/-- Orders are added, and items of those alone; what the earlier ones were made for is as it was. -/
structure OrdersGrown (p p' : PurchasingTables) : Prop where
  orders : p.orders.map (·.made) <+: p'.orders.map (·.made)
  items : ∃ rows, p'.orderItems.map (·.val.made) = p.orderItems.map (·.val.made) ++ rows ∧
    ∀ r ∈ rows, p.orders.length ≤ r.1 ∧ r.1 < p'.orders.length

namespace OrdersGrown

variable {p p' p'' : PurchasingTables}

theorem length_le (h : OrdersGrown p p') : p.orders.length ≤ p'.orders.length := by
  have hle := h.orders.length_le
  rwa [List.length_map, List.length_map] at hle

/-- What was made of the orders and the items is what it was. -/
theorem of_made (horders : p'.orders.map (·.made) = p.orders.map (·.made))
    (hitems : p'.orderItems.map (·.val.made) = p.orderItems.map (·.val.made)) :
    OrdersGrown p p' := by
  refine ⟨?_, [], ?_, List.forall_mem_nil _⟩
  · rw [horders]
  · rw [hitems, List.append_nil]

theorem refl (p : PurchasingTables) : OrdersGrown p p := of_made rfl rfl

theorem trans (h : OrdersGrown p p') (h' : OrdersGrown p' p'') : OrdersGrown p p'' := by
  refine ⟨h.orders.trans h'.orders, ?_⟩
  obtain ⟨rows, hrows, hnew⟩ := h.items
  obtain ⟨more, hmore, hnew'⟩ := h'.items
  refine ⟨rows ++ more, ?_, ?_⟩
  · rw [hmore, hrows, List.append_assoc]
  · intro r hr
    rcases List.mem_append.mp hr with hr | hr
    · exact ⟨(hnew r hr).1, (hnew r hr).2.trans_le h'.length_le⟩
    · exact ⟨h.length_le.trans (hnew' r hr).1, (hnew' r hr).2⟩

end OrdersGrown

section Requests

variable {db d db' : Db}

/-- A commit keeps what the items were made with. -/
theorem ordersGrown_commit (db : Db) : OrdersGrown db.purchasing db.commit.purchasing := by
  refine .of_made rfl ?_
  change (db.purchasing.orderItems.map _).map _ = _
  rw [List.map_map]
  rfl

theorem OrdersGrown.committed (h : OrdersGrown db.purchasing d.purchasing) :
    OrdersGrown db.purchasing d.commit.purchasing :=
  h.trans (ordersGrown_commit d)

theorem ordersGrown_of_eq (h : db'.purchasing = db.purchasing) :
    OrdersGrown db.purchasing db'.purchasing := by
  rw [h]
  exact .refl _

/-! ### Orders -/

theorem createPurchaseOrderInner_grown {req : CreatePurchaseOrder} {planId : Option ℕ}
    {purchaseOrderId : ℕ} (h : createPurchaseOrderInner db req planId = .ok (db', purchaseOrderId)) :
    OrdersGrown db.purchasing db'.purchasing := by
  rcases createPurchaseOrderInner_ok h with rfl | ⟨order, items, -, -, hitems, -, rfl⟩
  · exact .refl _
  · refine ⟨?_, items.map (·.val.made), ?_, ?_⟩
    · exact (List.prefix_append db.purchasing.orders [order]).map _
    · exact List.map_append
    · intro r hr
      obtain ⟨item, hitem, rfl⟩ := List.mem_map.mp hr
      obtain ⟨line, -, hline⟩ := exists_of_map_eq hitems hitem
      have hid : item.val.made.1 = db.purchasing.orders.length := by
        rw [← hline]
        rfl
      rw [hid, List.length_append, List.length_singleton]
      exact ⟨le_refl _, Nat.lt_succ_self _⟩

theorem setOrderStatus_grown {req : MovePurchaseOrder} {allowed : List PurchaseOrderStatus}
    {status : PurchaseOrderStatus} (h : setOrderStatus db req allowed status = .ok db') :
    OrdersGrown db.purchasing db'.purchasing := by
  obtain ⟨order, horder, -, rfl⟩ := setOrderStatus_ok h
  exact .of_made (map_set_of_eq horder rfl) rfl

theorem receiveGoods_grown {req : ReceiveGoods} {goodsReceiptId : ℕ}
    (h : receiveGoods db req = .ok (db', goodsReceiptId)) :
    OrdersGrown db.purchasing db'.purchasing := by
  rcases receiveGoods_ok h with rfl | ⟨order, lines, d, hplan, hw, hj⟩
  · exact .refl _
  obtain ⟨horder, -, -⟩ := planReceipt_ok hplan
  obtain ⟨-, receipt, rows, items, status, -, -, hlength, hitems, -, hd⟩ := writeReceipt_ok hw
  have hframe : db'.purchasing = d.purchasing := by rw [postJournalUnlessEmpty_frame hj]
  rw [hframe, hd]
  have hover : Overwritten (fun i old item => item.val = { old.val with
      quantityReceived := old.val.quantityReceived + receivedQty lines i })
      db.purchasing.orderItems items := ⟨hlength, hitems⟩
  refine .of_made (map_set_of_eq horder rfl) (hover.map_eq ?_)
  intro i a b hb
  rw [hb]
  rfl

theorem createPurchaseReturn_grown {req : CreatePurchaseReturn} {purchaseReturnId : ℕ}
    (h : createPurchaseReturn db req = .ok (db', purchaseReturnId)) :
    OrdersGrown db.purchasing db'.purchasing := by
  rcases createPurchaseReturn_ok h with rfl | ⟨lines, d, -, hw, hj⟩
  · exact .refl _
  obtain ⟨-, rows, -, hd⟩ := writePurchaseReturn_ok hw
  have hframe : db'.purchasing = d.purchasing := by rw [postJournalUnlessEmpty_frame hj]
  rw [hframe, hd]
  exact .of_made rfl rfl

theorem StockRequest.ordersGrown {r : StockRequest} (h : r.run db = .ok db') :
    OrdersGrown db.purchasing db'.purchasing := by
  cases r with
  | createPurchaseOrder req =>
    obtain ⟨⟨d, i⟩, hrun, rfl⟩ := map_eq_ok.mp h
    exact createPurchaseOrderInner_grown hrun
  | submitPurchaseOrder req | cancelPurchaseOrder req => exact setOrderStatus_grown h
  | receiveGoods req =>
    obtain ⟨⟨d, i⟩, hrun, rfl⟩ := map_eq_ok.mp h
    exact receiveGoods_grown hrun
  | createPurchaseReturn req =>
    obtain ⟨⟨d, i⟩, hrun, rfl⟩ := map_eq_ok.mp h
    exact createPurchaseReturn_grown hrun
  | _ => exact ordersGrown_of_eq ((StockRequest.frame h).purchasing id)

/-! ### Invoices -/

theorem InvoicedWritten.map_made {change : ℕ → ℚ} {loaded : List (ℕ × Row PurchaseOrderItem)}
    {ts ts' : List (Row PurchaseOrderItem)} (h : InvoicedWritten change loaded ts ts') :
    ts'.map (·.val.made) = ts.map (·.val.made) := by
  refine Overwritten.map_eq h ?_
  rintro i a b (⟨x, -, -, hb⟩ | ⟨-, rfl⟩)
  · rw [hb]
    rfl
  · rfl

theorem postPurchaseInvoice_grown {req : PostPurchaseInvoice}
    (h : postPurchaseInvoice db req = .ok db') : OrdersGrown db.purchasing db'.purchasing := by
  rcases postPurchaseInvoice_steps h with rfl | ⟨lines, plan, -, -, hfinish⟩
  · exact .refl _
  obtain ⟨rows, items, row, posted, -, hitems, -, -, hpost⟩ := finishPosting_ok hfinish
  rw [postJournalUnlessEmpty_frame hpost]
  exact .of_made rfl hitems.map_made

theorem voidPurchaseInvoice_grown {req : VoidPurchaseInvoice}
    (h : voidPurchaseInvoice db req = .ok db') : OrdersGrown db.purchasing db'.purchasing := by
  rcases voidPurchaseInvoice_steps h with rfl | ⟨invoice, -, hcases⟩
  · exact .refl _
  rcases hcases with ⟨-, plan, -, hfinish⟩ | ⟨-, hwrite⟩
  · obtain ⟨items, d, row, voided, hitems, hpost, -, -, rfl⟩ := finishVoid_ok hfinish
    have hframe : d.purchasing = { db.purchasing with orderItems := items } := by
      rw [postJournalUnlessEmpty_frame hpost]
    show OrdersGrown db.purchasing d.purchasing
    rw [hframe]
    exact .of_made rfl hitems.map_made
  · obtain ⟨row, voided, -, -, rfl⟩ := writeVoided_eq_ok.mp hwrite
    exact .refl _

theorem settlement_grown {r : SettlementRequest} (h : r.run db = .ok db') :
    OrdersGrown db.purchasing db'.purchasing := by
  cases r with
  | recordSupplierPayment req =>
    obtain ⟨⟨d, i⟩, hrun, rfl⟩ := map_eq_ok.mp h
    rcases recordSupplierPayment_ok hrun with rfl | ⟨-, -, -, payment, rows, d, -, -, hd, hpost⟩
    · exact .refl _
    · rw [postJournalUnlessEmpty_frame hpost, settleAll_frame hd]
      exact .refl _
  | createSupplierCreditNote req =>
    obtain ⟨⟨d, i⟩, hrun, rfl⟩ := map_eq_ok.mp h
    rcases createSupplierCreditNote_ok hrun with ⟨rfl, -⟩ | ⟨-, -, -, note, lines, rows, d, -, -, -,
      hd, hpost⟩
    · exact .refl _
    · rw [postJournalUnlessEmpty_frame hpost, settleAll_frame hd]
      exact .refl _
  | reverseSupplierPayment req =>
    rcases reverseSupplierPayment_ok h with rfl | ⟨payment, d, e, -, -, hd, hpost, rfl⟩
    · exact .refl _
    · rw [postJournal_frame hpost, settleAll_frame hd]
      exact .refl _
  | reverseSupplierCreditNote req =>
    rcases reverseSupplierCreditNote_ok h with rfl | ⟨note, row, d, e, -, -, hd, -, hpost, rfl⟩
    · exact .refl _
    · rw [postJournal_frame hpost, settleAll_frame hd]
      exact .refl _
  | voidPurchaseInvoice req => exact voidPurchaseInvoice_grown h

theorem createPurchaseInvoice_grown {req : CreatePurchaseInvoice} {invoiceId : ℕ}
    (h : createPurchaseInvoice db req = .ok (db', invoiceId)) :
    OrdersGrown db.purchasing db'.purchasing := by
  unfold createPurchaseInvoice at h
  rw [bind_eq_ok] at h
  obtain ⟨found, -, h⟩ := h
  cases found with
  | some found =>
    rw [pure_eq_ok, Prod.mk.injEq] at h
    rw [← h.1]
    exact .refl _
  | none =>
    rw [bind_eq_ok] at h
    obtain ⟨plan, -, hinsert⟩ := h
    rcases insertInvoice_ok hinsert with rfl | ⟨invoice, lines, -, -, rfl⟩
    · exact .refl _
    · exact .refl _

/-! ### Every request -/

/-- A request on transfers writes stock, transfers, losses and entries. -/
theorem TransferRequest.frame {r : TransferRequest} (h : r.run db = .ok db') : db' = { db with
    stock := db'.stock
    transfers := db'.transfers
    losses := db'.losses
    ledger.entries := db'.ledger.entries } := by
  cases r with
  | createTransfer req =>
    obtain ⟨⟨d, i⟩, hrun, rfl⟩ := map_eq_ok.mp h
    rw [createTransfer_frame hrun]
  | shipTransfer req => rw [shipTransfer_frame h]
  | receiveTransfer req => rw [receiveTransfer_frame h]
  | cancelTransfer req => rw [cancelTransfer_frame h]
  | investigateDiscrepancy req =>
    obtain ⟨old, discrepancy, -, -, -, rfl⟩ := investigateDiscrepancy_ok h
    rfl
  | resolveDiscrepancy req =>
    obtain ⟨old, discrepancy, -, -, -, rfl⟩ := resolveDiscrepancy_ok h
    rfl
  | createWriteOff req =>
    obtain ⟨⟨d, i⟩, hrun, rfl⟩ := map_eq_ok.mp h
    rcases createWriteOff_ok hrun with rfl | ⟨discrepancy, w, -, -, -, -, -, -, -, rfl⟩
    · rfl
    · rfl
  -- the amount goes to the ledger and the line; the other tables are as they were
  | approveWriteOff req =>
    rcases approveWriteOff_ok h with rfl | ⟨w, w', discrepancy, line, line', approval, approvedBy, d,
      -, -, -, -, -, -, -, -, rfl⟩
    · rfl
    · rfl
  | denyWriteOff req =>
    rcases denyWriteOff_ok h with ⟨rfl, -⟩ | ⟨w, w', approval, approvedBy, old, discrepancy, -, -, -,
      -, -, -, rfl⟩
    · rfl
    · rfl
  | reverseWriteOff req =>
    rcases reverseWriteOff_ok h with rfl | ⟨w, w', line, line', d, -, -, -, -, -, -, rfl⟩
    · rfl
    · rfl

/-- **Every request adds orders at the most, with their items.** -/
theorem ErpRequest.ordersGrown {r : ErpRequest} (h : r.exec db = .ok db') :
    OrdersGrown db.purchasing db'.purchasing := by
  cases r with
  | stock r =>
    obtain ⟨d, hrun, rfl⟩ := map_eq_ok.mp h
    exact (StockRequest.ordersGrown hrun).committed
  | transfer r =>
    obtain ⟨d, hrun, rfl⟩ := map_eq_ok.mp h
    apply OrdersGrown.committed
    rw [TransferRequest.frame hrun]
    exact .refl _
  | createPurchaseInvoice req =>
    obtain ⟨⟨d, i⟩, hrun, rfl⟩ := map_eq_ok.mp h
    exact (createPurchaseInvoice_grown hrun).committed
  | postPurchaseInvoice req =>
    obtain ⟨d, hrun, rfl⟩ := map_eq_ok.mp h
    exact (postPurchaseInvoice_grown hrun).committed
  | settlement r =>
    obtain ⟨d, hrun, rfl⟩ := map_eq_ok.mp h
    exact (settlement_grown hrun).committed
  | workforce r => exact ordersGrown_of_eq (by rw [exec_frame h])
  | closeAccountingPeriod req =>
    obtain ⟨books, -, rfl⟩ := map_eq_ok.mp h
    exact .refl _

/-- **No request writes the plans, or the terms of suppliers.** -/
theorem ErpRequest.replenishment_kept {r : ErpRequest} (h : r.exec db = .ok db') :
    db'.replenishment = db.replenishment := by
  cases r with
  | stock r =>
    obtain ⟨d, hrun, rfl⟩ := map_eq_ok.mp h
    change d.replenishment = _
    rw [(StockRequest.frame hrun).others]
  | transfer r =>
    obtain ⟨d, hrun, rfl⟩ := map_eq_ok.mp h
    change d.replenishment = _
    rw [TransferRequest.frame hrun]
  | createPurchaseInvoice req =>
    obtain ⟨⟨d, i⟩, hrun, rfl⟩ := map_eq_ok.mp h
    exact (createPurchaseInvoice_frame hrun).replenishment
  | postPurchaseInvoice req =>
    obtain ⟨d, hrun, rfl⟩ := map_eq_ok.mp h
    exact (postPurchaseInvoice_frame hrun).replenishment
  | settlement r =>
    obtain ⟨d, hrun, rfl⟩ := map_eq_ok.mp h
    exact (settlement_frame hrun).replenishment
  | workforce r => rw [exec_frame h]
  | closeAccountingPeriod req =>
    obtain ⟨books, -, rfl⟩ := map_eq_ok.mp h
    rfl

end Requests

end GroceryErp
