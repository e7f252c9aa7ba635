import GroceryErp.Lib.Confinement
import GroceryErp.System.PlacedRuns

/-!
# What a caller writes

An account can be bound to a store.  Every service asks for the store of the document it is about to
write, and refuses callers that are bound to another one.  So the movements, the entries and the
closed periods that a request adds are of stores that its caller may act in.  Decisions on
write-offs ask for the role of who decides, and for no store.

## Main definitions

* `MayAct` — the caller may act in the store.
* `Confined` — what is added is of such stores.
* `ErpRequest.callerStoreId` — the store that the caller of a request is bound to, if it is bound
  and the request asks.

## Main results

* `StockRequest.confined`, `TransferRequest.confined`, `SettlementRequest.confined`,
  `WorkforceRequest.confined` — the requests of the modules are confined.
* `exec_confined` — so is every request.

## References

`backend/app/modules/auth/service.py`, and the `service.py` of every module that writes for a store.
-/

namespace GroceryErp

open Confinement Decimal Outcome Rows

/-- The caller may act in the store: it is the one they are bound to, or they are bound to none. -/
def MayAct (callerStoreId : Option ℕ) (storeId : ℕ) : Prop :=
  enforceStoreAccess callerStoreId storeId = .ok ()

/-- A caller that is bound to a store may act in no other. -/
theorem MayAct.eq_of_bound {storeId s : ℕ} (h : MayAct (some storeId) s) : storeId = s := by
  unfold MayAct enforceStoreAccess at h
  rw [raiseIf_eq_ok] at h
  simpa using h

/-- A caller that is bound to none may act in all. -/
theorem mayAct_unbound {storeId : ℕ} : MayAct none storeId := by
  unfold MayAct enforceStoreAccess
  rw [raiseIf_eq_ok]
  simp

section Bookings

variable {bs : List Booking} {s t : StockTables} {P : ℕ → Prop} {α : Type}
  {l : List α} {bss : List (List Booking)} {spec : α → List Booking → Prop}

/-- The movements of a run of bookings are of the stores that it books for. -/
theorem BookedAll.appended (h : BookedAll bs s t) (hstores : ∀ b ∈ bs, P b.input.storeId) :
    Appended (fun m : Row InventoryMovement => P m.val.storeId) s.movements t.movements := by
  induction h with
  | nil _ movements => exact .of_eq movements
  | @cons b bs s t u first rest ih =>
    obtain ⟨-, p, p', row, -, -, -, hrow, -, hmovements⟩ := first
    have hfirst : Appended (fun m : Row InventoryMovement => P m.val.storeId)
        s.movements t.movements := by
      rw [hmovements]
      refine .single ?_
      rw [hrow]
      exact hstores b List.mem_cons_self
    exact hfirst.trans (ih fun c hc => hstores c (List.mem_cons_of_mem _ hc))

theorem BookedAll.map_movements (h : BookedAll bs s t) :
    t.movements.map (·.val.storeId) = s.movements.map (·.val.storeId)
      ++ bs.map (·.input.storeId) := by
  induction h with
  | nil _ movements => simp [movements]
  | cons first rest ih =>
    obtain ⟨-, p, p', row, -, -, -, hrow, -, hmovements⟩ := first
    have hstore : row.val.storeId = _ := congrArg InventoryMovement.storeId hrow
    rw [ih, hmovements, List.map_append, List.map_singleton, hstore, List.append_assoc]
    rfl

/-- A run books for the stores of the movements that it adds. -/
theorem BookedAll.forall_store (h : BookedAll bs s t)
    (happended : Appended (fun m : Row InventoryMovement => P m.val.storeId)
      s.movements t.movements) : ∀ b ∈ bs, P b.input.storeId := by
  obtain ⟨new, hnew, hstores⟩ := happended
  have hsame : new.map (·.val.storeId) = bs.map (·.input.storeId) := by
    have hmap := h.map_movements
    rw [hnew, List.map_append] at hmap
    exact List.append_cancel_left hmap
  intro b hb
  have hmem : b.input.storeId ∈ new.map (·.val.storeId) := hsame ▸ List.mem_map_of_mem hb
  obtain ⟨m, hm, hstore⟩ := List.mem_map.mp hmem
  exact hstore ▸ hstores m hm

/-- What holds of the bookings of every round holds of all. -/
theorem forall_of_rounds {Q : Booking → Prop} (h : List.Forall₂ spec l bss)
    (hround : ∀ a ∈ l, ∀ bs, spec a bs → ∀ b ∈ bs, Q b) : ∀ b ∈ bss.flatten, Q b := by
  intro b hb
  obtain ⟨a, ha, bs, hspec, hmem⟩ := exists_round h hb
  exact hround a ha bs hspec b hmem

theorem BooksOne.forall_store {productId : ℕ} {input : Product → MovementInput}
    (h : BooksOne productId input bs) (hstore : ∀ p, P (input p).storeId) :
    ∀ b ∈ bs, P b.input.storeId := by
  obtain ⟨b, rfl, -, hinput⟩ := h
  intro c hc
  obtain rfl := List.mem_singleton.mp hc
  exact hinput ▸ hstore _

end Bookings

/-! ### Confined requests -/

/-- Movements, entries and closed periods are added for stores that the caller may act in. -/
structure Confined (callerStoreId : Option ℕ) (db db' : Db) : Prop where
  movements : Appended (fun m => MayAct callerStoreId m.val.storeId)
    db.stock.movements db'.stock.movements
  entries : Appended (fun e => MayAct callerStoreId e.val.storeId)
    db.ledger.entries db'.ledger.entries
  periods : Appended (fun p => MayAct callerStoreId p.storeId) db.ledger.periods db'.ledger.periods

section Requests

variable {db d db' : Db} {c : Option ℕ} {storeId sourceId : ℕ} {postingDate : Date}
  {sourceType : SourceType} {lines : List JournalLine}

namespace Confined

/-- Neither movements nor the ledger are written. -/
theorem of_eq (movements : db'.stock.movements = db.stock.movements)
    (ledger : db'.ledger = db.ledger) : Confined c db db' where
  movements := .of_eq movements
  entries := .of_eq (by rw [ledger])
  periods := .of_eq (by rw [ledger])

theorem refl (db : Db) : Confined c db db := of_eq rfl rfl

theorem trans (h : Confined c db d) (h' : Confined c d db') : Confined c db db' where
  movements := h.movements.trans h'.movements
  entries := h.entries.trans h'.entries
  periods := h.periods.trans h'.periods

/-- Something else has been written before. -/
theorem after (h : Confined c d db') (movements : d.stock.movements = db.stock.movements)
    (ledger : d.ledger = db.ledger) : Confined c db db' := (of_eq movements ledger).trans h

/-- Stock is booked for such a store. -/
theorem booked {bs : List Booking} (hrun : BookedAll bs db.stock db'.stock)
    (hstores : ∀ b ∈ bs, MayAct c b.input.storeId) (ledger : db'.ledger = db.ledger) :
    Confined c db db' where
  movements := hrun.appended hstores
  entries := .of_eq (by rw [ledger])
  periods := .of_eq (by rw [ledger])

/-- An entry is posted for such a store. -/
theorem posted (hstore : MayAct c storeId)
    (h : postJournal d storeId postingDate sourceType sourceId lines = .ok db') :
    Confined c d db' := by
  obtain ⟨-, -, -, entry, hentry, rfl⟩ := postJournal_eq_ok.mp h
  refine ⟨.refl _, .single ?_, .refl _⟩
  rw [hentry]
  exact hstore

theorem postedUnlessEmpty (hstore : MayAct c storeId)
    (h : postJournalUnlessEmpty d storeId postingDate sourceType sourceId lines = .ok db') :
    Confined c d db' := by
  unfold postJournalUnlessEmpty at h
  split at h
  · rw [pure_eq_ok] at h
    exact h ▸ refl d
  · exact posted hstore h

end Confined

/-! #### Purchasing -/

theorem receiveGoods_confined {req : ReceiveGoods} {goodsReceiptId : ℕ}
    (h : receiveGoods db req = .ok (db', goodsReceiptId)) : Confined req.callerStoreId db db' := by
  have haccess : ∀ order, db.purchasing.orders[req.purchaseOrderId]? = some order →
      MayAct req.callerStoreId order.storeId := by
    intro order horder
    unfold receiveGoods at h
    have hcheck := (check_bind_eq_ok.mp h).1
    rw [horder] at hcheck
    simpa [MayAct] using hcheck
  rcases receiveGoods_ok h with rfl | ⟨order, planned, d, hplan, hw, hj⟩
  · exact .refl db'
  have hstore := haccess order (planReceipt_ok hplan).1
  obtain ⟨bss, hbss, hrun⟩ := bookedAll_of_writeReceipt hw
  obtain ⟨-, receipt, rows, items, status, -, -, -, -, -, hd⟩ := writeReceipt_ok hw
  have hbooked : Confined req.callerStoreId db d := by
    refine .booked hrun (forall_of_rounds hbss fun l _ bs hb => ?_) (by rw [hd])
    exact hb.forall_store fun _ => hstore
  exact hbooked.trans (.postedUnlessEmpty hstore hj)

theorem createPurchaseReturn_confined {req : CreatePurchaseReturn} {purchaseReturnId : ℕ}
    (h : createPurchaseReturn db req = .ok (db', purchaseReturnId)) :
    Confined req.callerStoreId db db' := by
  have hstore : MayAct req.callerStoreId req.storeId := by
    unfold createPurchaseReturn at h
    exact (check_bind_eq_ok.mp h).1
  rcases createPurchaseReturn_ok h with rfl | ⟨planned, d, -, hw, hj⟩
  · exact .refl db'
  obtain ⟨bss, hbss, hrun⟩ := bookedAll_of_writePurchaseReturn hw
  obtain ⟨-, rows, -, hd⟩ := writePurchaseReturn_ok hw
  have hbooked : Confined req.callerStoreId db d := by
    refine .booked hrun (forall_of_rounds hbss fun l _ bs hb => ?_) (by rw [hd])
    exact hb.forall_store fun _ => hstore
  exact hbooked.trans (.postedUnlessEmpty hstore hj)

/-! #### Sales -/

theorem finalizeSale_confined {req : FinalizeSale} {saleId : ℕ}
    (h : finalizeSale db req = .ok (db', saleId)) : Confined req.callerStoreId db db' := by
  have hstore : MayAct req.callerStoreId req.storeId := by
    unfold finalizeSale at h
    exact (check_bind_eq_ok.mp h).1
  rcases finalizeSale_ok h with ⟨-, -, rfl⟩ | ⟨-, cart, changeDue, d, -, hw, hj⟩
  · exact .refl db'
  obtain ⟨bss, hbss, hrun⟩ := bookedAll_of_writeSale hw
  obtain ⟨-, shiftId, sale, items, payments, -, -, -, hd⟩ := writeSale_ok hw
  have hbooked : Confined req.callerStoreId db d := by
    refine .booked hrun (forall_of_rounds hbss fun l _ bs hb => ?_) (by rw [hd])
    exact hb.forall_store fun _ => hstore
  exact hbooked.trans (.posted hstore hj)

/-- The caller may act in the store of the sale, and the return is made there. -/
theorem mayAct_of_planReturn {req : CreateSaleReturn} {sale : Row Sale} {planned : List ReturnLine}
    (h : planReturn db req = .ok (sale, planned)) : MayAct req.callerStoreId req.storeId := by
  obtain ⟨hsale, hstore, -⟩ := planReturn_ok h
  unfold planReturn at h
  simp only [↓check_bind_eq_ok] at h
  obtain ⟨-, -, haccess, -⟩ := h
  rw [hsale] at haccess
  rw [← hstore]
  simpa [MayAct] using haccess

theorem createSaleReturn_confined {req : CreateSaleReturn} {saleReturnId : ℕ}
    (h : createSaleReturn db req = .ok (db', saleReturnId)) :
    Confined req.callerStoreId db db' := by
  rcases createSaleReturn_ok h with ⟨-, rfl⟩ | ⟨-, sale, planned, _, _, d, hplan, -, -, hw, hj⟩
  · exact .refl db'
  have hstore := mayAct_of_planReturn hplan
  obtain ⟨-, _, saleReturn, saleAfter, e, -, -, he, hd⟩ := writeReturn_ok hw
  obtain ⟨t, hframe⟩ := addReturnLines_frame he
  obtain ⟨bss, hbss, hrun⟩ := bookedAll_of_foldlM
    (fun l => ReturnLine.Books l req.storeId saleReturnId) he
    fun l _ _ _ hl => bookedAll_of_addReturnLine hl
  have hbooked : Confined req.callerStoreId db e := by
    refine .booked hrun (forall_of_rounds hbss fun l _ bs hb => ?_) (by rw [hframe])
    rcases hb with ⟨-, hone⟩ | ⟨-, rfl⟩
    · exact hone.forall_store fun _ => hstore
    · simp
  have hwritten : Confined req.callerStoreId e d := .of_eq (by rw [hd]) (by rw [hd])
  exact (hbooked.trans hwritten).trans (.postedUnlessEmpty hstore hj)

/-! #### Adjustments and counts -/

theorem createStockAdjustment_confined {a : StockAdjustmentInput} {adjustmentId : ℕ}
    (hstore : MayAct c a.storeId) (h : createStockAdjustment db a = .ok (db', adjustmentId)) :
    Confined c db db' := by
  rcases createStockAdjustment_ok h with rfl | hwrite
  · exact .refl db'
  obtain ⟨adjustment, p, d, -, hm, hj⟩ := writeAdjustment_ok hwrite
  obtain ⟨bs, hbs, hrun⟩ := exists_booksOne_const hm
  have hbooked := Confined.booked (c := c) hrun (hbs.forall_store fun _ => hstore)
    (by rw [recordMovement_frame hm])
  have hmoved : Confined c db d := hbooked.after rfl rfl
  refine hmoved.trans ?_
  unfold postStockAdjustmentJournal at hj
  dsimp only at hj
  split at hj
  · exact .postedUnlessEmpty hstore hj
  · exact .postedUnlessEmpty hstore hj

theorem createAdjustment_confined {req : CreateAdjustment} {adjustmentId : ℕ}
    (h : createAdjustment db req = .ok (db', adjustmentId)) : Confined req.callerStoreId db db' := by
  unfold createAdjustment at h
  simp only [↓check_bind_eq_ok, bind_eq_ok, orRaise_eq_ok] at h
  obtain ⟨p, -, hstore, hadjust⟩ := h
  have hstore : MayAct req.callerStoreId (req.input p.val.storeId).storeId := hstore
  exact createStockAdjustment_confined hstore hadjust

theorem moveStockCount_confined {req : MoveStockCount} {again : Option StockCountStatus}
    {allowed : List StockCountStatus} {status : StockCountStatus}
    (h : moveStockCount db req again allowed status = .ok db') : Confined c db db' := by
  rcases moveStockCount_ok h with rfl | ⟨count, -, -, rfl⟩
  · exact .refl db'
  · exact .of_eq rfl rfl

theorem openStockCount_confined {req : MoveStockCount} (h : openStockCount db req = .ok db') :
    Confined c db db' := by
  rcases openStockCount_ok h with rfl | ⟨count, d, -, hd, rfl⟩
  · exact .refl db'
  have hframe := (snapshotLines_ok (P := fun _ => True) hd (fun _ _ _ _ => trivial)
    (fun _ _ => trivial) fun _ _ => trivial).1
  refine .of_eq ?_ ?_
  · show d.stock.movements = _
    rw [hframe]
  · show d.ledger = _
    rw [hframe]

/-- One adjustment after the other, all for the store of the count. -/
theorem postStockCount_confined {req : PostStockCount} (h : postStockCount db req = .ok db') :
    Confined req.callerStoreId db db' := by
  have haccess : ∀ count, db.stock.counts[req.stockCountId]? = some count →
      MayAct req.callerStoreId count.storeId := by
    intro count hcount
    unfold postStockCount lockStockCount at h
    simp only [↓check_bind_eq_ok, bind_eq_ok, orRaise_eq_ok] at h
    obtain ⟨_, ⟨found, hfound, hstore, -⟩, -⟩ := h
    obtain rfl := Option.some.inj (hcount.symm.trans hfound)
    exact hstore
  rcases postStockCount_ok h with rfl | ⟨count, counted, d, hcount, -, -, hd, rfl⟩
  · exact .refl db'
  have hlines : Confined req.callerStoreId db d := by
    refine foldlM_induct (fun _ t => Confined req.callerStoreId db t) hd (.refl db) ?_
    rintro done line rest t t' - ht hstep
    rcases postCountLine_ok hstep with rfl | ⟨p, counted, i, -, -, hadjust⟩
    · exact ht
    · exact ht.trans (createStockAdjustment_confined (haccess count hcount) hadjust)
  exact hlines.trans (.of_eq rfl rfl)

/-! #### Transfers -/

theorem shipTransfer_confined {req : ShipTransfer} (h : shipTransfer db req = .ok db') :
    Confined req.callerStoreId db db' := by
  have haccess : db' = db ∨ ∀ transfer, db.transfers.transfers[req.transferId]? = some transfer →
      MayAct req.callerStoreId transfer.val.fromStoreId := by
    unfold shipTransfer at h
    rw [bind_eq_ok] at h
    obtain ⟨found, -, h⟩ := h
    cases found with
    -- a replay answers before the store is checked, and changes nothing
    | some found =>
      rw [pure_eq_ok] at h
      exact .inl h.symm
    | none =>
      simp only [↓check_bind_eq_ok, bind_eq_ok, orRaise_eq_ok] at h
      -- the caller is checked against the store that ships
      obtain ⟨-, -, found, hfound, hstore, -⟩ := h
      refine .inr fun transfer htransfer => ?_
      obtain rfl := Option.some.inj (htransfer.symm.trans hfound)
      exact hstore
  rcases haccess with rfl | haccess
  · exact .refl db'
  rcases shipTransfer_ok h with rfl | ⟨transfer, planned, e, shipped, -, htransfer, -, -, he, -, hj⟩
  · exact .refl db'
  have hstore := haccess transfer htransfer
  obtain ⟨bss, hbss, hrun⟩ := bookedAll_of_shipLines he
  have hframe := (shipLines_ok (P := fun _ => True) he (fun _ _ _ _ => trivial)
    fun _ _ => trivial).1
  have hbooked : Confined req.callerStoreId db e := by
    refine .booked hrun (forall_of_rounds hbss fun l _ bs hb => ?_) (by rw [hframe])
    -- every booking is of a product of that store
    exact hb.forall_store fun _ => hstore
  have hposted := Confined.postedUnlessEmpty hstore hj
  exact hbooked.trans (hposted.after rfl rfl)

theorem receiveTransfer_confined {req : ReceiveTransfer} (h : receiveTransfer db req = .ok db') :
    Confined req.callerStoreId db db' := by
  have haccess : db' = db ∨ ∀ transfer, db.transfers.transfers[req.transferId]? = some transfer →
      MayAct req.callerStoreId transfer.val.toStoreId := by
    unfold receiveTransfer at h
    rw [bind_eq_ok] at h
    obtain ⟨found, -, h⟩ := h
    cases found with
    | some found =>
      rw [pure_eq_ok] at h
      exact .inl h.symm
    | none =>
      simp only [↓check_bind_eq_ok, bind_eq_ok, orRaise_eq_ok] at h
      -- here it is the store that receives
      obtain ⟨-, -, found, hfound, hstore, -⟩ := h
      refine .inr fun transfer htransfer => ?_
      obtain rfl := Option.some.inj (htransfer.symm.trans hfound)
      exact hstore
  rcases haccess with rfl | haccess
  · exact .refl db'
  rcases receiveTransfer_ok h with rfl | ⟨transfer, planned, d, receiptId, htransfer, -, hw, hj⟩
  · exact .refl db'
  have hstore := haccess transfer htransfer
  obtain ⟨hframe, -, bss, hbss, hrun⟩ := writeTransferReceipt_ok hw (P := fun _ => True)
    (fun _ _ _ _ _ => trivial) fun _ _ => trivial
  have hbooked : Confined req.callerStoreId db d := by
    refine .booked hrun (forall_of_rounds hbss fun l _ bs hb => ?_) (by rw [hframe])
    -- what was received damaged books nothing
    rcases hb with ⟨-, hone⟩ | ⟨-, rfl⟩
    · exact hone.forall_store fun _ => hstore
    · simp
  exact hbooked.trans (.postedUnlessEmpty hstore hj)

/-! #### Requests on stock -/

/-- The store that the caller is bound to. -/
def StockRequest.callerStoreId : StockRequest → Option ℕ
  | createPurchaseOrder req => req.callerStoreId
  | submitPurchaseOrder req | cancelPurchaseOrder req => req.callerStoreId
  | receiveGoods req => req.callerStoreId
  | createPurchaseReturn req => req.callerStoreId
  | finalizeSale req => req.callerStoreId
  | createSaleReturn req => req.callerStoreId
  | voidSale req => req.callerStoreId
  | createAdjustment req => req.callerStoreId
  | createStockCount req => req.callerStoreId
  | openStockCount req | markStockCountCounted req | reviewStockCount req
  | reopenStockCountForRecount req | cancelStockCount req => req.callerStoreId
  | recordCountEntry req => req.callerStoreId
  | postStockCount req => req.callerStoreId
  | createTransfer req => req.callerStoreId
  | shipTransfer req => req.callerStoreId
  | receiveTransfer req => req.callerStoreId
  | cancelTransfer req => req.callerStoreId

theorem StockRequest.confined {r : StockRequest} (h : r.run db = .ok db') :
    Confined r.callerStoreId db db' := by
  cases r with
  | createPurchaseOrder req =>
    obtain ⟨⟨d, i⟩, hrun, rfl⟩ := map_eq_ok.mp h
    rcases createPurchaseOrder_ok hrun with rfl | ⟨order, items, -, -, -, rfl⟩
    · exact .refl d
    · exact .of_eq rfl rfl
  -- an order has no store of products or entries to write in
  | submitPurchaseOrder req | cancelPurchaseOrder req =>
    obtain ⟨order, -, -, rfl⟩ := setOrderStatus_ok h
    exact .of_eq rfl rfl
  | receiveGoods req =>
    obtain ⟨⟨d, i⟩, hrun, rfl⟩ := map_eq_ok.mp h
    exact receiveGoods_confined hrun
  | createPurchaseReturn req =>
    obtain ⟨⟨d, i⟩, hrun, rfl⟩ := map_eq_ok.mp h
    exact createPurchaseReturn_confined hrun
  | finalizeSale req =>
    obtain ⟨⟨d, i⟩, hrun, rfl⟩ := map_eq_ok.mp h
    exact finalizeSale_confined hrun
  | createSaleReturn req =>
    obtain ⟨⟨d, i⟩, hrun, rfl⟩ := map_eq_ok.mp h
    exact createSaleReturn_confined hrun
  -- a void is a return of all that is left, under the same check
  | voidSale req =>
    obtain ⟨⟨d, i⟩, hrun, rfl⟩ := map_eq_ok.mp h
    exact createSaleReturn_confined (voidSale_ok hrun)
  | createAdjustment req =>
    obtain ⟨⟨d, i⟩, hrun, rfl⟩ := map_eq_ok.mp h
    exact createAdjustment_confined hrun
  | createStockCount req =>
    obtain ⟨⟨d, i⟩, hrun, rfl⟩ := map_eq_ok.mp h
    obtain ⟨lines, rfl, -⟩ := createStockCount_ok hrun
    exact .of_eq rfl rfl
  | openStockCount req => exact openStockCount_confined h
  | recordCountEntry req =>
    obtain ⟨lineId, line, row, -, -, -, -, rfl⟩ := recordCountEntry_ok h
    exact .of_eq rfl rfl
  | markStockCountCounted req | reviewStockCount req | reopenStockCountForRecount req
  | cancelStockCount req => exact moveStockCount_confined h
  | postStockCount req => exact postStockCount_confined h
  | createTransfer req =>
    obtain ⟨⟨d, i⟩, hrun, rfl⟩ := map_eq_ok.mp h
    obtain ⟨transfer, lines, -, -, rfl⟩ := createTransfer_ok hrun
    exact .of_eq rfl rfl
  | shipTransfer req => exact shipTransfer_confined h
  | receiveTransfer req => exact receiveTransfer_confined h
  | cancelTransfer req =>
    rcases cancelTransfer_ok h with rfl | ⟨transfer, cancelled, -, -, -, rfl⟩
    · exact .refl db'
    · exact .of_eq rfl rfl

/-! #### Requests on transfers -/

/-- The store that the caller is bound to.  Decisions on write-offs do not ask for it. -/
def TransferRequest.callerStoreId : TransferRequest → Option ℕ
  | createTransfer req => req.callerStoreId
  | shipTransfer req => req.callerStoreId
  | receiveTransfer req => req.callerStoreId
  | cancelTransfer req => req.callerStoreId
  | investigateDiscrepancy req => req.callerStoreId
  | resolveDiscrepancy req => req.callerStoreId
  | createWriteOff req => req.callerStoreId
  | approveWriteOff _ | denyWriteOff _ | reverseWriteOff _ => none

theorem TransferRequest.confined {r : TransferRequest} (h : r.run db = .ok db') :
    Confined r.callerStoreId db db' := by
  cases r with
  -- two of these are requests on stock as well, and confined as such
  | createTransfer req => exact StockRequest.confined (r := .createTransfer req) h
  | shipTransfer req => exact shipTransfer_confined h
  | receiveTransfer req => exact receiveTransfer_confined h
  | cancelTransfer req => exact StockRequest.confined (r := .cancelTransfer req) h
  | investigateDiscrepancy req =>
    obtain ⟨old, discrepancy, -, -, -, rfl⟩ := investigateDiscrepancy_ok h
    exact .of_eq rfl rfl
  | resolveDiscrepancy req =>
    obtain ⟨old, discrepancy, -, -, -, rfl⟩ := resolveDiscrepancy_ok h
    exact .of_eq rfl rfl
  | createWriteOff req =>
    obtain ⟨⟨d, i⟩, hrun, rfl⟩ := map_eq_ok.mp h
    rcases createWriteOff_ok hrun with rfl | ⟨discrepancy, w, -, -, -, -, -, -, -, rfl⟩
    · exact .refl d
    · exact .of_eq rfl rfl
  -- the source checks no store of whoever decides on a write-off, so its entry may be anywhere
  | approveWriteOff req =>
    rcases approveWriteOff_ok h with rfl | ⟨w, w', discrepancy, line, line', approval, approvedBy, d,
      -, -, -, -, hpost, -, -, -, rfl⟩
    · exact .refl db'
    · obtain ⟨-, -, -, entry, -, rfl⟩ := postJournal_eq_ok.mp hpost
      exact ⟨.refl _, .single mayAct_unbound, .refl _⟩
  | denyWriteOff req =>
    rcases denyWriteOff_ok h with ⟨rfl, -⟩ | ⟨w, w', approval, approvedBy, old, discrepancy, -, -, -, -,
      -, -, rfl⟩
    · exact .refl db'
    · exact .of_eq rfl rfl
  | reverseWriteOff req =>
    rcases reverseWriteOff_ok h with rfl | ⟨w, w', line, line', d, -, -, -, hpost, -, -, rfl⟩
    · exact .refl db'
    · obtain ⟨-, -, -, entry, -, rfl⟩ := postJournal_eq_ok.mp hpost
      exact ⟨.refl _, .single mayAct_unbound, .refl _⟩

/-! #### Payables -/

theorem postPurchaseInvoice_confined {req : PostPurchaseInvoice}
    (h : postPurchaseInvoice db req = .ok db') : Confined req.callerStoreId db db' := by
  rcases postPurchaseInvoice_steps h with rfl | ⟨lines, plan, hload, hplan, hfinish⟩
  · exact .refl db'
  have hstore : MayAct req.callerStoreId plan.invoice.val.storeId := by
    have hrow := (planPosting_ok hplan).1
    unfold loadForPosting at hload
    simp only [↓check_bind_eq_ok, bind_eq_ok, orRaise_eq_ok] at hload
    obtain ⟨invoice, hinvoice, haccess, -⟩ := hload
    obtain rfl := Option.some.inj (hrow.symm.trans hinvoice)
    exact haccess
  obtain ⟨rows, items, row, posted, -, -, -, -, hpost⟩ := finishPosting_ok hfinish
  have hposted := Confined.postedUnlessEmpty hstore hpost
  exact hposted.after rfl rfl

theorem createPurchaseInvoice_confined {req : CreatePurchaseInvoice} {invoiceId : ℕ}
    (h : createPurchaseInvoice db req = .ok (db', invoiceId)) : Confined c db db' := by
  unfold createPurchaseInvoice at h
  rw [bind_eq_ok] at h
  obtain ⟨found, -, h⟩ := h
  cases found with
  | some found =>
    rw [pure_eq_ok, Prod.mk.injEq] at h
    exact h.1 ▸ .refl db
  | none =>
    rw [bind_eq_ok] at h
    obtain ⟨plan, -, hinsert⟩ := h
    rcases insertInvoice_ok hinsert with rfl | ⟨invoice, lines, -, -, rfl⟩
    · exact .refl db'
    · exact .of_eq rfl rfl

/-- The caller may act in the store of the invoice that is voided. -/
theorem mayAct_of_loadForVoid {req : VoidPurchaseInvoice} {invoice : Row PurchaseInvoice}
    (h : loadForVoid db req = .ok (some invoice)) : MayAct req.callerStoreId invoice.val.storeId := by
  unfold loadForVoid at h
  simp only [↓check_bind_eq_ok, bind_eq_ok, orRaise_eq_ok] at h
  obtain ⟨found, -, hstore, h⟩ := h
  split at h
  · cases h
  · rw [check_bind_eq_ok, pure_eq_ok] at h
    obtain rfl := Option.some.inj h.2
    exact hstore

/-- The store that the caller is bound to. -/
def SettlementRequest.callerStoreId : SettlementRequest → Option ℕ
  | recordSupplierPayment req => req.callerStoreId
  | createSupplierCreditNote req => req.callerStoreId
  | reverseSupplierPayment req => req.callerStoreId
  | reverseSupplierCreditNote req => req.callerStoreId
  | voidPurchaseInvoice req => req.callerStoreId

/-- Settling invoices writes the payables alone. -/
theorem confined_of_settleAll {way : PurchaseInvoice → ℚ → PurchaseInvoice}
    {allocations : List PaymentAllocationInput} (h : allocations.foldlM (settle way) db = .ok d) :
    Confined c db d := by
  have hframe := settleAll_frame h
  exact .of_eq (by rw [hframe]) (by rw [hframe])

theorem recordSupplierPayment_confined {req : RecordSupplierPayment} {paymentId : ℕ}
    (h : recordSupplierPayment db req = .ok (db', paymentId)) :
    Confined req.callerStoreId db db' := by
  have haccess : db' = db ∨ MayAct req.callerStoreId req.storeId := by
    unfold recordSupplierPayment at h
    simp only [↓check_bind_eq_ok, bind_eq_ok, raiseIf_eq_ok] at h
    obtain ⟨-, -, -, found, -, h⟩ := h
    cases found with
    | some found =>
      rw [pure_eq_ok, Prod.mk.injEq] at h
      exact .inl h.1.symm
    | none => exact .inr (check_bind_eq_ok.mp h).1
  rcases haccess with rfl | hstore
  · exact .refl db'
  rcases recordSupplierPayment_ok h with rfl | ⟨-, -, -, payment, rows, d, -, -, hd, hpost⟩
  · exact .refl db'
  have hsettled : Confined req.callerStoreId db d := confined_of_settleAll hd
  have hposted := Confined.postedUnlessEmpty hstore hpost
  exact hsettled.trans (hposted.after rfl rfl)

theorem createSupplierCreditNote_confined {req : CreateSupplierCreditNote} {creditNoteId : ℕ}
    (h : createSupplierCreditNote db req = .ok (db', creditNoteId)) :
    Confined req.callerStoreId db db' := by
  rcases createSupplierCreditNote_ok h with ⟨rfl, -⟩ | ⟨-, -, hplan, note, lines, rows, d, -, -, -,
    hd, hpost⟩
  · exact .refl db'
  have hstore : MayAct req.callerStoreId req.storeId := by
    unfold planCreditNote at hplan
    exact (check_bind_eq_ok.mp hplan).1
  have hsettled : Confined req.callerStoreId db d := confined_of_settleAll hd
  have hposted := Confined.postedUnlessEmpty hstore hpost
  exact hsettled.trans (hposted.after rfl rfl)

theorem reverseSupplierPayment_confined {req : ReverseSupplierPayment}
    (h : reverseSupplierPayment db req = .ok db') : Confined req.callerStoreId db db' := by
  have haccess : ∀ payment, db.payables.payments[req.supplierPaymentId]? = some payment →
      MayAct req.callerStoreId payment.val.storeId := by
    intro payment hpayment
    unfold reverseSupplierPayment at h
    simp only [↓check_bind_eq_ok, bind_eq_ok, orRaise_eq_ok] at h
    obtain ⟨-, found, hfound, hstore, -⟩ := h
    obtain rfl := Option.some.inj (hpayment.symm.trans hfound)
    exact hstore
  rcases reverseSupplierPayment_ok h with rfl | ⟨payment, d, e, hpayment, -, hd, hpost, rfl⟩
  · exact .refl db'
  have hsettled : Confined req.callerStoreId db d := confined_of_settleAll hd
  exact (hsettled.trans (.posted (haccess payment hpayment) hpost)).trans (.of_eq rfl rfl)

theorem reverseSupplierCreditNote_confined {req : ReverseSupplierCreditNote}
    (h : reverseSupplierCreditNote db req = .ok db') : Confined req.callerStoreId db db' := by
  have haccess : ∀ note, db.payables.creditNotes[req.supplierCreditNoteId]? = some note →
      MayAct req.callerStoreId note.val.storeId := by
    intro note hnote
    unfold reverseSupplierCreditNote at h
    simp only [↓check_bind_eq_ok, bind_eq_ok, orRaise_eq_ok] at h
    obtain ⟨-, found, hfound, hstore, -⟩ := h
    obtain rfl := Option.some.inj (hnote.symm.trans hfound)
    exact hstore
  rcases reverseSupplierCreditNote_ok h with rfl | ⟨note, row, d, e, hnote, -, hd, -, hpost, rfl⟩
  · exact .refl db'
  have hsettled : Confined req.callerStoreId db d := confined_of_settleAll hd
  have hposted := Confined.posted (haccess note hnote) hpost
  exact (hsettled.trans (hposted.after rfl rfl)).trans (.of_eq rfl rfl)

theorem voidPurchaseInvoice_confined {req : VoidPurchaseInvoice}
    (h : voidPurchaseInvoice db req = .ok db') : Confined req.callerStoreId db db' := by
  rcases voidPurchaseInvoice_steps h with rfl | ⟨invoice, hload, hcases⟩
  · exact .refl db'
  have hstore := mayAct_of_loadForVoid hload
  rcases hcases with ⟨-, plan, -, hfinish⟩ | ⟨-, hwrite⟩
  · obtain ⟨items, d, row, voided, -, hpost, -, -, rfl⟩ := finishVoid_ok hfinish
    have hposted := Confined.postedUnlessEmpty hstore hpost
    have hdone : Confined req.callerStoreId db d := hposted.after rfl rfl
    exact hdone.trans (.of_eq rfl rfl)
  · obtain ⟨row, voided, -, -, rfl⟩ := writeVoided_eq_ok.mp hwrite
    exact .of_eq rfl rfl

theorem SettlementRequest.confined {r : SettlementRequest} (h : r.run db = .ok db') :
    Confined r.callerStoreId db db' := by
  cases r with
  | recordSupplierPayment req =>
    obtain ⟨⟨d, i⟩, hrun, rfl⟩ := map_eq_ok.mp h
    exact recordSupplierPayment_confined hrun
  | createSupplierCreditNote req =>
    obtain ⟨⟨d, i⟩, hrun, rfl⟩ := map_eq_ok.mp h
    exact createSupplierCreditNote_confined hrun
  | reverseSupplierPayment req => exact reverseSupplierPayment_confined h
  | reverseSupplierCreditNote req => exact reverseSupplierCreditNote_confined h
  | voidPurchaseInvoice req => exact voidPurchaseInvoice_confined h

/-! #### Workforce -/

/-- The store that the caller is bound to. -/
def WorkforceRequest.callerStoreId : WorkforceRequest → Option ℕ
  | hireEmployee req => req.callerStoreId
  | changeEmploymentStatus req => req.callerStoreId
  | reassignEmployee req => req.callerStoreId
  | changeCompensation req => req.callerStoreId
  | clockIn req => req.callerStoreId
  | clockOut req => req.callerStoreId
  | correctAttendance req => req.callerStoreId
  | configure _ => none
  | createPayrollPeriod req => req.callerStoreId
  | openPayrollPeriod req => req.callerStoreId
  | calculatePayrollPeriod req => req.callerStoreId
  | approvePayrollPeriod req => req.callerStoreId
  | cancelPayrollPeriod req => req.callerStoreId
  | postPayrollPeriod req => req.callerStoreId
  | reversePayrollPeriod req => req.callerStoreId

theorem postPayrollPeriod_confined {req : PostPayrollPeriod} (h : postPayrollPeriod db req = .ok db') :
    Confined req.callerStoreId db db' := by
  have haccess : db' = db ∨ ∀ period, db.payroll.periods[req.payrollPeriodId]? = some period →
      MayAct req.callerStoreId period.val.storeId := by
    unfold postPayrollPeriod lockPayrollPeriod at h
    split at h
    · rw [pure_eq_ok] at h
      exact .inl h.symm
    · simp only [↓check_bind_eq_ok, bind_eq_ok, orRaise_eq_ok] at h
      obtain ⟨found, hfound, hstore, -⟩ := h
      refine .inr fun period hperiod => ?_
      obtain rfl := Option.some.inj (hperiod.symm.trans hfound)
      exact hstore
  rcases haccess with rfl | haccess
  · exact .refl db'
  rcases postPayrollPeriod_ok h with rfl | ⟨period, posted, entry, hrow, -, -, -, hentry, rfl⟩
  · exact .refl db'
  refine ⟨.refl _, .single ?_, .refl _⟩
  rw [hentry]
  exact haccess period hrow

theorem reversePayrollPeriod_confined {req : ReversePayrollPeriod}
    (h : reversePayrollPeriod db req = .ok db') : Confined req.callerStoreId db db' := by
  have haccess : ∀ period, db.payroll.periods[req.payrollPeriodId]? = some period →
      MayAct req.callerStoreId period.val.storeId := by
    intro period hperiod
    unfold reversePayrollPeriod lockPayrollPeriod at h
    simp only [↓check_bind_eq_ok, bind_eq_ok, orRaise_eq_ok] at h
    obtain ⟨-, found, hfound, hstore, -⟩ := h
    obtain rfl := Option.some.inj (hperiod.symm.trans hfound)
    exact hstore
  rcases reversePayrollPeriod_ok h with rfl | ⟨period, entry, hrow, -, -, -, hentry, rfl⟩
  · exact .refl db'
  refine ⟨.refl _, .single ?_, .refl _⟩
  rw [hentry]
  exact haccess period hrow

theorem WorkforceRequest.confined {r : WorkforceRequest} (h : r.exec db = .ok db') :
    Confined r.callerStoreId db db' := by
  have hframe := exec_frame h
  have hmovements : db'.stock.movements = db.stock.movements := by rw [hframe]
  cases r with
  | hireEmployee _ | changeEmploymentStatus _ | reassignEmployee _ | changeCompensation _
  | clockIn _ | clockOut _ | correctAttendance _ | configure _ =>
    exact .of_eq hmovements (exec_aside h not_false).ledger
  | createPayrollPeriod req =>
    obtain ⟨period, -, -, rfl⟩ := createPayrollPeriod_ok h
    exact .of_eq rfl rfl
  | openPayrollPeriod req =>
    obtain ⟨periods, rfl⟩ := (openPayrollPeriod_ok h).frame
    exact .of_eq rfl rfl
  | approvePayrollPeriod req =>
    obtain ⟨periods, rfl⟩ := (approvePayrollPeriod_ok h).frame
    exact .of_eq rfl rfl
  | cancelPayrollPeriod req =>
    obtain ⟨periods, rfl⟩ := (cancelPayrollPeriod_ok h).frame
    exact .of_eq rfl rfl
  | calculatePayrollPeriod req =>
    rcases calculatePayrollPeriod_ok h with ⟨-, rfl⟩ | ⟨-, period, drafts, -, hdone⟩
    · exact .refl db'
    · obtain ⟨period', results, -, -, rfl⟩ := hdone.written
      exact .of_eq rfl rfl
  | postPayrollPeriod req => exact postPayrollPeriod_confined h
  | reversePayrollPeriod req => exact reversePayrollPeriod_confined h

/-! ### All requests -/

namespace ErpRequest

/-- The store that the caller is bound to. -/
def callerStoreId : ErpRequest → Option ℕ
  | stock r => r.callerStoreId
  | transfer r => r.callerStoreId
  | createPurchaseInvoice req => req.callerStoreId
  | postPurchaseInvoice req => req.callerStoreId
  | settlement r => r.callerStoreId
  | workforce r => r.callerStoreId
  | closeAccountingPeriod req => req.callerStoreId

end ErpRequest

/-- A commit adds nothing: it only rounds what is there already. -/
theorem Confined.commit (h : Confined c db d) : Confined c db d.commit := h.trans (.of_eq rfl rfl)

/-- **Every request adds movements, entries and closed periods for stores that its caller may act
in, and for no others.** -/
theorem exec_confined {r : ErpRequest} (h : r.exec db = .ok db') :
    Confined r.callerStoreId db db' := by
  cases r with
  | stock r =>
    obtain ⟨d, hrun, rfl⟩ := map_eq_ok.mp h
    exact (StockRequest.confined hrun).commit
  | transfer r =>
    obtain ⟨d, hrun, rfl⟩ := map_eq_ok.mp h
    exact (TransferRequest.confined hrun).commit
  | createPurchaseInvoice req =>
    obtain ⟨⟨d, i⟩, hrun, rfl⟩ := map_eq_ok.mp h
    exact (createPurchaseInvoice_confined hrun).commit
  | postPurchaseInvoice req =>
    obtain ⟨d, hrun, rfl⟩ := map_eq_ok.mp h
    exact (postPurchaseInvoice_confined hrun).commit
  | settlement r =>
    obtain ⟨d, hrun, rfl⟩ := map_eq_ok.mp h
    exact (SettlementRequest.confined hrun).commit
  | workforce r => exact WorkforceRequest.confined h
  | closeAccountingPeriod req =>
    obtain ⟨books, hclose, rfl⟩ := map_eq_ok.mp h
    have hbooks := closeAccountingPeriod_ok hclose
    have hstore : MayAct req.callerStoreId req.storeId := by
      unfold closeAccountingPeriod at hclose
      exact (check_bind_eq_ok.mp hclose).1
    refine ⟨.refl _, .refl _, ?_⟩
    rw [hbooks]
    exact .single hstore

end Requests

end GroceryErp
