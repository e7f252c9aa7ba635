import GroceryErp.System.Documents
import GroceryErp.System.PlacedRuns

/-!
# The stock is documented

Whatever requests are made, what is on hand of a product is what there was at the start and what
the documents say has come and gone since.  Requests that write no such document leave both alone.

## Main definitions

* `ErpRequest.DocumentsExactly` — quantities have three decimals, and no shipment names a line
  twice.
* `Db.Undocumented` — products are there, and no documents.

## Main results

* `StockRequest.documented` — every request on stock documents what it moves.
* `exec_documented` — so does every request of every module, once it is committed.
* `stock_documented` — the stock is what the documents say, over any run.
* `shipped_twice_undocumented` — a shipment that names a line twice loses track.

## References

`backend/app/modules/inventory/service.py`, `purchasing/service.py`, `sales/service.py`,
`transfers/service.py`.
-/

namespace GroceryErp

open Decimal Outcome Rows Runs Tallies

section Requests

variable {db d db' : Db}

/-! ### Requests on stock -/

/-- No transfer line is shipped twice by the request. -/
def StockRequest.ShipsLinesOnce (db : Db) : StockRequest → Prop
  | shipTransfer req => TransferRequest.ShipsLinesOnce db (.shipTransfer req)
  | _ => True

/-- Moving a count on moves no stock. -/
theorem moveStockCount_documented {req : MoveStockCount} {again : Option StockCountStatus}
    {allowed : List StockCountStatus} {status : StockCountStatus}
    (h : moveStockCount db req again allowed status = .ok db') : Documented db db' := by
  rcases moveStockCount_ok h with rfl | ⟨count, -, -, rfl⟩
  · exact .refl db'
  · exact .kept rfl rfl (.of_eq rfl) (.of_eq rfl) (adjustmentTally_kept rfl) (.of_eq rfl)

theorem openStockCount_documented {req : MoveStockCount} (h : openStockCount db req = .ok db') :
    Documented db db' := by
  rcases openStockCount_ok h with rfl | ⟨count, d, -, hd, rfl⟩
  · exact .refl db'
  have hframe := (snapshotLines_ok (P := fun _ => True) hd (fun _ _ _ _ => trivial)
    (fun _ _ => trivial) fun _ _ => trivial).1
  have hstock : d.stock = { db.stock with countLines := d.stock.countLines } := by rw [hframe]
  have hothers : d.purchasing = db.purchasing ∧ d.sales = db.sales ∧
      d.transfers = db.transfers := by
    rw [hframe]
    exact ⟨rfl, rfl, rfl⟩
  refine .kept ?_ ?_ (.of_eq hothers.1) (.of_eq hothers.2.1) (adjustmentTally_kept ?_)
    (.of_eq hothers.2.2)
  all_goals
    show _ = _
    rw [hstock]

theorem cancelTransfer_documented {req : CancelTransfer} (h : cancelTransfer db req = .ok db') :
    Documented db db' := by
  have hcosted : CostedOnceShipped db.transfers → CostedOnceShipped db'.transfers :=
    fun hdb => hdb.of_kept (TransferRequest.linesKept (r := .cancelTransfer req) h (by simp) (by simp))
  rcases cancelTransfer_ok h with rfl | ⟨transfer, cancelled, -, -, -, rfl⟩
  · exact .refl db'
  · exact .kept rfl rfl (.of_eq rfl) (.of_eq rfl) (adjustmentTally_kept rfl)
      (transferTally_kept rfl rfl hcosted)

/-- **Every request on stock documents what it moves.** -/
theorem StockRequest.documented {r : StockRequest} (hs : StockInScale db.stock)
    (hplaced : Placed db) (hr : r.AtScale) (honce : r.ShipsLinesOnce db)
    (h : r.run db = .ok db') : Documented db db' := by
  have hgrown := StockRequest.ordersGrown h
  cases r with
  | createPurchaseOrder req =>
    obtain ⟨⟨d, i⟩, hrun, rfl⟩ := map_eq_ok.mp h
    rcases createPurchaseOrder_ok hrun with rfl | ⟨order, items, -, -, -, rfl⟩
    · exact .refl _
    · exact .kept rfl rfl (purchasingTally_kept hgrown rfl rfl) (.of_eq rfl)
        (adjustmentTally_kept rfl) (.of_eq rfl)
  -- the status of an order is in no tally
  | submitPurchaseOrder req | cancelPurchaseOrder req =>
    obtain ⟨order, -, -, rfl⟩ := setOrderStatus_ok h
    exact .kept rfl rfl (purchasingTally_kept hgrown rfl rfl) (.of_eq rfl)
      (adjustmentTally_kept rfl) (.of_eq rfl)
  | receiveGoods req =>
    obtain ⟨⟨d, i⟩, hrun, rfl⟩ := map_eq_ok.mp h
    exact receiveGoods_documented hr hrun
  | createPurchaseReturn req =>
    obtain ⟨⟨d, i⟩, hrun, rfl⟩ := map_eq_ok.mp h
    exact createPurchaseReturn_documented hr hrun
  | finalizeSale req =>
    obtain ⟨⟨d, i⟩, hrun, rfl⟩ := map_eq_ok.mp h
    exact finalizeSale_documented hr hrun
  | createSaleReturn req =>
    obtain ⟨⟨d, i⟩, hrun, rfl⟩ := map_eq_ok.mp h
    exact createSaleReturn_documented hr hrun
  | voidSale req =>
    obtain ⟨⟨d, i⟩, hrun, rfl⟩ := map_eq_ok.mp h
    -- what is left of a sale is at scale when what was sold and returned is
    exact createSaleReturn_documented (onGrid_of_mem_remainingLines hplaced) (voidSale_ok hrun)
  | createAdjustment req =>
    obtain ⟨⟨d, i⟩, hrun, rfl⟩ := map_eq_ok.mp h
    obtain ⟨p, -, hrun⟩ := createAdjustment_ok hrun
    have hgrid : OnGrid 3 (req.input p.val.storeId).quantityDelta := hr
    exact createStockAdjustment_documented hgrid hrun
  | createStockCount req =>
    obtain ⟨⟨d, i⟩, hrun, rfl⟩ := map_eq_ok.mp h
    obtain ⟨lines, rfl, -⟩ := createStockCount_ok hrun
    exact .kept rfl rfl (.of_eq rfl) (.of_eq rfl) (adjustmentTally_kept rfl) (.of_eq rfl)
  | openStockCount req => exact openStockCount_documented h
  | recordCountEntry req =>
    obtain ⟨lineId, line, row, -, -, -, -, rfl⟩ := recordCountEntry_ok h
    exact .kept rfl rfl (.of_eq rfl) (.of_eq rfl) (adjustmentTally_kept rfl) (.of_eq rfl)
  | markStockCountCounted req | reviewStockCount req | reopenStockCountForRecount req
  | cancelStockCount req => exact moveStockCount_documented h
  | postStockCount req => exact postStockCount_documented hs hplaced.counts h
  | createTransfer req =>
    obtain ⟨⟨d, i⟩, hrun, rfl⟩ := map_eq_ok.mp h
    exact createTransfer_documented hrun
  | shipTransfer req => exact shipTransfer_documented hr honce h
  | receiveTransfer req => exact receiveTransfer_documented hr h
  | cancelTransfer req => exact cancelTransfer_documented h

/-! ### What every request does -/

/-- The request documents what it moves, and leaves products in scale and documents placed. -/
structure DocumentedStep (db db' : Db) : Prop where
  documented : Documented db db'
  scale : StockInScale db'.stock
  placed : Placed db'

theorem LossesOnly.documented (h : LossesOnly db db') : Documented db db' := by
  have hframe := h.frame
  have hstock : db'.stock = db.stock := by rw [hframe]
  have hkept : LinesKept db.transfers db'.transfers := by
    have htransfers : db'.transfers.transfers = db.transfers.transfers := by rw [hframe]
    refine ⟨?_, h.lines.mono fun i a b hab => ?_⟩
    · rw [htransfers]
      exact .refl _ fun _ _ _ => .inl rfl
    · obtain ⟨q, hb⟩ := hab
      rw [hb]
      exact ⟨rfl, rfl, rfl⟩
  refine .kept (by rw [hstock]) (by rw [hstock]) (.of_eq (by rw [hframe]))
    (.of_eq (by rw [hframe])) (adjustmentTally_kept (by rw [hstock]))
    (transferTally_kept (h.lines.map_eq ?_) (by rw [hframe]) fun hdb => hdb.of_kept hkept)
  rintro i a b ⟨q, hb⟩
  rw [hb]
  rfl

theorem InvoicedOnly.documented (h : InvoicedOnly db db') : Documented db db' := by
  have hframe := h.frame
  have hstock : db'.stock = db.stock := by rw [hframe]
  have horders : db'.purchasing.orders = db.purchasing.orders := by rw [hframe]
  exact .kept (by rw [hstock]) (by rw [hstock])
    (purchasingTally_kept (.of_made (by rw [horders]) h.items) (by rw [hframe]) (by rw [hframe]))
    (.of_eq (by rw [hframe])) (adjustmentTally_kept (by rw [hstock])) (.of_eq (by rw [hframe]))

theorem OffStock.documented (h : OffStock db db') : Documented db db' := by
  have hstock := h.stock
  exact .kept (by rw [hstock]) (by rw [hstock]) (.of_eq h.purchasing) (.of_eq h.sales)
    (.of_eq hstock) (.of_eq h.transfers)

/-! #### Commits -/

/-- A commit rounds nothing of what is documented. -/
theorem documentTally_commit (db : Db) : documentTally.Adds db db.commit 0 := by
  have htransfers : transferTally.Adds db.transfers db.commit.transfers 0 := by
    intro hkept
    refine transferTally_kept ?_ rfl (fun hdb => hdb.commit) hkept
    show (db.transfers.lines.map _).map _ = _
    rw [List.map_map]
    refine List.map_congr_left fun l hl => ?_
    have hgrid := numeric_eq_self (hkept.2.2 l hl)
    show (l.val.sourceProductId, l.val.destinationProductId, numeric 3 l.val.shippedQuantity) = _
    rw [hgrid]
    rfl
  have hpurchasing := purchasingTally_kept (ordersGrown_commit db) rfl rfl
  have hsales : salesTally.Adds db.sales db.commit.sales 0 := .of_eq rfl
  have hadjustments : adjustmentTally.Adds db.stock db.commit.stock 0 := adjustmentTally_kept rfl
  refine ((hpurchasing.on.both hsales.on).both (hadjustments.on.both htransfers.on)).congr
    fun i => ?_
  simp

theorem stockTally_commit (db : Db) : stockTally.Adds db db.commit 0 := by
  intro hs
  have hproducts := commit_products hs
  refine ⟨fun p hp => hs p (hproducts ▸ hp), fun i => ?_⟩
  show bookQuantity db.commit i = bookQuantity db i + 0
  unfold bookQuantity
  rw [hproducts, add_zero]

/-- The request adds the same to the stock and to the documents, and leaves those placed. -/
structure SameAdded (db db' : Db) : Prop where
  adds : ∃ δ, stockTally.Adds db db' δ ∧ documentTally.Adds db db' δ
  placed : Placed db'

theorem DocumentedStep.sameAdded (h : DocumentedStep db db') : SameAdded db db' := by
  obtain ⟨bs, hbs, hadds⟩ := h.documented
  exact ⟨⟨movedBy bs, fun _ => ⟨h.scale, hbs.bookQuantity⟩, hadds⟩, h.placed⟩

theorem SameAdded.commit (h : SameAdded db d) : SameAdded db d.commit := by
  obtain ⟨δ, hstock, hdocuments⟩ := h.adds
  exact ⟨⟨δ + 0, hstock.trans (stockTally_commit d), hdocuments.trans (documentTally_commit d)⟩,
    h.placed.commit⟩

/-! #### Every module -/

namespace ErpRequest

/-- Quantities that move have at most three decimals, and no transfer line is shipped twice by one
request. -/
def DocumentsExactly (db : Db) : ErpRequest → Prop
  | stock r => r.AtScale ∧ r.ShipsLinesOnce db
  | transfer r => r.AtScale ∧ r.ShipsLinesOnce db
  | _ => True

end ErpRequest

instance StockRequest.decidableAtScale : ∀ r : StockRequest, Decidable r.AtScale := by
  intro r
  unfold StockRequest.AtScale
  split <;> infer_instance

instance TransferRequest.decidableAtScale : ∀ r : TransferRequest, Decidable r.AtScale := by
  intro r
  unfold TransferRequest.AtScale
  split <;> infer_instance

instance TransferRequest.decidableShipsLinesOnce (db : Db) :
    ∀ r : TransferRequest, Decidable (r.ShipsLinesOnce db) := by
  intro r
  unfold TransferRequest.ShipsLinesOnce
  split <;> infer_instance

instance StockRequest.decidableShipsLinesOnce (db : Db) :
    ∀ r : StockRequest, Decidable (r.ShipsLinesOnce db) := by
  intro r
  unfold StockRequest.ShipsLinesOnce
  split <;> infer_instance

instance ErpRequest.decidableDocumentsExactly (db : Db) :
    ∀ r : ErpRequest, Decidable (r.DocumentsExactly db) := by
  intro r
  unfold ErpRequest.DocumentsExactly
  split <;> infer_instance

/-- A request on stock that documents exactly ships no line twice. -/
theorem ErpRequest.DocumentsExactly.asStock {r : ErpRequest} {s : StockRequest}
    (hr : r.DocumentsExactly db) (h : r.asStock = some s) : s.ShipsLinesOnce db := by
  cases r with
  | stock r => exact Option.some.inj h ▸ hr.2
  | transfer r =>
    cases r with
    | createTransfer req => exact Option.some.inj h ▸ trivial
    | shipTransfer req =>
      obtain rfl := Option.some.inj h
      exact hr.2
    | receiveTransfer req => exact Option.some.inj h ▸ trivial
    | cancelTransfer req => exact Option.some.inj h ▸ trivial
    | _ => cases h
  | _ => cases h

theorem ErpRequest.DocumentsExactly.atScale {r : ErpRequest} (hr : r.DocumentsExactly db) :
    r.AtScale db := by
  cases r with
  | stock r => exact hr.1
  | transfer r => exact hr.1
  | _ => trivial

theorem StockCourse.documentedStep {r : ErpRequest} {d : Db} (h : StockCourse r db d)
    (hs : StockInScale db.stock) (hplaced : Placed db) (hr : r.DocumentsExactly db) :
    DocumentedStep db d := by
  have hsound := h.soundStep hs hplaced hr.atScale
  refine ⟨?_, hsound.inScale hs, hsound.placed⟩
  cases h with
  | onStock s same run =>
    exact StockRequest.documented hs hplaced (hr.atScale.asStock same) (hr.asStock same) run
  | losses only => exact only.documented
  | invoices only => exact only.documented
  | off off => exact off.documented

/-- **Every request of every module adds the same to the stock and to the documents.** -/
theorem exec_documented {r : ErpRequest} (hs : StockInScale db.stock) (hplaced : Placed db)
    (hr : r.DocumentsExactly db) (h : r.exec db = .ok db') : SameAdded db db' := by
  obtain ⟨d, hcourse, rfl | rfl⟩ := ErpRequest.exec_course h
  · exact (hcourse.documentedStep hs hplaced hr).sameAdded
  · exact (hcourse.documentedStep hs hplaced hr).sameAdded.commit

end Requests

/-! ### Runs -/

/-- Products in scale, and no documents: the tables as a run begins with them. -/
structure Db.Undocumented (db : Db) : Prop where
  scale : StockInScale db.stock
  orderItems : db.purchasing.orderItems = []
  receiptItems : db.purchasing.receiptItems = []
  purchaseReturns : db.purchasing.returnItems = []
  saleItems : db.sales.items = []
  saleReturns : db.sales.returnItems = []
  countLines : db.stock.countLines = []
  adjustments : db.stock.adjustments = []
  transferLines : db.transfers.lines = []
  transferReceipts : db.transfers.receiptItems = []

section Runs

variable {db₀ db : Db}

theorem Db.Undocumented.placed (h : db.Undocumented) : Placed db where
  orders := by simp [OrdersPlaced, h.orderItems]
  sales := by simp [SalesPlaced, h.saleItems]
  transfers := by simp [TransfersPlaced, h.transferLines]
  counts := by simp [CountsPlaced, h.countLines]

/-- What there was of a product, as a tally that nothing is added to. -/
def openingTally (db₀ : Db) : Tally Db ℕ ℚ where
  Kept _ := True
  total _ := bookQuantity db₀

theorem openingTally_adds (db₀ db db' : Db) : (openingTally db₀).Adds db db' 0 :=
  fun _ => ⟨trivial, fun _ => (add_zero _).symm⟩

theorem Db.Undocumented.agree (h : db₀.Undocumented) :
    Tally.Agree stockTally ((openingTally db₀).both documentTally) db₀ := by
  refine ⟨h.scale, ⟨trivial, ⟨?_, ?_⟩, trivial, ?_, ?_, ?_⟩, fun i => ?_⟩
  · simp [Tally.on, purchasingTally, RefersIn, h.receiptItems]
  · simp [Tally.on, salesTally, RefersIn, h.saleReturns]
  · simp [RefersIn, h.transferReceipts]
  · constructor <;> simp [h.transferLines]
  · simp [h.transferLines]
  · show bookQuantity db₀ i = bookQuantity db₀ i + documented db₀ i
    simp [documented, deliveredQuantity, sentBackQuantity, restockedQuantity, soldQuantity,
      adjustedQuantity, takenInQuantity, shippedOutQuantity, sumJoined, h.receiptItems,
      h.purchaseReturns, h.saleItems, h.saleReturns, h.adjustments, h.transferLines,
      h.transferReceipts]

/-- **The stock is documented**: over any run of requests of all modules, what is on hand of a
product is what there was and what the documents say has come and gone. -/
theorem stock_documented (hstart : db₀.Undocumented)
    (h : Reaches ErpRequest.exec ErpRequest.DocumentsExactly db₀ db) (productId : ℕ)
    (p : Row Product) (hp : db.stock.products[productId]? = some p) :
    p.val.currentQtyOnHand = bookQuantity db₀ productId + documented db productId := by
  have hagree : Placed db ∧ Tally.Agree stockTally ((openingTally db₀).both documentTally) db := by
    refine h.invariant (I := fun t => Placed t ∧
      Tally.Agree stockTally ((openingTally db₀).both documentTally) t)
      ⟨hstart.placed, hstart.agree⟩ fun t r t' ht hr hdone => ?_
    obtain ⟨⟨δ, hstock, hdocuments⟩, hplaced⟩ := exec_documented ht.2.left ht.1 hr hdone
    have hboth := ((openingTally_adds db₀ t t').both hdocuments).congr
      (ε := δ) fun i => zero_add (δ i)
    exact ⟨hplaced, ht.2.step hstock hboth⟩
  have htotal := hagree.2.total productId
  have hon : bookQuantity db productId = p.val.currentQtyOnHand := by
    unfold bookQuantity
    rw [hp]
    rfl
  rw [← hon]
  exact htotal

end Runs

/-! ### A day at two shops -/

/-- The shops buy apples as well. -/
def suppliedShops : Db := { twoShops with master.suppliers := [⟨true, none⟩] }

/-- Seven apples are delivered and two sent back, one is sold and half of it brought back, three
are thrown away, and ten are shipped, of which six arrive. -/
def busyDay : List ErpRequest :=
  [.stock (.createPurchaseOrder orderApples),
    .stock (.submitPurchaseOrder ⟨0, none⟩),
    .stock (.receiveGoods (deliverApples 7 1 "receipt-1")),
    .stock (.createPurchaseReturn
      { purchaseOrderId := 0, storeId := 0, returnDate := 0, lines := [⟨0, 2⟩]
        clientTransactionId := "bruised-1", callerStoreId := none }),
    .stock (.finalizeSale sellApple),
    .stock (.createSaleReturn
      { saleId := 0, storeId := 0, returnDate := 0
        lines := [{ saleItemId := 0, quantity := 1 / 2 }]
        refundMethod := .cash, clientTransactionId := "back-1", callerStoreId := none }),
    .stock (.createAdjustment
      { productId := 0, quantityDelta := -3, reasonCode := .damage, clientTransactionId := none
        callerStoreId := none, today := 0 }),
    .transfer (.createTransfer sendApples),
    .transfer (.shipTransfer (shipApples [⟨0, 10⟩])),
    .transfer (.receiveTransfer unpackApples)]

def busyShops : Db :=
  value (busyDay.foldlM (guarded ErpRequest.exec ErpRequest.DocumentsExactly .assertion)
    suppliedShops) (by decide +kernel)

theorem suppliedShops_undocumented : suppliedShops.Undocumented := by
  refine ⟨?_, rfl, rfl, rfl, rfl, rfl, rfl, rfl, rfl, rfl⟩
  intro p hp
  rcases List.mem_pair.mp hp with rfl | rfl
  · constructor <;> decide +kernel
  · constructor <;> decide +kernel

/-- Eleven and a half are left of the twenty that there were. -/
theorem stock_documented_apples :
    ∃ p, busyShops.stock.products[0]? = some p ∧ p.val.currentQtyOnHand = 23 / 2 ∧
      documented busyShops 0 = -(17 / 2) := by
  have hleft : busyShops.stock.products[0]?.map (·.val.currentQtyOnHand) = some (23 / 2) := by
    decide +kernel
  obtain ⟨p, hp, hquantity⟩ := Option.map_eq_some_iff.mp hleft
  have htwenty : bookQuantity suppliedShops 0 = 20 := by decide +kernel
  have hagrees := stock_documented suppliedShops_undocumented
    (reaches_of_guarded (eq_ok_value _ _) : Reaches _ _ _ busyShops) 0 p hp
  refine ⟨p, hp, hquantity, ?_⟩
  rw [hquantity, htwenty] at hagrees
  linarith

/-- Twice six apples are shipped for one line. -/
def applesGone : Db :=
  value ([ErpRequest.transfer (.createTransfer sendApples),
    .transfer (.shipTransfer (shipApples [⟨0, 6⟩, ⟨0, 6⟩]))].foldlM
      (fun db r => ErpRequest.exec r db) suppliedShops) (by decide +kernel)

/-- **A line that is named twice is documented once**: twelve apples have gone, and six are said to
have. -/
theorem shipped_twice_undocumented :
    Reaches ErpRequest.exec (fun _ _ => True) suppliedShops applesGone ∧
      bookQuantity applesGone 0 = bookQuantity suppliedShops 0 - 12 ∧
      documented applesGone 0 = -6 :=
  ⟨reaches_of_foldlM (eq_ok_value _ _), by decide +kernel, by decide +kernel⟩

end GroceryErp
