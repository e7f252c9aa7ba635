import GroceryErp.Lib.Runs
import GroceryErp.System.StockSteps

/-!
# Runs of stock requests

Orders, receipts, sales, returns, adjustments, counts and transfers as they follow each
other.  Each is a stock step that keeps the documents placed, so the Inventory account
of every store stays with its stock over any run.

## Main definitions

* `StockRequest`, `StockRequest.exec` — the requests, and one of them committed.
* `StockRequest.AtScale` — its quantities have at most three decimals.
* `Db.Opening` — tables with products and no history.

## Main results

* `StockRequest.run_placed` — every request is a stock step that keeps the documents placed.
* `inventory_within_allowance` — over any run, the account and the stock of every store
  stay within the roundings made.
-/

namespace GroceryErp

open Decimal Ledger Outcome Rows Runs

/-! ### Requests -/

inductive StockRequest
  | createPurchaseOrder (req : CreatePurchaseOrder)
  | submitPurchaseOrder (req : MovePurchaseOrder)
  | cancelPurchaseOrder (req : MovePurchaseOrder)
  | receiveGoods (req : ReceiveGoods)
  | createPurchaseReturn (req : CreatePurchaseReturn)
  | finalizeSale (req : FinalizeSale)
  | createSaleReturn (req : CreateSaleReturn)
  | voidSale (req : VoidSale)
  | createAdjustment (req : CreateAdjustment)
  | createStockCount (req : CreateStockCount)
  | openStockCount (req : MoveStockCount)
  | recordCountEntry (req : RecordCountEntry)
  | markStockCountCounted (req : MoveStockCount)
  | reviewStockCount (req : MoveStockCount)
  | reopenStockCountForRecount (req : MoveStockCount)
  | postStockCount (req : PostStockCount)
  | cancelStockCount (req : MoveStockCount)
  | createTransfer (req : CreateTransfer)
  | shipTransfer (req : ShipTransfer)
  | receiveTransfer (req : ReceiveTransfer)
  | cancelTransfer (req : CancelTransfer)

namespace StockRequest

/-- One request, before its commit; of what it answers only the tables are kept. -/
def run : StockRequest → Db → Result Db
  | createPurchaseOrder req, db => Prod.fst <$> GroceryErp.createPurchaseOrder db req
  | submitPurchaseOrder req, db => GroceryErp.submitPurchaseOrder db req
  | cancelPurchaseOrder req, db => GroceryErp.cancelPurchaseOrder db req
  | receiveGoods req, db => Prod.fst <$> GroceryErp.receiveGoods db req
  | createPurchaseReturn req, db => Prod.fst <$> GroceryErp.createPurchaseReturn db req
  | finalizeSale req, db => Prod.fst <$> GroceryErp.finalizeSale db req
  | createSaleReturn req, db => Prod.fst <$> GroceryErp.createSaleReturn db req
  | voidSale req, db => Prod.fst <$> GroceryErp.voidSale db req
  | createAdjustment req, db => Prod.fst <$> GroceryErp.createAdjustment db req
  | createStockCount req, db => Prod.fst <$> GroceryErp.createStockCount db req
  | openStockCount req, db => GroceryErp.openStockCount db req
  | recordCountEntry req, db => GroceryErp.recordCountEntry db req
  | markStockCountCounted req, db => GroceryErp.markStockCountCounted db req
  | reviewStockCount req, db => GroceryErp.reviewStockCount db req
  | reopenStockCountForRecount req, db => GroceryErp.reopenStockCountForRecount db req
  | postStockCount req, db => GroceryErp.postStockCount db req
  | cancelStockCount req, db => GroceryErp.cancelStockCount db req
  | createTransfer req, db => Prod.fst <$> GroceryErp.createTransfer db req
  | shipTransfer req, db => GroceryErp.shipTransfer db req
  | receiveTransfer req, db => GroceryErp.receiveTransfer db req
  | cancelTransfer req, db => GroceryErp.cancelTransfer db req

/-- One request, committed: what it has written is rounded to the columns. -/
def exec (r : StockRequest) (db : Db) : Result Db := Db.commit <$> r.run db

/-- The quantities of the request have at most three decimals.  What a void returns and
what a count posts is stored, and counted quantities are rounded when they are. -/
def AtScale : StockRequest → Prop
  | receiveGoods req => ∀ l ∈ req.lines, OnGrid 3 l.quantityReceived
  | createPurchaseReturn req => ∀ l ∈ req.lines, OnGrid 3 l.quantity
  | finalizeSale req => ∀ l ∈ req.lines, OnGrid 3 l.quantity
  | createSaleReturn req => ∀ l ∈ req.lines, OnGrid 3 l.quantity
  | createAdjustment req => OnGrid 3 req.quantityDelta
  | shipTransfer req => ∀ l ∈ req.lines, OnGrid 3 l.quantityToShip
  | receiveTransfer req => ∀ l ∈ req.lines, OnGrid 3 l.quantityReceived
  | _ => True

end StockRequest

/-! ### Documents stay placed -/

section Placed

variable {db d db' : Db}

/-! #### Orders -/

theorem createPurchaseOrder_step {req : CreatePurchaseOrder} {purchaseOrderId : ℕ}
    (hplaced : Placed db) (h : createPurchaseOrder db req = .ok (db', purchaseOrderId)) :
    StockStep db db' ∧ Placed db' := by
  rcases createPurchaseOrder_ok h with rfl | ⟨order, items, hstore, hitems, hproducts, rfl⟩
  · exact ⟨.refl db', hplaced⟩
  have hk : StoresKept db.stock db.stock := .of_eq rfl
  refine ⟨.of_eq rfl rfl rfl, hplaced.next hk (.inr fun i hi => ?_) (.inl rfl) (.inl rfl)
    (.inl ⟨rfl, rfl⟩)⟩
  rcases List.mem_append.mp hi with hi | hi
  · obtain ⟨storeId, hof, hp⟩ := hplaced.orders i hi
    exact ⟨storeId, hof.append _, hp⟩
  · -- an item of the new order
    obtain ⟨line, hline, hrow⟩ := exists_of_map_eq hitems hi
    obtain ⟨p, hp, hpstore⟩ := hproducts line hline
    rw [← hrow]
    refine ⟨req.storeId, ?_, p, hp, hpstore⟩
    exact hstore ▸ HasAt.last (f := PurchaseOrder.storeId) _ order

theorem setOrderStatus_step {req : MovePurchaseOrder} {allowed : List PurchaseOrderStatus}
    {status : PurchaseOrderStatus} (hplaced : Placed db)
    (h : setOrderStatus db req allowed status = .ok db') : StockStep db db' ∧ Placed db' := by
  obtain ⟨order, horder, -, rfl⟩ := setOrderStatus_ok h
  have hk : StoresKept db.stock db.stock := .of_eq rfl
  refine ⟨.of_eq rfl rfl rfl, hplaced.next hk (.inr fun i hi => ?_) (.inl rfl) (.inl rfl)
    (.inl ⟨rfl, rfl⟩)⟩
  obtain ⟨storeId, hof, hp⟩ := hplaced.orders i hi
  exact ⟨storeId, hof.set horder rfl, hp⟩

/-! #### Receipts and returns -/

theorem receiveGoods_step {req : ReceiveGoods} {goodsReceiptId : ℕ} (hplaced : Placed db)
    (hgrid : ∀ l ∈ req.lines, OnGrid 3 l.quantityReceived)
    (h : receiveGoods db req = .ok (db', goodsReceiptId)) : StockStep db db' ∧ Placed db' := by
  have hstep := receiveGoods_stockStep hplaced.orders hgrid h
  refine ⟨hstep, ?_⟩
  rcases receiveGoods_ok h with rfl | ⟨order, lines, d, hplan, hw, hj⟩
  · exact hplaced
  obtain ⟨horder, -, -⟩ := planReceipt_ok hplan
  obtain ⟨-, receipt, rows, items, status, -, -, hlength, hitems, -, hd⟩ := writeReceipt_ok hw
  have hframe := postJournalUnlessEmpty_frame hj
  refine hplaced.next hstep.storesKept (.inr fun i hi => ?_) (.inl ?_) (.inl ?_) (.inl ⟨?_, ?_⟩)
  -- items keep their order and product, and a receipt adds to what was received of them
  · rw [hframe, hd] at hi ⊢
    obtain ⟨n, hn, hget⟩ := List.getElem_of_mem hi
    have hn' : n < db.purchasing.orderItems.length := hlength ▸ hn
    obtain ⟨item, hitem, hval⟩ := hitems n _ (List.getElem?_eq_getElem hn')
    obtain rfl : item = i := by
      rw [List.getElem?_eq_getElem hn] at hitem
      exact (Option.some.inj hitem).symm.trans hget
    obtain ⟨storeId, hof, hp⟩ := hplaced.orders _ (List.getElem_mem hn')
    rw [hval]
    refine ⟨storeId, hof.set horder rfl, ?_⟩
    have hk := hstep.storesKept _ _ hp
    rw [hframe, hd] at hk
    exact hk
  · rw [hframe, hd]
  · rw [hframe, hd]
  · rw [hframe, hd]
    rfl
  · rw [hframe, hd]
    rfl

theorem createPurchaseReturn_step {req : CreatePurchaseReturn} {purchaseReturnId : ℕ}
    (hs : StockInScale db.stock) (hplaced : Placed db) (hgrid : ∀ l ∈ req.lines, OnGrid 3 l.quantity)
    (h : createPurchaseReturn db req = .ok (db', purchaseReturnId)) :
    StockStep db db' ∧ Placed db' := by
  have hstep := createPurchaseReturn_stockStep hs hgrid h
  refine ⟨hstep, ?_⟩
  rcases createPurchaseReturn_ok h with rfl | ⟨lines, d, -, hw, hj⟩
  · exact hplaced
  obtain ⟨-, rows, -, hd⟩ := writePurchaseReturn_ok hw
  have hframe := postJournalUnlessEmpty_frame hj
  have hk := hstep.storesKept
  refine hplaced.next hk (.inr (hplaced.orders.mono hk ?_ ?_)) (.inl ?_) (.inl ?_) (.inl ⟨?_, ?_⟩)
  · rw [hframe, hd]
  · rw [hframe, hd]
  · rw [hframe, hd]
  · rw [hframe, hd]
  · rw [hframe, hd]
    rfl
  · rw [hframe, hd]
    rfl

/-! #### Sales and their returns -/

theorem finalizeSale_step {req : FinalizeSale} {saleId : ℕ} (hs : StockInScale db.stock)
    (hplaced : Placed db) (hgrid : ∀ l ∈ req.lines, OnGrid 3 l.quantity)
    (h : finalizeSale db req = .ok (db', saleId)) : StockStep db db' ∧ Placed db' := by
  have hstep := finalizeSale_stockStep hs hgrid h
  refine ⟨hstep, ?_⟩
  rcases finalizeSale_ok h with ⟨-, -, rfl⟩ | ⟨-, cart, changeDue, d, hc, hw, hj⟩
  · exact hplaced
  obtain ⟨hid, shiftId, sale, items, payments, hsale, hitems, -, hd⟩ := writeSale_ok hw
  obtain ⟨-, -, -, entry, -, rfl⟩ := postJournal_eq_ok.mp hj
  have hk := hstep.storesKept
  refine hplaced.next hk (.inl ?_) (.inr ?_) (.inl ?_) (.inl ⟨?_, ?_⟩)
  · rw [hd]
  · intro i hi
    have hsales : d.sales.sales = db.sales.sales ++ [sale] := by rw [hd]
    have hi' : i ∈ db.sales.items ++ items := by
      rw [show d.sales.items = db.sales.items ++ items by rw [hd]] at hi
      exact hi
    show _ ∧ _ ∧ ∃ storeId, HasAt d.sales.sales _ _ _ ∧ _
    rw [hsales]
    rcases List.mem_append.mp hi' with hi' | hi'
    · obtain ⟨hq, hr, storeId, hof, hp⟩ := hplaced.sales i hi'
      exact ⟨hq, hr, storeId, hof.append _, hk _ _ hp⟩
    · -- an item of the new sale
      have hval : i.val ∈ cart.computed.map (·.item saleId) :=
        hitems ▸ List.mem_map_of_mem hi'
      obtain ⟨c, hcmem, hrow⟩ := List.mem_map.mp hval
      obtain ⟨-, -, p, hp, hpstore, -⟩ := product_of_checkout hc c hcmem
      rw [← hrow]
      refine ⟨onGrid_numeric 3 _, onGrid_zero 3, req.storeId, ?_, hk _ _ ⟨p, hp, hpstore⟩⟩
      have hstore : sale.val.storeId = req.storeId := by
        rw [hsale]
        rfl
      show HasAt _ _ saleId _
      rw [hid, ← hstore]
      exact HasAt.last (f := fun s : Row Sale => s.val.storeId) _ sale
  · rw [hd]
  · rw [hd]
    rfl
  · rw [hd]
    rfl

theorem createSaleReturn_step {req : CreateSaleReturn} {saleReturnId : ℕ} (hplaced : Placed db)
    (hgrid : ∀ l ∈ req.lines, OnGrid 3 l.quantity)
    (h : createSaleReturn db req = .ok (db', saleReturnId)) : StockStep db db' ∧ Placed db' := by
  have hstep := createSaleReturn_stockStep hplaced.sales hgrid h
  refine ⟨hstep, ?_⟩
  rcases createSaleReturn_ok h with ⟨-, rfl⟩ | ⟨-, sale, lines, _, _, d, hplan, -, -, hw, hj⟩
  · exact hplaced
  obtain ⟨hsale, -, -, -, hplanned⟩ := planReturn_ok hplan
  obtain ⟨-, _, saleReturn, saleAfter, e, -, hafter, he, rfl⟩ := writeReturn_ok hw
  have hframe := postJournalUnlessEmpty_frame hj
  have hk := hstep.storesKept
  -- the loop writes return items, and the returned quantities of the sale's items
  have hloop : e = { db with
        stock := db.stock.moved e.stock
        sales.returnItems := e.sales.returnItems
        sales.items := e.sales.items } ∧ SalesPlaced db.stock { db.sales with items := e.sales.items } := by
    refine foldlM_induct (fun _ t => t = { db with
        stock := db.stock.moved t.stock
        sales.returnItems := t.sales.returnItems
        sales.items := t.sales.items } ∧
      SalesPlaced db.stock { db.sales with items := t.sales.items }) he ⟨rfl, hplaced.sales⟩ ?_
    rintro done l rest t t' rfl ⟨ht, hitems⟩ hround
    obtain ⟨row, u, item, -, hu, hitem, rfl⟩ := addReturnLine_eq_ok.mp hround
    have hl := hplanned l (by simp)
    obtain ⟨hq, -, storeId, hof, hp⟩ := hplaced.sales l.item (mem_of_row hl.loaded)
    rw [restockLine_frame hu]
    refine ⟨by rw [ht]; rfl, forall_mem_set hitems ?_⟩
    rw [hitem]
    exact ⟨hq, onGrid_numeric 3 _, storeId, hof, hp⟩
  obtain ⟨heframe, hitems⟩ := hloop
  refine hplaced.next hk (.inl ?_) (.inr ?_) (.inl ?_) (.inl ⟨?_, ?_⟩)
  · rw [hframe, heframe]
  · intro i hi
    rw [hframe] at hi
    obtain ⟨hq, hr, storeId, hof, hp⟩ := hitems i hi
    refine ⟨hq, hr, storeId, ?_, hk _ _ hp⟩
    rw [hframe, heframe]
    refine hof.set hsale ?_
    rw [hafter]
  · rw [hframe, heframe]
  · rw [hframe, heframe]
    rfl
  · rw [hframe, heframe]
    rfl

theorem onGrid_of_mem_remainingLines {saleId : ℕ} (hplaced : Placed db) :
    ∀ l ∈ remainingLines db saleId, OnGrid 3 l.quantity := by
  intro l hl
  obtain ⟨i, hi, rfl⟩ := List.mem_map.mp hl
  obtain ⟨hrow, -⟩ := mem_rowsWhere.mp (List.mem_of_mem_filter hi)
  obtain ⟨hq, hr, -⟩ := hplaced.sales _ (mem_of_row hrow)
  exact hq.sub hr

theorem voidSale_step {req : VoidSale} {saleReturnId : ℕ} (hplaced : Placed db)
    (h : voidSale db req = .ok (db', saleReturnId)) : StockStep db db' ∧ Placed db' := by
  refine createSaleReturn_step hplaced ?_ (voidSale_ok h)
  exact onGrid_of_mem_remainingLines hplaced

/-! #### Adjustments and counts -/

theorem createStockAdjustment_frame {a : StockAdjustmentInput} {adjustmentId : ℕ}
    (h : createStockAdjustment db a = .ok (db', adjustmentId)) : db' = { db with
      stock.products := db'.stock.products
      stock.movements := db'.stock.movements
      stock.adjustments := db'.stock.adjustments
      ledger.entries := db'.ledger.entries } := by
  rcases createStockAdjustment_ok h with rfl | h
  · rfl
  obtain ⟨adjustment, p, d, -, hm, hj⟩ := writeAdjustment_ok h
  rw [postStockAdjustmentJournal_frame hj, recordMovement_frame hm]
  rfl

theorem createAdjustment_step {req : CreateAdjustment} {adjustmentId : ℕ}
    (hs : StockInScale db.stock) (hplaced : Placed db) (hgrid : OnGrid 3 req.quantityDelta)
    (h : createAdjustment db req = .ok (db', adjustmentId)) : StockStep db db' ∧ Placed db' := by
  have hstep := createAdjustment_stockStep hs hgrid h
  obtain ⟨p, -, h⟩ := createAdjustment_ok h
  have hframe := createStockAdjustment_frame h
  refine ⟨hstep, hplaced.next hstep.storesKept (.inl ?_) (.inl ?_) (.inl ?_) (.inl ⟨?_, ?_⟩)⟩
  all_goals rw [hframe]

theorem createStockCount_step {req : CreateStockCount} {stockCountId : ℕ} (hplaced : Placed db)
    (h : createStockCount db req = .ok (db', stockCountId)) : StockStep db db' ∧ Placed db' := by
  obtain ⟨lines, rfl, hlines⟩ := createStockCount_ok h
  have hk : StoresKept db.stock { db.stock with
      counts := db.stock.counts ++ [⟨req.storeId, req.categoryId, .draft⟩]
      countLines := db.stock.countLines ++ lines } := .of_eq rfl
  refine ⟨.of_eq rfl rfl rfl, hplaced.next hk (.inl rfl) (.inl rfl) (.inl rfl) (.inr fun l hl => ?_)⟩
  rcases List.mem_append.mp hl with hl | hl
  · obtain ⟨hq, storeId, hof, hp⟩ := hplaced.counts l hl
    exact ⟨hq, storeId, hof.append _, hk _ _ hp⟩
  · -- a line of the new count
    obtain ⟨hid, hnone, p, hp, hpstore⟩ := hlines l hl
    refine ⟨by simp [hnone], req.storeId, ?_, p, hp, hpstore⟩
    rw [hid]
    exact HasAt.last (f := StockCount.storeId) _ _

/-- Moving a count on leaves its lines with its store. -/
theorem CountsPlaced.set {s : StockTables} (h : CountsPlaced s) {i : ℕ} {count count' : StockCount}
    (hcount : s.counts[i]? = some count) (hstore : count'.storeId = count.storeId) :
    CountsPlaced { s with counts := s.counts.set i count' } := by
  intro l hl
  obtain ⟨hq, storeId, hof, hp⟩ := h l hl
  exact ⟨hq, storeId, hof.set hcount hstore, hp⟩

theorem moveStockCount_step {req : MoveStockCount} {again : Option StockCountStatus}
    {allowed : List StockCountStatus} {status : StockCountStatus} (hplaced : Placed db)
    (h : moveStockCount db req again allowed status = .ok db') : StockStep db db' ∧ Placed db' := by
  rcases moveStockCount_ok h with rfl | ⟨count, hcount, -, rfl⟩
  · exact ⟨.refl db', hplaced⟩
  refine ⟨.of_eq rfl rfl rfl, hplaced.next (.of_eq rfl) (.inl rfl) (.inl rfl) (.inl rfl) (.inr ?_)⟩
  exact hplaced.counts.set hcount rfl

theorem openStockCount_step {req : MoveStockCount} (hplaced : Placed db)
    (h : openStockCount db req = .ok db') : StockStep db db' ∧ Placed db' := by
  rcases openStockCount_ok h with rfl | ⟨count, d, hcount, hd, rfl⟩
  · exact ⟨.refl db', hplaced⟩
  obtain ⟨hframe, hlines⟩ := snapshotLines_ok hd
    (P := fun l => (∀ q ∈ l.countedQuantity, OnGrid 3 q) ∧ ∃ storeId,
      HasAt db.stock.counts (·.storeId) l.stockCountId storeId ∧
        ProductAt db.stock l.productId storeId)
    (fun _ _ _ hl => hl)
    (fun l hl => by
      obtain ⟨hrow, -⟩ := mem_rowsWhere.mp ((List.mem_insertionSort _).mp hl)
      exact hplaced.counts _ (mem_of_row hrow))
    hplaced.counts
  have hcounts : d.stock.counts = db.stock.counts := by rw [hframe]
  have hcount' : d.stock.counts[req.stockCountId]? = some count := hcounts ▸ hcount
  have hproducts : d.stock.products = db.stock.products := by rw [hframe]
  have hd : CountsPlaced d.stock := by
    intro l hl
    obtain ⟨hq, storeId, hof, hp⟩ := hlines l hl
    exact ⟨hq, storeId, hcounts ▸ hof, StoresKept.of_eq hproducts _ _ hp⟩
  refine ⟨.of_eq hproducts ?_ ?_, hplaced.next (.of_eq hproducts) (.inl ?_) (.inl ?_) (.inl ?_)
    (.inr (hd.set hcount' rfl))⟩
  all_goals rw [hframe]

theorem recordCountEntry_step {req : RecordCountEntry} (hplaced : Placed db)
    (h : recordCountEntry db req = .ok db') : StockStep db db' ∧ Placed db' := by
  obtain ⟨lineId, line, row, hline, hcount, hproduct, hcounted, rfl⟩ := recordCountEntry_ok h
  refine ⟨.of_eq rfl rfl rfl, hplaced.next (.of_eq rfl) (.inl rfl) (.inl rfl) (.inl rfl) (.inr ?_)⟩
  refine forall_mem_set hplaced.counts ?_
  obtain ⟨-, storeId, hof, hp⟩ := hplaced.counts line (mem_of_row hline)
  rw [hcount, hproduct, hcounted]
  exact ⟨fun q hq => Option.some.inj hq ▸ onGrid_numeric 3 _, storeId, hof, hp⟩

theorem postStockCount_step {req : PostStockCount} (hs : StockInScale db.stock)
    (hplaced : Placed db) (h : postStockCount db req = .ok db') :
    StockStep db db' ∧ Placed db' := by
  have hstep := postStockCount_stockStep hs hplaced.counts h
  refine ⟨hstep, ?_⟩
  rcases postStockCount_ok h with rfl | ⟨count, lines, d, hcount, -, -, hd, rfl⟩
  · exact hplaced
  have hframe : d = { db with
      stock.products := d.stock.products
      stock.movements := d.stock.movements
      stock.adjustments := d.stock.adjustments
      ledger.entries := d.ledger.entries } := by
    -- the loop over the counted lines writes these four tables and no other
    refine foldlM_induct (fun _ t => t = { db with
      stock.products := t.stock.products
      stock.movements := t.stock.movements
      stock.adjustments := t.stock.adjustments
      ledger.entries := t.ledger.entries }) hd rfl ?_
    rintro done line rest t t' - ht hround
    rcases postCountLine_ok hround with rfl | ⟨p, counted, i, -, -, hadjust⟩
    · exact ht
    · rw [createStockAdjustment_frame hadjust, ht]
  have hcounts : d.stock.counts = db.stock.counts := by rw [hframe]
  have hcount' : d.stock.counts[req.stockCountId]? = some count := hcounts ▸ hcount
  have hk : StoresKept db.stock d.stock := hstep.storesKept
  have hdplaced : CountsPlaced d.stock := by
    refine hplaced.counts.mono hk hcounts ?_
    rw [hframe]
  refine hplaced.next hstep.storesKept (.inl ?_) (.inl ?_) (.inl ?_)
    -- the status of the count is written last, and its store stays
    (.inr (hdplaced.set hcount' rfl))
  all_goals rw [hframe]

/-! #### Transfers -/

/-- What the placement asks of a transfer line. -/
def LinePlaced (db : Db) (l : InterStoreTransferLine) : Prop :=
  (∀ c ∈ l.unitCostAtShipment, 0 ≤ c) ∧ ∃ fromStoreId toStoreId,
    HasAt db.transfers.transfers (·.val.fromStoreId) l.transferId fromStoreId ∧
    HasAt db.transfers.transfers (·.val.toStoreId) l.transferId toStoreId ∧
    ProductAt db.stock l.sourceProductId fromStoreId ∧
    ProductAt db.stock l.destinationProductId toStoreId

/-- Lines that were placed still are when a transfer has moved on in its own stores. -/
theorem transfersPlaced_of_set {i : ℕ} {transfer : Row InterStoreTransfer}
    (transfer' : Row InterStoreTransfer) (hk : StoresKept db.stock db'.stock) (htransfer : db.transfers.transfers[i]? = some transfer)
    (hfrom : transfer'.val.fromStoreId = transfer.val.fromStoreId)
    (hto : transfer'.val.toStoreId = transfer.val.toStoreId)
    (hset : db'.transfers.transfers = db.transfers.transfers.set i transfer')
    (hlines : ∀ l ∈ db'.transfers.lines, LinePlaced db l.val) :
    TransfersPlaced db'.stock db'.transfers := by
  intro l hl
  obtain ⟨hc, fromStoreId, toStoreId, hf, ht, hsource, hdest⟩ := hlines l hl
  rw [hset]
  exact ⟨hc, fromStoreId, toStoreId, hf.set htransfer hfrom, ht.set htransfer hto,
    hk _ _ hsource, hk _ _ hdest⟩

theorem createTransfer_step {req : CreateTransfer} {transferId : ℕ} (hplaced : Placed db)
    (h : createTransfer db req = .ok (db', transferId)) : StockStep db db' ∧ Placed db' := by
  obtain ⟨transfer, lines, htransfer, hlines, rfl⟩ := createTransfer_ok h
  refine ⟨.of_eq rfl rfl rfl, hplaced.next (.of_eq rfl) (.inl rfl) (.inl rfl) (.inr ?_)
    (.inl ⟨rfl, rfl⟩)⟩
  intro l hl
  rcases List.mem_append.mp hl with hl | hl
  · obtain ⟨hc, fromStoreId, toStoreId, hf, ht, hsource, hdest⟩ := hplaced.transfers l hl
    exact ⟨hc, fromStoreId, toStoreId, hf.append _, ht.append _, hsource, hdest⟩
  · -- a line of the new transfer
    obtain ⟨⟨line, hrow⟩, ⟨p, hp, hfrom⟩, q, hq, hto⟩ := hlines l hl
    have hid : l.val.transferId = db.transfers.transfers.length := by
      rw [hrow]
      rfl
    have hnone : l.val.unitCostAtShipment = none := by
      rw [hrow]
      rfl
    refine ⟨by simp [hnone], req.fromStoreId, req.toStoreId, ?_, ?_, ⟨p, hp, hfrom⟩, q, hq, hto⟩
    · have hstore : transfer.val.fromStoreId = req.fromStoreId := by rw [htransfer]
      rw [hid, ← hstore]
      exact HasAt.last (f := fun t : Row InterStoreTransfer => t.val.fromStoreId) _ transfer
    · have hstore : transfer.val.toStoreId = req.toStoreId := by rw [htransfer]
      rw [hid, ← hstore]
      exact HasAt.last (f := fun t : Row InterStoreTransfer => t.val.toStoreId) _ transfer

theorem shipTransfer_step {req : ShipTransfer} (hs : StockInScale db.stock) (hplaced : Placed db)
    (hgrid : ∀ l ∈ req.lines, OnGrid 3 l.quantityToShip) (h : shipTransfer db req = .ok db') :
    StockStep db db' ∧ Placed db' := by
  have hstep := shipTransfer_stockStep hs hplaced.transfers hgrid h
  refine ⟨hstep, ?_⟩
  rcases shipTransfer_ok h with rfl | ⟨transfer, lines, e, shipped, -, htransfer, -, hplan, he,
    hshipped, hj⟩
  · exact hplaced
  have hplanned := (planShipment_ok hplan).2.2
  obtain ⟨heframe, hlines⟩ := shipLines_ok he (P := LinePlaced db) (fun l hl row hrow => by
      obtain ⟨p, hp, hcost⟩ := (hplanned l hl).product
      refine ⟨fun c hc => ?_, hrow.2⟩
      rw [← Option.some.inj hc, hcost]
      exact (hs p (mem_of_row hp)).cost_nonneg)
    hplaced.transfers
  have hframe := postJournalUnlessEmpty_frame hj
  refine hplaced.next hstep.storesKept (.inl ?_) (.inl ?_) (.inr ?_) (.inl ⟨?_, ?_⟩)
  · rw [hframe, heframe]
  · rw [hframe, heframe]
  · refine transfersPlaced_of_set shipped hstep.storesKept htransfer ?_ ?_ ?_ ?_
    · rw [hshipped]
    · rw [hshipped]
    · rw [hframe, heframe]
    · rw [hframe]
      exact hlines
  · rw [hframe, heframe]
    rfl
  · rw [hframe, heframe]
    rfl

theorem receiveTransfer_step {req : ReceiveTransfer} (hplaced : Placed db)
    (hgrid : ∀ l ∈ req.lines, OnGrid 3 l.quantityReceived) (h : receiveTransfer db req = .ok db') :
    StockStep db db' ∧ Placed db' := by
  have hstep := receiveTransfer_stockStep hplaced.transfers hgrid h
  refine ⟨hstep, ?_⟩
  rcases receiveTransfer_ok h with rfl | ⟨transfer, lines, d, receiptId, -, -, hw, hj⟩
  · exact hplaced
  obtain ⟨hdframe, hlines, -⟩ := writeTransferReceipt_ok hw (P := LinePlaced db)
    (fun _ _ _ _ hrow => hrow) hplaced.transfers
  have hframe := postJournalUnlessEmpty_frame hj
  have hk := hstep.storesKept
  refine hplaced.next hk (.inl ?_) (.inl ?_) (.inr fun l hl => ?_) (.inl ⟨?_, ?_⟩)
  · rw [hframe, hdframe]
  · rw [hframe, hdframe]
  · have hsame : db'.transfers.transfers = db.transfers.transfers := by rw [hframe, hdframe]
    rw [hframe] at hl
    obtain ⟨hc, fromStoreId, toStoreId, hf, ht, hsource, hdest⟩ := hlines l hl
    rw [hsame]
    exact ⟨hc, fromStoreId, toStoreId, hf, ht, hk _ _ hsource, hk _ _ hdest⟩
  · rw [hframe, hdframe]
    rfl
  · rw [hframe, hdframe]
    rfl

theorem cancelTransfer_step {req : CancelTransfer} (hplaced : Placed db)
    (h : cancelTransfer db req = .ok db') : StockStep db db' ∧ Placed db' := by
  rcases cancelTransfer_ok h with rfl | ⟨transfer, cancelled, htransfer, -, hcancelled, rfl⟩
  · exact ⟨.refl db', hplaced⟩
  have hk : StoresKept db.stock db.stock := .of_eq rfl
  refine ⟨.of_eq rfl rfl rfl, hplaced.next hk (.inl rfl) (.inl rfl) (.inr ?_) (.inl ⟨rfl, rfl⟩)⟩
  refine transfersPlaced_of_set cancelled hk htransfer ?_ ?_ rfl hplaced.transfers
  · rw [hcancelled]
  · rw [hcancelled]

end Placed

/-! ### Runs -/

/-- The products in scale, the documents placed, and the account with its stock. -/
structure InOrder (db : Db) : Prop where
  placed : Placed db
  reconciled : Reconciled db

/-- Tables with products, none of them in stock, and no history. -/
structure Db.Opening (db : Db) : Prop where
  products : ∀ p ∈ db.stock.products, p.val.InScale ∧ p.val.currentQtyOnHand = 0
  movements : db.stock.movements = []
  count_lines : db.stock.countLines = []
  entries : db.ledger.entries = []
  order_items : db.purchasing.orderItems = []
  sale_items : db.sales.items = []
  transfer_lines : db.transfers.lines = []

theorem Db.Opening.inOrder {db : Db} (h : db.Opening) : InOrder db where
  placed := {
    orders := by simp [OrdersPlaced, h.order_items]
    sales := by simp [SalesPlaced, h.sale_items]
    transfers := by simp [TransfersPlaced, h.transfer_lines]
    counts := by simp [CountsPlaced, h.count_lines] }
  reconciled := by
    refine ⟨fun p hp => (h.products p hp).1, fun storeId => ?_⟩
    have hvalue : stockValue db.stock storeId = 0 :=
      sumWhere_eq_zero _ _ fun p hp _ => by simp [Product.value, (h.products p hp).2]
    simp [hvalue, glBalance, h.entries, allowance, h.movements]

/-- **Every request is a stock step that keeps the documents placed.** -/
theorem StockRequest.run_placed {r : StockRequest} {db db' : Db} (hs : StockInScale db.stock)
    (hp : Placed db) (hr : r.AtScale) (h : r.run db = .ok db') : StockStep db db' ∧ Placed db' := by
  cases r with
  | createPurchaseOrder req =>
    obtain ⟨⟨d, i⟩, hrun, rfl⟩ := map_eq_ok.mp h
    exact createPurchaseOrder_step hp hrun
  -- a status moves no stock
  | submitPurchaseOrder req => exact setOrderStatus_step hp h
  | cancelPurchaseOrder req => exact setOrderStatus_step hp h
  | receiveGoods req =>
    obtain ⟨⟨d, i⟩, hrun, rfl⟩ := map_eq_ok.mp h
    exact receiveGoods_step hp hr hrun
  | createPurchaseReturn req =>
    obtain ⟨⟨d, i⟩, hrun, rfl⟩ := map_eq_ok.mp h
    exact createPurchaseReturn_step hs hp hr hrun
  | finalizeSale req =>
    obtain ⟨⟨d, i⟩, hrun, rfl⟩ := map_eq_ok.mp h
    exact finalizeSale_step hs hp hr hrun
  | createSaleReturn req =>
    obtain ⟨⟨d, i⟩, hrun, rfl⟩ := map_eq_ok.mp h
    exact createSaleReturn_step hp hr hrun
  -- a void returns what is left, which is at scale without being asked for
  | voidSale req =>
    obtain ⟨⟨d, i⟩, hrun, rfl⟩ := map_eq_ok.mp h
    exact voidSale_step hp hrun
  | createAdjustment req =>
    obtain ⟨⟨d, i⟩, hrun, rfl⟩ := map_eq_ok.mp h
    exact createAdjustment_step hs hp hr hrun
  | createStockCount req =>
    obtain ⟨⟨d, i⟩, hrun, rfl⟩ := map_eq_ok.mp h
    exact createStockCount_step hp hrun
  | openStockCount req => exact openStockCount_step hp h
  | recordCountEntry req => exact recordCountEntry_step hp h
  | markStockCountCounted req => exact moveStockCount_step hp h
  | reviewStockCount req => exact moveStockCount_step hp h
  | reopenStockCountForRecount req => exact moveStockCount_step hp h
  | postStockCount req => exact postStockCount_step hs hp h
  | cancelStockCount req => exact moveStockCount_step hp h
  | createTransfer req =>
    obtain ⟨⟨d, i⟩, hrun, rfl⟩ := map_eq_ok.mp h
    exact createTransfer_step hp hrun
  | shipTransfer req => exact shipTransfer_step hs hp hr h
  | receiveTransfer req => exact receiveTransfer_step hp hr h
  | cancelTransfer req => exact cancelTransfer_step hp h

/-- A commit changes nothing the reconciliation looks at. -/
theorem Reconciled.commit {db : Db} (h : Reconciled db) : Reconciled db.commit := by
  have hproducts := commit_products h.scale
  have hvalue : ∀ s, stockValue db.commit.stock s = stockValue db.stock s := fun s => by
    rw [stockValue, hproducts, stockValue]
  refine ⟨fun p hp => h.scale p (hproducts ▸ hp), fun s => ?_⟩
  rw [hvalue]
  exact h.agrees s

/-- **Every request, committed, leaves the books in order.** -/
theorem InOrder.exec {r : StockRequest} {db db' : Db} (hdb : InOrder db) (hr : r.AtScale)
    (h : r.exec db = .ok db') : InOrder db' := by
  obtain ⟨d, hrun, rfl⟩ := map_eq_ok.mp h
  obtain ⟨hstep, hplaced⟩ := StockRequest.run_placed hdb.reconciled.scale hdb.placed hr hrun
  exact ⟨hplaced.commit, (hstep.reconciled hdb.reconciled).commit⟩

/-- The tables of every run are in order. -/
theorem inOrder_of_reaches {db₀ db : Db} (hopen : db₀.Opening)
    (h : Reaches StockRequest.exec (fun _ r => r.AtScale) db₀ db) : InOrder db :=
  h.invariant hopen.inOrder fun _ _ _ hs hr hdone => hs.exec hr hdone

/-- **The Inventory account stays with the stock**: over any run of requests from tables
without history, in every store, they differ at most by half a ledger quantum for each
amount posted and half a ledger quantum per unit on hand for each new average cost. -/
theorem inventory_within_allowance {db₀ db : Db} (hopen : db₀.Opening)
    (h : Reaches StockRequest.exec (fun _ r => r.AtScale) db₀ db) (storeId : ℕ) :
    |glBalance db storeId .inventory - stockValue db.stock storeId|
      ≤ allowance db.stock storeId :=
  (inOrder_of_reaches hopen h).reconciled.agrees storeId

/-! ### A run -/

/-- A greengrocer with one supplier and one product, none of it in stock. -/
def greengrocer : Db where
  master := { stores := [⟨true, none⟩], suppliers := [⟨true, none⟩] }
  stock := {
    products := [⟨{
      storeId := 0, sku := "APPLE", categoryId := none, currentPrice := 2, currentCost := 0
      taxRateId := none, currentQtyOnHand := 0, allowNegativeStock := false, isActive := true },
      by decide +kernel⟩] }

/-- Ten apples are ordered, at one apiece. -/
def orderApples : CreatePurchaseOrder where
  storeId := 0
  supplierId := 0
  orderDate := 0
  lines := [{ productId := 0, quantityOrdered := 10, unitCost := 1 }]
  clientTransactionId := "order-1"
  callerStoreId := none

/-- A delivery on the order, of some quantity at some cost. -/
def deliverApples (quantityReceived unitCost : ℚ) (clientTransactionId : String) :
    ReceiveGoods where
  purchaseOrderId := 0
  receivedDate := 0
  lines := [{ purchaseOrderItemId := 0, quantityReceived, unitCost }]
  clientTransactionId := clientTransactionId
  callerStoreId := none

/-- One apple is sold for cash, at the first till. -/
def sellApple : FinalizeSale where
  storeId := 0
  cashierId := 0
  clientTransactionId := "till-1"
  callerStoreId := none
  lines := [{ productId := 0, quantity := 1 }]
  payments := [⟨.cash, 2⟩]
  today := 0

def applesOrdered : Db :=
  value (StockRequest.exec (.createPurchaseOrder orderApples) greengrocer) (by decide +kernel)

def applesSubmitted : Db :=
  value (StockRequest.exec (.submitPurchaseOrder ⟨0, none⟩) applesOrdered) (by decide +kernel)

def applesDelivered : Db :=
  value (StockRequest.exec (.receiveGoods (deliverApples 7 1 "receipt-1")) applesSubmitted)
    (by decide +kernel)

def moreApplesDelivered : Db :=
  value (StockRequest.exec (.receiveGoods (deliverApples 2 2 "receipt-2")) applesDelivered)
    (by decide +kernel)

def appleSold : Db :=
  value (StockRequest.exec (.finalizeSale sellApple) moreApplesDelivered) (by decide +kernel)

/-- Seven apples at 1 and two at 2, at an average cost of 1.222222; then one is sold. -/
theorem inventory_within_allowance_apples :
    |glBalance appleSold 0 .inventory - stockValue appleSold.stock 0|
      ≤ allowance appleSold.stock 0 := by
  have hopen : greengrocer.Opening := by
    refine ⟨fun p hp => ?_, rfl, rfl, rfl, rfl, rfl, rfl⟩
    obtain rfl := List.mem_singleton.mp hp
    exact ⟨⟨rfl, onGrid_zero 3, le_rfl, onGrid_zero 6, le_rfl⟩, rfl⟩
  refine inventory_within_allowance hopen ?_ 0
  refine .next (.next (.next (.next (.next .start ?_ (eq_ok_value _ _)) ?_ (eq_ok_value _ _)) ?_
    (eq_ok_value _ _)) ?_ (eq_ok_value _ _)) ?_ (eq_ok_value _ _)
  · trivial
  · trivial
  · show ∀ l ∈ (deliverApples 7 1 "receipt-1").lines, OnGrid 3 l.quantityReceived
    decide +kernel
  · show ∀ l ∈ (deliverApples 2 2 "receipt-2").lines, OnGrid 3 l.quantityReceived
    decide +kernel
  · show ∀ l ∈ sellApple.lines, OnGrid 3 l.quantity
    decide +kernel

end GroceryErp
