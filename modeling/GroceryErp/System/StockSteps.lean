import GroceryErp.System.Placement

/-!
# Every request is a stock step

The requests that move stock, one by one: their bookings are sound, and what they post
to the Inventory account is the value of those bookings, rounded amount by amount.

## Main results

* `finalizeSale_stockStep`, `createSaleReturn_stockStep`, `receiveGoods_stockStep`,
  `createPurchaseReturn_stockStep`, `createAdjustment_stockStep`,
  `postStockCount_stockStep`, `shipTransfer_stockStep`, `receiveTransfer_stockStep`.
-/

namespace GroceryErp

open Decimal Ledger Outcome Rows

variable {db db' d : Db}

/-! ### Values of loops -/

theorem ledgerQuantize_neg (x : ℚ) : ledgerQuantize (-x) = -ledgerQuantize x := quantize_neg 6 x

/-- The outflows of a list of lines are worth less than nothing by its value. -/
theorem sum_outflows {α : Type} (l : List α) (f : α → ℚ × ℚ) :
    (l.map fun a => ledgerQuantize (-(f a).1 * (f a).2)).sum = -valueOfLines (l.map f) := by
  induction l with
  | nil => simp
  | cons a l ih =>
    rw [List.map_cons, List.sum_cons, ih, neg_mul, ledgerQuantize_neg]
    simp only [valueOfLines, List.map_cons, List.sum_cons]
    ring

/-! ### Sales -/

/-- What a checkout has found of a priced line. -/
theorem product_of_checkout {req : FinalizeSale} {cart : PricedCart} {changeDue : ℚ}
    (h : checkout db req = .ok (cart, changeDue)) : ∀ c ∈ cart.computed, 0 < c.quantity ∧
      (∃ line ∈ req.lines, line.quantity = c.quantity) ∧
      ∃ p, db.stock.products[c.productId]? = some p ∧ p.val.storeId = req.storeId ∧
        p.val.currentCost = c.unitCost := by
  intro c hc
  obtain ⟨line, hline, hpos, hprice⟩ := exists_line_of_checkout h c hc
  obtain ⟨hcart, -⟩ := checkout_ok h
  obtain ⟨hproducts, -, -⟩ := priceCart_ok hcart
  obtain ⟨p, hp, hstore⟩ := checkCartProducts_ok hproducts line hline
  obtain ⟨p', _, _, hp', -, -, rfl⟩ := priceLine_eq_ok.mp hprice
  obtain rfl := Option.some.inj (hp.symm.trans hp')
  exact ⟨hpos, ⟨line, hline, rfl⟩, p, hp, hstore, rfl⟩

/-- **A sale is a stock step.** -/
theorem finalizeSale_stockStep {req : FinalizeSale} {saleId : ℕ} (hs : StockInScale db.stock)
    (hgrid : ∀ l ∈ req.lines, OnGrid 3 l.quantity)
    (h : finalizeSale db req = .ok (db', saleId)) : StockStep db db' := by
  rcases finalizeSale_ok h with ⟨-, -, rfl⟩ | ⟨-, cart, changeDue, d, hc, hw, hj⟩
  · exact .refl db'
  have hlines := product_of_checkout hc
  obtain ⟨bss, hbss, hrun⟩ := bookedAll_of_writeSale hw
  obtain ⟨-, _, sale, items, payments, -, -, -, hd⟩ := writeSale_ok hw
  have hnonneg : 0 ≤ valueOfLines cart.costed := by
    refine valueOfLines_nonneg fun l hl => ?_
    obtain ⟨c, hcmem, rfl⟩ := List.mem_map.mp hl
    obtain ⟨hpos, -, p, hp, -, hcost⟩ := hlines c hcmem
    exact ⟨hpos.le, hcost ▸ (hs p (mem_of_row hp)).cost_nonneg⟩
  have hstock : db'.stock = d.stock := by
    obtain ⟨-, -, -, entry, -, rfl⟩ := postJournal_eq_ok.mp hj
    rfl
  refine ⟨bss.flatten, hstock ▸ hrun, ?_, fun s => ?_⟩
  · refine sound_of_atCost hrun hbss fun c hcmem => ?_
    obtain ⟨-, ⟨line, hline, hqty⟩, p, hp, hstore, hcost⟩ := hlines c hcmem
    exact ⟨(hqty ▸ hgrid line hline).neg, rfl, rfl, p, hp, hstore, hcost⟩
  · have hposted : postedValue bss.flatten s = if req.storeId = s then
        (cart.computed.map fun c => ledgerQuantize (-c.quantity * c.unitCost)).sum else 0 :=
      postedValue_flatten hbss fun c _ bs hb => hb.postedValue (fun _ => rfl) fun _ => rfl
    have hgl : glBalance d s .inventory = glBalance db s .inventory :=
      glBalance_congr (by rw [hd]) s _
    rw [hposted, glBalance_postJournal hj, net_inventory_saleJournalLines hnonneg, hgl,
      sum_outflows cart.computed fun c => (c.quantity, c.unitCost)]
    rfl

/-! ### Returns of sales -/

/-- Posting a return leaves the stock. -/
theorem stock_of_postJournalUnlessEmpty {storeId sourceId : ℕ} {date : Date}
    {sourceType : SourceType} {lines : List JournalLine}
    (h : postJournalUnlessEmpty d storeId date sourceType sourceId lines = .ok db') :
    db'.stock = d.stock := by
  rw [postJournalUnlessEmpty_frame h]

/-- **A return of a sale is a stock step.** -/
theorem createSaleReturn_stockStep {req : CreateSaleReturn} {saleReturnId : ℕ}
    (hplaced : SalesPlaced db.stock db.sales) (hgrid : ∀ l ∈ req.lines, OnGrid 3 l.quantity)
    (h : createSaleReturn db req = .ok (db', saleReturnId)) : StockStep db db' := by
  rcases createSaleReturn_ok h with ⟨-, rfl⟩ | ⟨-, sale, lines, _, _, d, hplan, -, -, hw, hj⟩
  · exact .refl db'
  obtain ⟨hsale, hstore, -, -, hplanned⟩ := planReturn_ok hplan
  obtain ⟨-, _, _, _, e, -, -, he, rfl⟩ := writeReturn_ok hw
  obtain ⟨bss, hbss, hrun⟩ := bookedAll_of_foldlM
    (fun l => ReturnLine.Books l req.storeId saleReturnId) he
    fun l _ _ _ hl => bookedAll_of_addReturnLine hl
  have hentries : e.ledger.entries = db.ledger.entries := by
    obtain ⟨t, ht⟩ := addReturnLines_frame he
    rw [ht]
  have hpos : ∀ l ∈ lines, 0 < l.quantity := fun l hl => (hplanned l hl).quantity_pos
  refine ⟨bss.flatten, stock_of_postJournalUnlessEmpty hj ▸ hrun, ?_, fun s => ?_⟩
  -- a returned unit comes back at the cost it was sold at
  · refine sound_of_atNewCost hrun hbss fun l hl _ => ?_
    have hp := hplanned l hl
    obtain ⟨-, -, storeId, hat, p, hproduct, hpstore⟩ :=
      hplaced l.item (mem_of_row hp.loaded)
    rw [hp.of_sale] at hat
    have hid : storeId = req.storeId := by rw [← hat.eq_of_row hsale, hstore]
    have hqty : OnGrid 3 l.quantity := hp.quantity_eq ▸ onGrid_requestedQty hgrid _
    exact ⟨fun _ => ⟨hqty, hp.quantity_pos⟩, fun _ => rfl, fun _ => l.item.property.cost_nonneg,
      fun _ => rfl, p, hproduct, fun _ => (hpstore.trans hid).symm⟩
  · have hposted : postedValue bss.flatten s = if req.storeId = s then
        (lines.map fun l => if l.restock then
          ledgerQuantize (l.quantity * l.item.val.unitCostAtSale) else 0).sum else 0 := by
      refine postedValue_flatten hbss fun l _ bs hb => ?_
      -- what is not restocked is booked nowhere, and posted nowhere
      rcases hb with ⟨hrestock, hone⟩ | ⟨hno, rfl⟩
      · rw [if_pos hrestock]
        exact hone.postedValue (fun _ => rfl) fun _ => rfl
      · simp [postedValue, hno]
    have hgl := glBalance_postJournalUnlessEmpty hj s .inventory
    rw [net_inventory_saleReturnJournalLines (restockedValue_nonneg hpos)] at hgl
    rw [hposted, hgl, restockedValue_eq]
    simp only [glBalance, hentries]

/-! ### Purchasing -/

/-- **A goods receipt is a stock step.** -/
theorem receiveGoods_stockStep {req : ReceiveGoods} {goodsReceiptId : ℕ}
    (hplaced : OrdersPlaced db.stock db.purchasing)
    (hgrid : ∀ l ∈ req.lines, OnGrid 3 l.quantityReceived)
    (h : receiveGoods db req = .ok (db', goodsReceiptId)) : StockStep db db' := by
  rcases receiveGoods_ok h with rfl | ⟨order, lines, d, hplan, hw, hj⟩
  · exact .refl db'
  obtain ⟨horder, -, hplanned⟩ := planReceipt_ok hplan
  obtain ⟨bss, hbss, hrun⟩ := bookedAll_of_writeReceipt hw
  obtain ⟨-, _, _, _, _, -, -, -, -, -, hd⟩ := writeReceipt_ok hw
  have hnonneg : 0 ≤ valueOfLines (receivedLines lines) := by
    refine valueOfLines_nonneg fun x hx => ?_
    obtain ⟨l, hl, rfl⟩ := List.mem_map.mp hx
    exact ⟨(hplanned l hl).quantity_pos.le, (hplanned l hl).unit_cost_nonneg⟩
  refine ⟨bss.flatten, stock_of_postJournalUnlessEmpty hj ▸ hrun, ?_, fun s => ?_⟩
  -- units come in at the cost of their line
  · refine sound_of_all_atNewCost hrun hbss fun l hl => ?_
    have hp := hplanned l hl
    obtain ⟨line, hline, hqty, -⟩ := hp.requested
    obtain ⟨storeId, hat, p, hproduct, hpstore⟩ := hplaced l.item (mem_of_row hp.loaded)
    rw [hp.order] at hat
    have hid : storeId = order.storeId := (hat.eq_of_row horder).symm
    have hline : OnGrid 3 l.quantityReceived := hqty ▸ hgrid line hline
    exact ⟨fun _ => ⟨hline, hp.quantity_pos⟩, fun _ => rfl,
      fun _ => hp.unit_cost_nonneg, fun _ => rfl, p, hproduct, fun _ => (hpstore.trans hid).symm⟩
  · have hposted : postedValue bss.flatten s = if order.storeId = s then
        (lines.map fun l => ledgerQuantize (l.quantityReceived * l.unitCost)).sum else 0 :=
      postedValue_flatten hbss fun l _ bs hb => hb.postedValue (fun _ => rfl) fun _ => rfl
    -- the receipt has posted nothing before its entry
    have hgl : glBalance d s .inventory = glBalance db s .inventory :=
      glBalance_congr (by rw [hd]) s _
    rw [hposted, glBalance_postPair hj hnonneg (onGrid_valueOfLines _), hgl,
      sum_inflows lines fun l => (l.quantityReceived, l.unitCost)]
    simp [receivedLines]

/-- **A return to a supplier is a stock step.** -/
theorem createPurchaseReturn_stockStep {req : CreatePurchaseReturn} {purchaseReturnId : ℕ}
    (hs : StockInScale db.stock) (hgrid : ∀ l ∈ req.lines, OnGrid 3 l.quantity)
    (h : createPurchaseReturn db req = .ok (db', purchaseReturnId)) : StockStep db db' := by
  rcases createPurchaseReturn_ok h with rfl | ⟨lines, d, hplan, hw, hj⟩
  · exact .refl db'
  obtain ⟨-, hplanned⟩ := planPurchaseReturn_ok hplan
  obtain ⟨bss, hbss, hrun⟩ := bookedAll_of_writePurchaseReturn hw
  obtain ⟨-, _, -, hd⟩ := writePurchaseReturn_ok hw
  have hnonneg : 0 ≤ valueOfLines (returnedLines lines) := by
    refine valueOfLines_nonneg fun x hx => ?_
    obtain ⟨l, hl, rfl⟩ := List.mem_map.mp hx
    obtain ⟨p, hp, -, hcost⟩ := (hplanned l hl).product
    exact ⟨(hplanned l hl).quantity_pos.le, hcost ▸ (hs p (mem_of_row hp)).cost_nonneg⟩
  refine ⟨bss.flatten, stock_of_postJournalUnlessEmpty hj ▸ hrun, ?_, fun s => ?_⟩
  · refine sound_of_atCost hrun hbss fun l hl => ?_
    obtain ⟨line, hline, hqty⟩ := (hplanned l hl).requested
    obtain ⟨p, hp, hstore, hcost⟩ := (hplanned l hl).product
    exact ⟨(hqty ▸ hgrid line hline).neg, rfl, rfl, p, hp, hstore, hcost.symm⟩
  · have hposted : postedValue bss.flatten s = if req.storeId = s then
        (lines.map fun l => ledgerQuantize (-l.quantity * l.unitCost)).sum else 0 :=
      postedValue_flatten hbss fun l _ bs hb => hb.postedValue (fun _ => rfl) fun _ => rfl
    have hgl : glBalance d s .inventory = glBalance db s .inventory :=
      glBalance_congr (by rw [hd]) s _
    rw [hposted, glBalance_postPair hj hnonneg (onGrid_valueOfLines _), hgl,
      sum_outflows lines fun l => (l.quantity, l.unitCost)]
    simp [returnedLines]

/-! ### Adjustments and counts -/

/-- **An adjustment is a stock step.** -/
theorem createStockAdjustment_stockStep {a : StockAdjustmentInput} {adjustmentId : ℕ}
    (hs : StockInScale db.stock) (hgrid : OnGrid 3 a.quantityDelta)
    (hstore : ProductAt db.stock a.productId a.storeId)
    (h : createStockAdjustment db a = .ok (db', adjustmentId)) : StockStep db db' := by
  rcases createStockAdjustment_ok h with rfl | h
  · exact .refl db'
  obtain ⟨adjustment, p, d, hp, hm, hj⟩ := writeAdjustment_ok h
  obtain ⟨q, hq, hb⟩ := exists_booked hm
  obtain rfl : p = q := Option.some.inj (hp.symm.trans hq)
  have hrun : BookedAll [⟨a.productId, p.val, a.movement db.stock.adjustments.length p.val⟩]
      db.stock d.stock := (BookedAll.single hb).congr_left rfl rfl
  have hstock : db'.stock = d.stock := by rw [postStockAdjustmentJournal_frame hj]
  refine ⟨_, hstock ▸ hrun, ?_, fun s => ?_⟩
  · intro b hb
    obtain rfl := List.mem_singleton.mp hb
    refine ⟨(hstore.eq_of_row hp).symm, hgrid, .inl ⟨?_, rfl, rfl⟩⟩
    show MovementType.recomputesWac (if 0 < a.quantityDelta then .stockAdjustmentIn
      else .stockAdjustmentOut) = false
    split <;> rfl
  · have hgl : glBalance d s .inventory = glBalance db s .inventory :=
      glBalance_congr (by rw [recordMovement_frame hm]) s _
    rw [glBalance_postStockAdjustmentJournal hj (hs p (mem_of_row hp)).cost_nonneg, hgl,
      postedValue, sumWhere_singleton]
    rfl

theorem createAdjustment_stockStep {req : CreateAdjustment} {adjustmentId : ℕ}
    (hs : StockInScale db.stock) (hgrid : OnGrid 3 req.quantityDelta)
    (h : createAdjustment db req = .ok (db', adjustmentId)) : StockStep db db' := by
  obtain ⟨p, hp, h⟩ := createAdjustment_ok h
  have hstore : ProductAt db.stock req.productId p.val.storeId := HasAt.of_row hp
  refine createStockAdjustment_stockStep hs ?_ ?_ h
  · exact hgrid
  · exact hstore

/-- **Posting a count is a stock step**, one adjustment after the other. -/
theorem postStockCount_stockStep {req : PostStockCount} (hs : StockInScale db.stock)
    (hplaced : CountsPlaced db.stock) (h : postStockCount db req = .ok db') :
    StockStep db db' := by
  rcases postStockCount_ok h with rfl | ⟨count, lines, d, hcount, hlines, -, hd, rfl⟩
  · exact .refl db'
  have hloop : StockStep db d := by
    refine foldlM_induct (fun _ t => StockStep db t) hd (.refl db) ?_
    rintro done line rest t t' rfl ht hstep
    rcases postCountLine_ok hstep with rfl | ⟨p, counted, i, hp, hcounted, hadjust⟩
    · exact ht
    obtain ⟨hmem, hof⟩ := hlines line (by simp)
    obtain ⟨hgrid, storeId, hat, hproduct⟩ := hplaced line hmem
    rw [hof] at hat
    have hid : storeId = count.storeId := (hat.eq_of_row hcount).symm
    have hscale := ht.inScale hs
    refine ht.trans (createStockAdjustment_stockStep hscale ?_ ?_ hadjust)
    · exact (hgrid counted hcounted).sub (hscale p (mem_of_row hp)).quantity
    · have hp' : ProductAt db.stock line.val.productId count.storeId := hid ▸ hproduct
      exact ht.storesKept _ _ hp'
  exact hloop.trans (.of_eq rfl rfl rfl)

/-! ### Transfers -/

/-- **A shipment is a stock step.** -/
theorem shipTransfer_stockStep {req : ShipTransfer} (hs : StockInScale db.stock)
    (hplaced : TransfersPlaced db.stock db.transfers)
    (hgrid : ∀ l ∈ req.lines, OnGrid 3 l.quantityToShip) (h : shipTransfer db req = .ok db') :
    StockStep db db' := by
  rcases shipTransfer_ok h with rfl | ⟨transfer, lines, e, shipped, -, htransfer, hpos, hplan, he, -,
    hj⟩
  · exact .refl db'
  have hplanned := (planShipment_ok hplan).2.2
  obtain ⟨bss, hbss, hrun⟩ := bookedAll_of_shipLines he
  obtain ⟨hframe, -⟩ := @shipLines_ok _ _ _ _ _ (fun _ => True) he (fun _ _ _ _ => trivial)
    fun _ _ => trivial
  have hnonneg : 0 ≤ valueOfLines (shippedLines lines) := by
    refine valueOfLines_nonneg fun x hx => ?_
    obtain ⟨l, hl, rfl⟩ := List.mem_map.mp hx
    obtain ⟨line, hline, hqty⟩ := (hplanned l hl).requested
    obtain ⟨p, hp, hcost⟩ := (hplanned l hl).product
    exact ⟨hqty ▸ (hpos line hline).le, hcost ▸ (hs p (mem_of_row hp)).cost_nonneg⟩
  refine ⟨bss.flatten, stock_of_postJournalUnlessEmpty hj ▸ hrun, ?_, fun s => ?_⟩
  -- units leave at the cost that the product has when they are locked
  · refine sound_of_atCost hrun hbss fun l hl => ?_
    obtain ⟨line, hline, hqty⟩ := (hplanned l hl).requested
    obtain ⟨row, hrow, hid, hsource⟩ := (hplanned l hl).line
    obtain ⟨p, hp, hcost⟩ := (hplanned l hl).product
    obtain ⟨-, fromStoreId, _, hfrom, -, hproduct, -⟩ := hplaced row (mem_of_row hrow)
    rw [hid] at hfrom
    rw [hsource] at hproduct
    -- the line names a product of the store that ships
    have hstore : p.val.storeId = transfer.val.fromStoreId := by
      rw [hproduct.eq_of_row hp, ← hfrom.eq_of_row htransfer]
    exact ⟨(hqty ▸ hgrid line hline : OnGrid 3 l.quantity).neg, rfl, rfl, p, hp, hstore,
      hcost.symm⟩
  · have hposted : postedValue bss.flatten s = if transfer.val.fromStoreId = s then
        (lines.map fun l => ledgerQuantize (-l.quantity * l.unitCost)).sum else 0 :=
      postedValue_flatten hbss fun l _ bs hb => hb.postedValue (fun _ => rfl) fun _ => rfl
    have hgl := glBalance_postPair hj hnonneg (onGrid_valueOfLines _) s .inventory
    rw [hposted, hgl, sum_outflows lines fun l => (l.quantity, l.unitCost)]
    have hentries : e.ledger.entries = db.ledger.entries := by rw [hframe]
    simp [shippedLines, glBalance, hentries]

/-- **A receipt of a transfer is a stock step.** -/
theorem receiveTransfer_stockStep {req : ReceiveTransfer}
    (hplaced : TransfersPlaced db.stock db.transfers)
    (hgrid : ∀ l ∈ req.lines, OnGrid 3 l.quantityReceived)
    (h : receiveTransfer db req = .ok db') : StockStep db db' := by
  rcases receiveTransfer_ok h with rfl | ⟨transfer, lines, d, receiptId, htransfer, hplan, hw, hj⟩
  · exact .refl db'
  have hplanned := planTransferReceipt_ok hplan
  obtain ⟨hframe, -, bss, hbss, hrun⟩ := @writeTransferReceipt_ok _ _ _ _ _ _ (fun _ => True) hw
    (fun _ _ _ _ _ => trivial) fun _ _ => trivial
  have hcosts : ∀ l ∈ lines, 0 ≤ l.unitCost := by
    intro l hl
    obtain ⟨row, hrow, -, -, hcost⟩ := (hplanned l hl).line
    exact (hplaced row (mem_of_row hrow)).1 _ hcost
  have hnonneg : 0 ≤ valueOfLines (receivedGoods lines) := by
    refine valueOfLines_nonneg fun x hx => ?_
    -- only what was received in good order comes into stock
    obtain ⟨l, hl, rfl⟩ := List.mem_map.mp hx
    obtain ⟨hmem, hpos⟩ := List.mem_filter.mp hl
    exact ⟨(of_decide_eq_true hpos).le, hcosts l hmem⟩
  refine ⟨bss.flatten, stock_of_postJournalUnlessEmpty hj ▸ hrun, ?_, fun s => ?_⟩
  · refine sound_of_atNewCost hrun hbss fun l hl hpos => ?_
    obtain ⟨row, hrow, hid, hdest, -⟩ := (hplanned l hl).line
    obtain ⟨-, _, toStoreId, -, hto, -, p, hp, hpstore⟩ := hplaced row (mem_of_row hrow)
    rw [hid] at hto
    have hstore : toStoreId = transfer.val.toStoreId := (hto.eq_of_row htransfer).symm
    have hqty := hgrid l.input (hplanned l hl).requested
    exact ⟨fun _ => ⟨hqty, hpos⟩, fun _ => rfl, fun _ => hcosts l hl, fun _ => rfl,
      p, hdest ▸ hp, fun _ => (hpstore.trans hstore).symm⟩
  · have hposted : postedValue bss.flatten s = if transfer.val.toStoreId = s then
        (lines.map fun l => if 0 < l.input.quantityReceived then
          ledgerQuantize (l.input.quantityReceived * l.unitCost) else 0).sum else 0 := by
      refine postedValue_flatten hbss fun l _ bs hb => ?_
      rcases hb with ⟨hpos, hone⟩ | ⟨hno, rfl⟩
      · rw [if_pos hpos]
        exact hone.postedValue (fun _ => rfl) fun _ => rfl
      · simp [postedValue, hno]
    have hgl : glBalance d s .inventory = glBalance db s .inventory :=
      glBalance_congr (by rw [hframe]) s _
    rw [hposted, glBalance_postPair hj hnonneg (onGrid_valueOfLines _), hgl,
      sum_picked lines (fun l => 0 < l.input.quantityReceived)
        fun l => (l.input.quantityReceived, l.unitCost)]
    simp [receivedGoods]

end GroceryErp
