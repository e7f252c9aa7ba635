import GroceryErp.Lib.Tallies
import GroceryErp.Sales.Replays
import GroceryErp.System.Orders
import GroceryErp.Transfers.InTransitReport

/-!
# What the documents say of the stock

Stock comes and goes with receipts and returns, sales, adjustments and transfers, and each of them
has rows that say how much of what.  Every request adds to these rows what it moves.

## Main definitions

* `documented` — what the documents say is on hand of a product.
* `documentTally`, `stockTally` — the documents and the products, as tallies.
* `Documented` — a request that documents what it moves.

## Main results

* `receiveGoods_documented`, `createPurchaseReturn_documented`, `finalizeSale_documented`,
  `createSaleReturn_documented`, `createStockAdjustment_documented`, `postStockCount_documented`,
  `shipTransfer_documented`, `receiveTransfer_documented` — the requests that move stock.

## References

`backend/app/modules/inventory/service.py`, `purchasing/service.py`, `sales/service.py`,
`transfers/service.py`.
-/

namespace GroceryErp

open Tallies Decimal Outcome Rows

/-! ### Documents -/

/-- The products of the order items. -/
def orderedProducts (t : PurchasingTables) : List ℕ := t.orderItems.map (·.val.productId)

/-- The products of the sale items. -/
def soldProducts (t : SalesTables) : List ℕ := t.items.map (·.val.productId)

/-- The products that the transfer lines go to. -/
def destinationProducts (t : TransferTables) : List ℕ := t.lines.map (·.val.destinationProductId)

/-- What has been delivered of a product. -/
def deliveredQuantity (t : PurchasingTables) (productId : ℕ) : ℚ :=
  sumJoined (orderedProducts t) (·.val.purchaseOrderItemId) (·.val.quantityReceived) productId
    t.receiptItems

/-- What has gone back to the suppliers. -/
def sentBackQuantity (t : PurchasingTables) (productId : ℕ) : ℚ :=
  sumWhere (·.val.productId = productId) (·.val.quantity) t.returnItems

/-- What has been sold of a product, over all sales. -/
def soldQuantity (t : SalesTables) (productId : ℕ) : ℚ :=
  sumWhere (·.val.productId = productId) (·.val.quantity) t.items

/-- What a return item has put back on the shelf. -/
def SaleReturnItem.restocked (r : SaleReturnItem) : ℚ := if r.restock then r.quantity else 0

/-- What customers have brought back for the shelf. -/
def restockedQuantity (t : SalesTables) (productId : ℕ) : ℚ :=
  sumJoined (soldProducts t) (·.val.saleItemId) (·.val.restocked) productId t.returnItems

/-- What adjustments have come to, those of counts among them. -/
def adjustedQuantity (s : StockTables) (productId : ℕ) : ℚ :=
  sumWhere (·.val.productId = productId) (·.val.quantityDelta) s.adjustments

/-- What has left for other stores. -/
def shippedOutQuantity (t : TransferTables) (productId : ℕ) : ℚ :=
  sumWhere (·.val.sourceProductId = productId) (·.val.shippedQuantity) t.lines

/-- What has come in from other stores. -/
def takenInQuantity (t : TransferTables) (productId : ℕ) : ℚ :=
  sumJoined (destinationProducts t) (·.val.interStoreTransferLineId) (·.val.quantityReceived)
    productId t.receiptItems

/-- What the documents say is on hand of a product. -/
def documented (db : Db) (productId : ℕ) : ℚ :=
  deliveredQuantity db.purchasing productId - sentBackQuantity db.purchasing productId
    + (restockedQuantity db.sales productId - soldQuantity db.sales productId)
    + (adjustedQuantity db.stock productId
      + (takenInQuantity db.transfers productId - shippedOutQuantity db.transfers productId))

/-! ### Tallies -/

/-- Receipts and returns; a receipt is of an order item. -/
def purchasingTally : Tally PurchasingTables ℕ ℚ where
  Kept t := RefersIn (orderedProducts t) (·.val.purchaseOrderItemId) t.receiptItems
  total t i := deliveredQuantity t i - sentBackQuantity t i

/-- Sales and what comes back; a return is of a sale item. -/
def salesTally : Tally SalesTables ℕ ℚ where
  Kept t := RefersIn (soldProducts t) (·.val.saleItemId) t.returnItems
  total t i := restockedQuantity t i - soldQuantity t i

def adjustmentTally : Tally StockTables ℕ ℚ where
  Kept _ := True
  total := adjustedQuantity

/-- Transfers; a receipt is of a transfer line, and nothing of a line is shipped before its
transfer is. -/
def transferTally : Tally TransferTables ℕ ℚ where
  Kept t := RefersIn (destinationProducts t) (·.val.interStoreTransferLineId) t.receiptItems ∧
    CostedOnceShipped t ∧ ∀ l ∈ t.lines, OnGrid 3 l.val.shippedQuantity
  total t i := takenInQuantity t i - shippedOutQuantity t i

/-- All documents together: orders, sales, adjustments and transfers, each by what it says of a
product. -/
def documentTally : Tally Db ℕ ℚ :=
  ((purchasingTally.on Db.purchasing).both (salesTally.on Db.sales)).both
    ((adjustmentTally.on Db.stock).both (transferTally.on Db.transfers))

/-- What is on hand, as the movements of the product add up to it. -/
def stockTally : Tally Db ℕ ℚ where
  Kept db := StockInScale db.stock
  total := bookQuantity

/-! ### Movements -/

/-- What bookings move of a product, over all of them that name it. -/
def movedBy (bs : List Booking) (productId : ℕ) : ℚ :=
  sumWhere (·.productId = productId) (·.input.quantityDelta) bs

section Moved

variable {db db' : Db} {bs : List Booking} {α : Type}

/-- Where some of the lines book one movement each and the others none, what is moved is what
those lines move. -/
theorem movedBy_picked {P : α → Prop} [DecidablePred P] {productId : α → ℕ}
    {m : α → Product → MovementInput} {q : α → ℚ} {l : List α} {bss : List (List Booking)}
    (h : List.Forall₂ (fun a bs => (P a ∧ BooksOne (productId a) (m a) bs) ∨ (¬P a ∧ bs = [])) l bss)
    (hq : ∀ a p, (m a p).quantityDelta = q a) (i : ℕ) :
    movedBy bss.flatten i
      = sumWhere (fun a => productId a = i) (fun a => if P a then q a else 0) l := by
  unfold movedBy
  induction h with
  | nil => simp
  | cons first _ ih =>
    rw [List.flatten_cons, sumWhere_append, ih, sumWhere_cons]
    congr 1
    rcases first with ⟨hP, b, rfl, hid, hinput⟩ | ⟨hP, rfl⟩
    · rw [sumWhere_singleton, hid, hinput, hq, if_pos hP]
    · rw [if_neg hP, ite_self, sumWhere_nil]

/-- Where every line books one movement, what is moved is what the lines move. -/
theorem movedBy_booksOne {productId : α → ℕ} {m : α → Product → MovementInput} {q : α → ℚ}
    {l : List α} {bss : List (List Booking)}
    (h : List.Forall₂ (fun a => BooksOne (productId a) (m a)) l bss)
    (hq : ∀ a p, (m a p).quantityDelta = q a) (i : ℕ) :
    movedBy bss.flatten i = sumWhere (fun a => productId a = i) q l := by
  have hall : List.Forall₂ (fun a bs => (True ∧ BooksOne (productId a) (m a) bs) ∨
      (¬True ∧ bs = [])) l bss := h.imp fun a bs hbs => .inl ⟨trivial, hbs⟩
  rw [movedBy_picked hall hq]
  simp only [if_true]

/-- What is on hand changes by what is moved. -/
theorem BookedAll.bookQuantity (h : BookedAll bs db.stock db'.stock) (i : ℕ) :
    bookQuantity db' i = bookQuantity db i + movedBy bs i := by
  have haux : ∀ {bs s t}, BookedAll bs s t → ∀ i,
      (t.products[i]?).elim 0 (·.val.currentQtyOnHand)
        = (s.products[i]?).elim 0 (·.val.currentQtyOnHand) + movedBy bs i := by
    intro bs s t h i
    unfold movedBy
    induction h with
    | nil products _ => rw [products, sumWhere_nil, add_zero]
    | @cons b bs s t u first _ ih =>
      obtain ⟨-, p, p', row, hp, hbefore, hafter, -, hproducts, -⟩ := first
      rw [ih, hproducts, getElem?_set_of_some hp, sumWhere_cons]
      by_cases hi : b.productId = i
      · subst hi
        have hqty : p'.val.currentQtyOnHand
            = p.val.currentQtyOnHand + b.input.quantityDelta := by
          rw [hafter, hbefore]
          rfl
        simp [hp, hqty, add_assoc]
      · rw [if_neg hi, if_neg hi, zero_add]
  exact haux h i

/-- A request that documents what it moves. -/
def Documented (db db' : Db) : Prop :=
  ∃ bs, BookedAll bs db.stock db'.stock ∧ documentTally.Adds db db' (movedBy bs)

/-- Movements, and what is added to the documents of each kind. -/
theorem documented_of_adds {δ ε ζ η : ℕ → ℚ} (hbs : BookedAll bs db.stock db'.stock)
    (hpurchasing : purchasingTally.Adds db.purchasing db'.purchasing δ)
    (hsales : salesTally.Adds db.sales db'.sales ε)
    (hadjustments : adjustmentTally.Adds db.stock db'.stock ζ)
    (htransfers : transferTally.Adds db.transfers db'.transfers η)
    (hmoved : ∀ i, δ i + ε i + (ζ i + η i) = movedBy bs i) : Documented db db' :=
  ⟨bs, hbs, ((hpurchasing.on.both hsales.on).both (hadjustments.on.both htransfers.on)).congr hmoved⟩

/-- A request that moves nothing and adds nothing to any of the four tallies. -/
theorem Documented.kept (hproducts : db'.stock.products = db.stock.products)
    (hmovements : db'.stock.movements = db.stock.movements)
    (hpurchasing : purchasingTally.Adds db.purchasing db'.purchasing 0)
    (hsales : salesTally.Adds db.sales db'.sales 0)
    (hadjustments : adjustmentTally.Adds db.stock db'.stock 0)
    (htransfers : transferTally.Adds db.transfers db'.transfers 0) : Documented db db' :=
  documented_of_adds (.nil hproducts hmovements) hpurchasing hsales hadjustments htransfers
    fun i => by simp [movedBy]

theorem Documented.refl (db : Db) : Documented db db :=
  .kept rfl rfl (.of_eq rfl) (.of_eq rfl) (.of_eq rfl) (.of_eq rfl)

theorem adjustmentTally_kept {s t : StockTables} (h : t.adjustments = s.adjustments) :
    adjustmentTally.Adds s t 0 := by
  intro _
  refine ⟨trivial, fun i => ?_⟩
  show adjustedQuantity t i = adjustedQuantity s i + 0
  unfold adjustedQuantity
  rw [h, add_zero]

theorem Documented.trans {d : Db} (h : Documented db d) (h' : Documented d db') :
    Documented db db' := by
  obtain ⟨bs, hbs, hadds⟩ := h
  obtain ⟨bs', hbs', hadds'⟩ := h'
  refine ⟨bs ++ bs', hbs.append hbs', (hadds.trans hadds').congr fun i => ?_⟩
  exact (sumWhere_append _ _ bs bs').symm

end Moved

/-! ### What is added to the documents -/

section Added

variable {db d db' : Db} {bs : List Booking}

/-- What order items are of stays. -/
theorem OrdersGrown.orderedProducts {t t' : PurchasingTables} (h : OrdersGrown t t') :
    orderedProducts t <+: orderedProducts t' := by
  obtain ⟨rows, hrows, -⟩ := h.items
  have hmap : ∀ t : PurchasingTables,
      GroceryErp.orderedProducts t = (t.orderItems.map (·.val.made)).map fun m => m.2.1 :=
    fun t => by
      rw [List.map_map]
      rfl
  rw [hmap, hmap, hrows, List.map_append]
  exact List.prefix_append _ _

/-- Receipts and returns that are added. -/
theorem purchasingTally_adds {t t' : PurchasingTables} (delivered : List (Row GoodsReceiptItem))
    (sent : List (Row PurchaseReturnItem)) (hgrown : OrdersGrown t t')
    (hreceipts : t'.receiptItems = t.receiptItems ++ delivered)
    (hrefers : RefersIn (orderedProducts t') (·.val.purchaseOrderItemId) delivered)
    (hreturns : t'.returnItems = t.returnItems ++ sent) :
    purchasingTally.Adds t t' fun i =>
      sumJoined (orderedProducts t') (·.val.purchaseOrderItemId) (·.val.quantityReceived) i delivered
        - sumWhere (·.val.productId = i) (·.val.quantity) sent := by
  intro ht
  have hkeys := hgrown.orderedProducts
  refine ⟨?_, fun i => ?_⟩
  · show RefersIn _ _ t'.receiptItems
    rw [hreceipts]
    exact RefersIn.grown ht hkeys hrefers
  · show deliveredQuantity t' i - sentBackQuantity t' i
      = deliveredQuantity t i - sentBackQuantity t i + _
    unfold deliveredQuantity sentBackQuantity
    rw [hreceipts, hreturns, sumJoined_grown ht hkeys, sumWhere_append]
    ring

/-- Orders may change where nothing is received or sent back. -/
theorem purchasingTally_kept {t t' : PurchasingTables} (hgrown : OrdersGrown t t')
    (hreceipts : t'.receiptItems = t.receiptItems) (hreturns : t'.returnItems = t.returnItems) :
    purchasingTally.Adds t t' 0 := by
  refine (purchasingTally_adds [] [] hgrown (hreceipts.trans (List.append_nil _).symm) ?_
    (hreturns.trans (List.append_nil _).symm)).congr fun i => ?_
  · simp [RefersIn]
  · simp [sumJoined]

/-- **What is delivered is documented**: each line of a receipt moves in stock what it adds to its
item. -/
theorem receiveGoods_documented {req : ReceiveGoods} {goodsReceiptId : ℕ}
    (hgrid : ∀ l ∈ req.lines, OnGrid 3 l.quantityReceived)
    (h : receiveGoods db req = .ok (db', goodsReceiptId)) : Documented db db' := by
  have hgrown := receiveGoods_grown h
  rcases receiveGoods_ok h with rfl | ⟨order, lines, d, hplan, hw, hj⟩
  · exact .refl _
  obtain ⟨-, -, hplanned⟩ := planReceipt_ok hplan
  obtain ⟨-, receipt, rows, items, status, -, hrows, -, -, -, hd⟩ := writeReceipt_ok hw
  obtain ⟨bss, hbss, hrun⟩ := bookedAll_of_writeReceipt hw
  have hframe := postJournalUnlessEmpty_frame hj
  have hstock := stock_of_postJournalUnlessEmpty hj
  have hproduct : ∀ l ∈ lines,
      (orderedProducts db'.purchasing)[l.itemId]? = some l.item.val.productId := by
    intro l hl
    refine getElem?_of_prefix hgrown.orderedProducts ?_
    unfold orderedProducts
    rw [List.getElem?_map, (hplanned l hl).loaded]
    rfl
  have hadds := purchasingTally_adds rows [] hgrown (by rw [hframe, hd])
    (refersIn_rows hrows hproduct) (by rw [hframe, hd, List.append_nil])
  refine documented_of_adds (hstock ▸ hrun) hadds (.of_eq (by rw [hframe, hd]))
    (adjustmentTally_kept (by rw [hframe, hd]; rfl)) (.of_eq (by rw [hframe, hd])) fun i => ?_
  rw [movedBy_booksOne hbss (fun _ _ => rfl), sumJoined_rows hrows hproduct, sumWhere_nil]
  simp only [Pi.zero_apply, sub_zero, add_zero]
  refine sumWhere_congr (fun _ _ => Iff.rfl) fun l hl _ => ?_
  obtain ⟨line, hline, hqty, -⟩ := (hplanned l hl).requested
  exact numeric_eq_self (hqty ▸ hgrid line hline)

/-- **What goes back to a supplier is documented.** -/
theorem createPurchaseReturn_documented {req : CreatePurchaseReturn} {purchaseReturnId : ℕ}
    (hgrid : ∀ l ∈ req.lines, OnGrid 3 l.quantity)
    (h : createPurchaseReturn db req = .ok (db', purchaseReturnId)) : Documented db db' := by
  have hgrown := createPurchaseReturn_grown h
  rcases createPurchaseReturn_ok h with rfl | ⟨lines, d, hplan, hw, hj⟩
  · exact .refl _
  obtain ⟨-, hplanned⟩ := planPurchaseReturn_ok hplan
  obtain ⟨-, rows, hrows, hd⟩ := writePurchaseReturn_ok hw
  obtain ⟨bss, hbss, hrun⟩ := bookedAll_of_writePurchaseReturn hw
  have hframe := postJournalUnlessEmpty_frame hj
  have hstock := stock_of_postJournalUnlessEmpty hj
  have hadds := purchasingTally_adds [] rows hgrown
    (by rw [hframe, hd, List.append_nil]) (by simp [RefersIn]) (by rw [hframe, hd])
  refine documented_of_adds (hstock ▸ hrun) hadds (.of_eq (by rw [hframe, hd]))
    (adjustmentTally_kept (by rw [hframe, hd]; rfl)) (.of_eq (by rw [hframe, hd])) fun i => ?_
  rw [movedBy_booksOne hbss (fun _ _ => rfl), sumJoined, sumWhere_nil,
    sumWhere_values (p := fun r => r.productId = i) (f := fun r => r.quantity) hrows]
  simp only [Pi.zero_apply, zero_sub, add_zero]
  rw [← sumWhere_neg]
  refine sumWhere_congr (fun _ _ => Iff.rfl) fun l hl _ => ?_
  obtain ⟨line, hline, hqty⟩ := (hplanned l hl).requested
  exact congrArg _ (numeric_eq_self (hqty ▸ hgrid line hline))

/-- **What is sold is documented**: each line of a sale moves out of stock what its item says. -/
theorem finalizeSale_documented {req : FinalizeSale} {saleId : ℕ}
    (hgrid : ∀ l ∈ req.lines, OnGrid 3 l.quantity)
    (h : finalizeSale db req = .ok (db', saleId)) : Documented db db' := by
  rcases finalizeSale_ok h with ⟨-, -, rfl⟩ | ⟨-, cart, changeDue, d, hc, hw, hj⟩
  · exact .refl db'
  have hlines := product_of_checkout hc
  obtain ⟨bss, hbss, hrun⟩ := bookedAll_of_writeSale hw
  obtain ⟨-, _, sale, items, payments, -, hitems, -, hd⟩ := writeSale_ok hw
  have hframe := postJournal_frame hj
  have hstock : db'.stock = d.stock := by rw [hframe]
  -- the sale appends items, and returns refer to items by number
  have hadds : salesTally.Adds db.sales db'.sales fun i =>
      -sumWhere (·.val.productId = i) (·.val.quantity) items := by
    intro hkept
    have hnew : db'.sales.items = db.sales.items ++ items := by rw [hframe, hd]
    have hback : db'.sales.returnItems = db.sales.returnItems ++ [] := by
      rw [hframe, hd, List.append_nil]
    have hkeys : soldProducts db.sales <+: soldProducts db'.sales := by
      unfold soldProducts
      rw [hnew, List.map_append]
      exact List.prefix_append _ _
    refine ⟨?_, fun i => ?_⟩
    · show RefersIn _ _ db'.sales.returnItems
      rw [hback]
      exact RefersIn.grown hkept hkeys (by simp [RefersIn])
    · show restockedQuantity db'.sales i - soldQuantity db'.sales i
        = restockedQuantity db.sales i - soldQuantity db.sales i + _
      unfold restockedQuantity soldQuantity
      rw [hback, hnew, sumJoined_grown hkept hkeys, sumWhere_append, sumJoined, sumJoined,
        sumWhere_nil]
      ring
  refine documented_of_adds (hstock ▸ hrun) (.of_eq (by rw [hframe, hd])) hadds
    (adjustmentTally_kept (by rw [hframe, hd]; rfl)) (.of_eq (by rw [hframe, hd])) fun i => ?_
  rw [movedBy_booksOne hbss (fun _ _ => rfl),
    sumWhere_values (p := fun r => r.productId = i) (f := fun r => r.quantity) hitems]
  simp only [Pi.zero_apply, zero_add, add_zero]
  -- each line took out of stock what its item says was sold
  rw [← sumWhere_neg]
  refine sumWhere_congr (fun _ _ => Iff.rfl) fun c hcmem _ => ?_
  obtain ⟨-, ⟨line, hline, hqty⟩, -⟩ := hlines c hcmem
  exact congrArg _ (numeric_eq_self (hqty ▸ hgrid line hline))

/-- **What a customer brings back for the shelf is documented.** -/
theorem createSaleReturn_documented {req : CreateSaleReturn} {saleReturnId : ℕ}
    (hgrid : ∀ l ∈ req.lines, OnGrid 3 l.quantity)
    (h : createSaleReturn db req = .ok (db', saleReturnId)) : Documented db db' := by
  rcases createSaleReturn_ok h with ⟨-, rfl⟩ | ⟨hkey, sale, lines, _, _, d, hplan, -, -, hw, hj⟩
  · exact .refl db'
  have hwritten := returnWritten_of_ok hkey hplan hw hj
  obtain ⟨rows, hback, hrows⟩ := hwritten.rows
  obtain ⟨-, -, -, -, hplanned⟩ := planReturn_ok hplan
  obtain ⟨hid, _, _, _, e, -, -, he, rfl⟩ := writeReturn_ok hw
  obtain ⟨bss, hbss, hrun⟩ := bookedAll_of_foldlM
    (fun l => ReturnLine.Books l req.storeId saleReturnId) he
    fun l _ _ _ hl => bookedAll_of_addReturnLine hl
  obtain ⟨t, hframe⟩ := createSaleReturn_frame h
  have hstock := stock_of_postJournalUnlessEmpty hj
  have hadjustments : db'.stock.adjustments = db.stock.adjustments := by
    rw [hframe]
    rfl
  -- the items of the sale are of the same products and quantities
  have hproducts : soldProducts db'.sales = soldProducts db.sales :=
    hwritten.items_kept.map_eq fun i a b hb => by rw [hb]
  have hsold : ∀ i, soldQuantity db'.sales i = soldQuantity db.sales i := by
    intro i
    unfold soldQuantity
    rw [sumWhere_eq_sum_map, sumWhere_eq_sum_map]
    congr 1
    exact hwritten.items_kept.map_eq fun i a b hb => by rw [hb]
  have hproduct : ∀ l ∈ lines,
      (soldProducts db'.sales)[l.saleItemId]? = some l.item.val.productId := by
    intro l hl
    rw [hproducts]
    unfold soldProducts
    rw [List.getElem?_map, (hplanned l hl).loaded]
    rfl
  have hadds : salesTally.Adds db.sales db'.sales fun i =>
      sumJoined (soldProducts db'.sales) (·.val.saleItemId) (·.val.restocked) i rows := by
    intro hkept
    have hkeys : soldProducts db.sales <+: soldProducts db'.sales := by rw [hproducts]
    refine ⟨?_, fun i => ?_⟩
    · show RefersIn _ _ db'.sales.returnItems
      rw [hback]
      exact RefersIn.grown hkept hkeys (refersIn_rows hrows hproduct)
    · show restockedQuantity db'.sales i - soldQuantity db'.sales i
        = restockedQuantity db.sales i - soldQuantity db.sales i + _
      unfold restockedQuantity
      rw [hback, hsold, sumJoined_grown hkept hkeys]
      ring
  refine documented_of_adds (hstock ▸ hrun) (.of_eq (by rw [hframe])) hadds
    (adjustmentTally_kept hadjustments) (.of_eq (by rw [hframe])) fun i => ?_
  rw [movedBy_picked hbss (fun _ _ => rfl), sumJoined_rows hrows hproduct]
  simp only [Pi.zero_apply, zero_add, add_zero]
  refine sumWhere_congr (fun _ _ => Iff.rfl) fun l hl _ => ?_
  have hqty : OnGrid 3 l.quantity :=
    (hplanned l hl).quantity_eq ▸ onGrid_requestedQty hgrid _
  unfold SaleReturnItem.restocked
  exact if_congr Iff.rfl (numeric_eq_self hqty) rfl

/-! #### Adjustments and counts -/

/-- **What an adjustment corrects is documented.** -/
theorem createStockAdjustment_documented {a : StockAdjustmentInput} {adjustmentId : ℕ}
    (hgrid : OnGrid 3 a.quantityDelta)
    (h : createStockAdjustment db a = .ok (db', adjustmentId)) : Documented db db' := by
  rcases createStockAdjustment_ok h with rfl | h
  · exact .refl db'
  obtain ⟨adjustment, hrow, hadded⟩ := writeAdjustment_added h
  obtain ⟨_, p, d, hp, hm, hj⟩ := writeAdjustment_ok h
  obtain ⟨q, hq, hb⟩ := exists_booked hm
  have hrun : BookedAll [⟨a.productId, q.val, a.movement db.stock.adjustments.length p.val⟩]
      db.stock d.stock := (BookedAll.single hb).congr_left rfl rfl
  have hpost := postStockAdjustmentJournal_frame hj
  have hstock : db'.stock = d.stock := by rw [hpost]
  have hframe := recordMovement_frame hm
  have hadds : adjustmentTally.Adds db.stock db'.stock fun i =>
      if a.productId = i then a.quantityDelta else 0 := by
    intro _
    refine ⟨trivial, fun i => ?_⟩
    show adjustedQuantity db'.stock i = adjustedQuantity db.stock i + _
    unfold adjustedQuantity
    rw [hadded, sumWhere_append, sumWhere_singleton, hrow]
    show _ + (if a.productId = i then numeric 3 a.quantityDelta else 0) = _
    rw [numeric_eq_self hgrid]
  refine documented_of_adds (hstock ▸ hrun) (.of_eq (by rw [hpost, hframe]))
    (.of_eq (by rw [hpost, hframe])) hadds (.of_eq (by rw [hpost, hframe])) fun i => ?_
  unfold movedBy
  rw [sumWhere_singleton]
  simp only [Pi.zero_apply, zero_add, add_zero]
  rfl

/-- **What a count corrects is documented**, line by line. -/
theorem postStockCount_documented {req : PostStockCount} (hs : StockInScale db.stock)
    (hplaced : CountsPlaced db.stock) (h : postStockCount db req = .ok db') :
    Documented db db' := by
  rcases postStockCount_ok h with rfl | ⟨count, lines, d, hcount, hlines, -, hd, rfl⟩
  · exact .refl db'
  have hloop : StockStep db d ∧ Documented db d := by
    refine foldlM_induct (fun _ t => StockStep db t ∧ Documented db t) hd
      ⟨.refl db, .refl db⟩ ?_
    rintro done line rest t t' rfl ⟨ht, hdoc⟩ hstep
    rcases postCountLine_ok hstep with rfl | ⟨p, counted, i, hp, hcounted, hadjust⟩
    · exact ⟨ht, hdoc⟩
    obtain ⟨hmem, hof⟩ := hlines line (by simp)
    obtain ⟨hgrid, storeId, hat, hproduct⟩ := hplaced line hmem
    rw [hof] at hat
    have hid : storeId = count.storeId := (hat.eq_of_row hcount).symm
    have hscale := ht.inScale hs
    have hvariance : OnGrid 3 (counted - p.val.currentQtyOnHand) :=
      (hgrid counted hcounted).sub (hscale p (mem_of_row hp)).quantity
    refine ⟨ht.trans (createStockAdjustment_stockStep hscale hvariance ?_ hadjust),
      hdoc.trans (createStockAdjustment_documented hvariance hadjust)⟩
    have hp' : ProductAt db.stock line.val.productId count.storeId := hid ▸ hproduct
    exact ht.storesKept _ _ hp'
  exact hloop.2.trans (.kept rfl rfl (.of_eq rfl) (.of_eq rfl) (adjustmentTally_kept rfl) (.of_eq rfl))

/-! #### Transfers -/

/-- What is shipped, of which product, and to which. -/
def InterStoreTransferLine.shipment (l : InterStoreTransferLine) : ℕ × ℕ × ℚ :=
  (l.sourceProductId, l.destinationProductId, l.shippedQuantity)

section Shipments

variable {s t : TransferTables}

theorem destinationProducts_eq (h : t.lines.map (·.val.shipment) = s.lines.map (·.val.shipment)) :
    destinationProducts t = destinationProducts s := by
  have hmap : ∀ t : TransferTables,
      destinationProducts t = (t.lines.map (·.val.shipment)).map fun x => x.2.1 := fun t => by
    rw [List.map_map]
    rfl
  rw [hmap, hmap, h]

theorem shippedOutQuantity_eq (h : t.lines.map (·.val.shipment) = s.lines.map (·.val.shipment))
    (i : ℕ) : shippedOutQuantity t i = shippedOutQuantity s i := by
  have hmap : ∀ t : TransferTables, shippedOutQuantity t i
      = sumWhere (fun x => x.1 = i) (fun x => x.2.2) (t.lines.map (·.val.shipment)) := fun t => by
    rw [sumWhere_map]
    rfl
  rw [hmap, hmap, h]

/-- What is received of lines that ship what they did. -/
theorem transferTally_received {new : List (Row InterStoreTransferReceiptItem)}
    (hlines : t.lines.map (·.val.shipment) = s.lines.map (·.val.shipment))
    (hitems : t.receiptItems = s.receiptItems ++ new)
    (hrefers : RefersIn (destinationProducts t) (·.val.interStoreTransferLineId) new)
    (hcosted : CostedOnceShipped s → CostedOnceShipped t) :
    transferTally.Adds s t fun i => sumJoined (destinationProducts t)
      (·.val.interStoreTransferLineId) (·.val.quantityReceived) i new := by
  rintro ⟨hkept, hcost, hgrid⟩
  have hkeys : destinationProducts s <+: destinationProducts t := by
    rw [destinationProducts_eq hlines]
  refine ⟨⟨?_, hcosted hcost, ?_⟩, fun i => ?_⟩
  · rw [hitems]
    exact hkept.grown hkeys hrefers
  · intro l hl
    have hsame : l.val.shipment ∈ s.lines.map (·.val.shipment) :=
      hlines ▸ List.mem_map_of_mem hl
    obtain ⟨k, hk, hkl⟩ := List.mem_map.mp hsame
    have hquantity : k.val.shippedQuantity = l.val.shippedQuantity := congrArg (fun x => x.2.2) hkl
    rw [← hquantity]
    exact hgrid k hk
  · show takenInQuantity t i - shippedOutQuantity t i
      = takenInQuantity s i - shippedOutQuantity s i + _
    unfold takenInQuantity
    rw [hitems, shippedOutQuantity_eq hlines, sumJoined_grown hkept hkeys]
    ring

/-- Something else of the lines is written. -/
theorem transferTally_kept (hlines : t.lines.map (·.val.shipment) = s.lines.map (·.val.shipment))
    (hitems : t.receiptItems = s.receiptItems)
    (hcosted : CostedOnceShipped s → CostedOnceShipped t) : transferTally.Adds s t 0 := by
  refine (transferTally_received hlines (hitems.trans (List.append_nil _).symm) ?_
    hcosted).congr fun i => ?_
  · simp [RefersIn]
  · simp [sumJoined]

/-- New lines of which nothing is shipped. -/
theorem transferTally_drafted {lines : List (Row InterStoreTransferLine)}
    (hlines : t.lines = s.lines ++ lines) (hitems : t.receiptItems = s.receiptItems)
    (hnothing : ∀ l ∈ lines, l.val.shippedQuantity = 0)
    (hcosted : CostedOnceShipped s → CostedOnceShipped t) : transferTally.Adds s t 0 := by
  rintro ⟨hkept, hcost, hgrid⟩
  have hkeys : destinationProducts s <+: destinationProducts t := by
    unfold destinationProducts
    rw [hlines, List.map_append]
    exact List.prefix_append _ _
  have hitems' : t.receiptItems = s.receiptItems ++ [] := hitems.trans (List.append_nil _).symm
  refine ⟨⟨?_, hcosted hcost, ?_⟩, fun i => ?_⟩
  · rw [hitems']
    exact hkept.grown hkeys (by simp [RefersIn])
  · rw [hlines]
    intro l hl
    rcases List.mem_append.mp hl with hl | hl
    · exact hgrid l hl
    · rw [hnothing l hl]
      exact onGrid_zero 3
  · have hout : sumWhere (·.val.sourceProductId = i) (·.val.shippedQuantity) lines = 0 :=
      sumWhere_eq_zero _ _ fun l hl _ => hnothing l hl
    show takenInQuantity t i - shippedOutQuantity t i
      = takenInQuantity s i - shippedOutQuantity s i + 0
    unfold takenInQuantity shippedOutQuantity
    rw [hitems', sumJoined_grown hkept hkeys, hlines, sumWhere_append, hout, sumJoined, sumJoined,
      sumWhere_nil]
    ring

end Shipments

/-- A new transfer ships nothing yet. -/
theorem createTransfer_documented {req : CreateTransfer} {transferId : ℕ}
    (h : createTransfer db req = .ok (db', transferId)) : Documented db db' := by
  have hcosted : CostedOnceShipped db.transfers → CostedOnceShipped db'.transfers :=
    fun hdb => hdb.createTransfer h
  obtain ⟨transfer, lines, -, hlines, rfl⟩ := createTransfer_ok h
  refine .kept rfl rfl (.of_eq rfl) (.of_eq rfl) (adjustmentTally_kept rfl)
    (transferTally_drafted rfl rfl (fun l hl => ?_) hcosted)
  obtain ⟨⟨line, hrow⟩, -⟩ := hlines l hl
  rw [hrow]
  rfl

/-- **What is shipped is documented**, where no line is named twice. -/
theorem shipTransfer_documented {req : ShipTransfer}
    (hgrid : ∀ l ∈ req.lines, OnGrid 3 l.quantityToShip)
    (honce : TransferRequest.ShipsLinesOnce db (.shipTransfer req))
    (h : shipTransfer db req = .ok db') : Documented db db' := by
  have hcosted : CostedOnceShipped db.transfers → CostedOnceShipped db'.transfers :=
    fun hdb => hdb.shipTransfer h
  have hframe := shipTransfer_frame h
  rcases shipTransfer_ok h with rfl | ⟨transfer, lines, e, shipped, hkey, htransfer, -, hplan, he,
    hshipped, hj⟩
  · exact .refl db'
  have hships := ships_of_ok hkey htransfer hplan he hshipped hj
  have hnodup : (lines.map (·.transferLineId)).Nodup := hships.ids ▸ honce hkey
  obtain ⟨bss, hbss, hrun⟩ := bookedAll_of_shipLines he
  have hstock := stock_of_postJournalUnlessEmpty hj
  have hadjustments : db'.stock.adjustments = db.stock.adjustments := by
    have heframe := (shipLines_ok (P := fun _ => True) he (fun _ _ _ _ => trivial)
      fun _ _ => trivial).1
    rw [hstock]
    show e.stock.adjustments = _
    rw [heframe]
    rfl
  have hquantity : ∀ l ∈ lines, OnGrid 3 l.quantity := by
    intro l hl
    obtain ⟨line, hline, hqty⟩ := (hships.planned l hl).requested
    exact hqty ▸ hgrid line hline
  have hdest : destinationProducts db'.transfers = destinationProducts db.transfers := by
    refine hships.lines.map_eq fun i a b hab => ?_
    rcases hab with ⟨l, -, -, hb⟩ | ⟨-, rfl⟩
    · rw [hb]
    · rfl
  have hadds : transferTally.Adds db.transfers db'.transfers fun i =>
      -sumWhere (·.productId = i) (·.quantity) lines := by
    rintro ⟨hkept, hcost, hscale⟩
    refine ⟨⟨?_, hcosted hcost, ?_⟩, fun i => ?_⟩
    · rw [hdest, hships.items]
      exact hkept
    · refine hships.lines.forall_mem hscale fun i a b ha hab => ?_
      rcases hab with ⟨l, hl, -, hb⟩ | ⟨-, rfl⟩
      · rw [hb]
        exact hquantity l hl
      · exact ha
    · have hout : shippedOutQuantity db'.transfers i = shippedOutQuantity db.transfers i
          + sumWhere (·.productId = i) (·.quantity) lines := by
        unfold shippedOutQuantity
        rw [sumWhere_eq_sum_map, sumWhere_eq_sum_map, sumWhere_eq_sum_map _ _ lines]
        refine hships.lines.sum_map_named hnodup ?_ _ _ fun l hl a b ha hb => ?_
        · intro l hl
          obtain ⟨row, hrow, -⟩ := (hships.planned l hl).line
          exact (List.getElem?_eq_some_iff.mp hrow).1
        · -- nothing of the line was shipped before
          obtain ⟨row, hrow, -, hsource⟩ := (hships.planned l hl).line
          obtain rfl : row = a := Option.some.inj (hrow.symm.trans ha)
          have hnone := hcost.nothing row (mem_of_row ha) (hcost.cost_of_named hships hl ha)
          rw [hb, ← hsource, hnone, ite_self, zero_add]
      show takenInQuantity db'.transfers i - shippedOutQuantity db'.transfers i
        = takenInQuantity db.transfers i - shippedOutQuantity db.transfers i + _
      unfold takenInQuantity
      rw [hdest, hships.items, hout]
      ring
  refine documented_of_adds (hstock ▸ hrun) (.of_eq (by rw [hframe])) (.of_eq (by rw [hframe]))
    (adjustmentTally_kept hadjustments) hadds fun i => ?_
  rw [movedBy_booksOne hbss (fun _ _ => rfl), ← sumWhere_neg]
  simp only [Pi.zero_apply, zero_add]
  rfl

/-- A receipt writes an item for each line, and ships nothing more. -/
theorem writeTransferReceipt_written {req : ReceiveTransfer} {transfer : InterStoreTransfer}
    {lines : List TransferReceiptLine} {receiptId : ℕ}
    (h : writeTransferReceipt db req transfer lines = .ok (d, receiptId)) :
    ∃ (new : List (Row InterStoreTransferReceiptItem)) (i : ℕ),
      d.transfers.lines.map (·.val.shipment) = db.transfers.lines.map (·.val.shipment) ∧
      d.transfers.receiptItems = db.transfers.receiptItems ++ new ∧
      new.map (·.val) = lines.map (·.row i) := by
  unfold writeTransferReceipt at h
  simp only [bind_eq_ok, pure_eq_ok, Prod.mk.injEq] at h
  obtain ⟨e, he, f, hf, g, hg, rfl, -⟩ := h
  obtain ⟨new, hframe, hnew⟩ := receiveLines_items he
  have haccounted := accountLines_accounted hg
  have hlines := (accountLines_ok (P := fun _ => True) hg (fun _ _ _ _ _ => trivial)
    fun _ _ => trivial).1
  have hrecorded := recordDiscrepancies_frame hf
  have hsame : f.transfers.lines = db.transfers.lines := by rw [hrecorded, hframe]
  refine ⟨new, _, ?_, ?_, hnew⟩
  · rw [← hsame]
    exact haccounted.map_eq fun i a b hab => by rw [hab]; rfl
  · rw [hlines, hrecorded]
    show e.transfers.receiptItems = _
    rw [hframe]

/-- **What comes in from another store is documented.** -/
theorem receiveTransfer_documented {req : ReceiveTransfer}
    (hgrid : ∀ l ∈ req.lines, OnGrid 3 l.quantityReceived)
    (h : receiveTransfer db req = .ok db') : Documented db db' := by
  have hcosted : CostedOnceShipped db.transfers → CostedOnceShipped db'.transfers :=
    fun hdb => hdb.of_kept (receiveTransfer_linesKept h)
  have hframe := receiveTransfer_frame h
  rcases receiveTransfer_ok h with rfl | ⟨transfer, lines, d, receiptId, htransfer, hplan, hw, hj⟩
  · exact .refl db'
  have hplanned := planTransferReceipt_ok hplan
  obtain ⟨hd, -, bss, hbss, hrun⟩ := writeTransferReceipt_ok (P := fun _ => True) hw
    (fun _ _ _ _ _ => trivial) fun _ _ => trivial
  have hstock := stock_of_postJournalUnlessEmpty hj
  have hadjustments : db'.stock.adjustments = db.stock.adjustments := by
    rw [hstock, hd]
    rfl
  obtain ⟨new, i, hlines, hitems, hrows⟩ := writeTransferReceipt_written hw
  have htransfers : db'.transfers = d.transfers := by rw [postJournalUnlessEmpty_frame hj]
  have hproduct : ∀ l ∈ lines,
      (destinationProducts db'.transfers)[l.input.transferLineId]? = some l.productId := by
    intro l hl
    obtain ⟨row, hrow, -, hdest, -⟩ := (hplanned l hl).line
    rw [htransfers, destinationProducts_eq hlines]
    unfold destinationProducts
    rw [List.getElem?_map, hrow]
    exact congrArg some hdest
  have hadds := transferTally_received (htransfers ▸ hlines) (htransfers ▸ hitems)
    (refersIn_rows hrows hproduct) hcosted
  refine documented_of_adds (hstock ▸ hrun) (.of_eq (by rw [hframe])) (.of_eq (by rw [hframe]))
    (adjustmentTally_kept hadjustments) hadds fun i => ?_
  rw [movedBy_picked hbss (fun _ _ => rfl), sumJoined_rows hrows hproduct]
  simp only [Pi.zero_apply, zero_add]
  refine sumWhere_congr (fun _ _ => Iff.rfl) fun l hl _ => ?_
  -- what is received is not negative
  have hqty := hgrid l.input (hplanned l hl).requested
  obtain ⟨r, -, hr⟩ := exists_of_map_eq hrows.symm hl
  have hnonneg := r.property.received_nonneg
  rw [hr] at hnonneg
  show numeric 3 l.input.quantityReceived = _
  have hsame : numeric 3 l.input.quantityReceived = l.input.quantityReceived := numeric_eq_self hqty
  rw [hsame]
  split
  · rfl
  · next hpos =>
    refine le_antisymm (not_lt.mp hpos) ?_
    rw [← hsame]
    exact hnonneg

end Added

end GroceryErp
