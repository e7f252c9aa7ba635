import GroceryErp.Lib.Transactions
import GroceryErp.System.StockRuns

/-!
# Stock requests side by side

Requests that move stock, each in a session of its own.  From the moment a request has its
row locks until its commit no other request can come between, so that part of it is one
step.  Two requests read before they lock: `finalizeSale` looks its key up, and the
endpoint for adjustments loads the product.

An object that is loaded keeps its attributes: the lock that follows the load of an
adjustment gives the object back as it was, and the flush writes the columns that the
request has changed on it.

## Main definitions

* `StockWork` — the requests.
* `finalizeSaleLocked`, `adjustLoaded` — a sale after its lookup, an adjustment after its
  load.
* `Shop`, `Reply` — the tables, and what was answered to those who finalize a sale.
* `stocking` — what a session does next.

## Main results

* `finalizeSale_eq_locked`, `createAdjustment_eq_loaded` — with nothing between, these are
  the requests.
* `adjustLoaded_ok` — what an adjustment of a loaded product writes.
* `shopCommit_of_next`, `session_of_read` — what a session does to the shop, and what it
  learns of it.

## References

`backend/app/modules/sales/service.py`, `finalize_sale`;
`backend/app/api/v1/endpoints/inventory.py`, `create_adjustment`;
`backend/app/modules/inventory/service.py`, `lock_product_for_update`.
-/

namespace GroceryErp

open Decimal Outcome Rows Runs Transactions

/-! ### Requests -/

inductive StockWork
  | createAdjustment (req : CreateAdjustment)
  | finalizeSale (req : FinalizeSale)
  | createSaleReturn (req : CreateSaleReturn)
  | receiveGoods (req : ReceiveGoods)
  | createPurchaseReturn (req : CreatePurchaseReturn)
  | shipTransfer (req : ShipTransfer)
  | receiveTransfer (req : ReceiveTransfer)

/-- The request as one that has the tables for itself. -/
def StockWork.request : StockWork → StockRequest
  | createAdjustment req => .createAdjustment req
  | finalizeSale req => .finalizeSale req
  | createSaleReturn req => .createSaleReturn req
  | receiveGoods req => .receiveGoods req
  | createPurchaseReturn req => .createPurchaseReturn req
  | shipTransfer req => .shipTransfer req
  | receiveTransfer req => .receiveTransfer req

/-! ### A sale in two parts -/

/-- The lookup a sale begins with: the sale that already carries its key. -/
def lookUpSale (db : Db) (req : FinalizeSale) : Result (Option ℕ) := do
  enforceStoreAccess req.callerStoreId req.storeId
  let found ← scalarOneOrNone (saleWithKey db req.clientTransactionId)
  return found.map Prod.fst

/-- The insert of the sale and what follows it.  Where another sale has taken the key since
the lookup, the insert fails, everything is rolled back, and the winner is returned. -/
def insertSale (db : Db) (req : FinalizeSale) (cart : PricedCart) (changeDue : ℚ) :
    Result (Db × ℕ) := do
  match ← scalarOneOrNone (saleWithKey db req.clientTransactionId) with
  | some (winnerId, _) => do
    -- the shift of the cashier is locked before the insert
    let _ ← activeShiftForCashier db req.cashierId
    return (db, winnerId)
  | none => do
    let (db, saleId) ← writeSale db req cart changeDue
    let db ← postSaleJournal db req saleId cart changeDue
    return (db, saleId)

/-- `finalize_sale` from where its lookup has found nothing. -/
def finalizeSaleLocked (db : Db) (req : FinalizeSale) : Result (Db × ℕ) := do
  let (cart, changeDue) ← checkout db req
  insertSale db req cart changeDue

/-- What comes before the insert goes through: the checks on the cart, and the lock of the
cashier's shift. -/
def ReachesInsert (db : Db) (req : FinalizeSale) : Prop :=
  ∃ cart changeDue shiftId, checkout db req = .ok (cart, changeDue) ∧
    activeShiftForCashier db req.cashierId = .ok shiftId

/-! ### An adjustment in two parts -/

/-- What the endpoint does before the service: the product is loaded without a lock. -/
def loadForAdjustment (db : Db) (req : CreateAdjustment) : Result (Row Product) := do
  let product ← orRaise db.stock.products[req.productId]? .notFound
  enforceStoreAccess req.callerStoreId product.val.storeId
  return product

/-- The UPDATE of a product: of its columns those that the session has changed, from what it
has loaded to what it holds now. -/
def Product.update (row loaded changed : Product) : Product :=
  { row with
    currentQtyOnHand :=
      if changed.currentQtyOnHand = loaded.currentQtyOnHand then row.currentQtyOnHand
      else changed.currentQtyOnHand
    currentCost :=
      if changed.currentCost = loaded.currentCost then row.currentCost else changed.currentCost }

/-- `create_stock_adjustment` on a product that the session has loaded: the service sees
the object as it was, and the row is updated. -/
def adjustLoaded (db : Db) (req : CreateAdjustment) (loaded : Row Product) : Result Db := do
  let row ← orRaise db.stock.products[req.productId]? .notFound
  let seen := { db with stock.products := db.stock.products.set req.productId loaded }
  let (d, _) ← createStockAdjustment seen (req.input loaded.val.storeId)
  let changed ← orRaise d.stock.products[req.productId]? .notFound
  let product ← flush (row.val.update loaded.val changed.val)
  return { d with stock.products := db.stock.products.set req.productId product }

/-! ### The shop -/

/-- An answer to a request that finalizes a sale, with the tables it met and left. -/
structure Reply where
  request : FinalizeSale
  result : Result ℕ
  before : Db
  after : Db

/-- The tables, and the answers given to the requests so far. -/
structure Shop where
  db : Db
  replies : List Reply := []

namespace Shop

variable (shop : Shop)

/-- The request is answered: what it wrote is committed, or it is rolled back. -/
def reply (req : FinalizeSale) : Result (Db × ℕ) → Shop
  | .ok (db, saleId) => {
      db := db.commit
      replies := shop.replies ++ [⟨req, .ok saleId, shop.db, db.commit⟩] }
  | .error e => { shop with replies := shop.replies ++ [⟨req, .error e, shop.db, shop.db⟩] }

/-- What another request wrote is committed, if it succeeds. -/
def committed (result : Result Db) : Option Shop :=
  result.toOption.map fun db => { shop with db := db.commit }

end Shop

/-- Where a session that moves stock is: which rows it has locked, and what it has loaded. -/
inductive StockSession
  | begun (work : StockWork)
  /-- The lookup of a sale has found its answer, or has failed. -/
  | answered (req : FinalizeSale) (result : Result ℕ)
  /-- The lookup of a sale has found nothing. -/
  | keyMissed (req : FinalizeSale)
  /-- An adjustment has loaded its product. -/
  | productLoaded (req : CreateAdjustment) (loaded : Row Product)

/-- Where a sale is after its lookup. -/
def afterLookup (req : FinalizeSale) : Result (Option ℕ) → StockSession
  | .error e => .answered req (.error e)
  | .ok (some saleId) => .answered req (.ok saleId)
  | .ok none => .keyMissed req

/-- What a session does next.  Sales and adjustments read before they lock; the others do all of it
under their locks. -/
def StockSession.next : StockSession → Action Shop ℕ StockSession
  | begun (.finalizeSale req) => .read fun shop => some (afterLookup req (lookUpSale shop.db req))
  | begun (.createAdjustment req) =>
    .read fun shop => (loadForAdjustment shop.db req).toOption.map (productLoaded req)
  | begun work => .commit fun shop => shop.committed (work.request.run shop.db)
  | answered req result =>
    .commit fun shop => some (shop.reply req (Prod.mk shop.db <$> result))
  | keyMissed req => .commit fun shop => some (shop.reply req (finalizeSaleLocked shop.db req))
  | productLoaded req loaded => .commit fun shop => shop.committed (adjustLoaded shop.db req loaded)

/-- The sessions of the shop, side by side on one database. -/
def stocking : Program Shop ℕ StockSession StockWork where
  start := .begun
  next := StockSession.next

/-- The shop with its open sessions. -/
abbrev StockServer := Server Shop ℕ StockSession

/-! ### The requests, with nothing between -/

section Serial

variable {db : Db}

/-- A sale is its lookup and, if that finds nothing, what follows it. -/
theorem finalizeSale_eq_locked (req : FinalizeSale) (h : lookUpSale db req = .ok none) :
    finalizeSale db req = finalizeSaleLocked db req := by
  unfold lookUpSale at h
  simp only [↓check_bind_eq_ok, bind_eq_ok, pure_eq_ok, Option.map_eq_none_iff] at h
  obtain ⟨haccess, found, hfound, rfl⟩ := h
  unfold finalizeSale finalizeSaleLocked insertSale
  rw [haccess, hfound]
  rfl

theorem finalizeSale_eq_found {saleId : ℕ} (req : FinalizeSale)
    (h : lookUpSale db req = .ok (some saleId)) : finalizeSale db req = .ok (db, saleId) := by
  unfold lookUpSale at h
  simp only [↓check_bind_eq_ok, bind_eq_ok, pure_eq_ok, Option.map_eq_some_iff] at h
  obtain ⟨haccess, found, hfound, sale, rfl, rfl⟩ := h
  unfold finalizeSale
  rw [haccess, hfound]
  rfl

/-- An object loaded and changed at once is written as it is. -/
theorem Product.update_self (p changed : Product) (h : ∃ q c, changed = { p with
    currentQtyOnHand := q, currentCost := c }) : p.update p changed = changed := by
  obtain ⟨q, c, rfl⟩ := h
  unfold Product.update
  by_cases hq : q = p.currentQtyOnHand <;> by_cases hc : c = p.currentCost <;> simp [hq, hc]

end Serial

/-! ### An adjustment of a loaded product -/

section Adjusted

variable {db db' : Db} {req : CreateAdjustment} {loaded : Row Product}

@[simp] theorem Product.update_loaded (row loaded : Product) : row.update loaded loaded = row := by
  simp [Product.update]

/-- An adjustment of a loaded product is a replay, which leaves the tables, or one movement
of the object as it was loaded. -/
theorem adjustLoaded_ok (h : adjustLoaded db req loaded = .ok db') :
    db' = db ∨ ∃ row product movement m, db.stock.products[req.productId]? = some row ∧
      m.quantityDelta = req.quantityDelta ∧ m.newProductCost = none ∧
      product.val = row.val.update loaded.val (loaded.val.afterMovement m) ∧
      movement.val = m.row req.productId loaded.val ∧
      db'.stock.products = db.stock.products.set req.productId product ∧
      db'.stock.movements = db.stock.movements ++ [movement] ∧
      db'.sales = db.sales := by
  unfold adjustLoaded at h
  simp only [bind_eq_ok, orRaise_eq_ok, flush_eq_ok, pure_eq_ok, Prod.exists] at h
  obtain ⟨row, hrow, d, i, hd, changed, hchanged, product, hproduct, rfl⟩ := h
  have hlt : req.productId < db.stock.products.length := (List.getElem?_eq_some_iff.mp hrow).1
  rcases createStockAdjustment_ok hd with rfl | hw
  · -- nothing was written: no column has changed
    left
    have hsame : changed = loaded := by simpa [hlt] using hchanged.symm
    rw [hsame, Product.update_loaded] at hproduct
    rw [Subtype.ext hproduct, set_self hrow]
  right
  have hget : (db.stock.products.set req.productId loaded)[req.productId]? = some loaded :=
    List.getElem?_set_self hlt
  obtain ⟨adjustment, p, e, hp, hm, hj⟩ := writeAdjustment_ok hw
  obtain rfl : loaded = p := Option.some.inj (hget.symm.trans hp)
  obtain ⟨q, written, movement, hq, -, hwritten, hmovement, rfl⟩ := recordMovement_eq_ok.mp hm
  obtain rfl : loaded = q := Option.some.inj (hget.symm.trans hq)
  rw [postStockAdjustmentJournal_frame hj] at hchanged ⊢
  have hwrote : written = changed := by simpa [CreateAdjustment.input, hlt] using hchanged
  rw [← hwrote, hwritten] at hproduct
  exact ⟨row, product, movement, _, hrow, rfl, rfl, hproduct, hmovement, rfl, rfl, rfl⟩

/-- An adjustment writes its product as its own UPDATE would. -/
theorem createStockAdjustment_products {a : StockAdjustmentInput} {d : Db} {i : ℕ}
    {row : Row Product} (h : createStockAdjustment db a = .ok (d, i))
    (hrow : db.stock.products[a.productId]? = some row) :
    ∃ changed, row.val.update row.val changed.val = changed.val ∧
      d.stock.products = db.stock.products.set a.productId changed := by
  rcases createStockAdjustment_ok h with rfl | hw
  · exact ⟨row, row.val.update_loaded row.val, (set_self hrow).symm⟩
  obtain ⟨adjustment, p, e, -, hm, hj⟩ := writeAdjustment_ok hw
  obtain ⟨q, written, movement, hq, -, hwritten, -, rfl⟩ := recordMovement_eq_ok.mp hm
  obtain rfl : row = q := Option.some.inj (hrow.symm.trans hq)
  refine ⟨written, ?_, by rw [postStockAdjustmentJournal_frame hj]⟩
  exact Product.update_self _ _ ⟨_, _, hwritten⟩

/-- An adjustment whose load is followed at once by the service is the request. -/
theorem createAdjustment_eq_loaded (h : loadForAdjustment db req = .ok loaded) :
    adjustLoaded db req loaded = .ok db' ↔ ∃ i, createAdjustment db req = .ok (db', i) := by
  unfold loadForAdjustment at h
  simp only [↓check_bind_eq_ok, bind_eq_ok, orRaise_eq_ok, pure_eq_ok] at h
  obtain ⟨row, hrow, haccess, rfl⟩ := h
  unfold adjustLoaded createAdjustment
  simp only [↓check_bind_eq_ok, bind_eq_ok, orRaise_eq_ok, flush_eq_ok, pure_eq_ok, Prod.exists,
    hrow, Option.some.injEq, exists_eq_left', haccess, true_and, set_self hrow]
  have hlt : req.productId < db.stock.products.length := (List.getElem?_eq_some_iff.mp hrow).1
  have hproducts : ∀ d i, createStockAdjustment db (req.input row.val.storeId) = .ok (d, i) →
      ∃ changed, d.stock.products[req.productId]? = some changed ∧
        row.val.update row.val changed.val = changed.val ∧
        d.stock.products = db.stock.products.set req.productId changed := by
    intro d i hd
    obtain ⟨changed, hupdate, hset⟩ := createStockAdjustment_products hd hrow
    refine ⟨changed, ?_, hupdate, hset⟩
    rw [hset]
    exact List.getElem?_set_self hlt
  constructor
  · rintro ⟨d, i, hd, changed, hchanged, product, hproduct, rfl⟩
    obtain ⟨changed', hget, hupdate, hset⟩ := hproducts d i hd
    obtain rfl : changed' = changed := Option.some.inj (hget.symm.trans hchanged)
    obtain rfl : product = changed' := Subtype.ext (hproduct.trans hupdate)
    exact ⟨i, by rw [← hset]; exact hd⟩
  · rintro ⟨i, hd⟩
    obtain ⟨changed, hget, hupdate, hset⟩ := hproducts db' i hd
    exact ⟨db', i, hd, changed, hget, changed, hupdate.symm, by rw [← hset]⟩

end Adjusted
/-! ### What the requests book -/

/-- Bookings take `s` to `t`; where `exact` holds they are in whole thousandths. -/
def BooksStock (exact : Prop) (s t : StockTables) : Prop :=
  ∃ bs, BookedAll bs s t ∧ (exact → ∀ b ∈ bs, OnGrid 3 b.input.quantityDelta)

section Bookings

variable {α : Type} {l : List α} {bss : List (List Booking)} {s t : StockTables} {exact : Prop}
  {db d db' : Db}

theorem BooksStock.refl (s : StockTables) : BooksStock exact s s :=
  ⟨[], .refl s, fun _ _ hb => absurd hb List.not_mem_nil⟩

/-- A loop that books some of its lines. -/
theorem booksStock_of_some {productId : α → ℕ} {input : α → Product → MovementInput}
    {pick : α → Prop} (hrun : BookedAll bss.flatten s t)
    (h : List.Forall₂ (fun a bs => (pick a ∧ BooksOne (productId a) (input a) bs) ∨
      (¬pick a ∧ bs = [])) l bss)
    (hgrid : exact → ∀ a ∈ l, ∀ p, OnGrid 3 (input a p).quantityDelta) : BooksStock exact s t := by
  refine ⟨bss.flatten, hrun, fun hexact b hb => ?_⟩
  obtain ⟨a, ha, bs, ⟨-, c, rfl, -, hinput⟩ | ⟨-, rfl⟩, hmem⟩ := exists_round h hb
  · obtain rfl := List.mem_singleton.mp hmem
    rw [hinput]
    exact hgrid hexact a ha b.before
  · exact absurd hmem List.not_mem_nil

/-- A loop that books every line. -/
theorem booksStock_of_all {productId : α → ℕ} {input : α → Product → MovementInput}
    (hrun : BookedAll bss.flatten s t)
    (h : List.Forall₂ (fun a => BooksOne (productId a) (input a)) l bss)
    (hgrid : exact → ∀ a ∈ l, ∀ p, OnGrid 3 (input a p).quantityDelta) : BooksStock exact s t := by
  have hsome : List.Forall₂ (fun a bs => (True ∧ BooksOne (productId a) (input a) bs) ∨
      (¬True ∧ bs = [])) l bss := h.imp fun _ _ hb => .inl ⟨trivial, hb⟩
  exact booksStock_of_some hrun hsome hgrid

theorem writeSale_booksStock {req : FinalizeSale} {cart : PricedCart} {changeDue : ℚ} {saleId : ℕ}
    (hc : checkout db req = .ok (cart, changeDue))
    (h : writeSale db req cart changeDue = .ok (db', saleId)) :
    BooksStock (∀ l ∈ req.lines, OnGrid 3 l.quantity) db.stock db'.stock := by
  obtain ⟨bss, hbss, hrun⟩ := bookedAll_of_writeSale h
  refine booksStock_of_all hrun hbss fun hgrid c hmem _ => ?_
  obtain ⟨-, ⟨line, hline, hquantity⟩, -⟩ := product_of_checkout hc c hmem
  have hquantityGrid : OnGrid 3 c.quantity := hquantity ▸ hgrid line hline
  exact hquantityGrid.neg

theorem createSaleReturn_booksStock {req : CreateSaleReturn} {saleReturnId : ℕ}
    (h : createSaleReturn db req = .ok (db', saleReturnId)) :
    BooksStock (∀ l ∈ req.lines, OnGrid 3 l.quantity) db.stock db'.stock := by
  rcases createSaleReturn_ok h with ⟨-, rfl⟩ | ⟨-, sale, lines, _, _, d, hplan, -, -, hw, hj⟩
  · exact .refl _
  obtain ⟨-, -, -, -, hplanned⟩ := planReturn_ok hplan
  obtain ⟨-, _, _, _, e, -, -, he, rfl⟩ := writeReturn_ok hw
  obtain ⟨bss, hbss, hrun⟩ := bookedAll_of_foldlM
    (fun l => ReturnLine.Books l req.storeId saleReturnId) he
    fun l _ _ _ hl => bookedAll_of_addReturnLine hl
  rw [stock_of_postJournalUnlessEmpty hj]
  refine booksStock_of_some hrun hbss fun hgrid l hl _ => ?_
  show OnGrid 3 l.quantity
  rw [(hplanned l hl).quantity_eq]
  exact onGrid_requestedQty hgrid _

theorem receiveGoods_booksStock {req : ReceiveGoods} {goodsReceiptId : ℕ}
    (h : receiveGoods db req = .ok (db', goodsReceiptId)) :
    BooksStock (∀ l ∈ req.lines, OnGrid 3 l.quantityReceived) db.stock db'.stock := by
  rcases receiveGoods_ok h with rfl | ⟨order, lines, d, hplan, hw, hj⟩
  · exact .refl _
  obtain ⟨-, -, hplanned⟩ := planReceipt_ok hplan
  obtain ⟨bss, hbss, hrun⟩ := bookedAll_of_writeReceipt hw
  rw [stock_of_postJournalUnlessEmpty hj]
  refine booksStock_of_all hrun hbss fun hgrid l hl _ => ?_
  obtain ⟨line, hline, hquantity, -⟩ := (hplanned l hl).requested
  show OnGrid 3 l.quantityReceived
  exact hquantity ▸ hgrid line hline

theorem createPurchaseReturn_booksStock {req : CreatePurchaseReturn} {purchaseReturnId : ℕ}
    (h : createPurchaseReturn db req = .ok (db', purchaseReturnId)) :
    BooksStock (∀ l ∈ req.lines, OnGrid 3 l.quantity) db.stock db'.stock := by
  rcases createPurchaseReturn_ok h with rfl | ⟨lines, d, hplan, hw, hj⟩
  · exact .refl _
  obtain ⟨-, hplanned⟩ := planPurchaseReturn_ok hplan
  obtain ⟨bss, hbss, hrun⟩ := bookedAll_of_writePurchaseReturn hw
  rw [stock_of_postJournalUnlessEmpty hj]
  refine booksStock_of_all hrun hbss fun hgrid l hl _ => ?_
  obtain ⟨line, hline, hquantity⟩ := (hplanned l hl).requested
  have hquantityGrid : OnGrid 3 l.quantity := hquantity ▸ hgrid line hline
  exact hquantityGrid.neg

theorem shipTransfer_booksStock {req : ShipTransfer} (h : shipTransfer db req = .ok db') :
    BooksStock (∀ l ∈ req.lines, OnGrid 3 l.quantityToShip) db.stock db'.stock := by
  rcases shipTransfer_ok h with rfl | ⟨transfer, lines, e, shipped, -, -, -, hplan, he, -, hj⟩
  · exact .refl _
  have hplanned := (planShipment_ok hplan).2.2
  obtain ⟨bss, hbss, hrun⟩ := bookedAll_of_shipLines he
  rw [stock_of_postJournalUnlessEmpty hj]
  refine booksStock_of_all hrun hbss fun hgrid l hl _ => ?_
  obtain ⟨line, hline, hquantity⟩ := (hplanned l hl).requested
  have hquantityGrid : OnGrid 3 l.quantity := hquantity ▸ hgrid line hline
  exact hquantityGrid.neg

theorem receiveTransfer_booksStock {req : ReceiveTransfer} (h : receiveTransfer db req = .ok db') :
    BooksStock (∀ l ∈ req.lines, OnGrid 3 l.quantityReceived) db.stock db'.stock := by
  rcases receiveTransfer_ok h with rfl | ⟨transfer, lines, d, receiptId, -, hplan, hw, hj⟩
  · exact .refl _
  have hplanned := planTransferReceipt_ok hplan
  obtain ⟨-, -, bss, hbss, hrun⟩ := @writeTransferReceipt_ok _ _ _ _ _ _ (fun _ => True) hw
    (fun _ _ _ _ _ => trivial) fun _ _ => trivial
  rw [stock_of_postJournalUnlessEmpty hj]
  exact booksStock_of_some hrun hbss fun hgrid l hl _ => hgrid l.input (hplanned l hl).requested

end Bookings

/-! ### Sales and their keys -/

/-- The keys of the sales, in order of their ids. -/
def saleKeys (db : Db) : List String := db.sales.sales.map (·.val.clientTransactionId)

/-- The sale is there and carries the key. -/
def SaleAt (db : Db) (saleId : ℕ) (key : String) : Prop := (saleKeys db)[saleId]? = some key

section Keys

variable {db d db' : Db} {req : FinalizeSale} {saleId : ℕ}

@[simp] theorem saleKeys_commit (db : Db) : saleKeys db.commit = saleKeys db := rfl

theorem saleAt_of_mem_saleWithKey {key : String} {sale : Row Sale}
    (h : (saleId, sale) ∈ saleWithKey db key) : SaleAt db saleId key := by
  obtain ⟨hrow, hkey⟩ := mem_rowsWhere.mp h
  unfold SaleAt saleKeys
  rw [List.getElem?_map, hrow, Option.map_some, hkey]

theorem not_mem_saleKeys {key : String} (h : saleWithKey db key = []) : key ∉ saleKeys db := by
  intro hmem
  obtain ⟨sale, hsale, hkey⟩ := List.mem_map.mp hmem
  obtain ⟨i, hi⟩ := List.mem_iff_getElem?.mp hsale
  have hfound : (i, sale) ∈ saleWithKey db key := mem_rowsWhere.mpr ⟨hi, hkey⟩
  rw [h] at hfound
  exact absurd hfound List.not_mem_nil

/-- With one sale for every key, the lookup by a key finds its sale. -/
theorem scalarOneOrNone_saleWithKey {key : String} (hkeys : (saleKeys db).Nodup)
    (h : SaleAt db saleId key) :
    ∃ sale, scalarOneOrNone (saleWithKey db key) = .ok (some (saleId, sale)) := by
  unfold SaleAt saleKeys at h
  rw [List.getElem?_map, Option.map_eq_some_iff] at h
  obtain ⟨sale, hsale, hkey⟩ := h
  exact ⟨sale, scalarOneOrNone_eq_some.mpr (rowsWhere_of_key hkeys hsale hkey)⟩

/-- A sale that is written is the last, under the key of its request. -/
theorem saleKeys_writeSale {cart : PricedCart} {changeDue : ℚ}
    (h : writeSale db req cart changeDue = .ok (d, saleId))
    (hj : postSaleJournal d req saleId cart changeDue = .ok db') :
    saleKeys db' = saleKeys db ++ [req.clientTransactionId] ∧
      SaleAt db' saleId req.clientTransactionId := by
  obtain ⟨hid, shiftId, sale, items, payments, hsale, -, -, hd⟩ := writeSale_ok h
  have hframe := postJournal_frame hj
  have hkeys : saleKeys db' = saleKeys db ++ [req.clientTransactionId] := by
    unfold saleKeys
    rw [hframe, hd, List.map_append, List.map_singleton, hsale]
    rfl
  refine ⟨hkeys, ?_⟩
  unfold SaleAt
  rw [hkeys, hid, List.getElem?_append_right (by simp [saleKeys])]
  simp [saleKeys]

theorem createSaleReturn_saleKeys {req : CreateSaleReturn} {saleReturnId : ℕ}
    (h : createSaleReturn db req = .ok (db', saleReturnId)) : saleKeys db' = saleKeys db := by
  rcases createSaleReturn_ok h with ⟨-, rfl⟩ | ⟨-, sale, lines, _, _, d, hplan, -, -, hw, hj⟩
  · rfl
  obtain ⟨hsale, -⟩ := planReturn_ok hplan
  obtain ⟨-, _, _, after, e, -, hafter, he, rfl⟩ := writeReturn_ok hw
  have hloop : e.sales.sales = db.sales.sales := by
    refine foldlM_induct (fun _ t => t.sales.sales = db.sales.sales) he rfl ?_
    rintro done l rest t t' - ht hround
    obtain ⟨_, u, _, -, hu, -, rfl⟩ := addReturnLine_eq_ok.mp hround
    rw [← ht, restockLine_frame hu]
  unfold saleKeys
  rw [postJournalUnlessEmpty_frame hj]
  refine map_set_of_eq (a := sale) ?_ ?_ |>.trans ?_
  · rw [hloop, hsale]
  · rw [hafter]
  · rw [hloop]

theorem receiveGoods_saleKeys {req : ReceiveGoods} {goodsReceiptId : ℕ}
    (h : receiveGoods db req = .ok (db', goodsReceiptId)) : saleKeys db' = saleKeys db := by
  rcases receiveGoods_ok h with rfl | ⟨order, lines, d, -, hw, hj⟩
  · rfl
  obtain ⟨-, _, _, _, _, -, -, -, -, -, hd⟩ := writeReceipt_ok hw
  unfold saleKeys
  rw [postJournalUnlessEmpty_frame hj, hd]

theorem createPurchaseReturn_saleKeys {req : CreatePurchaseReturn} {purchaseReturnId : ℕ}
    (h : createPurchaseReturn db req = .ok (db', purchaseReturnId)) :
    saleKeys db' = saleKeys db := by
  rcases createPurchaseReturn_ok h with rfl | ⟨lines, d, -, hw, hj⟩
  · rfl
  obtain ⟨-, _, -, hd⟩ := writePurchaseReturn_ok hw
  unfold saleKeys
  rw [postJournalUnlessEmpty_frame hj, hd]

theorem shipTransfer_saleKeys {req : ShipTransfer} (h : shipTransfer db req = .ok db') :
    saleKeys db' = saleKeys db := by
  rcases shipTransfer_ok h with rfl | ⟨transfer, lines, e, shipped, -, -, -, -, he, -, hj⟩
  · rfl
  obtain ⟨hframe, -⟩ := @shipLines_ok _ _ _ _ _ (fun _ => True) he (fun _ _ _ _ => trivial)
    fun _ _ => trivial
  unfold saleKeys
  rw [postJournalUnlessEmpty_frame hj, hframe]

theorem receiveTransfer_saleKeys {req : ReceiveTransfer} (h : receiveTransfer db req = .ok db') :
    saleKeys db' = saleKeys db := by
  rcases receiveTransfer_ok h with rfl | ⟨transfer, lines, d, receiptId, -, -, hw, hj⟩
  · rfl
  obtain ⟨hframe, -⟩ := @writeTransferReceipt_ok _ _ _ _ _ _ (fun _ => True) hw
    (fun _ _ _ _ _ => trivial) fun _ _ => trivial
  unfold saleKeys
  rw [postJournalUnlessEmpty_frame hj, hframe]

end Keys

/-! ### What a session does to the shop -/

/-- What a commit of a session has done to the tables and the answers. -/
inductive ShopCommit (shop : Shop) : StockSession → Shop → Prop
  | moved {work : StockWork} {db : Db} (run : work.request.run shop.db = .ok db)
      (books : BooksStock work.request.AtScale shop.db.stock db.stock)
      (keys : saleKeys db = saleKeys shop.db) :
      ShopCommit shop (.begun work) { shop with db := db.commit }
  | answered {req : FinalizeSale} {result : Result ℕ} :
      ShopCommit shop (.answered req result) (shop.reply req (Prod.mk shop.db <$> result))
  | keyMissed {req : FinalizeSale} :
      ShopCommit shop (.keyMissed req) (shop.reply req (finalizeSaleLocked shop.db req))
  | adjusted {req : CreateAdjustment} {loaded : Row Product} {db : Db}
      (run : adjustLoaded shop.db req loaded = .ok db) :
      ShopCommit shop (.productLoaded req loaded) { shop with db := db.commit }

section Steps

variable {shop shop' : Shop} {t t' : StockSession}

theorem Shop.committed_eq_some {result : Result Db} :
    shop.committed result = some shop' ↔ ∃ db, result = .ok db ∧ shop' = { shop with db := db.commit } := by
  unfold Shop.committed
  simp only [Option.map_eq_some_iff, toOption_eq_some, @eq_comm _ _ shop']

theorem shopCommit_of_next {f : Shop → Option Shop} (h : stocking.next t = .commit f)
    (hf : f shop = some shop') : ShopCommit shop t shop' := by
  cases t with
  | begun work =>
    cases work with
    -- these two read before they lock
    | createAdjustment req => cases h
    | finalizeSale req => cases h
    -- the others commit in the step that reads, as all they write is under their locks
    | createSaleReturn req =>
      cases h
      obtain ⟨db, hrun, rfl⟩ := Shop.committed_eq_some.mp hf
      obtain ⟨⟨d, i⟩, hdone, rfl⟩ := map_eq_ok.mp hrun
      exact .moved hrun (createSaleReturn_booksStock hdone) (createSaleReturn_saleKeys hdone)
    | receiveGoods req =>
      cases h
      obtain ⟨db, hrun, rfl⟩ := Shop.committed_eq_some.mp hf
      obtain ⟨⟨d, i⟩, hdone, rfl⟩ := map_eq_ok.mp hrun
      exact .moved hrun (receiveGoods_booksStock hdone) (receiveGoods_saleKeys hdone)
    | createPurchaseReturn req =>
      cases h
      obtain ⟨db, hrun, rfl⟩ := Shop.committed_eq_some.mp hf
      obtain ⟨⟨d, i⟩, hdone, rfl⟩ := map_eq_ok.mp hrun
      exact .moved hrun (createPurchaseReturn_booksStock hdone) (createPurchaseReturn_saleKeys hdone)
    | shipTransfer req =>
      cases h
      obtain ⟨db, hrun, rfl⟩ := Shop.committed_eq_some.mp hf
      exact .moved hrun (shipTransfer_booksStock hrun) (shipTransfer_saleKeys hrun)
    | receiveTransfer req =>
      cases h
      obtain ⟨db, hrun, rfl⟩ := Shop.committed_eq_some.mp hf
      exact .moved hrun (receiveTransfer_booksStock hrun) (receiveTransfer_saleKeys hrun)
  | answered req result =>
    cases h
    cases hf
    exact .answered
  -- the sale from its locks on, which looks its key up once more
  | keyMissed req =>
    cases h
    cases hf
    exact .keyMissed
  | productLoaded req loaded =>
    cases h
    obtain ⟨db, hrun, rfl⟩ := Shop.committed_eq_some.mp hf
    exact .adjusted hrun

/-- Where a session is after a read. -/
theorem session_of_read {f : Shop → Option StockSession} (h : stocking.next t = .read f)
    (hf : f shop = some t') :
    (∃ req, t = .begun (.finalizeSale req) ∧ t' = afterLookup req (lookUpSale shop.db req)) ∨
    ∃ req loaded, t = .begun (.createAdjustment req) ∧ t' = .productLoaded req loaded ∧
      loadForAdjustment shop.db req = .ok loaded := by
  cases t with
  | begun work =>
    cases work with
    | finalizeSale req =>
      cases h
      cases hf
      exact .inl ⟨req, rfl, rfl⟩
    | createAdjustment req =>
      cases h
      obtain ⟨loaded, hloaded, rfl⟩ := Option.map_eq_some_iff.mp hf
      exact .inr ⟨req, loaded, rfl, rfl, toOption_eq_some.mp hloaded⟩
    | createSaleReturn | receiveGoods | createPurchaseReturn | shipTransfer | receiveTransfer =>
      cases h
  | answered | keyMissed | productLoaded => cases h

/-- No session asks for a lock in a step of its own. -/
theorem next_ne_lock {key : ℕ} {f : Shop → Option StockSession} :
    stocking.next t ≠ .lock key f := by
  intro h
  cases t with
  | begun work => cases work <;> cases h
  | answered | keyMissed | productLoaded => cases h

end Steps

end GroceryErp
