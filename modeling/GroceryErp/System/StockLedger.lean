import GroceryErp.System.SaleReplays

/-!
# The cached quantity and the ledger

`products.current_qty_on_hand` is a cache of the sum of the product's movements.  A request
that locks a product before it loads it writes the sum on; an adjustment loads first, and
writes on from what it has loaded.

## Main definitions

* `LedgerExact` — every product's quantity is the sum of its movements.
* `LoadsFresh` — quantities in thousandths, and no product changed between the load of an
  adjustment and its lock.

## Main results

* `LedgerExact.write` — a movement from the quantity there was.
* `stock_matches_ledger` — over any run.
* `adjustment_over_sale` — an adjustment that a sale overtakes loses the sale.

## References

`backend/app/modules/inventory/service.py`, `get_quantity_on_hand_from_ledger` and
`record_movement`; `backend/app/api/v1/endpoints/inventory.py`, `create_adjustment`.
-/

namespace GroceryErp

open Decimal Outcome Rows Runs Transactions

/-- The quantity of every product is the sum of its movements, in whole thousandths. -/
def LedgerExact (s : StockTables) : Prop :=
  ∀ i p, s.products[i]? = some p →
    OnGrid 3 p.val.currentQtyOnHand ∧ p.val.currentQtyOnHand = getQuantityOnHandFromLedger s i

/-! ### Movements -/

section Movements

variable {s u : StockTables} {b : Booking} {bs : List Booking} {db db' : Db} {exact : Prop}
  {row product : Row Product} {movement : Row InventoryMovement} {productId : ℕ} {δ : ℚ}

/-- A movement from the quantity there was. -/
theorem LedgerExact.write (h : LedgerExact s) (hδ : OnGrid 3 δ)
    (hrow : s.products[productId]? = some row)
    (hqty : product.val.currentQtyOnHand = row.val.currentQtyOnHand + δ)
    (hid : movement.val.productId = productId) (hdelta : movement.val.quantityDelta = δ)
    (hproducts : u.products = s.products.set productId product)
    (hmovements : u.movements = s.movements ++ [movement]) : LedgerExact u := by
  intro i p hp
  rw [hproducts, getElem?_set_of_some hrow] at hp
  unfold getQuantityOnHandFromLedger
  rw [hmovements, sumWhere_append, sumWhere_singleton, hid]
  by_cases hi : productId = i
  · subst hi
    obtain rfl : product = p := by simpa using hp
    obtain ⟨hgrid, hsum⟩ := h productId row hrow
    refine ⟨hqty ▸ hgrid.add hδ, ?_⟩
    rw [hqty, hsum, if_pos rfl, hdelta]
    rfl
  · rw [if_neg hi] at hp
    rw [if_neg hi, add_zero]
    exact h i p hp

theorem LedgerExact.booked (h : LedgerExact s) (hb : Booked b s u)
    (hgrid : OnGrid 3 b.input.quantityDelta) : LedgerExact u := by
  obtain ⟨-, p, p', row, hp, hbefore, hafter, hrow, hproducts, hmovements⟩ := hb
  refine h.write hgrid hp ?_ ?_ ?_ hproducts hmovements
  · rw [hafter, hbefore]
    rfl
  · rw [hrow]
    rfl
  · rw [hrow]
    exact numeric_eq_self hgrid

theorem LedgerExact.bookedAll (h : LedgerExact s) (hb : BookedAll bs s u)
    (hgrid : ∀ b ∈ bs, OnGrid 3 b.input.quantityDelta) : LedgerExact u := by
  induction hb with
  | nil products movements =>
    intro i p hp
    unfold getQuantityOnHandFromLedger
    rw [movements]
    exact h i p (products ▸ hp)
  | @cons b bs s t u first rest ih =>
    have hfirst : LedgerExact t := h.booked first (hgrid b List.mem_cons_self)
    exact ih hfirst fun c hc => hgrid c (List.mem_cons_of_mem _ hc)

theorem LedgerExact.booksStock (h : LedgerExact s) (hb : BooksStock exact s u) (hexact : exact) :
    LedgerExact u := by
  obtain ⟨bs, hrun, hgrid⟩ := hb
  exact h.bookedAll hrun (hgrid hexact)

/-- Quantities in thousandths are stored as they are. -/
theorem LedgerExact.commit (h : LedgerExact db.stock) : LedgerExact db.commit.stock := by
  intro i p hp
  obtain ⟨q, hq, rfl⟩ := Option.map_eq_some_iff.mp ((List.getElem?_map ..).symm.trans hp)
  obtain ⟨hgrid, hsum⟩ := h i q hq
  have hstored : (q.val.stored).currentQtyOnHand = q.val.currentQtyOnHand := numeric_eq_self hgrid
  show OnGrid 3 q.val.stored.currentQtyOnHand ∧ q.val.stored.currentQtyOnHand = _
  rw [hstored]
  exact ⟨hgrid, hsum⟩

/-! ### Adjustments -/

/-- A replay of an adjustment writes nothing, whatever was loaded. -/
theorem adjustLoaded_of_replay {req : CreateAdjustment} {loaded : Row Product}
    (h : adjustLoaded db req loaded = .ok db')
    (hkey : adjustmentWithKey db req.clientTransactionId ≠ []) : db' = db := by
  unfold adjustLoaded at h
  simp only [bind_eq_ok, orRaise_eq_ok, flush_eq_ok, pure_eq_ok, Prod.exists] at h
  obtain ⟨row, hrow, d, i, hd, changed, hchanged, product, hproduct, rfl⟩ := h
  have hsame : d = { db with stock.products := db.stock.products.set req.productId loaded } := by
    unfold createStockAdjustment at hd
    rw [bind_eq_ok] at hd
    obtain ⟨found, hfound, hd⟩ := hd
    cases found with
    | none => exact absurd (scalarOneOrNone_eq_none.mp hfound) hkey
    | some r =>
      obtain ⟨j, adjustment⟩ := r
      simp only [pure_eq_ok, Prod.mk.injEq] at hd
      exact hd.1.symm
  subst hsame
  have hlt : req.productId < db.stock.products.length := (List.getElem?_eq_some_iff.mp hrow).1
  obtain rfl : loaded = changed := Option.some.inj ((List.getElem?_set_self hlt).symm.trans hchanged)
  rw [Product.update_loaded] at hproduct
  rw [Subtype.ext hproduct, set_self hrow]

/-- An adjustment of an object whose quantity is still that of its row. -/
theorem LedgerExact.adjusted {req : CreateAdjustment} {loaded : Row Product}
    (h : LedgerExact db.stock) (hgrid : OnGrid 3 req.quantityDelta)
    (hfresh : ∀ row ∈ db.stock.products[req.productId]?,
      row.val.currentQtyOnHand = loaded.val.currentQtyOnHand)
    (hdone : adjustLoaded db req loaded = .ok db') : LedgerExact db'.stock := by
  rcases adjustLoaded_ok hdone with rfl | ⟨row, product, movement, m, hrow, hδ, -, hproduct,
    hmovement, hproducts, hmovements, -⟩
  · exact h
  refine h.write hgrid hrow ?_ ?_ ?_ hproducts hmovements
  · -- the UPDATE writes the quantity on from what was loaded
    have hsame := hfresh row hrow
    rw [hproduct, hsame, ← hδ]
    show (if loaded.val.currentQtyOnHand + m.quantityDelta = loaded.val.currentQtyOnHand
      then row.val.currentQtyOnHand else loaded.val.currentQtyOnHand + m.quantityDelta) = _
    split
    · next hzero => rw [hzero, hsame]
    · rfl
  · rw [hmovement]
    rfl
  · rw [hmovement, ← hδ]
    exact numeric_eq_self (hδ ▸ hgrid)

end Movements

/-! ### Runs -/

namespace StockSession

/-- The quantities of the request are in whole thousandths. -/
def AtScale : StockSession → Prop
  | begun work => work.request.AtScale
  | keyMissed req => ∀ l ∈ req.lines, OnGrid 3 l.quantity
  | productLoaded req _ => OnGrid 3 req.quantityDelta
  | answered _ _ => True

/-- An adjustment that is not a replay finds the quantity that it has loaded. -/
def LoadedFresh (shop : Shop) : StockSession → Prop
  | productLoaded req loaded => adjustmentWithKey shop.db req.clientTransactionId = [] →
    ∀ row ∈ shop.db.stock.products[req.productId]?,
      row.val.currentQtyOnHand = loaded.val.currentQtyOnHand
  | begun _ | keyMissed _ | answered _ _ => True

end StockSession

/-- Requests have quantities in thousandths, and no product changes between the load of an
adjustment and its lock. -/
def LoadsFresh (sv : StockServer) : Event StockWork → Prop
  | .begin _ work => work.request.AtScale
  | .step k => ∀ t ∈ sv.sessions k, t.LoadedFresh sv.tables
  | .rollback _ => True

section Decide

instance : ∀ work : StockWork, Decidable work.request.AtScale
  | .createAdjustment req => inferInstanceAs (Decidable (OnGrid 3 req.quantityDelta))
  | .finalizeSale req => inferInstanceAs (Decidable (∀ l ∈ req.lines, OnGrid 3 l.quantity))
  | .createSaleReturn req => inferInstanceAs (Decidable (∀ l ∈ req.lines, OnGrid 3 l.quantity))
  | .receiveGoods req =>
    inferInstanceAs (Decidable (∀ l ∈ req.lines, OnGrid 3 l.quantityReceived))
  | .createPurchaseReturn req =>
    inferInstanceAs (Decidable (∀ l ∈ req.lines, OnGrid 3 l.quantity))
  | .shipTransfer req => inferInstanceAs (Decidable (∀ l ∈ req.lines, OnGrid 3 l.quantityToShip))
  | .receiveTransfer req =>
    inferInstanceAs (Decidable (∀ l ∈ req.lines, OnGrid 3 l.quantityReceived))

instance (shop : Shop) : ∀ t : StockSession, Decidable (t.LoadedFresh shop)
  | .productLoaded _ _ => inferInstanceAs (Decidable (_ → ∀ row ∈ _, _))
  | .begun _ | .keyMissed _ | .answered _ _ => inferInstanceAs (Decidable True)

instance (sv : StockServer) : ∀ e, Decidable (LoadsFresh sv e)
  | .begin _ work => inferInstanceAs (Decidable work.request.AtScale)
  | .step k => inferInstanceAs (Decidable (∀ t ∈ sv.sessions k, t.LoadedFresh sv.tables))
  | .rollback _ => inferInstanceAs (Decidable True)

end Decide

/-- What a commit of a session keeps. -/
theorem LedgerExact.shopCommit {shop shop' : Shop} {t : StockSession}
    (h : LedgerExact shop.db.stock) (hscale : t.AtScale) (hfresh : t.LoadedFresh shop)
    (hdone : ShopCommit shop t shop') : LedgerExact shop'.db.stock := by
  cases hdone with
  | @moved work d run books keys =>
    have hd : LedgerExact d.stock := h.booksStock books hscale
    exact hd.commit
  | @adjusted req loaded d run =>
    have hd : LedgerExact d.stock := by
      by_cases hkey : adjustmentWithKey shop.db req.clientTransactionId = []
      · exact h.adjusted hscale (hfresh hkey) run
      · rw [adjustLoaded_of_replay run hkey]
        exact h
    exact hd.commit
  | @answered req result =>
    cases result with
    | ok saleId => exact h.commit
    | error e => exact h
  | @keyMissed req =>
    match hrun : finalizeSaleLocked shop.db req with
    | .error e => exact h
    | .ok (d, saleId) =>
      have hd : LedgerExact d.stock := by
        rcases finalizeSaleLocked_ok hrun with ⟨rfl, -⟩ | ⟨-, -, -, hbooks⟩
        · exact h
        · exact h.booksStock hbooks hscale
      exact hd.commit

/-- The sessions of the shop keep the cache with the ledger. -/
theorem stocking_keeps_ledger :
    stocking.Keeps LoadsFresh (fun shop => LedgerExact shop.db.stock) fun _ _ t => t.AtScale where
  start _ _ _ _ hok := hok
  read H shop t t' f _ ht hnext hf := by
    rcases session_of_read hnext hf with ⟨req, rfl, rfl⟩ | ⟨req, loaded, rfl, rfl, -⟩
    · match lookUpSale shop.db req with
      | .error _ | .ok (some _) => trivial
      | .ok none => exact ht
    · exact ht
  lock H shop t t' key f _ _ hnext _ := absurd hnext next_ne_lock
  commit sv k t f shop hsv hok hopen hnext hf :=
    hsv.tables.shopCommit (hsv.sessions k t hopen) (hok t hopen) (shopCommit_of_next hnext hf)
  stable sv k t f shop j u hsv _ _ _ _ _ hu := hsv.sessions j u hu

/-- **The cache is the sum of the ledger**: over any run whose quantities are in thousandths
and in which no product changes between the load of an adjustment and its lock. -/
theorem stock_matches_ledger {db₀ : Db} {sv : StockServer} (hexact : LedgerExact db₀.stock)
    (hrun : Reaches stocking.exec LoadsFresh { tables := { db := db₀ } } sv) (productId : ℕ)
    (product : Row Product) (hproduct : sv.tables.db.stock.products[productId]? = some product) :
    product.val.currentQtyOnHand = getQuantityOnHandFromLedger sv.tables.db.stock productId :=
  ((stocking_keeps_ledger.reaches (Server.inv_of_tables hexact) hrun).tables productId product
    hproduct).2

/-! ### An adjustment that a sale overtakes -/

/-- Apples are found, or missed, and stock is adjusted. -/
def findApples (quantityDelta : ℚ) : CreateAdjustment where
  productId := 0
  quantityDelta := quantityDelta
  reasonCode := .stocktakeCorrection
  clientTransactionId := none
  callerStoreId := none
  today := 0

/-- Ten apples are found; and five more, while one is sold. -/
def found (rest : List (Event StockWork)) : List (Event StockWork) :=
  [.begin 0 (.createAdjustment (findApples 10)), .step 0, .step 0,
    .begin 1 (.createAdjustment (findApples 5)), .step 1,
    .begin 2 (.finalizeSale sellApple), .step 2] ++ rest

def noApples : Db := greengrocerWith ⟨apples 0, by decide +kernel⟩

theorem ledgerExact_noApples : LedgerExact noApples.stock := by
  intro i p hp
  obtain rfl := List.mem_singleton.mp (mem_of_row hp)
  exact ⟨onGrid_zero 3, rfl⟩

/-- The adjustment is made before the sale. -/
def madeInTurn : StockServer :=
  value ((found [.step 1, .step 2]).foldlM (guarded stocking.exec LoadsFresh .blocked)
    { tables := { db := noApples } }) (by decide +kernel)

/-- The apples on hand, in the cache. -/
def onHand (sv : StockServer) : Option ℚ :=
  sv.tables.db.stock.products[0]?.map (·.val.currentQtyOnHand)

theorem stock_matches_ledger_apples :
    onHand madeInTurn = some (getQuantityOnHandFromLedger madeInTurn.tables.db.stock 0) := by
  have hproduct : ∃ product, madeInTurn.tables.db.stock.products[0]? = some product :=
    Option.isSome_iff_exists.mp (by decide +kernel)
  obtain ⟨product, hproduct⟩ := hproduct
  unfold onHand
  rw [hproduct]
  exact congrArg some (stock_matches_ledger ledgerExact_noApples
    (reaches_of_guarded (eq_ok_value _ _)) 0 product hproduct)

/-- The sale commits between the load of the adjustment and its lock. -/
def overtaken : StockServer :=
  value ((found [.step 2, .step 1]).foldlM (fun sv e => stocking.exec e sv)
    { tables := { db := noApples } }) (by decide +kernel)

/-- **An adjustment that a sale overtakes loses the sale**: all sessions have ended, with
fifteen apples in the cache and fourteen in the ledger. -/
theorem adjustment_over_sale :
    LedgerExact noApples.stock ∧
      Reaches stocking.exec (fun _ _ => True) { tables := { db := noApples } } overtaken ∧
      (∀ k < 3, (overtaken.sessions k).isNone) ∧ onHand overtaken = some 15 ∧
      getQuantityOnHandFromLedger overtaken.tables.db.stock 0 = 14 := by
  refine ⟨ledgerExact_noApples, reaches_of_foldlM (eq_ok_value _ _), ?_, ?_, ?_⟩
  · decide +kernel
  · decide +kernel
  · decide +kernel

end GroceryErp
