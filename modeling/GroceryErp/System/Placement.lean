import GroceryErp.Inventory.Reconciliation
import GroceryErp.Inventory.Counts
import GroceryErp.Purchasing.Orders
import GroceryErp.Purchasing.Receiving
import GroceryErp.Purchasing.Returning
import GroceryErp.Sales.Refunds
import GroceryErp.Transfers.Transfers

/-!
# Products of the right store

The services move stock in the name of the store of a document: an order, a sale, a
transfer, a count.  The rows of every document name products of that store, and no
request moves a product to another store.

## Main definitions

* `ProductAt` — the product is there and belongs to the store.
* `Placed` — the rows of every document name products of its store.

## Main results

* `Placed.next` — a request keeps it if it does so for the documents it writes.
-/

namespace GroceryErp

open Decimal Outcome Rows

/-! ### The invariant -/

/-- The product is there and belongs to the store. -/
def ProductAt (s : StockTables) (productId storeId : ℕ) : Prop :=
  HasAt s.products (·.val.storeId) productId storeId

/-- Order items name products of the order's store, so that a receipt moves stock of that store
alone. -/
def OrdersPlaced (s : StockTables) (t : PurchasingTables) : Prop :=
  ∀ i ∈ t.orderItems, ∃ storeId,
    HasAt t.orders (·.storeId) i.val.purchaseOrderId storeId ∧ ProductAt s i.val.productId storeId

/-- Sale items name products of the sale's store, and their quantities are whole
thousandths. -/
def SalesPlaced (s : StockTables) (t : SalesTables) : Prop :=
  ∀ i ∈ t.items, OnGrid 3 i.val.quantity ∧ OnGrid 3 i.val.quantityReturned ∧ ∃ storeId,
    HasAt t.sales (·.val.storeId) i.val.saleId storeId ∧ ProductAt s i.val.productId storeId

/-- Transfer lines take products of the source store to products of the destination, at
a cost that is not negative. -/
def TransfersPlaced (s : StockTables) (t : TransferTables) : Prop :=
  ∀ l ∈ t.lines, (∀ c ∈ l.val.unitCostAtShipment, 0 ≤ c) ∧ ∃ fromStoreId toStoreId,
    HasAt t.transfers (·.val.fromStoreId) l.val.transferId fromStoreId ∧
    HasAt t.transfers (·.val.toStoreId) l.val.transferId toStoreId ∧
    ProductAt s l.val.sourceProductId fromStoreId ∧
    ProductAt s l.val.destinationProductId toStoreId

/-- Count lines name products of the count's store, and their counted quantities are
whole thousandths. -/
def CountsPlaced (s : StockTables) : Prop :=
  ∀ l ∈ s.countLines, (∀ q ∈ l.val.countedQuantity, OnGrid 3 q) ∧ ∃ storeId,
    HasAt s.counts (·.storeId) l.val.stockCountId storeId ∧ ProductAt s l.val.productId storeId

/-- The rows of every document name products of its store. -/
structure Placed (db : Db) : Prop where
  orders : OrdersPlaced db.stock db.purchasing
  sales : SalesPlaced db.stock db.sales
  transfers : TransfersPlaced db.stock db.transfers
  counts : CountsPlaced db.stock

/-! ### Products stay where they are -/

/-- Every product that was there still is, in the same store. -/
def StoresKept (s t : StockTables) : Prop :=
  ∀ productId storeId, ProductAt s productId storeId → ProductAt t productId storeId

section Kept

variable {s t u : StockTables} {bs : List Booking} {db db' : Db}

theorem StoresKept.of_eq (h : t.products = s.products) : StoresKept s t := fun _ _ hp => by
  rw [ProductAt, h]
  exact hp

theorem BookedAll.storesKept (h : BookedAll bs s t) : StoresKept s t := by
  rintro i storeId ⟨p, hp, rfl⟩
  exact h.productStore hp

theorem StockStep.storesKept (h : StockStep db db') : StoresKept db.stock db'.stock := by
  obtain ⟨bs, hrun, -⟩ := h
  exact hrun.storesKept

theorem storesKept_commit (db : Db) : StoresKept db.stock db.commit.stock := fun _ _ hp =>
  hp.map fun _ => rfl

theorem OrdersPlaced.mono {p q : PurchasingTables} (h : OrdersPlaced s p) (hk : StoresKept s t)
    (ho : q.orders = p.orders) (hi : q.orderItems = p.orderItems) : OrdersPlaced t q := by
  intro i hmem
  obtain ⟨storeId, hof, hp⟩ := h i (hi ▸ hmem)
  exact ⟨storeId, ho ▸ hof, hk _ _ hp⟩

theorem SalesPlaced.mono {p : SalesTables} (h : SalesPlaced s p) (hk : StoresKept s t) :
    SalesPlaced t p := by
  intro i hi
  obtain ⟨hq, hr, storeId, ho, hp⟩ := h i hi
  exact ⟨hq, hr, storeId, ho, hk _ _ hp⟩

theorem TransfersPlaced.mono {p : TransferTables} (h : TransfersPlaced s p)
    (hk : StoresKept s t) : TransfersPlaced t p := by
  intro l hl
  obtain ⟨hc, fromStoreId, toStoreId, hf, ht, hsource, hdest⟩ := h l hl
  exact ⟨hc, fromStoreId, toStoreId, hf, ht, hk _ _ hsource, hk _ _ hdest⟩

theorem CountsPlaced.mono (h : CountsPlaced s) (hk : StoresKept s t) (hc : t.counts = s.counts)
    (hl : t.countLines = s.countLines) : CountsPlaced t := by
  intro l hmem
  obtain ⟨hq, storeId, ho, hp⟩ := h l (hl ▸ hmem)
  exact ⟨hq, storeId, hc ▸ ho, hk _ _ hp⟩

/-- A request keeps the placement if it does so for the documents it writes. -/
theorem Placed.next (h : Placed db) (hk : StoresKept db.stock db'.stock)
    (orders : db'.purchasing = db.purchasing ∨ OrdersPlaced db'.stock db'.purchasing)
    (sales : db'.sales = db.sales ∨ SalesPlaced db'.stock db'.sales)
    (transfers : db'.transfers = db.transfers ∨ TransfersPlaced db'.stock db'.transfers)
    (counts : (db'.stock.counts = db.stock.counts ∧ db'.stock.countLines = db.stock.countLines) ∨
      CountsPlaced db'.stock) : Placed db' where
  orders := orders.elim (fun he => h.orders.mono hk (he ▸ rfl) (he ▸ rfl)) id
  sales := sales.elim (fun he => he ▸ h.sales.mono hk) id
  transfers := transfers.elim (fun he => he ▸ h.transfers.mono hk) id
  counts := counts.elim (fun he => h.counts.mono hk he.1 he.2) id

theorem Placed.commit (h : Placed db) : Placed db.commit := by
  have hk := storesKept_commit db
  refine ⟨?_, h.sales.mono hk, ?_, h.counts.mono hk rfl rfl⟩
  · intro i hi
    obtain ⟨j, hj, rfl⟩ := List.mem_map.mp hi
    obtain ⟨storeId, ho, hp⟩ := h.orders j hj
    exact ⟨storeId, ho, hk _ _ hp⟩
  · intro l hl
    obtain ⟨k, hk', rfl⟩ := List.mem_map.mp hl
    obtain ⟨hc, fromStoreId, toStoreId, hf, ht, hsource, hdest⟩ := h.transfers k hk'
    refine ⟨fun c hcost => ?_, fromStoreId, toStoreId, hf, ht, hk _ _ hsource, hk _ _ hdest⟩
    obtain ⟨c', hc', rfl⟩ := Option.map_eq_some_iff.mp hcost
    exact quantize_nonneg (hc c' hc')

end Kept

end GroceryErp
