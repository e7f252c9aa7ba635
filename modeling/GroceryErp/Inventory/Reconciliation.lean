import GroceryErp.Accounting.Journal
import GroceryErp.Inventory.Bookings

/-!
# Stock and the Inventory account

A sound booking is worth its quantity at its cost: an outflow leaves at the product's
average cost, an inflow changes that cost to the new average.  A request whose postings
to Inventory are the values of its bookings, each rounded to the ledger quantum, keeps
the account and the stock together up to those roundings.

## Main definitions

* `Booking.Sound` — the booking is of the product's own store, and costed as above.
* `stockValue`, `allowance` — what the products of a store are worth, and how far the
  roundings so far may have taken the account from it.
* `StockStep` — a request whose postings are the rounded values of its bookings.
* `Reconciled` — the account and the stock of every store agree up to the allowance.

## Main results

* `BookedAll.value` — a run of sound bookings moves the stock value by their values.
* `StockStep.reconciled` — a stock step keeps the books reconciled.
-/

namespace GroceryErp

open Decimal Ledger Outcome Rows

/-! ### Sound bookings -/

/-- The movements at whose recording the average cost is recomputed. -/
def MovementType.recomputesWac : MovementType → Bool
  | .purchaseReceipt | .saleReturn | .transferIn => true
  | .stockAdjustmentIn | .sale | .purchaseReturn | .stockAdjustmentOut | .transferOut => false

/-- The product keeps its amounts at their scales, and none of them negative. -/
structure Product.InScale (p : Product) : Prop where
  no_negative_stock : p.allowNegativeStock = false
  quantity : OnGrid 3 p.currentQtyOnHand
  quantity_nonneg : 0 ≤ p.currentQtyOnHand
  cost : OnGrid 6 p.currentCost
  cost_nonneg : 0 ≤ p.currentCost

/-- The value of a product: its quantity on hand at its current cost. -/
def Product.value (p : Product) : ℚ := p.currentQtyOnHand * p.currentCost

theorem Product.InScale.stored_eq {p : Product} (h : p.InScale) : p.stored = p := by
  simp only [Product.stored, numeric_eq_self h.quantity, numeric_eq_self h.cost]

/-- The movement is of the product's own store, in whole thousandths, and costed at the
product's current cost or by the new average cost. -/
structure Booking.Sound (b : Booking) : Prop where
  store : b.input.storeId = b.before.storeId
  quantity : OnGrid 3 b.input.quantityDelta
  cost : (b.input.movementType.recomputesWac = false ∧ b.input.newProductCost = none ∧
      b.input.unitCostAtMovement = b.before.currentCost) ∨
    (b.input.movementType.recomputesWac = true ∧ 0 < b.input.quantityDelta ∧
      0 ≤ b.input.unitCostAtMovement ∧
      b.input.newProductCost = some (computeNewWac b.before.currentQtyOnHand
        b.before.currentCost b.input.quantityDelta b.input.unitCostAtMovement))

/-- How far a movement may take the account from the stock: half a quantum for the
amount rounded into the journal, and half a quantum per unit for a new average cost. -/
def InventoryMovement.allowance (m : InventoryMovement) : ℚ :=
  quantum 6 / 2
    + if m.movementType.recomputesWac then quantum 6 / 2 * m.resultingQuantityOnHand else 0

namespace Booking

variable {b : Booking}

/-- A sound booking keeps the product in scale. -/
theorem Sound.inScale_after (hb : b.Sound) (hp : b.before.InScale)
    (hguard : 0 ≤ b.before.currentQtyOnHand + b.input.quantityDelta ∨
      b.before.allowNegativeStock) : b.after.InScale := by
  have hqty : 0 ≤ b.before.currentQtyOnHand + b.input.quantityDelta := by
    rcases hguard with h | h
    · exact h
    · rw [hp.no_negative_stock] at h
      cases h
  refine ⟨hp.no_negative_stock, hp.quantity.add hb.quantity, hqty, ?_, ?_⟩
  · rcases hb.cost with ⟨-, hnone, -⟩ | ⟨-, -, -, hnew⟩
    · simpa [after, Product.afterMovement, hnone] using hp.cost
    · simpa [after, Product.afterMovement, hnew] using onGrid_computeNewWac _ _ _ _
  · rcases hb.cost with ⟨-, hnone, -⟩ | ⟨-, hpos, hcost, hnew⟩
    · simpa [after, Product.afterMovement, hnone] using hp.cost_nonneg
    · simpa [after, Product.afterMovement, hnew] using
        computeNewWac_nonneg hp.quantity_nonneg hp.cost_nonneg hpos.le hcost

/-- **A sound booking is worth its quantity at its cost**, up to half a cost quantum per
unit when the average cost is recomputed. -/
theorem Sound.value (hb : b.Sound) (hp : b.before.InScale) :
    |b.after.value - b.before.value - b.value|
      ≤ if b.input.movementType.recomputesWac then quantum 6 / 2 * b.after.currentQtyOnHand
        else 0 := by
  rcases hb.cost with ⟨htype, hnone, hcost⟩ | ⟨htype, hpos, -, hnew⟩
  · have hzero : b.after.value - b.before.value - b.value = 0 := by
      simp only [after, Product.value, Product.afterMovement, Booking.value, hnone, hcost,
        Option.getD_none]
      ring
    rw [hzero, abs_zero, htype, if_neg Bool.false_ne_true]
  · have hwac := @abs_newWac_value_sub_le b.before.currentQtyOnHand b.before.currentCost
      b.input.quantityDelta b.input.unitCostAtMovement hp.quantity_nonneg hpos
    rw [htype, if_pos rfl]
    refine le_trans (le_of_eq ?_) hwac
    congr 1
    simp only [after, Product.value, Product.afterMovement, Booking.value, hnew, Option.getD_some]
    ring

end Booking

/-! ### Runs of sound bookings -/

/-- What the products of a store are worth at their current costs. -/
def stockValue (s : StockTables) (storeId : ℕ) : ℚ :=
  sumWhere (·.val.storeId = storeId) (·.val.value) s.products

/-- How far the movements of a store may have taken its account from its stock. -/
def allowance (s : StockTables) (storeId : ℕ) : ℚ :=
  sumWhere (·.val.storeId = storeId) (·.val.allowance) s.movements

/-- What the bookings of a store add to its Inventory account. -/
def postedValue (bs : List Booking) (storeId : ℕ) : ℚ :=
  sumWhere (·.input.storeId = storeId) (fun b => ledgerQuantize b.value) bs

/-- Every product is in scale: quantity and cost are as their columns keep them. -/
def StockInScale (s : StockTables) : Prop := ∀ p ∈ s.products, p.val.InScale

section Run

variable {b : Booking} {bs : List Booking} {s t : StockTables}

theorem Booked.inScale (h : Booked b s t) (hb : b.Sound) (hs : StockInScale s) :
    StockInScale t := by
  obtain ⟨hguard, p, p', row, hp, hbefore, hafter, -, hproducts, -⟩ := h
  intro q hq
  rw [hproducts] at hq
  refine forall_mem_set hs ?_ q hq
  rw [hafter]
  exact hb.inScale_after (hbefore ▸ hs p (mem_of_row hp)) hguard

/-- One booking moves the stock value by what it posts, up to the allowance it adds. -/
theorem Booked.value (h : Booked b s t) (hb : b.Sound) (hs : StockInScale s) (storeId : ℕ) :
    |stockValue t storeId - stockValue s storeId - postedValue [b] storeId|
      ≤ allowance t storeId - allowance s storeId := by
  have hguard := h.guard
  obtain ⟨-, p, p', row, hp, hbefore, hafter, hrow, hproducts, hmovements⟩ := h
  have hscale : b.before.InScale := hbefore ▸ hs p (mem_of_row hp)
  have hstore : p'.val.storeId = b.before.storeId := by rw [hafter]; rfl
  have hrowstore : row.val.storeId = b.before.storeId := by
    rw [hrow]
    exact hb.store
  rw [stockValue, stockValue, allowance, allowance, postedValue, hproducts, hmovements,
    sumWhere_set _ _ hp, sumWhere_append, sumWhere_singleton, sumWhere_singleton, hbefore, hstore,
    hrowstore, hb.store, hafter]
  split
  · -- the booking is of this store
    have hvalue := hb.value hscale
    have hround := abs_quantize_sub_le 6 b.value
    have hrowqty : row.val.resultingQuantityOnHand = b.after.currentQtyOnHand := by
      rw [hrow]
      exact numeric_eq_self (hb.inScale_after hscale hguard).quantity
    have hrowtype : row.val.movementType = b.input.movementType := by rw [hrow]; rfl
    rw [InventoryMovement.allowance, hrowqty, hrowtype]
    have hsplit : sumWhere (·.val.storeId = storeId) (·.val.value) s.products - b.before.value
          + b.after.value - sumWhere (·.val.storeId = storeId) (·.val.value) s.products
          - ledgerQuantize b.value
        = (b.after.value - b.before.value - b.value) - (quantize 6 b.value - b.value) := by
      rw [ledgerQuantize]
      ring
    rw [hsplit]
    refine (abs_sub _ _).trans ?_
    linarith
  · simp

theorem postedValue_cons (b : Booking) (bs : List Booking) (storeId : ℕ) :
    postedValue (b :: bs) storeId = postedValue [b] storeId + postedValue bs storeId := by
  rw [postedValue, postedValue, postedValue, sumWhere_cons, sumWhere_singleton]

/-- **A run of sound bookings moves the stock value by what it posts**, up to the
allowance it adds, and keeps the products in scale. -/
theorem BookedAll.value (h : BookedAll bs s t) (hb : ∀ b ∈ bs, b.Sound) (hs : StockInScale s) :
    StockInScale t ∧ ∀ storeId,
      |stockValue t storeId - stockValue s storeId - postedValue bs storeId|
        ≤ allowance t storeId - allowance s storeId := by
  induction h with
  | nil products movements =>
    refine ⟨fun p hp => hs p (products ▸ hp), fun storeId => ?_⟩
    simp [stockValue, allowance, products, movements, postedValue]
  | @cons b bs s t u first rest ih =>
    have hsound := hb b List.mem_cons_self
    obtain ⟨hscale, hrest⟩ := ih (fun c hc => hb c (List.mem_cons_of_mem _ hc))
      (first.inScale hsound hs)
    refine ⟨hscale, fun storeId => ?_⟩
    have h1 := first.value hsound hs storeId
    have h2 := hrest storeId
    rw [postedValue_cons]
    have hsplit : stockValue u storeId - stockValue s storeId
          - (postedValue [b] storeId + postedValue bs storeId)
        = (stockValue t storeId - stockValue s storeId - postedValue [b] storeId)
          + (stockValue u storeId - stockValue t storeId - postedValue bs storeId) := by
      ring
    rw [hsplit]
    refine (abs_add_le _ _).trans ?_
    linarith

end Run

/-! ### Loops of bookings -/

/-- What a movement at the current cost keeps of a product. -/
def Product.storeAndCost (p : Product) : ℕ × ℚ := (p.storeId, p.currentCost)

/-- The movement moves stock of the product at its current cost. -/
structure MovementInput.AtCost (m : MovementInput) (s : StockTables) (productId : ℕ) : Prop where
  quantity : OnGrid 3 m.quantityDelta
  type : m.movementType.recomputesWac = false
  cost_kept : m.newProductCost = none
  product : ∃ p, s.products[productId]? = some p ∧ p.val.storeId = m.storeId ∧
    p.val.currentCost = m.unitCostAtMovement

/-- The movement brings stock of the product in, at the average cost it leads to. -/
structure MovementAtNewCost (input : Product → MovementInput) (s : StockTables)
    (productId : ℕ) : Prop where
  quantity : ∀ p, OnGrid 3 (input p).quantityDelta ∧ 0 < (input p).quantityDelta
  type : ∀ p, (input p).movementType.recomputesWac = true
  cost_nonneg : ∀ p, 0 ≤ (input p).unitCostAtMovement
  new_cost : ∀ p, (input p).newProductCost = some (computeNewWac p.currentQtyOnHand p.currentCost
    (input p).quantityDelta (input p).unitCostAtMovement)
  product : ∃ q, s.products[productId]? = some q ∧ ∀ p, (input p).storeId = q.val.storeId

section Loops

variable {α : Type} {l : List α} {bss : List (List Booking)} {spec : α → List Booking → Prop}
  {s t : StockTables}

/-- A booking of a loop is one of some round. -/
theorem exists_round {b : Booking} (h : List.Forall₂ spec l bss) (hb : b ∈ bss.flatten) :
    ∃ a ∈ l, ∃ bs, spec a bs ∧ b ∈ bs := by
  induction h with
  | nil => exact absurd hb List.not_mem_nil
  | @cons a bs l bss ha _ ih =>
    rw [List.flatten_cons, List.mem_append] at hb
    rcases hb with hb | hb
    · exact ⟨a, List.mem_cons_self, bs, ha, hb⟩
    · obtain ⟨c, hc, cs, hspec, hmem⟩ := ih hb
      exact ⟨c, List.mem_cons_of_mem _ hc, cs, hspec, hmem⟩

/-- What a loop posts for a store is the sum of what its rounds post there. -/
theorem postedValue_flatten {g : α → ℚ} {sId storeId : ℕ} (h : List.Forall₂ spec l bss)
    (round : ∀ a ∈ l, ∀ bs, spec a bs → postedValue bs storeId = if sId = storeId then g a else 0) :
    postedValue bss.flatten storeId = if sId = storeId then (l.map g).sum else 0 := by
  induction h with
  | nil => simp [postedValue]
  | @cons a bs l bss ha _ ih =>
    have hfirst := round a List.mem_cons_self bs ha
    have hrest := ih fun c hc => round c (List.mem_cons_of_mem _ hc)
    rw [List.flatten_cons, postedValue, sumWhere_append, ← postedValue, ← postedValue, hfirst, hrest,
      List.map_cons, List.sum_cons]
    split <;> simp

/-- What a request that books one movement posts to the ledger of each store. -/
theorem BooksOne.postedValue {productId sId storeId : ℕ} {input : Product → MovementInput}
    {v : ℚ} {bs : List Booking} (h : BooksOne productId input bs)
    (store : ∀ p, (input p).storeId = sId)
    (value : ∀ p, (input p).quantityDelta * (input p).unitCostAtMovement = v) :
    GroceryErp.postedValue bs storeId = if sId = storeId then ledgerQuantize v else 0 := by
  obtain ⟨b, rfl, -, hb⟩ := h
  rw [GroceryErp.postedValue, sumWhere_singleton, Booking.value, hb, store, value]

/-- Movements at the current cost book soundly: none of them changes a cost. -/
theorem sound_of_atCost {productId : α → ℕ} {m : α → MovementInput}
    (hrun : BookedAll bss.flatten s t)
    (h : List.Forall₂ (fun a => BooksOne (productId a) fun _ => m a) l bss)
    (hm : ∀ a ∈ l, (m a).AtCost s (productId a)) : ∀ b ∈ bss.flatten, b.Sound := by
  have hround : ∀ b ∈ bss.flatten, ∃ a ∈ l, b.productId = productId a ∧ b.input = m a := by
    intro b hb
    obtain ⟨a, ha, bs, ⟨c, rfl, hid, hinput⟩, hmem⟩ := exists_round h hb
    obtain rfl := List.mem_singleton.mp hmem
    exact ⟨a, ha, hid, hinput⟩
  have hkeeps : ∀ b ∈ bss.flatten, b.after.storeAndCost = b.before.storeAndCost := by
    intro b hb
    obtain ⟨a, ha, -, hinput⟩ := hround b hb
    simp [Product.storeAndCost, Booking.after, Product.afterMovement, hinput, (hm a ha).cost_kept]
  intro b hb
  obtain ⟨a, ha, hid, hinput⟩ := hround b hb
  obtain ⟨p, hp, hbefore⟩ := hrun.before_kept hkeeps b hb
  obtain ⟨p', hp', hstore, hcost⟩ := (hm a ha).product
  rw [hid, hp'] at hp
  obtain rfl := Option.some.inj hp
  obtain ⟨hs, hc⟩ := Prod.mk.inj hbefore
  refine ⟨?_, hinput ▸ (hm a ha).quantity, .inl ⟨?_, ?_, ?_⟩⟩
  · rw [hinput, hs, hstore]
  · rw [hinput, (hm a ha).type]
  · rw [hinput, (hm a ha).cost_kept]
  · rw [hinput, hc, hcost]

/-- Movements that lead to a new average cost book soundly. -/
theorem sound_of_atNewCost {productId : α → ℕ} {input : α → Product → MovementInput}
    {pick : α → Prop} (hrun : BookedAll bss.flatten s t)
    (h : List.Forall₂ (fun a bs => (pick a ∧ BooksOne (productId a) (input a) bs) ∨
      (¬pick a ∧ bs = [])) l bss)
    (hm : ∀ a ∈ l, pick a → MovementAtNewCost (input a) s (productId a)) :
    ∀ b ∈ bss.flatten, b.Sound := by
  intro b hb
  obtain ⟨a, ha, bs, ⟨hpick, c, rfl, hid, hinput⟩ | ⟨-, rfl⟩, hmem⟩ := exists_round h hb
  · obtain rfl := List.mem_singleton.mp hmem
    have hnew := hm a ha hpick
    obtain ⟨p, hp, hbefore⟩ := hrun.before_kept (f := Product.storeId) (fun _ _ => rfl) b hb
    obtain ⟨q, hq, hstore⟩ := hnew.product
    rw [hid, hq] at hp
    obtain rfl := Option.some.inj hp
    refine ⟨?_, ?_, .inr ⟨?_, ?_, ?_, ?_⟩⟩
    · rw [hinput, hstore, hbefore]
    · exact hinput ▸ (hnew.quantity b.before).1
    · rw [hinput, hnew.type]
    · exact hinput ▸ (hnew.quantity b.before).2
    · exact hinput ▸ hnew.cost_nonneg b.before
    · exact hinput ▸ hnew.new_cost b.before
  · exact absurd hmem List.not_mem_nil

/-- The same for a loop whose every round books. -/
theorem sound_of_all_atNewCost {productId : α → ℕ} {input : α → Product → MovementInput}
    (hrun : BookedAll bss.flatten s t)
    (h : List.Forall₂ (fun a => BooksOne (productId a) (input a)) l bss)
    (hm : ∀ a ∈ l, MovementAtNewCost (input a) s (productId a)) : ∀ b ∈ bss.flatten, b.Sound := by
  have hall : List.Forall₂ (fun a bs => (True ∧ BooksOne (productId a) (input a) bs) ∨
      (¬True ∧ bs = [])) l bss := h.imp fun _ _ hb => .inl ⟨trivial, hb⟩
  exact sound_of_atNewCost hrun hall fun a ha _ => hm a ha

end Loops

/-! ### Requests -/

/-- The request books soundly, and what it posts to the Inventory account of each store
is what its bookings there post. -/
def StockStep (db db' : Db) : Prop :=
  ∃ bs, BookedAll bs db.stock db'.stock ∧ (∀ b ∈ bs, b.Sound) ∧
    ∀ storeId, glBalance db' storeId .inventory
      = glBalance db storeId .inventory + postedValue bs storeId

/-- The products are in scale, and the Inventory account of every store is worth its
stock, up to the roundings so far. -/
structure Reconciled (db : Db) : Prop where
  scale : StockInScale db.stock
  agrees : ∀ storeId,
    |glBalance db storeId .inventory - stockValue db.stock storeId| ≤ allowance db.stock storeId

variable {db d db' : Db}

/-- A request that touches neither stock nor journal. -/
theorem StockStep.of_eq (hp : db'.stock.products = db.stock.products)
    (hm : db'.stock.movements = db.stock.movements)
    (he : db'.ledger.entries = db.ledger.entries) : StockStep db db' :=
  ⟨[], .nil hp hm, by simp, fun s => by simp [glBalance_congr he, postedValue]⟩

theorem StockStep.refl (db : Db) : StockStep db db := .of_eq rfl rfl rfl

theorem StockStep.trans (h : StockStep db d) (h' : StockStep d db') : StockStep db db' := by
  obtain ⟨bs, hrun, hsound, hgl⟩ := h
  obtain ⟨bs', hrun', hsound', hgl'⟩ := h'
  refine ⟨bs ++ bs', hrun.append hrun', ?_, fun s => ?_⟩
  · intro b hb
    rcases List.mem_append.mp hb with hb | hb
    · exact hsound b hb
    · exact hsound' b hb
  · rw [hgl', hgl, add_assoc]
    simp only [postedValue, sumWhere_append]

theorem StockStep.inScale (h : StockStep db db') (hdb : StockInScale db.stock) :
    StockInScale db'.stock := by
  obtain ⟨bs, hrun, hsound, -⟩ := h
  exact (hrun.value hsound hdb).1

/-- **A stock step keeps the books reconciled.** -/
theorem StockStep.reconciled (h : StockStep db db') (hdb : Reconciled db) : Reconciled db' := by
  obtain ⟨bs, hrun, hsound, hgl⟩ := h
  obtain ⟨hscale, hvalue⟩ := hrun.value hsound hdb.scale
  refine ⟨hscale, fun s => ?_⟩
  have h1 := hdb.agrees s
  have h2 := hvalue s
  rw [hgl]
  have hsplit : glBalance db s .inventory + postedValue bs s - stockValue db'.stock s
      = (glBalance db s .inventory - stockValue db.stock s)
        - (stockValue db'.stock s - stockValue db.stock s - postedValue bs s) := by
    ring
  rw [hsplit]
  refine (abs_sub _ _).trans ?_
  linarith

/-- Products in scale are stored as they are. -/
theorem commit_products (h : StockInScale db.stock) :
    db.commit.stock.products = db.stock.products := by
  calc db.commit.stock.products = db.stock.products.map id :=
        List.map_congr_left fun p hp => Subtype.ext (h p hp).stored_eq
    _ = db.stock.products := List.map_id _

end GroceryErp
