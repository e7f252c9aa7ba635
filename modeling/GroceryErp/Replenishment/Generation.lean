import GroceryErp.Lib.Allocations
import GroceryErp.Lib.Readings
import GroceryErp.Replenishment.Plans
import Mathlib.Data.Prod.Lex

/-!
# Generating replenishment plans

What a product at or below its reorder point is short of is first taken from the stores that
have a surplus of it, the one with the most first; what is left is ordered from the supplier
that is ranked first.  Every source is a plan of its own.

The functions are the parts of `generate_replenishment_plans`, between which other sessions may
commit.

## Main definitions

* `generationStore`, `replenishedProducts`, `shortages` — what a generation is about.
* `rankSourceStores`, `rankSuppliers` — the sources in their order.
* `Sourcing`, `Sourcing.plans` — what has been read of the sources, and the sibling plans.
* `insertPlans` — what a generation writes.
* `Siblings` — what the sibling plans of a product come to.

## Main results

* `Sourcing.siblings` — the plans of a product are siblings.

## References

`backend/app/modules/replenishment/service.py`.
-/

namespace GroceryErp

open Allocations Decimal Outcome Readings Rows

/-! ### What is short -/

/-- The request to generate plans; the batch id that they share is drawn anew. -/
structure GeneratePlans where
  storeId : Option ℕ
  productIds : Option (List ℕ)
  callerStoreId : Option ℕ
  batchId : String
  today : Date

/-- The store that plans are generated for; none where they are for all. -/
def generationStore (req : GeneratePlans) : Result (Option ℕ) :=
  match req.callerStoreId with
  | none => return req.storeId
  | some callerStoreId => do
    raiseIf (req.storeId ≠ none ∧ req.storeId ≠ some callerStoreId) (.forbidden .storeAccessDenied)
    return some callerStoreId

/-- The active products with a reorder point, of the store and among those asked for. -/
def replenishedProducts (db : Db) (storeId : Option ℕ) (productIds : Option (List ℕ)) :
    List (ℕ × Row Product) :=
  (rowsWhere (fun p => p.val.reorderPoint ≠ none ∧ p.val.isActive ∧
    ∀ s ∈ storeId, p.val.storeId = s) db.stock.products).filter fun x => ∀ ids ∈ productIds, x.1 ∈ ids

/-- A product, its position and what it is short of. -/
structure Shortage where
  product : ℕ × Row Product
  position : ℚ
  shortfall : ℚ

/-- The store and the product, which are the keys of the advisory lock. -/
def Shortage.key (s : Shortage) : ℕ × ℕ := (s.product.2.val.storeId, s.product.1)

/-- A product above its reorder point, or with its target on the way, is passed over. -/
def shortageOf (inbound openPo : ℕ → ℚ) (product : ℕ × Row Product) : Option Shortage := do
  let reorderPoint ← product.2.val.reorderPoint
  let pos := positionBreakdown inbound openPo product
  let shortfall := currentShortfall inbound openPo product
  if reorderPoint < pos.position ∨ shortfall ≤ 0 then none
  else some { product, position := pos.position, shortfall }

/-- What the loop over the products stops at. -/
def shortages (inbound openPo : ℕ → ℚ) (products : List (ℕ × Row Product)) : List Shortage :=
  products.filterMap (shortageOf inbound openPo)

/-- Plans of these statuses keep others from being generated. -/
def PlanStatus.IsActive (s : PlanStatus) : Prop := s = .recommended ∨ s = .approved

instance decidableIsActive : DecidablePred PlanStatus.IsActive :=
  fun _ => inferInstanceAs (Decidable (_ ∨ _))

/-- A plan for the product of the store that is recommended or approved. -/
def activePlans (db : Db) (key : ℕ × ℕ) : List (ℕ × Row ReplenishmentPlan) :=
  rowsWhere (fun p => p.val.destinationStoreId = key.1 ∧ p.val.productId = key.2 ∧
    p.val.status.IsActive) db.replenishment.plans

/-- `classify_urgency`: urgent when nothing is left, or less than the minimum that is set for the
product. -/
def classifyUrgency (product : Product) (position : ℚ) : PlanUrgency :=
  if position ≤ 0 then .urgent
  else if ∃ minimum ∈ product.minimumStockQuantity, position < minimum then .urgent
  else .normal

/-! ### Stores -/

/-- What a product has above its reorder point, and less than nothing where it is below. -/
def Product.surplus (p : Product) : ℚ := p.currentQtyOnHand - p.reorderPoint.getD 0

/-- The active products of other stores with the SKU.  One that the session has in `loaded`
keeps the columns it was loaded with. -/
def sisterProducts (db : Db) (loaded : List (ℕ × Row Product)) (product : Product) :
    List (Row Product) :=
  (rowsWhere (fun p => p.val.sku = product.sku ∧ p.val.storeId ≠ product.storeId ∧
    p.val.isActive) db.stock.products).map fun x =>
      ((loaded.find? (·.1 = x.1)).map Prod.snd).getD x.2

/-- The order of the stores: the one with the most first. -/
def storeBefore (a b : ℕ × ℚ) : Prop := b.2 < a.2 ∨ (a.2 = b.2 ∧ a.1 ≤ b.1)

instance : DecidableRel storeBefore := fun _ _ => inferInstanceAs (Decidable (_ ∨ _))

/-- `rank_source_stores`: the sister stores that have a surplus, the largest first. -/
def rankSourceStores (sisters : List (Row Product)) : List (ℕ × ℚ) :=
  ((sisters.map fun p => (p.val.storeId, p.val.surplus)).filter (0 < ·.2)).insertionSort storeBefore

/-! ### Suppliers -/

/-- The current terms of a supplier who is active, and what is ordered in excess under them. -/
structure SupplierCandidate where
  terms : Row SupplierProduct
  isPreferred : Bool
  waste : ℚ

/-- What the suppliers are sorted by, the first entry before all others. -/
def SupplierCandidate.rank (c : SupplierCandidate) : ℕ ×ₗ ℚ ×ₗ ℚ ×ₗ ℕ ×ₗ ℕ :=
  toLex (if c.isPreferred then 0 else 1, toLex (c.terms.val.unitCost, toLex (c.waste,
    toLex (c.terms.val.leadTimeDays.getD (2 ^ 31), c.terms.val.supplierId))))

/-- One round of the loop over the suppliers. -/
def supplierCandidate (product : ℕ × Row Product) (quantity : ℚ) (today : Date) (supplierId : ℕ) :
    Reading Db AppError (Option SupplierCandidate) := do
  match ← .ask fun db => getCurrentSupplierProduct db supplierId product.1 today with
  | none => return none
  | some terms =>
    match ← .ask fun db => db.master.suppliers[supplierId]? with
    | none => return none
    | some supplier =>
      if supplier.isActive then
        let rounded := applyMoqAndPackRounding quantity terms.val.minimumOrderQuantity
          (some terms.val.packSize)
        return some {
          terms
          isPreferred := product.2.val.defaultSupplierId = some supplierId
          waste := rounded - quantity }
      else return none

/-- `rank_suppliers`: the active suppliers with terms for the product, the preferred one first, then
by cost, by what is ordered in excess, by lead time and by id. -/
def rankSuppliers (product : ℕ × Row Product) (quantity : ℚ) (today : Date) :
    Reading Db AppError (List (Row SupplierProduct)) := do
  let supplierIds ← .ask fun db => distinct <|
    (db.replenishment.supplierProducts.filter (·.val.productId = product.1)).map (·.val.supplierId)
  let ranked ← supplierIds.mapM (supplierCandidate product quantity today)
  return (ranked.reduceOption.insertionSort (·.rank ≤ ·.rank)).map (·.terms)

/-! ### The sibling plans -/

/-- What has been read for a product: the sister products, and the supplier that is ranked
first, where one was looked for. -/
structure Sourcing where
  shortage : Shortage
  sisters : List (Row Product)
  best : Option (Row SupplierProduct) := none

namespace Sourcing

variable (x : Sourcing)

/-- What remains of the shortfall once the stores have given, and what each has given. -/
def split : ℚ × List (ℕ × ℚ) := takeInTurn x.shortage.shortfall (rankSourceStores x.sisters)

/-- A recommendation, as its columns keep it. -/
def plan (batchId : String) (source : PlanSource) (quantity : ℚ) (unitCost : Option ℚ) :
    ReplenishmentPlan where
  destinationStoreId := x.shortage.product.2.val.storeId
  productId := x.shortage.product.1
  neededQuantity := numeric 3 x.shortage.shortfall
  suggestedQuantity := numeric 3 quantity
  source := source
  status := .recommended
  executionClientTransactionId := none
  executedQuantity := none
  executedUnitCost := none
  generatedPurchaseOrderId := none
  generatedTransferId := none
  generationBatchId := batchId
  urgency := classifyUrgency x.shortage.product.2.val x.shortage.position
  suggestedUnitCost := unitCost.map (numeric 6)

/-- The plans for transfers, one for each sister store that something is taken from. -/
def transferPlans (batchId : String) : List ReplenishmentPlan :=
  x.split.2.map fun taken => x.plan batchId (.transfer taken.1) taken.2 none

/-- The plan for an order of what remains, once the other stores have given what they can. -/
def supplierPlan (batchId : String) (best : SupplierProduct) : ReplenishmentPlan :=
  x.plan batchId (.supplier best.supplierId) (applyMoqAndPackRounding x.split.1
    best.minimumOrderQuantity (some best.packSize)) (some best.unitCost)

/-- The sibling plans of the product. -/
def plans (batchId : String) : List ReplenishmentPlan :=
  x.transferPlans batchId ++ (x.best.map fun best => x.supplierPlan batchId best.val).toList

end Sourcing

/-- What a generation writes: the plans of all its shortages, together. -/
def insertPlans (db : Db) (plans : List ReplenishmentPlan) : Result Db := do
  let rows ← plans.mapM fun plan => flush plan
  return { db with replenishment.plans := db.replenishment.plans ++ rows }

/-! ### What is found -/

section Found

variable {db : Db}

/-- A shortage is of the product, and as its position says. -/
theorem shortageOf_eq_some {inbound openPo : ℕ → ℚ} {product : ℕ × Row Product} {s : Shortage}
    (h : shortageOf inbound openPo product = some s) :
    s.product = product ∧ s.shortfall = currentShortfall inbound openPo product ∧
      0 < s.shortfall := by
  unfold shortageOf at h
  obtain ⟨reorderPoint, -, h⟩ := Option.bind_eq_some_iff.mp h
  dsimp only at h
  split at h
  · cases h
  · next hshort =>
    cases h
    exact ⟨rfl, rfl, not_le.mp fun hle => hshort (.inr hle)⟩

theorem shortages_sublist (inbound openPo : ℕ → ℚ) (products : List (ℕ × Row Product)) :
    ((shortages inbound openPo products).map (·.product)).Sublist products := by
  induction products with
  | nil => exact List.Sublist.refl _
  | cons x products ih =>
    unfold shortages at *
    rw [List.filterMap_cons]
    split
    · exact ih.cons x
    · next s hs =>
      rw [List.map_cons, (shortageOf_eq_some hs).1]
      exact ih.cons_cons x

theorem mem_replenishedProducts {storeId : Option ℕ} {productIds : Option (List ℕ)}
    {x : ℕ × Row Product} (h : x ∈ replenishedProducts db storeId productIds) :
    db.stock.products[x.1]? = some x.2 :=
  (mem_rowsWhere.mp (List.mem_filter.mp h).1).1

/-- A sister product is active, has the SKU and is of another store, and is as it is stored or as
the session has loaded it. -/
theorem mem_sisterProducts {loaded : List (ℕ × Row Product)} {product : Product}
    {sister : Row Product} (h : sister ∈ sisterProducts db loaded product) :
    ∃ (i : ℕ) (fresh : Row Product), db.stock.products[i]? = some fresh ∧
      (fresh.val.sku = product.sku ∧ fresh.val.storeId ≠ product.storeId ∧ fresh.val.isActive) ∧
      ((i, sister) ∈ loaded ∨ sister = fresh) := by
  obtain ⟨⟨i, fresh⟩, hx, rfl⟩ := List.mem_map.mp h
  obtain ⟨hrow, hfresh⟩ := mem_rowsWhere.mp hx
  refine ⟨i, fresh, hrow, hfresh, ?_⟩
  cases hfind : loaded.find? (·.1 = i) with
  | none => exact .inr rfl
  | some y =>
    have hid : y.1 = i := by simpa using List.find?_some hfind
    have hmem : (i, y.2) ∈ loaded := hid ▸ List.mem_of_find?_eq_some hfind
    exact .inl hmem

end Found

/-! ### What the siblings come to -/

/-- The plan is sourced from another store, as a transfer. -/
def ReplenishmentPlan.FromStore (p : ReplenishmentPlan) : Prop :=
  match p.source with
  | .transfer _ => True
  | .supplier _ => False

/-- The plan is sourced from a supplier, as an order. -/
def ReplenishmentPlan.FromSupplier (p : ReplenishmentPlan) : Prop :=
  match p.source with
  | .transfer _ => False
  | .supplier _ => True

instance decidableFromStore : DecidablePred ReplenishmentPlan.FromStore := fun p =>
  match p with
  | { source := .transfer _, .. } => .isTrue trivial
  | { source := .supplier _, .. } => .isFalse id

instance decidableFromSupplier : DecidablePred ReplenishmentPlan.FromSupplier := fun p =>
  match p with
  | { source := .transfer _, .. } => .isFalse id
  | { source := .supplier _, .. } => .isTrue trivial

/-- What is transferred by the plans, over those that are sourced from a store. -/
def transferred (plans : List ReplenishmentPlan) : ℚ :=
  sumWhere ReplenishmentPlan.FromStore (·.suggestedQuantity) plans

/-- The plans for a shortfall.  A store is asked for some of its surplus, the stores together
for no more than is short, and one supplier at most for the rest; where a supplier is asked, or
the stores cover everything, nothing stays short. -/
structure Siblings (shortfall : ℚ) (sisters : List (Row Product)) (plans : List ReplenishmentPlan) :
    Prop where
  spared : ∀ p ∈ plans, ∀ storeId, p.source = .transfer storeId → 0 < p.suggestedQuantity ∧
    ∃ sister ∈ sisters, sister.val.storeId = storeId ∧ p.suggestedQuantity ≤ sister.val.surplus
  within : transferred plans ≤ shortfall
  one_supplier : (plans.filter ReplenishmentPlan.FromSupplier).length ≤ 1
  covered : ((∃ p ∈ plans, p.FromSupplier) ∨ shortfall ≤ transferred plans) →
    shortfall ≤ (plans.map (·.suggestedQuantity)).sum

/-- A store that is ranked has a surplus, and is that of a sister product. -/
theorem mem_rankSourceStores {sisters : List (Row Product)} {source : ℕ × ℚ}
    (h : source ∈ rankSourceStores sisters) :
    ∃ sister ∈ sisters, sister.val.storeId = source.1 ∧ sister.val.surplus = source.2 := by
  unfold rankSourceStores at h
  rw [List.mem_insertionSort, List.mem_filter] at h
  obtain ⟨sister, hmem, rfl⟩ := List.mem_map.mp h.1
  exact ⟨sister, hmem, rfl, rfl⟩

namespace Sourcing

variable {x : Sourcing}

/-- What the plans for transfers suggest is what the stores give, where that is in thousandths. -/
theorem suggested_transferPlans (batchId : String) (htakes : ∀ taken ∈ x.split.2, OnGrid 3 taken.2) :
    (x.transferPlans batchId).map (·.suggestedQuantity) = x.split.2.map Prod.snd := by
  unfold transferPlans
  rw [List.map_map]
  apply List.map_congr_left
  intro taken hmem
  exact numeric_eq_self (htakes taken hmem)

theorem fromStore_of_mem {batchId : String} : ∀ p ∈ x.transferPlans batchId, p.FromStore := by
  intro p hp
  obtain ⟨taken, -, rfl⟩ := List.mem_map.mp hp
  exact trivial

theorem transferred_transferPlans (batchId : String) :
    transferred (x.transferPlans batchId)
      = ((x.transferPlans batchId).map (·.suggestedQuantity)).sum := by
  unfold transferred sumWhere
  rw [List.filter_eq_self.mpr fun p hp => decide_eq_true (fromStore_of_mem p hp)]

/-- A supplier is asked for what remains, at the least. -/
theorem le_supplierPlan (batchId : String) (best : SupplierProduct) (hrest : OnGrid 3 x.split.1) :
    x.split.1 ≤ (x.supplierPlan batchId best).suggestedQuantity :=
  have hrounded : x.split.1 ≤ applyMoqAndPackRounding x.split.1 best.minimumOrderQuantity
      (some best.packSize) := (le_raiseToMinimum _ _).trans raiseToMinimum_le_apply
  calc x.split.1 = numeric 3 x.split.1 := (numeric_eq_self hrest).symm
    _ ≤ (x.supplierPlan batchId best).suggestedQuantity := quantize_mono hrounded

/-- **The plans of a product are siblings.** -/
theorem siblings (batchId : String) (hshort : 0 ≤ x.shortage.shortfall)
    (hgrid : OnGrid 3 x.shortage.shortfall)
    (hsisters : ∀ sister ∈ x.sisters, OnGrid 3 sister.val.surplus) :
    Siblings x.shortage.shortfall x.sisters (x.plans batchId) := by
  have hsources : ∀ source ∈ rankSourceStores x.sisters, OnGrid 3 source.2 := by
    intro source hsource
    obtain ⟨sister, hmem, -, hsurplus⟩ := mem_rankSourceStores hsource
    exact hsurplus ▸ hsisters sister hmem
  obtain ⟨hrest, htakes⟩ : OnGrid 3 x.split.1 ∧ ∀ taken ∈ x.split.2, OnGrid 3 taken.2 :=
    takeInTurn_closed OnGrid.sub hgrid hsources
  have hnonneg : 0 ≤ x.split.1 := rest_nonneg hshort _
  have hsum : x.split.1 + transferred (x.transferPlans batchId) = x.shortage.shortfall := by
    rw [transferred_transferPlans, suggested_transferPlans batchId htakes]
    exact rest_add_sum _ _
  have hstores : ∀ p ∈ x.transferPlans batchId, ∀ storeId, p.source = .transfer storeId →
      0 < p.suggestedQuantity ∧ ∃ sister ∈ x.sisters, sister.val.storeId = storeId ∧
        p.suggestedQuantity ≤ sister.val.surplus := by
    intro p hp storeId hsource
    obtain ⟨taken, hmem, rfl⟩ := List.mem_map.mp hp
    obtain rfl : taken.1 = storeId := PlanSource.transfer.inj hsource
    obtain ⟨hpos, available, havailable, hle⟩ := taken_of_mem taken hmem
    obtain ⟨sister, hsister, hstoreId, hsurplus⟩ := mem_rankSourceStores havailable
    have hquantity : numeric 3 taken.2 = taken.2 := numeric_eq_self (htakes taken hmem)
    simp only [plan, hquantity]
    exact ⟨hpos, sister, hsister, hstoreId, hsurplus.symm ▸ hle⟩
  -- no plan for a transfer is for a supplier
  have hfilter : (x.transferPlans batchId).filter ReplenishmentPlan.FromSupplier = [] := by
    rw [List.filter_eq_nil_iff]
    intro p hp
    obtain ⟨taken, -, rfl⟩ := List.mem_map.mp hp
    exact of_decide_eq_false rfl
  cases hbest : x.best with
  | none =>
    have hplans : x.plans batchId = x.transferPlans batchId := by simp [plans, hbest]
    rw [hplans]
    refine ⟨hstores, by linarith, by simp [hfilter], ?_⟩
    rintro (⟨p, hp, hsupplier⟩ | hcovered)
    · obtain ⟨taken, -, rfl⟩ := List.mem_map.mp hp
      exact absurd hsupplier id
    · rwa [← transferred_transferPlans]
  | some best =>
    have hplans : x.plans batchId
        = x.transferPlans batchId ++ [x.supplierPlan batchId best.val] := by simp [plans, hbest]
    have hasked := le_supplierPlan batchId best.val hrest
    have htransferred : transferred (x.plans batchId) = transferred (x.transferPlans batchId) := by
      rw [hplans]
      exact (sumWhere_append _ _ _ _).trans (add_zero _)
    refine ⟨?_, ?_, ?_, ?_⟩
    · rw [hplans]
      intro p hp storeId hsource
      rcases List.mem_append.mp hp with hstore | hsupplier
      · exact hstores p hstore storeId hsource
      · rw [List.mem_singleton.mp hsupplier] at hsource
        cases hsource
    · rw [htransferred]
      linarith
    · rw [hplans, List.filter_append, hfilter]
      exact List.length_filter_le _ _
    · intro _
      rw [hplans, List.map_append, List.sum_append, ← transferred_transferPlans, List.map_singleton,
        List.sum_singleton]
      linarith

end Sourcing

end GroceryErp
