import GroceryErp.Replenishment.PlanningRuns

/-!
# Generations over any run

The plans that a generation has drawn up go back, read by read, to the states of the run in
which it saw the products, what was on its way of them, and their sister products.  Under the
advisory lock no plan of another run has come between.

## Main definitions

* `ShortIn`, `SisterIn` — a shortage, and a sister product, as a generation has read them.
* `GeneratedSiblings` — what the plans for a product come to.

## Main results

* `witnessed_of_session` — what a session has found it has read in the run.
* `generated_siblings` — the plans that a run adds are siblings, and come where there is no
  active plan.

## References

`backend/app/modules/replenishment/service.py`, `generate_replenishment_plans`.
-/

namespace GroceryErp

open Decimal Outcome Rows Runs Transactions

/-! ### What was read in the run -/

/-- A shortage by reads of three states of the run, one after the other: of the product, of what
was on its way in transfers, and of what was on order. -/
def ShortIn (start sv : PlanningServer) (s : Shortage) : Prop :=
  ∃ seen mid mid' : PlanningServer, PlanningRun start seen ∧ PlanningRun seen mid ∧
    PlanningRun mid mid' ∧ PlanningRun mid' sv ∧
    seen.tables.stock.products[s.product.1]? = some s.product.2 ∧
    s.shortfall = currentShortfall (inboundTransferQuantities mid.tables [s.product.1])
      (openPurchaseOrderQuantities mid'.tables [s.product.1]) s.product

/-- A sister product by reads of two states of the run: it was active, with the SKU and in
another store in the one, and its columns are those of the other. -/
def SisterIn (start sv : PlanningServer) (s : Shortage) (sister : Row Product) : Prop :=
  ∃ (seen mid : PlanningServer) (i : ℕ) (fresh : Row Product), PlanningRun start seen ∧
    PlanningRun seen mid ∧ PlanningRun mid sv ∧
    seen.tables.stock.products[i]? = some sister ∧ mid.tables.stock.products[i]? = some fresh ∧
    fresh.val.sku = s.product.2.val.sku ∧ fresh.val.storeId ≠ s.product.2.val.storeId ∧
    fresh.val.isActive

/-- The products, as one state shows them. -/
def ShownIn (db : Db) (products : List (ℕ × Row Product)) : Prop :=
  ∀ x ∈ products, db.stock.products[x.1]? = some x.2

/-- What a generation has found was there in states of the run. -/
def witnessed (start sv : PlanningServer) : Findings where
  products products :=
    ∃ seen : PlanningServer, PlanningRun start seen ∧ PlanningRun seen sv ∧
      ShownIn seen.tables products
  inbound products inbound :=
    ∃ seen mid : PlanningServer, PlanningRun start seen ∧ PlanningRun seen mid ∧
      PlanningRun mid sv ∧ ShownIn seen.tables products ∧
      inbound = inboundTransferQuantities mid.tables (products.map Prod.fst)
  shortages l := ∀ s ∈ l, ShortIn start sv s
  sister s sister := SisterIn start sv s sister

section Witnessed

variable {start sv sv' : PlanningServer} {db₀ : Db}

/-- What is on its way of a product does not depend on the others that are asked for. -/
theorem inboundTransferQuantities_of_mem {db : Db} {productId : ℕ} {productIds : List ℕ}
    (hmem : productId ∈ productIds) : inboundTransferQuantities db productIds productId
      = inboundTransferQuantities db [productId] productId :=
  (remainingQuantities_apply _ hmem).trans
    (remainingQuantities_apply _ (List.mem_singleton_self productId)).symm

theorem openPurchaseOrderQuantities_of_mem {db : Db} {productId : ℕ} {productIds : List ℕ}
    (hmem : productId ∈ productIds) : openPurchaseOrderQuantities db productIds productId
      = openPurchaseOrderQuantities db [productId] productId :=
  (remainingQuantities_apply _ hmem).trans
    (remainingQuantities_apply _ (List.mem_singleton_self productId)).symm

theorem currentShortfall_congr {inbound inbound' openPo openPo' : ℕ → ℚ}
    {product : ℕ × Row Product} (hinbound : inbound product.1 = inbound' product.1)
    (hopenPo : openPo product.1 = openPo' product.1) :
    currentShortfall inbound openPo product = currentShortfall inbound' openPo' product := by
  simp only [currentShortfall, positionBreakdown, hinbound, hopenPo]

/-- What is read now is there now. -/
theorem witnessed_read (hrun : PlanningRun start sv) : (witnessed start sv).ReadIn sv.tables where
  products storeId productIds :=
    ⟨sv, hrun, .start, fun x hx => mem_replenishedProducts hx⟩
  inbound products hproducts := by
    obtain ⟨seen, hseen, hrest, hshown⟩ := hproducts
    exact ⟨seen, sv, hseen, hrest, .start, hshown, rfl⟩
  shortages products inbound _ hinbound := by
    obtain ⟨seen, mid, hseen, hmid, hrest, hshown, rfl⟩ := hinbound
    intro s hs
    obtain ⟨x, hx, hshort⟩ := List.mem_filterMap.mp hs
    obtain ⟨rfl, hformula, -⟩ := shortageOf_eq_some hshort
    have hmem : s.product.1 ∈ products.map Prod.fst := List.mem_map_of_mem hx
    refine ⟨seen, mid, sv, hseen, hmid, hrest, .start, hshown _ hx, ?_⟩
    rw [hformula]
    exact currentShortfall_congr (inboundTransferQuantities_of_mem hmem)
      (openPurchaseOrderQuantities_of_mem hmem)
  sister products s hproducts sister hsister := by
    obtain ⟨i, fresh, hfresh, hsame, hloaded | rfl⟩ := mem_sisterProducts hsister
    · obtain ⟨seen, hseen, hrest, hshown⟩ := hproducts
      exact ⟨seen, sv, i, fresh, hseen, hrest, .start, hshown _ hloaded, hfresh, hsame⟩
    · exact ⟨sv, sv, i, sister, hrun, .start, .start, hfresh, hfresh, hsame⟩
  sublist l l' hsub h s hs := h s (hsub.subset hs)

/-- It was still there when more has happened. -/
theorem witnessed_mono (hmore : PlanningRun sv sv') :
    (witnessed start sv).Implies (witnessed start sv') where
  products products h := by
    obtain ⟨seen, hseen, hrest, hshown⟩ := h
    exact ⟨seen, hseen, hrest.trans hmore, hshown⟩
  inbound products inbound h := by
    obtain ⟨seen, mid, hseen, hmid, hrest, hshown⟩ := h
    exact ⟨seen, mid, hseen, hmid, hrest.trans hmore, hshown⟩
  shortages l h s hs := by
    obtain ⟨seen, mid, mid', hseen, hmid, hmid', hrest, hshown⟩ := h s hs
    exact ⟨seen, mid, mid', hseen, hmid, hmid', hrest.trans hmore, hshown⟩
  sister s sister h := by
    obtain ⟨seen, mid, i, fresh, hseen, hmid, hrest, hshown⟩ := h
    exact ⟨seen, mid, i, fresh, hseen, hmid, hrest.trans hmore, hshown⟩

/-- **What a session has found it has read in the run.** -/
theorem witnessed_of_session (hrun : PlanningRun { tables := db₀ } sv) {k : ℕ} {t : PlanningSession}
    (hopen : sv.sessions k = some t) : (witnessed { tables := db₀ } sv).Of t := by
  refine Program.session_induct (Q := fun sv _ t => (witnessed { tables := db₀ } sv).Of t)
    ?_ ?_ ?_ hrun hopen
  · intro sv k work
    cases work <;> trivial
  · intro sv k t t' run h hcame
    cases hcame with
    | read opened next result =>
      exact Findings.advance (PlanningSession.advance_of_read next result) (witnessed_read run) h
    | lock opened next result =>
      exact Findings.advance (PlanningSession.advance_of_lock next result) (witnessed_read run) h
  · intro sv sv' e k t _ done h
    exact Findings.of_mono (witnessed_mono (.next .start trivial done)) h

end Witnessed

/-! ### What a generation creates -/

/-- The plans in `rows` for a product of the generation.  What was short and what the sister
products have to spare was read in the run; the plans are siblings, and where they come there is
no active plan. -/
structure GeneratedSiblings (start sv : PlanningServer) (rows : List (Row ReplenishmentPlan))
    (x : Sourcing) : Prop where
  short : ShortIn start sv x.shortage
  sisters : ∀ sister ∈ x.sisters, SisterIn start sv x.shortage sister
  siblings : Siblings x.shortage.shortfall x.sisters
    ((rows.map (·.val)).filter (·.productId = x.shortage.product.1))
  none_active : NoActivePlan sv.tables x.shortage.key

/-- The plans that a generation has drawn up for a product. -/
theorem Generation.plans_of_product {g : Generation}
    (hdistinct : (g.created.map (·.shortage.product.1)).Nodup) {x : Sourcing} (hx : x ∈ g.created) :
    g.plans.filter (·.productId = x.shortage.product.1) = x.plans g.req.batchId := by
  refine filter_flatMap_of_key (k := ReplenishmentPlan.productId) ?_ hdistinct hx
  intro y _ p hp
  rcases List.mem_append.mp hp with hstore | hsupplier
  · obtain ⟨taken, -, rfl⟩ := List.mem_map.mp hstore
    rfl
  · obtain ⟨best, -, rfl⟩ := Option.map_eq_some_iff.mp (Option.mem_toList.mp hsupplier)
    rfl

/-- **Under any interleaving the plans that are added for a product are siblings, and there is no
active plan for it when they come.**  Every store gives some of its surplus, the stores together
no more than is short, and there is one supplier at the most; where there is one, or the stores
cover everything, nothing stays short. -/
theorem generated_siblings {db₀ : Db} {sv sv' : PlanningServer} {e : Event PlanningWork}
    (hstored : db₀.commit = db₀) (hrun : PlanningRun { tables := db₀ } sv)
    (hdone : planning.exec e sv = .ok sv') :
    sv'.tables.replenishment.plans.length = sv.tables.replenishment.plans.length ∨
    ∃ (k : ℕ) (g : Generation) (rows : List (Row ReplenishmentPlan)),
      e = .step k ∧ sv.sessions k = some (.generating g) ∧
      sv'.tables.replenishment.plans = sv.tables.replenishment.plans ++ rows ∧
      ∀ row ∈ rows, row.val.status = .recommended ∧
        ∃ x ∈ g.created, (row.val.destinationStoreId, row.val.productId) = x.shortage.key ∧
          GeneratedSiblings { tables := db₀ } sv rows x := by
  have hinv : sv.Inv (fun db => db.commit = db) PlanningSession.Informed := by
    refine (planning_keeps (fun _ h => h) ?_).reaches (Server.inv_of_tables hstored) hrun
    intro sv k t db' hsv _ _ hstep
    exact hstep.stored hsv.tables
  rcases (Program.exec_did hdone).tables with hsame | ⟨k, t, f, rfl, hopen, hnext, hcommit⟩
  · rw [hsame]
    exact .inl rfl
  have hQ := hinv.sessions k t hopen
  have hstep := PlanningSession.step hnext hcommit
  cases hstep.plans_written hQ.knows hQ.loaded with
  | kept same =>
    rw [same]
    exact .inl rfl
  -- an execution, an approval or a cancellation writes a plan in place and adds none
  | moved mine old written product settled =>
    rw [written]
    exact .inl List.length_set
  | @added g rows mine made written =>
    subst mine
    refine .inr ⟨k, g, rows, rfl, hopen, written, ?_⟩
    intro row hrow
    have hplan : row.val ∈ g.plans := made ▸ List.mem_map_of_mem hrow
    obtain ⟨x, hx, hkey⟩ := Generation.key_of_mem hplan
    refine ⟨Generation.recommended_of_mem hplan, x, hx, hkey, ?_⟩
    have hfound : measured.OfGeneration g g.todo := hQ.measured
    have hread : (witnessed { tables := db₀ } sv).OfGeneration g g.todo :=
      witnessed_of_session hrun hopen
    have hmem : x.shortage ∈ g.created.map (·.shortage) := List.mem_map_of_mem hx
    -- a shortage is of one product, and each product was read once, so plans of two are not mixed
    have hdistinct : (g.created.map (·.shortage.product.1)).Nodup := by
      have hnodup := hfound.shortages.2
      rw [List.map_append, List.map_map] at hnodup
      exact (List.nodup_append.mp hnodup).1
    -- the shortage was measured by this session, whatever others have committed since
    obtain ⟨hpos, hgrid⟩ := hfound.shortages.1 x.shortage (List.mem_append_left _ hmem)
    refine ⟨hread.shortages _ (List.mem_append_left _ hmem), hread.sisters x hx, ?_,
      (hQ.knows.cleared _ hmem).2⟩
    rw [made, Generation.plans_of_product hdistinct hx]
    exact x.siblings g.req.batchId hpos.le hgrid (hfound.sisters x hx)

/-! ### Two generations for one shortage -/

/-- Milk in the second store is five short, of which the first has three to spare; a supplier
sells it in packs of three. -/
def milkShort : Db where
  master := { stores := [⟨true, none⟩, ⟨true, none⟩], suppliers := [⟨true, none⟩] }
  stock := {
    products := [⟨milkIn 0 7 4 12, by decide +kernel⟩, ⟨milkIn 1 0 2 5, milkIn_second⟩] }
  replenishment := { supplierProducts := [⟨{
    supplierId := 0
    productId := 1
    packSize := 3
    unitCost := 1
    minimumOrderQuantity := none
    effectiveDate := 0
    isActive := true }, by decide +kernel⟩] }

def generateMilk (batchId : String) : PlanningWork :=
  .generatePlans { storeId := some 1, productIds := none, callerStoreId := none, batchId, today := 0 }

/-- Both find the shortage; the first draws up its plans, and the second waits for the key. -/
def bothGenerate : List (Event PlanningWork) :=
  [.begin 0 (generateMilk "a"), .begin 1 (generateMilk "b")]
    ++ List.replicate 10 (.step 0) ++ List.replicate 3 (.step 1)

def milkDrawnUp : PlanningServer :=
  value (bothGenerate.foldlM (fun sv e => planning.exec e sv) { tables := milkShort })
    (by decide +kernel)

def milkPlanned : PlanningServer :=
  value (planning.exec (.step 0) milkDrawnUp) (by decide +kernel)

def milkPlans : List ReplenishmentPlan :=
  milkPlanned.tables.replenishment.plans.map (·.val)

theorem milkShort_stored : milkShort.commit = milkShort :=
  commit_eq_self (by decide +kernel) rfl rfl

/-- The first store is asked for three, and the supplier for three. -/
theorem generated_siblings_milk :
    milkPlans.map (fun p => (p.source, p.suggestedQuantity))
        = [(.transfer 0, 3), (.supplier 0, 3)] ∧
      ∃ rows x, milkPlanned.tables.replenishment.plans = rows ∧
        GeneratedSiblings { tables := milkShort } milkDrawnUp rows x := by
  have hplans : milkPlans.map (fun p => (p.source, p.suggestedQuantity))
      = [(.transfer 0, 3), (.supplier 0, 3)] := by decide +kernel
  refine ⟨hplans, ?_⟩
  have hdrawnUp : PlanningRun { tables := milkShort } milkDrawnUp :=
    reaches_of_foldlM (eq_ok_value _ _)
  rcases generated_siblings (e := .step 0) milkShort_stored hdrawnUp (eq_ok_value _ _) with
    hsame | ⟨k, g, rows, -, -, hrows, hall⟩
  · have hlength : milkPlanned.tables.replenishment.plans.length
        ≠ milkDrawnUp.tables.replenishment.plans.length := by decide +kernel
    exact absurd hsame hlength
  · have hnone : milkDrawnUp.tables.replenishment.plans = [] := by decide +kernel
    have hsome : milkPlanned.tables.replenishment.plans ≠ [] := by decide +kernel
    rw [hnone, List.nil_append] at hrows
    obtain ⟨row, hrow⟩ := List.exists_mem_of_ne_nil rows (hrows ▸ hsome)
    obtain ⟨-, x, -, -, hx⟩ := hall row hrow
    exact ⟨rows, x, hrows, hx⟩

/-- The second generation finds the plans of the first, and adds none. -/
example : ((List.replicate 3 (Event.step 1)).foldlM (fun sv e => planning.exec e sv)
    milkPlanned).toOption.map (fun sv => (sv.sessions 1).isNone &&
      sv.tables.replenishment.plans.map (·.val) == milkPlans) = some true := by
  decide +kernel

end GroceryErp
