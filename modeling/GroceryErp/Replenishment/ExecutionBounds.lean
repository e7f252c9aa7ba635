import GroceryErp.Replenishment.ExecutionRuns

/-!
# The bounds of an execution

What an execution has decided on goes back, read by read, to the states of the run in which it
measured the shortfall.

## Main definitions

* `MeasuredIn` — a shortfall as an execution has measured it.
* `DraftsWithin`, `OrdersWithin` — the bounds of an execution.

## Main results

* `measured_of_session` — the shortfall of a session was measured in the run.
* `plans_within_bounds` — every execution of a run is within its bounds, and a plan has at most
  one document.

## References

`backend/app/modules/replenishment/service.py`, `execute_plan`.
-/

namespace GroceryErp

open Decimal Outcome Rows Runs Transactions

/-! ### The shortfall -/

/-- A run of executions and of what runs beside them. -/
abbrev ReplenishmentRun (start sv : PlanServer) : Prop :=
  Reaches replenishing.exec DraftedByPlans start sv

/-- The shortfall of a product as an execution has measured it: by the product as it is in
`sv`, where the execution still has it locked, by what was on its way in one state of the run,
and by what was on order in a later one. -/
def MeasuredIn (start sv : PlanServer) (productId : ℕ) (shortfall : ℚ) : Prop :=
  ∃ (mid mid' : PlanServer) (destination : Row Product),
    ReplenishmentRun start mid ∧ ReplenishmentRun mid mid' ∧ ReplenishmentRun mid' sv ∧
    sv.tables.stock.products[productId]? = some destination ∧
    shortfall = currentShortfall (inboundTransferQuantities mid.tables [productId])
      (openPurchaseOrderQuantities mid'.tables [productId]) (productId, destination)

section Measured

variable {db₀ : Db} {sv : PlanServer} {k : ℕ} {hold : PlanHold} {shortfall : ℚ}

/-- A session that is not at its start has come from another state in the run. -/
theorem came_advance {t : PlanSession} (hrun : ReplenishmentRun { tables := db₀ } sv)
    (hopen : sv.sessions k = some t) (hnew : ∀ work, t ≠ replenishing.start work) :
    ∃ mid t₀ key, ReplenishmentRun { tables := db₀ } mid ∧ ReplenishmentRun mid sv ∧
      mid.sessions k = some t₀ ∧ PlanAdvance mid.tables key t₀ t := by
  rcases Program.came hrun hopen with ⟨work, hstart⟩ | ⟨mid, t₀, hmid, hrest, hcame⟩
  · exact absurd hstart (hnew work)
  · cases hcame with
    | read opened next result =>
      exact ⟨mid, t₀, none, hmid, hrest, opened, PlanSession.advance_of_read next result⟩
    | @lock key f opened next result =>
      exact ⟨mid, t₀, some key, hmid, hrest, opened, PlanSession.advance_of_lock next result⟩

/-- What is decided on, other than to drop the plan, was decided on a shortfall. -/
theorem measured_of_decided {outcome : PlanOutcome}
    (hrun : ReplenishmentRun { tables := db₀ } sv)
    (hopen : sv.sessions k = some (.decided hold shortfall outcome))
    (hlive : ∀ code, outcome ≠ .stale code) :
    ∃ mid, ReplenishmentRun { tables := db₀ } mid ∧ ReplenishmentRun mid sv ∧
      mid.sessions k = some (.measured hold shortfall) ∧
      hold.decide mid.tables shortfall = .ok outcome := by
  have hnew : ∀ work, PlanSession.decided hold shortfall outcome ≠ replenishing.start work := by
    intro work h
    cases work <;> cases h
  obtain ⟨mid, t₀, key, hmid, hrest, ht₀, hadvance⟩ := came_advance hrun hopen hnew
  cases hadvance with
  | recovered => exact absurd rfl (hlive _)
  | decided decision => exact ⟨mid, hmid, hrest, ht₀, decision⟩

/-- **A shortfall was measured in the run, and there is one.** -/
theorem measured_of_session (hrun : ReplenishmentRun { tables := db₀ } sv)
    (hopen : sv.sessions k = some (.measured hold shortfall)) :
    0 < shortfall ∧ ∃ mid mid' destination, ReplenishmentRun { tables := db₀ } mid ∧
      ReplenishmentRun mid mid' ∧ ReplenishmentRun mid' sv ∧
      hold.product hold.plan.val.productId = .ok destination ∧
      shortfall = currentShortfall
        (inboundTransferQuantities mid.tables [hold.plan.val.productId])
        (openPurchaseOrderQuantities mid'.tables [hold.plan.val.productId]) destination := by
  have hnew : ∀ work, PlanSession.measured hold shortfall ≠ replenishing.start work := by
    intro work h
    cases work <;> cases h
  obtain ⟨mid', t₀, key, hmid', hrest', ht₀, hadvance⟩ := came_advance hrun hopen hnew
  cases hadvance with
  | @measured hold inbound destination shortfall product short formula =>
    have hnew' : ∀ work, PlanSession.inboundRead hold inbound ≠ replenishing.start work := by
      intro work h
      cases work <;> cases h
    obtain ⟨mid, t₁, key', hmid, hrest, -, hadvance'⟩ := came_advance hmid' ht₀ hnew'
    cases hadvance' with
    | inbound => exact ⟨short, mid, mid', destination, hmid, hrest, hrest', product, formula⟩

end Measured

/-! ### The grid -/

section Grid

variable {db db' : Db}

theorem onGrid_max {x : ℚ} (h : OnGrid 3 x) : OnGrid 3 (max 0 x) := by
  rcases max_choice 0 x with hzero | hx
  · rw [hzero]
    exact onGrid_zero 3
  · rwa [hx]

theorem onGrid_remainingQuantities {α : Type} {isOpen : α → Prop} [DecidablePred isOpen]
    {key : α → ℕ} {whole part : α → ℚ} {t : List α} {productId : ℕ} {productIds : List ℕ}
    (hmem : productId ∈ productIds) (hwhole : ∀ a ∈ t, OnGrid 3 (whole a))
    (hpart : ∀ a ∈ t, OnGrid 3 (part a)) :
    OnGrid 3 (remainingQuantities isOpen key whole part productIds t productId) := by
  rw [remainingQuantities_apply t hmem]
  apply onGrid_sumWhere
  intro a ha _
  exact onGrid_max ((hwhole a ha).sub (hpart a ha))

theorem onGrid_products (h : db.commit = db) :
    ∀ p ∈ db.stock.products, OnGrid 3 p.val.currentQtyOnHand := by
  have hgrid := onGrid_commit db
  rwa [h] at hgrid

theorem onGrid_inbound (h : db.commit = db) {productId : ℕ} {productIds : List ℕ}
    (hmem : productId ∈ productIds) :
    OnGrid 3 (inboundTransferQuantities db productIds productId) := by
  have hlines : ∀ l ∈ db.commit.transfers.lines,
      OnGrid 3 l.val.shippedQuantity ∧ OnGrid 3 l.val.receivedQuantity := by
    intro l hl
    obtain ⟨k, -, rfl⟩ := List.mem_map.mp hl
    exact ⟨onGrid_numeric 3 _, onGrid_numeric 3 _⟩
  rw [h] at hlines
  exact onGrid_remainingQuantities hmem (fun l hl => (hlines l hl).1) fun l hl => (hlines l hl).2

theorem onGrid_openPo (h : db.commit = db) {productId : ℕ} {productIds : List ℕ}
    (hmem : productId ∈ productIds) :
    OnGrid 3 (openPurchaseOrderQuantities db productIds productId) := by
  have hitems : ∀ i ∈ db.commit.purchasing.orderItems, OnGrid 3 i.val.quantityReceived := by
    intro i hi
    obtain ⟨k, -, rfl⟩ := List.mem_map.mp hi
    exact onGrid_numeric 3 _
  rw [h] at hitems
  exact onGrid_remainingQuantities hmem (fun i _ => i.2.ordered_scale) hitems

theorem onGrid_reorderPoint (p : Row Product) : OnGrid 3 (p.val.reorderPoint.getD 0) := by
  cases h : p.val.reorderPoint with
  | none => exact onGrid_zero 3
  | some q => exact p.2.reorder_point_scale q h

theorem onGrid_target (p : Row Product) : OnGrid 3 p.val.target := by
  have hreorder := onGrid_reorderPoint p
  unfold Product.target
  cases h : p.val.targetStockQuantity with
  | none => exact hreorder
  | some q =>
    rw [Option.filter_some]
    by_cases hq : q = 0
    · simpa [hq] using hreorder
    · simpa [hq] using p.2.target_stock_scale q h

/-- A shortfall is in thousandths where its parts are. -/
theorem onGrid_currentShortfall {inbound openPo : ℕ → ℚ} {destination : ℕ × Row Product}
    (hproduct : OnGrid 3 destination.2.val.currentQtyOnHand)
    (hinbound : OnGrid 3 (inbound destination.1)) (hopenPo : OnGrid 3 (openPo destination.1)) :
    OnGrid 3 (currentShortfall inbound openPo destination) :=
  (onGrid_target destination.2).sub ((hproduct.add hinbound).add hopenPo)

/-- What a product has above its reorder point beside the drafts on it is in thousandths. -/
theorem PlanTables.onGrid_surplus (h : PlanTables db) {source : Row Product}
    (hsource : source ∈ db.stock.products) (sourceProductId : ℕ) :
    OnGrid 3 (source.val.currentQtyOnHand - source.val.reorderPoint.getD 0
      - committedOutboundTransferQuantity db sourceProductId) := by
  refine ((onGrid_products h.stored source hsource).sub (onGrid_reorderPoint source)).sub ?_
  exact onGrid_sumWhere fun l _ _ => l.2.requested_scale

end Grid

/-! ### The bounds -/

/-- The draft of a plan that is sourced from another store.  With it, the drafts on the source
still leave the source its reorder point. -/
structure DraftsWithin (db db' : Db) (planId : ℕ) (plan : ReplenishmentPlan) (sourceStoreId : ℕ)
    (shortfall quantity : ℚ) : Prop where
  positive : 0 < quantity
  suggested : quantity ≤ plan.suggestedQuantity
  short : quantity ≤ shortfall
  drafted : ∃ (transfer : Row InterStoreTransfer) (line : Row InterStoreTransferLine)
      (source : Row Product),
    transfer.val = ⟨sourceStoreId, plan.destinationStoreId, .draft, none, some planId⟩ ∧
    line.val.transferId = db.transfers.transfers.length ∧
    line.val.requestedQuantity = quantity ∧
    db'.transfers.transfers = db.transfers.transfers ++ [transfer] ∧
    db'.transfers.lines = db.transfers.lines ++ [line] ∧
    db'.stock.products[line.val.sourceProductId]? = some source ∧
    committedOutboundTransferQuantity db' line.val.sourceProductId
      ≤ source.val.currentQtyOnHand - source.val.reorderPoint.getD 0

/-- The order of a plan that is sourced from a supplier.  Under the terms with which the
suggested quantity was rounded it is not exceeded. -/
structure OrdersWithin (db db' : Db) (plan : ReplenishmentPlan) (supplierId : ℕ) (today : Date)
    (quantity : ℚ) : Prop where
  positive : 0 < quantity
  suggested : ∀ (terms : Row SupplierProduct) (need : ℚ),
    getCurrentSupplierProduct db supplierId plan.productId today = some terms →
    plan.suggestedQuantity = applyMoqAndPackRounding need terms.val.minimumOrderQuantity
      (some terms.val.packSize) → quantity ≤ plan.suggestedQuantity
  ordered : ∃ items : List (Row PurchaseOrderItem),
    db'.purchasing.orderItems = db.purchasing.orderItems ++ items ∧
    (items = [] ∨ items.map (·.val.quantityOrdered) = [quantity])

/-- The event commits what an execution has decided on. -/
def CommitsExecution (sv : PlanServer) (e : Event PlanWork) (hold : PlanHold) (shortfall : ℚ) :
    Prop :=
  ∃ k outcome, e = .step k ∧ sv.sessions k = some (.decided hold shortfall outcome)

section Bounds

variable {db₀ db db' : Db} {sv sv' : PlanServer} {t : PlanSession} {hold : PlanHold}
  {held : PlanLock → Prop} {shortfall : ℚ} {k planId : ℕ} {plan plan' : Row ReplenishmentPlan}

/-- What a commit that executes a plan has done. -/
inductive Executes (db db' : Db) (hold : PlanHold) (plan' : Row ReplenishmentPlan) :
    PlanOutcome → Prop
  | order {supplierId : ℕ} {quantity unitCost : ℚ}
      (executed : plan'.val.executedQuantity = some (numeric 3 quantity))
      (drafted : OrderDrafted hold quantity db db') :
      Executes db db' hold plan' (.order supplierId quantity unitCost)
  | transfer {sourceStoreId sourceProductId : ℕ} {quantity : ℚ} {transfer : Row InterStoreTransfer}
      {line : Row InterStoreTransferLine}
      (executed : plan'.val.executedQuantity = some (numeric 3 quantity))
      (drafted :
        TransferDrafted hold sourceStoreId sourceProductId quantity db db' transfer line) :
      Executes db db' hold plan' (.transfer sourceStoreId sourceProductId quantity)

/-- **A plan is executed by a commit of its own execution.** -/
theorem PlanStep.executes (h : PlanStep db t db') (hI : PlanTables db) (hQ : t.Knows held db)
    (hplan : db.replenishment.plans[planId]? = some plan)
    (hplan' : db'.replenishment.plans[planId]? = some plan') (hbefore : plan.val.status ≠ .executed)
    (hafter : plan'.val.status = .executed) :
    ∃ hold shortfall outcome, t = .decided hold shortfall outcome ∧ hold.req.planId = planId ∧
      hold.plan = plan ∧ Executes db db' hold plan' outcome := by
  have hleaves := h.leaves hI hQ
  -- the row has changed, so it is of the session's plan
  have hmine : ∃ hold ∈ t.hold, hold.req.planId = planId := by
    by_contra hnone
    have hsame := hleaves.plans planId fun hold hhold heq => hnone ⟨hold, hhold, heq⟩
    rw [hplan', hplan, Option.some.injEq] at hsame
    subst hsame
    exact hbefore hafter
  have hwritten : ∀ {hold : PlanHold} {written : ReplenishmentPlan} {d : Db},
      t.hold = some hold → hold.Writes written db d db' →
      hold.req.planId = planId ∧ hold.plan = plan ∧ plan'.val = written := by
    intro hold written d hhold hw
    obtain ⟨other, hother, hid⟩ := hmine
    rw [hhold, Option.mem_some_iff] at hother
    subst hother
    obtain ⟨-, hrow, -⟩ := hQ.plan hold hhold
    obtain ⟨row, hval, hplans⟩ := hw.plans
    rw [hid] at hrow hplans
    rw [hplans, getElem?_set_of_some hplan, if_pos rfl, Option.some.injEq] at hplan'
    rw [← hplan']
    exact ⟨hid, Option.some.inj (hrow.symm.trans hplan), hval⟩
  cases h with
  | unchanged same =>
    have hsame : db'.replenishment = db.replenishment := by
      rcases same with rfl | rfl
      · rfl
      · rfl
    rw [hsame, hplan, Option.some.injEq] at hplan'
    subst hplan'
    exact absurd hafter hbefore
  | stock run writes =>
    obtain ⟨hold, hhold, -⟩ := hmine
    exact absurd hhold (Option.not_mem_none _)
  | stale written =>
    obtain ⟨-, -, hval⟩ := hwritten rfl written
    rw [hval] at hafter
    cases hafter
  | @ordered hold shortfall quantity unitCost supplierId purchaseOrderId d db' order written =>
    obtain ⟨hid, hsame, hval⟩ := hwritten rfl written
    refine ⟨hold, shortfall, _, rfl, hid, hsame, .order ?_ ?_⟩
    · rw [hval]
      rfl
    · exact orderDrafted_of_written hI.stored order written
  | @transferred hold shortfall quantity sourceStoreId sourceProductId transferId d db' transfer
      written =>
    obtain ⟨hid, hsame, hval⟩ := hwritten rfl written
    obtain ⟨transfer, line, hdrafted⟩ := transferDrafted_of_written hI.stored transfer written
    refine ⟨hold, shortfall, _, rfl, hid, hsame, .transfer ?_ hdrafted⟩
    rw [hval]
    rfl

theorem numeric_le {x y : ℚ} (hle : x ≤ y) (hy : OnGrid 3 y) : numeric 3 x ≤ y :=
  calc numeric 3 x ≤ numeric 3 y := quantize_mono hle
    _ = y := numeric_eq_self hy

/-- **The draft of a plan is within its bounds.** -/
theorem TransferDrafted.within {seen : Db} {sourceStoreId sourceProductId : ℕ} {quantity : ℚ}
    {transfer : Row InterStoreTransfer} {line : Row InterStoreTransferLine}
    (h : TransferDrafted hold sourceStoreId sourceProductId quantity db db' transfer line)
    (hI : PlanTables db) (hQ : PlanSession.Knows held db
      (.decided hold shortfall (.transfer sourceStoreId sourceProductId quantity)))
    (hdecision :
      hold.decide seen shortfall = .ok (.transfer sourceStoreId sourceProductId quantity))
    (hshort : OnGrid 3 shortfall)
    (hexecuted : plan'.val.executedQuantity = some (numeric 3 quantity)) :
    DraftsWithin db db' hold.req.planId hold.plan.val sourceStoreId shortfall
      (numeric 3 quantity) := by
  obtain ⟨-, -, hsuggested, hquantity, -⟩ := hold.decide_eq_transfer hdecision
  obtain ⟨-, source, hmem, hspared⟩ := hQ.spared (hold, sourceProductId, quantity) rfl
  obtain ⟨-, hsource⟩ := hQ.products hold rfl _ hmem
  have hline := h.line_eq
  unfold InterStoreTransferLine.drafted at hline
  rw [Prod.mk.injEq, Prod.mk.injEq] at hline
  obtain ⟨hid, hproduct, hrequested⟩ := hline
  refine ⟨plan'.2.executed_pos _ hexecuted, numeric_le hsuggested hold.plan.2.suggested_scale,
    numeric_le hquantity hshort, transfer, line, source, h.transfer_eq, hid, hrequested,
    h.transfers, h.lines, ?_, ?_⟩
  · rw [hproduct, h.stock]
    exact hsource
  · rw [hproduct, h.committed hI.placed, if_pos rfl]
    dsimp only at hspared
    -- what the source spares is in thousandths, so rounding does not take more
    have hsurplus := hI.onGrid_surplus (mem_of_row hsource) sourceProductId
    have hle := numeric_le (x := quantity) (by linarith) hsurplus
    linarith

/-- **The order of a plan is within its bounds.** -/
theorem OrderDrafted.within {seen : Db} {supplierId : ℕ} {quantity unitCost : ℚ}
    (h : OrderDrafted hold quantity db db')
    (hterms : seen.replenishment.supplierProducts = db.replenishment.supplierProducts)
    (hdecision : hold.decide seen shortfall = .ok (.order supplierId quantity unitCost))
    (hshort : 0 < shortfall)
    (hexecuted : plan'.val.executedQuantity = some (numeric 3 quantity)) :
    OrdersWithin db db' hold.plan.val supplierId hold.req.today (numeric 3 quantity) := by
  obtain ⟨-, terms, hcurrent, hquantity⟩ := hold.decide_eq_order hdecision
  refine ⟨plan'.2.executed_pos _ hexecuted, ?_, ?_⟩
  · intro terms' need hcurrent' hsuggested
    -- two current terms of one supplier and product are one row
    have hsame : terms = terms' := by
      unfold getCurrentSupplierProduct at hcurrent hcurrent'
      rw [hterms, hcurrent', Option.some.injEq] at hcurrent
      exact hcurrent.symm
    subst hsame
    -- rounding up to the pack is monotone, and was applied to the need when the plan was made
    have hnonneg : 0 ≤ min hold.plan.val.suggestedQuantity shortfall :=
      le_min hold.plan.2.suggested_pos.le hshort.le
    have hle : min hold.plan.val.suggestedQuantity shortfall ≤ applyMoqAndPackRounding need
        terms.val.minimumOrderQuantity (some terms.val.packSize) := by
      rw [← hsuggested]
      exact min_le_left _ _
    refine numeric_le ?_ hold.plan.2.suggested_scale
    rw [hquantity]
    calc applyMoqAndPackRounding (min hold.plan.val.suggestedQuantity shortfall)
          terms.val.minimumOrderQuantity (some terms.val.packSize)
        ≤ applyMoqAndPackRounding need terms.val.minimumOrderQuantity
            (some terms.val.packSize) := applyMoqAndPackRounding_le hnonneg hle
      _ = hold.plan.val.suggestedQuantity := hsuggested.symm
  · rcases h.orders with hsame | ⟨order, item, -, hitem, -, hitems⟩
    -- a replay of the order that the plan's key already has drafts none
    · exact ⟨[], by rw [hsame, List.append_nil], .inl rfl⟩
    · refine ⟨[item], hitems, .inr ?_⟩
      rw [List.map_singleton, hitem]

/-- **Under any interleaving every execution is within its bounds, and a plan has at most one
document.**  A plan that is executed from another store leaves the drafts on its source at what
the source has above its reorder point, and is positive, at most what was suggested and at most
the shortfall that was measured.  Executed by a supplier whose terms are those with which its
quantity was rounded, it orders at most what was suggested. -/
theorem plans_within_bounds (hstart : PlanTables db₀)
    (hrun : ReplenishmentRun { tables := db₀ } sv) :
    (∀ i, planDocuments sv.tables i ≤ 1) ∧
    ∀ e sv', DraftedByPlans sv e → replenishing.exec e sv = .ok sv' →
      ∀ (i : ℕ) (plan plan' : Row ReplenishmentPlan),
        sv.tables.replenishment.plans[i]? = some plan →
        sv'.tables.replenishment.plans[i]? = some plan' →
        plan.val.status ≠ .executed → plan'.val.status = .executed →
        ∃ hold shortfall quantity, CommitsExecution sv e hold shortfall ∧ hold.req.planId = i ∧
          MeasuredIn { tables := db₀ } sv plan.val.productId shortfall ∧
          plan'.val.executedQuantity = some quantity ∧
          (∀ sourceStoreId, plan.val.source = .transfer sourceStoreId →
            DraftsWithin sv.tables sv'.tables i plan.val sourceStoreId shortfall quantity) ∧
          ∀ supplierId, plan.val.source = .supplier supplierId →
            OrdersWithin sv.tables sv'.tables plan.val supplierId hold.req.today quantity := by
  have hinv : ∀ {mid : PlanServer}, ReplenishmentRun { tables := db₀ } mid →
      mid.Inv (PlanInv db₀) PlanSession.Knows := fun hmid =>
    (replenishing_keeps db₀).reaches (Server.inv_of_tables ⟨hstart, rfl⟩) hmid
  have hI := (hinv hrun).tables.tables
  refine ⟨hI.documents, ?_⟩
  intro e sv' hok hdone i plan plan' hplan hplan' hbefore hafter
  -- a step that commits nothing leaves the plan as it was, and it was not executed
  rcases (Program.exec_did hdone).tables with hsame | ⟨k, t, f, rfl, hopen, hnext, hcommit⟩
  · rw [hsame, hplan, Option.some.injEq] at hplan'
    subst hplan'
    exact absurd hafter hbefore
  have hQ := (hinv hrun).sessions k t hopen
  obtain ⟨hold, shortfall, outcome, rfl, rfl, rfl, hexecutes⟩ :=
    (PlanSession.step hnext hcommit).executes hI hQ hplan hplan' hbefore hafter
  have hlive : ∀ code, outcome ≠ .stale code := by
    rintro code rfl
    cases hexecutes
  -- the shortfall comes from reads of one session, each of a state since the start of the run
  obtain ⟨seen, hseen, hrest, hmeasured, hdecision⟩ := measured_of_decided hrun hopen hlive
  obtain ⟨hshort, mid, mid', destination, hmid, hmid', hseen', hproduct, hformula⟩ :=
    measured_of_session hseen hmeasured
  obtain ⟨hmem, hid⟩ := hold.product_eq_ok hproduct
  obtain ⟨productId, destination⟩ := destination
  obtain rfl : productId = hold.plan.val.productId := hid
  obtain ⟨-, hdestination⟩ := hQ.products hold rfl _ hmem
  have hin : MeasuredIn { tables := db₀ } sv hold.plan.val.productId shortfall :=
    ⟨mid, mid', destination, hmid, hmid', hseen'.trans hrest, hdestination, hformula⟩
  have hgrid : OnGrid 3 shortfall := by
    rw [hformula]
    exact onGrid_currentShortfall (onGrid_products hI.stored destination (mem_of_row hdestination))
      (onGrid_inbound (hinv hmid).tables.tables.stored (List.mem_singleton_self _))
      (onGrid_openPo (hinv (hmid.trans hmid')).tables.tables.stored (List.mem_singleton_self _))
  -- no request of the run writes the terms of a supplier
  have hterms : seen.tables.replenishment.supplierProducts
      = sv.tables.replenishment.supplierProducts :=
    (hinv hseen).tables.terms.trans (hinv hrun).tables.terms.symm
  cases hexecutes with
  | @order supplierId quantity unitCost executed drafted =>
    obtain ⟨hsource, -⟩ := hold.decide_eq_order hdecision
    refine ⟨hold, shortfall, numeric 3 quantity, ⟨k, _, rfl, hopen⟩, rfl, hin, executed, ?_, ?_⟩
    · intro sourceStoreId hother
      rw [hsource] at hother
      cases hother
    · intro supplierId' hsupplier
      rw [hsource, PlanSource.supplier.injEq] at hsupplier
      subst hsupplier
      exact drafted.within hterms hdecision hshort executed
  | @transfer sourceStoreId sourceProductId quantity transfer line executed drafted =>
    obtain ⟨hsource, -⟩ := hold.decide_eq_transfer hdecision
    refine ⟨hold, shortfall, numeric 3 quantity, ⟨k, _, rfl, hopen⟩, rfl, hin, executed, ?_, ?_⟩
    · intro sourceStoreId' hstore
      rw [hsource, PlanSource.transfer.injEq] at hstore
      subst hstore
      exact drafted.within hI hQ hdecision hgrid executed
    · intro supplierId hother
      rw [hsource] at hother
      cases hother

end Bounds

/-! ### Two plans on one source -/

instance decidableBesidePlans : DecidablePred StockRequest.BesidePlans
  | .finalizeSale _ | .createSaleReturn _ | .voidSale _ => .isTrue trivial
  | .submitPurchaseOrder _ | .cancelPurchaseOrder _ | .receiveGoods _ | .createPurchaseReturn _ =>
    .isTrue trivial
  | .shipTransfer _ | .receiveTransfer _ | .cancelTransfer _ => .isTrue trivial
  | .createPurchaseOrder _ | .createTransfer _ | .createAdjustment _ => .isFalse id
  | .createStockCount _ | .openStockCount _ | .recordCountEntry _ | .markStockCountCounted _ |
    .reviewStockCount _ | .reopenStockCountForRecount _ | .postStockCount _ |
    .cancelStockCount _ => .isFalse id

instance decidableDraftedByPlans (sv : PlanServer) (e : Event PlanWork) :
    Decidable (DraftedByPlans sv e) := by
  rcases e with ⟨_, _ | ⟨r, _⟩⟩ | _ | _
  · exact .isTrue trivial
  · exact decidableBesidePlans r
  · exact .isTrue trivial
  · exact .isTrue trivial

/-- Milk in a store, which reorders at the one quantity up to the other. -/
def milkIn (storeId : ℕ) (quantity reorderPoint target : ℚ) : Product where
  storeId := storeId
  sku := "MILK"
  categoryId := none
  currentPrice := 2
  currentCost := 1
  taxRateId := none
  currentQtyOnHand := quantity
  allowNegativeStock := false
  isActive := true
  reorderPoint := some reorderPoint
  targetStockQuantity := some target

theorem milkIn_second : Table.Checks (milkIn 1 0 2 5) := by
  decide +kernel

/-- Four of milk for a store, from the first. -/
def milkPlan (storeId : ℕ) : ReplenishmentPlan where
  destinationStoreId := storeId
  productId := storeId
  neededQuantity := 4
  suggestedQuantity := 4
  source := .transfer 0
  status := .approved
  executionClientTransactionId := none
  executedQuantity := none
  executedUnitCost := none
  generatedPurchaseOrderId := none
  generatedTransferId := none

/-- Three stores; the first has ten of milk and reorders at four. -/
def dairy : Db where
  master := { stores := [⟨true, none⟩, ⟨true, none⟩, ⟨true, none⟩] }
  stock := {
    products := [⟨milkIn 0 10 4 12, by decide +kernel⟩, ⟨milkIn 1 0 2 5, milkIn_second⟩,
      ⟨milkIn 2 1 2 5, by decide +kernel⟩] }
  replenishment := {
    plans := [⟨milkPlan 1, by decide +kernel⟩, ⟨milkPlan 2, by decide +kernel⟩] }

theorem planTables_dairy : PlanTables dairy where
  stored := commit_eq_self (by decide +kernel) rfl rfl
  placed := by simp [dairy]
  documents := fun i => by simp [dairy, planDocuments]
  undocumented := fun i plan _ _ => by simp [dairy, planDocuments]

def executeMilk (planId : ℕ) (key : String) : PlanWork :=
  .executePlan { planId, callerStoreId := none, clientTransactionId := key, today := 0 }

/-- Both plans are executed side by side; the second waits for the lock of the source until the
first has drafted its four. -/
def sideBySide : List (Event PlanWork) :=
  [.begin 0 (executeMilk 0 "plan-0"), .begin 1 (executeMilk 1 "plan-1")]
    ++ List.replicate 5 (.step 0) ++ List.replicate 3 (.step 1)
    ++ List.replicate 4 (.step 0) ++ List.replicate 5 (.step 1)

/-- The first plan is executed, and the second decided on. -/
def secondDecided : PlanServer :=
  value (sideBySide.foldlM (guarded replenishing.exec DraftedByPlans .blocked) { tables := dairy })
    (by decide +kernel)

def secondDrafted : PlanServer :=
  value (replenishing.exec (.step 1) secondDecided) (by decide +kernel)

/-- The second plan as it was decided on, and as it is executed. -/
def secondPlan : Row ReplenishmentPlan :=
  secondDecided.tables.replenishment.plans.get ⟨1, by decide +kernel⟩

def secondExecuted : Row ReplenishmentPlan :=
  secondDrafted.tables.replenishment.plans.get ⟨1, by decide +kernel⟩

/-- The second plan drafts the two that the first has left. -/
theorem plans_within_bounds_milk :
    planDocuments secondDecided.tables 1 ≤ 1 ∧ secondExecuted.val.executedQuantity = some 2 ∧
      ∃ shortfall, DraftsWithin secondDecided.tables secondDrafted.tables 1 secondPlan.val 0
        shortfall 2 := by
  have h := plans_within_bounds planTables_dairy
    (reaches_of_guarded (eq_ok_value _ _) : ReplenishmentRun { tables := dairy } secondDecided)
  have hexecuted : secondExecuted.val.executedQuantity = some 2 := by decide +kernel
  refine ⟨h.1 1, hexecuted, ?_⟩
  obtain ⟨hold, shortfall, quantity, -, -, -, hquantity, htransfer, -⟩ :=
    h.2 (.step 1) secondDrafted trivial (eq_ok_value _ _) 1 secondPlan secondExecuted
      (List.getElem?_eq_getElem _) (List.getElem?_eq_getElem _) (by decide +kernel)
      (by decide +kernel)
  obtain rfl : quantity = 2 := Option.some.inj (hquantity.symm.trans hexecuted)
  exact ⟨shortfall, htransfer 0 (by decide +kernel)⟩

end GroceryErp
