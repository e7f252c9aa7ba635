import GroceryErp.Replenishment.GenerationRuns

/-!
# The orders of supplier plans

An execution of a plan for a supplier asks for an order under the key of the plan, and is given
the order that bears the key where there is one.  Clients choose the keys of their orders
freely, so this need not be an order of the plan.

## Main definitions

* `planOrderKey` — the key under which the order of a plan is asked for.
* `OrderOf` — an order is the one that a plan is executed with.
* `CreatedBy` — the order was added where the plan was executed.
* `SupplierPlansLinked` — every executed plan for a supplier has such an order.
* `KeyFree` — no order bears the key of the plan that is executed next.

## Main results

* `PlanningStep.ordersGrown` — a commit adds orders at the most.
* `PlanningStep.linked` — a plan is executed with an order that is added with it.
* `supplier_plans_linked` — where the keys are free, every plan is linked to its own order.
* `order_of_a_client` — where a client has used the key, the plan is linked to the client's
  order.

## References

`backend/app/modules/replenishment/service.py`, `execute_plan`;
`backend/app/modules/purchasing/service.py`, `_create_purchase_order_inner`.
-/

namespace GroceryErp

open Decimal Outcome Rows Runs Transactions

/-! ### The order of a plan -/

/-- The key under which the order of a plan is asked for. -/
def planOrderKey (planId : ℕ) : String := "replenishment-plan-" ++ toString planId

theorem PlanHold.orderRequest_key (hold : PlanHold) (supplierId : ℕ) (quantity unitCost : ℚ) :
    (hold.orderRequest supplierId quantity unitCost).clientTransactionId
      = planOrderKey hold.req.planId := rfl

/-- The order is for the store and the supplier of the plan and carries its id; its one item is
of the product and the quantity of the plan. -/
structure OrderOf (p : PurchasingTables) (planId : ℕ) (plan : ReplenishmentPlan)
    (purchaseOrderId : ℕ) : Prop where
  order : ∃ order, p.orders[purchaseOrderId]? = some order ∧
    order.storeId = plan.destinationStoreId ∧ plan.source = .supplier order.supplierId ∧
    order.replenishmentPlanId = some planId
  item : ∃ item : Row PurchaseOrderItem,
    p.orderItems.filter (·.val.purchaseOrderId = purchaseOrderId) = [item] ∧
    item.val.productId = plan.productId ∧ plan.executedQuantity = some item.val.quantityOrdered

/-- The plan has been executed, and so has a document. -/
def PlanExecuted (db : Db) (planId : ℕ) : Prop :=
  ∃ plan ∈ db.replenishment.plans[planId]?, plan.val.status = .executed

/-- The order was added in the step of the run in which the plan was executed. -/
def CreatedBy (start sv : PlanningServer) (planId purchaseOrderId : ℕ) : Prop :=
  ∃ (before after : PlanningServer) (k : ℕ), PlanningRun start before ∧
    planning.exec (.step k) before = .ok after ∧ PlanningRun after sv ∧
    ¬PlanExecuted before.tables planId ∧ PlanExecuted after.tables planId ∧
    before.tables.purchasing.orders.length ≤ purchaseOrderId ∧
    purchaseOrderId < after.tables.purchasing.orders.length

/-- Every executed plan for a supplier is linked to an order of its own, which its execution has
created. -/
def SupplierPlansLinked (start sv : PlanningServer) : Prop :=
  ∀ (planId : ℕ) (plan : Row ReplenishmentPlan) (supplierId : ℕ),
    sv.tables.replenishment.plans[planId]? = some plan → plan.val.status = .executed →
    plan.val.source = .supplier supplierId → ∃ purchaseOrderId,
      plan.val.generatedPurchaseOrderId = some purchaseOrderId ∧
      OrderOf sv.tables.purchasing planId plan.val purchaseOrderId ∧
      CreatedBy start sv planId purchaseOrderId

/-! ### The key of a plan -/

/-- No order bears the key of the plan, so that its execution does not find one that somebody else
has made. -/
def PlanKeyFree (db : Db) (planId : ℕ) : Prop :=
  ∀ order ∈ db.purchasing.orders, order.clientTransactionId ≠ planOrderKey planId

/-- The plan for which a session commits an order next. -/
def PlanningSession.ordering : PlanningSession → Option ℕ
  | .executing (.decided hold _ (.order _ _ _)) => some hold.req.planId
  | _ => none

/-- Where the execution of a plan commits its order, no order bears the key of the plan. -/
def KeyFree (sv : PlanningServer) : Event PlanningWork → Prop
  | .step k => ∀ t ∈ sv.sessions k, ∀ planId ∈ t.ordering, PlanKeyFree sv.tables planId
  | _ => True

instance decidableKeyFree (sv : PlanningServer) (e : Event PlanningWork) :
    Decidable (KeyFree sv e) :=
  match e with
  | .step k => inferInstanceAs (Decidable (∀ t ∈ sv.sessions k, ∀ planId ∈ t.ordering,
      ∀ order ∈ sv.tables.purchasing.orders, order.clientTransactionId ≠ planOrderKey planId))
  | .begin _ _ => .isTrue trivial
  | .rollback _ => .isTrue trivial

/-- The tables as their columns keep them, where every item is of an order. -/
structure OrderTables (db : Db) : Prop where
  stored : db.commit = db
  placed : ∀ item ∈ db.purchasing.orderItems,
    item.val.purchaseOrderId < db.purchasing.orders.length

/-- The tables before a plan for a supplier is executed. -/
structure BeforeExecutions (db : Db) : Prop extends OrderTables db where
  none_executed : ∀ plan ∈ db.replenishment.plans, ∀ supplierId,
    plan.val.source = .supplier supplierId → plan.val.status ≠ .executed

/-! ### Orders stay what they are -/

section Grown

variable {p p' : PurchasingTables}

/-- What the items of an order were made with. -/
theorem itemsOf_made (p : PurchasingTables) (purchaseOrderId : ℕ) :
    (p.orderItems.filter (·.val.purchaseOrderId = purchaseOrderId)).map (·.val.made)
      = (p.orderItems.map (·.val.made)).filter (·.1 = purchaseOrderId) := by
  rw [List.filter_map]
  rfl

theorem OrdersGrown.order (h : OrdersGrown p p') {i : ℕ} {order : PurchaseOrder}
    (horder : p.orders[i]? = some order) :
    ∃ order', p'.orders[i]? = some order' ∧ order'.made = order.made := by
  have hi : i < p.orders.length := (List.getElem?_eq_some_iff.mp horder).1
  have hmade : (p'.orders.map (·.made))[i]? = some order.made := by
    rw [List.prefix_iff_getElem?.mp h.orders i (by rwa [List.length_map]), List.getElem_map,
      (List.getElem?_eq_some_iff.mp horder).2]
  rw [List.getElem?_map] at hmade
  exact Option.map_eq_some_iff.mp hmade

/-- The items of an order that is there are what they were. -/
theorem OrdersGrown.itemsOf (h : OrdersGrown p p') {i : ℕ} (hi : i < p.orders.length) :
    (p'.orderItems.filter (·.val.purchaseOrderId = i)).map (·.val.made)
      = (p.orderItems.filter (·.val.purchaseOrderId = i)).map (·.val.made) := by
  obtain ⟨rows, hrows, hnew⟩ := h.items
  have hnone : rows.filter (·.1 = i) = [] := by
    refine List.filter_eq_nil_iff.mpr fun r hr => ?_
    have hle := (hnew r hr).1
    simp only [decide_eq_true_eq]
    omega
  rw [itemsOf_made, itemsOf_made, hrows, List.filter_append, hnone, List.append_nil]

/-- **The order of a plan stays the order of the plan.** -/
theorem OrderOf.grown {planId : ℕ} {plan : ReplenishmentPlan} {purchaseOrderId : ℕ}
    (h : OrderOf p planId plan purchaseOrderId) (hgrown : OrdersGrown p p') :
    OrderOf p' planId plan purchaseOrderId := by
  obtain ⟨order, horder, hstore, hsource, hplan⟩ := h.order
  obtain ⟨item, hitem, hproduct, hquantity⟩ := h.item
  refine ⟨?_, ?_⟩
  · obtain ⟨order', horder', hmade⟩ := hgrown.order horder
    simp only [PurchaseOrder.made, Prod.mk.injEq] at hmade
    obtain ⟨hstore', hsupplier', -, hplan'⟩ := hmade
    refine ⟨order', horder', hstore'.trans hstore, ?_, hplan'.trans hplan⟩
    rw [hsupplier', hsource]
  · have hitems := hgrown.itemsOf (List.getElem?_eq_some_iff.mp horder).1
    rw [hitem, List.map_singleton, List.map_eq_singleton_iff] at hitems
    obtain ⟨item', hitem', hmade⟩ := hitems
    simp only [PurchaseOrderItem.made, Prod.mk.injEq] at hmade
    obtain ⟨-, hproduct', hquantity'⟩ := hmade
    refine ⟨item', hitem', hproduct'.trans hproduct, ?_⟩
    rw [hquantity', hquantity]

/-- Items stay with orders that are there. -/
theorem OrdersGrown.placed (h : OrdersGrown p p')
    (hplaced : ∀ item ∈ p.orderItems, item.val.purchaseOrderId < p.orders.length) :
    ∀ item ∈ p'.orderItems, item.val.purchaseOrderId < p'.orders.length := by
  intro item hitem
  obtain ⟨rows, hrows, hnew⟩ := h.items
  have hmem : item.val.made ∈ p.orderItems.map (·.val.made) ++ rows := by
    rw [← hrows]
    exact List.mem_map_of_mem hitem
  rcases List.mem_append.mp hmem with hold | hrow
  · obtain ⟨before, hbefore, hmade⟩ := List.mem_map.mp hold
    simp only [PurchaseOrderItem.made, Prod.mk.injEq] at hmade
    rw [← hmade.1]
    exact (hplaced before hbefore).trans_le h.length_le
  · exact (hnew _ hrow).2

end Grown

/-! ### What a commit does to orders -/

section Steps

variable {db d db' : Db}

theorem PlanStep.ordersGrown {t : PlanSession} (h : PlanStep db t db') :
    OrdersGrown db.purchasing db'.purchasing := by
  cases h with
  | unchanged same =>
    rcases same with rfl | rfl
    · exact .refl _
    · exact ordersGrown_commit db
  | stock run => exact (StockRequest.ordersGrown run).committed
  | stale written =>
    obtain ⟨row, -, rfl⟩ := written
    exact ordersGrown_commit db
  | @ordered hold shortfall quantity unitCost supplierId purchaseOrderId d db' order written =>
    obtain ⟨row, -, rfl⟩ := written
    exact (createPurchaseOrderInner_grown order).trans (ordersGrown_commit d)
  | @transferred hold shortfall quantity sourceStoreId sourceProductId transferId d db' transfer
      written =>
    obtain ⟨row, -, rfl⟩ := written
    obtain ⟨transferRow, lines, -, -, -, rfl⟩ := createTransferInner_ok transfer
    exact ordersGrown_commit db

/-- **A commit adds orders at the most.** -/
theorem PlanningStep.ordersGrown {t : PlanningSession} (h : PlanningStep db t db') :
    OrdersGrown db.purchasing db'.purchasing := by
  cases h with
  | unchanged => exact .refl _
  | executed step => exact step.ordersGrown
  | moved | generated | edited => exact ordersGrown_commit db
  | requested run => exact (ErpRequest.ordersGrown run).committed

end Steps

/-! ### What an execution links its plan to -/

/-- The commit of a session has executed the plan, with an order that it has added. -/
structure ExecutedWithOrder (t : PlanningSession) (db db' : Db) (planId : ℕ)
    (plan : Row ReplenishmentPlan) : Prop where
  before : ¬PlanExecuted db planId
  link : plan.val.generatedPurchaseOrderId = some db.purchasing.orders.length
  order : OrderOf db'.purchasing planId plan.val db.purchasing.orders.length
  added : db.purchasing.orders.length < db'.purchasing.orders.length

section Linked

variable {db db' : Db} {t : PlanningSession} {held : PlanningLock → Prop}

/-- An execution that finds its key free is linked to the order it has added. -/
theorem PlanStep.executedWithOrder {hold : PlanHold} {shortfall quantity unitCost : ℚ}
    {supplierId purchaseOrderId : ℕ} {d : Db} {row : Row ReplenishmentPlan}
    (hdb : OrderTables db)
    (hloaded : db.replenishment.plans[hold.req.planId]? = some hold.plan)
    (happroved : hold.plan.val.status = .approved)
    (hsource : hold.plan.val.source = .supplier supplierId)
    (hfree : PlanKeyFree db hold.req.planId)
    (horder : createPurchaseOrderInner db (hold.orderRequest supplierId quantity unitCost)
      (some hold.req.planId) = .ok (d, purchaseOrderId))
    (hrow : row.val = { hold.executed quantity with
      executedUnitCost := some (numeric 6 unitCost)
      generatedPurchaseOrderId := some purchaseOrderId })
    (hdb' : db'.purchasing = d.commit.purchasing) :
    ExecutedWithOrder (.executing (.decided hold shortfall (.order supplierId quantity unitCost)))
      db db' hold.req.planId row := by
  rcases createPurchaseOrderInner_cases horder with
    ⟨-, found, hfound, hkey⟩ | ⟨-, rfl, order, items, ⟨hstore, hsupplier, hplan⟩, hitems, -, rfl⟩
  · rw [hold.orderRequest_key] at hkey
    exact absurd hkey (hfree found (mem_of_row hfound))
  -- the one line of the request is the one item of the order
  obtain ⟨item, rfl, hitem⟩ := List.map_eq_singleton_iff.mp hitems
  refine ⟨?_, ?_, ?_, ?_⟩
  · rintro ⟨plan, hplan, hexecuted⟩
    obtain rfl := Option.some.inj (hloaded.symm.trans hplan)
    rw [happroved] at hexecuted
    cases hexecuted
  · rw [hrow]
  · rw [hdb']
    refine OrderOf.grown ?_ (ordersGrown_commit _)
    refine ⟨⟨order, List.getElem?_concat_length, ?_, ?_, hplan⟩, item, ?_, ?_, ?_⟩
    · rw [hstore, hrow]
      rfl
    · rw [hsupplier, hrow]
      exact hsource
    · -- no item that was there is of the order
      have hnone : db.purchasing.orderItems.filter
          (·.val.purchaseOrderId = db.purchasing.orders.length) = [] := by
        refine List.filter_eq_nil_iff.mpr fun other hother => ?_
        have hlt := hdb.placed other hother
        simp only [decide_eq_true_eq]
        omega
      rw [List.filter_append, hnone, List.nil_append, List.filter_cons_of_pos, List.filter_nil]
      rw [hitem]
      exact decide_eq_true rfl
    · rw [hitem, hrow]
      rfl
    · rw [hitem, hrow]
      rfl
  · rw [hdb']
    show _ < (db.purchasing.orders ++ [order]).length
    rw [List.length_append, List.length_singleton]
    exact Nat.lt_succ_self _

/-- A row that is found where one has been written is that one, or was there before. -/
theorem plan_of_set {i planId : ℕ} {row plan : Row ReplenishmentPlan}
    (hplan : (db.replenishment.plans.set i row)[planId]? = some plan) :
    db.replenishment.plans[planId]? = some plan ∨ (i = planId ∧ row = plan) := by
  rw [List.getElem?_set] at hplan
  split at hplan
  · next hi =>
    split at hplan
    · exact .inr ⟨hi, Option.some.inj hplan⟩
    · cases hplan
  · exact .inl hplan

/-- **A plan for a supplier is executed before, or now with an order that is added with it.** -/
theorem PlanningStep.linked (h : PlanningStep db t db') (hQ : t.Knows held db)
    (hloaded : t.Loaded) (hdb : OrderTables db)
    (hfree : ∀ planId ∈ t.ordering, PlanKeyFree db planId) {planId supplierId : ℕ}
    {plan : Row ReplenishmentPlan} (hplan : db'.replenishment.plans[planId]? = some plan)
    (hexecuted : plan.val.status = .executed) (hsource : plan.val.source = .supplier supplierId) :
    db.replenishment.plans[planId]? = some plan ∨ ExecutedWithOrder t db db' planId plan := by
  cases h with
  | unchanged => exact .inl hplan
  | executed step =>
    cases step with
    | unchanged same =>
      rcases same with rfl | rfl
      · exact .inl hplan
      · exact .inl hplan
    | stock => cases hloaded.1
    | stale written =>
      obtain ⟨row, hrow, rfl⟩ := written
      rcases plan_of_set hplan with hold | ⟨rfl, rfl⟩
      · exact .inl hold
      · rw [hrow] at hexecuted
        cases hexecuted
    | @ordered hold shortfall quantity unitCost supplierId' purchaseOrderId d db' order written =>
      obtain ⟨row, hrow, rfl⟩ := written
      rcases plan_of_set hplan with hold | ⟨rfl, rfl⟩
      · exact .inl hold
      · obtain ⟨-, hrow₀⟩ := hQ.plan (hold.req.planId, hold.plan) rfl
        exact .inr (PlanStep.executedWithOrder hdb hrow₀ (hloaded.2.1 hold rfl)
          (hloaded.2.2 _ _ _ _ _ rfl) (hfree _ rfl) order hrow rfl)
    | @transferred hold shortfall quantity sourceStoreId sourceProductId transferId d db' transfer
        written =>
      obtain ⟨row, hrow, rfl⟩ := written
      rcases plan_of_set hplan with hold | ⟨rfl, rfl⟩
      · exact .inl hold
      · -- the plan of a supplier has no transfer
        have hlink := row.property.link_matches_status
        unfold ReplenishmentPlan.Linked at hlink
        rw [hexecuted, hsource, hrow] at hlink
        cases hlink.2
  | @moved req move old row written =>
    rcases plan_of_set hplan with hold | ⟨rfl, rfl⟩
    · exact .inl hold
    · rw [written] at hexecuted
      cases move with
      | approve | cancel => cases hexecuted
  | @generated g rows done written =>
    have happend : (db.replenishment.plans ++ rows)[planId]? = some plan := hplan
    rw [List.getElem?_append] at happend
    split at happend
    · exact .inl happend
    · have hmade : plan.val ∈ g.plans := written ▸ List.mem_map_of_mem (mem_of_row happend)
      rw [Generation.recommended_of_mem hmade] at hexecuted
      cases hexecuted
  | requested run =>
    refine .inl ?_
    rw [← hplan]
    exact congrArg (·.plans[planId]?) (ErpRequest.replenishment_kept run).symm
  | edited => exact .inl hplan

/-- **An execution that finds its key taken links its plan to the order that bears it.** -/
theorem PlanningStep.linked_to_found (h : PlanningStep db t db') {planId i : ℕ}
    {plan : Row ReplenishmentPlan} (hordering : t.ordering = some planId)
    (htaken : ¬PlanKeyFree db planId) (hbefore : ¬PlanExecuted db i)
    (hplan : db'.replenishment.plans[i]? = some plan) (hexecuted : plan.val.status = .executed) :
    ∃ purchaseOrderId order, plan.val.generatedPurchaseOrderId = some purchaseOrderId ∧
      db.purchasing.orders[purchaseOrderId]? = some order ∧
      order.clientTransactionId = planOrderKey planId := by
  have hnot : db.replenishment.plans[i]? ≠ some plan := fun hold => hbefore ⟨plan, hold, hexecuted⟩
  cases h with
  | unchanged => exact absurd hplan hnot
  | executed step =>
    cases step with
    | unchanged same =>
      rcases same with rfl | rfl
      · exact absurd hplan hnot
      · exact absurd hplan hnot
    | stock | stale | transferred => cases hordering
    | @ordered hold shortfall quantity unitCost supplierId purchaseOrderId d db' order written =>
      cases hordering
      obtain ⟨row, hrow, rfl⟩ := written
      rcases plan_of_set hplan with hold | ⟨rfl, rfl⟩
      · exact absurd hold hnot
      · rcases createPurchaseOrderInner_cases order with ⟨-, found, hfound, hkey⟩ | ⟨hfree, -⟩
        · exact ⟨purchaseOrderId, found, by rw [hrow], hfound, hkey⟩
        · exact absurd hfree htaken
  | moved | generated | requested | edited => cases hordering

end Linked

/-! ### Over any run -/

section Runs

variable {db₀ : Db} {start sv sv' : PlanningServer}

/-- The events of a run keep items with their orders. -/
theorem planning_keeps_orders {ok : PlanningServer → Event PlanningWork → Prop} :
    planning.Keeps ok OrderTables PlanningSession.Informed := by
  refine planning_keeps (fun _ h => h.stored) ?_
  intro sv k t db' hinv _ _ hstep
  exact ⟨hstep.stored hinv.tables.stored, hstep.ordersGrown.placed hinv.tables.placed⟩

theorem CreatedBy.trans {planId purchaseOrderId : ℕ} (h : CreatedBy start sv planId purchaseOrderId)
    (hmore : PlanningRun sv sv') : CreatedBy start sv' planId purchaseOrderId := by
  obtain ⟨before, after, k, hbefore, hstep, hafter, hcreated⟩ := h
  exact ⟨before, after, k, hbefore, hstep, hafter.trans hmore, hcreated⟩

/-- An event leaves the executed plans linked, where the key of the next is free. -/
theorem SupplierPlansLinked.next {e : Event PlanningWork} (h : SupplierPlansLinked start sv)
    (hrun : PlanningRun start sv) (hinv : sv.Inv OrderTables PlanningSession.Informed)
    (hfree : KeyFree sv e) (hdone : planning.exec e sv = .ok sv') :
    SupplierPlansLinked start sv' := by
  intro planId plan supplierId hplan hexecuted hsource
  have hmore : PlanningRun sv sv' := .next .start trivial hdone
  rcases (Program.exec_did hdone).tables with hsame | ⟨k, t, f, rfl, hopen, hnext, hcommit⟩
  · rw [hsame] at hplan ⊢
    obtain ⟨purchaseOrderId, hlink, horder, hcreated⟩ :=
      h planId plan supplierId hplan hexecuted hsource
    exact ⟨purchaseOrderId, hlink, horder, hcreated.trans hmore⟩
  have hQ := hinv.sessions k t hopen
  have hstep := PlanningSession.step hnext hcommit
  rcases hstep.linked hQ.knows hQ.loaded hinv.tables (hfree t hopen) hplan hexecuted hsource with
    hbefore | hnew
  · obtain ⟨purchaseOrderId, hlink, horder, hcreated⟩ :=
      h planId plan supplierId hbefore hexecuted hsource
    exact ⟨purchaseOrderId, hlink, horder.grown hstep.ordersGrown, hcreated.trans hmore⟩
  · refine ⟨_, hnew.link, hnew.order, sv, sv', k, hrun, hdone, .start, hnew.before, ?_, le_refl _,
      hnew.added⟩
    exact ⟨plan, hplan, hexecuted⟩

/-- **In every run in which the keys of the plans are free, every executed plan for a supplier is
linked to an order that its execution has created**: for its store and supplier, with its id, and
with one item, of its product and its executed quantity.  Where a key is not free, the plan that is
executed next is linked to an order that was there before. -/
theorem supplier_plans_linked (hstart : BeforeExecutions db₀)
    (hrun : Reaches planning.exec KeyFree { tables := db₀ } sv) :
    SupplierPlansLinked { tables := db₀ } sv ∧
    ∀ (e : Event PlanningWork) (sv' : PlanningServer), ¬KeyFree sv e →
      planning.exec e sv = .ok sv' → ∀ (planId : ℕ) (plan : Row ReplenishmentPlan),
      ¬PlanExecuted sv.tables planId → sv'.tables.replenishment.plans[planId]? = some plan →
      plan.val.status = .executed → ∃ purchaseOrderId,
        plan.val.generatedPurchaseOrderId = some purchaseOrderId ∧
        purchaseOrderId < sv.tables.purchasing.orders.length := by
  refine ⟨?_, ?_⟩
  · induction hrun with
    | start =>
      intro planId plan supplierId hplan hexecuted hsource
      exact absurd hexecuted (hstart.none_executed plan (mem_of_row hplan) supplierId hsource)
    | next run meets done ih =>
      have hinv := planning_keeps_orders.reaches (Server.inv_of_tables hstart.toOrderTables) run
      exact ih.next (run.mono fun _ _ _ => trivial) hinv meets done
  · intro e sv' htaken hdone planId plan hbefore hplan hexecuted
    rcases (Program.exec_did hdone).tables with hsame | ⟨k, t, f, rfl, hopen, hnext, hcommit⟩
    · rw [hsame] at hplan
      exact absurd ⟨plan, hplan, hexecuted⟩ hbefore
    obtain ⟨t', ht', orderedId, hordering, htaken⟩ : ∃ t' ∈ sv.sessions k,
        ∃ orderedId ∈ t'.ordering, ¬PlanKeyFree sv.tables orderedId := by
      simpa [KeyFree] using htaken
    obtain rfl := Option.some.inj (hopen.symm.trans ht')
    obtain ⟨purchaseOrderId, order, hlink, horder, -⟩ :=
      (PlanningSession.step hnext hcommit).linked_to_found hordering htaken hbefore hplan hexecuted
    exact ⟨purchaseOrderId, hlink, (List.getElem?_eq_some_iff.mp horder).1⟩

end Runs

/-! ### An order that was there before -/

/-- Three of milk for the second store, from a supplier. -/
def milkFromSupplier : ReplenishmentPlan :=
  { milkPlan 1 with suggestedQuantity := 3, source := .supplier 0 }

/-- Milk in the second store is five short, and three of it are approved to be ordered. -/
def milkApproved : Db :=
  { milkShort with replenishment.plans := [⟨milkFromSupplier, by decide +kernel⟩] }

theorem beforeExecutions_milk : BeforeExecutions milkApproved where
  stored := commit_eq_self (by decide +kernel) rfl rfl
  placed := List.forall_mem_nil _
  none_executed plan hplan supplierId _ := by
    rw [List.mem_singleton.mp hplan]
    decide

/-- The plan is executed, one step of the request after the other. -/
def executeApproved (k : ℕ) : List (Event PlanningWork) :=
  .begin k (.executePlan
      { planId := 0, callerStoreId := none, clientTransactionId := "e", today := 0 })
    :: List.replicate 8 (.step k)

/-- A client orders one of milk for the first store, under the key of the plan. -/
def orderFirst : List (Event PlanningWork) :=
  [.begin 0 (.request (.stock (.createPurchaseOrder {
    storeId := 0
    supplierId := 0
    orderDate := 0
    lines := [⟨0, 1, 1⟩]
    clientTransactionId := planOrderKey 0
    callerStoreId := none }))), .step 0]

/-- The plan is executed with an order of its own. -/
def milkOrdered : PlanningServer :=
  value ((executeApproved 0).foldlM (guarded planning.exec KeyFree .blocked)
    { tables := milkApproved }) (by decide +kernel)

def milkExecuted : Row ReplenishmentPlan :=
  milkOrdered.tables.replenishment.plans.get ⟨0, by decide +kernel⟩

theorem supplier_plans_linked_milk :
    milkExecuted.val.executedQuantity = some 3 ∧ ∃ purchaseOrderId,
      milkExecuted.val.generatedPurchaseOrderId = some purchaseOrderId ∧
      OrderOf milkOrdered.tables.purchasing 0 milkExecuted.val purchaseOrderId ∧
      CreatedBy { tables := milkApproved } milkOrdered 0 purchaseOrderId := by
  refine ⟨by decide +kernel, ?_⟩
  have h := supplier_plans_linked beforeExecutions_milk (reaches_of_guarded (eq_ok_value _ _) :
    Reaches planning.exec KeyFree { tables := milkApproved } milkOrdered)
  exact h.1 0 milkExecuted 0 (List.getElem?_eq_getElem _) (by decide +kernel) (by decide +kernel)

/-- The client's order comes first, and the plan is executed with that. -/
def milkMislinked : PlanningServer :=
  value ((orderFirst ++ executeApproved 1).foldlM (fun sv e => planning.exec e sv)
    { tables := milkApproved }) (by decide +kernel)

def milkOfClient : Row ReplenishmentPlan :=
  milkMislinked.tables.replenishment.plans.get ⟨0, by decide +kernel⟩

/-- The order is for the first store, and the plan for the second. -/
theorem order_of_a_client : ¬∀ (db₀ : Db) (sv : PlanningServer), BeforeExecutions db₀ →
    PlanningRun { tables := db₀ } sv → SupplierPlansLinked { tables := db₀ } sv := by
  intro h
  have hlinked := h milkApproved milkMislinked beforeExecutions_milk
    (reaches_of_foldlM (eq_ok_value _ _))
  obtain ⟨purchaseOrderId, hlink, horder, -⟩ := hlinked 0 milkOfClient 0
    (List.getElem?_eq_getElem _) (by decide +kernel) (by decide +kernel)
  have hfirst : milkOfClient.val.generatedPurchaseOrderId = some 0 := by decide +kernel
  obtain rfl := Option.some.inj (hfirst.symm.trans hlink)
  obtain ⟨order, hrow, hstore, -, -⟩ := horder.order
  have hother : ∀ order ∈ milkMislinked.tables.purchasing.orders[0]?,
      order.storeId ≠ milkOfClient.val.destinationStoreId := by decide +kernel
  exact hother order hrow hstore

end GroceryErp
