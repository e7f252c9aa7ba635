import GroceryErp.Replenishment.Executions

/-!
# Executions over any run

Two executions that draw on one product hold its lock in turn, so the second counts what the
first has drafted, and whatever happens in between only takes drafts away.  The lock of its
plan keeps an execution the only one of the plan.

## Main definitions

* `PlanTables` — the invariant of the tables.
* `PlanSession.Knows` — what a session knows under its locks.

## Main results

* `PlanStep.leaves` — what a commit leaves to the other sessions.
* `replenishing_keeps` — the events of a run keep the invariant.

## References

`backend/app/modules/replenishment/service.py`, `execute_plan`.
-/

namespace GroceryErp

open Decimal Outcome Rows Runs Transactions

/-! ### What a session knows -/

theorem forall_mem_none {α : Type*} {P : α → Prop} : ∀ x ∈ (none : Option α), P x :=
  fun x h => absurd h (Option.not_mem_none x)

namespace PlanSession

/-- What an execution has loaded: the plan, once it is locked, and what it has found for it since.
-/
def hold : PlanSession → Option PlanHold
  | planLocked req plan => some { req, plan, sourceProductId := none }
  | locking hold _ | inboundRead hold _ | measured hold _ | decided hold _ _ => some hold
  | begun _ | answered | keyMissed _ | stocking _ _ _ => none

/-- The products a stock request has locked. -/
def locked : PlanSession → List ℕ
  | stocking _ locked _ => locked
  | _ => []

/-- The stock request of a session. -/
def request : PlanSession → Option StockRequest
  | stocking r _ _ => some r
  | _ => none

/-- What a transfer that has been decided on takes of its source, with what was loaded. -/
def draws : PlanSession → Option (PlanHold × ℕ × ℚ)
  | decided hold _ (.transfer _ sourceProductId quantity) => some (hold, sourceProductId, quantity)
  | _ => none

/-- The source has the quantity above its reorder point, beside the drafts on it. -/
def Spares (db : Db) (hold : PlanHold) (sourceProductId : ℕ) (quantity : ℚ) : Prop :=
  ∃ source : Row Product, (sourceProductId, source) ∈ hold.lockedProducts ∧
    committedOutboundTransferQuantity db sourceProductId + quantity
      ≤ source.val.currentQtyOnHand - source.val.reorderPoint.getD 0

/-- What a session knows: the rows under its locks as it has loaded them, and what the source
of a transfer spares. -/
structure Knows (held : PlanLock → Prop) (db : Db) (t : PlanSession) : Prop where
  plan : ∀ hold ∈ t.hold, held (.plan hold.req.planId) ∧
    db.replenishment.plans[hold.req.planId]? = some hold.plan ∧ hold.plan.val.status = .approved
  products : ∀ hold ∈ t.hold, ∀ x ∈ hold.lockedProducts,
    held (.product x.1) ∧ db.stock.products[x.1]? = some x.2
  stock : ∀ i ∈ t.locked, held (.product i)
  beside : ∀ r ∈ t.request, r.BesidePlans
  spared : ∀ x ∈ t.draws, t.hold = some x.1 ∧ Spares db x.1 x.2.1 x.2.2

section Knows

variable {held : PlanLock → Prop} {db : Db} {t : PlanSession} {loaded : PlanHold}

theorem knows_of_idle (hhold : t.hold = none) (hlocked : t.locked = []) (hrequest : t.request = none)
    (hdraws : t.draws = none) : t.Knows held db := by
  refine ⟨?_, ?_, ?_, ?_, ?_⟩
  · rw [hhold]
    exact forall_mem_none
  · rw [hhold]
    exact forall_mem_none
  · simp [hlocked]
  · rw [hrequest]
    exact forall_mem_none
  · rw [hdraws]
    exact forall_mem_none

/-- An execution knows its plan and its products. -/
theorem knows_of_hold (hhold : t.hold = some loaded) (hlocked : t.locked = [])
    (hrequest : t.request = none) (hplan : held (.plan loaded.req.planId) ∧
      db.replenishment.plans[loaded.req.planId]? = some loaded.plan ∧
      loaded.plan.val.status = .approved)
    (hproducts : ∀ x ∈ loaded.lockedProducts,
      held (.product x.1) ∧ db.stock.products[x.1]? = some x.2)
    (hspared : ∀ x ∈ t.draws, t.hold = some x.1 ∧ Spares db x.1 x.2.1 x.2.2) : t.Knows held db := by
  refine ⟨?_, ?_, ?_, ?_, hspared⟩
  · intro hold hmem
    rw [hhold, Option.mem_some_iff] at hmem
    subst hmem
    exact hplan
  · intro hold hmem
    rw [hhold, Option.mem_some_iff] at hmem
    subst hmem
    exact hproducts
  · simp [hlocked]
  · simp [hrequest]

end Knows

end PlanSession

/-- The tables as their columns keep them, with the lines of transfers that are there, and no
document of a plan but the one of its execution. -/
structure PlanTables (db : Db) : Prop where
  stored : db.commit = db
  placed : ∀ l ∈ db.transfers.lines, l.val.transferId < db.transfers.transfers.length
  documents : ∀ i, planDocuments db i ≤ 1
  undocumented : ∀ (i : ℕ) (plan : Row ReplenishmentPlan), db.replenishment.plans[i]? = some plan →
    plan.val.status ≠ .executed → planDocuments db i = 0

/-! ### What an execution writes -/

/-- The tables beside the plans, where an execution drafts a transfer. -/
structure TransferDrafted (hold : PlanHold) (sourceStoreId sourceProductId : ℕ) (quantity : ℚ)
    (db db' : Db) (transfer : Row InterStoreTransfer) (line : Row InterStoreTransferLine) :
    Prop where
  transfer_eq : transfer.val = ⟨sourceStoreId, hold.plan.val.destinationStoreId, .draft, none,
    some hold.req.planId⟩
  line_eq : line.val.drafted = (db.transfers.transfers.length, sourceProductId, numeric 3 quantity)
  transfers : db'.transfers.transfers = db.transfers.transfers ++ [transfer]
  lines : db'.transfers.lines = db.transfers.lines ++ [line]
  stock : db'.stock = db.stock
  purchasing : db'.purchasing = db.purchasing
  terms : db'.replenishment.supplierProducts = db.replenishment.supplierProducts

/-- The tables beside the plans, where an execution drafts an order, or finds one under its
key. -/
structure OrderDrafted (hold : PlanHold) (quantity : ℚ) (db db' : Db) : Prop where
  orders : (db'.purchasing = db.purchasing) ∨ ∃ (order : PurchaseOrder) (item : Row PurchaseOrderItem),
    order.replenishmentPlanId = some hold.req.planId ∧
    item.val.quantityOrdered = numeric 3 quantity ∧
    db'.purchasing.orders = db.purchasing.orders ++ [order] ∧
    db'.purchasing.orderItems = db.purchasing.orderItems ++ [item]
  stock : db'.stock = db.stock
  transfers : db'.transfers = db.transfers
  terms : db'.replenishment.supplierProducts = db.replenishment.supplierProducts

section Writes

variable {db d db' : Db} {hold : PlanHold}

/-- The row of the plan is all that is written of the plans. -/
theorem PlanHold.Writes.plans {plan : ReplenishmentPlan} (h : hold.Writes plan db d db') :
    ∃ row : Row ReplenishmentPlan, row.val = plan ∧
      db'.replenishment.plans = db.replenishment.plans.set hold.req.planId row := by
  obtain ⟨row, hrow, rfl⟩ := h
  exact ⟨row, hrow, rfl⟩

theorem transferDrafted_of_written {plan : ReplenishmentPlan} {sourceStoreId sourceProductId transferId : ℕ}
    {quantity : ℚ} (hstored : db.commit = db)
    (h : createTransferInner db (hold.transferRequest sourceStoreId sourceProductId quantity)
      (some hold.req.planId) = .ok (d, transferId)) (hwritten : hold.Writes plan db d db') :
    ∃ transfer line,
      TransferDrafted hold sourceStoreId sourceProductId quantity db db' transfer line := by
  obtain ⟨row, -, rfl⟩ := hwritten
  obtain ⟨transfer, lines, htransfer, hcolumns, hlines, rfl⟩ := createTransferInner_ok h
  -- the one line of the request is the one line of the transfer
  obtain ⟨line, rfl, hline⟩ := List.map_eq_singleton_iff.mp hcolumns
  obtain ⟨⟨input, hinput⟩, -, -⟩ := hlines line (List.mem_singleton_self line)
  rw [Prod.mk.injEq] at hline
  obtain ⟨hsource, hquantity⟩ := hline
  refine ⟨transfer, ⟨line.val.stored, line.2.stored⟩, htransfer, ?_, rfl, ?_, ?_, ?_, rfl⟩
  · show (line.val.transferId, line.val.sourceProductId, line.val.requestedQuantity) = _
    rw [hsource, hquantity, hinput]
    rfl
  · have hkept : db.commit.transfers.lines = db.transfers.lines := by rw [hstored]
    show (db.transfers.lines ++ [line]).map _ = _
    rw [List.map_append, List.map_singleton]
    exact congrArg (· ++ _) hkept
  · show { db.stock with products := db.commit.stock.products } = db.stock
    rw [hstored]
  · show { db.purchasing with orderItems := db.commit.purchasing.orderItems } = db.purchasing
    rw [hstored]

theorem orderDrafted_of_written {plan : ReplenishmentPlan} {supplierId purchaseOrderId : ℕ}
    {quantity unitCost : ℚ} (hstored : db.commit = db)
    (h : createPurchaseOrderInner db (hold.orderRequest supplierId quantity unitCost)
      (some hold.req.planId) = .ok (d, purchaseOrderId)) (hwritten : hold.Writes plan db d db') :
    OrderDrafted hold quantity db db' := by
  obtain ⟨row, -, rfl⟩ := hwritten
  have hstock : { db.stock with products := db.commit.stock.products } = db.stock := by
    rw [hstored]
  have htransfers : { db.transfers with lines := db.commit.transfers.lines } = db.transfers := by
    rw [hstored]
  rcases createPurchaseOrderInner_ok h with rfl | ⟨order, items, -, hplan, hitems, -, rfl⟩
  · refine ⟨.inl ?_, hstock, htransfers, rfl⟩
    show { d.purchasing with orderItems := d.commit.purchasing.orderItems } = d.purchasing
    rw [hstored]
  · obtain ⟨item, rfl, hitem⟩ := List.map_eq_singleton_iff.mp hitems
    refine ⟨.inr ⟨order, ⟨item.val.stored, item.2.stored⟩, hplan, ?_, rfl, ?_⟩, hstock, htransfers,
      rfl⟩
    · show item.val.quantityOrdered = _
      rw [hitem]
      rfl
    · have hkept : db.commit.purchasing.orderItems = db.purchasing.orderItems := by rw [hstored]
      show (db.purchasing.orderItems ++ [item]).map _ = _
      rw [List.map_append, List.map_singleton]
      exact congrArg (· ++ _) hkept

end Writes

/-! ### What a commit leaves to the others -/

/-- What a commit leaves of the rows that other sessions have locked: their plans, their
products, and no more drafts on these. -/
structure LeavesOthers (t : PlanSession) (db db' : Db) : Prop where
  plans : ∀ i, (∀ hold ∈ t.hold, hold.req.planId ≠ i) →
    db'.replenishment.plans[i]? = db.replenishment.plans[i]?
  products : ∀ i, i ∉ t.locked → db'.stock.products[i]? = db.stock.products[i]?
  drafts : ∀ i, (∀ hold ∈ t.hold, ∀ x ∈ hold.lockedProducts, x.1 ≠ i) →
    committedOutboundTransferQuantity db' i ≤ committedOutboundTransferQuantity db i
  terms : db'.replenishment.supplierProducts = db.replenishment.supplierProducts

section Leaves

variable {db d db' : Db} {t : PlanSession} {hold : PlanHold} {held : PlanLock → Prop}

theorem LeavesOthers.refl (t : PlanSession) (db : Db) : LeavesOthers t db db :=
  ⟨fun _ _ => rfl, fun _ _ => rfl, fun _ _ => le_refl _, rfl⟩

/-- Another plan than the one that is written is what it was. -/
theorem PlanHold.Writes.others {plan : ReplenishmentPlan} (h : hold.Writes plan db d db') {i : ℕ}
    (hi : hold.req.planId ≠ i) : db'.replenishment.plans[i]? = db.replenishment.plans[i]? := by
  obtain ⟨row, -, hplans⟩ := h.plans
  rw [hplans, List.getElem?_set_ne hi]

theorem committed_of_transfers (h : db'.transfers = db.transfers) (i : ℕ) :
    committedOutboundTransferQuantity db' i = committedOutboundTransferQuantity db i := by
  have hdraft : ∀ id, transferDraft db' id ↔ transferDraft db id := by
    intro id
    unfold transferDraft
    rw [h]
  unfold committedOutboundTransferQuantity
  rw [h]
  apply sumWhere_congr
  · intro l _
    rw [hdraft]
  · intro l _ _
    rfl

/-- A draft of an execution commits nothing of a product but the source. -/
theorem TransferDrafted.committed {sourceStoreId sourceProductId : ℕ} {quantity : ℚ}
    {transfer : Row InterStoreTransfer} {line : Row InterStoreTransferLine}
    (h : TransferDrafted hold sourceStoreId sourceProductId quantity db db' transfer line)
    (hplaced : ∀ l ∈ db.transfers.lines, l.val.transferId < db.transfers.transfers.length)
    (i : ℕ) : committedOutboundTransferQuantity db' i = committedOutboundTransferQuantity db i
      + if sourceProductId = i then numeric 3 quantity else 0 := by
  obtain ⟨hid, hsource, hquantity⟩ : line.val.transferId = db.transfers.transfers.length ∧
      line.val.sourceProductId = sourceProductId ∧
      line.val.requestedQuantity = numeric 3 quantity := by
    have hline := h.line_eq
    unfold InterStoreTransferLine.drafted at hline
    rwa [Prod.mk.injEq, Prod.mk.injEq] at hline
  have hdraft : transfer.val.status = .draft := by rw [h.transfer_eq]
  rw [committed_append h.transfers h.lines hplaced hdraft hid, hsource, hquantity]

/-- **What a commit leaves to the other sessions.** -/
theorem PlanStep.leaves (h : PlanStep db t db') (hI : PlanTables db) (hQ : t.Knows held db) :
    LeavesOthers t db db' := by
  cases h with
  | unchanged same =>
    rcases same with rfl | rfl
    · exact .refl t db'
    · rw [hI.stored]
      exact .refl t db
  | @stock r locked d run writes =>
    have hframe := StockRequest.frame run
    have hreplenishment : d.replenishment = db.replenishment := by rw [hframe.others]
    have hdrafts := (StockRequest.draftsNothing (hQ.beside r rfl) run).commit
    refine ⟨?_, ?_, fun i _ => hdrafts.committed_le i, ?_⟩
    · intro i _
      show d.replenishment.plans[i]? = _
      rw [hreplenishment]
    · intro i hi
      by_cases hlt : i < db.stock.products.length
      · rcases writes.2 i hlt with hsame | hlocked
        · exact hsame
        · exact absurd hlocked hi
      · -- there is no such product, before and after
        rw [not_lt] at hlt
        rw [List.getElem?_eq_none_iff.mpr hlt, List.getElem?_eq_none_iff.mpr (writes.1 ▸ hlt)]
    · show d.replenishment.supplierProducts = _
      rw [hreplenishment]
  | @stale hold shortfall code db' written =>
    have hstock : db'.stock = db.stock ∧ db'.transfers = db.transfers := by
      obtain ⟨row, -, rfl⟩ := written
      refine ⟨?_, ?_⟩
      · show db.commit.stock = db.stock
        rw [hI.stored]
      · show db.commit.transfers = db.transfers
        rw [hI.stored]
    refine ⟨fun i hi => written.others (hi hold rfl), fun i _ => by rw [hstock.1],
      fun i _ => (committed_of_transfers hstock.2 i).le, ?_⟩
    obtain ⟨row, -, rfl⟩ := written
    rfl
  | @ordered hold shortfall quantity unitCost supplierId purchaseOrderId d db' order written =>
    have hdrafted := orderDrafted_of_written hI.stored order written
    exact ⟨fun i hi => written.others (hi hold rfl), fun i _ => by rw [hdrafted.stock],
      fun i _ => (committed_of_transfers hdrafted.transfers i).le, hdrafted.terms⟩
  | @transferred hold shortfall quantity sourceStoreId sourceProductId transferId d db' transfer
      written =>
    obtain ⟨_, _, hdrafted⟩ := transferDrafted_of_written hI.stored transfer written
    refine ⟨fun i hi => written.others (hi hold rfl), fun i _ => by rw [hdrafted.stock], ?_,
      hdrafted.terms⟩
    intro i hi
    -- the source is among the products that the execution has locked
    obtain ⟨-, source, hmem, -⟩ := hQ.spared (hold, sourceProductId, quantity) rfl
    have hne : sourceProductId ≠ i := hi hold rfl _ hmem
    rw [hdrafted.committed hI.placed, if_neg hne, add_zero]

end Leaves

/-! ### The invariant -/

section Invariant

variable {db d db' : Db} {t : PlanSession} {hold : PlanHold} {held : PlanLock → Prop}

/-- Writing the row of an approved plan, with a document only where it is executed. -/
theorem PlanTables.written {plan : ReplenishmentPlan} (hI : PlanTables db)
    (hrow : db.replenishment.plans[hold.req.planId]? = some hold.plan)
    (happroved : hold.plan.val.status = .approved) (hw : hold.Writes plan db d db')
    (hplaced : ∀ l ∈ db'.transfers.lines, l.val.transferId < db'.transfers.transfers.length)
    (hdocuments : ∀ i, planDocuments db' i ≤ planDocuments db i
      + if hold.req.planId = i ∧ plan.status = .executed then 1 else 0) : PlanTables db' := by
  -- there was no document of the plan
  have hnone : planDocuments db hold.req.planId = 0 := by
    refine hI.undocumented _ hold.plan hrow ?_
    rw [happroved]
    exact PlanStatus.noConfusion
  refine ⟨?_, hplaced, ?_, ?_⟩
  · obtain ⟨row, -, rfl⟩ := hw
    exact commit_commit _
  · intro i
    have hle := hdocuments i
    by_cases hi : hold.req.planId = i
    · subst hi
      split at hle
      · omega
      · omega
    · have hbefore := hI.documents i
      rw [if_neg fun hboth => hi hboth.1] at hle
      omega
  · intro i p hp hstatus
    have hle := hdocuments i
    by_cases hi : hold.req.planId = i
    · subst hi
      obtain ⟨row, hval, hplans⟩ := hw.plans
      rw [hplans, getElem?_set_of_some hrow, if_pos rfl, Option.some.injEq] at hp
      subst hp
      rw [hval] at hstatus
      rw [if_neg fun hboth => hstatus hboth.2] at hle
      omega
    · rw [hw.others hi] at hp
      have hzero := hI.undocumented i p hp hstatus
      rw [if_neg fun hboth => hi hboth.1] at hle
      omega

theorem DraftsNothing.placed (h : DraftsNothing db db')
    (hplaced : ∀ l ∈ db.transfers.lines, l.val.transferId < db.transfers.transfers.length) :
    ∀ l ∈ db'.transfers.lines, l.val.transferId < db'.transfers.transfers.length := by
  intro l hl
  have hmem : l.val.drafted ∈ db.transfers.lines.map (·.val.drafted) := by
    rw [← h.lines]
    exact List.mem_map_of_mem hl
  obtain ⟨l', hl', hsame⟩ := List.mem_map.mp hmem
  have hid : l'.val.transferId = l.val.transferId := congrArg Prod.fst hsame
  rw [h.transfers.1, ← hid]
  exact hplaced l' hl'

/-- The requests beside the executions keep the invariant. -/
theorem PlanTables.besides {r : StockRequest} (hI : PlanTables db) (hr : r.BesidePlans)
    (hrun : r.run db = .ok d) : PlanTables d.commit := by
  have hdrafts := (StockRequest.draftsNothing hr hrun).commit
  have hframe := StockRequest.frame hrun
  refine ⟨commit_commit d, hdrafts.placed hI.placed, ?_, ?_⟩
  · intro i
    rw [hdrafts.planDocuments_eq]
    exact hI.documents i
  · intro i plan hplan hstatus
    have hreplenishment : d.commit.replenishment = db.replenishment := by
      show d.replenishment = _
      rw [hframe.others]
    rw [hreplenishment] at hplan
    rw [hdrafts.planDocuments_eq]
    exact hI.undocumented i plan hplan hstatus

/-- **A commit keeps the invariant** of the plans: their documents, their stores and what the
columns hold. -/
theorem PlanStep.tables (h : PlanStep db t db') (hI : PlanTables db) (hQ : t.Knows held db) :
    PlanTables db' := by
  cases h with
  | unchanged same =>
    rcases same with rfl | rfl
    · exact hI
    · rwa [hI.stored]
  | @stock r locked d run writes => exact hI.besides (hQ.beside r rfl) run
  | @stale hold shortfall code db' written =>
    obtain ⟨-, hrow, happroved⟩ := hQ.plan hold rfl
    have htransfers : db'.transfers = db.transfers := by
      obtain ⟨row, -, rfl⟩ := written
      show db.commit.transfers = db.transfers
      rw [hI.stored]
    refine hI.written hrow happroved written ?_ ?_
    · rw [htransfers]
      exact hI.placed
    · intro i
      have hsame : planDocuments db' i = planDocuments db i := by
        unfold planDocuments
        rw [htransfers]
        obtain ⟨row, -, rfl⟩ := written
        rfl
      rw [hsame]
      exact Nat.le_add_right _ _
  | @ordered hold shortfall quantity unitCost supplierId purchaseOrderId d db' order written =>
    obtain ⟨-, hrow, happroved⟩ := hQ.plan hold rfl
    have hdrafted := orderDrafted_of_written hI.stored order written
    refine hI.written hrow happroved written ?_ ?_
    · rw [hdrafted.transfers]
      exact hI.placed
    · intro i
      rcases hdrafted.orders with hsame | ⟨order, item, hplan, -, horders, -⟩
      · -- an order was found under the key
        have hdocuments : planDocuments db' i = planDocuments db i := by
          unfold planDocuments
          rw [hsame, hdrafted.transfers]
        rw [hdocuments]
        exact Nat.le_add_right _ _
      · rw [planDocuments_of_order horders hdrafted.transfers hplan]
        by_cases hi : hold.req.planId = i
        · rw [if_pos hi, if_pos ⟨hi, rfl⟩]
        · rw [if_neg hi, if_neg fun hboth => hi hboth.1]
  | @transferred hold shortfall quantity sourceStoreId sourceProductId transferId d db' transfer
      written =>
    obtain ⟨-, hrow, happroved⟩ := hQ.plan hold rfl
    obtain ⟨transfer, line, hdrafted⟩ := transferDrafted_of_written hI.stored transfer written
    refine hI.written hrow happroved written ?_ ?_
    · rw [hdrafted.lines, hdrafted.transfers, List.length_append, List.length_singleton]
      intro l hl
      rcases List.mem_append.mp hl with hold | hnew
      · have hlt := hI.placed l hold
        omega
      · rw [List.mem_singleton.mp hnew]
        have hid : line.val.transferId = db.transfers.transfers.length :=
          congrArg Prod.fst hdrafted.line_eq
        omega
    · intro i
      have hplan : transfer.val.replenishmentPlanId = some hold.req.planId := by
        rw [hdrafted.transfer_eq]
      rw [planDocuments_of_transfer hdrafted.transfers hdrafted.purchasing hplan]
      by_cases hi : hold.req.planId = i
      · rw [if_pos hi, if_pos ⟨hi, rfl⟩]
      · rw [if_neg hi, if_neg fun hboth => hi hboth.1]

/-- **What a session knows under its locks is kept by who does not have them.** -/
theorem LeavesOthers.knows {u : PlanSession} (h : LeavesOthers t db db') (hQ : u.Knows held db)
    (hplans : ∀ hold ∈ u.hold, ∀ other ∈ t.hold, other.req.planId ≠ hold.req.planId)
    (hproducts : ∀ hold ∈ u.hold, ∀ x ∈ hold.lockedProducts, x.1 ∉ t.locked ∧
      ∀ other ∈ t.hold, ∀ y ∈ other.lockedProducts, y.1 ≠ x.1) : u.Knows held db' := by
  refine ⟨?_, ?_, hQ.stock, hQ.beside, ?_⟩
  · intro hold hhold
    obtain ⟨hheld, hrow, happroved⟩ := hQ.plan hold hhold
    exact ⟨hheld, (h.plans _ (hplans hold hhold)).trans hrow, happroved⟩
  · intro hold hhold x hx
    obtain ⟨hheld, hrow⟩ := hQ.products hold hhold x hx
    exact ⟨hheld, (h.products _ (hproducts hold hhold x hx).1).trans hrow⟩
  · rintro ⟨hold, sourceProductId, quantity⟩ hdraws
    obtain ⟨hhold, source, hmem, hspared⟩ := hQ.spared _ hdraws
    have hdrafts := h.drafts sourceProductId (hproducts hold hhold _ hmem).2
    exact ⟨hhold, source, hmem, by linarith⟩

end Invariant

/-! ### What reads and locks let a session know -/

section Advances

variable {db : Db} {t t' : PlanSession} {held : PlanLock → Prop} {key : Option PlanLock}

/-- Reads and locks let a session know what it has come to. -/
theorem PlanAdvance.knows (h : PlanAdvance db key t t') (hQ : t.Knows held db) :
    t'.Knows (fun i => some i = key ∨ held i) db := by
  -- what has been loaded stays known
  have hplan : ∀ hold, t.hold = some hold →
      (some (PlanLock.plan hold.req.planId) = key ∨ held (.plan hold.req.planId)) ∧
      db.replenishment.plans[hold.req.planId]? = some hold.plan ∧
      hold.plan.val.status = .approved := by
    intro hold hhold
    obtain ⟨hheld, hrow⟩ := hQ.plan hold hhold
    exact ⟨.inr hheld, hrow⟩
  have hproducts : ∀ hold, t.hold = some hold → ∀ x ∈ hold.lockedProducts,
      (some (PlanLock.product x.1) = key ∨ held (.product x.1)) ∧
      db.stock.products[x.1]? = some x.2 := by
    intro hold hhold x hx
    obtain ⟨hheld, hrow⟩ := hQ.products hold hhold x hx
    exact ⟨.inr hheld, hrow⟩
  cases h with
  | replayed | missed => exact PlanSession.knows_of_idle rfl rfl rfl rfl
  | @checked req plan check =>
    obtain ⟨hrow, happroved⟩ := checkPlan_ok check
    exact PlanSession.knows_of_hold rfl rfl rfl ⟨.inl rfl, hrow, happroved⟩
      (List.forall_mem_nil _) forall_mem_none
  | @located req plan hold loaded =>
    obtain ⟨rfl, rfl, hempty⟩ := loaded
    have hrow := hplan { req := hold.req, plan := hold.plan, sourceProductId := none } rfl
    refine PlanSession.knows_of_hold rfl rfl rfl hrow ?_ forall_mem_none
    rw [hempty]
    exact List.forall_mem_nil _
  | @locked hold productId product toLock row =>
    refine PlanSession.knows_of_hold rfl rfl rfl (hplan hold rfl) ?_ forall_mem_none
    intro x hx
    rcases List.mem_append.mp hx with hbefore | hnew
    · exact hproducts hold rfl x hbefore
    · rw [List.mem_singleton.mp hnew]
      exact ⟨.inl rfl, row⟩
  | inbound | recovered | measured =>
    exact PlanSession.knows_of_hold rfl rfl rfl (hplan _ rfl) (hproducts _ rfl) forall_mem_none
  | @decided hold shortfall outcome decision =>
    refine PlanSession.knows_of_hold rfl rfl rfl (hplan _ rfl) (hproducts _ rfl) ?_
    cases outcome with
    | stale | order => exact forall_mem_none
    | transfer sourceStoreId sourceProductId quantity =>
      rintro x ⟨⟩
      obtain ⟨-, -, -, -, hspared⟩ := hold.decide_eq_transfer decision
      exact ⟨rfl, hspared⟩
  | @stocking r productId locked toLock =>
    refine ⟨?_, ?_, ?_, hQ.beside, ?_⟩
    · exact forall_mem_none
    · exact forall_mem_none
    · intro i hi
      rcases List.mem_cons.mp hi with rfl | hbefore
      · exact .inl rfl
      · exact .inr (hQ.stock i hbefore)
    · exact forall_mem_none

end Advances

/-! ### Runs -/

/-- Orders and transfers are drafted by executions only: no other request of the run creates one. -/
def DraftedByPlans (_ : PlanServer) : Event PlanWork → Prop
  | .begin _ (.stock r _) => r.BesidePlans
  | _ => True

/-- The invariant of the tables; the terms of the suppliers are what they were. -/
structure PlanInv (base db : Db) : Prop where
  tables : PlanTables db
  terms : db.replenishment.supplierProducts = base.replenishment.supplierProducts

/-- **The events of a run keep the invariant.** -/
theorem replenishing_keeps (base : Db) :
    replenishing.Keeps DraftedByPlans (PlanInv base) PlanSession.Knows where
  start sv k work _ hok := by
    cases work with
    | executePlan req => exact PlanSession.knows_of_idle rfl rfl rfl rfl
    | stock r productIds =>
      refine ⟨forall_mem_none, forall_mem_none, List.forall_mem_nil _, ?_, forall_mem_none⟩
      rintro _ ⟨⟩
      exact hok
  read held db t t' f _ hQ hnext h := by
    have hknows := (PlanSession.advance_of_read hnext h).knows hQ
    simpa only [reduceCtorEq, false_or] using hknows
  lock held db t t' key f _ hQ hnext h := by
    have hknows := (PlanSession.advance_of_lock hnext h).knows hQ
    simpa only [Option.some.injEq] using hknows
  commit sv k t f s hinv _ hopen hnext h := by
    have hstep := PlanSession.step hnext h
    have hQ := hinv.sessions k t hopen
    exact ⟨hstep.tables hinv.tables.tables hQ,
      (hstep.leaves hinv.tables.tables hQ).terms.trans hinv.tables.terms⟩
  stable sv k t f s j u hinv _ hopen hnext h hjk hj := by
    have hQ := hinv.sessions k t hopen
    have hQ' := hinv.sessions j u hj
    -- one row is locked by one session
    have hapart : ∀ key, sv.Holds j key → ¬sv.Holds k key := by
      intro key hheld hheld'
      exact hjk (Option.some.inj (hheld.symm.trans hheld'))
    refine ((PlanSession.step hnext h).leaves hinv.tables.tables hQ).knows hQ' ?_ ?_
    · intro hold hhold other hother hsame
      exact hapart _ (hQ'.plan hold hhold).1 (hsame ▸ (hQ.plan other hother).1)
    · intro hold hhold x hx
      have hheld := (hQ'.products hold hhold x hx).1
      refine ⟨fun hlocked => hapart _ hheld (hQ.stock _ hlocked), ?_⟩
      intro other hother y hy hsame
      exact hapart _ hheld (hsame ▸ (hQ.products other hother y hy).1)

end GroceryErp
