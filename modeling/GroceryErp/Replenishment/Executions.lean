import GroceryErp.Lib.Transactions
import GroceryErp.Replenishment.Drafts

/-!
# Executions side by side

Executions of plans, each in a session of its own, beside requests that move stock.  An
execution locks its plan, then its products in ascending order, and only then reads what is on
its way and what the drafts request; it holds the locks until it commits.  A stock request
writes products only under their locks.

## Main definitions

* `PlanWork` — the requests.
* `PlanSession` — where a session is.
* `replenishing` — what a session does next.
* `PlanAdvance`, `PlanStep` — what a read or a lock leads to, and what a commit has done.

## Main results

* `PlanSession.advance_of_read`, `PlanSession.advance_of_lock`, `PlanSession.step` — there is
  nothing else.

## References

`backend/app/modules/replenishment/service.py`, `execute_plan`;
`backend/app/modules/inventory/service.py`, `lock_product_for_update`.
-/

namespace GroceryErp

open Decimal Outcome Rows Runs Transactions

/-! ### Sessions -/

inductive PlanWork
  | executePlan (req : ExecutePlan)
  /-- A request with the products it locks, in this order. -/
  | stock (r : StockRequest) (productIds : List ℕ)

/-- The rows that are locked. -/
inductive PlanLock
  | plan (planId : ℕ)
  | product (productId : ℕ)
  deriving DecidableEq

/-- Where a session that executes a plan is, with what it has read so far. -/
inductive PlanSession
  | begun (req : ExecutePlan)
  /-- The request is a replay. -/
  | answered
  | keyMissed (req : ExecutePlan)
  | planLocked (req : ExecutePlan) (plan : Row ReplenishmentPlan)
  | locking (hold : PlanHold) (toLock : List ℕ)
  /-- What is on its way in transfers has been read. -/
  | inboundRead (hold : PlanHold) (inbound : ℕ → ℚ)
  /-- There is a shortfall. -/
  | measured (hold : PlanHold) (shortfall : ℚ)
  | decided (hold : PlanHold) (shortfall : ℚ) (outcome : PlanOutcome)
  | stocking (r : StockRequest) (locked toLock : List ℕ)

/-- A request writes the products it has locked. -/
def WritesLocked (locked : List ℕ) (db db' : Db) : Prop :=
  db'.stock.products.length = db.stock.products.length ∧
    ∀ i < db.stock.products.length, db'.stock.products[i]? = db.stock.products[i]? ∨ i ∈ locked

instance decidableWritesLocked (locked : List ℕ) (db db' : Db) :
    Decidable (WritesLocked locked db db') :=
  inferInstanceAs (Decidable (_ ∧ _))

/-- What a session does next, in the order of `execute_plan`: the key, the plan, its products, the
two sums, and then the decision. -/
def PlanSession.next : PlanSession → Action Db PlanLock PlanSession
  | begun req => .read fun db => Except.toOption do
    match ← scalarOneOrNone (planExecutedWithKey db req.clientTransactionId) with
    | some _ => return answered
    | none => return keyMissed req
  | answered => .commit fun db => some db
  | keyMissed req => .lock (.plan req.planId) fun db => Except.toOption do
    match ← checkPlan db req with
    | some plan => return planLocked req plan
    | none => return answered
  | planLocked req plan => .read fun db => Except.toOption do
    let sourceProductId ← findSourceProduct db plan.val
    let hold : PlanHold := { req, plan, sourceProductId }
    return locking hold hold.idsToLock
  | locking hold (productId :: toLock) => .lock (.product productId) fun db => do
    let product ← db.stock.products[productId]?
    return locking
      { hold with lockedProducts := hold.lockedProducts ++ [(productId, product)] } toLock
  | locking hold [] => .read fun db =>
    some (inboundRead hold (inboundTransferQuantities db [hold.plan.val.productId]))
  | inboundRead hold inbound => .read fun db => Except.toOption do
    let openPo := openPurchaseOrderQuantities db [hold.plan.val.productId]
    let destination ← hold.product hold.plan.val.productId
    let shortfall := currentShortfall inbound openPo destination
    if shortfall ≤ 0 then return decided hold shortfall (.stale .staleRecommendation)
    else return measured hold shortfall
  | measured hold shortfall => .read fun db => Except.toOption do
    let outcome ← hold.decide db shortfall
    return decided hold shortfall outcome
  | decided hold _ outcome => .commit fun db => committed (hold.settle db outcome)
  | stocking r locked (productId :: toLock) => .lock (.product productId) fun db => do
    let _ ← db.stock.products[productId]?
    return stocking r (productId :: locked) toLock
  | stocking r locked [] => .commit fun db =>
    (committed (r.run db)).filter fun db' => WritesLocked locked db db'

/-- The sessions of the plans and of what runs beside them. -/
def replenishing : Program Db PlanLock PlanSession PlanWork where
  start
    | .executePlan req => .begun req
    | .stock r productIds => .stocking r [] productIds
  next := PlanSession.next

/-- The tables with the open sessions. -/
abbrev PlanServer := Server Db PlanLock PlanSession

/-! ### Where a read or a lock leads -/

/-- What a read, or the lock of `key`, has brought a session to. -/
inductive PlanAdvance (db : Db) : Option PlanLock → PlanSession → PlanSession → Prop
  | replayed {key : Option PlanLock} {t : PlanSession} : PlanAdvance db key t .answered
  | missed {req : ExecutePlan} : PlanAdvance db none (.begun req) (.keyMissed req)
  | checked {req : ExecutePlan} {plan : Row ReplenishmentPlan}
      (check : checkPlan db req = .ok (some plan)) :
      PlanAdvance db (some (.plan req.planId)) (.keyMissed req) (.planLocked req plan)
  | located {req : ExecutePlan} {plan : Row ReplenishmentPlan} {hold : PlanHold}
      (loaded : hold.req = req ∧ hold.plan = plan ∧ hold.lockedProducts = []) :
      PlanAdvance db none (.planLocked req plan) (.locking hold hold.idsToLock)
  | locked {hold : PlanHold} {productId : ℕ} {product : Row Product} {toLock : List ℕ}
      (row : db.stock.products[productId]? = some product) :
      PlanAdvance db (some (.product productId)) (.locking hold (productId :: toLock)) (.locking
        { hold with lockedProducts := hold.lockedProducts ++ [(productId, product)] } toLock)
  | inbound {hold : PlanHold} : PlanAdvance db none (.locking hold [])
      (.inboundRead hold (inboundTransferQuantities db [hold.plan.val.productId]))
  /-- The position has recovered. -/
  | recovered {hold : PlanHold} {inbound : ℕ → ℚ} {shortfall : ℚ} :
      PlanAdvance db none (.inboundRead hold inbound)
        (.decided hold shortfall (.stale .staleRecommendation))
  | measured {hold : PlanHold} {inbound : ℕ → ℚ} {destination : ℕ × Row Product} {shortfall : ℚ}
      (product : hold.product hold.plan.val.productId = .ok destination) (short : 0 < shortfall)
      (formula : shortfall = currentShortfall inbound
        (openPurchaseOrderQuantities db [hold.plan.val.productId]) destination) :
      PlanAdvance db none (.inboundRead hold inbound) (.measured hold shortfall)
  | decided {hold : PlanHold} {shortfall : ℚ} {outcome : PlanOutcome}
      (decision : hold.decide db shortfall = .ok outcome) :
      PlanAdvance db none (.measured hold shortfall) (.decided hold shortfall outcome)
  | stocking {r : StockRequest} {productId : ℕ} {locked toLock : List ℕ} :
      PlanAdvance db (some (.product productId)) (.stocking r locked (productId :: toLock))
        (.stocking r (productId :: locked) toLock)

section Advances

variable {db : Db} {t t' : PlanSession}

theorem PlanSession.advance_of_read {f : Db → Option PlanSession} (hnext : t.next = .read f)
    (h : f db = some t') : PlanAdvance db none t t' := by
  cases t with
  -- the key is looked up before the lock of the plan is asked for
  | begun req =>
    cases hnext
    obtain ⟨found, -, h⟩ := bind_eq_ok.mp (toOption_eq_some.mp h)
    cases found with
    | some winner =>
      cases h
      exact .replayed
    | none =>
      cases h
      exact .missed
  | planLocked req plan =>
    cases hnext
    obtain ⟨sourceProductId, -, h⟩ := bind_eq_ok.mp (toOption_eq_some.mp h)
    cases h
    exact .located ⟨rfl, rfl, rfl⟩
  | locking hold toLock =>
    cases toLock with
    | cons productId toLock => cases hnext
    | nil =>
      cases hnext
      cases h
      exact .inbound
  -- what is inbound and what is ordered are two queries, and a commit of another may fall between
  | inboundRead hold inbound =>
    cases hnext
    obtain ⟨destination, hproduct, h⟩ := bind_eq_ok.mp (toOption_eq_some.mp h)
    dsimp only at h
    split at h
    -- the shortage has gone since the plan was made, so the plan goes stale
    · cases h
      exact .recovered
    · next hshort =>
      cases h
      exact .measured hproduct (not_le.mp hshort) rfl
  | measured hold shortfall =>
    cases hnext
    obtain ⟨outcome, hdecision, h⟩ := bind_eq_ok.mp (toOption_eq_some.mp h)
    cases h
    exact .decided hdecision
  -- these ask for a lock or commit, and read nothing
  | stocking r locked toLock => cases toLock <;> cases hnext
  | answered | keyMissed | decided => cases hnext

theorem PlanSession.advance_of_lock {key : PlanLock} {f : Db → Option PlanSession}
    (hnext : t.next = .lock key f) (h : f db = some t') : PlanAdvance db (some key) t t' := by
  cases t with
  -- the lock of the plan, and with it the second look at the key
  | keyMissed req =>
    cases hnext
    obtain ⟨plan, hcheck, h⟩ := bind_eq_ok.mp (toOption_eq_some.mp h)
    cases plan with
    | some plan =>
      cases h
      exact .checked hcheck
    | none =>
      cases h
      exact .replayed
  | locking hold toLock =>
    cases toLock with
    | nil => cases hnext
    | cons productId toLock =>
      cases hnext
      obtain ⟨product, hproduct, h⟩ := Option.bind_eq_some_iff.mp h
      cases h
      exact .locked hproduct
  | stocking r locked toLock =>
    cases toLock with
    | nil => cases hnext
    | cons productId toLock =>
      cases hnext
      obtain ⟨product, -, h⟩ := Option.bind_eq_some_iff.mp h
      cases h
      exact .stocking
  | begun | answered | planLocked | inboundRead | measured | decided => cases hnext

end Advances

/-! ### What a commit has done -/

/-- The plan is written with its document. -/
def PlanHold.Writes (hold : PlanHold) (plan : ReplenishmentPlan) (db d db' : Db) : Prop :=
  ∃ row : Row ReplenishmentPlan, row.val = plan ∧ db' = ({ d with
    replenishment.plans := db.replenishment.plans.set hold.req.planId row } : Db).commit

/-- What a commit of a session has done to the tables, by what the session was about to write. -/
inductive PlanStep (db : Db) : PlanSession → Db → Prop
  /-- The request is a replay, or is rolled back. -/
  | unchanged {t : PlanSession} {db' : Db} (same : db' = db ∨ db' = db.commit) : PlanStep db t db'
  | stock {r : StockRequest} {locked : List ℕ} {d : Db} (run : r.run db = .ok d)
      (writes : WritesLocked locked db d.commit) : PlanStep db (.stocking r locked []) d.commit
  | stale {hold : PlanHold} {shortfall : ℚ} {code : ErrorCode} {db' : Db}
      (written : hold.Writes { hold.plan.val with status := .stale } db db db') :
      PlanStep db (.decided hold shortfall (.stale code)) db'
  | ordered {hold : PlanHold} {shortfall quantity unitCost : ℚ} {supplierId purchaseOrderId : ℕ}
      {d db' : Db}
      (order : createPurchaseOrderInner db (hold.orderRequest supplierId quantity unitCost)
        (some hold.req.planId) = .ok (d, purchaseOrderId))
      (written : hold.Writes { hold.executed quantity with
        executedUnitCost := some (numeric 6 unitCost)
        generatedPurchaseOrderId := some purchaseOrderId } db d db') :
      PlanStep db (.decided hold shortfall (.order supplierId quantity unitCost)) db'
  | transferred {hold : PlanHold} {shortfall quantity : ℚ}
      {sourceStoreId sourceProductId transferId : ℕ} {d db' : Db}
      (transfer : createTransferInner db
        (hold.transferRequest sourceStoreId sourceProductId quantity) (some hold.req.planId)
          = .ok (d, transferId))
      (written : hold.Writes { hold.executed quantity with
        generatedTransferId := some transferId } db d db') :
      PlanStep db (.decided hold shortfall (.transfer sourceStoreId sourceProductId quantity)) db'

section Steps

variable {db d db' : Db} {t : PlanSession}

/-- What an execution commits: the plan is stale, or is executed with the one document it came to.
-/
theorem PlanHold.settle_step {hold : PlanHold} {shortfall : ℚ} {outcome : PlanOutcome}
    (h : hold.settle db outcome = .ok d) : PlanStep db (.decided hold shortfall outcome) d.commit := by
  cases outcome with
  | stale code =>
    unfold settle at h
    simp only [bind_eq_ok, flush_eq_ok, pure_eq_ok] at h
    obtain ⟨row, hrow, rfl⟩ := h
    exact .stale ⟨row, hrow, rfl⟩
  | order supplierId quantity unitCost =>
    unfold settle at h
    simp only [bind_eq_ok, Prod.exists] at h
    obtain ⟨e, purchaseOrderId, horder, hfinish⟩ := h
    rcases hold.finish_ok hfinish with rfl | ⟨row, hrow, rfl⟩
    · exact .unchanged (.inr rfl)
    · exact .ordered horder ⟨row, hrow, rfl⟩
  | transfer sourceStoreId sourceProductId quantity =>
    unfold settle at h
    simp only [bind_eq_ok, Prod.exists] at h
    obtain ⟨e, transferId, htransfer, hfinish⟩ := h
    rcases hold.finish_ok hfinish with rfl | ⟨row, hrow, rfl⟩
    · exact .unchanged (.inr rfl)
    · exact .transferred htransfer ⟨row, hrow, rfl⟩

/-- **Every commit has done one of the few.** -/
theorem PlanSession.step {f : Db → Option Db} (hnext : t.next = .commit f) (h : f db = some db') :
    PlanStep db t db' := by
  cases t with
  | answered =>
    cases hnext
    cases h
    exact .unchanged (.inl rfl)
  | decided hold shortfall outcome =>
    cases hnext
    obtain ⟨d, hd, rfl⟩ := committed_eq_some.mp h
    exact hold.settle_step hd
  | stocking r locked toLock =>
    cases toLock with
    | cons productId toLock => cases hnext
    | nil =>
      cases hnext
      obtain ⟨hcommitted, hwrites⟩ := Option.filter_eq_some_iff.mp h
      obtain ⟨d, hd, rfl⟩ := committed_eq_some.mp hcommitted
      exact .stock hd (of_decide_eq_true hwrites)
  | locking hold toLock => cases toLock <;> cases hnext
  | begun | keyMissed | planLocked | inboundRead | measured => cases hnext

end Steps

end GroceryErp
