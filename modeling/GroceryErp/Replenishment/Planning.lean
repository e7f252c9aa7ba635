import GroceryErp.Replenishment.Executions
import GroceryErp.Replenishment.Generation

/-!
# Planning side by side

Plans are generated, approved, cancelled and executed, each in a session of its own, beside
everything else that is asked for.  A generation takes the advisory lock of a store and a
product before it looks for an active plan, and holds it until it commits; the others lock the
row of their plan.

## Main definitions

* `PlanMove`, `checkMove`, `writeMove` — approvals and cancellations.
* `PlanningWork` — the requests.
* `PlanningSession` — where a session is.
* `planning` — what a session does next.
* `PlanningAdvance`, `PlanningStep` — what a read or a lock leads to, and what a commit has
  done.

## Main results

* `PlanningSession.advance_of_read`, `PlanningSession.advance_of_lock`, `PlanningSession.step` —
  there is nothing else.

## References

`backend/app/modules/replenishment/service.py`, `generate_replenishment_plans`, `approve_plan`,
`cancel_plan`, `execute_plan`.
-/

namespace GroceryErp

open Decimal Outcome Readings Rows Runs Transactions

/-! ### Approving and cancelling -/

inductive PlanMove
  | approve
  | cancel

namespace PlanMove

/-- The status that the plan comes to by the move. -/
def status : PlanMove → PlanStatus
  | approve => .approved
  | cancel => .cancelled

/-- The statuses that it may have before the move, and in no other is it made. -/
def allowed : PlanMove → List PlanStatus
  | approve => [.recommended]
  | cancel => [.recommended, .approved, .stale]

end PlanMove

/-- The request to approve or to cancel a plan. -/
structure MovePlan where
  planId : ℕ
  callerStoreId : Option ℕ

/-- The plan, once its row is locked; none where it has been moved before. -/
def checkMove (db : Db) (req : MovePlan) (move : PlanMove) :
    Result (Option (Row ReplenishmentPlan)) := do
  let plan ← orRaise db.replenishment.plans[req.planId]? .notFound
  enforcePlanAccess req.callerStoreId plan.val
  if plan.val.status = move.status then return none
  else do
    raiseIf (plan.val.status ∉ move.allowed) (.conflict .invalidPlanState)
    return some plan

/-- The plan is written with its new status. -/
def writeMove (db : Db) (planId : ℕ) (plan : ReplenishmentPlan) (move : PlanMove) : Result Db := do
  let row ← flush { plan with status := move.status }
  return { db with replenishment.plans := db.replenishment.plans.set planId row }

/-! ### Sessions -/

inductive PlanningWork
  | executePlan (req : ExecutePlan)
  | approvePlan (req : MovePlan)
  | cancelPlan (req : MovePlan)
  | generatePlans (req : GeneratePlans)
  /-- A request of the modules around, orders of users among them. -/
  | request (r : ErpRequest)
  /-- Anything that leaves orders and plans alone. -/
  | edit (f : Db → Db)

/-- The rows that are locked, and the keys of advisory locks. -/
inductive PlanningLock
  | row (key : PlanLock)
  | advisory (key : ℕ × ℕ)
  deriving DecidableEq

/-- A generation: the products it has loaded, what is still to be looked at, and what it has
found. -/
structure Generation where
  req : GeneratePlans
  products : List (ℕ × Row Product)
  todo : List Shortage
  created : List Sourcing := []

namespace Generation

def add (g : Generation) (x : Sourcing) : Generation := { g with created := g.created ++ [x] }

/-- `created_plans`: what a run has written, in the order of the shortages. -/
def plans (g : Generation) : List ReplenishmentPlan := g.created.flatMap (·.plans g.req.batchId)

end Generation

/-- Where a session is that generates plans, moves one on or executes one. -/
inductive PlanningSession
  | executing (t : PlanSession)
  /-- There is nothing to write. -/
  | answered
  | moving (req : MovePlan) (move : PlanMove)
  | moveLocked (req : MovePlan) (move : PlanMove) (plan : Row ReplenishmentPlan)
  | begun (req : GeneratePlans)
  | productsFound (req : GeneratePlans) (products : List (ℕ × Row Product))
  | inboundFound (req : GeneratePlans) (products : List (ℕ × Row Product)) (inbound : ℕ → ℚ)
  /-- The loop over the products. -/
  | generating (g : Generation)
  | keyLocked (g : Generation) (s : Shortage)
  /-- There is no active plan. -/
  | sourcing (g : Generation) (s : Shortage)
  /-- The suppliers are ranked for what the stores have left. -/
  | ranking (g : Generation) (x : Sourcing)
      (suppliers : Reading Db AppError (List (Row SupplierProduct)))
  | requesting (r : ErpRequest)
  | editing (f : Db → Db)

/-- The tables once something has been written that leaves orders and plans alone. -/
def edited (f : Db → Db) (db : Db) : Db :=
  ({ f db with
    purchasing := db.purchasing
    replenishment.plans := db.replenishment.plans } : Db).commit

/-- What a session does next; generations, moves of a plan and executions are sessions of one
program. -/
def PlanningSession.next : PlanningSession → Action Db PlanningLock PlanningSession
  | executing t => t.next.map .row executing
  | answered => .commit fun db => some db
  | moving req move => .lock (.row (.plan req.planId)) fun db => Except.toOption do
    match ← checkMove db req move with
    | some plan => return moveLocked req move plan
    | none => return answered
  | moveLocked req move plan => .commit fun db => committed (writeMove db req.planId plan.val move)
  | begun req => .read fun db => Except.toOption do
    let storeId ← generationStore req
    return productsFound req (replenishedProducts db storeId req.productIds)
  | productsFound req products => .read fun db =>
    some (inboundFound req products (inboundTransferQuantities db (products.map Prod.fst)))
  | inboundFound req products inbound => .read fun db =>
    let openPo := openPurchaseOrderQuantities db (products.map Prod.fst)
    some (generating { req, products, todo := shortages inbound openPo products })
  | generating g =>
    match g.todo with
    | s :: todo => .lock (.advisory s.key) fun _ => some (keyLocked { g with todo } s)
    | [] => .commit fun db => if g.plans = [] then some db else committed (insertPlans db g.plans)
  | keyLocked g s => .read fun db =>
    if activePlans db s.key = [] then some (sourcing g s) else some (generating g)
  | sourcing g s => .read fun db =>
    let x : Sourcing :=
      { shortage := s, sisters := sisterProducts db g.products s.product.2.val }
    if 0 < x.split.1 then
      some (ranking g x (rankSuppliers s.product x.split.1 g.req.today))
    else some (generating (g.add x))
  | ranking g x suppliers => .read fun db =>
    match suppliers with
    | .done ranked => some (generating (g.add { x with best := ranked.head? }))
    | .fail _ => none
    | .read next => some (ranking g x (next db))
  | requesting r => .commit fun db => committed (r.exec db)
  | editing f => .commit fun db => some (edited f db)

/-- The sessions of the plans and of all that runs beside them. -/
def planning : Program Db PlanningLock PlanningSession PlanningWork where
  start
    | .executePlan req => .executing (.begun req)
    | .approvePlan req => .moving req .approve
    | .cancelPlan req => .moving req .cancel
    | .generatePlans req => .begun req
    | .request r => .requesting r
    | .edit f => .editing f
  next := PlanningSession.next

/-- The tables with the open sessions. -/
abbrev PlanningServer := Server Db PlanningLock PlanningSession

/-! ### Where a read or a lock leads -/

/-- What a read, or the lock of `key`, has brought a session to. -/
inductive PlanningAdvance (db : Db) : Option PlanningLock → PlanningSession → PlanningSession → Prop
  | executing {key : Option PlanLock} {t t' : PlanSession} (advance : PlanAdvance db key t t') :
      PlanningAdvance db (key.map .row) (.executing t) (.executing t')
  | replayed {key : Option PlanningLock} {t : PlanningSession} : PlanningAdvance db key t .answered
  | checked {req : MovePlan} {move : PlanMove} {plan : Row ReplenishmentPlan}
      (check : checkMove db req move = .ok (some plan)) :
      PlanningAdvance db (some (.row (.plan req.planId))) (.moving req move)
        (.moveLocked req move plan)
  | products {req : GeneratePlans} {storeId : Option ℕ} :
      PlanningAdvance db none (.begun req)
        (.productsFound req (replenishedProducts db storeId req.productIds))
  | inbound {req : GeneratePlans} {products : List (ℕ × Row Product)} :
      PlanningAdvance db none (.productsFound req products)
        (.inboundFound req products (inboundTransferQuantities db (products.map Prod.fst)))
  | positions {req : GeneratePlans} {products : List (ℕ × Row Product)} {inbound : ℕ → ℚ} :
      PlanningAdvance db none (.inboundFound req products inbound) (.generating {
        req, products
        todo := shortages inbound (openPurchaseOrderQuantities db (products.map Prod.fst)) products })
  | locked {g : Generation} {s : Shortage} {todo : List Shortage} (short : g.todo = s :: todo) :
      PlanningAdvance db (some (.advisory s.key)) (.generating g) (.keyLocked { g with todo } s)
  | active {g : Generation} {s : Shortage} : PlanningAdvance db none (.keyLocked g s) (.generating g)
  | inactive {g : Generation} {s : Shortage} (none_active : activePlans db s.key = []) :
      PlanningAdvance db none (.keyLocked g s) (.sourcing g s)
  /-- The stores cover the shortfall. -/
  | covered {g : Generation} {s : Shortage} {x : Sourcing}
      (found : x = { shortage := s, sisters := sisterProducts db g.products s.product.2.val }) :
      PlanningAdvance db none (.sourcing g s) (.generating (g.add x))
  | uncovered {g : Generation} {s : Shortage} {x : Sourcing}
      {suppliers : Reading Db AppError (List (Row SupplierProduct))}
      (found : x = { shortage := s, sisters := sisterProducts db g.products s.product.2.val }) :
      PlanningAdvance db none (.sourcing g s) (.ranking g x suppliers)
  | ranked {g : Generation} {x : Sourcing} {best : Option (Row SupplierProduct)}
      {suppliers : Reading Db AppError (List (Row SupplierProduct))} :
      PlanningAdvance db none (.ranking g x suppliers) (.generating (g.add { x with best }))
  | ranking {g : Generation} {x : Sourcing}
      {suppliers suppliers' : Reading Db AppError (List (Row SupplierProduct))} :
      PlanningAdvance db none (.ranking g x suppliers) (.ranking g x suppliers')

section Advances

variable {db : Db} {t t' : PlanningSession}

theorem PlanningSession.advance_of_read {f : Db → Option PlanningSession} (hnext : t.next = .read f)
    (h : f db = some t') : PlanningAdvance db none t t' := by
  cases t with
  -- an execution among the sessions takes its own steps
  | executing t =>
    obtain ⟨f₀, hread, rfl⟩ := Action.map_eq_read.mp hnext
    obtain ⟨t₀, ht₀, rfl⟩ := Option.map_eq_some_iff.mp h
    exact .executing (PlanSession.advance_of_read hread ht₀)
  | begun req =>
    cases hnext
    obtain ⟨storeId, -, h⟩ := bind_eq_ok.mp (toOption_eq_some.mp h)
    cases h
    exact .products
  | productsFound req products =>
    cases hnext
    cases h
    exact .inbound
  | inboundFound req products inbound =>
    cases hnext
    cases h
    exact .positions
  -- with work left it asks for a lock, with none it commits
  | generating g =>
    simp only [PlanningSession.next] at hnext
    split at hnext <;> cases hnext
  | keyLocked g s =>
    cases hnext
    dsimp only at h
    -- a plan that is active for the product by now drops the shortage
    split at h
    · next hnone =>
      cases h
      exact .inactive hnone
    · cases h
      exact .active
  | sourcing g s =>
    cases hnext
    dsimp only at h
    split at h
    · cases h
      exact .uncovered rfl
    · cases h
      exact .covered rfl
  | ranking g x suppliers =>
    cases hnext
    cases suppliers with
    | done ranked =>
      cases h
      exact .ranked
    | fail e => cases h
    -- the ranking reads again for its next candidate
    | read next =>
      cases h
      exact .ranking
  | answered | moving | moveLocked | requesting | editing => cases hnext

theorem PlanningSession.advance_of_lock {key : PlanningLock} {f : Db → Option PlanningSession}
    (hnext : t.next = .lock key f) (h : f db = some t') : PlanningAdvance db (some key) t t' := by
  cases t with
  | executing t =>
    obtain ⟨key₀, f₀, hlock, rfl, rfl⟩ := Action.map_eq_lock.mp hnext
    obtain ⟨t₀, ht₀, rfl⟩ := Option.map_eq_some_iff.mp h
    exact .executing (PlanSession.advance_of_lock hlock ht₀)
  | moving req move =>
    cases hnext
    obtain ⟨plan, hcheck, h⟩ := bind_eq_ok.mp (toOption_eq_some.mp h)
    cases plan with
    | some plan =>
      cases h
      exact .checked hcheck
    | none =>
      cases h
      exact .replayed
  | generating g =>
    simp only [PlanningSession.next] at hnext
    split at hnext
    · next s todo hshort =>
      cases hnext
      cases h
      exact .locked hshort
    · cases hnext
  | answered | moveLocked | begun | productsFound | inboundFound | keyLocked | sourcing | ranking
  | requesting | editing => cases hnext

end Advances

/-! ### What a commit has done -/

/-- What a commit of a session has done. -/
inductive PlanningStep (db : Db) : PlanningSession → Db → Prop
  /-- There was nothing to write. -/
  | unchanged {t : PlanningSession} : PlanningStep db t db
  | executed {t : PlanSession} {db' : Db} (step : PlanStep db t db') :
      PlanningStep db (.executing t) db'
  | moved {req : MovePlan} {move : PlanMove} {plan row : Row ReplenishmentPlan}
      (written : row.val = { plan.val with status := move.status }) :
      PlanningStep db (.moveLocked req move plan) ({ db with
        replenishment.plans := db.replenishment.plans.set req.planId row } : Db).commit
  | generated {g : Generation} {rows : List (Row ReplenishmentPlan)} (done : g.todo = [])
      (written : rows.map (·.val) = g.plans) :
      PlanningStep db (.generating g) ({ db with
        replenishment.plans := db.replenishment.plans ++ rows } : Db).commit
  | requested {r : ErpRequest} {d : Db} (run : r.exec db = .ok d) :
      PlanningStep db (.requesting r) d.commit
  | edited {f : Db → Db} : PlanningStep db (.editing f) (edited f db)

/-- **Every commit has done one of the few.** -/
theorem PlanningSession.step {db db' : Db} {t : PlanningSession} {f : Db → Option Db}
    (hnext : t.next = .commit f) (h : f db = some db') : PlanningStep db t db' := by
  cases t with
  | executing t => exact .executed (PlanSession.step (Action.map_eq_commit.mp hnext) h)
  | answered =>
    cases hnext
    cases h
    exact .unchanged
  | moveLocked req move plan =>
    cases hnext
    obtain ⟨d, hd, rfl⟩ := committed_eq_some.mp h
    unfold writeMove at hd
    simp only [bind_eq_ok, flush_eq_ok, pure_eq_ok] at hd
    obtain ⟨row, hrow, rfl⟩ := hd
    exact .moved hrow
  | generating g =>
    simp only [PlanningSession.next] at hnext
    -- while a shortage is left the session asks for its lock, and commits nothing
    split at hnext
    · cases hnext
    · next hdone =>
      cases hnext
      dsimp only at h
      -- no shortage has come through, and nothing is inserted
      split at h
      · cases h
        exact .unchanged
      · obtain ⟨d, hd, rfl⟩ := committed_eq_some.mp h
        unfold insertPlans at hd
        simp only [bind_eq_ok, pure_eq_ok] at hd
        obtain ⟨rows, hrows, rfl⟩ := hd
        have hwritten := map_of_mapM hrows fun plan row hrow => flush_eq_ok.mp hrow
        rw [List.map_id'] at hwritten
        exact .generated hdone hwritten
  | requesting r =>
    cases hnext
    obtain ⟨d, hd, rfl⟩ := committed_eq_some.mp h
    exact .requested hd
  | editing f =>
    cases hnext
    cases h
    exact .edited
  | moving | begun | productsFound | inboundFound | keyLocked | sourcing | ranking => cases hnext

end GroceryErp
