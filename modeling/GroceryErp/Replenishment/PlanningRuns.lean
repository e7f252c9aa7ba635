import GroceryErp.Replenishment.ExecutionBounds
import GroceryErp.Replenishment.Planning
import GroceryErp.System.Orders

/-!
# Planning over any run

Two generations that are short of the same product in the same store take the advisory lock in
turn, so the second finds the plans of the first.  Whatever runs beside them settles active
plans, and makes no other plan active.

## Main definitions

* `PlanningSession.Knows` — what a session knows under its locks.
* `PlanningSession.Loaded` — what holds of the plan that it has loaded.
* `Findings` — what may be said of what a generation finds; `measured` is that it is in
  thousandths.
* `PlansWritten` — what a commit does to the plans.

## Main results

* `PlanningStep.plans_written` — a commit writes the plan of its session, or adds plans.
* `PlansWritten.knows` — what a session knows is kept by the others.
* `Findings.advance` — what is said of a generation it goes on to meet.
* `planning_keeps` — the events of a run keep the invariant.

## References

`backend/app/modules/replenishment/service.py`.
-/

namespace GroceryErp

open Decimal Outcome Readings Rows Runs Transactions

/-! ### What a session knows -/

/-- There is no active plan for the product of the store. -/
def NoActivePlan (db : Db) (key : ℕ × ℕ) : Prop :=
  ∀ p ∈ db.replenishment.plans, p.val.destinationStoreId = key.1 → p.val.productId = key.2 →
    ¬p.val.status.IsActive

theorem noActivePlan_of_nil {db : Db} {key : ℕ × ℕ} (h : activePlans db key = []) :
    NoActivePlan db key := by
  intro p hp hstore hproduct hactive
  obtain ⟨i, hi⟩ := List.getElem?_of_mem hp
  have hmem : (i, p) ∈ activePlans db key := mem_rowsWhere.mpr ⟨hi, hstore, hproduct, hactive⟩
  rw [h] at hmem
  exact absurd hmem List.not_mem_nil

namespace PlanningSession

/-- The plan whose row a session has locked, as it was loaded. -/
def plan : PlanningSession → Option (ℕ × Row ReplenishmentPlan)
  | executing t => t.hold.map fun hold => (hold.req.planId, hold.plan)
  | moveLocked req _ plan => some (req.planId, plan)
  | _ => none

/-- The shortages whose keys a generation has locked. -/
def reserved : PlanningSession → List Shortage
  | generating g => g.created.map (·.shortage)
  | keyLocked g s | sourcing g s => g.created.map (·.shortage) ++ [s]
  | ranking g x _ => g.created.map (·.shortage) ++ [x.shortage]
  | _ => []

/-- The shortages for which no active plan was found. -/
def cleared : PlanningSession → List Shortage
  | generating g | keyLocked g _ => g.created.map (·.shortage)
  | sourcing g s => g.created.map (·.shortage) ++ [s]
  | ranking g x _ => g.created.map (·.shortage) ++ [x.shortage]
  | _ => []

/-- What a session knows: the row of its plan as it has loaded it, and that there is still no
active plan for what it generates plans for. -/
structure Knows (held : PlanningLock → Prop) (db : Db) (t : PlanningSession) : Prop where
  plan : ∀ x ∈ t.plan, held (.row (.plan x.1)) ∧ db.replenishment.plans[x.1]? = some x.2
  reserved : ∀ s ∈ t.reserved, held (.advisory s.key)
  cleared : ∀ s ∈ t.cleared, s ∈ t.reserved ∧ NoActivePlan db s.key

/-- What holds of the plan that a session has loaded. -/
def Loaded : PlanningSession → Prop
  | executing t => t.request = none ∧ (∀ hold ∈ t.hold, hold.plan.val.status = .approved) ∧
    ∀ hold shortfall supplierId quantity unitCost,
      t = .decided hold shortfall (.order supplierId quantity unitCost) →
        hold.plan.val.source = .supplier supplierId
  | moveLocked _ move plan => plan.val.status ∈ move.allowed
  | _ => True

end PlanningSession

/-! ### What a commit does to the plans -/

/-- What a commit does to the plans: it adds those of a generation, writes the one that the session
has, or leaves them alone. -/
inductive PlansWritten (t : PlanningSession) (db db' : Db) : Prop
  | kept (same : db'.replenishment.plans = db.replenishment.plans)
  /-- The plan of the session is written; it is for what it was for, and not activated. -/
  | moved {i : ℕ} {plan row : Row ReplenishmentPlan} (mine : (i, plan) ∈ t.plan)
      (old : db.replenishment.plans[i]? = some plan)
      (written : db'.replenishment.plans = db.replenishment.plans.set i row)
      (product : row.val.destinationStoreId = plan.val.destinationStoreId ∧
        row.val.productId = plan.val.productId)
      (settled : row.val.status.IsActive → plan.val.status.IsActive)
  | added {g : Generation} {rows : List (Row ReplenishmentPlan)} (mine : t = .generating g)
      (made : rows.map (·.val) = g.plans)
      (written : db'.replenishment.plans = db.replenishment.plans ++ rows)

section Steps

variable {db d db' : Db} {t u : PlanningSession} {held held' : PlanningLock → Prop}

theorem PlanMove.active_of_allowed {move : PlanMove} {status : PlanStatus}
    (hallowed : status ∈ move.allowed) (h : move.status.IsActive) : status.IsActive := by
  cases move with
  | approve => exact .inl (List.mem_singleton.mp hallowed)
  | cancel => rcases h with h | h <;> cases h

/-- **A commit writes the plan of its session, or adds plans.** -/
theorem PlanningStep.plans_written (h : PlanningStep db t db') (hQ : t.Knows held db)
    (hloaded : t.Loaded) : PlansWritten t db db' := by
  cases h with
  | unchanged => exact .kept rfl
  | @executed t db' step =>
    obtain ⟨hrequest, happroved, -⟩ := hloaded
    -- an execution writes the plan it has locked, and leaves its store and product
    have hwritten : ∀ {hold : PlanHold} {written : ReplenishmentPlan} {d : Db},
        t.hold = some hold → hold.Writes written db d db' →
        written.destinationStoreId = hold.plan.val.destinationStoreId →
        written.productId = hold.plan.val.productId →
        PlansWritten (.executing t) db db' := by
      intro hold written d hhold hw hstore hproduct
      have hmine : (hold.req.planId, hold.plan) ∈ (PlanningSession.executing t).plan := by
        simp [PlanningSession.plan, hhold]
      obtain ⟨-, hold_row⟩ := hQ.plan _ hmine
      obtain ⟨row, hval, hplans⟩ := hw.plans
      refine .moved hmine hold_row hplans ⟨?_, ?_⟩ fun _ => .inr (happroved hold hhold)
      · rw [hval, hstore]
      · rw [hval, hproduct]
    cases step with
    | unchanged same =>
      rcases same with rfl | rfl
      · exact .kept rfl
      · exact .kept rfl
    -- a plan's execution is no request for stock alone
    | stock => cases hrequest
    | stale written => exact hwritten rfl written rfl rfl
    | ordered order written => exact hwritten rfl written rfl rfl
    | transferred transfer written => exact hwritten rfl written rfl rfl
  | @moved req move plan row written =>
    have hmine : (req.planId, plan) ∈ (PlanningSession.moveLocked req move plan).plan := rfl
    obtain ⟨-, hold_row⟩ := hQ.plan _ hmine
    refine .moved hmine hold_row rfl ⟨by rw [written], by rw [written]⟩ ?_
    rw [written]
    exact PlanMove.active_of_allowed hloaded
  | generated done written => exact .added rfl written rfl
  | requested run => exact .kept (congrArg (·.plans) (ErpRequest.replenishment_kept run))
  | edited => exact .kept rfl

/-- A plan of a generation is for a product that it has found short. -/
theorem Generation.key_of_mem {g : Generation} {p : ReplenishmentPlan} (hp : p ∈ g.plans) :
    ∃ x ∈ g.created, (p.destinationStoreId, p.productId) = x.shortage.key := by
  obtain ⟨x, hx, hp⟩ := List.mem_flatMap.mp hp
  refine ⟨x, hx, ?_⟩
  rcases List.mem_append.mp hp with hstore | hsupplier
  · obtain ⟨taken, -, rfl⟩ := List.mem_map.mp hstore
    rfl
  · obtain ⟨best, -, rfl⟩ := Option.map_eq_some_iff.mp (Option.mem_toList.mp hsupplier)
    rfl

/-- A plan is recommended when it is drawn up. -/
theorem Generation.recommended_of_mem {g : Generation} {p : ReplenishmentPlan} (hp : p ∈ g.plans) :
    p.status = .recommended := by
  obtain ⟨x, -, hp⟩ := List.mem_flatMap.mp hp
  rcases List.mem_append.mp hp with hstore | hsupplier
  · obtain ⟨taken, -, rfl⟩ := List.mem_map.mp hstore
    rfl
  · obtain ⟨best, -, rfl⟩ := Option.map_eq_some_iff.mp (Option.mem_toList.mp hsupplier)
    rfl

/-- What is not active stays so, unless a session adds plans for it. -/
theorem PlansWritten.noActivePlan (h : PlansWritten t db db') {key : ℕ × ℕ}
    (hfree : NoActivePlan db key) (hapart : ∀ s ∈ t.reserved, s.key ≠ key) :
    NoActivePlan db' key := by
  cases h with
  | kept same =>
    unfold NoActivePlan
    rwa [same]
  | @moved i plan row mine old written product settled =>
    unfold NoActivePlan
    rw [written]
    refine forall_mem_set hfree ?_
    intro hstore hproduct hactive
    rw [product.1] at hstore
    rw [product.2] at hproduct
    exact hfree plan (mem_of_row old) hstore hproduct (settled hactive)
  | @added g rows mine made written =>
    intro p hp hstore hproduct
    rw [written] at hp
    rcases List.mem_append.mp hp with hold | hnew
    · exact hfree p hold hstore hproduct
    · -- a new plan is for what the generation has reserved
      have hmade : p.val ∈ g.plans := by
        rw [← made]
        exact List.mem_map_of_mem hnew
      obtain ⟨x, hx, hkey⟩ := Generation.key_of_mem hmade
      have hreserved : x.shortage ∈ t.reserved := by
        rw [mine]
        exact List.mem_map_of_mem hx
      refine absurd ?_ (hapart _ hreserved)
      rw [← hkey, hstore, hproduct]

/-- **What a session knows under its locks is kept by the commits of the others.** -/
theorem PlansWritten.knows (h : PlansWritten t db db') (hQ : t.Knows held db)
    (hQ' : u.Knows held' db) (hapart : ∀ key, held' key → ¬held key) : u.Knows held' db' := by
  refine ⟨?_, hQ'.reserved, ?_⟩
  · intro x hx
    obtain ⟨hheld, hrow⟩ := hQ'.plan x hx
    refine ⟨hheld, ?_⟩
    cases h with
    | kept same => rw [same, hrow]
    | @moved i plan row mine old written product settled =>
      have hne : i ≠ x.1 := by
        rintro rfl
        exact hapart _ hheld (hQ.plan _ mine).1
      rw [written, List.getElem?_set_ne hne, hrow]
    | added mine made written =>
      rw [written, List.getElem?_append_left (List.getElem?_eq_some_iff.mp hrow).1, hrow]
  · intro s hs
    obtain ⟨hreserved, hfree⟩ := hQ'.cleared s hs
    refine ⟨hreserved, h.noActivePlan hfree ?_⟩
    intro s' hs' hsame
    exact hapart _ (hQ'.reserved s hreserved) (hsame ▸ hQ.reserved s' hs')

end Steps

/-! ### What reads and locks let a session know -/

section Advances

variable {db : Db} {held : PlanningLock → Prop}

/-- An execution has loaded its plan before, or locks it now. -/
theorem PlanAdvance.plan_cases {key : Option PlanLock} {t t' : PlanSession}
    (h : PlanAdvance db key t t') : ∀ hold ∈ t'.hold,
      (∃ before ∈ t.hold, before.req.planId = hold.req.planId ∧ before.plan = hold.plan) ∨
      (key = some (.plan hold.req.planId) ∧
        db.replenishment.plans[hold.req.planId]? = some hold.plan ∧
        hold.plan.val.status = .approved) := by
  intro hold hhold
  cases h with
  | replayed | missed | stocking => cases hhold
  | checked check =>
    obtain rfl := Option.mem_some_iff.mp hhold
    exact .inr ⟨rfl, checkPlan_ok check⟩
  | located loaded =>
    obtain rfl := Option.mem_some_iff.mp hhold
    obtain ⟨hreq, hplan, -⟩ := loaded
    exact .inl ⟨_, rfl, by rw [hreq], hplan.symm⟩
  | locked | inbound | recovered | measured | decided =>
    obtain rfl := Option.mem_some_iff.mp hhold
    exact .inl ⟨_, rfl, rfl, rfl⟩

theorem PlanAdvance.request_eq_none {key : Option PlanLock} {t t' : PlanSession}
    (h : PlanAdvance db key t t') (hrequest : t.request = none) : t'.request = none := by
  cases h with
  | stocking => cases hrequest
  | replayed | missed | checked | located | locked | inbound | recovered | measured | decided => rfl

theorem checkMove_ok {req : MovePlan} {move : PlanMove} {plan : Row ReplenishmentPlan}
    (h : checkMove db req move = .ok (some plan)) :
    db.replenishment.plans[req.planId]? = some plan ∧ plan.val.status ∈ move.allowed := by
  unfold checkMove at h
  simp only [↓check_bind_eq_ok, bind_eq_ok, orRaise_eq_ok] at h
  obtain ⟨row, hrow, -, h⟩ := h
  split at h
  · cases h
  · simp only [↓check_bind_eq_ok, raiseIf_eq_ok, pure_eq_ok, not_not, Option.some.injEq] at h
    obtain ⟨hallowed, rfl⟩ := h
    exact ⟨hrow, hallowed⟩

namespace PlanningSession.Knows

variable {t t' : PlanningSession}

theorem of_idle (hplan : t.plan = none) (hreserved : t.reserved = []) (hcleared : t.cleared = []) :
    t.Knows held db := by
  refine ⟨?_, ?_, ?_⟩
  · rw [hplan]
    exact forall_mem_none
  · rw [hreserved]
    exact List.forall_mem_nil _
  · rw [hcleared]
    exact List.forall_mem_nil _

/-- A generation that has locked and cleared what it had. -/
theorem of_same {held' : PlanningLock → Prop} (h : t.Knows held db)
    (hheld : ∀ key, held key → held' key) (hplan : t'.plan = none)
    (hreserved : t'.reserved = t.reserved) (hcleared : t'.cleared = t.cleared) :
    t'.Knows held' db := by
  refine ⟨?_, ?_, ?_⟩
  · rw [hplan]
    exact forall_mem_none
  · rw [hreserved]
    exact fun s hs => hheld _ (h.reserved s hs)
  · rw [hcleared, hreserved]
    exact h.cleared

end PlanningSession.Knows

section Session

variable {t t' : PlanningSession} {key : Option PlanningLock}

/-- **Reads and locks let a session know what it has come to.** -/
theorem PlanningAdvance.knows (h : PlanningAdvance db key t t') (hQ : t.Knows held db) :
    t'.Knows (fun i => some i = key ∨ held i) db := by
  have hheld : ∀ i, held i → some i = key ∨ held i := fun i => .inr
  cases h with
  | @executing key t t' advance =>
    refine ⟨?_, List.forall_mem_nil _, List.forall_mem_nil _⟩
    intro x hx
    obtain ⟨hold, hhold, rfl⟩ := Option.map_eq_some_iff.mp hx
    -- the plan was known before, or is read now under the lock just taken
    rcases advance.plan_cases hold hhold with ⟨before, hbefore, hid, hplan⟩ | ⟨rfl, hrow, -⟩
    · have hmem : (before.req.planId, before.plan) ∈ (PlanningSession.executing t).plan :=
        Option.map_eq_some_iff.mpr ⟨before, hbefore, rfl⟩
      rw [← hid, ← hplan]
      obtain ⟨hlocked, hrow⟩ := hQ.plan _ hmem
      exact ⟨.inr hlocked, hrow⟩
    · exact ⟨.inl rfl, hrow⟩
  | replayed | products | inbound | positions => exact .of_idle rfl rfl rfl
  | @checked req move plan check =>
    refine ⟨?_, List.forall_mem_nil _, List.forall_mem_nil _⟩
    intro x hx
    obtain rfl := Option.mem_some_iff.mp hx
    exact ⟨.inl rfl, (checkMove_ok check).1⟩
  -- the key of the shortage is locked; whether a plan is active is not known yet
  | @locked g s todo short =>
    refine ⟨forall_mem_none, ?_, ?_⟩
    · intro s' hs'
      rcases List.mem_append.mp hs' with hbefore | hnew
      · exact .inr (hQ.reserved s' hbefore)
      · rw [List.mem_singleton.mp hnew]
        exact .inl rfl
    · intro s' hs'
      obtain ⟨hreserved, hfree⟩ := hQ.cleared s' hs'
      exact ⟨List.mem_append_left _ hreserved, hfree⟩
  | @active g s =>
    refine ⟨forall_mem_none, ?_, ?_⟩
    · intro s' hs'
      exact .inr (hQ.reserved s' (List.mem_append_left _ hs'))
    · intro s' hs'
      exact ⟨hs', (hQ.cleared s' hs').2⟩
  -- read under that lock, so it stays so until the session commits
  | @inactive g s none_active =>
    refine ⟨forall_mem_none, fun s' hs' => .inr (hQ.reserved s' hs'), ?_⟩
    intro s' hs'
    refine ⟨hs', ?_⟩
    rcases List.mem_append.mp hs' with hbefore | hnew
    · exact (hQ.cleared s' hbefore).2
    · rw [List.mem_singleton.mp hnew]
      exact noActivePlan_of_nil none_active
  | covered found =>
    obtain rfl := found
    refine hQ.of_same hheld rfl ?_ ?_
    · exact List.map_append
    · exact List.map_append
  | uncovered found =>
    obtain rfl := found
    exact hQ.of_same hheld rfl rfl rfl
  | ranked =>
    refine hQ.of_same hheld rfl ?_ ?_
    · exact List.map_append
    · exact List.map_append
  | ranking => exact hQ.of_same hheld rfl rfl rfl

/-- Reads and locks load plans that can be executed, or moved. -/
theorem PlanningAdvance.loaded (h : PlanningAdvance db key t t') (hloaded : t.Loaded) :
    t'.Loaded := by
  cases h with
  | @executing key t t' advance =>
    obtain ⟨hrequest, happroved, -⟩ := hloaded
    refine ⟨advance.request_eq_none hrequest, ?_, ?_⟩
    · intro hold hhold
      rcases advance.plan_cases hold hhold with ⟨before, hbefore, -, hplan⟩ | ⟨-, -, hstatus⟩
      · exact hplan ▸ happroved before hbefore
      · exact hstatus
    · rintro hold shortfall supplierId quantity unitCost rfl
      cases advance with
      | decided decision => exact (hold.decide_eq_order decision).1
  | checked check => exact (checkMove_ok check).2
  | replayed | products | inbound | positions | locked | active | inactive | covered | uncovered
  | ranked | ranking => trivial

end Session

end Advances

/-! ### What a generation finds -/

/-- What is said of the products that a generation loads, of what is on its way of them, of what
it finds short, and of the sister products of a shortage. -/
structure Findings where
  products : List (ℕ × Row Product) → Prop
  inbound : List (ℕ × Row Product) → (ℕ → ℚ) → Prop
  shortages : List Shortage → Prop
  sister : Shortage → Row Product → Prop

namespace Findings

variable (F : Findings)

/-- It holds of a generation that has yet to look at `rest`. -/
structure OfGeneration (g : Generation) (rest : List Shortage) : Prop where
  products : F.products g.products
  shortages : F.shortages (g.created.map (·.shortage) ++ rest)
  sisters : ∀ x ∈ g.created, ∀ sister ∈ x.sisters, F.sister x.shortage sister

/-- It holds of a session as far as the session has come. -/
def Of : PlanningSession → Prop
  | .productsFound _ products => F.products products
  | .inboundFound _ products inbound => F.products products ∧ F.inbound products inbound
  | .generating g => F.OfGeneration g g.todo
  | .keyLocked g s | .sourcing g s => F.OfGeneration g (s :: g.todo)
  | .ranking g x _ => F.OfGeneration g (x.shortage :: g.todo) ∧
    ∀ sister ∈ x.sisters, F.sister x.shortage sister
  | _ => True

/-- It holds of what is read in `db`. -/
structure ReadIn (db : Db) : Prop where
  products : ∀ storeId productIds, F.products (replenishedProducts db storeId productIds)
  inbound : ∀ products, F.products products →
    F.inbound products (inboundTransferQuantities db (products.map Prod.fst))
  shortages : ∀ products inbound, F.products products → F.inbound products inbound →
    F.shortages (GroceryErp.shortages inbound
      (openPurchaseOrderQuantities db (products.map Prod.fst)) products)
  sister : ∀ products (s : Shortage), F.products products →
    ∀ sister ∈ sisterProducts db products s.product.2.val, F.sister s sister
  /-- What is passed over need not be said of. -/
  sublist : ∀ l l' : List Shortage, l.Sublist l' → F.shortages l' → F.shortages l

/-- Whatever the one says of is as the other says. -/
structure Implies (F F' : Findings) : Prop where
  products : ∀ products, F.products products → F'.products products
  inbound : ∀ products inbound, F.inbound products inbound → F'.inbound products inbound
  shortages : ∀ l, F.shortages l → F'.shortages l
  sister : ∀ s sister, F.sister s sister → F'.sister s sister

variable {F} {F' : Findings} {g : Generation} {db : Db}

theorem of_mono (himplies : F.Implies F') {t : PlanningSession} (h : F.Of t) : F'.Of t := by
  have hgeneration : ∀ {g : Generation} {rest : List Shortage}, F.OfGeneration g rest →
      F'.OfGeneration g rest := fun hg =>
    ⟨himplies.products _ hg.products, himplies.shortages _ hg.shortages,
      fun x hx sister hsister => himplies.sister _ _ (hg.sisters x hx sister hsister)⟩
  cases t with
  | productsFound => exact himplies.products _ h
  | inboundFound => exact ⟨himplies.products _ h.1, himplies.inbound _ _ h.2⟩
  | generating | keyLocked | sourcing => exact hgeneration h
  | ranking =>
    exact ⟨hgeneration h.1, fun sister hsister => himplies.sister _ _ (h.2 sister hsister)⟩
  | executing | answered | moving | moveLocked | begun | requesting | editing => trivial

/-- Sources have been found for a product. -/
theorem OfGeneration.add {x : Sourcing} {rest : List Shortage}
    (h : F.OfGeneration g (x.shortage :: rest))
    (hsisters : ∀ sister ∈ x.sisters, F.sister x.shortage sister) :
    F.OfGeneration (g.add x) rest := by
  refine ⟨h.products, ?_, ?_⟩
  · have hsame : (g.add x).created.map (·.shortage) ++ rest
        = g.created.map (·.shortage) ++ x.shortage :: rest := by simp [Generation.add]
    rw [hsame]
    exact h.shortages
  · intro y hy
    rcases List.mem_append.mp hy with hbefore | hnew
    · exact h.sisters y hbefore
    · rw [List.mem_singleton.mp hnew]
      exact hsisters

/-- **What is said of a generation it goes on to meet.** -/
theorem advance {t t' : PlanningSession} {key : Option PlanningLock}
    (h : PlanningAdvance db key t t') (hread : F.ReadIn db) (hF : F.Of t) : F.Of t' := by
  cases h with
  | executing | replayed | checked => trivial
  | products => exact hread.products _ _
  | inbound => exact ⟨hF, hread.inbound _ hF⟩
  | positions => exact ⟨hF.1, hread.shortages _ _ hF.1 hF.2, List.forall_mem_nil _⟩
  | @locked g s todo short =>
    have hg : F.OfGeneration g (s :: todo) := short ▸ hF
    exact ⟨hg.products, hg.shortages, hg.sisters⟩
  | active =>
    exact ⟨hF.products, hread.sublist _ _ ((List.sublist_cons_self _ _).append_left _) hF.shortages,
      hF.sisters⟩
  | inactive => exact hF
  | @covered g s x found =>
    obtain rfl := found
    exact OfGeneration.add hF (hread.sister _ _ hF.products)
  | @uncovered g s x suppliers found =>
    obtain rfl := found
    exact ⟨hF, hread.sister _ _ hF.products⟩
  | ranked => exact OfGeneration.add hF.1 hF.2
  | ranking => exact hF

end Findings

section Measured

variable {db : Db}

/-- Quantities are in thousandths, no product is loaded or found short twice, and what is short
is short of something. -/
def measured : Findings where
  products products := (∀ x ∈ products, OnGrid 3 x.2.val.currentQtyOnHand) ∧
    (products.map Prod.fst).Nodup
  inbound products inbound := ∀ x ∈ products, OnGrid 3 (inbound x.1)
  shortages l := (∀ s ∈ l, 0 < s.shortfall ∧ OnGrid 3 s.shortfall) ∧ (l.map (·.product.1)).Nodup
  sister _ sister := OnGrid 3 sister.val.surplus

/-- **What a generation reads of stored tables is in thousandths.** -/
theorem measured_read (hdb : db.commit = db) : measured.ReadIn db where
  products storeId productIds := by
    refine ⟨?_, ?_⟩
    · intro x hx
      exact onGrid_products hdb x.2 (mem_of_row (mem_replenishedProducts hx))
    · exact (nodup_fst_rowsWhere _ _).sublist (List.filter_sublist.map _)
  inbound products _ x hx := onGrid_inbound hdb (List.mem_map_of_mem hx)
  shortages products inbound hproducts hinbound := by
    refine ⟨?_, ?_⟩
    · intro s hs
      obtain ⟨x, hx, hshort⟩ := List.mem_filterMap.mp hs
      obtain ⟨-, hformula, hpos⟩ := shortageOf_eq_some hshort
      refine ⟨hpos, ?_⟩
      rw [hformula]
      exact onGrid_currentShortfall (hproducts.1 x hx) (hinbound x hx)
        (onGrid_openPo hdb (List.mem_map_of_mem hx))
    · have hsub := (shortages_sublist inbound
        (openPurchaseOrderQuantities db (products.map Prod.fst)) products).map Prod.fst
      rw [List.map_map] at hsub
      exact hproducts.2.sublist hsub
  sister products s hproducts sister hsister := by
    refine OnGrid.sub ?_ (onGrid_reorderPoint sister)
    obtain ⟨i, fresh, hfresh, -, hloaded | rfl⟩ := mem_sisterProducts hsister
    · exact hproducts.1 _ hloaded
    · exact onGrid_products hdb sister (mem_of_row hfresh)
  sublist l l' hsub h := ⟨fun s hs => h.1 s (hsub.subset hs), h.2.sublist (hsub.map _)⟩

end Measured

/-! ### Runs -/

/-- A run of plans and of what runs beside them. -/
abbrev PlanningRun (start sv : PlanningServer) : Prop :=
  Reaches planning.exec (fun _ _ => True) start sv

/-- What a session knows under its locks, and what holds of what it has loaded. -/
structure PlanningSession.Informed (held : PlanningLock → Prop) (db : Db) (t : PlanningSession) :
    Prop where
  knows : t.Knows held db
  loaded : t.Loaded
  measured : GroceryErp.measured.Of t

/-- A commit leaves the tables as their columns keep them. -/
theorem PlanningStep.stored {db db' : Db} {t : PlanningSession} (h : PlanningStep db t db')
    (hdb : db.commit = db) : db'.commit = db' := by
  cases h with
  | unchanged => exact hdb
  | executed step =>
    cases step with
    | unchanged same =>
      rcases same with rfl | rfl
      · exact hdb
      · exact commit_commit db
    | stock => exact commit_commit _
    | stale written | ordered order written | transferred transfer written =>
      obtain ⟨row, -, rfl⟩ := written
      exact commit_commit _
  | moved | generated | requested | edited => exact commit_commit _

/-- **The events of a run keep what the sessions know, and any invariant of the tables that the
commits keep.** -/
theorem planning_keeps {ok : PlanningServer → Event PlanningWork → Prop} {I : Db → Prop}
    (hstored : ∀ db, I db → db.commit = db)
    (hcommit : ∀ sv k t db', sv.Inv I PlanningSession.Informed → ok sv (.step k) →
      sv.sessions k = some t → PlanningStep sv.tables t db' → I db') :
    planning.Keeps ok I PlanningSession.Informed where
  start sv k work _ _ := by
    cases work with
    | executePlan req =>
      refine ⟨.of_idle rfl rfl rfl, ⟨rfl, forall_mem_none, ?_⟩, trivial⟩
      rintro _ _ _ _ _ ⟨⟩
    | approvePlan | cancelPlan | generatePlans | request | edit =>
      exact ⟨.of_idle rfl rfl rfl, trivial, trivial⟩
  read held db t t' f hI hQ hnext h := by
    have hadvance := PlanningSession.advance_of_read hnext h
    have hknows := hadvance.knows hQ.knows
    simp only [reduceCtorEq, false_or] at hknows
    exact ⟨hknows, hadvance.loaded hQ.loaded,
      Findings.advance hadvance (measured_read (hstored db hI)) hQ.measured⟩
  lock held db t t' key f hI hQ hnext h := by
    have hadvance := PlanningSession.advance_of_lock hnext h
    have hknows := hadvance.knows hQ.knows
    simp only [Option.some.injEq] at hknows
    exact ⟨hknows, hadvance.loaded hQ.loaded,
      Findings.advance hadvance (measured_read (hstored db hI)) hQ.measured⟩
  commit sv k t f s hinv hok hopen hnext h :=
    hcommit sv k t s hinv hok hopen (PlanningSession.step hnext h)
  stable sv k t f s j u hinv _ hopen hnext h hjk hj := by
    have hQ := hinv.sessions k t hopen
    have hQ' := hinv.sessions j u hj
    refine ⟨?_, hQ'.loaded, hQ'.measured⟩
    refine ((PlanningSession.step hnext h).plans_written hQ.knows hQ.loaded).knows hQ.knows
      hQ'.knows ?_
    -- one lock is held by one session
    intro key hheld hheld'
    exact hjk (Option.some.inj (hheld.symm.trans hheld'))

end GroceryErp
