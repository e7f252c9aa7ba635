import GroceryErp.Sales.Approvals
import GroceryErp.System.ReportRuns

/-!
# Approvals over runs

Thresholds, users and permissions change between requests, and what a return says of its approval
stays as it was written.  So every return that is stored is traced to the request that wrote it, and
judged by the tables which that request found.

## Main definitions

* `BackOfficeEvent.serve` — the events of `BackOfficeEvent` on the tables with their audit trail;
  here a return that fails may still have logged something.
* `WrittenBy` — a return is written by a request.

## Main results

* `BackOfficeEvent.serve_returns` — an event leaves the returns as they are, or writes one.
* `returns_approved` — every return of a run is approved, and what the gate rejects changes
  nothing.

## References

`backend/app/modules/sales/service.py`, `_resolve_return_approval`, `create_sale_return`,
`void_sale`; `backend/app/modules/sales/models.py`, `SaleReturn`.
-/

namespace GroceryErp

open Outcome Rows Runs

/-- One event.  Returns and voids go through their sessions. -/
def BackOfficeEvent.serve : BackOfficeEvent → ReturnTables → Result ReturnTables
  | .request (.stock (.createSaleReturn req)), t =>
    .ok ((ReturnRequest.createSaleReturn req).serve t).2
  | .request (.stock (.voidSale req)), t => .ok ((ReturnRequest.voidSale req).serve t).2
  | .request r, t => (fun db => { t with db }) <$> r.exec t.db
  | .elsewhere db, t => .ok { t with db }

/-- The request takes `t` to `t'` and writes the return `r` at `i`, for the amount that the gate was
asked about and with the approval that it asks for. -/
structure WrittenBy (req : ReturnRequest) (t t' : ReturnTables) (i : ℕ) (r : Row SaleReturn) :
    Prop where
  served : req.serve t = (.ok i, t')
  index : i = t.db.sales.returns.length
  row : t'.db.sales.returns = t.db.sales.returns ++ [r]
  amount : r.val.refundAmount ∈ gateAmount t.db (req.asReturn t.db)
  approved : ApprovedReturn t.db r.val

variable {t₀ t t' : ReturnTables}

/-- A request leaves the returns as they are, or writes one. -/
theorem ReturnRequest.serve_returns (req : ReturnRequest) (t : ReturnTables) :
    (req.serve t).2.db.sales.returns = t.db.sales.returns ∨
      ∃ i r, WrittenBy req t (req.serve t).2 i r := by
  rcases req.serve_cases t with ⟨db', i, logs, hcreate, hserve⟩ | ⟨e, t', hserve, hrefused, -⟩
  · rcases createSaleReturn_approved hcreate with hkept | ⟨r, hi, hrow, hamount, happroved⟩
    · rw [hserve]
      exact .inl hkept
    · refine .inr ⟨i, r, ?_⟩
      rw [hserve]
      exact ⟨hserve, hi, hrow, hamount, happroved⟩
  · rw [hserve]
    exact .inl (by rw [hrefused.db])

/-- A sale leaves the returns as they are. -/
theorem finalizeSale_returns {db db' : Db} {req : FinalizeSale} {saleId : ℕ}
    (h : finalizeSale db req = .ok (db', saleId)) : db'.sales.returns = db.sales.returns := by
  rcases finalizeSale_ok h with ⟨-, -, rfl⟩ | ⟨-, cart, changeDue, d, -, hw, hj⟩
  · rfl
  obtain ⟨-, shiftId, sale, items, payments, -, -, -, hd⟩ := writeSale_ok hw
  rw [postJournal_frame hj, hd]

/-- **An event leaves the returns as they are, or writes one.** -/
theorem BackOfficeEvent.serve_returns {e : BackOfficeEvent} (hpermitted : e.Permitted t.db)
    (hdone : e.serve t = .ok t') : t'.db.sales.returns = t.db.sales.returns ∨
      ∃ req i r, WrittenBy req t t' i r := by
  -- requests on returns answer with the tables in either case
  have hserved : ∀ req : ReturnRequest, .ok (req.serve t).2 = (.ok t' : Result ReturnTables) →
      t'.db.sales.returns = t.db.sales.returns ∨ ∃ req i r, WrittenBy req t t' i r := by
    intro req h
    obtain rfl := Except.ok.inj h
    rcases req.serve_returns t with hkept | ⟨i, r, hwritten⟩
    · exact .inl hkept
    · exact .inr ⟨req, i, r, hwritten⟩
  have hother : ∀ {r : TillRequest}, (∀ d, r.run t.db = .ok d →
      d.sales.returns = t.db.sales.returns) →
      (fun db => { t with db }) <$> r.exec t.db = .ok t' →
      t'.db.sales.returns = t.db.sales.returns ∨ ∃ req i r, WrittenBy req t t' i r := by
    -- all other requests write no return
    intro r hkept h
    obtain ⟨d, hexec, rfl⟩ := map_eq_ok.mp h
    obtain ⟨d', hrun, rfl⟩ := map_eq_ok.mp hexec
    exact .inl (hkept d' hrun)
  cases e with
  | request r =>
    cases r with
    | stock s =>
      cases s with
      | createSaleReturn req => exact hserved (.createSaleReturn req) hdone
      | voidSale req => exact hserved (.voidSale req) hdone
      | finalizeSale req =>
        refine hother (fun d hrun => ?_) hdone
        obtain ⟨⟨d', i⟩, hrow, rfl⟩ := map_eq_ok.mp hrun
        exact finalizeSale_returns hrow
      | _ =>
        exact hother (fun d hrun =>
          congrArg _ (TillRequest.sales_kept (fun s hs => by cases hs; exact id) hrun)) hdone
    | openShift _ | recordCashMovement _ | closeShift _ =>
      exact hother (fun d hrun =>
        congrArg _ (TillRequest.sales_kept (fun s hs => by cases hs) hrun)) hdone
  | elsewhere db =>
    obtain rfl := Except.ok.inj hdone
    exact .inl (by rw [hpermitted.1])

/-- **Every return of a run is approved, and what the gate rejects changes nothing.**  A stored
return was written by a request of the run, for the amount that the gate was asked about, and met
the threshold of its store as that request found it.  A request that the gate rejects gets its
error, whatever the reason, and leaves the tables as they are but for the log of the refusal. -/
theorem returns_approved (start : t₀.db.BeforeSales)
    (run : Reaches BackOfficeEvent.serve (fun t e => e.Permitted t.db) t₀ t) :
    (∀ i r, t.db.sales.returns[i]? = some r → ∃ req t₁ t₂,
      Reaches BackOfficeEvent.serve (fun t e => e.Permitted t.db) t₀ t₁ ∧
        WrittenBy req t₁ t₂ i r ∧
        Reaches BackOfficeEvent.serve (fun t e => e.Permitted t.db) t₂ t) ∧
    ∀ (req : ReturnRequest) e, RejectedAtGate t.db (req.asReturn t.db) e →
      (req.serve t).1 = .error e ∧ t.Refused (req.serve t).2 := by
  constructor
  · induction run with
    | start =>
      intro i r hr
      rw [start.returns] at hr
      cases hr
    | next run hpermitted hdone ih =>
      intro i r hr
      rcases BackOfficeEvent.serve_returns hpermitted hdone with hkept | ⟨req, j, r', hwritten⟩
      -- a return from before, whose request came earlier in the run
      · rw [hkept] at hr
        obtain ⟨req, t₁, t₂, hrun, hwritten, hrest⟩ := ih i r hr
        exact ⟨req, t₁, t₂, hrun, hwritten, .next hrest hpermitted hdone⟩
      · rw [hwritten.row] at hr
        rcases getElem?_append_singleton_eq_some.mp hr with hr | ⟨rfl, rfl⟩
        · obtain ⟨req, t₁, t₂, hrun, hwritten, hrest⟩ := ih i r hr
          exact ⟨req, t₁, t₂, hrun, hwritten, .next hrest hpermitted hdone⟩
        -- the return of this event
        · have hi := hwritten.index
          subst hi
          exact ⟨req, _, _, run, hwritten, .start⟩
  · intro req e hrejected
    -- a request that the gate rejects does not also succeed, so the error is the gate's
    rcases req.serve_cases t with ⟨db', i, logs, hcreate, -⟩ | ⟨e', t', hserve, hrefused, he⟩
    · cases hrejected.createSaleReturn.symm.trans hcreate
    · rw [hserve, he e hrejected]
      exact ⟨rfl, hrefused⟩

/-! ### A kilo of cheese, from ten on with approval -/

/-- A user who knows the word. -/
def userOf (username word : String) (salesReturnApprove : Bool) : User where
  username := username
  verifyPassword := (· = word)
  isActive := true
  storeId := some 0
  salesReturnApprove := salesReturnApprove

/-- The cashier is user 0 and the manager user 1. -/
def gatedTill : ReturnTables where
  db := { cheeseTill.db with master := {
    stores := [⟨true, some 10⟩]
    users := [userOf "cashier" "brie" false, userOf "manager" "gouda" true] } }
  auditLogs := []

def gatedSold : ReturnTables :=
  value (BackOfficeEvent.serve (.request (.stock (.finalizeSale (cashSale 2 20)))) gatedTill)
    (by decide +kernel)

/-- The cashier gives a kilo back, with these credentials for the approval. -/
def gatedBack (approverUsername approverPassword : String) : ReturnRequest :=
  .createSaleReturn { kiloBack [1] with
    createdBy := some 0
    approverUsername := some approverUsername
    approverPassword := some approverPassword }

def gatedReturned : ReturnTables := ((gatedBack "manager" "gouda").serve gatedSold).2

/-- The manager has approved the return of the kilo, and with a wrong password there is none. -/
theorem returns_approved_cheese :
    (∃ r, gatedReturned.db.sales.returns[0]? = some r ∧ r.val.refundAmount = 10 ∧
      r.val.approvedBy = some 1 ∧ ∃ req t₁ t₂, WrittenBy req t₁ t₂ 0 r) ∧
    ((gatedBack "manager" "brie").serve gatedSold).1
      = .error (.unauthorized .invalidApproverCredentials) ∧
    gatedSold.Refused ((gatedBack "manager" "brie").serve gatedSold).2 := by
  have hsold : Reaches BackOfficeEvent.serve (fun t e => e.Permitted t.db) gatedTill gatedSold :=
    .next (r := .request (.stock (.finalizeSale (cashSale 2 20)))) .start trivial (eq_ok_value _ _)
  have hreturned :
      Reaches BackOfficeEvent.serve (fun t e => e.Permitted t.db) gatedTill gatedReturned :=
    .next (r := .request (.stock (.createSaleReturn { kiloBack [1] with
      createdBy := some 0
      approverUsername := some "manager"
      approverPassword := some "gouda" }))) hsold trivial rfl
  have hstart : gatedTill.db.BeforeSales := ⟨rfl, rfl, rfl⟩
  have hrow : gatedReturned.db.sales.returns[0]?.map
      (fun r => (r.val.refundAmount, r.val.approvedBy)) = some (10, some 1) := by decide +kernel
  obtain ⟨r, hr, hcolumns⟩ := Option.map_eq_some_iff.mp hrow
  rw [Prod.mk.injEq] at hcolumns
  obtain ⟨req, t₁, t₂, -, hwritten, -⟩ := (returns_approved hstart hreturned).1 0 r hr
  have hrejected : RejectedAtGate gatedSold.db ((gatedBack "manager" "brie").asReturn gatedSold.db)
      (.unauthorized .invalidApproverCredentials) :=
    ⟨by decide +kernel, _, _, eq_ok_value (planReturn gatedSold.db _) (by decide +kernel),
      gatedSold.db.master.stores[0]?.get (by decide +kernel), Option.get_mem _,
      by decide +kernel⟩
  obtain ⟨hanswer, hrefused⟩ := (returns_approved hstart hsold).2 _ _ hrejected
  exact ⟨⟨r, hr, hcolumns.1, hcolumns.2, req, t₁, t₂, hwritten⟩, hanswer, hrefused⟩

end GroceryErp
