import GroceryErp.Lib.Sessions
import GroceryErp.Sales.ReturnRows

/-!
# Approval in the course of a request

The approval gate stands between the checks of a return and its first write.  A refused approval is
logged, and the log is committed before the error goes out; so what else the request has written by
then would be committed with it.  After the gate the posting loop works every refund out again, from
the items as the session has them by then, and only the amount it arrives at is stored.

## Main definitions

* `ReturnTables` — the tables with the audit trail of returns.
* `approvalSession` — the gate, with what it logs and commits.
* `postReturnLine`, `recordReturn` — the posting loop and the rows around it.
* `returnSession`, `voidSession` — the service functions.
* `ReturnRequest.serve` — the endpoints.
* `MayApproveReturn`, `ApprovedReturn` — what the gate asks for.

## Main results

* `postReturnLines_eq` — the loop arrives at the amount that the gate has tested.
* `recordReturn_ok` — it writes the rows of `writeReturn`.
* `ends_approvalSession` — the gate decides as `resolveReturnApproval` does.
* `ReturnRequest.serve_cases` — what a request answers and leaves committed.
* `createSaleReturn_approved` — a return that is written is approved.

## References

`backend/app/modules/sales/service.py`, `_resolve_return_approval`, `create_sale_return`,
`void_sale`; `docs/M14_DESIGN.md`.
-/

namespace GroceryErp

open Decimal Outcome Rows Sessions

/-! ### The audit trail -/

/-- The `reason` of an approval that has failed, as the audit log keeps it. -/
inductive ApprovalFailure
  | invalidCredentials
  | selfApprovalNotAllowed
  | approvalPermissionDenied
  | approvalStoreAccessDenied (approverStoreId : Option ℕ)
  deriving DecidableEq

/-- The events that a return logs: an approval that failed or was granted, and the return itself. -/
inductive ReturnEvent
  | approvalFailed (userId : Option ℕ) (storeId : ℕ) (reason : ApprovalFailure)
      (refundAmount threshold : ℚ)
  | approvalGranted (userId storeId : ℕ) (initiatingUserId : Option ℕ)
      (refundAmount threshold : ℚ)
  | initiated (userId : Option ℕ) (saleReturnId saleId lineCount : ℕ)
      (clientTransactionId : String)
  | completed (isVoid : Bool) (userId : Option ℕ) (saleReturnId saleId : ℕ) (refundAmount : ℚ)
      (refundMethod : PaymentMethod) (resultingSaleStatus : SaleStatus)
  deriving DecidableEq

structure ReturnTables where
  db : Db
  auditLogs : List ReturnEvent

/-- A request on the tables of sales and on the audit log. -/
abbrev ReturnSession (α : Type) : Type := Session ReturnTables AppError α

/-- `log_event`: one more row of the audit log, in the transaction of the request. -/
def logEvent (event : ReturnEvent) : ReturnSession Unit :=
  Session.write fun t => .ok ({ t with auditLogs := t.auditLogs ++ [event] }, ())

/-! ### The gate -/

/-- The failure is logged and committed, and then the error goes out. -/
def refuseApproval {α : Type} (event : ReturnEvent) (e : AppError) : ReturnSession α := do
  logEvent event
  Session.commit
  Session.raise e

/-- `_resolve_return_approval`: a refund below the store's threshold needs nobody; any other needs
the credentials of someone who may approve. A refusal is logged and committed before the error goes
out. -/
def approvalSession (storeId : ℕ) (store : Store) (refundAmount : ℚ) (req : CreateSaleReturn) :
    ReturnSession (Bool × Option ℕ) :=
  match store.returnApprovalThresholdAmount with
  | none => return (false, none)
  | some threshold =>
    if refundAmount < threshold then return (false, none) else
      let username := req.approverUsername.getD ""
      let password := req.approverPassword.getD ""
      if username = "" ∨ password = "" then Session.raise (.forbidden .approvalRequired) else do
        match ← Session.read fun t => verifyUserCredentials t.db username password with
        | none =>
          refuseApproval (.approvalFailed none storeId .invalidCredentials refundAmount threshold)
            (.unauthorized .invalidApproverCredentials)
        | some (approverId, approver) =>
          if some approverId = req.createdBy then
            refuseApproval
              (.approvalFailed approverId storeId .selfApprovalNotAllowed refundAmount threshold)
              (.forbidden .selfApprovalNotAllowed)
          else if ¬approver.salesReturnApprove then
            refuseApproval
              (.approvalFailed approverId storeId .approvalPermissionDenied refundAmount threshold)
              (.forbidden .approvalPermissionDenied)
          else
            match enforceStoreAccess approver.storeId storeId with
            | .error e =>
              refuseApproval (.approvalFailed approverId storeId
                (.approvalStoreAccessDenied approver.storeId) refundAmount threshold) e
            | .ok () => do
              logEvent
                (.approvalGranted approverId storeId req.createdBy refundAmount threshold)
              return (true, some approverId)

/-! ### The posting loop -/

/-- What the loop has at hand: the tables, `quantity_returned` of the items as the session has it,
the refund so far and the values for the journal. -/
structure ReturnPosting where
  db : Db
  returned : ℕ → ℚ
  totalRefundAmount : ℚ := 0
  returnEffects : List SaleReturnLineEffect := []

/-- One round of the posting loop.  The refund is worked out again. -/
def postReturnLine (storeId saleReturnId : ℕ) (p : ReturnPosting) (l : ReturnLine) :
    Result ReturnPosting := do
  let alreadyReturned := p.returned l.saleItemId
  let refund := computeLineRefund { l.item.val with quantityReturned := alreadyReturned } l.quantity
  let row ← flush { l.row saleReturnId with
    discountRefunded := numeric 2 refund.discountRefunded
    taxRefunded := numeric 2 refund.taxRefunded }
  let db ← restockLine storeId saleReturnId p.db l
  let item ← flush
    { l.item.val with quantityReturned := numeric 3 (alreadyReturned + l.quantity) }
  return {
    db := { db with
      sales.returnItems := db.sales.returnItems ++ [row]
      sales.items := db.sales.items.set l.saleItemId item }
    returned := Function.update p.returned l.saleItemId (alreadyReturned + l.quantity)
    totalRefundAmount := p.totalRefundAmount + refund.amount
    returnEffects := p.returnEffects ++ [{ l.effect with
      refundPrice := refund.refundPrice
      discountRefunded := refund.discountRefunded
      taxRefunded := refund.taxRefunded }] }

/-- `quantity_returned` of the items as they are loaded. -/
def loadedReturned (db : Db) (i : ℕ) : ℚ :=
  (db.sales.items[i]?.map fun item => item.val.quantityReturned).getD 0

/-- The status of the sale, from its items as the session has them. -/
def statusAfter (db : Db) (saleId : ℕ) (returned : ℕ → ℚ) (status : SaleStatus) : SaleStatus :=
  let allItems := rowsWhere (·.val.saleId = saleId) db.sales.items
  if allItems ≠ [] ∧ ∀ i ∈ allItems, i.2.val.quantity ≤ returned i.1 then .refunded
  else if ∃ i ∈ allItems, 0 < returned i.1 then .partiallyRefunded
  else status

/-- What `create_sale_return` does once it is past the gate.  The header is written first, and its
amount when the loop is done. -/
def recordReturn (isVoid : Bool) (req : CreateSaleReturn) (sale : Row Sale)
    (lines : List ReturnLine) (approval : Bool × Option ℕ) (t : ReturnTables) :
    Result (ReturnTables × ℕ) := do
  let shiftId ← processingShift t.db req.createdBy
  let saleReturnId := t.db.sales.returns.length
  let _header ← flush (returnRow req 0 approval shiftId)
  let p ← lines.foldlM (postReturnLine req.storeId saleReturnId)
    { db := t.db, returned := loadedReturned t.db }
  let saleReturn ← flush (returnRow req p.totalRefundAmount approval shiftId)
  let status := statusAfter t.db req.saleId p.returned sale.val.status
  let saleAfter ← flush { sale.val with status }
  let db := { p.db with
    sales.returns := p.db.sales.returns ++ [saleReturn]
    sales.sales := p.db.sales.sales.set req.saleId saleAfter }
  let db ← postSaleReturnJournal db req saleReturnId p.returnEffects
  return ({
    db
    auditLogs := t.auditLogs ++
      [.initiated req.createdBy saleReturnId req.saleId req.lines.length req.clientTransactionId,
        .completed isVoid req.createdBy saleReturnId req.saleId p.totalRefundAmount
          req.refundMethod status] }, saleReturnId)

/-! ### The requests -/

/-- `create_sale_return`, as a session whose commits stay: the approval is resolved between the
checks and the writing. -/
def returnSession (isVoid : Bool) (req : CreateSaleReturn) : ReturnSession ℕ := do
  match ← Session.read fun t => matchOrRejectIdempotentReturn t.db req with
  | some returnId => return returnId
  | none => do
    let (sale, lines) ← Session.read fun t => planReturn t.db req
    let store ← Session.read fun t => orRaise t.db.master.stores[req.storeId]? .notFound
    let approval ← approvalSession req.storeId store (totalRefund lines) req
    Session.write (recordReturn isVoid req sale lines approval)

/-- `void_sale`: what remains of every item is returned under the same approval as any return. -/
def voidSession (req : VoidSale) : ReturnSession ℕ := do
  let sale ← Session.read fun t => orRaise t.db.sales.sales[req.saleId]? .notFound
  Session.read fun _ => enforceStoreAccess req.callerStoreId sale.val.storeId
  let lines ← Session.read fun t => .ok (remainingLines t.db req.saleId)
  Session.read fun _ => raiseIf (lines = []) (.conflict .nothingToVoid)
  let asReturn ← Session.read fun t => .ok (req.asReturn t.db)
  returnSession true { asReturn with lines }

/-- A request to one of the two endpoints, a return or a void. -/
inductive ReturnRequest
  | createSaleReturn (req : CreateSaleReturn)
  | voidSale (req : VoidSale)

namespace ReturnRequest

/-- The return that is asked for, which for a void is one of all that remains. -/
def asReturn (db : Db) : ReturnRequest → CreateSaleReturn
  | createSaleReturn req => req
  | voidSale req => req.asReturn db

/-- The call of the service that the endpoint makes for a request. -/
def session : ReturnRequest → ReturnSession ℕ
  | createSaleReturn req => returnSession false req
  | voidSale req => voidSession req

/-- The endpoint commits what the service has done; the columns round it. -/
def endpoint (r : ReturnRequest) : ReturnSession ℕ := do
  let saleReturnId ← r.session
  Session.write fun t => .ok ({ t with db := t.db.commit }, ())
  Session.commit
  return saleReturnId

/-- The answer, and the tables after it. -/
def serve (r : ReturnRequest) (t : ReturnTables) : Result ℕ × ReturnTables := r.endpoint.serve t

end ReturnRequest

/-! ### The loop arrives at the amount tested -/

section Posting

variable {storeId saleReturnId : ℕ} {db : Db} {p : ReturnPosting}

/-- What the loop has at hand after these lines, over the tables that they lead to. -/
def ReturnPosting.after (p : ReturnPosting) (lines : List ReturnLine) (db : Db) :
    ReturnPosting where
  db := db
  returned i := p.returned i + sumWhere (·.saleItemId = i) (·.quantity) lines
  totalRefundAmount := p.totalRefundAmount + totalRefund lines
  returnEffects := p.returnEffects ++ lines.map ReturnLine.effect

@[simp] theorem ReturnPosting.after_nil (p : ReturnPosting) : p.after [] p.db = p := by
  simp [after, totalRefund]

theorem ReturnPosting.after_after (p : ReturnPosting) (l : ReturnLine) (lines : List ReturnLine)
    (d : Db) : (p.after [l] d).after lines = p.after (l :: lines) := by
  funext d'
  simp [after, totalRefund, sumWhere_cons, add_assoc]

/-- A round of the loop refunds what was planned, if the item is as it was loaded. -/
theorem postReturnLine_eq {l : ReturnLine}
    (h : p.returned l.saleItemId = l.item.val.quantityReturned) :
    postReturnLine storeId saleReturnId p l
      = p.after [l] <$> addReturnLine storeId saleReturnId p.db l := by
  have hreturned : ∀ q, Function.update p.returned l.saleItemId (l.item.val.quantityReturned + q)
      = fun i => p.returned i + if l.saleItemId = i then q else 0 := by
    intro q
    funext i
    rcases eq_or_ne l.saleItemId i with rfl | hne
    · simp [h]
    · simp [hne, hne.symm]
  unfold postReturnLine addReturnLine
  simp only [h, hreturned, map_bind, map_pure, ReturnPosting.after, sumWhere_cons, sumWhere_nil,
    add_zero, totalRefund, List.map_cons, List.map_nil, List.sum_cons, List.sum_nil]
  rfl

/-- **The loop arrives at the amount tested**, and writes what was planned: no item is in two lines,
so every round finds its item as it was loaded. -/
theorem postReturnLines_eq {lines : List ReturnLine} (hnodup : (lines.map (·.saleItemId)).Nodup)
    (h : ∀ l ∈ lines, p.returned l.saleItemId = l.item.val.quantityReturned) :
    lines.foldlM (postReturnLine storeId saleReturnId) p
      = p.after lines <$> lines.foldlM (addReturnLine storeId saleReturnId) p.db := by
  induction lines generalizing p with
  | nil => simp
  | cons l lines ih =>
    rw [List.map_cons, List.nodup_cons] at hnodup
    rw [List.forall_mem_cons] at h
    have hrest : ∀ d, ∀ k ∈ lines,
        (p.after [l] d).returned k.saleItemId = k.item.val.quantityReturned := by
      intro d k hk
      have hne : l.saleItemId ≠ k.saleItemId := fun heq =>
        hnodup.1 (heq ▸ List.mem_map_of_mem hk)
      simp [ReturnPosting.after, sumWhere_cons, hne, h.2 k hk]
    rw [List.foldlM_cons, List.foldlM_cons, postReturnLine_eq h.1, bind_map_left, map_bind]
    refine bind_congr fun d => ?_
    rw [ih hnodup.2 (hrest d), ReturnPosting.after_after]
    rfl

/-- The status follows from the quantities planned. -/
theorem statusAfter_eq (saleId : ℕ) (lines : List ReturnLine) (status : SaleStatus) :
    statusAfter db saleId
        (fun i => loadedReturned db i + sumWhere (·.saleItemId = i) (·.quantity) lines) status
      = advanceSaleStatus db saleId lines status := by
  have hsame : ∀ i ∈ rowsWhere (·.val.saleId = saleId) db.sales.items,
      loadedReturned db i.1 + sumWhere (·.saleItemId = i.1) (·.quantity) lines
        = returnedInSession lines i := by
    intro i hi
    rw [loadedReturned, (mem_rowsWhere.mp hi).1]
    rfl
  have hall : (∀ i ∈ rowsWhere (·.val.saleId = saleId) db.sales.items, i.2.val.quantity
      ≤ loadedReturned db i.1 + sumWhere (·.saleItemId = i.1) (·.quantity) lines) ↔
      ∀ i ∈ rowsWhere (·.val.saleId = saleId) db.sales.items,
        i.2.val.quantity ≤ returnedInSession lines i :=
    forall₂_congr fun i hi => by rw [hsame i hi]
  have hany : (∃ i ∈ rowsWhere (·.val.saleId = saleId) db.sales.items,
      0 < loadedReturned db i.1 + sumWhere (·.saleItemId = i.1) (·.quantity) lines) ↔
      ∃ i ∈ rowsWhere (·.val.saleId = saleId) db.sales.items, 0 < returnedInSession lines i :=
    exists_congr fun i => and_congr_right fun hi => by rw [hsame i hi]
  unfold statusAfter advanceSaleStatus
  simp only [hall, hany]

/-- **What comes after the gate** writes the rows of `writeReturn` and their entry. -/
theorem recordReturn_ok {isVoid : Bool} {req : CreateSaleReturn} {sale : Row Sale}
    {lines : List ReturnLine} {approval : Bool × Option ℕ} {t t' : ReturnTables}
    (hnodup : (lines.map (·.saleItemId)).Nodup)
    (hloaded : ∀ l ∈ lines, t.db.sales.items[l.saleItemId]? = some l.item)
    (h : recordReturn isVoid req sale lines approval t = .ok (t', saleReturnId)) :
    ∃ d, writeReturn t.db req sale lines approval = .ok (d, saleReturnId) ∧
      postSaleReturnJournal d req saleReturnId (lines.map ReturnLine.effect) = .ok t'.db := by
  have hreturned : ∀ l ∈ lines, loadedReturned t.db l.saleItemId = l.item.val.quantityReturned := by
    intro l hl
    rw [loadedReturned, hloaded l hl]
    rfl
  unfold recordReturn at h
  simp only [bind_eq_ok, flush_eq_ok, pure_eq_ok, Prod.mk.injEq] at h
  obtain ⟨shiftId, hshift, -, -, p, hp, saleReturn, hreturn, saleAfter, hafter, db, hpost, rfl,
    rfl⟩ := h
  rw [postReturnLines_eq hnodup hreturned, map_eq_ok] at hp
  obtain ⟨d, hd, rfl⟩ := hp
  simp only [ReturnPosting.after, zero_add, List.nil_append, statusAfter_eq] at hreturn hafter hpost
  refine ⟨_, ?_, hpost⟩
  unfold writeReturn
  simp only [bind_eq_ok, flush_eq_ok, pure_eq_ok, Prod.mk.injEq]
  exact ⟨shiftId, hshift, saleReturn, hreturn, saleAfter, hafter, d, hd, rfl, trivial⟩

end Posting

/-! ### What a request leaves committed -/

section Serving

variable {t : ReturnTables} {storeId : ℕ} {store : Store} {refundAmount : ℚ}
  {req : CreateSaleReturn}

/-- Nothing has changed but that a refused approval may have been logged. -/
def ReturnTables.Refused (t t' : ReturnTables) : Prop :=
  t' = t ∨ ∃ userId storeId reason refundAmount threshold, t' = { t with
    auditLogs := t.auditLogs ++
      [.approvalFailed userId storeId reason refundAmount threshold] }

theorem ReturnTables.Refused.db {t t' : ReturnTables} (h : t.Refused t') : t'.db = t.db := by
  rcases h with rfl | ⟨_, _, _, _, _, rfl⟩ <;> rfl

theorem ends_refuseApproval {α : Type} {event : ReturnEvent} {e : AppError}
    {w : Work ReturnTables} {ok : α → Work ReturnTables → Prop}
    {err : AppError → ReturnTables → Prop} : (refuseApproval event e).Ends w ok err ↔
      err e { w.current with auditLogs := w.current.auditLogs ++ [event] } := by
  simp [refuseApproval, logEvent, Session.ends_write]

/-- **The gate decides as `resolveReturnApproval` does.**  What is committed with the log of a
refusal is what the request had found. -/
theorem ends_approvalSession {ok : Bool × Option ℕ → Work ReturnTables → Prop}
    {err : AppError → ReturnTables → Prop}
    (hok : ∀ approval logs, resolveReturnApproval t.db storeId store refundAmount req = .ok approval →
      ok approval ⟨t, { t with auditLogs := t.auditLogs ++ logs }⟩)
    (herr : ∀ e t', resolveReturnApproval t.db storeId store refundAmount req = .error e →
      t.Refused t' → err e t') :
    (approvalSession storeId store refundAmount req).Ends ⟨t, t⟩ ok err := by
  have hsame : ∀ approval, resolveReturnApproval t.db storeId store refundAmount req = .ok approval →
      ok approval ⟨t, t⟩ := by
    intro approval h
    have := hok approval [] h
    rwa [List.append_nil] at this
  have hlogged : ∀ e userId reason threshold,
      resolveReturnApproval t.db storeId store refundAmount req = .error e →
      err e { t with auditLogs := t.auditLogs ++
        [.approvalFailed userId storeId reason refundAmount threshold] } :=
    fun e userId reason threshold h => herr e _ h (.inr ⟨_, _, _, _, _, rfl⟩)
  unfold resolveReturnApproval at hok herr hsame hlogged
  unfold approvalSession
  cases hthreshold : store.returnApprovalThresholdAmount with
  | none => exact hsame (false, none) (by rw [hthreshold]; rfl)
  | some threshold =>
    simp only [hthreshold] at hok herr hsame hlogged ⊢
    -- below the threshold of the store no approval is asked for
    by_cases hlt : refundAmount < threshold
    · simp only [if_pos hlt] at hsame ⊢
      exact hsame (false, none) rfl
    simp only [if_neg hlt] at hok herr hlogged ⊢
    -- without credentials the refusal is not logged
    by_cases hgiven : req.approverUsername.getD "" = "" ∨ req.approverPassword.getD "" = ""
    · simp only [if_pos hgiven, raiseIf] at herr ⊢
      exact herr _ _ rfl (.inl rfl)
    simp only [if_neg hgiven, raiseIf, Session.ends_bind, Session.ends_read] at hok herr hlogged ⊢
    constructor
    · intro found hfound
      simp only [hfound] at hok hlogged
      match found with
      | none => exact ends_refuseApproval.mpr (hlogged _ _ _ _ rfl)
      | some (approverId, approver) =>
        simp only [orRaise, ok_bind] at hok hlogged ⊢
        -- whoever returns may not approve it
        by_cases hself : some approverId = req.createdBy
        · simp only [if_pos hself] at hlogged ⊢
          exact ends_refuseApproval.mpr (hlogged _ _ _ _ rfl)
        simp only [if_neg hself, ok_bind] at hok hlogged ⊢
        by_cases hpermitted : ¬approver.salesReturnApprove
        · simp only [if_pos hpermitted] at hlogged ⊢
          exact ends_refuseApproval.mpr (hlogged _ _ _ _ rfl)
        simp only [if_neg hpermitted, ok_bind] at hok hlogged ⊢
        cases haccess : enforceStoreAccess approver.storeId storeId with
        | error e =>
          simp only [haccess] at hlogged ⊢
          exact ends_refuseApproval.mpr (hlogged _ _ _ _ rfl)
        | ok u =>
          simp only [haccess] at hok ⊢
          -- the approval is logged, and the log is committed with the return
          rw [Session.ends_bind, logEvent, Session.ends_write]
          refine ⟨fun s u hs => ?_, fun e he => by cases he⟩
          cases hs
          exact hok _ _ rfl
    · intro e hfound
      simp only [hfound] at herr
      exact herr _ _ rfl (.inl rfl)

/-- The gate rejects the request: the checks before it have been passed. -/
def RejectedAtGate (db : Db) (req : CreateSaleReturn) (e : AppError) : Prop :=
  matchOrRejectIdempotentReturn db req = .ok none ∧
    ∃ sale lines, planReturn db req = .ok (sale, lines) ∧
      ∃ store ∈ db.master.stores[req.storeId]?,
        resolveReturnApproval db req.storeId store (totalRefund lines) req = .error e

/-- A request that passes every step succeeds. -/
theorem createSaleReturn_of_parts {db d db' : Db} {sale : Row Sale} {lines : List ReturnLine}
    {approval : Bool × Option ℕ} {saleReturnId : ℕ}
    (hkey : matchOrRejectIdempotentReturn db req = .ok none)
    (hplan : planReturn db req = .ok (sale, lines))
    (hstore : db.master.stores[req.storeId]? = some store)
    (happroval : resolveReturnApproval db req.storeId store (totalRefund lines) req = .ok approval)
    (hwrite : writeReturn db req sale lines approval = .ok (d, saleReturnId))
    (hpost : postSaleReturnJournal d req saleReturnId (lines.map ReturnLine.effect) = .ok db') :
    createSaleReturn db req = .ok (db', saleReturnId) := by
  unfold createSaleReturn
  simp only [hkey, hplan, hstore, orRaise, happroval, hwrite, hpost, ok_bind, pure_eq_ok]

theorem ends_returnSession {isVoid : Bool} {ok : ℕ → Work ReturnTables → Prop}
    {err : AppError → ReturnTables → Prop}
    (hok : ∀ db' saleReturnId logs, createSaleReturn t.db req = .ok (db', saleReturnId) →
      ok saleReturnId ⟨t, { db := db', auditLogs := logs }⟩)
    (herr : ∀ e t', t.Refused t' → (∀ e', RejectedAtGate t.db req e' → e = e') → err e t') :
    (returnSession isVoid req).Ends ⟨t, t⟩ ok err := by
  unfold returnSession
  rw [Session.ends_bind, Session.ends_read]
  constructor
  · intro found hfound
    cases found with
    -- a replay answers with the return that is there
    | some saleReturnId =>
      refine hok t.db saleReturnId t.auditLogs ?_
      rw [createSaleReturn, bind_eq_ok]
      exact ⟨some saleReturnId, hfound, rfl⟩
    | none =>
      simp only [Session.ends_bind, Session.ends_read, orRaise_eq_ok, orRaise_eq_error]
      refine ⟨?_, fun e hplan => herr e t (.inl rfl) ?_⟩
      · rintro ⟨sale, lines⟩ hplan
        refine ⟨fun store hstore => ?_, fun e hstore => herr e t (.inl rfl) ?_⟩
        · have hgate : ∀ {e'}, RejectedAtGate t.db req e' →
              resolveReturnApproval t.db req.storeId store (totalRefund lines) req
                = .error e' := by
            rintro e' ⟨-, sale', lines', hplan', store', hstore', hreject⟩
            cases hplan.symm.trans hplan'
            cases hstore.symm.trans hstore'
            exact hreject
          refine ends_approvalSession (fun approval logs happroval => ?_) fun e t' hreject ht' =>
            herr e t' ht' fun e' he' => Except.error.inj (hreject.symm.trans (hgate he'))
          -- with an approval the return is recorded, or the flush refuses and takes the log back
          rw [Session.ends_write]
          refine ⟨fun t' saleReturnId hrecord => ?_, fun e he => herr e t (.inl rfl) fun e' he' =>
            by cases happroval.symm.trans (hgate he')⟩
          obtain ⟨-, -, -, hids, hplanned⟩ := planReturn_ok hplan
          have hnodup : (lines.map (·.saleItemId)).Nodup := by
            rw [hids]
            exact nodup_distinct _
          obtain ⟨d, hwrite, hpost⟩ := recordReturn_ok
            (t := { t with auditLogs := t.auditLogs ++ logs }) hnodup
            (fun l hl => (hplanned l hl).loaded) hrecord
          exact hok t'.db saleReturnId t'.auditLogs
            (createSaleReturn_of_parts hfound hplan hstore happroval hwrite hpost)
        · rintro e' ⟨-, sale', lines', -, store', hstore', -⟩
          cases hstore.1.symm.trans hstore'
      · rintro e' ⟨-, sale', lines', hplan', -⟩
        cases hplan.symm.trans hplan'
  -- the lookup by key failed, and the gate was not reached
  · intro e hfound
    refine herr e t (.inl rfl) ?_
    rintro e' ⟨hkey, -⟩
    cases hfound.symm.trans hkey

theorem RejectedAtGate.createSaleReturn {db : Db} {e : AppError} (h : RejectedAtGate db req e) :
    GroceryErp.createSaleReturn db req = .error e := by
  obtain ⟨hkey, sale, lines, hplan, store, hstore, hreject⟩ := h
  unfold GroceryErp.createSaleReturn
  simp only [hkey, hplan, Option.mem_def.mp hstore, orRaise, hreject, ok_bind, error_bind]

/-- A return that gets as far as the gate has lines, and is of a sale that the caller may see. -/
theorem RejectedAtGate.checked {db : Db} {e : AppError} (h : RejectedAtGate db req e) :
    req.lines ≠ [] ∧ ∃ sale, db.sales.sales[req.saleId]? = some sale ∧
      enforceStoreAccess req.callerStoreId sale.val.storeId = .ok () := by
  obtain ⟨-, sale, lines, hplan, -⟩ := h
  unfold planReturn at hplan
  simp only [↓check_bind_eq_ok, bind_eq_ok, orRaise_eq_ok, raiseIf_eq_ok] at hplan
  obtain ⟨hlines, -, haccess, sale, hsale, -⟩ := hplan
  rw [forM_eq_ok] at haccess
  exact ⟨hlines, sale, hsale, haccess sale (by rw [hsale]; exact List.mem_singleton_self _)⟩

theorem ends_voidSession {req : VoidSale} {ok : ℕ → Work ReturnTables → Prop}
    {err : AppError → ReturnTables → Prop}
    (hok : ∀ db' saleReturnId logs,
      createSaleReturn t.db (req.asReturn t.db) = .ok (db', saleReturnId) →
      ok saleReturnId ⟨t, { db := db', auditLogs := logs }⟩)
    (herr : ∀ e t', t.Refused t' →
      (∀ e', RejectedAtGate t.db (req.asReturn t.db) e' → e = e') → err e t') :
    (voidSession req).Ends ⟨t, t⟩ ok err := by
  unfold voidSession
  simp only [Session.ends_bind, Session.ends_read, orRaise_eq_ok, orRaise_eq_error, raiseIf_eq_ok,
    raiseIf_eq_error]
  refine ⟨fun sale hsale => ?_, fun e hsale => herr e t (.inl rfl) fun e' he' => ?_⟩
  · refine ⟨fun _ _ => ⟨fun lines hlines => ⟨fun _ _ => ⟨fun asReturn hreturn => ?_, ?_⟩, ?_⟩, ?_⟩,
      ?_⟩
    -- nothing stops it: what is left of the sale goes to the gate as a return
    · cases hlines
      cases hreturn
      exact ends_returnSession hok herr
    · intro e he
      cases he
    -- nothing is left to void, so there is no return that a gate could reject
    · rintro e ⟨hnone, -⟩
      refine herr e t (.inl rfl) fun e' he' => ?_
      cases hlines
      exact absurd hnone he'.checked.1
    · intro e he
      cases he
    · intro e haccess
      refine herr e t (.inl rfl) fun e' he' => ?_
      obtain ⟨-, sale', hsale', hallowed⟩ := he'.checked
      cases hsale.symm.trans hsale'
      cases haccess.symm.trans hallowed
  -- no sale, and none for a gate to see
  · obtain ⟨-, sale', hsale', -⟩ := he'.checked
    cases hsale.1.symm.trans hsale'

theorem ReturnRequest.ends_session (r : ReturnRequest) {ok : ℕ → Work ReturnTables → Prop}
    {err : AppError → ReturnTables → Prop}
    (hok : ∀ db' saleReturnId logs,
      GroceryErp.createSaleReturn t.db (r.asReturn t.db) = .ok (db', saleReturnId) →
      ok saleReturnId ⟨t, { db := db', auditLogs := logs }⟩)
    (herr : ∀ e t', t.Refused t' →
      (∀ e', RejectedAtGate t.db (r.asReturn t.db) e' → e = e') → err e t') :
    r.session.Ends ⟨t, t⟩ ok err := by
  cases r with
  | createSaleReturn req => exact ends_returnSession hok herr
  | voidSale req => exact ends_voidSession hok herr

/-- **What a request answers and leaves committed**: the tables of `createSaleReturn` where it
succeeds, and those it has found, but for the log of a refusal, where it fails. -/
theorem ReturnRequest.serve_cases (r : ReturnRequest) (t : ReturnTables) :
    (∃ db' saleReturnId logs,
      GroceryErp.createSaleReturn t.db (r.asReturn t.db) = .ok (db', saleReturnId) ∧
        r.serve t = (.ok saleReturnId, { db := db'.commit, auditLogs := logs })) ∨
    ∃ e t', r.serve t = (.error e, t') ∧ t.Refused t' ∧
      ∀ e', RejectedAtGate t.db (r.asReturn t.db) e' → e = e' := by
  have hends : r.endpoint.Ends ⟨t, t⟩
      (fun saleReturnId w => ∃ db' logs,
        GroceryErp.createSaleReturn t.db (r.asReturn t.db) = .ok (db', saleReturnId) ∧
          w.committed = { db := db'.commit, auditLogs := logs })
      (fun e t' => t.Refused t' ∧ ∀ e', RejectedAtGate t.db (r.asReturn t.db) e' → e = e') := by
    unfold endpoint
    simp only [Session.ends_bind, Session.ends_write, Session.ends_commit, Session.ends_pure]
    refine r.ends_session (fun db' saleReturnId logs h => ⟨fun s u hs => ?_, fun e he => ?_⟩)
      fun e t' ht' he => ⟨ht', he⟩
    · cases hs
      exact ⟨db', logs, h, rfl⟩
    · cases he
  rcases Session.serve_of_ends hends with ⟨saleReturnId, w, hserve, db', logs, hcreate, hw⟩ |
    ⟨e, t', hserve, ht', he⟩
  · exact .inl ⟨db', saleReturnId, logs, hcreate, by rw [← hw]; exact hserve⟩
  · exact .inr ⟨e, t', hserve, ht', he⟩

end Serving

/-! ### What the gate asks for -/

/-- An active user other than the initiator, with the permission and with access to the store. -/
def MayApproveReturn (db : Db) (storeId : ℕ) (initiatingUserId : Option ℕ) (approverId : ℕ) :
    Prop :=
  some approverId ≠ initiatingUserId ∧ ∃ approver ∈ db.master.users[approverId]?,
    approver.isActive ∧ approver.salesReturnApprove ∧ ∀ s ∈ approver.storeId, s = storeId

/-- From the threshold of its store on, a return is approved by one who may. -/
def ApprovedReturn (db : Db) (r : SaleReturn) : Prop :=
  ∀ store ∈ db.master.stores[r.storeId]?, ∀ threshold ∈ store.returnApprovalThresholdAmount,
    threshold ≤ r.refundAmount →
      ∃ approverId ∈ r.approvedBy, MayApproveReturn db r.storeId r.processedBy approverId

/-- The amount that the gate is asked about. -/
def gateAmount (db : Db) (req : CreateSaleReturn) : Option ℚ :=
  (planReturn db req).toOption.map fun planned => totalRefund planned.2

/-- The credentials are those of an active user. -/
theorem verifyUserCredentials_eq_some {db : Db} {username password : String} {userId : ℕ}
    {user : User} (h : verifyUserCredentials db username password = .ok (some (userId, user))) :
    db.master.users[userId]? = some user ∧ user.isActive := by
  unfold verifyUserCredentials at h
  rw [bind_eq_ok] at h
  obtain ⟨found, hfound, h⟩ := h
  rw [pure_eq_ok, Option.filter_eq_some_iff, Bool.and_eq_true] at h
  obtain ⟨rfl, hactive, -⟩ := h
  have hmem : (userId, user) ∈ rowsWhere (·.username = username) db.master.users := by
    rw [scalarOneOrNone_eq_some.mp hfound]
    exact List.mem_singleton_self _
  exact ⟨(mem_rowsWhere.mp hmem).1, hactive⟩

/-- Whoever the gate lets approve may do so. -/
theorem mayApprove_of_resolve {db : Db} {storeId : ℕ} {store : Store} {refundAmount threshold : ℚ}
    {req : CreateSaleReturn} {approval : Bool × Option ℕ}
    (h : resolveReturnApproval db storeId store refundAmount req = .ok approval)
    (hthreshold : store.returnApprovalThresholdAmount = some threshold)
    (hge : threshold ≤ refundAmount) :
    ∃ approverId ∈ approval.2, MayApproveReturn db storeId req.createdBy approverId := by
  unfold resolveReturnApproval at h
  simp only [hthreshold, if_neg (not_lt.mpr hge), ↓check_bind_eq_ok, bind_eq_ok, orRaise_eq_ok,
    raiseIf_eq_ok, pure_eq_ok, not_not] at h
  obtain ⟨_, -, found, hverify, ⟨approverId, approver⟩, rfl, hother, hpermitted, haccess, rfl⟩ := h
  obtain ⟨huser, hactive⟩ := verifyUserCredentials_eq_some hverify
  have hstore : ∀ s ∈ approver.storeId, s = storeId := by
    intro s hs
    rw [enforceStoreAccess, raiseIf_eq_ok, hs] at haccess
    simpa using haccess
  exact ⟨approverId, rfl, hother, approver, huser, hactive, hpermitted, hstore⟩

/-- **A return that is written is approved**, and its amount is the one the gate was asked about. -/
theorem createSaleReturn_approved {db db' : Db} {req : CreateSaleReturn} {saleReturnId : ℕ}
    (h : createSaleReturn db req = .ok (db', saleReturnId)) :
    db'.sales.returns = db.sales.returns ∨
    ∃ r, saleReturnId = db.sales.returns.length ∧ db'.sales.returns = db.sales.returns ++ [r] ∧
      r.val.refundAmount ∈ gateAmount db req ∧ ApprovedReturn db r.val := by
  rcases createSaleReturn_ok h with ⟨-, rfl⟩ | ⟨-, sale, lines, store, approval, d, hplan, hstore,
    happroval, hwrite, hpost⟩
  · exact .inl rfl
  obtain ⟨hid, shiftId, r, saleAfter, e, hr, -, hlines, rfl⟩ := writeReturn_ok hwrite
  have hamount : r.val.refundAmount = totalRefund lines := by
    rw [hr]
    exact numeric_eq_self (onGrid_totalRefund lines)
  refine .inr ⟨r, hid, ?_, ?_, ?_⟩
  · obtain ⟨t, hframe⟩ := addReturnLines_frame hlines
    rw [postJournalUnlessEmpty_frame hpost, hframe]
  · rw [hamount, gateAmount, hplan]
    rfl
  · intro store' hstore' threshold hthreshold hge
    have hsame : store' = store := by
      rw [hr] at hstore'
      exact Option.some.inj (hstore'.symm.trans hstore)
    rw [hamount] at hge
    rw [hsame] at hthreshold
    obtain ⟨approverId, hby, hmay⟩ := mayApprove_of_resolve happroval hthreshold hge
    rw [hr]
    exact ⟨approverId, hby, hmay⟩

end GroceryErp
