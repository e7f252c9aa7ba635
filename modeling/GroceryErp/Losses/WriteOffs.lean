import GroceryErp.Accounting.Postings
import GroceryErp.Losses.Discrepancies

/-!
# Write-offs

A resolved discrepancy can be written off, in parts.  A request fixes the role that may
decide it; an approval posts it to the ledger and adds it to the transfer line, a denial
reopens the discrepancy, and an administrator can reverse what was posted.

## Main definitions

* `createWriteOff`, `approveWriteOff`, `denyWriteOff`, `reverseWriteOff` — the service
  functions.

## Main results

* `createWriteOff_ok`, `approveWriteOff_ok`, `denyWriteOff_ok`, `reverseWriteOff_ok` —
  what they have checked and written.

## References

`backend/app/modules/writeoffs/service.py`.
-/

namespace GroceryErp

open Decimal Ledger Outcome Rows

/-! ### Who may decide -/

/-- `ADMIN`: the role that may decide on any amount. -/
def adminRole : String := "Admin"

/-- `get_user_role_name`: the one role of a user, by its name. -/
def getUserRoleName (db : Db) (userId : ℕ) : Result (Option String) :=
  let roleIds := (db.master.users[userId]?.map (·.roleIds)).getD []
  scalarOneOrNone (roleIds.filterMap fun roleId => db.master.roles[roleId]?.map (·.name))

/-- The rules that cover an amount in a store. -/
def rulesCovering (db : Db) (storeId : ℕ) (amount : ℚ) : List (ℕ × ApprovalPolicyRule) :=
  rowsWhere (fun r => r.isActive ∧ r.minAmount ≤ amount ∧ (∀ m ∈ r.maxAmount, amount < m) ∧
    (∀ s ∈ r.scopeStoreId, s = storeId)) db.master.approvalRules

/-- The order the rules are tried in: those of the store first, then the highest
minimum. -/
def ruleBefore (r r' : ℕ × ApprovalPolicyRule) : Prop :=
  (r.2.scopeStoreId.isSome ∧ r'.2.scopeStoreId = none) ∨
    (r.2.scopeStoreId.isSome = r'.2.scopeStoreId.isSome ∧ r'.2.minAmount ≤ r.2.minAmount)

instance : DecidableRel ruleBefore := fun _ _ => inferInstanceAs (Decidable (_ ∨ _))

/-- `_resolve_required_role`: the role, and the rule it comes from. -/
def resolveRequiredRole (db : Db) (storeId : ℕ) (amount : ℚ) : Result (ℕ × Option ℕ) :=
  match (rulesCovering db storeId amount).insertionSort ruleBefore with
  | [] => do
    let (adminRoleId, _) ← orRaise (rowsWhere (·.name = adminRole) db.master.roles).head? .noRows
    return (adminRoleId, none)
  | (ruleId, rule) :: _ => return (rule.requiredRoleId, some ruleId)

/-- `_check_approval_authority`: nobody decides on a write-off of their own, and only the required
role or an administrator does. -/
def checkApprovalAuthority (db : Db) (writeOff : TransferWriteOff) (approvedBy : ℕ) :
    Result Unit := do
  raiseIf (approvedBy = writeOff.initiatedBy) (.forbidden .selfApprovalProhibited)
  let roleName ← getUserRoleName db approvedBy
  if roleName = some adminRole then return () else
    raiseIf (roleName = none ∨
      roleName ≠ db.master.roles[writeOff.requiredRoleId]?.map (·.name))
      (.forbidden .insufficientApprovalAuthority)

/-! ### Requests -/

/-- The quantity of a discrepancy that posted write-offs have taken. -/
def postedQuantity (writeOffs : List (Row TransferWriteOff)) (discrepancyId : ℕ) : ℚ :=
  sumWhere (fun w => w.val.discrepancyId = discrepancyId ∧ w.val.status = .posted)
    (·.val.quantity) writeOffs

/-- `_enforce_dual_store_access`: a caller of one store may be at either end of the transfer. -/
def enforceDualStoreAccess (callerStoreId : Option ℕ) (storeA : ℕ) (storeB : Option ℕ) :
    Result Unit :=
  raiseIf (callerStoreId ≠ none ∧ callerStoreId ≠ some storeA ∧ callerStoreId ≠ storeB)
    (.forbidden .storeAccessDenied)

structure CreateWriteOff where
  discrepancyId : ℕ
  quantity : ℚ
  reason : String
  clientTransactionId : String
  callerStoreId : Option ℕ
  initiatedBy : Option ℕ

/-- The checks on the discrepancy a write-off is for, and the store it is charged to. -/
def checkWriteOffAllowed (db : Db) (req : CreateWriteOff) (discrepancy : ReceivingDiscrepancy) :
    Result ℕ := do
  raiseIf (discrepancy.sourceType ≠ .transferReceipt) (.validation .unsupportedSourceType)
  raiseIf (discrepancy.status ≠ .resolved) (.conflict .discrepancyNotResolved)
  raiseIf (discrepancy.resolutionType = some .vendorCaused) (.conflict .vendorCausedNotEligible)
  let storeId ← orRaise discrepancy.counterpartyStoreId (.conflict .noAttributionStore)
  let pending ← scalarOneOrNone (rowsWhere (fun w => w.val.discrepancyId = req.discrepancyId ∧
    w.val.status = .pendingApproval) db.losses.writeOffs)
  raiseIf (pending.isSome) (.conflict .duplicatePendingWriteOff)
  raiseIf (req.quantity >
      discrepancy.quantity - postedQuantity db.losses.writeOffs req.discrepancyId)
    (.validation .quantityExceedsRemainingDiscrepancy)
  return storeId

/-- The write-off that already carries the client's key, as a retried request finds it. -/
def writeOffWithKey (db : Db) (key : String) : List (ℕ × Row TransferWriteOff) :=
  rowsWhere (·.val.clientTransactionId = key) db.losses.writeOffs

/-- `create_write_off`: the tables after the request, and the id of the write-off. -/
def createWriteOff (db : Db) (req : CreateWriteOff) : Result (Db × ℕ) := do
  match ← scalarOneOrNone (writeOffWithKey db req.clientTransactionId) with
  | some (writeOffId, _) => return (db, writeOffId)
  | none => do
    raiseIf (req.quantity ≤ 0) (.validation .invalidQuantity)
    raiseIf (isBlank req.reason) (.validation .reasonRequired)
    let initiatedBy ← orRaise req.initiatedBy (.validation .actorRequired)
    let discrepancy ← orRaise db.losses.discrepancies[req.discrepancyId]? .notFound
    enforceDualStoreAccess req.callerStoreId discrepancy.val.storeId
      discrepancy.val.counterpartyStoreId
    let storeId ← checkWriteOffAllowed db req discrepancy.val
    let receiptItem ← orRaise db.transfers.receiptItems[discrepancy.val.sourceId]?
      (.conflict .sourceReceiptItemMissing)
    let amount := ledgerQuantize (req.quantity * discrepancy.val.unitCost)
    let (requiredRoleId, matchedRuleId) ← resolveRequiredRole db storeId amount
    -- the column of the transfer's id takes no null
    let transferId ← orRaise discrepancy.val.transferId (.integrity .transferWriteOffs)
    let writeOff ← flush
      { transferId
        transferLineId := receiptItem.val.interStoreTransferLineId
        discrepancyId := req.discrepancyId
        quantity := numeric 3 req.quantity
        unitCost := numeric 6 discrepancy.val.unitCost
        amount := numeric 6 amount
        storeId
        initiatedBy
        requiredRoleId
        matchedRuleId
        status := .pendingApproval
        journalEntryId := none
        reversalJournalEntryId := none
        clientTransactionId := req.clientTransactionId : TransferWriteOff }
    return ({ db with losses.writeOffs := db.losses.writeOffs ++ [writeOff] },
      db.losses.writeOffs.length)

/-! ### Decisions -/

structure DecideWriteOff where
  writeOffId : ℕ
  decisionNotes : String
  approvedBy : Option ℕ
  today : Date
  postingDate : Option Date := none

/-- The decisions on a write-off, of which there is one at most. -/
def decisionOn (db : Db) (writeOffId : ℕ) : List (ℕ × Row WriteOffApproval) :=
  rowsWhere (·.val.writeOffId = writeOffId) db.losses.approvals

/-- What an approval and a denial check alike: the pending write-off and who decides it,
or nothing when it has been decided before. -/
def loadForDecision (db : Db) (req : DecideWriteOff) :
    Result (Option (Row TransferWriteOff × ℕ)) := do
  raiseIf (isBlank req.decisionNotes) (.validation .decisionNotesRequired)
  let approvedBy ← orRaise req.approvedBy (.validation .actorRequired)
  let decided ← scalarOneOrNone (decisionOn db req.writeOffId)
  let writeOff ← orRaise db.losses.writeOffs[req.writeOffId]? .notFound
  if decided.isSome then return none else do
    raiseIf (writeOff.val.status ≠ .pendingApproval) (.conflict .invalidWriteOffState)
    checkApprovalAuthority db writeOff.val approvedBy
    return some (writeOff, approvedBy)

/-- The row of a decision, which its table refuses where whoever decides has also initiated it. -/
def addDecision (db : Db) (writeOffId : ℕ) (writeOff : TransferWriteOff) (approvedBy : ℕ)
    (decision : ApprovalDecision) : Result Db := do
  let approval ← flush
    { writeOffId, initiatedBy := writeOff.initiatedBy, approvedBy, decision : WriteOffApproval }
  return { db with losses.approvals := db.losses.approvals ++ [approval] }

/-- A transfer line with an amount more written off. -/
def writeOffFrom (db : Db) (transferLineId : ℕ) (line : InterStoreTransferLine) (quantity : ℚ) :
    Result Db := do
  let line ← flush { line with writtenOffQuantity := line.writtenOffQuantity + quantity }
  return { db with transfers.lines := db.transfers.lines.set transferLineId line }

/-- A write-off in its next status, whose row is flushed and put where the last one was. -/
def setWriteOff (db : Db) (writeOffId : ℕ) (writeOff : TransferWriteOff) : Result Db := do
  let writeOff ← flush writeOff
  return { db with losses.writeOffs := db.losses.writeOffs.set writeOffId writeOff }

/-- `approve_write_off`: what is left of the discrepancy must cover the write-off; it is then
posted, and counted on the transfer line. A write-off that was decided before is left as it is. -/
def approveWriteOff (db : Db) (req : DecideWriteOff) : Result Db := do
  match ← loadForDecision db req with
  | none => return db
  | some (writeOff, approvedBy) => do
    let discrepancy ← orRaise db.losses.discrepancies[writeOff.val.discrepancyId]? .notFound
    raiseIf (writeOff.val.quantity > discrepancy.val.quantity
        - postedQuantity db.losses.writeOffs writeOff.val.discrepancyId)
      (.conflict .quantityExceedsRemainingDiscrepancy)
    let line ← orRaise db.transfers.lines[writeOff.val.transferLineId]? .notFound
    let journalEntryId := db.ledger.entries.length
    let db ← postTransferWriteOffJournal db req.writeOffId writeOff.val
      (req.postingDate.getD req.today)
    onIntegrityError (e := .conflict .alreadyDecided) do
      let db ← setWriteOff db req.writeOffId
        { writeOff.val with status := .posted, journalEntryId := some journalEntryId }
      let db ← writeOffFrom db writeOff.val.transferLineId line.val writeOff.val.quantity
      addDecision db req.writeOffId writeOff.val approvedBy .approved

/-- `deny_write_off`: the write-off is denied and its discrepancy is open to investigation again. -/
def denyWriteOff (db : Db) (req : DecideWriteOff) : Result Db := do
  match ← loadForDecision db req with
  | none => return db
  | some (writeOff, approvedBy) => do
    let db ← setWriteOff db req.writeOffId { writeOff.val with status := .denied }
    let db ← addDecision db req.writeOffId writeOff.val approvedBy .denied
    reopenDiscrepancyAfterWriteOffDenial db writeOff.val.discrepancyId

/-! ### Reversal -/

structure ReverseWriteOff where
  writeOffId : ℕ
  reason : String
  reversedBy : Option ℕ
  today : Date

/-- `reverse_write_off`: an administrator takes back a posted write-off, on the line and in the
journal; a second reversal changes nothing. -/
def reverseWriteOff (db : Db) (req : ReverseWriteOff) : Result Db := do
  raiseIf (isBlank req.reason) (.validation .reversalReasonRequired)
  let reversedBy ← orRaise req.reversedBy (.validation .actorRequired)
  let roleName ← getUserRoleName db reversedBy
  raiseIf (roleName ≠ some adminRole) (.forbidden .reversalRequiresAdmin)
  let writeOff ← orRaise db.losses.writeOffs[req.writeOffId]? .notFound
  if writeOff.val.reversalJournalEntryId.isSome then return db else do
    raiseIf (writeOff.val.status ≠ .posted) (.conflict .invalidWriteOffState)
    let line ← orRaise db.transfers.lines[writeOff.val.transferLineId]? .notFound
    let reversalJournalEntryId := db.ledger.entries.length
    let db ← postTransferWriteOffReversalJournal db req.writeOffId writeOff.val req.today
    onIntegrityError (e := .conflict .alreadyReversed) do
      let db ← setWriteOff db req.writeOffId { writeOff.val with
        status := .reversed, reversalJournalEntryId := some reversalJournalEntryId }
      writeOffFrom db writeOff.val.transferLineId line.val (-writeOff.val.quantity)

/-! ### What a request that succeeds has done -/

section Inversion

variable {db db' : Db}

/-- What `createWriteOff` writes for a request: a pending write-off on the line of its discrepancy,
for the quantity asked and at the unit cost that was recorded. -/
structure CreateWriteOff.Requested (db : Db) (req : CreateWriteOff)
    (discrepancy : ReceivingDiscrepancy) (w : TransferWriteOff) : Prop where
  discrepancyId : w.discrepancyId = req.discrepancyId
  line : ∃ item, db.transfers.receiptItems[discrepancy.sourceId]? = some item ∧
    item.val.interStoreTransferLineId = w.transferLineId
  quantity : w.quantity = numeric 3 req.quantity
  unitCost : w.unitCost = numeric 6 discrepancy.unitCost
  amount : w.amount = numeric 6 (ledgerQuantize (req.quantity * discrepancy.unitCost))
  status : w.status = .pendingApproval
  reversal : w.reversalJournalEntryId = none

/-- A request that is not a replay is for a resolved discrepancy with nothing pending and
enough of it left, and is appended. -/
theorem createWriteOff_ok {req : CreateWriteOff} {writeOffId : ℕ}
    (h : createWriteOff db req = .ok (db', writeOffId)) :
    db' = db ∨ ∃ (discrepancy : Row ReceivingDiscrepancy) (w : Row TransferWriteOff),
      db.losses.discrepancies[req.discrepancyId]? = some discrepancy ∧
      discrepancy.val.sourceType = .transferReceipt ∧
      discrepancy.val.status = .resolved ∧
      discrepancy.val.resolutionType ≠ some .vendorCaused ∧
      (∀ v ∈ db.losses.writeOffs, v.val.discrepancyId = req.discrepancyId →
        v.val.status ≠ .pendingApproval) ∧
      req.quantity ≤
        discrepancy.val.quantity - postedQuantity db.losses.writeOffs req.discrepancyId ∧
      CreateWriteOff.Requested db req discrepancy.val w.val ∧
      db' = { db with losses.writeOffs := db.losses.writeOffs ++ [w] } := by
  unfold createWriteOff at h
  rw [bind_eq_ok] at h
  obtain ⟨found, -, h⟩ := h
  cases found with
  | some r =>
    obtain ⟨i, row⟩ := r
    simp only [pure_eq_ok, Prod.mk.injEq] at h
    exact .inl h.1.symm
  | none =>
    simp only [↓check_bind_eq_ok, bind_eq_ok, orRaise_eq_ok, flush_eq_ok, pure_eq_ok,
      Prod.mk.injEq, Prod.exists] at h
    obtain ⟨-, -, initiatedBy, -, discrepancy, hdisc, -, storeId, hallowed, item, hitem, role, rule,
      -, transferId, -, w, hw, rfl, -⟩ := h
    unfold checkWriteOffAllowed at hallowed
    simp only [↓check_bind_eq_ok, bind_eq_ok, orRaise_eq_ok, raiseIf_eq_ok, pure_eq_ok, ne_eq,
      not_not, not_lt, gt_iff_lt, Bool.not_eq_true, Option.isSome_eq_false_iff,
      Option.isNone_iff_eq_none] at hallowed
    -- the checks on the discrepancy: resolved, not the vendor's, nothing pending, enough left
    obtain ⟨hsource, hstatus, hvendor, _, -, pending, hpending, rfl, hleft, rfl⟩ := hallowed
    have hempty := scalarOneOrNone_eq_none.mp hpending
    refine .inr ⟨discrepancy, w, hdisc, hsource, hstatus, hvendor, fun v hv hfor hstill => ?_,
      hleft, ?_, rfl⟩
    · obtain ⟨n, hn⟩ := List.getElem?_of_mem hv
      exact List.eq_nil_iff_forall_not_mem.mp hempty (n, v) (mem_rowsWhere.mpr ⟨hn, hfor, hstill⟩)
    · rw [hw]
      exact ⟨rfl, ⟨item, hitem, rfl⟩, rfl, rfl, rfl, rfl, rfl⟩

/-- A write-off that is pending and undecided, and someone other than its initiator who
decides it. -/
structure DecideWriteOff.Decides (db : Db) (req : DecideWriteOff) (w : Row TransferWriteOff)
    (approvedBy : ℕ) : Prop where
  loaded : db.losses.writeOffs[req.writeOffId]? = some w
  undecided : ∀ a ∈ db.losses.approvals, a.val.writeOffId ≠ req.writeOffId
  pending : w.val.status = .pendingApproval
  by_other : approvedBy ≠ w.val.initiatedBy

theorem loadForDecision_ok {req : DecideWriteOff} {r : Option (Row TransferWriteOff × ℕ)}
    (h : loadForDecision db req = .ok r) :
    (r = none ∧ ∃ a ∈ db.losses.approvals, a.val.writeOffId = req.writeOffId) ∨
      ∃ w approvedBy, r = some (w, approvedBy) ∧ req.Decides db w approvedBy := by
  unfold loadForDecision at h
  simp only [↓check_bind_eq_ok, bind_eq_ok, orRaise_eq_ok] at h
  obtain ⟨-, approvedBy, -, decided, hdecided, w, hw, h⟩ := h
  cases decided with
  | some found =>
    obtain ⟨n, a⟩ := found
    simp only [Option.isSome_some, if_true, pure_eq_ok] at h
    have hmem : (n, a) ∈ decisionOn db req.writeOffId := by
      rw [scalarOneOrNone_eq_some.mp hdecided]
      exact List.mem_cons_self
    obtain ⟨hrow, hfor⟩ := mem_rowsWhere.mp hmem
    exact .inl ⟨h.symm, a, mem_of_row hrow, hfor⟩
  | none =>
    simp only [Option.isSome_none, Bool.false_eq_true, if_false, ↓check_bind_eq_ok, raiseIf_eq_ok,
      pure_eq_ok, ne_eq, not_not] at h
    obtain ⟨hpending, hauthority, rfl⟩ := h
    unfold checkApprovalAuthority at hauthority
    rw [check_bind_eq_ok, raiseIf_eq_ok] at hauthority
    have hempty := scalarOneOrNone_eq_none.mp hdecided
    refine .inr ⟨w, approvedBy, rfl, hw, fun a ha hfor => ?_, hpending, hauthority.1⟩
    obtain ⟨n, hn⟩ := List.getElem?_of_mem ha
    exact List.eq_nil_iff_forall_not_mem.mp hempty (n, a) (mem_rowsWhere.mpr ⟨hn, hfor⟩)

/-- An approval posts the write-off, takes it out of the transfer line and keeps the
decision. -/
theorem approveWriteOff_ok {req : DecideWriteOff} (h : approveWriteOff db req = .ok db') :
    db' = db ∨ ∃ w w' discrepancy line line' approval approvedBy d,
      req.Decides db w approvedBy ∧
      db.losses.discrepancies[w.val.discrepancyId]? = some discrepancy ∧
      w.val.quantity ≤ discrepancy.val.quantity
        - postedQuantity db.losses.writeOffs w.val.discrepancyId ∧
      db.transfers.lines[w.val.transferLineId]? = some line ∧
      postTransferWriteOffJournal db req.writeOffId w.val (req.postingDate.getD req.today)
        = .ok d ∧
      w'.val = { w.val with
        status := .posted, journalEntryId := some db.ledger.entries.length } ∧
      line'.val = { line.val with
        writtenOffQuantity := line.val.writtenOffQuantity + w.val.quantity } ∧
      approval.val = ⟨req.writeOffId, w.val.initiatedBy, approvedBy, .approved⟩ ∧
      db' = { db with
        ledger.entries := d.ledger.entries
        losses.writeOffs := db.losses.writeOffs.set req.writeOffId w'
        transfers.lines := db.transfers.lines.set w.val.transferLineId line'
        losses.approvals := db.losses.approvals ++ [approval] } := by
  unfold approveWriteOff at h
  rw [bind_eq_ok] at h
  obtain ⟨r, hr, h⟩ := h
  rcases loadForDecision_ok hr with ⟨rfl, -⟩ | ⟨w, approvedBy, rfl, hdecides⟩
  · rw [pure_eq_ok] at h
    exact .inl h.symm
  -- the writes of an approval, in the order of the source
  · simp only [setWriteOff, writeOffFrom, addDecision, ↓check_bind_eq_ok, bind_eq_ok,
      orRaise_eq_ok, raiseIf_eq_ok, onIntegrityError_eq_ok, flush_eq_ok, pure_eq_ok,
      gt_iff_lt, not_lt] at h
    obtain ⟨discrepancy, hdisc, hleft, line, hline, d, hpost, _, ⟨w', hw', rfl⟩, _,
      ⟨line', hline', rfl⟩, approval, happroval, rfl⟩ := h
    refine .inr ⟨w, w', discrepancy, line, line', approval, approvedBy, d, hdecides, hdisc, hleft,
      hline, hpost, hw', hline', happroval, ?_⟩
    obtain ⟨-, -, -, entry, -, rfl⟩ := postJournal_eq_ok.mp hpost
    rfl

/-- A denial keeps the decision and reopens the discrepancy. -/
theorem denyWriteOff_ok {req : DecideWriteOff} (h : denyWriteOff db req = .ok db') :
    (db' = db ∧ ∃ a ∈ db.losses.approvals, a.val.writeOffId = req.writeOffId) ∨
      ∃ w w' approval approvedBy old discrepancy, req.Decides db w approvedBy ∧
      w'.val = { w.val with status := .denied } ∧
      approval.val = ⟨req.writeOffId, w.val.initiatedBy, approvedBy, .denied⟩ ∧
      db.losses.discrepancies[w.val.discrepancyId]? = some old ∧
      old.val.status = .resolved ∧
      discrepancy.val = { old.val with status := .investigating, resolutionType := none } ∧
      db' = { db with
        losses.writeOffs := db.losses.writeOffs.set req.writeOffId w'
        losses.approvals := db.losses.approvals ++ [approval]
        losses.discrepancies :=
          db.losses.discrepancies.set w.val.discrepancyId discrepancy } := by
  unfold denyWriteOff at h
  rw [bind_eq_ok] at h
  obtain ⟨r, hr, h⟩ := h
  rcases loadForDecision_ok hr with ⟨rfl, hdecided⟩ | ⟨w, approvedBy, rfl, hdecides⟩
  · rw [pure_eq_ok] at h
    exact .inl ⟨h.symm, hdecided⟩
  · simp only [setWriteOff, addDecision, bind_eq_ok, flush_eq_ok, pure_eq_ok] at h
    obtain ⟨_, ⟨w', hw', rfl⟩, _, ⟨approval, happroval, rfl⟩, hreopen⟩ := h
    obtain ⟨old, discrepancy, hold, hstatus, hrow, rfl⟩ := moveDiscrepancy_ok hreopen
    exact .inr ⟨w, w', approval, approvedBy, old, discrepancy, hdecides, hw', happroval, hold,
      hstatus, hrow, rfl⟩

/-- A reversal takes a posted write-off back, in the ledger and on the transfer line. -/
theorem reverseWriteOff_ok {req : ReverseWriteOff} (h : reverseWriteOff db req = .ok db') :
    db' = db ∨ ∃ w w' line line' d,
      db.losses.writeOffs[req.writeOffId]? = some w ∧ w.val.status = .posted ∧
      db.transfers.lines[w.val.transferLineId]? = some line ∧
      postTransferWriteOffReversalJournal db req.writeOffId w.val req.today = .ok d ∧
      w'.val = { w.val with
        status := .reversed, reversalJournalEntryId := some db.ledger.entries.length } ∧
      line'.val = { line.val with
        writtenOffQuantity := line.val.writtenOffQuantity + -w.val.quantity } ∧
      db' = { db with
        ledger.entries := d.ledger.entries
        losses.writeOffs := db.losses.writeOffs.set req.writeOffId w'
        transfers.lines := db.transfers.lines.set w.val.transferLineId line' } := by
  unfold reverseWriteOff at h
  simp only [↓check_bind_eq_ok, bind_eq_ok, orRaise_eq_ok] at h
  obtain ⟨-, reversedBy, -, roleName, -, -, w, hw, h⟩ := h
  split at h
  · rw [pure_eq_ok] at h
    exact .inl h.symm
  · simp only [setWriteOff, writeOffFrom, ↓check_bind_eq_ok, bind_eq_ok, orRaise_eq_ok,
      raiseIf_eq_ok, onIntegrityError_eq_ok, flush_eq_ok, pure_eq_ok, ne_eq, not_not] at h
    obtain ⟨hposted, line, hline, d, hpost, _, ⟨w', hw', rfl⟩, line', hline', rfl⟩ := h
    refine .inr ⟨w, w', line, line', d, hw, hposted, hline, hpost, hw', hline', ?_⟩
    obtain ⟨-, -, -, entry, -, rfl⟩ := postJournal_eq_ok.mp hpost
    rfl

end Inversion

end GroceryErp
