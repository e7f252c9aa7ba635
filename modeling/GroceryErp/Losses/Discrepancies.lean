import GroceryErp.Lib.Rows
import GroceryErp.Errors
import GroceryErp.Schema

/-!
# Receiving discrepancies

What a receipt finds damaged or short is recorded as a discrepancy, investigated, and
resolved with a finding.  None of this moves stock or posts anything.

## Main definitions

* `createDiscrepancyForReceiptItem` — the fact, recorded with the receipt.
* `investigateDiscrepancy`, `resolveDiscrepancy` — the transitions a user makes.
* `reopenDiscrepancyAfterWriteOffDenial` — the one a denied write-off makes.

## Main results

* `createDiscrepancyForReceiptItem_ok`, `moveDiscrepancy_ok` — what they have checked
  and written.

## References

`backend/app/modules/discrepancies/service.py`.
-/

namespace GroceryErp

open Decimal Outcome Rows

/-! ### Recording -/

/-- The arguments of `create_discrepancy_for_receipt_item`, as a receipt fills them in. -/
structure DiscrepancyInput where
  receiptItemId : ℕ
  transferId : ℕ
  productId : ℕ
  storeId : ℕ
  counterpartyStoreId : Option ℕ
  quantityShort : ℚ
  quantityDamaged : ℚ
  unitCost : ℚ

/-- `_discrepancy_type`: whether units were short, damaged, or both. -/
def discrepancyType (quantityShort quantityDamaged : ℚ) : DiscrepancyType :=
  if 0 < quantityShort ∧ 0 < quantityDamaged then .both
  else if 0 < quantityShort then .shortage
  else .damage

/-- A new discrepancy as its columns keep it. -/
def DiscrepancyInput.row (i : DiscrepancyInput) : ReceivingDiscrepancy where
  sourceType := .transferReceipt
  sourceId := i.receiptItemId
  transferId := some i.transferId
  productId := i.productId
  storeId := i.storeId
  counterpartyStoreId := i.counterpartyStoreId
  discrepancyType := discrepancyType i.quantityShort i.quantityDamaged
  quantityShort := numeric 3 i.quantityShort
  quantityDamaged := numeric 3 i.quantityDamaged
  unitCost := numeric 6 i.unitCost
  status := .recorded
  resolutionType := none

/-- `create_discrepancy_for_receipt_item`: one discrepancy for a receipt item that lost something; a
second call for the same item writes nothing. -/
def createDiscrepancyForReceiptItem (db : Db) (i : DiscrepancyInput) : Result Db := do
  if i.quantityShort ≤ 0 ∧ i.quantityDamaged ≤ 0 then return db else
    match ← scalarOneOrNone (rowsWhere (fun d => d.val.sourceType = .transferReceipt ∧
        d.val.sourceId = i.receiptItemId) db.losses.discrepancies) with
    | some _ => return db
    | none => do
      let discrepancy ← flush i.row
      return { db with losses.discrepancies := db.losses.discrepancies ++ [discrepancy] }

/-! ### Transitions -/

/-- A transition: who may make it, the status it starts from, and what it writes. -/
def moveDiscrepancy (db : Db) (discrepancyId : ℕ) (access : ReceivingDiscrepancy → Result Unit)
    (before : DiscrepancyStatus) (write : ReceivingDiscrepancy → ReceivingDiscrepancy) :
    Result Db := do
  let discrepancy ← orRaise db.losses.discrepancies[discrepancyId]? .notFound
  access discrepancy.val
  raiseIf (discrepancy.val.status ≠ before) (.conflict .invalidDiscrepancyState)
  let discrepancy ← flush (write discrepancy.val)
  return { db with
    losses.discrepancies := db.losses.discrepancies.set discrepancyId discrepancy }

structure InvestigateDiscrepancy where
  discrepancyId : ℕ
  callerStoreId : Option ℕ

/-- `investigate_discrepancy`: a recorded discrepancy is under investigation. -/
def investigateDiscrepancy (db : Db) (req : InvestigateDiscrepancy) : Result Db :=
  moveDiscrepancy db req.discrepancyId
    (fun d => enforceStoreAccess req.callerStoreId d.storeId) .recorded
    (fun d => { d with status := .investigating })

structure ResolveDiscrepancy where
  discrepancyId : ℕ
  resolutionType : ResolutionType
  resolutionNotes : String
  callerStoreId : Option ℕ

/-- `resolve_discrepancy`: an investigation ends with what it found, which says whether a write-off
may follow. -/
def resolveDiscrepancy (db : Db) (req : ResolveDiscrepancy) : Result Db := do
  raiseIf (isBlank req.resolutionNotes) (.validation .resolutionNotesRequired)
  moveDiscrepancy db req.discrepancyId
    (fun d => enforceStoreAccess req.callerStoreId d.storeId) .investigating
    (fun d => { d with status := .resolved, resolutionType := some req.resolutionType })

/-- `reopen_discrepancy_after_write_off_denial`: the discrepancy is under investigation again, and
what was found is forgotten. It does not ask whether another write-off was posted. -/
def reopenDiscrepancyAfterWriteOffDenial (db : Db) (discrepancyId : ℕ) : Result Db :=
  moveDiscrepancy db discrepancyId (fun _ => .ok ()) .resolved
    (fun d => { d with status := .investigating, resolutionType := none })

/-! ### What a request that succeeds has done -/

section Inversion

variable {db db' : Db} {discrepancyId : ℕ}

/-- A discrepancy is recorded when there is something damaged or short. -/
theorem createDiscrepancyForReceiptItem_ok {i : DiscrepancyInput}
    (h : createDiscrepancyForReceiptItem db i = .ok db') :
    db' = db ∨ ∃ discrepancy : Row ReceivingDiscrepancy, discrepancy.val = i.row ∧
      (¬∃ d ∈ db.losses.discrepancies, d.val.sourceType = .transferReceipt ∧
        d.val.sourceId = i.receiptItemId) ∧
      db' = { db with losses.discrepancies := db.losses.discrepancies ++ [discrepancy] } := by
  unfold createDiscrepancyForReceiptItem at h
  split at h
  · rw [pure_eq_ok] at h
    exact .inl h.symm
  · rw [bind_eq_ok] at h
    obtain ⟨found, hfound, h⟩ := h
    cases found with
    | some r =>
      rw [pure_eq_ok] at h
      exact .inl h.symm
    | none =>
      simp only [bind_eq_ok, flush_eq_ok, pure_eq_ok] at h
      obtain ⟨discrepancy, hrow, rfl⟩ := h
      refine .inr ⟨discrepancy, hrow, ?_, rfl⟩
      rintro ⟨d, hd, hsource⟩
      obtain ⟨n, hn⟩ := List.getElem?_of_mem hd
      have hempty := scalarOneOrNone_eq_none.mp hfound
      exact List.eq_nil_iff_forall_not_mem.mp hempty (n, d) (mem_rowsWhere.mpr ⟨hn, hsource⟩)

theorem moveDiscrepancy_ok {access : ReceivingDiscrepancy → Result Unit}
    {before : DiscrepancyStatus} {write : ReceivingDiscrepancy → ReceivingDiscrepancy}
    (h : moveDiscrepancy db discrepancyId access before write = .ok db') :
    ∃ old discrepancy, db.losses.discrepancies[discrepancyId]? = some old ∧
      old.val.status = before ∧ discrepancy.val = write old.val ∧
      db' = { db with
        losses.discrepancies := db.losses.discrepancies.set discrepancyId discrepancy } := by
  unfold moveDiscrepancy at h
  simp only [↓check_bind_eq_ok, bind_eq_ok, orRaise_eq_ok, raiseIf_eq_ok, flush_eq_ok, pure_eq_ok,
    ne_eq, not_not] at h
  obtain ⟨old, hold, -, hstatus, discrepancy, hrow, rfl⟩ := h
  exact ⟨old, discrepancy, hold, hstatus, hrow, rfl⟩

/-- An investigation writes the status of a discrepancy that was only recorded before, and nothing
else. -/
theorem investigateDiscrepancy_ok {req : InvestigateDiscrepancy}
    (h : investigateDiscrepancy db req = .ok db') :
    ∃ old discrepancy, db.losses.discrepancies[req.discrepancyId]? = some old ∧
      old.val.status = .recorded ∧ discrepancy.val = { old.val with status := .investigating } ∧
      db' = { db with
        losses.discrepancies := db.losses.discrepancies.set req.discrepancyId discrepancy } :=
  moveDiscrepancy_ok h

/-- A resolution writes the finding of the request. -/
theorem resolveDiscrepancy_ok {req : ResolveDiscrepancy}
    (h : resolveDiscrepancy db req = .ok db') :
    ∃ old discrepancy, db.losses.discrepancies[req.discrepancyId]? = some old ∧
      old.val.status = .investigating ∧
      discrepancy.val =
        { old.val with status := .resolved, resolutionType := some req.resolutionType } ∧
      db' = { db with
        losses.discrepancies := db.losses.discrepancies.set req.discrepancyId discrepancy } := by
  unfold resolveDiscrepancy at h
  rw [check_bind_eq_ok] at h
  exact moveDiscrepancy_ok h.2

end Inversion

end GroceryErp
