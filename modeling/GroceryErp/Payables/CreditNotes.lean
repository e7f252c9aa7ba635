import GroceryErp.Lib.Runs
import GroceryErp.Payables.Settlement
import GroceryErp.Purchasing.Returning

/-!
# Credit for returned goods

A credit note for returned goods is checked against the value of its return, and only by
itself: several of them can be for one return.

## Main definitions

* `unreversedCredit` — the credit notes for a return that have not been reversed.
* `CreditRequest` — returns, credit notes and their reversals.
* `WithinReturn` — a credit note is within what the others have left of its return.

## Main results

* `credit_within_return` — in the runs of such credit notes the bound holds, and any other
  credit note breaks it.
* `credit_exceeds_return` — two credit notes for one return.

## References

`backend/app/modules/ap/service.py`, `create_supplier_credit_note`,
`reverse_supplier_credit_note`.
-/

namespace GroceryErp

open Decimal Ledger Outcome Rows Runs

/-! ### Credit and value of a return -/

/-- The credit notes of a return that have not been reversed. -/
def unreversedCredit (db : Db) (purchaseReturnId : ℕ) : ℚ :=
  sumWhere (fun n => n.2.val.reason = .goodsReturn ∧
      n.2.val.purchaseReturnId = some purchaseReturnId ∧ ¬CreditNoteReversed db n.1)
    (·.2.val.grandTotal) (withKeys db.payables.creditNotes)

/-- The requests that return goods, and that credit them. -/
inductive CreditRequest
  | createPurchaseReturn (req : CreatePurchaseReturn)
  | createSupplierCreditNote (req : CreateSupplierCreditNote)
  | reverseSupplierCreditNote (req : ReverseSupplierCreditNote)

namespace CreditRequest

def run (db : Db) : CreditRequest → Result Db
  | createPurchaseReturn req => Prod.fst <$> GroceryErp.createPurchaseReturn db req
  | createSupplierCreditNote req => Prod.fst <$> GroceryErp.createSupplierCreditNote db req
  | reverseSupplierCreditNote req => GroceryErp.reverseSupplierCreditNote db req

/-- The request, and its commit, which rounds what the columns round. -/
def exec (r : CreditRequest) (db : Db) : Result Db := Db.commit <$> r.run db

end CreditRequest

/-- What a new credit note for returned goods comes to is within what the unreversed ones
have left of the value of the return. -/
def WithinReturn (db : Db) : CreditRequest → Prop
  | .createSupplierCreditNote req => matchOrRejectIdempotentCreditNote db req = .ok none →
      ∀ r ∈ req.purchaseReturnId,
        unreversedCredit db r + numeric 2 req.grandTotal ≤ returnValue db r
  | .createPurchaseReturn _ | .reverseSupplierCreditNote _ => True

section Steps

variable {db db' : Db}

theorem unreversedCredit_congr (h : db'.payables = db.payables) (r : ℕ) :
    unreversedCredit db' r = unreversedCredit db r := by
  unfold unreversedCredit
  rw [h]
  refine sumWhere_congr (fun n _ => ?_) fun _ _ _ => rfl
  unfold CreditNoteReversed
  rw [h]

/-- A return brings its own value. -/
theorem returnValue_createPurchaseReturn {req : CreatePurchaseReturn} {purchaseReturnId : ℕ}
    (h : createPurchaseReturn db req = .ok (db', purchaseReturnId)) (r : ℕ) :
    db'.payables = db.payables ∧ returnValue db r ≤ returnValue db' r := by
  rcases createPurchaseReturn_ok h with rfl | ⟨lines, d, -, hwrite, hpost⟩
  · exact ⟨rfl, le_rfl⟩
  obtain ⟨-, rows, -, hd⟩ := writePurchaseReturn_ok hwrite
  have hframe := postJournalUnlessEmpty_frame hpost
  have hpayables : db'.payables = db.payables := by rw [hframe, hd]
  have hitems : db'.purchasing.returnItems = db.purchasing.returnItems ++ rows := by
    rw [hframe, hd]
  refine ⟨hpayables, ?_⟩
  unfold returnValue
  rw [hitems, sumWhere_append]
  refine le_add_of_nonneg_right (sumWhere_nonneg fun i _ _ => ?_)
  exact mul_nonneg i.property.qty_pos.le i.property.unit_cost_nonneg

/-- What a credit note that is written adds to the credit of a return. -/
theorem unreversedCredit_createSupplierCreditNote {req : CreateSupplierCreditNote}
    {creditNoteId : ℕ} (hnone : matchOrRejectIdempotentCreditNote db req = .ok none)
    (h : createSupplierCreditNote db req = .ok (db', creditNoteId)) (r : ℕ) :
    db'.purchasing = db.purchasing ∧ 0 ≤ numeric 2 req.grandTotal ∧
      unreversedCredit db' r = unreversedCredit db r
        + if req.purchaseReturnId = some r ∧
            ¬CreditNoteReversed db db.payables.creditNotes.length
          then numeric 2 req.grandTotal else 0 := by
  rcases createSupplierCreditNote_ok h with ⟨-, i, hfound⟩ | ⟨-, -, -, note, lines, rows, d,
    hnote, -, -, hsettled, hpost⟩
  · rw [hnone] at hfound
    cases hfound
  have hd := settleAll_frame hsettled
  have hframe := postJournalUnlessEmpty_frame hpost
  have hpurchasing : db'.purchasing = db.purchasing := by rw [hframe, hd]
  have hnotes : db'.payables.creditNotes = db.payables.creditNotes ++ [note] := by rw [hframe, hd]
  have hreversals : db'.payables.creditNoteReversals = db.payables.creditNoteReversals := by
    rw [hframe, hd]
  have htotal : note.val.grandTotal = numeric 2 req.grandTotal := by
    rw [hnote]
    rfl
  have hreturn : note.val.purchaseReturnId = req.purchaseReturnId := by
    rw [hnote]
    rfl
  refine ⟨hpurchasing, htotal ▸ note.property.grand_total_pos.le, ?_⟩
  have hsame : ∀ i, CreditNoteReversed db' i ↔ CreditNoteReversed db i := by
    intro i
    unfold CreditNoteReversed
    rw [hreversals]
  unfold unreversedCredit
  rw [hnotes, withKeys_append_singleton, sumWhere_append, sumWhere_singleton]
  congr 1
  · exact sumWhere_congr (fun n _ => by rw [hsame]) fun _ _ _ => rfl
  dsimp only
  rw [htotal, hreturn]
  refine if_congr ?_ rfl rfl
  rw [hsame]
  -- a credit note that names a return is for goods
  refine ⟨And.right, fun hcounted => ⟨?_, hcounted⟩⟩
  rcases note.property.reason_matches_return with ⟨hreason, -⟩ | ⟨-, hnoReturn⟩
  · exact hreason
  · rw [hreturn, hcounted.1] at hnoReturn
    cases hnoReturn

/-- A reversal adds to no credit. -/
theorem unreversedCredit_reverseSupplierCreditNote {req : ReverseSupplierCreditNote}
    (h : reverseSupplierCreditNote db req = .ok db') (r : ℕ) :
    db'.purchasing = db.purchasing ∧ unreversedCredit db' r ≤ unreversedCredit db r := by
  rcases reverseSupplierCreditNote_ok h with rfl | ⟨note, row, d, e, hnote, -, hsettled, hrow,
    hpost, rfl⟩
  · exact ⟨rfl, le_rfl⟩
  have hd := settleAll_frame hsettled
  have hframe := postJournal_frame hpost
  have hpurchasing : e.purchasing = db.purchasing := by rw [hframe, hd]
  have hnotes : e.payables.creditNotes
      = db.payables.creditNotes.set req.supplierCreditNoteId row := by rw [hframe, hd]
  have hreversals : e.payables.creditNoteReversals = db.payables.creditNoteReversals := by
    rw [hframe, hd]
  refine ⟨hpurchasing, ?_⟩
  unfold unreversedCredit
  refine sumWhere_withKeys_le ?_ fun i n n' hn hn' => ?_
  · show e.payables.creditNotes.length = _
    rw [hnotes, List.length_set]
  split
  · next hcounted =>
    -- what still counts is another credit note, as it was
    obtain ⟨hreason, hreturn, hnot⟩ := hcounted
    have hother : req.supplierCreditNoteId ≠ i := by
      rintro rfl
      exact hnot ⟨_, List.mem_append_right _ List.mem_cons_self, rfl⟩
    have hrow' : e.payables.creditNotes[i]? = some n' := hn'
    rw [hnotes, getElem?_set_of_some hnote, if_neg hother] at hrow'
    obtain rfl : n = n' := Option.some.inj (hn.symm.trans hrow')
    have hkept : ¬CreditNoteReversed db i := by
      rintro ⟨reversal, hmem, hid⟩
      exact hnot ⟨reversal, List.mem_append_left _ (hreversals ▸ hmem), hid⟩
    rw [if_pos ⟨hreason, hreturn, hkept⟩]
  · split
    · exact n.property.grand_total_pos.le
    · exact le_rfl

/-- A request whose credit notes are within their returns keeps the bound. -/
theorem CreditRequest.credit_le {req : CreditRequest} (h : req.exec db = .ok db')
    (hwithin : WithinReturn db req) (hdb : ∀ r, unreversedCredit db r ≤ returnValue db r) (r : ℕ) :
    unreversedCredit db' r ≤ returnValue db' r := by
  obtain ⟨d, hd, rfl⟩ := map_eq_ok.mp h
  change unreversedCredit d r ≤ returnValue d r
  have hvalue : ∀ {e : Db}, e.purchasing = db.purchasing → returnValue e r = returnValue db r := by
    intro e he
    unfold returnValue
    rw [he]
  cases req with
  | createPurchaseReturn req =>
    obtain ⟨⟨e, i⟩, he, rfl⟩ := map_eq_ok.mp hd
    obtain ⟨hpayables, hle⟩ := returnValue_createPurchaseReturn he r
    exact (unreversedCredit_congr hpayables r).trans_le ((hdb r).trans hle)
  | createSupplierCreditNote req =>
    obtain ⟨⟨e, i⟩, he, rfl⟩ := map_eq_ok.mp hd
    rcases createSupplierCreditNote_ok he with ⟨rfl, -⟩ | ⟨-, hnone, -⟩
    · exact hdb r
    obtain ⟨hpurchasing, hpos, hcredit⟩ := unreversedCredit_createSupplierCreditNote hnone he r
    rw [hcredit, hvalue hpurchasing]
    split
    · next hcounted => exact hwithin hnone r hcounted.1
    · rw [add_zero]
      exact hdb r
  | reverseSupplierCreditNote req =>
    obtain ⟨hpurchasing, hle⟩ := unreversedCredit_reverseSupplierCreditNote hd r
    rw [hvalue hpurchasing]
    exact hle.trans (hdb r)

end Steps

/-- **In a run in which every new credit note is within what the others have left of its
return**, the unreversed credit notes of a return never exceed its value; and any other new
credit note makes them exceed it. -/
theorem credit_within_return {db₀ : Db} (hdb₀ : ∀ r, unreversedCredit db₀ r ≤ returnValue db₀ r) :
    (∀ db, Reaches CreditRequest.exec WithinReturn db₀ db →
      ∀ r, unreversedCredit db r ≤ returnValue db r) ∧
    ∀ db db' req, CreditRequest.exec req db = .ok db' → ¬WithinReturn db req →
      (∀ v ∈ db.payables.creditNoteReversals,
        v.supplierCreditNoteId < db.payables.creditNotes.length) →
      ∃ r, returnValue db' r < unreversedCredit db' r := by
  constructor
  · intro db h
    exact h.invariant hdb₀ fun _ _ _ hdb hwithin hdone => CreditRequest.credit_le hdone hwithin hdb
  · intro db db' req h hbeyond hreversals
    obtain ⟨d, hd, rfl⟩ := map_eq_ok.mp h
    cases req with
    | createPurchaseReturn req => exact absurd trivial hbeyond
    | reverseSupplierCreditNote req => exact absurd trivial hbeyond
    | createSupplierCreditNote req =>
      obtain ⟨⟨e, i⟩, he, rfl⟩ := map_eq_ok.mp hd
      -- a credit note beyond what is left of its return, which was not reversed before it was made
      unfold WithinReturn at hbeyond
      push Not at hbeyond
      obtain ⟨hnone, r, hr, hlt⟩ := hbeyond
      obtain ⟨hpurchasing, -, hcredit⟩ := unreversedCredit_createSupplierCreditNote hnone he r
      have hfresh : ¬CreditNoteReversed db db.payables.creditNotes.length := by
        rintro ⟨v, hv, hid⟩
        exact absurd (hreversals v hv) (hid ▸ lt_irrefl _)
      refine ⟨r, ?_⟩
      show returnValue e r < unreversedCredit e r
      rw [hcredit, if_pos ⟨hr, hfresh⟩]
      unfold returnValue at hlt ⊢
      rw [hpurchasing]
      exact hlt

/-- Ten apples have been invoiced, and two of them sent back. -/
def applesSentBack : Db where
  master := { stores := [⟨true, none⟩], suppliers := [⟨true, none⟩] }
  stock := {
    products := [
      ⟨{ storeId := 0, sku := "APPLE", categoryId := none, currentPrice := 2, currentCost := 1
         taxRateId := none, currentQtyOnHand := 8, allowNegativeStock := false
         isActive := true }, by decide +kernel⟩] }
  purchasing := {
    orders := [⟨0, 0, "order-1", .received, 0, none⟩]
    orderItems := [⟨⟨0, 0, 10, 10, 10, 1⟩, by decide +kernel⟩]
    returns := [⟨0, 0, "return-1", 1⟩]
    returnItems := [⟨⟨0, 0, 2, 1⟩, by decide +kernel⟩] }
  payables := {
    invoices := [
      ⟨{ storeId := 0, supplierId := 0, purchaseOrderId := some 0, invoiceNumber := "A-1"
         invoiceDate := 0, dueDate := 0, status := .posted, subtotal := 10, discountTotal := 0
         taxTotal := 0, grandTotal := 10, amountPaid := 0, amountCredited := 0
         clientTransactionId := "invoice-1", postedAt := some 0, voidedAt := none },
        by decide +kernel⟩] }

/-- A credit of two for the two apples that have been returned, under a number and a client's key.
-/
def creditApples (creditNumber clientTransactionId : String) : CreateSupplierCreditNote where
  storeId := 0
  supplierId := 0
  creditNumber := creditNumber
  creditDate := 1
  reason := .goodsReturn
  lines := [{ description := "apples", amount := 2 }]
  allocations := [⟨0, 2⟩]
  clientTransactionId := clientTransactionId
  callerStoreId := none
  purchaseReturnId := some 0

def applesCredited : Db :=
  value (CreditRequest.exec (.createSupplierCreditNote (creditApples "C-1" "credit-1"))
    applesSentBack) (by decide +kernel)

/-- One credit note for the two apples. -/
theorem credit_within_return_apples : unreversedCredit applesCredited 0 = 2 ∧
    unreversedCredit applesCredited 0 ≤ returnValue applesCredited 0 := by
  have hnone : ∀ r, unreversedCredit applesSentBack r ≤ returnValue applesSentBack r := by
    intro r
    refine le_of_eq_of_le (b := 0) rfl (sumWhere_nonneg fun i _ _ => ?_)
    exact mul_nonneg i.property.qty_pos.le i.property.unit_cost_nonneg
  refine ⟨by decide +kernel, (credit_within_return hnone).1 applesCredited ?_ 0⟩
  refine .next (r := .createSupplierCreditNote (creditApples "C-1" "credit-1")) .start ?_
    (eq_ok_value _ _)
  rintro - r ⟨⟩
  decide +kernel

def applesCreditedTwice : Db :=
  value (CreditRequest.exec (.createSupplierCreditNote (creditApples "C-2" "credit-2"))
    applesCredited) (by decide +kernel)

/-- Two credit notes, of two each, for two apples that were worth two. -/
theorem credit_exceeds_return :
    ¬∀ db, Reaches CreditRequest.exec (fun _ _ => True) applesSentBack db →
      ∀ r, unreversedCredit db r ≤ returnValue db r := by
  intro hall
  have hcredited : Reaches CreditRequest.exec (fun _ _ => True) applesSentBack applesCredited :=
    .next (r := .createSupplierCreditNote (creditApples "C-1" "credit-1")) .start trivial
      (eq_ok_value _ _)
  have htwice := hall applesCreditedTwice
    (.next (r := .createSupplierCreditNote (creditApples "C-2" "credit-2")) hcredited trivial
      (eq_ok_value _ _)) 0
  have hbeyond : returnValue applesCreditedTwice 0 < unreversedCredit applesCreditedTwice 0 := by
    decide +kernel
  exact absurd htwice (not_le.mpr hbeyond)

end GroceryErp
