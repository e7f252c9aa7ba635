import GroceryErp.Lib.Runs
import GroceryErp.Payables.CreditNotes
import GroceryErp.Payables.InvoiceSteps

/-!
# What is settled of an invoice

Payments and credit notes are documents with allocations to invoices; reversing one takes
all its allocations back.  An invoice keeps what is paid and what is credited in columns of
its own, and a status that follows them.

## Main definitions

* `SettlementBook` — documents of one kind, their allocations, and those that are reversed.
* `SettlementWay`, `SettlementWay.book` — the two kinds.
* `SettlementRequest` — payments, credit notes, their reversals, and voids.
* `SettlementStep` — what a request does to invoices and books.
* `SettlementInOrder` — the columns are the sums of the unreversed allocations.

## Main results

* `exec_settlementStep` — every request takes one step.
* `invoices_settled` — what every run keeps of the columns, the status and the voided
  invoices.

## References

`backend/app/modules/ap/service.py`.
-/

namespace GroceryErp

open Decimal Outcome Rows Runs

/-! ### Books -/

/-- What a document settles of an invoice, the common form of the allocations of payments and of
credit notes. -/
structure Allocation where
  documentId : ℕ
  purchaseInvoiceId : ℕ
  amount : ℚ
  deriving DecidableEq

/-- Documents of one kind: how many there are, what they settle, and which are reversed. -/
structure SettlementBook where
  documents : ℕ
  allocations : List Allocation
  reversed : List ℕ

/-- What some inputs allocate to an invoice, over all of them that name it. -/
def allocatedTo (inputs : List PaymentAllocationInput) (purchaseInvoiceId : ℕ) : ℚ :=
  sumWhere (·.purchaseInvoiceId = purchaseInvoiceId) PaymentAllocationInput.amount inputs

namespace SettlementBook

variable (b : SettlementBook) (inputs : List PaymentAllocationInput) (d i : ℕ)

/-- The unreversed allocations to an invoice, which is what its column should say. -/
def unreversed : ℚ :=
  sumWhere (fun a => a.purchaseInvoiceId = i ∧ a.documentId ∉ b.reversed) Allocation.amount
    b.allocations

/-- Every allocation to the invoice is reversed, as must be before the invoice is voided. -/
def Clear : Prop := ∀ a ∈ b.allocations, a.purchaseInvoiceId = i → a.documentId ∈ b.reversed

/-- The allocations to an invoice, reversed or not. -/
def toward : List Allocation := b.allocations.filter (·.purchaseInvoiceId = i)

/-- The allocations of a document, as they were asked for. -/
def inputsOf : List PaymentAllocationInput :=
  (b.allocations.filter (·.documentId = d)).map fun a => ⟨a.purchaseInvoiceId, a.amount⟩

/-- One more document, with its allocations to invoices. -/
def record : SettlementBook where
  documents := b.documents + 1
  allocations :=
    b.allocations ++ inputs.map fun a => ⟨b.documents, a.purchaseInvoiceId, a.amount⟩
  reversed := b.reversed

/-- A document is reversed; its allocations stay in the book and no longer count. -/
def reverse : SettlementBook := { b with reversed := b.reversed ++ [d] }

/-- Amounts are positive and in cents, and of documents that are there. -/
structure Valid : Prop where
  positive : ∀ a ∈ b.allocations, 0 < a.amount
  cents : ∀ a ∈ b.allocations, OnGrid 2 a.amount
  known : ∀ a ∈ b.allocations, a.documentId < b.documents
  reversed : ∀ d ∈ b.reversed, d < b.documents

variable {b inputs d i}

theorem Valid.record (h : b.Valid) (hinputs : ∀ a ∈ inputs, 0 < a.amount ∧ OnGrid 2 a.amount) :
    (b.record inputs).Valid where
  positive a ha := by
    rcases List.mem_append.mp ha with ha | ha
    · exact h.positive a ha
    · obtain ⟨x, hx, rfl⟩ := List.mem_map.mp ha
      exact (hinputs x hx).1
  cents a ha := by
    rcases List.mem_append.mp ha with ha | ha
    · exact h.cents a ha
    · obtain ⟨x, hx, rfl⟩ := List.mem_map.mp ha
      exact (hinputs x hx).2
  known a ha := by
    rcases List.mem_append.mp ha with ha | ha
    · exact (h.known a ha).trans (Nat.lt_succ_self _)
    · obtain ⟨x, -, rfl⟩ := List.mem_map.mp ha
      exact Nat.lt_succ_self _
  reversed d hd := (h.reversed d hd).trans (Nat.lt_succ_self _)

theorem Valid.reverse (h : b.Valid) (hd : d < b.documents) : (b.reverse d).Valid where
  positive := h.positive
  cents := h.cents
  known := h.known
  reversed e he := by
    rcases List.mem_append.mp he with he | he
    · exact h.reversed e he
    · exact List.mem_singleton.mp he ▸ hd

theorem Valid.cents_unreversed (h : b.Valid) (i : ℕ) : OnGrid 2 (b.unreversed i) := by
  unfold unreversed sumWhere
  refine onGrid_sum _ fun x hx => ?_
  obtain ⟨a, ha, rfl⟩ := List.mem_map.mp hx
  exact h.cents a (List.mem_filter.mp ha).1

/-- Nothing is settled where everything is reversed, and nowhere else. -/
theorem Valid.unreversed_eq_zero (h : b.Valid) (i : ℕ) : b.unreversed i = 0 ↔ b.Clear i := by
  unfold unreversed
  rw [sumWhere_eq_zero_iff_of_pos fun a ha _ => h.positive a ha]
  constructor
  · intro hnone a ha hi
    by_contra hnot
    exact hnone a ha ⟨hi, hnot⟩
  · rintro hclear a ha ⟨hi, hnot⟩
    exact hnot (hclear a ha hi)

/-- A new document adds its allocations. -/
theorem Valid.unreversed_record (h : b.Valid) (inputs : List PaymentAllocationInput) (i : ℕ) :
    (b.record inputs).unreversed i = b.unreversed i + allocatedTo inputs i := by
  have hfresh : b.documents ∉ b.reversed := fun hd => lt_irrefl _ (h.reversed _ hd)
  unfold unreversed allocatedTo
  refine (sumWhere_append _ _ b.allocations _).trans ?_
  rw [sumWhere_map]
  congr 1
  refine sumWhere_congr (fun a _ => ?_) fun _ _ _ => rfl
  exact and_iff_left hfresh

/-- A reversal takes the allocations of its document back. -/
theorem unreversed_reverse (hd : d ∉ b.reversed) (i : ℕ) :
    (b.reverse d).unreversed i = b.unreversed i - allocatedTo (b.inputsOf d) i := by
  have hsplit : b.unreversed i = (b.reverse d).unreversed i
      + sumWhere (fun a => a.purchaseInvoiceId = i ∧ a.documentId = d) Allocation.amount
        b.allocations := by
    refine sumWhere_or (fun a _ => ?_) fun a _ hkept => ?_
    · simp only [SettlementBook.reverse, List.mem_append, List.mem_singleton, not_or]
      by_cases had : a.documentId = d
      · simp [had, hd]
      · simp [had]
    · rintro ⟨-, had⟩
      exact hkept.2 (List.mem_append_right _ (List.mem_singleton.mpr had))
  have hof : allocatedTo (b.inputsOf d) i
      = sumWhere (fun a => a.purchaseInvoiceId = i ∧ a.documentId = d) Allocation.amount
        b.allocations := by
    unfold allocatedTo inputsOf
    rw [sumWhere_map, sumWhere_filter]
  rw [hof, hsplit, add_sub_cancel_right]

theorem Clear.record (h : b.Clear i) (hi : i ∉ inputs.map (·.purchaseInvoiceId)) :
    (b.record inputs).Clear i := by
  intro a ha hai
  rcases List.mem_append.mp ha with ha | ha
  · exact h a ha hai
  · obtain ⟨x, hx, rfl⟩ := List.mem_map.mp ha
    exact absurd (List.mem_map.mpr ⟨x, hx, hai⟩) hi

theorem Clear.reverse (h : b.Clear i) (d : ℕ) : (b.reverse d).Clear i :=
  fun a ha hai => List.mem_append_left _ (h a ha hai)

/-- A document that is not reversed settles nothing of an invoice with nothing settled. -/
theorem Clear.not_mem_inputsOf (h : b.Clear i) (hd : d ∉ b.reversed) :
    i ∉ (b.inputsOf d).map (·.purchaseInvoiceId) := by
  intro hi
  obtain ⟨x, hx, hxi⟩ := List.mem_map.mp hi
  obtain ⟨a, ha, rfl⟩ := List.mem_map.mp hx
  obtain ⟨hmem, hdoc⟩ := List.mem_filter.mp ha
  exact hd (of_decide_eq_true hdoc ▸ h a hmem hxi)

theorem toward_record (hi : i ∉ inputs.map (·.purchaseInvoiceId)) :
    (b.record inputs).toward i = b.toward i := by
  unfold toward SettlementBook.record
  rw [List.filter_append]
  have hnone : (inputs.map fun a => (⟨b.documents, a.purchaseInvoiceId, a.amount⟩ :
      Allocation)).filter (·.purchaseInvoiceId = i) = [] := by
    rw [List.filter_eq_nil_iff]
    intro a ha hai
    obtain ⟨x, hx, rfl⟩ := List.mem_map.mp ha
    exact hi (List.mem_map.mpr ⟨x, hx, of_decide_eq_true hai⟩)
  rw [hnone, List.append_nil]

end SettlementBook

theorem allocatedTo_of_not_mem {inputs : List PaymentAllocationInput} {i : ℕ}
    (hi : i ∉ inputs.map (·.purchaseInvoiceId)) : allocatedTo inputs i = 0 :=
  sumWhere_of_notMem _ hi

theorem allocatedTo_append (inputs more : List PaymentAllocationInput) (i : ℕ) :
    allocatedTo (inputs ++ more) i = allocatedTo inputs i + allocatedTo more i :=
  sumWhere_append _ _ inputs more

theorem allocatedTo_singleton (a : PaymentAllocationInput) (i : ℕ) :
    allocatedTo [a] i = if a.purchaseInvoiceId = i then a.amount else 0 :=
  sumWhere_singleton _ _ a

theorem allocatedTo_back (inputs : List PaymentAllocationInput) (i : ℕ) :
    allocatedTo (inputs.map (·.back)) i = -allocatedTo inputs i := by
  unfold allocatedTo sumWhere
  rw [List.sum_neg, List.filter_map, List.map_map, List.map_map]
  rfl

/-! ### The two ways -/

/-- An invoice is settled by payments and by credit notes. -/
inductive SettlementWay
  | payment
  | creditNote
  deriving DecidableEq

namespace SettlementWay

/-- What an allocation of either kind does to its invoice: it adds to the paid or to the credited
amount. -/
def settle : SettlementWay → PurchaseInvoice → ℚ → PurchaseInvoice
  | payment => PurchaseInvoice.pay
  | creditNote => PurchaseInvoice.credit

/-- The column that keeps what is settled in one way: paid by payments, credited by credit notes. -/
def settled : SettlementWay → PurchaseInvoice → ℚ
  | payment => PurchaseInvoice.amountPaid
  | creditNote => PurchaseInvoice.amountCredited

/-- The documents of one way, as the tables have them. -/
def book (way : SettlementWay) (db : Db) : SettlementBook :=
  match way with
  | payment =>
    { documents := db.payables.payments.length
      allocations := db.payables.paymentAllocations.map fun a =>
        ⟨a.val.supplierPaymentId, a.val.purchaseInvoiceId, a.val.amount⟩
      reversed := db.payables.paymentReversals.map (·.supplierPaymentId) }
  | creditNote =>
    { documents := db.payables.creditNotes.length
      allocations := db.payables.creditAllocations.map fun a =>
        ⟨a.val.supplierCreditNoteId, a.val.purchaseInvoiceId, a.val.amount⟩
      reversed := db.payables.creditNoteReversals.map (·.supplierCreditNoteId) }

variable (way : SettlementWay) (invoice : PurchaseInvoice) (x y : ℚ)

theorem settled_settle (other : SettlementWay) :
    other.settled (way.settle invoice x)
      = other.settled invoice + if other = way then x else 0 := by
  cases way <;> cases other <;>
    simp [settle, settled, PurchaseInvoice.pay, PurchaseInvoice.credit]

@[simp] theorem settled_recomputeStatus :
    way.settled invoice.recomputeStatus = way.settled invoice := by
  cases way <;> rfl

/-- One amount after the other, with the status recomputed each time, is both at once. -/
theorem settle_recomputeStatus :
    (way.settle (way.settle invoice x).recomputeStatus y).recomputeStatus
      = (way.settle invoice (x + y)).recomputeStatus := by
  have hboth : way.settle (way.settle invoice x) y = way.settle invoice (x + y) := by
    cases way <;> simp only [settle, PurchaseInvoice.pay, PurchaseInvoice.credit, add_assoc]
  rw [← hboth]
  cases way <;> rfl

end SettlementWay

/-- What is settled of an invoice is in cents. -/
def PurchaseInvoice.InCents (i : PurchaseInvoice) : Prop :=
  ∀ way : SettlementWay, OnGrid 2 (way.settled i)

theorem PurchaseInvoice.InCents.settle {i : PurchaseInvoice} (h : i.InCents)
    (way : SettlementWay) {x : ℚ} (hx : OnGrid 2 x) :
    (way.settle i x).recomputeStatus.InCents := by
  intro other
  rw [SettlementWay.settled_recomputeStatus, SettlementWay.settled_settle]
  split
  · exact (h other).add hx
  · exact (h other).add (onGrid_zero 2)

theorem PurchaseInvoice.InCents.storedSettled {i : PurchaseInvoice} (h : i.InCents) :
    i.storedSettled = i := by
  unfold PurchaseInvoice.storedSettled
  have hpaid : numeric 2 i.amountPaid = i.amountPaid := numeric_eq_self (h .payment)
  have hcredited : numeric 2 i.amountCredited = i.amountCredited :=
    numeric_eq_self (h .creditNote)
  rw [hpaid, hcredited]

/-- What has become of the invoices that some inputs are allocated to. -/
def Settled (way : SettlementWay) (inputs : List PaymentAllocationInput) :
    List (Row PurchaseInvoice) → List (Row PurchaseInvoice) → Prop :=
  Overwritten fun i old new =>
    (i ∉ inputs.map (·.purchaseInvoiceId) ∧ new = old) ∨
    (i ∈ inputs.map (·.purchaseInvoiceId) ∧
      new.val = (way.settle old.val (allocatedTo inputs i)).recomputeStatus)

/-- Each invoice gets the sum of what is allocated to it. -/
theorem settleAll_ok (way : SettlementWay) {inputs : List PaymentAllocationInput} {db db' : Db}
    (h : inputs.foldlM (settle way.settle) db = .ok db')
    (hinvoices : ∀ i ∈ db.payables.invoices, i.val.InCents)
    (hinputs : ∀ a ∈ inputs, OnGrid 2 a.amount) :
    Settled way inputs db.payables.invoices db'.payables.invoices := by
  suffices hall : (∀ i ∈ db'.payables.invoices, i.val.InCents) ∧
      Settled way inputs db.payables.invoices db'.payables.invoices from hall.2
  refine foldlM_induct (fun done t => (∀ i ∈ t.payables.invoices, i.val.InCents) ∧
    Settled way done db.payables.invoices t.payables.invoices) h ?_ ?_
  · exact ⟨hinvoices, .refl _ fun i a _ => .inl ⟨List.not_mem_nil, rfl⟩⟩
  rintro done a rest t t' rfl ⟨hcents, ht⟩ hstep
  obtain ⟨row, new, hrow, hnew, rfl⟩ := settle_eq_ok.mp hstep
  have hnewCents := (hcents row (mem_of_row hrow)).settle way (hinputs a (by simp))
  rw [hnewCents.storedSettled] at hnew
  refine ⟨forall_mem_set hcents (hnew ▸ hnewCents), Overwritten.set ht hrow ?_ ?_⟩
  · -- the sum so far, and one more amount
    intro old hold
    refine .inr ⟨by simp, ?_⟩
    rw [hnew, allocatedTo_append, allocatedTo_singleton, if_pos rfl]
    rcases hold with ⟨hnot, rfl⟩ | ⟨-, hval⟩
    · rw [allocatedTo_of_not_mem hnot, zero_add]
    · rw [hval, SettlementWay.settle_recomputeStatus]
  · intro i old kept hi hold
    have hne : a.purchaseInvoiceId ≠ i := Ne.symm hi
    rw [List.map_append, List.mem_append, List.map_singleton, List.mem_singleton,
      allocatedTo_append, allocatedTo_singleton, if_neg hne, add_zero]
    rcases hold with ⟨hnot, hsame⟩ | ⟨hmem, hval⟩
    · exact .inl ⟨fun hor => hor.elim hnot hi, hsame⟩
    · exact .inr ⟨.inl hmem, hval⟩

/-! ### The requests -/

/-- Payments, credit notes, their reversals, and voids: all the requests that change what is settled
of an invoice. -/
inductive SettlementRequest
  | recordSupplierPayment (req : RecordSupplierPayment)
  | createSupplierCreditNote (req : CreateSupplierCreditNote)
  | reverseSupplierPayment (req : ReverseSupplierPayment)
  | reverseSupplierCreditNote (req : ReverseSupplierCreditNote)
  | voidPurchaseInvoice (req : VoidPurchaseInvoice)

namespace SettlementRequest

def run (db : Db) : SettlementRequest → Result Db
  | recordSupplierPayment req => Prod.fst <$> GroceryErp.recordSupplierPayment db req
  | createSupplierCreditNote req => Prod.fst <$> GroceryErp.createSupplierCreditNote db req
  | reverseSupplierPayment req => GroceryErp.reverseSupplierPayment db req
  | reverseSupplierCreditNote req => GroceryErp.reverseSupplierCreditNote db req
  | voidPurchaseInvoice req => GroceryErp.voidPurchaseInvoice db req

/-- The request, and its commit, which rounds what the columns round. -/
def exec (r : SettlementRequest) (db : Db) : Result Db := Db.commit <$> r.run db

/-- The amounts that are allocated have at most two decimals. -/
def AtCents (_ : Db) : SettlementRequest → Prop
  | recordSupplierPayment req => ∀ a ∈ req.allocations, OnGrid 2 a.amount
  | createSupplierCreditNote req => ∀ a ∈ req.allocations, OnGrid 2 a.amount
  | reverseSupplierPayment _ | reverseSupplierCreditNote _ | voidPurchaseInvoice _ => True

instance decidableAtCents (db : Db) (r : SettlementRequest) : Decidable (r.AtCents db) :=
  match r with
  | recordSupplierPayment _ | createSupplierCreditNote _ => inferInstanceAs (Decidable (∀ _ ∈ _, _))
  | reverseSupplierPayment _ | reverseSupplierCreditNote _ | voidPurchaseInvoice _ => .isTrue trivial

end SettlementRequest

/-- The invoice is one on which something may be settled. -/
def Outstanding (db : Db) (i : ℕ) : Prop := ∃ invoice, db.payables.invoices[i]? = some invoice ∧
  (invoice.val.status = .posted ∨ invoice.val.status = .partiallyPaid)

/-- What a request does to the invoices and the books. -/
inductive SettlementStep (db db' : Db) : Prop
  | kept (h : db'.payables = db.payables)
  | recorded (way : SettlementWay) (inputs : List PaymentAllocationInput)
      (amounts : ∀ a ∈ inputs, 0 < a.amount ∧ OnGrid 2 a.amount)
      (outstanding : ∀ a ∈ inputs, Outstanding db a.purchaseInvoiceId)
      (books : ∀ other : SettlementWay,
        other.book db' = if other = way then (way.book db).record inputs else other.book db)
      (invoices : Settled way inputs db.payables.invoices db'.payables.invoices)
  | reversed (way : SettlementWay) (d : ℕ) (known : d < (way.book db).documents)
      (unreversed : d ∉ (way.book db).reversed)
      (books : ∀ other : SettlementWay,
        other.book db' = if other = way then (way.book db).reverse d else other.book db)
      (invoices : Settled way (((way.book db).inputsOf d).map (·.back)) db.payables.invoices
        db'.payables.invoices)
  | voided (i : ℕ) (row row' : Row PurchaseInvoice) (today : Date)
      (found : db.payables.invoices[i]? = some row)
      (status : row.val.status = .draft ∨ row.val.status = .posted)
      (written : row'.val = { row.val with status := .voided, voidedAt := some today })
      (books : ∀ way : SettlementWay, way.book db' = way.book db)
      (invoices : db'.payables.invoices = db.payables.invoices.set i row')

section Steps

variable {db db' : Db}

theorem inputsOf_payment (db : Db) (d : ℕ) :
    (SettlementWay.payment.book db).inputsOf d = paymentAllocationsOf db d := by
  unfold SettlementBook.inputsOf paymentAllocationsOf SettlementWay.book
  rw [List.filter_map, List.map_map]
  rfl

theorem inputsOf_creditNote (db : Db) (d : ℕ) :
    (SettlementWay.creditNote.book db).inputsOf d = creditAllocationsOf db d := by
  unfold SettlementBook.inputsOf creditAllocationsOf SettlementWay.book
  rw [List.filter_map, List.map_map]
  rfl

/-- The allocations of a document are in cents, and so is what they take back. -/
theorem SettlementBook.Valid.cents_back {b : SettlementBook} (h : b.Valid) (d : ℕ) :
    ∀ a ∈ (b.inputsOf d).map (·.back), OnGrid 2 a.amount := by
  intro a ha
  obtain ⟨x, hx, rfl⟩ := List.mem_map.mp ha
  obtain ⟨y, hy, rfl⟩ := List.mem_map.mp hx
  exact (h.cents y (List.mem_filter.mp hy).1).neg

theorem settlementStep_recordSupplierPayment {req : RecordSupplierPayment} {paymentId : ℕ}
    (hinvoices : ∀ i ∈ db.payables.invoices, i.val.InCents)
    (hcents : ∀ a ∈ req.allocations, OnGrid 2 a.amount)
    (h : recordSupplierPayment db req = .ok (db', paymentId)) : SettlementStep db db' := by
  rcases recordSupplierPayment_ok h with rfl | ⟨hinputs, -, hcheck, payment, rows, d, -, hrows, hd,
    hpost⟩
  · exact .kept rfl
  have hpayables : db'.payables = { db.payables with
      invoices := d.payables.invoices
      payments := db.payables.payments ++ [payment]
      paymentAllocations := db.payables.paymentAllocations ++ rows } := by
    rw [postJournalUnlessEmpty_frame hpost, settleAll_frame hd]
  refine .recorded .payment req.allocations
    (fun a ha => ⟨checkAllocationInputs_ok hinputs a ha, hcents a ha⟩)
    (checkAllocations_ok hcheck) (fun other => ?_) ?_
  · cases other with
    | creditNote =>
      rw [if_neg (by decide)]
      simp only [SettlementWay.book, hpayables]
    | payment =>
      -- with amounts in cents the stored allocations are those of the request
      have hstored : rows.map (fun a => (⟨a.val.supplierPaymentId, a.val.purchaseInvoiceId,
          a.val.amount⟩ : Allocation)) = req.allocations.map fun a =>
            ⟨db.payables.payments.length, a.purchaseInvoiceId, a.amount⟩ := by
        have hvals := congrArg (List.map fun a : SupplierPaymentAllocation =>
          (⟨a.supplierPaymentId, a.purchaseInvoiceId, a.amount⟩ : Allocation)) hrows
        rw [List.map_map, List.map_map] at hvals
        refine hvals.trans (List.map_congr_left fun a ha => ?_)
        simp only [Function.comp_apply, numeric_eq_self (hcents a ha)]
      simp only [SettlementWay.book, SettlementBook.record, hpayables, if_pos,
        List.length_append, List.length_singleton, List.map_append, hstored]
  · rw [hpayables]
    exact settleAll_ok .payment hd hinvoices hcents

theorem settlementStep_createSupplierCreditNote {req : CreateSupplierCreditNote}
    {creditNoteId : ℕ} (hinvoices : ∀ i ∈ db.payables.invoices, i.val.InCents)
    (hcents : ∀ a ∈ req.allocations, OnGrid 2 a.amount)
    (h : createSupplierCreditNote db req = .ok (db', creditNoteId)) : SettlementStep db db' := by
  rcases createSupplierCreditNote_ok h with ⟨rfl, -⟩ | ⟨hcheck, -, hplan, note, lines, rows, d, -,
    -, hrows, hd, hpost⟩
  · exact .kept rfl
  have hpayables : db'.payables = { db.payables with
      invoices := d.payables.invoices
      creditNotes := db.payables.creditNotes ++ [note]
      creditNoteLines := db.payables.creditNoteLines ++ lines
      creditAllocations := db.payables.creditAllocations ++ rows } := by
    rw [postJournalUnlessEmpty_frame hpost, settleAll_frame hd]
  have hinputs := checkCreditNoteInputs_ok hcheck
  refine .recorded .creditNote req.allocations
    (fun a ha => ⟨checkAllocationInputs_ok hinputs a ha, hcents a ha⟩)
    (checkAllocations_ok (planCreditNote_ok hplan).2) (fun other => ?_) ?_
  · cases other with
    | payment =>
      rw [if_neg (by decide)]
      simp only [SettlementWay.book, hpayables]
    | creditNote =>
      -- with amounts in cents the stored allocations are those of the request
      have hstored : rows.map (fun a => (⟨a.val.supplierCreditNoteId, a.val.purchaseInvoiceId,
          a.val.amount⟩ : Allocation)) = req.allocations.map fun a =>
            ⟨db.payables.creditNotes.length, a.purchaseInvoiceId, a.amount⟩ := by
        have hvals := congrArg (List.map fun a : SupplierCreditAllocation =>
          (⟨a.supplierCreditNoteId, a.purchaseInvoiceId, a.amount⟩ : Allocation)) hrows
        rw [List.map_map, List.map_map] at hvals
        refine hvals.trans (List.map_congr_left fun a ha => ?_)
        simp only [Function.comp_apply, numeric_eq_self (hcents a ha)]
      simp only [SettlementWay.book, SettlementBook.record, hpayables, if_pos,
        List.length_append, List.length_singleton, List.map_append, hstored]
  · rw [hpayables]
    exact settleAll_ok .creditNote hd hinvoices hcents

theorem settlementStep_reverseSupplierPayment {req : ReverseSupplierPayment}
    (hinvoices : ∀ i ∈ db.payables.invoices, i.val.InCents)
    (hbook : (SettlementWay.payment.book db).Valid)
    (h : reverseSupplierPayment db req = .ok db') : SettlementStep db db' := by
  rcases reverseSupplierPayment_ok h with rfl | ⟨payment, d, e, hpayment, hnew, hd, hpost, rfl⟩
  · exact .kept rfl
  have hpayables : e.payables = { db.payables with invoices := d.payables.invoices } := by
    rw [postJournal_frame hpost, settleAll_frame hd]
  rw [← inputsOf_payment] at hd
  refine .reversed .payment req.supplierPaymentId (List.getElem?_eq_some_iff.mp hpayment).1 ?_
    (fun other => ?_) ?_
  · intro hmem
    obtain ⟨r, hr, hri⟩ := List.mem_map.mp hmem
    exact hnew ⟨r, hr, hri⟩
  · cases other <;>
      simp [SettlementWay.book, SettlementBook.reverse, hpayables]
  · have hsettled := settleAll_ok .payment hd hinvoices (hbook.cents_back _)
    rw [hpayables]
    exact hsettled

theorem settlementStep_reverseSupplierCreditNote {req : ReverseSupplierCreditNote}
    (hinvoices : ∀ i ∈ db.payables.invoices, i.val.InCents)
    (hbook : (SettlementWay.creditNote.book db).Valid)
    (h : reverseSupplierCreditNote db req = .ok db') : SettlementStep db db' := by
  rcases reverseSupplierCreditNote_ok h with rfl | ⟨note, row, d, e, hnote, hnew, hd, -, hpost, rfl⟩
  · exact .kept rfl
  have hpayables : e.payables = { db.payables with
      invoices := d.payables.invoices
      creditNotes := db.payables.creditNotes.set req.supplierCreditNoteId row } := by
    rw [postJournal_frame hpost, settleAll_frame hd]
  rw [← inputsOf_creditNote] at hd
  refine .reversed .creditNote req.supplierCreditNoteId (List.getElem?_eq_some_iff.mp hnote).1 ?_
    (fun other => ?_) ?_
  · intro hmem
    obtain ⟨r, hr, hri⟩ := List.mem_map.mp hmem
    exact hnew ⟨r, hr, hri⟩
  · cases other <;>
      simp [SettlementWay.book, SettlementBook.reverse, hpayables]
  · have hsettled := settleAll_ok .creditNote hd hinvoices (hbook.cents_back _)
    rw [hpayables]
    exact hsettled

theorem settlementStep_voidPurchaseInvoice {req : VoidPurchaseInvoice}
    (h : voidPurchaseInvoice db req = .ok db') : SettlementStep db db' := by
  rcases voidPurchaseInvoice_steps h with rfl | ⟨invoice, hload, hcases⟩
  · exact .kept rfl
  obtain ⟨hinvoice, hstatus⟩ := loadForVoid_ok hload
  rcases hcases with ⟨-, plan, -, hfinish⟩ | ⟨-, hwrite⟩
  · obtain ⟨items, d, row, voided, -, hpost, hrow, hvoided, rfl⟩ := finishVoid_ok hfinish
    obtain rfl : invoice = row := Option.some.inj (hinvoice.symm.trans hrow)
    have hpayables : d.payables = db.payables := by rw [postJournalUnlessEmpty_frame hpost]
    refine .voided req.purchaseInvoiceId invoice voided req.today hrow hstatus hvoided
      (fun way => ?_) rfl
    cases way <;> simp [SettlementWay.book, hpayables]
  · obtain ⟨row, voided, hrow, hvoided, rfl⟩ := writeVoided_eq_ok.mp hwrite
    obtain rfl : invoice = row := Option.some.inj (hinvoice.symm.trans hrow)
    refine .voided req.purchaseInvoiceId invoice voided req.today hrow hstatus hvoided
      (fun way => ?_) rfl
    cases way <;> rfl

/-- A commit keeps the payables, as all of their amounts are rounded when they are written. -/
theorem SettlementStep.commit (h : SettlementStep db db') : SettlementStep db db'.commit := by
  cases h with
  | kept h => exact .kept h
  | recorded way inputs amounts outstanding books invoices =>
    exact .recorded way inputs amounts outstanding books invoices
  | reversed way d known unreversed books invoices =>
    exact .reversed way d known unreversed books invoices
  | voided i row row' today found status written books invoices =>
    exact .voided i row row' today found status written books invoices

/-- Every request takes one step: it settles nothing, it records a document, or it takes one back.
-/
theorem exec_settlementStep {r : SettlementRequest}
    (hinvoices : ∀ i ∈ db.payables.invoices, i.val.InCents)
    (hbooks : ∀ way : SettlementWay, (way.book db).Valid) (hcents : r.AtCents db)
    (h : r.exec db = .ok db') : SettlementStep db db' := by
  obtain ⟨d, hd, rfl⟩ := map_eq_ok.mp h
  apply SettlementStep.commit
  cases r with
  | recordSupplierPayment req =>
    obtain ⟨⟨e, i⟩, he, rfl⟩ := map_eq_ok.mp hd
    exact settlementStep_recordSupplierPayment hinvoices hcents he
  | createSupplierCreditNote req =>
    obtain ⟨⟨e, i⟩, he, rfl⟩ := map_eq_ok.mp hd
    exact settlementStep_createSupplierCreditNote hinvoices hcents he
  | reverseSupplierPayment req =>
    exact settlementStep_reverseSupplierPayment hinvoices (hbooks .payment) hd
  | reverseSupplierCreditNote req =>
    exact settlementStep_reverseSupplierCreditNote hinvoices (hbooks .creditNote) hd
  | voidPurchaseInvoice req => exact settlementStep_voidPurchaseInvoice hd

end Steps

/-! ### What every run keeps -/

/-- The columns of an invoice are the sums of its unreversed allocations, and its status
follows them until it is voided. -/
structure InvoiceFollows (db : Db) (i : ℕ) (invoice : PurchaseInvoice) : Prop where
  settled : ∀ way : SettlementWay, way.settled invoice = (way.book db).unreversed i
  status : invoice.status = invoice.recomputeStatus.status ∨
    (invoice.status = .voided ∧ ∀ way : SettlementWay, (way.book db).Clear i)

/-- The books are in order, and every invoice follows them. -/
structure SettlementInOrder (db : Db) : Prop where
  books : ∀ way : SettlementWay, (way.book db).Valid
  totals : ∀ i ∈ db.payables.invoices, 0 < i.val.grandTotal
  invoices : ∀ (i : ℕ) (invoice : Row PurchaseInvoice),
    db.payables.invoices[i]? = some invoice → InvoiceFollows db i invoice.val

section Runs

variable {db db' : Db}

theorem SettlementInOrder.inCents (h : SettlementInOrder db) :
    ∀ i ∈ db.payables.invoices, i.val.InCents := by
  intro invoice hinvoice way
  obtain ⟨i, hi⟩ := List.getElem?_of_mem hinvoice
  rw [(h.invoices i invoice hi).settled way]
  exact (h.books way).cents_unreversed i

/-- An invoice of which something is settled in one more way. -/
theorem InvoiceFollows.settle {i : ℕ} {old new : PurchaseInvoice} {way : SettlementWay} {x : ℚ}
    (h : InvoiceFollows db i old) (hnew : new = (way.settle old x).recomputeStatus)
    (hway : (way.book db').unreversed i = (way.book db).unreversed i + x)
    (hothers : ∀ other : SettlementWay, other ≠ way → other.book db' = other.book db) :
    InvoiceFollows db' i new := by
  subst hnew
  refine ⟨fun other => ?_, .inl ?_⟩
  · rw [SettlementWay.settled_recomputeStatus, SettlementWay.settled_settle, h.settled]
    by_cases hother : other = way
    · rw [if_pos hother, hother, hway]
    · rw [if_neg hother, hothers other hother, add_zero]
  · rfl

/-- An invoice of which nothing more is settled, and nothing taken back. -/
theorem InvoiceFollows.untouched {i : ℕ} {invoice : PurchaseInvoice}
    (h : InvoiceFollows db i invoice)
    (hsums : ∀ way : SettlementWay, (way.book db').unreversed i = (way.book db).unreversed i)
    (hclear : ∀ way : SettlementWay, (way.book db).Clear i → (way.book db').Clear i) :
    InvoiceFollows db' i invoice :=
  ⟨fun way => (h.settled way).trans (hsums way).symm,
    h.status.imp_right (And.imp_right fun hall way => hclear way (hall way))⟩

theorem recomputeStatus_status_ne_voided (i : PurchaseInvoice) :
    i.recomputeStatus.status ≠ .voided := by
  unfold PurchaseInvoice.recomputeStatus
  dsimp only
  split_ifs <;> exact fun h => nomatch h

theorem recomputeStatus_eq_paid (i : PurchaseInvoice) :
    i.recomputeStatus.status = .paid ↔ i.grandTotal ≤ i.amountPaid + i.amountCredited := by
  unfold PurchaseInvoice.recomputeStatus
  dsimp only
  split_ifs with hfull hsome <;> simp [hfull]

theorem recomputeStatus_eq_partiallyPaid (i : PurchaseInvoice) :
    i.recomputeStatus.status = .partiallyPaid ↔
      0 < i.amountPaid + i.amountCredited ∧ i.amountPaid + i.amountCredited < i.grandTotal := by
  unfold PurchaseInvoice.recomputeStatus
  dsimp only
  split_ifs with hfull hsome
  · simp [not_lt.mpr hfull]
  · simp [hsome, not_le.mp hfull]
  · simp [hsome]

theorem recomputeStatus_eq_posted {i : PurchaseInvoice}
    (hnonneg : 0 ≤ i.amountPaid + i.amountCredited) (htotal : 0 < i.grandTotal) :
    i.recomputeStatus.status = .posted ↔ i.amountPaid + i.amountCredited = 0 := by
  unfold PurchaseInvoice.recomputeStatus
  dsimp only
  split_ifs with hfull hsome
  · simp [(htotal.trans_le hfull).ne']
  · simp [hsome.ne']
  · simp [le_antisymm (not_lt.mp hsome) hnonneg]

/-- Nothing is settled of an invoice that is a draft or posted. -/
theorem InvoiceFollows.clear {i : ℕ} {invoice : Row PurchaseInvoice}
    (h : InvoiceFollows db i invoice.val) (hbooks : ∀ way : SettlementWay, (way.book db).Valid)
    (hstatus : invoice.val.status = .draft ∨ invoice.val.status = .posted)
    (way : SettlementWay) : (way.book db).Clear i := by
  rcases h.status with hfollows | ⟨hvoided, -⟩
  · have hnone : ¬0 < invoice.val.amountPaid + invoice.val.amountCredited := by
      intro hpos
      unfold PurchaseInvoice.recomputeStatus at hfollows
      dsimp only at hfollows
      rw [if_pos hpos] at hfollows
      rw [hfollows] at hstatus
      split at hstatus <;> rcases hstatus with hstatus | hstatus <;> cases hstatus
    have hpaid := invoice.property.amount_paid_nonneg
    have hcredited := invoice.property.amount_credited_nonneg
    rw [← (hbooks way).unreversed_eq_zero, ← h.settled way]
    cases way with
    | payment =>
      show invoice.val.amountPaid = 0
      linarith
    | creditNote =>
      show invoice.val.amountCredited = 0
      linarith
  · rw [hvoided] at hstatus
    rcases hstatus with hstatus | hstatus <;> cases hstatus

theorem Settled.totals {way : SettlementWay} {inputs : List PaymentAllocationInput}
    {rows rows' : List (Row PurchaseInvoice)} (h : Settled way inputs rows rows')
    (hrows : ∀ i ∈ rows, 0 < i.val.grandTotal) : ∀ i ∈ rows', 0 < i.val.grandTotal := by
  refine h.forall_mem hrows ?_
  rintro i old new hold (⟨-, rfl⟩ | ⟨-, hnew⟩)
  · exact hold
  · rw [hnew]
    cases way <;> exact hold

/-- **Every request keeps the books and the invoices in order.** -/
theorem SettlementInOrder.step (h : SettlementInOrder db) (hstep : SettlementStep db db') :
    SettlementInOrder db' := by
  cases hstep with
  -- nothing is settled
  | kept hkept =>
    have hbooks : ∀ way : SettlementWay, way.book db' = way.book db := fun way => by
      cases way <;> simp only [SettlementWay.book, hkept]
    refine ⟨fun way => hbooks way ▸ h.books way, hkept ▸ h.totals, fun i invoice hi => ?_⟩
    rw [hkept] at hi
    exact (h.invoices i invoice hi).untouched (fun way => by rw [hbooks]) fun way => by
      rw [hbooks]
      exact id
  | recorded way inputs amounts outstanding books invoices =>
    refine ⟨fun other => ?_, invoices.totals h.totals, fun i new hnew => ?_⟩
    · rw [books]
      split
      · exact (h.books way).record amounts
      · exact h.books other
    -- an invoice that is allocated to moves with the book of the way, and any other stays
    obtain ⟨old, hold, ⟨hnot, rfl⟩ | ⟨hmem, hval⟩⟩ := invoices.row hnew
    · refine (h.invoices i new hold).untouched (fun other => ?_) fun other hclear => ?_
      · rw [books]
        split
        · next hother =>
          rw [(h.books way).unreversed_record, allocatedTo_of_not_mem hnot, add_zero, hother]
        · rfl
      · rw [books]
        split
        · next hother => exact (hother ▸ hclear).record hnot
        · exact hclear
    · refine (h.invoices i old hold).settle hval ?_ fun other hother => ?_
      · rw [books, if_pos rfl, (h.books way).unreversed_record]
      · rw [books, if_neg hother]
  | reversed way d known unreversed books invoices =>
    refine ⟨fun other => ?_, invoices.totals h.totals, fun i new hnew => ?_⟩
    · rw [books]
      split
      · exact (h.books way).reverse known
      · exact h.books other
    -- an invoice that had an allocation taken back, and the others, for which nothing was taken
    obtain ⟨old, hold, ⟨hnot, rfl⟩ | ⟨hmem, hval⟩⟩ := invoices.row hnew
    · refine (h.invoices i new hold).untouched (fun other => ?_) fun other hclear => ?_
      · rw [books]
        split
        · next hother =>
          have hback := allocatedTo_of_not_mem hnot
          rw [allocatedTo_back, neg_eq_zero] at hback
          rw [SettlementBook.unreversed_reverse unreversed, hback, sub_zero, hother]
        · rfl
      · rw [books]
        split
        · next hother => exact (hother ▸ hclear).reverse d
        · exact hclear
    · refine (h.invoices i old hold).settle hval ?_ fun other hother => ?_
      · rw [books, if_pos rfl, SettlementBook.unreversed_reverse unreversed, allocatedTo_back,
          sub_eq_add_neg]
      · rw [books, if_neg hother]
  | voided j row row' today found status written books invoices =>
    refine ⟨fun way => books way ▸ h.books way, ?_, fun i new hnew => ?_⟩
    · rw [invoices]
      exact forall_mem_set h.totals (by rw [written]; exact h.totals row (mem_of_row found))
    have hsame : ∀ old, InvoiceFollows db i old → InvoiceFollows db' i old := fun old hold =>
      hold.untouched (fun way => by rw [books]) fun way => by
        rw [books]
        exact id
    rw [invoices, getElem?_set_of_some found] at hnew
    split at hnew
    -- the invoice that is voided had nothing settled, and is asked for nothing from here on
    · next hji =>
      obtain rfl : row' = new := Option.some.inj hnew
      subst hji
      have hfollows := h.invoices j row found
      refine ⟨fun way => ?_, .inr ⟨by rw [written], fun way => ?_⟩⟩
      · rw [books, ← hfollows.settled way, written]
        cases way <;> rfl
      · rw [books]
        exact hfollows.clear h.books status way
    · exact hsame _ (h.invoices i new hnew)

/-- The invoice is voided, and what was ever allocated to it is what it was. -/
structure VoidedSince (db : Db) (i : ℕ) (db' : Db) : Prop where
  voided : ∃ invoice, db'.payables.invoices[i]? = some invoice ∧ invoice.val.status = .voided
  toward : ∀ way : SettlementWay, (way.book db').toward i = (way.book db).toward i

/-- A voided invoice stays voided, and no request allocates anything to it. -/
theorem VoidedSince.step {first : Db} {i : ℕ} (h : VoidedSince first i db)
    (horder : SettlementInOrder db) (hstep : SettlementStep db db') :
    VoidedSince first i db' := by
  obtain ⟨invoice, hinvoice, hvoided⟩ := h.voided
  -- a status that follows the books is never voided, so nothing is allocated to the invoice
  have hclear : ∀ way : SettlementWay, (way.book db).Clear i := by
    rcases (horder.invoices i invoice hinvoice).status with hfollows | ⟨-, hclear⟩
    · exact absurd (hfollows.symm.trans hvoided) (recomputeStatus_status_ne_voided _)
    · exact hclear
  have hstays : ∀ {way : SettlementWay} {inputs : List PaymentAllocationInput},
      i ∉ inputs.map (·.purchaseInvoiceId) →
      Settled way inputs db.payables.invoices db'.payables.invoices →
      ∃ invoice, db'.payables.invoices[i]? = some invoice ∧ invoice.val.status = .voided := by
    intro way inputs hnot hsettled
    obtain ⟨new, hnew, ⟨-, rfl⟩ | ⟨hmem, -⟩⟩ := hsettled.2 i invoice hinvoice
    · exact ⟨new, hnew, hvoided⟩
    · exact absurd hmem hnot
  cases hstep with
  | kept hkept =>
    refine ⟨⟨invoice, hkept ▸ hinvoice, hvoided⟩, fun way => ?_⟩
    rw [← h.toward way]
    cases way <;> simp only [SettlementWay.book, hkept]
  | recorded way inputs amounts outstanding books invoices =>
    -- allocations go to outstanding invoices only
    have hnot : i ∉ inputs.map (·.purchaseInvoiceId) := by
      intro hmem
      obtain ⟨a, ha, hai⟩ := List.mem_map.mp hmem
      obtain ⟨row, hrow, hout⟩ := outstanding a ha
      obtain rfl : invoice = row := Option.some.inj (hinvoice.symm.trans (hai ▸ hrow))
      rw [hvoided] at hout
      rcases hout with hout | hout <;> cases hout
    refine ⟨hstays hnot invoices, fun other => ?_⟩
    rw [← h.toward other, books]
    split
    · next hother => rw [SettlementBook.toward_record hnot, hother]
    · rfl
  | reversed way d known unreversed books invoices =>
    refine ⟨hstays ?_ invoices, fun other => ?_⟩
    · rw [List.map_map]
      exact (hclear way).not_mem_inputsOf unreversed
    rw [← h.toward other, books]
    split
    · next hother =>
      rw [hother]
      rfl
    · rfl
  | voided j row row' today found status written books invoices =>
    refine ⟨?_, fun way => by rw [books, h.toward]⟩
    rw [invoices, getElem?_set_of_some found]
    split
    · exact ⟨row', rfl, by rw [written]⟩
    · exact ⟨invoice, hinvoice, hvoided⟩

/-- What an invoice and the books say of each other. -/
structure SettledInvoice (db : Db) (i : ℕ) (invoice : PurchaseInvoice) : Prop where
  nonneg : 0 ≤ invoice.amountPaid + invoice.amountCredited
  le_total : invoice.amountPaid + invoice.amountCredited ≤ invoice.grandTotal
  paid : invoice.amountPaid = (SettlementWay.payment.book db).unreversed i
  credited : invoice.amountCredited = (SettlementWay.creditNote.book db).unreversed i
  isPaid : invoice.status = .paid ↔
    invoice.amountPaid + invoice.amountCredited = invoice.grandTotal
  isPartiallyPaid : invoice.status = .partiallyPaid ↔
    0 < invoice.amountPaid + invoice.amountCredited ∧
      invoice.amountPaid + invoice.amountCredited < invoice.grandTotal
  isPosted : invoice.status = .posted ∨ invoice.status = .voided ↔
    invoice.amountPaid + invoice.amountCredited = 0
  clear : invoice.status = .voided → ∀ way : SettlementWay, (way.book db).Clear i

/-- In order, an invoice is settled as the books say. -/
theorem SettlementInOrder.settledInvoice (h : SettlementInOrder db) {i : ℕ}
    {invoice : Row PurchaseInvoice} (hi : db.payables.invoices[i]? = some invoice) :
    SettledInvoice db i invoice.val := by
  have hfollows := h.invoices i invoice hi
  have htotal := h.totals invoice (mem_of_row hi)
  have hpaid := invoice.property.amount_paid_nonneg
  have hcredited := invoice.property.amount_credited_nonneg
  have hle := invoice.property.settled_le
  have hnonneg := add_nonneg hpaid hcredited
  rcases hfollows.status with hstatus | ⟨hvoided, hclear⟩
  · refine ⟨hnonneg, hle, hfollows.settled .payment, hfollows.settled .creditNote, ?_, ?_, ?_, ?_⟩
      <;> rw [hstatus]
    · rw [recomputeStatus_eq_paid]
      exact ⟨hle.antisymm, ge_of_eq⟩
    · exact recomputeStatus_eq_partiallyPaid _
    · rw [or_iff_left (recomputeStatus_status_ne_voided _)]
      exact recomputeStatus_eq_posted hnonneg htotal
    · exact fun hvoided => absurd hvoided (recomputeStatus_status_ne_voided _)
  · have hnone : ∀ way : SettlementWay, way.settled invoice.val = 0 := fun way =>
      (hfollows.settled way).trans (((h.books way).unreversed_eq_zero i).mpr (hclear way))
    have hsum : invoice.val.amountPaid + invoice.val.amountCredited = 0 := by
      have hp : invoice.val.amountPaid = 0 := hnone .payment
      have hc : invoice.val.amountCredited = 0 := hnone .creditNote
      rw [hp, hc, add_zero]
    refine ⟨hnonneg, hle, hfollows.settled .payment, hfollows.settled .creditNote, ?_, ?_, ?_,
      fun _ => hclear⟩ <;> rw [hvoided, hsum]
    · simp [htotal.ne]
    · simp
    · simp

/-- Every invoice is posted, for a positive total, and nothing has been settled of it. -/
structure InvoicesPosted (db : Db) : Prop where
  posted : ∀ i ∈ db.payables.invoices, i.val.status = .posted ∧ 0 < i.val.grandTotal ∧
    i.val.amountPaid = 0 ∧ i.val.amountCredited = 0
  unsettled : ∀ way : SettlementWay, (way.book db).allocations = [] ∧ (way.book db).reversed = []

theorem InvoicesPosted.inOrder (h : InvoicesPosted db) : SettlementInOrder db where
  books way := by
    obtain ⟨hnone, hnot⟩ := h.unsettled way
    constructor <;> simp [hnone, hnot]
  totals i hi := (h.posted i hi).2.1
  invoices i invoice hi := by
    obtain ⟨hstatus, htotal, hpaid, hcredited⟩ := h.posted invoice (mem_of_row hi)
    refine ⟨fun way => ?_, .inl ?_⟩
    · unfold SettlementBook.unreversed
      rw [(h.unsettled way).1, sumWhere_nil]
      cases way
      · exact hpaid
      · exact hcredited
    · unfold PurchaseInvoice.recomputeStatus
      dsimp only
      rw [hpaid, hcredited, add_zero, if_neg (not_le.mpr htotal), if_neg (lt_irrefl 0), hstatus]

open SettlementRequest in
theorem reaches_inOrder (horder : SettlementInOrder db)
    (h : Reaches exec AtCents db db') : SettlementInOrder db' :=
  h.invariant horder fun _ _ _ hs hcents hdone =>
    hs.step (exec_settlementStep hs.inCents hs.books hcents hdone)

/-- **However payments, credit notes, reversals and voids follow each other, the columns of
every invoice are the sums of its unreversed allocations, within its total, and its status is
as they are; what is voided has none, and never gets one.** -/
theorem invoices_settled {start db : Db} (hstart : InvoicesPosted start)
    (h : Reaches SettlementRequest.exec SettlementRequest.AtCents start db) :
    (∀ (i : ℕ) (invoice : Row PurchaseInvoice), db.payables.invoices[i]? = some invoice →
      SettledInvoice db i invoice.val) ∧
    ∀ (i : ℕ) (invoice : Row PurchaseInvoice) (later : Db),
      db.payables.invoices[i]? = some invoice → invoice.val.status = .voided →
      Reaches SettlementRequest.exec SettlementRequest.AtCents db later →
      VoidedSince db i later := by
  have horder := reaches_inOrder hstart.inOrder h
  refine ⟨fun i invoice hi => horder.settledInvoice hi, ?_⟩
  intro i invoice later hi hvoided hlater
  suffices hboth : SettlementInOrder later ∧ VoidedSince db i later from hboth.2
  refine hlater.invariant (I := fun s => SettlementInOrder s ∧ VoidedSince db i s)
    ⟨horder, ⟨invoice, hi, hvoided⟩, fun _ => rfl⟩ ?_
  rintro s r s' ⟨hs, hsince⟩ hcents hdone
  have hstep := exec_settlementStep hs.inCents hs.books hcents hdone
  exact ⟨hs.step hstep, hsince.step hs hstep⟩

end Runs

/-- The ten apples are on one line of the invoice, at what they cost. -/
def applesBilled : Db := { applesSentBack with
  payables.lines := [⟨⟨0, 0, 0, 10, 1, 0, 0, 10⟩, by decide +kernel⟩]
  payables.receiptMatches := [⟨⟨0, 0, 10, 1, 0⟩, by decide +kernel⟩] }

/-- Four are paid for the apples and two credited, both are reversed, and the invoice is
voided. -/
def applesUnsettled : Db :=
  value ([
      .recordSupplierPayment
        { storeId := 0, supplierId := 0, paymentDate := 1, paymentMethod := .cash, amount := 4
          allocations := [⟨0, 4⟩], clientTransactionId := "payment-1", callerStoreId := none },
      .createSupplierCreditNote (creditApples "C-1" "credit-1"),
      .reverseSupplierPayment
        { supplierPaymentId := 0, reason := "bounced", callerStoreId := none, reversedBy := some 0
          today := 2 },
      .reverseSupplierCreditNote
        { supplierCreditNoteId := 0, reason := "mistake", callerStoreId := none
          reversedBy := some 0, today := 3 },
      .voidPurchaseInvoice ⟨0, none, 4⟩].foldlM
    (guarded SettlementRequest.exec SettlementRequest.AtCents .notFound) applesBilled)
    (by decide +kernel)

/-- Nothing is settled of the voided invoice, and nothing can be. -/
theorem invoices_settled_apples :
    ∃ invoice, applesUnsettled.payables.invoices[0]? = some invoice ∧
      SettledInvoice applesUnsettled 0 invoice.val ∧
      VoidedSince applesUnsettled 0 applesUnsettled := by
  have hstart : InvoicesPosted applesBilled := by
    refine ⟨by decide +kernel, fun way => ?_⟩
    cases way <;> exact ⟨rfl, rfl⟩
  obtain ⟨hall, hvoided⟩ := invoices_settled hstart (reaches_of_guarded (eq_ok_value _ _))
  have hstatus : (applesUnsettled.payables.invoices[0]?.map (·.val.status)) = some .voided := by
    decide +kernel
  obtain ⟨invoice, hinvoice, hstatus⟩ := Option.map_eq_some_iff.mp hstatus
  exact ⟨invoice, hinvoice, hall 0 invoice hinvoice, hvoided 0 invoice _ hinvoice hstatus .start⟩

end GroceryErp
