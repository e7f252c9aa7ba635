import GroceryErp.Payables.InvoiceEntries

/-!
# Voids and reversals in the payables

The entry of an invoice is computed again for its void, and a payment or a credit note is
posted as it was asked for, but reversed as its row keeps it.

## Main definitions

* `InvoicesTraced` — dates, matches and settlements go with the status of an invoice.
* `SettlementWay.taken` — what payments and credit notes take.
* `PayablesMirrored` — all of them mirror each other.

## Main results

* `createPurchaseInvoice_mirrored`, `postPurchaseInvoice_mirrored`,
  `voidPurchaseInvoice_mirrored`, `reverseSupplierPayment_mirrored`,
  `reverseSupplierCreditNote_mirrored` — every request keeps that.
* `recordSupplierPayment_mirrored`, `createSupplierCreditNote_mirrored` — a payment and a
  credit note keep it where they come to whole cents.

## References

`backend/app/modules/ap/service.py`, `accounting/service.py`.
-/

namespace GroceryErp

open Decimal Ledger Outcome Rows

/-! ### Invoices and their dates -/

/-- The invoice has been posted, be it voided since or not. -/
def PostedInvoice (db : Db) (i : ℕ) : Prop :=
  ∃ invoice, db.payables.invoices[i]? = some invoice ∧ invoice.val.postedAt ≠ none

/-- The dates of an invoice go with its status. -/
structure PurchaseInvoice.Dated (i : PurchaseInvoice) : Prop where
  draft : i.status = .draft → i.postedAt = none ∧ i.voidedAt = none
  posted : i.status ≠ .draft → i.status ≠ .voided → i.postedAt ≠ none
  voided : i.status = .voided → i.voidedAt ≠ none

/-- Matches and settlements are of invoices that have been posted. -/
structure InvoicesTraced (db : Db) : Prop where
  dated : ∀ i ∈ db.payables.invoices, i.val.Dated
  matched : ∀ m ∈ db.payables.receiptMatches,
    ∃ line, db.payables.lines[m.val.purchaseInvoiceLineId]? = some line ∧
      PostedInvoice db line.val.purchaseInvoiceId
  settled : ∀ way : SettlementWay, ∀ a ∈ (way.book db).allocations,
    PostedInvoice db a.purchaseInvoiceId
  known : ∀ way : SettlementWay, ∀ d ∈ (way.book db).reversed, d < (way.book db).documents
  lines : ∀ l ∈ db.payables.lines, OnGrid 3 l.val.quantityInvoiced

/-- What a settlement leaves of an invoice, whose status it sets. -/
structure PurchaseInvoice.Resettled (old new : PurchaseInvoice) : Prop where
  storeId : new.storeId = old.storeId
  taxTotal : new.taxTotal = old.taxTotal
  discountTotal : new.discountTotal = old.discountTotal
  grandTotal : new.grandTotal = old.grandTotal
  postedAt : new.postedAt = old.postedAt
  voidedAt : new.voidedAt = old.voidedAt
  status : new.status ≠ .draft ∧ new.status ≠ .voided

theorem PurchaseInvoice.Resettled.trans {i j k : PurchaseInvoice} (h : i.Resettled j)
    (h' : j.Resettled k) : i.Resettled k where
  storeId := h'.storeId.trans h.storeId
  taxTotal := h'.taxTotal.trans h.taxTotal
  discountTotal := h'.discountTotal.trans h.discountTotal
  grandTotal := h'.grandTotal.trans h.grandTotal
  postedAt := h'.postedAt.trans h.postedAt
  voidedAt := h'.voidedAt.trans h.voidedAt
  status := h'.status

theorem SettlementWay.resettled (way : SettlementWay) (i : PurchaseInvoice) (x : ℚ) :
    i.Resettled (way.settle i x).recomputeStatus.storedSettled := by
  have hstatus : ∀ j : PurchaseInvoice, j.recomputeStatus.storedSettled.status ≠ .draft ∧
      j.recomputeStatus.storedSettled.status ≠ .voided := by
    intro j
    unfold PurchaseInvoice.storedSettled PurchaseInvoice.recomputeStatus
    dsimp only
    split_ifs <;> simp
  cases way <;> exact ⟨rfl, rfl, rfl, rfl, rfl, rfl, hstatus _⟩

/-- The invoices that allocations go to, or some of them, are settled anew. -/
def Resettled (inputs : List PaymentAllocationInput) :
    List (Row PurchaseInvoice) → List (Row PurchaseInvoice) → Prop :=
  Overwritten fun i old new =>
    new = old ∨ (i ∈ inputs.map (·.purchaseInvoiceId) ∧ old.val.Resettled new.val)

theorem settleAll_resettled (way : SettlementWay) {inputs : List PaymentAllocationInput}
    {db db' : Db} (h : inputs.foldlM (settle way.settle) db = .ok db') :
    Resettled inputs db.payables.invoices db'.payables.invoices := by
  refine foldlM_induct (fun done t => Resettled done db.payables.invoices t.payables.invoices) h
    ?_ ?_
  · exact .refl _ fun i a _ => .inl rfl
  rintro done a rest t t' - ht hstep
  obtain ⟨row, new, hrow, hnew, rfl⟩ := settle_eq_ok.mp hstep
  have hlast : row.val.Resettled new.val := hnew ▸ way.resettled row.val a.amount
  refine Overwritten.set ht hrow (fun old hold => .inr ⟨by simp, ?_⟩) fun i old kept _ hold => ?_
  · rcases hold with rfl | ⟨-, hbefore⟩
    · exact hlast
    · exact hbefore.trans hlast
  · refine hold.imp_right (And.imp_left fun hmem => ?_)
    rw [List.map_append]
    exact List.mem_append_left _ hmem

section Traced

variable {db db' : Db} {inputs : List PaymentAllocationInput} {i : ℕ}

theorem PostedInvoice.resettled (h : PostedInvoice db i)
    (hinvoices : Resettled inputs db.payables.invoices db'.payables.invoices) :
    PostedInvoice db' i := by
  obtain ⟨old, hold, hposted⟩ := h
  obtain ⟨new, hnew, rfl | ⟨-, hsettled⟩⟩ := hinvoices.2 i old hold
  · exact ⟨new, hnew, hposted⟩
  · exact ⟨new, hnew, hsettled.postedAt ▸ hposted⟩

/-- Settling posted invoices keeps them traced. -/
theorem InvoicesTraced.settle (h : InvoicesTraced db)
    (hinvoices : Resettled inputs db.payables.invoices db'.payables.invoices)
    (htargets : ∀ a ∈ inputs, PostedInvoice db a.purchaseInvoiceId)
    (hlines : db'.payables.lines = db.payables.lines)
    (hmatches : db'.payables.receiptMatches = db.payables.receiptMatches)
    (hbooks : ∀ way : SettlementWay, ∀ a ∈ (way.book db').allocations,
      a ∈ (way.book db).allocations ∨ ∃ x ∈ inputs, x.purchaseInvoiceId = a.purchaseInvoiceId)
    (hknown : ∀ way : SettlementWay, ∀ d ∈ (way.book db').reversed,
      d < (way.book db').documents) : InvoicesTraced db' where
  dated := by
    -- an invoice that is settled was posted, and stays so
    intro new hnew
    obtain ⟨i, hi⟩ := List.getElem?_of_mem hnew
    obtain ⟨old, hold, rfl | ⟨hmem, hsettled⟩⟩ := hinvoices.row hi
    · exact h.dated new (mem_of_row hold)
    · obtain ⟨x, hx, rfl⟩ := List.mem_map.mp hmem
      obtain ⟨row, hrow, hposted⟩ := htargets x hx
      obtain rfl : old = row := Option.some.inj (hold.symm.trans hrow)
      refine ⟨fun hdraft => absurd hdraft hsettled.status.1, fun _ _ => ?_,
        fun hvoided => absurd hvoided hsettled.status.2⟩
      exact hsettled.postedAt ▸ hposted
  matched := by
    intro m hm
    rw [hmatches] at hm
    obtain ⟨line, hline, hposted⟩ := h.matched m hm
    exact ⟨line, hlines ▸ hline, hposted.resettled hinvoices⟩
  settled := by
    intro way a ha
    -- the allocations of the new document are to the invoices that it settles
    rcases hbooks way a ha with hold | ⟨x, hx, hxa⟩
    · exact (h.settled way a hold).resettled hinvoices
    · exact hxa ▸ (htargets x hx).resettled hinvoices
  known := hknown
  lines := hlines ▸ h.lines

/-- What is settled of an invoice has no part in its entries. -/
theorem InvoicesMirrored.settle (h : InvoicesMirrored db) {kinds : SourceType → Prop}
    (hposts : Posts kinds db db') (hposting : ¬kinds .purchaseInvoice)
    (hvoid : ¬kinds .purchaseInvoiceVoid)
    (hinvoices : Resettled inputs db.payables.invoices db'.payables.invoices)
    (hlines : db'.payables.lines = db.payables.lines)
    (hmatches : db'.payables.receiptMatches = db.payables.receiptMatches) :
    InvoicesMirrored db' := by
  -- lines and matches stay, and what an invoice posts is computed from these
  have hof : ∀ i, clearingAndVarianceFromMatches db' i = clearingAndVarianceFromMatches db i := by
    intro i
    apply clearingAndVarianceFromMatches_congr
    rw [matchesOf_eq, matchesOf_eq, hlines, hmatches]
  refine Mirrored.kept h hposts hposting hvoid (fun i s a => ?_) fun i => ?_
  · refine takenOf_overwritten (hinvoices.mono ?_)
    rintro i old new (rfl | ⟨-, hsettled⟩)
    · refine ⟨rfl, fun _ => ?_⟩
      unfold invoiceEntryLines
      rw [hof]
    · unfold PurchaseInvoice.postedFor invoiceEntryLines
      rw [hof, hsettled.storeId, hsettled.postedAt, hsettled.taxTotal, hsettled.discountTotal,
        hsettled.grandTotal]
      exact ⟨rfl, fun _ => rfl⟩
  · constructor
    -- settling an invoice neither voids it nor takes a void back
    · rintro ⟨new, hnew, hvoided⟩
      obtain ⟨old, hold, rfl | ⟨-, hsettled⟩⟩ := hinvoices.row hnew
      · exact ⟨new, hold, hvoided⟩
      · exact ⟨old, hold, hsettled.voidedAt ▸ hvoided⟩
    · rintro ⟨old, hold, hvoided⟩
      obtain ⟨new, hnew, rfl | ⟨-, hsettled⟩⟩ := hinvoices.2 i old hold
      · exact ⟨new, hnew, hvoided⟩
      · exact ⟨new, hnew, hsettled.voidedAt ▸ hvoided⟩

end Traced

/-! ### Payments and credit notes -/

namespace SettlementWay

/-- The source type under which the documents of a way are posted. -/
def posting : SettlementWay → SourceType
  | payment => .supplierPayment
  | creditNote => .supplierCreditNote

/-- The source types of the entries that take payments and credit notes back. -/
def reversal : SettlementWay → SourceType
  | payment => .supplierPaymentReversal
  | creditNote => .supplierCreditNoteReversal

/-- What the documents of a way take, by their rows. -/
def taken (way : SettlementWay) (db : Db) : ℕ → ℕ → Account → ℚ :=
  match way with
  | payment => takenOf db.payables.payments (fun p => some p.val.storeId) fun _ p =>
      pair .accountsPayable p.val.paymentMethod.account p.val.amount
  | creditNote => takenOf db.payables.creditNotes (fun n => some n.val.storeId) fun _ n =>
      pair .accountsPayable n.val.reason.account n.val.grandTotal

/-- The entries of a way mirror each other: what is posted for a document is what it takes, and for
one that is reversed the same the other way as well. -/
def Mirrors (way : SettlementWay) (db : Db) : Prop :=
  Mirrored db way.posting way.reversal (way.taken db) (· ∈ (way.book db).reversed)

end SettlementWay

/-- The ledger and a column of two decimals keep the same amount. -/
def InWholeCents (x : ℚ) : Prop := numeric 6 x = numeric 2 x

instance decidableInWholeCents (x : ℚ) : Decidable (InWholeCents x) :=
  inferInstanceAs (Decidable (_ = _))

theorem InWholeCents.numeric_eq {x : ℚ} (h : InWholeCents x) :
    numeric 6 x = numeric 6 (numeric 2 x) := by
  rw [h, numeric_eq_self ((onGrid_numeric 2 x).mono (by decide))]

theorem InWholeCents.pos {x : ℚ} (h : InWholeCents x) (hx : 0 < numeric 2 x) : 0 < x := by
  by_contra hnot
  have hle : numeric 6 x ≤ numeric 6 0 := quantize_mono (not_lt.mp hnot)
  rw [numeric_eq_self (onGrid_zero 6), h] at hle
  exact absurd hx (not_lt.mpr hle)

/-- Invoices, payments and credit notes mirror their voids and reversals. -/
structure PayablesMirrored (db : Db) : Prop where
  traced : InvoicesTraced db
  totals : ∀ n ∈ db.payables.creditNotes, OnGrid 2 n.val.grandTotal
  invoices : InvoicesMirrored db
  ways : ∀ way : SettlementWay, way.Mirrors db

/-- The kinds of entries that the payables post: those of invoices, payments and credit notes, and
of what takes them back. -/
def PayablesKind (t : SourceType) : Prop :=
  t = .purchaseInvoice ∨ t = .purchaseInvoiceVoid ∨ ∃ way : SettlementWay,
    t = way.posting ∨ t = way.reversal

/-- A request of the payables writes them, the invoiced quantities and the ledger. -/
structure PayablesOnly (db db' : Db) : Prop where
  losses : db'.losses = db.losses
  payroll : db'.payroll = db.payroll
  receiptItems : db'.purchasing.receiptItems = db.purchasing.receiptItems
  posts : Posts PayablesKind db db'

section Settlements

variable {db d db' : Db} {inputs : List PaymentAllocationInput} {i : ℕ}

theorem PayablesOnly.refl (db : Db) : PayablesOnly db db := ⟨rfl, rfl, rfl, .of_eq rfl⟩

/-- Where nothing of a way has been written, and nothing posted for it. -/
theorem SettlementWay.Mirrors.kept {way : SettlementWay} (h : way.Mirrors db)
    {kinds : SourceType → Prop} (hposts : Posts kinds db db') (hposting : ¬kinds way.posting)
    (hreversal : ¬kinds way.reversal) (htaken : ∀ i s a, way.taken db' i s a = way.taken db i s a)
    (hbook : (way.book db').reversed = (way.book db).reversed) : way.Mirrors db' :=
  Mirrored.kept h hposts hposting hreversal htaken fun _ => by rw [hbook]

/-- Requests that leave the payables alone. -/
theorem PayablesMirrored.outside (h : PayablesMirrored db) {kinds : SourceType → Prop}
    (hposts : Posts kinds db db') (hkinds : ∀ t, PayablesKind t → ¬kinds t)
    (hpayables : db'.payables = db.payables) : PayablesMirrored db' := by
  have hbook : ∀ way : SettlementWay, way.book db' = way.book db := fun way => by
    cases way <;> simp only [SettlementWay.book, hpayables]
  have hposted : ∀ i, PostedInvoice db i → PostedInvoice db' i := fun i hi => by
    unfold PostedInvoice
    rw [hpayables]
    exact hi
  -- without payables there is nothing to trace, and other kinds post nothing for them
  refine ⟨⟨hpayables ▸ h.traced.dated, ?_, ?_, ?_, hpayables ▸ h.traced.lines⟩,
    hpayables ▸ h.totals, ?_, fun way => ?_⟩
  · intro m hm
    rw [hpayables] at hm ⊢
    obtain ⟨line, hline, hm⟩ := h.traced.matched m hm
    exact ⟨line, hline, hposted _ hm⟩
  · intro way a ha
    rw [hbook] at ha
    exact hposted _ (h.traced.settled way a ha)
  · intro way
    rw [hbook]
    exact h.traced.known way
  · refine Mirrored.kept h.invoices hposts (hkinds _ (.inl rfl)) (hkinds _ (.inr (.inl rfl)))
      (fun i s a => ?_) fun i => ?_
    · unfold invoiceTaken
      rw [hpayables]
      refine takenOf_overwritten (.refl _ fun i row _ => ⟨rfl, fun _ => ?_⟩)
      unfold invoiceEntryLines clearingAndVarianceFromMatches
      rw [matchesOf_eq, matchesOf_eq, hpayables]
    · unfold InvoiceUndone
      rw [hpayables]
  · refine (h.ways way).kept hposts (hkinds _ (.inr (.inr ⟨way, .inl rfl⟩)))
      (hkinds _ (.inr (.inr ⟨way, .inr rfl⟩))) (fun i s a => ?_) (by rw [hbook])
    cases way <;> simp only [SettlementWay.taken, hpayables]

/-- The kinds of entries of a way, which are that of its documents and that of their reversals. -/
def SettlementWay.Kind (way : SettlementWay) (t : SourceType) : Prop :=
  t = way.posting ∨ t = way.reversal

theorem SettlementWay.kind_apart {way other : SettlementWay} (h : other ≠ way) :
    ¬way.Kind other.posting ∧ ¬way.Kind other.reversal := by
  unfold SettlementWay.Kind
  cases way <;> cases other <;> first | exact absurd rfl h | decide

theorem SettlementWay.kind_invoice (way : SettlementWay) :
    ¬way.Kind .purchaseInvoice ∧ ¬way.Kind .purchaseInvoiceVoid := by
  unfold SettlementWay.Kind
  cases way <;> decide

/-- A document of one way is recorded or reversed, and its invoices settled. -/
theorem PayablesMirrored.settle (way : SettlementWay) (inputs : List PaymentAllocationInput)
    (h : PayablesMirrored db)
    (hposts : Posts way.Kind db db') (hway : way.Mirrors db')
    (hothers : ∀ other : SettlementWay, other ≠ way →
      (∀ i s a, other.taken db' i s a = other.taken db i s a) ∧ other.book db' = other.book db)
    (hallocations : ∀ a ∈ (way.book db').allocations,
      a ∈ (way.book db).allocations ∨ ∃ x ∈ inputs, x.purchaseInvoiceId = a.purchaseInvoiceId)
    (hknown : ∀ d ∈ (way.book db').reversed, d < (way.book db').documents)
    (hinvoices : Resettled inputs db.payables.invoices db'.payables.invoices)
    (htargets : ∀ a ∈ inputs, PostedInvoice db a.purchaseInvoiceId)
    (hlines : db'.payables.lines = db.payables.lines)
    (hmatches : db'.payables.receiptMatches = db.payables.receiptMatches)
    (htotals : ∀ n ∈ db'.payables.creditNotes, OnGrid 2 n.val.grandTotal) :
    PayablesMirrored db' where
  totals := htotals
  traced := by
    refine h.traced.settle hinvoices htargets hlines hmatches (fun other a ha => ?_)
      fun other d hd => ?_
    · by_cases hother : other = way
      · subst hother
        exact hallocations a ha
      · rw [(hothers other hother).2] at ha
        exact .inl ha
    · by_cases hother : other = way
      · subst hother
        exact hknown d hd
      · rw [(hothers other hother).2] at hd ⊢
        exact h.traced.known other d hd
  invoices := h.invoices.settle hposts way.kind_invoice.1 way.kind_invoice.2 hinvoices hlines
    hmatches
  -- the way of the document, and the other one, whose entries and book stay
  ways other := by
    by_cases hother : other = way
    · subst hother
      exact hway
    · obtain ⟨htaken, hbook⟩ := hothers other hother
      obtain ⟨hposting, hreversal⟩ := SettlementWay.kind_apart hother
      exact (h.ways other).kept hposts hposting hreversal htaken (by rw [hbook])

/-- Only posted invoices are outstanding: no other status is ever given a balance. -/
theorem InvoicesTraced.posted_of_outstanding (h : InvoicesTraced db) (hi : Outstanding db i) :
    PostedInvoice db i := by
  obtain ⟨invoice, hrow, hstatus⟩ := hi
  refine ⟨invoice, hrow, (h.dated invoice (mem_of_row hrow)).posted ?_ ?_⟩
  · rcases hstatus with hstatus | hstatus <;> rw [hstatus] <;> decide
  · rcases hstatus with hstatus | hstatus <;> rw [hstatus] <;> decide

theorem payablesKind_of_way {way : SettlementWay} (t : SourceType) (h : way.Kind t) :
    PayablesKind t := .inr (.inr ⟨way, h⟩)

/-- A row that is written for some inputs is that of one of them. -/
theorem exists_input_of_row {α : Type} [Table α] {rows : List (Row α)}
    {row : PaymentAllocationInput → α} (hrows : rows.map Subtype.val = inputs.map row) {r : Row α}
    (hr : r ∈ rows) : ∃ x ∈ inputs, row x = r.val := by
  have hval : r.val ∈ rows.map Subtype.val := List.mem_map_of_mem hr
  rw [hrows] at hval
  exact List.mem_map.mp hval

/-- **A payment in whole cents is posted as its row keeps it.** -/
theorem recordSupplierPayment_mirrored {req : RecordSupplierPayment} {paymentId : ℕ}
    (h : PayablesMirrored db) (hcents : InWholeCents req.amount)
    (hdone : recordSupplierPayment db req = .ok (db', paymentId)) :
    PayablesMirrored db' ∧ PayablesOnly db db' := by
  rcases recordSupplierPayment_ok hdone with rfl | ⟨hinputs, hsum, hcheck, payment, rows, d, hpayment,
    hrows, hd, hpost⟩
  · exact ⟨h, .refl db'⟩
  have hdframe := settleAll_frame hd
  have hframe := postJournalUnlessEmpty_frame hpost
  have hpayables : db'.payables = { db.payables with
      invoices := d.payables.invoices
      payments := db.payables.payments ++ [payment]
      paymentAllocations := db.payables.paymentAllocations ++ rows } := by
    rw [hframe, hdframe]
  have hentry : PostsEntry db db' _ _ _ _ :=
    postsEntry_of_postJournalUnlessEmpty hpost (by rw [hdframe]) rfl
  have hposts : Posts SettlementWay.payment.Kind db db' := hentry.posts.mono fun t ht => .inl ht
  have hmirrors : SettlementWay.payment.Mirrors db' := by
    refine Mirrored.post (h.ways .payment) (by decide) hentry (fun j s a => ?_)
      (fun hold => lt_irrefl _ (h.traced.known .payment _ hold)) fun j => ?_
    · -- the row keeps the amount that is posted
      have hpos : 0 < payment.val.amount := payment.property
      have hlines : (pair .accountsPayable payment.val.paymentMethod.account
          payment.val.amount).map storedLine
            = (pair .accountsPayable req.paymentMethod.account req.amount).map storedLine := by
        rw [hpayment] at hpos ⊢
        exact (map_storedLine_pair_congr (hcents.pos hpos) hpos hcents.numeric_eq).symm
      simp only [SettlementWay.taken]
      rw [hpayables, takenOf_append fun _ _ _ _ => rfl, hlines]
      simp only [hpayment, Option.some.injEq]
      rfl
    · simp only [SettlementWay.book, hpayables]
  refine ⟨h.settle .payment req.allocations hposts hmirrors (fun other hother => ?_)
    ?_ ?_ ?_ ?_ ?_ ?_ ?_, ?_, ?_, ?_, hposts.mono payablesKind_of_way⟩
  · cases other with
    | payment => exact absurd rfl hother
    | creditNote =>
      simp only [SettlementWay.taken, SettlementWay.book, hpayables]
      exact ⟨fun _ _ _ => trivial, trivial⟩
  · intro a ha
    simp only [SettlementWay.book, hpayables, List.map_append] at ha
    rcases List.mem_append.mp ha with ha | ha
    · exact .inl ha
    · obtain ⟨row, hrow, rfl⟩ := List.mem_map.mp ha
      obtain ⟨x, hx, hxrow⟩ := exists_input_of_row hrows hrow
      exact .inr ⟨x, hx, by rw [← hxrow]⟩
  · intro e he
    simp only [SettlementWay.book, hpayables, List.length_append] at he ⊢
    exact (h.traced.known .payment e he).trans (Nat.lt_succ_self _)
  · rw [hpayables]
    exact settleAll_resettled .payment hd
  · exact fun a ha => h.traced.posted_of_outstanding (checkAllocations_ok hcheck a ha)
  · rw [hpayables]
  · rw [hpayables]
  · rw [hpayables]
    exact h.totals
  · rw [hframe, hdframe]
  · rw [hframe, hdframe]
  · rw [hframe, hdframe]

/-- **A credit note in whole cents is posted as its row keeps it.** -/
theorem createSupplierCreditNote_mirrored {req : CreateSupplierCreditNote} {creditNoteId : ℕ}
    (h : PayablesMirrored db) (hcents : InWholeCents req.grandTotal)
    (hdone : createSupplierCreditNote db req = .ok (db', creditNoteId)) :
    PayablesMirrored db' ∧ PayablesOnly db db' := by
  rcases createSupplierCreditNote_ok hdone with ⟨rfl, -⟩ | ⟨-, -, hplan, note, lines, rows, d, hnote,
    -, hrows, hd, hpost⟩
  · exact ⟨h, .refl db'⟩
  have hcheck := (planCreditNote_ok hplan).2
  have hdframe := settleAll_frame hd
  have hframe := postJournalUnlessEmpty_frame hpost
  have hpayables : db'.payables = { db.payables with
      invoices := d.payables.invoices
      creditNotes := db.payables.creditNotes ++ [note]
      creditNoteLines := db.payables.creditNoteLines ++ lines
      creditAllocations := db.payables.creditAllocations ++ rows } := by
    rw [hframe, hdframe]
  have hentry : PostsEntry db db' _ _ _ _ :=
    postsEntry_of_postJournalUnlessEmpty hpost (by rw [hdframe]) rfl
  have hposts : Posts SettlementWay.creditNote.Kind db db' :=
    hentry.posts.mono fun t ht => .inl ht
  have htotal : note.val.grandTotal = numeric 2 req.grandTotal := by
    rw [hnote]
    rfl
  have hmirrors : SettlementWay.creditNote.Mirrors db' := by
    refine Mirrored.post (h.ways .creditNote) (by decide) hentry
      (fun j s a => ?_) (fun hold => lt_irrefl _ (h.traced.known .creditNote _ hold)) fun j => ?_
    · -- the row keeps the total that is posted
      have hpos : 0 < note.val.grandTotal := note.property.grand_total_pos
      have hlines : (pair .accountsPayable note.val.reason.account
          note.val.grandTotal).map storedLine
            = (pair .accountsPayable req.reason.account req.grandTotal).map storedLine := by
        rw [htotal] at hpos ⊢
        rw [hnote]
        exact (map_storedLine_pair_congr (hcents.pos hpos) hpos hcents.numeric_eq).symm
      simp only [SettlementWay.taken]
      rw [hpayables, takenOf_append fun _ _ _ _ => rfl, hlines]
      simp only [hnote, Option.some.injEq]
      rfl
    · simp only [SettlementWay.book, hpayables]
  refine ⟨h.settle .creditNote req.allocations hposts hmirrors (fun other hother => ?_)
    ?_ ?_ ?_ ?_ ?_ ?_ ?_, ?_, ?_, ?_, hposts.mono payablesKind_of_way⟩
  · cases other with
    | creditNote => exact absurd rfl hother
    | payment =>
      simp only [SettlementWay.taken, SettlementWay.book, hpayables]
      exact ⟨fun _ _ _ => trivial, trivial⟩
  · intro a ha
    simp only [SettlementWay.book, hpayables, List.map_append] at ha
    rcases List.mem_append.mp ha with ha | ha
    · exact .inl ha
    · obtain ⟨row, hrow, rfl⟩ := List.mem_map.mp ha
      obtain ⟨x, hx, hxrow⟩ := exists_input_of_row hrows hrow
      exact .inr ⟨x, hx, by rw [← hxrow]⟩
  · intro e he
    simp only [SettlementWay.book, hpayables, List.length_append] at he ⊢
    exact (h.traced.known .creditNote e he).trans (Nat.lt_succ_self _)
  · rw [hpayables]
    exact settleAll_resettled .creditNote hd
  · exact fun a ha => h.traced.posted_of_outstanding (checkAllocations_ok hcheck a ha)
  · rw [hpayables]
  · rw [hpayables]
  · intro n hn
    simp only [hpayables] at hn
    rcases List.mem_append.mp hn with hn | hn
    · exact h.totals n hn
    · rw [List.mem_singleton.mp hn, htotal]
      exact onGrid_numeric 2 _
  · rw [hframe, hdframe]
  · rw [hframe, hdframe]
  · rw [hframe, hdframe]

/-- What is taken back of the allocations of a document is of posted invoices. -/
theorem InvoicesTraced.posted_of_back (h : InvoicesTraced db) (way : SettlementWay)
    {x : PaymentAllocationInput} (hx : x ∈ ((way.book db).inputsOf i).map (·.back)) :
    PostedInvoice db x.purchaseInvoiceId := by
  obtain ⟨y, hy, rfl⟩ := List.mem_map.mp hx
  obtain ⟨a, ha, rfl⟩ := List.mem_map.mp hy
  exact h.settled way a (List.mem_filter.mp ha).1

/-- **The reversal of a payment takes back what its row keeps.** -/
theorem reverseSupplierPayment_mirrored {req : ReverseSupplierPayment} (h : PayablesMirrored db)
    (hdone : reverseSupplierPayment db req = .ok db') :
    PayablesMirrored db' ∧ PayablesOnly db db' := by
  rcases reverseSupplierPayment_ok hdone with rfl | ⟨payment, d, e, hpayment, -, hd, hpost, hdb'⟩
  · exact ⟨h, .refl db'⟩
  have hdframe := settleAll_frame hd
  have hframe := postJournal_frame hpost
  have hpayables : db'.payables = { db.payables with
      invoices := d.payables.invoices
      paymentReversals := db.payables.paymentReversals ++ [⟨req.supplierPaymentId, req.today⟩] } := by
    rw [hdb', hframe, hdframe]
  have hbefore : d.ledger.entries = db.ledger.entries := by rw [hdframe]
  have hafter : db'.ledger.entries = e.ledger.entries := by rw [hdb']
  have hentry := postsEntry_of_postJournal hpost hbefore hafter
  have hposts : Posts SettlementWay.payment.Kind db db' := hentry.posts.mono fun t ht => .inr ht
  have hbook : SettlementWay.payment.book db'
      = (SettlementWay.payment.book db).reverse req.supplierPaymentId := by
    simp only [SettlementWay.book, SettlementBook.reverse, hpayables, List.map_append,
      List.map_cons, List.map_nil]
  -- the reversal's entry exchanges the two lines of the payment's
  have hmirrors : SettlementWay.payment.Mirrors db' := by
    have htaken : ∀ s a, SettlementWay.payment.taken db req.supplierPaymentId s a
        = if payment.val.storeId = s then net a ([debit .accountsPayable payment.val.amount,
            credit payment.val.paymentMethod.account payment.val.amount].map storedLine) else 0 := by
      intro s a
      simp only [SettlementWay.taken]
      rw [takenOf_of_row hpayment, pair_of_pos _ _ payment.property]
      simp only [Option.some.injEq]
    refine Mirrored.exchange (h.ways .payment) (by decide) hentry htaken (fun i s a => ?_)
      fun j => ?_
    · simp only [SettlementWay.taken, hpayables]
    · rw [hbook]
      simp only [SettlementBook.reverse, List.mem_append, List.mem_singleton]
  refine ⟨h.settle .payment
    (((SettlementWay.payment.book db).inputsOf req.supplierPaymentId).map (·.back)) hposts hmirrors
    -- the other way is not touched, and the allocations that are taken back were of this payment
    (fun other hother => ?_) ?_ ?_ ?_ ?_ ?_ ?_ ?_, ?_, ?_, ?_, hposts.mono payablesKind_of_way⟩
  · cases other with
    | payment => exact absurd rfl hother
    | creditNote =>
      simp only [SettlementWay.taken, SettlementWay.book, hpayables]
      exact ⟨fun _ _ _ => trivial, trivial⟩
  · rw [hbook]
    exact fun a ha => .inl ha
  · rw [hbook]
    intro e he
    rcases List.mem_append.mp he with he | he
    · exact h.traced.known .payment e he
    · rw [List.mem_singleton.mp he]
      exact (List.getElem?_eq_some_iff.mp hpayment).1
  · rw [hpayables, inputsOf_payment]
    exact settleAll_resettled .payment hd
  · exact fun x hx => h.traced.posted_of_back .payment hx
  · rw [hpayables]
  · rw [hpayables]
  · rw [hpayables]
    exact h.totals
  · rw [hdb', hframe, hdframe]
  · rw [hdb', hframe, hdframe]
  · rw [hdb', hframe, hdframe]

/-- **The reversal of a credit note takes back what its row keeps.** -/
theorem reverseSupplierCreditNote_mirrored {req : ReverseSupplierCreditNote}
    (h : PayablesMirrored db) (hdone : reverseSupplierCreditNote db req = .ok db') :
    PayablesMirrored db' ∧ PayablesOnly db db' := by
  rcases reverseSupplierCreditNote_ok hdone with rfl | ⟨note, row, d, e, hnote, -, hd, hrow, hpost,
    hdb'⟩
  · exact ⟨h, .refl db'⟩
  have hdframe := settleAll_frame hd
  have hframe := postJournal_frame hpost
  have hpayables : db'.payables = { db.payables with
      invoices := d.payables.invoices
      creditNotes := db.payables.creditNotes.set req.supplierCreditNoteId row
      creditNoteReversals := db.payables.creditNoteReversals
        ++ [⟨req.supplierCreditNoteId, req.today⟩] } := by
    rw [hdb', hframe, hdframe]
  have hbefore : d.ledger.entries = db.ledger.entries := by rw [hdframe]
  have hafter : db'.ledger.entries = e.ledger.entries := by rw [hdb']
  have hentry := postsEntry_of_postJournal hpost hbefore hafter
  have hposts : Posts SettlementWay.creditNote.Kind db db' :=
    hentry.posts.mono fun t ht => .inr ht
  have hbook : SettlementWay.creditNote.book db'
      = (SettlementWay.creditNote.book db).reverse req.supplierCreditNoteId := by
    simp only [SettlementWay.book, SettlementBook.reverse, hpayables, List.map_append,
      List.map_cons, List.map_nil, List.length_set]
  -- the row that is written keeps the total
  have htotal : row.val.grandTotal = note.val.grandTotal := by
    rw [hrow]
    exact numeric_eq_self (h.totals note (mem_of_row hnote))
  have hmirrors : SettlementWay.creditNote.Mirrors db' := by
    have htaken : ∀ s a, SettlementWay.creditNote.taken db req.supplierCreditNoteId s a
        = if note.val.storeId = s then net a ([debit .accountsPayable note.val.grandTotal,
            credit note.val.reason.account note.val.grandTotal].map storedLine) else 0 := by
      intro s a
      simp only [SettlementWay.taken]
      rw [takenOf_of_row hnote, pair_of_pos _ _ note.property.grand_total_pos]
      simp only [Option.some.injEq]
    refine Mirrored.exchange (h.ways .creditNote) (by decide) hentry htaken (fun i s a => ?_)
      fun j => ?_
    · simp only [SettlementWay.taken, hpayables]
      refine takenOf_rewritten hnote ?_ fun _ => ?_
      · rw [hrow]
        rfl
      · rw [htotal, hrow]
        rfl
    · rw [hbook]
      simp only [SettlementBook.reverse, List.mem_append, List.mem_singleton]
  refine ⟨h.settle .creditNote
    (((SettlementWay.creditNote.book db).inputsOf req.supplierCreditNoteId).map (·.back)) hposts
    hmirrors (fun other hother => ?_) ?_ ?_ ?_ ?_ ?_ ?_ ?_, ?_, ?_, ?_,
    hposts.mono payablesKind_of_way⟩
  · cases other with
    | creditNote => exact absurd rfl hother
    | payment =>
      simp only [SettlementWay.taken, SettlementWay.book, hpayables]
      exact ⟨fun _ _ _ => trivial, trivial⟩
  · rw [hbook]
    exact fun a ha => .inl ha
  · rw [hbook]
    intro e he
    rcases List.mem_append.mp he with he | he
    · exact h.traced.known .creditNote e he
    · rw [List.mem_singleton.mp he]
      exact (List.getElem?_eq_some_iff.mp hnote).1
  · rw [hpayables, inputsOf_creditNote]
    exact settleAll_resettled .creditNote hd
  · exact fun x hx => h.traced.posted_of_back .creditNote hx
  · rw [hpayables]
  · rw [hpayables]
  · rw [hpayables]
    exact forall_mem_set h.totals (htotal ▸ h.totals note (mem_of_row hnote))
  · rw [hdb', hframe, hdframe]
  · rw [hdb', hframe, hdframe]
  · rw [hdb', hframe, hdframe]

end Settlements

/-! ### Drafts, postings and voids -/

section Invoicing

variable {db db' : Db} {i : ℕ}

/-- The lines that are matched are there. -/
theorem InvoicesTraced.matched_known (h : InvoicesTraced db) :
    ∀ m ∈ db.payables.receiptMatches,
      m.val.purchaseInvoiceLineId < db.payables.lines.length := by
  intro m hm
  obtain ⟨line, hline, -⟩ := h.matched m hm
  exact (List.getElem?_eq_some_iff.mp hline).1

/-- **A draft has nothing posted**, so entering an invoice keeps the entries and what they mirror.
-/
theorem createPurchaseInvoice_mirrored {req : CreatePurchaseInvoice} {invoiceId : ℕ}
    (h : PayablesMirrored db) (hdone : createPurchaseInvoice db req = .ok (db', invoiceId)) :
    PayablesMirrored db' ∧ PayablesOnly db db' := by
  unfold createPurchaseInvoice at hdone
  rw [bind_eq_ok] at hdone
  obtain ⟨found, -, hdone⟩ := hdone
  cases found with
  | some found =>
    rw [pure_eq_ok, Prod.mk.injEq] at hdone
    rw [← hdone.1]
    exact ⟨h, .refl db⟩
  | none =>
    rw [bind_eq_ok] at hdone
    obtain ⟨plan, -, hinsert⟩ := hdone
    rcases insertInvoice_ok hinsert with rfl | ⟨invoice, lines, hinvoice, hlines, hdb'⟩
    · exact ⟨h, .refl db'⟩
    -- the new invoice is a draft that was never posted, so it counts in none of the sums
    have hpostedAt : invoice.val.postedAt = none := by rw [hinvoice]; rfl
    have hvoidedAt : invoice.val.voidedAt = none := by rw [hinvoice]; rfl
    have hstatus : invoice.val.status = .draft := by rw [hinvoice]; rfl
    have hpayables : db'.payables = { db.payables with
        invoices := db.payables.invoices ++ [invoice], lines := db.payables.lines ++ lines } := by
      rw [hdb']
    have hentries : db'.ledger.entries = db.ledger.entries := by rw [hdb']
    have hposted : ∀ i, PostedInvoice db i → PostedInvoice db' i := by
      rintro i ⟨old, hold, hposted⟩
      refine ⟨old, ?_, hposted⟩
      rw [hpayables]
      exact getElem?_append_singleton_eq_some.mpr (.inl hold)
    -- no match is of a line that is not there yet
    have hof : ∀ i, matchesOf db' i = matchesOf db i := by
      intro i
      refine matchesOf_kept ⟨lines, by rw [hpayables]⟩ ⟨[], ?_, by simp⟩ h.traced.matched_known
      rw [hpayables, List.append_nil]
    have hbook : ∀ way : SettlementWay, way.book db' = way.book db := fun way => by
      cases way <;> simp only [SettlementWay.book, hpayables]
    refine ⟨⟨⟨?_, ?_, ?_, ?_, ?_⟩, ?_, ?_, ?_⟩, by rw [hdb'], by rw [hdb'], by rw [hdb'],
      .of_eq hentries⟩
    · rw [hpayables]
      intro i hi
      rcases List.mem_append.mp hi with hi | hi
      · exact h.traced.dated i hi
      · rw [List.mem_singleton.mp hi]
        exact ⟨fun _ => ⟨hpostedAt, hvoidedAt⟩, fun hnot => absurd hstatus hnot,
          fun hvoided => absurd (hstatus.symm.trans hvoided) (by decide)⟩
    · intro m hm
      rw [hpayables] at hm
      obtain ⟨line, hline, hm⟩ := h.traced.matched m hm
      refine ⟨line, ?_, hposted _ hm⟩
      rw [hpayables]
      exact (List.getElem?_append_left (List.getElem?_eq_some_iff.mp hline).1).trans hline
    · intro way a ha
      rw [hbook] at ha
      exact hposted _ (h.traced.settled way a ha)
    · intro way
      rw [hbook]
      exact h.traced.known way
    · rw [hpayables]
      intro l hl
      rcases List.mem_append.mp hl with hl | hl
      · exact h.traced.lines l hl
      · have hval : l.val ∈ lines.map Subtype.val := List.mem_map_of_mem hl
        rw [hlines] at hval
        obtain ⟨x, -, hx⟩ := List.mem_map.mp hval
        rw [← hx]
        exact onGrid_numeric 3 _
    · rw [hpayables]
      exact h.totals
    -- no entry is posted, and nothing is taken for the draft
    · refine h.invoices.congr hentries (fun i s a => ?_) fun i => ?_
      · unfold invoiceTaken
        rw [hpayables, takenOf_append fun i old _ _ => ?_, if_neg ?_, add_zero]
        · rintro ⟨-, hstore⟩
          exact (PurchaseInvoice.postedFor_eq_some.mp hstore).1 hpostedAt
        · unfold invoiceEntryLines
          rw [clearingAndVarianceFromMatches_congr (hof i)]
      · unfold InvoiceUndone
        simp only [hpayables, getElem?_append_singleton_eq_some]
        constructor
        · rintro ⟨row, hrow | ⟨-, rfl⟩, hvoided⟩
          · exact ⟨row, hrow, hvoided⟩
          · exact absurd hvoidedAt hvoided
        · rintro ⟨row, hrow, hvoided⟩
          exact ⟨row, .inl hrow, hvoided⟩
    · intro way
      refine (h.ways way).congr hentries (fun i s a => ?_) fun i => by rw [hbook]
      cases way <;> simp only [SettlementWay.taken, hpayables]

/-- Where the row of an invoice is written, and nothing that has been posted is taken back. -/
theorem PostedInvoice.set {row row' : Row PurchaseInvoice} {j : ℕ} (h : PostedInvoice db j)
    (hrow : db.payables.invoices[i]? = some row)
    (hposted : row.val.postedAt ≠ none → row'.val.postedAt ≠ none)
    (hinvoices : db'.payables.invoices = db.payables.invoices.set i row') :
    PostedInvoice db' j := by
  obtain ⟨old, hold, hpostedAt⟩ := h
  unfold PostedInvoice
  rw [hinvoices, getElem?_set_of_some hrow]
  by_cases hij : i = j
  · obtain rfl : row = old := Option.some.inj ((hij ▸ hrow).symm.trans hold)
    exact ⟨row', if_pos hij, hposted hpostedAt⟩
  · exact ⟨old, (if_neg hij).trans hold, hpostedAt⟩

/-- The row of an invoice is written, and matches are added that are its own. -/
theorem InvoicesTraced.set (h : InvoicesTraced db) {row row' : Row PurchaseInvoice}
    (rows : List (Row PurchaseInvoiceReceiptMatch))
    (hrow : db.payables.invoices[i]? = some row)
    (hposted : row.val.postedAt ≠ none → row'.val.postedAt ≠ none) (hdated : row'.val.Dated)
    (hrows : ∀ m ∈ rows, row'.val.postedAt ≠ none ∧
      ∃ line, db.payables.lines[m.val.purchaseInvoiceLineId]? = some line ∧
        line.val.purchaseInvoiceId = i)
    (hpayables : db'.payables = { db.payables with
      receiptMatches := db.payables.receiptMatches ++ rows
      invoices := db.payables.invoices.set i row' }) : InvoicesTraced db' := by
  have hinvoices : db'.payables.invoices = db.payables.invoices.set i row' := by rw [hpayables]
  have hkept : ∀ j, PostedInvoice db j → PostedInvoice db' j :=
    fun j hj => hj.set hrow hposted hinvoices
  have hbook : ∀ way : SettlementWay, way.book db' = way.book db := fun way => by
    cases way <;> simp only [SettlementWay.book, hpayables]
  constructor
  · rw [hinvoices]
    exact forall_mem_set h.dated hdated
  -- old matches stay with their lines, and the new ones are of lines of this invoice
  · intro m hm
    simp only [hpayables] at hm ⊢
    rcases List.mem_append.mp hm with hm | hm
    · obtain ⟨line, hline, hof⟩ := h.matched m hm
      exact ⟨line, hline, hkept _ hof⟩
    · obtain ⟨hpostedAt, line, hline, hof⟩ := hrows m hm
      refine ⟨line, hline, row', ?_, hpostedAt⟩
      rw [hinvoices, hof, getElem?_set_of_some hrow, if_pos rfl]
  -- the allocations of either way are as they were
  · intro way a ha
    rw [hbook] at ha
    exact hkept _ (h.settled way a ha)
  · intro way
    rw [hbook]
    exact h.known way
  · rw [hpayables]
    exact h.lines

/-- The row of an invoice says whether it is voided. -/
theorem invoiceUndone_set {row row' : Row PurchaseInvoice}
    (hrow : db.payables.invoices[i]? = some row)
    (hinvoices : db'.payables.invoices = db.payables.invoices.set i row') (j : ℕ) :
    InvoiceUndone db' j ↔ if j = i then row'.val.voidedAt ≠ none else InvoiceUndone db j := by
  unfold InvoiceUndone
  rw [hinvoices, getElem?_set_of_some hrow]
  by_cases hji : j = i
  · rw [if_pos hji, if_pos hji.symm]
    simp only [Option.some.injEq, exists_eq_left']
  · rw [if_neg hji, if_neg (Ne.symm hji)]

/-- Nothing is matched with an invoice that has not been posted. -/
theorem InvoicesTraced.matchesOf_eq_nil (h : InvoicesTraced db) (hi : ¬PostedInvoice db i) :
    matchesOf db i = [] := by
  rw [matchesOf_eq]
  refine List.filterMap_eq_nil_iff.mpr fun m hm => withLine_eq_none fun line hline hof => ?_
  obtain ⟨found, hfound, hposted⟩ := h.matched m hm
  obtain rfl : found = line := Option.some.inj (hfound.symm.trans hline)
  exact hi (hof ▸ hposted)

/-- Where the ways are what they were. -/
theorem PayablesMirrored.ways_kept (h : PayablesMirrored db) {kinds : SourceType → Prop}
    {invoices : List (Row PurchaseInvoice)} {rows : List (Row PurchaseInvoiceReceiptMatch)}
    (hposts : Posts kinds db db')
    (hkinds : ∀ way : SettlementWay, ¬kinds way.posting ∧ ¬kinds way.reversal)
    (hpayables : db'.payables = { db.payables with receiptMatches := rows, invoices := invoices })
    (way : SettlementWay) : way.Mirrors db' := by
  refine (h.ways way).kept hposts (hkinds way).1 (hkinds way).2 (fun i s a => ?_) ?_
  · cases way <;> simp only [SettlementWay.taken, hpayables]
  · cases way <;> simp only [SettlementWay.book, hpayables]

/-- **A posting writes the matches that its entry is made from.** -/
theorem postPurchaseInvoice_mirrored {req : PostPurchaseInvoice} (h : PayablesMirrored db)
    (hlots : ∀ r ∈ db.purchasing.receiptItems, r.val.InScale)
    (hitems : ∀ i ∈ db.purchasing.orderItems, OnGrid 3 i.val.quantityInvoiced)
    (hdone : postPurchaseInvoice db req = .ok db') :
    PayablesMirrored db' ∧ PayablesOnly db db' := by
  rcases postPurchaseInvoice_steps hdone with rfl | ⟨lines, plan, hload, hplan, hfinish⟩
  · exact ⟨h, .refl db'⟩
  obtain ⟨rfl, -, -⟩ := loadForPosting_ok hload
  obtain ⟨hrow, hdraft, -, -, -, hmatchLines⟩ := planPosting_ok hplan
  obtain ⟨rows, items, row, posted, hrows, -, hfound, hposted, hpost⟩ := finishPosting_ok hfinish
  obtain rfl : row = plan.invoice := Option.some.inj (hfound.symm.trans hrow)
  have hframe := postJournalUnlessEmpty_frame hpost
  have hpayables : db'.payables = { db.payables with
      receiptMatches := db.payables.receiptMatches ++ rows
      invoices := db.payables.invoices.set req.purchaseInvoiceId posted } := by
    rw [hframe]
  have hentry : PostsEntry db db' _ _ _ _ := postsEntry_of_postJournalUnlessEmpty hpost rfl rfl
  obtain ⟨hnotPosted, hnotVoided⟩ := (h.traced.dated _ (mem_of_row hrow)).draft hdraft
  have hpostedAt : posted.val.postedAt = some req.today := by rw [hposted]
  have hvoidedAt : posted.val.voidedAt = none := by rw [hposted]; exact hnotVoided
  have hunposted : ¬PostedInvoice db req.purchaseInvoiceId := by
    rintro ⟨found, hfound, hpostedFound⟩
    obtain rfl : plan.invoice = found := Option.some.inj (hrow.symm.trans hfound)
    exact hpostedFound hnotPosted
  -- the matches are of the lines of the invoice
  have hmatched := matchLines_ok hlots hitems
    (fun l hl => h.traced.lines _ (mem_of_row (mem_rowsWhere.mp hl).1)) hmatchLines
  have hown : ∀ m ∈ plan.matched, db.payables.lines[m.lineId]? = some m.line ∧
      m.line.val.purchaseInvoiceId = req.purchaseInvoiceId :=
    fun m hm => mem_rowsWhere.mp (hmatched m hm).1
  have hrowOwn : ∀ r ∈ rows, ∃ line, db.payables.lines[r.val.purchaseInvoiceLineId]? = some line ∧
      line.val.purchaseInvoiceId = req.purchaseInvoiceId := by
    intro r hr
    have hval : r.val ∈ rows.map Subtype.val := List.mem_map_of_mem hr
    rw [hrows] at hval
    obtain ⟨m, hm, hrm⟩ := List.mem_flatMap.mp hval
    obtain ⟨s, -, hs⟩ := List.mem_map.mp hrm
    rw [← hs]
    exact ⟨m.line, hown m hm⟩
  have hamounts : clearingAndVarianceFromMatches db' req.purchaseInvoiceId
      = (ledgerQuantize (plan.matched.map (·.clearingRaw)).sum,
        ledgerQuantize (plan.matched.map (·.varianceRaw)).sum) :=
    clearingAndVariance_posted (by rw [hpayables]) (by rw [hpayables])
      (h.traced.matchesOf_eq_nil hunposted) hrows hown fun m hm => (hmatched m hm).2
  have hothers : ∀ j, j ≠ req.purchaseInvoiceId →
      clearingAndVarianceFromMatches db' j = clearingAndVarianceFromMatches db j := by
    intro j hj
    refine clearingAndVarianceFromMatches_congr
      (matchesOf_kept ⟨[], by rw [hpayables, List.append_nil]⟩ ⟨rows, by rw [hpayables], ?_⟩
        h.traced.matched_known)
    intro r hr line hline hof
    obtain ⟨found, hfound, hinvoice⟩ := hrowOwn r hr
    rw [hpayables] at hline
    obtain rfl : found = line := Option.some.inj (hfound.symm.trans hline)
    exact hj (hof.symm.trans hinvoice)
  refine ⟨⟨?_, by rw [hpayables]; exact h.totals, ?_, ?_⟩, by rw [hframe], by rw [hframe],
    by rw [hframe], hentry.posts.mono fun t ht => .inl ht⟩
  · refine h.traced.set rows hrow (fun _ => ?_) ⟨fun hstatus => ?_, fun _ _ => ?_, fun hstatus => ?_⟩
      (fun m hm => ⟨?_, hrowOwn m hm⟩) hpayables
    · rw [hpostedAt]
      exact Option.some_ne_none _
    · rw [hposted] at hstatus
      cases hstatus
    · rw [hpostedAt]
      exact Option.some_ne_none _
    · rw [hposted] at hstatus
      cases hstatus
    · rw [hpostedAt]
      exact Option.some_ne_none _
  · refine Mirrored.post h.invoices (by decide) hentry (fun j s a => ?_) ?_ fun j => ?_
    · have hlinesPosted : invoiceEntryLines db' req.purchaseInvoiceId posted
          = purchaseInvoiceJournalLines (ledgerQuantize (plan.matched.map (·.clearingRaw)).sum)
            (ledgerQuantize (plan.matched.map (·.varianceRaw)).sum) plan.invoice.val.taxTotal
            plan.invoice.val.discountTotal plan.invoice.val.grandTotal false := by
        unfold invoiceEntryLines
        rw [hamounts, hposted]
      have hbefore : plan.invoice.val.postedFor = none := by
        unfold PurchaseInvoice.postedFor
        rw [hnotPosted]
        rfl
      have hafter : posted.val.postedFor = some plan.invoice.val.storeId := by
        rw [hposted]
        rfl
      unfold invoiceTaken
      rw [hpayables, takenOf_set hrow hbefore hafter fun j old hj _ _ => ?_, hlinesPosted]
      unfold invoiceEntryLines
      rw [hothers j hj]
    · rintro ⟨found, hfound, hvoided⟩
      obtain rfl : plan.invoice = found := Option.some.inj (hrow.symm.trans hfound)
      exact hvoided hnotVoided
    · rw [invoiceUndone_set hrow (by rw [hpayables])]
      split
      · next hj =>
        subst hj
        refine iff_of_false (fun hvoided => hvoided hvoidedAt) ?_
        rintro ⟨found, hfound, hvoided⟩
        obtain rfl : plan.invoice = found := Option.some.inj (hrow.symm.trans hfound)
        exact hvoided hnotVoided
      · rfl
  · refine h.ways_kept hentry.posts (fun way => ?_) hpayables
    cases way <;> decide

/-- An invoice is voided, by an entry that is its own the other way. -/
theorem PayablesMirrored.void (h : PayablesMirrored db) {row voided : Row PurchaseInvoice}
    {today : Date} {lines : List JournalLine} (hrow : db.payables.invoices[i]? = some row)
    (hvoided : voided.val = { row.val with status := .voided, voidedAt := some today })
    (hentry : PostsEntry db db' row.val.storeId .purchaseInvoiceVoid i lines)
    (hmirror : ∀ s a, (if row.val.storeId = s then net a (lines.map storedLine) else 0)
      = -invoiceTaken db i s a)
    (hpayables : db'.payables = { db.payables with
      invoices := db.payables.invoices.set i voided }) : PayablesMirrored db' := by
  have hinvoices : db'.payables.invoices = db.payables.invoices.set i voided := by rw [hpayables]
  have hvoidedAt : voided.val.voidedAt = some today := by rw [hvoided]
  have hpostedAt : voided.val.postedAt = row.val.postedAt := by rw [hvoided]
  refine ⟨?_, by rw [hpayables]; exact h.totals, ?_, ?_⟩
  -- the void keeps the date of the posting, and adds one of its own
  · refine h.traced.set [] hrow (fun hposted => hpostedAt ▸ hposted)
      ⟨fun hstatus => ?_, fun _ hstatus => ?_, fun _ => ?_⟩ (by simp) ?_
    · rw [hvoided] at hstatus
      cases hstatus
    · exact absurd (by rw [hvoided]) hstatus
    · rw [hvoidedAt]
      exact Option.some_ne_none _
    · rw [hpayables, List.append_nil]
  · refine Mirrored.compensate h.invoices (by decide) hentry hmirror (fun j s a => ?_) fun j => ?_
    -- the matches stay, and so do the amounts that are computed from them
    · have hlines : invoiceEntryLines db' = invoiceEntryLines db := by
        funext k
        unfold invoiceEntryLines clearingAndVarianceFromMatches
        rw [matchesOf_eq, matchesOf_eq, hpayables]
      unfold invoiceTaken
      rw [hlines, hinvoices]
      refine takenOf_rewritten hrow ?_ fun _ => ?_
      · rw [hvoided]
        rfl
      · unfold invoiceEntryLines
        rw [hvoided]
    · rw [invoiceUndone_set hrow hinvoices]
      by_cases hji : j = i
      · simp [hji, hvoidedAt]
      · simp [hji]
  · refine h.ways_kept hentry.posts (fun way => ?_) hpayables
    cases way <;> decide

/-- **A void takes back what its invoice has posted.** -/
theorem voidPurchaseInvoice_mirrored {req : VoidPurchaseInvoice} (h : PayablesMirrored db)
    (hdone : voidPurchaseInvoice db req = .ok db') :
    PayablesMirrored db' ∧ PayablesOnly db db' := by
  rcases voidPurchaseInvoice_steps hdone with rfl | ⟨invoice, hload, hcases⟩
  · exact ⟨h, .refl db'⟩
  obtain ⟨hrow, hstatus⟩ := loadForVoid_ok hload
  have hdated := h.traced.dated invoice (mem_of_row hrow)
  have hkinds : ∀ t : SourceType, t = .purchaseInvoiceVoid → PayablesKind t :=
    fun t ht => .inr (.inl ht)
  rcases hcases with ⟨hposted, plan, hplan, hfinish⟩ | ⟨hnotPosted, hwrite⟩
  · obtain ⟨items, d, row, voided, -, hpost, hfound, hvoided, hdb'⟩ := finishVoid_ok hfinish
    obtain rfl : row = invoice := Option.some.inj (hfound.symm.trans hrow)
    have hframe := postJournalUnlessEmpty_frame hpost
    have hafter : db'.ledger.entries = d.ledger.entries := by rw [hdb']
    have hpayables : db'.payables = { db.payables with
        invoices := db.payables.invoices.set req.purchaseInvoiceId voided } := by
      rw [hdb', hframe]
    have hmirror : ∀ s a, (if row.val.storeId = s then net a ((purchaseInvoiceJournalLines
        plan.clearingAmount plan.priceVarianceAmount row.val.taxTotal row.val.discountTotal
        row.val.grandTotal true).map storedLine) else 0)
          = -invoiceTaken db req.purchaseInvoiceId s a := by
      intro s a
      -- the amounts of the match rows are those that were posted
      have hamounts := clearingAndVariance_eq h.invoices (planVoid_amounts hplan)
      have hlines : purchaseInvoiceJournalLines plan.clearingAmount plan.priceVarianceAmount
          row.val.taxTotal row.val.discountTotal row.val.grandTotal true
            = mirror (invoiceEntryLines db req.purchaseInvoiceId row) := by
        unfold invoiceEntryLines
        rw [← hamounts]
        rfl
      have hpostedFor : row.val.postedFor = some s ↔ row.val.storeId = s := by
        rw [PurchaseInvoice.postedFor_eq_some, and_iff_right]
        exact hdated.posted (by rw [hposted]; decide) (by rw [hposted]; decide)
      unfold invoiceTaken
      rw [takenOf_of_row hrow, hlines, map_storedLine_mirror, net_mirror]
      simp only [hpostedFor]
      split_ifs
      · rfl
      · exact neg_zero.symm
    have hentry : PostsEntry db db' _ _ _ _ :=
      postsEntry_of_postJournalUnlessEmpty hpost rfl hafter
    exact ⟨h.void hrow hvoided hentry hmirror hpayables, by rw [hdb', hframe],
      by rw [hdb', hframe], by rw [hdb', hframe], hentry.posts.mono hkinds⟩
  · obtain ⟨row, voided, hfound, hvoided, hdb'⟩ := writeVoided_eq_ok.mp hwrite
    obtain rfl : row = invoice := Option.some.inj (hfound.symm.trans hrow)
    -- a draft has posted nothing, and its void posts nothing
    have hentry : PostsEntry db db' row.val.storeId .purchaseInvoiceVoid req.purchaseInvoiceId [] :=
      .nothing rfl (by rw [hdb'])
    have hpayables : db'.payables = { db.payables with
        invoices := db.payables.invoices.set req.purchaseInvoiceId voided } := by
      rw [hdb']
    have hmirror : ∀ s a, (if row.val.storeId = s then net a (([] : List JournalLine).map storedLine)
        else 0) = -invoiceTaken db req.purchaseInvoiceId s a := by
      intro s a
      have hnone := (hdated.draft (hstatus.resolve_right hnotPosted)).1
      have hpostedFor : row.val.postedFor ≠ some s :=
        fun hstore => (PurchaseInvoice.postedFor_eq_some.mp hstore).1 hnone
      unfold invoiceTaken
      rw [takenOf_of_row hrow, if_neg hpostedFor, List.map_nil, net_nil, ite_self, neg_zero]
    exact ⟨h.void hrow hvoided hentry hmirror hpayables, by rw [hdb'], by rw [hdb'],
      by rw [hdb'], hentry.posts.mono hkinds⟩

end Invoicing

end GroceryErp
