import GroceryErp.Payables.Reports

/-!
# Three accounts of what is owed

What is owed to suppliers can be read off the invoices, off the entries to Accounts Payable, and
off the documents of the statements.  Every request of the payables moves the three alike, by one
amount for one store and one supplier.

## Main definitions

* `ledgerOwed` — what the entries say is owed.
* `LiabilityMoved` — the three accounts have moved by one amount.
* `LiabilitiesAgree` — they say the same.
* `PayablesStanding` — invoices, allocations and documents say the same of each other.

## Main results

* `LiabilitiesAgree.moved` — what moves the three accounts alike keeps them in agreement.
* `LiabilityMoved.recorded`, `LiabilityMoved.reversed`, `LiabilityMoved.rewritten`,
  `LiabilityMoved.drafted` — how documents, their reversals and invoices move them.
* `PayablesStanding.recorded`, `PayablesStanding.reversed`, `PayablesStanding.rewritten`,
  `PayablesStanding.drafted` — and what they leave standing.

## References

`backend/app/modules/ap/service.py`, `backend/app/modules/accounting/service.py`.
-/

namespace GroceryErp

open Decimal Ledger Outcome Rows

/-! ### Three accounts -/

/-- What the entries of some stores say is owed. -/
def ledgerOwed (db : Db) (p : ℕ → Prop) [DecidablePred p] : ℚ :=
  -sumWhere (fun e => p e.val.storeId) (entryNet .accountsPayable) db.ledger.entries

/-- An amount for a store and a supplier is added to what is owed, by all three accounts. -/
structure LiabilityMoved (s u : ℕ) (x : ℚ) (db db' : Db) : Prop where
  owed : ∀ (p : ℕ → ℕ → Prop) [∀ s u, Decidable (p s u)],
    owedBy db' p = owedBy db p + if p s u then x else 0
  ledger : ∀ (p : ℕ → Prop) [DecidablePred p],
    ledgerOwed db' p = ledgerOwed db p + if p s then x else 0
  statement : ∀ (p : ℕ → ℕ → Prop) [∀ s u, Decidable (p s u)],
    statementTotal db' p = statementTotal db p + if p s u then x else 0

/-- The three accounts say the same of what is owed. -/
structure LiabilitiesAgree (db : Db) : Prop where
  ledger : ∀ (p : ℕ → Prop) [DecidablePred p], ledgerOwed db p = owedBy db fun s _ => p s
  statement : ∀ (p : ℕ → ℕ → Prop) [∀ s u, Decidable (p s u)], statementTotal db p = owedBy db p

section Accounts

variable {db db' : Db} {s u : ℕ} {x : ℚ}

/-- **What moves the three accounts alike keeps them in agreement.** -/
theorem LiabilitiesAgree.moved (h : LiabilitiesAgree db) (hmoved : LiabilityMoved s u x db db') :
    LiabilitiesAgree db' where
  ledger p _ := by rw [hmoved.ledger, h.ledger, hmoved.owed]
  statement p _ := by rw [hmoved.statement, h.statement, hmoved.owed]

/-- Where payables and entries are what they were, nothing has moved. -/
theorem LiabilityMoved.of_eq (hpayables : db'.payables = db.payables)
    (hledger : ∀ (p : ℕ → Prop) [DecidablePred p], ledgerOwed db' p = ledgerOwed db p) :
    LiabilityMoved s u 0 db db' where
  owed p _ := by
    unfold owedBy
    rw [hpayables, ite_self, add_zero]
  ledger p _ := by rw [hledger, ite_self, add_zero]
  statement p _ := by
    unfold statementTotal invoicedBy SettlementWay.recorded SettlementWay.takenBack
      SettlementWay.documentRows SettlementWay.book
    rw [hpayables, ite_self, add_zero]

theorem LiabilityMoved.refl (db : Db) : LiabilityMoved s u 0 db db := .of_eq rfl fun _ _ => rfl

/-- A commit keeps the payables and the entries. -/
theorem LiabilityMoved.commit (h : LiabilityMoved s u x db db') :
    LiabilityMoved s u x db db'.commit :=
  ⟨h.owed, h.ledger, h.statement⟩

variable {storeId sourceId : ℕ} {postingDate : Date} {sourceType : SourceType}
  {lines : List JournalLine}

theorem ledgerOwed_congr (h : db'.ledger.entries = db.ledger.entries) (p : ℕ → Prop)
    [DecidablePred p] : ledgerOwed db' p = ledgerOwed db p := by
  unfold ledgerOwed
  rw [h]

theorem ledgerOwed_postJournal
    (h : postJournal db storeId postingDate sourceType sourceId lines = .ok db') (p : ℕ → Prop)
    [DecidablePred p] : ledgerOwed db' p
      = ledgerOwed db p + if p storeId then -net .accountsPayable (lines.map storedLine) else 0 := by
  unfold ledgerOwed
  rw [sumWhere_postJournal h fun e => p e.storeId, neg_add]
  split_ifs <;> simp

theorem ledgerOwed_postJournalUnlessEmpty
    (h : postJournalUnlessEmpty db storeId postingDate sourceType sourceId lines = .ok db')
    (p : ℕ → Prop) [DecidablePred p] : ledgerOwed db' p
      = ledgerOwed db p + if p storeId then -net .accountsPayable (lines.map storedLine) else 0 := by
  unfold ledgerOwed
  rw [sumWhere_postJournalUnlessEmpty h fun e => p e.storeId, neg_add]
  split_ifs <;> simp

end Accounts

/-! ### Invoices and their status -/

theorem InvoiceStatus.IsOutstanding.counted {x : InvoiceStatus} (h : x.IsOutstanding) :
    x.Counted := by
  rcases h with rfl | rfl <;> decide

namespace PurchaseInvoice

variable {i : PurchaseInvoice}

/-- After its status has been recomputed an invoice owes its balance. -/
theorem owed_recomputeStatus (h : i.amountPaid + i.amountCredited ≤ i.grandTotal) :
    i.recomputeStatus.owed = i.outstandingBalance := by
  unfold owed recomputeStatus outstandingBalance InvoiceStatus.IsOutstanding
  dsimp only
  by_cases hfull : i.grandTotal ≤ i.amountPaid + i.amountCredited
  · have hnone : i.grandTotal - i.amountPaid - i.amountCredited = 0 := by linarith
    simp [hfull, hnone]
  · by_cases hsome : 0 < i.amountPaid + i.amountCredited <;> simp [hfull, hsome]

theorem counted_recomputeStatus (i : PurchaseInvoice) : i.recomputeStatus.status.Counted := by
  unfold recomputeStatus
  dsimp only
  split_ifs <;> decide

/-- What is settled is no longer owed. -/
theorem outstandingBalance_settle (way : SettlementWay) (i : PurchaseInvoice) (x : ℚ) :
    (way.settle i x).outstandingBalance = i.outstandingBalance - x := by
  cases way <;> simp only [SettlementWay.settle, pay, credit, outstandingBalance] <;> ring

/-- What of an invoice a settlement leaves alone, by which it belongs to the same account before and
after. -/
structure SameParties (i j : PurchaseInvoice) : Prop where
  storeId : j.storeId = i.storeId
  supplierId : j.supplierId = i.supplierId
  grandTotal : j.grandTotal = i.grandTotal

theorem sameParties_settle (way : SettlementWay) (i : PurchaseInvoice) (x : ℚ) :
    i.SameParties (way.settle i x).recomputeStatus := by
  cases way <;> exact ⟨rfl, rfl, rfl⟩

end PurchaseInvoice

/-! ### What stands in the tables -/

/-- An invoice stands as its allocations say: nothing is settled of one that is a draft, posted or
voided, and one that is paid is paid in full. -/
structure InvoiceStanding (db : Db) (i : ℕ) (invoice : PurchaseInvoice) : Prop where
  settled : ∀ way : SettlementWay, way.settled invoice = (way.book db).unreversed i
  clear : invoice.status ≠ .partiallyPaid → invoice.status ≠ .paid →
    ∀ way : SettlementWay, (way.book db).Clear i
  full : invoice.status = .paid → invoice.outstandingBalance = 0
  total : OnGrid 2 invoice.grandTotal

/-- The invoice is there, for the store and of the supplier. -/
def OfParties (db : Db) (storeId supplierId i : ℕ) : Prop :=
  ∃ invoice, db.payables.invoices[i]? = some invoice ∧ invoice.val.storeId = storeId ∧
    invoice.val.supplierId = supplierId

/-- Invoices, allocations and documents say the same of each other: a document is allocated in
full, to invoices of its own store and supplier. -/
structure PayablesStanding (db : Db) : Prop where
  books : ∀ way : SettlementWay, (way.book db).Valid
  invoices : ∀ (i : ℕ) (invoice : Row PurchaseInvoice),
    db.payables.invoices[i]? = some invoice → InvoiceStanding db i invoice.val
  allocated : ∀ (way : SettlementWay) (d : ℕ) (document : SettlementDocument),
    (way.documentRows db)[d]? = some document →
    (((way.book db).inputsOf d).map (·.amount)).sum = document.amount ∧
    ∀ a ∈ (way.book db).inputsOf d,
      OfParties db document.storeId document.supplierId a.purchaseInvoiceId

/-! ### How the accounts move -/

/-- The invoices that some inputs are allocated to are of one store and one supplier, and owe what
is left of their totals. -/
def AreOwed (t : List (Row PurchaseInvoice)) (s u : ℕ) (inputs : List PaymentAllocationInput) :
    Prop :=
  ∀ a ∈ inputs, ∃ invoice, t[a.purchaseInvoiceId]? = some invoice ∧ invoice.val.storeId = s ∧
    invoice.val.supplierId = u ∧ invoice.val.status.Counted ∧
    invoice.val.owed = invoice.val.outstandingBalance

section Settling

variable {t t' : List (Row PurchaseInvoice)} {way : SettlementWay}
  {inputs : List PaymentAllocationInput} {s u : ℕ}

/-- The invoice an input is allocated to. -/
theorem AreOwed.row (h : AreOwed t s u inputs) {i : ℕ} {old : Row PurchaseInvoice}
    (hold : t[i]? = some old) (hi : i ∈ inputs.map (·.purchaseInvoiceId)) :
    old.val.storeId = s ∧ old.val.supplierId = u ∧ old.val.status.Counted ∧
      old.val.owed = old.val.outstandingBalance := by
  obtain ⟨a, ha, rfl⟩ := List.mem_map.mp hi
  obtain ⟨invoice, hinvoice, hrest⟩ := h a ha
  obtain rfl : old = invoice := Option.some.inj (hold.symm.trans hinvoice)
  exact hrest

/-- **What is settled is owed no longer.** -/
theorem Settled.owed (h : Settled way inputs t t') (howed : AreOwed t s u inputs)
    (p : ℕ → ℕ → Prop) [∀ s u, Decidable (p s u)] :
    sumWhere (fun i => p i.val.storeId i.val.supplierId) (·.val.owed) t'
      = sumWhere (fun i => p i.val.storeId i.val.supplierId) (·.val.owed) t
        + if p s u then -(inputs.map (·.amount)).sum else 0 := by
  have hlt : ∀ a ∈ inputs, a.purchaseInvoiceId < t.length := by
    intro a ha
    obtain ⟨invoice, hinvoice, -⟩ := howed a ha
    exact (List.getElem?_eq_some_iff.mp hinvoice).1
  rw [sumWhere_eq_sum_map, sumWhere_eq_sum_map,
    h.sum_map _ (fun i => if p s u then -allocatedTo inputs i else 0) ?_]
  · congr 1
    split
    · rw [Finset.sum_neg_distrib]
      exact congrArg _ (sum_range_sumWhere _ hlt)
    · exact Finset.sum_const_zero
  intro i old new hold hnew
  rcases hnew with ⟨hnot, rfl⟩ | ⟨hmem, hval⟩
  · rw [allocatedTo_of_not_mem hnot, neg_zero, ite_self, add_zero]
  · obtain ⟨rfl, rfl, -, hbalance⟩ := howed.row hold hmem
    have hparties := PurchaseInvoice.sameParties_settle way old.val (allocatedTo inputs i)
    -- the new row is within its total, so it owes what is left
    have hwithin := new.property.settled_le
    rw [hval] at hwithin
    have hleft := PurchaseInvoice.owed_recomputeStatus
      (i := way.settle old.val (allocatedTo inputs i)) hwithin
    rw [hval, hparties.storeId, hparties.supplierId, hbalance]
    split
    · refine hleft.trans ?_
      rw [PurchaseInvoice.outstandingBalance_settle, sub_eq_add_neg]
    · rw [add_zero]

/-- Settling changes nothing of what has been invoiced. -/
theorem Settled.invoiced (h : Settled way inputs t t') (howed : AreOwed t s u inputs)
    (p : ℕ → ℕ → Prop) [∀ s u, Decidable (p s u)] :
    sumWhere (fun i => i.val.status.Counted ∧ p i.val.storeId i.val.supplierId) (·.val.grandTotal) t'
      = sumWhere (fun i => i.val.status.Counted ∧ p i.val.storeId i.val.supplierId)
        (·.val.grandTotal) t := by
  rw [sumWhere_eq_sum_map, sumWhere_eq_sum_map, h.sum_map _ (fun _ => 0) ?_, Finset.sum_const_zero,
    add_zero]
  intro i old new hold hnew
  rw [add_zero]
  rcases hnew with ⟨-, rfl⟩ | ⟨hmem, hval⟩
  · rfl
  · obtain ⟨-, -, hcounted, -⟩ := howed.row hold hmem
    have hparties := PurchaseInvoice.sameParties_settle way old.val (allocatedTo inputs i)
    have hafter := PurchaseInvoice.counted_recomputeStatus (way.settle old.val (allocatedTo inputs i))
    rw [hval, hparties.storeId, hparties.supplierId, hparties.grandTotal]
    simp only [hcounted, hafter, true_and]

end Settling

section Moves

variable {db db' : Db} {way : SettlementWay} {document : SettlementDocument}
  {inputs : List PaymentAllocationInput}

theorem recorded_append (h : way.documentRows db' = way.documentRows db ++ [document])
    (p : ℕ → ℕ → Prop) [∀ s u, Decidable (p s u)] :
    way.recorded db' p = way.recorded db p
      + if p document.storeId document.supplierId then document.amount else 0 := by
  unfold SettlementWay.recorded
  rw [h, sumWhere_append, sumWhere_singleton]

/-- Reversals are of documents that are there, so that a new one is not among them. -/
theorem takenBack_append (h : way.documentRows db' = way.documentRows db ++ [document])
    (hreversed : (way.book db').reversed = (way.book db).reversed)
    (hknown : ∀ d ∈ (way.book db).reversed, d < (way.documentRows db).length)
    (p : ℕ → ℕ → Prop) [∀ s u, Decidable (p s u)] :
    way.takenBack db' p = way.takenBack db p := by
  unfold SettlementWay.takenBack
  rw [h, hreversed]
  congr 1
  refine List.filterMap_congr fun d hd => ?_
  exact List.getElem?_append_left (hknown d hd)

theorem takenBack_reverse {d : ℕ} (h : way.documentRows db' = way.documentRows db)
    (hreversed : (way.book db').reversed = (way.book db).reversed ++ [d])
    (hdocument : (way.documentRows db)[d]? = some document)
    (p : ℕ → ℕ → Prop) [∀ s u, Decidable (p s u)] :
    way.takenBack db' p = way.takenBack db p
      + if p document.storeId document.supplierId then document.amount else 0 := by
  unfold SettlementWay.takenBack
  rw [h, hreversed, List.filterMap_append, sumWhere_append]
  congr 1
  rw [List.filterMap_cons, hdocument, List.filterMap_nil, sumWhere_singleton]

theorem settlement_congr (h : way.documentRows db' = way.documentRows db)
    (hbook : way.book db' = way.book db) (p : ℕ → ℕ → Prop) [∀ s u, Decidable (p s u)] :
    way.recorded db' p = way.recorded db p ∧ way.takenBack db' p = way.takenBack db p := by
  unfold SettlementWay.recorded SettlementWay.takenBack
  rw [h, hbook]
  exact ⟨rfl, rfl⟩

/-- **A payment or a credit note lowers what is owed by its amount.** -/
theorem LiabilityMoved.recorded (way : SettlementWay) (document : SettlementDocument)
    (hdocuments : ∀ other : SettlementWay, other.documentRows db'
      = if other = way then way.documentRows db ++ [document] else other.documentRows db)
    (hreversed : ∀ other : SettlementWay, (other.book db').reversed = (other.book db).reversed)
    (hknown : ∀ d ∈ (way.book db).reversed, d < (way.documentRows db).length)
    (hinvoices : Settled way inputs db.payables.invoices db'.payables.invoices)
    (howed : AreOwed db.payables.invoices document.storeId document.supplierId inputs)
    (hsum : (inputs.map (·.amount)).sum = document.amount)
    (hledger : ∀ (p : ℕ → Prop) [DecidablePred p],
      ledgerOwed db' p = ledgerOwed db p + if p document.storeId then -document.amount else 0) :
    LiabilityMoved document.storeId document.supplierId (-document.amount) db db' where
  owed p _ := hsum ▸ hinvoices.owed howed p
  ledger := hledger
  statement p _ := by
    have hway := (hdocuments way).trans (if_pos rfl)
    have hinvoiced : invoicedBy db' p = invoicedBy db p := hinvoices.invoiced howed p
    -- the documents of the other way stay as they were
    have hother : ∀ other : SettlementWay, other ≠ way →
        other.recorded db' p = other.recorded db p ∧
          other.takenBack db' p = other.takenBack db p := by
      intro other hne
      unfold SettlementWay.recorded SettlementWay.takenBack
      rw [hdocuments, if_neg hne, hreversed]
      exact ⟨rfl, rfl⟩
    unfold statementTotal
    -- the statement has one more line, on the side of what was settled
    cases way with
    | payment =>
      obtain ⟨hnotes, hnotesBack⟩ := hother .creditNote (by decide)
      rw [hinvoiced, recorded_append hway, takenBack_append hway (hreversed _) hknown, hnotes,
        hnotesBack]
      split_ifs <;> ring
    | creditNote =>
      obtain ⟨hpayments, hback⟩ := hother .payment (by decide)
      rw [hinvoiced, recorded_append hway, takenBack_append hway (hreversed _) hknown, hpayments,
        hback]
      split_ifs <;> ring

/-- **A reversal raises it again**, in the invoices, in the ledger and on the statement alike. -/
theorem LiabilityMoved.reversed (way : SettlementWay) {d : ℕ}
    (hdocuments : ∀ other : SettlementWay, other.documentRows db' = other.documentRows db)
    (hreversed : ∀ other : SettlementWay, (other.book db').reversed
      = if other = way then (way.book db).reversed ++ [d] else (other.book db).reversed)
    (hdocument : (way.documentRows db)[d]? = some document)
    (hinvoices : Settled way inputs db.payables.invoices db'.payables.invoices)
    (howed : AreOwed db.payables.invoices document.storeId document.supplierId inputs)
    (hsum : (inputs.map (·.amount)).sum = -document.amount)
    (hledger : ∀ (p : ℕ → Prop) [DecidablePred p],
      ledgerOwed db' p = ledgerOwed db p + if p document.storeId then document.amount else 0) :
    LiabilityMoved document.storeId document.supplierId document.amount db db' where
  owed p _ := by
    have hmoved := hinvoices.owed howed p
    rw [hsum, neg_neg] at hmoved
    exact hmoved
  ledger := hledger
  statement p _ := by
    have hway := (hreversed way).trans (if_pos rfl)
    have hinvoiced : invoicedBy db' p = invoicedBy db p := hinvoices.invoiced howed p
    have hrecorded : ∀ other : SettlementWay, other.recorded db' p = other.recorded db p := by
      intro other
      unfold SettlementWay.recorded
      rw [hdocuments]
    have hother : ∀ other : SettlementWay, other ≠ way →
        other.takenBack db' p = other.takenBack db p := by
      intro other hne
      unfold SettlementWay.takenBack
      rw [hdocuments, hreversed, if_neg hne]
    -- the document stays on the statement, and a line that takes it back joins it
    unfold statementTotal
    rw [hinvoiced, hrecorded, hrecorded]
    cases way with
    | payment =>
      rw [takenBack_reverse (hdocuments _) hway hdocument, hother .creditNote (by decide)]
      ring
    | creditNote =>
      rw [takenBack_reverse (hdocuments _) hway hdocument, hother .payment (by decide)]
      ring

/-- An invoice that is posted or voided moves it by what it comes to owe. -/
theorem LiabilityMoved.rewritten {i : ℕ} {row row' : Row PurchaseInvoice} {x : ℚ}
    (hdocuments : ∀ way : SettlementWay, way.documentRows db' = way.documentRows db)
    (hbooks : ∀ way : SettlementWay, way.book db' = way.book db)
    (hrow : db.payables.invoices[i]? = some row)
    (hinvoices : db'.payables.invoices = db.payables.invoices.set i row')
    (hparties : row.val.SameParties row'.val) (howed : row'.val.owed = row.val.owed + x)
    (hcounted : (if row'.val.status.Counted then row'.val.grandTotal else 0)
      = (if row.val.status.Counted then row.val.grandTotal else 0) + x)
    (hledger : ∀ (p : ℕ → Prop) [DecidablePred p],
      ledgerOwed db' p = ledgerOwed db p + if p row.val.storeId then x else 0) :
    LiabilityMoved row.val.storeId row.val.supplierId x db db' where
  owed p _ := by
    unfold owedBy
    rw [hinvoices, sumWhere_set _ _ hrow, hparties.storeId, hparties.supplierId, howed]
    split_ifs <;> ring
  ledger := hledger
  -- the statement counts the invoice once it is posted, and no settlement changes
  statement p _ := by
    have hinvoiced : invoicedBy db' p = invoicedBy db p
        + if p row.val.storeId row.val.supplierId then x else 0 := by
      unfold invoicedBy
      rw [hinvoices, sumWhere_set _ _ hrow, hparties.storeId, hparties.supplierId]
      by_cases hp : p row.val.storeId row.val.supplierId
      · simp only [hp, and_true, if_true]
        rw [hcounted]
        ring
      · simp [hp]
    obtain ⟨hpayments, hback⟩ := settlement_congr (hdocuments .payment) (hbooks .payment) p
    obtain ⟨hnotes, hnotesBack⟩ := settlement_congr (hdocuments .creditNote) (hbooks .creditNote) p
    unfold statementTotal
    rw [hinvoiced, hpayments, hback, hnotes, hnotesBack]
    ring

/-- A draft that is entered moves nothing. -/
theorem LiabilityMoved.drafted {invoice : Row PurchaseInvoice}
    (hdocuments : ∀ way : SettlementWay, way.documentRows db' = way.documentRows db)
    (hbooks : ∀ way : SettlementWay, way.book db' = way.book db)
    (hinvoices : db'.payables.invoices = db.payables.invoices ++ [invoice])
    (hdraft : invoice.val.status = .draft)
    (hentries : db'.ledger.entries = db.ledger.entries) :
    LiabilityMoved invoice.val.storeId invoice.val.supplierId 0 db db' where
  owed p _ := by
    have hnone : invoice.val.owed = 0 := if_neg (by rw [hdraft]; decide)
    unfold owedBy
    rw [hinvoices, sumWhere_append, sumWhere_singleton, hnone]
  ledger p _ := by rw [ledgerOwed_congr hentries, ite_self, add_zero]
  statement p _ := by
    have hinvoiced : invoicedBy db' p = invoicedBy db p := by
      have hnot : ¬invoice.val.status.Counted := by
        rw [hdraft]
        decide
      unfold invoicedBy
      rw [hinvoices, sumWhere_append, sumWhere_singleton, if_neg fun h => hnot h.1, add_zero]
    obtain ⟨hpayments, hback⟩ := settlement_congr (hdocuments .payment) (hbooks .payment) p
    obtain ⟨hnotes, hnotesBack⟩ := settlement_congr (hdocuments .creditNote) (hbooks .creditNote) p
    unfold statementTotal
    rw [hinvoiced, hpayments, hback, hnotes, hnotesBack, ite_self, add_zero]

end Moves

/-! ### What a request leaves standing -/

/-- The documents of a way are those of its book. -/
theorem length_documentRows (way : SettlementWay) (db : Db) :
    (way.documentRows db).length = (way.book db).documents := by
  cases way <;> simp [SettlementWay.documentRows, SettlementWay.book]

/-- A new document is allocated as it was asked for, and the others are as they were. -/
theorem SettlementBook.Valid.inputsOf_record {b : SettlementBook} (h : b.Valid)
    (inputs : List PaymentAllocationInput) (d : ℕ) :
    (b.record inputs).inputsOf d = if d = b.documents then inputs else b.inputsOf d := by
  unfold SettlementBook.inputsOf SettlementBook.record
  dsimp only
  rw [List.filter_append, List.map_append, List.filter_map, List.map_map]
  split
  · next hd =>
    have hold : b.allocations.filter (·.documentId = d) = [] := by
      rw [List.filter_eq_nil_iff]
      intro a ha had
      have hlt := h.known a ha
      rw [of_decide_eq_true had, hd] at hlt
      exact lt_irrefl _ hlt
    have hnew : inputs.filter ((fun a : Allocation => decide (a.documentId = d)) ∘
        fun a => ⟨b.documents, a.purchaseInvoiceId, a.amount⟩) = inputs := by
      rw [List.filter_eq_self]
      exact fun a _ => decide_eq_true hd.symm
    rw [hold, hnew, List.map_nil, List.nil_append]
    exact List.map_id inputs
  · next hd =>
    have hnew : inputs.filter ((fun a : Allocation => decide (a.documentId = d)) ∘
        fun a => ⟨b.documents, a.purchaseInvoiceId, a.amount⟩) = [] := by
      rw [List.filter_eq_nil_iff]
      exact fun a _ had => hd (of_decide_eq_true had).symm
    rw [hnew, List.map_nil, List.append_nil]

section Standing

variable {db db' : Db} {way : SettlementWay} {document : SettlementDocument}
  {inputs : List PaymentAllocationInput}

/-- An invoice whose status has been recomputed from what is settled of it. -/
theorem invoiceStanding_recomputed {i : ℕ} {invoice : Row PurchaseInvoice}
    (hbooks : ∀ way : SettlementWay, (way.book db).Valid)
    (hsettled : ∀ way : SettlementWay, way.settled invoice.val = (way.book db).unreversed i)
    (hstatus : invoice.val.status = invoice.val.recomputeStatus.status)
    (htotal : OnGrid 2 invoice.val.grandTotal) : InvoiceStanding db i invoice.val where
  settled := hsettled
  clear hpartly hpaid way := by
    have hpaidNonneg : 0 ≤ SettlementWay.payment.settled invoice.val :=
      invoice.property.amount_paid_nonneg
    have hcreditedNonneg : 0 ≤ SettlementWay.creditNote.settled invoice.val :=
      invoice.property.amount_credited_nonneg
    have hnone : ¬0 < SettlementWay.payment.settled invoice.val
        + SettlementWay.creditNote.settled invoice.val := by
      intro hsome
      by_cases hfull : invoice.val.grandTotal ≤ invoice.val.amountPaid + invoice.val.amountCredited
      · exact hpaid (hstatus.trans ((recomputeStatus_eq_paid _).mpr hfull))
      · exact hpartly (hstatus.trans
          ((recomputeStatus_eq_partiallyPaid _).mpr ⟨hsome, not_le.mp hfull⟩))
    rw [← (hbooks way).unreversed_eq_zero, ← hsettled]
    cases way <;> linarith
  full hpaid := by
    have hle := invoice.property.settled_le
    have hfull := (recomputeStatus_eq_paid _).mp (hstatus.symm.trans hpaid)
    unfold PurchaseInvoice.outstandingBalance
    linarith
  total := htotal

/-- An invoice that no request touches, while its allocations come to the same. -/
theorem InvoiceStanding.untouched {i : ℕ} {invoice : PurchaseInvoice}
    (h : InvoiceStanding db i invoice)
    (hsums : ∀ way : SettlementWay, (way.book db').unreversed i = (way.book db).unreversed i)
    (hclear : ∀ way : SettlementWay, (way.book db).Clear i → (way.book db').Clear i) :
    InvoiceStanding db' i invoice where
  settled way := (h.settled way).trans (hsums way).symm
  clear hpartly hpaid way := hclear way (h.clear hpartly hpaid way)
  full := h.full
  total := h.total

/-- Settled invoices keep their stores and suppliers. -/
theorem OfParties.settled {s u i : ℕ} (h : OfParties db s u i)
    (hinvoices : Settled way inputs db.payables.invoices db'.payables.invoices) :
    OfParties db' s u i := by
  obtain ⟨old, hold, hstore, hsupplier⟩ := h
  obtain ⟨new, hnew, ⟨-, rfl⟩ | ⟨-, hval⟩⟩ := hinvoices.2 i old hold
  · exact ⟨new, hnew, hstore, hsupplier⟩
  · have hparties := PurchaseInvoice.sameParties_settle way old.val (allocatedTo inputs i)
    refine ⟨new, hnew, ?_, ?_⟩
    · rw [hval, hparties.storeId, hstore]
    · rw [hval, hparties.supplierId, hsupplier]

/-- The invoices of some inputs, settled in one way. -/
theorem InvoiceStanding.settle {i : ℕ} {old new : Row PurchaseInvoice} {x : ℚ}
    (h : InvoiceStanding db i old.val) (hbooks : ∀ way : SettlementWay, (way.book db').Valid)
    (hval : new.val = (way.settle old.val x).recomputeStatus)
    (hway : (way.book db').unreversed i = (way.book db).unreversed i + x)
    (hothers : ∀ other : SettlementWay, other ≠ way → other.book db' = other.book db) :
    InvoiceStanding db' i new.val := by
  have hparties := PurchaseInvoice.sameParties_settle way old.val x
  refine invoiceStanding_recomputed hbooks (fun other => ?_) (by rw [hval]; rfl) ?_
  · rw [hval, SettlementWay.settled_recomputeStatus, SettlementWay.settled_settle, h.settled]
    by_cases hother : other = way
    · rw [if_pos hother, hother, hway]
    · rw [if_neg hother, hothers other hother, add_zero]
  · rw [hval, hparties.grandTotal]
    exact h.total

/-- **A payment or a credit note leaves everything standing.** -/
theorem PayablesStanding.recorded (h : PayablesStanding db) (way : SettlementWay)
    (hamounts : ∀ a ∈ inputs, 0 < a.amount ∧ OnGrid 2 a.amount)
    (hbooks : ∀ other : SettlementWay,
      other.book db' = if other = way then (way.book db).record inputs else other.book db)
    (hdocuments : ∀ other : SettlementWay, other.documentRows db'
      = if other = way then way.documentRows db ++ [document] else other.documentRows db)
    (hinvoices : Settled way inputs db.payables.invoices db'.payables.invoices)
    (howed : AreOwed db.payables.invoices document.storeId document.supplierId inputs)
    (hsum : (inputs.map (·.amount)).sum = document.amount) : PayablesStanding db' := by
  have hvalid : ∀ other : SettlementWay, (other.book db').Valid := by
    intro other
    rw [hbooks]
    split
    · exact (h.books way).record hamounts
    · exact h.books other
  refine ⟨hvalid, fun i new hnew => ?_, fun other d doc hdoc => ?_⟩
  -- an invoice that is not allocated to is what it was, in its own row and in the books
  · obtain ⟨old, hold, ⟨hnot, rfl⟩ | ⟨-, hval⟩⟩ := hinvoices.row hnew
    · refine (h.invoices i new hold).untouched (fun other => ?_) fun other hclear => ?_
      · rw [hbooks]
        split
        · next hother =>
          rw [(h.books way).unreversed_record, allocatedTo_of_not_mem hnot, add_zero, hother]
        · rfl
      · rw [hbooks]
        split
        · next hother => exact (hother ▸ hclear).record hnot
        · exact hclear
    · refine (h.invoices i old hold).settle hvalid hval ?_ fun other hother => ?_
      · rw [hbooks, if_pos rfl, (h.books way).unreversed_record]
      · rw [hbooks, if_neg hother]
  -- the new document has its own allocations, and the others keep theirs
  · rw [hdocuments] at hdoc
    rw [hbooks]
    split at hdoc
    · next hother =>
      rw [if_pos hother, (h.books way).inputsOf_record, ← length_documentRows]
      rcases getElem?_append_singleton_eq_some.mp hdoc with hdoc | ⟨hd, rfl⟩
      · have hlt := (List.getElem?_eq_some_iff.mp hdoc).1
        obtain ⟨hamount, hparties⟩ := h.allocated way d doc hdoc
        rw [if_neg hlt.ne]
        exact ⟨hamount, fun a ha => (hparties a ha).settled hinvoices⟩
      · rw [if_pos hd]
        refine ⟨hsum, fun a ha => ?_⟩
        obtain ⟨invoice, hinvoice, hstore, hsupplier, -⟩ := howed a ha
        exact OfParties.settled ⟨invoice, hinvoice, hstore, hsupplier⟩ hinvoices
    · next hother =>
      rw [if_neg hother]
      obtain ⟨hamount, hparties⟩ := h.allocated other d doc hdoc
      exact ⟨hamount, fun a ha => (hparties a ha).settled hinvoices⟩

/-- **So does a reversal**, which takes back from every invoice what the document had settled of it.
-/
theorem PayablesStanding.reversed (h : PayablesStanding db) (way : SettlementWay) {d : ℕ}
    (hknown : d < (way.book db).documents) (hfresh : d ∉ (way.book db).reversed)
    (hbooks : ∀ other : SettlementWay,
      other.book db' = if other = way then (way.book db).reverse d else other.book db)
    (hdocuments : ∀ other : SettlementWay, other.documentRows db' = other.documentRows db)
    (hinvoices : Settled way (((way.book db).inputsOf d).map (·.back)) db.payables.invoices
      db'.payables.invoices) : PayablesStanding db' := by
  have hvalid : ∀ other : SettlementWay, (other.book db').Valid := by
    intro other
    rw [hbooks]
    split
    · exact (h.books way).reverse hknown
    · exact h.books other
  refine ⟨hvalid, fun i new hnew => ?_, fun other e doc hdoc => ?_⟩
  -- an invoice that the document had not settled is what it was
  · obtain ⟨old, hold, ⟨hnot, rfl⟩ | ⟨-, hval⟩⟩ := hinvoices.row hnew
    · refine (h.invoices i new hold).untouched (fun other => ?_) fun other hclear => ?_
      · rw [hbooks]
        split
        · next hother =>
          have hback := allocatedTo_of_not_mem hnot
          rw [allocatedTo_back, neg_eq_zero] at hback
          rw [SettlementBook.unreversed_reverse hfresh, hback, sub_zero, hother]
        · rfl
      · rw [hbooks]
        split
        · next hother => exact (hother ▸ hclear).reverse d
        · exact hclear
    · refine (h.invoices i old hold).settle hvalid hval ?_ fun other hother => ?_
      · rw [hbooks, if_pos rfl, SettlementBook.unreversed_reverse hfresh, allocatedTo_back,
          sub_eq_add_neg]
      · rw [hbooks, if_neg hother]
  -- the allocations of a document stay in the book after it is reversed
  · rw [hdocuments] at hdoc
    obtain ⟨hamount, hparties⟩ := h.allocated other e doc hdoc
    have hsame : (other.book db').inputsOf e = (other.book db).inputsOf e := by
      rw [hbooks]
      split
      · next hother =>
        subst hother
        rfl
      · rfl
    rw [hsame]
    exact ⟨hamount, fun a ha => (hparties a ha).settled hinvoices⟩

/-- Allocations are to invoices that are there. -/
theorem PayablesStanding.allocation_known (h : PayablesStanding db) (way : SettlementWay)
    {a : Allocation} (ha : a ∈ (way.book db).allocations) :
    a.purchaseInvoiceId < db.payables.invoices.length := by
  have hlt := (h.books way).known a ha
  rw [← length_documentRows] at hlt
  obtain ⟨-, hparties⟩ := h.allocated way _ _ (List.getElem?_eq_getElem hlt)
  have hmem : (⟨a.purchaseInvoiceId, a.amount⟩ : PaymentAllocationInput)
      ∈ (way.book db).inputsOf a.documentId :=
    List.mem_map.mpr ⟨a, List.mem_filter.mpr ⟨ha, decide_eq_true rfl⟩, rfl⟩
  obtain ⟨invoice, hinvoice, -⟩ := hparties _ hmem
  exact (List.getElem?_eq_some_iff.mp hinvoice).1

/-- **So does what becomes of one invoice**, where nothing is settled of it. -/
theorem PayablesStanding.rewritten (h : PayablesStanding db) {i : ℕ} {row row' : Row PurchaseInvoice}
    (hbooks : ∀ way : SettlementWay, way.book db' = way.book db)
    (hdocuments : ∀ way : SettlementWay, way.documentRows db' = way.documentRows db)
    (hrow : db.payables.invoices[i]? = some row)
    (hinvoices : db'.payables.invoices = db.payables.invoices.set i row')
    (hparties : row.val.SameParties row'.val)
    (hsettled : ∀ way : SettlementWay, way.settled row'.val = way.settled row.val)
    (hclear : ∀ way : SettlementWay, (way.book db).Clear i) (hpaid : row'.val.status ≠ .paid) :
    PayablesStanding db' := by
  have hset : ∀ j, db'.payables.invoices[j]?
      = if i = j then some row' else db.payables.invoices[j]? := by
    intro j
    rw [hinvoices, getElem?_set_of_some hrow]
  have hstanding := h.invoices i row hrow
  refine ⟨fun way => hbooks way ▸ h.books way, fun j new hnew => ?_, fun way d doc hdoc => ?_⟩
  -- of the row itself only the status changes, and nothing is settled of it
  · rw [hset] at hnew
    split at hnew
    · next hij =>
      obtain rfl := Option.some.inj hnew
      subst hij
      refine ⟨fun way => ?_, fun _ _ way => ?_, fun hfull => absurd hfull hpaid, ?_⟩
      · rw [hsettled, hbooks, hstanding.settled]
      · rw [hbooks]
        exact hclear way
      · rw [hparties.grandTotal]
        exact hstanding.total
    · refine (h.invoices j new hnew).untouched (fun way => by rw [hbooks]) fun way => ?_
      rw [hbooks]
      exact id
  · rw [hdocuments] at hdoc
    rw [hbooks]
    obtain ⟨hamount, hof⟩ := h.allocated way d doc hdoc
    refine ⟨hamount, fun a ha => ?_⟩
    obtain ⟨invoice, hinvoice, hstore, hsupplier⟩ := hof a ha
    unfold OfParties
    rw [hset]
    by_cases hij : i = a.purchaseInvoiceId
    · obtain rfl : row = invoice := Option.some.inj ((hij ▸ hrow).symm.trans hinvoice)
      exact ⟨row', if_pos hij, hparties.storeId.trans hstore, hparties.supplierId.trans hsupplier⟩
    · exact ⟨invoice, (if_neg hij).trans hinvoice, hstore, hsupplier⟩

/-- **So does a draft that is entered.** -/
theorem PayablesStanding.drafted (h : PayablesStanding db) {invoice : Row PurchaseInvoice}
    (hbooks : ∀ way : SettlementWay, way.book db' = way.book db)
    (hdocuments : ∀ way : SettlementWay, way.documentRows db' = way.documentRows db)
    (hinvoices : db'.payables.invoices = db.payables.invoices ++ [invoice])
    (hsettled : ∀ way : SettlementWay, way.settled invoice.val = 0)
    (hpaid : invoice.val.status ≠ .paid) (htotal : OnGrid 2 invoice.val.grandTotal) :
    PayablesStanding db' := by
  have hnone : ∀ way : SettlementWay, (way.book db).Clear db.payables.invoices.length := by
    intro way a ha hai
    exact absurd (h.allocation_known way ha) (hai ▸ lt_irrefl _)
  refine ⟨fun way => hbooks way ▸ h.books way, fun j new hnew => ?_, fun way d doc hdoc => ?_⟩
  · rw [hinvoices, getElem?_append_singleton_eq_some] at hnew
    rcases hnew with hold | ⟨rfl, rfl⟩
    · refine (h.invoices j new hold).untouched (fun way => by rw [hbooks]) fun way => ?_
      rw [hbooks]
      exact id
    · refine ⟨fun way => ?_, fun _ _ way => ?_, fun hfull => absurd hfull hpaid, htotal⟩
      · rw [hsettled, hbooks, ((h.books way).unreversed_eq_zero _).mpr (hnone way)]
      · rw [hbooks]
        exact hnone way
  · rw [hdocuments] at hdoc
    rw [hbooks]
    obtain ⟨hamount, hof⟩ := h.allocated way d doc hdoc
    refine ⟨hamount, fun a ha => ?_⟩
    obtain ⟨found, hfound, hparties⟩ := hof a ha
    refine ⟨found, ?_, hparties⟩
    rw [hinvoices, getElem?_append_singleton_eq_some]
    exact .inl hfound

end Standing

end GroceryErp
