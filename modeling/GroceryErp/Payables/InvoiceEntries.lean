import GroceryErp.Accounting.Compensations
import GroceryErp.Payables.Settled

/-!
# The entries of invoices

An invoice is posted with what its lines were matched with; its void computes that again
from the match rows.  Quantities and costs of the lots are as their columns keep them, and so
are the slices that are taken of them: the rows say what was posted.

## Main definitions

* `invoiceTaken`, `InvoiceUndone` — what an invoice has posted, and whether it is voided.
* `invoiceEntryLines` — the lines of its entry, with the amounts of its matches.

## Main results

* `clearingAndVariance_posted` — the match rows give the amounts that were posted.
* `clearingAndVariance_eq` — a void takes them back.

## References

`backend/app/modules/ap/service.py`, `post_purchase_invoice`, `void_purchase_invoice`.
-/

namespace GroceryErp

open Decimal Ledger Outcome Rows

/-! ### Lots and slices -/

/-- The quantity and the cost are as columns keep them. -/
def LotSlice.InScale (s : LotSlice) : Prop := OnGrid 3 s.quantity ∧ OnGrid 6 s.unitCost

/-- A lot as its columns keep it. -/
def GoodsReceiptItem.InScale (r : GoodsReceiptItem) : Prop :=
  OnGrid 3 r.quantityReceived ∧ OnGrid 6 r.unitCost

theorem onGrid_min {n : ℕ} {x y : ℚ} (hx : OnGrid n x) (hy : OnGrid n y) : OnGrid n (min x y) := by
  rcases min_choice x y with h | h
  · rw [h]
    exact hx
  · rw [h]
    exact hy

/-- Lots in scale are cut into slices in scale. -/
theorem walkLots_inScale {lots : List (ℕ × Row GoodsReceiptItem)}
    (hlots : ∀ l ∈ lots, l.2.val.InScale) {skip remaining : ℚ} (hskip : OnGrid 3 skip)
    (hremaining : OnGrid 3 remaining) : ∀ s ∈ (walkLots lots skip remaining).1, s.InScale := by
  -- along the lots: a lot is skipped, cut, or taken whole
  induction lots generalizing skip remaining with
  | nil =>
    intro s hs
    cases hs
  | cons lot lots ih =>
    obtain ⟨id, lot⟩ := lot
    have hlot := hlots (id, lot) List.mem_cons_self
    have hrest := fun l hl => hlots l (List.mem_cons_of_mem _ hl)
    unfold walkLots
    split
    · exact ih hrest (hskip.sub hlot.1) hremaining
    · have htake : OnGrid 3 (min (lot.val.quantityReceived - skip) remaining) :=
        onGrid_min (hlot.1.sub hskip) hremaining
      have hfirst : ∀ s ∈ (if 0 < min (lot.val.quantityReceived - skip) remaining then
          [(⟨id, min (lot.val.quantityReceived - skip) remaining, lot.val.unitCost⟩ : LotSlice)]
          else []), s.InScale := by
        intro s hs
        split at hs
        · rw [List.mem_singleton.mp hs]
          exact ⟨htake, hlot.2⟩
        · cases hs
      dsimp only
      split
      · exact hfirst
      · intro s hs
        rcases List.mem_append.mp hs with hs | hs
        · exact hfirst s hs
        · exact ih hrest (onGrid_zero 3) (hremaining.sub htake) s hs

/-- Every line is matched, in slices in scale. -/
theorem matchLines_ok {db : Db} {lines : List (ℕ × Row PurchaseInvoiceLine)}
    {matched : List LineMatch} (hlots : ∀ r ∈ db.purchasing.receiptItems, r.val.InScale)
    (hitems : ∀ i ∈ db.purchasing.orderItems, OnGrid 3 i.val.quantityInvoiced)
    (hlines : ∀ l ∈ lines, OnGrid 3 l.2.val.quantityInvoiced)
    (h : lines.foldlM (matchLine db) [] = .ok matched) :
    ∀ m ∈ matched, (m.lineId, m.line) ∈ lines ∧ ∀ s ∈ m.slices, s.InScale := by
  refine foldlM_induct (fun done t => ∀ m ∈ t, (m.lineId, m.line) ∈ done ∧
    ∀ s ∈ m.slices, s.InScale) h (by simp) ?_
  rintro done line rest t t' rfl ht hstep
  unfold matchLine at hstep
  simp only [bind_eq_ok, orRaise_eq_ok, pure_eq_ok] at hstep
  obtain ⟨item, hitem, slices, hslices, rfl⟩ := hstep
  unfold fifoMatchSlices at hslices
  rw [check_bind_eq_ok, pure_eq_ok] at hslices
  obtain ⟨-, rfl⟩ := hslices
  intro m hm
  rcases List.mem_append.mp hm with hm | hm
  · exact ⟨List.mem_append_left _ (ht m hm).1, (ht m hm).2⟩
  rw [List.mem_singleton.mp hm]
  refine ⟨List.mem_append_right _ List.mem_cons_self, walkLots_inScale (fun l hl => ?_) ?_ ?_⟩
  · exact hlots _ (mem_of_row (mem_rowsWhere.mp hl).1)
  · refine (hitems item (mem_of_row hitem)).add (onGrid_sum _ fun x hx => ?_)
    obtain ⟨k, hk, rfl⟩ := List.mem_map.mp hx
    exact hlines _ (List.mem_append_left _ (ht k (List.mem_filter.mp hk).1).1)
  · exact hlines _ (List.mem_append_right _ List.mem_cons_self)

/-! ### The match rows of an invoice -/

/-- A match with its line, where that is a line of the invoice. -/
def withLine (lines : List (Row PurchaseInvoiceLine)) (purchaseInvoiceId : ℕ)
    (m : Row PurchaseInvoiceReceiptMatch) :
    Option (Row PurchaseInvoiceReceiptMatch × Row PurchaseInvoiceLine) :=
  match lines[m.val.purchaseInvoiceLineId]? with
  | some line => if line.val.purchaseInvoiceId = purchaseInvoiceId then some (m, line) else none
  | none => none

theorem matchesOf_eq (db : Db) (i : ℕ) :
    matchesOf db i = db.payables.receiptMatches.filterMap (withLine db.payables.lines i) := rfl

theorem withLine_eq_none {lines : List (Row PurchaseInvoiceLine)} {i : ℕ}
    {m : Row PurchaseInvoiceReceiptMatch}
    (h : ∀ line, lines[m.val.purchaseInvoiceLineId]? = some line →
      line.val.purchaseInvoiceId ≠ i) : withLine lines i m = none := by
  unfold withLine
  split
  · next line hline => exact if_neg (h line hline)
  · rfl

section Matches

variable {db db' : Db} {i : ℕ}

/-- The rows of an invoice stay those, where none are added for it. -/
theorem matchesOf_kept (hlines : ∃ new, db'.payables.lines = db.payables.lines ++ new)
    (hmatches : ∃ rows, db'.payables.receiptMatches = db.payables.receiptMatches ++ rows ∧
      ∀ m ∈ rows, ∀ line, db'.payables.lines[m.val.purchaseInvoiceLineId]? = some line →
        line.val.purchaseInvoiceId ≠ i)
    (hknown : ∀ m ∈ db.payables.receiptMatches,
      m.val.purchaseInvoiceLineId < db.payables.lines.length) :
    matchesOf db' i = matchesOf db i := by
  obtain ⟨new, hnew⟩ := hlines
  obtain ⟨rows, hrows, hothers⟩ := hmatches
  have hnone : rows.filterMap (withLine db'.payables.lines i) = [] :=
    List.filterMap_eq_nil_iff.mpr fun m hm => withLine_eq_none (hothers m hm)
  rw [matchesOf_eq, matchesOf_eq, hrows, List.filterMap_append, hnone, List.append_nil]
  refine List.filterMap_congr fun m hm => ?_
  unfold withLine
  rw [hnew, List.getElem?_append_left (hknown m hm)]

theorem clearingAndVarianceFromMatches_congr (h : matchesOf db' i = matchesOf db i) :
    clearingAndVarianceFromMatches db' i = clearingAndVarianceFromMatches db i := by
  unfold clearingAndVarianceFromMatches
  rw [h]

/-- What the rows of some matches come to, counted by line. -/
theorem sum_matchRows {lines : List (Row PurchaseInvoiceLine)} {matched : List LineMatch}
    {rows : List (Row PurchaseInvoiceReceiptMatch)}
    (F : PurchaseInvoiceReceiptMatch → PurchaseInvoiceLine → ℚ)
    (hrows : rows.map Subtype.val = matched.flatMap LineMatch.rows)
    (hmatched : ∀ m ∈ matched, lines[m.lineId]? = some m.line ∧
      m.line.val.purchaseInvoiceId = i) :
    ((rows.filterMap (withLine lines i)).map fun r => F r.1.val r.2.val).sum
      = (matched.map fun m => (m.rows.map fun x => F x m.line.val).sum).sum := by
  -- counted by row, with the line that the row names
  let G : PurchaseInvoiceReceiptMatch → ℚ := fun m =>
    match lines[m.purchaseInvoiceLineId]? with
    | some line => if line.val.purchaseInvoiceId = i then F m line.val else 0
    | none => 0
  have hbyRow : ((rows.filterMap (withLine lines i)).map fun r => F r.1.val r.2.val).sum
      = ((rows.map Subtype.val).map G).sum := by
    clear hrows
    induction rows with
    | nil => rfl
    | cons m rows ih =>
      rw [List.filterMap_cons, List.map_cons, List.map_cons, List.sum_cons, ← ih]
      show _ = (match lines[m.val.purchaseInvoiceLineId]? with
        | some line => if line.val.purchaseInvoiceId = i then F m.val line.val else 0
        | none => 0) + _
      unfold withLine
      cases hline : lines[m.val.purchaseInvoiceLineId]? with
      | none => simp
      | some line => by_cases hi : line.val.purchaseInvoiceId = i <;> simp [hi]
  rw [hbyRow, hrows, List.map_flatMap, List.flatMap_def, List.sum_flatten, List.map_map]
  congr 1
  refine List.map_congr_left fun m hm => ?_
  dsimp only [Function.comp_apply]
  congr 1
  refine List.map_congr_left fun x hx => ?_
  obtain ⟨hline, hinvoice⟩ := hmatched m hm
  obtain ⟨s, -, rfl⟩ := List.mem_map.mp hx
  show (match lines[m.lineId]? with
    | some line => if line.val.purchaseInvoiceId = i then F _ line.val else 0
    | none => 0) = _
  rw [hline]
  exact if_pos hinvoice

/-- **The match rows of an invoice give the amounts it was posted with.** -/
theorem clearingAndVariance_posted {matched : List LineMatch}
    {rows : List (Row PurchaseInvoiceReceiptMatch)}
    (hlines : db'.payables.lines = db.payables.lines)
    (hmatches : db'.payables.receiptMatches = db.payables.receiptMatches ++ rows)
    (hnone : matchesOf db i = [])
    (hrows : rows.map Subtype.val = matched.flatMap LineMatch.rows)
    (hmatched : ∀ m ∈ matched, db.payables.lines[m.lineId]? = some m.line ∧
      m.line.val.purchaseInvoiceId = i)
    (hscale : ∀ m ∈ matched, ∀ s ∈ m.slices, s.InScale) :
    clearingAndVarianceFromMatches db' i
      = (ledgerQuantize (matched.map (·.clearingRaw)).sum,
        ledgerQuantize (matched.map (·.varianceRaw)).sum) := by
  -- the invoice had no matches before, so those it has now are the new ones
  have hof : matchesOf db' i = rows.filterMap (withLine db.payables.lines i) := by
    rw [matchesOf_eq] at hnone ⊢
    rw [hmatches, hlines, List.filterMap_append, hnone, List.nil_append]
  unfold clearingAndVarianceFromMatches
  rw [hof]
  dsimp only
  rw [sum_matchRows (fun x _ => x.matchedQuantity * x.matchedUnitCost) hrows hmatched,
    sum_matchRows (fun x l => x.matchedQuantity * (l.unitPrice - x.matchedUnitCost)) hrows
      hmatched]
  congr 3
  -- in scale no column rounds a quantity or a cost of a match
  · refine List.map_congr_left fun m hm => ?_
    unfold LineMatch.rows LineMatch.clearingRaw
    rw [List.map_map]
    congr 1
    refine List.map_congr_left fun s hs => ?_
    obtain ⟨hq, hc⟩ := hscale m hm s hs
    simp only [Function.comp_apply, numeric_eq_self hq, numeric_eq_self hc]
  · refine List.map_congr_left fun m hm => ?_
    unfold LineMatch.rows LineMatch.varianceRaw
    rw [List.map_map]
    congr 1
    refine List.map_congr_left fun s hs => ?_
    obtain ⟨hq, hc⟩ := hscale m hm s hs
    simp only [Function.comp_apply, numeric_eq_self hq, numeric_eq_self hc]

/-! ### What an invoice posts -/

/-- The store an invoice has been posted for, which stays when the invoice is voided and is none for
a draft. -/
def PurchaseInvoice.postedFor (i : PurchaseInvoice) : Option ℕ := i.postedAt.map fun _ => i.storeId

/-- The lines of an invoice, with the amounts that its matches come to. -/
def invoiceEntryLines (db : Db) (purchaseInvoiceId : ℕ) (invoice : Row PurchaseInvoice) :
    List JournalLine :=
  purchaseInvoiceJournalLines (clearingAndVarianceFromMatches db purchaseInvoiceId).1
    (clearingAndVarianceFromMatches db purchaseInvoiceId).2 invoice.val.taxTotal
    invoice.val.discountTotal invoice.val.grandTotal false

/-- What a posted invoice takes from an account of a store, by the row of the invoice. -/
def invoiceTaken (db : Db) : ℕ → ℕ → Account → ℚ :=
  takenOf db.payables.invoices (·.val.postedFor) (invoiceEntryLines db)

/-- The invoice has been voided, so that a second entry takes its amounts back. -/
def InvoiceUndone (db : Db) (i : ℕ) : Prop :=
  ∃ invoice, db.payables.invoices[i]? = some invoice ∧ invoice.val.voidedAt ≠ none

/-- The entries of invoices mirror each other: what is posted for one is what it takes, and for one
that is voided the same the other way as well. -/
def InvoicesMirrored (db : Db) : Prop :=
  Mirrored db .purchaseInvoice .purchaseInvoiceVoid (invoiceTaken db) (InvoiceUndone db)

theorem PurchaseInvoice.postedFor_eq_some {i : PurchaseInvoice} {s : ℕ} :
    i.postedFor = some s ↔ i.postedAt ≠ none ∧ i.storeId = s := by
  unfold PurchaseInvoice.postedFor
  cases i.postedAt <;> simp

/-- An invoice without matches posts no clearing and no variance. -/
theorem account_of_no_matches {taxTotal discountTotal grandTotal : ℚ} {l : JournalLine}
    (h : l ∈ purchaseInvoiceJournalLines 0 0 taxTotal discountTotal grandTotal false) :
    l.account ≠ .purchaseClearing ∧ l.account ≠ .purchasePriceVariance := by
  have hdebit : ∀ a : Account, debitIf a (0 : ℚ) = [] := fun _ => if_neg (lt_irrefl 0)
  have hcredit : ∀ a : Account, creditIf a (-0 : ℚ) = [] := fun _ => if_neg (by simp)
  unfold purchaseInvoiceJournalLines at h
  simp only [Bool.false_eq_true, if_false, hdebit, hcredit, List.nil_append, List.mem_append] at h
  rcases h with (h | h) | h
  · rw [account_of_mem_debitIf h]
    decide
  · rw [account_of_mem_creditIf h]
    decide
  · rw [account_of_mem_creditIf h]
    decide

/-- A plan has the amounts that a void takes back. -/
theorem planVoid_amounts {req : VoidPurchaseInvoice} {lines : List (ℕ × Row PurchaseInvoiceLine)}
    {plan : VoidPlan} (h : planVoid db req lines = .ok plan) :
    clearingAndVariance db req.purchaseInvoiceId
      = .ok (plan.clearingAmount, plan.priceVarianceAmount) := by
  unfold planVoid at h
  simp only [bind_eq_ok, pure_eq_ok] at h
  obtain ⟨amounts, hamounts, items, -, rfl⟩ := h
  exact hamounts

/-- **A void takes the amounts of the match rows**, be it from them or, where there are none,
from the entry. -/
theorem clearingAndVariance_eq (h : InvoicesMirrored db) {amounts : ℚ × ℚ}
    (hamounts : clearingAndVariance db i = .ok amounts) :
    amounts = clearingAndVarianceFromMatches db i := by
  unfold clearingAndVariance at hamounts
  split at hamounts
  · rw [pure_eq_ok] at hamounts
    exact hamounts.symm
  next hmatches =>
  rw [not_not] at hmatches
  have hzero : clearingAndVarianceFromMatches db i = (0, 0) := by
    unfold clearingAndVarianceFromMatches
    rw [hmatches]
    simp [ledgerQuantize]
  rw [hzero]
  unfold clearingAndVarianceFromJournal at hamounts
  rw [bind_eq_ok] at hamounts
  obtain ⟨found, hfound, hamounts⟩ := hamounts
  cases found with
  | none =>
    rw [pure_eq_ok] at hamounts
    exact hamounts.symm
  | some entry =>
    rw [pure_eq_ok] at hamounts
    have hentries := scalarOneOrNone_eq_some.mp hfound
    -- the entry has been posted without clearing and variance
    have hentry : ∀ a, documentNet db .purchaseInvoice i entry.val.storeId a
        = net a entry.val.lines := by
      intro a
      have hof : documentNet db .purchaseInvoice i entry.val.storeId a
          = sumWhere (fun e => e.val.storeId = entry.val.storeId) (entryNet a)
            (db.ledger.entries.filter fun e =>
              e.val.sourceType = .purchaseInvoice ∧ e.val.sourceId = i) := by
        rw [sumWhere_filter]
        refine sumWhere_congr (fun e _ => ?_) fun _ _ _ => rfl
        simp only [entrySource, Prod.mk.injEq]
        exact and_comm
      rw [hof, hentries, sumWhere_singleton, if_pos rfl]
      rfl
    have hnone : ∀ a, a = .purchaseClearing ∨ a = .purchasePriceVariance →
        net a entry.val.lines = 0 := by
      intro a ha
      rw [← hentry, h.original]
      unfold invoiceTaken takenOf
      split
      · split
        · refine net_map_storedLine_eq_zero fun l hl => ?_
          unfold invoiceEntryLines at hl
          rw [hzero] at hl
          obtain ⟨hclearing, hvariance⟩ := account_of_no_matches hl
          rcases ha with rfl | rfl
          · exact hclearing
          · exact hvariance
        · rfl
      · rfl
    rw [← hamounts, hnone _ (.inl rfl), hnone _ (.inr rfl)]

end Matches

end GroceryErp
