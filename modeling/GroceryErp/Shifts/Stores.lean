import GroceryErp.Shifts.OffTill
import GroceryErp.Shifts.Sessions
import GroceryErp.Transfers.Requests

/-!
# The store of a shift

A sale or a return is attributed to the open shift of its cashier, whatever the store of the
shift; its entry is in the books of its own store, and the variance of the close in those of
the shift.  A cashier of every store can so leave cash of one store in the shift of another.

## Main definitions

* `AttributedAtHome` — what is attributed to a shift is of its store.
* `BooksAtHome` — what a shift moves on Cash on Hand is in the books of its store.
* `TillRequest` — the requests that move stock, and those on shifts.
* `TillRequest.InOwnStore` — a cashier with an open shift is at its store.

## Main results

* `TillRequest.step` — what one request does to both.
* `shifts_at_home_iff` — over any run of such requests both hold, and the next request keeps the
  first if and only if it is one.
* `shift_in_another_store` — a shift that is opened in one store and sold under in another.

## References

`backend/app/modules/shifts/service.py`, `lock_active_shift_for_cashier`, `open_shift`;
`backend/app/modules/sales/service.py`, `finalize_sale`, `create_sale_return`.
-/

namespace GroceryErp

open Decimal Outcome Rows Runs

/-! ### The property -/

/-- A document of the store is attributed to a shift of the store, if to any. -/
def AtHome (db : Db) (storeId : ℕ) (shiftId : Option ℕ) : Prop :=
  ∀ i, shiftId = some i → HasAt db.shifts.shifts (·.val.storeId) i storeId

/-- Every sale and every return that is attributed to a shift is of the store of the shift. -/
structure AttributedAtHome (db : Db) : Prop where
  sales : ∀ s ∈ db.sales.sales, AtHome db s.val.storeId s.val.shiftId
  returns : ∀ r ∈ db.sales.returns, AtHome db r.val.storeId r.val.shiftId

/-- The entry is for a sale or a return of the shift, or for its close. -/
def OfShift (db : Db) (shiftId : ℕ) (e : Row JournalEntry) : Prop :=
  (e.val.sourceType = .sale ∧
    ∃ s ∈ db.sales.sales[e.val.sourceId]?, s.val.shiftId = some shiftId) ∨
  (e.val.sourceType = .saleReturn ∧
    ∃ r ∈ db.sales.returns[e.val.sourceId]?, r.val.shiftId = some shiftId) ∨
  (e.val.sourceType = .cashShiftVariance ∧ e.val.sourceId = shiftId)

instance decidableOfShift (db : Db) (shiftId : ℕ) : DecidablePred (OfShift db shiftId) :=
  fun _ => inferInstanceAs (Decidable (_ ∨ _ ∨ _))

/-- What the sales, the returns and the close of a shift have moved on Cash on Hand. -/
def shiftCash (db : Db) (shiftId : ℕ) : ℚ :=
  sumWhere (OfShift db shiftId) (entryNet .cashOnHand) db.ledger.entries

/-- What of it is in the books of a store. -/
def shiftCashAt (db : Db) (shiftId storeId : ℕ) : ℚ :=
  sumWhere (fun e => OfShift db shiftId e ∧ e.val.storeId = storeId) (entryNet .cashOnHand)
    db.ledger.entries

/-- All that a shift has moved on Cash on Hand is in the books of its own store. -/
def BooksAtHome (db : Db) : Prop :=
  ∀ (i : ℕ) (shift : Row CashierShift), db.shifts.shifts[i]? = some shift → ∀ storeId,
    shiftCashAt db i storeId = if storeId = shift.val.storeId then shiftCash db i else 0

/-- The entry for a sale, a return or a close is in the books of the store of that. -/
structure EntryAtHome (db : Db) (e : Row JournalEntry) : Prop where
  sale : e.val.sourceType = .sale →
    HasAt db.sales.sales (·.val.storeId) e.val.sourceId e.val.storeId
  saleReturn : e.val.sourceType = .saleReturn →
    HasAt db.sales.returns (·.val.storeId) e.val.sourceId e.val.storeId
  variance : e.val.sourceType = .cashShiftVariance →
    HasAt db.shifts.shifts (·.val.storeId) e.val.sourceId e.val.storeId

/-- All entries of the ledger are in the store of what they account for. -/
def EntriesAtHome (db : Db) : Prop := ∀ e ∈ db.ledger.entries, EntryAtHome db e

/-- Tables without sales, returns and shifts, and without entries for any of these. -/
structure Db.BeforeTills (db : Db) : Prop where
  sales : db.sales.sales = []
  returns : db.sales.returns = []
  shifts : db.shifts.shifts = []
  entries : ∀ e ∈ db.ledger.entries, ¬TillKind e.val.sourceType

section Property

variable {db db' : Db}

/-- **With every attribution at home the books are.** -/
theorem AttributedAtHome.books (h : AttributedAtHome db) (hentries : EntriesAtHome db) :
    BooksAtHome db := by
  intro i shift hshift storeId
  have hstore : ∀ e ∈ db.ledger.entries, OfShift db i e → e.val.storeId = shift.val.storeId := by
    intro e he hof
    have hhome := hentries e he
    rcases hof with ⟨hkind, s, hs, hid⟩ | ⟨hkind, r, hr, hid⟩ | ⟨hkind, hid⟩
    · have hbooked := (hhome.sale hkind).eq_of_row hs
      have hattributed := h.sales s (List.mem_of_getElem? hs) i hid
      rw [← hbooked, hattributed.eq_of_row hshift]
    · have hbooked := (hhome.saleReturn hkind).eq_of_row hr
      have hattributed := h.returns r (List.mem_of_getElem? hr) i hid
      rw [← hbooked, hattributed.eq_of_row hshift]
    · have hbooked := hhome.variance hkind
      rw [hid] at hbooked
      exact (hbooked.eq_of_row hshift).symm
  unfold shiftCashAt shiftCash
  by_cases hown : storeId = shift.val.storeId
  · rw [if_pos hown, hown]
    apply sumWhere_congr
    · intro e he
      exact and_iff_left_of_imp (hstore e he)
    · intro e _ _
      rfl
  · rw [if_neg hown]
    apply sumWhere_eq_zero
    rintro e he ⟨hof, hat⟩
    exact absurd (hat.symm.trans (hstore e he hof)) hown

theorem Db.BeforeTills.attributed (h : db.BeforeTills) : AttributedAtHome db := by
  refine ⟨?_, ?_⟩
  · rw [h.sales]
    exact List.forall_mem_nil _
  · rw [h.returns]
    exact List.forall_mem_nil _

theorem entryAtHome_of_not_tillKind {e : Row JournalEntry} (h : ¬TillKind e.val.sourceType) :
    EntryAtHome db e := by
  refine ⟨?_, ?_, ?_⟩ <;> intro hkind <;> rw [hkind] at h <;> exact absurd (by decide) h

theorem Db.BeforeTills.entriesAtHome (h : db.BeforeTills) : EntriesAtHome db :=
  fun e he => entryAtHome_of_not_tillKind (h.entries e he)

end Property

/-! ### What keeps it -/

/-- Sales, returns and shifts that are there stay in their stores. -/
structure StoresStay (db db' : Db) : Prop where
  sales : ∀ i s, HasAt db.sales.sales (·.val.storeId) i s →
    HasAt db'.sales.sales (·.val.storeId) i s
  returns : ∀ i s, HasAt db.sales.returns (·.val.storeId) i s →
    HasAt db'.sales.returns (·.val.storeId) i s
  shifts : ∀ i s, HasAt db.shifts.shifts (·.val.storeId) i s →
    HasAt db'.shifts.shifts (·.val.storeId) i s

section Kept

variable {db d db' : Db}

theorem EntryAtHome.mono {e : Row JournalEntry} (h : EntryAtHome db e) (hstay : StoresStay db db') :
    EntryAtHome db' e where
  sale hkind := hstay.sales _ _ (h.sale hkind)
  saleReturn hkind := hstay.returns _ _ (h.saleReturn hkind)
  variance hkind := hstay.shifts _ _ (h.variance hkind)

theorem AtHome.mono {storeId : ℕ} {shiftId : Option ℕ} (h : AtHome db storeId shiftId)
    (hstay : StoresStay db db') : AtHome db' storeId shiftId :=
  fun i hi => hstay.shifts i storeId (h i hi)

/-- Entries that are added are at home. -/
theorem EntriesAtHome.next (h : EntriesAtHome db) (hstay : StoresStay db db')
    {new : List (Row JournalEntry)} (hadded : db'.ledger.entries = db.ledger.entries ++ new)
    (hnew : ∀ e ∈ new, EntryAtHome db' e) : EntriesAtHome db' := by
  intro e he
  rw [hadded] at he
  rcases List.mem_append.mp he with hold | hnew'
  · exact (h e hold).mono hstay
  · exact hnew e hnew'

/-- So is the entry of a document that is. -/
theorem EntriesAtHome.post (h : EntriesAtHome db) (hstay : StoresStay db db')
    {storeId sourceId : ℕ} {sourceType : SourceType} {lines : List JournalLine}
    (hpost : PostsEntry db db' storeId sourceType sourceId lines)
    (hhome : ∀ e : Row JournalEntry, e.val.storeId = storeId →
      entrySource e = (sourceType, sourceId) → EntryAtHome db' e) : EntriesAtHome db' := by
  cases hpost with
  | nothing empty entries =>
    have hadded : db'.ledger.entries = db.ledger.entries ++ [] := by
      rw [entries, List.append_nil]
    exact h.next hstay hadded (List.forall_mem_nil _)
  | entry e fresh store source value entries =>
    exact h.next hstay entries (List.forall_mem_singleton.mpr (hhome e store source))

/-- What is off the tills leaves them at home. -/
theorem OffTill.home (h : OffTill db db') :
    (EntriesAtHome db → EntriesAtHome db') ∧ (AttributedAtHome db → AttributedAtHome db') := by
  have hstay : StoresStay db db' := by
    refine ⟨?_, ?_, ?_⟩
    · intro i s hi
      rwa [h.sales]
    · intro i s hi
      rwa [h.sales]
    · intro i s hi
      rwa [h.shifts]
  constructor
  · intro hentries
    obtain ⟨new, hnew, hkinds⟩ := h.posts.added
    exact hentries.next hstay hnew fun e he => entryAtHome_of_not_tillKind (hkinds e he)
  · intro hattributed
    refine ⟨?_, ?_⟩
    · intro s hs
      rw [h.sales] at hs
      exact (hattributed.sales s hs).mono hstay
    · intro r hr
      rw [h.sales] at hr
      exact (hattributed.returns r hr).mono hstay

end Kept

/-! ### Sales and returns -/

/-- The open shifts of the user are of the store. -/
def ShiftsIn (db : Db) (cashierId : Option ℕ) (storeId : ℕ) : Prop :=
  ∀ shift ∈ db.shifts.shifts, some shift.val.cashierId = cashierId →
    shift.val.status = .opened → shift.val.storeId = storeId

instance decidableShiftsIn (db : Db) (cashierId : Option ℕ) (storeId : ℕ) :
    Decidable (ShiftsIn db cashierId storeId) := inferInstanceAs (Decidable (∀ _ ∈ _, _))

section Sales

variable {db d db' : Db} {shiftId : Option ℕ} {storeId : ℕ}

/-- What is attributed is at home if and only if the open shift of the cashier is of the
store. -/
theorem atHome_iff {cashierId : Option ℕ} (h : processingShift db cashierId = .ok shiftId) :
    AtHome db storeId shiftId ↔ ShiftsIn db cashierId storeId := by
  cases cashierId with
  | none =>
    cases h
    constructor
    · rintro - shift - ⟨⟩
    · rintro - i ⟨⟩
  | some cashierId =>
    constructor
    · intro hhome shift hmem hcashier hopen
      obtain ⟨i, hshift⟩ := List.mem_iff_getElem?.mp hmem
      rw [Option.some.injEq] at hcashier
      cases shiftId with
      | none => exact absurd hopen (activeShiftForCashier_none h hshift hcashier)
      | some active =>
        -- the query finds one row at most
        have hfound : i ∈ (rowsWhere (fun s : Row CashierShift =>
            s.val.cashierId = cashierId ∧ s.val.status = .opened) db.shifts.shifts).map Prod.fst :=
          List.mem_map.mpr ⟨(i, shift), mem_rowsWhere.mpr ⟨hshift, hcashier, hopen⟩, rfl⟩
        rw [scalarOneOrNone_eq_some.mp h, List.mem_singleton] at hfound
        subst hfound
        exact (hhome i rfl).eq_of_row hshift
    · rintro hin i rfl
      obtain ⟨shift, hshift, hcashier, hopen⟩ := activeShiftForCashier_ok h
      have hmem := List.mem_of_getElem? hshift
      exact ⟨shift, hshift, hin shift hmem (congrArg some hcashier) hopen⟩

/-- The rows of a sale: one more sale, with the shift that its cashier has open, if any. -/
theorem writeSale_attributed {req : FinalizeSale} {cart : PricedCart} {changeDue : ℚ} {saleId : ℕ}
    (h : writeSale db req cart changeDue = .ok (db', saleId)) :
    saleId = db.sales.sales.length ∧ ∃ (shiftId : Option ℕ) (sale : Row Sale),
      processingShift db (some req.cashierId) = .ok shiftId ∧
      sale.val = saleRow req cart changeDue shiftId ∧
      db'.sales.sales = db.sales.sales ++ [sale] ∧ db'.sales.returns = db.sales.returns ∧
      db'.shifts = db.shifts ∧ db'.ledger.entries = db.ledger.entries := by
  unfold writeSale at h
  simp only [bind_eq_ok, flush_eq_ok, pure_eq_ok, Prod.mk.injEq] at h
  obtain ⟨shiftId, hshift, sale, hsale, d, hd, e, he, rfl, rfl⟩ := h
  obtain ⟨items, -, hframe⟩ := addSaleLines_ok hd
  obtain ⟨payments, -, rfl⟩ := addPayments_ok he
  refine ⟨rfl, shiftId, sale, hshift, hsale, ?_, ?_, ?_, ?_⟩ <;> rw [hframe]

/-- The rows of a return: one more return, with the shift of whoever processes it, and the sale with
its store and shift. -/
theorem writeReturn_attributed {req : CreateSaleReturn} {sale : Row Sale} {lines : List ReturnLine}
    {approval : Bool × Option ℕ} {saleReturnId : ℕ}
    (hsale : db.sales.sales[req.saleId]? = some sale)
    (h : writeReturn db req sale lines approval = .ok (db', saleReturnId)) :
    saleReturnId = db.sales.returns.length ∧ ∃ (shiftId : Option ℕ) (saleReturn : Row SaleReturn),
      processingShift db req.createdBy = .ok shiftId ∧
      saleReturn.val = returnRow req (totalRefund lines) approval shiftId ∧
      db'.sales.sales.map (fun s => (s.val.storeId, s.val.shiftId))
        = db.sales.sales.map (fun s => (s.val.storeId, s.val.shiftId)) ∧
      db'.sales.returns = db.sales.returns ++ [saleReturn] ∧
      db'.shifts = db.shifts ∧ db'.ledger.entries = db.ledger.entries := by
  unfold writeReturn at h
  simp only [bind_eq_ok, flush_eq_ok, pure_eq_ok, Prod.mk.injEq] at h
  obtain ⟨shiftId, hshift, saleReturn, hreturn, saleAfter, hafter, d, hd, rfl, rfl⟩ := h
  obtain ⟨t, hframe⟩ := addReturnLines_frame hd
  refine ⟨rfl, shiftId, saleReturn, hshift, hreturn, ?_, ?_, ?_, ?_⟩
  · -- the sale has a new status
    have hsales : d.sales.sales = db.sales.sales := by rw [hframe]
    show (d.sales.sales.set req.saleId saleAfter).map _ = _
    rw [hsales]
    apply map_set_of_eq hsale
    rw [hafter]
  · show d.sales.returns ++ [saleReturn] = _
    rw [hframe]
  · show d.shifts = _
    rw [hframe]
  · show d.ledger.entries = _
    rw [hframe]

/-- **A sale is booked at home, and attributed at home if its cashier is.** -/
theorem finalizeSale_home {req : FinalizeSale} {saleId : ℕ}
    (h : finalizeSale db req = .ok (db', saleId)) (hentries : EntriesAtHome db)
    (hattributed : AttributedAtHome db) : EntriesAtHome db' ∧ (AttributedAtHome db' ↔
      (saleWithKey db req.clientTransactionId = [] →
        ShiftsIn db (some req.cashierId) req.storeId)) := by
  rcases finalizeSale_ok h with ⟨sale, hfound, rfl⟩ | ⟨hnew, cart, changeDue, d, -, hwrite, hpost⟩
  · refine ⟨hentries, iff_of_true hattributed ?_⟩
    intro hnone
    rw [hfound] at hnone
    cases hnone
  obtain ⟨rfl, shiftId, sale, hshift, hsale, hsales, hreturns, hshifts, hledger⟩ :=
    writeSale_attributed hwrite
  have hframe := postJournal_frame hpost
  have hsales' : db'.sales.sales = db.sales.sales ++ [sale] := by rw [hframe, hsales]
  have hreturns' : db'.sales.returns = db.sales.returns := by rw [hframe, hreturns]
  have hshifts' : db'.shifts = db.shifts := by rw [hframe, hshifts]
  have hstay : StoresStay db db' := by
    refine ⟨?_, ?_, ?_⟩
    · intro i s hi
      rw [hsales']
      exact hi.append [sale]
    · intro i s hi
      rwa [hreturns']
    · intro i s hi
      rwa [hshifts']
  -- a sale is of the store of the request, whoever its cashier is
  have hstore : sale.val.storeId = req.storeId := by
    rw [hsale]
    rfl
  have hid : sale.val.shiftId = shiftId := by
    rw [hsale]
    rfl
  -- the shift is the active one of the cashier, in whatever store it was opened
  have hhome : AtHome db' sale.val.storeId sale.val.shiftId ↔
      ShiftsIn db (some req.cashierId) req.storeId := by
    rw [hstore, hid, ← atHome_iff hshift]
    unfold AtHome
    rw [hshifts']
  constructor
  · refine hentries.post hstay (postsEntry_of_postJournal hpost hledger rfl) ?_
    intro e hbooked hsource
    rw [entrySource, Prod.mk.injEq] at hsource
    obtain ⟨hkind, hsourceId⟩ := hsource
    refine ⟨?_, ?_, ?_⟩
    · intro _
      rw [hsales', hbooked, hsourceId, ← hstore]
      exact .last db.sales.sales sale
    -- the entry of a sale names a sale, and no return or shift
    · intro hother
      rw [hkind] at hother
      cases hother
    · intro hother
      rw [hkind] at hother
      cases hother
  · constructor
    · intro hattributed' _
      refine hhome.mp (hattributed'.sales sale ?_)
      rw [hsales']
      exact List.mem_append_right _ (List.mem_singleton_self sale)
    · intro hin
      refine ⟨?_, ?_⟩
      · intro s hs
        rw [hsales'] at hs
        rcases List.mem_append.mp hs with hold | hlast
        · exact (hattributed.sales s hold).mono hstay
        · rw [List.mem_singleton.mp hlast]
          exact hhome.mpr (hin hnew)
      · intro r hr
        rw [hreturns'] at hr
        exact (hattributed.returns r hr).mono hstay

/-- **So is a return**: whether it is at home depends on the shift of the one who takes it. -/
theorem createSaleReturn_home {req : CreateSaleReturn} {saleReturnId : ℕ}
    (h : createSaleReturn db req = .ok (db', saleReturnId)) (hentries : EntriesAtHome db)
    (hattributed : AttributedAtHome db) : EntriesAtHome db' ∧ (AttributedAtHome db' ↔
      (matchOrRejectIdempotentReturn db req = .ok none →
        ShiftsIn db req.createdBy req.storeId)) := by
  rcases createSaleReturn_ok h with ⟨hfound, rfl⟩ | ⟨hnew, sale, lines, store, approval, d, hplan,
    -, -, hwrite, hpost⟩
  · refine ⟨hentries, iff_of_true hattributed ?_⟩
    intro hnone
    rw [hfound] at hnone
    cases hnone
  obtain ⟨hsale, -⟩ := planReturn_ok hplan
  obtain ⟨rfl, shiftId, saleReturn, hshift, hreturn, hsales, hreturns, hshifts, hledger⟩ :=
    writeReturn_attributed hsale hwrite
  have hframe := postJournalUnlessEmpty_frame hpost
  -- of the sale only items are written over, and its store and shift stay
  have hsales' : db'.sales.sales.map (fun s => (s.val.storeId, s.val.shiftId))
      = db.sales.sales.map (fun s => (s.val.storeId, s.val.shiftId)) := by rw [hframe, hsales]
  have hstores : db'.sales.sales.map (·.val.storeId) = db.sales.sales.map (·.val.storeId) := by
    have hfst := congrArg (List.map Prod.fst) hsales'
    rwa [List.map_map, List.map_map] at hfst
  have hreturns' : db'.sales.returns = db.sales.returns ++ [saleReturn] := by
    rw [hframe, hreturns]
  have hshifts' : db'.shifts = db.shifts := by rw [hframe, hshifts]
  have hstay : StoresStay db db' := by
    refine ⟨?_, ?_, ?_⟩
    · intro i s hi
      rw [HasAt.iff_map] at hi ⊢
      rwa [hstores]
    · intro i s hi
      rw [hreturns']
      exact hi.append [saleReturn]
    · intro i s hi
      rwa [hshifts']
  have hstore : saleReturn.val.storeId = req.storeId := by
    rw [hreturn]
    rfl
  have hid : saleReturn.val.shiftId = shiftId := by
    rw [hreturn]
    rfl
  -- the shift of a return is that of whoever processes it
  have hhome : AtHome db' saleReturn.val.storeId saleReturn.val.shiftId ↔
      ShiftsIn db req.createdBy req.storeId := by
    rw [hstore, hid, ← atHome_iff hshift]
    unfold AtHome
    rw [hshifts']
  constructor
  · refine hentries.post hstay (postsEntry_of_postJournalUnlessEmpty hpost hledger rfl) ?_
    intro e hbooked hsource
    rw [entrySource, Prod.mk.injEq] at hsource
    obtain ⟨hkind, hsourceId⟩ := hsource
    refine ⟨?_, ?_, ?_⟩
    · intro hother
      rw [hkind] at hother
      cases hother
    · intro _
      rw [hreturns', hbooked, hsourceId, ← hstore]
      exact .last db.sales.returns saleReturn
    · intro hother
      rw [hkind] at hother
      cases hother
  · constructor
    · intro hattributed' _
      refine hhome.mp (hattributed'.returns saleReturn ?_)
      rw [hreturns']
      exact List.mem_append_right _ (List.mem_singleton_self saleReturn)
    · intro hin
      refine ⟨?_, ?_⟩
      · intro s hs
        have hmem : (s.val.storeId, s.val.shiftId)
            ∈ db.sales.sales.map (fun s => (s.val.storeId, s.val.shiftId)) :=
          hsales' ▸ List.mem_map.mpr ⟨s, hs, rfl⟩
        obtain ⟨old, hold, hsame⟩ := List.mem_map.mp hmem
        rw [Prod.mk.injEq] at hsame
        rw [← hsame.1, ← hsame.2]
        exact (hattributed.sales old hold).mono hstay
      · intro r hr
        rw [hreturns'] at hr
        rcases List.mem_append.mp hr with hold | hlast
        · exact (hattributed.returns r hold).mono hstay
        · rw [List.mem_singleton.mp hlast]
          exact hhome.mpr (hin hnew)

end Sales

/-! ### Shifts -/

section Shifts

variable {db db' : Db}

/-- Sales and returns that are left alone stay attributed. -/
theorem AttributedAtHome.mono (h : AttributedAtHome db) (hstay : StoresStay db db')
    (hsales : db'.sales = db.sales) : AttributedAtHome db' := by
  refine ⟨?_, ?_⟩
  · intro s hs
    rw [hsales] at hs
    exact (h.sales s hs).mono hstay
  · intro r hr
    rw [hsales] at hr
    exact (h.returns r hr).mono hstay

theorem openShift_home {req : OpenShift} {shiftId : ℕ} (h : openShift db req = .ok (db', shiftId))
    (hentries : EntriesAtHome db) (hattributed : AttributedAtHome db) :
    EntriesAtHome db' ∧ AttributedAtHome db' := by
  rcases openShift_ok h with rfl | ⟨shift, -, -, -, rfl⟩
  · exact ⟨hentries, hattributed⟩
  · have hstay : StoresStay db
        { db with shifts.shifts := db.shifts.shifts ++ [shift] } :=
      ⟨fun _ _ hi => hi, fun _ _ hi => hi, fun _ _ hi => hi.append [shift]⟩
    exact ⟨fun e he => (hentries e he).mono hstay, hattributed.mono hstay rfl⟩

theorem recordCashMovement_home {req : RecordCashMovement} {movementId : ℕ}
    (h : recordCashMovement db req = .ok (db', movementId)) (hentries : EntriesAtHome db)
    (hattributed : AttributedAtHome db) : EntriesAtHome db' ∧ AttributedAtHome db' := by
  rcases recordCashMovement_ok h with rfl | ⟨-, hinsert⟩
  · exact ⟨hentries, hattributed⟩
  rcases insertMovement_ok hinsert with rfl | ⟨movement, -, rfl⟩
  · exact ⟨hentries, hattributed⟩
  · have hstay : StoresStay db
        { db with shifts.movements := db.shifts.movements ++ [movement] } :=
      ⟨fun _ _ hi => hi, fun _ _ hi => hi, fun _ _ hi => hi⟩
    exact ⟨fun e he => (hentries e he).mono hstay, hattributed.mono hstay rfl⟩

/-- The variance of a close is booked in the store of the shift. -/
theorem closeShift_home {req : CloseShift} {shiftId : ℕ}
    (h : closeShift db req = .ok (db', shiftId)) (hentries : EntriesAtHome db)
    (hattributed : AttributedAtHome db) : EntriesAtHome db' ∧ AttributedAtHome db' := by
  rcases closeShift_ok h with rfl | ⟨-, expected, -, hsettle⟩
  · exact ⟨hentries, hattributed⟩
  rcases settleShift_ok hsettle with rfl | ⟨shift, closed, hshift, hclosed, hpost⟩
  · exact ⟨hentries, hattributed⟩
  have hframe := postCashShiftVarianceJournal_frame hpost
  have hshifts : db'.shifts.shifts = db.shifts.shifts.set req.shiftId closed := by rw [hframe]
  have hsales : db'.sales = db.sales := by rw [hframe]
  have hstore : closed.val.storeId = shift.val.storeId := by
    rw [hclosed]
    rfl
  have hstay : StoresStay db db' := by
    refine ⟨?_, ?_, ?_⟩
    · intro i s hi
      rwa [hsales]
    · intro i s hi
      rwa [hsales]
    · intro i s hi
      rw [hshifts]
      exact hi.set hshift hstore
  refine ⟨?_, hattributed.mono hstay hsales⟩
  unfold postCashShiftVarianceJournal at hpost
  -- without a variance nothing is posted
  split at hpost
  · cases hpost
    exact fun e he => (hentries e he).mono hstay
  · refine hentries.post hstay (postsEntry_of_postJournal hpost rfl rfl) ?_
    intro e hbooked hsource
    rw [entrySource, Prod.mk.injEq] at hsource
    obtain ⟨hkind, hsourceId⟩ := hsource
    refine ⟨?_, ?_, ?_⟩
    · intro hother
      rw [hkind] at hother
      cases hother
    · intro hother
      rw [hkind] at hother
      cases hother
    · intro _
      rw [hsourceId, hbooked]
      exact hstay.shifts _ _ (.of_row hshift)

end Shifts

/-! ### Requests -/

inductive TillRequest
  | stock (r : StockRequest)
  | openShift (req : OpenShift)
  | recordCashMovement (req : RecordCashMovement)
  | closeShift (req : CloseShift)

namespace TillRequest

/-- One request at a till, before its commit. -/
def run : TillRequest → Db → Result Db
  | stock r, db => r.run db
  | openShift req, db => Prod.fst <$> GroceryErp.openShift db req
  | recordCashMovement req, db => Prod.fst <$> GroceryErp.recordCashMovement db req
  | closeShift req, db => Prod.fst <$> GroceryErp.closeShift db req

/-- One request at a till, committed with the scale of the columns. -/
def exec (r : TillRequest) (db : Db) : Result Db := Db.commit <$> r.run db

/-- A sale or a return that is not a replay is made in the store of the shift that its user has
open, if any.  A void is the return it asks for. -/
def InOwnStore (db : Db) : TillRequest → Prop
  | stock (.finalizeSale req) => saleWithKey db req.clientTransactionId = [] →
    ShiftsIn db (some req.cashierId) req.storeId
  | stock (.createSaleReturn req) => matchOrRejectIdempotentReturn db req = .ok none →
    ShiftsIn db req.createdBy req.storeId
  | stock (.voidSale req) => matchOrRejectIdempotentReturn db (req.asReturn db) = .ok none →
    ShiftsIn db (req.asReturn db).createdBy (req.asReturn db).storeId
  | _ => True

end TillRequest

section Runs

variable {db₀ db db' : Db}

/-- A request that is not on a sale is at home. -/
theorem StockRequest.inOwnStore {r : StockRequest} (hr : ¬r.OnSale) :
    (TillRequest.stock r).InOwnStore db := by
  cases r with
  | finalizeSale | createSaleReturn | voidSale => exact absurd trivial hr
  | _ => trivial

/-- **Every request is booked at home, and attributed at home if and only if it is made there.** -/
theorem TillRequest.step {r : TillRequest} (h : r.run db = .ok db') (hentries : EntriesAtHome db)
    (hattributed : AttributedAtHome db) :
    EntriesAtHome db' ∧ (AttributedAtHome db' ↔ r.InOwnStore db) := by
  cases r with
  | openShift req =>
    obtain ⟨⟨d, i⟩, hrun, rfl⟩ := map_eq_ok.mp h
    obtain ⟨hentries', hattributed'⟩ := openShift_home hrun hentries hattributed
    exact ⟨hentries', iff_of_true hattributed' trivial⟩
  | recordCashMovement req =>
    obtain ⟨⟨d, i⟩, hrun, rfl⟩ := map_eq_ok.mp h
    obtain ⟨hentries', hattributed'⟩ := recordCashMovement_home hrun hentries hattributed
    exact ⟨hentries', iff_of_true hattributed' trivial⟩
  | closeShift req =>
    obtain ⟨⟨d, i⟩, hrun, rfl⟩ := map_eq_ok.mp h
    obtain ⟨hentries', hattributed'⟩ := closeShift_home hrun hentries hattributed
    exact ⟨hentries', iff_of_true hattributed' trivial⟩
  | stock r =>
    -- only what is on a sale is attributed to a shift
    by_cases hsale : r.OnSale
    · cases r with
      | finalizeSale req =>
        obtain ⟨⟨d, i⟩, hrun, rfl⟩ := map_eq_ok.mp h
        exact finalizeSale_home hrun hentries hattributed
      | createSaleReturn req =>
        obtain ⟨⟨d, i⟩, hrun, rfl⟩ := map_eq_ok.mp h
        exact createSaleReturn_home hrun hentries hattributed
      | voidSale req =>
        obtain ⟨⟨d, i⟩, hrun, rfl⟩ := map_eq_ok.mp h
        exact createSaleReturn_home (voidSale_ok hrun) hentries hattributed
      | _ => exact hsale.elim
    · obtain ⟨hentries', hattributed'⟩ := (StockRequest.offTill hsale h).home
      exact ⟨hentries' hentries, iff_of_true (hattributed' hattributed) (r.inOwnStore hsale)⟩

/-- Over any run whose sales and returns are made in the store of the shift both hold. -/
theorem atHome_of_reaches (hstart : db₀.BeforeTills)
    (hrun : Reaches TillRequest.exec (fun db r => r.InOwnStore db) db₀ db) :
    EntriesAtHome db ∧ AttributedAtHome db := by
  refine hrun.invariant (I := fun db => EntriesAtHome db ∧ AttributedAtHome db)
    ⟨hstart.entriesAtHome, hstart.attributed⟩ ?_
  rintro db r db' ⟨hentries, hattributed⟩ hown hdone
  obtain ⟨d, hd, rfl⟩ := map_eq_ok.mp hdone
  obtain ⟨hentries', hiff⟩ := TillRequest.step hd hentries hattributed
  -- the columns are not rounded again
  exact ⟨fun e he => ⟨(hentries' e he).sale, (hentries' e he).saleReturn,
    (hentries' e he).variance⟩, ⟨(hiff.mpr hown).sales, (hiff.mpr hown).returns⟩⟩

/-- **What is attributed to a shift is of its store, in every run in which cashiers with an open
shift sell and refund in the store of that shift.**  Then what the shift moves on Cash on Hand
is in the books of its store.  The next request keeps the attributions at home if and only if it
is made so. -/
theorem shifts_at_home_iff (hstart : db₀.BeforeTills) :
    (∀ db, Reaches TillRequest.exec (fun db r => r.InOwnStore db) db₀ db →
      AttributedAtHome db ∧ BooksAtHome db) ∧
    ∀ db r db', Reaches TillRequest.exec (fun db r => r.InOwnStore db) db₀ db →
      TillRequest.exec r db = .ok db' → (AttributedAtHome db' ↔ r.InOwnStore db) := by
  constructor
  · intro db hrun
    obtain ⟨hentries, hattributed⟩ := atHome_of_reaches hstart hrun
    exact ⟨hattributed, hattributed.books hentries⟩
  · intro db r db' hrun hdone
    obtain ⟨hentries, hattributed⟩ := atHome_of_reaches hstart hrun
    obtain ⟨d, hd, rfl⟩ := map_eq_ok.mp hdone
    rw [← (TillRequest.step hd hentries hattributed).2]
    exact ⟨fun h => ⟨h.sales, h.returns⟩, fun h => ⟨h.sales, h.returns⟩⟩

end Runs

/-! ### A shift in the other shop -/

/-- The clerk opens a shift in a shop. -/
def openIn (storeId : ℕ) : OpenShift where
  storeId := storeId
  cashierId := 0
  openingFloat := 10
  clientTransactionId := "shift-1"
  callerStoreId := none

/-- A cent is missing at the close. -/
def closeShort : CloseShift where
  shiftId := 0
  closingCountedAmount := 1199 / 100
  actorId := 0
  callerStoreId := none
  clientTransactionId := "close-1"
  today := 0

theorem twoShops_beforeTills : twoShops.BeforeTills := by
  refine ⟨rfl, rfl, rfl, ?_⟩
  exact List.forall_mem_nil _

/-- The shift is opened in the shop where an apple is sold then. -/
def homeShiftOpened : Db :=
  value (TillRequest.exec (.openShift (openIn 0)) twoShops) (by decide +kernel)

def appleSoldAtHome : Db :=
  value (TillRequest.exec (.stock (.finalizeSale sellApple)) homeShiftOpened) (by decide +kernel)

def homeShiftClosed : Db :=
  value (TillRequest.exec (.closeShift closeShort) appleSoldAtHome) (by decide +kernel)

theorem shifts_at_home_iff_apples :
    (homeShiftClosed.sales.sales.map (·.val.shiftId) = [some 0] ∧
      AttributedAtHome homeShiftClosed ∧ BooksAtHome homeShiftClosed) ∧
    (AttributedAtHome appleSoldAtHome ↔
      (TillRequest.stock (.finalizeSale sellApple)).InOwnStore homeShiftOpened) := by
  obtain ⟨hruns, hnext⟩ := shifts_at_home_iff twoShops_beforeTills
  have hopened : Reaches TillRequest.exec (fun db r => r.InOwnStore db) twoShops homeShiftOpened :=
    .next (r := .openShift (openIn 0)) .start trivial (eq_ok_value _ _)
  have hsold : Reaches TillRequest.exec (fun db r => r.InOwnStore db) twoShops appleSoldAtHome := by
    refine .next hopened ?_ (eq_ok_value _ _)
    intro _
    decide +kernel
  have hclosed : Reaches TillRequest.exec (fun db r => r.InOwnStore db) twoShops homeShiftClosed :=
    .next (r := .closeShift closeShort) hsold trivial (eq_ok_value _ _)
  refine ⟨⟨?_, hruns homeShiftClosed hclosed⟩, hnext _ _ _ hopened (eq_ok_value _ _)⟩
  decide +kernel

/-- The shift is opened in the other shop. -/
def awayShiftOpened : Db :=
  value (TillRequest.exec (.openShift (openIn 1)) twoShops) (by decide +kernel)

def appleSoldAway : Db :=
  value (TillRequest.exec (.stock (.finalizeSale sellApple)) awayShiftOpened) (by decide +kernel)

def awayShiftClosed : Db :=
  value (TillRequest.exec (.closeShift closeShort) appleSoldAway) (by decide +kernel)

/-- **The apple is sold in one shop and counted in the till of the other.**  The cash for it is in
the books of the first, and the cent that is missing in those of the second. -/
theorem shift_in_another_store :
    twoShops.BeforeTills ∧
      Reaches TillRequest.exec (fun _ _ => True) twoShops awayShiftClosed ∧
      ¬AttributedAtHome awayShiftClosed ∧ ¬BooksAtHome awayShiftClosed := by
  refine ⟨twoShops_beforeTills, ?_, ?_, ?_⟩
  · exact .next (.next (.next .start trivial (eq_ok_value _ _)) trivial (eq_ok_value _ _)) trivial
      (eq_ok_value _ _)
  · intro h
    have hsale : ∃ s ∈ awayShiftClosed.sales.sales[0]?, s.val.storeId = 0 ∧
        s.val.shiftId = some 0 := by
      decide +kernel
    obtain ⟨s, hs, hstore, hid⟩ := hsale
    obtain ⟨shift, hshift, hhome⟩ := h.sales s (List.mem_of_getElem? hs) 0 hid
    have hother : ∀ c ∈ awayShiftClosed.shifts.shifts[0]?, c.val.storeId = 1 := by
      decide +kernel
    have hsame : shift.val.storeId = s.val.storeId := hhome
    rw [hother shift hshift, hstore] at hsame
    cases hsame
  · intro h
    have hother : ∃ c ∈ awayShiftClosed.shifts.shifts[0]?, c.val.storeId = 1 := by
      decide +kernel
    obtain ⟨shift, hshift, hstore⟩ := hother
    have hcash := h 0 shift hshift 0
    rw [hstore] at hcash
    have htwo : shiftCashAt awayShiftClosed 0 0 = 2 := by decide +kernel
    rw [htwo] at hcash
    exact absurd hcash (by norm_num)

end GroceryErp
