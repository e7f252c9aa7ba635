import GroceryErp.Sales.Replays

/-!
# Repeated voids

A void asks for the return of what remains of a sale, and what remains is read before the key
is looked up.  Once the void has posted nothing remains, and it is refused when repeated.

## Main definitions

* `NothingReturned` — nothing of a sale has come back between two states.

## Main results

* `voidSale_emptied` — a void that posts leaves nothing.
* `voidSale_repeated_iff` — a repeated void is answered with its return exactly when the void
  was itself answered with an earlier return, and nothing has come back since.

## References

`backend/app/modules/sales/service.py`, `void_sale`, `create_sale_return`.
-/

namespace GroceryErp

open Decimal Outcome Rows

/-- No item of the sale has come back in between. -/
def NothingReturned (db later : Db) (saleId : ℕ) : Prop :=
  ∀ (i : ℕ) (item item' : Row SaleItem), db.sales.items[i]? = some item →
    item.val.saleId = saleId → later.sales.items[i]? = some item' →
    item'.val.quantityReturned = item.val.quantityReturned

section Remaining

variable {db later : Db} {saleId : ℕ}

theorem mem_remainingLines {l : SaleReturnLineInput} : l ∈ remainingLines db saleId ↔
    ∃ item, db.sales.items[l.saleItemId]? = some item ∧ item.val.saleId = saleId ∧
      item.val.quantityReturned < item.val.quantity ∧
      l = ⟨l.saleItemId, item.val.quantity - item.val.quantityReturned, true⟩ := by
  simp only [remainingLines, List.mem_map, List.mem_filter, Prod.exists, mem_rowsWhere,
    decide_eq_true_eq]
  constructor
  · rintro ⟨i, item, ⟨⟨hi, hsale⟩, hlt⟩, rfl⟩
    exact ⟨item, hi, hsale, hlt, rfl⟩
  · rintro ⟨item, hi, hsale, hlt, heq⟩
    exact ⟨l.saleItemId, item, ⟨⟨hi, hsale⟩, hlt⟩, heq.symm⟩

theorem nodup_remainingLines (db : Db) (saleId : ℕ) :
    ((remainingLines db saleId).map (·.saleItemId)).Nodup := by
  rw [remainingLines, List.map_map]
  exact (nodup_fst_rowsWhere _ _).sublist (List.Sublist.map _ List.filter_sublist)

theorem remainingLines_eq_nil_iff : remainingLines db saleId = [] ↔
    ∀ (i : ℕ) (item : Row SaleItem), db.sales.items[i]? = some item → item.val.saleId = saleId →
      item.val.quantity ≤ item.val.quantityReturned := by
  rw [List.eq_nil_iff_forall_not_mem]
  constructor
  · intro h i item hi hsale
    by_contra hlt
    exact h ⟨i, _, true⟩ (mem_remainingLines.mpr ⟨item, hi, hsale, not_le.mp hlt, rfl⟩)
  · intro h l hl
    obtain ⟨item, hi, hsale, hlt, -⟩ := mem_remainingLines.mp hl
    exact absurd (h _ item hi hsale) (not_le.mpr hlt)

/-- What does not remain does not remain later. -/
theorem remainingLines_eq_nil_of_grown (h : SalesGrown db later)
    (hsale : saleId < db.sales.sales.length) (hnil : remainingLines db saleId = []) :
    remainingLines later saleId = [] := by
  rw [remainingLines_eq_nil_iff] at hnil ⊢
  intro i item' hi hof
  have hlt := h.fresh i item' hi (hof ▸ hsale)
  obtain ⟨last, hlast, hsame, hquantity, hle⟩ := h.items i _ (List.getElem?_eq_getElem hlt)
  obtain rfl : last = item' := Option.some.inj (hlast.symm.trans hi)
  rw [hquantity]
  exact (hnil i _ (List.getElem?_eq_getElem hlt) (hsame ▸ hof)).trans hle

/-- What remains is the same while nothing comes back. -/
theorem perm_remainingLines (h : SalesGrown db later) (hsale : saleId < db.sales.sales.length)
    (hsame : NothingReturned db later saleId) :
    (remainingLines later saleId).Perm (remainingLines db saleId) := by
  refine (List.perm_ext_iff_of_nodup (nodup_remainingLines later saleId).of_map
    (nodup_remainingLines db saleId).of_map).mpr fun l => ?_
  simp only [mem_remainingLines]
  constructor
  · rintro ⟨item', hi, hof, hlt, heq⟩
    have hbefore := h.fresh _ item' hi (hof ▸ hsale)
    obtain ⟨last, hlast, hkept, hquantity, -⟩ := h.items _ _ (List.getElem?_eq_getElem hbefore)
    obtain rfl : last = item' := Option.some.inj (hlast.symm.trans hi)
    have hreturned := hsame _ _ _ (List.getElem?_eq_getElem hbefore) (hkept ▸ hof) hi
    rw [hquantity, hreturned] at hlt heq
    exact ⟨_, List.getElem?_eq_getElem hbefore, hkept ▸ hof, hlt, heq⟩
  · rintro ⟨item, hi, hof, hlt, heq⟩
    obtain ⟨last, hlast, hkept, hquantity, -⟩ := h.items _ item hi
    have hreturned := hsame _ _ _ hi hof hlast
    rw [← hquantity, ← hreturned] at hlt heq
    exact ⟨last, hlast, hkept.trans hof, hlt, heq⟩

/-- Where what remains is the same, nothing has come back. -/
theorem nothingReturned_of_perm (h : SalesGrown db later)
    (hperm : (requestedSignature (remainingLines later saleId)).Perm
      (requestedSignature (remainingLines db saleId))) : NothingReturned db later saleId := by
  intro i item item' hi hof hi'
  obtain ⟨last, hlast, hkept, hquantity, hle⟩ := h.items i item hi
  obtain rfl : last = item' := Option.some.inj (hlast.symm.trans hi')
  by_cases hlt : item.val.quantityReturned < item.val.quantity
  · -- some of the item remained, and as much of it remains
    have hmem : (i, item.val.quantity - item.val.quantityReturned, true)
        ∈ requestedSignature (remainingLines db saleId) :=
      List.mem_map.mpr ⟨⟨i, _, true⟩, mem_remainingLines.mpr ⟨item, hi, hof, hlt, rfl⟩, rfl⟩
    obtain ⟨l, hl, heq⟩ := List.mem_map.mp (hperm.mem_iff.mpr hmem)
    obtain ⟨row, hrow, -, -, hline⟩ := mem_remainingLines.mp hl
    rw [hline] at heq
    simp only [Prod.mk.injEq] at heq
    rw [heq.1] at hrow
    obtain rfl : row = last := Option.some.inj (hrow.symm.trans hlast)
    linarith [heq.2.1]
  · have hall := last.property.returned_le
    linarith [not_lt.mp hlt]

end Remaining

section Voids

variable {db db' later : Db} {req : VoidSale} {saleReturnId : ℕ}

theorem voidSale_eq_ok : voidSale db req = .ok (db', saleReturnId) ↔
    ∃ sale, db.sales.sales[req.saleId]? = some sale ∧
      enforceStoreAccess req.callerStoreId sale.val.storeId = .ok () ∧
      remainingLines db req.saleId ≠ [] ∧
      createSaleReturn db (req.asReturn db) = .ok (db', saleReturnId) := by
  unfold voidSale
  simp only [↓check_bind_eq_ok, bind_eq_ok, orRaise_eq_ok, raiseIf_eq_ok, ne_eq]

/-- **A void that posts leaves nothing.** -/
theorem voidSale_emptied (hdb : SalesRecorded db) (h : voidSale db req = .ok (db', saleReturnId))
    (hunused : req.clientTransactionId ∉ returnKeys db) :
    remainingLines db' req.saleId = [] := by
  obtain ⟨-, -, -, -, hreturn⟩ := voidSale_eq_ok.mp h
  rcases createSaleReturn_written hreturn with ⟨hkey, -⟩ | ⟨-, lines, hwritten⟩
  · exact absurd ((matchOrReject_eq_some hdb.keys).mp hkey).mem_returnKeys hunused
  rw [remainingLines_eq_nil_iff]
  intro i item' hi hof
  by_cases hmem : i ∈ lines.map (·.saleItemId)
  · -- the line gives back all that remained of the item
    obtain ⟨l, hl, rfl⟩ := List.mem_map.mp hmem
    obtain ⟨row, hrow, hval⟩ := hwritten.returned l hl
    obtain rfl : row = item' := Option.some.inj (hrow.symm.trans hi)
    have hp := hwritten.planned l hl
    have hnamed : l.saleItemId ∈ (remainingLines db req.saleId).map (·.saleItemId) := by
      have hin := List.mem_map_of_mem (f := (·.saleItemId)) hl
      rw [hwritten.named] at hin
      exact mem_distinct.mp hin
    obtain ⟨k, hk, hkid⟩ := List.mem_map.mp hnamed
    obtain ⟨item, hitem, -, -, hline⟩ := mem_remainingLines.mp hk
    rw [hkid] at hitem hline
    obtain rfl : l.item = item := Option.some.inj (hp.loaded.symm.trans hitem)
    have hquantity : l.quantity = l.item.val.quantity - l.item.val.quantityReturned := by
      rw [hp.quantity_eq, ← hkid]
      exact (sumWhere_key _ (nodup_remainingLines db req.saleId) hk).trans (by rw [hline])
    have hgrid := (hdb.items l.item (mem_of_row hp.loaded)).2.1
    rw [hval]
    simp only [SaleItem.afterReturn, hquantity, add_sub_cancel, numeric_eq_self hgrid, le_refl]
  · -- an item that is not named had nothing left
    rw [hwritten.others i hmem] at hi
    by_contra hlt
    refine hmem ?_
    rw [hwritten.named, mem_distinct]
    exact List.mem_map.mpr
      ⟨⟨i, _, true⟩, mem_remainingLines.mpr ⟨item', hi, hof, not_le.mp hlt, rfl⟩, rfl⟩

/-- **A void that has posted is refused when it is repeated.** -/
theorem voidSale_refused (hdb : SalesRecorded db) (h : voidSale db req = .ok (db', saleReturnId))
    (hunused : req.clientTransactionId ∉ returnKeys db) (hgrown : SalesGrown db later)
    (hgrown' : SalesGrown db' later) :
    voidSale later req = .error (.conflict .nothingToVoid) := by
  obtain ⟨sale, hsale, haccess, -, hreturn⟩ := voidSale_eq_ok.mp h
  have hlt : req.saleId < db.sales.sales.length := (List.getElem?_eq_some_iff.mp hsale).1
  have hlt' : req.saleId < db'.sales.sales.length :=
    hlt.trans_le (createSaleReturn_grows hdb hreturn).2.length_sales_le
  have hnil := remainingLines_eq_nil_of_grown hgrown' hlt' (voidSale_emptied hdb h hunused)
  obtain ⟨sale', hsale', hstore⟩ := hgrown.sales _ _ (.of_row hsale)
  change sale'.val.storeId = sale.val.storeId at hstore
  unfold voidSale
  rw [hsale', hnil]
  change (enforceStoreAccess req.callerStoreId sale'.val.storeId >>= _) = _
  rw [hstore, haccess]
  rfl

/-- **A repeated void is answered with its return exactly when the void was itself answered
with an earlier return**, and nothing of the sale has come back since. -/
theorem voidSale_repeated_iff (hdb : SalesRecorded db)
    (h : voidSale db req = .ok (db', saleReturnId)) (hlater : SalesRecorded later)
    (hgrown : SalesGrown db' later) :
    voidSale later req = .ok (later, saleReturnId) ↔
      req.clientTransactionId ∈ returnKeys db ∧ NothingReturned db later req.saleId := by
  obtain ⟨sale, hsale, haccess, hne, hreturn⟩ := voidSale_eq_ok.mp h
  have hlt : req.saleId < db.sales.sales.length := (List.getElem?_eq_some_iff.mp hsale).1
  have hgrown₀ := (createSaleReturn_grows hdb hreturn).2.trans hgrown
  constructor
  · intro hagain
    obtain ⟨-, -, -, -, hsecond⟩ := voidSale_eq_ok.mp hagain
    have hused : req.clientTransactionId ∈ returnKeys db := by
      by_contra hunused
      rw [voidSale_refused hdb h hunused hgrown₀ hgrown] at hagain
      cases hagain
    refine ⟨hused, ?_⟩
    obtain ⟨hrecorded, rfl⟩ := (createSaleReturn_eq_self_iff hdb.keys hused).mp hreturn
    have hkept := (hgrown.recordedAs_iff hrecorded.lt_length).mpr hrecorded
    have htaken : (req.asReturn later).clientTransactionId ∈ returnKeys later :=
      hkept.mem_returnKeys
    obtain ⟨hagain, -⟩ := (createSaleReturn_eq_self_iff hlater.keys htaken).mp hsecond
    -- both requests are what the return was recorded for
    obtain ⟨-, -, -, -, -, hfirst⟩ := hkept
    obtain ⟨-, -, -, -, -, hnow⟩ := hagain
    exact nothingReturned_of_perm hgrown (hnow.symm.trans hfirst)
  · rintro ⟨hused, hsame⟩
    obtain ⟨hrecorded, rfl⟩ := (createSaleReturn_eq_self_iff hdb.keys hused).mp hreturn
    have hperm := perm_remainingLines hgrown hlt hsame
    obtain ⟨sale', hsale', hstore⟩ := hgrown.sales _ _ (.of_row hsale)
    change sale'.val.storeId = sale.val.storeId at hstore
    have hagain : (req.asReturn later).RecordedAs later saleReturnId := by
      obtain ⟨existing, hrow, hkey, hof, hmethod, hfirst⟩ :=
        (hgrown.recordedAs_iff hrecorded.lt_length).mpr hrecorded
      exact ⟨existing, hrow, hkey, hof, hmethod, hfirst.trans (hperm.symm.map _)⟩
    refine voidSale_eq_ok.mpr ⟨sale', hsale', by rw [hstore, haccess], ?_, ?_⟩
    · intro hnil
      rw [hnil] at hperm
      exact hne hperm.symm.eq_nil
    · exact (createSaleReturn_eq_self_iff hlater.keys hagain.mem_returnKeys).mpr ⟨hagain, rfl⟩

end Voids

end GroceryErp
