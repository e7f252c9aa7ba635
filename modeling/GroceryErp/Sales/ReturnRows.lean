import GroceryErp.Sales.Splits
import GroceryErp.Sales.Totals

/-!
# The rows of a return

A return that passes every check of the service can still be refused by the
database: the price of a small part may round to nothing while its discount share
steps by a cent.  The refund is then negative, its header breaks a CHECK
constraint and its entry does not balance.

## Main definitions

* `ReturnRowsOk` — the refund, the rows and the entry of a planned return.
* `DiscountCovered` — the discount that falls due with the return is covered by
  the price of what comes back and its tax.

## Main results

* `returnRowsOk_iff` — exactly the covered returns of storable quantities are
  accepted.
* `valid_returns_accepted_iff` — this, and the items all of whose returns are.
-/

namespace GroceryErp

open Decimal Ledger Outcome Rows

/-! ### One request -/

/-- The refund is not negative, the rows meet their CHECK constraints and the
entry is well formed. -/
structure ReturnRowsOk (req : CreateSaleReturn) (lines : List ReturnLine) : Prop where
  refund_nonneg : 0 ≤ totalRefund lines
  header : ∀ approval shiftId, Table.Checks (returnRow req (totalRefund lines) approval shiftId)
  items : ∀ l ∈ lines, ∀ saleReturnId, Table.Checks (l.row saleReturnId)
  entry : WellFormed (saleReturnJournalLines req.refundMethod (lines.map ReturnLine.effect))

/-- What a total owes to the part `q` of an item of which some came back before. -/
def dueShare (total : ℚ) (i : SaleItem) (q : ℚ) : ℚ :=
  entitlement total i.quantity (i.quantityReturned + q)
    - entitlement total i.quantity i.quantityReturned

/-- The discount that falls due with the returned parts is covered by their rounded
prices and the tax that falls due. -/
def DiscountCovered (parts : List (SaleItem × ℚ)) : Prop :=
  (parts.map fun p => dueShare p.1.discountAmount p.1 p.2).sum
    ≤ (parts.map fun p => roundMoney (p.1.unitPriceAtSale * p.2)).sum
      + (parts.map fun p => dueShare p.1.taxAmount p.1 p.2).sum

instance (parts : List (SaleItem × ℚ)) : Decidable (DiscountCovered parts) :=
  inferInstanceAs (Decidable (_ ≤ _))

/-- The items of a return with the quantities that come back. -/
def returnedParts (lines : List ReturnLine) : List (SaleItem × ℚ) :=
  lines.map fun l => (l.item.val, l.quantity)

/-- Every quantity is stored as a positive one, which a quantity below half a thousandth is not. -/
def Storable (lines : List ReturnLine) : Prop := ∀ l ∈ lines, 1 / 2000 ≤ l.quantity

theorem totalRefund_eq_parts (lines : List ReturnLine) :
    totalRefund lines
      = ((returnedParts lines).map fun p => roundMoney (p.1.unitPriceAtSale * p.2)).sum
        - ((returnedParts lines).map fun p => dueShare p.1.discountAmount p.1 p.2).sum
        + ((returnedParts lines).map fun p => dueShare p.1.taxAmount p.1 p.2).sum := by
  induction lines with
  | nil => simp [totalRefund, returnedParts]
  | cons l lines ih =>
    simp only [totalRefund, returnedParts, List.map_cons, List.sum_cons] at ih ⊢
    rw [ih]
    simp only [ReturnLine.refund, LineRefund.amount, computeLineRefund, proportionalShare_eq,
      dueShare]
    ring

theorem totalRefund_nonneg_iff (lines : List ReturnLine) :
    0 ≤ totalRefund lines ↔ DiscountCovered (returnedParts lines) := by
  rw [totalRefund_eq_parts, DiscountCovered]
  constructor
  · intro h
    linarith
  · intro h
    linarith

theorem onGrid_totalRefund (lines : List ReturnLine) : OnGrid 2 (totalRefund lines) :=
  onGrid_sum _ fun x hx => by
    obtain ⟨l, -, rfl⟩ := List.mem_map.mp hx
    exact ((onGrid_quantize 2 _).sub (onGrid_proportionalShare ..)).add
      (onGrid_proportionalShare ..)

/-- A positive quantity is stored as a positive one from half a thousandth on. -/
theorem numeric_three_pos_iff {q : ℚ} (hq : 0 < q) : 0 < numeric 3 q ↔ 1 / 2000 ≤ q := by
  have hnn : 0 ≤ numeric 3 q := quantize_nonneg hq.le
  have hzero : numeric 3 q = 0 ↔ q < 1 / 2000 := by
    rw [numeric, quantize_eq_iff hq.le (onGrid_zero 3)]
    have : quantum 3 / 2 = 1 / 2000 := by norm_num [quantum]
    rw [this]
    constructor
    · rintro ⟨-, h⟩
      linarith
    · intro h
      constructor <;> linarith
  rw [← not_lt, ← hzero]
  exact ⟨fun h => h.ne', fun h => lt_of_le_of_ne hnn (Ne.symm h)⟩

section Planned

variable {db db' : Db} {req : CreateSaleReturn} {sale : Row Sale} {lines : List ReturnLine}

theorem checks_row_iff {l : ReturnLine} (hq : 0 < l.quantity) (saleReturnId : ℕ) :
    Table.Checks (l.row saleReturnId) ↔ 1 / 2000 ≤ l.quantity := by
  rw [← numeric_three_pos_iff hq]
  constructor
  · intro h
    exact SaleReturnItem.Checks.quantity_pos h
  · intro h
    exact ⟨h, l.item.property.price_nonneg, quantize_nonneg (l.discountRefunded_nonneg hq.le),
      quantize_nonneg (l.taxRefunded_nonneg hq.le), l.item.property.cost_nonneg⟩

/-- **Exactly the covered returns of storable quantities are accepted.** -/
theorem returnRowsOk_iff (h : planReturn db req = .ok (sale, lines)) :
    ReturnRowsOk req lines ↔ DiscountCovered (returnedParts lines) ∧ Storable lines := by
  obtain ⟨-, -, -, -, hplanned⟩ := planReturn_ok h
  constructor
  · intro hok
    exact ⟨(totalRefund_nonneg_iff lines).mp hok.refund_nonneg, fun l hl =>
      (checks_row_iff (hplanned l hl).quantity_pos 0).mp (hok.items l hl 0)⟩
  · rintro ⟨hcovered, hstorable⟩
    have hr := (totalRefund_nonneg_iff lines).mpr hcovered
    exact ⟨hr, fun _ _ => quantize_nonneg hr, fun l hl saleReturnId =>
      (checks_row_iff (hplanned l hl).quantity_pos saleReturnId).mpr (hstorable l hl),
      wellFormed_of_planReturn h hr⟩

/-- A return that went through was covered. -/
theorem discountCovered_of_writeReturn {approval : Bool × Option ℕ} {saleReturnId : ℕ}
    (h : writeReturn db req sale lines approval = .ok (db', saleReturnId)) :
    DiscountCovered (returnedParts lines) := by
  obtain ⟨-, shiftId, row, -, -, hrow, -⟩ := writeReturn_ok h
  have hnn : 0 ≤ row.val.refundAmount := row.property
  rw [hrow] at hnn
  rw [← totalRefund_nonneg_iff, ← numeric_eq_self (onGrid_totalRefund lines)]
  exact hnn

/-- An uncovered return breaks the request, whatever the approval. -/
theorem not_covered_fails (hkey : matchOrRejectIdempotentReturn db req = .ok none)
    (hplan : planReturn db req = .ok (sale, lines))
    (hnot : ¬DiscountCovered (returnedParts lines)) (saleReturnId : ℕ) :
    createSaleReturn db req ≠ .ok (db', saleReturnId) := by
  intro h
  rcases createSaleReturn_ok h with ⟨hfound, -⟩ | ⟨-, s, ls, store, approval, d, hp, -, -, hw, -⟩
  · rw [hkey] at hfound
    cases hfound
  · rw [hplan] at hp
    cases hp
    exact hnot (discountCovered_of_writeReturn hw)

end Planned

/-! ### Every sequence of returns of an item -/

/-- Every return of the sequence is accepted, each after those before it. -/
def SaleItem.EveryReturnCovered : SaleItem → List ℚ → Prop
  | _, [] => True
  | i, q :: qs => DiscountCovered [(i, q)] ∧ (i.afterReturn q).EveryReturnCovered qs

/-- However much of the item is back, a part that comes back covers its discount. -/
def SaleItem.AlwaysCovered (i : SaleItem) : Prop :=
  ∀ r q, OnGrid 3 r → OnGrid 3 q → 0 ≤ r → 0 < q → r + q ≤ i.quantity →
    DiscountCovered [({ i with quantityReturned := r }, q)]

/-- The parts of an item that are all covered are so in every order. -/
theorem everyReturnCovered_of_alwaysCovered {i : SaleItem} (h : i.AlwaysCovered) :
    ∀ {r : ℚ} {qs : List ℚ}, OnGrid 3 r → 0 ≤ r → (∀ q ∈ qs, OnGrid 3 q) →
      ({ i with quantityReturned := r } : SaleItem).ValidReturns qs →
      ({ i with quantityReturned := r } : SaleItem).EveryReturnCovered qs := by
  intro r qs
  induction qs generalizing r with
  | nil => intro _ _ _ _; trivial
  | cons q qs ih =>
    rintro hr hr0 hqs ⟨⟨hq0, hle⟩, hv⟩
    have hq := hqs q List.mem_cons_self
    have hafter : ({ i with quantityReturned := r } : SaleItem).afterReturn q
        = { i with quantityReturned := r + q } := by
      simp only [SaleItem.afterReturn, numeric_eq_self (hr.add hq)]
    rw [hafter] at hv
    refine ⟨h r q hr hq hr0 hq0 (by simpa using le_sub_iff_add_le'.mp hle), ?_⟩
    rw [hafter]
    exact ih (hr.add hq) (by linarith) (fun t ht => hqs t (List.mem_cons_of_mem _ ht)) hv

/-- All returns of a fresh item are accepted, in every sequence, exactly when each
part of it always covers its discount. -/
theorem everyReturnCovered_iff {i : Row SaleItem} (hi : i.val.Fresh) :
    (∀ qs, (∀ q ∈ qs, OnGrid 3 q) → i.val.ValidReturns qs → i.val.EveryReturnCovered qs) ↔
      i.val.AlwaysCovered := by
  have h0 : i.val = { i.val with quantityReturned := 0 } := by
    rw [← hi.returned]
  constructor
  · intro h r q hr hq hr0 hq0 hle
    have hafter : i.val.afterReturn r = { i.val with quantityReturned := r } := by
      simp only [SaleItem.afterReturn, hi.returned, zero_add, numeric_eq_self hr]
    rcases hr0.eq_or_lt with rfl | hrpos
    · have hcov := h [q] (by simpa using hq)
        ⟨⟨hq0, by rw [hi.returned]; linarith⟩, trivial⟩
      rw [h0] at hcov
      exact hcov.1
    · have hcov := h [r, q] (by simp [hr, hq])
        ⟨⟨hrpos, by rw [hi.returned]; linarith⟩, ⟨hq0, by rw [hafter]; linarith⟩, trivial⟩
      have h2 := hcov.2.1
      rw [hafter] at h2
      exact h2
  · intro h qs hqs hv
    rw [h0] at hv ⊢
    exact everyReturnCovered_of_alwaysCovered h (onGrid_zero 3) le_rfl hqs hv

/-! ### Cheap items -/

theorem dueShare_le_of_covered {i : SaleItem} {q : ℚ} (h : DiscountCovered [(i, q)]) :
    dueShare i.discountAmount i q
      ≤ roundMoney (i.unitPriceAtSale * q) + dueShare i.taxAmount i q := by
  simpa [DiscountCovered] using h

/-- The discount of a cheap untaxed item never falls due with a thousandth of it, so
there is none. -/
theorem discount_eq_zero_of_alwaysCovered {i : Row SaleItem} (hi : i.val.Fresh)
    (htax : i.val.taxAmount = 0) (hcheap : i.val.unitPriceAtSale < 5)
    (h : i.val.AlwaysCovered) : i.val.discountAmount = 0 := by
  have hq := i.property.quantity_pos
  have hfree : roundMoney (i.val.unitPriceAtSale * (1 / 1000)) = 0 := by
    have hp := i.property.price_nonneg
    rw [roundMoney, quantize_eq_iff (by positivity) (onGrid_zero 2)]
    have : quantum 2 / 2 = 1 / 200 := by norm_num [quantum]
    rw [this]
    constructor <;> linarith
  obtain ⟨k, hk⟩ := hi.quantity
  have hk' : i.val.quantity = k / 1000 := by rw [hk]; norm_num
  -- the entitlement does not step with a single thousandth, hence not at all
  have hsteps : ∀ m : ℕ, (m : ℤ) ≤ k →
      entitlement i.val.discountAmount i.val.quantity (m / 1000) ≤ 0 := by
    intro m
    induction m with
    | zero => intro _; simp
    | succ m ih =>
      intro hm
      have hm' : ((m : ℚ) + 1) ≤ k := by exact_mod_cast hm
      have hstep := dueShare_le_of_covered (h (m / 1000) (1 / 1000) ⟨m, by norm_num⟩
        ⟨1, by norm_num⟩ (by positivity) (by norm_num) (by rw [hk']; linarith))
      simp only [dueShare, htax, hfree, entitlement, zero_mul, zero_div, sub_self, add_zero,
        sub_nonpos] at hstep
      have hnext : ((m + 1 : ℕ) : ℚ) / 1000 = m / 1000 + 1 / 1000 := by push_cast; ring
      rw [hnext]
      exact hstep.trans (ih (by omega))
  have hk0 : 0 ≤ k := by
    have : (0 : ℚ) ≤ k := by linarith
    exact_mod_cast this
  obtain ⟨n, rfl⟩ := Int.eq_ofNat_of_zero_le hk0
  have hfull := hsteps n le_rfl
  have hn : (n : ℚ) / 1000 = i.val.quantity := by rw [hk']; norm_num
  rw [hn, entitlement_full hi.discount hq] at hfull
  exact le_antisymm hfull i.property.discount_nonneg

/-- An item sold without a discount is always covered. -/
theorem alwaysCovered_of_no_discount {i : Row SaleItem} (h : i.val.discountAmount = 0) :
    i.val.AlwaysCovered := by
  intro r q _ _ hr hq _
  have hprice : 0 ≤ roundMoney (i.val.unitPriceAtSale * q) :=
    quantize_nonneg (mul_nonneg i.property.price_nonneg hq.le)
  have htax : dueShare i.val.taxAmount { i.val with quantityReturned := r } q ≥ 0 :=
    sub_nonneg.mpr (entitlement_mono i.property.tax_nonneg i.property.quantity_pos (by
      show r ≤ r + q
      linarith))
  simp only [DiscountCovered, List.map_cons, List.map_nil, List.sum_cons, List.sum_nil, add_zero]
  have hnone : dueShare i.val.discountAmount { i.val with quantityReturned := r } q = 0 := by
    simp [dueShare, entitlement, h, roundMoney]
  show dueShare i.val.discountAmount { i.val with quantityReturned := r } q ≤ _
  rw [hnone]
  exact add_nonneg hprice htax

/-! ### Exactly when a valid return is accepted -/

/-- **A valid return is accepted exactly when it is covered and storable.**  An
uncovered one breaks the request; all the returns of a sold item are covered, in
every sequence, exactly when each part of it always covers its discount; and for an
untaxed item cheaper than half a cent a thousandth this is when it has no discount. -/
theorem valid_returns_accepted_iff (db : Db) (req : CreateSaleReturn) (i : Row SaleItem)
    (hi : i.val.Fresh) :
    (∀ (sale : Row Sale) (lines : List ReturnLine), planReturn db req = .ok (sale, lines) →
      (ReturnRowsOk req lines ↔ DiscountCovered (returnedParts lines) ∧ Storable lines) ∧
      (matchOrRejectIdempotentReturn db req = .ok none →
        ¬DiscountCovered (returnedParts lines) →
        ∀ db' saleReturnId, createSaleReturn db req ≠ .ok (db', saleReturnId))) ∧
    ((∀ qs, (∀ q ∈ qs, OnGrid 3 q) → i.val.ValidReturns qs → i.val.EveryReturnCovered qs) ↔
      i.val.AlwaysCovered) ∧
    (i.val.taxAmount = 0 → i.val.unitPriceAtSale < 5 →
      (i.val.AlwaysCovered ↔ i.val.discountAmount = 0)) := by
  refine ⟨?_, everyReturnCovered_iff hi, ?_⟩
  · intro sale lines hplan
    refine ⟨returnRowsOk_iff hplan, ?_⟩
    intro hkey hnot db' saleReturnId
    exact not_covered_fails hkey hplan hnot saleReturnId
  · intro htax hcheap
    exact ⟨discount_eq_zero_of_alwaysCovered hi htax hcheap, alwaysCovered_of_no_discount⟩

/-- A shop with one product: sweets at four cents. -/
def sweetShop : Db where
  master := { stores := [⟨true, none⟩] }
  stock := {
    products := [⟨{
      storeId := 0, sku := "SWEET", categoryId := none, currentPrice := 4 / 100, currentCost := 1 / 100
      taxRateId := none, currentQtyOnHand := 10, allowNegativeStock := false, isActive := true },
      by decide +kernel⟩] }

/-- One sweet, given away: the discount is its whole price. -/
def freeSweet : FinalizeSale where
  storeId := 0
  cashierId := 0
  clientTransactionId := "till-1"
  callerStoreId := none
  lines := [{ productId := 0, quantity := 1, discountAmount := 4 / 100 }]
  payments := [⟨.cash, 1⟩]
  today := 0

/-- A tenth of the sweet comes back. -/
def sweetBack (clientTransactionId : String) : CreateSaleReturn where
  saleId := 0
  storeId := 0
  returnDate := 0
  lines := [{ saleItemId := 0, quantity := 1 / 10 }]
  refundMethod := .cash
  clientTransactionId := clientTransactionId
  callerStoreId := none

/-- The shop after the sale of the sweet, and the key of the sale. -/
def sweetSold : Db × ℕ := value (finalizeSale sweetShop freeSweet) (by decide +kernel)

/-- The item as it was sold, before anything of it has come back. -/
def sweetItem : Row SaleItem := sweetSold.1.sales.items.head (by decide +kernel)

/-- The first tenth as it is planned, over the item as it was sold. -/
def sweetPlan : Row Sale × List ReturnLine :=
  value (planReturn sweetSold.1 (sweetBack "return-1")) (by decide +kernel)

/-- The shop after the first tenth has come back. -/
def sweetReturned : Db × ℕ :=
  value (createSaleReturn sweetSold.1 (sweetBack "return-1")) (by decide +kernel)

/-- The second tenth as it is planned, over what the first one has left. -/
def secondSweetPlan : Row Sale × List ReturnLine :=
  value (planReturn sweetReturned.1 (sweetBack "return-2")) (by decide +kernel)

theorem valid_returns_accepted_iff_sweets :
    (ReturnRowsOk (sweetBack "return-1") sweetPlan.2 ↔
      DiscountCovered (returnedParts sweetPlan.2) ∧ Storable sweetPlan.2) ∧
    (∀ db' saleReturnId, createSaleReturn sweetReturned.1 (sweetBack "return-2")
      ≠ .ok (db', saleReturnId)) ∧
    ((∀ qs, (∀ q ∈ qs, OnGrid 3 q) → sweetItem.val.ValidReturns qs →
      sweetItem.val.EveryReturnCovered qs) ↔ sweetItem.val.AlwaysCovered) ∧
    (sweetItem.val.AlwaysCovered ↔ sweetItem.val.discountAmount = 0) := by
  have hfresh : sweetItem.val.Fresh := by
    constructor <;> decide +kernel
  have h := valid_returns_accepted_iff sweetSold.1 (sweetBack "return-1") sweetItem hfresh
  have h' := valid_returns_accepted_iff sweetReturned.1 (sweetBack "return-2") sweetItem hfresh
  refine ⟨?_, ?_, h.2.1, ?_⟩
  · exact (h.1 sweetPlan.1 _ (eq_ok_value _ _)).1
  · exact (h'.1 secondSweetPlan.1 _ (eq_ok_value _ _)).2 (by decide +kernel) (by decide +kernel)
  · exact h.2.2 (by decide +kernel) (by decide +kernel)

/-- The second tenth of the sweet is within what remains and passes every check of
the service, but its refund is negative and the database refuses its header. -/
theorem second_sweet_refused :
    (planReturn sweetReturned.1 (sweetBack "return-2")).isOk ∧
    totalRefund secondSweetPlan.2 < 0 ∧
    errorOf (createSaleReturn sweetReturned.1 (sweetBack "return-2"))
      = some (.integrity .saleReturns) := by
  decide +kernel

end GroceryErp
