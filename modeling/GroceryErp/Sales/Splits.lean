import GroceryErp.Lib.Increments
import GroceryErp.Sales.Returns

/-!
# Splitting a line into returns

One sale item, seen through the returns made of it: each return is priced from
the frozen item and the quantity that had come back before.  The discount and tax
shares telescope to what the item is entitled to; the price is rounded afresh for
every part, so parts can add up to more, or less, than the whole.

## Main definitions

* `entitlement` — the rounded share of a total that belongs to a quantity.
* `shares` — the shares of a total that successive returns are given.
* `SaleItem.ValidReturns`, `SaleItem.refunded` — a sequence of returns of an item,
  and what it refunds.
* `SplitSafe` — no way of splitting the item moves its price across a half cent.

## Main results

* `shares_telescope` — the shares stay between zero and the total, and come to it.
* `refunded_eq` — the refund of a sequence: rounded prices, and telescoped shares.
* `roundMoney_mul_of_splitSafe` — a safe price is linear in the quantity.
* `splits_refund_line_total_iff` — exactly the safe items refund their line total
  however they are split.
-/

namespace GroceryErp

open Decimal Increments Outcome Rows

/-! ### Entitlements -/

/-- The rounded share of a total that belongs to `x` out of `originalQty`. -/
def entitlement (total originalQty x : ℚ) : ℚ := roundMoney (total * x / originalQty)

@[simp] theorem entitlement_zero (total originalQty : ℚ) : entitlement total originalQty 0 = 0 := by
  simp [entitlement, roundMoney]

theorem entitlement_full {total originalQty : ℚ} (ht : OnGrid 2 total) (ho : 0 < originalQty) :
    entitlement total originalQty originalQty = total := by
  rw [entitlement, roundMoney, mul_div_cancel_right₀ _ ho.ne', quantize_eq_self ht]

theorem entitlement_mono {total originalQty x y : ℚ} (ht : 0 ≤ total) (ho : 0 < originalQty)
    (hxy : x ≤ y) : entitlement total originalQty x ≤ entitlement total originalQty y :=
  quantize_mono (by gcongr)

/-- A share is the difference of two entitlements. -/
theorem proportionalShare_eq (total originalQty already this : ℚ) :
    proportionalShare total originalQty already this
      = entitlement total originalQty (already + this) - entitlement total originalQty already := by
  unfold proportionalShare entitlement
  split
  · next h => simp [h, roundMoney]
  · rfl

theorem entitlement_neg (total originalQty : ℚ) :
    entitlement (-total) originalQty = -entitlement total originalQty := by
  funext x
  simp only [entitlement, roundMoney, Pi.neg_apply, neg_mul, neg_div, quantize_neg]

/-! ### Shares -/

/-- The shares that successive returns are given, when `alreadyReturnedQty` has come back before. -/
def shares (total originalQty : ℚ) : ℚ → List ℚ → List ℚ
  | _, [] => []
  | alreadyReturnedQty, thisReturnQty :: quantities =>
    proportionalShare total originalQty alreadyReturnedQty thisReturnQty ::
      shares total originalQty (alreadyReturnedQty + thisReturnQty) quantities

section Shares

variable {total originalQty : ℚ} {quantities : List ℚ}

/-- The shares are what the entitlement grows by. -/
theorem shares_eq_increments (total originalQty alreadyReturnedQty : ℚ) (quantities : List ℚ) :
    shares total originalQty alreadyReturnedQty quantities
      = increments (entitlement total originalQty) alreadyReturnedQty quantities := by
  induction quantities generalizing alreadyReturnedQty with
  | nil => rfl
  | cons quantity quantities ih => rw [shares, proportionalShare_eq, ih, increments_cons]

/-- The shares of a negative total are the opposites. -/
theorem shares_neg (total originalQty alreadyReturnedQty : ℚ) (quantities : List ℚ) :
    shares (-total) originalQty alreadyReturnedQty quantities
      = (shares total originalQty alreadyReturnedQty quantities).map Neg.neg := by
  rw [shares_eq_increments, shares_eq_increments, entitlement_neg, increments_neg]

theorem monotone_entitlement (htotal : 0 ≤ total) (hqty : 0 < originalQty) :
    Monotone (entitlement total originalQty) :=
  fun _ _ hxy => entitlement_mono htotal hqty hxy

theorem shares_nonneg (htotal : 0 ≤ total) (hqty : 0 < originalQty)
    (hquantities : ∀ quantity ∈ quantities, 0 ≤ quantity) :
    ∀ share ∈ shares total originalQty 0 quantities, 0 ≤ share := by
  rw [shares_eq_increments]
  exact increments_nonneg (monotone_entitlement htotal hqty) hquantities

/-- The first shares come to something between zero and the total. -/
theorem sum_take_shares (hgrid : OnGrid 2 total) (htotal : 0 ≤ total) (hqty : 0 < originalQty)
    (hquantities : ∀ quantity ∈ quantities, 0 ≤ quantity) (hsum : quantities.sum ≤ originalQty)
    (n : ℕ) : 0 ≤ ((shares total originalQty 0 quantities).take n).sum ∧
      ((shares total originalQty 0 quantities).take n).sum ≤ total := by
  have hmono := monotone_entitlement htotal hqty
  rw [shares_eq_increments]
  obtain ⟨hnonneg, hle⟩ := sum_take_increments hmono hquantities n (a := 0)
  refine ⟨hnonneg, hle.trans ?_⟩
  rw [zero_add, entitlement_zero, sub_zero]
  calc entitlement total originalQty quantities.sum
      ≤ entitlement total originalQty originalQty := hmono hsum
    _ = total := entitlement_full hgrid hqty

/-- **Whatever the returns are, every share has the sign of the total, the first shares come to
something between zero and the total, and all of them to the total once everything has come
back.** -/
theorem shares_telescope (hgrid : OnGrid 2 total) (hqty : 0 < originalQty)
    (hquantities : ∀ quantity ∈ quantities, 0 ≤ quantity) (hsum : quantities.sum ≤ originalQty) :
    (∀ share ∈ shares total originalQty 0 quantities,
      (0 ≤ total → 0 ≤ share) ∧ (total ≤ 0 → share ≤ 0)) ∧
    (∀ n, ((shares total originalQty 0 quantities).take n).sum ∈ Set.uIcc 0 total) ∧
    (quantities.sum = originalQty → (shares total originalQty 0 quantities).sum = total) := by
  -- the shares of a total below zero are the opposites of those of one above
  have hopposite : shares total originalQty 0 quantities
      = (shares (-total) originalQty 0 quantities).map Neg.neg := by
    rw [shares_neg, List.map_map, neg_comp_neg, List.map_id]
  refine ⟨?_, ?_, ?_⟩
  · intro share hshare
    refine ⟨fun htotal => shares_nonneg htotal hqty hquantities share hshare, fun htotal => ?_⟩
    rw [hopposite] at hshare
    obtain ⟨opposite, hmem, rfl⟩ := List.mem_map.mp hshare
    exact neg_nonpos.mpr (shares_nonneg (neg_nonneg.mpr htotal) hqty hquantities opposite hmem)
  · intro n
    rcases le_total 0 total with htotal | htotal
    · rw [Set.uIcc_of_le htotal]
      exact sum_take_shares hgrid htotal hqty hquantities hsum n
    · obtain ⟨hnonneg, hle⟩ :=
        sum_take_shares hgrid.neg (neg_nonneg.mpr htotal) hqty hquantities hsum n
      rw [Set.uIcc_of_ge htotal, hopposite, ← List.map_take, ← List.sum_neg]
      exact ⟨le_neg.mp hle, neg_nonpos.mpr hnonneg⟩
  · intro hall
    rw [shares_eq_increments, sum_increments, zero_add, hall, entitlement_zero, sub_zero]
    exact entitlement_full hgrid hqty

/-- A cent on three, which come back one by one: the second is given it. -/
theorem shares_telescope_cent : shares (1 / 100) 3 0 [1, 1, 1] = [0, 1 / 100, 0] ∧
    (shares (1 / 100) 3 0 [1, 1, 1]).sum = 1 / 100 := by
  have hgrid : OnGrid 2 (1 / 100 : ℚ) := by decide +kernel
  refine ⟨by decide +kernel, ?_⟩
  have hsum : [1, 1, 1].sum = (3 : ℚ) := by decide +kernel
  exact (shares_telescope hgrid (by decide) (by decide) hsum.le).2.2 hsum

end Shares

/-! ### Sequences of returns -/

namespace SaleItem

/-- Every return of the sequence is positive and within what remains. -/
def ValidReturns : SaleItem → List ℚ → Prop
  | _, [] => True
  | i, q :: qs =>
    (0 < q ∧ q ≤ i.quantity - i.quantityReturned) ∧ ValidReturns (i.afterReturn q) qs

/-- The item after a sequence of returns. -/
def afterReturns (i : SaleItem) (qs : List ℚ) : SaleItem := qs.foldl afterReturn i

/-- What a sequence of returns refunds for the item. -/
def refunded : SaleItem → List ℚ → ℚ
  | _, [] => 0
  | i, q :: qs => (computeLineRefund i q).amount + refunded (i.afterReturn q) qs

@[simp] theorem afterReturns_nil (i : SaleItem) : i.afterReturns [] = i := rfl

@[simp] theorem afterReturns_cons (i : SaleItem) (q : ℚ) (qs : List ℚ) :
    i.afterReturns (q :: qs) = (i.afterReturn q).afterReturns qs := rfl

theorem afterReturns_append (i : SaleItem) (qs : List ℚ) (q : ℚ) :
    i.afterReturns (qs ++ [q]) = (i.afterReturns qs).afterReturn q := by
  simp [afterReturns]

theorem validReturns_append (i : SaleItem) (qs : List ℚ) (q : ℚ) :
    i.ValidReturns (qs ++ [q]) ↔ i.ValidReturns qs ∧
      0 < q ∧ q ≤ (i.afterReturns qs).quantity - (i.afterReturns qs).quantityReturned := by
  induction qs generalizing i with
  | nil => simp [ValidReturns]
  | cons r qs ih => simp only [List.cons_append, ValidReturns, ih, afterReturns_cons, and_assoc]

theorem refunded_append (i : SaleItem) (qs : List ℚ) (q : ℚ) :
    i.refunded (qs ++ [q]) = i.refunded qs + (computeLineRefund (i.afterReturns qs) q).amount := by
  induction qs generalizing i with
  | nil => simp [refunded]
  | cons r qs ih => simp only [List.cons_append, refunded, ih, afterReturns_cons, add_assoc]

/-- The returns move nothing but the quantity returned. -/
theorem afterReturns_eq (i : SaleItem) (qs : List ℚ) :
    i.afterReturns qs = { i with quantityReturned := (i.afterReturns qs).quantityReturned } := by
  induction qs generalizing i with
  | nil => rfl
  | cons q qs ih =>
    rw [afterReturns_cons, ih]
    rfl

theorem quantityReturned_afterReturns {i : SaleItem} {qs : List ℚ}
    (hi : OnGrid 3 i.quantityReturned) (hqs : ∀ q ∈ qs, OnGrid 3 q) :
    (i.afterReturns qs).quantityReturned = i.quantityReturned + qs.sum := by
  induction qs generalizing i with
  | nil => simp
  | cons q qs ih =>
    have hq := hqs q List.mem_cons_self
    have h1 : (i.afterReturn q).quantityReturned = i.quantityReturned + q :=
      numeric_eq_self (hi.add hq)
    rw [afterReturns_cons, ih (h1 ▸ hi.add hq) fun r hr => hqs r (List.mem_cons_of_mem _ hr), h1,
      List.sum_cons, add_assoc]

/-- Within a valid sequence no more comes back than was sold. -/
theorem returned_le_of_validReturns {i : SaleItem} {qs : List ℚ}
    (hi : OnGrid 3 i.quantityReturned) (hle : i.quantityReturned ≤ i.quantity)
    (hqs : ∀ q ∈ qs, OnGrid 3 q) (hv : i.ValidReturns qs) :
    i.quantityReturned + qs.sum ≤ i.quantity := by
  induction qs generalizing i with
  | nil => simpa using hle
  | cons q qs ih =>
    obtain ⟨⟨hpos, hrem⟩, hv⟩ := hv
    have hq := hqs q List.mem_cons_self
    have h1 : (i.afterReturn q).quantityReturned = i.quantityReturned + q :=
      numeric_eq_self (hi.add hq)
    have h2 := ih (i := i.afterReturn q) (h1 ▸ hi.add hq)
      (by rw [h1]; exact le_sub_iff_add_le'.mp hrem)
      (fun r hr => hqs r (List.mem_cons_of_mem _ hr)) hv
    rw [h1] at h2
    rw [List.sum_cons, ← add_assoc]
    exact h2

/-- What a sequence refunds is what each of its returns is given. -/
theorem refunded_eq_shares {i : SaleItem} {qs : List ℚ} (hi : OnGrid 3 i.quantityReturned)
    (hqs : ∀ q ∈ qs, OnGrid 3 q) :
    i.refunded qs = (qs.map fun q => roundMoney (i.unitPriceAtSale * q)).sum
      - (shares i.discountAmount i.quantity i.quantityReturned qs).sum
      + (shares i.taxAmount i.quantity i.quantityReturned qs).sum := by
  induction qs generalizing i with
  | nil => simp [refunded, shares]
  | cons q qs ih =>
    have hq := hqs q List.mem_cons_self
    have h1 : (i.afterReturn q).quantityReturned = i.quantityReturned + q :=
      numeric_eq_self (hi.add hq)
    have h2 := ih (i := i.afterReturn q) (h1 ▸ hi.add hq)
      fun r hr => hqs r (List.mem_cons_of_mem _ hr)
    rw [h1] at h2
    rw [refunded, h2]
    simp only [computeLineRefund, LineRefund.amount, shares, List.map_cons, List.sum_cons,
      afterReturn]
    ring

/-- **What a sequence refunds**: the prices of its parts, each rounded by itself,
less the discount and plus the tax the returned quantity is entitled to. -/
theorem refunded_eq {i : SaleItem} {qs : List ℚ} (hi : OnGrid 3 i.quantityReturned)
    (hqs : ∀ q ∈ qs, OnGrid 3 q) :
    i.refunded qs = (qs.map fun q => roundMoney (i.unitPriceAtSale * q)).sum
      - (entitlement i.discountAmount i.quantity (i.quantityReturned + qs.sum)
        - entitlement i.discountAmount i.quantity i.quantityReturned)
      + (entitlement i.taxAmount i.quantity (i.quantityReturned + qs.sum)
        - entitlement i.taxAmount i.quantity i.quantityReturned) := by
  rw [refunded_eq_shares hi hqs, shares_eq_increments, shares_eq_increments, sum_increments,
    sum_increments]

end SaleItem

/-! ### Safe prices -/

/-- What rounding the price of a thousandth of a unit to whole cents leaves over. -/
def thousandthError (unitPrice : ℚ) : ℚ := unitPrice / 1000 - roundMoney (unitPrice / 1000)

/-- Over the whole quantity, the rounding errors of single thousandths add up to
less than half a cent. -/
def SplitSafe (unitPrice quantity : ℚ) : Prop :=
  -(1 / 200) ≤ quantity * 1000 * thousandthError unitPrice ∧
    quantity * 1000 * thousandthError unitPrice < 1 / 200

instance (unitPrice quantity : ℚ) : Decidable (SplitSafe unitPrice quantity) :=
  inferInstanceAs (Decidable (_ ∧ _))

theorem onGrid_thousandths {q p : ℚ} (hq : OnGrid 3 q) :
    OnGrid 2 (q * 1000 * roundMoney (p / 1000)) := by
  obtain ⟨n, rfl⟩ := hq
  have hn : (n : ℚ) / 10 ^ 3 * 1000 = n := by norm_num
  rw [hn]
  exact (onGrid_quantize 2 _).intCast_mul n

/-- A part is priced at a whole number of cents per thousandth exactly when the
errors of its thousandths add up to less than half a cent. -/
theorem roundMoney_mul_eq_iff {p q : ℚ} (hp : 0 ≤ p) (hq0 : 0 ≤ q) (hq : OnGrid 3 q) :
    roundMoney (p * q) = q * 1000 * roundMoney (p / 1000) ↔ SplitSafe p q := by
  have hsplit : p * q = q * 1000 * roundMoney (p / 1000) + q * 1000 * thousandthError p := by
    unfold thousandthError
    ring
  have hquantum : quantum 2 / 2 = 1 / 200 := by norm_num [quantum]
  rw [show roundMoney (p * q) = quantize 2 (p * q) from rfl,
    quantize_eq_iff (mul_nonneg hp hq0) (onGrid_thousandths hq), hquantum, hsplit]
  unfold SplitSafe
  constructor
  · rintro ⟨h1, h2⟩
    constructor <;> linarith
  · rintro ⟨h1, h2⟩
    constructor <;> linarith

/-- A part of a safe quantity is safe. -/
theorem SplitSafe.mono {p q r : ℚ} (h : SplitSafe p q) (hr : 0 ≤ r) (hrq : r ≤ q) :
    SplitSafe p r := by
  obtain ⟨h1, h2⟩ := h
  have hscale : r * 1000 ≤ q * 1000 := by linarith
  have hr' : 0 ≤ r * 1000 := by linarith
  -- the error of the part lies between zero and the error of the whole
  rcases le_total 0 (thousandthError p) with he | he
  · have := mul_le_mul_of_nonneg_right hscale he
    have := mul_nonneg hr' he
    constructor <;> linarith
  · have := mul_le_mul_of_nonpos_right hscale he
    have := mul_nonpos_of_nonneg_of_nonpos hr' he
    constructor <;> linarith

/-- **A safe price is linear**: every part costs its thousandths. -/
theorem roundMoney_mul_of_splitSafe {p q r : ℚ} (hp : 0 ≤ p) (h : SplitSafe p q) (hr : 0 ≤ r)
    (hrq : r ≤ q) (hgrid : OnGrid 3 r) :
    roundMoney (p * r) = r * 1000 * roundMoney (p / 1000) :=
  (roundMoney_mul_eq_iff hp hr hgrid).mpr (h.mono hr hrq)

/-! ### Exactly the safe items -/

/-- A sale item that has just been sold, its columns at their scales and its
discount within its price. -/
structure SaleItem.Fresh (i : SaleItem) : Prop where
  quantity : OnGrid 3 i.quantity
  discount : OnGrid 2 i.discountAmount
  tax : OnGrid 2 i.taxAmount
  returned : i.quantityReturned = 0
  discount_le : i.discountAmount ≤ roundMoney (i.unitPriceAtSale * i.quantity)
  line_total :
    i.lineTotal = roundMoney (i.unitPriceAtSale * i.quantity) - i.discountAmount + i.taxAmount

/-- The returns of an item refund no more than its line total, and exactly that
once all of it has come back. -/
def SaleItem.RefundsLineTotal (i : SaleItem) (qs : List ℚ) : Prop :=
  i.refunded qs ≤ i.lineTotal ∧
    ((i.afterReturns qs).quantityReturned = i.quantity → i.refunded qs = i.lineTotal)

section Exact

variable {i : Row SaleItem} {qs : List ℚ}

/-- What is left of the discount is covered by the price of what is left. -/
theorem sub_entitlement_le {d q s a : ℚ} (hq : 0 < q) (ha : OnGrid 2 a)
    (hd : OnGrid 2 d) (hle : d * (q - s) / q ≤ a) : d - entitlement d q s ≤ a := by
  have hsplit : d * s / q = d - d * (q - s) / q := by
    field_simp
    ring
  have h : d - a ≤ d * s / q := by
    rw [hsplit]
    linarith
  have hround := quantize_mono (n := 2) h
  rw [quantize_eq_self (hd.sub ha)] at hround
  have : d - a ≤ entitlement d q s := hround
  linarith

theorem sum_prices_of_splitSafe (hsafe : SplitSafe i.val.unitPriceAtSale i.val.quantity)
    (hqs : ∀ q ∈ qs, OnGrid 3 q) (hpos : ∀ q ∈ qs, 0 < q) (hle : qs.sum ≤ i.val.quantity) :
    (qs.map fun q => roundMoney (i.val.unitPriceAtSale * q)).sum
      = qs.sum * 1000 * roundMoney (i.val.unitPriceAtSale / 1000) := by
  induction qs with
  | nil => simp
  | cons q qs ih =>
    have hq := hpos q List.mem_cons_self
    have hrest : 0 ≤ qs.sum := List.sum_nonneg fun r hr => (hpos r (List.mem_cons_of_mem _ hr)).le
    rw [List.sum_cons] at hle
    rw [List.map_cons, List.sum_cons, List.sum_cons,
      roundMoney_mul_of_splitSafe i.property.price_nonneg hsafe hq.le (by linarith)
        (hqs q List.mem_cons_self),
      ih (fun r hr => hqs r (List.mem_cons_of_mem _ hr))
        (fun r hr => hpos r (List.mem_cons_of_mem _ hr)) (by linarith)]
    ring

theorem pos_of_validReturns {i : SaleItem} {qs : List ℚ} (hv : i.ValidReturns qs) :
    ∀ q ∈ qs, 0 < q := by
  induction qs generalizing i with
  | nil => simp
  | cons q qs ih =>
    rintro r hr
    rcases List.mem_cons.mp hr with rfl | hr
    · exact hv.1.1
    · exact ih hv.2 r hr

/-- However a safe item is split, it refunds its line total. -/
theorem refundsLineTotal_of_splitSafe (hfresh : i.val.Fresh)
    (hsafe : SplitSafe i.val.unitPriceAtSale i.val.quantity) (hqs : ∀ q ∈ qs, OnGrid 3 q)
    (hv : i.val.ValidReturns qs) : i.val.RefundsLineTotal qs := by
  have hq := i.property.quantity_pos
  have hr0 : OnGrid 3 i.val.quantityReturned := hfresh.returned ▸ onGrid_zero 3
  have hsum : qs.sum ≤ i.val.quantity := by
    have h := SaleItem.returned_le_of_validReturns hr0 i.property.returned_le hqs hv
    rwa [hfresh.returned, zero_add] at h
  have hpos := pos_of_validReturns hv
  have hs0 : 0 ≤ qs.sum := List.sum_nonneg fun q hq => (hpos q hq).le
  have hprice := sum_prices_of_splitSafe hsafe hqs hpos hsum
  have hwhole := roundMoney_mul_of_splitSafe i.property.price_nonneg hsafe hq.le le_rfl
    hfresh.quantity
  -- what has been refunded is what its quantity entitles to, as the shares telescope
  have hrefund := SaleItem.refunded_eq hr0 hqs
  rw [hfresh.returned, zero_add, entitlement_zero, entitlement_zero, sub_zero, sub_zero,
    hprice] at hrefund
  set a := roundMoney (i.val.unitPriceAtSale / 1000) with ha
  refine ⟨?_, fun hfull => ?_⟩
  · have htax : entitlement i.val.taxAmount i.val.quantity qs.sum ≤ i.val.taxAmount := by
      have h := entitlement_mono i.property.tax_nonneg hq hsum
      rwa [entitlement_full hfresh.tax hq] at h
    have hrem : OnGrid 2 ((i.val.quantity - qs.sum) * 1000 * a) :=
      onGrid_thousandths (hfresh.quantity.sub (onGrid_sum qs hqs))
    -- the discount of what remains is at most its price, which is whole cents in a safe item
    have hdisc : i.val.discountAmount * (i.val.quantity - qs.sum) / i.val.quantity
        ≤ (i.val.quantity - qs.sum) * 1000 * a := by
      have h := hfresh.discount_le
      rw [hwhole] at h
      rw [div_le_iff₀ hq]
      have := mul_le_mul_of_nonneg_right h (sub_nonneg.mpr hsum)
      linarith
    have hleft := sub_entitlement_le hq hrem hfresh.discount hdisc
    rw [hrefund, hfresh.line_total, hwhole]
    linarith
  -- all has come back, and all of discount and tax with it
  · have hall : qs.sum = i.val.quantity := by
      have h := SaleItem.quantityReturned_afterReturns hr0 hqs
      rw [hfresh.returned, zero_add] at h
      rw [← h, hfull]
    rw [hrefund, hall, entitlement_full hfresh.discount hq, entitlement_full hfresh.tax hq,
      hfresh.line_total, hwhole]

/-- The item returned one thousandth at a time. -/
theorem validReturns_thousandths {i : SaleItem} (n : ℕ) (hi : OnGrid 3 i.quantityReturned)
    (hn : i.quantityReturned + n / 1000 ≤ i.quantity) :
    i.ValidReturns (List.replicate n (1 / 1000)) := by
  induction n generalizing i with
  | zero => trivial
  | succ n ih =>
    have hgrid : OnGrid 3 (1 / 1000 : ℚ) := ⟨1, by norm_num⟩
    have h1 : (i.afterReturn (1 / 1000)).quantityReturned = i.quantityReturned + 1 / 1000 :=
      numeric_eq_self (hi.add hgrid)
    push_cast at hn
    have hn0 : (0 : ℚ) ≤ n := Nat.cast_nonneg n
    rw [List.replicate_succ]
    refine ⟨⟨by norm_num, by linarith⟩, ih (h1 ▸ hi.add hgrid) ?_⟩
    rw [h1]
    have hq : (i.afterReturn (1 / 1000)).quantity = i.quantity := rfl
    rw [hq]
    linarith

/-- **Exactly the safe items refund their line total however they are split.** -/
theorem splits_refund_line_total_iff (hfresh : i.val.Fresh) :
    (∀ qs, (∀ q ∈ qs, OnGrid 3 q) → i.val.ValidReturns qs → i.val.RefundsLineTotal qs) ↔
      SplitSafe i.val.unitPriceAtSale i.val.quantity := by
  have hq := i.property.quantity_pos
  have hr0 : OnGrid 3 i.val.quantityReturned := hfresh.returned ▸ onGrid_zero 3
  constructor
  · intro h
    -- returning single thousandths adds up the rounded price of a thousandth
    obtain ⟨k, hk⟩ := hfresh.quantity
    have hk0 : 0 ≤ k := by
      by_contra hneg
      have hneg' : (k : ℚ) < 0 := by exact_mod_cast not_le.mp hneg
      have : i.val.quantity < 0 := hk ▸ div_neg_of_neg_of_pos hneg' (by norm_num)
      linarith
    obtain ⟨n, rfl⟩ := Int.eq_ofNat_of_zero_le hk0
    have hqn : (n : ℚ) / 1000 = i.val.quantity := by
      rw [hk]
      norm_num
    have hgrid : ∀ q ∈ List.replicate n (1 / 1000 : ℚ), OnGrid 3 q := fun q hmem =>
      (List.eq_of_mem_replicate hmem) ▸ ⟨1, by norm_num⟩
    have hsum : (List.replicate n (1 / 1000 : ℚ)).sum = i.val.quantity := by
      rw [List.sum_replicate, nsmul_eq_mul, ← hqn]
      ring
    have hvalid := validReturns_thousandths (i := i.val) n hr0
      (by rw [hfresh.returned, zero_add, hqn])
    have hfull : (i.val.afterReturns (List.replicate n (1 / 1000))).quantityReturned
        = i.val.quantity := by
      rw [SaleItem.quantityReturned_afterReturns hr0 hgrid, hfresh.returned, zero_add, hsum]
    have heq := (h _ hgrid hvalid).2 hfull
    rw [SaleItem.refunded_eq hr0 hgrid, hfresh.returned, zero_add, hsum, entitlement_zero,
      entitlement_zero, entitlement_full hfresh.discount hq, entitlement_full hfresh.tax hq,
      hfresh.line_total, List.map_replicate, List.sum_replicate, nsmul_eq_mul] at heq
    refine (roundMoney_mul_eq_iff i.property.price_nonneg hq.le hfresh.quantity).mp ?_
    have hprice : i.val.unitPriceAtSale * (1 / 1000) = i.val.unitPriceAtSale / 1000 := by ring
    rw [hprice] at heq
    rw [← hqn]
    rw [← hqn] at heq
    linarith
  · intro hsafe qs hqs hv
    exact refundsLineTotal_of_splitSafe hfresh hsafe hqs hv

end Exact

end GroceryErp
