import GroceryErp.Sales.Refunds

/-!
# The items of an accepted cart

The checkout rounds quantity times price, and then takes the discount off and puts the tax
on; the CHECK constraint of the sale items rounds the whole.  The two differ on a line that
gives away, by its discount, an amount that was rounded up from half a cent: what is left of
it is half a cent below zero, and the database rounds that away from zero.

## Main definitions

* `SaleItem.LineTotalConsistent` — the constraint on the line total.
* `SaleLineInput.GivesAwayHalfCent` — the lines on which the two roundings differ.

## Main results

* `lineTotalConsistent_iff` — a priced line meets the constraint unless it is such a line.
* `sale_items_accepted_iff` — the items of an accepted cart are taken by the database exactly
  when none of its lines is one.

## References

`backend/app/modules/sales/service.py`, `finalize_sale`; `backend/app/modules/sales/models.py`,
`SaleItem`.
-/

namespace GroceryErp

open Decimal Outcome Rows

/-- `ck_sale_items_line_total_consistent`: the stored total is what the other stored columns give,
rounded by the database. -/
def SaleItem.LineTotalConsistent (i : SaleItem) : Prop :=
  i.lineTotal = numeric 2 (i.quantity * i.unitPriceAtSale - i.discountAmount + i.taxAmount)

/-- Quantity times price ends in half a cent, and the discount is all of it, rounded up. -/
def SaleLineInput.GivesAwayHalfCent (line : SaleLineInput) (price : ℚ) : Prop :=
  roundMoney (line.quantity * price) = line.quantity * price + quantum 2 / 2 ∧
    line.discountAmount = roundMoney (line.quantity * price)

instance (line : SaleLineInput) (price : ℚ) : Decidable (line.GivesAwayHalfCent price) :=
  inferInstanceAs (Decidable (_ ∧ _))

/-- The tax rates are not negative, as the CHECK constraint of `tax_rates` has it. -/
def RatesNonneg (db : Db) : Prop := ∀ r ∈ db.master.taxRates, 0 ≤ r.ratePercent

/-- A line of the cart gives half a cent away. -/
def FinalizeSale.GivesAwayHalfCent (db : Db) (req : FinalizeSale) : Prop :=
  ∃ line ∈ req.lines, ∃ p, db.stock.products[line.productId]? = some p ∧
    line.GivesAwayHalfCent p.val.currentPrice

section Lines

variable {db : Db} {today : Date} {line : SaleLineInput} {c : ComputedLine}

theorem rate_nonneg_of_resolveTax {product : Product} {taxRateId : Option ℕ} {ratePercent : ℚ}
    (hrates : RatesNonneg db) (h : resolveTax db product today = .ok (taxRateId, ratePercent)) :
    0 ≤ ratePercent := by
  unfold resolveTax at h
  split at h
  · simp only [pure_eq_ok, Prod.mk.injEq] at h
    exact h.2.le
  · simp only [↓check_bind_eq_ok, bind_eq_ok, orRaise_eq_ok, raiseIf_eq_ok, pure_eq_ok,
      Prod.mk.injEq] at h
    obtain ⟨rate, hrate, -, -, rfl⟩ := h
    exact hrates rate (mem_of_row hrate)

/-- **The rounded amounts of a line add up to its amount rounded**, unless the line gives half
a cent away. -/
theorem roundMoney_line_iff {x d t rate : ℚ} (hx : 0 ≤ x) (hd : OnGrid 2 d)
    (hle : d ≤ roundMoney x) (hrate : 0 ≤ rate)
    (ht : t = roundMoney ((roundMoney x - d) * rate / 100)) :
    roundMoney x - d + t = roundMoney (x - d + t) ↔
      ¬(roundMoney x = x + quantum 2 / 2 ∧ d = roundMoney x) := by
  have hquantum := quantum_pos 2
  have hround : OnGrid 2 (roundMoney x) := onGrid_quantize 2 x
  have htgrid : OnGrid 2 t := by
    rw [ht]
    exact onGrid_quantize 2 _
  have htaxable : 0 ≤ roundMoney x - d := sub_nonneg.mpr hle
  have htnonneg : 0 ≤ t := by
    rw [ht]
    exact quantize_nonneg (by positivity)
  have hshift := quantize_add_of_onGrid_iff (htgrid.sub hd) hx
  have hleft : roundMoney x - d + t = quantize 2 x + (t - d) := by
    rw [roundMoney]
    ring
  have hright : roundMoney (x - d + t) = quantize 2 (x + (t - d)) := by
    rw [roundMoney]
    congr 1
    ring
  rw [hleft, hright, eq_comm, hshift]
  constructor
  · rintro hor ⟨htie, hall⟩
    -- nothing is left to tax, so what is left is half a cent below zero
    have htax : t = 0 := by
      rw [ht, hall, sub_self, zero_mul, zero_div]
      exact quantize_zero 2
    rcases hor with hnonneg | hne
    · linarith
    · exact hne htie
  · intro hnot
    by_contra hcon
    rw [not_or, not_le, not_not] at hcon
    obtain ⟨hneg, htie⟩ := hcon
    refine hnot ⟨htie, ?_⟩
    by_contra hne
    -- otherwise a cent at least is left of the amount
    have hcent := (hround.sub hd).quantum_le (lt_of_le_of_ne htaxable fun heq =>
      hne (by linarith))
    rw [roundMoney] at hcent
    linarith

/-- **A priced line meets the constraint on its total**, unless it gives half a cent away. -/
theorem lineTotalConsistent_iff (hprices : PricesAtScale db) (hrates : RatesNonneg db)
    (hq : OnGrid 3 line.quantity) (hd : OnGrid 2 line.discountAmount) (hpos : 0 < line.quantity)
    (h : priceLine db today line = .ok c) {p : Row Product}
    (hp : db.stock.products[line.productId]? = some p) (saleId : ℕ) :
    (c.item saleId).LineTotalConsistent ↔ ¬line.GivesAwayHalfCent p.val.currentPrice := by
  obtain ⟨q, rateId, rate, hq', hle, hresolve, rfl⟩ := priceLine_eq_ok.mp h
  obtain rfl : p = q := Option.some.inj (hp.symm.trans hq')
  have hprice := hprices p (mem_of_row hp)
  have hround : ∀ x, OnGrid 2 (roundMoney x) := fun x => onGrid_quantize 2 x
  have htotal := ((hround (line.quantity * p.val.currentPrice)).sub hd).add
    (hround ((roundMoney (line.quantity * p.val.currentPrice) - line.discountAmount) * rate / 100))
  unfold SaleItem.LineTotalConsistent
  simp only [ComputedLine.item, numeric_eq_self hq, numeric_eq_self hprice, numeric_eq_self hd,
    numeric_eq_self (hround _), numeric_eq_self htotal]
  exact roundMoney_line_iff (mul_nonneg hpos.le p.property.price_nonneg) hd hle
    (rate_nonneg_of_resolveTax hrates hresolve) rfl

/-- A priced line is taken by the database when it meets the constraint on its total. -/
theorem checks_item_iff (hrates : RatesNonneg db) (hq : OnGrid 3 line.quantity)
    (hd : 0 ≤ line.discountAmount) (hpos : 0 < line.quantity)
    (h : priceLine db today line = .ok c) (saleId : ℕ) :
    Table.Checks (c.item saleId) ↔ (c.item saleId).LineTotalConsistent := by
  obtain ⟨p, rateId, rate, -, hle, hresolve, rfl⟩ := priceLine_eq_ok.mp h
  have hrate := rate_nonneg_of_resolveTax hrates hresolve
  refine ⟨fun hc => hc.line_total_consistent, fun hc => ⟨?_, ?_, ?_, ?_, ?_, hc, le_rfl, ?_⟩⟩
  · simpa only [ComputedLine.item, numeric_eq_self hq] using hpos
  · exact quantize_nonneg p.property.price_nonneg
  · exact p.property.cost_nonneg
  · exact quantize_nonneg hd
  · have htaxable := sub_nonneg.mpr hle
    exact quantize_nonneg (quantize_nonneg (by positivity))
  · simpa only [ComputedLine.item, numeric_eq_self hq] using hpos.le

end Lines

/-! ### Carts -/

section Carts

variable {db : Db} {req : FinalizeSale} {cart : PricedCart} {changeDue : ℚ}

/-- Every line of the request is priced in an accepted cart. -/
theorem exists_priced_of_checkout (h : checkout db req = .ok (cart, changeDue)) :
    ∀ line ∈ req.lines, ∃ c ∈ cart.computed, priceLine db req.today line = .ok c := by
  obtain ⟨hprice, -⟩ := checkout_ok h
  obtain ⟨-, -, hlines⟩ := priceCart_ok hprice
  intro line hline
  exact exists_of_mapM (mapM_eq_ok.mpr hlines) hline

/-- What holds of the item of every priced line exactly when the line does not give half a cent
away, holds of all the items of a cart exactly when no line does. -/
theorem forall_items_iff {P : ComputedLine → Prop} (h : checkout db req = .ok (cart, changeDue))
    (hP : ∀ line ∈ req.lines, ∀ c p, 0 < line.quantity → priceLine db req.today line = .ok c →
      db.stock.products[line.productId]? = some p →
      (P c ↔ ¬line.GivesAwayHalfCent p.val.currentPrice)) :
    (∀ c ∈ cart.computed, P c) ↔ ¬req.GivesAwayHalfCent db := by
  constructor
  · rintro hall ⟨line, hline, p, hp, hgives⟩
    obtain ⟨c, hc, hprice⟩ := exists_priced_of_checkout h line hline
    obtain ⟨-, hstock, -⟩ := priceCart_ok (checkout_ok h).1
    exact (hP line hline c p (checkCartStock_quantity_pos hstock line hline) hprice hp).mp
      (hall c hc) hgives
  · intro hnone c hc
    obtain ⟨line, hline, hpos, hprice⟩ := exists_line_of_checkout h c hc
    obtain ⟨p, -, -, hp, -⟩ := priceLine_eq_ok.mp hprice
    exact (hP line hline c p hpos hprice hp).mpr fun hgives => hnone ⟨line, hline, p, hp, hgives⟩

/-- **The items of an accepted cart are taken by the database exactly when no line gives half a
cent away.**  The constraint on their line totals holds for exactly these carts, and with
discounts that are not negative it is the only one that can fail. -/
theorem sale_items_accepted_iff (hprices : PricesAtScale db) (hrates : RatesNonneg db)
    (hscale : ∀ line ∈ req.lines, OnGrid 3 line.quantity ∧ OnGrid 2 line.discountAmount)
    (h : checkout db req = .ok (cart, changeDue)) (saleId : ℕ) :
    ((∀ c ∈ cart.computed, (c.item saleId).LineTotalConsistent) ↔ ¬req.GivesAwayHalfCent db) ∧
    ((∀ line ∈ req.lines, 0 ≤ line.discountAmount) →
      ((∀ c ∈ cart.computed, ∃ row, flush (c.item saleId) = .ok row) ↔
        ¬req.GivesAwayHalfCent db)) := by
  have hconsistent : ∀ line ∈ req.lines, ∀ c p, 0 < line.quantity →
      priceLine db req.today line = .ok c → db.stock.products[line.productId]? = some p →
      ((c.item saleId).LineTotalConsistent ↔ ¬line.GivesAwayHalfCent p.val.currentPrice) :=
    fun line hline c p hpos hprice hp => lineTotalConsistent_iff hprices hrates
      (hscale line hline).1 (hscale line hline).2 hpos hprice hp saleId
  refine ⟨forall_items_iff h hconsistent, fun hdiscounts => forall_items_iff h ?_⟩
  intro line hline c p hpos hprice hp
  rw [exists_flush_eq_ok, checks_item_iff hrates (hscale line hline).1 (hdiscounts line hline) hpos
    hprice saleId]
  exact hconsistent line hline c p hpos hprice hp

/-! ### A sweet given away -/

/-- Half a unit of a product, all of its rounded price taken off. -/
def giveHalfAway (discount : ℚ) : FinalizeSale where
  storeId := 0
  cashierId := 0
  clientTransactionId := "till-1"
  callerStoreId := none
  lines := [{ productId := 0, quantity := 1 / 2, discountAmount := discount }]
  payments := [⟨.cash, 1 / 100⟩]
  today := 0

def cheeseCart : PricedCart × ℚ :=
  value (checkout cheeseTill.db (giveHalfAway 5)) (by decide +kernel)

/-- Half a kilo of a cheese at ten the kilo is given away: its price is whole cents. -/
theorem sale_items_accepted_iff_cheese :
    (∀ c ∈ cheeseCart.1.computed, (c.item 0).LineTotalConsistent) ∧
      ∀ c ∈ cheeseCart.1.computed, ∃ row, flush (c.item 0) = .ok row := by
  have hprices : PricesAtScale cheeseTill.db := by
    unfold PricesAtScale
    decide +kernel
  have hkept : ¬(giveHalfAway 5).GivesAwayHalfCent cheeseTill.db := by
    rintro ⟨line, hline, p, hp, hgives⟩
    obtain rfl := List.mem_singleton.mp hline
    cases hp
    revert hgives
    decide +kernel
  have hrates : RatesNonneg cheeseTill.db := by simp [RatesNonneg, cheeseTill, shopAt]
  have h := @sale_items_accepted_iff cheeseTill.db (giveHalfAway 5) cheeseCart.1 cheeseCart.2
    hprices hrates (by decide +kernel) (eq_ok_value _ _) 0
  exact ⟨h.1.mpr hkept, (h.2 (by decide +kernel)).mpr hkept⟩

/-- Half of a sweet at a cent is half a cent, rounded up to the cent that is then taken off: the
checkout accepts the cart, and the insert of the item is refused. -/
theorem sweet_given_away_refused :
    (∃ cart, checkout pennyTill.db (giveHalfAway (1 / 100)) = .ok cart) ∧
      errorOf (finalizeSale pennyTill.db (giveHalfAway (1 / 100)))
        = some (.integrity .saleItems) :=
  ⟨⟨_, eq_ok_value _ (by decide +kernel)⟩, by decide +kernel⟩

end Carts

end GroceryErp
