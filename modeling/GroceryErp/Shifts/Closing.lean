import GroceryErp.Shifts.Sessions

/-!
# What a shift is closed on

The rows that are attributed to a shift, and what they leave in its till.

## Main definitions

* `SameRows`, `KeepsAttributed` — how the rows of a shift may change.
* `ClosedOn` — a shift has been closed on what its rows leave in the till.

## Main results

* `TillWrites.sameTill` — a sale or a return counts in no till but that of its shift.
* `computeExpectedCash_eq` — what is expected is the float and what the rows leave.
-/

namespace GroceryErp

open Decimal Outcome Rows Runs Transactions

/-! ### The property -/

/-- The rows that are attributed to the shift are the same. -/
structure SameRows (shiftId : ℕ) (db db' : Db) : Prop where
  sales : ∀ i, HasAt db'.sales.sales (·.val.shiftId) i (some shiftId) ↔
    HasAt db.sales.sales (·.val.shiftId) i (some shiftId)
  returns : ∀ i, HasAt db'.sales.returns (·.val.shiftId) i (some shiftId) ↔
    HasAt db.sales.returns (·.val.shiftId) i (some shiftId)
  movements : ∀ i, HasAt db'.shifts.movements (·.val.shiftId) i shiftId ↔
    HasAt db.shifts.movements (·.val.shiftId) i shiftId

/-- A row that is attributed to a shift stays so. -/
structure KeepsAttributed (db db' : Db) : Prop where
  sales : ∀ i s, HasAt db.sales.sales (·.val.shiftId) i s →
    HasAt db'.sales.sales (·.val.shiftId) i s
  returns : ∀ i s, HasAt db.sales.returns (·.val.shiftId) i s →
    HasAt db'.sales.returns (·.val.shiftId) i s
  movements : ∀ i s, HasAt db.shifts.movements (·.val.shiftId) i s →
    HasAt db'.shifts.movements (·.val.shiftId) i s

/-- What was expected at the close is the float and what the rows of the shift leave in the
till, and the variance is what was counted above it. -/
structure ClosedOn (db : Db) (shiftId : ℕ) (shift : CashierShift) : Prop where
  expected : shift.expectedCashAmount = some (shift.openingFloat + tillCash db shiftId)
  variance : ∃ counted, shift.closingCountedAmount = some counted ∧
    shift.varianceAmount = some (counted - (shift.openingFloat + tillCash db shiftId))

/-- The rows that a till counts, as their columns keep them, and every payment of a sale. -/
structure TillRows (db : Db) : Prop where
  payments : ∀ p ∈ db.sales.payments,
    p.val.saleId < db.sales.sales.length ∧ OnGrid 2 p.val.amount
  sales : ∀ s ∈ db.sales.sales, OnGrid 2 s.val.changeDue
  returns : ∀ r ∈ db.sales.returns, OnGrid 2 r.val.refundAmount
  movements : ∀ m ∈ db.shifts.movements, OnGrid 2 m.val.amount
  shifts : ∀ s ∈ db.shifts.shifts, OnGrid 2 s.val.openingFloat

/-- Tables in which no shift has been opened yet. -/
structure Db.BeforeShifts (db : Db) : Prop where
  shifts : db.shifts.shifts = []
  rows : TillRows db

/-! ### What counts in a till -/

section Counting

variable {db d db' : Db} {shiftId : ℕ} {o : Option ℕ}

theorem SameRows.refl (shiftId : ℕ) (db : Db) : SameRows shiftId db db :=
  ⟨fun _ => Iff.rfl, fun _ => Iff.rfl, fun _ => Iff.rfl⟩

theorem SameRows.trans (h : SameRows shiftId db d) (h' : SameRows shiftId d db') :
    SameRows shiftId db db' where
  sales i := (h'.sales i).trans (h.sales i)
  returns i := (h'.returns i).trans (h.returns i)
  movements i := (h'.movements i).trans (h.movements i)

theorem KeepsAttributed.refl (db : Db) : KeepsAttributed db db :=
  ⟨fun _ _ h => h, fun _ _ h => h, fun _ _ h => h⟩

theorem KeepsAttributed.trans (h : KeepsAttributed db d) (h' : KeepsAttributed d db') :
    KeepsAttributed db db' where
  sales i s hi := h'.sales i s (h.sales i s hi)
  returns i s hi := h'.returns i s (h.returns i s hi)
  movements i s hi := h'.movements i s (h.movements i s hi)

theorem keepsAttributed_of_eq (hsales : db'.sales = db.sales)
    (hmovements : db'.shifts.movements = db.shifts.movements) : KeepsAttributed db db' := by
  refine ⟨?_, ?_, ?_⟩
  · intro i s hi
    rwa [hsales]
  · intro i s hi
    rwa [hsales]
  · intro i s hi
    rwa [hmovements]

/-- The rows of the shift and what they leave in the till are the same. -/
structure SameTill (shiftId : ℕ) (db db' : Db) : Prop where
  rows : SameRows shiftId db db'
  cash : tillCash db' shiftId = tillCash db shiftId

theorem sameTill_of_eq (hsales : db'.sales = db.sales)
    (hmovements : db'.shifts.movements = db.shifts.movements) : SameTill shiftId db db' := by
  refine ⟨⟨?_, ?_, ?_⟩, ?_⟩
  · intro i
    rw [hsales]
  · intro i
    rw [hsales]
  · intro i
    rw [hmovements]
  · unfold tillCash cashTenderedInShift changeGiven cashRefunded cashMoved
    rw [hsales, hmovements]

/-- A payment of a sale that is there counts as the sale does. -/
theorem cashTendered_append (hrows : TillRows db) {sale : Row Sale} {payments : List (Row Payment)}
    (hne : sale.val.shiftId ≠ some shiftId)
    (hpaid : ∀ p ∈ payments, p.val.saleId = db.sales.sales.length)
    (hsales : db'.sales.sales = db.sales.sales ++ [sale])
    (htendered : db'.sales.payments = db.sales.payments ++ payments) :
    cashTenderedInShift db' shiftId = cashTenderedInShift db shiftId := by
  unfold cashTenderedInShift
  rw [htendered, hsales, sumWhere_append]
  have hnew : sumWhere (fun p : Row Payment => p.val.paymentMethod = .cash ∧
      ∃ s ∈ (db.sales.sales ++ [sale])[p.val.saleId]?, s.val.shiftId = some shiftId)
      (·.val.amount) payments = 0 := by
    apply sumWhere_eq_zero
    intro p hp hcounts
    obtain ⟨-, s, hs, hshift⟩ := hcounts
    rw [hpaid p hp, List.getElem?_concat_length, Option.mem_some_iff] at hs
    rw [← hs] at hshift
    exact absurd hshift hne
  rw [hnew, add_zero]
  apply sumWhere_congr
  · intro p hp
    rw [List.getElem?_append_left (hrows.payments p hp).1]
  · intro p _ _
    rfl

/-- Only the columns that a till counts matter. -/
theorem cashTendered_of_columns
    (hsales : db'.sales.sales.map (·.val.tillColumns) = db.sales.sales.map (·.val.tillColumns))
    (htendered : db'.sales.payments = db.sales.payments) :
    cashTenderedInShift db' shiftId = cashTenderedInShift db shiftId := by
  unfold cashTenderedInShift
  rw [htendered]
  have hcolumn : ∀ i : ℕ, (∃ s ∈ db'.sales.sales[i]?, s.val.shiftId = some shiftId) ↔
      ∃ s ∈ db.sales.sales[i]?, s.val.shiftId = some shiftId := by
    intro i
    have hmap : ∀ ss : List (Row Sale), (∃ s ∈ ss[i]?, s.val.shiftId = some shiftId) ↔
        ∃ c ∈ (ss.map (·.val.tillColumns))[i]?, c.1 = some shiftId := by
      intro ss
      rw [List.getElem?_map]
      cases ss[i]? with
      | none => simp
      | some s => simp [Sale.tillColumns]
    rw [hmap, hmap, hsales]
  apply sumWhere_congr
  · intro p _
    rw [hcolumn]
  · intro p _ _
    rfl

theorem changeGiven_of_columns
    (hsales : db'.sales.sales.map (·.val.tillColumns) = db.sales.sales.map (·.val.tillColumns)) :
    changeGiven db' shiftId = changeGiven db shiftId := by
  have hmap : ∀ d : Db, changeGiven d shiftId = sumWhere (fun c : Option ℕ × ℚ =>
      c.1 = some shiftId) Prod.snd (d.sales.sales.map (·.val.tillColumns)) := fun d =>
    (sumWhere_map (fun c : Option ℕ × ℚ => c.1 = some shiftId) Prod.snd
      (fun s : Row Sale => s.val.tillColumns) d.sales.sales).symm
  rw [hmap, hmap, hsales]

theorem shiftIds_of_columns
    (hsales : db'.sales.sales.map (·.val.tillColumns) = db.sales.sales.map (·.val.tillColumns)) :
    db'.sales.sales.map (·.val.shiftId) = db.sales.sales.map (·.val.shiftId) := by
  have hfst := congrArg (List.map Prod.fst) hsales
  rwa [List.map_map, List.map_map] at hfst

theorem TillWrites.keepsAttributed (h : TillWrites o db db') : KeepsAttributed db db' := by
  cases h with
  | nothing sales shifts => exact keepsAttributed_of_eq sales (by rw [shifts])
  | sale sale payments of_shift change paid sales tendered returns shifts =>
    refine ⟨?_, ?_, ?_⟩
    · intro i s hi
      rw [sales]
      exact hi.append [sale]
    · intro i s hi
      rwa [returns]
    · intro i s hi
      rwa [shifts]
  | saleReturn saleReturn of_shift refund sales tendered returns shifts =>
    refine ⟨?_, ?_, ?_⟩
    · intro i s hi
      rw [HasAt.iff_map] at hi ⊢
      rwa [shiftIds_of_columns sales]
    · intro i s hi
      rw [returns]
      exact hi.append [saleReturn]
    · intro i s hi
      rwa [shifts]

/-- **A sale or a return counts in no till but that of its shift.** -/
theorem TillWrites.sameTill (h : TillWrites o db db') (hrows : TillRows db)
    (hne : o ≠ some shiftId) : SameTill shiftId db db' := by
  cases h with
  | nothing sales shifts => exact sameTill_of_eq sales (by rw [shifts])
  -- the row added is of another shift, and the sums for this one skip it
  | sale sale payments of_shift change paid sales tendered returns shifts =>
    have hother : sale.val.shiftId ≠ some shiftId := of_shift ▸ hne
    refine ⟨⟨?_, ?_, ?_⟩, ?_⟩
    · intro i
      rw [sales, HasAt.append_singleton_iff]
      exact or_iff_left fun hnew => hother hnew.2
    · intro i
      rw [returns]
    · intro i
      rw [shifts]
    · have htendered : cashTenderedInShift db' shiftId = cashTenderedInShift db shiftId :=
        cashTendered_append hrows hother (fun p hp => (paid p hp).1) sales tendered
      have hchange : changeGiven db' shiftId = changeGiven db shiftId := by
        unfold changeGiven
        rw [sales, sumWhere_append, sumWhere_singleton, if_neg hother, add_zero]
      unfold tillCash cashRefunded cashMoved
      rw [htendered, hchange, returns, shifts]
  | saleReturn saleReturn of_shift refund sales tendered returns shifts =>
    have hother : saleReturn.val.shiftId ≠ some shiftId := of_shift ▸ hne
    refine ⟨⟨?_, ?_, ?_⟩, ?_⟩
    · intro i
      rw [HasAt.iff_map, HasAt.iff_map, shiftIds_of_columns sales]
    · intro i
      rw [returns, HasAt.append_singleton_iff]
      exact or_iff_left fun hnew => hother hnew.2
    · intro i
      rw [shifts]
    · have hrefunded : cashRefunded db' shiftId = cashRefunded db shiftId := by
        unfold cashRefunded
        rw [returns, sumWhere_append, sumWhere_singleton, if_neg fun hcounts => hother hcounts.1,
          add_zero]
      unfold tillCash cashMoved
      rw [cashTendered_of_columns sales tendered, changeGiven_of_columns sales, hrefunded, shifts]

/-- The rows that are written are as their columns keep them. -/
theorem TillWrites.rows (h : TillWrites o db db') (hrows : TillRows db) : TillRows db' := by
  cases h with
  | nothing sales shifts =>
    obtain ⟨hp, hs, hr, hm, hf⟩ := hrows
    rw [← sales] at hp hs hr
    rw [← shifts] at hm hf
    exact ⟨hp, hs, hr, hm, hf⟩
  | sale sale payments of_shift change paid sales tendered returns shifts =>
    refine ⟨?_, ?_, ?_, ?_, ?_⟩
    · intro p hp
      rw [sales, List.length_append, List.length_singleton]
      rw [tendered] at hp
      rcases List.mem_append.mp hp with hp | hp
      · obtain ⟨hlt, hgrid⟩ := hrows.payments p hp
        exact ⟨by omega, hgrid⟩
      · obtain ⟨hid, hgrid⟩ := paid p hp
        exact ⟨by omega, hgrid⟩
    · rw [sales]
      exact List.forall_mem_append.mpr ⟨hrows.sales, List.forall_mem_singleton.mpr change⟩
    · rw [returns]
      exact hrows.returns
    · rw [shifts]
      exact hrows.movements
    · rw [shifts]
      exact hrows.shifts
  | saleReturn saleReturn of_shift refund sales tendered returns shifts =>
    -- a return overwrites items of the sale, not its header
    have hlength : db'.sales.sales.length = db.sales.sales.length := by
      have hlen := congrArg List.length sales
      rwa [List.length_map, List.length_map] at hlen
    refine ⟨?_, ?_, ?_, ?_, ?_⟩
    · rw [tendered, hlength]
      exact hrows.payments
    · intro s hs
      -- the change given is a column of the header
      obtain ⟨s₀, hs₀, hsame⟩ := exists_of_map_eq sales hs
      have hchange : s₀.val.changeDue = s.val.changeDue := congrArg Prod.snd hsame
      rw [← hchange]
      exact hrows.sales s₀ hs₀
    · rw [returns]
      exact List.forall_mem_append.mpr ⟨hrows.returns, List.forall_mem_singleton.mpr refund⟩
    · rw [shifts]
      exact hrows.movements
    · rw [shifts]
      exact hrows.shifts

/-- With rows as their columns keep them there is nothing to round. -/
theorem computeExpectedCash_eq (hrows : TillRows db) {shift : CashierShift}
    (hfloat : OnGrid 2 shift.openingFloat) (shiftId : ℕ) :
    computeExpectedCash db shiftId shift = shift.openingFloat + tillCash db shiftId := by
  have htendered : OnGrid 2 (cashTenderedInShift db shiftId) :=
    onGrid_sumWhere fun p hp _ => (hrows.payments p hp).2
  have hchange : OnGrid 2 (changeGiven db shiftId) :=
    onGrid_sumWhere fun s hs _ => hrows.sales s hs
  have hrefunded : OnGrid 2 (cashRefunded db shiftId) :=
    onGrid_sumWhere fun r hr _ => hrows.returns r hr
  have hmoved : ∀ t, OnGrid 2 (cashMoved db shiftId t) := fun t =>
    onGrid_sumWhere fun m hm _ => hrows.movements m hm
  have hsum : OnGrid 2 (shift.openingFloat + cashTenderedInShift db shiftId
      - changeGiven db shiftId - cashRefunded db shiftId + cashMoved db shiftId .paidIn
      - cashMoved db shiftId .paidOut) :=
    ((((hfloat.add htendered).sub hchange).sub hrefunded).add (hmoved _)).sub (hmoved _)
  unfold computeExpectedCash tillCash
  rw [roundMoney, quantize_eq_self hsum]
  ring

end Counting

end GroceryErp
