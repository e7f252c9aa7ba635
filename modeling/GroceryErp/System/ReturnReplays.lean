import GroceryErp.Sales.Voids
import GroceryErp.Shifts.Stores

/-!
# Returns and voids sent again

What a return has recorded stays as it was through every later request, so whether it can be
replayed is settled when it is made.

## Main results

* `TillRequest.sales_recorded` — what one request keeps of the sales module's tables.
* `returns_replayed_iff` — a return is replayed exactly when its request named every item once.
* `voids_replayed_iff` — a void is replayed exactly when it had itself been answered with an
  earlier return, and nothing of the sale has come back since.

## References

`backend/app/modules/sales/service.py`, `create_sale_return`, `void_sale`.
-/

namespace GroceryErp

open Decimal Outcome Rows Runs

/-- Tables in which nothing has been sold yet. -/
structure Db.BeforeSales (db : Db) : Prop where
  items : db.sales.items = []
  returns : db.sales.returns = []
  return_items : db.sales.returnItems = []

theorem Db.BeforeSales.recorded {db : Db} (h : db.BeforeSales) : SalesRecorded db where
  keys := by simp [returnKeys, h.returns]
  items := by simp [h.items]
  rows := by simp [h.return_items]
  distinct := by simp [h.return_items]

section Requests

variable {db d db' db₀ : Db}

/-- A request on a shift writes shifts and the journal, and nothing else. -/
theorem TillRequest.shift_frame {r : TillRequest} (hr : ∀ s, r ≠ .stock s)
    (h : r.run db = .ok db') :
    db' = { db with shifts := db'.shifts, ledger.entries := db'.ledger.entries } := by
  cases r with
  | stock s => exact absurd rfl (hr s)
  | openShift req =>
    obtain ⟨⟨d, i⟩, hrun, rfl⟩ := map_eq_ok.mp h
    rcases openShift_ok hrun with rfl | ⟨shift, -, -, -, rfl⟩
    · rfl
    · rfl
  | recordCashMovement req =>
    obtain ⟨⟨d, i⟩, hrun, rfl⟩ := map_eq_ok.mp h
    rcases recordCashMovement_ok hrun with rfl | ⟨-, hinsert⟩
    · rfl
    rcases insertMovement_ok hinsert with rfl | ⟨movement, -, rfl⟩
    · rfl
    · rfl
  | closeShift req =>
    obtain ⟨⟨d, i⟩, hrun, rfl⟩ := map_eq_ok.mp h
    rcases closeShift_ok hrun with rfl | ⟨-, expected, -, hsettle⟩
    · rfl
    rcases settleShift_ok hsettle with rfl | ⟨shift, closed, -, -, hpost⟩
    · rfl
    · rw [postCashShiftVarianceJournal_frame hpost]

/-- A request that is not on a sale leaves the sales as they are. -/
theorem TillRequest.sales_kept {r : TillRequest} (hr : ∀ s, r = .stock s → ¬s.OnSale)
    (h : r.run db = .ok db') : db'.sales = db.sales := by
  cases r with
  | stock s => exact (StockRequest.offTill (hr s rfl) h).sales
  | openShift _ | recordCashMovement _ | closeShift _ =>
    rw [TillRequest.shift_frame (fun s hs => by cases hs) h]

/-- **Every request keeps what is recorded of sales and returns.** -/
theorem TillRequest.sales_recorded {r : TillRequest} (hdb : SalesRecorded db)
    (h : r.run db = .ok db') : SalesRecorded db' ∧ SalesGrown db db' := by
  cases r with
  | stock s =>
    cases s with
    | finalizeSale req =>
      obtain ⟨⟨d, i⟩, hrun, rfl⟩ := map_eq_ok.mp h
      exact finalizeSale_grows hdb hrun
    | createSaleReturn req =>
      obtain ⟨⟨d, i⟩, hrun, rfl⟩ := map_eq_ok.mp h
      exact createSaleReturn_grows hdb hrun
    | voidSale req =>
      obtain ⟨⟨d, i⟩, hrun, rfl⟩ := map_eq_ok.mp h
      exact createSaleReturn_grows hdb (voidSale_ok hrun)
    | _ =>
      have hsales : db'.sales = db.sales := sales_kept (fun s hs => by cases hs; exact id) h
      exact ⟨salesRecorded_of_eq hdb hsales, .of_eq hsales⟩
  | _ =>
    have hsales : db'.sales = db.sales := sales_kept (fun s hs => by cases hs) h
    exact ⟨salesRecorded_of_eq hdb hsales, .of_eq hsales⟩

/-- What is recorded stays so over every run. -/
theorem salesRecorded_of_reaches {ok : Db → TillRequest → Prop} (hdb : SalesRecorded db)
    (hrun : Reaches TillRequest.exec ok db db') : SalesRecorded db' ∧ SalesGrown db db' := by
  refine hrun.invariant (I := fun d => SalesRecorded d ∧ SalesGrown db d)
    ⟨hdb, .of_eq rfl⟩ ?_
  rintro d r d' ⟨hrecorded, hgrown⟩ - hdone
  obtain ⟨e, he, rfl⟩ := map_eq_ok.mp hdone
  obtain ⟨hrecorded', hgrown'⟩ := TillRequest.sales_recorded hrecorded he
  exact ⟨salesRecorded_of_eq hrecorded' rfl, hgrown.trans (hgrown'.trans (.of_eq rfl))⟩

/-- **A return is replayed, at any later time, exactly when its request named every item once**,
in whole thousandths: the original return is its answer, and nothing changes. -/
theorem returns_replayed_iff {later : Db} {req : CreateSaleReturn} {saleReturnId : ℕ}
    (hstart : db₀.BeforeSales) (hrun : Reaches TillRequest.exec (fun _ _ => True) db₀ db)
    (h : createSaleReturn db req = .ok (db', saleReturnId))
    (hlater : Reaches TillRequest.exec (fun _ _ => True) db'.commit later) :
    createSaleReturn later req = .ok (later, saleReturnId) ↔ req.NamesItemsOnce := by
  obtain ⟨hdb, -⟩ := salesRecorded_of_reaches hstart.recorded hrun
  obtain ⟨hdb', -⟩ := createSaleReturn_grows hdb h
  obtain ⟨hlt, htaken, hiff⟩ := createSaleReturn_recordedAs_iff hdb h
  have hcommit : SalesRecorded db'.commit := salesRecorded_of_eq hdb' rfl
  obtain ⟨hkept, hgrown⟩ := salesRecorded_of_reaches hcommit hlater
  have htaken' : req.clientTransactionId ∈ returnKeys later :=
    (hgrown.returns.map _).subset htaken
  rw [createSaleReturn_eq_self_iff hkept.keys htaken', hgrown.recordedAs_iff hlt,
    and_iff_left rfl]
  exact hiff

/-- **A void is replayed, at any later time, exactly when it had itself been answered with an
earlier return, and nothing of the sale has come back since.**  A void that posts its return is
refused whenever it is repeated. -/
theorem voids_replayed_iff {later : Db} {req : VoidSale} {saleReturnId : ℕ}
    (hstart : db₀.BeforeSales) (hrun : Reaches TillRequest.exec (fun _ _ => True) db₀ db)
    (h : voidSale db req = .ok (db', saleReturnId))
    (hlater : Reaches TillRequest.exec (fun _ _ => True) db'.commit later) :
    (voidSale later req = .ok (later, saleReturnId) ↔
      req.clientTransactionId ∈ returnKeys db ∧ NothingReturned db later req.saleId) ∧
    (req.clientTransactionId ∉ returnKeys db →
      voidSale later req = .error (.conflict .nothingToVoid)) := by
  obtain ⟨hdb, -⟩ := salesRecorded_of_reaches hstart.recorded hrun
  obtain ⟨hdb', hgrown₀⟩ := createSaleReturn_grows hdb (voidSale_ok h)
  have hcommit : SalesRecorded db'.commit := salesRecorded_of_eq hdb' rfl
  obtain ⟨hkept, hgrown⟩ := salesRecorded_of_reaches hcommit hlater
  have hcommitted : SalesGrown db' db'.commit := .of_eq rfl
  have hgrown' := hcommitted.trans hgrown
  exact ⟨voidSale_repeated_iff hdb h hkept hgrown',
    fun hunused => voidSale_refused hdb h hunused (hgrown₀.trans hgrown') hgrown'⟩

end Requests

/-! ### A cheese that comes back -/

theorem cheeseTill_beforeSales : cheeseTill.db.BeforeSales := ⟨rfl, rfl, rfl⟩

/-- Two kilos of cheese are sold for cash. -/
def twoKilosSold : Db :=
  value (TillRequest.exec (.stock (.finalizeSale (cashSale 2 20))) cheeseTill.db)
    (by decide +kernel)

theorem reaches_twoKilosSold :
    Reaches TillRequest.exec (fun _ _ => True) cheeseTill.db twoKilosSold :=
  .next .start trivial (eq_ok_value _ _)

/-- One kilo comes back, in lines of these quantities. -/
def kiloBack (quantities : List ℚ) : CreateSaleReturn :=
  { halfBack "return-1" with lines := quantities.map fun quantity => ⟨0, quantity, true⟩ }

def kiloBackOnce : Db × ℕ :=
  value (createSaleReturn twoKilosSold (kiloBack [1])) (by decide +kernel)

/-- The kilo that is asked for in one line is replayed. -/
theorem returns_replayed_iff_cheese :
    createSaleReturn kiloBackOnce.1.commit (kiloBack [1])
      = .ok (kiloBackOnce.1.commit, kiloBackOnce.2) :=
  (returns_replayed_iff cheeseTill_beforeSales reaches_twoKilosSold (eq_ok_value _ _) .start).mpr
    (by decide +kernel)

def kiloBackInHalves : Db × ℕ :=
  value (createSaleReturn twoKilosSold (kiloBack [1 / 2, 1 / 2])) (by decide +kernel)

/-- The kilo that is asked for in two halves is refused when it is asked for again. -/
theorem halves_not_replayed :
    Reaches TillRequest.exec (fun _ _ => True) cheeseTill.db twoKilosSold ∧
      createSaleReturn twoKilosSold (kiloBack [1 / 2, 1 / 2]) = .ok kiloBackInHalves ∧
      errorOf (createSaleReturn kiloBackInHalves.1.commit (kiloBack [1 / 2, 1 / 2]))
        = some (.conflict .idempotencyKeyConflict) :=
  ⟨reaches_twoKilosSold, eq_ok_value _ _, by decide +kernel⟩

/-- What remains of the sale is voided. -/
def voidCheese (clientTransactionId : String) : VoidSale where
  saleId := 0
  storeId := 0
  returnDate := 0
  refundMethod := .cash
  clientTransactionId := clientTransactionId
  callerStoreId := none

/-- The shop after one of the two kilos has come back. -/
def oneKiloLeft : Db :=
  value (TillRequest.exec (.stock (.createSaleReturn (kiloBack [1]))) twoKilosSold)
    (by decide +kernel)

/-- A void under the key of that return is answered with it. -/
def voidAnswered : Db × ℕ :=
  value (voidSale oneKiloLeft (voidCheese "return-1")) (by decide +kernel)

def voidPosted : Db × ℕ := value (voidSale oneKiloLeft (voidCheese "void-1")) (by decide +kernel)

/-- The void under the key of the return is replayed; one under a key of its own is not. -/
theorem voids_replayed_iff_cheese :
    (voidSale voidAnswered.1.commit (voidCheese "return-1")
        = .ok (voidAnswered.1.commit, voidAnswered.2) ↔
      "return-1" ∈ returnKeys oneKiloLeft ∧ NothingReturned oneKiloLeft voidAnswered.1.commit 0) ∧
    voidSale voidPosted.1.commit (voidCheese "void-1") = .error (.conflict .nothingToVoid) := by
  have hrun : Reaches TillRequest.exec (fun _ _ => True) cheeseTill.db oneKiloLeft :=
    .next reaches_twoKilosSold trivial (eq_ok_value _ _)
  exact ⟨(voids_replayed_iff cheeseTill_beforeSales hrun (eq_ok_value _ _) .start).1,
    (voids_replayed_iff cheeseTill_beforeSales hrun (eq_ok_value _ _) .start).2
      (by decide +kernel)⟩

/-- The two kilos are voided, and nothing remains for the void that is sent again. -/
def allVoided : Db × ℕ := value (voidSale twoKilosSold (voidCheese "void-1")) (by decide +kernel)

theorem void_not_replayed :
    Reaches TillRequest.exec (fun _ _ => True) cheeseTill.db twoKilosSold ∧
      voidSale twoKilosSold (voidCheese "void-1") = .ok allVoided ∧
      errorOf (voidSale allVoided.1.commit (voidCheese "void-1"))
        = some (.conflict .nothingToVoid) :=
  ⟨reaches_twoKilosSold, eq_ok_value _ _, by decide +kernel⟩

end GroceryErp
