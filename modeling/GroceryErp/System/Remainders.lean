import GroceryErp.System.StockLedger

/-!
# Remainders that are not stored

A movement adds its quantity to the cached one as it is, and the three columns it ends up
in are rounded each for itself.  The cache and the ledger stay together as long as what a
transaction has rounded off its quantities is rounded off the cached quantity too.

## Main definitions

* `moveStock` — movements made one after the other, and committed.
* `LedgerRuns` — the cache is the sum of the ledger, and every row of the ledger has the
  sum up to itself.
* `RemaindersRoundOff` — what the transaction has rounded off, product by product, is less
  than half a thousandth, or half a thousandth towards zero, after each movement.

## Main results

* `moveStock_ledgerRuns_iff` — a transaction keeps cache and ledger together exactly then.
* `ledger_runs_iff` — over runs.
* `exec_moveStock` — what a request does to stock is a transaction of movements.
* `remainder_over_cache` — selling 1.0005 apples puts them apart.

## References

`backend/app/modules/inventory/service.py`, `get_quantity_on_hand_from_ledger` and
`record_movement`.
-/

namespace GroceryErp

open Decimal Outcome Rows Runs

/-! ### Transactions of movements -/

/-- Movements made one after the other, and committed. -/
def moveStock (moves : List (ℕ × MovementInput)) (db : Db) : Result Db :=
  Db.commit <$> moves.foldlM (fun db m => recordMovement db m.1 m.2) db

/-- Every row of the ledger has the sum of the rows of its product up to itself. -/
def RunningSums (ms : List (Row InventoryMovement)) : Prop :=
  ∀ before m after, ms = before ++ m :: after → m.val.resultingQuantityOnHand
    = sumWhere (·.val.productId = m.val.productId) (·.val.quantityDelta) (before ++ [m])

/-- The cache is the sum of the ledger, and every row of the ledger has the sum up to
itself. -/
structure LedgerRuns (s : StockTables) : Prop where
  cached : ∀ i p, s.products[i]? = some p →
    p.val.currentQtyOnHand = getQuantityOnHandFromLedger s i
  running : RunningSums s.movements

/-- What a product's movements come to in the ledger. -/
def storedDelta (i : ℕ) (moves : List (ℕ × MovementInput)) : ℚ :=
  sumWhere (·.1 = i) (fun m => numeric 3 m.2.quantityDelta) moves

/-- What is rounded off a product's movements in the ledger. -/
def remainder (i : ℕ) (moves : List (ℕ × MovementInput)) : ℚ :=
  sumWhere (·.1 = i) (fun m => m.2.quantityDelta - numeric 3 m.2.quantityDelta) moves

/-- After each movement, what is rounded off those of its product so far is rounded off its
quantity too. -/
def RemaindersRoundOff (s : StockTables) (moves : List (ℕ × MovementInput)) : Prop :=
  ∀ pre ∈ moves.inits, ∀ m ∈ pre.getLast?, ∀ p ∈ s.products[m.1]?,
    RoundsOff 3 (p.val.currentQtyOnHand + storedDelta m.1 pre) (remainder m.1 pre)

instance RemaindersRoundOff.decidable (s : StockTables) (moves : List (ℕ × MovementInput)) :
    Decidable (RemaindersRoundOff s moves) :=
  inferInstanceAs (Decidable (∀ _ ∈ _, ∀ _ ∈ _, ∀ _ ∈ _, _))

section Movements

variable {db db' db₀ d : Db} {s t : StockTables} {moves : List (ℕ × MovementInput)}
  {m : ℕ × MovementInput} {i : ℕ}

theorem runningSums_nil : RunningSums [] := by
  intro before m after h
  exact absurd h (by simp)

theorem runningSums_append {ms : List (Row InventoryMovement)} {row : Row InventoryMovement} :
    RunningSums (ms ++ [row]) ↔ RunningSums ms ∧ row.val.resultingQuantityOnHand
      = sumWhere (·.val.productId = row.val.productId) (·.val.quantityDelta) ms
        + row.val.quantityDelta := by
  constructor
  · intro h
    refine ⟨fun before m after heq => h before m (after ++ [row]) (by simp [heq]), ?_⟩
    have hrow := h ms row [] rfl
    rwa [sumWhere_append, sumWhere_singleton, if_pos rfl] at hrow
  · rintro ⟨hms, hrow⟩ before m after heq
    rcases List.eq_nil_or_concat after with rfl | ⟨after, last, rfl⟩
    · -- the row itself
      obtain ⟨rfl, hm⟩ := List.append_inj' heq rfl
      obtain rfl : row = m := List.singleton_inj.mp hm
      rw [sumWhere_append, sumWhere_singleton, if_pos rfl]
      exact hrow
    · rw [List.concat_eq_append, ← List.cons_append, ← List.append_assoc] at heq
      obtain ⟨heq, -⟩ := List.append_inj' heq rfl
      exact hms before m after heq

theorem remaindersRoundOff_nil (s : StockTables) : RemaindersRoundOff s [] := by
  intro pre hpre m hm
  rw [List.mem_inits, List.prefix_nil] at hpre
  subst hpre
  exact absurd hm (by simp)

/-- One movement more: its remainder must round off against what the earlier ones have left. -/
theorem remaindersRoundOff_append : RemaindersRoundOff s (moves ++ [m]) ↔
    RemaindersRoundOff s moves ∧ ∀ p ∈ s.products[m.1]?,
      RoundsOff 3 (p.val.currentQtyOnHand + storedDelta m.1 (moves ++ [m]))
        (remainder m.1 (moves ++ [m])) := by
  unfold RemaindersRoundOff
  simp only [List.mem_inits, List.prefix_concat_iff, or_imp, forall_and, forall_eq,
    List.getLast?_concat, Option.mem_some, forall_eq']
  exact and_comm

/-- What movements made one after the other leave of cache and ledger. -/
structure Moved (s : StockTables) (moves : List (ℕ × MovementInput)) (t : StockTables) : Prop where
  quantity : ∀ i p, s.products[i]? = some p → ∃ p', t.products[i]? = some p' ∧
    p'.val.currentQtyOnHand = p.val.currentQtyOnHand + storedDelta i moves + remainder i moves
  length : t.products.length = s.products.length
  ledger : ∀ i, getQuantityOnHandFromLedger t i = getQuantityOnHandFromLedger s i + storedDelta i moves
  running : RunningSums t.movements ↔ RemaindersRoundOff s moves
  cached : RunningSums t.movements → ∀ i p, t.products[i]? = some p →
    numeric 3 p.val.currentQtyOnHand = getQuantityOnHandFromLedger t i

theorem storedDelta_append : storedDelta i (moves ++ [m])
    = storedDelta i moves + if m.1 = i then numeric 3 m.2.quantityDelta else 0 := by
  rw [storedDelta, sumWhere_append, sumWhere_singleton]
  rfl

theorem remainder_append : remainder i (moves ++ [m]) = remainder i moves
    + if m.1 = i then m.2.quantityDelta - numeric 3 m.2.quantityDelta else 0 := by
  rw [remainder, sumWhere_append, sumWhere_singleton]
  rfl

theorem onGrid_storedDelta (i : ℕ) (moves : List (ℕ × MovementInput)) :
    OnGrid 3 (storedDelta i moves) := by
  refine onGrid_sum _ fun x hx => ?_
  obtain ⟨m, -, rfl⟩ := List.mem_map.mp hx
  exact onGrid_numeric 3 _

theorem Moved.refl (hs : LedgerRuns s) (hgrid : ∀ p ∈ s.products, OnGrid 3 p.val.currentQtyOnHand) :
    Moved s [] s where
  quantity i p hp := ⟨p, hp, by simp [storedDelta, remainder]⟩
  length := rfl
  ledger i := by simp [storedDelta]
  running := iff_of_true hs.running (remaindersRoundOff_nil s)
  cached _ i p hp := by
    rw [numeric_eq_self (hgrid p (mem_of_row hp))]
    exact hs.cached i p hp

/-- **One movement more**, of the same transaction: the stock is what it was with the stored deltas,
up to a remainder that the commit rounds off. -/
theorem Moved.next (hs : LedgerRuns s) (hgrid : ∀ p ∈ s.products, OnGrid 3 p.val.currentQtyOnHand)
    (h : Moved s moves db.stock) (hm : recordMovement db m.1 m.2 = .ok db') :
    Moved s (moves ++ [m]) db'.stock := by
  obtain ⟨p, p', row, hp, -, hp', hrow, rfl⟩ := recordMovement_eq_ok.mp hm
  -- the product as it was before the transaction
  have hlt : m.1 < s.products.length := h.length ▸ (List.getElem?_eq_some_iff.mp hp).1
  obtain ⟨q, hq⟩ : ∃ q, s.products[m.1]? = some q := ⟨_, List.getElem?_eq_getElem hlt⟩
  obtain ⟨p₁, hp₁, hqty⟩ := h.quantity m.1 q hq
  obtain rfl : p = p₁ := Option.some.inj (hp.symm.trans hp₁)
  have hafter : p'.val.currentQtyOnHand = q.val.currentQtyOnHand
      + storedDelta m.1 (moves ++ [m]) + remainder m.1 (moves ++ [m]) := by
    rw [hp', storedDelta_append, remainder_append, if_pos rfl, if_pos rfl]
    show p.val.currentQtyOnHand + m.2.quantityDelta = _
    rw [hqty]
    ring
  have hledger : ∀ i, getQuantityOnHandFromLedger { db.stock with
      products := db.stock.products.set m.1 p', movements := db.stock.movements ++ [row] } i
      = getQuantityOnHandFromLedger s i + storedDelta i (moves ++ [m]) := by
    intro i
    rw [getQuantityOnHandFromLedger, sumWhere_append, sumWhere_singleton, storedDelta_append,
      ← add_assoc, ← h.ledger i, hrow]
    rfl
  -- the row has the sum up to itself when the remainder so far is rounded off
  have hsum : row.val.resultingQuantityOnHand = sumWhere (·.val.productId = row.val.productId)
        (·.val.quantityDelta) db.stock.movements + row.val.quantityDelta ↔
      ∀ p ∈ s.products[m.1]?, RoundsOff 3 (p.val.currentQtyOnHand + storedDelta m.1 (moves ++ [m]))
        (remainder m.1 (moves ++ [m])) := by
    have hgridSum : OnGrid 3 (q.val.currentQtyOnHand + storedDelta m.1 (moves ++ [m])) :=
      (hgrid q (mem_of_row hq)).add (onGrid_storedDelta _ _)
    have hrowSum : sumWhere (·.val.productId = m.1) (·.val.quantityDelta) db.stock.movements
          + numeric 3 m.2.quantityDelta
        = q.val.currentQtyOnHand + storedDelta m.1 (moves ++ [m]) := by
      have hbefore := h.ledger m.1
      rw [getQuantityOnHandFromLedger] at hbefore
      rw [hbefore, hs.cached m.1 q hq, storedDelta_append, if_pos rfl, add_assoc]
    have hresult : row.val.resultingQuantityOnHand
        = quantize 3 (q.val.currentQtyOnHand + storedDelta m.1 (moves ++ [m])
          + remainder m.1 (moves ++ [m])) := by
      rw [← hafter, hp', hrow]
      rfl
    have hid : row.val.productId = m.1 ∧ row.val.quantityDelta = numeric 3 m.2.quantityDelta := by
      rw [hrow]
      exact ⟨rfl, rfl⟩
    rw [hid.1, hid.2, hrowSum, hresult, quantize_add_eq_iff hgridSum, hq]
    simp
  refine ⟨?_, ?_, hledger, ?_, ?_⟩
  · intro i r hr
    by_cases hi : m.1 = i
    · subst hi
      obtain rfl : q = r := Option.some.inj (hq.symm.trans hr)
      exact ⟨p', (getElem?_set_of_some hp p' m.1).trans (if_pos rfl), hafter⟩
    · obtain ⟨r', hr', hval⟩ := h.quantity i r hr
      refine ⟨r', (getElem?_set_of_some hp p' i).trans ((if_neg hi).trans hr'), ?_⟩
      rw [hval, storedDelta_append, remainder_append, if_neg hi, if_neg hi, add_zero, add_zero]
  · rw [← h.length]
    exact List.length_set
  · rw [remaindersRoundOff_append, ← h.running, ← hsum]
    exact runningSums_append
  · intro hrunning i r hr
    obtain ⟨hbefore, hlast⟩ := runningSums_append.mp hrunning
    rw [hledger, storedDelta_append]
    have hr' := (getElem?_set_of_some hp p' i).symm.trans hr
    by_cases hi : m.1 = i
    · -- the last row of the ledger has the quantity, and the sum
      subst hi
      rw [if_pos rfl] at hr' ⊢
      obtain rfl : p' = r := Option.some.inj hr'
      rw [hrow] at hlast
      rw [← add_assoc, ← h.ledger, hp']
      exact hlast
    · rw [if_neg hi] at hr' ⊢
      rw [add_zero, ← h.ledger]
      exact h.cached hbefore i r hr'

/-- Movements made one after the other. -/
theorem moved_of_foldlM (hs : LedgerRuns db.stock)
    (hgrid : ∀ p ∈ db.stock.products, OnGrid 3 p.val.currentQtyOnHand)
    (h : moves.foldlM (fun db m => recordMovement db m.1 m.2) db = .ok d) :
    Moved db.stock moves d.stock :=
  foldlM_induct (fun done t => Moved db.stock done t.stock) h (.refl hs hgrid)
    fun _ _ _ _ _ _ hmoved hround => hmoved.next hs hgrid hround

/-- **A transaction keeps cache and ledger together exactly when its remainders round off.** -/
theorem moveStock_ledgerRuns_iff (hs : LedgerRuns db.stock)
    (hgrid : ∀ p ∈ db.stock.products, OnGrid 3 p.val.currentQtyOnHand)
    (h : moveStock moves db = .ok db') : LedgerRuns db'.stock ↔ RemaindersRoundOff db.stock moves := by
  obtain ⟨d, hd, rfl⟩ := map_eq_ok.mp h
  have hmoved := moved_of_foldlM hs hgrid hd
  rw [← hmoved.running]
  constructor
  · exact fun hruns => hruns.running
  · intro hrunning
    refine ⟨fun i p hp => ?_, hrunning⟩
    obtain ⟨q, hq, rfl⟩ := Option.map_eq_some_iff.mp ((List.getElem?_map ..).symm.trans hp)
    exact hmoved.cached hrunning i q hq

/-! ### Runs -/

/-- Products none of which has been moved yet: nothing is on hand, and there are no movements. -/
structure Unmoved (s : StockTables) : Prop where
  products : ∀ p ∈ s.products, p.val.currentQtyOnHand = 0
  movements : s.movements = []

theorem Unmoved.onGrid (h : Unmoved s) : ∀ p ∈ s.products, OnGrid 3 p.val.currentQtyOnHand := by
  intro p hp
  rw [h.products p hp]
  exact onGrid_zero 3

theorem Unmoved.ledgerRuns (h : Unmoved s) : LedgerRuns s where
  cached i p hp := by
    rw [h.products p (mem_of_row hp), getQuantityOnHandFromLedger, h.movements, sumWhere_nil]
  running := by
    rw [h.movements]
    exact runningSums_nil

theorem onGrid_of_reaches {ok : Db → List (ℕ × MovementInput) → Prop} (start : Unmoved db₀.stock)
    (run : Reaches moveStock ok db₀ db) :
    ∀ p ∈ db.stock.products, OnGrid 3 p.val.currentQtyOnHand := by
  refine run.invariant (I := fun db => ∀ p ∈ db.stock.products, OnGrid 3 p.val.currentQtyOnHand)
    start.onGrid fun db moves db' _ _ hdone => ?_
  obtain ⟨d, -, rfl⟩ := map_eq_ok.mp hdone
  exact onGrid_commit d

/-- **The cache and the ledger stay together over every run whose remainders round off, and
the first transaction whose remainders do not puts them apart.** -/
theorem ledger_runs_iff (start : Unmoved db₀.stock) :
    (∀ db, Reaches moveStock (fun db moves => RemaindersRoundOff db.stock moves) db₀ db →
      LedgerRuns db.stock) ∧
    ∀ db db' moves, Reaches moveStock (fun _ _ => True) db₀ db → LedgerRuns db.stock →
      moveStock moves db = .ok db' →
      (LedgerRuns db'.stock ↔ RemaindersRoundOff db.stock moves) := by
  constructor
  · intro db run
    have hruns := run.invariant (I := fun db => LedgerRuns db.stock ∧
      ∀ p ∈ db.stock.products, OnGrid 3 p.val.currentQtyOnHand) ⟨start.ledgerRuns, start.onGrid⟩
      fun db moves db' hdb hok hdone => by
        refine ⟨(moveStock_ledgerRuns_iff hdb.1 hdb.2 hdone).mpr hok, ?_⟩
        obtain ⟨d, -, rfl⟩ := map_eq_ok.mp hdone
        exact onGrid_commit d
    exact hruns.1
  · intro db db' moves run hruns hdone
    exact moveStock_ledgerRuns_iff hruns (onGrid_of_reaches start run) hdone

end Movements

/-! ### Requests -/

section Requests

variable {db db' d : Db} {bs : List Booking} {s t : StockTables}

/-- A run of bookings, made as movements. -/
theorem foldlM_of_bookedAll (h : BookedAll bs s t) (hproducts : db.stock.products = s.products)
    (hmovements : db.stock.movements = s.movements) :
    ∃ d, (bs.map fun b => (b.productId, b.input)).foldlM
        (fun db m => recordMovement db m.1 m.2) db = .ok d ∧
      d.stock.products = t.products ∧ d.stock.movements = t.movements := by
  induction h generalizing db with
  | nil products movements =>
    exact ⟨db, rfl, hproducts.trans products.symm, hmovements.trans movements.symm⟩
  | @cons b bs s t u first _ ih =>
    obtain ⟨hguard, p, p', row, hp, hbefore, hp', hrow, hset, happend⟩ := first
    have hmove : recordMovement db b.productId b.input = .ok { db with
        stock.products := db.stock.products.set b.productId p'
        stock.movements := db.stock.movements ++ [row] } := by
      refine recordMovement_eq_ok.mpr ⟨p, p', row, hproducts ▸ hp, hbefore ▸ hguard, ?_, ?_, rfl⟩
      · rw [hp', Booking.after, hbefore]
      · rw [hrow, hbefore]
    have hset' : db.stock.products.set b.productId p' = t.products := by rw [hset, hproducts]
    have happend' : db.stock.movements ++ [row] = t.movements := by rw [happend, hmovements]
    obtain ⟨d, hd, hdone⟩ := @ih { db with
        stock.products := db.stock.products.set b.productId p'
        stock.movements := db.stock.movements ++ [row] } hset' happend'
    refine ⟨d, ?_, hdone⟩
    rw [List.map_cons, List.foldlM_cons, hmove]
    exact hd

/-- What a request does to stock is a run of bookings. -/
def StockBooked (s t : StockTables) : Prop := ∃ bs, BookedAll bs s t

theorem StockBooked.of_eq (hproducts : t.products = s.products)
    (hmovements : t.movements = s.movements) : StockBooked s t := ⟨[], .nil hproducts hmovements⟩

theorem BooksStock.stockBooked {exact : Prop} (h : BooksStock exact s t) : StockBooked s t := by
  obtain ⟨bs, hrun, -⟩ := h
  exact ⟨bs, hrun⟩

theorem finalizeSale_stockBooked {req : FinalizeSale} {saleId : ℕ}
    (h : finalizeSale db req = .ok (db', saleId)) : StockBooked db.stock db'.stock := by
  rcases finalizeSale_ok h with ⟨-, -, rfl⟩ | ⟨-, cart, changeDue, d, hc, hw, hj⟩
  · exact .of_eq rfl rfl
  obtain ⟨-, -, -, entry, -, rfl⟩ := postJournal_eq_ok.mp hj
  exact (writeSale_booksStock hc hw).stockBooked

theorem createStockAdjustment_stockBooked {a : StockAdjustmentInput} {adjustmentId : ℕ}
    (h : createStockAdjustment db a = .ok (db', adjustmentId)) : StockBooked db.stock db'.stock := by
  rcases createStockAdjustment_ok h with rfl | h
  · exact .of_eq rfl rfl
  obtain ⟨adjustment, p, d, -, hm, hj⟩ := writeAdjustment_ok h
  obtain ⟨q, -, hb⟩ := exists_booked hm
  rw [postStockAdjustmentJournal_frame hj]
  exact ⟨_, (BookedAll.single hb).congr_left rfl rfl⟩

theorem postStockCount_stockBooked {req : PostStockCount} (h : postStockCount db req = .ok db') :
    StockBooked db.stock db'.stock := by
  rcases postStockCount_ok h with rfl | ⟨count, lines, d, -, -, -, hd, rfl⟩
  · exact .of_eq rfl rfl
  obtain ⟨bss, -, hrun⟩ := bookedAll_of_foldlM (fun _ _ => True) hd fun line _ t t' hround => by
    rcases postCountLine_ok hround with rfl | ⟨p, counted, i, -, -, hadjust⟩
    · exact ⟨[], trivial, .refl _⟩
    · obtain ⟨bs, hbs⟩ := createStockAdjustment_stockBooked hadjust
      exact ⟨bs, trivial, hbs⟩
  exact ⟨bss.flatten, hrun.congr_right rfl rfl⟩

/-- **Every request books what it does to stock.** -/
theorem run_stockBooked {r : StockRequest} (h : r.run db = .ok db') :
    StockBooked db.stock db'.stock := by
  cases r with
  | createPurchaseOrder req =>
    obtain ⟨⟨d, i⟩, hrun, rfl⟩ := map_eq_ok.mp h
    rcases createPurchaseOrder_ok hrun with rfl | ⟨order, items, -, -, -, rfl⟩
    · exact .of_eq rfl rfl
    · exact .of_eq rfl rfl
  | submitPurchaseOrder req | cancelPurchaseOrder req =>
    obtain ⟨order, -, -, rfl⟩ := setOrderStatus_ok h
    exact .of_eq rfl rfl
  | receiveGoods req =>
    obtain ⟨⟨d, i⟩, hrun, rfl⟩ := map_eq_ok.mp h
    exact (receiveGoods_booksStock hrun).stockBooked
  | createPurchaseReturn req =>
    obtain ⟨⟨d, i⟩, hrun, rfl⟩ := map_eq_ok.mp h
    exact (createPurchaseReturn_booksStock hrun).stockBooked
  | finalizeSale req =>
    obtain ⟨⟨d, i⟩, hrun, rfl⟩ := map_eq_ok.mp h
    exact finalizeSale_stockBooked hrun
  | createSaleReturn req =>
    obtain ⟨⟨d, i⟩, hrun, rfl⟩ := map_eq_ok.mp h
    exact (createSaleReturn_booksStock hrun).stockBooked
  | voidSale req =>
    obtain ⟨⟨d, i⟩, hrun, rfl⟩ := map_eq_ok.mp h
    exact (createSaleReturn_booksStock (voidSale_ok hrun)).stockBooked
  | createAdjustment req =>
    obtain ⟨⟨d, i⟩, hrun, rfl⟩ := map_eq_ok.mp h
    obtain ⟨p, -, hadjust⟩ := createAdjustment_ok hrun
    exact createStockAdjustment_stockBooked hadjust
  | createStockCount req =>
    obtain ⟨⟨d, i⟩, hrun, rfl⟩ := map_eq_ok.mp h
    obtain ⟨lines, rfl, -⟩ := createStockCount_ok hrun
    exact .of_eq rfl rfl
  -- a snapshot writes the lines of the count, and no product
  | openStockCount req =>
    rcases openStockCount_ok h with rfl | ⟨count, d, -, hd, rfl⟩
    · exact .of_eq rfl rfl
    · obtain ⟨hframe, -⟩ := snapshotLines_ok (P := fun _ => True) hd (fun _ _ _ _ => trivial)
        (fun _ _ => trivial) fun _ _ => trivial
      rw [hframe]
      exact .of_eq rfl rfl
  | recordCountEntry req =>
    obtain ⟨lineId, line, row, -, -, -, -, rfl⟩ := recordCountEntry_ok h
    exact .of_eq rfl rfl
  -- a status, and no movement
  | markStockCountCounted req | reviewStockCount req | reopenStockCountForRecount req
  | cancelStockCount req =>
    rcases moveStockCount_ok h with rfl | ⟨count, -, -, rfl⟩
    · exact .of_eq rfl rfl
    · exact .of_eq rfl rfl
  | postStockCount req => exact postStockCount_stockBooked h
  | createTransfer req =>
    obtain ⟨⟨d, i⟩, hrun, rfl⟩ := map_eq_ok.mp h
    obtain ⟨transfer, lines, -, -, rfl⟩ := createTransfer_ok hrun
    exact .of_eq rfl rfl
  | shipTransfer req => exact (shipTransfer_booksStock h).stockBooked
  | receiveTransfer req => exact (receiveTransfer_booksStock h).stockBooked
  | cancelTransfer req =>
    rcases cancelTransfer_ok h with rfl | ⟨transfer, cancelled, -, -, -, rfl⟩
    · exact .of_eq rfl rfl
    · exact .of_eq rfl rfl

/-- **What a request does to cache and ledger is a transaction of movements.** -/
theorem exec_moveStock {r : StockRequest} (h : r.exec db = .ok db') :
    ∃ moves d, moveStock moves db = .ok d ∧ d.stock.products = db'.stock.products ∧
      d.stock.movements = db'.stock.movements := by
  obtain ⟨d, hrun, rfl⟩ := map_eq_ok.mp h
  obtain ⟨bs, hbs⟩ := run_stockBooked hrun
  obtain ⟨d', hd', hproducts, hmovements⟩ := foldlM_of_bookedAll hbs rfl rfl
  refine ⟨_, d'.commit, map_eq_ok.mpr ⟨d', hd', rfl⟩, ?_, hmovements⟩
  show d'.stock.products.map _ = d.stock.products.map _
  rw [hproducts]

end Requests

/-! ### Apples by weight -/

/-- Some apples are found, or missing. -/
def moveApples (quantityDelta : ℚ) : ℕ × MovementInput :=
  (0, {
    storeId := 0
    movementType := if 0 < quantityDelta then .stockAdjustmentIn else .stockAdjustmentOut
    quantityDelta
    unitCostAtMovement := 1
    referenceType := .stockAdjustment
    referenceId := none })

/-- 1.2344 apples are found twice; 0.0004 is rounded off each time. -/
def foundTwice : Db :=
  value (([[moveApples (12344 / 10000)], [moveApples (12344 / 10000)]].foldlM
    (guarded moveStock (fun db moves => RemaindersRoundOff db.stock moves) .assertion) greengrocer))
    (by decide +kernel)

/-- Found in two transactions they are in both; found in one they would not be. -/
theorem ledger_runs_iff_apples :
    LedgerRuns foundTwice.stock ∧
      foundTwice.stock.products.map (·.val.currentQtyOnHand) = [2468 / 1000] ∧
      ∀ db, moveStock [moveApples (12344 / 10000), moveApples (12344 / 10000)] greengrocer = .ok db →
        ¬LedgerRuns db.stock := by
  have start : Unmoved greengrocer.stock := ⟨by decide +kernel, rfl⟩
  obtain ⟨hruns, hfirst⟩ := ledger_runs_iff start
  refine ⟨hruns _ (reaches_of_guarded (eq_ok_value _ _)), by decide +kernel, fun db hdone => ?_⟩
  rw [hfirst _ _ _ .start start.ledgerRuns hdone]
  decide +kernel

/-- Some apples are sold, in a quantity that may have more decimals than its column. -/
def sellSome (quantity : ℚ) : FinalizeSale :=
  { sellApple with lines := [{ productId := 0, quantity }], payments := [⟨.cash, 4⟩] }

/-- Of seven apples, 1.0005 are sold. -/
def soldByWeight : Db :=
  value (([.createPurchaseOrder orderApples, .submitPurchaseOrder ⟨0, none⟩,
    .receiveGoods (deliverApples 7 1 "receipt-1"), .finalizeSale (sellSome (10005 / 10000))].foldlM
    (fun db r => StockRequest.exec r db) greengrocer)) (by decide +kernel)

/-- **The cache has 6 apples, and the ledger 5.999**: half a thousandth is rounded off the
sale, and away from it. -/
theorem remainder_over_cache :
    Unmoved greengrocer.stock ∧
      Reaches StockRequest.exec (fun _ _ => True) greengrocer soldByWeight ∧
      soldByWeight.stock.products.map (·.val.currentQtyOnHand) = [6] ∧
      getQuantityOnHandFromLedger soldByWeight.stock 0 = 5999 / 1000 ∧
      soldByWeight.stock.movements.map (·.val.resultingQuantityOnHand) = [7, 6] := by
  refine ⟨⟨?_, rfl⟩, reaches_of_foldlM (eq_ok_value _ _), ?_, ?_, ?_⟩
  · decide +kernel
  · decide +kernel
  · decide +kernel
  · decide +kernel

end GroceryErp
