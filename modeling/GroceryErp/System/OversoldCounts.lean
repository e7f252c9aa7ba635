import GroceryErp.System.AverageCosts
import GroceryErp.System.CountPostings
import GroceryErp.System.Remainders

/-!
# Counting what has been oversold

What a product is short of is put right by an inflow or by a count.  No inflow is refused for
the stock there is.  A count keeps the quantity it expects, and the table of its lines takes no
negative one: a count of an oversold product can be neither opened nor repeated.

## Main definitions

* `CountedProducts` — the lines of the counts are of products that are there.
* `MoveStockCount.Opens`, `RecordCountEntry.Enters` — what the service checks of a request.

## Main results

* `openStockCount_succeeds_iff` — a draft is opened unless one of its products is oversold.
* `recordCountEntry_succeeds_iff` — a first entry is always made, a recount unless its product
  is oversold.
* `oversold_corrections_iff` — in every state, with the inflows.

## References

`backend/app/modules/inventory/service.py`, `record_movement`, `open_stock_count`,
`record_count_entry`; `backend/app/modules/inventory/models.py`, `StockCountLine`.
-/

namespace GroceryErp

open Decimal Outcome Rows Runs

/-! ### The products of a count -/

/-- The lines of the counts are of products that are there. -/
def CountedProducts (s : StockTables) : Prop :=
  ∀ l ∈ s.countLines, l.val.productId < s.products.length

theorem StockBooked.length_products {s t : StockTables} (h : StockBooked s t) :
    t.products.length = s.products.length := by
  obtain ⟨bs, hrun⟩ := h
  induction hrun with
  | nil products _ => rw [products]
  | cons first _ ih =>
    obtain ⟨-, p, p', row, -, -, -, -, hproducts, -⟩ := first
    rw [ih, hproducts, List.length_set]

section Products

variable {db d db' : Db}

/-- Lines that are written over stay with their products. -/
theorem CountedProducts.overwritten {s t : StockTables} (h : CountedProducts s)
    {R : ℕ → Row StockCountLine → Row StockCountLine → Prop}
    (hlines : Overwritten R s.countLines t.countLines)
    (hproduct : ∀ i a b, R i a b → b.val.productId = a.val.productId)
    (hlength : t.products.length = s.products.length) : CountedProducts t := by
  unfold CountedProducts at h ⊢
  rw [hlength]
  refine hlines.forall_mem h ?_
  intro i a b ha hab
  rw [hproduct i a b hab]
  exact ha

theorem openStockCount_countedProducts {req : MoveStockCount} (hdb : CountedProducts db.stock)
    (h : openStockCount db req = .ok db') : CountedProducts db'.stock := by
  rcases openStockCount_opened h with rfl | ⟨count, lines, -, -, hlines, rfl⟩
  · exact hdb
  refine hdb.overwritten hlines ?_ rfl
  intro i a b hab
  split at hab
  · obtain ⟨p, -, hb⟩ := hab
    rw [hb]
    rfl
  · rw [hab]

theorem createStockCount_countedProducts {req : CreateStockCount} {stockCountId : ℕ}
    (hdb : CountedProducts db.stock) (h : createStockCount db req = .ok (db', stockCountId)) :
    CountedProducts db'.stock := by
  obtain ⟨lines, rfl, hlines⟩ := createStockCount_ok h
  intro l hl
  rcases List.mem_append.mp hl with hl | hl
  · exact hdb l hl
  · obtain ⟨-, -, p, hp, -⟩ := hlines l hl
    exact (List.getElem?_eq_some_iff.mp hp).1

theorem recordCountEntry_countedProducts {req : RecordCountEntry} (hdb : CountedProducts db.stock)
    (h : recordCountEntry db req = .ok db') : CountedProducts db'.stock := by
  obtain ⟨lineId, line, row, hline, -, hproduct, -, rfl⟩ := recordCountEntry_ok h
  intro l hl
  rcases List.mem_or_eq_of_mem_set hl with hl | rfl
  · exact hdb l hl
  · rw [hproduct]
    exact hdb line (mem_of_row hline)

/-- **Every request keeps the lines of the counts on products.** -/
theorem run_countedProducts {r : StockRequest} (hdb : CountedProducts db.stock)
    (h : r.run db = .ok db') : CountedProducts db'.stock := by
  have hlength := (run_stockBooked h).length_products
  have hkeeps : db'.stock.countLines = db.stock.countLines → CountedProducts db'.stock := by
    intro hlines l hl
    rw [hlength]
    exact hdb l (hlines ▸ hl)
  cases r with
  | createStockCount req =>
    obtain ⟨⟨d, i⟩, hrun, rfl⟩ := map_eq_ok.mp h
    exact createStockCount_countedProducts hdb hrun
  | openStockCount req => exact openStockCount_countedProducts hdb h
  | recordCountEntry req => exact recordCountEntry_countedProducts hdb h
  | markStockCountCounted req | reviewStockCount req | reopenStockCountForRecount req
  | cancelStockCount req =>
    rcases moveStockCount_ok h with rfl | ⟨count, -, -, rfl⟩
    · exact hdb
    · exact hkeeps rfl
  | postStockCount req =>
    rcases postStockCount_ok h with rfl | ⟨count, lines, d, -, -, -, hd, rfl⟩
    · exact hdb
    · refine hkeeps ?_
      rw [postCountLines_frame hd]
  | _ => exact hkeeps (StockRequest.counts_kept id h).countLines

theorem countedProducts_of_reaches {db₀ : Db} (hstart : db₀.BeforeCounts)
    {ok : Db → StockRequest → Prop} (hrun : Reaches StockRequest.exec ok db₀ db) :
    CountedProducts db.stock := by
  refine hrun.invariant (I := fun d => CountedProducts d.stock) ?_ ?_
  · intro l hl
    rw [hstart.countLines] at hl
    exact absurd hl List.not_mem_nil
  · intro _ r _ hs _ hdone
    obtain ⟨d, hd, rfl⟩ := map_eq_ok.mp hdone
    intro l hl
    show l.val.productId < (d.stock.products.map _).length
    rw [List.length_map]
    exact run_countedProducts hs hd l hl

end Products

/-! ### Snapshots -/

/-- What the service checks before it opens a count. -/
structure MoveStockCount.Opens (db : Db) (req : MoveStockCount) : Prop where
  draft : ∃ count, lockStockCount db req = .ok count ∧ count.status = .draft
  scope : countLinesOf db req.stockCountId ≠ []

/-- What the service checks of an entry before it is made. -/
structure RecordCountEntry.Enters (db : Db) (req : RecordCountEntry) (line : Row StockCountLine) :
    Prop where
  quantity : 0 ≤ req.countedQuantity
  countable : ∃ count, lockStockCount db ⟨req.stockCountId, req.callerStoreId⟩ = .ok count ∧
    (count.status = .opened ∨ count.status = .counted)
  line_mem : line ∈ db.stock.countLines
  of_count : line.val.stockCountId = req.stockCountId
  of_product : line.val.productId = req.productId

section Snapshots

variable {db d : Db}

/-- The snapshot of a line is taken unless its product is oversold. -/
theorem checks_snapshot_iff {line : Row StockCountLine} {p : Product} (hp : p.stored = p) :
    Table.Checks (line.val.snapshot p) ↔ 0 ≤ p.currentQtyOnHand := by
  have hquantity : numeric 3 p.currentQtyOnHand = p.currentQtyOnHand :=
    congrArg Product.currentQtyOnHand hp
  constructor
  · intro h
    have hnonneg := StockCountLine.Checks.expected_nonneg h (numeric 3 p.currentQtyOnHand) rfl
    rwa [hquantity] at hnonneg
  · intro h
    refine ⟨?_, line.property.counted_nonneg⟩
    rintro q ⟨⟩
    rwa [hquantity]

/-- An entry on a line is taken unless the line expects less than nothing. -/
theorem checks_counted_iff {l : StockCountLine} {quantity : ℚ} (hquantity : 0 ≤ quantity) :
    Table.Checks (l.counted quantity) ↔ ∀ q ∈ l.expectedQuantity, 0 ≤ q := by
  constructor
  · intro h
    exact (h : (l.counted quantity).Checks).expected_nonneg
  · intro h
    refine ⟨h, ?_⟩
    rintro q ⟨⟩
    exact quantize_nonneg hquantity

/-- **The snapshots of a count are taken unless one of its products is oversold.** -/
theorem snapshotLines_succeed_iff (hdb : ∀ p ∈ db.stock.products, p.val.stored = p.val)
    {lines : List (ℕ × Row StockCountLine)}
    (hproducts : ∀ x ∈ lines, x.2.val.productId < db.stock.products.length) :
    (∃ d, lines.foldlM snapshotLine db = .ok d) ↔
      ∀ x ∈ lines, 0 ≤ bookQuantity db x.2.val.productId := by
  induction lines generalizing db with
  | nil => exact iff_of_true ⟨db, rfl⟩ (by simp)
  | cons x lines ih =>
    obtain ⟨p, hp⟩ : ∃ p, db.stock.products[x.2.val.productId]? = some p :=
      ⟨_, List.getElem?_eq_getElem (hproducts x List.mem_cons_self)⟩
    have hchecks : Table.Checks (x.2.val.snapshot p.val) ↔ 0 ≤ p.val.currentQtyOnHand :=
      checks_snapshot_iff (hdb p (mem_of_row hp))
    simp only [List.foldlM_cons, bind_eq_ok, List.forall_mem_cons, bookQuantity_of_row hp]
    -- a snapshot writes a line of the count and leaves the products alone
    have hstep : ∀ t, snapshotLine db x = .ok t ↔ ∃ row, row.val = x.2.val.snapshot p.val ∧
        t = { db with stock.countLines := db.stock.countLines.set x.1 row } := by
      intro t
      unfold snapshotLine
      simp only [bind_eq_ok, orRaise_eq_ok, flush_eq_ok, pure_eq_ok, hp, Option.some.injEq,
        exists_eq_left', @eq_comm _ _ t]
    have hrest : ∀ row, ((∃ d, lines.foldlM snapshotLine
        { db with stock.countLines := db.stock.countLines.set x.1 row } = .ok d) ↔
          ∀ y ∈ lines, 0 ≤ bookQuantity db y.2.val.productId) := by
      intro row
      exact ih hdb fun y hy => hproducts y (List.mem_cons_of_mem _ hy)
    constructor
    · rintro ⟨d, t, ht, hd⟩
      obtain ⟨row, hrow, rfl⟩ := (hstep t).mp ht
      exact ⟨hchecks.mp (hrow ▸ row.property), (hrest row).mp ⟨d, hd⟩⟩
    · rintro ⟨hfirst, hothers⟩
      obtain ⟨d, hd⟩ := (hrest ⟨_, hchecks.mpr hfirst⟩).mpr hothers
      exact ⟨d, _, (hstep _).mpr ⟨⟨_, hchecks.mpr hfirst⟩, rfl, rfl⟩, hd⟩

/-- **A draft is opened unless one of its products is oversold.** -/
theorem openStockCount_succeeds_iff (hdb : ∀ p ∈ db.stock.products, p.val.stored = p.val)
    (hproducts : CountedProducts db.stock) {req : MoveStockCount} (hreq : req.Opens db) :
    (∃ d, openStockCount db req = .ok d) ↔
      ∀ l ∈ db.stock.countLines, l.val.stockCountId = req.stockCountId →
        0 ≤ bookQuantity db l.val.productId := by
  obtain ⟨count, hcount, hdraft⟩ := hreq.draft
  have hlines : (∃ d, (countLinesOf db req.stockCountId).foldlM snapshotLine db = .ok d) ↔
      ∀ x ∈ countLinesOf db req.stockCountId, 0 ≤ bookQuantity db x.2.val.productId :=
    snapshotLines_succeed_iff hdb fun x hx => hproducts x.2 (mem_of_row (mem_countLinesOf.mp hx).1)
  have hopens : (∃ d, openStockCount db req = .ok d) ↔
      ∃ d, (countLinesOf db req.stockCountId).foldlM snapshotLine db = .ok d := by
    unfold openStockCount
    simp [↓check_bind_eq_ok, bind_eq_ok, hcount, hdraft, raiseIf_eq_ok, hreq.scope]
  rw [hopens, hlines]
  constructor
  · intro h l hl hof
    obtain ⟨i, hi⟩ := List.getElem?_of_mem hl
    exact h (i, l) (mem_countLinesOf.mpr ⟨hi, hof⟩)
  · rintro h ⟨i, l⟩ hx
    obtain ⟨hi, hof⟩ := mem_countLinesOf.mp hx
    exact h l (mem_of_row hi) hof

/-- **A first entry is always made, and a recount unless its product is oversold.** -/
theorem recordCountEntry_succeeds_iff (hdb : ∀ p ∈ db.stock.products, p.val.stored = p.val)
    (hproducts : CountedProducts db.stock) (hcounts : CountsInOrder db.stock)
    {req : RecordCountEntry} {line : Row StockCountLine} (hreq : req.Enters db line) :
    (∃ d, recordCountEntry db req = .ok d) ↔
      (line.val.countedQuantity.isSome → 0 ≤ bookQuantity db req.productId) := by
  obtain ⟨count, hcount, hstatus⟩ := hreq.countable
  obtain ⟨lineId, hline⟩ := List.getElem?_of_mem hreq.line_mem
  have hfound : scalarOneOrNone (rowsWhere (fun l : Row StockCountLine =>
      l.val.stockCountId = req.stockCountId ∧ l.val.productId = req.productId)
      db.stock.countLines) = .ok (some (lineId, line)) := by
    rw [scalarOneOrNone_eq_some]
    have hkey := rowsWhere_of_key (k := (req.stockCountId, req.productId)) hcounts.distinct hline
      (by rw [StockCountLine.key, hreq.of_count, hreq.of_product])
    simpa only [StockCountLine.key, Prod.mk.injEq] using hkey
  obtain ⟨p, hp⟩ : ∃ p, db.stock.products[line.val.productId]? = some p :=
    ⟨_, List.getElem?_eq_getElem (hproducts line hreq.line_mem)⟩
  have hbook : bookQuantity db req.productId = p.val.currentQtyOnHand := by
    rw [← hreq.of_product, bookQuantity_of_row hp]
  have henters : (∃ d, recordCountEntry db req = .ok d) ↔ ∃ recounted,
      recountLine db line.val = .ok recounted ∧
        Table.Checks (recounted.counted req.countedQuantity) := by
    have hcountable : ¬(count.status ≠ .opened ∧ count.status ≠ .counted) := by
      rintro ⟨hopened, hcounted⟩
      exact hstatus.elim hopened hcounted
    unfold recordCountEntry
    simp only [↓check_bind_eq_ok, bind_eq_ok, orRaise_eq_ok, raiseIf_eq_ok, pure_eq_ok, hcount,
      hfound, Except.ok.injEq, exists_eq_left', Option.some.injEq, hcountable,
      not_lt.mpr hreq.quantity, not_false_eq_true, true_and, ← exists_flush_eq_ok]
    constructor
    · rintro ⟨d, recounted, hrecount, row, hrow, -⟩
      exact ⟨recounted, hrecount, row, hrow⟩
    · rintro ⟨recounted, hrecount, row, hrow⟩
      exact ⟨_, recounted, hrecount, row, hrow, rfl⟩
  rw [henters, hbook]
  simp only [checks_counted_iff hreq.quantity]
  unfold recountLine
  by_cases hfirst : line.val.countedQuantity = none
  · -- the line keeps what it expects
    simpa [hfirst, pure_eq_ok] using line.property.expected_nonneg
  · -- it expects what is on hand now
    have hstored : numeric 3 p.val.currentQtyOnHand = p.val.currentQtyOnHand :=
      congrArg Product.currentQtyOnHand (hdb p (mem_of_row hp))
    have hsome : line.val.countedQuantity.isSome := Option.isSome_iff_ne_none.mpr hfirst
    simp [hfirst, hsome, orRaise_eq_ok, hp, StockCountLine.snapshot, hstored]

end Snapshots

/-! ### Every state -/

/-- **In every state an inflow passes the check on stock, a draft is opened exactly when none of
its products is oversold, and an entry is made exactly when it is the first of its line or its
product is not oversold.** -/
theorem oversold_corrections_iff {db₀ db : Db} (hstart : db₀.BeforeCounts)
    (hrun : Reaches StockRequest.exec (fun _ _ => True) db₀ db) :
    (∀ p ∈ db.stock.products, ∀ m : MovementInput, 0 < m.quantityDelta →
      ¬(p.val.currentQtyOnHand + m.quantityDelta < 0 ∧ ¬p.val.allowNegativeStock)) ∧
    (∀ req : MoveStockCount, req.Opens db → ((∃ d, openStockCount db req = .ok d) ↔
      ∀ l ∈ db.stock.countLines, l.val.stockCountId = req.stockCountId →
        0 ≤ bookQuantity db l.val.productId)) ∧
    (∀ (req : RecordCountEntry) (line : Row StockCountLine), req.Enters db line →
      ((∃ d, recordCountEntry db req = .ok d) ↔
        (line.val.countedQuantity.isSome → 0 ≤ bookQuantity db req.productId))) := by
  obtain ⟨hstored, hcounts⟩ := reaches_countingInOrder hstart hrun
  have hproducts := countedProducts_of_reaches hstart hrun
  refine ⟨?_, ?_, ?_⟩
  · rintro p hp m hm ⟨hlow, hforbidden⟩
    have hquantity := p.property.stock_nonneg_unless_allowed.resolve_left hforbidden
    rw [hstored p hp] at hquantity
    linarith
  · intro req hreq
    exact openStockCount_succeeds_iff hstored hproducts hreq
  · intro req line hreq
    exact recordCountEntry_succeeds_iff hstored hproducts hcounts hreq

/-! ### Apples that are missing -/

theorem backorderShop_beforeCounts : backorderShop.BeforeCounts where
  products := backorderShop_stored
  counts := rfl
  countLines := rfl
  adjustments := by simp [backorderShop]

/-- The apples are to be counted, after more of them have been sold than there were. -/
def oversoldCountDrafted : Db :=
  value (StockRequest.exec (.createStockCount countApples) applesOversold) (by decide +kernel)

theorem reaches_oversoldCountDrafted :
    Reaches StockRequest.exec (fun _ _ => True) backorderShop oversoldCountDrafted :=
  .next (r := .createStockCount countApples) reaches_applesOversold trivial (eq_ok_value _ _)

/-- The five apples that are missing keep the count from being opened. -/
theorem oversold_corrections_iff_apples :
    ¬∃ d, openStockCount oversoldCountDrafted ⟨0, none⟩ = .ok d := by
  have hopens : MoveStockCount.Opens oversoldCountDrafted ⟨0, none⟩ := by
    refine ⟨⟨⟨0, none, .draft⟩, by decide +kernel, rfl⟩, by decide +kernel⟩
  intro h
  have hline : ∃ l ∈ oversoldCountDrafted.stock.countLines, l.val.stockCountId = 0 ∧
      bookQuantity oversoldCountDrafted l.val.productId = -5 := by
    decide +kernel
  obtain ⟨l, hl, hof, hshort⟩ := hline
  have hnonneg := ((oversold_corrections_iff backorderShop_beforeCounts
    reaches_oversoldCountDrafted).2.1 ⟨0, none⟩ hopens).mp h l hl hof
  rw [hshort] at hnonneg
  norm_num at hnonneg

/-- The shop with an apple in stock when its count is opened, and none counted. -/
def countedBeforeOverselling : Db :=
  value (([.createPurchaseOrder orderApples, .submitPurchaseOrder ⟨0, none⟩,
    .receiveGoods (deliverApples 1 4 "receipt-1"), .createStockCount countApples,
    .openStockCount ⟨0, none⟩, .recordCountEntry (enterApples 1),
    .finalizeSale { sellApple with
      lines := [{ productId := 0, quantity := 6 }]
      payments := [⟨.cash, 12⟩] }] : List StockRequest).foldlM
      (fun db r => StockRequest.exec r db) backorderShop) (by decide +kernel)

/-- **The count of an oversold product is neither opened nor repeated**: the database refuses the
negative quantity it expects. -/
theorem oversold_count_refused :
    Reaches StockRequest.exec (fun _ _ => True) backorderShop oversoldCountDrafted ∧
      errorOf (openStockCount oversoldCountDrafted ⟨0, none⟩)
        = some (.integrity .stockCountLines) ∧
      Reaches StockRequest.exec (fun _ _ => True) backorderShop countedBeforeOverselling ∧
      errorOf (recordCountEntry countedBeforeOverselling (enterApples 0))
        = some (.integrity .stockCountLines) :=
  ⟨reaches_oversoldCountDrafted, by decide +kernel, reaches_of_foldlM (eq_ok_value _ _),
    by decide +kernel⟩

end GroceryErp
