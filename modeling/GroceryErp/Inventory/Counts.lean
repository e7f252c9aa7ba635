import GroceryErp.Inventory.Adjustments

/-!
# Stock counts

A count fixes its scope when it is created, snapshots the book quantities when it is
opened, collects counted quantities, and posts one adjustment for each variance — or
refuses to post when a product has moved since its snapshot.

## Main definitions

* `createStockCount`, `openStockCount`, `recordCountEntry`, `markStockCountCounted`,
  `reviewStockCount`, `reopenStockCountForRecount`, `postStockCount`,
  `cancelStockCount` — the service functions.

## Main results

* `createStockCount_ok`, `openStockCount_ok`, `recordCountEntry_ok`,
  `moveStockCount_ok` — what these write, which is no stock and no entry.
* `postStockCount_ok` — posting is a run of adjustments of the counted lines.

## References

`backend/app/modules/inventory/service.py`.
-/

namespace GroceryErp

open Decimal Outcome Rows

/-! ### Scope -/

structure CreateStockCount where
  storeId : ℕ
  categoryId : Option ℕ
  productIds : List ℕ
  callerStoreId : Option ℕ

/-- The products of the request and of its category, in ascending order of id. -/
def CreateStockCount.resolvedIds (db : Db) (req : CreateStockCount) : List ℕ :=
  let ofCategory := rowsWhere (fun p => req.categoryId ≠ none ∧ p.val.storeId = req.storeId ∧
    p.val.categoryId = req.categoryId) db.stock.products
  sortedIds (req.productIds ++ ofCategory.map Prod.fst)

/-- A line of a new count; its snapshot is taken when the count is opened. -/
def newCountLine (stockCountId productId : ℕ) : StockCountLine where
  stockCountId := stockCountId
  productId := productId
  expectedQuantity := none
  expectedUnitCost := none
  countedQuantity := none
  recountNumber := 0

/-- `create_stock_count`: a draft with a line for each product in scope, all of which must be of the
store. -/
def createStockCount (db : Db) (req : CreateStockCount) : Result (Db × ℕ) := do
  enforceStoreAccess req.callerStoreId req.storeId
  let store ← orRaise db.master.stores[req.storeId]? .notFound
  raiseIf (¬store.isActive) .notFound
  let ids := req.resolvedIds db
  raiseIf (ids = []) (.validation .emptyStockCountScope)
  ids.forM fun productId => do
    let product ← orRaise db.stock.products[productId]? .notFound
    raiseIf (product.val.storeId ≠ req.storeId) (.conflict .storeMismatch)
  let stockCountId := db.stock.counts.length
  let lines ← ids.mapM fun productId => flush (newCountLine stockCountId productId)
  return ({ db with
    stock.counts := db.stock.counts ++ [⟨req.storeId, req.categoryId, .draft⟩]
    stock.countLines := db.stock.countLines ++ lines }, stockCountId)

/-- The lines of a count with their ids, ordered by product. -/
def countLinesOf (db : Db) (stockCountId : ℕ) : List (ℕ × Row StockCountLine) :=
  (rowsWhere (·.val.stockCountId = stockCountId) db.stock.countLines).insertionSort
    fun l k => l.2.val.productId ≤ k.2.val.productId

/-! ### Transitions -/

/-- The request to move a count on to its next status. -/
structure MoveStockCount where
  stockCountId : ℕ
  callerStoreId : Option ℕ

/-- The count of a request, once the caller's store is checked. -/
def lockStockCount (db : Db) (req : MoveStockCount) : Result StockCount := do
  let count ← orRaise db.stock.counts[req.stockCountId]? .notFound
  enforceStoreAccess req.callerStoreId count.storeId
  return count

/-- The transitions that only change the status.  `again` is the status in which the
request is a repetition and changes nothing. -/
def moveStockCount (db : Db) (req : MoveStockCount) (again : Option StockCountStatus)
    (allowed : List StockCountStatus) (status : StockCountStatus) : Result Db := do
  let count ← lockStockCount db req
  if again = some count.status then return db else do
    raiseIf (count.status ∉ allowed) (.conflict .invalidStockCountState)
    return { db with stock.counts := db.stock.counts.set req.stockCountId { count with status } }

/-- `mark_stock_count_counted`: an open count is counted, when every line has its quantity. -/
def markStockCountCounted (db : Db) (req : MoveStockCount) : Result Db :=
  moveStockCount db req (some .counted) [.opened] .counted

/-- `review_stock_count`: a counted count is reviewed; only then may it be posted. -/
def reviewStockCount (db : Db) (req : MoveStockCount) : Result Db :=
  moveStockCount db req (some .reviewed) [.counted] .reviewed

/-- `reopen_stock_count_for_recount`: no state makes it a repetition. -/
def reopenStockCountForRecount (db : Db) (req : MoveStockCount) : Result Db :=
  moveStockCount db req none [.reviewed] .counted

/-- `cancel_stock_count`: any count that has not been posted may be given up. -/
def cancelStockCount (db : Db) (req : MoveStockCount) : Result Db :=
  moveStockCount db req (some .cancelled) [.draft, .opened, .counted, .reviewed] .cancelled

/-! ### Snapshots and entries -/

/-- The line with the product's quantity and cost as they are now. -/
def StockCountLine.snapshot (l : StockCountLine) (product : Product) : StockCountLine :=
  { l with
    expectedQuantity := some (numeric 3 product.currentQtyOnHand)
    expectedUnitCost := some (numeric 6 product.currentCost) }

/-- The snapshot of one line: what the system holds of its product when the count is opened. -/
def snapshotLine (db : Db) (line : ℕ × Row StockCountLine) : Result Db := do
  let product ← orRaise db.stock.products[line.2.val.productId]? .notFound
  let row ← flush (line.2.val.snapshot product.val)
  return { db with stock.countLines := db.stock.countLines.set line.1 row }

/-- `open_stock_count`: each line notes what the system holds of its product and the last movement
of it, which the posting later compares with. -/
def openStockCount (db : Db) (req : MoveStockCount) : Result Db := do
  let count ← lockStockCount db req
  if count.status = .opened then return db else do
    raiseIf (count.status ≠ .draft) (.conflict .invalidStockCountState)
    let lines := countLinesOf db req.stockCountId
    raiseIf (lines = []) (.conflict .emptyStockCountScope)
    let db ← lines.foldlM snapshotLine db
    return { db with
      stock.counts := db.stock.counts.set req.stockCountId { count with status := .opened } }

structure RecordCountEntry where
  stockCountId : ℕ
  productId : ℕ
  countedQuantity : ℚ
  callerStoreId : Option ℕ

/-- The line with the new entry; a recount has taken a fresh snapshot before. -/
def StockCountLine.counted (l : StockCountLine) (quantity : ℚ) : StockCountLine :=
  { l with countedQuantity := some (numeric 3 quantity), recountNumber := l.recountNumber + 1 }

/-- The line an entry starts from: as it is the first time, else with a fresh
snapshot. -/
def recountLine (db : Db) (l : StockCountLine) : Result StockCountLine :=
  if l.countedQuantity = none then return l else do
    let product ← orRaise db.stock.products[l.productId]? .notFound
    return l.snapshot product.val

/-- `record_count_entry`: the counted quantity of one line. A line that was counted before is
counted anew, against what the system holds now. -/
def recordCountEntry (db : Db) (req : RecordCountEntry) : Result Db := do
  raiseIf (req.countedQuantity < 0) (.validation .invalidQuantity)
  let count ← lockStockCount db ⟨req.stockCountId, req.callerStoreId⟩
  raiseIf (count.status ≠ .opened ∧ count.status ≠ .counted) (.conflict .invalidStockCountState)
  let found ← scalarOneOrNone (rowsWhere (fun l => l.val.stockCountId = req.stockCountId ∧
    l.val.productId = req.productId) db.stock.countLines)
  let (lineId, line) ← orRaise found .notFound
  let recounted ← recountLine db line.val
  let row ← flush (recounted.counted req.countedQuantity)
  return { db with stock.countLines := db.stock.countLines.set lineId row }

/-! ### Posting -/

/-- The request to post a count, after it was reviewed. -/
structure PostStockCount where
  stockCountId : ℕ
  callerStoreId : Option ℕ
  today : Date

/-- The drift check of one counted line: its product still has the snapshot's
quantity. -/
def checkDrift (db : Db) (line : Row StockCountLine) : Result Unit := do
  let product ← orRaise db.stock.products[line.val.productId]? .notFound
  let expected ← orRaise line.val.expectedQuantity .assertion
  raiseIf (product.val.currentQtyOnHand ≠ expected) (.conflict .stockCountDriftDetected)

/-- The adjustment of a counted line: what was counted less what the system holds now. -/
def countAdjustment (count : StockCount) (stockCountId : ℕ) (today : Date) (productId : ℕ)
    (variance : ℚ) : StockAdjustmentInput where
  storeId := count.storeId
  productId := productId
  quantityDelta := variance
  reasonCode := .stocktakeCorrection
  today := today
  stockCountId := some stockCountId

/-- One counted line: its variance against the product is adjusted away. -/
def postCountLine (count : StockCount) (stockCountId : ℕ) (today : Date) (db : Db)
    (line : Row StockCountLine) : Result Db := do
  let product ← orRaise db.stock.products[line.val.productId]? .notFound
  let counted ← orRaise line.val.countedQuantity .assertion
  let variance := counted - product.val.currentQtyOnHand
  if variance = 0 then return db else do
    let (db, _) ← createStockAdjustment db
      (countAdjustment count stockCountId today line.val.productId variance)
    return db

/-- `post_stock_count`: every counted line is checked for movements since it was opened, and then
each difference is booked; one drifted line fails the whole request. -/
def postStockCount (db : Db) (req : PostStockCount) : Result Db := do
  let count ← lockStockCount db ⟨req.stockCountId, req.callerStoreId⟩
  if count.status = .posted then return db else do
    raiseIf (count.status ≠ .reviewed) (.conflict .invalidStockCountState)
    let countedLines := ((countLinesOf db req.stockCountId).map Prod.snd).filter
      (·.val.countedQuantity.isSome)
    raiseIf (countedLines = []) (.conflict .emptyStockCountPosting)
    countedLines.forM (checkDrift db)
    let db ← countedLines.foldlM (postCountLine count req.stockCountId req.today) db
    return { db with
      stock.counts := db.stock.counts.set req.stockCountId { count with status := .posted } }

/-! ### What a posting applies -/

/-- The quantity of a product on the books; there is none of a product that is not there. -/
def bookQuantity (db : Db) (productId : ℕ) : ℚ :=
  (db.stock.products[productId]?).elim 0 (·.val.currentQtyOnHand)

/-- The lines of a count that a posting goes through. -/
def countedLines (db : Db) (stockCountId : ℕ) : List (Row StockCountLine) :=
  ((countLinesOf db stockCountId).map Prod.snd).filter (·.val.countedQuantity.isSome)

/-- What was counted of the line beyond what is on the books. -/
def StockCountLine.variance (db : Db) (l : StockCountLine) : ℚ :=
  l.countedQuantity.getD 0 - bookQuantity db l.productId

/-! ### What a request that succeeds has done -/

section Inversion

variable {db db' : Db}

theorem bookQuantity_of_row {productId : ℕ} {p : Row Product}
    (h : db.stock.products[productId]? = some p) :
    bookQuantity db productId = p.val.currentQtyOnHand := by
  rw [bookQuantity, h]
  rfl

theorem mem_countLinesOf {stockCountId i : ℕ} {l : Row StockCountLine} :
    (i, l) ∈ countLinesOf db stockCountId ↔
      db.stock.countLines[i]? = some l ∧ l.val.stockCountId = stockCountId := by
  rw [countLinesOf, List.mem_insertionSort]
  exact mem_rowsWhere

theorem mem_countedLines {stockCountId : ℕ} {l : Row StockCountLine} :
    l ∈ countedLines db stockCountId ↔ l ∈ db.stock.countLines ∧
      l.val.stockCountId = stockCountId ∧ l.val.countedQuantity.isSome := by
  rw [countedLines, List.mem_filter, List.mem_map]
  constructor
  · rintro ⟨⟨⟨i, k⟩, hk, rfl⟩, hcounted⟩
    obtain ⟨hrow, hcount⟩ := mem_countLinesOf.mp hk
    exact ⟨mem_of_row hrow, hcount, hcounted⟩
  · rintro ⟨hl, hcount, hcounted⟩
    obtain ⟨i, hi⟩ := List.getElem?_of_mem hl
    exact ⟨⟨(i, l), mem_countLinesOf.mpr ⟨hi, hcount⟩, rfl⟩, hcounted⟩

theorem lockStockCount_ok {req : MoveStockCount} {count : StockCount}
    (h : lockStockCount db req = .ok count) : db.stock.counts[req.stockCountId]? = some count := by
  unfold lockStockCount at h
  simp only [↓check_bind_eq_ok, bind_eq_ok, orRaise_eq_ok, pure_eq_ok] at h
  obtain ⟨c, hc, -, rfl⟩ := h
  exact hc

/-- A count covers products of its store. -/
theorem createStockCount_ok {req : CreateStockCount} {stockCountId : ℕ}
    (h : createStockCount db req = .ok (db', stockCountId)) :
    ∃ lines : List (Row StockCountLine),
      db' = { db with
        stock.counts := db.stock.counts ++ [⟨req.storeId, req.categoryId, .draft⟩]
        stock.countLines := db.stock.countLines ++ lines } ∧
      ∀ l ∈ lines, l.val.stockCountId = db.stock.counts.length ∧ l.val.countedQuantity = none ∧
        ∃ p, db.stock.products[l.val.productId]? = some p ∧ p.val.storeId = req.storeId := by
  unfold createStockCount at h
  simp only [↓check_bind_eq_ok, bind_eq_ok, orRaise_eq_ok, raiseIf_eq_ok, forM_eq_ok, pure_eq_ok,
    Prod.mk.injEq, ne_eq, not_not] at h
  obtain ⟨-, _, -, -, -, hproducts, lines, hlines, rfl, -⟩ := h
  refine ⟨lines, rfl, fun l hl => ?_⟩
  obtain ⟨productId, hmem, hrow⟩ := exists_of_mem_mapM hlines hl
  rw [flush_eq_ok.mp hrow]
  exact ⟨rfl, rfl, hproducts productId hmem⟩

/-- A count has one line for each product in its scope. -/
theorem createStockCount_lines {req : CreateStockCount} {stockCountId : ℕ}
    (h : createStockCount db req = .ok (db', stockCountId)) :
    ∃ lines : List (Row StockCountLine),
      db' = { db with
        stock.counts := db.stock.counts ++ [⟨req.storeId, req.categoryId, .draft⟩]
        stock.countLines := db.stock.countLines ++ lines } ∧
      lines.map (·.val) = (req.resolvedIds db).map (newCountLine db.stock.counts.length) := by
  unfold createStockCount at h
  simp only [↓check_bind_eq_ok, bind_eq_ok, orRaise_eq_ok, pure_eq_ok, Prod.mk.injEq] at h
  obtain ⟨-, _, -, -, -, -, lines, hlines, rfl, -⟩ := h
  refine ⟨lines, rfl, map_of_mapM hlines fun productId l hl => ?_⟩
  exact flush_eq_ok.mp hl

/-- The transitions that only change the status write the counts and nothing else, and
keep the store of each. -/
theorem moveStockCount_ok {req : MoveStockCount} {again : Option StockCountStatus}
    {allowed : List StockCountStatus} {status : StockCountStatus}
    (h : moveStockCount db req again allowed status = .ok db') :
    db' = db ∨ ∃ count, db.stock.counts[req.stockCountId]? = some count ∧
      count.status ∈ allowed ∧
      db' = { db with
        stock.counts := db.stock.counts.set req.stockCountId { count with status } } := by
  unfold moveStockCount at h
  rw [bind_eq_ok] at h
  obtain ⟨count, hcount, h⟩ := h
  split at h
  · rw [pure_eq_ok] at h
    exact .inl h.symm
  · simp only [↓check_bind_eq_ok, raiseIf_eq_ok, pure_eq_ok, not_not] at h
    exact .inr ⟨count, lockStockCount_ok hcount, h.1, h.2.symm⟩

/-- Snapshots keep of every line what does not depend on the snapshot. -/
theorem snapshotLines_ok {lines : List (ℕ × Row StockCountLine)}
    (h : lines.foldlM snapshotLine db = .ok db') {P : StockCountLine → Prop}
    (keeps : ∀ l q c, P l → P { l with expectedQuantity := q, expectedUnitCost := c })
    (hlines : ∀ l ∈ lines, P l.2.val) (hdb : ∀ l ∈ db.stock.countLines, P l.val) :
    db' = { db with stock.countLines := db'.stock.countLines } ∧
      ∀ l ∈ db'.stock.countLines, P l.val := by
  refine foldlM_induct (fun _ t => t = { db with stock.countLines := t.stock.countLines } ∧
    ∀ l ∈ t.stock.countLines, P l.val) h ⟨rfl, hdb⟩ ?_
  rintro done l rest t t' rfl ⟨hframe, ht⟩ hstep
  unfold snapshotLine at hstep
  simp only [bind_eq_ok, orRaise_eq_ok, flush_eq_ok, pure_eq_ok] at hstep
  obtain ⟨p, -, row, hrow, rfl⟩ := hstep
  refine ⟨by rw [hframe], forall_mem_set ht ?_⟩
  rw [hrow]
  exact keeps _ _ _ (hlines l (by simp))

/-- The snapshot of a line is taken of its product as it is. -/
theorem snapshotLines_overwritten {lines : List (ℕ × Row StockCountLine)}
    (h : lines.foldlM snapshotLine db = .ok db') (hnodup : (lines.map Prod.fst).Nodup)
    (hrows : ∀ x ∈ lines, db.stock.countLines[x.1]? = some x.2) :
    Overwritten (fun i a b => if i ∈ lines.map Prod.fst then
        ∃ p, db.stock.products[a.val.productId]? = some p ∧ b.val = a.val.snapshot p.val
      else b = a) db.stock.countLines db'.stock.countLines := by
  -- the loop, over the lines it has done; the products do not change under it
  have hkept := foldlM_induct (fun done t =>
    t.stock.products = db.stock.products ∧
      Overwritten (fun i a b => if i ∈ done.map Prod.fst then
          ∃ p, db.stock.products[a.val.productId]? = some p ∧ b.val = a.val.snapshot p.val
        else b = a) db.stock.countLines t.stock.countLines) h
    ⟨rfl, .refl _ fun i a _ => by simp⟩ ?_
  · exact hkept.2
  rintro done ⟨i, l⟩ rest t t' rfl ⟨hproducts, ht⟩ hstep
  unfold snapshotLine at hstep
  simp only [bind_eq_ok, orRaise_eq_ok, flush_eq_ok, pure_eq_ok] at hstep
  obtain ⟨p, hp, row, hrow, rfl⟩ := hstep
  refine ⟨hproducts, ?_⟩
  have hl : db.stock.countLines[i]? = some l := hrows (i, l) (by simp)
  -- no line comes twice, so the one of this round is still as it was
  have hfresh : i ∉ done.map Prod.fst := by
    rw [List.map_append, List.nodup_append'] at hnodup
    intro hmem
    exact hnodup.2.2 hmem (by simp)
  obtain ⟨b, hb, hbl⟩ := ht.2 i l hl
  rw [if_neg hfresh] at hbl
  subst hbl
  refine ht.set hb (fun a hab => ?_) fun j a c hj hac => ?_
  · rw [if_neg hfresh] at hab
    subst hab
    rw [if_pos (by simp)]
    exact ⟨p, hproducts ▸ hp, hrow⟩
  · have hmem : j ∈ (done ++ [(i, b)]).map Prod.fst ↔ j ∈ done.map Prod.fst := by
      rw [List.map_append, List.mem_append]
      simp [hj]
    rw [if_congr hmem rfl rfl]
    exact hac

/-- A count that is opened has a snapshot taken of each of its lines. -/
theorem openStockCount_ok {req : MoveStockCount} (h : openStockCount db req = .ok db') :
    db' = db ∨ ∃ count d, db.stock.counts[req.stockCountId]? = some count ∧
      (countLinesOf db req.stockCountId).foldlM snapshotLine db = .ok d ∧
      db' = { d with
        stock.counts := d.stock.counts.set req.stockCountId { count with status := .opened } } := by
  unfold openStockCount at h
  rw [bind_eq_ok] at h
  obtain ⟨count, hcount, h⟩ := h
  split at h
  · rw [pure_eq_ok] at h
    exact .inl h.symm
  · simp only [↓check_bind_eq_ok, bind_eq_ok, raiseIf_eq_ok, pure_eq_ok] at h
    obtain ⟨-, -, d, hd, rfl⟩ := h
    exact .inr ⟨count, d, lockStockCount_ok hcount, hd, rfl⟩

/-- Only a draft is opened, and the lines of other counts are left as they are. -/
theorem openStockCount_opened {req : MoveStockCount} (h : openStockCount db req = .ok db') :
    db' = db ∨ ∃ count lines, db.stock.counts[req.stockCountId]? = some count ∧
      count.status = .draft ∧
      Overwritten (fun _ a b => if a.val.stockCountId = req.stockCountId then
          ∃ p, db.stock.products[a.val.productId]? = some p ∧ b.val = a.val.snapshot p.val
        else b = a) db.stock.countLines lines ∧
      db' = { db with
        stock.counts := db.stock.counts.set req.stockCountId { count with status := .opened }
        stock.countLines := lines } := by
  unfold openStockCount at h
  rw [bind_eq_ok] at h
  obtain ⟨count, hcount, h⟩ := h
  split at h
  · rw [pure_eq_ok] at h
    exact .inl h.symm
  simp only [↓check_bind_eq_ok, bind_eq_ok, raiseIf_eq_ok, pure_eq_ok, ne_eq, not_not] at h
  obtain ⟨hdraft, -, d, hd, rfl⟩ := h
  have hkeys : ((countLinesOf db req.stockCountId).map Prod.fst).Nodup := by
    have hperm := (List.perm_insertionSort (fun l k : ℕ × Row StockCountLine =>
      l.2.val.productId ≤ k.2.val.productId) (rowsWhere (·.val.stockCountId = req.stockCountId)
        db.stock.countLines)).map Prod.fst
    exact hperm.nodup_iff.mpr (nodup_fst_rowsWhere _ _)
  have hlines := snapshotLines_overwritten hd hkeys fun x hx => (mem_countLinesOf.mp hx).1
  have hframe := (snapshotLines_ok (P := fun _ => True) hd (fun _ _ _ _ => trivial)
    (fun _ _ => trivial) fun _ _ => trivial).1
  refine .inr ⟨count, d.stock.countLines, lockStockCount_ok hcount, hdraft, ?_, by rw [hframe]⟩
  refine ⟨hlines.1, fun i a ha => ?_⟩
  obtain ⟨b, hb, hab⟩ := hlines.2 i a ha
  refine ⟨b, hb, ?_⟩
  -- the lines gone through are those of the count
  have hmem : i ∈ (countLinesOf db req.stockCountId).map Prod.fst ↔
      a.val.stockCountId = req.stockCountId := by
    constructor
    · intro hi
      obtain ⟨⟨j, k⟩, hk, rfl⟩ := List.mem_map.mp hi
      obtain ⟨hrow, hcount⟩ := mem_countLinesOf.mp hk
      obtain rfl : k = a := Option.some.inj (hrow.symm.trans ha)
      exact hcount
    · intro hcount
      exact List.mem_map.mpr ⟨(i, a), mem_countLinesOf.mpr ⟨ha, hcount⟩, rfl⟩
  rw [if_congr hmem rfl rfl] at hab
  exact hab

/-- An entry is made on a count that is open or counted, and starts from the line as it is,
or from a fresh snapshot where the line was counted before. -/
theorem recordCountEntry_written {req : RecordCountEntry}
    (h : recordCountEntry db req = .ok db') :
    ∃ count lineId line recounted row, db.stock.counts[req.stockCountId]? = some count ∧
      (count.status = .opened ∨ count.status = .counted) ∧
      rowsWhere (fun l => l.val.stockCountId = req.stockCountId ∧
        l.val.productId = req.productId) db.stock.countLines = [(lineId, line)] ∧
      recountLine db line.val = .ok recounted ∧
      row.val = recounted.counted req.countedQuantity ∧
      db' = { db with stock.countLines := db.stock.countLines.set lineId row } := by
  unfold recordCountEntry at h
  simp only [↓check_bind_eq_ok, bind_eq_ok, orRaise_eq_ok, raiseIf_eq_ok, flush_eq_ok, pure_eq_ok,
    Prod.exists, not_and_or, ne_eq, not_not] at h
  obtain ⟨-, count, hcount, hstatus, found, hfound, lineId, line, rfl, recounted, hrecount, row,
    hrow, rfl⟩ := h
  exact ⟨count, lineId, line, recounted, row, lockStockCount_ok hcount, hstatus,
    scalarOneOrNone_eq_some.mp hfound, hrecount, hrow, rfl⟩

/-- An entry writes one line of the count. -/
theorem recordCountEntry_ok {req : RecordCountEntry} (h : recordCountEntry db req = .ok db') :
    ∃ lineId line row, db.stock.countLines[lineId]? = some line ∧
      row.val.stockCountId = line.val.stockCountId ∧ row.val.productId = line.val.productId ∧
      row.val.countedQuantity = some (numeric 3 req.countedQuantity) ∧
      db' = { db with stock.countLines := db.stock.countLines.set lineId row } := by
  unfold recordCountEntry at h
  simp only [↓check_bind_eq_ok, bind_eq_ok, orRaise_eq_ok, raiseIf_eq_ok, flush_eq_ok, pure_eq_ok,
    Prod.exists] at h
  obtain ⟨-, count, -, -, found, hfound, lineId, line, rfl, recounted, hrecount, row, hrow, rfl⟩ := h
  have hmem : (lineId, line) ∈ rowsWhere (fun l : Row StockCountLine =>
      l.val.stockCountId = req.stockCountId ∧ l.val.productId = req.productId)
      db.stock.countLines := by
    rw [scalarOneOrNone_eq_some.mp hfound]
    exact List.mem_cons_self
  -- a recount takes the snapshot anew and keeps what the line is of
  have hkeeps : recounted.stockCountId = line.val.stockCountId ∧
      recounted.productId = line.val.productId := by
    unfold recountLine at hrecount
    split at hrecount
    · simp only [pure_eq_ok] at hrecount
      exact hrecount ▸ ⟨rfl, rfl⟩
    · simp only [bind_eq_ok, pure_eq_ok] at hrecount
      obtain ⟨p, -, rfl⟩ := hrecount
      exact ⟨rfl, rfl⟩
  refine ⟨lineId, line, row, (mem_rowsWhere.mp hmem).1, ?_, ?_, ?_, rfl⟩
  · rw [hrow]
    exact hkeeps.1
  · rw [hrow]
    exact hkeeps.2
  · rw [hrow]
    rfl

theorem postCountLine_ok {count : StockCount} {stockCountId : ℕ} {today : Date}
    {line : Row StockCountLine} (h : postCountLine count stockCountId today db line = .ok db') :
    db' = db ∨ ∃ p counted adjustmentId, db.stock.products[line.val.productId]? = some p ∧
      line.val.countedQuantity = some counted ∧
      createStockAdjustment db (countAdjustment count stockCountId today line.val.productId
        (counted - p.val.currentQtyOnHand)) = .ok (db', adjustmentId) := by
  unfold postCountLine at h
  simp only [bind_eq_ok, orRaise_eq_ok] at h
  obtain ⟨p, hp, counted, hcounted, h⟩ := h
  split at h
  · rw [pure_eq_ok] at h
    exact .inl h.symm
  · simp only [bind_eq_ok, pure_eq_ok, Prod.exists] at h
    obtain ⟨d, i, hd, rfl⟩ := h
    exact .inr ⟨p, counted, i, hp, hcounted, hd⟩

/-- A counted line without a variance is left, and any other is adjusted. -/
theorem postCountLine_written {count : StockCount} {stockCountId : ℕ} {today : Date}
    {line : Row StockCountLine} (h : postCountLine count stockCountId today db line = .ok db') :
    ∃ p counted, db.stock.products[line.val.productId]? = some p ∧
      line.val.countedQuantity = some counted ∧
      ((counted = p.val.currentQtyOnHand ∧ db' = db) ∨
        counted ≠ p.val.currentQtyOnHand ∧ ∃ adjustmentId,
          writeAdjustment db (countAdjustment count stockCountId today line.val.productId
            (counted - p.val.currentQtyOnHand)) = .ok (db', adjustmentId)) := by
  unfold postCountLine at h
  simp only [bind_eq_ok, orRaise_eq_ok] at h
  obtain ⟨p, hp, counted, hcounted, h⟩ := h
  refine ⟨p, counted, hp, hcounted, ?_⟩
  split at h
  · next hzero =>
    rw [pure_eq_ok] at h
    exact .inl ⟨sub_eq_zero.mp hzero, h.symm⟩
  · next hvariance =>
    simp only [bind_eq_ok, pure_eq_ok, Prod.exists] at h
    obtain ⟨d, i, hd, rfl⟩ := h
    exact .inr ⟨fun heq => hvariance (sub_eq_zero.mpr heq), i,
      createStockAdjustment_unkeyed rfl hd⟩

/-- What the lines gone through have come to: their products are as they were counted, the
others as they were, and each variance has its adjustment. -/
structure LinesPosted (db : Db) (count : StockCount) (stockCountId : ℕ) (today : Date)
    (done : List (Row StockCountLine)) (t : Db) : Prop where
  counted : ∀ l ∈ done, ∀ q, l.val.countedQuantity = some q →
    ∃ p, t.stock.products[l.val.productId]? = some p ∧ p.val.currentQtyOnHand = q
  others : ∀ i ∉ done.map (·.val.productId), t.stock.products[i]? = db.stock.products[i]?
  adjustments : ∃ rows, t.stock.adjustments = db.stock.adjustments ++ rows ∧
    rows.map (·.val) = (done.filter fun l => l.val.variance db ≠ 0).map fun l =>
      (countAdjustment count stockCountId today l.val.productId (l.val.variance db)).row

/-- **Posting the lines of distinct products brings each to what was counted.** -/
theorem postCountLines_posted {count : StockCount} {stockCountId : ℕ} {today : Date}
    {lines : List (Row StockCountLine)}
    (h : lines.foldlM (postCountLine count stockCountId today) db = .ok db')
    (hdistinct : (lines.map (·.val.productId)).Nodup) :
    LinesPosted db count stockCountId today lines db' := by
  refine foldlM_induct (LinesPosted db count stockCountId today) h
    ⟨by simp, fun _ _ => rfl, [], by simp, rfl⟩ ?_
  rintro done l rest t t' rfl ht hstep
  obtain ⟨p, counted, hp, hcounted, hcases⟩ := postCountLine_written hstep
  have hfresh : l.val.productId ∉ done.map (·.val.productId) := by
    rw [List.map_append, List.nodup_append'] at hdistinct
    intro hmem
    exact hdistinct.2.2 hmem (by simp)
  -- the product of the line is as it was before the posting
  have hbefore : db.stock.products[l.val.productId]? = some p := (ht.others _ hfresh) ▸ hp
  have hvariance : l.val.variance db = counted - p.val.currentQtyOnHand := by
    rw [StockCountLine.variance, hcounted, bookQuantity_of_row hbefore]
    rfl
  obtain ⟨rows, hrows, hvals⟩ := ht.adjustments
  rcases hcases with ⟨heq, rfl⟩ | ⟨hne, adjustmentId, hwrite⟩
  · refine ⟨?_, ?_, rows, hrows, ?_⟩
    · intro k hk q hq
      rcases List.mem_append.mp hk with hk | hk
      · exact ht.counted k hk q hq
      · obtain rfl := List.mem_singleton.mp hk
        obtain rfl : counted = q := Option.some.inj (hcounted.symm.trans hq)
        exact ⟨p, hp, heq.symm⟩
    · intro i hi
      apply ht.others
      intro hmem
      apply hi
      rw [List.map_append]
      exact List.mem_append_left _ hmem
    · rw [hvals, List.filter_append]
      simp [hvariance, heq]
  · obtain ⟨q, q', hq, hq', hproducts⟩ := writeAdjustment_products hwrite
    obtain ⟨row, hrow, hadded⟩ := writeAdjustment_added hwrite
    obtain rfl : p = q := Option.some.inj (hp.symm.trans hq)
    have hget : ∀ i, t'.stock.products[i]?
        = if l.val.productId = i then some q' else t.stock.products[i]? := by
      intro i
      rw [hproducts]
      exact getElem?_set_of_some hp q' i
    refine ⟨?_, ?_, rows ++ [row], by rw [hadded, hrows, List.append_assoc], ?_⟩
    · intro k hk c hc
      rcases List.mem_append.mp hk with hk | hk
      · obtain ⟨r, hr, hrc⟩ := ht.counted k hk c hc
        have hne : l.val.productId ≠ k.val.productId := by
          intro heq
          exact hfresh (heq ▸ List.mem_map_of_mem hk)
        exact ⟨r, by rw [hget, if_neg hne, hr], hrc⟩
      · obtain rfl := List.mem_singleton.mp hk
        obtain rfl : counted = c := Option.some.inj (hcounted.symm.trans hc)
        refine ⟨q', by rw [hget, if_pos rfl], ?_⟩
        rw [hq']
        exact add_sub_cancel _ _
    · intro i hi
      rw [List.map_append, List.mem_append, not_or] at hi
      have hne : l.val.productId ≠ i := by
        rintro rfl
        exact hi.2 (by simp)
      rw [hget, if_neg hne]
      exact ht.others i hi.1
    · have hlast : [l].filter (fun l => l.val.variance db ≠ 0) = [l] := by
        rw [List.filter_singleton, hvariance]
        simp [sub_ne_zero.mpr hne]
      rw [List.map_append, hvals, List.filter_append, List.map_append, hlast, List.map_singleton,
        List.map_singleton, hrow, hvariance]

/-- A posted count is left as it is; of a reviewed one the counted lines are posted, none of
which had drifted. -/
theorem postStockCount_posted {req : PostStockCount} (h : postStockCount db req = .ok db') :
    ∃ count, db.stock.counts[req.stockCountId]? = some count ∧
      ((count.status = .posted ∧ db' = db) ∨
        count.status = .reviewed ∧ ∃ d,
          (∀ l ∈ countedLines db req.stockCountId, checkDrift db l = .ok ()) ∧
          (countedLines db req.stockCountId).foldlM
            (postCountLine count req.stockCountId req.today) db = .ok d ∧
          db' = { d with
            stock.counts :=
              d.stock.counts.set req.stockCountId { count with status := .posted } }) := by
  unfold postStockCount at h
  rw [bind_eq_ok] at h
  obtain ⟨count, hcount, h⟩ := h
  refine ⟨count, lockStockCount_ok hcount, ?_⟩
  split at h
  · next hposted =>
    rw [pure_eq_ok] at h
    exact .inl ⟨hposted, h.symm⟩
  · simp only [↓check_bind_eq_ok, bind_eq_ok, raiseIf_eq_ok, forM_eq_ok, pure_eq_ok, ne_eq,
      not_not] at h
    obtain ⟨hreviewed, -, hdrift, d, hd, rfl⟩ := h
    exact .inr ⟨hreviewed, d, hdrift, hd, rfl⟩

/-- A posted count has its counted lines adjusted, none of which had drifted. -/
theorem postStockCount_ok {req : PostStockCount} (h : postStockCount db req = .ok db') :
    db' = db ∨ ∃ (count : StockCount) (lines : List (Row StockCountLine)) (d : Db),
      db.stock.counts[req.stockCountId]? = some count ∧
      (∀ l ∈ lines, l ∈ db.stock.countLines ∧ l.val.stockCountId = req.stockCountId) ∧
      (∀ l ∈ lines, checkDrift db l = .ok ()) ∧
      lines.foldlM (postCountLine count req.stockCountId req.today) db = .ok d ∧
      db' = { d with
        stock.counts := d.stock.counts.set req.stockCountId { count with status := .posted } } := by
  unfold postStockCount at h
  rw [bind_eq_ok] at h
  obtain ⟨count, hcount, h⟩ := h
  split at h
  · rw [pure_eq_ok] at h
    exact .inl h.symm
  · simp only [↓check_bind_eq_ok, bind_eq_ok, raiseIf_eq_ok, forM_eq_ok, pure_eq_ok] at h
    obtain ⟨-, -, hdrift, d, hd, rfl⟩ := h
    refine .inr ⟨count, _, d, lockStockCount_ok hcount, fun l hl => ?_, hdrift, hd, rfl⟩
    obtain ⟨⟨i, row⟩, hi, rfl⟩ := List.mem_map.mp (List.mem_of_mem_filter hl)
    obtain ⟨hrow, hcount⟩ := mem_rowsWhere.mp ((List.mem_insertionSort _).mp hi)
    exact ⟨mem_of_row hrow, hcount⟩

end Inversion

end GroceryErp
