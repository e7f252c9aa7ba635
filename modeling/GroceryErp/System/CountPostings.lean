import GroceryErp.System.Frames

/-!
# Stock counts among all requests

A count is opened, counted, reviewed and posted or cancelled while sales, receipts, returns,
adjustments and transfers go on.  A request on a count locks the count before it reads
anything, and a posting then locks the products of all its lines, so that each request is one
step and any order of them is a run.

## Main definitions

* `CountsMoved` — what a request can do to the counts.
* `CountsInOrder` — the lines of a count are of distinct products, and only a posted count has
  adjustments.
* `StockRequest.after` — the tables after a request that succeeds or is rolled back.
* `CountApplied` — a reviewed count has been posted, line by line.

## Main results

* `StockRequest.counts_moved` — no request moves a posted or a cancelled count.
* `exec_countsInOrder` — every request keeps the counts in order.
* `stock_counts_all_or_nothing` — a posting applies the whole count or leaves stock and ledger
  alone, and posted and cancelled counts stay so.

## References

`backend/app/modules/inventory/service.py`.
-/

namespace GroceryErp

open Decimal Outcome Rows Runs

/-! ### What a request does to the counts -/

/-- Nothing follows a posted or a cancelled count. -/
def StockCountStatus.Terminal (status : StockCountStatus) : Prop :=
  status = .posted ∨ status = .cancelled

/-- The counts are as they were, or one has been added, or one has moved on. -/
def CountsMoved (counts counts' : List StockCount) : Prop :=
  counts' = counts ∨ (∃ count, counts' = counts ++ [count]) ∨
    ∃ i old new, counts[i]? = some old ∧ ¬old.status.Terminal ∧ counts' = counts.set i new

section Moved

variable {db d db' : Db} {counts counts' : List StockCount} {status : StockCountStatus} {i : ℕ}

/-- A count that is posted or cancelled stays so. -/
theorem CountsMoved.terminal (h : CountsMoved counts counts') (hterminal : status.Terminal)
    (hi : HasAt counts (·.status) i status) : HasAt counts' (·.status) i status := by
  rcases h with rfl | ⟨count, rfl⟩ | ⟨j, old, new, hold, hmoving, rfl⟩
  · exact hi
  · exact hi.append _
  · refine hi.set_of_ne hold ?_
    rintro rfl
    exact hmoving hterminal

theorem moveStockCount_moved {req : MoveStockCount} {again : Option StockCountStatus}
    {allowed : List StockCountStatus} (h : moveStockCount db req again allowed status = .ok db')
    (hallowed : ∀ old ∈ allowed, ¬old.Terminal) : CountsMoved db.stock.counts db'.stock.counts := by
  rcases moveStockCount_ok h with rfl | ⟨count, hcount, hmem, rfl⟩
  · exact .inl rfl
  · exact .inr (.inr ⟨_, count, _, hcount, hallowed _ hmem, rfl⟩)

theorem postStockCount_moved {req : PostStockCount} (h : postStockCount db req = .ok db') :
    CountsMoved db.stock.counts db'.stock.counts := by
  obtain ⟨count, hcount, hcases⟩ := postStockCount_posted h
  rcases hcases with ⟨-, rfl⟩ | ⟨hreviewed, d, -, hd, rfl⟩
  · exact .inl rfl
  · refine .inr (.inr ⟨_, count, _, hcount, ?_, by rw [postCountLines_frame hd]⟩)
    rw [hreviewed]
    rintro (h | h) <;> cases h

/-- **No request moves a count that is posted or cancelled.** -/
theorem StockRequest.counts_moved {r : StockRequest} (h : r.run db = .ok db') :
    CountsMoved db.stock.counts db'.stock.counts := by
  cases r with
  | createStockCount req =>
    obtain ⟨⟨d, i⟩, hrun, rfl⟩ := map_eq_ok.mp h
    obtain ⟨lines, rfl, -⟩ := createStockCount_ok hrun
    exact .inr (.inl ⟨_, rfl⟩)
  | openStockCount req =>
    rcases openStockCount_opened h with rfl | ⟨count, lines, hcount, hdraft, -, rfl⟩
    · exact .inl rfl
    · refine .inr (.inr ⟨_, count, _, hcount, ?_, rfl⟩)
      rw [hdraft]
      rintro (h | h) <;> cases h
  | recordCountEntry req =>
    obtain ⟨lineId, line, row, -, -, -, -, rfl⟩ := recordCountEntry_ok h
    exact .inl rfl
  | markStockCountCounted req =>
    exact moveStockCount_moved h (by simp [StockCountStatus.Terminal])
  | reviewStockCount req => exact moveStockCount_moved h (by simp [StockCountStatus.Terminal])
  | reopenStockCountForRecount req =>
    exact moveStockCount_moved h (by simp [StockCountStatus.Terminal])
  | postStockCount req => exact postStockCount_moved h
  | cancelStockCount req => exact moveStockCount_moved h (by simp [StockCountStatus.Terminal])
  | _ => exact .inl (StockRequest.counts_kept id h).counts

/-- What is posted or cancelled stays so over any run. -/
theorem terminal_of_reaches (hterminal : status.Terminal)
    (hi : HasAt db.stock.counts (·.status) i status)
    (hrun : Reaches StockRequest.exec (fun _ _ => True) db db') :
    HasAt db'.stock.counts (·.status) i status := by
  refine hrun.invariant (I := fun d => HasAt d.stock.counts (·.status) i status) hi ?_
  intro s r s' hs _ hdone
  obtain ⟨d, hd, rfl⟩ := map_eq_ok.mp hdone
  exact (StockRequest.counts_moved hd).terminal hterminal hs

end Moved

/-! ### The invariant -/

/-- The count and the product a line is of. -/
def StockCountLine.key (l : StockCountLine) : ℕ × ℕ := (l.stockCountId, l.productId)

/-- Counts as every run keeps them: every line belongs to a count and has a key of its own, and the
adjustments of a count are made when it is posted. -/
structure CountsInOrder (s : StockTables) : Prop where
  owned : ∀ l ∈ s.countLines, l.val.stockCountId < s.counts.length
  distinct : (s.countLines.map (·.val.key)).Nodup
  counted : ∀ l ∈ s.countLines, ∀ q ∈ l.val.countedQuantity, OnGrid 3 q
  adjusted : ∀ a ∈ s.adjustments, ∀ c, a.val.stockCountId = some c →
    HasAt s.counts (·.status) c .posted

/-- Tables in which nothing has been counted yet. -/
structure Db.BeforeCounts (db : Db) : Prop where
  products : ∀ p ∈ db.stock.products, p.val.stored = p.val
  counts : db.stock.counts = []
  countLines : db.stock.countLines = []
  adjustments : ∀ a ∈ db.stock.adjustments, a.val.stockCountId = none

section InOrder

variable {db d db' : Db} {s t : StockTables}

theorem Db.BeforeCounts.inOrder (h : db.BeforeCounts) : CountsInOrder db.stock where
  owned := by simp [h.countLines]
  distinct := by simp [h.countLines]
  counted := by simp [h.countLines]
  adjusted := by
    intro a ha c hc
    rw [h.adjustments a ha] at hc
    cases hc

theorem CountsMoved.length_le {counts counts' : List StockCount} (h : CountsMoved counts counts') :
    counts.length ≤ counts'.length := by
  rcases h with rfl | ⟨count, rfl⟩ | ⟨j, old, new, -, -, rfl⟩
  · exact le_rfl
  · simp
  · simp

/-- A request that moves the counts and keeps lines and adjustments. -/
theorem CountsInOrder.moved (h : CountsInOrder s) (hcounts : CountsMoved s.counts t.counts)
    (hlines : t.countLines = s.countLines) (hadded : UncountedRows s t) : CountsInOrder t where
  owned := by
    intro l hl
    rw [hlines] at hl
    exact (h.owned l hl).trans_le hcounts.length_le
  distinct := hlines ▸ h.distinct
  counted := hlines ▸ h.counted
  adjusted := by
    obtain ⟨rows, hrows, hnone⟩ := hadded
    intro a ha c hc
    rw [hrows] at ha
    rcases List.mem_append.mp ha with ha | ha
    · exact hcounts.terminal (.inl rfl) (h.adjusted a ha c hc)
    · rw [hnone a ha] at hc
      cases hc

/-- So do those that write lines over, as long as these stay with their counts. -/
theorem CountsInOrder.overwritten (h : CountsInOrder s)
    {R : ℕ → Row StockCountLine → Row StockCountLine → Prop}
    (hcounts : CountsMoved s.counts t.counts) (hlines : Overwritten R s.countLines t.countLines)
    (hkey : ∀ i a b, R i a b → b.val.key = a.val.key)
    (hgrid : ∀ i a b, (∀ q ∈ a.val.countedQuantity, OnGrid 3 q) → R i a b →
      ∀ q ∈ b.val.countedQuantity, OnGrid 3 q)
    (hadded : t.adjustments = s.adjustments) : CountsInOrder t where
  owned := by
    refine hlines.forall_mem (P := fun l => l.val.stockCountId < s.counts.length) h.owned ?_
    intro i a b ha hab
    have hid : b.val.stockCountId = a.val.stockCountId := congrArg Prod.fst (hkey i a b hab)
    rw [hid]
    exact ha.trans_le hcounts.length_le
  distinct := by
    rw [hlines.map_eq hkey]
    exact h.distinct
  counted := hlines.forall_mem h.counted hgrid
  adjusted := by
    intro a ha c hc
    rw [hadded] at ha
    exact hcounts.terminal (.inl rfl) (h.adjusted a ha c hc)

theorem createStockCount_inOrder {req : CreateStockCount} {stockCountId : ℕ}
    (hdb : CountsInOrder db.stock) (h : createStockCount db req = .ok (db', stockCountId)) :
    CountsInOrder db'.stock := by
  obtain ⟨lines, rfl, hvals⟩ := createStockCount_lines h
  have hnew : ∀ l ∈ lines, ∃ productId, l.val = newCountLine db.stock.counts.length productId := by
    intro l hl
    have hmem : l.val ∈ lines.map (·.val) := List.mem_map_of_mem hl
    rw [hvals] at hmem
    obtain ⟨productId, -, hproduct⟩ := List.mem_map.mp hmem
    exact ⟨productId, hproduct.symm⟩
  refine ⟨?_, ?_, ?_, ?_⟩
  · intro l hl
    show l.val.stockCountId < (db.stock.counts ++ [_]).length
    rw [List.length_append, List.length_singleton]
    rcases List.mem_append.mp hl with hl | hl
    · exact (hdb.owned l hl).trans (Nat.lt_succ_self _)
    · obtain ⟨productId, hval⟩ := hnew l hl
      rw [hval]
      exact Nat.lt_succ_self _
  · show ((db.stock.countLines ++ lines).map (·.val.key)).Nodup
    have hkeys : lines.map (·.val.key)
        = (req.resolvedIds db).map fun productId => (db.stock.counts.length, productId) := by
      have hmapped := congrArg (List.map StockCountLine.key) hvals
      rw [List.map_map, List.map_map] at hmapped
      exact hmapped
    rw [List.map_append, List.nodup_append', hkeys]
    refine ⟨hdb.distinct, ?_, ?_⟩
    · exact (nodup_sortedIds _).map fun i j hij => congrArg Prod.snd hij
    · -- the lines that were there are of counts that were there
      intro key hold hfresh
      obtain ⟨l, hl, rfl⟩ := List.mem_map.mp hold
      obtain ⟨productId, -, hkey⟩ := List.mem_map.mp hfresh
      have hid : db.stock.counts.length = l.val.stockCountId := congrArg Prod.fst hkey
      exact absurd (hdb.owned l hl) (by omega)
  · intro l hl
    rcases List.mem_append.mp hl with hl | hl
    · exact hdb.counted l hl
    · obtain ⟨productId, hval⟩ := hnew l hl
      rw [hval]
      simp [newCountLine]
  · intro a ha c hc
    exact (hdb.adjusted a ha c hc).append _

theorem openStockCount_inOrder {req : MoveStockCount} (hdb : CountsInOrder db.stock)
    (h : openStockCount db req = .ok db') : CountsInOrder db'.stock := by
  have hmoved := StockRequest.counts_moved (r := .openStockCount req) h
  rcases openStockCount_opened h with rfl | ⟨count, lines, -, -, hlines, rfl⟩
  · exact hdb
  refine hdb.overwritten hmoved hlines ?_ ?_ rfl
  · intro i a b hab
    split at hab
    · obtain ⟨p, -, hb⟩ := hab
      rw [hb]
      rfl
    · rw [hab]
  · intro i a b ha hab
    split at hab
    · obtain ⟨p, -, hb⟩ := hab
      rw [hb]
      exact ha
    · rw [hab]
      exact ha

theorem recordCountEntry_inOrder {req : RecordCountEntry} (hdb : CountsInOrder db.stock)
    (h : recordCountEntry db req = .ok db') : CountsInOrder db'.stock := by
  obtain ⟨lineId, line, row, hline, hcount, hproduct, hcounted, rfl⟩ := recordCountEntry_ok h
  have hlines : Overwritten (fun _ a b => b.val.key = a.val.key ∧
      (b = a ∨ ∀ q ∈ b.val.countedQuantity, OnGrid 3 q)) db.stock.countLines
      (db.stock.countLines.set lineId row) := by
    refine (Overwritten.refl (R := fun _ a b => b = a) _ fun _ _ _ => rfl).set hline ?_ ?_
    · rintro a rfl
      refine ⟨congrArg₂ Prod.mk hcount hproduct, .inr fun q hq => ?_⟩
      rw [hcounted] at hq
      cases hq
      exact onGrid_numeric 3 _
    · rintro i a b - rfl
      exact ⟨rfl, .inl rfl⟩
  refine hdb.overwritten (.inl rfl) hlines (fun i a b hab => hab.1) ?_ rfl
  intro i a b ha hab
  rcases hab.2 with rfl | hgrid
  · exact ha
  · exact hgrid

theorem moveStockCount_inOrder {req : MoveStockCount} {again : Option StockCountStatus}
    {allowed : List StockCountStatus} {status : StockCountStatus} (hdb : CountsInOrder db.stock)
    (h : moveStockCount db req again allowed status = .ok db')
    (hallowed : ∀ old ∈ allowed, ¬old.Terminal) : CountsInOrder db'.stock := by
  have hmoved := moveStockCount_moved h hallowed
  rcases moveStockCount_ok h with rfl | ⟨count, -, -, rfl⟩
  · exact hdb
  · exact hdb.moved hmoved rfl (uncountedRows_of_eq rfl)

/-- The lines of a count are of distinct products. -/
theorem CountsInOrder.nodup_countedLines (h : CountsInOrder db.stock) (stockCountId : ℕ) :
    ((countedLines db stockCountId).map (·.val.productId)).Nodup := by
  have hperm : ((countLinesOf db stockCountId).map Prod.snd).Perm
      (db.stock.countLines.filter (·.val.stockCountId = stockCountId)) := by
    rw [← map_snd_rowsWhere]
    exact (List.perm_insertionSort _ _).map Prod.snd
  have hkeys : ((countedLines db stockCountId).map (·.val.key)).Nodup := by
    have hfiltered : ((db.stock.countLines.filter (·.val.stockCountId = stockCountId)).map
        (·.val.key)).Nodup := h.distinct.sublist (List.filter_sublist.map _)
    have hall := (hperm.map (·.val.key)).nodup_iff.mpr hfiltered
    exact hall.sublist (List.filter_sublist.map _)
  -- the count is the same for all of them, so the products differ
  refine List.Nodup.of_map (fun productId => (stockCountId, productId)) ?_
  rw [List.map_map]
  have hsame : (countedLines db stockCountId).map
      ((fun productId => (stockCountId, productId)) ∘ fun l => l.val.productId)
        = (countedLines db stockCountId).map (·.val.key) := by
    refine List.map_congr_left fun l hl => ?_
    show (stockCountId, l.val.productId) = (l.val.stockCountId, l.val.productId)
    rw [(mem_countedLines.mp hl).2.1]
  rw [hsame]
  exact hkeys

theorem postStockCount_inOrder {req : PostStockCount} (hdb : CountsInOrder db.stock)
    (h : postStockCount db req = .ok db') : CountsInOrder db'.stock := by
  have hmoved := postStockCount_moved h
  obtain ⟨count, hcount, hcases⟩ := postStockCount_posted h
  rcases hcases with ⟨-, rfl⟩ | ⟨hreviewed, d, -, hd, rfl⟩
  · exact hdb
  have hposted := postCountLines_posted hd (hdb.nodup_countedLines _)
  have hframe := postCountLines_frame hd
  have hcounts : d.stock.counts = db.stock.counts := by rw [hframe]
  have hlines : d.stock.countLines = db.stock.countLines := by rw [hframe]
  obtain ⟨rows, hrows, hvals⟩ := hposted.adjustments
  refine ⟨?_, ?_, ?_, ?_⟩
  · intro l hl
    change l ∈ d.stock.countLines at hl
    rw [hlines] at hl
    exact (hdb.owned l hl).trans_le hmoved.length_le
  · show (d.stock.countLines.map (·.val.key)).Nodup
    rw [hlines]
    exact hdb.distinct
  · intro l hl
    change l ∈ d.stock.countLines at hl
    rw [hlines] at hl
    exact hdb.counted l hl
  · intro a ha c hc
    change a ∈ d.stock.adjustments at ha
    rw [hrows] at ha
    rcases List.mem_append.mp ha with ha | ha
    · exact hmoved.terminal (.inl rfl) (hdb.adjusted a ha c hc)
    · -- the adjustments that are added are of the count that is posted
      have hmem : a.val ∈ rows.map (·.val) := List.mem_map_of_mem ha
      rw [hvals] at hmem
      obtain ⟨l, -, hl⟩ := List.mem_map.mp hmem
      rw [← hl] at hc
      cases hc
      refine ⟨{ count with status := .posted }, ?_, rfl⟩
      show (d.stock.counts.set req.stockCountId _)[req.stockCountId]? = _
      rw [hcounts, getElem?_set_of_some hcount, if_pos rfl]

/-- **Every request keeps the counts in order.** -/
theorem run_countsInOrder {r : StockRequest} (hdb : CountsInOrder db.stock)
    (h : r.run db = .ok db') : CountsInOrder db'.stock := by
  cases r with
  | createStockCount req =>
    obtain ⟨⟨d, i⟩, hrun, rfl⟩ := map_eq_ok.mp h
    exact createStockCount_inOrder hdb hrun
  | openStockCount req => exact openStockCount_inOrder hdb h
  | recordCountEntry req => exact recordCountEntry_inOrder hdb h
  | markStockCountCounted req =>
    exact moveStockCount_inOrder hdb h (by simp [StockCountStatus.Terminal])
  | reviewStockCount req => exact moveStockCount_inOrder hdb h (by simp [StockCountStatus.Terminal])
  | reopenStockCountForRecount req =>
    exact moveStockCount_inOrder hdb h (by simp [StockCountStatus.Terminal])
  | postStockCount req => exact postStockCount_inOrder hdb h
  | cancelStockCount req => exact moveStockCount_inOrder hdb h (by simp [StockCountStatus.Terminal])
  | _ =>
    have hkept := StockRequest.counts_kept id h
    exact hdb.moved (.inl hkept.counts) hkept.countLines hkept.adjustments

/-- Products as their columns keep them, and counts in order. -/
structure CountingInOrder (db : Db) : Prop where
  products : ∀ p ∈ db.stock.products, p.val.stored = p.val
  counts : CountsInOrder db.stock

theorem exec_countingInOrder {r : StockRequest} (hdb : CountingInOrder db)
    (h : r.exec db = .ok db') : CountingInOrder db' := by
  obtain ⟨d, hrun, rfl⟩ := map_eq_ok.mp h
  have hcounts := run_countsInOrder hdb.counts hrun
  exact ⟨(stored_commit d).products, hcounts.owned, hcounts.distinct, hcounts.counted,
    hcounts.adjusted⟩

theorem reaches_countingInOrder {db₀ : Db} (hstart : db₀.BeforeCounts)
    {ok : Db → StockRequest → Prop} (hrun : Reaches StockRequest.exec ok db₀ db) :
    CountingInOrder db :=
  hrun.invariant (I := CountingInOrder) ⟨hstart.products, hstart.inOrder⟩
    fun _ _ _ hs _ hdone => exec_countingInOrder hs hdone

end InOrder

/-! ### Posting -/

/-- The tables after a request: what it has written is committed if it succeeds, and rolled
back if it fails. -/
def StockRequest.after (r : StockRequest) (db : Db) : Db :=
  match r.exec db with
  | .ok db' => db'
  | .error _ => db

/-- The products and quantities of the adjustments that a count has made. -/
def adjustmentsOf (db : Db) (stockCountId : ℕ) : List (ℕ × ℚ) :=
  (db.stock.adjustments.filter (·.val.stockCountId = some stockCountId)).map fun a =>
    (a.val.productId, a.val.quantityDelta)

/-- A reviewed count has been posted: every product that was counted has the quantity that
was, and each variance has its one adjustment. -/
structure CountApplied (db db' : Db) (stockCountId : ℕ) : Prop where
  reviewed : HasAt db.stock.counts (·.status) stockCountId .reviewed
  posted : HasAt db'.stock.counts (·.status) stockCountId .posted
  counted : ∀ l ∈ db.stock.countLines, l.val.stockCountId = stockCountId →
    ∀ q, l.val.countedQuantity = some q →
      ∃ p, db'.stock.products[l.val.productId]? = some p ∧ p.val.currentQtyOnHand = q
  unadjusted : adjustmentsOf db stockCountId = []
  adjustments : adjustmentsOf db' stockCountId
    = ((countedLines db stockCountId).filter fun l => l.val.variance db ≠ 0).map fun l =>
        (l.val.productId, l.val.variance db)

/-- Stock and ledger are as they were, whatever became of the counts. -/
def SameBooks (db db' : Db) : Prop := db'.stock = db.stock ∧ db'.ledger = db.ledger

section Posting

variable {db₀ db db' : Db}

/-- A commit of tables that are stored changes no stock. -/
theorem sameBooks_commit (h : ∀ p ∈ db.stock.products, p.val.stored = p.val) :
    SameBooks db db.commit := by
  have hproducts : (db.stock.products.map fun p => (⟨p.val.stored, p.property.stored⟩ :
      Row Product)) = db.stock.products := by
    calc _ = db.stock.products.map id := List.map_congr_left fun p hp => Subtype.ext (h p hp)
      _ = db.stock.products := List.map_id _
  exact ⟨congrArg (fun products => { db.stock with products }) hproducts, rfl⟩

/-- What is counted and what is stored is in thousandths, so is what is between them. -/
theorem CountingInOrder.variance_stored (h : CountingInOrder db) {l : Row StockCountLine}
    (hl : l ∈ db.stock.countLines) : numeric 3 (l.val.variance db) = l.val.variance db := by
  apply numeric_eq_self
  unfold StockCountLine.variance
  apply OnGrid.sub
  · cases hq : l.val.countedQuantity with
    | none => exact onGrid_zero 3
    | some q => exact h.counts.counted l hl q hq
  · unfold bookQuantity
    cases hp : db.stock.products[l.val.productId]? with
    | none => exact onGrid_zero 3
    | some p =>
      have hstored := h.products p (mem_of_row hp)
      show OnGrid 3 p.val.currentQtyOnHand
      rw [← hstored]
      exact onGrid_numeric 3 _

theorem CountsInOrder.adjustmentsOf_eq_nil (h : CountsInOrder db.stock) {stockCountId : ℕ}
    (hcount : HasAt db.stock.counts (·.status) stockCountId .reviewed) :
    adjustmentsOf db stockCountId = [] := by
  have hnone : db.stock.adjustments.filter (·.val.stockCountId = some stockCountId) = [] := by
    rw [List.filter_eq_nil_iff]
    intro a ha hc
    have hposted := h.adjusted a ha stockCountId (of_decide_eq_true hc)
    cases hposted.unique hcount
  rw [adjustmentsOf, hnone]
  rfl

/-- **A posting that succeeds applies the count, or repeats one and changes nothing.** -/
theorem CountingInOrder.post (h : CountingInOrder db) {req : PostStockCount}
    (hdone : (StockRequest.postStockCount req).exec db = .ok db') :
    (HasAt db.stock.counts (·.status) req.stockCountId .posted ∧ SameBooks db db') ∨
      CountApplied db db' req.stockCountId := by
  obtain ⟨e, hrun, rfl⟩ := map_eq_ok.mp hdone
  obtain ⟨count, hcount, hcases⟩ := postStockCount_posted hrun
  -- a count that was posted before is left as it is
  rcases hcases with ⟨hposted, rfl⟩ | ⟨hreviewed, d, -, hd, rfl⟩
  · exact .inl ⟨⟨count, hcount, hposted⟩, sameBooks_commit h.products⟩
  have hlines := postCountLines_posted hd (h.counts.nodup_countedLines _)
  have hstatus : HasAt db.stock.counts (·.status) req.stockCountId .reviewed :=
    ⟨count, hcount, hreviewed⟩
  have hnone := h.counts.adjustmentsOf_eq_nil hstatus
  refine .inr ⟨hstatus, ?_, ?_, hnone, ?_⟩
  · refine ⟨{ count with status := .posted }, ?_, rfl⟩
    show (d.stock.counts.set req.stockCountId _)[req.stockCountId]? = _
    rw [postCountLines_frame hd]
    rw [getElem?_set_of_some hcount, if_pos rfl]
  · intro l hl hid q hq
    have hmem : l ∈ countedLines db req.stockCountId :=
      mem_countedLines.mpr ⟨hl, hid, by rw [hq]; rfl⟩
    obtain ⟨p, hp, hpq⟩ := hlines.counted l hmem q hq
    refine ⟨⟨p.val.stored, p.property.stored⟩, ?_, ?_⟩
    · show (d.stock.products.map _)[l.val.productId]? = _
      rw [List.getElem?_map, hp]
      rfl
    -- counted minus current is added to current, so the count itself is what is left on hand
    · show numeric 3 p.val.currentQtyOnHand = q
      rw [hpq]
      exact numeric_eq_self (h.counts.counted l hl q hq)
  · obtain ⟨rows, hrows, hvals⟩ := hlines.adjustments
    -- only a posting writes adjustments of a count, and this count has had none
    have hall : ∀ a ∈ rows, a.val.stockCountId = some req.stockCountId := by
      intro a ha
      have hmem : a.val ∈ rows.map (·.val) := List.mem_map_of_mem ha
      rw [hvals] at hmem
      obtain ⟨l, -, hl⟩ := List.mem_map.mp hmem
      rw [← hl]
      rfl
    have hadded : adjustmentsOf d req.stockCountId
        = rows.map fun a => (a.val.productId, a.val.quantityDelta) := by
      have hrest : db.stock.adjustments.filter (·.val.stockCountId = some req.stockCountId)
          = [] := List.map_eq_nil_iff.mp hnone
      rw [adjustmentsOf, hrows, List.filter_append, hrest, List.nil_append,
        List.filter_eq_self.mpr fun a ha => decide_eq_true (hall a ha)]
    show adjustmentsOf d req.stockCountId = _
    rw [hadded]
    have hpairs := congrArg (List.map fun a : StockAdjustment => (a.productId, a.quantityDelta))
      hvals
    rw [List.map_map, List.map_map] at hpairs
    refine hpairs.trans (List.map_congr_left fun l hl => ?_)
    have hmem := (mem_countedLines.mp (List.mem_of_mem_filter hl)).1
    exact congrArg (Prod.mk l.val.productId) (h.variance_stored hmem)

/-- **A posting applies the whole count, or leaves stock and ledger alone; a count that has been
posted is not applied again, and nothing moves one that is posted or cancelled.** -/
theorem stock_counts_all_or_nothing (hstart : db₀.BeforeCounts)
    (hrun : Reaches StockRequest.exec (fun _ _ => True) db₀ db) :
    (∀ req : PostStockCount,
      CountApplied db ((StockRequest.postStockCount req).after db) req.stockCountId ∨
        SameBooks db ((StockRequest.postStockCount req).after db)) ∧
    (∀ req : PostStockCount, HasAt db.stock.counts (·.status) req.stockCountId .posted →
      SameBooks db ((StockRequest.postStockCount req).after db)) ∧
    ∀ i (status : StockCountStatus), status.Terminal → HasAt db.stock.counts (·.status) i status →
      ∀ db', Reaches StockRequest.exec (fun _ _ => True) db db' →
        HasAt db'.stock.counts (·.status) i status := by
  have hdb := reaches_countingInOrder hstart hrun
  have hpost : ∀ req : PostStockCount,
      CountApplied db ((StockRequest.postStockCount req).after db) req.stockCountId ∨
        SameBooks db ((StockRequest.postStockCount req).after db) := by
    intro req
    unfold StockRequest.after
    split
    · next db' hdone =>
      rcases hdb.post hdone with ⟨-, hsame⟩ | happlied
      · exact .inr hsame
      · exact .inl happlied
    · exact .inr ⟨rfl, rfl⟩
  refine ⟨hpost, ?_, ?_⟩
  · intro req hposted
    rcases hpost req with happlied | hsame
    · cases happlied.reviewed.unique hposted
    · exact hsame
  · intro i status hterminal hi db' hruns
    exact terminal_of_reaches hterminal hi hruns

end Posting

/-! ### Apples that are counted -/

/-- The apples are to be counted. -/
def countApples : CreateStockCount where
  storeId := 0
  categoryId := none
  productIds := [0]
  callerStoreId := none

/-- So many apples are there, as somebody has counted them. -/
def enterApples (countedQuantity : ℚ) : RecordCountEntry where
  stockCountId := 0
  productId := 0
  countedQuantity := countedQuantity
  callerStoreId := none

def postApples : PostStockCount where
  stockCountId := 0
  callerStoreId := none
  today := 0

/-- Of seven apples five are there, and the count is reviewed. -/
def applesReviewed : Db :=
  value (([.createPurchaseOrder orderApples, .submitPurchaseOrder ⟨0, none⟩,
    .receiveGoods (deliverApples 7 1 "receipt-1"), .createStockCount countApples,
    .openStockCount ⟨0, none⟩, .recordCountEntry (enterApples 5), .markStockCountCounted ⟨0, none⟩,
    .reviewStockCount ⟨0, none⟩].foldlM (fun db r => StockRequest.exec r db) greengrocer))
    (by decide +kernel)

theorem greengrocer_beforeCounts : greengrocer.BeforeCounts where
  products := by decide +kernel
  counts := rfl
  countLines := rfl
  adjustments := by simp [greengrocer]

/-- The count is applied, with its one adjustment, and posting it again changes nothing. -/
theorem stock_counts_all_or_nothing_apples :
    CountApplied applesReviewed ((StockRequest.postStockCount postApples).after applesReviewed) 0 ∧
      adjustmentsOf ((StockRequest.postStockCount postApples).after applesReviewed) 0
        = [(0, -2)] := by
  have hrun : Reaches StockRequest.exec (fun _ _ => True) greengrocer applesReviewed :=
    reaches_of_foldlM (eq_ok_value _ _)
  refine ⟨?_, by decide +kernel⟩
  rcases (stock_counts_all_or_nothing greengrocer_beforeCounts hrun).1 postApples with
    happlied | hsame
  · exact happlied
  · have hquantity : bookQuantity ((StockRequest.postStockCount postApples).after applesReviewed) 0
        = bookQuantity applesReviewed 0 := by
      unfold bookQuantity
      rw [hsame.1]
    exact absurd hquantity (by decide +kernel)

end GroceryErp
