import GroceryErp.System.CountPostings

/-!
# What the books were when a line was counted

Beside the tables a trace keeps, for each line of a count, the quantity that was on the books
when the line was last counted.  A posting is right when it applies to each line what was
counted beyond that, so that what has moved since is still in the stock.

A recount takes a fresh snapshot, but the first entry of a line keeps the snapshot from the
opening, and the drift check compares the stock with nothing else.  What has moved between
opening and counting is therefore taken back by the posting once the stock has returned to
the snapshot.

## Main definitions

* `CountTrace`, `CountTrace.exec` — the tables with what the books were, and one request.
* `PostingRight`, `PostingsRight` — a posting is right, or any that could be made now.
* `CountTrace.CountsAtSnapshot` — a first entry is made while the books have the snapshot.

## Main results

* `posting_right_iff` — a posting is right just when every line that was counted only once
  was counted at its snapshot.
* `postings_right_iff` — over any run, and over runs whose first entries are so.
* `delivery_taken_back` — an apple that is delivered is taken back by a posting.

## References

`backend/app/modules/inventory/service.py`.
-/

namespace GroceryErp

open Decimal Outcome Rows Runs

/-! ### Traces -/

/-- The tables, and for each line the quantity on the books when it was last counted. -/
structure CountTrace where
  db : Db
  bookAtCount : ℕ → ℚ := fun _ => 0

/-- An entry notes the books for the line it is of. -/
def StockRequest.note (r : StockRequest) (db : Db) (noted : ℕ → ℚ) (lineId : ℕ) : ℚ :=
  match r, db.stock.countLines[lineId]? with
  | recordCountEntry req, some l =>
    if l.val.key = (req.stockCountId, req.productId) then bookQuantity db req.productId
    else noted lineId
  | _, _ => noted lineId

namespace CountTrace

/-- One request, committed, and what the system held when a line was counted. -/
def exec (r : StockRequest) (s : CountTrace) : Result CountTrace := do
  let db ← r.exec s.db
  return { db, bookAtCount := r.note s.db s.bookAtCount }

/-- The first entry of a line is made while the books have the quantity of its snapshot. -/
def CountsAtSnapshot (s : CountTrace) : StockRequest → Prop
  | .recordCountEntry req => ∀ l ∈ s.db.stock.countLines,
    l.val.key = (req.stockCountId, req.productId) → l.val.countedQuantity = none →
      l.val.expectedQuantity = some (bookQuantity s.db req.productId)
  | _ => True

instance decidableCountsAtSnapshot (s : CountTrace) (r : StockRequest) :
    Decidable (s.CountsAtSnapshot r) := by
  unfold CountsAtSnapshot
  split <;> infer_instance

theorem exec_ok {r : StockRequest} {s s' : CountTrace} (h : s.exec r = .ok s') :
    ∃ d, r.run s.db = .ok d ∧ s' = ⟨d.commit, r.note s.db s.bookAtCount⟩ := by
  unfold exec at h
  simp only [bind_eq_ok, pure_eq_ok] at h
  obtain ⟨db, hdb, rfl⟩ := h
  obtain ⟨d, hd, rfl⟩ := map_eq_ok.mp hdb
  exact ⟨d, hd, rfl⟩

end CountTrace

/-! ### Right postings -/

/-- What the adjustments of a count come to for a product. -/
def appliedVariance (db : Db) (stockCountId productId : ℕ) : ℚ :=
  sumWhere (·.1 = productId) Prod.snd (adjustmentsOf db stockCountId)

/-- The posting that takes the tables to `db'` has applied to each counted line what was
counted beyond the books when it was last counted, and what has moved since is kept. -/
def PostingRight (s : CountTrace) (db' : Db) (stockCountId : ℕ) : Prop :=
  ∀ i l, s.db.stock.countLines[i]? = some l → l.val.stockCountId = stockCountId →
    ∀ q, l.val.countedQuantity = some q →
      appliedVariance db' stockCountId l.val.productId = q - s.bookAtCount i ∧
      bookQuantity db' l.val.productId
        = q + (bookQuantity s.db l.val.productId - s.bookAtCount i)

/-- Every posting of a reviewed count that could be made now is right. -/
def PostingsRight (s : CountTrace) : Prop :=
  ∀ req db', (StockRequest.postStockCount req).exec s.db = .ok db' →
    HasAt s.db.stock.counts (·.status) req.stockCountId .reviewed →
      PostingRight s db' req.stockCountId

/-! ### The invariant -/

/-- Lines are numbered by their entries, none is counted before its count is opened, and a
line that was counted again has the snapshot of its last count. -/
structure CountTrace.Noted (s : CountTrace) : Prop where
  inOrder : CountingInOrder s.db
  drafts : ∀ l ∈ s.db.stock.countLines, l.val.recountNumber ≠ 0 →
    ¬HasAt s.db.stock.counts (·.status) l.val.stockCountId .draft
  numbered : ∀ l ∈ s.db.stock.countLines, l.val.countedQuantity = none ↔ l.val.recountNumber = 0
  recounted : ∀ i l, s.db.stock.countLines[i]? = some l → 2 ≤ l.val.recountNumber →
    l.val.expectedQuantity = some (s.bookAtCount i)

/-- So has every line that was counted. -/
def CountTrace.NotedAll (s : CountTrace) : Prop :=
  ∀ i l, s.db.stock.countLines[i]? = some l → l.val.recountNumber ≠ 0 →
    l.val.expectedQuantity = some (s.bookAtCount i)

section Invariant

variable {db d db' : Db} {noted : ℕ → ℚ} {r : StockRequest}

/-- Only entries note anything: every other request leaves the quantities at the count as they were.
-/
theorem StockRequest.note_of_not (hr : ∀ req, r ≠ .recordCountEntry req) :
    r.note db noted = noted := by
  funext i
  unfold StockRequest.note
  split
  · exact absurd rfl (hr _)
  · rfl

/-- What a request keeps that writes no line: the numbers, and the snapshots. -/
theorem CountTrace.Noted.kept {s : CountTrace} (h : s.Noted) (hd : CountingInOrder d.commit)
    (hlines : d.stock.countLines = s.db.stock.countLines)
    (hdrafts : ∀ i, i < s.db.stock.counts.length → HasAt d.stock.counts (·.status) i .draft →
      HasAt s.db.stock.counts (·.status) i .draft) :
    CountTrace.Noted ⟨d.commit, s.bookAtCount⟩ where
  inOrder := hd
  drafts := by
    intro l hl hnumber hdraft
    change l ∈ d.stock.countLines at hl
    rw [hlines] at hl
    exact h.drafts l hl hnumber (hdrafts _ (h.inOrder.counts.owned l hl) hdraft)
  numbered := by
    intro l hl
    change l ∈ d.stock.countLines at hl
    rw [hlines] at hl
    exact h.numbered l hl
  recounted := by
    intro i l hl
    change d.stock.countLines[i]? = some l at hl
    rw [hlines] at hl
    exact h.recounted i l hl

/-- A count that is moved on is no draft. -/
theorem moveStockCount_drafts {req : MoveStockCount} {again : Option StockCountStatus}
    {allowed : List StockCountStatus} {status : StockCountStatus} (hstatus : status ≠ .draft)
    (h : moveStockCount db req again allowed status = .ok db') {i : ℕ}
    (hi : HasAt db'.stock.counts (·.status) i .draft) : HasAt db.stock.counts (·.status) i .draft := by
  rcases moveStockCount_ok h with rfl | ⟨count, hcount, -, rfl⟩
  · exact hi
  · obtain ⟨c, hc, hdraft⟩ := hi
    change (db.stock.counts.set req.stockCountId _)[i]? = some c at hc
    rw [getElem?_set_of_some hcount] at hc
    split at hc
    · cases hc
      exact absurd hdraft hstatus
    · exact ⟨c, hc, hdraft⟩

/-! #### The requests that write lines -/

variable {s s' : CountTrace}

theorem createStockCount_noted {req : CreateStockCount} {stockCountId : ℕ} (h : s.Noted)
    (hd : CountingInOrder d.commit) (hdone : createStockCount s.db req = .ok (d, stockCountId)) :
    CountTrace.Noted ⟨d.commit, s.bookAtCount⟩ := by
  obtain ⟨lines, rfl, hvals⟩ := createStockCount_lines hdone
  have hnew : ∀ l ∈ lines, l.val.recountNumber = 0 ∧ l.val.countedQuantity = none := by
    intro l hl
    have hmem : l.val ∈ lines.map (·.val) := List.mem_map_of_mem hl
    rw [hvals] at hmem
    obtain ⟨productId, -, hproduct⟩ := List.mem_map.mp hmem
    rw [← hproduct]
    exact ⟨rfl, rfl⟩
  refine ⟨hd, ?_, ?_, ?_⟩
  · intro l hl hnumber hdraft
    -- lines of another count were in the table before, and their count kept its status
    rcases List.mem_append.mp hl with hl | hl
    · apply h.drafts l hl hnumber
      obtain ⟨c, hc, hstatus⟩ := hdraft
      change (s.db.stock.counts ++ [_])[l.val.stockCountId]? = some c at hc
      rw [List.getElem?_append_left (h.inOrder.counts.owned l hl)] at hc
      exact ⟨c, hc, hstatus⟩
    · exact absurd (hnew l hl).1 hnumber
  · intro l hl
    rcases List.mem_append.mp hl with hl | hl
    · exact h.numbered l hl
    · simp [hnew l hl]
  -- a line of the new count has not been counted yet
  · intro i l hl hnumber
    change (s.db.stock.countLines ++ lines)[i]? = some l at hl
    rw [List.getElem?_append] at hl
    split at hl
    · exact h.recounted i l hl hnumber
    · have hzero := (hnew l (List.mem_of_getElem? hl)).1
      omega

theorem openStockCount_noted {req : MoveStockCount} (h : s.Noted)
    (hd : CountingInOrder d.commit) (hdone : openStockCount s.db req = .ok d) :
    CountTrace.Noted ⟨d.commit, s.bookAtCount⟩ := by
  rcases openStockCount_opened hdone with rfl | ⟨count, lines, hcount, hdraft, hlines, rfl⟩
  · exact h.kept hd rfl fun _ _ hi => hi
  -- no line of a draft has been counted, and what a snapshot leaves of a line
  have huncounted : ∀ l ∈ s.db.stock.countLines, l.val.stockCountId = req.stockCountId →
      l.val.recountNumber = 0 := by
    intro l hl hid
    by_contra hnumber
    apply h.drafts l hl hnumber
    rw [hid]
    exact ⟨count, hcount, hdraft⟩
  have hrow : ∀ (i : ℕ) (b : Row StockCountLine), lines[i]? = some b →
      ∃ a : Row StockCountLine, s.db.stock.countLines[i]? = some a ∧
      b.val.stockCountId = a.val.stockCountId ∧ b.val.recountNumber = a.val.recountNumber ∧
      b.val.countedQuantity = a.val.countedQuantity ∧
      (a.val.recountNumber ≠ 0 → b.val.expectedQuantity = a.val.expectedQuantity) := by
    intro i b hb
    obtain ⟨a, ha, hab⟩ := hlines.row hb
    refine ⟨a, ha, ?_⟩
    split at hab
    · next hid =>
      obtain ⟨p, -, hval⟩ := hab
      rw [hval]
      exact ⟨rfl, rfl, rfl, fun hnumber => absurd (huncounted a (mem_of_row ha) hid) hnumber⟩
    · rw [hab]
      exact ⟨rfl, rfl, rfl, fun _ => rfl⟩
  refine ⟨hd, ?_, ?_, ?_⟩
  · intro b hb hnumber hstill
    obtain ⟨i, hi⟩ := List.getElem?_of_mem hb
    obtain ⟨a, ha, hid, hsame, -⟩ := hrow i b hi
    apply h.drafts a (mem_of_row ha) (hsame ▸ hnumber)
    obtain ⟨c, hc, hstatus⟩ := hstill
    change (s.db.stock.counts.set req.stockCountId _)[b.val.stockCountId]? = some c at hc
    rw [getElem?_set_of_some hcount, hid] at hc
    split at hc
    · cases hc
      cases hstatus
    · exact ⟨c, hc, hstatus⟩
  · intro b hb
    obtain ⟨i, hi⟩ := List.getElem?_of_mem hb
    obtain ⟨a, ha, -, hsame, hcounted, -⟩ := hrow i b hi
    rw [hcounted, hsame]
    exact h.numbered a (mem_of_row ha)
  · intro i b hb hnumber
    obtain ⟨a, ha, -, hsame, -, hexpected⟩ := hrow i b hb
    rw [hsame] at hnumber
    rw [hexpected (by omega)]
    exact h.recounted i a ha hnumber

/-- The quantity on the books is what a snapshot of the product keeps. -/
theorem CountingInOrder.snapshot (h : CountingInOrder db) {p : Row Product} {productId : ℕ}
    (hp : db.stock.products[productId]? = some p) :
    numeric 3 p.val.currentQtyOnHand = bookQuantity db productId := by
  rw [bookQuantity_of_row hp]
  exact congrArg Product.currentQtyOnHand (h.products p (mem_of_row hp))

/-- What an entry makes of the line it is of. -/
structure StockCountLine.Entered (db : Db) (req : RecordCountEntry) (a b : StockCountLine) :
    Prop where
  key : a.key = (req.stockCountId, req.productId)
  number : b.recountNumber = a.recountNumber + 1
  counted : b.countedQuantity ≠ none
  expected : b.expectedQuantity = if a.countedQuantity = none then a.expectedQuantity
    else some (bookQuantity db req.productId)

/-- An entry leaves the other lines as they are. -/
theorem recordCountEntry_line {req : RecordCountEntry} (h : s.Noted)
    (hdone : recordCountEntry s.db req = .ok d) :
    d.stock.counts = s.db.stock.counts ∧
      ¬HasAt s.db.stock.counts (·.status) req.stockCountId .draft ∧
      ∀ (i : ℕ) (b : Row StockCountLine), d.stock.countLines[i]? = some b →
        ∃ a : Row StockCountLine, s.db.stock.countLines[i]? = some a ∧ b.val.key = a.val.key ∧
          (a.val.Entered s.db req b.val ∨
            a.val.key ≠ (req.stockCountId, req.productId) ∧ b = a) := by
  obtain ⟨count, lineId, line, recounted, row, hcount, hstatus, hfound, hrecount, hrow, rfl⟩ :=
    recordCountEntry_written hdone
  -- a count has one line for a product
  have hmatch : ∀ (j : ℕ) (k : Row StockCountLine), s.db.stock.countLines[j]? = some k →
      (k.val.key = (req.stockCountId, req.productId) ↔ (j, k) = (lineId, line)) := by
    intro j k hk
    have hmem : (j, k) ∈ rowsWhere (fun l : Row StockCountLine =>
        l.val.stockCountId = req.stockCountId ∧ l.val.productId = req.productId)
        s.db.stock.countLines ↔ (j, k) = (lineId, line) := by
      rw [hfound, List.mem_singleton]
    rw [← hmem, mem_rowsWhere, and_iff_right hk]
    exact Prod.mk_inj
  have hline : s.db.stock.countLines[lineId]? = some line ∧
      line.val.stockCountId = req.stockCountId ∧ line.val.productId = req.productId := by
    have hmem : (lineId, line) ∈ rowsWhere (fun l : Row StockCountLine =>
        l.val.stockCountId = req.stockCountId ∧ l.val.productId = req.productId)
        s.db.stock.countLines := by
      rw [hfound]
      exact List.mem_cons_self
    exact mem_rowsWhere.mp hmem
  refine ⟨rfl, ?_, ?_⟩
  · rintro ⟨c, hc, hdraft⟩
    obtain rfl : count = c := Option.some.inj (hcount.symm.trans hc)
    change count.status = .draft at hdraft
    rw [hdraft] at hstatus
    simp at hstatus
  intro i b hb
  change (s.db.stock.countLines.set lineId row)[i]? = some b at hb
  rw [getElem?_set_of_some hline.1] at hb
  split at hb
  · next hi =>
    cases hb
    subst hi
    refine ⟨line, hline.1, ?_⟩
    have hkey : line.val.key = (req.stockCountId, req.productId) :=
      Prod.ext hline.2.1 hline.2.2
    rw [hrow]
    -- the first entry of a line keeps the snapshot, every later one takes a new one
    unfold recountLine at hrecount
    split at hrecount
    · next hfirst =>
      rw [pure_eq_ok] at hrecount
      subst hrecount
      refine ⟨rfl, .inl ⟨hkey, rfl, Option.some_ne_none _, ?_⟩⟩
      rw [if_pos hfirst]
      rfl
    · next hagain =>
      simp only [bind_eq_ok, orRaise_eq_ok, pure_eq_ok] at hrecount
      obtain ⟨p, hp, rfl⟩ := hrecount
      refine ⟨rfl, .inl ⟨hkey, rfl, Option.some_ne_none _, ?_⟩⟩
      rw [if_neg hagain, ← hline.2.2, ← h.inOrder.snapshot hp]
      rfl
  · next hi =>
    refine ⟨b, hb, rfl, .inr ⟨?_, rfl⟩⟩
    intro hkey
    exact hi (congrArg Prod.fst ((hmatch i b hb).mp hkey)).symm

theorem recordCountEntry_noted {req : RecordCountEntry} (h : s.Noted)
    (hd : CountingInOrder d.commit) (hdone : recordCountEntry s.db req = .ok d) :
    CountTrace.Noted ⟨d.commit,
      (StockRequest.recordCountEntry req).note s.db s.bookAtCount⟩ := by
  obtain ⟨hcounts, hopen, hrow⟩ := recordCountEntry_line h hdone
  refine ⟨hd, ?_, ?_, ?_⟩
  · intro b hb hnumber hdraft
    obtain ⟨i, hi⟩ := List.getElem?_of_mem hb
    obtain ⟨a, ha, hkey, hcases⟩ := hrow i b hi
    have hid : b.val.stockCountId = a.val.stockCountId := congrArg Prod.fst hkey
    change HasAt d.stock.counts (·.status) b.val.stockCountId .draft at hdraft
    rw [hcounts, hid] at hdraft
    rcases hcases with hentered | ⟨-, rfl⟩
    · have hcount : a.val.stockCountId = req.stockCountId := congrArg Prod.fst hentered.key
      exact hopen (hcount ▸ hdraft)
    · exact h.drafts b (mem_of_row ha) hnumber hdraft
  · intro b hb
    obtain ⟨i, hi⟩ := List.getElem?_of_mem hb
    obtain ⟨a, ha, -, hcases⟩ := hrow i b hi
    rcases hcases with hentered | ⟨-, rfl⟩
    · rw [hentered.number]
      simp [hentered.counted]
    · exact h.numbered b (mem_of_row ha)
  · intro i b hb hnumber
    obtain ⟨a, ha, -, hcases⟩ := hrow i b hb
    simp only [StockRequest.note, ha]
    rcases hcases with hentered | ⟨hkey, rfl⟩
    · have hnext : b.val.recountNumber = a.val.recountNumber + 1 := hentered.number
      rw [if_pos hentered.key, hentered.expected, if_neg]
      -- the line has been counted before
      rw [h.numbered a (mem_of_row ha)]
      omega
    · rw [if_neg hkey]
      exact h.recounted i b ha hnumber

/-- **Every request keeps what is noted.** -/
theorem exec_noted (h : s.Noted) (hdone : s.exec r = .ok s') : s'.Noted := by
  obtain ⟨d, hrun, rfl⟩ := CountTrace.exec_ok hdone
  have hd : CountingInOrder d.commit :=
    exec_countingInOrder h.inOrder (map_eq_ok.mpr ⟨d, hrun, rfl⟩)
  -- a move to another status makes no draft and leaves the lines
  have hmoved : ∀ {req : MoveStockCount} {again : Option StockCountStatus}
      {allowed : List StockCountStatus} {status : StockCountStatus}, status ≠ .draft →
      moveStockCount s.db req again allowed status = .ok d →
        CountTrace.Noted ⟨d.commit, s.bookAtCount⟩ := by
    intro req again allowed status hstatus hrun
    refine h.kept hd ?_ fun i _ hi => moveStockCount_drafts hstatus hrun hi
    rcases moveStockCount_ok hrun with rfl | ⟨count, -, -, rfl⟩
    · rfl
    · rfl
  cases r with
  | createStockCount req =>
    rw [StockRequest.note_of_not (by simp)]
    obtain ⟨⟨d, i⟩, hmade, rfl⟩ := map_eq_ok.mp hrun
    exact createStockCount_noted h hd hmade
  | openStockCount req =>
    rw [StockRequest.note_of_not (by simp)]
    exact openStockCount_noted h hd hrun
  | recordCountEntry req => exact recordCountEntry_noted h hd hrun
  | markStockCountCounted req =>
    rw [StockRequest.note_of_not (by simp)]
    exact hmoved (by decide) hrun
  | reviewStockCount req =>
    rw [StockRequest.note_of_not (by simp)]
    exact hmoved (by decide) hrun
  | reopenStockCountForRecount req =>
    rw [StockRequest.note_of_not (by simp)]
    exact hmoved (by decide) hrun
  | cancelStockCount req =>
    rw [StockRequest.note_of_not (by simp)]
    exact hmoved (by decide) hrun
  | postStockCount req =>
    rw [StockRequest.note_of_not (by simp)]
    obtain ⟨count, hcount, hcases⟩ := postStockCount_posted hrun
    rcases hcases with ⟨-, rfl⟩ | ⟨-, e, -, he, rfl⟩
    · exact h.kept hd rfl fun _ _ hi => hi
    -- a posting writes stock and the status, and a posted count is no draft
    have hframe := postCountLines_frame he
    refine h.kept hd (by rw [hframe]) fun i _ hi => ?_
    obtain ⟨c, hc, hdraft⟩ := hi
    change (e.stock.counts.set req.stockCountId _)[i]? = some c at hc
    rw [hframe, getElem?_set_of_some hcount] at hc
    split at hc
    · cases hc
      cases hdraft
    · exact ⟨c, hc, hdraft⟩
  | _ =>
    rw [StockRequest.note_of_not (by simp)]
    have hkept := StockRequest.counts_kept id hrun
    exact h.kept hd hkept.countLines fun i _ hi => hkept.counts ▸ hi

/-- Where first entries are made at the snapshot, every counted line has what is noted. -/
theorem exec_notedAll (h : s.Noted) (hall : s.NotedAll) (hr : s.CountsAtSnapshot r)
    (hdone : s.exec r = .ok s') : s'.NotedAll := by
  have hnoted := exec_noted h hdone
  intro i l hl hnumber
  -- only a line that was counted once is left to look at
  by_cases hagain : 2 ≤ l.val.recountNumber
  · exact hnoted.recounted i l hl hagain
  obtain ⟨d, hrun, rfl⟩ := CountTrace.exec_ok hdone
  change d.stock.countLines[i]? = some l at hl
  have hkept : d.stock.countLines = s.db.stock.countLines → (∀ req, r ≠ .recordCountEntry req) →
      l.val.expectedQuantity = some (r.note s.db s.bookAtCount i) := by
    intro hlines hentry
    rw [StockRequest.note_of_not hentry]
    exact hall i l (hlines ▸ hl) hnumber
  have hmoved : ∀ {req : MoveStockCount} {again : Option StockCountStatus}
      {allowed : List StockCountStatus} {status : StockCountStatus},
      moveStockCount s.db req again allowed status = .ok d →
        d.stock.countLines = s.db.stock.countLines := by
    intro req again allowed status hrun
    rcases moveStockCount_ok hrun with rfl | ⟨count, -, -, rfl⟩
    · rfl
    · rfl
  cases r with
  | createStockCount req =>
    rw [StockRequest.note_of_not (by simp)]
    obtain ⟨⟨d, k⟩, hmade, rfl⟩ := map_eq_ok.mp hrun
    obtain ⟨lines, rfl, hvals⟩ := createStockCount_lines hmade
    change (s.db.stock.countLines ++ lines)[i]? = some l at hl
    rw [List.getElem?_append] at hl
    split at hl
    · exact hall i l hl hnumber
    · have hmem : l.val ∈ lines.map (·.val) := List.mem_map_of_mem (List.mem_of_getElem? hl)
      rw [hvals] at hmem
      obtain ⟨productId, -, hproduct⟩ := List.mem_map.mp hmem
      rw [← hproduct] at hnumber
      exact absurd rfl hnumber
  | openStockCount req =>
    rw [StockRequest.note_of_not (by simp)]
    rcases openStockCount_opened hrun with rfl | ⟨count, lines, hcount, hdraft, hlines, rfl⟩
    · exact hall i l hl hnumber
    obtain ⟨a, ha, hab⟩ := hlines.row hl
    split at hab
    · next hid =>
      obtain ⟨p, -, hval⟩ := hab
      rw [hval] at hnumber
      exact absurd ⟨count, hid ▸ hcount, hdraft⟩ (h.drafts a (mem_of_row ha) hnumber)
    · rw [hab] at hnumber ⊢
      exact hall i a ha hnumber
  | recordCountEntry req =>
    obtain ⟨-, -, hrow⟩ := recordCountEntry_line h hrun
    obtain ⟨a, ha, -, hcases⟩ := hrow i l hl
    simp only [StockRequest.note, ha]
    rcases hcases with hentered | ⟨hkey, rfl⟩
    · have hnext : l.val.recountNumber = a.val.recountNumber + 1 := hentered.number
      have hfirst : a.val.countedQuantity = none := by
        rw [h.numbered a (mem_of_row ha)]
        omega
      rw [if_pos hentered.key, hentered.expected, if_pos hfirst]
      exact hr a (mem_of_row ha) hentered.key hfirst
    · rw [if_neg hkey]
      exact hall i l ha hnumber
  | markStockCountCounted req => exact hkept (hmoved hrun) (by simp)
  | reviewStockCount req => exact hkept (hmoved hrun) (by simp)
  | reopenStockCountForRecount req => exact hkept (hmoved hrun) (by simp)
  | cancelStockCount req => exact hkept (hmoved hrun) (by simp)
  | postStockCount req =>
    refine hkept ?_ (by simp)
    obtain ⟨count, -, hcases⟩ := postStockCount_posted hrun
    rcases hcases with ⟨-, rfl⟩ | ⟨-, e, -, he, rfl⟩
    · rfl
    · rw [postCountLines_frame he]
  | _ => exact hkept (StockRequest.counts_kept id hrun).countLines (by simp)

end Invariant

/-! ### Postings -/

section Postings

variable {db db' : Db} {s : CountTrace}

/-- What has been posted of a line is its variance. -/
theorem CountApplied.appliedVariance_eq {stockCountId : ℕ} (h : CountApplied db db' stockCountId)
    (hdb : CountingInOrder db) {l : Row StockCountLine} (hl : l ∈ countedLines db stockCountId) :
    appliedVariance db' stockCountId l.val.productId = l.val.variance db := by
  rw [appliedVariance, h.adjustments,
    sumWhere_map (fun a : ℕ × ℚ => a.1 = l.val.productId), sumWhere_filter]
  -- the lines are of distinct products, and those without a variance add nothing
  have hkey := sumWhere_key (f := fun k : Row StockCountLine => k.val.variance db)
    (hdb.counts.nodup_countedLines stockCountId) hl
  rw [← hkey, sumWhere_eq_sum_map, sumWhere_eq_sum_map]
  congr 1
  apply List.map_congr_left
  intro k _
  by_cases hzero : k.val.variance db = 0
  · simp [hzero]
  · simp [hzero]

/-- **A posting is right just when every line that was counted only once was counted while
the books had the quantity of its snapshot.** -/
theorem posting_right_iff (h : s.Noted) {req : PostStockCount}
    (hdone : (StockRequest.postStockCount req).exec s.db = .ok db')
    (hreviewed : HasAt s.db.stock.counts (·.status) req.stockCountId .reviewed) :
    PostingRight s db' req.stockCountId ↔
      ∀ i l, s.db.stock.countLines[i]? = some l → l.val.stockCountId = req.stockCountId →
        l.val.recountNumber = 1 → l.val.expectedQuantity = some (s.bookAtCount i) := by
  have happlied : CountApplied s.db db' req.stockCountId := by
    rcases h.inOrder.post hdone with ⟨hposted, -⟩ | happlied
    · cases hposted.unique hreviewed
    · exact happlied
  -- no counted line has drifted from its snapshot
  have hbook : ∀ l ∈ countedLines s.db req.stockCountId,
      l.val.expectedQuantity = some (bookQuantity s.db l.val.productId) := by
    obtain ⟨e, hrun, -⟩ := map_eq_ok.mp hdone
    obtain ⟨count, hcount, hcases⟩ := postStockCount_posted hrun
    rcases hcases with ⟨hposted, -⟩ | ⟨-, d, hdrift, -, -⟩
    · cases HasAt.unique ⟨count, hcount, hposted⟩ hreviewed
    intro l hl
    have hcheck := hdrift l hl
    unfold checkDrift at hcheck
    simp only [bind_eq_ok, orRaise_eq_ok, raiseIf_eq_ok, ne_eq, not_not] at hcheck
    obtain ⟨p, hp, expected, hexpected, heq⟩ := hcheck
    rw [hexpected, bookQuantity_of_row hp, heq]
  have hline : ∀ i l, s.db.stock.countLines[i]? = some l →
      l.val.stockCountId = req.stockCountId → ∀ q, l.val.countedQuantity = some q →
        ((appliedVariance db' req.stockCountId l.val.productId = q - s.bookAtCount i ∧
          bookQuantity db' l.val.productId
            = q + (bookQuantity s.db l.val.productId - s.bookAtCount i)) ↔
          l.val.expectedQuantity = some (s.bookAtCount i)) := by
    intro i l hl hid q hq
    have hmem : l ∈ countedLines s.db req.stockCountId :=
      mem_countedLines.mpr ⟨mem_of_row hl, hid, by rw [hq]; rfl⟩
    obtain ⟨p, hp, hpq⟩ := happlied.counted l (mem_of_row hl) hid q hq
    rw [happlied.appliedVariance_eq h.inOrder hmem, StockCountLine.variance, hq,
      bookQuantity_of_row hp, hpq, hbook l hmem, Option.some.injEq, Option.getD_some]
    constructor
    · rintro ⟨hvariance, -⟩
      linarith
    · intro heq
      rw [heq]
      exact ⟨rfl, by ring⟩
  have hcounted : ∀ l ∈ s.db.stock.countLines, l.val.recountNumber ≠ 0 →
      ∃ q, l.val.countedQuantity = some q := by
    intro l hl hnumber
    cases hq : l.val.countedQuantity with
    | none => exact absurd ((h.numbered l hl).mp hq) hnumber
    | some q => exact ⟨q, rfl⟩
  constructor
  · intro hright i l hl hid hnumber
    obtain ⟨q, hq⟩ := hcounted l (mem_of_row hl) (by omega)
    exact (hline i l hl hid q hq).mp (hright i l hl hid q hq)
  · intro honce i l hl hid q hq
    rw [hline i l hl hid q hq]
    by_cases hagain : 2 ≤ l.val.recountNumber
    · exact h.recounted i l hl hagain
    · refine honce i l hl hid ?_
      have hnonzero : l.val.recountNumber ≠ 0 := by
        intro hzero
        rw [(h.numbered l (mem_of_row hl)).mpr hzero] at hq
        cases hq
      omega

theorem Db.BeforeCounts.noted {db₀ : Db} (h : db₀.BeforeCounts) :
    CountTrace.Noted { db := db₀ } where
  inOrder := ⟨h.products, h.inOrder⟩
  drafts := by simp [h.countLines]
  numbered := by simp [h.countLines]
  recounted := by simp [h.countLines]

/-- **Over runs whose first entries are made at the snapshot every posting is right; over any
run a posting is just when the lines it has that were counted only once were.** -/
theorem postings_right_iff {db₀ : Db} (hstart : db₀.BeforeCounts) :
    (∀ s, Reaches CountTrace.exec CountTrace.CountsAtSnapshot { db := db₀ } s →
      PostingsRight s) ∧
    ∀ s, Reaches CountTrace.exec (fun _ _ => True) { db := db₀ } s →
      ∀ req db', (StockRequest.postStockCount req).exec s.db = .ok db' →
        HasAt s.db.stock.counts (·.status) req.stockCountId .reviewed →
          (PostingRight s db' req.stockCountId ↔
            ∀ i l, s.db.stock.countLines[i]? = some l → l.val.stockCountId = req.stockCountId →
              l.val.recountNumber = 1 → l.val.expectedQuantity = some (s.bookAtCount i)) := by
  constructor
  · intro s hrun req db' hdone hreviewed
    have hboth : s.Noted ∧ s.NotedAll := by
      refine hrun.invariant (I := fun s => s.Noted ∧ s.NotedAll) ⟨hstart.noted, ?_⟩ ?_
      · intro i l hl
        rw [hstart.countLines] at hl
        cases hl
      · intro t r t' ht hr hstep
        exact ⟨exec_noted ht.1 hstep, exec_notedAll ht.1 ht.2 hr hstep⟩
    rw [posting_right_iff hboth.1 hdone hreviewed]
    intro i l hl _ hnumber
    exact hboth.2 i l hl (by omega)
  · intro s hrun req db' hdone hreviewed
    have hnoted : s.Noted := hrun.invariant (I := CountTrace.Noted) hstart.noted
      fun _ _ _ ht _ hstep => exec_noted ht hstep
    exact posting_right_iff hnoted hdone hreviewed

end Postings

/-! ### Apples that come and go -/

/-- Seven apples are delivered, a count of them is opened, and in the end it is reviewed. -/
def openApples (entries : List StockRequest) : List StockRequest :=
  [.createPurchaseOrder orderApples, .submitPurchaseOrder ⟨0, none⟩,
    .receiveGoods (deliverApples 7 1 "receipt-1"), .createStockCount countApples,
    .openStockCount ⟨0, none⟩] ++ entries
    ++ [.markStockCountCounted ⟨0, none⟩, .reviewStockCount ⟨0, none⟩]

/-- Five are counted at once, before anything moves. -/
def countedAtOnce : CountTrace :=
  value ((openApples [.recordCountEntry (enterApples 5)]).foldlM
    (guarded CountTrace.exec CountTrace.CountsAtSnapshot .assertion) { db := greengrocer })
    (by decide +kernel)

/-- One is sold and six are counted; then one more is delivered. -/
def countedAfterSale : CountTrace :=
  value ((openApples [.finalizeSale sellApple, .recordCountEntry (enterApples 6),
    .receiveGoods (deliverApples 1 1 "receipt-2")]).foldlM (fun s r => CountTrace.exec r s)
      { db := greengrocer }) (by decide +kernel)

/-- The count that is posted then. -/
def saleCountPosted : Db :=
  value ((StockRequest.postStockCount postApples).exec countedAfterSale.db) (by decide +kernel)

theorem reaches_countedAfterSale :
    Reaches CountTrace.exec (fun _ _ => True) { db := greengrocer } countedAfterSale :=
  reaches_of_foldlM (eq_ok_value _ _)

/-- What is counted at once is posted rightly; what is counted after a sale, just when the
books still have the snapshot. -/
theorem postings_right_iff_apples :
    PostingsRight countedAtOnce ∧
      (PostingRight countedAfterSale saleCountPosted 0 ↔
        ∀ i l, countedAfterSale.db.stock.countLines[i]? = some l → l.val.stockCountId = 0 →
          l.val.recountNumber = 1 →
            l.val.expectedQuantity = some (countedAfterSale.bookAtCount i)) := by
  refine ⟨?_, ?_⟩
  · apply (postings_right_iff greengrocer_beforeCounts).1
    exact reaches_of_guarded (eq_ok_value _ _)
  · refine (postings_right_iff greengrocer_beforeCounts).2 _ reaches_countedAfterSale postApples _
      (eq_ok_value _ _) ⟨⟨0, none, .reviewed⟩, ?_, rfl⟩
    decide +kernel

/-- **Of seven apples one is sold and the six that are there are counted; one more is delivered,
and the posting takes it back.**  The books had six when six were counted, but the posting
applies a variance of one and leaves six, where there are seven. -/
theorem delivery_taken_back :
    Reaches CountTrace.exec (fun _ _ => True) { db := greengrocer } countedAfterSale ∧
      countedAfterSale.bookAtCount 0 = 6 ∧ bookQuantity countedAfterSale.db 0 = 7 ∧
      (StockRequest.postStockCount postApples).exec countedAfterSale.db = .ok saleCountPosted ∧
      appliedVariance saleCountPosted 0 0 = -1 ∧ bookQuantity saleCountPosted 0 = 6 ∧
      ¬PostingRight countedAfterSale saleCountPosted 0 := by
  refine ⟨reaches_countedAfterSale, by decide +kernel, by decide +kernel, eq_ok_value _ _,
    by decide +kernel, by decide +kernel, ?_⟩
  intro hright
  have hline : ∃ l ∈ countedAfterSale.db.stock.countLines[0]?, l.val.stockCountId = 0 ∧
      l.val.countedQuantity = some 6 ∧ l.val.productId = 0 := by
    decide +kernel
  obtain ⟨l, hl, hid, hcounted, hproduct⟩ := hline
  have hvariance := (hright 0 l hl hid 6 hcounted).1
  rw [hproduct] at hvariance
  exact absurd hvariance (by decide +kernel)

end GroceryErp
