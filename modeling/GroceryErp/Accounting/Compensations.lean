import GroceryErp.Accounting.Postings

/-!
# Originals and their compensations

A document that is undone keeps its entry, and gets a second one that is to cancel it.  What
the two come to is compared by document, store and account; nothing else that is posted in
between has a part in it.

## Main definitions

* `documentNet` — what the entries for a document add to an account of a store.
* `Posts`, `PostsEntry` — entries of some kinds are added, and no others; or one entry.
* `takenOf` — what the rows of a table are to have posted.
* `Mirrored` — the originals are as their rows have it, and the compensations cancel them.

## Main results

* `Mirrored.kept`, `Mirrored.post`, `Mirrored.compensate`, `Mirrored.exchange` — how that is
  kept.
* `Mirrored.cancels` — an original and its compensation come to nothing.

## References

`backend/app/modules/accounting/service.py`.
-/

namespace GroceryErp

open Decimal Ledger Outcome Rows

/-! ### What a document has posted -/

/-- What the entries for a document add to an account in the books of a store. -/
def documentNet (db : Db) (t : SourceType) (i s : ℕ) (a : Account) : ℚ :=
  sumWhere (fun e => entrySource e = (t, i) ∧ e.val.storeId = s) (entryNet a) db.ledger.entries

/-- Entries for documents of some kinds are added, each document keeping one at most. -/
structure Posts (kinds : SourceType → Prop) (db db' : Db) : Prop where
  added : ∃ new, db'.ledger.entries = db.ledger.entries ++ new ∧ ∀ e ∈ new, kinds e.val.sourceType
  sources : db.UniqueSources → db'.UniqueSources

section Posting

variable {db d db' : Db} {kinds kinds' : SourceType → Prop} {storeId sourceId : ℕ}
  {postingDate : Date} {sourceType : SourceType} {lines : List JournalLine}

theorem Posts.of_eq (h : db'.ledger.entries = db.ledger.entries) : Posts kinds db db' where
  added := ⟨[], by rw [h, List.append_nil], by simp⟩
  sources hdb := by
    unfold Db.UniqueSources
    rw [h]
    exact hdb

theorem Posts.trans (h : Posts kinds db d) (h' : Posts kinds d db') : Posts kinds db db' where
  added := by
    obtain ⟨new, hnew, hkinds⟩ := h.added
    obtain ⟨more, hmore, hkinds'⟩ := h'.added
    refine ⟨new ++ more, by rw [hmore, hnew, List.append_assoc], fun e he => ?_⟩
    rcases List.mem_append.mp he with he | he
    · exact hkinds e he
    · exact hkinds' e he
  sources hdb := h'.sources (h.sources hdb)

theorem Posts.mono (h : Posts kinds db db') (weaker : ∀ t, kinds t → kinds' t) :
    Posts kinds' db db' where
  added := by
    obtain ⟨new, hnew, hkinds⟩ := h.added
    exact ⟨new, hnew, fun e he => weaker _ (hkinds e he)⟩
  sources := h.sources

/-- One entry is posted, for a document that has none yet; or none, where there is nothing to
post. -/
inductive PostsEntry (db db' : Db) (storeId : ℕ) (sourceType : SourceType) (sourceId : ℕ)
    (lines : List JournalLine) : Prop
  | nothing (empty : lines = []) (entries : db'.ledger.entries = db.ledger.entries)
  | entry (e : Row JournalEntry) (fresh : Unposted db sourceType sourceId)
      (store : e.val.storeId = storeId) (source : entrySource e = (sourceType, sourceId))
      (value : e.val.lines = lines.map storedLine)
      (entries : db'.ledger.entries = db.ledger.entries ++ [e])

theorem postsEntry_of_postJournal {e : Db}
    (h : postJournal d storeId postingDate sourceType sourceId lines = .ok e)
    (hbefore : d.ledger.entries = db.ledger.entries)
    (hafter : db'.ledger.entries = e.ledger.entries) :
    PostsEntry db db' storeId sourceType sourceId lines := by
  obtain ⟨-, -, hfresh, entry, hentry, rfl⟩ := postJournal_eq_ok.mp h
  refine .entry entry ?_ (by rw [hentry]) (by rw [entrySource, hentry]) (by rw [hentry]) ?_
  · unfold Unposted
    rw [← hbefore]
    exact hfresh
  · rw [hafter, ← hbefore]

theorem postsEntry_of_postJournalUnlessEmpty {e : Db}
    (h : postJournalUnlessEmpty d storeId postingDate sourceType sourceId lines = .ok e)
    (hbefore : d.ledger.entries = db.ledger.entries)
    (hafter : db'.ledger.entries = e.ledger.entries) :
    PostsEntry db db' storeId sourceType sourceId lines := by
  unfold postJournalUnlessEmpty at h
  split at h
  · next hlines =>
    rw [pure_eq_ok] at h
    exact .nothing hlines (hafter.trans (h ▸ hbefore))
  · exact postsEntry_of_postJournal h hbefore hafter

theorem PostsEntry.posts (h : PostsEntry db db' storeId sourceType sourceId lines) :
    Posts (· = sourceType) db db' := by
  cases h with
  | nothing _ entries => exact .of_eq entries
  | entry e fresh _ source _ entries =>
    refine ⟨⟨[e], entries, fun x hx => ?_⟩, fun hdb => ?_⟩
    · rw [List.mem_singleton.mp hx]
      exact congrArg Prod.fst source
    · unfold Db.UniqueSources
      rw [entries]
      refine hdb.append e ?_
      have htype : e.val.sourceType = sourceType := congrArg Prod.fst source
      have hid : e.val.sourceId = sourceId := congrArg Prod.snd source
      rw [htype, hid]
      exact fresh

variable {t : SourceType} {i s : ℕ} {a : Account}

theorem documentNet_congr (h : db'.ledger.entries = db.ledger.entries) :
    documentNet db' t i s a = documentNet db t i s a := by
  unfold documentNet
  rw [h]

/-- Documents of other kinds are left alone. -/
theorem documentNet_kept (h : Posts kinds db db') (ht : ¬kinds t) :
    documentNet db' t i s a = documentNet db t i s a := by
  obtain ⟨new, hnew, hkinds⟩ := h.added
  unfold documentNet
  rw [hnew, sumWhere_append]
  have hnone : sumWhere (fun e => entrySource e = (t, i) ∧ e.val.storeId = s) (entryNet a) new
      = 0 := by
    refine sumWhere_eq_zero _ _ fun e he hsource => ?_
    have hkind : e.val.sourceType = t := congrArg Prod.fst hsource.1
    exact absurd (hkind ▸ hkinds e he) ht
  rw [hnone, add_zero]

theorem documentNet_of_unposted (h : Unposted db t i) : documentNet db t i s a = 0 := by
  refine sumWhere_eq_zero _ _ fun e he hsource => ?_
  exact absurd ⟨e, he, congrArg Prod.fst hsource.1, congrArg Prod.snd hsource.1⟩ h

/-- What a posting adds to its own document, and to no other. -/
theorem PostsEntry.documentNet (h : PostsEntry db db' storeId sourceType sourceId lines) :
    GroceryErp.documentNet db' t i s a = GroceryErp.documentNet db t i s a
      + if (sourceType, sourceId) = (t, i) ∧ storeId = s then net a (lines.map storedLine)
        else 0 := by
  cases h with
  | nothing empty entries =>
    rw [documentNet_congr entries, empty, List.map_nil, net_nil, ite_self, add_zero]
  | entry e _ store source value entries =>
    unfold GroceryErp.documentNet
    rw [entries, sumWhere_append, sumWhere_singleton, entryNet, source, store, value]

/-- A document that gets its entry has had none. -/
theorem PostsEntry.documentNet_own (h : PostsEntry db db' storeId sourceType sourceId lines)
    (hlines : lines ≠ []) : GroceryErp.documentNet db' sourceType sourceId s a
      = if storeId = s then net a (lines.map storedLine) else 0 := by
  rw [h.documentNet]
  cases h with
  | nothing empty _ => exact absurd empty hlines
  | entry e fresh _ _ _ _ =>
    rw [documentNet_of_unposted fresh, zero_add]
    simp only [true_and]

end Posting

/-! ### What rows are to have posted -/

/-- What the row of a document is to have posted, where it has a store to post for: the lines
that are computed from it. -/
def takenOf {α : Type} (rows : List α) (store : α → Option ℕ) (lines : ℕ → α → List JournalLine)
    (i s : ℕ) (a : Account) : ℚ :=
  match rows[i]? with
  | some row => if store row = some s then net a ((lines i row).map storedLine) else 0
  | none => 0

section Taken

variable {α : Type} {rows rows' : List α} {store : α → Option ℕ}
  {lines lines' : ℕ → α → List JournalLine} {i s : ℕ} {a : Account} {row row' : α}

theorem takenOf_of_row (h : rows[i]? = some row) : takenOf rows store lines i s a
    = if store row = some s then net a ((lines i row).map storedLine) else 0 := by
  unfold takenOf
  rw [h]

/-- Rows that are written over with what is posted for them still the same. -/
theorem takenOf_overwritten (h : Overwritten (fun i old new => store new = store old ∧
      (store old ≠ none → lines' i new = lines i old)) rows rows') :
    takenOf rows' store lines' i s a = takenOf rows store lines i s a := by
  cases hrow : rows[i]? with
  | none =>
    have hnone : rows'[i]? = none := by
      rw [List.getElem?_eq_none_iff] at hrow ⊢
      exact h.1 ▸ hrow
    unfold takenOf
    rw [hrow, hnone]
  | some row =>
    obtain ⟨new, hnew, hstore, hlines⟩ := h.2 i row hrow
    rw [takenOf_of_row hrow, takenOf_of_row hnew, hstore]
    by_cases hs : store row = some s
    · rw [if_pos hs, if_pos hs, hlines (by rw [hs]; exact Option.some_ne_none s)]
    · rw [if_neg hs, if_neg hs]

/-- A row that is written over with what is posted for it still the same. -/
theorem takenOf_rewritten {j : ℕ} (hrow : rows[j]? = some row) (hstore : store row' = store row)
    (hlines : store row ≠ none → lines j row' = lines j row) :
    takenOf (rows.set j row') store lines i s a = takenOf rows store lines i s a := by
  refine takenOf_overwritten ⟨List.length_set, fun k old hold => ?_⟩
  rw [getElem?_set_of_some hrow]
  by_cases hjk : j = k
  · subst hjk
    obtain rfl : row = old := Option.some.inj (hrow.symm.trans hold)
    exact ⟨row', if_pos rfl, hstore, hlines⟩
  · exact ⟨old, (if_neg hjk).trans hold, rfl, fun _ => rfl⟩

/-- One more row, with what is posted for it. -/
theorem takenOf_append (hlines : ∀ (i : ℕ) (old : α), rows[i]? = some old → store old ≠ none →
      lines' i old = lines i old) :
    takenOf (rows ++ [row]) store lines' i s a = takenOf rows store lines i s a
      + if rows.length = i ∧ store row = some s then net a ((lines' i row).map storedLine)
        else 0 := by
  rcases lt_trichotomy i rows.length with hi | hi | hi
  -- a row that was there before
  · have hold : rows[i]? = some rows[i] := List.getElem?_eq_getElem hi
    have hnew : (rows ++ [row])[i]? = some rows[i] := by
      rw [List.getElem?_append_left hi, hold]
    have hnot : ¬(rows.length = i ∧ store row = some s) := fun hboth => hi.ne' hboth.1
    rw [takenOf_of_row hold, takenOf_of_row hnew, if_neg hnot, add_zero]
    by_cases hs : store rows[i] = some s
    · rw [if_pos hs, if_pos hs, hlines i _ hold (by rw [hs]; exact Option.some_ne_none s)]
    · rw [if_neg hs, if_neg hs]
  -- the new row, for which nothing was posted before
  · subst hi
    have hnone : rows[rows.length]? = none := List.getElem?_eq_none_iff.mpr le_rfl
    have hnew : (rows ++ [row])[rows.length]? = some row := by simp
    rw [takenOf_of_row hnew, takenOf, hnone, zero_add]
    simp only [true_and]
  -- no row, before or after
  · have hnone : rows[i]? = none := List.getElem?_eq_none_iff.mpr hi.le
    have hnew : (rows ++ [row])[i]? = none := by
      rw [List.getElem?_eq_none_iff, List.length_append, List.length_singleton]
      exact hi
    unfold takenOf
    rw [hnone, hnew, if_neg fun hboth => hi.ne hboth.1, add_zero]

/-- A document that is posted: its row has a store from now on. -/
theorem takenOf_set {j storeId : ℕ} (hrow : rows[j]? = some row) (hold : store row = none)
    (hnew : store row' = some storeId)
    (hlines : ∀ (i : ℕ) (old : α), i ≠ j → rows[i]? = some old → store old ≠ none →
      lines' i old = lines i old) :
    takenOf (rows.set j row') store lines' i s a = takenOf rows store lines i s a
      + if j = i ∧ storeId = s then net a ((lines' j row').map storedLine) else 0 := by
  have hset := getElem?_set_of_some hrow row' i
  by_cases hji : j = i
  · subst hji
    rw [if_pos rfl] at hset
    rw [takenOf_of_row hset, takenOf_of_row hrow, hold, hnew]
    simp
  · rw [if_neg hji] at hset
    rw [if_neg fun hboth => hji hboth.1, add_zero]
    cases hi : rows[i]? with
    | none =>
      unfold takenOf
      rw [hset, hi]
    | some old =>
      rw [takenOf_of_row (hset.trans hi), takenOf_of_row hi]
      by_cases hs : store old = some s
      · rw [if_pos hs, if_pos hs,
          hlines i old (Ne.symm hji) hi (by rw [hs]; exact Option.some_ne_none s)]
      · rw [if_neg hs, if_neg hs]

end Taken

/-! ### One amount, and back -/

section Swap

variable {dr cr : Account} {x y : ℚ}

theorem pair_of_pos (dr cr : Account) (hx : 0 < x) : pair dr cr x = [debit dr x, credit cr x] := by
  unfold pair debitIf creditIf
  rw [if_pos hx, if_pos hx]
  rfl

/-- The accounts exchanged, the entry is the same the other way. -/
theorem net_storedLine_exchanged (dr cr : Account) (x : ℚ) (a : Account) :
    net a ([debit cr x, credit dr x].map storedLine)
      = -net a ([debit dr x, credit cr x].map storedLine) := by
  have hzero : numeric 6 (0 : ℚ) = 0 := numeric_eq_self (onGrid_zero 6)
  simp only [net, List.map_cons, List.map_nil, storedLine, debit, credit, sumWhere_cons,
    sumWhere_nil, hzero]
  split_ifs <;> ring

/-- Amounts that the ledger keeps alike are posted alike. -/
theorem map_storedLine_pair_congr (hx : 0 < x) (hy : 0 < y) (h : numeric 6 x = numeric 6 y) :
    (pair dr cr x).map storedLine = (pair dr cr y).map storedLine := by
  rw [pair_of_pos dr cr hx, pair_of_pos dr cr hy]
  simp only [List.map_cons, List.map_nil, storedLine, debit, credit, h]

end Swap

/-! ### Compensations -/

/-- What is posted for documents of a kind is what was `taken`, and what compensates them is
the same the other way for those that are `undone`, and nothing for the others. -/
structure Mirrored (db : Db) (posting compensation : SourceType)
    (taken : ℕ → ℕ → Account → ℚ) (undone : ℕ → Prop) : Prop where
  original : ∀ i s a, documentNet db posting i s a = taken i s a
  back : ∀ i, undone i → ∀ s a, documentNet db compensation i s a = -taken i s a
  notYet : ∀ i, ¬undone i → ∀ s a, documentNet db compensation i s a = 0

namespace Mirrored

variable {db db' : Db} {posting compensation : SourceType} {taken taken' : ℕ → ℕ → Account → ℚ}
  {undone undone' : ℕ → Prop} {kinds : SourceType → Prop} {storeId i : ℕ}
  {lines : List JournalLine}

/-- Nothing has been posted, and nothing is to be. -/
theorem of_unposted (hposting : ∀ i, Unposted db posting i)
    (hcompensation : ∀ i, Unposted db compensation i) (htaken : ∀ i s a, taken i s a = 0)
    (hundone : ∀ i, ¬undone i) : Mirrored db posting compensation taken undone where
  original i s a := by rw [documentNet_of_unposted (hposting i), htaken]
  back i hi := absurd hi (hundone i)
  notYet i _ _ _ := documentNet_of_unposted (hcompensation i)

/-- An original that is compensated comes to nothing. -/
theorem cancels (h : Mirrored db posting compensation taken undone) (hi : undone i) (s : ℕ)
    (a : Account) : documentNet db posting i s a + documentNet db compensation i s a = 0 := by
  rw [h.original, h.back i hi, add_neg_cancel]

/-- The entries and the documents are what they were. -/
theorem congr (h : Mirrored db posting compensation taken undone)
    (hentries : db'.ledger.entries = db.ledger.entries)
    (htaken : ∀ i s a, taken' i s a = taken i s a) (hundone : ∀ i, undone' i ↔ undone i) :
    Mirrored db' posting compensation taken' undone' where
  original i s a := by rw [documentNet_congr hentries, h.original, htaken]
  back i hi s a := by rw [documentNet_congr hentries, h.back i ((hundone i).mp hi), htaken]
  notYet i hi s a := by
    rw [documentNet_congr hentries]
    exact h.notYet i (fun hold => hi ((hundone i).mpr hold)) s a

/-- Postings of other kinds keep it, where the documents are what they were. -/
theorem kept (h : Mirrored db posting compensation taken undone) (hposts : Posts kinds db db')
    (hposting : ¬kinds posting) (hcompensation : ¬kinds compensation)
    (htaken : ∀ i s a, taken' i s a = taken i s a) (hundone : ∀ i, undone' i ↔ undone i) :
    Mirrored db' posting compensation taken' undone' where
  original i s a := by rw [documentNet_kept hposts hposting, h.original, htaken]
  back i hi s a := by
    rw [documentNet_kept hposts hcompensation, h.back i ((hundone i).mp hi), htaken]
  notYet i hi s a := by
    rw [documentNet_kept hposts hcompensation]
    exact h.notYet i (fun hold => hi ((hundone i).mpr hold)) s a

/-- A document is posted: the documents taken of its kind and the entries of its kind grow alike,
and nothing is undone. -/
theorem post (h : Mirrored db posting compensation taken undone)
    (hkinds : posting ≠ compensation) (hentry : PostsEntry db db' storeId posting i lines)
    (htaken : ∀ j s a, taken' j s a = taken j s a
      + if i = j ∧ storeId = s then net a (lines.map storedLine) else 0)
    (hi : ¬undone i) (hundone : ∀ j, undone' j ↔ undone j) :
    Mirrored db' posting compensation taken' undone' := by
  have hback : ∀ j s a,
      documentNet db' compensation j s a = documentNet db compensation j s a := by
    intro j s a
    rw [hentry.documentNet, if_neg fun hboth => hkinds (congrArg Prod.fst hboth.1), add_zero]
  constructor
  · intro j s a
    rw [hentry.documentNet, h.original, htaken]
    simp only [Prod.mk.injEq, true_and]
  · intro j hj s a
    have hold := (hundone j).mp hj
    have hij : i ≠ j := by
      rintro rfl
      exact hi hold
    rw [hback, h.back j hold, htaken, if_neg fun hboth => hij hboth.1, add_zero]
  · intro j hj s a
    rw [hback]
    exact h.notYet j (fun hold => hj ((hundone j).mpr hold)) s a

/-- A document is undone, by an entry that is its original the other way. -/
theorem compensate (h : Mirrored db posting compensation taken undone)
    (hkinds : posting ≠ compensation) (hentry : PostsEntry db db' storeId compensation i lines)
    (hmirror : ∀ s a, (if storeId = s then net a (lines.map storedLine) else 0) = -taken i s a)
    (htaken : ∀ i s a, taken' i s a = taken i s a) (hundone : ∀ j, undone' j ↔ undone j ∨ j = i) :
    Mirrored db' posting compensation taken' undone' := by
  have hthere : ∀ s a, documentNet db' compensation i s a = -taken i s a := by
    intro s a
    by_cases hlines : lines = []
    · -- there is nothing to take back
      have hzero : taken i s a = 0 := by
        have hmirrored := hmirror s a
        rw [hlines, List.map_nil, net_nil, ite_self] at hmirrored
        exact neg_eq_zero.mp hmirrored.symm
      rw [hentry.documentNet, hlines, List.map_nil, net_nil, ite_self, add_zero, hzero, neg_zero]
      by_cases hi : undone i
      · rw [h.back i hi, hzero, neg_zero]
      · exact h.notYet i hi s a
    · rw [hentry.documentNet_own hlines, hmirror]
  have helse : ∀ j, j ≠ i → ∀ s a,
      documentNet db' compensation j s a = documentNet db compensation j s a := by
    intro j hj s a
    rw [hentry.documentNet, if_neg fun hboth => hj (congrArg Prod.snd hboth.1).symm, add_zero]
  -- the originals are of the other kind, and of the compensations only that of `i` is new
  constructor
  · intro j s a
    rw [hentry.documentNet, if_neg fun hboth => hkinds (congrArg Prod.fst hboth.1).symm, add_zero,
      h.original, htaken]
  · intro j hj s a
    rw [htaken]
    by_cases hji : j = i
    · rw [hji]
      exact hthere s a
    · rw [helse j hji]
      exact h.back j (((hundone j).mp hj).resolve_right hji) s a
  · intro j hj s a
    have hnot := not_or.mp fun hor => hj ((hundone j).mpr hor)
    rw [helse j hnot.2]
    exact h.notYet j hnot.1 s a

/-- One amount is posted back, its accounts exchanged. -/
theorem exchange (h : Mirrored db posting compensation taken undone)
    (hkinds : posting ≠ compensation) {dr cr : Account} {x : ℚ}
    (hentry : PostsEntry db db' storeId compensation i [debit cr x, credit dr x])
    (hof : ∀ s a, taken i s a
      = if storeId = s then net a ([debit dr x, credit cr x].map storedLine) else 0)
    (htaken : ∀ i s a, taken' i s a = taken i s a) (hundone : ∀ j, undone' j ↔ undone j ∨ j = i) :
    Mirrored db' posting compensation taken' undone' := by
  refine h.compensate hkinds hentry (fun s a => ?_) htaken hundone
  rw [hof, net_storedLine_exchanged]
  split_ifs
  · rfl
  · exact neg_zero.symm

end Mirrored

end GroceryErp
