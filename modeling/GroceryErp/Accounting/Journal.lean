import GroceryErp.Errors
import GroceryErp.Schema

/-!
# The posting engine

Every journal entry is written by `postJournal`.  The columns of a line keep six
decimals; the database refuses a line without exactly one strictly positive side
and, at commit, an entry whose sides differ.

## Main definitions

* `ledgerQuantize` — the rounding of an amount before it is posted.
* `enforcePeriodOpen` — no entry is dated inside a closed period.
* `postJournal` — appends one entry.
* `glBalance` — what the entries of a store add to an account.

## Main results

* `postJournal_eq_ok` — what a posting that succeeds has checked and written.
* `glBalance_postJournal` — what it adds to an account.

## References

`backend/app/modules/accounting/service.py`.
-/

namespace GroceryErp

open Decimal Ledger Outcome Rows

/-! ### Amounts and lines -/

/-- `_quantize`: an amount of the ledger has six decimals, and is rounded to them half away from
zero. -/
def ledgerQuantize (x : ℚ) : ℚ := quantize 6 x

/-- `_round_money`: an amount is rounded to whole cents, a tie away from zero. -/
def roundMoney (x : ℚ) : ℚ := quantize 2 x

/-- A journal line as its columns keep it, both sides rounded to six decimals. -/
def storedLine (l : JournalLine) : JournalLine :=
  ⟨l.account, numeric 6 l.debit, numeric 6 l.credit⟩

/-- The amounts of a line have at most six decimals. -/
def LineOnGrid (l : JournalLine) : Prop := OnGrid 6 l.debit ∧ OnGrid 6 l.credit

instance (l : JournalLine) : Decidable (LineOnGrid l) := inferInstanceAs (Decidable (_ ∧ _))

theorem storedLine_of_onGrid {l : JournalLine} (h : LineOnGrid l) : storedLine l = l := by
  simp only [storedLine, numeric, quantize_eq_self h.1, quantize_eq_self h.2]

theorem map_storedLine_of_onGrid {ls : List JournalLine} (h : ∀ l ∈ ls, LineOnGrid l) :
    ls.map storedLine = ls := by
  calc ls.map storedLine = ls.map id :=
        List.map_congr_left fun l hl => storedLine_of_onGrid (h l hl)
    _ = ls := List.map_id ls

theorem lineOnGrid_debit (a : Account) {x : ℚ} (h : OnGrid 6 x) : LineOnGrid (debit a x) :=
  ⟨h, onGrid_zero 6⟩

theorem lineOnGrid_credit (a : Account) {x : ℚ} (h : OnGrid 6 x) : LineOnGrid (credit a x) :=
  ⟨onGrid_zero 6, h⟩

theorem lineOnGrid_of_mem_creditIf {a : Account} {x : ℚ} (hx : OnGrid 6 x) {l : JournalLine}
    (h : l ∈ creditIf a x) : LineOnGrid l := by
  unfold creditIf at h
  split at h
  · rw [List.mem_singleton] at h
    exact h ▸ lineOnGrid_credit a hx
  · exact absurd h List.not_mem_nil

/-- What a line keeps of an amount where the source adds the line only if the amount is positive. -/
def postedAmount (x : ℚ) : ℚ := if 0 < x then numeric 6 x else 0

theorem postedAmount_of_onGrid {x : ℚ} (hx : 0 ≤ x) (hg : OnGrid 6 x) : postedAmount x = x := by
  unfold postedAmount
  split
  · exact numeric_eq_self hg
  · next h => exact le_antisymm hx (not_lt.mp h)

@[simp] theorem net_storedLine_debitIf (a b : Account) (x : ℚ) :
    net a ((debitIf b x).map storedLine) = if b = a then postedAmount x else 0 := by
  unfold debitIf postedAmount
  split <;> simp [storedLine, debit, net, sumWhere_cons, numeric]

@[simp] theorem net_storedLine_creditIf (a b : Account) (x : ℚ) :
    net a ((creditIf b x).map storedLine) = if b = a then -postedAmount x else 0 := by
  unfold creditIf postedAmount
  split <;> simp [storedLine, credit, net, sumWhere_cons, numeric]

@[simp] theorem net_storedLine_pair (a b c : Account) (x : ℚ) :
    net a ((pair b c x).map storedLine)
      = (if b = a then postedAmount x else 0) + if c = a then -postedAmount x else 0 := by
  rw [pair, List.map_append, net_append, net_storedLine_debitIf, net_storedLine_creditIf]

/-! ### Posting -/

/-- `_enforce_period_open`: nothing is posted into a day that a closed accounting period of the
store covers. -/
def enforcePeriodOpen (db : Db) (storeId : ℕ) (postingDate : Date) : Result Unit :=
  raiseIf (∃ p ∈ db.ledger.periods,
    p.storeId = storeId ∧ p.periodStart ≤ postingDate ∧ postingDate ≤ p.periodEnd)
    (.conflict .periodClosed)

/-- `_post_journal`: one entry for a source document, unless it has no lines, its day is closed, or
the document has been posted under this source type before. -/
def postJournal (db : Db) (storeId : ℕ) (postingDate : Date) (sourceType : SourceType)
    (sourceId : ℕ) (lines : List JournalLine) : Result Db := do
  raiseIf (lines = []) (.validation .emptyJournalEntry)
  enforcePeriodOpen db storeId postingDate
  checkUnique (∃ e ∈ db.ledger.entries, e.val.sourceType = sourceType ∧ e.val.sourceId = sourceId)
    .uqJournalEntriesSource
  let entry ← flush
    { storeId, postingDate, sourceType, sourceId, lines := lines.map storedLine : JournalEntry }
  return { db with ledger.entries := db.ledger.entries ++ [entry] }

/-- The functions that post nothing when there is nothing to post. -/
def postJournalUnlessEmpty (db : Db) (storeId : ℕ) (postingDate : Date) (sourceType : SourceType)
    (sourceId : ℕ) (lines : List JournalLine) : Result Db :=
  if lines = [] then return db else postJournal db storeId postingDate sourceType sourceId lines

variable {db db' : Db} {storeId sourceId : ℕ} {postingDate : Date} {sourceType : SourceType}
  {lines : List JournalLine}

theorem postJournal_eq_ok :
    postJournal db storeId postingDate sourceType sourceId lines = .ok db' ↔
      lines ≠ [] ∧
      enforcePeriodOpen db storeId postingDate = .ok () ∧
      (¬∃ e ∈ db.ledger.entries, e.val.sourceType = sourceType ∧ e.val.sourceId = sourceId) ∧
      ∃ entry : Row JournalEntry,
        entry.val = ⟨storeId, postingDate, sourceType, sourceId, lines.map storedLine⟩ ∧
        db' = { db with ledger.entries := db.ledger.entries ++ [entry] } := by
  unfold postJournal
  simp only [↓check_bind_eq_ok, bind_eq_ok, raiseIf_eq_ok, checkUnique_eq_ok,
    flush_eq_ok, pure_eq_ok, ne_eq, @eq_comm _ _ db']

/-! ### Balances -/

/-- What an entry adds to an account, debits positive. -/
def entryNet (a : Account) (e : Row JournalEntry) : ℚ := net a e.val.lines

/-- The balance of an account in the books of a store, debits positive. -/
def glBalance (db : Db) (storeId : ℕ) (a : Account) : ℚ :=
  sumWhere (·.val.storeId = storeId) (entryNet a) db.ledger.entries

theorem glBalance_congr {d d' : Db} (h : d'.ledger.entries = d.ledger.entries) (s : ℕ)
    (a : Account) : glBalance d' s a = glBalance d s a := by
  simp only [glBalance, h]

/-- **What a posting adds to the entries of some kind.** -/
theorem sumWhere_postJournal
    (h : postJournal db storeId postingDate sourceType sourceId lines = .ok db')
    (p : JournalEntry → Prop) [DecidablePred p] (a : Account) :
    sumWhere (fun e => p e.val) (entryNet a) db'.ledger.entries
      = sumWhere (fun e => p e.val) (entryNet a) db.ledger.entries
        + if p ⟨storeId, postingDate, sourceType, sourceId, lines.map storedLine⟩
          then net a (lines.map storedLine) else 0 := by
  obtain ⟨-, -, -, entry, hentry, rfl⟩ := postJournal_eq_ok.mp h
  simp only [sumWhere_append, sumWhere_singleton, entryNet, hentry]

theorem sumWhere_postJournalUnlessEmpty
    (h : postJournalUnlessEmpty db storeId postingDate sourceType sourceId lines = .ok db')
    (p : JournalEntry → Prop) [DecidablePred p] (a : Account) :
    sumWhere (fun e => p e.val) (entryNet a) db'.ledger.entries
      = sumWhere (fun e => p e.val) (entryNet a) db.ledger.entries
        + if p ⟨storeId, postingDate, sourceType, sourceId, lines.map storedLine⟩
          then net a (lines.map storedLine) else 0 := by
  unfold postJournalUnlessEmpty at h
  split at h
  · next hl =>
    rw [pure_eq_ok] at h
    subst h hl
    simp
  · exact sumWhere_postJournal h p a

/-- **What a posting adds to an account of a store.** -/
theorem glBalance_postJournal
    (h : postJournal db storeId postingDate sourceType sourceId lines = .ok db') (s : ℕ)
    (a : Account) :
    glBalance db' s a
      = glBalance db s a + if storeId = s then net a (lines.map storedLine) else 0 :=
  sumWhere_postJournal h (·.storeId = s) a

theorem glBalance_postJournalUnlessEmpty
    (h : postJournalUnlessEmpty db storeId postingDate sourceType sourceId lines = .ok db')
    (s : ℕ) (a : Account) :
    glBalance db' s a
      = glBalance db s a + if storeId = s then net a (lines.map storedLine) else 0 :=
  sumWhere_postJournalUnlessEmpty h (·.storeId = s) a

/-! ### One entry for each document -/

/-- The document an entry is for; `journal_entries` has one entry for each. -/
def entrySource (e : Row JournalEntry) : SourceType × ℕ := (e.val.sourceType, e.val.sourceId)

/-- Every document has one entry at most, which is what the unique index of the table asks for. -/
def Db.UniqueSources (db : Db) : Prop := (db.ledger.entries.map entrySource).Nodup

/-- There is no entry for the document yet, under this source type. -/
def Unposted (db : Db) (sourceType : SourceType) (sourceId : ℕ) : Prop :=
  ¬∃ e ∈ db.ledger.entries, e.val.sourceType = sourceType ∧ e.val.sourceId = sourceId

theorem Db.UniqueSources.append (hdb : db.UniqueSources) (entry : Row JournalEntry)
    (hfresh : Unposted db entry.val.sourceType entry.val.sourceId) :
    ((db.ledger.entries ++ [entry]).map entrySource).Nodup := by
  rw [List.map_append, List.nodup_append']
  refine ⟨hdb, List.nodup_singleton _, ?_⟩
  rw [List.map_singleton, List.disjoint_singleton]
  intro hmem
  obtain ⟨e, he, heq⟩ := List.mem_map.mp hmem
  simp only [entrySource, Prod.mk.injEq] at heq
  exact hfresh ⟨e, he, heq⟩

theorem uniqueSources_postJournal (hdb : db.UniqueSources)
    (h : postJournal db storeId postingDate sourceType sourceId lines = .ok db') :
    db'.UniqueSources := by
  obtain ⟨-, -, hfresh, entry, hentry, rfl⟩ := postJournal_eq_ok.mp h
  refine hdb.append entry ?_
  rw [hentry]
  exact hfresh

theorem uniqueSources_postJournalUnlessEmpty (hdb : db.UniqueSources)
    (h : postJournalUnlessEmpty db storeId postingDate sourceType sourceId lines = .ok db') :
    db'.UniqueSources := by
  unfold postJournalUnlessEmpty at h
  split at h
  · rw [pure_eq_ok] at h
    exact h ▸ hdb
  · exact uniqueSources_postJournal hdb h

/-- The entries that were posted for one document, found by its source type and its id.  At most
one, where sources are unique. -/
def entriesFor (db : Db) (sourceType : SourceType) (sourceId : ℕ) : List (Row JournalEntry) :=
  db.ledger.entries.filter fun e => entrySource e = (sourceType, sourceId)

theorem Db.UniqueSources.length_entriesFor_le (h : db.UniqueSources) (sourceType : SourceType)
    (sourceId : ℕ) : (entriesFor db sourceType sourceId).length ≤ 1 := by
  have hcount := List.nodup_iff_count_le_one.mp h (sourceType, sourceId)
  rw [List.count_eq_length_filter, List.filter_map, List.length_map] at hcount
  simpa only [entriesFor, Function.comp_def, beq_eq_decide] using hcount

/-! ### What a posting leaves alone -/

/-- A posting writes the journal and nothing else. -/
theorem postJournal_frame
    (h : postJournal db storeId postingDate sourceType sourceId lines = .ok db') :
    db' = { db with ledger.entries := db'.ledger.entries } := by
  obtain ⟨-, -, -, entry, -, rfl⟩ := postJournal_eq_ok.mp h
  rfl

theorem postJournalUnlessEmpty_frame
    (h : postJournalUnlessEmpty db storeId postingDate sourceType sourceId lines = .ok db') :
    db' = { db with ledger.entries := db'.ledger.entries } := by
  unfold postJournalUnlessEmpty at h
  split at h
  · rw [pure_eq_ok] at h
    exact h ▸ rfl
  · exact postJournal_frame h

end GroceryErp
