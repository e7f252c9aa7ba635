import GroceryErp.Accounting.Journal
import GroceryErp.Lib.Transactions
import Mathlib.Data.Option.Basic

/-!
# Closing accounting periods

A close is a row of its own, and every posting looks for one that covers its date before
it is written.  The look and the write are two steps of a transaction that locks nothing,
so a close can commit between them.

## Main definitions

* `Books` — the periods and entries, manual entries and reversals among them.
* `checkPosting`, `writeEntry` — the two steps of `_post_journal`.
* `bookkeeping` — postings, reversals and closes as transactions.
* `GatedClose` — no transaction has looked before a close and not yet committed.

## Main results

* `postJournal_books` — a posting is its look and its write, one after the other.
* `closed_period_stays_closed` — where closes are gated, no entry dated in a closed period
  commits after the close.
* `entry_in_closed_period` — it does where one is not.

## References

`backend/app/modules/accounting/service.py`, `_enforce_period_open`, `_post_journal`,
`reverse_journal_entry`, `close_accounting_period`.
-/

namespace GroceryErp

open Ledger Outcome Rows Runs Transactions

/-! ### The books -/

/-- What an entry is for: a document of some module, which posts by itself, or nothing but what was
entered by hand. -/
inductive EntrySource
  | automated (sourceType : SourceType) (sourceId : ℕ)
  | manual
  deriving DecidableEq

/-- A row of `journal_entries` with its lines; one that reverses another names it. -/
structure BookEntry where
  storeId : ℕ
  postingDate : Date
  source : EntrySource
  reversalOf : Option ℕ
  lines : List JournalLine
  deriving DecidableEq

@[mk_iff] structure BookEntry.Checks (e : BookEntry) : Prop where
  exactly_one_side : ∀ l ∈ e.lines, l.OneSided
  balanced : Ledger.Balanced e.lines

instance : Table BookEntry where
  Checks := BookEntry.Checks
  decidableChecks e := decidable_of_iff' _ (BookEntry.checks_iff e)
  constraint := .journalEntries

structure Books where
  periods : List AccountingPeriod := []
  entries : List (Row BookEntry) := []

/-- The date of the store lies in the period. -/
def AccountingPeriod.Covers (p : AccountingPeriod) (storeId : ℕ) (postingDate : Date) : Prop :=
  p.storeId = storeId ∧ p.periodStart ≤ postingDate ∧ postingDate ≤ p.periodEnd

instance (p : AccountingPeriod) (storeId : ℕ) (postingDate : Date) :
    Decidable (p.Covers storeId postingDate) :=
  inferInstanceAs (Decidable (_ ∧ _))

/-- Two periods of a store that have a day in common. -/
def AccountingPeriod.Overlaps (p p' : AccountingPeriod) : Prop :=
  p.storeId = p'.storeId ∧ p.periodStart ≤ p'.periodEnd ∧ p'.periodStart ≤ p.periodEnd

instance (p p' : AccountingPeriod) : Decidable (p.Overlaps p') :=
  inferInstanceAs (Decidable (_ ∧ _))

/-! ### Posting -/

/-- The arguments of `_post_journal`, as a request that waits its turn carries them. -/
structure Posting where
  storeId : ℕ
  postingDate : Date
  source : EntrySource
  lines : List JournalLine

/-- The entry of a posting as its columns keep it. -/
def Posting.entry (p : Posting) : BookEntry :=
  ⟨p.storeId, p.postingDate, p.source, none, p.lines.map storedLine⟩

/-- `_enforce_period_open`, over the periods alone: no closed period of the store covers the day of
the posting. -/
def Books.enforcePeriodOpen (b : Books) (storeId : ℕ) (postingDate : Date) : Result Unit :=
  raiseIf (∃ p ∈ b.periods, p.Covers storeId postingDate) (.conflict .periodClosed)

/-- The checks at the top of `_post_journal`, over the books that it reads. -/
def checkPosting (b : Books) (p : Posting) : Result Unit := do
  raiseIf (p.lines = []) (.validation .emptyJournalEntry)
  b.enforcePeriodOpen p.storeId p.postingDate

/-- The entry is written; a document has one that is no reversal. -/
def writeEntry (b : Books) (e : BookEntry) : Result Books := do
  checkUnique (e.source ≠ .manual ∧ e.reversalOf = none ∧
    ∃ e' ∈ b.entries, e'.val.source = e.source ∧ e'.val.reversalOf = none) .uqJournalEntriesSource
  let entry ← flush e
  return { b with entries := b.entries ++ [entry] }

/-! ### Reversing -/

structure ReverseJournalEntry where
  journalEntryId : ℕ
  callerStoreId : Option ℕ
  today : Date

/-- The entry to be reversed: only a manual one can be. -/
def loadForReversal (b : Books) (req : ReverseJournalEntry) : Result BookEntry := do
  let entry ← orRaise b.entries[req.journalEntryId]? .notFound
  enforceStoreAccess req.callerStoreId entry.val.storeId
  raiseIf (entry.val.source ≠ .manual) (.conflict .operationalReversalRequired)
  return entry.val

/-- The reversal there is, or else the checks that one can be made. -/
def findReversal (b : Books) (req : ReverseJournalEntry) (entry : BookEntry) :
    Result (Option (ℕ × Row BookEntry)) := do
  raiseIf (entry.reversalOf ≠ none) (.conflict .cannotReverseReversal)
  match ← scalarOneOrNone (rowsWhere (·.val.reversalOf = some req.journalEntryId) b.entries) with
  | some found => return some found
  | none => do
    raiseIf (entry.lines = []) (.conflict .emptyJournalEntry)
    return none

/-- The entry that reverses another: its lines with the sides exchanged. -/
def ReverseJournalEntry.reversal (req : ReverseJournalEntry) (entry : BookEntry) : BookEntry where
  storeId := entry.storeId
  postingDate := req.today
  source := entry.source
  reversalOf := some req.journalEntryId
  lines := mirror entry.lines

/-! ### Closing -/

structure CloseAccountingPeriod where
  storeId : ℕ
  periodStart : Date
  periodEnd : Date
  callerStoreId : Option ℕ

/-- The row of a close: the store and the days that nothing is posted into any more. -/
def CloseAccountingPeriod.period (req : CloseAccountingPeriod) : AccountingPeriod :=
  ⟨req.storeId, req.periodStart, req.periodEnd⟩

/-- `close_accounting_period`; the periods of a store do not overlap. -/
def closeAccountingPeriod (b : Books) (req : CloseAccountingPeriod) : Result Books := do
  enforceStoreAccess req.callerStoreId req.storeId
  raiseIf (req.periodEnd < req.periodStart) (.validation .invalidPeriodRange)
  raiseIf (∃ p ∈ b.periods, p.Overlaps req.period) (.conflict .periodOverlap)
  return { b with periods := b.periods ++ [req.period] }

/-! ### The transactions -/

inductive BookRequest
  /-- A transaction that posts some entries, one after the other. -/
  | post (postings : List Posting)
  | reverse (req : ReverseJournalEntry)
  | close (req : CloseAccountingPeriod)

/-- An open transaction: what it has still to do, and the entries it has written. -/
inductive BookWork
  | post (todo : List Posting) (written : List BookEntry)
  | reverse (req : ReverseJournalEntry)
  | lockReversal (req : ReverseJournalEntry) (entry : BookEntry)
  | checkReversal (req : ReverseJournalEntry) (entry : BookEntry)
  | close (req : CloseAccountingPeriod)

/-- The entries that have been written and not committed. -/
def BookWork.written : BookWork → List BookEntry
  | post _ written => written
  | reverse _ | lockReversal _ _ | checkReversal _ _ | close _ => []

/-- The transactions.  The lock is the advisory lock on the id of the entry to be
reversed. -/
def bookkeeping : Program Books ℕ BookWork BookRequest where
  start
    | .post postings => .post postings []
    | .reverse req => .reverse req
    | .close req => .close req
  next
    | .post [] written => .commit fun b => (written.foldlM writeEntry b).toOption
    | .post (p :: todo) written => .read fun b =>
      (checkPosting b p).toOption.map fun _ => .post todo (written ++ [p.entry])
    | .reverse req => .read fun b =>
      (loadForReversal b req).toOption.map fun entry => .lockReversal req entry
    | .lockReversal req entry => .lock req.journalEntryId fun b =>
      (findReversal b req entry).toOption.map fun
        | some _ => .post [] []
        | none => .checkReversal req entry
    | .checkReversal req entry => .read fun b =>
      (b.enforcePeriodOpen entry.storeId req.today).toOption.map fun _ =>
        .post [] [req.reversal entry]
    | .close req => .commit fun b => (closeAccountingPeriod b req).toOption

/-! ### The journal of the tables -/

/-- An entry for a document, as the books see it: its lines, its day and its source. -/
def bookRow (e : Row JournalEntry) : Row BookEntry :=
  ⟨⟨e.val.storeId, e.val.postingDate, .automated e.val.sourceType e.val.sourceId, none,
    e.val.lines⟩, ⟨e.property.exactly_one_side, e.property.balanced⟩⟩

/-- The periods and entries of the tables; none of their entries is manual. -/
def Db.books (db : Db) : Books where
  periods := db.ledger.periods
  entries := db.ledger.entries.map bookRow

/-- **A posting is its look and its write, one after the other.** -/
theorem postJournal_books {db db' : Db} {storeId sourceId : ℕ} {postingDate : Date}
    {sourceType : SourceType} {lines : List JournalLine}
    (h : postJournal db storeId postingDate sourceType sourceId lines = .ok db') :
    checkPosting db.books ⟨storeId, postingDate, .automated sourceType sourceId, lines⟩ = .ok () ∧
      writeEntry db.books
        (Posting.entry ⟨storeId, postingDate, .automated sourceType sourceId, lines⟩)
          = .ok db'.books := by
  obtain ⟨hlines, hopen, hfresh, entry, hentry, rfl⟩ := postJournal_eq_ok.mp h
  -- the look: the entry has lines, and its day is open
  constructor
  · unfold checkPosting
    rw [check_bind_eq_ok, raiseIf_eq_ok]
    exact ⟨hlines, hopen⟩
  -- the write: no entry of the books has the same source
  · unfold writeEntry
    simp only [↓check_bind_eq_ok, bind_eq_ok, checkUnique_eq_ok, flush_eq_ok, pure_eq_ok]
    refine ⟨?_, bookRow entry, ?_, ?_⟩
    · rintro ⟨-, -, e, he, hsource, -⟩
      obtain ⟨j, hj, rfl⟩ := List.mem_map.mp he
      simp only [bookRow, Posting.entry, EntrySource.automated.injEq] at hsource
      exact hfresh ⟨j, hj, hsource⟩
    · unfold bookRow Posting.entry
      dsimp only
      rw [hentry]
    · unfold Db.books
      dsimp only
      rw [List.map_append, List.map_singleton]

/-! ### Runs -/

/-- A close that commits meets no transaction that has written an entry dated in the period
after looking for it. -/
def GatedClose (sv : Server Books ℕ BookWork) : Event BookRequest → Prop
  | .step k => ∀ req b, sv.sessions k = some (.close req) →
      closeAccountingPeriod sv.tables req = .ok b → ∀ j u, sv.sessions j = some u →
        ∀ e ∈ u.written, ¬req.period.Covers e.storeId e.postingDate
  | .begin _ _ | .rollback _ => True

/-- Nothing that the transaction has written is dated in a closed period. -/
def BookWork.OpenDated (b : Books) (t : BookWork) : Prop :=
  ∀ e ∈ t.written, ∀ p ∈ b.periods, ¬p.Covers e.storeId e.postingDate

/-- Since `b₀` no period has gone, and no entry has come that is dated in one of them. -/
structure Books.Since (b₀ b : Books) : Prop where
  periods : ∀ p ∈ b₀.periods, p ∈ b.periods
  entries : ∃ new, b.entries = b₀.entries ++ new ∧
    ∀ e ∈ new, ∀ p ∈ b₀.periods, ¬p.Covers e.val.storeId e.val.postingDate

section Runs

variable {b b' : Books}

theorem Books.Since.refl (b : Books) : b.Since b :=
  ⟨fun _ h => h, [], (List.append_nil _).symm, by simp⟩

theorem enforcePeriodOpen_ok {storeId : ℕ} {postingDate : Date}
    (h : b.enforcePeriodOpen storeId postingDate = .ok ()) :
    ∀ p ∈ b.periods, ¬p.Covers storeId postingDate := by
  unfold Books.enforcePeriodOpen at h
  rw [raiseIf_eq_ok] at h
  exact fun p hp hcovers => h ⟨p, hp, hcovers⟩

/-- The entries of a transaction are appended in order. -/
theorem writeEntries_ok {written : List BookEntry} (h : written.foldlM writeEntry b = .ok b') :
    b'.periods = b.periods ∧
      ∃ new, b'.entries = b.entries ++ new ∧ new.map (·.val) = written := by
  refine foldlM_induct (fun done t => t.periods = b.periods ∧
    ∃ new, t.entries = b.entries ++ new ∧ new.map (·.val) = done) h
    ⟨rfl, [], (List.append_nil _).symm, rfl⟩ ?_
  rintro done e rest t t' - ⟨hperiods, new, hentries, hnew⟩ hstep
  unfold writeEntry at hstep
  simp only [↓check_bind_eq_ok, bind_eq_ok, flush_eq_ok, pure_eq_ok] at hstep
  obtain ⟨-, entry, hentry, rfl⟩ := hstep
  refine ⟨hperiods, new ++ [entry], ?_, ?_⟩
  · rw [hentries, List.append_assoc]
  · rw [List.map_append, hnew, List.map_singleton, hentry]

theorem closeAccountingPeriod_ok {req : CloseAccountingPeriod}
    (h : closeAccountingPeriod b req = .ok b') :
    b' = { b with periods := b.periods ++ [req.period] } := by
  unfold closeAccountingPeriod at h
  simp only [↓check_bind_eq_ok, pure_eq_ok] at h
  exact h.2.2.2.symm

/-- What a read or a lock leaves the transaction with. -/
theorem bookkeeping_openDated {t t' : BookWork} {f : Books → Option BookWork}
    (h : t.OpenDated b) (hnext : bookkeeping.next t = .read f ∨
      ∃ key, bookkeeping.next t = .lock key f) (hf : f b = some t') : t'.OpenDated b := by
  -- only the two looks at the periods bring an entry along, and they have found its day open
  cases t with
  | post todo written =>
    cases todo with
    | nil => rcases hnext with hnext | ⟨key, hnext⟩ <;> cases hnext
    | cons p todo =>
      rcases hnext with hnext | ⟨key, hnext⟩
      · cases hnext
        obtain ⟨u, hu, rfl⟩ := Option.map_eq_some_iff.mp hf
        rw [toOption_eq_some] at hu
        unfold checkPosting at hu
        rw [check_bind_eq_ok] at hu
        intro e he
        rcases List.mem_append.mp he with he | he
        · exact h e he
        · rw [List.mem_singleton.mp he]
          exact enforcePeriodOpen_ok hu.2
      · cases hnext
  | reverse req =>
    rcases hnext with hnext | ⟨key, hnext⟩
    · cases hnext
      obtain ⟨entry, -, rfl⟩ := Option.map_eq_some_iff.mp hf
      rintro e ⟨⟩
    · cases hnext
  | lockReversal req entry =>
    rcases hnext with hnext | ⟨key, hnext⟩
    · cases hnext
    · cases hnext
      obtain ⟨found, -, rfl⟩ := Option.map_eq_some_iff.mp hf
      cases found with
      | none => rintro e ⟨⟩
      | some r => rintro e ⟨⟩
  | checkReversal req entry =>
    rcases hnext with hnext | ⟨key, hnext⟩
    · cases hnext
      obtain ⟨u, hu, rfl⟩ := Option.map_eq_some_iff.mp hf
      rw [toOption_eq_some] at hu
      intro e he
      rw [List.mem_singleton.mp he]
      exact enforcePeriodOpen_ok hu
    · cases hnext
  | close req => rcases hnext with hnext | ⟨key, hnext⟩ <;> cases hnext

/-- What a commit does to the books: it appends what the transaction has written, or a
period. -/
theorem bookkeeping_commit {t : BookWork} {f : Books → Option Books}
    (hnext : bookkeeping.next t = .commit f) (hf : f b = some b') :
    (b'.periods = b.periods ∧ ∃ new, b'.entries = b.entries ++ new ∧
        new.map (·.val) = t.written) ∨
      ∃ req, t = .close req ∧ closeAccountingPeriod b req = .ok b' := by
  cases t with
  | post todo written =>
    cases todo with
    | nil =>
      cases hnext
      exact .inl (writeEntries_ok (toOption_eq_some.mp hf))
    | cons p todo => cases hnext
  | reverse req => cases hnext
  | lockReversal req entry => cases hnext
  | checkReversal req entry => cases hnext
  | close req =>
    cases hnext
    exact .inr ⟨req, rfl, toOption_eq_some.mp hf⟩

/-- Gated closes keep the entries of open transactions, and those that commit, out of the
closed periods. -/
theorem bookkeeping_keeps (b₀ : Books) :
    bookkeeping.Keeps GatedClose b₀.Since (fun _ b t => t.OpenDated b) where
  start sv k r _ _ := by
    cases r with
    | post postings => rintro e ⟨⟩
    | reverse req => rintro e ⟨⟩
    | close req => rintro e ⟨⟩
  read _ _ _ _ _ _ h hnext hf := bookkeeping_openDated h (.inl hnext) hf
  lock _ _ _ _ key _ _ h hnext hf := bookkeeping_openDated h (.inr ⟨key, hnext⟩) hf
  commit sv k t f b hsv _ hopen hnext hf := by
    obtain ⟨hkept, added, hadded, hsince⟩ := hsv.tables
    rcases bookkeeping_commit hnext hf with ⟨hperiods, new, hentries, hnew⟩ | ⟨req, rfl, hclose⟩
    -- a commit of entries: those it writes were in open periods all along
    · refine ⟨hperiods ▸ hkept, added ++ new, ?_, fun e he p hp => ?_⟩
      · rw [hentries, hadded, List.append_assoc]
      · rcases List.mem_append.mp he with he | he
        · exact hsince e he p hp
        · have hwritten : e.val ∈ t.written := hnew ▸ List.mem_map_of_mem he
          exact hsv.sessions k t hopen e.val hwritten p (hkept p hp)
    -- a close: the entries of others are kept out of its period by the gate
    · rw [closeAccountingPeriod_ok hclose]
      exact ⟨fun p hp => List.mem_append_left _ (hkept p hp), added, hadded, hsince⟩
  stable sv k t f b j u hsv hok hopen hnext hf _ hj := by
    rcases bookkeeping_commit hnext hf with ⟨hperiods, -⟩ | ⟨req, rfl, hclose⟩
    · intro e he
      rw [hperiods]
      exact hsv.sessions j u hj e he
    · intro e he p hp
      have hgated := hok req b hopen hclose j u hj e he
      rw [closeAccountingPeriod_ok hclose] at hp
      rcases List.mem_append.mp hp with hp | hp
      · exact hsv.sessions j u hj e he p hp
      · rw [List.mem_singleton.mp hp]
        exact hgated

/-- **Where every close is gated**, no entry dated in a closed period of its store commits
after the close. -/
theorem closed_period_stays_closed {b₀ : Books} {sv sv' : Server Books ℕ BookWork}
    (h : Reaches bookkeeping.exec GatedClose { tables := b₀ } sv)
    (h' : Reaches bookkeeping.exec GatedClose sv sv') :
    ∃ new, sv'.tables.entries = sv.tables.entries ++ new ∧
      ∀ p ∈ sv.tables.periods, p ∈ sv'.tables.periods ∧
        ∀ e ∈ new, ¬p.Covers e.val.storeId e.val.postingDate := by
  have hsv := (bookkeeping_keeps b₀).reaches (Server.inv_of_tables (.refl b₀)) h
  have hsv' := (bookkeeping_keeps sv.tables).reaches ⟨.refl _, hsv.sessions, hsv.holders⟩ h'
  obtain ⟨hkept, new, hnew, hsince⟩ := hsv'.tables
  exact ⟨new, hnew, fun p hp => ⟨hkept p hp, fun e he => hsince e he p hp⟩⟩

end Runs

/-- A posting by hand on a day, of five from purchase clearing into the inventory. -/
def postingOn (postingDate : Date) : Posting :=
  ⟨0, postingDate, .manual, [⟨.inventory, 5, 0⟩, ⟨.purchaseClearing, 0, 5⟩]⟩

/-- The days up to the third are closed. -/
def closeDays : CloseAccountingPeriod := ⟨0, 0, 3, none⟩

/-- What has become of the server after some events. -/
def bookkeepingAfter (es : List (Event BookRequest)) (sv : Server Books ℕ BookWork) :
    Except Refused (Server Books ℕ BookWork) :=
  es.foldlM (fun sv e => bookkeeping.exec e sv) sv

def noBooks : Server Books ℕ BookWork := { tables := {} }

def closeBegun : Server Books ℕ BookWork :=
  value (bookkeeping.exec (.begin 0 (.close closeDays)) noBooks) (by decide +kernel)

def daysClosed : Server Books ℕ BookWork :=
  value (bookkeeping.exec (.step 0) closeBegun) (by decide +kernel)

def fourthDayBegun : Server Books ℕ BookWork :=
  value (bookkeeping.exec (.begin 0 (.post [postingOn 4])) daysClosed) (by decide +kernel)

def fourthDayLooked : Server Books ℕ BookWork :=
  value (bookkeeping.exec (.step 0) fourthDayBegun) (by decide +kernel)

def fourthDayPosted : Server Books ℕ BookWork :=
  value (bookkeeping.exec (.step 0) fourthDayLooked) (by decide +kernel)

/-- A close is gated where no other transaction is open. -/
theorem gatedClose_closeBegun : GatedClose closeBegun (.step 0) := by
  intro req b _ _ j u hu e he
  by_cases hj : j = 0
  · subst hj
    cases hu
    cases he
  · change Function.update (fun _ => none) 0 (some (BookWork.close closeDays)) j = some u at hu
    rw [Function.update_of_ne hj] at hu
    cases hu

/-- The days are closed, and the day after is posted. -/
theorem closed_period_stays_closed_days :
    ∃ new, fourthDayPosted.tables.entries = daysClosed.tables.entries ++ new ∧
      ∀ p ∈ daysClosed.tables.periods, p ∈ fourthDayPosted.tables.periods ∧
        ∀ e ∈ new, ¬p.Covers e.val.storeId e.val.postingDate := by
  have hbegun : Reaches bookkeeping.exec GatedClose noBooks closeBegun :=
    .next (r := .begin 0 (.close closeDays)) .start trivial (eq_ok_value _ _)
  have hclosed : Reaches bookkeeping.exec GatedClose noBooks daysClosed :=
    .next (r := .step 0) hbegun gatedClose_closeBegun (eq_ok_value _ _)
  have hopened : Reaches bookkeeping.exec GatedClose daysClosed fourthDayBegun :=
    .next (r := .begin 0 (.post [postingOn 4])) .start trivial (eq_ok_value _ _)
  have hlooked : Reaches bookkeeping.exec GatedClose daysClosed fourthDayLooked := by
    refine .next (r := .step 0) hopened ?_ (eq_ok_value _ _)
    rintro req b ⟨⟩
  have hposted : Reaches bookkeeping.exec GatedClose daysClosed fourthDayPosted := by
    refine .next (r := .step 0) hlooked ?_ (eq_ok_value _ _)
    rintro req b ⟨⟩
  exact closed_period_stays_closed hclosed hposted

/-! ### A close between the look and the write -/

/-- A posting looks for closed periods and finds none; then the days are closed. -/
def closedAfterLook : Server Books ℕ BookWork :=
  value (bookkeepingAfter [.begin 0 (.post [postingOn 3]), .step 0, .begin 1 (.close closeDays),
    .step 1] noBooks) (by decide +kernel)

/-- The posting is written and commits, into a day that is closed by now. -/
def postedAfterClose : Server Books ℕ BookWork :=
  value (bookkeepingAfter [.step 0] closedAfterLook) (by decide +kernel)

/-- An entry dated in a closed period commits after the close. -/
theorem entry_in_closed_period :
    ¬∀ sv sv' : Server Books ℕ BookWork,
      Reaches bookkeeping.exec (fun _ _ => True) noBooks sv →
      Reaches bookkeeping.exec (fun _ _ => True) sv sv' →
      ∃ new, sv'.tables.entries = sv.tables.entries ++ new ∧
        ∀ p ∈ sv.tables.periods, p ∈ sv'.tables.periods ∧
          ∀ e ∈ new, ¬p.Covers e.val.storeId e.val.postingDate := by
  intro hall
  obtain ⟨new, hnew, hnone⟩ := hall closedAfterLook postedAfterClose
    (reaches_of_foldlM (eq_ok_value _ _)) (reaches_of_foldlM (eq_ok_value _ _))
  have hempty : closedAfterLook.tables.entries = [] := by
    rw [← List.length_eq_zero_iff]
    decide +kernel
  rw [hempty, List.nil_append] at hnew
  have hcovered : ∃ p ∈ closedAfterLook.tables.periods, ∃ e ∈ postedAfterClose.tables.entries,
      p.Covers e.val.storeId e.val.postingDate := by
    decide +kernel
  obtain ⟨p, hp, e, he, hcovers⟩ := hcovered
  exact (hnone p hp).2 e (hnew ▸ he) hcovers

end GroceryErp
