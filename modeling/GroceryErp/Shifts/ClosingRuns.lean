import GroceryErp.Shifts.Closing
import GroceryErp.System.SaleReplays

/-!
# Closing a shift among its sales

The lock on the row of a shift is held by whoever is about to write under the shift, until the
commit.  So what the close has added up under its lock is what there is when it commits, and
once it has, nothing finds the shift open.

## Main definitions

* `TillSession.Knows` — what a session knows under its lock.
* `TillStep` — what a commit may do.
* `TillInv` — the invariant of the tables.

## Main results

* `TillSession.step` — every commit is such a step.
* `TillStep.inv`, `TillStep.knows` — what it keeps.
* `shifts_closed_on_their_rows` — over any run.
-/

namespace GroceryErp

open Decimal Outcome Rows Runs Transactions

/-! ### What a session knows -/

namespace TillSession

/-- The shift whose row the session has locked, to write under it. -/
def target : TillSession → Option ℕ
  | attributed _ shiftId => shiftId
  | movementChecked req => some req.shiftId
  | closeChecked req => some req.shiftId
  | closeCounted req _ => some req.shiftId
  | _ => none

/-- What a close has added up is the float and what the rows of the shift leave in the till. -/
def Counted (db : Db) : TillSession → Prop
  | closeCounted req expected => ∀ shift : Row CashierShift,
    db.shifts.shifts[req.shiftId]? = some shift →
      expected = shift.val.openingFloat + tillCash db req.shiftId
  | _ => True

/-- The shift that the session is about to write under is locked and open. -/
structure Knows (held : TillLock → Prop) (db : Db) (t : TillSession) : Prop where
  held : ∀ i, t.target = some i → held (.shift i)
  opened : ∀ i, t.target = some i → HasAt db.shifts.shifts (·.val.status) i .opened
  counted : t.Counted db

theorem knows_of_no_target {held : TillLock → Prop} {db : Db} {t : TillSession}
    (h : t.target = none) : t.Knows held db := by
  refine ⟨?_, ?_, ?_⟩
  · intro i hi
    rw [h] at hi
    cases hi
  · intro i hi
    rw [h] at hi
    cases hi
  · cases t with
    | closeCounted req expected => cases h
    | _ => trivial

end TillSession

/-! ### What a commit does -/

/-- What a commit does to the shifts: it opens one, closes one, or leaves them alone. -/
inductive ShiftWrite (t : TillSession) (db db' : Db) : Prop
  | none (shifts : db'.shifts.shifts = db.shifts.shifts)
  | opens (shift : Row CashierShift) (opened : shift.val.status = .opened)
      (shifts : db'.shifts.shifts = db.shifts.shifts ++ [shift])
  /-- A close writes the row of its shift, and nothing else that a till counts. -/
  | closes (req : CloseShift) (expected : ℚ) (shift closed : Row CashierShift)
      (counted : t = .closeCounted req expected)
      (found : db.shifts.shifts[req.shiftId]? = some shift)
      (written : closed.val = req.row shift.val expected)
      (shifts : db'.shifts.shifts = db.shifts.shifts.set req.shiftId closed)
      (sales : db'.sales = db.sales) (movements : db'.shifts.movements = db.shifts.movements)

/-- What a commit of a session may do. -/
structure TillStep (t : TillSession) (db db' : Db) : Prop where
  rows : TillRows db'
  kept : KeepsAttributed db db'
  /-- The till of a shift that is not locked is left alone. -/
  others : ∀ i, t.target ≠ some i → SameTill i db db'
  shifts : ShiftWrite t db db'

section Commits

variable {db d db' : Db} {t : TillSession}

/-- Columns that a till counts are not rounded again. -/
theorem TillStep.commit (h : TillStep t db d) : TillStep t db d.commit := by
  obtain ⟨⟨payments, sales, returns, movements, floats⟩, kept, others, shifts⟩ := h
  refine ⟨⟨payments, sales, returns, movements, floats⟩, ?_, ?_, ?_⟩
  · exact kept.trans (keepsAttributed_of_eq rfl rfl)
  · intro i hi
    obtain ⟨hrows, hcash⟩ := others i hi
    obtain ⟨hsame, hsum⟩ : SameTill i d d.commit := sameTill_of_eq rfl rfl
    exact ⟨hrows.trans hsame, hsum.trans hcash⟩
  · cases shifts with
    | none shifts => exact .none shifts
    | opens shift opened shifts => exact .opens shift opened shifts
    | closes req expected shift closed counted found written shifts sales movements =>
      exact .closes req expected shift closed counted found written shifts sales movements

theorem TillStep.unchanged (hrows : TillRows db) : TillStep t db db where
  rows := hrows
  kept := .refl db
  others _ _ := sameTill_of_eq rfl rfl
  shifts := .none rfl

/-- A shift opens with nothing in its till but the float. -/
theorem openShift_step {req : OpenShift} {shiftId : ℕ} (hrows : TillRows db)
    (h : openShift db req = .ok (d, shiftId)) : TillStep t db d := by
  rcases openShift_ok h with rfl | ⟨shift, hshift, -, -, rfl⟩
  · exact .unchanged hrows
  · obtain ⟨payments, sales, returns, movements, floats⟩ := hrows
    refine ⟨⟨payments, sales, returns, movements, ?_⟩, keepsAttributed_of_eq rfl rfl, ?_, ?_⟩
    · refine List.forall_mem_append.mpr ⟨floats, List.forall_mem_singleton.mpr ?_⟩
      rw [hshift]
      exact onGrid_numeric 2 _
    · intro i _
      exact sameTill_of_eq rfl rfl
    · refine .opens shift ?_ rfl
      rw [hshift]
      rfl

/-- A movement counts in the till of its shift. -/
theorem insertMovement_step {req : RecordCashMovement} {movementId : ℕ} (hrows : TillRows db)
    (h : insertMovement db req = .ok (d, movementId)) :
    TillStep (.movementChecked req) db d := by
  rcases insertMovement_ok h with rfl | ⟨movement, hmovement, rfl⟩
  · exact .unchanged hrows
  · obtain ⟨payments, sales, returns, movements, floats⟩ := hrows
    have hshift : movement.val.shiftId = req.shiftId := by
      rw [hmovement]
      rfl
    refine ⟨⟨payments, sales, returns, ?_, floats⟩, ?_, ?_, .none rfl⟩
    · refine List.forall_mem_append.mpr ⟨movements, List.forall_mem_singleton.mpr ?_⟩
      rw [hmovement]
      exact onGrid_numeric 2 _
    · exact ⟨fun _ _ hi => hi, fun _ _ hi => hi, fun _ _ hi => hi.append [movement]⟩
    · intro i hi
      have hother : movement.val.shiftId ≠ i := by
        intro hsame
        exact hi (congrArg some (hshift.symm.trans hsame))
      refine ⟨⟨fun _ => Iff.rfl, fun _ => Iff.rfl, ?_⟩, ?_⟩
      · intro j
        rw [HasAt.append_singleton_iff]
        exact or_iff_left fun hnew => hother hnew.2
      · unfold tillCash cashMoved
        simp only [sumWhere_append, sumWhere_singleton, hother, false_and, if_false, add_zero]
        rfl

/-- A close writes the row of its shift. -/
theorem settleShift_step {req : CloseShift} {expected : ℚ} {shiftId : ℕ} (hrows : TillRows db)
    (h : settleShift db req expected = .ok (d, shiftId)) :
    TillStep (.closeCounted req expected) db d := by
  rcases settleShift_ok h with rfl | ⟨shift, closed, hshift, hclosed, hpost⟩
  · exact .unchanged hrows
  · have hframe := postCashShiftVarianceJournal_frame hpost
    have hsales : d.sales = db.sales := by rw [hframe]
    have hmovements : d.shifts.movements = db.shifts.movements := by rw [hframe]
    have hshifts : d.shifts.shifts = db.shifts.shifts.set req.shiftId closed := by rw [hframe]
    obtain ⟨payments, sales, returns, movements, floats⟩ := hrows
    refine ⟨⟨?_, ?_, ?_, ?_, ?_⟩, keepsAttributed_of_eq hsales hmovements, ?_, ?_⟩
    · rwa [hsales]
    · rwa [hsales]
    · rwa [hsales]
    · rwa [hmovements]
    · intro s hs
      rw [hshifts] at hs
      rcases List.mem_or_eq_of_mem_set hs with hold | rfl
      · exact floats s hold
      · rw [hclosed]
        exact floats shift (List.mem_of_getElem? hshift)
    · intro i _
      exact sameTill_of_eq hsales hmovements
    · exact .closes req expected shift closed rfl hshift hclosed hshifts hsales hmovements

/-- **What a session commits**, case by case: every commit of a till session is one of these steps.
-/
theorem TillSession.step {f : Db → Option Db} (hrows : TillRows db)
    (hnext : t.next = .commit f) (h : f db = some db') : TillStep t db db' := by
  cases t with
  | begun work =>
    cases work with
    | openShift req =>
      cases hnext
      obtain ⟨d, hd, rfl⟩ := committed_eq_some.mp h
      obtain ⟨⟨d, shiftId⟩, hopen, rfl⟩ := map_eq_ok.mp hd
      exact (openShift_step hrows hopen).commit
    -- these read first, and commit from a later state
    | recordCashMovement | closeShift | finalizeSale | createSaleReturn | voidSale => cases hnext
  | answered =>
    cases hnext
    cases h
    exact .unchanged hrows
  | attributed entry shiftId =>
    cases hnext
    obtain ⟨d, hd, rfl⟩ := committed_eq_some.mp h
    have hwrites := TillEntry.finish_ok hd
    refine TillStep.commit ⟨hwrites.rows hrows, hwrites.keepsAttributed, ?_, ?_⟩
    -- the lock is on the shift that the row is attributed to, so other tills are the same
    · intro i hi
      exact hwrites.sameTill hrows hi
    · have hshifts : d.shifts = db.shifts := by
        cases hwrites with
        | nothing _ shifts => exact shifts
        | sale => assumption
        | saleReturn => assumption
      exact .none (by rw [hshifts])
  | movementChecked req =>
    cases hnext
    obtain ⟨d, hd, rfl⟩ := committed_eq_some.mp h
    obtain ⟨⟨d, movementId⟩, hinsert, rfl⟩ := map_eq_ok.mp hd
    exact (insertMovement_step hrows hinsert).commit
  | closeCounted req expected =>
    cases hnext
    obtain ⟨d, hd, rfl⟩ := committed_eq_some.mp h
    obtain ⟨⟨d, shiftId⟩, hsettle, rfl⟩ := map_eq_ok.mp hd
    exact (settleShift_step hrows hsettle).commit
  | returnMissed | ready | found | movementMissed | closeMissed | closeChecked => cases hnext

/-- The row of a shift that is not locked is left alone. -/
theorem TillStep.shift_kept (h : TillStep t db db') {i : ℕ} (hi : t.target ≠ some i)
    {shift : Row CashierShift} (hshift : db.shifts.shifts[i]? = some shift) :
    db'.shifts.shifts[i]? = some shift := by
  cases h.shifts with
  | none shifts => rwa [shifts]
  | opens new opened shifts =>
    rw [shifts, List.getElem?_append_left (List.getElem?_eq_some_iff.mp hshift).1, hshift]
  | closes req expected old closed counted found written shifts sales movements =>
    have hne : req.shiftId ≠ i := by
      rintro rfl
      subst counted
      exact hi rfl
    rw [shifts, getElem?_set_of_some found, if_neg hne, hshift]

end Commits

/-! ### The invariant -/

/-- A shift that is closed stays as it is, and so do its rows. -/
def ClosedSince (base db : Db) : Prop :=
  ∀ (i : ℕ) (shift : Row CashierShift), base.shifts.shifts[i]? = some shift →
    shift.val.status = .closed → db.shifts.shifts[i]? = some shift ∧ SameRows i base db

/-- The invariant of the tables, with `base` what has been committed before. -/
structure TillInv (base db : Db) : Prop where
  rows : TillRows db
  closed : ∀ (i : ℕ) (shift : Row CashierShift), db.shifts.shifts[i]? = some shift →
    shift.val.status = .closed → ClosedOn db i shift.val
  since : ClosedSince base db
  kept : KeepsAttributed base db

section Invariant

variable {base db db' : Db} {t : TillSession} {held : TillLock → Prop}

theorem TillInv.rebase (h : TillInv base db) : TillInv db db := by
  refine ⟨h.rows, h.closed, ?_, .refl db⟩
  intro i shift hshift _
  exact ⟨hshift, .refl i db⟩

theorem ClosedOn.congr {i : ℕ} {shift : CashierShift} (h : ClosedOn db i shift)
    (hcash : tillCash db' i = tillCash db i) : ClosedOn db' i shift := by
  obtain ⟨hexpected, hvariance⟩ := h
  refine ⟨?_, ?_⟩
  · rwa [hcash]
  · rwa [hcash]

/-- A shift that is closed is not what a session has locked to write under. -/
theorem TillSession.Knows.ne_of_closed (h : t.Knows held db) {i : ℕ} {shift : Row CashierShift}
    (hshift : db.shifts.shifts[i]? = some shift) (hclosed : shift.val.status = .closed) :
    t.target ≠ some i := by
  intro hi
  have hopen : shift.val.status = .opened := (h.opened i hi).eq_of_row hshift
  rw [hclosed] at hopen
  cases hopen

/-- **What is expected at the close is what has been added up, and the CHECK of the row is the
variance.** -/
theorem closedOn_of_settled {req : CloseShift} {expected : ℚ} {shift closed : Row CashierShift}
    (hrows : TillRows db) (hshift : db.shifts.shifts[req.shiftId]? = some shift)
    (hcounted : expected = shift.val.openingFloat + tillCash db req.shiftId)
    (hwritten : closed.val = req.row shift.val expected) :
    ClosedOn db req.shiftId closed.val := by
  have hexact : numeric 2 expected = expected := by
    rw [hcounted, ← computeExpectedCash_eq hrows (hrows.shifts shift (List.mem_of_getElem? hshift))]
    exact numeric_eq_self (onGrid_quantize 2 _)
  have hfloat : closed.val.openingFloat = shift.val.openingFloat := by
    rw [hwritten]
    rfl
  have hexpected : closed.val.expectedCashAmount = some expected := by
    rw [hwritten]
    exact congrArg some hexact
  have hcount : closed.val.closingCountedAmount = some (numeric 2 req.closingCountedAmount) := by
    rw [hwritten]
    rfl
  have hvariance : closed.val.varianceAmount = some (numeric 2 (req.variance expected)) := by
    rw [hwritten]
    rfl
  refine ⟨?_, numeric 2 req.closingCountedAmount, hcount, ?_⟩
  · rw [hexpected, hfloat, hcounted]
  · rcases closed.2.variance_consistent with hopen | hconsistent
    · rw [hwritten] at hopen
      cases hopen
    · have hsame := hconsistent _ hvariance _ hcount _ hexpected
      rw [hvariance, hsame, hfloat, hcounted]

/-- **A commit keeps the invariant** of the tills: what a shift was closed on is still what its rows
come to. -/
theorem TillStep.inv (h : TillStep t db db') (hI : TillInv base db) (hQ : t.Knows held db) :
    TillInv base db' := by
  refine ⟨h.rows, ?_, ?_, hI.kept.trans h.kept⟩
  · intro i shift hshift hclosed
    -- a shift that was closed before
    have hbefore : db.shifts.shifts[i]? = some shift → ClosedOn db' i shift.val := by
      intro hold
      have hne : t.target ≠ some i := hQ.ne_of_closed hold hclosed
      exact (hI.closed i shift hold hclosed).congr (h.others i hne).cash
    cases h.shifts with
    | none shifts => exact hbefore (shifts ▸ hshift)
    | opens new opened shifts =>
      rw [shifts] at hshift
      rcases getElem?_append_singleton_eq_some.mp hshift with hold | ⟨-, rfl⟩
      · exact hbefore hold
      · rw [opened] at hclosed
        cases hclosed
    | closes req expected old closed counted found written shifts sales movements =>
      rw [shifts, getElem?_set_of_some found] at hshift
      split at hshift
      · next hi =>
        subst hi
        subst counted
        rw [Option.some.injEq] at hshift
        subst hshift
        refine (closedOn_of_settled hI.rows found (hQ.counted old found) written).congr ?_
        exact (sameTill_of_eq sales movements).cash
      · exact hbefore hshift
  · intro i shift hshift hclosed
    obtain ⟨hold, hrows⟩ := hI.since i shift hshift hclosed
    have hne : t.target ≠ some i := hQ.ne_of_closed hold hclosed
    exact ⟨h.shift_kept hne hold, hrows.trans (h.others i hne).rows⟩

/-- **What a session knows under its lock is kept by who does not have it.** -/
theorem TillStep.knows (h : TillStep t db db') {u : TillSession} (hQ : u.Knows held db)
    (hapart : ∀ i, u.target = some i → t.target ≠ some i) : u.Knows held db' := by
  refine ⟨hQ.held, ?_, ?_⟩
  · intro i hi
    obtain ⟨shift, hshift, hopen⟩ := hQ.opened i hi
    exact ⟨shift, h.shift_kept (hapart i hi) hshift, hopen⟩
  · cases u with
    | closeCounted req expected =>
      intro shift hshift
      obtain ⟨old, hold, -⟩ := hQ.opened req.shiftId rfl
      have hkept := h.shift_kept (hapart req.shiftId rfl) hold
      have hsame : old = shift := Option.some.inj (hkept.symm.trans hshift)
      subst hsame
      rw [(h.others req.shiftId (hapart req.shiftId rfl)).cash]
      exact hQ.counted old hold
    | _ => trivial

/-- What a read lets a session know. -/
theorem knows_of_read {t' : TillSession} {f : Db → Option TillSession} (hrows : TillRows db)
    (hQ : t.Knows held db) (hnext : t.next = .read f) (h : f db = some t') :
    t'.Knows held db := by
  cases t with
  | begun work =>
    apply TillSession.knows_of_no_target
    cases work with
    | openShift | voidSale => cases hnext
    | recordCashMovement req =>
      cases hnext
      obtain ⟨found, -, h⟩ := bind_eq_ok.mp (toOption_eq_some.mp h)
      cases found with
      | some found => cases h; rfl
      | none =>
        simp only [↓check_bind_eq_ok, pure_eq_ok] at h
        obtain ⟨-, rfl⟩ := h
        rfl
    | closeShift req =>
      cases hnext
      obtain ⟨found, -, h⟩ := bind_eq_ok.mp (toOption_eq_some.mp h)
      cases found with
      | some found => cases h; rfl
      | none =>
        simp only [↓check_bind_eq_ok, pure_eq_ok] at h
        obtain ⟨-, rfl⟩ := h
        rfl
    | finalizeSale req =>
      cases hnext
      obtain ⟨found, -, h⟩ := bind_eq_ok.mp (toOption_eq_some.mp h)
      cases found with
      | some found => cases h; rfl
      | none => cases h; rfl
    | createSaleReturn req =>
      cases hnext
      obtain ⟨found, -, h⟩ := bind_eq_ok.mp (toOption_eq_some.mp h)
      cases found with
      | some found => cases h; rfl
      | none => cases h; rfl
  | ready entry =>
    apply TillSession.knows_of_no_target
    cases hnext
    obtain ⟨found, -, h⟩ := bind_eq_ok.mp (toOption_eq_some.mp h)
    cases found with
    | some found => cases h; rfl
    | none => cases h; rfl
  | closeChecked req =>
    cases hnext
    obtain ⟨expected, hexpected, h⟩ := bind_eq_ok.mp (toOption_eq_some.mp h)
    cases h
    refine ⟨hQ.held, hQ.opened, ?_⟩
    -- the shift is locked since it was checked, so what is counted is its till until the commit
    intro shift hshift
    obtain ⟨found, hfound, rfl⟩ := expectedCash_eq_ok.mp hexpected
    have hsame : found = shift := Option.some.inj (hfound.symm.trans hshift)
    subst hsame
    exact computeExpectedCash_eq hrows (hrows.shifts found (List.mem_of_getElem? hfound)) _
  | answered | returnMissed | found | attributed | movementMissed | movementChecked | closeMissed
  | closeCounted => cases hnext

/-- What the lock of a row lets a session know. -/
theorem knows_of_lock {t' : TillSession} {key : TillLock} {f : Db → Option TillSession}
    (hnext : t.next = .lock key f) (h : f db = some t') :
    t'.Knows (fun i => i = key ∨ held i) db := by
  cases t with
  | begun work =>
    apply TillSession.knows_of_no_target
    cases work with
    | openShift | recordCashMovement | closeShift | finalizeSale | createSaleReturn => cases hnext
    | voidSale req =>
      cases hnext
      obtain ⟨saleReturn, -, h⟩ := bind_eq_ok.mp (toOption_eq_some.mp h)
      cases h
      rfl
  | returnMissed req =>
    apply TillSession.knows_of_no_target
    cases hnext
    obtain ⟨found, -, h⟩ := bind_eq_ok.mp (toOption_eq_some.mp h)
    cases found with
    | some found => cases h; rfl
    | none => cases h; rfl
  | found entry shiftId =>
    cases hnext
    cases h
    -- the row may no longer be what was found
    by_cases hstill : ∃ s ∈ db.shifts.shifts[shiftId]?, some s.val.cashierId = entry.cashier ∧
        s.val.status = .opened
    · rw [relockShift, if_pos hstill]
      obtain ⟨shift, hshift, -, hopen⟩ := hstill
      refine ⟨?_, ?_, trivial⟩
      · rintro i ⟨⟩
        exact .inl rfl
      · rintro i ⟨⟩
        exact ⟨shift, hshift, hopen⟩
    · rw [relockShift, if_neg hstill]
      exact TillSession.knows_of_no_target rfl
  | movementMissed req =>
    cases hnext
    have hcheck := toOption_eq_some.mp h
    simp only [↓check_bind_eq_ok, pure_eq_ok] at hcheck
    obtain ⟨hcheck, rfl⟩ := hcheck
    refine ⟨?_, ?_, trivial⟩
    · rintro i ⟨⟩
      exact .inl rfl
    · rintro i ⟨⟩
      exact checkMovement_ok hcheck
  | closeMissed req =>
    cases hnext
    obtain ⟨found, hcheck, h⟩ := bind_eq_ok.mp (toOption_eq_some.mp h)
    cases found with
    | some found =>
      cases h
      exact TillSession.knows_of_no_target rfl
    | none =>
      cases h
      refine ⟨?_, ?_, trivial⟩
      · rintro i ⟨⟩
        exact .inl rfl
      · rintro i ⟨⟩
        exact checkClose_ok hcheck
  | answered | ready | attributed | movementChecked | closeChecked | closeCounted => cases hnext

end Invariant

/-! ### Runs -/

section Runs

variable {db₀ : Db} {sv sv' : TillServer}

/-- The events of a run keep the invariant. -/
theorem till_keeps (base : Db) :
    till.Keeps (fun _ _ => True) (TillInv base) TillSession.Knows where
  start _ _ work _ _ := TillSession.knows_of_no_target rfl
  read _ _ _ _ _ hI hQ hnext h := knows_of_read hI.rows hQ hnext h
  lock _ _ _ _ _ _ _ _ hnext h := knows_of_lock hnext h
  commit sv k t f s hinv _ hopen hnext h :=
    (TillSession.step hinv.tables.rows hnext h).inv hinv.tables (hinv.sessions k t hopen)
  stable sv k t f s j u hinv _ hopen hnext h hjk hj := by
    refine (TillSession.step hinv.tables.rows hnext h).knows (hinv.sessions j u hj) ?_
    intro i hu ht
    -- one shift is locked by one session
    have hheld : sv.holder (.shift i) = some j := (hinv.sessions j u hj).held i hu
    have hheld' : sv.holder (.shift i) = some k := (hinv.sessions k t hopen).held i ht
    rw [hheld, Option.some.injEq] at hheld'
    exact hjk hheld'

theorem Db.BeforeShifts.inv (h : db₀.BeforeShifts) : TillInv db₀ db₀ := by
  refine ⟨h.rows, ?_, ?_, .refl db₀⟩
  · intro i shift hshift
    rw [h.shifts] at hshift
    cases hshift
  · intro i shift hshift
    rw [h.shifts] at hshift
    cases hshift

/-- **In any run a shift is closed on the rows that are ever attributed to it.**  The expected
cash of a closed shift is its float and what its rows leave in the till, and its variance is the
count above that; whatever happens after, no row is attributed to it and none is taken away. -/
theorem shifts_closed_on_their_rows (hstart : db₀.BeforeShifts)
    (hrun : Reaches till.exec (fun _ _ => True) { tables := db₀ } sv) :
    (∀ (i : ℕ) (shift : Row CashierShift), sv.tables.shifts.shifts[i]? = some shift →
      shift.val.status = .closed → ClosedOn sv.tables i shift.val) ∧
    ∀ sv', Reaches till.exec (fun _ _ => True) sv sv' →
      ClosedSince sv.tables sv'.tables ∧ KeepsAttributed sv.tables sv'.tables := by
  have hinv := (till_keeps db₀).reaches (Server.inv_of_tables hstart.inv) hrun
  refine ⟨hinv.tables.closed, ?_⟩
  intro sv' hrest
  have hbase : sv.Inv (TillInv sv.tables) TillSession.Knows :=
    ⟨hinv.tables.rebase, hinv.sessions, hinv.holders⟩
  have hafter := (till_keeps sv.tables).reaches hbase hrest
  exact ⟨hafter.tables.since, hafter.tables.kept⟩

end Runs

/-- A shift with a float of ten. -/
def openTill : OpenShift where
  storeId := 0
  cashierId := 0
  openingFloat := 10
  clientTransactionId := "shift-1"
  callerStoreId := none

/-- The drawer is counted, and half a unit is missing. -/
def closeTill : CloseShift where
  shiftId := 0
  closingCountedAmount := 23 / 2
  actorId := 0
  callerStoreId := none
  clientTransactionId := "close-1"
  today := 0

/-- Another apple is sold at the same till, under a key of its own. -/
def sellSecondApple : FinalizeSale := { sellApple with clientTransactionId := "till-2" }

/-- Both apples are on their way to the shift when it is closed.  The first has the lock on it,
and the close waits. -/
def closedAmidSales : List (Event TillWork) :=
  [.begin 0 (.openShift openTill), .step 0,
    .begin 1 (.finalizeSale sellApple), .begin 2 (.closeShift closeTill),
    .begin 3 (.finalizeSale sellSecondApple), .step 1, .step 1, .step 3, .step 3, .step 1, .step 2,
    .step 1, .step 2, .step 2, .step 2]

def tillClosed : TillServer :=
  value (closedAmidSales.foldlM (fun sv e => till.exec e sv) { tables := twoApples })
    (by decide +kernel)

/-- The second sale has its lock, and finds the shift closed. -/
def soldAfterClose : TillServer :=
  value ([.step 3, .step 3].foldlM (fun sv e => till.exec e sv) tillClosed) (by decide +kernel)

/-- The first sale is in the shift and the second is in none. -/
theorem shifts_closed_on_their_rows_apples :
    (∃ shift : Row CashierShift, tillClosed.tables.shifts.shifts[0]? = some shift ∧
      shift.val.expectedCashAmount = some 12 ∧ shift.val.varianceAmount = some (-1 / 2 : ℚ) ∧
      ClosedOn tillClosed.tables 0 shift.val) ∧
    ClosedSince tillClosed.tables soldAfterClose.tables ∧
    soldAfterClose.tables.sales.sales.map (·.val.shiftId) = [some 0, none] := by
  have hstart : twoApples.BeforeShifts := by
    refine ⟨rfl, ?_, ?_, ?_, ?_, ?_⟩ <;> exact List.forall_mem_nil _
  obtain ⟨hclosed, hafter⟩ := shifts_closed_on_their_rows hstart
    (reaches_of_foldlM (eq_ok_value (closedAmidSales.foldlM _ _) _))
  obtain ⟨hsince, -⟩ := hafter soldAfterClose (reaches_of_foldlM (eq_ok_value _ _))
  have hshift : ∃ shift ∈ tillClosed.tables.shifts.shifts[0]?, shift.val.status = .closed ∧
      shift.val.expectedCashAmount = some 12 ∧ shift.val.varianceAmount = some (-1 / 2 : ℚ) := by
    decide +kernel
  obtain ⟨shift, hat, hstatus, hexpected, hvariance⟩ := hshift
  refine ⟨⟨shift, hat, hexpected, hvariance, hclosed 0 shift hat hstatus⟩, hsince, ?_⟩
  decide +kernel

end GroceryErp
