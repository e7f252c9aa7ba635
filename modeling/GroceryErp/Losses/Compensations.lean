import GroceryErp.Accounting.Compensations
import GroceryErp.Losses.WriteOffs

/-!
# Reversed write-offs

A write-off is posted when it is approved, and posted back when it is reversed, each time
with the amount of its row.

## Main definitions

* `writeOffTaken`, `WriteOffUndone` — what a write-off has posted, and whether it is reversed.
* `WriteOffsMirrored` — the reversals mirror the postings.

## Main results

* `createWriteOff_mirrored`, `approveWriteOff_mirrored`, `denyWriteOff_mirrored`,
  `reverseWriteOff_mirrored` — every request keeps that.

## References

`backend/app/modules/writeoffs/service.py`, `accounting/service.py`.
-/

namespace GroceryErp

open Decimal Ledger Outcome Rows

/-- The store a write-off has been charged to, which is none until it is posted and the same one
after a reversal. -/
def TransferWriteOff.chargedTo (w : TransferWriteOff) : Option ℕ :=
  if w.status = .posted ∨ w.status = .reversed then some w.storeId else none

/-- The lines of a write-off: its amount goes from the goods in transit to the shrinkage expense. -/
def writeOffLines (w : TransferWriteOff) : List JournalLine :=
  [debit .inventoryShrinkageExpense w.amount, credit .inventoryInTransit w.amount]

/-- What a posted write-off takes from an account of a store, by the row of the write-off. -/
def writeOffTaken (db : Db) : ℕ → ℕ → Account → ℚ :=
  takenOf db.losses.writeOffs (·.val.chargedTo) fun _ w => writeOffLines w.val

/-- The write-off has been reversed, so that a second entry takes its amounts back. -/
def WriteOffUndone (db : Db) (i : ℕ) : Prop :=
  ∃ w, db.losses.writeOffs[i]? = some w ∧ w.val.status = .reversed

/-- The entries of write-offs mirror each other: what is posted for one is what it takes, and for
one that is reversed the same the other way as well. -/
def WriteOffsMirrored (db : Db) : Prop :=
  Mirrored db .transferWriteOff .transferWriteOffReversal (writeOffTaken db) (WriteOffUndone db)

/-- The kinds of entries that write-offs post, which no other request writes. -/
def WriteOffKind (t : SourceType) : Prop := t = .transferWriteOff ∨ t = .transferWriteOffReversal

/-- A request on write-offs writes them, transfer lines and the ledger. -/
structure WriteOffsOnly (db db' : Db) : Prop where
  payables : db'.payables = db.payables
  payroll : db'.payroll = db.payroll
  purchasing : db'.purchasing = db.purchasing
  posts : Posts WriteOffKind db db'

section Requests

variable {db db' : Db}

theorem WriteOffsOnly.refl (db : Db) : WriteOffsOnly db db := ⟨rfl, rfl, rfl, .of_eq rfl⟩

/-- Requests that leave the write-offs alone. -/
theorem WriteOffsMirrored.outside (h : WriteOffsMirrored db) {kinds : SourceType → Prop}
    (hposts : Posts kinds db db') (hkinds : ∀ t, WriteOffKind t → ¬kinds t)
    (hwriteOffs : db'.losses.writeOffs = db.losses.writeOffs) : WriteOffsMirrored db' := by
  refine Mirrored.kept h hposts (hkinds _ (.inl rfl)) (hkinds _ (.inr rfl)) (fun i s a => ?_)
    fun i => ?_
  · unfold writeOffTaken
    rw [hwriteOffs]
  · unfold WriteOffUndone
    rw [hwriteOffs]

/-- The row of a write-off says whether it is reversed. -/
theorem writeOffUndone_set {i : ℕ} {w w' : Row TransferWriteOff}
    (hw : db.losses.writeOffs[i]? = some w)
    (hset : db'.losses.writeOffs = db.losses.writeOffs.set i w') (j : ℕ) :
    WriteOffUndone db' j ↔ if j = i then w'.val.status = .reversed else WriteOffUndone db j := by
  unfold WriteOffUndone
  rw [hset, getElem?_set_of_some hw]
  by_cases hji : j = i
  · rw [if_pos hji, if_pos hji.symm]
    simp only [Option.some.injEq, exists_eq_left']
  · rw [if_neg hji, if_neg (Ne.symm hji)]

/-- The row that is there is reversed or not. -/
theorem writeOffUndone_of_row {i : ℕ} {w : Row TransferWriteOff}
    (hw : db.losses.writeOffs[i]? = some w) : WriteOffUndone db i ↔ w.val.status = .reversed := by
  unfold WriteOffUndone
  rw [hw]
  simp only [Option.some.injEq, exists_eq_left']

/-- A write-off is requested, and posts nothing yet. -/
theorem createWriteOff_mirrored {req : CreateWriteOff} {writeOffId : ℕ} (h : WriteOffsMirrored db)
    (hdone : createWriteOff db req = .ok (db', writeOffId)) :
    WriteOffsMirrored db' ∧ WriteOffsOnly db db' := by
  rcases createWriteOff_ok hdone with rfl | ⟨discrepancy, w, -, -, -, -, -, -, hw, rfl⟩
  · exact ⟨h, .refl db'⟩
  have hpending : w.val.chargedTo = none := by
    unfold TransferWriteOff.chargedTo
    rw [hw.status]
    rfl
  refine ⟨Mirrored.congr h rfl (fun i s a => ?_) fun i => ?_, rfl, rfl, rfl, .of_eq rfl⟩
  · have hnot : ¬(db.losses.writeOffs.length = i ∧ w.val.chargedTo = some s) := by
      rw [hpending]
      exact fun hboth => Option.some_ne_none s hboth.2.symm
    refine (takenOf_append fun _ _ _ _ => rfl).trans ?_
    rw [if_neg hnot, add_zero]
    rfl
  · unfold WriteOffUndone
    simp only [getElem?_append_singleton_eq_some]
    constructor
    · rintro ⟨v, hv | ⟨-, rfl⟩, hreversed⟩
      · exact ⟨v, hv, hreversed⟩
      · rw [hw.status] at hreversed
        cases hreversed
    · rintro ⟨v, hv, hreversed⟩
      exact ⟨v, .inl hv, hreversed⟩

/-- An approval posts the amount of the row. -/
theorem approveWriteOff_mirrored {req : DecideWriteOff} (h : WriteOffsMirrored db)
    (hdone : approveWriteOff db req = .ok db') : WriteOffsMirrored db' ∧ WriteOffsOnly db db' := by
  rcases approveWriteOff_ok hdone with rfl | ⟨w, w', discrepancy, line, line', approval, approvedBy, d,
    hdecides, -, -, -, hpost, hw', -, -, hdb'⟩
  · exact ⟨h, .refl db'⟩
  have hw := hdecides.loaded
  have hset : db'.losses.writeOffs = db.losses.writeOffs.set req.writeOffId w' := by rw [hdb']
  have hentry : PostsEntry db db' _ _ _ _ := postsEntry_of_postJournal hpost rfl (by rw [hdb'])
  have hnot : ¬WriteOffUndone db req.writeOffId := by
    rw [writeOffUndone_of_row hw, hdecides.pending]
    decide
  refine ⟨Mirrored.post h (by decide) hentry (fun i s a => ?_) hnot fun i => ?_,
    by rw [hdb'], by rw [hdb'], by rw [hdb'], hentry.posts.mono fun t ht => .inl ht⟩
  -- before, the row counts nowhere; now it is charged to the store it names
  · have hbefore : w.val.chargedTo = none := by
      unfold TransferWriteOff.chargedTo
      rw [hdecides.pending]
      rfl
    have hafter : w'.val.chargedTo = some w.val.storeId := by
      rw [hw']
      rfl
    have hlines : writeOffLines w'.val = writeOffLines w.val := by
      rw [hw']
      rfl
    unfold writeOffTaken
    rw [hset, takenOf_set hw hbefore hafter fun _ _ _ _ _ => rfl, hlines]
    rfl
  · rw [writeOffUndone_set hw hset]
    split
    · next hi =>
      rw [hw', hi]
      exact iff_of_false (by simp) hnot
    · rfl

/-- A denial posts nothing: the write-off was not posted before it, and is not after. -/
theorem denyWriteOff_mirrored {req : DecideWriteOff} (h : WriteOffsMirrored db)
    (hdone : denyWriteOff db req = .ok db') : WriteOffsMirrored db' ∧ WriteOffsOnly db db' := by
  rcases denyWriteOff_ok hdone with ⟨rfl, -⟩ | ⟨w, w', approval, approvedBy, old, discrepancy, hdecides,
    hw', -, -, -, -, hdb'⟩
  · exact ⟨h, .refl db'⟩
  have hw := hdecides.loaded
  have hset : db'.losses.writeOffs = db.losses.writeOffs.set req.writeOffId w' := by rw [hdb']
  have hentries : db'.ledger.entries = db.ledger.entries := by rw [hdb']
  refine ⟨Mirrored.congr h hentries (fun i s a => ?_) fun i => ?_, by rw [hdb'], by rw [hdb'],
    by rw [hdb'], .of_eq hentries⟩
  · unfold writeOffTaken
    rw [hset]
    refine takenOf_rewritten hw ?_ fun hcharged => absurd ?_ hcharged
    · unfold TransferWriteOff.chargedTo
      rw [hw', hdecides.pending]
      rfl
    · unfold TransferWriteOff.chargedTo
      rw [hdecides.pending]
      rfl
  · rw [writeOffUndone_set hw hset]
    split
    · next hi =>
      rw [hi, writeOffUndone_of_row hw, hw', hdecides.pending]
      simp
    · rfl

/-- **The reversal of a write-off takes back the amount of the row.** -/
theorem reverseWriteOff_mirrored {req : ReverseWriteOff} (h : WriteOffsMirrored db)
    (hdone : reverseWriteOff db req = .ok db') : WriteOffsMirrored db' ∧ WriteOffsOnly db db' := by
  rcases reverseWriteOff_ok hdone with rfl | ⟨w, w', line, line', d, hw, hposted, -, hpost, hw', -,
    hdb'⟩
  · exact ⟨h, .refl db'⟩
  have hset : db'.losses.writeOffs = db.losses.writeOffs.set req.writeOffId w' := by rw [hdb']
  have hentry : PostsEntry db db' _ _ _ _ := postsEntry_of_postJournal hpost rfl (by rw [hdb'])
  have hcharged : w.val.chargedTo = some w.val.storeId := if_pos (.inl hposted)
  refine ⟨Mirrored.exchange h (by decide) hentry (fun s a => ?_) (fun i s a => ?_) fun i => ?_,
    by rw [hdb'], by rw [hdb'], by rw [hdb'], hentry.posts.mono fun t ht => .inr ht⟩
  · unfold writeOffTaken
    rw [takenOf_of_row hw, hcharged]
    simp only [Option.some.injEq]
    rfl
  · unfold writeOffTaken
    rw [hset]
    refine takenOf_rewritten hw ?_ fun _ => ?_
    · rw [hcharged]
      unfold TransferWriteOff.chargedTo
      rw [hw', if_pos (.inr rfl)]
    · rw [hw']
      rfl
  · rw [writeOffUndone_set hw hset]
    by_cases hi : i = req.writeOffId
    · rw [if_pos hi, hw']
      simp [hi]
    · rw [if_neg hi]
      simp [hi]

end Requests

end GroceryErp
