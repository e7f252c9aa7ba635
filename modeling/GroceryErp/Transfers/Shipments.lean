import GroceryErp.Transfers.Requests

/-!
# What leaves the source store

A shipment books one outgoing movement for each of its lines and writes the quantity of
each line over the transfer line it names.  If it names a transfer line once, the two
agree; if it names one twice, both quantities leave the store and the last is written.

## Main definitions

* `Dispatched` — the tables, and what has left the source store for each transfer line.
* `Dispatched.exec` — one request, with the movements it adds counted.

## Main results

* `shipped_eq_moved_out` — in a run whose shipments name each transfer line once, what
  has left for a line is its shipped quantity, and no more than this is accounted for.

## References

`backend/app/modules/transfers/service.py`, `ship_transfer`, `receive_transfer`.
-/

namespace GroceryErp

open Decimal Outcome Rows Runs

/-! ### Counting the movements -/

/-- What the movements `added` have taken out for a transfer line, the shipment having
named the lines `transferLineIds` in the order of its movements. -/
def movedOut (transferLineIds : List ℕ) (added : List (Row InventoryMovement))
    (transferLineId : ℕ) : ℚ :=
  sumWhere (fun x => x.1 = transferLineId ∧ x.2.val.movementType = .transferOut)
    (fun x => -x.2.val.quantityDelta) (transferLineIds.zip added)

/-- What a request has taken out for a transfer line, by the movements it has added. -/
def TransferRequest.movedOut (db db' : Db) : TransferRequest → ℕ → ℚ
  | shipTransfer req => GroceryErp.movedOut (req.lines.map (·.transferLineId))
      (db'.stock.movements.drop db.stock.movements.length)
  | _ => fun _ => 0

/-- The tables, and what has left the source store for each transfer line. -/
structure Dispatched where
  db : Db
  out : ℕ → ℚ

namespace Dispatched

/-- One request, committed, with the movements it adds counted. -/
def exec (r : TransferRequest) (s : Dispatched) : Result Dispatched := do
  let db ← r.exec s.db
  return { db, out := fun i => s.out i + r.movedOut s.db db i }

/-- The start: nothing has left any store yet. -/
def opening (db : Db) : Dispatched := ⟨db, fun _ => 0⟩

theorem exec_ok {r : TransferRequest} {s s' : Dispatched} (h : s.exec r = .ok s') :
    r.exec s.db = .ok s'.db ∧ ∀ i, s'.out i = s.out i + r.movedOut s.db s'.db i := by
  unfold exec at h
  simp only [bind_eq_ok, pure_eq_ok] at h
  obtain ⟨db, hdb, rfl⟩ := h
  exact ⟨hdb, fun _ => rfl⟩

end Dispatched

section Counting

variable {lines : List ShipLine} {added : List (Row InventoryMovement)}

/-- The movements of a shipment take out its quantities, line by line. -/
theorem movedOut_eq_sumWhere
    (h : List.Forall₂ (fun l m => m.val.movementType = .transferOut ∧
      m.val.quantityDelta = numeric 3 (-l.quantity)) lines added) (i : ℕ) :
    movedOut (lines.map (·.transferLineId)) added i
      = sumWhere (·.transferLineId = i) (fun l => numeric 3 l.quantity) lines := by
  induction h with
  | nil => rfl
  | @cons l m lines added hm _ ih =>
    unfold movedOut at ih ⊢
    rw [List.map_cons, List.zip_cons_cons, sumWhere_cons, sumWhere_cons, ih]
    have hneg : -m.val.quantityDelta = numeric 3 l.quantity := by
      rw [hm.2, numeric, quantize_neg, neg_neg]
      rfl
    simp [hm.1, hneg]

end Counting

/-! ### What requests do to transfers and their lines -/

section Kept

variable {db db' : Db}

/-- The tables after a request that neither drafts nor ships a transfer: a draft may have been
cancelled, and what is accounted for of the lines may have changed. -/
structure LinesKept (s t : TransferTables) : Prop where
  transfers : Overwritten (fun _ a b => b.val.status = a.val.status ∨
    a.val.status = .draft ∧ b.val.status = .cancelled) s.transfers t.transfers
  lines : Overwritten (fun _ a b => b.val.transferId = a.val.transferId ∧
    b.val.shippedQuantity = a.val.shippedQuantity ∧
    b.val.unitCostAtShipment = a.val.unitCostAtShipment) s.lines t.lines

theorem LinesKept.refl (s : TransferTables) : LinesKept s s :=
  ⟨.refl _ fun _ _ _ => .inl rfl, .refl _ fun _ _ _ => ⟨rfl, rfl, rfl⟩⟩

/-- A line of which something else is written off. -/
theorem LinesKept.set_writtenOff {s : TransferTables} {i : ℕ} {a b : Row InterStoreTransferLine}
    {q : ℚ} (ha : s.lines[i]? = some a) (hb : b.val = { a.val with writtenOffQuantity := q }) :
    LinesKept s { s with lines := s.lines.set i b } := by
  refine ⟨.refl _ fun _ _ _ => .inl rfl, ?_⟩
  refine (LinesKept.refl s).lines.set ha ?_ fun _ _ _ _ h => h
  rintro c ⟨hid, hshipped, hcost⟩
  rw [hb]
  exact ⟨hid, hshipped, hcost⟩

theorem receiveTransfer_linesKept {req : ReceiveTransfer}
    (h : receiveTransfer db req = .ok db') : LinesKept db.transfers db'.transfers := by
  rcases receiveTransfer_ok h with rfl | ⟨transfer, lines, d, i, -, -, hwrite, hj⟩
  · exact .refl _
  rw [postJournalUnlessEmpty_frame hj]
  unfold writeTransferReceipt at hwrite
  simp only [bind_eq_ok, pure_eq_ok, Prod.mk.injEq] at hwrite
  obtain ⟨e, he, f, hf, g, hg, rfl, -⟩ := hwrite
  have hkept : e.transfers.transfers = db.transfers.transfers ∧
      e.transfers.lines = db.transfers.lines := by
    refine foldlM_induct (fun _ t => t.transfers.transfers = db.transfers.transfers ∧
      t.transfers.lines = db.transfers.lines) he ⟨rfl, rfl⟩ ?_
    rintro done l rest t t' - ht hstep
    rw [(receiveLine_ok hstep).1]
    exact ht
  have hlines := accountLines_overwritten (nodup_distinct _) hg
  have htransfers := (accountLines_ok (P := fun _ => True) hg (fun _ _ _ _ _ => trivial)
    fun _ _ => trivial).1
  rw [recordDiscrepancies_frame hf] at hlines htransfers
  refine ⟨?_, ?_⟩
  · rw [htransfers]
    show Overwritten _ _ e.transfers.transfers
    rw [hkept.1]
    exact (LinesKept.refl _).transfers
  · rw [← hkept.2]
    -- receiving writes what came of a line, neither what was shipped nor its cost
    refine hlines.mono fun j a b hab => ?_
    rw [hab]
    split
    · exact ⟨rfl, rfl, rfl⟩
    · exact ⟨rfl, rfl, rfl⟩

/-- **Requests that neither draft nor ship a transfer** keep what is shipped, and its cost. -/
theorem TransferRequest.linesKept {r : TransferRequest} (h : r.run db = .ok db')
    (hcreate : ∀ req, r ≠ .createTransfer req) (hship : ∀ req, r ≠ .shipTransfer req) :
    LinesKept db.transfers db'.transfers := by
  cases r with
  | createTransfer req => exact absurd rfl (hcreate req)
  | shipTransfer req => exact absurd rfl (hship req)
  | receiveTransfer req => exact receiveTransfer_linesKept h
  | cancelTransfer req =>
    rcases cancelTransfer_ok h with rfl | ⟨transfer, cancelled, htransfer, hdraft, hcancelled, rfl⟩
    · exact .refl _
    refine ⟨?_, (LinesKept.refl _).lines⟩
    refine (LinesKept.refl db.transfers).transfers.set htransfer ?_ fun _ _ _ _ h => h
    -- a transfer that is cancelled was a draft, and a draft has shipped nothing
    rintro a (hstatus | ⟨hstatus, -⟩)
    · exact .inr ⟨hstatus.symm.trans hdraft, by rw [hcancelled]⟩
    · exact .inr ⟨hstatus, by rw [hcancelled]⟩
  | investigateDiscrepancy req =>
    obtain ⟨old, new, -, -, -, rfl⟩ := investigateDiscrepancy_ok h
    exact .refl _
  | resolveDiscrepancy req =>
    obtain ⟨old, new, -, -, -, rfl⟩ := resolveDiscrepancy_ok h
    exact .refl _
  | createWriteOff req =>
    obtain ⟨⟨e, i⟩, hmade, rfl⟩ := map_eq_ok.mp h
    rcases createWriteOff_ok hmade with rfl | ⟨disc, w, -, -, -, -, -, -, -, rfl⟩
    · exact .refl _
    · exact .refl _
  | approveWriteOff req =>
    rcases approveWriteOff_ok h with rfl | ⟨w, w', disc, line, line', a, approvedBy, e, -, -, -,
      hline, -, -, hline', -, rfl⟩
    · exact .refl _
    · exact .set_writtenOff hline hline'
  | denyWriteOff req =>
    rcases denyWriteOff_ok h with ⟨rfl, -⟩ | ⟨w, w', a, approvedBy, old, disc, -, -, -, -, -, -,
      rfl⟩
    · exact .refl _
    · exact .refl _
  | reverseWriteOff req =>
    rcases reverseWriteOff_ok h with rfl | ⟨w, w', line, line', e, -, -, hline, -, -, hline', rfl⟩
    · exact .refl _
    · exact .set_writtenOff hline hline'

/-- No transfer has become a draft, and the lines have kept their shipped quantity. -/
structure ShippedKept (s t : TransferTables) : Prop where
  transfers : Overwritten (fun _ a b => b.val.status = .draft → a.val.status = .draft)
    s.transfers t.transfers
  lines : Overwritten (fun _ a b => b.val.transferId = a.val.transferId ∧
    b.val.shippedQuantity = a.val.shippedQuantity) s.lines t.lines

theorem LinesKept.shipped {s t : TransferTables} (h : LinesKept s t) : ShippedKept s t where
  transfers := h.transfers.mono fun _ _ _ hab hdraft =>
    hab.elim (fun heq => heq.symm.trans hdraft) And.left
  lines := h.lines.mono fun _ _ _ hab => ⟨hab.1, hab.2.1⟩

theorem ShippedKept.refl (s : TransferTables) : ShippedKept s s := (LinesKept.refl s).shipped

/-- Requests that neither draft nor ship a transfer keep what is shipped. -/
theorem TransferRequest.shippedKept {r : TransferRequest} (h : r.run db = .ok db')
    (hcreate : ∀ req, r ≠ .createTransfer req) (hship : ∀ req, r ≠ .shipTransfer req) :
    ShippedKept db.transfers db'.transfers :=
  (r.linesKept h hcreate hship).shipped

end Kept

/-! ### The invariant -/

/-- What has left for a transfer line is its shipped quantity, and nothing has left for a
line of a draft. -/
structure Dispatched.Agrees (s : Dispatched) : Prop where
  stored : s.db.Stored
  owned : ∀ l ∈ s.db.transfers.lines, l.val.transferId < s.db.transfers.transfers.length
  drafts : ∀ l ∈ s.db.transfers.lines, ∀ t,
    s.db.transfers.transfers[l.val.transferId]? = some t → t.val.status = .draft →
      l.val.shippedQuantity = 0
  out : ∀ i l, s.db.transfers.lines[i]? = some l → s.out i = l.val.shippedQuantity
  beyond : ∀ i, s.db.transfers.lines.length ≤ i → s.out i = 0

section Agrees

variable {s s' : Dispatched}

theorem Dispatched.agrees_opening {db : Db} (h : db.BeforeTransfers) :
    (Dispatched.opening db).Agrees where
  stored := h.stored
  owned := by simp [opening, h.lines]
  drafts := by simp [opening, h.lines]
  out := by simp [opening, h.lines]
  beyond _ _ := rfl

/-- A commit leaves the shipped quantities as they are where they have three decimals. -/
theorem shippedQuantity_stored {l : InterStoreTransferLine} (h : l.stored = l) :
    OnGrid 3 l.shippedQuantity := by
  rw [← h]
  exact onGrid_numeric 3 _

theorem Dispatched.Agrees.of_kept {d : Db} (h : s.Agrees) (hd : ShippedKept s.db.transfers d.transfers)
    (hs' : s'.db = d.commit) (hout : s'.out = s.out) : s'.Agrees := by
  have hlines : Overwritten (fun _ a b => b.val.transferId = a.val.transferId ∧
      b.val.shippedQuantity = numeric 3 a.val.shippedQuantity) s.db.transfers.lines
      s'.db.transfers.lines := by
    rw [hs']
    refine hd.lines.trans (.of_map _ _) ?_
    rintro i a b c ⟨hid, hq⟩ rfl
    exact ⟨hid, congrArg (numeric 3) hq⟩
  have htransfers : s'.db.transfers.transfers = d.transfers.transfers := by rw [hs']; rfl
  refine ⟨hs' ▸ stored_commit d, ?_, ?_, fun i b hb => ?_, fun i hi => ?_⟩
  · intro b hb
    obtain ⟨i, hi⟩ := List.getElem?_of_mem hb
    obtain ⟨a, ha, hid, -⟩ := hlines.row hi
    rw [hid, htransfers, hd.transfers.1]
    exact h.owned a (mem_of_row ha)
  · intro b hb t ht hdraft
    obtain ⟨i, hi⟩ := List.getElem?_of_mem hb
    obtain ⟨a, ha, hid, hq⟩ := hlines.row hi
    rw [hid, htransfers] at ht
    obtain ⟨t', ht', hwas⟩ := hd.transfers.row ht
    rw [hq, h.drafts a (mem_of_row ha) t' ht' (hwas hdraft)]
    exact numeric_eq_self (onGrid_zero 3)
  · obtain ⟨a, ha, -, hq⟩ := hlines.row hb
    rw [hq, hout, h.out i a ha, numeric_eq_self]
    exact shippedQuantity_stored (h.stored.lines a (mem_of_row ha))
  · rw [hlines.1] at hi
    rw [hout]
    exact h.beyond i hi

/-- A new transfer has shipped nothing. -/
theorem Dispatched.Agrees.createTransfer {req : CreateTransfer} {d : Db} {transferId : ℕ}
    (h : s.Agrees) (hd : createTransfer s.db req = .ok (d, transferId)) (hs' : s'.db = d.commit)
    (hout : s'.out = s.out) : s'.Agrees := by
  obtain ⟨transfer, lines, -, hlines, rfl⟩ := createTransfer_ok hd
  have hall : s'.db.transfers.lines
      = (s.db.transfers.lines ++ lines).map fun l => ⟨l.val.stored, l.property.stored⟩ := by
    rw [hs']
    rfl
  have htransfers : s'.db.transfers.transfers = s.db.transfers.transfers ++ [transfer] := by
    rw [hs']
    rfl
  -- a line of the new transfer
  have hnew : ∀ l ∈ lines, l.val.transferId = s.db.transfers.transfers.length ∧
      l.val.shippedQuantity = 0 := by
    intro l hl
    obtain ⟨⟨line, hrow⟩, -⟩ := hlines l hl
    rw [hrow]
    exact ⟨rfl, rfl⟩
  refine ⟨hs' ▸ stored_commit _, ?_, ?_, fun i b hb => ?_, fun i hi => ?_⟩
  · intro b hb
    rw [hall] at hb
    obtain ⟨a, ha, rfl⟩ := List.mem_map.mp hb
    rw [htransfers, List.length_append, List.length_singleton]
    show a.val.transferId < _
    rcases List.mem_append.mp ha with ha | ha
    · exact Nat.lt_succ_of_lt (h.owned a ha)
    · rw [(hnew a ha).1]
      exact Nat.lt_succ_self _
  · intro b hb t ht hdraft
    rw [hall] at hb
    obtain ⟨a, ha, rfl⟩ := List.mem_map.mp hb
    have hzero : a.val.shippedQuantity = 0 := by
      rcases List.mem_append.mp ha with ha | ha
      · have ht' : (s.db.transfers.transfers ++ [transfer])[a.val.transferId]? = some t :=
          htransfers ▸ ht
        rw [List.getElem?_append_left (h.owned a ha)] at ht'
        exact h.drafts a ha t ht' hdraft
      · exact (hnew a ha).2
    show numeric 3 a.val.shippedQuantity = 0
    rw [hzero]
    exact numeric_eq_self (onGrid_zero 3)
  · rw [hall, List.getElem?_map] at hb
    obtain ⟨a, ha, rfl⟩ := Option.map_eq_some_iff.mp hb
    show s'.out i = numeric 3 a.val.shippedQuantity
    rw [hout]
    by_cases hi : i < s.db.transfers.lines.length
    · rw [List.getElem?_append_left hi] at ha
      rw [h.out i a ha, numeric_eq_self]
      exact shippedQuantity_stored (h.stored.lines a (mem_of_row ha))
    · rw [List.getElem?_append_right (not_lt.mp hi)] at ha
      rw [h.beyond i (not_lt.mp hi), (hnew a (mem_of_row ha)).2]
      exact (numeric_eq_self (onGrid_zero 3)).symm
  · rw [hall, List.length_map, List.length_append] at hi
    rw [hout]
    exact h.beyond i (by omega)

/-- A shipment that names each transfer line once. -/
theorem Dispatched.Agrees.shipTransfer {req : ShipTransfer} {d : Db} (h : s.Agrees)
    (hd : shipTransfer s.db req = .ok d)
    (honce : transferWithShipKey s.db req.clientTransactionId = [] →
      (req.lines.map (·.transferLineId)).Nodup)
    (hs' : s'.db = d.commit)
    (hout : ∀ i, s'.out i = s.out i + TransferRequest.movedOut s.db s'.db (.shipTransfer req) i) :
    s'.Agrees := by
  have hmoved : ∀ i, TransferRequest.movedOut s.db s'.db (.shipTransfer req) i
      = movedOut (req.lines.map (·.transferLineId))
        (d.stock.movements.drop s.db.stock.movements.length) i := by
    intro i
    rw [hs']
    rfl
  rcases shipTransfer_ok hd with rfl | ⟨transfer, lines, e, shipped, hkey, htransfer, hpos, hplan, he,
    hshipped, hj⟩
  · -- a repeated request moves nothing
    refine h.of_kept (.refl _) hs' (funext fun i => ?_)
    rw [hout, hmoved, List.drop_length, movedOut, List.zip_nil_right]
    exact add_zero _
  have hships := ships_of_ok hkey htransfer hplan he hshipped hj
  have hnodup : (lines.map (·.transferLineId)).Nodup := hships.ids ▸ honce hkey
  obtain ⟨added, hadded, hmovements⟩ := shipLines_movements he
  have hlines : s'.db.transfers.lines
      = d.transfers.lines.map fun l => ⟨l.val.stored, l.property.stored⟩ := by
    rw [hs']
    rfl
  have htransfers : s'.db.transfers.transfers = d.transfers.transfers := by
    rw [hs']
    rfl
  -- what has moved for each line
  have hsum : ∀ i, s'.out i = s.out i
      + sumWhere (·.transferLineId = i) (fun l => numeric 3 l.quantity) lines := by
    intro i
    have hd' : d.stock.movements = s.db.stock.movements ++ added := by
      rw [postJournalUnlessEmpty_frame hj]
      exact hadded
    rw [hout, hmoved, ← hships.ids, hd', List.drop_left, movedOut_eq_sumWhere hmovements]
  -- a line that is shipped had shipped nothing
  have hnothing : ∀ l ∈ lines, ∀ a : Row InterStoreTransferLine,
      s.db.transfers.lines[l.transferLineId]? = some a → a.val.shippedQuantity = 0 := by
    intro l hl a ha
    obtain ⟨-, t, ht, hdraft⟩ := hships.named hl ha
    exact h.drafts a (mem_of_row ha) t ht hdraft
  have hdrafts := hships.unshipped (S := (· = .draft)) (P := (·.shippedQuantity = 0)) (by decide)
    h.drafts
  refine ⟨hs' ▸ stored_commit _, ?_, ?_, fun i b hb => ?_, fun i hi => ?_⟩
  · rw [hlines, htransfers]
    intro b hb
    obtain ⟨c, hc, rfl⟩ := List.mem_map.mp hb
    exact hships.owned h.owned c hc
  · rw [hlines, htransfers]
    intro b hb t ht hstill
    obtain ⟨c, hc, rfl⟩ := List.mem_map.mp hb
    show numeric 3 c.val.shippedQuantity = 0
    rw [hdrafts c hc t ht hstill]
    exact numeric_eq_self (onGrid_zero 3)
  · rw [hlines, List.getElem?_map] at hb
    obtain ⟨c, hc, rfl⟩ := Option.map_eq_some_iff.mp hb
    obtain ⟨a, ha, hab⟩ := hships.lines.row hc
    show s'.out i = numeric 3 c.val.shippedQuantity
    rw [hsum, h.out i a ha]
    rcases hab with ⟨l, hl, rfl, hval⟩ | ⟨hnot, rfl⟩
    · rw [hnothing l hl a ha, zero_add, sumWhere_key _ hnodup hl, hval]
    · rw [sumWhere_of_notMem _ hnot, add_zero, numeric_eq_self]
      exact shippedQuantity_stored (h.stored.lines c (mem_of_row ha))
  · rw [hlines, List.length_map, hships.lines.1] at hi
    have hnone : sumWhere (·.transferLineId = i) (fun l => numeric 3 l.quantity) lines = 0 := by
      refine sumWhere_eq_zero _ _ fun l hl hli => ?_
      obtain ⟨row, hrow, -⟩ := (hships.planned l hl).line
      have hlt := (List.getElem?_eq_some_iff.mp hrow).1
      omega
    rw [hsum, hnone, add_zero]
    exact h.beyond i hi

theorem Dispatched.Agrees.exec {r : TransferRequest} (h : s.Agrees) (hr : r.ShipsLinesOnce s.db)
    (hdone : Dispatched.exec r s = .ok s') : s'.Agrees := by
  obtain ⟨hexec, hout⟩ := Dispatched.exec_ok hdone
  obtain ⟨d, hrun, hd⟩ := map_eq_ok.mp hexec
  cases r with
  | createTransfer req =>
    obtain ⟨⟨e, i⟩, hmade, rfl⟩ := map_eq_ok.mp hrun
    exact h.createTransfer hmade hd.symm (funext fun i => (hout i).trans (add_zero _))
  | shipTransfer req => exact h.shipTransfer hrun hr hd.symm hout
  | receiveTransfer | cancelTransfer | investigateDiscrepancy | resolveDiscrepancy
  | createWriteOff | approveWriteOff | denyWriteOff | reverseWriteOff =>
    exact h.of_kept (TransferRequest.shippedKept hrun (by simp) (by simp)) hd.symm
      (funext fun i => (hout i).trans (add_zero _))

end Agrees

/-! ### Runs -/

/-- **In a run whose shipments name each transfer line once**, what has left the source
store for a transfer line is its shipped quantity; this is no more than was requested, and
no more than this is received, damaged and declared short. -/
theorem shipped_eq_moved_out {db₀ : Db} {s : Dispatched} (hopen : db₀.BeforeTransfers)
    (h : Reaches Dispatched.exec (fun s r => r.ShipsLinesOnce s.db) (.opening db₀) s) (i : ℕ)
    (l : Row InterStoreTransferLine) (hl : s.db.transfers.lines[i]? = some l) :
    s.out i = l.val.shippedQuantity ∧ l.val.shippedQuantity ≤ l.val.requestedQuantity ∧
      l.val.receivedQuantity + l.val.damagedQuantity + l.val.declaredShortQuantity
        ≤ l.val.shippedQuantity := by
  have hagrees : s.Agrees := h.invariant (Dispatched.agrees_opening hopen)
    fun _ _ _ hs hok hdone => hs.exec hok hdone
  have hstored := hagrees.stored.lines l (mem_of_row hl)
  have hshipped := l.property.shipped_le
  have haccounted := l.property.accounted_le
  rw [hstored] at hshipped haccounted
  exact ⟨hagrees.out i l hl, hshipped, haccounted⟩

/-- The shipment of the run, counted. -/
theorem reaches_dispatched {ok : Dispatched → TransferRequest → Prop}
    {ok' : Db → TransferRequest → Prop} {db₀ db : Db} (h : Reaches TransferRequest.exec ok' db₀ db)
    (hok : ∀ s r, ok' s.db r → ok s r) :
    ∃ out, Reaches Dispatched.exec ok (.opening db₀) ⟨db, out⟩ := by
  induction h with
  | start => exact ⟨_, .start⟩
  | @next d d' r run meets done ih =>
    obtain ⟨out, hout⟩ := ih
    refine ⟨fun i => out i + r.movedOut d d' i, .next hout (hok ⟨d, out⟩ r meets) ?_⟩
    unfold Dispatched.exec
    simp only [bind_eq_ok, pure_eq_ok]
    exact ⟨d', done, rfl⟩

/-- Ten apples are shipped, and ten have left. -/
theorem shipped_eq_moved_out_apples :
    ∃ out, (∃ l, lossPosted.transfers.lines[0]? = some l ∧ out 0 = l.val.shippedQuantity) ∧
      Reaches Dispatched.exec (fun s r => r.ShipsLinesOnce s.db) (.opening twoShops)
        ⟨lossPosted, out⟩ := by
  have hdone : Reaches TransferRequest.exec (fun db r => r.ShipsLinesOnce db) twoShops
      lossPosted :=
    reaches_lossPosted fun _ _ _ _ h => h
  obtain ⟨out, hrun⟩ : ∃ out, Reaches Dispatched.exec (fun s r => r.ShipsLinesOnce s.db)
      (.opening twoShops) ⟨lossPosted, out⟩ :=
    reaches_dispatched hdone fun _ _ h => h
  have hone : lossPosted.transfers.lines.map (·.val.shippedQuantity) = [10] := by decide +kernel
  obtain ⟨l, hl, -⟩ := List.map_eq_singleton_iff.mp hone
  have hrow : lossPosted.transfers.lines[0]? = some l := by rw [hl]; rfl
  exact ⟨out, ⟨l, hrow, (shipped_eq_moved_out twoShops_beforeTransfers hrun 0 l hrow).1⟩, hrun⟩

/-! ### A line named twice -/

def applesShippedTwice : Dispatched :=
  value (Dispatched.exec (.shipTransfer (shipApples [⟨0, 6⟩, ⟨0, 6⟩]))
    (value (Dispatched.exec (.createTransfer sendApples) (.opening twoShops)) (by decide +kernel)))
    (by decide +kernel)

/-- Twice six apples leave for a line of ten, and the line says that six were shipped. -/
theorem shipped_twice_disagrees :
    ¬∀ s : Dispatched, Reaches Dispatched.exec (fun _ _ => True) (.opening twoShops) s →
      ∀ (i : ℕ) (l : Row InterStoreTransferLine), s.db.transfers.lines[i]? = some l →
        s.out i = l.val.shippedQuantity ∧ s.out i ≤ l.val.requestedQuantity := by
  intro hall
  have hrun : Reaches Dispatched.exec (fun _ _ => True) (.opening twoShops) applesShippedTwice :=
    .next (.next .start trivial (eq_ok_value _ _)) trivial (eq_ok_value _ _)
  have hone : applesShippedTwice.db.transfers.lines.map (·.val.shippedQuantity) = [6] := by
    decide +kernel
  obtain ⟨l, hl, hq⟩ := List.map_eq_singleton_iff.mp hone
  have hrow : applesShippedTwice.db.transfers.lines[0]? = some l := by rw [hl]; rfl
  have hout : applesShippedTwice.out 0 = 12 := by decide +kernel
  have hagree := (hall _ hrun 0 l hrow).1
  rw [hout, hq] at hagree
  exact absurd hagree (by norm_num)

end GroceryErp
