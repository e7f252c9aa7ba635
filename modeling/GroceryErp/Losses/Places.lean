import GroceryErp.Transfers.InTransit

/-!
# Where losses belong

A write-off is of a discrepancy, the discrepancy of a receipt item, and the item of a transfer
line, where the quantities are counted that are damaged, declared short and written off.  What
the write-offs of a line may come to is what the discrepancies of the line come to, and, where
the quantities have three decimals, that is within what the line has lost.

## Main definitions

* `LossPlaced` — every write-off has its discrepancy, item and line, and the line counts it.
* `lineLost` — what the discrepancies of a line come to.
* `LossRoom` — it is within what the line has damaged and declared short.
* `PlaceStep` — what one request can do to lines, items, discrepancies and write-offs.

## Main results

* `TransferRequest.placeStep` — every request is such a step.
* `LossPlaced.step`, `LossRoom.step` — every step keeps both.

## References

`backend/app/modules/transfers/service.py`, `discrepancies/service.py`, `writeoffs/service.py`.
-/

namespace GroceryErp

open Decimal Outcome Rows

/-! ### What the tables keep -/

/-- The discrepancy is of a receipt of the line. -/
def ReceivingDiscrepancy.OfLine (items : List (Row InterStoreTransferReceiptItem))
    (transferLineId : ℕ) (d : ReceivingDiscrepancy) : Prop :=
  items[d.sourceId]?.map (·.val.interStoreTransferLineId) = some transferLineId

instance (items : List (Row InterStoreTransferReceiptItem)) (transferLineId : ℕ)
    (d : ReceivingDiscrepancy) : Decidable (d.OfLine items transferLineId) :=
  inferInstanceAs (Decidable (_ = _))

/-- What the discrepancies of a line come to, short and damaged units together. -/
def lineLost (db : Db) (transferLineId : ℕ) : ℚ :=
  sumWhere (fun d => d.val.OfLine db.transfers.receiptItems transferLineId) (·.val.quantity)
    db.losses.discrepancies

/-- Every write-off has its discrepancy, item and line, and the line counts it. -/
structure LossPlaced (db : Db) : Prop where
  items : ∀ i ∈ db.transfers.receiptItems,
    i.val.interStoreTransferLineId < db.transfers.lines.length
  found : ∀ d ∈ db.losses.discrepancies, ∃ i, db.transfers.receiptItems[d.val.sourceId]? = some i
  requested : ∀ w ∈ db.losses.writeOffs, ∃ d,
    db.losses.discrepancies[w.val.discrepancyId]? = some d ∧
    d.val.OfLine db.transfers.receiptItems w.val.transferLineId
  written_off : ∀ i l, db.transfers.lines[i]? = some l →
    l.val.writtenOffQuantity = lineWrittenOff db.losses.writeOffs i

/-- What the discrepancies of a line come to is within what it has damaged and declared short. -/
structure LossRoom (db : Db) : Prop where
  scale : ∀ l ∈ db.transfers.lines,
    OnGrid 3 l.val.damagedQuantity ∧ OnGrid 3 l.val.declaredShortQuantity
  room : ∀ i l, db.transfers.lines[i]? = some l →
    lineLost db i ≤ l.val.damagedQuantity + l.val.declaredShortQuantity

/-! ### Steps -/

/-- What the line has lost, and of that written off, is what it was. -/
structure InterStoreTransferLine.SameLost (l l' : InterStoreTransferLine) : Prop where
  damaged : l'.damagedQuantity = l.damagedQuantity
  declared_short : l'.declaredShortQuantity = l.declaredShortQuantity
  written_off : l'.writtenOffQuantity = l.writtenOffQuantity

/-- Nothing of the line is lost. -/
structure InterStoreTransferLine.Whole (l : InterStoreTransferLine) : Prop where
  damaged : l.damagedQuantity = 0
  declared_short : l.declaredShortQuantity = 0
  written_off : l.writtenOffQuantity = 0

/-- The lines have lost what they had, and the new ones nothing. -/
structure LinesSettled (ls ls' : List (Row InterStoreTransferLine)) : Prop where
  length : ls.length ≤ ls'.length
  row : ∀ i l', ls'[i]? = some l' →
    (∃ l, ls[i]? = some l ∧ l.val.SameLost l'.val) ∨ ls.length ≤ i ∧ l'.val.Whole

/-- The write-off `w'` is where `w` is. -/
structure TransferWriteOff.SamePlace (w w' : TransferWriteOff) : Prop where
  discrepancyId : w'.discrepancyId = w.discrepancyId
  transferLineId : w'.transferLineId = w.transferLineId

/-- What a receipt has done to lines, items and discrepancies; `picked` are those of its lines
that a discrepancy is recorded for. -/
structure Recorded (db : Db) (req : ReceiveTransfer) (lines : List TransferReceiptLine)
    (picked : List (TransferReceiptLine × ℕ)) (new : List (Row InterStoreTransferReceiptItem))
    (found : List (Row ReceivingDiscrepancy)) (d : Db) : Prop where
  inputs : lines.map (·.input) = req.lines
  nonneg : ∀ l ∈ req.lines, 0 ≤ l.quantityDamaged ∧ 0 ≤ l.quantityDeclaredShort
  known : ∀ l ∈ lines, l.input.transferLineId < db.transfers.lines.length
  accounted : Overwritten (fun i a b => b.val = a.val.accounted req.lines i) db.transfers.lines
    d.transfers.lines
  items : d.transfers.receiptItems = db.transfers.receiptItems ++ new
  rows : ∃ receiptId, new.map (·.val) = lines.map (·.row receiptId)
  among : picked.Sublist (lines.zipIdx db.transfers.receiptItems.length)
  sources : found.map (fun d => (d.val.sourceId, d.val.quantity))
    = picked.map fun p =>
      (p.2, numeric 3 p.1.input.quantityDeclaredShort + numeric 3 p.1.input.quantityDamaged)
  discrepancies : d.losses.discrepancies = db.losses.discrepancies ++ found
  writeOffs : d.losses.writeOffs = db.losses.writeOffs

/-- What one request can do to lines, items, discrepancies and write-offs; the quantities it
receives have three decimals if it is `exact`. -/
inductive PlaceStep (exact : Prop) (db d : Db) : Prop
  /-- Nothing more is lost, or written off. -/
  | settled (lines : LinesSettled db.transfers.lines d.transfers.lines)
      (items : d.transfers.receiptItems = db.transfers.receiptItems)
      (discrepancies : Overwritten (fun _ a b => b.val.sourceId = a.val.sourceId ∧
        b.val.quantity = a.val.quantity) db.losses.discrepancies d.losses.discrepancies)
      (writeOffs : Overwritten (fun _ a b => a.val.SamePlace b.val ∧ b.val.taken = a.val.taken)
        db.losses.writeOffs d.losses.writeOffs)
  /-- A transfer is received. -/
  | received {req : ReceiveTransfer} {lines : List TransferReceiptLine}
      {picked : List (TransferReceiptLine × ℕ)} {new : List (Row InterStoreTransferReceiptItem)}
      {found : List (Row ReceivingDiscrepancy)} (recorded : Recorded db req lines picked new found d)
      (scale : exact → ∀ l ∈ req.lines, OnGrid 3 l.quantityDamaged ∧ OnGrid 3 l.quantityDeclaredShort)
  /-- A write-off is requested. -/
  | requested {discrepancy : Row ReceivingDiscrepancy} {w : Row TransferWriteOff}
      (row : db.losses.discrepancies[w.val.discrepancyId]? = some discrepancy)
      (line : discrepancy.val.OfLine db.transfers.receiptItems w.val.transferLineId)
      (nothing : w.val.taken = 0) (transfers : d.transfers = db.transfers)
      (losses : d.losses = { db.losses with writeOffs := db.losses.writeOffs ++ [w] })
  /-- A write-off is posted, or reversed. -/
  | taken {i : ℕ} {w w' : Row TransferWriteOff} {line line' : Row InterStoreTransferLine}
      (row : db.losses.writeOffs[i]? = some w) (place : w.val.SamePlace w'.val)
      (old : db.transfers.lines[w.val.transferLineId]? = some line)
      (new : line'.val = { line.val with
        writtenOffQuantity := line.val.writtenOffQuantity + (w'.val.taken - w.val.taken) })
      (transfers : d.transfers
        = { db.transfers with lines := db.transfers.lines.set w.val.transferLineId line' })
      (writeOffs : d.losses.writeOffs = db.losses.writeOffs.set i w')
      (discrepancies : d.losses.discrepancies = db.losses.discrepancies)

section Steps

variable {exact : Prop} {db d : Db}

theorem InterStoreTransferLine.SameLost.refl (l : InterStoreTransferLine) : l.SameLost l :=
  ⟨rfl, rfl, rfl⟩

theorem TransferWriteOff.SamePlace.refl (w : TransferWriteOff) : w.SamePlace w := ⟨rfl, rfl⟩

theorem LinesSettled.of_overwritten {ls ls' : List (Row InterStoreTransferLine)}
    {R : ℕ → Row InterStoreTransferLine → Row InterStoreTransferLine → Prop}
    (h : Overwritten R ls ls') (same : ∀ i a b, R i a b → a.val.SameLost b.val) :
    LinesSettled ls ls' := by
  refine ⟨h.1.ge, fun i l' hl' => ?_⟩
  obtain ⟨l, hl, hR⟩ := h.row hl'
  exact .inl ⟨l, hl, same i l l' hR⟩

theorem LinesSettled.refl (ls : List (Row InterStoreTransferLine)) : LinesSettled ls ls :=
  ⟨le_rfl, fun _ l' hl' => .inl ⟨l', hl', .refl _⟩⟩

/-- Losses that are written over where they are, and lines that are left alone. -/
theorem PlaceStep.losses (htransfers : d.transfers = db.transfers)
    (discrepancies : Overwritten (fun _ a b => b.val.sourceId = a.val.sourceId ∧
      b.val.quantity = a.val.quantity) db.losses.discrepancies d.losses.discrepancies)
    (writeOffs : Overwritten (fun _ a b => a.val.SamePlace b.val ∧ b.val.taken = a.val.taken)
      db.losses.writeOffs d.losses.writeOffs) : PlaceStep exact db d :=
  .settled (by rw [htransfers]; exact .refl _) (by rw [htransfers]) discrepancies writeOffs

theorem samePlaces (ws : List (Row TransferWriteOff)) :
    Overwritten (fun _ a b => a.val.SamePlace b.val ∧ b.val.taken = a.val.taken) ws ws :=
  .refl _ fun _ _ _ => ⟨.refl _, rfl⟩

theorem sameFindings (ds : List (Row ReceivingDiscrepancy)) :
    Overwritten (fun _ a b => b.val.sourceId = a.val.sourceId ∧ b.val.quantity = a.val.quantity)
      ds ds :=
  .refl _ fun _ _ _ => ⟨rfl, rfl⟩

/-- Transfers and losses are left alone, but for the status of a transfer. -/
theorem PlaceStep.aside (hlines : LinesSettled db.transfers.lines d.transfers.lines)
    (hitems : d.transfers.receiptItems = db.transfers.receiptItems)
    (hlosses : d.losses = db.losses) : PlaceStep exact db d := by
  refine .settled hlines hitems ?_ ?_
  · rw [hlosses]
    exact sameFindings _
  · rw [hlosses]
    exact samePlaces _

/-- A discrepancy that is written over is of the same item and quantity. -/
theorem PlaceStep.discrepancy {i : ℕ} {old new : Row ReceivingDiscrepancy}
    (hold : db.losses.discrepancies[i]? = some old) (hsource : new.val.sourceId = old.val.sourceId)
    (hquantity : new.val.quantity = old.val.quantity) :
    PlaceStep exact db { db with losses.discrepancies := db.losses.discrepancies.set i new } := by
  refine .losses rfl ?_ (samePlaces _)
  refine (sameFindings _).set hold ?_ fun _ _ _ _ h => h
  rintro a ⟨ha, hq⟩
  exact ⟨hsource.trans ha, hquantity.trans hq⟩

/-! #### The requests are steps -/

theorem createTransfer_placeStep {req : CreateTransfer} {transferId : ℕ}
    (h : createTransfer db req = .ok (d, transferId)) : PlaceStep exact db d := by
  obtain ⟨transfer, lines, -, hlines, rfl⟩ := createTransfer_ok h
  refine .aside ⟨by simp, fun i l' hl' => ?_⟩ rfl rfl
  by_cases hi : i < db.transfers.lines.length
  · rw [List.getElem?_append_left hi] at hl'
    exact .inl ⟨l', hl', .refl _⟩
  · rw [List.getElem?_append_right (not_lt.mp hi)] at hl'
    obtain ⟨⟨line, hrow⟩, -⟩ := hlines l' (mem_of_row hl')
    rw [hrow]
    exact .inr ⟨not_lt.mp hi, rfl, rfl, rfl⟩

theorem shipTransfer_placeStep {req : ShipTransfer} (h : shipTransfer db req = .ok d) :
    PlaceStep exact db d := by
  rcases shipTransfer_ships h with rfl | ⟨lines, hships⟩
  · exact .aside (.refl _) rfl rfl
  refine .aside (.of_overwritten hships.lines ?_) hships.items hships.losses
  rintro i a b (⟨l, -, -, hb⟩ | ⟨-, rfl⟩)
  · rw [hb]
    exact ⟨rfl, rfl, rfl⟩
  · exact .refl _

/-- The discrepancies of a receipt are those of some of its lines, in order. -/
theorem recordDiscrepancies_picked {transfer : InterStoreTransfer} {transferId : ℕ}
    {items : List (TransferReceiptLine × ℕ)}
    (h : items.foldlM (recordDiscrepancy transfer transferId) db = .ok d) :
    ∃ (picked : List (TransferReceiptLine × ℕ)) (found : List (Row ReceivingDiscrepancy)),
      picked.Sublist items ∧
      found.map (·.val) = picked.map (fun p => (p.1.discrepancy transfer transferId p.2).row) ∧
      d = { db with losses.discrepancies := db.losses.discrepancies ++ found } := by
  refine foldlM_induct (fun done t => ∃ (picked : List (TransferReceiptLine × ℕ))
    (found : List (Row ReceivingDiscrepancy)), picked.Sublist done ∧
    found.map (·.val) = picked.map (fun p => (p.1.discrepancy transfer transferId p.2).row) ∧
    t = { db with losses.discrepancies := db.losses.discrepancies ++ found }) h
    ⟨[], [], .slnil, rfl, by simp⟩ ?_
  rintro done item rest t t' - ⟨picked, found, hsub, hrows, rfl⟩ hstep
  rcases createDiscrepancyForReceiptItem_ok hstep with rfl | ⟨discrepancy, hrow, -, rfl⟩
  · exact ⟨picked, found, hsub.trans (List.sublist_append_left _ _), hrows, rfl⟩
  · refine ⟨picked ++ [item], found ++ [discrepancy], hsub.append (.refl _), ?_, by simp⟩
    rw [List.map_append, List.map_append, hrows, List.map_singleton, List.map_singleton, hrow]

theorem receiveTransfer_nonneg {req : ReceiveTransfer} (h : receiveTransfer db req = .ok d) :
    d = db ∨ ∀ l ∈ req.lines, 0 ≤ l.quantityDamaged ∧ 0 ≤ l.quantityDeclaredShort := by
  unfold receiveTransfer at h
  rw [bind_eq_ok] at h
  obtain ⟨found, -, h⟩ := h
  cases found with
  | some r =>
    rw [pure_eq_ok] at h
    exact .inl h.symm
  | none =>
    simp only [↓check_bind_eq_ok, forM_eq_ok, raiseIf_eq_ok] at h
    obtain ⟨-, hlines, -⟩ := h
    refine .inr fun l hl => ?_
    have hnot := (hlines l hl).1
    simp only [not_or, not_lt] at hnot
    exact hnot.2

theorem receiveTransfer_recorded {req : ReceiveTransfer} (h : receiveTransfer db req = .ok d) :
    d = db ∨ ∃ lines picked new found, Recorded db req lines picked new found d := by
  rcases receiveTransfer_nonneg h with rfl | hnonneg
  · exact .inl rfl
  rcases receiveTransfer_ok h with rfl | ⟨transfer, lines, x, receiptId, htransfer, hplan, hwrite,
    hj⟩
  · exact .inl rfl
  -- what each loop of the receipt has done: the items, the discrepancies, the counters of the lines
  have hplanned := planTransferReceipt_ok hplan
  unfold writeTransferReceipt at hwrite
  simp only [bind_eq_ok, pure_eq_ok, Prod.mk.injEq] at hwrite
  obtain ⟨e, he, f, hf, g, hg, rfl, -⟩ := hwrite
  obtain ⟨new, hframe, hnew⟩ := receiveLines_items he
  obtain ⟨picked, found, hpicked, hfound, rfl⟩ := recordDiscrepancies_picked hf
  have haccounted := accountLines_accounted hg
  have hlines := (accountLines_ok (P := fun _ => True) hg (fun _ _ _ _ _ => trivial)
    fun _ _ => trivial).1
  have hpost := postJournalUnlessEmpty_frame hj
  refine .inr ⟨lines, picked, new, found, planTransferReceipt_inputs hplan, hnonneg, ?_, ?_, ?_,
    ⟨_, hnew⟩, hpicked, ?_, ?_, ?_⟩
  · intro l hl
    obtain ⟨row, hrow, -⟩ := (hplanned l hl).line
    exact (List.getElem?_eq_some_iff.mp hrow).1
  -- the counters are written last, over the lines as they were before the items
  · rw [hpost]
    have he' : e.transfers.lines = db.transfers.lines := by rw [hframe]
    rw [← he']
    exact haccounted
  · rw [hpost, hlines]
    show e.transfers.receiptItems = _
    rw [hframe]
  · have hvalues := congrArg (List.map fun d : ReceivingDiscrepancy => (d.sourceId, d.quantity)) hfound
    rw [List.map_map, List.map_map] at hvalues
    exact hvalues
  · rw [hpost, hlines]
    show e.losses.discrepancies ++ found = _
    rw [hframe]
  · rw [hpost, hlines]
    show e.losses.writeOffs = _
    rw [hframe]

theorem receiveTransfer_placeStep {req : ReceiveTransfer} (h : receiveTransfer db req = .ok d) :
    PlaceStep (TransferRequest.receiveTransfer req).AtScale db d := by
  rcases receiveTransfer_recorded h with rfl | ⟨lines, picked, new, found, hrecorded⟩
  · exact .aside (.refl _) rfl rfl
  · exact .received hrecorded fun hscale l hl => (hscale l hl).2

/-- **What a request does to lines, items, discrepancies and write-offs is one of the steps.** -/
theorem TransferRequest.placeStep {r : TransferRequest} (h : r.run db = .ok d) :
    PlaceStep r.AtScale db d := by
  cases r with
  | createTransfer req =>
    obtain ⟨⟨e, i⟩, hmade, rfl⟩ := map_eq_ok.mp h
    exact createTransfer_placeStep hmade
  | shipTransfer req => exact shipTransfer_placeStep h
  | receiveTransfer req => exact receiveTransfer_placeStep h
  | cancelTransfer req =>
    rcases cancelTransfer_ok h with rfl | ⟨transfer, cancelled, -, -, -, rfl⟩
    · exact .aside (.refl _) rfl rfl
    · exact .aside (.refl _) rfl rfl
  | investigateDiscrepancy req =>
    obtain ⟨old, new, hold, -, hnew, rfl⟩ := investigateDiscrepancy_ok h
    exact .discrepancy hold (by rw [hnew]) (by rw [hnew]; rfl)
  | resolveDiscrepancy req =>
    obtain ⟨old, new, hold, -, hnew, rfl⟩ := resolveDiscrepancy_ok h
    exact .discrepancy hold (by rw [hnew]) (by rw [hnew]; rfl)
  | createWriteOff req =>
    obtain ⟨⟨e, i⟩, hmade, rfl⟩ := map_eq_ok.mp h
    rcases createWriteOff_ok hmade with rfl | ⟨disc, w, hdisc, -, -, -, -, -, hw, rfl⟩
    · exact .aside (.refl _) rfl rfl
    obtain ⟨item, hitem, hline⟩ := hw.line
    rw [← hw.discrepancyId] at hdisc
    refine .requested hdisc ?_ ?_ rfl rfl
    · unfold ReceivingDiscrepancy.OfLine
      rw [hitem, Option.map_some, hline]
    · unfold TransferWriteOff.taken
      rw [hw.status]
      rfl
  | approveWriteOff req =>
    rcases approveWriteOff_ok h with rfl | ⟨w, w', disc, line, line', a, approvedBy, e, hdecides,
      -, -, hline, -, hw', hline', -, rfl⟩
    · exact .aside (.refl _) rfl rfl
    -- a pending write-off counts nowhere yet, and a posted one counts in full
    have hbefore : w.val.taken = 0 := by simp [TransferWriteOff.taken, hdecides.pending]
    have hafter : w'.val.taken = w.val.quantity := by simp [TransferWriteOff.taken, hw']
    refine .taken hdecides.loaded ?_ hline ?_ rfl rfl rfl
    · rw [hw']
      exact ⟨rfl, rfl⟩
    · rw [hline', hbefore, hafter, sub_zero]
  | denyWriteOff req =>
    rcases denyWriteOff_ok h with ⟨rfl, -⟩ | ⟨w, w', a, approvedBy, old, disc, hdecides, hw', -, hold,
      -, hdisc, rfl⟩
    · exact .aside (.refl _) rfl rfl
    -- a denial puts the discrepancy back under investigation and takes nothing
    refine .losses rfl ?_ ?_
    · refine (sameFindings _).set hold ?_ fun _ _ _ _ h => h
      rintro b ⟨hb, hq⟩
      rw [hdisc]
      exact ⟨hb, hq⟩
    · refine (samePlaces _).set hdecides.loaded ?_ fun _ _ _ _ h => h
      rintro b ⟨hb, htaken⟩
      have hnone : w'.val.taken = w.val.taken := by
        simp [TransferWriteOff.taken, hw', hdecides.pending]
      rw [hnone, htaken, hw']
      exact ⟨⟨hb.discrepancyId, hb.transferLineId⟩, rfl⟩
  | reverseWriteOff req =>
    rcases reverseWriteOff_ok h with rfl | ⟨w, w', line, line', e, hw, hposted, hline, -, hw', hline',
      rfl⟩
    · exact .aside (.refl _) rfl rfl
    -- what a reversal takes back is the whole quantity again
    have hbefore : w.val.taken = w.val.quantity := by simp [TransferWriteOff.taken, hposted]
    have hafter : w'.val.taken = 0 := by simp [TransferWriteOff.taken, hw']
    refine .taken hw ?_ hline ?_ rfl rfl rfl
    · rw [hw']
      exact ⟨rfl, rfl⟩
    · rw [hline', hbefore, hafter, zero_sub]

/-! ### What every step keeps -/

/-- What a line has written off is what its write-offs take. -/
theorem lineWrittenOff_eq_taken (ws : List (Row TransferWriteOff)) (i : ℕ) :
    lineWrittenOff ws i = sumWhere (·.val.transferLineId = i) (·.val.taken) ws := by
  rw [lineWrittenOff, sumWhere_eq_sum_map, sumWhere_eq_sum_map]
  congr 1
  refine List.map_congr_left fun w _ => ?_
  unfold TransferWriteOff.taken
  by_cases hline : w.val.transferLineId = i <;> simp [hline]

/-- Write-offs that are where they were, and take what they took. -/
theorem lineWrittenOff_overwritten {ws ws' : List (Row TransferWriteOff)}
    (h : Overwritten (fun _ a b => a.val.SamePlace b.val ∧ b.val.taken = a.val.taken) ws ws')
    (i : ℕ) : lineWrittenOff ws' i = lineWrittenOff ws i := by
  have hcolumns : ws'.map (fun w => (w.val.transferLineId, w.val.taken))
      = ws.map fun w => (w.val.transferLineId, w.val.taken) :=
    h.map_eq fun _ a b hab => by rw [hab.1.transferLineId, hab.2]
  have hread : ∀ us : List (Row TransferWriteOff),
      lineWrittenOff us i
        = sumWhere (·.1 = i) (·.2) (us.map fun w => (w.val.transferLineId, w.val.taken)) := by
    intro us
    rw [lineWrittenOff_eq_taken, sumWhere_map]
  rw [hread, hread, hcolumns]

/-- Nothing has been written off a line that is not there. -/
theorem LossPlaced.lineWrittenOff_eq_zero (h : LossPlaced db) {i : ℕ}
    (hi : db.transfers.lines.length ≤ i) : lineWrittenOff db.losses.writeOffs i = 0 := by
  refine sumWhere_eq_zero _ _ fun w hw hfor => ?_
  obtain ⟨disc, -, hline⟩ := h.requested w hw
  obtain ⟨item, hitem, hid⟩ := Option.map_eq_some_iff.mp hline
  have hlt := h.items item (mem_of_row hitem)
  rw [hid, hfor.1] at hlt
  exact absurd hlt (not_lt.mpr hi)

/-- Items that are appended leave the item of a discrepancy where it is. -/
theorem ReceivingDiscrepancy.ofLine_append {items : List (Row InterStoreTransferReceiptItem)}
    {disc : ReceivingDiscrepancy} {item : Row InterStoreTransferReceiptItem}
    (h : items[disc.sourceId]? = some item) (new : List (Row InterStoreTransferReceiptItem))
    (i : ℕ) : disc.OfLine (items ++ new) i ↔ disc.OfLine items i := by
  unfold ReceivingDiscrepancy.OfLine
  rw [List.getElem?_append_left (List.getElem?_eq_some_iff.mp h).1]

/-- The item of a discrepancy that a receipt records. -/
theorem Recorded.item {req : ReceiveTransfer} {lines : List TransferReceiptLine}
    {picked : List (TransferReceiptLine × ℕ)} {new : List (Row InterStoreTransferReceiptItem)}
    {found : List (Row ReceivingDiscrepancy)} (h : Recorded db req lines picked new found d)
    {p : TransferReceiptLine × ℕ} (hp : p ∈ picked) :
    ∃ item, (db.transfers.receiptItems ++ new)[p.2]? = some item ∧
      item.val.interStoreTransferLineId = p.1.input.transferLineId := by
  obtain ⟨l, k⟩ := p
  obtain ⟨hle, hl⟩ := List.mk_mem_zipIdx_iff_le_and_getElem?_sub.mp (h.among.subset hp)
  obtain ⟨receiptId, hrows⟩ := h.rows
  have hrow : (new.map (·.val))[k - db.transfers.receiptItems.length]?
      = some (l.row receiptId) := by
    rw [hrows, List.getElem?_map, hl, Option.map_some]
  rw [List.getElem?_map, Option.map_eq_some_iff] at hrow
  obtain ⟨item, hitem, hval⟩ := hrow
  refine ⟨item, ?_, ?_⟩
  · rw [List.getElem?_append_right hle]
    exact hitem
  · rw [hval]
    rfl

/-- **Every step keeps write-offs with their discrepancies, items and lines.** -/
theorem LossPlaced.step (h : LossPlaced db) (hs : PlaceStep exact db d) : LossPlaced d := by
  cases hs with
  -- rows are written over: sources, places and quantities stay
  | settled lines items discrepancies writeOffs =>
    refine ⟨?_, ?_, ?_, ?_⟩
    · rw [items]
      exact fun i hi => (h.items i hi).trans_le lines.length
    · rw [items]
      refine discrepancies.forall_mem h.found fun _ a b ha hab => ?_
      rw [hab.1]
      exact ha
    · rw [items]
      refine writeOffs.forall_mem h.requested fun _ a b ha hab => ?_
      obtain ⟨old, hold, hline⟩ := ha
      obtain ⟨disc, hdisc, hsource, -⟩ := discrepancies.2 _ _ hold
      rw [hab.1.discrepancyId, hab.1.transferLineId]
      refine ⟨disc, hdisc, ?_⟩
      unfold ReceivingDiscrepancy.OfLine at hline ⊢
      rw [hsource]
      exact hline
    · intro i l' hl'
      rw [lineWrittenOff_overwritten writeOffs]
      rcases lines.row i l' hl' with ⟨l, hl, hsame⟩ | ⟨hnew, hwhole⟩
      · rw [hsame.written_off, h.written_off i l hl]
      · rw [hwhole.written_off, h.lineWrittenOff_eq_zero hnew]
  -- a receipt appends items and discrepancies, and each of these is for an item of the receipt
  | @received req lines picked new found recorded scale =>
    refine ⟨?_, ?_, ?_, ?_⟩
    · rw [recorded.items, recorded.accounted.1]
      intro i hi
      rcases List.mem_append.mp hi with hi | hi
      · exact h.items i hi
      · obtain ⟨receiptId, hrows⟩ := recorded.rows
        obtain ⟨l, hl, hrow⟩ := exists_of_map_eq hrows hi
        rw [← hrow]
        exact recorded.known l hl
    · rw [recorded.items, recorded.discrepancies]
      intro disc hdisc
      rcases List.mem_append.mp hdisc with hdisc | hdisc
      · obtain ⟨i, hi⟩ := h.found disc hdisc
        exact ⟨i, (List.getElem?_append_left (List.getElem?_eq_some_iff.mp hi).1).trans hi⟩
      · obtain ⟨p, hp, hpair⟩ := exists_of_map_eq recorded.sources hdisc
        obtain ⟨item, hitem, -⟩ := recorded.item hp
        rw [← (Prod.mk.inj hpair).1]
        exact ⟨item, hitem⟩
    · rw [recorded.items, recorded.discrepancies, recorded.writeOffs]
      intro w hw
      obtain ⟨disc, hdisc, hline⟩ := h.requested w hw
      obtain ⟨item, hitem⟩ := h.found disc (mem_of_row hdisc)
      exact ⟨disc, (List.getElem?_append_left (List.getElem?_eq_some_iff.mp hdisc).1).trans hdisc,
        (ReceivingDiscrepancy.ofLine_append hitem new _).mpr hline⟩
    · intro i l' hl'
      obtain ⟨l, hl, hval⟩ := recorded.accounted.row hl'
      rw [recorded.writeOffs, hval]
      exact h.written_off i l hl
  -- a new write-off is for a discrepancy that is there, and takes nothing yet
  | @requested disc w row line nothing transfers losses =>
    refine ⟨?_, ?_, ?_, ?_⟩
    · rw [transfers]
      exact h.items
    · rw [transfers, losses]
      exact h.found
    · rw [transfers, losses]
      intro v hv
      rcases List.mem_append.mp hv with hv | hv
      · exact h.requested v hv
      · rw [List.mem_singleton.mp hv]
        exact ⟨disc, row, line⟩
    · rw [transfers, losses]
      intro i l hl
      rw [h.written_off i l hl, lineWrittenOff_eq_taken, lineWrittenOff_eq_taken, sumWhere_append,
        sumWhere_singleton, nothing, ite_self, add_zero]
  -- a write-off is posted or reversed: its line moves by as much as it does
  | @taken i w w' line line' row place old new transfers writeOffs discrepancies =>
    refine ⟨?_, ?_, ?_, ?_⟩
    · rw [transfers, List.length_set]
      exact h.items
    · rw [transfers, discrepancies]
      exact h.found
    · rw [transfers, discrepancies, writeOffs]
      refine forall_mem_set h.requested ?_
      rw [place.discrepancyId, place.transferLineId]
      exact h.requested w (mem_of_row row)
    · intro j l hl
      rw [transfers, getElem?_set_of_some old] at hl
      rw [writeOffs, lineWrittenOff_eq_taken, sumWhere_set _ _ row, place.transferLineId,
        ← lineWrittenOff_eq_taken]
      split at hl
      · next hj =>
        subst hj
        rw [← Option.some.inj hl, new, if_pos rfl, if_pos rfl]
        show line.val.writtenOffQuantity + _ = _
        rw [h.written_off _ line old]
        ring
      · next hj => rw [if_neg hj, if_neg hj, h.written_off j l hl, add_zero, sub_zero]

/-- What is found on the lines of a receipt is part of what its inputs say. -/
theorem Recorded.found_le {req : ReceiveTransfer} {lines : List TransferReceiptLine}
    {picked : List (TransferReceiptLine × ℕ)} {new : List (Row InterStoreTransferReceiptItem)}
    {found : List (Row ReceivingDiscrepancy)} (h : Recorded db req lines picked new found d)
    (hscale : ∀ l ∈ req.lines, OnGrid 3 l.quantityDamaged ∧ OnGrid 3 l.quantityDeclaredShort)
    (i : ℕ) :
    sumWhere (fun disc => disc.val.OfLine (db.transfers.receiptItems ++ new) i) (·.val.quantity) found
      ≤ sumReceived req.lines (·.quantityDamaged) i
        + sumReceived req.lines (·.quantityDeclaredShort) i := by
  have hinput : ∀ p ∈ picked, p.1.input ∈ req.lines := by
    intro p hp
    rw [← h.inputs]
    exact List.mem_map_of_mem (List.fst_mem_of_mem_zipIdx (h.among.subset hp))
  -- the discrepancies are the losses of the lines picked, and these are among all the lines
  calc sumWhere (fun disc => disc.val.OfLine (db.transfers.receiptItems ++ new) i)
          (·.val.quantity) found
      = sumWhere (fun pair => (db.transfers.receiptItems ++ new)[pair.1]?.map
          (·.val.interStoreTransferLineId) = some i) (·.2)
          (found.map fun disc => (disc.val.sourceId, disc.val.quantity)) := by
        rw [sumWhere_map]
        rfl
    _ = sumWhere (·.1.input.transferLineId = i)
          (fun p => p.1.input.quantityDamaged + p.1.input.quantityDeclaredShort) picked := by
        rw [h.sources, sumWhere_map]
        refine sumWhere_congr (fun p hp => ?_) fun p hp _ => ?_
        · obtain ⟨item, hitem, hline⟩ := h.item hp
          simp only [hitem, Option.map_some, hline, Option.some.injEq]
        · obtain ⟨hdamaged, hshort⟩ := hscale _ (hinput p hp)
          rw [numeric_eq_self hdamaged, numeric_eq_self hshort, add_comm]
    _ ≤ sumWhere (·.1.input.transferLineId = i)
          (fun p => p.1.input.quantityDamaged + p.1.input.quantityDeclaredShort)
          (lines.zipIdx db.transfers.receiptItems.length) := by
        unfold sumWhere
        refine ((h.among.filter _).map _).sum_le_sum fun x hx => ?_
        obtain ⟨p, hp, rfl⟩ := List.mem_map.mp hx
        have hline := List.fst_mem_of_mem_zipIdx (List.mem_of_mem_filter hp)
        have hmem : p.1.input ∈ req.lines := h.inputs ▸ List.mem_map_of_mem hline
        exact add_nonneg (h.nonneg _ hmem).1 (h.nonneg _ hmem).2
    _ = sumWhere (·.transferLineId = i) (fun l => l.quantityDamaged + l.quantityDeclaredShort)
          req.lines := by
        rw [← h.inputs, sumWhere_map, ← List.zipIdx_map_fst db.transfers.receiptItems.length lines,
          sumWhere_map, List.zipIdx_map_fst]
    _ = sumReceived req.lines (·.quantityDamaged) i
          + sumReceived req.lines (·.quantityDeclaredShort) i := by
        unfold sumReceived sumWhere
        exact List.sum_map_add

/-- **Every step leaves room for what is found on a line**, where the quantities of a receipt have
three decimals. -/
theorem LossRoom.step (h : LossRoom db) (hplaced : LossPlaced db) (hs : PlaceStep exact db d)
    (hexact : exact) : LossRoom d := by
  cases hs with
  | settled lines items discrepancies writeOffs =>
    have hlost : ∀ i, lineLost d i = lineLost db i := by
      intro i
      have hcolumns := discrepancies.map_eq (f := fun disc => (disc.val.sourceId, disc.val.quantity))
        fun _ a b hab => by rw [hab.1, hab.2]
      have hread : ∀ ds : List (Row ReceivingDiscrepancy),
          sumWhere (fun disc => disc.val.OfLine db.transfers.receiptItems i) (·.val.quantity) ds
            = sumWhere (fun pair => db.transfers.receiptItems[pair.1]?.map
                (·.val.interStoreTransferLineId) = some i) (·.2)
                (ds.map fun disc => (disc.val.sourceId, disc.val.quantity)) := by
        intro ds
        rw [sumWhere_map]
        rfl
      unfold lineLost
      rw [items, hread, hread, hcolumns]
    constructor
    · intro l' hl'
      obtain ⟨i, hi⟩ := List.getElem?_of_mem hl'
      rcases lines.row i l' hi with ⟨l, hl, hsame⟩ | ⟨-, hwhole⟩
      · rw [hsame.damaged, hsame.declared_short]
        exact h.scale l (mem_of_row hl)
      · rw [hwhole.damaged, hwhole.declared_short]
        exact ⟨onGrid_zero 3, onGrid_zero 3⟩
    · intro i l' hl'
      rw [hlost]
      rcases lines.row i l' hl' with ⟨l, hl, hsame⟩ | ⟨hnew, hwhole⟩
      · rw [hsame.damaged, hsame.declared_short]
        exact h.room i l hl
      · -- no discrepancy is of a line that was not there
        have hzero : lineLost db i = 0 := by
          refine sumWhere_eq_zero _ _ fun disc _ hline => ?_
          obtain ⟨item, hitem, hid⟩ := Option.map_eq_some_iff.mp hline
          have hlt := hplaced.items item (mem_of_row hitem)
          rw [hid] at hlt
          exact absurd hlt (not_lt.mpr hnew)
        rw [hzero, hwhole.damaged, hwhole.declared_short, add_zero]
  | @received req lines picked new found recorded scale =>
    constructor
    · intro l' hl'
      obtain ⟨i, hi⟩ := List.getElem?_of_mem hl'
      obtain ⟨l, hl, hval⟩ := recorded.accounted.row hi
      obtain ⟨hdamaged, hshort⟩ := h.scale l (mem_of_row hl)
      rw [hval]
      exact ⟨hdamaged.add (onGrid_sumReceived (fun x hx => (scale hexact x hx).1) i),
        hshort.add (onGrid_sumReceived (fun x hx => (scale hexact x hx).2) i)⟩
    · intro i l' hl'
      obtain ⟨l, hl, hval⟩ := recorded.accounted.row hl'
      have hold : sumWhere (fun disc => disc.val.OfLine (db.transfers.receiptItems ++ new) i)
          (·.val.quantity) db.losses.discrepancies = lineLost db i := by
        refine sumWhere_congr (fun disc hdisc => ?_) fun _ _ _ => rfl
        obtain ⟨item, hitem⟩ := hplaced.found disc hdisc
        exact ReceivingDiscrepancy.ofLine_append hitem new i
      have hfound := recorded.found_le (scale hexact) i
      have hroom := h.room i l hl
      unfold lineLost
      rw [recorded.items, recorded.discrepancies, sumWhere_append, hold, hval]
      show _ ≤ (l.val.damagedQuantity + sumReceived req.lines (·.quantityDamaged) i)
        + (l.val.declaredShortQuantity + sumReceived req.lines (·.quantityDeclaredShort) i)
      linarith
  | requested row line nothing transfers losses =>
    refine ⟨by rw [transfers]; exact h.scale, ?_⟩
    unfold lineLost
    rw [transfers, losses]
    exact h.room
  | @taken i w w' line line' row place old new transfers writeOffs discrepancies =>
    have hkept : line'.val.damagedQuantity = line.val.damagedQuantity ∧
        line'.val.declaredShortQuantity = line.val.declaredShortQuantity := by
      rw [new]
      exact ⟨rfl, rfl⟩
    constructor
    · rw [transfers]
      refine forall_mem_set h.scale ?_
      rw [hkept.1, hkept.2]
      exact h.scale line (mem_of_row old)
    · intro j l hl
      have hlost : lineLost d j = lineLost db j := by
        unfold lineLost
        rw [transfers, discrepancies]
      rw [transfers, getElem?_set_of_some old] at hl
      rw [hlost]
      split at hl
      · next hj =>
        subst hj
        rw [← Option.some.inj hl, hkept.1, hkept.2]
        exact h.room _ line old
      · exact h.room j l hl

/-- **Write-offs within their discrepancies are within what the line has lost.** -/
theorem lineWrittenOff_le {ws : List (Row TransferWriteOff)} {ds : List (Row ReceivingDiscrepancy)}
    {items : List (Row InterStoreTransferReceiptItem)}
    (hof : ∀ w ∈ ws, ∃ disc, ds[w.val.discrepancyId]? = some disc ∧
      disc.val.OfLine items w.val.transferLineId)
    (hwithin : ∀ j disc, ds[j]? = some disc → postedQuantity ws j ≤ disc.val.quantity) (i : ℕ) :
    lineWrittenOff ws i ≤ sumWhere (fun disc => disc.val.OfLine items i) (·.val.quantity) ds := by
  have hlt : ∀ w ∈ ws.filter fun w => w.val.transferLineId = i ∧ w.val.status = .posted,
      w.val.discrepancyId < ds.length := by
    intro w hw
    obtain ⟨disc, hdisc, -⟩ := hof w (List.mem_of_mem_filter hw)
    exact (List.getElem?_eq_some_iff.mp hdisc).1
  rw [lineWrittenOff, sumWhere, ← sum_range_sumWhere (·.val.quantity) hlt, sumWhere_eq_sum_map _ _ ds,
    sum_map_eq_sum_range]
  refine Finset.sum_le_sum fun j hj => ?_
  have hdisc := List.getElem?_eq_getElem (Finset.mem_range.mp hj)
  rw [hdisc, Option.map_some, Option.getD_some, sumWhere_filter]
  split
  · refine le_trans ?_ (hwithin j _ hdisc)
    exact sumWhere_le_of_imp (fun w _ hfor => ⟨hfor.1, hfor.2.2⟩) fun w _ => le_of_lt w.property
  · next hnot =>
    refine le_of_eq (sumWhere_eq_zero _ _ fun w hw hfor => absurd ?_ hnot)
    obtain ⟨disc, hrow, hline⟩ := hof w hw
    rw [hfor.1, hdisc] at hrow
    rw [Option.some.inj hrow, ← hfor.2.1]
    exact hline

/-! ### Commits -/

/-- The quantities of write-offs have three decimals, so a commit rounds nothing. -/
theorem LossPlaced.commit (h : LossPlaced db)
    (hscale : ∀ w ∈ db.losses.writeOffs, OnGrid 3 w.val.quantity) : LossPlaced db.commit := by
  refine ⟨?_, h.found, h.requested, ?_⟩
  · intro i hi
    rw [show db.commit.transfers.lines.length = db.transfers.lines.length from List.length_map _]
    exact h.items i hi
  · intro i l hl
    obtain ⟨k, hk, rfl⟩ := List.getElem?_map .. ▸ hl |> Option.map_eq_some_iff.mp
    have hgrid : OnGrid 3 k.val.writtenOffQuantity := by
      rw [h.written_off i k hk]
      exact onGrid_sumWhere fun w hw _ => hscale w hw
    show numeric 3 k.val.writtenOffQuantity = _
    rw [numeric_eq_self hgrid]
    exact h.written_off i k hk

theorem LossRoom.commit (h : LossRoom db) : LossRoom db.commit := by
  constructor
  · intro l hl
    obtain ⟨k, -, rfl⟩ := List.mem_map.mp hl
    exact ⟨onGrid_numeric 3 _, onGrid_numeric 3 _⟩
  · intro i l hl
    obtain ⟨k, hk, rfl⟩ := List.getElem?_map .. ▸ hl |> Option.map_eq_some_iff.mp
    obtain ⟨hdamaged, hshort⟩ := h.scale k (mem_of_row hk)
    show _ ≤ numeric 3 k.val.damagedQuantity + numeric 3 k.val.declaredShortQuantity
    rw [numeric_eq_self hdamaged, numeric_eq_self hshort]
    exact h.room i k hk

end Steps

end GroceryErp
