import GroceryErp.Losses.Decisions
import Mathlib.Algebra.BigOperators.Ring.List

/-!
# Inventory in transit

What a shipment takes out of the source store is in transit until it is received or
written off.  The ledger keeps its value amount by amount, each rounded when it is posted;
the report computes it from the transfer lines.

## Main definitions

* `inventoryInTransitReconciliation` — the report.
* `transitValue` — what the lines have in transit, not rounded.
* `roundedAmounts` — how many rounded amounts have been posted.
* `Transit` — the invariant.

## Main results

* `Transit.exec` — every request keeps it.
* `in_transit_reconciled` — the two sides of the report differ by one ledger quantum at
  most for each rounded amount, and the lines agree with the posted write-offs.

## References

`backend/app/modules/transfers/service.py`, `inventory_in_transit_reconciliation`.
-/

namespace GroceryErp

open Decimal Ledger Outcome Rows Runs

/-! ### The report -/

/-- The balance of an account over all stores, debits positive. -/
def glTotal (db : Db) (a : Account) : ℚ := (db.ledger.entries.map (entryNet a)).sum

/-- `InventoryInTransitReconciliationRow`, less the difference of its two columns. -/
structure InventoryInTransitReconciliationRow where
  glInTransitBalance : ℚ
  outstandingInTransitTotal : ℚ
  deriving DecidableEq

/-- What is neither received nor written off of a line. -/
def InterStoreTransferLine.outstanding (l : InterStoreTransferLine) : ℚ :=
  l.shippedQuantity - l.receivedQuantity - l.writtenOffQuantity

/-- The lines of which something is outstanding: shipped, and neither received nor written off. -/
def outstandingLines (db : Db) : List (Row InterStoreTransferLine) :=
  db.transfers.lines.filter fun l =>
    l.val.receivedQuantity + l.val.writtenOffQuantity < l.val.shippedQuantity

/-- `inventory_in_transit_reconciliation`: the ledger's balance against the outstanding units of
every shipped line, each at its shipment cost. -/
def inventoryInTransitReconciliation (db : Db) : Result InventoryInTransitReconciliationRow := do
  let values ← (outstandingLines db).mapM fun line => do
    let unitCost ← orRaise line.val.unitCostAtShipment .assertion
    return ledgerQuantize (line.val.outstanding * unitCost)
  return ⟨glTotal db .inventoryInTransit, values.sum⟩

/-! ### What is in transit -/

/-- What a line has in transit at its frozen cost; a line that is not shipped has none. -/
def InterStoreTransferLine.transitValue (l : InterStoreTransferLine) : ℚ :=
  l.outstanding * l.unitCostAtShipment.getD 0

/-- What the lines have in transit, at the cost at which each was shipped. -/
def transitValue (db : Db) : ℚ := (db.transfers.lines.map (·.val.transitValue)).sum

/-- How often the amount of a write-off has been posted. -/
def WriteOffStatus.postings : WriteOffStatus → ℕ
  | .posted => 1
  | .reversed => 2
  | .pendingApproval | .approved | .denied => 0

/-- How many rounded amounts have been posted: one for each line shipped and for each good
part received, and those of the write-offs. -/
def roundedAmounts (db : Db) : ℕ :=
  (db.transfers.lines.map fun l => if l.val.unitCostAtShipment.isSome then 1 else 0).sum
    + (db.transfers.receiptItems.map fun i => if 0 < i.val.quantityReceived then 1 else 0).sum
    + (db.losses.writeOffs.map fun w => w.val.status.postings).sum

/-- What the posted write-offs take from a transfer line. -/
def lineWrittenOff (writeOffs : List (Row TransferWriteOff)) (transferLineId : ℕ) : ℚ :=
  sumWhere (fun w => w.val.transferLineId = transferLineId ∧ w.val.status = .posted)
    (·.val.quantity) writeOffs

/-- The quantities of a line have three decimals, its cost six and no sign. -/
structure InterStoreTransferLine.InScale (l : InterStoreTransferLine) : Prop where
  shipped : OnGrid 3 l.shippedQuantity
  received : OnGrid 3 l.receivedQuantity
  damaged : OnGrid 3 l.damagedQuantity
  declared_short : OnGrid 3 l.declaredShortQuantity
  written_off : OnGrid 3 l.writtenOffQuantity
  cost : ∀ c ∈ l.unitCostAtShipment, OnGrid 6 c ∧ 0 ≤ c

theorem InterStoreTransferLine.InScale.stored_eq {l : InterStoreTransferLine} (h : l.InScale) :
    l.stored = l := by
  have hcost : l.unitCostAtShipment.map (numeric 6) = l.unitCostAtShipment := by
    cases hc : l.unitCostAtShipment with
    | none => rfl
    | some c => rw [Option.map_some, numeric_eq_self (h.cost c hc).1]
  unfold InterStoreTransferLine.stored
  rw [numeric_eq_self h.shipped, numeric_eq_self h.received, numeric_eq_self h.damaged,
    numeric_eq_self h.declared_short, numeric_eq_self h.written_off, hcost]

/-- The line is there, shipped at the cost `c`. -/
def LineCost (t : TransferTables) (transferLineId : ℕ) (c : ℚ) : Prop :=
  HasAt t.lines (·.val.unitCostAtShipment) transferLineId (some c)

/-! ### The invariant -/

/-- The documents of transfers and losses fit together, and the ledger is with them. -/
structure Transit (db : Db) : Prop where
  scale : ∀ l ∈ db.transfers.lines, l.val.InScale
  owned : ∀ l ∈ db.transfers.lines, l.val.transferId < db.transfers.transfers.length
  drafts : ∀ l ∈ db.transfers.lines, ∀ t, db.transfers.transfers[l.val.transferId]? = some t →
    t.val.status = .draft → l.val.unitCostAtShipment = none
  unshipped : ∀ l ∈ db.transfers.lines, l.val.unitCostAtShipment = none →
    l.val.shippedQuantity = 0
  found : ∀ d ∈ db.losses.discrepancies, ∃ i, db.transfers.receiptItems[d.val.sourceId]? = some i ∧
    LineCost db.transfers i.val.interStoreTransferLineId d.val.unitCost
  requested : ∀ w ∈ db.losses.writeOffs,
    LineCost db.transfers w.val.transferLineId w.val.unitCost ∧ OnGrid 3 w.val.quantity ∧
      w.val.amount = ledgerQuantize (w.val.quantity * w.val.unitCost)
  written_off : ∀ i l, db.transfers.lines[i]? = some l →
    l.val.writtenOffQuantity = lineWrittenOff db.losses.writeOffs i
  agrees : |glTotal db .inventoryInTransit - transitValue db| ≤ quantum 6 / 2 * roundedAmounts db

section Basics

variable {db d : Db}

theorem Transit.congr (h : Transit db) (ht : d.transfers = db.transfers)
    (hl : d.losses = db.losses) (he : d.ledger.entries = db.ledger.entries) : Transit d := by
  obtain ⟨scale, owned, drafts, unshipped, found, requested, writtenOff, agrees⟩ := h
  have hgl : glTotal d .inventoryInTransit = glTotal db .inventoryInTransit := by
    rw [glTotal, glTotal, he]
  have hvalue : transitValue d = transitValue db := by
    rw [transitValue, transitValue, ht]
  have hrounded : roundedAmounts d = roundedAmounts db := by
    rw [roundedAmounts, roundedAmounts, ht, hl]
  rw [← hgl, ← hvalue, ← hrounded] at agrees
  rw [← ht] at scale owned drafts unshipped found requested writtenOff
  rw [← hl] at found requested writtenOff
  exact ⟨scale, owned, drafts, unshipped, found, requested, writtenOff, agrees⟩

theorem Transit.commit (h : Transit db) : Transit db.commit := by
  refine h.congr ?_ rfl rfl
  have hlines : (db.transfers.lines.map fun l => (⟨l.val.stored, l.property.stored⟩ :
      Row InterStoreTransferLine)) = db.transfers.lines := by
    calc _ = db.transfers.lines.map id :=
          List.map_congr_left fun l hl => Subtype.ext (h.scale l hl).stored_eq
      _ = db.transfers.lines := List.map_id _
  show ({ db.transfers with lines := db.transfers.lines.map _ } : TransferTables) = db.transfers
  rw [hlines]

/-- A line with a cost keeps it when lines are appended. -/
theorem LineCost.append {t : TransferTables} {i : ℕ} {c : ℚ} (h : LineCost t i c)
    (ls : List (Row InterStoreTransferLine)) (ts : List (Row InterStoreTransfer)) :
    LineCost { t with lines := t.lines ++ ls, transfers := ts } i c :=
  HasAt.append h ls

theorem LineCost.inScale {i : ℕ} {c : ℚ} (h : LineCost db.transfers i c) (hdb : Transit db) :
    OnGrid 6 c ∧ 0 ≤ c := by
  obtain ⟨l, hl, hc⟩ := h
  exact (hdb.scale l (mem_of_row hl)).cost c hc

/-- The bound after a step that moves both sides by about the same. -/
theorem agrees_add {g v g' v' : ℚ} {n n' k : ℕ} (h : |g - v| ≤ quantum 6 / 2 * n)
    (hstep : |(g' - g) - (v' - v)| ≤ quantum 6 / 2 * k) (hn : n' = n + k) :
    |g' - v'| ≤ quantum 6 / 2 * n' := by
  have hsplit : g' - v' = (g - v) + ((g' - g) - (v' - v)) := by ring
  rw [hn, hsplit, Nat.cast_add, mul_add]
  exact (abs_add_le _ _).trans (add_le_add h hstep)

end Basics

/-! ### The ledger -/

section Ledger

variable {db db' : Db} {storeId sourceId : ℕ} {postingDate : Date} {sourceType : SourceType}
  {lines : List JournalLine} {dr cr : Account} {x : ℚ}

theorem glTotal_postJournal
    (h : postJournal db storeId postingDate sourceType sourceId lines = .ok db') (a : Account) :
    glTotal db' a = glTotal db a + net a (lines.map storedLine) := by
  obtain ⟨-, -, -, entry, hentry, rfl⟩ := postJournal_eq_ok.mp h
  simp [glTotal, entryNet, hentry]

theorem glTotal_postPair
    (h : postPair db storeId postingDate sourceType sourceId dr cr x = .ok db') (hx : 0 ≤ x)
    (hg : OnGrid 6 x) (a : Account) :
    glTotal db' a = glTotal db a + ((if dr = a then x else 0) + if cr = a then -x else 0) := by
  unfold postPair postJournalUnlessEmpty at h
  rw [← net_map_storedLine_pair hx hg]
  split at h
  · next hnil =>
    rw [pure_eq_ok] at h
    rw [← h, hnil]
    simp
  · exact glTotal_postJournal h a

theorem glTotal_postSwap
    (h : postSwap db storeId postingDate sourceType sourceId dr cr x = .ok db')
    (hg : OnGrid 6 x) (a : Account) :
    glTotal db' a = glTotal db a + ((if dr = a then x else 0) + if cr = a then -x else 0) := by
  rw [glTotal_postJournal h, net_storedLine_swap hg]

end Ledger

/-! ### What the requests keep -/

section Documents

variable {db d : Db}

/-- A write-off is of a line that is there. -/
theorem Transit.transferLineId_lt (h : Transit db) {w : Row TransferWriteOff}
    (hw : w ∈ db.losses.writeOffs) : w.val.transferLineId < db.transfers.lines.length := by
  obtain ⟨l, hl, -⟩ := (h.requested w hw).1
  exact (List.getElem?_eq_some_iff.mp hl).1

/-- A new transfer has nothing in transit. -/
theorem Transit.createTransfer {req : CreateTransfer} {transferId : ℕ} (h : Transit db)
    (hd : createTransfer db req = .ok (d, transferId)) : Transit d := by
  obtain ⟨transfer, lines, -, hlines, rfl⟩ := createTransfer_ok hd
  have hnew : ∀ l ∈ lines, ∃ line, l.val = transferLineRow db.transfers.transfers.length line :=
    fun l hl => (hlines l hl).1
  have hzero : ∀ l ∈ lines, l.val.transitValue = 0 ∧ l.val.unitCostAtShipment = none := by
    intro l hl
    obtain ⟨line, hrow⟩ := hnew l hl
    rw [hrow]
    exact ⟨mul_zero _, rfl⟩
  refine ⟨?_, ?_, ?_, ?_, ?_, ?_, ?_, ?_⟩
  · intro l hl
    rcases List.mem_append.mp hl with hl | hl
    · exact h.scale l hl
    · obtain ⟨line, hrow⟩ := hnew l hl
      rw [hrow]
      refine ⟨onGrid_zero 3, onGrid_zero 3, onGrid_zero 3, onGrid_zero 3, onGrid_zero 3, ?_⟩
      intro c hc
      cases hc
  · intro l hl
    rw [List.length_append, List.length_singleton]
    rcases List.mem_append.mp hl with hl | hl
    · exact Nat.lt_succ_of_lt (h.owned l hl)
    · obtain ⟨line, hrow⟩ := hnew l hl
      rw [hrow]
      exact Nat.lt_succ_self _
  · intro l hl t ht hdraft
    rcases List.mem_append.mp hl with hl | hl
    · have ht' : (db.transfers.transfers ++ [transfer])[l.val.transferId]? = some t := ht
      rw [List.getElem?_append_left (h.owned l hl)] at ht'
      exact h.drafts l hl t ht' hdraft
    · exact (hzero l hl).2
  · intro l hl hnone
    rcases List.mem_append.mp hl with hl | hl
    · exact h.unshipped l hl hnone
    · obtain ⟨line, hrow⟩ := hnew l hl
      rw [hrow]
      rfl
  · intro disc hdisc
    obtain ⟨i, hi, hcost⟩ := h.found disc hdisc
    exact ⟨i, hi, hcost.append _ _⟩
  · intro w hw
    exact ⟨(h.requested w hw).1.append _ _, (h.requested w hw).2⟩
  · intro i l hl
    by_cases hi : i < db.transfers.lines.length
    · have hl' : (db.transfers.lines ++ lines)[i]? = some l := hl
      rw [List.getElem?_append_left hi] at hl'
      exact h.written_off i l hl'
    · -- no write-off is of a new line
      have hnone : lineWrittenOff db.losses.writeOffs i = 0 := by
        refine sumWhere_eq_zero _ _ fun w hw hfor => absurd hfor.1 ?_
        have hlt := h.transferLineId_lt hw
        omega
      have hl' : (db.transfers.lines ++ lines)[i]? = some l := hl
      rw [List.getElem?_append_right (not_lt.mp hi)] at hl'
      obtain ⟨line, hrow⟩ := hnew l (mem_of_row hl')
      rw [hrow]
      exact hnone.symm
  · have hvalue : (lines.map (·.val.transitValue)).sum = 0 := by
      refine List.sum_eq_zero fun x hx => ?_
      obtain ⟨l, hl, rfl⟩ := List.mem_map.mp hx
      exact (hzero l hl).1
    have hcount : (lines.map fun l => if l.val.unitCostAtShipment.isSome then 1 else 0).sum
        = 0 := by
      refine List.sum_eq_zero fun x hx => ?_
      obtain ⟨l, hl, rfl⟩ := List.mem_map.mp hx
      rw [(hzero l hl).2]
      rfl
    have hagrees := h.agrees
    unfold transitValue roundedAmounts at hagrees ⊢
    rw [List.map_append, List.sum_append, hvalue, add_zero, List.map_append, List.sum_append,
      hcount, add_zero]
    exact hagrees

/-- A cancelled transfer is no draft. -/
theorem Transit.cancelTransfer {req : CancelTransfer} (h : Transit db)
    (hd : cancelTransfer db req = .ok d) : Transit d := by
  rcases cancelTransfer_ok hd with rfl | ⟨transfer, cancelled, htransfer, -, hcancelled, rfl⟩
  · exact h
  refine ⟨h.scale, ?_, ?_, h.unshipped, h.found, h.requested, h.written_off, h.agrees⟩
  · intro l hl
    rw [List.length_set]
    exact h.owned l hl
  · intro l hl t ht hdraft
    rw [getElem?_set_of_some htransfer] at ht
    split at ht
    · rw [← Option.some.inj ht, hcancelled] at hdraft
      cases hdraft
    · exact h.drafts l hl t ht hdraft

/-- A discrepancy that is written keeps its receipt item and its cost. -/
theorem Transit.set_discrepancy {i : ℕ} {old new : Row ReceivingDiscrepancy} (h : Transit db)
    (hold : db.losses.discrepancies[i]? = some old) (hsource : new.val.sourceId = old.val.sourceId)
    (hcost : new.val.unitCost = old.val.unitCost) :
    Transit { db with losses.discrepancies := db.losses.discrepancies.set i new } := by
  refine ⟨h.scale, h.owned, h.drafts, h.unshipped, ?_, h.requested, h.written_off, h.agrees⟩
  refine forall_mem_set h.found ?_
  rw [hsource, hcost]
  exact h.found old (mem_of_row hold)

/-- A write-off is requested at the cost of the discrepancy, which is that of the line. -/
theorem Transit.createWriteOff {req : CreateWriteOff} {writeOffId : ℕ} (h : Transit db)
    (hr : OnGrid 3 req.quantity) (hd : createWriteOff db req = .ok (d, writeOffId)) :
    Transit d := by
  rcases createWriteOff_ok hd with rfl | ⟨disc, w, hdisc, -, -, -, -, -, hw, rfl⟩
  · exact h
  obtain ⟨i, hi, hcost⟩ := h.found disc (mem_of_row hdisc)
  obtain ⟨item, hitem, hline⟩ := hw.line
  obtain rfl : i = item := Option.some.inj (hi.symm.trans hitem)
  rw [hline] at hcost
  have hgrid := (hcost.inScale h).1
  refine ⟨h.scale, h.owned, h.drafts, h.unshipped, h.found, ?_, ?_, ?_⟩
  · intro v hv
    rcases List.mem_append.mp hv with hv | hv
    · exact h.requested v hv
    · rw [List.mem_singleton.mp hv, hw.unitCost, hw.amount, hw.quantity, numeric_eq_self hgrid,
        numeric_eq_self hr, numeric_eq_self (onGrid_ledgerQuantize _)]
      exact ⟨hcost, hr, rfl⟩
  · intro j l hl
    rw [h.written_off j l hl]
    simp [lineWrittenOff, hw.status]
  · have hagrees := h.agrees
    unfold roundedAmounts at hagrees ⊢
    rw [List.map_append, List.sum_append, List.map_singleton, hw.status]
    exact hagrees

end Documents

section WriteOffs

variable {db d : Db}

/-- The write-off `w'` is of the same loss as `w`. -/
structure TransferWriteOff.SameLoss (w w' : TransferWriteOff) : Prop where
  transferLineId : w'.transferLineId = w.transferLineId
  quantity : w'.quantity = w.quantity
  unitCost : w'.unitCost = w.unitCost
  amount : w'.amount = w.amount

/-- What a write-off takes from its line, which is nothing before it is posted and nothing once it
is reversed. -/
def TransferWriteOff.taken (w : TransferWriteOff) : ℚ := if w.status = .posted then w.quantity else 0

/-- What a line has written off after a write-off of it, or of another, is written. -/
theorem lineWrittenOff_set {ws : List (Row TransferWriteOff)} {i : ℕ}
    {w w' : Row TransferWriteOff} (hw : ws[i]? = some w) (hsame : w.val.SameLoss w'.val) (j : ℕ) :
    lineWrittenOff (ws.set i w') j = lineWrittenOff ws j
      + if w.val.transferLineId = j then w'.val.taken - w.val.taken else 0 := by
  unfold lineWrittenOff TransferWriteOff.taken
  rw [sumWhere_set _ _ hw, hsame.transferLineId]
  by_cases hj : w.val.transferLineId = j
  · simp only [hj, true_and, if_true]
    ring
  · simp [hj]

/-- **A write-off is written, and with it its line and the ledger.** -/
theorem Transit.set_writeOff {i k : ℕ} {w w' : Row TransferWriteOff}
    {line line' : Row InterStoreTransferLine} {g : ℚ} (h : Transit db)
    (hw : db.losses.writeOffs[i]? = some w) (hsame : w.val.SameLoss w'.val)
    (hline : db.transfers.lines[w.val.transferLineId]? = some line)
    (hline' : line'.val = { line.val with
      writtenOffQuantity := line.val.writtenOffQuantity + (w'.val.taken - w.val.taken) })
    (htransfers : d.transfers
      = { db.transfers with lines := db.transfers.lines.set w.val.transferLineId line' })
    (hwriteOffs : d.losses.writeOffs = db.losses.writeOffs.set i w')
    (hdiscs : ∀ disc ∈ d.losses.discrepancies, ∃ old ∈ db.losses.discrepancies,
      disc.val.sourceId = old.val.sourceId ∧ disc.val.unitCost = old.val.unitCost)
    (hgl : glTotal d .inventoryInTransit = glTotal db .inventoryInTransit + g)
    (hg : |g + (w'.val.taken - w.val.taken) * w.val.unitCost| ≤ quantum 6 / 2 * k)
    (hk : w'.val.status.postings = w.val.status.postings + k) : Transit d := by
  obtain ⟨hcost, hgrid, hamount⟩ := h.requested w (mem_of_row hw)
  have hkept : line'.val.unitCostAtShipment = line.val.unitCostAtShipment := by rw [hline']
  have hid : line'.val.transferId = line.val.transferId := by rw [hline']
  -- the line keeps the cost it was shipped at, so all that refers to it does
  have hcosts : ∀ j c, LineCost db.transfers j c → LineCost d.transfers j c := by
    intro j c hj
    rw [htransfers]
    exact HasAt.set hj hline hkept
  -- what is taken by a write-off is its quantity or nothing, as its status says
  have htaken : OnGrid 3 (w'.val.taken - w.val.taken) := by
    have hpart : ∀ v : TransferWriteOff, v.quantity = w.val.quantity → OnGrid 3 v.taken := by
      intro v hv
      unfold TransferWriteOff.taken
      split
      · exact hv ▸ hgrid
      · exact onGrid_zero 3
    exact (hpart _ hsame.quantity).sub (hpart _ rfl)
  refine ⟨?_, ?_, ?_, ?_, ?_, ?_, ?_, ?_⟩
  · rw [htransfers]
    refine forall_mem_set h.scale ?_
    obtain ⟨hshipped, hreceived, hdamaged, hshort, hwritten, hc⟩ := h.scale line (mem_of_row hline)
    rw [hline']
    exact ⟨hshipped, hreceived, hdamaged, hshort, hwritten.add htaken, hc⟩
  · rw [htransfers]
    refine forall_mem_set h.owned ?_
    rw [hid]
    exact h.owned line (mem_of_row hline)
  · rw [htransfers]
    refine forall_mem_set h.drafts ?_
    rw [hid, hkept]
    exact h.drafts line (mem_of_row hline)
  · rw [htransfers]
    refine forall_mem_set h.unshipped ?_
    rw [hline']
    exact h.unshipped line (mem_of_row hline)
  · intro disc hdisc
    obtain ⟨old, hold, hsource, hunit⟩ := hdiscs disc hdisc
    obtain ⟨item, hitem, hc⟩ := h.found old hold
    rw [hsource, hunit, htransfers]
    exact ⟨item, hitem, htransfers ▸ hcosts _ _ hc⟩
  -- the write-off itself keeps its loss, and changes its status
  · rw [hwriteOffs]
    have hall : ∀ v ∈ db.losses.writeOffs, LineCost d.transfers v.val.transferLineId v.val.unitCost ∧
        OnGrid 3 v.val.quantity ∧
        v.val.amount = ledgerQuantize (v.val.quantity * v.val.unitCost) :=
      fun v hv => ⟨hcosts _ _ (h.requested v hv).1, (h.requested v hv).2⟩
    refine forall_mem_set hall ?_
    rw [hsame.transferLineId, hsame.unitCost, hsame.quantity, hsame.amount]
    exact ⟨hcosts _ _ hcost, hgrid, hamount⟩
  -- what is written off of a line is the sum over the write-offs of it, of which one has changed
  · intro j l hl
    rw [htransfers, getElem?_set_of_some hline] at hl
    rw [hwriteOffs, lineWrittenOff_set hw hsame]
    split at hl
    · next hj =>
      subst hj
      rw [← Option.some.inj hl, hline', if_pos rfl, h.written_off _ line hline]
    · next hj => rw [if_neg hj, add_zero, h.written_off j l hl]
  · refine agrees_add (k := k) h.agrees ?_ ?_
    · have hunit : line.val.unitCostAtShipment = some w.val.unitCost := hcost.eq_of_row hline
      -- the value goes down by what is taken, and the ledger by the amount rounded for posting
      have hvalue : transitValue d = transitValue db
          - (w'.val.taken - w.val.taken) * w.val.unitCost := by
        unfold transitValue
        rw [htransfers, sum_map_set hline]
        unfold InterStoreTransferLine.transitValue InterStoreTransferLine.outstanding
        rw [hline', hunit]
        simp only [Option.getD_some]
        ring
      rw [hgl, hvalue]
      refine le_trans (le_of_eq ?_) hg
      congr 1
      ring
    -- each posting allows the rounding half a quantum more
    · unfold roundedAmounts
      have hsum := sum_map_set_add hw (fun v => v.val.status.postings) w'
      have hshipped := map_set_of_eq (f := fun l : Row InterStoreTransferLine =>
        if l.val.unitCostAtShipment.isSome then 1 else 0) hline (by rw [hkept])
      have hitems : d.transfers.receiptItems = db.transfers.receiptItems := by rw [htransfers]
      have hlines : d.transfers.lines = db.transfers.lines.set w.val.transferLineId line' := by
        rw [htransfers]
      rw [hitems, hlines, hwriteOffs, hshipped]
      omega

theorem Transit.approveWriteOff {req : DecideWriteOff} (h : Transit db)
    (hd : approveWriteOff db req = .ok d) : Transit d := by
  rcases approveWriteOff_ok hd with rfl | ⟨w, w', disc, line, line', a, approvedBy, e, hdecides,
    -, -, hline, hj, hw', hline', -, rfl⟩
  · exact h
  obtain ⟨-, -, hamount⟩ := h.requested w (mem_of_row hdecides.loaded)
  have hbefore : w.val.taken = 0 := by simp [TransferWriteOff.taken, hdecides.pending]
  have hafter : w'.val.taken = w.val.quantity := by simp [TransferWriteOff.taken, hw']
  refine h.set_writeOff (k := 1) (g := -w.val.amount) hdecides.loaded ?_ hline ?_ rfl rfl
    (fun disc hdisc => ⟨disc, hdisc, rfl, rfl⟩) ?_ ?_ ?_
  · rw [hw']
    exact ⟨rfl, rfl, rfl, rfl⟩
  · rw [hline', hbefore, hafter, sub_zero]
  · refine (glTotal_postSwap hj ?_ .inventoryInTransit).trans ?_
    · rw [hamount]
      exact onGrid_ledgerQuantize _
    · simp
  · rw [hbefore, hafter, hamount, sub_zero, abs_le]
    have hround := abs_le.mp (abs_quantize_sub_le 6 (w.val.quantity * w.val.unitCost))
    unfold ledgerQuantize
    constructor
    · push_cast
      linarith [hround.2]
    · push_cast
      linarith [hround.1]
  · rw [hw', hdecides.pending]
    rfl

theorem Transit.reverseWriteOff {req : ReverseWriteOff} (h : Transit db)
    (hd : reverseWriteOff db req = .ok d) : Transit d := by
  rcases reverseWriteOff_ok hd with rfl | ⟨w, w', line, line', e, hw, hposted, hline, hj, hw',
    hline', rfl⟩
  · exact h
  obtain ⟨-, -, hamount⟩ := h.requested w (mem_of_row hw)
  have hbefore : w.val.taken = w.val.quantity := by simp [TransferWriteOff.taken, hposted]
  have hafter : w'.val.taken = 0 := by simp [TransferWriteOff.taken, hw']
  refine h.set_writeOff (k := 1) (g := w.val.amount) hw ?_ hline ?_ rfl rfl
    (fun disc hdisc => ⟨disc, hdisc, rfl, rfl⟩) ?_ ?_ ?_
  · rw [hw']
    exact ⟨rfl, rfl, rfl, rfl⟩
  · rw [hline', hbefore, hafter, zero_sub]
  · refine (glTotal_postSwap hj ?_ .inventoryInTransit).trans ?_
    · rw [hamount]
      exact onGrid_ledgerQuantize _
    · simp
  · rw [hbefore, hafter, hamount, zero_sub, neg_mul, ← sub_eq_add_neg, Nat.cast_one, mul_one]
    exact abs_quantize_sub_le 6 _
  · rw [hw', hposted]
    rfl

theorem Transit.denyWriteOff {req : DecideWriteOff} (h : Transit db)
    (hd : denyWriteOff db req = .ok d) : Transit d := by
  rcases denyWriteOff_ok hd with ⟨rfl, -⟩ | ⟨w, w', a, approvedBy, old, disc, hdecides, hw', -, hold,
    -, hdisc, rfl⟩
  · exact h
  obtain ⟨line, hline, -⟩ := (h.requested w (mem_of_row hdecides.loaded)).1
  have hbefore : w.val.taken = 0 := by simp [TransferWriteOff.taken, hdecides.pending]
  have hafter : w'.val.taken = 0 := by simp [TransferWriteOff.taken, hw']
  refine @Transit.set_writeOff _ _ _ 0 _ _ _ line 0 h hdecides.loaded ?_ hline ?_ ?_ rfl ?_ ?_
    ?_ ?_
  · rw [hw']
    exact ⟨rfl, rfl, rfl, rfl⟩
  · rw [hbefore, hafter, sub_zero, add_zero]
  · rw [set_self hline]
  · have hall : ∀ x ∈ db.losses.discrepancies, ∃ o ∈ db.losses.discrepancies,
        x.val.sourceId = o.val.sourceId ∧ x.val.unitCost = o.val.unitCost :=
      fun x hx => ⟨x, hx, rfl, rfl⟩
    refine forall_mem_set hall ⟨old, mem_of_row hold, ?_⟩
    rw [hdisc]
    exact ⟨rfl, rfl⟩
  · exact (add_zero _).symm
  · rw [hbefore, hafter]
    simp
  · rw [hw', hdecides.pending]
    rfl

end WriteOffs

section Shipping

variable {db d : Db}

/-- A line that has shipped nothing had nothing received or written off. -/
theorem unaccounted_of_unshipped {l : Row InterStoreTransferLine} (hstored : l.val.stored = l.val)
    (hzero : l.val.shippedQuantity = 0) :
    l.val.receivedQuantity = 0 ∧ l.val.writtenOffQuantity = 0 := by
  have hchecks : l.val.Checks := l.property
  have hreceived := hchecks.received_nonneg
  have hdamaged := hchecks.damaged_nonneg
  have hshort := hchecks.declared_short_nonneg
  have haccounted := hchecks.accounted_le
  have hwritten := hchecks.written_off_nonneg
  have hle := hchecks.written_off_le
  rw [hstored] at hreceived hdamaged hshort haccounted hwritten hle
  constructor <;> linarith

/-- A line that has shipped nothing has nothing in transit, and comes to have in transit
what is shipped. -/
theorem transitValue_of_shipped {l : Row InterStoreTransferLine} {q c : ℚ} (h : l.val.InScale)
    (hzero : l.val.shippedQuantity = 0) : l.val.transitValue = 0 ∧
      InterStoreTransferLine.transitValue { l.val with
        shippedQuantity := q, unitCostAtShipment := some c } = q * c := by
  obtain ⟨hr, hw⟩ := unaccounted_of_unshipped h.stored_eq hzero
  unfold InterStoreTransferLine.transitValue InterStoreTransferLine.outstanding
  constructor
  · rw [hzero, hr, hw, sub_zero, sub_zero, zero_mul]
  · show (q - l.val.receivedQuantity - l.val.writtenOffQuantity) * c = q * c
    rw [hr, hw, sub_zero, sub_zero]

/-- What was shipped before keeps its cost. -/
theorem ShipTransfer.Ships.lineCost {req : ShipTransfer} {lines : List ShipLine}
    (h : req.Ships db lines d) (hnone : ∀ l ∈ lines, ∀ a : Row InterStoreTransferLine,
      db.transfers.lines[l.transferLineId]? = some a → a.val.unitCostAtShipment = none) {i : ℕ}
    {c : ℚ} (hi : LineCost db.transfers i c) : LineCost d.transfers i c := by
  obtain ⟨a, ha, hac⟩ := hi
  obtain ⟨b, hb, hab⟩ := h.lines.2 i a ha
  rcases hab with ⟨l, hl, rfl, -⟩ | ⟨-, rfl⟩
  · cases (hnone l hl a ha).symm.trans hac
  · exact ⟨b, hb, hac⟩

/-- **A shipment puts in transit what it takes out of the store.** -/
theorem Transit.shipTransfer {req : ShipTransfer} (h : Transit db) (hdb : db.Stored)
    (hscale : ∀ l ∈ req.lines, OnGrid 3 l.quantityToShip)
    (honce : transferWithShipKey db req.clientTransactionId = [] →
      (req.lines.map (·.transferLineId)).Nodup)
    (hd : shipTransfer db req = .ok d) : Transit d := by
  rcases shipTransfer_ok hd with rfl | ⟨transfer, lines, e, shipped, hkey, htransfer, hpos, hplan,
    he, hshipped, hj⟩
  · exact h
  have hships := ships_of_ok hkey htransfer hplan he hshipped hj
  have hnodup : (lines.map (·.transferLineId)).Nodup := hships.ids ▸ honce hkey
  have hframe := (shipLines_ok (P := fun _ => True) he (fun _ _ _ _ => trivial)
    fun _ _ => trivial).1
  -- what is shipped, and the line it is of
  have hline : ∀ l ∈ lines, OnGrid 3 l.quantity ∧ 0 < l.quantity ∧ OnGrid 6 l.unitCost ∧
      0 ≤ l.unitCost ∧ l.transferLineId < db.transfers.lines.length := by
    intro l hl
    obtain ⟨line, hmem, hq⟩ := (hships.planned l hl).requested
    obtain ⟨row, hrow, -⟩ := (hships.planned l hl).line
    obtain ⟨p, hp, hc⟩ := (hships.planned l hl).product
    have hstored := hdb.products p (mem_of_row hp)
    have hcost := p.property.cost_nonneg
    rw [hstored] at hcost
    have hgrid : OnGrid 6 p.val.currentCost := by
      rw [← hstored]
      exact onGrid_numeric 6 _
    rw [← hq, hc]
    exact ⟨hscale line hmem, hpos line hmem, hgrid, hcost, (List.getElem?_eq_some_iff.mp hrow).1⟩
  have hnone : ∀ l ∈ lines, ∀ a : Row InterStoreTransferLine,
      db.transfers.lines[l.transferLineId]? = some a → a.val.unitCostAtShipment = none := by
    intro l hl a ha
    obtain ⟨-, t, ht, hdraft⟩ := hships.named hl ha
    exact h.drafts a (mem_of_row ha) t ht hdraft
  refine ⟨?_, hships.owned h.owned, hships.unshipped (S := (· = .draft))
    (P := (·.unitCostAtShipment = none)) (by decide) h.drafts, hships.nothing h.unshipped, ?_, ?_,
    ?_, ?_⟩
  · refine hships.lines.forall_mem h.scale fun i a b ha hab => ?_
    rcases hab with ⟨l, hl, -, hb⟩ | ⟨-, rfl⟩
    · obtain ⟨hq, -, hc, hnonneg, -⟩ := hline l hl
      rw [hb]
      refine ⟨hq, ha.received, ha.damaged, ha.declared_short, ha.written_off, ?_⟩
      intro c hmem
      rw [← Option.some.inj hmem]
      exact ⟨hc, hnonneg⟩
    · exact ha
  · rw [hships.losses]
    intro disc hdisc
    obtain ⟨item, hitem, hc⟩ := h.found disc hdisc
    exact ⟨item, hships.items ▸ hitem, hships.lineCost hnone hc⟩
  · rw [hships.losses]
    exact fun w hw => ⟨hships.lineCost hnone (h.requested w hw).1, (h.requested w hw).2⟩
  · intro i b hb
    obtain ⟨a, ha, hab⟩ := hships.lines.row hb
    rw [hships.losses, ← h.written_off i a ha]
    rcases hab with ⟨l, -, -, hval⟩ | ⟨-, rfl⟩
    · rw [hval]
    · rfl
  · have hbound : ∀ l ∈ lines, l.transferLineId < db.transfers.lines.length :=
      fun l hl => (hline l hl).2.2.2.2
    -- what each line has more in transit
    have hvalue : transitValue d = transitValue db
        + (lines.map fun l => l.quantity * l.unitCost).sum := by
      unfold transitValue
      refine hships.lines.sum_map_named hnodup hbound _ _ fun l hl a b ha hb => ?_
      obtain ⟨hzero, hq⟩ := transitValue_of_shipped (q := l.quantity) (c := l.unitCost)
        (h.scale a (mem_of_row ha)) (h.unshipped a (mem_of_row ha) (hnone l hl a ha))
      rw [hb, hzero, zero_add, hq]
    have hcount : roundedAmounts d = roundedAmounts db + lines.length := by
      have hshippedLines : (d.transfers.lines.map fun l =>
          if l.val.unitCostAtShipment.isSome then 1 else 0).sum
          = (db.transfers.lines.map fun l =>
            if l.val.unitCostAtShipment.isSome then 1 else 0).sum
            + (lines.map fun _ => 1).sum := by
        refine hships.lines.sum_map_named hnodup hbound _ _ fun l hl a b ha hb => ?_
        rw [hb, hnone l hl a ha]
        rfl
      have hones : (lines.map fun _ => 1).sum = lines.length := by simp
      unfold roundedAmounts
      rw [hshippedLines, hships.items, hships.losses, hones]
      omega
    have hgl : glTotal d .inventoryInTransit = glTotal db .inventoryInTransit
        + (lines.map fun l => ledgerQuantize (l.quantity * l.unitCost)).sum := by
      have hnonneg : 0 ≤ valueOfLines (shippedLines lines) := by
        refine valueOfLines_nonneg fun x hx => ?_
        obtain ⟨l, hl, rfl⟩ := List.mem_map.mp hx
        exact ⟨(hline l hl).2.1.le, (hline l hl).2.2.2.1⟩
      have hposted := glTotal_postPair hj hnonneg (onGrid_valueOfLines _) .inventoryInTransit
      have hsum : valueOfLines (shippedLines lines)
          = (lines.map fun l => ledgerQuantize (l.quantity * l.unitCost)).sum := by
        unfold valueOfLines shippedLines
        rw [List.map_map]
        rfl
      rw [hposted, hsum, hframe]
      simp [glTotal]
    refine agrees_add (k := lines.length) h.agrees ?_ hcount
    rw [hgl, hvalue, add_sub_cancel_left, add_sub_cancel_left]
    exact abs_sum_map_quantize_sub_le 6 _ _

end Shipping

section Receiving

variable {db d : Db} {req : ReceiveTransfer} {lines : List TransferReceiptLine}

/-- A line after a receipt: its counters with what the request has received, found damaged and
declared short. -/
def InterStoreTransferLine.accounted (l : InterStoreTransferLine) (inputs : List ReceiveLineInput)
    (transferLineId : ℕ) : InterStoreTransferLine :=
  { l with
    receivedQuantity :=
      l.receivedQuantity + sumReceived inputs (·.quantityReceived) transferLineId
    damagedQuantity := l.damagedQuantity + sumReceived inputs (·.quantityDamaged) transferLineId
    declaredShortQuantity :=
      l.declaredShortQuantity + sumReceived inputs (·.quantityDeclaredShort) transferLineId }

theorem sumReceived_eq_zero {inputs : List ReceiveLineInput} {i : ℕ}
    (h : i ∉ inputs.map (·.transferLineId)) (f : ReceiveLineInput → ℚ) :
    sumReceived inputs f i = 0 :=
  sumWhere_of_notMem _ h

theorem onGrid_sumReceived {inputs : List ReceiveLineInput} {f : ReceiveLineInput → ℚ}
    (h : ∀ l ∈ inputs, OnGrid 3 (f l)) (i : ℕ) : OnGrid 3 (sumReceived inputs f i) := by
  refine onGrid_sum _ fun x hx => ?_
  obtain ⟨l, hl, rfl⟩ := List.mem_map.mp hx
  exact h l (List.mem_of_mem_filter hl)

/-- A receipt writes every line as accounted for. -/
theorem accountLines_accounted {inputs : List ReceiveLineInput}
    (h : (distinct (inputs.map (·.transferLineId))).foldlM (accountLine inputs) db = .ok d) :
    Overwritten (fun i a b => b.val = a.val.accounted inputs i) db.transfers.lines
      d.transfers.lines := by
  refine (accountLines_overwritten (nodup_distinct _) h).mono fun i a b hab => ?_
  rw [hab]
  split
  · rfl
  · next hi =>
    rw [mem_distinct] at hi
    unfold InterStoreTransferLine.accounted
    rw [sumReceived_eq_zero hi, sumReceived_eq_zero hi, sumReceived_eq_zero hi, add_zero, add_zero,
      add_zero]

/-- What a receipt has done, table by table, in a form that the steps of the invariant share. -/
structure Unpacked (db : Db) (req : ReceiveTransfer) (lines : List TransferReceiptLine)
    (new : List (Row InterStoreTransferReceiptItem)) (found : List (Row ReceivingDiscrepancy))
    (d : Db) : Prop where
  inputs : lines.map (·.input) = req.lines
  planned : ∀ l ∈ lines, l.Planned db req
  transfers : d.transfers.transfers = db.transfers.transfers
  accounted : Overwritten (fun i a b => b.val = a.val.accounted req.lines i) db.transfers.lines
    d.transfers.lines
  items : d.transfers.receiptItems = db.transfers.receiptItems ++ new
  rows : ∃ receiptId, new.map (·.val) = lines.map (·.row receiptId)
  writeOffs : d.losses.writeOffs = db.losses.writeOffs
  discrepancies : d.losses.discrepancies = db.losses.discrepancies ++ found
  sources : ∀ disc ∈ found, ∃ k l, lines[k]? = some l ∧
    disc.val.sourceId = db.transfers.receiptItems.length + k ∧
      disc.val.unitCost = numeric 6 l.unitCost
  posted : ∃ e storeId receiptId, e.ledger.entries = db.ledger.entries ∧
    postTransferReceiptJournal e storeId receiptId req.receivedDate
      (valueOfLines (receivedGoods lines)) = .ok d

theorem receiveTransfer_unpacked (h : receiveTransfer db req = .ok d) :
    d = db ∨ ∃ lines new found, Unpacked db req lines new found d := by
  rcases receiveTransfer_ok h with rfl | ⟨transfer, lines, x, receiptId, htransfer, hplan, hwrite,
    hj⟩
  · exact .inl rfl
  unfold writeTransferReceipt at hwrite
  simp only [bind_eq_ok, pure_eq_ok, Prod.mk.injEq] at hwrite
  obtain ⟨e, he, f, hf, g, hg, rfl, -⟩ := hwrite
  -- first the items, then what they found, then the lines, and the entry last
  obtain ⟨new, hframe, hnew⟩ := receiveLines_items he
  obtain ⟨found, rfl, hfound⟩ := recordDiscrepancies_ok hf
  have haccounted := accountLines_accounted hg
  have hlines := (accountLines_ok (P := fun _ => True) hg (fun _ _ _ _ _ => trivial)
    fun _ _ => trivial).1
  have hpost := postJournalUnlessEmpty_frame hj
  refine .inr ⟨lines, new, found, planTransferReceipt_inputs hplan, planTransferReceipt_ok hplan,
    ?_, ?_, ?_, ⟨_, hnew⟩, ?_, ?_, ?_, g, _, _, ?_, hj⟩
  · rw [hpost, hlines]
    show e.transfers.transfers = _
    rw [hframe]
  · rw [hpost]
    have he' : e.transfers.lines = db.transfers.lines := by rw [hframe]
    rw [← he']
    exact haccounted
  · rw [hpost, hlines]
    show e.transfers.receiptItems = _
    rw [hframe]
  · rw [hpost, hlines]
    show e.losses.writeOffs = _
    rw [hframe]
  · rw [hpost, hlines]
    show e.losses.discrepancies ++ found = _
    rw [hframe]
  -- discrepancies are numbered after the receipt items, of which the new ones are the last
  · intro disc hdisc
    obtain ⟨⟨l, i⟩, hitem, hrow⟩ := hfound disc hdisc
    obtain ⟨hle, hl⟩ := List.mk_mem_zipIdx_iff_le_and_getElem?_sub.mp hitem
    refine ⟨i - db.transfers.receiptItems.length, l, hl, ?_, ?_⟩
    · rw [hrow]
      show i = _
      exact (Nat.add_sub_cancel' hle).symm
    · rw [hrow]
      rfl
  · rw [hlines]
    show e.ledger.entries = _
    rw [hframe]

/-- A receipt keeps what the lines were shipped at. -/
theorem Unpacked.lineCost {new : List (Row InterStoreTransferReceiptItem)}
    {found : List (Row ReceivingDiscrepancy)} {i : ℕ} {c : ℚ}
    (h : Unpacked db req lines new found d) (hi : LineCost db.transfers i c) :
    LineCost d.transfers i c := by
  obtain ⟨a, ha, hac⟩ := hi
  obtain ⟨b, hb, hab⟩ := h.accounted.2 i a ha
  refine ⟨b, hb, ?_⟩
  show b.val.unitCostAtShipment = some c
  rw [hab]
  exact hac

/-- The good part of a line of the receipt, and the cost of the transfer line it is of. -/
theorem Unpacked.line {new : List (Row InterStoreTransferReceiptItem)}
    {found : List (Row ReceivingDiscrepancy)} (hu : Unpacked db req lines new found d)
    (h : Transit db) (hscale : ∀ l ∈ req.lines, OnGrid 3 l.quantityReceived)
    {l : TransferReceiptLine} (hl : l ∈ lines) :
    0 ≤ l.input.quantityReceived ∧ OnGrid 3 l.input.quantityReceived ∧
      LineCost db.transfers l.input.transferLineId l.unitCost ∧ OnGrid 6 l.unitCost ∧
      0 ≤ l.unitCost := by
  obtain ⟨row, hrow, -, -, hc⟩ := (hu.planned l hl).line
  have hcost : LineCost db.transfers l.input.transferLineId l.unitCost := ⟨row, hrow, hc⟩
  have hgrid := hscale l.input (hu.planned l hl).requested
  obtain ⟨receiptId, hrows⟩ := hu.rows
  obtain ⟨r, -, hr⟩ := exists_of_map_eq hrows.symm hl
  have hnonneg := r.property.received_nonneg
  rw [hr] at hnonneg
  refine ⟨?_, hgrid, hcost, hcost.inScale h⟩
  rw [← numeric_eq_self hgrid]
  exact hnonneg

/-- What a receipt takes out of transit, line by line. -/
theorem Unpacked.transitValue {new : List (Row InterStoreTransferReceiptItem)}
    {found : List (Row ReceivingDiscrepancy)} (hu : Unpacked db req lines new found d) :
    transitValue d = transitValue db
      - (lines.map fun l => l.input.quantityReceived * l.unitCost).sum := by
  have hbound : ∀ l ∈ lines, l.input.transferLineId < db.transfers.lines.length := by
    intro l hl
    obtain ⟨row, hrow, -⟩ := (hu.planned l hl).line
    exact (List.getElem?_eq_some_iff.mp hrow).1
  unfold GroceryErp.transitValue
  rw [← sum_range_sumWhere _ hbound,
    sub_eq_add_neg, ← Finset.sum_neg_distrib]
  -- line by line, the cost is that of its shipment
  refine hu.accounted.sum_map _ _ fun i a b ha hab => ?_
  have hsum : sumReceived req.lines (·.quantityReceived) i * a.val.unitCostAtShipment.getD 0
      = sumWhere (·.input.transferLineId = i)
        (fun l => l.input.quantityReceived * l.unitCost) lines := by
    unfold sumReceived
    rw [← hu.inputs, sumWhere_map, sumWhere, ← List.sum_map_mul_right]
    refine sumWhere_congr (fun _ _ => Iff.rfl) fun l hl hli => ?_
    obtain ⟨row, hrow, -, -, hc⟩ := (hu.planned l hl).line
    have hl' : l.input.transferLineId = i := hli
    obtain rfl : a = row := Option.some.inj (ha.symm.trans (hl' ▸ hrow))
    rw [hc]
    rfl
  rw [← hsum]
  unfold InterStoreTransferLine.transitValue InterStoreTransferLine.outstanding
  rw [hab]
  show (a.val.shippedQuantity - (a.val.receivedQuantity
    + sumReceived req.lines (·.quantityReceived) i) - a.val.writtenOffQuantity)
      * a.val.unitCostAtShipment.getD 0 = _
  ring

/-- A receipt posts one rounded amount for each good part. -/
theorem Unpacked.roundedAmounts {new : List (Row InterStoreTransferReceiptItem)}
    {found : List (Row ReceivingDiscrepancy)} (hu : Unpacked db req lines new found d)
    (hscale : ∀ l ∈ req.lines, OnGrid 3 l.quantityReceived) :
    roundedAmounts d = roundedAmounts db
      + (lines.filter fun l => 0 < l.input.quantityReceived).length := by
  -- a receipt ships nothing, so the shipped lines stay as many
  have hshipped : (d.transfers.lines.map fun l =>
      if l.val.unitCostAtShipment.isSome then 1 else 0).sum
      = (db.transfers.lines.map fun l => if l.val.unitCostAtShipment.isSome then 1 else 0).sum := by
    refine (hu.accounted.sum_map _ (fun _ => 0) fun i a b _ hab => ?_).trans (by simp)
    rw [hab]
    rfl
  have hnew : (new.map fun i => if 0 < i.val.quantityReceived then 1 else 0).sum
      = (lines.filter fun l => 0 < l.input.quantityReceived).length := by
    obtain ⟨receiptId, hrows⟩ := hu.rows
    calc (new.map fun i => if 0 < i.val.quantityReceived then 1 else 0).sum
        = ((new.map (·.val)).map fun i => if 0 < i.quantityReceived then 1 else 0).sum := by
          rw [List.map_map]
          rfl
      _ = (lines.map fun l => if 0 < l.input.quantityReceived then 1 else 0).sum := by
          rw [hrows, List.map_map]
          congr 1
          refine List.map_congr_left fun l hl => ?_
          show (if 0 < numeric 3 l.input.quantityReceived then 1 else 0) = _
          rw [numeric_eq_self (hscale l.input (hu.planned l hl).requested)]
      _ = sumWhere (0 < ·.input.quantityReceived) (fun _ => 1) lines :=
          (sumWhere_eq_sum_map _ _ _).symm
      _ = (lines.filter fun l => 0 < l.input.quantityReceived).length := by simp [sumWhere]
  unfold GroceryErp.roundedAmounts
  rw [hshipped, hu.items, hu.writeOffs, List.map_append, List.sum_append, hnew]
  omega

/-- **A receipt takes out of transit what it takes into the store.** -/
theorem Transit.receiveTransfer (h : Transit db)
    (hscale : ∀ l ∈ req.lines, OnGrid 3 l.quantityReceived ∧ OnGrid 3 l.quantityDamaged ∧
      OnGrid 3 l.quantityDeclaredShort)
    (hd : receiveTransfer db req = .ok d) : Transit d := by
  rcases receiveTransfer_unpacked hd with rfl | ⟨lines, new, found, hu⟩
  · exact h
  have hline := fun l (hl : l ∈ lines) => hu.line h (fun k hk => (hscale k hk).1) hl
  have hcosts : ∀ i c, LineCost db.transfers i c → LineCost d.transfers i c :=
    fun _ _ => hu.lineCost
  refine ⟨?_, ?_, ?_, ?_, ?_, ?_, ?_, ?_⟩
  · refine hu.accounted.forall_mem h.scale fun i a b ha hab => ?_
    rw [hab]
    exact ⟨ha.shipped, ha.received.add (onGrid_sumReceived (fun l hl => (hscale l hl).1) i),
      ha.damaged.add (onGrid_sumReceived (fun l hl => (hscale l hl).2.1) i),
      ha.declared_short.add (onGrid_sumReceived (fun l hl => (hscale l hl).2.2) i),
      ha.written_off, ha.cost⟩
  · rw [hu.transfers]
    refine hu.accounted.forall_mem h.owned fun i a b ha hab => ?_
    rw [hab]
    exact ha
  · rw [hu.transfers]
    refine hu.accounted.forall_mem h.drafts fun i a b ha hab => ?_
    rw [hab]
    exact ha
  · refine hu.accounted.forall_mem h.unshipped fun i a b ha hab => ?_
    rw [hab]
    exact ha
  · rw [hu.discrepancies, hu.items]
    intro disc hdisc
    rcases List.mem_append.mp hdisc with hdisc | hdisc
    · obtain ⟨item, hitem, hc⟩ := h.found disc hdisc
      have hlt := (List.getElem?_eq_some_iff.mp hitem).1
      exact ⟨item, by rw [List.getElem?_append_left hlt, hitem], hcosts _ _ hc⟩
    · -- the receipt item of the line it was found on
      obtain ⟨k, l, hk, hsource, hunit⟩ := hu.sources disc hdisc
      obtain ⟨receiptId, hrows⟩ := hu.rows
      have hrow : (new.map (·.val))[k]? = some (l.row receiptId) := by
        rw [hrows, List.getElem?_map, hk, Option.map_some]
      rw [List.getElem?_map] at hrow
      obtain ⟨item, hitem, hval⟩ := Option.map_eq_some_iff.mp hrow
      obtain ⟨-, -, hc, hgrid, -⟩ := hline l (mem_of_row hk)
      refine ⟨item, ?_, ?_⟩
      · rw [hsource, List.getElem?_append_right (Nat.le_add_right _ _), Nat.add_sub_cancel_left,
          hitem]
      · rw [hunit, numeric_eq_self hgrid, hval]
        exact hcosts _ _ hc
  · rw [hu.writeOffs]
    exact fun w hw => ⟨hcosts _ _ (h.requested w hw).1, (h.requested w hw).2⟩
  · intro i b hb
    obtain ⟨a, ha, hab⟩ := hu.accounted.row hb
    rw [hu.writeOffs, ← h.written_off i a ha, hab]
    rfl
  · refine agrees_add h.agrees ?_ (hu.roundedAmounts fun l hl => (hscale l hl).1)
    obtain ⟨e, storeId, receiptId, he, hj⟩ := hu.posted
    have hnonneg : 0 ≤ valueOfLines (receivedGoods lines) := by
      refine valueOfLines_nonneg fun x hx => ?_
      obtain ⟨l, hl, rfl⟩ := List.mem_map.mp hx
      obtain ⟨hq, -, -, -, hc⟩ := hline l (List.mem_of_mem_filter hl)
      exact ⟨hq, hc⟩
    have hgl : glTotal d .inventoryInTransit
        = glTotal db .inventoryInTransit - valueOfLines (receivedGoods lines) := by
      have he' : glTotal e .inventoryInTransit = glTotal db .inventoryInTransit := by
        unfold glTotal
        rw [he]
      rw [glTotal_postPair hj hnonneg (onGrid_valueOfLines _), he']
      simp [sub_eq_add_neg]
    -- what is not good comes to nothing
    have hgood : (lines.map fun l => l.input.quantityReceived * l.unitCost).sum
        = ((lines.filter fun l => 0 < l.input.quantityReceived).map fun l =>
          l.input.quantityReceived * l.unitCost).sum := by
      refine Eq.trans ?_ (sumWhere_eq_sum_map _ _ _).symm
      congr 1
      refine List.map_congr_left fun l hl => ?_
      split
      · rfl
      · next hpos =>
        have hzero : l.input.quantityReceived = 0 := le_antisymm (not_lt.mp hpos) (hline l hl).1
        rw [hzero, zero_mul]
    have hround := abs_sum_map_quantize_sub_le 6
      (lines.filter fun l => 0 < l.input.quantityReceived)
      fun l => l.input.quantityReceived * l.unitCost
    have hposted : valueOfLines (receivedGoods lines)
        = ((lines.filter fun l => 0 < l.input.quantityReceived).map fun l =>
          quantize 6 (l.input.quantityReceived * l.unitCost)).sum := by
      unfold valueOfLines receivedGoods
      rw [List.map_map]
      rfl
    rw [hgl, hu.transitValue, hgood, hposted, abs_sub_comm]
    refine le_trans (le_of_eq ?_) hround
    congr 1
    ring

end Receiving

/-! ### Runs -/

section Runs

variable {db₀ db db' : Db}

theorem Db.BeforeTransfers.transit (h : db.BeforeTransfers) : Transit db where
  scale := by simp [h.lines]
  owned := by simp [h.lines]
  drafts := by simp [h.lines]
  unshipped := by simp [h.lines]
  found := by simp [h.discrepancies]
  requested := by simp [h.writeOffs]
  written_off := by simp [h.lines]
  agrees := by
    have hgl : glTotal db .inventoryInTransit = 0 := by
      refine List.sum_eq_zero fun x hx => ?_
      obtain ⟨e, he, rfl⟩ := List.mem_map.mp hx
      exact sumWhere_eq_zero _ _ fun l hl hacc => absurd hacc (h.accounts e he l hl)
    have hvalue : transitValue db = 0 := by
      unfold transitValue
      rw [h.lines]
      rfl
    rw [hgl, hvalue, sub_zero, abs_zero]
    have hquantum : (0 : ℚ) < quantum 6 := quantum_pos 6
    positivity

theorem Transit.exec {r : TransferRequest} (h : Transit db) (hdb : db.Stored) (hscale : r.AtScale)
    (honce : r.ShipsLinesOnce db) (hr : r.exec db = .ok db') : Transit db' := by
  obtain ⟨d, hrun, rfl⟩ := map_eq_ok.mp hr
  refine Transit.commit ?_
  cases r with
  | createTransfer req =>
    obtain ⟨⟨e, i⟩, hmade, rfl⟩ := map_eq_ok.mp hrun
    exact h.createTransfer hmade
  | shipTransfer req => exact h.shipTransfer hdb hscale honce hrun
  | receiveTransfer req => exact h.receiveTransfer hscale hrun
  | cancelTransfer req => exact h.cancelTransfer hrun
  | investigateDiscrepancy req =>
    obtain ⟨old, new, hold, -, hnew, rfl⟩ := investigateDiscrepancy_ok hrun
    exact h.set_discrepancy hold (by rw [hnew]) (by rw [hnew])
  | resolveDiscrepancy req =>
    obtain ⟨old, new, hold, -, hnew, rfl⟩ := resolveDiscrepancy_ok hrun
    exact h.set_discrepancy hold (by rw [hnew]) (by rw [hnew])
  | createWriteOff req =>
    obtain ⟨⟨e, i⟩, hmade, rfl⟩ := map_eq_ok.mp hrun
    exact h.createWriteOff hscale hmade
  | approveWriteOff req => exact h.approveWriteOff hrun
  | denyWriteOff req => exact h.denyWriteOff hrun
  | reverseWriteOff req => exact h.reverseWriteOff hrun

/-- A line that the report leaves out has nothing in transit, another has a cost. -/
theorem outstanding_of_stored {l : Row InterStoreTransferLine} (hstored : l.val.stored = l.val)
    (hunshipped : l.val.unitCostAtShipment = none → l.val.shippedQuantity = 0) :
    if l.val.receivedQuantity + l.val.writtenOffQuantity < l.val.shippedQuantity
    then l.val.unitCostAtShipment.isSome else l.val.transitValue = 0 := by
  have hchecks : l.val.Checks := l.property
  have hreceived := hchecks.received_nonneg
  have haccounted := hchecks.accounted_le
  have hwritten := hchecks.written_off_nonneg
  have hle := hchecks.written_off_le
  rw [hstored] at hreceived haccounted hwritten hle
  split
  · next hlt =>
    rw [Option.isSome_iff_ne_none]
    intro hnone
    rw [hunshipped hnone] at hlt
    linarith
  · next hge =>
    have hzero : l.val.outstanding = 0 := by
      unfold InterStoreTransferLine.outstanding
      linarith
    unfold InterStoreTransferLine.transitValue
    rw [hzero, zero_mul]

/-- The report is computed where the lines it sums have a cost, and sums what they have in
transit, each rounded. -/
theorem inventoryInTransitReconciliation_of_cost
    (h : ∀ l ∈ outstandingLines db, l.val.unitCostAtShipment.isSome) :
    inventoryInTransitReconciliation db = .ok ⟨glTotal db .inventoryInTransit,
      ((outstandingLines db).map fun l => quantize 6 l.val.transitValue).sum⟩ := by
  unfold inventoryInTransitReconciliation
  simp only [bind_eq_ok, pure_eq_ok]
  refine ⟨_, mapM_eq_ok.mpr (List.forall₂_map_right_iff.mpr (List.forall₂_same.mpr ?_)), rfl⟩
  intro l hl
  obtain ⟨c, hc⟩ := Option.isSome_iff_exists.mp (h l hl)
  rw [bind_eq_ok]
  refine ⟨c, orRaise_eq_ok.mpr hc, ?_⟩
  unfold InterStoreTransferLine.transitValue
  rw [hc]
  rfl

theorem Transit.outstanding (h : Transit db) {l : Row InterStoreTransferLine}
    (hl : l ∈ db.transfers.lines) :
    if l.val.receivedQuantity + l.val.writtenOffQuantity < l.val.shippedQuantity
    then l.val.unitCostAtShipment.isSome else l.val.transitValue = 0 :=
  outstanding_of_stored (h.scale l hl).stored_eq (h.unshipped l hl)

theorem Transit.report (h : Transit db) :
    inventoryInTransitReconciliation db = .ok ⟨glTotal db .inventoryInTransit,
      ((outstandingLines db).map fun l => quantize 6 l.val.transitValue).sum⟩ := by
  refine inventoryInTransitReconciliation_of_cost fun l hl => ?_
  obtain ⟨hmem, hlt⟩ := List.mem_filter.mp hl
  have hcost := h.outstanding hmem
  rw [if_pos (of_decide_eq_true hlt)] at hcost
  exact hcost

/-- The report's rounding: half a quantum for each line it sums, all of which are shipped. -/
theorem Transit.abs_report_le (h : Transit db) :
    |((outstandingLines db).map fun l => quantize 6 l.val.transitValue).sum - transitValue db|
      ≤ quantum 6 / 2 * roundedAmounts db := by
  have hvalue : transitValue db = ((outstandingLines db).map (·.val.transitValue)).sum := by
    unfold transitValue outstandingLines
    refine Eq.trans ?_ (sumWhere_eq_sum_map _ _ _).symm
    congr 1
    refine List.map_congr_left fun l hl => ?_
    -- a line with something outstanding has a cost, and one without is worth nothing
    have hcost := h.outstanding hl
    split
    · rfl
    · next hge =>
      rw [if_neg hge] at hcost
      exact hcost
  have hcount : (outstandingLines db).length
      ≤ (db.transfers.lines.map fun l => if l.val.unitCostAtShipment.isSome then 1 else 0).sum := by
    have hlength : (outstandingLines db).length = sumWhere (fun l : Row InterStoreTransferLine =>
        l.val.receivedQuantity + l.val.writtenOffQuantity < l.val.shippedQuantity) (fun _ => 1)
        db.transfers.lines := by
      simp [sumWhere, outstandingLines]
    rw [hlength, sumWhere_eq_sum_map]
    refine List.sum_le_sum fun l hl => ?_
    have hcost := h.outstanding hl
    split
    · next hlt =>
      rw [if_pos hlt] at hcost
      rw [if_pos hcost]
    · exact Nat.zero_le _
  rw [hvalue]
  refine (abs_sum_map_quantize_sub_le 6 _ _).trans ?_
  have hquantum : (0 : ℚ) < quantum 6 := quantum_pos 6
  -- the shipped lines are among what has been rounded
  have hle : (outstandingLines db).length ≤ roundedAmounts db := by
    unfold roundedAmounts
    omega
  have hcast : ((outstandingLines db).length : ℚ) ≤ roundedAmounts db := Nat.cast_le.mpr hle
  exact mul_le_mul_of_nonneg_left hcast (by positivity)

end Runs

end GroceryErp
