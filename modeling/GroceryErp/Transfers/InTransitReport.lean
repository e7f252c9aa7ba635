import GroceryErp.Transfers.InTransit
import GroceryErp.Transfers.Shipments

/-!
# The report of what is in transit

The reports module lists what of each line is shipped and not received, at its frozen cost.
The reconciliation of the transfers module takes off what is written off as well, and rounds
each line to the ledger quantum.

## Main definitions

* `inventoryInTransit` — the report.
* `CostedOnceShipped` — a line has a cost once its transfer is shipped, and not before.
* `TransferRequest.KeepsReport` — a request of whole ledger quanta that writes nothing off.

## Main results

* `report_sub_reconciliation` — what the report counts beyond the reconciliation.
* `in_transit_reports_agree` — a run of such requests keeps the two equal.
* `in_transit_reports_differ` — an approved write-off parts them.

## References

`backend/app/modules/reports/service.py`, `inventory_in_transit`;
`backend/app/modules/transfers/service.py`, `inventory_in_transit_reconciliation`.
-/

namespace GroceryErp

open Decimal Ledger Outcome Rows Runs

/-! ### The report -/

structure InTransitRow where
  transferId : ℕ
  fromStoreId : ℕ
  toStoreId : ℕ
  sourceProductId : ℕ
  destinationProductId : ℕ
  quantityInTransit : ℚ
  valueInTransit : ℚ
  deriving DecidableEq

/-- The cost the report counts a line at; a line that is not shipped counts for nothing. -/
def InterStoreTransferLine.cost (l : InterStoreTransferLine) : ℚ := l.unitCostAtShipment.getD 0

/-- The row of a line and its transfer. -/
def InTransitRow.of (l : InterStoreTransferLine) (t : InterStoreTransfer) : InTransitRow where
  transferId := l.transferId
  fromStoreId := t.fromStoreId
  toStoreId := t.toStoreId
  sourceProductId := l.sourceProductId
  destinationProductId := l.destinationProductId
  quantityInTransit := l.shippedQuantity - l.receivedQuantity
  valueInTransit := (l.shippedQuantity - l.receivedQuantity) * l.cost

/-- The row of a line, if it is to be listed. -/
def inTransitRow (db : Db) (storeIds : Option (List ℕ)) (l : Row InterStoreTransferLine) :
    Option InTransitRow := do
  let t ← db.transfers.transfers[l.val.transferId]?
  if l.val.receivedQuantity < l.val.shippedQuantity ∧ t.val.status ≠ .cancelled ∧
      ∀ ids ∈ storeIds, t.val.fromStoreId ∈ ids ∨ t.val.toStoreId ∈ ids
    then some (.of l.val t.val) else none

/-- `inventory_in_transit`; no list of stores is all of them. -/
def inventoryInTransit (db : Db) (storeIds : Option (List ℕ)) : List InTransitRow :=
  db.transfers.lines.filterMap (inTransitRow db storeIds)

/-- The value of the report over all stores, by the rows it lists. -/
def totalInTransit (db : Db) : ℚ := ((inventoryInTransit db none).map (·.valueInTransit)).sum

/-! ### Lines and their cost -/

/-- A line has a cost once its transfer is shipped, and ships nothing before. -/
structure CostedOnceShipped (t : TransferTables) : Prop where
  owned : ∀ l ∈ t.lines, l.val.transferId < t.transfers.length
  unshipped : ∀ l ∈ t.lines, ∀ r, t.transfers[l.val.transferId]? = some r →
    r.val.status ≠ .shipped → l.val.unitCostAtShipment = none
  nothing : ∀ l ∈ t.lines, l.val.unitCostAtShipment = none → l.val.shippedQuantity = 0

section Costed

variable {db d : Db} {s t : TransferTables}

theorem CostedOnceShipped.of_kept (h : CostedOnceShipped s) (hst : LinesKept s t) :
    CostedOnceShipped t := by
  refine ⟨?_, ?_, ?_⟩
  · rw [hst.transfers.1]
    refine hst.lines.forall_mem h.owned fun i a b ha hab => ?_
    rw [hab.1]
    exact ha
  · intro b hb r hr hstatus
    obtain ⟨i, hi⟩ := List.getElem?_of_mem hb
    obtain ⟨a, ha, hid, -, hcost⟩ := hst.lines.row hi
    rw [hid] at hr
    obtain ⟨r', hr', hwas⟩ := hst.transfers.row hr
    rw [hcost]
    refine h.unshipped a (mem_of_row ha) r' hr' ?_
    rcases hwas with hsame | ⟨hdraft, -⟩
    · exact hsame ▸ hstatus
    · simp [hdraft]
  · refine hst.lines.forall_mem h.nothing fun i a b ha hab => ?_
    rw [hab.2.1, hab.2.2]
    exact ha

theorem CostedOnceShipped.commit (h : CostedOnceShipped db.transfers) :
    CostedOnceShipped db.commit.transfers := by
  refine ⟨?_, ?_, ?_⟩
  · rintro l hl
    obtain ⟨a, ha, rfl⟩ := List.mem_map.mp hl
    exact h.owned a ha
  · rintro l hl r hr hstatus
    obtain ⟨a, ha, rfl⟩ := List.mem_map.mp hl
    exact Option.map_eq_none_iff.mpr (h.unshipped a ha r hr hstatus)
  · rintro l hl hnone
    obtain ⟨a, ha, rfl⟩ := List.mem_map.mp hl
    show numeric 3 a.val.shippedQuantity = 0
    rw [h.nothing a ha (Option.map_eq_none_iff.mp hnone)]
    exact numeric_eq_self (onGrid_zero 3)

/-- A new transfer has no costs. -/
theorem CostedOnceShipped.createTransfer {req : CreateTransfer} {transferId : ℕ}
    (h : CostedOnceShipped db.transfers) (hd : createTransfer db req = .ok (d, transferId)) :
    CostedOnceShipped d.transfers := by
  obtain ⟨transfer, lines, -, hlines, rfl⟩ := createTransfer_ok hd
  refine ⟨?_, ?_, ?_⟩
  · intro l hl
    rw [List.length_append, List.length_singleton]
    rcases List.mem_append.mp hl with hl | hl
    · exact Nat.lt_succ_of_lt (h.owned l hl)
    · obtain ⟨line, hrow⟩ := (hlines l hl).1
      rw [hrow]
      exact Nat.lt_succ_self _
  · intro l hl r hr hstatus
    rcases List.mem_append.mp hl with hl | hl
    · have hr' : (db.transfers.transfers ++ [transfer])[l.val.transferId]? = some r := hr
      rw [List.getElem?_append_left (h.owned l hl)] at hr'
      exact h.unshipped l hl r hr' hstatus
    · obtain ⟨line, hrow⟩ := (hlines l hl).1
      rw [hrow]
      rfl
  · intro l hl hnone
    rcases List.mem_append.mp hl with hl | hl
    · exact h.nothing l hl hnone
    · obtain ⟨line, hrow⟩ := (hlines l hl).1
      rw [hrow]
      rfl

/-- A line that is shipped has no cost before. -/
theorem CostedOnceShipped.cost_of_named {req : ShipTransfer} {lines : List ShipLine}
    (h : CostedOnceShipped db.transfers) (hd : req.Ships db lines d) {l : ShipLine}
    (hl : l ∈ lines) {a : Row InterStoreTransferLine}
    (ha : db.transfers.lines[l.transferLineId]? = some a) : a.val.unitCostAtShipment = none := by
  obtain ⟨-, t, ht, hdraft⟩ := hd.named hl ha
  exact h.unshipped a (mem_of_row ha) t ht (by simp [hdraft])

theorem CostedOnceShipped.shipTransfer {req : ShipTransfer} (h : CostedOnceShipped db.transfers)
    (hd : shipTransfer db req = .ok d) : CostedOnceShipped d.transfers := by
  rcases shipTransfer_ships hd with rfl | ⟨lines, hships⟩
  · exact h
  · exact ⟨hships.owned h.owned, hships.unshipped (S := (· ≠ .shipped))
      (P := (·.unitCostAtShipment = none)) (not_not.mpr rfl) h.unshipped, hships.nothing h.nothing⟩

theorem CostedOnceShipped.exec {r : TransferRequest} (h : CostedOnceShipped db.transfers)
    (hr : r.exec db = .ok d) : CostedOnceShipped d.transfers := by
  obtain ⟨e, hrun, rfl⟩ := map_eq_ok.mp hr
  refine CostedOnceShipped.commit ?_
  cases r with
  | createTransfer req =>
    obtain ⟨⟨e, i⟩, hmade, rfl⟩ := map_eq_ok.mp hrun
    exact h.createTransfer hmade
  | shipTransfer req => exact h.shipTransfer hrun
  | receiveTransfer | cancelTransfer | investigateDiscrepancy | resolveDiscrepancy
  | createWriteOff | approveWriteOff | denyWriteOff | reverseWriteOff =>
    exact h.of_kept (TransferRequest.linesKept hrun (by simp) (by simp))

theorem Db.BeforeTransfers.costed (h : db.BeforeTransfers) : CostedOnceShipped db.transfers where
  owned := by simp [h.lines]
  unshipped := by simp [h.lines]
  nothing := by simp [h.lines]

end Costed

/-! ### What the report counts beyond the reconciliation -/

/-- The sum over what a list yields. -/
theorem sum_map_filterMap {α β : Type*} (f : α → Option β) (g : β → ℚ) (t : List α) :
    ((t.filterMap f).map g).sum = (t.map fun a => ((f a).map g).getD 0).sum := by
  induction t with
  | nil => rfl
  | cons a t ih =>
    rw [List.filterMap_cons, List.map_cons, List.sum_cons, ← ih]
    cases f a with
    | none => rw [Option.map_none, Option.getD_none, zero_add]
    | some b => rw [Option.map_some, Option.getD_some, List.map_cons, List.sum_cons]

section Difference

variable {db : Db}

/-- Every line counts in the report, those that are not listed for nothing. -/
theorem totalInTransit_eq (h : CostedOnceShipped db.transfers) (hdb : db.Stored) :
    totalInTransit db = (db.transfers.lines.map fun l =>
      (l.val.shippedQuantity - l.val.receivedQuantity) * l.val.cost).sum := by
  unfold totalInTransit inventoryInTransit
  rw [sum_map_filterMap]
  congr 1
  refine List.map_congr_left fun l hl => ?_
  have ht := List.getElem?_eq_getElem (h.owned l hl)
  unfold inTransitRow
  rw [ht]
  simp only [Option.bind_eq_bind, Option.bind_some, Option.mem_def, reduceCtorEq, false_implies,
    implies_true, and_true]
  split
  · rfl
  · next hout =>
    rw [not_and_or, not_lt, not_not] at hout
    rcases hout with hall | hcancelled
    · -- all of it is received
      have hchecks : l.val.Checks := l.property
      have hdamaged := hchecks.damaged_nonneg
      have hshort := hchecks.declared_short_nonneg
      have haccounted := hchecks.accounted_le
      rw [hdb.lines l hl] at hdamaged hshort haccounted
      have heq : l.val.shippedQuantity = l.val.receivedQuantity := by linarith
      rw [heq, sub_self, zero_mul]
      rfl
    · have hnone := h.unshipped l hl _ ht (by simp [hcancelled])
      unfold InterStoreTransferLine.cost
      rw [hnone, Option.getD_none, mul_zero]
      rfl

/-- What the report counts of a line beyond the reconciliation: what is written off, and what
the reconciliation rounds. -/
def InterStoreTransferLine.beyond (l : InterStoreTransferLine) : ℚ :=
  l.writtenOffQuantity * l.cost + (l.transitValue - quantize 6 l.transitValue)

/-- **The report counts beyond the reconciliation** what is written off, and what is rounded. -/
theorem report_sub_reconciliation (h : CostedOnceShipped db.transfers) (hdb : db.Stored) :
    ∃ row, inventoryInTransitReconciliation db = .ok row ∧
      totalInTransit db - row.outstandingInTransitTotal
        = (db.transfers.lines.map (·.val.beyond)).sum := by
  have houtstanding := fun l (hl : l ∈ db.transfers.lines) =>
    outstanding_of_stored (hdb.lines l hl) (h.nothing l hl)
  refine ⟨_, inventoryInTransitReconciliation_of_cost fun l hl => ?_, ?_⟩
  · obtain ⟨hmem, hlt⟩ := List.mem_filter.mp hl
    have hcost := houtstanding l hmem
    rw [if_pos (of_decide_eq_true hlt)] at hcost
    exact hcost
  · -- the lines that the reconciliation leaves out have nothing to round
    have hrounded : ((outstandingLines db).map fun l => quantize 6 l.val.transitValue).sum
        = (db.transfers.lines.map fun l => quantize 6 l.val.transitValue).sum := by
      unfold outstandingLines
      refine (sumWhere_eq_sum_map _ _ _).trans ?_
      congr 1
      refine List.map_congr_left fun l hl => ?_
      have hcost := houtstanding l hl
      split
      · rfl
      · next hge =>
        rw [if_neg hge] at hcost
        rw [hcost, quantize_zero]
    show totalInTransit db
      - ((outstandingLines db).map fun l => quantize 6 l.val.transitValue).sum = _
    rw [hrounded, sub_eq_iff_eq_add, totalInTransit_eq h hdb, ← List.sum_map_add]
    congr 1
    refine List.map_congr_left fun l _ => ?_
    unfold InterStoreTransferLine.beyond InterStoreTransferLine.transitValue
      InterStoreTransferLine.outstanding InterStoreTransferLine.cost
    ring

end Difference

/-! ### Requests that keep the two equal -/

namespace TransferRequest

/-- What the request ships, and what is received of a line with it, is worth whole ledger
quanta; and it approves no write-off of a line that has a cost.  Repetitions write nothing. -/
def KeepsReport (db : Db) : TransferRequest → Prop
  | shipTransfer req => transferWithShipKey db req.clientTransactionId = [] →
      ∀ l ∈ req.lines, ∀ row, db.transfers.lines[l.transferLineId]? = some row →
        ∀ p, db.stock.products[row.val.sourceProductId]? = some p →
          OnGrid 6 (numeric 3 l.quantityToShip * p.val.currentCost)
  | receiveTransfer req =>
      rowsWhere (·.clientTransactionId = req.clientTransactionId) db.transfers.receipts = [] →
      ∀ l ∈ req.lines, ∀ row, db.transfers.lines[l.transferLineId]? = some row →
        OnGrid 6 (numeric 3 (row.val.receivedQuantity
          + sumReceived req.lines (·.quantityReceived) l.transferLineId) * row.val.cost)
  | approveWriteOff req => ∀ w, db.losses.writeOffs[req.writeOffId]? = some w →
      w.val.status = .pendingApproval →
      ∀ l, db.transfers.lines[w.val.transferLineId]? = some l → l.val.cost = 0
  | _ => True

end TransferRequest

/-- What is shipped and received of the line is worth whole ledger quanta, what is written
off nothing. -/
structure InterStoreTransferLine.WholeQuanta (l : InterStoreTransferLine) : Prop where
  shipped : OnGrid 6 (l.shippedQuantity * l.cost)
  received : OnGrid 6 (l.receivedQuantity * l.cost)
  written_off : l.writtenOffQuantity * l.cost = 0

theorem InterStoreTransferLine.WholeQuanta.of_cost {l : InterStoreTransferLine} (h : l.cost = 0) :
    l.WholeQuanta where
  shipped := by rw [h, mul_zero]; exact onGrid_zero 6
  received := by rw [h, mul_zero]; exact onGrid_zero 6
  written_off := by rw [h, mul_zero]

/-- The report counts nothing of such a line that the reconciliation does not. -/
theorem InterStoreTransferLine.WholeQuanta.beyond_eq_zero {l : InterStoreTransferLine}
    (h : l.WholeQuanta) : l.beyond = 0 := by
  have hvalue : l.transitValue = l.shippedQuantity * l.cost - l.receivedQuantity * l.cost := by
    calc l.transitValue = l.shippedQuantity * l.cost - l.receivedQuantity * l.cost
          - l.writtenOffQuantity * l.cost := by
          unfold transitValue outstanding cost
          ring
      _ = _ := by rw [h.written_off, sub_zero]
  unfold beyond
  rw [h.written_off, hvalue, quantize_eq_self (h.shipped.sub h.received), sub_self, add_zero]

/-- As stored, the lines are such; a receipt or a write-off is of a line that was shipped, and
one that is posted of a line without value. -/
structure WholeQuanta (db : Db) : Prop where
  lines : ∀ l ∈ db.transfers.lines, l.val.stored.WholeQuanta
  items : ∀ i ∈ db.transfers.receiptItems,
    ∃ c, LineCost db.transfers i.val.interStoreTransferLineId c
  writeOffs : ∀ w ∈ db.losses.writeOffs, ∃ c, LineCost db.transfers w.val.transferLineId c ∧
    (w.val.status = .posted → c = 0)

section Quanta

variable {db d : Db}

theorem stored_cost (l : InterStoreTransferLine) : l.stored.cost = numeric 6 l.cost := by
  unfold InterStoreTransferLine.cost InterStoreTransferLine.stored
  cases l.unitCostAtShipment with
  | none => exact (numeric_eq_self (onGrid_zero 6)).symm
  | some c => rfl

theorem LineCost.commit {i : ℕ} {c : ℚ} (h : LineCost db.transfers i c) :
    LineCost db.commit.transfers i (numeric 6 c) := by
  obtain ⟨l, hl, hc⟩ := h
  refine ⟨⟨l.val.stored, l.property.stored⟩, ?_, ?_⟩
  · show (db.transfers.lines.map _)[i]? = _
    rw [List.getElem?_map, hl]
    rfl
  · have hcost : l.val.unitCostAtShipment = some c := hc
    show l.val.unitCostAtShipment.map (numeric 6) = _
    rw [hcost]
    rfl

theorem WholeQuanta.commit (h : WholeQuanta db) : WholeQuanta db.commit := by
  refine ⟨?_, ?_, ?_⟩
  · rintro l hl
    obtain ⟨a, ha, rfl⟩ := List.mem_map.mp hl
    show a.val.stored.stored.WholeQuanta
    rw [a.val.stored_stored]
    exact h.lines a ha
  · intro i hi
    obtain ⟨c, hc⟩ := h.items i hi
    exact ⟨_, hc.commit⟩
  · intro w hw
    obtain ⟨c, hc, hposted⟩ := h.writeOffs w hw
    refine ⟨_, hc.commit, fun hstatus => ?_⟩
    rw [hposted hstatus]
    exact numeric_eq_self (onGrid_zero 6)

theorem WholeQuanta.congr (h : WholeQuanta db) (hlines : d.transfers.lines = db.transfers.lines)
    (hitems : d.transfers.receiptItems = db.transfers.receiptItems)
    (hwriteOffs : d.losses.writeOffs = db.losses.writeOffs) : WholeQuanta d := by
  obtain ⟨lines, items, writeOffs⟩ := h
  unfold LineCost at items writeOffs
  rw [← hlines] at lines items writeOffs
  rw [← hitems] at items
  rw [← hwriteOffs] at writeOffs
  exact ⟨lines, items, writeOffs⟩

theorem WholeQuanta.createTransfer {req : CreateTransfer} {transferId : ℕ} (h : WholeQuanta db)
    (hd : createTransfer db req = .ok (d, transferId)) : WholeQuanta d := by
  obtain ⟨transfer, lines, -, hlines, rfl⟩ := createTransfer_ok hd
  refine ⟨?_, ?_, ?_⟩
  · intro l hl
    rcases List.mem_append.mp hl with hl | hl
    · exact h.lines l hl
    · obtain ⟨line, hrow⟩ := (hlines l hl).1
      rw [hrow]
      exact .of_cost rfl
  · intro i hi
    obtain ⟨c, hc⟩ := h.items i hi
    exact ⟨c, hc.append _ _⟩
  · intro w hw
    obtain ⟨c, hc, hposted⟩ := h.writeOffs w hw
    exact ⟨c, hc.append _ _, hposted⟩

theorem WholeQuanta.shipTransfer {req : ShipTransfer} (h : WholeQuanta db)
    (hcosted : CostedOnceShipped db.transfers) (hdb : db.Stored)
    (hkeeps : TransferRequest.KeepsReport db (.shipTransfer req))
    (hd : shipTransfer db req = .ok d) : WholeQuanta d := by
  rcases shipTransfer_ships hd with rfl | ⟨lines, hships⟩
  · exact h
  have hcosts : ∀ i c, LineCost db.transfers i c → LineCost d.transfers i c := fun _ _ =>
    hships.lineCost fun _ hl _ ha => hcosted.cost_of_named hships hl ha
  refine ⟨?_, ?_, ?_⟩
  · intro b hb
    obtain ⟨i, hi⟩ := List.getElem?_of_mem hb
    obtain ⟨a, ha, hab⟩ := hships.lines.row hi
    rcases hab with ⟨l, hl, rfl, hval⟩ | ⟨-, rfl⟩
    -- a line that is shipped now had no cost, and so had received nothing
    · have hnone := hcosted.cost_of_named hships hl ha
      have hstored := hdb.lines a (mem_of_row ha)
      obtain ⟨hreceived, hwritten⟩ := unaccounted_of_unshipped hstored
        (hcosted.nothing a (mem_of_row ha) hnone)
      obtain ⟨row, hrow, -, hproduct⟩ := (hships.planned l hl).line
      obtain rfl : row = a := Option.some.inj (hrow.symm.trans ha)
      obtain ⟨p, hp, hcost⟩ := (hships.planned l hl).product
      obtain ⟨input, hinput, hinputId, hquantity⟩ := hships.requested l hl
      -- the quantity at the cost is in whole quanta, as the run asks of a shipment
      have hgrid := hkeeps hships.first input hinput row (hinputId ▸ ha) p (hproduct ▸ hp)
      have hkept : numeric 6 l.unitCost = p.val.currentCost := by
        rw [hcost]
        exact congrArg Product.currentCost (hdb.products p (mem_of_row hp))
      have hzero : numeric 3 0 = 0 := numeric_eq_self (onGrid_zero 3)
      rw [hval]
      refine ⟨?_, ?_, ?_⟩
      · show OnGrid 6 (numeric 3 l.quantity * numeric 6 l.unitCost)
        rw [hkept, ← hquantity]
        exact hgrid
      · show OnGrid 6 (numeric 3 row.val.receivedQuantity * numeric 6 l.unitCost)
        rw [hreceived, hzero, zero_mul]
        exact onGrid_zero 6
      · show numeric 3 row.val.writtenOffQuantity * numeric 6 l.unitCost = 0
        rw [hwritten, hzero, zero_mul]
    · exact h.lines b (mem_of_row ha)
  · rw [hships.items]
    intro i hi
    obtain ⟨c, hc⟩ := h.items i hi
    exact ⟨c, hcosts _ _ hc⟩
  · rw [hships.losses]
    intro w hw
    obtain ⟨c, hc, hposted⟩ := h.writeOffs w hw
    exact ⟨c, hcosts _ _ hc, hposted⟩

/-- A repeated receipt writes nothing, and answers with the one that is there. -/
theorem receiveTransfer_repeated {req : ReceiveTransfer}
    (hrepeated : rowsWhere (·.clientTransactionId = req.clientTransactionId)
      db.transfers.receipts ≠ []) (hd : receiveTransfer db req = .ok d) : d = db := by
  unfold receiveTransfer at hd
  rw [bind_eq_ok] at hd
  obtain ⟨found, hfound, hd⟩ := hd
  cases found with
  | some r =>
    rw [pure_eq_ok] at hd
    exact hd.symm
  | none => exact absurd (scalarOneOrNone_eq_none.mp hfound) hrepeated

theorem WholeQuanta.receiveTransfer {req : ReceiveTransfer} (h : WholeQuanta db) (hdb : db.Stored)
    (hkeeps : TransferRequest.KeepsReport db (.receiveTransfer req))
    (hd : receiveTransfer db req = .ok d) : WholeQuanta d := by
  by_cases hfirst : rowsWhere (·.clientTransactionId = req.clientTransactionId)
      db.transfers.receipts = []
  -- a replay is no receipt
  swap
  · rw [receiveTransfer_repeated hfirst hd]
    exact h
  rcases receiveTransfer_unpacked hd with rfl | ⟨lines, new, found, hu⟩
  · exact h
  have hcosts : ∀ i c, LineCost db.transfers i c → LineCost d.transfers i c :=
    fun _ _ => hu.lineCost
  refine ⟨?_, ?_, ?_⟩
  · intro b hb
    obtain ⟨i, hi⟩ := List.getElem?_of_mem hb
    obtain ⟨a, ha, hab⟩ := hu.accounted.row hi
    have hstored := hdb.lines a (mem_of_row ha)
    have hwas := h.lines a (mem_of_row ha)
    have hcost : b.val.stored.cost = a.val.stored.cost := by
      rw [hab]
      rfl
    refine ⟨?_, ?_, ?_⟩
    · rw [hcost, hab]
      exact hwas.shipped
    · rw [hcost, hab]
      show OnGrid 6 (numeric 3 (a.val.receivedQuantity
        + sumReceived req.lines (·.quantityReceived) i) * a.val.stored.cost)
      -- a line of the receipt, for which the run asks it, or one that it does not name
      by_cases hi : i ∈ req.lines.map (·.transferLineId)
      · obtain ⟨l, hl, rfl⟩ := List.mem_map.mp hi
        rw [hstored]
        exact hkeeps hfirst l hl a ha
      · rw [sumReceived_eq_zero hi, add_zero]
        exact hwas.received
    · rw [hcost, hab]
      exact hwas.written_off
  · rw [hu.items]
    intro item hitem
    rcases List.mem_append.mp hitem with hitem | hitem
    · obtain ⟨c, hc⟩ := h.items item hitem
      exact ⟨c, hcosts _ _ hc⟩
    · obtain ⟨receiptId, hrows⟩ := hu.rows
      obtain ⟨l, hl, hrow⟩ := exists_of_map_eq hrows hitem
      obtain ⟨row, hloaded, -, -, hc⟩ := (hu.planned l hl).line
      rw [← hrow]
      exact ⟨l.unitCost, hcosts _ _ ⟨row, hloaded, hc⟩⟩
  · rw [hu.writeOffs]
    intro w hw
    obtain ⟨c, hc, hposted⟩ := h.writeOffs w hw
    exact ⟨c, hcosts _ _ hc, hposted⟩

/-- A write-off is requested of the line of a receipt. -/
theorem WholeQuanta.createWriteOff {req : CreateWriteOff} {writeOffId : ℕ} (h : WholeQuanta db)
    (hd : createWriteOff db req = .ok (d, writeOffId)) : WholeQuanta d := by
  rcases createWriteOff_ok hd with rfl | ⟨disc, w, -, -, -, -, -, -, hw, rfl⟩
  · exact h
  refine ⟨h.lines, h.items, fun v hv => ?_⟩
  rcases List.mem_append.mp hv with hv | hv
  · exact h.writeOffs v hv
  · obtain ⟨item, hitem, hline⟩ := hw.line
    obtain ⟨c, hc⟩ := h.items item (mem_of_row hitem)
    rw [List.mem_singleton.mp hv, ← hline, hw.status]
    exact ⟨c, hc, fun hposted => by cases hposted⟩

/-- Of a line without value something is written off, or taken back. -/
theorem WholeQuanta.set_writeOff {i : ℕ} {w w' : Row TransferWriteOff}
    {line line' : Row InterStoreTransferLine} {q : ℚ} (h : WholeQuanta db)
    (hw : db.losses.writeOffs[i]? = some w)
    (hsame : w'.val.transferLineId = w.val.transferLineId)
    (hline : db.transfers.lines[w.val.transferLineId]? = some line) (hzero : line.val.cost = 0)
    (hline' : line'.val = { line.val with writtenOffQuantity := q })
    (hlines : d.transfers.lines = db.transfers.lines.set w.val.transferLineId line')
    (hitems : d.transfers.receiptItems = db.transfers.receiptItems)
    (hwriteOffs : d.losses.writeOffs = db.losses.writeOffs.set i w') : WholeQuanta d := by
  have hcosts : ∀ j c, LineCost db.transfers j c → LineCost d.transfers j c := by
    intro j c hj
    unfold LineCost
    rw [hlines]
    exact HasAt.set hj hline (by rw [hline'])
  have hall : ∀ v ∈ db.losses.writeOffs, ∃ c, LineCost d.transfers v.val.transferLineId c ∧
      (v.val.status = .posted → c = 0) := by
    intro v hv
    obtain ⟨c, hc, hposted⟩ := h.writeOffs v hv
    exact ⟨c, hcosts _ _ hc, hposted⟩
  refine ⟨?_, ?_, ?_⟩
  · rw [hlines]
    -- at no cost any quantity written off is worth nothing
    refine forall_mem_set h.lines (.of_cost ?_)
    have hcost : line'.val.cost = line.val.cost := by
      rw [hline']
      rfl
    rw [stored_cost, hcost, hzero]
    exact numeric_eq_self (onGrid_zero 6)
  · rw [hitems]
    intro item hitem
    obtain ⟨c, hc⟩ := h.items item hitem
    exact ⟨c, hcosts _ _ hc⟩
  · rw [hwriteOffs]
    refine forall_mem_set hall ?_
    obtain ⟨c, hc, -⟩ := h.writeOffs w (mem_of_row hw)
    refine ⟨c, hsame ▸ hcosts _ _ hc, fun _ => ?_⟩
    have heq : line.val.unitCostAtShipment = some c := hc.eq_of_row hline
    unfold InterStoreTransferLine.cost at hzero
    rw [heq] at hzero
    exact hzero

/-- A reversal is of a write-off that was posted, of a line without value. -/
theorem WholeQuanta.reverseWriteOff {req : ReverseWriteOff} (h : WholeQuanta db)
    (hd : reverseWriteOff db req = .ok d) : WholeQuanta d := by
  rcases reverseWriteOff_ok hd with rfl | ⟨w, w', line, line', e, hw, hposted, hline, -, hw',
    hline', rfl⟩
  · exact h
  obtain ⟨c, hc, hzero⟩ := h.writeOffs w (mem_of_row hw)
  have hcost : line.val.unitCostAtShipment = some c := hc.eq_of_row hline
  refine h.set_writeOff hw (by rw [hw']) hline ?_ hline' rfl rfl rfl
  unfold InterStoreTransferLine.cost
  rw [hcost]
  exact hzero hposted

theorem WholeQuanta.denyWriteOff {req : DecideWriteOff} (h : WholeQuanta db)
    (hd : denyWriteOff db req = .ok d) : WholeQuanta d := by
  rcases denyWriteOff_ok hd with ⟨rfl, -⟩ | ⟨w, w', a, approvedBy, old, disc, hdecides, hw', -, -,
    -, -, rfl⟩
  · exact h
  refine ⟨h.lines, h.items, forall_mem_set h.writeOffs ?_⟩
  obtain ⟨c, hc, -⟩ := h.writeOffs w (mem_of_row hdecides.loaded)
  rw [hw']
  exact ⟨c, hc, fun hposted => by cases hposted⟩

/-- **Every request that keeps the report** keeps lines, receipts and write-offs such. -/
theorem WholeQuanta.exec {r : TransferRequest} (h : WholeQuanta db)
    (hcosted : CostedOnceShipped db.transfers) (hdb : db.Stored) (hkeeps : r.KeepsReport db)
    (hr : r.exec db = .ok d) : WholeQuanta d := by
  obtain ⟨e, hrun, rfl⟩ := map_eq_ok.mp hr
  refine WholeQuanta.commit ?_
  cases r with
  | createTransfer req =>
    obtain ⟨⟨e, i⟩, hmade, rfl⟩ := map_eq_ok.mp hrun
    exact h.createTransfer hmade
  | shipTransfer req => exact h.shipTransfer hcosted hdb hkeeps hrun
  | receiveTransfer req => exact h.receiveTransfer hdb hkeeps hrun
  | cancelTransfer req =>
    rcases cancelTransfer_ok hrun with rfl | ⟨transfer, cancelled, -, -, -, rfl⟩
    · exact h
    · exact h.congr rfl rfl rfl
  | investigateDiscrepancy req =>
    obtain ⟨old, new, -, -, -, rfl⟩ := investigateDiscrepancy_ok hrun
    exact h.congr rfl rfl rfl
  | resolveDiscrepancy req =>
    obtain ⟨old, new, -, -, -, rfl⟩ := resolveDiscrepancy_ok hrun
    exact h.congr rfl rfl rfl
  | createWriteOff req =>
    obtain ⟨⟨e, i⟩, hmade, rfl⟩ := map_eq_ok.mp hrun
    exact h.createWriteOff hmade
  | approveWriteOff req =>
    rcases approveWriteOff_ok hrun with rfl | ⟨w, w', disc, line, line', a, approvedBy, e, hdecides,
      -, -, hline, -, hw', hline', -, rfl⟩
    · exact h
    -- what the run approves is of a line without value
    refine h.set_writeOff hdecides.loaded (by rw [hw']) hline ?_ hline' rfl rfl rfl
    exact hkeeps w hdecides.loaded hdecides.pending line hline
  | denyWriteOff req => exact h.denyWriteOff hrun
  | reverseWriteOff req => exact h.reverseWriteOff hrun

theorem Db.BeforeTransfers.wholeQuanta (h : db.BeforeTransfers) : WholeQuanta db where
  lines := by simp [h.lines]
  items := by simp [h.receiptItems]
  writeOffs := by simp [h.writeOffs]

end Quanta

/-! ### Runs -/

section Runs

variable {db₀ db : Db}

/-- **In a run whose requests keep the report**, its total is what the reconciliation has
outstanding. -/
theorem in_transit_reports_agree (hopen : db₀.BeforeTransfers)
    (h : Reaches TransferRequest.exec (fun db r => r.KeepsReport db) db₀ db) :
    ∃ row, inventoryInTransitReconciliation db = .ok row ∧
      totalInTransit db = row.outstandingInTransitTotal := by
  obtain ⟨hdb, hcosted, hwhole⟩ : db.Stored ∧ CostedOnceShipped db.transfers ∧ WholeQuanta db :=
    h.invariant
      (I := fun db => db.Stored ∧ CostedOnceShipped db.transfers ∧ WholeQuanta db)
      ⟨hopen.stored, hopen.costed, hopen.wholeQuanta⟩
      fun _ _ _ hs hok hdone => ⟨stored_exec hdone, hs.2.1.exec hdone,
        hs.2.2.exec hs.2.1 hs.1 hok hdone⟩
  obtain ⟨row, hrow, hsub⟩ := report_sub_reconciliation hcosted hdb
  refine ⟨row, hrow, ?_⟩
  have hzero : (db.transfers.lines.map (·.val.beyond)).sum = 0 := by
    refine List.sum_eq_zero fun x hx => ?_
    obtain ⟨l, hl, rfl⟩ := List.mem_map.mp hx
    have hline := hwhole.lines l hl
    rw [hdb.lines l hl] at hline
    exact hline.beyond_eq_zero
  rw [hzero] at hsub
  exact sub_eq_zero.mp hsub

/-- Ten apples at a cost of one are shipped, and six of them received. -/
theorem in_transit_reports_agree_apples :
    ∃ row, inventoryInTransitReconciliation applesUnpacked = .ok row ∧
      totalInTransit applesUnpacked = row.outstandingInTransitTotal := by
  refine in_transit_reports_agree twoShops_beforeTransfers
    (.next (.next (.next (r := .createTransfer sendApples) .start trivial (eq_ok_value _ _)) ?_
      (eq_ok_value _ _)) ?_ (eq_ok_value _ _))
  · intro _ l hl row _ p hp
    obtain rfl := List.mem_singleton.mp hl
    have hall : ∀ p ∈ applesSent.stock.products, OnGrid 6 (numeric 3 10 * p.val.currentCost) := by
      decide +kernel
    exact hall p (mem_of_row hp)
  · intro _ l hl row hrow
    obtain rfl := List.mem_singleton.mp hl
    have hall : ∀ row ∈ applesShipped.transfers.lines,
        OnGrid 6 (numeric 3 (row.val.receivedQuantity
          + sumReceived unpackApples.lines (·.quantityReceived) 0) * row.val.cost) := by
      decide +kernel
    exact hall row (mem_of_row hrow)

/-- One of the ten apples is written off: the report has four in transit, the reconciliation
three. -/
theorem in_transit_reports_differ :
    ¬∀ db : Db, Reaches TransferRequest.exec (fun _ _ => True) twoShops db →
      ∃ row, inventoryInTransitReconciliation db = .ok row ∧
        totalInTransit db = row.outstandingInTransitTotal := by
  intro hall
  obtain ⟨row, hrow, heq⟩ := hall lossPosted (reaches_lossPosted fun _ _ _ _ _ => trivial)
  have hreport : totalInTransit lossPosted = 4 := by decide +kernel
  have hreconciled : inventoryInTransitReconciliation lossPosted = .ok ⟨3, 3⟩ := by decide +kernel
  rw [hreconciled] at hrow
  rw [hreport, ← Except.ok.inj hrow] at heq
  exact absurd heq (by norm_num)

end Runs

end GroceryErp
