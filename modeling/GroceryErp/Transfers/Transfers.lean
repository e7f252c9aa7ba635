import GroceryErp.Accounting.Postings
import GroceryErp.Inventory.Bookings
import GroceryErp.Losses.Discrepancies

/-!
# Transfers between stores

A transfer ships once, out of the source store at its current average cost, and is
received in one or more events, into the destination store at the cost frozen at
shipment.  What is damaged or declared short is recorded as a discrepancy but moves no
stock.

## Main definitions

* `createTransfer`, `shipTransfer`, `receiveTransfer`, `cancelTransfer` — the service
  functions.

## Main results

* `createTransfer_ok`, `shipTransfer_ok`, `receiveTransfer_ok`, `cancelTransfer_ok` —
  what they have checked and written.
* `bookedAll_of_shipLines`, `bookedAll_of_receiveLines` — their movements.

## References

`backend/app/modules/transfers/service.py`.
-/

namespace GroceryErp

open Decimal Ledger Outcome Rows

/-! ### Drafts -/

structure TransferLineInput where
  sourceProductId : ℕ
  requestedQuantity : ℚ
  destinationProductId : Option ℕ := none

structure CreateTransfer where
  fromStoreId : ℕ
  toStoreId : ℕ
  lines : List TransferLineInput
  callerStoreId : Option ℕ

/-- The product a line arrives as: the one named, else the one with the same SKU. -/
def resolveDestination (db : Db) (req : CreateTransfer) (line : TransferLineInput) :
    Result (TransferLineInput × ℕ) := do
  match line.destinationProductId with
  | some productId => do
    let product ← orRaise db.stock.products[productId]? .notFound
    raiseIf (product.val.storeId ≠ req.toStoreId) (.conflict .storeMismatch)
    return (line, productId)
  | none => do
    let source ← orRaise db.stock.products[line.sourceProductId]? .notFound
    let found ← scalarOneOrNone (rowsWhere (fun p => p.val.storeId = req.toStoreId ∧
      p.val.sku = source.val.sku) db.stock.products)
    let (productId, _) ← orRaise found (.notFoundAs .destinationProductNotFound)
    return (line, productId)

/-- A line of a new transfer as its columns keep it. -/
def transferLineRow (transferId : ℕ) (line : TransferLineInput × ℕ) :
    InterStoreTransferLine where
  transferId := transferId
  sourceProductId := line.1.sourceProductId
  destinationProductId := line.2
  requestedQuantity := numeric 3 line.1.requestedQuantity
  shippedQuantity := 0
  receivedQuantity := 0
  damagedQuantity := 0
  declaredShortQuantity := 0
  writtenOffQuantity := 0
  unitCostAtShipment := none

/-- The caller may act for either store of a transfer. -/
def enforceEitherStore (callerStoreId : Option ℕ) (fromStoreId toStoreId : ℕ) : Result Unit :=
  raiseIf (callerStoreId ≠ none ∧ callerStoreId ≠ some fromStoreId ∧
    callerStoreId ≠ some toStoreId) (.forbidden .storeAccessDenied)

/-- The store is there and active; otherwise it is not found. -/
def requireStore (db : Db) (storeId : ℕ) : Result Unit := do
  let store ← orRaise db.master.stores[storeId]? .notFound
  raiseIf (¬store.isActive) .notFound

/-- `_create_transfer_inner`: the tables after the request, and the id of the transfer. -/
def createTransferInner (db : Db) (req : CreateTransfer) (replenishmentPlanId : Option ℕ) :
    Result (Db × ℕ) := do
  enforceEitherStore req.callerStoreId req.fromStoreId req.toStoreId
  raiseIf (req.fromStoreId = req.toStoreId) (.validation .sameStoreTransfer)
  requireStore db req.fromStoreId
  requireStore db req.toStoreId
  raiseIf (req.lines = []) (.validation .emptyTransfer)
  req.lines.forM fun line => raiseIf (line.requestedQuantity ≤ 0) (.validation .invalidQuantity)
  req.lines.forM fun line => do
    let product ← orRaise db.stock.products[line.sourceProductId]? .notFound
    raiseIf (product.val.storeId ≠ req.fromStoreId) (.conflict .storeMismatch)
  let resolved ← req.lines.mapM (resolveDestination db req)
  let transferId := db.transfers.transfers.length
  let transfer ← flush
    { fromStoreId := req.fromStoreId, toStoreId := req.toStoreId, status := .draft,
      shipClientTransactionId := none, replenishmentPlanId : InterStoreTransfer }
  let lines ← resolved.mapM fun line => flush (transferLineRow transferId line)
  return ({ db with
    transfers.transfers := db.transfers.transfers ++ [transfer]
    transfers.lines := db.transfers.lines ++ lines }, transferId)

/-- `create_transfer`: a draft that comes from no replenishment plan. -/
def createTransfer (db : Db) (req : CreateTransfer) : Result (Db × ℕ) :=
  createTransferInner db req none

/-! ### Shipping -/

structure ShipLineInput where
  transferLineId : ℕ
  quantityToShip : ℚ

structure ShipTransfer where
  transferId : ℕ
  lines : List ShipLineInput
  clientTransactionId : String
  callerStoreId : Option ℕ
  today : Date

/-- The line of the transfer that a line of the request names. -/
def transferLine (db : Db) (transferId transferLineId : ℕ) :
    Result (Row InterStoreTransferLine) := do
  let line ← orRaise db.transfers.lines[transferLineId]? .notFound
  raiseIf (line.val.transferId ≠ transferId) .notFound
  return line

/-- A line of a shipment, with the product it takes from and its cost.  No movement of
a shipment changes a cost, so the cost the loop reads is the one that was loaded. -/
structure ShipLine where
  transferLineId : ℕ
  productId : ℕ
  quantity : ℚ
  unitCost : ℚ

def resolveShipLine (db : Db) (transferId : ℕ) (line : ShipLineInput) : Result ShipLine := do
  let row ← transferLine db transferId line.transferLineId
  raiseIf (line.quantityToShip > row.val.requestedQuantity) (.conflict .overShipment)
  let product ← orRaise db.stock.products[row.val.sourceProductId]? .notFound
  return ⟨line.transferLineId, row.val.sourceProductId, line.quantityToShip,
    product.val.currentCost⟩

/-- The checks of `ship_transfer` on a transfer that carries another key, and its
lines. -/
def planShipment (db : Db) (req : ShipTransfer) (transfer : Row InterStoreTransfer) :
    Result (List ShipLine) := do
  raiseIf (transfer.val.status ≠ .draft) (.conflict .invalidTransferState)
  req.lines.mapM (resolveShipLine db req.transferId)

/-- The movement of a shipped line. -/
def ShipLine.movement (l : ShipLine) (storeId transferId : ℕ) : MovementInput where
  storeId := storeId
  movementType := .transferOut
  quantityDelta := -l.quantity
  unitCostAtMovement := l.unitCost
  referenceType := .interStoreTransfer
  referenceId := some transferId

/-- One line: the shipped quantity with its frozen cost, and its movement. -/
def shipLine (storeId transferId : ℕ) (db : Db) (l : ShipLine) : Result Db := do
  let old ← orRaise db.transfers.lines[l.transferLineId]? .notFound
  let line ← flush
    { old.val with shippedQuantity := l.quantity, unitCostAtShipment := some l.unitCost }
  let db := { db with transfers.lines := db.transfers.lines.set l.transferLineId line }
  recordMovement db l.productId (l.movement storeId transferId)

/-- The quantities and unit costs the shipped value is computed from. -/
def shippedLines (lines : List ShipLine) : List (ℚ × ℚ) :=
  lines.map fun l => (l.quantity, l.unitCost)

/-- The transfer that already carries the client's key for shipping. -/
def transferWithShipKey (db : Db) (key : String) : List (ℕ × Row InterStoreTransfer) :=
  rowsWhere (·.val.shipClientTransactionId = some key) db.transfers.transfers

/-- A planned shipment, written: its movements, the lines with their costs, and the status. -/
def writeShipment (db : Db) (req : ShipTransfer) (transfer : Row InterStoreTransfer)
    (lines : List ShipLine) : Result Db := do
  let db ← lines.foldlM (shipLine transfer.val.fromStoreId req.transferId) db
  let transfer ← flush { transfer.val with
    status := .shipped, shipClientTransactionId := some req.clientTransactionId }
  return { db with
    transfers.transfers := db.transfers.transfers.set req.transferId transfer }

/-- `ship_transfer`.  The value is summed by the service, each line rounded to the
ledger quantum. -/
def shipTransfer (db : Db) (req : ShipTransfer) : Result Db := do
  match ← scalarOneOrNone (transferWithShipKey db req.clientTransactionId) with
  | some _ => return db
  | none => do
    raiseIf (req.lines = []) (.validation .emptyShipment)
    req.lines.forM fun line => raiseIf (line.quantityToShip ≤ 0) (.validation .invalidQuantity)
    let transfer ← orRaise db.transfers.transfers[req.transferId]? .notFound
    enforceStoreAccess req.callerStoreId transfer.val.fromStoreId
    let lines ← planShipment db req transfer
    let db ← writeShipment db req transfer lines
    postTransferShipmentJournal db transfer.val.fromStoreId req.transferId req.today
      (valueOfLines (shippedLines lines))

/-! ### Receiving -/

structure ReceiveLineInput where
  transferLineId : ℕ
  quantityReceived : ℚ
  quantityDamaged : ℚ := 0
  quantityDeclaredShort : ℚ := 0

/-- What a line of the request accounts for: received, short and damaged units together. -/
def ReceiveLineInput.total (l : ReceiveLineInput) : ℚ :=
  l.quantityReceived + l.quantityDamaged + l.quantityDeclaredShort

structure ReceiveTransfer where
  transferId : ℕ
  receivedDate : Date
  lines : List ReceiveLineInput
  clientTransactionId : String
  callerStoreId : Option ℕ

/-- What remains unaccounted for of a line that has been shipped. -/
def InterStoreTransferLine.remaining (l : InterStoreTransferLine) : ℚ :=
  l.shippedQuantity - (l.receivedQuantity + l.damagedQuantity + l.declaredShortQuantity)

/-- The quantities of a request for one transfer line, over all its lines. -/
def sumReceived (lines : List ReceiveLineInput) (f : ReceiveLineInput → ℚ)
    (transferLineId : ℕ) : ℚ :=
  sumWhere (·.transferLineId = transferLineId) f lines

/-- The check that a transfer line is not accounted for beyond what was shipped. -/
def checkReceivedLine (db : Db) (req : ReceiveTransfer) (transferLineId : ℕ) : Result Unit := do
  let line ← transferLine db req.transferId transferLineId
  raiseIf (sumReceived req.lines (·.total) transferLineId > line.val.remaining)
    (.conflict .overReceipt)

/-- A line of a receipt, with the product it goes to and the cost frozen at shipment. -/
structure TransferReceiptLine where
  input : ReceiveLineInput
  productId : ℕ
  unitCost : ℚ

def resolveReceivedLine (db : Db) (line : ReceiveLineInput) : Result TransferReceiptLine := do
  let row ← orRaise db.transfers.lines[line.transferLineId]? .notFound
  let unitCost ← orRaise row.val.unitCostAtShipment .assertion
  return ⟨line, row.val.destinationProductId, unitCost⟩

/-- The checks of `receive_transfer` on the lines, and the lines. -/
def planTransferReceipt (db : Db) (req : ReceiveTransfer) (transfer : Row InterStoreTransfer) :
    Result (List TransferReceiptLine) := do
  raiseIf (transfer.val.status ≠ .shipped) (.conflict .invalidTransferState)
  (distinct (req.lines.map (·.transferLineId))).forM (checkReceivedLine db req)
  req.lines.mapM (resolveReceivedLine db)

/-- The movement of the good part of a line, at the average cost it leads to. -/
def TransferReceiptLine.movement (l : TransferReceiptLine) (storeId transferId : ℕ)
    (product : Product) : MovementInput where
  storeId := storeId
  movementType := .transferIn
  quantityDelta := l.input.quantityReceived
  unitCostAtMovement := l.unitCost
  referenceType := .interStoreTransfer
  referenceId := some transferId
  newProductCost := some (computeNewWac product.currentQtyOnHand product.currentCost
    l.input.quantityReceived l.unitCost)

/-- The receipt item of a line as its columns keep it. -/
def TransferReceiptLine.row (l : TransferReceiptLine) (receiptId : ℕ) :
    InterStoreTransferReceiptItem where
  interStoreTransferReceiptId := receiptId
  interStoreTransferLineId := l.input.transferLineId
  quantityReceived := numeric 3 l.input.quantityReceived
  quantityDamaged := numeric 3 l.input.quantityDamaged
  quantityDeclaredShort := numeric 3 l.input.quantityDeclaredShort

/-- The stock that comes in with a line, if any of it is good. -/
def takeIn (storeId transferId : ℕ) (db : Db) (l : TransferReceiptLine) : Result Db :=
  if 0 < l.input.quantityReceived then do
    let product ← orRaise db.stock.products[l.productId]? .notFound
    recordMovement db l.productId (l.movement storeId transferId product.val)
  else
    return db

/-- One line: the stock that comes in, and its receipt item. -/
def receiveLine (storeId transferId receiptId : ℕ) (db : Db) (l : TransferReceiptLine) :
    Result Db := do
  let db ← takeIn storeId transferId db l
  let row ← flush (l.row receiptId)
  return { db with transfers.receiptItems := db.transfers.receiptItems ++ [row] }

/-- What is to be recorded of a receipt item that is damaged or short. -/
def TransferReceiptLine.discrepancy (l : TransferReceiptLine) (transfer : InterStoreTransfer)
    (transferId receiptItemId : ℕ) : DiscrepancyInput where
  receiptItemId := receiptItemId
  transferId := transferId
  productId := l.productId
  storeId := transfer.toStoreId
  counterpartyStoreId := some transfer.fromStoreId
  quantityShort := l.input.quantityDeclaredShort
  quantityDamaged := l.input.quantityDamaged
  unitCost := l.unitCost

/-- The discrepancy of a line and its receipt item. -/
def recordDiscrepancy (transfer : InterStoreTransfer) (transferId : ℕ) (db : Db)
    (item : TransferReceiptLine × ℕ) : Result Db :=
  createDiscrepancyForReceiptItem db (item.1.discrepancy transfer transferId item.2)

/-- The quantities of one transfer line after the receipt. -/
def accountLine (lines : List ReceiveLineInput) (db : Db) (transferLineId : ℕ) : Result Db := do
  let old ← orRaise db.transfers.lines[transferLineId]? .notFound
  let line ← flush { old.val with
    receivedQuantity :=
      old.val.receivedQuantity + sumReceived lines (·.quantityReceived) transferLineId
    damagedQuantity :=
      old.val.damagedQuantity + sumReceived lines (·.quantityDamaged) transferLineId
    declaredShortQuantity :=
      old.val.declaredShortQuantity + sumReceived lines (·.quantityDeclaredShort) transferLineId }
  return { db with transfers.lines := db.transfers.lines.set transferLineId line }

/-- The quantities and unit costs the received value is computed from. -/
def receivedGoods (lines : List TransferReceiptLine) : List (ℚ × ℚ) :=
  (lines.filter fun l => 0 < l.input.quantityReceived).map fun l =>
    (l.input.quantityReceived, l.unitCost)

/-- The rows of a planned receipt, in the order in which the source writes them. -/
def writeTransferReceipt (db : Db) (req : ReceiveTransfer) (transfer : InterStoreTransfer)
    (lines : List TransferReceiptLine) : Result (Db × ℕ) := do
  let receiptId := db.transfers.receipts.length
  let items := lines.zipIdx db.transfers.receiptItems.length
  let db := { db with
    transfers.receipts := db.transfers.receipts ++ [{
      transferId := req.transferId
      storeId := transfer.toStoreId
      clientTransactionId := req.clientTransactionId
      receivedDate := req.receivedDate }] }
  let db ← lines.foldlM (receiveLine transfer.toStoreId req.transferId receiptId) db
  let db ← items.foldlM (recordDiscrepancy transfer req.transferId) db
  let db ← (distinct (req.lines.map (·.transferLineId))).foldlM (accountLine req.lines) db
  return (db, receiptId)

/-- `receive_transfer`: each line takes in good, damaged and short units, of a line that has been
shipped and has as much left. -/
def receiveTransfer (db : Db) (req : ReceiveTransfer) : Result Db := do
  match ← scalarOneOrNone
      (rowsWhere (·.clientTransactionId = req.clientTransactionId) db.transfers.receipts) with
  | some _ => return db
  | none => do
    raiseIf (req.lines = []) (.validation .emptyReceipt)
    req.lines.forM fun line => do
      raiseIf (line.quantityReceived < 0 ∨ line.quantityDamaged < 0 ∨ line.quantityDeclaredShort < 0)
        (.validation .invalidQuantity)
      raiseIf (line.total ≤ 0) (.validation .invalidQuantity)
    let transfer ← orRaise db.transfers.transfers[req.transferId]? .notFound
    enforceStoreAccess req.callerStoreId transfer.val.toStoreId
    let lines ← planTransferReceipt db req transfer
    let (db, receiptId) ← writeTransferReceipt db req transfer.val lines
    postTransferReceiptJournal db transfer.val.toStoreId receiptId req.receivedDate
      (valueOfLines (receivedGoods lines))

/-! ### Cancelling -/

structure CancelTransfer where
  transferId : ℕ
  callerStoreId : Option ℕ

/-- `cancel_transfer`: a draft is given up; a shipped transfer is not, and a cancelled one stays so.
-/
def cancelTransfer (db : Db) (req : CancelTransfer) : Result Db := do
  let transfer ← orRaise db.transfers.transfers[req.transferId]? .notFound
  enforceEitherStore req.callerStoreId transfer.val.fromStoreId transfer.val.toStoreId
  if transfer.val.status = .cancelled then return db else do
    raiseIf (transfer.val.status ≠ .draft) (.conflict .invalidTransferState)
    let transfer ← flush { transfer.val with status := .cancelled }
    return { db with
      transfers.transfers := db.transfers.transfers.set req.transferId transfer }

/-! ### What a request that succeeds has done -/

section Inversion

variable {db db' : Db} {storeId transferId : ℕ}

theorem transferLine_ok {transferLineId : ℕ} {line : Row InterStoreTransferLine}
    (h : transferLine db transferId transferLineId = .ok line) :
    db.transfers.lines[transferLineId]? = some line ∧ line.val.transferId = transferId := by
  unfold transferLine at h
  simp only [↓check_bind_eq_ok, bind_eq_ok, orRaise_eq_ok, raiseIf_eq_ok, pure_eq_ok, ne_eq,
    not_not] at h
  obtain ⟨l, hl, hid, rfl⟩ := h
  exact ⟨hl, hid⟩

/-- A line arrives as a product of the destination store. -/
theorem resolveDestination_ok {req : CreateTransfer} {line : TransferLineInput}
    {r : TransferLineInput × ℕ} (h : resolveDestination db req line = .ok r) :
    r.1 = line ∧ ∃ p, db.stock.products[r.2]? = some p ∧ p.val.storeId = req.toStoreId := by
  unfold resolveDestination at h
  split at h
  · simp only [↓check_bind_eq_ok, bind_eq_ok, orRaise_eq_ok, raiseIf_eq_ok, pure_eq_ok, ne_eq,
      not_not] at h
    obtain ⟨p, hp, hstore, rfl⟩ := h
    exact ⟨rfl, p, hp, hstore⟩
  · simp only [bind_eq_ok, orRaise_eq_ok, pure_eq_ok, Prod.exists] at h
    obtain ⟨source, -, found, hfound, i, p, rfl, rfl⟩ := h
    have hmem : (i, p) ∈ rowsWhere (fun p : Row Product => p.val.storeId = req.toStoreId ∧
        p.val.sku = source.val.sku) db.stock.products := by
      rw [scalarOneOrNone_eq_some.mp hfound]
      exact List.mem_cons_self
    obtain ⟨hp, hstore, -⟩ := mem_rowsWhere.mp hmem
    exact ⟨rfl, p, hp, hstore⟩

/-- A new transfer takes products of its source store to products of its destination. -/
theorem createTransferInner_ok {req : CreateTransfer} {replenishmentPlanId : Option ℕ}
    (h : createTransferInner db req replenishmentPlanId = .ok (db', transferId)) :
    ∃ (transfer : Row InterStoreTransfer) (lines : List (Row InterStoreTransferLine)),
      transfer.val = ⟨req.fromStoreId, req.toStoreId, .draft, none, replenishmentPlanId⟩ ∧
      lines.map (fun l => (l.val.sourceProductId, l.val.requestedQuantity))
        = req.lines.map (fun l => (l.sourceProductId, numeric 3 l.requestedQuantity)) ∧
      (∀ l ∈ lines, (∃ line, l.val = transferLineRow db.transfers.transfers.length line) ∧
        (∃ p, db.stock.products[l.val.sourceProductId]? = some p ∧
          p.val.storeId = req.fromStoreId) ∧
        ∃ p, db.stock.products[l.val.destinationProductId]? = some p ∧
          p.val.storeId = req.toStoreId) ∧
      db' = { db with
        transfers.transfers := db.transfers.transfers ++ [transfer]
        transfers.lines := db.transfers.lines ++ lines } := by
  unfold createTransferInner at h
  simp only [↓check_bind_eq_ok, bind_eq_ok, orRaise_eq_ok, raiseIf_eq_ok, forM_eq_ok, flush_eq_ok,
    pure_eq_ok, Prod.mk.injEq, ne_eq, not_not] at h
  obtain ⟨-, -, -, -, -, -, hsource, resolved, hresolved, transfer, htransfer, lines, hlines, rfl,
    -⟩ := h
  refine ⟨transfer, lines, htransfer, ?_, fun l hl => ?_, rfl⟩
  · have hinputs : resolved.map Prod.fst = req.lines.map id :=
      map_of_mapM hresolved fun input r hr => (resolveDestination_ok hr).1
    have hcolumns : lines.map (fun l => (l.val.sourceProductId, l.val.requestedQuantity))
        = resolved.map (fun r => (r.1.sourceProductId, numeric 3 r.1.requestedQuantity)) := by
      refine map_of_mapM hlines fun r l hl => ?_
      rw [flush_eq_ok.mp hl]
      rfl
    rw [List.map_id] at hinputs
    rw [hcolumns, ← hinputs, List.map_map]
    rfl
  · obtain ⟨r, hr, hrow⟩ := exists_of_mem_mapM hlines hl
    obtain ⟨line, hline, hdest⟩ := exists_of_mem_mapM hresolved hr
    obtain ⟨hfirst, p, hp, hstore⟩ := resolveDestination_ok hdest
    obtain ⟨p', hp', hstore'⟩ := hsource line hline
    rw [flush_eq_ok.mp hrow]
    -- both products are found under their store, before any row is written
    refine ⟨⟨r, rfl⟩, ⟨p', ?_, hstore'⟩, p, hp, hstore⟩
    show db.stock.products[r.1.sourceProductId]? = some p'
    rw [hfirst]
    exact hp'

theorem createTransfer_ok {req : CreateTransfer}
    (h : createTransfer db req = .ok (db', transferId)) :
    ∃ (transfer : Row InterStoreTransfer) (lines : List (Row InterStoreTransferLine)),
      transfer.val = ⟨req.fromStoreId, req.toStoreId, .draft, none, none⟩ ∧
      (∀ l ∈ lines, (∃ line, l.val = transferLineRow db.transfers.transfers.length line) ∧
        (∃ p, db.stock.products[l.val.sourceProductId]? = some p ∧
          p.val.storeId = req.fromStoreId) ∧
        ∃ p, db.stock.products[l.val.destinationProductId]? = some p ∧
          p.val.storeId = req.toStoreId) ∧
      db' = { db with
        transfers.transfers := db.transfers.transfers ++ [transfer]
        transfers.lines := db.transfers.lines ++ lines } := by
  obtain ⟨transfer, lines, htransfer, -, hlines, hdb⟩ := createTransferInner_ok h
  exact ⟨transfer, lines, htransfer, hlines, hdb⟩

/-! #### Shipping -/

/-- What `planShipment` has checked of a line, in a form that the proofs about shipments share. -/
structure ShipLine.Planned (db : Db) (req : ShipTransfer) (l : ShipLine) : Prop where
  requested : ∃ line ∈ req.lines, line.quantityToShip = l.quantity
  line : ∃ row, db.transfers.lines[l.transferLineId]? = some row ∧
    row.val.transferId = req.transferId ∧ row.val.sourceProductId = l.productId
  product : ∃ p, db.stock.products[l.productId]? = some p ∧ l.unitCost = p.val.currentCost

theorem resolveShipLine_eq_ok {line : ShipLineInput} {l : ShipLine} :
    resolveShipLine db transferId line = .ok l ↔
      ∃ row p, transferLine db transferId line.transferLineId = .ok row ∧
        line.quantityToShip ≤ row.val.requestedQuantity ∧
        db.stock.products[row.val.sourceProductId]? = some p ∧
        l = ⟨line.transferLineId, row.val.sourceProductId, line.quantityToShip,
          p.val.currentCost⟩ := by
  unfold resolveShipLine
  simp only [↓check_bind_eq_ok, bind_eq_ok, orRaise_eq_ok, raiseIf_eq_ok, pure_eq_ok, gt_iff_lt,
    not_lt, exists_and_left, @eq_comm _ _ l]

/-- A shipment that is planned is of a draft, and its lines are those of the request. -/
theorem planShipment_ok {req : ShipTransfer} {transfer : Row InterStoreTransfer}
    {lines : List ShipLine} (h : planShipment db req transfer = .ok lines) :
    transfer.val.status = .draft ∧
      lines.map (·.transferLineId) = req.lines.map (·.transferLineId) ∧
      ∀ l ∈ lines, l.Planned db req := by
  unfold planShipment at h
  simp only [↓check_bind_eq_ok, raiseIf_eq_ok, ne_eq, not_not] at h
  refine ⟨h.1, map_of_mapM h.2 fun line l hl => ?_, fun l hl => ?_⟩
  · obtain ⟨row, p, -, -, -, rfl⟩ := resolveShipLine_eq_ok.mp hl
    rfl
  · obtain ⟨line, hline, hresolve⟩ := exists_of_mem_mapM h.2 hl
    obtain ⟨row, p, hrow, -, hp, rfl⟩ := resolveShipLine_eq_ok.mp hresolve
    obtain ⟨hloaded, hid⟩ := transferLine_ok hrow
    exact ⟨⟨line, hline, rfl⟩, ⟨row, hloaded, hid, rfl⟩, p, hp, rfl⟩

theorem shipLine_eq_ok {l : ShipLine} :
    shipLine storeId transferId db l = .ok db' ↔
      ∃ old line, db.transfers.lines[l.transferLineId]? = some old ∧
        line.val = { old.val with
          shippedQuantity := l.quantity, unitCostAtShipment := some l.unitCost } ∧
        recordMovement { db with
          transfers.lines := db.transfers.lines.set l.transferLineId line } l.productId
          (l.movement storeId transferId) = .ok db' := by
  unfold shipLine
  simp only [bind_eq_ok, orRaise_eq_ok, flush_eq_ok, exists_and_left]

/-- Shipping lines writes stock and the lines, and keeps of every line what a shipment
at the cost of one of the shipped lines keeps. -/
theorem shipLines_ok {lines : List ShipLine} {P : InterStoreTransferLine → Prop}
    (h : lines.foldlM (shipLine storeId transferId) db = .ok db')
    (keeps : ∀ l ∈ lines, ∀ row : Row InterStoreTransferLine, P row.val → P { row.val with
      shippedQuantity := l.quantity, unitCostAtShipment := some l.unitCost })
    (hdb : ∀ row ∈ db.transfers.lines, P row.val) :
    db' = { db with stock := db.stock.moved db'.stock, transfers.lines := db'.transfers.lines } ∧
      ∀ row ∈ db'.transfers.lines, P row.val := by
  refine foldlM_induct (fun _ t =>
    t = { db with stock := db.stock.moved t.stock, transfers.lines := t.transfers.lines } ∧
      ∀ row ∈ t.transfers.lines, P row.val) h ⟨rfl, hdb⟩ ?_
  rintro done l rest t t' rfl ⟨hframe, ht⟩ hstep
  obtain ⟨old, line, hold, hline, hm⟩ := shipLine_eq_ok.mp hstep
  rw [recordMovement_frame hm]
  refine ⟨by rw [hframe]; rfl, forall_mem_set ht ?_⟩
  rw [hline]
  exact keeps l (by simp) old (ht old (mem_of_row hold))

/-- A shipment writes its quantity and cost to each transfer line it names, and leaves the
others. -/
theorem shipLines_overwritten {lines : List ShipLine}
    (h : lines.foldlM (shipLine storeId transferId) db = .ok db') :
    Overwritten (fun i old new =>
      (∃ l ∈ lines, l.transferLineId = i ∧ new.val = { old.val with
        shippedQuantity := l.quantity, unitCostAtShipment := some l.unitCost }) ∨
      (i ∉ lines.map (·.transferLineId) ∧ new = old)) db.transfers.lines db'.transfers.lines := by
  refine foldlM_induct (fun done t => Overwritten (fun i old new =>
      (∃ l ∈ done, l.transferLineId = i ∧ new.val = { old.val with
        shippedQuantity := l.quantity, unitCostAtShipment := some l.unitCost }) ∨
      (i ∉ done.map (·.transferLineId) ∧ new = old)) db.transfers.lines t.transfers.lines) h
    (.refl _ fun i a _ => .inr ⟨by simp, rfl⟩) ?_
  rintro done l rest t t' rfl ht hstep
  obtain ⟨old, line, hold, hline, hm⟩ := shipLine_eq_ok.mp hstep
  rw [recordMovement_frame hm]
  refine ht.set hold (fun a ha => .inl ⟨l, by simp, rfl, ?_⟩) fun i a b hi hab => ?_
  · -- a line that is named again is written over
    rcases ha with ⟨k, -, -, hwritten⟩ | ⟨-, rfl⟩
    · rw [hline, hwritten]
    · exact hline
  · rcases hab with ⟨k, hk, hki, hb⟩ | ⟨hnot, rfl⟩
    · exact .inl ⟨k, by simp [hk], hki, hb⟩
    · refine .inr ⟨?_, rfl⟩
      rw [List.map_append, List.mem_append, not_or]
      exact ⟨hnot, by simpa using hi⟩

/-- A shipment adds one outgoing movement for each of its lines, in order. -/
theorem shipLines_movements {lines : List ShipLine}
    (h : lines.foldlM (shipLine storeId transferId) db = .ok db') :
    ∃ added, db'.stock.movements = db.stock.movements ++ added ∧
      List.Forall₂ (fun l m => m.val.movementType = .transferOut ∧
        m.val.quantityDelta = numeric 3 (-l.quantity)) lines added := by
  refine foldlM_induct (fun done t => ∃ added,
    t.stock.movements = db.stock.movements ++ added ∧
      List.Forall₂ (fun l m => m.val.movementType = .transferOut ∧
        m.val.quantityDelta = numeric 3 (-l.quantity)) done added) h ⟨[], by simp, .nil⟩ ?_
  rintro done l rest t t' rfl ⟨added, hadded, hall⟩ hstep
  obtain ⟨old, line, -, -, hm⟩ := shipLine_eq_ok.mp hstep
  obtain ⟨p, p', row, -, -, -, hrow, rfl⟩ := recordMovement_eq_ok.mp hm
  refine ⟨added ++ [row], ?_, List.rel_append hall (.cons ?_ .nil)⟩
  · show t.stock.movements ++ [row] = _
    rw [hadded, List.append_assoc]
  · rw [hrow]
    exact ⟨rfl, rfl⟩

/-- The shipped lines book one movement each. -/
theorem bookedAll_of_shipLines {lines : List ShipLine}
    (h : lines.foldlM (shipLine storeId transferId) db = .ok db') :
    ∃ bss, List.Forall₂ (fun l => BooksOne l.productId fun _ => l.movement storeId transferId)
        lines bss ∧ BookedAll bss.flatten db.stock db'.stock := by
  refine bookedAll_of_foldlM _ h fun l _ d d' hstep => ?_
  obtain ⟨old, line, -, -, hm⟩ := shipLine_eq_ok.mp hstep
  obtain ⟨bs, hbs, hrun⟩ := exists_booksOne_const hm
  exact ⟨bs, hbs, hrun⟩

/-- A shipment that is no repetition is planned, written and posted. -/
theorem shipTransfer_ok {req : ShipTransfer} (h : shipTransfer db req = .ok db') :
    db' = db ∨ ∃ transfer lines e shipped,
      transferWithShipKey db req.clientTransactionId = [] ∧
      db.transfers.transfers[req.transferId]? = some transfer ∧
      (∀ l ∈ req.lines, 0 < l.quantityToShip) ∧
      planShipment db req transfer = .ok lines ∧
      lines.foldlM (shipLine transfer.val.fromStoreId req.transferId) db = .ok e ∧
      shipped.val = { transfer.val with
        status := .shipped, shipClientTransactionId := some req.clientTransactionId } ∧
      postTransferShipmentJournal { e with
          transfers.transfers := e.transfers.transfers.set req.transferId shipped }
        transfer.val.fromStoreId req.transferId req.today (valueOfLines (shippedLines lines))
          = .ok db' := by
  unfold shipTransfer at h
  rw [bind_eq_ok] at h
  obtain ⟨found, hfound, h⟩ := h
  cases found with
  | some r =>
    rw [pure_eq_ok] at h
    exact .inl h.symm
  | none =>
    simp only [↓check_bind_eq_ok, bind_eq_ok, orRaise_eq_ok, forM_raiseIf_eq_ok, not_le] at h
    obtain ⟨-, hpos, transfer, htransfer, -, lines, hplan, d, hwrite, hpost⟩ := h
    unfold writeShipment at hwrite
    simp only [bind_eq_ok, flush_eq_ok, pure_eq_ok] at hwrite
    obtain ⟨e, he, shipped, hshipped, rfl⟩ := hwrite
    exact .inr ⟨transfer, lines, e, shipped, scalarOneOrNone_eq_none.mp hfound, htransfer, hpos,
      hplan, he, hshipped, hpost⟩

/-- What a shipment that is no repetition does to transfers and lines. -/
structure ShipTransfer.Ships (db : Db) (req : ShipTransfer) (lines : List ShipLine) (db' : Db) :
    Prop where
  first : transferWithShipKey db req.clientTransactionId = []
  ids : lines.map (·.transferLineId) = req.lines.map (·.transferLineId)
  planned : ∀ l ∈ lines, l.Planned db req
  requested : ∀ l ∈ lines, ∃ input ∈ req.lines, input.transferLineId = l.transferLineId ∧
    input.quantityToShip = l.quantity
  draft : ∃ transfer shipped, db.transfers.transfers[req.transferId]? = some transfer ∧
    transfer.val.status = .draft ∧ shipped.val.status = .shipped ∧
    db'.transfers.transfers = db.transfers.transfers.set req.transferId shipped
  lines : Overwritten (fun i old new =>
    (∃ l ∈ lines, l.transferLineId = i ∧ new.val = { old.val with
      shippedQuantity := l.quantity, unitCostAtShipment := some l.unitCost }) ∨
    (i ∉ lines.map (·.transferLineId) ∧ new = old)) db.transfers.lines db'.transfers.lines
  items : db'.transfers.receiptItems = db.transfers.receiptItems
  losses : db'.losses = db.losses

theorem ships_of_ok {req : ShipTransfer} {transfer shipped : Row InterStoreTransfer}
    {lines : List ShipLine} {d : Db}
    (hkey : transferWithShipKey db req.clientTransactionId = [])
    (htransfer : db.transfers.transfers[req.transferId]? = some transfer)
    (hplan : planShipment db req transfer = .ok lines)
    (hwrite : lines.foldlM (shipLine transfer.val.fromStoreId req.transferId) db = .ok d)
    (hshipped : shipped.val = { transfer.val with
      status := .shipped, shipClientTransactionId := some req.clientTransactionId })
    (hpost : postTransferShipmentJournal { d with
        transfers.transfers := d.transfers.transfers.set req.transferId shipped }
      transfer.val.fromStoreId req.transferId req.today (valueOfLines (shippedLines lines))
        = .ok db') : req.Ships db lines db' := by
  obtain ⟨hdraft, hids, hplanned⟩ := planShipment_ok hplan
  have hframe := (shipLines_ok (P := fun _ => True) hwrite (fun _ _ _ _ => trivial)
    fun _ _ => trivial).1
  rw [postJournalUnlessEmpty_frame hpost]
  have hover := shipLines_overwritten hwrite
  refine ⟨hkey, hids, hplanned, ?_, ⟨transfer, shipped, htransfer, hdraft, ?_, ?_⟩, hover, ?_, ?_⟩
  · intro l hl
    unfold planShipment at hplan
    simp only [↓check_bind_eq_ok] at hplan
    obtain ⟨input, hinput, hresolve⟩ := exists_of_mem_mapM hplan.2 hl
    obtain ⟨row, p, -, -, -, rfl⟩ := resolveShipLine_eq_ok.mp hresolve
    exact ⟨input, hinput, rfl, rfl⟩
  · rw [hshipped]
  · rw [hframe]
  · rw [hframe]
  · rw [hframe]

theorem shipTransfer_ships {req : ShipTransfer} (h : shipTransfer db req = .ok db') :
    db' = db ∨ ∃ lines, req.Ships db lines db' := by
  rcases shipTransfer_ok h with rfl | ⟨transfer, lines, d, shipped, hkey, htransfer, -, hplan,
    hwrite, hshipped, hpost⟩
  · exact .inl rfl
  · exact .inr ⟨lines, ships_of_ok hkey htransfer hplan hwrite hshipped hpost⟩

namespace ShipTransfer.Ships

variable {req : ShipTransfer} {lines : List ShipLine}

/-- A line that is shipped is of the transfer, which was a draft. -/
theorem named (h : req.Ships db lines db') {l : ShipLine} (hl : l ∈ lines)
    {a : Row InterStoreTransferLine} (ha : db.transfers.lines[l.transferLineId]? = some a) :
    a.val.transferId = req.transferId ∧ ∃ t, db.transfers.transfers[a.val.transferId]? = some t ∧
      t.val.status = .draft := by
  obtain ⟨row, hrow, hid, -⟩ := (h.planned l hl).line
  obtain rfl : row = a := Option.some.inj (hrow.symm.trans ha)
  obtain ⟨transfer, -, htransfer, hdraft, -⟩ := h.draft
  exact ⟨hid, transfer, hid ▸ htransfer, hdraft⟩

theorem owned (h : req.Ships db lines db')
    (hdb : ∀ l ∈ db.transfers.lines, l.val.transferId < db.transfers.transfers.length) :
    ∀ l ∈ db'.transfers.lines, l.val.transferId < db'.transfers.transfers.length := by
  obtain ⟨-, shipped, -, -, -, htransfers⟩ := h.draft
  rw [htransfers, List.length_set]
  refine h.lines.forall_mem hdb fun i a b ha hab => ?_
  rcases hab with ⟨l, -, -, hb⟩ | ⟨-, rfl⟩
  · rw [hb]
    exact ha
  · exact ha

/-- What the lines of transfers before their shipment are stays true of the others. -/
theorem unshipped {S : TransferStatus → Prop} {P : InterStoreTransferLine → Prop}
    (h : req.Ships db lines db') (hS : ¬S .shipped)
    (hdb : ∀ l ∈ db.transfers.lines, ∀ t, db.transfers.transfers[l.val.transferId]? = some t →
      S t.val.status → P l.val) :
    ∀ l ∈ db'.transfers.lines, ∀ t, db'.transfers.transfers[l.val.transferId]? = some t →
      S t.val.status → P l.val := by
  obtain ⟨transfer, shipped, htransfer, -, hshipped, htransfers⟩ := h.draft
  intro b hb t ht hstatus
  obtain ⟨i, hi⟩ := List.getElem?_of_mem hb
  obtain ⟨a, ha, hab⟩ := h.lines.row hi
  rw [htransfers, getElem?_set_of_some htransfer] at ht
  split at ht
  · -- the transfer is shipped now
    rw [← Option.some.inj ht, hshipped] at hstatus
    exact absurd hstatus hS
  · next hother =>
    rcases hab with ⟨l, hl, rfl, hval⟩ | ⟨-, rfl⟩
    · refine absurd ?_ hother
      rw [hval]
      exact (h.named hl ha).1.symm
    · exact hdb b (mem_of_row ha) t ht hstatus

/-- A line without a cost ships nothing. -/
theorem nothing (h : req.Ships db lines db')
    (hdb : ∀ l ∈ db.transfers.lines, l.val.unitCostAtShipment = none → l.val.shippedQuantity = 0) :
    ∀ l ∈ db'.transfers.lines, l.val.unitCostAtShipment = none → l.val.shippedQuantity = 0 := by
  refine h.lines.forall_mem hdb fun i a b ha hab => ?_
  rcases hab with ⟨l, -, -, hb⟩ | ⟨-, rfl⟩
  · intro hnone
    rw [hb] at hnone
    cases hnone
  · exact ha

end ShipTransfer.Ships

/-! #### Receiving -/

/-- What `planTransferReceipt` has checked of a line, in a form that the proofs about receipts
share. -/
structure TransferReceiptLine.Planned (db : Db) (req : ReceiveTransfer)
    (l : TransferReceiptLine) : Prop where
  requested : l.input ∈ req.lines
  line : ∃ row, db.transfers.lines[l.input.transferLineId]? = some row ∧
    row.val.transferId = req.transferId ∧ row.val.destinationProductId = l.productId ∧
    row.val.unitCostAtShipment = some l.unitCost

theorem planTransferReceipt_ok {req : ReceiveTransfer} {transfer : Row InterStoreTransfer}
    {lines : List TransferReceiptLine} (h : planTransferReceipt db req transfer = .ok lines) :
    ∀ l ∈ lines, l.Planned db req := by
  unfold planTransferReceipt at h
  simp only [↓check_bind_eq_ok, forM_eq_ok, mem_distinct] at h
  obtain ⟨-, hchecks, hlines⟩ := h
  intro l hl
  obtain ⟨line, hline, hresolve⟩ := exists_of_mem_mapM hlines hl
  have hcheck := hchecks line.transferLineId (List.mem_map_of_mem hline)
  unfold checkReceivedLine at hcheck
  rw [bind_eq_ok] at hcheck
  obtain ⟨row, hrow, -⟩ := hcheck
  obtain ⟨hloaded, hid⟩ := transferLine_ok hrow
  unfold resolveReceivedLine at hresolve
  simp only [bind_eq_ok, orRaise_eq_ok, pure_eq_ok] at hresolve
  obtain ⟨row', hrow', c, hc, rfl⟩ := hresolve
  obtain rfl : row = row' := Option.some.inj (hloaded.symm.trans hrow')
  exact ⟨hline, row, hloaded, hid, rfl, hc⟩

/-- A receipt is planned line by line. -/
theorem planTransferReceipt_inputs {req : ReceiveTransfer} {transfer : Row InterStoreTransfer}
    {lines : List TransferReceiptLine} (h : planTransferReceipt db req transfer = .ok lines) :
    lines.map (·.input) = req.lines := by
  unfold planTransferReceipt at h
  simp only [↓check_bind_eq_ok] at h
  have hinputs := map_of_mapM (g := (·.input)) (k := id) h.2.2 fun line l hl => ?_
  · rw [hinputs, List.map_id]
  unfold resolveReceivedLine at hl
  simp only [bind_eq_ok, orRaise_eq_ok, pure_eq_ok] at hl
  obtain ⟨row, -, c, -, rfl⟩ := hl
  rfl

/-- What a line of a receipt books: its good part, at its average cost. -/
def TransferReceiptLine.Books (l : TransferReceiptLine) (storeId transferId : ℕ)
    (bs : List Booking) : Prop :=
  (0 < l.input.quantityReceived ∧ BooksOne l.productId (l.movement storeId transferId) bs) ∨
    (¬0 < l.input.quantityReceived ∧ bs = [])

theorem takeIn_frame {l : TransferReceiptLine} (h : takeIn storeId transferId db l = .ok db') :
    db' = { db with stock := db.stock.moved db'.stock } := by
  unfold takeIn at h
  split at h
  · simp only [bind_eq_ok, orRaise_eq_ok] at h
    obtain ⟨p, -, hm⟩ := h
    exact recordMovement_frame hm
  · rw [pure_eq_ok] at h
    rw [← h]
    rfl

theorem receiveLine_ok {receiptId : ℕ} {l : TransferReceiptLine}
    (h : receiveLine storeId transferId receiptId db l = .ok db') :
    db' = { db with
        stock := db.stock.moved db'.stock
        transfers.receiptItems := db'.transfers.receiptItems } ∧
      ∃ bs, l.Books storeId transferId bs ∧ BookedAll bs db.stock db'.stock := by
  unfold receiveLine at h
  simp only [bind_eq_ok, flush_eq_ok, pure_eq_ok] at h
  obtain ⟨d, hd, row, -, rfl⟩ := h
  refine ⟨?_, ?_⟩
  · rw [takeIn_frame hd]
    rfl
  unfold takeIn at hd
  split at hd
  · next hpos =>
    simp only [bind_eq_ok, orRaise_eq_ok] at hd
    obtain ⟨p, hp, hm⟩ := hd
    obtain ⟨bs, hbs, hrun⟩ := exists_booksOne hp hm
    exact ⟨bs, .inl ⟨hpos, hbs⟩, hrun⟩
  · next hpos =>
    rw [pure_eq_ok] at hd
    subst hd
    exact ⟨[], .inr ⟨hpos, rfl⟩, .refl _⟩

/-- Receiving lines appends a receipt item for each, and moves stock. -/
theorem receiveLines_items {receiptId : ℕ} {lines : List TransferReceiptLine}
    (h : lines.foldlM (receiveLine storeId transferId receiptId) db = .ok db') :
    ∃ new : List (Row InterStoreTransferReceiptItem),
      db' = { db with
        stock := db.stock.moved db'.stock
        transfers.receiptItems := db.transfers.receiptItems ++ new } ∧
      new.map (·.val) = lines.map (·.row receiptId) := by
  refine foldlM_induct (fun done t => ∃ new : List (Row InterStoreTransferReceiptItem),
    t = { db with
      stock := db.stock.moved t.stock
      transfers.receiptItems := db.transfers.receiptItems ++ new } ∧
    new.map (·.val) = done.map (·.row receiptId)) h ⟨[], by rw [List.append_nil]; rfl, rfl⟩ ?_
  rintro done l rest t t' rfl ⟨new, ht, hnew⟩ hstep
  unfold receiveLine at hstep
  simp only [bind_eq_ok, flush_eq_ok, pure_eq_ok] at hstep
  obtain ⟨d, hd, row, hrow, rfl⟩ := hstep
  refine ⟨new ++ [row], ?_, by rw [List.map_append, hnew, List.map_singleton, hrow,
    List.map_append, List.map_singleton]⟩
  rw [takeIn_frame hd, ht, ← List.append_assoc]
  rfl

/-- The lines of a receipt book the good parts. -/
theorem bookedAll_of_receiveLines {receiptId : ℕ} {lines : List TransferReceiptLine}
    (h : lines.foldlM (receiveLine storeId transferId receiptId) db = .ok db') :
    ∃ bss, List.Forall₂ (fun l => TransferReceiptLine.Books l storeId transferId) lines bss ∧
      BookedAll bss.flatten db.stock db'.stock :=
  bookedAll_of_foldlM _ h fun _ _ _ _ hstep => (receiveLine_ok hstep).2

/-- Accounting for a receipt writes the lines, and keeps of every line what does not
depend on the quantities received. -/
theorem accountLines_ok {inputs : List ReceiveLineInput} {ids : List ℕ}
    {P : InterStoreTransferLine → Prop} (h : ids.foldlM (accountLine inputs) db = .ok db')
    (keeps : ∀ (row : InterStoreTransferLine) (good damaged short : ℚ), P row → P { row with
      receivedQuantity := good, damagedQuantity := damaged, declaredShortQuantity := short })
    (hdb : ∀ row ∈ db.transfers.lines, P row.val) :
    db' = { db with transfers.lines := db'.transfers.lines } ∧
      ∀ row ∈ db'.transfers.lines, P row.val := by
  refine foldlM_induct (fun _ t => t = { db with transfers.lines := t.transfers.lines } ∧
    ∀ row ∈ t.transfers.lines, P row.val) h ⟨rfl, hdb⟩ ?_
  rintro done i rest t t' - ⟨hframe, ht⟩ hstep
  unfold accountLine at hstep
  simp only [bind_eq_ok, orRaise_eq_ok, flush_eq_ok, pure_eq_ok] at hstep
  obtain ⟨old, hold, line, hline, rfl⟩ := hstep
  refine ⟨by rw [hframe], forall_mem_set ht ?_⟩
  rw [hline]
  exact keeps _ _ _ _ (ht old (mem_of_row hold))

/-- Accounting for a receipt adds its quantities to the lines it names. -/
theorem accountLines_overwritten {inputs : List ReceiveLineInput} {ids : List ℕ}
    (hnodup : ids.Nodup) (h : ids.foldlM (accountLine inputs) db = .ok db') :
    Overwritten (fun i old new => new.val =
      if i ∈ ids then { old.val with
        receivedQuantity := old.val.receivedQuantity + sumReceived inputs (·.quantityReceived) i
        damagedQuantity := old.val.damagedQuantity + sumReceived inputs (·.quantityDamaged) i
        declaredShortQuantity :=
          old.val.declaredShortQuantity + sumReceived inputs (·.quantityDeclaredShort) i }
      else old.val) db.transfers.lines db'.transfers.lines := by
  refine foldlM_induct (fun done t => Overwritten (fun i old new => new.val =
      if i ∈ done then { old.val with
        receivedQuantity := old.val.receivedQuantity + sumReceived inputs (·.quantityReceived) i
        damagedQuantity := old.val.damagedQuantity + sumReceived inputs (·.quantityDamaged) i
        declaredShortQuantity :=
          old.val.declaredShortQuantity + sumReceived inputs (·.quantityDeclaredShort) i }
      else old.val) db.transfers.lines t.transfers.lines) h (.refl _ fun i a _ => by simp) ?_
  rintro done i rest t t' rfl ht hstep
  unfold accountLine at hstep
  simp only [bind_eq_ok, orRaise_eq_ok, flush_eq_ok, pure_eq_ok] at hstep
  obtain ⟨old, hold, line, hline, rfl⟩ := hstep
  have hfresh : i ∉ done := fun hmem =>
    (List.nodup_append'.mp hnodup).2.2 hmem List.mem_cons_self
  refine ht.set hold (fun a ha => ?_) fun j a b hj hab => ?_
  · rw [if_neg hfresh] at ha
    rw [hline, ha, if_pos (by simp)]
  · rw [hab]
    simp [hj]

/-- A receipt that is no repetition is planned, written and posted. -/
theorem receiveTransfer_ok {req : ReceiveTransfer} (h : receiveTransfer db req = .ok db') :
    db' = db ∨ ∃ transfer lines d receiptId,
      db.transfers.transfers[req.transferId]? = some transfer ∧
      planTransferReceipt db req transfer = .ok lines ∧
      writeTransferReceipt db req transfer.val lines = .ok (d, receiptId) ∧
      postTransferReceiptJournal d transfer.val.toStoreId receiptId req.receivedDate
        (valueOfLines (receivedGoods lines)) = .ok db' := by
  unfold receiveTransfer at h
  rw [bind_eq_ok] at h
  obtain ⟨found, -, h⟩ := h
  cases found with
  | some r =>
    rw [pure_eq_ok] at h
    exact .inl h.symm
  | none =>
    simp only [↓check_bind_eq_ok, bind_eq_ok, orRaise_eq_ok] at h
    obtain ⟨-, -, transfer, htransfer, -, lines, hplan, ⟨d, i⟩, hwrite, hpost⟩ := h
    exact .inr ⟨transfer, lines, d, i, htransfer, hplan, hwrite, hpost⟩

/-- Recording the discrepancies of a receipt writes nothing else. -/
theorem recordDiscrepancies_frame {transfer : InterStoreTransfer}
    {items : List (TransferReceiptLine × ℕ)}
    (h : items.foldlM (recordDiscrepancy transfer transferId) db = .ok db') :
    db' = { db with losses.discrepancies := db'.losses.discrepancies } := by
  refine foldlM_induct (fun _ t => t = { db with
    losses.discrepancies := t.losses.discrepancies }) h rfl ?_
  rintro done item rest t t' - ht hstep
  rcases createDiscrepancyForReceiptItem_ok hstep with rfl | ⟨discrepancy, -, -, rfl⟩
  · exact ht
  · rw [ht]

/-- What writing a receipt books and keeps. -/
theorem writeTransferReceipt_ok {req : ReceiveTransfer} {transfer : InterStoreTransfer}
    {lines : List TransferReceiptLine} {receiptId : ℕ} {P : InterStoreTransferLine → Prop}
    (h : writeTransferReceipt db req transfer lines = .ok (db', receiptId))
    (keeps : ∀ (row : InterStoreTransferLine) (good damaged short : ℚ), P row → P { row with
      receivedQuantity := good, damagedQuantity := damaged, declaredShortQuantity := short })
    (hdb : ∀ row ∈ db.transfers.lines, P row.val) :
    db' = { db with
        stock := db.stock.moved db'.stock
        transfers.receipts := db'.transfers.receipts
        transfers.receiptItems := db'.transfers.receiptItems
        transfers.lines := db'.transfers.lines
        losses.discrepancies := db'.losses.discrepancies } ∧
      (∀ row ∈ db'.transfers.lines, P row.val) ∧
      ∃ bss, List.Forall₂ (fun l => TransferReceiptLine.Books l transfer.toStoreId req.transferId)
          lines bss ∧
        BookedAll bss.flatten db.stock db'.stock := by
  unfold writeTransferReceipt at h
  simp only [bind_eq_ok, pure_eq_ok, Prod.mk.injEq] at h
  obtain ⟨d, hd, d', hd', e, he, rfl, -⟩ := h
  obtain ⟨bss, hbss, hrun⟩ := bookedAll_of_receiveLines hd
  have hframe : d = { db with
      stock := db.stock.moved d.stock
      transfers.receipts := d.transfers.receipts
      transfers.receiptItems := d.transfers.receiptItems } := by
    -- one line after another books into stock and adds an item
    refine foldlM_induct (fun _ t => t = { db with
      stock := db.stock.moved t.stock
      transfers.receipts := t.transfers.receipts
      transfers.receiptItems := t.transfers.receiptItems }) hd rfl ?_
    rintro done l rest t t' - ht hstep
    rw [(receiveLine_ok hstep).1, ht]
    rfl
  have hrecorded := recordDiscrepancies_frame hd'
  have hlines : ∀ row ∈ d'.transfers.lines, P row.val := by
    rw [hrecorded, hframe]
    exact hdb
  obtain ⟨hframe', hlines'⟩ := accountLines_ok he keeps hlines
  refine ⟨?_, hlines', bss, hbss, ?_⟩
  · rw [hframe', hrecorded, hframe]
    rfl
  · rw [hframe', hrecorded]
    exact hrun

/-- A cancelled transfer keeps its stores. -/
theorem cancelTransfer_ok {req : CancelTransfer} (h : cancelTransfer db req = .ok db') :
    db' = db ∨ ∃ transfer cancelled, db.transfers.transfers[req.transferId]? = some transfer ∧
      transfer.val.status = .draft ∧
      cancelled.val = { transfer.val with status := .cancelled } ∧
      db' = { db with
        transfers.transfers := db.transfers.transfers.set req.transferId cancelled } := by
  unfold cancelTransfer at h
  simp only [↓check_bind_eq_ok, bind_eq_ok, orRaise_eq_ok] at h
  obtain ⟨transfer, htransfer, -, h⟩ := h
  split at h
  · rw [pure_eq_ok] at h
    exact .inl h.symm
  · simp only [↓check_bind_eq_ok, bind_eq_ok, raiseIf_eq_ok, flush_eq_ok, pure_eq_ok, ne_eq,
      not_not] at h
    obtain ⟨hdraft, cancelled, hcancelled, rfl⟩ := h
    exact .inr ⟨transfer, cancelled, htransfer, hdraft, hcancelled, rfl⟩

end Inversion

end GroceryErp
