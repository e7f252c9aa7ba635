import GroceryErp.Lib.Runs
import GroceryErp.Losses.WriteOffs
import GroceryErp.Transfers.Transfers

/-!
# Requests on transfers and what they lose

Transfers are drafted, shipped, received and cancelled; what a receipt finds damaged or
short is investigated and resolved, and then written off, in any order the checks of the
services allow.

## Main definitions

* `TransferRequest`, `TransferRequest.exec` — the requests, and one of them committed.
* `Db.BeforeTransfers` — tables in which no transfer has been made yet.

## Main results

* `stored_exec` — a commit leaves products and transfer lines as their columns keep them.
-/

namespace GroceryErp

open Decimal Outcome Rows Runs

inductive TransferRequest
  | createTransfer (req : CreateTransfer)
  | shipTransfer (req : ShipTransfer)
  | receiveTransfer (req : ReceiveTransfer)
  | cancelTransfer (req : CancelTransfer)
  | investigateDiscrepancy (req : InvestigateDiscrepancy)
  | resolveDiscrepancy (req : ResolveDiscrepancy)
  | createWriteOff (req : CreateWriteOff)
  | approveWriteOff (req : DecideWriteOff)
  | denyWriteOff (req : DecideWriteOff)
  | reverseWriteOff (req : ReverseWriteOff)

namespace TransferRequest

/-- One request, before its commit; of what it answers only the tables are kept. -/
def run : TransferRequest → Db → Result Db
  | createTransfer req, db => Prod.fst <$> GroceryErp.createTransfer db req
  | shipTransfer req, db => GroceryErp.shipTransfer db req
  | receiveTransfer req, db => GroceryErp.receiveTransfer db req
  | cancelTransfer req, db => GroceryErp.cancelTransfer db req
  | investigateDiscrepancy req, db => GroceryErp.investigateDiscrepancy db req
  | resolveDiscrepancy req, db => GroceryErp.resolveDiscrepancy db req
  | createWriteOff req, db => Prod.fst <$> GroceryErp.createWriteOff db req
  | approveWriteOff req, db => GroceryErp.approveWriteOff db req
  | denyWriteOff req, db => GroceryErp.denyWriteOff db req
  | reverseWriteOff req, db => GroceryErp.reverseWriteOff db req

/-- One request on transfers and losses, committed with the scale of the columns. -/
def exec (r : TransferRequest) (db : Db) : Result Db := Db.commit <$> r.run db

/-- The quantities of the request have at most three decimals. -/
def AtScale : TransferRequest → Prop
  | shipTransfer req => ∀ l ∈ req.lines, OnGrid 3 l.quantityToShip
  | receiveTransfer req => ∀ l ∈ req.lines, OnGrid 3 l.quantityReceived ∧
      OnGrid 3 l.quantityDamaged ∧ OnGrid 3 l.quantityDeclaredShort
  | createWriteOff req => OnGrid 3 req.quantity
  | _ => True

/-- The request, unless it repeats a shipment that was made, ships no transfer line
twice. -/
def ShipsLinesOnce (db : Db) : TransferRequest → Prop
  | shipTransfer req => transferWithShipKey db req.clientTransactionId = [] →
      (req.lines.map (·.transferLineId)).Nodup
  | _ => True

end TransferRequest

/-! ### Where a run starts -/

/-- Products and transfer lines are as their columns keep them. -/
structure Db.Stored (db : Db) : Prop where
  products : ∀ p ∈ db.stock.products, p.val.stored = p.val
  lines : ∀ l ∈ db.transfers.lines, l.val.stored = l.val

theorem stored_commit (db : Db) : db.commit.Stored where
  products p hp := by
    obtain ⟨q, -, rfl⟩ := List.mem_map.mp hp
    exact q.val.stored_stored
  lines l hl := by
    obtain ⟨k, -, rfl⟩ := List.mem_map.mp hl
    exact k.val.stored_stored

/-- **A commit leaves products and transfer lines as their columns keep them.** -/
theorem stored_exec {r : TransferRequest} {db db' : Db} (h : r.exec db = .ok db') :
    db'.Stored := by
  obtain ⟨d, -, rfl⟩ := map_eq_ok.mp h
  exact stored_commit d

/-- Tables in which no transfer has been made yet. -/
structure Db.BeforeTransfers (db : Db) : Prop where
  stored : db.Stored
  lines : db.transfers.lines = []
  receiptItems : db.transfers.receiptItems = []
  discrepancies : db.losses.discrepancies = []
  writeOffs : db.losses.writeOffs = []
  approvals : db.losses.approvals = []
  sources : (db.ledger.entries.map entrySource).Nodup
  accounts : ∀ e ∈ db.ledger.entries, ∀ l ∈ e.val.lines, l.account ≠ .inventoryInTransit

/-! ### A run -/

/-- Two shops with apples, twenty of them in the first; a clerk and an administrator. -/
def twoShops : Db where
  master := {
    stores := [⟨true, none⟩, ⟨true, none⟩]
    users := [⟨"clerk", fun _ => false, true, none, false, [1], false⟩,
      ⟨"admin", fun _ => false, true, none, false, [0], false⟩]
    roles := [⟨adminRole⟩, ⟨"Clerk"⟩] }
  stock := {
    products := [
      ⟨{ storeId := 0, sku := "APPLE", categoryId := none, currentPrice := 2, currentCost := 1
         taxRateId := none, currentQtyOnHand := 20, allowNegativeStock := false
         isActive := true }, by decide +kernel⟩,
      ⟨{ storeId := 1, sku := "APPLE", categoryId := none, currentPrice := 2, currentCost := 0
         taxRateId := none, currentQtyOnHand := 0, allowNegativeStock := false
         isActive := true }, by decide +kernel⟩] }

theorem twoShops_beforeTransfers : twoShops.BeforeTransfers where
  stored := by
    refine ⟨?_, by simp [twoShops]⟩
    decide +kernel
  lines := rfl
  receiptItems := rfl
  discrepancies := rfl
  writeOffs := rfl
  approvals := rfl
  sources := List.nodup_nil
  accounts := by simp [twoShops]

/-- Ten apples are to go to the second shop. -/
def sendApples : CreateTransfer where
  fromStoreId := 0
  toStoreId := 1
  lines := [{ sourceProductId := 0, requestedQuantity := 10 }]
  callerStoreId := none

def shipApples (lines : List ShipLineInput) : ShipTransfer where
  transferId := 0
  lines := lines
  clientTransactionId := "ship-1"
  callerStoreId := none
  today := 0

/-- Six of them arrive, three are damaged and one is missing. -/
def unpackApples : ReceiveTransfer where
  transferId := 0
  receivedDate := 0
  lines := [{
    transferLineId := 0, quantityReceived := 6, quantityDamaged := 3, quantityDeclaredShort := 1 }]
  clientTransactionId := "unpack-1"
  callerStoreId := none

def writeOffApples (quantity : ℚ) (clientTransactionId : String) : CreateWriteOff where
  discrepancyId := 0
  quantity := quantity
  reason := "lost on the way"
  clientTransactionId := clientTransactionId
  callerStoreId := none
  initiatedBy := some 0

/-- The administrator decides on a write-off that somebody else has initiated. -/
def decideApples (writeOffId : ℕ) : DecideWriteOff where
  writeOffId := writeOffId
  decisionNotes := "seen"
  approvedBy := some 1
  today := 0

def applesSent : Db :=
  value (TransferRequest.exec (.createTransfer sendApples) twoShops) (by decide +kernel)

def applesShipped : Db :=
  value (TransferRequest.exec (.shipTransfer (shipApples [⟨0, 10⟩])) applesSent)
    (by decide +kernel)

def applesUnpacked : Db :=
  value (TransferRequest.exec (.receiveTransfer unpackApples) applesShipped) (by decide +kernel)

def lossInvestigated : Db :=
  value (TransferRequest.exec (.investigateDiscrepancy ⟨0, none⟩) applesUnpacked)
    (by decide +kernel)

def lossResolved : Db :=
  value (TransferRequest.exec (.resolveDiscrepancy ⟨0, .transitDamage, "wet", none⟩)
    lossInvestigated) (by decide +kernel)

def lossRequested : Db :=
  value (TransferRequest.exec (.createWriteOff (writeOffApples 1 "loss-1")) lossResolved)
    (by decide +kernel)

def lossPosted : Db :=
  value (TransferRequest.exec (.approveWriteOff (decideApples 0)) lossRequested)
    (by decide +kernel)

/-- Every step of the run meets a condition that each of the requests meets. -/
theorem reaches_lossPosted {ok : Db → TransferRequest → Prop}
    (hok : ∀ db r, (∀ req, r ≠ .denyWriteOff req) → r.AtScale → r.ShipsLinesOnce db → ok db r) :
    Reaches TransferRequest.exec ok twoShops lossPosted := by
  refine .next (.next (.next (.next (.next (.next (.next .start ?_ (eq_ok_value _ _)) ?_
    (eq_ok_value _ _)) ?_ (eq_ok_value _ _)) ?_ (eq_ok_value _ _)) ?_ (eq_ok_value _ _)) ?_
    (eq_ok_value _ _)) ?_ (eq_ok_value _ _)
  · exact hok _ _ (by simp) trivial trivial
  · refine hok _ _ (by simp) ?_ fun _ => ?_
    · show ∀ l ∈ (shipApples [⟨0, 10⟩]).lines, OnGrid 3 l.quantityToShip
      decide +kernel
    · exact List.nodup_singleton 0
  · refine hok _ _ (by simp) ?_ trivial
    show ∀ l ∈ unpackApples.lines, OnGrid 3 l.quantityReceived ∧
      OnGrid 3 l.quantityDamaged ∧ OnGrid 3 l.quantityDeclaredShort
    decide +kernel
  · exact hok _ _ (by simp) trivial trivial
  · exact hok _ _ (by simp) trivial trivial
  · refine hok _ _ (by simp) ?_ trivial
    show OnGrid 3 (1 : ℚ)
    decide +kernel
  · exact hok _ _ (by simp) trivial trivial

end GroceryErp
