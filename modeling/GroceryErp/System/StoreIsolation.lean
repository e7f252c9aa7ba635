import GroceryErp.System.Access
import GroceryErp.System.Documented

/-!
# Stores are isolated

Whatever is done by callers that are bound to other stores, a store keeps its stock, its movements,
its entries and its closed periods.  Movements are confined to the stores of the callers, and what
they move are products of those stores, since the documents are placed.

## Main definitions

* `storeView` — what there is of a store.
* `ErpRequest.BoundElsewhere` — the caller is bound to another store, and the request asks for that.

## Main results

* `storeView_kept` — one such request leaves the store as it is.
* `store_isolated` — so does any run of them, from every state that is reached.
* `written_off_from_elsewhere` — a decision on a write-off asks for no store, and is made from
  another one.

## References

`backend/app/modules/auth/service.py`, `inventory/service.py`, `accounting/service.py`,
`writeoffs/service.py`.
-/

namespace GroceryErp

open Confinement Decimal Outcome Rows Runs

/-! ### Views -/

/-- The product, if it is one of the store. -/
def StockTables.productOf (s : StockTables) (storeId productId : ℕ) : Option (Row Product) :=
  s.products[productId]?.filter fun p => p.val.storeId = storeId

/-- What there is of a store: its products, their movements, its journal entries and its periods. -/
structure StoreView where
  /-- Its products under their ids, with what is on hand of them and what they cost. -/
  products : ℕ → Option (Row Product)
  movements : List (Row InventoryMovement)
  entries : List (Row JournalEntry)
  periods : List AccountingPeriod

def storeView (db : Db) (storeId : ℕ) : StoreView where
  products := db.stock.productOf storeId
  movements := db.stock.movements.filter (·.val.storeId = storeId)
  entries := db.ledger.entries.filter (·.val.storeId = storeId)
  periods := db.ledger.periods.filter (·.storeId = storeId)

section Steps

variable {db d db' : Db} {bs : List Booking} {s t : StockTables} {storeId : ℕ}

/-- Bookings of products of other stores leave the products of a store as they are. -/
theorem BookedAll.products_elsewhere (h : BookedAll bs s t)
    (helsewhere : ∀ b ∈ bs, b.before.storeId ≠ storeId) : t.productOf storeId = s.productOf storeId := by
  induction h with
  | nil products _ =>
    funext i
    unfold StockTables.productOf
    rw [products]
  | @cons b bs s t u first rest ih =>
    obtain ⟨-, p, p', row, hp, hbefore, hafter, -, hproducts, -⟩ := first
    rw [ih fun c hc => helsewhere c (List.mem_cons_of_mem _ hc)]
    -- the booked product is of another store, before as after
    have hother : p.val.storeId ≠ storeId := by
      rw [hbefore]
      exact helsewhere b List.mem_cons_self
    have hsame : p'.val.storeId = p.val.storeId := by
      rw [hafter, hbefore]
      rfl
    funext i
    unfold StockTables.productOf
    rw [hproducts, getElem?_set_of_some hp]
    split
    · next hi =>
      subst hi
      rw [hp]
      simp [Option.filter_some, hsame, hother]
    · rfl

namespace ErpRequest

/-- The caller is bound to another store, and not to all of them. -/
def BoundElsewhere (storeId : ℕ) (r : ErpRequest) : Prop := ∃ t ∈ r.callerStoreId, t ≠ storeId

instance decidableBoundElsewhere (storeId : ℕ) (r : ErpRequest) :
    Decidable (r.BoundElsewhere storeId) := inferInstanceAs (Decidable (∃ _ ∈ _, _))

instance decidableAtScale (db : Db) : ∀ r : ErpRequest, Decidable (r.AtScale db)
  | stock r => r.decidableAtScale
  | transfer r => r.decidableAtScale
  | createPurchaseInvoice _ | postPurchaseInvoice _ | settlement _ | workforce _
  | closeAccountingPeriod _ => isTrue trivial

end ErpRequest

/-- What a caller that is bound elsewhere adds is of another store. -/
theorem ErpRequest.BoundElsewhere.ne {r : ErpRequest} (hr : r.BoundElsewhere storeId) {s : ℕ}
    (h : MayAct r.callerStoreId s) : s ≠ storeId := by
  obtain ⟨t, ht, hne⟩ := hr
  rw [Option.mem_def.mp ht] at h
  exact h.eq_of_bound ▸ hne

/-- **A request of a caller that is bound to another store leaves the store as it is.** -/
theorem storeView_kept {r : ErpRequest} (hs : StockInScale db.stock) (hplaced : Placed db)
    (hscale : r.AtScale db) (hr : r.BoundElsewhere storeId) (h : r.exec db = .ok db') :
    storeView db' storeId = storeView db storeId := by
  have hconfined := exec_confined h
  obtain ⟨bs, hrun, hsound⟩ := (exec_soundStep hs hplaced hscale h).booked
  have hproducts : db'.stock.productOf storeId = db.stock.productOf storeId := by
    refine hrun.products_elsewhere fun b hb => ?_
    have hinput : b.input.storeId ≠ storeId := hr.ne (hrun.forall_store hconfined.movements b hb)
    rw [← (hsound b hb).store]
    exact hinput
  have hmovements : db'.stock.movements.filter (·.val.storeId = storeId)
      = db.stock.movements.filter (·.val.storeId = storeId) :=
    hconfined.movements.filter_eq fun _ => hr.ne
  have hentries : db'.ledger.entries.filter (·.val.storeId = storeId)
      = db.ledger.entries.filter (·.val.storeId = storeId) :=
    hconfined.entries.filter_eq fun _ => hr.ne
  have hperiods : db'.ledger.periods.filter (·.storeId = storeId)
      = db.ledger.periods.filter (·.storeId = storeId) :=
    hconfined.periods.filter_eq fun _ => hr.ne
  unfold storeView
  rw [hproducts, hmovements, hentries, hperiods]

end Steps

/-! ### Runs -/

section Runs

variable {db₀ db db' : Db}

/-- Products in scale and placed documents. -/
structure SoundState (db : Db) : Prop where
  scale : StockInScale db.stock
  placed : Placed db

theorem SoundState.exec {r : ErpRequest} (h : SoundState db) (hscale : r.AtScale db)
    (hdone : r.exec db = .ok db') : SoundState db' := by
  have hstep := exec_soundStep h.scale h.placed hscale hdone
  exact ⟨hstep.inScale h.scale, hstep.placed⟩

theorem soundState_of_reaches (hstart : db₀.Undocumented)
    (h : Reaches ErpRequest.exec ErpRequest.AtScale db₀ db) : SoundState db :=
  h.invariant ⟨hstart.scale, hstart.placed⟩ fun _ _ _ ht hr hdone => ht.exec hr hdone

/-- **Stores are isolated**: from every state that is reached, whatever callers do that are bound to
other stores, a store keeps its products, movements, entries and closed periods. -/
theorem store_isolated (hstart : db₀.Undocumented)
    (hbefore : Reaches ErpRequest.exec ErpRequest.AtScale db₀ db) (storeId : ℕ)
    (h : Reaches ErpRequest.exec (fun t r => r.AtScale t ∧ r.BoundElsewhere storeId) db db') :
    storeView db' storeId = storeView db storeId := by
  refine unseen SoundState (storeView · storeId) h
    (soundState_of_reaches hstart hbefore) fun t r t' ht hr hdone => ?_
  exact ⟨ht.exec hr.1 hdone, storeView_kept ht.scale ht.placed hr.1 hr.2 hdone⟩

end Runs

/-! ### A day at the second shop -/

/-- The second shop throws an apple away and sells another, after the busy day. -/
def quietDay : List ErpRequest :=
  [.stock (.createAdjustment
      { productId := 1, quantityDelta := -1, reasonCode := .damage, clientTransactionId := none
        callerStoreId := some 1, today := 1 }),
    .stock (.finalizeSale { sellApple with
      storeId := 1
      lines := [{ productId := 1, quantity := 1 }]
      clientTransactionId := "sale-2"
      callerStoreId := some 1 })]

def quietShops : Db :=
  value (quietDay.foldlM (guarded ErpRequest.exec
    (fun t r => r.AtScale t ∧ r.BoundElsewhere 0) .assertion) busyShops) (by decide +kernel)

/-- The first shop keeps what it has, while the second one books two movements. -/
theorem store_isolated_apples : storeView quietShops 0 = storeView busyShops 0 ∧
    (storeView quietShops 1).movements.length = (storeView busyShops 1).movements.length + 2 := by
  have hbusy : Reaches ErpRequest.exec ErpRequest.DocumentsExactly suppliedShops busyShops :=
    reaches_of_guarded (eq_ok_value _ _)
  have hquiet : Reaches ErpRequest.exec (fun t r => r.AtScale t ∧ r.BoundElsewhere 0)
      busyShops quietShops := reaches_of_guarded (eq_ok_value _ _)
  refine ⟨store_isolated suppliedShops_undocumented (hbusy.mono fun _ _ hr => hr.atScale) 0 hquiet, ?_⟩
  decide +kernel

/-- The administrator is bound to the second shop. -/
def boundShops : Db := { twoShops with
  master.users := [⟨"clerk", fun _ => false, true, none, false, [1], false⟩,
    ⟨"admin", fun _ => false, true, some 1, false, [0], false⟩] }

/-- What has gone missing on the way between the shops. -/
def lossReported : Db :=
  value ([ErpRequest.transfer (.createTransfer sendApples),
    .transfer (.shipTransfer (shipApples [⟨0, 10⟩])), .transfer (.receiveTransfer unpackApples),
    .transfer (.investigateDiscrepancy ⟨0, none⟩),
    .transfer (.resolveDiscrepancy ⟨0, .transitDamage, "wet", none⟩),
    .transfer (.createWriteOff (writeOffApples 1 "loss-1"))].foldlM
      (fun db r => ErpRequest.exec r db) boundShops) (by decide +kernel)

def lossApproved : Db :=
  value (ErpRequest.exec (.transfer (.approveWriteOff (decideApples 0))) lossReported)
    (by decide +kernel)

/-- **A decision on a write-off asks for no store**: the administrator of the second shop approves
a loss that is posted in the books of the first one. -/
theorem written_off_from_elsewhere :
    lossReported.master.users[1]?.map (·.storeId) = some (some 1) ∧
      ErpRequest.exec (.transfer (.approveWriteOff (decideApples 0))) lossReported
        = .ok lossApproved ∧
      (storeView lossApproved 0).entries.length = (storeView lossReported 0).entries.length + 1 :=
  ⟨by decide +kernel, eq_ok_value _ _, by decide +kernel⟩

end GroceryErp
