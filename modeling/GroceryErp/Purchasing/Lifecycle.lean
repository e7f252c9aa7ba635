import GroceryErp.Lib.Transactions
import GroceryErp.Purchasing.Orders
import GroceryErp.Purchasing.Receiving

/-!
# The status of a purchase order

Receiving locks the order and then reads its status; submitting and cancelling read it
first, and lock the row only when they write it.  In between another transaction can
commit.

## Main definitions

* `readStatus`, `writeStatus` — the two steps of submitting and cancelling.
* `finishReceipt` — what receiving does once it has the lock.
* `ordering` — the three requests as transactions.
* `StillAsRead` — a status that is written over is the one that was read.

## Main results

* `setOrderStatus_steps`, `receiveGoods_steps` — a request is its steps, one after the other.
* `order_status_sound` — a receipt is for an open order, and where statuses are as read
  the order of the statuses is kept.
* `received_order_cancelled` — a received order can be cancelled.

## References

`backend/app/modules/purchasing/service.py`, `submit_purchase_order`,
`cancel_purchase_order`, `receive_goods`.
-/

namespace GroceryErp

open Decimal Outcome Rows Runs Transactions

/-! ### The steps -/

/-- What submitting and cancelling check, and the status they read. -/
def readStatus (db : Db) (req : MovePurchaseOrder) (allowed : List PurchaseOrderStatus) :
    Result PurchaseOrderStatus := do
  let order ← orRaise db.purchasing.orders[req.purchaseOrderId]? .notFound
  enforceStoreAccess req.callerStoreId order.storeId
  raiseIf (order.status ∉ allowed) (.conflict .invalidPoState)
  return order.status

/-- The status is written to the row there is then. -/
def writeStatus (db : Db) (purchaseOrderId : ℕ) (status : PurchaseOrderStatus) : Result Db := do
  let order ← orRaise db.purchasing.orders[purchaseOrderId]? .notFound
  return { db with
    purchasing.orders := db.purchasing.orders.set purchaseOrderId { order with status } }

/-- The receipts that carry the client's key, of which a retried request finds the one there is. -/
def receiptWithKey (db : Db) (key : String) : List (ℕ × GoodsReceipt) :=
  rowsWhere (·.clientTransactionId = key) db.purchasing.receipts

/-- What `receive_goods` does before it locks the order: the receipt there is already. -/
def findReceipt (db : Db) (req : ReceiveGoods) : Result (Option (ℕ × GoodsReceipt)) := do
  db.purchasing.orders[req.purchaseOrderId]?.toList.forM fun order =>
    enforceStoreAccess req.callerStoreId order.storeId
  scalarOneOrNone (receiptWithKey db req.clientTransactionId)

/-- What `receive_goods` does once it has the lock.  A key that has been taken since is
met by the insert, which rolls back and gives the receipt that has it. -/
def finishReceipt (db : Db) (req : ReceiveGoods) (order : PurchaseOrder)
    (lines : List ReceiptLine) : Result Db :=
  if receiptWithKey db req.clientTransactionId ≠ [] then return db else do
    let (db, goodsReceiptId) ← writeReceipt db req order lines
    postGoodsReceiptJournal db order.storeId goodsReceiptId req.receivedDate (receivedLines lines)

/-- A receipt that is not a replay is written and posted. -/
theorem finishReceipt_ok {db db' : Db} {req : ReceiveGoods} {order : PurchaseOrder}
    {lines : List ReceiptLine} (h : finishReceipt db req order lines = .ok db') :
    db' = db ∨ ∃ d goodsReceiptId, writeReceipt db req order lines = .ok (d, goodsReceiptId) ∧
      postGoodsReceiptJournal d order.storeId goodsReceiptId req.receivedDate
        (receivedLines lines) = .ok db' := by
  unfold finishReceipt at h
  split at h
  · -- the insert has met the key
    rw [pure_eq_ok] at h
    exact .inl h.symm
  · rw [bind_eq_ok] at h
    obtain ⟨⟨d, goodsReceiptId⟩, hwrite, hpost⟩ := h
    exact .inr ⟨d, goodsReceiptId, hwrite, hpost⟩

/-- A transition is its steps, one after the other. -/
theorem setOrderStatus_steps {db db' : Db} {req : MovePurchaseOrder}
    {allowed : List PurchaseOrderStatus} {status : PurchaseOrderStatus} :
    setOrderStatus db req allowed status = .ok db' ↔
      ∃ read, readStatus db req allowed = .ok read ∧
        writeStatus db req.purchaseOrderId status = .ok db' := by
  unfold setOrderStatus readStatus writeStatus
  simp only [↓check_bind_eq_ok, bind_eq_ok, orRaise_eq_ok, raiseIf_eq_ok, pure_eq_ok, not_not]
  constructor
  · rintro ⟨order, horder, haccess, hstatus, rfl⟩
    exact ⟨order.status, ⟨order, horder, haccess, hstatus, rfl⟩, order, horder, rfl⟩
  · rintro ⟨read, ⟨order, horder, haccess, hstatus, rfl⟩, order', horder', rfl⟩
    obtain rfl : order = order' := Option.some.inj (horder.symm.trans horder')
    exact ⟨order, horder, haccess, hstatus, rfl⟩

/-- A receipt that is not a replay is its steps, one after the other. -/
theorem receiveGoods_steps {db db' : Db} {req : ReceiveGoods} {goodsReceiptId : ℕ}
    (h : receiveGoods db req = .ok (db', goodsReceiptId)) :
    (∃ found, findReceipt db req = .ok (some found) ∧ db' = db) ∨
      (findReceipt db req = .ok none ∧ ∃ order lines, planReceipt db req = .ok (order, lines) ∧
        finishReceipt db req order lines = .ok db') := by
  unfold receiveGoods at h
  simp only [↓check_bind_eq_ok, bind_eq_ok] at h
  obtain ⟨haccess, found, hfound, h⟩ := h
  have hfind : findReceipt db req = .ok found := by
    unfold findReceipt
    rw [check_bind_eq_ok]
    exact ⟨haccess, hfound⟩
  cases found with
  | some r =>
    obtain ⟨i, receipt⟩ := r
    simp only [pure_eq_ok, Prod.mk.injEq] at h
    exact .inl ⟨_, hfind, h.1.symm⟩
  | none =>
    simp only [bind_eq_ok, pure_eq_ok, Prod.mk.injEq] at h
    obtain ⟨⟨order, lines⟩, hplan, ⟨d, i⟩, hwrite, d', hpost, rfl, rfl⟩ := h
    refine .inr ⟨hfind, order, lines, hplan, ?_⟩
    have hfree : receiptWithKey db req.clientTransactionId = [] :=
      scalarOneOrNone_eq_none.mp hfound
    unfold finishReceipt
    rw [if_neg (not_not.mpr hfree), bind_eq_ok]
    exact ⟨_, hwrite, hpost⟩

/-! ### The transactions -/

inductive OrderRequest
  | submitPurchaseOrder (req : MovePurchaseOrder)
  | cancelPurchaseOrder (req : MovePurchaseOrder)
  | receiveGoods (req : ReceiveGoods)

/-- How far a request has come: which statement it is at, and what it has read before. -/
inductive OrderWork
  | readStatus (req : MovePurchaseOrder) (allowed : List PurchaseOrderStatus)
      (status : PurchaseOrderStatus)
  /-- The update waits for the row. -/
  | update (purchaseOrderId : ℕ) (read status : PurchaseOrderStatus)
  | writeStatus (purchaseOrderId : ℕ) (read status : PurchaseOrderStatus)
  | findReceipt (req : ReceiveGoods)
  | lockOrder (req : ReceiveGoods)
  | finishReceipt (req : ReceiveGoods) (order : PurchaseOrder) (lines : List ReceiptLine)
  /-- There is nothing to write. -/
  | finished

/-- The transactions; the locks are those on the rows of `purchase_orders`. -/
def ordering : Program Db ℕ OrderWork OrderRequest where
  start
    | .submitPurchaseOrder req => .readStatus req [.draft] .ordered
    | .cancelPurchaseOrder req => .readStatus req [.draft, .ordered, .partiallyReceived] .cancelled
    | .receiveGoods req => .findReceipt req
  next
    | .readStatus req allowed status => .read fun db =>
      (readStatus db req allowed).toOption.map fun read => .update req.purchaseOrderId read status
    | .update purchaseOrderId read status => .lock purchaseOrderId fun _ =>
      some (.writeStatus purchaseOrderId read status)
    | .writeStatus purchaseOrderId _ status => .commit fun db =>
      (Db.commit <$> writeStatus db purchaseOrderId status).toOption
    | .findReceipt req => .read fun db =>
      (findReceipt db req).toOption.map fun
        | some _ => .finished
        | none => .lockOrder req
    | .lockOrder req => .lock req.purchaseOrderId fun db =>
      (planReceipt db req).toOption.map fun p => .finishReceipt req p.1 p.2
    | .finishReceipt req order lines => .commit fun db =>
      (Db.commit <$> finishReceipt db req order lines).toOption
    | .finished => .commit some

/-! ### What the requests know and do -/

/-- Goods can be received against an order in this status. -/
def PurchaseOrderStatus.IsOpen (x : PurchaseOrderStatus) : Prop :=
  x = .ordered ∨ x = .partiallyReceived

/-- The transitions of submitting and cancelling, each from the statuses that the endpoint allows.
-/
def PurchaseOrderStatus.MovesTo (x y : PurchaseOrderStatus) : Prop :=
  (x = .draft ∧ y = .ordered) ∨
    ((x = .draft ∨ x = .ordered ∨ x = .partiallyReceived) ∧ y = .cancelled)

/-- What a request knows: a transition is one of the two, a status is written under the
lock, and an order that is received against is as it was loaded. -/
def OrderWork.Knows (held : ℕ → Prop) (db : Db) : OrderWork → Prop
  | readStatus _ allowed status => ∀ x ∈ allowed, x.MovesTo status
  | update _ read status => read.MovesTo status
  | writeStatus purchaseOrderId read status => held purchaseOrderId ∧ read.MovesTo status
  | finishReceipt req order lines => held req.purchaseOrderId ∧
      db.purchasing.orders[req.purchaseOrderId]? = some order ∧ order.status.IsOpen ∧
      lines ≠ [] ∧ ∀ l ∈ lines, 0 < l.quantityReceived ∧
        HasAt db.purchasing.orderItems (·.val.purchaseOrderId) l.itemId req.purchaseOrderId
  | findReceipt _ | lockOrder _ | finished => True

section Steps

variable {db db' : Db}

/-- What a transaction that commits has done to orders and receipts. -/
inductive OrderStep (db : Db) : OrderWork → Db → Prop
  | same {t : OrderWork} {db' : Db} (orders : db'.purchasing.orders = db.purchasing.orders)
      (receipts : db'.purchasing.receipts = db.purchasing.receipts)
      (items : db'.purchasing.orderItems.map (·.val)
        = db.purchasing.orderItems.map (·.val.stored) ∨
        db'.purchasing.orderItems = db.purchasing.orderItems) : OrderStep db t db'
  | write {purchaseOrderId : ℕ} {read status : PurchaseOrderStatus} {order : PurchaseOrder}
      {db' : Db} (loaded : db.purchasing.orders[purchaseOrderId]? = some order)
      (orders : db'.purchasing.orders
        = db.purchasing.orders.set purchaseOrderId { order with status })
      (receipts : db'.purchasing.receipts = db.purchasing.receipts)
      (items : db'.purchasing.orderItems.map (·.val)
        = db.purchasing.orderItems.map (·.val.stored)) :
      OrderStep db (.writeStatus purchaseOrderId read status) db'
  | receive {req : ReceiveGoods} {order : PurchaseOrder} {lines : List ReceiptLine}
      {receipt : GoodsReceipt} {status : PurchaseOrderStatus} {db' : Db}
      {items : List (Row PurchaseOrderItem)}
      (orders : db'.purchasing.orders
        = db.purchasing.orders.set req.purchaseOrderId { order with status })
      (receipts : db'.purchasing.receipts = db.purchasing.receipts ++ [receipt])
      (named : receipt.purchaseOrderId = req.purchaseOrderId)
      (written : Overwritten (fun i old item => item.val = { old.val with
        quantityReceived := old.val.quantityReceived + receivedQty lines i })
        db.purchasing.orderItems items)
      (stored : db'.purchasing.orderItems.map (·.val) = items.map (·.val.stored))
      (advanced : ∀ d : Db, d.purchasing.orderItems = items →
        status = advancePurchaseOrderStatus d req.purchaseOrderId order.status) :
      OrderStep db (.finishReceipt req order lines) db'

theorem map_val_commit (db : Db) : db.commit.purchasing.orderItems.map (·.val)
    = db.purchasing.orderItems.map (·.val.stored) := by
  show (db.purchasing.orderItems.map _).map _ = _
  rw [List.map_map]
  rfl

theorem ordering_step {t : OrderWork} {f : Db → Option Db}
    (hnext : ordering.next t = .commit f) (hf : f db = some db') : OrderStep db t db' := by
  cases t with
  | readStatus | update | findReceipt | lockOrder => cases hnext
  | finished =>
    cases hnext
    obtain rfl : db = db' := Option.some.inj hf
    exact .same rfl rfl (.inr rfl)
  -- a status written over the row that was read, whatever it is by now
  | writeStatus purchaseOrderId read status =>
    cases hnext
    obtain ⟨d, hd, rfl⟩ := map_eq_ok.mp (toOption_eq_some.mp hf)
    unfold writeStatus at hd
    simp only [bind_eq_ok, orRaise_eq_ok, pure_eq_ok] at hd
    obtain ⟨order, horder, rfl⟩ := hd
    exact .write horder rfl rfl (map_val_commit _)
  -- the commit of a receipt, under the lock of its order
  | finishReceipt req order lines =>
    cases hnext
    obtain ⟨d, hd, rfl⟩ := map_eq_ok.mp (toOption_eq_some.mp hf)
    rcases finishReceipt_ok hd with rfl | ⟨e, i, hwrite, hpost⟩
    · exact .same rfl rfl (.inl (map_val_commit _))
    · obtain ⟨-, receipt, rows, items, status, hreceipt, -, hlength, hitems, hstatus, he⟩ :=
        writeReceipt_ok hwrite
      have hframe := postJournalUnlessEmpty_frame hpost
      have hd : d.purchasing = e.purchasing := by rw [hframe]
      have hitemsEq : e.purchasing.orderItems = items := by rw [he]
      refine @OrderStep.receive _ _ _ _ receipt status _ items ?_ ?_ ?_ ⟨hlength, hitems⟩ ?_
        fun d' hd' => ?_
      · show d.purchasing.orders = _
        rw [hd, he]
      · show d.purchasing.receipts = _
        rw [hd, he]
      · rw [hreceipt]
      · rw [map_val_commit, hd, hitemsEq]
      · rw [hstatus]
        unfold advancePurchaseOrderStatus
        rw [hd', hitemsEq]

/-- An order item is still of its order. -/
theorem OrderStep.item_kept {t : OrderWork} (h : OrderStep db t db') {i purchaseOrderId : ℕ}
    (hi : HasAt db.purchasing.orderItems (·.val.purchaseOrderId) i purchaseOrderId) :
    HasAt db'.purchasing.orderItems (·.val.purchaseOrderId) i purchaseOrderId := by
  -- rows are compared as they are stored, and the order of an item is no number that rounding
  -- changes
  have hstored : ∀ {ts : List (Row PurchaseOrderItem)},
      HasAt ts (·.val.purchaseOrderId) i purchaseOrderId →
      db'.purchasing.orderItems.map (·.val) = ts.map (·.val.stored) →
      HasAt db'.purchasing.orderItems (·.val.purchaseOrderId) i purchaseOrderId := by
    rintro ts ⟨a, ha, hid⟩ hmap
    have hrow : (db'.purchasing.orderItems.map (·.val))[i]? = some a.val.stored := by
      rw [hmap, List.getElem?_map, ha, Option.map_some]
    rw [List.getElem?_map] at hrow
    obtain ⟨b, hb, hval⟩ := Option.map_eq_some_iff.mp hrow
    refine ⟨b, hb, ?_⟩
    show b.val.purchaseOrderId = purchaseOrderId
    rw [hval]
    exact hid
  cases h with
  | same orders receipts items =>
    rcases items with items | items
    · exact hstored hi items
    · rw [items]
      exact hi
  | write loaded orders receipts items => exact hstored hi items
  -- a receipt overwrites the received quantities of the items it names, and nothing else of a row
  | receive orders receipts named written stored advanced =>
    obtain ⟨a, ha, hid⟩ := hi
    obtain ⟨b, hb, hval⟩ := written.2 i a ha
    refine hstored ⟨b, hb, ?_⟩ stored
    show b.val.purchaseOrderId = purchaseOrderId
    rw [hval]
    exact hid

/-- A commit leaves the order items as their columns keep them. -/
theorem OrderStep.items_stored {t : OrderWork} (h : OrderStep db t db')
    (hdb : ∀ i ∈ db.purchasing.orderItems, i.val.stored = i.val) :
    ∀ i ∈ db'.purchasing.orderItems, i.val.stored = i.val := by
  have hstored : ∀ {ts : List (Row PurchaseOrderItem)},
      db'.purchasing.orderItems.map (·.val) = ts.map (·.val.stored) →
      ∀ i ∈ db'.purchasing.orderItems, i.val.stored = i.val := by
    intro ts hmap i hi
    obtain ⟨a, -, ha⟩ := exists_of_map_eq hmap hi
    rw [← ha]
    exact a.val.stored_stored
  cases h with
  | same orders receipts items =>
    rcases items with items | items
    · exact hstored items
    · rw [items]
      exact hdb
  | write loaded orders receipts items => exact hstored items
  | receive orders receipts named written stored advanced => exact hstored stored

/-- After a receipt the order is received, in part or in full. -/
theorem OrderStep.advanced {req : ReceiveGoods} {order : PurchaseOrder}
    {lines : List ReceiptLine} {items : List (Row PurchaseOrderItem)}
    {status : PurchaseOrderStatus} (hdb : ∀ i ∈ db.purchasing.orderItems, i.val.stored = i.val)
    (written : Overwritten (fun i old item => item.val = { old.val with
      quantityReceived := old.val.quantityReceived + receivedQty lines i })
      db.purchasing.orderItems items)
    (advanced : ∀ d : Db, d.purchasing.orderItems = items →
      status = advancePurchaseOrderStatus d req.purchaseOrderId order.status)
    (hlines : lines ≠ []) (hpos : ∀ l ∈ lines, 0 < l.quantityReceived ∧
      HasAt db.purchasing.orderItems (·.val.purchaseOrderId) l.itemId req.purchaseOrderId) :
    status = .partiallyReceived ∨ status = .received := by
  obtain ⟨l, hl⟩ := List.exists_mem_of_ne_nil lines hlines
  obtain ⟨-, a, ha, hid⟩ := hpos l hl
  obtain ⟨b, hb, hval⟩ := written.2 l.itemId a ha
  have hbefore : 0 ≤ a.val.quantityReceived := by
    have hnonneg := a.property.received_nonneg
    rw [hdb a (mem_of_row ha)] at hnonneg
    exact hnonneg
  -- the filter for this item is not empty, and all it holds is positive
  have hbrought : 0 < receivedQty lines l.itemId := by
    refine List.sum_pos _ (fun x hx => ?_) ?_
    · obtain ⟨k, hk, rfl⟩ := List.mem_map.mp hx
      exact (hpos k (List.mem_of_mem_filter hk)).1
    · have hmem : l ∈ lines.filter (·.itemId = l.itemId) := by simp [hl]
      exact List.ne_nil_of_mem (List.mem_map_of_mem hmem)
  have hafter : ∃ i ∈ items.filter (·.val.purchaseOrderId = req.purchaseOrderId),
      0 < i.val.quantityReceived := by
    refine ⟨b, List.mem_filter.mpr ⟨mem_of_row hb, ?_⟩, ?_⟩
    · rw [hval]
      exact decide_eq_true hid
    · rw [hval]
      exact add_pos_of_nonneg_of_pos hbefore hbrought
  rw [advanced { db with purchasing.orderItems := items } rfl]
  -- all has been received, or something has; that nothing has, the last case, is out
  unfold advancePurchaseOrderStatus
  dsimp only
  by_cases hall : items.filter (·.val.purchaseOrderId = req.purchaseOrderId) ≠ [] ∧
      ∀ i ∈ items.filter (·.val.purchaseOrderId = req.purchaseOrderId),
        i.val.quantityOrdered ≤ i.val.quantityReceived
  · rw [if_pos hall]
    exact .inr rfl
  · rw [if_neg hall, if_pos hafter]
    exact .inl rfl

end Steps

/-! ### What the requests keep -/

/-- A status that is written over is the one that was read. -/
def StillAsRead (sv : Server Db ℕ OrderWork) : Event OrderRequest → Prop
  | .step k => ∀ purchaseOrderId read status order,
      sv.sessions k = some (.writeStatus purchaseOrderId read status) →
      sv.tables.purchasing.orders[purchaseOrderId]? = some order → order.status = read
  | .begin _ _ | .rollback _ => True

/-- A session that is to write over a status has read the one there is. -/
def OrderWork.AsRead (db : Db) : OrderWork → Prop
  | .writeStatus purchaseOrderId read _ =>
    ∀ order ∈ db.purchasing.orders[purchaseOrderId]?, order.status = read
  | .readStatus _ _ _ | .update _ _ _ | .findReceipt _ | .lockOrder _ | .finishReceipt _ _ _
  | .finished => True

instance OrderWork.decidableAsRead (db : Db) : (t : OrderWork) → Decidable (t.AsRead db)
  | .writeStatus _ _ _ => inferInstanceAs (Decidable (∀ _ ∈ _, _))
  | .readStatus _ _ _ | .update _ _ _ | .findReceipt _ | .lockOrder _ | .finishReceipt _ _ _
  | .finished => .isTrue trivial

theorem stillAsRead_iff {sv : Server Db ℕ OrderWork} {e : Event OrderRequest} :
    StillAsRead sv e ↔ ∀ k, e = .step k → ∀ t ∈ sv.sessions k, t.AsRead sv.tables := by
  cases e with
  | begin k r => exact iff_of_true trivial nofun
  | rollback k => exact iff_of_true trivial nofun
  | step k =>
    constructor
    · rintro h _ ⟨⟩ t ht
      cases t with
      | writeStatus id read status => exact fun order horder => h id read status order ht horder
      | readStatus | update | findReceipt | lockOrder | finishReceipt | finished => trivial
    · intro h id read status order hopen horder
      exact h k rfl _ hopen order horder

instance (sv : Server Db ℕ OrderWork) : (e : Event OrderRequest) → Decidable (StillAsRead sv e)
  | .step k => decidable_of_iff (∀ t ∈ sv.sessions k, t.AsRead sv.tables)
      (by rw [stillAsRead_iff]; simp)
  | .begin _ _ | .rollback _ => .isTrue trivial

/-- The statuses an order can come to from another, in however many steps; a received or cancelled
order has none but its own. -/
def PurchaseOrderStatus.Follows (x y : PurchaseOrderStatus) : Prop :=
  x = y ∨ x = .draft ∨ (x = .ordered ∧ y ≠ .draft) ∨
    (x = .partiallyReceived ∧ (y = .received ∨ y = .cancelled))

instance : DecidableRel PurchaseOrderStatus.Follows := fun _ _ => inferInstanceAs (Decidable (_ ∨ _))

theorem PurchaseOrderStatus.Follows.trans {x y z : PurchaseOrderStatus} (h : x.Follows y)
    (h' : y.Follows z) : x.Follows z := by
  cases x <;> cases y <;> first | (exfalso; revert h; decide) | (revert h'; cases z <;> decide)

theorem PurchaseOrderStatus.MovesTo.follows {x y : PurchaseOrderStatus} (h : x.MovesTo y) :
    x.Follows y := by
  rcases h with ⟨rfl, rfl⟩ | ⟨rfl | rfl | rfl, rfl⟩ <;> decide

/-- No goods have been received for a draft or an order that none have come for. -/
structure Db.ReceivedOrders (db : Db) : Prop where
  items : ∀ i ∈ db.purchasing.orderItems, i.val.stored = i.val
  received : ∀ r ∈ db.purchasing.receipts, ∀ o, db.purchasing.orders[r.purchaseOrderId]? = some o →
    o.status ≠ .draft ∧ o.status ≠ .ordered

/-- Since `db₀` the statuses have followed, and nothing was received for an order that was
cancelled then. -/
structure Db.OrdersSince (db₀ db : Db) : Prop where
  orders : ∀ (i : ℕ) (o : PurchaseOrder), db₀.purchasing.orders[i]? = some o →
    ∃ o', db.purchasing.orders[i]? = some o' ∧ o.status.Follows o'.status
  receipts : ∃ new, db.purchasing.receipts = db₀.purchasing.receipts ++ new ∧
    ∀ r ∈ new, ∀ o, db₀.purchasing.orders[r.purchaseOrderId]? = some o → o.status ≠ .cancelled

section Keeps

variable {db db' : Db}

theorem readStatus_ok {req : MovePurchaseOrder} {allowed : List PurchaseOrderStatus}
    {read : PurchaseOrderStatus} (h : readStatus db req allowed = .ok read) : read ∈ allowed := by
  unfold readStatus at h
  simp only [↓check_bind_eq_ok, bind_eq_ok, orRaise_eq_ok, raiseIf_eq_ok, pure_eq_ok, not_not] at h
  obtain ⟨order, -, -, hstatus, rfl⟩ := h
  exact hstatus

theorem planReceipt_ne_nil {req : ReceiveGoods} {order : PurchaseOrder} {lines : List ReceiptLine}
    (h : planReceipt db req = .ok (order, lines)) : lines ≠ [] := by
  unfold planReceipt at h
  simp only [↓check_bind_eq_ok, bind_eq_ok, orRaise_eq_ok, raiseIf_eq_ok, pure_eq_ok,
    Prod.mk.injEq] at h
  obtain ⟨hne, -, o, -, -, ls, hls, -, rfl⟩ := h
  rintro rfl
  exact hne (List.forall₂_nil_right_iff.mp (mapM_eq_ok.mp hls))

/-- What the rows a transaction has locked tell it is kept by the commits of the others. -/
theorem ordering_keeps {ok : Server Db ℕ OrderWork → Event OrderRequest → Prop} {I : Db → Prop}
    (commit : ∀ sv k t f d, sv.Inv I OrderWork.Knows → ok sv (.step k) → sv.sessions k = some t →
      ordering.next t = .commit f → f sv.tables = some d → I d) :
    ordering.Keeps ok I OrderWork.Knows where
  start sv k r _ _ := by
    cases r with
    | submitPurchaseOrder req =>
      intro x hx
      exact .inl ⟨List.mem_singleton.mp hx, rfl⟩
    | cancelPurchaseOrder req =>
      intro x hx
      exact .inr ⟨by simpa using hx, rfl⟩
    | receiveGoods req => trivial
  read H db t t' f _ h hnext hf := by
    cases t with
    | update | writeStatus | lockOrder | finishReceipt | finished => cases hnext
    | readStatus req allowed status =>
      cases hnext
      obtain ⟨read, hread, rfl⟩ := Option.map_eq_some_iff.mp hf
      exact h read (readStatus_ok (toOption_eq_some.mp hread))
    | findReceipt req =>
      cases hnext
      obtain ⟨found, -, rfl⟩ := Option.map_eq_some_iff.mp hf
      cases found with
      | none => trivial
      | some r => trivial
  lock H db t t' key f _ h hnext hf := by
    cases t with
    | readStatus | writeStatus | findReceipt | finishReceipt | finished => cases hnext
    | update purchaseOrderId read status =>
      cases hnext
      obtain rfl := Option.some.inj hf
      exact ⟨.inl rfl, h⟩
    | lockOrder req =>
      cases hnext
      obtain ⟨⟨order, lines⟩, hplan, rfl⟩ := Option.map_eq_some_iff.mp hf
      rw [toOption_eq_some] at hplan
      obtain ⟨horder, hstatus, hlines⟩ := planReceipt_ok hplan
      refine ⟨.inl rfl, horder, hstatus, planReceipt_ne_nil hplan, fun l hl => ?_⟩
      exact ⟨(hlines l hl).quantity_pos, l.item, (hlines l hl).loaded, (hlines l hl).order⟩
  commit := commit
  stable sv k t f d j u hsv _ hopen hnext hf hjk hj := by
    have hknows := hsv.sessions k t hopen
    have hu := hsv.sessions j u hj
    have hstep := ordering_step hnext hf
    -- a row that the other has locked is not the one that is written
    have hother : ∀ i i', sv.Holds k i → sv.Holds j i' → i ≠ i' := by
      rintro i i' hi hi' rfl
      exact hjk (Option.some.inj (hi'.symm.trans hi))
    cases u with
    | readStatus | update | writeStatus | findReceipt | lockOrder | finished => exact hu
    | finishReceipt req order lines =>
      obtain ⟨hheld, horder, hstatus, hne, hlines⟩ := hu
      refine ⟨hheld, ?_, hstatus, hne, fun l hl => ⟨(hlines l hl).1,
        hstep.item_kept (hlines l hl).2⟩⟩
      cases hstep with
      | same orders receipts items =>
        rw [orders]
        exact horder
      | write loaded orders receipts items =>
        rw [orders, getElem?_set_of_some loaded, if_neg (hother _ _ hknows.1 hheld)]
        exact horder
      | receive orders receipts named written stored advanced =>
        rw [orders, getElem?_set_of_some hknows.2.1, if_neg (hother _ _ hknows.1 hheld)]
        exact horder

/-- A row of an order is written: the statuses follow, and what is received stays so. -/
theorem orders_set {db₀ : Db} {i : ℕ} {o o' : PurchaseOrder}
    (h : ∀ (j : ℕ) (p : PurchaseOrder), db₀.purchasing.orders[j]? = some p →
      ∃ p', db.purchasing.orders[j]? = some p' ∧ p.status.Follows p'.status)
    (ho : db.purchasing.orders[i]? = some o) (hf : o.status.Follows o'.status) :
    ∀ (j : ℕ) (p : PurchaseOrder), db₀.purchasing.orders[j]? = some p →
      ∃ p', (db.purchasing.orders.set i o')[j]? = some p' ∧ p.status.Follows p'.status := by
  intro j p hp
  obtain ⟨p', hp', hpf⟩ := h j p hp
  rw [getElem?_set_of_some ho]
  split
  · next hij =>
    subst hij
    obtain rfl : o = p' := Option.some.inj (ho.symm.trans hp')
    exact ⟨o', rfl, hpf.trans hf⟩
  · exact ⟨p', hp', hpf⟩

/-- A commit keeps the received orders, and the order of the statuses, where the status
it writes over is the one that was read. -/
theorem OrderStep.sound {db₀ : Db} {t : OrderWork} {held : ℕ → Prop} (h : OrderStep db t db')
    (hknows : t.Knows held db)
    (hread : ∀ id read status order, t = .writeStatus id read status →
      db.purchasing.orders[id]? = some order → order.status = read)
    (hdb : db.ReceivedOrders) (hsince : db₀.OrdersSince db) :
    db'.ReceivedOrders ∧ db₀.OrdersSince db' := by
  have hitems := h.items_stored hdb.items
  obtain ⟨new, hnew, hfresh⟩ := hsince.receipts
  cases h with
  | same orders receipts items =>
    refine ⟨⟨hitems, ?_⟩, ?_, new, ?_, hfresh⟩
    · rw [orders, receipts]
      exact hdb.received
    · rw [orders]
      exact hsince.orders
    · rw [receipts, hnew]
  | @write id read status order _ loaded orders receipts items =>
    have hwas : order.status = read := hread id read status order rfl loaded
    have hmoves : order.status.MovesTo status := hwas ▸ hknows.2
    refine ⟨⟨hitems, fun r hr o ho => ?_⟩, ?_, new, ?_, hfresh⟩
    · rw [receipts] at hr
      rw [orders, getElem?_set_of_some loaded] at ho
      split at ho
      · next hid =>
        -- a received order can only be cancelled
        subst hid
        obtain ⟨hdraft, hordered⟩ := hdb.received r hr order loaded
        rw [← Option.some.inj ho]
        rcases hmoves with ⟨hwasDraft, -⟩ | ⟨-, rfl⟩
        · exact absurd hwasDraft hdraft
        · exact ⟨nofun, nofun⟩
      · exact hdb.received r hr o ho
    · rw [orders]
      exact orders_set hsince.orders loaded hmoves.follows
    · rw [receipts, hnew]
  | @receive req order lines receipt status _ its orders receipts named written stored advanced =>
    obtain ⟨-, horder, hopen, hne, hpos⟩ := hknows
    have hstatus := OrderStep.advanced hdb.items written advanced hne hpos
    have hfollows : order.status.Follows status := by
      rcases hopen with hwas | hwas <;> rcases hstatus with rfl | rfl <;> rw [hwas] <;> decide
    have hreceived : status ≠ .draft ∧ status ≠ .ordered := by
      rcases hstatus with rfl | rfl <;> exact ⟨by decide, by decide⟩
    refine ⟨⟨hitems, fun r hr o ho => ?_⟩, ?_, new ++ [receipt], ?_, fun r hr o ho => ?_⟩
    · rw [orders, getElem?_set_of_some horder] at ho
      split at ho
      · rw [← Option.some.inj ho]
        exact hreceived
      · next hother =>
        rw [receipts] at hr
        rcases List.mem_append.mp hr with hr | hr
        · exact hdb.received r hr o ho
        · rw [List.mem_singleton.mp hr] at hother
          exact absurd named.symm hother
    · rw [orders]
      exact orders_set hsince.orders horder hfollows
    · rw [receipts, hnew, List.append_assoc]
    · rcases List.mem_append.mp hr with hr | hr
      · exact hfresh r hr o ho
      · -- the order was open when it was received against
        rw [List.mem_singleton.mp hr, named] at ho
        obtain ⟨o', ho', hof⟩ := hsince.orders _ o ho
        obtain rfl : order = o' := Option.some.inj (horder.symm.trans ho')
        rintro hcancelled
        rw [hcancelled] at hof
        rcases hopen with hwas | hwas <;> rw [hwas] at hof <;> revert hof <;> decide

theorem ordering_sound (db₀ : Db) : ordering.Keeps StillAsRead
    (fun db => db.ReceivedOrders ∧ db₀.OrdersSince db) OrderWork.Knows := by
  refine ordering_keeps fun sv k t f d hsv hok hopen hnext hf => ?_
  refine (ordering_step hnext hf).sound (hsv.sessions k t hopen) ?_ hsv.tables.1 hsv.tables.2
  rintro id read status order rfl horder
  exact hok id read status order hopen horder

theorem Db.OrdersSince.refl (db : Db) : db.OrdersSince db :=
  ⟨fun _ o ho => ⟨o, ho, .inl rfl⟩, [], (List.append_nil _).symm, by simp⟩

/-- A receipt commits on an order that is open at that moment. -/
theorem receipts_on_open_orders {db₀ : Db} {sv sv' : Server Db ℕ OrderWork}
    {e : Event OrderRequest}
    (h : Reaches ordering.exec (fun _ _ => True) { tables := db₀ } sv)
    (hdone : ordering.exec e sv = .ok sv') :
    ∃ new, sv'.tables.purchasing.receipts = sv.tables.purchasing.receipts ++ new ∧
      ∀ r ∈ new, ∃ o, sv.tables.purchasing.orders[r.purchaseOrderId]? = some o ∧
        o.status.IsOpen := by
  have hkeeps : ordering.Keeps (fun _ _ => True) (fun _ => True) OrderWork.Knows :=
    ordering_keeps fun _ _ _ _ _ _ _ _ _ _ => trivial
  have hsv := hkeeps.reaches (Server.inv_of_tables trivial) h
  rcases (Program.exec_did hdone).tables with heq | ⟨k, t, f, -, hopen, hnext, hf⟩
  · exact ⟨[], by rw [heq, List.append_nil], by simp⟩
  have hknows := hsv.sessions k t hopen
  cases ordering_step hnext hf with
  | same orders receipts items => exact ⟨[], by rw [receipts, List.append_nil], by simp⟩
  | write loaded orders receipts items =>
    exact ⟨[], by rw [receipts, List.append_nil], by simp⟩
  | @receive req order lines receipt status _ its orders receipts named written stored advanced =>
    refine ⟨[receipt], receipts, fun r hr => ?_⟩
    rw [List.mem_singleton.mp hr, named]
    exact ⟨order, hknows.2.1, hknows.2.2.1⟩

end Keeps

/-- **A receipt is for an open order, over any run; and in a run in which every status that
is written over is the one that was read**, a cancelled order stays cancelled and nothing
is received for it, and an order with a receipt does not become ordered, and is cancelled
only when part of it was received. -/
theorem order_status_sound {db₀ : Db} (hdb₀ : db₀.ReceivedOrders) :
    (∀ sv sv' e, Reaches ordering.exec (fun _ _ => True) { tables := db₀ } sv →
      ordering.exec e sv = .ok sv' →
      ∃ new, sv'.tables.purchasing.receipts = sv.tables.purchasing.receipts ++ new ∧
        ∀ r ∈ new, ∃ o, sv.tables.purchasing.orders[r.purchaseOrderId]? = some o ∧
          (o.status = .ordered ∨ o.status = .partiallyReceived)) ∧
    ∀ sv sv', Reaches ordering.exec StillAsRead { tables := db₀ } sv →
      Reaches ordering.exec StillAsRead sv sv' →
      ∃ new, sv'.tables.purchasing.receipts = sv.tables.purchasing.receipts ++ new ∧
        ∀ (i : ℕ) (o : PurchaseOrder), sv.tables.purchasing.orders[i]? = some o →
          ∃ o', sv'.tables.purchasing.orders[i]? = some o' ∧
            (o.status = .cancelled →
              o'.status = .cancelled ∧ ∀ r ∈ new, r.purchaseOrderId ≠ i) ∧
            ((∃ r ∈ sv.tables.purchasing.receipts, r.purchaseOrderId = i) →
              o'.status ≠ .ordered ∧ (o'.status = .cancelled →
                o.status = .cancelled ∨ o.status = .partiallyReceived)) := by
  refine ⟨fun sv sv' e h hdone => receipts_on_open_orders h hdone, fun sv sv' h h' => ?_⟩
  have hsv := (ordering_sound db₀).reaches (Server.inv_of_tables ⟨hdb₀, .refl db₀⟩) h
  have hsv' := (ordering_sound sv.tables).reaches
    ⟨⟨hsv.tables.1, .refl _⟩, hsv.sessions, hsv.holders⟩ h'
  obtain ⟨hreceived, horders, new, hnew, hfresh⟩ := hsv'.tables
  refine ⟨new, hnew, fun i o ho => ?_⟩
  obtain ⟨o', ho', hfollows⟩ := horders i o ho
  -- a status is followed only by those that the code moves it to, so the rest is a table of
  -- statuses
  refine ⟨o', ho', fun hcancelled => ⟨?_, ?_⟩, ?_⟩
  · rw [hcancelled] at hfollows
    revert hfollows
    cases o'.status <;> decide
  · rintro r hr rfl
    exact hfresh r hr o ho hcancelled
  -- an order with a receipt was no longer a draft, and no receipt is taken back
  · rintro ⟨r, hr, rfl⟩
    obtain ⟨hdraft, hordered⟩ := hsv.tables.1.received r hr o ho
    have hmem : r ∈ sv'.tables.purchasing.receipts := hnew ▸ List.mem_append_left new hr
    refine ⟨(hreceived.received r hmem o' ho').2, fun hcancelled => ?_⟩
    rw [hcancelled] at hfollows
    revert hdraft hordered hfollows
    cases o.status <;> decide

/-! ### An order that is cancelled after a receipt -/

/-- A draft of ten apples, in a shop that has none. -/
def appleOrder : Db where
  master := { stores := [⟨true, none⟩] }
  stock := {
    products := [
      ⟨{ storeId := 0, sku := "APPLE", categoryId := none, currentPrice := 2, currentCost := 1
         taxRateId := none, currentQtyOnHand := 0, allowNegativeStock := false
         isActive := true }, by decide +kernel⟩] }
  purchasing := {
    orders := [⟨0, 0, "order-1", .draft, 0, none⟩]
    orderItems := [⟨⟨0, 0, 10, 0, 0, 1⟩, by decide +kernel⟩] }

theorem appleOrder_receivedOrders : appleOrder.ReceivedOrders where
  items := by decide +kernel
  received := by simp [appleOrder]

/-- Four of the ten apples come, on the first receipt. -/
def receiveApples : ReceiveGoods := ⟨0, 0, [⟨0, 4, 1⟩], "receipt-1", none⟩

/-- What has become of the server after some events, where each status that is written over is the
one that was read. -/
def orderingAsRead (es : List (Event OrderRequest)) (sv : Server Db ℕ OrderWork) :
    Except Refused (Server Db ℕ OrderWork) :=
  es.foldlM (guarded ordering.exec StillAsRead .blocked) sv

def orderDrafted : Server Db ℕ OrderWork := { tables := appleOrder }

/-- The order is submitted, and a delivery has locked it. -/
def receiptLocked : Server Db ℕ OrderWork :=
  value (orderingAsRead [.begin 0 (.submitPurchaseOrder ⟨0, none⟩), .step 0, .step 0, .step 0,
    .begin 0 (.receiveGoods receiveApples), .step 0, .step 0] orderDrafted) (by decide +kernel)

def applesReceived : Server Db ℕ OrderWork :=
  value (ordering.exec (.step 0) receiptLocked) (by decide +kernel)

/-- What has not come is cancelled, after part of the order has been received. -/
def restCancelled : Server Db ℕ OrderWork :=
  value (orderingAsRead [.begin 0 (.cancelPurchaseOrder ⟨0, none⟩), .step 0, .step 0, .step 0]
    applesReceived) (by decide +kernel)

/-- Another delivery for the order finds it cancelled. -/
def deliveredLate : Server Db ℕ OrderWork :=
  value (orderingAsRead [.begin 1 (.receiveGoods ⟨0, 0, [⟨0, 6, 1⟩], "receipt-2", none⟩), .step 1,
    .step 1] restCancelled) (by decide +kernel)

/-- Four apples are received for an order that was submitted; once it is cancelled it stays so, and
nothing more is received for it. -/
theorem order_status_sound_apples :
    (∃ new, applesReceived.tables.purchasing.receipts
        = receiptLocked.tables.purchasing.receipts ++ new ∧
      ∀ r ∈ new, ∃ o, receiptLocked.tables.purchasing.orders[r.purchaseOrderId]? = some o ∧
        (o.status = .ordered ∨ o.status = .partiallyReceived)) ∧
    (∃ o, restCancelled.tables.purchasing.orders[0]? = some o ∧ o.status ≠ .ordered) ∧
    ∃ new, deliveredLate.tables.purchasing.receipts
        = restCancelled.tables.purchasing.receipts ++ new ∧
      ∃ o, deliveredLate.tables.purchasing.orders[0]? = some o ∧ o.status = .cancelled ∧
        ∀ r ∈ new, r.purchaseOrderId ≠ 0 := by
  obtain ⟨hreceipts, hstatuses⟩ := order_status_sound appleOrder_receivedOrders
  have hlocked : Reaches ordering.exec StillAsRead orderDrafted receiptLocked :=
    reaches_of_guarded (eq_ok_value _ _)
  have hstep : ordering.exec (.step 0) receiptLocked = .ok applesReceived := eq_ok_value _ _
  have hreceived : Reaches ordering.exec StillAsRead orderDrafted applesReceived :=
    hlocked.next (by decide +kernel) hstep
  have hcancelled : Reaches ordering.exec StillAsRead applesReceived restCancelled :=
    reaches_of_guarded (eq_ok_value _ _)
  have hlate : Reaches ordering.exec StillAsRead restCancelled deliveredLate :=
    reaches_of_guarded (eq_ok_value _ _)
  have hpart : applesReceived.tables.purchasing.orders[0]?
      = some ⟨0, 0, "order-1", .partiallyReceived, 0, none⟩ := by decide +kernel
  have hrest : restCancelled.tables.purchasing.orders[0]?
      = some ⟨0, 0, "order-1", .cancelled, 0, none⟩ := by decide +kernel
  have hreceipt : ∃ r ∈ applesReceived.tables.purchasing.receipts, r.purchaseOrderId = 0 := by
    decide +kernel
  refine ⟨?_, ?_, ?_⟩
  -- the receipt itself, found open before it
  · exact hreceipts receiptLocked applesReceived (.step 0) (hlocked.mono fun _ _ _ => trivial) hstep
  -- the cancellation of the rest, after part of it was received
  · obtain ⟨new, -, hkept⟩ := hstatuses applesReceived restCancelled hreceived hcancelled
    obtain ⟨o, ho, -, hafter⟩ := hkept 0 _ hpart
    exact ⟨o, ho, (hafter hreceipt).1⟩
  -- a second delivery, for an order that is cancelled by then
  · obtain ⟨new, hnew, hkept⟩ :=
      hstatuses restCancelled deliveredLate (hreceived.trans hcancelled) hlate
    obtain ⟨o, ho, hstays, -⟩ := hkept 0 _ hrest
    exact ⟨new, hnew, o, ho, hstays rfl⟩

/-- The order of which four apples have come is cancelled, as the statuses that can be
cancelled say. -/
theorem received_order_cancelled :
    ¬∀ sv sv' : Server Db ℕ OrderWork,
      Reaches ordering.exec (fun _ _ => True) orderDrafted sv →
      Reaches ordering.exec (fun _ _ => True) sv sv' →
      ∀ (i : ℕ) (o o' : PurchaseOrder), sv.tables.purchasing.orders[i]? = some o →
        sv'.tables.purchasing.orders[i]? = some o' → o.status ≠ .cancelled →
        (∃ r ∈ sv.tables.purchasing.receipts, r.purchaseOrderId = i) →
          o'.status ≠ .cancelled ∧ o'.status ≠ .ordered := by
  intro hall
  have hbefore : applesReceived.tables.purchasing.orders
      = [⟨0, 0, "order-1", .partiallyReceived, 0, none⟩] := by decide +kernel
  have hafter : restCancelled.tables.purchasing.orders
      = [⟨0, 0, "order-1", .cancelled, 0, none⟩] := by decide +kernel
  have hreceipt : ∃ r ∈ applesReceived.tables.purchasing.receipts, r.purchaseOrderId = 0 := by
    decide +kernel
  have hlocked : Reaches ordering.exec StillAsRead orderDrafted receiptLocked :=
    reaches_of_guarded (eq_ok_value _ _)
  have hcancelled : Reaches ordering.exec StillAsRead applesReceived restCancelled :=
    reaches_of_guarded (eq_ok_value _ _)
  have hstep : ordering.exec (.step 0) receiptLocked = .ok applesReceived := eq_ok_value _ _
  have hreceived : Reaches ordering.exec (fun _ _ => True) orderDrafted applesReceived :=
    (hlocked.mono fun _ _ _ => trivial).next trivial hstep
  obtain ⟨hnever, -⟩ := hall applesReceived restCancelled hreceived
    (hcancelled.mono fun _ _ _ => trivial) 0 ⟨0, 0, "order-1", .partiallyReceived, 0, none⟩
    ⟨0, 0, "order-1", .cancelled, 0, none⟩ (by rw [hbefore]; rfl) (by rw [hafter]; rfl) nofun hreceipt
  exact hnever rfl

end GroceryErp
