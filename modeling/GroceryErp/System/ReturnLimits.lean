import GroceryErp.System.Frames

/-!
# How much of an order can be returned

A return locks the items of its order before it adds up what the order has delivered of a
product and what earlier returns have taken back.  It compares the quantities as they were
sent; the return items keep three decimals of each.

## Main definitions

* `ReturnsBounded` — no order has more of a product returned than it has delivered.
* `CreatePurchaseReturn.RoundingFits` — rounding the lines adds no more than is left.

## Main results

* `CreatePurchaseReturn.fits_of_onGrid`, `CreatePurchaseReturn.fits_of_single` — quantities with
  three decimals fit, and so do lines of different products.
* `returns_bounded_iff` — a return keeps the bound just when its rounding fits; and none takes
  stock below zero.
-/

namespace GroceryErp

open Decimal Outcome Rows Runs

/-! ### The bound -/

/-- No more of a product has been returned against an order than the order has delivered. -/
def ReturnsBounded (db : Db) : Prop :=
  ∀ purchaseOrderId productId,
    returnedOfProduct db purchaseOrderId productId ≤ receivedOfProduct db purchaseOrderId productId

/-- What the columns add to the quantities of a product by rounding them. -/
def roundingOfLines (lines : List PurchaseReturnLineInput) (productId : ℕ) : ℚ :=
  sumWhere (·.productId = productId) (fun l => numeric 3 l.quantity - l.quantity) lines

/-- What rounding adds to the lines of a product is still left of the order. -/
def CreatePurchaseReturn.RoundingFits (req : CreatePurchaseReturn) (db : Db) : Prop :=
  ∀ productId, returnedOfProduct db req.purchaseOrderId productId
      + requestedReturn req.lines productId + roundingOfLines req.lines productId
    ≤ receivedOfProduct db req.purchaseOrderId productId

/-- The rounding of a return that is not a replay fits. -/
def StockRequest.RoundingFits (db : Db) : StockRequest → Prop
  | .createPurchaseReturn req =>
    rowsWhere (·.clientTransactionId = req.clientTransactionId) db.purchasing.returns = [] →
      req.RoundingFits db
  | _ => True

/-- Tables without returns, their rows as the columns keep them. -/
structure Db.BeforeReturns (db : Db) : Prop where
  returns : db.purchasing.returns = []
  return_items : db.purchasing.returnItems = []
  products : ∀ p ∈ db.stock.products, p.val.stored = p.val
  order_items : ∀ i ∈ db.purchasing.orderItems, i.val.stored = i.val

/-- The return items are of returns that are there, and the rows are as the columns keep
them. -/
structure ReturnsKept (db : Db) : Prop where
  return_items : ∀ i ∈ db.purchasing.returnItems,
    i.val.purchaseReturnId < db.purchasing.returns.length ∧ OnGrid 3 i.val.quantity
  products : ∀ p ∈ db.stock.products, p.val.stored = p.val
  order_items : ∀ i ∈ db.purchasing.orderItems, i.val.stored = i.val

section Returns

variable {db d db' db₀ : Db}

theorem Db.BeforeReturns.kept (h : db.BeforeReturns) : ReturnsKept db where
  return_items := by simp [h.return_items]
  products := h.products
  order_items := h.order_items

/-- An order item counts no less than nothing. -/
theorem ReturnsKept.received_nonneg (h : ReturnsKept db) {i : Row PurchaseOrderItem}
    (hi : i ∈ db.purchasing.orderItems) : 0 ≤ i.val.quantityReceived := by
  have hchecked : 0 ≤ i.val.stored.quantityReceived := i.property.received_nonneg
  rwa [h.order_items i hi] at hchecked

theorem ReturnsKept.onGrid_received (h : ReturnsKept db) {i : Row PurchaseOrderItem}
    (hi : i ∈ db.purchasing.orderItems) : OnGrid 3 i.val.quantityReceived := by
  rw [← h.order_items i hi]
  exact onGrid_numeric 3 _

theorem Db.BeforeReturns.bounded (h : db.BeforeReturns) : ReturnsBounded db := by
  intro o j
  have hnone : returnedOfProduct db o j = 0 := by
    unfold returnedOfProduct
    rw [h.return_items, sumWhere_nil]
  rw [hnone]
  apply sumWhere_nonneg
  intro i hi _
  exact h.kept.received_nonneg hi

/-- A commit keeps every return, and leaves the rows as the columns keep them. -/
theorem ReturnsKept.commit (h : ∀ i ∈ db.purchasing.returnItems,
      i.val.purchaseReturnId < db.purchasing.returns.length ∧ OnGrid 3 i.val.quantity) :
    ReturnsKept db.commit where
  return_items := h
  products := (stored_commit db).products
  order_items i hi := by
    obtain ⟨k, -, rfl⟩ := List.mem_map.mp hi
    exact k.val.stored_stored

/-! ### What an order has delivered -/

/-- After the commit each order item counts with what its column keeps. -/
theorem receivedOfProduct_commit (d : Db) (o j : ℕ) : receivedOfProduct d.commit o j
    = sumWhere (fun i => i.val.purchaseOrderId = o ∧ i.val.productId = j)
        (fun i => numeric 3 i.val.quantityReceived) d.purchasing.orderItems :=
  sumWhere_map _ _ _ _

/-- A commit that finds order items as they are kept changes no sum. -/
theorem receivedOfProduct_of_eq (h : ReturnsKept db)
    (hitems : d.purchasing.orderItems = db.purchasing.orderItems) (o j : ℕ) :
    receivedOfProduct d.commit o j = receivedOfProduct db o j := by
  rw [receivedOfProduct_commit, hitems]
  apply sumWhere_congr
  · intro i _
    rfl
  · intro i hi _
    exact numeric_eq_self (h.onGrid_received hi)

/-- A receipt takes from no order item what has been delivered on it. -/
theorem receivedOfProduct_receipt (h : ReturnsKept db) {lines : List ReceiptLine}
    (hpos : ∀ l ∈ lines, 0 < l.quantityReceived)
    (hitems : Overwritten (fun i a b => b.val = { a.val with
      quantityReceived := a.val.quantityReceived + receivedQty lines i })
      db.purchasing.orderItems d.purchasing.orderItems) (o j : ℕ) :
    receivedOfProduct db o j ≤ receivedOfProduct d.commit o j := by
  have hadded : ∀ i, 0 ≤ receivedQty lines i := by
    intro i
    apply sumWhere_nonneg
    intro l hl _
    exact (hpos l hl).le
  have hcommitted : Overwritten (fun i a c => c.val = { a.val with
      quantityReceived := numeric 3 (a.val.quantityReceived + receivedQty lines i)
      quantityInvoiced := numeric 3 a.val.quantityInvoiced })
      db.purchasing.orderItems d.commit.purchasing.orderItems := by
    refine hitems.trans (.of_map _ _) ?_
    rintro i a b c hb rfl
    show b.val.stored = _
    rw [hb]
    rfl
  unfold receivedOfProduct
  refine hcommitted.sumWhere_le ?_
  intro i a c ha hc
  rw [hc]
  by_cases hof : a.val.purchaseOrderId = o ∧ a.val.productId = j
  · -- its column rounds what has been added to a stored quantity
    rw [if_pos hof, if_pos hof]
    show a.val.quantityReceived ≤ numeric 3 (a.val.quantityReceived + receivedQty lines i)
    have hstored := numeric_eq_self (h.onGrid_received (mem_of_row ha))
    have hmono : numeric 3 a.val.quantityReceived
        ≤ numeric 3 (a.val.quantityReceived + receivedQty lines i) :=
      quantize_mono (by linarith [hadded i])
    rwa [hstored] at hmono
  · rw [if_neg hof, if_neg hof]

/-- **Only a return writes returns, and no other request takes anything from what an order has
delivered.** -/
theorem received_grows {r : StockRequest} (hreturn : ∀ req, r ≠ .createPurchaseReturn req)
    (hk : ReturnsKept db) (h : r.run db = .ok d) :
    d.purchasing.returns = db.purchasing.returns ∧
      d.purchasing.returnItems = db.purchasing.returnItems ∧
      ∀ o j, receivedOfProduct db o j ≤ receivedOfProduct d.commit o j := by
  cases r with
  | createPurchaseOrder req =>
    obtain ⟨⟨d, i⟩, hrun, rfl⟩ := map_eq_ok.mp h
    rcases createPurchaseOrder_ok hrun with rfl | ⟨order, items, -, hitems, -, rfl⟩
    · exact ⟨rfl, rfl, fun o j => (receivedOfProduct_of_eq hk rfl o j).ge⟩
    refine ⟨rfl, rfl, fun o j => ?_⟩
    rw [receivedOfProduct_commit, sumWhere_append]
    -- nothing of the new order has been delivered
    have hnone : sumWhere (fun i => i.val.purchaseOrderId = o ∧ i.val.productId = j)
        (fun i => numeric 3 i.val.quantityReceived) items = 0 := by
      apply sumWhere_eq_zero
      intro i hi _
      obtain ⟨line, -, hrow⟩ := exists_of_map_eq hitems hi
      rw [← hrow]
      exact numeric_eq_self (onGrid_zero 3)
    rw [hnone, add_zero, ← receivedOfProduct_commit]
    exact (receivedOfProduct_of_eq hk rfl o j).ge
  | submitPurchaseOrder req =>
    obtain ⟨order, -, -, rfl⟩ := setOrderStatus_ok h
    exact ⟨rfl, rfl, fun o j => (receivedOfProduct_of_eq hk rfl o j).ge⟩
  | cancelPurchaseOrder req =>
    obtain ⟨order, -, -, rfl⟩ := setOrderStatus_ok h
    exact ⟨rfl, rfl, fun o j => (receivedOfProduct_of_eq hk rfl o j).ge⟩
  | receiveGoods req =>
    obtain ⟨⟨d, i⟩, hrun, rfl⟩ := map_eq_ok.mp h
    rcases receiveGoods_ok hrun with rfl | ⟨order, lines, e, hplan, hw, hj⟩
    · exact ⟨rfl, rfl, fun o j => (receivedOfProduct_of_eq hk rfl o j).ge⟩
    obtain ⟨-, -, hlines⟩ := planReceipt_ok hplan
    obtain ⟨-, receipt, rows, items, status, -, -, hlength, hitems, -, he⟩ := writeReceipt_ok hw
    have hframe : d.purchasing = e.purchasing := by rw [postJournalUnlessEmpty_frame hj]
    refine ⟨by rw [hframe, he], by rw [hframe, he], ?_⟩
    refine receivedOfProduct_receipt hk (fun l hl => (hlines l hl).quantity_pos) ?_
    rw [hframe, he]
    exact ⟨hlength, hitems⟩
  | createPurchaseReturn req => exact absurd rfl (hreturn req)
  | _ =>
    have hsame := (StockRequest.frame h).purchasing id
    exact ⟨by rw [hsame], by rw [hsame], fun o j =>
      (receivedOfProduct_of_eq hk (by rw [hsame]) o j).ge⟩

/-! ### What a return takes back -/

theorem returnedOfProduct_of_eq (hreturns : d.purchasing.returns = db.purchasing.returns)
    (hitems : d.purchasing.returnItems = db.purchasing.returnItems) (o j : ℕ) :
    returnedOfProduct d o j = returnedOfProduct db o j := by
  unfold returnedOfProduct
  rw [hreturns, hitems]

section Writing

variable {req : CreatePurchaseReturn} {lines : List PurchaseReturnLine} {purchaseReturnId : ℕ}

/-- The planned lines are of the products and quantities asked for. -/
theorem sumWhere_planned {inputs : List PurchaseReturnLineInput}
    (hlines : List.Forall₂ (fun line l => l.productId = line.productId ∧
      l.quantity = line.quantity) inputs lines) (j : ℕ) (f : ℚ → ℚ) :
    sumWhere (fun l => l.productId = j) (fun l => f l.quantity) lines
      = sumWhere (fun l => l.productId = j) (fun l => f l.quantity) inputs := by
  induction hlines with
  | nil => rfl
  | cons first _ ih =>
    obtain ⟨hid, hquantity⟩ := first
    rw [sumWhere_cons, sumWhere_cons, ih, hid, hquantity]

/-- The rounded quantities of the lines of a product: what was asked for, and what rounding
adds. -/
theorem sumWhere_rows {inputs : List PurchaseReturnLineInput}
    (hlines : List.Forall₂ (fun line l => l.productId = line.productId ∧
      l.quantity = line.quantity) inputs lines) {rows : List (Row PurchaseReturnItem)}
    (hrows : rows.map Subtype.val = lines.map (·.row purchaseReturnId)) (j : ℕ) :
    sumWhere (·.val.productId = j) (·.val.quantity) rows
      = requestedReturn inputs j + roundingOfLines inputs j := by
  calc sumWhere (·.val.productId = j) (·.val.quantity) rows
      = sumWhere (fun i : PurchaseReturnItem => i.productId = j) (·.quantity)
          (rows.map Subtype.val) :=
        (sumWhere_map (fun i : PurchaseReturnItem => i.productId = j) (·.quantity) Subtype.val
          rows).symm
    _ = sumWhere (fun l => l.productId = j) (fun l => numeric 3 l.quantity) lines := by
        rw [hrows, sumWhere_map]
        rfl
    _ = sumWhere (fun l => l.productId = j) (fun l => numeric 3 l.quantity) inputs :=
        sumWhere_planned hlines j (numeric 3)
    _ = requestedReturn inputs j + roundingOfLines inputs j := by
        unfold requestedReturn roundingOfLines
        rw [sumWhere_sub]
        ring

/-- Writing a return adds its rounded quantities to what its order has had returned. -/
theorem returnedOfProduct_written (hk : ReturnsKept db)
    (hlines : List.Forall₂ (fun line l => l.productId = line.productId ∧
      l.quantity = line.quantity) req.lines lines)
    (h : writePurchaseReturn db req lines = .ok (d, purchaseReturnId)) (o j : ℕ) :
    returnedOfProduct d o j = returnedOfProduct db o j + if o = req.purchaseOrderId then
      requestedReturn req.lines j + roundingOfLines req.lines j else 0 := by
  obtain ⟨hid, rows, hrows, hd⟩ := writePurchaseReturn_ok h
  have hreturns : d.purchasing.returns = db.purchasing.returns ++
      [⟨req.purchaseOrderId, req.storeId, req.clientTransactionId, req.returnDate⟩] := by rw [hd]
  have hitems : d.purchasing.returnItems = db.purchasing.returnItems ++ rows := by rw [hd]
  have hof : ∀ i ∈ rows, i.val.purchaseReturnId = db.purchasing.returns.length := by
    intro i hi
    obtain ⟨l, -, hl⟩ := exists_of_map_eq hrows hi
    rw [← hl, ← hid]
    rfl
  unfold returnedOfProduct
  rw [hreturns, hitems, sumWhere_append]
  congr 1
  · -- the earlier items are of earlier returns
    apply sumWhere_congr
    · intro i hi
      rw [List.getElem?_append_left (hk.return_items i hi).1]
    · intro i _ _
      rfl
  · rw [← sumWhere_rows hlines hrows j]
    by_cases ho : o = req.purchaseOrderId
    · rw [if_pos ho]
      apply sumWhere_congr
      · intro i hi
        rw [hof i hi]
        simp [ho]
      · intro i _ _
        rfl
    · rw [if_neg ho]
      apply sumWhere_eq_zero
      intro i hi hcounts
      obtain ⟨-, r, hr, hro⟩ := hcounts
      rw [hof i hi, List.getElem?_concat_length, Option.mem_some_iff] at hr
      rw [← hr] at hro
      exact absurd hro.symm ho

end Writing

/-- **A return that is not a replay keeps the bound just when its rounding fits.** -/
theorem bounded_return_iff {req : CreatePurchaseReturn} (hk : ReturnsKept db)
    (hbounded : ReturnsBounded db)
    (h : StockRequest.exec (.createPurchaseReturn req) db = .ok db') :
    ReturnsBounded db' ↔ StockRequest.RoundingFits db (.createPurchaseReturn req) := by
  obtain ⟨d, hwritten, rfl⟩ := map_eq_ok.mp h
  obtain ⟨⟨d, purchaseReturnId⟩, hrun, rfl⟩ := map_eq_ok.mp hwritten
  rcases createPurchaseReturn_steps hrun with ⟨htaken, rfl⟩ | ⟨hfree, lines, e, hplan, hw, hj⟩
  · -- a replay writes nothing
    refine iff_of_true ?_ fun hfree => absurd hfree htaken
    intro o j
    rw [receivedOfProduct_of_eq hk rfl]
    exact hbounded o j
  obtain ⟨-, hlines⟩ := planPurchaseReturn_sums hplan
  have hframe : d.purchasing = e.purchasing := by rw [postJournalUnlessEmpty_frame hj]
  have hitems : d.purchasing.orderItems = db.purchasing.orderItems := by
    obtain ⟨-, rows, -, he⟩ := writePurchaseReturn_ok hw
    rw [hframe, he]
  have hreturned : ∀ o j, returnedOfProduct d.commit o j = returnedOfProduct db o j
      + if o = req.purchaseOrderId then
        requestedReturn req.lines j + roundingOfLines req.lines j else 0 := by
    intro o j
    rw [← returnedOfProduct_written hk hlines hw o j]
    refine returnedOfProduct_of_eq ?_ ?_ o j
    · show d.purchasing.returns = _
      rw [hframe]
    · show d.purchasing.returnItems = _
      rw [hframe]
  constructor
  · intro hafter _ j
    have hj := hafter req.purchaseOrderId j
    rw [receivedOfProduct_of_eq hk hitems, hreturned, if_pos rfl] at hj
    linarith
  · intro hfits o j
    rw [receivedOfProduct_of_eq hk hitems, hreturned]
    by_cases ho : o = req.purchaseOrderId
    · subst ho
      have hj := hfits hfree j
      rw [if_pos rfl]
      linarith
    · rw [if_neg ho, add_zero]
      exact hbounded o j

/-- **Every request keeps the returns in order.** -/
theorem ReturnsKept.exec {r : StockRequest} (hk : ReturnsKept db) (h : r.exec db = .ok db') :
    ReturnsKept db' := by
  obtain ⟨d, hrun, rfl⟩ := map_eq_ok.mp h
  apply ReturnsKept.commit
  by_cases hreturn : ∃ req, r = .createPurchaseReturn req
  · obtain ⟨req, rfl⟩ := hreturn
    obtain ⟨⟨d, purchaseReturnId⟩, hwritten, rfl⟩ := map_eq_ok.mp hrun
    rcases createPurchaseReturn_ok hwritten with rfl | ⟨lines, e, -, hw, hj⟩
    · exact hk.return_items
    obtain ⟨rfl, rows, hrows, he⟩ := writePurchaseReturn_ok hw
    have hframe : d.purchasing = e.purchasing := by rw [postJournalUnlessEmpty_frame hj]
    rw [hframe, he]
    intro i hi
    rw [List.length_append, List.length_singleton]
    rcases List.mem_append.mp hi with hi | hi
    · obtain ⟨hlt, hgrid⟩ := hk.return_items i hi
      exact ⟨by omega, hgrid⟩
    · have hval : i.val ∈ lines.map (·.row db.purchasing.returns.length) :=
        hrows ▸ List.mem_map_of_mem hi
      obtain ⟨l, -, hl⟩ := List.mem_map.mp hval
      rw [← hl]
      exact ⟨Nat.lt_succ_self _, onGrid_numeric 3 _⟩
  · obtain ⟨hreturns, hitems, -⟩ := received_grows (fun req hr => hreturn ⟨req, hr⟩) hk hrun
    rw [hreturns, hitems]
    exact hk.return_items

/-- **A request whose rounding fits keeps the bound.** -/
theorem ReturnsBounded.exec {r : StockRequest} (hk : ReturnsKept db)
    (hbounded : ReturnsBounded db) (hfits : r.RoundingFits db) (h : r.exec db = .ok db') :
    ReturnsBounded db' := by
  by_cases hreturn : ∃ req, r = .createPurchaseReturn req
  · obtain ⟨req, rfl⟩ := hreturn
    exact (bounded_return_iff hk hbounded h).mpr hfits
  · obtain ⟨d, hrun, rfl⟩ := map_eq_ok.mp h
    obtain ⟨hreturns, hitems, hreceived⟩ :=
      received_grows (fun req hr => hreturn ⟨req, hr⟩) hk hrun
    intro o j
    calc returnedOfProduct d.commit o j = returnedOfProduct db o j :=
          returnedOfProduct_of_eq hreturns hitems o j
      _ ≤ receivedOfProduct db o j := hbounded o j
      _ ≤ receivedOfProduct d.commit o j := hreceived o j

/-! ### Requests that fit -/

section Fits

variable {req : CreatePurchaseReturn} {lines : List PurchaseReturnLine}

/-- It is enough to look at the products of the request. -/
theorem fits_of_products (hbounded : ReturnsBounded db)
    (h : ∀ line ∈ req.lines, returnedOfProduct db req.purchaseOrderId line.productId
        + requestedReturn req.lines line.productId + roundingOfLines req.lines line.productId
      ≤ receivedOfProduct db req.purchaseOrderId line.productId) : req.RoundingFits db := by
  intro j
  by_cases hj : ∃ line ∈ req.lines, line.productId = j
  · obtain ⟨line, hline, rfl⟩ := hj
    exact h line hline
  · have hnone : ∀ line ∈ req.lines, line.productId ≠ j := fun line hline hid =>
      hj ⟨line, hline, hid⟩
    have hrequested : requestedReturn req.lines j = 0 :=
      sumWhere_eq_zero _ _ fun line hline hid => absurd hid (hnone line hline)
    have hrounding : roundingOfLines req.lines j = 0 :=
      sumWhere_eq_zero _ _ fun line hline hid => absurd hid (hnone line hline)
    rw [hrequested, hrounding, add_zero, add_zero]
    exact hbounded req.purchaseOrderId j

/-- **Quantities with three decimals fit**: no column rounds them, so the sums are what was asked
for. -/
theorem CreatePurchaseReturn.fits_of_onGrid (hbounded : ReturnsBounded db)
    (hplan : planPurchaseReturn db req = .ok lines)
    (hgrid : ∀ line ∈ req.lines, OnGrid 3 line.quantity) : req.RoundingFits db := by
  obtain ⟨hsums, -⟩ := planPurchaseReturn_sums hplan
  apply fits_of_products hbounded
  intro line hline
  obtain ⟨hle, -⟩ := hsums line.productId (List.mem_map_of_mem hline)
  have hrounding : roundingOfLines req.lines line.productId = 0 := by
    apply sumWhere_eq_zero
    intro l hl _
    rw [numeric_eq_self (hgrid l hl), sub_self]
  rwa [hrounding, add_zero]

/-- **So do quantities of different products**: what is left of the order has three decimals,
and one quantity that is no more than it is rounded to no more than it. -/
theorem CreatePurchaseReturn.fits_of_single (hk : ReturnsKept db) (hbounded : ReturnsBounded db)
    (hplan : planPurchaseReturn db req = .ok lines)
    (honce : (req.lines.map (·.productId)).Nodup) : req.RoundingFits db := by
  obtain ⟨hsums, -⟩ := planPurchaseReturn_sums hplan
  apply fits_of_products hbounded
  intro line hline
  obtain ⟨hle, -⟩ := hsums line.productId (List.mem_map_of_mem hline)
  have hrequested : requestedReturn req.lines line.productId = line.quantity :=
    sumWhere_key _ honce hline
  have hrounding : roundingOfLines req.lines line.productId
      = numeric 3 line.quantity - line.quantity :=
    sumWhere_key (fun l : PurchaseReturnLineInput => numeric 3 l.quantity - l.quantity) honce hline
  rw [hrequested] at hle
  rw [hrequested, hrounding]
  have hreceived : OnGrid 3 (receivedOfProduct db req.purchaseOrderId line.productId) :=
    onGrid_sumWhere fun i hi _ => hk.onGrid_received hi
  have hreturned : OnGrid 3 (returnedOfProduct db req.purchaseOrderId line.productId) :=
    onGrid_sumWhere fun i hi _ => (hk.return_items i hi).2
  have hleft : line.quantity ≤ receivedOfProduct db req.purchaseOrderId line.productId
      - returnedOfProduct db req.purchaseOrderId line.productId := by linarith
  have hkept : numeric 3 line.quantity ≤ receivedOfProduct db req.purchaseOrderId line.productId
      - returnedOfProduct db req.purchaseOrderId line.productId := by
    rw [← numeric_eq_self (hreceived.sub hreturned)]
    exact quantize_mono hleft
  linarith

end Fits

/-! ### Stock -/

/-- **A return leaves a product as it is on hand, or with no less than nothing.** -/
theorem return_on_hand {req : CreatePurchaseReturn} (hk : ReturnsKept db)
    (h : StockRequest.exec (.createPurchaseReturn req) db = .ok db') {i : ℕ}
    {p p' : Row Product} (hp : db.stock.products[i]? = some p)
    (hp' : db'.stock.products[i]? = some p') :
    p'.val.currentQtyOnHand = p.val.currentQtyOnHand ∨ 0 ≤ p'.val.currentQtyOnHand := by
  have hstored : numeric 3 p.val.currentQtyOnHand = p.val.currentQtyOnHand :=
    congrArg Product.currentQtyOnHand (hk.products p (mem_of_row hp))
  obtain ⟨d, hwritten, rfl⟩ := map_eq_ok.mp h
  obtain ⟨⟨d, purchaseReturnId⟩, hrun, rfl⟩ := map_eq_ok.mp hwritten
  -- the commit rounds what is then on hand
  have hrow : (d.stock.products.map fun q : Row Product => (⟨q.val.stored, q.property.stored⟩
      : Row Product))[i]? = some p' := hp'
  rw [List.getElem?_map, Option.map_eq_some_iff] at hrow
  obtain ⟨q, hq, rfl⟩ := hrow
  show numeric 3 q.val.currentQtyOnHand = _ ∨ 0 ≤ numeric 3 q.val.currentQtyOnHand
  rcases createPurchaseReturn_ok hrun with rfl | ⟨lines, e, hplan, hw, hj⟩
  · rw [hp] at hq
    obtain rfl := Option.some.inj hq
    exact .inl hstored
  obtain ⟨hsums, hlines⟩ := planPurchaseReturn_sums hplan
  obtain ⟨bss, hbss, hbooked⟩ := bookedAll_of_writePurchaseReturn hw
  obtain ⟨q', hq', hquantity⟩ := hbooked.quantity hp
  have hframe : d.stock = e.stock := by rw [postJournalUnlessEmpty_frame hj]
  rw [hframe, hq'] at hq
  obtain rfl := Option.some.inj hq
  rw [sumWhere_flatten_booksOne hbss] at hquantity
  have htaken : sumWhere (fun l => l.productId = i)
      (fun l : PurchaseReturnLine => (l.movement req.storeId purchaseReturnId).quantityDelta) lines
      = -requestedReturn req.lines i := by
    exact (sumWhere_planned hlines i Neg.neg).trans (sumWhere_neg _ _ _)
  rw [htaken] at hquantity
  by_cases hi : i ∈ req.lines.map (·.productId)
  · obtain ⟨-, p₁, hp₁, hle⟩ := hsums i hi
    rw [hp] at hp₁
    obtain rfl := Option.some.inj hp₁
    right
    apply quantize_nonneg
    rw [hquantity]
    linarith
  · have hnone : requestedReturn req.lines i = 0 := by
      apply sumWhere_eq_zero
      intro l hl hli
      exact absurd (List.mem_map.mpr ⟨l, hl, hli⟩) hi
    left
    rw [hquantity, hnone, neg_zero, add_zero, hstored]

/-! ### Runs -/

theorem returnsKept_of_reaches {ok : Db → StockRequest → Prop} (hstart : db₀.BeforeReturns)
    (hrun : Reaches StockRequest.exec ok db₀ db) : ReturnsKept db :=
  hrun.invariant hstart.kept fun _ _ _ hk _ hdone => hk.exec hdone

/-- **Over runs of returns whose rounding fits, no order has more of a product returned than it
has delivered, and the next return keeps it so just when its rounding fits.  Over any run no
return takes the stock of a product below zero.** -/
theorem returns_bounded_iff (hstart : db₀.BeforeReturns) :
    (∀ db, Reaches StockRequest.exec (fun db r => r.RoundingFits db) db₀ db →
      ReturnsBounded db ∧
      ∀ req db', StockRequest.exec (.createPurchaseReturn req) db = .ok db' →
        (ReturnsBounded db' ↔ StockRequest.RoundingFits db (.createPurchaseReturn req))) ∧
    ∀ db, Reaches StockRequest.exec (fun _ _ => True) db₀ db →
      ∀ req db', StockRequest.exec (.createPurchaseReturn req) db = .ok db' →
        ∀ (i : ℕ) (p p' : Row Product), db.stock.products[i]? = some p →
          db'.stock.products[i]? = some p' →
          p'.val.currentQtyOnHand = p.val.currentQtyOnHand ∨ 0 ≤ p'.val.currentQtyOnHand := by
  refine ⟨?_, ?_⟩
  · intro db hrun
    have hkept := returnsKept_of_reaches hstart hrun
    have hboth : ReturnsKept db ∧ ReturnsBounded db := by
      refine hrun.invariant (I := fun db => ReturnsKept db ∧ ReturnsBounded db)
        ⟨hstart.kept, hstart.bounded⟩ ?_
      intro _ _ _ hs hfits hdone
      exact ⟨hs.1.exec hdone, hs.2.exec hs.1 hfits hdone⟩
    exact ⟨hboth.2, fun req db' hdone => bounded_return_iff hkept hboth.2 hdone⟩
  · intro db hrun req db' hdone i p p' hp hp'
    exact return_on_hand (returnsKept_of_reaches hstart hrun) hdone hp hp'

end Returns

/-! ### Apples that go back -/

theorem greengrocer_beforeReturns : greengrocer.BeforeReturns where
  returns := rfl
  return_items := rfl
  products := by decide +kernel
  order_items := by simp [greengrocer]

/-- Apples of the first order go back, in lines of these quantities. -/
def returnApples (quantities : List ℚ) : CreatePurchaseReturn where
  purchaseOrderId := 0
  storeId := 0
  returnDate := 0
  lines := quantities.map fun quantity => { productId := 0, quantity }
  clientTransactionId := "return-1"
  callerStoreId := none

/-- Seven apples have been delivered, and three of them go back. -/
def applesReturned : Db :=
  value (StockRequest.exec (.createPurchaseReturn (returnApples [1, 2])) applesDelivered)
    (by decide +kernel)

/-- Whole apples fit; and four of them are left. -/
theorem returns_bounded_iff_apples : ReturnsBounded applesReturned ∧
    ∀ p p' : Row Product, applesDelivered.stock.products[0]? = some p →
      applesReturned.stock.products[0]? = some p' →
      p'.val.currentQtyOnHand = p.val.currentQtyOnHand ∨ 0 ≤ p'.val.currentQtyOnHand := by
  have hdelivered : Reaches StockRequest.exec (fun db r => r.RoundingFits db) greengrocer
      applesDelivered := by
    refine .next (r := .receiveGoods (deliverApples 7 1 "receipt-1")) ?_ trivial (eq_ok_value _ _)
    refine .next (r := .submitPurchaseOrder ⟨0, none⟩) ?_ trivial (eq_ok_value _ _)
    exact .next (r := .createPurchaseOrder orderApples) .start trivial (eq_ok_value _ _)
  have hdone := eq_ok_value (StockRequest.exec (.createPurchaseReturn (returnApples [1, 2]))
    applesDelivered) (by decide +kernel)
  refine ⟨?_, fun p p' hp hp' => ?_⟩
  · obtain ⟨hbounded, hnext⟩ :=
      (returns_bounded_iff greengrocer_beforeReturns).1 applesDelivered hdelivered
    refine (hnext (returnApples [1, 2]) applesReturned hdone).mpr fun _ => ?_
    have hplan := eq_ok_value (planPurchaseReturn applesDelivered (returnApples [1, 2]))
      (by decide +kernel)
    exact CreatePurchaseReturn.fits_of_onGrid hbounded hplan (by decide +kernel)
  · exact (returns_bounded_iff greengrocer_beforeReturns).2 applesDelivered
      (hdelivered.mono fun _ _ _ => trivial) (returnApples [1, 2]) applesReturned hdone 0 p p' hp hp'

/-- The requests of an order of ten apples, of which one is delivered and goes back in two
halves. -/
def oneAppleReturned : Db :=
  value (([.createPurchaseOrder orderApples, .submitPurchaseOrder ⟨0, none⟩,
    .receiveGoods (deliverApples 1 1 "receipt-1"),
    .createPurchaseReturn (returnApples [4995 / 10000, 5005 / 10000])] : List StockRequest).foldlM
      (fun db r => StockRequest.exec r db) greengrocer) (by decide +kernel)

/-- **One apple is delivered and goes back as 0.4995 and 0.5005 of it: the columns keep that
1.001 has been returned.** -/
theorem more_returned_than_received : greengrocer.BeforeReturns ∧
    Reaches StockRequest.exec (fun _ _ => True) greengrocer oneAppleReturned ∧
    receivedOfProduct oneAppleReturned 0 0 = 1 ∧
    returnedOfProduct oneAppleReturned 0 0 = 1001 / 1000 ∧ ¬ReturnsBounded oneAppleReturned := by
  have hreturned : returnedOfProduct oneAppleReturned 0 0 = 1001 / 1000 := by decide +kernel
  have hreceived : receivedOfProduct oneAppleReturned 0 0 = 1 := by decide +kernel
  refine ⟨greengrocer_beforeReturns, reaches_of_foldlM (eq_ok_value _ _), hreceived, hreturned, ?_⟩
  intro hbounded
  have hle := hbounded 0 0
  rw [hreceived, hreturned] at hle
  norm_num at hle

end GroceryErp
