import GroceryErp.Accounting.Journal

/-!
# The postings

One function for each operational event: it builds the journal lines of the event
from values the service already computed and hands them to `postJournal`.

## Main definitions

* `valueOfLines` — what a list of quantities and unit costs is worth, each
  product rounded to the ledger quantum.
* `saleJournalLines`, `saleReturnJournalLines`, `purchaseInvoiceJournalLines` —
  the entries assembled from conditional lines.
* `postPair` — the entries that put one amount on two accounts.

## Main results

* `glBalance_postPair` — what such an entry adds to an account.

## References

`backend/app/modules/accounting/service.py`, `accounting/constants.py`.
-/

namespace GroceryErp

open Decimal Ledger Outcome Rows

/-! ### Accounts of the payment methods -/

/-- `PAYMENT_METHOD_ACCOUNT_CODE`: the account that a customer's payment goes to. -/
def PaymentMethod.account : PaymentMethod → Account
  | .cash => .cashOnHand
  | .card => .cardClearing
  | .mobileMoney => .mobileMoneyClearing
  | .bankTransfer => .bankTransferClearing
  | .other => .otherPaymentClearing

/-- `SUPPLIER_PAYMENT_METHOD_ACCOUNT_CODE`: what a supplier is paid out of; only cash does not go
through the bank. -/
def SupplierPaymentMethod.account : SupplierPaymentMethod → Account
  | .cash => .cashOnHand
  | .bankTransfer | .cheque | .other => .bankAccount

/-- Nothing is paid to Inventory, or to an account of sales. -/
theorem PaymentMethod.account_ne {a : Account}
    (ha : a ∈ [Account.inventory, .salesRevenue, .salesDiscounts, .cogs]) (m : PaymentMethod) :
    m.account ≠ a := by
  rintro rfl
  cases m <;> exact absurd ha (by decide)

/-! ### Values -/

/-- The value of a list of `(quantity, unit cost)` lines, rounded line by line. -/
def valueOfLines (lines : List (ℚ × ℚ)) : ℚ :=
  (lines.map fun l => ledgerQuantize (l.1 * l.2)).sum

@[simp] theorem valueOfLines_nil : valueOfLines [] = 0 := rfl

@[simp] theorem valueOfLines_append (k l : List (ℚ × ℚ)) :
    valueOfLines (k ++ l) = valueOfLines k + valueOfLines l := by
  simp [valueOfLines]

@[simp] theorem valueOfLines_singleton (q c : ℚ) :
    valueOfLines [(q, c)] = ledgerQuantize (q * c) := by
  simp [valueOfLines]

theorem onGrid_ledgerQuantize (x : ℚ) : OnGrid 6 (ledgerQuantize x) := onGrid_quantize 6 x

theorem onGrid_valueOfLines (lines : List (ℚ × ℚ)) : OnGrid 6 (valueOfLines lines) :=
  onGrid_sum _ fun x hx => by
    obtain ⟨l, -, rfl⟩ := List.mem_map.mp hx
    exact onGrid_ledgerQuantize _

theorem valueOfLines_nonneg {lines : List (ℚ × ℚ)} (h : ∀ l ∈ lines, 0 ≤ l.1 ∧ 0 ≤ l.2) :
    0 ≤ valueOfLines lines := by
  refine List.sum_nonneg fun x hx => ?_
  obtain ⟨l, hl, rfl⟩ := List.mem_map.mp hx
  exact quantize_nonneg (mul_nonneg (h l hl).1 (h l hl).2)

/-- The inflows of a list of lines are worth its value. -/
theorem sum_inflows {α : Type} (l : List α) (f : α → ℚ × ℚ) :
    (l.map fun a => ledgerQuantize ((f a).1 * (f a).2)).sum = valueOfLines (l.map f) := by
  simp [valueOfLines, Function.comp_def]

/-- The picked inflows of a list of lines are worth the value of the picked lines. -/
theorem sum_picked {α : Type} (l : List α) (pick : α → Prop) [DecidablePred pick] (f : α → ℚ × ℚ) :
    (l.map fun a => if pick a then ledgerQuantize ((f a).1 * (f a).2) else 0).sum
      = valueOfLines ((l.filter pick).map f) := by
  rw [← sumWhere_eq_sum_map, sumWhere, sum_inflows]

/-! ### Sales -/

/-- `PaymentInput`: one tender of a sale, in cash or otherwise. -/
structure PaymentInput where
  paymentMethod : PaymentMethod
  amount : ℚ
  deriving DecidableEq

/-- The lines of `post_sale_journal`.  `costed` are the quantities and unit costs
of the cart, the ones also used for the stock movements. -/
def saleJournalLines (payments : List PaymentInput)
    (discountTotal changeDue subtotal taxTotal : ℚ) (costed : List (ℚ × ℚ)) :
    List JournalLine :=
  let cogsTotal := valueOfLines costed
  (payments.map fun p => debit p.paymentMethod.account p.amount)
    ++ debitIf .salesDiscounts discountTotal
    ++ creditIf PaymentMethod.cash.account changeDue
    ++ creditIf .salesRevenue subtotal
    ++ creditIf .taxPayable taxTotal
    ++ pair .cogs .inventory cogsTotal

/-- `SaleReturnLineEffect`: what one line of a return gives back, and the cost it takes back into
stock if the goods are restocked. -/
structure SaleReturnLineEffect where
  refundPrice : ℚ
  discountRefunded : ℚ
  taxRefunded : ℚ
  restock : Bool
  quantity : ℚ
  unitCostRefunded : ℚ
  deriving DecidableEq

/-- The `(quantity, unit cost)` lines of the goods that go back on the shelf. -/
def restockedLines (effects : List SaleReturnLineEffect) : List (ℚ × ℚ) :=
  (effects.filter (·.restock)).map fun e => (e.quantity, e.unitCostRefunded)

/-- The lines of `post_sale_return_journal`: the refund is paid out, revenue, discount and tax are
taken back, and so is the cost of what was restocked. -/
def saleReturnJournalLines (refundMethod : PaymentMethod)
    (effects : List SaleReturnLineEffect) : List JournalLine :=
  let totalRefundPrice := (effects.map (·.refundPrice)).sum
  let totalDiscountRefunded := (effects.map (·.discountRefunded)).sum
  let totalTaxRefunded := (effects.map (·.taxRefunded)).sum
  let cogsTotal := valueOfLines (restockedLines effects)
  let totalRefundAmount := totalRefundPrice - totalDiscountRefunded + totalTaxRefunded
  debitIf .salesRevenue totalRefundPrice
    ++ debitIf .taxPayable totalTaxRefunded
    ++ creditIf .salesDiscounts totalDiscountRefunded
    ++ creditIf refundMethod.account totalRefundAmount
    ++ pair .inventory .cogs cogsTotal

/-! ### What sales post to Inventory -/

/-- Lines on other accounts leave an account alone, also as they are stored. -/
theorem net_map_storedLine_eq_zero {ls : List JournalLine} {a : Account}
    (h : ∀ l ∈ ls, l.account ≠ a) : net a (ls.map storedLine) = 0 := by
  refine sumWhere_eq_zero _ _ fun l hl ha => ?_
  obtain ⟨k, hk, rfl⟩ := List.mem_map.mp hl
  exact absurd ha (h k hk)

/-- What one amount on two accounts adds to an account, as it is stored. -/
theorem net_map_storedLine_pair {dr cr : Account} {x : ℚ} (hx : 0 ≤ x) (hg : OnGrid 6 x)
    (a : Account) : net a ((pair dr cr x).map storedLine)
      = (if dr = a then x else 0) + if cr = a then -x else 0 := by
  rw [net_storedLine_pair, postedAmount_of_onGrid hx hg]

/-- What the entry of a sale adds to an account that nothing is paid to. -/
theorem net_saleJournalLines {payments : List PaymentInput}
    {discountTotal changeDue subtotal taxTotal : ℚ} {costed : List (ℚ × ℚ)} {a : Account}
    (ha : ∀ m : PaymentMethod, m.account ≠ a) :
    net a ((saleJournalLines payments discountTotal changeDue subtotal taxTotal costed).map
        storedLine)
      = (if .salesDiscounts = a then postedAmount discountTotal else 0)
        + (if .salesRevenue = a then -postedAmount subtotal else 0)
        + (if .taxPayable = a then -postedAmount taxTotal else 0)
        + ((if .cogs = a then postedAmount (valueOfLines costed) else 0)
          + if .inventory = a then -postedAmount (valueOfLines costed) else 0) := by
  have hpayments : net a ((payments.map fun p => debit p.paymentMethod.account p.amount).map
      storedLine) = 0 := by
    refine net_map_storedLine_eq_zero fun l hl => ?_
    obtain ⟨p, -, rfl⟩ := List.mem_map.mp hl
    exact ha p.paymentMethod
  unfold saleJournalLines
  simp only [List.map_append, net_append, hpayments, net_storedLine_debitIf,
    net_storedLine_creditIf, net_storedLine_pair, if_neg (ha .cash), zero_add, add_zero]

/-- What the entry of a return adds to an account that nothing is paid from. -/
theorem net_saleReturnJournalLines {method : PaymentMethod} {effects : List SaleReturnLineEffect}
    {a : Account} (ha : ∀ m : PaymentMethod, m.account ≠ a) :
    net a ((saleReturnJournalLines method effects).map storedLine)
      = (if .salesRevenue = a then postedAmount (effects.map (·.refundPrice)).sum else 0)
        + (if .taxPayable = a then postedAmount (effects.map (·.taxRefunded)).sum else 0)
        + (if .salesDiscounts = a then -postedAmount (effects.map (·.discountRefunded)).sum else 0)
        + ((if .inventory = a then postedAmount (valueOfLines (restockedLines effects)) else 0)
          + if .cogs = a then -postedAmount (valueOfLines (restockedLines effects)) else 0) := by
  unfold saleReturnJournalLines
  simp only [List.map_append, net_append, net_storedLine_debitIf, net_storedLine_creditIf,
    net_storedLine_pair, if_neg (ha method), add_zero]

/-- **A sale takes the cost of its goods out of Inventory.** -/
theorem net_inventory_saleJournalLines {payments : List PaymentInput}
    {discountTotal changeDue subtotal taxTotal : ℚ} {costed : List (ℚ × ℚ)}
    (h : 0 ≤ valueOfLines costed) :
    net .inventory ((saleJournalLines payments discountTotal changeDue subtotal taxTotal
      costed).map storedLine) = -valueOfLines costed := by
  rw [net_saleJournalLines (PaymentMethod.account_ne (by decide)),
    postedAmount_of_onGrid h (onGrid_valueOfLines _)]
  simp

/-- **A return takes the cost of the restocked goods into Inventory.** -/
theorem net_inventory_saleReturnJournalLines {method : PaymentMethod}
    {effects : List SaleReturnLineEffect} (h : 0 ≤ valueOfLines (restockedLines effects)) :
    net .inventory ((saleReturnJournalLines method effects).map storedLine)
      = valueOfLines (restockedLines effects) := by
  rw [net_saleReturnJournalLines (PaymentMethod.account_ne (by decide)),
    postedAmount_of_onGrid h (onGrid_valueOfLines _)]
  simp

/-! ### One amount on two accounts -/

/-- The postings that debit one account and credit another, and post nothing when
the amount is not positive. -/
def postPair (db : Db) (storeId : ℕ) (postingDate : Date) (sourceType : SourceType)
    (sourceId : ℕ) (dr cr : Account) (amount : ℚ) : Result Db :=
  postJournalUnlessEmpty db storeId postingDate sourceType sourceId (pair dr cr amount)

/-- **What one amount on two accounts adds to an account of a store.** -/
theorem glBalance_postPair {db db' : Db} {storeId sourceId : ℕ} {postingDate : Date}
    {sourceType : SourceType} {dr cr : Account} {x : ℚ}
    (h : postPair db storeId postingDate sourceType sourceId dr cr x = .ok db')
    (hx : 0 ≤ x) (hg : OnGrid 6 x) (s : ℕ) (a : Account) :
    glBalance db' s a = glBalance db s a
      + if storeId = s then (if dr = a then x else 0) + (if cr = a then -x else 0) else 0 := by
  rw [glBalance_postJournalUnlessEmpty h, net_map_storedLine_pair hx hg]

/-- `post_goods_receipt_journal`: the value of what was received moves from Purchase Clearing to
Inventory. -/
def postGoodsReceiptJournal (db : Db) (storeId goodsReceiptId : ℕ) (receivedDate : Date)
    (receivedLines : List (ℚ × ℚ)) : Result Db :=
  postPair db storeId receivedDate .purchaseReceipt goodsReceiptId .inventory .purchaseClearing
    (valueOfLines receivedLines)

/-- `post_purchase_return_journal`: the value of what goes back moves from Inventory to Purchase
Clearing. -/
def postPurchaseReturnJournal (db : Db) (storeId purchaseReturnId : ℕ) (returnDate : Date)
    (returnedLines : List (ℚ × ℚ)) : Result Db :=
  postPair db storeId returnDate .purchaseReturn purchaseReturnId .purchaseClearing .inventory
    (valueOfLines returnedLines)

/-- `post_stock_adjustment_journal`: stock that is found is a gain, and stock that is missing is
shrinkage. -/
def postStockAdjustmentJournal (db : Db) (storeId adjustmentId : ℕ) (today : Date)
    (quantityDelta unitCost : ℚ) : Result Db :=
  let amount := ledgerQuantize (|quantityDelta| * unitCost)
  if 0 < quantityDelta then
    postPair db storeId today .stockAdjustment adjustmentId .inventory .inventoryAdjustmentGain
      amount
  else
    postPair db storeId today .stockAdjustment adjustmentId .inventoryShrinkageExpense .inventory
      amount

/-- `post_transfer_shipment_journal`: the shipped value leaves the Inventory of the sender and is in
transit. -/
def postTransferShipmentJournal (db : Db) (fromStoreId transferId : ℕ) (shippedAt : Date)
    (shippedValue : ℚ) : Result Db :=
  postPair db fromStoreId shippedAt .interStoreTransferShip transferId .inventoryInTransit
    .inventory shippedValue

/-- `post_transfer_receipt_journal`: the received value is taken out of transit into the Inventory
of the receiver. -/
def postTransferReceiptJournal (db : Db) (storeId receiptId : ℕ) (receivedDate : Date)
    (receivedValue : ℚ) : Result Db :=
  postPair db storeId receivedDate .interStoreTransferReceive receiptId .inventory
    .inventoryInTransit receivedValue

/-! ### Write-offs -/

/-- A debit and a credit of one amount, posted also when there is nothing in it. -/
def postSwap (db : Db) (storeId : ℕ) (postingDate : Date) (sourceType : SourceType)
    (sourceId : ℕ) (dr cr : Account) (amount : ℚ) : Result Db :=
  postJournal db storeId postingDate sourceType sourceId [debit dr amount, credit cr amount]

theorem net_storedLine_swap {dr cr : Account} {x : ℚ} (hg : OnGrid 6 x) (a : Account) :
    net a ([debit dr x, credit cr x].map storedLine)
      = (if dr = a then x else 0) + if cr = a then -x else 0 := by
  have hlines : ∀ l ∈ [debit dr x, credit cr x], LineOnGrid l := by
    intro l hl
    rcases List.mem_pair.mp hl with rfl | rfl
    · exact lineOnGrid_debit dr hg
    · exact lineOnGrid_credit cr hg
  rw [map_storedLine_of_onGrid hlines, net_debit, net_credit, net_nil, add_zero]

/-- `post_transfer_write_off_journal`: what is written off leaves transit as shrinkage of the store
that bears it. -/
def postTransferWriteOffJournal (db : Db) (writeOffId : ℕ) (writeOff : TransferWriteOff)
    (postingDate : Date) : Result Db :=
  postSwap db writeOff.storeId postingDate .transferWriteOff writeOffId .inventoryShrinkageExpense
    .inventoryInTransit writeOff.amount

/-- `post_transfer_write_off_reversal_journal`: the same two lines the other way round, on the day
of the reversal. -/
def postTransferWriteOffReversalJournal (db : Db) (writeOffId : ℕ) (writeOff : TransferWriteOff)
    (today : Date) : Result Db :=
  postSwap db writeOff.storeId today .transferWriteOffReversal writeOffId .inventoryInTransit
    .inventoryShrinkageExpense writeOff.amount

/-! ### Accounts payable -/

/-- `_purchase_invoice_journal_lines`: the invoice clears what its receipts put on Purchase
Clearing, at the cost of the receipts, and the rest of its price is variance, on the side of its
sign. -/
def purchaseInvoiceJournalLines
    (clearingAmount priceVarianceAmount taxTotal discountTotal grandTotal : ℚ)
    (reverse : Bool) : List JournalLine :=
  let lines :=
    debitIf .purchaseClearing clearingAmount
      ++ debitIf .purchasePriceVariance priceVarianceAmount
      ++ creditIf .purchasePriceVariance (-priceVarianceAmount)
      ++ debitIf .purchaseTaxExpense taxTotal
      ++ creditIf .purchaseDiscounts discountTotal
      ++ creditIf .accountsPayable grandTotal
  if reverse then mirror lines else lines

theorem map_storedLine_mirror (ls : List JournalLine) :
    (mirror ls).map storedLine = mirror (ls.map storedLine) := by
  unfold mirror
  rw [List.map_map, List.map_map]
  rfl

/-- **An invoice credits Accounts Payable with its total**, and its void takes it back. -/
theorem net_accountsPayable_purchaseInvoiceJournalLines
    {clearingAmount priceVarianceAmount taxTotal discountTotal grandTotal : ℚ} {reverse : Bool}
    (h : 0 ≤ grandTotal) :
    net .accountsPayable ((purchaseInvoiceJournalLines clearingAmount priceVarianceAmount taxTotal
      discountTotal grandTotal reverse).map storedLine)
        = if reverse then numeric 6 grandTotal else -numeric 6 grandTotal := by
  have hcredit : net .accountsPayable ((creditIf .accountsPayable grandTotal).map storedLine)
      = -numeric 6 grandTotal := by
    unfold creditIf
    split
    · simp [storedLine, credit, net, numeric]
    · next hpos =>
      have hzero : grandTotal = 0 := le_antisymm (not_lt.mp hpos) h
      simp [hzero, numeric]
  -- the line on Accounts Payable is the last; the others are on other accounts
  have hlines : net .accountsPayable ((purchaseInvoiceJournalLines clearingAmount
      priceVarianceAmount taxTotal discountTotal grandTotal false).map storedLine)
        = -numeric 6 grandTotal := by
    unfold purchaseInvoiceJournalLines
    dsimp only
    rw [if_neg Bool.false_ne_true, List.map_append, net_append, hcredit,
      net_map_storedLine_eq_zero fun l hl => ?_, zero_add]
    simp only [List.mem_append] at hl
    rcases hl with (((hl | hl) | hl) | hl) | hl
    · rw [account_of_mem_debitIf hl]
      decide
    · rw [account_of_mem_debitIf hl]
      decide
    · rw [account_of_mem_creditIf hl]
      decide
    · rw [account_of_mem_debitIf hl]
      decide
    · rw [account_of_mem_creditIf hl]
      decide
  cases reverse with
  | false => exact hlines
  | true =>
    have hmirror : purchaseInvoiceJournalLines clearingAmount priceVarianceAmount taxTotal
        discountTotal grandTotal true = mirror (purchaseInvoiceJournalLines clearingAmount
          priceVarianceAmount taxTotal discountTotal grandTotal false) := rfl
    rw [hmirror, map_storedLine_mirror, net_mirror, hlines, neg_neg, if_pos rfl]

/-- `post_purchase_invoice_journal`: the lines above on the date of the invoice; an invoice over
nothing posts no entry. -/
def postPurchaseInvoiceJournal (db : Db) (invoiceId : ℕ) (invoice : PurchaseInvoice)
    (clearingAmount priceVarianceAmount : ℚ) : Result Db :=
  postJournalUnlessEmpty db invoice.storeId invoice.invoiceDate .purchaseInvoice invoiceId
    (purchaseInvoiceJournalLines clearingAmount priceVarianceAmount invoice.taxTotal
      invoice.discountTotal invoice.grandTotal false)

/-- `post_purchase_invoice_void_journal`: the mirrored lines, on the day the invoice is voided. -/
def postPurchaseInvoiceVoidJournal (db : Db) (invoiceId : ℕ) (invoice : PurchaseInvoice)
    (clearingAmount priceVarianceAmount : ℚ) (today : Date) : Result Db :=
  postJournalUnlessEmpty db invoice.storeId today .purchaseInvoiceVoid invoiceId
    (purchaseInvoiceJournalLines clearingAmount priceVarianceAmount invoice.taxTotal
      invoice.discountTotal invoice.grandTotal true)

/-- `post_supplier_payment_journal`: the payment takes from Accounts Payable what it takes out of
the account of its method. -/
def postSupplierPaymentJournal (db : Db) (paymentId : ℕ) (payment : SupplierPayment) :
    Result Db :=
  postPair db payment.storeId payment.paymentDate .supplierPayment paymentId .accountsPayable
    payment.paymentMethod.account payment.amount

/-- `post_supplier_payment_reversal_journal`: the same two lines the other way round. Unlike the
payment itself it posts an entry even for a zero amount. -/
def postSupplierPaymentReversalJournal (db : Db) (paymentId : ℕ) (payment : SupplierPayment)
    (today : Date) : Result Db :=
  postJournal db payment.storeId today .supplierPaymentReversal paymentId
    [debit payment.paymentMethod.account payment.amount, credit .accountsPayable payment.amount]

/-- The account that a credit note is credited to, by the reason it is given for. -/
def CreditNoteReason.account : CreditNoteReason → Account
  | .goodsReturn => .inventory
  | .commercialDiscount => .purchaseDiscounts

/-- `post_supplier_credit_note_journal`: the credit takes from Accounts Payable, against the account
of its reason. -/
def postSupplierCreditNoteJournal (db : Db) (creditNoteId : ℕ) (note : SupplierCreditNote) :
    Result Db :=
  postPair db note.storeId note.creditDate .supplierCreditNote creditNoteId .accountsPayable
    note.reason.account note.grandTotal

/-- `post_supplier_credit_note_reversal_journal`: the same two lines the other way round, posted
even for a zero amount. -/
def postSupplierCreditNoteReversalJournal (db : Db) (creditNoteId : ℕ)
    (note : SupplierCreditNote) (today : Date) : Result Db :=
  postJournal db note.storeId today .supplierCreditNoteReversal creditNoteId
    [debit note.reason.account note.grandTotal, credit .accountsPayable note.grandTotal]

end GroceryErp
