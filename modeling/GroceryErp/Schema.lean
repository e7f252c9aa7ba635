import GroceryErp.Errors
import GroceryErp.Lib.Effective
import GroceryErp.Lib.Rounding
import GroceryErp.Lib.Ledger
import Mathlib.Tactic.MkIffOfInductiveProp

/-!
# The database

The tables the modelled services read and write.  A table is a list, and the primary
key of a row is its position; the one table rows are deleted from, the results of a
payroll, is not read by key.  Decimal columns are rationals; `numeric` is what a
`Numeric(_, s)` column keeps of a value.  A row of a table with CHECK constraints
carries the proof that it meets them, and an effective-dated table the proof that it has
no overlaps.

## Main definitions

* `numeric` — the value a decimal column stores.
* `Db` — the tables.
* `Db.commit` — what the tables hold once a request has committed.
-/

namespace GroceryErp

open Decimal Effective

/-- A calendar day, counted from some first day. -/
abbrev Date := ℤ

/-- A point in time, in microseconds. -/
abbrev Instant := ℤ

/-- What a `Numeric(_, scale)` column stores: PostgreSQL rounds half away from
zero. -/
def numeric (scale : ℕ) (x : ℚ) : ℚ := quantize scale x

theorem numeric_eq_self {n : ℕ} {x : ℚ} (h : OnGrid n x) : numeric n x = x := quantize_eq_self h

@[simp] theorem numeric_numeric (n : ℕ) (x : ℚ) : numeric n (numeric n x) = numeric n x :=
  quantize_quantize n x

theorem onGrid_numeric (n : ℕ) (x : ℚ) : OnGrid n (numeric n x) := onGrid_quantize n x

/-- A text with nothing but blanks in it. -/
def isBlank (s : String) : Prop := ∀ c ∈ s.toList, c.isWhitespace

-- Goes through the list; the instance search may go through every character instead.
instance (s : String) : Decidable (isBlank s) :=
  List.decidableBAll (fun c : Char => c.isWhitespace = true) s.toList

/-! ### Master data -/

structure Store where
  isActive : Bool
  returnApprovalThresholdAmount : Option ℚ

structure User where
  username : String
  /-- `verify_password` against the stored hash. -/
  verifyPassword : String → Bool
  isActive : Bool
  storeId : Option ℕ
  /-- Whether `SALES_RETURN_APPROVE` is among the user's permissions. -/
  salesReturnApprove : Bool
  /-- The rows of `user_roles` for the user. -/
  roleIds : List ℕ := []
  /-- Whether `SHIFT_OVERRIDE` is among the user's permissions. -/
  shiftOverride : Bool := false

structure Role where
  name : String
  deriving DecidableEq

structure TaxRate where
  ratePercent : ℚ
  isActive : Bool
  effectiveFrom : Date
  effectiveTo : Option Date

structure Supplier where
  isActive : Bool
  defaultPaymentTermsDays : Option ℕ

/-! ### Products and inventory -/

structure Product where
  storeId : ℕ
  sku : String
  categoryId : Option ℕ
  currentPrice : ℚ
  currentCost : ℚ
  taxRateId : Option ℕ
  currentQtyOnHand : ℚ
  allowNegativeStock : Bool
  isActive : Bool
  reorderPoint : Option ℚ := none
  targetStockQuantity : Option ℚ := none
  name : String := ""
  defaultSupplierId : Option ℕ := none
  minimumStockQuantity : Option ℚ := none
  deriving DecidableEq

/-- A product row as its columns keep it. -/
def Product.stored (p : Product) : Product :=
  { p with currentQtyOnHand := numeric 3 p.currentQtyOnHand, currentCost := numeric 6 p.currentCost }

/-- The CHECK constraints of `products`, and the scale of the columns that no request writes. -/
@[mk_iff] structure Product.Checks (p : Product) : Prop where
  price_nonneg : 0 ≤ p.currentPrice
  cost_nonneg : 0 ≤ p.stored.currentCost
  stock_nonneg_unless_allowed : p.allowNegativeStock ∨ 0 ≤ p.stored.currentQtyOnHand
  reorder_point_scale : ∀ q ∈ p.reorderPoint, OnGrid 3 q
  target_stock_scale : ∀ q ∈ p.targetStockQuantity, OnGrid 3 q

instance : Table Product where
  Checks := Product.Checks
  decidableChecks p := decidable_of_iff' _ (Product.checks_iff p)
  constraint := .products

inductive MovementType
  | purchaseReceipt
  | saleReturn
  | stockAdjustmentIn
  | transferIn
  | sale
  | purchaseReturn
  | stockAdjustmentOut
  | transferOut
  deriving DecidableEq

/-- The movement types that bring stock in. -/
def MovementType.increasing : MovementType → Bool
  | .purchaseReceipt | .saleReturn | .stockAdjustmentIn | .transferIn => true
  | .sale | .purchaseReturn | .stockAdjustmentOut | .transferOut => false

inductive ReferenceType
  | purchaseOrder
  | sale
  | saleReturn
  | purchaseReturn
  | stockAdjustment
  | interStoreTransfer
  deriving DecidableEq

structure InventoryMovement where
  storeId : ℕ
  productId : ℕ
  movementType : MovementType
  quantityDelta : ℚ
  unitCostAtMovement : ℚ
  resultingQuantityOnHand : ℚ
  referenceType : ReferenceType
  referenceId : Option ℕ
  deriving DecidableEq

@[mk_iff] structure InventoryMovement.Checks (m : InventoryMovement) : Prop where
  delta_nonzero : m.quantityDelta ≠ 0
  unit_cost_nonneg : 0 ≤ m.unitCostAtMovement
  direction : (m.movementType.increasing ∧ 0 < m.quantityDelta) ∨
    (¬m.movementType.increasing ∧ m.quantityDelta < 0)

instance : Table InventoryMovement where
  Checks := InventoryMovement.Checks
  decidableChecks m := decidable_of_iff' _ (InventoryMovement.checks_iff m)
  constraint := .inventoryMovements

inductive AdjustmentReason
  | damage
  | theft
  | expiry
  | stocktakeCorrection
  | other
  deriving DecidableEq

structure StockAdjustment where
  storeId : ℕ
  productId : ℕ
  quantityDelta : ℚ
  reasonCode : AdjustmentReason
  stockCountId : Option ℕ
  clientTransactionId : Option String
  deriving DecidableEq

instance : Table StockAdjustment where
  Checks a := a.quantityDelta ≠ 0
  decidableChecks _ := inferInstance
  constraint := .stockAdjustments

inductive StockCountStatus
  | draft
  | opened
  | counted
  | reviewed
  | posted
  | cancelled
  deriving DecidableEq

structure StockCount where
  storeId : ℕ
  categoryId : Option ℕ
  status : StockCountStatus
  deriving DecidableEq

structure StockCountLine where
  stockCountId : ℕ
  productId : ℕ
  expectedQuantity : Option ℚ
  expectedUnitCost : Option ℚ
  countedQuantity : Option ℚ
  recountNumber : ℕ
  deriving DecidableEq

@[mk_iff] structure StockCountLine.Checks (l : StockCountLine) : Prop where
  expected_nonneg : ∀ q ∈ l.expectedQuantity, 0 ≤ q
  counted_nonneg : ∀ q ∈ l.countedQuantity, 0 ≤ q

instance : Table StockCountLine where
  Checks := StockCountLine.Checks
  decidableChecks l := decidable_of_iff' _ (StockCountLine.checks_iff l)
  constraint := .stockCountLines

/-! ### Journal -/

/-- The accounts of the seeded chart. -/
inductive Account
  | cashOnHand
  | cardClearing
  | mobileMoneyClearing
  | bankTransferClearing
  | otherPaymentClearing
  | bankAccount
  | inventory
  | inventoryInTransit
  | purchaseClearing
  | accountsPayable
  | taxPayable
  | salesRevenue
  | salesDiscounts
  | inventoryAdjustmentGain
  | cogs
  | purchasePriceVariance
  | purchaseDiscounts
  | purchaseTaxExpense
  | inventoryShrinkageExpense
  | cashOverShort
  | wageSalaryExpense
  | employerContributionExpense
  | payrollPayable
  | statutoryWithholdingPayable
  | benefitDeductionPayable
  | employerContributionPayable
  deriving DecidableEq

inductive SourceType
  | sale
  | saleReturn
  | purchaseReceipt
  | purchaseReturn
  | stockAdjustment
  | purchaseInvoice
  | purchaseInvoiceVoid
  | supplierPayment
  | supplierCreditNote
  | supplierPaymentReversal
  | supplierCreditNoteReversal
  | interStoreTransferShip
  | interStoreTransferReceive
  | transferWriteOff
  | transferWriteOffReversal
  | payrollPosting
  | payrollReversal
  | cashShiftVariance
  deriving DecidableEq

/-- A row of `journal_lines`, with exact amounts. -/
abbrev JournalLine := Ledger.Line Account ℚ

/-- An entry with its lines.  Its source is the document that it was posted for. -/
structure JournalEntry where
  storeId : ℕ
  postingDate : Date
  sourceType : SourceType
  sourceId : ℕ
  lines : List JournalLine
  deriving DecidableEq

/-- The CHECK constraint of `journal_lines`, and the balance trigger the database
runs at commit. -/
@[mk_iff] structure JournalEntry.Checks (e : JournalEntry) : Prop where
  exactly_one_side : ∀ l ∈ e.lines, l.OneSided
  balanced : Ledger.Balanced e.lines

instance : Table JournalEntry where
  Checks := JournalEntry.Checks
  decidableChecks e := decidable_of_iff' _ (JournalEntry.checks_iff e)
  constraint := .journalEntries

structure AccountingPeriod where
  storeId : ℕ
  periodStart : Date
  periodEnd : Date

/-! ### Cashier shifts -/

/-- `CashierShift.status`: a shift is closed once, and for good. -/
inductive ShiftStatus
  | opened
  | closed
  deriving DecidableEq

structure CashierShift where
  storeId : ℕ
  cashierId : ℕ
  status : ShiftStatus
  openingFloat : ℚ
  clientTransactionId : String
  closedAt : Option Date
  closingCountedAmount : Option ℚ
  expectedCashAmount : Option ℚ
  varianceAmount : Option ℚ
  closedBy : Option ℕ
  closeClientTransactionId : Option String
  deriving DecidableEq

namespace CashierShift

/-- None of the closing fields is set. -/
def Unsettled (s : CashierShift) : Prop :=
  s.closedAt = none ∧ s.closingCountedAmount = none ∧ s.expectedCashAmount = none ∧
    s.varianceAmount = none ∧ s.closedBy = none

/-- All of the closing fields are set. -/
def Settled (s : CashierShift) : Prop :=
  s.closedAt ≠ none ∧ s.closingCountedAmount ≠ none ∧ s.expectedCashAmount ≠ none ∧
    s.varianceAmount ≠ none ∧ s.closedBy ≠ none

instance (s : CashierShift) : Decidable s.Unsettled := inferInstanceAs (Decidable (_ ∧ _))

instance (s : CashierShift) : Decidable s.Settled := inferInstanceAs (Decidable (_ ∧ _))

/-- The CHECK constraints of `cashier_shifts`: a shift is settled when it is closed, and not before,
and its variance is what was counted beyond what was expected. -/
@[mk_iff] structure Checks (s : CashierShift) : Prop where
  opening_float_nonneg : 0 ≤ s.openingFloat
  closing_counted_nonneg : ∀ c ∈ s.closingCountedAmount, 0 ≤ c
  closing_fields_consistent :
    s.status = .opened ∧ s.Unsettled ∨ s.status = .closed ∧ s.Settled
  variance_consistent : s.status = .opened ∨ ∀ v ∈ s.varianceAmount,
    ∀ c ∈ s.closingCountedAmount, ∀ e ∈ s.expectedCashAmount, v = c - e

end CashierShift

instance : Table CashierShift where
  Checks := CashierShift.Checks
  decidableChecks s := decidable_of_iff' _ (CashierShift.checks_iff s)
  constraint := .cashierShifts

/-- `CashMovement.movement_type`: cash that goes into the drawer or out of it without a sale. -/
inductive CashMovementType
  | paidIn
  | paidOut
  deriving DecidableEq

structure CashMovement where
  shiftId : ℕ
  movementType : CashMovementType
  amount : ℚ
  createdBy : ℕ
  clientTransactionId : String
  deriving DecidableEq

instance : Table CashMovement where
  Checks m := 0 < m.amount
  decidableChecks _ := inferInstance
  constraint := .cashMovements

/-! ### Sales -/

inductive PaymentMethod
  | cash
  | card
  | mobileMoney
  | bankTransfer
  | other
  deriving DecidableEq

inductive SaleStatus
  | opened
  | completed
  | voided
  | refunded
  | partiallyRefunded
  deriving DecidableEq

structure Sale where
  storeId : ℕ
  clientTransactionId : String
  cashierId : ℕ
  status : SaleStatus
  subtotal : ℚ
  discountTotal : ℚ
  taxTotal : ℚ
  grandTotal : ℚ
  amountTendered : ℚ
  changeDue : ℚ
  completedAt : Date
  shiftId : Option ℕ
  deriving DecidableEq

@[mk_iff] structure Sale.Checks (s : Sale) : Prop where
  subtotal_nonneg : 0 ≤ s.subtotal
  discount_nonneg : 0 ≤ s.discountTotal
  tax_nonneg : 0 ≤ s.taxTotal
  grand_total_nonneg : 0 ≤ s.grandTotal
  grand_total_consistent : s.grandTotal = s.subtotal - s.discountTotal + s.taxTotal

instance : Table Sale where
  Checks := Sale.Checks
  decidableChecks s := decidable_of_iff' _ (Sale.checks_iff s)
  constraint := .sales

structure SaleItem where
  saleId : ℕ
  productId : ℕ
  quantity : ℚ
  unitPriceAtSale : ℚ
  unitCostAtSale : ℚ
  discountAmount : ℚ
  taxRateId : Option ℕ
  taxAmount : ℚ
  lineTotal : ℚ
  quantityReturned : ℚ
  deriving DecidableEq

@[mk_iff] structure SaleItem.Checks (i : SaleItem) : Prop where
  quantity_pos : 0 < i.quantity
  price_nonneg : 0 ≤ i.unitPriceAtSale
  cost_nonneg : 0 ≤ i.unitCostAtSale
  discount_nonneg : 0 ≤ i.discountAmount
  tax_nonneg : 0 ≤ i.taxAmount
  line_total_consistent :
    i.lineTotal = numeric 2 (i.quantity * i.unitPriceAtSale - i.discountAmount + i.taxAmount)
  returned_nonneg : 0 ≤ i.quantityReturned
  returned_le : i.quantityReturned ≤ i.quantity

instance : Table SaleItem where
  Checks := SaleItem.Checks
  decidableChecks i := decidable_of_iff' _ (SaleItem.checks_iff i)
  constraint := .saleItems

structure Payment where
  saleId : ℕ
  paymentMethod : PaymentMethod
  amount : ℚ
  deriving DecidableEq

instance : Table Payment where
  Checks p := 0 < p.amount
  decidableChecks _ := inferInstance
  constraint := .payments

structure SaleReturn where
  saleId : ℕ
  storeId : ℕ
  clientTransactionId : String
  refundMethod : PaymentMethod
  refundAmount : ℚ
  processedBy : Option ℕ
  approvedBy : Option ℕ
  approvalRequired : Bool
  shiftId : Option ℕ
  returnDate : Date
  deriving DecidableEq

instance : Table SaleReturn where
  Checks r := 0 ≤ r.refundAmount
  decidableChecks _ := inferInstance
  constraint := .saleReturns

structure SaleReturnItem where
  saleReturnId : ℕ
  saleItemId : ℕ
  quantity : ℚ
  unitPriceRefunded : ℚ
  discountRefunded : ℚ
  taxRefunded : ℚ
  unitCostRefunded : ℚ
  restock : Bool
  deriving DecidableEq

@[mk_iff] structure SaleReturnItem.Checks (i : SaleReturnItem) : Prop where
  quantity_pos : 0 < i.quantity
  price_nonneg : 0 ≤ i.unitPriceRefunded
  discount_nonneg : 0 ≤ i.discountRefunded
  tax_nonneg : 0 ≤ i.taxRefunded
  cost_nonneg : 0 ≤ i.unitCostRefunded

instance : Table SaleReturnItem where
  Checks := SaleReturnItem.Checks
  decidableChecks i := decidable_of_iff' _ (SaleReturnItem.checks_iff i)
  constraint := .saleReturnItems

/-! ### Purchasing -/

inductive PurchaseOrderStatus
  | draft
  | ordered
  | partiallyReceived
  | received
  | cancelled
  deriving DecidableEq

structure PurchaseOrder where
  storeId : ℕ
  supplierId : ℕ
  clientTransactionId : String
  status : PurchaseOrderStatus
  orderDate : Date
  /-- The plan that has generated the order. -/
  replenishmentPlanId : Option ℕ := none
  deriving DecidableEq

structure PurchaseOrderItem where
  purchaseOrderId : ℕ
  productId : ℕ
  quantityOrdered : ℚ
  quantityReceived : ℚ
  quantityInvoiced : ℚ
  unitCost : ℚ
  deriving DecidableEq

/-- A purchase order item as its columns keep it. -/
def PurchaseOrderItem.stored (i : PurchaseOrderItem) : PurchaseOrderItem :=
  { i with
    quantityReceived := numeric 3 i.quantityReceived
    quantityInvoiced := numeric 3 i.quantityInvoiced }

/-- The CHECK constraints of `purchase_order_items`, and the scale of the quantity that is
ordered. -/
@[mk_iff] structure PurchaseOrderItem.Checks (i : PurchaseOrderItem) : Prop where
  ordered_pos : 0 < i.quantityOrdered
  ordered_scale : OnGrid 3 i.quantityOrdered
  received_nonneg : 0 ≤ i.stored.quantityReceived
  invoiced_nonneg : 0 ≤ i.stored.quantityInvoiced
  invoiced_le : i.stored.quantityInvoiced ≤ i.stored.quantityReceived
  unit_cost_nonneg : 0 ≤ i.unitCost

instance : Table PurchaseOrderItem where
  Checks := PurchaseOrderItem.Checks
  decidableChecks i := decidable_of_iff' _ (PurchaseOrderItem.checks_iff i)
  constraint := .purchaseOrderItems

structure GoodsReceipt where
  purchaseOrderId : ℕ
  storeId : ℕ
  clientTransactionId : String
  receivedDate : Date
  deriving DecidableEq

structure GoodsReceiptItem where
  goodsReceiptId : ℕ
  purchaseOrderItemId : ℕ
  quantityReceived : ℚ
  unitCost : ℚ
  deriving DecidableEq

@[mk_iff] structure GoodsReceiptItem.Checks (i : GoodsReceiptItem) : Prop where
  qty_pos : 0 < i.quantityReceived
  unit_cost_nonneg : 0 ≤ i.unitCost

instance : Table GoodsReceiptItem where
  Checks := GoodsReceiptItem.Checks
  decidableChecks i := decidable_of_iff' _ (GoodsReceiptItem.checks_iff i)
  constraint := .goodsReceiptItems

structure PurchaseReturn where
  purchaseOrderId : ℕ
  storeId : ℕ
  clientTransactionId : String
  returnDate : Date
  deriving DecidableEq

structure PurchaseReturnItem where
  purchaseReturnId : ℕ
  productId : ℕ
  quantity : ℚ
  unitCost : ℚ
  deriving DecidableEq

@[mk_iff] structure PurchaseReturnItem.Checks (i : PurchaseReturnItem) : Prop where
  qty_pos : 0 < i.quantity
  unit_cost_nonneg : 0 ≤ i.unitCost

instance : Table PurchaseReturnItem where
  Checks := PurchaseReturnItem.Checks
  decidableChecks i := decidable_of_iff' _ (PurchaseReturnItem.checks_iff i)
  constraint := .purchaseReturnItems

/-! ### Accounts payable -/

inductive InvoiceStatus
  | draft
  | posted
  | partiallyPaid
  | paid
  | voided
  deriving DecidableEq

structure PurchaseInvoice where
  storeId : ℕ
  supplierId : ℕ
  purchaseOrderId : Option ℕ
  invoiceNumber : String
  invoiceDate : Date
  dueDate : Date
  status : InvoiceStatus
  subtotal : ℚ
  discountTotal : ℚ
  taxTotal : ℚ
  grandTotal : ℚ
  amountPaid : ℚ
  amountCredited : ℚ
  clientTransactionId : String
  postedAt : Option Date
  voidedAt : Option Date
  deriving DecidableEq

@[mk_iff] structure PurchaseInvoice.Checks (i : PurchaseInvoice) : Prop where
  subtotal_nonneg : 0 ≤ i.subtotal
  discount_nonneg : 0 ≤ i.discountTotal
  tax_nonneg : 0 ≤ i.taxTotal
  grand_total_consistent : i.grandTotal = i.subtotal - i.discountTotal + i.taxTotal
  grand_total_nonneg : 0 ≤ i.grandTotal
  amount_paid_nonneg : 0 ≤ i.amountPaid
  amount_credited_nonneg : 0 ≤ i.amountCredited
  settled_le : i.amountPaid + i.amountCredited ≤ i.grandTotal

instance : Table PurchaseInvoice where
  Checks := PurchaseInvoice.Checks
  decidableChecks i := decidable_of_iff' _ (PurchaseInvoice.checks_iff i)
  constraint := .purchaseInvoices

structure PurchaseInvoiceLine where
  purchaseInvoiceId : ℕ
  purchaseOrderItemId : ℕ
  productId : ℕ
  quantityInvoiced : ℚ
  unitPrice : ℚ
  discountAmount : ℚ
  taxAmount : ℚ
  lineTotal : ℚ
  deriving DecidableEq

@[mk_iff] structure PurchaseInvoiceLine.Checks (l : PurchaseInvoiceLine) : Prop where
  qty_pos : 0 < l.quantityInvoiced
  price_nonneg : 0 ≤ l.unitPrice
  discount_nonneg : 0 ≤ l.discountAmount
  tax_nonneg : 0 ≤ l.taxAmount
  line_total_consistent :
    l.lineTotal = numeric 2 (l.quantityInvoiced * l.unitPrice - l.discountAmount + l.taxAmount)

instance : Table PurchaseInvoiceLine where
  Checks := PurchaseInvoiceLine.Checks
  decidableChecks l := decidable_of_iff' _ (PurchaseInvoiceLine.checks_iff l)
  constraint := .purchaseInvoiceLines

structure PurchaseInvoiceReceiptMatch where
  purchaseInvoiceLineId : ℕ
  goodsReceiptItemId : ℕ
  matchedQuantity : ℚ
  matchedUnitCost : ℚ
  varianceAmount : ℚ
  deriving DecidableEq

@[mk_iff] structure PurchaseInvoiceReceiptMatch.Checks (m : PurchaseInvoiceReceiptMatch) :
    Prop where
  qty_pos : 0 < m.matchedQuantity
  unit_cost_nonneg : 0 ≤ m.matchedUnitCost

instance : Table PurchaseInvoiceReceiptMatch where
  Checks := PurchaseInvoiceReceiptMatch.Checks
  decidableChecks m := decidable_of_iff' _ (PurchaseInvoiceReceiptMatch.checks_iff m)
  constraint := .receiptMatches

inductive SupplierPaymentMethod
  | cash
  | bankTransfer
  | cheque
  | other
  deriving DecidableEq

structure SupplierPayment where
  storeId : ℕ
  supplierId : ℕ
  paymentDate : Date
  paymentMethod : SupplierPaymentMethod
  amount : ℚ
  clientTransactionId : String
  deriving DecidableEq

instance : Table SupplierPayment where
  Checks p := 0 < p.amount
  decidableChecks _ := inferInstance
  constraint := .supplierPayments

structure SupplierPaymentAllocation where
  supplierPaymentId : ℕ
  purchaseInvoiceId : ℕ
  amount : ℚ
  deriving DecidableEq

instance : Table SupplierPaymentAllocation where
  Checks a := 0 < a.amount
  decidableChecks _ := inferInstance
  constraint := .supplierPaymentAllocations

structure SupplierPaymentReversal where
  supplierPaymentId : ℕ
  reversedAt : Date
  deriving DecidableEq

inductive CreditNoteReason
  | goodsReturn
  | commercialDiscount
  deriving DecidableEq

structure SupplierCreditNote where
  storeId : ℕ
  supplierId : ℕ
  creditNumber : String
  creditDate : Date
  reason : CreditNoteReason
  purchaseReturnId : Option ℕ
  grandTotal : ℚ
  amountAllocated : ℚ
  clientTransactionId : String
  deriving DecidableEq

@[mk_iff] structure SupplierCreditNote.Checks (n : SupplierCreditNote) : Prop where
  grand_total_pos : 0 < n.grandTotal
  allocated_nonneg : 0 ≤ n.amountAllocated
  allocated_le : n.amountAllocated ≤ n.grandTotal
  reason_matches_return : (n.reason = .goodsReturn ∧ n.purchaseReturnId.isSome) ∨
    (n.reason = .commercialDiscount ∧ n.purchaseReturnId = none)

instance : Table SupplierCreditNote where
  Checks := SupplierCreditNote.Checks
  decidableChecks n := decidable_of_iff' _ (SupplierCreditNote.checks_iff n)
  constraint := .supplierCreditNotes

structure SupplierCreditNoteLine where
  supplierCreditNoteId : ℕ
  description : String
  productId : Option ℕ
  quantity : Option ℚ
  unitCost : Option ℚ
  amount : ℚ
  deriving DecidableEq

@[mk_iff] structure SupplierCreditNoteLine.Checks (l : SupplierCreditNoteLine) : Prop where
  amount_pos : 0 < l.amount
  qty_pos : ∀ q ∈ l.quantity, 0 < q

instance : Table SupplierCreditNoteLine where
  Checks := SupplierCreditNoteLine.Checks
  decidableChecks l := decidable_of_iff' _ (SupplierCreditNoteLine.checks_iff l)
  constraint := .supplierCreditNoteLines

structure SupplierCreditAllocation where
  supplierCreditNoteId : ℕ
  purchaseInvoiceId : ℕ
  amount : ℚ
  deriving DecidableEq

instance : Table SupplierCreditAllocation where
  Checks a := 0 < a.amount
  decidableChecks _ := inferInstance
  constraint := .supplierCreditAllocations

structure SupplierCreditNoteReversal where
  supplierCreditNoteId : ℕ
  reversedAt : Date
  deriving DecidableEq

/-! ### Transfers -/

/-- `InterStoreTransfer.status`; whether all of it has come in is not stored. -/
inductive TransferStatus
  | draft
  | shipped
  | cancelled
  deriving DecidableEq

structure InterStoreTransfer where
  fromStoreId : ℕ
  toStoreId : ℕ
  status : TransferStatus
  shipClientTransactionId : Option String
  /-- The plan that has generated the transfer. -/
  replenishmentPlanId : Option ℕ := none
  deriving DecidableEq

instance : Table InterStoreTransfer where
  Checks t := t.fromStoreId ≠ t.toStoreId
  decidableChecks _ := inferInstance
  constraint := .transfers

structure InterStoreTransferLine where
  transferId : ℕ
  sourceProductId : ℕ
  destinationProductId : ℕ
  requestedQuantity : ℚ
  shippedQuantity : ℚ
  receivedQuantity : ℚ
  damagedQuantity : ℚ
  declaredShortQuantity : ℚ
  writtenOffQuantity : ℚ
  unitCostAtShipment : Option ℚ
  deriving DecidableEq

/-- A transfer line as its columns keep it. -/
def InterStoreTransferLine.stored (l : InterStoreTransferLine) : InterStoreTransferLine :=
  { l with
    shippedQuantity := numeric 3 l.shippedQuantity
    receivedQuantity := numeric 3 l.receivedQuantity
    damagedQuantity := numeric 3 l.damagedQuantity
    declaredShortQuantity := numeric 3 l.declaredShortQuantity
    writtenOffQuantity := numeric 3 l.writtenOffQuantity
    unitCostAtShipment := l.unitCostAtShipment.map (numeric 6) }

/-- The CHECK constraints of `inter_store_transfer_lines`, and the scale of the quantity that is
requested. -/
@[mk_iff] structure InterStoreTransferLine.Checks (l : InterStoreTransferLine) : Prop where
  requested_pos : 0 < l.requestedQuantity
  requested_scale : OnGrid 3 l.requestedQuantity
  shipped_nonneg : 0 ≤ l.stored.shippedQuantity
  shipped_le : l.stored.shippedQuantity ≤ l.requestedQuantity
  received_nonneg : 0 ≤ l.stored.receivedQuantity
  damaged_nonneg : 0 ≤ l.stored.damagedQuantity
  declared_short_nonneg : 0 ≤ l.stored.declaredShortQuantity
  accounted_le : l.stored.receivedQuantity + l.stored.damagedQuantity
    + l.stored.declaredShortQuantity ≤ l.stored.shippedQuantity
  written_off_nonneg : 0 ≤ l.stored.writtenOffQuantity
  written_off_le :
    l.stored.writtenOffQuantity ≤ l.stored.damagedQuantity + l.stored.declaredShortQuantity

instance : Table InterStoreTransferLine where
  Checks := InterStoreTransferLine.Checks
  decidableChecks l := decidable_of_iff' _ (InterStoreTransferLine.checks_iff l)
  constraint := .transferLines

structure InterStoreTransferReceipt where
  transferId : ℕ
  storeId : ℕ
  clientTransactionId : String
  receivedDate : Date
  deriving DecidableEq

structure InterStoreTransferReceiptItem where
  interStoreTransferReceiptId : ℕ
  interStoreTransferLineId : ℕ
  quantityReceived : ℚ
  quantityDamaged : ℚ
  quantityDeclaredShort : ℚ
  deriving DecidableEq

@[mk_iff] structure InterStoreTransferReceiptItem.Checks (i : InterStoreTransferReceiptItem) :
    Prop where
  received_nonneg : 0 ≤ i.quantityReceived
  damaged_nonneg : 0 ≤ i.quantityDamaged
  declared_short_nonneg : 0 ≤ i.quantityDeclaredShort
  total_pos : 0 < i.quantityReceived + i.quantityDamaged + i.quantityDeclaredShort

instance : Table InterStoreTransferReceiptItem where
  Checks := InterStoreTransferReceiptItem.Checks
  decidableChecks i := decidable_of_iff' _ (InterStoreTransferReceiptItem.checks_iff i)
  constraint := .transferReceiptItems

/-! ### Discrepancies and write-offs -/

inductive DiscrepancySource
  | transferReceipt
  | goodsReceipt
  deriving DecidableEq

inductive DiscrepancyType
  | shortage
  | damage
  | both
  deriving DecidableEq

inductive DiscrepancyStatus
  | recorded
  | investigating
  | resolved
  deriving DecidableEq

/-- What an investigation has found: who or what has caused the loss. -/
inductive ResolutionType
  | vendorCaused
  | sourceStoreCaused
  | destinationCaused
  | transitDamage
  | unknown
  deriving DecidableEq

structure ReceivingDiscrepancy where
  sourceType : DiscrepancySource
  sourceId : ℕ
  transferId : Option ℕ
  productId : ℕ
  storeId : ℕ
  counterpartyStoreId : Option ℕ
  discrepancyType : DiscrepancyType
  quantityShort : ℚ
  quantityDamaged : ℚ
  unitCost : ℚ
  status : DiscrepancyStatus
  resolutionType : Option ResolutionType
  deriving DecidableEq

@[mk_iff] structure ReceivingDiscrepancy.Checks (d : ReceivingDiscrepancy) : Prop where
  short_nonneg : 0 ≤ d.quantityShort
  damaged_nonneg : 0 ≤ d.quantityDamaged
  qty_positive : 0 < d.quantityShort + d.quantityDamaged
  resolved_consistency : d.status = .resolved → d.resolutionType ≠ none

instance : Table ReceivingDiscrepancy where
  Checks := ReceivingDiscrepancy.Checks
  decidableChecks d := decidable_of_iff' _ (ReceivingDiscrepancy.checks_iff d)
  constraint := .receivingDiscrepancies

/-- The quantity a discrepancy is about. -/
def ReceivingDiscrepancy.quantity (d : ReceivingDiscrepancy) : ℚ :=
  d.quantityShort + d.quantityDamaged

/-- A rule for the action `TRANSFER_WRITE_OFF`, the only one there is. -/
structure ApprovalPolicyRule where
  scopeStoreId : Option ℕ
  minAmount : ℚ
  maxAmount : Option ℚ
  requiredRoleId : ℕ
  isActive : Bool

inductive WriteOffStatus
  | pendingApproval
  | approved
  | denied
  | posted
  | reversed
  deriving DecidableEq

structure TransferWriteOff where
  transferId : ℕ
  transferLineId : ℕ
  discrepancyId : ℕ
  quantity : ℚ
  unitCost : ℚ
  amount : ℚ
  storeId : ℕ
  initiatedBy : ℕ
  requiredRoleId : ℕ
  matchedRuleId : Option ℕ
  status : WriteOffStatus
  journalEntryId : Option ℕ
  reversalJournalEntryId : Option ℕ
  clientTransactionId : String
  deriving DecidableEq

instance : Table TransferWriteOff where
  Checks w := 0 < w.quantity
  decidableChecks _ := inferInstance
  constraint := .transferWriteOffs

inductive ApprovalDecision
  | approved
  | denied
  deriving DecidableEq

structure WriteOffApproval where
  writeOffId : ℕ
  initiatedBy : ℕ
  approvedBy : ℕ
  decision : ApprovalDecision
  deriving DecidableEq

instance : Table WriteOffApproval where
  Checks a := a.initiatedBy ≠ a.approvedBy
  decidableChecks _ := inferInstance
  constraint := .writeOffApprovals

/-! ### Workforce -/

structure Department where
  name : String
  deriving DecidableEq

structure Position where
  title : String
  departmentId : Option ℕ
  deriving DecidableEq

structure Employee where
  employeeNumber : String
  hireDate : Date
  userId : Option ℕ
  deriving DecidableEq

inductive EmploymentStatus
  | active
  | onLeave
  | suspended
  | terminated
  deriving DecidableEq

/-- What a row of `employment_assignments` says of its employee. -/
structure Assignment where
  storeId : ℕ
  departmentId : Option ℕ
  positionId : Option ℕ
  managerEmployeeId : Option ℕ
  deriving DecidableEq

inductive PayType
  | hourly
  | salary
  deriving DecidableEq

/-- What a row of `compensation_periods` says of its employee. -/
structure Compensation where
  payType : PayType
  rate : ℚ
  overtimeEligible : Bool
  currency : String
  deriving DecidableEq

instance : Table Compensation where
  Checks c := 0 ≤ c.rate
  decidableChecks _ := inferInstance
  constraint := .compensationPeriods

/-- What a row of `overtime_policies` says. -/
structure OvertimePolicy where
  thresholdHoursPerPeriod : ℚ
  multiplier : ℚ
  deriving DecidableEq

@[mk_iff] structure OvertimePolicy.Checks (p : OvertimePolicy) : Prop where
  threshold_positive : 0 < p.thresholdHoursPerPeriod
  multiplier_valid : 1 ≤ p.multiplier

instance : Table OvertimePolicy where
  Checks := OvertimePolicy.Checks
  decidableChecks p := decidable_of_iff' _ (OvertimePolicy.checks_iff p)
  constraint := .overtimePolicies

/-- A row of `employment_status_periods`; its owner is the employee. -/
abbrev EmploymentStatusPeriod := Entry ℕ EmploymentStatus Date

/-- A row of `employment_assignments`; its owner is the employee. -/
abbrev EmploymentAssignment := Entry ℕ Assignment Date

/-- A row of `compensation_periods`; its owner is the employee. -/
abbrev CompensationPeriod := Entry ℕ (Row Compensation) Date

inductive AttendanceSource
  | clock
  | manual
  deriving DecidableEq

inductive AttendanceStatus
  | opened
  | closed
  | voided
  deriving DecidableEq

structure AttendanceRecord where
  employeeId : ℕ
  storeId : ℕ
  workDate : Date
  clockInAt : Instant
  clockOutAt : Option Instant
  source : AttendanceSource
  status : AttendanceStatus
  correctionOfId : Option ℕ
  /-- Null until the row is first updated. -/
  updatedAt : Option Instant
  deriving DecidableEq

instance : Table AttendanceRecord where
  Checks r := ∀ t ∈ r.clockOutAt, r.clockInAt < t
  decidableChecks r := inferInstanceAs (Decidable (∀ _ ∈ r.clockOutAt, _))
  constraint := .attendanceRecords

/-- The columns of `stores` that say on which day a shift is worked. -/
structure StoreClock where
  /-- The wall clock of the store's `timezone`, where the zone is a known one. -/
  timezone : Option (Instant → Instant)
  attendanceDayBoundaryHour : ℤ

/-- The defaults of the columns: UTC, and a day that begins at midnight. -/
def StoreClock.utc : StoreClock := ⟨some id, 0⟩

/-! ### Payroll -/

structure DeductionType where
  /-- Whether the category is `EMPLOYER_CONTRIBUTION`. -/
  isEmployerContribution : Bool
  isActive : Bool
  deriving DecidableEq

/-- A slice of the base and the percentage taken of it; the last may be unbounded. -/
structure Bracket where
  upto : Option ℚ
  percent : ℚ
  deriving DecidableEq

/-- `deduction_rates.calculation_method`, with the parameters it takes. -/
inductive CalculationMethod
  | flatAmount (amount : ℚ)
  | percentOfGross (percent : ℚ)
  | percentOfTaxable (percent : ℚ)
  | bracketed (brackets : List Bracket)
  deriving DecidableEq

/-- A row of `deduction_rates`; its owner is the deduction type. -/
abbrev DeductionRate := Entry ℕ CalculationMethod Date

inductive PayrollPeriodStatus
  | draft
  | opened
  | calculated
  | approved
  | posted
  | cancelled
  deriving DecidableEq

structure PayrollPeriod where
  storeId : ℕ
  periodStart : Date
  periodEnd : Date
  payDate : Date
  status : PayrollPeriodStatus := .draft
  calculationClientTransactionId : Option String := none
  calculatedBy : Option ℕ := none
  calculatedAt : Option Instant := none
  approvedBy : Option ℕ := none
  approvedAt : Option Instant := none
  postingClientTransactionId : Option String := none
  journalEntryId : Option ℕ := none
  postedBy : Option ℕ := none
  totalGross : ℚ := 0
  totalDeductions : ℚ := 0
  totalEmployerContributions : ℚ := 0
  totalNetPay : ℚ := 0
  deriving DecidableEq

@[mk_iff] structure PayrollPeriod.Checks (p : PayrollPeriod) : Prop where
  valid_range : p.periodStart ≤ p.periodEnd
  pay_date_after_period : p.periodEnd ≤ p.payDate
  approval_consistency : p.status = .approved ∨ p.status = .posted →
    p.approvedBy ≠ none ∧ p.approvedAt ≠ none
  posting_consistency : p.status = .posted ↔ p.journalEntryId ≠ none
  calculation_consistency : p.status = .calculated ∨ p.status = .approved ∨ p.status = .posted →
    p.calculatedBy ≠ none ∧ p.calculatedAt ≠ none

instance : Table PayrollPeriod where
  Checks := PayrollPeriod.Checks
  decidableChecks p := decidable_of_iff' _ (PayrollPeriod.checks_iff p)
  constraint := .payrollPeriods

/-- `payroll_earning_lines.earning_type`; a calculation writes these two. -/
inductive EarningType
  | regular
  | overtime
  deriving DecidableEq

structure PayrollEarningLine where
  earningType : EarningType
  hours : Option ℚ
  rate : Option ℚ
  amount : ℚ
  /-- The days the line is for; the source writes them `start..end`. -/
  description : Date × Date
  deriving DecidableEq

@[mk_iff] structure PayrollEarningLine.Checks (l : PayrollEarningLine) : Prop where
  hours_nonneg : ∀ q ∈ l.hours, 0 ≤ q
  amount_nonneg : 0 ≤ l.amount

instance (l : PayrollEarningLine) : Decidable l.Checks :=
  decidable_of_iff' _ (PayrollEarningLine.checks_iff l)

structure PayrollDeductionLine where
  deductionTypeId : ℕ
  isEmployerContribution : Bool
  amount : ℚ
  deriving DecidableEq

inductive ResultStatus
  | draft
  | final
  deriving DecidableEq

/-- A row of `payroll_employee_results` with its lines. -/
structure PayrollEmployeeResult where
  payrollPeriodId : ℕ
  employeeId : ℕ
  status : ResultStatus
  storeId : ℕ
  departmentId : Option ℕ
  positionId : Option ℕ
  payType : PayType
  payRate : ℚ
  currency : String
  regularHours : ℚ
  overtimeHours : ℚ
  grossPay : ℚ
  totalDeductions : ℚ
  totalEmployerContributions : ℚ
  netPay : ℚ
  earningLines : List PayrollEarningLine
  deductionLines : List PayrollDeductionLine
  deriving DecidableEq

/-- The CHECK constraints of the row itself. -/
@[mk_iff] structure PayrollEmployeeResult.HeadChecks (r : PayrollEmployeeResult) : Prop where
  regular_hours_nonneg : 0 ≤ r.regularHours
  overtime_hours_nonneg : 0 ≤ r.overtimeHours
  gross_pay_nonneg : 0 ≤ r.grossPay
  total_deductions_nonneg : 0 ≤ r.totalDeductions
  net_pay_nonneg : 0 ≤ r.netPay
  net_math : r.netPay = r.grossPay - r.totalDeductions

instance (r : PayrollEmployeeResult) : Decidable r.HeadChecks :=
  decidable_of_iff' _ (PayrollEmployeeResult.headChecks_iff r)

/-- The CHECK constraints of the row and of its lines. -/
@[mk_iff] structure PayrollEmployeeResult.Checks (r : PayrollEmployeeResult) : Prop where
  head : r.HeadChecks
  earning_lines : ∀ l ∈ r.earningLines, l.Checks
  deduction_lines_nonneg : ∀ l ∈ r.deductionLines, 0 ≤ l.amount

instance : Table PayrollEmployeeResult where
  Checks := PayrollEmployeeResult.Checks
  decidableChecks r := decidable_of_iff' _ (PayrollEmployeeResult.checks_iff r)
  constraint := .payrollEmployeeResults

structure PayrollReversal where
  payrollPeriodId : ℕ
  reversalJournalEntryId : ℕ
  deriving DecidableEq

/-! ### Replenishment -/

/-- The terms of a supplier for a product, from a date on. -/
structure SupplierProduct where
  supplierId : ℕ
  productId : ℕ
  packSize : ℚ
  unitCost : ℚ
  minimumOrderQuantity : Option ℚ
  effectiveDate : Date
  isActive : Bool
  leadTimeDays : Option ℕ := none

/-- The CHECK constraints of `supplier_products`, the terms of a supplier for a product. -/
@[mk_iff] structure SupplierProduct.Checks (s : SupplierProduct) : Prop where
  pack_size_pos : 0 < s.packSize
  unit_cost_nonneg : 0 ≤ s.unitCost
  moq_pos : ∀ q ∈ s.minimumOrderQuantity, 0 < q

instance : Table SupplierProduct where
  Checks := SupplierProduct.Checks
  decidableChecks s := decidable_of_iff' _ (SupplierProduct.checks_iff s)
  constraint := .supplierProducts

inductive PlanStatus
  | recommended
  | approved
  | executed
  | stale
  | cancelled
  deriving DecidableEq

/-- `source_type` with the one reference it goes with. -/
inductive PlanSource
  | supplier (supplierId : ℕ)
  | transfer (sourceStoreId : ℕ)
  deriving DecidableEq

/-- `URGENCY_LEVELS`: how soon a plan is to be executed. -/
inductive PlanUrgency
  | urgent
  | normal
  deriving DecidableEq

structure ReplenishmentPlan where
  destinationStoreId : ℕ
  productId : ℕ
  neededQuantity : ℚ
  suggestedQuantity : ℚ
  source : PlanSource
  status : PlanStatus
  executionClientTransactionId : Option String
  executedQuantity : Option ℚ
  executedUnitCost : Option ℚ
  generatedPurchaseOrderId : Option ℕ
  generatedTransferId : Option ℕ
  generationBatchId : String := ""
  urgency : PlanUrgency := .normal
  suggestedUnitCost : Option ℚ := none
  deriving DecidableEq

namespace ReplenishmentPlan

/-- An executed plan has the one document of its source, and any other plan has none. -/
def Linked (p : ReplenishmentPlan) : Prop :=
  match p.status, p.source with
  | .executed, .supplier _ => p.generatedPurchaseOrderId ≠ none ∧ p.generatedTransferId = none
  | .executed, .transfer _ => p.generatedTransferId ≠ none ∧ p.generatedPurchaseOrderId = none
  | _, _ => p.generatedPurchaseOrderId = none ∧ p.generatedTransferId = none

instance (p : ReplenishmentPlan) : Decidable p.Linked := by
  unfold Linked
  split <;> infer_instance

/-- The CHECK constraints of `replenishment_plans`, and the scale of what is suggested. -/
@[mk_iff] structure Checks (p : ReplenishmentPlan) : Prop where
  needed_pos : 0 < p.neededQuantity
  suggested_pos : 0 < p.suggestedQuantity
  suggested_scale : OnGrid 3 p.suggestedQuantity
  executed_pos : ∀ q ∈ p.executedQuantity, 0 < q
  source_distinct_from_destination : p.source ≠ .transfer p.destinationStoreId
  link_matches_status : p.Linked

end ReplenishmentPlan

instance : Table ReplenishmentPlan where
  Checks := ReplenishmentPlan.Checks
  decidableChecks p := decidable_of_iff' _ (ReplenishmentPlan.checks_iff p)
  constraint := .replenishmentPlans

/-! ### The tables -/

/-- The master data the services read. -/
structure MasterData where
  stores : List Store
  users : List User := []
  taxRates : List TaxRate := []
  suppliers : List Supplier := []
  roles : List Role := []
  approvalRules : List ApprovalPolicyRule := []

/-- The tables of the products and inventory modules. -/
structure StockTables where
  products : List (Row Product)
  movements : List (Row InventoryMovement) := []
  adjustments : List (Row StockAdjustment) := []
  counts : List StockCount := []
  countLines : List (Row StockCountLine) := []

/-- The tables of the accounting module. -/
structure LedgerTables where
  periods : List AccountingPeriod := []
  entries : List (Row JournalEntry) := []

/-- The tables of the sales module. -/
structure SalesTables where
  sales : List (Row Sale) := []
  items : List (Row SaleItem) := []
  payments : List (Row Payment) := []
  returns : List (Row SaleReturn) := []
  returnItems : List (Row SaleReturnItem) := []

/-- The tables of the shifts module. -/
structure ShiftTables where
  shifts : List (Row CashierShift) := []
  movements : List (Row CashMovement) := []

/-- The tables of the purchasing module. -/
structure PurchasingTables where
  orders : List PurchaseOrder := []
  orderItems : List (Row PurchaseOrderItem) := []
  receipts : List GoodsReceipt := []
  receiptItems : List (Row GoodsReceiptItem) := []
  returns : List PurchaseReturn := []
  returnItems : List (Row PurchaseReturnItem) := []

/-- The tables of the accounts payable module. -/
structure PayableTables where
  invoices : List (Row PurchaseInvoice) := []
  lines : List (Row PurchaseInvoiceLine) := []
  receiptMatches : List (Row PurchaseInvoiceReceiptMatch) := []
  payments : List (Row SupplierPayment) := []
  paymentAllocations : List (Row SupplierPaymentAllocation) := []
  paymentReversals : List SupplierPaymentReversal := []
  creditNotes : List (Row SupplierCreditNote) := []
  creditNoteLines : List (Row SupplierCreditNoteLine) := []
  creditAllocations : List (Row SupplierCreditAllocation) := []
  creditNoteReversals : List SupplierCreditNoteReversal := []

/-- The tables of the transfers module. -/
structure TransferTables where
  transfers : List (Row InterStoreTransfer) := []
  lines : List (Row InterStoreTransferLine) := []
  receipts : List InterStoreTransferReceipt := []
  receiptItems : List (Row InterStoreTransferReceiptItem) := []

/-- The tables of the discrepancies and write-offs modules. -/
structure LossTables where
  discrepancies : List (Row ReceivingDiscrepancy) := []
  writeOffs : List (Row TransferWriteOff) := []
  approvals : List (Row WriteOffApproval) := []

/-- The tables of the hr module. -/
structure HrTables where
  departments : List Department := []
  positions : List Position := []
  employees : List Employee := []
  statuses : History ℕ EmploymentStatus Date := ∅
  assignments : History ℕ Assignment Date := ∅
  compensations : History ℕ (Row Compensation) Date := ∅
  /-- There is one policy for all stores, so the rows have the one owner. -/
  overtimePolicies : History Unit (Row OvertimePolicy) Date := ∅
  attendance : List (Row AttendanceRecord) := []
  storeClocks : ℕ → StoreClock := fun _ => .utc

/-- The tables of the payroll module. -/
structure PayrollTables where
  deductionTypes : List DeductionType := []
  deductionRates : History ℕ CalculationMethod Date := ∅
  periods : List (Row PayrollPeriod) := []
  results : List (Row PayrollEmployeeResult) := []
  reversals : List PayrollReversal := []

/-- The tables of the replenishment module. -/
structure ReplenishmentTables where
  supplierProducts : List (Row SupplierProduct) := []
  plans : List (Row ReplenishmentPlan) := []

/-- The tables of the database, module by module, as the services read and write them. -/
structure Db where
  master : MasterData
  stock : StockTables
  ledger : LedgerTables := {}
  sales : SalesTables := {}
  shifts : ShiftTables := {}
  purchasing : PurchasingTables := {}
  payables : PayableTables := {}
  transfers : TransferTables := {}
  losses : LossTables := {}
  hr : HrTables := {}
  payroll : PayrollTables := {}
  replenishment : ReplenishmentTables := {}

/-! ### Commit -/

@[simp] theorem Product.stored_stored (p : Product) : p.stored.stored = p.stored := by
  simp [Product.stored]

@[simp] theorem PurchaseOrderItem.stored_stored (i : PurchaseOrderItem) :
    i.stored.stored = i.stored := by
  simp [PurchaseOrderItem.stored]

@[simp] theorem InterStoreTransferLine.stored_stored (l : InterStoreTransferLine) :
    l.stored.stored = l.stored := by
  simp [InterStoreTransferLine.stored, Function.comp_def]

theorem Product.Checks.stored {p : Product} (h : p.Checks) : p.stored.Checks where
  price_nonneg := h.price_nonneg
  cost_nonneg := p.stored_stored.symm ▸ h.cost_nonneg
  stock_nonneg_unless_allowed := p.stored_stored.symm ▸ h.stock_nonneg_unless_allowed
  reorder_point_scale := h.reorder_point_scale
  target_stock_scale := h.target_stock_scale

theorem PurchaseOrderItem.Checks.stored {i : PurchaseOrderItem} (h : i.Checks) :
    i.stored.Checks where
  ordered_pos := h.ordered_pos
  ordered_scale := h.ordered_scale
  received_nonneg := i.stored_stored.symm ▸ h.received_nonneg
  invoiced_nonneg := i.stored_stored.symm ▸ h.invoiced_nonneg
  invoiced_le := i.stored_stored.symm ▸ h.invoiced_le
  unit_cost_nonneg := h.unit_cost_nonneg

theorem InterStoreTransferLine.Checks.stored {l : InterStoreTransferLine} (h : l.Checks) :
    l.stored.Checks where
  requested_pos := h.requested_pos
  requested_scale := h.requested_scale
  shipped_nonneg := l.stored_stored.symm ▸ h.shipped_nonneg
  shipped_le := by
    rw [l.stored_stored]
    exact h.shipped_le
  received_nonneg := l.stored_stored.symm ▸ h.received_nonneg
  damaged_nonneg := l.stored_stored.symm ▸ h.damaged_nonneg
  declared_short_nonneg := l.stored_stored.symm ▸ h.declared_short_nonneg
  accounted_le := l.stored_stored.symm ▸ h.accounted_le
  written_off_nonneg := l.stored_stored.symm ▸ h.written_off_nonneg
  written_off_le := l.stored_stored.symm ▸ h.written_off_le

/-- What a commit leaves.  The rows a request adds up in its session (products,
purchase order items, transfer lines) are rounded once, at the end; every other
row is rounded when it is written. -/
def Db.commit (db : Db) : Db :=
  { db with
    stock.products := db.stock.products.map fun p => ⟨p.val.stored, p.property.stored⟩
    purchasing.orderItems :=
      db.purchasing.orderItems.map fun i => ⟨i.val.stored, i.property.stored⟩
    transfers.lines := db.transfers.lines.map fun l => ⟨l.val.stored, l.property.stored⟩ }

theorem commit_commit (db : Db) : db.commit.commit = db.commit := by
  unfold Db.commit
  simp only [List.map_map, Function.comp_def, Product.stored_stored,
    PurchaseOrderItem.stored_stored, InterStoreTransferLine.stored_stored]

/-- Where nothing is ordered or shipped, only the products are rounded. -/
theorem commit_eq_self {db : Db} (hproducts : db.stock.products.map
      (fun p => (⟨p.val.stored, p.property.stored⟩ : Row Product)) = db.stock.products)
    (hitems : db.purchasing.orderItems = []) (hlines : db.transfers.lines = []) :
    db.commit = db := by
  have hitems' : db.purchasing.orderItems.map
      (fun i => (⟨i.val.stored, i.property.stored⟩ : Row PurchaseOrderItem))
        = db.purchasing.orderItems := by
    rw [hitems]
    rfl
  have hlines' : db.transfers.lines.map
      (fun l => (⟨l.val.stored, l.property.stored⟩ : Row InterStoreTransferLine))
        = db.transfers.lines := by
    rw [hlines]
    rfl
  unfold Db.commit
  rw [hproducts, hitems', hlines']

/-- What is committed is in thousandths. -/
theorem onGrid_commit (db : Db) :
    ∀ p ∈ db.commit.stock.products, OnGrid 3 p.val.currentQtyOnHand := by
  intro p hp
  obtain ⟨q, -, rfl⟩ := List.mem_map.mp hp
  exact onGrid_numeric 3 _

/-- What a request wrote is committed, if it succeeds. -/
def committed (result : Result Db) : Option Db := result.toOption.map Db.commit

theorem committed_eq_some {db : Db} {result : Result Db} :
    committed result = some db ↔ ∃ d, result = .ok d ∧ db = d.commit := by
  unfold committed
  simp only [Option.map_eq_some_iff, Outcome.toOption_eq_some, @eq_comm _ _ db]

end GroceryErp
