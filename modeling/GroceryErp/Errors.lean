import GroceryErp.Lib.Outcome

/-!
# Errors

The application errors carry their kind and their `error_code`; the
human-readable messages are left out.  A write that breaks a database constraint
ends the request with an integrity error naming the constraint.

## Main definitions

* `ErrorCode` — the `error_code` values of the modelled services.
* `Constraint` — the constraints of the modelled tables.
* `AppError`, `Result` — what a request fails with, and what it returns.
* `Row` — a row that meets the CHECK constraints of its table.
* `flush` — writing a row.
-/

namespace GroceryErp

/-- The `error_code` of an application error, as the answer names it. -/
inductive ErrorCode
  | storeAccessDenied
  | storeMismatch
  | idempotencyKeyConflict
  | invalidQuantity
  -- accounting
  | emptyJournalEntry
  | invalidStoreFilter
  | periodClosed
  | operationalReversalRequired
  | cannotReverseReversal
  | invalidPeriodRange
  | periodOverlap
  -- inventory
  | insufficientStock
  | emptyStockCountScope
  | invalidStockCountState
  | emptyStockCountPosting
  | stockCountDriftDetected
  -- sales
  | emptyCart
  | noPayment
  | productInactive
  | invalidDiscount
  | productTaxConfigurationInvalid
  | overpaymentNotAllowed
  | insufficientPayment
  | emptyReturn
  | saleNotReturnable
  | excessiveReturnQuantity
  | nothingToVoid
  | approvalRequired
  | invalidApproverCredentials
  | selfApprovalNotAllowed
  | approvalPermissionDenied
  -- purchasing
  | emptyPurchaseOrder
  | invalidUnitCost
  | invalidSupplier
  | invalidProduct
  | invalidPoState
  | emptyReceipt
  | returnExceedsReceivedQuantity
  -- cashier shifts
  | invalidOpeningFloat
  | shiftAlreadyOpen
  | shiftOverrideRequired
  | shiftNotOpen
  | invalidCountedAmount
  -- accounts payable
  | supplierMismatch
  | invalidInvoiceNumber
  | emptyInvoice
  | invalidUnitPrice
  | invalidAmount
  | poItemStoreSupplierMismatch
  | duplicateSupplierInvoiceNumber
  | invalidInvoiceState
  | overInvoicing
  | matchDataInconsistent
  | invoiceHasPayments
  | emptyAllocations
  | duplicateAllocationTarget
  | allocationMustEqualPaymentAmount
  | overpayment
  | alreadyReversed
  | missingPurchaseReturnReference
  | unexpectedPurchaseReturnReference
  | invalidCreditNumber
  | emptyCreditNote
  | allocationMustEqualCreditAmount
  | creditExceedsReturnValue
  | overAllocation
  | duplicateSupplierCreditNumber
  | storeFilterConflict
  -- transfers
  | sameStoreTransfer
  | emptyTransfer
  | destinationProductNotFound
  | invalidTransferState
  | emptyShipment
  | overShipment
  | overReceipt
  -- replenishment
  | invalidPlanState
  | staleRecommendation
  | supplierNoLongerAvailable
  | sourceStoreInsufficientSurplus
  -- discrepancies
  | resolutionNotesRequired
  | invalidDiscrepancyState
  -- write-offs
  | reasonRequired
  | actorRequired
  | unsupportedSourceType
  | discrepancyNotResolved
  | vendorCausedNotEligible
  | noAttributionStore
  | duplicatePendingWriteOff
  | quantityExceedsRemainingDiscrepancy
  | sourceReceiptItemMissing
  | selfApprovalProhibited
  | insufficientApprovalAuthority
  | decisionNotesRequired
  | invalidWriteOffState
  | invalidActionType
  | alreadyDecided
  | reversalReasonRequired
  | reversalRequiresAdmin
  -- workforce
  | invalidDepartment
  | invalidPosition
  | invalidManager
  | duplicateEmployeeNumber
  | noCurrentStatus
  | invalidStatusTransition
  | invalidEffectiveDate
  | noCurrentAssignment
  | invalidCompensationPeriod
  | invalidStoreTimezone
  | employeeNotClockable
  | overlappingAttendance
  | attendanceNotOpen
  | invalidClockOut
  | correctionReasonRequired
  | alreadyCorrected
  -- payroll
  | invalidPayDate
  | duplicatePayrollPeriod
  | invalidPeriodState
  | missingCalculationTimestamp
  | staleCalculation
  | cancellationReasonRequired
  | missingCompensationCoverage
  | duplicateCalculationRequest
  | noCalculatedResults
  | duplicatePostingRequest
  -- authentication
  | unauthorized
  | invalidCredentials
  | cannotDeactivateSelf
  -- reports
  | invalidDateRange
  deriving DecidableEq

/-- A database constraint: the CHECK constraints of a table, or a unique key. -/
inductive Constraint
  | taxRates
  | products
  | inventoryMovements
  | stockAdjustments
  | stockCountLines
  | journalEntries
  | uqJournalEntriesSource
  | sales
  | saleItems
  | payments
  | saleReturns
  | saleReturnItems
  | cashierShifts
  | cashMovements
  | purchaseOrderItems
  | goodsReceiptItems
  | purchaseReturnItems
  | purchaseInvoices
  | purchaseInvoiceLines
  | receiptMatches
  | supplierPayments
  | supplierPaymentAllocations
  | uqSupplierPaymentAllocations
  | uqSupplierPaymentReversals
  | supplierCreditNotes
  | supplierCreditNoteLines
  | supplierCreditAllocations
  | uqSupplierCreditAllocations
  | uqSupplierCreditNoteReversals
  | transfers
  | transferLines
  | transferReceiptItems
  | supplierProducts
  | replenishmentPlans
  | uqReplenishmentPlansGenerated
  | receivingDiscrepancies
  | transferWriteOffs
  | writeOffApprovals
  | approvalPolicyRules
  | fkStores
  | employees
  | employmentStatusPeriods
  | employmentAssignments
  | compensationPeriods
  | overtimePolicies
  | attendanceRecords
  | exclAttendanceRecordsNoOverlap
  | deductionRates
  | payrollPeriods
  | uqPayrollPeriodsStoreRange
  | uqPayrollPeriodsClientTransaction
  | payrollEmployeeResults
  | uqPayrollReversals
  | uqRefreshTokensTokenHash
  | fiscalConfigs
  | fiscalSubmissions
  deriving DecidableEq

/-- What a request fails with: an error of the service, with its code, or one of the database
underneath. -/
inductive AppError
  | validation (code : ErrorCode)
  | conflict (code : ErrorCode)
  | forbidden (code : ErrorCode)
  | unauthorized (code : ErrorCode)
  | notFound
  /-- A row that is missing, with a code of its own. -/
  | notFoundAs (code : ErrorCode)
  /-- A query for at most one row found several. -/
  | multipleRows
  /-- A query for exactly one row found none. -/
  | noRows
  /-- An `assert` of a service failed. -/
  | assertion
  /-- A write broke a database constraint. -/
  | integrity (constraint : Constraint)
  deriving DecidableEq

/-- The result of a service function. -/
abbrev Result (α : Type) := Except AppError α

/-- `scalar_one_or_none`: a query that finds more than one row is an error, which no handler of the
source catches. -/
def scalarOneOrNone {α : Type} : List α → Result (Option α)
  | [] => .ok none
  | [a] => .ok (some a)
  | _ => .error .multipleRows

theorem scalarOneOrNone_eq_none {α : Type} {l : List α} :
    scalarOneOrNone l = .ok none ↔ l = [] := by
  rcases l with _ | ⟨a, _ | ⟨b, l⟩⟩ <;> simp [scalarOneOrNone]

theorem scalarOneOrNone_eq_some {α : Type} {l : List α} {a : α} :
    scalarOneOrNone l = .ok (some a) ↔ l = [a] := by
  rcases l with _ | ⟨b, _ | ⟨c, l⟩⟩ <;> simp [scalarOneOrNone]

/-- A query whose rows are the value of an optional one finds it. -/
theorem scalarOneOrNone_toList {α : Type} (o : Option α) :
    scalarOneOrNone o.toList = .ok o := by
  cases o <;> rfl

/-- `_enforce_store_access`: a caller without a store of its own may act in any. -/
def enforceStoreAccess (callerStoreId : Option ℕ) (targetStoreId : ℕ) : Result Unit :=
  Outcome.raiseIf (callerStoreId ≠ none ∧ callerStoreId ≠ some targetStoreId)
    (.forbidden .storeAccessDenied)

/-! ### Constraints of the database -/

/-- The rows of a table: what its CHECK constraints ask of a row, and the name a
violation is reported under. -/
class Table (α : Type) where
  /-- The CHECK constraints of the table, on one row. -/
  Checks : α → Prop
  decidableChecks : DecidablePred Checks
  /-- The name of the table. -/
  constraint : Constraint

instance {α : Type} [Table α] (a : α) : Decidable (Table.Checks a) := Table.decidableChecks a

/-- A row that meets the CHECK constraints of its table. -/
abbrev Row (α : Type) [Table α] := {a : α // Table.Checks a}

/-- Write a row: the database takes it when it meets the CHECK constraints. -/
def flush {α : Type} [Table α] (a : α) : Result (Row α) :=
  if h : Table.Checks a then .ok ⟨a, h⟩ else .error (.integrity (Table.constraint α))

/-- A written row is the row that was to be written. -/
theorem flush_eq_ok {α : Type} [Table α] {a : α} {r : Row α} : flush a = .ok r ↔ r.val = a := by
  unfold flush
  split
  · next h =>
    rw [Except.ok.injEq, Subtype.ext_iff]
    exact eq_comm
  · next h =>
    simp only [reduceCtorEq, false_iff]
    rintro rfl
    exact h r.property

theorem flush_eq_error {α : Type} [Table α] {a : α} {e : AppError} :
    flush a = .error e ↔ ¬Table.Checks a ∧ e = .integrity (Table.constraint α) := by
  unfold flush
  split <;> simp [*, eq_comm]

/-- A row is taken exactly when it meets the CHECK constraints. -/
theorem exists_flush_eq_ok {α : Type} [Table α] {a : α} :
    (∃ r, flush a = .ok r) ↔ Table.Checks a := by
  constructor
  · rintro ⟨r, hr⟩
    exact flush_eq_ok.mp hr ▸ r.property
  · intro h
    exact ⟨⟨a, h⟩, flush_eq_ok.mpr rfl⟩

/-- A write whose `IntegrityError` the service turns into an error of its own. -/
def onIntegrityError {α : Type} (x : Result α) (e : AppError) : Result α :=
  match x with
  | .error (.integrity _) => .error e
  | r => r

theorem onIntegrityError_eq_ok {α : Type} {x : Result α} {e : AppError} {a : α} :
    onIntegrityError x e = .ok a ↔ x = .ok a := by
  unfold onIntegrityError
  split <;> simp

/-- A write that breaks nothing but constraints fails with the service's error alone. -/
theorem onIntegrityError_eq_error {α : Type} {x : Result α} {e e' : AppError}
    (hx : ∀ e₀, x = .error e₀ → ∃ c, e₀ = .integrity c) (h : onIntegrityError x e = .error e') :
    e' = e := by
  cases x with
  | ok a => cases h
  | error e₀ =>
    obtain ⟨c, rfl⟩ := hx e₀ rfl
    exact (Except.error.inj h).symm

/-- A unique key that is already taken, which the database refuses at the flush. -/
def checkUnique (taken : Prop) [Decidable taken] (name : Constraint) : Result Unit :=
  Outcome.raiseIf taken (.integrity name)

@[simp] theorem checkUnique_eq_ok {taken : Prop} [Decidable taken] {name : Constraint}
    {u : Unit} : checkUnique taken name = .ok u ↔ ¬taken := by
  simp [checkUnique]

end GroceryErp
