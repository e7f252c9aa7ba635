import GroceryErp.Lib.Rounding
import GroceryErp.Lib.Outcome
import GroceryErp.Lib.Rows
import GroceryErp.Lib.Grouping
import GroceryErp.Lib.Ledger
import GroceryErp.Lib.Runs
import GroceryErp.Lib.Sessions
import GroceryErp.Lib.Transactions
import GroceryErp.Errors
import GroceryErp.Schema
import GroceryErp.Accounting.Journal
import GroceryErp.Accounting.Periods
import GroceryErp.Accounting.Postings
import GroceryErp.Inventory.Movement
import GroceryErp.Inventory.Bookings
import GroceryErp.Inventory.Reconciliation
import GroceryErp.Inventory.Adjustments
import GroceryErp.Inventory.Counts
import GroceryErp.Purchasing.Orders
import GroceryErp.Purchasing.Receiving
import GroceryErp.Purchasing.Lifecycle
import GroceryErp.Purchasing.Returning
import GroceryErp.Losses.Discrepancies
import GroceryErp.Losses.WriteOffs
import GroceryErp.Losses.Authority
import GroceryErp.Transfers.Transfers
import GroceryErp.Transfers.Requests
import GroceryErp.Transfers.Shipments
import GroceryErp.Transfers.InTransit
import GroceryErp.Losses.Decisions
import GroceryErp.Losses.Eligibility
import GroceryErp.Sales.Finalize
import GroceryErp.Sales.Returns
import GroceryErp.Sales.Totals
import GroceryErp.Sales.Splits
import GroceryErp.Sales.ReturnRows
import GroceryErp.Sales.Refunds
import GroceryErp.Payables.Invoices
import GroceryErp.Payables.InvoiceSteps
import GroceryErp.Payables.InvoiceRuns
import GroceryErp.Payables.Settlement
import GroceryErp.Payables.CreditNotes
import GroceryErp.System.Placement
import GroceryErp.System.StockSteps
import GroceryErp.System.StockRuns
import GroceryErp.System.StockSessions
import GroceryErp.System.SaleReplays
import GroceryErp.System.StockLedger
import GroceryErp.Lib.Readings
import GroceryErp.Lib.Effective
import GroceryErp.Hr.Employment
import GroceryErp.Hr.Attendance
import GroceryErp.Accounting.PayrollPostings
import GroceryErp.Payroll.Calculation
import GroceryErp.Payroll.Periods
import GroceryErp.Payroll.Requests
import GroceryErp.Lib.Thresholds
import GroceryErp.Payroll.Overtime
import GroceryErp.Payroll.DecimalHours
import GroceryErp.Payroll.NetPay
import GroceryErp.Payroll.Lifecycle
import GroceryErp.Payroll.Reconciliation
import GroceryErp.Payroll.Traces
import GroceryErp.Payroll.Hours
import GroceryErp.Payroll.Salaries
import GroceryErp.Payroll.Staleness
import GroceryErp.Payables.Settled
import GroceryErp.Accounting.Compensations
import GroceryErp.Payables.InvoiceEntries
import GroceryErp.Payables.Compensations
import GroceryErp.Losses.Compensations
import GroceryErp.Payroll.Compensations
import GroceryErp.System.Asides
import GroceryErp.System.Compensations
import GroceryErp.Accounting.Reports
import GroceryErp.Accounting.ChartRows
import GroceryErp.Hr.Histories
import GroceryErp.Hr.ClockIns
import GroceryErp.System.Remainders
import GroceryErp.System.Frames
import GroceryErp.Losses.Places
import GroceryErp.System.WriteOffApprovals
import GroceryErp.Replenishment.Positions
import GroceryErp.System.CountPostings
import GroceryErp.System.CountTraces
import GroceryErp.System.ReturnLimits
import GroceryErp.Shifts.ClosingRuns
import GroceryErp.Shifts.Stores
import GroceryErp.Replenishment.Plans
import GroceryErp.Replenishment.Drafts
import GroceryErp.Replenishment.ExecutionRuns
import GroceryErp.Replenishment.ExecutionBounds
import GroceryErp.Replenishment.Generation
import GroceryErp.Sales.LineChecks
import GroceryErp.Auth.Reuse
import GroceryErp.Fiscal.Submissions
import GroceryErp.Sales.Replays
import GroceryErp.Sales.Voids
import GroceryErp.System.AverageCosts
import GroceryErp.System.OversoldCounts
import GroceryErp.System.ReturnReplays
import GroceryErp.System.ReportRuns
import GroceryErp.Sales.Approvals
import GroceryErp.System.ReturnApprovals
import GroceryErp.Transfers.InTransitReport
import GroceryErp.Sales.SalesSummary
import GroceryErp.Sales.Breakdowns
import GroceryErp.Sales.Reconciliation
import GroceryErp.Sales.Contributions
import GroceryErp.Replenishment.GenerationRuns
import GroceryErp.Replenishment.SupplierOrders
import GroceryErp.Payroll.Brackets
import GroceryErp.Auth.RateLimits
import GroceryErp.Auth.Administrators
import GroceryErp.System.Checkouts
import GroceryErp.System.PayablesAgreement
import GroceryErp.System.Documented
import GroceryErp.System.StoreIsolation
import GroceryErp.Auth.BrowserSessions
