import Mayatoko.Accounting.SeparateRules
import Mayatoko.Analytics.SummarizedDays
import Mayatoko.Attendance.CheckTimes
import Mayatoko.Attendance.PayrollLock
import Mayatoko.Attendance.Summaries
import Mayatoko.Audit.DenialsRecorded
import Mayatoko.Auth.RecoveryCodes
import Mayatoko.Banking.ImportedOnce
import Mayatoko.Catalog.CoherentLines
import Mayatoko.Catalog.PricePriority
import Mayatoko.Common.ScopeNumbers
import Mayatoko.Control.GatePasses
import Mayatoko.Control.InspectionFinality
import Mayatoko.Control.ReturnAgreement
import Mayatoko.Control.ScanTotals
import Mayatoko.Edge.DeviceAuth
import Mayatoko.Edge.SyncPull
import Mayatoko.Extensions.AutoMatching
import Mayatoko.Extensions.ClosedPeriods
import Mayatoko.Extensions.StatementBalances
import Mayatoko.Finance.Payable
import Mayatoko.Finance.PayrollLiability
import Mayatoko.Finance.Receivable
import Mayatoko.Fleet.BookValue
import Mayatoko.Fleet.Deliveries
import Mayatoko.Hr.LeaveQuota
import Mayatoko.Idempotency.Callers
import Mayatoko.Listing.Pagination
import Mayatoko.Loyalty.Expiry
import Mayatoko.Loyalty.Revocations
import Mayatoko.Loyalty.Tiers
import Mayatoko.Offline.OneIntake
import Mayatoko.Offline.PosQueue
import Mayatoko.MasterData.Categories
import Mayatoko.Orders.ScannedSerials
import Mayatoko.Payments.CanonicalText
import Mayatoko.Payroll.FormulaValue
import Mayatoko.Payroll.SplitTax
import Mayatoko.Promotions.Discount
import Mayatoko.Reports.LedgerExport
import Mayatoko.Reports.ReportJobs
import Mayatoko.Reports.Xlsx
import Mayatoko.Returns.PartialReturns
import Mayatoko.Returns.SaleReturnLimit
import Mayatoko.Sales.Discounts
import Mayatoko.Stock.BatchAgreement
import Mayatoko.Stock.NegativeAdjustment
import Mayatoko.Stock.OpnameOnce
import Mayatoko.Stock.ReleaseUndoes
import Mayatoko.Stock.TransferValue
import Mayatoko.Storefront.Addresses
import Mayatoko.Storefront.GuessLimit
import Mayatoko.Worker.JobsOnce
import Mayatoko.Worker.LowStock
import Mayatoko.Worker.OutboxOnce
import Mayatoko.Worker.WebhookAttempts
import Mayatoko.Worker.WebhookTargets
