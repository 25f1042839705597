import Mayatoko.Common.Idempotency
import Mayatoko.Finance.Schema
import Mayatoko.Loyalty.Points

/-!
# The tables of the storefront orders

The rows that the transactions of `OrdersService` read and write, next to the stock, the ledger and
the idempotency receipts. A payment belongs to an order or to a sale. Audit and outbox rows, tax
documents and redeemed promotions are read by no transaction of the orders and left out.
-/

namespace Mayatoko.Orders

open Core Accounting Common
open Stock (OrderStatus)
open Finance (GatePassStatus PaymentStatus)
open Loyalty (ShipmentStatus)
open Procurement (InspectionStatus OperationalConfirmation)

inductive FulfillmentType
  | delivery
  | pickup
  deriving DecidableEq

structure Branch where
  (id companyId : ℕ)
  code : String
  isActive : Bool := true

structure Warehouse where
  (id branchId : ℕ)
  isDefault : Bool := true
  isActive : Bool := true

structure OrderItem extends Stock.OrderItem where
  unitCost : ℚ := 0
  netSubtotal : ℚ := 0
  taxAmount : ℚ := 0
  grossSubtotal : ℚ := 0
  taxCodeId : Option ℕ := none
  deriving DecidableEq

structure Order where
  id : ℕ
  number : String
  (branchId warehouseId : ℕ)
  fulfillmentType : FulfillmentType := .delivery
  status : OrderStatus := .pendingPayment
  subtotal : ℚ := 0
  shippingCost : ℚ := 0
  tax : ℚ := 0
  total : ℚ := 0
  items : List OrderItem := []
  accountingEventId : Option (ℕ × String) := none
  deriving DecidableEq

structure Payment where
  id : ℕ
  number : String
  orderId : Option ℕ := none
  method : String
  provider : Option String := none
  externalRef : Option String := none
  amount : ℚ
  status : PaymentStatus := .pending
  paidAt : Option ℕ := none
  accountingEventId : Option (ℕ × String) := none
  deriving DecidableEq

structure Shipment where
  id : ℕ
  orderId : Option ℕ
  warehouseId : ℕ
  status : ShipmentStatus := .draft
  outboundInspectionId : Option ℕ := none
  gatePassId : Option ℕ := none

structure OperationalInspection where
  (id companyId : ℕ)
  branchId : Option ℕ
  (type sourceType : String)
  sourceId : ℕ
  status : InspectionStatus := .draft
  mismatchCount : ℤ := 0
  blockingFailureCount : ℤ := 0

structure GatePass where
  (id companyId branchId : ℕ)
  direction : String
  status : GatePassStatus := .draft
  sourceType : String
  sourceId : ℕ
  vehicleId : Option ℕ := none
  plateNumber : Option String := none
  inspectionId : Option ℕ := none

structure OrdersDb where
  nextId : ℕ
  stock : Stock.Db
  ledger : AccountingDb
  receipts : Receipts
  branches : Table Branch.id
  warehouses : Table Warehouse.id
  orders : Table Order.id
  payments : Table Payment.id
  shipments : Table Shipment.id
  inspections : Table OperationalInspection.id
  confirmations : Table OperationalConfirmation.id
  gatePasses : Table GatePass.id

abbrev OrdersTx := Tx OrdersDb Failure

namespace OrdersDb

def empty : OrdersDb where
  nextId := 0
  stock := .empty
  ledger := .empty
  receipts := .empty
  branches := .empty
  warehouses := .empty
  orders := .empty
  payments := .empty
  shipments := .empty
  inspections := .empty
  confirmations := .empty
  gatePasses := .empty

def stockPart : Part OrdersDb Stock.Db where
  get := OrdersDb.stock
  set := fun db stock => { db with stock }

def ledgerPart : Part OrdersDb AccountingDb where
  get := OrdersDb.ledger
  set := fun db ledger => { db with ledger }

def receiptPart : Part OrdersDb Receipts where
  get := OrdersDb.receipts
  set := fun db receipts => { db with receipts }

def order : TableOf OrdersDb Order.id := ⟨OrdersDb.orders, fun db t => { db with orders := t }⟩

def payment : TableOf OrdersDb Payment.id :=
  ⟨OrdersDb.payments, fun db t => { db with payments := t }⟩

def shipment : TableOf OrdersDb Shipment.id :=
  ⟨OrdersDb.shipments, fun db t => { db with shipments := t }⟩

def operationalInspection : TableOf OrdersDb OperationalInspection.id :=
  ⟨OrdersDb.inspections, fun db t => { db with inspections := t }⟩

def operationalConfirmation : TableOf OrdersDb OperationalConfirmation.id :=
  ⟨OrdersDb.confirmations, fun db t => { db with confirmations := t }⟩

variable (db : OrdersDb)

@[simp] lemma order_write (r : Order) : order.write db r = { db with orders := db.orders.put r } := rfl

@[simp] lemma payment_write (r : Payment) :
    payment.write db r = { db with payments := db.payments.put r } := rfl

@[simp] lemma shipment_write (r : Shipment) :
    shipment.write db r = { db with shipments := db.shipments.put r } := rfl

def paymentsOf (orderId : ℕ) : List Payment :=
  db.payments.findMany fun p => p.orderId = some orderId

def branchOfWarehouse (warehouseId : ℕ) : Option Branch :=
  (db.warehouses.find? warehouseId).bind fun w => db.branches.find? w.branchId

/-- An instant, as `new Date()` reads it. -/
def now : ℕ := db.stock.now

end OrdersDb

def freshId : OrdersTx ℕ := do
  let db ← get
  set { db with nextId := db.nextId + 1 }
  pure db.nextId

end Mayatoko.Orders
