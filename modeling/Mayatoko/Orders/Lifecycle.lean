import Mayatoko.Orders.Schema

/-!
# The life of a storefront order

The transactions of `OrdersService` that create an order, take or confirm its payment, release it to
fulfilment, pack, ship, deliver and cancel it. Each is one serializable transaction. The lookups of
courier, customer, address, price, tax and promotion that `create` makes come before its writes and
enter as the priced items; document numbers enter as drawn. The points that a delivery earns are those
of `Loyalty.deliver`.
-/

namespace Mayatoko.Orders

open Core Accounting Common OrdersDb
open Stock (OrderStatus Counts)
open Finance (PaymentStatus)
open Transit (TenantScope)

/-- The settings of the server: whether `MOCK_QRIS` is allowed, and the token that the secret of the
server makes for id, number and branch of an order. -/
structure OrdersConfig where
  allowMock : Bool
  accessToken : ℕ → String → ℕ → String

/-! ### Lookups -/

def orderNotFound : Failure := .notFound "Pesanan tidak ditemukan."

def orderNotInBranch : Failure := .notFound "Pesanan tidak ditemukan pada branch pengguna."

def findOrder (scope : TenantScope) (id : ℕ) : OrdersTx Order := do
  let db ← get
  orThrow ((db.orders.find? id).filter fun o => o.branchId = scope.branchId &&
    (db.branches.find? o.branchId).any fun b => b.companyId = scope.companyId) orderNotInBranch

/-- The first payment of an order. -/
def firstPayment (order : Order) (e : Failure) : OrdersTx Payment := do
  let db ← get
  orThrow (db.paymentsOf order.id).head? e

def Order.stockOrder (order : Order) : Stock.Order where
  id := order.id
  warehouseId := order.warehouseId
  status := order.status
  items := order.items.map OrderItem.toOrderItem

def Order.lines (order : Order) : List (ℕ × ℕ) :=
  (Stock.quantitiesByProduct (order.items.map OrderItem.toOrderItem)).rows

def isElectronic (method : String) : Bool := method ∈ ["QRIS", "TRANSFER", "CARD"]

/-! ### Creation -/

structure PricedItem where
  item : OrderItem
  quantityText : String := ""

structure CreateOrder where
  branchCode : String
  warehouseId : Option ℕ := none
  customerId : Option ℕ := none
  idempotencyKey : Option String := none
  requestHash : String := ""
  fulfillmentType : FulfillmentType := .delivery
  shippingCost : ℚ := 0
  items : List PricedItem
  (number paymentNumber : String)

def findStoreWarehouse (branchId : ℕ) (warehouseId : Option ℕ) : OrdersTx Warehouse := do
  let db ← get
  let active (w : Warehouse) : Bool := w.branchId = branchId && w.isActive
  orThrow (match warehouseId with
    | some id => (db.warehouses.find? id).filter active
    | none => (db.warehouses.findMany fun w => active w && w.isDefault).head?.or
        (db.warehouses.findMany active).head?)
    (.notFound "Gudang storefront belum tersedia pada cabang ini.")

def checkAvailable (warehouseId : ℕ) (input : PricedItem) : OrdersTx Unit := do
  let db ← get
  let product ← orThrow (db.stock.products.find? input.item.productId)
    (.badRequest "Produk tidak ditemukan.")
  let enough := (db.stock.inventory.find? (warehouseId, input.item.productId)).any
    fun i => (input.item.quantity : ℤ) ≤ i.available
  require (enough = true ∨ product.allowNegativeStock = true) (.badRequest
    s!"Stok {product.name} tidak mencukupi untuk {input.quantityText}.")

def CreateOrder.row (dto : CreateOrder) (id branchId warehouseId : ℕ) : Order where
  id := id
  number := dto.number
  branchId := branchId
  warehouseId := warehouseId
  fulfillmentType := dto.fulfillmentType
  subtotal := (dto.items.map fun i => i.item.netSubtotal).sum
  shippingCost := dto.shippingCost
  tax := (dto.items.map fun i => i.item.taxAmount).sum
  total := (dto.items.map fun i => i.item.grossSubtotal).sum + dto.shippingCost
  items := dto.items.map PricedItem.item

def placeOrder (branch : Branch) (dto : CreateOrder) : OrdersTx ℕ := do
  let warehouse ← findStoreWarehouse branch.id dto.warehouseId
  dto.items.forM (checkAvailable warehouse.id)
  let id ← freshId
  let row := dto.row id branch.id warehouse.id
  let db ← get
  require (db.orders.findMany (fun o => o.number = dto.number) = []) .uniqueViolation
  order.create row .uniqueViolation
  row.lines.forM fun line => stockPart.lift (Stock.reserveOrderProduct id warehouse.id line)
  let paymentId ← freshId
  let after ← get
  require (after.payments.findMany (fun p => p.number = dto.paymentNumber) = []) .uniqueViolation
  payment.create { id := paymentId, number := dto.paymentNumber, orderId := some id,
                   method := "UNSELECTED", amount := row.total } .uniqueViolation
  pure id

def CreateOrder.receipt (dto : CreateOrder) (branch : Branch) : Option ReceiptOptions :=
  let customer := dto.customerId.elim "guest" toString
  dto.idempotencyKey.map fun key =>
    { companyId := branch.companyId, scope := s!"order:create:{branch.id}:{customer}", key,
      requestHash := dto.requestHash }

/-- Returns the id of the order. -/
def create (dto : CreateOrder) : OrdersTx (Option ℕ) := do
  require (dto.items ≠ []) (.badRequest "Pesanan harus memiliki barang.")
  let db ← get
  let branch ← orThrow ((db.branches.rows.find? fun b => b.code = dto.branchCode).filter
    Branch.isActive) (.notFound "Cabang storefront tidak ditemukan.")
  match dto.receipt branch with
  | none => do
    let id ← placeOrder branch dto
    pure (some id)
  | some opts => do
    match ← receiptPart.lift (beginIdempotent opts db.now) with
    | .completed response => pure response
    | .proceed => do
      let id ← placeOrder branch dto
      receiptPart.lift (completeIdempotent opts id)
      pure (some id)

/-! ### Release to fulfilment -/

def findShipment (orderId warehouseId : ℕ) : OrdersTx (Option Shipment) := do
  let db ← get
  pure (db.shipments.findMany fun s =>
    s.orderId = some orderId && s.warehouseId = warehouseId).head?

/-- The shipment of an order, created where there is none. -/
def ensureShipment (order : Order) : OrdersTx Shipment := do
  let db ← get
  match (db.shipments.findMany fun s => s.orderId = some order.id).head? with
  | some s => pure s
  | none => do
    let id ← freshId
    let row : Shipment := { id, orderId := some order.id, warehouseId := order.warehouseId }
    shipment.create row .uniqueViolation
    pure row

/-- The outbound inspection of a shipment, created where there is none. -/
def ensureInspection (companyId branchId : ℕ) (s : Shipment) : OrdersTx Unit := do
  let db ← get
  let ofTenant (i : OperationalInspection) : Bool :=
    i.companyId = companyId && i.branchId = some branchId
  let found := match s.outboundInspectionId with
    | some id => (db.inspections.find? id).filter ofTenant
    | none => (db.inspections.findMany fun i => ofTenant i && i.sourceType = "Shipment" &&
        i.sourceId = s.id && i.type = "ORDER_OUTBOUND").head?
  let inspectionId ← (match found with
    | some i => pure i.id
    | none => do
      let id ← freshId
      operationalInspection.create
        { id, companyId, branchId := some branchId, type := "ORDER_OUTBOUND",
          sourceType := "Shipment", sourceId := s.id, status := .inProgress } .uniqueViolation
      pure id : OrdersTx ℕ)
  if s.outboundInspectionId ≠ some inspectionId then do
    let _ ← shipment.update s.id (fun s => { s with outboundInspectionId := some inspectionId })
      .recordNotFound
  else pure ()

def outboundConfirmation : String := "OUTBOUND_PICK_PACK_CONFIRMATION"

def ensureConfirmation (companyId branchId shipmentId : ℕ) : OrdersTx Unit := do
  let db ← get
  if db.confirmations.findMany (fun c => c.companyId = companyId && c.branchId = some branchId &&
      c.sourceType = "Shipment" && c.sourceId = shipmentId &&
      c.confirmationType = outboundConfirmation) = [] then do
    let id ← freshId
    operationalConfirmation.create
      { id, companyId, branchId := some branchId, sourceType := "Shipment",
        sourceId := shipmentId, confirmationType := outboundConfirmation } .uniqueViolation
  else pure ()

def ensureOutboundWorkflow (orderId : ℕ) : OrdersTx Unit := do
  let db ← get
  let order ← orThrow (db.orders.find? orderId) orderNotFound
  let branch ← orThrow (db.branchOfWarehouse order.warehouseId) .recordNotFound
  let s ← ensureShipment order
  ensureInspection branch.companyId order.branchId s
  ensureConfirmation branch.companyId order.branchId s.id

/-! ### Payment -/

def prepaymentEvent (companyId : ℕ) (order : Order) (payment : Payment) :
    PostOperationalEventInput where
  companyId := companyId
  branchId := order.branchId
  eventType := "ONLINE_ORDER_PREPAYMENT"
  sourceType := "Payment"
  sourceId := toString payment.id
  idempotencyKey := s!"order-prepayment:{order.id}"
  amounts := [("gross", order.total), ("settlement", order.total), ("customerAdvance", order.total)]
  accountCodes := [("settlement", "1102"), ("customerAdvance", "2105")]

def ensurePrepayment (input : PostOperationalEventInput) : AccountingTx AccountingEvent := do
  let db ← get
  match db.events.find? input.key with
  | some existing => pure existing
  | none => postOperationalEvent input

def postPrepayment (order : Order) (payment : Payment) (paymentMethod : String)
    (provider externalRef : Option String) : OrdersTx Unit := do
  let db ← get
  let branch ← orThrow (db.branchOfWarehouse order.warehouseId) .recordNotFound
  let event ← ledgerPart.lift (ensurePrepayment (prepaymentEvent branch.companyId order payment))
  let _ ← OrdersDb.payment.update payment.id
    (fun p => { p with method := paymentMethod, provider, externalRef, status := .paid,
                       paidAt := some db.now, accountingEventId := some event.key }) .recordNotFound
  let _ ← OrdersDb.order.update order.id (fun o => { o with status := .paid }) .recordNotFound
  ensureOutboundWorkflow order.id

def applyMethod (cfg : OrdersConfig) (order : Order) (payment : Payment) (method : String) :
    OrdersTx Unit :=
  if method = "MOCK_QRIS" then do
    require (cfg.allowMock = true) (.badRequest
      ("MOCK_QRIS dinonaktifkan pada production. Gunakan callback/konfirmasi provider " ++
        "pembayaran."))
    postPrepayment order payment method (some "mock") (some s!"mock:{order.id}")
  else if method = "COD" then do
    let _ ← OrdersDb.payment.update payment.id (fun p => { p with
      method, status := .pending, paidAt := none, accountingEventId := none }) .recordNotFound
    let _ ← OrdersDb.order.update order.id (fun o => { o with status := .processing })
      .recordNotFound
    ensureOutboundWorkflow order.id
  else if method = "INVOICE" then do
    -- the goods are only released by `authorizeInvoice`
    let _ ← OrdersDb.payment.update payment.id (fun p => { p with
      method, status := .pending, paidAt := none, accountingEventId := none }) .recordNotFound
  else if isElectronic method then do
    -- choosing an electronic method is no proof of payment
    let _ ← OrdersDb.payment.update payment.id (fun p => { p with
      method, status := .pending, paidAt := none }) .recordNotFound
  else throw (.badRequest "Metode pembayaran storefront tidak didukung.")

def selectPayment (cfg : OrdersConfig) (number : String) (paymentMethod : Option String)
    (branchCode : String) (accessToken : Option String) : OrdersTx Unit := do
  let db ← get
  let order ← orThrow (db.orders.rows.find? fun o => o.number = number) orderNotFound
  require ((db.branchOfWarehouse order.warehouseId).any (fun b => b.code.toUpper = branchCode) =
      true ∧ accessToken = some (cfg.accessToken order.id order.number order.branchId))
    orderNotFound
  let payment ← firstPayment order (.badRequest "Data pembayaran pesanan tidak ditemukan.")
  let method := (paymentMethod.getD "MOCK_QRIS").toUpper
  if order.status ≠ .pendingPayment then
    require (payment.method = method ∧
        order.status ∈ [.paid, .processing, .packed, .shipped, .completed])
      (.badRequest s!"Pesanan berstatus {order.status.text}.")
  else applyMethod cfg order payment method

def OrdersDb.duplicateRef (db : OrdersDb) (externalRef : String) (paymentId : ℕ) : Option Payment :=
  (db.payments.findMany fun p =>
    p.externalRef = some externalRef && p.id ≠ paymentId && p.status = .paid).head?

def duplicateRefFailure : Failure :=
  .badRequest "Referensi pembayaran provider sudah pernah dipakai."

structure ConfirmOrderPayment where
  paymentMethod : Option String := none
  provider : Option String := none
  externalRef : String

def confirmPayment (scope : TenantScope) (id : ℕ) (dto : ConfirmOrderPayment) :
    OrdersTx Unit := do
  let order ← findOrder scope id
  let payment ← firstPayment order (.badRequest "Data pembayaran pesanan tidak ditemukan.")
  if payment.status = .paid then pure () else do
    require (order.status = .pendingPayment)
      (.badRequest s!"Pesanan berstatus {order.status.text}.")
    let method := (dto.paymentMethod.getD payment.method).toUpper
    require (isElectronic method = true)
      (.badRequest "Konfirmasi provider hanya untuk QRIS, TRANSFER, atau CARD.")
    require (dto.externalRef ≠ "") (.badRequest "Referensi pembayaran provider wajib diisi.")
    let db ← get
    refuse (db.duplicateRef dto.externalRef payment.id) fun _ => duplicateRefFailure
    postPrepayment order payment method
      (some ((dto.provider.filter (· ≠ "")).getD "manual-confirmation")) (some dto.externalRef)

inductive CallbackStatus
  | paid
  | failed
  | cancelled
  deriving DecidableEq

def CallbackStatus.payment : CallbackStatus → PaymentStatus
  | paid => .paid
  | failed => .failed
  | cancelled => .cancelled

structure ProviderPayment where
  companyId : ℕ
  branchId : Option ℕ := none
  provider : String
  paymentNumber : Option String := none
  orderNumber : Option String := none
  externalRef : String
  amount : ℚ
  status : CallbackStatus

def ProviderPayment.isAbout (input : ProviderPayment) (db : OrdersDb) (p : Payment) (o : Order) :
    Bool :=
  input.paymentNumber.all (p.number = ·) && input.orderNumber.all (o.number = ·) &&
    (db.branches.find? o.branchId).any (fun b => b.companyId = input.companyId) &&
    input.branchId.all (o.branchId = ·)

def Payment.orderIn (p : Payment) (db : OrdersDb) : Option Order :=
  p.orderId.bind fun id => db.orders.find? id

def OrdersDb.providerPayment (db : OrdersDb) (input : ProviderPayment) : Option (Payment × Order) :=
  db.payments.rows.findSome? fun p =>
    ((p.orderIn db).filter (input.isAbout db p)).map fun o => (p, o)

def PaymentStatus.text : PaymentStatus → String
  | .pending => "PENDING"
  | .paid => "PAID"
  | .failed => "FAILED"
  | .cancelled => "CANCELLED"
  | .refunded => "REFUNDED"

def acceptPaid (input : ProviderPayment) (payment : Payment) (order : Order) : OrdersTx Unit := do
  let db ← get
  refuse (db.duplicateRef input.externalRef payment.id) fun _ => duplicateRefFailure
  require (order.status = .pendingPayment)
    (.badRequest s!"Pesanan berstatus {order.status.text}; callback PAID ditolak.")
  postPrepayment order payment payment.method.toUpper (some input.provider) (some input.externalRef)

/-- Returns the payment and the order that the callback was about. -/
def confirmProviderPayment (input : ProviderPayment) : OrdersTx (Payment × Order) := do
  -- an empty number counts as none
  let input := { input with
    paymentNumber := input.paymentNumber.filter (· ≠ "")
    orderNumber := input.orderNumber.filter (· ≠ "") }
  require (input.paymentNumber.isSome ∨ input.orderNumber.isSome) (.badRequest
    "Callback provider wajib menyertakan paymentNumber atau orderNumber.")
  let db ← get
  let (payment, order) ← orThrow (db.providerPayment input)
    (.notFound "Pembayaran/order callback tidak ditemukan pada scope integrasi.")
  require (isElectronic payment.method.toUpper = true)
    (.badRequest s!"Payment {payment.number} bukan pembayaran elektronik provider.")
  require (payment.amount = input.amount) (.badRequest
    (s!"Nominal callback {toFixed2 input.amount} tidak sama dengan payment " ++
      s!"{toFixed2 payment.amount}."))
  if payment.status = .paid then do
    require (input.status = .paid ∧ payment.externalRef = some input.externalRef ∧
        payment.provider = some input.provider)
      (.badRequest "Payment sudah PAID dengan referensi/provider berbeda.")
    pure (payment, order)
  else do
    require (payment.status = .pending ∨ input.status ≠ .paid) (.badRequest
      s!"Payment berstatus {PaymentStatus.text payment.status}; callback PAID ditolak.")
    if input.status ≠ .paid then do
      let updated ← OrdersDb.payment.update payment.id (fun p => { p with
        status := input.status.payment, provider := some input.provider,
        externalRef := some input.externalRef }) .recordNotFound
      pure (updated, order)
    else do
      acceptPaid input payment order
      let after ← get
      let updatedPayment ← orThrow (after.payments.find? payment.id) .recordNotFound
      let updatedOrder ← orThrow (after.orders.find? order.id) .recordNotFound
      pure (updatedPayment, updatedOrder)

def authorizeInvoice (scope : TenantScope) (id : ℕ) : OrdersTx Unit := do
  let order ← findOrder scope id
  if order.status = .processing then pure () else do
    require (order.status = .pendingPayment)
      (.badRequest s!"Pesanan tidak dapat diberi termin dari status {order.status.text}.")
    let payment ← firstPayment order
      (.badRequest "Pesanan tidak sedang meminta metode INVOICE.")
    require (payment.method = "INVOICE" ∧ payment.status = .pending)
      (.badRequest "Pesanan tidak sedang meminta metode INVOICE.")
    let _ ← OrdersDb.order.update order.id (fun o => { o with status := .processing })
      .recordNotFound
    ensureOutboundWorkflow order.id

def ofShipment (scope : TenantScope) (shipmentId companyId : ℕ) (branchId : Option ℕ)
    (sourceType : String) (sourceId : ℕ) : Bool :=
  companyId = scope.companyId && branchId = some scope.branchId && sourceType = "Shipment" &&
    sourceId = shipmentId

def approved (c : Procurement.OperationalConfirmation) : Procurement.OperationalConfirmation :=
  { c with status := .approved }

def pack (scope : TenantScope) (id : ℕ) : OrdersTx Unit := do
  let order ← findOrder scope id
  if order.status = .packed then pure () else do
    require (order.status = .paid ∨ order.status = .processing)
      (.badRequest s!"Pesanan tidak dapat dipacking dari status {order.status.text}.")
    let found ← findShipment order.id order.warehouseId
    let s ← orThrow found (.badRequest "Shipment/inspeksi outbound belum tersedia.")
    let inspectionId ← orThrow s.outboundInspectionId
      (.badRequest "Shipment/inspeksi outbound belum tersedia.")
    let db ← get
    let e := Failure.badRequest
      "Inspeksi outbound harus APPROVED tanpa mismatch/failure sebelum packing."
    let inspection ← orThrow ((db.inspections.find? inspectionId).filter fun i =>
      i.companyId = scope.companyId && i.branchId = some scope.branchId) e
    require (inspection.status = .approved ∧ inspection.mismatchCount = 0 ∧
      inspection.blockingFailureCount = 0) e
    let _ ← shipment.update s.id (fun s => { s with status := .ready }) .recordNotFound
    let _ ← operationalConfirmation.updateMany
      (fun c => ofShipment scope s.id c.companyId c.branchId c.sourceType c.sourceId &&
        c.confirmationType = outboundConfirmation && c.status = .pending) approved
    let _ ← OrdersDb.order.update order.id (fun o => { o with status := .packed }) .recordNotFound

/-! ### Shipment -/

structure DispatchOrder where
  carrier : Option String := none
  trackingNumber : Option String := none
  ownFleet : Bool := false
  gatePassId : Option ℕ := none

def checkGatePass (scope : TenantScope) (shipmentId : ℕ) (gatePassId : Option ℕ) :
    OrdersTx Unit := do
  let id ← orThrow gatePassId
    (.badRequest "Pengiriman armada sendiri wajib memiliki gate pass outbound.")
  let db ← get
  let gate ← orThrow ((db.gatePasses.find? id).filter fun g => g.companyId = scope.companyId &&
      g.branchId = scope.branchId && g.sourceType = "Shipment" && g.sourceId = shipmentId &&
      g.direction = "OUTBOUND" && (g.status = .approved || g.status = .exited))
    (.badRequest "Gate pass outbound belum APPROVED/EXITED untuk shipment ini.")
  require (gate.vehicleId.isSome ∨ gate.plateNumber.any (· ≠ "") = true) (.badRequest
    "Pengiriman armada sendiri wajib memiliki kendaraan/nomor polisi pada gate pass.")

def checkDispatch (scope : TenantScope) (order : Order) (s : Shipment) (dto : DispatchOrder) :
    OrdersTx Unit :=
  if order.fulfillmentType = .pickup then
    require (dto.ownFleet = false ∧ dto.gatePassId = none)
      (.badRequest "Pickup toko tidak menggunakan armada/gate pass pengiriman.")
  else if dto.ownFleet then checkGatePass scope s.id dto.gatePassId
  else require (dto.carrier.any (· ≠ "") = true ∧ dto.trackingNumber.any (· ≠ "") = true)
    (.badRequest "Carrier dan nomor resi wajib untuk pengiriman eksternal.")

def shipSerials (shipmentId warehouseId : ℕ) (item : Stock.OrderItem) : Stock.StockTx Unit := do
  let db ← get
  if (db.products.find? item.productId).any Stock.Product.trackSerial then do
    let reserved (s : Stock.InventorySerial) : Bool := s.status = .reserved &&
      s.referenceType = some "Shipment" && s.referenceId = some (toString shipmentId)
    let serials := db.serials.findMany fun s =>
      s.warehouseId = warehouseId && s.productId = item.productId && reserved s
    require (serials.length = item.quantity) (.badRequest
      (s!"Serial {db.productName item.productId} harus discan tepat {item.quantity} unit sebelum " ++
        "shipment."))
    let changed ← Stock.Db.inventorySerial.updateMany
      (fun s => (serials.map Stock.InventorySerial.serialNumber).contains s.serialNumber &&
        reserved s)
      (fun s => { s with status := .sold })
    require (changed = serials.length) (.badRequest
      "Status serial berubah saat fulfillment. Ulangi proses pengiriman.")
  else pure ()

def Order.taxLines (order : Order) : List TaxLine :=
  let taxed := order.items.filter fun i => i.taxCodeId.isSome && 0 < i.taxAmount
  let groups := tally (fun i : OrderItem => i.taxCodeId.getD 0)
    (fun i => ((i.netSubtotal, i.taxAmount) : ℚ × ℚ)) taxed
  groups.rows.map fun g => ⟨g.1, .output, g.2.1, g.2.2⟩

def fulfilledEvent (scope : TenantScope) (order : Order) (payment : Payment) :
    PostOperationalEventInput :=
  let prepaid := payment.status = .paid
  let costTotal := (order.items.map fun i => i.unitCost * (i.quantity : ℚ)).sum
  { companyId := scope.companyId
    branchId := scope.branchId
    eventType := if prepaid then "ONLINE_ORDER_PREPAID_FULFILLED" else "ONLINE_ORDER_CREDIT_FULFILLED"
    sourceType := "Order"
    sourceId := toString order.id
    idempotencyKey := s!"order-fulfilled:{order.id}"
    amounts := [("gross", order.total), ("customerAdvance", order.total),
      ("receivable", order.total), ("revenue", order.subtotal + order.shippingCost),
      ("outputTax", order.tax), ("cogs", costTotal), ("inventory", costTotal)]
    accountCodes := (if prepaid then [("customerAdvance", "2105")]
      else [("receivable", if payment.method = "COD" then "1203" else "1201")]) ++
        [("revenue", "4101"), ("outputTax", "2201"), ("cogs", "5101"), ("inventory", "1301")]
    taxLines := order.taxLines }

def dispatchOrder (scope : TenantScope) (order : Order) (payment : Payment) (s : Shipment)
    (dto : DispatchOrder) : OrdersTx Unit := do
  order.lines.forM fun line => stockPart.lift (Stock.shipOrderProduct order.stockOrder line)
  order.stockOrder.items.forM fun item => do
    stockPart.lift (Stock.shipOrderBatches order.stockOrder item)
    stockPart.lift (shipSerials s.id order.warehouseId item)
  let event ← ledgerPart.lift (postOperationalEvent (fulfilledEvent scope order payment))
  let isPickup := order.fulfillmentType = .pickup
  let _ ← shipment.update s.id (fun s => { s with
    status := if isPickup then .pickedUp else .inTransit,
    gatePassId := if isPickup then none else dto.gatePassId.or s.gatePassId }) .recordNotFound
  let _ ← OrdersDb.order.update order.id
    (fun o => { o with status := .shipped, accountingEventId := some event.key }) .recordNotFound

def ship (scope : TenantScope) (id : ℕ) (dto : DispatchOrder) : OrdersTx Unit := do
  let order ← findOrder scope id
  if order.status = .shipped ∨ order.status = .completed then pure () else do
    require (order.status = .packed)
      (.badRequest s!"Pesanan tidak dapat dikirim dari status {order.status.text}.")
    let found ← findShipment order.id order.warehouseId
    let e := Failure.badRequest "Shipment harus READY sebelum pengiriman."
    let s ← orThrow found e
    require (s.status = .ready) e
    checkDispatch scope order s dto
    let payment ← firstPayment order (.badRequest "Pembayaran pesanan tidak ditemukan.")
    require (payment.status = .paid ∨ payment.method ∈ ["COD", "INVOICE"]) (.badRequest
      "Pesanan elektronik belum terkonfirmasi dibayar dan tidak dapat dikirim.")
    dispatchOrder scope order payment s dto

/-- An inspection that is not over yet. -/
def isOpenInspection (i : OperationalInspection) : Bool :=
  i.status ∈ [.draft, .inProgress, .passed, .partially, .failed, .reviewRequired]

def cancelShipment (scope : TenantScope) (s : Shipment) : OrdersTx Unit := do
  let _ ← stockPart.lift (Stock.Db.inventorySerial.updateMany
    (fun r => r.status = .reserved && r.referenceType = some "Shipment" &&
      r.referenceId = some (toString s.id))
    (fun r => { r with status := .available, referenceType := none, referenceId := none }))
  let _ ← shipment.update s.id (fun s => { s with status := .cancelled }) .recordNotFound
  let _ ← operationalInspection.updateMany
    (fun i => ofShipment scope s.id i.companyId i.branchId i.sourceType i.sourceId &&
      isOpenInspection i)
    (fun i => { i with status := .cancelled })
  let _ ← operationalConfirmation.updateMany
    (fun c => ofShipment scope s.id c.companyId c.branchId c.sourceType c.sourceId &&
      c.status = .pending)
    (fun c => { c with status := .cancelled })

def revokeOrder (scope : TenantScope) (order : Order) : OrdersTx Unit := do
  OrdersDb.order.updateOne (fun o => o.id = order.id && o.status = order.status)
    (fun o => { o with status := .cancelled })
    (.badRequest "Status order berubah saat pembatalan. Muat ulang lalu coba lagi.")
  order.lines.forM fun line => stockPart.lift (Stock.releaseOrderProduct order.stockOrder line)
  let found ← findShipment order.id order.warehouseId
  let _ ← (found.elim (pure ()) (cancelShipment scope) : OrdersTx Unit)
  let _ ← payment.updateMany (fun p => p.orderId = some order.id && p.status = .pending)
    (fun p => { p with status := .cancelled })

def cancel (scope : TenantScope) (id : ℕ) : OrdersTx Unit := do
  let order ← findOrder scope id
  if order.status = .cancelled then pure () else do
    require (order.status ≠ .shipped ∧ order.status ≠ .completed ∧ order.status ≠ .refunded)
      (.badRequest (s!"Pesanan tidak dapat dibatalkan dari status {order.status.text}; " ++
        "gunakan alur retur/refund yang sesuai."))
    let db ← get
    require ((db.paymentsOf order.id).all (fun p => p.status ≠ .paid) = true) (.badRequest
      ("Pesanan sudah menerima pembayaran. Refund harus diproses sebelum pembatalan agar " ++
        "uang muka pelanggan tetap terlacak."))
    revokeOrder scope order

def deliver (scope : TenantScope) (id : ℕ) : OrdersTx Unit := do
  let order ← findOrder scope id
  if order.status = .completed then pure () else do
    require (order.status = .shipped)
      (.badRequest s!"Pesanan tidak dapat diselesaikan dari status {order.status.text}.")
    let found ← findShipment order.id order.warehouseId
    let s ← orThrow (found.filter fun s => s.status = .inTransit || s.status = .pickedUp)
      (.badRequest "Shipment belum dalam perjalanan.")
    let _ ← shipment.update s.id (fun s => { s with status := .delivered }) .recordNotFound
    let _ ← OrdersDb.order.update order.id (fun o => { o with status := .completed })
      .recordNotFound

end Mayatoko.Orders
