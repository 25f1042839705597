import Mayatoko.Returns.SaleReturn
import Mayatoko.Stock.Schema

/-!
# Loyalty points

What the sale, order and return services do to the points of a customer: `SalesService.create`
redeems and earns, `OrdersService.deliver` earns, the confirmation of a sale return and of an
order return revoke. Each writes the account and appends a transaction with the balance that it
has computed. The rest of a sale enters as the total that it comes to for a loyalty discount; the
other postings of the four services can only make them throw.
-/

namespace Mayatoko.Loyalty

open Core

inductive LoyaltyTransactionType
  | earn
  | redeem
  | adjustment
  | expire
  | refund
  deriving DecidableEq

structure LoyaltyTier where
  code : String
  minPoints : ℤ
  deriving DecidableEq

structure LoyaltyProgram where
  (id companyId : ℕ)
  earnRate : ℚ := 1
  redemptionRate : ℚ := 1
  minimumRedeem : ℤ := 0
  pointsExpireDays : Option ℕ := none
  tiers : List LoyaltyTier := []
  isActive : Bool := true
  createdAt : ℤ
  deriving DecidableEq

structure LoyaltyAccount where
  (programId customerId : ℕ)
  tier : String := "MEMBER"
  points : ℤ := 0
  lifetimePoints : ℤ := 0
  deriving DecidableEq

abbrev AccountKey := ℕ × ℕ

def LoyaltyAccount.key (a : LoyaltyAccount) : AccountKey := (a.programId, a.customerId)

structure LoyaltyTransaction where
  accountId : AccountKey
  type : LoyaltyTransactionType
  (points balanceAfter : ℤ)
  referenceType : String
  referenceId : ℕ
  expiresAt : Option ℤ := none
  notes : Option String := none

structure Customer where
  (id companyId : ℕ)

structure Sale where
  id : ℕ
  customerId : Option ℕ

structure SaleReturn where
  id : ℕ
  number : String
  saleId : Option ℕ
  gross : ℚ
  status : Returns.ReturnStatus
  deriving DecidableEq

structure Order where
  id : ℕ
  number : String
  customerId : Option ℕ
  total : ℚ
  status : Stock.OrderStatus

inductive ShipmentStatus
  | draft
  | ready
  | pickedUp
  | inTransit
  | delivered
  | failed
  | returned
  | cancelled
  deriving DecidableEq

structure Shipment where
  orderId : ℕ
  status : ShipmentStatus

inductive OrderReturnStatus
  | requested
  | inspection
  | approved
  | rejected
  | completed
  deriving DecidableEq

def OrderReturnStatus.text : OrderReturnStatus → String
  | requested => "REQUESTED"
  | inspection => "INSPECTION"
  | approved => "APPROVED"
  | rejected => "REJECTED"
  | completed => "COMPLETED"

structure OrderReturn where
  id : ℕ
  number : String
  orderId : ℕ
  customerId : Option ℕ
  gross : ℚ
  status : OrderReturnStatus

structure Records where
  programs : Table LoyaltyProgram.id
  customers : Table Customer.id
  sales : Table Sale.id
  saleReturns : Table SaleReturn.id
  orders : Table Order.id
  shipments : Table Shipment.orderId
  orderReturns : Table OrderReturn.id

structure LoyaltyDb where
  records : Records
  accounts : Table LoyaltyAccount.key
  /-- In the order of creation. -/
  transactions : List LoyaltyTransaction

abbrev LoyaltyTx := Tx LoyaltyDb Failure

namespace LoyaltyDb

def loyaltyAccount : TableOf LoyaltyDb LoyaltyAccount.key :=
  ⟨accounts, fun db t => { db with accounts := t }⟩

def shipment : TableOf LoyaltyDb Shipment.orderId :=
  ⟨fun db => db.records.shipments, fun db t => { db with records.shipments := t }⟩

def order : TableOf LoyaltyDb Order.id :=
  ⟨fun db => db.records.orders, fun db t => { db with records.orders := t }⟩

def saleReturn : TableOf LoyaltyDb SaleReturn.id :=
  ⟨fun db => db.records.saleReturns, fun db t => { db with records.saleReturns := t }⟩

def orderReturn : TableOf LoyaltyDb OrderReturn.id :=
  ⟨fun db => db.records.orderReturns, fun db t => { db with records.orderReturns := t }⟩

def activeProgram (db : LoyaltyDb) (companyId : ℕ) : Option LoyaltyProgram :=
  db.records.programs.findFirst (fun p => p.companyId = companyId && p.isActive)
    fun a b => a.createdAt ≤ b.createdAt

end LoyaltyDb

def post (t : LoyaltyTransaction) (f : LoyaltyAccount → LoyaltyAccount) : LoyaltyTx Unit := do
  let _ ← LoyaltyDb.loyaltyAccount.update t.accountId f .recordNotFound
  modify fun db => { db with transactions := db.transactions ++ [t] }

/-- The account of a customer, opened when there is none. -/
def openAccount (programId customerId : ℕ) : LoyaltyTx LoyaltyAccount :=
  LoyaltyDb.loyaltyAccount.upsert { programId, customerId } id

def liftExcept {α : Type} (x : Except Failure α) : LoyaltyTx α :=
  match x with
  | .ok a => pure a
  | .error e => throw e

/-! ### Sales -/

structure SaleRequest where
  saleId : ℕ
  customerId : Option ℕ := none
  redeemPoints : ℕ := 0

/-- The program of a sale: none without a customer. -/
def LoyaltyDb.saleProgram (db : LoyaltyDb) (companyId : ℕ) (dto : SaleRequest) :
    Option (LoyaltyProgram × ℕ) :=
  match dto.customerId, db.activeProgram companyId with
  | some customerId, some program => some (program, customerId)
  | _, _ => none

/-- The account that a sale redeems from, and the discount for it. Without a redemption no account
is looked up. -/
def lookupRedemption (db : LoyaltyDb) (program : Option (LoyaltyProgram × ℕ))
    (redeemRequested : ℕ) : LoyaltyTx (Option LoyaltyAccount × ℚ) :=
  match program with
  | none => pure (none, 0)
  | some (program, customerId) =>
    if 0 < redeemRequested then do
      let found := db.accounts.find? (program.id, customerId)
      let saldo := found.elim 0 LoyaltyAccount.points
      let e := Failure.badRequest
        s!"Poin tidak mencukupi. Saldo: {saldo}, diminta: {redeemRequested}."
      let account ← orThrow found e
      require (redeemRequested ≤ account.points) e
      require (program.minimumRedeem ≤ redeemRequested)
        (.badRequest s!"Penukaran minimal {program.minimumRedeem} poin.")
      -- Divided by zero the discount is infinite and exceeds every subtotal.
      require (program.redemptionRate ≠ 0) (.badRequest "Diskon melebihi subtotal.")
      pure (some account, toDecimalPlaces (redeemRequested / program.redemptionRate) 2)
    else pure (none, 0)

/-- The redemption, if an account was looked up for it, and the running balance. -/
def redeem (saleId redeemRequested : ℕ) (loyaltyAccount : Option LoyaltyAccount) : LoyaltyTx ℤ :=
  match loyaltyAccount with
  | none => pure 0
  | some account =>
    if 0 < redeemRequested then do
      let runningBalance := account.points - redeemRequested
      post
        { accountId := account.key, type := .redeem, points := -redeemRequested,
          balanceAfter := runningBalance, referenceType := "Sale", referenceId := saleId }
        fun a => { a with points := a.points - redeemRequested }
      pure runningBalance
    else pure account.points

def earn (program : LoyaltyProgram) (saleId customerId : ℕ) (earnPoints runningBalance : ℤ) :
    LoyaltyTx Unit :=
  if 0 < earnPoints then do
    let account ← openAccount program.id customerId
    post
      { accountId := account.key, type := .earn, points := earnPoints,
        balanceAfter := runningBalance + earnPoints, referenceType := "Sale", referenceId := saleId }
      fun a => { a with
        points := a.points + earnPoints, lifetimePoints := a.lifetimePoints + earnPoints }
  else pure ()

/-- `checkout` is the rest of the sale: the total it comes to with a loyalty discount. -/
def createSale (companyId : ℕ) (dto : SaleRequest) (checkout : ℚ → Except Failure ℚ) :
    LoyaltyTx Unit := do
  let db ← get
  require (dto.customerId.all fun c => (db.records.customers.find? c).any fun x =>
    x.companyId = companyId) (.badRequest "Pelanggan tidak ditemukan.")
  require (dto.redeemPoints = 0 ∨ dto.customerId.isSome)
    (.badRequest "Penukaran poin membutuhkan pelanggan.")
  let program := db.saleProgram companyId dto
  let (loyaltyAccount, loyaltyRedeemDiscount) ← lookupRedemption db program dto.redeemPoints
  let total ← liftExcept (checkout loyaltyRedeemDiscount)
  match program with
  | none => pure ()
  | some (program, customerId) => do
    let earnPoints := ⌊total * program.earnRate⌋
    let runningBalance ← redeem dto.saleId dto.redeemPoints loyaltyAccount
    earn program dto.saleId customerId earnPoints runningBalance

def resolveLoyaltyTier (tiers : List LoyaltyTier) (lifetimePoints : ℤ) : String :=
  let before (a b : LoyaltyTier) : Bool :=
    b.minPoints < a.minPoints || a.minPoints = b.minPoints && a.code ≤ b.code
  let reached := (tiers.filter fun t => t.minPoints ≤ max 0 lifetimePoints).insertionSort
    fun a b => before a b
  (reached.head?.map LoyaltyTier.code).getD "MEMBER"

def earnOrder (program : LoyaltyProgram) (order : Order) (customerId : ℕ) (now : ℤ) :
    LoyaltyTx Unit := do
  let db ← get
  let existingEarn := db.transactions.any fun t =>
    t.type = .earn && t.referenceType = "Order" && t.referenceId = order.id
  let loyaltyEarned := max 0 ⌊order.total * program.earnRate⌋
  if existingEarn = false ∧ 0 < loyaltyEarned then do
    let account ← openAccount program.id customerId
    let nextPoints := account.points + loyaltyEarned
    let nextLifetime := account.lifetimePoints + loyaltyEarned
    let loyaltyTier := resolveLoyaltyTier program.tiers nextLifetime
    let expireDays := program.pointsExpireDays.filter fun d => d ≠ 0
    post
      { accountId := account.key, type := .earn, points := loyaltyEarned,
        balanceAfter := nextPoints, referenceType := "Order", referenceId := order.id,
        expiresAt := expireDays.map fun d => now + d * 86400000,
        notes := some s!"Poin dari order storefront {order.number}" }
      fun a => { a with
        points := nextPoints, lifetimePoints := nextLifetime, tier := loyaltyTier }
  else pure ()

def deliver (companyId id : ℕ) (now : ℤ) : LoyaltyTx Unit := do
  let db ← get
  let order ← orThrow (db.records.orders.find? id)
    (.notFound "Pesanan tidak ditemukan pada branch pengguna.")
  if order.status = .completed then pure () else do
    require (order.status = .shipped)
      (.badRequest s!"Pesanan tidak dapat diselesaikan dari status {order.status.text}.")
    require ((db.records.shipments.find? id).any fun s =>
      s.status = .inTransit || s.status = .pickedUp) (.badRequest "Shipment belum dalam perjalanan.")
    let _ ← LoyaltyDb.shipment.update id (fun s => { s with status := .delivered }) .recordNotFound
    let _ ← LoyaltyDb.order.update id (fun o => { o with status := .completed }) .recordNotFound
    match order.customerId, db.activeProgram companyId with
    | some customerId, some program => earnOrder program order customerId now
    | _, _ => pure ()

/-! ### Returns -/

def revoke (account : LoyaltyAccount) (points : ℤ) (referenceType : String) (referenceId : ℕ)
    (notes : String) : LoyaltyTx Unit :=
  if 0 < points then do
    let newBalance := account.points - points
    post
      { accountId := account.key, type := .refund, points := -points, balanceAfter := newBalance,
        referenceType, referenceId, notes := some notes }
      fun a => { a with points := newBalance }
  else pure ()

def LoyaltyDb.accountOfSale (db : LoyaltyDb) (program : LoyaltyProgram) (saleId : ℕ) :
    Option LoyaltyAccount := do
  let saleForPoints ← db.records.sales.find? saleId
  let customerId ← saleForPoints.customerId
  db.accounts.find? (program.id, customerId)

def revokeSale (db : LoyaltyDb) (companyId : ℕ) (row : SaleReturn) : LoyaltyTx Unit :=
  match row.saleId, db.activeProgram companyId with
  | some saleId, some program =>
    match db.accountOfSale program saleId with
    | some account =>
      let earnedOnReturnedAmount := ⌊row.gross * program.earnRate⌋
      revoke account (min earnedOnReturnedAmount account.points) "SaleReturn" row.id
        s!"Koreksi poin karena retur {row.number}"
    | none => pure ()
  | _, _ => pure ()

def confirmSaleReturn (companyId id : ℕ) : LoyaltyTx Unit := do
  let db ← get
  let row ← orThrow (db.records.saleReturns.find? id) (tenantAccessDenied "SaleReturn")
  require (row.status = .requested ∨ row.status = .approved)
    (.badRequest s!"Retur berstatus {row.status.text}.")
  revokeSale db companyId row
  let _ ← LoyaltyDb.saleReturn.update id (fun r => { r with status := .completed }) .recordNotFound

def LoyaltyDb.orderRevocation (db : LoyaltyDb) (program : LoyaltyProgram) (row : OrderReturn)
    (account : LoyaltyAccount) : ℤ :=
  let earned := db.transactions.find? fun t =>
    t.type = .earn && t.referenceType = "Order" && t.referenceId = row.orderId
  match earned with
  | none => 0
  | some earned =>
    let previousReturnIds := (db.records.orderReturns.findMany fun r =>
      r.orderId = row.orderId && r.id ≠ row.id && r.status = .completed).map OrderReturn.id
    let previous := db.transactions.filter fun t =>
      t.accountId = account.key && t.type = .refund && t.referenceType = "OrderReturn" &&
        t.referenceId ∈ previousReturnIds
    let alreadyRevoked : ℤ := (previous.map LoyaltyTransaction.points).sum.natAbs
    let remainingEarned := max 0 (earned.points - alreadyRevoked)
    let calculated := max 0 ⌊row.gross * program.earnRate⌋
    min (min calculated remainingEarned) account.points

def revokeOrder (db : LoyaltyDb) (companyId : ℕ) (row : OrderReturn) : LoyaltyTx Unit :=
  match row.customerId, db.activeProgram companyId with
  | some customerId, some program =>
    match db.accounts.find? (program.id, customerId) with
    | some account =>
      revoke account (db.orderRevocation program row account) "OrderReturn" row.id
        s!"Koreksi poin karena retur order {row.number}"
    | none => pure ()
  | _, _ => pure ()

def confirmOrderReturn (companyId id : ℕ) : LoyaltyTx Unit := do
  let db ← get
  let row ← orThrow (db.records.orderReturns.find? id) (tenantAccessDenied "OrderReturn")
  if row.status = .completed then pure () else do
    require (row.status = .inspection ∨ row.status = .approved)
      (.badRequest s!"Retur order berstatus {row.status.text}.")
    revokeOrder db companyId row
    let _ ← LoyaltyDb.orderReturn.update id (fun r => { r with status := .completed })
      .recordNotFound

end Mayatoko.Loyalty
