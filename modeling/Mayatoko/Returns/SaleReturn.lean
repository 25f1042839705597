import Mayatoko.Returns.Allocation

/-!
# Sale returns

`createSaleReturn` reads the sale and its previous returns, checks the requested quantities against
them and computes the rows of the return; the insert is a later statement, in no transaction with
the reads. `confirmSaleReturn` is one transaction; its stock, journal and loyalty postings can only
make it throw here. Between the statements of one client those of any other may run.
-/

namespace Mayatoko.Returns

open Core

inductive ReturnStatus
  | draft
  | requested
  | approved
  | received
  | completed
  | rejected
  | cancelled
  deriving DecidableEq

def ReturnStatus.text : ReturnStatus → String
  | draft => "DRAFT"
  | requested => "REQUESTED"
  | approved => "APPROVED"
  | received => "RECEIVED"
  | completed => "COMPLETED"
  | rejected => "REJECTED"
  | cancelled => "CANCELLED"

def ReturnStatus.counted (s : ReturnStatus) : Bool :=
  s = .requested || s = .approved || s = .completed

@[simp] lemma ReturnStatus.counted_requested : counted .requested = true := rfl

@[simp] lemma ReturnStatus.counted_completed : counted .completed = true := rfl

structure SaleItem extends SoldAmounts where
  (id productId : ℕ)
  unitCost : ℚ := 0

structure Sale where
  (id warehouseId : ℕ)
  items : Table SaleItem.id

/-- An item of a return. `saleItemId` stands in its metadata, which old rows may lack. -/
structure SaleReturnItem where
  saleItemId : Option ℕ
  productId : ℕ
  quantity : ℤ
  condition : String := "GOOD"
  restock : Bool := true
  unitCost : ℚ := 0
  (netAmount taxAmount grossAmount : ℚ)

structure SaleReturn where
  (id saleId warehouseId : ℕ)
  status : ReturnStatus
  refundAmount : ℚ
  items : List SaleReturnItem

structure ReturnsDb where
  nextId : ℕ
  sales : Table Sale.id
  saleReturns : Table SaleReturn.id

def saleReturn : TableOf ReturnsDb SaleReturn.id :=
  ⟨ReturnsDb.saleReturns, fun db t => { db with saleReturns := t }⟩

/-- A requested item; the request validation lets only positive quantities pass. -/
structure ReturnInput where
  (saleItemId quantity : ℕ)
  condition : Option String := none
  restock : Option Bool := none

structure CreateSaleReturn where
  (saleId warehouseId : ℕ)
  items : List ReturnInput

/-! ### Creating a return -/

def itemQuantity (saleItemId : ℕ) (items : List SaleReturnItem) : ℤ :=
  (items.map fun i => if i.saleItemId = some saleItemId then i.quantity else 0).sum

/-- The entry of the `Map` from sale item to quantity in the returns so far. -/
def alreadyReturned (previousReturns : List SaleReturn) (saleItemId : ℕ) : ℤ :=
  (previousReturns.map fun r => itemQuantity saleItemId r.items).sum

/-- The entry of the `Map` from sale item to requested quantity. -/
def requestedNow (items : List ReturnInput) (saleItemId : ℕ) : ℤ :=
  (items.map fun i => if i.saleItemId = saleItemId then (i.quantity : ℤ) else 0).sum

def checkRequested (sale : Sale) (previousReturns : List SaleReturn) (items : List ReturnInput)
    (input : ReturnInput) : Except Failure Unit :=
  let e := Failure.badRequest
    s!"Jumlah retur item {input.saleItemId} melebihi sisa yang dapat diretur."
  match sale.items.find? input.saleItemId with
  | none => throw e
  | some original =>
    let requestedQty := requestedNow items input.saleItemId
    if requestedQty ≤ 0 ∨
        original.quantity < alreadyReturned previousReturns input.saleItemId + requestedQty then
      throw e
    else pure ()

def checkReturnable (sale : Sale) (previousReturns : List SaleReturn) (items : List ReturnInput) :
    Except Failure Unit :=
  items.forM (checkRequested sale previousReturns items)

/-- The entry of the `Map` of what previous returns have taken from a sale item. -/
def saleAllocation (previousReturns : List SaleReturn) (saleItemId : ℕ) : HistoricalReturnState :=
  let items := (previousReturns.flatMap SaleReturn.items).filter fun i =>
    i.saleItemId = some saleItemId
  { quantity := (items.map SaleReturnItem.quantity).sum
    net := (items.map SaleReturnItem.netAmount).sum
    tax := (items.map SaleReturnItem.taxAmount).sum
    gross := (items.map SaleReturnItem.grossAmount).sum }

/-- The rows of a return; the `Map` of what has been taken moves along with them. -/
def returnRows (sale : Sale) : (ℕ → HistoricalReturnState) → List ReturnInput →
    Except Failure (List SaleReturnItem)
  | _, [] => pure []
  | allocation, input :: rest => do
    let e := Failure.badRequest s!"Jumlah retur item {input.saleItemId} tidak valid."
    match sale.items.find? input.saleItemId with
    | none => throw e
    | some original =>
      if original.quantity < input.quantity then throw e else do
        let (a, taken) ← allocateReturn original.toSoldAmounts (allocation original.id) input.quantity
        let rows ← returnRows sale (Function.update allocation original.id taken) rest
        pure ({ saleItemId := some original.id, productId := original.productId,
                quantity := input.quantity, condition := input.condition.getD "GOOD",
                restock := input.restock.getD true, unitCost := original.unitCost,
                netAmount := a.netAmount, taxAmount := a.taxAmount,
                grossAmount := a.grossAmount } :: rows)

def ReturnsDb.previousReturns (db : ReturnsDb) (saleId : ℕ) : List SaleReturn :=
  db.saleReturns.findMany fun r => r.saleId = saleId && r.status.counted

structure PendingReturn where
  dto : CreateSaleReturn
  sale : Sale
  previousReturns : List SaleReturn
  rows : List SaleReturnItem

/-- The reads of `createSaleReturn` and what is computed from them. -/
def readSaleReturn (db : ReturnsDb) (dto : CreateSaleReturn) : Except Failure PendingReturn :=
  if dto.items = [] then throw (.badRequest "Retur penjualan harus memiliki item.") else
  match db.sales.find? dto.saleId with
  | none => throw (tenantAccessDenied "Sale")
  | some sale =>
    if sale.warehouseId ≠ dto.warehouseId then
      throw (.badRequest "Gudang retur harus sesuai dengan gudang penjualan.")
    else do
      let previousReturns := db.previousReturns sale.id
      checkReturnable sale previousReturns dto.items
      let rows ← returnRows sale (saleAllocation previousReturns) dto.items
      pure ⟨dto, sale, previousReturns, rows⟩

/-- The insert of `createSaleReturn`. -/
def writeSaleReturn (p : PendingReturn) : Tx ReturnsDb Failure Unit := do
  let db ← get
  set { db with nextId := db.nextId + 1 }
  saleReturn.create
    { id := db.nextId, saleId := p.sale.id, warehouseId := p.dto.warehouseId, status := .requested,
      refundAmount := (p.rows.map SaleReturnItem.grossAmount).sum, items := p.rows }
    .uniqueViolation

def confirmSaleReturn (id : ℕ) : Tx ReturnsDb Failure Unit := do
  let db ← get
  let row ← orThrow (db.saleReturns.find? id) (tenantAccessDenied "SaleReturn")
  require (row.status = .requested ∨ row.status = .approved)
    (.badRequest s!"Retur berstatus {row.status.text}.")
  let _ ← saleReturn.update id (fun r => { r with status := .completed }) .recordNotFound

/-! ### Several clients -/

/-- The database and the calls that have read but not yet written. -/
structure ReturnSystem where
  db : ReturnsDb
  pending : ℕ → Option PendingReturn

inductive ReturnEvent
  | read (client : ℕ) (dto : CreateSaleReturn)
  | write (client : ℕ)
  | confirm (id : ℕ)

def ReturnSystem.step (s : ReturnSystem) : ReturnEvent → ReturnSystem
  | .read client dto =>
    { s with pending := Function.update s.pending client (readSaleReturn s.db dto).toOption }
  | .write client =>
    match s.pending client with
    | none => s
    | some p =>
      { db := (execute (writeSaleReturn p) s.db).2
        pending := Function.update s.pending client none }
  | .confirm id => { s with db := (execute (confirmSaleReturn id) s.db).2 }

lemma ReturnSystem.step_write_of_none {s : ReturnSystem} {client : ℕ}
    (h : s.pending client = none) : s.step (.write client) = s := by
  simp only [step, h]

lemma ReturnSystem.step_write_of_some {s : ReturnSystem} {client : ℕ} {p : PendingReturn}
    (h : s.pending client = some p) : s.step (.write client) =
      { db := (execute (writeSaleReturn p) s.db).2
        pending := Function.update s.pending client none } := by
  simp only [step, h]

end Mayatoko.Returns
