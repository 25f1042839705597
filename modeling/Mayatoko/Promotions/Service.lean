import Mathlib.Algebra.Order.Ring.Rat
import Mayatoko.Common.Failure
import Mayatoko.Core.Json
import Mayatoko.Core.Numeral
import Mayatoko.Core.Store

/-!
# Promotion rules

What `PromotionsService.update` checks and writes. What `new Date` and `toUpperCase` make of a text are
parameters.
-/

namespace Mayatoko.Promotions

open Core

structure PromoRule where
  (id companyId branchId : ℕ)
  (name type : String)
  value : ℚ
  minSubtotal : ℚ := 0
  maxDiscount : Option ℚ := none
  memberTier : Option String := none
  channel : String := "ALL"
  productIds : Json := .null
  minQuantity : Option ℕ := none
  buyQuantity : Option ℕ := none
  getQuantity : Option ℕ := none
  usageLimit : Option ℕ := none
  perCustomerLimit : Option ℕ := none
  startsAt : ℤ
  endsAt : Option ℤ := none
  isActive : Bool := true

structure Product where
  id : String
  companyId : ℕ
  isActive : Bool

structure PromoDb where
  promoRules : Table PromoRule.id := .empty
  products : Table Product.id := .empty

abbrev PromoTx := Tx PromoDb Failure

def promoRule : TableOf PromoDb PromoRule.id :=
  ⟨PromoDb.promoRules, fun db t => { db with promoRules := t }⟩

structure UpdatePromoRuleDto where
  name : Option String := none
  type : Option String := none
  value : Option ℚ := none
  minSubtotal : Option ℚ := none
  maxDiscount : Option ℚ := none
  memberTier : Option String := none
  channel : Option String := none
  productIds : Option (List String) := none
  minQuantity : Option ℕ := none
  buyQuantity : Option ℕ := none
  getQuantity : Option ℕ := none
  usageLimit : Option ℕ := none
  perCustomerLimit : Option ℕ := none
  startsAt : Option String := none
  endsAt : Option String := none
  isActive : Option Bool := none

def filled (value : Option String) : Option String := value.filter (· ≠ "")

def missing (n : Option ℕ) : Bool := n.all (· = 0)

def parseDate (newDate : String → Option ℤ) (value : Option String) (fallback : Option ℤ) :
    PromoTx (Option ℤ) :=
  match filled value with
  | none => pure fallback
  | some text => do
    let parsed ← orThrow (newDate text) (.badRequest "Format tanggal tidak valid.")
    pure (some parsed)

def validateShape (type : String) (value : ℚ) (minQuantity buyQuantity getQuantity usageLimit
    perCustomerLimit : Option ℕ) : PromoTx Unit := do
  require (type ∈ ["PERCENT", "QUANTITY_BREAK"] → 0 ≤ value ∧ value ≤ 100)
    (.badRequest "Nilai promo persen harus antara 0 dan 100.")
  require (type = "QUANTITY_BREAK" → missing minQuantity = false)
    (.badRequest "QUANTITY_BREAK membutuhkan minQuantity.")
  require (type = "BUNDLE" → missing minQuantity = false) (.badRequest "BUNDLE membutuhkan minQuantity.")
  require (type = "BOGO" → missing buyQuantity = false ∧ missing getQuantity = false)
    (.badRequest "BOGO membutuhkan buyQuantity dan getQuantity.")
  require (missing usageLimit = false → missing perCustomerLimit = false →
      perCustomerLimit.getD 0 ≤ usageLimit.getD 0)
    (.badRequest "Batas per pelanggan tidak boleh melebihi quota global.")

def validateProducts (companyId : ℕ) (ids : List String) : PromoTx (List String) := do
  let productIds := ((ids.map trim).filter (· ≠ "")).eraseDups
  let db ← get
  let count := (db.products.findMany fun p => productIds.contains p.id && p.companyId = companyId &&
    p.isActive).length
  require (productIds = [] ∨ count = productIds.length)
    (.badRequest "Satu atau lebih produk promo tidak tersedia pada company ini.")
  pure productIds

def storedProductIds (productIds : List String) : Json :=
  if productIds = [] then .null else .arr (productIds.map .str)

def findRule (companyId branchId id : ℕ) : PromoTx PromoRule := do
  let db ← get
  orThrow ((db.promoRules.find? id).filter fun row => row.companyId = companyId && row.branchId = branchId)
    (tenantAccessDenied "PromoRule")

def PromoRule.patch (toUpperCase : String → String) (dto : UpdatePromoRuleDto)
    (productIds : Option (List String)) (startsAt : ℤ) (endsAt : Option ℤ) (row : PromoRule) : PromoRule :=
  { row with
    name := (dto.name.map trim).getD row.name
    type := dto.type.getD row.type
    value := dto.value.getD row.value
    minSubtotal := dto.minSubtotal.getD row.minSubtotal
    maxDiscount := dto.maxDiscount.or row.maxDiscount
    memberTier := dto.memberTier.elim row.memberTier fun tier => filled (some (toUpperCase (trim tier)))
    channel := dto.channel.getD row.channel
    productIds := (productIds.map storedProductIds).getD row.productIds
    minQuantity := dto.minQuantity.or row.minQuantity
    buyQuantity := dto.buyQuantity.or row.buyQuantity
    getQuantity := dto.getQuantity.or row.getQuantity
    usageLimit := dto.usageLimit.or row.usageLimit
    perCustomerLimit := dto.perCustomerLimit.or row.perCustomerLimit
    startsAt
    endsAt
    isActive := dto.isActive.getD row.isActive }

def requestedProducts (companyId : ℕ) (productIds : Option (List String)) : PromoTx (Option (List String)) :=
  match productIds with
  | none => pure none
  | some ids => do
    let productIds ← validateProducts companyId ids
    pure (some productIds)

def updateRule (newDate : String → Option ℤ) (toUpperCase : String → String) (companyId : ℕ)
    (dto : UpdatePromoRuleDto) (row : PromoRule) : PromoTx PromoRule := do
  let startsAt ← parseDate newDate dto.startsAt (some row.startsAt)
  let startsAt := startsAt.getD row.startsAt
  let endsAt ← parseDate newDate dto.endsAt row.endsAt
  require (endsAt.all (startsAt ≤ ·) = true) (.badRequest "Tanggal akhir tidak boleh sebelum tanggal mulai.")
  validateShape (dto.type.getD row.type) (dto.value.getD row.value) (dto.minQuantity.or row.minQuantity)
    (dto.buyQuantity.or row.buyQuantity) (dto.getQuantity.or row.getQuantity)
    (dto.usageLimit.or row.usageLimit) (dto.perCustomerLimit.or row.perCustomerLimit)
  let productIds ← requestedProducts companyId dto.productIds
  promoRule.update row.id (PromoRule.patch toUpperCase dto productIds startsAt endsAt) .recordNotFound

end Mayatoko.Promotions
