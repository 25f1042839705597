import Mayatoko.Common.Failure
import Mayatoko.Core.Checked
import Mayatoko.Core.Decimal
import Mayatoko.Core.Table

/-!
# Products, their units and their prices

`resolveProductUnitPrice` chooses the price row of a product, `resolveSellingUnitLine` turns a line of a cart
into units and a price. Instants are milliseconds, amounts are exact, and texts are taken as already trimmed.
How letters change their case is a parameter: all that is used of it is that an upper-case and an empty text
stay as they are.
-/

namespace Mayatoko.Catalog

open Core

structure LetterCase where
  toUpperCase : String → String
  toLowerCase : String → String
  upper_empty : toUpperCase "" = ""
  upper_upper : ∀ text, toUpperCase (toUpperCase text) = toUpperCase text

lemma toUpper_toUpper (c : Char) : c.toUpper.toUpper = c.toUpper := by
  have hlower : ¬ ('a'.val ≤ c.toUpper.val ∧ c.toUpper.val ≤ 'z'.val) := by
    delta Char.toUpper
    split
    next h =>
      simp only [UInt32.le_iff_toNat_le] at h ⊢
      rintro ⟨hge, _⟩
      simp at h hge
      grind
    next h => exact h
  exact dif_neg hlower

def asciiCase : LetterCase where
  toUpperCase text := String.ofList (text.toList.map Char.toUpper)
  toLowerCase text := String.ofList (text.toList.map Char.toLower)
  upper_empty := rfl
  upper_upper text := by simp [Function.comp_def, toUpper_toUpper]

structure Product where
  id : ℕ
  companyId : Option ℕ
  name : String
  unit : String := "pcs"
  salePrice : ℚ
  salesTaxCodeId : Option ℕ := none
  allowNegativeStock : Bool := false
  isActive : Bool := true

structure ProductVariant where
  (id productId : ℕ)
  salePrice : Option ℚ := none
  isActive : Bool := true

structure ProductUnit where
  (id productId : ℕ)
  variantId : Option ℕ := none
  unitCode : String
  quantityFactor : ℤ
  isDefaultSale : Bool := false
  isActive : Bool := true

structure ProductBarcode where
  code : String
  productId : ℕ
  variantId : Option ℕ := none
  productUnitId : Option ℕ := none
  unitCode : Option String := none
  quantityFactor : ℤ := 1

structure ProductPrice where
  (id productId : ℕ)
  variantId : Option ℕ := none
  branchId : Option ℕ := none
  segmentCode : String := "RETAIL"
  unitCode : Option String := none
  minQty : ℚ := 1
  price : ℚ
  effectiveFrom : Option ℕ := none
  effectiveTo : Option ℕ := none
  isActive : Bool := true
  createdAt : ℕ
  deriving DecidableEq

structure CatalogDb where
  products : Table Product.id
  variants : Table ProductVariant.id
  units : Table ProductUnit.id
  barcodes : Table ProductBarcode.code
  prices : Table ProductPrice.id

structure TenantScope where
  (companyId branchId : ℕ)

/-- A text that is empty is none. -/
def orNull (text : Option String) : Option String := text.filter (· ≠ "")

def isSafeInteger (n : ℤ) : Bool := -9007199254740991 ≤ n && n ≤ 9007199254740991

/-! ### The price of a unit -/

structure ResolvePriceInput where
  productId : ℕ
  salePrice : ℚ
  quantity : ℤ
  segmentCode : Option String := none
  unitCode : Option String := none
  unitFactor : Option ℤ := none
  variantId : Option ℕ := none
  variantSalePrice : Option ℚ := none

namespace ResolvePriceInput

variable (C : LetterCase) (input : ResolvePriceInput)

def segment : String := C.toUpperCase ((orNull input.segmentCode).getD "RETAIL")

def unit : Option String := orNull (input.unitCode.map C.toUpperCase)

/-- The unit codes that a price row may have, besides none. -/
def unitCandidates : List String :=
  (input.unit C).elim [] fun unit => [unit, C.toLowerCase unit] ++ (orNull input.unitCode).toList

/-- Whether a price row is for the unit, or for any, or no unit is asked for. -/
def takesUnit (r : ProductPrice) : Bool :=
  (input.unit C).isNone || r.unitCode.all (· ∈ input.unitCandidates C)

end ResolvePriceInput

def inForce (C : LetterCase) (db : CatalogDb) (scope : TenantScope) (instant : ℕ)
    (input : ResolvePriceInput) (r : ProductPrice) : Bool :=
  r.productId = input.productId && r.isActive && r.minQty ≤ input.quantity &&
    (r.segmentCode = input.segment C || r.segmentCode = "RETAIL") &&
    (r.variantId = none || input.variantId.isSome && r.variantId = input.variantId) &&
    (r.branchId = none || r.branchId = some scope.branchId) &&
    r.effectiveFrom.all (· ≤ instant) && r.effectiveTo.all (instant ≤ ·) &&
    ((db.products.find? r.productId).bind Product.companyId) = some scope.companyId && input.takesUnit C r

/-- The one with the mark first, then as `tie` says. -/
def markedFirst (a b tie : Bool) : Bool := if a = b then tie else a

/-- The order of the price rows: those of the variant first, then those of the branch, of the segment, of the
unit, with the largest quantity, and the latest. -/
def before (C : LetterCase) (branchId : ℕ) (input : ResolvePriceInput) (a b : ProductPrice) : Bool :=
  let ofVariant (r : ProductPrice) : Bool := input.variantId.isSome && r.variantId = input.variantId
  let ofBranch (r : ProductPrice) : Bool := r.branchId = some branchId
  let ofSegment (r : ProductPrice) : Bool := r.segmentCode = input.segment C
  let ofUnit (r : ProductPrice) : Bool := (input.unit C).isSome && r.unitCode.map C.toUpperCase = input.unit C
  markedFirst (ofVariant a) (ofVariant b) <| markedFirst (ofBranch a) (ofBranch b) <|
    markedFirst (ofSegment a) (ofSegment b) <| markedFirst (ofUnit a) (ofUnit b) <|
    if a.minQty = b.minQty then b.createdAt ≤ a.createdAt else b.minQty < a.minQty

/-- The first price row in force; no more than a hundred are read. -/
def firstRow (C : LetterCase) (db : CatalogDb) (scope : TenantScope) (instant : ℕ)
    (input : ResolvePriceInput) : Option ProductPrice :=
  (((db.prices.findMany (inForce C db scope instant input)).take 100).insertionSort
    fun a b => before C scope.branchId input a b).head?

/-- What a price row asks for the unit: one without a unit code has the price of a base unit. -/
def ResolvePriceInput.rowPrice (C : LetterCase) (input : ResolvePriceInput) (r : ProductPrice) : ℚ :=
  let factor := input.unitFactor.getD 1
  if orNull r.unitCode = none ∧ (input.unit C).isSome = true ∧ isSafeInteger factor = true ∧
      1 < factor then
    r.price * factor
  else r.price

def resolveProductUnitPrice (C : LetterCase) (db : CatalogDb) (scope : TenantScope) (instant : ℕ)
    (input : ResolvePriceInput) : ℚ :=
  match firstRow C db scope instant input with
  | some r => input.rowPrice C r
  | none => input.variantSalePrice.getD input.salePrice

/-! ### The units of a line -/

structure TransactionUomInput where
  quantity : ℤ
  barcodeCode : Option String := none
  productUnitId : Option ℕ := none
  variantId : Option ℕ := none

structure TransactionUomSnapshot where
  (variantId productUnitId : Option ℕ)
  unitCode : String
  (unitQuantity quantityFactor baseQuantity : ℤ)
  sourceBarcode : Option String
  (sellingUnitPrice baseUnitPrice : ℚ)
  deriving DecidableEq

structure SellingUnit where
  unitCode : String
  quantityFactor : ℤ := 1
  sourceBarcode : Option String := none
  productUnitId : Option ℕ := none
  variantId : Option ℕ := none
  variantSalePrice : Option ℚ := none

def ensure (c : Prop) [Decidable c] (message : String) : Except Failure Unit :=
  if c then .ok () else .error (.badRequest message)

def found {α : Type} (o : Option α) (message : String) : Except Failure α :=
  match o with
  | some a => .ok a
  | none => .error (.badRequest message)

def baseUnitOf (C : LetterCase) (product : Product) : String :=
  C.toUpperCase (if product.unit = "" then "PCS" else product.unit)

def variantOf (db : CatalogDb) (variantId : Option ℕ) : Option ProductVariant :=
  variantId.bind db.variants.find?

def variantActive (db : CatalogDb) (variantId : Option ℕ) : Bool :=
  (variantOf db variantId).any ProductVariant.isActive

def variantPrice (db : CatalogDb) (variantId : Option ℕ) : Option ℚ :=
  (variantOf db variantId).bind ProductVariant.salePrice

def selectUnit (C : LetterCase) (db : CatalogDb) (product : Product) (line : SellingUnit)
    (productUnitId : Option ℕ) : Except Failure SellingUnit :=
  match productUnitId with
  | none => .ok line
  | some id => do
    let unit ← found ((db.units.find? id).filter fun u => u.productId = product.id && u.isActive)
      "ProductUnit tidak valid/aktif untuk produk yang dipilih."
    ensure (line.variantId = none ∨ unit.variantId = line.variantId)
      "Variant tidak cocok dengan ProductUnit yang dipilih."
    ensure (unit.variantId = none ∨ variantActive db unit.variantId = true)
      "Variant ProductUnit sudah tidak aktif."
    pure { line with
      productUnitId := some unit.id
      variantId := unit.variantId.or line.variantId
      unitCode := C.toUpperCase unit.unitCode
      quantityFactor := unit.quantityFactor
      variantSalePrice := variantPrice db unit.variantId }

def barcodeUnit (C : LetterCase) (db : CatalogDb) (baseUnit code : String) (barcode : ProductBarcode)
    (line : SellingUnit) : Except Failure SellingUnit :=
  match barcode.productUnitId with
  | some id => do
    let unit ← found ((db.units.find? id).filter ProductUnit.isActive)
      s!"ProductUnit untuk barcode {code} sudah tidak aktif."
    ensure (line.productUnitId = none ∨ line.productUnitId = some unit.id)
      "Barcode tidak cocok dengan ProductUnit yang dipilih."
    ensure (unit.variantId = none ∨ variantActive db unit.variantId = true)
      s!"Variant ProductUnit untuk barcode {code} sudah tidak aktif."
    pure { line with
      productUnitId := some unit.id
      unitCode := C.toUpperCase unit.unitCode
      quantityFactor := unit.quantityFactor
      variantId := (unit.variantId.or barcode.variantId).or line.variantId
      variantSalePrice := (variantPrice db unit.variantId).or line.variantSalePrice }
  | none => .ok { line with
      quantityFactor := barcode.quantityFactor
      unitCode := (orNull (barcode.unitCode.map C.toUpperCase)).getD baseUnit
      variantId := barcode.variantId.or line.variantId }

def selectBarcode (C : LetterCase) (db : CatalogDb) (product : Product) (line : SellingUnit)
    (code : String) : Except Failure SellingUnit := do
  let barcode ← found ((db.barcodes.find? code).filter fun b => b.productId = product.id)
    s!"Barcode {code} tidak valid untuk produk yang dipilih."
  let line ← barcodeUnit C db (baseUnitOf C product) code barcode { line with sourceBarcode := some code }
  ensure (barcode.variantId = none ∨ line.variantId = none ∨ barcode.variantId = line.variantId)
    "Barcode tidak cocok dengan variant yang dipilih."
  ensure (barcode.variantId = none ∨ variantActive db barcode.variantId = true)
    s!"Variant barcode {code} sudah tidak aktif."
  pure { line with variantSalePrice := (variantPrice db barcode.variantId).or line.variantSalePrice }

/-- The variant of a line without a barcode. -/
def selectVariant (db : CatalogDb) (product : Product) (line : SellingUnit) : Except Failure SellingUnit :=
  match line.variantId with
  | none => .ok line
  | some id => do
    let variant ← found ((db.variants.find? id).filter fun v => v.productId = product.id && v.isActive)
      "Variant tidak valid/aktif untuk produk yang dipilih."
    pure { line with variantSalePrice := variant.salePrice.or line.variantSalePrice }

def sellingUnit (C : LetterCase) (db : CatalogDb) (product : Product) (input : TransactionUomInput) :
    Except Failure SellingUnit := do
  let line : SellingUnit := { unitCode := baseUnitOf C product, variantId := input.variantId }
  let line ← selectUnit C db product line input.productUnitId
  match orNull input.barcodeCode with
  | some code => selectBarcode C db product line code
  | none => selectVariant db product line

/-- The price of a package where no row is in force. -/
def SellingUnit.packageFallback (line : SellingUnit) (product : Product) : ℚ :=
  line.variantSalePrice.getD product.salePrice * line.quantityFactor

def SellingUnit.priceInput (line : SellingUnit) (product : Product) (quantity : ℤ)
    (segmentCode : Option String) : ResolvePriceInput where
  productId := product.id
  salePrice := line.packageFallback product
  quantity := quantity
  segmentCode := segmentCode
  unitCode := some line.unitCode
  unitFactor := some line.quantityFactor
  variantId := line.variantId
  variantSalePrice := some (line.packageFallback product)

def resolveSellingUnitLine (C : LetterCase) (db : CatalogDb) (scope : TenantScope) (product : Product)
    (input : TransactionUomInput) (segmentCode : Option String) (occurredAt : ℕ) :
    Except Failure TransactionUomSnapshot := do
  let line ← sellingUnit C db product input
  ensure (isSafeInteger line.quantityFactor = true ∧ 1 ≤ line.quantityFactor)
    "Konversi unit tidak aman untuk stok integer."
  ensure (line.quantityFactor ≤ 1 ∨ line.unitCode ≠ baseUnitOf C product)
    s!"Unit dengan factor > 1 wajib berbeda dari base unit {baseUnitOf C product}."
  ensure (isSafeInteger input.quantity = true ∧ 1 ≤ input.quantity ∧
      isSafeInteger (input.quantity * line.quantityFactor) = true ∧
      1 ≤ input.quantity * line.quantityFactor)
    "Hasil konversi unit melebihi batas quantity integer yang aman."
  let sellingUnitPrice :=
    resolveProductUnitPrice C db scope occurredAt (line.priceInput product input.quantity segmentCode)
  pure
    { variantId := line.variantId
      productUnitId := line.productUnitId
      unitCode := line.unitCode
      unitQuantity := input.quantity
      quantityFactor := line.quantityFactor
      baseQuantity := input.quantity * line.quantityFactor
      sourceBarcode := line.sourceBarcode
      sellingUnitPrice := sellingUnitPrice
      baseUnitPrice := toDecimalPlaces (sellingUnitPrice / line.quantityFactor) 6 }

end Mayatoko.Catalog
