import Mayatoko.Catalog.ShownPrices

/-!
# What a line of a cart says about its unit

A line names a unit, a barcode and a variant. `resolveSellingUnitLine` reads them one after the other, and what
a barcode says replaces what was there: its unit is not checked to be one of the product, its own code and
factor replace those of the unit that the line names, and its variant that of the line, which is not looked up
where there is a barcode.
-/

namespace Mayatoko.Catalog

open Core

variable {C : LetterCase} {db : CatalogDb} {scope : TenantScope} {instant : ℕ} {product : Product}
  {input : TransactionUomInput} {line sold : SellingUnit}

def UnitAgrees (db : CatalogDb) (product : Product) (unitCode : String) (quantityFactor : ℤ) (id : ℕ) : Prop :=
  ∃ u ∈ db.units, u.id = id ∧ u.isActive = true ∧ u.productId = product.id ∧ u.unitCode = unitCode ∧
    u.quantityFactor = quantityFactor

def VariantOfProduct (db : CatalogDb) (product : Product) (id : ℕ) : Prop :=
  ∃ v ∈ db.variants, v.id = id ∧ v.isActive = true ∧ v.productId = product.id

structure Coherent (db : CatalogDb) (product : Product) (input : TransactionUomInput)
    (snapshot : TransactionUomSnapshot) : Prop where
  unit : ∀ id ∈ snapshot.productUnitId, UnitAgrees db product snapshot.unitCode snapshot.quantityFactor id
  variant : ∀ id ∈ snapshot.variantId, VariantOfProduct db product id
  asked : ∀ id ∈ input.variantId, snapshot.variantId = some id
  base : snapshot.baseQuantity = snapshot.unitQuantity * snapshot.quantityFactor
  safe : isSafeInteger snapshot.unitQuantity = true ∧ isSafeInteger snapshot.quantityFactor = true ∧
    isSafeInteger snapshot.baseQuantity = true

/-! ### When the line agrees -/

def askedUnit (db : CatalogDb) (product : Product) (input : TransactionUomInput) : Option ProductUnit :=
  input.productUnitId.bind fun id => (db.units.find? id).filter fun u => u.productId = product.id && u.isActive

def askedBarcode (db : CatalogDb) (product : Product) (input : TransactionUomInput) : Option ProductBarcode :=
  (orNull input.barcodeCode).bind fun code => (db.barcodes.find? code).filter fun b => b.productId = product.id

def barcodeUnitOf (db : CatalogDb) (barcode : ProductBarcode) : Option ProductUnit :=
  barcode.productUnitId.bind db.units.find?

def namedVariants (db : CatalogDb) (product : Product) (input : TransactionUomInput)
    (barcode : ProductBarcode) :
    Option ℕ :=
  ((barcodeUnitOf db barcode).bind ProductUnit.variantId).or
    (barcode.variantId.or (((askedUnit db product input).bind ProductUnit.variantId).or input.variantId))

/-- The code and the factor of a barcode without a unit. -/
def barcodeCodeOf (C : LetterCase) (product : Product) (barcode : ProductBarcode) : String :=
  (orNull (barcode.unitCode.map C.toUpperCase)).getD (baseUnitOf C product)

def UpperCased (C : LetterCase) (u : ProductUnit) : Prop := C.toUpperCase u.unitCode = u.unitCode

instance (C : LetterCase) (u : ProductUnit) : Decidable (UpperCased C u) :=
  inferInstanceAs (Decidable (_ = _))

structure BarcodeAgrees (C : LetterCase) (db : CatalogDb) (product : Product) (input : TransactionUomInput)
    (barcode : ProductBarcode) : Prop where
  ofProduct : ∀ u ∈ barcodeUnitOf db barcode, u.productId = product.id ∧ UpperCased C u
  sameUnit : barcode.productUnitId = none → ∀ u ∈ askedUnit db product input,
    u.unitCode = barcodeCodeOf C product barcode ∧ u.quantityFactor = barcode.quantityFactor
  variant : ∀ id ∈ namedVariants db product input barcode, VariantOfProduct db product id
  asked : ∀ id ∈ input.variantId, namedVariants db product input barcode = some id

def LineAgrees (C : LetterCase) (db : CatalogDb) (product : Product) (input : TransactionUomInput) : Prop :=
  match askedBarcode db product input with
  | none => ∀ u ∈ askedUnit db product input, UpperCased C u
  | some barcode => BarcodeAgrees C db product input barcode

/-! ### What each part of a line says -/

lemma selectUnit_eq_ok {id : Option ℕ} (h : selectUnit C db product line id = .ok sold) :
    (id = none ∧ sold = line) ∨ ∃ u, (id.bind fun id =>
        (db.units.find? id).filter fun u => u.productId = product.id && u.isActive) = some u ∧
      (line.variantId = none ∨ u.variantId = line.variantId) ∧
      sold.productUnitId = some u.id ∧ sold.unitCode = C.toUpperCase u.unitCode ∧
      sold.quantityFactor = u.quantityFactor ∧ sold.variantId = u.variantId.or line.variantId := by
  cases id with
  | none => exact .inl ⟨rfl, (Except.ok.inj h).symm⟩
  | some id =>
    right
    simp only [selectUnit, bind_eq_ok, found_eq_ok, ensure_eq_ok, pure_eq_ok] at h
    obtain ⟨u, hu, _, hsame, _, _, rfl⟩ := h
    exact ⟨u, hu, hsame, rfl, rfl, rfl, rfl⟩

lemma selectVariant_eq_ok (h : selectVariant db product line = .ok sold) :
    (∀ id ∈ line.variantId, VariantOfProduct db product id) ∧ sold.variantId = line.variantId ∧
      sold.productUnitId = line.productUnitId ∧ sold.unitCode = line.unitCode ∧
      sold.quantityFactor = line.quantityFactor := by
  cases hid : line.variantId with
  | none =>
    simp only [selectVariant, hid] at h
    obtain rfl := Except.ok.inj h
    exact ⟨fun id hnone => absurd hnone (Option.not_mem_none id), hid, rfl, rfl, rfl⟩
  | some id =>
    simp only [selectVariant, hid, bind_eq_ok, found_eq_ok, pure_eq_ok] at h
    obtain ⟨v, hv, rfl⟩ := h
    obtain ⟨hfind, hp⟩ := Option.filter_eq_some_iff.mp hv
    rw [Bool.and_eq_true, decide_eq_true_eq] at hp
    obtain ⟨hmem, hkey⟩ := find?_eq_some.mp hfind
    refine ⟨fun x hx => ?_, rfl, rfl, rfl, rfl⟩
    rw [← Option.some.inj hx]
    exact ⟨v, hmem, hkey, hp.2, hp.1⟩

lemma barcodeUnit_eq_ok {baseUnit code : String} {barcode : ProductBarcode}
    (h : barcodeUnit C db baseUnit code barcode line = .ok sold) :
    (∃ u, barcodeUnitOf db barcode = some u ∧ u.isActive = true ∧
      (line.productUnitId = none ∨ line.productUnitId = some u.id) ∧ sold.productUnitId = some u.id ∧
      sold.unitCode = C.toUpperCase u.unitCode ∧ sold.quantityFactor = u.quantityFactor ∧
      sold.variantId = (u.variantId.or barcode.variantId).or line.variantId) ∨
    (barcode.productUnitId = none ∧ sold.productUnitId = line.productUnitId ∧
      sold.unitCode = (orNull (barcode.unitCode.map C.toUpperCase)).getD baseUnit ∧
      sold.quantityFactor = barcode.quantityFactor ∧ sold.variantId = barcode.variantId.or line.variantId) := by
  cases hid : barcode.productUnitId with
  | none =>
    right
    simp only [barcodeUnit, hid] at h
    obtain rfl := Except.ok.inj h
    exact ⟨rfl, rfl, rfl, rfl, rfl⟩
  | some id =>
    left
    simp only [barcodeUnit, hid, bind_eq_ok, found_eq_ok, ensure_eq_ok, pure_eq_ok] at h
    obtain ⟨u, hu, _, hsame, _, _, rfl⟩ := h
    obtain ⟨hfind, hactive⟩ := Option.filter_eq_some_iff.mp hu
    refine ⟨u, ?_, hactive, hsame, rfl, rfl, rfl, rfl⟩
    rw [barcodeUnitOf, hid, Option.bind_some, hfind]

lemma selectBarcode_eq_ok {code : String} (h : selectBarcode C db product line code = .ok sold) :
    ∃ barcode bare, ((db.barcodes.find? code).filter fun b => b.productId = product.id) = some barcode ∧
      barcodeUnit C db (baseUnitOf C product) code barcode { line with sourceBarcode := some code } = .ok bare ∧
      sold.productUnitId = bare.productUnitId ∧ sold.unitCode = bare.unitCode ∧
      sold.quantityFactor = bare.quantityFactor ∧ sold.variantId = bare.variantId := by
  simp only [selectBarcode, bind_eq_ok, found_eq_ok, ensure_eq_ok, pure_eq_ok] at h
  obtain ⟨barcode, hbarcode, bare, hbare, _, _, _, _, rfl⟩ := h
  exact ⟨barcode, bare, hbarcode, hbare, rfl, rfl, rfl, rfl⟩

structure UnitRead (C : LetterCase) (db : CatalogDb) (product : Product) (input : TransactionUomInput)
    (line : SellingUnit) : Prop where
  productUnitId : line.productUnitId = (askedUnit db product input).map ProductUnit.id
  variantId : line.variantId = ((askedUnit db product input).bind ProductUnit.variantId).or input.variantId
  code : ∀ u ∈ askedUnit db product input,
    line.unitCode = C.toUpperCase u.unitCode ∧ line.quantityFactor = u.quantityFactor
  asked : ∀ u ∈ askedUnit db product input, input.variantId = none ∨ u.variantId = input.variantId

lemma unitRead (h : selectUnit C db product { unitCode := baseUnitOf C product, variantId := input.variantId }
    input.productUnitId = .ok line) : UnitRead C db product input line := by
  rcases selectUnit_eq_ok h with ⟨hnone, rfl⟩ | ⟨u, hu, hsame, hid, hcode, hfactor, hvariant⟩
  · have hasked : askedUnit db product input = none := by rw [askedUnit, hnone, Option.bind_none]
    constructor
    case productUnitId => rw [hasked, Option.map_none]
    case variantId => rw [hasked, Option.bind_none, Option.none_or]
    case code => exact fun u hu => absurd (hasked ▸ hu) (Option.not_mem_none u)
    case asked => exact fun u hu => absurd (hasked ▸ hu) (Option.not_mem_none u)
  · have hasked : askedUnit db product input = some u := hu
    constructor
    case productUnitId => rw [hasked, hid, Option.map_some]
    case variantId => rw [hasked, hvariant, Option.bind_some]
    case code =>
      intro x hx
      obtain rfl := mem_unique hasked hx
      exact ⟨hcode, hfactor⟩
    case asked =>
      intro x hx
      obtain rfl := mem_unique hasked hx
      exact hsame

lemma unitAgrees_iff {u : ProductUnit} (hu : u ∈ db.units) {code : String} {factor : ℤ} :
    UnitAgrees db product code factor u.id ↔
      u.isActive = true ∧ u.productId = product.id ∧ u.unitCode = code ∧ u.quantityFactor = factor := by
  constructor
  · rintro ⟨x, hx, hid, h⟩
    rwa [eq_of_key_eq hx hu hid] at h
  · exact fun h => ⟨u, hu, rfl, h⟩

lemma mem_askedUnit {u : ProductUnit} (h : u ∈ askedUnit db product input) :
    u ∈ db.units ∧ u.isActive = true ∧ u.productId = product.id := by
  obtain ⟨id, _, hu⟩ := Option.bind_eq_some_iff.mp h
  obtain ⟨hfind, hp⟩ := Option.filter_eq_some_iff.mp hu
  rw [Bool.and_eq_true, decide_eq_true_eq] at hp
  exact ⟨(find?_eq_some.mp hfind).1, hp.2, hp.1⟩

lemma askedUnit_agrees_iff {code : String} {factor : ℤ} :
    (∀ id ∈ (askedUnit db product input).map ProductUnit.id, UnitAgrees db product code factor id) ↔
      ∀ u ∈ askedUnit db product input, u.unitCode = code ∧ u.quantityFactor = factor := by
  constructor
  · intro h u hu
    obtain ⟨hmem, -, -⟩ := mem_askedUnit hu
    exact ((unitAgrees_iff hmem).mp (h u.id (Option.mem_map_of_mem _ hu))).2.2
  · intro h id hid
    obtain ⟨u, hu, rfl⟩ := Option.mem_map.mp hid
    obtain ⟨hmem, hactive, hproduct⟩ := mem_askedUnit hu
    exact (unitAgrees_iff hmem).mpr ⟨hactive, hproduct, h u hu⟩

/-! ### The line as a whole -/

def SoldAgrees (db : CatalogDb) (product : Product) (input : TransactionUomInput) (sold : SellingUnit) : Prop :=
  (∀ id ∈ sold.productUnitId, UnitAgrees db product sold.unitCode sold.quantityFactor id) ∧
    (∀ id ∈ sold.variantId, VariantOfProduct db product id) ∧ ∀ id ∈ input.variantId, sold.variantId = some id

lemma soldAgrees_of_variant (hread : UnitRead C db product input line)
    (h : selectVariant db product line = .ok sold) :
    SoldAgrees db product input sold ↔ ∀ u ∈ askedUnit db product input, UpperCased C u := by
  obtain ⟨hvariant, hid, hunit, hcode, hfactor⟩ := selectVariant_eq_ok h
  have hasked : ∀ id ∈ input.variantId, line.variantId = some id := by
    intro id hinput
    rw [hread.variantId]
    cases hu : askedUnit db product input with
    | none => rwa [Option.bind_none, Option.none_or]
    | some u =>
      rcases hread.asked u hu with hnone | hsame
      · exact absurd (hnone ▸ hinput) (Option.not_mem_none id)
      · rw [Option.bind_some, hsame, Option.or_self]
        exact hinput
  rw [SoldAgrees, hid, hunit, hcode, hfactor, and_iff_left ⟨hvariant, hasked⟩, hread.productUnitId,
    askedUnit_agrees_iff]
  refine forall₂_congr fun u hu => ?_
  obtain ⟨hcode, hfactor⟩ := hread.code u hu
  rw [hcode, hfactor, and_iff_left rfl]
  exact eq_comm

/-- With a barcode, the line is coherent exactly if what the barcode says agrees with it. -/
lemma soldAgrees_of_barcode (hread : UnitRead C db product input line) {code : String}
    {barcode : ProductBarcode}
    (h : barcodeUnit C db (baseUnitOf C product) code barcode { line with sourceBarcode := some code } =
      .ok sold) :
    SoldAgrees db product input sold ↔ BarcodeAgrees C db product input barcode := by
  rcases barcodeUnit_eq_ok h with ⟨u, hu, hactive, -, hid, hcode, hfactor, hvariant⟩ |
    ⟨hnone, hid, hcode, hfactor, hvariant⟩
  · have hnamed : sold.variantId = namedVariants db product input barcode := by
      rw [hvariant, namedVariants, hu, Option.bind_some, Option.or_assoc, ← hread.variantId]
    have hmem : u ∈ db.units := by
      obtain ⟨id, _, hfind⟩ := Option.bind_eq_some_iff.mp hu
      exact (find?_eq_some.mp hfind).1
    have hagrees : (∀ id ∈ sold.productUnitId, UnitAgrees db product sold.unitCode sold.quantityFactor id) ↔
        u.productId = product.id ∧ UpperCased C u := by
      rw [hid, hcode, hfactor]
      simp only [Option.mem_some_iff, forall_eq']
      rw [unitAgrees_iff hmem, and_iff_right hactive, and_iff_left rfl, UpperCased, eq_comm (b := u.unitCode)]
    rw [SoldAgrees, hagrees, hnamed]
    constructor
    · rintro ⟨hproduct, hvariants, hasked⟩
      refine ⟨fun x hx => ?_, fun hnone => ?_, hvariants, hasked⟩
      · rwa [← mem_unique hu hx]
      · rw [barcodeUnitOf, hnone] at hu
        cases hu
    · exact fun hbarcode => ⟨hbarcode.ofProduct u hu, hbarcode.variant, hbarcode.asked⟩
  · have hbarcode : barcodeUnitOf db barcode = none := by rw [barcodeUnitOf, hnone, Option.bind_none]
    have hnamed : sold.variantId = namedVariants db product input barcode := by
      rw [hvariant, namedVariants, hbarcode, Option.bind_none, Option.none_or, ← hread.variantId]
    rw [SoldAgrees, hid, hcode, hfactor, hread.productUnitId, askedUnit_agrees_iff, hnamed]
    constructor
    · rintro ⟨hsame, hvariants, hasked⟩
      refine ⟨fun x hx => ?_, fun _ => hsame, hvariants, hasked⟩
      rw [hbarcode] at hx
      exact absurd hx (Option.not_mem_none x)
    · exact fun hbarcode => ⟨hbarcode.sameUnit hnone, hbarcode.variant, hbarcode.asked⟩

lemma soldAgrees_iff (h : sellingUnit C db product input = .ok sold) :
    SoldAgrees db product input sold ↔ LineAgrees C db product input := by
  obtain ⟨line, hselect, hrest⟩ := bind_eq_ok.mp h
  have hread := unitRead hselect
  cases hcode : orNull input.barcodeCode with
  | none =>
    rw [hcode] at hrest
    rw [LineAgrees, askedBarcode, hcode]
    exact soldAgrees_of_variant hread hrest
  | some code =>
    rw [hcode] at hrest
    obtain ⟨barcode, bare, hbarcode, hunit, hid, hunitCode, hfactor, hvariant⟩ := selectBarcode_eq_ok hrest
    rw [LineAgrees, askedBarcode, hcode, Option.bind_some, hbarcode, SoldAgrees, hid, hunitCode, hfactor,
      hvariant]
    exact soldAgrees_of_barcode hread hunit

theorem coherent_iff (C : LetterCase) (db : CatalogDb) (scope : TenantScope) (product : Product)
    (input : TransactionUomInput) (segmentCode : Option String) (occurredAt : ℕ)
    (snapshot : TransactionUomSnapshot)
    (h : resolveSellingUnitLine C db scope product input segmentCode occurredAt = .ok snapshot) :
    Coherent db product input snapshot ↔ LineAgrees C db product input := by
  simp only [resolveSellingUnitLine, bind_eq_ok, ensure_eq_ok, pure_eq_ok] at h
  obtain ⟨sold, hsold, _, hfactor, _, _, _, hbase, rfl⟩ := h
  rw [← soldAgrees_iff hsold]
  exact ⟨fun hcoherent => ⟨hcoherent.unit, hcoherent.variant, hcoherent.asked⟩, fun hagrees =>
    ⟨hagrees.1, hagrees.2.1, hagrees.2.2, rfl, hbase.1, hfactor.1, hbase.2.2.1⟩⟩

def barcodedDb : CatalogDb :=
  { boxedDb Table.empty with barcodes := Table.empty.put { code := "899", productId := 1 } }

def scannedLine : TransactionUomSnapshot where
  variantId := none
  productUnitId := some 2
  unitCode := "PCS"
  unitQuantity := 1
  quantityFactor := 1
  baseQuantity := 1
  sourceBarcode := some "899"
  sellingUnitPrice := 10000
  baseUnitPrice := 10000

theorem coherent_box :
    Coherent (boxedDb Table.empty) tea { quantity := 1, productUnitId := some 2 } (boxLine 120000) :=
  (coherent_iff asciiCase (boxedDb Table.empty) ⟨1, 1⟩ tea _ (some "RETAIL") 0 _ (by decide +kernel)).mpr
    (by
      intro u hu
      obtain rfl : box = u := Option.some.inj hu
      decide +kernel)

/-- The piece is sold as the box. -/
theorem not_coherent_scanned : resolveSellingUnitLine asciiCase barcodedDb ⟨1, 1⟩ tea
        { quantity := 1, barcodeCode := some "899", productUnitId := some 2 } (some "RETAIL") 0 =
          .ok scannedLine ∧
      ¬ Coherent barcodedDb tea { quantity := 1, barcodeCode := some "899", productUnitId := some 2 }
        scannedLine := by
  refine ⟨by decide +kernel, fun h => ?_⟩
  have hbox : box ∈ barcodedDb.units := mem_singleton.mpr rfl
  have hagrees := (unitAgrees_iff hbox).mp (h.unit 2 rfl)
  exact absurd hagrees.2.2.1 (by decide)

end Mayatoko.Catalog
