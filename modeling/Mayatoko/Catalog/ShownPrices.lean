import Mayatoko.Catalog.Pricing

/-!
# The prices that the catalogue shows

`list` and `findOne` of `ProductsService` show a price for every product and for each of its active units. A
line of one unit is charged the same price, except where no price row is in force for a unit of several base
units without a price of its own: the catalogue then shows the price of a single base unit.
-/

namespace Mayatoko.Catalog

open Core

structure PricedUnit where
  unit : ProductUnit
  effectiveSalePrice : ℚ

structure PricedProduct where
  product : Product
  units : List PricedUnit
  effectiveSalePrice : ℚ

def Product.shownInput (product : Product) : ResolvePriceInput where
  productId := product.id
  salePrice := product.salePrice
  quantity := 1
  segmentCode := some "RETAIL"
  unitCode := some product.unit

def ProductUnit.shownInput (db : CatalogDb) (product : Product) (unit : ProductUnit) :
    ResolvePriceInput where
  productId := product.id
  salePrice := product.salePrice
  quantity := 1
  segmentCode := some "RETAIL"
  unitCode := some unit.unitCode
  unitFactor := some unit.quantityFactor
  variantId := unit.variantId
  variantSalePrice := (variantPrice db unit.variantId).map (· * (unit.quantityFactor : ℚ))

def shownUnits (db : CatalogDb) (product : Product) : List ProductUnit :=
  db.units.findSorted (fun u => u.productId = product.id && u.isActive) fun a b =>
    if a.variantId = b.variantId then
      if a.isDefaultSale = b.isDefaultSale then a.quantityFactor ≤ b.quantityFactor else a.isDefaultSale
    else a.variantId.getD 0 ≤ b.variantId.getD 0

def priced (C : LetterCase) (db : CatalogDb) (scope : TenantScope) (instant : ℕ) (product : Product) :
    PricedProduct where
  product := product
  units := (shownUnits db product).map fun unit =>
    ⟨unit, resolveProductUnitPrice C db scope instant (unit.shownInput db product)⟩
  effectiveSalePrice := resolveProductUnitPrice C db scope instant product.shownInput

/-- A page of the products of the company; `wanted` is the search and the cursor of the request. -/
def list (C : LetterCase) (db : CatalogDb) (scope : TenantScope) (instant : ℕ) (wanted : Product → Bool)
    (includeInactive : Bool) (limit : ℕ) : List PricedProduct :=
  let rows := db.products.findSorted
    (fun p => p.companyId = some scope.companyId && (includeInactive || p.isActive) && wanted p)
    fun a b => a.name < b.name || a.name = b.name && a.id ≤ b.id
  (rows.take limit).map (priced C db scope instant)

def findOne (C : LetterCase) (db : CatalogDb) (scope : TenantScope) (instant id : ℕ) :
    Except Failure PricedProduct :=
  match (db.products.find? id).filter fun p => p.companyId = some scope.companyId && p.isActive with
  | some product => .ok (priced C db scope instant product)
  | none =>
    if (db.products.find? id).isSome then .error (tenantAccessDenied "Product")
    else .error (.notFound "Produk tidak ditemukan.")

def Shown (C : LetterCase) (db : CatalogDb) (scope : TenantScope) (instant : ℕ) (p : PricedProduct) : Prop :=
  (∃ wanted includeInactive limit, p ∈ list C db scope instant wanted includeInactive limit) ∨
    ∃ id, findOne C db scope instant id = .ok p

def chargeBase (C : LetterCase) (db : CatalogDb) (scope : TenantScope) (instant : ℕ) (product : Product) :
    Except Failure TransactionUomSnapshot :=
  resolveSellingUnitLine C db scope product { quantity := 1 } (some "RETAIL") instant

def chargeUnit (C : LetterCase) (db : CatalogDb) (scope : TenantScope) (instant : ℕ) (product : Product)
    (unit : ProductUnit) : Except Failure TransactionUomSnapshot :=
  resolveSellingUnitLine C db scope product { quantity := 1, productUnitId := some unit.id } (some "RETAIL")
    instant

/-- The first price row for the unit as it is stored and the first one for the code that is charged ask for the
same; where there is none, the unit has a price of its own, is a single base unit, or costs nothing. -/
def PricedAlike (C : LetterCase) (db : CatalogDb) (scope : TenantScope) (instant : ℕ)
    (shown : ResolvePriceInput) (chargedCode : String) : Prop :=
  match firstRow C db scope instant shown,
    firstRow C db scope instant { shown with unitCode := some chargedCode } with
  | none, _ => shown.variantSalePrice.isSome = true ∨ shown.unitFactor.getD 1 = 1 ∨ shown.salePrice = 0
  | some r, some s => shown.rowPrice C r = shown.rowPrice C s
  | some r, none =>
    shown.rowPrice C r = shown.variantSalePrice.getD (shown.salePrice * shown.unitFactor.getD 1)

section FirstRow

variable {C : LetterCase} {db : CatalogDb} {scope : TenantScope} {instant : ℕ}

variable {input : ResolvePriceInput}

lemma firstRow_eq_none : firstRow C db scope instant input = none ↔
    ∀ r ∈ db.prices, ¬ inForce C db scope instant input r = true := by
  rw [firstRow, List.head?_eq_none_iff, ← List.length_eq_zero_iff, List.length_insertionSort,
    List.length_eq_zero_iff, List.take_eq_nil_iff]
  constructor
  · rintro (h | h) r hr hforce
    · cases h
    · have hmem := mem_findMany.mpr ⟨hr, hforce⟩
      rw [h] at hmem
      cases hmem
  · intro h
    right
    rw [List.eq_nil_iff_forall_not_mem]
    intro r hr
    obtain ⟨hr, hforce⟩ := mem_findMany.mp hr
    exact h r hr hforce

variable {other : ResolvePriceInput}

lemma firstRow_congr
    (hforce : ∀ r ∈ db.prices, inForce C db scope instant input r = inForce C db scope instant other r)
    (hbefore : before C scope.branchId input = before C scope.branchId other) :
    firstRow C db scope instant input = firstRow C db scope instant other := by
  have hrows : db.prices.findMany (inForce C db scope instant input) =
      db.prices.findMany (inForce C db scope instant other) := filter_congr hforce
  rw [firstRow, firstRow, hrows, hbefore]

lemma firstRow_eq (hproduct : input.productId = other.productId)
    (hquantity : input.quantity = other.quantity) (hsegment : input.segmentCode = other.segmentCode)
    (hunit : input.unitCode = other.unitCode) (hvariant : input.variantId = other.variantId) :
    firstRow C db scope instant input = firstRow C db scope instant other := by
  cases input
  cases other
  subst hproduct hquantity hsegment hunit hvariant
  rfl

end FirstRow

/-! ### What a line of one unit is charged -/

section Charged

variable {C : LetterCase} {db : CatalogDb} {scope : TenantScope} {instant : ℕ} {product : Product}

lemma found_eq_ok {α : Type} {o : Option α} {message : String} {a : α} :
    found o message = .ok a ↔ o = some a := by
  cases o <;> simp [found]

lemma ensure_eq_ok {c : Prop} [Decidable c] {message : String} {u : Unit} : ensure c message = .ok u ↔ c := by
  by_cases h : c <;> simp [ensure, h]

lemma sellingUnit_base {line : SellingUnit} (h : sellingUnit C db product { quantity := 1 } = .ok line) :
    line = { unitCode := baseUnitOf C product } := by
  obtain ⟨selected, hselect, hvariant⟩ := bind_eq_ok.mp h
  cases hselect
  cases hvariant
  rfl

lemma sellingUnit_unit {unit : ProductUnit} {line : SellingUnit} (hunit : unit ∈ db.units)
    (h : sellingUnit C db product { quantity := 1, productUnitId := some unit.id } = .ok line) :
    line = { unitCode := C.toUpperCase unit.unitCode, quantityFactor := unit.quantityFactor,
             productUnitId := some unit.id, variantId := unit.variantId,
             variantSalePrice := variantPrice db unit.variantId } := by
  obtain ⟨selected, hselect, hvariant⟩ := bind_eq_ok.mp h
  simp only [selectUnit, bind_eq_ok, found_eq_ok, ensure_eq_ok, pure_eq_ok] at hselect
  obtain ⟨row, hrow, _, _, _, _, rfl⟩ := hselect
  obtain ⟨hfind, _⟩ := Option.filter_eq_some_iff.mp hrow
  rw [find?_of_mem hunit, Option.some.injEq] at hfind
  subst hfind
  simp only [orNull, Option.filter_none, selectVariant] at hvariant
  cases hid : unit.variantId with
  | none =>
    simp only [hid, Option.or_none] at hvariant
    simpa [hid] using hvariant.symm
  | some id =>
    simp only [hid, Option.or_none, bind_eq_ok, found_eq_ok, pure_eq_ok] at hvariant
    obtain ⟨v, hv, rfl⟩ := hvariant
    obtain ⟨hfind, _⟩ := Option.filter_eq_some_iff.mp hv
    have hprice : variantPrice db (some id) = v.salePrice := by
      rw [variantPrice, variantOf, Option.bind_some, hfind, Option.bind_some]
    rw [hprice, Option.or_self]

lemma sellingUnitPrice_eq {input : TransactionUomInput} {segmentCode : Option String}
    {line : TransactionUomSnapshot}
    (h : resolveSellingUnitLine C db scope product input segmentCode instant = .ok line) :
    ∃ sold, sellingUnit C db product input = .ok sold ∧ line.sellingUnitPrice =
      resolveProductUnitPrice C db scope instant (sold.priceInput product input.quantity segmentCode) := by
  simp only [resolveSellingUnitLine, bind_eq_ok, pure_eq_ok] at h
  obtain ⟨sold, hsold, _, _, _, _, _, _, rfl⟩ := h
  exact ⟨sold, hsold, rfl⟩

end Charged

/-! ### Shown and charged -/

section Alike

variable {C : LetterCase} {db : CatalogDb} {scope : TenantScope} {instant : ℕ}
  {shown charged : ResolvePriceInput} {code : String}

variable {input : ResolvePriceInput} {raw : String}

lemma unit_of_code (h : input.unitCode = some raw) : input.unit C = orNull (some (C.toUpperCase raw)) := by
  rw [ResolvePriceInput.unit, h, Option.map_some]

lemma takesUnit_iff (h : input.unitCode = some raw)
    (hraw : C.toUpperCase raw ≠ "") {r : ProductPrice} :
    input.takesUnit C r = true ↔ ∀ k ∈ r.unitCode,
      k = C.toUpperCase raw ∨ k = C.toLowerCase (C.toUpperCase raw) ∨ k = raw := by
  have hunit : input.unit C = some (C.toUpperCase raw) := by
    rw [unit_of_code h, orNull, Option.filter_some_pos (by simpa using hraw)]
  have hne : raw ≠ "" := by
    rintro rfl
    exact hraw C.upper_empty
  have hcode : orNull input.unitCode = some raw := by
    rw [h, orNull, Option.filter_some_pos (by simpa using hne)]
  rw [ResolvePriceInput.takesUnit, hunit, ResolvePriceInput.unitCandidates, hunit, hcode]
  cases r.unitCode <;> simp

lemma takesUnit_of_empty (h : input.unitCode = some raw)
    (hraw : C.toUpperCase raw = "") (r : ProductPrice) : input.takesUnit C r = true := by
  rw [ResolvePriceInput.takesUnit, unit_of_code h, hraw]
  rfl

lemma takesUnit_of_charged (hraw : shown.unitCode = some raw)
    (hcode : raw = "" ∨ code = C.toUpperCase raw) {r : ProductPrice}
    (h : { shown with unitCode := some code }.takesUnit C r = true) : shown.takesUnit C r = true := by
  by_cases hempty : C.toUpperCase raw = ""
  · exact takesUnit_of_empty hraw hempty r
  · rcases hcode with rfl | rfl
    · exact absurd C.upper_empty hempty
    · rw [takesUnit_iff rfl (by rwa [C.upper_upper]), C.upper_upper] at h
      rw [takesUnit_iff hraw hempty]
      intro k hk
      rcases h k hk with hk | hk | hk
      · exact .inl hk
      · exact .inr (Or.inl hk)
      · exact .inl hk

lemma takesUnit_charged_iff (hraw : shown.unitCode = some raw) {r : ProductPrice}
    (hupper : ∀ k ∈ r.unitCode, C.toUpperCase k = k) :
    { shown with unitCode := some (C.toUpperCase raw) }.takesUnit C r = shown.takesUnit C r := by
  rw [Bool.eq_iff_iff]
  refine ⟨takesUnit_of_charged hraw (Or.inr rfl), fun h => ?_⟩
  by_cases hempty : C.toUpperCase raw = ""
  · exact takesUnit_of_empty rfl (by rw [hempty, C.upper_empty]) r
  · rw [takesUnit_iff hraw hempty] at h
    rw [takesUnit_iff rfl (by rwa [C.upper_upper]), C.upper_upper]
    intro k hk
    rcases h k hk with heq | heq | heq
    · exact .inl heq
    · exact .inr (Or.inl heq)
    · left
      rw [← hupper k hk, heq]

lemma inForce_code {r : ProductPrice} :
    inForce C db scope instant { shown with unitCode := some code } r = true ↔
      inForce C db scope instant { shown with unitCode := none } r = true ∧
        { shown with unitCode := some code }.takesUnit C r = true := by
  have hnone : { shown with unitCode := none }.takesUnit C r = true := rfl
  simp only [inForce, Bool.and_eq_true]
  constructor
  · rintro ⟨hrest, hunit⟩
    exact ⟨⟨hrest, hnone⟩, hunit⟩
  · rintro ⟨⟨hrest, _⟩, hunit⟩
    exact ⟨hrest, hunit⟩

lemma shown_code (hraw : shown.unitCode = some raw) : { shown with unitCode := some raw } = shown := by
  cases shown
  subst hraw
  rfl

lemma firstRow_charged_none (hraw : shown.unitCode = some raw)
    (hcode : raw = "" ∨ code = C.toUpperCase raw) (h : firstRow C db scope instant shown = none) :
    firstRow C db scope instant { shown with unitCode := some code } = none := by
  rw [firstRow_eq_none] at h ⊢
  intro r hr hforce
  obtain ⟨hrest, hunit⟩ := inForce_code.mp hforce
  have htakes := takesUnit_of_charged hraw hcode hunit
  rw [← shown_code hraw] at htakes
  have hstored := inForce_code.mpr ⟨hrest, htakes⟩
  rw [shown_code hraw] at hstored
  exact h r hr hstored

lemma firstRow_charged (hraw : shown.unitCode = some raw)
    (hupper : ∀ r ∈ db.prices, ∀ k ∈ r.unitCode, C.toUpperCase k = k) :
    firstRow C db scope instant { shown with unitCode := some (C.toUpperCase raw) } =
      firstRow C db scope instant shown := by
  have hunit : { shown with unitCode := some (C.toUpperCase raw) }.unit C = shown.unit C := by
    rw [unit_of_code rfl, unit_of_code hraw, C.upper_upper]
  refine firstRow_congr (fun r hr => ?_) ?_
  · rw [Bool.eq_iff_iff]
    have hstored : inForce C db scope instant { shown with unitCode := some raw } r = true ↔
        inForce C db scope instant { shown with unitCode := none } r = true ∧
          { shown with unitCode := some raw }.takesUnit C r = true := inForce_code
    rw [shown_code hraw] at hstored
    rw [inForce_code, takesUnit_charged_iff hraw (hupper r hr), ← hstored]
  · funext a b
    rw [before, before, hunit]
    rfl

lemma pricedAlike_iff (hfirst : firstRow C db scope instant charged =
      firstRow C db scope instant { shown with unitCode := some code })
    (hrow : ∀ r, charged.rowPrice C r = shown.rowPrice C r)
    (hfallback : charged.variantSalePrice.getD charged.salePrice =
      shown.variantSalePrice.getD (shown.salePrice * shown.unitFactor.getD 1))
    (hnone : firstRow C db scope instant shown = none →
      firstRow C db scope instant { shown with unitCode := some code } = none) :
    resolveProductUnitPrice C db scope instant shown = resolveProductUnitPrice C db scope instant charged ↔
      PricedAlike C db scope instant shown code := by
  rw [resolveProductUnitPrice, resolveProductUnitPrice, hfirst, hfallback, PricedAlike]
  cases hs : firstRow C db scope instant shown with
  | none =>
    rw [hnone hs]
    cases shown.variantSalePrice with
    | none =>
      simp only [Option.getD_none, Option.isSome_none, Bool.false_eq_true, false_or]
      rw [eq_comm, mul_right_eq_self₀, Int.cast_eq_one]
    | some price => simp
  | some r =>
    cases firstRow C db scope instant { shown with unitCode := some code } with
    | none => exact Iff.rfl
    | some s => simp only [hrow]

lemma pricedAlike_of_upper (hraw : shown.unitCode = some raw)
    (hupper : ∀ r ∈ db.prices, ∀ k ∈ r.unitCode, C.toUpperCase k = k) :
    PricedAlike C db scope instant shown (C.toUpperCase raw) ↔
      (∃ r ∈ db.prices, inForce C db scope instant shown r = true) ∨
        shown.variantSalePrice.isSome = true ∨ shown.unitFactor.getD 1 = 1 ∨ shown.salePrice = 0 := by
  rw [PricedAlike, firstRow_charged hraw hupper]
  cases h : firstRow C db scope instant shown with
  | none =>
    have hnone := firstRow_eq_none.mp h
    constructor
    · exact .inr
    · rintro (⟨r, hr, hforce⟩ | hrest)
      · exact absurd hforce (hnone r hr)
      · exact hrest
  | some r =>
    have hsome : ∃ r ∈ db.prices, inForce C db scope instant shown r = true := by
      by_contra hall
      push Not at hall
      rw [firstRow_eq_none.mpr hall] at h
      cases h
    exact iff_of_true rfl (Or.inl hsome)

end Alike

/-! ### The catalogue -/

section Catalogue

variable {C : LetterCase} {db : CatalogDb} {scope : TenantScope} {instant : ℕ} {p : PricedProduct}

lemma eq_priced_of_shown (h : Shown C db scope instant p) : p = priced C db scope instant p.product := by
  rcases h with ⟨wanted, includeInactive, limit, hp⟩ | ⟨id, hp⟩
  · obtain ⟨product, _, rfl⟩ := mem_map.mp hp
    rfl
  · rw [findOne] at hp
    split at hp
    · cases hp
      rfl
    · split at hp <;> cases hp

variable {line : TransactionUomSnapshot}

lemma shown_base_iff {product : Product} (h : chargeBase C db scope instant product = .ok line) :
    resolveProductUnitPrice C db scope instant product.shownInput = line.sellingUnitPrice ↔
      PricedAlike C db scope instant product.shownInput (baseUnitOf C product) := by
  obtain ⟨sold, hsold, hprice⟩ := sellingUnitPrice_eq h
  obtain rfl := sellingUnit_base hsold
  have hcode : product.unit = "" ∨ baseUnitOf C product = C.toUpperCase product.unit := by
    rcases eq_or_ne product.unit "" with hunit | hunit
    · exact .inl hunit
    · exact .inr (by rw [baseUnitOf, if_neg hunit])
  rw [hprice]
  refine pricedAlike_iff (firstRow_eq rfl rfl rfl rfl rfl) (fun r => ?_) ?_ (firstRow_charged_none rfl hcode)
  · simp [ResolvePriceInput.rowPrice, SellingUnit.priceInput, Product.shownInput]
  · simp [SellingUnit.priceInput, SellingUnit.packageFallback, Product.shownInput]

lemma shown_unit_iff {product : Product} {unit : ProductUnit}
    (hunit : unit ∈ db.units) (h : chargeUnit C db scope instant product unit = .ok line) :
    resolveProductUnitPrice C db scope instant (unit.shownInput db product) = line.sellingUnitPrice ↔
      PricedAlike C db scope instant (unit.shownInput db product) (C.toUpperCase unit.unitCode) := by
  obtain ⟨sold, hsold, hprice⟩ := sellingUnitPrice_eq h
  obtain rfl := sellingUnit_unit hunit hsold
  rw [hprice]
  refine pricedAlike_iff (firstRow_eq rfl rfl rfl rfl rfl) (fun r => ?_) ?_
    (firstRow_charged_none rfl (Or.inr rfl))
  · have hsame : (unit.shownInput db product).unit C =
        orNull (some (C.toUpperCase (C.toUpperCase unit.unitCode))) := by
      rw [C.upper_upper]
      exact unit_of_code rfl
    rw [ResolvePriceInput.rowPrice, ResolvePriceInput.rowPrice, hsame]
    rfl
  · simp only [SellingUnit.priceInput, SellingUnit.packageFallback, ProductUnit.shownInput, Option.getD_some]
    cases variantPrice db unit.variantId <;> rfl

/-- Every price that the catalogue shows is the one that is charged exactly where the two are priced alike. -/
theorem shown_eq_charged_iff (C : LetterCase) (db : CatalogDb) (scope : TenantScope) (instant : ℕ)
    (p : PricedProduct) (hp : Shown C db scope instant p) :
    (∀ line, chargeBase C db scope instant p.product = .ok line →
      (p.effectiveSalePrice = line.sellingUnitPrice ↔
        PricedAlike C db scope instant p.product.shownInput (baseUnitOf C p.product))) ∧
    ∀ u ∈ p.units, ∀ line, chargeUnit C db scope instant p.product u.unit = .ok line →
      (u.effectiveSalePrice = line.sellingUnitPrice ↔
        PricedAlike C db scope instant (u.unit.shownInput db p.product) (C.toUpperCase u.unit.unitCode)) := by
  have hpriced := eq_priced_of_shown hp
  constructor
  · intro line hline
    rw [hpriced]
    exact shown_base_iff hline
  · intro u hu line hline
    rw [hpriced] at hu
    obtain ⟨unit, hunit, rfl⟩ := mem_map.mp hu
    exact shown_unit_iff (Table.mem_findSorted.mp hunit).1 hline

end Catalogue

def tea : Product where
  id := 1
  companyId := some 1
  name := "Teh"
  unit := "PCS"
  salePrice := 10000

def box : ProductUnit where
  id := 2
  productId := 1
  unitCode := "BOX"
  quantityFactor := 12

def boxedDb (prices : Table ProductPrice.id) : CatalogDb where
  products := Table.empty.put tea
  variants := Table.empty
  units := Table.empty.put box
  barcodes := Table.empty
  prices := prices

def boxPrices : Table ProductPrice.id :=
  Table.empty.put { id := 3, productId := 1, unitCode := some "BOX", price := 100000, createdAt := 0 }

def boxLine (price : ℚ) : TransactionUomSnapshot where
  variantId := none
  productUnitId := some 2
  unitCode := "BOX"
  unitQuantity := 1
  quantityFactor := 12
  baseQuantity := 12
  sourceBarcode := none
  sellingUnitPrice := price
  baseUnitPrice := toDecimalPlaces (price / 12) 6

def shownBox (prices : Table ProductPrice.id) : PricedUnit where
  unit := box
  effectiveSalePrice :=
    resolveProductUnitPrice asciiCase (boxedDb prices) ⟨1, 1⟩ 0 (box.shownInput (boxedDb prices) tea)

variable {prices : Table ProductPrice.id}

lemma shownBox_mem : shownBox prices ∈ (priced asciiCase (boxedDb prices) ⟨1, 1⟩ 0 tea).units := by
  have hunits : shownUnits (boxedDb prices) tea = [box] := rfl
  rw [priced, hunits]
  exact mem_singleton.mpr rfl

lemma shown_tea : Shown asciiCase (boxedDb prices) ⟨1, 1⟩ 0 (priced asciiCase (boxedDb prices) ⟨1, 1⟩ 0 tea) :=
  Or.inr ⟨1, rfl⟩

theorem shown_eq_charged_box :
    chargeUnit asciiCase (boxedDb boxPrices) ⟨1, 1⟩ 0 tea box = .ok (boxLine 100000) ∧
    (shownBox boxPrices).effectiveSalePrice = (boxLine 100000).sellingUnitPrice := by
  have hline : chargeUnit asciiCase (boxedDb boxPrices) ⟨1, 1⟩ 0 tea box = .ok (boxLine 100000) := by
    decide +kernel
  have hiff := (shown_eq_charged_iff asciiCase (boxedDb boxPrices) ⟨1, 1⟩ 0 _ shown_tea).2 _ shownBox_mem _
    hline
  have hupper : ∀ r ∈ (boxedDb boxPrices).prices, ∀ k ∈ r.unitCode, asciiCase.toUpperCase k = k := by
    decide +kernel
  have hforce : ∃ r ∈ (boxedDb boxPrices).prices,
      inForce asciiCase (boxedDb boxPrices) ⟨1, 1⟩ 0 (box.shownInput (boxedDb boxPrices) tea) r = true := by
    decide +kernel
  exact ⟨hline, hiff.mpr ((pricedAlike_of_upper rfl hupper).mpr (Or.inl hforce))⟩

/-- Without a price row the box is shown for the price of a piece. -/
theorem not_shown_eq_charged_box : ¬ ∀ p, Shown asciiCase (boxedDb Table.empty) ⟨1, 1⟩ 0 p →
    ∀ u ∈ p.units, ∀ line,
    chargeUnit asciiCase (boxedDb Table.empty) ⟨1, 1⟩ 0 p.product u.unit = .ok line →
      u.effectiveSalePrice = line.sellingUnitPrice := by
  intro h
  have hline : chargeUnit asciiCase (boxedDb Table.empty) ⟨1, 1⟩ 0 tea box = .ok (boxLine 120000) := by
    decide +kernel
  have hne : (shownBox Table.empty).effectiveSalePrice ≠ (boxLine 120000).sellingUnitPrice := by
    decide +kernel
  exact hne (h _ shown_tea _ shownBox_mem _ hline)

end Mayatoko.Catalog
