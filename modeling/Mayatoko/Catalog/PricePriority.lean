import Mayatoko.Catalog.ShownPrices
import Mayatoko.Core.Best

/-!
# Which price row comes first

The comment on `resolveProductUnitPrice` wants the rows of the customer's segment before those for everybody,
and those of the branch before the company's only within a segment. The comparator looks at the branch first,
so a row of the branch for everybody comes before one of the company for the segment; and no more than a
hundred rows are compared.
-/

namespace Mayatoko.Catalog

open Core

variable {C : LetterCase} {db : CatalogDb} {scope : TenantScope} {instant : ℕ} {input : ResolvePriceInput}

/-! ### The order of the comparator -/

lemma markedFirst_total {α : Type} {f : α → Bool} {tie : α → α → Bool}
    (h : ∀ a b, tie a b = true ∨ tie b a = true) (a b : α) :
    markedFirst (f a) (f b) (tie a b) = true ∨ markedFirst (f b) (f a) (tie b a) = true := by
  unfold markedFirst
  cases hfa : f a <;> cases hfb : f b <;> simp [h a b]

lemma markedFirst_trans {α : Type} {f : α → Bool} {tie : α → α → Bool}
    (h : ∀ a b c, tie a b = true → tie b c = true → tie a c = true) (a b c : α)
    (hab : markedFirst (f a) (f b) (tie a b) = true) (hbc : markedFirst (f b) (f c) (tie b c) = true) :
    markedFirst (f a) (f c) (tie a c) = true := by
  unfold markedFirst at *
  cases hfa : f a <;> cases hfb : f b <;> cases hfc : f c <;> simp_all
  · exact h _ _ _ hab hbc
  · exact h _ _ _ hab hbc

namespace ResolvePriceInput

variable (C) (input)

def ofVariant (r : ProductPrice) : Bool := input.variantId.isSome && r.variantId = input.variantId

def ofSegment (r : ProductPrice) : Bool := r.segmentCode = input.segment C

def ofUnit (r : ProductPrice) : Bool := (input.unit C).isSome && r.unitCode.map C.toUpperCase = input.unit C

end ResolvePriceInput

def ofBranch (branchId : ℕ) (r : ProductPrice) : Bool := r.branchId = some branchId

/-- The larger quantity first, then the later row. -/
def larger (a b : ProductPrice) : Bool :=
  if a.minQty = b.minQty then b.createdAt ≤ a.createdAt else b.minQty < a.minQty

variable {branchId : ℕ}

lemma before_eq (a b : ProductPrice) : before C branchId input a b =
    markedFirst (input.ofVariant a) (input.ofVariant b) (markedFirst (ofBranch branchId a) (ofBranch branchId b)
      (markedFirst (input.ofSegment C a) (input.ofSegment C b)
        (markedFirst (input.ofUnit C a) (input.ofUnit C b) (larger a b)))) := rfl

lemma larger_total (a b : ProductPrice) : larger a b = true ∨ larger b a = true := by
  unfold larger
  split_ifs <;> grind

lemma larger_trans (a b c : ProductPrice) (hab : larger a b = true) (hbc : larger b c = true) :
    larger a c = true := by
  unfold larger at *
  split_ifs at * <;> grind

lemma before_total (branchId : ℕ) : Std.Total fun a b => before C branchId input a b = true :=
  ⟨markedFirst_total (markedFirst_total (markedFirst_total (markedFirst_total larger_total)))⟩

lemma before_trans (branchId : ℕ) : IsTrans ProductPrice fun a b => before C branchId input a b = true :=
  ⟨markedFirst_trans (markedFirst_trans (markedFirst_trans (markedFirst_trans larger_trans)))⟩

/-! ### The order of the comment -/

/-- Branch and segment, company and segment, branch and `RETAIL`, company and `RETAIL`. -/
def priorityClass (C : LetterCase) (branchId : ℕ) (input : ResolvePriceInput) (r : ProductPrice) : ℕ :=
  match input.ofSegment C r, ofBranch branchId r with
  | true, true => 0
  | true, false => 1
  | false, true => 2
  | false, false => 3

def Prior (C : LetterCase) (branchId : ℕ) (input : ResolvePriceInput) (a b : ProductPrice) : Prop :=
  priorityClass C branchId input a < priorityClass C branchId input b ∨
    priorityClass C branchId input a = priorityClass C branchId input b ∧ b.minQty ≤ a.minQty

def priceRows (C : LetterCase) (db : CatalogDb) (scope : TenantScope) (instant : ℕ)
    (input : ResolvePriceInput) :
    List ProductPrice :=
  db.prices.findMany (inForce C db scope instant input)

def AlikeRows (C : LetterCase) (input : ResolvePriceInput) (rows : List ProductPrice) : Prop :=
  ∀ a ∈ rows, ∀ b ∈ rows, input.ofVariant a = input.ofVariant b ∧ input.ofUnit C a = input.ofUnit C b

instance (C : LetterCase) (branchId : ℕ) (input : ResolvePriceInput) (a b : ProductPrice) :
    Decidable (Prior C branchId input a b) :=
  inferInstanceAs (Decidable (_ ∨ _))

instance (C : LetterCase) (input : ResolvePriceInput) (rows : List ProductPrice) :
    Decidable (AlikeRows C input rows) :=
  inferInstanceAs (Decidable (∀ a ∈ rows, ∀ b ∈ rows, _))

/-- The price is that of a row that comes first by the comment. -/
def PricedByPriority (C : LetterCase) (db : CatalogDb) (scope : TenantScope) (instant : ℕ)
    (input : ResolvePriceInput) : Prop :=
  ∃ r, Best (Prior C scope.branchId input) (priceRows C db scope instant input) (some r) ∧
    resolveProductUnitPrice C db scope instant input = input.rowPrice C r

/-- A row that comes first by the comment is read, and if it is one of the company for the segment, none of the
branch for everybody is. -/
def ReadsByPriority (C : LetterCase) (branchId : ℕ) (input : ResolvePriceInput)
    (rows : List ProductPrice) : Prop :=
  ∃ d ∈ rows.take 100, Best (Prior C branchId input) rows (some d) ∧
    (priorityClass C branchId input d = 1 → ∀ s ∈ rows.take 100, priorityClass C branchId input s ≠ 2)

variable {a b : ProductPrice}

lemma before_alike (hvariant : input.ofVariant a = input.ofVariant b)
    (hunit : input.ofUnit C a = input.ofUnit C b) : before C branchId input a b =
      markedFirst (ofBranch branchId a) (ofBranch branchId b)
        (markedFirst (input.ofSegment C a) (input.ofSegment C b) (larger a b)) := by
  rw [before_eq]
  unfold markedFirst
  rw [if_pos hvariant, if_pos hunit]

lemma minQty_le_of_larger (h : larger a b = true) : b.minQty ≤ a.minQty := by
  unfold larger at h
  split_ifs at h with heq
  · exact heq.ge
  · exact (of_decide_eq_true h).le

lemma prior_of_before (hvariant : input.ofVariant a = input.ofVariant b)
    (hunit : input.ofUnit C a = input.ofUnit C b) (h : before C branchId input a b = true) :
    Prior C branchId input a b ∨
      priorityClass C branchId input a = 2 ∧ priorityClass C branchId input b = 1 := by
  rw [before_alike hvariant hunit] at h
  unfold markedFirst at h
  unfold Prior priorityClass
  cases hbranch : ofBranch branchId a <;> cases hbranch' : ofBranch branchId b <;>
    cases hsegment : input.ofSegment C a <;> cases hsegment' : input.ofSegment C b <;>
    simp_all [minQty_le_of_larger]

lemma not_before_of_class (hvariant : input.ofVariant a = input.ofVariant b)
    (hunit : input.ofUnit C a = input.ofUnit C b) (ha : priorityClass C branchId input a = 1)
    (hb : priorityClass C branchId input b = 2) : ¬ before C branchId input a b = true := by
  rw [before_alike hvariant hunit]
  unfold markedFirst
  unfold priorityClass at ha hb
  cases hbranch : ofBranch branchId a <;> cases hbranch' : ofBranch branchId b <;>
    cases hsegment : input.ofSegment C a <;> cases hsegment' : input.ofSegment C b <;> simp_all

lemma firstRow_best {k : ProductPrice} (h : firstRow C db scope instant input = some k) :
    Best (fun a b => before C scope.branchId input a b = true)
      ((priceRows C db scope instant input).take 100) (some k) := by
  have : Std.Total fun a b => before C scope.branchId input a b = true := before_total scope.branchId
  have : IsTrans ProductPrice fun a b => before C scope.branchId input a b = true :=
    before_trans scope.branchId
  exact best_head_insertionSort h

lemma firstRow_prior_iff (halike : AlikeRows C input (priceRows C db scope instant input)) {k : ProductPrice}
    (h : firstRow C db scope instant input = some k) :
    Best (Prior C scope.branchId input) (priceRows C db scope instant input) (some k) ↔
      ReadsByPriority C scope.branchId input (priceRows C db scope instant input) := by
  obtain ⟨hread, hbefore⟩ := firstRow_best h
  have hk : k ∈ priceRows C db scope instant input := List.mem_of_mem_take hread
  constructor
  · refine fun hbest => ⟨k, hread, hbest, fun hclass s hs hclass' => ?_⟩
    obtain ⟨hvariant, hunit⟩ := halike k hk s (List.mem_of_mem_take hs)
    exact not_before_of_class hvariant hunit hclass hclass' (hbefore s hs)
  · rintro ⟨d, hd, hbest, hclass⟩
    obtain ⟨hvariant, hunit⟩ := halike k hk d hbest.1
    refine ⟨hk, fun s hs => ?_⟩
    have hds := hbest.2 s hs
    rcases prior_of_before hvariant hunit (hbefore d hd) with hkd | ⟨hk2, hd1⟩
    · unfold Prior at *
      grind
    · exact absurd hk2 (hclass hd1 k hread)

/-! ### Whatever the rows cost -/

def ProductPrice.reprice (price : ℕ → ℚ) (r : ProductPrice) : ProductPrice := { r with price := price r.id }

def CatalogDb.reprice (db : CatalogDb) (price : ℕ → ℚ) : CatalogDb :=
  { db with prices := (db.prices.updateMany (fun _ => true) (ProductPrice.reprice price)).1 }

lemma priceRows_reprice (price : ℕ → ℚ) : priceRows C (db.reprice price) scope instant input =
    (priceRows C db scope instant input).map (ProductPrice.reprice price) := by
  have hrows : (db.reprice price).prices.rows = db.prices.rows.map (ProductPrice.reprice price) :=
    map_congr_left fun r _ => if_pos rfl
  rw [priceRows, Table.findMany, hrows, List.filter_map]
  rfl

lemma firstRow_reprice (price : ℕ → ℚ) : firstRow C (db.reprice price) scope instant input =
    (firstRow C db scope instant input).map (ProductPrice.reprice price) := by
  have hrows : (db.reprice price).prices.findMany (inForce C (db.reprice price) scope instant input) =
      (db.prices.findMany (inForce C db scope instant input)).map (ProductPrice.reprice price) :=
    priceRows_reprice price
  have hsort (rows : List ProductPrice) :
      (rows.insertionSort fun a b => before C scope.branchId input a b = true).map
        (ProductPrice.reprice price) =
        (rows.map (ProductPrice.reprice price)).insertionSort fun a b =>
        before C scope.branchId input a b = true :=
    List.map_insertionSort _ _ _ _ fun _ _ _ _ => Iff.rfl
  rw [firstRow, firstRow, hrows, ← List.map_take, ← List.head?_map, hsort]

variable {r : ProductPrice}

lemma best_reprice {rows : List ProductPrice} (price : ℕ → ℚ) :
    Best (Prior C branchId input) (rows.map (ProductPrice.reprice price)) (some r) ↔
      ∃ s, Best (Prior C branchId input) rows (some s) ∧ r = s.reprice price := by
  constructor
  · rintro ⟨hr, hbest⟩
    obtain ⟨s, hs, rfl⟩ := mem_map.mp hr
    have hall := List.forall_mem_map.mp hbest
    exact ⟨s, ⟨hs, fun b hb => hall b hb⟩, rfl⟩
  · rintro ⟨s, ⟨hs, hbest⟩, rfl⟩
    exact ⟨mem_map_of_mem hs, List.forall_mem_map.mpr hbest⟩

lemma resolveProductUnitPrice_of_firstRow (h : firstRow C db scope instant input = some r) :
    resolveProductUnitPrice C db scope instant input = input.rowPrice C r := by
  rw [resolveProductUnitPrice, h]

lemma rowPrice_eq_zero_iff : input.rowPrice C r = 0 ↔ r.price = 0 := by
  simp only [ResolvePriceInput.rowPrice]
  split_ifs with hfactor
  · have hne : ((input.unitFactor.getD 1 : ℤ) : ℚ) ≠ 0 := by
      have := hfactor.2.2.2
      exact_mod_cast (by omega : input.unitFactor.getD 1 ≠ 0)
    exact mul_eq_zero_iff_right hne
  · rfl

lemma id_inj_priceRows {s : ProductPrice} (hr : r ∈ priceRows C db scope instant input)
    (hs : s ∈ priceRows C db scope instant input) (h : r.id = s.id) : r = s :=
  eq_of_key_eq (mem_findMany.mp hr).1 (mem_findMany.mp hs).1 h

theorem pricedByPriority_iff (C : LetterCase) (db : CatalogDb) (scope : TenantScope) (instant : ℕ)
    (input : ResolvePriceInput) (hrows : priceRows C db scope instant input ≠ [])
    (halike : AlikeRows C input (priceRows C db scope instant input)) :
    (∀ price, PricedByPriority C (db.reprice price) scope instant input) ↔
      ReadsByPriority C scope.branchId input (priceRows C db scope instant input) := by
  obtain ⟨k, hk⟩ : ∃ k, firstRow C db scope instant input = some k := by
    rw [← Option.ne_none_iff_exists', ne_eq, firstRow_eq_none]
    obtain ⟨r, hr⟩ := List.exists_mem_of_ne_nil _ hrows
    exact fun hnone => hnone r (mem_findMany.mp hr).1 (mem_findMany.mp hr).2
  have hfirst (price : ℕ → ℚ) : resolveProductUnitPrice C (db.reprice price) scope instant input =
      input.rowPrice C (k.reprice price) := by
    refine resolveProductUnitPrice_of_firstRow ?_
    rw [firstRow_reprice, hk]
    rfl
  rw [← firstRow_prior_iff halike hk]
  constructor
  · intro hpriced
    -- the row that is put first is the only one that costs anything
    obtain ⟨r, hbest, hprice⟩ := hpriced fun id => if id = k.id then 1 else 0
    rw [priceRows_reprice, best_reprice] at hbest
    obtain ⟨s, hbest, rfl⟩ := hbest
    have hkmem := List.mem_of_mem_take (firstRow_best hk).1
    suffices hid : s.id = k.id from id_inj_priceRows hbest.1 hkmem hid ▸ hbest
    by_contra hid
    rw [hfirst] at hprice
    have hzero : input.rowPrice C (s.reprice fun id => if id = k.id then 1 else 0) = 0 :=
      rowPrice_eq_zero_iff.mpr (if_neg hid)
    rw [hzero, rowPrice_eq_zero_iff] at hprice
    exact one_ne_zero ((if_pos rfl).symm.trans hprice)
  · intro hbest price
    refine ⟨k.reprice price, ?_, hfirst price⟩
    rw [priceRows_reprice, best_reprice]
    exact ⟨k, hbest, rfl⟩

def branchRow : ProductPrice := { id := 1, productId := 1, branchId := some 1, price := 15000, createdAt := 0 }

def wholesaleRow : ProductPrice :=
  { id := 2, productId := 1, segmentCode := "GROSIR", price := 12000, createdAt := 0 }

def wholesaleInput : ResolvePriceInput where
  productId := 1
  salePrice := 20000
  quantity := 1
  segmentCode := some "GROSIR"

theorem pricedByPriority_wholesale :
    PricedByPriority asciiCase ((boxedDb (Table.empty.put wholesaleRow)).reprice fun _ => 12000) ⟨1, 1⟩ 0
      wholesaleInput :=
  (pricedByPriority_iff asciiCase (boxedDb (Table.empty.put wholesaleRow)) ⟨1, 1⟩ 0 wholesaleInput
    (by decide +kernel) (by decide +kernel)).mpr
    ⟨wholesaleRow, by decide +kernel, ⟨by decide +kernel, by decide +kernel⟩, by decide +kernel⟩ _

/-- The wholesale customer pays the price for everybody. -/
theorem not_pricedByPriority_wholesale : AlikeRows asciiCase wholesaleInput
        (priceRows asciiCase (boxedDb ((Table.empty.put branchRow).put wholesaleRow)) ⟨1, 1⟩ 0 wholesaleInput) ∧
      ¬ PricedByPriority asciiCase (boxedDb ((Table.empty.put branchRow).put wholesaleRow)) ⟨1, 1⟩ 0
        wholesaleInput := by
  have hrows : priceRows asciiCase (boxedDb ((Table.empty.put branchRow).put wholesaleRow)) ⟨1, 1⟩ 0
      wholesaleInput = [branchRow, wholesaleRow] := by
    decide +kernel
  refine ⟨by decide +kernel, ?_⟩
  rintro ⟨r, ⟨hr, hbest⟩, hprice⟩
  rw [hrows] at hr hbest
  rcases mem_cons.mp hr with rfl | hr
  · exact absurd (hbest wholesaleRow (mem_cons_of_mem _ mem_cons_self)) (by decide +kernel)
  · rw [mem_singleton.mp hr] at hprice
    exact absurd hprice (by decide +kernel)

end Mayatoko.Catalog
