import Mathlib.Algebra.Order.BigOperators.Group.List
import Mayatoko.Core.Best
import Mayatoko.Core.Decimal
import Mayatoko.Promotions.Service

/-!
# Discounts of promotion rules

`computeLineAwareDiscount`: what a rule grants for the lines that it is scoped to, cut by its maximum, by the
subtotal and by that of these lines. Free units are taken from the cheapest lines first. Amounts are exact.
-/

namespace Mayatoko.Promotions

open Core

structure PromotionLine where
  productId : String
  (quantity unitPrice : ℚ)

structure PromoShape where
  type : String
  value : ℚ
  minSubtotal : ℚ := 0
  maxDiscount : Option ℚ := none
  productIds : Json := .null
  minQuantity : Option ℤ := none
  buyQuantity : Option ℤ := none
  getQuantity : Option ℤ := none

def productIdsOf (value : Json) : List String :=
  (((value.items.filterMap Json.string?).filter fun item => trim item ≠ "").map trim).eraseDups

def PromotionLine.total (line : PromotionLine) : ℚ := line.unitPrice * line.quantity

def PromotionLine.units (line : PromotionLine) : ℕ := ⌊line.quantity⌋.toNat

def totalOf (lines : List PromotionLine) : ℚ := (lines.map PromotionLine.total).sum

def quantityOf (lines : List PromotionLine) : ℕ := (lines.map PromotionLine.units).sum

def atLeastOne (n : Option ℤ) : ℕ := (max 1 (n.getD 1)).toNat

namespace PromoShape

variable (rule : PromoShape)

def eligible (lines : List PromotionLine) : List PromotionLine :=
  lines.filter fun line =>
    productIdsOf rule.productIds = [] || (productIdsOf rule.productIds).contains line.productId

def freeUnits (eligibleQuantity : ℕ) : ℕ :=
  eligibleQuantity / (atLeastOne rule.buyQuantity + atLeastOne rule.getQuantity) * atLeastOne rule.getQuantity

end PromoShape

def freeLoop : List PromotionLine → ℕ → ℚ → ℚ
  | [], _, discount => discount
  | line :: lines, remaining, discount =>
    if remaining = 0 then discount
    else
      let freeFromLine := min remaining line.units
      freeLoop lines (remaining - freeFromLine) (discount + line.unitPrice * freeFromLine)

def sortedByPrice (lines : List PromotionLine) : List PromotionLine :=
  lines.insertionSort fun a b => a.unitPrice ≤ b.unitPrice

def PromoShape.grant (rule : PromoShape) (baseForSimple : ℚ) (eligible : List PromotionLine) :
    Except Failure ℚ :=
  if rule.type = "PERCENT" then pure (baseForSimple * rule.value / 100)
  else if rule.type = "AMOUNT" then pure rule.value
  else if rule.type = "QUANTITY_BREAK" then
    pure (if atLeastOne rule.minQuantity ≤ quantityOf eligible then totalOf eligible * rule.value / 100 else 0)
  else if rule.type = "BOGO" then
    pure (freeLoop (sortedByPrice eligible) (rule.freeUnits (quantityOf eligible)) 0)
  else if rule.type = "BUNDLE" then
    pure (rule.value * (quantityOf eligible / atLeastOne rule.minQuantity : ℕ))
  else throw (.badRequest s!"Tipe promo {rule.type} belum didukung.")

def computeLineAwareDiscount (rule : PromoShape) (subtotal : ℚ) (lines : List PromotionLine) :
    Except Failure ℚ :=
  if subtotal < rule.minSubtotal then pure 0
  else do
    let eligible := rule.eligible lines
    let baseForSimple := if lines = [] then subtotal else totalOf eligible
    let discount ← rule.grant baseForSimple eligible
    let eligibleCap := if baseForSimple = 0 then subtotal else baseForSimple
    let discount := match rule.maxDiscount with
      | some cap => if cap < discount then cap else discount
      | none => discount
    let discount := if subtotal < discount then subtotal else discount
    let discount := if eligibleCap < discount then eligibleCap else discount
    let discount := if discount < 0 then 0 else discount
    pure (toDecimalPlaces discount 2)

/-- Two shirts at 50 and one at 80; every third one is free. -/
example : computeLineAwareDiscount
    { type := "BOGO", value := 0, buyQuantity := some 2, getQuantity := some 1 } 180
    [⟨"shirt", 1, 80⟩, ⟨"shirt", 2, 50⟩] = .ok 50 := by
  decide +kernel

/-! ### Free units -/

section Free

variable {rule : PromoShape} {line line' : PromotionLine} {lines lines' : List PromotionLine} {remaining : ℕ}
  {discount : ℚ}

def unitsOf (lines : List PromotionLine) : List ℚ :=
  lines.flatMap fun line => List.replicate line.units line.unitPrice

lemma unitsOf_cons : unitsOf (line :: lines) = List.replicate line.units line.unitPrice ++ unitsOf lines :=
  List.flatMap_cons ..

lemma length_unitsOf : (unitsOf lines).length = quantityOf lines := by
  induction lines with
  | nil => rfl
  | cons line lines ih =>
    rw [unitsOf_cons, List.length_append, List.length_replicate, ih, quantityOf, quantityOf, map_cons, sum_cons]

lemma freeLoop_eq : freeLoop lines remaining discount = discount + ((unitsOf lines).take remaining).sum := by
  induction lines generalizing remaining discount with
  | nil =>
    rw [unitsOf, List.flatMap_nil, List.take_nil, List.sum_nil, add_zero]
    rfl
  | cons line lines ih =>
    rw [freeLoop]
    by_cases hnone : remaining = 0
    · rw [if_pos hnone, hnone, List.take_zero, List.sum_nil, add_zero]
    · rw [if_neg hnone, unitsOf_cons, List.take_append, List.take_replicate, List.length_replicate,
        List.sum_append,
        List.sum_replicate, nsmul_eq_mul, ih, mul_comm line.unitPrice, add_assoc]
      -- what is left is taken from the other lines
      rcases le_total remaining line.units with hle | hle
      · rw [min_eq_left hle, Nat.sub_self, Nat.sub_eq_zero_of_le hle]
      · rw [min_eq_right hle]

lemma perm_unitsOf (h : lines.Perm lines') : (unitsOf lines).Perm (unitsOf lines') := h.flatMap_right _

lemma pairwise_unitsOf (h : lines.Pairwise fun a b => a.unitPrice ≤ b.unitPrice) :
    (unitsOf lines).Pairwise (· ≤ ·) := by
  induction lines with
  | nil => exact .nil
  | cons line lines ih =>
    obtain ⟨hline, hlines⟩ := List.pairwise_cons.mp h
    rw [unitsOf_cons, List.pairwise_append]
    refine ⟨List.pairwise_replicate.mpr (Or.inr le_rfl), ih hlines, fun a ha b hb => ?_⟩
    obtain ⟨other, hother, hb⟩ := List.mem_flatMap.mp hb
    rw [List.eq_of_mem_replicate ha, List.eq_of_mem_replicate hb]
    exact hline other hother

lemma freeLoop_sorted : freeLoop (sortedByPrice lines) remaining 0 = cheapest remaining (unitsOf lines) := by
  have hperm : (sortedByPrice lines).Perm lines := List.perm_insertionSort _ lines
  have htotal : Std.Total fun a b : PromotionLine => a.unitPrice ≤ b.unitPrice := ⟨fun a b => le_total _ _⟩
  have htrans : IsTrans PromotionLine fun a b => a.unitPrice ≤ b.unitPrice := ⟨fun _ _ _ => le_trans⟩
  have hsorted : (sortedByPrice lines).Pairwise fun a b => a.unitPrice ≤ b.unitPrice :=
    List.pairwise_insertionSort _ lines
  rw [freeLoop_eq, zero_add, cheapest_of_pairwise (perm_unitsOf hperm) (pairwise_unitsOf hsorted)]

lemma freeUnits_le (n : ℕ) : rule.freeUnits n ≤ n := by
  rw [PromoShape.freeUnits]
  calc n / (atLeastOne rule.buyQuantity + atLeastOne rule.getQuantity) * atLeastOne rule.getQuantity
      ≤ n / (atLeastOne rule.buyQuantity + atLeastOne rule.getQuantity) *
          (atLeastOne rule.buyQuantity + atLeastOne rule.getQuantity) :=
        Nat.mul_le_mul_left _ (Nat.le_add_left _ _)
    _ ≤ n := Nat.div_mul_le_self _ _

lemma grant_bogo (h : rule.type = "BOGO") (base : ℚ) :
    rule.grant base lines = .ok (cheapest (rule.freeUnits (unitsOf lines).length) (unitsOf lines)) := by
  rw [PromoShape.grant, h, if_neg (by decide), if_neg (by decide), if_neg (by decide), if_pos rfl,
    freeLoop_sorted,
    length_unitsOf]
  rfl

lemma unitsOf_split {m n : ℕ} {productId productId' productId'' : String} {price : ℚ} :
    unitsOf (⟨productId, (m + n : ℕ), price⟩ :: lines) =
      unitsOf (⟨productId', m, price⟩ :: ⟨productId'', n, price⟩ :: lines) := by
  simp only [unitsOf_cons, PromotionLine.units, Int.floor_natCast, Int.toNat_natCast, List.replicate_add,
    append_assoc]

/-- Before it is cut, the discount of free units is what the cheapest ones of the eligible units come to, as
many as are free. So no choice of as many units comes to less, and it does not matter how the units are
arranged in lines. -/
theorem bogo_cheapest (rule : PromoShape) (h : rule.type = "BOGO") (base : ℚ) (eligible : List PromotionLine) :
    ∃ discount, rule.grant base eligible = .ok discount ∧
      discount = cheapest
        ((unitsOf eligible).length / (atLeastOne rule.buyQuantity + atLeastOne rule.getQuantity) *
        atLeastOne rule.getQuantity) (unitsOf eligible) ∧
      IsLeast {total | ∃ choice : List ℚ, choice.Subperm (unitsOf eligible) ∧
        choice.length = (unitsOf eligible).length /
            (atLeastOne rule.buyQuantity + atLeastOne rule.getQuantity) *
          atLeastOne rule.getQuantity ∧ choice.sum = total} discount ∧
      (∀ base' eligible', (unitsOf eligible').Perm (unitsOf eligible) →
        rule.grant base' eligible' = .ok discount) ∧
      (∀ base' eligible', eligible'.Perm eligible → rule.grant base' eligible' = .ok discount) ∧
      ∀ base' before after productId productId' productId'' (m n : ℕ) price,
        eligible = before ++ ⟨productId, (m + n : ℕ), price⟩ :: after →
          rule.grant base' (before ++ ⟨productId', m, price⟩ :: ⟨productId'', n, price⟩ :: after) =
            .ok discount := by
  have hsame (base' : ℚ) (eligible' : List PromotionLine)
      (hperm : (unitsOf eligible').Perm (unitsOf eligible)) :
      rule.grant base' eligible' =
        .ok (cheapest (rule.freeUnits (unitsOf eligible).length) (unitsOf eligible)) := by
    rw [grant_bogo h, hperm.length_eq, cheapest_congr hperm]
  refine ⟨_, grant_bogo h base, rfl, isLeast_cheapest (freeUnits_le _), hsame,
    fun base' eligible' hperm => hsame base' eligible' (perm_unitsOf hperm), ?_⟩
  rintro base' before after productId productId' productId'' m n price rfl
  refine hsame base' _ (List.Perm.of_eq ?_)
  have happend (lines : List PromotionLine) : unitsOf (before ++ lines) = unitsOf before ++ unitsOf lines :=
    List.flatMap_append ..
  rw [happend, happend, unitsOf_split]

theorem bogo_cheapest_shirts : ∃ discount, PromoShape.grant
    { type := "BOGO", value := 0, buyQuantity := some 2 } 180
      [⟨"shirt", 1, 80⟩, ⟨"shirt", 2, 50⟩] = .ok discount ∧ discount = 50 := by
  obtain ⟨discount, hgrant, hcheapest, _⟩ :=
    bogo_cheapest { type := "BOGO", value := 0, buyQuantity := some 2 } rfl 180
    [⟨"shirt", 1, 80⟩, ⟨"shirt", 2, 50⟩]
  exact ⟨discount, hgrant, hcheapest.trans (by decide +kernel)⟩

end Free

/-! ### Discounts and what they are cut by -/

section Contained

variable {rule : PromoShape} {lines : List PromotionLine} {subtotal x y c : ℚ}

/-- Rounded, an amount is no more than a bound: it is less than half a cent above the whole cents of it. -/
def Fits (x c : ℚ) : Prop := x < (⌊100 * c⌋ + 1 / 2) / 100

lemma toDecimalPlaces_le_iff (hx : 0 ≤ x) : toDecimalPlaces x 2 ≤ c ↔ Fits x c := by
  have hround : toDecimalPlaces x 2 = ⌊100 * x + 1 / 2⌋ / 100 := by
    have hpos : 0 ≤ x * 10 ^ 2 := by positivity
    have hscale : x * 10 ^ 2 = 100 * x := by ring
    rw [toDecimalPlaces, roundHalfUp, if_pos hpos, hscale]
    norm_num
  rw [hround, Fits, div_le_iff₀ (by norm_num), lt_div_iff₀ (by norm_num), mul_comm c, mul_comm x,
    ← Int.le_floor,
    ← Int.lt_add_one_iff, Int.floor_lt]
  push_cast
  constructor <;> intro h <;> linarith

lemma fits_min : Fits (min x y) c ↔ Fits x c ∨ Fits y c := min_lt_iff

def promoTypes : List String := ["PERCENT", "AMOUNT", "QUANTITY_BREAK", "BOGO", "BUNDLE"]

/-- What a rule grants for lines: a percentage of the eligible ones, an amount, the cheapest of their units, or
an amount for each bundle of them. -/
def PromoShape.due (rule : PromoShape) (lines : List PromotionLine) : ℚ :=
  let eligible := rule.eligible lines
  if rule.type = "PERCENT" then totalOf eligible * rule.value / 100
  else if rule.type = "AMOUNT" then rule.value
  else if rule.type = "QUANTITY_BREAK" then
    if atLeastOne rule.minQuantity ≤ quantityOf eligible then totalOf eligible * rule.value / 100 else 0
  else if rule.type = "BOGO" then cheapest (rule.freeUnits (quantityOf eligible)) (unitsOf eligible)
  else rule.value * (quantityOf eligible / atLeastOne rule.minQuantity : ℕ)

lemma grant_eq_due (htype : rule.type ∈ promoTypes) :
    rule.grant (totalOf (rule.eligible lines)) (rule.eligible lines) = .ok (rule.due lines) := by
  rw [PromoShape.grant, PromoShape.due, freeLoop_sorted]
  split_ifs
  all_goals first | rfl | skip
  exfalso
  simp only [promoTypes, mem_cons, not_mem_nil] at htype
  tauto

/-- Lines as they come from a sale: no price and no quantity is negative. -/
def Priced (lines : List PromotionLine) : Prop := ∀ line ∈ lines, 0 ≤ line.unitPrice ∧ 0 ≤ line.quantity

lemma total_nonneg (h : Priced lines) : ∀ amount ∈ lines.map PromotionLine.total, 0 ≤ amount := by
  intro amount hamount
  obtain ⟨line, hline, rfl⟩ := mem_map.mp hamount
  exact mul_nonneg (h line hline).1 (h line hline).2

lemma eligible_sublist : (rule.eligible lines).Sublist lines := List.filter_sublist

lemma priced_eligible (h : Priced lines) : Priced (rule.eligible lines) :=
  fun line hline => h line (eligible_sublist.subset hline)

lemma totalOf_nonneg (h : Priced lines) : 0 ≤ totalOf lines := List.sum_nonneg (total_nonneg h)

lemma totalOf_eligible_le (h : Priced lines) : totalOf (rule.eligible lines) ≤ totalOf lines :=
  (eligible_sublist.map PromotionLine.total).sum_le_sum (total_nonneg h)

lemma due_nonneg (hvalue : 0 ≤ rule.value) (h : Priced lines) : 0 ≤ rule.due lines := by
  have htotal : 0 ≤ totalOf (rule.eligible lines) := totalOf_nonneg (priced_eligible h)
  rw [PromoShape.due]
  split_ifs
  · positivity
  · exact hvalue
  · positivity
  · exact le_rfl
  · refine List.sum_nonneg fun price hprice => ?_
    have hunit := (List.mem_insertionSort _).mp (List.mem_of_mem_take hprice)
    obtain ⟨line, hline, hprice⟩ := List.mem_flatMap.mp hunit
    rw [List.eq_of_mem_replicate hprice]
    exact (priced_eligible h line hline).1
  · positivity

/-- The amount that a discount is cut to last: the eligible subtotal, or the whole one where that is zero. -/
def PromoShape.top (rule : PromoShape) (subtotal : ℚ) (lines : List PromotionLine) : ℚ :=
  if totalOf (rule.eligible lines) = 0 then subtotal else totalOf (rule.eligible lines)

def PromoShape.capped (rule : PromoShape) (lines : List PromotionLine) : ℚ :=
  match rule.maxDiscount with
  | some cap => min cap (rule.due lines)
  | none => rule.due lines

lemma computeLineAwareDiscount_eq (htype : rule.type ∈ promoTypes) (hsum : totalOf lines = subtotal)
    (hmin : ¬ subtotal < rule.minSubtotal) :
    computeLineAwareDiscount rule subtotal lines =
      .ok (toDecimalPlaces (max (min (rule.top subtotal lines) (min subtotal (rule.capped lines))) 0) 2) := by
  have hbase : (if lines = [] then subtotal else totalOf (rule.eligible lines)) =
      totalOf (rule.eligible lines) := by
    split_ifs with hnil
    · rw [← hsum, hnil]
      rfl
    · rfl
  have hcap : (match rule.maxDiscount with
      | some cap => if cap < rule.due lines then cap else rule.due lines
      | none => rule.due lines) = rule.capped lines := by
    rw [PromoShape.capped]
    cases rule.maxDiscount with
    | none => rfl
    | some cap => exact (min_def_lt cap _).symm
  rw [computeLineAwareDiscount, if_neg hmin]
  dsimp only
  rw [hbase, grant_eq_due htype, ← PromoShape.top, max_def_lt, min_def_lt, min_def_lt, ← hcap]
  rfl

/-- The discount is rounded to no more than a bound if one of the amounts that it is cut by is. -/
def PromoShape.KeepsTo (rule : PromoShape) (subtotal : ℚ) (lines : List PromotionLine) (bound : ℚ) : Prop :=
  Fits (rule.due lines) bound ∨ (∃ cap, rule.maxDiscount = some cap ∧ Fits cap bound) ∨
    Fits (rule.top subtotal lines) bound

lemma keepsTo_iff (hvalue : 0 ≤ rule.value) (hlines : Priced lines) (hsum : totalOf lines = subtotal)
    (hcap : ∀ cap, rule.maxDiscount = some cap → 0 ≤ cap) :
    toDecimalPlaces (max (min (rule.top subtotal lines) (min subtotal (rule.capped lines))) 0) 2 ≤ c ↔
      rule.KeepsTo subtotal lines c := by
  have hdue := due_nonneg hvalue hlines
  have hsubtotal : 0 ≤ subtotal := hsum ▸ totalOf_nonneg hlines
  have heligible : totalOf (rule.eligible lines) ≤ subtotal := hsum ▸ totalOf_eligible_le hlines
  have hcapped : 0 ≤ rule.capped lines ∧ (Fits (rule.capped lines) c ↔
        Fits (rule.due lines) c ∨ ∃ cap, rule.maxDiscount = some cap ∧ Fits cap c) := by
    rw [PromoShape.capped]
    cases hmax : rule.maxDiscount with
    | none => simp only [hdue, reduceCtorEq, false_and, exists_false, or_false, and_self]
    | some cap =>
      refine ⟨le_min (hcap cap hmax) hdue, ?_⟩
      rw [fits_min, or_comm]
      simp only [Option.some.injEq, exists_eq_left']
  -- the subtotal is no less than the amount that is cut to last
  have htop : 0 ≤ rule.top subtotal lines ∧ (Fits subtotal c → Fits (rule.top subtotal lines) c) := by
    rw [PromoShape.top]
    split_ifs
    · exact ⟨hsubtotal, id⟩
    · exact ⟨totalOf_nonneg (priced_eligible hlines), heligible.trans_lt⟩
  have hnonneg : 0 ≤ min (rule.top subtotal lines) (min subtotal (rule.capped lines)) :=
    le_min htop.1 (le_min hsubtotal hcapped.1)
  rw [max_eq_left hnonneg, toDecimalPlaces_le_iff hnonneg, fits_min, fits_min, hcapped.2, PromoShape.KeepsTo]
  constructor
  · rintro (h | h | h | h)
    · exact .inr (Or.inr h)
    · exact .inr (Or.inr (htop.2 h))
    · exact .inl h
    · exact .inr (Or.inl h)
  · rintro (h | h | h)
    · exact .inr (Or.inr (Or.inl h))
    · exact .inr (Or.inr (Or.inr h))
    · exact .inl h

/-- A discount between zero and the subtotal of the lines that the rule is scoped to, and up to its maximum; it
is zero below the subtotal that the rule asks for. -/
def Contained (rule : PromoShape) (subtotal : ℚ) (lines : List PromotionLine) : Prop :=
  ∃ discount, computeLineAwareDiscount rule subtotal lines = .ok discount ∧ 0 ≤ discount ∧
    discount ≤ totalOf (rule.eligible lines) ∧ (∀ cap, rule.maxDiscount = some cap → discount ≤ cap) ∧
    (subtotal < rule.minSubtotal → discount = 0)

/-- The discount is contained exactly if the maximum is not negative and, from the subtotal on that the rule
asks for, what is due, the maximum or the amount that is cut to last is rounded to no more than the eligible
subtotal, and one of them to no more than the maximum. -/
theorem contained_iff (htype : rule.type ∈ promoTypes) (hvalue : 0 ≤ rule.value) (hlines : Priced lines)
    (hsum : totalOf lines = subtotal) :
    Contained rule subtotal lines ↔ (∀ cap, rule.maxDiscount = some cap → 0 ≤ cap) ∧
      (rule.minSubtotal ≤ subtotal → rule.KeepsTo subtotal lines (totalOf (rule.eligible lines)) ∧
        ∀ cap, rule.maxDiscount = some cap → rule.KeepsTo subtotal lines cap) := by
  by_cases hmin : subtotal < rule.minSubtotal
  · have hzero : computeLineAwareDiscount rule subtotal lines = .ok 0 := by
      rw [computeLineAwareDiscount, if_pos hmin]
      rfl
    rw [Contained, hzero]
    constructor
    · rintro ⟨_, ⟨⟩, _, _, hcap, _⟩
      exact ⟨hcap, fun hle => absurd hmin (not_lt.mpr hle)⟩
    · rintro ⟨hcap, _⟩
      exact ⟨0, rfl, le_rfl, totalOf_nonneg (priced_eligible hlines), hcap, fun _ => rfl⟩
  · have hdiscount := computeLineAwareDiscount_eq htype hsum hmin
    have hnonneg : 0 ≤ toDecimalPlaces (max (min (rule.top subtotal lines)
        (min subtotal (rule.capped lines))) 0) 2 :=
      toDecimalPlaces_nonneg (le_max_right _ _) 2
    rw [Contained, hdiscount]
    constructor
    · rintro ⟨_, ⟨⟩, _, heligible, hmax, _⟩
      have hcap : ∀ cap, rule.maxDiscount = some cap → 0 ≤ cap := fun cap hcap => hnonneg.trans (hmax cap hcap)
      have hiff {c : ℚ} := keepsTo_iff (c := c) hvalue hlines hsum hcap
      exact ⟨hcap, fun _ => ⟨hiff.mp heligible, fun cap hcap => hiff.mp (hmax cap hcap)⟩⟩
    · rintro ⟨hcap, hkeeps⟩
      have hiff {c : ℚ} := keepsTo_iff (c := c) hvalue hlines hsum hcap
      obtain ⟨heligible, hmax⟩ := hkeeps (not_lt.mp hmin)
      exact ⟨_, rfl, hnonneg, hiff.mpr heligible, fun cap hcap => hiff.mpr (hmax cap hcap),
        fun hlt => absurd hlt hmin⟩

/-- An amount of 10 on a gift that is free itself is taken off from the other lines. -/
theorem not_contained_gift :
    computeLineAwareDiscount { type := "AMOUNT", value := 10, productIds := .arr [.str "gift"] } 100
      [⟨"gift", 1, 0⟩, ⟨"shirt", 1, 100⟩] = .ok 10 ∧
    totalOf (PromoShape.eligible { type := "AMOUNT", value := 10, productIds := .arr [.str "gift"] }
      [⟨"gift", 1, 0⟩, ⟨"shirt", 1, 100⟩]) = 0 ∧
    ¬ Contained { type := "AMOUNT", value := 10, productIds := .arr [.str "gift"] } 100
      [⟨"gift", 1, 0⟩, ⟨"shirt", 1, 100⟩] := by
  have hdiscount : computeLineAwareDiscount
      { type := "AMOUNT", value := 10, productIds := .arr [.str "gift"] } 100
      [⟨"gift", 1, 0⟩, ⟨"shirt", 1, 100⟩] = .ok 10 := by decide +kernel
  have htotal : totalOf (PromoShape.eligible { type := "AMOUNT", value := 10, productIds := .arr [.str "gift"] }
      [⟨"gift", 1, 0⟩, ⟨"shirt", 1, 100⟩]) = 0 := by decide +kernel
  refine ⟨hdiscount, htotal, ?_⟩
  rintro ⟨discount, hok, _, hle, _⟩
  obtain rfl := Except.ok.inj (hdiscount.symm.trans hok)
  rw [htotal] at hle
  exact absurd hle (by norm_num)

theorem contained_shirt : Contained { type := "AMOUNT", value := 10, productIds := .arr [.str "shirt"] } 100
    [⟨"gift", 1, 0⟩, ⟨"shirt", 1, 100⟩] := by
  refine (contained_iff (by decide) (by norm_num) ?_ (by decide +kernel)).mpr
    ⟨by simp only [reduceCtorEq, false_implies, implies_true], fun _ =>
      ⟨.inl ?_, by simp only [reduceCtorEq, false_implies, implies_true]⟩⟩
  · intro line hline
    simp only [mem_cons, not_mem_nil, or_false] at hline
    rcases hline with rfl | rfl <;> norm_num
  · rw [Fits]
    decide +kernel

end Contained

end Mayatoko.Promotions
