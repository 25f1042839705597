import Mayatoko.Core.Proportion
import Mayatoko.Returns.Allocation

/-!
# Discounts of sale lines

A discount on the whole sale is shared out over its lines: every line but the last gets its part, rounded to
cents, and the last one what is left of the discount. The shares always add up to the discount; that the last
one is neither negative nor more than its line depends on what the roundings before it gain.
-/

namespace Mayatoko.Sales

open Core
open Returns (cents IsCents.eq_cents cents_nonneg)

def allocateShares (rawSubtotal totalDiscount : ℚ) : List ℚ → ℚ → List ℚ
  | [], _ => []
  | line :: lines, allocatedDiscount =>
    let share :=
      if rawSubtotal = 0 then 0
      else if lines = [] then totalDiscount - allocatedDiscount
      else toDecimalPlaces (totalDiscount * line / rawSubtotal) 2
    share :: allocateShares rawSubtotal totalDiscount lines (allocatedDiscount + share)

/-- The shares of a discount over the line amounts of a sale, as `SalesService.quote`, `SalesService.create` and
`OrdersService.create` compute them. -/
def discountShares (lines : List ℚ) (totalDiscount : ℚ) : List ℚ :=
  allocateShares lines.sum totalDiscount lines 0

/-- The shares add up to the discount, and none is negative or more than its line. -/
def SharedOut (lines : List ℚ) (totalDiscount : ℚ) (shares : List ℚ) : Prop :=
  shares.sum = totalDiscount ∧ List.Forall₂ (fun share line => 0 ≤ share ∧ share ≤ line) shares lines

variable {lines : List ℚ} {last discount allocated subtotal : ℚ}

def roundedShares (subtotal discount : ℚ) (lines : List ℚ) : List ℚ :=
  lines.map fun line => toDecimalPlaces (discount * line / subtotal) 2

lemma allocateShares_append (hsubtotal : subtotal ≠ 0) :
    allocateShares subtotal discount (lines ++ [last]) allocated =
      roundedShares subtotal discount lines ++
        [discount - (allocated + (roundedShares subtotal discount lines).sum)] := by
  induction lines generalizing allocated with
  | nil => simp [allocateShares, roundedShares, hsubtotal]
  | cons line lines ih =>
    rw [cons_append, allocateShares, if_neg hsubtotal, if_neg (by simp), ih]
    simp only [roundedShares, map_cons, sum_cons, cons_append, add_assoc]

lemma allocateShares_zero (lines : List ℚ) :
    allocateShares 0 discount lines allocated = lines.map fun _ => 0 := by
  induction lines generalizing allocated with
  | nil => rfl
  | cons line lines ih => rw [allocateShares, if_pos rfl, ih, map_cons]

/-! ### Shares in cents -/

lemma toDecimalPlaces_share {n : ℤ} (hn : 0 < n) (k w : ℤ) :
    toDecimalPlaces ((k / 100 : ℚ) * (w / 100) / (n / 100)) 2 = (roundDiv n (k * w) : ℚ) / 100 := by
  have hn' : (n : ℚ) ≠ 0 := by exact_mod_cast hn.ne'
  have hx : (k / 100 : ℚ) * (w / 100) / (n / 100) * 10 ^ 2 = (k * w : ℤ) / n := by
    push_cast
    field_simp
    ring
  rw [toDecimalPlaces, hx, roundHalfUp_div hn]
  norm_num

lemma cents_sum (hcents : ∀ line ∈ lines, IsCents line) : (lines.map cents).sum = cents lines.sum := by
  have hsum : lines.sum = ((lines.map cents).sum : ℤ) / 100 := by
    induction lines with
    | nil => simp
    | cons line lines ih =>
      obtain ⟨hline, hlines⟩ := forall_mem_cons.mp hcents
      rw [sum_cons, ih hlines, map_cons, sum_cons]
      push_cast
      have hcent := IsCents.eq_cents hline
      linarith
  have hfloor : (((lines.map cents).sum : ℤ) : ℚ) / 100 * 100 = ((lines.map cents).sum : ℤ) := by ring
  rw [hsum, cents, hfloor, Int.floor_intCast]

lemma isCents_sum (hcents : ∀ line ∈ lines, IsCents line) : IsCents lines.sum := by
  induction lines with
  | nil => exact isCents_zero
  | cons line lines ih =>
    obtain ⟨hline, hlines⟩ := forall_mem_cons.mp hcents
    rw [sum_cons]
    exact hline.add (ih hlines)

lemma cents_mono {x y : ℚ} (h : x ≤ y) : cents x ≤ cents y :=
  Int.floor_le_floor (mul_le_mul_of_nonneg_right h (by norm_num))

section Shared

variable (hcents : ∀ line ∈ lines, IsCents line) (hdiscount : IsCents discount) (hsubtotal : IsCents subtotal)
include hcents hdiscount hsubtotal

lemma roundedShares_eq (hpos : 0 < cents subtotal) : roundedShares subtotal discount lines =
    lines.map fun line => (roundDiv (cents subtotal) (cents discount * cents line) : ℚ) / 100 := by
  refine map_congr_left fun line hline => ?_
  have hshare := toDecimalPlaces_share hpos (cents discount) (cents line)
  rwa [← IsCents.eq_cents hdiscount, ← IsCents.eq_cents (hcents line hline),
    ← IsCents.eq_cents hsubtotal] at hshare

lemma roundedShares_fit (hnonneg : ∀ line ∈ lines, 0 ≤ line) (hpos : 0 < cents subtotal) (hzero : 0 ≤ discount)
    (hle : discount ≤ subtotal) :
    List.Forall₂ (fun share line => 0 ≤ share ∧ share ≤ line) (roundedShares subtotal discount lines)
      lines := by
  rw [roundedShares_eq hcents hdiscount hsubtotal hpos, List.forall₂_map_left_iff, List.forall₂_same]
  intro line hline
  have hweight := cents_nonneg (hnonneg line hline)
  have hlow := roundDiv_nonneg hpos (mul_nonneg (cents_nonneg hzero) hweight)
  have hhigh := roundDiv_mul_le hpos (cents_mono hle) hweight
  constructor
  · exact div_nonneg (by exact_mod_cast hlow) (by norm_num)
  · have hcast : (roundDiv (cents subtotal) (cents discount * cents line) : ℚ) ≤ cents line := by
      exact_mod_cast hhigh
    have hcent := IsCents.eq_cents (hcents line hline)
    linarith

lemma sub_sum_roundedShares (hpos : 0 < cents subtotal) :
    discount - (roundedShares subtotal discount lines).sum =
      (leftOver (cents discount) (cents subtotal) (lines.map cents) : ℚ) / 100 := by
  have hsum : (roundedShares subtotal discount lines).sum = (((lines.map cents).map fun w =>
      roundDiv (cents subtotal) (cents discount * w)).sum : ℤ) / (100 : ℚ) := by
    rw [roundedShares_eq hcents hdiscount hsubtotal hpos]
    clear hcents
    induction lines with
    | nil => simp
    | cons line lines ih =>
      rw [map_cons, sum_cons, ih, map_cons, map_cons, sum_cons]
      push_cast
      ring
  have hcent := IsCents.eq_cents hdiscount
  rw [leftOver, hsum]
  push_cast
  linarith

end Shared

/-! ### The last share -/

/-- What the roundings of all shares but the last gain, in parts of the subtotal. -/
def gain (lines : List ℚ) (discount : ℚ) : ℤ :=
  totalGain (cents discount) (cents lines.sum) (lines.dropLast.map cents)

/-- The roundings gain at most the exact share of the last line, and lose at most what that leaves of the
line. -/
def FitsLast (lines : List ℚ) (discount : ℚ) : Prop :=
  (cents discount - cents lines.sum) * cents (lines.getLastD 0) ≤ gain lines discount ∧
    gain lines discount ≤ cents discount * cents (lines.getLastD 0)

instance (lines : List ℚ) (discount : ℚ) : Decidable (FitsLast lines discount) := by
  unfold FitsLast
  infer_instance

lemma forall₂_concat {R : ℚ → ℚ → Prop} {l l' : List ℚ} {a b : ℚ} (h : List.Forall₂ R l l') :
    List.Forall₂ R (l ++ [a]) (l' ++ [b]) ↔ R a b := by
  induction h with
  | nil => simp
  | cons hab _ ih =>
    rw [cons_append, cons_append, List.forall₂_cons]
    exact ⟨fun h => ih.mp h.2, fun hr => ⟨hab, ih.mpr hr⟩⟩

lemma sharedOut_zero (hnonneg : ∀ line ∈ lines, 0 ≤ line) (hsum : lines.sum = 0) :
    SharedOut lines 0 (discountShares lines 0) ∧ FitsLast lines 0 := by
  constructor
  · rw [discountShares, hsum, allocateShares_zero]
    refine ⟨by simp, ?_⟩
    rw [List.forall₂_map_left_iff, List.forall₂_same]
    exact fun line hline => ⟨le_rfl, hnonneg line hline⟩
  · have hzero : cents 0 = 0 := by simp [cents]
    have hgain : gain lines 0 = 0 := by
      rw [gain, hsum, hzero, totalGain]
      refine List.sum_eq_zero fun x hx => ?_
      obtain ⟨w, _, rfl⟩ := mem_map.mp hx
      rw [zero_mul]
      decide
    rw [FitsLast, hgain, hsum, hzero]
    simp

/-- A discount of at most the subtotal is shared out exactly if the roundings leave the last line a share that
fits it. -/
theorem sharedOut_iff (hne : lines ≠ []) (hcents : ∀ line ∈ lines, IsCents line)
    (hnonneg : ∀ line ∈ lines, 0 ≤ line) (hdiscount : IsCents discount) (hzero : 0 ≤ discount)
    (hle : discount ≤ lines.sum) :
    SharedOut lines discount (discountShares lines discount) ↔ FitsLast lines discount := by
  have hsubtotal := isCents_sum hcents
  by_cases hsum : lines.sum = 0
  · obtain rfl : discount = 0 := le_antisymm (hsum ▸ hle) hzero
    obtain ⟨hshared, hfits⟩ := sharedOut_zero hnonneg hsum
    exact iff_of_true hshared hfits
  · obtain ⟨before, last, rfl⟩ := (List.eq_nil_or_concat' lines).resolve_left hne
    set subtotal := (before ++ [last]).sum with hdef
    have hpos : 0 < cents subtotal := by
      have hge : 0 ≤ subtotal := List.sum_nonneg hnonneg
      have hlt : 0 < subtotal := lt_of_le_of_ne hge (Ne.symm hsum)
      by_contra hnot
      have hcast : (cents subtotal : ℚ) ≤ 0 := by exact_mod_cast not_lt.mp hnot
      linarith [IsCents.eq_cents hsubtotal]
    have hweights : (before.map cents).sum + cents last = cents subtotal := by
      rw [hdef, ← cents_sum hcents]
      simp
    rw [List.forall_mem_append, List.forall_mem_singleton] at hcents hnonneg
    have hbefore := roundedShares_fit hcents.1 hdiscount hsubtotal hnonneg.1 hpos hzero hle
    have hleft := sub_sum_roundedShares hcents.1 hdiscount hsubtotal hpos
    have htotal : (roundedShares subtotal discount before ++
        [discount - (roundedShares subtotal discount before).sum]).sum = discount := by
      rw [List.sum_append, List.sum_singleton]
      ring
    have hlast : 0 ≤ discount - (roundedShares subtotal discount before).sum ∧
        discount - (roundedShares subtotal discount before).sum ≤ last ↔
        0 ≤ leftOver (cents discount) (cents subtotal) (before.map cents) ∧
          leftOver (cents discount) (cents subtotal) (before.map cents) ≤ cents last := by
      have hcent := IsCents.eq_cents hcents.2
      have hcast : (leftOver (cents discount) (cents subtotal) (before.map cents) : ℚ) / 100 ≤ last ↔
          (leftOver (cents discount) (cents subtotal) (before.map cents) : ℚ) ≤ cents last := by
        constructor <;> intro h <;> linarith
      rw [hleft, hcast, le_div_iff₀ (by norm_num), zero_mul]
      exact_mod_cast Iff.rfl
    rw [SharedOut, discountShares, ← hdef, allocateShares_append hsum, zero_add, and_iff_right htotal,
      forall₂_concat hbefore, hlast, leftOver_nonneg_iff hpos hweights, leftOver_le_iff hpos hweights, FitsLast,
      gain, ← hdef, List.dropLast_concat, List.getLastD_concat, and_comm]

theorem sharedOut_twoLines : SharedOut [1, 2] (1 / 10) (discountShares [1, 2] (1 / 10)) :=
  (sharedOut_iff (by decide) (forall_mem_cons.mpr ⟨⟨100, by norm_num⟩, List.forall_mem_singleton.mpr
    ⟨200, by norm_num⟩⟩) (by decide +kernel) ⟨10, by norm_num⟩ (by norm_num) (by norm_num)).mpr
    (by decide +kernel)

/-- 0.02 off three lines of 0.01 and one of nothing: the last share is -0.01. -/
theorem not_sharedOut_freeLine : discountShares [1 / 100, 1 / 100, 1 / 100, 0] (2 / 100) =
      [1 / 100, 1 / 100, 1 / 100, -1 / 100] ∧
    ¬ SharedOut [1 / 100, 1 / 100, 1 / 100, 0] (2 / 100)
      (discountShares [1 / 100, 1 / 100, 1 / 100, 0] (2 / 100)) := by
  have hshares : discountShares [1 / 100, 1 / 100, 1 / 100, 0] (2 / 100) =
      [1 / 100, 1 / 100, 1 / 100, -1 / 100] := by decide +kernel
  refine ⟨hshares, ?_⟩
  rw [hshares]
  rintro ⟨_, hfit⟩
  simp only [List.forall₂_cons] at hfit
  exact absurd hfit.2.2.2.1.1 (by norm_num)

end Mayatoko.Sales
