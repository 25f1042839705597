import Mathlib.Data.Rat.Floor
import Mayatoko.Core.Numeral

/-!
# Decimal amounts

Amounts of money are exact rational numbers; `toDecimalPlaces` rounds to a number of decimals,
halves away from zero. Rounding a fraction of integers is division with remainder: the quotient
goes up by one when the remainder is at least half of the divisor.
-/

namespace Mayatoko.Core

/-- The nearest integer, halves away from zero. -/
def roundHalfUp (x : ℚ) : ℤ := if 0 ≤ x then ⌊x + 1 / 2⌋ else -⌊-x + 1 / 2⌋

def toDecimalPlaces (x : ℚ) (places : ℕ) : ℚ := roundHalfUp (x * 10 ^ places) / 10 ^ places

/-- The decimal text with two decimals. -/
def toFixed2 (x : ℚ) : String :=
  let cents := (roundHalfUp (x * 100)).natAbs
  (if x < 0 then "-" else "") ++ toString (cents / 100) ++ "." ++
    padStart (toString (cents % 100)) 2 '0'

/-- An amount with at most two decimals. -/
def IsCents (x : ℚ) : Prop := ∃ k : ℤ, x = k / 100

lemma roundHalfUp_intCast (k : ℤ) : roundHalfUp k = k := by
  have hfloor (j : ℤ) : ⌊(j : ℚ) + 1 / 2⌋ = j := by
    rw [Int.floor_eq_iff]
    constructor <;> linarith
  unfold roundHalfUp
  split
  · exact hfloor k
  · have := hfloor (-k)
    push_cast at this
    omega

variable {x : ℚ}

lemma toDecimalPlaces_nonneg (h : 0 ≤ x) (places : ℕ) : 0 ≤ toDecimalPlaces x places := by
  have hfloor : 0 ≤ ⌊x * 10 ^ places + 1 / 2⌋ := Int.floor_nonneg.mpr (by positivity)
  have hround : 0 ≤ roundHalfUp (x * 10 ^ places) := by
    rw [roundHalfUp, if_pos (by positivity)]
    exact hfloor
  rw [toDecimalPlaces]
  exact div_nonneg (Int.cast_nonneg hround) (by positivity)

lemma isCents_toDecimalPlaces (x : ℚ) : IsCents (toDecimalPlaces x 2) :=
  ⟨roundHalfUp (x * 10 ^ 2), by rw [toDecimalPlaces]; norm_num⟩

lemma IsCents.toDecimalPlaces (h : IsCents x) : toDecimalPlaces x 2 = x := by
  obtain ⟨k, rfl⟩ := h
  have hk : (k : ℚ) / 100 * 10 ^ 2 = k := by ring
  rw [Core.toDecimalPlaces, hk, roundHalfUp_intCast]
  norm_num

lemma isCents_iff : IsCents x ↔ toDecimalPlaces x 2 = x := by
  constructor
  · exact IsCents.toDecimalPlaces
  · intro h
    exact h ▸ isCents_toDecimalPlaces x

instance (x : ℚ) : Decidable (IsCents x) := decidable_of_iff _ isCents_iff.symm

lemma isCents_zero : IsCents 0 := ⟨0, by norm_num⟩

variable {y : ℚ}

lemma IsCents.add (hx : IsCents x) (hy : IsCents y) : IsCents (x + y) := by
  obtain ⟨j, rfl⟩ := hx
  obtain ⟨k, rfl⟩ := hy
  exact ⟨j + k, by push_cast; ring⟩

lemma IsCents.sub (hx : IsCents x) (hy : IsCents y) : IsCents (x - y) := by
  obtain ⟨j, rfl⟩ := hx
  obtain ⟨k, rfl⟩ := hy
  exact ⟨j - k, by push_cast; ring⟩

/-- An amount with two decimals that is below half a cent is zero. -/
lemma IsCents.eq_zero_of_abs_lt (hx : IsCents x) (h : |x| < 5 / 1000) : x = 0 := by
  obtain ⟨k, rfl⟩ := hx
  rw [abs_lt] at h
  have hlt : (k : ℚ) < 1 := by linarith [h.2]
  have hgt : (-1 : ℚ) < k := by linarith [h.1]
  have hk : k = 0 := by
    have hlt' : k < 1 := by exact_mod_cast hlt
    have hgt' : -1 < k := by exact_mod_cast hgt
    omega
  simp [hk]

/-! ### Rounding and order -/

lemma roundHalfUp_mono (h : x ≤ y) : roundHalfUp x ≤ roundHalfUp y := by
  unfold roundHalfUp
  by_cases hx : 0 ≤ x
  · rw [if_pos hx, if_pos (hx.trans h)]
    exact Int.floor_le_floor (by linarith)
  · rw [if_neg hx]
    rw [not_le] at hx
    by_cases hy : 0 ≤ y
    · rw [if_pos hy]
      have hneg : 0 ≤ ⌊-x + 1 / 2⌋ := Int.floor_nonneg.mpr (by linarith)
      have hpos : 0 ≤ ⌊y + 1 / 2⌋ := Int.floor_nonneg.mpr (by linarith)
      omega
    · rw [if_neg hy]
      exact neg_le_neg (Int.floor_le_floor (by linarith))

lemma toDecimalPlaces_mono (h : x ≤ y) (places : ℕ) : toDecimalPlaces x places ≤ toDecimalPlaces y places := by
  have hround := roundHalfUp_mono (mul_le_mul_of_nonneg_right h (by positivity : (0 : ℚ) ≤ 10 ^ places))
  rw [toDecimalPlaces, toDecimalPlaces]
  gcongr

lemma toDecimalPlaces_min (x y : ℚ) (places : ℕ) : toDecimalPlaces (min x y) places =
    min (toDecimalPlaces x places) (toDecimalPlaces y places) :=
  Monotone.map_min fun _ _ h => toDecimalPlaces_mono h places

/-- Cents can be taken off before or after rounding. -/
lemma IsCents.toDecimalPlaces_sub (hy : IsCents y) (h : 0 ≤ y) (hle : y ≤ x) :
    Core.toDecimalPlaces (x - y) 2 = Core.toDecimalPlaces x 2 - y := by
  obtain ⟨k, rfl⟩ := hy
  have hfloor : ⌊(x - k / 100) * 10 ^ 2 + 1 / 2⌋ = ⌊x * 10 ^ 2 + 1 / 2⌋ - k := by
    rw [← Int.floor_sub_intCast]
    congr 1
    ring
  rw [Core.toDecimalPlaces, Core.toDecimalPlaces, roundHalfUp, roundHalfUp, if_pos (by linarith),
    if_pos (by linarith), hfloor]
  push_cast
  ring

/-- What is left of an amount, rounded to cents, after some of it was taken off. -/
lemma IsCents.max_toDecimalPlaces_sub (hy : IsCents y) (h : 0 ≤ y)
    (hle : y ≤ max 0 (Core.toDecimalPlaces x 2)) :
    max 0 (Core.toDecimalPlaces (x - y) 2) = max 0 (Core.toDecimalPlaces x 2) - y := by
  rcases le_or_gt y x with hyx | hxy
  · have hx := toDecimalPlaces_nonneg (h.trans hyx) 2
    have hsub := toDecimalPlaces_nonneg (sub_nonneg.mpr hyx) 2
    rw [max_eq_right hsub, max_eq_right hx, hy.toDecimalPlaces_sub h hyx]
  · have hround : Core.toDecimalPlaces x 2 ≤ y := hy.toDecimalPlaces ▸ toDecimalPlaces_mono hxy.le 2
    have hsub : Core.toDecimalPlaces (x - y) 2 ≤ 0 :=
      isCents_zero.toDecimalPlaces ▸ toDecimalPlaces_mono (sub_neg.mpr hxy).le 2
    rw [max_eq_left hsub, hle.antisymm (max_le h hround), sub_self]

lemma IsCents.max (hx : IsCents x) (hy : IsCents y) : IsCents (max x y) := by
  rcases max_choice x y with h | h
  · rwa [h]
  · rwa [h]

lemma IsCents.min (hx : IsCents x) (hy : IsCents y) : IsCents (min x y) := by
  rcases min_choice x y with h | h
  · rwa [h]
  · rwa [h]

lemma IsCents.mul_intCast (hx : IsCents x) (n : ℤ) : IsCents (x * n) := by
  obtain ⟨k, rfl⟩ := hx
  exact ⟨k * n, by push_cast; ring⟩

/-- Two charges up to a limit are one. -/
lemma min_add_min_sub {c : ℚ} (hy : 0 ≤ y) : min x c + min y (c - min x c) = min (x + y) c := by
  rcases le_total x c with h | h
  · rw [min_eq_left h, ← min_add_add_left, add_sub_cancel]
  · rw [min_eq_right h, sub_self, min_eq_right hy, add_zero, min_eq_right (h.trans (le_add_of_nonneg_right hy))]

/-! ### Fractions of integers -/

/-- Rounding `x / n` goes up: the remainder is more than half of `n`, or half of it and `x` is not
negative. -/
def RoundsUp (n x : ℤ) : Prop := n < 2 * (x % n) ∨ 2 * (x % n) = n ∧ 0 ≤ x

instance (n x : ℤ) : Decidable (RoundsUp n x) := by
  unfold RoundsUp
  infer_instance

variable {n : ℤ}

lemma roundsUp_of_nonneg {x : ℤ} (hx : 0 ≤ x) : RoundsUp n x ↔ n ≤ 2 * (x % n) := by
  unfold RoundsUp
  omega

lemma roundsUp_of_neg {x : ℤ} (hx : x < 0) : RoundsUp n x ↔ n < 2 * (x % n) := by
  unfold RoundsUp
  omega

/-- The quotient of `x` by `n`, rounded to the nearest integer. -/
def roundDiv (n x : ℤ) : ℤ := x / n + if RoundsUp n x then 1 else 0

lemma roundHalfUp_div (hn : 0 < n) (x : ℤ) : roundHalfUp (x / n : ℚ) = roundDiv n x := by
  have hn' : (0 : ℚ) < n := by exact_mod_cast hn
  have hr := Int.emod_nonneg x hn.ne'
  have hlt := Int.emod_lt_of_pos x hn
  have hdiv : (x : ℚ) / n = (x / n : ℤ) + (x % n : ℤ) / n := by
    rw [div_eq_iff hn'.ne', add_mul, div_mul_cancel₀ _ hn'.ne']
    exact_mod_cast (Int.ediv_mul_add_emod x n).symm
  have hr' : (0 : ℚ) ≤ (x % n : ℤ) / n := by
    apply div_nonneg _ hn'.le
    exact_mod_cast hr
  have hhalf : ((x % n : ℤ) / n : ℚ) < 1 := by
    rw [div_lt_one hn']
    exact_mod_cast hlt
  have hge : (1 / 2 : ℚ) ≤ (x % n : ℤ) / n ↔ n ≤ 2 * (x % n) := by
    rw [div_le_div_iff₀ two_pos hn', one_mul, mul_comm]
    exact_mod_cast Iff.rfl
  have hle : ((x % n : ℤ) / n : ℚ) ≤ 1 / 2 ↔ 2 * (x % n) ≤ n := by
    rw [div_le_div_iff₀ hn' two_pos, one_mul, mul_comm]
    exact_mod_cast Iff.rfl
  have hsign : (0 : ℚ) ≤ x / n ↔ 0 ≤ x := by
    rw [le_div_iff₀ hn', zero_mul]
    exact_mod_cast Iff.rfl
  unfold roundHalfUp roundDiv
  by_cases hx : 0 ≤ x
  · rw [if_pos (hsign.mpr hx), Int.floor_eq_iff, hdiv]
    by_cases hup : n ≤ 2 * (x % n)
    · have hup' := hge.mpr hup
      rw [if_pos ((roundsUp_of_nonneg hx).mpr hup)]
      push_cast at *
      constructor <;> linarith
    · have hup' := not_le.mp (hge.not.mpr hup)
      rw [if_neg ((roundsUp_of_nonneg hx).not.mpr hup)]
      push_cast at *
      constructor <;> linarith
  · rw [if_neg (hsign.not.mpr hx), neg_eq_iff_eq_neg, Int.floor_eq_iff, hdiv]
    rw [not_le] at hx
    by_cases hup : 2 * (x % n) ≤ n
    · have hup' := hle.mpr hup
      rw [if_neg ((roundsUp_of_neg hx).not.mpr (by omega))]
      push_cast at *
      constructor <;> linarith
    · have hup' := not_le.mp (hle.not.mpr hup)
      rw [if_pos ((roundsUp_of_neg hx).mpr (by omega))]
      push_cast at *
      constructor <;> linarith

/-- Two fractions are rounded together with their sum: the number of them that go up is the carry
of their remainders and the rounding of the sum. -/
def RoundTogether (n x y : ℤ) : Prop :=
  (if RoundsUp n x then 1 else 0) + (if RoundsUp n y then 1 else 0) =
    (if n ≤ x % n + y % n then 1 else 0) + (if RoundsUp n (x + y) then 1 else 0 : ℤ)

instance (n x y : ℤ) : Decidable (RoundTogether n x y) := by
  unfold RoundTogether
  infer_instance

lemma add_ediv_carry (hn : 0 < n) (x y : ℤ) :
    (x + y) / n = x / n + y / n + if n ≤ x % n + y % n then 1 else 0 := by
  have hx := Int.emod_nonneg x hn.ne'
  have hy := Int.emod_nonneg y hn.ne'
  have hx' := Int.emod_lt_of_pos x hn
  have hy' := Int.emod_lt_of_pos y hn
  have hsum : x + y = x % n + y % n + n * (x / n + y / n) := by
    have := Int.emod_add_mul_ediv x n
    have := Int.emod_add_mul_ediv y n
    rw [mul_add]
    omega
  rw [hsum, Int.add_mul_ediv_left _ _ hn.ne']
  split
  next hc =>
    have hq : (x % n + y % n) / n = 1 := by
      rw [Int.ediv_eq_iff_of_pos hn]
      omega
    omega
  next hc =>
    rw [Int.ediv_eq_zero_of_lt (by omega) (by omega)]
    omega

lemma roundDiv_add_iff (hn : 0 < n) (x y : ℤ) :
    roundDiv n x + roundDiv n y = roundDiv n (x + y) ↔ RoundTogether n x y := by
  unfold roundDiv RoundTogether
  rw [add_ediv_carry hn]
  omega

end Mayatoko.Core
