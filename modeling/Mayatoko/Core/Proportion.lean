import Mathlib.Tactic.Positivity
import Mayatoko.Core.Decimal

/-!
# Rounded shares in proportion

An amount is shared out by parts that add up to one: each share is rounded by itself, and the last one is what
the others leave. `off` adds up how far shares are from the exact ones. It grows by no more than the roundings
with each amount that is shared out, and it bounds what a map that is not steeper than the identity makes of
the shares instead of the whole.

An amount is shared out over weights that add up to `n`. All shares but the last are rounded by themselves,
and the last one is what the others leave. How far the others are from what is exact is the sum of what the
roundings gain, and that decides whether the last share is neither negative nor more than its weight.
-/

namespace Mayatoko.Core

variable {K : Type*} [Field K] {round : K → K} {amount recognized : K} {parts : List K}

/-- The shares by parts, with what was already recognized. -/
def roundedParts (round : K → K) (amount : K) : List K → K → List K
  | [], _ => []
  | part :: parts, recognized =>
    let share := if parts = [] then round (amount - recognized) else round (amount * part)
    share :: roundedParts round amount parts (round (recognized + share))

variable [LinearOrder K]

/-- A rounding is off by at most `δ`, and it does not matter to it what is already rounded. -/
structure Rounds (round : K → K) (δ : K) : Prop where
  near : ∀ x, |round x - x| ≤ δ
  zero : round 0 = 0
  add_round : ∀ x y, round (x + round y) = round x + round y

/-- How far shares are from the parts of a total, all together. -/
def off (parts : List K) (total : K) (shares : List K) : K :=
  (List.zipWith (fun part share => |share - part * total|) parts shares).sum

variable {δ total x y : K} {shares : List K}

namespace Rounds

variable (h : Rounds round δ)
include h

lemma round_round (x : K) : round (round x) = round x := by
  have hadd := h.add_round 0 x
  rwa [zero_add, h.zero, zero_add] at hadd

lemma add_fixed (x : K) (hy : round y = y) : round (x + y) = round x + y := by
  have hadd := h.add_round x y
  rwa [hy] at hadd

lemma sub_fixed (x : K) (hy : round y = y) : round (x - y) = round x - y := by
  have hadd := h.add_fixed (x - y) hy
  rw [sub_add_cancel] at hadd
  rw [hadd, add_sub_cancel_right]

lemma fixed_add (hx : round x = x) (hy : round y = y) : round (x + y) = x + y := by
  rw [h.add_fixed x hy, hx]

lemma fixed_roundedParts : ∀ share ∈ roundedParts round amount parts recognized, round share = share := by
  induction parts generalizing recognized with
  | nil => exact List.forall_mem_nil _
  | cons part parts ih =>
    refine List.forall_mem_cons.mpr ⟨?_, ih⟩
    split_ifs
    · exact h.round_round _
    · exact h.round_round _

variable [IsStrictOrderedRing K]

lemma delta_nonneg : 0 ≤ δ := (abs_nonneg _).trans (h.near 0)

/-- A rounded part is off from the part of the rounded amount by its own rounding and a part of that of the
amount. -/
lemma abs_part_sub_le {part : K} (hpart : 0 ≤ part) :
    |round (amount * part) - part * round amount| ≤ (1 + part) * δ := by
  have hsplit : round (amount * part) - part * round amount =
      (round (amount * part) - amount * part) - part * (round amount - amount) := by
    ring
  have hscaled : |part * (round amount - amount)| ≤ part * δ := by
    rw [abs_mul, abs_of_nonneg hpart]
    exact mul_le_mul_of_nonneg_left (h.near amount) hpart
  calc |round (amount * part) - part * round amount|
      ≤ |round (amount * part) - amount * part| + |part * (round amount - amount)| := by
        rw [hsplit]
        exact abs_sub _ _
    _ ≤ δ + part * δ := add_le_add (h.near _) hscaled
    _ = (1 + part) * δ := by ring

/-- The shares are off by what was recognized too much or too little before, and twice the roundings of all but
the last of them. -/
lemma off_roundedParts_le (amount : K) (hne : parts ≠ []) (hparts : ∀ part ∈ parts, 0 ≤ part) {q : K}
    (hlast : q ≤ parts.getLast hne) (hrecognized : round recognized = recognized) :
    off parts (round amount) (roundedParts round amount parts recognized) ≤
      |recognized - (1 - parts.sum) * round amount| + 2 * δ * (parts.length - 1 + parts.sum - q) := by
  have hδ := h.delta_nonneg
  induction parts generalizing recognized with
  | nil => exact absurd rfl hne
  | cons part parts ih =>
    obtain ⟨hpart, hrest⟩ := List.forall_mem_cons.mp hparts
    by_cases hnil : parts = []
    · subst hnil
      rw [List.getLast_singleton] at hlast
      have hslack : 0 ≤ 2 * δ * (part - q) := mul_nonneg (by linarith) (by linarith)
      have hshare : round amount - recognized - part * round amount =
          -(recognized - (1 - part) * round amount) := by
        ring
      simp only [off, roundedParts, if_true, h.sub_fixed amount hrecognized, List.zipWith_cons_cons,
        List.zipWith_nil_left, List.sum_cons, List.sum_nil, List.length_singleton, Nat.cast_one, hshare,
        abs_neg,
        add_zero, sub_self, zero_add]
      linarith
    · rw [List.getLast_cons hnil] at hlast
      have hshare := h.round_round (amount * part)
      have hnext := ih hnil hrest hlast (h.fixed_add hrecognized hshare)
      have hcarried : recognized + round (amount * part) - (1 - parts.sum) * round amount =
          (recognized - (1 - (part + parts.sum)) * round amount) +
            (round (amount * part) - part * round amount) := by
        ring
      have hclose : |round (amount * part) - part * round amount| ≤ (1 + part) * δ := h.abs_part_sub_le hpart
      have hbefore := abs_add_le (recognized - (1 - (part + parts.sum)) * round amount)
        (round (amount * part) - part * round amount)
      rw [hcarried] at hnext
      rw [off] at hnext ⊢
      rw [roundedParts]
      simp only [if_neg hnil, h.fixed_add hrecognized hshare, List.zipWith_cons_cons, List.sum_cons,
        List.length_cons, Nat.cast_add, Nat.cast_one]
      linarith

end Rounds

variable [IsStrictOrderedRing K]

/-- Shares of two amounts are off by no more than those of each. -/
lemma off_add_le (h : Rounds round δ) {more : List K} {extra : K}
    (hshares : ∀ share ∈ shares, round share = share)
    (hmore : ∀ share ∈ more, round share = share) :
    off parts (total + extra) (List.zipWith (fun share m => round (share + m)) shares more) ≤
      off parts total shares + off parts extra more := by
  induction parts generalizing shares more with
  | nil => exact (add_zero (0 : K)).ge
  | cons part parts ih =>
    have hnonneg {total : K} {shares : List K} : 0 ≤ off (part :: parts) total shares := by
      refine List.sum_nonneg fun x hx => ?_
      obtain ⟨i, hi, rfl⟩ := List.mem_iff_getElem.mp hx
      rw [List.getElem_zipWith]
      positivity
    match shares, more with
    | [], _ => exact add_nonneg hnonneg hnonneg
    | _ :: _, [] => exact add_nonneg hnonneg hnonneg
    | share :: shares, m :: more =>
      obtain ⟨hshare, hshares⟩ := List.forall_mem_cons.mp hshares
      obtain ⟨hm, hmore⟩ := List.forall_mem_cons.mp hmore
      have hrest := ih hshares hmore
      have hsplit : share + m - part * (total + extra) = (share - part * total) + (m - part * extra) := by ring
      have hfirst := abs_add_le (share - part * total) (m - part * extra)
      simp only [off, List.zipWith_cons_cons, List.sum_cons, h.fixed_add hshare hm, hsplit] at hrest ⊢
      linarith

/-- A map that is not steeper than the identity, scaled to each part and rounded there, makes of the shares
what it makes of the total, but for the roundings and what the shares are off. -/
lemma abs_sum_scaled_sub_le (h : Rounds round δ) (total : K) {g : K → K} (hg : ∀ x y, |g x - g y| ≤ |x - y|)
    (hparts : ∀ part ∈ parts, 0 < part) (hlength : shares.length = parts.length) :
    |(List.zipWith (fun part share => round (g (share / part) * part)) parts shares).sum -
        g total * parts.sum| ≤
      parts.length * δ + off parts total shares := by
  induction parts generalizing shares with
  | nil => simp [off]
  | cons part parts ih =>
    match shares, hlength with
    | share :: shares, hlength =>
      obtain ⟨hpart, hrest⟩ := List.forall_mem_cons.mp hparts
      have hsum := ih hrest (Nat.succ.inj hlength)
      have hround := h.near (g (share / part) * part)
      have hscaled : |g (share / part) * part - g total * part| ≤ |share - part * total| := by
        have hexact : share - part * total = (share / part - total) * part := by
          rw [sub_mul, div_mul_cancel₀ _ hpart.ne', mul_comm part]
        rw [← sub_mul, hexact, abs_mul, abs_mul]
        exact mul_le_mul_of_nonneg_right (hg _ _) (abs_nonneg part)
      have hsplit : round (g (share / part) * part) +
            (List.zipWith (fun part share => round (g (share / part) * part)) parts shares).sum -
            g total * (part + parts.sum) =
          (round (g (share / part) * part) - g (share / part) * part) +
            ((g (share / part) * part - g total * part) +
              ((List.zipWith (fun part share => round (g (share / part) * part)) parts shares).sum -
                g total * parts.sum)) := by
        ring
      have hfirst := abs_add_le (round (g (share / part) * part) - g (share / part) * part)
        ((g (share / part) * part - g total * part) +
          ((List.zipWith (fun part share => round (g (share / part) * part)) parts shares).sum -
            g total * parts.sum))
      have hsecond := abs_add_le (g (share / part) * part - g total * part)
        ((List.zipWith (fun part share => round (g (share / part) * part)) parts shares).sum -
          g total * parts.sum)
      rw [off] at hsum ⊢
      simp only [List.zipWith_cons_cons, List.sum_cons, hsplit, List.length_cons, Nat.cast_add, Nat.cast_one]
      linarith

/-! ### Shares over weights -/

/-- What rounding `x / n` gains, in parts of `n`. -/
def roundingGain (n x : ℤ) : ℤ := if RoundsUp n x then n - x % n else -(x % n)

lemma mul_roundDiv (n x : ℤ) : n * roundDiv n x = x + roundingGain n x := by
  have hx := Int.emod_add_mul_ediv x n
  rw [roundDiv, roundingGain, mul_add]
  split <;> omega

/-- Rounding gains at most a half. -/
lemma roundingGain_le {n : ℤ} (hn : 0 < n) (x : ℤ) : 2 * roundingGain n x ≤ n := by
  have hr := Int.emod_nonneg x hn.ne'
  rw [roundingGain]
  split
  next hup => obtain hup | hup := hup <;> omega
  next => omega

lemma roundDiv_nonneg {n x : ℤ} (hn : 0 < n) (hx : 0 ≤ x) : 0 ≤ roundDiv n x := by
  have hq := Int.ediv_nonneg hx hn.le
  rw [roundDiv]
  split <;> omega

/-- A part of a weight that is at most the whole is at most the weight when it is rounded. -/
lemma roundDiv_mul_le {n k w : ℤ} (hn : 0 < n) (hkn : k ≤ n) (hw : 0 ≤ w) : roundDiv n (k * w) ≤ w := by
  have hgain := roundingGain_le hn (k * w)
  have hmul := mul_roundDiv n (k * w)
  have hle : k * w ≤ n * w := mul_le_mul_of_nonneg_right hkn hw
  by_contra hnot
  have hmore : n * (w + 1) ≤ n * roundDiv n (k * w) := mul_le_mul_of_nonneg_left (by omega) hn.le
  rw [mul_add, mul_one] at hmore
  linarith

/-! ### The last share -/

section LastShare

variable {k n last : ℤ} {ws : List ℤ}

/-- What the roundings of the shares of `k` gain together. -/
def totalGain (k n : ℤ) (ws : List ℤ) : ℤ := (ws.map fun w => roundingGain n (k * w)).sum

/-- What the rounded shares leave of `k`. -/
def leftOver (k n : ℤ) (ws : List ℤ) : ℤ := k - (ws.map fun w => roundDiv n (k * w)).sum

lemma mul_sum_roundDiv (k n : ℤ) (ws : List ℤ) :
    n * (ws.map fun w => roundDiv n (k * w)).sum = k * ws.sum + totalGain k n ws := by
  induction ws with
  | nil => simp [totalGain]
  | cons w ws ih =>
    rw [totalGain] at ih ⊢
    rw [List.map_cons, List.sum_cons, List.map_cons, List.sum_cons, List.sum_cons, mul_add, ih, mul_roundDiv,
      mul_add]
    ring

/-- The last share differs from the exact one by what the others gain. -/
lemma mul_leftOver (hsum : ws.sum + last = n) : n * leftOver k n ws = k * last - totalGain k n ws := by
  have hlast : last = n - ws.sum := by omega
  rw [leftOver, mul_sub, mul_sum_roundDiv, hlast]
  ring

lemma leftOver_nonneg_iff (hn : 0 < n) (hsum : ws.sum + last = n) :
    0 ≤ leftOver k n ws ↔ totalGain k n ws ≤ k * last := by
  rw [← mul_nonneg_iff_of_pos_left hn, mul_leftOver hsum, sub_nonneg]

lemma leftOver_le_iff (hn : 0 < n) (hsum : ws.sum + last = n) :
    leftOver k n ws ≤ last ↔ (k - n) * last ≤ totalGain k n ws := by
  rw [← mul_le_mul_iff_right₀ hn, mul_leftOver hsum, sub_mul]
  constructor <;> intro h <;> linarith

end LastShare

end Mayatoko.Core
