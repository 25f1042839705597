import Mayatoko.Core.Proportion
import Mayatoko.Returns.Allocation

/-!
# Returns of the whole quantity

The returns of a line that take its whole quantity should take its whole amount, never more of it, and never be
refused. They take it unless the shares before the last one are rounded up too often.
-/

namespace Mayatoko.Returns

open Core

def allocateSequence (original : ℚ) (originalQuantity : ℤ) : List ℤ → ℚ → ℤ → Except Failure (List ℚ)
  | [], _, _ => pure []
  | q :: qs, alreadyAllocated, alreadyReturned => do
    let amount ← allocateHistoricalRemainder original alreadyAllocated q originalQuantity alreadyReturned
    let amounts ← allocateSequence original originalQuantity qs (alreadyAllocated + amount)
      (alreadyReturned + q)
    pure (amount :: amounts)

/-- The returns are all accepted, never take more than the amount, and take all of it. -/
def TakesAll (original : ℚ) (originalQuantity : ℤ) (quantities : List ℤ) : Prop :=
  ∃ amounts, allocateSequence original originalQuantity quantities 0 0 = .ok amounts ∧
    (∀ m, (amounts.take m).sum ≤ original) ∧ amounts.sum = original

variable {original already : ℚ} {n used q last : ℤ} {qs : List ℤ}

lemma allocateHistoricalRemainder_part (horiginal : IsCents original) (hn : 1 ≤ n) (hq : 0 < q)
    (hrest : q < n - used) : allocateHistoricalRemainder original already q n used =
      .ok ((roundDiv n (cents original * q) : ℚ) / 100) := by
  have hok : ¬ (n - used < q ∨ q < 1 ∨ n < 1) := by omega
  have hne : q ≠ n - used := hrest.ne
  have hshare : share original already q n used = (roundDiv n (cents original * q) : ℚ) / 100 :=
    share_part (IsCents.eq_cents horiginal) hn hne
  rw [share, if_neg hne] at hshare
  rw [allocateHistoricalRemainder, if_neg hok, if_neg hne, hshare]
  rfl

lemma allocateHistoricalRemainder_rest (horiginal : IsCents original) (halready : IsCents already) (hn : 1 ≤ n)
    (hq : 0 < q) (hrest : q = n - used) : allocateHistoricalRemainder original already q n used =
      if original - already < 0 then .error (.badRequest "Nilai retur historis melebihi transaksi asal.")
      else .ok (original - already) := by
  have hok : ¬ (n - used < q ∨ q < 1 ∨ n < 1) := by omega
  rw [allocateHistoricalRemainder, if_neg hok, if_pos hrest, (horiginal.sub halready).toDecimalPlaces]
  rfl

def roundedShares (original : ℚ) (n : ℤ) (qs : List ℤ) : List ℚ :=
  qs.map fun q => (roundDiv n (cents original * q) : ℚ) / 100

lemma isCents_roundDiv (n x : ℤ) : IsCents ((roundDiv n x : ℚ) / 100) := ⟨roundDiv n x, rfl⟩

/-- Returns that take a whole rest take rounded shares, and the last one what is left. -/
lemma allocateSequence_append (horiginal : IsCents original) (halready : IsCents already) (hn : 1 ≤ n)
    (hqs : ∀ q ∈ qs, 0 < q) (hlast : 0 < last) (hsum : used + (qs.sum + last) = n) :
    allocateSequence original n (qs ++ [last]) already used =
      if original - (already + (roundedShares original n qs).sum) < 0 then
        .error (.badRequest "Nilai retur historis melebihi transaksi asal.")
      else .ok (roundedShares original n qs ++ [original - (already + (roundedShares original n qs).sum)]) := by
  induction qs generalizing already used with
  | nil =>
    have hrest : last = n - used := by
      rw [List.sum_nil] at hsum
      omega
    rw [nil_append, allocateSequence, allocateHistoricalRemainder_rest horiginal halready hn hlast hrest]
    simp only [roundedShares, List.map_nil, List.sum_nil, add_zero, nil_append]
    split
    · rfl
    · rfl
  | cons q qs ih =>
    obtain ⟨hq, hqs⟩ := forall_mem_cons.mp hqs
    rw [sum_cons] at hsum
    have hnonneg : 0 ≤ qs.sum := List.sum_nonneg fun x hx => (hqs x hx).le
    have hpart : allocateHistoricalRemainder original already q n used =
        .ok ((roundDiv n (cents original * q) : ℚ) / 100) :=
      allocateHistoricalRemainder_part horiginal hn hq (by omega)
    have ih := ih (halready.add (isCents_roundDiv n (cents original * q))) hqs
      (show used + q + (qs.sum + last) = n by omega)
    rw [cons_append, allocateSequence, hpart]
    change (allocateSequence original n (qs ++ [last]) _ _ >>= fun amounts => pure (_ :: amounts)) = _
    rw [ih]
    have hshares : roundedShares original n (q :: qs) =
        (roundDiv n (cents original * q) : ℚ) / 100 :: roundedShares original n qs := rfl
    rw [hshares, sum_cons, ← add_assoc]
    split
    · rfl
    · rfl

lemma sub_sum_roundedShares (horiginal : IsCents original) (n : ℤ) (qs : List ℤ) :
    original - (roundedShares original n qs).sum = (leftOver (cents original) n qs : ℚ) / 100 := by
  have hsum : (roundedShares original n qs).sum =
      (((qs.map fun q => roundDiv n (cents original * q)).sum : ℤ) : ℚ) / 100 := by
    induction qs with
    | nil => simp [roundedShares]
    | cons q qs ih =>
      rw [roundedShares] at ih ⊢
      rw [map_cons, sum_cons, ih, map_cons, sum_cons]
      push_cast
      ring
  have hcents := IsCents.eq_cents horiginal
  rw [leftOver, hsum]
  push_cast
  linarith

lemma sum_take_le {amounts : List ℚ} (h : ∀ a ∈ amounts, 0 ≤ a) (m : ℕ) :
    (amounts.take m).sum ≤ amounts.sum := by
  have hrest : 0 ≤ (amounts.drop m).sum := List.sum_nonneg fun a ha => h a (List.mem_of_mem_drop ha)
  have hsplit := List.sum_take_add_sum_drop amounts m
  linarith

lemma roundedShares_nonneg (hn : 1 ≤ n) (horiginal : 0 ≤ original) (hqs : ∀ q ∈ qs, 0 < q) :
    ∀ a ∈ roundedShares original n qs, 0 ≤ a := by
  refine List.forall_mem_map.mpr fun q hq => ?_
  have hpos := roundDiv_nonneg (show 0 < n by omega) (mul_nonneg (cents_nonneg horiginal) (hqs q hq).le)
  exact div_nonneg (by exact_mod_cast hpos) (by norm_num)

lemma takesAll_append_iff (horiginal : IsCents original) (hn : 1 ≤ n) (hqs : ∀ q ∈ qs, 0 < q) (hlast : 0 < last)
    (hsum : qs.sum + last = n) : TakesAll original n (qs ++ [last]) ↔
      0 ≤ original ∧ totalGain (cents original) n qs ≤ cents original * last := by
  have hpos : 0 < n := by omega
  have hall := allocateSequence_append horiginal isCents_zero hn hqs hlast
    (show 0 + (qs.sum + last) = n by omega)
  rw [zero_add] at hall
  have hleft := sub_sum_roundedShares horiginal n qs
  have hrest : original - (roundedShares original n qs).sum < 0 ↔ ¬ totalGain (cents original) n qs ≤
      cents original * last := by
    rw [← leftOver_nonneg_iff hpos hsum, hleft, div_lt_iff₀ (by norm_num), zero_mul, not_le]
    exact_mod_cast Iff.rfl
  rw [TakesAll, hall]
  by_cases hgain : totalGain (cents original) n qs ≤ cents original * last
  · rw [if_neg (not_not.mpr hgain ∘ hrest.mp)]
    constructor
    · rintro ⟨amounts, _, hprefix, _⟩
      exact ⟨by simpa using hprefix 0, hgain⟩
    · rintro ⟨hnonneg, _⟩
      have hamounts : ∀ a ∈ roundedShares original n qs ++ [original - (roundedShares original n qs).sum],
          0 ≤ a := by
        intro a ha
        obtain ha | ha := mem_append.mp ha
        · exact roundedShares_nonneg hn hnonneg hqs a ha
        · rw [mem_singleton] at ha
          rw [ha]
          exact not_lt.mp (not_not.mpr hgain ∘ hrest.mp)
      have htotal : (roundedShares original n qs ++ [original - (roundedShares original n qs).sum]).sum =
          original := by
        rw [List.sum_append, List.sum_singleton]
        ring
      exact ⟨_, rfl, fun m => (sum_take_le hamounts m).trans_eq htotal, htotal⟩
  · rw [if_pos (hrest.mpr hgain)]
    refine iff_of_false ?_ fun h => hgain h.2
    rintro ⟨_, herror, _⟩
    cases herror

/-- Returned quantities that add up to the sold one take all of the amount exactly if it is not negative and the
roundings before the last return gain at most the exact share of the last one. -/
theorem takesAll_iff (horiginal : IsCents original) (hn : 1 ≤ n) (hqs : ∀ q ∈ qs, 0 < q) (hsum : qs.sum = n) :
    TakesAll original n qs ↔
      0 ≤ original ∧ totalGain (cents original) n qs.dropLast ≤ cents original * qs.getLastD 0 := by
  obtain ⟨before, last, rfl⟩ : ∃ before last, qs = before ++ [last] := by
    refine (List.eq_nil_or_concat' qs).resolve_left ?_
    rintro rfl
    rw [List.sum_nil] at hsum
    omega
  rw [List.forall_mem_append, List.forall_mem_singleton] at hqs
  rw [List.sum_append, List.sum_singleton] at hsum
  rw [takesAll_append_iff horiginal hn hqs.1 hqs.2 hsum, List.dropLast_concat, List.getLastD_concat]

theorem takesAll_threeUnits : TakesAll (1 / 10) 3 [1, 1, 1] :=
  (takesAll_iff ⟨10, by norm_num⟩ (by decide) (by decide) (by decide)).mpr
    ⟨by norm_num, by decide +kernel⟩

/-- Five cents for ten units: after nine returns of one cent the last one is refused. -/
theorem not_takesAll_tenUnits : (∀ q ∈ List.replicate 10 (1 : ℤ), 0 < q) ∧
    (List.replicate 10 (1 : ℤ)).sum = 10 ∧ allocateSequence (5 / 100) 10 (List.replicate 10 1) 0 0 =
      .error (.badRequest "Nilai retur historis melebihi transaksi asal.") ∧
    ¬ TakesAll (5 / 100) 10 (List.replicate 10 1) := by
  have herror : allocateSequence (5 / 100) 10 (List.replicate 10 1) 0 0 =
      .error (.badRequest "Nilai retur historis melebihi transaksi asal.") := by decide +kernel
  refine ⟨by decide, by decide, herror, ?_⟩
  rintro ⟨_, hok, _⟩
  cases herror.symm.trans hok

end Mayatoko.Returns
