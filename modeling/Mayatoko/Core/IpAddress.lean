import Mathlib.Algebra.GroupWithZero.Nat
import Mayatoko.Core.Numeral

/-!
# Addresses and their texts

Addresses of the internet protocol in their canonical text form. One of version 4 is four decimal numerals with
dots, one of version 6 eight hexadecimal numerals with colons, in lower case, the first of the longest runs of
two or more zeros left out; one that is a mapped address of version 4 ends in the text of that.
-/

namespace Mayatoko.Core

/-! ### Numerals -/

section

variable {b n m : ℕ} {c : Char}

lemma digitChar_inj (hn : n < 16) (hm : m < 16) (h : Nat.digitChar n = Nat.digitChar m) : n = m := by
  have hall : ∀ i j : Fin 16, Nat.digitChar i = Nat.digitChar j → i = j := by decide
  exact congrArg Fin.val (hall ⟨n, hn⟩ ⟨m, hm⟩ h)

lemma exists_of_mem_toDigits (hb : 1 < b) (h : c ∈ Nat.toDigits b n) : ∃ d < b, Nat.digitChar d = c := by
  induction n using Nat.strongRecOn with
  | ind n ih =>
    rw [Nat.toDigits_eq_if hb] at h
    split_ifs at h with hn
    · exact ⟨n, hn, (List.mem_singleton.mp h).symm⟩
    · rcases List.mem_append.mp h with h | h
      · exact ih _ (Nat.div_lt_self (by omega) hb) h
      · exact ⟨n % b, Nat.mod_lt _ (by omega), (List.mem_singleton.mp h).symm⟩

/-- A numeral determines its number. -/
lemma toDigits_inj (hb : 1 < b) (hb' : b ≤ 16) (h : Nat.toDigits b n = Nat.toDigits b m) : n = m := by
  induction n using Nat.strongRecOn generalizing m with
  | ind n ih =>
    have hlong (k : ℕ) (d : Char) : Nat.toDigits b (k / b) ++ [d] ≠ [Nat.digitChar n] ∧
        [Nat.digitChar m] ≠ Nat.toDigits b (k / b) ++ [d] := by
      have hpos := Nat.length_toDigits_pos (b := b) (n := k / b)
      constructor
      all_goals
        intro heq
        have hlength := congrArg List.length heq
        simp only [List.length_append, List.length_singleton] at hlength
        omega
    rw [Nat.toDigits_eq_if hb, Nat.toDigits_eq_if (n := m) hb] at h
    split_ifs at h with hn hm hm
    · exact digitChar_inj (by omega) (by omega) (List.singleton_inj.mp h)
    · exact absurd h.symm (hlong _ _).1
    · exact absurd h.symm (hlong _ _).2
    · obtain ⟨hinit, hlast⟩ := List.append_inj' h rfl
      have hdiv := ih _ (Nat.div_lt_self (by omega) hb) hinit
      have hmod := digitChar_inj ((Nat.mod_lt n (by omega)).trans_le hb')
        ((Nat.mod_lt m (by omega)).trans_le hb') (List.singleton_inj.mp hlast)
      rw [← Nat.div_add_mod n b, ← Nat.div_add_mod m b, hdiv, hmod]

/-- A number without some of its last digits is the number, or its quotient without some. -/
lemma exists_div_pow : (∃ k, n / b ^ k = m) ↔ m = n ∨ ∃ k, n / b / b ^ k = m := by
  constructor
  · rintro ⟨k, hk⟩
    cases k with
    | zero => exact .inl (by rw [← hk, Nat.pow_zero, Nat.div_one])
    | succ k => exact .inr ⟨k, by rw [← hk, Nat.pow_succ', Nat.div_div_eq_div_mul]⟩
  · rintro (rfl | ⟨k, hk⟩)
    · exact ⟨0, by rw [Nat.pow_zero, Nat.div_one]⟩
    · exact ⟨k + 1, by rw [← hk, Nat.pow_succ', Nat.div_div_eq_div_mul]⟩

/-- A numeral starts with those of its number without some last digits. -/
lemma toDigits_prefix_iff (hb : 1 < b) (hb' : b ≤ 16) (hm : 0 < m) :
    Nat.toDigits b m <+: Nat.toDigits b n ↔ ∃ k, n / b ^ k = m := by
  have hinj (k : ℕ) : Nat.toDigits b m = Nat.toDigits b k ↔ m = k :=
    ⟨toDigits_inj hb hb', fun h => congrArg _ h⟩
  induction n using Nat.strongRecOn with
  | ind n ih =>
    rw [exists_div_pow]
    by_cases hn : n < b
    · have hnone : ¬ ∃ k, n / b / b ^ k = m := by
        rintro ⟨k, hk⟩
        rw [Nat.div_eq_of_lt hn, Nat.zero_div] at hk
        exact hm.ne hk
      have hdigits : Nat.toDigits b n = [] ++ [Nat.digitChar n] := Nat.toDigits_of_lt_base hn
      rw [or_iff_left hnone, hdigits, List.prefix_concat_iff, ← hdigits, List.prefix_nil,
        or_iff_left Nat.toDigits_ne_nil, hinj]
    · have hdigits := Nat.toDigits_of_base_le hb (Nat.not_lt.mp hn)
      have hlt : n / b < n := Nat.div_lt_self (by omega) hb
      rw [hdigits, List.prefix_concat_iff, ← hdigits, hinj]
      exact or_congr Iff.rfl (ih _ hlt)

end

section

variable {α : Type*} {a c d : α} {l l' r : List α}

/-- A beginning with a separator begins with the first piece. -/
lemma append_cons_prefix_iff (hl : c ∉ l) (hl' : c ∉ l') {p : List α} :
    l ++ c :: p <+: l' ++ c :: r ↔ l = l' ∧ p <+: r := by
  constructor
  · rintro ⟨t, ht⟩
    rw [List.append_assoc, List.cons_append] at ht
    obtain ⟨hpiece, hrest⟩ := append_cons_inj hl hl' ht
    exact ⟨hpiece, t, hrest⟩
  · rintro ⟨rfl, t, rfl⟩
    exact ⟨t, by rw [List.append_assoc, List.cons_append]⟩

/-- A beginning without the separator is one of the first piece. -/
lemma prefix_append_cons_iff (hl : c ∉ l) : l <+: l' ++ c :: r ↔ l <+: l' := by
  constructor
  · intro h
    have hpiece : l' ++ [c] <+: l' ++ c :: r := ⟨r, by rw [List.append_assoc, List.singleton_append]⟩
    rcases List.prefix_or_prefix_of_prefix h hpiece with h | h
    · rcases List.prefix_concat_iff.mp h with rfl | h
      · exact absurd (List.mem_concat_self) hl
      · exact h
    · exact absurd (h.subset List.mem_concat_self) hl
  · exact fun h => h.trans (List.prefix_append _ _)

/-- No beginning ends with a letter that does not come before the separator. -/
lemma not_prefix_append_cons (hd : d ∉ l') (hc : c ∉ l) (hcd : c ≠ d) : ¬ l ++ [d] <+: l' ++ c :: r := by
  intro h
  have hnot : c ∉ l ++ [d] := by simp [hc, hcd]
  have hsub := ((prefix_append_cons_iff hnot).mp h).subset
  exact hd (hsub (List.mem_append_right _ (List.mem_singleton_self d)))

end

/-! ### Version 4 -/

instance neZero_byte : NeZero 256 := ⟨by decide⟩

@[ext]
structure Ipv4 where
  (a b c d : Fin 256)
  deriving DecidableEq

def decimal (n : ℕ) : List Char := Nat.toDigits 10 n

lemma decimal_inj {m n : ℕ} (h : decimal m = decimal n) : m = n := toDigits_inj (by decide) (by decide) h

lemma dot_not_mem_decimal (n : ℕ) : '.' ∉ decimal n := not_mem_toDigits (by decide) n

lemma colon_not_mem_decimal (n : ℕ) : ':' ∉ decimal n := not_mem_toDigits (by decide) n

namespace Ipv4

variable (x : Ipv4)

def text : List Char := decimal x.a ++ '.' :: (decimal x.b ++ '.' :: (decimal x.c ++ '.' :: decimal x.d))

lemma colon_not_mem_text : ':' ∉ x.text := by
  simp [text, colon_not_mem_decimal]

/-- The text starts with a numeral and a dot exactly if the numeral is that of the first number. -/
lemma decimal_prefix_text_iff (n : ℕ) : decimal n ++ ['.'] <+: x.text ↔ x.a = n := by
  rw [text, append_cons_prefix_iff (dot_not_mem_decimal _) (dot_not_mem_decimal _),
    and_iff_left List.nil_prefix]
  exact ⟨fun h => (decimal_inj h).symm, fun h => congrArg decimal h.symm⟩

lemma decimal_prefix_text_iff₂ (m n : ℕ) :
    decimal m ++ '.' :: (decimal n ++ ['.']) <+: x.text ↔ x.a = m ∧ x.b = n := by
  rw [text, append_cons_prefix_iff (dot_not_mem_decimal _) (dot_not_mem_decimal _),
    append_cons_prefix_iff (dot_not_mem_decimal _) (dot_not_mem_decimal _), and_iff_left List.nil_prefix]
  exact ⟨fun h => ⟨(decimal_inj h.1).symm, (decimal_inj h.2).symm⟩,
    fun h => ⟨congrArg decimal h.1.symm, congrArg decimal h.2.symm⟩⟩

lemma text_inj {x y : Ipv4} (h : x.text = y.text) : x = y := by
  obtain ⟨ha, h⟩ := append_cons_inj (dot_not_mem_decimal _) (dot_not_mem_decimal _) h
  obtain ⟨hb, h⟩ := append_cons_inj (dot_not_mem_decimal _) (dot_not_mem_decimal _) h
  obtain ⟨hc, hd⟩ := append_cons_inj (dot_not_mem_decimal _) (dot_not_mem_decimal _) h
  ext
  · exact decimal_inj ha
  · exact decimal_inj hb
  · exact decimal_inj hc
  · exact decimal_inj hd

end Ipv4

/-! ### Version 6 -/

structure Ipv6 where
  groups : List ℕ
  length_groups : groups.length = 8
  lt_of_mem : ∀ g ∈ groups, g < 65536

def hexadecimal (n : ℕ) : List Char := Nat.toDigits 16 n

lemma hexadecimal_inj {m n : ℕ} (h : hexadecimal m = hexadecimal n) : m = n :=
  toDigits_inj (by decide) (by decide) h

lemma colon_not_mem_hexadecimal (n : ℕ) : ':' ∉ hexadecimal n := by
  intro h
  obtain ⟨d, hd, hc⟩ := exists_of_mem_toDigits (by decide) h
  exact absurd hc ((by decide : ∀ d : Fin 16, Nat.digitChar d ≠ ':') ⟨d, hd⟩)

lemma dot_not_mem_hexadecimal (n : ℕ) : '.' ∉ hexadecimal n := by
  intro h
  obtain ⟨d, hd, hc⟩ := exists_of_mem_toDigits (by decide) h
  exact absurd hc ((by decide : ∀ d : Fin 16, Nat.digitChar d ≠ '.') ⟨d, hd⟩)

/-- The groups in hexadecimal, with colons between them. -/
def groupsText (groups : List ℕ) : List Char := [':'].intercalate (groups.map hexadecimal)

lemma groupsText_cons (g : ℕ) {groups : List ℕ} (h : groups ≠ []) :
    groupsText (g :: groups) = hexadecimal g ++ ':' :: groupsText groups := by
  rw [groupsText, List.map_cons, List.intercalate_cons_of_ne_nil (List.map_eq_nil_iff.not.mpr h),
    List.append_assoc]
  rfl

lemma groupsText_singleton (g : ℕ) : groupsText [g] = hexadecimal g := List.intercalate_singleton

/-- What starts with a colon starts with no group. -/
lemma hexadecimal_append_ne (g : ℕ) (rest rest' : List Char) : hexadecimal g ++ rest ≠ ':' :: rest' := by
  intro h
  cases hg : hexadecimal g with
  | nil => exact Nat.toDigits_ne_nil hg
  | cons c l =>
    rw [hg, List.cons_append] at h
    refine colon_not_mem_hexadecimal g ?_
    rw [hg, (List.cons.inj h).1]
    exact List.mem_cons_self

lemma groupsText_eq_one {groups : List ℕ} (h : groupsText groups = ['1']) : groups = [1] := by
  match groups with
  | [] => cases h
  | [g] =>
    rw [groupsText_singleton] at h
    rw [hexadecimal_inj (n := 1) h]
  | g :: k :: groups =>
    rw [groupsText_cons g (List.cons_ne_nil _ _)] at h
    have hmem : ':' ∈ ['1'] := h ▸ List.mem_append_right _ List.mem_cons_self
    exact absurd hmem (by decide)

/-- How many zeros the list starts with. -/
def zeros (groups : List ℕ) : ℕ := (groups.takeWhile (· = 0)).length

/-- Where the first of the longest runs of zeros starts, and its length. -/
def longestRun : List ℕ → ℕ × ℕ
  | [] => (0, 0)
  | g :: groups =>
    if (longestRun groups).2 ≤ zeros (g :: groups) then (0, zeros (g :: groups))
    else ((longestRun groups).1 + 1, (longestRun groups).2)

/-- A run that starts at the beginning is that of the first zeros. -/
lemma longestRun_of_start {groups : List ℕ} (h : (longestRun groups).1 = 0) :
    (longestRun groups).2 = zeros groups := by
  cases groups with
  | nil => rfl
  | cons g groups =>
    rw [longestRun] at h ⊢
    split_ifs at h ⊢
    rfl

lemma take_zeros (groups : List ℕ) : groups.take (zeros groups) = List.replicate (zeros groups) 0 := by
  refine List.eq_replicate_iff.mpr ⟨List.length_take_of_le (List.takeWhile_prefix _).length_le, fun g hg => ?_⟩
  rw [zeros, ← List.prefix_iff_eq_take.mp (List.takeWhile_prefix _)] at hg
  have hzero := List.mem_takeWhile_imp (p := fun g => decide (g = 0)) hg
  exact of_decide_eq_true hzero

/-- The groups with the first of the longest runs of zeros left out, where it has two or more. -/
def shortText (groups : List ℕ) : List Char :=
  if 2 ≤ (longestRun groups).2 then
    groupsText (groups.take (longestRun groups).1) ++
      ':' :: ':' :: groupsText (groups.drop ((longestRun groups).1 + (longestRun groups).2))
  else groupsText groups

/-- The text starts with the first group and a colon, or the zeros at the beginning are left out. -/
lemma shortText_cases (g : ℕ) {groups : List ℕ} (h : groups ≠ []) :
    (∃ rest, shortText (g :: groups) = hexadecimal g ++ ':' :: rest) ∨
      g = 0 ∧ shortText (g :: groups) =
        ':' :: ':' :: groupsText ((g :: groups).drop (zeros (g :: groups))) := by
  rw [shortText]
  split_ifs with hrun
  · cases hstart : (longestRun (g :: groups)).1 with
    | zero =>
      rw [longestRun_of_start hstart] at hrun ⊢
      refine .inr ⟨?_, by rw [Nat.zero_add]; rfl⟩
      by_contra hg
      rw [zeros, List.takeWhile_cons_of_neg (by simpa using hg)] at hrun
      cases hrun
    | succ k =>
      left
      rw [List.take_succ_cons]
      by_cases htake : groups.take k = []
      · rw [htake, groupsText_singleton]
        exact ⟨_, rfl⟩
      · rw [groupsText_cons g htake, List.append_assoc, List.cons_append]
        exact ⟨_, rfl⟩
  · exact .inl ⟨_, groupsText_cons g h⟩

/-- The address of version 6 that stands for one of version 4. -/
def Ipv4.mapped (x : Ipv4) : Ipv6 where
  groups := [0, 0, 0, 0, 0, 0xffff, 256 * x.a + x.b, 256 * x.c + x.d]
  length_groups := rfl
  lt_of_mem := by
    simp only [List.mem_cons, List.not_mem_nil, or_false]
    rintro g (rfl | rfl | rfl | rfl | rfl | rfl | rfl | rfl) <;> omega

namespace Ipv6

variable (x : Ipv6)

/-- The address of version 4 that one of version 6 stands for. -/
def mapped? : Option Ipv4 :=
  match x.groups with
  | [0, 0, 0, 0, 0, 0xffff, g, h] =>
    some ⟨Fin.ofNat 256 (g / 256), Fin.ofNat 256 g, Fin.ofNat 256 (h / 256), Fin.ofNat 256 h⟩
  | _ => none

def text : List Char :=
  match x.mapped? with
  | some y => "::ffff:".toList ++ y.text
  | none => shortText x.groups

example : (Ipv6.mk [0x2001, 0xdb8, 0, 0, 1, 0, 0, 1] rfl (by decide)).text =
    "2001:db8::1:0:0:1".toList := by decide

lemma exists_groups : ∃ g groups, x.groups = g :: groups ∧ groups.length = 7 := by
  obtain ⟨g, groups, hgroups⟩ := List.exists_cons_of_length_eq_add_one x.length_groups
  have hlength := x.length_groups
  rw [hgroups] at hlength
  exact ⟨g, groups, hgroups, Nat.succ.inj hlength⟩

lemma mapped?_eq_some {y : Ipv4} (h : x.mapped? = some y) :
    ∃ g k, x.groups = [0, 0, 0, 0, 0, 0xffff, g, k] := by
  rw [mapped?] at h
  split at h
  next g k hgroups => exact ⟨g, k, hgroups⟩
  next => cases h

/-- The text starts with the first group and a colon, or the first group is zero and left out. -/
lemma text_cases : (∃ rest, x.text = hexadecimal (x.groups.headD 0) ++ ':' :: rest) ∨
    x.groups.headD 0 = 0 ∧ ∃ rest, x.text = ':' :: ':' :: rest := by
  rw [text]
  cases hy : x.mapped? with
  | some y =>
    obtain ⟨_, _, hgroups⟩ := x.mapped?_eq_some hy
    exact .inr ⟨by rw [hgroups]; rfl, _, rfl⟩
  | none =>
    obtain ⟨g, groups, hgroups, hlength⟩ := x.exists_groups
    rw [hgroups, List.headD_cons]
    refine (shortText_cases g ?_).imp id fun h => ⟨h.1, _, h.2⟩
    rintro rfl
    cases hlength

/-- The loopback address is the only one with its text. -/
lemma text_eq_loopback_iff : x.text = "::1".toList ↔ x.groups = [0, 0, 0, 0, 0, 0, 0, 1] := by
  constructor
  · intro h
    rw [text] at h
    cases hy : x.mapped? with
    | some y =>
      rw [hy] at h
      cases h
    | none =>
      rw [hy] at h
      obtain ⟨g, groups, hgroups, hlength⟩ := x.exists_groups
      rw [hgroups] at h ⊢
      have hne : groups ≠ [] := by
        rintro rfl
        cases hlength
      rcases shortText_cases g hne with ⟨rest, htext⟩ | ⟨_, htext⟩
      · exact absurd (htext.symm.trans h) (hexadecimal_append_ne g _ _)
      · rw [htext] at h
        have hdrop := groupsText_eq_one (List.cons.inj (List.cons.inj h).2).2
        have hseven : zeros (g :: groups) = 7 := by
          have hlast := congrArg List.length hdrop
          rw [List.length_drop, List.length_cons, hlength, List.length_singleton] at hlast
          omega
        rw [← List.take_append_drop (zeros (g :: groups)) (g :: groups), hdrop, take_zeros, hseven]
        rfl
  · intro h
    have htext : x.text = (Ipv6.mk [0, 0, 0, 0, 0, 0, 0, 1] rfl (by decide)).text := by
      rw [text, text, mapped?, mapped?, h]
    rw [htext]
    decide

end Ipv6

end Mayatoko.Core
