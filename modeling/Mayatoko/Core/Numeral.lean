import Mathlib.Data.List.Count
import Mathlib.Data.List.DropRight

/-!
# Decimal numerals in texts

`padStart` fills a text from the left up to a width. A padded decimal numeral still determines
its number, and a text is split in one way at the first, and at the last, occurrence of a separator.

`trim` takes the white space and the line ends off both ends of a text.

Texts that are joined by a separator, as by `join`, do not tell their pieces when the separator may occur in
them, but they do when it is known how often it occurs in each.
-/

namespace Mayatoko.Core

/-- Fill `s` from the left with `c` up to the length `n`. -/
def padStart (s : String) (n : ℕ) (c : Char) : String := String.ofList (s.toList.leftpad n c)

@[simp] lemma toList_padStart (s : String) (n : ℕ) (c : Char) :
    (padStart s n c).toList = s.toList.leftpad n c := by simp [padStart]

/-- The number that a numeral denotes: a minus sign may stand after leading zeros. -/
def decimalValue (l : List Char) : ℤ :=
  if '-' ∈ l then -(Nat.ofDigitChars 10 (l.dropWhile (· ≠ '-')).tail 0 : ℤ)
  else Nat.ofDigitChars 10 l 0

lemma not_mem_toDigits {c : Char} (hc : c.isDigit = false) (n : ℕ) : c ∉ Nat.toDigits 10 n := by
  intro h
  have hdigit := Nat.isDigit_of_mem_toDigits (by decide) (by decide) h
  exact absurd hdigit (by simp [hc])

lemma minus_not_mem_toDigits (n : ℕ) : '-' ∉ Nat.toDigits 10 n :=
  not_mem_toDigits (by decide) n

lemma dropWhile_replicate_append (n : ℕ) (l : List Char) :
    (List.replicate n '0' ++ '-' :: l).dropWhile (· ≠ '-') = '-' :: l := by
  simp

lemma decimalValue_leftpad (n : ℕ) (k : ℤ) : decimalValue ((toString k).toList.leftpad n '0') = k := by
  rw [Int.toString_eq_repr, Int.repr_eq_if, List.leftpad]
  split
  next hk =>
    have hmem (m : ℕ) : '-' ∉ List.replicate m '0' ++ Nat.toDigits 10 k.toNat := by
      simp [minus_not_mem_toDigits]
    rw [Nat.toList_repr, decimalValue, if_neg (hmem _), Nat.ofDigitChars_append]
    simpa using Int.toNat_of_nonneg hk
  next hk =>
    rw [String.toList_append, Nat.toList_repr]
    change decimalValue (List.replicate _ '0' ++ '-' :: Nat.toDigits 10 (-k).toNat) = k
    rw [decimalValue, if_pos (by simp), dropWhile_replicate_append, List.tail_cons,
      Nat.ofDigitChars_ten_toDigits]
    omega

/-- A decimal numeral that is padded with zeros determines its number. -/
lemma padStart_injective (n : ℕ) : Function.Injective fun k : ℤ => padStart (toString k) n '0' := by
  intro j k h
  have htext := congrArg (fun s => decimalValue s.toList) h
  simpa only [toList_padStart, decimalValue_leftpad] using htext

lemma toString_int_injective : Function.Injective fun k : ℤ => toString k := by
  intro j k h
  have htext := congrArg (fun s => decimalValue (s.toList.leftpad 0 '0')) h
  simpa only [decimalValue_leftpad] using htext

lemma toString_nat_injective : Function.Injective fun n : ℕ => toString n := by
  intro m n h
  have hvalue := congrArg (fun s : String => Nat.ofDigitChars 10 s.toList 0) h
  simpa using hvalue

/-- A list is split in one way at the first occurrence of `a`. -/
lemma append_cons_inj {α : Type*} {a : α} {l l' r r' : List α} (hl : a ∉ l) (hl' : a ∉ l')
    (h : l ++ a :: r = l' ++ a :: r') : l = l' ∧ r = r' := by
  induction l generalizing l' with
  | nil =>
    cases l' with
    | nil => simpa using h
    | cons b l' =>
      simp only [List.nil_append, List.cons_append, List.cons.injEq] at h
      simp [h.1] at hl'
  | cons b l ih =>
    cases l' with
    | nil =>
      simp only [List.nil_append, List.cons_append, List.cons.injEq] at h
      simp [h.1] at hl
    | cons b' l' =>
      simp only [List.cons_append, List.cons.injEq] at h
      simp only [List.mem_cons, not_or] at hl hl'
      obtain ⟨hll, hrr⟩ := ih hl.2 hl'.2 h.2
      exact ⟨by rw [h.1, hll], hrr⟩

/-- A list is split in one way at the last occurrence of `a`. -/
lemma append_cons_inj_last {α : Type*} {a : α} {l l' r r' : List α} (hr : a ∉ r) (hr' : a ∉ r')
    (h : l ++ a :: r = l' ++ a :: r') : l = l' ∧ r = r' := by
  have hrev : r.reverse ++ a :: l.reverse = r'.reverse ++ a :: l'.reverse := by
    simpa using congrArg List.reverse h
  obtain ⟨hrr, hll⟩ := append_cons_inj (by simpa using hr) (by simpa using hr') hrev
  exact ⟨List.reverse_injective hll, List.reverse_injective hrr⟩

/-- White space and line ends. -/
def isBlank (c : Char) : Bool :=
  let n := c.toNat
  9 ≤ n && n ≤ 13 || n = 32 || n = 160 || n = 5760 || 8192 ≤ n && n ≤ 8202 || n = 8232 || n = 8233 ||
    n = 8239 || n = 8287 || n = 12288 || n = 65279

def trim (s : String) : String := String.ofList ((s.toList.dropWhile isBlank).rdropWhile isBlank)

section

variable {α : Type*} [DecidableEq α] {a : α}

/-- The lists one after the other, with `a` between them. -/
def joined (a : α) : List (List α) → List α
  | [] => []
  | [l] => l
  | l :: l' :: ls => l ++ a :: joined a (l' :: ls)

/-- A list is split in one way at an occurrence of `a` that follows a known number of others. -/
lemma append_cons_inj_of_count {l l' r r' : List α} (hcount : l.count a = l'.count a)
    (h : l ++ a :: r = l' ++ a :: r') : l = l' ∧ r = r' := by
  induction l generalizing l' with
  | nil =>
    cases l' with
    | nil => simpa using h
    | cons b l' =>
      simp only [List.nil_append, List.cons_append, List.cons.injEq] at h
      rw [← h.1, List.count_nil, List.count_cons_self] at hcount
      omega
  | cons b l ih =>
    cases l' with
    | nil =>
      simp only [List.nil_append, List.cons_append, List.cons.injEq] at h
      rw [h.1, List.count_nil, List.count_cons_self] at hcount
      omega
    | cons b' l' =>
      simp only [List.cons_append, List.cons.injEq] at h
      obtain ⟨rfl, h⟩ := h
      simp only [List.count_cons, Nat.add_right_cancel_iff] at hcount
      obtain ⟨hl, hr⟩ := ih hcount h
      exact ⟨by rw [hl], hr⟩

/-- Lists of pieces that are joined to the same text are the same if the separator occurs equally often in
every piece. -/
lemma joined_inj_of_count {ls ls' : List (List α)} (hcount : ls.map (List.count a) = ls'.map (List.count a))
    (h : joined a ls = joined a ls') : ls = ls' := by
  induction ls generalizing ls' with
  | nil =>
    rw [List.map_nil, eq_comm, List.map_eq_nil_iff] at hcount
    exact hcount.symm
  | cons l ls ih =>
    cases ls' with
    | nil => cases hcount
    | cons l' ls' =>
      rw [List.map_cons, List.map_cons, List.cons.injEq] at hcount
      obtain ⟨hl, hls⟩ := hcount
      cases ls with
      | nil =>
        rw [List.map_nil, eq_comm, List.map_eq_nil_iff] at hls
        subst hls
        exact congrArg (fun l => [l]) h
      | cons m ms =>
        cases ls' with
        | nil => cases hls
        | cons m' ms' =>
          obtain ⟨rfl, hrest⟩ := append_cons_inj_of_count hl h
          rw [ih hls hrest]

end

end Mayatoko.Core
