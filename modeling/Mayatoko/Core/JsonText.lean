import Mayatoko.Core.Json
import Mayatoko.Core.Numeral

/-!
# The text of a JSON value

The compact text of a value: nothing stands between the signs, strings are quoted and escaped, fields come in
the order that they have. How numbers are written is a parameter. The text of a value tells it from any other
one, also where more text follows.
-/

namespace Mayatoko.Core

/-- How numbers are written: different numbers are written differently, with digits and the signs of numbers. -/
structure NumberText where
  text : ℚ → String
  injective : Function.Injective text
  nonempty : ∀ q, (text q).toList ≠ []
  plain : ∀ q, ∀ c ∈ (text q).toList, c ∈ "0123456789+-.e".toList

lemma isDigit_plain {c : Char} (h : c.isDigit = true) : c ∈ "0123456789+-.e".toList := by
  obtain ⟨hlow, hhigh⟩ : 48 ≤ c.toNat ∧ c.toNat ≤ 57 := by
    simpa [Char.isDigit, UInt32.le_iff_toNat_le] using h
  have hall : ∀ m < 58, 48 ≤ m → Char.ofNat m ∈ "0123456789+-.e".toList := by decide
  have hc := hall c.toNat (by omega) hlow
  rwa [Char.ofNat_toNat] at hc

lemma toString_nat_plain (m : ℕ) : ∀ c ∈ (toString m).toList, c ∈ "0123456789+-.e".toList := by
  intro c hc
  rw [Nat.toString_eq_repr, Nat.toList_repr] at hc
  exact isDigit_plain (Nat.isDigit_of_mem_toDigits (by decide) (by decide) hc)

lemma toString_int_plain (k : ℤ) : ∀ c ∈ (toString k).toList, c = '-' ∨ c.isDigit = true := by
  intro c hc
  rw [Int.toString_eq_repr, Int.repr_eq_if] at hc
  split at hc
  · rw [Nat.toList_repr] at hc
    exact .inr (Nat.isDigit_of_mem_toDigits (by decide) (by decide) hc)
  · rw [String.toList_append, Nat.toList_repr] at hc
    obtain hc | hc := List.mem_append.mp hc
    · exact .inl (List.mem_singleton.mp hc)
    · exact .inr (Nat.isDigit_of_mem_toDigits (by decide) (by decide) hc)

def ratioChars (q : ℚ) : List Char :=
  (toString q.num).toList ++ if q.den = 1 then [] else 'e' :: (toString q.den).toList

lemma ratioChars_injective : Function.Injective ratioChars := by
  have hnot (k : ℤ) : 'e' ∉ (toString k).toList := fun h => by
    have hsign := toString_int_plain k 'e' h
    revert hsign
    decide
  intro q r h
  simp only [ratioChars] at h
  split at h <;> split at h
  next hq hr =>
    rw [List.append_nil, List.append_nil] at h
    exact Rat.ext (toString_int_injective (String.toList_injective h)) (hq.trans hr.symm)
  next hq hr =>
    rw [List.append_nil] at h
    exact absurd (h ▸ List.mem_append_right _ List.mem_cons_self) (hnot q.num)
  next hq hr =>
    rw [List.append_nil] at h
    exact absurd (h.symm ▸ List.mem_append_right _ List.mem_cons_self) (hnot r.num)
  next hq hr =>
    obtain ⟨hnum, hden⟩ := append_cons_inj (hnot q.num) (hnot r.num) h
    exact Rat.ext (toString_int_injective (String.toList_injective hnum))
      (toString_nat_injective (String.toList_injective hden))

lemma ratioChars_plain (q : ℚ) : ∀ c ∈ ratioChars q, c ∈ "0123456789+-.e".toList := by
  intro c hc
  rw [ratioChars] at hc
  obtain hc | hc := List.mem_append.mp hc
  · obtain rfl | hdigit := toString_int_plain q.num c hc
    · decide
    · exact isDigit_plain hdigit
  · split at hc
    · cases hc
    · obtain rfl | hc := List.mem_cons.mp hc
      · decide
      · exact toString_nat_plain q.den c hc

lemma ratioChars_ne_nil (q : ℚ) : ratioChars q ≠ [] := by
  intro h
  have hnum : (toString q.num).toList = [] := (List.append_eq_nil_iff.mp h).1
  rw [Int.toString_eq_repr, Int.repr_eq_if] at hnum
  split at hnum
  · rw [Nat.toList_repr] at hnum
    exact Nat.toDigits_ne_nil hnum
  · rw [String.toList_append] at hnum
    exact absurd (List.append_eq_nil_iff.mp hnum).1 (by decide)

def NumberText.ratio : NumberText where
  text q := String.ofList (ratioChars q)
  injective _ _ h := ratioChars_injective (String.ofList_injective h)
  nonempty q := by
    rw [String.toList_ofList]
    exact ratioChars_ne_nil q
  plain q := by
    rw [String.toList_ofList]
    exact ratioChars_plain q

namespace Json

def hexDigit (n : ℕ) : Char := ("0123456789abcdef".toList[n]?).getD '0'

/-- A character of a string, escaped where it has to be. -/
def escaped (c : Char) : List Char :=
  if c = '"' then ['\\', '"']
  else if c = '\\' then ['\\', '\\']
  else if c.toNat = 8 then ['\\', 'b']
  else if c.toNat = 9 then ['\\', 't']
  else if c.toNat = 10 then ['\\', 'n']
  else if c.toNat = 12 then ['\\', 'f']
  else if c.toNat = 13 then ['\\', 'r']
  else if c.toNat < 32 then ['\\', 'u', '0', '0', hexDigit (c.toNat / 16), hexDigit (c.toNat % 16)]
  else [c]

def escapedChars : List Char → List Char
  | [] => ['"']
  | c :: cs => escaped c ++ escapedChars cs

def quoted (s : String) : List Char := '"' :: escapedChars s.toList

mutual

/-- The characters of a value. -/
def chars (n : NumberText) : Json → List Char
  | null => ['n', 'u', 'l', 'l']
  | bool true => ['t', 'r', 'u', 'e']
  | bool false => ['f', 'a', 'l', 's', 'e']
  | num q => (n.text q).toList
  | str s => quoted s
  | arr [] => ['[', ']']
  | arr (v :: vs) => '[' :: (chars n v ++ itemChars n vs)
  | obj [] => ['{', '}']
  | obj ((k, v) :: fs) => '{' :: (quoted k ++ ':' :: (chars n v ++ fieldChars n fs))

/-- The items after the first. -/
def itemChars (n : NumberText) : List Json → List Char
  | [] => [']']
  | v :: vs => ',' :: (chars n v ++ itemChars n vs)

/-- The fields after the first. -/
def fieldChars (n : NumberText) : List (String × Json) → List Char
  | [] => ['}']
  | (k, v) :: fs => ',' :: (quoted k ++ ':' :: (chars n v ++ fieldChars n fs))

end

/-- The compact text of a value. -/
def stringify (n : NumberText) (v : Json) : String := String.ofList (chars n v)

/-! ### Strings -/

/-- The character that an escape sequence stands for, and what follows it. -/
def unescaped : List Char → Option (Char × List Char)
  | '\\' :: 'u' :: '0' :: '0' :: h :: l :: r =>
    some (Char.ofNat (16 * "0123456789abcdef".toList.idxOf h + "0123456789abcdef".toList.idxOf l), r)
  | '\\' :: c :: r =>
    some (if c = 'b' then Char.ofNat 8 else if c = 't' then Char.ofNat 9 else if c = 'n' then Char.ofNat 10
      else if c = 'f' then Char.ofNat 12 else if c = 'r' then Char.ofNat 13 else c, r)
  | c :: r => some (c, r)
  | [] => none

lemma idxOf_hexDigit {n : ℕ} (h : n < 16) : "0123456789abcdef".toList.idxOf (hexDigit n) = n := by
  revert n
  decide

lemma unescaped_escaped (c : Char) (r : List Char) : unescaped (escaped c ++ r) = some (c, r) := by
  have hcode (n : ℕ) (h : c.toNat = n) : Char.ofNat n = c := by rw [← h, Char.ofNat_toNat]
  unfold escaped
  split
  next h =>
    subst h
    rfl
  split
  next h =>
    subst h
    rfl
  split
  next h => simpa [unescaped] using hcode 8 h
  split
  next h => simpa [unescaped] using hcode 9 h
  split
  next h => simpa [unescaped] using hcode 10 h
  split
  next h => simpa [unescaped] using hcode 12 h
  split
  next h => simpa [unescaped] using hcode 13 h
  split
  next h =>
    have hhigh := idxOf_hexDigit (show c.toNat / 16 < 16 by omega)
    have hlow := idxOf_hexDigit (show c.toNat % 16 < 16 by omega)
    have hsum : 16 * (c.toNat / 16) + c.toNat % 16 = c.toNat := Nat.div_add_mod _ _
    simp only [List.cons_append, List.nil_append, unescaped, hhigh, hlow, hsum, Char.ofNat_toNat]
  next _ hslash _ _ _ _ _ _ =>
    rw [List.cons_append, List.nil_append, unescaped.eq_def]
    split <;> simp_all

lemma escaped_ne_quote (c : Char) : ∃ d cs, escaped c = d :: cs ∧ d ≠ '"' := by
  unfold escaped
  split
  next => exact ⟨_, _, rfl, by decide⟩
  next hquote =>
    repeat' split
    all_goals first
      | exact ⟨_, _, rfl, by decide⟩
      | exact ⟨_, _, rfl, hquote⟩

variable {s t : List Char}

/-- An escaped string ends where it ends. -/
lemma escapedChars_inj {cs ds : List Char} (h : escapedChars cs ++ s = escapedChars ds ++ t) :
    cs = ds ∧ s = t := by
  induction cs generalizing ds with
  | nil =>
    cases ds with
    | nil => exact ⟨rfl, by simpa [escapedChars] using h⟩
    | cons d ds =>
      obtain ⟨e, es, hd, hne⟩ := escaped_ne_quote d
      simp [escapedChars, hd, hne.symm] at h
  | cons c cs ih =>
    cases ds with
    | nil =>
      obtain ⟨e, es, hc, hne⟩ := escaped_ne_quote c
      simp [escapedChars, hc, hne] at h
    | cons d ds =>
      simp only [escapedChars, List.append_assoc] at h
      have hread := congrArg unescaped h
      rw [unescaped_escaped, unescaped_escaped, Option.some.injEq, Prod.mk.injEq] at hread
      obtain ⟨rfl, hrest⟩ := hread
      obtain ⟨rfl, hend⟩ := ih hrest
      exact ⟨rfl, hend⟩

lemma quoted_inj {k l : String} (h : quoted k ++ s = quoted l ++ t) : k = l ∧ s = t := by
  rw [quoted, quoted, List.cons_append, List.cons_append, List.cons.injEq] at h
  obtain ⟨hchars, hend⟩ := escapedChars_inj h.2
  exact ⟨String.toList_injective hchars, hend⟩

/-! ### Values -/

/-- The kind of a value, by the sign that its text begins with. -/
def kindOf (c : Char) : ℕ :=
  if c = 'n' then 0 else if c = 't' then 1 else if c = 'f' then 2 else if c = '"' then 3
  else if c = '[' then 4 else if c = '{' then 5 else if c ∈ "0123456789+-.e".toList then 6 else 7

def kind : Json → ℕ
  | null => 0
  | bool true => 1
  | bool false => 2
  | str _ => 3
  | arr _ => 4
  | obj _ => 5
  | num _ => 6

variable {n : NumberText}

lemma kindOf_plain : ∀ c ∈ "0123456789+-.e".toList, kindOf c = 6 := by
  have h : ("0123456789+-.e".toList.all fun c => kindOf c = 6) = true := by decide
  exact fun c hc => of_decide_eq_true (List.all_eq_true.mp h c hc)

/-- The first sign of a text shows the kind of the value. -/
lemma chars_eq_cons (v : Json) : ∃ c cs, chars n v = c :: cs ∧ kindOf c = v.kind := by
  match v with
  | null => exact ⟨_, _, rfl, rfl⟩
  | bool true => exact ⟨_, _, rfl, rfl⟩
  | bool false => exact ⟨_, _, rfl, rfl⟩
  | str s => exact ⟨_, _, rfl, rfl⟩
  | arr [] => exact ⟨_, _, rfl, rfl⟩
  | arr (_ :: _) => exact ⟨_, _, by rw [chars], rfl⟩
  | obj [] => exact ⟨_, _, rfl, rfl⟩
  | obj ((_, _) :: _) => exact ⟨_, _, by rw [chars], rfl⟩
  | num q =>
    obtain ⟨c, cs, hq⟩ := List.exists_cons_of_ne_nil (n.nonempty q)
    exact ⟨c, cs, hq, kindOf_plain c (n.plain q c (hq ▸ List.mem_cons_self))⟩

/-- What follows a value does not go on with a number. -/
def Ends (s : List Char) : Prop := ∀ c ∈ s.head?, c ∉ "0123456789+-.e".toList

lemma ends_cons {c : Char} (h : c ∉ "0123456789+-.e".toList) : Ends (c :: s) := by
  intro d hd
  obtain rfl := Option.some.inj hd
  exact h

lemma ends_itemChars {vs : List Json} : Ends (itemChars n vs ++ s) := by
  cases vs with
  | nil => exact ends_cons (by decide)
  | cons v vs =>
    rw [itemChars]
    exact ends_cons (by decide)

lemma ends_fieldChars {fs : List (String × Json)} : Ends (fieldChars n fs ++ s) := by
  cases fs with
  | nil => exact ends_cons (by decide)
  | cons f fs =>
    rw [fieldChars]
    exact ends_cons (by decide)

/-- A text of signs of which the rest has none at its head ends where it ends. -/
lemma append_inj_of_plain {p : Char → Prop} {k l : List Char} (hk : ∀ c ∈ k, p c) (hl : ∀ c ∈ l, p c)
    (hs : ∀ c ∈ s.head?, ¬ p c) (ht : ∀ c ∈ t.head?, ¬ p c) (h : k ++ s = l ++ t) : k = l ∧ s = t := by
  induction k generalizing l with
  | nil =>
    cases l with
    | nil => exact ⟨rfl, h⟩
    | cons d l =>
      rw [List.nil_append, List.cons_append] at h
      exact absurd (hl d List.mem_cons_self) (hs d (by rw [h]; rfl))
  | cons c k ih =>
    cases l with
    | nil =>
      rw [List.nil_append, List.cons_append] at h
      exact absurd (hk c List.mem_cons_self) (ht c (by rw [← h]; rfl))
    | cons d l =>
      rw [List.cons_append, List.cons_append, List.cons.injEq] at h
      obtain ⟨rfl, hrest⟩ := h
      obtain ⟨rfl, hend⟩ := ih (fun c hc => hk c (List.mem_cons_of_mem _ hc))
        (fun c hc => hl c (List.mem_cons_of_mem _ hc)) hrest
      exact ⟨rfl, hend⟩

lemma kind_eq_of_chars {v w : Json} (h : chars n v ++ s = chars n w ++ t) : v.kind = w.kind := by
  obtain ⟨c, cs, hv, hc⟩ := chars_eq_cons (n := n) v
  obtain ⟨d, ds, hw, hd⟩ := chars_eq_cons (n := n) w
  rw [hv, hw, List.cons_append, List.cons_append, List.cons.injEq] at h
  rw [← hc, ← hd, h.1]

/-- No value begins where an array ends. -/
lemma chars_ne_closing (v : Json) {s t : List Char} : chars n v ++ s ≠ ']' :: t := by
  intro h
  obtain ⟨c, cs, hv, hc⟩ := chars_eq_cons (n := n) v
  rw [hv, List.cons_append, List.cons.injEq] at h
  have hkind : v.kind ≠ kindOf ']' := by
    cases v with
    | bool b => cases b <;> exact of_decide_eq_false rfl
    | _ => exact of_decide_eq_false rfl
  exact hkind (h.1 ▸ hc.symm)

mutual

/-- The text of a value ends where it ends, and tells which value it is. -/
lemma chars_inj : (v w : Json) → {s t : List Char} → Ends s → Ends t →
    chars n v ++ s = chars n w ++ t → v = w ∧ s = t
  | null, w, s, t, _, _, h => by
    have hkind := kind_eq_of_chars h
    match w with
    | null => exact ⟨rfl, List.append_cancel_left h⟩
    | bool true | bool false | num _ | str _ | arr _ | obj _ => cases hkind
  | bool true, w, s, t, _, _, h => by
    have hkind := kind_eq_of_chars h
    match w with
    | bool true => exact ⟨rfl, List.append_cancel_left h⟩
    | null | bool false | num _ | str _ | arr _ | obj _ => cases hkind
  | bool false, w, s, t, _, _, h => by
    have hkind := kind_eq_of_chars h
    match w with
    | bool false => exact ⟨rfl, List.append_cancel_left h⟩
    | null | bool true | num _ | str _ | arr _ | obj _ => cases hkind
  | num q, w, s, t, hs, ht, h => by
    have hkind := kind_eq_of_chars h
    match w with
    | num r =>
      obtain ⟨htext, hend⟩ := append_inj_of_plain (n.plain q) (n.plain r) hs ht h
      exact ⟨congrArg num (n.injective (String.toList_injective htext)), hend⟩
    | null | bool true | bool false | str _ | arr _ | obj _ => cases hkind
  | str k, w, s, t, _, _, h => by
    have hkind := kind_eq_of_chars h
    match w with
    | str l =>
      obtain ⟨rfl, hend⟩ := quoted_inj h
      exact ⟨rfl, hend⟩
    | null | bool true | bool false | num _ | arr _ | obj _ => cases hkind
  | arr vs, w, s, t, _, _, h => by
    have hkind := kind_eq_of_chars h
    match w with
    | arr ws =>
      obtain ⟨rfl, hend⟩ := arr_inj vs ws h
      exact ⟨rfl, hend⟩
    | null | bool true | bool false | num _ | str _ | obj _ => cases hkind
  | obj fs, w, s, t, _, _, h => by
    have hkind := kind_eq_of_chars h
    match w with
    | obj gs =>
      obtain ⟨rfl, hend⟩ := obj_inj fs gs h
      exact ⟨rfl, hend⟩
    | null | bool true | bool false | num _ | str _ | arr _ => cases hkind

lemma arr_inj : (vs ws : List Json) → {s t : List Char} →
    chars n (arr vs) ++ s = chars n (arr ws) ++ t → vs = ws ∧ s = t
  | [], [], _, _, h => ⟨rfl, List.append_cancel_left h⟩
  | [], w :: ws, s, t, h => by
    simp only [chars, List.cons_append, List.nil_append, List.append_assoc, List.cons.injEq, true_and] at h
    exact absurd h.symm (chars_ne_closing w)
  | v :: vs, [], s, t, h => by
    simp only [chars, List.cons_append, List.nil_append, List.append_assoc, List.cons.injEq, true_and] at h
    exact absurd h (chars_ne_closing v)
  | v :: vs, w :: ws, s, t, h => by
    rw [chars, chars, List.cons_append, List.cons_append, List.cons.injEq, List.append_assoc,
      List.append_assoc] at h
    obtain ⟨rfl, hrest⟩ := chars_inj v w ends_itemChars ends_itemChars h.2
    obtain ⟨rfl, hend⟩ := itemChars_inj vs ws hrest
    exact ⟨rfl, hend⟩

lemma itemChars_inj : (vs ws : List Json) → {s t : List Char} →
    itemChars n vs ++ s = itemChars n ws ++ t → vs = ws ∧ s = t
  | [], [], _, _, h => ⟨rfl, List.append_cancel_left h⟩
  | [], w :: ws, s, t, h => by simp [itemChars] at h
  | v :: vs, [], s, t, h => by simp [itemChars] at h
  | v :: vs, w :: ws, s, t, h => by
    rw [itemChars, itemChars, List.cons_append, List.cons_append, List.cons.injEq, List.append_assoc,
      List.append_assoc] at h
    obtain ⟨rfl, hrest⟩ := chars_inj v w ends_itemChars ends_itemChars h.2
    obtain ⟨rfl, hend⟩ := itemChars_inj vs ws hrest
    exact ⟨rfl, hend⟩

lemma obj_inj : (fs gs : List (String × Json)) → {s t : List Char} →
    chars n (obj fs) ++ s = chars n (obj gs) ++ t → fs = gs ∧ s = t
  | [], [], _, _, h => ⟨rfl, List.append_cancel_left h⟩
  | [], (k, v) :: gs, s, t, h => by simp [chars, quoted] at h
  | (k, v) :: fs, [], s, t, h => by simp [chars, quoted] at h
  | (k, v) :: fs, (l, w) :: gs, s, t, h => by
    rw [chars, chars, List.cons_append, List.cons_append, List.cons.injEq, List.append_assoc,
      List.append_assoc] at h
    obtain ⟨rfl, hvalue⟩ := quoted_inj h.2
    rw [List.cons_append, List.cons_append, List.cons.injEq, List.append_assoc, List.append_assoc] at hvalue
    obtain ⟨rfl, hrest⟩ := chars_inj v w ends_fieldChars ends_fieldChars hvalue.2
    obtain ⟨rfl, hend⟩ := fieldChars_inj fs gs hrest
    exact ⟨rfl, hend⟩

lemma fieldChars_inj : (fs gs : List (String × Json)) → {s t : List Char} →
    fieldChars n fs ++ s = fieldChars n gs ++ t → fs = gs ∧ s = t
  | [], [], _, _, h => ⟨rfl, List.append_cancel_left h⟩
  | [], (k, v) :: gs, s, t, h => by simp [fieldChars] at h
  | (k, v) :: fs, [], s, t, h => by simp [fieldChars] at h
  | (k, v) :: fs, (l, w) :: gs, s, t, h => by
    rw [fieldChars, fieldChars, List.cons_append, List.cons_append, List.cons.injEq, List.append_assoc,
      List.append_assoc] at h
    obtain ⟨rfl, hvalue⟩ := quoted_inj h.2
    rw [List.cons_append, List.cons_append, List.cons.injEq, List.append_assoc, List.append_assoc] at hvalue
    obtain ⟨rfl, hrest⟩ := chars_inj v w ends_fieldChars ends_fieldChars hvalue.2
    obtain ⟨rfl, hend⟩ := fieldChars_inj fs gs hrest
    exact ⟨rfl, hend⟩

end

/-- Different values have different texts. -/
lemma stringify_injective : Function.Injective (stringify n) := by
  intro v w h
  have hchars : chars n v = chars n w := String.ofList_injective h
  have hends : Ends [] := fun c hc => nomatch hc
  exact (chars_inj v w hends hends (by rw [hchars])).1

end Json

end Mayatoko.Core
