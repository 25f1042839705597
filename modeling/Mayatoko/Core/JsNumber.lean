import Mathlib.Data.Rat.Cast.Order
import Mayatoko.Core.JsonText

/-!
# The numbers of JavaScript

A number is a double, which is a rational number here unless it is none or infinite; zero has one sign. A text
becomes a number as by `Number`, rounded to the nearest double, ties to even, and a number becomes a text as by
`String`: the fewest digits that tell it from the doubles around it.
-/

namespace Mayatoko.Core

inductive JsNumber
  | nan
  | infinity (negative : Bool)
  | finite (q : ℚ)

namespace JsNumber

def finite? : JsNumber → Option ℚ
  | finite q => some q
  | _ => none

/-- The nearest integer to a quotient, ties to even. -/
def roundQuotient (n d : ℕ) : ℕ :=
  if 2 * (n % d) < d then n / d else if d < 2 * (n % d) then n / d + 1 else n / d + n / d % 2

/-- The double nearest to a quotient, in units of the least one. -/
def roundMagnitude (n d : ℕ) : ℕ :=
  let p := Nat.log2 (n * 2 ^ 1074 / d) - 52
  roundQuotient (n * 2 ^ 1074) (d * 2 ^ p) * 2 ^ p

/-- The double nearest to a quotient. -/
def ofQuotient (negative : Bool) (n d : ℕ) : JsNumber :=
  if 2 ^ 2098 ≤ roundMagnitude n d then infinity negative
  else finite ((if negative then -1 else 1) * mkRat (roundMagnitude n d) (2 ^ 1074))

/-! ### Numbers from texts -/

def digitValue (c : Char) : ℕ :=
  if c.isDigit then c.toNat - 48 else if c.isLower then c.toNat - 87 else if c.isUpper then c.toNat - 55 else 36

/-- The digits of a base as a number. -/
def ofDigits (base : ℕ) (digits : List Char) : ℕ := digits.foldl (fun n c => n * base + digitValue c) 0

/-- A whole number after a sign for its base. -/
def ofBase (base : ℕ) (digits : List Char) : JsNumber :=
  if digits ≠ [] ∧ digits.all (fun c => digitValue c < base) then ofQuotient false (ofDigits base digits) 1
  else nan

/-- The exponent of a decimal numeral, none if it is not well formed. -/
def exponent? : List Char → Option ℤ
  | [] => some 0
  | e :: rest =>
    if e = 'e' ∨ e = 'E' then
      let digits := match rest with
        | '+' :: digits => digits
        | '-' :: digits => digits
        | digits => digits
      if digits ≠ [] ∧ digits.all Char.isDigit then
        some (if rest.head? = some '-' then -(ofDigits 10 digits : ℤ) else ofDigits 10 digits)
      else none
    else none

/-- A decimal numeral without a sign as a quotient, none if it is not well formed. -/
def decimal? (text : List Char) : Option (ℕ × ℕ) :=
  let whole := text.takeWhile Char.isDigit
  let rest := text.dropWhile Char.isDigit
  let fraction := if rest.head? = some '.' then rest.tail.takeWhile Char.isDigit else []
  let rest := if rest.head? = some '.' then rest.tail.dropWhile Char.isDigit else rest
  if whole = [] ∧ fraction = [] then none
  else (exponent? rest).map fun e =>
    (ofDigits 10 (whole ++ fraction) * 10 ^ e.toNat, 10 ^ (fraction.length + (-e).toNat))

def ofUnsigned (negative : Bool) (text : List Char) : JsNumber :=
  if text = "Infinity".toList then infinity negative
  else match decimal? text with
    | some (n, d) => ofQuotient negative n d
    | none => nan

/-- `Number(text)` -/
def ofText (text : List Char) : JsNumber :=
  match (text.dropWhile isBlank).rdropWhile isBlank with
  | [] => finite 0
  | '0' :: 'x' :: digits => ofBase 16 digits
  | '0' :: 'X' :: digits => ofBase 16 digits
  | '0' :: 'o' :: digits => ofBase 8 digits
  | '0' :: 'O' :: digits => ofBase 8 digits
  | '0' :: 'b' :: digits => ofBase 2 digits
  | '0' :: 'B' :: digits => ofBase 2 digits
  | '+' :: rest => ofUnsigned false rest
  | '-' :: rest => ofUnsigned true rest
  | rest => ofUnsigned false rest

/-! ### Texts of numbers -/

/-- The fewest digits that round to a positive double, and the place of the point before them. -/
def shortest (n d : ℕ) : ℕ × ℤ :=
  let scaled := n * 10 ^ 400
  let length := (Nat.toDigits 10 (scaled / d)).length
  let digits (k : ℕ) : ℕ := roundQuotient scaled (d * 10 ^ (length - k))
  let k := ((List.range' 1 17).find? fun k =>
    roundMagnitude (digits k * 10 ^ (length - k)) (10 ^ 400) = roundMagnitude n d).getD 17
  if digits k = 10 ^ k then (1, length + 1 - 400) else (digits k, length - 400)

/-- Digits with the point before the place `n`. -/
def placed (digits : List Char) (n : ℤ) : List Char :=
  if digits.length ≤ n ∧ n ≤ 21 then digits ++ List.replicate (n - digits.length).toNat '0'
  else if 0 < n ∧ n ≤ 21 then digits.take n.toNat ++ '.' :: digits.drop n.toNat
  else if -6 < n ∧ n ≤ 0 then '0' :: '.' :: (List.replicate (-n).toNat '0' ++ digits)
  else digits.take 1 ++ (if digits.length = 1 then [] else '.' :: digits.drop 1) ++
    'e' :: (if n - 1 < 0 then '-' else '+') :: Nat.toDigits 10 (n - 1).natAbs

/-- `String(q)` for a finite number. -/
def text (q : ℚ) : List Char :=
  if q = 0 then ['0']
  else
    let digits := shortest q.num.natAbs q.den
    (if q < 0 then ['-'] else []) ++ placed (Nat.toDigits 10 digits.1) digits.2

example : (["1e5", " .10", "0x1F", "-123456789012345678901234"].map fun t =>
    (ofText t.toList).finite?.map text) = ["100000", "0.1", "31", "-1.2345678901234569e+23"].map
      fun t => some t.toList := by
  decide +kernel

/-- The characters of numbers. -/
def Plain (text : List Char) : Prop := ∀ c ∈ text, c ∈ "0123456789+-.e".toList

lemma Plain.append {l l' : List Char} (h : Plain l) (h' : Plain l') : Plain (l ++ l') :=
  fun c hc => (List.mem_append.mp hc).elim (h c) (h' c)

lemma Plain.cons {c : Char} {l : List Char} (hc : c ∈ "0123456789+-.e".toList) (h : Plain l) : Plain (c :: l) :=
  List.forall_mem_cons.mpr ⟨hc, h⟩

lemma Plain.sublist {l l' : List Char} (h : Plain l) (hl : l'.Sublist l) : Plain l' :=
  fun c hc => h c (hl.subset hc)

lemma plain_nil : Plain [] := fun _ h => absurd h List.not_mem_nil

lemma plain_toDigits (n : ℕ) : Plain (Nat.toDigits 10 n) :=
  fun _ hc => isDigit_plain (Nat.isDigit_of_mem_toDigits (by decide) (by decide) hc)

lemma plain_replicate (n : ℕ) : Plain (List.replicate n '0') := by
  intro c hc
  rw [List.eq_of_mem_replicate hc]
  decide

lemma plain_placed {digits : List Char} (h : Plain digits) (n : ℤ) : Plain (placed digits n) := by
  unfold placed
  split_ifs
  · exact h.append (plain_replicate _)
  · exact (h.sublist (List.take_sublist _ _)).append (.cons (by decide) (h.sublist (List.drop_sublist _ _)))
  · exact .cons (by decide) (.cons (by decide) ((plain_replicate _).append h))
  all_goals
    refine ((h.sublist (List.take_sublist _ _)).append ?_).append (.cons (by decide) ?_)
    · first
      | exact plain_nil
      | exact .cons (by decide) (h.sublist (List.drop_sublist _ _))
    · exact .cons (by decide) (plain_toDigits _)

/-- A number is written with digits and the signs of numbers. -/
lemma text_plain (q : ℚ) : Plain (text q) := by
  unfold text
  split_ifs
  · exact .cons (by decide) plain_nil
  · exact (Plain.cons (by decide) plain_nil).append (plain_placed (plain_toDigits _) _)
  · exact plain_nil.append (plain_placed (plain_toDigits _) _)

end JsNumber

end Mayatoko.Core
