import Mathlib.Data.Rat.Floor
import Mayatoko.Core.Checked
import Mayatoko.Core.Numeral

/-!
# Payroll formulas

The tokenizer and the parser of `payroll-formula.ts`. The parser computes the value while it reads, and
checks some of the values on its way. Numbers are exact, and a text is the list of its characters, of
which those above the basic plane count twice.

A parser function takes a bound on the depth of its calls. `evaluatePayrollFormula` gives it enough for
every list of tokens.
-/

namespace Mayatoko.Payroll.Formula

open Core

/-! ### Tokens -/

inductive Operator
  | plus
  | minus
  | times
  | divide
deriving DecidableEq

inductive Token
  | number (value : ℚ)
  | identifier (value : String)
  | operator (value : Operator)
  | lparen
  | rparen
  | comma
deriving DecidableEq

def maxExpressionLength : ℕ := 256

def maxTokens : ℕ := 128

/-- The length of a text in UTF-16 units. -/
def textLength (text : String) : ℕ :=
  (text.toList.map fun c => if c.toNat < 0x10000 then 1 else 2).sum

def isNumberChar (c : Char) : Bool := c.isDigit || c = '.'

def isIdentifierStart (c : Char) : Bool := c.isAlpha || c = '_'

def isIdentifierChar (c : Char) : Bool := c.isAlphanum || c = '_' || c = '.'

/-- `Number` of digits with at most one dot. A dot alone is not a number. -/
def numberOf (run : List Char) : Option ℚ :=
  if run = ['.'] then none
  else some ((Nat.ofDigitChars 10 (run.filter (· ≠ '.')) 0 : ℚ) /
    10 ^ (run.dropWhile (· ≠ '.')).tail.length)

def symbol : Char → Option Token
  | '+' => some (.operator .plus)
  | '-' => some (.operator .minus)
  | '*' => some (.operator .times)
  | '/' => some (.operator .divide)
  | '(' => some .lparen
  | ')' => some .rparen
  | ',' => some .comma
  | _ => none

/-- The unit at which the loop stops: half of a character above the basic plane, which no text can show. -/
def firstUnit (c : Char) : Char := if c.toNat < 0x10000 then c else '\uFFFD'

def push (tokens : List Token) (token : Token) : Except String (List Token) :=
  if maxTokens < (tokens ++ [token]).length then throw "formula-too-complex"
  else pure (tokens ++ [token])

def readNumber (text : List Char) : Except String ℚ :=
  let run := text.takeWhile isNumberChar
  if 1 < run.count '.' then throw "invalid-number"
  else (numberOf run).elim (throw "invalid-number") pure

/-- The loop of `tokenize`, which takes at least one character a time. -/
def tokenizeLoop : ℕ → List Char → List Token → Except String (List Token)
  | 0, _, tokens => pure tokens
  | _ + 1, [], tokens => pure tokens
  | n + 1, c :: text, tokens =>
    if isBlank c then tokenizeLoop n text tokens
    else if isNumberChar c then do
      let value ← readNumber (c :: text)
      let tokens ← push tokens (.number value)
      tokenizeLoop n ((c :: text).dropWhile isNumberChar) tokens
    else if isIdentifierStart c then do
      let name := String.ofList ((c :: text).takeWhile isIdentifierChar)
      let tokens ← push tokens (.identifier name)
      tokenizeLoop n ((c :: text).dropWhile isIdentifierChar) tokens
    else do
      let token ← (symbol c).elim (throw s!"invalid-token:{firstUnit c}") pure
      let tokens ← push tokens token
      tokenizeLoop n text tokens

def tokenize (text : String) : Except String (List Token) :=
  if trim text = "" then throw "formula-empty"
  else if maxExpressionLength < textLength text then throw "formula-too-long"
  else tokenizeLoop text.toList.length text.toList []

/-! ### What the tokenizer returns -/

inductive Lexes : List Char → List Token → Prop
  | nil : Lexes [] []
  | blank {c text tokens} (hc : isBlank c) (h : Lexes text tokens) : Lexes (c :: text) tokens
  | number {c text tokens value} (hc : ¬ isBlank c) (hnumber : isNumberChar c)
      (hdots : ((c :: text).takeWhile isNumberChar).count '.' ≤ 1)
      (hvalue : numberOf ((c :: text).takeWhile isNumberChar) = some value)
      (h : Lexes ((c :: text).dropWhile isNumberChar) tokens) :
      Lexes (c :: text) (.number value :: tokens)
  | identifier {c text tokens} (hc : ¬ isBlank c) (hnumber : ¬ isNumberChar c)
      (hstart : isIdentifierStart c) (h : Lexes ((c :: text).dropWhile isIdentifierChar) tokens) :
      Lexes (c :: text)
        (.identifier (String.ofList ((c :: text).takeWhile isIdentifierChar)) :: tokens)
  | symbol {c text tokens token} (hc : ¬ isBlank c) (hnumber : ¬ isNumberChar c)
      (hstart : ¬ isIdentifierStart c) (hsymbol : symbol c = some token) (h : Lexes text tokens) :
      Lexes (c :: text) (token :: tokens)

variable {text : List Char} {tokens : List Token}

lemma Lexes.unique {tokens' : List Token} (h : Lexes text tokens)
    (h' : Lexes text tokens') : tokens = tokens' := by
  induction h generalizing tokens' with
  | nil =>
    cases h'
    rfl
  | blank hc _ ih =>
    cases h' with
    | blank _ h' => exact ih h'
    | number hc' | identifier hc' | symbol hc' => exact absurd hc hc'
  | number hc hnumber _ hvalue _ ih =>
    cases h' with
    | blank hc' => exact absurd hc' hc
    | number _ _ _ hvalue' h' =>
      cases hvalue.symm.trans hvalue'
      rw [ih h']
    | identifier _ hnumber' | symbol _ hnumber' => exact absurd hnumber hnumber'
  | identifier hc hnumber hstart _ ih =>
    cases h' with
    | blank hc' => exact absurd hc' hc
    | number _ hnumber' => exact absurd hnumber' hnumber
    | identifier _ _ _ h' => rw [ih h']
    | symbol _ _ hstart' => exact absurd hstart hstart'
  | symbol hc hnumber hstart hsymbol _ ih =>
    cases h' with
    | blank hc' => exact absurd hc' hc
    | number _ hnumber' => exact absurd hnumber' hnumber
    | identifier _ _ hstart' => exact absurd hstart' hstart
    | symbol _ _ _ hsymbol' h' =>
      cases hsymbol.symm.trans hsymbol'
      rw [ih h']

lemma push_eq_ok {pushed : List Token} {token : Token} :
    push tokens token = .ok pushed ↔ pushed = tokens ++ [token] ∧ pushed.length ≤ maxTokens := by
  unfold push
  split_ifs with hlong
  · constructor
    · intro h
      cases h
    · rintro ⟨rfl, hle⟩
      omega
  · constructor
    · intro h
      cases h
      exact ⟨rfl, by omega⟩
    · rintro ⟨rfl, -⟩
      rfl

lemma readNumber_eq_ok {value : ℚ} : readNumber text = .ok value ↔ (text.takeWhile isNumberChar).count '.' ≤ 1 ∧
      numberOf (text.takeWhile isNumberChar) = some value := by
  unfold readNumber
  dsimp only
  split_ifs with hdots
  · constructor
    · intro h
      cases h
    · rintro ⟨hle, -⟩
      omega
  · cases hvalue : numberOf (text.takeWhile isNumberChar) with
    | none => simp [throw, throwThe, MonadExceptOf.throw]
    | some found => simp [pure, Except.pure, Nat.le_of_not_lt hdots]

lemma elim_throw_eq_ok {α : Type} {x : Option α} {e : String} {a : α} :
    x.elim (throw e) pure = (.ok a : Except String α) ↔ x = some a := by
  cases x with
  | none => simp [throw, throwThe, MonadExceptOf.throw]
  | some b => simp [pure, Except.pure]

lemma length_dropWhile_le {p : Char → Bool} {c : Char} {n : ℕ} (hp : p c)
    (hn : (c :: text).length ≤ n + 1) : ((c :: text).dropWhile p).length ≤ n := by
  rw [List.dropWhile_cons_of_pos hp]
  have hle := (List.dropWhile_sublist p (l := text)).length_le
  simp only [List.length_cons] at hn
  omega

lemma isIdentifierChar_of_start {c : Char} (h : isIdentifierStart c) : isIdentifierChar c := by
  simp only [isIdentifierStart, isIdentifierChar, Char.isAlphanum, Bool.or_eq_true, decide_eq_true_eq] at h ⊢
  rcases h with h | h
  · exact .inl (Or.inl (Or.inl h))
  · exact .inl (Or.inr h)

/-- What the loop returns is the tokens of its text, after those that it had. -/
lemma tokenizeLoop_sound {n : ℕ} {read : List Token} (hn : text.length ≤ n)
    (hle : tokens.length ≤ maxTokens) (h : tokenizeLoop n text tokens = .ok read) :
    ∃ new, Lexes text new ∧ read = tokens ++ new ∧ read.length ≤ maxTokens := by
  induction n generalizing text tokens with
  | zero =>
    obtain rfl := List.eq_nil_of_length_eq_zero (Nat.le_zero.mp hn)
    cases h
    exact ⟨[], .nil, by simp, hle⟩
  | succ n ih =>
    cases text with
    | nil =>
      cases h
      exact ⟨[], .nil, by simp, hle⟩
    | cons c text =>
      have htext : text.length ≤ n := by simpa using hn
      rw [tokenizeLoop] at h
      split_ifs at h with hblank hnumber hstart
      · obtain ⟨new, hnew, hread, hlong⟩ := ih htext hle h
        exact ⟨new, .blank hblank hnew, hread, hlong⟩
      · obtain ⟨value, hvalue, h⟩ := bind_eq_ok.mp h
        obtain ⟨pushed, hpush, h⟩ := bind_eq_ok.mp h
        obtain ⟨hdots, hvalue⟩ := readNumber_eq_ok.mp hvalue
        obtain ⟨rfl, hpushed⟩ := push_eq_ok.mp hpush
        obtain ⟨new, hnew, rfl, hlong⟩ := ih (length_dropWhile_le hnumber hn) hpushed h
        exact ⟨_, .number hblank hnumber hdots hvalue hnew, by simp, hlong⟩
      · obtain ⟨pushed, hpush, h⟩ := bind_eq_ok.mp h
        obtain ⟨rfl, hpushed⟩ := push_eq_ok.mp hpush
        obtain ⟨new, hnew, rfl, hlong⟩ :=
          ih (length_dropWhile_le (isIdentifierChar_of_start hstart) hn) hpushed h
        exact ⟨_, .identifier hblank hnumber hstart hnew, by simp, hlong⟩
      · obtain ⟨token, htoken, h⟩ := bind_eq_ok.mp h
        obtain ⟨pushed, hpush, h⟩ := bind_eq_ok.mp h
        obtain ⟨rfl, hpushed⟩ := push_eq_ok.mp hpush
        obtain ⟨new, hnew, rfl, hlong⟩ := ih htext hpushed h
        exact ⟨_, .symbol hblank hnumber hstart (elim_throw_eq_ok.mp htoken) hnew, by simp, hlong⟩

lemma push_of_le {new : List Token} {token : Token} (hle : (tokens ++ token :: new).length ≤ maxTokens) :
    push tokens token = .ok (tokens ++ [token]) := by
  simp only [List.length_append, List.length_cons] at hle
  exact push_eq_ok.mpr ⟨rfl, by simp only [List.length_append, List.length_cons, List.length_nil]; omega⟩

/-- The loop reads every text of tokens, if they are not too many. -/
lemma tokenizeLoop_complete {new : List Token} (h : Lexes text new) (n : ℕ)
    (tokens : List Token) (hn : text.length ≤ n) (hle : (tokens ++ new).length ≤ maxTokens) :
    tokenizeLoop n text tokens = .ok (tokens ++ new) := by
  induction h generalizing n tokens with
  | nil => cases n <;> simp [tokenizeLoop, pure, Except.pure]
  | blank hc _ ih =>
    obtain ⟨n, rfl⟩ := Nat.exists_eq_succ_of_ne_zero (n := n) (by simp at hn; omega)
    rw [tokenizeLoop, if_pos hc]
    exact ih n tokens (by simpa using hn) hle
  | number hc hnumber hdots hvalue _ ih =>
    obtain ⟨n, rfl⟩ := Nat.exists_eq_succ_of_ne_zero (n := n) (by simp at hn; omega)
    rw [tokenizeLoop, if_neg hc, if_pos hnumber, bind_eq_ok]
    refine ⟨_, readNumber_eq_ok.mpr ⟨hdots, hvalue⟩, bind_eq_ok.mpr ⟨_, push_of_le hle, ?_⟩⟩
    rw [ih n _ (length_dropWhile_le hnumber hn) (by simpa using hle), List.append_assoc]
    rfl
  | identifier hc hnumber hstart _ ih =>
    obtain ⟨n, rfl⟩ := Nat.exists_eq_succ_of_ne_zero (n := n) (by simp at hn; omega)
    rw [tokenizeLoop, if_neg hc, if_neg hnumber, if_pos hstart]
    refine bind_eq_ok.mpr ⟨_, push_of_le hle, ?_⟩
    rw [ih n _ (length_dropWhile_le (isIdentifierChar_of_start hstart) hn) (by simpa using hle),
      List.append_assoc]
    rfl
  | symbol hc hnumber hstart hsymbol _ ih =>
    obtain ⟨n, rfl⟩ := Nat.exists_eq_succ_of_ne_zero (n := n) (by simp at hn; omega)
    rw [tokenizeLoop, if_neg hc, if_neg hnumber, if_neg hstart, bind_eq_ok]
    refine ⟨_, elim_throw_eq_ok.mpr hsymbol, bind_eq_ok.mpr ⟨_, push_of_le hle, ?_⟩⟩
    rw [ih n _ (by simpa using hn) (by simpa using hle), List.append_assoc]
    rfl

lemma Lexes.eq_nil (h : Lexes text tokens) (hblank : ∀ c ∈ text, isBlank c) : tokens = [] := by
  induction h with
  | nil => rfl
  | blank _ _ ih => exact ih fun c hc => hblank c (List.mem_cons_of_mem _ hc)
  | number hc | identifier hc | symbol hc => exact absurd (hblank _ List.mem_cons_self) hc

lemma blank_of_trim {text : String} (h : trim text = "") : ∀ c ∈ text.toList, isBlank c := by
  have hnil : (text.toList.dropWhile isBlank).rdropWhile isBlank = [] := by
    simpa [trim] using congrArg String.toList h
  have hdrop := List.dropWhile_eq_nil_iff.mpr (List.rdropWhile_eq_nil_iff.mp hnil)
  rw [List.dropWhile_idempotent] at hdrop
  exact List.dropWhile_eq_nil_iff.mp hdrop

lemma tokenize_eq_ok {text : String} (hne : tokens ≠ []) :
    tokenize text = .ok tokens ↔ textLength text ≤ maxExpressionLength ∧
      Lexes text.toList tokens ∧ tokens.length ≤ maxTokens := by
  unfold tokenize
  split_ifs with hempty hlong
  · constructor
    · intro h
      cases h
    · rintro ⟨-, h, -⟩
      exact absurd (h.eq_nil (blank_of_trim hempty)) hne
  · constructor
    · intro h
      cases h
    · rintro ⟨hle, -⟩
      omega
  · constructor
    · intro h
      obtain ⟨new, hnew, rfl, hle⟩ := tokenizeLoop_sound le_rfl (Nat.zero_le _) h
      exact ⟨Nat.le_of_not_lt hlong, hnew, hle⟩
    · rintro ⟨-, h, hle⟩
      exact tokenizeLoop_complete h _ [] le_rfl hle

/-! ### Functions -/

/-- What a name finds in the table of functions, which inherits the last two. -/
inductive Callee
  | min
  | max
  | round
  | floor
  | ceil
  | abs
  | constructor
  | proto
deriving DecidableEq

def toLowerCase (text : String) : String := String.ofList (text.toList.map Char.toLower)

def functions (name : String) : Option Callee :=
  [("min", Callee.min), ("max", .max), ("round", .round), ("floor", .floor), ("ceil", .ceil), ("abs", .abs),
    ("constructor", .constructor), ("__proto__", .proto)].lookup (toLowerCase name)

def Callee.apply : Callee → List ℚ → Option ℚ
  | .min, args => args.min?
  | .max, args => args.max?
  | .round, args => args.head?.map fun value => (⌊value + 1 / 2⌋ : ℚ)
  | .floor, args => args.head?.map fun value => (⌊value⌋ : ℚ)
  | .ceil, args => args.head?.map fun value => (⌈value⌉ : ℚ)
  | .abs, args => args.head?.map fun value => |value|
  | .constructor, _ => none
  | .proto, _ => none

def inheritedNames : List String :=
  ["__proto__", "constructor", "hasOwnProperty", "isPrototypeOf", "propertyIsEnumerable", "toLocaleString",
    "toString", "valueOf", "__defineGetter__", "__defineSetter__", "__lookupGetter__", "__lookupSetter__"]

/-! ### The parser -/

def Operator.isSum : Operator → Bool
  | .plus => true
  | .minus => true
  | _ => false

def Operator.apply : Operator → ℚ → ℚ → ℚ
  | .plus, left, right => left + right
  | .minus, left, right => left - right
  | .times, left, right => left * right
  | .divide, left, right => left / right

def maxValue : ℚ := 1000000000000

def checked (value : ℚ) : Except String ℚ :=
  if maxValue < |value| then throw "result-out-of-range" else pure value

def variableValue (vars : String → Option ℚ) (name : String) : Except String ℚ :=
  match vars name with
  | some value => checked value
  | none =>
    -- an inherited member is found, but it is not a finite number
    if name ∈ inheritedNames then throw "non-finite-result" else throw s!"unknown-variable:{name}"

def rparen : List Token → Except String (List Token)
  | .rparen :: tokens => pure tokens
  | _ => throw "missing-rparen"

/-- The end of `functionCall`, with the arguments read. -/
def callResult (name : String) (fn : Callee) (args : List ℚ) : Except String ℚ :=
  if fn ∈ [Callee.round, .floor, .ceil, .abs] ∧ args.length ≠ 1 then throw s!"invalid-arity:{name}"
  else if fn ∈ [Callee.min, .max] ∧ args.length < 1 then throw s!"invalid-arity:{name}"
  else if fn = .proto then throw "fn is not a function"
  else (fn.apply args).elim (throw "non-finite-result") checked

def stackExceeded : String := "Maximum call stack size exceeded"

section Parser

variable (vars : String → Option ℚ)

mutual

def expression : ℕ → List Token → Except String (ℚ × List Token)
  | 0, _ => throw stackExceeded
  | n + 1, tokens => do
    let (value, tokens) ← term n tokens
    expressionLoop n value tokens

def expressionLoop : ℕ → ℚ → List Token → Except String (ℚ × List Token)
  | 0, _, _ => throw stackExceeded
  | n + 1, value, .operator op :: tokens =>
    if op.isSum then do
      let (right, tokens) ← term n tokens
      let value ← checked (op.apply value right)
      expressionLoop n value tokens
    else pure (value, .operator op :: tokens)
  | _ + 1, value, tokens => pure (value, tokens)

def term : ℕ → List Token → Except String (ℚ × List Token)
  | 0, _ => throw stackExceeded
  | n + 1, tokens => do
    let (value, tokens) ← unary n tokens
    termLoop n value tokens

def termLoop : ℕ → ℚ → List Token → Except String (ℚ × List Token)
  | 0, _, _ => throw stackExceeded
  | n + 1, value, .operator op :: tokens =>
    if op.isSum then pure (value, .operator op :: tokens)
    else do
      let (right, tokens) ← unary n tokens
      if op = .divide ∧ right = 0 then throw "division-by-zero"
      else do
        let value ← checked (op.apply value right)
        termLoop n value tokens
  | _ + 1, value, tokens => pure (value, tokens)

def unary : ℕ → List Token → Except String (ℚ × List Token)
  | 0, _ => throw stackExceeded
  | n + 1, .operator .plus :: tokens => unary n tokens
  | n + 1, .operator .minus :: tokens => do
    let (value, tokens) ← unary n tokens
    let value ← checked (-value)
    pure (value, tokens)
  | n + 1, tokens => primary n tokens

def primary : ℕ → List Token → Except String (ℚ × List Token)
  | 0, _ => throw stackExceeded
  | _ + 1, [] => throw "unexpected-end"
  | _ + 1, .number value :: tokens => pure (value, tokens)
  | n + 1, .lparen :: tokens => do
    let (value, tokens) ← expression n tokens
    let tokens ← rparen tokens
    pure (value, tokens)
  | n + 1, .identifier name :: .lparen :: tokens => functionCall n name tokens
  | _ + 1, .identifier name :: tokens => do
    let value ← variableValue vars name
    pure (value, tokens)
  | _ + 1, _ :: _ => throw "unexpected-token"

def functionCall : ℕ → String → List Token → Except String (ℚ × List Token)
  | 0, _, _ => throw stackExceeded
  | n + 1, name, tokens => do
    let fn ← (functions name).elim (throw s!"unknown-function:{name}") pure
    let (args, tokens) ← (if tokens.head? = some .rparen then pure ([], tokens) else arguments n tokens)
    let tokens ← rparen tokens
    let value ← callResult name fn args
    pure (value, tokens)

def arguments : ℕ → List Token → Except String (List ℚ × List Token)
  | 0, _ => throw stackExceeded
  | n + 1, tokens => do
    let (value, tokens) ← expression n tokens
    match tokens with
    | .comma :: tokens => do
      let (values, tokens) ← arguments n tokens
      pure (value :: values, tokens)
    | tokens => pure ([value], tokens)

end

end Parser

def callDepth (tokens : List Token) : ℕ := 5 * tokens.length + 5

def parse (tokens : List Token) (vars : String → Option ℚ) : Except String ℚ := do
  let (value, rest) ← expression vars (callDepth tokens) tokens
  if rest ≠ [] then throw "unexpected-token" else checked value

def evaluatePayrollFormula (text : String) (vars : String → Option ℚ) : Except String ℚ := do
  let tokens ← tokenize text
  parse tokens vars

end Mayatoko.Payroll.Formula
