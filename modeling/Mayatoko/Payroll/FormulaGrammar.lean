import Mayatoko.Payroll.Formula

/-!
# The grammar of payroll formulas

A formula is a text of tokens that the grammar derives. The trees of a nonterminal are its derivations:
they have tokens, a value, and requirements that the computation of the value meets or fails. A list of
tokens has one tree at most.
-/

namespace Mayatoko.Payroll.Formula

/-! ### Trees -/

mutual

/-- `term {(+|-) term}` -/
inductive Expression
  | mk (first : Term) (rest : Sums)

inductive Sums
  | nil
  | cons (op : Operator) (hop : op.isSum = true) (next : Term) (rest : Sums)

/-- `unary {(*|/) unary}` -/
inductive Term
  | mk (first : Unary) (rest : Products)

inductive Products
  | nil
  | cons (op : Operator) (hop : op.isSum = false) (next : Unary) (rest : Products)

/-- `(+|-) unary | primary` -/
inductive Unary
  | plus (operand : Unary)
  | minus (operand : Unary)
  | primary (operand : Primary)

/-- `number | variable | function '(' [expression {',' expression}] ')' | '(' expression ')'` -/
inductive Primary
  | number (value : ℚ)
  | name (name : String)
  | call (name : String)
  | callWith (name : String) (args : Arguments)
  | parens (inner : Expression)

inductive Arguments
  | last (value : Expression)
  | more (value : Expression) (rest : Arguments)

end

mutual

def Expression.tokens : Expression → List Token
  | .mk first rest => first.tokens ++ rest.tokens

def Sums.tokens : Sums → List Token
  | .nil => []
  | .cons op _ next rest => .operator op :: (next.tokens ++ rest.tokens)

def Term.tokens : Term → List Token
  | .mk first rest => first.tokens ++ rest.tokens

def Products.tokens : Products → List Token
  | .nil => []
  | .cons op _ next rest => .operator op :: (next.tokens ++ rest.tokens)

def Unary.tokens : Unary → List Token
  | .plus operand => .operator .plus :: operand.tokens
  | .minus operand => .operator .minus :: operand.tokens
  | .primary operand => operand.tokens

def Primary.tokens : Primary → List Token
  | .number value => [.number value]
  | .name name => [.identifier name]
  | .call name => [.identifier name, .lparen, .rparen]
  | .callWith name args => .identifier name :: .lparen :: (args.tokens ++ [.rparen])
  | .parens inner => .lparen :: (inner.tokens ++ [.rparen])

def Arguments.tokens : Arguments → List Token
  | .last value => value.tokens
  | .more value rest => value.tokens ++ .comma :: rest.tokens

end

/-- The value of a call. A function that does not return a number has no value of its own. -/
def callValue (name : String) (args : List ℚ) : ℚ :=
  ((functions name).bind fun fn => fn.apply args).getD 0

section Denotation

variable (vars : String → Option ℚ)

mutual

def Expression.denote : Expression → ℚ
  | .mk first rest => rest.denote first.denote

def Sums.denote : Sums → ℚ → ℚ
  | .nil, left => left
  | .cons op _ next rest, left => rest.denote (op.apply left next.denote)

def Term.denote : Term → ℚ
  | .mk first rest => rest.denote first.denote

def Products.denote : Products → ℚ → ℚ
  | .nil, left => left
  | .cons op _ next rest, left => rest.denote (op.apply left next.denote)

def Unary.denote : Unary → ℚ
  | .plus operand => operand.denote
  | .minus operand => -operand.denote
  | .primary operand => operand.denote

def Primary.denote : Primary → ℚ
  | .number value => value
  | .name name => (vars name).getD 0
  | .call name => callValue name []
  | .callWith name args => callValue name args.denote
  | .parens inner => inner.denote

def Arguments.denote : Arguments → List ℚ
  | .last value => [value.denote]
  | .more value rest => value.denote :: rest.denote

end

inductive Requirement
  | bound (name : String)
  | callable (name : String) (arity : ℕ)
  | divisor (value : ℚ)
  | inRange (value : ℚ)

/-- The numbers of arguments that a function takes. What the table inherits is no function. -/
def Callee.Takes : Callee → ℕ → Prop
  | .min, arity => 1 ≤ arity
  | .max, arity => 1 ≤ arity
  | .constructor, _ => False
  | .proto, _ => False
  | _, arity => arity = 1

def Requirement.Holds : Requirement → Prop
  | .bound name => (vars name).isSome
  | .callable name arity => ∃ fn, functions name = some fn ∧ fn.Takes arity
  | .divisor value => value ≠ 0
  | .inRange value => |value| ≤ maxValue

/-- An operator divides by no zero, and its result is in range. -/
def Operator.requirements (op : Operator) (left right : ℚ) : List Requirement :=
  if op = .divide then [.divisor right, .inRange (op.apply left right)]
  else [.inRange (op.apply left right)]

mutual

/-- The requirements in the order of the computation. Numbers and the operands of a plus sign have none. -/
def Expression.requirements : Expression → List Requirement
  | .mk first rest => first.requirements ++ rest.requirements (first.denote vars)

def Sums.requirements : Sums → ℚ → List Requirement
  | .nil, _ => []
  | .cons op _ next rest, left =>
    next.requirements ++ (op.requirements left (next.denote vars) ++
      rest.requirements (op.apply left (next.denote vars)))

def Term.requirements : Term → List Requirement
  | .mk first rest => first.requirements ++ rest.requirements (first.denote vars)

def Products.requirements : Products → ℚ → List Requirement
  | .nil, _ => []
  | .cons op _ next rest, left =>
    next.requirements ++ (op.requirements left (next.denote vars) ++
      rest.requirements (op.apply left (next.denote vars)))

def Unary.requirements : Unary → List Requirement
  | .plus operand => operand.requirements
  | .minus operand => operand.requirements ++ [.inRange (-operand.denote vars)]
  | .primary operand => operand.requirements

def Primary.requirements : Primary → List Requirement
  | .number _ => []
  | .name name => [.bound name, .inRange ((vars name).getD 0)]
  | .call name => [.callable name 0, .inRange (callValue name [])]
  | .callWith name args =>
    args.requirements ++ [.callable name (args.denote vars).length,
      .inRange (callValue name (args.denote vars))]
  | .parens inner => inner.requirements

def Arguments.requirements : Arguments → List Requirement
  | .last value => value.requirements
  | .more value rest => value.requirements ++ rest.requirements

end

end Denotation

/-! ### Where a tree ends -/

/-- The tokens after an operand do not make it a call. -/
def EndsPrimary (rest : List Token) : Prop := ∀ tokens, rest ≠ .lparen :: tokens

/-- The tokens after a term do not go on with it. -/
def EndsTerm (rest : List Token) : Prop :=
  EndsPrimary rest ∧ ∀ op tokens, rest = .operator op :: tokens → op.isSum = true

/-- The tokens after an expression do not go on with it. -/
def EndsExpression (rest : List Token) : Prop :=
  EndsPrimary rest ∧ ∀ op tokens, rest ≠ .operator op :: tokens

lemma EndsExpression.endsTerm {rest : List Token} (h : EndsExpression rest) : EndsTerm rest :=
  ⟨h.1, fun op tokens heq => absurd heq (h.2 op tokens)⟩

lemma endsExpression_nil : EndsExpression [] := by
  constructor
  · intro tokens h
    cases h
  · intro op tokens h
    cases h

lemma endsExpression_rparen (rest : List Token) : EndsExpression (.rparen :: rest) := by
  constructor
  · intro tokens h
    cases h
  · intro op tokens h
    cases h

lemma endsExpression_comma (rest : List Token) : EndsExpression (.comma :: rest) := by
  constructor
  · intro tokens h
    cases h
  · intro op tokens h
    cases h

lemma endsTerm_operator {op : Operator} (hop : op.isSum = true) (rest : List Token) :
    EndsTerm (.operator op :: rest) := by
  constructor
  · intro tokens h
    cases h
  · intro op' tokens h
    cases h
    exact hop

lemma Sums.endsTerm (s : Sums) {rest : List Token} (h : EndsExpression rest) : EndsTerm (s.tokens ++ rest) := by
  cases s with
  | nil => exact h.endsTerm
  | cons op hop next s => exact endsTerm_operator hop _

lemma Products.endsPrimary (s : Products) {rest : List Token} (h : EndsTerm rest) :
    EndsPrimary (s.tokens ++ rest) := by
  cases s with
  | nil => exact h.1
  | cons op hop next s =>
    intro tokens h
    cases h

/-- A tree starts with a token that ends no tree. -/
def Starts (tokens : List Token) : Prop := ∃ token rest, tokens = token :: rest ∧ token ≠ .rparen

lemma Starts.append {tokens : List Token} (h : Starts tokens) (rest : List Token) :
    Starts (tokens ++ rest) := by
  obtain ⟨token, tokens, rfl, hne⟩ := h
  exact ⟨token, tokens ++ rest, rfl, hne⟩

lemma Starts.length_pos {tokens : List Token} (h : Starts tokens) : 0 < tokens.length := by
  obtain ⟨token, tokens, rfl, -⟩ := h
  simp

lemma Starts.head?_ne {tokens : List Token} (h : Starts tokens) (rest : List Token) :
    ¬ (tokens ++ rest).head? = some .rparen := by
  obtain ⟨token, tokens, rfl, hne⟩ := h
  simpa using hne

mutual

lemma Expression.starts (e : Expression) : Starts e.tokens := by
  match e with
  | .mk first rest =>
    rw [Expression.tokens]
    exact first.starts.append _

lemma Term.starts (t : Term) : Starts t.tokens := by
  match t with
  | .mk first rest =>
    rw [Term.tokens]
    exact first.starts.append _

lemma Unary.starts (u : Unary) : Starts u.tokens := by
  match u with
  | .plus operand => exact ⟨_, _, rfl, by simp⟩
  | .minus operand => exact ⟨_, _, rfl, by simp⟩
  | .primary operand =>
    rw [Unary.tokens]
    exact operand.starts

lemma Primary.starts (p : Primary) : Starts p.tokens := by
  match p with
  | .number value => exact ⟨_, _, rfl, by simp⟩
  | .name name => exact ⟨_, _, rfl, by simp⟩
  | .call name => exact ⟨_, _, rfl, by simp⟩
  | .callWith name args => exact ⟨_, _, rfl, by simp⟩
  | .parens inner => exact ⟨_, _, rfl, by simp⟩

end

lemma Arguments.starts (args : Arguments) : Starts args.tokens := by
  cases args with
  | last value =>
    rw [Arguments.tokens]
    exact value.starts
  | more value rest =>
    rw [Arguments.tokens]
    exact value.starts.append _

/-! ### One tree at most -/

mutual

theorem Expression.tokens_inj {e e' : Expression} {rest rest' : List Token} (hrest : EndsExpression rest)
    (hrest' : EndsExpression rest') (h : e.tokens ++ rest = e'.tokens ++ rest') : e = e' ∧ rest = rest' := by
  match e, e' with
  | .mk first sums, .mk first' sums' =>
    simp only [Expression.tokens, List.append_assoc] at h
    obtain ⟨rfl, hsums⟩ := Term.tokens_inj (sums.endsTerm hrest) (sums'.endsTerm hrest') h
    obtain ⟨rfl, rfl⟩ := Sums.tokens_inj hrest hrest' hsums
    exact ⟨rfl, rfl⟩

theorem Sums.tokens_inj {s s' : Sums} {rest rest' : List Token} (hrest : EndsExpression rest)
    (hrest' : EndsExpression rest') (h : s.tokens ++ rest = s'.tokens ++ rest') : s = s' ∧ rest = rest' := by
  match s, s' with
  | .nil, .nil => exact ⟨rfl, h⟩
  | .nil, .cons op' _ _ _ => exact absurd h (hrest.2 op' _)
  | .cons op _ _ _, .nil => exact absurd h.symm (hrest'.2 op _)
  | .cons op hop next s, .cons op' hop' next' s' =>
    simp only [Sums.tokens, List.cons_append, List.append_assoc, List.cons.injEq, Token.operator.injEq] at h
    obtain ⟨rfl, h⟩ := h
    obtain ⟨rfl, hs⟩ := Term.tokens_inj (s.endsTerm hrest) (s'.endsTerm hrest') h
    obtain ⟨rfl, rfl⟩ := Sums.tokens_inj hrest hrest' hs
    exact ⟨rfl, rfl⟩

theorem Term.tokens_inj {t t' : Term} {rest rest' : List Token} (hrest : EndsTerm rest)
    (hrest' : EndsTerm rest') (h : t.tokens ++ rest = t'.tokens ++ rest') : t = t' ∧ rest = rest' := by
  match t, t' with
  | .mk first products, .mk first' products' =>
    simp only [Term.tokens, List.append_assoc] at h
    obtain ⟨rfl, hproducts⟩ :=
      Unary.tokens_inj (products.endsPrimary hrest) (products'.endsPrimary hrest') h
    obtain ⟨rfl, rfl⟩ := Products.tokens_inj hrest hrest' hproducts
    exact ⟨rfl, rfl⟩

theorem Products.tokens_inj {s s' : Products} {rest rest' : List Token} (hrest : EndsTerm rest)
    (hrest' : EndsTerm rest') (h : s.tokens ++ rest = s'.tokens ++ rest') : s = s' ∧ rest = rest' := by
  match s, s' with
  | .nil, .nil => exact ⟨rfl, h⟩
  | .nil, .cons op' hop' _ _ => exact absurd (hrest.2 op' _ h) (by simp [hop'])
  | .cons op hop _ _, .nil => exact absurd (hrest'.2 op _ h.symm) (by simp [hop])
  | .cons op hop next s, .cons op' hop' next' s' =>
    simp only [Products.tokens, List.cons_append, List.append_assoc, List.cons.injEq, Token.operator.injEq] at h
    obtain ⟨rfl, h⟩ := h
    obtain ⟨rfl, hs⟩ := Unary.tokens_inj (s.endsPrimary hrest) (s'.endsPrimary hrest') h
    obtain ⟨rfl, rfl⟩ := Products.tokens_inj hrest hrest' hs
    exact ⟨rfl, rfl⟩

theorem Unary.tokens_inj {u u' : Unary} {rest rest' : List Token} (hrest : EndsPrimary rest)
    (hrest' : EndsPrimary rest') (h : u.tokens ++ rest = u'.tokens ++ rest') : u = u' ∧ rest = rest' := by
  match u, u' with
  | .plus operand, .plus operand' =>
    obtain ⟨rfl, rfl⟩ := Unary.tokens_inj hrest hrest' (List.cons.inj h).2
    exact ⟨rfl, rfl⟩
  | .minus operand, .minus operand' =>
    obtain ⟨rfl, rfl⟩ := Unary.tokens_inj hrest hrest' (List.cons.inj h).2
    exact ⟨rfl, rfl⟩
  | .primary operand, .primary operand' =>
    obtain ⟨rfl, rfl⟩ := Primary.tokens_inj hrest hrest' h
    exact ⟨rfl, rfl⟩
  | .plus _, .minus _ => cases h
  | .minus _, .plus _ => cases h
  | .plus _, .primary operand => cases operand <;> cases h
  | .minus _, .primary operand => cases operand <;> cases h
  | .primary operand, .plus _ => cases operand <;> cases h
  | .primary operand, .minus _ => cases operand <;> cases h

theorem Primary.tokens_inj {p p' : Primary} {rest rest' : List Token} (hrest : EndsPrimary rest)
    (hrest' : EndsPrimary rest') (h : p.tokens ++ rest = p'.tokens ++ rest') : p = p' ∧ rest = rest' := by
  match p, p' with
  | .number value, .number value' =>
    cases h
    exact ⟨rfl, rfl⟩
  | .name name, .name name' =>
    cases h
    exact ⟨rfl, rfl⟩
  | .call name, .call name' =>
    cases h
    exact ⟨rfl, rfl⟩
  | .callWith name args, .callWith name' args' =>
    simp only [Primary.tokens, List.cons_append, List.append_assoc, List.cons.injEq, List.nil_append,
      Token.identifier.injEq, true_and] at h
    obtain ⟨rfl, h⟩ := h
    obtain ⟨rfl, hargs⟩ := Arguments.tokens_inj h
    cases hargs
    exact ⟨rfl, rfl⟩
  | .parens inner, .parens inner' =>
    simp only [Primary.tokens, List.cons_append, List.append_assoc, List.cons.injEq, List.nil_append,
      true_and] at h
    obtain ⟨rfl, hinner⟩ :=
      Expression.tokens_inj (endsExpression_rparen rest) (endsExpression_rparen rest') h
    cases hinner
    exact ⟨rfl, rfl⟩
  | .name _, .call _ => exact absurd (List.cons.inj h).2 (hrest _)
  | .name _, .callWith _ _ => exact absurd (List.cons.inj h).2 (hrest _)
  | .call _, .name _ => exact absurd (List.cons.inj h).2.symm (hrest' _)
  | .callWith _ _, .name _ => exact absurd (List.cons.inj h).2.symm (hrest' _)
  | .call _, .callWith _ args =>
    simp only [Primary.tokens, List.cons_append, List.append_assoc, List.cons.injEq, List.nil_append,
      true_and] at h
    exact absurd (by rw [← h.2]; rfl) (args.starts.head?_ne (.rparen :: rest'))
  | .callWith _ args, .call _ =>
    simp only [Primary.tokens, List.cons_append, List.append_assoc, List.cons.injEq, List.nil_append,
      true_and] at h
    exact absurd (by rw [h.2]; rfl) (args.starts.head?_ne (.rparen :: rest))
  | .number _, .name _ | .number _, .call _ | .number _, .callWith _ _ | .number _, .parens _
  | .name _, .number _ | .call _, .number _ | .callWith _ _, .number _ | .parens _, .number _
  | .name _, .parens _ | .call _, .parens _ | .callWith _ _, .parens _
  | .parens _, .name _ | .parens _, .call _ | .parens _, .callWith _ _ => cases h

theorem Arguments.tokens_inj {args args' : Arguments} {rest rest' : List Token}
    (h : args.tokens ++ .rparen :: rest = args'.tokens ++ .rparen :: rest') :
    args = args' ∧ rest = rest' := by
  match args, args' with
  | .last value, .last value' =>
    obtain ⟨rfl, hrest⟩ :=
      Expression.tokens_inj (endsExpression_rparen rest) (endsExpression_rparen rest') h
    cases hrest
    exact ⟨rfl, rfl⟩
  | .more value args, .more value' args' =>
    simp only [Arguments.tokens, List.append_assoc, List.cons_append] at h
    obtain ⟨rfl, hargs⟩ := Expression.tokens_inj (endsExpression_comma _) (endsExpression_comma _) h
    obtain ⟨rfl, rfl⟩ := Arguments.tokens_inj (List.cons.inj hargs).2
    exact ⟨rfl, rfl⟩
  | .last value, .more value' args' =>
    simp only [Arguments.tokens, List.append_assoc, List.cons_append] at h
    obtain ⟨-, hrest⟩ := Expression.tokens_inj (endsExpression_rparen rest) (endsExpression_comma _) h
    cases hrest
  | .more value args, .last value' =>
    simp only [Arguments.tokens, List.append_assoc, List.cons_append] at h
    obtain ⟨-, hrest⟩ := Expression.tokens_inj (endsExpression_comma _) (endsExpression_rparen rest') h
    cases hrest

end

end Mayatoko.Payroll.Formula
