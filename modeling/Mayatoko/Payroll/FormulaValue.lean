import Mayatoko.Payroll.FormulaGrammar

/-!
# The value of a payroll formula

The parser reads exactly the trees of the grammar whose requirements hold, and computes their values, so
`evaluatePayrollFormula` returns the value of the only tree of its text.
-/

namespace Mayatoko.Payroll.Formula

open Core

/-! ### Steps of the parser -/

lemma checked_eq_ok {value result : ℚ} : checked value = .ok result ↔ result = value ∧ |value| ≤ maxValue := by
  unfold checked
  split_ifs with hlarge
  · constructor
    · intro h
      cases h
    · rintro ⟨-, hle⟩
      exact absurd hle (not_le.mpr hlarge)
  · constructor
    · intro h
      cases h
      exact ⟨rfl, not_lt.mp hlarge⟩
    · rintro ⟨rfl, -⟩
      rfl

lemma rparen_eq_ok {tokens rest : List Token} : rparen tokens = .ok rest ↔ tokens = .rparen :: rest := by
  constructor
  · intro h
    unfold rparen at h
    split at h
    · cases h
      rfl
    · cases h
  · rintro rfl
    rfl

lemma Callee.apply_of_takes {fn : Callee} {args : List ℚ} (h : fn.Takes args.length) :
    ∃ value, fn.apply args = some value := by
  cases args with
  | nil => cases fn <;> simp [Callee.Takes] at h
  | cons value args => cases fn <;> simp [Callee.Takes, Callee.apply, List.min?, List.max?] at h ⊢

lemma Callee.takes_iff {fn : Callee} {arity : ℕ} :
    fn.Takes arity ↔ ¬ (fn ∈ [Callee.round, .floor, .ceil, .abs] ∧ arity ≠ 1) ∧
      ¬ (fn ∈ [Callee.min, .max] ∧ arity < 1) ∧ fn ≠ .proto ∧ fn ≠ .constructor := by
  cases fn <;> simp [Callee.Takes] <;> omega

lemma callResult_eq_ok {name : String} {fn : Callee} {args : List ℚ} {value : ℚ}
    (hfn : functions name = some fn) :
    callResult name fn args = .ok value ↔
      fn.Takes args.length ∧ value = callValue name args ∧ |callValue name args| ≤ maxValue := by
  have hvalue : callValue name args = (fn.apply args).getD 0 := by
    rw [callValue, hfn]
    rfl
  unfold callResult
  rw [Callee.takes_iff]
  by_cases hone : fn ∈ [Callee.round, .floor, .ceil, .abs] ∧ args.length ≠ 1
  · simp [hone]
  by_cases hsome : fn ∈ [Callee.min, .max] ∧ args.length < 1
  · simp [hsome]
  by_cases hproto : fn = .proto
  · simp [hproto]
  by_cases hconstructor : fn = .constructor
  · simp [hconstructor, Callee.apply]
  rw [if_neg hone, if_neg hsome, if_neg hproto]
  obtain ⟨result, hresult⟩ := fn.apply_of_takes (Callee.takes_iff.mpr ⟨hone, hsome, hproto, hconstructor⟩)
  rw [hvalue, hresult]
  simp only [Option.elim_some, Option.getD_some, checked_eq_ok, hone, hsome, hproto, hconstructor,
    not_false_eq_true, ne_eq, true_and]

section Steps

variable {vars : String → Option ℚ}

lemma variableValue_eq_ok {name : String} {value : ℚ} :
    variableValue vars name = .ok value ↔
      (vars name).isSome ∧ value = (vars name).getD 0 ∧ |(vars name).getD 0| ≤ maxValue := by
  unfold variableValue
  cases vars name with
  | none =>
    dsimp only
    split_ifs <;> simp
  | some found => simp [checked_eq_ok]

lemma expressionLoop_of_ends {rest : List Token} (h : EndsExpression rest) (n : ℕ) (value : ℚ) :
    expressionLoop vars (n + 1) value rest = .ok (value, rest) := by
  match rest with
  | .operator op :: rest => exact absurd rfl (h.2 op rest)
  | [] | .number _ :: _ | .identifier _ :: _ | .lparen :: _ | .rparen :: _ | .comma :: _ => rfl

lemma termLoop_of_ends {rest : List Token} (h : EndsTerm rest) (n : ℕ) (value : ℚ) :
    termLoop vars (n + 1) value rest = .ok (value, rest) := by
  match rest with
  | .operator op :: rest =>
    rw [termLoop, if_pos (h.2 op rest rfl)]
    rfl
  | [] | .number _ :: _ | .identifier _ :: _ | .lparen :: _ | .rparen :: _ | .comma :: _ => rfl

lemma unary_primary (p : Primary) (n : ℕ) (rest : List Token) :
    unary vars (n + 1) (p.tokens ++ rest) = primary vars n (p.tokens ++ rest) := by
  cases p <;> rfl

lemma primary_name {rest : List Token} (h : EndsPrimary rest) (n : ℕ) (name : String) :
    primary vars (n + 1) (.identifier name :: rest) =
      (do let value ← variableValue vars name; pure (value, rest)) := by
  match rest with
  | .lparen :: rest => exact absurd rfl (h rest)
  | [] | .number _ :: _ | .identifier _ :: _ | .operator _ :: _ | .rparen :: _ | .comma :: _ => rfl

end Steps

/-! ### What the parser accepts -/

section Accepted

variable {vars : String → Option ℚ}

def Met (vars : String → Option ℚ) (requirements : List Requirement) : Prop :=
  ∀ r ∈ requirements, r.Holds vars

@[simp] lemma met_nil : Met vars [] := by simp [Met]

@[simp] lemma met_cons {r : Requirement} {rs : List Requirement} :
    Met vars (r :: rs) ↔ r.Holds vars ∧ Met vars rs := by simp [Met]

@[simp] lemma met_append {rs rs' : List Requirement} : Met vars (rs ++ rs') ↔ Met vars rs ∧ Met vars rs' := by
  simp [Met, or_imp, forall_and]

lemma met_operator {op : Operator} {left right : ℚ} : Met vars (op.requirements left right) ↔
      ¬ (op = .divide ∧ right = 0) ∧ |op.apply left right| ≤ maxValue := by
  unfold Operator.requirements
  split_ifs with hop <;> simp [hop, Requirement.Holds]

lemma functionCall_of_args {n : ℕ} {name : String} {tokens rest : List Token} (args : List ℚ)
    (hread : (if tokens.head? = some .rparen then pure ([], tokens) else arguments vars n tokens) =
      .ok (args, .rparen :: rest))
    (hcallable : (Requirement.callable name args.length).Holds vars)
    (hrange : (Requirement.inRange (callValue name args)).Holds vars) :
    functionCall vars (n + 1) name tokens = .ok (callValue name args, rest) := by
  obtain ⟨fn, hfn, htakes⟩ := hcallable
  rw [functionCall, bind_eq_ok]
  refine ⟨fn, elim_throw_eq_ok.mpr hfn, bind_eq_ok.mpr ⟨_, hread, bind_eq_ok.mpr ⟨rest, rfl, ?_⟩⟩⟩
  exact bind_eq_ok.mpr ⟨_, (callResult_eq_ok hfn).mpr ⟨htakes, rfl, hrange⟩, rfl⟩

mutual

theorem Expression.complete (e : Expression) {n : ℕ} {rest : List Token} (hn : 5 * e.tokens.length ≤ n)
    (hrest : EndsExpression rest) (h : Met vars (e.requirements vars)) :
    expression vars n (e.tokens ++ rest) = .ok (e.denote vars, rest) := by
  match e with
  | .mk first sums =>
    simp only [Expression.tokens, Expression.requirements, met_append, List.length_append] at hn h ⊢
    have hpos := first.starts.length_pos
    obtain ⟨n, rfl⟩ := Nat.exists_eq_succ_of_ne_zero (n := n) (by omega)
    rw [expression, List.append_assoc, first.complete (by omega) (sums.endsTerm hrest) h.1]
    exact sums.complete (by omega) hrest h.2

theorem Sums.complete (s : Sums) {n : ℕ} {left : ℚ} {rest : List Token}
    (hn : 5 * s.tokens.length + 1 ≤ n) (hrest : EndsExpression rest)
    (h : Met vars (s.requirements vars left)) :
    expressionLoop vars n left (s.tokens ++ rest) = .ok (s.denote vars left, rest) := by
  match s with
  | .nil =>
    obtain ⟨n, rfl⟩ := Nat.exists_eq_succ_of_ne_zero (n := n) (by omega)
    exact expressionLoop_of_ends hrest n left
  | .cons op hop next s =>
    simp only [Sums.tokens, Sums.requirements, met_append, met_operator, List.length_append,
      List.length_cons, List.cons_append] at hn h ⊢
    obtain ⟨n, rfl⟩ := Nat.exists_eq_succ_of_ne_zero (n := n) (by omega)
    rw [expressionLoop, if_pos hop, List.append_assoc, next.complete (by omega) (s.endsTerm hrest) h.1]
    refine bind_eq_ok.mpr ⟨_, rfl, bind_eq_ok.mpr ⟨_, checked_eq_ok.mpr ⟨rfl, h.2.1.2⟩, ?_⟩⟩
    exact s.complete (by omega) hrest h.2.2

theorem Term.complete (t : Term) {n : ℕ} {rest : List Token} (hn : 5 * t.tokens.length ≤ n + 1)
    (hrest : EndsTerm rest) (h : Met vars (t.requirements vars)) :
    term vars n (t.tokens ++ rest) = .ok (t.denote vars, rest) := by
  match t with
  | .mk first products =>
    simp only [Term.tokens, Term.requirements, met_append, List.length_append] at hn h ⊢
    have hpos := first.starts.length_pos
    obtain ⟨n, rfl⟩ := Nat.exists_eq_succ_of_ne_zero (n := n) (by omega)
    rw [term, List.append_assoc, first.complete (by omega) (products.endsPrimary hrest) h.1]
    exact products.complete (by omega) hrest h.2

theorem Products.complete (s : Products) {n : ℕ} {left : ℚ} {rest : List Token}
    (hn : 5 * s.tokens.length + 1 ≤ n) (hrest : EndsTerm rest)
    (h : Met vars (s.requirements vars left)) :
    termLoop vars n left (s.tokens ++ rest) = .ok (s.denote vars left, rest) := by
  match s with
  | .nil =>
    obtain ⟨n, rfl⟩ := Nat.exists_eq_succ_of_ne_zero (n := n) (by omega)
    exact termLoop_of_ends hrest n left
  | .cons op hop next s =>
    simp only [Products.tokens, Products.requirements, met_append, met_operator, List.length_append,
      List.length_cons, List.cons_append] at hn h ⊢
    obtain ⟨n, rfl⟩ := Nat.exists_eq_succ_of_ne_zero (n := n) (by omega)
    rw [termLoop, if_neg (by simp [hop]), List.append_assoc, next.complete (by omega) (s.endsPrimary hrest) h.1]
    refine (if_neg h.2.1.1).trans (bind_eq_ok.mpr ⟨_, checked_eq_ok.mpr ⟨rfl, h.2.1.2⟩, ?_⟩)
    exact s.complete (by omega) hrest h.2.2

theorem Unary.complete (u : Unary) {n : ℕ} {rest : List Token} (hn : 5 * u.tokens.length ≤ n + 2)
    (hrest : EndsPrimary rest) (h : Met vars (u.requirements vars)) :
    unary vars n (u.tokens ++ rest) = .ok (u.denote vars, rest) := by
  have hpos := u.starts.length_pos
  obtain ⟨n, rfl⟩ := Nat.exists_eq_succ_of_ne_zero (n := n) (by omega)
  match u with
  | .plus operand =>
    simp only [Unary.tokens, Unary.requirements, List.length_cons, List.cons_append] at hn h ⊢
    rw [unary]
    exact operand.complete (by omega) hrest h
  | .minus operand =>
    simp only [Unary.tokens, Unary.requirements, met_append, met_cons, List.length_cons,
      List.cons_append] at hn h ⊢
    rw [unary, operand.complete (by omega) hrest h.1]
    exact bind_eq_ok.mpr ⟨_, rfl, bind_eq_ok.mpr ⟨_, checked_eq_ok.mpr ⟨rfl, h.2.1⟩, rfl⟩⟩
  | .primary operand =>
    simp only [Unary.tokens, Unary.requirements] at hn h ⊢
    rw [unary_primary]
    exact operand.complete (by omega) hrest h

theorem Primary.complete (p : Primary) {n : ℕ} {rest : List Token} (hn : 5 * p.tokens.length ≤ n + 3)
    (hrest : EndsPrimary rest) (h : Met vars (p.requirements vars)) :
    primary vars n (p.tokens ++ rest) = .ok (p.denote vars, rest) := by
  have hpos := p.starts.length_pos
  obtain ⟨n, rfl⟩ := Nat.exists_eq_succ_of_ne_zero (n := n) (by omega)
  match p with
  | .number value => rfl
  | .name name =>
    simp only [Primary.tokens, Primary.requirements, met_cons, List.cons_append, List.nil_append] at h ⊢
    rw [primary_name hrest]
    exact bind_eq_ok.mpr ⟨_, variableValue_eq_ok.mpr ⟨h.1, rfl, h.2.1⟩, rfl⟩
  | .call name =>
    simp only [Primary.tokens, Primary.requirements, met_cons, List.length_cons, List.cons_append,
      List.nil_append] at hn h ⊢
    obtain ⟨n, rfl⟩ := Nat.exists_eq_succ_of_ne_zero (n := n) (by omega)
    exact functionCall_of_args [] rfl h.1 h.2.1
  | .callWith name args =>
    simp only [Primary.tokens, Primary.requirements, met_append, met_cons, List.length_append,
      List.length_cons, List.length_nil, List.cons_append, List.nil_append, List.append_assoc] at hn h ⊢
    obtain ⟨n, rfl⟩ := Nat.exists_eq_succ_of_ne_zero (n := n) (by omega)
    refine functionCall_of_args _ ?_ h.2.1 h.2.2.1
    rw [if_neg (args.starts.head?_ne _)]
    exact args.complete (by omega) h.1
  | .parens inner =>
    simp only [Primary.tokens, Primary.requirements, List.length_append, List.length_cons,
      List.length_nil, List.cons_append, List.nil_append, List.append_assoc] at hn h ⊢
    rw [primary, inner.complete (by omega) (endsExpression_rparen rest) h]
    rfl

theorem Arguments.complete (args : Arguments) {n : ℕ} {rest : List Token}
    (hn : 5 * args.tokens.length + 1 ≤ n) (h : Met vars (args.requirements vars)) :
    arguments vars n (args.tokens ++ .rparen :: rest) = .ok (args.denote vars, .rparen :: rest) := by
  obtain ⟨n, rfl⟩ := Nat.exists_eq_succ_of_ne_zero (n := n) (by omega)
  match args with
  | .last value =>
    simp only [Arguments.tokens, Arguments.requirements] at hn h ⊢
    rw [arguments, value.complete (by omega) (endsExpression_rparen rest) h]
    rfl
  | .more value args =>
    simp only [Arguments.tokens, Arguments.requirements, met_append, List.length_append, List.length_cons,
      List.append_assoc, List.cons_append] at hn h ⊢
    rw [arguments, value.complete (by omega) (endsExpression_comma _) h.1]
    exact bind_eq_ok.mpr ⟨_, rfl, bind_eq_ok.mpr ⟨_, args.complete (by omega) h.2, rfl⟩⟩

end

/-! ### What the parser returns -/

mutual

theorem expression_sound {n : ℕ} {tokens rest : List Token} {value : ℚ}
    (h : expression vars n tokens = .ok (value, rest)) :
    ∃ e : Expression, tokens = e.tokens ++ rest ∧ Met vars (e.requirements vars) ∧ value = e.denote vars := by
  match n with
  | 0 => cases h
  | n + 1 =>
    rw [expression] at h
    obtain ⟨⟨left, tokens⟩, hfirst, h⟩ := bind_eq_ok.mp h
    obtain ⟨first, rfl, hmet, rfl⟩ := term_sound hfirst
    obtain ⟨sums, rfl, hsums, rfl⟩ := expressionLoop_sound h
    exact ⟨.mk first sums, by simp [Expression.tokens], by simp [Expression.requirements, hmet, hsums], rfl⟩

theorem expressionLoop_sound {n : ℕ} {left : ℚ} {tokens rest : List Token} {value : ℚ}
    (h : expressionLoop vars n left tokens = .ok (value, rest)) :
    ∃ s : Sums, tokens = s.tokens ++ rest ∧ Met vars (s.requirements vars left) ∧
      value = s.denote vars left := by
  match n with
  | 0 => cases h
  | n + 1 =>
    match tokens with
    | .operator op :: tokens =>
      rw [expressionLoop] at h
      by_cases hop : op.isSum = true
      · rw [if_pos hop] at h
        obtain ⟨⟨right, tokens⟩, hnext, h⟩ := bind_eq_ok.mp h
        obtain ⟨result, hresult, h⟩ := bind_eq_ok.mp h
        obtain ⟨next, rfl, hmet, rfl⟩ := term_sound hnext
        obtain ⟨rfl, hrange⟩ := checked_eq_ok.mp hresult
        obtain ⟨s, rfl, hs, rfl⟩ := expressionLoop_sound h
        have hdivide : ¬ (op = .divide ∧ next.denote vars = 0) := by
          rintro ⟨rfl, -⟩
          cases hop
        exact ⟨.cons op hop next s, by simp [Sums.tokens],
          by simp [Sums.requirements, met_operator, hmet, hs, hrange, hdivide], rfl⟩
      · rw [if_neg hop] at h
        cases h
        exact ⟨.nil, rfl, by simp [Sums.requirements], rfl⟩
    | [] | .number _ :: _ | .identifier _ :: _ | .lparen :: _ | .rparen :: _ | .comma :: _ =>
      cases h
      exact ⟨.nil, rfl, by simp [Sums.requirements], rfl⟩

theorem term_sound {n : ℕ} {tokens rest : List Token} {value : ℚ} (h : term vars n tokens = .ok (value, rest)) :
    ∃ t : Term, tokens = t.tokens ++ rest ∧ Met vars (t.requirements vars) ∧ value = t.denote vars := by
  match n with
  | 0 => cases h
  | n + 1 =>
    rw [term] at h
    obtain ⟨⟨left, tokens⟩, hfirst, h⟩ := bind_eq_ok.mp h
    obtain ⟨first, rfl, hmet, rfl⟩ := unary_sound hfirst
    obtain ⟨products, rfl, hproducts, rfl⟩ := termLoop_sound h
    exact ⟨.mk first products, by simp [Term.tokens], by simp [Term.requirements, hmet, hproducts], rfl⟩

theorem termLoop_sound {n : ℕ} {left : ℚ} {tokens rest : List Token} {value : ℚ}
    (h : termLoop vars n left tokens = .ok (value, rest)) :
    ∃ s : Products, tokens = s.tokens ++ rest ∧ Met vars (s.requirements vars left) ∧
      value = s.denote vars left := by
  match n with
  | 0 => cases h
  | n + 1 =>
    match tokens with
    | .operator op :: tokens =>
      rw [termLoop] at h
      by_cases hop : op.isSum = true
      · rw [if_pos hop] at h
        cases h
        exact ⟨.nil, rfl, by simp [Products.requirements], rfl⟩
      · rw [if_neg hop] at h
        obtain ⟨⟨right, tokens⟩, hnext, h⟩ := bind_eq_ok.mp h
        obtain ⟨next, rfl, hmet, rfl⟩ := unary_sound hnext
        obtain ⟨hdivide, h⟩ | ⟨hdivide, h⟩ := ite_eq_ok.mp h
        · cases h
        obtain ⟨result, hresult, h⟩ := bind_eq_ok.mp h
        obtain ⟨rfl, hrange⟩ := checked_eq_ok.mp hresult
        obtain ⟨s, rfl, hs, rfl⟩ := termLoop_sound h
        exact ⟨.cons op (by simpa using hop) next s, by simp [Products.tokens],
          by simp [Products.requirements, met_operator, hmet, hs, hrange, hdivide], rfl⟩
    | [] | .number _ :: _ | .identifier _ :: _ | .lparen :: _ | .rparen :: _ | .comma :: _ =>
      cases h
      exact ⟨.nil, rfl, by simp [Products.requirements], rfl⟩

theorem unary_sound {n : ℕ} {tokens rest : List Token} {value : ℚ}
    (h : unary vars n tokens = .ok (value, rest)) :
    ∃ u : Unary, tokens = u.tokens ++ rest ∧ Met vars (u.requirements vars) ∧ value = u.denote vars := by
  match n with
  | 0 => cases h
  | n + 1 =>
    match tokens with
    | .operator .plus :: tokens =>
      rw [unary] at h
      obtain ⟨operand, rfl, hmet, rfl⟩ := unary_sound h
      exact ⟨.plus operand, rfl, hmet, rfl⟩
    | .operator .minus :: tokens =>
      rw [unary] at h
      obtain ⟨⟨right, tokens⟩, hoperand, h⟩ := bind_eq_ok.mp h
      obtain ⟨result, hresult, h⟩ := bind_eq_ok.mp h
      obtain ⟨operand, rfl, hmet, rfl⟩ := unary_sound hoperand
      obtain ⟨rfl, hrange⟩ := checked_eq_ok.mp hresult
      cases h
      exact ⟨.minus operand, rfl, by simpa [Unary.requirements, Requirement.Holds, hmet] using hrange, rfl⟩
    | [] | .number _ :: _ | .identifier _ :: _ | .lparen :: _ | .rparen :: _ | .comma :: _
    | .operator .times :: _ | .operator .divide :: _ =>
      obtain ⟨operand, htokens, hmet, rfl⟩ := primary_sound h
      exact ⟨.primary operand, htokens, hmet, rfl⟩

theorem primary_sound {n : ℕ} {tokens rest : List Token} {value : ℚ}
    (h : primary vars n tokens = .ok (value, rest)) :
    ∃ p : Primary, tokens = p.tokens ++ rest ∧ Met vars (p.requirements vars) ∧ value = p.denote vars := by
  match n with
  | 0 => cases h
  | n + 1 =>
    match tokens with
    | .number _ :: tokens =>
      cases h
      exact ⟨.number value, rfl, by simp [Primary.requirements], rfl⟩
    | .lparen :: tokens =>
      rw [primary] at h
      obtain ⟨⟨result, tokens⟩, hinner, h⟩ := bind_eq_ok.mp h
      obtain ⟨after, hparen, h⟩ := bind_eq_ok.mp h
      obtain ⟨inner, rfl, hmet, rfl⟩ := expression_sound hinner
      obtain rfl := rparen_eq_ok.mp hparen
      cases h
      exact ⟨.parens inner, by simp [Primary.tokens], hmet, rfl⟩
    | .identifier name :: .lparen :: tokens => exact functionCall_sound h
    | [.identifier name] | .identifier name :: .number _ :: _ | .identifier name :: .identifier _ :: _
    | .identifier name :: .operator _ :: _ | .identifier name :: .rparen :: _
    | .identifier name :: .comma :: _ =>
      obtain ⟨result, hresult, h⟩ := bind_eq_ok.mp h
      obtain ⟨hbound, rfl, hrange⟩ := variableValue_eq_ok.mp hresult
      cases h
      exact ⟨.name name, rfl, by simp [Primary.requirements, Requirement.Holds, hbound, hrange], rfl⟩
    | [] | .operator _ :: _ | .rparen :: _ | .comma :: _ => cases h

theorem functionCall_sound {n : ℕ} {name : String} {tokens rest : List Token} {value : ℚ}
    (h : functionCall vars n name tokens = .ok (value, rest)) :
    ∃ p : Primary, .identifier name :: .lparen :: tokens = p.tokens ++ rest ∧
      Met vars (p.requirements vars) ∧ value = p.denote vars := by
  match n with
  | 0 => cases h
  | n + 1 =>
    rw [functionCall] at h
    obtain ⟨fn, hfn, h⟩ := bind_eq_ok.mp h
    obtain ⟨⟨args, tokens⟩, hread, h⟩ := bind_eq_ok.mp h
    obtain ⟨after, hparen, h⟩ := bind_eq_ok.mp h
    obtain ⟨result, hresult, h⟩ := bind_eq_ok.mp h
    obtain rfl := rparen_eq_ok.mp hparen
    obtain ⟨htakes, rfl, hrange⟩ := (callResult_eq_ok (elim_throw_eq_ok.mp hfn)).mp hresult
    have hcall : Met vars [.callable name args.length, .inRange (callValue name args)] :=
      met_cons.mpr ⟨⟨fn, elim_throw_eq_ok.mp hfn, htakes⟩, met_cons.mpr ⟨hrange, met_nil⟩⟩
    cases h
    obtain ⟨hempty, hread⟩ | ⟨-, hread⟩ := ite_eq_ok.mp hread
    · cases hread
      exact ⟨.call name, rfl, hcall, rfl⟩
    · obtain ⟨args, rfl, hmet, rfl⟩ := arguments_sound hread
      exact ⟨.callWith name args, by simp [Primary.tokens], met_append.mpr ⟨hmet, hcall⟩, rfl⟩

theorem arguments_sound {n : ℕ} {tokens rest : List Token} {values : List ℚ}
    (h : arguments vars n tokens = .ok (values, rest)) :
    ∃ args : Arguments, tokens = args.tokens ++ rest ∧ Met vars (args.requirements vars) ∧
      values = args.denote vars := by
  match n with
  | 0 => cases h
  | n + 1 =>
    rw [arguments] at h
    obtain ⟨⟨value, tokens⟩, hvalue, h⟩ := bind_eq_ok.mp h
    obtain ⟨e, rfl, hmet, rfl⟩ := expression_sound hvalue
    match tokens with
    | .comma :: tokens =>
      obtain ⟨⟨values, tokens⟩, hvalues, h⟩ := bind_eq_ok.mp h
      obtain ⟨args, rfl, hargs, rfl⟩ := arguments_sound hvalues
      cases h
      exact ⟨.more e args, by simp [Arguments.tokens], by simp [Arguments.requirements, hmet, hargs], rfl⟩
    | [] | .number _ :: _ | .identifier _ :: _ | .lparen :: _ | .rparen :: _ | .operator _ :: _ =>
      cases h
      exact ⟨.last e, rfl, hmet, rfl⟩

end

end Accepted

lemma parse_eq_ok {tokens : List Token} {vars : String → Option ℚ} {value : ℚ} :
    parse tokens vars = .ok value ↔ ∃ e : Expression, e.tokens = tokens ∧ Met vars (e.requirements vars) ∧
      |e.denote vars| ≤ maxValue ∧ value = e.denote vars := by
  constructor
  · intro h
    obtain ⟨⟨result, rest⟩, hparse, h⟩ := bind_eq_ok.mp h
    obtain ⟨-, h⟩ | ⟨hrest, h⟩ := ite_eq_ok.mp h
    · cases h
    obtain ⟨e, htokens, hmet, rfl⟩ := expression_sound hparse
    obtain ⟨rfl, hrange⟩ := checked_eq_ok.mp h
    rw [not_ne_iff.mp hrest, List.append_nil] at htokens
    exact ⟨e, htokens.symm, hmet, hrange, rfl⟩
  · rintro ⟨e, rfl, hmet, hrange, rfl⟩
    have hparse : expression vars (callDepth e.tokens) (e.tokens ++ []) = .ok (e.denote vars, []) :=
      e.complete (Nat.le_add_right _ _) endsExpression_nil hmet
    rw [List.append_nil] at hparse
    exact bind_eq_ok.mpr ⟨_, hparse, (if_neg (by simp)).trans (checked_eq_ok.mpr ⟨rfl, hrange⟩)⟩

end Mayatoko.Payroll.Formula
