import Mayatoko.Common.Failure
import Mayatoko.Core.JsValue

/-!
# The conditions of business rules

`createRule` stores the conditions of a rule, `ruleMatches` of the worker asks whether the payload of an event
meets them. An operator is told by its name in a row of tests; one that none of them knows is met by everything,
as nothing looks at the names when a rule is made.
-/

namespace Mayatoko.Worker

open Core

/-! ### Making a rule -/

def supportedActions : List String :=
  ["notification.enqueue", "approval.create", "reorder_suggestion.create", "outbox.emit", "report.enqueue",
    "automation.enqueue"]

def badRequest {α : Type} (message : String) : Except Failure α := .error (.badRequest message)

def shown (v : Option Json) : Except Failure String :=
  match (v.getD .null).toText with
  | .ok text => .ok (String.ofList text)
  | .error e => .error (.unexpected e)

def validateAction (action : Json) (index : ℕ) : Except Failure Unit :=
  match action with
  | .obj fields =>
    match (fields.lookup "type").bind Json.string? with
    | none => do
      let text ← shown (fields.lookup "type")
      badRequest s!"Action business rule {index + 1} belum didukung: {text}"
    | some type =>
      if type ∉ supportedActions then badRequest s!"Action business rule {index + 1} belum didukung: {type}"
      else if type = "automation.enqueue" then
        if (fields.lookup "actionType").bind Json.string? = some "CREATE_MAINTENANCE_WORK_ORDER" then .ok ()
        else badRequest "automation.enqueue hanya menerima actionType yang didukung worker."
      else if type = "report.enqueue" then
        if ((fields.lookup "reportType").bind Json.string?).all fun t => trim t = "" then
          badRequest "report.enqueue wajib memiliki reportType."
        else match fields.lookup "format" with
          | none => .ok ()
          | some format => do
            -- `String(null)` is no format, nor is the empty text
            if (← shown (some format)) ∈ ["CSV", "XLSX", "PDF"] then .ok ()
            else badRequest "Format report.enqueue tidak didukung."
      else .ok ()
  | _ => badRequest s!"Action business rule {index + 1} tidak valid."

def validateBusinessRuleDefinition (conditions : Option Json) (actions : Json) : Except Failure Unit :=
  match conditions with
  | none | some .null | some (.obj _) =>
    match actions with
    | .arr (first :: rest) => (first :: rest).zipIdx.forM fun (action, index) => validateAction action index
    | _ => badRequest "Business rule wajib memiliki minimal satu action."
  | _ => badRequest "conditions business rule harus berupa object JSON."

/-! ### Asking whether a rule matches -/

def pathValue (root : JsValue) (path : String) : JsValue := (path.splitOn ".").foldl JsValue.member root

def scalarEqual (left right : JsValue) : Except String Bool :=
  if left.isNumber || right.isNumber then do
    let a ← left.number
    let b ← right.number
    pure (match a.finite?, b.finite? with
      | some a, some b => a = b
      | _, _ => false)
  else pure (left.identical right)

def numbersCompare (compare : ℚ → ℚ → Bool) (left right : JsValue) : Except String Bool := do
  let a ← left.number
  let b ← right.number
  pure (match a.finite?, b.finite? with
    | some a, some b => compare a b
    | _, _ => false)

def operandValue (payload : List (String × Json)) (operator : String) (operand : Json) : JsValue :=
  match operand with
  | .str path => if operator.endsWith "Field" then pathValue (.json (.obj payload)) path else .json operand
  | _ => .json operand

def comparison (operator : String) : Option (ℚ → ℚ → Bool) :=
  if operator = "gt" ∨ operator = "gtField" then some fun a b => a > b
  else if operator = "gte" ∨ operator = "gteField" then some fun a b => a ≥ b
  else if operator = "lt" ∨ operator = "ltField" then some fun a b => a < b
  else if operator = "lte" ∨ operator = "lteField" then some fun a b => a ≤ b
  else none

/-- One operator of a condition. An operator that is not known is met. -/
def operatorMatches (actual right : JsValue) (operator : String) : Except String Bool :=
  if operator = "eq" then scalarEqual actual right
  else if operator = "ne" then do
    let equal ← scalarEqual actual right
    pure !equal
  else if operator = "in" then
    match right with
    | .json (.arr items) => items.anyM fun item => scalarEqual actual (.json item)
    | _ => pure false
  else match comparison operator with
    | none => pure true
    | some compare => numbersCompare compare actual right

def conditionValueMatches (actual : JsValue) (expected : Json) (payload : List (String × Json)) :
    Except String Bool :=
  match expected with
  | .obj operators => operators.allM fun (operator, operand) =>
      operatorMatches actual (operandValue payload operator operand) operator
  | _ => scalarEqual actual (.json expected)

def ruleMatches (payload : List (String × Json)) (conditions : Option Json) : Except String Bool :=
  match conditions with
  | some (.obj fields) => fields.allM fun (path, expected) =>
      conditionValueMatches (pathValue (.json (.obj payload)) path) expected payload
  | _ => pure true

/-! ### What the conditions say -/

def relationOf (operator : String) : Option (JsValue → JsValue → Prop) :=
  if operator = "eq" then some fun actual right => scalarEqual actual right = .ok true
  else if operator = "ne" then some fun actual right => scalarEqual actual right = .ok false
  else if operator = "in" then some fun actual right =>
    ∃ items, right = .json (.arr items) ∧ items.anyM (fun item => scalarEqual actual (.json item)) = .ok true
  else (comparison operator).map fun compare actual right =>
    ∃ a b, actual.number = .ok (.finite a) ∧ right.number = .ok (.finite b) ∧ compare a b = true

/-- The operators of a condition with their operands; a value without operators is compared by `eq`. -/
def operatorsOf : Json → List (String × Json)
  | .obj operators => operators
  | expected => [("eq", expected)]

structure ConditionEntry where
  (path operator : String)
  operand : Json

def conditionEntries (fields : List (String × Json)) : List ConditionEntry :=
  fields.flatMap fun (path, expected) =>
    (operatorsOf expected).map fun (operator, operand) => ⟨path, operator, operand⟩

namespace ConditionEntry

variable (payload : List (String × Json)) (e : ConditionEntry)

def Known : Prop := (relationOf e.operator).isSome = true

def Holds : Prop :=
  ∃ relation, relationOf e.operator = some relation ∧
    relation (pathValue (.json (.obj payload)) e.path) (operandValue payload e.operator e.operand)

end ConditionEntry

variable {payload : List (String × Json)} {actual right : JsValue} {operator : String}

lemma allM_eq_ok_true {α : Type} {p : α → Except String Bool} {l : List α} :
    l.allM p = .ok true ↔ ∀ x ∈ l, p x = .ok true := by
  induction l with
  | nil => simp [List.allM, pure, Except.pure]
  | cons a l ih =>
    rw [List.allM, bind_eq_ok, List.forall_mem_cons]
    constructor
    · rintro ⟨b, hb, hrest⟩
      cases b with
      | true => exact ⟨hb, ih.mp hrest⟩
      | false => cases hrest
    · rintro ⟨ha, hrest⟩
      exact ⟨true, ha, ih.mpr hrest⟩

lemma numbersCompare_eq_true {compare : ℚ → ℚ → Bool} : numbersCompare compare actual right = .ok true ↔
    ∃ a b, actual.number = .ok (.finite a) ∧ right.number = .ok (.finite b) ∧ compare a b = true := by
  simp only [numbersCompare, bind_eq_ok, pure_eq_ok]
  constructor
  · rintro ⟨x, hx, y, hy, h⟩
    cases x with
    | finite a =>
      cases y with
      | finite b => exact ⟨a, b, hx, hy, h⟩
      | nan => cases h
      | infinity => cases h
    | nan => cases h
    | infinity => cases h
  · rintro ⟨a, b, ha, hb, h⟩
    exact ⟨_, ha, _, hb, h⟩

lemma operatorMatches_eq_true : operatorMatches actual right operator = .ok true ↔
    ∀ relation, relationOf operator = some relation → relation actual right := by
  unfold operatorMatches relationOf
  split_ifs with heq hne hin
  · simp
  · simp only [bind_eq_ok, pure_eq_ok, Option.some.injEq, forall_eq', Bool.not_eq_true', exists_eq_right]
  · simp only [Option.some.injEq, forall_eq']
    split
    next items =>
      constructor
      · exact fun h => ⟨items, rfl, h⟩
      · rintro ⟨_, hitems, h⟩
        cases hitems
        exact h
    next hno =>
      refine iff_of_false (fun h => by cases h) ?_
      rintro ⟨items, hitems, _⟩
      exact hno items hitems
  · cases comparison operator with
    | none => simp [pure, Except.pure]
    | some compare =>
      simp only [Option.map_some, Option.some.injEq, forall_eq']
      exact numbersCompare_eq_true

lemma operandValue_eq (payload : List (String × Json)) (operand : Json) :
    operandValue payload "eq" operand = .json operand := by
  have hfield : "eq".endsWith "Field" = false := by decide +kernel
  cases operand with
  | str path => rw [operandValue, hfield]; rfl
  | _ => rfl

lemma conditionValueMatches_eq_true {expected : Json} :
    conditionValueMatches actual expected payload = .ok true ↔
    ∀ entry ∈ operatorsOf expected,
      operatorMatches actual (operandValue payload entry.1 entry.2) entry.1 = .ok true := by
  cases expected with
  | obj operators => exact allM_eq_ok_true
  | _ =>
    rw [operatorsOf, List.forall_mem_singleton, operandValue_eq]
    · rfl
    all_goals
      rintro _ h
      cases h

lemma ruleMatches_eq_true {fields : List (String × Json)} :
    ruleMatches payload (some (.obj fields)) = .ok true ↔
    ∀ e ∈ conditionEntries fields, e.Known → e.Holds payload := by
  have hentry (e : ConditionEntry) : (e.Known → e.Holds payload) ↔
      ∀ relation, relationOf e.operator = some relation →
        relation (pathValue (.json (.obj payload)) e.path) (operandValue payload e.operator e.operand) := by
    unfold ConditionEntry.Known ConditionEntry.Holds
    cases relationOf e.operator with
    | none => simp
    | some relation => simp
  simp only [hentry, conditionEntries, List.mem_flatMap, List.mem_map, ← operatorMatches_eq_true]
  rw [ruleMatches, allM_eq_ok_true]
  constructor
  · rintro h _ ⟨⟨path, expected⟩, hfield, ⟨operator, operand⟩, hoperator, rfl⟩
    exact conditionValueMatches_eq_true.mp (h _ hfield) _ hoperator
  · rintro h ⟨path, expected⟩ hfield
    refine conditionValueMatches_eq_true.mpr fun entry hoperator => ?_
    exact h ⟨path, entry.1, entry.2⟩ ⟨_, hfield, entry, hoperator, rfl⟩

/-- The rule fires exactly if all its conditions hold. -/
def FiresRightly (payload fields : List (String × Json)) : Prop :=
  ruleMatches payload (some (.obj fields)) = .ok true ↔ ∀ e ∈ conditionEntries fields, e.Holds payload

lemma ConditionEntry.Holds.known {e : ConditionEntry} (h : e.Holds payload) : e.Known := by
  obtain ⟨relation, hrelation, _⟩ := h
  rw [ConditionEntry.Known, hrelation]
  rfl

theorem firesRightly_iff (payload fields : List (String × Json)) : FiresRightly payload fields ↔
    (∀ e ∈ conditionEntries fields, e.Known) ∨ ∃ e ∈ conditionEntries fields, e.Known ∧ ¬ e.Holds payload := by
  rw [FiresRightly, ruleMatches_eq_true]
  constructor
  · intro h
    by_cases hall : ∀ e ∈ conditionEntries fields, e.Known → e.Holds payload
    · exact .inl fun e he => (h.mp hall e he).known
    · simp only [not_forall] at hall
      obtain ⟨e, he, hknown, hnot⟩ := hall
      exact .inr ⟨e, he, hknown, hnot⟩
  · rintro (hknown | ⟨e, he, hknown, hnot⟩)
    · exact forall₂_congr fun e he => ⟨fun h => h (hknown e he), fun h _ => h⟩
    · exact iff_of_false (fun h => hnot (h e he hknown)) fun h => hnot (h e he)

def betweenRule : List (String × Json) := [("total", .obj [("between", .arr [.num 1, .num 2])])]

/-- It is accepted, and fires on every payload. -/
theorem not_firesRightly_between :
    validateBusinessRuleDefinition (some (.obj betweenRule)) (.arr [.obj [("type", .str "outbox.emit")]]) =
      .ok () ∧
      ruleMatches [("total", .num 5)] (some (.obj betweenRule)) = .ok true ∧
      ¬ FiresRightly [("total", .num 5)] betweenRule := by
  have hunknown : ∀ e ∈ conditionEntries betweenRule, ¬ e.Known := by
    intro e he
    rw [List.mem_singleton.mp he]
    exact (by decide : ¬ (relationOf "between").isSome = true)
  have hfires : ruleMatches [("total", .num 5)] (some (.obj betweenRule)) = .ok true :=
    ruleMatches_eq_true.mpr fun e he hknown => absurd hknown (hunknown e he)
  refine ⟨rfl, hfires, fun h => ?_⟩
  exact hunknown _ List.mem_cons_self (h.mp hfires _ List.mem_cons_self).known

end Mayatoko.Worker
