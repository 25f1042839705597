import Mayatoko.Core.Checked
import Mayatoko.Core.JsNumber

/-!
# What JavaScript makes of JSON values

Reading fields of a JSON value gives a JSON value, `undefined`, or what every object inherits: the prototype and
its methods. `Number` takes any of these. An object becomes a text first, which fails if it has a field
`toString` of its own, as no field of a JSON value can be called.
-/

namespace Mayatoko.Core

inductive JsValue
  | undefined
  | json (v : Json)
  | prototype
  | method

def typeError : String := "Cannot convert object to primitive value"

namespace Json

mutual

/-- `String(v)`, where `null` is the empty text, as it is for an item of an array. -/
def toText : Json → Except String (List Char)
  | null => .ok []
  | bool b => .ok (toString b).toList
  | num q => .ok (JsNumber.text q)
  | str s => .ok s.toList
  | arr items => joinItems items
  | obj fields => if (fields.lookup "toString").isSome then .error typeError else .ok "[object Object]".toList

/-- The texts of the items with commas between them. -/
def joinItems : List Json → Except String (List Char)
  | [] => .ok []
  | v :: vs => do
    let first ← toText v
    let rest ← joinItems vs
    pure (if vs.isEmpty then first else first ++ ',' :: rest)

end

/-- `Number(v)` -/
def number : Json → Except String JsNumber
  | null => .ok (.finite 0)
  | bool b => .ok (.finite (if b then 1 else 0))
  | num q => .ok (.finite q)
  | str s => .ok (.ofText s.toList)
  | arr items => do
    let text ← joinItems items
    pure (.ofText text)
  | obj fields => if (fields.lookup "toString").isSome then .error typeError else .ok .nan

def isNumber : Json → Bool
  | num _ => true
  | _ => false

end Json

namespace JsValue

/-- The methods of every object. -/
def methods : List String :=
  ["constructor", "__defineGetter__", "__defineSetter__", "hasOwnProperty", "__lookupGetter__",
    "__lookupSetter__", "isPrototypeOf", "propertyIsEnumerable", "toString", "valueOf", "toLocaleString"]

/-- A field of an object that is no array, with what it inherits; of anything else, `undefined`. -/
def member : JsValue → String → JsValue
  | json (.obj fields), name =>
    match fields.lookup name with
    | some v => json v
    | none => if name = "__proto__" then prototype else if name ∈ methods then method else undefined
  | prototype, name => if name = "__proto__" then json .null else if name ∈ methods then method else undefined
  | _, _ => undefined

def number : JsValue → Except String JsNumber
  | json v => v.number
  | _ => .ok .nan

def isNumber : JsValue → Bool
  | json v => v.isNumber
  | _ => false

/-- `===`, where one of the two is not a number, and no object is compared with itself. -/
def identical : JsValue → JsValue → Bool
  | undefined, undefined => true
  | json .null, json .null => true
  | json (.bool a), json (.bool b) => a = b
  | json (.str a), json (.str b) => a = b
  | _, _ => false

end JsValue

end Mayatoko.Core
