import Mayatoko.Core.Numeral

/-!
# Reading XML

The part of XML that consists of a declaration, elements with their attributes, and texts with references to the
characters that mark them up. A reader goes over the characters once and keeps the elements that are open. The
texts of a document have the ends of their lines normalized, as a reader has to do it: a carriage return, with
the line feed after it if there is one, is a line feed.
-/

namespace Mayatoko.Core

inductive XmlNode
  | element (name : List Char) (attributes : List (List Char × List Char)) (children : List XmlNode)
  | character (c : Char)

namespace XmlNode

def children : XmlNode → List XmlNode
  | element _ _ children => children
  | character _ => []

def attribute? (name : List Char) : XmlNode → Option (List Char)
  | element _ attributes _ => attributes.lookup name
  | character _ => none

def isElement (name : List Char) : XmlNode → Bool
  | element name' _ _ => name' = name
  | character _ => false

/-- The elements of a name in a node. -/
def all (name : List Char) (node : XmlNode) : List XmlNode := node.children.filter (isElement name)

def character? : XmlNode → Option Char
  | character c => some c
  | element _ _ _ => none

def text (node : XmlNode) : List Char := node.children.filterMap character?

lemma text_element_map (name : List Char) (attributes : List (List Char × List Char)) (text : List Char) :
    (element name attributes (text.map character)).text = text := by
  rw [XmlNode.text, children, List.filterMap_map]
  exact List.filterMap_some

end XmlNode

/-- The characters of documents. -/
def isXmlChar (c : Char) : Bool :=
  c = '\t' || c = '\n' || c = '\r' || (32 ≤ c.toNat && c.toNat ≠ 65534 && c.toNat ≠ 65535)

namespace XmlReader

def isNameStart (c : Char) : Bool := c.isAlpha || c = '_' || c = ':'

def isNameChar (c : Char) : Bool := isNameStart c || c.isDigit || c = '-' || c = '.'

/-- The character that a reference stands for. -/
def entity? (name : List Char) : Option Char :=
  [("amp".toList, '&'), ("lt".toList, '<'), ("gt".toList, '>'), ("quot".toList, '"'),
    ("apos".toList, '\'')].lookup name

/-- The part of a document that a character is read in. -/
inductive Mode
  | content (afterReturn : Bool)
  | reference (name : List Char)
  | markup
  | closing (name : List Char)
  | opening (name : List Char)
  | blanks (name : List Char) (attributes : List (List Char × List Char))
  | key (name : List Char) (attributes : List (List Char × List Char)) (key : List Char)
  | equals (name : List Char) (attributes : List (List Char × List Char)) (key : List Char)
  | value (name : List Char) (attributes : List (List Char × List Char)) (key : List Char) (quote : Char)
      (value : List Char)
  | valued (name : List Char) (attributes : List (List Char × List Char))
  | empty (name : List Char) (attributes : List (List Char × List Char))

/-- An element that is open, or the document. -/
structure Open where
  name : List Char
  attributes : List (List Char × List Char)
  children : List XmlNode

def Open.node (element : Open) : XmlNode := .element element.name element.attributes element.children

def Open.append (element : Open) (nodes : List XmlNode) : Open :=
  { element with children := element.children ++ nodes }

end XmlReader

structure XmlReader where
  mode : XmlReader.Mode
  element : XmlReader.Open
  around : List XmlReader.Open

namespace XmlReader

def start : XmlReader := ⟨.content false, ⟨[], [], []⟩, []⟩

/-- The start of a tag goes on after its name or a value. -/
def tag (r : XmlReader) (name : List Char) (attributes : List (List Char × List Char)) (c : Char) :
    Option XmlReader :=
  if c = ' ' ∨ c = '\t' ∨ c = '\n' ∨ c = '\r' then some { r with mode := .blanks name attributes }
  else if c = '>' then some ⟨.content false, ⟨name, attributes, []⟩, r.element :: r.around⟩
  else if c = '/' then some { r with mode := .empty name attributes }
  else none

/-- The end of the innermost open element. -/
def close (r : XmlReader) (name : List Char) : Option XmlReader :=
  match r.around with
  | parent :: around =>
    if name = r.element.name then some ⟨.content false, parent.append [r.element.node], around⟩ else none
  | [] => none

def step (r : XmlReader) (c : Char) : Option XmlReader :=
  match r.mode with
  | .content afterReturn =>
    if c = '<' then some { r with mode := .markup }
    else if c = '&' then some { r with mode := .reference [] }
    else if c = '\r' then some { r with mode := .content true, element := r.element.append [.character '\n'] }
    else if c = '\n' ∧ afterReturn then some { r with mode := .content false }
    -- a text has a reference for this one here
    else if c = '>' then none
    else if isXmlChar c then some { r with mode := .content false, element := r.element.append [.character c] }
    else none
  | .reference name =>
    if c = ';' then
      (entity? name).map fun c => { r with mode := .content false, element := r.element.append [.character c] }
    else some { r with mode := .reference (name ++ [c]) }
  | .markup =>
    if c = '/' then some { r with mode := .closing [] }
    else if isNameStart c then some { r with mode := .opening [c] }
    else none
  | .closing name =>
    if c = '>' then r.close name
    else if isNameChar c then some { r with mode := .closing (name ++ [c]) }
    else none
  | .opening name =>
    if isNameChar c then some { r with mode := .opening (name ++ [c]) } else r.tag name [] c
  | .blanks name attributes =>
    if isNameStart c then some { r with mode := .key name attributes [c] } else r.tag name attributes c
  | .key name attributes key =>
    if isNameChar c then some { r with mode := .key name attributes (key ++ [c]) }
    else if c = '=' ∧ key ∉ attributes.map Prod.fst then
      some { r with mode := .equals name attributes key }
    else none
  | .equals name attributes key =>
    if c = '"' ∨ c = '\'' then some { r with mode := .value name attributes key c [] } else none
  | .value name attributes key quote value =>
    if c = quote then some { r with mode := .valued name (attributes ++ [(key, value)]) }
    else if isXmlChar c ∧ 32 ≤ c.toNat ∧ c ≠ '<' ∧ c ≠ '&' then
      some { r with mode := .value name attributes key quote (value ++ [c]) }
    else none
  | .valued name attributes => r.tag name attributes c
  | .empty name attributes =>
    if c = '>' then
      some { r with mode := .content false, element := r.element.append [.element name attributes []] }
    else none

/-- What comes after the declaration of a document. -/
def afterDeclaration : List Char → List Char
  | '?' :: '>' :: text => text
  | _ :: text => afterDeclaration text
  | [] => []

/-- The root of a document that has been read to its end. -/
def root? : XmlReader → Option XmlNode
  | ⟨.content _, ⟨_, _, [.element name attributes children]⟩, []⟩ => some (.element name attributes children)
  | _ => none

/-- The root of a document, if it is well-formed. -/
def read (text : List Char) : Option XmlNode :=
  ((if "<?xml".toList <+: text then afterDeclaration (text.drop 5) else text).foldlM step start).bind root?

/-- A text with the ends of its lines normalized. -/
def lineEnds : Bool → List Char → List Char
  | _, [] => []
  | afterReturn, c :: text =>
    if c = '\r' then '\n' :: lineEnds true text
    else if c = '\n' ∧ afterReturn then lineEnds false text
    else c :: lineEnds false text

lemma return_not_mem_lineEnds (afterReturn : Bool) (text : List Char) : '\r' ∉ lineEnds afterReturn text := by
  induction text generalizing afterReturn with
  | nil => exact List.not_mem_nil
  | cons c text ih =>
    rw [lineEnds]
    split_ifs with hreturn hfeed
    · exact List.not_mem_cons_of_ne_of_not_mem (by decide) (ih true)
    · exact ih false
    · exact List.not_mem_cons_of_ne_of_not_mem (Ne.symm hreturn) (ih false)

lemma lineEnds_eq_self {text : List Char} : lineEnds false text = text ↔ '\r' ∉ text := by
  refine ⟨fun h => h ▸ return_not_mem_lineEnds false text, fun h => ?_⟩
  induction text with
  | nil => rfl
  | cons c text ih =>
    obtain ⟨hc, htext⟩ := List.ne_and_not_mem_of_not_mem_cons h
    rw [lineEnds, if_neg (Ne.symm hc), if_neg (by simp), ih htext]

/-! ### What parts of a document are read as -/

/-- A part of a document is read as nodes, wherever it stands. -/
def Reads (text : List Char) (nodes : List XmlNode) : Prop :=
  ∀ element around, text.foldlM step ⟨.content false, element, around⟩ =
    some ⟨.content false, element.append nodes, around⟩

/-- A part of a document that makes it one that is not well-formed, wherever it stands. -/
def Fails (text : List Char) : Prop :=
  ∀ element around, text.foldlM step ⟨.content false, element, around⟩ = none

/-- The start of an element. -/
def Opens (text name : List Char) (attributes : List (List Char × List Char)) : Prop :=
  ∀ element around, text.foldlM step ⟨.content false, element, around⟩ =
    some ⟨.content false, ⟨name, attributes, []⟩, element :: around⟩

/-- The end of an element. -/
def Closes (text name : List Char) : Prop :=
  ∀ afterReturn element parent around, element.name = name →
    text.foldlM step ⟨.content afterReturn, element, parent :: around⟩ =
      some ⟨.content false, parent.append [element.node], around⟩

section

variable {text text' name : List Char} {nodes nodes' : List XmlNode}
variable {attributes : List (List Char × List Char)}

lemma Open.append_nil (element : Open) : element.append [] = element := by
  rw [append, List.append_nil]

lemma Open.append_append (element : Open) (nodes nodes' : List XmlNode) :
    (element.append nodes).append nodes' = element.append (nodes ++ nodes') := by
  simp only [append, List.append_assoc]

lemma reads_nil : Reads [] [] := by
  intro element around
  rw [List.foldlM_nil, Open.append_nil]
  rfl

lemma Reads.append (h : Reads text nodes) (h' : Reads text' nodes') :
    Reads (text ++ text') (nodes ++ nodes') := by
  intro element around
  rw [List.foldlM_append, h, Option.bind_eq_bind, Option.bind_some, h', Open.append_append]

lemma Fails.append_right (h : Fails text) (text' : List Char) : Fails (text ++ text') := by
  intro element around
  rw [List.foldlM_append, h]
  rfl

lemma Reads.append_fails (h : Reads text nodes) (h' : Fails text') : Fails (text ++ text') := by
  intro element around
  rw [List.foldlM_append, h, Option.bind_eq_bind, Option.bind_some, h']

/-- An element is read as one, if what it holds is read. -/
lemma Opens.element {body final : List Char} (hopen : Opens text name attributes) (hclose : Closes final name)
    (hbody : ∀ element around, ∃ afterReturn, body.foldlM step ⟨.content false, element, around⟩ =
      some ⟨.content afterReturn, element.append nodes, around⟩) :
    Reads (text ++ (body ++ final)) [.element name attributes nodes] := by
  intro element around
  obtain ⟨afterReturn, hbody⟩ := hbody ⟨name, attributes, []⟩ (element :: around)
  rw [List.foldlM_append, hopen, Option.bind_eq_bind, Option.bind_some, List.foldlM_append, hbody,
    Option.bind_eq_bind, Option.bind_some]
  exact hclose _ _ _ _ rfl

lemma Reads.holds (h : Reads text nodes) (element : Open) (around : List Open) :
    ∃ afterReturn, text.foldlM step ⟨.content false, element, around⟩ =
      some ⟨.content afterReturn, element.append nodes, around⟩ :=
  ⟨false, h element around⟩

lemma Opens.fails {body : List Char} (hopen : Opens text name attributes) (hbody : Fails body)
    (final : List Char) : Fails (text ++ (body ++ final)) := by
  intro element around
  rw [List.foldlM_append, hopen, Option.bind_eq_bind, Option.bind_some, List.foldlM_append, hbody]
  rfl

lemma foldlM_closing (hname : ∀ c ∈ name, isNameChar c = true) (read : List Char) (element : Open)
    (around : List Open) :
    name.foldlM step ⟨.closing read, element, around⟩ = some ⟨.closing (read ++ name), element, around⟩ := by
  induction name generalizing read with
  | nil =>
    rw [List.append_nil]
    rfl
  | cons c name ih =>
    obtain ⟨hc, hname⟩ := List.forall_mem_cons.mp hname
    have hne : c ≠ '>' := by
      rintro rfl
      revert hc
      decide
    have hstep : step ⟨.closing read, element, around⟩ c = some ⟨.closing (read ++ [c]), element, around⟩ := by
      simp only [step]
      rw [if_neg hne, if_pos hc]
    rw [List.foldlM_cons, hstep, Option.bind_eq_bind, Option.bind_some, ih hname, List.append_assoc]
    rfl

lemma closes_tag (name : List Char) (hname : ∀ c ∈ name, isNameChar c = true) :
    Closes ('<' :: '/' :: (name ++ ['>'])) name := by
  rintro afterReturn element parent around rfl
  change (element.name ++ ['>']).foldlM step ⟨.closing [], element, parent :: around⟩ = _
  rw [List.foldlM_append, foldlM_closing hname, Option.bind_eq_bind, Option.bind_some, List.nil_append]
  have hclose : close ⟨.closing element.name, element, parent :: around⟩ element.name =
      some ⟨.content false, parent.append [element.node], around⟩ := if_pos rfl
  change (close ⟨.closing element.name, element, parent :: around⟩ element.name).bind some = _
  rw [hclose, Option.bind_some]

lemma afterDeclaration_append {declaration : List Char} (h : '?' ∉ declaration) (text : List Char) :
    afterDeclaration (declaration ++ '?' :: '>' :: text) = text := by
  induction declaration with
  | nil => rfl
  | cons c declaration ih =>
    obtain ⟨hc, hdeclaration⟩ := List.ne_and_not_mem_of_not_mem_cons h
    rw [List.cons_append, afterDeclaration, ih hdeclaration]
    exact fun _ h => absurd h.symm hc

lemma read_declaration {declaration : List Char} (h : '?' ∉ declaration) (text : List Char) :
    read ("<?xml".toList ++ (declaration ++ '?' :: '>' :: text)) = (text.foldlM step start).bind root? := by
  have hdrop : ("<?xml".toList ++ (declaration ++ '?' :: '>' :: text)).drop 5 =
      declaration ++ '?' :: '>' :: text :=
    rfl
  rw [read, if_pos (List.prefix_append _ _), hdrop, afterDeclaration_append h]

lemma Reads.root {children : List XmlNode} (h : Reads text [.element name attributes children]) :
    (text.foldlM step start).bind root? = some (.element name attributes children) := by
  rw [start, h]
  rfl

lemma Fails.root (h : Fails text) : (text.foldlM step start).bind root? = none := by
  rw [start, h]
  rfl

variable {α : Type} {l : List α} {f : ℕ → α → List Char}

lemma reads_mapIdx {g : ℕ → α → XmlNode} (h : ∀ i a, l[i]? = some a → Reads (f i a) [g i a]) :
    Reads (l.mapIdx f).flatten (l.mapIdx g) := by
  induction l generalizing f g with
  | nil => exact reads_nil
  | cons a l ih =>
    rw [List.mapIdx_cons, List.mapIdx_cons, List.flatten_cons]
    exact (h 0 a rfl).append (ih fun i a ha => h (i + 1) a ha)

lemma fails_mapIdx (h : ∀ i a, l[i]? = some a → Fails (f i a) ∨ ∃ nodes, Reads (f i a) nodes)
    (hfails : ∃ i a, l[i]? = some a ∧ Fails (f i a)) : Fails (l.mapIdx f).flatten := by
  induction l generalizing f with
  | nil =>
    obtain ⟨i, a, ha, -⟩ := hfails
    cases ha
  | cons a l ih =>
    rw [List.mapIdx_cons, List.flatten_cons]
    obtain hfirst | ⟨nodes, hfirst⟩ := h 0 a rfl
    · exact hfirst.append_right _
    · refine hfirst.append_fails (ih (fun i a ha => h (i + 1) a ha) ?_)
      obtain ⟨i, a', ha, hfails⟩ := hfails
      cases i with
      | zero =>
        cases ha
        have hboth := (hfirst ⟨[], [], []⟩ []).symm.trans (hfails ⟨[], [], []⟩ [])
        cases hboth
      | succ i => exact ⟨i, a', ha, hfails⟩

/-! ### Texts and values that need no references -/

/-- A character of a text that is read as it is. -/
def isTextChar (c : Char) : Bool := isXmlChar c && c ≠ '<' && c ≠ '&' && c ≠ '>' && c ≠ '\r' && c ≠ '\n'

lemma reads_chars (htext : ∀ c ∈ text, isTextChar c = true) : Reads text (text.map .character) := by
  induction text with
  | nil => exact reads_nil
  | cons c text ih =>
    obtain ⟨hc, htext⟩ := List.forall_mem_cons.mp htext
    simp only [isTextChar, Bool.and_eq_true, decide_eq_true_eq] at hc
    have hread : Reads [c] [.character c] := by
      intro element around
      simp only [List.foldlM_cons, step]
      rw [if_neg hc.1.1.1.1.2, if_neg hc.1.1.1.2, if_neg hc.1.2, if_neg (fun h => hc.2 h.1), if_neg hc.1.1.2,
        if_pos hc.1.1.1.1.1]
      rfl
    exact hread.append (ih htext)

/-- A character of a value between double quotes that needs no reference. -/
def isValueChar (c : Char) : Bool := isXmlChar c && 32 ≤ c.toNat && c ≠ '<' && c ≠ '&' && c ≠ '"'

lemma foldlM_value (htext : ∀ c ∈ text, isValueChar c = true) (attributes : List (List Char × List Char))
    (name key value : List Char) (element : Open) (around : List Open) :
    text.foldlM step ⟨.value name attributes key '"' value, element, around⟩ =
      some ⟨.value name attributes key '"' (value ++ text), element, around⟩ := by
  induction text generalizing value with
  | nil =>
    rw [List.append_nil]
    rfl
  | cons c text ih =>
    obtain ⟨hc, htext⟩ := List.forall_mem_cons.mp htext
    simp only [isValueChar, Bool.and_eq_true, decide_eq_true_eq] at hc
    have hstep : step ⟨.value name attributes key '"' value, element, around⟩ c =
        some ⟨.value name attributes key '"' (value ++ [c]), element, around⟩ := by
      simp only [step]
      rw [if_neg hc.2, if_pos ⟨hc.1.1.1.1, hc.1.1.1.2, hc.1.1.2, hc.1.2⟩]
    rw [List.foldlM_cons, hstep, Option.bind_eq_bind, Option.bind_some, ih htext, List.append_assoc]
    rfl

/-- The start of an element, around the value of its first attribute. -/
lemma opens_value {opening final key value : List Char} (hvalue : ∀ c ∈ value, isValueChar c = true)
    (hopening : ∀ element around, opening.foldlM step ⟨.content false, element, around⟩ =
      some ⟨.value name [] key '"' [], element, around⟩)
    (hfinal : ∀ value element around, final.foldlM step ⟨.value name [] key '"' value, element, around⟩ =
      some ⟨.content false, ⟨name, (key, value) :: attributes, []⟩, element :: around⟩) :
    Opens (opening ++ (value ++ final)) name ((key, value) :: attributes) := by
  intro element around
  rw [List.foldlM_append, hopening, Option.bind_eq_bind, Option.bind_some, List.foldlM_append,
    foldlM_value hvalue, Option.bind_eq_bind, Option.bind_some, hfinal, List.nil_append]

end

end XmlReader

end Mayatoko.Core
