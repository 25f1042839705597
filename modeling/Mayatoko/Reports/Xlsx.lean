import Mayatoko.Core.JsNumber
import Mayatoko.Core.Xml
import Mayatoko.Reports.CsvText

/-!
# Reports as workbooks

`renderXlsx` writes the cells of a report into a sheet, each one as the number that its text is taken for or as
the text itself. A reader of the sheet finds the text of a cell under its reference if the number is printed as
it was written, and the text has only characters of documents and no carriage return.
-/

namespace Mayatoko.Reports

open Core Core.JsNumber Core.XmlReader

/-! ### Writing -/

/-- `value.replace(/c/g, by)` -/
def replaceChar (c : Char) (substitute : String) (value : Text) : Text :=
  value.flatMap fun d => if d = c then substitute.toList else [d]

def xmlEscape (value : Text) : Text :=
  replaceChar '\'' "&apos;" (replaceChar '"' "&quot;" (replaceChar '>' "&gt;" (replaceChar '<' "&lt;"
    (replaceChar '&' "&amp;" value))))

def excelColumnLoop (value : ℕ) (result : Text) : Text :=
  if h : value = 0 then result
  else excelColumnLoop ((value - 1) / 26) (Char.ofNat (65 + (value - 1) % 26) :: result)
termination_by value
decreasing_by omega

def excelColumn (index : ℕ) : Text := excelColumnLoop (index + 1) []

def cellReference (rowIndex columnIndex : ℕ) : Text :=
  excelColumn columnIndex ++ Nat.toDigits 10 (rowIndex + 1)

/-- The number that a cell is written as, if its text is taken for one. -/
def numeric? (rowIndex : ℕ) (value : Text) : Option ℚ :=
  if 0 < rowIndex ∧ (value.dropWhile isBlank).rdropWhile isBlank ≠ [] then (ofText value).finite? else none

def cellXml (rowIndex columnIndex : ℕ) (value : Text) : Text :=
  match numeric? rowIndex value with
  | some q =>
    "<c r=\"".toList ++ cellReference rowIndex columnIndex ++ "\"><v>".toList ++ text q ++ "</v></c>".toList
  | none =>
    "<c r=\"".toList ++ cellReference rowIndex columnIndex ++
      "\" t=\"inlineStr\"><is><t xml:space=\"preserve\">".toList ++ xmlEscape value ++ "</t></is></c>".toList

def rowXml (rowIndex : ℕ) (row : List Text) : Text :=
  "<row r=\"".toList ++ Nat.toDigits 10 (rowIndex + 1) ++ "\">".toList ++
    (row.mapIdx (cellXml rowIndex)).flatten ++ "</row>".toList

/-- `xl/worksheets/sheet1.xml` in the file of `renderXlsx`. -/
def worksheetXml (csv : Text) : Text :=
  "<?xml version=\"1.0\" encoding=\"UTF-8\" standalone=\"yes\"?>".toList ++
    "<worksheet xmlns=\"http://schemas.openxmlformats.org/spreadsheetml/2006/main\"><sheetData>".toList ++
    ((parseCsvRows csv).mapIdx rowXml).flatten ++ "</sheetData></worksheet>".toList

/-! ### Reading -/

def columnNumber (letters : Text) : ℕ := letters.foldl (fun n c => n * 26 + (c.toNat - 64)) 0

def place (reference : Text) : ℕ × ℕ :=
  (columnNumber (reference.takeWhile Char.isUpper),
    Nat.ofDigitChars 10 (reference.dropWhile Char.isUpper) 0)

def storedText (cell : XmlNode) : Text :=
  if cell.attribute? "t".toList = some "inlineStr".toList then
    ((cell.all "is".toList).flatMap (XmlNode.all "t".toList)).flatMap XmlNode.text
  else (cell.all "v".toList).flatMap XmlNode.text

def storedCells (worksheet : XmlNode) : List ((ℕ × ℕ) × Text) :=
  (((worksheet.all "sheetData".toList).flatMap (XmlNode.all "row".toList)).flatMap (XmlNode.all "c".toList)).map
    fun cell => (place ((cell.attribute? "r".toList).getD []), storedText cell)

def ExportsCells (csv : Text) : Prop :=
  ∃ worksheet, XmlReader.read (worksheetXml csv) = some worksheet ∧
    ∀ row column, (storedCells worksheet).lookup (column + 1, row + 1) =
      ((parseCsvRows csv)[row]?).bind fun cells => cells[column]?

example : ((XmlReader.read (worksheetXml "a<b,\n1e5,'x".toList)).map storedCells) =
    some [((1, 1), "a<b".toList), ((2, 1), []), ((1, 2), "100000".toList), ((2, 2), "'x".toList)] := by
  decide +kernel

/-! ### References -/

lemma columnLetter (n : ℕ) :
    (Char.ofNat (65 + n % 26)).toNat = 65 + n % 26 ∧ (Char.ofNat (65 + n % 26)).isUpper = true ∧
      isValueChar (Char.ofNat (65 + n % 26)) = true := by
  have hall : ∀ i : Fin 26, (Char.ofNat (65 + i)).toNat = 65 + i ∧ (Char.ofNat (65 + i)).isUpper = true ∧
      isValueChar (Char.ofNat (65 + i)) = true := by
    decide
  exact hall ⟨n % 26, Nat.mod_lt n (by omega)⟩

lemma foldl_excelColumnLoop (value : ℕ) (result : Text) :
    columnNumber (excelColumnLoop value result) = result.foldl (fun n c => n * 26 + (c.toNat - 64)) value := by
  induction value using Nat.strongRecOn generalizing result with
  | ind value ih =>
    rw [excelColumnLoop]
    split_ifs with hzero
    · rw [hzero]
      rfl
    · rw [ih _ (by omega), List.foldl_cons, (columnLetter _).1]
      congr 1
      omega

lemma columnNumber_excelColumn (index : ℕ) : columnNumber (excelColumn index) = index + 1 :=
  foldl_excelColumnLoop (index + 1) []

lemma excelColumn_injective : Function.Injective excelColumn := by
  intro index index' h
  have hnumber := congrArg columnNumber h
  rw [columnNumber_excelColumn, columnNumber_excelColumn] at hnumber
  omega

lemma mem_excelColumnLoop {P : Char → Prop} (hP : ∀ n, P (Char.ofNat (65 + n % 26))) (value : ℕ) {result : Text}
    (hresult : ∀ c ∈ result, P c) : ∀ c ∈ excelColumnLoop value result, P c := by
  induction value using Nat.strongRecOn generalizing result with
  | ind value ih =>
    rw [excelColumnLoop]
    split_ifs with hzero
    · exact hresult
    · exact ih _ (by omega) (List.forall_mem_cons.mpr ⟨hP _, hresult⟩)

lemma mem_excelColumn {P : Char → Prop} (hP : ∀ n, P (Char.ofNat (65 + n % 26))) (index : ℕ) :
    ∀ c ∈ excelColumn index, P c :=
  mem_excelColumnLoop hP (index + 1) fun _ h => absurd h List.not_mem_nil

lemma isValueChar_toDigits (n : ℕ) : ∀ c ∈ Nat.toDigits 10 n, isValueChar c = true := by
  intro c hc
  have hplain : ∀ c ∈ "0123456789+-.e".toList, isValueChar c = true := List.all_eq_true.mp (by decide)
  exact hplain c (plain_toDigits n c hc)

lemma isValueChar_cellReference (row column : ℕ) : ∀ c ∈ cellReference row column, isValueChar c = true :=
  List.forall_mem_append.mpr ⟨mem_excelColumn (fun n => (columnLetter n).2.2) column, isValueChar_toDigits _⟩

lemma place_cellReference (row column : ℕ) : place (cellReference row column) = (column + 1, row + 1) := by
  have hupper : ∀ c ∈ excelColumn column, c.isUpper = true :=
    mem_excelColumn (fun n => (columnLetter n).2.1) column
  have hdigits : ∀ c ∈ Nat.toDigits 10 (row + 1), ¬ c.isUpper = true := by
    intro c hc
    have hplain : ("0123456789+-.e".toList.all fun c => !c.isUpper) = true := by decide
    have hlower := List.all_eq_true.mp hplain c (plain_toDigits _ c hc)
    simp only [Bool.not_eq_true'] at hlower
    exact Bool.eq_false_iff.mp hlower
  have htake : (Nat.toDigits 10 (row + 1)).takeWhile Char.isUpper = [] :=
    List.takeWhile_eq_nil_iff.mpr fun h => hdigits _ (List.getElem_mem h)
  have hdrop : (Nat.toDigits 10 (row + 1)).dropWhile Char.isUpper = Nat.toDigits 10 (row + 1) :=
    List.dropWhile_eq_self_iff.mpr fun h => hdigits _ (List.getElem_mem h)
  rw [place, cellReference, List.takeWhile_append_of_pos hupper, List.dropWhile_append_of_pos hupper, htake,
    hdrop, List.append_nil, columnNumber_excelColumn, Nat.ofDigitChars_ten_toDigits]

/-! ### Texts -/

lemma xmlEscape_append (value value' : Text) :
    xmlEscape (value ++ value') = xmlEscape value ++ xmlEscape value' := by
  simp only [xmlEscape, replaceChar, List.flatMap_append]

lemma xmlEscape_singleton {c : Char} (h : c ∉ "&<>\"'".toList) : xmlEscape [c] = [c] := by
  change c ∉ ['&', '<', '>', '"', '\''] at h
  simp only [List.mem_cons, List.not_mem_nil, or_false, not_or] at h
  simp only [xmlEscape, replaceChar, List.flatMap_cons, List.flatMap_nil, List.append_nil, h, if_false]

lemma foldlM_xmlEscape_singleton (c : Char) (afterReturn : Bool) (element : Open) (around : List Open) :
    (xmlEscape [c]).foldlM step ⟨.content afterReturn, element, around⟩ =
      if isXmlChar c then
        some ⟨.content (c = '\r'), element.append ((lineEnds afterReturn [c]).map .character), around⟩
      else none := by
  by_cases hmarkup : c ∈ "&<>\"'".toList
  · change c ∈ ['&', '<', '>', '"', '\''] at hmarkup
    simp only [List.mem_cons, List.not_mem_nil, or_false] at hmarkup
    obtain rfl | rfl | rfl | rfl | rfl := hmarkup
    all_goals rfl
  rw [xmlEscape_singleton hmarkup, List.foldlM_cons]
  change c ∉ ['&', '<', '>', '"', '\''] at hmarkup
  simp only [List.mem_cons, List.not_mem_nil, or_false, not_or] at hmarkup
  simp only [step, lineEnds]
  rw [if_neg hmarkup.2.1, if_neg hmarkup.1]
  by_cases hreturn : c = '\r'
  · subst hreturn
    rfl
  rw [if_neg hreturn, if_neg hreturn, decide_eq_false hreturn]
  by_cases hfeed : c = '\n' ∧ afterReturn = true
  · have hchar : isXmlChar c = true := by
      rw [hfeed.1]
      decide
    rw [if_pos hfeed, if_pos hfeed, if_pos hchar, List.map_nil, Open.append_nil]
    rfl
  rw [if_neg hfeed, if_neg hfeed, if_neg hmarkup.2.2.1]
  split_ifs
  all_goals rfl

lemma lineEnds_cons (afterReturn : Bool) (c : Char) (value : Text) :
    lineEnds afterReturn (c :: value) = lineEnds afterReturn [c] ++ lineEnds (c = '\r') value := by
  simp only [lineEnds]
  split_ifs with hreturn hfeed
  · rw [decide_eq_true hreturn]
    rfl
  · rw [decide_eq_false hreturn]
    rfl
  · rw [decide_eq_false hreturn]
    rfl

lemma foldlM_xmlEscape {value : Text} (hvalue : ∀ c ∈ value, isXmlChar c = true) (afterReturn : Bool)
    (element : Open) (around : List Open) :
    ∃ afterReturn', (xmlEscape value).foldlM step ⟨.content afterReturn, element, around⟩ =
      some ⟨.content afterReturn', element.append ((lineEnds afterReturn value).map .character), around⟩ := by
  induction value generalizing afterReturn element with
  | nil =>
    refine ⟨afterReturn, ?_⟩
    rw [lineEnds, List.map_nil, Open.append_nil]
    rfl
  | cons c value ih =>
    obtain ⟨hc, hvalue⟩ := List.forall_mem_cons.mp hvalue
    obtain ⟨afterReturn', hread⟩ := ih hvalue (c = '\r')
      (element.append ((lineEnds afterReturn [c]).map .character))
    refine ⟨afterReturn', ?_⟩
    rw [← List.singleton_append, xmlEscape_append, List.foldlM_append, foldlM_xmlEscape_singleton, if_pos hc,
      Option.bind_eq_bind, Option.bind_some, hread, Open.append_append, List.singleton_append,
      lineEnds_cons afterReturn c value, List.map_append]

lemma foldlM_xmlEscape_eq_none {value : Text} (hvalue : ¬ ∀ c ∈ value, isXmlChar c = true) (afterReturn : Bool)
    (element : Open) (around : List Open) :
    (xmlEscape value).foldlM step ⟨.content afterReturn, element, around⟩ = none := by
  induction value generalizing afterReturn element with
  | nil => exact absurd (fun _ h => absurd h List.not_mem_nil) hvalue
  | cons c value ih =>
    rw [← List.singleton_append, xmlEscape_append, List.foldlM_append, foldlM_xmlEscape_singleton]
    split_ifs with hc
    · rw [Option.bind_eq_bind, Option.bind_some]
      exact ih (fun h => hvalue (List.forall_mem_cons.mpr ⟨hc, h⟩)) _ _
    · rfl

lemma reads_text (q : ℚ) : Reads (text q) ((text q).map .character) := by
  refine reads_chars fun c hc => ?_
  have hplain : ∀ c ∈ "0123456789+-.e".toList, isTextChar c = true := List.all_eq_true.mp (by decide)
  exact hplain c (text_plain q c hc)

/-! ### Cells and rows -/

def storedValue (rowIndex : ℕ) (value : Text) : Text :=
  match numeric? rowIndex value with
  | some q => text q
  | none => lineEnds false value

def cellNode (rowIndex columnIndex : ℕ) (value : Text) : XmlNode :=
  match numeric? rowIndex value with
  | some q => .element "c".toList [("r".toList, cellReference rowIndex columnIndex)]
      [.element "v".toList [] ((text q).map .character)]
  | none => .element "c".toList
      [("r".toList, cellReference rowIndex columnIndex), ("t".toList, "inlineStr".toList)]
      [.element "is".toList [] [.element "t".toList [("xml:space".toList, "preserve".toList)]
        ((lineEnds false value).map .character)]]

/-- A cell that no document can hold. -/
def Unwritable (rowIndex : ℕ) (value : Text) : Prop :=
  numeric? rowIndex value = none ∧ ¬ ∀ c ∈ value, isXmlChar c = true

section

variable {rowIndex : ℕ} {value : Text}

lemma cellXml_number {q : ℚ} (h : numeric? rowIndex value = some q) (columnIndex : ℕ) :
    cellXml rowIndex columnIndex value =
      ("<c r=\"".toList ++ (cellReference rowIndex columnIndex ++ "\">".toList)) ++
        (("<v>".toList ++ (text q ++ "</v>".toList)) ++ "</c>".toList) := by
  rw [cellXml, h]
  simp only [List.append_assoc]
  rfl

lemma opens_inline (rowIndex columnIndex : ℕ) :
    Opens ("<c r=\"".toList ++ (cellReference rowIndex columnIndex ++ "\" t=\"inlineStr\">".toList)) "c".toList
      [("r".toList, cellReference rowIndex columnIndex), ("t".toList, "inlineStr".toList)] :=
  opens_value (isValueChar_cellReference rowIndex columnIndex) (fun _ _ => rfl) fun _ _ _ => rfl

lemma cellXml_inline (h : numeric? rowIndex value = none) (columnIndex : ℕ) :
    cellXml rowIndex columnIndex value =
      ("<c r=\"".toList ++ (cellReference rowIndex columnIndex ++ "\" t=\"inlineStr\">".toList)) ++
        (("<is>".toList ++ (("<t xml:space=\"preserve\">".toList ++ (xmlEscape value ++ "</t>".toList)) ++
          "</is>".toList)) ++ "</c>".toList) := by
  rw [cellXml, h]
  simp only [List.append_assoc]
  rfl

lemma opens_text : Opens "<t xml:space=\"preserve\">".toList "t".toList
    [("xml:space".toList, "preserve".toList)] :=
  fun _ _ => rfl

lemma reads_cellXml (h : ¬ Unwritable rowIndex value) (columnIndex : ℕ) :
    Reads (cellXml rowIndex columnIndex value) [cellNode rowIndex columnIndex value] := by
  cases hnumeric : numeric? rowIndex value with
  | some q =>
    have hopen : Opens ("<c r=\"".toList ++ (cellReference rowIndex columnIndex ++ "\">".toList)) "c".toList
        [("r".toList, cellReference rowIndex columnIndex)] :=
      opens_value (isValueChar_cellReference rowIndex columnIndex) (fun _ _ => rfl) fun _ _ _ => rfl
    have hvalue : Opens "<v>".toList "v".toList [] := fun _ _ => rfl
    have hread := hopen.element (closes_tag "c".toList (List.all_eq_true.mp (by decide)))
      (hvalue.element (closes_tag "v".toList (List.all_eq_true.mp (by decide))) (reads_text q).holds).holds
    rw [cellXml_number hnumeric, cellNode, hnumeric]
    exact hread
  | none =>
    have hchars : ∀ c ∈ value, isXmlChar c = true := not_not.mp fun hchars => h ⟨hnumeric, hchars⟩
    have htext := opens_text.element (closes_tag "t".toList (List.all_eq_true.mp (by decide)))
      (foldlM_xmlEscape hchars false)
    have hinline : Opens "<is>".toList "is".toList [] := fun _ _ => rfl
    have hread := (opens_inline rowIndex columnIndex).element (closes_tag "c".toList (List.all_eq_true.mp (by decide)))
      (hinline.element (closes_tag "is".toList (List.all_eq_true.mp (by decide))) htext.holds).holds
    rw [cellXml_inline hnumeric, cellNode, hnumeric]
    exact hread

lemma fails_cellXml (h : Unwritable rowIndex value) (columnIndex : ℕ) :
    Fails (cellXml rowIndex columnIndex value) := by
  have hinline : Opens "<is>".toList "is".toList [] := fun _ _ => rfl
  rw [cellXml_inline h.1]
  exact (opens_inline rowIndex columnIndex).fails (hinline.fails
    (opens_text.fails (foldlM_xmlEscape_eq_none h.2 false) _) _) _

end

def rowNode (rowIndex : ℕ) (row : List Text) : XmlNode :=
  .element "row".toList [("r".toList, Nat.toDigits 10 (rowIndex + 1))] (row.mapIdx (cellNode rowIndex))

lemma opens_row (rowIndex : ℕ) :
    Opens ("<row r=\"".toList ++ (Nat.toDigits 10 (rowIndex + 1) ++ "\">".toList)) "row".toList
      [("r".toList, Nat.toDigits 10 (rowIndex + 1))] :=
  opens_value (isValueChar_toDigits _) (fun _ _ => rfl) fun _ _ _ => rfl

lemma rowXml_eq (rowIndex : ℕ) (row : List Text) :
    rowXml rowIndex row = ("<row r=\"".toList ++ (Nat.toDigits 10 (rowIndex + 1) ++ "\">".toList)) ++
      ((row.mapIdx (cellXml rowIndex)).flatten ++ "</row>".toList) := by
  unfold rowXml
  simp only [List.append_assoc]

lemma reads_rowXml {rowIndex : ℕ} {row : List Text} (h : ∀ value ∈ row, ¬ Unwritable rowIndex value) :
    Reads (rowXml rowIndex row) [rowNode rowIndex row] := by
  rw [rowXml_eq]
  exact (opens_row rowIndex).element (closes_tag "row".toList (List.all_eq_true.mp (by decide)))
    (reads_mapIdx fun _ _ hvalue => reads_cellXml (h _ (List.mem_of_getElem? hvalue)) _).holds

lemma fails_rowXml {rowIndex : ℕ} {row : List Text} (h : ∃ value ∈ row, Unwritable rowIndex value) :
    Fails (rowXml rowIndex row) := by
  rw [rowXml_eq]
  refine (opens_row rowIndex).fails (fails_mapIdx (fun columnIndex value _ => ?_) ?_) _
  · by_cases hvalue : Unwritable rowIndex value
    · exact .inl (fails_cellXml hvalue columnIndex)
    · exact .inr ⟨_, reads_cellXml hvalue columnIndex⟩
  · obtain ⟨value, hmem, hvalue⟩ := h
    obtain ⟨columnIndex, hcolumn⟩ := List.getElem?_of_mem hmem
    exact ⟨columnIndex, value, hcolumn, fails_cellXml hvalue columnIndex⟩

/-! ### Sheets -/

def sheetNode (rows : List (List Text)) : XmlNode :=
  .element "worksheet".toList
    [("xmlns".toList, "http://schemas.openxmlformats.org/spreadsheetml/2006/main".toList)]
    [.element "sheetData".toList [] (rows.mapIdx rowNode)]

def worksheetStart : Text :=
  "<worksheet xmlns=\"".toList ++ ("http://schemas.openxmlformats.org/spreadsheetml/2006/main".toList ++
    "\">".toList)

lemma opens_worksheet : Opens worksheetStart "worksheet".toList
    [("xmlns".toList, "http://schemas.openxmlformats.org/spreadsheetml/2006/main".toList)] :=
  opens_value (List.all_eq_true.mp (by decide)) (fun _ _ => rfl) fun _ _ _ => rfl

lemma opens_sheetData : Opens "<sheetData>".toList "sheetData".toList [] := fun _ _ => rfl

lemma worksheetXml_eq (csv : Text) :
    worksheetXml csv = "<?xml".toList ++ (" version=\"1.0\" encoding=\"UTF-8\" standalone=\"yes\"".toList ++
      '?' :: '>' :: (worksheetStart ++ (("<sheetData>".toList ++ (((parseCsvRows csv).mapIdx rowXml).flatten ++
        "</sheetData>".toList)) ++ "</worksheet>".toList))) := by
  have hdeclaration : "<?xml version=\"1.0\" encoding=\"UTF-8\" standalone=\"yes\"?>".toList =
      "<?xml".toList ++ (" version=\"1.0\" encoding=\"UTF-8\" standalone=\"yes\"".toList ++ ['?', '>']) := by
    decide
  have hstart :
      "<worksheet xmlns=\"http://schemas.openxmlformats.org/spreadsheetml/2006/main\"><sheetData>".toList =
      worksheetStart ++ "<sheetData>".toList := by
    decide
  have hfinal : "</sheetData></worksheet>".toList = "</sheetData>".toList ++ "</worksheet>".toList := by
    decide
  unfold worksheetXml
  rw [hdeclaration, hstart, hfinal]
  simp only [List.append_assoc]
  rfl

lemma read_worksheetXml {csv : Text} (h : ∀ rowIndex row, (parseCsvRows csv)[rowIndex]? = some row →
      ∀ value ∈ row, ¬ Unwritable rowIndex value) :
    XmlReader.read (worksheetXml csv) = some (sheetNode (parseCsvRows csv)) := by
  have hread := opens_worksheet.element (closes_tag "worksheet".toList (List.all_eq_true.mp (by decide)))
    (opens_sheetData.element (closes_tag "sheetData".toList (List.all_eq_true.mp (by decide)))
      (reads_mapIdx fun rowIndex row hrow => reads_rowXml (h rowIndex row hrow)).holds).holds
  rw [worksheetXml_eq, read_declaration (by decide)]
  exact hread.root

lemma read_worksheetXml_eq_none {csv : Text} {rowIndex : ℕ} {row : List Text}
    (hrow : (parseCsvRows csv)[rowIndex]? = some row) (h : ∃ value ∈ row, Unwritable rowIndex value) :
    XmlReader.read (worksheetXml csv) = none := by
  rw [worksheetXml_eq, read_declaration (by decide)]
  refine (opens_worksheet.fails (opens_sheetData.fails (fails_mapIdx (fun rowIndex row _ => ?_) ?_) _) _).root
  · by_cases hrow : ∃ value ∈ row, Unwritable rowIndex value
    · exact .inl (fails_rowXml hrow)
    · exact .inr ⟨_, reads_rowXml fun value hmem hvalue => hrow ⟨value, hmem, hvalue⟩⟩
  · exact ⟨rowIndex, row, hrow, fails_rowXml h⟩

/-! ### What is stored -/

lemma storedText_cellNode (rowIndex columnIndex : ℕ) (value : Text) :
    storedText (cellNode rowIndex columnIndex value) = storedValue rowIndex value := by
  unfold cellNode storedValue
  cases numeric? rowIndex value with
  | some q =>
    change (XmlNode.element "v".toList [] ((text q).map .character)).text ++ [] = text q
    rw [XmlNode.text_element_map, List.append_nil]
  | none =>
    change (XmlNode.element "t".toList [("xml:space".toList, "preserve".toList)]
      ((lineEnds false value).map .character)).text ++ [] = lineEnds false value
    rw [XmlNode.text_element_map, List.append_nil]

lemma place_cellNode (rowIndex columnIndex : ℕ) (value : Text) :
    place (((cellNode rowIndex columnIndex value).attribute? "r".toList).getD []) =
      (columnIndex + 1, rowIndex + 1) := by
  have hattribute : (cellNode rowIndex columnIndex value).attribute? "r".toList =
      some (cellReference rowIndex columnIndex) := by
    unfold cellNode
    cases numeric? rowIndex value
    all_goals rfl
  rw [hattribute, Option.getD_some, place_cellReference]

lemma map_mapIdx {α β γ : Type} (l : List α) (f : ℕ → α → β) (g : β → γ) :
    (l.mapIdx f).map g = l.mapIdx fun i a => g (f i a) := by
  rw [List.mapIdx_eq_zipIdx_map, List.mapIdx_eq_zipIdx_map, List.map_map]
  rfl

lemma all_mapIdx {α : Type} {name name' : Text} {attributes : List (Text × Text)} {l : List α}
    {f : ℕ → α → XmlNode} (h : ∀ i a, (f i a).isElement name = true) :
    (XmlNode.element name' attributes (l.mapIdx f)).all name = l.mapIdx f := by
  refine List.filter_eq_self.mpr fun node hnode => ?_
  obtain ⟨i, hi, rfl⟩ := List.mem_mapIdx.mp hnode
  exact h i _

lemma all_rowNode (rowIndex : ℕ) (row : List Text) :
    (rowNode rowIndex row).all "c".toList = row.mapIdx (cellNode rowIndex) := by
  refine all_mapIdx fun columnIndex value => ?_
  unfold cellNode
  cases numeric? rowIndex value
  all_goals rfl

def storedRow (rowIndex : ℕ) (row : List Text) : List ((ℕ × ℕ) × Text) :=
  row.mapIdx fun columnIndex value => ((columnIndex + 1, rowIndex + 1), storedValue rowIndex value)

lemma storedCells_sheetNode (rows : List (List Text)) :
    storedCells (sheetNode rows) = (rows.mapIdx storedRow).flatten := by
  have hdata : (sheetNode rows).all "sheetData".toList =
      [.element "sheetData".toList [] (rows.mapIdx rowNode)] := rfl
  have hrows : (XmlNode.element "sheetData".toList [] (rows.mapIdx rowNode)).all "row".toList =
      rows.mapIdx rowNode :=
    all_mapIdx fun _ _ => rfl
  rw [storedCells, hdata, List.flatMap_singleton, hrows, List.flatMap_def, map_mapIdx, List.map_flatten,
    map_mapIdx]
  congr 2
  funext rowIndex row
  rw [all_rowNode, map_mapIdx]
  simp only [place_cellNode, storedText_cellNode, storedRow]

lemma mem_storedRows {rows : List (List Text)} {rowIndex columnIndex : ℕ} {value : Text} :
    ((columnIndex + 1, rowIndex + 1), value) ∈ (rows.mapIdx storedRow).flatten ↔
      ((rows[rowIndex]?).bind fun row => row[columnIndex]?).map (storedValue rowIndex) = some value := by
  simp only [List.mem_flatten, List.mem_mapIdx, Option.map_eq_some_iff, Option.bind_eq_some_iff]
  constructor
  · rintro ⟨_, ⟨i, hi, rfl⟩, hmem⟩
    obtain ⟨j, hj, heq⟩ := List.mem_mapIdx.mp hmem
    cases heq
    exact ⟨_, ⟨_, List.getElem?_eq_getElem hi, List.getElem?_eq_getElem hj⟩, rfl⟩
  · rintro ⟨text, ⟨row, hrow, htext⟩, rfl⟩
    obtain ⟨hi, rfl⟩ := List.getElem?_eq_some_iff.mp hrow
    obtain ⟨hj, rfl⟩ := List.getElem?_eq_some_iff.mp htext
    exact ⟨_, ⟨rowIndex, hi, rfl⟩, List.mem_mapIdx.mpr ⟨columnIndex, hj, rfl⟩⟩

lemma lookup_storedRows (rows : List (List Text)) (rowIndex columnIndex : ℕ) :
    (rows.mapIdx storedRow).flatten.lookup (columnIndex + 1, rowIndex + 1) =
      ((rows[rowIndex]?).bind fun row => row[columnIndex]?).map (storedValue rowIndex) := by
  cases hlookup : (rows.mapIdx storedRow).flatten.lookup (columnIndex + 1, rowIndex + 1) with
  | some value =>
    obtain ⟨before, after, hsplit, -⟩ := List.lookup_eq_some_iff.mp hlookup
    refine (mem_storedRows.mp ?_).symm
    rw [hsplit]
    exact List.mem_append_right _ List.mem_cons_self
  | none =>
    refine (Option.eq_none_iff_forall_not_mem.mpr fun value hvalue => ?_).symm
    have hnone := List.lookup_eq_none_iff.mp hlookup _ (mem_storedRows.mpr hvalue)
    simp at hnone

def survives (rowIndex : ℕ) (value : Text) : Bool :=
  match numeric? rowIndex value with
  | some q => text q = value
  | none => value.all fun c => isXmlChar c && c ≠ '\r'

lemma survives_iff {rowIndex : ℕ} {value : Text} :
    survives rowIndex value = true ↔ ¬ Unwritable rowIndex value ∧ storedValue rowIndex value = value := by
  unfold survives Unwritable storedValue
  cases numeric? rowIndex value with
  | some q => simp
  | none =>
    simp only [List.all_eq_true, Bool.and_eq_true, decide_eq_true_eq, true_and, not_not, lineEnds_eq_self]
    refine ⟨fun h => ⟨fun c hc => (h c hc).1, fun hreturn => (h _ hreturn).2 rfl⟩, fun h c hc => ⟨h.1 c hc, ?_⟩⟩
    rintro rfl
    exact h.2 hc

end Mayatoko.Reports
