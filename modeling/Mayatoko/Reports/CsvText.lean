import Mathlib.Data.List.Basic

/-!
# Reports as CSV

`toCsv` writes a header and rows, `parseCsvRows` reads them back for the other formats. Texts are lists of
characters. The reader takes a carriage return off the end of every row, which is not always one that the
writer has put there, and it takes an empty last line for none.
-/

namespace Mayatoko.Reports

abbrev Text := List Char

/-! ### Writing -/

/-- `String(value ?? '')` -/
def cellText {α : Type} (string : α → Text) (value : Option α) : Text := value.elim [] string

def mustQuote (c : Char) : Bool := c = '"' || c = ',' || c = '\n' || c = ';'

def doubleQuotes (text : Text) : Text := text.flatMap fun c => if c = '"' then ['"', '"'] else [c]

def csvCell (text : Text) : Text :=
  if text.any mustQuote then '"' :: (doubleQuotes text ++ ['"']) else text

def csvLine (cells : List Text) : Text := [','].intercalate (cells.map csvCell)

def toCsv {α : Type} (string : α → Text) (headers : List Text) (rows : List (List (Option α))) : Text :=
  ['\r', '\n'].intercalate (csvLine headers :: rows.map fun row => csvLine (row.map (cellText string)))

/-- `cell.replace(/\r$/, '')` -/
def stripReturn (cell : Text) : Text := if cell.getLast? = some '\r' then cell.dropLast else cell

/-- The loop of `parseCsvRows`, with what comes after it. -/
@[simp]
def parseCsvLoop (rows : List (List Text)) (row : List Text) (cell : Text) : Bool → Text → List (List Text)
  | true, '"' :: '"' :: csv => parseCsvLoop rows row (cell ++ ['"']) true csv
  | true, '"' :: csv => parseCsvLoop rows row cell false csv
  | true, c :: csv => parseCsvLoop rows row (cell ++ [c]) true csv
  | false, '"' :: csv => parseCsvLoop rows row cell true csv
  | false, ',' :: csv => parseCsvLoop rows (row ++ [cell]) [] false csv
  | false, '\n' :: csv => parseCsvLoop (rows ++ [row ++ [stripReturn cell]]) [] [] false csv
  | false, c :: csv => parseCsvLoop rows row (cell ++ [c]) false csv
  | _, [] => if cell ≠ [] ∨ row ≠ [] then rows ++ [row ++ [stripReturn cell]] else rows

def parseCsvRows (csv : Text) : List (List Text) := parseCsvLoop [] [] [] false csv

example : parseCsvRows (toCsv id ["a".toList, "b;".toList] [[some "x\"\n".toList, none]]) =
    [["a".toList, "b;".toList], ["x\"\n".toList, []]] := by decide

/-! ### Reading what was written -/

variable {rows : List (List Text)} {row : List Text} {cell text csv : Text}

lemma parseCsvLoop_quoted (hcsv : csv.head? ≠ some '"') :
    parseCsvLoop rows row cell true (doubleQuotes text ++ '"' :: csv) =
      parseCsvLoop rows row (cell ++ text) false csv := by
  induction text generalizing cell with
  | nil =>
    rw [List.append_nil]
    cases csv with
    | nil => rfl
    | cons c csv =>
      have hc : c ≠ '"' := fun h => hcsv (congrArg some h)
      change parseCsvLoop rows row cell true ('"' :: c :: csv) = _
      rw [parseCsvLoop]
      rintro csv' h
      cases h
      exact hc rfl
  | cons c text ih =>
    by_cases hc : c = '"'
    · subst hc
      change parseCsvLoop rows row cell true ('"' :: '"' :: (doubleQuotes text ++ '"' :: csv)) = _
      rw [parseCsvLoop, ih, List.append_assoc]
      rfl
    · have hdouble : doubleQuotes (c :: text) = c :: doubleQuotes text := by
        rw [doubleQuotes, List.flatMap_cons, if_neg hc]
        rfl
      rw [hdouble, List.cons_append, parseCsvLoop, ih, List.append_assoc]
      · rfl
      · exact fun _ h => absurd h hc
      · exact hc

lemma parseCsvLoop_plain (htext : ∀ c ∈ text, mustQuote c = false) :
    parseCsvLoop rows row cell false (text ++ csv) = parseCsvLoop rows row (cell ++ text) false csv := by
  induction text generalizing cell with
  | nil => rw [List.append_nil, List.nil_append]
  | cons c text ih =>
    obtain ⟨hc, htext⟩ := List.forall_mem_cons.mp htext
    simp only [mustQuote, Bool.or_eq_false_iff, decide_eq_false_iff_not] at hc
    rw [List.cons_append, parseCsvLoop, ih htext, List.append_assoc]
    · rfl
    · exact hc.1.1.1
    · exact hc.1.1.2
    · exact hc.1.2

lemma parseCsvLoop_csvCell (hcsv : csv.head? ≠ some '"') :
    parseCsvLoop rows row [] false (csvCell text ++ csv) = parseCsvLoop rows row text false csv := by
  unfold csvCell
  split_ifs with hquote
  · rw [List.cons_append, List.append_assoc, List.singleton_append, parseCsvLoop, parseCsvLoop_quoted hcsv,
      List.nil_append]
  · refine parseCsvLoop_plain fun c hc => ?_
    simp only [List.any_eq_true, not_exists, not_and] at hquote
    exact Bool.eq_false_iff.mpr (hquote c hc)

lemma parseCsvLoop_csvLine (cells : List Text) (hcsv : csv.head? ≠ some '"') :
    parseCsvLoop rows row [] false (csvLine (cells ++ [text]) ++ csv) =
      parseCsvLoop rows (row ++ cells) text false csv := by
  induction cells generalizing row with
  | nil =>
    simp only [csvLine, List.nil_append, List.map_cons, List.map_nil, List.intercalate_singleton,
      List.append_nil]
    exact parseCsvLoop_csvCell hcsv
  | cons first cells ih =>
    have hline : csvLine (first :: cells ++ [text]) = csvCell first ++ ',' :: csvLine (cells ++ [text]) := by
      rw [csvLine, List.cons_append, List.map_cons, List.intercalate_cons_of_ne_nil (by simp),
        List.append_assoc,
        List.singleton_append, csvLine]
    rw [hline, List.append_assoc, parseCsvLoop_csvCell (by simp), List.cons_append, parseCsvLoop, ih,
      List.append_assoc]
    rfl

lemma stripReturn_append : stripReturn (cell ++ ['\r']) = cell := by
  rw [stripReturn, if_pos List.getLast?_concat, List.dropLast_concat]

lemma stripReturn_eq_self : stripReturn cell = cell ↔ cell.getLast? ≠ some '\r' := by
  rw [stripReturn]
  split_ifs with hreturn
  · refine iff_of_false (fun h => ?_) (not_not_intro hreturn)
    have hlength := congrArg List.length h
    rw [List.length_dropLast] at hlength
    have hnil : cell ≠ [] := by
      rintro rfl
      cases hreturn
    have := List.length_pos_iff.mpr hnil
    omega
  · exact iff_of_true rfl hreturn

lemma parseCsvLoop_lines (lines : List (List Text)) (last : List Text) (hlines : ∀ cells ∈ lines, cells ≠ []) :
    parseCsvLoop rows [] [] false (['\r', '\n'].intercalate ((lines ++ [last]).map csvLine)) =
      parseCsvLoop (rows ++ lines) [] [] false (csvLine last) := by
  induction lines generalizing rows with
  | nil => simp only [List.nil_append, List.map_cons, List.map_nil, List.intercalate_singleton, List.append_nil]
  | cons line lines ih =>
    obtain ⟨hline, hrest⟩ := List.forall_mem_cons.mp hlines
    obtain ⟨cells, text, rfl⟩ : ∃ cells text, line = cells ++ [text] :=
      ⟨_, _, (List.dropLast_append_getLast hline).symm⟩
    rw [List.cons_append, List.map_cons, List.intercalate_cons_of_ne_nil (by simp), List.append_assoc,
      parseCsvLoop_csvLine cells (by simp), List.cons_append, List.singleton_append]
    rw [parseCsvLoop, parseCsvLoop, stripReturn_append, ih hrest, List.append_assoc, List.nil_append]
    · rfl
    all_goals decide

lemma parseCsvLoop_last (hlast : row ≠ []) : parseCsvLoop rows [] [] false (csvLine row) = rows ++ [row] ↔
      row ≠ [[]] ∧ ∀ text, row.getLast? = some text → text.getLast? ≠ some '\r' := by
  obtain ⟨cells, text, rfl⟩ : ∃ cells text, row = cells ++ [text] :=
    ⟨_, _, (List.dropLast_append_getLast hlast).symm⟩
  have hread : parseCsvLoop rows [] [] false (csvLine (cells ++ [text]) ++ []) =
      parseCsvLoop rows ([] ++ cells) text false [] := parseCsvLoop_csvLine cells (by decide)
  rw [List.append_nil] at hread
  rw [hread, List.nil_append, parseCsvLoop, List.getLast?_concat]
  simp only [Option.some.injEq, forall_eq']
  by_cases hempty : text ≠ [] ∨ cells ≠ []
  · have hcells : cells ++ [text] ≠ [[]] := by
      rw [← List.nil_append [[]], ne_eq, List.append_singleton_inj]
      rintro ⟨rfl, rfl⟩
      exact hempty.elim (absurd rfl) (absurd rfl)
    rw [if_pos hempty, List.append_cancel_left_eq, List.cons.injEq, List.append_singleton_inj,
      stripReturn_eq_self]
    tauto
  · obtain ⟨htext, hcells⟩ := not_or.mp hempty
    rw [not_not.mp htext, not_not.mp hcells, if_neg (by decide)]
    exact iff_of_false (fun h => absurd (congrArg List.length h) (by simp)) (fun h => h.1 rfl)

/-- The last row of the table, which is the header where there are no rows. -/
def lastRow {α : Type} (string : α → Text) (headers : List Text) (rows : List (List (Option α))) : List Text :=
  (rows.getLast?.map fun row => row.map (cellText string)).getD headers

theorem parseCsvRows_toCsv_iff {α : Type} (string : α → Text) (headers : List Text)
    (rows : List (List (Option α))) (hheaders : headers ≠ [])
    (hrows : ∀ row ∈ rows, row.length = headers.length) :
    parseCsvRows (toCsv string headers rows) = headers :: rows.map (fun row => row.map (cellText string)) ↔
      lastRow string headers rows ≠ [[]] ∧
        ∀ text, (lastRow string headers rows).getLast? = some text → text.getLast? ≠ some '\r' := by
  have hcells : ∀ row ∈ rows.map (fun row => row.map (cellText string)), row ≠ [] := by
    refine List.forall_mem_map.mpr fun row hrow h => hheaders ?_
    rw [List.map_eq_nil_iff.mp h] at hrow
    exact List.length_eq_zero_iff.mp (hrows _ hrow).symm
  have hlines : toCsv string headers rows = ['\r', '\n'].intercalate
      ((headers :: rows.map fun row => row.map (cellText string)).map csvLine) := by
    rw [toCsv, List.map_cons, List.map_map]
    rfl
  have hlast : (headers :: rows.map fun row => row.map (cellText string)).getLast? =
      some (lastRow string headers rows) := by
    rw [List.getLast?_cons, List.getLast?_map]
    rfl
  obtain ⟨before, hbefore⟩ : ∃ before, headers :: rows.map (fun row => row.map (cellText string)) =
      before ++ [lastRow string headers rows] := List.getLast?_eq_some_iff.mp hlast
  have hall : ∀ cells ∈ before ++ [lastRow string headers rows], cells ≠ [] := by
    rw [← hbefore]
    exact List.forall_mem_cons.mpr ⟨hheaders, hcells⟩
  rw [parseCsvRows, hlines, hbefore,
    parseCsvLoop_lines _ _ fun cells h => hall cells (List.mem_append_left _ h)]
  exact parseCsvLoop_last (hall _ List.mem_concat_self)

theorem parseCsvRows_toCsv_pair :
    parseCsvRows (toCsv id ["a".toList, "b\"".toList] [[some ",\r".toList, none]]) =
      ["a".toList, "b\"".toList] :: [[some ",\r".toList, none]].map (fun row => row.map (cellText id)) :=
  (parseCsvRows_toCsv_iff id _ _ (by decide) (by decide)).mpr (by decide)

theorem not_parseCsvRows_toCsv_empty :
    parseCsvRows (toCsv id ["a".toList] [[none]]) ≠
      ["a".toList] :: [[none]].map (fun row => row.map (cellText id)) := by
  decide

end Mayatoko.Reports
