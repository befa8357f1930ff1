import Mathlib.Data.List.DropRight
import FluentAssert.Message
import FluentAssert.Proofs.Json.Printed
import FluentAssert.Proofs.LineDiff.Sides
import FluentAssert.Proofs.Text.Lines

/-! The diff in a message. Every line of it is a tag and a line of one of the two values, or of
both, so both values are read off it line by line, however they are cut above it. -/
namespace FluentAssert.Message

open FluentAssert.Text

section Values

variable (value : Canonical)

theorem return_not_mem_shown : '\r' ∉ value.shown.pretty.toList := by
  intro inside
  rw [Json.pretty, String.toList_ofList] at inside
  rcases Json.printed_prettyChars 0 value.shown '\r' inside with same | visible
  · exact absurd same (by decide)
  · exact absurd visible (by decide)

theorem shown_unended (container : value.isContainer = true) :
    value.shown.pretty.toList.getLast? ≠ some '\n' := by
  rw [Json.pretty, String.toList_ofList]
  cases value with
  | null | bool | number | text => cases container
  | array items =>
    rw [Canonical.shown, Canonical.document, Json.getLast?_prettyChars_list]
    decide
  | object fields =>
    rw [Canonical.shown, Canonical.document, Json.getLast?_prettyChars_object]
    decide

theorem intercalate_lines_shown (container : value.isContainer = true) :
    "\n".intercalate (lines value.shown.pretty) = value.shown.pretty := by
  have whole := intercalate_lines (return_not_mem_shown value) (shown_unended value container)
  apply String.toList_injective
  rw [String.toList_intercalate, lines, List.map_map]
  simpa [Function.comp_def] using whole

end Values

/-- A line with its tag: `-` for lines of the old side, `+` for lines of the new one, and a blank
for lines of both. -/
structure DiffRow where
  tag : Char
  line : String

namespace DiffRow

def text (row : DiffRow) : String := "    " ++ String.singleton row.tag ++ row.line

/-- The lines of one side: all but those with the tag of the other side. -/
def side (other : Char) (rows : List DiffRow) : List String :=
  (rows.filter fun row => row.tag != other).map line

def IsTag (tag : Char) : Prop := tag = ' ' ∨ tag = '-' ∨ tag = '+'

structure WellFormed (row : DiffRow) : Prop where
  tag : IsTag row.tag
  oneLine : '\n' ∉ row.line.toList
  plain : '\r' ∉ row.line.toList

def ofPiece (tag : Char) (piece : List Char) : DiffRow := ⟨tag, String.ofList (dropLineEnd piece)⟩

def tagOf : LineDiff.Edit (List Char) → Char
  | .keep _ => ' '
  | .delete _ => '-'
  | .insert _ => '+'

def ofEdit (edit : LineDiff.Edit (List Char)) : List DiffRow := edit.items.map (ofPiece (tagOf edit))

def ofScript (script : LineDiff.Script (List Char)) : List DiffRow := script.flatMap ofEdit

theorem isTag_tagOf (edit : LineDiff.Edit (List Char)) : IsTag (tagOf edit) := by
  cases edit with
  | keep => exact .inl rfl
  | delete => exact .inr (.inl rfl)
  | insert => exact .inr (.inr rfl)

theorem side_same (tag : Char) (pieces : List (List Char)) :
    side tag (pieces.map (ofPiece tag)) = [] := by
  simp [side, ofPiece, List.filter_map, Function.comp_def]

theorem side_other {other tag : Char} (differ : tag ≠ other) (pieces : List (List Char)) :
    side other (pieces.map (ofPiece tag)) =
      pieces.map fun piece => String.ofList (dropLineEnd piece) := by
  have kept : (tag != other) = true := bne_iff_ne.mpr differ
  simp [side, ofPiece, List.filter_map, Function.comp_def, kept]

theorem side_ofScript {other : Char} {read : LineDiff.Edit (List Char) → List (List Char)}
    (each : ∀ edit, side other (ofEdit edit) =
      (read edit).map fun piece => String.ofList (dropLineEnd piece))
    (script : LineDiff.Script (List Char)) :
    side other (ofScript script) =
      (script.flatMap read).map fun piece => String.ofList (dropLineEnd piece) := by
  induction script with
  | nil => rfl
  | cons edit rest ih =>
    rw [List.flatMap_cons, List.map_append, ← each, ← ih]
    simp [side, ofScript]

theorem side_old (script : LineDiff.Script (List Char)) : side '+' (ofScript script) =
    script.old.map fun piece => String.ofList (dropLineEnd piece) := by
  refine side_ofScript (fun edit => ?_) script
  cases edit with
  | keep pieces | delete pieces => exact side_other (by simp [tagOf]) pieces
  | insert pieces => exact side_same '+' pieces

theorem side_new (script : LineDiff.Script (List Char)) : side '-' (ofScript script) =
    script.new.map fun piece => String.ofList (dropLineEnd piece) := by
  refine side_ofScript (fun edit => ?_) script
  cases edit with
  | keep pieces | insert pieces => exact side_other (by simp [tagOf]) pieces
  | delete pieces => exact side_same '-' pieces

end DiffRow

/-- A piece of a text without carriage returns. -/
def PlainPiece (piece : List Char) : Prop :=
  ∃ line, '\n' ∉ line ∧ '\r' ∉ line ∧ dropLineEnd piece = line ∧ (piece = line ++ ['\n'] ∨ piece = line)

theorem trim_line {line : List Char} (whole : '\n' ∉ line) :
    (line.reverse.dropWhile (· == '\n')).reverse = line := by
  refine List.rdropWhile_eq_self_iff.mpr fun some ended => ?_
  exact whole (eq_of_beq ended ▸ List.getLast_mem some)

theorem indent_line {line : List Char} (whole : '\n' ∉ line) (some : line ≠ []) :
    indent 4 (String.ofList line) = "    " ++ String.ofList line := by
  have one : lines (String.ofList line) = [String.ofList line] := by
    rw [lines, String.toList_ofList, pieces_last whole some, List.map_singleton, dropLineEnd_line whole]
  rw [indent, one]
  rfl

section Plain

variable {settings : Settings} {tag : Char} {piece : List Char}

theorem DiffRow.ofPiece_wellFormed (known : IsTag tag) (h : PlainPiece piece) :
    (ofPiece tag piece).WellFormed := by
  obtain ⟨line, whole, plain, dropped, -⟩ := h
  refine ⟨known, ?_, ?_⟩
  · rwa [ofPiece, String.toList_ofList, dropped]
  · rwa [ofPiece, String.toList_ofList, dropped]

theorem trim_piece (h : PlainPiece piece) :
    (piece.reverse.dropWhile (· == '\n')).reverse = dropLineEnd piece := by
  obtain ⟨line, whole, -, dropped, shape⟩ := h
  rw [dropped]
  rcases shape with rfl | rfl
  · rw [List.reverse_concat]
    exact trim_line whole
  · exact trim_line whole

theorem diffLine_plain (plain : settings.colors = false) (known : DiffRow.IsTag tag)
    (h : PlainPiece piece) :
    diffLine settings tag piece = (DiffRow.ofPiece tag piece).text ++ "\n" := by
  have trimmed := trim_piece h
  obtain ⟨line, whole, -, dropped, -⟩ := h
  rw [dropped] at trimmed
  have unpainted (color text : String) : paint settings color text = text := by
    simp [paint, plain]
  have row : (DiffRow.ofPiece tag piece).text = "    " ++ String.ofList (tag :: line) := by
    rw [DiffRow.ofPiece, dropped]
    apply String.toList_injective
    simp [DiffRow.text]
  have one : '\n' ∉ tag :: line := by
    rcases known with rfl | rfl | rfl <;> simpa using whole
  rw [row, ← indent_line one (List.cons_ne_nil tag line)]
  simp only [diffLine, trimmed, unpainted]
  rcases known with rfl | rfl | rfl <;> rfl

theorem editText_items (settings : Settings) (edit : LineDiff.Edit (List Char)) :
    editText settings edit =
      String.join (edit.items.map (diffLine settings (DiffRow.tagOf edit))) := by
  cases edit <;> rfl

theorem editText_plain (plain : settings.colors = false) {edit : LineDiff.Edit (List Char)}
    (all : ∀ piece ∈ edit.items, PlainPiece piece) :
    editText settings edit = String.join ((DiffRow.ofEdit edit).map fun row => row.text ++ "\n") := by
  rw [editText_items, DiffRow.ofEdit, List.map_map]
  congr 1
  exact List.map_congr_left fun piece inside =>
    diffLine_plain plain (DiffRow.isTag_tagOf edit) (all piece inside)

end Plain

section Rows

variable (actual expected : Canonical)

def diffRows : List DiffRow := DiffRow.ofScript (diffScript actual expected)

theorem diffScript_between : (diffScript actual expected).Between
    (pieces actual.shown.pretty.toList) (pieces expected.shown.pretty.toList) :=
  (LineDiff.settle_sides _).trans (LineDiff.shortestScript_between _ _)

theorem diffScript_piece {edit : LineDiff.Edit (List Char)} (used : edit ∈ diffScript actual expected)
    {piece : List Char} (inside : piece ∈ edit.items) :
    piece ∈ pieces actual.shown.pretty.toList ∨ piece ∈ pieces expected.shown.pretty.toList := by
  obtain ⟨old, new⟩ := Prod.mk.inj (diffScript_between actual expected)
  rw [← old, ← new]
  cases edit with
  | keep | delete => exact .inl (List.mem_flatMap.mpr ⟨_, used, inside⟩)
  | insert => exact .inr (List.mem_flatMap.mpr ⟨_, used, inside⟩)

theorem diffScript_plain {edit : LineDiff.Edit (List Char)} (used : edit ∈ diffScript actual expected)
    {piece : List Char} (inside : piece ∈ edit.items) : PlainPiece piece := by
  rcases diffScript_piece actual expected used inside with found | found
  · exact exists_line (return_not_mem_shown actual) found
  · exact exists_line (return_not_mem_shown expected) found

theorem diffRows_wellFormed {row : DiffRow} (inside : row ∈ diffRows actual expected) :
    row.WellFormed := by
  obtain ⟨edit, used, row_of⟩ := List.mem_flatMap.mp inside
  obtain ⟨piece, found, rfl⟩ := List.mem_map.mp row_of
  exact DiffRow.ofPiece_wellFormed (DiffRow.isTag_tagOf edit)
    (diffScript_plain actual expected used found)

theorem side_diffRows_old : DiffRow.side '+' (diffRows actual expected) =
    lines actual.shown.pretty := by
  rw [diffRows, DiffRow.side_old, (Prod.mk.inj (diffScript_between actual expected)).1, lines]

theorem side_diffRows_new : DiffRow.side '-' (diffRows actual expected) =
    lines expected.shown.pretty := by
  rw [diffRows, DiffRow.side_new, (Prod.mk.inj (diffScript_between actual expected)).2, lines]

theorem diffText_plain {settings : Settings} (plain : settings.colors = false) :
    diffText settings actual expected =
      String.join ((diffRows actual expected).map fun row => row.text ++ "\n") := by
  have each : (diffScript actual expected).map (editText settings) =
      (diffScript actual expected).map fun edit =>
        String.join ((DiffRow.ofEdit edit).map fun row => row.text ++ "\n") :=
    List.map_congr_left fun edit used =>
      editText_plain plain fun piece inside => diffScript_plain actual expected used inside
  rw [diffText, each]
  apply String.toList_injective
  simp [diffRows, DiffRow.ofScript, String.toList_join, List.flatMap_map, List.map_flatMap,
    List.flatMap_assoc]

end Rows

theorem DiffRow.WellFormed.text_plain {row : DiffRow} (formed : row.WellFormed) :
    '\n' ∉ row.text.toList ∧ '\r' ∉ row.text.toList := by
  obtain ⟨tag, line⟩ := row
  obtain ⟨known, oneLine, plain⟩ := formed
  have written : (DiffRow.text ⟨tag, line⟩).toList = [' ', ' ', ' ', ' ', tag] ++ line.toList := by
    simp [DiffRow.text]
  rw [written]
  rcases known with rfl | rfl | rfl <;> simpa using ⟨oneLine, plain⟩

theorem lines_join {rows : List DiffRow} (formed : ∀ row ∈ rows, row.WellFormed) :
    lines (String.join (rows.map fun row => row.text ++ "\n")) = rows.map DiffRow.text := by
  have whole : ∀ row ∈ rows.map (·.text.toList), '\n' ∉ row ∧ '\r' ∉ row :=
    List.forall_mem_map.mpr fun row inside => (formed row inside).text_plain
  have written : (String.join (rows.map fun row => row.text ++ "\n")).toList =
      (rows.map (·.text.toList)).flatMap (· ++ ['\n']) := by
    simp [String.toList_join, List.flatMap_map]
  have read := congrArg (List.map String.ofList) (lines_written _ whole)
  rw [lines, written]
  simpa [List.map_map, Function.comp_def] using read

theorem failure_split (settings : Settings) (outcome : Outcome) :
    failure settings outcome = failure { settings with showDiff := false } outcome ++
      ifPresent (diffSides? settings outcome.finding) fun (actual, expected) =>
        "  " ++ paint settings yellow "diff:" ++ "\n" ++ diffText settings actual expected := by
  have without : diffSides? { settings with showDiff := false } outcome.finding = none := by
    simp [diffSides?]
  have bare {α : Type} (render : α → String) : ifPresent none render = "" := rfl
  conv_rhs => rw [failure, without, bare, String.append_empty]
  rfl

/-- Both sides of a diff are read off its lines. The message without a diff ends where the diff
begins, and whatever the values were cut to there, the lines of the diff are all lines of the two
values, each with its tag. -/
theorem failure_diff (actual expected : Canonical) (container : actual.isContainer = true)
    (container' : expected.isContainer = true) : ∃ rows : List DiffRow,
    (∀ row ∈ rows, row.WellFormed) ∧
    (DiffRow.side '+' rows = lines actual.shown.pretty ∧
      "\n".intercalate (DiffRow.side '+' rows) = actual.shown.pretty) ∧
    (DiffRow.side '-' rows = lines expected.shown.pretty ∧
      "\n".intercalate (DiffRow.side '-' rows) = expected.shown.pretty) ∧
    ∀ (settings : Settings) (outcome : Outcome), settings.showDiff = true →
      settings.colors = false → outcome.finding.kind = .equal →
      outcome.finding.actual = some actual → outcome.finding.expected = [expected] →
      ∃ told : String,
        failure settings outcome =
          failure { settings with showDiff := false } outcome ++ "  diff:\n" ++ told ∧
        lines told = rows.map DiffRow.text ∧
        told = String.join (rows.map fun row => row.text ++ "\n") := by
  refine ⟨diffRows actual expected, fun row => diffRows_wellFormed actual expected, ⟨?_, ?_⟩,
    ⟨?_, ?_⟩, ?_⟩
  · exact side_diffRows_old actual expected
  · rw [side_diffRows_old, intercalate_lines_shown actual container]
  · exact side_diffRows_new actual expected
  · rw [side_diffRows_new, intercalate_lines_shown expected container']
  · intro settings outcome shows plain kind actually expects
    refine ⟨_, ?_, lines_join fun row => diffRows_wellFormed actual expected, rfl⟩
    have sides : diffSides? settings outcome.finding = some (actual, expected) := by
      simp [diffSides?, shows, kind, actually, expects, container, container']
    have label : "  " ++ paint settings yellow "diff:" ++ "\n" = "  diff:\n" := by
      rw [paint, plain]
      rfl
    rw [failure_split, sides]
    show _ ++ ("  " ++ paint settings yellow "diff:" ++ "\n" ++ diffText settings actual expected) = _
    rw [label, diffText_plain actual expected plain, String.append_assoc]

/-- Line breaks inside of strings break no lines, and the values above the diff may be cut short. -/
theorem failure_diff_cut :
    let actual := Canonical.object [("a\nb", .text "+\r\n-")]
    let expected := Canonical.object []
    let settings : Settings := { truncateAt := 4 }
    let outcome : Outcome :=
      ⟨⟨none, [], ⟨0⟩⟩, ⟨.equal, some actual, [expected], none, ["expected: values are equal"]⟩⟩
    ∃ rows : List DiffRow,
      DiffRow.side '+' rows = ["\x7b", "  \"a\\nb\": \"+\\r\\n-\"", "\x7d"] ∧
      DiffRow.side '-' rows = ["\x7b\x7d"] ∧
      ∃ told : String,
        failure settings outcome =
          failure { settings with showDiff := false } outcome ++ "  diff:\n" ++ told ∧
        lines told = rows.map DiffRow.text := by
  intro actual expected settings outcome
  obtain ⟨rows, -, ⟨old, -⟩, ⟨new, -⟩, messages⟩ := failure_diff actual expected rfl rfl
  obtain ⟨told, message, read, -⟩ := messages settings outcome rfl rfl rfl rfl rfl
  exact ⟨rows, old.trans (by decide +kernel), new.trans (by decide +kernel), told, message, read⟩

end FluentAssert.Message
