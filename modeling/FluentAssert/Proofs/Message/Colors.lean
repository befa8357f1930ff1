import FluentAssert.Proofs.Message.Diff
import FluentAssert.Proofs.Message.Parts
import FluentAssert.Proofs.Text.Split

/-! Colors in messages. They are codes around single texts, none of which goes over a line end, and
the codes are all that they add. -/
namespace FluentAssert.Message

open FluentAssert.Text

def escape : Char := '\x1b'

def codes : List String := [red, green, yellow, cyan, reset]

/-- A text without the codes in it, from the left. -/
def withoutCodes : List Char → List Char
  | [] => []
  | c :: rest =>
    match codes.find? fun code => code.toList.isPrefixOf (c :: rest) with
    | some code => withoutCodes (rest.drop (code.toList.length - 1))
    | none => c :: withoutCodes rest
termination_by text => text.length
decreasing_by
  all_goals
    simp only [List.length_drop, List.length_cons]
    omega

section Codes

variable {code : String} {c : Char} {plain colored plain' colored' text : List Char}

theorem withoutCodes_code (known : code ∈ codes) (rest : List Char) :
    withoutCodes (code.toList ++ rest) = withoutCodes rest := by
  simp only [codes, List.mem_cons, List.not_mem_nil, or_false] at known
  rcases known with rfl | rfl | rfl | rfl | rfl
  all_goals simp [withoutCodes, codes, red, green, yellow, cyan, reset]

theorem withoutCodes_char (other : c ≠ escape) (rest : List Char) :
    withoutCodes (c :: rest) = c :: withoutCodes rest := by
  have other : ¬ '\x1b' = c := fun same => other same.symm
  have none : (codes.find? fun code => code.toList.isPrefixOf (c :: rest)) = none := by
    simp [codes, red, green, yellow, cyan, reset, other]
  rw [withoutCodes, none]

theorem newline_not_mem_code (known : code ∈ codes) : '\n' ∉ code.toList := by
  simp only [codes, List.mem_cons, List.not_mem_nil, or_false] at known
  rcases known with rfl | rfl | rfl | rfl | rfl
  all_goals decide

-- `withoutCodes` does not go through `++`, since two texts can make a code between them. So texts in
-- colors are told by how they are put together.
/-- The second text is the first one with codes put in. -/
inductive Colored : List Char → List Char → Prop
  | nil : Colored [] []
  | char {c : Char} {plain colored : List Char} (other : c ≠ escape) :
      Colored plain colored → Colored (c :: plain) (c :: colored)
  | code {code : String} {plain colored : List Char} (known : code ∈ codes) :
      Colored plain colored → Colored plain (code.toList ++ colored)

namespace Colored

theorem same (bare : escape ∉ text) : Colored text text := by
  induction text with
  | nil => exact .nil
  | cons c text ih =>
    have other : c ≠ escape := fun same => bare (same ▸ List.mem_cons_self)
    exact .char other (ih fun later => bare (List.mem_cons_of_mem c later))

theorem append (front : Colored plain colored) (back : Colored plain' colored') :
    Colored (plain ++ plain') (colored ++ colored') := by
  induction front with
  | nil => exact back
  | char other _ ih => exact .char other ih
  | code known _ ih =>
    rw [List.append_assoc]
    exact .code known ih

theorem escape_not_mem (added : Colored plain colored) : escape ∉ plain := by
  induction added with
  | nil => exact List.not_mem_nil
  | char other _ ih => simpa using ⟨Ne.symm other, ih⟩
  | code _ _ ih => exact ih

theorem withoutCodes_eq (added : Colored plain colored) : withoutCodes colored = plain := by
  induction added with
  | nil => simp [withoutCodes]
  | char other _ ih => rw [withoutCodes_char other, ih]
  | code known _ ih => rw [withoutCodes_code known, ih]

theorem lines_eq (added : Colored plain colored) :
    (colored.splitOn '\n').map withoutCodes = plain.splitOn '\n' := by
  induction added with
  | nil => simp [withoutCodes]
  | @char c plain colored other _ ih =>
    rw [List.splitOn_cons_eq_if_modifyHead, List.splitOn_cons_eq_if_modifyHead, ← ih]
    split
    · simp [withoutCodes]
    · cases colored.splitOn '\n' with
      | nil => rfl
      | cons first more => simp [withoutCodes_char other]
  | @code code plain colored known _ ih =>
    rw [splitOn_append (newline_not_mem_code known), ← ih]
    cases colored.splitOn '\n' with
    | nil => rfl
    | cons first more => simp [withoutCodes_code known]

theorem line (added : Colored plain colored) (whole : '\n' ∉ plain) : '\n' ∉ colored := by
  induction added with
  | nil => exact whole
  | char _ _ ih =>
    simp only [List.mem_cons, not_or] at whole ⊢
    exact ⟨whole.1, ih whole.2⟩
  | code known _ ih => simpa using ⟨newline_not_mem_code known, ih whole⟩

theorem ne_nil (added : Colored plain colored) (some : plain ≠ []) : colored ≠ [] := by
  induction added with
  | nil => exact some
  | char => exact List.cons_ne_nil _ _
  | code _ _ ih => simp [ih some]

end Colored

end Codes

/-- A text, and the same text in colors. -/
def Paints (plain colored : String) : Prop := Colored plain.toList colored.toList

def Plain (text : String) : Prop := escape ∉ text.toList

instance (text : String) : Decidable (Plain text) := inferInstanceAs (Decidable (escape ∉ text.toList))

section Texts

variable {text plain colored plain' colored' : String}

@[simp] theorem plain_append : Plain (text ++ plain) ↔ Plain text ∧ Plain plain := by
  simp [Plain]

theorem Plain.paints (bare : Plain text) : Paints text text := Colored.same bare

theorem Plain.intercalate {separator : String} {parts : List String} (bare : Plain separator)
    (each : ∀ part ∈ parts, Plain part) : Plain (separator.intercalate parts) := by
  intro inside
  rw [String.toList_intercalate] at inside
  rcases mem_intercalate inside with inside | ⟨_, listed, inside⟩
  · exact bare inside
  · obtain ⟨part, found, rfl⟩ := List.mem_map.mp listed
    exact each part found inside

theorem Plain.indent (bare : Plain text) (width : Nat) : Plain (indent width text) := by
  refine Plain.intercalate (by decide) (List.forall_mem_map.mpr fun line listed => ?_)
  obtain ⟨piece, found, rfl⟩ := List.mem_map.mp listed
  refine plain_append.mpr ⟨fun inside => ?_, fun inside => ?_⟩
  · rw [String.toList_ofList] at inside
    exact absurd (List.eq_of_mem_replicate inside) (by decide)
  · rw [String.toList_ofList] at inside
    exact bare (mem_of_mem_piece found (mem_of_mem_dropLineEnd inside))

namespace Paints

theorem append (front : Paints plain colored) (back : Paints plain' colored') :
    Paints (plain ++ plain') (colored ++ colored') := by
  simpa [Paints] using Colored.append front back

theorem before (front : Paints plain colored) (bare : Plain text) :
    Paints (plain ++ text) (colored ++ text) :=
  front.append bare.paints

theorem after (bare : Plain text) (back : Paints plain colored) :
    Paints (text ++ plain) (text ++ colored) :=
  bare.paints.append back

theorem join {α : Type} {items : List α} {f g : α → String}
    (each : ∀ item ∈ items, Paints (f item) (g item)) :
    Paints (String.join (items.map f)) (String.join (items.map g)) := by
  induction items with
  | nil => exact Plain.paints (show Plain "" by decide)
  | cons item items ih =>
    obtain ⟨first, later⟩ := List.forall_mem_cons.mp each
    simpa [Paints, String.toList_join] using first.append (ih later)

theorem ifPresent {α : Type} {part : Option α} {f g : α → String}
    (each : ∀ item ∈ part, Paints (f item) (g item)) :
    Paints (ifPresent part f) (ifPresent part g) := by
  cases part with
  | none => exact Plain.paints (show Plain "" by decide)
  | some item => exact each item rfl

theorem paint (settings : Settings) {color : String} (known : color ∈ codes) (bare : Plain text) :
    Paints (paint { settings with colors := false } color text)
      (paint { settings with colors := true } color text) := by
  have ends : Colored [] reset.toList := by
    simpa using Colored.code (show reset ∈ codes by decide) .nil
  have painted := Colored.code known (Colored.append bare.paints ends)
  simpa [Paints, Message.paint] using painted

theorem label (settings : Settings) (bare : Plain text) :
    Paints ("  " ++ Message.paint { settings with colors := false } yellow text)
      ("  " ++ Message.paint { settings with colors := true } yellow text) :=
  after (by decide) (paint settings (by decide) bare)

theorem indent (added : Paints plain colored) (whole : '\n' ∉ plain.toList) (some : plain ≠ "") :
    Paints (indent 4 plain) (indent 4 colored) := by
  have some : plain.toList ≠ [] := by simpa using some
  have plainly := indent_line whole some
  have coloredly := indent_line (Colored.line added whole) (Colored.ne_nil added some)
  rw [String.ofList_toList] at plainly coloredly
  rw [plainly, coloredly]
  exact after (by decide) added

theorem labeled (label : Paints plain colored) (bare : Plain text) :
    Paints (labeled plain text) (labeled colored text) := by
  have front := after (show Plain "  " by decide) label
  unfold Message.labeled
  split
  · exact ((front.before (by decide)).before (bare.indent 4)).before (by decide)
  · exact ((front.before (by decide)).before bare).before (by decide)

end Paints

end Texts

theorem escape_not_mem_printed {chars : List Char} (printed : Json.Printed chars) : escape ∉ chars := by
  intro inside
  rcases printed escape inside with same | visible
  · exact absurd same (by decide)
  · exact absurd visible (by decide)

theorem plain_pretty (value : Canonical) : Plain value.shown.pretty := by
  rw [Plain, Json.pretty, String.toList_ofList]
  exact escape_not_mem_printed (Json.printed_prettyChars 0 value.shown)

theorem plain_compact {value : Canonical} (scalar : value.isContainer = false) :
    Plain value.shown.compact := by
  have chars : value.shown.compactChars = value.shown.scalarChars := by
    cases value with
    | array | object => cases scalar
    | null | bool | text => rfl
    | number x =>
      simp only [Canonical.shown, Canonical.document, Canonical.shownNumber, Canonical.plainNumber]
      repeat' split
      all_goals rfl
  rw [Plain, Json.compact, String.toList_ofList, chars]
  exact escape_not_mem_printed (Json.printable_scalarChars value.shown).printed

theorem plain_valueText (settings : Settings) (value : Canonical) :
    Plain (valueText settings value) := by
  have full : Plain (fullText value) := by
    unfold fullText
    split
    · exact plain_pretty value
    · rename_i scalar
      exact plain_compact (by simpa using scalar)
  unfold valueText truncate
  split
  · exact full
  · refine plain_append.mpr ⟨fun inside => ?_, by decide⟩
    rw [String.toList_ofList] at inside
    exact full (List.mem_of_mem_take inside)

theorem plain_expectedText {settings : Settings} {finding : Finding} {text : String}
    (there : text ∈ expectedText? settings finding) : Plain text := by
  rw [expectedText?_eq] at there
  generalize expectedValues finding = values at there
  rcases values with - | ⟨low, - | ⟨high, rest⟩⟩
  · cases there
  · cases there
    exact plain_valueText settings low
  · cases there
    have brackets : Plain "[" ∧ Plain " .. " ∧ Plain "]" := by decide
    simp [brackets, plain_valueText]

theorem paints_diffLine (settings : Settings) {tag : Char} {piece : List Char}
    (known : DiffRow.IsTag tag) (h : PlainPiece piece) (bare : escape ∉ piece) :
    Paints (diffLine { settings with colors := false } tag piece)
      (diffLine { settings with colors := true } tag piece) := by
  have trimmed := trim_piece h
  obtain ⟨line, whole, -, dropped, -⟩ := h
  have bare : escape ∉ line := fun inside => bare (mem_of_mem_dropLineEnd (dropped ▸ inside))
  unfold diffLine
  rw [trimmed, dropped]
  have text : Plain (String.ofList (tag :: line)) := by
    rcases known with rfl | rfl | rfl <;> simpa [Plain, escape] using bare
  have one : '\n' ∉ (String.ofList (tag :: line)).toList := by
    rcases known with rfl | rfl | rfl <;> simpa using whole
  have some : String.ofList (tag :: line) ≠ "" := by simp
  rcases known with rfl | rfl | rfl
  · exact (text.paints.indent one some).before (by decide)
  · exact ((Paints.paint settings (by decide) text).indent one some).before (by decide)
  · exact ((Paints.paint settings (by decide) text).indent one some).before (by decide)

theorem paints_diffText (settings : Settings) (actual expected : Canonical) :
    Paints (diffText { settings with colors := false } actual expected)
      (diffText { settings with colors := true } actual expected) := by
  refine Paints.join fun edit used => ?_
  rw [editText_items, editText_items]
  refine Paints.join fun piece inside => ?_
  have bare : escape ∉ piece := by
    intro escaped
    rcases diffScript_piece actual expected used inside with found | found
    · exact plain_pretty actual (mem_of_mem_piece found escaped)
    · exact plain_pretty expected (mem_of_mem_piece found escaped)
  exact paints_diffLine settings (DiffRow.isTag_tagOf edit)
    (diffScript_plain actual expected used inside) bare

theorem plain_title (kind : Kind) : Plain kind.title := by
  cases kind <;> decide

/-- No text that a message takes over as it is has an escape character. The values may. -/
structure Unescaped (outcome : Outcome) : Prop where
  testName : ∀ name ∈ outcome.place.testName, Plain name
  path : ∀ label ∈ outcome.place.path, Plain label
  errors : ∀ error ∈ outcome.finding.errors, Plain error

section Messages

variable (settings : Settings) {outcome : Outcome} (bare : Unescaped outcome)
include bare

theorem plain_path {path : String} (there : path ∈ path? settings outcome.place) : Plain path := by
  unfold path? at there
  split at there
  · cases there
    exact Plain.intercalate (by decide) bare.path
  · cases there

theorem paints_success : Paints (success { settings with colors := false } outcome)
    (success { settings with colors := true } outcome) := by
  have heading := Paints.paint settings (show green ∈ codes by decide)
    (show Plain "assertion passed:" by decide)
  refine ((heading.before (by decide)).before (plain_title _)).append (.ifPresent fun path there => ?_)
  have brackets : Plain " [" ∧ Plain "]" := by decide
  exact Plain.paints (by simp [brackets, plain_path settings bare there])

theorem paints_errors : Paints (errorsText { settings with colors := false } outcome.finding.errors)
    (errorsText { settings with colors := true } outcome.finding.errors) := by
  unfold errorsText
  split
  · exact Plain.paints (by decide)
  · have label := Paints.label settings (show Plain "errors:" by decide)
    refine (label.before (by decide)).append (.join fun error listed => ?_)
    exact (((bare.errors error listed).indent 4).paints).before (by decide)

theorem paints_opening : Paints (opening { settings with colors := false } outcome)
    (opening { settings with colors := true } outcome) := by
  have heading := Paints.paint settings (show red ∈ codes by decide)
    (show Plain "assertion failed:" by decide)
  have title := ((heading.before (show Plain " " by decide)).before
    (plain_title outcome.finding.kind)).before (show Plain "\n" by decide)
  refine ((title.append (.ifPresent fun name there => ?_)).append
    (.ifPresent fun path there => ?_)).append (paints_errors settings bare)
  · have label := Paints.label settings (show Plain "test name:" by decide)
    have plain : Plain name := by
      unfold testName? at there
      split at there
      · exact bare.testName name there
      · cases there
    exact ((label.before (by decide)).before plain).before (by decide)
  · have label := Paints.label settings (show Plain "assertion:" by decide)
    have shown := Paints.paint settings (show cyan ∈ codes by decide) (plain_path settings bare there)
    exact ((label.before (by decide)).append shown).before (by decide)

theorem paints_failure : Paints (failure { settings with colors := false } outcome)
    (failure { settings with colors := true } outcome) := by
  have label (text : String) (plain : Plain text) :=
    Paints.paint settings (show yellow ∈ codes by decide) plain
  rw [failure_parts, failure_parts]
  refine ((((paints_opening settings bare).append ?expected).append ?delta).append ?actual).append ?diff
  case expected =>
    refine .ifPresent fun text there => ?_
    exact (label "expected:" (by decide)).labeled (plain_expectedText there)
  case delta =>
    refine .ifPresent fun delta _ => ?_
    have label := Paints.label settings (show Plain "delta:" by decide)
    have written : Plain (Layout.plain.write delta) :=
      escape_not_mem_printed (Json.printable_write Layout.plain delta).printed
    exact ((label.before (by decide)).before written).before (by decide)
  case actual =>
    refine .ifPresent fun actual _ => ?_
    exact (label "actual:" (by decide)).labeled (plain_valueText settings actual)
  case diff =>
    refine .ifPresent fun sides _ => ?_
    have label := Paints.label settings (show Plain "diff:" by decide)
    exact (label.before (by decide)).append (paints_diffText settings sides.1 sides.2)

end Messages

/-- The second text is the first one but for codes, which stand inside of its lines. -/
structure AddsCodes (plain colored : String) : Prop where
  text : String.ofList (withoutCodes colored.toList) = plain
  lines : (colored.toList.splitOn '\n').map withoutCodes = plain.toList.splitOn '\n'
  bare : Plain plain

theorem Paints.addsCodes {plain colored : String} (added : Paints plain colored) :
    AddsCodes plain colored := by
  refine ⟨?_, Colored.lines_eq added, Colored.escape_not_mem added⟩
  rw [Colored.withoutCodes_eq added, String.ofList_toList]

/-- Without the codes, a message in colors is the message without colors, as a whole and line by
line, and no code is left. -/
theorem colors_added (settings : Settings) (outcome : Outcome) (bare : Unescaped outcome) :
    let plain : Settings := { settings with colors := false }
    let colored : Settings := { settings with colors := true }
    AddsCodes (success plain outcome) (success colored outcome) ∧
      AddsCodes (failure plain outcome) (failure colored outcome) :=
  ⟨(paints_success settings bare).addsCodes, (paints_failure settings bare).addsCodes⟩

/-- Values may hold what looks like codes, as keys and in texts. -/
theorem colors_added_disguised :
    let actual := Canonical.object [("\x1b[31m", .text "\x1b[0m\n")]
    let outcome : Outcome := ⟨⟨some "colors", ["value()", "is_equal()"], ⟨0⟩⟩,
      ⟨.equal, some actual, [.object []], none, ["expected: values are equal"]⟩⟩
    Unescaped outcome ∧
      String.ofList (withoutCodes (failure { colors := true } outcome).toList) =
        failure { colors := false } outcome := by
  intro actual outcome
  have bare : Unescaped outcome := by
    constructor
    · rintro name ⟨rfl⟩
      decide
    · show ∀ label ∈ ["value()", "is_equal()"], Plain label
      decide
    · show ∀ error ∈ ["expected: values are equal"], Plain error
      decide
  exact ⟨bare, (colors_added {} outcome bare).2.text⟩

end FluentAssert.Message
