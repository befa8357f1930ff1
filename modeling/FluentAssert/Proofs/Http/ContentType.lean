import Mathlib.Data.List.TakeWhile
import FluentAssert.Http.ContentType
import FluentAssert.Proofs.Text.Split

/-! Content types as they are written: parts between semicolons, with white space around every part
and on both sides of an equals sign. Reading one finds the media type and the first character set.
-/
namespace FluentAssert

open FluentAssert.Text

namespace Text

section Trimming

variable {p : Char → Bool} {before text after : List Char}

/-- Nothing is to be trimmed off a text. -/
structure Trimmed (p : Char → Bool) (text : List Char) : Prop where
  first : text.head?.any p = false
  last : text.getLast?.any p = false

theorem Trimmed.of_forall (other : ∀ c ∈ text, p c = false) : Trimmed p text := by
  constructor
  · cases first : text.head? with
    | none => rfl
    | some c => exact other c (List.mem_of_head? first)
  · cases last : text.getLast? with
    | none => rfl
    | some c => exact other c (List.mem_of_getLast? last)

theorem dropWhile_past (front : ∀ c ∈ before, p c = true) (stop : text.head?.any p = false) :
    (before ++ text).dropWhile p = text := by
  rw [List.dropWhile_append_of_pos front]
  cases text with
  | nil => rfl
  | cons c text => exact List.dropWhile_cons_of_neg (by simpa using stop)

theorem trimBy_around (front : ∀ c ∈ before, p c = true) (back : ∀ c ∈ after, p c = true)
    (trimmed : Trimmed p text) : trimBy p (before ++ text ++ after) = text := by
  unfold trimBy
  cases text with
  | nil =>
    -- Without a text between them, the margins are one.
    have margins : ∀ c ∈ before ++ after, p c = true := List.forall_mem_append.mpr ⟨front, back⟩
    have none : (before ++ after ++ []).dropWhile p = [] := dropWhile_past margins rfl
    simp only [List.append_nil] at none ⊢
    simp [none]
  | cons c text =>
    have back : ∀ c ∈ after.reverse, p c = true := by simpa using back
    have stop : (c :: text ++ after).head?.any p = false := trimmed.first
    have last : (c :: text).reverse.head?.any p = false := by
      rw [List.head?_reverse]
      exact trimmed.last
    rw [List.append_assoc, dropWhile_past front stop, List.reverse_append, dropWhile_past back last,
      List.reverse_reverse]

end Trimming

end Text

namespace Http.ContentType

/-- White space before and after a part. -/
structure Margins where
  before : List Char
  after : List Char
  blank : (before ++ after).all isBlank = true

namespace Margins

variable (margins : Margins) {text : List Char}

def around (text : List Char) : List Char := margins.before ++ text ++ margins.after

theorem trim_around (trimmed : Trimmed isBlank text) : trimBy isBlank (margins.around text) = text := by
  have blank := List.forall_mem_append.mp (List.all_eq_true.mp margins.blank)
  exact trimBy_around blank.1 blank.2 trimmed

theorem not_mem_around {c : Char} (visible : isBlank c = false) (other : c ∉ text) :
    c ∉ margins.around text := by
  have blank := List.all_eq_true.mp margins.blank c
  simp [around, other]
  grind

end Margins

/-- A media type, or a name or a value of a parameter. -/
structure Token where
  chars : List Char
  noSemicolon : ';' ∉ chars
  noQuote : '"' ∉ chars
  trimmed : Trimmed isBlank chars

def Token.text (token : Token) : String := String.ofList token.chars

inductive Parameter where
  | named (name value : Token) (noEquals : '=' ∉ name.chars) (inQuotes : Bool)
      (aroundName aroundValue : Margins)
  /-- No parameter, whatever else it holds. White space around it is part of it. -/
  | word (chars : List Char) (noEquals : '=' ∉ chars)

namespace Parameter

def quotes (inQuotes : Bool) : List Char := if inQuotes then ['"'] else []

def written : Parameter → List Char
  | named name value _ inQuotes aroundName aroundValue =>
    aroundName.around name.chars ++
      '=' :: aroundValue.around (quotes inQuotes ++ value.chars ++ quotes inQuotes)
  | word chars _ => chars

/-- The value of a parameter that is named for the character set, in whichever case. -/
def charset? : Parameter → Option String
  | named name value .. => if lowercaseAscii name.text = "charset" then some value.text else none
  | word .. => none

end Parameter

def written (around : Margins) (media : Token) (parameters : List Parameter) : String :=
  String.ofList ([';'].intercalate (around.around media.chars :: parameters.map Parameter.written))

theorem splitParameter_named {name value : List Char} (noEquals : '=' ∉ name) :
    splitParameter (name ++ '=' :: value) = some (name, value) := by
  have front : ∀ c ∈ name, (c != '=') = true := by
    intro c inside
    rw [bne_iff_ne]
    rintro rfl
    exact noEquals inside
  unfold splitParameter
  rw [dropWhile_past front (by simp), List.takeWhile_append_of_pos front]
  simp

theorem charsetOf_bare {chars : List Char} (noEquals : '=' ∉ chars) : charsetOf chars = none := by
  have none : chars.dropWhile (· != '=') = [] := by
    simp only [List.dropWhile_eq_nil_iff, bne_iff_ne]
    rintro c inside rfl
    exact noEquals inside
  simp [charsetOf, splitParameter, none]

theorem trimmed_quoted (inQuotes : Bool) (value : Token) :
    Trimmed isBlank (Parameter.quotes inQuotes ++ value.chars ++ Parameter.quotes inQuotes) := by
  cases inQuotes with
  | false => simpa [Parameter.quotes] using value.trimmed
  | true =>
    have visible : isBlank '"' = false := by decide
    constructor <;> simp [Parameter.quotes, List.getLast?_cons, visible]

theorem trim_quotes (inQuotes : Bool) (value : Token) :
    trimBy (· == '"') (Parameter.quotes inQuotes ++ value.chars ++ Parameter.quotes inQuotes) =
      value.chars := by
  have quoted : ∀ c ∈ Parameter.quotes inQuotes, (c == '"') = true := by
    cases inQuotes <;> simp [Parameter.quotes]
  have other : ∀ c ∈ value.chars, (c == '"') = false := by
    intro c inside
    rw [beq_eq_false_iff_ne]
    rintro rfl
    exact value.noQuote inside
  exact trimBy_around quoted quoted (.of_forall other)

theorem charsetOf_written (parameter : Parameter) :
    charsetOf parameter.written = parameter.charset? := by
  cases parameter with
  | word chars noEquals => exact charsetOf_bare noEquals
  | named name value noEquals inQuotes aroundName aroundValue =>
    have visible : isBlank '=' = false := by decide
    have lower : lowercaseAscii "charset" = "charset" := by decide +kernel
    simp only [Parameter.written, charsetOf,
      splitParameter_named (aroundName.not_mem_around visible noEquals),
      aroundName.trim_around name.trimmed, aroundValue.trim_around (trimmed_quoted inQuotes value),
      trim_quotes, Parameter.charset?, equalIgnoringAsciiCase, lower, beq_iff_eq]
    rfl

theorem semicolon_not_mem_written {name value : Token} (noEquals : '=' ∉ name.chars)
    (inQuotes : Bool) (aroundName aroundValue : Margins) :
    ';' ∉ (Parameter.named name value noEquals inQuotes aroundName aroundValue).written := by
  have visible : isBlank ';' = false := by decide
  have quoted : ';' ∉ Parameter.quotes inQuotes ++ value.chars ++ Parameter.quotes inQuotes := by
    cases inQuotes <;> simp [Parameter.quotes, value.noSemicolon]
  have front := aroundName.not_mem_around visible name.noSemicolon
  have back := aroundValue.not_mem_around visible quoted
  simp [Parameter.written, front] at back ⊢
  exact back

theorem findSome?_split (parameter : Parameter) :
    (parameter.written.splitOn ';').findSome? charsetOf = parameter.charset? := by
  cases parameter with
  | named name value noEquals inQuotes aroundName aroundValue =>
    rw [List.splitOn_eq_singleton (semicolon_not_mem_written noEquals _ _ _), List.findSome?_singleton,
      charsetOf_written]
  | word chars noEquals =>
    apply List.findSome?_eq_none_iff.mpr
    intro piece found
    exact charsetOf_bare fun inside => noEquals (of_mem_splitOn found inside).1

theorem findSome?_parts (parameters : List Parameter) :
    (parameters.flatMap fun parameter => parameter.written.splitOn ';').findSome? charsetOf =
      parameters.findSome? Parameter.charset? := by
  induction parameters with
  | nil => rfl
  | cons parameter rest ih =>
    rw [List.flatMap_cons, List.findSome?_append, findSome?_split, ih, List.findSome?_cons]
    cases parameter.charset? <;> rfl

theorem parse_join (around : Margins) (media : Token) (parameters : List Parameter) :
    parse (written around media parameters) =
      ⟨media.text, parameters.findSome? Parameter.charset?⟩ := by
  have visible : isBlank ';' = false := by decide
  have whole : ';' ∉ around.around media.chars := around.not_mem_around visible media.noSemicolon
  have parts : (written around media parameters).toList.splitOn ';' = around.around media.chars ::
      parameters.flatMap fun parameter => parameter.written.splitOn ';' := by
    rw [written, String.toList_ofList, splitOn_join (List.cons_ne_nil _ _), List.flatMap_cons,
      List.splitOn_eq_singleton whole, List.flatMap_map]
    rfl
  rw [parse, parts]
  simp only [around.trim_around media.trimmed, findSome?_parts]
  rfl

/-- A header is read as it is written: its media type, and the first parameter that is named for the
character set. What is no parameter may stand anywhere, and later character sets change nothing. -/
theorem parse_written (around : Margins) (media : Token) :
    (∀ parameters, parse (written around media parameters) =
      ⟨media.text, parameters.findSome? Parameter.charset?⟩) ∧
    (∀ front back chars noEquals,
      parse (written around media (front ++ .word chars noEquals :: back)) =
        parse (written around media (front ++ back))) ∧
    ∀ front charset later, charset.charset?.isSome = true →
      parse (written around media (front ++ charset :: later)) =
        parse (written around media (front ++ [charset])) := by
  refine ⟨parse_join around media, fun front back chars noEquals => ?_,
    fun front charset later named => ?_⟩
  · simp [parse_join, List.findSome?_cons, Parameter.charset?]
  · obtain ⟨value, named⟩ := Option.isSome_iff_exists.mp named
    simp [parse_join, named]

/-- Only the first of two character sets is read, in quotes and with an equals sign of its own. -/
theorem parse_written_repeated :
    let around : Margins := ⟨[' '], ['\t'], by decide⟩
    let media : Token := ⟨['a', '/', 'b'], by decide, by decide, ⟨by decide, by decide⟩⟩
    let name : Token := ⟨['C', 'h', 'a', 'r', 's', 'e', 'T'], by decide, by decide,
      ⟨by decide, by decide⟩⟩
    let value : Token := ⟨['x', '=', 'y'], by decide, by decide, ⟨by decide, by decide⟩⟩
    let word : Parameter := .word ['q'] (by decide)
    let charset : Parameter := .named name value (by decide) true around around
    let later : Parameter := .named name media (by decide) false around around
    charset.charset?.isSome = true ∧
      written around media [word, charset, later] =
        " a/b\t;q; CharseT\t= \"x=y\"\t; CharseT\t= a/b\t" ∧
      parse (written around media [word, charset, later]) = ⟨"a/b", some "x=y"⟩ := by
  intro around media name value word charset later
  have named : charset.charset?.isSome = true := by decide +kernel
  obtain ⟨whole, -, first⟩ := parse_written around media
  refine ⟨named, by decide +kernel, ?_⟩
  rw [show [word, charset, later] = [word] ++ charset :: [later] from rfl, first _ _ _ named, whole]
  decide +kernel

end Http.ContentType
end FluentAssert
