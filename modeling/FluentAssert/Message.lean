import FluentAssert.Canonical.Document
import FluentAssert.Finding
import FluentAssert.LineDiff.Settle
import FluentAssert.LineDiff.Shortest
import FluentAssert.Message.Settings
import FluentAssert.Text.Lines

/-! Messages for people. A passed check has one line. A failed one tells the test, the path, the
errors, the values and, for two unequal containers, how their lines differ. -/
namespace FluentAssert.Message

open FluentAssert.Text

def red : String := "\x1b[31m"
def green : String := "\x1b[32m"
def yellow : String := "\x1b[33m"
def cyan : String := "\x1b[36m"
def reset : String := "\x1b[0m"

def paint (settings : Settings) (color text : String) : String :=
  if settings.colors then color ++ text ++ reset else text

/-- Cuts a text that is longer than allowed and marks the cut with dots. -/
def truncate (settings : Settings) (text : String) : String :=
  if text.length ≤ settings.truncateAt then text
  else String.ofList (text.toList.take (settings.truncateAt - 3)) ++ "..."

def fullText (value : Canonical) : String :=
  if value.isContainer then value.shown.pretty else value.shown.compact

def valueText (settings : Settings) (value : Canonical) : String :=
  truncate settings (fullText value)

def expectedText? (settings : Settings) (finding : Finding) : Option String :=
  match finding.expected with
  | [] => none
  | [value] => some (valueText settings value)
  | [low, high] =>
    if finding.kind = .inRange ∨ finding.kind = .notInRange then
      some ("[" ++ valueText settings low ++ " .. " ++ valueText settings high ++ "]")
    else some (valueText settings (.array [low, high]))
  | values => some (valueText settings (.array values))

/-- The two containers whose lines are compared, if the message has a diff. -/
def diffSides? (settings : Settings) (finding : Finding) : Option (Canonical × Canonical) :=
  if settings.showDiff ∧ finding.kind = .equal then
    match finding.actual, finding.expected with
    | some actual, [expected] =>
      if actual.isContainer ∧ expected.isContainer then some (actual, expected) else none
    | _, _ => none
  else none

def diffLine (settings : Settings) (tag : Char) (line : List Char) : String :=
  let text := String.ofList (tag :: (line.reverse.dropWhile (· == '\n')).reverse)
  let painted := match tag with
    | '-' => paint settings red text
    | '+' => paint settings green text
    | _ => text
  indent 4 painted ++ "\n"

def editText (settings : Settings) : LineDiff.Edit (List Char) → String
  | .keep lines => String.join (lines.map (diffLine settings ' '))
  | .delete lines => String.join (lines.map (diffLine settings '-'))
  | .insert lines => String.join (lines.map (diffLine settings '+'))

/-- How the lines of `actual` become those of `expected`. -/
def diffScript (actual expected : Canonical) : LineDiff.Script (List Char) :=
  LineDiff.settle
    (LineDiff.shortestScript (pieces actual.shown.pretty.toList) (pieces expected.shown.pretty.toList))

def diffText (settings : Settings) (actual expected : Canonical) : String :=
  String.join ((diffScript actual expected).map (editText settings))

/-- Label and value on one line, or the value as an indented block below the label. -/
def labeled (label value : String) : String :=
  if value.contains '\n' then "  " ++ label ++ "\n" ++ indent 4 value ++ "\n"
  else "  " ++ label ++ " " ++ value ++ "\n"

def ifPresent {α : Type} (part : Option α) (render : α → String) : String :=
  match part with
  | some a => render a
  | none => ""

def path? (settings : Settings) (place : Place) : Option String :=
  if settings.showPath ∧ ¬ place.path.isEmpty then some place.pathText else none

def testName? (settings : Settings) (place : Place) : Option String :=
  if settings.showTestName then place.testName else none

def errorsText (settings : Settings) (errors : List String) : String :=
  if errors.isEmpty then ""
  else "  " ++ paint settings yellow "errors:" ++ "\n" ++
    String.join (errors.map fun error => indent 4 error ++ "\n")

def success (settings : Settings) (outcome : Outcome) : String :=
  paint settings green "assertion passed:" ++ " " ++ outcome.finding.kind.title ++
    ifPresent (path? settings outcome.place) fun path => " [" ++ path ++ "]"

def failure (settings : Settings) (outcome : Outcome) : String :=
  let finding := outcome.finding
  let label := paint settings yellow
  paint settings red "assertion failed:" ++ " " ++ finding.kind.title ++ "\n" ++
    (ifPresent (testName? settings outcome.place) fun name =>
      "  " ++ label "test name:" ++ " " ++ name ++ "\n") ++
    (ifPresent (path? settings outcome.place) fun path =>
      "  " ++ label "assertion:" ++ " " ++ paint settings cyan path ++ "\n") ++
    errorsText settings finding.errors ++
    ifPresent (expectedText? settings finding) (labeled (label "expected:")) ++
    (ifPresent finding.delta fun delta =>
      "  " ++ label "delta:" ++ " " ++ Layout.plain.write delta ++ "\n") ++
    (ifPresent finding.actual fun actual => labeled (label "actual:") (valueText settings actual)) ++
    ifPresent (diffSides? settings finding) fun (actual, expected) =>
      "  " ++ label "diff:" ++ "\n" ++ diffText settings actual expected

end FluentAssert.Message
