import FluentAssert.Message

/-! Parts of a message on a failure: what stands before its values, the values, the deviation
between them and the diff below them. -/
namespace FluentAssert.Message

def expectedValues (finding : Finding) : List Canonical :=
  match finding.expected with
  | [] => []
  | [value] => [value]
  | [low, high] =>
    if finding.kind = .inRange ∨ finding.kind = .notInRange then [low, high]
    else [.array [low, high]]
  | values => [.array values]

/-- One text as it is, and those of a range in brackets. -/
def told : List String → Option String
  | [] => none
  | [text] => some text
  | low :: high :: _ => some ("[" ++ low ++ " .. " ++ high ++ "]")

theorem expectedText?_eq (settings : Settings) (finding : Finding) :
    expectedText? settings finding = told ((expectedValues finding).map (valueText settings)) := by
  unfold expectedText? expectedValues
  rcases finding.expected with - | ⟨low, - | ⟨high, - | ⟨next, rest⟩⟩⟩
  · rfl
  · rfl
  · dsimp only
    split <;> rfl
  · rfl

section Parts

variable (settings : Settings) (outcome : Outcome)

def opening : String :=
  paint settings red "assertion failed:" ++ " " ++ outcome.finding.kind.title ++ "\n" ++
    (ifPresent (testName? settings outcome.place) fun name =>
      "  " ++ paint settings yellow "test name:" ++ " " ++ name ++ "\n") ++
    (ifPresent (path? settings outcome.place) fun path =>
      "  " ++ paint settings yellow "assertion:" ++ " " ++ paint settings cyan path ++ "\n") ++
    errorsText settings outcome.finding.errors

def deltaText : String :=
  ifPresent outcome.finding.delta fun delta =>
    "  " ++ paint settings yellow "delta:" ++ " " ++ Layout.plain.write delta ++ "\n"

def diffSection : String :=
  ifPresent (diffSides? settings outcome.finding) fun sides =>
    "  " ++ paint settings yellow "diff:" ++ "\n" ++ diffText settings sides.1 sides.2

theorem failure_parts : failure settings outcome = opening settings outcome ++
    ifPresent (expectedText? settings outcome.finding) (labeled (paint settings yellow "expected:")) ++
    deltaText settings outcome ++
    (ifPresent outcome.finding.actual fun actual =>
      labeled (paint settings yellow "actual:") (valueText settings actual)) ++
    diffSection settings outcome := rfl

end Parts

end FluentAssert.Message
