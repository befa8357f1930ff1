import FluentAssert.Proofs.Operation.Route
import FluentAssert.Proofs.Text.Quoted

/-! Labels tell the calls on a node apart. The word before the first parenthesis is that of one call
only, and the argument can be read back from the rest. -/
namespace FluentAssert

/-- What stands before the first parenthesis. -/
def headword (label : String) : List Char := label.toList.takeWhile (· != '(')

theorem enclosed_inj {before after argument argument' : String}
    (same : before ++ argument ++ after = before ++ argument' ++ after) : argument = argument' := by
  rw [String.append_left_inj, String.append_right_inj] at same
  exact same

theorem enclosed_index_inj {before after : String} {index index' : Nat}
    (same : before ++ toString index ++ after = before ++ toString index' ++ after) :
    index = index' :=
  Text.natural_inj (enclosed_inj same)

theorem enclosed_quoted_inj {before after text text' : String}
    (same : before ++ Text.quoted text ++ after = before ++ Text.quoted text' ++ after) :
    text = text' :=
  Text.quoted_inj (enclosed_inj same)

variable {kind target target' : NodeKind}

theorem ValueNode.Step.label_inj {step : Step target} {step' : Step target'}
    (same : step.label = step'.label) :
    (⟨target, step⟩ : Σ target, Step target) = ⟨target', step'⟩ := by
  cases step <;> cases step'
  all_goals first | rfl | simp [label] at same

theorem ObjectNode.Step.label_inj {step : Step target} {step' : Step target'}
    (same : step.label = step'.label) :
    (⟨target, step⟩ : Σ target, Step target) = ⟨target', step'⟩ := by
  have words := congrArg headword same
  cases step <;> cases step'
  case field.field => rw [enclosed_quoted_inj same]
  all_goals first | rfl | simp [label, headword] at words

theorem ArrayNode.Step.label_inj {step : Step target} {step' : Step target'}
    (same : step.label = step'.label) :
    (⟨target, step⟩ : Σ target, Step target) = ⟨target', step'⟩ := by
  have words := congrArg headword same
  cases step <;> cases step'
  case element.element => rw [enclosed_index_inj same]
  all_goals first | rfl | simp [label, headword] at words

theorem TextNode.Step.label_inj {step : Step target} {step' : Step target'}
    (same : step.label = step'.label) :
    (⟨target, step⟩ : Σ target, Step target) = ⟨target', step'⟩ := by
  have words := congrArg headword same
  cases step <;> cases step'
  case reMatch.reMatch => rw [enclosed_quoted_inj same]
  all_goals first | rfl | simp [label, headword] at words

theorem MatchNode.Step.label_inj {step : Step target} {step' : Step target'}
    (same : step.label = step'.label) :
    (⟨target, step⟩ : Σ target, Step target) = ⟨target', step'⟩ := by
  have words := congrArg headword same
  cases step <;> cases step'
  case index.index => rw [enclosed_index_inj same]
  case name.name => rw [enclosed_quoted_inj same]
  all_goals first | rfl | simp [label, headword] at words

theorem ResponseNode.Step.label_inj {step : Step target} {step' : Step target'}
    (same : step.label = step'.label) :
    (⟨target, step⟩ : Σ target, Step target) = ⟨target', step'⟩ := by
  have words := congrArg headword same
  cases step <;> cases step'
  case header.header => rw [enclosed_quoted_inj same]
  all_goals first | rfl | simp [label, headword] at words

theorem Step.label_inj {step : Step kind target} {step' : Step kind target'}
    (same : step.label = step'.label) :
    (⟨target, step⟩ : Σ target, Step kind target) = ⟨target', step'⟩ := by
  cases kind with
  | value => exact ValueNode.Step.label_inj same
  | object => exact ObjectNode.Step.label_inj same
  | array => exact ArrayNode.Step.label_inj same
  | text => exact TextNode.Step.label_inj same
  | number => exact nomatch step
  | boolean => exact nomatch step
  | captures => exact MatchNode.Step.label_inj same
  | response => exact ResponseNode.Step.label_inj same

/-- Calls that lead from node to node: steps, and those that hand out the items of an array or of
an object. -/
inductive ChildCall : NodeKind → NodeKind → Type where
  | step {kind target : NodeKind} (step : Step kind target) : ChildCall kind target
  | eachItem (index : Nat) : ChildCall .array .value
  | iterItem (index : Nat) : ChildCall .array .value
  | eachField (key : String) : ChildCall .object .value

def ChildCall.label : ChildCall kind target → String
  | .step what => what.label
  | .eachItem index => "each()[" ++ toString index ++ "]"
  | .iterItem index => "iter()[" ++ toString index ++ "]"
  | .eachField key => "each()[" ++ Text.quoted key ++ "]"

theorem headword_eachItem (index : Nat) :
    headword (ChildCall.eachItem index).label = "each".toList := by
  simp [ChildCall.label, headword]

theorem headword_iterItem (index : Nat) :
    headword (ChildCall.iterItem index).label = "iter".toList := by
  simp [ChildCall.label, headword]

theorem headword_eachField (key : String) :
    headword (ChildCall.eachField key).label = "each".toList := by
  simp [ChildCall.label, headword]

theorem ArrayNode.Step.headword_label (step : Step target) :
    headword step.label ≠ "each".toList ∧ headword step.label ≠ "iter".toList := by
  cases step <;> simp [label, headword]

theorem ObjectNode.Step.headword_label (step : Step target) :
    headword step.label ≠ "each".toList := by
  cases step <;> simp [label, headword]

/-- Two calls on one kind of node with one label are the same call with the same argument. -/
theorem ChildCall.label_inj {call : ChildCall kind target} {call' : ChildCall kind target'}
    (same : call.label = call'.label) :
    (⟨target, call⟩ : Σ target, ChildCall kind target) = ⟨target', call'⟩ := by
  have words := congrArg headword same
  cases call with
  | step what =>
    cases call' with
    | step what' =>
      cases Step.label_inj same
      rfl
    | eachItem =>
      rw [headword_eachItem] at words
      exact absurd words (ArrayNode.Step.headword_label what).1
    | iterItem =>
      rw [headword_iterItem] at words
      exact absurd words (ArrayNode.Step.headword_label what).2
    | eachField =>
      rw [headword_eachField] at words
      exact absurd words (ObjectNode.Step.headword_label what)
  | eachItem index =>
    cases call' with
    | eachItem index' => rw [enclosed_index_inj same]
    | step what =>
      rw [headword_eachItem] at words
      exact absurd words.symm (ArrayNode.Step.headword_label what).1
    | iterItem => simp [headword_eachItem, headword_iterItem] at words
  | iterItem index =>
    cases call' with
    | iterItem index' => rw [enclosed_index_inj same]
    | step what =>
      rw [headword_iterItem] at words
      exact absurd words.symm (ArrayNode.Step.headword_label what).2
    | eachItem => simp [headword_eachItem, headword_iterItem] at words
  | eachField key =>
    cases call' with
    | eachField key' => rw [enclosed_quoted_inj same]
    | step what =>
      rw [headword_eachField] at words
      exact absurd words.symm (ObjectNode.Step.headword_label what)

end FluentAssert
