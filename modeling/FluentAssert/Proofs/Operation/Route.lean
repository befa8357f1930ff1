import FluentAssert.Proofs.Operation
import FluentAssert.Proofs.Run.Laws

/-! Where steps lead. Every step has one label and looks for one target in the value of its node;
where there is none, it goes on with the neutral value of its kind, after a failure. -/
namespace FluentAssert

open FluentAssert.Http

/-- What a node holds whose target is missing. No step leads to a response. -/
def NodeKind.neutral : (kind : NodeKind) → Held kind
  | .value => Canonical.null
  | .object => []
  | .array => []
  | .text => ""
  | .number => (.zero false : Double)
  | .boolean => false
  | .captures => Captures.none
  | .response => {}

def ValueNode.Step.label {target : NodeKind} : Step target → String
  | .object => "object()"
  | .array => "array()"
  | .string => "string()"
  | .number => "number()"
  | .boolean => "boolean()"

def ValueNode.Step.target? (value : Canonical) {target : NodeKind} :
    Step target → Option (Held target)
  | .object => value.fields?
  | .array => value.items?
  | .string => value.text?
  | .number => value.number?
  | .boolean => value.bool?

def ObjectNode.Step.label {target : NodeKind} : Step target → String
  | .length => "length()"
  | .keys => "keys()"
  | .values => "values()"
  | .field key => "value(" ++ Text.quoted key ++ ")"

def ObjectNode.Step.target? (value : Fields Canonical) {target : NodeKind} :
    Step target → Option (Held target)
  | .length => some (Double.ofNat value.length)
  | .keys => some ((Fields.keys value).map Canonical.text)
  | .values => some (Fields.values value)
  | .field key => Fields.get? value key

def ArrayNode.Step.label {target : NodeKind} : Step target → String
  | .length => "length()"
  | .element index => "element(" ++ toString index ++ ")"
  | .first => "first()"
  | .last => "last()"

def ArrayNode.Step.target? (value : List Canonical) {target : NodeKind} :
    Step target → Option (Held target)
  | .length => some (Double.ofNat value.length)
  | .element index => value[index]?
  | .first => value.head?
  | .last => value.getLast?

def TextNode.Step.label {target : NodeKind} : Step target → String
  | .length => "length()"
  | .asNumber => "as_number()"
  | .asBoolean => "as_boolean()"
  | .reMatch pattern => "re_match(" ++ Text.quoted pattern ++ ")"

def TextNode.spelledBool? (text : String) : Option Bool :=
  if text = "true" then some true else if text = "false" then some false else none

/-- The groups of the first match. A pattern that is none has no match. -/
def TextNode.match? (pattern text : String) : Option Captures :=
  match Regex.compile pattern with
  | .ok regex => (regex.captures? text).map fun texts => ⟨texts, regex.names⟩
  | .error _ => none

def TextNode.Step.target? (value : String) {target : NodeKind} :
    Step target → Option (Held target)
  | .length => some (Double.ofNat value.length)
  | .asNumber => (Double.parse (Text.trim value)).toOption
  | .asBoolean => spelledBool? value
  | .reMatch pattern => match? pattern value

def MatchNode.Step.label {target : NodeKind} : Step target → String
  | .length => "length()"
  | .index place => "index(" ++ toString place ++ ")"
  | .name group => "name(" ++ Text.quoted group ++ ")"

def MatchNode.Step.target? (value : Captures) {target : NodeKind} :
    Step target → Option (Held target)
  | .length => some (Double.ofNat value.texts.length)
  | .index place => value.texts[place]?
  | .name group => named? value group

def ResponseNode.Step.label {target : NodeKind} : Step target → String
  | .headers => "headers()"
  | .header name => "header(" ++ Text.quoted name ++ ")"
  | .body => "body()"
  | .text => "text()"
  | .json => "json()"

def ResponseNode.Step.target? (value : Response) {target : NodeKind} :
    Step target → Option (Held target)
  | .headers => some value.headerFields
  | .header name => value.header? name
  | .body => some (Text.decodeUtf8Lossy value.body)
  | .text => value.plainText.toOption
  | .json => value.jsonValue.toOption

def Step.label : {kind target : NodeKind} → Step kind target → String
  | .value, _, step => ValueNode.Step.label step
  | .object, _, step => ObjectNode.Step.label step
  | .array, _, step => ArrayNode.Step.label step
  | .text, _, step => TextNode.Step.label step
  | .number, _, step => nomatch step
  | .boolean, _, step => nomatch step
  | .captures, _, step => MatchNode.Step.label step
  | .response, _, step => ResponseNode.Step.label step

/-- What a step looks for in the value of its node, if it is there. -/
def Step.target? : {kind target : NodeKind} → Held kind → Step kind target → Option (Held target)
  | .value, _, held, step => ValueNode.Step.target? held step
  | .object, _, held, step => ObjectNode.Step.target? held step
  | .array, _, held, step => ArrayNode.Step.target? held step
  | .text, _, held, step => TextNode.Step.target? held step
  | .number, _, _, step => nomatch step
  | .boolean, _, _, step => nomatch step
  | .captures, _, held, step => MatchNode.Step.target? held step
  | .response, _, held, step => ResponseNode.Step.target? held step

variable {ω α β : Type}

/-- A node that holds the target, or a failure and the neutral value. -/
def ChainId.arrive (id : ChainId) (target : Option β) (lack : Finding) (neutral : β) :
    Run ω (Node β) :=
  match target with
  | some held => Node.spawn id held
  | none => Node.spawnFailed id lack neutral

/-- What is told of a missing target depends on neither the world nor the chain. -/
def Arrives (target : Option β) (neutral : β) (body : ∀ ω : Type, ChainId → Run ω (Node β)) : Prop :=
  ∃ lack : Finding, lack.passed = false ∧ ∀ ω id, body ω id = id.arrive target lack neutral

def Routed (label : String) (target : Option β) (neutral : β)
    (body : ∀ ω : Type, ChainId → Run ω (Node β)) : Prop :=
  ∃ lack : Finding, lack.passed = false ∧
    ∀ ω id, body ω id = id.within label (id.arrive target lack neutral)

namespace Arrives

variable {target : Option β} {neutral : β} {body : ∀ ω : Type, ChainId → Run ω (Node β)}

theorem found (held neutral : β) : Arrives (some held) neutral fun _ id => Node.spawn id held :=
  ⟨.failure .valid "", rfl, fun _ _ => rfl⟩

theorem lost {lack : Finding} (neutral : β) (fails : lack.passed = false) :
    Arrives none neutral fun _ id => Node.spawnFailed id lack neutral :=
  ⟨lack, fails, fun _ _ => rfl⟩

theorem step (label : String) (value : α) (arrives : Arrives target neutral body) :
    Routed label target neutral fun ω id => (⟨id, value⟩ : Node α).step label (body ω id) := by
  obtain ⟨lack, fails, same⟩ := arrives
  exact ⟨lack, fails, fun ω id => congrArg (id.within label) (same ω id)⟩

end Arrives

theorem arrives_asObject (value : Canonical) :
    Arrives value.fields? [] fun _ id => id.asObject value := by
  cases value with
  | object fields => exact .found fields []
  | null | bool | number | text | array => exact .lost [] rfl

theorem arrives_asArray (value : Canonical) :
    Arrives value.items? [] fun _ id => id.asArray value := by
  cases value with
  | array items => exact .found items []
  | null | bool | number | text | object => exact .lost [] rfl

theorem arrives_asText (value : Canonical) :
    Arrives value.text? "" fun _ id => id.asText value := by
  cases value with
  | text s => exact .found s ""
  | null | bool | number | array | object => exact .lost "" rfl

theorem arrives_asNumber (value : Canonical) :
    Arrives value.number? (.zero false) fun _ id => id.asNumber value := by
  cases value with
  | number x => exact .found x _
  | null | bool | text | array | object => exact .lost _ rfl

theorem arrives_asBoolean (value : Canonical) :
    Arrives value.bool? false fun _ id => id.asBoolean value := by
  cases value with
  | bool b => exact .found b false
  | null | number | text | array | object => exact .lost false rfl

theorem ValueNode.routed {target : NodeKind} (step : Step target) (value : Canonical) :
    Routed step.label (step.target? value) target.neutral fun _ id =>
      step.perform ⟨id, value⟩ := by
  cases step with
  | object => exact (arrives_asObject value).step _ _
  | array => exact (arrives_asArray value).step _ _
  | string => exact (arrives_asText value).step _ _
  | number => exact (arrives_asNumber value).step _ _
  | boolean => exact (arrives_asBoolean value).step _ _

theorem ObjectNode.routed {target : NodeKind} (step : Step target) (value : Fields Canonical) :
    Routed step.label (step.target? value) target.neutral fun _ id =>
      step.perform ⟨id, value⟩ := by
  cases step with
  | length => exact (Arrives.found (Double.ofNat value.length) _).step _ _
  | keys => exact (Arrives.found ((Fields.keys value).map Canonical.text) _).step _ _
  | values => exact (Arrives.found (Fields.values value) _).step _ _
  | field key =>
    simp only [Step.perform, field, noKey, actual]
    refine Arrives.step _ _ ?_
    simp only [Step.target?]
    cases Fields.get? value key with
    | some found => exact .found found Canonical.null
    | none => exact .lost Canonical.null rfl

namespace ArrayNode

theorem arrives_endElement (value : List Canonical) (found : Option Canonical) :
    Arrives found Canonical.null fun _ id => endElement ⟨id, value⟩ found := by
  cases found with
  | some found => exact .found found Canonical.null
  | none =>
    simp only [endElement, actual]
    exact .lost Canonical.null rfl

theorem routed {target : NodeKind} (step : Step target) (value : List Canonical) :
    Routed step.label (step.target? value) target.neutral fun _ id =>
      step.perform ⟨id, value⟩ := by
  cases step with
  | length => exact (Arrives.found (Double.ofNat value.length) _).step _ _
  | element index =>
    simp only [Step.perform, element, outOfBounds]
    refine Arrives.step _ _ ?_
    simp only [Step.target?]
    cases value[index]? with
    | some found => exact .found found Canonical.null
    | none => exact .lost Canonical.null rfl
  | first => exact (arrives_endElement value value.head?).step _ _
  | last => exact (arrives_endElement value value.getLast?).step _ _

end ArrayNode

namespace TextNode

theorem arrives_asBoolean {value : String} {lack : Finding} (fails : lack.passed = false) :
    Arrives (spelledBool? value) false fun _ id =>
      if value = "true" then Node.spawn id true
      else if value = "false" then Node.spawn id false
      else Node.spawnFailed id lack false := by
  unfold spelledBool?
  by_cases isTrue : value = "true"
  · simp only [if_pos isTrue]
    exact .found true false
  · by_cases isFalse : value = "false"
    · simp only [if_neg isTrue, if_pos isFalse]
      exact .found false false
    · simp only [if_neg isTrue, if_neg isFalse]
      exact .lost false fails

theorem routed {target : NodeKind} (step : Step target) (value : String) :
    Routed step.label (step.target? value) target.neutral fun _ id =>
      step.perform ⟨id, value⟩ := by
  cases step with
  | length => exact (Arrives.found (Double.ofNat value.length) _).step _ _
  | asNumber =>
    simp only [Step.perform, asNumber, actual]
    refine Arrives.step _ _ ?_
    simp only [Step.target?]
    cases Double.parse (Text.trim value) with
    | ok x => exact .found x _
    | error e => exact .lost _ rfl
  | asBoolean =>
    simp only [Step.perform, asBoolean, actual]
    exact (arrives_asBoolean rfl).step _ _
  | reMatch pattern =>
    simp only [Step.perform, reMatch, actual]
    refine Arrives.step _ _ ?_
    simp only [Step.target?, match?]
    cases Regex.compile pattern with
    | error e => exact .lost Captures.none rfl
    | ok regex =>
      simp only
      cases regex.captures? value with
      | some texts => exact .found ⟨texts, regex.names⟩ Captures.none
      | none => exact .lost Captures.none rfl

end TextNode

theorem MatchNode.routed {target : NodeKind} (step : Step target) (value : Captures) :
    Routed step.label (step.target? value) target.neutral fun _ id =>
      step.perform ⟨id, value⟩ := by
  cases step with
  | length => exact (Arrives.found (Double.ofNat value.texts.length) _).step _ _
  | index place =>
    simp only [Step.perform, index]
    refine Arrives.step _ _ ?_
    simp only [Step.target?]
    cases value.texts[place]? with
    | some text => exact .found text ""
    | none => exact .lost "" rfl
  | name group =>
    simp only [Step.perform, name]
    refine Arrives.step _ _ ?_
    simp only [Step.target?]
    cases named? value group with
    | some text => exact .found text ""
    | none => exact .lost "" rfl

namespace ResponseNode

theorem arrives_content (value : Response) (read : Except String β) (neutral : β) :
    Arrives read.toOption neutral fun _ id => content ⟨id, value⟩ read neutral := by
  cases read with
  | ok found => exact .found found neutral
  | error fault => exact .lost neutral rfl

theorem routed {target : NodeKind} (step : Step target) (value : Response) :
    Routed step.label (step.target? value) target.neutral fun _ id =>
      step.perform ⟨id, value⟩ := by
  cases step with
  | headers => exact (Arrives.found value.headerFields _).step _ _
  | header name =>
    simp only [Step.perform, header]
    refine Arrives.step _ _ ?_
    simp only [Step.target?]
    cases value.header? name with
    | some found => exact .found found ""
    | none => exact .lost "" rfl
  | body => exact (Arrives.found (Text.decodeUtf8Lossy value.body) _).step _ _
  | text => exact (arrives_content value value.plainText "").step _ _
  | json => exact (arrives_content value value.jsonValue Canonical.null).step _ _

end ResponseNode

/-- Every step goes to its target, or fails and goes on with nothing. -/
theorem Step.routed {kind target : NodeKind} (step : Step kind target) (held : Held kind) :
    Routed step.label (step.target? held) target.neutral fun _ id => step.perform ⟨id, held⟩ := by
  cases kind with
  | value => exact ValueNode.routed step held
  | object => exact ObjectNode.routed step held
  | array => exact ArrayNode.routed step held
  | text => exact TextNode.routed step held
  | number => exact nomatch step
  | boolean => exact nomatch step
  | captures => exact MatchNode.routed step held
  | response => exact ResponseNode.routed step held

end FluentAssert
