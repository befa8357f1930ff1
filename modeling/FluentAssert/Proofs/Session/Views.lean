import FluentAssert.Proofs.Canonical.Routes
import FluentAssert.Proofs.Node.Judgement

/-! Views. A value may be compared as it is or through the node of its type, and a typed node may be
entered at once or reached through its value: either way comes to the same. -/
namespace FluentAssert

variable {ω β : Type}

/-- Something to compare a value with, through the node of its type. -/
inductive Comparison : NodeKind → Type where
  | array (expected : Native) : Comparison .array
  | object (expected : Native) : Comparison .object
  | number (expected : Native) : Comparison .number
  | string (expected : String) : Comparison .text
  | boolean (expected : Bool) : Comparison .boolean

namespace Comparison

variable {kind : NodeKind}

def whole : Comparison kind → Held kind → Canonical
  | array _, items => .array items
  | object _, fields => .object fields
  | number _, x => .number x
  | string _, s => .text s
  | boolean _, b => .bool b

def expected : Comparison kind → Native
  | array expected | object expected | number expected => expected
  | string expected => .text expected
  | boolean expected => .bool expected

def view : Comparison kind → ValueNode.Step kind
  | array _ => .array
  | object _ => .object
  | number _ => .number
  | string _ => .string
  | boolean _ => .boolean

def check : Comparison kind → Check kind
  | array expected => ArrayNode.Check.isEqual expected
  | object expected => ObjectNode.Check.isEqual expected
  | number expected => NumberNode.Check.isEqual expected
  | string expected => TextNode.Check.isEqual expected
  | boolean expected => BooleanNode.Check.isEqual expected

/-- The equality of the typed node. -/
def typed (comparison : Comparison kind) (node : ValueNode) : Run ω Unit := do
  comparison.check.perform (← comparison.view.perform node)

theorem target_whole (comparison : Comparison kind) (held : Held kind) :
    comparison.view.target? (comparison.whole held) = some held := by
  cases comparison <;> rfl

end Comparison

namespace Comparison

variable {kind : NodeKind}

theorem judges_check (comparison : Comparison kind) (held : Held kind) :
    Judges (fun _ id => comparison.check.perform ⟨id, held⟩)
      (∃ form, Canonical.ofNative comparison.expected = .ok form ∧
        (comparison.whole held == form) = true) := by
  cases comparison with
  | array expected => exact ArrayNode.judges_isEqual held expected
  | object expected => exact ObjectNode.judges_isEqual held expected
  | number expected =>
    refine (NumberNode.judges_isEqual held expected).congr ?_
    simp only [whole, Comparison.expected, Canonical.number_beq]
    constructor
    · rintro ⟨y, canonical, equal⟩
      exact ⟨.number y, canonical, y, rfl, equal⟩
    · rintro ⟨_, canonical, y, rfl, equal⟩
      exact ⟨y, canonical, equal⟩
  | string expected =>
    refine (TextNode.judges_isEqual held expected).congr ?_
    simp [whole, Comparison.expected, Canonical.ofNative, Canonical.text_beq]
  | boolean expected =>
    refine (BooleanNode.judges_isEqual held expected).congr ?_
    simp [whole, Comparison.expected, Canonical.ofNative, Canonical.bool_beq]

theorem judges_typed (comparison : Comparison kind) (held : Held kind) :
    Judges (fun _ id => comparison.typed ⟨id, comparison.whole held⟩)
      (∃ form, Canonical.ofNative comparison.expected = .ok form ∧
        (comparison.whole held == form) = true) := by
  have judged := @Judges.after .value kind comparison.view (comparison.whole held)
    (fun _ => comparison.check.perform) _ comparison.judges_check
  have found : @Step.target? .value kind (comparison.whole held) comparison.view = some held :=
    comparison.target_whole held
  refine judged.congr ?_
  simp [found]

end Comparison

theorem Landing.leads_child (landing : Landing β) (own : ChainId) (world : World ω) :
    Leads own world (own.spawn >>= landing.perform) landing.held landing.findings := by
  let middle : World ω := (Run.happen (.spawned own) world).2
  have calls : middle.calls = world.calls := by
    rw [Heard.calls_happen]
    exact List.append_nil _
  have has : middle.Has world.fresh := Stage.has_pushChain
  have whole : (own.spawn >>= landing.perform) world = landing.perform world.fresh middle := rfl
  exact .of_child whole calls Stage.chain_pushChain_fresh rfl (landing.leads has)

namespace ValueNode.Step

variable {target : NodeKind}

def convert (id : ChainId) (value : Canonical) : Step target → Run ω (Node (Held target))
  | .object => id.asObject value
  | .array => id.asArray value
  | .string => id.asText value
  | .number => id.asNumber value
  | .boolean => id.asBoolean value

theorem perform_convert (step : Step target) (node : ValueNode) :
    step.perform (ω := ω) node = node.chain.within step.label (step.convert node.chain node.value) := by
  cases step <;> rfl

theorem lands_convert (step : Step target) (value : Canonical) :
    Lands fun _ id => step.convert id value := by
  cases step with
  | object => exact (arrives_asObject value).lands
  | array => exact (arrives_asArray value).lands
  | string => exact (arrives_asText value).lands
  | number => exact (arrives_asNumber value).lands
  | boolean => exact (arrives_asBoolean value).lands

end ValueNode.Step

namespace Session

/-- An entry that makes a typed node at once. -/
inductive Shortcut : NodeKind → Type where
  | object (input : Native) : Shortcut .object
  | array (input : Native) : Shortcut .array
  | string (input : String) : Shortcut .text
  | number (input : Double) (finite : input.isFinite = true) : Shortcut .number
  | boolean (input : Bool) : Shortcut .boolean

namespace Shortcut

variable {kind : NodeKind}

def entry : Shortcut kind → Entry kind
  | object input => .object input
  | array input => .array input
  | string input => .string input
  | number input _ => .number input
  | boolean input => .boolean input

def input : Shortcut kind → Native
  | object input | array input => input
  | string input => .text input
  | number input _ => .double input
  | boolean input => .bool input

def view : Shortcut kind → ValueNode.Step kind
  | object _ => .object
  | array _ => .array
  | string _ => .string
  | number _ _ => .number
  | boolean _ => .boolean

def detour (shortcut : Shortcut kind) (session : Session ω) : Run ω (Node (Held kind)) := do
  shortcut.view.perform (← session.value shortcut.input)

theorem perform_entry (shortcut : Shortcut kind) (session : Session ω) :
    shortcut.entry.perform session = session.enter shortcut.view.label fun chain =>
      Session.input chain shortcut.input >>= fun form => shortcut.view.convert chain form := by
  cases shortcut with
  | object | array => rfl
  | string | boolean => rfl
  | number x finite =>
    have form : Canonical.ofNative (.double x) = .ok (.number x) := by
      rw [Canonical.ofNative, Canonical.ofDouble, if_pos finite]
    simp only [input, input_form _ form, pure_bind]
    rfl

theorem leads (shortcut : Shortcut kind) : ∃ (findings : List Finding) (held : Held kind),
    ∀ (ω : Type) (session : Session ω) (world : World ω),
      Leads session.chain world (shortcut.entry.perform session) held findings ∧
      Leads session.chain world (shortcut.detour session) held findings := by
  obtain ⟨first, form, fails, told⟩ := reports_input shortcut.input
  obtain ⟨second, held, fails', lands⟩ := shortcut.view.lands_convert form
  have input (ω : Type) (chain : ChainId) : Session.input chain shortcut.input =
      (chain.reportAll first >>= fun _ => return form : Run ω Canonical) := told ω chain
  have convert (ω : Type) (chain : ChainId) : shortcut.view.convert chain form =
      (chain.reportAll second >>= fun _ => Node.spawn chain held : Run ω (Node (Held kind))) :=
    lands ω chain
  refine ⟨first ++ second, held, fun ω session world => ⟨?_, ?_⟩⟩
  · let landing : Landing (Held kind) :=
      ⟨shortcut.view.label, first ++ second, fails.append fails', held⟩
    have whole : shortcut.entry.perform session = (session.chain.spawn >>= landing.perform) := by
      rw [perform_entry]
      simp only [input, convert, enter, bind_assoc, pure_bind]
      refine bind_congr fun chain => ?_
      rw [Landing.perform, Landing.settle, ChainId.reportAll_append, bind_assoc]
    rw [whole]
    exact landing.leads_child session.chain world
  · let landing : Landing Canonical := ⟨"value()", first, fails, form⟩
    have value : session.value shortcut.input = (session.chain.spawn >>= landing.perform) := by
      simp only [Session.value, input, enter, bind_assoc, pure_bind]
      rfl
    let converted : Landing (Held kind) := ⟨shortcut.view.label, second, fails', held⟩
    have entered := landing.leads_child session.chain world
    rw [← value] at entered
    refine entered.bind fun node last same has => ?_
    have whole : shortcut.view.perform node = converted.perform (ω := ω) node.chain := by
      rw [ValueNode.Step.perform_convert, same]
      exact congrArg _ (convert ω node.chain)
    rw [whole]
    exact converted.leads has

end Shortcut

variable {session : Session ω} {world : World ω}

theorem delivers_value {input : Native} {form : Canonical}
    (canonical : Canonical.ofNative input = .ok form) (next : ∀ ω : Type, ValueNode → Run ω Unit)
    {finding : Finding} (tests : Tests (fun ω id => next ω ⟨id, form⟩) finding)
    (live : (world.chain session.chain).failed = false) :
    Delivers world (session.value input >>= next ω) [finding] := by
  let landing : Landing Canonical := ⟨"value()", [], .nil, form⟩
  have whole : session.value input = (session.chain.spawn >>= landing.perform) := by
    simp only [Session.value, input_form _ canonical, pure_bind]
    rfl
  have entered := landing.leads_child session.chain world
  rw [← whole] at entered
  have delivered : Delivers world (session.value input >>= next ω)
      (world.audible session.chain ([] ++ [finding])) := by
    refine entered.delivers_bind fun node last value has => ?_
    have same : node = ⟨node.chain, form⟩ := congrArg (Node.mk node.chain) value
    rw [same]
    exact tests ω last node.chain has
  rwa [World.audible_live live] at delivered

/-- A value of a type is equal to something just if its typed node is, namely if that has an equal
canonical form; and a typed node that is entered at once is as the one that is reached through its
value, also where there is nothing to enter with. -/
theorem views_agree :
    (∀ (kind : NodeKind) (comparison : Comparison kind) (held : Held kind) (input : Native),
      Canonical.ofNative input = .ok (comparison.whole held) →
      ∃ typed generic : Finding, typed.passed = generic.passed ∧
        (generic.passed = true ↔ ∃ form, Canonical.ofNative comparison.expected = .ok form ∧
          (comparison.whole held == form) = true) ∧
        ∀ (ω : Type) (session : Session ω) (world : World ω),
          (world.chain session.chain).failed = false →
          Delivers world (session.value input >>= comparison.typed) [typed] ∧
          Delivers world (session.value input >>= fun node => node.isEqual comparison.expected)
            [generic]) ∧
    ∀ (kind : NodeKind) (shortcut : Shortcut kind) (ω : Type) (session : Session ω)
      (world : World ω), ∃ findings : List Finding,
        Delivers world (shortcut.entry.perform session) findings ∧
        Delivers world (shortcut.detour session) findings ∧
        (world.HandlerReturnsIfLive session.chain → ∃ node last node' last',
          shortcut.entry.perform session world = (.ok node, last) ∧
          shortcut.detour session world = (.ok node', last') ∧ node'.value = node.value ∧
          (last'.chain node'.chain).failed = (last.chain node.chain).failed) := by
  constructor
  · intro kind comparison held input canonical
    obtain ⟨typed, tests, decides⟩ := comparison.judges_typed held
    obtain ⟨generic, tests', decides'⟩ :=
      ValueNode.judges_isEqual (comparison.whole held) comparison.expected
    refine ⟨typed, generic, ?_, decides', fun ω session world live => ⟨?_, ?_⟩⟩
    · rw [Bool.eq_iff_iff, decides, decides']
    · exact delivers_value canonical (fun _ => comparison.typed) tests live
    · exact delivers_value canonical (fun _ node => node.isEqual comparison.expected) tests' live
  · intro kind shortcut ω session world
    obtain ⟨findings, held, leads⟩ := shortcut.leads
    obtain ⟨atOnce, after⟩ := leads ω session world
    refine ⟨world.audible session.chain findings, atOnce.delivers, after.delivers, ?_⟩
    intro returnsIfLive
    obtain ⟨node, last, returned⟩ := atOnce.returns returnsIfLive
    obtain ⟨node', last', returned'⟩ := after.returns returnsIfLive
    obtain ⟨value, -, failed, -⟩ := atOnce.node node last returned
    obtain ⟨value', -, failed', -⟩ := after.node node' last' returned'
    exact ⟨node, last, node', last', returned, returned', value'.trans value.symm,
      failed'.trans failed.symm⟩

/-- A tuple compared with a sequence, and an object that refuses to be handed over. -/
theorem views_agree_refused :
    let session : Session Unit := ⟨⟨0⟩, none, none, [], []⟩
    let world : World Unit := { World.start () with chains := #[⟨none, [], false, ⟨0⟩, ⟨0⟩⟩] }
    let comparison : Comparison .array := .array (.seq [.bool true])
    let shortcut : Shortcut .object := .object (.failing "closed")
    (∃ typed : Finding, typed.passed = true ∧
      Delivers world (session.value (.tuple [.bool true]) >>= comparison.typed) [typed]) ∧
    ∃ node last node' last', shortcut.entry.perform session world = (.ok node, last) ∧
      shortcut.detour session world = (.ok node', last') ∧ node'.value = node.value ∧
      (last'.chain node'.chain).failed = (last.chain node.chain).failed := by
  intro session world comparison shortcut
  have canonical : Canonical.ofNative (.tuple [.bool true]) = .ok (.array [.bool true]) := by rfl
  have expected : Canonical.ofNative (.seq [.bool true]) = .ok (.array [.bool true]) := by rfl
  have live : (world.chain session.chain).failed = false := rfl
  constructor
  · obtain ⟨typed, generic, same, decides, delivers⟩ :=
      views_agree.1 .array comparison [Canonical.bool true] (.tuple [.bool true]) canonical
    refine ⟨typed, ?_, (delivers Unit session world live).1⟩
    rw [same]
    have equal : (Canonical.array [.bool true] == Canonical.array [.bool true]) = true := by rfl
    exact decides.mpr ⟨_, expected, equal⟩
  · obtain ⟨findings, -, -, nodes⟩ := views_agree.2 .object shortcut Unit session world
    exact nodes fun _ => Handler.audit_returns

end Session
end FluentAssert
