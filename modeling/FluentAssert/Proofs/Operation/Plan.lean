import FluentAssert.Proofs.Operation.Route

/-! What an operation says depends on the value of its node and on its arguments only. Every check
reports a list of findings that is fixed beforehand, inside one scope; every step does the same and
then spawns its node. The chain alone decides what is delivered of it: of a check just one finding,
of a step a failure or nothing. -/
namespace FluentAssert

variable {ω α β : Type}

def Failing (findings : List Finding) : Prop := ∀ finding ∈ findings, finding.passed = false

/-- There is a finding, and if more follow it fails, so that the chain delivers just the first. -/
def Decisive : List Finding → Prop
  | [] => False
  | finding :: rest => finding.passed = true → rest = []

variable {first rest : List Finding} {finding : Finding}

theorem Failing.nil : Failing [] := by
  intro finding member
  cases member

theorem Failing.one (fails : finding.passed = false) : Failing [finding] := by
  intro other member
  exact List.mem_singleton.mp member ▸ fails

theorem Failing.append (hf : Failing first) (hr : Failing rest) : Failing (first ++ rest) := by
  intro finding member
  rcases List.mem_append.mp member with before | after
  · exact hf finding before
  · exact hr finding after

theorem Failing.decisive {findings : List Finding} (h : Failing findings) :
    findings = [] ∨ Decisive findings := by
  cases findings with
  | nil => exact .inl rfl
  | cons finding rest =>
    refine .inr fun passed => ?_
    have fails := h finding List.mem_cons_self
    rw [fails] at passed
    cases passed

theorem Decisive.one : Decisive [finding] := fun _ => rfl

theorem Decisive.after (hf : Failing first) (h : first ≠ [] ∨ Decisive rest) :
    Decisive (first ++ rest) := by
  cases first with
  | nil => exact h.resolve_left fun some => some rfl
  | cons finding first =>
    intro passed
    have fails := hf finding List.mem_cons_self
    rw [fails] at passed
    cases passed

def ChainId.reportAll (id : ChainId) : List Finding → Run ω Unit
  | [] => return ()
  | finding :: rest => do
    id.report finding
    id.reportAll rest

theorem ChainId.reportAll_append (id : ChainId) (first rest : List Finding) :
    (id.reportAll (first ++ rest) : Run ω Unit) =
      (id.reportAll first >>= fun _ => id.reportAll rest) := by
  induction first with
  | nil => rfl
  | cons finding first ih => simp only [List.cons_append, reportAll, ih, bind_assoc]

/-- On every chain the run reports these findings, and its result is this. -/
def Says (body : ∀ ω : Type, ChainId → Run ω α) (findings : List Finding) (result : α) : Prop :=
  ∀ ω id, body ω id = (id.reportAll findings >>= fun _ => return result)

namespace Says

theorem pure (a : α) : Says (fun _ _ => Pure.pure a) [] a := fun _ _ => rfl

theorem report (finding : Finding) : Says (fun _ id => id.report finding) [finding] () :=
  fun _ _ => by simp only [ChainId.reportAll, bind_pure_unit]

theorem bind {first : ∀ ω : Type, ChainId → Run ω α} {next : ∀ ω : Type, ChainId → α → Run ω β}
    {before after : List Finding} {a : α} {b : β} (hf : Says first before a)
    (hn : Says (fun ω id => next ω id a) after b) :
    Says (fun ω id => first ω id >>= next ω id) (before ++ after) b := by
  intro ω id
  have second := hn ω id
  simp only [hf ω id, second, ChainId.reportAll_append, bind_assoc, pure_bind]

end Says

/-- A run that reports failures only. -/
def Reports (body : ∀ ω : Type, ChainId → Run ω α) : Prop :=
  ∃ findings result, Failing findings ∧ Says body findings result

/-- A run that reports failures only, and some where it has no answer. -/
def Asks (body : ∀ ω : Type, ChainId → Run ω (Option α)) : Prop :=
  ∃ findings result, Failing findings ∧ (result = none → findings ≠ []) ∧
    Says body findings result

/-- A run that comes to a decision. -/
def Settles (body : ∀ ω : Type, ChainId → Run ω Unit) : Prop :=
  ∃ findings, Decisive findings ∧ Says body findings ()

namespace Reports

theorem pure (a : α) : Reports fun _ _ => Pure.pure a := ⟨[], a, .nil, .pure a⟩

theorem report (fails : finding.passed = false) : Reports fun _ id => id.report finding :=
  ⟨[finding], (), .one fails, .report finding⟩

theorem bind {first : ∀ ω : Type, ChainId → Run ω α} {next : ∀ ω : Type, ChainId → α → Run ω β}
    (hf : Reports first) (hn : ∀ a, Reports fun ω id => next ω id a) :
    Reports fun ω id => first ω id >>= next ω id := by
  obtain ⟨before, a, fails, hfirst⟩ := hf
  obtain ⟨after, b, fails', hnext⟩ := hn a
  exact ⟨before ++ after, b, fails.append fails', hfirst.bind hnext⟩

end Reports

namespace Asks

theorem found (a : α) : Asks fun _ _ => Pure.pure (some a) :=
  ⟨[], some a, .nil, nofun, .pure _⟩

theorem lost (fails : finding.passed = false) : Asks (α := α) fun _ id => do
    id.report finding
    return none := by
  refine ⟨[finding], none, .one fails, fun _ => List.cons_ne_nil _ _, ?_⟩
  exact (Says.report finding).bind (.pure none)

theorem bind {first : ∀ ω : Type, ChainId → Run ω (Option α)}
    {next : ∀ ω : Type, ChainId → Option α → Run ω (Option β)} (hf : Asks first)
    (found : ∀ a, Asks fun ω id => next ω id (some a))
    (lost : Says (fun ω id => next ω id none) [] none) :
    Asks fun ω id => first ω id >>= next ω id := by
  obtain ⟨before, answer, fails, reason, hfirst⟩ := hf
  cases answer with
  | none => exact ⟨before ++ [], none, fails.append .nil, by simpa using reason, hfirst.bind lost⟩
  | some a =>
    obtain ⟨after, result, fails', reason', hnext⟩ := found a
    refine ⟨before ++ after, result, fails.append fails', ?_, hfirst.bind hnext⟩
    intro missing none
    exact reason' missing (List.append_eq_nil_iff.mp none).2

theorem reports {body : ∀ ω : Type, ChainId → Run ω (Option α)} (h : Asks body) : Reports body := by
  obtain ⟨findings, result, fails, _, told⟩ := h
  exact ⟨findings, result, fails, told⟩

end Asks

namespace Settles

theorem report (finding : Finding) : Settles fun _ id => id.report finding :=
  ⟨[finding], .one, .report finding⟩

theorem bind {first : ∀ ω : Type, ChainId → Run ω (Option α)}
    {next : ∀ ω : Type, ChainId → Option α → Run ω Unit} (hf : Asks first)
    (found : ∀ a, Settles fun ω id => next ω id (some a))
    (lost : Reports fun ω id => next ω id none) :
    Settles fun ω id => first ω id >>= next ω id := by
  obtain ⟨before, answer, fails, reason, hfirst⟩ := hf
  cases answer with
  | none =>
    obtain ⟨after, _, _, hnext⟩ := lost
    exact ⟨before ++ after, .after fails (.inl (reason rfl)), hfirst.bind hnext⟩
  | some a =>
    obtain ⟨after, decisive, hnext⟩ := found a
    exact ⟨before ++ after, .after fails (.inr decisive), hfirst.bind hnext⟩

end Settles

namespace ChainId

theorem asks_argument (value : Native) : Asks fun _ id => id.argument value := by
  unfold argument
  cases Canonical.ofNative value with
  | ok value => exact .found _
  | error e => exact .lost rfl

theorem asks_arguments (values : List Native) : Asks fun _ id => id.arguments values := by
  induction values with
  | nil => exact .found _
  | cons value rest ih =>
    apply Asks.bind (asks_argument value)
    · intro first
      exact .bind ih (fun others => .found _) (.pure none)
    · exact .pure none

theorem asks_numberArgument (value : Native) : Asks fun _ id => id.numberArgument value := by
  apply Asks.bind (asks_argument value)
  · intro value
    cases value with
    | number x => exact .found x
    | null | bool | text | array | object => exact .lost rfl
  · exact .pure none

theorem asks_numberArguments (values : List Native) :
    Asks fun _ id => id.numberArguments values := by
  induction values with
  | nil => exact .found _
  | cons value rest ih =>
    apply Asks.bind (asks_numberArgument value)
    · intro first
      exact .bind ih (fun others => .found _) (.pure none)
    · exact .pure none

theorem settles_withArgument (value : Native) {use : ∀ ω : Type, ChainId → Canonical → Run ω Unit}
    (hu : ∀ value, Settles fun ω id => use ω id value) :
    Settles fun ω id => id.withArgument value (use ω id) :=
  .bind (asks_argument value) hu (.pure ())

theorem settles_withArguments (values : List Native)
    {use : ∀ ω : Type, ChainId → List Canonical → Run ω Unit}
    (hu : ∀ values, Settles fun ω id => use ω id values) :
    Settles fun ω id => id.withArguments values (use ω id) :=
  .bind (asks_arguments values) hu (.pure ())

theorem settles_unlessEmpty (values : List α) {body : ∀ ω : Type, ChainId → Run ω Unit}
    (hb : Settles body) : Settles fun ω id => id.unlessEmpty values (body ω id) := by
  unfold unlessEmpty
  cases values.isEmpty with
  | true => exact .report _
  | false => exact hb

end ChainId

/-- What a check does: its scope, whether it looks at its arguments only while the chain is live,
and what it finds. -/
structure Plan where
  label : String
  live : Bool
  findings : List Finding
  decisive : Decisive findings

def Plan.perform (plan : Plan) (id : ChainId) : Run ω Unit :=
  id.within plan.label <|
    if plan.live then id.whileLive (id.reportAll plan.findings) else id.reportAll plan.findings

def Planned (body : ∀ ω : Type, ChainId → Run ω Unit) : Prop :=
  ∃ plan : Plan, ∀ ω id, body ω id = plan.perform id

theorem planned_check (label : String) (finding : Finding) (value : α) :
    Planned fun _ id => (⟨id, value⟩ : Node α).check label finding := by
  obtain ⟨findings, decisive, h⟩ := Settles.report finding
  refine ⟨⟨label, false, findings, decisive⟩, fun ω id => ?_⟩
  have told := h ω id
  simp only [Node.check, told, Plan.perform, bind_pure_unit]
  rfl

theorem planned_checkLive (label : String) (value : α) {body : ∀ ω : Type, ChainId → Run ω Unit}
    (hb : Settles body) :
    Planned fun ω id => (⟨id, value⟩ : Node α).checkLive label (body ω id) := by
  obtain ⟨findings, decisive, h⟩ := hb
  refine ⟨⟨label, true, findings, decisive⟩, fun ω id => ?_⟩
  simp only [Node.checkLive, h ω id, Plan.perform, bind_pure_unit]
  rfl

theorem planned_argument (label : String) (value : α) (argument : Native)
    (finding : Canonical → Finding) :
    Planned fun _ id => (⟨id, value⟩ : Node α).checkLive label <|
      id.withArgument argument fun c => id.report (finding c) :=
  planned_checkLive label value (ChainId.settles_withArgument argument fun _ => .report _)

theorem planned_arguments (label : String) (value : α) (arguments : List Native)
    (finding : List Canonical → Finding) :
    Planned fun _ id => (⟨id, value⟩ : Node α).checkLive label <|
      id.withArguments arguments fun cs => id.report (finding cs) :=
  planned_checkLive label value (ChainId.settles_withArguments arguments fun _ => .report _)

theorem planned_someArguments (label : String) (value : α) (arguments : List Native)
    (finding : List Canonical → Finding) :
    Planned fun _ id => (⟨id, value⟩ : Node α).checkLive label <| id.unlessEmpty arguments <|
      id.withArguments arguments fun cs => id.report (finding cs) :=
  planned_checkLive label value
    (ChainId.settles_unlessEmpty _ (ChainId.settles_withArguments arguments fun _ => .report _))

namespace ValueNode

theorem planned_perform (check : Check) (value : Canonical) :
    Planned fun _ id => check.perform ⟨id, value⟩ := by
  cases check
  all_goals simp only [Check.perform, isNull, notNull, isEqual, notEqual, inList, notInList]
  case isNull | notNull => exact planned_check ..
  case isEqual | notEqual => exact planned_argument ..
  case inList | notInList => exact planned_someArguments ..

end ValueNode

namespace ObjectNode

theorem planned_perform (check : Check) (value : Fields Canonical) :
    Planned fun _ id => check.perform ⟨id, value⟩ := by
  cases check
  all_goals simp only [Check.perform, isEmpty, notEmpty, containsKey, notContainsKey, containsValue,
    notContainsValue, hasValue, notHasValue, containsSubset, notContainsSubset, isEqual, notEqual,
    actual, holds, noKey]
  case isEmpty | notEmpty | containsKey | notContainsKey => exact planned_check ..
  all_goals exact planned_argument ..

end ObjectNode

namespace ArrayNode

theorem planned_perform (check : Check) (value : List Canonical) :
    Planned fun _ id => check.perform ⟨id, value⟩ := by
  cases check
  all_goals simp only [Check.perform, isEmpty, notEmpty, isEqual, notEqual, isEqualUnordered,
    containsAll, notContainsAll, containsAny, notContainsAny, containsOnly, hasValue, notHasValue,
    actual, naming, outOfBounds]
  case isEmpty | notEmpty => exact planned_check ..
  case isEqual | notEqual | hasValue | notHasValue => exact planned_argument ..
  case isEqualUnordered | containsOnly => exact planned_arguments ..
  all_goals exact planned_someArguments ..

end ArrayNode

namespace TextNode

theorem planned_perform (check : Check) (value : String) :
    Planned fun _ id => check.perform ⟨id, value⟩ := by
  cases check
  all_goals simp only [Check.perform, notMatch, isEmpty, notEmpty, isAscii, isEqual, notEqual,
    isEqualFold, notEqualFold, contains, notContains, containsFold, hasPrefix, notHasPrefix,
    hasSuffix, notHasSuffix, inList, compare, actual]
  case notMatch => exact planned_checkLive _ _ (.report _)
  case inList => exact planned_checkLive _ _ (ChainId.settles_unlessEmpty _ (.report _))
  all_goals exact planned_check ..

end TextNode

namespace NumberNode

theorem planned_compare (value : Double) (label : String) (kind : Kind) (expected : Native)
    (related : Double → Double → Bool) (error : String) :
    Planned fun _ id => compare ⟨id, value⟩ label kind expected related error := by
  simp only [compare, actual]
  apply planned_checkLive label value
  exact .bind (ChainId.asks_numberArgument expected) (fun expected => .report _) (.pure ())

theorem planned_compareDelta (value : Double) (label : String) (kind : Kind) (expected : Native)
    (delta : Double) (inside : Bool) (error : String) :
    Planned fun _ id => compareDelta ⟨id, value⟩ label kind expected delta inside error := by
  simp only [compareDelta, actual]
  apply planned_checkLive label value
  cases isDeviation delta with
  | false => exact .report _
  | true => exact .bind (ChainId.asks_numberArgument expected) (fun expected => .report _) (.pure ())

theorem planned_compareRange (value : Double) (label : String) (kind : Kind) (low high : Native)
    (inside : Bool) (error : String) :
    Planned fun _ id => compareRange ⟨id, value⟩ label kind low high inside error := by
  simp only [compareRange, actual]
  apply planned_checkLive label value
  apply Settles.bind (ChainId.asks_numberArgument low)
  · intro low
    exact .bind (ChainId.asks_numberArgument high) (fun high => .report _) (.pure ())
  · exact .bind (ChainId.asks_numberArgument high).reports fun _ => .pure ()

theorem planned_inList (value : Double) (values : List Native) :
    Planned fun _ id => inList ⟨id, value⟩ values := by
  simp only [inList, actual]
  apply planned_checkLive _ value
  apply ChainId.settles_unlessEmpty
  exact .bind (ChainId.asks_numberArguments values) (fun values => .report _) (.pure ())

theorem planned_perform (check : Check) (value : Double) :
    Planned fun _ id => check.perform ⟨id, value⟩ := by
  cases check
  all_goals simp only [Check.perform, isEqual, notEqual, greater, atLeast, less, atMost, inDelta,
    notInDelta, inRange, notInRange, isInteger, isFinite, actual]
  case inDelta | notInDelta => exact planned_compareDelta ..
  case inRange | notInRange => exact planned_compareRange ..
  case inList => exact planned_inList ..
  case isInteger | isFinite => exact planned_check ..
  all_goals exact planned_compare ..

end NumberNode

theorem BooleanNode.planned_perform (check : Check) (value : Bool) :
    Planned fun _ id => check.perform ⟨id, value⟩ := by
  cases check
  all_goals simp only [Check.perform, isTrue, isFalse, isEqual, notEqual, equalTo]
  all_goals exact planned_check ..

theorem MatchNode.planned_perform (check : Check) (value : Captures) :
    Planned fun _ id => check.perform ⟨id, value⟩ := by
  cases check
  all_goals simp only [Check.perform, isEmpty, notEmpty, values, notValues, actual, groups]
  all_goals exact planned_check ..

theorem ResponseNode.planned_perform (check : Check) (value : Http.Response) :
    Planned fun _ id => check.perform ⟨id, value⟩ := by
  cases check
  all_goals simp only [Check.perform, status, statusRange, hasContentType, noContent, actualStatus]
  all_goals exact planned_check ..

/-- What a check does is fixed by its arguments and the value of the node. -/
theorem Check.planned {kind : NodeKind} (check : Check kind) (held : Held kind) :
    Planned fun _ id => check.perform ⟨id, held⟩ := by
  cases kind with
  | value => exact ValueNode.planned_perform check held
  | object => exact ObjectNode.planned_perform check held
  | array => exact ArrayNode.planned_perform check held
  | text => exact TextNode.planned_perform check held
  | number => exact NumberNode.planned_perform check held
  | boolean => exact BooleanNode.planned_perform check held
  | captures => exact MatchNode.planned_perform check held
  | response => exact ResponseNode.planned_perform check held

/-- What a step does: its scope, the failures that it finds, and what its node holds. -/
structure Landing (β : Type) where
  label : String
  findings : List Finding
  failing : Failing findings
  held : β

def Landing.settle (landing : Landing β) (id : ChainId) : Run ω (Node β) := do
  id.reportAll landing.findings
  Node.spawn id landing.held

def Landing.perform (landing : Landing β) (id : ChainId) : Run ω (Node β) :=
  id.within landing.label (landing.settle id)

def Lands (body : ∀ ω : Type, ChainId → Run ω (Node β)) : Prop :=
  ∃ findings held, Failing findings ∧
    ∀ ω id, body ω id = (id.reportAll findings >>= fun _ => Node.spawn id held)

namespace Lands

theorem spawn (held : β) : Lands fun _ id => Node.spawn id held := ⟨[], held, .nil, fun _ _ => rfl⟩

theorem bind {first : ∀ ω : Type, ChainId → Run ω α}
    {next : ∀ ω : Type, ChainId → α → Run ω (Node β)} (hf : Reports first)
    (hn : ∀ a, Lands fun ω id => next ω id a) : Lands fun ω id => first ω id >>= next ω id := by
  obtain ⟨before, a, fails, hfirst⟩ := hf
  obtain ⟨after, held, fails', hnext⟩ := hn a
  refine ⟨before ++ after, held, fails.append fails', fun ω id => ?_⟩
  simp only [hfirst ω id, hnext ω id, ChainId.reportAll_append, bind_assoc, pure_bind]

theorem spawnFailed {finding : Finding} (neutral : β) (fails : finding.passed = false) :
    Lands fun _ id => Node.spawnFailed id finding neutral :=
  .bind (.report fails) fun _ => .spawn neutral

end Lands

theorem Arrives.lands {target : Option β} {neutral : β}
    {body : ∀ ω : Type, ChainId → Run ω (Node β)} (arrives : Arrives target neutral body) :
    Lands body := by
  obtain ⟨lack, fails, same⟩ := arrives
  cases target with
  | some held => exact ⟨[], held, .nil, same⟩
  | none =>
    obtain ⟨findings, held, failing, settles⟩ := Lands.spawnFailed neutral fails
    exact ⟨findings, held, failing, fun ω id => (same ω id).trans (settles ω id)⟩

def Charted (body : ∀ ω : Type, ChainId → Run ω (Node β)) : Prop :=
  ∃ landing : Landing β, ∀ ω id, body ω id = landing.perform id

theorem Routed.charted {label : String} {target : Option β} {neutral : β}
    {body : ∀ ω : Type, ChainId → Run ω (Node β)} (routed : Routed label target neutral body) :
    Charted body := by
  obtain ⟨lack, fails, same⟩ := routed
  have arrives : Arrives target neutral fun ω id => id.arrive (ω := ω) target lack neutral :=
    ⟨lack, fails, fun _ _ => rfl⟩
  obtain ⟨findings, held, failing, settles⟩ := arrives.lands
  refine ⟨⟨label, findings, failing, held⟩, fun ω id => ?_⟩
  exact (same ω id).trans (congrArg (id.within label) (settles ω id))

theorem Step.charted {kind target : NodeKind} (step : Step kind target) (held : Held kind) :
    Charted fun _ id => step.perform ⟨id, held⟩ :=
  (step.routed held).charted

namespace Session

theorem reports_input (value : Native) : Reports fun _ id => input id value := by
  unfold input
  cases Canonical.ofNative value with
  | ok value => exact .pure _
  | error e => exact .bind (.report rfl) fun _ => .pure _

theorem charted_entry (label : String) {body : ∀ ω : Type, ChainId → Run ω (Node β)}
    (hb : Lands body) : ∃ landing : Landing β, ∀ (ω : Type) (session : Session ω),
      session.enter label (body ω) = (session.chain.spawn >>= landing.perform) := by
  obtain ⟨findings, held, fails, h⟩ := hb
  refine ⟨⟨label, findings, fails, held⟩, fun ω session => ?_⟩
  simp only [enter, h]
  rfl

theorem charted_perform {kind : NodeKind} (entry : Entry kind) :
    ∃ landing : Landing (Held kind), ∀ (ω : Type) (session : Session ω),
      entry.perform session = (session.chain.spawn >>= landing.perform) := by
  cases entry with
  | value input => exact charted_entry _ (.bind (reports_input input) fun _ => .spawn _)
  | object input =>
    exact charted_entry _ (.bind (reports_input input) fun form => (arrives_asObject form).lands)
  | array input =>
    exact charted_entry _ (.bind (reports_input input) fun form => (arrives_asArray form).lands)
  | string input => exact charted_entry _ (.spawn input)
  | number input => exact charted_entry _ (.spawn input)
  | boolean input => exact charted_entry _ (.spawn input)

end Session
end FluentAssert
