import FluentAssert.Proofs.Node.Trail
import FluentAssert.Proofs.Operation.Verdict

/-! Judgements. What is asserted on a node comes to one finding, and a condition on the value of the
node and on the arguments says whether it passes. Steps, one or several, lead to what they look for
or deliver failures. -/
namespace FluentAssert

variable {α β : Type}

/-- On every chain the run delivers this one finding, as far as it is audible: nothing else on a
live chain and nothing at all on a failed one, whatever the handler does. -/
def Tests (body : ∀ ω : Type, ChainId → Run ω Unit) (finding : Finding) : Prop :=
  ∀ (ω : Type) (world : World ω) (id : ChainId), world.Has id →
    Delivers world (body ω id) (world.audible id [finding])

/-- The run comes to one finding, which passes just if this holds. -/
def Judges (body : ∀ ω : Type, ChainId → Run ω Unit) (holds : Prop) : Prop :=
  ∃ finding, Tests body finding ∧ (finding.passed = true ↔ holds)

/-- A live chain, in some world. -/
structure Standpoint where
  {ω : Type}
  world : World ω
  chain : ChainId
  live : (world.chain chain).failed = false

/-- From here the run delivers one finding, and that passes. -/
def Standpoint.Passes (here : Standpoint) (body : ∀ ω : Type, ChainId → Run ω Unit) : Prop :=
  ∃ finding : Finding, finding.passed = true ∧
    Delivers here.world (body here.ω here.chain) [finding]

/-- From here the run delivers a failure, and nothing else. -/
def Standpoint.Fails (here : Standpoint) (body : ∀ ω : Type, ChainId → Run ω α) : Prop :=
  ∃ finding : Finding, finding.passed = false ∧
    Delivers here.world (body here.ω here.chain) [finding]

/-- From here the run delivers no failure and leads to a node that holds this. -/
def Standpoint.Reaches (here : Standpoint) (body : ∀ ω : Type, ChainId → Run ω (Node α))
    (held : α) : Prop :=
  (∃ findings : List Finding, (∀ finding ∈ findings, finding.passed = true) ∧
    Delivers here.world (body here.ω here.chain) findings) ∧
  ∃ child last, body here.ω here.chain here.world = (.ok ⟨child, held⟩, last)

namespace Native

variable {value : Native}

theorem argument_ok {form : Canonical} :
    value.argument = .ok form ↔ Canonical.ofNative value = .ok form := by
  unfold argument
  cases Canonical.ofNative value <;> simp [Except.mapError]

theorem numberArgument_ok {x : Double} :
    value.numberArgument = .ok x ↔ Canonical.ofNative value = .ok (.number x) := by
  unfold numberArgument argument
  cases Canonical.ofNative value with
  | error e => simp [Except.mapError, bind, Except.bind]
  | ok form => cases form <;> simp [Except.mapError, bind, Except.bind]

end Native

theorem Answers.passed_given {body : ∀ ω : Type, ChainId → Run ω (Option α)}
    {answer : Except Finding α} (answers : Answers body answer) (finding : α → Finding) :
    (Finding.given answer finding).passed = true ↔
      ∃ a, answer = .ok a ∧ (finding a).passed = true := by
  cases answer with
  | ok a => simp [Finding.given]
  | error failure => simp [Finding.given, answers.1]

theorem Heard.whileLive_failed {ω : Type} {world : World ω} {id : ChainId}
    (failed : (world.chain id).failed = true) (body : Run ω Unit) :
    Heard id world (id.whileLive body world).2 [] := by
  have whole : id.whileLive body world =
      (if (world.chain id).failed then return () else body : Run ω Unit) world := rfl
  rw [whole, if_pos failed]
  exact .refl world

namespace Tests

variable {body : ∀ ω : Type, ChainId → Run ω Unit} {finding : Finding}

theorem delivers (tests : Tests body finding) (here : Standpoint) :
    Delivers here.world (body here.ω here.chain) [finding] := by
  have one := tests here.ω here.world here.chain (Stage.has_of_live here.live)
  rwa [World.audible_live here.live] at one

theorem check (label : String) (value : α) (finding : Finding) :
    Tests (fun _ id => (⟨id, value⟩ : Node α).check label finding) finding := by
  intro ω world id _
  have decisive : Decisive [finding] := .one
  have heard : Heard id _ _ _ :=
    .reportAll (Run.happen (.entered id label) world).2 (.inr decisive)
  simp only [ChainId.reportAll, bind_pure_unit, World.audible_entered] at heard
  exact .of_heard (.within heard)

theorem checkLive (label : String) (value : α) (decides : Decides body finding) :
    Tests (fun ω id => (⟨id, value⟩ : Node α).checkLive label (body ω id)) finding := by
  intro ω world id _
  have heard : Heard id world ((⟨id, value⟩ : Node α).checkLive label (body ω id) world).2
      (world.audible id [finding]) := by
    by_cases failed : (world.chain id).failed = true
    · rw [World.audible_failed failed]
      exact .within (.whileLive_failed ((Stage.failed_entered id id label).trans failed) _)
    · have live : (world.chain id).failed = false := Bool.eq_false_iff.mpr failed
      rw [World.audible_live live]
      exact Finds.checkLive label value decides ω world id live
  exact .of_heard heard

theorem argument (label : String) (value : α) {given : Native} {form : Canonical}
    (canonical : Canonical.ofNative given = .ok form) (finding : Canonical → Finding) :
    Tests (fun _ id => (⟨id, value⟩ : Node α).checkLive label <|
        id.withArgument given fun form => id.report (finding form)) (finding form) := by
  have decides := Decides.withArgument given finding
  rw [Native.argument_ok.mpr canonical] at decides
  exact checkLive label value decides

end Tests

namespace Judges

variable {body : ∀ ω : Type, ChainId → Run ω Unit} {holds holds' : Prop}

theorem passes_iff (h : Judges body holds) (here : Standpoint) : here.Passes body ↔ holds := by
  obtain ⟨finding, tests, decides⟩ := h
  have one := tests.delivers here
  constructor
  · rintro ⟨other, passed, delivered⟩
    cases one.unique delivered
    exact decides.mp passed
  · intro held
    exact ⟨finding, decides.mpr held, one⟩

theorem fails_iff (h : Judges body holds) (here : Standpoint) : here.Fails body ↔ ¬ holds := by
  obtain ⟨finding, tests, decides⟩ := h
  have one := tests.delivers here
  rw [← decides, Bool.not_eq_true]
  constructor
  · rintro ⟨other, fails, delivered⟩
    cases one.unique delivered
    exact fails
  · intro fails
    exact ⟨finding, fails, one⟩

theorem of_tests {finding : Finding} (tests : Tests body finding) :
    Judges body (finding.passed = true) :=
  ⟨finding, tests, Iff.rfl⟩

theorem congr (h : Judges body holds) (same : holds ↔ holds') : Judges body holds' := by
  obtain ⟨finding, tests, decides⟩ := h
  exact ⟨finding, tests, decides.trans same⟩

theorem check (label : String) (value : α) (finding : Finding) :
    Judges (fun _ id => (⟨id, value⟩ : Node α).check label finding) (finding.passed = true) :=
  .of_tests (.check label value finding)

theorem checkLive (label : String) (value : α) {finding : Finding} (decides : Decides body finding) :
    Judges (fun ω id => (⟨id, value⟩ : Node α).checkLive label (body ω id))
      (finding.passed = true) :=
  .of_tests (.checkLive label value decides)

theorem argument (label : String) (value : α) (given : Native) (finding : Canonical → Finding) :
    Judges (fun _ id => (⟨id, value⟩ : Node α).checkLive label <|
        id.withArgument given fun form => id.report (finding form))
      (∃ form, Canonical.ofNative given = .ok form ∧ (finding form).passed = true) := by
  refine (checkLive label value (.withArgument given finding)).congr ?_
  rw [(Answers.argument given).passed_given]
  simp only [Native.argument_ok]

end Judges

/-- The run leads to the target, if there is one, and delivers failures if not. -/
def Seeks (body : ∀ ω : Type, ChainId → Run ω (Node α)) (target : Option α) : Prop :=
  ∃ missing held, Failing missing ∧
    (∀ value, target = some value ↔ missing = [] ∧ held = value) ∧
    ∀ (ω : Type) (own : ChainId) (world : World ω), world.Has own →
      Leads own world (body ω own) held missing

/-- On every chain, live or failed, the run delivers nothing and leads to a node that holds this. -/
def Yields (body : ∀ ω : Type, ChainId → Run ω (Node α)) (held : α) : Prop :=
  ∀ (ω : Type) (own : ChainId) (world : World ω), world.Has own →
    Delivers world (body ω own) [] ∧
    ∃ child last, body ω own world = (.ok ⟨child, held⟩, last)

theorem Yields.reaches {body : ∀ ω : Type, ChainId → Run ω (Node α)} {held : α}
    (yields : Yields body held) (here : Standpoint) : here.Reaches body held := by
  obtain ⟨delivers, returned⟩ := yields here.ω here.chain here.world (Stage.has_of_live here.live)
  exact ⟨⟨[], by simp, delivers⟩, returned⟩

namespace Seeks

variable {body : ∀ ω : Type, ChainId → Run ω (Node α)} {target : Option α}

theorem yields (seeks : Seeks body target) {value : α} (there : target = some value) :
    Yields body value := by
  obtain ⟨missing, held, -, found, leads⟩ := seeks
  obtain ⟨rfl, rfl⟩ := (found value).mp there
  intro ω own world has
  have from_own := leads ω own world has
  have nothing : world.audible own [] = [] := by simp [World.audible]
  have delivers := from_own.delivers
  rw [nothing] at delivers
  refine ⟨delivers, ?_⟩
  cases result : body ω own world with
  | mk ending last =>
    cases ending with
    | error reason => exact absurd rfl (from_own.unwinds reason last result).2
    | ok node =>
      obtain ⟨rfl, -⟩ := from_own.node node last result
      exact ⟨node.chain, last, rfl⟩

theorem reaches_iff (seeks : Seeks body target) (here : Standpoint) (value : α) :
    here.Reaches body value ↔ target = some value := by
  refine ⟨?_, fun there => (seeks.yields there).reaches here⟩
  obtain ⟨missing, held, failing, found, leads⟩ := seeks
  have from_here := leads here.ω here.chain here.world (Stage.has_of_live here.live)
  have delivers := from_here.delivers
  rw [World.audible_live here.live] at delivers
  rw [found]
  rintro ⟨⟨findings, passing, delivered⟩, child, last, returned⟩
  cases delivers.unique delivered
  refine ⟨?_, (from_here.node _ _ returned).1.symm⟩
  cases missing with
  | nil => rfl
  | cons lack rest =>
    have fails : lack.passed = false := failing lack List.mem_cons_self
    have passes : lack.passed = true := passing lack (by simp)
    cases fails.symm.trans passes

theorem fails_iff (seeks : Seeks body target) (here : Standpoint) :
    here.Fails body ↔ target = none := by
  obtain ⟨missing, held, failing, found, leads⟩ := seeks
  have delivers := (leads here.ω here.chain here.world (Stage.has_of_live here.live)).delivers
  rw [World.audible_live here.live] at delivers
  cases missing with
  | nil =>
    rw [(found held).mpr ⟨rfl, rfl⟩]
    simp only [reduceCtorEq, iff_false]
    rintro ⟨finding, -, delivered⟩
    cases delivers.unique delivered
  | cons lack rest =>
    have none : target = none := by
      refine Option.eq_none_iff_forall_ne_some.mpr fun value there => ?_
      cases ((found value).mp there).1
    exact iff_of_true ⟨lack, failing lack List.mem_cons_self, delivers⟩ none

theorem yields_iff (seeks : Seeks body target) (value : α) :
    Yields body value ↔ target = some value := by
  constructor
  · intro yields
    let world : World Unit := { World.start () with chains := #[⟨none, [], false, ⟨0⟩, ⟨0⟩⟩] }
    let here : Standpoint := ⟨world, ⟨0⟩, rfl⟩
    exact (seeks.reaches_iff here value).mp (yields.reaches here)
  · exact seeks.yields

theorem step {kind target : NodeKind} (step : Step kind target) (held : Held kind) :
    Seeks (fun _ id => step.perform ⟨id, held⟩) (step.target? held) := by
  obtain ⟨missing, failing, none, leads⟩ := step.leads held
  refine ⟨missing, _, failing, fun value => ?_, leads⟩
  rw [none]
  cases step.target? held <;> simp

theorem bind {next : ∀ ω : Type, Node α → Run ω (Node β)} {targets : α → Option β}
    (first : Seeks body target)
    (second : ∀ value, Seeks (fun ω id => next ω ⟨id, value⟩) (targets value)) :
    Seeks (fun ω id => body ω id >>= next ω) (target.bind targets) := by
  obtain ⟨missing, held, failing, found, leads⟩ := first
  obtain ⟨missing', held', failing', found', leads'⟩ := second held
  refine ⟨missing ++ missing', held', failing.append failing', fun value => ?_, ?_⟩
  · simp only [Option.bind_eq_some_iff, found, List.append_eq_nil_iff]
    constructor
    · rintro ⟨_, ⟨none, rfl⟩, there⟩
      obtain ⟨none', same⟩ := (found' value).mp there
      exact ⟨⟨none, none'⟩, same⟩
    · rintro ⟨⟨none, none'⟩, same⟩
      exact ⟨held, ⟨none, rfl⟩, (found' value).mpr ⟨none', same⟩⟩
  · intro ω own world has
    refine (leads ω own world has).bind fun node last value has => ?_
    subst value
    exact leads' ω node.chain last has

theorem judges {next : ∀ ω : Type, Node α → Run ω Unit} {holds : α → Prop}
    (seeks : Seeks body target)
    (h : ∀ value, Judges (fun ω id => next ω ⟨id, value⟩) (holds value)) :
    Judges (fun ω id => body ω id >>= next ω) (∃ value, target = some value ∧ holds value) := by
  obtain ⟨missing, held, failing, found, leads⟩ := seeks
  obtain ⟨finding, tests, decides⟩ := h held
  have whole (ω : Type) (world : World ω) (id : ChainId) (has : world.Has id) :
      Delivers world (body ω id >>= next ω) (world.audible id (missing ++ [finding])) := by
    refine (leads ω id world has).delivers_bind fun node last value has => ?_
    rw [← value] at tests
    exact tests ω last node.chain has
  cases missing with
  | nil =>
    refine ⟨finding, whole, ?_⟩
    simpa [found] using decides
  | cons lack rest =>
    have fails : lack.passed = false := failing lack List.mem_cons_self
    refine ⟨lack, whole, ?_⟩
    simp [found, fails]

end Seeks

/-- After a step it is the target that is judged. Without a target the step itself is at fault. -/
theorem Judges.after {kind target : NodeKind} (step : Step kind target) (held : Held kind)
    (next : ∀ ω : Type, Node (Held target) → Run ω Unit) {holds : Held target → Prop}
    (h : ∀ value, Judges (fun ω id => next ω ⟨id, value⟩) (holds value)) :
    Judges (fun ω id => step.perform ⟨id, held⟩ >>= next ω)
      (∃ value, step.target? held = some value ∧ holds value) :=
  (Seeks.step step held).judges h

theorem ValueNode.judges_isEqual (held : Canonical) (expected : Native) :
    Judges (fun _ id => isEqual ⟨id, held⟩ expected)
      (∃ form, Canonical.ofNative expected = .ok form ∧ (held == form) = true) := by
  simp only [isEqual]
  refine (Judges.argument "is_equal()" held expected _).congr ?_
  simp

theorem ArrayNode.judges_isEqual (held : List Canonical) (expected : Native) :
    Judges (fun _ id => isEqual ⟨id, held⟩ expected)
      (∃ form, Canonical.ofNative expected = .ok form ∧ (Canonical.array held == form) = true) := by
  simp only [isEqual, actual]
  refine (Judges.argument "is_equal()" held expected _).congr ?_
  simp

theorem ObjectNode.judges_isEqual (held : Fields Canonical) (expected : Native) :
    Judges (fun _ id => isEqual ⟨id, held⟩ expected)
      (∃ form, Canonical.ofNative expected = .ok form ∧ (Canonical.object held == form) = true) := by
  simp only [isEqual, actual]
  refine (Judges.argument "is_equal()" held expected _).congr ?_
  simp

theorem NumberNode.judges_compare (held : Double) (label : String) (kind : Kind)
    (expected : Native) (related : Double → Double → Bool) (error : String) :
    Judges (fun _ id => compare ⟨id, held⟩ label kind expected related error)
      (∃ y, Canonical.ofNative expected = .ok (.number y) ∧ related held y = true) := by
  simp only [compare, actual]
  refine (Judges.checkLive label held
    (.bind (.numberArgument expected) (fun y => .report _) (.pure ()))).congr ?_
  rw [(Answers.numberArgument expected).passed_given]
  simp [Native.numberArgument_ok]

theorem NumberNode.judges_isEqual (held : Double) (expected : Native) :
    Judges (fun _ id => isEqual ⟨id, held⟩ expected)
      (∃ y, Canonical.ofNative expected = .ok (.number y) ∧ held.equal y = true) :=
  judges_compare held ..

theorem TextNode.judges_isEqual (held expected : String) :
    Judges (fun _ id => isEqual ⟨id, held⟩ expected) ((held == expected) = true) := by
  simp only [isEqual, compare, actual]
  refine (Judges.check "is_equal()" held _).congr ?_
  simp

theorem BooleanNode.judges_isEqual (held expected : Bool) :
    Judges (fun _ id => isEqual ⟨id, held⟩ expected) ((held == expected) = true) := by
  simp only [isEqual, equalTo]
  refine (Judges.check "is_equal()" held _).congr ?_
  simp

end FluentAssert
