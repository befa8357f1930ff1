import FluentAssert.Proofs.Chain.Calls

/-! Verdicts. The finding that a check delivers on a live chain, worked out from its arguments. An
argument has a canonical form or a failure in its way, and then that failure is the verdict. -/
namespace FluentAssert

variable {α β : Type}

namespace Finding

variable (finding : Finding) (kind : Kind) (value : Canonical) (values : List Canonical)

@[simp] theorem passed_withActual : (finding.withActual value).passed = finding.passed := rfl

@[simp] theorem passed_withExpected :
    (finding.withExpected value).passed = finding.passed := rfl

@[simp] theorem passed_withExpectedList :
    (finding.withExpectedList values).passed = finding.passed := rfl

@[simp] theorem passed_withDelta (delta : Double) :
    (finding.withDelta delta).passed = finding.passed := rfl

@[simp] theorem kind_withActual : (finding.withActual value).kind = finding.kind := rfl

@[simp] theorem passed_failure (error : String) :
    (Finding.failure kind error).passed = false := rfl

@[simp] theorem kind_failure (error : String) :
    (Finding.failure kind error).kind = kind := rfl

@[simp] theorem passed_check (holds : Bool) (error : String) :
    (Finding.check kind holds error).passed = holds := by
  cases holds <;> rfl

theorem errors_foldl (errors : List String) :
    (errors.foldl Finding.withError finding).errors = finding.errors ++ errors := by
  induction errors generalizing finding with
  | nil => exact (List.append_nil _).symm
  | cons error rest ih =>
    rw [List.foldl_cons, ih]
    exact List.append_assoc ..

@[simp] theorem passed_foldl (errors : List String) :
    (errors.foldl Finding.withError (.ofKind kind)).passed = errors.isEmpty := by
  simp [Finding.passed, Finding.errors_foldl, Finding.ofKind]

end Finding

def Native.argument (value : Native) : Except Finding Canonical :=
  (Canonical.ofNative value).mapError ChainId.badArgument

def Native.numberArgument (value : Native) : Except Finding Double :=
  value.argument >>= fun
    | .number x => .ok x
    | other => .error (ChainId.notNumber other)

/-- The run only asks: it has this answer, or reports the one failure in the way of it. -/
def Answers (body : ∀ ω : Type, ChainId → Run ω (Option α)) : Except Finding α → Prop
  | .ok a => Says body [] (some a)
  | .error failure => failure.passed = false ∧ Says body [failure] none

namespace Answers

theorem lost {failure : Finding} (fails : failure.passed = false) :
    Answers (α := α) (fun _ id => do
      id.report failure
      return none) (.error failure) :=
  ⟨fails, (Says.report failure).bind (.pure none)⟩

theorem bind {first : ∀ ω : Type, ChainId → Run ω (Option α)}
    {next : ∀ ω : Type, ChainId → Option α → Run ω (Option β)} {answer : Except Finding α}
    {answers : α → Except Finding β} (hf : Answers first answer)
    (found : ∀ a, Answers (fun ω id => next ω id (some a)) (answers a))
    (lost : Says (fun ω id => next ω id none) [] none) :
    Answers (fun ω id => first ω id >>= next ω id) (answer >>= answers) := by
  cases answer with
  | error failure =>
    obtain ⟨fails, told⟩ := hf
    exact ⟨fails, told.bind lost⟩
  | ok a =>
    have second := found a
    show Answers _ (answers a)
    generalize answers a = result at second
    cases result with
    | ok b => exact Says.bind hf second
    | error failure => exact ⟨second.1, Says.bind hf second.2⟩

theorem argument (value : Native) : Answers (fun _ id => id.argument value) value.argument := by
  unfold ChainId.argument Native.argument
  cases Canonical.ofNative value with
  | ok value => exact Says.pure _
  | error e => exact .lost rfl

theorem numberArgument (value : Native) :
    Answers (fun _ id => id.numberArgument value) value.numberArgument := by
  refine .bind (.argument value) (fun value => ?_) (.pure none)
  cases value with
  | number x => exact Says.pure _
  | null | bool | text | array | object => exact .lost rfl

theorem arguments (values : List Native) :
    Answers (fun _ id => id.arguments values) (values.mapM Native.argument) := by
  induction values with
  | nil => exact Says.pure _
  | cons value rest ih =>
    rw [List.mapM_cons]
    refine .bind (.argument value) (fun first => ?_) (.pure none)
    exact .bind ih (fun others => Says.pure _) (.pure none)

theorem numberArguments (values : List Native) :
    Answers (fun _ id => id.numberArguments values) (values.mapM Native.numberArgument) := by
  induction values with
  | nil => exact Says.pure _
  | cons value rest ih =>
    rw [List.mapM_cons]
    refine .bind (.numberArgument value) (fun first => ?_) (.pure none)
    exact .bind ih (fun others => Says.pure _) (.pure none)

end Answers

/-- The run reports this finding, and more only after it failed. -/
def Decides (body : ∀ ω : Type, ChainId → Run ω Unit) (finding : Finding) : Prop :=
  ∃ rest, Decisive (finding :: rest) ∧ Says body (finding :: rest) ()

/-- What is found with the answer, or the failure in the way of it. -/
def Finding.given (answer : Except Finding α) (finding : α → Finding) : Finding :=
  match answer with
  | .ok a => finding a
  | .error failure => failure

namespace Decides

variable {finding : Finding}

theorem report (finding : Finding) : Decides (fun _ id => id.report finding) finding :=
  ⟨[], Decisive.one, .report finding⟩

theorem bind {first : ∀ ω : Type, ChainId → Run ω (Option α)}
    {next : ∀ ω : Type, ChainId → Option α → Run ω Unit} {answer : Except Finding α}
    {finding : α → Finding} (hf : Answers first answer)
    (found : ∀ a, Decides (fun ω id => next ω id (some a)) (finding a))
    (lost : Reports fun ω id => next ω id none) :
    Decides (fun ω id => first ω id >>= next ω id) (.given answer finding) := by
  cases answer with
  | ok a =>
    obtain ⟨rest, decisive, told⟩ := found a
    exact ⟨rest, decisive, Says.bind hf told⟩
  | error failure =>
    obtain ⟨fails, asks⟩ := hf
    obtain ⟨later, _, _, told⟩ := lost
    -- What is reported behind the failure is not heard, whatever it is.
    refine ⟨later, fun passed => ?_, asks.bind told⟩
    exact absurd (fails.symm.trans passed) Bool.false_ne_true

theorem withArgument (value : Native) (finding : Canonical → Finding) :
    Decides (fun _ id => id.withArgument value fun c => id.report (finding c))
      (.given value.argument finding) :=
  .bind (.argument value) (fun c => .report (finding c)) (.pure ())

theorem withArguments (values : List Native) (finding : List Canonical → Finding) :
    Decides (fun _ id => id.withArguments values fun cs => id.report (finding cs))
      (.given (values.mapM Native.argument) finding) :=
  .bind (.arguments values) (fun cs => .report (finding cs)) (.pure ())

theorem unlessEmpty (values : List α) {body : ∀ ω : Type, ChainId → Run ω Unit}
    (hb : Decides body finding) :
    Decides (fun ω id => id.unlessEmpty values (body ω id))
      (if values.isEmpty then ChainId.noArguments else finding) := by
  unfold ChainId.unlessEmpty
  cases values.isEmpty with
  | true => exact .report _
  | false => exact hb

end Decides

/-- On every live chain the run makes one call of the handler, with this finding. The handler may do
what it likes. -/
def Finds (body : ∀ ω : Type, ChainId → Run ω Unit) (finding : Finding) : Prop :=
  ∀ (ω : Type) (world : World ω) (id : ChainId), (world.chain id).failed = false →
    Heard id world (body ω id world).2 [finding]

namespace Finds

variable {ω : Type} {finding : Finding}

theorem live_entered {world : World ω} {id : ChainId} (live : (world.chain id).failed = false)
    (label : String) : ((Run.happen (.entered id label) world).2.chain id).failed = false :=
  (Stage.failed_entered id id label).trans live

theorem check (label : String) (finding : Finding) (value : α) :
    Finds (fun _ id => (⟨id, value⟩ : Node α).check label finding) finding := by
  intro ω world id live
  exact .within (.report_live (live_entered live label) finding)

theorem checkLive (label : String) (value : α) {body : ∀ ω : Type, ChainId → Run ω Unit}
    (hb : Decides body finding) :
    Finds (fun ω id => (⟨id, value⟩ : Node α).checkLive label (body ω id)) finding := by
  intro ω world id live
  obtain ⟨rest, decisive, told⟩ := hb
  have entered := live_entered live label
  have whole : id.whileLive (body ω id) (Run.happen (.entered id label) world).2 =
      id.reportAll (finding :: rest) (Run.happen (.entered id label) world).2 := by
    rw [told ω id, bind_pure_unit]
    show (if ((Run.happen (.entered id label) world).2.chain id).failed then _ else _ :
      Run ω Unit) _ = _
    rw [if_neg (by simp [entered])]
  refine .within ?_
  rw [whole]
  exact .reportAll_live entered decisive

end Finds
end FluentAssert
