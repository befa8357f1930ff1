import FluentAssert.Proofs.Operation.Plan

/-! Reads of an environment have one form. Inside a scope of its own, and only while its chain is
live, a read looks at the store, and finds there an answer or a failure. -/
namespace FluentAssert

variable {ω α β : Type}

/-- What a read does: its scope, its answer where the chain has failed, and what it finds and
answers according to the store. -/
structure Inquiry (α : Type) where
  label : String
  neutral : α
  findings : Store → List Finding
  failing : ∀ contents, Failing (findings contents)
  answer : Store → α

namespace Inquiry

/-- What is done once the store has been looked at. -/
def settle (inquiry : Inquiry α) (id : ChainId) (contents : Store) : Run ω α := do
  id.reportAll (inquiry.findings contents)
  return inquiry.answer contents

def perform (inquiry : Inquiry α) (handle : Handle) : Run ω α :=
  handle.chain.within inquiry.label do
    if ← handle.chain.isFailed then return inquiry.neutral
    inquiry.settle handle.chain (← (← handle.store).contents)

def map (f : α → β) (inquiry : Inquiry α) : Inquiry β :=
  { inquiry with neutral := f inquiry.neutral, answer := fun contents => f (inquiry.answer contents) }

end Inquiry

theorem ChainId.within_map (id : ChainId) (label : String) (body : Run ω α) (f : α → β) :
    (do return f (← id.within label body)) = id.within label (do return f (← body)) := by
  have conclude (ending : Except String α) : (do return f (← Run.conclude (ω := ω) ending)) =
      Run.conclude (ending.map f) := by
    cases ending <;> rfl
  have observe : Run.observe (do return f (← body)) =
      (do return (← Run.observe body).map f) := by
    funext world
    simp only [Run.observe, Run.bind_apply]
    rcases body world with ⟨ending, last⟩
    cases ending <;> rfl
  simp only [within, bind_assoc, observe, pure_bind, conclude]

theorem Inquiry.perform_map (inquiry : Inquiry α) (f : α → β) (handle : Handle) :
    (do return f (← inquiry.perform handle)) = (inquiry.map f).perform (ω := ω) handle := by
  simp only [perform, ChainId.within_map, bind_assoc]
  congr 1
  refine bind_congr fun failed => ?_
  cases failed with
  | true => rfl
  | false => simp only [Bool.false_eq_true, if_false, bind_assoc, settle, pure_bind, map]

namespace Inquiry

/-- An inquiry that has an answer, or reports a failure and answers with the default. -/
def ofResult (label : String) (neutral : α) (result : Store → Except Finding α)
    (failing : ∀ contents finding, result contents = .error finding → finding.passed = false) :
    Inquiry α where
  label := label
  neutral := neutral
  findings contents := match result contents with
    | .ok _ => []
    | .error finding => [finding]
  failing contents := by
    cases h : result contents with
    | ok a => exact .nil
    | error finding => exact .one (failing contents finding h)
  answer contents := match result contents with
    | .ok a => a
    | .error _ => neutral

theorem perform_ofResult {label : String} {neutral : α} {result : Store → Except Finding α}
    {failing : ∀ contents finding, result contents = .error finding → finding.passed = false}
    (handle : Handle) {look : Store → Run ω α}
    (same : ∀ contents, look contents = match result contents with
      | .ok a => return a
      | .error finding => do
        handle.chain.report finding
        return neutral) :
    (handle.chain.within label do
      if ← handle.chain.isFailed then return neutral
      look (← (← handle.store).contents)) =
      (ofResult label neutral result failing).perform handle := by
  have whole : look = (ofResult label neutral result failing).settle handle.chain := by
    funext contents
    rw [same]
    simp only [settle, ofResult]
    cases result contents with
    | ok a => rfl
    | error finding => simp only [ChainId.reportAll, bind_assoc, pure_bind]
  rw [whole]
  rfl

end Inquiry

namespace Handle

def badPattern (pattern : String) (error : Glob.PatternError) : Finding :=
  .failure .valid ("invalid glob pattern " ++ Text.quoted pattern ++ ": " ++ error.message)

/-- What a conversion makes of the value under a key, if there is one. -/
def lookUp (key type : String) (convert : Stored → Option α) : Option Stored → Except Finding α
  | none => .error (missing key)
  | some stored =>
    match convert stored with
    | some a => .ok a
    | none => .error (wrongType key type)

theorem lookUp_fails {key type : String} {convert : Stored → Option α} {held : Option Stored}
    {finding : Finding} (h : lookUp key type convert held = .error finding) :
    finding.passed = false := by
  unfold lookUp at h
  split at h
  · cases h
    rfl
  · split at h
    · cases h
    · cases h
      rfl

end Handle

namespace Inquiry

def globbing (pattern : String) : Inquiry (List String) :=
  ofResult (Handle.label "glob" pattern) []
    (fun contents => (contents.glob pattern).mapError (Handle.badPattern pattern))
    (by
      intro contents finding h
      cases found : contents.glob pattern with
      | ok keys =>
        rw [found] at h
        cases h
      | error e =>
        rw [found] at h
        cases h
        rfl)

def reading (accessor key type : String) (convert : Stored → Option α) : Inquiry (Option α) :=
  ofResult (Handle.label accessor key) none
    (fun contents => (Handle.lookUp key type convert (Fields.get? contents key)).map some)
    (by
      intro contents finding h
      cases found : Handle.lookUp key type convert (Fields.get? contents key) with
      | ok a =>
        rw [found] at h
        cases h
      | error f =>
        rw [found] at h
        cases h
        exact Handle.lookUp_fails found)

theorem perform_globbing (pattern : String) (handle : Handle) :
    handle.glob pattern = (globbing pattern).perform (ω := ω) handle := by
  unfold Handle.glob globbing
  refine perform_ofResult handle fun contents => ?_
  cases contents.glob pattern <;> rfl

theorem perform_reading (accessor key type : String) (convert : Stored → Option α)
    (handle : Handle) :
    handle.read accessor key type convert =
      (reading accessor key type convert).perform (ω := ω) handle := by
  unfold Handle.read reading
  refine perform_ofResult handle fun contents => ?_
  cases Fields.get? contents key with
  | none => rfl
  | some stored =>
    simp only [Handle.lookUp]
    cases convert stored <;> rfl

end Inquiry

def Read.inquiry : Read α → Inquiry α
  | .glob pattern => .globbing pattern
  | .get type key => .reading "get" key type.label (Stored.ofType? type)
  | .text key => (Inquiry.reading "get_string" key "string" Stored.text?).map (·.getD "")
  | .integer key => (Inquiry.reading "get_int" key "integer" Stored.integer?).map (·.getD 0)
  | .number key =>
    (Inquiry.reading "get_float" key "number" Stored.number?).map (·.getD (.zero false))
  | .bool key => (Inquiry.reading "get_bool" key "boolean" Stored.bool?).map (·.getD false)
  | .bytes key => (Inquiry.reading "get_bytes" key "bytes" Stored.bytes?).map (·.getD [])
  | .duration key =>
    (Inquiry.reading "get_duration" key "duration" Stored.duration?).map (·.getD .zero)

theorem Read.perform_inquiry (read : Read α) (handle : Handle) :
    read.perform handle = read.inquiry.perform (ω := ω) handle := by
  cases read with
  | glob pattern => exact Inquiry.perform_globbing pattern handle
  | get type key => exact Inquiry.perform_reading ..
  | text | integer | number | bool | bytes | duration =>
    simp only [inquiry, ← Inquiry.perform_map, ← Inquiry.perform_reading]
    rfl

end FluentAssert
