import FluentAssert.Native.OfJson
import FluentAssert.Proofs.Json.Proper
import FluentAssert.Proofs.Node.Body
import FluentAssert.Session

/-! Two ways from a document to a canonical value. A body that is read turns into one by itself; as
an argument or an input a document is handed over as a native value first. Both come to one tree. -/
namespace FluentAssert

open FluentAssert.Http

namespace Canonical

theorem ofNative_ofInteger {n : Int} (kept : Json.KeptInteger n) :
    ofNative (.ofInteger n) = .ok (number (Double.ofInt n)) := by
  have small : n.natAbs < 2 ^ 128 := by
    simp only [Json.KeptInteger, Nat.pow_eq] at kept
    omega
  -- An integer that is kept is far below the greatest double, whichever width it is handed over in.
  have finite : ofDouble (Double.ofInt n) = number (Double.ofInt n) :=
    if_pos (Double.ofInt_finite small)
  unfold Native.ofInteger
  split
  · exact congrArg Except.ok finite
  · split
    · exact congrArg Except.ok finite
    · exact congrArg Except.ok finite

theorem ofItems_ofJson {items : List Json}
    (same : ∀ item ∈ items, ofNative (.ofJson item) = .ok (.ofJson item)) :
    ofItems (Native.ofJsonItems items) = .ok (ofJsonItems items) := by
  induction items with
  | nil => rfl
  | cons item rest ih =>
    obtain ⟨first, others⟩ := List.forall_mem_cons.mp same
    rw [Native.ofJsonItems, ofItems, first, ih others]
    rfl

theorem ofEntries_ofJson {fields : List (String × Json)}
    (same : ∀ field ∈ fields, ofNative (.ofJson field.2) = .ok (.ofJson field.2)) :
    ofEntries (Native.ofJsonFields fields) = .ok (ofJsonFields fields) := by
  induction fields with
  | nil => rfl
  | cons field rest ih =>
    obtain ⟨first, others⟩ := List.forall_mem_cons.mp same
    rw [Native.ofJsonFields, ofEntries, keyText, first, ih others]
    rfl

@[simp] theorem keys_ofJsonFields (fields : List (String × Json)) :
    Fields.keys (ofJsonFields fields) = Fields.keys fields := by
  induction fields with
  | nil => rfl
  | cons field rest ih => exact congrArg (field.1 :: ·) ih

theorem ordered_ofJsonFields {fields : Fields Json} (ordered : fields.Ordered) :
    Fields.Ordered (ofJsonFields fields) := by
  rwa [Fields.Ordered, keys_ofJsonFields]

end Canonical

theorem Json.Proper.ofNative_ofJson {document : Json} (proper : document.Proper) :
    Canonical.ofNative (.ofJson document) = .ok (.ofJson document) := by
  induction proper with
  | null | bool | real | text => rfl
  | integer kept => exact Canonical.ofNative_ofInteger kept
  | list _ ih =>
    rw [Native.ofJson, Canonical.ofNative, Canonical.ofItems_ofJson ih]
    rfl
  | object ordered _ ih =>
    rw [Native.ofJson, Canonical.ofNative, Canonical.ofEntries_ofJson ih]
    show Except.ok (Canonical.object (Fields.ofEntries _)) = _
    rw [Fields.ofEntries_self (Canonical.ordered_ofJsonFields ordered)]
    rfl

theorem Http.Response.jsonValue_document {response : Response} {value : Canonical}
    (reads : response.jsonValue = .ok value) :
    ∃ document, Json.read response.body = .ok document ∧ value = .ofJson document := by
  rw [Response.jsonValue] at reads
  split at reads
  · cases reads
  · cases body : Json.read response.body with
    | error e =>
      rw [body] at reads
      cases reads
    | ok document =>
      rw [body] at reads
      exact ⟨document, rfl, (Except.ok.inj reads).symm⟩

section Arguments

variable {ω : Type} (chain : ChainId) {value : Native} {form : Canonical}

theorem ChainId.argument_form (canonical : Canonical.ofNative value = .ok form) :
    chain.argument value = (return some form : Run ω (Option Canonical)) := by
  rw [ChainId.argument, canonical]

theorem ChainId.arguments_form {values : List Native} {forms : List Canonical}
    (canonical : List.Forall₂ (fun value form => Canonical.ofNative value = .ok form) values forms) :
    chain.arguments values = (return some forms : Run ω (Option (List Canonical))) := by
  induction canonical with
  | nil => rfl
  | cons first _ ih =>
    rw [ChainId.arguments, chain.argument_form first, ih]
    rfl

theorem Session.input_form (canonical : Canonical.ofNative value = .ok form) :
    Session.input chain value = (return form : Run ω Canonical) := by
  rw [Session.input, canonical]

end Arguments

/-- A document is one tree on either way, and the same tree as an argument, among the arguments of a
list and as an input of a session. What is read of a body is such a document, and the node of it is
found equal to the document. -/
theorem Json.routes_agree :
    (∀ document : Json, document.Proper →
      Canonical.ofNative (.ofJson document) = .ok (.ofJson document)) ∧
    (∀ (ω : Type) (chain : ChainId) (document : Json), document.Proper →
      chain.argument (.ofJson document) =
        (return some (.ofJson document) : Run ω (Option Canonical)) ∧
      Session.input chain (.ofJson document) = (return .ofJson document : Run ω Canonical)) ∧
    (∀ (ω : Type) (chain : ChainId) (documents : List Json),
      (∀ document ∈ documents, document.Proper) →
      chain.arguments (documents.map .ofJson) =
        (return some (documents.map .ofJson) : Run ω (Option (List Canonical)))) ∧
    ∀ (response : Response) (value : Canonical), response.jsonValue = .ok value →
      ∃ (document : Json) (finding : Finding), document.Proper ∧
        Json.read response.body = .ok document ∧ value = .ofJson document ∧
        Finds (fun _ id => ValueNode.isEqual ⟨id, value⟩ (.ofJson document)) finding ∧
        finding.passed = true := by
  refine ⟨?_, ?_, ?_, ?_⟩
  · intro document proper
    exact proper.ofNative_ofJson
  · intro ω chain document proper
    have canonical := proper.ofNative_ofJson
    exact ⟨chain.argument_form canonical, Session.input_form chain canonical⟩
  · intro ω chain documents proper
    apply chain.arguments_form
    rw [List.forall₂_map_left_iff, List.forall₂_map_right_iff, List.forall₂_same]
    intro document member
    exact (proper document member).ofNative_ofJson
  · intro response value reads
    obtain ⟨document, body, rfl⟩ := response.jsonValue_document reads
    have proper := Json.proper_of_read body
    obtain ⟨finding, finds, passed⟩ := ValueNode.isEqual_form proper.ofNative_ofJson
    exact ⟨document, finding, proper, body, rfl, finds, passed⟩

/-- Empty containers at two depths and an integer that no double is; and a body with an empty
container. -/
theorem Json.routes_agree_nested :
    Json.Proper (.object [("a", .list [.object []]), ("n", .integer 9007199254740993)]) ∧
    Canonical.ofNative
      (.ofJson (.object [("a", .list [.object []]), ("n", .integer 9007199254740993)])) =
        .ok (.object [("a", .array [.object []]), ("n", .number (.ofInt 9007199254740992))]) ∧
    ∃ made document finding, ({} : Response).withJson (.seq [.seq []]) = .ok made ∧
      made.jsonValue = .ok (.array [.array []]) ∧ Json.read made.body = .ok document ∧
      Finds (fun _ id => ValueNode.isEqual ⟨id, .array [.array []]⟩ (.ofJson document)) finding ∧
      finding.passed = true := by
  have fields : ∀ field ∈ [("a", Json.list [.object []]), ("n", .integer 9007199254740993)],
      field.2.Proper := by
    have hollow : Json.Proper (.object []) := .object Fields.ordered_nil (List.forall_mem_nil _)
    have kept : Json.Proper (.integer 9007199254740993) := .integer (by decide)
    exact List.forall_mem_cons.mpr
      ⟨.list (List.forall_mem_singleton.mpr hollow), List.forall_mem_singleton.mpr kept⟩
  have ordered : Fields.Ordered [("a", Json.list [.object []]), ("n", .integer 9007199254740993)] :=
    List.pairwise_pair.mpr (by decide)
  have proper := Json.Proper.object ordered fields
  have rounded : Double.ofInt 9007199254740993 = Double.ofInt 9007199254740992 := by
    decide +kernel
  have portable : Native.Portable (125 + 1 + 1) (.seq [.seq []]) :=
    .seq (List.forall_mem_singleton.mpr (.seq (List.forall_mem_nil _)))
  have untyped : ({} : Response).header? contentTypeName = none := rfl
  obtain ⟨made, form, succeeds, canonical, reads⟩ := Response.jsonValue_withJson portable untyped
  cases canonical
  obtain ⟨document, finding, -, body, -, finds, passed⟩ := Json.routes_agree.2.2.2 made _ reads
  refine ⟨proper, ?_, made, document, finding, succeeds, reads, body, finds, passed⟩
  rw [Json.routes_agree.1 _ proper]
  simp only [Canonical.ofJson, Canonical.ofJsonFields, Canonical.ofJsonItems, rounded]

end FluentAssert
