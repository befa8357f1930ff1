import FluentAssert.Proofs.Http.Headers
import FluentAssert.Proofs.Native.Document
import FluentAssert.Proofs.Operation.Verdict

/-! Bodies made of values. What a response was given as JSON, its node reads back as the canonical
form of the value. -/
namespace FluentAssert

open FluentAssert.Http

variable {ω : Type}

theorem Http.Headers.first?_concat {headers : Headers} {name : String} (value : String)
    (none : headers.first? name = none) (same : Text.equalIgnoringAsciiCase name name = true) :
    Headers.first? (headers ++ [(name, value)]) name = some value := by
  rw [first?_append_one, none, if_pos same]
  rfl

namespace Http.Response

variable {response : Response} {value : Native}

theorem textContentFault?_json (typed : response.header? contentTypeName = some jsonContentType) :
    response.textContentFault? "application/json" = none := by
  have parsed : ContentType.parse jsonContentType = ⟨"application/json", some "utf-8"⟩ := by
    decide +kernel
  have media : Text.equalIgnoringAsciiCase "application/json" "application/json" = true := by
    decide +kernel
  have charset : Text.equalIgnoringAsciiCase "utf-8" "utf-8" = true := by decide +kernel
  simp only [textContentFault?, contentTypeFault?, typed, parsed, media, charset,
    Option.getD_some, Bool.not_true, Bool.false_eq_true, if_false, if_true]

theorem jsonValue_withJson (portable : value.Portable Json.depthLimit)
    (untyped : response.header? contentTypeName = none) : ∃ made form,
      response.withJson value = .ok made ∧ Canonical.ofNative value = .ok form ∧
        made.jsonValue = .ok form := by
  obtain ⟨body, document, written, read, form⟩ := portable.reads
  let made : Response := { response.withHeader contentTypeName jsonContentType with body }
  have typed : made.header? contentTypeName = some jsonContentType :=
    Headers.first?_concat jsonContentType untyped (by decide +kernel)
  have same : made.body = body := rfl
  refine ⟨made, _, congrArg (Except.map _) written, form, ?_⟩
  rw [jsonValue, textContentFault?_json typed, same, read]

end Http.Response

theorem ValueNode.isEqual_form {value : Native} {form : Canonical}
    (canonical : Canonical.ofNative value = .ok form) : ∃ finding : Finding,
      Finds (fun _ id => ValueNode.isEqual ⟨id, form⟩ value) finding ∧ finding.passed = true := by
  let found (expected : Canonical) : Finding :=
    ((Finding.check .equal (form == expected) "expected: values are equal").withActual
      form).withExpected expected
  have finds : Finds (fun _ id => ValueNode.isEqual ⟨id, form⟩ value)
      (.given value.argument found) := .checkLive "is_equal()" form (.withArgument value found)
  have answer : value.argument = .ok form := by
    rw [Native.argument, canonical]
    rfl
  have equal : (form == form) = true := (Canonical.proper_ofNative canonical).equal_self
  refine ⟨found form, ?_, ?_⟩
  · rw [answer] at finds
    exact finds
  · simp [found, equal]

/-- A body that is made from a value is read as the canonical form of the value: on any live node
over the response the step reports nothing, the node it gives is live and holds the form, and the
value is found equal to it. -/
theorem ResponseNode.json_withJson {value : Native} (portable : value.Portable Json.depthLimit)
    {response : Response} (untyped : response.header? contentTypeName = none) :
    ∃ made form finding, response.withJson value = .ok made ∧ Canonical.ofNative value = .ok form ∧
      (∀ (ω : Type) (world : World ω) (id : ChainId), (world.chain id).failed = false →
        ∃ node last, ResponseNode.json ⟨id, made⟩ world = (.ok node, last) ∧ node.value = form ∧
          last.calls = world.calls ∧ (last.chain node.chain).failed = false) ∧
      Finds (fun _ id => ValueNode.isEqual ⟨id, form⟩ value) finding ∧ finding.passed = true := by
  obtain ⟨made, form, succeeds, canonical, content⟩ :=
    Response.jsonValue_withJson portable untyped
  obtain ⟨finding, finds, passed⟩ := ValueNode.isEqual_form canonical
  refine ⟨made, form, finding, succeeds, canonical, fun ω world id live => ?_, finds, passed⟩
  have whole : ResponseNode.json (ω := ω) ⟨id, made⟩ =
      id.within "json()" (Node.spawn id form) := by
    rw [ResponseNode.json, content]
    rfl
  obtain ⟨node, last, returns, holds, calls, chain⟩ :=
    Node.spawn_within (Stage.has_of_live live) "json()" form
  exact ⟨node, last, whole ▸ returns, holds, calls, chain ▸ live⟩

/-- Two entries of one key, of which the last is read. -/
theorem ResponseNode.json_withJson_repeated :
    Native.Portable Json.depthLimit (.map [(.text "n", .bool true), (.char 'n', .unit)]) ∧
    ({} : Response).header? contentTypeName = none ∧
    ∃ made node last,
      ({} : Response).withJson (.map [(.text "n", .bool true), (.char 'n', .unit)]) = .ok made ∧
      ResponseNode.json ⟨⟨0⟩, made⟩
        { World.start () with chains := #[⟨none, [], false, ⟨0⟩, ⟨0⟩⟩] } = (.ok node, last) ∧
      node.value = .object [("n", .null)] := by
  have portable : Native.Portable (126 + 1) (.map [(.text "n", .bool true), (.char 'n', .unit)]) := by
    apply Native.Portable.map
    · exact List.forall_mem_cons.mpr ⟨.text "n", List.forall_mem_singleton.mpr (.char 'n')⟩
    · exact List.forall_mem_cons.mpr ⟨.bool true, List.forall_mem_singleton.mpr .unit⟩
  have untyped : ({} : Response).header? contentTypeName = none := rfl
  have canonical : Canonical.ofNative (.map [(.text "n", .bool true), (.char 'n', .unit)]) =
      .ok (.object [("n", .null)]) := by rfl
  obtain ⟨made, form, -, succeeds, canonical', reads, -⟩ := json_withJson portable untyped
  let world : World Unit := { World.start () with chains := #[⟨none, [], false, ⟨0⟩, ⟨0⟩⟩] }
  have live : (world.chain ⟨0⟩).failed = false := rfl
  obtain ⟨node, last, returns, holds, -⟩ := reads Unit world ⟨0⟩ live
  cases canonical.symm.trans canonical'
  exact ⟨portable, untyped, made, node, last, succeeds, returns, holds⟩

end FluentAssert
