import FluentAssert.Proofs.Http.Headers
import FluentAssert.Proofs.Node.Body
import FluentAssert.Proofs.Node.LetterCase

/-! Content types of bodies that are made from values. A message gets one content type more, behind
those that it has, and the first one stays in force. -/
namespace FluentAssert

open FluentAssert.Http FluentAssert.Text

/-- One content type more, behind those that were there. -/
structure Http.Headers.GainsJson (before after : Headers) : Prop where
  first : ∀ name, lowercaseAscii name = lowercaseAscii contentTypeName →
    after.first? name = some ((before.first? name).getD jsonContentType)
  types : ∀ name, lowercaseAscii name = lowercaseAscii contentTypeName →
    after.values name = before.values name ++ [jsonContentType]
  others : ∀ name, lowercaseAscii name ≠ lowercaseAscii contentTypeName →
    after.first? name = before.first? name ∧ after.values name = before.values name

theorem Http.Headers.gainsJson (headers : Headers) :
    headers.GainsJson (headers ++ [(contentTypeName, jsonContentType)]) where
  first name same := by
    rw [first?_append_one, equalIgnoringAsciiCase, same, beq_self_eq_true, if_pos rfl]
    cases headers.first? name <;> rfl
  types name same := by
    rw [values_append_one, equalIgnoringAsciiCase, same, beq_self_eq_true, if_pos rfl]
  others name differ := by
    have other : equalIgnoringAsciiCase contentTypeName name = false :=
      beq_eq_false_iff_ne.mpr (Ne.symm differ)
    rw [first?_append_one, values_append_one, other]
    simp

namespace Http.Response

variable {reply reply' : Response}

theorem contentTypeFault?_congr
    (same : reply.header? contentTypeName = reply'.header? contentTypeName) (media : String)
    (charset : Option String) :
    reply.contentTypeFault? media charset = reply'.contentTypeFault? media charset := by
  simp only [contentTypeFault?, same]

theorem textContentFault?_congr
    (same : reply.header? contentTypeName = reply'.header? contentTypeName) (media : String) :
    reply.textContentFault? media = reply'.textContentFault? media := by
  simp only [textContentFault?, contentTypeFault?_congr same, same]

theorem contentTypeFault?_json (typed : reply.header? contentTypeName = some jsonContentType) :
    reply.contentTypeFault? "application/json" (some "utf-8") = none := by
  have parsed : ContentType.parse jsonContentType = ⟨"application/json", some "utf-8"⟩ := by
    decide +kernel
  simp [contentTypeFault?, typed, parsed, equalIgnoringAsciiCase]

theorem faults_of_plain (typed : reply.header? contentTypeName = some "text/plain")
    (charset : Option String) : reply.contentTypeFault? "application/json" charset ≠ none ∧
      reply.textContentFault? "application/json" ≠ none := by
  have parsed : ContentType.parse "text/plain" = ⟨"text/plain", none⟩ := by decide +kernel
  have other : equalIgnoringAsciiCase "text/plain" "application/json" = false := by decide +kernel
  constructor
  · simp [contentTypeFault?, typed, parsed, other]
  · simp [textContentFault?, contentTypeFault?, typed, parsed, other]

theorem jsonValue_eq_none : reply.jsonValue.toOption = none ↔
    reply.textContentFault? "application/json" ≠ none ∨ ∃ e, Json.read reply.body = .error e := by
  unfold jsonValue
  cases reply.textContentFault? "application/json" with
  | some fault => simp [Except.toOption]
  | none => cases Json.read reply.body <;> simp [Except.toOption]

end Http.Response

namespace ResponseNode

/-- A value that can be encoded becomes the body of a message, and a content type is put behind the
headers, so one that was there before stays in force: it is the one that is checked, and that the
body is read by. A message without a content type gets that of JSON. What cannot be encoded changes
no message. -/
theorem withJson_content_type (here : Standpoint) :
    (∀ (request : Request) (value : Native) (body : Bytes), value.toJson = .ok body →
      ∃ made, request.withJson value = .ok made ∧ made.method = request.method ∧
        made.url = request.url ∧ made.body = body ∧ request.headers.GainsJson made.headers) ∧
    (∀ (response : Response) (value : Native) (body : Bytes), value.toJson = .ok body →
      ∃ made, response.withJson value = .ok made ∧ made.status = response.status ∧
        made.body = body ∧ response.headers.GainsJson made.headers ∧
        (response.header? contentTypeName = none →
          here.Passes (fun _ id => hasContentType ⟨id, made⟩ "application/json" (some "utf-8")) ∧
          (here.Fails (fun _ id => json ⟨id, made⟩) ↔ ∃ e, Json.read body = .error e)) ∧
        (response.header? contentTypeName ≠ none →
          (∀ media charset, here.Passes (fun _ id => hasContentType ⟨id, made⟩ media charset) ↔
            here.Passes fun _ id => hasContentType ⟨id, response⟩ media charset) ∧
          (here.Fails (fun _ id => json ⟨id, made⟩) ↔
            response.textContentFault? "application/json" ≠ none ∨
              ∃ e, Json.read body = .error e))) ∧
    ∀ (value : Native) (e : Native.EncodeError), value.toJson = .error e →
      (∀ request : Request, request.withJson value = .error e) ∧
      ∀ response : Response, response.withJson value = .error e := by
  refine ⟨?_, ?_, ?_⟩
  · intro request value body written
    exact ⟨_, congrArg (Except.map _) written, rfl, rfl, rfl, request.headers.gainsJson⟩
  · intro response value body written
    let made : Response := { response.withHeader contentTypeName jsonContentType with body }
    have gains : response.headers.GainsJson made.headers := response.headers.gainsJson
    have first : made.header? contentTypeName =
        some ((response.header? contentTypeName).getD jsonContentType) := gains.first _ rfl
    refine ⟨made, congrArg (Except.map _) written, rfl, rfl, gains, ?_, ?_⟩
    · intro untyped
      rw [untyped] at first
      constructor
      · rw [(judges_hasContentType made _ _).passes_iff]
        exact Response.contentTypeFault?_json first
      · rw [(seeks_json made).fails_iff, Response.jsonValue_eq_none,
          Response.textContentFault?_json first]
        simp [made]
    · intro typed
      obtain ⟨type, there⟩ := Option.ne_none_iff_exists'.mp typed
      have same : made.header? contentTypeName = response.header? contentTypeName := by
        rw [first, there]
        rfl
      constructor
      · intro media charset
        rw [(judges_hasContentType made media charset).passes_iff,
          (judges_hasContentType response media charset).passes_iff,
          Response.contentTypeFault?_congr same]
      · rw [(seeks_json made).fails_iff, Response.jsonValue_eq_none,
          Response.textContentFault?_congr same]
  · intro value e refused
    exact ⟨fun _ => congrArg (Except.map _) refused, fun _ => congrArg (Except.map _) refused⟩

theorem withJson_content_type_plain :
    let world : World Unit := { World.start () with chains := #[⟨none, [], false, ⟨0⟩, ⟨0⟩⟩] }
    let here : Standpoint := ⟨world, ⟨0⟩, rfl⟩
    let plain : Response := ⟨200, [("content-type", "text/plain")], []⟩
    let written : Bytes := [116, 114, 117, 101]
    Native.toJson (.bool true) = .ok written ∧
    (∃ made, ({} : Response).withJson (.bool true) = .ok made ∧ made.body = written ∧
      here.Passes fun _ id => hasContentType ⟨id, made⟩ "application/json" (some "utf-8")) ∧
    (∃ made, plain.withJson (.bool true) = .ok made ∧
      made.headerValues contentTypeName = ["text/plain", jsonContentType] ∧
      here.Fails fun _ id => json ⟨id, made⟩) ∧
    Native.toJson (.failing "closed") = .error (.refused "closed") ∧
    plain.withJson (.failing "closed") = .error (.refused "closed") := by
  intro world here plain written
  have encoded : Native.toJson (.bool true) = .ok written := by decide +kernel
  have refused : Native.toJson (.failing "closed") = .error (.refused "closed") := by rfl
  have names : lowercaseAscii "content-type" = lowercaseAscii contentTypeName :=
    lowercaseAscii_eq_iff.mpr (by decide)
  have typed : plain.header? contentTypeName = some "text/plain" := by
    simp [plain, Response.header?, Headers.first?, equalIgnoringAsciiCase, names]
  have fault := (Response.faults_of_plain typed none).2
  obtain ⟨-, responses, refuses⟩ := withJson_content_type here
  obtain ⟨fresh, made, -, body, -, checked, -⟩ := responses {} (.bool true) written encoded
  obtain ⟨again, made', -, -, gains, -, kept⟩ := responses plain (.bool true) written encoded
  refine ⟨encoded, ⟨fresh, made, body, (checked rfl).1⟩, ⟨again, made', ?_, ?_⟩, refused,
    (refuses _ _ refused).2 plain⟩
  · refine (gains.types contentTypeName rfl).trans ?_
    simp [plain, Headers.values, equalIgnoringAsciiCase, names]
  · exact (kept (by simp [typed])).2.mpr (.inl fault)

/-- The content type that a message had before is in force, though the body is JSON now: neither the
check for JSON nor the reading passes. -/
theorem withJson_type_kept :
    let plain : Response := ⟨200, [("Content-Type", "text/plain")], []⟩
    ∃ made, plain.withJson (.bool true) = .ok made ∧
      made.header? contentTypeName = some "text/plain" ∧
      made.header? contentTypeName ≠ some jsonContentType ∧
      ∀ here : Standpoint,
        here.Fails (fun _ id => hasContentType ⟨id, made⟩ "application/json" (some "utf-8")) ∧
        here.Fails fun _ id => json ⟨id, made⟩ := by
  intro plain
  let made : Response := ⟨200, [("Content-Type", "text/plain"), (contentTypeName, jsonContentType)],
    [116, 114, 117, 101]⟩
  have encoded : Native.toJson (.bool true) = .ok made.body := by decide +kernel
  have first : made.header? contentTypeName = some "text/plain" := by
    simp [made, Response.header?, Headers.first?, equalIgnoringAsciiCase, contentTypeName]
  refine ⟨made, congrArg (Except.map _) encoded, first, ?_, fun here => ⟨?_, ?_⟩⟩
  · rw [first]
    decide
  · rw [(judges_hasContentType made _ _).fails_iff]
    exact (Response.faults_of_plain first _).1
  · rw [(seeks_json made).fails_iff, Response.jsonValue_eq_none]
    exact .inl (Response.faults_of_plain first none).2

end ResponseNode
end FluentAssert
