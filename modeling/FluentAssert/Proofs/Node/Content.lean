import FluentAssert.Proofs.Json.Encoded
import FluentAssert.Proofs.Node.LetterCase

/-! Contents of responses. What a response is read as is gated by the content type that is checked,
by the character set that it names, and by the bytes of the body; what is read as a text is the body
as it stands. -/
namespace FluentAssert

open FluentAssert.Http FluentAssert.Text

variable {α : Type}

namespace Http.Response

variable {reply : Response} {media : String}

/-- The character set that is named with the content type, of which the first one is in force. -/
def charset? (reply : Response) : Option String :=
  (reply.header? contentTypeName).bind fun header => (ContentType.parse header).charset

/-- The content is told to be UTF-8, or nothing is told of it. -/
def ToldUtf8 (reply : Response) : Prop :=
  ∀ charset, reply.charset? = some charset → equalIgnoringAsciiCase charset "utf-8" = true

theorem header?_of_typed {charset : Option String}
    (typed : reply.contentTypeFault? media charset = none) :
    ∃ header, reply.header? contentTypeName = some header := by
  unfold contentTypeFault? at typed
  cases found : reply.header? contentTypeName with
  | none =>
    rw [found] at typed
    cases typed
  | some header => exact ⟨header, rfl⟩

theorem textContentFault?_iff : reply.textContentFault? media = none ↔
    reply.contentTypeFault? media none = none ∧ reply.ToldUtf8 := by
  unfold textContentFault?
  cases fault : reply.contentTypeFault? media none with
  | some error => simp
  | none =>
    obtain ⟨header, there⟩ := header?_of_typed fault
    simp only [ToldUtf8, charset?, there, Option.getD_some, Option.bind_some, true_and]
    cases (ContentType.parse header).charset <;> simp

/-- Where a character set is asked for and found, the media type is found as well. -/
theorem contentTypeFault?_media {charset : String}
    (typed : reply.contentTypeFault? media (some charset) = none) :
    reply.contentTypeFault? media none = none := by
  rw [contentTypeFault?_eq_none] at typed ⊢
  obtain ⟨found, same, medias, -⟩ := typed
  exact ⟨found, same, medias, by simp⟩

theorem plainText_iff {text : String} : reply.plainText.toOption = some text ↔
    reply.contentTypeFault? "text/plain" none = none ∧ reply.ToldUtf8 ∧
      encodeUtf8 text = reply.body := by
  rw [plainText_eq_some, textContentFault?_iff, decodeUtf8_ok, and_assoc]

theorem jsonValue_iff {value : Canonical} : reply.jsonValue.toOption = some value ↔
    reply.contentTypeFault? "application/json" none = none ∧ reply.ToldUtf8 ∧
      ∃ document, Json.read reply.body = .ok document ∧ .ofJson document = value := by
  rw [jsonValue_eq_some, textContentFault?_iff, and_assoc]

end Http.Response

/-- From here the step reports no failure just if this holds. Then it leads to a node, and otherwise
one failure is all that it delivers. -/
structure Standpoint.Opens (here : Standpoint) (body : ∀ ω : Type, ChainId → Run ω (Node α))
    (holds : Prop) : Prop where
  reaches : (∃ value, here.Reaches body value) ↔ holds
  fails : here.Fails body ↔ ¬ holds

theorem Seeks.opens {body : ∀ ω : Type, ChainId → Run ω (Node α)} {target : Option α}
    {holds : Prop} (seeks : Seeks body target) (decides : (∃ value, target = some value) ↔ holds)
    (here : Standpoint) : here.Opens body holds where
  reaches := by
    simp only [seeks.reaches_iff, decides]
  fails := by
    rw [seeks.fails_iff, ← decides, Option.eq_none_iff_forall_ne_some, not_exists]

namespace ResponseNode

theorem yields_body (reply : Response) :
    Yields (fun _ id => body ⟨id, reply⟩) (decodeUtf8Lossy reply.body) :=
  (@Seeks.step .response .text Step.body reply).yields rfl

/-- A text is read just if the check for plain text passes, no other character set than UTF-8 is
named, and the body is UTF-8; then it is what the body holds, to the byte. A value is read just if
the same is so for JSON and the body is a document, which is UTF-8 in any case. The body itself is
had of any bytes, and a check that asks for a character set asks for no less than one without. -/
theorem content_opens (here there : Standpoint) (reply : Response) :
    here.Opens (fun _ id => text ⟨id, reply⟩)
      (there.Passes (fun _ id => hasContentType ⟨id, reply⟩ "text/plain" none) ∧
        reply.ToldUtf8 ∧ Encoded reply.body) ∧
    here.Opens (fun _ id => json ⟨id, reply⟩)
      (there.Passes (fun _ id => hasContentType ⟨id, reply⟩ "application/json" none) ∧
        reply.ToldUtf8 ∧ ∃ document, Json.read reply.body = .ok document) ∧
    ((∃ document, Json.read reply.body = .ok document) → Encoded reply.body) ∧
    (∃ s, Yields (fun _ id => body ⟨id, reply⟩) s) ∧
    (∀ s, here.Reaches (fun _ id => text ⟨id, reply⟩) s →
      Yields (fun _ id => body ⟨id, reply⟩) s ∧ encodeUtf8 s = reply.body) ∧
    ∀ media charset,
      here.Passes (fun _ id => hasContentType ⟨id, reply⟩ media (some charset)) →
      there.Passes fun _ id => hasContentType ⟨id, reply⟩ media none := by
  refine ⟨?_, ?_, ?_, ⟨_, yields_body reply⟩, ?_, ?_⟩
  · refine (seeks_text reply).opens ?_ here
    simp only [Response.plainText_iff, (judges_hasContentType reply _ _).passes_iff, Encoded,
      exists_and_left]
  · refine (seeks_json reply).opens ?_ here
    simp only [Response.jsonValue_iff, (judges_hasContentType reply _ _).passes_iff,
      exists_and_left]
    simp
  · rintro ⟨document, reads⟩
    exact Json.encoded_of_read reads
  · intro s reached
    obtain ⟨-, -, whole⟩ :=
      Response.plainText_iff.mp (((seeks_text reply).reaches_iff here s).mp reached)
    have same : decodeUtf8Lossy reply.body = s := by rw [← whole, decodeUtf8Lossy_encode]
    exact ⟨same ▸ yields_body reply, whole⟩
  · intro media charset
    rw [(judges_hasContentType reply _ _).passes_iff, (judges_hasContentType reply _ _).passes_iff]
    exact Response.contentTypeFault?_media

/-- Letter case and quotes make no difference to what a content type tells. -/
theorem content_opens_accented :
    let header := "Text/Plain; charset=\"UTF-8\""
    let reply : Response := ⟨200, [("Content-Type", header)], [195, 169]⟩
    let world : World Unit := { World.start () with chains := #[⟨none, [], false, ⟨0⟩, ⟨0⟩⟩] }
    let here : Standpoint := ⟨world, ⟨0⟩, rfl⟩
    (∃ value, here.Reaches (fun _ id => text ⟨id, reply⟩) value) ∧
    here.Fails (fun _ id => json ⟨id, reply⟩) ∧
    here.Passes fun _ id => hasContentType ⟨id, reply⟩ "text/plain" none := by
  intro header reply world here
  have found : reply.header? contentTypeName = some header := by
    simp [reply, Response.header?, Headers.first?, equalIgnoringAsciiCase, contentTypeName]
  have parsed : ContentType.parse header = ⟨"Text/Plain", some "UTF-8"⟩ := by decide +kernel
  have medias : lowercaseAscii "Text/Plain" = lowercaseAscii "text/plain" :=
    lowercaseAscii_eq_iff.mpr (by decide)
  have charsets : lowercaseAscii "UTF-8" = lowercaseAscii "utf-8" :=
    lowercaseAscii_eq_iff.mpr (by decide)
  have told : reply.ToldUtf8 := by
    intro charset named
    have named' : reply.charset? = some "UTF-8" := by simp [Response.charset?, found, parsed]
    cases named'.symm.trans named
    simp [equalIgnoringAsciiCase, charsets]
  have spelt : Encoded reply.body := ⟨"é", by decide +kernel⟩
  have strict : here.Passes fun _ id => hasContentType ⟨id, reply⟩ "text/plain" (some "utf-8") := by
    rw [(judges_hasContentType _ _ _).passes_iff]
    simp [Response.contentTypeFault?, found, parsed, equalIgnoringAsciiCase, medias, charsets]
  have other : ¬ here.Passes fun _ id => hasContentType ⟨id, reply⟩ "application/json" none := by
    have differ : lowercaseAscii "Text/Plain" ≠ lowercaseAscii "application/json" :=
      mt lowercaseAscii_eq_iff.mp (by decide)
    rw [(judges_hasContentType _ _ _).passes_iff]
    simp [Response.contentTypeFault?, found, parsed, equalIgnoringAsciiCase, differ]
  obtain ⟨texts, values, -, -, -, media⟩ := content_opens here here reply
  have passes := media "text/plain" "utf-8" strict
  refine ⟨texts.reaches.mpr ⟨passes, told, spelt⟩, ?_, passes⟩
  exact values.fails.mpr fun all => other all.1

end ResponseNode
end FluentAssert
