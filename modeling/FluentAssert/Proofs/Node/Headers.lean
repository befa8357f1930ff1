import FluentAssert.Proofs.Http.Headers
import FluentAssert.Proofs.Node.LetterCase

/-! Headers on nodes. Looking up one header and grouping all of them tell the same of every name,
and no value of a header is lost between the two. -/
namespace FluentAssert.ResponseNode

open FluentAssert.Http FluentAssert.Text

theorem seeks_headers (reply : Response) :
    Seeks (fun _ id => headers ⟨id, reply⟩) (some reply.headerFields) :=
  @Seeks.step .response .object Step.headers reply

/-- The first value of a name is the first of its values. In the groups all values of a name are
under the lowercase name, in order, and together the groups hold every value once. The step to a
header leads to the first value of its group, and fails just where there is no group. -/
theorem header_views_agree (here : Standpoint) (reply : Response) :
    (∀ name, reply.header? name = (reply.headerValues name).head? ∧
      (reply.header? name = none ↔ reply.headerValues name = [])) ∧
    ∃ fields, Yields (fun _ id => headers ⟨id, reply⟩) fields ∧
      (∀ name, (lowercaseAscii name ∈ Fields.keys fields ↔ (reply.header? name).isSome) ∧
        ∀ held, Fields.get? fields (lowercaseAscii name) = some held ↔
          reply.headerValues name ≠ [] ∧ held = .array ((reply.headerValues name).map .text)) ∧
      (∀ key, key ∈ Fields.keys fields ↔
        ∃ header ∈ reply.headers, lowercaseAscii header.1 = key) ∧
      (fields.flatMap listed).Perm
        (reply.headers.map fun header => (lowercaseAscii header.1, .text header.2)) ∧
      ∀ name,
        (here.Fails (fun _ id => header ⟨id, reply⟩ name) ↔
          lowercaseAscii name ∉ Fields.keys fields) ∧
        ∀ value, Yields (fun _ id => header ⟨id, reply⟩ name) value ↔
          ∃ rest, Fields.get? fields (lowercaseAscii name) = some (.array (.text value :: rest)) := by
  have grouped := reply.grouped
  have first (name : String) : reply.header? name = (reply.headerValues name).head? :=
    reply.headers.first?_eq_head? name
  have found (name : String) : Fields.get? reply.headerFields (lowercaseAscii name) =
      if reply.headerValues name = [] then none
      else some (.array ((reply.headerValues name).map .text)) := grouped.get?_lowercase name
  have known (name : String) :
      lowercaseAscii name ∈ Fields.keys reply.headerFields ↔ (reply.header? name).isSome := by
    rw [Fields.mem_keys, found, first]
    cases reply.headerValues name <;> simp
  refine ⟨fun name => ⟨first name, ?_⟩, reply.headerFields, (seeks_headers reply).yields rfl,
    fun name => ⟨known name, ?_⟩, ?_, grouped.once, fun name => ⟨?_, ?_⟩⟩
  · rw [first, List.head?_eq_none_iff]
  · intro held
    rw [found]
    split
    · rename_i nothing
      simp [nothing]
    · rename_i some
      rw [Option.some.injEq, eq_comm, and_iff_right some]
  · intro key
    rw [grouped.mem_keys, Headers.under_ne_nil_iff]
  · rw [(seeks_header reply name).fails_iff, known]
    simp
  · intro value
    rw [(seeks_header reply name).yields_iff, first, found]
    cases reply.headerValues name <;> simp

end FluentAssert.ResponseNode
