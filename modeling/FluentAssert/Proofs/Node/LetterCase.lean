import FluentAssert.Proofs.Http.LetterCase
import FluentAssert.Proofs.Node.Judgement
import FluentAssert.Proofs.Operation.Inquiry
import FluentAssert.Proofs.Program

/-! Letter case in what is asserted on responses. Programs that know a response by its node only
cannot tell how the names of its headers are written, and in arguments and content types upper and
lower case pass alike. -/
namespace FluentAssert

open FluentAssert.Http FluentAssert.Text

variable {ω κ α : Type}

/-- What is done with one response, which is known by the chains of its nodes only. In between, and
with the nodes that steps lead to, any program may run. -/
inductive ResponseProgram (ω κ : Type) : Type → Type 1 where
  | rest {α : Type} (program : Program ω κ α) : ResponseProgram ω κ α
  | andThen {α β : Type} (first : ResponseProgram ω κ α) (next : α → ResponseProgram ω κ β) :
    ResponseProgram ω κ β
  | receive (session : Session ω) : ResponseProgram ω κ ChainId
  | check (own : ChainId) (check : Check .response) : ResponseProgram ω κ Unit
  | step {target : NodeKind} (own : ChainId) (step : Step .response target) :
    ResponseProgram ω κ (Node (Held target))
  | clone (own : ChainId) : ResponseProgram ω κ ChainId
  | within {α : Type} (chain : ChainId) (label : String) (body : ResponseProgram ω κ α) :
    ResponseProgram ω κ α
  | observe {α : Type} (body : ResponseProgram ω κ α) : ResponseProgram ω κ (Except String α)

def ResponseProgram.toProgram (reply : Response) {α : Type} : ResponseProgram ω κ α → Program ω κ α
  | .rest program => program
  | .andThen first next => .andThen (first.toProgram reply) fun a => (next a).toProgram reply
  | .receive session => .andThen (.act (.response session reply)) fun node => .done node.chain
  | .check own what => .act (.check ⟨own, reply⟩ what)
  | .step own what => .act (.step ⟨own, reply⟩ what)
  | .clone own =>
    .andThen (.act (@Action.clone ω .response ⟨own, reply⟩)) fun node => .done node.chain
  | .within chain label body => .within chain label (body.toProgram reply)
  | .observe body => .observe (body.toProgram reply)

section

variable {reply reply' : Response}

theorem ResponseNode.check_alike (alike : reply.Alike id reply') (own : ChainId) (what : Check) :
    what.perform (ω := ω) ⟨own, reply⟩ = what.perform ⟨own, reply'⟩ := by
  cases what with
  | status code =>
    simp only [Check.perform, status, actualStatus, alike.status]
    rfl
  | statusRange range =>
    simp only [Check.perform, statusRange, actualStatus, alike.status]
    rfl
  | hasContentType media charset =>
    simp only [Check.perform, hasContentType, alike.contentTypeFault?]
    rfl
  | noContent =>
    simp only [Check.perform, noContent, alike.contentFaults]
    rfl

theorem ResponseNode.step_alike (alike : reply.Alike id reply') (own : ChainId)
    {target : NodeKind} (what : Step target) :
    what.perform (ω := ω) ⟨own, reply⟩ = what.perform ⟨own, reply'⟩ := by
  cases what with
  | headers =>
    simp only [Step.perform, headers, alike.headerFields]
    rfl
  | header name =>
    have same : reply.header? name = reply'.header? name := alike.header_eq rfl
    simp only [Step.perform, header, same]
    rfl
  | body =>
    simp only [Step.perform, body, alike.body]
    rfl
  | text =>
    simp only [Step.perform, text, alike.plainText]
    rfl
  | json =>
    simp only [Step.perform, json, alike.jsonValue]
    rfl

theorem Session.response_chain (session : Session ω) (reply reply' : Response) :
    (do return (← { session with matchers := [] }.response reply).chain) =
      (do return (← { session with matchers := [] }.response reply').chain : Run ω ChainId) := by
  simp only [response, runMatchers, enter, Node.spawn, List.forM_eq_forM, List.forM_nil, pure_bind,
    bind_assoc, ChainId.within_map]

theorem ResponseProgram.run_alike (configs : κ → Config ω) (alike : reply.Alike id reply')
    (program : ResponseProgram ω κ α) :
    (program.toProgram reply).run configs = (program.toProgram reply').run configs := by
  -- Only checks and steps look into the response.
  induction program with
  | rest program => rfl
  | andThen first next ihf ihn => simp only [ResponseProgram.toProgram, Program.run, ihf, ihn]
  | receive session => exact session.response_chain reply reply'
  | check own what => exact ResponseNode.check_alike alike own what
  | step own what => exact ResponseNode.step_alike alike own what
  | clone own =>
    simp only [ResponseProgram.toProgram, Program.run, Action.run, Node.clone, bind_assoc, pure_bind]
  | within chain label body ih => simp only [ResponseProgram.toProgram, Program.run, ih]
  | observe body ih => simp only [ResponseProgram.toProgram, Program.run, ih]

end

namespace ResponseNode

theorem judges_hasContentType (reply : Response) (media : String) (charset : Option String) :
    Judges (fun _ id => hasContentType ⟨id, reply⟩ media charset)
      (reply.contentTypeFault? media charset = none) := by
  simp only [hasContentType]
  refine (Judges.check _ reply _).congr ?_
  rw [Finding.passed_foldl]
  cases reply.contentTypeFault? media charset <;> simp

theorem seeks_header (reply : Response) (name : String) :
    Seeks (fun _ id => header ⟨id, reply⟩ name) (reply.header? name) :=
  @Seeks.step .response .text (Step.header name) reply

theorem seeks_text (reply : Response) :
    Seeks (fun _ id => text ⟨id, reply⟩) reply.plainText.toOption :=
  @Seeks.step .response .text Step.text reply

theorem seeks_json (reply : Response) :
    Seeks (fun _ id => json ⟨id, reply⟩) reply.jsonValue.toOption :=
  @Seeks.step .response .value Step.json reply

theorem header_value {reply : Response} {name : String} {own : ChainId} {world last : World ω}
    {node : TextNode} (has : world.Has own)
    (returned : header ⟨own, reply⟩ name world = (.ok node, last)) :
    node.value = (reply.header? name).getD "" := by
  obtain ⟨_, -, -, leads⟩ := @FluentAssert.Step.leads .response .text (Step.header name) reply
  exact ((leads ω own world has).node node last returned).1

/-- Responses whose header names differ in case are the same to every program. Where the case of
header values and of arguments differs too, steps and checks pass alike, and of one response a
header is the same text whichever way its name is written. -/
theorem blind_to_case :
    (∀ reply reply' : Response, reply.Alike id reply' →
      ∀ (ω κ α : Type) (configs : κ → Config ω) (program : ResponseProgram ω κ α),
        (program.toProgram reply).run configs = (program.toProgram reply').run configs) ∧
    (∀ reply reply' : Response, reply.Alike lowercaseAscii reply' →
      ∀ (name name' media media' : String) (charset charset' : Option String),
        lowercaseAscii name = lowercaseAscii name' → lowercaseAscii media = lowercaseAscii media' →
        charset.map lowercaseAscii = charset'.map lowercaseAscii → ∀ here there : Standpoint,
          ((∃ value, here.Reaches (fun _ id => header ⟨id, reply⟩ name) value) ↔
            ∃ value, there.Reaches (fun _ id => header ⟨id, reply'⟩ name') value) ∧
          (here.Passes (fun _ id => hasContentType ⟨id, reply⟩ media charset) ↔
            there.Passes fun _ id => hasContentType ⟨id, reply'⟩ media' charset') ∧
          (∀ value, here.Reaches (fun _ id => text ⟨id, reply⟩) value ↔
            there.Reaches (fun _ id => text ⟨id, reply'⟩) value) ∧
          ∀ value, here.Reaches (fun _ id => json ⟨id, reply⟩) value ↔
            there.Reaches (fun _ id => json ⟨id, reply'⟩) value) ∧
    ∀ (reply : Response) (name name' : String), lowercaseAscii name = lowercaseAscii name' →
      ∀ (ω ω' : Type) (own own' : ChainId) (world last : World ω) (world' last' : World ω')
        (node node' : TextNode), world.Has own → world'.Has own' →
        header ⟨own, reply⟩ name world = (.ok node, last) →
        header ⟨own', reply⟩ name' world' = (.ok node', last') → node.value = node'.value := by
  refine ⟨?_, ?_, ?_⟩
  · intro reply reply' alike ω κ α configs program
    exact program.run_alike configs alike
  · intro reply reply' alike name name' media media' charset charset' names medias charsets here there
    refine ⟨?_, ?_, fun value => ?_, fun value => ?_⟩
    · simp only [(seeks_header _ _).reaches_iff, ← Option.isSome_iff_exists]
      rw [← Option.isSome_map, alike.header? names, Option.isSome_map]
    · rw [(judges_hasContentType reply media charset).passes_iff here,
        (judges_hasContentType reply' media' charset').passes_iff there]
      exact alike.contentTypeFault?_eq_none medias charsets
    · rw [(seeks_text reply).reaches_iff, (seeks_text reply').reaches_iff, alike.plainText_toOption]
    · rw [(seeks_json reply).reaches_iff, (seeks_json reply').reaches_iff, alike.jsonValue_toOption]
  · intro reply name name' names ω ω' own own' world last world' last' node node' has has' found found'
    rw [header_value has found, header_value has' found', reply.header?_congr names]

/-- A plain text, with the name of its header in small letters, and with all of it in capitals. -/
theorem blind_to_case_shouting :
    let reply : Response := ⟨200, [("Content-Type", "text/plain; charset=utf-8")], []⟩
    let quiet : Response := ⟨200, [("content-type", "text/plain; charset=utf-8")], []⟩
    let shouting : Response := ⟨200, [("CONTENT-TYPE", "TEXT/Plain; CHARSET=UTF-8")], []⟩
    let world : World Unit := { World.start () with chains := #[⟨none, [], false, ⟨0⟩, ⟨0⟩⟩] }
    let here : Standpoint := ⟨world, ⟨0⟩, rfl⟩
    let program : ResponseProgram Unit Empty TextNode :=
      .andThen (.receive ⟨⟨0⟩, none, none, [], []⟩) fun own => .step own (Step.header "content-TYPE")
    (program.toProgram reply).run nofun = (program.toProgram quiet).run nofun ∧
    here.Passes (fun _ id => hasContentType ⟨id, shouting⟩ "Text/PLAIN" (some "Utf-8")) ∧
    here.Reaches (fun _ id => text ⟨id, shouting⟩) "" ∧
    ∃ node last, header ⟨⟨0⟩, reply⟩ "content-TYPE" world = (.ok node, last) ∧
      node.value = "text/plain; charset=utf-8" := by
  intro reply quiet shouting world here program
  have found : reply.header? contentTypeName = some "text/plain; charset=utf-8" := by
    simp [reply, Response.header?, Headers.first?, equalIgnoringAsciiCase, contentTypeName]
  have parsed : ContentType.parse "text/plain; charset=utf-8" = ⟨"text/plain", some "utf-8"⟩ := by
    decide +kernel
  have passes : here.Passes fun _ id => hasContentType ⟨id, reply⟩ "text/plain" (some "utf-8") := by
    rw [(judges_hasContentType _ _ _).passes_iff]
    simp [Response.contentTypeFault?, found, parsed, equalIgnoringAsciiCase]
  have reaches : here.Reaches (fun _ id => text ⟨id, reply⟩) "" := by
    rw [(seeks_text reply).reaches_iff, Response.plainText_eq_some]
    simp [Response.textContentFault?, Response.contentTypeFault?, found, parsed,
      equalIgnoringAsciiCase, reply, decodeUtf8, decodeFrom, Except.map]
  have names : lowercaseAscii "Content-Type" = lowercaseAscii "content-TYPE" :=
    lowercaseAscii_eq_iff.mpr (by decide)
  have small : reply.Alike id quiet :=
    ⟨rfl, rfl, .cons ⟨lowercaseAscii_eq_iff.mpr (by decide), rfl⟩ .nil⟩
  have large : reply.Alike lowercaseAscii shouting :=
    ⟨rfl, rfl, .cons ⟨lowercaseAscii_eq_iff.mpr (by decide),
      lowercaseAscii_eq_iff.mpr (by decide)⟩ .nil⟩
  obtain ⟨-, content, plain, -⟩ := blind_to_case.2.1 reply shouting large contentTypeName
    "content-TYPE" "text/plain" "Text/PLAIN" (some "utf-8") (some "Utf-8") names
    (lowercaseAscii_eq_iff.mpr (by decide))
    (congrArg some (lowercaseAscii_eq_iff.mpr (by decide))) here here
  refine ⟨blind_to_case.1 reply quiet small _ _ _ _ program, content.mp passes,
    (plain "").mp reaches, ?_⟩
  have found' := (reply.header?_congr names).symm.trans found
  obtain ⟨-, child, last, returned⟩ := ((seeks_header reply _).reaches_iff here _).mpr found
  obtain ⟨-, child', last', returned'⟩ := ((seeks_header reply _).reaches_iff here _).mpr found'
  have has : world.Has ⟨0⟩ := Stage.has_of_live here.live
  exact ⟨_, last', returned', (blind_to_case.2.2 reply _ _ names _ _ _ _ world last world last'
    _ _ has has returned returned').symm⟩

end ResponseNode

end FluentAssert
