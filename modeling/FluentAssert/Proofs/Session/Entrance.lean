import FluentAssert.Proofs.Canonical.Routes
import FluentAssert.Proofs.Program.HeldChains
import FluentAssert.Proofs.Session.Transparency

/-! Entrances. What was reported under one entry of a session, and what unwound, is of no
consequence to the next: roots are clean at every moment, so all that a session makes begins live,
with no label but that of its entry. -/
namespace FluentAssert

open FluentAssert.Http

variable {ω κ α : Type}

namespace Program

def add (session : Session ω) : Addition ω → Program ω κ (Session ω)
  | .copy => .act (.copy session)
  | .builder change => .andThen (.act (.copy session)) fun copy =>
    .done { copy with builders := copy.builders ++ [change] }
  | .matcher check => .andThen (.act (.copy session)) fun copy =>
    .done { copy with matchers := copy.matchers ++ [check] }

theorem run_add (configs : κ → Config ω) (session : Session ω) (addition : Addition ω) :
    (add session addition).run configs = session.add addition := by
  cases addition <;> rfl

theorem Works.add {configs : κ → Config ω} {session : Session ω} {held : HeldChains}
    (member : session.chain ∈ held.roots) (addition : Addition ω) (world : World ω) :
    (add session addition).Works configs held world (held.plus ⟨[world.fresh], []⟩) := by
  have copying : Program.Works configs (.act (.copy session)) held world
      (held.plus ⟨[world.fresh], []⟩) := .act (.on_root trivial rfl member)
  cases addition with
  | copy => exact copying
  | builder | matcher => exact .andThen copying rfl (.done _)

end Program

namespace Session

variable {session : Session ω} {world : World ω}

def Entry.label {kind : NodeKind} : Entry kind → String
  | .value _ => "value()"
  | .object _ => "object()"
  | .array _ => "array()"
  | .string _ => "string()"
  | .number _ => "number()"
  | .boolean _ => "boolean()"

/-- What an entry makes a node of, if its input has the form for it. -/
def Entry.target? {kind : NodeKind} : Entry kind → Option (Held kind)
  | .value input => (Canonical.ofNative input).toOption
  | .object input => (Canonical.ofNative input).toOption >>= Canonical.fields?
  | .array input => (Canonical.ofNative input).toOption >>= Canonical.items?
  | .string input => some input
  | .number input => some input
  | .boolean input => some input

/-- The run makes a live node that holds this, inside this scope alone. No handler has a say in it. -/
def Begins (run : Run ω (Node α)) (world : World ω) (label : String) (held : α) : Prop :=
  ∃ child last, run world = (.ok ⟨child, held⟩, last) ∧ last.Has child ∧
    (last.chain child).failed = false ∧ (last.chain child).path = [label]

theorem input_found {input : Native} {form : Canonical}
    (found : (Canonical.ofNative input).toOption = some form) (chain : ChainId) :
    Session.input chain input = (return form : Run ω Canonical) := by
  cases canonical : Canonical.ofNative input with
  | error e =>
    rw [canonical] at found
    cases found
  | ok held =>
    rw [canonical] at found
    cases found
    exact input_form chain canonical

theorem Entry.perform_found {kind : NodeKind} {entry : Entry kind} {held : Held kind}
    (found : entry.target? = some held) (session : Session ω) :
    entry.perform session = session.enter entry.label fun chain => Node.spawn chain held := by
  cases entry with
  | value input => simp only [perform, Session.value, input_found found, pure_bind, label]
  | object input =>
    obtain ⟨form, canonical, fields⟩ := Option.bind_eq_some_iff.mp found
    cases form with
    | object =>
      cases fields
      simp only [perform, Session.object, input_found canonical, pure_bind, ChainId.asObject, label]
    | null | bool | number | text | array => cases fields
  | array input =>
    obtain ⟨form, canonical, items⟩ := Option.bind_eq_some_iff.mp found
    cases form with
    | array =>
      cases items
      simp only [perform, Session.array, input_found canonical, pure_bind, ChainId.asArray, label]
    | null | bool | number | text | object => cases items
  | string | number | boolean =>
    cases found
    rfl

theorem begins_enter (clean : world.Clean session.chain) (label : String) (held : α) :
    Begins (session.enter label fun chain => Node.spawn chain held) world label held := by
  let inner := opened session.chain world label
  -- The node copies the child inside its scope, and the child copies the root.
  have node : (World.closed world.fresh inner).chain inner.fresh =
      (world.chain session.chain).inside label :=
    (World.closed_node (opened_has ..)).trans (opened_child ..)
  refine ⟨inner.fresh, World.closed world.fresh inner, rfl, ?_, ?_, ?_⟩
  · exact Stage.has_after _ Stage.has_pushChain
  · rw [node]
    exact clean.1
  · rw [node, Chain.inside, clean.2]
    rfl

/-- How a session lets in, in a world. -/
structure Entrances (session : Session ω) (world : World ω) : Prop where
  has : world.Has session.chain
  clean : world.Clean session.chain
  entry : ∀ (kind : NodeKind) (entry : Entry kind) (held : Held kind), entry.target? = some held →
    Begins (entry.perform session) world entry.label held
  /-- Before matchers, and they see this node first. -/
  response : ∀ reply : Response, Begins (session.bare.response reply) world "response()" reply ∧
    session.response reply = do
      let node ← session.bare.response reply
      session.matchers.forM fun check => check node
      return node
  env : ∃ account last, session.env world = (.ok account, last) ∧ last.Has account.chain ∧
    last.Clean account.chain
  /-- A copy begins clean, and the session stays so. -/
  added : ∀ addition : Addition ω, ∃ more last, session.add addition world = (.ok more, last) ∧
    ∀ either ∈ [session, more], last.Has either.chain ∧ last.Clean either.chain

theorem Entrances.of_clean (has : world.Has session.chain) (clean : world.Clean session.chain) :
    session.Entrances world := by
  let last : World ω := (Run.happen (.spawned session.chain) world).2
  have new : last.Has world.fresh := Stage.has_pushChain
  have copy : last.chain world.fresh = world.chain session.chain := Stage.chain_pushChain_fresh
  have kept : last.chain session.chain = world.chain session.chain := Stage.chain_pushChain has
  have cleanCopy : last.Clean world.fresh := by
    rw [Stage.Clean, copy]
    exact clean
  refine ⟨has, clean, ?_, ?_, ⟨⟨world.fresh⟩, last, rfl, new, cleanCopy⟩, ?_⟩
  · intro kind entry held found
    rw [entry.perform_found found]
    exact begins_enter clean entry.label held
  · intro reply
    have bare : session.bare.response reply =
        session.enter "response()" fun chain => Node.spawn chain reply := bare_runMatchers session _
    refine ⟨?_, session.response_eq reply⟩
    rw [bare]
    exact begins_enter clean "response()" reply
  · intro addition
    obtain ⟨more, returns, chain, -⟩ := session.add_apply addition world
    refine ⟨more, last, returns, ?_⟩
    simp only [List.forall_mem_cons]
    refine ⟨⟨Stage.has_after _ has, ?_⟩, ?_, List.forall_mem_nil _⟩
    · rw [Stage.Clean, kept]
      exact clean
    · rw [chain]
      exact ⟨new, cleanCopy⟩

/-- At every moment of every run, whatever the program did before and however it ended, the sessions
that it has come to have stand open. Callbacks, matchers and additions are programs, so what they do
is part of it. -/
theorem entrances (configs : κ → Config ω) (program : Program ω κ α) (world : World ω)
    (after : HeldChains) (works : program.Works configs .empty world after) : ∃ events,
      Follows world events (program.run configs world).2 ∧
      (∀ before rest, events = before ++ rest → ∀ moment : World ω,
        moment.toStage = world.toStage.replay before → ∀ session : Session ω,
        session.chain ∈ after.roots → moment.Has session.chain → session.Entrances moment) ∧
      ∀ session : Session ω, session.chain ∈ after.roots →
        session.Entrances (program.run configs world).2 := by
  have tidy : Tidy .empty world.toStage := ⟨List.forall_mem_nil _, List.forall_mem_nil _⟩
  obtain ⟨events, follows, kept⟩ := works.kept tidy
  refine ⟨events, follows, ?_, ?_⟩
  · intro before rest split moment stage session root has
    have clean : moment.Clean session.chain := by
      rw [stage] at has ⊢
      exact kept.always.moment split session.chain root has
    exact .of_clean has clean
  · intro session root
    obtain ⟨has, clean⟩ := kept.tidy.roots session.chain root
    rw [← follows.stage] at has clean
    exact .of_clean has clean

/-- Under a copy an entry fails, and under the session a read does. Both unwind. -/
def stumbling : Program Unit Unit Unit :=
  .andThen (.start ()) fun
    | .ok session => .andThen (.add session (.matcher fun node => node.status 200)) fun copy =>
      .andThen (.observe (.act (.entry copy (.object (.bool true))))) fun _ =>
      .andThen (.act (.handle session)) fun account =>
      .andThen (.observe (.act (.read account (.text "key")))) fun _ => .done ()
    | .error _ => .done ()

theorem works_stumbling : ∃ after,
    stumbling.Works (fun _ => { reporter := some .fatal }) .empty (World.start ()) after ∧
    ∀ id ∈ [⟨0⟩, ⟨1⟩], id ∈ after.roots := by
  let config : Config Unit := { reporter := some .fatal }
  let session : Session Unit := ⟨⟨0⟩, none, none, [], []⟩
  let addition : Addition Unit := .matcher fun node => node.status 200
  let copy : Session Unit := ⟨⟨1⟩, none, none, [], [fun node => node.status 200]⟩
  let first : World Unit := (start? config (World.start ())).2
  let second : World Unit := (session.add addition first).2
  let third : World Unit := (copy.object (.bool true) second).2
  have started : start? config (World.start ()) = (.ok (.ok session), first) := rfl
  have copied : session.add addition first = (.ok copy, second) := rfl
  have handed : session.env third = (.ok ⟨third.fresh⟩, (session.env third).2) := rfl
  -- Of any world, or else the third would be computed.
  have handling (world : World Unit) (held : HeldChains) (member : ⟨0⟩ ∈ held.roots) :
      Program.Works (fun _ : Unit => config) (.act (.handle session)) held world
        (held.plus ⟨[], [world.fresh]⟩) := .act (.on_root trivial rfl member)
  have starting : Program.Works (fun _ => config) (.start ()) .empty (World.start ()) ⟨[⟨0⟩], []⟩ :=
    .start ()
  have copying : Program.Works (fun _ : Unit => config) (.add session addition) ⟨[⟨0⟩], []⟩ first
      ⟨[⟨0⟩, ⟨1⟩], []⟩ := .add List.mem_cons_self addition first
  refine ⟨_, .andThen starting started (.andThen copying copied
    (.andThen (.observe (.act (.on_root trivial rfl ?_))) (Run.observe_apply _ _)
    (.andThen (handling third _ ?_) handed
    (.andThen (.observe (.act (.on_chain id rfl ?_))) (Run.observe_apply _ _) (.done ()))))), ?_⟩
  · exact List.mem_cons_of_mem _ List.mem_cons_self
  · exact HeldChains.roots_plus List.mem_cons_self
  · exact List.mem_append_right _ List.mem_cons_self
  · exact fun id member => HeldChains.roots_plus (HeldChains.roots_plus (HeldChains.roots_plus member))

theorem entrances_stumbling : ∃ (session copy : Session Unit) (after : HeldChains),
    stumbling.Works (fun _ => { reporter := some .fatal }) .empty (World.start ()) after ∧
    session.chain ∈ after.roots ∧ copy.chain ∈ after.roots ∧
    (stumbling.run (fun _ => { reporter := some .fatal }) (World.start ())).2.calls.length = 2 ∧
    ∀ either ∈ [session, copy], Begins (either.string "text")
      (stumbling.run (fun _ => { reporter := some .fatal }) (World.start ())).2 "string()" "text" := by
  let session : Session Unit := ⟨⟨0⟩, none, none, [], []⟩
  let copy : Session Unit := ⟨⟨1⟩, none, none, [], [fun node => node.status 200]⟩
  obtain ⟨after, works, both⟩ := works_stumbling
  have root : session.chain ∈ after.roots := both ⟨0⟩ List.mem_cons_self
  have copyRoot : copy.chain ∈ after.roots := both ⟨1⟩ (List.mem_cons_of_mem _ List.mem_cons_self)
  obtain ⟨-, -, -, stand⟩ := entrances _ stumbling (World.start ()) after works
  refine ⟨session, copy, after, works, root, copyRoot, by decide +kernel, ?_⟩
  simp only [List.forall_mem_cons]
  exact ⟨(stand session root).entry _ (.string "text") _ rfl,
    (stand copy copyRoot).entry _ (.string "text") _ rfl, List.forall_mem_nil _⟩

end Session
end FluentAssert
