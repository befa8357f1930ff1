import FluentAssert.Proofs.Program.History

/-! Operations on nodes of any kind. An operation comes down to moves of one chain, which are fixed
by the operation and the value that the node holds: scopes open and close, findings are reported,
children are spawned. -/
namespace FluentAssert

structure AnyNode where
  kind : NodeKind
  chain : ChainId
  held : Held kind

def Node.any {kind : NodeKind} (node : Node (Held kind)) : AnyNode := ⟨kind, node.chain, node.value⟩

/-- Operations of a node, except those that read values from the environment. -/
inductive NodeOperation : NodeKind → Type where
  | check {kind : NodeKind} (check : Check kind) : NodeOperation kind
  | step {kind target : NodeKind} (step : Step kind target) : NodeOperation kind
  | clone {kind : NodeKind} : NodeOperation kind
  | iter : NodeOperation .array
  | visitItem (index : Nat) : NodeOperation .array
  | visitField (index : Nat) : NodeOperation .object
  | enter {kind : NodeKind} (label : String) : NodeOperation kind
  | leave {kind : NodeKind} : NodeOperation kind
  | report {kind : NodeKind} (finding : Finding) : NodeOperation kind
  | glob {kind : NodeKind} (pattern : String) : NodeOperation kind

/-- Does it, and answers with the nodes that are new. -/
def NodeOperation.perform {ω : Type} (chain : ChainId) :
    {kind : NodeKind} → NodeOperation kind → Held kind → Run ω (List AnyNode)
  | kind, .check what, held => do
    what.perform (⟨chain, held⟩ : Node (Held kind))
    return []
  | kind, .step what, held => do
    return [(← what.perform (⟨chain, held⟩ : Node (Held kind))).any]
  | kind, .clone, held => do return [(← (⟨chain, held⟩ : Node (Held kind)).clone).any]
  | _, .iter, held => do
    return (← ArrayNode.iter ⟨chain, held⟩).map fun node => ⟨.value, node.chain, node.value⟩
  | _, .visitItem index, held =>
    match (held : List Canonical)[index]? with
    | some value => do
      chain.enter ("each()[" ++ toString index ++ "]")
      return [⟨.value, ← chain.spawn, value⟩]
    | none => return []
  | _, .visitField index, held =>
    match (held : List (String × Canonical))[index]? with
    | some (key, value) => do
      chain.enter ("each()[" ++ Text.quoted key ++ "]")
      return [⟨.value, ← chain.spawn, value⟩]
    | none => return []
  | _, .enter label, _ => do
    chain.enter label
    return []
  | _, .leave, _ => do
    chain.leave
    return []
  | _, .report finding, _ => do
    chain.report finding
    return []
  | _, .glob pattern, _ => do
    let _ ← (⟨chain⟩ : Handle).glob pattern
    return []

inductive Move where
  | enter (label : String)
  | leave
  | report (finding : Finding)
  | spawn (kind : NodeKind) (held : Held kind)

namespace Move

def events (own : ChainId) (chain : Chain) : Move → List Event
  | .enter label => [.entered own label]
  | .leave => [.left own]
  | .report finding => Event.ofReport own chain finding
  | .spawn _ _ => [.spawned own]

def born (fresh : ChainId) : Move → List AnyNode
  | .spawn kind held => [⟨kind, fresh, held⟩]
  | _ => []

end Move

namespace Stage

def enact (own : ChainId) (stage : Stage) : List Move → List Event
  | [] => []
  | move :: rest =>
    move.events own (stage.chain own) ++
      (stage.replay (move.events own (stage.chain own))).enact own rest

def born (own : ChainId) (stage : Stage) : List Move → List AnyNode
  | [] => []
  | move :: rest =>
    move.born stage.fresh ++ (stage.replay (move.events own (stage.chain own))).born own rest

theorem enact_append (own : ChainId) (stage : Stage) (first rest : List Move) :
    stage.enact own (first ++ rest) =
      stage.enact own first ++ (stage.replay (stage.enact own first)).enact own rest := by
  induction first generalizing stage with
  | nil => rfl
  | cons move first ih => simp only [List.cons_append, enact, ih, replay_append, List.append_assoc]

theorem born_append (own : ChainId) (stage : Stage) (first rest : List Move) :
    stage.born own (first ++ rest) =
      stage.born own first ++ (stage.replay (stage.enact own first)).born own rest := by
  induction first generalizing stage with
  | nil => rfl
  | cons move first ih =>
    simp only [List.cons_append, born, enact, ih, replay_append, List.append_assoc]

end Stage

variable {ω α β : Type} {own : ChainId} {start : List AnyNode} {moves later : List Move}

/-- A run that, where it returns, has done these moves and brought their nodes, besides some that
were there at the start. -/
def Enacts (own : ChainId) (start : List AnyNode) (moves : List Move) (nodes : α → List AnyNode)
    (run : Run ω α) : Prop :=
  ∀ world a last, run world = (.ok a, last) →
    Follows world (world.enact own moves) last ∧ nodes a = start ++ world.born own moves

namespace Enacts

theorem still {run : Run ω α} (h : ∀ world, (run world).2 = world) :
    Enacts own start [] (fun _ => start) run := by
  intro world a last returns
  have same : world = last := (h world).symm.trans (congrArg Prod.snd returns)
  exact ⟨same ▸ .refl world, (List.append_nil start).symm⟩

theorem pure {nodes : α → List AnyNode} (a : α) (same : nodes a = start) :
    Enacts (ω := ω) own start [] nodes (Pure.pure a) := by
  intro world b last returns
  cases returns
  exact ⟨.refl world, same.trans (List.append_nil start).symm⟩

theorem bind {nodes : α → List AnyNode} {nodes' : β → List AnyNode} {first : Run ω α}
    {next : α → Run ω β} (hf : Enacts own start moves nodes first)
    (hn : ∀ a, Enacts own (nodes a) later nodes' (next a)) :
    Enacts own start (moves ++ later) nodes' (first >>= next) := by
  intro world b last returns
  rw [Run.bind_apply] at returns
  cases h : first world with
  | mk ending middle =>
    rw [h] at returns
    cases ending with
    | error reason => cases returns
    | ok a =>
      obtain ⟨follows, found⟩ := hf world a middle h
      obtain ⟨follows', found'⟩ := hn a middle b last returns
      rw [Stage.enact_append, Stage.born_append, ← follows.stage]
      exact ⟨follows.trans follows', by rw [found', found, List.append_assoc]⟩

theorem map {nodes : α → List AnyNode} {nodes' : β → List AnyNode} {run : Run ω α} {f : α → β}
    (h : Enacts own start moves nodes run) (same : ∀ a, nodes' (f a) = nodes a) :
    Enacts own start moves nodes' (do return f (← run)) := by
  have whole := h.bind fun a => pure (f a) (same a)
  rwa [List.append_nil] at whole

theorem enter (label : String) :
    Enacts (ω := ω) own start [.enter label] (fun _ => start) (own.enter label) := by
  intro world a last returns
  cases returns
  exact ⟨.happen world trivial, (List.append_nil start).symm⟩

theorem leave : Enacts (ω := ω) own start [.leave] (fun _ => start) own.leave := by
  intro world a last returns
  cases returns
  exact ⟨.happen world trivial, (List.append_nil start).symm⟩

theorem spawn {kind : NodeKind} (held : Held kind) :
    Enacts (ω := ω) own start [.spawn kind held] (fun child => start ++ [⟨kind, child, held⟩])
      own.spawn := by
  intro world a last returns
  cases returns
  exact ⟨.happen world trivial, rfl⟩

theorem spawnNode (kind : NodeKind) (held : Held kind) :
    Enacts (ω := ω) own start [.spawn kind held] (fun node => start ++ [node.any])
      (Node.spawn own held) :=
  (spawn held).map fun _ => rfl

theorem report (finding : Finding) :
    Enacts (ω := ω) own start [.report finding] (fun _ => start) (own.report finding) := by
  intro world a last returns
  have follows := own.report_follows finding world
  rw [returns] at follows
  have whole : world.enact own [.report finding] =
        Event.ofReport own (world.chain own) finding :=
    List.append_nil _
  exact ⟨whole ▸ follows, (List.append_nil start).symm⟩

theorem within {nodes : α → List AnyNode} (label : String) {body : Run ω α}
    (h : Enacts own start moves nodes body) :
    Enacts own start (.enter label :: (moves ++ [.leave])) nodes (own.within label body) := by
  intro world a last returns
  rw [ChainId.within_apply] at returns
  cases hb : body (Run.happen (.entered own label) world).2 with
  | mk ending middle =>
    rw [hb] at returns
    cases returns
    obtain ⟨follows, found⟩ := h _ a middle hb
    have opened : Follows world [.entered own label] (Run.happen (.entered own label) world).2 :=
      .happen world trivial
    have closed : Follows middle [.left own] (Run.happen (.left own) middle).2 :=
      .happen middle trivial
    have events : world.enact own (.enter label :: (moves ++ [.leave])) =
        [.entered own label] ++
          ((world.after (.entered own label)).enact own moves ++ [.left own]) := by
      rw [Stage.enact, Stage.enact_append]
      rfl
    have nodes : world.born own (.enter label :: (moves ++ [.leave])) =
        (world.after (.entered own label)).born own moves := by
      rw [Stage.born, Stage.born_append]
      exact List.append_nil _
    rw [events, nodes]
    exact ⟨opened.trans (follows.trans closed), found⟩

theorem reportAll (findings : List Finding) :
    Enacts (ω := ω) own start (findings.map .report) (fun _ => start) (own.reportAll findings) := by
  induction findings with
  | nil => exact still fun _ => rfl
  | cons finding rest ih => exact (report finding).bind fun _ => ih

theorem enact_failed {stage : Stage} (failed : (stage.chain own).failed = true)
    (findings : List Finding) : stage.enact own (findings.map .report) = [] := by
  induction findings with
  | nil => rfl
  | cons finding rest ih =>
    have silent : Event.ofReport own (stage.chain own) finding = [] := if_pos failed
    simp only [List.map_cons, Stage.enact, Move.events, silent, List.nil_append,
      Stage.replay_nil, ih]

theorem born_reports {stage : Stage} (findings : List Finding) :
    stage.born own (findings.map .report) = [] := by
  induction findings generalizing stage with
  | nil => rfl
  | cons finding rest ih => exact ih

theorem ifLive {nodes : α → List AnyNode} {body : Run ω α} {neutral : α} {findings : List Finding}
    (h : Enacts own start (findings.map .report) nodes body) (same : nodes neutral = start) :
    Enacts own start (findings.map .report) nodes
      (own.isFailed >>= fun failed => if failed then Pure.pure neutral else body) := by
  intro world a last returns
  change (if (world.chain own).failed then Pure.pure neutral else body : Run ω α) world = _
    at returns
  by_cases failed : (world.chain own).failed = true
  · rw [if_pos failed] at returns
    cases returns
    rw [enact_failed failed, born_reports]
    exact ⟨.refl world, same.trans (List.append_nil start).symm⟩
  · rw [if_neg failed] at returns
    exact h world a last returns

theorem plan (plan : Plan) :
    Enacts (ω := ω) own start (.enter plan.label :: (plan.findings.map .report ++ [.leave]))
      (fun _ => start) (plan.perform own) := by
  refine within plan.label ?_
  cases plan.live with
  | false => exact reportAll plan.findings
  | true => exact ifLive (reportAll plan.findings) rfl

theorem landing {kind : NodeKind} (landing : Landing (Held kind)) :
    Enacts (ω := ω) own start
      (.enter landing.label ::
        (landing.findings.map .report ++ [.spawn kind landing.held] ++ [.leave]))
      (fun node => start ++ [node.any]) (landing.perform own) :=
  within landing.label ((reportAll _).bind fun _ => spawnNode kind landing.held)

theorem visit (label : String) (value : Canonical) :
    Enacts (ω := ω) own start [.enter label, .spawn .value value] (fun nodes => start ++ nodes) (do
      own.enter label
      return [⟨.value, ← own.spawn, value⟩]) :=
  (enter label).bind fun _ => (@spawn ω own start .value value).map fun _ => rfl

def iterMoves (items : List (Canonical × Nat)) : List Move :=
  items.flatMap fun (value, index) =>
    [.enter ("iter()[" ++ toString index ++ "]"), .spawn .value value, .leave]

theorem iter (items : List (Canonical × Nat)) :
    Enacts (ω := ω) own start (iterMoves items)
      (fun nodes => start ++ nodes.map (@Node.any .value))
      (items.mapM fun (value, index) =>
        own.within ("iter()[" ++ toString index ++ "]") (Node.spawn own value)) := by
  induction items generalizing start with
  | nil => exact pure [] (List.append_nil start)
  | cons item rest ih =>
    rw [List.mapM_cons]
    refine (within _ (spawnNode .value item.1)).bind fun node => ih.map fun nodes => ?_
    simp only [List.map_cons, List.append_assoc, List.singleton_append]

/-- Whether a pattern is one does not depend on the store. -/
theorem glob (pattern : String) : ∃ findings : List Finding,
    ∀ (ω : Type) (own : ChainId), Enacts (ω := ω) own []
      (.enter (Handle.label "glob" pattern) :: (findings.map .report ++ [.leave]))
      (fun _ => []) ((⟨own⟩ : Handle).glob pattern) := by
  have contents {ω : Type} {own : ChainId} : Enacts (ω := ω) own [] [] (fun _ => [])
      ((⟨own⟩ : Handle).store >>= StoreId.contents) := still fun _ => rfl
  cases h : Glob.parse pattern with
  | ok parsed =>
    refine ⟨[], fun ω own => within _ (ifLive ?_ rfl)⟩
    rw [← bind_assoc]
    refine contents.bind fun store => ?_
    have keys : store.glob pattern = .ok ((Fields.keys store).filter (Glob.isMatch parsed)) := by
      rw [Store.glob, h]
      rfl
    rw [keys]
    exact pure _ rfl
  | error e =>
    refine ⟨[.failure .valid
        ("invalid glob pattern " ++ Text.quoted pattern ++ ": " ++ e.message)],
      fun ω own => within _ (ifLive ?_ rfl)⟩
    rw [← bind_assoc]
    refine contents.bind fun store => ?_
    have bad : store.glob pattern = .error e := by
      rw [Store.glob, h]
      rfl
    rw [bad]
    exact (report _).map fun _ => rfl

end Enacts

/-- What a operation comes down to is fixed by the operation and the held value. -/
theorem NodeOperation.enacts {kind : NodeKind} (operation : NodeOperation kind) (held : Held kind) :
    ∃ moves, ∀ (ω : Type) (own : ChainId),
      Enacts (ω := ω) own [] moves (fun nodes => nodes) (operation.perform own held) := by
  have alone {ω : Type} {own : ChainId} {moves : List Move} {run : Run ω Unit}
      (h : Enacts own [] moves (fun _ => []) run) :
      Enacts own [] moves (fun nodes => nodes) (do
        run
        return []) := h.map fun _ => rfl
  cases operation with
  | check what =>
    obtain ⟨plan, same⟩ := what.planned held
    have h (ω : Type) (own : ChainId) : Enacts (ω := ω) own []
        (.enter plan.label :: (plan.findings.map .report ++ [.leave])) (fun _ => [])
        (what.perform (⟨own, held⟩ : Node (Held kind))) := by
      rw [show what.perform ⟨own, held⟩ = plan.perform own from same ω own]
      exact .plan plan
    exact ⟨_, fun ω own => alone (h ω own)⟩
  | step what =>
    obtain ⟨landing, same⟩ := what.charted held
    have h (ω : Type) (own : ChainId) : Enacts (ω := ω) own []
        (.enter landing.label ::
          (landing.findings.map .report ++ [.spawn _ landing.held] ++ [.leave]))
        (fun node => [node.any]) (what.perform (⟨own, held⟩ : Node (Held kind))) := by
      rw [show what.perform ⟨own, held⟩ = landing.perform own from same ω own]
      exact .landing landing
    exact ⟨_, fun ω own => (h ω own).map fun _ => rfl⟩
  | clone => exact ⟨_, fun ω own => (Enacts.spawnNode kind held).map fun _ => rfl⟩
  | iter => exact ⟨_, fun ω own => (Enacts.iter (List.zipIdx held)).map fun _ => rfl⟩
  | visitItem index =>
    simp only [NodeOperation.perform]
    cases (held : List Canonical)[index]? with
    | none => exact ⟨[], fun ω own => .pure [] rfl⟩
    | some value => exact ⟨_, fun ω own => .visit _ value⟩
  | visitField index =>
    simp only [NodeOperation.perform]
    cases (held : List (String × Canonical))[index]? with
    | none => exact ⟨[], fun ω own => .pure [] rfl⟩
    | some field => exact ⟨_, fun ω own => .visit _ field.2⟩
  | enter label => exact ⟨_, fun ω own => alone (.enter label)⟩
  | leave => exact ⟨_, fun ω own => alone .leave⟩
  | report finding => exact ⟨_, fun ω own => alone (.report finding)⟩
  | glob pattern =>
    obtain ⟨findings, h⟩ := Enacts.glob pattern
    exact ⟨_, fun ω own => (h ω own).map fun _ => rfl⟩

theorem NodeOperation.follows {kind : NodeKind} (operation : NodeOperation kind) (held : Held kind) :
    ∃ moves, ∀ {ω : Type} {own : ChainId} {world last : World ω} {new : List AnyNode},
      operation.perform own held world = (.ok new, last) →
      Follows world (world.enact own moves) last ∧ new = world.born own moves := by
  obtain ⟨moves, enacts⟩ := operation.enacts held
  exact ⟨moves, fun {ω own world last new} returns => enacts ω own world new last returns⟩

/-- Goes on with the nodes that a operation brings, and leaves its scope however that ends. -/
def NodeOperation.callBack {kind : NodeKind} (operation : NodeOperation kind) (chain : ChainId)
    (held : Held kind) (visit : ChainId → Run ω Unit) : Run ω Unit := do
  let nodes ← operation.perform chain held
  let ending ← Run.observe (nodes.forM fun node => visit node.chain)
  chain.leave
  Run.conclude ending

theorem ArrayNode.each_operations (node : ArrayNode) (visit : Nat → ValueNode → Run ω Unit) :
    node.each visit = node.value.zipIdx.forM fun (value, index) =>
      (NodeOperation.visitItem index).callBack node.chain node.value fun child =>
        visit index ⟨child, value⟩ := by
  apply Run.forM_congr
  rintro ⟨value, index⟩ member
  have found : node.value[index]? = some value := List.mem_zipIdx_iff_getElem?.mp member
  simp only [NodeOperation.callBack, NodeOperation.perform, found, bind_assoc, pure_bind,
    List.forM_eq_forM, List.forM_cons, List.forM_nil, bind_pure_unit]
  rfl

theorem ObjectNode.each_operations (node : ObjectNode) (visit : String → ValueNode → Run ω Unit) :
    node.each visit = node.value.zipIdx.forM fun ((key, value), index) =>
      (NodeOperation.visitField index).callBack node.chain node.value fun child =>
        visit key ⟨child, value⟩ := by
  have order : node.value = node.value.zipIdx.map Prod.fst :=
    (List.zipIdx_map_fst 0 node.value).symm
  rw [ObjectNode.each]
  conv => lhs; rw [order]
  rw [List.forM_eq_forM, List.forM_map]
  apply Run.forM_congr
  rintro ⟨⟨key, value⟩, index⟩ member
  have found : node.value[index]? = some (key, value) := List.mem_zipIdx_iff_getElem?.mp member
  simp only [NodeOperation.callBack, NodeOperation.perform, found, bind_assoc, pure_bind,
    List.forM_eq_forM, List.forM_cons, List.forM_nil, bind_pure_unit]
  rfl

end FluentAssert
