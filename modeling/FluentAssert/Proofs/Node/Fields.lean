import FluentAssert.Proofs.Http.Headers
import FluentAssert.Proofs.Node.Containment
import FluentAssert.Proofs.Node.Reduction
import FluentAssert.Proofs.Program.History

/-! Fields on nodes. What is counted, listed, looked up, visited and compared of an object is one
map from keys to values. -/
namespace FluentAssert

open FluentAssert.Http
open Canonical (ofNative)

variable {ω : Type}

/-- Where the fields of an object come from. -/
inductive Origin : Fields Canonical → Prop where
  | form {given : Native} {held : Fields Canonical} : ofNative given = .ok (.object held) → Origin held
  | headers (reply : Response) : Origin reply.headerFields

theorem Origin.ordered {held : Fields Canonical} (origin : Origin held) : held.Ordered := by
  cases origin with
  | form canonical => exact (Canonical.proper_ofNative canonical).arranged.ordered
  | headers reply => exact reply.grouped.ordered

theorem Canonical.object_beq {fields others : Fields Canonical} (ordered : fields.Ordered)
    (ordered' : others.Ordered) : (object fields == object others) = true ↔
      (∀ key, key ∈ Fields.keys fields ↔ key ∈ Fields.keys others) ∧
      ∀ key form, Fields.get? others key = some form →
        ∃ value, Fields.get? fields key = some value ∧ (value == form) = true :=
  equalFields_iff.trans
    (Fields.forall₂_iff (R := fun value form => (value == form) = true) ordered ordered')

namespace ObjectNode

variable (held : Fields Canonical)

theorem seeks_keys : Seeks (fun _ id => keys ⟨id, held⟩) (some ((Fields.keys held).map .text)) :=
  @Seeks.step .object .array Step.keys held

theorem seeks_values : Seeks (fun _ id => values ⟨id, held⟩) (some (Fields.values held)) :=
  @Seeks.step .object .array Step.values held

theorem seeks_length : Seeks (fun _ id => length ⟨id, held⟩) (some (Double.ofNat held.length)) :=
  @Seeks.step .object .number Step.length held

theorem judges_containsKey (key : String) :
    Judges (fun _ id => containsKey ⟨id, held⟩ key) (key ∈ Fields.keys held) := by
  simp only [containsKey, actual]
  refine (Judges.check _ held _).congr ?_
  simp [Fields.mem_keys, Fields.has]

theorem judges_fieldEqual (key : String) (given : Native) :
    Judges (fun ω id => (field ⟨id, held⟩ key >>= fun value => value.isEqual given : Run ω Unit))
      (∃ value, Fields.get? held key = some value ∧
        ∃ form, ofNative given = .ok form ∧ (value == form) = true) :=
  (seeks_field held key).judges fun value => ValueNode.judges_isEqual value given

theorem judges_hasForm (key : String) {form : Canonical} (proper : Canonical.Proper form) :
    Judges (fun _ id => hasValue ⟨id, held⟩ key (.ofCanonical form))
      (∃ value, Fields.get? held key = some value ∧ (value == form) = true) := by
  refine (judges_hasValue held key _).congr ?_
  simp [proper.ofNative_ofCanonical]

/-- Objects are equal key by key. -/
theorem judges_keywise (ordered : held.Ordered) (given : Native) :
    Judges (fun _ id => isEqual ⟨id, held⟩ given) (∃ others, ofNative given = .ok (.object others) ∧
      (∀ key, key ∈ Fields.keys held ↔ key ∈ Fields.keys others) ∧
      ∀ key form, Fields.get? others key = some form →
        ∃ value, Fields.get? held key = some value ∧ (value == form) = true) := by
  refine (judges_isEqual held given).congr ?_
  constructor
  · rintro ⟨form, canonical, equal⟩
    cases form with
    | null | bool | number | text | array => cases equal
    | object others =>
      have ordered' := (Canonical.proper_ofNative canonical).arranged.ordered
      exact ⟨others, canonical, (Canonical.object_beq ordered ordered').mp equal⟩
  · rintro ⟨others, canonical, both⟩
    have ordered' := (Canonical.proper_ofNative canonical).arranged.ordered
    exact ⟨_, canonical, (Canonical.object_beq ordered ordered').mpr both⟩

section Visits

variable {log : ω → List (String × Canonical)} {visit : String → ValueNode → Run ω Unit}

/-- The visitor puts every pair that it is called with on record. -/
def Recording (log : ω → List (String × Canonical)) (visit : String → ValueNode → Run ω Unit) :
    Prop :=
  ∀ key (item : ValueNode) (world : World ω),
    log (visit key item world).2.host = log world.host ++ [(key, item.value)]

/-- These were visited, in order, and the rest was not: there is none if the run returns, and if it
unwinds, so did the last visit. -/
structure Visited (log : ω → List (String × Canonical)) (visit : String → ValueNode → Run ω Unit)
    (world : World ω) (run : Run ω Unit) (seen rest : List (String × Canonical)) : Prop where
  recorded : log (run world).2.host = log world.host ++ seen
  returned : (run world).1 = .ok () → rest = []
  unwound : ∀ reason, (run world).1 = .error reason → ∃ key item within,
    seen.getLast? = some (key, item.value) ∧ (visit key item within).1 = .error reason

def enterField (own : ChainId) (visit : String → ValueNode → Run ω Unit)
    (entry : String × Canonical) : Run ω Unit :=
  own.within ("each()[" ++ Text.quoted entry.1 ++ "]") do
    visit entry.1 (← Node.spawn own entry.2)

theorem each_cons (own : ChainId) (entry : String × Canonical) (rest : Fields Canonical) :
    each ⟨own, entry :: rest⟩ visit =
      (enterField own visit entry >>= fun _ => each ⟨own, rest⟩ visit) := by
  simp only [each, List.forM_eq_forM, List.forM_cons, enterField]

theorem Recording.enterField (recording : Recording log visit) (own : ChainId)
    (entry : String × Canonical) (world : World ω) :
    log (enterField own visit entry world).2.host = log world.host ++ [entry] ∧
    ∀ reason, (enterField own visit entry world).1 = .error reason → ∃ key item within,
      entry = (key, item.value) ∧ (visit key item within).1 = .error reason := by
  -- Scopes and new chains are nothing to the host, and only the visit can unwind.
  let opened : World ω :=
    (Run.happen (.entered own ("each()[" ++ Text.quoted entry.1 ++ "]")) world).2
  let within : World ω := (Run.happen (.spawned own) opened).2
  let item : ValueNode := ⟨opened.fresh, entry.2⟩
  exact ⟨recording entry.1 item within, fun _ unwound => ⟨entry.1, item, within, rfl, unwound⟩⟩

theorem Recording.visited (recording : Recording log visit) (own : ChainId)
    (fields : Fields Canonical) (world : World ω) :
    ∃ seen rest, fields = seen ++ rest ∧
      Visited log visit world (each ⟨own, fields⟩ visit) seen rest := by
  induction fields generalizing world with
  | nil => exact ⟨[], [], rfl, (List.append_nil _).symm, fun _ => rfl, nofun⟩
  | cons entry fields ih =>
    obtain ⟨noted, stopped⟩ := recording.enterField own entry world
    cases result : ObjectNode.enterField own visit entry world with
    | mk ending middle =>
      rw [result] at noted stopped
      cases ending with
      | error reason =>
        have whole : each ⟨own, entry :: fields⟩ visit world = (.error reason, middle) := by
          rw [each_cons, Run.bind_apply, result]
        obtain ⟨key, item, within, rfl, unwinds⟩ := stopped reason rfl
        refine ⟨[(key, item.value)], fields, rfl, ?_, ?_, ?_⟩
        · rw [whole]
          exact noted
        · rw [whole]
          nofun
        · rw [whole]
          rintro _ ⟨⟩
          exact ⟨key, item, within, rfl, unwinds⟩
      | ok =>
        have whole : each ⟨own, entry :: fields⟩ visit world = each ⟨own, fields⟩ visit middle := by
          rw [each_cons, Run.bind_apply, result]
        obtain ⟨seen, rest, rfl, recorded, returned, unwound⟩ := ih middle
        refine ⟨entry :: seen, rest, rfl, ?_, ?_, ?_⟩
        · rw [whole, recorded, noted, List.append_assoc]
          rfl
        · rw [whole]
          exact returned
        · rw [whole]
          intro reason ending
          obtain ⟨key, item, within, last, unwinds⟩ := unwound reason ending
          refine ⟨key, item, within, ?_, unwinds⟩
          rw [List.getLast?_cons, last]
          rfl

end Visits

/-- All views of an object show one map, with the keys in order and each of them once: what is
counted, listed and looked up, what is passed for a key, for a value under it or for any value, what
is visited, and what another object is compared with. -/
theorem fields_agree {held : Fields Canonical} (origin : Origin held) (here there : Standpoint) :
    ∃ (ks : List String) (vs : List Canonical),
      Yields (fun _ id => keys ⟨id, held⟩) (ks.map .text) ∧
      Yields (fun _ id => values ⟨id, held⟩) vs ∧
      Yields (fun _ id => length ⟨id, held⟩) (Double.ofNat ks.length) ∧
      ks.Pairwise (· < ·) ∧ ks.length = vs.length ∧
      (∀ key,
        (here.Passes (fun _ id => containsKey ⟨id, held⟩ key) ↔ key ∈ ks) ∧
        (¬ here.Fails (fun _ id => field ⟨id, held⟩ key) ↔ key ∈ ks) ∧
        ∀ value, Yields (fun _ id => field ⟨id, held⟩ key) value ↔
          ∃ i : Nat, ks[i]? = some key ∧ vs[i]? = some value) ∧
      (∀ key given, here.Passes (fun _ id => hasValue ⟨id, held⟩ key given) ↔
        ¬ there.Fails (fun _ id => field ⟨id, held⟩ key) ∧
        there.Passes fun _ id => field ⟨id, held⟩ key >>= fun value => value.isEqual given) ∧
      (∀ given, here.Passes (fun _ id => containsValue ⟨id, held⟩ given) ↔
        ∃ key, there.Passes fun _ id => hasValue ⟨id, held⟩ key given) ∧
      (∀ (ω : Type) (log : ω → List (String × Canonical)) (visit : String → ValueNode → Run ω Unit),
        Recording log visit → ∀ (own : ChainId) (world : World ω), ∃ seen rest,
          ks.zip vs = seen ++ rest ∧ Visited log visit world (each ⟨own, held⟩ visit) seen rest) ∧
      ∀ given, here.Passes (fun _ id => isEqual ⟨id, held⟩ given) ↔
        ∃ others, ofNative given = .ok (.object others) ∧
          (∀ key, key ∈ ks ↔ key ∈ Fields.keys others) ∧
          ∀ key form, Fields.get? others key = some form →
            there.Passes fun _ id => hasValue ⟨id, held⟩ key (.ofCanonical form) := by
  have ordered := origin.ordered
  have sought (key : String) := seeks_field held key
  have paired : (Fields.keys held).zip (Fields.values held) = held := by
    rw [Fields.keys, Fields.values, List.zip_map']
    exact List.map_id _
  refine ⟨Fields.keys held, Fields.values held, (seeks_keys held).yields rfl,
    (seeks_values held).yields rfl, ?_, ordered, ?_, fun key => ⟨?_, ?_, ?_⟩, fun key given => ?_,
    fun given => ?_, ?_, fun given => ?_⟩
  · rw [Fields.keys, List.length_map]
    exact (seeks_length held).yields rfl
  · rw [Fields.keys, Fields.values, List.length_map, List.length_map]
  · exact (judges_containsKey held key).passes_iff here
  · rw [(sought key).fails_iff, Fields.mem_keys, Option.isSome_iff_ne_none]
  · intro value
    rw [(sought key).yields_iff, Fields.get?_iff_position ordered]
  · rw [(judges_hasValue held key given).passes_iff, (judges_fieldEqual held key given).passes_iff,
      (sought key).fails_iff]
    constructor
    · rintro ⟨form, canonical, value, found, equal⟩
      exact ⟨by simp [found], value, found, form, canonical, equal⟩
    · rintro ⟨-, value, found, form, canonical, equal⟩
      exact ⟨form, canonical, value, found, equal⟩
  · rw [(judges_containsValue held given).passes_iff]
    simp only [(judges_hasValue held _ given).passes_iff]
    constructor
    · rintro ⟨form, canonical, value, inside, equal⟩
      obtain ⟨⟨key, _⟩, member, rfl⟩ := List.mem_map.mp inside
      exact ⟨key, form, canonical, _, Fields.get?_of_mem ordered member, equal⟩
    · rintro ⟨key, form, canonical, value, found, equal⟩
      exact ⟨form, canonical, value, List.mem_map_of_mem (Fields.mem_of_get? found), equal⟩
  · intro ω log visit recording own world
    rw [paired]
    exact recording.visited own held world
  · rw [(judges_keywise held ordered given).passes_iff]
    refine exists_congr fun others => and_congr_right fun canonical => and_congr_right fun _ => ?_
    have proper (key : String) (form : Canonical) (found : Fields.get? others key = some form) :
        Canonical.Proper form :=
      ((Canonical.proper_ofNative canonical).throughout.field (Fields.mem_of_get? found)).here
    refine forall₂_congr fun key form => forall_congr' fun found => ?_
    rw [(judges_hasForm held key (proper key form found)).passes_iff]

/-- Zeros of both signs, in objects whose keys come in different orders, and a visitor that does
nothing but record. -/
theorem fields_agree_signed :
    let held : Fields Canonical := [("a", .number (.zero false)), ("b", .null)]
    let given : Native := .map [(.text "b", .none), (.char 'a', .double (.zero false))]
    let other : Native := .struct [("b", .unit), ("a", .double (.zero true))]
    let world : World (List (String × Canonical)) :=
      { World.start [] with chains := #[⟨none, [], false, ⟨0⟩, ⟨0⟩⟩] }
    let here : Standpoint := ⟨world, ⟨0⟩, rfl⟩
    let visit (key : String) (item : ValueNode) : Run (List (String × Canonical)) Unit :=
      .modify fun world => { world with host := world.host ++ [(key, item.value)] }
    ofNative given = .ok (.object held) ∧
    here.Passes (fun _ id => isEqual ⟨id, held⟩ other) ∧
    here.Passes (fun _ id => hasValue ⟨id, held⟩ "a" (.ofCanonical (.number (.zero true)))) ∧
    here.Passes (fun _ id => containsValue ⟨id, held⟩ (.ofCanonical (.number (.zero true)))) ∧
    here.Passes (fun _ id => containsKey ⟨id, held⟩ "a") ∧
    ∃ (ks : List String) (vs : List Canonical),
      Yields (fun _ id => keys ⟨id, held⟩) (ks.map .text) ∧
      Yields (fun _ id => values ⟨id, held⟩) vs ∧
      (each ⟨⟨0⟩, held⟩ visit world).2.host = ks.zip vs := by
  intro held given other world here visit
  have canonical : ofNative given = .ok (.object held) := by rfl
  have form : ofNative other = .ok (.object [("a", .number (.zero true)), ("b", .null)]) := by rfl
  have equal : here.Passes fun _ id => isEqual ⟨id, held⟩ other :=
    ((judges_isEqual held other).passes_iff here).mpr ⟨_, form, by decide⟩
  have recording : Recording id visit := fun _ _ _ => rfl
  obtain ⟨ks, vs, listed, valued, -, -, -, keyed, compared, any, visits, whole⟩ :=
    fields_agree (.form canonical) here here
  obtain ⟨others, form', -, each⟩ := (whole other).mp equal
  cases form.symm.trans form'
  have value := each "a" (.number (.zero true)) rfl
  obtain ⟨present, -⟩ := (compared _ _).mp value
  refine ⟨canonical, equal, value, (any _).mpr ⟨"a", value⟩,
    (keyed "a").1.mpr ((keyed "a").2.1.mp present), ks, vs, listed, valued, ?_⟩
  obtain ⟨seen, rest, pairs, recorded, returned, -⟩ := visits _ id visit recording ⟨0⟩ world
  rw [returned rfl, List.append_nil] at pairs
  rw [pairs]
  exact recorded

end ObjectNode
end FluentAssert
