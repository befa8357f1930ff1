import FluentAssert.Proofs.Node.Elements

/-! Elements by position. Arrays are equal position by position, the ends are the first and the last
of the positions, and past the end there is nothing to be had or compared. -/
namespace FluentAssert

open Canonical (ofNative ofItems)

section Lists

variable {α β γ : Type}

theorem forall₂_through {R : α → β → Prop} {S : γ → β → Prop} {items : List α} {others : List γ} :
    (∃ middle, List.Forall₂ R items middle ∧ List.Forall₂ S others middle) ↔
      List.Forall₂ (fun other item => ∃ b, R item b ∧ S other b) others items := by
  constructor
  · rintro ⟨middle, left, right⟩
    induction left generalizing others with
    | nil =>
      cases right
      exact .nil
    | cons related _ ih =>
      cases right with
      | cons related' right => exact .cons ⟨_, related, related'⟩ (ih right)
  · intro both
    induction both with
    | nil => exact ⟨[], .nil, .nil⟩
    | cons first _ ih =>
      obtain ⟨b, related, related'⟩ := first
      obtain ⟨middle, left, right⟩ := ih
      exact ⟨b :: middle, .cons related left, .cons related' right⟩

theorem forall₂_positions {R : α → β → Prop} {items : List α} {others : List β} :
    List.Forall₂ R items others ↔ items.length = others.length ∧
      ∀ (index : Nat) (other : β), others[index]? = some other →
        ∃ item, items[index]? = some item ∧ R item other := by
  rw [List.forall₂_iff_get]
  refine and_congr_right fun lengths => ?_
  simp only [List.get_eq_getElem, List.getElem?_eq_some_iff]
  constructor
  · rintro related index _ ⟨inside, rfl⟩
    exact ⟨_, ⟨lengths ▸ inside, rfl⟩, related index (lengths ▸ inside) inside⟩
  · intro positions index inside inside'
    obtain ⟨_, ⟨_, rfl⟩, related⟩ := positions index _ ⟨inside', rfl⟩
    exact related

end Lists

namespace ArrayNode

variable (held : List Canonical)

theorem seeks_element (index : Nat) :
    Seeks (fun _ id => element ⟨id, held⟩ index) held[index]? :=
  @Seeks.step .array .value (.element index) held

theorem seeks_first : Seeks (fun _ id => first ⟨id, held⟩) held.head? :=
  @Seeks.step .array .value .first held

theorem seeks_last : Seeks (fun _ id => last ⟨id, held⟩) held.getLast? :=
  @Seeks.step .array .value .last held

theorem judges_hasValue (index : Nat) (v : Native) :
    Judges (fun _ id => hasValue ⟨id, held⟩ index v)
      (∃ item, held[index]? = some item ∧
        ∃ form, ofNative v = .ok form ∧ (item == form) = true) := by
  simp only [hasValue, outOfBounds]
  refine (Judges.argument _ held v _).congr ?_
  cases held[index]? <;> simp

theorem judges_notHasValue (index : Nat) (v : Native) :
    Judges (fun _ id => notHasValue ⟨id, held⟩ index v)
      (∃ item, held[index]? = some item ∧
        ∃ form, ofNative v = .ok form ∧ (item == form) = false) := by
  simp only [notHasValue, outOfBounds]
  refine (Judges.argument _ held v _).congr ?_
  cases held[index]? <;> simp

theorem judges_pointwise (vs : List Native) :
    Judges (fun _ id => isEqual ⟨id, held⟩ (.seq vs)) (held.length = vs.length ∧
      ∀ (index : Nat) (v : Native), vs[index]? = some v → ∃ item, held[index]? = some item ∧
        ∃ form, ofNative v = .ok form ∧ (item == form) = true) := by
  refine (judges_isEqualSeq held vs).congr ?_
  simp only [Canonical.ofItems_ok]
  rw [forall₂_through, forall₂_positions]

variable {held} {index : Nat}

theorem element_past_end (here : Standpoint) (past : held.length ≤ index) :
    Delivers here.world (element ⟨here.chain, held⟩ index)
      [outOfBounds ⟨here.chain, held⟩ index] := by
  let landing : Landing Canonical := ⟨"element(" ++ toString index ++ ")",
    [outOfBounds ⟨here.chain, held⟩ index], .one rfl, .null⟩
  have whole : element ⟨here.chain, held⟩ index = landing.perform (ω := here.ω) here.chain := by
    simp only [element, Node.step, List.getElem?_eq_none past, Node.spawnFailed, landing,
      Landing.perform, Landing.settle, ChainId.reportAll, bind_pure_unit]
  have heard := landing.heard here.chain here.world
  rw [World.audible_live here.live, ← whole] at heard
  exact .of_heard heard

theorem checks_past_end (here : Standpoint) (past : held.length ≤ index) {v : Native}
    {form : Canonical} (canonical : ofNative v = .ok form) :
    Delivers here.world (hasValue ⟨here.chain, held⟩ index v)
      [outOfBounds ⟨here.chain, held⟩ index] ∧
    Delivers here.world (notHasValue ⟨here.chain, held⟩ index v)
      [outOfBounds ⟨here.chain, held⟩ index] := by
  have equal : Tests (fun _ id => hasValue ⟨id, held⟩ index v)
      (outOfBounds ⟨here.chain, held⟩ index) := by
    simp only [hasValue, List.getElem?_eq_none past, outOfBounds]
    exact .argument _ held canonical _
  have different : Tests (fun _ id => notHasValue ⟨id, held⟩ index v)
      (outOfBounds ⟨here.chain, held⟩ index) := by
    simp only [notHasValue, List.getElem?_eq_none past, outOfBounds]
    exact .argument _ held canonical _
  exact ⟨equal.delivers here, different.delivers here⟩

theorem first_reaches (here there : Standpoint) (some : held ≠ []) :
    ∃ item, here.Reaches (fun _ id => first ⟨id, held⟩) item ∧
      there.Reaches (fun _ id => element ⟨id, held⟩ 0) item := by
  refine ⟨held.head some, ?_, ?_⟩
  · exact ((seeks_first held).reaches_iff here _).mpr (List.head?_eq_some_head some)
  · refine ((seeks_element held 0).reaches_iff there _).mpr ?_
    rw [← List.head?_eq_getElem?]
    exact List.head?_eq_some_head some

theorem last_reaches (here there : Standpoint) (some : held ≠ []) :
    ∃ item, here.Reaches (fun _ id => last ⟨id, held⟩) item ∧
      there.Reaches (fun _ id => element ⟨id, held⟩ (held.length - 1)) item := by
  refine ⟨held.getLast some, ?_, ?_⟩
  · exact ((seeks_last held).reaches_iff here _).mpr (List.getLast?_eq_some_getLast some)
  · refine ((seeks_element held _).reaches_iff there _).mpr ?_
    rw [← List.getLast?_eq_getElem?]
    exact List.getLast?_eq_some_getLast some

/-- Arrays are equal position by position, whether the positions are compared or stepped to. The
ends are the first and the last position, if there are any, and past the end every step and every
comparison has the bounds for its failure. -/
theorem equality_pointwise (here there : Standpoint) (held : List Canonical) :
    (∀ vs : List Native,
      (here.Passes (fun _ id => isEqual ⟨id, held⟩ (.seq vs)) ↔ held.length = vs.length ∧
        ∀ (index : Nat) (v : Native), vs[index]? = some v →
          there.Passes fun _ id => hasValue ⟨id, held⟩ index v) ∧
      (here.Passes (fun _ id => isEqual ⟨id, held⟩ (.seq vs)) ↔ held.length = vs.length ∧
        ∀ (index : Nat) (v : Native), vs[index]? = some v →
          there.Passes fun _ id => element ⟨id, held⟩ index >>= fun item => item.isEqual v)) ∧
    (∀ (index : Nat) (v : Native), here.Passes (fun _ id => hasValue ⟨id, held⟩ index v) ↔
      ¬ there.Fails (fun _ id => element ⟨id, held⟩ index) ∧
      there.Passes fun _ id => element ⟨id, held⟩ index >>= fun item => item.isEqual v) ∧
    ((here.Fails (fun _ id => first ⟨id, held⟩) ↔ held = []) ∧
      (here.Fails (fun _ id => last ⟨id, held⟩) ↔ held = []) ∧
      (held ≠ [] →
        (∃ item, here.Reaches (fun _ id => first ⟨id, held⟩) item ∧
          there.Reaches (fun _ id => element ⟨id, held⟩ 0) item) ∧
        ∃ item, here.Reaches (fun _ id => last ⟨id, held⟩) item ∧
          there.Reaches (fun _ id => element ⟨id, held⟩ (held.length - 1)) item)) ∧
    ∀ index : Nat,
      (here.Fails (fun _ id => element ⟨id, held⟩ index) ↔ held.length ≤ index) ∧
      (held.length ≤ index →
        (∀ v : Native, here.Fails (fun _ id => hasValue ⟨id, held⟩ index v) ∧
          here.Fails fun _ id => notHasValue ⟨id, held⟩ index v) ∧
        Delivers here.world (element ⟨here.chain, held⟩ index)
          [outOfBounds ⟨here.chain, held⟩ index] ∧
        ∀ (v : Native) (form : Canonical), ofNative v = .ok form →
          Delivers here.world (hasValue ⟨here.chain, held⟩ index v)
            [outOfBounds ⟨here.chain, held⟩ index] ∧
          Delivers here.world (notHasValue ⟨here.chain, held⟩ index v)
            [outOfBounds ⟨here.chain, held⟩ index]) := by
  have compared (index : Nat) (v : Native) := judges_hasValue held index v
  have stepped (index : Nat) (v : Native) := judges_elementEqual held index v
  have sought (index : Nat) := seeks_element held index
  refine ⟨fun vs => ⟨?_, ?_⟩, fun index v => ?_, ⟨?_, ?_, fun some => ?_⟩, fun index => ⟨?_, ?_⟩⟩
  · rw [(judges_pointwise held vs).passes_iff]
    simp only [(compared _ _).passes_iff]
  · rw [(judges_pointwise held vs).passes_iff]
    simp only [(stepped _ _).passes_iff]
  · rw [(compared index v).passes_iff, (stepped index v).passes_iff, (sought index).fails_iff]
    refine (and_iff_right_of_imp ?_).symm
    rintro ⟨item, found, -⟩ missing
    cases found.symm.trans missing
  · rw [(seeks_first held).fails_iff, List.head?_eq_none_iff]
  · rw [(seeks_last held).fails_iff, List.getLast?_eq_none_iff]
  · exact ⟨first_reaches here there some, last_reaches here there some⟩
  · rw [(sought index).fails_iff, List.getElem?_eq_none_iff]
  · intro past
    have missing : held[index]? = none := List.getElem?_eq_none past
    refine ⟨fun v => ⟨?_, ?_⟩, element_past_end here past, fun v form => checks_past_end here past⟩
    · rw [(compared index v).fails_iff]
      simp [missing]
    · rw [(judges_notHasValue held index v).fails_iff]
      simp [missing]

/-- Zeros of both signs at the first position, and the length as the first index past the end. -/
theorem equality_pointwise_signed :
    let held : List Canonical := [.number (.zero false), .null]
    let vs : List Native := [.double (.zero true), .none]
    let world : World Unit := { World.start () with chains := #[⟨none, [], false, ⟨0⟩, ⟨0⟩⟩] }
    let here : Standpoint := ⟨world, ⟨0⟩, rfl⟩
    here.Passes (fun _ id => isEqual ⟨id, held⟩ (.seq vs)) ∧
    here.Passes (fun _ id => hasValue ⟨id, held⟩ 0 (.double (.zero true))) ∧
    here.Passes (fun _ id =>
      element ⟨id, held⟩ 0 >>= fun item => item.isEqual (.double (.zero true))) ∧
    (∃ item, here.Reaches (fun _ id => first ⟨id, held⟩) item ∧
      here.Reaches (fun _ id => element ⟨id, held⟩ 0) item) ∧
    (∃ item, here.Reaches (fun _ id => last ⟨id, held⟩) item ∧
      here.Reaches (fun _ id => element ⟨id, held⟩ 1) item) ∧
    held.length ≤ 2 ∧ here.Fails (fun _ id => element ⟨id, held⟩ 2) ∧
    ofNative .none = .ok .null ∧
    Delivers world (notHasValue ⟨⟨0⟩, held⟩ 2 .none) [outOfBounds ⟨⟨0⟩, held⟩ 2] := by
  intro held vs world here
  have canonical : ofItems vs = .ok [.number (.zero true), .null] := by rfl
  have none : ofNative .none = .ok .null := by rfl
  have past : held.length ≤ 2 := Nat.le_refl 2
  have equal : here.Passes fun _ id => isEqual ⟨id, held⟩ (.seq vs) := by
    refine ((judges_isEqualSeq held vs).passes_iff here).mpr ⟨_, canonical, ?_⟩
    exact .cons (by decide +kernel) (.cons rfl .nil)
  obtain ⟨whole, compared, ⟨-, -, ends⟩, bounds⟩ := equality_pointwise here here held
  obtain ⟨front, back⟩ := ends (List.cons_ne_nil _ _)
  obtain ⟨outside, fails⟩ := bounds 2
  have position := (((whole vs).1).mp equal).2 0 (.double (.zero true)) rfl
  refine ⟨equal, position, ?_, front, back, past, outside.mpr past, none, ?_⟩
  · exact ((compared _ _).mp position).2
  · exact ((fails past).2.2 .none .null none).2

end ArrayNode
end FluentAssert
