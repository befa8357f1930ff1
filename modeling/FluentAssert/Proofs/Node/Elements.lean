import FluentAssert.Proofs.Canonical.Containment
import FluentAssert.Proofs.Canonical.Multiset
import FluentAssert.Proofs.Node.Reduction

/-! What arrays are asserted to contain. Comparison without order is equality of multisets, the
checks of elements follow from each other, and what is missing and what is present share out the
arguments. -/
namespace FluentAssert

open Canonical (ofItems sameMultiset Pairing)

namespace Canonical

variable {items others : List Canonical}

/-- Each of the others has an equal among the items. -/
def Covers (items others : List Canonical) : Prop :=
  ∀ other ∈ others, ∃ item ∈ items, (item == other) = true

theorem Pairing.covers (pairs : Pairing items others) : Covers others items := by
  intro item inside
  obtain ⟨partner, there, equal⟩ := pairs.exists_partner inside
  exact ⟨partner, there, beq_comm item partner ▸ equal⟩

theorem pairing_of_forall₂
    (equal : List.Forall₂ (fun item other => (item == other) = true) items others) :
    Pairing items others :=
  ⟨finCongr equal.length_eq, fun place => equal.get place.isLt (equal.length_eq ▸ place.isLt)⟩

/-- Each covers the other just if the same values have equals in both. -/
theorem covers_both (free : ∀ item ∈ items, item.NaNFree)
    (free' : ∀ other ∈ others, other.NaNFree) :
    Covers others items ∧ Covers items others ↔ ∀ value,
      (∃ item ∈ items, (item == value) = true) ↔ ∃ other ∈ others, (other == value) = true := by
  constructor
  · rintro ⟨into, back⟩ value
    constructor
    · rintro ⟨item, inside, equal⟩
      obtain ⟨other, there, near⟩ := into item inside
      exact ⟨other, there, beq_trans near equal⟩
    · rintro ⟨other, inside, equal⟩
      obtain ⟨item, there, near⟩ := back other inside
      exact ⟨item, there, beq_trans near equal⟩
  · intro same
    constructor
    · intro item inside
      exact (same item).mp ⟨item, inside, equal_self (free item inside)⟩
    · intro other inside
      exact (same other).mpr ⟨other, inside, equal_self (free' other inside)⟩

/-- Only the members count, in whichever order and however often. -/
theorem Covers.of_members {items' others' : List Canonical} (covers : Covers items others)
    (more : ∀ item ∈ items, item ∈ items') (fewer : ∀ other ∈ others', other ∈ others) :
    Covers items' others' := by
  intro other inside
  obtain ⟨item, there, equal⟩ := covers other (fewer other inside)
  exact ⟨item, more item there, equal⟩

theorem exists_forms {values values' : List Native} {forms : List Canonical}
    (canonical : ofItems values = .ok forms) (same : ∀ value, value ∈ values ↔ value ∈ values') :
    ∃ forms', ofItems values' = .ok forms' ∧ ∀ form, form ∈ forms ↔ form ∈ forms' := by
  have all : ∃ forms', values'.mapM ofNative = .ok forms' := by
    refine mapM_ok.mpr fun value inside => ?_
    exact mapM_ok.mp ⟨forms, ofItems_eq_mapM values ▸ canonical⟩ value ((same value).mpr inside)
  obtain ⟨forms', canonical'⟩ := all
  rw [← ofItems_eq_mapM] at canonical'
  refine ⟨forms', canonical', fun form => ?_⟩
  simp only [mem_forms canonical, mem_forms canonical', same]

theorem nanFree_ofItems {values : List Native} {forms : List Canonical}
    (canonical : ofItems values = .ok forms) : ∀ form ∈ forms, form.NaNFree :=
  fun form inside => (proper_ofItems canonical form inside).nanFree

end Canonical

namespace ArrayNode

variable (held : List Canonical) (vs : List Native)

theorem judges_isEqualSeq :
    Judges (fun _ id => isEqual ⟨id, held⟩ (.seq vs)) (∃ forms, ofItems vs = .ok forms ∧
      List.Forall₂ (fun item form => (item == form) = true) held forms) := by
  refine (judges_isEqual held (.seq vs)).congr ?_
  rw [Canonical.ofNative]
  constructor
  · rintro ⟨whole, formed, equal⟩
    obtain ⟨forms, canonical, rfl⟩ := Canonical.map_ok formed
    exact ⟨forms, canonical, Canonical.equalItems_iff.mp equal⟩
  · rintro ⟨forms, canonical, equal⟩
    exact ⟨.array forms, by rw [canonical]; rfl, Canonical.equalItems_iff.mpr equal⟩

theorem judges_isEqualUnordered :
    Judges (fun _ id => isEqualUnordered ⟨id, held⟩ vs)
      (∃ forms, ofItems vs = .ok forms ∧ Pairing held forms) := by
  simp only [isEqualUnordered, actual]
  refine (Judges.arguments "is_equal_unordered()" held vs _).congr ?_
  simp [Canonical.sameMultiset_iff_pairing]

theorem judges_containsAll :
    Judges (fun _ id => containsAll ⟨id, held⟩ vs)
      (vs ≠ [] ∧ ∃ forms, ofItems vs = .ok forms ∧ Canonical.Covers held forms) := by
  simp only [containsAll, naming, actual]
  refine (Judges.givenArguments "contains_all()" held vs _).congr ?_
  simp [Canonical.isMember, Canonical.Covers]

theorem judges_containsOnly :
    Judges (fun _ id => containsOnly ⟨id, held⟩ vs)
      (∃ forms, ofItems vs = .ok forms ∧ Canonical.Covers forms held ∧
        Canonical.Covers held forms) := by
  simp only [containsOnly, actual]
  refine (Judges.arguments "contains_only()" held vs _).congr ?_
  simp [Canonical.isMember, Canonical.Covers]

end ArrayNode

/-- Comparison without order pairs the places of both lists, equal with equal. Without NaN it is
told by how often each value is there, so it goes both ways and no rearrangement matters. -/
theorem ArrayNode.unordered_multiset :
    (∀ actual expected : List Canonical,
      sameMultiset actual expected = true ↔ Pairing actual expected) ∧
    (∀ actual expected : List Canonical, (∀ item ∈ actual, item.NaNFree) →
      (∀ item ∈ expected, item.NaNFree) → (sameMultiset actual expected = true ↔
        ∀ value, actual.countP (· == value) = expected.countP (· == value))) ∧
    (∀ actual expected : List Canonical,
      sameMultiset actual expected = sameMultiset expected actual) ∧
    (∀ actual actual' expected expected' : List Canonical, actual.Perm actual' →
      expected.Perm expected' → sameMultiset actual expected = sameMultiset actual' expected') ∧
    ∀ (here : Standpoint) (held : List Canonical) (vs : List Native) (forms : List Canonical),
      ofItems vs = .ok forms →
      (here.Passes (fun _ id => isEqualUnordered ⟨id, held⟩ vs) ↔ Pairing held forms) ∧
      ((∀ item ∈ held, item.NaNFree) →
        (here.Passes (fun _ id => isEqualUnordered ⟨id, held⟩ vs) ↔
          ∀ value, held.countP (· == value) = forms.countP (· == value))) := by
  refine ⟨?_, ?_, ?_, ?_, ?_⟩
  · intro actual expected
    exact Canonical.sameMultiset_iff_pairing
  · intro actual expected free free'
    exact Canonical.sameMultiset_iff_counts free free'
  · exact Canonical.sameMultiset_comm
  · intro actual actual' expected expected' moved moved'
    exact Canonical.sameMultiset_perm moved moved'
  · intro here held vs forms canonical
    have passes : here.Passes (fun _ id => isEqualUnordered ⟨id, held⟩ vs) ↔
        Pairing held forms := by
      rw [(judges_isEqualUnordered held vs).passes_iff]
      simp [canonical]
    refine ⟨passes, fun free => passes.trans ?_⟩
    rw [← Canonical.sameMultiset_iff_pairing]
    exact Canonical.sameMultiset_iff_counts free (Canonical.nanFree_ofItems canonical)

theorem ArrayNode.unordered_multiset_signed :
    let held : List Canonical := [.number (.zero true), .null, .number (.zero false)]
    let forms : List Canonical := [.null, .number (.zero false), .number (.zero false)]
    let vs : List Native := [.unit, .some (.double (.zero false)), .double (.zero false)]
    let world : World Unit := { World.start () with chains := #[⟨none, [], false, ⟨0⟩, ⟨0⟩⟩] }
    let here : Standpoint := ⟨world, ⟨0⟩, rfl⟩
    ofItems vs = .ok forms ∧ Pairing held forms ∧
    (∀ value, held.countP (· == value) = forms.countP (· == value)) ∧
    sameMultiset held forms = true ∧ sameMultiset forms held = true ∧
    sameMultiset held.reverse forms.reverse = true ∧
    here.Passes (fun _ id => isEqualUnordered ⟨id, held⟩ vs) := by
  intro held forms vs world here
  have formed : ofItems [.double (.zero true), .none, .double (.zero false)] = .ok held := by rfl
  have canonical : ofItems vs = .ok forms := by rfl
  have free := Canonical.nanFree_ofItems formed
  have same : sameMultiset held forms = true := by decide +kernel
  obtain ⟨pairs, counts, symmetric, rearranged, checked⟩ := unordered_multiset
  have passes := ((checked here held vs forms canonical).1).mpr ((pairs held forms).mp same)
  refine ⟨canonical, (pairs held forms).mp same, ?_, same, ?_, ?_, passes⟩
  · exact (counts held forms free (Canonical.nanFree_ofItems canonical)).mp same
  · rw [symmetric]
    exact same
  · rw [rearranged _ _ _ _ held.reverse_perm forms.reverse_perm]
    exact same

theorem ArrayNode.containsOnly_members {held held' : List Canonical} {vs vs' : List Native}
    (items : ∀ item, item ∈ held ↔ item ∈ held') (arguments : ∀ v, v ∈ vs ↔ v ∈ vs')
    (only : ∃ forms, ofItems vs = .ok forms ∧ Canonical.Covers forms held ∧
      Canonical.Covers held forms) :
    ∃ forms, ofItems vs' = .ok forms ∧ Canonical.Covers forms held' ∧
      Canonical.Covers held' forms := by
  obtain ⟨forms, canonical, into, back⟩ := only
  obtain ⟨forms', canonical', same⟩ := Canonical.exists_forms canonical arguments
  refine ⟨forms', canonical', into.of_members ?_ ?_, back.of_members ?_ ?_⟩
  · exact fun form => (same form).mp
  · exact fun item => (items item).mpr
  · exact fun item => (items item).mp
  · exact fun form => (same form).mpr

/-- Each check of the elements implies the next. Elements that are the only ones are told by the
values that have equals in both lists, and as many arguments as there are elements, no two of them
equal, that are all contained leave nothing else to be there. -/
theorem ArrayNode.checks_imply (here there : Standpoint) :
    (∀ (held : List Canonical) (vs : List Native),
      (here.Passes (fun _ id => isEqual ⟨id, held⟩ (.seq vs)) →
        there.Passes fun _ id => isEqualUnordered ⟨id, held⟩ vs) ∧
      (here.Passes (fun _ id => isEqualUnordered ⟨id, held⟩ vs) →
        there.Passes fun _ id => containsOnly ⟨id, held⟩ vs) ∧
      (vs ≠ [] → here.Passes (fun _ id => containsOnly ⟨id, held⟩ vs) →
        there.Passes fun _ id => containsAll ⟨id, held⟩ vs) ∧
      (here.Passes (fun _ id => containsAll ⟨id, held⟩ vs) →
        there.Passes fun _ id => containsAny ⟨id, held⟩ vs)) ∧
    (∀ (held : List Canonical) (vs : List Native) (forms : List Canonical),
      (∀ item ∈ held, item.NaNFree) → ofItems vs = .ok forms →
      (here.Passes (fun _ id => containsOnly ⟨id, held⟩ vs) ↔ ∀ value,
        (∃ item ∈ held, (item == value) = true) ↔ ∃ form ∈ forms, (form == value) = true)) ∧
    (∀ (held held' : List Canonical) (vs vs' : List Native), (∀ item, item ∈ held ↔ item ∈ held') →
      (∀ v, v ∈ vs ↔ v ∈ vs') → (here.Passes (fun _ id => containsOnly ⟨id, held⟩ vs) ↔
        there.Passes fun _ id => containsOnly ⟨id, held'⟩ vs')) ∧
    ∀ (held : List Canonical) (vs : List Native) (forms : List Canonical), ofItems vs = .ok forms →
      forms.Pairwise (fun form other => (form == other) = false) → vs.length = held.length →
      here.Passes (fun _ id => containsAll ⟨id, held⟩ vs) →
      there.Passes fun _ id => isEqualUnordered ⟨id, held⟩ vs := by
  refine ⟨fun held vs => ⟨?_, ?_, ?_, ?_⟩, ?_, ?_, ?_⟩
  · rw [(judges_isEqualSeq held vs).passes_iff, (judges_isEqualUnordered held vs).passes_iff]
    rintro ⟨forms, canonical, equal⟩
    exact ⟨forms, canonical, Canonical.pairing_of_forall₂ equal⟩
  · rw [(judges_isEqualUnordered held vs).passes_iff, (judges_containsOnly held vs).passes_iff]
    rintro ⟨forms, canonical, pairs⟩
    exact ⟨forms, canonical, pairs.covers, pairs.symm.covers⟩
  · intro some
    rw [(judges_containsOnly held vs).passes_iff, (judges_containsAll held vs).passes_iff]
    rintro ⟨forms, canonical, -, covers⟩
    exact ⟨some, forms, canonical, covers⟩
  · rw [(judges_containsAll held vs).passes_iff, (judges_containsAny held vs).passes_iff]
    rintro ⟨some, forms, canonical, covers⟩
    have all : ∀ v ∈ vs, ∃ form, Canonical.ofNative v = .ok form :=
      mapM_ok.mp ⟨forms, Canonical.ofItems_eq_mapM vs ▸ canonical⟩
    obtain ⟨v, inside⟩ := List.exists_mem_of_ne_nil vs some
    obtain ⟨form, known⟩ := all v inside
    have named : form ∈ forms := (Canonical.mem_forms canonical).mpr ⟨v, inside, known⟩
    exact ⟨some, all, v, inside, form, known, covers form named⟩
  · intro held vs forms free canonical
    rw [(judges_containsOnly held vs).passes_iff,
      ← Canonical.covers_both free (Canonical.nanFree_ofItems canonical)]
    simp [canonical]
  · intro held held' vs vs' items arguments
    rw [(judges_containsOnly held vs).passes_iff, (judges_containsOnly held' vs').passes_iff]
    constructor
    · exact containsOnly_members items arguments
    · exact containsOnly_members (fun item => (items item).symm) fun v => (arguments v).symm
  · intro held vs forms canonical apart same
    rw [(judges_containsAll held vs).passes_iff, (judges_isEqualUnordered held vs).passes_iff]
    rintro ⟨-, forms', canonical', covers⟩
    cases canonical.symm.trans canonical'
    have lengths : held.length = forms.length :=
      same.symm.trans (Canonical.ofItems_ok.mp canonical).length_eq
    refine ⟨forms, canonical, Canonical.sameMultiset_iff_pairing.mp ?_⟩
    exact Canonical.sameMultiset_of_apart apart lengths covers

theorem ArrayNode.checks_imply_signed :
    let held : List Canonical := [.number (.zero false), .null]
    let held' : List Canonical := [.null, .number (.zero false), .number (.zero false)]
    let vs : List Native := [.double (.zero true), .none]
    let vs' : List Native := [.none, .double (.zero true), .none]
    let world : World Unit := { World.start () with chains := #[⟨none, [], false, ⟨0⟩, ⟨0⟩⟩] }
    let here : Standpoint := ⟨world, ⟨0⟩, rfl⟩
    here.Passes (fun _ id => isEqual ⟨id, held⟩ (.seq vs)) ∧
    here.Passes (fun _ id => isEqualUnordered ⟨id, held⟩ vs) ∧
    here.Passes (fun _ id => containsOnly ⟨id, held⟩ vs) ∧
    here.Passes (fun _ id => containsOnly ⟨id, held'⟩ vs') ∧
    here.Passes (fun _ id => containsAll ⟨id, held⟩ vs) ∧
    here.Passes (fun _ id => containsAny ⟨id, held⟩ vs) ∧
    ∃ item ∈ held, (item == .number (.zero true)) = true := by
  intro held held' vs vs' world here
  have formed : ofItems [.double (.zero false), .none] = .ok held := by rfl
  have canonical : ofItems vs = .ok [.number (.zero true), .null] := by rfl
  have apart : List.Pairwise (fun form other => (form == other) = false)
      [Canonical.number (.zero true), .null] := List.pairwise_pair.mpr rfl
  have equal : here.Passes fun _ id => isEqual ⟨id, held⟩ (.seq vs) := by
    refine ((judges_isEqualSeq held vs).passes_iff here).mpr ⟨_, canonical, ?_⟩
    exact .cons (by decide +kernel) (.cons rfl .nil)
  obtain ⟨implied, told, members, distinct⟩ := checks_imply here here
  obtain ⟨unordered, only, all, any⟩ := implied held vs
  have contains := all (List.cons_ne_nil _ _) (only (unordered equal))
  have again := distinct held vs _ canonical apart rfl contains
  refine ⟨equal, again, only again, ?_, contains, any contains, ?_⟩
  · refine (members held held' vs vs' ?_ ?_).mp (only again)
    · simp [held, held', or_comm]
    · simp [vs, vs', or_comm]
  · refine ((told held vs _ (Canonical.nanFree_ofItems formed) canonical).mp (only again) _).mpr ?_
    exact ⟨_, List.mem_cons_self, by decide +kernel⟩

/-- A list shared out between those that have the property and those that lack it, both in the order
of the list and as often as they are there. -/
inductive SharedOut {α : Type} (P : α → Prop) : List α → List α → List α → Prop where
  | nil : SharedOut P [] [] []
  | has {a : α} {rest those others : List α} :
    P a → SharedOut P rest those others → SharedOut P (a :: rest) (a :: those) others
  | lacks {a : α} {rest those others : List α} :
    ¬ P a → SharedOut P rest those others → SharedOut P (a :: rest) those (a :: others)

namespace SharedOut

variable {α : Type} {P : α → Prop} {items those others : List α}

theorem filter {p : α → Bool} (decides : ∀ a, p a = true ↔ P a) (items : List α) :
    SharedOut P items (items.filter p) (items.filter fun a => !p a) := by
  induction items with
  | nil => exact .nil
  | cons a rest ih =>
    cases has : p a with
    | true =>
      rw [List.filter_cons_of_pos has, List.filter_cons_of_neg (by simp [has])]
      exact ih.has ((decides a).mp has)
    | false =>
      rw [List.filter_cons_of_neg (by simp [has]), List.filter_cons_of_pos (by simp [has])]
      exact ih.lacks fun holds => by simp [(decides a).mpr holds] at has

theorem length_eq (shared : SharedOut P items those others) :
    those.length + others.length = items.length := by
  induction shared with
  | nil => rfl
  | has _ _ ih | lacks _ _ ih =>
    simp only [List.length_cons]
    omega

theorem unique {those' others' : List α} (shared : SharedOut P items those others)
    (again : SharedOut P items those' others') : those = those' ∧ others = others' := by
  induction shared generalizing those' others' with
  | nil =>
    cases again
    exact ⟨rfl, rfl⟩
  | has holds _ ih =>
    cases again with
    | has _ rest =>
      obtain ⟨rfl, rfl⟩ := ih rest
      exact ⟨rfl, rfl⟩
    | lacks lacking _ => exact absurd holds lacking
  | lacks lacking _ ih =>
    cases again with
    | has holds _ => exact absurd holds lacking
    | lacks _ rest =>
      obtain ⟨rfl, rfl⟩ := ih rest
      exact ⟨rfl, rfl⟩

end SharedOut

theorem Finding.expected_foldl (finding : Finding) (errors : List String) :
    (errors.foldl Finding.withError finding).expected = finding.expected := by
  induction errors generalizing finding with
  | nil => rfl
  | cons error rest ih => exact ih (finding.withError error)

namespace ArrayNode

theorem errors_naming (node : ArrayNode) (kind : Kind) (errors : List String)
    (values : List Canonical) : (node.naming kind errors values).errors = errors :=
  Finding.errors_foldl (.ofKind kind) errors

theorem expected_naming (node : ArrayNode) (kind : Kind) (errors : List String)
    (values : List Canonical) : (node.naming kind errors values).expected = values := by
  show (errors.foldl Finding.withError (.ofKind kind)).expected ++ values = values
  rw [Finding.expected_foldl]
  rfl

/-- What a check names of the arguments that it picks is found from every chain. -/
theorem tests_naming (label : String) (kind : Kind) (held : List Canonical) {vs : List Native}
    {forms : List Canonical} (some : vs ≠ []) (canonical : ofItems vs = .ok forms)
    (picks : Canonical → Bool) (text : Canonical → String) :
    ∃ finding : Finding,
      Tests (fun _ id => (⟨id, held⟩ : ArrayNode).checkLive label <| id.unlessEmpty vs <|
        id.withArguments vs fun forms => id.report
          (naming ⟨id, held⟩ kind ((forms.filter picks).map text) forms)) finding ∧
      finding.expected = forms ∧ finding.errors = (forms.filter picks).map text := by
  simp only [naming, actual]
  refine ⟨_, .givenArguments label held some canonical _, ?_, ?_⟩
  · exact expected_naming ⟨⟨0⟩, held⟩ ..
  · exact errors_naming ⟨⟨0⟩, held⟩ ..

/-- The arguments are shared out between the errors of two checks: one names those that are missing,
the other those that are present. Both have all arguments for expected, and each passes just if it
names nothing. -/
theorem arguments_shared_out (held : List Canonical) (vs : List Native) (forms : List Canonical)
    (some : vs ≠ []) (canonical : ofItems vs = .ok forms) :
    ∃ (present missing : List Canonical) (found lost : Finding),
      SharedOut (fun form => ∃ item ∈ held, (item == form) = true) forms present missing ∧
      Tests (fun _ id => containsAll ⟨id, held⟩ vs) lost ∧
      Tests (fun _ id => notContainsAll ⟨id, held⟩ vs) found ∧
      lost.errors = missing.map missingElement ∧ found.errors = present.map presentElement ∧
      lost.errors.length + found.errors.length = vs.length ∧
      lost.expected = forms ∧ found.expected = forms ∧
      ∀ here : Standpoint,
        (here.Passes (fun _ id => containsAll ⟨id, held⟩ vs) ↔ lost.errors = []) ∧
        (here.Passes (fun _ id => notContainsAll ⟨id, held⟩ vs) ↔ found.errors = []) := by
  have shared : SharedOut (fun form => ∃ item ∈ held, (item == form) = true) forms
      (forms.filter fun form => form.isMember held)
      (forms.filter fun form => !form.isMember held) :=
    .filter (fun form => by simp [Canonical.isMember]) forms
  obtain ⟨lost, loses, wanted, missing⟩ := tests_naming "contains_all()" .containsElement held some
    canonical (fun form => !form.isMember held) missingElement
  obtain ⟨found, finds, unwanted, present⟩ := tests_naming "not_contains_all()" .notContainsElement
    held some canonical (fun form => form.isMember held) presentElement
  refine ⟨_, _, found, lost, shared, loses, finds, missing, present, ?_, wanted, unwanted, ?_⟩
  · rw [missing, present, List.length_map, List.length_map, Nat.add_comm, shared.length_eq]
    exact (Canonical.ofItems_ok.mp canonical).length_eq.symm
  · intro here
    constructor
    · exact ((Judges.of_tests loses).passes_iff here).trans List.isEmpty_iff
    · exact ((Judges.of_tests finds).passes_iff here).trans List.isEmpty_iff

/-- A zero that is there in the other sign, plain and as an option, and a text that is missing. -/
theorem arguments_shared_out_repeated :
    let held : List Canonical := [.null, .number (.zero true)]
    let vs : List Native := [.double (.zero false), .text "b", .some (.double (.zero false)),
      .newtype (.text "b")]
    let zero : Canonical := .number (.zero false)
    vs ≠ [] ∧ ofItems vs = .ok [zero, .text "b", zero, .text "b"] ∧
    ∃ found lost : Finding,
      Tests (fun _ id => containsAll ⟨id, held⟩ vs) lost ∧
      Tests (fun _ id => notContainsAll ⟨id, held⟩ vs) found ∧
      lost.errors = [missingElement (.text "b"), missingElement (.text "b")] ∧
      found.errors = [presentElement zero, presentElement zero] ∧
      ∀ here : Standpoint, ¬ here.Passes (fun _ id => containsAll ⟨id, held⟩ vs) := by
  intro held vs zero
  have some : vs ≠ [] := List.cons_ne_nil _ _
  have canonical : ofItems vs = .ok [zero, .text "b", zero, .text "b"] := by rfl
  have there : ∃ item ∈ held, (item == zero) = true :=
    ⟨.number (.zero true), by simp [held], by decide +kernel⟩
  have nowhere : ¬ ∃ item ∈ held, (item == .text "b") = true := by
    simp only [held, List.mem_cons, List.not_mem_nil, or_false]
    rintro ⟨item, rfl | rfl, equal⟩ <;> cases equal
  obtain ⟨present, missing, found, lost, shared, loses, finds, lacked, named, -, -, -, passes⟩ :=
    arguments_shared_out held vs _ some canonical
  obtain ⟨rfl, rfl⟩ :=
    shared.unique (.has there (.lacks nowhere (.has there (.lacks nowhere .nil))))
  refine ⟨some, canonical, found, lost, loses, finds, lacked, named, fun here => ?_⟩
  rw [(passes here).1, lacked]
  exact List.cons_ne_nil _ _

end ArrayNode
end FluentAssert
