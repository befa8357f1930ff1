import FluentAssert.Proofs.Canonical.Equality
import FluentAssert.Proofs.Node.Judgement

/-! Checks of lists and ranges, told by checks of single values. Arguments are looked at before
anything is compared, so a bad one fails the check even where another argument would pass it. -/
namespace FluentAssert

section Lists

variable {α β ε : Type} {f : α → Except ε β} {P : β → Prop}

theorem mapM_cons_ok {a : α} {rest : List α} {results : List β} :
    (a :: rest).mapM f = .ok results ↔
      ∃ b bs, f a = .ok b ∧ rest.mapM f = .ok bs ∧ results = b :: bs := by
  rw [List.mapM_cons]
  cases first : f a with
  | error e => simp [bind, Except.bind]
  | ok b =>
    cases others : rest.mapM f with
    | error e => simp [bind, Except.bind]
    | ok bs => simp [bind, Except.bind, pure, Except.pure, eq_comm]

theorem mapM_ok {items : List α} :
    (∃ results, items.mapM f = .ok results) ↔ ∀ a ∈ items, ∃ b, f a = .ok b := by
  induction items with
  | nil => simp [pure, Except.pure]
  | cons a rest ih =>
    rw [List.forall_mem_cons, ← ih]
    constructor
    · rintro ⟨results, ok⟩
      obtain ⟨b, bs, first, others, -⟩ := mapM_cons_ok.mp ok
      exact ⟨⟨b, first⟩, bs, others⟩
    · rintro ⟨⟨b, first⟩, bs, others⟩
      exact ⟨b :: bs, mapM_cons_ok.mpr ⟨b, bs, first, others, rfl⟩⟩

theorem mapM_ok_iff {items : List α} {results : List β} :
    items.mapM f = .ok results ↔ List.Forall₂ (fun a b => f a = .ok b) items results := by
  induction items generalizing results with
  | nil => cases results <;> simp [pure, Except.pure]
  | cons a rest ih =>
    rw [mapM_cons_ok]
    constructor
    · rintro ⟨b, bs, first, others, rfl⟩
      exact .cons first (ih.mp others)
    · rintro (_ | ⟨first, others⟩)
      exact ⟨_, _, first, ih.mpr others, rfl⟩

theorem mem_results {items : List α} {results : List β} (ok : items.mapM f = .ok results) {b : β} :
    b ∈ results ↔ ∃ a ∈ items, f a = .ok b := by
  induction mapM_ok_iff.mp ok with
  | nil => simp
  | @cons a first rest bs found others ih =>
    rw [List.mem_cons, ih (mapM_ok_iff.mpr others), List.exists_mem_cons_iff, found, Except.ok.injEq,
      eq_comm]

theorem mapM_ok_exists {items : List α} :
    (∃ results, items.mapM f = .ok results ∧ ∃ b ∈ results, P b) ↔
      (∀ a ∈ items, ∃ b, f a = .ok b) ∧ ∃ a ∈ items, ∃ b, f a = .ok b ∧ P b := by
  constructor
  · rintro ⟨results, ok, b, inside, holds⟩
    obtain ⟨a, member, found⟩ := (mem_results ok).mp inside
    exact ⟨mapM_ok.mp ⟨results, ok⟩, a, member, b, found, holds⟩
  · rintro ⟨all, a, member, b, found, holds⟩
    obtain ⟨results, ok⟩ := mapM_ok.mpr all
    exact ⟨results, ok, b, (mem_results ok).mpr ⟨a, member, found⟩, holds⟩

end Lists

theorem Canonical.ofItems_eq_mapM (values : List Native) :
    ofItems values = values.mapM ofNative := by
  induction values with
  | nil => rfl
  | cons value rest ih => rw [ofItems, List.mapM_cons, ih]

theorem Canonical.ofItems_ok {values : List Native} {forms : List Canonical} :
    ofItems values = .ok forms ↔
      List.Forall₂ (fun value form => ofNative value = .ok form) values forms := by
  rw [ofItems_eq_mapM, mapM_ok_iff]

theorem Canonical.mem_forms {values : List Native} {forms : List Canonical}
    (canonical : ofItems values = .ok forms) {form : Canonical} :
    form ∈ forms ↔ ∃ value ∈ values, ofNative value = .ok form := by
  rw [ofItems_eq_mapM] at canonical
  exact mem_results canonical

theorem Native.arguments_ok {values : List Native} {forms : List Canonical} :
    values.mapM Native.argument = .ok forms ↔ Canonical.ofItems values = .ok forms := by
  simp only [Canonical.ofItems_ok, mapM_ok_iff, Native.argument_ok]

theorem Tests.givenArguments {α : Type} (label : String) (value : α) {values : List Native}
    {forms : List Canonical} (some : values ≠ []) (canonical : Canonical.ofItems values = .ok forms)
    (finding : List Canonical → Finding) :
    Tests (fun _ id => (⟨id, value⟩ : Node α).checkLive label <| id.unlessEmpty values <|
        id.withArguments values fun forms => id.report (finding forms)) (finding forms) := by
  have decides := Decides.unlessEmpty values (.withArguments values finding)
  rw [Native.arguments_ok.mpr canonical, if_neg (by simpa using some)] at decides
  exact checkLive label value decides

namespace Judges

variable {α : Type} (label : String) (value : α)

theorem passed_unlessEmpty {β : Type} (values : List β) (finding : Finding) :
    (if values.isEmpty then ChainId.noArguments else finding).passed = true ↔
      values ≠ [] ∧ finding.passed = true := by
  cases values with
  | nil => simp [ChainId.noArguments]
  | cons => simp

theorem arguments (values : List Native) (finding : List Canonical → Finding) :
    Judges (fun _ id => (⟨id, value⟩ : Node α).checkLive label <|
        id.withArguments values fun forms => id.report (finding forms))
      (∃ forms, Canonical.ofItems values = .ok forms ∧ (finding forms).passed = true) := by
  refine (checkLive label value (.withArguments values finding)).congr ?_
  rw [(Answers.arguments values).passed_given]
  simp only [Native.arguments_ok]

theorem givenArguments (values : List Native) (finding : List Canonical → Finding) :
    Judges (fun _ id => (⟨id, value⟩ : Node α).checkLive label <| id.unlessEmpty values <|
        id.withArguments values fun forms => id.report (finding forms))
      (values ≠ [] ∧ ∃ forms, Canonical.ofItems values = .ok forms ∧
        (finding forms).passed = true) := by
  refine (checkLive label value (.unlessEmpty values (.withArguments values finding))).congr ?_
  rw [passed_unlessEmpty, (Answers.arguments values).passed_given]
  simp only [Native.arguments_ok]

theorem someArguments (values : List Native) {finding : List Canonical → Finding}
    {P : Canonical → Prop} (wanted : ∀ forms, (finding forms).passed = true ↔ ∃ c ∈ forms, P c) :
    Judges (fun _ id => (⟨id, value⟩ : Node α).checkLive label <| id.unlessEmpty values <|
        id.withArguments values fun forms => id.report (finding forms))
      (values ≠ [] ∧ (∀ v ∈ values, ∃ form, Canonical.ofNative v = .ok form) ∧
        ∃ v ∈ values, ∃ form, Canonical.ofNative v = .ok form ∧ P form) := by
  refine (givenArguments label value values finding).congr (and_congr_right fun _ => ?_)
  simp only [wanted, Canonical.ofItems_eq_mapM, mapM_ok_exists]

theorem someNumbers (values : List Native) {finding : List Double → Finding} {P : Double → Prop}
    (wanted : ∀ xs, (finding xs).passed = true ↔ ∃ x ∈ xs, P x) :
    Judges (fun ω id => (⟨id, value⟩ : Node α).checkLive label <| id.unlessEmpty values <|
        (id.numberArguments values >>= fun
          | none => return ()
          | some xs => id.report (finding xs) : Run ω Unit))
      (values ≠ [] ∧ (∀ v ∈ values, ∃ x, Canonical.ofNative v = .ok (.number x)) ∧
        ∃ v ∈ values, ∃ x, Canonical.ofNative v = .ok (.number x) ∧ P x) := by
  refine (checkLive label value (.unlessEmpty values
    (.bind (.numberArguments values) (fun xs => .report (finding xs)) (.pure ())))).congr ?_
  rw [passed_unlessEmpty, (Answers.numberArguments values).passed_given]
  simp only [wanted, mapM_ok_exists, Native.numberArgument_ok]

end Judges

theorem ValueNode.judges_inList (held : Canonical) (values : List Native) :
    Judges (fun _ id => inList ⟨id, held⟩ values)
      (values ≠ [] ∧ (∀ v ∈ values, ∃ form, Canonical.ofNative v = .ok form) ∧
        ∃ v ∈ values, ∃ form, Canonical.ofNative v = .ok form ∧ (held == form) = true) := by
  simp only [inList]
  refine Judges.someArguments "in_list()" held values fun forms => ?_
  simp [Canonical.isMember, Canonical.beq_comm held]

theorem TextNode.judges_inList (held : String) (values : List String) :
    Judges (fun _ id => inList ⟨id, held⟩ values)
      (values ≠ [] ∧ ∃ s ∈ values, (held == s) = true) := by
  simp only [inList, actual]
  refine (Judges.checkLive "in_list()" held (.unlessEmpty values (.report _))).congr ?_
  rw [Judges.passed_unlessEmpty]
  simp

theorem NumberNode.judges_inList (held : Double) (values : List Native) :
    Judges (fun _ id => inList ⟨id, held⟩ values)
      (values ≠ [] ∧ (∀ v ∈ values, ∃ x, Canonical.ofNative v = .ok (.number x)) ∧
        ∃ v ∈ values, ∃ x, Canonical.ofNative v = .ok (.number x) ∧ held.equal x = true) := by
  simp only [inList, actual]
  refine Judges.someNumbers "in_list()" held values fun xs => ?_
  simp [Binary.equal_comm held]

theorem NumberNode.judges_inRange (held : Double) (low high : Native) :
    Judges (fun _ id => inRange ⟨id, held⟩ low high)
      ((∃ x, Canonical.ofNative low = .ok (.number x) ∧ x.atMost held = true) ∧
        ∃ y, Canonical.ofNative high = .ok (.number y) ∧ held.atMost y = true) := by
  -- The upper bound is asked for in any case; a live chain hears of the first bad one.
  have asked : Reports fun _ id => id.numberArgument high := (ChainId.asks_numberArgument high).reports
  simp only [inRange, compareRange, actual]
  refine (Judges.checkLive "in_range()" held (.bind (.numberArgument low) (fun x =>
    .bind (.numberArgument high) (fun y => .report _) (.pure ()))
    (asked.bind fun _ => .pure ()))).congr ?_
  rw [(Answers.numberArgument low).passed_given]
  simp only [(Answers.numberArgument high).passed_given, Native.numberArgument_ok]
  constructor
  · rintro ⟨x, low, y, high, within⟩
    have both : x.atMost held = true ∧ held.atMost y = true := by simpa using within
    exact ⟨⟨x, low, both.1⟩, y, high, both.2⟩
  · rintro ⟨⟨x, low, below⟩, y, high, above⟩
    refine ⟨x, low, y, high, ?_⟩
    simp [below, above]

theorem ArrayNode.judges_containsAny (held : List Canonical) (values : List Native) :
    Judges (fun _ id => containsAny ⟨id, held⟩ values)
      (values ≠ [] ∧ (∀ v ∈ values, ∃ form, Canonical.ofNative v = .ok form) ∧
        ∃ v ∈ values, ∃ form, Canonical.ofNative v = .ok form ∧
          ∃ item ∈ held, (item == form) = true) := by
  simp only [containsAny, actual]
  refine Judges.someArguments "contains_any()" held values fun forms => ?_
  simp [Canonical.isMember]

theorem ObjectNode.judges_containsValue (held : Fields Canonical) (expected : Native) :
    Judges (fun _ id => containsValue ⟨id, held⟩ expected)
      (∃ form, Canonical.ofNative expected = .ok form ∧
        ∃ value ∈ Fields.values held, (value == form) = true) := by
  simp only [containsValue, holds, actual]
  refine (Judges.argument "contains_value()" held expected _).congr ?_
  simp

theorem ArrayNode.judges_elementEqual (held : List Canonical) (index : Nat) (expected : Native) :
    Judges (fun ω id => (element ⟨id, held⟩ index >>= fun item => item.isEqual expected : Run ω Unit))
      (∃ item, held[index]? = some item ∧
        ∃ form, Canonical.ofNative expected = .ok form ∧ (item == form) = true) :=
  @Judges.after .array .value (.element index) held (fun _ (item : ValueNode) => item.isEqual expected) _
    fun item => ValueNode.judges_isEqual item expected

theorem ObjectNode.judges_valuesEqual (held : Fields Canonical) (index : Nat) (expected : Native) :
    Judges (fun ω id => (values ⟨id, held⟩ >>= fun items =>
        items.element index >>= fun item => item.isEqual expected : Run ω Unit))
      (∃ item, (Fields.values held)[index]? = some item ∧
        ∃ form, Canonical.ofNative expected = .ok form ∧ (item == form) = true) := by
  have judged := @Judges.after .object .array .values held
    (fun _ (items : ArrayNode) => items.element index >>= fun item => item.isEqual expected) _
    fun items => ArrayNode.judges_elementEqual items index expected
  refine judged.congr ?_
  have found : @FluentAssert.Step.target? .object .array held .values = some (Fields.values held) := rfl
  simp [found]

/-- Lists pass if they have members, all of them good, and equality to one of them passes; ranges if
both bounds pass; and what a container holds is told by the equality of one of its elements. It
makes no difference from which live chains the checks are made. -/
theorem Standpoint.checks_reduce (here there elsewhere : Standpoint) :
    (∀ (held : Canonical) (values : List Native),
      here.Passes (fun _ id => ValueNode.inList ⟨id, held⟩ values) ↔
        values ≠ [] ∧ (∀ v ∈ values, ∃ form, Canonical.ofNative v = .ok form) ∧
        ∃ v ∈ values, there.Passes fun _ id => ValueNode.isEqual ⟨id, held⟩ v) ∧
    (∀ (held : String) (values : List String),
      here.Passes (fun _ id => TextNode.inList ⟨id, held⟩ values) ↔
        values ≠ [] ∧ ∃ s ∈ values, there.Passes fun _ id => TextNode.isEqual ⟨id, held⟩ s) ∧
    (∀ (held : Double) (values : List Native),
      here.Passes (fun _ id => NumberNode.inList ⟨id, held⟩ values) ↔
        values ≠ [] ∧ (∀ v ∈ values, ∃ x, Canonical.ofNative v = .ok (.number x)) ∧
        ∃ v ∈ values, there.Passes fun _ id => NumberNode.isEqual ⟨id, held⟩ v) ∧
    (∀ (held : Double) (low high : Native),
      here.Passes (fun _ id => NumberNode.inRange ⟨id, held⟩ low high) ↔
        there.Passes (fun _ id => NumberNode.atLeast ⟨id, held⟩ low) ∧
        elsewhere.Passes (fun _ id => NumberNode.atMost ⟨id, held⟩ high)) ∧
    (∀ (held : List Canonical) (values : List Native),
      here.Passes (fun _ id => ArrayNode.containsAny ⟨id, held⟩ values) ↔
        values ≠ [] ∧ (∀ v ∈ values, ∃ form, Canonical.ofNative v = .ok form) ∧
        ∃ index, ∃ v ∈ values, there.Passes fun _ id =>
          ArrayNode.element ⟨id, held⟩ index >>= fun item => item.isEqual v) ∧
    ∀ (held : Fields Canonical) (v : Native),
      here.Passes (fun _ id => ObjectNode.containsValue ⟨id, held⟩ v) ↔
        ∃ index, there.Passes fun _ id =>
          ObjectNode.values ⟨id, held⟩ >>= fun items =>
            items.element index >>= fun item => item.isEqual v := by
  refine ⟨?_, ?_, ?_, ?_, ?_, ?_⟩
  · intro held values
    rw [(ValueNode.judges_inList held values).passes_iff]
    simp only [(ValueNode.judges_isEqual held _).passes_iff]
  · intro held values
    rw [(TextNode.judges_inList held values).passes_iff]
    simp only [(TextNode.judges_isEqual held _).passes_iff]
  · intro held values
    rw [(NumberNode.judges_inList held values).passes_iff]
    simp only [(NumberNode.judges_isEqual held _).passes_iff]
  · intro held low high
    rw [(NumberNode.judges_inRange held low high).passes_iff]
    unfold NumberNode.atLeast NumberNode.atMost
    rw [(NumberNode.judges_compare held ..).passes_iff, (NumberNode.judges_compare held ..).passes_iff]
  · intro held values
    rw [(ArrayNode.judges_containsAny held values).passes_iff]
    simp only [(ArrayNode.judges_elementEqual held _ _).passes_iff]
    refine and_congr_right fun _ => and_congr_right fun _ => ?_
    constructor
    · rintro ⟨v, member, form, canonical, item, inside, equal⟩
      obtain ⟨index, found⟩ := List.mem_iff_getElem?.mp inside
      exact ⟨index, v, member, item, found, form, canonical, equal⟩
    · rintro ⟨index, v, member, item, found, form, canonical, equal⟩
      exact ⟨v, member, form, canonical, item, List.mem_of_getElem? found, equal⟩
  · intro held v
    rw [(ObjectNode.judges_containsValue held v).passes_iff]
    simp only [(ObjectNode.judges_valuesEqual held _ v).passes_iff]
    constructor
    · rintro ⟨form, canonical, item, inside, equal⟩
      obtain ⟨index, found⟩ := List.mem_iff_getElem?.mp inside
      exact ⟨index, item, found, form, canonical, equal⟩
    · rintro ⟨index, item, found, form, canonical, equal⟩
      exact ⟨form, canonical, item, List.mem_of_getElem? found, equal⟩

end FluentAssert
