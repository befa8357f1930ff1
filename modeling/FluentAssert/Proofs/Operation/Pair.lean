import FluentAssert.Proofs.Operation.Verdict

/-! Checks come in pairs, of which one denies what the other finds. The same fault of the arguments
fails both; otherwise just one of them passes. -/
namespace FluentAssert

variable {α : Type}

def Native.fault? (value : Native) : Option Kind :=
  match Canonical.ofNative value with
  | .ok _ => .none
  | .error _ => .some .valid

def Native.numberFault? (value : Native) : Option Kind :=
  match Canonical.ofNative value with
  | .ok (.number _) => .none
  | _ => .some .valid

def Native.listFault? (values : List Native) : Option Kind :=
  if values.isEmpty then .some .valid else values.findSome? Native.fault?

/-- The argument lacks an answer just because of this fault. -/
def Blames (fault? : Option Kind) : Except Finding α → Prop
  | .ok _ => fault? = none
  | .error failure => failure.passed = false ∧ fault? = some failure.kind

theorem Native.blames_argument (value : Native) : Blames value.fault? value.argument := by
  unfold Native.fault? Native.argument
  cases Canonical.ofNative value with
  | ok value => rfl
  | error e => exact ⟨rfl, rfl⟩

theorem Native.blames_numberArgument (value : Native) :
    Blames value.numberFault? value.numberArgument := by
  unfold Native.numberFault? Native.numberArgument Native.argument
  cases Canonical.ofNative value with
  | error e => exact ⟨rfl, rfl⟩
  | ok value =>
    cases value with
    | number x => rfl
    | null | bool | text | array | object => exact ⟨rfl, rfl⟩

theorem Native.blames_arguments (values : List Native) :
    Blames (values.findSome? Native.fault?) (values.mapM Native.argument) := by
  induction values with
  | nil => rfl
  | cons value rest ih =>
    have first := value.blames_argument
    rw [List.findSome?_cons, List.mapM_cons]
    cases answer : value.argument with
    | error failure =>
      rw [answer] at first
      rw [first.2]
      exact ⟨first.1, rfl⟩
    | ok value =>
      rw [answer] at first
      rw [first]
      cases others : rest.mapM Native.argument with
      | error failure => rwa [others] at ih
      | ok values => rwa [others] at ih

/-- Without a fault just one of the two passes; with a fault both fail, with the same errors. -/
def Opposed (fault? : Option Kind) (found denied : Finding) : Prop :=
  match fault? with
  | none => denied.passed = !found.passed
  | some fault => found.passed = false ∧ denied.passed = false ∧ found.kind = fault ∧
      denied.kind = fault ∧ denied.errors = found.errors

namespace Opposed

variable {fault? later? : Option Kind}

theorem same (failure : Finding) (fails : failure.passed = false) :
    Opposed (some failure.kind) failure failure :=
  ⟨fails, fails, rfl, rfl, rfl⟩

theorem given {answer : Except Finding α} {found denied : α → Finding}
    (blames : Blames fault? answer) (opposed : ∀ a, Opposed later? (found a) (denied a)) :
    Opposed (fault?.or later?) (.given answer found) (.given answer denied) := by
  cases answer with
  | ok a =>
    have none : fault? = none := blames
    rw [none]
    exact opposed a
  | error failure =>
    obtain ⟨fails, blamed⟩ := blames
    rw [blamed]
    exact same failure fails

theorem plain {answer : Except Finding α} {found denied : α → Finding}
    (blames : Blames fault? answer) (opposed : ∀ a, (denied a).passed = !(found a).passed) :
    Opposed fault? (.given answer found) (.given answer denied) := by
  have whole : Opposed (fault?.or none) (.given answer found) (.given answer denied) :=
    given blames opposed
  rwa [Option.or_none] at whole

theorem unlessEmpty (values : List Native) {found denied : Finding}
    (opposed : Opposed (values.findSome? Native.fault?) found denied) :
    Opposed (Native.listFault? values) (if values.isEmpty then ChainId.noArguments else found)
      (if values.isEmpty then ChainId.noArguments else denied) := by
  unfold Native.listFault?
  cases values.isEmpty with
  | true => exact same _ rfl
  | false => exact opposed

end Opposed

/-- Two runs that come to opposed findings on live chains. -/
def Opposite (fault? : Option Kind) (positive negative : ∀ ω : Type, ChainId → Run ω Unit) : Prop :=
  ∃ found denied, Finds positive found ∧ Finds negative denied ∧ Opposed fault? found denied

namespace Opposite

variable (label label' : String) (value : α)

theorem check {found denied : Finding} (opposed : denied.passed = !found.passed) :
    Opposite none (fun _ id => (⟨id, value⟩ : Node α).check label found)
      (fun _ id => (⟨id, value⟩ : Node α).check label' denied) :=
  ⟨found, denied, .check label found value, .check label' denied value, opposed⟩

theorem checkLive {fault? : Option Kind} {positive negative : ∀ ω : Type, ChainId → Run ω Unit}
    {found denied : Finding} (hp : Decides positive found) (hn : Decides negative denied)
    (opposed : Opposed fault? found denied) :
    Opposite fault? (fun ω id => (⟨id, value⟩ : Node α).checkLive label (positive ω id))
      (fun ω id => (⟨id, value⟩ : Node α).checkLive label' (negative ω id)) :=
  ⟨found, denied, .checkLive label value hp, .checkLive label' value hn, opposed⟩

theorem judged (argument : Native) {later? : Option Kind} {found denied : Canonical → Finding}
    (opposed : ∀ c, Opposed later? (found c) (denied c)) :
    Opposite (argument.fault?.or later?)
      (fun _ id => (⟨id, value⟩ : Node α).checkLive label <|
        id.withArgument argument fun c => id.report (found c))
      (fun _ id => (⟨id, value⟩ : Node α).checkLive label' <|
        id.withArgument argument fun c => id.report (denied c)) :=
  checkLive label label' value (.withArgument argument found) (.withArgument argument denied)
    (.given argument.blames_argument opposed)

theorem argument (argument : Native) {found denied : Canonical → Finding}
    (opposed : ∀ c, (denied c).passed = !(found c).passed) :
    Opposite argument.fault?
      (fun _ id => (⟨id, value⟩ : Node α).checkLive label <|
        id.withArgument argument fun c => id.report (found c))
      (fun _ id => (⟨id, value⟩ : Node α).checkLive label' <|
        id.withArgument argument fun c => id.report (denied c)) :=
  checkLive label label' value (.withArgument argument found) (.withArgument argument denied)
    (.plain argument.blames_argument opposed)

theorem arguments (arguments : List Native) {found denied : List Canonical → Finding}
    (opposed : ∀ cs, (denied cs).passed = !(found cs).passed) :
    Opposite (Native.listFault? arguments)
      (fun _ id => (⟨id, value⟩ : Node α).checkLive label <| id.unlessEmpty arguments <|
        id.withArguments arguments fun cs => id.report (found cs))
      (fun _ id => (⟨id, value⟩ : Node α).checkLive label' <| id.unlessEmpty arguments <|
        id.withArguments arguments fun cs => id.report (denied cs)) := by
  apply checkLive label label' value
  · exact .unlessEmpty arguments (.withArguments arguments found)
  · exact .unlessEmpty arguments (.withArguments arguments denied)
  · exact .unlessEmpty arguments (.plain (Native.blames_arguments arguments) opposed)

end Opposite

namespace ValueNode

inductive Pair where
  | null
  | equal (expected : Native)
  | list (values : List Native)

namespace Pair

def positive : Pair → Check
  | .null => .isNull
  | .equal expected => .isEqual expected
  | .list values => .inList values

def negative : Pair → Check
  | .null => .notNull
  | .equal expected => .notEqual expected
  | .list values => .notInList values

def fault? : Pair → Option Kind
  | .null => none
  | .equal expected => expected.fault?
  | .list values => Native.listFault? values

theorem opposite (pair : Pair) (value : Canonical) :
    Opposite pair.fault? (fun _ id => pair.positive.perform ⟨id, value⟩)
      (fun _ id => pair.negative.perform ⟨id, value⟩) := by
  cases pair
  all_goals simp only [positive, negative, fault?, Check.perform, isNull, notNull, isEqual, notEqual,
    inList, notInList]
  case null => exact .check _ _ value (by simp)
  case equal expected => exact .argument _ _ value expected fun c => by simp
  case list values => exact .arguments _ _ value values fun cs => by simp

end Pair
end ValueNode

namespace ObjectNode

inductive Pair where
  | empty
  | key (name : String)
  | value (expected : Native)
  | field (name : String) (expected : Native)
  | subset (fields : Native)
  | equal (expected : Native)

namespace Pair

def positive : Pair → Check
  | .empty => .isEmpty
  | .key name => .containsKey name
  | .value expected => .containsValue expected
  | .field name expected => .hasValue name expected
  | .subset fields => .containsSubset fields
  | .equal expected => .isEqual expected

def negative : Pair → Check
  | .empty => .notEmpty
  | .key name => .notContainsKey name
  | .value expected => .notContainsValue expected
  | .field name expected => .notHasValue name expected
  | .subset fields => .notContainsSubset fields
  | .equal expected => .notEqual expected

/-- Of a field, the value is looked at before the key. -/
def fault? (held : Fields Canonical) : Pair → Option Kind
  | .empty | .key _ => none
  | .value argument | .subset argument | .equal argument => argument.fault?
  | .field name expected =>
    expected.fault?.or (if (Fields.get? held name).isSome then none else some .containsKey)

theorem opposite (pair : Pair) (held : Fields Canonical) :
    Opposite (pair.fault? held) (fun _ id => pair.positive.perform ⟨id, held⟩)
      (fun _ id => pair.negative.perform ⟨id, held⟩) := by
  cases pair
  all_goals simp only [positive, negative, fault?, Check.perform, isEmpty, notEmpty, containsKey,
    notContainsKey, containsValue, notContainsValue, hasValue, notHasValue, containsSubset,
    notContainsSubset, isEqual, notEqual, actual, holds, noKey]
  case empty | key => exact .check _ _ held (by simp)
  case value argument | subset argument | equal argument =>
    exact .argument _ _ held argument fun c => by simp
  case field name expected =>
    refine .judged _ _ held expected fun c => ?_
    cases Fields.get? held name with
    | some value => simp [Opposed]
    | none => simp [Opposed]

end Pair
end ObjectNode

namespace ArrayNode

inductive Pair where
  | empty
  | equal (expected : Native)
  | element (index : Nat) (expected : Native)
  | all (values : List Native)
  | any (values : List Native)

namespace Pair

def positive : Pair → Check
  | .empty => .isEmpty
  | .equal expected => .isEqual expected
  | .element index expected => .hasValue index expected
  | .all values => .containsAll values
  | .any values => .containsAny values

/-- Denied that all are elements, one is missing; denied that any is, all are. So the names cross. -/
def negative : Pair → Check
  | .empty => .notEmpty
  | .equal expected => .notEqual expected
  | .element index expected => .notHasValue index expected
  | .all values => .notContainsAny values
  | .any values => .notContainsAll values

def fault? (held : List Canonical) : Pair → Option Kind
  | .empty => none
  | .equal expected => expected.fault?
  | .element index expected =>
    expected.fault?.or (if held[index]?.isSome then none else some .inBounds)
  | .all values | .any values => Native.listFault? values

theorem isEmpty_filter (p : Canonical → Bool) (values : List Canonical) :
    (values.filter p).isEmpty = !values.any p := by
  induction values with
  | nil => rfl
  | cons value rest ih =>
    rw [List.filter_cons, List.any_cons, Bool.not_or, ← ih]
    cases p value <;> rfl

theorem opposite (pair : Pair) (held : List Canonical) :
    Opposite (pair.fault? held) (fun _ id => pair.positive.perform ⟨id, held⟩)
      (fun _ id => pair.negative.perform ⟨id, held⟩) := by
  cases pair
  all_goals simp only [positive, negative, fault?, Check.perform, isEmpty, notEmpty, isEqual,
    notEqual, hasValue, notHasValue, containsAll, notContainsAny, containsAny, notContainsAll,
    actual, naming, outOfBounds]
  case empty => exact .check _ _ held (by simp)
  case equal expected => exact .argument _ _ held expected fun c => by simp
  case element index expected =>
    refine .judged _ _ held expected fun c => ?_
    cases held[index]? with
    | some value => simp [Opposed]
    | none => simp [Opposed]
  case all values =>
    refine .arguments _ _ held values fun cs => ?_
    simp [isEmpty_filter, List.all_eq_not_any_not]
  case any values =>
    refine .arguments _ _ held values fun cs => ?_
    simp [isEmpty_filter]

end Pair
end ArrayNode

namespace TextNode

inductive Pair where
  | empty
  | equal (expected : String)
  | equalFold (expected : String)
  | part (text : String)
  | start (text : String)
  | ending (text : String)

namespace Pair

def positive : Pair → Check
  | .empty => .isEmpty
  | .equal expected => .isEqual expected
  | .equalFold expected => .isEqualFold expected
  | .part text => .contains text
  | .start text => .hasPrefix text
  | .ending text => .hasSuffix text

def negative : Pair → Check
  | .empty => .notEmpty
  | .equal expected => .notEqual expected
  | .equalFold expected => .notEqualFold expected
  | .part text => .notContains text
  | .start text => .notHasPrefix text
  | .ending text => .notHasSuffix text

theorem opposite (pair : Pair) (held : String) :
    Opposite none (fun _ id => pair.positive.perform ⟨id, held⟩)
      (fun _ id => pair.negative.perform ⟨id, held⟩) := by
  cases pair
  all_goals simp only [positive, negative, Check.perform, isEmpty, notEmpty, isEqual, notEqual,
    isEqualFold, notEqualFold, contains, notContains, hasPrefix, notHasPrefix, hasSuffix,
    notHasSuffix, compare, actual]
  all_goals exact .check _ _ held (by simp [bne])

end Pair
end TextNode

namespace NumberNode

inductive Pair where
  | equal (expected : Native)
  | delta (expected : Native) (allowed : Double)
  | range (low high : Native)

namespace Pair

def positive : Pair → Check
  | .equal expected => .isEqual expected
  | .delta expected allowed => .inDelta expected allowed
  | .range low high => .inRange low high

def negative : Pair → Check
  | .equal expected => .notEqual expected
  | .delta expected allowed => .notInDelta expected allowed
  | .range low high => .notInRange low high

def fault? : Pair → Option Kind
  | .equal expected => expected.numberFault?
  | .delta expected allowed => if isDeviation allowed then expected.numberFault? else some .valid
  | .range low high => low.numberFault?.or high.numberFault?

end Pair

variable {value : Double} {kind kind' : Kind} {label label' error error' : String}

theorem opposite_compare (expected : Native) {related related' : Double → Double → Bool}
    (opposed : ∀ y, related' value y = !related value y) :
    Opposite expected.numberFault?
      (fun _ id => compare ⟨id, value⟩ label kind expected related error)
      (fun _ id => compare ⟨id, value⟩ label' kind' expected related' error') := by
  simp only [compare, actual]
  apply Opposite.checkLive label label' value
  · exact .bind (.numberArgument expected) (fun y => .report _) (.pure ())
  · exact .bind (.numberArgument expected) (fun y => .report _) (.pure ())
  · exact .plain expected.blames_numberArgument fun y => by simp [opposed]

theorem opposite_compareDelta (expected : Native) (allowed : Double) :
    Opposite (if isDeviation allowed then expected.numberFault? else some .valid)
      (fun _ id => compareDelta ⟨id, value⟩ label kind expected allowed true error)
      (fun _ id => compareDelta ⟨id, value⟩ label' kind' expected allowed false error') := by
  simp only [compareDelta, actual]
  cases isDeviation allowed with
  | false => exact .checkLive label label' value (.report _) (.report _) (.same _ rfl)
  | true =>
    apply Opposite.checkLive label label' value
    · exact .bind (.numberArgument expected) (fun y => .report _) (.pure ())
    · exact .bind (.numberArgument expected) (fun y => .report _) (.pure ())
    · exact .plain expected.blames_numberArgument fun y => by simp

theorem opposite_compareRange (low high : Native) :
    Opposite (low.numberFault?.or high.numberFault?)
      (fun _ id => compareRange ⟨id, value⟩ label kind low high true error)
      (fun _ id => compareRange ⟨id, value⟩ label' kind' low high false error') := by
  -- The upper bound is asked for in any case; a live chain hears of the first bad one.
  have asked : Reports fun _ id => id.numberArgument high := (ChainId.asks_numberArgument high).reports
  simp only [compareRange, actual]
  apply Opposite.checkLive label label' value
  · exact .bind (.numberArgument low) (fun x => .bind (.numberArgument high) (fun y => .report _)
      (.pure ())) (asked.bind fun _ => .pure ())
  · exact .bind (.numberArgument low) (fun x => .bind (.numberArgument high) (fun y => .report _)
      (.pure ())) (asked.bind fun _ => .pure ())
  · refine .given low.blames_numberArgument fun x => ?_
    exact .plain high.blames_numberArgument fun y => by simp

theorem Pair.opposite (pair : Pair) (held : Double) :
    Opposite pair.fault? (fun _ id => pair.positive.perform ⟨id, held⟩)
      (fun _ id => pair.negative.perform ⟨id, held⟩) := by
  cases pair
  all_goals simp only [positive, negative, fault?, Check.perform, isEqual, notEqual, inDelta,
    notInDelta, inRange, notInRange]
  case equal expected => exact opposite_compare expected fun y => rfl
  case delta expected allowed => exact opposite_compareDelta expected allowed
  case range low high => exact opposite_compareRange low high

end NumberNode

namespace BooleanNode

inductive Pair where
  | truth
  | equal (expected : Bool)

namespace Pair

def positive : Pair → Check
  | .truth => .isTrue
  | .equal expected => .isEqual expected

def negative : Pair → Check
  | .truth => .isFalse
  | .equal expected => .notEqual expected

theorem opposite (pair : Pair) (held : Bool) :
    Opposite none (fun _ id => pair.positive.perform ⟨id, held⟩)
      (fun _ id => pair.negative.perform ⟨id, held⟩) := by
  cases pair
  all_goals simp only [positive, negative, Check.perform, isTrue, isFalse, isEqual, notEqual, equalTo]
  case truth => exact .check _ _ held (by cases held <;> rfl)
  case equal => exact .check _ _ held (by simp [bne])

end Pair
end BooleanNode

namespace MatchNode

inductive Pair where
  | empty
  | values (texts : List String)

namespace Pair

def positive : Pair → Check
  | .empty => .isEmpty
  | .values texts => .values texts

def negative : Pair → Check
  | .empty => .notEmpty
  | .values texts => .notValues texts

theorem opposite (pair : Pair) (held : Captures) :
    Opposite none (fun _ id => pair.positive.perform ⟨id, held⟩)
      (fun _ id => pair.negative.perform ⟨id, held⟩) := by
  cases pair
  all_goals simp only [positive, negative, Check.perform, isEmpty, notEmpty, MatchNode.values,
    notValues, actual, groups]
  all_goals exact .check _ _ held (by simp [bne])

end Pair
end MatchNode

/-- The checks of responses have no counterparts. -/
def Pair : NodeKind → Type
  | .value => ValueNode.Pair
  | .object => ObjectNode.Pair
  | .array => ArrayNode.Pair
  | .text => TextNode.Pair
  | .number => NumberNode.Pair
  | .boolean => BooleanNode.Pair
  | .captures => MatchNode.Pair
  | .response => Empty

namespace Pair

def positive : {kind : NodeKind} → Pair kind → Check kind
  | .value, pair => ValueNode.Pair.positive pair
  | .object, pair => ObjectNode.Pair.positive pair
  | .array, pair => ArrayNode.Pair.positive pair
  | .text, pair => TextNode.Pair.positive pair
  | .number, pair => NumberNode.Pair.positive pair
  | .boolean, pair => BooleanNode.Pair.positive pair
  | .captures, pair => MatchNode.Pair.positive pair
  | .response, pair => nomatch pair

def negative : {kind : NodeKind} → Pair kind → Check kind
  | .value, pair => ValueNode.Pair.negative pair
  | .object, pair => ObjectNode.Pair.negative pair
  | .array, pair => ArrayNode.Pair.negative pair
  | .text, pair => TextNode.Pair.negative pair
  | .number, pair => NumberNode.Pair.negative pair
  | .boolean, pair => BooleanNode.Pair.negative pair
  | .captures, pair => MatchNode.Pair.negative pair
  | .response, pair => nomatch pair

/-- The fault of the arguments, given what the node holds. -/
def fault? : {kind : NodeKind} → Pair kind → Held kind → Option Kind
  | .value, pair, _ => ValueNode.Pair.fault? pair
  | .object, pair, held => ObjectNode.Pair.fault? held pair
  | .array, pair, held => ArrayNode.Pair.fault? held pair
  | .number, pair, _ => NumberNode.Pair.fault? pair
  | .text, _, _ | .boolean, _, _ | .captures, _, _ => none
  | .response, pair, _ => nomatch pair

/-- The members of a pair, each on a live node that holds the same value, deliver one finding each:
just one of them passes, or the arguments are at fault and both fail alike. -/
theorem complementary {kind : NodeKind} (pair : Pair kind) (held : Held kind) :
    ∃ found denied : Finding,
      Finds (fun _ id => pair.positive.perform ⟨id, held⟩) found ∧
      Finds (fun _ id => pair.negative.perform ⟨id, held⟩) denied ∧
      Opposed (pair.fault? held) found denied := by
  cases kind with
  | value => exact ValueNode.Pair.opposite pair held
  | object => exact ObjectNode.Pair.opposite pair held
  | array => exact ArrayNode.Pair.opposite pair held
  | text => exact TextNode.Pair.opposite pair held
  | number => exact NumberNode.Pair.opposite pair held
  | boolean => exact BooleanNode.Pair.opposite pair held
  | captures => exact MatchNode.Pair.opposite pair held
  | response => exact nomatch pair

end Pair
end FluentAssert
