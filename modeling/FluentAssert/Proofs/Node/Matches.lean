import FluentAssert.Proofs.Node.Judgement
import FluentAssert.Proofs.Regex.Names

/-! Views of a match. Number, name and list of texts are three ways to the same groups: the whole
match has number zero, a name stands for the number of its group, and the list begins behind the
whole match. A group that took no part keeps its place. -/
namespace FluentAssert

namespace MatchNode

/-- What the views of a match show that has `n` groups besides the whole match, by the names and
the texts of the groups. -/
structure Views (names : List (Option String)) (n : Nat) (text : Nat → String) (held : Captures) :
    Prop where
  length (here : Standpoint) :
    here.Reaches (fun _ id => MatchNode.length ⟨id, held⟩) (Double.ofNat (n + 1))
  index_fails (here : Standpoint) (i : Nat) : here.Fails (fun _ id => index ⟨id, held⟩ i) ↔ n < i
  index_reaches (here : Standpoint) {i : Nat} (within : i ≤ n) :
    here.Reaches (fun _ id => index ⟨id, held⟩ i) (text i)
  name_fails (here : Standpoint) (group : String) :
    here.Fails (fun _ id => name ⟨id, held⟩ group) ↔ ∀ i : Nat, names[i]? ≠ some (some group)
  name_reaches (here : Standpoint) {i : Nat} {group : String}
    (called : names[i]? = some (some group)) :
    here.Reaches (fun _ id => name ⟨id, held⟩ group) (text i)
  values (here there : Standpoint) (expected : List String) :
    here.Passes (fun _ id => MatchNode.values ⟨id, held⟩ expected) ↔
      expected.length = n ∧ ∀ (i : Nat) (value : String), expected[i]? = some value →
        there.Passes fun _ id => index ⟨id, held⟩ (i + 1) >>= fun node => node.isEqual value

section Seeking

variable (held : Captures)

theorem seeks_length :
    Seeks (fun _ id => MatchNode.length ⟨id, held⟩) (some (Double.ofNat held.texts.length)) :=
  @Seeks.step .captures .number Step.length held

theorem seeks_index (i : Nat) : Seeks (fun _ id => index ⟨id, held⟩ i) held.texts[i]? :=
  @Seeks.step .captures .text (Step.index i) held

theorem seeks_name (group : String) :
    Seeks (fun _ id => name ⟨id, held⟩ group) (named? held group) :=
  @Seeks.step .captures .text (Step.name group) held

theorem judges_values (expected : List String) :
    Judges (fun _ id => MatchNode.values ⟨id, held⟩ expected) (held.texts.drop 1 = expected) := by
  have judged := Judges.check "values()" held
    (((Finding.check .equal (held.texts.drop 1 == expected)
      "expected: submatches are equal").withActual
      (textArray (held.texts.drop 1))).withExpected (textArray expected))
  exact judged.congr (by simp)

theorem judges_index_isEqual (i : Nat) (value : String) :
    Judges (fun _ id => index ⟨id, held⟩ i >>= fun node => node.isEqual value)
      (held.texts[i]? = some value) := by
  have judged : Judges (fun _ id => index ⟨id, held⟩ i >>= fun node => node.isEqual value)
      (∃ text, held.texts[i]? = some text ∧ (text == value) = true) :=
    (seeks_index held i).judges fun text => TextNode.judges_isEqual text value
  exact judged.congr (by simp)

end Seeking

section Places

variable {held : Captures} {n : Nat}

theorem named?_called {i : Nat} {group : String} (called : held.names[i]? = some (some group))
    (single : ∀ j : Nat, held.names[j]? = some (some group) → j = i) :
    named? held group = held.texts[i]? := by
  obtain ⟨within, same⟩ := List.getElem?_eq_some_iff.mp called
  have place : held.names.findIdx? (· == some group) = some i := by
    rw [List.findIdx?_eq_some_iff_getElem]
    refine ⟨within, by simp [same], fun j before found => ?_⟩
    have inside : j < held.names.length := Nat.lt_trans before within
    have again := single j (List.getElem?_eq_some_iff.mpr ⟨inside, eq_of_beq found⟩)
    omega
  simp [named?, place]

theorem named?_uncalled {group : String}
    (uncalled : ∀ i : Nat, held.names[i]? ≠ some (some group)) : named? held group = none := by
  have place : held.names.findIdx? (· == some group) = none := by
    rw [List.findIdx?_eq_none_iff]
    intro other inside
    obtain ⟨i, there⟩ := List.mem_iff_getElem?.mp inside
    refine beq_false_of_ne fun same => uncalled i ?_
    rw [there, same]
  simp [named?, place]

theorem tail_eq_iff {texts expected : List String} (size : texts.length = n + 1) :
    texts.drop 1 = expected ↔ expected.length = n ∧
      ∀ (i : Nat) (value : String), expected[i]? = some value → texts[i + 1]? = some value := by
  constructor
  · rintro rfl
    refine ⟨by simp [size], fun i value there => ?_⟩
    rwa [List.getElem?_drop, Nat.add_comm] at there
  · rintro ⟨length, each⟩
    refine List.ext_getElem? fun i => ?_
    rw [List.getElem?_drop, Nat.add_comm]
    by_cases inside : i < n
    · have there : expected[i]? = some (expected.get ⟨i, by omega⟩) :=
        List.getElem?_eq_getElem (by omega)
      rw [there, each i _ there]
    · rw [List.getElem?_eq_none (by omega), List.getElem?_eq_none (by omega)]

end Places

theorem views {names : List (Option String)} {n : Nat} (size : names.length = n + 1)
    (single : ∀ (i j : Nat) (name : String), names[i]? = some (some name) →
      names[j]? = some (some name) → i = j) (text : Nat → String) :
    Views names n text ⟨(List.range (n + 1)).map text, names⟩ := by
  have count : ((List.range (n + 1)).map text).length = n + 1 := by simp
  have inside {i : Nat} (within : i ≤ n) : ((List.range (n + 1)).map text)[i]? = some (text i) := by
    rw [List.getElem?_map, List.getElem?_range (by omega)]
    rfl
  have called {i : Nat} {group : String} (h : names[i]? = some (some group)) :
      named? ⟨(List.range (n + 1)).map text, names⟩ group = some (text i) := by
    have within : i < names.length := (List.getElem?_eq_some_iff.mp h).1
    rw [named?_called h fun j again => single j i group again h]
    exact inside (by omega)
  generalize (List.range (n + 1)).map text = texts at *
  constructor
  case length =>
    intro here
    have found := (seeks_length ⟨texts, names⟩).reaches_iff here (Double.ofNat (n + 1))
    rw [found, count]
  case index_fails =>
    intro here i
    rw [(seeks_index ⟨texts, names⟩ i).fails_iff, List.getElem?_eq_none_iff, count]
    omega
  case index_reaches =>
    intro here i within
    rw [(seeks_index ⟨texts, names⟩ i).reaches_iff, inside within]
  case name_fails =>
    intro here group
    rw [(seeks_name ⟨texts, names⟩ group).fails_iff]
    refine ⟨fun missing i there => ?_, fun uncalled => named?_uncalled uncalled⟩
    rw [called there] at missing
    cases missing
  case name_reaches =>
    intro here i group there
    rw [(seeks_name ⟨texts, names⟩ group).reaches_iff, called there]
  case values =>
    intro here there expected
    rw [(judges_values ⟨texts, names⟩ expected).passes_iff, tail_eq_iff count]
    simp only [(judges_index_isEqual ⟨texts, names⟩ _ _).passes_iff]

end MatchNode

theorem Regex.captured_absent {text : Subject} {slots : Slots} {group : Nat}
    (absent : slots.getD (2 * group) none = none ∨ slots.getD (2 * group + 1) none = none) :
    captured text slots group = "" := by
  unfold captured
  rcases absent with missing | missing <;> rw [missing]
  cases slots.getD (2 * group) none <;> rfl

namespace TextNode

section Valid

variable {pattern : String} {regex : Regex} (valid : Regex.compile pattern = .ok regex) (text : String)

theorem seeks_reMatch : Seeks (fun _ id => reMatch ⟨id, text⟩ pattern) (match? pattern text) :=
  @Seeks.step .text .captures (Step.reMatch pattern) text

include valid

theorem match?_valid : match? pattern text =
    (regex.captures? text).map fun texts => ⟨texts, regex.names⟩ := by
  rw [match?, valid]

theorem judges_notMatch :
    Judges (fun _ id => notMatch ⟨id, text⟩ pattern) (regex.isMatch text = false) := by
  have judged := Judges.checkLive ("not_match(" ++ Text.quoted pattern ++ ")") text
    (Decides.report (((Finding.check .notMatch (!regex.isMatch text)
      "expected: string does not match regex").withActual (.text text)).withExpected (.text pattern)))
  simp only [notMatch, valid]
  exact judged.congr (by simp)

/-- For a pattern with `n` groups, matching fails just where not matching passes. The match of a text
has the `n` groups behind the whole match, each with its own text or, if it took no part, with the
empty one, and all views of it tell the same. -/
theorem match_views : ∃ n, regex.names.length = n + 1 ∧ regex.names[0]? = some none ∧
    (∀ (i j : Nat) (name : String), regex.names[i]? = some (some name) →
      regex.names[j]? = some (some name) → i = j) ∧
    ∀ text : String,
      (∀ here : Standpoint, here.Fails (fun _ id => reMatch ⟨id, text⟩ pattern) ↔
        here.Passes fun _ id => notMatch ⟨id, text⟩ pattern) ∧
      (regex.isMatch text = false →
        ∀ here : Standpoint, here.Fails fun _ id => reMatch ⟨id, text⟩ pattern) ∧
      (regex.isMatch text = true → ∃ (slots : Regex.Slots) (held : Captures),
        Regex.search regex.program (n + 1) text.toList.toArray = some slots ∧
        (∀ here : Standpoint, here.Reaches (fun _ id => reMatch ⟨id, text⟩ pattern) held) ∧
        MatchNode.Views regex.names n (Regex.captured text.toList.toArray slots) held ∧
        ∀ group, slots.getD (2 * group) none = none ∨ slots.getD (2 * group + 1) none = none →
          Regex.captured text.toList.toArray slots group = "") := by
  obtain ⟨⟨n, size⟩, whole, single⟩ := Regex.compile_names valid
  have seeks (text : String) : Seeks (fun _ id => reMatch ⟨id, text⟩ pattern) (match? pattern text) :=
    seeks_reMatch text
  have fails (text : String) (here : Standpoint) :
      here.Fails (fun _ id => reMatch ⟨id, text⟩ pattern) ↔ regex.isMatch text = false := by
    rw [(seeks text).fails_iff, match?_valid valid, Option.map_eq_none_iff, Regex.isMatch,
      Option.isSome_eq_false_iff, Option.isNone_iff_eq_none]
  refine ⟨n, size, whole, single, fun text =>
    ⟨fun here => ?_, fun missing here => ?_, fun found => ?_⟩⟩
  · rw [fails, (judges_notMatch valid text).passes_iff]
  · exact (fails text here).mpr missing
  · obtain ⟨texts, captures⟩ := Option.isSome_iff_exists.mp found
    have searched := captures
    rw [Regex.captures?, Option.map_eq_some_iff, size] at searched
    obtain ⟨slots, searched, rfl⟩ := searched
    refine ⟨slots, ⟨_, regex.names⟩, searched, fun here => ?_, MatchNode.views size single _,
      fun group absent => ?_⟩
    · rw [(seeks text).reaches_iff, match?_valid valid, captures]
      rfl
    · exact Regex.captured_absent absent

end Valid

/-- The first group is optional and takes no part; the second one keeps its number and its name. -/
theorem match_views_optional :
    let pattern := "(x)?(?P<b>y)"
    ∃ held : Captures,
      (∀ here : Standpoint, here.Reaches (fun _ id => reMatch ⟨id, "ay"⟩ pattern) held) ∧
      ∀ here : Standpoint,
        here.Reaches (fun _ id => MatchNode.index ⟨id, held⟩ 1) "" ∧
        here.Reaches (fun _ id => MatchNode.index ⟨id, held⟩ 2) "y" ∧
        here.Reaches (fun _ id => MatchNode.name ⟨id, held⟩ "b") "y" ∧
        here.Fails (fun _ id => MatchNode.index ⟨id, held⟩ 3) := by
  intro pattern
  have known : (Regex.compile pattern).toOption.map
      (fun regex => (regex.names, regex.captures? "ay")) =
      some ([none, none, some "b"], some ["y", "", "y"]) := by decide +kernel
  cases valid : Regex.compile pattern with
  | error e =>
    rw [valid] at known
    cases known
  | ok regex =>
    rw [valid] at known
    obtain ⟨names, captures⟩ := Prod.mk.inj (Option.some.inj known)
    obtain ⟨n, size, -, -, texts⟩ := match_views valid
    have two : n = 2 := by
      rw [names] at size
      exact (Nat.succ.inj size).symm
    subst two
    obtain ⟨-, -, matched⟩ := texts "ay"
    obtain ⟨slots, held, searched, reaches, views, -⟩ := matched (by rw [Regex.isMatch, captures]; rfl)
    have groups : (List.range 3).map (Regex.captured "ay".toList.toArray slots) = ["y", "", "y"] := by
      rw [Regex.captures?, size, searched] at captures
      exact Option.some.inj captures
    generalize Regex.captured "ay".toList.toArray slots = text at views groups
    obtain ⟨first, second⟩ : text 1 = "" ∧ text 2 = "y" := by
      have listed : [text 0, text 1, text 2] = ["y", "", "y"] := groups
      simp only [List.cons.injEq] at listed
      exact ⟨listed.2.1, listed.2.2.1⟩
    have called : regex.names[2]? = some (some "b") := by rw [names]; rfl
    refine ⟨held, reaches, fun here => ⟨?_, ?_, ?_, (views.index_fails here 3).mpr (by decide)⟩⟩
    · exact first ▸ views.index_reaches here (show 1 ≤ 2 by decide)
    · exact second ▸ views.index_reaches here (show 2 ≤ 2 by decide)
    · exact second ▸ views.name_reaches here called

end TextNode

end FluentAssert
