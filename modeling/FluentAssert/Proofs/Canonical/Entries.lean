import FluentAssert.Proofs.Canonical.Alike
import FluentAssert.Proofs.Canonical.Offences
import FluentAssert.Proofs.Text.Digits

/-! Entries of maps, neither lost nor invented. Whatever hands over entries comes out with their
keys and with the last value of each, and keys of one sort that differ have texts that differ. -/
namespace FluentAssert

open Canonical (keyText ofNative ofLoose Reads)

namespace Native

/-- The entries that single keys and values tell: a value belongs to the key before it. A key without
a value tells nothing, but it must have a text. -/
inductive Told : List (Native ⊕ Native) → List (Native × Native) → Prop where
  | nil : Told [] []
  | pair {key value : Native} {rest : List (Native ⊕ Native)} {entries : List (Native × Native)} :
    Told rest entries → Told (.inl key :: .inr value :: rest) ((key, value) :: entries)
  | idle {key : Native} {rest : List (Native ⊕ Native)} {entries : List (Native × Native)} :
    Textual key → Told rest entries → Told (.inl key :: rest) entries

/-- Maps, records and variants with fields, the entries that they hand over, and what becomes of the
object that these make. -/
inductive HasEntries : Native → List (Native × Native) → (Fields Canonical → Canonical) → Prop where
  | map (entries : List (Native × Native)) : HasEntries (.map entries) entries .object
  | loose {told : List (Native ⊕ Native)} {entries : List (Native × Native)} :
    Told told entries → HasEntries (.loose told) entries .object
  | struct (fields : List (String × Native)) : HasEntries (.struct fields) (named fields) .object
  | structVariant (name : String) (fields : List (String × Native)) :
    HasEntries (.structVariant name fields) (named fields) fun made =>
      Canonical.tagged name (.object made)

/-- Sorts of keys whose texts tell them apart. -/
inductive KeySort where
  | integer (width : Width)
  | text
  | char
  | unitVariant

inductive OfSort : KeySort → Native → Prop where
  | integer {width : Width} {n : Int} (fits : width.Holds n) :
    OfSort (.integer width) (.integer width n fits)
  | text (s : String) : OfSort .text (.text s)
  | char (c : Char) : OfSort .char (.char c)
  | unitVariant (name : String) : OfSort .unitVariant (.unitVariant name)

/-- Different keys of one sort, each in whatever options and wrappers. -/
structure Distinct (keys : List Native) : Prop where
  sorted : ∃ sort, ∀ key ∈ keys, OfSort sort key.core
  nodup : (keys.map core).Nodup

end Native

open Native (Told HasEntries OfSort Distinct named)

namespace Canonical

variable {told : List (Native ⊕ Native)} {entries : List (Native × Native)}
  {fields : List (String × Canonical)}

theorem keyText_ok_iff (key : Native) : (∃ text, keyText key = .ok text) ↔ key.Textual := by
  rw [textual_iff, ← fault?_keyText, fault?_eq_none]

theorem ofLoose_told (tells : Told told entries) (waiting : Option String) :
    ofLoose waiting told = ofEntries entries := by
  induction tells generalizing waiting with
  | nil => cases waiting <;> rfl
  | pair _ ih => simp only [ofLoose, ofEntries, ih]
  | idle textual _ ih =>
    obtain ⟨text, reads⟩ := (keyText_ok_iff _).mpr textual
    rw [ofLoose, reads]
    exact ih (some text)

theorem told_of_ofLoose (told : List (Native ⊕ Native)) :
    (∀ fields, ofLoose none told = .ok fields → ∃ entries, Told told entries) ∧
    ∀ key text fields, keyText key = .ok text → ofLoose (some text) told = .ok fields →
      ∃ entries, Told (.inl key :: told) entries := by
  have textual (key : Native) (text : String) (reads : keyText key = .ok text) : key.Textual :=
    (keyText_ok_iff key).mp ⟨text, reads⟩
  induction told with
  | nil =>
    constructor
    · exact fun _ _ => ⟨[], .nil⟩
    · exact fun key text _ reads _ => ⟨[], .idle (textual key text reads) .nil⟩
  | cons part rest ih =>
    obtain ⟨free, waits⟩ := ih
    cases part with
    | inl next =>
      have later {waiting : Option String} {fields : List (String × Canonical)}
          (canonical : ofLoose waiting (.inl next :: rest) = .ok fields) :
          ∃ entries, Told (.inl next :: rest) entries := by
        obtain ⟨text, reads, canonical⟩ := bind_ok canonical
        exact waits next text fields reads canonical
      refine ⟨fun fields canonical => later canonical, fun key text fields reads canonical => ?_⟩
      obtain ⟨entries, tells⟩ := later canonical
      exact ⟨entries, .idle (textual key text reads) tells⟩
    | inr value =>
      refine ⟨nofun, fun key text fields reads canonical => ?_⟩
      obtain ⟨form, -, canonical⟩ := bind_ok canonical
      obtain ⟨others, canonical, -⟩ := bind_ok canonical
      obtain ⟨entries, tells⟩ := free others canonical
      exact ⟨_, .pair tells⟩

theorem ofNative_hasEntries {value : Native} {whole : Fields Canonical → Canonical}
    (has : HasEntries value entries whole) (read : List.Forall₂ Reads entries fields) :
    ofNative value = .ok (whole (Fields.ofEntries fields)) := by
  cases has with
  | map => rw [ofNative, ofEntries_iff.mpr read]; rfl
  | loose tells => rw [ofNative, ofLoose_told tells, ofEntries_iff.mpr read]; rfl
  | struct => rw [ofNative, ← ofEntries_named, ofEntries_iff.mpr read]; rfl
  | structVariant => rw [ofNative, ← ofEntries_named, ofEntries_iff.mpr read]; rfl

theorem keyText_core : ∀ key : Native, keyText key.core = keyText key
  | .some value => keyText_core value
  | .newtype value => keyText_core value
  | .bool _ | .integer .. | .single _ | .double _ | .char _ | .text _ | .bytes _ | .none | .unit
  | .unitStruct | .unitVariant _ | .newtypeVariant .. | .seq _ | .tuple _ | .tupleStruct _
  | .tupleVariant .. | .map _ | .struct _ | .structVariant .. | .loose _ | .failing _ => rfl

theorem textual_of_sort {sort : Native.KeySort} {core : Native} (sorted : OfSort sort core) :
    ∃ text, keyText core = .ok text := by
  cases sorted <;> exact ⟨_, rfl⟩

theorem keyText_inj {sort : Native.KeySort} {core other : Native} (sorted : OfSort sort core)
    (sorted' : OfSort sort other) (same : keyText core = keyText other) : core = other := by
  cases sorted with
  | integer fits =>
    cases sorted' with
    | integer fits' =>
      rename_i n m
      have texts : toString n = toString m := Except.ok.inj same
      cases Text.integer_inj texts
      rfl
  | text s =>
    cases sorted' with
    | text s' => exact congrArg Native.text (Except.ok.inj same)
  | char c =>
    cases sorted' with
    | char c' =>
      have texts : String.singleton c = String.singleton c' := Except.ok.inj same
      rw [String.singleton_inj] at texts
      rw [texts]
  | unitVariant name =>
    cases sorted' with
    | unitVariant name' => exact congrArg Native.unitVariant (Except.ok.inj same)

theorem nodup_texts {keys : List Native} (distinct : Distinct keys) :
    (∀ key ∈ keys, ∃ text, keyText key = .ok text) ∧ (keys.map keyText).Nodup := by
  obtain ⟨⟨sort, sorted⟩, nodup⟩ := distinct
  constructor
  · intro key inside
    rw [← keyText_core]
    exact textual_of_sort (sorted key inside)
  · have texts : keys.map keyText = (keys.map Native.core).map keyText := by
      simp [Function.comp_def, keyText_core]
    rw [texts]
    apply List.Nodup.map_on ?_ nodup
    simp only [List.mem_map]
    rintro _ ⟨key, inside, rfl⟩ _ ⟨other, within, rfl⟩ same
    exact keyText_inj (sorted key inside) (sorted other within) same

theorem apart_of_distinct (distinct : Distinct (entries.map (·.1))) :
    entries.Pairwise Native.Apart := by
  have texts := (nodup_texts distinct).2
  rw [List.map_map] at texts
  refine (List.pairwise_map.mp texts).imp fun differ text reads again => ?_
  exact differ (reads.trans again.symm)

/-- Entries whose keys and values come out make an object with all the keys, in order, and with the
last value of each, be it a map, a record or a variant that hands them over. Different keys of one
sort have different texts, and then every entry is kept. -/
theorem entries_kept :
    (∀ (value : Native) (entries : List (Native × Native)) (whole : Fields Canonical → Canonical)
      (fields : List (String × Canonical)), HasEntries value entries whole →
      List.Forall₂ Reads entries fields → ∃ made, ofNative value = .ok (whole made) ∧
        Fields.Gathers fields made ∧ (Distinct (entries.map (·.1)) → made.Perm fields)) ∧
    (∀ (told : List (Native ⊕ Native)) (form : Canonical), ofNative (.loose told) = .ok form →
      ∃ entries, Told told entries) ∧
    ∀ keys : List Native, Distinct keys →
      (∀ key ∈ keys, ∃ text, keyText key = .ok text) ∧ (keys.map keyText).Nodup := by
  refine ⟨?_, ?_, fun keys => nodup_texts⟩
  · intro value entries whole fields has read
    refine ⟨_, ofNative_hasEntries has read, Fields.gathers_ofEntries fields, fun distinct => ?_⟩
    exact Fields.perm_ofEntries (nodup_keys read (apart_of_distinct distinct))
  · intro told form canonical
    obtain ⟨fields, canonical, -⟩ := map_ok canonical
    exact (told_of_ofLoose told).1 fields canonical

/-- Numbers as keys, one of them in an option, with a key on the way that no value follows; and a
variant with two fields of one name. -/
theorem entries_kept_wrapped :
    let ten : Native := .integer .u8 10 (by decide)
    let nine : Native := .some (.integer .u8 9 (by decide))
    let told : List (Native ⊕ Native) :=
      [.inl (.text "idle"), .inl ten, .inr (.bool true), .inl nine, .inr .none]
    let entries : List (Native × Native) := [(ten, .bool true), (nine, .none)]
    let variant : Native := .structVariant "v" [("b", .unit), ("a", .none), ("b", .bool true)]
    Told told entries ∧ Distinct (entries.map (·.1)) ∧
    (∃ made : Fields Canonical, ofNative (.loose told) = .ok (.object made) ∧
      made.Perm [("10", .bool true), ("9", .null)] ∧ made.Ordered) ∧
    ∃ made : Fields Canonical, ofNative variant = .ok (.object [("v", .object made)]) ∧
      Fields.get? made "b" = some (.bool true) := by
  intro ten nine told entries variant
  have tells : Told told entries := .idle (.text "idle") (.pair (.pair .nil))
  have distinct : Distinct (entries.map (·.1)) := by
    refine ⟨⟨.integer .u8, ?_⟩, ?_⟩
    · exact List.forall_mem_cons.mpr ⟨.integer _, List.forall_mem_singleton.mpr (.integer _)⟩
    · refine List.pairwise_pair.mpr fun same => ?_
      cases same
  have read : List.Forall₂ Reads entries [("10", .bool true), ("9", .null)] :=
    .cons ⟨rfl, rfl⟩ (.cons ⟨rfl, rfl⟩ .nil)
  have read' : List.Forall₂ Reads (named [("b", .unit), ("a", .none), ("b", .bool true)])
      [("b", .null), ("a", .null), ("b", .bool true)] :=
    .cons ⟨rfl, rfl⟩ (.cons ⟨rfl, rfl⟩ (.cons ⟨rfl, rfl⟩ .nil))
  obtain ⟨made, canonical, gathers, kept⟩ := entries_kept.1 _ _ _ _ (.loose tells) read
  obtain ⟨made', canonical', gathers', -⟩ :=
    entries_kept.1 variant _ _ _ (.structVariant "v" _) read'
  refine ⟨tells, distinct, ⟨made, canonical, kept distinct, gathers.ordered⟩, made', canonical', ?_⟩
  exact gathers'.last [("b", .null), ("a", .null)] "b" (.bool true) [] rfl List.not_mem_nil

end Canonical
end FluentAssert
