import FluentAssert.Native.Json
import FluentAssert.Canonical.Document
import FluentAssert.Proofs.Canonical.Alike
import FluentAssert.Proofs.Json.Document

/-! Native values as JSON documents. What the writer writes of a value is the text of one document,
and the canonical form of the value is what that document stands for. -/
namespace FluentAssert

open FluentAssert.Json (Whole)

namespace Native

/-- Keys of one text: strings, characters, integers of up to 64 bits and variants without payload. -/
inductive Name : Native → Prop where
  | text (s : String) : Name (.text s)
  | char (c : Char) : Name (.char c)
  | integer {width : Width} {n : Int} (fits : width.Holds n) :
    width.bits ≤ 64 → Name (.integer width n fits)
  | unitVariant (name : String) : Name (.unitVariant name)

/-- No fractions, no integers of more than 64 bits and no options around empty containers; at most
`depth` containers nest. A variant with a payload is a container, and so is a payload of items or
fields. -/
inductive Portable : Nat → Native → Prop where
  | none {depth : Nat} : Portable depth .none
  | unit {depth : Nat} : Portable depth .unit
  | unitStruct {depth : Nat} : Portable depth .unitStruct
  | bool {depth : Nat} (b : Bool) : Portable depth (.bool b)
  | integer {depth : Nat} {width : Width} {n : Int} (fits : width.Holds n) :
    width.bits ≤ 64 → Portable depth (.integer width n fits)
  | char {depth : Nat} (c : Char) : Portable depth (.char c)
  | text {depth : Nat} (s : String) : Portable depth (.text s)
  | bytes {depth : Nat} (content : List UInt8) : Portable (depth + 1) (.bytes content)
  | some {depth : Nat} {value : Native} :
    Portable depth value → ¬ value.Hollow → Portable depth (.some value)
  | newtype {depth : Nat} {value : Native} : Portable depth value → Portable depth (.newtype value)
  | unitVariant {depth : Nat} (name : String) : Portable depth (.unitVariant name)
  | newtypeVariant {depth : Nat} (name : String) {value : Native} :
    Portable depth value → Portable (depth + 1) (.newtypeVariant name value)
  | seq {depth : Nat} {items : List Native} :
    (∀ item ∈ items, Portable depth item) → Portable (depth + 1) (.seq items)
  | tuple {depth : Nat} {items : List Native} :
    (∀ item ∈ items, Portable depth item) → Portable (depth + 1) (.tuple items)
  | tupleStruct {depth : Nat} {items : List Native} :
    (∀ item ∈ items, Portable depth item) → Portable (depth + 1) (.tupleStruct items)
  | tupleVariant {depth : Nat} (name : String) {items : List Native} :
    (∀ item ∈ items, Portable depth item) → Portable (depth + 2) (.tupleVariant name items)
  | map {depth : Nat} {entries : List (Native × Native)} :
    (∀ entry ∈ entries, Name entry.1) → (∀ entry ∈ entries, Portable depth entry.2) →
      Portable (depth + 1) (.map entries)
  | struct {depth : Nat} {fields : List (String × Native)} :
    (∀ field ∈ fields, Portable depth field.2) → Portable (depth + 1) (.struct fields)
  | structVariant {depth : Nat} (name : String) {fields : List (String × Native)} :
    (∀ field ∈ fields, Portable depth field.2) → Portable (depth + 2) (.structVariant name fields)

/-- The key is written as the text that it is in the canonical form. -/
theorem Name.texts {key : Native} (named : Name key) :
    ∃ text, keyText key = .ok text ∧ Canonical.keyText key = .ok text := by
  cases named <;> exact ⟨_, rfl, rfl⟩

theorem kept_of_holds {width : Width} {n : Int} (fits : width.Holds n) (narrow : width.bits ≤ 64) :
    Json.KeptInteger n := by
  cases width with
  | i128 | u128 => exact absurd narrow (by decide)
  | i8 | i16 | i32 | i64 | u8 | u16 | u32 | u64 =>
    simp [Width.Holds, Width.signed, Width.bits] at fits
    simp [Json.KeptInteger]
    omega

/-- The document is what is written of the value, and stands for its canonical form. -/
structure Stands (depth : Nat) (value : Native) (document : Json) : Prop where
  written : jsonChars value = .ok document.compactChars
  whole : Whole depth document
  form : Canonical.ofNative value = .ok (.ofJson document.settled)

theorem intercalate_cons (first : List Char) (rest : List (List Char)) :
    [','].intercalate (first :: rest) = first ++ rest.flatMap (',' :: ·) := by
  induction rest generalizing first with
  | nil => simp
  | cons next rest ih =>
    rw [List.intercalate_cons_cons, ih, List.flatMap_cons, List.append_assoc]
    rfl

theorem bracketed_items (documents : List Json) :
    bracketed (documents.map Json.compactChars) = Json.compactChars (.list documents) := by
  cases documents with
  | nil => rfl
  | cons document rest =>
    rw [Json.compactChars, Json.compactItems_cons, bracketed, List.map_cons, intercalate_cons,
      List.flatMap_map]
    rfl

theorem braced_fields (fields : List (String × Json)) :
    braced (fields.map Json.fieldChars) = Json.compactChars (.object fields) := by
  cases fields with
  | nil => rfl
  | cons field rest =>
    rw [Json.compactChars, Json.compactFields_cons, braced, List.map_cons, intercalate_cons,
      List.flatMap_map]
    rfl

theorem taggedChars_compact (name : String) (document : Json) :
    taggedChars name document.compactChars = Json.compactChars (.object [(name, document)]) :=
  braced_fields [(name, document)]

theorem ofJson_object (fields : List (String × Json)) :
    Canonical.ofJson (Json.settled (.object fields)) =
      .object (Fields.ofEntries (Canonical.ofJsonFields (Json.settledFields fields))) := by
  have mapped (fields : List (String × Json)) : Canonical.ofJsonFields fields =
      fields.map fun field => (field.1, Canonical.ofJson field.2) := by
    induction fields with
    | nil => rfl
    | cons field rest ih => rw [Canonical.ofJsonFields, ih, List.map_cons]
  rw [Json.settled, Canonical.ofJson, mapped, mapped, Fields.ofEntries_map]

namespace Stands

variable {depth : Nat} {value : Native} {document : Json}

structure Items (depth : Nat) (items : List Native) (documents : List Json) : Prop where
  written : jsonItems items = .ok (documents.map Json.compactChars)
  whole : ∀ document ∈ documents, Whole depth document
  form : Canonical.ofItems items = .ok (Canonical.ofJsonItems (Json.settledItems documents))

theorem items {items : List Native} (each : ∀ item ∈ items, ∃ document, Stands depth item document) :
    ∃ documents, Items depth items documents := by
  induction items with
  | nil => exact ⟨[], rfl, by simp, rfl⟩
  | cons item rest ih =>
    obtain ⟨⟨document, stands⟩, others⟩ := List.forall_mem_cons.mp each
    obtain ⟨documents, written, whole, form⟩ := ih others
    refine ⟨document :: documents, ?_, List.forall_mem_cons.mpr ⟨stands.whole, whole⟩, ?_⟩
    · rw [jsonItems, stands.written, written]
      rfl
    · rw [Canonical.ofItems, stands.form, form]
      rfl

theorem Items.written_list {items : List Native} {documents : List Json}
    (h : Items depth items documents) :
    (jsonItems items).map bracketed = .ok (Json.compactChars (.list documents)) := by
  rw [h.written, ← bracketed_items]
  rfl

theorem Items.form_list {items : List Native} {documents : List Json}
    (h : Items depth items documents) : (Canonical.ofItems items).map Canonical.array =
      .ok (Canonical.ofJson (Json.settled (.list documents))) := by
  rw [h.form]
  rfl

structure Members (depth : Nat) (written : Except EncodeError (List (List Char)))
    (form : Except CanonicalError (List (String × Canonical))) (fields : List (String × Json)) :
    Prop where
  written : written = .ok (fields.map Json.fieldChars)
  whole : ∀ field ∈ fields, Whole depth field.2
  form : form = .ok (Canonical.ofJsonFields (Json.settledFields fields))

theorem entries {entries : List (Native × Native)} (named : ∀ entry ∈ entries, Name entry.1)
    (each : ∀ entry ∈ entries, ∃ document, Stands depth entry.2 document) :
    ∃ fields, Members depth (jsonEntries entries) (Canonical.ofEntries entries) fields := by
  induction entries with
  | nil => exact ⟨[], rfl, by simp, rfl⟩
  | cons entry rest ih =>
    obtain ⟨key, value⟩ := entry
    obtain ⟨name, names⟩ := List.forall_mem_cons.mp named
    obtain ⟨⟨document, stands⟩, others⟩ := List.forall_mem_cons.mp each
    obtain ⟨text, texts, texts'⟩ := name.texts
    obtain ⟨fields, written, whole, form⟩ := ih names others
    refine ⟨(text, document) :: fields, ?_, List.forall_mem_cons.mpr ⟨stands.whole, whole⟩, ?_⟩
    · rw [jsonEntries, texts, stands.written, written]
      rfl
    · rw [Canonical.ofEntries, texts', stands.form, form]
      rfl

theorem fields {fields : List (String × Native)}
    (each : ∀ field ∈ fields, ∃ document, Stands depth field.2 document) :
    ∃ documents, Members depth (jsonFields fields) (Canonical.ofFields fields) documents := by
  induction fields with
  | nil => exact ⟨[], rfl, by simp, rfl⟩
  | cons field rest ih =>
    obtain ⟨key, value⟩ := field
    obtain ⟨⟨document, stands⟩, others⟩ := List.forall_mem_cons.mp each
    obtain ⟨documents, written, whole, form⟩ := ih others
    refine ⟨(key, document) :: documents, ?_, List.forall_mem_cons.mpr ⟨stands.whole, whole⟩, ?_⟩
    · rw [jsonFields, stands.written, written]
      rfl
    · rw [Canonical.ofFields, stands.form, form]
      rfl

section

variable {written : Except EncodeError (List (List Char))}
  {form : Except CanonicalError (List (String × Canonical))} {fields : List (String × Json)}

theorem Members.written_object (h : Members depth written form fields) :
    written.map braced = .ok (Json.compactChars (.object fields)) := by
  rw [h.written, ← braced_fields]
  rfl

theorem Members.form_object (h : Members depth written form fields) :
    (form.map fun fields => Canonical.object (Fields.ofEntries fields)) =
      .ok (Canonical.ofJson (Json.settled (.object fields))) := by
  rw [h.form, ofJson_object]
  rfl

end

theorem integer {width : Width} {n : Int} (fits : width.Holds n) (narrow : width.bits ≤ 64) :
    Stands depth (.integer width n fits) (.integer n) where
  written := rfl
  whole := .integer (kept_of_holds fits narrow)
  form := by
    have kept := kept_of_holds fits narrow
    -- Numbers that doubles round are still far below the greatest of them.
    have small : n.natAbs < 2 ^ 128 := by
      simp [Json.KeptInteger] at kept
      omega
    rw [Canonical.ofNative, Canonical.ofDouble, if_pos (Double.ofInt_finite small)]
    rfl

theorem bytes (content : List UInt8) : ∃ document, Stands (depth + 1) (.bytes content) document := by
  have numbers : jsonItems (content.map byte) =
      .ok (content.map fun b => (toString b.toNat).toList) := by
    induction content with
    | nil => rfl
    | cons b content ih =>
      rw [List.map_cons, jsonItems, ih]
      rfl
  have each : ∀ item ∈ content.map byte, ∃ document, Stands depth item document := by
    intro item member
    obtain ⟨b, -, rfl⟩ := List.mem_map.mp member
    exact ⟨_, .integer _ (by decide)⟩
  obtain ⟨documents, items⟩ := Stands.items each
  refine ⟨_, ?_, .list items.whole, ?_⟩
  · have written := items.written_list
    rw [numbers] at written
    exact written
  · have form := items.form_list
    rw [Canonical.ofItems_bytes] at form
    exact form

theorem tagged (name : String) {payload : Native} (whole : Whole depth document)
    (written : jsonChars payload = .ok (taggedChars name document.compactChars))
    (form : Canonical.ofNative payload = .ok (Canonical.tagged name (.ofJson document.settled))) :
    Stands (depth + 1) payload (.object [(name, document)]) where
  written := by rw [written, taggedChars_compact]
  whole := by
    apply Whole.object
    intro field member
    cases List.mem_singleton.mp member
    exact whole
  form := form

end Stands

theorem Portable.stands {depth : Nat} {value : Native} (portable : Portable depth value) :
    ∃ document, Stands depth value document := by
  induction portable with
  | none => exact ⟨.null, rfl, .null, rfl⟩
  | unit => exact ⟨.null, rfl, .null, rfl⟩
  | unitStruct => exact ⟨.null, rfl, .null, rfl⟩
  | bool b => exact ⟨.bool b, rfl, .bool b, rfl⟩
  | integer fits narrow => exact ⟨_, .integer fits narrow⟩
  | char c => exact ⟨.text (String.singleton c), rfl, .text _, rfl⟩
  | text s => exact ⟨.text s, rfl, .text s, rfl⟩
  | bytes content => exact Stands.bytes content
  | some _ full ih =>
    obtain ⟨document, stands⟩ := ih
    -- An option is written as its value; only a hollow one has another form than its value.
    exact ⟨document, stands.written, stands.whole,
      (Canonical.ofNative_present full).trans stands.form⟩
  | newtype _ ih =>
    obtain ⟨document, stands⟩ := ih
    exact ⟨document, stands.written, stands.whole, stands.form⟩
  | unitVariant name => exact ⟨.text name, rfl, .text name, rfl⟩
  | newtypeVariant name _ ih =>
    obtain ⟨document, stands⟩ := ih
    refine ⟨_, .tagged name stands.whole ?_ ?_⟩
    · rw [jsonChars, stands.written]
      rfl
    · rw [Canonical.ofNative, stands.form]
      rfl
  | seq _ ih =>
    obtain ⟨documents, items⟩ := Stands.items ih
    exact ⟨_, items.written_list, .list items.whole, items.form_list⟩
  | tuple _ ih =>
    obtain ⟨documents, items⟩ := Stands.items ih
    exact ⟨_, items.written_list, .list items.whole, items.form_list⟩
  | tupleStruct _ ih =>
    obtain ⟨documents, items⟩ := Stands.items ih
    exact ⟨_, items.written_list, .list items.whole, items.form_list⟩
  | tupleVariant name _ ih =>
    obtain ⟨documents, items⟩ := Stands.items ih
    refine ⟨_, .tagged name (.list items.whole) ?_ ?_⟩
    · rw [jsonChars, items.written, ← bracketed_items]
      rfl
    · rw [Canonical.ofNative, items.form]
      rfl
  | map named _ ih =>
    obtain ⟨fields, members⟩ := Stands.entries named ih
    exact ⟨_, members.written_object, .object members.whole, members.form_object⟩
  | struct _ ih =>
    obtain ⟨fields, members⟩ := Stands.fields ih
    exact ⟨_, members.written_object, .object members.whole, members.form_object⟩
  | structVariant name _ ih =>
    obtain ⟨fields, members⟩ := Stands.fields ih
    refine ⟨_, .tagged name (.object members.whole) ?_ ?_⟩
    · rw [jsonChars, members.written, ← braced_fields]
      rfl
    · rw [Canonical.ofNative, members.form, ofJson_object]
      rfl

theorem Portable.reads {value : Native} (portable : Portable Json.depthLimit value) :
    ∃ body document, value.toJson = .ok body ∧ Json.read body = .ok document ∧
      Canonical.ofNative value = .ok (.ofJson document) := by
  obtain ⟨document, stands⟩ := portable.stands
  refine ⟨_, document.settled, ?_, Json.read_compact stands.whole, stands.form⟩
  rw [toJson, stands.written]
  rfl

end Native
end FluentAssert
