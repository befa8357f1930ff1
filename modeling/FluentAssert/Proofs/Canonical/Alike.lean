import Mathlib.Data.List.Perm.Basic
import FluentAssert.Proofs.Canonical.Idempotence

/-! Values that differ in their representation only have one canonical form. `Native.Alike` is the
least congruence that forgets widths, wrappers, kinds of containers and orders of entries. -/
namespace FluentAssert

namespace Native

/-- The texts of two keys differ, if both keys have one. -/
def Apart (first second : Native × Native) : Prop :=
  ∀ text, Canonical.keyText first.1 = .ok text → Canonical.keyText second.1 ≠ .ok text

/-- Comes out as an array or object with nothing in it. -/
def Hollow (value : Native) : Prop :=
  Canonical.ofNative value = .ok (.array []) ∨ Canonical.ofNative value = .ok (.object [])

def byte (b : UInt8) : Native :=
  .integer .u8 b.toNat ⟨Int.natCast_nonneg _, Int.ofNat_lt.mpr b.toNat_lt⟩

/-- A record's fields as entries of a map. -/
def named (fields : List (String × Native)) : List (Native × Native) :=
  fields.map fun (key, value) => (.text key, value)

inductive Alike : Native → Native → Prop where
  | refl (value : Native) : Alike value value
  | symm {v w : Native} : Alike v w → Alike w v
  | trans {u v w : Native} : Alike u v → Alike v w → Alike u w
  | inside {v w : Native} (context : Context) :
    Alike v w → Alike (context.plug v) (context.plug w)
  | width {n : Int} {a b : Width} (fits : a.Holds n) (holds : b.Holds n) :
    Alike (.integer a n fits) (.integer b n holds)
  | integer {width : Width} {n : Int} (fits : width.Holds n) :
    Alike (.integer width n fits) (.double (Double.ofInt n))
  | single (x : Single) : Alike (.single x) (.double (x.convert .double))
  | newtype (value : Native) : Alike (.newtype value) value
  | unit : Alike .unit .none
  | unitStruct : Alike .unitStruct .none
  | unbounded {x : Double} : x.isFinite = false → Alike (.double x) .none
  | char (c : Char) : Alike (.char c) (.text (String.singleton c))
  | unitVariant (name : String) : Alike (.unitVariant name) (.text name)
  | tuple (items : List Native) : Alike (.tuple items) (.seq items)
  | tupleStruct (items : List Native) : Alike (.tupleStruct items) (.seq items)
  | bytes (content : List UInt8) : Alike (.bytes content) (.seq (content.map byte))
  | struct (fields : List (String × Native)) : Alike (.struct fields) (.map (named fields))
  | newtypeVariant (name : String) (value : Native) :
    Alike (.newtypeVariant name value) (.map [(.text name, value)])
  | tupleVariant (name : String) (items : List Native) :
    Alike (.tupleVariant name items) (.map [(.text name, .seq items)])
  | structVariant (name : String) (fields : List (String × Native)) :
    Alike (.structVariant name fields) (.map [(.text name, .map (named fields))])
  | present {value : Native} : ¬ value.Hollow → Alike (.some value) value
  | absent {value : Native} : value.Hollow → Alike (.some value) .none
  | entries {entries others : List (Native × Native)} :
    entries.Perm others → entries.Pairwise Apart → Alike (.map entries) (.map others)
  | fields {fields others : List (String × Native)} :
    fields.Perm others → (fields.map (·.1)).Nodup → Alike (.struct fields) (.struct others)

end Native

namespace Canonical

variable {v w : Native} {form : Canonical}

theorem ofNative_byte (b : UInt8) : ofNative (.byte b) = .ok (ofNat b.toNat) := by
  have positive : decide ((b.toNat : Int) < 0) = false :=
    decide_eq_false (Int.not_lt.mpr (Int.natCast_nonneg _))
  have whole : Double.ofInt (b.toNat : Int) = Double.ofNat b.toNat := by
    simp only [Double.ofInt, Binary.ofInt, Int.natAbs_natCast, positive, Double.ofNat]
  show Except.ok (ofDouble (Double.ofInt (b.toNat : Int))) = _
  rw [whole, ofDouble, if_pos (Double.byte_finite b), ofNat]

theorem ofItems_bytes (content : List UInt8) :
    ofItems (content.map Native.byte) = .ok (content.map fun b => ofNat b.toNat) := by
  induction content with
  | nil => rfl
  | cons b rest ih =>
    simp only [List.map_cons, ofItems, ofNative_byte, ih]
    rfl

theorem ofEntries_named (fields : List (String × Native)) :
    ofEntries (Native.named fields) = ofFields fields := by
  induction fields with
  | nil => rfl
  | cons field rest ih =>
    have later : ofEntries (rest.map fun (key, value) => (.text key, value)) = ofFields rest := ih
    simp only [Native.named, List.map_cons, ofEntries, ofFields, keyText, later]
    rfl

theorem ofNative_struct (fields : List (String × Native)) :
    ofNative (.struct fields) = ofNative (.map (Native.named fields)) := by
  simp only [ofNative, ofEntries_named]

/-- A variant is the map of its name to its payload. -/
theorem ofNative_entry (name : String) (payload : Native) :
    ofNative (.map [(.text name, payload)]) = (ofNative payload).map (tagged name) := by
  simp only [ofNative, ofEntries, keyText]
  cases ofNative payload <;> rfl

theorem ofNative_present (full : ¬ v.Hollow) : ofNative (.some v) = ofNative v := by
  rw [ofNative]
  cases outcome : ofNative v with
  | error e => rfl
  | ok form =>
    show Except.ok form.collapseEmpty = _
    unfold collapseEmpty
    split
    · exact (full (.inl outcome)).elim
    · exact (full (.inr outcome)).elim
    · rfl

theorem ofNative_absent (hollow : v.Hollow) : ofNative (.some v) = .ok null := by
  rw [ofNative]
  rcases hollow with empty | empty <;>
    · rw [empty]
      rfl

/-- What an entry of a map comes out as. -/
def Reads (entry : Native × Native) (field : String × Canonical) : Prop :=
  keyText entry.1 = .ok field.1 ∧ ofNative entry.2 = .ok field.2

theorem ofEntries_iff {entries : List (Native × Native)} {fields : List (String × Canonical)} :
    ofEntries entries = .ok fields ↔ List.Forall₂ Reads entries fields := by
  constructor
  · intro h
    induction entries generalizing fields with
    | nil =>
      cases h
      exact .nil
    | cons entry rest ih =>
      obtain ⟨text, key, h⟩ := bind_ok h
      obtain ⟨value, first, h⟩ := bind_ok h
      obtain ⟨others, later, h⟩ := bind_ok h
      cases h
      exact .cons ⟨key, first⟩ (ih later)
  · intro h
    induction h with
    | nil => rfl
    | cons first _ ih =>
      rw [ofEntries, first.1, first.2, ih]
      rfl

theorem nodup_keys {entries : List (Native × Native)} {fields : List (String × Canonical)}
    (read : List.Forall₂ Reads entries fields) (apart : entries.Pairwise Native.Apart) :
    (Fields.keys fields).Nodup := by
  induction read with
  | nil => exact .nil
  | cons first later ih =>
    obtain ⟨differ, apart⟩ := List.pairwise_cons.mp apart
    apply List.nodup_cons.mpr
    constructor
    · intro again
      obtain ⟨field, inside, same⟩ := List.mem_map.mp again
      obtain ⟨entry, member, second⟩ := exists_of_forall₂ later inside
      exact differ entry member _ first.1 (second.1.trans (congrArg Except.ok same))
    · exact ih apart

theorem ofNative_perm {entries others : List (Native × Native)} (permuted : entries.Perm others)
    (apart : entries.Pairwise Native.Apart) (canonical : ofNative (.map entries) = .ok form) :
    ofNative (.map others) = .ok form := by
  obtain ⟨fields, read, rfl⟩ := map_ok canonical
  have read := ofEntries_iff.mp read
  obtain ⟨moved, again, order⟩ := List.perm_comp_forall₂ permuted.symm read
  have distinct : (Fields.keys moved).Nodup :=
    (order.map _).nodup_iff.mpr (nodup_keys read apart)
  rw [ofNative, ofEntries_iff.mpr again]
  show Except.ok (Canonical.object (Fields.ofEntries moved)) = _
  rw [Fields.ofEntries_perm order distinct]

theorem ofNative_perm_iff {entries others : List (Native × Native)}
    (permuted : entries.Perm others) (apart : entries.Pairwise Native.Apart) :
    ofNative (.map entries) = .ok form ↔ ofNative (.map others) = .ok form := by
  have apart' : others.Pairwise Native.Apart :=
    apart.perm permuted fun differ text second first => differ text first second
  exact ⟨ofNative_perm permuted apart, ofNative_perm permuted.symm apart'⟩

theorem named_apart {fields : List (String × Native)} (distinct : (fields.map (·.1)).Nodup) :
    (Native.named fields).Pairwise Native.Apart := by
  apply List.pairwise_map.mpr
  apply (List.pairwise_map.mp distinct).imp
  intro first second differ text read again
  exact differ ((Except.ok.inj read).trans (Except.ok.inj again).symm)

theorem forms_iff : (∀ form, ofNative v = .ok form ↔ ofNative w = .ok form) ↔
    (ofNative v).mapError (fun _ => ()) = (ofNative w).mapError fun _ => () := by
  constructor
  · intro same
    cases first : ofNative v with
    | ok form => rw [(same form).mp first]
    | error e =>
      cases second : ofNative w with
      | ok form => exact absurd ((same form).mpr second) (by simp [first])
      | error e' => rfl
  · intro same form
    cases first : ofNative v <;> cases second : ofNative w <;> simp_all [Except.mapError]

/-- Values that differ in representation only have one canonical form, or neither has any. -/
theorem ofNative_alike (alike : v.Alike w) (form : Canonical) :
    ofNative v = .ok form ↔ ofNative w = .ok form := by
  induction alike generalizing form with
  | refl | width | integer | single | newtype | unit | unitStruct | char | unitVariant | tuple
  | tupleStruct => exact Iff.rfl
  | symm _ ih => exact (ih form).symm
  | trans _ _ first second => exact (first form).trans (second form)
  -- A context hands on the form of what is inside, or that there is none.
  | inside context _ ih => exact forms_iff.mpr (ofNative_agree (forms_iff.mp ih) context) form
  | unbounded unbounded => rw [ofNative, ofDouble, unbounded]; rfl
  | bytes content => rw [ofNative, ofNative, ofItems_bytes]; rfl
  | struct fields => rw [ofNative_struct]
  | newtypeVariant name value => rw [ofNative_entry, ofNative]
  | tupleVariant name items =>
    rw [ofNative_entry, ofNative, ofNative]
    cases ofItems items <;> rfl
  | structVariant name fields =>
    rw [ofNative_entry, ← ofNative_struct, ofNative, ofNative]
    cases ofFields fields <;> rfl
  | present full => rw [ofNative_present full]
  | absent hollow => rw [ofNative_absent hollow]; rfl
  | entries permuted apart => exact ofNative_perm_iff permuted apart
  | fields permuted distinct =>
    rw [ofNative_struct, ofNative_struct]
    exact ofNative_perm_iff (permuted.map _) (named_apart distinct)

theorem ofNative_alike_record :
    Native.Alike (.struct [("tags", .some (.seq [])), ("size", .unitVariant "large")])
      (.map [(.text "size", .text "large"), (.text "tags", .none)]) ∧
    ofNative (.struct [("tags", .some (.seq [])), ("size", .unitVariant "large")]) =
      .ok (object [("size", text "large"), ("tags", null)]) := by
  have tags : Native.Alike (.struct [("tags", .some (.seq [])), ("size", .unitVariant "large")])
      (.struct [("tags", .none), ("size", .unitVariant "large")]) :=
    .inside (.struct [] "tags" .hole [("size", .unitVariant "large")]) (.absent (.inl rfl))
  have size : Native.Alike (.struct [("tags", .none), ("size", .unitVariant "large")])
      (.struct [("tags", .none), ("size", .text "large")]) :=
    .inside (.struct [("tags", .none)] "size" .hole []) (.unitVariant "large")
  have order : Native.Alike (.struct [("tags", .none), ("size", .text "large")])
      (.struct [("size", .text "large"), ("tags", .none)]) :=
    .fields (.swap ..) (by decide)
  have alike := ((tags.trans size).trans order).trans (.struct _)
  exact ⟨alike, (ofNative_alike alike _).mpr rfl⟩

end Canonical
end FluentAssert
