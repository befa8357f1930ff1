import FluentAssert.Canonical.OfNative

/-! What a native value can be refused for. A traversal stops at the value, its parts and its keys,
one after the other; the first stop that offends is the error, and without an offence there is a
form. -/
namespace FluentAssert

namespace Native

/-- What is left of a value without options and wrappers around it. -/
def core : Native → Native
  | some value => value.core
  | newtype value => value.core
  | value => value

/-- The name of a shape without a text. -/
def shape? : Native → Option String
  | bytes _ => .some "bytes"
  | none => .some "none"
  | unit => .some "unit"
  | unitStruct => .some "unit struct"
  | newtypeVariant .. | tupleVariant .. | structVariant .. => .some "enum variant"
  | seq _ => .some "sequence"
  | tuple _ => .some "tuple"
  | tupleStruct _ => .some "tuple struct"
  | map _ | loose _ => .some "map"
  | struct _ => .some "struct"
  | _ => .none

/-- What a key is refused for. What is inside of a refused shape plays no role. -/
def keyOffence? (key : Native) : Option CanonicalError :=
  match key.core with
  | failing reason => .some (.refused reason)
  | core => core.shape?.map .keyNotText

inductive Textual : Native → Prop where
  | bool (b : Bool) : Textual (bool b)
  | integer {width : Width} {n : Int} (fits : width.Holds n) : Textual (integer width n fits)
  | single (x : Single) : Textual (single x)
  | double (x : Double) : Textual (double x)
  | char (c : Char) : Textual (char c)
  | text (s : String) : Textual (text s)
  | unitVariant (name : String) : Textual (unitVariant name)
  | some {value : Native} : Textual value → Textual (some value)
  | newtype {value : Native} : Textual value → Textual (newtype value)

/-- A place that a traversal comes to: a value, a key, or a value that no key waits for. -/
inductive Stop where
  | value (met : Native)
  | key (met : Native)
  | stray (met : Native)

def Stop.offence? : Stop → Option CanonicalError
  | .value (failing reason) => .some (.refused reason)
  | .value _ => .none
  | .key met => met.keyOffence?
  | .stray _ => .some (.refused "map value without a key")

mutual

/-- Depth first, every key before its value. Keys and stray values are not entered. -/
def stops : Native → List Stop
  | some inner => .value (some inner) :: inner.stops
  | newtype inner => .value (newtype inner) :: inner.stops
  | newtypeVariant name inner => .value (newtypeVariant name inner) :: inner.stops
  | seq items => .value (seq items) :: itemStops items
  | tuple items => .value (tuple items) :: itemStops items
  | tupleStruct items => .value (tupleStruct items) :: itemStops items
  | tupleVariant name items => .value (tupleVariant name items) :: itemStops items
  | map entries => .value (map entries) :: entryStops entries
  | struct fields => .value (struct fields) :: fieldStops fields
  | structVariant name fields => .value (structVariant name fields) :: fieldStops fields
  | loose told => .value (loose told) :: looseStops false told
  | leaf => [.value leaf]

def itemStops : List Native → List Stop
  | [] => []
  | item :: rest => item.stops ++ itemStops rest

def entryStops : List (Native × Native) → List Stop
  | [] => []
  | (key, value) :: rest => .key key :: (value.stops ++ entryStops rest)

def fieldStops : List (String × Native) → List Stop
  | [] => []
  | (_, value) :: rest => value.stops ++ fieldStops rest

/-- Whether a key waits for its value is kept in mind. -/
def looseStops : Bool → List (Native ⊕ Native) → List Stop
  | _, [] => []
  | _, .inl key :: rest => .key key :: looseStops true rest
  | true, .inr value :: rest => value.stops ++ looseStops false rest
  | false, .inr value :: rest => .stray value :: looseStops false rest

end

end Native

namespace Canonical

open Native (Stop Textual itemStops entryStops fieldStops looseStops)

def fault? {α : Type} : Except CanonicalError α → Option CanonicalError
  | .ok _ => none
  | .error error => some error

@[simp] theorem fault?_ok {α : Type} (a : α) : fault? (.ok a) = none := rfl

@[simp] theorem fault?_error {α : Type} (error : CanonicalError) :
    fault? (.error error : Except _ α) = some error := rfl

@[simp] theorem fault?_map {α β : Type} (result : Except CanonicalError α) (f : α → β) :
    fault? (result.map f) = fault? result := by
  cases result <;> rfl

theorem fault?_bind {α β : Type} (first : Except CanonicalError α)
    (next : α → Except CanonicalError β) {later : Option CanonicalError}
    (after : ∀ a, fault? (next a) = later) :
    fault? (first >>= next) = (fault? first).or later := by
  cases first with
  | ok a => exact after a
  | error error => rfl

theorem fault?_eq_some {α : Type} {result : Except CanonicalError α} {error : CanonicalError} :
    fault? result = some error ↔ result = .error error := by
  cases result <;> simp

theorem fault?_eq_none {α : Type} {result : Except CanonicalError α} :
    fault? result = none ↔ ∃ a, result = .ok a := by
  cases result <;> simp

theorem fault?_keyText : ∀ key : Native, fault? (keyText key) = key.keyOffence?
  | .some value => fault?_keyText value
  | .newtype value => fault?_keyText value
  | .bool _ | .integer .. | .single _ | .double _ | .char _ | .text _ | .bytes _ | .none | .unit
  | .unitStruct | .unitVariant _ | .newtypeVariant .. | .seq _ | .tuple _ | .tupleStruct _
  | .tupleVariant .. | .map _ | .struct _ | .structVariant .. | .loose _ | .failing _ => rfl

theorem textual_of_keyOffence? : ∀ key : Native, key.keyOffence? = none → key.Textual
  | .some value, clean => .some (textual_of_keyOffence? value clean)
  | .newtype value, clean => .newtype (textual_of_keyOffence? value clean)
  | .bool b, _ => .bool b
  | .integer _ _ fits, _ => .integer fits
  | .single x, _ => .single x
  | .double x, _ => .double x
  | .char c, _ => .char c
  | .text s, _ => .text s
  | .unitVariant name, _ => .unitVariant name

theorem textual_iff (key : Native) : key.Textual ↔ key.keyOffence? = none := by
  constructor
  · intro textual
    induction textual with
    | some _ ih | newtype _ ih => exact ih
    | bool | integer | single | double | char | text | unitVariant => rfl
  · exact textual_of_keyOffence? key

theorem findSome?_key (key : Native) (later : List Stop) :
    (Stop.key key :: later).findSome? Stop.offence? =
      (fault? (keyText key)).or (later.findSome? Stop.offence?) := by
  rw [List.findSome?_cons, Stop.offence?, ← fault?_keyText]
  cases fault? (keyText key) <;> rfl

mutual

theorem fault?_ofNative : ∀ value : Native,
    fault? (ofNative value) = value.stops.findSome? Stop.offence?
  | .some value => by
    rw [ofNative, fault?_map, fault?_ofNative value]
    rfl
  | .newtype value => fault?_ofNative value
  | .newtypeVariant name value => by
    rw [ofNative, fault?_map, fault?_ofNative value]
    rfl
  | .seq items | .tuple items | .tupleStruct items | .tupleVariant _ items => by
    rw [ofNative, fault?_map, fault?_ofItems items]
    rfl
  | .map entries => by
    rw [ofNative, fault?_map, fault?_ofEntries entries]
    rfl
  | .struct fields | .structVariant _ fields => by
    rw [ofNative, fault?_map, fault?_ofFields fields]
    rfl
  | .loose told => by
    rw [ofNative, fault?_map, fault?_ofLoose told none]
    rfl
  | .bool _ | .integer .. | .single _ | .double _ | .char _ | .text _ | .bytes _ | .none | .unit
  | .unitStruct | .unitVariant _ | .failing _ => rfl

theorem fault?_ofItems : ∀ items : List Native,
    fault? (ofItems items) = (itemStops items).findSome? Stop.offence?
  | [] => rfl
  | item :: rest => by
    rw [itemStops, List.findSome?_append, ← fault?_ofNative item, ← fault?_ofItems rest]
    apply fault?_bind
    intro value
    exact fault?_map (ofItems rest) _

theorem fault?_ofEntries : ∀ entries : List (Native × Native),
    fault? (ofEntries entries) = (entryStops entries).findSome? Stop.offence?
  | [] => rfl
  | (key, value) :: rest => by
    rw [entryStops, findSome?_key, List.findSome?_append, ← fault?_ofNative value,
      ← fault?_ofEntries rest]
    apply fault?_bind
    intro key
    apply fault?_bind
    intro value
    exact fault?_map (ofEntries rest) _

theorem fault?_ofFields : ∀ fields : List (String × Native),
    fault? (ofFields fields) = (fieldStops fields).findSome? Stop.offence?
  | [] => rfl
  | (key, value) :: rest => by
    rw [fieldStops, List.findSome?_append, ← fault?_ofNative value, ← fault?_ofFields rest]
    apply fault?_bind
    intro value
    exact fault?_map (ofFields rest) _

theorem fault?_ofLoose : ∀ (told : List (Native ⊕ Native)) (waiting : Option String),
    fault? (ofLoose waiting told) = (looseStops waiting.isSome told).findSome? Stop.offence?
  | [], none | [], some _ => rfl
  | .inl key :: rest, waiting => by
    rw [looseStops, findSome?_key]
    apply fault?_bind
    intro key
    exact fault?_ofLoose rest (some key)
  -- The stray value is the end, and what it is plays no role.
  | .inr value :: rest, none => rfl
  | .inr value :: rest, some key => by
    rw [Option.isSome_some, looseStops, List.findSome?_append, ← fault?_ofNative value]
    apply fault?_bind
    intro value
    exact (fault?_map (ofLoose none rest) _).trans (fault?_ofLoose rest none)

end

/-- A value has no form exactly when its traversal meets an offence, and the first one is the error.
A key offends unless it is textual. -/
theorem ofNative_first_offence (value : Native) :
    (∀ error, ofNative value = .error error ↔ ∃ before stop after,
      value.stops = before ++ stop :: after ∧ stop.offence? = some error ∧
        ∀ earlier ∈ before, earlier.offence? = none) ∧
    ((∃ form, ofNative value = .ok form) ↔ ∀ stop ∈ value.stops, stop.offence? = none) ∧
    ∀ key : Native, key.Textual ↔ (Stop.key key).offence? = none := by
  have fault := fault?_ofNative value
  refine ⟨?_, ?_, textual_iff⟩
  · intro error
    rw [← fault?_eq_some, fault, List.findSome?_eq_some_iff]
  · rw [← fault?_eq_none, fault, List.findSome?_eq_none_iff]

example : ofNative (.loose [.inl (.text "a"), .inr (.map [(.some (.newtype .unit), .none)]),
    .inr (.failing "late")]) = .error (.keyNotText "unit") := rfl

end Canonical
end FluentAssert
