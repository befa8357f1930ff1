import FluentAssert.Canonical.OfNative
import FluentAssert.Native.OfCanonical
import FluentAssert.Proofs.Canonical.Equality
import FluentAssert.Proofs.Fields
import FluentAssert.Proofs.Number.Whole

/-! Canonical forms are final: handed over as native values they keep their form, down to the order
of keys and the sign of zero. So a part of a native value may be put in canonical form beforehand,
and the whole comes out the same. -/
namespace FluentAssert.Canonical

/-- Numbers are finite and keys are in order, at every depth. -/
inductive Proper : Canonical → Prop where
  | null : Proper null
  | bool (b : Bool) : Proper (bool b)
  | number {x : Double} : x.isFinite = true → Proper (number x)
  | text (s : String) : Proper (text s)
  | array {items : List Canonical} : (∀ item ∈ items, Proper item) → Proper (array items)
  | object {fields : Fields Canonical} :
    fields.Ordered → (∀ field ∈ fields, Proper field.2) → Proper (object fields)

theorem proper_ofDouble (x : Double) : Proper (ofDouble x) := by
  unfold ofDouble
  split
  · rename_i finite
    exact .number finite
  · exact .null

theorem proper_tagged {name : String} {payload : Canonical} (proper : Proper payload) :
    Proper (tagged name payload) := by
  apply Proper.object Fields.ordered_one
  intro field member
  cases List.mem_singleton.mp member
  exact proper

theorem Proper.collapseEmpty {value : Canonical} (proper : Proper value) :
    Proper value.collapseEmpty := by
  unfold Canonical.collapseEmpty
  split
  · exact .null
  · exact .null
  · exact proper

theorem proper_bytes (content : List UInt8) :
    Proper (array (content.map fun b => ofNat b.toNat)) := by
  apply Proper.array
  intro item member
  obtain ⟨b, _, rfl⟩ := List.mem_map.mp member
  exact .number (Double.byte_finite b)

theorem proper_ofEntries {entries : List (String × Canonical)}
    (proper : ∀ entry ∈ entries, Proper entry.2) : Proper (object (Fields.ofEntries entries)) :=
  .object (Fields.ordered_ofEntries entries) (Fields.forall_ofEntries proper)

theorem map_ok {ε α β : Type} {result : Except ε α} {f : α → β} {b : β}
    (h : result.map f = .ok b) : ∃ a, result = .ok a ∧ f a = b := by
  cases result with
  | error e => cases h
  | ok a => exact ⟨a, rfl, Except.ok.inj h⟩

theorem bind_ok {ε α β : Type} {first : Except ε α} {next : α → Except ε β} {b : β}
    (h : first >>= next = .ok b) : ∃ a, first = .ok a ∧ next a = .ok b := by
  cases first with
  | error e => cases h
  | ok a => exact ⟨a, rfl, h⟩

mutual

theorem proper_ofNative : ∀ {value : Native} {form : Canonical},
    ofNative value = .ok form → Proper form
  | .bool b, _, h => Except.ok.inj h ▸ .bool b
  | .integer .., _, h => Except.ok.inj h ▸ proper_ofDouble _
  | .single _, _, h => Except.ok.inj h ▸ proper_ofDouble _
  | .double _, _, h => Except.ok.inj h ▸ proper_ofDouble _
  | .char _, _, h => Except.ok.inj h ▸ .text _
  | .text _, _, h => Except.ok.inj h ▸ .text _
  | .bytes content, _, h => Except.ok.inj h ▸ proper_bytes content
  | .none, _, h => Except.ok.inj h ▸ .null
  | .unit, _, h => Except.ok.inj h ▸ .null
  | .unitStruct, _, h => Except.ok.inj h ▸ .null
  | .unitVariant name, _, h => Except.ok.inj h ▸ .text name
  | .some value, _, h => by
    obtain ⟨inner, canonical, rfl⟩ := map_ok h
    exact (proper_ofNative canonical).collapseEmpty
  | .newtype value, _, h => @proper_ofNative value _ h
  | .newtypeVariant name value, _, h => by
    obtain ⟨inner, canonical, rfl⟩ := map_ok h
    exact proper_tagged (proper_ofNative canonical)
  | .seq items, _, h => by
    obtain ⟨values, canonical, rfl⟩ := map_ok h
    exact .array (proper_ofItems canonical)
  | .tuple items, _, h => by
    obtain ⟨values, canonical, rfl⟩ := map_ok h
    exact .array (proper_ofItems canonical)
  | .tupleStruct items, _, h => by
    obtain ⟨values, canonical, rfl⟩ := map_ok h
    exact .array (proper_ofItems canonical)
  | .tupleVariant name items, _, h => by
    obtain ⟨values, canonical, rfl⟩ := map_ok h
    exact proper_tagged (.array (proper_ofItems canonical))
  | .map entries, _, h => by
    obtain ⟨fields, canonical, rfl⟩ := map_ok h
    exact proper_ofEntries (proper_ofMapEntries canonical)
  | .struct fields, _, h => by
    obtain ⟨fields, canonical, rfl⟩ := map_ok h
    exact proper_ofEntries (proper_ofFields canonical)
  | .structVariant name fields, _, h => by
    obtain ⟨fields, canonical, rfl⟩ := map_ok h
    exact proper_tagged (proper_ofEntries (proper_ofFields canonical))
  | .loose told, _, h => by
    obtain ⟨fields, canonical, rfl⟩ := map_ok h
    exact proper_ofEntries (proper_ofLoose canonical)
  | .failing _, _, h => nomatch h

theorem proper_ofItems : ∀ {items : List Native} {values : List Canonical},
    ofItems items = .ok values → ∀ value ∈ values, Proper value
  | [], _, h => by
    cases h
    simp
  | item :: rest, _, h => by
    obtain ⟨value, first, h⟩ := bind_ok h
    obtain ⟨values, others, h⟩ := bind_ok h
    cases h
    exact List.forall_mem_cons.mpr ⟨proper_ofNative first, proper_ofItems others⟩

theorem proper_ofMapEntries : ∀ {entries : List (Native × Native)}
    {fields : List (String × Canonical)},
    ofEntries entries = .ok fields → ∀ field ∈ fields, Proper field.2
  | [], _, h => by
    cases h
    simp
  | (key, value) :: rest, _, h => by
    obtain ⟨text, _, h⟩ := bind_ok h
    obtain ⟨value, first, h⟩ := bind_ok h
    obtain ⟨fields, others, h⟩ := bind_ok h
    cases h
    exact List.forall_mem_cons.mpr ⟨proper_ofNative first, proper_ofMapEntries others⟩

theorem proper_ofFields : ∀ {entries : List (String × Native)}
    {fields : List (String × Canonical)},
    ofFields entries = .ok fields → ∀ field ∈ fields, Proper field.2
  | [], _, h => by
    cases h
    simp
  | (key, value) :: rest, _, h => by
    obtain ⟨value, first, h⟩ := bind_ok h
    obtain ⟨fields, others, h⟩ := bind_ok h
    cases h
    exact List.forall_mem_cons.mpr ⟨proper_ofNative first, proper_ofFields others⟩

theorem proper_ofLoose : ∀ {waiting : Option String} {told : List (Native ⊕ Native)}
    {fields : List (String × Canonical)},
    ofLoose waiting told = .ok fields → ∀ field ∈ fields, Proper field.2
  | _, [], _, h => by
    cases h
    simp
  | _, .inl key :: rest, _, h => by
    obtain ⟨text, _, h⟩ := bind_ok h
    exact proper_ofLoose h
  | none, .inr value :: rest, _, h => nomatch h
  | some key, .inr value :: rest, _, h => by
    obtain ⟨value, first, h⟩ := bind_ok h
    obtain ⟨fields, others, h⟩ := bind_ok h
    cases h
    exact List.forall_mem_cons.mpr ⟨proper_ofNative first, proper_ofLoose others⟩

end

theorem finiteItems_of_all : ∀ {items : List Canonical},
    (∀ item ∈ items, item.finite = true) → finiteItems items = true
  | [], _ => rfl
  | item :: rest, all => by
    obtain ⟨first, others⟩ := List.forall_mem_cons.mp all
    rw [finiteItems, first, finiteItems_of_all others]
    rfl

theorem finiteFields_of_all : ∀ {fields : List (String × Canonical)},
    (∀ field ∈ fields, field.2.finite = true) → finiteFields fields = true
  | [], _ => rfl
  | (key, value) :: rest, all => by
    obtain ⟨first, others⟩ := List.forall_mem_cons.mp all
    rw [finiteFields, first, finiteFields_of_all others]
    rfl

theorem Proper.finite {form : Canonical} (proper : Proper form) : form.finite = true := by
  induction proper with
  | null | bool | text => rfl
  | number finite => exact finite
  | array _ ih => exact finiteItems_of_all ih
  | object _ _ ih => exact finiteFields_of_all ih

theorem Proper.throughout {value : Canonical} (proper : Proper value) : Throughout Proper value := by
  intro part inside
  induction inside with
  | whole => exact proper
  | item member _ ih =>
    cases proper with
    | array all => exact ih (all _ member)
  | field member _ ih =>
    cases proper with
    | object _ all => exact ih (all _ member)

theorem Proper.nanFree {value : Canonical} (proper : Proper value) : NaNFree value := by
  intro part inside same
  subst same
  cases proper.throughout _ inside with
  | number finite => exact Bool.false_ne_true finite

theorem Proper.equal_self {form : Canonical} (proper : Proper form) : equal form form = true :=
  Canonical.equal_self proper.nanFree

theorem ofItems_ofCanonical : ∀ {items : List Canonical},
    (∀ item ∈ items, ofNative (.ofCanonical item) = .ok item) →
      ofItems (Native.ofCanonicalItems items) = .ok items
  | [], _ => rfl
  | item :: rest, all => by
    obtain ⟨first, others⟩ := List.forall_mem_cons.mp all
    rw [Native.ofCanonicalItems, ofItems, first, ofItems_ofCanonical others]
    rfl

theorem ofEntries_ofCanonical : ∀ {fields : List (String × Canonical)},
    (∀ field ∈ fields, ofNative (.ofCanonical field.2) = .ok field.2) →
      ofEntries (Native.ofCanonicalFields fields) = .ok fields
  | [], _ => rfl
  | (key, value) :: rest, all => by
    obtain ⟨first, others⟩ := List.forall_mem_cons.mp all
    rw [Native.ofCanonicalFields, ofEntries, keyText, first, ofEntries_ofCanonical others]
    rfl

theorem Proper.ofNative_ofCanonical {form : Canonical} (proper : Proper form) :
    ofNative (.ofCanonical form) = .ok form := by
  induction proper with
  | null | bool | text => rfl
  | @number x finite =>
    rw [Native.ofCanonical, ofNative, ofDouble, if_pos finite]
  | array _ ih =>
    rw [Native.ofCanonical, ofNative, ofItems_ofCanonical ih]
    rfl
  | object ordered _ ih =>
    rw [Native.ofCanonical, ofNative, ofEntries_ofCanonical ih]
    show Except.ok (Canonical.object (Fields.ofEntries _)) = _
    rw [Fields.ofEntries_self ordered]

end FluentAssert.Canonical

namespace FluentAssert

/-- A native value with a hole where a value can stand; keys are no such places. -/
inductive Native.Context where
  | hole
  | some (inner : Context)
  | newtype (inner : Context)
  | newtypeVariant (name : String) (inner : Context)
  | seq (before : List Native) (inner : Context) (after : List Native)
  | tuple (before : List Native) (inner : Context) (after : List Native)
  | tupleStruct (before : List Native) (inner : Context) (after : List Native)
  | tupleVariant (name : String) (before : List Native) (inner : Context) (after : List Native)
  | map (before : List (Native × Native)) (key : Native) (inner : Context)
    (after : List (Native × Native))
  | struct (before : List (String × Native)) (key : String) (inner : Context)
    (after : List (String × Native))
  | structVariant (name : String) (before : List (String × Native)) (key : String)
    (inner : Context) (after : List (String × Native))
  | loose (before : List (Native ⊕ Native)) (inner : Context) (after : List (Native ⊕ Native))

def Native.Context.plug (value : Native) : Context → Native
  | hole => value
  | some inner => .some (inner.plug value)
  | newtype inner => .newtype (inner.plug value)
  | newtypeVariant name inner => .newtypeVariant name (inner.plug value)
  | seq before inner after => .seq (before ++ inner.plug value :: after)
  | tuple before inner after => .tuple (before ++ inner.plug value :: after)
  | tupleStruct before inner after => .tupleStruct (before ++ inner.plug value :: after)
  | tupleVariant name before inner after => .tupleVariant name (before ++ inner.plug value :: after)
  | map before key inner after => .map (before ++ (key, inner.plug value) :: after)
  | struct before key inner after => .struct (before ++ (key, inner.plug value) :: after)
  | structVariant name before key inner after =>
    .structVariant name (before ++ (key, inner.plug value) :: after)
  | loose before inner after => .loose (before ++ .inr (inner.plug value) :: after)

namespace Canonical

-- What is told of an error is left open: with `id` errors count as they are, with a constant
-- function only whether there is a form.
variable {ε : Type} {told : CanonicalError → ε} {u v : Native}

theorem mapError_map {α β : Type} (result : Except CanonicalError α) (f : α → β) :
    (result.map f).mapError told = (result.mapError told).map f := by
  cases result <;> rfl

theorem mapError_bind {α β : Type} (first : Except CanonicalError α)
    (next : α → Except CanonicalError β) :
    (first >>= next).mapError told = first.mapError told >>= fun a => (next a).mapError told := by
  cases first <;> rfl

theorem mapError_id {α : Type} (result : Except CanonicalError α) : result.mapError id = result := by
  cases result <;> rfl

theorem ofItems_agree (same : (ofNative u).mapError told = (ofNative v).mapError told)
    (before after : List Native) :
    (ofItems (before ++ u :: after)).mapError told =
      (ofItems (before ++ v :: after)).mapError told := by
  induction before with
  | nil => simp only [List.nil_append, ofItems, mapError_bind, same]
  | cons item before ih => simp only [List.cons_append, ofItems, mapError_bind, ih]

theorem ofEntries_agree (same : (ofNative u).mapError told = (ofNative v).mapError told)
    (key : Native) (before after : List (Native × Native)) :
    (ofEntries (before ++ (key, u) :: after)).mapError told =
      (ofEntries (before ++ (key, v) :: after)).mapError told := by
  induction before with
  | nil => simp only [List.nil_append, ofEntries, mapError_bind, same]
  | cons entry before ih => simp only [List.cons_append, ofEntries, mapError_bind, ih]

theorem ofFields_agree (same : (ofNative u).mapError told = (ofNative v).mapError told)
    (key : String) (before after : List (String × Native)) :
    (ofFields (before ++ (key, u) :: after)).mapError told =
      (ofFields (before ++ (key, v) :: after)).mapError told := by
  induction before with
  | nil => simp only [List.nil_append, ofFields, mapError_bind, same]
  | cons entry before ih => simp only [List.cons_append, ofFields, mapError_bind, ih]

theorem ofLoose_agree (same : (ofNative u).mapError told = (ofNative v).mapError told)
    (before after : List (Native ⊕ Native)) (waiting : Option String) :
    (ofLoose waiting (before ++ .inr u :: after)).mapError told =
      (ofLoose waiting (before ++ .inr v :: after)).mapError told := by
  induction before generalizing waiting with
  | nil =>
    cases waiting with
    | none => rfl
    | some key => simp only [List.nil_append, ofLoose, mapError_bind, same]
  | cons part before ih =>
    cases part with
    | inl key => simp only [List.cons_append, ofLoose, mapError_bind, ih]
    | inr value =>
      cases waiting with
      | none => rfl
      | some key => simp only [List.cons_append, ofLoose, mapError_bind, ih]

/-- The form of a value depends on the forms of its parts only. -/
theorem ofNative_agree (same : (ofNative u).mapError told = (ofNative v).mapError told)
    (context : Native.Context) :
    (ofNative (context.plug u)).mapError told = (ofNative (context.plug v)).mapError told := by
  induction context with
  | hole => exact same
  | some inner ih | newtype inner ih | newtypeVariant name inner ih =>
    simp only [Native.Context.plug, ofNative, mapError_map, ih]
  | seq before inner after ih | tuple before inner after ih | tupleStruct before inner after ih
  | tupleVariant name before inner after ih =>
    simp only [Native.Context.plug, ofNative, mapError_map, ofItems_agree ih]
  | map before key inner after ih =>
    simp only [Native.Context.plug, ofNative, mapError_map, ofEntries_agree ih]
  | struct before key inner after ih | structVariant name before key inner after ih =>
    simp only [Native.Context.plug, ofNative, mapError_map, ofFields_agree ih]
  | loose before inner after ih =>
    simp only [Native.Context.plug, ofNative, mapError_map, ofLoose_agree ih]

theorem ofNative_congr (same : ofNative u = ofNative v) (context : Native.Context) :
    ofNative (context.plug u) = ofNative (context.plug v) := by
  have whole := ofNative_agree (congrArg (Except.mapError id) same) context
  simpa only [mapError_id] using whole

/-- A canonical form is finite and has itself as its form, and it may stand for its value anywhere:
what the whole comes out as, be it a form or an error, stays the same. -/
theorem ofNative_stable (value : Native) (form : Canonical)
    (canonical : ofNative value = .ok form) :
    form.finite = true ∧ ofNative (.ofCanonical form) = .ok form ∧
      ∀ context : Native.Context,
        ofNative (context.plug (.ofCanonical form)) = ofNative (context.plug value) := by
  have proper := proper_ofNative canonical
  have again := proper.ofNative_ofCanonical
  exact ⟨proper.finite, again, ofNative_congr (again.trans canonical.symm)⟩

theorem ofNative_stable_record :
    ofNative (.struct [("b", .some (.seq [])), ("a", .double (.zero true))]) =
      .ok (object [("a", number (.zero true)), ("b", null)]) ∧
    ofNative (.ofCanonical (object [("a", number (.zero true)), ("b", null)])) =
      .ok (object [("a", number (.zero true)), ("b", null)]) := by
  have canonical : ofNative (.struct [("b", .some (.seq [])), ("a", .double (.zero true))]) =
      .ok (object [("a", number (.zero true)), ("b", null)]) := by rfl
  exact ⟨canonical, (ofNative_stable _ _ canonical).2.1⟩

end Canonical
end FluentAssert
