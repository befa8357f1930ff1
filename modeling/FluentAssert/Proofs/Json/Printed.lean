import FluentAssert.Json.Writer
import FluentAssert.Proofs.Json.Document

/-! Characters of JSON texts. Strings are escaped and numbers are written in digits and signs, so
the only control character in a text is the line feed of the layout: strings break no lines. -/
namespace FluentAssert.Json

/-- No control characters. -/
def Printable (chars : List Char) : Prop := ∀ c ∈ chars, 0x20 ≤ c.toNat

/-- No control characters but line feeds. -/
def Printed (chars : List Char) : Prop := ∀ c ∈ chars, c = '\n' ∨ 0x20 ≤ c.toNat

variable {chars other : List Char}

@[simp] theorem printable_append : Printable (chars ++ other) ↔ Printable chars ∧ Printable other :=
  List.forall_mem_append

@[simp] theorem printable_cons {c : Char} :
    Printable (c :: chars) ↔ 0x20 ≤ c.toNat ∧ Printable chars :=
  List.forall_mem_cons

@[simp] theorem printable_nil : Printable [] := fun _ inside => nomatch inside

@[simp] theorem printed_append : Printed (chars ++ other) ↔ Printed chars ∧ Printed other :=
  List.forall_mem_append

@[simp] theorem printed_cons {c : Char} :
    Printed (c :: chars) ↔ (c = '\n' ∨ 0x20 ≤ c.toNat) ∧ Printed chars :=
  List.forall_mem_cons

@[simp] theorem printed_nil : Printed [] := fun _ inside => nomatch inside

theorem Printable.printed (h : Printable chars) : Printed chars := fun c inside => .inr (h c inside)

theorem printable_replicate (n : Nat) {c : Char} (h : 0x20 ≤ c.toNat) :
    Printable (List.replicate n c) := by
  intro other inside
  rwa [List.eq_of_mem_replicate inside]

theorem printable_toDigits (n : Nat) : Printable (Nat.toDigits 10 n) := by
  intro c inside
  have digit : c.isDigit = true := Nat.isDigit_of_mem_toDigits (by decide) (by decide) inside
  have bounds : 48 ≤ c.toNat ∧ c.toNat ≤ 57 := Char.isDigit_iff_toNat.mp digit
  omega

theorem printable_integer (n : Int) : Printable (toString n).toList := by
  rcases Text.integer_chars n with ⟨m, -, written⟩ | ⟨m, -, -, written⟩
  · rw [written]
    exact printable_toDigits m
  · rw [written, printable_cons]
    exact ⟨by decide, printable_toDigits m⟩

theorem printable_writtenOut {digits : List Char} (h : Printable digits) (leading : Int)
    (keepsPoint : Bool) : Printable (Layout.writtenOut digits leading keepsPoint) := by
  have zeros (n : Nat) : Printable (Layout.zeros n) := printable_replicate n (by decide)
  have start (n : Nat) : Printable (digits.take n) := fun c inside => h c (List.mem_of_mem_take inside)
  have rest (n : Nat) : Printable (digits.drop n) := fun c inside => h c (List.mem_of_mem_drop inside)
  fun_cases Layout.writtenOut digits leading keepsPoint with
  | case1 => simp [h, zeros]
  | case2 => cases keepsPoint <;> simp [h, zeros]
  | case3 => simp [start, rest]

theorem printable_withExponent {digits : List Char} (h : Printable digits) (leading : Int) :
    Printable (Layout.withExponent digits leading) := by
  have sign : 0x20 ≤ (if leading < 0 then '-' else '+').toNat := by split <;> decide
  unfold Layout.withExponent
  split
  · simp only [printable_cons] at h
    simp [h, sign, printable_toDigits]
  · simp [h, sign, printable_toDigits]

theorem printable_magnitude (layout : Layout) (decimal : Decimal) :
    Printable (layout.magnitude decimal) := by
  have digits := printable_toDigits decimal.digits
  simp only [Layout.magnitude]
  split
  · exact printable_writtenOut digits _ _
  · exact printable_withExponent digits _

theorem printable_write (layout : Layout) {f : Format} (x : Binary f) :
    Printable (layout.write x).toList := by
  cases x with
  | nan => simp [Layout.write]
  | infinite negative => cases negative <;> simp [Layout.write]
  | finite negative units fits =>
    rw [Layout.write, String.toList_ofList, printable_append]
    exact ⟨by cases negative <;> simp, printable_magnitude layout _⟩

theorem printable_escapeChar (c : Char) : Printable (escapeChar c) := by
  have quad : ∀ n < 0x20, (hexQuad n).all (fun c => 0x20 ≤ c.toNat) = true := by decide
  fun_cases escapeChar c with
  | case8 _ _ _ _ _ _ _ control =>
    have code : Printable (hexQuad c.toNat) := fun d inside =>
      of_decide_eq_true (List.all_eq_true.mp (quad c.toNat control) d inside)
    simp [code]
  | case9 _ _ _ _ _ _ _ visible => simpa using visible
  | case1 | case2 | case3 | case4 | case5 | case6 | case7 => simp

theorem printable_quoteChars (text : String) : Printable (quoteChars text) := by
  have escaped : Printable (text.toList.flatMap escapeChar) := by
    intro c inside
    obtain ⟨raw, -, inside⟩ := List.mem_flatMap.mp inside
    exact printable_escapeChar raw c inside
  simp [quoteChars, escaped]

theorem printable_scalarChars (document : Json) : Printable (scalarChars document) := by
  cases document with
  | bool b => cases b <;> simp [scalarChars]
  | integer n => exact printable_integer n
  | real x =>
    rw [scalarChars]
    split
    · exact printable_write Layout.json x
    · simp
  | text s => exact printable_quoteChars s
  | null | list | object => simp [scalarChars]

@[simp] theorem printed_newLine (level : Nat) : Printed (newLine level) := by
  rw [newLine, printed_cons]
  exact ⟨.inl rfl, (printable_replicate _ (by decide)).printed⟩

@[simp] theorem printed_quoteChars (text : String) : Printed (quoteChars text) :=
  (printable_quoteChars text).printed

mutual

theorem printed_prettyChars : ∀ (level : Nat) (document : Json), Printed (document.prettyChars level)
  | level, .null => (printable_scalarChars .null).printed
  | level, .bool b => (printable_scalarChars (.bool b)).printed
  | level, .integer n => (printable_scalarChars (.integer n)).printed
  | level, .real x => (printable_scalarChars (.real x)).printed
  | level, .text s => (printable_scalarChars (.text s)).printed
  | level, .list [] => by simp [prettyChars]
  | level, .list (item :: rest) => by
    simp [prettyChars, printed_prettyItems (level + 1) (item :: rest)]
  | level, .object [] => by simp [prettyChars]
  | level, .object (field :: rest) => by
    simp [prettyChars, printed_prettyFields (level + 1) (field :: rest)]

theorem printed_prettyItems : ∀ (level : Nat) (items : List Json), Printed (prettyItems level items)
  | _, [] => printed_nil
  | level, [item] => printed_prettyChars level item
  | level, item :: next :: rest => by
    simp [prettyItems, printed_prettyChars level item, printed_prettyItems level (next :: rest)]

theorem printed_prettyFields : ∀ (level : Nat) (fields : List (String × Json)),
    Printed (prettyFields level fields)
  | _, [] => printed_nil
  | level, [(key, value)] => by simp [prettyFields, printed_prettyChars level value]
  | level, (key, value) :: next :: rest => by
    simp [prettyFields, printed_prettyChars level value, printed_prettyFields level (next :: rest)]

end

theorem getLast?_prettyChars_list (level : Nat) (items : List Json) :
    (prettyChars level (.list items)).getLast? = some ']' := by
  cases items <;> simp [prettyChars, List.getLast?_cons, List.getLast?_append]

theorem getLast?_prettyChars_object (level : Nat) (fields : List (String × Json)) :
    (prettyChars level (.object fields)).getLast? = some '\x7d' := by
  cases fields <;> simp [prettyChars, List.getLast?_cons, List.getLast?_append]

end FluentAssert.Json
