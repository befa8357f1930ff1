import FluentAssert.Proofs.Json.Scalar
import FluentAssert.Proofs.Text.Digits

/-! Documents without fractions are read back from their compact text. Of the fields of one key, the
last is read. -/
namespace FluentAssert.Json

open FluentAssert.Text

/-- All numbers are integers that are kept as such, and at most `depth` containers nest. -/
inductive Whole : Nat → Json → Prop where
  | null {depth : Nat} : Whole depth .null
  | bool {depth : Nat} (b : Bool) : Whole depth (.bool b)
  | integer {depth : Nat} {n : Int} : KeptInteger n → Whole depth (.integer n)
  | text {depth : Nat} (s : String) : Whole depth (.text s)
  | list {depth : Nat} {items : List Json} :
    (∀ item ∈ items, Whole depth item) → Whole (depth + 1) (.list items)
  | object {depth : Nat} {fields : List (String × Json)} :
    (∀ field ∈ fields, Whole depth field.2) → Whole (depth + 1) (.object fields)

mutual

/-- The document with its keys in order and one field for each. -/
def settled : Json → Json
  | .list items => .list (settledItems items)
  | .object fields => .object (Fields.ofEntries (settledFields fields))
  | scalar => scalar

def settledItems : List Json → List Json
  | [] => []
  | item :: rest => settled item :: settledItems rest

def settledFields : List (String × Json) → List (String × Json)
  | [] => []
  | (key, value) :: rest => (key, settled value) :: settledFields rest

end

def laterItems (items : List Json) : List Char := items.flatMap fun item => ',' :: compactChars item

theorem compactItems_cons (item : Json) (rest : List Json) :
    compactItems (item :: rest) = compactChars item ++ laterItems rest := by
  induction rest generalizing item with
  | nil => exact (List.append_nil _).symm
  | cons next rest ih =>
    rw [compactItems, ih]
    · rfl
    · exact List.cons_ne_nil _ _

def fieldChars (field : String × Json) : List Char :=
  quoteChars field.1 ++ ':' :: compactChars field.2

def laterFields (fields : List (String × Json)) : List Char :=
  fields.flatMap fun field => ',' :: fieldChars field

theorem compactFields_cons (field : String × Json) (rest : List (String × Json)) :
    compactFields (field :: rest) = fieldChars field ++ laterFields rest := by
  induction rest generalizing field with
  | nil => exact (List.append_nil _).symm
  | cons next rest ih =>
    rw [compactFields, ih]
    · simp only [laterFields, List.flatMap_cons, fieldChars, List.append_assoc, List.cons_append]
    · exact List.cons_ne_nil _ _

theorem length_separated {β : Type} (chars : β → List Char) (parts : List β) :
    parts.length ≤ (parts.flatMap fun part => ',' :: chars part).length := by
  induction parts with
  | nil => exact Nat.le_refl 0
  | cons part parts ih =>
    rw [List.flatMap_cons, List.length_append, List.length_cons, List.length_cons]
    omega

theorem length_compactItems (items : List Json) : items.length ≤ (compactItems items).length + 1 := by
  cases items with
  | nil => exact Nat.zero_le _
  | cons item rest =>
    have many : rest.length ≤ (laterItems rest).length := length_separated compactChars rest
    rw [compactItems_cons, List.length_append, List.length_cons]
    omega

theorem length_compactFields (fields : List (String × Json)) :
    fields.length ≤ (compactFields fields).length + 1 := by
  cases fields with
  | nil => exact Nat.zero_le _
  | cons field rest =>
    have many : rest.length ≤ (laterFields rest).length := length_separated fieldChars rest
    rw [compactFields_cons, List.length_append, List.length_cons]
    omega

def Opens (written : Bytes) : Prop := ∃ b rest, written = b :: rest ∧ ¬ Cursor.Blank b ∧ b ≠ 93

theorem opens_of_isDigit {c : Char} (digit : c.isDigit = true) (chars : List Char) :
    Opens (encode (c :: chars)) := by
  have bounds : 48 ≤ c.toNat ∧ c.toNat ≤ 57 := Char.isDigit_iff_toNat.mp digit
  have same : (UInt8.ofNat c.toNat).toNat = c.toNat := toNat_ofNat (by omega)
  have differ {b : UInt8} (low : b.toNat < 48 ∨ 57 < b.toNat) : UInt8.ofNat c.toNat ≠ b := by
    rintro rfl
    omega
  refine ⟨_, _, encode_cons (ascii_of_isDigit digit) chars, ?_, differ (by decide)⟩
  rintro (blank | blank | blank | blank) <;> exact differ (by decide) blank

theorem Whole.opens {depth : Nat} {document : Json} (whole : Whole depth document) :
    Opens (encode document.compactChars) := by
  have opening {c : Char} {chars : List Char} (ascii : c.toNat < 128)
      (visible : ¬ Cursor.Blank (UInt8.ofNat c.toNat) ∧ UInt8.ofNat c.toNat ≠ 93) :
      Opens (encode (c :: chars)) := ⟨_, _, encode_cons ascii chars, visible⟩
  cases whole with
  | null => exact opening (by decide) (by decide)
  | bool b => cases b <;> exact opening (by decide) (by decide)
  | text | list | object => exact opening (by decide) (by decide)
  | @integer _ n =>
    rcases integer_chars n with ⟨m, -, chars⟩ | ⟨m, -, -, chars⟩
    · obtain ⟨c, digits, same, -⟩ := toDigits_cons m
      have member : c ∈ Nat.toDigits 10 m := same ▸ List.mem_cons_self
      show Opens (encode (toString n).toList)
      rw [chars, same]
      exact opens_of_isDigit (Nat.isDigit_of_mem_toDigits (by decide) (by decide) member) digits
    · show Opens (encode (toString n).toList)
      rw [chars]
      exact opening (by decide) (by decide)

section

variable {item : Cursor → Read Json} {here : Cursor} {rest written : Bytes} {value : Json}
  {fuel : Nat}

theorem head_of_stands {b : UInt8} {more : Bytes} (stands : here.rest = b :: more) :
    here.peek? = some b := by
  rw [Cursor.peek?, stands]
  rfl

theorem visible_of_stands {b : UInt8} {more : Bytes} (stands : here.rest = b :: more)
    (visible : ¬ Cursor.Blank b) : here.skipBlanks = here := by
  apply Cursor.skipBlanks_still
  intro other member
  rw [stands] at member
  cases member
  exact visible

theorem ended_cons {b : UInt8} (h : b = 44 ∨ b = 58 ∨ b = 93 ∨ b = 125) (more : Bytes) :
    Ended (b :: more) := by
  intro other member
  cases member
  exact h

theorem readItems_close (first : Bool) (read : List Json) (stands : here.rest = 93 :: rest) :
    readItems item (fuel + 1) first read here = .ok (.list read.reverse, here.advance) := by
  rw [readItems, visible_of_stands stands (by decide)]
  simp only [head_of_stands stands, if_true]

theorem readItems_item (first : Bool) (read : List Json) (takes : Takes item written value)
    (opens : Opens written)
    (stands : here.rest = (if first then [] else [44]) ++ (written ++ rest)) (ended : Ended rest) :
    ∃ there, readItems item (fuel + 1) first read here =
      readItems item fuel false (value :: read) there ∧ there.rest = rest := by
  obtain ⟨b, more, same, visible, noEnd⟩ := opens
  cases first with
  | true =>
    have begins : here.rest = b :: (more ++ rest) := by rw [stands, same]; rfl
    obtain ⟨there, returns, left⟩ := takes here rest stands ended
    refine ⟨there, ?_, left⟩
    rw [readItems, visible_of_stands begins visible]
    simp only [head_of_stands begins, if_neg noEnd, if_true, pure_bind, returns]
    rfl
  | false =>
    have comma : here.rest = 44 :: (written ++ rest) := stands
    have after : here.advance.rest = written ++ rest := by rw [Cursor.advance_rest, comma]; rfl
    have begins : here.advance.rest = b :: (more ++ rest) := by rw [after, same]; rfl
    obtain ⟨there, returns, left⟩ := takes here.advance rest after ended
    refine ⟨there, ?_, left⟩
    rw [readItems, visible_of_stands comma (by decide)]
    have other : ¬ (44 : UInt8) = 93 := by decide
    simp only [head_of_stands comma, visible_of_stands begins visible, head_of_stands begins,
      if_neg noEnd, if_neg other, if_true, Bool.false_eq_true, if_false, pure_bind, returns]
    rfl

theorem encode_laterItems_cons (document : Json) (items : List Json) :
    encode (laterItems (document :: items)) =
      44 :: (encode document.compactChars ++ encode (laterItems items)) := by
  rw [laterItems, List.flatMap_cons, List.cons_append, encode_cons (by decide), encode_append]
  rfl

theorem ended_laterItems (items : List Json) (rest : Bytes) :
    Ended (encode (laterItems items) ++ 93 :: rest) := by
  cases items with
  | nil => exact ended_cons (by decide) _
  | cons document items =>
    rw [encode_laterItems_cons]
    exact ended_cons (by decide) _

theorem readItems_later {items : List Json}
    (takes : ∀ document ∈ items, Takes item (encode document.compactChars) document.settled ∧
      Opens (encode document.compactChars)) (read : List Json)
    (stands : here.rest = encode (laterItems items) ++ 93 :: rest) (enough : items.length ≤ fuel) :
    ∃ there, readItems item (fuel + 1) false read here =
      .ok (.list (read.reverse ++ settledItems items), there) ∧ there.rest = rest := by
  induction items generalizing here read fuel with
  | nil =>
    have closes : here.rest = 93 :: rest := stands
    refine ⟨here.advance, ?_, by rw [Cursor.advance_rest, closes]; rfl⟩
    rw [readItems_close false read closes, settledItems, List.append_nil]
  | cons document items ih =>
    obtain ⟨⟨first, opens⟩, others⟩ := List.forall_mem_cons.mp takes
    obtain ⟨fuel, rfl⟩ := Nat.exists_eq_add_one.mpr (Nat.zero_lt_of_lt enough)
    have comma : here.rest = (if false then [] else [44]) ++
        (encode document.compactChars ++ (encode (laterItems items) ++ 93 :: rest)) := by
      rw [stands, encode_laterItems_cons, List.cons_append, List.append_assoc]
      rfl
    obtain ⟨middle, one, left⟩ :=
      readItems_item false read first opens comma (ended_laterItems items rest)
    obtain ⟨there, returns, left'⟩ :=
      ih others (document.settled :: read) left (Nat.le_of_succ_le_succ enough)
    refine ⟨there, ?_, left'⟩
    rw [one, returns, List.reverse_cons, List.append_assoc, settledItems]
    rfl

theorem readItems_encode {items : List Json}
    (takes : ∀ document ∈ items, Takes item (encode document.compactChars) document.settled ∧
      Opens (encode document.compactChars))
    (stands : here.rest = encode (compactItems items) ++ 93 :: rest) (enough : items.length ≤ fuel) :
    ∃ there, readItems item (fuel + 1) true [] here =
      .ok (.list (settledItems items), there) ∧ there.rest = rest := by
  cases items with
  | nil =>
    have closes : here.rest = 93 :: rest := stands
    exact ⟨here.advance, readItems_close true [] closes, by rw [Cursor.advance_rest, closes]; rfl⟩
  | cons document items =>
    obtain ⟨⟨first, opens⟩, others⟩ := List.forall_mem_cons.mp takes
    obtain ⟨fuel, rfl⟩ := Nat.exists_eq_add_one.mpr (Nat.zero_lt_of_lt enough)
    have begins : here.rest = (if true then [] else [44]) ++
        (encode document.compactChars ++ (encode (laterItems items) ++ 93 :: rest)) := by
      rw [stands, compactItems_cons, encode_append, List.append_assoc]
      rfl
    obtain ⟨middle, one, left⟩ :=
      readItems_item true [] first opens begins (ended_laterItems items rest)
    obtain ⟨there, returns, left'⟩ :=
      readItems_later others [document.settled] left (Nat.le_of_succ_le_succ enough)
    exact ⟨there, one.trans returns, left'⟩

theorem takes_field (field : String × Json)
    (takes : Takes item (encode field.2.compactChars) field.2.settled) :
    Takes (readField item) (encode (fieldChars field)) (field.1, field.2.settled) := by
  intro here rest stands ended
  have quoted : here.rest = encode (quoteChars field.1) ++
      58 :: (encode field.2.compactChars ++ rest) := by
    rw [stands, fieldChars, encode_append, encode_cons (by decide), List.append_assoc]
    rfl
  obtain ⟨colon, key, behind⟩ := takes_string field.1 here _ quoted
  have after : colon.advance.rest = encode field.2.compactChars ++ rest := by
    rw [Cursor.advance_rest, behind]
    rfl
  obtain ⟨there, returns, left⟩ := takes colon.advance rest after ended
  refine ⟨there, ?_, left⟩
  rw [readField, key]
  simp only [bind, Except.bind, visible_of_stands behind (by decide),
    head_of_stands behind, if_true, returns]
  rfl

theorem readFields_close (first : Bool) (read : Fields Json) (stands : here.rest = 125 :: rest) :
    readFields item (fuel + 1) first read here = .ok (.object read, here.advance) := by
  rw [readFields, visible_of_stands stands (by decide)]
  simp only [head_of_stands stands, if_true]

theorem readFields_field (first : Bool) (read : Fields Json) (field : String × Json)
    (takes : Takes item (encode field.2.compactChars) field.2.settled)
    (stands : here.rest = (if first then [] else [44]) ++ (encode (fieldChars field) ++ rest))
    (ended : Ended rest) : ∃ there, readFields item (fuel + 1) first read here =
      readFields item fuel false (Fields.insert field.1 field.2.settled read) there ∧
        there.rest = rest := by
  obtain ⟨more, quote⟩ : ∃ more, encode (fieldChars field) = 34 :: more :=
    ⟨_, encode_cons (by decide) _⟩
  have visible : ¬ Cursor.Blank 34 := by decide
  have other : ¬ (34 : UInt8) = 125 := by decide
  have other' : ¬ (44 : UInt8) = 125 := by decide
  cases first with
  | true =>
    have begins : here.rest = 34 :: (more ++ rest) := by rw [stands, quote]; rfl
    obtain ⟨there, returns, left⟩ := takes_field field takes here rest stands ended
    refine ⟨there, ?_, left⟩
    rw [readFields, visible_of_stands begins visible]
    simp only [head_of_stands begins, if_neg other, if_true, pure_bind, returns]
    rfl
  | false =>
    have comma : here.rest = 44 :: (encode (fieldChars field) ++ rest) := stands
    have after : here.advance.rest = encode (fieldChars field) ++ rest := by
      rw [Cursor.advance_rest, comma]
      rfl
    have begins : here.advance.rest = 34 :: (more ++ rest) := by rw [after, quote]; rfl
    obtain ⟨there, returns, left⟩ := takes_field field takes here.advance rest after ended
    refine ⟨there, ?_, left⟩
    rw [readFields, visible_of_stands comma (by decide)]
    simp only [head_of_stands comma, visible_of_stands begins visible, head_of_stands begins,
      if_neg other', if_true, Bool.false_eq_true, if_false, pure_bind, returns]
    rfl

theorem encode_laterFields_cons (field : String × Json) (fields : List (String × Json)) :
    encode (laterFields (field :: fields)) =
      44 :: (encode (fieldChars field) ++ encode (laterFields fields)) := by
  rw [laterFields, List.flatMap_cons, List.cons_append, encode_cons (by decide), encode_append]
  rfl

theorem ended_laterFields (fields : List (String × Json)) (rest : Bytes) :
    Ended (encode (laterFields fields) ++ 125 :: rest) := by
  cases fields with
  | nil => exact ended_cons (by decide) _
  | cons field fields =>
    rw [encode_laterFields_cons]
    exact ended_cons (by decide) _

theorem readFields_later {fields : List (String × Json)}
    (takes : ∀ field ∈ fields, Takes item (encode field.2.compactChars) field.2.settled)
    (read : Fields Json) (stands : here.rest = encode (laterFields fields) ++ 125 :: rest)
    (enough : fields.length ≤ fuel) : ∃ there, readFields item (fuel + 1) false read here =
      .ok (.object ((settledFields fields).foldl
        (fun fields (key, value) => Fields.insert key value fields) read), there) ∧
      there.rest = rest := by
  induction fields generalizing here read fuel with
  | nil =>
    have closes : here.rest = 125 :: rest := stands
    exact ⟨here.advance, readFields_close false read closes,
      by rw [Cursor.advance_rest, closes]; rfl⟩
  | cons field fields ih =>
    obtain ⟨first, others⟩ := List.forall_mem_cons.mp takes
    obtain ⟨fuel, rfl⟩ := Nat.exists_eq_add_one.mpr (Nat.zero_lt_of_lt enough)
    have comma : here.rest = (if false then [] else [44]) ++
        (encode (fieldChars field) ++ (encode (laterFields fields) ++ 125 :: rest)) := by
      rw [stands, encode_laterFields_cons, List.cons_append, List.append_assoc]
      rfl
    obtain ⟨middle, one, left⟩ :=
      readFields_field false read field first comma (ended_laterFields fields rest)
    obtain ⟨there, returns, left'⟩ := ih others
      (Fields.insert field.1 field.2.settled read) left (Nat.le_of_succ_le_succ enough)
    exact ⟨there, one.trans returns, left'⟩

theorem readFields_encode {fields : List (String × Json)}
    (takes : ∀ field ∈ fields, Takes item (encode field.2.compactChars) field.2.settled)
    (stands : here.rest = encode (compactFields fields) ++ 125 :: rest)
    (enough : fields.length ≤ fuel) : ∃ there, readFields item (fuel + 1) true [] here =
      .ok (.object (Fields.ofEntries (settledFields fields)), there) ∧ there.rest = rest := by
  cases fields with
  | nil =>
    have closes : here.rest = 125 :: rest := stands
    exact ⟨here.advance, readFields_close true [] closes, by rw [Cursor.advance_rest, closes]; rfl⟩
  | cons field fields =>
    obtain ⟨first, others⟩ := List.forall_mem_cons.mp takes
    obtain ⟨fuel, rfl⟩ := Nat.exists_eq_add_one.mpr (Nat.zero_lt_of_lt enough)
    have begins : here.rest = (if true then [] else [44]) ++
        (encode (fieldChars field) ++ (encode (laterFields fields) ++ 125 :: rest)) := by
      rw [stands, compactFields_cons, encode_append, List.append_assoc]
      rfl
    -- A later field of the same key replaces the one that was read.
    obtain ⟨middle, one, left⟩ :=
      readFields_field true [] field first begins (ended_laterFields fields rest)
    obtain ⟨there, returns, left'⟩ := readFields_later others
      (Fields.insert field.1 field.2.settled []) left (Nat.le_of_succ_le_succ enough)
    exact ⟨there, one.trans returns, left'⟩

end

section

variable {depth : Nat} {here : Cursor} {rest : Bytes}

theorem takes_known {value : Json} {letter : Char} {word : List Char}
    (ascii : (letter :: word).all (fun c => c.toNat < 128) = true)
    (visible : ¬ Cursor.Blank (UInt8.ofNat letter.toNat))
    (known : ∀ here : Cursor, here.skipBlanks = here →
      here.peek? = some (UInt8.ofNat letter.toNat) →
      readValue depth here = readWord value word here.advance) :
    Takes (readValue depth) (encode (letter :: word)) value := by
  intro here rest stands ended
  have each : ∀ c ∈ letter :: word, c.toNat < 128 := fun c member =>
    of_decide_eq_true (List.all_eq_true.mp ascii c member)
  obtain ⟨first, others⟩ := List.forall_mem_cons.mp each
  rw [encode_cons first] at stands
  have after : here.advance.rest = encode word ++ rest := by rw [Cursor.advance_rest, stands]; rfl
  obtain ⟨there, returns, left⟩ := takes_word value word others here.advance rest after ended
  refine ⟨there, ?_, left⟩
  rw [known here (visible_of_stands stands visible) (head_of_stands stands), returns]

theorem readValue_digit {c : Char} (digit : c.isDigit = true) (still : here.skipBlanks = here)
    (next : here.peek? = some (UInt8.ofNat c.toNat)) :
    readValue depth here = readNumber false here := by
  have ascii : c.toNat < 128 := ascii_of_isDigit digit
  have back : Char.ofNat (UInt8.ofNat c.toNat).toNat = c := by
    rw [toNat_ofNat (by omega), Char.ofNat_toNat]
  rw [readValue.eq_def]
  simp only [still, next, back]
  -- The other first bytes that the reader knows are no digits.
  split
  case h_8 => exact if_pos digit
  all_goals exact absurd digit (by decide)

theorem takes_integer {n : Int} (kept : KeptInteger n) :
    Takes (readValue depth) (encode (toString n).toList) (.integer n) := by
  obtain ⟨low, high⟩ := kept
  have limit : significandLimit = 18446744073709551615 := rfl
  intro here rest stands ended
  rcases integer_chars n with ⟨m, rfl, chars⟩ | ⟨m, nonzero, rfl, chars⟩
  · have small : m ≤ significandLimit := by
      have below : (m : Int) < 18446744073709551616 := high
      omega
    rw [chars] at stands
    obtain ⟨there, returns, left⟩ :=
      takes_number false small rfl (fun h => absurd h (by decide)) here rest stands ended
    refine ⟨there, ?_, left⟩
    obtain ⟨c, digits, same, -⟩ := toDigits_cons m
    have member : c ∈ Nat.toDigits 10 m := same ▸ List.mem_cons_self
    have digit : c.isDigit = true := Nat.isDigit_of_mem_toDigits (by decide) (by decide) member
    obtain ⟨b, more, begins, visible, -⟩ := opens_of_isDigit digit digits
    rw [encode_cons (ascii_of_isDigit digit)] at begins
    obtain ⟨rfl, -⟩ := List.cons.inj begins
    rw [same, encode_cons (ascii_of_isDigit digit)] at stands
    rw [readValue_digit digit (visible_of_stands stands visible) (head_of_stands stands), returns]
    rfl
  · have small : m ≤ 9223372036854775808 := by
      have above : -9223372036854775808 ≤ (-m : Int) := low
      omega
    rw [chars, encode_cons (by decide)] at stands
    have after : here.advance.rest = encode (Nat.toDigits 10 m) ++ rest := by
      rw [Cursor.advance_rest, stands]
      rfl
    obtain ⟨there, returns, left⟩ := takes_number true (by omega) rfl
      (fun _ => ⟨nonzero, small⟩) here.advance rest after ended
    refine ⟨there, ?_, left⟩
    have still : here.skipBlanks = here := visible_of_stands stands (by decide)
    rw [readValue.eq_def]
    simp only [still, head_of_stands stands]
    exact returns

/-- A document without fractions is read from its text wherever the text stands, with its keys in
order. -/
theorem Whole.takes {document : Json} (whole : Whole depth document) :
    Takes (readValue depth) (encode document.compactChars) document.settled := by
  induction whole with
  | null =>
    refine takes_known (by decide) (by decide) fun here still next => ?_
    rw [readValue.eq_def]
    simp only [still, next]
    rfl
  | bool b =>
    cases b with
    | true =>
      refine takes_known (by decide) (by decide) fun here still next => ?_
      rw [readValue.eq_def]
      simp only [still, next]
      rfl
    | false =>
      refine takes_known (by decide) (by decide) fun here still next => ?_
      rw [readValue.eq_def]
      simp only [still, next]
      rfl
  | integer kept => exact takes_integer kept
  | text s =>
    intro here rest stands ended
    obtain ⟨there, returns, left⟩ := takes_string s here rest stands
    refine ⟨there, ?_, left⟩
    have begins : here.rest = 34 :: _ := stands
    have still : here.skipBlanks = here := visible_of_stands begins (by decide)
    rw [readValue.eq_def]
    simp only [still, head_of_stands begins]
    show (readString here.advance).map _ = _
    rw [returns]
    rfl
  | @list depth items each ih =>
    intro here rest stands ended
    have begins : here.rest = 91 :: (encode (compactItems items) ++ 93 :: rest) := by
      rw [stands, compactChars, encode_cons (by decide), encode_append, List.cons_append,
        List.append_assoc]
      rfl
    have after : here.advance.rest = encode (compactItems items) ++ 93 :: rest := by
      rw [Cursor.advance_rest, begins]
      rfl
    -- The fuel is the length of the text, in which each item has its comma or a bracket.
    have enough : items.length ≤ here.rest.length := by
      have long := length_encode (compactItems items)
      have many := length_compactItems items
      rw [begins, List.length_cons, List.length_append]
      omega
    obtain ⟨there, returns, left⟩ :=
      readItems_encode (fun item member => ⟨ih item member, (each item member).opens⟩) after enough
    refine ⟨there, ?_, left⟩
    have still : here.skipBlanks = here := visible_of_stands begins (by decide)
    rw [readValue.eq_def]
    simp only [still, head_of_stands begins]
    exact returns
  | @object depth fields each ih =>
    intro here rest stands ended
    have begins : here.rest = 123 :: (encode (compactFields fields) ++ 125 :: rest) := by
      rw [stands, compactChars, encode_cons (by decide), encode_append, List.cons_append,
        List.append_assoc]
      rfl
    have after : here.advance.rest = encode (compactFields fields) ++ 125 :: rest := by
      rw [Cursor.advance_rest, begins]
      rfl
    have enough : fields.length ≤ here.rest.length := by
      have long := length_encode (compactFields fields)
      have many := length_compactFields fields
      rw [begins, List.length_cons, List.length_append]
      omega
    obtain ⟨there, returns, left⟩ := readFields_encode ih after enough
    refine ⟨there, ?_, left⟩
    have still : here.skipBlanks = here := visible_of_stands begins (by decide)
    rw [readValue.eq_def]
    simp only [still, head_of_stands begins]
    exact returns

end

/-- A document without fractions is read back from its text, with its keys in order. -/
theorem read_compact {document : Json} (whole : Whole depthLimit document) :
    read (encode document.compactChars) = .ok document.settled := by
  have ended : Ended [] := fun _ member => nomatch member
  obtain ⟨there, returns, left⟩ :=
    whole.takes (.start (encode document.compactChars)) [] (List.append_nil _).symm ended
  have still : there.skipBlanks = there := Cursor.skipBlanks_still fun b member => by
    rw [left] at member
    cases member
  rw [read, readDeep, returns]
  simp only [bind, Except.bind, still, left, List.isEmpty_nil, if_true]
  rfl

end FluentAssert.Json
