import FluentAssert.Json.Reader
import FluentAssert.Json.Writer
import FluentAssert.Proofs.Text.Utf8

/-! The texts of words, whole numbers and strings are read back as what they were written from. A
reader takes just the bytes of the text and leaves what follows. -/
namespace FluentAssert.Json

open FluentAssert.Text

variable {α : Type}

def encode (chars : List Char) : Bytes := chars.flatMap String.utf8EncodeChar

@[simp] theorem encode_nil : encode [] = [] := rfl

@[simp] theorem encode_append (chars more : List Char) :
    encode (chars ++ more) = encode chars ++ encode more := List.flatMap_append

theorem encode_cons {c : Char} (ascii : c.toNat < 128) (chars : List Char) :
    encode (c :: chars) = UInt8.ofNat c.toNat :: encode chars := by
  have one : String.utf8EncodeChar c = [UInt8.ofNat c.toNat] := if_pos (Nat.le_of_lt_succ ascii)
  rw [encode, List.flatMap_cons, one]
  rfl

theorem length_encode (chars : List Char) : chars.length ≤ (encode chars).length := by
  induction chars with
  | nil => exact Nat.le_refl 0
  | cons c chars ih =>
    have some : 0 < (String.utf8EncodeChar c).length :=
      List.length_pos_iff.mpr (String.utf8EncodeChar_ne_nil)
    rw [encode, List.flatMap_cons, List.length_append]
    rw [encode] at ih
    simp only [List.length_cons]
    omega

namespace Cursor

variable {here : Cursor} {rest : Bytes} {b : UInt8}

@[simp] theorem advance_rest (here : Cursor) : here.advance.rest = here.rest.tail := by
  unfold advance
  split
  · rename_i none
    rw [none]
    rfl
  · rename_i some
    rw [some]
    split <;> rfl

def Blank (b : UInt8) : Prop := b = 32 ∨ b = 10 ∨ b = 9 ∨ b = 13

instance (b : UInt8) : Decidable (Blank b) := inferInstanceAs (Decidable (_ ∨ _ ∨ _ ∨ _))

theorem skipBlanks_still (h : ∀ b ∈ here.rest.head?, ¬ Blank b) : here.skipBlanks = here := by
  unfold skipBlanks
  cases some : here.rest with
  | nil => rfl
  | cons b rest => exact if_neg (h b (by rw [some]; rfl))

theorem peekChar_cons {c : Char} (ascii : c.toNat < 128)
    (h : here.rest = UInt8.ofNat c.toNat :: rest) : here.peekChar = c := by
  rw [peekChar, h]
  show Char.ofNat (UInt8.ofNat c.toNat).toNat = c
  rw [toNat_ofNat (by omega), Char.ofNat_toNat]

end Cursor

/-- Bytes that can follow a value: nothing, or what separates and closes. -/
def Ended (rest : Bytes) : Prop := ∀ b ∈ rest.head?, b = 44 ∨ b = 58 ∨ b = 93 ∨ b = 125

/-- Where some text stands and an end follows, the reader gives this value and leaves the end. -/
def Takes (reader : Cursor → Read α) (written : Bytes) (a : α) : Prop :=
  ∀ (here : Cursor) (rest : Bytes), here.rest = written ++ rest → Ended rest →
    ∃ there, reader here = .ok (a, there) ∧ there.rest = rest

theorem takes_word (value : Json) (word : List Char) (ascii : ∀ c ∈ word, c.toNat < 128) :
    Takes (readWord value word) (encode word) value := by
  induction word with
  | nil => exact fun here rest stands _ => ⟨here, rfl, stands⟩
  | cons c word ih =>
    intro here rest stands ended
    obtain ⟨first, others⟩ := List.forall_mem_cons.mp ascii
    rw [encode_cons first] at stands
    have next : here.peek? = some (UInt8.ofNat c.toNat) := by rw [Cursor.peek?, stands]; rfl
    have same : (UInt8.ofNat c.toNat).toNat = c.toNat := toNat_ofNat (by omega)
    have after : here.advance.rest = encode word ++ rest := by rw [Cursor.advance_rest, stands]; rfl
    obtain ⟨there, returns, left⟩ := ih others here.advance rest after ended
    refine ⟨there, ?_, left⟩
    rw [readWord, next]
    simp only [same, if_true, returns]

theorem ascii_of_isDigit {c : Char} (digit : c.isDigit = true) : c.toNat < 128 := by
  have bounds : 48 ≤ c.toNat ∧ c.toNat ≤ 57 := Char.isDigit_iff_toNat.mp digit
  omega

section

variable {here : Cursor} {rest : Bytes}

theorem digitAt_cons {c : Char} (digit : c.isDigit = true)
    (stands : here.rest = UInt8.ofNat c.toNat :: rest) :
    digitAt here = some (c.toNat - '0'.toNat) := by
  rw [digitAt, Cursor.peekChar_cons (ascii_of_isDigit digit) stands, if_pos digit]

theorem peekChar_ended (ended : Ended here.rest) : here.peekChar.isDigit = false ∧
    here.peekChar ≠ '.' ∧ here.peekChar ≠ 'e' ∧ here.peekChar ≠ 'E' := by
  unfold Cursor.peekChar
  cases some : here.rest with
  | nil => decide
  | cons b rest =>
    rcases ended b (by rw [some]; rfl) with rfl | rfl | rfl | rfl <;> (dsimp only; decide)

theorem digitAt_ended (ended : Ended here.rest) : digitAt here = none := by
  rw [digitAt, (peekChar_ended ended).1]
  rfl

theorem le_ofDigitChars (digits : List Char) (n : Nat) : n ≤ Nat.ofDigitChars 10 digits n := by
  induction digits generalizing n with
  | nil => exact Nat.le_refl n
  | cons c digits ih =>
    rw [Nat.ofDigitChars_cons]
    have further := ih (10 * n + (c.toNat - '0'.toNat))
    omega

theorem wholeDigits_encode {digits : List Char} (all : ∀ c ∈ digits, c.isDigit = true)
    {fuel significand : Nat} (enough : digits.length ≤ fuel)
    (bound : Nat.ofDigitChars 10 digits significand ≤ significandLimit)
    (stands : here.rest = encode digits ++ rest) (ended : Ended rest) :
    ∃ there, wholeDigits fuel significand 0 here =
      (Nat.ofDigitChars 10 digits significand, 0, there) ∧ there.rest = rest := by
  induction digits generalizing fuel significand here with
  | nil =>
    have none : digitAt here = none := digitAt_ended (stands ▸ ended)
    cases fuel with
    | zero => exact ⟨here, rfl, stands⟩
    | succ fuel => exact ⟨here, by rw [wholeDigits, none]; rfl, stands⟩
  | cons c digits ih =>
    obtain ⟨digit, others⟩ := List.forall_mem_cons.mp all
    cases fuel with
    | zero => exact absurd enough (Nat.not_succ_le_zero _)
    | succ fuel =>
      rw [encode_cons (ascii_of_isDigit digit)] at stands
      rw [Nat.ofDigitChars_cons] at bound ⊢
      -- The value only grows with its digits, so the bound on all of them holds of the first ones.
      have held : 10 * significand + (c.toNat - '0'.toNat) ≤ significandLimit :=
        Nat.le_trans (le_ofDigitChars digits _) bound
      have after : here.advance.rest = encode digits ++ rest := by
        rw [Cursor.advance_rest, stands]
        rfl
      obtain ⟨there, returns, left⟩ := ih others (Nat.le_of_succ_le_succ enough) bound after
      refine ⟨there, ?_, left⟩
      rw [wholeDigits, digitAt_cons digit stands]
      simp only [true_and, if_pos held, returns]

end

theorem toDigits_cons (n : Nat) : ∃ c digits, Nat.toDigits 10 n = c :: digits ∧
    (c.toNat - '0'.toNat = 0 → n = 0 ∧ digits = []) := by
  -- Without its last digit a number begins as before, down to a single digit.
  induction n using Nat.strongRecOn with
  | ind n ih =>
    by_cases small : n < 10
    · refine ⟨n.digitChar, [], Nat.toDigits_of_lt_base small, fun zero => ⟨?_, rfl⟩⟩
      have table : ∀ m < 10, m.digitChar.toNat - '0'.toNat = 0 → m = 0 := by decide
      exact table n small zero
    · have large : 10 ≤ n := Nat.le_of_not_lt small
      obtain ⟨c, digits, same, zero⟩ := ih (n / 10) (by omega)
      refine ⟨c, digits ++ [(n % 10).digitChar], ?_, fun none => ?_⟩
      · rw [Nat.toDigits_of_base_le (by decide) large, same]
        rfl
      · have := (zero none).1
        omega

theorem takes_number {n : Nat} (negative : Bool) {value : Json} (small : n ≤ significandLimit)
    (is : value = if negative then .integer (-n) else .integer n)
    (kept : negative = true → n ≠ 0 ∧ n ≤ Nat.pow 2 63) :
    Takes (readNumber negative) (encode (Nat.toDigits 10 n)) value := by
  intro here rest stands ended
  have all (c : Char) (member : c ∈ Nat.toDigits 10 n) : c.isDigit = true :=
    Nat.isDigit_of_mem_toDigits (by decide) (by decide) member
  have whole : Nat.ofDigitChars 10 (Nat.toDigits 10 n) 0 = n := Nat.ofDigitChars_ten_toDigits
  obtain ⟨c, digits, same, zero⟩ := toDigits_cons n
  rw [same] at all stands whole
  obtain ⟨digit, others⟩ := List.forall_mem_cons.mp all
  rw [encode_cons (ascii_of_isDigit digit)] at stands
  have next : here.peek? = some (UInt8.ofNat c.toNat) := by rw [Cursor.peek?, stands]; rfl
  have after : here.advance.rest = encode digits ++ rest := by
    rw [Cursor.advance_rest, stands]
    rfl
  have finish (there : Cursor) (left : there.rest = rest) :
      readAfterWhole negative n 0 there = .ok (value, there) := by
    obtain ⟨-, point, mark, mark'⟩ := peekChar_ended (left ▸ ended : Ended there.rest)
    cases negative with
    | false => simp [readAfterWhole, point, mark, mark', is]
    | true =>
      obtain ⟨nonzero, fits⟩ := kept rfl
      have held : ¬ (n = 0 ∨ Nat.pow 2 63 < n) := by omega
      simp only [readAfterWhole, if_neg point, mark, mark', or_self, if_false, if_neg held, is,
        if_true, ne_eq, not_true_eq_false]
  have body : readNumber negative here =
      if c.toNat - '0'.toNat = 0 then
        if (digitAt here.advance).isSome then here.advance.failNext .badNumber
        else readAfterWhole negative 0 0 here.advance
      else
        let taken := wholeDigits here.rest.length (c.toNat - '0'.toNat) 0 here.advance
        readAfterWhole negative taken.1 taken.2.1 taken.2.2 := by
    rw [readNumber, next, digitAt_cons digit stands]
  -- The reader lets no digit follow a zero, so that zero never comes to the loop over digits.
  by_cases leading : c.toNat - '0'.toNat = 0
  · obtain ⟨rfl, rfl⟩ := zero leading
    have none : digitAt here.advance = none := digitAt_ended (after ▸ ended)
    refine ⟨here.advance, ?_, after⟩
    rw [body, if_pos leading, none]
    exact finish here.advance after
  · rw [Nat.ofDigitChars_cons, Nat.mul_zero, Nat.zero_add] at whole
    have enough : digits.length ≤ here.rest.length := by
      have long := length_encode digits
      rw [stands, List.cons_append, List.length_cons, List.length_append]
      omega
    obtain ⟨there, taken, left⟩ := wholeDigits_encode others enough (whole ▸ small) after ended
    refine ⟨there, ?_, left⟩
    rw [body, if_neg leading, taken, whole]
    exact finish there left

/-- Reading a string goes on behind some bytes of it, with other bytes that were read. -/
def Reaches (fuel : Nat) (read : Bytes) (here : Cursor) (cost : Nat) (bytes rest : Bytes) : Prop :=
  ∃ fuel' there, readStringFrom fuel read here = readStringFrom fuel' (bytes.reverse ++ read) there ∧
    there.rest = rest ∧ fuel ≤ fuel' + cost

section

variable {here : Cursor} {rest bytes : Bytes} {fuel : Nat} {read : Bytes}

theorem reaches_plain (plain : ∀ b ∈ bytes, b ≠ 34 ∧ b ≠ 92 ∧ ¬ b < 32)
    (stands : here.rest = bytes ++ rest) (enough : bytes.length ≤ fuel) :
    Reaches fuel read here bytes.length bytes rest := by
  induction bytes generalizing here fuel read with
  | nil => exact ⟨fuel, here, rfl, stands, Nat.le_refl _⟩
  | cons b bytes ih =>
    obtain ⟨⟨quote, escape, control⟩, others⟩ := List.forall_mem_cons.mp plain
    cases fuel with
    | zero => exact absurd enough (Nat.not_succ_le_zero _)
    | succ fuel =>
      have after : here.advance.rest = bytes ++ rest := by
        rw [Cursor.advance_rest, stands]
        rfl
      have reached : Reaches fuel (b :: read) here.advance bytes.length bytes rest :=
        ih others after (Nat.le_of_succ_le_succ enough)
      obtain ⟨fuel', there, same, left, spent⟩ := reached
      refine ⟨fuel', there, ?_, left, ?_⟩
      · rw [readStringFrom, stands]
        simp only [List.cons_append, if_neg quote, if_neg escape, if_neg control, same,
          List.reverse_cons, List.append_assoc, List.nil_append]
      · rw [List.length_cons]
        omega

theorem reaches_escape {written : Bytes} (stands : here.rest = 92 :: (written ++ rest))
    (escape : ∀ after : Cursor, after.rest = written ++ rest →
      ∃ there, readEscape after = .ok (bytes, there) ∧ there.rest = rest) (enough : 0 < fuel) :
    Reaches fuel read here (written.length + 1) bytes rest := by
  cases fuel with
  | zero => exact absurd enough (Nat.lt_irrefl 0)
  | succ fuel =>
    have after : here.advance.rest = written ++ rest := by
      rw [Cursor.advance_rest, stands]
      rfl
    obtain ⟨there, taken, left⟩ := escape here.advance after
    refine ⟨fuel, there, ?_, left, by omega⟩
    rw [readStringFrom, stands]
    simp only [show ¬ (92 : UInt8) = 34 by decide, if_false, if_true, taken]

theorem readEscape_code {n : Nat} (small : n < 32)
    (stands : here.rest = encode ('u' :: hexQuad n) ++ rest) :
    ∃ there, readEscape here = .ok (String.utf8EncodeChar (Char.ofNat n), there) ∧
      there.rest = rest := by
  have quad : ∀ n < 32, encode ('u' :: hexQuad n) =
      [117, 48, 48, UInt8.ofNat (n / 16).digitChar.toNat, UInt8.ofNat (n % 16).digitChar.toNat] := by
    decide
  have digit : ∀ n < 16, hexDigit? (UInt8.ofNat n.digitChar.toNat) = some n := by decide
  have high := digit (n / 16) (by omega)
  have low := digit (n % 16) (by omega)
  rw [quad n small] at stands
  have next : here.peek? = some 117 := by rw [Cursor.peek?, stands]; rfl
  have after : here.advance.rest = 48 :: 48 :: UInt8.ofNat (n / 16).digitChar.toNat ::
      UInt8.ofNat (n % 16).digitChar.toNat :: rest := by
    rw [Cursor.advance_rest, stands]
    rfl
  have zero : hexDigit? 48 = some 0 := by decide
  have code : 4096 * 0 + 256 * 0 + 16 * (n / 16) + n % 16 = n := by omega
  have taken : readQuad here.advance = .ok (n, here.advance.advanceBy 4) := by
    rw [readQuad, after]
    simp only [zero, high, low, code]
  have left : (here.advance.advanceBy 4).rest = rest := by
    simp [Cursor.advanceBy, stands]
  refine ⟨_, ?_, left⟩
  have lone : ¬ (0xDC00 ≤ n ∧ n ≤ 0xDFFF) := by omega
  have single : n < 0xD800 ∨ 0xDBFF < n := by omega
  rw [readEscape, next]
  show readCodeEscape here.advance = _
  rw [readCodeEscape, taken]
  simp only [bind, Except.bind, if_neg lone, if_pos single]
  rfl

def letters : List (UInt8 × UInt8) :=
  [(34, 34), (92, 92), (110, 10), (114, 13), (116, 9), (98, 8), (102, 12)]

theorem readEscape_letter {letter byte : UInt8} (member : (letter, byte) ∈ letters)
    (stands : here.rest = letter :: rest) :
    ∃ there, readEscape here = .ok ([byte], there) ∧ there.rest = rest := by
  have next : here.peek? = some letter := by rw [Cursor.peek?, stands]; rfl
  have left : here.advance.rest = rest := by rw [Cursor.advance_rest, stands]; rfl
  refine ⟨here.advance, ?_, left⟩
  rw [readEscape, next]
  simp only [letters, List.mem_cons, Prod.mk.injEq, List.not_mem_nil, or_false] at member
  rcases member with ⟨rfl, rfl⟩ | ⟨rfl, rfl⟩ | ⟨rfl, rfl⟩ | ⟨rfl, rfl⟩ | ⟨rfl, rfl⟩ | ⟨rfl, rfl⟩ |
    ⟨rfl, rfl⟩ <;> rfl

theorem escapeChar_cases (c : Char) :
    (∃ letter byte, (letter, byte) ∈ letters ∧ encode (escapeChar c) = [92, letter] ∧
      String.utf8EncodeChar c = [byte]) ∨
    (c.toNat < 32 ∧ encode (escapeChar c) = 92 :: encode ('u' :: hexQuad c.toNat)) ∨
    (encode (escapeChar c) = String.utf8EncodeChar c ∧
      ∀ b ∈ String.utf8EncodeChar c, b ≠ 34 ∧ b ≠ 92 ∧ ¬ b < 32) := by
  by_cases quote : c = '"'
  · exact .inl ⟨34, 34, by decide, by rw [quote]; decide, by rw [quote]; decide⟩
  by_cases backslash : c = '\\'
  · exact .inl ⟨92, 92, by decide, by rw [backslash]; decide, by rw [backslash]; decide⟩
  by_cases newLine : c = '\n'
  · exact .inl ⟨110, 10, by decide, by rw [newLine]; decide, by rw [newLine]; decide⟩
  by_cases return' : c = '\r'
  · exact .inl ⟨114, 13, by decide, by rw [return']; decide, by rw [return']; decide⟩
  by_cases tab : c = '\t'
  · exact .inl ⟨116, 9, by decide, by rw [tab]; decide, by rw [tab]; decide⟩
  by_cases backspace : c = '\x08'
  · exact .inl ⟨98, 8, by decide, by rw [backspace]; decide, by rw [backspace]; decide⟩
  by_cases feed : c = '\x0c'
  · exact .inl ⟨102, 12, by decide, by rw [feed]; decide, by rw [feed]; decide⟩
  rw [escapeChar, if_neg quote, if_neg backslash, if_neg newLine, if_neg return', if_neg tab,
    if_neg backspace, if_neg feed]
  by_cases control : c.toNat < 0x20
  · rw [if_pos control]
    exact .inr (.inl ⟨control, encode_cons (by decide) _⟩)
  · rw [if_neg control]
    refine .inr (.inr ⟨List.append_nil _, fun b member => ?_⟩)
    -- A longer character has no byte among those with a meaning in strings.
    by_cases ascii : c.toNat < 128
    · have one : String.utf8EncodeChar c = [UInt8.ofNat c.toNat] :=
        if_pos (Nat.le_of_lt_succ ascii)
      rw [one, List.mem_singleton] at member
      have same : b.toNat = c.toNat := member ▸ toNat_ofNat (by omega)
      have differ {d : Char} (other : c ≠ d) : b.toNat ≠ d.toNat :=
        fun equal => other (Char.toNat_inj.mp (same.symm.trans equal))
      refine ⟨fun h => differ quote (h ▸ rfl), fun h => differ backslash (h ▸ rfl), ?_⟩
      rw [UInt8.lt_iff_toNat_lt, same]
      exact control
    · have high := high_of_mem (Nat.le_of_not_lt ascii) member
      refine ⟨?_, ?_, ?_⟩
      · rintro rfl
        exact absurd high (by decide)
      · rintro rfl
        exact absurd high (by decide)
      · rw [UInt8.lt_iff_toNat_lt]
        show ¬ b.toNat < 32
        omega

theorem reaches_char (c : Char) (stands : here.rest = encode (escapeChar c) ++ rest)
    (enough : (encode (escapeChar c)).length ≤ fuel) :
    Reaches fuel read here (encode (escapeChar c)).length (String.utf8EncodeChar c) rest := by
  rcases escapeChar_cases c with ⟨letter, byte, member, written, bytes⟩ | ⟨small, written⟩ |
    ⟨written, plain⟩
  · rw [written] at stands enough ⊢
    rw [bytes]
    have escape : ∀ after : Cursor, after.rest = [letter] ++ rest →
        ∃ there, readEscape after = .ok ([byte], there) ∧ there.rest = rest :=
      fun after behind => readEscape_letter member behind
    exact reaches_escape stands escape (Nat.lt_of_lt_of_le Nat.zero_lt_two enough)
  · rw [written] at stands enough ⊢
    have escape : ∀ after : Cursor, after.rest = encode ('u' :: hexQuad c.toNat) ++ rest →
        ∃ there, readEscape after = .ok (String.utf8EncodeChar c, there) ∧ there.rest = rest := by
      intro after behind
      have taken := readEscape_code small behind
      rwa [Char.ofNat_toNat] at taken
    exact reaches_escape stands escape (Nat.lt_of_lt_of_le (Nat.succ_pos _) enough)
  · rw [written] at stands enough ⊢
    exact reaches_plain plain stands enough

theorem readStringFrom_encode (before chars : List Char)
    (stands : here.rest = encode (chars.flatMap escapeChar) ++ 34 :: rest)
    (enough : (encode (chars.flatMap escapeChar)).length < fuel) :
    ∃ there, readStringFrom fuel (encode before).reverse here =
      .ok (String.ofList (before ++ chars), there) ∧ there.rest = rest := by
  -- The bytes read so far are those of a text, which is what the closing quote decodes.
  induction chars generalizing before fuel here with
  | nil =>
    cases fuel with
    | zero => exact absurd enough (Nat.not_lt_zero _)
    | succ fuel =>
      have left : here.advance.rest = rest := by
        rw [Cursor.advance_rest, stands]
        rfl
      refine ⟨here.advance, ?_, left⟩
      have decoded : decodeUtf8 (encode before) = .ok (String.ofList before) :=
        decodeUtf8_encode before
      rw [readStringFrom, stands]
      simp only [List.flatMap_nil, encode_nil, List.nil_append, if_true, List.reverse_reverse,
        decoded, List.append_nil]
  | cons c chars ih =>
    rw [List.flatMap_cons, encode_append, List.append_assoc] at stands
    rw [List.flatMap_cons, encode_append, List.length_append] at enough
    have reached : Reaches fuel (encode before).reverse here (encode (escapeChar c)).length
        (String.utf8EncodeChar c) (encode (chars.flatMap escapeChar) ++ 34 :: rest) :=
      reaches_char c stands (by omega)
    obtain ⟨fuel', middle, same, left, spent⟩ := reached
    have read : (String.utf8EncodeChar c).reverse ++ (encode before).reverse =
        (encode (before ++ [c])).reverse := by
      rw [encode_append, List.reverse_append]
      exact congrArg (·.reverse ++ _) (List.append_nil _).symm
    have further : (encode (chars.flatMap escapeChar)).length < fuel' := by omega
    obtain ⟨there, returns, left'⟩ := ih (before ++ [c]) left further
    refine ⟨there, ?_, left'⟩
    rw [same, read, returns, List.append_assoc]
    rfl

end

theorem takes_string (text : String) (here : Cursor) (rest : Bytes)
    (stands : here.rest = encode (quoteChars text) ++ rest) :
    ∃ there, readString here.advance = .ok (text, there) ∧ there.rest = rest := by
  have quotes : encode (quoteChars text) =
      34 :: (encode (text.toList.flatMap escapeChar) ++ [34]) := by
    rw [quoteChars, encode_cons (by decide), encode_append]
    rfl
  have behind : here.advance.rest = encode (text.toList.flatMap escapeChar) ++ 34 :: rest := by
    rw [Cursor.advance_rest, stands, quotes]
    simp
  have enough : (encode (text.toList.flatMap escapeChar)).length < here.advance.rest.length + 1 := by
    rw [behind, List.length_append]
    omega
  obtain ⟨there, returns, left⟩ := readStringFrom_encode [] text.toList behind enough
  rw [List.nil_append, String.ofList_toList] at returns
  exact ⟨there, returns, left⟩

end FluentAssert.Json
