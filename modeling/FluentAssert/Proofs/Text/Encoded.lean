import FluentAssert.Proofs.Text.Utf8

/-! Bytes that encode a text. They are the bytes that are decoded without an error, and the text is
the one that comes of it, whether or not what is no text is replaced. They may be cut wherever a
character ends. -/
namespace FluentAssert.Text

/-- The bytes encode some text. -/
def Encoded (bytes : Bytes) : Prop := ∃ text : String, encodeUtf8 text = bytes

namespace Piece

variable {low high : UInt8} {code taken owed extra : Nat} {bytes : Bytes} {c : Char}

theorem follow_end (whole : follow low high code taken 0 bytes = .char c extra) :
    c = Char.ofNat code ∧ extra = taken := by
  rw [follow] at whole
  cases whole
  exact ⟨rfl, rfl⟩

theorem follow_more (whole : follow low high code taken (owed + 1) bytes = .char c extra) :
    ∃ b rest, bytes = b :: rest ∧ low.toNat ≤ b.toNat ∧ b.toNat ≤ high.toNat ∧
      follow 0x80 0xBF (64 * code + b.toNat % 64) (taken + 1) owed rest = .char c extra := by
  cases bytes with
  | nil => cases whole
  | cons b rest =>
    rw [follow] at whole
    split at whole
    · rename_i inside
      exact ⟨b, rest, rfl, UInt8.le_iff_toNat_le.mp inside.1, UInt8.le_iff_toNat_le.mp inside.2,
        whole⟩
    · cases whole

theorem shape?_none (first : UInt8) (h : first.toNat < 0xC2 ∨ 0xF4 < first.toNat) :
    shape? first = none := by
  simp only [shape?, UInt8.le_iff_toNat_le, ← UInt8.toNat_inj, UInt8.reduceToNat]
  grind

end Piece

section

variable {v : Nat}

theorem code_ofNat (real : v < 0xD800 ∨ 0xDFFF < v ∧ v < 0x110000) :
    (Char.ofNat v).val.toNat = v := by
  rw [Char.ofNat, dif_pos real]
  rfl

theorem encode_one (h : v ≤ 0x7F) : String.utf8EncodeChar (Char.ofNat v) = [UInt8.ofNat v] := by
  rw [String.utf8EncodeChar, code_ofNat (by omega)]
  exact if_pos h

theorem encode_two (h : 0x7F < v) (h' : v ≤ 0x7FF) :
    String.utf8EncodeChar (Char.ofNat v) = [UInt8.ofNat (v / 64 % 32 + 192), tailByte v] := by
  rw [String.utf8EncodeChar, code_ofNat (by omega)]
  exact (if_neg (by omega)).trans (if_pos h')

theorem encode_three (h : 0x7FF < v) (h' : v ≤ 0xFFFF) (real : v < 0xD800 ∨ 0xDFFF < v) :
    String.utf8EncodeChar (Char.ofNat v) =
      [UInt8.ofNat (v / 4096 % 16 + 224), tailByte (v / 64), tailByte v] := by
  rw [String.utf8EncodeChar, code_ofNat (by omega)]
  exact (if_neg (by omega)).trans ((if_neg (by omega)).trans (if_pos h'))

theorem encode_four (h : 0xFFFF < v) (h' : v < 0x110000) :
    String.utf8EncodeChar (Char.ofNat v) =
      [UInt8.ofNat (v / 262144 % 8 + 240), tailByte (v / 4096), tailByte (v / 64), tailByte v] := by
  rw [String.utf8EncodeChar, code_ofNat (by omega)]
  exact (if_neg (by omega)).trans ((if_neg (by omega)).trans (if_neg (by omega)))

end

theorem ofNat_eq {b : UInt8} {n : Nat} (same : n = b.toNat) : UInt8.ofNat n = b := by
  rw [same, UInt8.ofNat_toNat]

theorem tailByte_eq {b : UInt8} {n : Nat} (low : 0x80 ≤ b.toNat) (high : b.toNat ≤ 0xBF)
    (same : n % 64 = b.toNat % 64) : tailByte n = b := ofNat_eq (by omega)

section

variable {first : UInt8} {rest : Bytes} {c : Char} {extra : Nat}

def Spells (first : UInt8) (rest : Bytes) (c : Char) (extra : Nat) : Prop :=
  ∃ tail more, rest = tail ++ more ∧ tail.length = extra ∧ String.utf8EncodeChar c = first :: tail

theorem spells_two (low : 0xC2 ≤ first.toNat) (high : first.toNat ≤ 0xDF)
    (whole : firstPiece first rest = .char c extra) : Spells first rest c extra := by
  rw [firstPiece_shaped (by omega) (Piece.shape?_two first low high)] at whole
  obtain ⟨b, more, rfl, above, below, whole⟩ := Piece.follow_more whole
  obtain ⟨rfl, rfl⟩ := Piece.follow_end whole
  have bits : Piece.leadBits first 1 = first.toNat - 0xC0 := by
    show first.toNat % 32 = _
    omega
  simp only [UInt8.reduceToNat] at above below
  refine ⟨[b], more, rfl, rfl, ?_⟩
  rw [bits, encode_two (by omega) (by omega), ofNat_eq (b := first) (by omega),
    tailByte_eq above below (by omega)]

theorem spells_three (low : 0xE0 ≤ first.toNat) (high : first.toNat ≤ 0xEF)
    (whole : firstPiece first rest = .char c extra) : Spells first rest c extra := by
  rw [firstPiece_shaped (by omega) (Piece.shape?_three first low high)] at whole
  obtain ⟨b, after, rfl, above, below, whole⟩ := Piece.follow_more whole
  obtain ⟨b', more, rfl, above', below', whole⟩ := Piece.follow_more whole
  obtain ⟨rfl, rfl⟩ := Piece.follow_end whole
  have bits : Piece.leadBits first 2 = first.toNat - 0xE0 := by
    show first.toNat % 16 = _
    omega
  simp only [UInt8.reduceToNat, apply_ite UInt8.toNat] at above below above' below'
  refine ⟨[b, b'], more, rfl, rfl, ?_⟩
  rw [bits, encode_three, ofNat_eq (b := first), tailByte_eq (b := b), tailByte_eq above' below']
  all_goals split at above <;> split at below <;> omega

theorem spells_four (low : 0xF0 ≤ first.toNat) (high : first.toNat ≤ 0xF4)
    (whole : firstPiece first rest = .char c extra) : Spells first rest c extra := by
  rw [firstPiece_shaped (by omega) (Piece.shape?_four first low high)] at whole
  obtain ⟨b, after, rfl, above, below, whole⟩ := Piece.follow_more whole
  obtain ⟨b', after', rfl, above', below', whole⟩ := Piece.follow_more whole
  obtain ⟨b'', more, rfl, above'', below'', whole⟩ := Piece.follow_more whole
  obtain ⟨rfl, rfl⟩ := Piece.follow_end whole
  have bits : Piece.leadBits first 3 = first.toNat - 0xF0 := by
    show first.toNat % 8 = _
    omega
  simp only [UInt8.reduceToNat, apply_ite UInt8.toNat] at above below above' below' above'' below''
  refine ⟨[b, b', b''], more, rfl, rfl, ?_⟩
  rw [bits, encode_four, ofNat_eq (b := first), tailByte_eq (b := b), tailByte_eq above' below',
    tailByte_eq above'' below'']
  all_goals split at above <;> split at below <;> omega

theorem spells_of_firstPiece (whole : firstPiece first rest = .char c extra) :
    Spells first rest c extra := by
  by_cases ascii : first.toNat < 0x80
  · rw [firstPiece, if_pos (UInt8.lt_iff_toNat_lt.mpr ascii)] at whole
    cases whole
    exact ⟨[], rest, rfl, rfl, by rw [encode_one (by omega), UInt8.ofNat_toNat]⟩
  by_cases none : first.toNat < 0xC2 ∨ 0xF4 < first.toNat
  · rw [firstPiece, if_neg (mt UInt8.lt_iff_toNat_lt.mp ascii),
      Piece.shape?_none first none] at whole
    cases whole
  by_cases two : first.toNat ≤ 0xDF
  · exact spells_two (by omega) two whole
  by_cases three : first.toNat ≤ 0xEF
  · exact spells_three (by omega) three whole
  · exact spells_four (by omega) (by omega) whole

end

theorem flatMap_of_decodeFrom {bytes : Bytes} {index : Nat} {chars : List Char}
    (decoded : decodeFrom index bytes = .ok chars) :
    chars.flatMap String.utf8EncodeChar = bytes := by
  induction index, bytes using decodeFrom.induct generalizing chars with
  | case1 index =>
    rw [decodeFrom] at decoded
    cases decoded
    rfl
  | case2 index first rest c extra piece ih =>
    rw [decodeFrom, piece] at decoded
    simp only at decoded
    cases later : decodeFrom (index + extra + 1) (rest.drop extra) with
    | error e =>
      rw [later] at decoded
      cases decoded
    | ok others =>
      rw [later] at decoded
      cases decoded
      obtain ⟨tail, more, rfl, rfl, bytes⟩ := spells_of_firstPiece piece
      rw [List.drop_left] at ih later
      rw [List.flatMap_cons, bytes, ih later, List.cons_append]
  | case3 index first rest extra piece =>
    rw [decodeFrom, piece] at decoded
    cases decoded
  | case4 index first rest piece =>
    rw [decodeFrom, piece] at decoded
    cases decoded

theorem decodeUtf8_ok {bytes : Bytes} {text : String} :
    decodeUtf8 bytes = .ok text ↔ encodeUtf8 text = bytes := by
  constructor
  · intro decoded
    rw [decodeUtf8] at decoded
    cases whole : decodeFrom 0 bytes with
    | error e =>
      rw [whole] at decoded
      cases decoded
    | ok chars =>
      rw [whole] at decoded
      cases decoded
      rw [encodeUtf8, String.toList_ofList]
      exact flatMap_of_decodeFrom whole
  · rintro rfl
    rw [encodeUtf8, decodeUtf8_encode, String.ofList_toList]

theorem decodeLossyChars_encode (chars : List Char) :
    decodeLossyChars (chars.flatMap String.utf8EncodeChar) = chars := by
  induction chars with
  | nil => rw [List.flatMap_nil, decodeLossyChars]
  | cons c chars ih =>
    obtain ⟨first, tail, bytes, piece⟩ := firstPiece_encode c
    rw [List.flatMap_cons, bytes, List.cons_append, decodeLossyChars, piece]
    simp only [List.drop_left, ih]

theorem decodeUtf8Lossy_encode (text : String) : decodeUtf8Lossy (encodeUtf8 text) = text := by
  rw [decodeUtf8Lossy, encodeUtf8, decodeLossyChars_encode, String.ofList_toList]

theorem encode_shape (c : Char) : ∃ first tail, String.utf8EncodeChar c = first :: tail ∧
    (first.toNat < 0x80 ∨ 0xBF < first.toNat) ∧
    ∀ b ∈ tail, 0x80 ≤ b.toNat ∧ b.toNat ≤ 0xBF := by
  have tails (n : Nat) : 0x80 ≤ (tailByte n).toNat ∧ (tailByte n).toNat ≤ 0xBF := by
    rw [tailByte_toNat]
    omega
  have back : Char.ofNat c.val.toNat = c := Char.ofNat_toNat c
  have real : c.val.toNat < 0xD800 ∨ 0xDFFF < c.val.toNat ∧ c.val.toNat < 0x110000 := c.valid
  generalize c.val.toNat = v at back real
  subst back
  by_cases one : v ≤ 0x7F
  · refine ⟨_, [], encode_one one, ?_, List.forall_mem_nil _⟩
    rw [toNat_ofNat (by omega)]
    omega
  by_cases two : v ≤ 0x7FF
  · refine ⟨_, _, encode_two (by omega) two, ?_, List.forall_mem_singleton.mpr (tails _)⟩
    rw [toNat_ofNat (by omega)]
    omega
  by_cases three : v ≤ 0xFFFF
  · refine ⟨_, _, encode_three (by omega) three (by omega), ?_,
      List.forall_mem_cons.mpr ⟨tails _, List.forall_mem_singleton.mpr (tails _)⟩⟩
    rw [toNat_ofNat (by omega)]
    omega
  · refine ⟨_, _, encode_four (by omega) (by omega), ?_, List.forall_mem_cons.mpr ⟨tails _,
      List.forall_mem_cons.mpr ⟨tails _, List.forall_mem_singleton.mpr (tails _)⟩⟩⟩
    rw [toNat_ofNat (by omega)]
    omega

theorem encoded_iff {bytes : Bytes} :
    Encoded bytes ↔ ∃ chars : List Char, chars.flatMap String.utf8EncodeChar = bytes := by
  constructor
  · rintro ⟨text, whole⟩
    exact ⟨text.toList, whole⟩
  · rintro ⟨chars, whole⟩
    refine ⟨String.ofList chars, ?_⟩
    rw [encodeUtf8, String.toList_ofList]
    exact whole

namespace Encoded

variable {first rest bytes more : Bytes} {b : UInt8}

theorem nil : Encoded [] := encoded_iff.mpr ⟨[], rfl⟩

theorem char (c : Char) : Encoded (String.utf8EncodeChar c) :=
  encoded_iff.mpr ⟨[c], List.append_nil _⟩

theorem append (h : Encoded first) (h' : Encoded rest) : Encoded (first ++ rest) := by
  obtain ⟨chars, rfl⟩ := encoded_iff.mp h
  obtain ⟨chars', rfl⟩ := encoded_iff.mp h'
  exact encoded_iff.mpr ⟨chars ++ chars', List.flatMap_append⟩

theorem cons (ascii : b.toNat < 0x80) (h : Encoded rest) : Encoded (b :: rest) := by
  have one : String.utf8EncodeChar (Char.ofNat b.toNat) = [b] := by
    rw [encode_one (by omega), UInt8.ofNat_toNat]
  have first : Encoded [b] := one ▸ char (Char.ofNat b.toNat)
  exact first.append h

theorem after_char {c : Char} (h : Encoded (String.utf8EncodeChar c ++ rest)) : Encoded rest := by
  obtain ⟨first, tail, bytes, piece⟩ := firstPiece_encode c
  obtain ⟨text, whole⟩ := h
  have decoded := decodeUtf8_ok.mpr whole
  rw [decodeUtf8, bytes, List.cons_append, decodeFrom, piece] at decoded
  simp only [List.drop_left] at decoded
  cases others : decodeFrom (0 + tail.length + 1) rest with
  | error e =>
    rw [others] at decoded
    cases decoded
  | ok chars => exact encoded_iff.mpr ⟨chars, flatMap_of_decodeFrom others⟩

theorem after (h : Encoded (first ++ rest)) (before : Encoded first) : Encoded rest := by
  obtain ⟨chars, rfl⟩ := encoded_iff.mp before
  induction chars with
  | nil => exact h
  | cons c chars ih =>
    rw [List.flatMap_cons, List.append_assoc] at h
    exact ih h.after_char (encoded_iff.mpr ⟨chars, rfl⟩)

theorem before (begins : b.toNat < 0x80 ∨ 0xBF < b.toNat) (h : Encoded (first ++ b :: rest)) :
    Encoded first := by
  obtain ⟨chars, whole⟩ := encoded_iff.mp h
  induction chars generalizing first with
  | nil =>
    rw [List.flatMap_nil] at whole
    simp at whole
  | cons c chars ih =>
    obtain ⟨lead, tail, bytes, -, tails⟩ := encode_shape c
    rw [List.flatMap_cons] at whole
    rcases List.append_eq_append_iff.mp whole with ⟨part, rfl, others⟩ | ⟨part, inside, others⟩
    · exact (char c).append (ih (encoded_iff.mpr ⟨chars, others⟩) others)
    · cases part with
      | nil =>
        rw [List.append_nil] at inside
        exact inside ▸ char c
      | cons b' part =>
        obtain ⟨rfl, -⟩ := List.cons.inj others
        cases first with
        | nil => exact nil
        | cons lead' first =>
          -- The cut is inside the character, where no other one begins.
          have member : b ∈ tail := by
            rw [bytes, List.cons_append] at inside
            rw [(List.cons.inj inside).2]
            simp
          have bounds := tails b member
          omega

end Encoded

end FluentAssert.Text
