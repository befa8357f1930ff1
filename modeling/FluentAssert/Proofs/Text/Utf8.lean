import FluentAssert.Text.Utf8

/-! What is encoded as UTF-8 is decoded again, character by character. -/
namespace FluentAssert.Text

theorem toNat_ofNat {n : Nat} (small : n < 256) : (UInt8.ofNat n).toNat = n :=
  (UInt8.toNat_ofNat' ..).trans (Nat.mod_eq_of_lt small)

/-- A byte that follows the first one of a character, with six bits of it. -/
def tailByte (n : Nat) : UInt8 := UInt8.ofNat (n % 64 + 128)

theorem tailByte_toNat (n : Nat) : (tailByte n).toNat = n % 64 + 128 := toNat_ofNat (by omega)

namespace Piece

variable {low high : UInt8} {n code taken owed : Nat}

theorem follow_tail (above : low.toNat ≤ n % 64 + 128) (below : n % 64 + 128 ≤ high.toNat)
    (rest : Bytes) : follow low high code taken (owed + 1) (tailByte n :: rest) =
      follow 0x80 0xBF (64 * code + n % 64) (taken + 1) owed rest := by
  have bits : (tailByte n).toNat % 64 = n % 64 := by
    rw [tailByte_toNat]
    omega
  have inside : low ≤ tailByte n ∧ tailByte n ≤ high := by
    rw [UInt8.le_iff_toNat_le, UInt8.le_iff_toNat_le, tailByte_toNat]
    exact ⟨above, below⟩
  rw [follow, if_pos inside, bits]

theorem follow_tails (rest : Bytes) : follow 0x80 0xBF code taken (owed + 1) (tailByte n :: rest) =
    follow 0x80 0xBF (64 * code + n % 64) (taken + 1) owed rest :=
  follow_tail (by show 128 ≤ _; omega) (by show _ ≤ 191; omega) rest

theorem shape?_two (first : UInt8) (h : 0xC2 ≤ first.toNat) (h' : first.toNat ≤ 0xDF) :
    shape? first = some (0x80, 0xBF, 1) := if_pos ⟨h, h'⟩

theorem shape?_three (first : UInt8) (h : 0xE0 ≤ first.toNat) (h' : first.toNat ≤ 0xEF) :
    shape? first = some (if first.toNat = 0xE0 then 0xA0 else 0x80,
      if first.toNat = 0xED then 0x9F else 0xBF, 2) := by
  simp only [shape?, UInt8.le_iff_toNat_le, ← UInt8.toNat_inj, UInt8.reduceToNat]
  grind

theorem shape?_four (first : UInt8) (h : 0xF0 ≤ first.toNat) (h' : first.toNat ≤ 0xF4) :
    shape? first = some (if first.toNat = 0xF0 then 0x90 else 0x80,
      if first.toNat = 0xF4 then 0x8F else 0xBF, 3) := by
  simp only [shape?, UInt8.le_iff_toNat_le, ← UInt8.toNat_inj, UInt8.reduceToNat]
  grind

end Piece

theorem firstPiece_shaped {first low high : UInt8} {extra : Nat} (lead : 0x80 ≤ first.toNat)
    (shape : Piece.shape? first = some (low, high, extra)) (rest : Bytes) :
    firstPiece first rest = Piece.follow low high (Piece.leadBits first extra) 0 extra rest := by
  have notAscii : ¬ first < 0x80 := by
    rw [UInt8.lt_iff_toNat_lt]
    exact Nat.not_lt.mpr lead
  rw [firstPiece, if_neg notAscii, shape]

section

variable {v : Nat} (rest : Bytes)

theorem firstPiece_one (h : v ≤ 0x7F) : firstPiece (UInt8.ofNat v) rest = .char (Char.ofNat v) 0 := by
  have lead : (UInt8.ofNat v).toNat = v := toNat_ofNat (by omega)
  have ascii : UInt8.ofNat v < 0x80 := by
    rw [UInt8.lt_iff_toNat_lt, lead]
    exact Nat.lt_succ_of_le h
  rw [firstPiece, if_pos ascii, lead]

theorem firstPiece_two (h : 0x7F < v) (h' : v ≤ 0x7FF) :
    firstPiece (UInt8.ofNat (v / 64 % 32 + 192)) (tailByte v :: rest) = .char (Char.ofNat v) 1 := by
  have lead : (UInt8.ofNat (v / 64 % 32 + 192)).toNat = v / 64 + 192 := by
    rw [toNat_ofNat (by omega)]
    omega
  have bits : Piece.leadBits (UInt8.ofNat (v / 64 % 32 + 192)) 1 = v / 64 := by
    rw [Piece.leadBits, lead]
    show _ % 32 = _
    omega
  rw [firstPiece_shaped (by omega) (Piece.shape?_two _ (by omega) (by omega)), Piece.follow_tails,
    bits, Piece.follow]
  exact congrArg (Piece.char · 1) (congrArg Char.ofNat (by omega))

theorem firstPiece_three (h : 0x7FF < v) (h' : v ≤ 0xFFFF) (real : v < 0xD800 ∨ 0xDFFF < v) :
    firstPiece (UInt8.ofNat (v / 4096 % 16 + 224)) (tailByte (v / 64) :: tailByte v :: rest) =
      .char (Char.ofNat v) 2 := by
  have lead : (UInt8.ofNat (v / 4096 % 16 + 224)).toNat = v / 4096 + 224 := by
    rw [toNat_ofNat (by omega)]
    omega
  have bits : Piece.leadBits (UInt8.ofNat (v / 4096 % 16 + 224)) 2 = v / 4096 := by
    rw [Piece.leadBits, lead]
    show _ % 16 = _
    omega
  rw [firstPiece_shaped (by omega) (Piece.shape?_three _ (by omega) (by omega)), lead, bits,
    Piece.follow_tail, Piece.follow_tails, Piece.follow]
  · exact congrArg (Piece.char · 2) (congrArg Char.ofNat (by omega))
  -- The second byte is held above shorter encodings, and below the surrogates.
  · split
    · show 0xA0 ≤ _
      omega
    · show 0x80 ≤ _
      omega
  · split
    · show _ ≤ 0x9F
      omega
    · show _ ≤ 0xBF
      omega

theorem firstPiece_four (h : 0xFFFF < v) (h' : v < 0x110000) :
    firstPiece (UInt8.ofNat (v / 262144 % 8 + 240))
      (tailByte (v / 4096) :: tailByte (v / 64) :: tailByte v :: rest) = .char (Char.ofNat v) 3 := by
  have lead : (UInt8.ofNat (v / 262144 % 8 + 240)).toNat = v / 262144 + 240 := by
    rw [toNat_ofNat (by omega)]
    omega
  have bits : Piece.leadBits (UInt8.ofNat (v / 262144 % 8 + 240)) 3 = v / 262144 := by
    rw [Piece.leadBits, lead]
    show _ % 8 = _
    omega
  rw [firstPiece_shaped (by omega) (Piece.shape?_four _ (by omega) (by omega)), lead, bits,
    Piece.follow_tail, Piece.follow_tails, Piece.follow_tails, Piece.follow]
  · exact congrArg (Piece.char · 3) (congrArg Char.ofNat (by omega))
  · split
    · show 0x90 ≤ _
      omega
    · show 0x80 ≤ _
      omega
  · split
    · show _ ≤ 0x8F
      omega
    · show _ ≤ 0xBF
      omega

end

theorem firstPiece_encode (c : Char) : ∃ first tail, String.utf8EncodeChar c = first :: tail ∧
    ∀ rest, firstPiece first (tail ++ rest) = .char c tail.length := by
  have back : Char.ofNat c.val.toNat = c := Char.ofNat_toNat c
  have real : c.val.toNat < 0xD800 ∨ 0xDFFF < c.val.toNat ∧ c.val.toNat < 0x110000 := c.valid
  unfold String.utf8EncodeChar
  generalize c.val.toNat = v at back real
  subst back
  dsimp only
  split
  · rename_i one
    exact ⟨_, [], rfl, fun rest => firstPiece_one rest one⟩
  · split
    · rename_i above two
      exact ⟨_, [_], rfl, fun rest => firstPiece_two rest (by omega) two⟩
    · split
      · rename_i above three
        exact ⟨_, [_, _], rfl, fun rest => firstPiece_three rest (by omega) three (by omega)⟩
      · rename_i above
        exact ⟨_, [_, _, _], rfl, fun rest => firstPiece_four rest (by omega) (by omega)⟩

theorem high_of_mem {c : Char} (h : 128 ≤ c.toNat) {b : UInt8}
    (member : b ∈ String.utf8EncodeChar c) : 128 ≤ b.toNat := by
  have above : ¬ c.val.toNat ≤ 127 := Nat.not_le.mpr h
  have real : c.val.toNat < 0x110000 := by
    have valid : c.val.toNat < 0xD800 ∨ 0xDFFF < c.val.toNat ∧ c.val.toNat < 0x110000 := c.valid
    omega
  unfold String.utf8EncodeChar at member
  generalize c.val.toNat = v at above real member
  dsimp only at member
  rw [if_neg above] at member
  have lead {k : Nat} (low : 128 ≤ k) (high : k < 256) : 128 ≤ (UInt8.ofNat k).toNat :=
    (toNat_ofNat high).symm ▸ low
  split at member
  · simp only [List.mem_cons, List.not_mem_nil, or_false] at member
    rcases member with rfl | rfl <;> exact lead (by omega) (by omega)
  · split at member
    · simp only [List.mem_cons, List.not_mem_nil, or_false] at member
      rcases member with rfl | rfl | rfl <;> exact lead (by omega) (by omega)
    · simp only [List.mem_cons, List.not_mem_nil, or_false] at member
      rcases member with rfl | rfl | rfl | rfl <;> exact lead (by omega) (by omega)

theorem decodeFrom_encode (chars : List Char) (index : Nat) :
    decodeFrom index (chars.flatMap String.utf8EncodeChar) = .ok chars := by
  induction chars generalizing index with
  | nil => rw [List.flatMap_nil, decodeFrom]
  | cons c chars ih =>
    obtain ⟨first, tail, bytes, piece⟩ := firstPiece_encode c
    rw [List.flatMap_cons, bytes, List.cons_append, decodeFrom, piece]
    simp only [List.drop_left, ih]
    rfl

theorem decodeUtf8_encode (chars : List Char) :
    decodeUtf8 (chars.flatMap String.utf8EncodeChar) = .ok (String.ofList chars) := by
  rw [decodeUtf8, decodeFrom_encode]
  rfl

end FluentAssert.Text
