import FluentAssert.Proofs.Json.Proper
import FluentAssert.Proofs.Json.Scalar
import FluentAssert.Proofs.Text.Encoded

/-! Texts of documents are UTF-8. Outside of strings a reader takes ASCII bytes only, and of a
string it takes what it has decoded. -/
namespace FluentAssert.Json

open FluentAssert.Text

variable {α β : Type} {here there : Cursor}

/-- What lies in between is text: if the bytes from there on encode one, then those from here on. -/
def Cursor.TextUpTo (here there : Cursor) : Prop := Encoded there.rest → Encoded here.rest

/-- What is read, if anything is, was text. -/
def TakesText (here : Cursor) (result : Except ReadError (α × Cursor)) : Prop :=
  ∀ a there, result = .ok (a, there) → here.TextUpTo there

theorem toNat_ofByte (b : UInt8) : (Char.ofNat b.toNat).toNat = b.toNat := by
  have small : b.toNat < 256 := b.toNat_lt
  exact code_ofNat (.inl (by omega))

theorem Cursor.stands_of_peek {b : UInt8} (next : here.peek? = some b) :
    here.rest = b :: here.advance.rest := by
  obtain ⟨rest, stands⟩ := List.head?_eq_some_iff.mp next
  rw [advance_rest, stands]
  rfl

namespace Cursor.TextUpTo

variable {next : Cursor} {b : UInt8}

theorem refl (here : Cursor) : here.TextUpTo here := id

theorem trans (h : here.TextUpTo next) (h' : next.TextUpTo there) : here.TextUpTo there :=
  fun encoded => h (h' encoded)

theorem byte (next : here.peek? = some b) (ascii : b.toNat < 128) : here.TextUpTo here.advance := by
  intro encoded
  rw [stands_of_peek next]
  exact .cons ascii encoded

theorem char {c : Char} (next : here.peek? = some b) (same : Char.ofNat b.toNat = c)
    (ascii : c.toNat < 128) : here.TextUpTo here.advance :=
  byte next (by rw [← toNat_ofByte, same]; exact ascii)

theorem advance (ascii : here.peekChar.toNat < 128) : here.TextUpTo here.advance := by
  cases stands : here.rest with
  | nil =>
    rw [Cursor.advance, stands]
    exact refl here
  | cons b rest =>
    refine char (b := b) ?_ rfl ?_
    · rw [peek?, stands]
      rfl
    · rwa [peekChar, stands] at ascii

theorem skipBlanks (here : Cursor) : here.TextUpTo here.skipBlanks := by
  have all (bytes : Bytes) (here : Cursor) (stands : here.rest = bytes) :
      here.TextUpTo (skipBlanksIn bytes here) := by
    induction bytes generalizing here with
    | nil => exact .refl here
    | cons b rest ih =>
      rw [skipBlanksIn]
      split
      · rename_i blank
        have next : here.peek? = some b := by rw [peek?, stands]; rfl
        have ascii : b.toNat < 128 := by rcases blank with rfl | rfl | rfl | rfl <;> decide
        exact (byte next ascii).trans (ih _ (by rw [advance_rest, stands]; rfl))
      · exact .refl here
  exact all here.rest here rfl

end Cursor.TextUpTo

namespace TakesText

theorem ok (h : here.TextUpTo there) (a : α) : TakesText here (.ok (a, there)) := by
  intro _ _ same
  cases same
  exact h

theorem fail (place : Cursor) (fault : Fault) : TakesText (α := α) here (place.fail fault) := by
  intro _ _ same
  cases same

theorem after {next : Cursor} {result : Except ReadError (α × Cursor)} (h : here.TextUpTo next)
    (h' : TakesText next result) : TakesText here result :=
  fun a there same => h.trans (h' a there same)

theorem bind {first : Except ReadError β} {next : β → Except ReadError (α × Cursor)}
    (h : ∀ b, first = .ok b → TakesText here (next b)) : TakesText here (first >>= next) := by
  intro a last same
  cases first with
  | error e => cases same
  | ok b => exact h b rfl a last same

end TakesText

theorem takesText_readWord (value : Json) (word : List Char)
    (ascii : word.all (·.toNat < 128) = true) (here : Cursor) :
    TakesText here (readWord value word here) := by
  induction word generalizing here with
  | nil => exact .ok (.refl here) value
  | cons c word ih =>
    rw [List.all_cons, Bool.and_eq_true, decide_eq_true_iff] at ascii
    rw [readWord]
    split
    · exact .fail _ _
    · rename_i b next
      split
      · rename_i same
        exact .after (.byte next (same ▸ ascii.1)) (ih ascii.2 here.advance)
      · exact .fail _ _

theorem Cursor.TextUpTo.digit {d : Nat} (digit : digitAt here = some d) :
    here.TextUpTo here.advance := by
  unfold digitAt at digit
  split at digit
  · rename_i isDigit
    have bounds : 48 ≤ here.peekChar.toNat ∧ here.peekChar.toNat ≤ 57 :=
      Char.isDigit_iff_toNat.mp isDigit
    exact .advance (by omega)
  · cases digit

theorem textUpTo_skipDigits (fuel : Nat) (here : Cursor) :
    here.TextUpTo (skipDigits fuel here) := by
  induction fuel generalizing here with
  | zero => exact .refl here
  | succ fuel ih =>
    rw [skipDigits]
    split
    · rename_i digit
      obtain ⟨d, digit⟩ := Option.isSome_iff_exists.mp digit
      exact (Cursor.TextUpTo.digit digit).trans (ih here.advance)
    · exact .refl here

theorem textUpTo_exponentDigits (fuel e : Nat) (here : Cursor) :
    here.TextUpTo (exponentDigits fuel e here).2 := by
  induction fuel generalizing e here with
  | zero => exact .refl here
  | succ fuel ih =>
    rw [exponentDigits]
    split
    · exact .refl here
    · rename_i d digit
      split
      · exact (Cursor.TextUpTo.digit digit).trans (ih _ _)
      · exact .digit digit

theorem textUpTo_fractionDigits (fuel significand : Nat) (e : Int) (here : Cursor) :
    here.TextUpTo (fractionDigits fuel significand e here).2.2 := by
  induction fuel generalizing significand e here with
  | zero => exact .refl here
  | succ fuel ih =>
    rw [fractionDigits]
    split
    · exact .refl here
    · rename_i d digit
      split
      · exact (Cursor.TextUpTo.digit digit).trans (ih _ _ _)
      · exact textUpTo_skipDigits _ here

theorem textUpTo_wholeDigits (fuel significand dropped : Nat) (here : Cursor) :
    here.TextUpTo (wholeDigits fuel significand dropped here).2.2 := by
  induction fuel generalizing significand dropped here with
  | zero => exact .refl here
  | succ fuel ih =>
    rw [wholeDigits]
    split
    · exact .refl here
    · rename_i d digit
      split
      · exact (Cursor.TextUpTo.digit digit).trans (ih _ _ _)
      · exact (Cursor.TextUpTo.digit digit).trans (ih _ _ _)

theorem takesText_realOf (negative : Bool) (significand : Nat) (e : Int) (here : Cursor) :
    TakesText here (realOf negative significand e here) := by
  rw [realOf]
  split
  · exact .ok (.refl here) _
  · exact .fail _ _

theorem takesText_readExponent (negative : Bool) (significand : Nat) (base : Int)
    (mark : here.peekChar = 'e' ∨ here.peekChar = 'E') :
    TakesText here (readExponent negative significand base here) := by
  have behindMark : here.TextUpTo here.advance :=
    .advance (by rcases mark with h | h <;> rw [h] <;> decide)
  have atDigits : here.TextUpTo (if here.advance.peekChar = '+' ∨ here.advance.peekChar = '-' then
      here.advance.advance else here.advance) := by
    split
    · rename_i sign
      exact behindMark.trans (.advance (by rcases sign with h | h <;> rw [h] <;> decide))
    · exact behindMark
  refine .after atDigits ?_
  simp only [readExponent]
  generalize (if here.advance.peekChar = '+' ∨ here.advance.peekChar = '-' then
      here.advance.advance else here.advance) = start
  split
  · exact .fail _ _
  · exact .fail _ _
  · rename_i first _ digit
    have digits := textUpTo_exponentDigits start.rest.length first start.advance
    refine .after (.digit digit) ?_
    split
    · rename_i whole
      rw [whole] at digits
      exact .after digits (takesText_realOf _ _ _ _)
    · rename_i whole
      rw [whole] at digits
      split
      · exact .fail _ _
      · exact .ok (digits.trans (textUpTo_skipDigits _ _)) _

theorem takesText_readFraction (negative : Bool) (significand : Nat) (base : Int)
    (mark : here.peekChar = '.') :
    TakesText here (readFraction negative significand base here) := by
  have behindPoint : here.TextUpTo here.advance := .advance (by rw [mark]; decide)
  refine .after behindPoint ?_
  simp only [readFraction]
  split
  · split
    · exact .fail _ _
    · exact .fail _ _
  · refine .after
      (textUpTo_fractionDigits here.advance.rest.length significand base here.advance) ?_
    rw [readAfterFraction]
    split
    · rename_i mark
      exact takesText_readExponent _ _ _ mark
    · exact takesText_realOf _ _ _ _

theorem takesText_readAfterWhole (negative : Bool) (significand dropped : Nat) (here : Cursor) :
    TakesText here (readAfterWhole negative significand dropped here) := by
  simp only [readAfterWhole]
  split
  · rename_i mark
    exact takesText_readFraction _ _ _ mark
  · split
    · rename_i mark
      exact takesText_readExponent _ _ _ mark
    · split
      · exact takesText_realOf _ _ _ _
      · split
        · split
          · exact .ok (.refl here) _
          · exact .ok (.refl here) _
        · exact .ok (.refl here) _

theorem takesText_readNumber (negative : Bool) (here : Cursor) :
    TakesText here (readNumber negative here) := by
  simp only [readNumber]
  split
  · exact .fail _ _
  · exact .fail _ _
  · rename_i first _ digit
    refine .after (.digit digit) ?_
    split
    · split
      · exact .fail _ _
      · exact takesText_readAfterWhole _ _ _ _
    · exact .after (textUpTo_wholeDigits _ _ _ _) (takesText_readAfterWhole _ _ _ _)

theorem ascii_of_hexDigit {b : UInt8} {n : Nat} (digit : hexDigit? b = some n) : b.toNat < 128 := by
  have below {c last : Char} (h : c ≤ last) : c.toNat ≤ last.toNat := UInt32.le_iff_toNat_le.mp h
  have same := toNat_ofByte b
  simp only [hexDigit?] at digit
  split at digit
  · rename_i isDigit
    have bound : (Char.ofNat b.toNat).toNat ≤ 57 := (Char.isDigit_iff_toNat.mp isDigit).2
    omega
  · split at digit
    · rename_i letter
      have bound : (Char.ofNat b.toNat).toNat ≤ 102 := below letter.2
      omega
    · split at digit
      · rename_i letter
        have bound : (Char.ofNat b.toNat).toNat ≤ 70 := below letter.2
        omega
      · cases digit

theorem takesText_readQuad (here : Cursor) : TakesText here (readQuad here) := by
  simp only [readQuad]
  split
  · rename_i a b c d rest stands
    split
    · rename_i first second third fourth
      refine .ok (fun encoded => ?_) _
      have left : (here.advanceBy 4).rest = rest := by
        simp only [Cursor.advanceBy, Cursor.advance_rest, stands, List.tail_cons]
      rw [left] at encoded
      rw [stands]
      exact .cons (ascii_of_hexDigit first) (.cons (ascii_of_hexDigit second)
        (.cons (ascii_of_hexDigit third) (.cons (ascii_of_hexDigit fourth) encoded)))
    · exact .fail _ _
  · exact .fail _ _

theorem textUpTo_expectInEscape {c : Char} (ascii : c.toNat < 128)
    (expected : expectInEscape c here = .ok there) : here.TextUpTo there := by
  rw [expectInEscape] at expected
  split at expected
  · cases expected
  · rename_i b next
    split at expected
    · rename_i same
      cases expected
      exact .byte next (same ▸ ascii)
    · cases expected

theorem takesText_readCodeEscape (here : Cursor) : TakesText here (readCodeEscape here) := by
  unfold readCodeEscape
  apply TakesText.bind
  rintro ⟨high, behindHigh⟩ first
  refine .after (takesText_readQuad _ _ _ first) ?_
  simp only
  split
  · exact .fail _ _
  · split
    · exact .ok (.refl _) _
    · apply TakesText.bind
      intro behindMark expected
      refine .after (textUpTo_expectInEscape (by decide) expected) ?_
      apply TakesText.bind
      intro behindLetter expected'
      refine .after (textUpTo_expectInEscape (by decide) expected') ?_
      apply TakesText.bind
      rintro ⟨low, behindLow⟩ second
      refine .after (takesText_readQuad _ _ _ second) ?_
      simp only
      split
      · exact .fail _ _
      · exact .ok (.refl _) _

def OneChar (bytes : Bytes) : Prop := ∃ c, String.utf8EncodeChar c = bytes

theorem oneChar_readCodeEscape (here : Cursor) : Reads OneChar (readCodeEscape here) := by
  unfold readCodeEscape
  apply Reads.bind
  rintro ⟨high, behindHigh⟩ -
  simp only
  split
  · exact .fail _ _
  · split
    · exact .ok ⟨_, rfl⟩ _
    · apply Reads.bind
      intro behindMark _
      apply Reads.bind
      intro behindLetter _
      apply Reads.bind
      rintro ⟨low, behindLow⟩ -
      simp only
      split
      · exact .fail _ _
      · exact .ok ⟨_, rfl⟩ _

theorem takesText_readEscape (here : Cursor) : TakesText here (readEscape here) := by
  rw [readEscape]
  split
  · exact .fail _ _
  · rename_i b next
    have behind {c : Char} (same : Char.ofNat b.toNat = c) (ascii : c.toNat < 128) :
        here.TextUpTo here.advance := .char next same ascii
    simp only
    split
    case h_9 same => exact .after (behind same (by decide)) (takesText_readCodeEscape _)
    case h_10 => exact .fail _ _
    -- All other letters stand for one character each.
    all_goals
      rename_i same
      exact .ok (behind same (by decide)) _

theorem oneChar_readEscape (here : Cursor) : Reads OneChar (readEscape here) := by
  rw [readEscape]
  split
  · exact .fail _ _
  · simp only
    split
    · exact .ok ⟨'"', rfl⟩ _
    · exact .ok ⟨'\\', rfl⟩ _
    · exact .ok ⟨'/', rfl⟩ _
    · exact .ok ⟨'\x08', rfl⟩ _
    · exact .ok ⟨'\x0c', rfl⟩ _
    · exact .ok ⟨'\n', rfl⟩ _
    · exact .ok ⟨'\r', rfl⟩ _
    · exact .ok ⟨'\t', rfl⟩ _
    · exact oneChar_readCodeEscape _
    · exact .fail _ _

/-- Of a string so far, `done` was cut off as text. When it ends, so were the bytes from there
on. -/
theorem readStringFrom_text (fuel : Nat) {read : Bytes} {decoded : String}
    (reads : readStringFrom fuel read here = .ok (decoded, there)) :
    (∃ more, Encoded (read.reverse ++ more)) ∧
    ∀ done pending, read.reverse = done ++ pending → Encoded done → Encoded there.rest →
      Encoded (pending ++ here.rest) := by
  induction fuel generalizing read here with
  | zero => cases reads
  | succ fuel ih =>
    rw [readStringFrom] at reads
    split at reads
    · cases reads
    · rename_i b rest stands
      have next : here.peek? = some b := by rw [Cursor.peek?, stands]; rfl
      have whole : here.rest = b :: here.advance.rest := Cursor.stands_of_peek next
      simp only at reads
      split at reads
      · rename_i quote
        split at reads
        · rename_i text good
          cases reads
          have encoded : Encoded read.reverse := ⟨decoded, decodeUtf8_ok.mp good⟩
          refine ⟨⟨[], by rwa [List.append_nil]⟩, fun done pending parts first rest => ?_⟩
          rw [parts] at encoded
          have ascii : b.toNat < 0x80 := by rw [quote]; decide
          rw [whole]
          exact (encoded.after first).append (.cons ascii rest)
        · cases reads
      · split at reads
        · rename_i mark
          split at reads
          · rename_i bytes behind escape
            obtain ⟨c, rfl⟩ := oneChar_readEscape _ _ _ escape
            obtain ⟨⟨more, encoded⟩, later⟩ := ih reads
            rw [List.reverse_append, List.reverse_reverse, List.append_assoc] at encoded
            refine ⟨⟨_, encoded⟩, fun done pending parts first rest => ?_⟩
            -- The escape is a character of its own, so what stands before it is text as well.
            obtain ⟨lead, tail, bytes, begins, -⟩ := encode_shape c
            have before : Encoded read.reverse := by
              rw [bytes, List.cons_append] at encoded
              exact encoded.before begins
            have upToEscape : Encoded pending := by
              rw [parts] at before
              exact before.after first
            have behindEscape : Encoded behind.rest :=
              later _ [] (by simp) (before.append (.char c)) rest
            have ascii : b.toNat < 0x80 := by rw [mark]; decide
            rw [whole]
            exact upToEscape.append (.cons ascii (takesText_readEscape _ _ _ escape behindEscape))
          · cases reads
        · split at reads
          · cases reads
          · obtain ⟨⟨more, encoded⟩, later⟩ := ih reads
            refine ⟨⟨b :: more, by simpa using encoded⟩, fun done pending parts first rest => ?_⟩
            have grown := later done (pending ++ [b]) (by simp [parts]) first rest
            rw [whole]
            simpa using grown

theorem takesText_readString (here : Cursor) : TakesText here (readString here) :=
  fun _ _ reads => (readStringFrom_text _ reads).2 [] [] rfl .nil

theorem takesText_readText (here : Cursor) :
    TakesText here ((readString here).map fun (decoded, here) => (Json.text decoded, here)) := by
  cases reads : readString here with
  | error e => exact nofun
  | ok found => exact .ok (takesText_readString here _ _ reads) _

variable {item : Cursor → Read Json}

theorem takesText_readItems (takes : ∀ here, TakesText here (item here)) (fuel : Nat) (first : Bool)
    (read : List Json) (here : Cursor) : TakesText here (readItems item fuel first read here) := by
  induction fuel generalizing first read here with
  | zero => exact .fail _ _
  | succ fuel ih =>
    simp only [readItems]
    refine .after (.skipBlanks here) ?_
    generalize here.skipBlanks = here
    split
    · exact .fail _ _
    · rename_i b next
      split
      · rename_i close
        exact .ok (.byte next (by rw [close]; decide)) _
      · -- An item follows wherever the comma before it was in order.
        have follows (start : Cursor) (upTo : here.TextUpTo start) :
            TakesText here (item start >>= fun found =>
              readItems item fuel false (found.1 :: read) found.2) := by
          refine .after upTo (.bind ?_)
          rintro ⟨value, there⟩ reads
          exact .after (takes _ _ _ reads) (ih _ _ _)
        split
        · exact follows here (.refl here)
        · split
          · rename_i comma
            have behindComma : here.TextUpTo here.advance.skipBlanks :=
              (Cursor.TextUpTo.byte next (by rw [comma]; decide)).trans (.skipBlanks _)
            split
            · exact .fail _ _
            · split
              · exact .fail _ _
              · exact follows _ behindComma
          · exact .fail _ _

theorem takesText_readField (takes : ∀ here, TakesText here (item here))
    (quote : here.peek? = some 34) : TakesText here (readField item here) := by
  simp only [readField]
  refine .after (.byte quote (by decide)) (.bind ?_)
  rintro ⟨key, behindKey⟩ reads
  refine .after ((takesText_readString _ _ _ reads).trans (.skipBlanks _)) ?_
  simp only
  split
  · exact .fail _ _
  · rename_i b next
    split
    · rename_i colon
      refine .after (.byte next (by rw [colon]; decide)) (.bind ?_)
      rintro ⟨value, there⟩ reads
      exact .after (takes _ _ _ reads) (.ok (.refl _) _)
    · exact .fail _ _

theorem takesText_readFields (takes : ∀ here, TakesText here (item here)) (fuel : Nat)
    (first : Bool) (read : Fields Json) (here : Cursor) :
    TakesText here (readFields item fuel first read here) := by
  induction fuel generalizing first read here with
  | zero => exact .fail _ _
  | succ fuel ih =>
    simp only [readFields]
    refine .after (.skipBlanks here) ?_
    generalize here.skipBlanks = here
    split
    · exact .fail _ _
    · rename_i b next
      split
      · rename_i close
        exact .ok (.byte next (by rw [close]; decide)) _
      · have follows (start : Cursor) (upTo : here.TextUpTo start) (quote : start.peek? = some 34) :
            TakesText here (readField item start >>= fun found =>
              readFields item fuel false (Fields.insert found.1.1 found.1.2 read) found.2) := by
          refine .after upTo (.bind ?_)
          rintro ⟨⟨key, value⟩, there⟩ reads
          exact .after (takesText_readField takes quote _ _ reads) (ih _ _ _)
        split
        · split
          · rename_i quote
            exact follows here (.refl here) (quote ▸ next)
          · exact .fail _ _
        · split
          · rename_i comma
            have behindComma : here.TextUpTo here.advance.skipBlanks :=
              (Cursor.TextUpTo.byte next (by rw [comma]; decide)).trans (.skipBlanks _)
            split
            · exact .fail _ _
            · rename_i c after
              split
              · rename_i quote
                exact follows _ behindComma (quote ▸ after)
              · split
                · exact .fail _ _
                · exact .fail _ _
          · exact .fail _ _

theorem takesText_readValue (depth : Nat) (here : Cursor) :
    TakesText here (readValue depth here) := by
  -- Only containers go one level down; everything else is read here.
  induction depth using Nat.strongRecOn generalizing here with
  | _ depth ih =>
    unfold readValue
    simp only
    refine .after (.skipBlanks here) ?_
    generalize here.skipBlanks = here
    split
    · exact .fail _ _
    · rename_i b next
      have behind {c : Char} (same : Char.ofNat b.toNat = c) (ascii : c.toNat < 128) :
          here.TextUpTo here.advance := .char next same ascii
      split
      · rename_i same
        exact .after (behind same (by decide)) (takesText_readWord _ _ (by decide) _)
      · rename_i same
        exact .after (behind same (by decide)) (takesText_readWord _ _ (by decide) _)
      · rename_i same
        exact .after (behind same (by decide)) (takesText_readWord _ _ (by decide) _)
      · rename_i same
        exact .after (behind same (by decide)) (takesText_readNumber _ _)
      · rename_i same
        exact .after (behind same (by decide)) (takesText_readText _)
      · rename_i same
        split
        · exact .fail _ _
        · rename_i inner
          exact .after (behind same (by decide))
            (takesText_readItems (ih inner (Nat.lt_succ_self inner)) _ _ _ _)
      · rename_i same
        split
        · exact .fail _ _
        · rename_i inner
          exact .after (behind same (by decide))
            (takesText_readFields (ih inner (Nat.lt_succ_self inner)) _ _ _ _)
      · split
        · exact takesText_readNumber _ _
        · exact .fail _ _

theorem encoded_of_read {bytes : Bytes} {document : Json} (reads : read bytes = .ok document) :
    Encoded bytes := by
  rw [read, readDeep] at reads
  cases value : readValue depthLimit (.start bytes) with
  | error e =>
    rw [value] at reads
    cases reads
  | ok found =>
    rw [value] at reads
    simp only [bind, Except.bind] at reads
    split at reads
    · rename_i none
      have upToEnd := (takesText_readValue _ _ _ _ value).trans (.skipBlanks _)
      refine upToEnd ?_
      rw [List.isEmpty_iff.mp none]
      exact .nil
    · cases reads

end FluentAssert.Json
