import FluentAssert.Json.Reader
import FluentAssert.Proofs.Fields

/-! What readers of JSON give. Whatever text a document is read from, its integers are ones that 64
bits hold, and the keys of its objects are in order. -/
namespace FluentAssert.Json

inductive Proper : Json → Prop where
  | null : Proper .null
  | bool (b : Bool) : Proper (.bool b)
  | integer {n : Int} : KeptInteger n → Proper (.integer n)
  | real (x : Double) : Proper (.real x)
  | text (s : String) : Proper (.text s)
  | list {items : List Json} : (∀ item ∈ items, Proper item) → Proper (.list items)
  | object {fields : Fields Json} :
    fields.Ordered → (∀ field ∈ fields, Proper field.2) → Proper (.object fields)

/-- What is read, if anything is. -/
def Reads {α : Type} (P : α → Prop) (result : Except ReadError (α × Cursor)) : Prop :=
  ∀ a there, result = .ok (a, there) → P a

namespace Reads

variable {α β : Type} {P : α → Prop}

theorem ok {a : α} (holds : P a) (here : Cursor) : Reads P (.ok (a, here)) := by
  intro _ _ same
  cases same
  exact holds

theorem fail (here : Cursor) (fault : Fault) : Reads P (here.fail fault) := by
  intro _ _ same
  cases same

theorem bind {first : Except ReadError β} {next : β → Except ReadError (α × Cursor)}
    (after : ∀ b, first = .ok b → Reads P (next b)) :
    Reads P (first >>= next) := by
  intro a there same
  cases first with
  | error e => cases same
  | ok b => exact after b rfl a there same

end Reads

theorem proper_readWord {value : Json} (proper : value.Proper) (word : List Char) (here : Cursor) :
    Reads Proper (readWord value word here) := by
  induction word generalizing here with
  | nil => exact .ok proper here
  | cons c word ih =>
    rw [readWord]
    split
    · exact .fail here _
    · split
      · exact ih here.advance
      · exact .fail _ _

theorem proper_realOf (negative : Bool) (significand : Nat) (e : Int) (here : Cursor) :
    Reads Proper (realOf negative significand e here) := by
  rw [realOf]
  split
  · exact .ok (.real _) here
  · exact .fail here _

theorem proper_readExponent (negative : Bool) (significand : Nat) (base : Int) (here : Cursor) :
    Reads Proper (readExponent negative significand base here) := by
  simp only [readExponent]
  split
  · exact .fail _ _
  · exact .fail _ _
  · split
    · exact proper_realOf _ _ _ _
    · split
      · exact .fail _ _
      · exact .ok (.real _) _

theorem proper_readFraction (negative : Bool) (significand : Nat) (base : Int) (here : Cursor) :
    Reads Proper (readFraction negative significand base here) := by
  simp only [readFraction]
  split
  · split
    · exact .fail _ _
    · exact .fail _ _
  · rw [readAfterFraction]
    split
    · exact proper_readExponent _ _ _ _
    · exact proper_realOf _ _ _ _

theorem digitAt_le {here : Cursor} {d : Nat} (digit : digitAt here = some d) : d ≤ 9 := by
  rw [digitAt] at digit
  split at digit
  · rename_i isDigit
    have bounds : 48 ≤ here.peekChar.toNat ∧ here.peekChar.toNat ≤ 57 :=
      Char.isDigit_iff_toNat.mp isDigit
    cases digit
    show here.peekChar.toNat - 48 ≤ 9
    omega
  · cases digit

theorem wholeDigits_le (fuel : Nat) {significand : Nat} (bound : significand ≤ significandLimit)
    (dropped : Nat) (here : Cursor) :
    (wholeDigits fuel significand dropped here).1 ≤ significandLimit := by
  induction fuel generalizing significand dropped here with
  | zero => exact bound
  | succ fuel ih =>
    rw [wholeDigits]
    split
    · exact bound
    · split
      · rename_i fits
        exact ih fits.2 _ _
      · -- A digit that would take the significand beyond its limit is dropped.
        exact ih bound _ _

theorem proper_readAfterWhole (negative : Bool) {significand : Nat}
    (bound : significand ≤ significandLimit) (dropped : Nat) (here : Cursor) :
    Reads Proper (readAfterWhole negative significand dropped here) := by
  have limit : significandLimit = 2 ^ 64 - 1 := rfl
  simp only [readAfterWhole]
  split
  · exact proper_readFraction _ _ _ _
  · split
    · exact proper_readExponent _ _ _ _
    · split
      · exact proper_realOf _ _ _ _
      · split
        · split
          · exact .ok (.real _) here
          · rename_i small
            refine .ok (.integer ?_) here
            simp only [KeptInteger, Nat.pow_eq, not_or] at small ⊢
            omega
        · refine .ok (.integer ?_) here
          simp only [KeptInteger, Nat.pow_eq]
          omega

theorem proper_readNumber (negative : Bool) (here : Cursor) :
    Reads Proper (readNumber negative here) := by
  simp only [readNumber]
  split
  · exact .fail _ _
  · exact .fail _ _
  · rename_i first _ digit
    split
    · split
      · exact .fail _ _
      · exact proper_readAfterWhole negative (Nat.zero_le _) _ _
    · have small : first ≤ significandLimit := Nat.le_trans (digitAt_le digit) (by decide)
      exact proper_readAfterWhole negative (wholeDigits_le _ small _ _) _ _

variable {item : Cursor → Read Json}

theorem proper_readItems (sound : ∀ here, Reads Proper (item here)) (fuel : Nat) (first : Bool)
    {read : List Json} (proper : ∀ value ∈ read, value.Proper) (here : Cursor) :
    Reads Proper (readItems item fuel first read here) := by
  induction fuel generalizing first read here with
  | zero => exact .fail here _
  | succ fuel ih =>
    simp only [readItems]
    split
    · exact .fail _ _
    · split
      · refine .ok (.list ?_) _
        intro value member
        exact proper value (List.mem_reverse.mp member)
      · -- An item follows wherever the comma before it was in order.
        have next (there : Except ReadError Cursor) : Reads Proper (there >>= fun here =>
            item here >>= fun found => readItems item fuel false (found.1 :: read) found.2) := by
          apply Reads.bind
          intro here _
          apply Reads.bind
          rintro ⟨value, there⟩ reads
          exact ih _ (List.forall_mem_cons.mpr ⟨sound _ _ _ reads, proper⟩) _
        split
        · exact next _
        · split
          · split
            · exact next _
            · split
              · exact next _
              · exact next _
          · exact next _

theorem proper_readField (sound : ∀ here, Reads Proper (item here)) (here : Cursor) :
    Reads (fun field : String × Json => field.2.Proper) (readField item here) := by
  simp only [readField]
  apply Reads.bind
  rintro ⟨key, there⟩ _
  split
  · exact .fail _ _
  · split
    · apply Reads.bind
      rintro ⟨value, there⟩ reads
      have proper : value.Proper := sound _ _ _ reads
      exact Reads.ok (P := fun field : String × Json => field.2.Proper) proper there
    · exact .fail _ _

theorem proper_readFields (sound : ∀ here, Reads Proper (item here)) (fuel : Nat) (first : Bool)
    {read : Fields Json} (ordered : read.Ordered) (proper : ∀ field ∈ read, field.2.Proper)
    (here : Cursor) : Reads Proper (readFields item fuel first read here) := by
  induction fuel generalizing first read here with
  | zero => exact .fail here _
  | succ fuel ih =>
    simp only [readFields]
    split
    · exact .fail _ _
    · split
      · exact .ok (.object ordered proper) _
      · have next (there : Except ReadError Cursor) : Reads Proper (there >>= fun here =>
            readField item here >>= fun found =>
              readFields item fuel false (Fields.insert found.1.1 found.1.2 read) found.2) := by
          apply Reads.bind
          intro here _
          apply Reads.bind
          rintro ⟨⟨key, value⟩, there⟩ reads
          apply ih _ (Fields.ordered_insert ordered)
          intro field member
          rcases Fields.mem_insert member with rfl | old
          · exact proper_readField sound _ _ _ reads
          · exact proper field old
        split
        · split
          · exact next _
          · exact next _
        · split
          · split
            · exact next _
            · split
              · exact next _
              · split
                · exact next _
                · exact next _
          · exact next _

theorem proper_readString (here : Cursor) :
    Reads Proper ((readString here).map fun (decoded, here) => (.text decoded, here)) := by
  cases readString here with
  | error e => exact nofun
  | ok found => exact .ok (.text found.1) found.2

theorem proper_readValue (depth : Nat) (here : Cursor) : Reads Proper (readValue depth here) := by
  -- Only containers go one level down; everything else is read here.
  induction depth using Nat.strongRecOn generalizing here with
  | _ depth ih =>
    unfold readValue
    simp only
    split
    · exact .fail _ _
    · split
      · exact proper_readWord .null _ _
      · exact proper_readWord (.bool true) _ _
      · exact proper_readWord (.bool false) _ _
      · exact proper_readNumber true _
      · exact proper_readString _
      · split
        · exact .fail _ _
        · rename_i inner
          exact proper_readItems (ih inner (Nat.lt_succ_self inner)) _ _ (List.forall_mem_nil _) _
      · split
        · exact .fail _ _
        · rename_i inner
          exact proper_readFields (ih inner (Nat.lt_succ_self inner)) _ _ Fields.ordered_nil
            (List.forall_mem_nil _) _
      · split
        · exact proper_readNumber false _
        · exact .fail _ _

theorem proper_of_read {bytes : Text.Bytes} {document : Json} (reads : read bytes = .ok document) :
    document.Proper := by
  rw [read, readDeep] at reads
  cases value : readValue depthLimit (.start bytes) with
  | error e =>
    rw [value] at reads
    cases reads
  | ok found =>
    have proper : found.1.Proper := proper_readValue _ _ _ _ value
    rw [value] at reads
    simp only [bind, Except.bind] at reads
    split at reads
    · cases reads
      exact proper
    · cases reads

end FluentAssert.Json
