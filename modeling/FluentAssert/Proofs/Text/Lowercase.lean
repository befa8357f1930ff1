import Mathlib.Data.List.Forall2
import FluentAssert.Node.Text

/-! Lowercase of a part of a text. Only capital sigmas look at what stands around them. What a
letter on either side leaves as it is, is the same in lowercase wherever it stands. -/
namespace FluentAssert.Text

variable {before before' after after' text part l l' : List Char}

theorem occursIn_iff : occursIn part text = true ↔ part <:+: text := by
  induction text with
  | nil => simp [occursIn]
  | cons c text ih =>
    rw [occursIn, Bool.or_eq_true, ih, List.isPrefixOf_iff_prefix, List.infix_cons_iff]

def lowercaseAt (before after : List Char) (c : Char) : List Char :=
  if c.toNat = 0x3A3 then
    [Char.ofNat (if leadsToCased before && !leadsToCased after then 0x3C2 else 0x3C3)]
  else lowercaseChar c

def lowercaseWithin (before after : List Char) : List Char → List Char
  | [] => []
  | c :: rest => lowercaseAt before (rest ++ after) c ++ lowercaseWithin (c :: before) after rest

theorem lowercaseAfter_append (before text after : List Char) :
    lowercaseAfter before (text ++ after) =
      lowercaseWithin before after text ++ lowercaseAfter (text.reverse ++ before) after := by
  induction text generalizing before with
  | nil => rfl
  | cons c text ih =>
    rw [List.cons_append, lowercaseAfter, ih, lowercaseWithin, List.append_assoc,
      List.reverse_cons, List.append_assoc]
    rfl

theorem lowercaseWithin_nil (before text : List Char) :
    lowercaseWithin before [] text = lowercaseAfter before text := by
  have whole := lowercaseAfter_append before text []
  rw [List.append_nil, lowercaseAfter, List.append_nil] at whole
  exact whole.symm

theorem lowercaseWithin_plain (plain : 'Σ' ∉ text) (before after : List Char) :
    lowercaseWithin before after text = text.flatMap lowercaseChar := by
  induction text generalizing before with
  | nil => rfl
  | cons c text ih =>
    obtain ⟨other, rest⟩ := not_or.mp (mt List.mem_cons.mpr plain)
    have small : c.toNat ≠ 0x3A3 := fun same => other (Char.toNat_inj.mp same).symm
    rw [lowercaseWithin, ih rest, lowercaseAt, if_neg small, List.flatMap_cons]

theorem leadsToCased_append : leadsToCased (text ++ after) =
    if text.all isCaseIgnorable then leadsToCased after else leadsToCased text := by
  induction text with
  | nil => rfl
  | cons c text ih =>
    cases ignorable : isCaseIgnorable c with
    | true => simpa [leadsToCased, ignorable] using ih
    | false => simp [leadsToCased, ignorable]

theorem leadsToCased_mono (text : List Char)
    (leads : leadsToCased after = true → leadsToCased after' = true)
    (cased : leadsToCased (text ++ after) = true) : leadsToCased (text ++ after') = true := by
  rw [leadsToCased_append] at cased ⊢
  split at cased
  · rename_i all
    rw [if_pos all]
    exact leads cased
  · rename_i some
    rwa [if_neg some]

/-- The same characters, but for sigmas that are final in the second text only. -/
def Rises (l l' : List Char) : Prop := List.Forall₂ (fun c d => c = d ∨ c = 'σ' ∧ d = 'ς') l l'

namespace Rises

theorem same (l : List Char) : Rises l l := List.forall₂_same.mpr fun _ _ => .inl rfl

theorem antisymm (h : Rises l l') (h' : Rises l' l) : l = l' := by
  induction h with
  | nil => rfl
  | cons rise _ ih =>
    cases h' with
    | cons fall rest =>
      rw [ih rest]
      rcases rise with rfl | ⟨rfl, rfl⟩
      · rfl
      · rcases fall with same | ⟨same, -⟩ <;> exact absurd same (by decide)

/-- What is final in the second text only is missing among the final sigmas of the first one and
among the others of the second. -/
theorem count (h : Rises l l') : ∃ k, l'.count 'ς' = l.count 'ς' + k ∧
    l.count 'σ' = l'.count 'σ' + k ∧ (k = 0 → l = l') := by
  induction h with
  | nil => exact ⟨0, rfl, rfl, fun _ => rfl⟩
  | cons rise _ ih =>
    obtain ⟨k, finals, others, none⟩ := ih
    rcases rise with rfl | ⟨rfl, rfl⟩
    · refine ⟨k, ?_, ?_, fun zero => by rw [none zero]⟩
      · simp only [List.count_cons, finals]
        omega
      · simp only [List.count_cons, others]
        omega
    · refine ⟨k + 1, ?_, ?_, nofun⟩
      · simp [finals]
        omega
      · simp [others]
        omega

end Rises

theorem rises_lowercaseAt (leads : leadsToCased before = true → leadsToCased before' = true)
    (ends : leadsToCased after' = true → leadsToCased after = true) (c : Char) :
    Rises (lowercaseAt before after c) (lowercaseAt before' after' c) := by
  unfold lowercaseAt
  split
  · refine .cons ?_ .nil
    by_cases final : (leadsToCased before && !leadsToCased after) = true
    · have final' : (leadsToCased before' && !leadsToCased after') = true := by
        rw [Bool.and_eq_true, Bool.not_eq_true'] at final ⊢
        exact ⟨leads final.1, Bool.eq_false_iff.mpr fun later => by simp [ends later] at final⟩
      exact .inl (by rw [if_pos final, if_pos final'])
    · rw [if_neg final]
      split
      · exact .inr ⟨rfl, rfl⟩
      · exact .inl rfl
  · exact .same _

theorem rises_lowercaseWithin (leads : leadsToCased before = true → leadsToCased before' = true)
    (ends : leadsToCased after' = true → leadsToCased after = true) (text : List Char) :
    Rises (lowercaseWithin before after text) (lowercaseWithin before' after' text) := by
  induction text generalizing before before' with
  | nil => exact .nil
  | cons c text ih =>
    have first := rises_lowercaseAt leads (leadsToCased_mono text ends) c
    exact List.rel_append first (ih (leadsToCased_mono [c] leads))

theorem letter_leads : leadsToCased ['A'] = true := by decide +kernel

theorem letter_lowercase (before after : List Char) : lowercaseAt before after 'A' = ['a'] := by
  have plain : lowercaseChar 'A' = ['a'] := by decide +kernel
  rw [lowercaseAt, if_neg (by decide), plain]

theorem nothing_leads (leads : leadsToCased [] = true) (before : List Char) :
    leadsToCased before = true := by
  cases leads

theorem rises_behind (before after text : List Char) :
    Rises (lowercaseWithin before after text) (lowercaseWithin ['A'] [] text) :=
  rises_lowercaseWithin (fun _ => letter_leads) (fun leads => nothing_leads leads after) text

theorem rises_ahead (before after text : List Char) :
    Rises (lowercaseWithin [] ['A'] text) (lowercaseWithin before after text) :=
  rises_lowercaseWithin (fun leads => nothing_leads leads before) (fun _ => letter_leads) text

/-- A letter on either side changes nothing about the lowercase of the text. -/
def Settled (text : String) : Prop :=
  lowercase ("A" ++ text) = "a" ++ lowercase text ∧ lowercase (text ++ "A") = lowercase text ++ "a"

instance (text : String) : Decidable (Settled text) := inferInstanceAs (Decidable (_ ∧ _))

variable {s : String}

theorem lowercase_toList (s : String) : (lowercase s).toList = lowercaseWithin [] [] s.toList := by
  rw [lowercase, String.toList_ofList, lowercaseWithin_nil]

theorem lowercase_behind (s : String) :
    (lowercase ("A" ++ s)).toList = 'a' :: lowercaseWithin ['A'] [] s.toList := by
  have first : "A".toList = ['A'] := rfl
  rw [lowercase_toList, String.toList_append, first, List.singleton_append, lowercaseWithin,
    letter_lowercase, List.singleton_append]

theorem lowercase_before (s : String) :
    (lowercase (s ++ "A")).toList = lowercaseWithin [] ['A'] s.toList ++ ['a'] := by
  have last : "A".toList = ['A'] := rfl
  rw [lowercase, String.toList_ofList, String.toList_append, last, lowercaseAfter_append,
    ← lowercaseWithin_nil, lowercaseWithin, letter_lowercase, lowercaseWithin]
  rfl

theorem settled_iff : Settled s ↔
    lowercaseWithin ['A'] [] s.toList = lowercaseWithin [] [] s.toList ∧
      lowercaseWithin [] ['A'] s.toList = lowercaseWithin [] [] s.toList := by
  have first : "a".toList = ['a'] := rfl
  rw [Settled, ← String.toList_inj, ← String.toList_inj, lowercase_behind, lowercase_before,
    String.toList_append, String.toList_append, first, lowercase_toList, List.singleton_append,
    List.cons_inj_right, List.append_left_inj]

theorem Settled.within (settled : Settled s) (before after : List Char) :
    lowercaseWithin before after s.toList = (lowercase s).toList := by
  -- Wherever it stands, it has no more final sigmas than behind a letter and no fewer than before
  -- one, and those two are the same.
  obtain ⟨behind, ahead⟩ := settled_iff.mp settled
  have most := rises_behind before after s.toList
  have least := rises_ahead before after s.toList
  rw [behind] at most
  rw [ahead] at least
  rw [lowercase_toList]
  exact most.antisymm least

theorem settled_of_plain (plain : 'Σ' ∉ s.toList) : Settled s := by
  rw [settled_iff]
  simp only [lowercaseWithin_plain plain, and_self]

theorem containsText_iff {text part : String} :
    containsText text part = true ↔ part.toList <:+: text.toList := occursIn_iff

theorem Settled.contains {text part : String} (settled : Settled part)
    (contains : containsText text part = true) :
    containsText (lowercase text) (lowercase part) = true := by
  rw [containsText_iff] at contains ⊢
  obtain ⟨before, after, whole⟩ := contains
  let passed := part.toList.reverse ++ before.reverse
  have lower : (lowercase text).toList = lowercaseWithin [] (part.toList ++ after) before ++
      ((lowercase part).toList ++ lowercaseAfter passed after) := by
    rw [lowercase, String.toList_ofList, ← whole, List.append_assoc, lowercaseAfter_append,
      lowercaseAfter_append, settled.within, List.append_nil]
  rw [lower]
  exact ⟨_, _, List.append_assoc ..⟩

theorem settled_of_contains {part : String}
    (behind : containsText (lowercase ("A" ++ part)) (lowercase part) = true)
    (ahead : containsText (lowercase (part ++ "A")) (lowercase part) = true) : Settled part := by
  rw [containsText_iff, lowercase_toList part] at behind ahead
  rw [lowercase_behind] at behind
  rw [lowercase_before] at ahead
  -- Behind a letter more sigmas are final, so fewer are left to match the others; before a letter
  -- it is the other way round.
  obtain ⟨k, -, others, none⟩ := (rises_behind [] [] part.toList).count
  obtain ⟨k', finals, -, none'⟩ := (rises_ahead [] [] part.toList).count
  have few := behind.sublist.count_le 'σ'
  have few' := ahead.sublist.count_le 'ς'
  rw [List.count_cons_of_ne (by decide)] at few
  rw [List.count_append, List.count_singleton, if_neg (by decide)] at few'
  exact settled_iff.mpr ⟨(none (by omega)).symm, none' (by omega)⟩

end FluentAssert.Text
