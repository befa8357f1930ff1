import FluentAssert.Proofs.Text.Digits
import FluentAssert.Text.Quoted

/-! Quoted text can be read back: no two texts are quoted alike. An escape is never the beginning of
another one, and neither is what stands for a character by itself. -/
namespace FluentAssert.Text

theorem brace_not_mem_toDigits (n : Nat) : '\x7d' ∉ Nat.toDigits 16 n := by
  have digit : ∀ m : Fin 16, m.val.digitChar ≠ '\x7d' := by decide
  induction n using Nat.strongRecOn with
  | ind n ih =>
    rw [Nat.toDigits_eq_if (by decide)]
    intro member
    split at member
    · rename_i small
      exact digit ⟨n, small⟩ (List.mem_singleton.mp member).symm
    · rename_i large
      rcases List.mem_append.mp member with upper | lower
      · exact ih (n / 16) (by omega) upper
      · exact digit ⟨n % 16, Nat.mod_lt _ (by decide)⟩ (List.mem_singleton.mp lower).symm

/-- What comes before the first mark, and what comes after it. -/
theorem append_mark_inj {mark : Char} {before before' after after' : List Char}
    (clear : mark ∉ before) (clear' : mark ∉ before')
    (same : before ++ mark :: after = before' ++ mark :: after') :
    before = before' ∧ after = after' := by
  induction before generalizing before' with
  | nil =>
    cases before' with
    | nil => exact ⟨rfl, (List.cons.inj same).2⟩
    | cons c rest =>
      have first : mark = c := (List.cons.inj same).1
      exact absurd (first ▸ List.mem_cons_self) clear'
  | cons c rest ih =>
    cases before' with
    | nil =>
      have first : c = mark := (List.cons.inj same).1
      exact absurd (first ▸ List.mem_cons_self) clear
    | cons c' rest' =>
      obtain ⟨first, others⟩ := List.cons.inj same
      obtain ⟨same, ending⟩ := ih (fun member => clear (List.mem_cons_of_mem _ member))
        (fun member => clear' (List.mem_cons_of_mem _ member)) others
      exact ⟨by rw [first, same], ending⟩

theorem escapeCode_append_inj {c c' : Char} {rest rest' : List Char}
    (same : escapeCode c ++ rest = escapeCode c' ++ rest') : c = c' ∧ rest = rest' := by
  simp only [escapeCode, List.cons_append, List.append_assoc, List.nil_append, List.cons.injEq,
    true_and] at same
  obtain ⟨digits, ending⟩ :=
    append_mark_inj (brace_not_mem_toDigits _) (brace_not_mem_toDigits _) same
  exact ⟨Char.toNat_inj.mp (toDigits_inj (by decide) (by decide) digits), ending⟩

def unescape (d : Char) : Char :=
  if d = '0' then '\x00' else if d = 't' then '\t' else if d = 'r' then '\r'
  else if d = 'n' then '\n' else d

theorem escapeQuoted_cases (c : Char) :
    (∃ d, d ≠ 'u' ∧ unescape d = c ∧ escapeQuoted c = ['\\', d]) ∨
      escapeQuoted c = escapeCode c ∨ (c ≠ '\\' ∧ escapeQuoted c = [c]) := by
  unfold escapeQuoted
  split
  · rename_i same
    exact .inl ⟨'0', by decide, same.symm, rfl⟩
  · split
    · rename_i same
      exact .inl ⟨'t', by decide, same.symm, rfl⟩
    · split
      · rename_i same
        exact .inl ⟨'r', by decide, same.symm, rfl⟩
      · split
        · rename_i same
          exact .inl ⟨'n', by decide, same.symm, rfl⟩
        · split
          · rename_i mark
            rcases mark with rfl | rfl
            · exact .inl ⟨'\\', by decide, rfl, rfl⟩
            · exact .inl ⟨'"', by decide, rfl, rfl⟩
          · rename_i plain
            have differs : c ≠ '\\' := fun same => plain (.inl same)
            split
            · exact .inr (.inr ⟨differs, rfl⟩)
            · split
              · exact .inr (.inl rfl)
              · exact .inr (.inr ⟨differs, rfl⟩)

theorem escapeQuoted_append_inj {c c' : Char} {rest rest' : List Char}
    (same : escapeQuoted c ++ rest = escapeQuoted c' ++ rest') : c = c' ∧ rest = rest' := by
  obtain ⟨d, short, meaning, shape⟩ | shape | ⟨plain, shape⟩ := escapeQuoted_cases c
  all_goals obtain ⟨d', short', meaning', shape'⟩ | shape' | ⟨plain', shape'⟩ :=
    escapeQuoted_cases c'
  all_goals rw [shape, shape'] at same
  case inr.inl.inr.inl => exact escapeCode_append_inj same
  -- The first two characters tell a letter, a code and a character by itself apart.
  all_goals
    simp only [escapeCode, List.cons_append, List.nil_append, List.cons.injEq, true_and] at same
  case inl.inl =>
    obtain ⟨letter, ending⟩ := same
    exact ⟨by rw [← meaning, ← meaning', letter], ending⟩
  case inl.inr.inl => exact absurd same.1 short
  case inl.inr.inr => exact absurd same.1.symm plain'
  case inr.inl.inl => exact absurd same.1.symm short'
  case inr.inl.inr.inr => exact absurd same.1.symm plain'
  case inr.inr.inl => exact absurd same.1 plain
  case inr.inr.inr.inl => exact absurd same.1 plain
  case inr.inr.inr.inr => exact same

theorem escapeQuoted_ne_nil (c : Char) : escapeQuoted c ≠ [] := by
  obtain ⟨d, -, -, shape⟩ | shape | ⟨-, shape⟩ := escapeQuoted_cases c
  all_goals rw [shape]; simp [escapeCode]

theorem flatMap_escapeQuoted_inj {chars chars' : List Char}
    (same : chars.flatMap escapeQuoted = chars'.flatMap escapeQuoted) : chars = chars' := by
  induction chars generalizing chars' with
  | nil =>
    cases chars' with
    | nil => rfl
    | cons c rest => simp [escapeQuoted_ne_nil] at same
  | cons c rest ih =>
    cases chars' with
    | nil => simp [escapeQuoted_ne_nil] at same
    | cons c' rest' =>
      rw [List.flatMap_cons, List.flatMap_cons] at same
      obtain ⟨first, others⟩ := escapeQuoted_append_inj same
      rw [first, ih others]

theorem quoted_inj {text text' : String} (same : quoted text = quoted text') : text = text' := by
  have chars := (List.cons.inj (String.ofList_inj.mp same)).2
  exact String.toList_inj.mp (flatMap_escapeQuoted_inj (List.append_cancel_right chars))

end FluentAssert.Text
