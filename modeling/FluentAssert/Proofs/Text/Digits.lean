/-! Digits tell numbers apart, and so do the texts of integers. -/
namespace FluentAssert.Text

theorem digitChar_inj {m n : Nat} (small : m < 16) (small' : n < 16)
    (same : m.digitChar = n.digitChar) : m = n := by
  have table : ∀ m : Fin 16, ∀ n : Fin 16, m.val.digitChar = n.val.digitChar → m = n := by decide
  exact congrArg Fin.val (table ⟨m, small⟩ ⟨n, small'⟩ same)

theorem toDigits_inj {base m n : Nat} (large : 1 < base) (bounded : base ≤ 16)
    (same : Nat.toDigits base m = Nat.toDigits base n) : m = n := by
  induction m using Nat.strongRecOn generalizing n with
  | ind m ih =>
    rw [Nat.toDigits_eq_if large, Nat.toDigits_eq_if (n := n) large] at same
    split at same
    · rename_i small
      split at same
      · rename_i small'
        exact digitChar_inj (by omega) (by omega) (List.cons.inj same).1
      · have lengths := congrArg List.length same
        simp [Nat.toDigits_ne_nil] at lengths
    · rename_i more
      split at same
      · have lengths := congrArg List.length same
        simp [Nat.toDigits_ne_nil] at lengths
      · obtain ⟨upper, lower⟩ := List.append_inj' same rfl
        have digit (k : Nat) : k % base < 16 :=
          Nat.lt_of_lt_of_le (Nat.mod_lt k (Nat.zero_lt_of_lt large)) bounded
        have quotients : m / base = n / base :=
          ih (m / base) (Nat.div_lt_self (by omega) large) upper
        have remainders : m % base = n % base :=
          digitChar_inj (digit m) (digit n) (List.cons.inj lower).1
        rw [← Nat.div_add_mod m base, ← Nat.div_add_mod n base, quotients, remainders]

theorem natural_inj {n m : Nat} (same : toString n = toString m) : n = m := by
  simp only [Nat.toString_eq_ofList_toDigits, String.ofList_inj] at same
  exact toDigits_inj (by decide) (by decide) same

/-- A natural number, or a minus and one that is not zero. -/
theorem integer_chars (n : Int) :
    (∃ m : Nat, n = m ∧ (toString n).toList = Nat.toDigits 10 m) ∨
      ∃ m : Nat, m ≠ 0 ∧ n = -m ∧ (toString n).toList = '-' :: Nat.toDigits 10 m := by
  cases n with
  | ofNat m =>
    refine .inl ⟨m, rfl, ?_⟩
    show (Nat.repr m).toList = _
    rw [Nat.repr_eq_ofList_toDigits, String.toList_ofList]
  | negSucc m =>
    refine .inr ⟨m + 1, Nat.succ_ne_zero m, Int.negSucc_eq m, ?_⟩
    show ("-" ++ Nat.repr (m + 1)).toList = _
    simp [Nat.repr_eq_ofList_toDigits]

theorem minus_not_mem_toDigits (n : Nat) : '-' ∉ Nat.toDigits 10 n := by
  intro inside
  have digit : '-'.isDigit = true := Nat.isDigit_of_mem_toDigits (by decide) (by decide) inside
  exact absurd digit (by decide)

theorem integer_inj {n m : Int} (same : toString n = toString m) : n = m := by
  have chars : (toString n).toList = (toString m).toList := congrArg String.toList same
  rcases integer_chars n with ⟨a, rfl, left⟩ | ⟨a, -, rfl, left⟩ <;>
    rcases integer_chars m with ⟨b, rfl, right⟩ | ⟨b, -, rfl, right⟩ <;>
    rw [left, right] at chars
  · rw [toDigits_inj (by decide) (by decide) chars]
  · exact absurd (chars ▸ List.mem_cons_self) (minus_not_mem_toDigits a)
  · exact absurd (chars ▸ List.mem_cons_self) (minus_not_mem_toDigits b)
  · rw [toDigits_inj (by decide) (by decide) (List.cons.inj chars).2]

end FluentAssert.Text
