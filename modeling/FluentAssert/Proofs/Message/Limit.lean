import FluentAssert.Proofs.Message.Parts

/-! The limit on texts of values. A text within the limit is shown whole, and of a longer one the
front with three dots. A message is cut nowhere else. -/
namespace FluentAssert.Message

/-- How a full text is shown under a limit. Dots are never cut, so below three characters there is
no room for them. -/
structure Cut (limit : Nat) (full shown : String) : Prop where
  whole : full.length ≤ limit → shown = full
  marked : limit < full.length → ∃ kept rest : String,
    full = kept ++ rest ∧ kept.length = limit - 3 ∧ shown = kept ++ "..."
  within : shown.length ≤ limit ↔ full.length ≤ limit ∨ 3 ≤ limit

theorem truncate_cut (settings : Settings) (full : String) :
    Cut settings.truncateAt full (truncate settings full) := by
  unfold truncate
  split
  · rename_i fits
    refine ⟨fun _ => rfl, fun long => ?_, ?_⟩
    · omega
    · simp [fits]
  · rename_i long
    have characters : full.toList.length = full.length := String.length_toList
    have kept : (String.ofList (full.toList.take (settings.truncateAt - 3))).length =
        settings.truncateAt - 3 := by
      rw [String.length_ofList, List.length_take]
      omega
    refine ⟨fun fits => absurd fits long, fun _ => ?_, ?_⟩
    · refine ⟨_, String.ofList (full.toList.drop (settings.truncateAt - 3)), ?_, kept, rfl⟩
      rw [← String.ofList_append, List.take_append_drop, String.ofList_toList]
    · have dots : "...".length = 3 := rfl
      rw [String.length_append, kept, dots]
      omega

/-- Every value is cut for itself, and the rest of a message is the same under every limit. A shown
value is longer than the limit only where the three dots are. -/
theorem values_limited (settings : Settings) (outcome : Outcome) :
    (∀ limit value,
      Cut limit (fullText value) (valueText { settings with truncateAt := limit } value)) ∧
    ∃ before between after : String, ∀ limit,
      let limited : Settings := { settings with truncateAt := limit }
      failure limited outcome = before ++
        ifPresent (told ((expectedValues outcome.finding).map (valueText limited)))
          (labeled (paint settings yellow "expected:")) ++
        between ++
        (ifPresent outcome.finding.actual fun actual =>
          labeled (paint settings yellow "actual:") (valueText limited actual)) ++
        after := by
  constructor
  · intro limit value
    exact truncate_cut { settings with truncateAt := limit } (fullText value)
  · refine ⟨opening settings outcome, deltaText settings outcome, diffSection settings outcome,
      fun limit => ?_⟩
    dsimp only
    rw [failure_parts, expectedText?_eq]
    rfl

/-- Without room for the dots, they are there nevertheless. -/
theorem limit_exceeded :
    let settings : Settings := { truncateAt := 0 }
    let value := Canonical.text "a very long string indeed"
    let outcome : Outcome := ⟨⟨some "test_users", ["value()", "is_equal()"], ⟨0⟩⟩,
      ⟨.equal, some value, [.text "x"], none, ["expected: values are equal"]⟩⟩
    settings.truncateAt < (valueText settings value).length ∧
      failure settings outcome =
        "assertion failed: is equal\n  test name: test_users\n" ++
        "  assertion: value().is_equal()\n  errors:\n    expected: values are equal\n" ++
        "  expected: ...\n  actual: ...\n" := by
  intro settings value outcome
  have actual : valueText settings value = "..." := by decide +kernel
  have expected : expectedText? settings outcome.finding = some "..." := by decide +kernel
  have line (label : String) : labeled label "..." = "  " ++ label ++ " ...\n" := by
    apply String.toList_injective
    simp [labeled]
  constructor
  · rw [actual]
    decide
  · rw [failure_parts, expected]
    show opening settings outcome ++ labeled _ "..." ++ deltaText settings outcome ++
      labeled _ (valueText settings value) ++ diffSection settings outcome = _
    rw [actual, line, line]
    decide +kernel

end FluentAssert.Message
