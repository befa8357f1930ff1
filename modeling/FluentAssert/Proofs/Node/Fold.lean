import FluentAssert.Proofs.Node.Judgement
import FluentAssert.Proofs.Text.Lowercase

/-! Checks of strings that ignore case beside those that do not. Whole strings that are equal are
equal without their case. A part that occurs in a string occurs in its lowercase if the part is
settled. -/
namespace FluentAssert.TextNode

open FluentAssert.Text

theorem judges_compare (held label : String) (kind : Kind) (holds : Bool)
    (error expected : String) :
    Judges (fun _ id => compare ⟨id, held⟩ label kind holds error expected) (holds = true) := by
  simp only [compare, actual]
  refine (Judges.check label held _).congr ?_
  simp

theorem judges_isEqualFold (s t : String) :
    Judges (fun _ id => isEqualFold ⟨id, s⟩ t) (lowercase s = lowercase t) := by
  simp only [isEqualFold]
  exact (judges_compare ..).congr beq_iff_eq

theorem judges_notEqual (s t : String) : Judges (fun _ id => notEqual ⟨id, s⟩ t) (s ≠ t) := by
  simp only [notEqual]
  exact (judges_compare ..).congr bne_iff_ne

theorem judges_notEqualFold (s t : String) :
    Judges (fun _ id => notEqualFold ⟨id, s⟩ t) (lowercase s ≠ lowercase t) := by
  simp only [notEqualFold]
  exact (judges_compare ..).congr bne_iff_ne

theorem judges_contains (s t : String) :
    Judges (fun _ id => contains ⟨id, s⟩ t) (containsText s t = true) := by
  simp only [contains]
  exact judges_compare ..

theorem judges_containsFold (s t : String) :
    Judges (fun _ id => containsFold ⟨id, s⟩ t)
      (containsText (lowercase s) (lowercase t) = true) := by
  simp only [containsFold]
  exact judges_compare ..

/-- Strings that are equal are so without their case, and those that differ without it differ. A
part is found without its case in all strings that it is found in, just if it is settled. Every part
without a capital sigma is. -/
theorem fold_matches (here there : Standpoint) (t : String) :
    (∀ s, here.Passes (fun _ id => isEqual ⟨id, s⟩ t) →
      there.Passes fun _ id => isEqualFold ⟨id, s⟩ t) ∧
    (∀ s, here.Passes (fun _ id => notEqualFold ⟨id, s⟩ t) →
      there.Passes fun _ id => notEqual ⟨id, s⟩ t) ∧
    ((∀ s, here.Passes (fun _ id => contains ⟨id, s⟩ t) →
      there.Passes fun _ id => containsFold ⟨id, s⟩ t) ↔ Settled t) ∧
    ('Σ' ∉ t.toList → Settled t) := by
  simp only [(judges_isEqual _ t).passes_iff, (judges_isEqualFold _ t).passes_iff,
    (judges_notEqual _ t).passes_iff, (judges_notEqualFold _ t).passes_iff,
    (judges_contains _ t).passes_iff, (judges_containsFold _ t).passes_iff, beq_iff_eq]
  refine ⟨fun s equal => congrArg lowercase equal, fun s differ => mt (congrArg lowercase) differ,
    ⟨fun kept => ?_, fun settled s contains => settled.contains contains⟩, settled_of_plain⟩
  -- Two strings are enough: one letter and the part, and the part and one letter.
  refine settled_of_contains (kept _ (containsText_iff.mpr ?_)) (kept _ (containsText_iff.mpr ?_))
  · rw [String.toList_append]
    exact (List.suffix_append _ _).isInfix
  · rw [String.toList_append]
    exact (List.prefix_append _ _).isInfix

theorem fold_matches_word :
    let world : World Unit := { World.start () with chains := #[⟨none, [], false, ⟨0⟩, ⟨0⟩⟩] }
    let here : Standpoint := ⟨world, ⟨0⟩, rfl⟩
    here.Passes (fun _ id => containsFold ⟨id, "Straße"⟩ "aß") ∧
      here.Passes (fun _ id => isEqualFold ⟨id, "aß"⟩ "aß") := by
  intro world here
  obtain ⟨equal, -, part, plain⟩ := fold_matches here here "aß"
  refine ⟨part.mpr (plain (by decide)) "Straße" ?_, equal "aß" ?_⟩
  · rw [(judges_contains _ _).passes_iff]
    decide
  · rw [(judges_isEqual _ _).passes_iff]
    decide

/-- A sigma that ends a part is not final in a text that goes on. -/
theorem containsFold_loses :
    let world : World Unit := { World.start () with chains := #[⟨none, [], false, ⟨0⟩, ⟨0⟩⟩] }
    let here : Standpoint := ⟨world, ⟨0⟩, rfl⟩
    here.Passes (fun _ id => contains ⟨id, "AΣA"⟩ "AΣ") ∧
      here.Fails fun _ id => containsFold ⟨id, "AΣA"⟩ "AΣ" := by
  intro world here
  rw [(judges_contains _ _).passes_iff, (judges_containsFold _ _).fails_iff]
  have occurs : containsText "AΣA" "AΣ" = true := by decide
  have lost : containsText (lowercase "AΣA") (lowercase "AΣ") = false := by decide +kernel
  exact ⟨occurs, by simp [lost]⟩

end FluentAssert.TextNode
