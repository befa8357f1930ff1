/-! Texts split at a mark. The parts hold the characters of the text but the mark, and what is
joined from parts is split into theirs. -/
namespace FluentAssert.Text

variable {mark c : Char} {front text piece : List Char} {parts : List (List Char)}

theorem of_mem_splitOn (found : piece ∈ text.splitOn mark) (inside : c ∈ piece) :
    c ∈ text ∧ c ≠ mark := by
  induction text generalizing piece with
  | nil =>
    cases List.mem_singleton.mp found
    cases inside
  | cons d rest ih =>
    rw [List.splitOn_cons_eq_if_modifyHead] at found
    split at found
    · rcases List.mem_cons.mp found with rfl | later
      · cases inside
      · exact ⟨List.mem_cons_of_mem d (ih later inside).1, (ih later inside).2⟩
    · rename_i other
      obtain ⟨first, more, parts⟩ := List.exists_cons_of_ne_nil (List.splitOn_ne_nil mark rest)
      rw [parts] at found ih
      rcases List.mem_cons.mp found with rfl | later
      · rcases List.mem_cons.mp inside with rfl | inside
        · exact ⟨List.mem_cons_self, fun same => other (beq_iff_eq.mpr same)⟩
        · have := ih List.mem_cons_self inside
          exact ⟨List.mem_cons_of_mem d this.1, this.2⟩
      · have := ih (List.mem_cons_of_mem first later) inside
        exact ⟨List.mem_cons_of_mem d this.1, this.2⟩

theorem mem_intercalate {separator : List Char} (inside : c ∈ separator.intercalate parts) :
    c ∈ separator ∨ ∃ part ∈ parts, c ∈ part := by
  induction parts with
  | nil => cases inside
  | cons part parts ih =>
    cases parts with
    | nil =>
      rw [List.intercalate_singleton] at inside
      exact .inr ⟨part, List.mem_cons_self, inside⟩
    | cons next parts =>
      simp only [List.intercalate_cons_cons, List.mem_append] at inside
      rcases inside with (inside | inside) | inside
      · exact .inr ⟨part, List.mem_cons_self, inside⟩
      · exact .inl inside
      · rcases ih inside with inside | ⟨other, later, inside⟩
        · exact .inl inside
        · exact .inr ⟨other, List.mem_cons_of_mem part later, inside⟩

theorem mem_intercalate_of_mem {part : List Char} (listed : part ∈ parts) (inside : c ∈ part)
    (separator : List Char) : c ∈ separator.intercalate parts := by
  induction parts with
  | nil => cases listed
  | cons first parts ih =>
    cases parts with
    | nil =>
      cases List.mem_singleton.mp listed
      rwa [List.intercalate_singleton]
    | cons next parts =>
      rw [List.intercalate_cons_cons, List.mem_append]
      rcases List.mem_cons.mp listed with rfl | listed
      · exact .inl (List.mem_append_left _ inside)
      · exact .inr (ih listed)

theorem splitOn_join (some : parts ≠ []) :
    ([mark].intercalate parts).splitOn mark = parts.flatMap (·.splitOn mark) := by
  induction parts with
  | nil => exact absurd rfl some
  | cons part parts ih =>
    cases parts with
    | nil => simp
    | cons next parts =>
      rw [List.intercalate_cons_cons, List.append_assoc, List.singleton_append,
        List.splitOn_append_cons_self, ih (List.cons_ne_nil next parts)]
      rfl

theorem splitOn_append (whole : mark ∉ front) :
    (front ++ text).splitOn mark = (text.splitOn mark).modifyHead (front ++ ·) := by
  induction front with
  | nil => cases parts : text.splitOn mark <;> simp [parts]
  | cons c front ih =>
    have other : ¬ (c == mark) = true := fun same => whole (eq_of_beq same ▸ List.mem_cons_self)
    rw [List.cons_append, List.splitOn_cons_eq_if_modifyHead, if_neg other,
      ih fun later => whole (List.mem_cons_of_mem c later), List.modifyHead_modifyHead]
    rfl

end FluentAssert.Text
