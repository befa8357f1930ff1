import FluentAssert.Text.Lines

/-! Texts taken apart into lines. A line feed ends a line and stands nowhere else, so a text comes
back from its lines, and a text that is written line by line is read line by line. -/
namespace FluentAssert.Text

variable {cs line rest piece : List Char}

theorem flatten_pieces (cs : List Char) : (pieces cs).flatten = cs := by
  fun_induction pieces cs with
  | case1 => rfl
  | case2 rest ih => simp [ih]
  | case3 c rest other none ih => simpa [none] using ih
  | case4 c rest other piece more some ih => simpa [some] using ih

theorem mem_of_mem_piece (found : piece ∈ pieces cs) {c : Char} (inside : c ∈ piece) : c ∈ cs := by
  rw [← flatten_pieces cs]
  exact List.mem_flatten.mpr ⟨piece, found, inside⟩

theorem pieces_line (whole : '\n' ∉ line) :
    pieces (line ++ '\n' :: rest) = (line ++ ['\n']) :: pieces rest := by
  induction line with
  | nil => simp [pieces]
  | cons c line ih =>
    have other : c ≠ '\n' := fun same => whole (same ▸ List.mem_cons_self)
    rw [List.cons_append, pieces, if_neg other, ih fun later => whole (List.mem_cons_of_mem c later)]
    rfl

theorem pieces_last (whole : '\n' ∉ line) (some : line ≠ []) : pieces line = [line] := by
  induction line with
  | nil => exact absurd rfl some
  | cons c line ih =>
    have other : c ≠ '\n' := fun same => whole (same ▸ List.mem_cons_self)
    rw [pieces, if_neg other]
    cases line with
    | nil => rfl
    | cons d line =>
      rw [ih (fun later => whole (List.mem_cons_of_mem c later)) (List.cons_ne_nil d line)]

theorem piece_cases (found : piece ∈ pieces cs) :
    ∃ line, '\n' ∉ line ∧ (piece = line ++ ['\n'] ∨ piece = line) := by
  fun_induction pieces cs generalizing piece with
  | case1 => cases found
  | case2 rest ih =>
    rcases List.mem_cons.mp found with rfl | later
    · exact ⟨[], List.not_mem_nil, .inl rfl⟩
    · exact ih later
  | case3 c rest other none ih =>
    cases List.mem_singleton.mp found
    exact ⟨[c], by simpa using Ne.symm other, .inr rfl⟩
  | case4 c rest other first more some ih =>
    rw [some] at ih
    rcases List.mem_cons.mp found with rfl | later
    · obtain ⟨line, whole, shape⟩ := ih List.mem_cons_self
      refine ⟨c :: line, by simpa using ⟨Ne.symm other, whole⟩, ?_⟩
      rcases shape with rfl | rfl
      · exact .inl rfl
      · exact .inr rfl
    · exact ih (List.mem_cons_of_mem _ later)

theorem dropLineEnd_line (whole : '\n' ∉ line) : dropLineEnd line = line := by
  fun_cases dropLineEnd line with
  | case1 rest shape | case2 rest other shape => 
    exact absurd (List.mem_reverse.mp (shape ▸ List.mem_cons_self)) whole
  | case3 => rfl

theorem mem_of_mem_dropLineEnd {c : Char} (inside : c ∈ dropLineEnd piece) : c ∈ piece := by
  fun_cases dropLineEnd piece with
  | case1 rest shape | case2 rest other shape =>
    rw [← List.mem_reverse, shape]
    simp_all [dropLineEnd]
  | case3 => simp_all [dropLineEnd]

theorem dropLineEnd_ended (plain : '\r' ∉ line) : dropLineEnd (line ++ ['\n']) = line := by
  have shape : (line ++ ['\n']).reverse = '\n' :: line.reverse := List.reverse_concat
  unfold dropLineEnd
  rw [shape]
  split
  · rename_i rest same
    have inside : '\r' ∈ line.reverse := (List.cons.inj same).2 ▸ List.mem_cons_self
    exact absurd (List.mem_reverse.mp inside) plain
  · rename_i rest _ same
    rw [← (List.cons.inj same).2, List.reverse_reverse]
  · rename_i other
    exact absurd rfl (other _)

theorem exists_line (plain : '\r' ∉ cs) (found : piece ∈ pieces cs) :
    ∃ line, '\n' ∉ line ∧ '\r' ∉ line ∧ dropLineEnd piece = line ∧
      (piece = line ++ ['\n'] ∨ piece = line) := by
  obtain ⟨line, whole, shape⟩ := piece_cases found
  have plain' : '\r' ∉ piece := fun inside => plain (mem_of_mem_piece found inside)
  rcases shape with rfl | rfl
  · have plain : '\r' ∉ line := fun inside => plain' (List.mem_append_left _ inside)
    exact ⟨line, whole, plain, dropLineEnd_ended plain, .inl rfl⟩
  · exact ⟨piece, whole, plain', dropLineEnd_line whole, .inr rfl⟩

theorem dropLineEnd_cons {c : Char} (other : c ≠ '\n') (plain : '\r' ∉ c :: cs)
    (found : piece ∈ pieces cs) : dropLineEnd (c :: piece) = c :: dropLineEnd piece := by
  obtain ⟨line, whole, plain', dropped, shape⟩ :=
    exists_line (fun inside => plain (List.mem_cons_of_mem c inside)) found
  have first : c ≠ '\r' := fun same => plain (same ▸ List.mem_cons_self)
  rw [dropped]
  rcases shape with rfl | rfl
  · have plain : '\r' ∉ c :: line := by simpa using ⟨Ne.symm first, plain'⟩
    exact dropLineEnd_ended plain
  · have whole : '\n' ∉ c :: piece := by simpa using ⟨Ne.symm other, whole⟩
    exact dropLineEnd_line whole

theorem pieces_ne_nil (c : Char) (rest : List Char) : pieces (c :: rest) ≠ [] := by
  intro none
  have whole := flatten_pieces (c :: rest)
  rw [none] at whole
  cases whole

theorem intercalate_lines (plain : '\r' ∉ cs) (unended : cs.getLast? ≠ some '\n') :
    ['\n'].intercalate ((pieces cs).map dropLineEnd) = cs := by
  induction cs with
  | nil => rfl
  | cons c rest ih =>
    cases rest with
    | nil =>
      have other : c ≠ '\n' := fun same => unended (same ▸ rfl)
      have whole : '\n' ∉ [c] := by simpa using Ne.symm other
      simpa [pieces, other] using dropLineEnd_line whole
    | cons d rest =>
      have back := ih (fun inside => plain (List.mem_cons_of_mem c inside))
        (by simpa [List.getLast?_cons] using unended)
      cases parts : pieces (d :: rest) with
      | nil => exact absurd parts (pieces_ne_nil d rest)
      | cons first more =>
        rw [parts, List.map_cons] at back
        by_cases ended : c = '\n'
        · have drop : dropLineEnd ['\n'] = [] := rfl
          rw [pieces, if_pos ended, parts, ended, List.map_cons, List.map_cons,
            List.intercalate_cons_cons, back, drop]
          rfl
        · have found : first ∈ pieces (d :: rest) := parts ▸ List.mem_cons_self
          rw [pieces, if_neg ended, parts]
          show ['\n'].intercalate (dropLineEnd (c :: first) :: more.map dropLineEnd) = _
          rw [dropLineEnd_cons ended plain found, ← back]
          cases more <;> simp

theorem lines_written (rows : List (List Char)) (whole : ∀ row ∈ rows, '\n' ∉ row ∧ '\r' ∉ row) :
    (pieces (rows.flatMap (· ++ ['\n']))).map dropLineEnd = rows := by
  induction rows with
  | nil => rfl
  | cons row rows ih =>
    obtain ⟨⟨whole, plain⟩, others⟩ := List.forall_mem_cons.mp whole
    rw [List.flatMap_cons, List.append_assoc, List.singleton_append, pieces_line whole, List.map_cons,
      dropLineEnd_ended plain, ih others]

end FluentAssert.Text
