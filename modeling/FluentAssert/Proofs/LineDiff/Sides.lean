import FluentAssert.LineDiff.Settle
import FluentAssert.LineDiff.Shortest

/-! The two sides of a script. However the search cuts the sequences, its script turns the one into
the other, and settling moves edits without changing either side. -/
namespace FluentAssert.LineDiff

variable {α : Type}

attribute [simp] Edit.old Edit.new

namespace Script

def sides (script : Script α) : List α × List α := (script.old, script.new)

def Between (script : Script α) (old new : List α) : Prop := script.sides = (old, new)

variable {script other : Script α} {old new old' new' : List α}

@[simp] theorem old_append : Script.old (script ++ other) = script.old ++ other.old :=
  List.flatMap_append

@[simp] theorem new_append : Script.new (script ++ other) = script.new ++ other.new :=
  List.flatMap_append

@[simp] theorem old_cons (edit : Edit α) : Script.old (edit :: script) = edit.old ++ script.old :=
  List.flatMap_cons

@[simp] theorem new_cons (edit : Edit α) : Script.new (edit :: script) = edit.new ++ script.new :=
  List.flatMap_cons

@[simp] theorem old_nil : Script.old ([] : Script α) = [] := rfl

@[simp] theorem new_nil : Script.new ([] : Script α) = [] := rfl

theorem Between.append (h : script.Between old new) (h' : other.Between old' new') :
    Script.Between (script ++ other) (old ++ old') (new ++ new') := by
  simp only [Between, sides, Prod.mk.injEq] at h h' ⊢
  rw [old_append, new_append, h.1, h.2, h'.1, h'.2]
  exact ⟨rfl, rfl⟩

end Script

section Ends

variable [BEq α] [LawfulBEq α] (xs ys : List α)

theorem take_commonPrefix : xs.take (commonPrefix xs ys) = ys.take (commonPrefix xs ys) := by
  induction xs generalizing ys with
  | nil => simp [commonPrefix]
  | cons x xs ih =>
    cases ys with
    | nil => rfl
    | cons y ys =>
      simp only [commonPrefix]
      split
      · rename_i same
        rw [List.take_succ_cons, List.take_succ_cons, ih, eq_of_beq same]
      · rfl

theorem drop_commonSuffix :
    xs.drop (xs.length - commonSuffix xs ys) = ys.drop (ys.length - commonSuffix xs ys) := by
  have shared := take_commonPrefix xs.reverse ys.reverse
  rw [List.take_reverse, List.take_reverse] at shared
  exact List.reverse_inj.mp shared

end Ends

@[simp] theorem old_keepSome (items : List α) : (keepSome items).old = items := by
  cases items <;> simp [keepSome]

@[simp] theorem new_keepSome (items : List α) : (keepSome items).new = items := by
  cases items <;> simp [keepSome]

theorem keepSome_between (items : List α) : (keepSome items).Between items items := by
  simp [Script.Between, Script.sides]

theorem replace_between (gone come : List α) :
    Script.Between [.delete gone, .insert come] gone come := by
  simp [Script.Between, Script.sides]

/-- Wherever the search cuts, the script leads from one sequence to the other. -/
theorem conquer_between [BEq α] [LawfulBEq α] (fuel : Nat) (old new : List α) :
    (conquer fuel old new).Between old new := by
  induction fuel generalizing old new with
  | zero => simp [conquer, Script.Between, Script.sides]
  | succ fuel ih =>
    let first := commonPrefix old new
    let old₁ := old.drop first
    let new₁ := new.drop first
    let last := commonSuffix old₁ new₁
    let kept := old₁.drop (old₁.length - last)
    have start : new.take first = old.take first := (take_commonPrefix old new).symm
    have ending : new₁.drop (new₁.length - last) = kept := (drop_commonSuffix old₁ new₁).symm
    have oldParts : old.take first ++ old₁.take (old₁.length - last) ++ kept = old := by
      rw [List.append_assoc, List.take_append_drop, List.take_append_drop]
    have newParts : old.take first ++ new₁.take (new₁.length - last) ++ kept = new := by
      rw [← start, ← ending, List.append_assoc, List.take_append_drop, List.take_append_drop]
    have whole {between : Script α}
        (h : between.Between (old₁.take (old₁.length - last)) (new₁.take (new₁.length - last))) :
        Script.Between (keepSome (old.take first) ++ between ++ keepSome kept) old new := by
      have framed := ((keepSome_between (old.take first)).append h).append (keepSome_between kept)
      rwa [oldParts, newParts] at framed
    rw [conquer]
    apply whole
    generalize old₁.take (old₁.length - last) = gone
    generalize new₁.take (new₁.length - last) = come
    split
    · rfl
    · exact replace_between _ []
    · exact replace_between [] _
    · split
      · rename_i i j _
        have both := (ih (List.take i gone) (List.take j come)).append
          (ih (List.drop i gone) (List.drop j come))
        rwa [List.take_append_drop, List.take_append_drop] at both
      · exact replace_between _ _

theorem shortestScript_between [BEq α] [LawfulBEq α] (old new : List α) :
    (shortestScript old new).Between old new := conquer_between _ old new

section Kept

variable (items : List α) (script : Script α)

theorem keepRest_eq : keepRest items script = keepSome items ++ script := by
  cases items <;> rfl

@[simp] theorem reverse_keepSome : (keepSome items).reverse = keepSome items := by
  cases items <;> rfl

@[simp] theorem old_keepBefore : (keepBefore items script).old = items ++ script.old := by
  fun_cases keepBefore items script <;> simp

@[simp] theorem new_keepBefore : (keepBefore items script).new = items ++ script.new := by
  fun_cases keepBefore items script <;> simp

@[simp] theorem old_reverse_keepAfter :
    Script.old (keepAfter items script).reverse = Script.old script.reverse ++ items := by
  fun_cases keepAfter items script <;> simp

@[simp] theorem new_reverse_keepAfter :
    Script.new (keepAfter items script).reverse = Script.new script.reverse ++ items := by
  fun_cases keepAfter items script <;> simp

end Kept

/-- The whole script around an edit. -/
def Focus.script (focus : Focus α) : Script α := focus.before.reverse ++ focus.here :: focus.after

section Settling

variable [BEq α] [LawfulBEq α]

theorem slideUp_sides (fuel : Nat) (focus : Focus α) :
    (slideUp fuel focus).script.sides = focus.script.sides := by
  fun_induction slideUp fuel focus with
  | case1 | case2 | case3 | case9 => rfl
  | case4 fuel after earlier come kept shared moves tail ih =>
    have repeated : kept.drop (kept.length - shared) = tail := drop_commonSuffix kept come
    have whole (more : List α) : kept.take (kept.length - shared) ++ (tail ++ more) = kept ++ more := by
      rw [← repeated, ← List.append_assoc, List.take_append_drop]
    have back (more : List α) :
        come.take (come.length - shared) ++ (tail ++ more) = come ++ more := by
      rw [← List.append_assoc, List.take_append_drop]
    rw [ih]
    simp [Focus.script, Script.sides, keepRest_eq, whole, back]
  | case5 _ _ _ _ _ ih | case6 _ _ _ _ _ ih | case7 _ _ _ _ _ ih | case8 _ _ _ _ _ ih =>
    rw [ih]
    simp [Focus.script, Script.sides]

theorem slideDown_sides (fuel : Nat) (focus : Focus α) :
    (slideDown fuel focus).script.sides = focus.script.sides := by
  fun_induction slideDown fuel focus with
  | case1 | case2 | case3 | case9 => rfl
  | case4 fuel before later come kept shared moves head ih =>
    have repeated : kept.take shared = head := take_commonPrefix kept come
    have whole (more : List α) : head ++ (kept.drop shared ++ more) = kept ++ more := by
      rw [← repeated, ← List.append_assoc, List.take_append_drop]
    have back (more : List α) : head ++ (come.drop shared ++ more) = come ++ more := by
      rw [← List.append_assoc, List.take_append_drop]
    rw [ih]
    simp [Focus.script, Script.sides, keepRest_eq, whole, back]
  | case5 _ _ _ _ _ ih | case6 _ _ _ _ _ ih | case7 _ _ _ _ _ ih | case8 _ _ _ _ _ ih =>
    rw [ih]
    simp [Focus.script, Script.sides]

theorem settleKind_sides (moves : Edit α → Bool) (fuel : Nat) (before after : Script α) :
    Script.sides (settleKind moves fuel before after) = Script.sides (before.reverse ++ after) := by
  fun_induction settleKind moves fuel before after with
  | case1 => rfl
  | case2 => simp
  | case3 fuel before edit after moved up down ih =>
    have back : down.script.sides = Script.sides (before.reverse ++ edit :: after) :=
      (slideDown_sides _ up).trans (slideUp_sides _ _)
    rw [ih, ← back]
    simp [Focus.script]
  | case4 fuel before edit after stays ih =>
    rw [ih]
    simp

end Settling

theorem gap_between (gone come : List α) : (gap gone come).Between gone come := by
  cases gone <;> cases come <;> simp [gap, Script.Between, Script.sides]

theorem joinGaps_between (gone come : List α) (script : Script α) :
    (joinGaps gone come script).Between (gone ++ script.old) (come ++ script.new) := by
  fun_induction joinGaps gone come script with
  | case1 gone come => simpa using gap_between gone come
  | case2 gone come items rest ih =>
    have kept : Script.Between (.keep items :: joinGaps [] [] rest) (items ++ Script.old rest)
        (items ++ Script.new rest) := by
      simpa [Script.Between, Script.sides] using ih
    exact (gap_between gone come).append kept
  | case3 gone come items rest ih => simpa using ih
  | case4 gone come items rest ih => simpa using ih

theorem settle_sides [BEq α] [LawfulBEq α] (script : Script α) :
    (settle script).sides = script.sides := by
  have joined (script : Script α) : (joinGaps [] [] script).sides = script.sides :=
    joinGaps_between [] [] script
  rw [settle, joined, settleKind_sides, List.reverse_nil, List.nil_append, settleKind_sides,
    List.reverse_nil, List.nil_append]

end FluentAssert.LineDiff
