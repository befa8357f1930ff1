import FluentAssert.Proofs.Regex.Groups

/-! Names of groups. Reading a pattern gives every group a number above zero and no name twice, so a
name belongs to one group of the compiled pattern. -/
namespace FluentAssert.Regex

/-- The reading ends with a part that has no groups. -/
def Groupless {α : Type} (read : Except Fault (Tree × α)) : Prop :=
  Gives (fun result => result.1.groups = []) read

namespace Cursor

theorem groupless_hexBraced (cursor : Cursor) (first : Position) :
    Groupless (cursor.hexBraced first) := by
  unfold hexBraced
  simp only
  split
  · exact .error _
  split
  · exact .error _
  split
  · exact .error _
  split
  · exact .error _
  · exact .ok rfl

theorem groupless_hexEscape (cursor : Cursor) (first : Position) (letter : Char) :
    Groupless (cursor.hexEscape first letter) := by
  unfold hexEscape
  simp only
  split
  · exact .error _
  split
  · exact groupless_hexBraced _ _
  refine .after fun read => ?_
  split
  · exact .error _
  · exact .ok rfl

theorem groupless_propertyEscape (cursor : Cursor) (first : Position) (negated : Bool) :
    Groupless (cursor.propertyEscape first negated) := by
  unfold propertyEscape
  simp only
  split
  · exact .error _
  · split
    · exact .error _
    · exact .ok rfl
  · split
    · exact .error _
    · exact .ok rfl

theorem groupless_letterEscape (cursor : Cursor) (first : Position) (c : Char) :
    Groupless (cursor.letterEscape first c) := by
  unfold letterEscape
  simp only
  split
  · exact .ok rfl
  split
  · exact .ok rfl
  split
  · exact .ok rfl
  split
  · exact .ok rfl
  split
  · split
    · refine .after fun kind => ?_
      split <;> exact .ok rfl
    · exact .ok rfl
  · exact .error _

theorem groupless_escape (cursor : Cursor) : Groupless cursor.escape := by
  unfold escape
  simp only
  split
  · exact .error _
  split
  · exact .error _
  split
  · exact groupless_hexEscape _ _ _
  split
  · exact groupless_propertyEscape _ _ _
  · exact groupless_letterEscape _ _ _

end Cursor

namespace Bracket

theorem gives_closeBracket (p : Progress) :
    Gives (fun next => ∀ done, next = .inr done → done.1.groups = []) (closeBracket p) := by
  unfold closeBracket
  split
  simp only
  split
  · split
    · exact .ok fun done same => Sum.inr.inj same ▸ rfl
    · exact .ok fun _ same => nomatch same
  · exact .error _

theorem gives_step (p : Progress) :
    Gives (fun next => ∀ done, next = .inr done → done.1.groups = []) (step p) := by
  unfold step
  split
  · split
    · exact .ok fun _ same => nomatch same
    · exact .after fun _ => .ok fun _ same => nomatch same
  split
  · exact gives_closeBracket p
  · split
    · exact .ok fun _ same => nomatch same
    · exact .after fun _ => .ok fun _ same => nomatch same

theorem groupless_read (fuel : Nat) (p : Progress) : Groupless (read fuel p) := by
  induction fuel generalizing p with
  | zero => exact .error _
  | succ fuel ih =>
    unfold read
    simp only
    split
    · exact .error _
    · refine (gives_step _).bind fun next done => ?_
      cases next with
      | inl p => exact ih p
      | inr result => exact .ok (done result rfl)

theorem groupless_readClass (cursor : Cursor) : Groupless (readClass cursor) :=
  .after fun p => groupless_read _ p

end Bracket

namespace Tree

theorem groups_ofItems (span : Span) (items : List Tree) :
    (ofItems span items).groups = items.flatMap groups := by
  cases items with
  | nil => rfl
  | cons item rest =>
    cases rest with
    | nil => exact (List.flatMap_singleton ..).symm
    | cons => exact groupsOfAll_eq _

end Tree

def GroupKind.groups : GroupKind → List (Nat × Option String)
  | .capture index name => [(index, name)]
  | .plain _ => []

theorem Tree.groups_group (span : Span) (kind : GroupKind) (body : Tree) :
    (Tree.group span kind body).groups = kind.groups ++ body.groups := by
  cases kind <;> rfl

namespace Reader

def Pending.groups : Pending → List (Nat × Option String)
  | .group before _ _ kind _ => before.flatMap Tree.groups ++ kind.groups
  | .branches _ before => before.flatMap Tree.groups

def Progress.groups (p : Progress) : List (Nat × Option String) :=
  p.items.flatMap Tree.groups ++ p.pending.flatMap Pending.groups

/-- What a step of the reader adds: no group, one without a name, or one with a name that was not
given before. -/
inductive Grows (p q : Progress) : Prop where
  | unnamed (index : Nat) (positive : 0 < index) (names : q.names = p.names)
    (groups : q.groups ⊆ (index, none) :: p.groups)
  | named (index : Nat) (positive : 0 < index) (name : String) (span : Span)
    (fresh : p.names.lookup name = none) (names : q.names = (name, span) :: p.names)
    (groups : q.groups ⊆ (index, some name) :: p.groups)

namespace Grows

variable {p q : Progress}

theorem still (names : q.names = p.names) (groups : q.groups ⊆ p.groups) : Grows p q :=
  .unnamed 1 Nat.one_pos names (List.Subset.trans groups (List.subset_cons_self _ _))

end Grows

theorem groups_reverse (items : List Tree) :
    items.reverse.flatMap Tree.groups ⊆ items.flatMap Tree.groups := by
  intro group inside
  obtain ⟨item, used, named⟩ := List.mem_flatMap.mp inside
  exact List.mem_flatMap.mpr ⟨item, List.mem_reverse.mp used, named⟩

theorem groups_sequence (p : Progress) : p.sequence.groups ⊆ p.items.flatMap Tree.groups := by
  rw [Progress.sequence, Tree.groups_ofItems]
  exact groups_reverse p.items

theorem mem_groups {p : Progress} {group : Nat × Option String} : group ∈ p.groups ↔
    group ∈ p.items.flatMap Tree.groups ∨ group ∈ p.pending.flatMap Pending.groups :=
  List.mem_append

theorem groups_finished (p : Progress) :
    (finished p).1.groups ++ (finished p).2.flatMap Pending.groups ⊆ p.groups := by
  have current := groups_sequence p
  unfold finished
  split
  · rename_i first before rest waits
    have whole := groups_reverse (p.sequence :: before)
    rw [List.flatMap_cons] at whole
    intro group inside
    have among := @current group
    have member := @whole group
    simp only [mem_groups, waits, Tree.groups, Tree.groupsOfAll_eq, Pending.groups, List.flatMap_cons,
      List.mem_append] at inside member ⊢
    tauto
  · exact List.append_subset.mpr ⟨List.Subset.trans current (List.subset_append_left _ _),
      List.subset_append_right _ _⟩

theorem grows_push (p : Progress) {tree : Tree} (none : tree.groups = []) (cursor : Cursor) :
    Grows p (p.push tree cursor) := by
  refine .still rfl ?_
  rw [Progress.groups, Progress.push, List.flatMap_cons, none]
  exact List.Subset.refl _

theorem grows_nextBranch (p : Progress) : Grows p (nextBranch p) := by
  refine .still rfl fun group inside => ?_
  have among := @groups_sequence p group
  unfold nextBranch at inside
  split at inside
  · rename_i first before rest waits
    simp only [mem_groups, waits, Progress.begin, Pending.groups, List.flatMap_nil, List.flatMap_cons,
      List.mem_append, List.not_mem_nil, false_or] at inside ⊢
    tauto
  · simp only [mem_groups, Progress.begin, Pending.groups, List.flatMap_nil, List.flatMap_cons,
      List.mem_append, List.not_mem_nil, false_or, or_false] at inside ⊢
    tauto

theorem gives_groupName (names : List (String × Span)) (cursor : Cursor) :
    Gives (fun read => names.lookup read.1 = none) (groupName names cursor) := by
  unfold groupName
  refine .after fun read => ?_
  simp only
  split
  · exact .error _
  split
  · exact .error _
  split
  · exact .error _
  · rename_i fresh
    exact .ok fresh

theorem groups_openGroup (p : Progress) (cursor : Cursor) (span : Span) (kind : GroupKind) :
    (openGroup p p.items cursor span kind).groups ⊆ kind.groups ++ p.groups := by
  intro group inside
  simp only [openGroup, Progress.begin, mem_groups, List.flatMap_nil, List.flatMap_cons,
    List.mem_append, Pending.groups, List.not_mem_nil, false_or] at inside ⊢
  tauto

theorem grows_enterGroup (p : Progress) : Gives (Grows p) (enterGroup p) := by
  unfold enterGroup
  simp only
  split
  · exact .error _
  split
  · refine (gives_groupName p.names _).bind fun named fresh => .ok ?_
    exact .named (p.captures + 1) (Nat.succ_pos _) named.1 named.2.1 fresh rfl
      (groups_openGroup _ _ _ _)
  split
  · split
    · exact .error _
    · refine .after fun flags => ?_
      split
      · split
        · exact .error _
        · exact .ok (grows_push p rfl _)
      · exact .ok (.still rfl (groups_openGroup _ _ _ _))
  · exact .ok (.unnamed (p.captures + 1) (Nat.succ_pos _) rfl (groups_openGroup _ _ _ _))

theorem grows_leaveGroup (p : Progress) : Gives (Grows p) (leaveGroup p) := by
  unfold leaveGroup
  split
  rename_i body pending ended
  have whole := groups_finished p
  rw [ended] at whole
  split
  · refine .ok (.still rfl fun group inside => ?_)
    have member := @whole group
    simp only [mem_groups, Tree.groups_group, Pending.groups, List.flatMap_cons, List.mem_append]
      at inside member ⊢
    tauto
  · exact .error _

theorem gives_repeated (p : Progress) :
    Gives (fun parts => p.items = parts.1 :: parts.2) (repeated p) := by
  unfold repeated
  split
  · split
    · rename_i items _
      exact .ok items
    · exact .error _
  · exact .error _

theorem grows_pushRepetition {p : Progress} {body : Tree} {rest : List Tree}
    (last : p.items = body :: rest) (cursor : Cursor) (min : Nat) (max : Option Nat) :
    Grows p (pushRepetition p body rest cursor min max) := by
  refine .still rfl ?_
  rw [Progress.groups, Progress.groups, last]
  exact List.Subset.refl _

theorem grows_repetition (p : Progress) (min : Nat) (max : Option Nat) :
    Gives (Grows p) (repetition p min max) :=
  (gives_repeated p).bind fun _ last => .ok (grows_pushRepetition last _ min max)

theorem grows_countedRepetition (p : Progress) : Gives (Grows p) (countedRepetition p) := by
  unfold countedRepetition
  refine (gives_repeated p).bind fun parts last => ?_
  simp only
  split
  · exact .error _
  refine .after fun bounds => ?_
  split
  · exact .error _
  split
  · exact .error _
  · exact .ok (grows_pushRepetition last _ _ _)

theorem grows_step (p : Progress) : Gives (Grows p) (step p) := by
  unfold step
  simp only
  split
  · exact .ok (.still rfl (List.Subset.refl _))
  · exact grows_enterGroup p
  · exact grows_leaveGroup p
  · exact .ok (grows_nextBranch p)
  · exact (Bracket.groupless_readClass _).bind fun _ none => .ok (grows_push p none _)
  · exact grows_repetition p _ _
  · exact grows_repetition p _ _
  · exact grows_repetition p _ _
  · exact grows_countedRepetition p
  · exact (Cursor.groupless_escape _).bind fun _ none => .ok (grows_push p none _)
  all_goals exact .ok (grows_push p rfl _)

/-- A name belongs to one number, and numbers are above zero. -/
structure Sound (names : List (String × Span)) (groups : List (Nat × Option String)) : Prop where
  positive : ∀ group ∈ groups, 0 < group.1
  known : ∀ i name, (i, some name) ∈ groups → names.lookup name ≠ none
  single : ∀ i j name, (i, some name) ∈ groups → (j, some name) ∈ groups → i = j

namespace Sound

variable {names : List (String × Span)} {groups fewer : List (Nat × Option String)}

theorem mono (sound : Sound names groups) (subset : fewer ⊆ groups) : Sound names fewer :=
  ⟨fun group inside => sound.positive group (subset inside),
    fun i name inside => sound.known i name (subset inside),
    fun i j name inside inside' => sound.single i j name (subset inside) (subset inside')⟩

theorem unnamed (sound : Sound names groups) {index : Nat} (positive : 0 < index) :
    Sound names ((index, none) :: groups) := by
  have older {i : Nat} {name : String} (inside : (i, some name) ∈ (index, none) :: groups) :
      (i, some name) ∈ groups := by
    simpa using inside
  exact ⟨List.forall_mem_cons.mpr ⟨positive, sound.positive⟩,
    fun i name inside => sound.known i name (older inside),
    fun i j name inside inside' => sound.single i j name (older inside) (older inside')⟩

theorem named (sound : Sound names groups) {index : Nat} (positive : 0 < index) {name : String}
    (span : Span) (fresh : names.lookup name = none) :
    Sound ((name, span) :: names) ((index, some name) :: groups) := by
  have cases {i : Nat} {other : String} (inside : (i, some other) ∈ (index, some name) :: groups) :
      i = index ∧ other = name ∨ other ≠ name ∧ (i, some other) ∈ groups := by
    rcases List.mem_cons.mp inside with same | older
    · simp only [Prod.mk.injEq, Option.some.injEq] at same
      exact .inl same
    · exact .inr ⟨fun same => sound.known i other older (same ▸ fresh), older⟩
  refine ⟨List.forall_mem_cons.mpr ⟨positive, sound.positive⟩, fun i other inside => ?_,
    fun i j other inside inside' => ?_⟩
  · rcases cases inside with ⟨-, rfl⟩ | ⟨differ, older⟩
    · simp
    · rw [List.lookup_cons, beq_false_of_ne differ]
      exact sound.known i other older
  · rcases cases inside with ⟨rfl, rfl⟩ | ⟨differ, older⟩
    · rcases cases inside' with ⟨rfl, -⟩ | ⟨differ, -⟩
      · rfl
      · exact absurd rfl differ
    · rcases cases inside' with ⟨-, same⟩ | ⟨-, older'⟩
      · exact absurd same differ
      · exact sound.single i j other older older'

theorem grows {p q : Progress} (sound : Sound p.names p.groups) (grows : Grows p q) :
    Sound q.names q.groups := by
  cases grows with
  | unnamed index positive names groups => exact names ▸ (sound.unnamed positive).mono groups
  | named index positive name span fresh names groups =>
    exact names ▸ (sound.named positive span fresh).mono groups

end Sound

theorem sound_readParts (fuel : Nat) {p : Progress} (sound : Sound p.names p.groups) :
    Gives (fun q => Sound q.names q.groups) (readParts fuel p) := by
  induction fuel generalizing p with
  | zero => exact .ok sound
  | succ fuel ih =>
    unfold readParts
    simp only
    split
    · exact .ok sound
    · let next : Progress := { p with cursor := p.cursor.skip }
      have skipped : Sound next.names next.groups := sound
      exact (grows_step next).bind fun q grows => ih (skipped.grows grows)

theorem sound_read (pattern : String) :
    Gives (fun tree => ∃ names, Sound names tree.groups) (read pattern) := by
  have start : Sound (Progress.start pattern.toList).names (Progress.start pattern.toList).groups :=
    ⟨nofun, nofun, nofun⟩
  unfold read
  refine (sound_readParts _ start).bind fun p sound => ?_
  have whole := groups_finished p
  simp only
  split
  · exact .error _
  · refine .after fun _ => .ok ⟨p.names, sound.mono ?_⟩
    exact List.Subset.trans (List.subset_append_left _ _) whole

end Reader

theorem mem_of_lookup {groups : List (Nat × Option String)} {i : Nat} {name : Option String}
    (found : groups.lookup i = some name) : (i, name) ∈ groups := by
  obtain ⟨before, after, rfl, -⟩ := List.lookup_eq_some_iff.mp found
  simp

theorem mem_names_of_called {expr : Expr} {i : Nat} {name : String}
    (called : (groupNames expr)[i]? = some (some name)) : (i, some name) ∈ expr.names := by
  simp only [groupNames, List.getElem?_map, Option.map_eq_some_iff] at called
  obtain ⟨index, place, called⟩ := called
  obtain ⟨inside, same⟩ := List.getElem?_eq_some_iff.mp place
  rw [List.getElem_range] at same
  subst same
  cases found : expr.names.lookup i with
  | none =>
    rw [found] at called
    cases called
  | some entry =>
    rw [found] at called
    cases called
    exact mem_of_lookup found

theorem exists_length_groupNames (expr : Expr) : ∃ n, (groupNames expr).length = n + 1 :=
  ⟨_, by rw [groupNames, List.length_map, List.length_range]⟩

/-- Of a compiled pattern, the whole match has no name, and a name belongs to one group. -/
theorem compile_names {pattern : String} {regex : Regex} (valid : compile pattern = .ok regex) :
    (∃ n, regex.names.length = n + 1) ∧ regex.names[0]? = some none ∧
      ∀ (i j : Nat) (name : String), regex.names[i]? = some (some name) →
        regex.names[j]? = some (some name) → i = j := by
  have sound : Gives (fun expr => ∃ names, Reader.Sound names expr.names)
      (Reader.read pattern >>= Tree.meaning) := by
    refine (Reader.sound_read pattern).bind fun tree ⟨names, sound⟩ => ?_
    exact (names_expr tree {}).bind fun meant subset => .ok ⟨names, sound.mono subset⟩
  unfold compile at valid
  split at valid
  · cases valid
  · rename_i expr meant
    obtain ⟨names, sound⟩ := sound expr meant
    split at valid
    · cases valid
      refine ⟨exists_length_groupNames expr, ?_, fun i j name called called' =>
        sound.single i j name (mem_names_of_called called) (mem_names_of_called called')⟩
      cases first : (groupNames expr)[0]? with
      | none => simp [groupNames] at first
      | some name =>
        cases name with
        | none => rfl
        | some name =>
          exact absurd (sound.positive _ (mem_names_of_called first)) (Nat.lt_irrefl 0)
    · cases valid

end FluentAssert.Regex
