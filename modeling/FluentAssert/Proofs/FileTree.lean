import Mathlib.Data.List.Induction
import FluentAssert.FileTree
import FluentAssert.Proofs.Text.Split

/-! Ways through trees of files. What a path leads to is there, below directories that may be
searched, and its own path leads back to it. -/
namespace FluentAssert.FileTree

open FluentAssert.Text

variable {tree : FileTree} {here there place rest : List String} {name path : String} {above : Nat}

theorem get?_append (tree : FileTree) (place rest : List String) :
    tree.get? (place ++ rest) = (tree.get? place).bind (·.get? rest) := by
  induction place generalizing tree with
  | nil => rfl
  | cons name place ih =>
    cases tree with
    | file => rfl
    | directory entries =>
      simp only [List.cons_append, get?]
      cases entries.lookup name with
      | none => rfl
      | some child => exact ih child

theorem has_of_append (found : tree.has (place ++ rest) = true) : tree.has place = true := by
  unfold has at found ⊢
  rw [get?_append] at found
  cases here : tree.get? place with
  | none => simp [here] at found
  | some => rfl

theorem has_above (above : here <+: place) (found : tree.has place = true) :
    tree.has here = true := by
  obtain ⟨rest, rfl⟩ := above
  exact has_of_append found

def searchable (tree : FileTree) (place : List String) : Bool :=
  match tree.get? place with
  | some (.directory _ _ searchable) => searchable
  | _ => false

theorem directory_of_has (found : tree.has (here ++ [name]) = true) :
    ∃ entries readable, tree.get? here = some (directory entries readable (tree.searchable here)) ∧
      (entries.lookup name).isSome = true := by
  unfold has at found
  rw [get?_append] at found
  cases at' : tree.get? here with
  | none => simp [at'] at found
  | some child =>
    cases child with
    | file => simp [at', get?] at found
    | directory entries readable open' =>
      have same : tree.searchable here = open' := by rw [searchable, at']
      refine ⟨entries, readable, by rw [same], ?_⟩
      simp only [at', get?, Option.bind_some] at found
      cases below : entries.lookup name with
      | none => simp [below] at found
      | some => rfl

/-- A component that is looked up as a name. -/
structure IsName (name : String) : Prop where
  turnless : name ∉ ["", ".", ".."]
  whole : '/' ∉ name.toList
  noNull : '\x00' ∉ name.toList
  short : name.utf8ByteSize ≤ longestComponent

theorem enter_name (isName : IsName name) (found : tree.has (here ++ [name]) = true)
    (searched : tree.searchable here = true) : tree.enter here name = .ok (here ++ [name]) := by
  obtain ⟨entries, readable, at', below⟩ := directory_of_has found
  have turnless := isName.turnless
  have short : ¬ longestComponent < name.utf8ByteSize := Nat.not_lt.mpr isName.short
  simp only [List.mem_cons, List.not_mem_nil, or_false, not_or] at turnless
  simp [enter, at', searched, turnless, short, below]

theorem of_enter_name (turnless : name ∉ ["", ".", ".."]) (entered : tree.enter here name = .ok there) :
    there = here ++ [name] ∧ tree.has there = true ∧ tree.searchable here = true ∧
      name.utf8ByteSize ≤ longestComponent := by
  simp only [List.mem_cons, List.not_mem_nil, or_false, not_or] at turnless
  unfold enter at entered
  split at entered
  · cases entered
  · cases entered
  · rename_i entries readable open' at'
    rw [if_neg turnless.1] at entered
    split at entered
    · cases entered
    · rename_i searched
      rw [if_neg turnless.2.1, if_neg turnless.2.2] at entered
      split at entered
      · cases entered
      · rename_i short
        split at entered
        · rename_i below
          cases entered
          obtain ⟨child, below⟩ := Option.isSome_iff_exists.mp below
          refine ⟨rfl, ?_, by simpa [searchable, at'] using searched, Nat.not_lt.mp short⟩
          simp [has, get?_append, at', get?, below]
        · cases entered

theorem of_enter_turn (turn : name ∈ ["", ".", ".."]) (entered : tree.enter here name = .ok there) :
    tree.enter here "" = .ok here ∧ there = if name = ".." then here.dropLast else here := by
  have turn : name = "" ∨ name = "." ∨ name = ".." := by simpa using turn
  unfold enter at entered ⊢
  split at entered
  · cases entered
  · cases entered
  · refine ⟨if_pos rfl, ?_⟩
    rcases turn with rfl | rfl | rfl
    · cases entered
      rfl
    · rw [if_neg (by decide)] at entered
      split at entered <;> cases entered
      rfl
    · rw [if_neg (by decide)] at entered
      split at entered <;> cases entered
      rfl

/-- A place that is there and can be gone to by its path. -/
structure Reached (tree : FileTree) (place : List String) : Prop where
  found : tree.has place = true
  names : ∀ name ∈ place, IsName name
  searched : ∀ directory, directory <+: place → directory ≠ place → tree.searchable directory = true

namespace Reached

theorem top (tree : FileTree) : Reached tree [] where
  found := by cases tree <;> rfl
  names := List.forall_mem_nil _
  searched _ above below := absurd (List.prefix_nil.mp above) below

theorem of_prefix (reached : Reached tree place) (above : here <+: place) : Reached tree here where
  found := has_above above reached.found
  names name inside := reached.names name (above.subset inside)
  searched directory higher below := by
    refine reached.searched directory (higher.trans above) fun same => below ?_
    rw [same] at higher ⊢
    exact higher.eq_of_length_le above.length_le

theorem concat (reached : Reached tree here) (isName : IsName name)
    (found : tree.has (here ++ [name]) = true) (searched : tree.searchable here = true) :
    Reached tree (here ++ [name]) where
  found := found
  names := List.forall_mem_append.mpr ⟨reached.names, by simpa using isName⟩
  searched directory above below := by
    have above := (List.prefix_concat_iff.mp above).resolve_left below
    by_cases same : directory = here
    · exact same ▸ searched
    · exact reached.searched directory above same

theorem enter (reached : Reached tree here) (whole : '/' ∉ name.toList)
    (noNull : '\x00' ∉ name.toList) (entered : tree.enter here name = .ok there) :
    Reached tree there := by
  by_cases turn : name ∈ ["", ".", ".."]
  · obtain ⟨-, rfl⟩ := of_enter_turn turn entered
    split
    · exact reached.of_prefix (List.dropLast_prefix here)
    · exact reached
  · obtain ⟨rfl, found, searched, short⟩ := of_enter_name turn entered
    exact reached.concat ⟨turn, whole, noNull, short⟩ found searched

theorem walk (reached : Reached tree place) : place.foldlM tree.enter [] = .ok place := by
  induction place using List.reverseRecOn with
  | nil => rfl
  | append_singleton place name ih =>
    have above : place <+: place ++ [name] := List.prefix_append _ _
    have isName : IsName name := reached.names name (by simp)
    have searched := reached.searched place above (by simp)
    rw [List.foldlM_append, ih (reached.of_prefix above)]
    show ([name]).foldlM tree.enter place = _
    rw [List.foldlM_cons, enter_name isName reached.found searched]
    rfl

end Reached

theorem mem_components {part : String} (listed : part ∈ components path) :
    '/' ∉ part.toList ∧ ∀ c ∈ part.toList, c ∈ path.toList := by
  obtain ⟨piece, found, rfl⟩ := List.mem_map.mp listed
  rw [String.toList_ofList]
  exact ⟨fun inside => (of_mem_splitOn found inside).2 rfl,
    fun c inside => (of_mem_splitOn found inside).1⟩

theorem components_pathOf (some : place ≠ []) (whole : ∀ name ∈ place, '/' ∉ name.toList) :
    components (pathOf place) = place := by
  have parts : ((pathOf place).toList.splitOn '/') = place.map String.toList := by
    rw [pathOf, String.toList_intercalate]
    exact List.splitOn_intercalate '/' (by simpa using whole) (by simpa using some)
  simp [components, parts]

/-- The octets of names with a slash behind each of them. -/
def octets : List String → Nat
  | [] => 0
  | name :: rest => name.utf8ByteSize + 1 + octets rest

/-- A path that nothing is wrong with as a whole. -/
structure Sound (path : String) (above : Nat) : Prop where
  noNull : '\x00' ∉ path.toList
  some : path ≠ ""
  fits : above + path.utf8ByteSize ≤ longestPath

theorem locate_of_sound (sound : Sound path above) :
    tree.locate path above = (components path).foldlM tree.enter [] := by
  have fits : ¬ longestPath < above + path.utf8ByteSize := Nat.not_lt.mpr sound.fits
  simp [locate, pathFault?, sound.noNull, sound.some, fits]

theorem of_locate (located : tree.locate path above = .ok place) :
    Sound path above ∧ (components path).foldlM tree.enter [] = .ok place := by
  unfold locate pathFault? at located
  by_cases null : '\x00' ∈ path.toList
  · simp [null] at located
  · by_cases none : path = ""
    · simp [none] at located
    · by_cases long : longestPath < above + path.utf8ByteSize
      · simp [none, null, long] at located
      · simp only [null, none, long, if_false] at located
        exact ⟨⟨null, none, Nat.not_lt.mp long⟩, located⟩

theorem null_not_mem_pathOf (noNull : ∀ name ∈ place, '\x00' ∉ name.toList) :
    '\x00' ∉ (pathOf place).toList := by
  intro inside
  rw [pathOf, String.toList_intercalate] at inside
  rcases mem_intercalate inside with inside | ⟨_, listed, inside⟩
  · exact absurd inside (by decide)
  · obtain ⟨name, found, rfl⟩ := List.mem_map.mp listed
    exact noNull name found inside

theorem pathOf_ne_empty (some : place ≠ []) (names : ∀ name ∈ place, IsName name) :
    pathOf place ≠ "" := by
  intro none
  obtain ⟨name, rest, rfl⟩ := List.exists_cons_of_ne_nil some
  have same := components_pathOf some fun name inside => (names name inside).whole
  rw [none] at same
  have first : "" = name := (List.cons.inj same).1
  exact (names name List.mem_cons_self).turnless (by simp [← first])

namespace Reached

theorem locate (reached : Reached tree place) (some : place ≠ [])
    (fits : above + (pathOf place).utf8ByteSize ≤ longestPath) :
    tree.locate (pathOf place) above = .ok place := by
  have noNull := null_not_mem_pathOf fun name inside => (reached.names name inside).noNull
  rw [locate_of_sound ⟨noNull, pathOf_ne_empty some reached.names, fits⟩,
    components_pathOf some fun name inside => (reached.names name inside).whole]
  exact reached.walk

theorem enter_of_locate (reached : Reached tree here) (whole : '/' ∉ name.toList)
    (located : tree.locate (pathOf (here ++ [name])) above = .ok there) :
    tree.enter here name = .ok there := by
  have names : ∀ part ∈ here ++ [name], '/' ∉ part.toList := by
    simp only [List.forall_mem_append, List.forall_mem_singleton]
    exact ⟨fun part inside => (reached.names part inside).whole, whole⟩
  have walked := (of_locate located).2
  rw [components_pathOf (by simp) names, List.foldlM_append, reached.walk] at walked
  have last : [name].foldlM tree.enter here = .ok there := walked
  rw [List.foldlM_cons] at last
  cases entered : tree.enter here name with
  | error e =>
    rw [entered] at last
    cases last
  | ok place =>
    rw [entered] at last
    exact last

theorem resolveStep (reached : Reached tree here) (whole : '/' ∉ name.toList)
    (stepped : tree.resolveStep above here name = .ok there) : Reached tree there := by
  unfold FileTree.resolveStep at stepped
  split at stepped
  · cases located : tree.locate (pathOf here ++ "/") above with
    | error e =>
      rw [located] at stepped
      cases stepped
    | ok place =>
      rw [located] at stepped
      have same : (if name = ".." then here.dropLast else here) = there := Except.ok.inj stepped
      rw [← same]
      split
      · exact reached.of_prefix (List.dropLast_prefix here)
      · exact reached
  · have noNull : '\x00' ∉ name.toList := by
      intro inside
      refine (of_locate stepped).1.noNull ?_
      rw [pathOf, String.toList_intercalate]
      exact mem_intercalate_of_mem (List.mem_map_of_mem (by simp)) inside _
    exact reached.enter whole noNull (reached.enter_of_locate whole stepped)

theorem resolveSteps {parts : List String} (reached : Reached tree here)
    (whole : ∀ part ∈ parts, '/' ∉ part.toList)
    (stepped : parts.foldlM (tree.resolveStep above) here = .ok place) : Reached tree place := by
  induction parts generalizing here with
  | nil =>
    cases stepped
    exact reached
  | cons part parts ih =>
    obtain ⟨first, later⟩ := List.forall_mem_cons.mp whole
    rw [List.foldlM_cons] at stepped
    cases entered : tree.resolveStep above here part with
    | error e =>
      rw [entered] at stepped
      cases stepped
    | ok there =>
      rw [entered] at stepped
      exact ih (reached.resolveStep first entered) later stepped

end Reached

theorem reached_of_resolve (resolved : tree.resolve path above = .ok place) : Reached tree place := by
  unfold resolve at resolved
  split at resolved
  · cases resolved
  · split at resolved
    · cases resolved
    · exact (Reached.top tree).resolveSteps (fun part listed => (mem_components listed).1) resolved

end FluentAssert.FileTree
