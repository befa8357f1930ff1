import Mathlib.Data.List.Induction
import FluentAssert.Message.Settings.File
import FluentAssert.Proofs.FileTree

/-! Discovery of settings. The search goes up from the start, one directory at a time, and ends at
the first entry with the right name that is seen. That entry alone decides what is found. -/
namespace FluentAssert.Settings

open FluentAssert.Text FluentAssert.FileTree

variable {tree : FileTree} {above : Nat} {place directory other : List String} {path name : String}

/-- A search from a place: how many directories it looks into, and the path that it finds. -/
inductive Search (tree : FileTree) (above : Nat) : List String → Nat → Option String → Prop
  | found {place : List String} : tree.sees (candidate place) above = true →
      Search tree above place 1 (some (candidate place))
  | top : tree.sees (candidate []) above = false → Search tree above [] 1 none
  | up {place : List String} {steps : Nat} {result : Option String} :
      tree.sees (candidate place) above = false → place ≠ [] →
      Search tree above place.dropLast steps result → Search tree above place (steps + 1) result

theorem Search.unique {steps steps' : Nat} {result result' : Option String}
    (search : Search tree above place steps result)
    (search' : Search tree above place steps' result') : steps = steps' ∧ result = result' := by
  induction search generalizing steps' result' with
  | found here =>
    cases search' with
    | found => exact ⟨rfl, rfl⟩
    | top none | up none => simp [here] at none
  | top none =>
    cases search' with
    | found here => simp [here] at none
    | top => exact ⟨rfl, rfl⟩
    | up _ below => exact absurd rfl below
  | up none below _ ih =>
    cases search' with
    | found here => simp [here] at none
    | top => exact absurd rfl below
    | up _ _ search' =>
      obtain ⟨steps, result⟩ := ih search'
      exact ⟨congrArg (· + 1) steps, result⟩

theorem ancestors_concat (place : List String) (name : String) :
    ancestors (place ++ [name]) = (place ++ [name]) :: ancestors place := by
  induction place with
  | nil => rfl
  | cons first place ih => simp [ancestors, ih]

theorem nearest?_top (tree : FileTree) (above : Nat) : nearest? tree [] above =
    if tree.sees (candidate []) above = true then some (candidate []) else none := by
  cases seen : tree.sees (candidate []) above <;> simp [nearest?, ancestors, seen]

theorem nearest?_concat (tree : FileTree) (above : Nat) (place : List String) (name : String) :
    nearest? tree (place ++ [name]) above =
      if tree.sees (candidate (place ++ [name])) above = true then some (candidate (place ++ [name]))
      else nearest? tree place above := by
  unfold nearest?
  rw [ancestors_concat, List.map_cons, List.find?_cons]
  cases seen : tree.sees (candidate (place ++ [name])) above <;> simp

/-- The lowest directory, at or above a place, in which an entry is seen. -/
structure Nearest (tree : FileTree) (above : Nat) (place directory : List String) : Prop where
  higher : directory <+: place
  seen : tree.sees (candidate directory) above = true
  lowest : ∀ other, other <+: place → tree.sees (candidate other) above = true → other <+: directory

theorem nearest?_cases (tree : FileTree) (above : Nat) (place : List String) :
    (∃ directory, Nearest tree above place directory ∧
      nearest? tree place above = some (candidate directory)) ∨
    ((∀ other, other <+: place → tree.sees (candidate other) above = false) ∧
      nearest? tree place above = none) := by
  induction place using List.reverseRecOn with
  | nil =>
    rw [nearest?_top]
    split
    · rename_i here
      exact .inl ⟨[], ⟨List.prefix_refl _, here, fun other higher _ => higher⟩, rfl⟩
    · rename_i none
      refine .inr ⟨fun other higher => ?_, rfl⟩
      rw [List.prefix_nil.mp higher]
      simpa using none
  | append_singleton place name ih =>
    rw [nearest?_concat]
    split
    · rename_i here
      exact .inl ⟨_, ⟨List.prefix_refl _, here, fun other higher _ => higher⟩, rfl⟩
    · rename_i none
      rcases ih with ⟨directory, nearest, found⟩ | ⟨unseen, nothing⟩
      · have higher : directory <+: place ++ [name] := nearest.higher.trans (List.prefix_append _ _)
        refine .inl ⟨directory, ⟨higher, nearest.seen, ?_⟩, found⟩
        intro other higher seen
        rcases List.prefix_concat_iff.mp higher with rfl | higher
        · exact absurd seen none
        · exact nearest.lowest other higher seen
      · refine .inr ⟨fun other higher => ?_, nothing⟩
        rcases List.prefix_concat_iff.mp higher with rfl | higher
        · simpa using none
        · exact unseen other higher

theorem Nearest.nearest?_eq (nearest : Nearest tree above place directory) :
    nearest? tree place above = some (candidate directory) := by
  rcases nearest?_cases tree above place with ⟨other, nearest', found⟩ | ⟨unseen, -⟩
  · have down := nearest'.lowest directory nearest.higher nearest.seen
    have up := nearest.lowest other nearest'.higher nearest'.seen
    rw [found, down.eq_of_length_le up.length_le]
  · exact absurd nearest.seen (by simp [unseen directory nearest.higher])

theorem Nearest.discover (nearest : Nearest tree above place directory)
    (resolved : tree.resolve path above = .ok place) : discover tree path above =
      .ofLoaded (candidate directory) (load tree (candidate directory) above) := by
  unfold Settings.discover
  rw [resolved]
  dsimp only
  rw [nearest.nearest?_eq]

/-- An entry is there, and its path leads to it. -/
structure Visible (tree : FileTree) (above : Nat) (directory : List String) : Prop where
  found : tree.has (directory ++ [fileName]) = true
  searched : tree.searchable directory = true
  fits : above + (candidate directory).utf8ByteSize ≤ longestPath

theorem isName_fileName : IsName fileName := by constructor <;> decide +kernel

theorem Visible.locate (visible : Visible tree above directory) (reached : Reached tree directory) :
    tree.locate (candidate directory) above = .ok (directory ++ [fileName]) :=
  (reached.concat isName_fileName visible.found visible.searched).locate (by simp) visible.fits

theorem sees_iff (reached : Reached tree directory) :
    tree.sees (candidate directory) above = true ↔ Visible tree above directory := by
  constructor
  · intro seen
    cases located : tree.locate (candidate directory) above with
    | error e => simp [sees, located, Except.isOk, Except.toBool] at seen
    | ok there =>
      have isName := isName_fileName
      have entered := reached.enter_of_locate isName.whole located
      obtain ⟨rfl, found, searched, -⟩ := of_enter_name isName.turnless entered
      exact ⟨found, searched, (of_locate located).1.fits⟩
  · intro visible
    rw [sees, visible.locate reached]
    rfl

/-- An entry holds settings: it is a file that may be read, and its content is text, and the text
is a document of settings. -/
def Holds (tree : FileTree) (entry : List String) (settings : Settings) : Prop :=
  ∃ content text, tree.get? entry = some (.file content true) ∧ decodeUtf8 content = .ok text ∧
    parse text = .ok settings

theorem ofRead_iff {entry : List String} {settings : Settings} :
    ofRead path (tree.readAt entry) = .ok settings ↔ Holds tree entry settings := by
  unfold Holds readAt
  cases tree.get? entry with
  | none => simp [ofRead]
  | some child =>
    cases child with
    | directory entries readable => cases readable <;> simp [ofRead]
    | file content readable =>
      cases readable with
      | false => simp [ofRead]
      | true =>
        cases decoded : decodeUtf8 content with
        | error => simp [ofRead, decoded, Except.mapError]
        | ok text => cases parsed : parse text <;> simp [ofRead, decoded, parsed, Except.mapError]

theorem Visible.load (visible : Visible tree above directory) (reached : Reached tree directory) :
    load tree (candidate directory) above =
      ofRead (candidate directory) (tree.readAt (directory ++ [fileName])) := by
  unfold Settings.load
  rw [visible.locate reached]
  rfl

/-- A tree that is the same along the way from the start up to the nearest entry. -/
structure SameUpTo (tree tree' : FileTree) (place directory : List String) : Prop where
  entries : ∀ other, directory <+: other → other <+: place →
    tree'.get? (other ++ [fileName]) = tree.get? (other ++ [fileName])
  searched : tree'.searchable place = tree.searchable place

theorem SameUpTo.visible_iff {tree' : FileTree} (same : SameUpTo tree tree' place directory)
    (reached : Reached tree place) (reached' : Reached tree' place) (below : directory <+: other)
    (higher : other <+: place) : Visible tree' above other ↔ Visible tree above other := by
  have found : tree'.has (other ++ [fileName]) = tree.has (other ++ [fileName]) :=
    congrArg Option.isSome (same.entries other below higher)
  have searched : tree'.searchable other = tree.searchable other := by
    by_cases start : other = place
    · exact start ▸ same.searched
    · rw [reached.searched other higher start, reached'.searched other higher start]
  constructor
  · exact fun visible => ⟨found ▸ visible.found, searched ▸ visible.searched, visible.fits⟩
  · exact fun visible => ⟨found ▸ visible.found, searched ▸ visible.searched, visible.fits⟩

theorem Nearest.transfer {tree' : FileTree} (nearest : Nearest tree above place directory)
    (same : SameUpTo tree tree' place directory) (reached : Reached tree place)
    (reached' : Reached tree' place) : Nearest tree' above place directory := by
  have seen {other : List String} (below : directory <+: other) (higher : other <+: place) :
      tree'.sees (candidate other) above = true ↔ tree.sees (candidate other) above = true := by
    rw [sees_iff (reached.of_prefix higher), sees_iff (reached'.of_prefix higher)]
    exact same.visible_iff reached reached' below higher
  refine ⟨nearest.higher, (seen (List.prefix_refl _) nearest.higher).mpr nearest.seen, ?_⟩
  intro other higher there
  rcases List.prefix_or_prefix_of_prefix higher nearest.higher with up | down
  · exact up
  · exact nearest.lowest other higher ((seen down higher).mp there)

/-- What discovery comes to where the nearest entry is in a directory. -/
structure DecidedBy (tree : FileTree) (above : Nat) (path : String) (place directory : List String) :
    Prop where
  found : ∀ settings, load tree (candidate directory) above = .ok settings →
    (discover tree path above).result? = some (settings, candidate directory) ∧
      (discover tree path above).entries = []
  ignored : ∀ e, load tree (candidate directory) above = .error e →
    (discover tree path above).result? = none ∧ (discover tree path above).entries =
      [.event .warn ("ignoring formatter config: " ++ e.fullMessage)
        [("path", quoted (candidate directory))]]
  loads : ∀ settings, load tree (candidate directory) above = .ok settings ↔
    Holds tree (directory ++ [fileName]) settings
  others : ∀ tree' : FileTree, tree'.resolve path above = .ok place →
    SameUpTo tree tree' place directory → discover tree' path above = discover tree path above

theorem Nearest.decided (nearest : Nearest tree above place directory)
    (resolved : tree.resolve path above = .ok place) : DecidedBy tree above path place directory := by
  have reached := reached_of_resolve resolved
  have here := reached.of_prefix nearest.higher
  have visible := (sees_iff here).mp nearest.seen
  have discovered := nearest.discover resolved
  constructor
  · intro settings loaded
    rw [discovered, loaded]
    exact ⟨rfl, rfl⟩
  · intro e refused
    rw [discovered, refused]
    exact ⟨rfl, rfl⟩
  · intro settings
    rw [visible.load here, ofRead_iff]
  · intro tree' resolved' same
    have reached' := reached_of_resolve resolved'
    have here' := reached'.of_prefix nearest.higher
    have nearest' := nearest.transfer same reached reached'
    have visible' := (sees_iff here').mp nearest'.seen
    rw [discovered, nearest'.discover resolved', visible.load here, visible'.load here']
    unfold readAt
    rw [same.entries directory (List.prefix_refl _) nearest.higher]

end FluentAssert.Settings
