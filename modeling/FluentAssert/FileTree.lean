import FluentAssert.Text.Utf8

/-! Trees of files, and how paths lead through them. Every component of a path is looked up on its
own, so all directories on the way must exist, also where the path turns back. -/
namespace FluentAssert

open FluentAssert.Text

/-- A place in a tree is the list of names that lead to it from the top. -/
inductive FileTree where
  | file (content : Bytes) (readable : Bool := true)
  | directory (entries : List (String × FileTree)) (readable searchable : Bool := true)

inductive FileError where
  | missing | isDirectory | notDirectory | notText | denied
  /-- A component or the whole path has too many octets. -/
  | tooLong
  | hasNull
  deriving DecidableEq, Repr

def FileError.message : FileError → String
  | missing => "No such file or directory (os error 2)"
  | isDirectory => "Is a directory (os error 21)"
  | notDirectory => "Not a directory (os error 20)"
  | notText => "stream did not contain valid UTF-8"
  | denied => "Permission denied (os error 13)"
  | tooLong => "File name too long (os error 36)"
  | hasNull => "file name contained an unexpected NUL byte"

namespace FileTree

def empty : FileTree := directory []

def get? : FileTree → List String → Option FileTree
  | tree, [] => some tree
  | file .., _ :: _ => none
  | directory entries .., name :: rest => (entries.lookup name).bind (·.get? rest)

def has (tree : FileTree) (place : List String) : Bool := (tree.get? place).isSome

/-- The entries of a directory with the one of this name put in, in place of an old one. -/
def withEntry (entries : List (String × FileTree)) (name : String) (tree : FileTree) :
    List (String × FileTree) :=
  (name, tree) :: entries.filter (·.1 != name)

/-- Changes what is at a place. Directories that lead to it are made. -/
def update (change : Option FileTree → FileTree) : List String → Option FileTree → FileTree
  | [], old => change old
  | name :: rest, some (directory entries readable searchable) =>
    directory (withEntry entries name (update change rest (entries.lookup name))) readable searchable
  | name :: rest, _ => directory [(name, update change rest none)]

def withFile (tree : FileTree) (place : List String) (content : Bytes) : FileTree :=
  update (fun _ => file content) place (some tree)

def withDirectory (tree : FileTree) (place : List String) : FileTree :=
  update (fun old => old.getD empty) place (some tree)

def components (path : String) : List String := (path.toList.splitOn '/').map String.ofList

def pathOf (place : List String) : String := "/".intercalate place

/-- A path that starts from a directory, unless it starts from the top. -/
def join (directory path : String) : String :=
  if path.startsWith "/" then path else directory ++ "/" ++ path

def longestComponent : Nat := 255

def longestPath : Nat := 4095

/-- Goes on by one component. All but an empty one needs a directory that may be searched. -/
def enter (tree : FileTree) (here : List String) (component : String) :
    Except FileError (List String) :=
  match tree.get? here with
  | none => .error .missing
  | some (file ..) => .error .notDirectory
  | some (directory entries _ searchable) =>
    if component = "" then .ok here
    else if !searchable then .error .denied
    else if component = "." then .ok here
    else if component = ".." then .ok here.dropLast
    else if longestComponent < component.utf8ByteSize then .error .tooLong
    else if (entries.lookup component).isSome then .ok (here ++ [component])
    else .error .missing

/-- What is wrong with a path as a whole, before any of its components is looked up. Paths start
from the top of the tree, and the way to the top counts, with all its octets. -/
def pathFault? (path : String) (above : Nat := 0) : Option FileError :=
  if '\x00' ∈ path.toList then some .hasNull
  else if path = "" then some .missing
  else if longestPath < above + path.utf8ByteSize then some .tooLong
  else none

def locate (tree : FileTree) (path : String) (above : Nat := 0) : Except FileError (List String) :=
  match pathFault? path above with
  | some fault => .error fault
  | none => (components path).foldlM tree.enter []

def sees (tree : FileTree) (path : String) (above : Nat := 0) : Bool := (tree.locate path above).isOk

/-- One component of a path that is made canonical. Each name is looked up by its whole path so far;
of a directory that is left again or stayed in, only its own path matters. -/
def resolveStep (tree : FileTree) (above : Nat) (here : List String) (component : String) :
    Except FileError (List String) :=
  if component ∈ ["", ".", ".."] then do
    let _ ← tree.locate (pathOf here ++ "/") above
    return if component = ".." then here.dropLast else here
  else tree.locate (pathOf (here ++ [component])) above

/-- The place whose path is the canonical form of a path, however long that path is. -/
def resolve (tree : FileTree) (path : String) (above : Nat := 0) : Except FileError (List String) :=
  if '\x00' ∈ path.toList then .error .hasNull
  else if path = "" then .error .missing
  else (components path).foldlM (tree.resolveStep above) []

def readAt (tree : FileTree) (place : List String) : Except FileError String :=
  match tree.get? place with
  | none => .error .missing
  | some (file content true) => (decodeUtf8 content).mapError fun _ => .notText
  | some (directory _ true _) => .error .isDirectory
  | some (file _ false) | some (directory _ false _) => .error .denied

/-- A place and the directories above it, the nearest first. -/
def ancestors : List String → List (List String)
  | [] => [[]]
  | name :: rest => (ancestors rest).map (name :: ·) ++ [[]]

end FileTree
end FluentAssert
