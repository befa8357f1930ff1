import FluentAssert.FileTree
import FluentAssert.Journal
import FluentAssert.Message.Settings.Document

/-! Settings in files. They are loaded from a path, or found beside or above one: the nearest entry
with the right name counts, also if it turns out to be useless. -/
namespace FluentAssert.Settings

open FluentAssert.Text

inductive LoadError where
  | unreadable (path : String) (cause : FileError)
  | unparsed (path : String) (cause : DocumentError)
  deriving DecidableEq, Repr

namespace LoadError

def message : LoadError → String
  | unreadable path _ => "Failed to read formatter config: " ++ quoted path
  | unparsed path _ => "Failed to parse formatter config: " ++ quoted path

def causeMessage : LoadError → String
  | unreadable _ cause => cause.message
  | unparsed _ cause => cause.message

def fullMessage (e : LoadError) : String := e.message ++ ": " ++ e.causeMessage

end LoadError

def ofRead (path : String) (text : Except FileError String) : Except LoadError Settings :=
  match text with
  | .error cause => .error (.unreadable path cause)
  | .ok text => (parse text).mapError (.unparsed path)

def load (tree : FileTree) (path : String) (above : Nat := 0) : Except LoadError Settings :=
  ofRead path (do tree.readAt (← tree.locate path above))

def fileName : String := ".apiexpect.yaml"

def candidate (directory : List String) : String := FileTree.pathOf (directory ++ [fileName])

def nearest? (tree : FileTree) (place : List String) (above : Nat := 0) : Option String :=
  ((FileTree.ancestors place).map candidate).find? fun path => tree.sees path above

inductive Discovery where
  /-- No path to start from, or no entry. -/
  | nothing
  | found (settings : Settings) (path : String)
  /-- The nearest entry is useless. -/
  | ignored (path : String) (error : LoadError)
  deriving DecidableEq, Repr

def Discovery.ofLoaded (path : String) : Except LoadError Settings → Discovery
  | .ok settings => .found settings path
  | .error e => .ignored path e

/-- Settings at or above a path, which may be that of a file. -/
def discover (tree : FileTree) (path : String) (above : Nat := 0) : Discovery :=
  match tree.resolve path above with
  | .error _ => .nothing
  | .ok place =>
    match nearest? tree place above with
    | none => .nothing
    | some path => .ofLoaded path (load tree path above)

/-- What is found. A useless entry is as good as none. -/
def Discovery.result? : Discovery → Option (Settings × String)
  | nothing | ignored .. => none
  | found settings path => some (settings, path)

def Discovery.entries : Discovery → List Entry
  | nothing | found .. => []
  | ignored path e =>
    [.event .warn ("ignoring formatter config: " ++ e.fullMessage) [("path", quoted path)]]

end FluentAssert.Settings
