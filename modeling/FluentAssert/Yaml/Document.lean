import FluentAssert.Yaml.Event

/-! The first document of a text: its nodes in the order in which they begin and end, with every
alias resolved. A document that a fault cuts short keeps what was read before the fault. -/
namespace FluentAssert.Yaml

inductive Content where
  | scalar (tag : Option String) (text : String) (style : Style)
  | sequence
  | mapping
  deriving DecidableEq, Repr

structure Head where
  content : Content
  mark : Mark
  deriving DecidableEq, Repr

inductive Part where
  /-- A node. If it is a collection, the parts up to the end that matches belong to it. -/
  | node (head : Head)
  /-- An alias of a node, in one part also for collections. -/
  | again (head : Head)
  | close
  deriving DecidableEq, Repr

/-- No parts and no fault: there is no document. -/
structure Document where
  parts : List Part
  fault : Option Fault
  isFollowed : Bool
  deriving DecidableEq, Repr

/-- A part whose alias is still a number. -/
inductive DraftPart where
  | node (head : Head)
  | again (number : Nat)
  | close

/-- What was read of a document. A name gets the count of the other names as its number. A name
that is given twice leaves a number unused until the next new name takes it; of two nodes with one
number the later one counts. -/
structure Draft where
  /-- The last part first. -/
  parts : List DraftPart := []
  anchors : List (String × Nat) := []
  heads : List (Nat × Head) := []

namespace Draft

def push (draft : Draft) (part : DraftPart) : Draft := { draft with parts := part :: draft.parts }

def node (draft : Draft) (properties : Properties) (content : Content) (mark : Mark) : Draft :=
  let head : Head := ⟨content, mark⟩
  let draft := draft.push (.node head)
  match properties.anchor with
  | none => draft
  | some name =>
    let number := draft.anchors.length
    { draft with
      anchors := (name, number) :: draft.anchors.filter (·.1 != name)
      heads := (number, head) :: draft.heads }

def add (draft : Draft) (event : Event) : Except Fault Draft :=
  match event.kind with
  | .scalar properties text style =>
    .ok (draft.node properties (.scalar properties.tag text style) event.mark)
  | .sequenceStart properties => .ok (draft.node properties .sequence event.mark)
  | .mappingStart properties => .ok (draft.node properties .mapping event.mark)
  | .sequenceEnd | .mappingEnd => .ok (draft.push .close)
  | .alias name =>
    match draft.anchors.lookup name with
    | some number => .ok (draft.push (.again number))
    | none => .error { problem := "unknown anchor", mark := event.mark }
  | .documentStart | .documentEnd | .streamEnd => .ok draft

def resolve (draft : Draft) : DraftPart → Option Part
  | .node head => some (.node head)
  | .again number => (draft.heads.lookup number).map .again
  | .close => some .close

def finish (draft : Draft) (fault : Option Fault) (isFollowed : Bool) : Document :=
  ⟨draft.parts.reverse.filterMap draft.resolve, fault, isFollowed⟩

end Draft

/-- Whether there is more than the end. A fault is more. -/
def Reader.hasMore (r : Reader) : Bool :=
  match r.next with
  | .ok (event, _) => event.kind ≠ .streamEnd
  | .error _ => true

def Reader.document : Nat → Draft → Reader → Document
  | 0, draft, _ => draft.finish none false
  | fuel + 1, draft, r =>
    match r.next with
    | .error fault => draft.finish (some fault) false
    | .ok (event, r) =>
      match event.kind with
      | .streamEnd => draft.finish none false
      | .documentEnd => draft.finish none r.hasMore
      | _ =>
        match draft.add event with
        | .error fault => draft.finish (some fault) false
        | .ok draft => Reader.document fuel draft r

/-- The first character that no document may have. -/
def forbidden? (text : List Char) : Option Fault :=
  if text.all isAllowed then none
  else
    let before := text.takeWhile isAllowed
    some { problem := "control characters are not allowed", mark := .start,
           offset := before.foldl (fun n c => n + c.utf8Size) 0 }

/-- Events that a text can have at most: every character begins and ends few nodes. -/
def eventBound (text : List Char) : Nat := 16 * (text.length + 2)

def Document.read (text : List Char) : Document :=
  match forbidden? text with
  | some fault => ⟨[], some fault, false⟩
  | none => (Reader.start text).document (eventBound text) {}

end FluentAssert.Yaml
