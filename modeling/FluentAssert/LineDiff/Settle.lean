import FluentAssert.LineDiff.Script

/-! Settling a script: insertions slide up and then down as far as kept items repeat them, and
neighbours of one kind are joined. Between kept items deletions come before insertions. Neither side
of the script changes. -/
namespace FluentAssert.LineDiff

variable {α : Type} [BEq α]

/-- An edit in its place, with the edits before it, nearest first, and after it. -/
structure Focus (α : Type) where
  before : Script α
  here : Edit α
  after : Script α

def keepBefore (items : List α) : Script α → Script α
  | .keep next :: rest => .keep (items ++ next) :: rest
  | script => .keep items :: script

/-- Puts kept items behind a script whose nearest edit is first. -/
def keepAfter (items : List α) : Script α → Script α
  | .keep last :: rest => .keep (last ++ items) :: rest
  | script => .keep items :: script

/-- Keeps the items in front of a script, unless there are none. -/
def keepRest (items : List α) (script : Script α) : Script α :=
  if items.isEmpty then script else .keep items :: script

def slideUp : Nat → Focus α → Focus α
  | 0, focus => focus
  | fuel + 1, ⟨before, here, after⟩ =>
    match before with
    | [] => ⟨before, here, after⟩
    | previous :: earlier =>
      match here, previous with
      | .insert come, .keep kept =>
        let shared := commonSuffix kept come
        if shared = 0 then ⟨before, here, after⟩
        else
          let tail := come.drop (come.length - shared)
          slideUp fuel
            ⟨keepRest (kept.take (kept.length - shared)) earlier,
              .insert (tail ++ come.take (come.length - shared)), keepBefore tail after⟩
      | .insert come, .delete gone => slideUp fuel ⟨earlier, .insert come, .delete gone :: after⟩
      | .delete gone, .insert come => slideUp fuel ⟨earlier, .delete gone, .insert come :: after⟩
      | .insert come, .insert sooner => slideUp fuel ⟨earlier, .insert (sooner ++ come), after⟩
      | .delete gone, .delete sooner => slideUp fuel ⟨earlier, .delete (sooner ++ gone), after⟩
      | _, _ => ⟨before, here, after⟩

def slideDown : Nat → Focus α → Focus α
  | 0, focus => focus
  | fuel + 1, ⟨before, here, after⟩ =>
    match after with
    | [] => ⟨before, here, after⟩
    | next :: later =>
      match here, next with
      | .insert come, .keep kept =>
        let shared := commonPrefix kept come
        if shared = 0 then ⟨before, here, after⟩
        else
          let head := come.take shared
          slideDown fuel
            ⟨keepAfter head before, .insert (come.drop shared ++ head),
              keepRest (kept.drop shared) later⟩
      | .insert come, .delete gone => slideDown fuel ⟨.delete gone :: before, .insert come, later⟩
      | .delete gone, .insert come => slideDown fuel ⟨.insert come :: before, .delete gone, later⟩
      | .insert come, .insert more => slideDown fuel ⟨before, .insert (come ++ more), later⟩
      | .delete gone, .delete more => slideDown fuel ⟨before, .delete (gone ++ more), later⟩
      | _, _ => ⟨before, here, after⟩

/-- Settles, from left to right, the edits of the kind that `moves` picks out. -/
def settleKind (moves : Edit α → Bool) : Nat → Script α → Script α → Script α
  | 0, before, after => before.reverse ++ after
  | _ + 1, before, [] => before.reverse
  | fuel + 1, before, edit :: after =>
    if moves edit then
      let up := slideUp (Script.weight before) ⟨before, edit, after⟩
      let down := slideDown (Script.weight up.after) up
      settleKind moves fuel (down.here :: down.before) down.after
    else settleKind moves fuel (edit :: before) after

def isDeletion : Edit α → Bool
  | .delete _ => true
  | _ => false

def isInsertion : Edit α → Bool
  | .insert _ => true
  | _ => false

/-- A gap between kept items, as its deletions and then its insertions. -/
def gap (gone come : List α) : Script α :=
  (if gone.isEmpty then [] else [.delete gone]) ++ (if come.isEmpty then [] else [.insert come])

def joinGaps (gone come : List α) : Script α → Script α
  | [] => gap gone come
  | .keep items :: rest => gap gone come ++ .keep items :: joinGaps [] [] rest
  | .delete items :: rest => joinGaps (gone ++ items) come rest
  | .insert items :: rest => joinGaps gone (come ++ items) rest

def settle (script : Script α) : Script α :=
  let deleted := settleKind isDeletion (Script.weight script) [] script
  joinGaps [] [] (settleKind isInsertion (Script.weight deleted) [] deleted)

end FluentAssert.LineDiff
