/-! Texts as sequences of lines. -/
namespace FluentAssert.Text

/-- Pieces of a text, each but perhaps the last ending in its line feed. -/
def pieces : List Char → List (List Char)
  | [] => []
  | c :: rest =>
    if c = '\n' then [c] :: pieces rest
    else match pieces rest with
      | [] => [[c]]
      | piece :: more => (c :: piece) :: more

/-- A piece without its line end, which is a line feed or a carriage return and a line feed. -/
def dropLineEnd (piece : List Char) : List Char :=
  match piece.reverse with
  | '\n' :: '\r' :: rest => rest.reverse
  | '\n' :: rest => rest.reverse
  | _ => piece

/-- Lines of a text without their ends. A final line feed begins no further line. -/
def lines (text : String) : List String :=
  (pieces text.toList).map fun piece => String.ofList (dropLineEnd piece)

def indent (width : Nat) (text : String) : String :=
  let pad := String.ofList (List.replicate width ' ')
  "\n".intercalate ((lines text).map (pad ++ ·))

end FluentAssert.Text
