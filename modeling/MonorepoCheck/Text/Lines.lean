/-!
Lines. A line ends at a line feed; a carriage return right before that line feed belongs to the
end of the line. Text after the last line feed is a line of its own unless it is empty.
-/
namespace MonorepoCheck.Text

def lines : List Char → List (List Char)
  | [] => []
  | '\n' :: rest => [] :: lines rest
  | '\r' :: '\n' :: rest => [] :: lines rest
  | c :: rest =>
    match lines rest with
    | [] => [[c]]
    | line :: more => (c :: line) :: more

/-- The text of lines that all end in a line feed. -/
def unlines (rows : List String) : String := String.join (rows.map (· ++ "\n"))

/-- The lines of a text, as texts. -/
def textLines (text : String) : List String := (lines text.toList).map String.ofList

end MonorepoCheck.Text
