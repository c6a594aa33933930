/-!
# Lines of a text

A line ends at a line feed or at the end of the text; a carriage return directly before the line
feed belongs to the line end. A text that ends in a line feed has no further, empty line.
-/

namespace SqlxDryRun.Text

/-- The lines of a text, without their ends. -/
def splitLines : List Char → List (List Char)
  | [] => []
  | '\n' :: rest => [] :: splitLines rest
  | '\r' :: '\n' :: rest => [] :: splitLines rest
  | c :: rest =>
    match splitLines rest with
    | [] => [[c]]
    | line :: lines => (c :: line) :: lines

/-- The lines of a string, without their ends. -/
def lines (text : String) : List String :=
  (splitLines text.toList).map String.ofList

/-- The lines joined by line feeds, with none after the last line. -/
def unlines (lines : List String) : String :=
  String.intercalate "\n" lines

end SqlxDryRun.Text
