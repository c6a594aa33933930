import SqlxDryRun.Text.CharClass
import SqlxDryRun.Text.Search

/-!
# Suggestions in error messages

The validation service may add a hint to an error, such as
`Unrecognized name: ordr; Did you mean order?`. The hint stands behind the first semicolon of the
message; the suggestion is the word between `Did you mean ` and the question mark.
-/

namespace SqlxDryRun.Suggestion

open SqlxDryRun.Text

/-- The words in front of a suggestion. -/
def lead : List Char :=
  "Did you mean ".toList

/-- The suggestion that begins exactly here: the lead, then word characters, then a question mark.
-/
def here? (text : List Char) : Option (List Char) :=
  match afterPrefix? lead text with
  | none => none
  | some rest =>
    match rest.takeWhile isWordChar, rest.dropWhile isWordChar with
    | [], _ => none
    | word, '?' :: _ => some word
    | _, _ => none

/-- The leftmost suggestion of a text. -/
def first? : List Char → Option (List Char)
  | [] => none
  | c :: rest => (here? (c :: rest)).or (first? rest)

/-- The suggestion of a message: the leftmost one behind the first semicolon. -/
def ofMessage? (message : String) : Option String :=
  match splitOnce? ';' message.toList with
  | none => none
  | some (_, hint) => (first? hint).map String.ofList

end SqlxDryRun.Suggestion
