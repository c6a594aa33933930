import SqlxDryRun.Text.Natural
import SqlxDryRun.Text.Search

/-!
# Locations in error messages

The validation service writes the place of an error into its message as `at [line:column]`. The last
place in the message counts. Its numbers may be written in the digits of any script, but only ASCII
digits are understood, and only 32-bit values.
-/

namespace SqlxDryRun.Validation.Location

open SqlxDryRun.Text

/-- The text in front of a line number. -/
def lead : List Char :=
  ['a', 't', ' ', '[']

/-- A maximal run of decimal digits that is followed by a mark, and what comes behind the mark. -/
def number? (mark : Char) (text : List Char) : Option (List Char × List Char) :=
  match text.takeWhile isDecimalDigit, text.dropWhile isDecimalDigit with
  | [], _ => none
  | digits, c :: rest => if c = mark then some (digits, rest) else none
  | _, [] => none

/-- The digits of the line and of the column of a location that begins exactly here. -/
def here? (text : List Char) : Option (List Char × List Char) := do
  let rest ← afterPrefix? lead text
  let (line, rest) ← number? ':' rest
  let (column, _) ← number? ']' rest
  some (line, column)

/-- The last location of a text. -/
def last? : List Char → Option (List Char × List Char)
  | [] => none
  | c :: rest => (last? rest).or (here? (c :: rest))

/-- The 32-bit value of decimal digits, if all of them are ASCII digits. -/
def value? (digits : List Char) : Option UInt32 :=
  match readDigits (UInt32.size - 1) 0 digits with
  | .ok n => some (UInt32.ofNat n)
  | .error _ => none

/-- The line and the column of the last location of a message. -/
def ofMessage? (message : String) : Option (UInt32 × UInt32) := do
  let (line, column) ← last? message.toList
  some (← value? line, ← value? column)

end SqlxDryRun.Validation.Location
