import SqlxDryRun.Text.CharClass

/-!
# Reading natural numbers

A number is written with ASCII digits. Reading goes from the left and stops at the first problem: a
character that is no digit, or a value beyond the limit.
-/

namespace SqlxDryRun.Text

/-- Why a text is not a number within the limit. -/
inductive NaturalError where
  | empty
  | invalidDigit
  | tooLarge
deriving DecidableEq, Repr, Inhabited

namespace NaturalError

/-- The text of the problem. -/
def message : NaturalError → String
  | empty => "cannot parse integer from empty string"
  | invalidDigit => "invalid digit found in string"
  | tooLarge => "number too large to fit in target type"

end NaturalError

/-- The value of digits read after a value that is already known. -/
def readDigits (limit value : Nat) : List Char → Except NaturalError Nat
  | [] => .ok value
  | c :: rest =>
    match digitValue? c with
    | none => .error .invalidDigit
    | some d =>
      if value * 10 + d > limit then .error .tooLarge
      else readDigits limit (value * 10 + d) rest

/-- The value of a number of at least one digit, which may have a plus sign. -/
def readNatural (limit : Nat) : List Char → Except NaturalError Nat
  | [] => .error .empty
  | ['+'] => .error .invalidDigit
  | '+' :: rest => readDigits limit 0 rest
  | cs => readDigits limit 0 cs

end SqlxDryRun.Text
