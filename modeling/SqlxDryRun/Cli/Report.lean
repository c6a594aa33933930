import SqlxDryRun.Text.Search

/-!
# Reports of failure

A failure is a message with the chain of its causes. A single cause is indented; several causes are
numbered. The further lines of a cause are indented like its first line.
-/

namespace SqlxDryRun.Cli

/-- A failure: a message, and its causes from the outside in. -/
structure Failure where
  message : String
  causes : List String
deriving DecidableEq, Repr, Inhabited

namespace Failure

/-- A failure without causes. -/
def plain (message : String) : Failure := ⟨message, []⟩

/-- The lines of a cause: `first` stands before the first one and `indent` before the others. -/
def causeText (first indent cause : String) : String :=
  let lines := (Text.splitAt '\n' cause.toList).map String.ofList
  first ++ String.intercalate ("\n" ++ indent) lines

/-- A number in five columns. -/
def numberText (n : Nat) : String :=
  let digits := toString n
  String.ofList (List.replicate (5 - digits.length) ' ') ++ digits ++ ": "

/-- The text of a failure. -/
def text (f : Failure) : String :=
  let causes :=
    match f.causes with
    | [] => []
    | [only] => [causeText "    " "    " only]
    | many =>
      (List.range many.length).zipWith (fun n c => causeText (numberText n) "       " c) many
  if causes.isEmpty then "Error: " ++ f.message
  else "Error: " ++ f.message ++ "\n\nCaused by:\n" ++ String.intercalate "\n" causes

end Failure

end SqlxDryRun.Cli
