/-!
# Finding a text in a text

Places where a pattern starts in a list of characters, counted from the left.
-/

namespace SqlxDryRun.Text

/-- What follows the pattern at the head of a text, if the text begins with it. -/
def afterPrefix? : (pattern text : List Char) → Option (List Char)
  | [], text => some text
  | _ :: _, [] => none
  | p :: pattern, c :: text => if p = c then afterPrefix? pattern text else none

/-- The first place where the pattern starts. -/
def firstIndex? (pattern : List Char) : List Char → Option Nat
  | [] => if pattern.isEmpty then some 0 else none
  | c :: text =>
    if (afterPrefix? pattern (c :: text)).isSome then some 0
    else (firstIndex? pattern text).map (· + 1)

/-- The last place where the pattern starts. -/
def lastIndex? (pattern : List Char) : List Char → Option Nat
  | [] => if pattern.isEmpty then some 0 else none
  | c :: text =>
    match lastIndex? pattern text with
    | some i => some (i + 1)
    | none => if (afterPrefix? pattern (c :: text)).isSome then some 0 else none

/-- The text before and after the first occurrence of a character. -/
def splitOnce? (mark : Char) : List Char → Option (List Char × List Char)
  | [] => none
  | c :: rest =>
    if c = mark then some ([], rest)
    else (splitOnce? mark rest).map fun (before, after) => (c :: before, after)

/-- The parts of a text between the occurrences of a character; a text without it is one part. -/
def splitAt (mark : Char) : List Char → List (List Char)
  | [] => [[]]
  | c :: rest =>
    if c = mark then [] :: splitAt mark rest
    else
      match splitAt mark rest with
      | [] => [[c]]
      | part :: parts => (c :: part) :: parts

end SqlxDryRun.Text
