import SqlxDryRun.Text.CharClass

/-!
# Trimming and words

White space at the ends of a text, and the words between white space.
-/

namespace SqlxDryRun.Text

/-- The characters left after white space is removed from the end. -/
def trimRight (cs : List Char) : List Char :=
  (cs.reverse.dropWhile isBlank).reverse

/-- The characters left after white space is removed from both ends. -/
def trimChars (cs : List Char) : List Char :=
  trimRight (cs.dropWhile isBlank)

/-- The string without white space at its two ends. -/
def trim (s : String) : String :=
  String.ofList (trimChars s.toList)

/-- Whether a string holds white space only. -/
def isBlankText (s : String) : Bool :=
  s.toList.all isBlank

/-- The maximal runs of characters that satisfy `keep`, in order. -/
def runs (keep : Char → Bool) : List Char → List (List Char)
  | [] => []
  | c :: rest =>
    if keep c then
      match rest with
      | [] => [[c]]
      | d :: _ =>
        if keep d then
          match runs keep rest with
          | [] => [[c]]
          | run :: more => (c :: run) :: more
        else [c] :: runs keep rest
    else runs keep rest

/-- The words of a string: the maximal runs of characters that are not white space. -/
def words (s : String) : List String :=
  (runs (fun c => !isBlank c) s.toList).map String.ofList

end SqlxDryRun.Text
