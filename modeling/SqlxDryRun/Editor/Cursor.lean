import SqlxDryRun.Position
import SqlxDryRun.Text.CharClass
import SqlxDryRun.Text.Lines
import SqlxDryRun.Text.Search

/-!
# The text at the cursor

What stands before a position of a document, which list completes it, and which identifier touches
it. Columns count characters.
-/

namespace SqlxDryRun.Editor

open Text

/-- The characters of a line before a column; all of them if the line is shorter. -/
def linePrefix? (text : String) (p : Position) : Option (List Char) :=
  (splitLines text.toList)[p.line.toNat]?.map fun line => line.take p.column.toNat

/-- What a place in a document can be completed with. -/
inductive CompletionTarget where
  | tags
  | dependencies
deriving DecidableEq, Repr, Inhabited

namespace CompletionTarget

/-- The words that say what is completed behind them. -/
def keywords : List (List Char × CompletionTarget) :=
  [("tags".toList, tags), ("dependencies".toList, dependencies), ("ref(".toList, dependencies),
    ("resolve(".toList, dependencies)]

/-- The later of two places, and the second one of equal places. -/
def later (best : Option (Nat × CompletionTarget)) (found : Nat × CompletionTarget) :
    Option (Nat × CompletionTarget) :=
  match best with
  | some b => if found.1 < b.1 then some b else some found
  | none => some found

/-- What is completed at the end of a text: the keyword that starts last decides. -/
def ofPrefix? (text : List Char) : Option CompletionTarget :=
  let found := keywords.filterMap fun (word, target) =>
    (lastIndex? word text).map fun i => (i, target)
  (found.foldl later none).map Prod.snd

end CompletionTarget

/-- The first and the last column of the identifier that touches a column of a line. -/
def identifierBounds? (line : List Char) (column : Nat) : Option (Nat × Nat) :=
  if line.length < column then none
  else
    let before := ((line.take column).reverse.takeWhile isIdentifierChar).length
    let after := ((line.drop column).takeWhile isIdentifierChar).length
    if before + after = 0 then none else some (column - before, column + after)

/-- The range of the identifier that touches a position of a document. -/
def identifierRange? (text : String) (p : Position) : Option Range := do
  let line ← (splitLines text.toList)[p.line.toNat]?
  let (first, last) ← identifierBounds? line p.column.toNat
  some ⟨⟨p.line, UInt32.ofNat first⟩, ⟨p.line, UInt32.ofNat last⟩⟩

end SqlxDryRun.Editor
