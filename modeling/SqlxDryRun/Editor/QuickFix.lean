import SqlxDryRun.Editor.Cursor
import SqlxDryRun.Editor.Remark

/-!
# Quick fixes

A remark with a suggestion can be fixed by putting the suggestion in the place of the identifier at
which the remark starts. Where there is no identifier, the whole range of the remark is replaced.
-/

namespace SqlxDryRun.Editor

open Json (Value)

/-- A replacement in a document that settles a remark. -/
structure QuickFix where
  uri : Uri
  range : Range
  replacement : String
  remark : Remark
deriving Inhabited

namespace QuickFix

/-- The fix for a remark about a document, whose text may not be known. -/
def ofRemark? (u : Uri) (text : Option String) (r : Remark) : Option QuickFix :=
  r.suggestion?.map fun s =>
    ⟨u, (text.bind fun t => identifierRange? t r.range.start).getD r.range, s, r⟩

/-- The written form of a fix. -/
def toJson (f : QuickFix) : Value :=
  let edit := Value.ofFields [("range", rangeJson f.range), ("newText", .string f.replacement)]
  .ofFields [
    ("title", .string ("Replace with " ++ f.replacement)),
    ("kind", .string "quickfix"),
    ("diagnostics", .ofItems [f.remark.toJson]),
    ("edit", .ofFields [("changes", .ofFields [(f.uri.toString, .ofItems [edit])])]),
    ("isPreferred", .bool true)]

end QuickFix

end SqlxDryRun.Editor
