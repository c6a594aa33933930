/-!
# Positions and ranges

A place in a document is a line and a column, both of 32 bits. Whether lines count from zero or
from one is up to whoever reports the place; nothing here depends on it.
-/

namespace SqlxDryRun

/-- A line and a column. -/
structure Position where
  line : UInt32
  column : UInt32
deriving DecidableEq, Repr, Inhabited

namespace Position

/-- The position as `line:column`. -/
def text (p : Position) : String :=
  toString p.line.toNat ++ ":" ++ toString p.column.toNat

end Position

/-- The stretch of a document from one position up to another. -/
structure Range where
  start : Position
  stop : Position
deriving DecidableEq, Repr, Inhabited

namespace Range

/-- The sum of two columns, or the largest column if the sum has no 32-bit form. -/
def advance (column width : UInt32) : UInt32 :=
  if column.toNat + width.toNat < UInt32.size then column + width
  else UInt32.ofNat (UInt32.size - 1)

/-- The range that starts at a position and covers `width` columns of its line. -/
def onLine (start : Position) (width : UInt32) : Range :=
  ⟨start, ⟨start.line, advance start.column width⟩⟩

end Range

end SqlxDryRun
