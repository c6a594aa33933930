import SqlxDryRun.ConfigBlock
import SqlxDryRun.Position

/-!
# From lines of the compiled query to lines of the source

The compiler puts a preamble of a few lines in front of the query and leaves the configuration
block out. A line of the compiled query is therefore off by the lines of the block less the lines
of the preamble. All sums are 64-bit sums.
-/

namespace SqlxDryRun

namespace ConfigBlock.Span

/-- How far a line of the compiled query lies before its line in the source, for a preamble of the
given number of lines. -/
def lineShift (s : Span) (preamble : Int64) : Int64 :=
  (Int64.ofNat s.length.toNat + 1) - preamble

end ConfigBlock.Span

/-- The 32-bit line nearest to a 64-bit one. -/
def clampLine (line : Int64) : UInt32 :=
  if line < 0 then 0
  else if Int64.ofNat (UInt32.size - 1) < line then UInt32.ofNat (UInt32.size - 1)
  else UInt32.ofNat line.toNatClampNeg

/-- The position in the source of a position in the compiled query. -/
def Position.toSource (p : Position) (span : ConfigBlock.Span) (preamble : Int64) : Position :=
  ⟨clampLine (Int64.ofNat p.line.toNat + span.lineShift preamble), p.column⟩

end SqlxDryRun
