import SqlxDryRun.Text.CharClass
import SqlxDryRun.Text.Search

/-!
# The configuration block of a source file

A source file may hold one block `config { … }`, which the compiler leaves out of the query it
emits. The block starts on the first line with `config` as a word of its own, and ends on the line
of the brace that closes it. Braces count from the beginning of the starting line on.

Main definitions:

* `hasToken`: whether a line holds `config` as a word of its own;
* `scanLine`: the brace depth behind a line, or nothing once the block is closed;
* `locate`: the span of the block in the lines of a document.
-/

namespace SqlxDryRun.ConfigBlock

open SqlxDryRun.Text

/-- The word that starts the block. -/
def token : List Char :=
  ['c', 'o', 'n', 'f', 'i', 'g']

/-- Whether a word may end or begin next to this neighbour: there is none, or it is neither an ASCII
letter nor an ASCII digit nor an underscore. -/
def isBoundary : Option Char → Bool
  | none => true
  | some c => !isTokenChar c

/-- Whether the text begins with the token and goes on at a boundary. -/
def startsWithToken (text : List Char) : Bool :=
  match afterPrefix? token text with
  | none => false
  | some rest => isBoundary rest.head?

/-- Whether the token occurs as a word of its own in a text that follows the character `before`. -/
def hasTokenAfter (before : Option Char) : List Char → Bool
  | [] => false
  | c :: rest =>
    (isBoundary before && startsWithToken (c :: rest)) || hasTokenAfter (some c) rest

/-- Whether a line holds the token as a word of its own. -/
def hasToken (line : List Char) : Bool :=
  hasTokenAfter none line

/-- The brace depth behind a line that is entered at `depth`, or nothing if the block closes on it.
A closing brace closes the block at depth one, and also at depth zero. The depth is a 32-bit number. -/
def scanLine (depth : UInt32) : List Char → Option UInt32
  | [] => some depth
  | '{' :: rest => scanLine (depth + 1) rest
  | '}' :: rest => if depth ≤ 1 then none else scanLine (depth - 1) rest
  | _ :: rest => scanLine depth rest

/-- The number of the line on which the block closes, when the first of `lines` has the given number
and is entered at `depth`. -/
def closingLine? (depth : UInt32) (number : Nat) : List (List Char) → Option Nat
  | [] => none
  | line :: rest =>
    match scanLine depth line with
    | none => some number
    | some deeper => closingLine? deeper (number + 1) rest

/-- The first and the last line of a block, counted from one. The last line is zero if the block is
never closed, and both are zero if there is no block. -/
structure Span where
  startLine : UInt32
  endLine : UInt32
deriving DecidableEq, Repr, Inhabited

namespace Span

/-- The span that stands for "no block". -/
def notFound : Span := ⟨0, 0⟩

/-- Whether the span has a first and a last line, in this order. -/
def isClosed (s : Span) : Bool :=
  0 < s.startLine && s.startLine ≤ s.endLine

/-- The number of lines from the first to the last line, the first one not counted; zero if the last
line does not come after the first. -/
def length (s : Span) : UInt32 :=
  if s.startLine ≤ s.endLine then s.endLine - s.startLine else 0

/-- Whether the length is zero. -/
def isEmpty (s : Span) : Bool :=
  s.length == 0

end Span

/-- The span of the block in lines of which the first has the given number. -/
def locateFrom (number : Nat) : List (List Char) → Span
  | [] => .notFound
  | line :: rest =>
    if hasToken line then
      ⟨UInt32.ofNat number, UInt32.ofNat ((closingLine? 0 number (line :: rest)).getD 0)⟩
    else locateFrom (number + 1) rest

/-- The span of the configuration block in the lines of a document. -/
def locate (lines : List String) : Span :=
  locateFrom 1 (lines.map String.toList)

end SqlxDryRun.ConfigBlock
