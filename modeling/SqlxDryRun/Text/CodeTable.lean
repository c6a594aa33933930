import SqlxDryRun.Text.Blank
import SqlxDryRun.Text.Search

/-!
# Tables of code points

A table says what code points stand for. It is written as words, one for each run of code points
that belong together: `41-5A>61` says that `41` to `5A` stand for `61` to `7A`, `300-314=E6` that
all of `300` to `314` stand for `E6`, and `100-17E/2>101` leaves out every second code point.
Several code points that one stands for are written with dots between them, and only the last one
moves along. All numbers but the step are hexadecimal.

Main definitions:

* `CodeRun`: one run, with `contains` and `target`;
* `CodeTable.ofText`: a table from its words;
* `CodeTable.find?`, `CodeTable.source?`: what a code point stands for, and which one stands for
  given code points.
-/

namespace SqlxDryRun.Text

/-- A run of code points, each `step` behind the one before it, and the code points that its first
one stands for. In a run that moves, the last of these moves along. -/
structure CodeRun where
  first : Nat
  last : Nat
  step : Nat
  moves : Bool
  targets : List Nat
deriving DecidableEq, Repr, Inhabited

namespace CodeRun

/-- Whether a code point belongs to a run. -/
def contains (r : CodeRun) (n : Nat) : Bool :=
  r.first ≤ n && n ≤ r.last && (n - r.first) % r.step == 0

/-- The code points with the last one moved. -/
def moveLast (distance : Nat) : List Nat → List Nat
  | [] => []
  | [n] => [n + distance]
  | n :: ns => n :: moveLast distance ns

/-- What a code point of a run stands for. -/
def target (r : CodeRun) (n : Nat) : List Nat :=
  if r.moves then moveLast (n - r.first) r.targets else r.targets

/-- The code point of a run that stands for the given ones. -/
def source? (r : CodeRun) (target : List Nat) : Option Nat :=
  match r.targets.getLast?, target.getLast? with
  | some a, some b =>
    let n := r.first + (b - a)
    if r.contains n && r.target n == target then some n else none
  | _, _ => none

/-! ## Reading -/

/-- The value of hexadecimal digits. -/
def ofHex (digits : List Char) : Nat :=
  digits.foldl (fun n c => n * 16 + (hexValue? c).getD 0) 0

/-- The value of decimal digits. -/
def ofDecimal (digits : List Char) : Nat :=
  digits.foldl (fun n c => n * 10 + (digitValue? c).getD 0) 0

/-- The code points that are written with dots between them. -/
def ofDotted (text : List Char) : List Nat :=
  if text.isEmpty then [] else (splitAt '.' text).map ofHex

/-- The run whose code points are written in front of its targets. -/
def ofParts (codes targets : List Char) (moves : Bool) : CodeRun :=
  let (range, step) := (splitOnce? '/' codes).getD (codes, ['1'])
  let (first, last) := (splitOnce? '-' range).getD (range, range)
  ⟨ofHex first, ofHex last, ofDecimal step, moves, ofDotted targets⟩

/-- The run that a word stands for. A word without targets is a set of code points. -/
def ofWord (word : List Char) : CodeRun :=
  match splitOnce? '>' word with
  | some (codes, targets) => ofParts codes targets true
  | none =>
    let (codes, targets) := (splitOnce? '=' word).getD (word, [])
    ofParts codes targets false

end CodeRun

/-- A table of runs. -/
abbrev CodeTable := List CodeRun

namespace CodeTable

/-- The table that a text stands for. -/
def ofText (text : String) : CodeTable :=
  (words text).map fun word => CodeRun.ofWord word.toList

/-- Whether a code point is in a table. -/
def contains (t : CodeTable) (n : Nat) : Bool :=
  t.any fun r => r.contains n

/-- What a code point of a table stands for. -/
def find? (t : CodeTable) (n : Nat) : Option (List Nat) :=
  (List.find? (fun r => r.contains n) t).map fun r => r.target n

/-- The code point of a table that stands for the given ones. -/
def source? (t : CodeTable) (target : List Nat) : Option Nat :=
  t.findSome? fun r => r.source? target

end CodeTable

end SqlxDryRun.Text
