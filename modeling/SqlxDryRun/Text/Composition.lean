import SqlxDryRun.Text.CompositionTable

/-!
# Composed characters

A character with marks may be one code point or several. Two texts that differ in this only are the
same text; the composed form of a text uses as few code points as Unicode's canonical composition
allows, with marks in their canonical order.

Main definitions:

* `decompose`: every character with its marks as single code points, in canonical order;
* `composed`: the composed form.
-/

namespace SqlxDryRun.Text

/-- A list of code points. -/
abbrev Codes := List Nat

/-! ## Syllables -/

/-- The parts of a Hangul syllable: there are 19 leads, 21 vowels and 28 ends, of which the first
stands for none. -/
def decomposeSyllable? (n : Nat) : Option Codes :=
  if 0xac00 ≤ n ∧ n ≤ 0xd7a3 then
    let i := n - 0xac00
    let parts := [0x1100 + i / 588, 0x1161 + i % 588 / 28]
    some (if i % 28 == 0 then parts else parts ++ [0x11a7 + i % 28])
  else none

/-- The Hangul syllable of a lead and a vowel, or of a syllable without an end and an end. -/
def composeSyllable? (a b : Nat) : Option Nat :=
  if 0x1100 ≤ a ∧ a < 0x1113 ∧ 0x1161 ≤ b ∧ b < 0x1176 then
    some (0xac00 + (a - 0x1100) * 588 + (b - 0x1161) * 28)
  else if 0xac00 ≤ a ∧ a ≤ 0xd7a3 ∧ (a - 0xac00) % 28 = 0 ∧ 0x11a7 < b ∧ b < 0x11c3 then
    some (a + (b - 0x11a7))
  else none

/-! ## Decomposition -/

/-- The code points of a single one with all marks apart. -/
def decomposeOne (n : Nat) : Codes :=
  ((decomposeSyllable? n).or (compositions.find? n)).or (replacements.find? n) |>.getD [n]

/-- The combining class of a code point. Marks of different classes stand in the order of the
classes; what is no mark has class zero. -/
def combiningClass (n : Nat) : Nat :=
  match combiningClasses.find? n with
  | some [c] => c
  | _ => 0

/-- A code point put in front of others that are in canonical order. -/
def insertOrdered (n : Nat) : Codes → Codes
  | [] => [n]
  | m :: rest =>
    if 0 < combiningClass m ∧ combiningClass m < combiningClass n then m :: insertOrdered n rest
    else n :: m :: rest

/-- The code points with all marks apart and in canonical order. -/
def decompose (ns : Codes) : Codes :=
  (ns.flatMap decomposeOne).foldr insertOrdered []

/-! ## Composition -/

/-- The code point that two of them make together. -/
def composeTwo? (a b : Nat) : Option Nat :=
  (composeSyllable? a b).or (compositions.source? (decomposeOne a ++ [b]))

/-- The text behind a character to which marks may still be added: the character, and the marks
behind it that were not added. -/
structure Composing where
  starter : Nat
  marks : Codes
deriving DecidableEq, Repr, Inhabited

/-- Composes code points in canonical order behind a character. A mark is blocked if a mark before
it that was not added has the same class. -/
def composeBehind (c : Composing) : Codes → Codes
  | [] => c.starter :: c.marks
  | n :: rest =>
    let isFree :=
      match c.marks.getLast? with
      | none => true
      | some m => combiningClass m < combiningClass n
    match if isFree then composeTwo? c.starter n else none with
    | some whole => composeBehind { c with starter := whole } rest
    | none =>
      if combiningClass n == 0 then c.starter :: c.marks ++ composeBehind ⟨n, []⟩ rest
      else composeBehind { c with marks := c.marks ++ [n] } rest

/-- Composes code points in canonical order. Marks at the beginning stay. -/
def compose : Codes → Codes
  | [] => []
  | n :: rest =>
    if combiningClass n == 0 then composeBehind ⟨n, []⟩ rest else n :: compose rest

/-- The composed form of a text. -/
def composed (text : List Char) : List Char :=
  (compose (decompose (text.map Char.toNat))).map Char.ofNat

end SqlxDryRun.Text
