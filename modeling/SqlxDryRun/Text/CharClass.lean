import SqlxDryRun.Text.CharRange

/-!
# Classes of characters

The classes on which the rules of the library rest:

* `isBlank`: white space, as trimming and word splitting see it;
* `isDecimalDigit`: the digits a location in an error message may be written with;
* `isWordChar`: the characters of a suggested name;
* `isIdentifierChar`: the characters of a name in a document;
* `isTokenChar`: the ASCII characters that extend a keyword of the configuration block.

Every class has a short ASCII rule; the rest of it comes from the tables of
`SqlxDryRun.Text.CharRange`. What error messages are searched for follows version 16 of Unicode, and
names in documents follow version 17.
-/

namespace SqlxDryRun.Text

/-- White space: the Unicode property White_Space. -/
def isBlank (c : Char) : Bool :=
  let n := c.toNat
  (9 ≤ n && n ≤ 13) || n == 0x20 || n == 0x85 || n == 0xa0 || n == 0x1680 ||
    (0x2000 ≤ n && n ≤ 0x200a) || n == 0x2028 || n == 0x2029 || n == 0x202f || n == 0x205f ||
    n == 0x3000

/-- An ASCII letter, an ASCII digit or the underscore. -/
def isTokenChar (c : Char) : Bool :=
  c.isAlphanum || c == '_'

/-- A decimal digit of any script in version 16 of Unicode. -/
def isDecimalDigit (c : Char) : Bool :=
  if c.toNat < 0x80 then c.isDigit
  else inRanges decimalRanges c.toNat && !inRanges recentRanges c.toNat

/-- A letter, a number of any kind, or the underscore. -/
def isIdentifierChar (c : Char) : Bool :=
  if c.toNat < 0x80 then isTokenChar c
  else inRanges alphabeticRanges c.toNat || inRanges numberRanges c.toNat

/-- A letter, a mark, a decimal digit, connector punctuation, or one of the two join controls, in
version 16 of Unicode. -/
def isWordChar (c : Char) : Bool :=
  if c.toNat < 0x80 then isTokenChar c
  else (inRanges alphabeticRanges c.toNat || inRanges markRanges c.toNat ||
    inRanges decimalRanges c.toNat || inRanges connectorRanges c.toNat ||
    c.toNat == 0x200c || c.toNat == 0x200d) && !inRanges recentRanges c.toNat

/-- The value of an ASCII digit, and nothing for any other character. -/
def digitValue? (c : Char) : Option Nat :=
  if c.isDigit then some (c.toNat - '0'.toNat) else none

/-- The value of a hexadecimal digit in either case, and nothing for any other character. -/
def hexValue? (c : Char) : Option Nat :=
  if c.isDigit then some (c.toNat - '0'.toNat)
  else if 'a' ≤ c ∧ c ≤ 'f' then some (c.toNat - 'a'.toNat + 10)
  else if 'A' ≤ c ∧ c ≤ 'F' then some (c.toNat - 'A'.toNat + 10)
  else none

end SqlxDryRun.Text
