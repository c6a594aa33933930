import SqlxDryRun.Text.CharClass
import SqlxDryRun.Text.Search

/-!
# Numeric addresses

A host may be an address. The short kind has four parts below 256; it may be written with fewer
parts, the last of which then fills the rest, and every part may be octal or hexadecimal. The long
kind has eight parts of sixteen bits between colons; two colons stand for as many zeros as are
missing, and the last two parts may be written as a short address.

Main definitions:

* `isNumeric`: whether a name must be a short address;
* `shortAddress?`, `longAddress?`: reading;
* `shortText`, `longText`: the one written form. The long one leaves out the longest run of zeros.
-/

namespace SqlxDryRun.Uri

open Text

/-! ## Short addresses -/

/-- The value of digits of a base. -/
def digitsValue? (base : Nat) (digits : List Char) : Option Nat :=
  digits.foldlM (fun n c => do
    let d ← hexValue? c
    if d < base then some (n * base + d) else none) 0

/-- The value of a part of a short address. Behind `0x` it is hexadecimal, and behind another zero
it is octal. -/
def partValue? : List Char → Option Nat
  | [] => none
  | '0' :: 'x' :: digits => digitsValue? 16 digits
  | '0' :: 'X' :: digits => digitsValue? 16 digits
  | '0' :: digits => digitsValue? 8 digits
  | digits => digitsValue? 10 digits

/-- The parts of a name, without an empty one at the end. -/
def nameParts (name : List Char) : List (List Char) :=
  match (splitAt '.' name).reverse with
  | [] :: parts => parts.reverse
  | parts => parts.reverse

/-- Whether a name must be a short address: its last part is a number. -/
def isNumeric (name : List Char) : Bool :=
  match (nameParts name).getLast? with
  | some part => !part.isEmpty && part.all Char.isDigit || (partValue? part).isSome
  | none => false

/-- The number that parts stand for: every part but the last one is a byte, and the last one fills
the rest. -/
def shortValue? (value left : Nat) : List Nat → Option Nat
  | [] => none
  | [last] => if last < 256 ^ left then some (value * 256 ^ left + last) else none
  | part :: rest =>
    if part < 256 then shortValue? (value * 256 + part) (left - 1) rest else none

/-- The short address that a name stands for. -/
def shortAddress? (name : List Char) : Option Nat := do
  let parts := nameParts name
  if 4 < parts.length then none else shortValue? 0 4 (← parts.mapM partValue?)

/-- The written form of a short address. -/
def shortText (address : Nat) : String :=
  String.intercalate "." ([24, 16, 8, 0].map fun shift => toString ((address >>> shift) % 256))

/-! ## Long addresses -/

/-- The value of a part of a short address that stands in a long one: up to three digits, without
needless zeros. -/
def byteValue? (digits : List Char) : Option Nat := do
  let n ← digitsValue? 10 digits
  let isPadded := 1 < digits.length && digits.head? == some '0'
  if digits.isEmpty || 3 < digits.length || 255 < n || isPadded then none else some n

/-- The parts that a group stands for: one, or two where a short address may stand. -/
def groupParts? (isLast : Bool) (group : List Char) : Option (List Nat) :=
  if group.contains '.' then
    match isLast, (splitAt '.' group).mapM byteValue? with
    | true, some [a, b, c, d] => some [a * 256 + b, c * 256 + d]
    | _, _ => none
  else if group.isEmpty || 4 < group.length then none
  else (digitsValue? 16 group).map fun n => [n]

/-- The parts that groups stand for. Only the last group at the end of an address may be a short
address. -/
def groupsParts? (isEnd : Bool) : List (List Char) → Option (List Nat)
  | [] => some []
  | [group] => groupParts? isEnd group
  | group :: rest => do
    let parts ← groupParts? false group
    let more ← groupsParts? isEnd rest
    some (parts ++ more)

/-- The parts that a text between two colons and an end stands for, which may be empty. -/
def sideParts? (isEnd : Bool) (text : List Char) : Option (List Nat) :=
  if text.isEmpty then some [] else groupsParts? isEnd (splitAt ':' text)

/-- The text before and after the first two colons that stand together. -/
def splitColons? : List Char → Option (List Char × List Char)
  | ':' :: ':' :: rest => some ([], rest)
  | c :: rest => (splitColons? rest).map fun (before, after) => (c :: before, after)
  | [] => none

/-- The parts of the long address that a text stands for. -/
def longAddress? (text : List Char) : Option (List Nat) :=
  match splitColons? text with
  | some (before, after) => do
    let first ← sideParts? false before
    let last ← sideParts? true after
    let known := first.length + last.length
    if known < 8 then some (first ++ List.replicate (8 - known) 0 ++ last) else none
  | none => do
    let parts ← groupsParts? true (splitAt ':' text)
    if parts.length == 8 then some parts else none

/-- The place and the length of the first longest run of zeros, where places count from `place`. -/
def longestZeros (place : Nat) : List Nat → Nat × Nat
  | [] => (place, 0)
  | part :: rest =>
    let here := ((part :: rest).takeWhile (· == 0)).length
    let later := longestZeros (place + 1) rest
    if later.2 ≤ here then (place, here) else later

/-- The hexadecimal digits of a number. -/
def hexText (n : Nat) : String :=
  String.ofList (Nat.toDigits 16 n)

/-- The written form of a long address. A lone zero is not left out. -/
def longText (parts : List Nat) : String :=
  let written (ps : List Nat) := String.intercalate ":" (ps.map hexText)
  let (place, length) := longestZeros 0 parts
  if length < 2 then written parts
  else written (parts.take place) ++ "::" ++ written (parts.drop (place + length))

end SqlxDryRun.Uri
