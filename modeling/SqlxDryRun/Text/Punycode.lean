import SqlxDryRun.Text.CharClass

/-!
# Punycode

A label beyond ASCII is written in ASCII: first its ASCII characters, then a hyphen, then digits
that say which other characters stand where. The digits are numbers of variable length: what a digit
weighs depends on a bias that follows the numbers written before.

Main definitions:

* `encode`: the written form of a label;
* `decode?`: the label that a text is the written form of.
-/

namespace SqlxDryRun.Text.Punycode

/-! ## Digits -/

/-- The number of digits. -/
def base : Nat := 36

/-- The first bias. -/
def startBias : Nat := 72

/-- The code point with which the characters beyond ASCII begin. -/
def startCode : Nat := 0x80

/-- The least value at which a digit at a position is not the last one of its number. -/
def threshold (bias position : Nat) : Nat :=
  max 1 (min 26 (position - bias))

/-- The written digit of a value. -/
def digit (value : Nat) : Char :=
  if value < 26 then Char.ofNat ('a'.toNat + value) else Char.ofNat ('0'.toNat + (value - 26))

/-- The value of a written digit. -/
def digitValue? (c : Char) : Option Nat :=
  if c.isLower then some (c.toNat - 'a'.toNat)
  else if c.isUpper then some (c.toNat - 'A'.toNat)
  else if c.isDigit then some (c.toNat - '0'.toNat + 26)
  else none

/-- The bias for a scaled number. -/
def biasFrom (position scaled : Nat) : Nat :=
  if _h : 455 < scaled then biasFrom (position + base) (scaled / 35)
  else position + base * scaled / (scaled + 38)
termination_by scaled
decreasing_by omega

/-- The bias after a number was written as the first one or a later one, in a text that then has
`count` characters. -/
def adapt (number count : Nat) (isFirst : Bool) : Nat :=
  let scaled := number / (if isFirst then 700 else 2)
  biasFrom 0 (scaled + scaled / count)

/-- The digits of a number from a position on. -/
def digitsFrom (bias position number : Nat) : List Char :=
  let t := threshold bias position
  if _h : t ≤ number then
    digit (t + (number - t) % (base - t)) ::
      digitsFrom bias (position + base) ((number - t) / (base - t))
  else [digit number]
termination_by number
decreasing_by
  have h1 : 1 ≤ threshold bias position := by unfold threshold; omega
  have h2 : threshold bias position ≤ 26 := by unfold threshold; omega
  have h3 : (number - threshold bias position) / (base - threshold bias position) ≤
      number - threshold bias position := Nat.div_le_self _ _
  omega

/-! ## Writing -/

/-- The state of writing: the characters written so far, the number that is owed to the next
character, the bias, and how many characters are done. -/
structure Writing where
  written : List Char
  owed : Nat
  bias : Nat
  done : Nat
deriving Inhabited

/-- Writes one round: all characters with the code point `code`, in a label all of whose characters
with lesser code points are done. -/
def writeRound (code basics : Nat) (label : List Char) (w : Writing) : Writing :=
  label.foldl (fun w c =>
    if c.toNat < code then { w with owed := w.owed + 1 }
    else if c.toNat == code then
      { written := w.written ++ digitsFrom w.bias base w.owed
        owed := 0
        bias := adapt w.owed (w.done + 1) (w.done == basics)
        done := w.done + 1 }
    else w) w

/-- Writes all rounds. The number owed at the beginning of a round counts all places that were
passed by. -/
def writeRounds (basics : Nat) (label : List Char) :
    (before : Nat) → (codes : List Nat) → Writing → Writing
  | _, [], w => w
  | before, code :: codes, w =>
    let w := { w with owed := w.owed + (code - before) * (w.done + 1) }
    let w := writeRound code basics label w
    writeRounds basics label (code + 1) codes { w with owed := w.owed + 1 }

/-- The written form of a label. -/
def encode (label : List Char) : List Char :=
  let basic := label.filter fun c => c.toNat < startCode
  let codes := ((label.filter fun c => startCode ≤ c.toNat).map Char.toNat).mergeSort.eraseDups
  let front := if basic.isEmpty then [] else basic ++ ['-']
  let w : Writing := ⟨front, 0, startBias, basic.length⟩
  (writeRounds basic.length label startCode codes w).written

/-! ## Reading -/

/-- The state of reading: the label so far, the code point and the place of the character before,
the bias, and the number in the middle of which reading is: its value so far, the weight of its next
digit and the position of that digit. -/
structure Reading where
  label : List Char
  code : Nat
  place : Nat
  bias : Nat
  value : Nat
  weight : Nat
  position : Nat
deriving Inhabited

/-- The state after the last digit of a number. The number says how far the next character is from
the one before, where places count first and code points second. -/
def Reading.insert? (r : Reading) (isFirst : Bool) : Option Reading :=
  let count := r.label.length + 1
  let reached := r.place + r.value
  let code := r.code + reached / count
  let place := reached % count
  if code.isValidChar then
    some {
      label := r.label.take place ++ Char.ofNat code :: r.label.drop place
      code := code
      place := place + 1
      bias := adapt r.value count isFirst
      value := 0
      weight := 1
      position := base }
  else none

/-- The state after one more digit, in a text with `basics` ASCII characters in front. -/
def Reading.step? (basics : Nat) (r : Reading) (c : Char) : Option Reading := do
  let d ← digitValue? c
  let t := threshold r.bias r.position
  let r := { r with value := r.value + d * r.weight }
  if d < t then r.insert? (r.label.length == basics)
  else some { r with weight := r.weight * (base - t), position := r.position + base }

/-- The ASCII characters in front, and the digits behind the last hyphen. -/
def split (text : List Char) : List Char × List Char :=
  let digits := (text.reverse.takeWhile (· != '-')).reverse
  let front := text.take (text.length - digits.length)
  (front.dropLast, digits)

/-- The label that a text is the written form of. -/
def decode? (text : List Char) : Option (List Char) := do
  let (basic, digits) := split text
  if text.head? == some '-' && basic.isEmpty || basic.any fun c => startCode ≤ c.toNat then none
  else
    let r ← digits.foldlM (fun r c => r.step? basic.length c)
      (⟨basic, startCode, 0, startBias, 0, 1, base⟩ : Reading)
    if r.position == base then some r.label else none

end SqlxDryRun.Text.Punycode
