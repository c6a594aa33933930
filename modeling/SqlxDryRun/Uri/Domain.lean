import SqlxDryRun.Text.Composition
import SqlxDryRun.Text.Punycode
import SqlxDryRun.Uri.DomainTable

/-!
# Domain names

A domain name may be written with characters beyond ASCII and in either case. It has one ASCII form:
characters are mapped to those that they stand for, the text is composed, and every label that is
not ASCII then is written in Punycode behind `xn--`. A label that is written so already must be what
that gives.

Main definitions:

* `Label`: a label with its ASCII form;
* `domain?`: the ASCII form of a name.
-/

namespace SqlxDryRun.Uri

open Text

/-! ## Characters -/

/-- The ASCII characters that no name contains, besides controls and the blank. -/
def notInDomain : List Char :=
  ['%', '#', '/', ':', '<', '>', '?', '@', '[', '\\', ']', '^', '|']

/-- Whether an ASCII character may occur in a name. -/
def isDomainAscii (c : Char) : Bool :=
  0x20 < c.toNat && c.toNat < 0x7f && !notInDomain.contains c

/-- Whether a character may stand in a name for itself. -/
def isDomainChar (c : Char) : Bool :=
  if c.toNat < 0x80 then isDomainAscii c && !c.isUpper
  else (mappings.find? c.toNat).isNone && permitted.contains c.toNat

/-- What a character of a name stands for, if it may occur. -/
def mapDomainChar? (c : Char) : Option (List Char) :=
  if c.toNat < 0x80 then some [c.toLower]
  else
    match mappings.find? c.toNat with
    | some ns => some (ns.map Char.ofNat)
    | none => if permitted.contains c.toNat then some [c] else none

/-! ## Joiners -/

/-- The character that keeps letters apart which would join. -/
def nonJoiner : Char := '\u200C'

/-- The character that joins letters. -/
def joiner : Char := '\u200D'

/-- Whether the first character that takes room is in a table. -/
def meets (table : CodeTable) (text : List Char) : Bool :=
  match text.dropWhile fun c => !table.contains c.toNat && transparentTable.contains c.toNat with
  | c :: _ => table.contains c.toNat
  | [] => false

/-- Whether both kinds of joiners have a reason where they stand. Behind a mark that takes the vowel
off a letter both have one; between letters that join only the first kind has. The characters before
the text are given in reverse. -/
def joinersFit (before : List Char) : List Char → Bool
  | [] => true
  | c :: rest =>
    let fits :=
      if c == nonJoiner || c == joiner then
        (before.head?.any fun p => combiningClass p.toNat == 9) ||
          (c == nonJoiner && meets joinsLeftTable before && meets joinsRightTable rest)
      else true
    fits && joinersFit (c :: before) rest

/-! ## Directions -/

/-- The directions of characters, as far as names care. -/
inductive Direction where
  | left
  | right
  | arabicNumber
  | number
  | neutral
  | mark
deriving DecidableEq, Repr, Inhabited

/-- The direction of a character. -/
def direction (c : Char) : Direction :=
  if c.toNat < 0x80 then
    if c.isAlpha then .left else if c.isDigit then .number else .neutral
  else if rightToLeftTable.contains c.toNat then .right
  else if arabicNumberTable.contains c.toNat then .arabicNumber
  else if numberTable.contains c.toNat then .number
  else if neutralTable.contains c.toNat then .neutral
  else if leftToRightMarkTable.contains c.toNat then .left
  else if transparentTable.contains c.toNat then .mark
  else .left

/-- Whether a direction makes a name one that runs from right to left somewhere. -/
def Direction.turns : Direction → Bool
  | .right | .arabicNumber => true
  | _ => false

/-- Whether the directions of a label go together: one that starts from left to right holds nothing
of the other direction and ends in a letter or a digit; one that starts from right to left likewise,
and its digits are of one kind. Marks at the end do not count. -/
def directionsFit (ds : List Direction) : Bool :=
  let kept := (ds.reverse.dropWhile (· == .mark)).reverse
  match ds, kept.getLast? with
  | [], _ => true
  | .left :: _, last =>
    kept.all (fun d => d != .right && d != .arabicNumber) &&
      last.all fun d => d == .left || d == .number
  | .right :: _, last =>
    kept.all (· != .left) &&
      last.all (fun d => d == .right || d == .number || d == .arabicNumber) &&
      !(kept.contains .number && kept.contains .arabicNumber)
  | _, _ => false

/-! ## Labels -/

/-- A label: its characters, and its ASCII form. -/
structure Label where
  text : List Char
  ascii : List Char
deriving DecidableEq, Repr, Inhabited

/-- The mark of labels that are written in Punycode. -/
def punycodeMark : List Char := ['x', 'n', '-', '-']

/-- The number of characters that a label beyond ASCII may have. -/
def labelLimit : Nat := 1000

/-- Whether a label beyond ASCII is one: it does not begin with a mark, and its joiners fit. -/
def isLabel (text : List Char) : Bool :=
  !(text.head?.any fun c => markTable.contains c.toNat) && joinersFit [] text &&
    text.length ≤ labelLimit

/-- The label of mapped and composed characters. -/
def readLabel? (text : List Char) : Option Label :=
  let isAscii := text.all fun c => c.toNat < 0x80
  match afterPrefix? punycodeMark text with
  | some rest =>
    if !isAscii || rest.getLast?.all (· == '-') then none
    else do
      let decoded ← Punycode.decode? rest
      if decoded.all isDomainChar && !decoded.contains '.' && composed decoded == decoded &&
          isLabel decoded then
        some ⟨decoded, text⟩
      else none
  | none =>
    if isAscii then some ⟨text, text⟩
    else if isLabel text then some ⟨text, punycodeMark ++ Punycode.encode text⟩
    else none

/-! ## Names -/

/-- The ASCII form of a name. -/
def domain? (text : List Char) : Option (List Char) := do
  let mapped := composed (← text.mapM mapDomainChar?).flatten
  if mapped.any fun c => c.toNat < 0x80 && !isDomainAscii c then none
  else
    let labels ← (splitAt '.' mapped).mapM readLabel?
    let directions := labels.map fun l => l.text.map direction
    if directions.any (·.any Direction.turns) && !directions.all directionsFit then none
    else some (List.intercalate ['.'] (labels.map Label.ascii))

end SqlxDryRun.Uri
