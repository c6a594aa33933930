import SqlxDryRun.Text.CharClass
import SqlxDryRun.Binary64
import SqlxDryRun.Toml.Value

/-!
# Strings, numbers and moments in TOML

Each reader takes the text from some place on. It gives what it has read and the rest of the text,
or nothing if the text is wrong there.
-/

namespace SqlxDryRun.Toml

open SqlxDryRun.Text

/-- The text behind blanks and tabs. -/
def skipGap (text : List Char) : List Char :=
  text.dropWhile fun c => c == ' ' || c == '\t'

/-- The text behind a line end, if one stands here. -/
def lineEnd? : List Char → Option (List Char)
  | '\n' :: rest => some rest
  | '\r' :: '\n' :: rest => some rest
  | _ => none

/-! ## Strings -/

/-- Whether a character may stand in a string as it is: a tab or anything but a control character.
-/
def isStringChar (c : Char) : Bool :=
  c == '\t' || (0x20 ≤ c.toNat && c.toNat != 0x7f)

/-- The value of hexadecimal digits. -/
def hexNumber? (digits : List Char) : Option Nat :=
  digits.foldlM (fun n c => (hexValue? c).map (n * 16 + ·)) 0

/-- The character with a code point, if it is one. -/
def scalar? (n : Nat) : Option Char :=
  if n < 0xd800 || (0xdfff < n && n < 0x110000) then some (Char.ofNat n) else none

/-- The character of an escape, behind its backslash. -/
def readEscape : List Char → Option (Char × List Char)
  | 'b' :: rest => some ('\x08', rest)
  | 't' :: rest => some ('\t', rest)
  | 'n' :: rest => some ('\n', rest)
  | 'f' :: rest => some ('\x0c', rest)
  | 'r' :: rest => some ('\r', rest)
  | '"' :: rest => some ('"', rest)
  | '\\' :: rest => some ('\\', rest)
  | 'u' :: rest => do
    let digits := rest.take 4
    if digits.length < 4 then none
    else some (← scalar? (← hexNumber? digits), rest.drop 4)
  | 'U' :: rest => do
    let digits := rest.take 8
    if digits.length < 8 then none
    else some (← scalar? (← hexNumber? digits), rest.drop 8)
  | _ => none

/-- The text behind blanks, tabs and line ends. -/
def skipLines : List Char → List Char
  | ' ' :: rest => skipLines rest
  | '\t' :: rest => skipLines rest
  | '\n' :: rest => skipLines rest
  | '\r' :: '\n' :: rest => skipLines rest
  | text => text

/-- The rest of a string on one line, behind its opening quote. With `escapes` a backslash begins an
escape. The fuel bounds the length of the text. -/
def readLineString (quote : Char) (escapes : Bool) :
    (fuel : Nat) → (read : List Char) → List Char → Option (String × List Char)
  | 0, _, _ => none
  | _, _, [] => none
  | fuel + 1, read, c :: rest =>
    if c == quote then some (String.ofList read.reverse, rest)
    else if escapes && c == '\\' then
      match readEscape rest with
      | some (e, rest) => readLineString quote escapes fuel (e :: read) rest
      | none => none
    else if isStringChar c then readLineString quote escapes fuel (c :: read) rest
    else none

/-- The rest of a string on many lines, behind its opening quotes. Three quotes end it, and up to
two more quotes before them belong to it; a backslash at the end of a line hides the line end and
all gaps behind it. -/
def readLongString (quote : Char) (escapes : Bool) :
    (fuel : Nat) → (read : List Char) → List Char → Option (String × List Char)
  | 0, _, _ => none
  | _, _, [] => none
  | fuel + 1, read, c :: rest =>
    if c == quote then
      let more := (rest.takeWhile (· == quote)).length
      if more < 2 then readLongString quote escapes fuel (c :: read) rest
      else if more ≤ 4 then
        some (String.ofList (List.replicate (more - 2) quote ++ read).reverse, rest.drop more)
      else none
    else if escapes && c == '\\' then
      match lineEnd? (skipGap rest) with
      | some rest => readLongString quote escapes fuel read (skipLines rest)
      | none =>
        match readEscape rest with
        | some (e, rest) => readLongString quote escapes fuel (e :: read) rest
        | none => none
    else
      match lineEnd? (c :: rest) with
      | some rest => readLongString quote escapes fuel ('\n' :: read) rest
      | none =>
        if isStringChar c then readLongString quote escapes fuel (c :: read) rest else none

/-- A string of any of the four kinds. -/
def readString (text : List Char) : Option (String × List Char) :=
  let long (quote : Char) (rest : List Char) : Option (String × List Char) :=
    readLongString quote (quote == '"') (text.length + 1) [] ((lineEnd? rest).getD rest)
  match text with
  | '"' :: '"' :: '"' :: rest => long '"' rest
  | '\'' :: '\'' :: '\'' :: rest => long '\'' rest
  | '"' :: rest => readLineString '"' true (text.length + 1) [] rest
  | '\'' :: rest => readLineString '\'' false (text.length + 1) [] rest
  | _ => none

/-! ## Numbers -/

/-- The digits behind a digit. A single underscore may stand between two digits. -/
def moreDigits (isDigit : Char → Bool) : List Char → Option (List Char × List Char)
  | [] => some ([], [])
  | ['_'] => none
  | '_' :: d :: rest =>
    if isDigit d then (moreDigits isDigit rest).map fun (digits, rest) => (d :: digits, rest)
    else none
  | c :: rest =>
    if isDigit c then (moreDigits isDigit rest).map fun (digits, rest) => (c :: digits, rest)
    else some ([], c :: rest)

/-- Digits, at least one. -/
def readDigits (isDigit : Char → Bool) : List Char → Option (List Char × List Char)
  | [] => none
  | c :: rest =>
    if isDigit c then (moreDigits isDigit rest).map fun (digits, rest) => (c :: digits, rest)
    else none

/-- The value of digits in a base. -/
def digitsValue (base : Nat) (digits : List Char) : Nat :=
  digits.foldl (fun n c => n * base + (hexValue? c).getD 0) 0

/-- A 64-bit integer. -/
def checkInteger (n : Int) : Option Value :=
  if -9223372036854775808 ≤ n ∧ n < 9223372036854775808 then some (.integer n) else none

/-- The fraction and the exponent of a number: its digits in all, the power of ten that they count,
and whether there is either of the two. -/
def readTail (digits : List Char) (text : List Char) :
    Option ((List Char × Int × Bool) × List Char) := do
  let (digits, places, isFloat, text) ←
    match text with
    | '.' :: rest => do
      let (fraction, rest) ← readDigits Char.isDigit rest
      some (digits ++ fraction, fraction.length, true, rest)
    | _ => some (digits, 0, false, text)
  match text with
  | c :: rest =>
    if c == 'e' || c == 'E' then do
      let (down, rest) :=
        match rest with
        | '+' :: more => (false, more)
        | '-' :: more => (true, more)
        | _ => (false, rest)
      let (exponent, rest) ← readDigits Char.isDigit rest
      let e : Int := digitsValue 10 exponent
      some ((digits, (if down then -e else e) - places, true), rest)
    else some ((digits, -places, isFloat), text)
  | [] => some ((digits, -places, isFloat), text)

/-- A decimal integer or a floating point number, behind its sign. A positive number must have a
magnitude in double precision. -/
def readDecimal (negative : Bool) (text : List Char) : Option (Value × List Char) := do
  let (digits, rest) ←
    match text with
    | '0' :: rest => some (['0'], rest)
    | _ => readDigits Char.isDigit text
  let ((digits, exponent, isFloat), rest) ← readTail digits rest
  let n := digitsValue 10 digits
  if isFloat then
    if !negative && Binary64.decimalOverflows n exponent then none
    else some (.float, rest)
  else some (← checkInteger (if negative then -n else n), rest)

/-- An integer in another base, behind its mark. -/
def readBased (base : Nat) (text : List Char) : Option (Value × List Char) := do
  let isDigit (c : Char) : Bool :=
    match hexValue? c with
    | some d => d < base
    | none => false
  let (digits, rest) ← readDigits isDigit text
  some (← checkInteger (digitsValue base digits), rest)

/-- A number of any kind. -/
def readNumber : List Char → Option (Value × List Char)
  | '0' :: 'x' :: rest => readBased 16 rest
  | '0' :: 'o' :: rest => readBased 8 rest
  | '0' :: 'b' :: rest => readBased 2 rest
  | '+' :: 'i' :: 'n' :: 'f' :: rest => some (.float, rest)
  | '-' :: 'i' :: 'n' :: 'f' :: rest => some (.float, rest)
  | '+' :: 'n' :: 'a' :: 'n' :: rest => some (.float, rest)
  | '-' :: 'n' :: 'a' :: 'n' :: rest => some (.float, rest)
  | '+' :: rest => readDecimal false rest
  | '-' :: rest => readDecimal true rest
  | text => readDecimal false text

/-! ## Dates and times -/

/-- A number of exactly `count` digits. -/
def readFixed (count : Nat) (text : List Char) : Option (Nat × List Char) :=
  let digits := text.take count
  if digits.length == count && digits.all Char.isDigit then
    some (digitsValue 10 digits, text.drop count)
  else none

/-- The text behind a mark, if it stands here. -/
def readMark (mark : Char) : List Char → Option (List Char)
  | c :: rest => if c == mark then some rest else none
  | [] => none

/-- The number of days of a month. -/
def daysOf (year month : Nat) : Nat :=
  if month == 2 then
    if year % 4 == 0 && (year % 100 != 0 || year % 400 == 0) then 29 else 28
  else if month == 4 || month == 6 || month == 9 || month == 11 then 30
  else 31

/-- A date; gives the rest of the text. -/
def readDate (text : List Char) : Option (List Char) := do
  let (year, text) ← readFixed 4 text
  let (month, text) ← readFixed 2 (← readMark '-' text)
  let (day, text) ← readFixed 2 (← readMark '-' text)
  if 1 ≤ month && month ≤ 12 && 1 ≤ day && day ≤ daysOf year month then some text else none

/-- A time of day; gives the rest of the text. -/
def readTime (text : List Char) : Option (List Char) := do
  let (hour, text) ← readFixed 2 text
  let (minute, text) ← readFixed 2 (← readMark ':' text)
  let (second, text) ← readFixed 2 (← readMark ':' text)
  if hour ≤ 23 && minute ≤ 59 && second ≤ 60 then
    match text with
    | '.' :: rest =>
      match rest.takeWhile Char.isDigit with
      | [] => some text
      | _ => some (rest.dropWhile Char.isDigit)
    | _ => some text
  else none

/-- An offset from universal time; gives the rest of the text, which is the whole text if there is
no offset here. -/
def readOffset (text : List Char) : Option (List Char) :=
  match text with
  | 'Z' :: rest => some rest
  | 'z' :: rest => some rest
  | c :: rest =>
    if c == '+' || c == '-' then do
      let (hour, rest) ← readFixed 2 rest
      let (minute, rest) ← readFixed 2 (← readMark ':' rest)
      if hour ≤ 23 && minute ≤ 59 then some rest else none
    else some text
  | [] => some []

/-- A date, a time, or both. -/
def readMoment (text : List Char) : Option (Value × List Char) :=
  match readDate text with
  | some rest =>
    match rest with
    | c :: more =>
      if c == 'T' || c == 't' || c == ' ' then
        match readTime more with
        | some rest => (readOffset rest).map fun rest => (.moment, rest)
        | none => some (.moment, rest)
      else some (.moment, rest)
    | [] => some (.moment, [])
  | none => (readTime text).map fun rest => (.moment, rest)

end SqlxDryRun.Toml
