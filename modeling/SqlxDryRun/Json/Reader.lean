import SqlxDryRun.Json.Value
import SqlxDryRun.Text.CharClass

/-!
# Reading JSON

Every text has a value; see `SqlxDryRun.Json.Value` for what becomes of a text that is not JSON. The
reader goes through the text once, from left to right.

Main definitions:

* `readString`, `readNumber`: the two kinds of tokens with an inner structure;
* `readValue`, `readItems`, `readFields`: a value and what is left of the text behind it, which is
  nothing if the text breaks inside the value;
* `read`: the value of a whole text.
-/

namespace SqlxDryRun.Json

open SqlxDryRun.Text

/-- Whether a character may stand between tokens. -/
def isGap (c : Char) : Bool :=
  c == ' ' || c == '\t' || c == '\n' || c == '\r'

/-- The text behind the gap at its head. -/
def skipGap (text : List Char) : List Char :=
  text.dropWhile isGap

/-- The cause of a break at this place when something else should stand here. -/
def causeAt : List Char → Cause
  | [] => .ended
  | _ => .malformed

/-! ## Strings -/

/-- What becomes of the text behind an opening quote: the string and what is left behind its closing
quote, or a break. -/
inductive StringRead where
  | closed (s : Option String) (rest : List Char)
  | broken (b : Break)

/-- The character of an escape of two characters. -/
def simpleEscape? : Char → Option Char
  | '"' => some '"'
  | '\\' => some '\\'
  | '/' => some '/'
  | 'b' => some '\x08'
  | 'f' => some '\x0c'
  | 'n' => some '\n'
  | 'r' => some '\r'
  | 't' => some '\t'
  | _ => none

/-- The value of four hexadecimal digits. -/
def hex4? (a b c d : Char) : Option Nat := do
  some ((((← hexValue? a) * 16 + (← hexValue? b)) * 16 + (← hexValue? c)) * 16 + (← hexValue? d))

/-- Whether a 16-bit unit is the first half of a surrogate pair. -/
def isLeadUnit (n : Nat) : Bool := 0xd800 ≤ n && n ≤ 0xdbff

/-- Whether a 16-bit unit is the second half of a surrogate pair. -/
def isTrailUnit (n : Nat) : Bool := 0xdc00 ≤ n && n ≤ 0xdfff

/-- The code point of a surrogate pair. -/
def pairValue (lead trail : Nat) : Nat :=
  0x10000 + (lead - 0xd800) * 0x400 + (trail - 0xdc00)

/-- What has been read of a string: its characters, last one first, whether it is free of halves of
surrogate pairs so far, and the first half of a pair whose second half must come next. -/
structure Partial where
  chars : List Char
  whole : Bool
  lead : Option Nat

namespace Partial

/-- Nothing read yet. -/
def start : Partial := ⟨[], true, none⟩

/-- One more character. A first half that waits for its second half stays alone. -/
def push (p : Partial) (c : Char) : Partial :=
  ⟨c :: p.chars, p.whole && p.lead.isNone, none⟩

/-- One more 16-bit unit. -/
def pushUnit (p : Partial) (n : Nat) : Partial :=
  match p.lead with
  | some lead =>
    if isTrailUnit n then ⟨Char.ofNat (pairValue lead n) :: p.chars, p.whole, none⟩
    else ⟨p.chars, false, none⟩
  | none =>
    if isLeadUnit n then ⟨p.chars, p.whole, some n⟩
    else if isTrailUnit n then ⟨p.chars, false, none⟩
    else ⟨Char.ofNat n :: p.chars, p.whole, none⟩

/-- The string, if no half of a surrogate pair stands alone. -/
def finish (p : Partial) : Option String :=
  if p.whole && p.lead.isNone then some (String.ofList p.chars.reverse) else none

/-- A break inside the string: whoever uses the string stops at an earlier lone half. -/
def breakWith (p : Partial) (c : Cause) : StringRead :=
  .broken ⟨if p.whole then c else .malformed, c⟩

/-- A first half that is followed by something other than an escape stays alone. -/
def settle (p : Partial) : Partial :=
  ⟨p.chars, p.whole && p.lead.isNone, none⟩

end Partial

/-- The number of bytes of a text, counted up to four. -/
def bytesUpToFour (text : List Char) : Nat :=
  (text.take 4).foldl (fun n c => n + c.utf8Size) 0

/-- The rest of a string of which a part has been read. -/
def readString (p : Partial) : List Char → StringRead
  | [] => p.breakWith .ended
  | '"' :: rest => .closed p.finish rest
  | ['\\'] => p.breakWith .ended
  | '\\' :: 'u' :: a :: b :: c :: d :: rest =>
    match hex4? a b c d with
    | some n => readString (p.pushUnit n) rest
    | none => p.breakWith .malformed
  | '\\' :: 'u' :: rest => p.breakWith (if bytesUpToFour rest < 4 then .ended else .malformed)
  | '\\' :: c :: rest =>
    match simpleEscape? c with
    | some e => readString (p.settle.push e) rest
    | none => p.settle.breakWith .malformed
  | c :: rest =>
    if c.toNat < 0x20 then p.settle.breakWith .malformed else readString (p.push c) rest

/-! ## Numbers -/

/-- The value of ASCII digits. -/
def digitsValue (digits : List Char) : Nat :=
  digits.foldl (fun n c => n * 10 + (c.toNat - '0'.toNat)) 0

/-- The break of a number whose digits are missing at this place. -/
def digitsMissing (text : List Char) : Value :=
  .broken ⟨causeAt text, .malformed⟩

/-- The exponent of a number, behind the digits before and behind its point. -/
def readExponent (negative : Bool) (digits places : List Char) (isPlain : Bool)
    (text : List Char) : Value × Option (List Char) :=
  match text with
  | c :: rest =>
    if c == 'e' || c == 'E' then
      let (down, rest) :=
        match rest with
        | '+' :: more => (false, more)
        | '-' :: more => (true, more)
        | _ => (false, rest)
      match rest.takeWhile Char.isDigit with
      | [] => (digitsMissing rest, none)
      | exponent =>
        let e : Int := digitsValue exponent
        (.number (.ofDigits negative digits places (if down then -e else e) false),
          some (rest.dropWhile Char.isDigit))
    else (.number (.ofDigits negative digits places 0 isPlain), some text)
  | [] => (.number (.ofDigits negative digits places 0 isPlain), some text)

/-- A number, behind its sign. -/
def readNumber (negative : Bool) (text : List Char) : Value × Option (List Char) :=
  match text.takeWhile Char.isDigit, text.dropWhile Char.isDigit with
  | [], rest => (digitsMissing rest, none)
  | '0' :: _ :: _, _ => (.broken (.both .malformed), none)
  | digits, '.' :: rest =>
    match rest.takeWhile Char.isDigit with
    | [] => (digitsMissing rest, none)
    | places => readExponent negative digits places false (rest.dropWhile Char.isDigit)
  | digits, rest => readExponent negative digits [] true rest

/-! ## Values -/

/-- A word such as `null`, of which the first letter has been read. -/
def readWord (v : Value) : (word text : List Char) → Value × Option (List Char)
  | [], rest => (v, some rest)
  | _ :: _, [] => (.broken (.both .ended), none)
  | w :: word, c :: rest =>
    if w == c then readWord v word rest else (.broken (.both .malformed), none)

mutual

/-- A value, behind any gap. The fuel bounds the length of the text. -/
def readValue (fuel : Nat) (text : List Char) : Value × Option (List Char) :=
  match fuel, skipGap text with
  | 0, _ => (.broken (.both .malformed), none)
  | _, [] => (.broken (.both .ended), none)
  | fuel + 1, c :: rest =>
    match c with
    | 'n' => readWord .null ['u', 'l', 'l'] rest
    | 't' => readWord (.bool true) ['r', 'u', 'e'] rest
    | 'f' => readWord (.bool false) ['a', 'l', 's', 'e'] rest
    | '-' => readNumber true rest
    | '"' =>
      match readString .start rest with
      | .closed (some s) rest => (.string s, some rest)
      | .closed none rest => (.unpaired, some rest)
      | .broken b => (.broken b, none)
    | '[' =>
      match skipGap rest with
      | ']' :: rest => (.array .closed, some rest)
      | [] => (.array (.broken (.both .ended)), none)
      | rest =>
        let (items, rest) := readItems fuel rest
        (.array items, rest)
    | '{' =>
      match skipGap rest with
      | '}' :: rest => (.object .closed, some rest)
      | rest =>
        let (fields, rest) := readFields fuel rest
        (.object fields, rest)
    | c => if c.isDigit then readNumber false (c :: rest) else (.broken (.both .malformed), none)

/-- The items of an array from an item on. -/
def readItems (fuel : Nat) (text : List Char) : Items × Option (List Char) :=
  match fuel with
  | 0 => (.broken (.both .malformed), none)
  | fuel + 1 =>
    match readValue fuel text with
    | (item, none) => (.more item .closed, none)
    | (item, some rest) =>
      match skipGap rest with
      | ']' :: rest => (.more item .closed, some rest)
      | ',' :: rest =>
        match skipGap rest with
        | ']' :: _ => (.more item (.more (.broken (.both .malformed)) .closed), none)
        | rest =>
          let (items, rest) := readItems fuel rest
          (.more item items, rest)
      | rest => (.more item (.broken (.both (causeAt rest))), none)

/-- The fields of an object from a key on. -/
def readFields (fuel : Nat) (text : List Char) : Fields × Option (List Char) :=
  match fuel with
  | 0 => (.broken (.both .malformed), none)
  | fuel + 1 =>
    match skipGap text with
    | '"' :: rest =>
      match readString .start rest with
      | .broken b => (.broken b, none)
      | .closed key rest =>
        match skipGap rest with
        | ':' :: rest =>
          match readValue fuel rest with
          | (value, none) => (.more key value .closed, none)
          | (value, some rest) =>
            match skipGap rest with
            | '}' :: rest => (.more key value .closed, some rest)
            | ',' :: rest =>
              let (fields, rest) := readFields fuel rest
              (.more key value fields, rest)
            | rest => (.more key value (.broken (.both (causeAt rest))), none)
        | rest => (.more key (.broken (.both (causeAt rest))) .closed, none)
    | rest => (.broken (.both (causeAt rest)), none)

end

/-- What a whole text holds: its value, and whether only a gap follows it. -/
structure Content where
  value : Value
  isAll : Bool

/-- The value of a text. -/
def read (text : String) : Content :=
  let cs := text.toList
  match readValue (2 * cs.length + 2) cs with
  | (v, some rest) => ⟨v, (skipGap rest).isEmpty⟩
  | (v, none) => ⟨v, false⟩

end SqlxDryRun.Json
