import SqlxDryRun.Toml.Scalar

/-!
# Reading TOML documents

A document is a list of sections. It is read section by section, and the sections are put together
into the entries of one table.

Main definitions:

* `readKey`: a key, which may have several parts between dots;
* `readValue`: a value; arrays and inline tables nest up to a fixed depth;
* `read?`: the entries of a whole document.
-/

namespace SqlxDryRun.Toml

/-- How many parts a key may have, and how deep arrays and inline tables may nest, less one. -/
def depthLimit : Nat := 80

/-! ## Keys -/

/-- Whether a character may stand in a key without quotes. -/
def isKeyChar (c : Char) : Bool :=
  c.isAlphanum || c == '-' || c == '_'

/-- One part of a key. -/
def readKeyPart (text : List Char) : Option (String × List Char) :=
  match text with
  | '"' :: rest => readLineString '"' true (text.length + 1) [] rest
  | '\'' :: rest => readLineString '\'' false (text.length + 1) [] rest
  | _ =>
    match text.takeWhile isKeyChar with
    | [] => none
    | part => some (String.ofList part, text.dropWhile isKeyChar)

/-- The parts of a key, with gaps around each. -/
def readParts : (fuel : Nat) → List Char → Option (List String × List Char)
  | 0, _ => none
  | fuel + 1, text => do
    let (part, text) ← readKeyPart (skipGap text)
    match skipGap text with
    | '.' :: rest => do
      let (parts, rest) ← readParts fuel rest
      some (part :: parts, rest)
    | rest => some ([part], rest)

/-- A key. -/
def readKey (text : List Char) : Option (List String × List Char) :=
  readParts (depthLimit - 1) text

/-! ## Values -/

/-- The text behind a comment, up to the end of its line. A comment holds no control character but
the tab. -/
def skipComment : List Char → List Char
  | [] => []
  | c :: rest => if isStringChar c then skipComment rest else c :: rest

/-- The text behind gaps, line ends and comments. -/
def skipBetween : (fuel : Nat) → List Char → List Char
  | 0, text => text
  | fuel + 1, text =>
    match skipLines text with
    | '#' :: rest =>
      match lineEnd? (skipComment rest) with
      | some rest => skipBetween fuel rest
      | none => skipComment rest
    | rest => rest

mutual

/-- A value. The depth counts how deep arrays and inline tables may still nest. -/
def readValue (fuel depth : Nat) (text : List Char) : Option (Value × List Char) :=
  match fuel with
  | 0 => none
  | fuel + 1 =>
    match text with
    | [] => none
    | '[' :: rest =>
      match depth with
      | 0 => none
      | depth + 1 => do
        let (items, rest) ← readItems fuel depth (skipBetween rest.length rest)
        some (.array items, rest)
    | '\x7b' :: rest =>
      match depth with
      | 0 => none
      | depth + 1 => do
        let (pairs, rest) ←
          match skipGap rest with
          | '\x7d' :: rest => some ([], rest)
          | rest => readPairs fuel depth rest
        some (.table .inline (← Entries.assignAll? [] pairs), rest)
    | '"' :: _ => (readString text).map fun (s, rest) => (.string s, rest)
    | '\'' :: _ => (readString text).map fun (s, rest) => (.string s, rest)
    | 't' :: 'r' :: 'u' :: 'e' :: rest => some (.boolean true, rest)
    | 'f' :: 'a' :: 'l' :: 's' :: 'e' :: rest => some (.boolean false, rest)
    | 'i' :: 'n' :: 'f' :: rest => some (.float, rest)
    | 'n' :: 'a' :: 'n' :: rest => some (.float, rest)
    | _ => (readMoment text).or (readNumber text)

/-- The items of an array and its closing bracket. -/
def readItems (fuel depth : Nat) (text : List Char) : Option (List Value × List Char) :=
  match fuel, text with
  | 0, _ => none
  | _, ']' :: rest => some ([], rest)
  | fuel + 1, text => do
    let (item, rest) ← readValue fuel depth text
    match skipBetween rest.length rest with
    | ',' :: rest => do
      let (items, rest) ← readItems fuel depth (skipBetween rest.length rest)
      some (item :: items, rest)
    | ']' :: rest => some ([item], rest)
    | _ => none

/-- The assignments of an inline table, at least one, and its closing brace. -/
def readPairs (fuel depth : Nat) (text : List Char) : Option (List Assignment × List Char) :=
  match fuel with
  | 0 => none
  | fuel + 1 => do
    let (key, rest) ← readKey text
    let (value, rest) ← readValue fuel depth (skipGap (← readMark '=' rest))
    let assignment : Assignment := ⟨key.dropLast, key.getLastD "", value⟩
    match skipGap rest with
    | ',' :: rest => do
      let (pairs, rest) ← readPairs fuel depth rest
      some (assignment :: pairs, rest)
    | '\x7d' :: rest => some ([assignment], rest)
    | _ => none

end

/-! ## Documents -/

/-- The text behind the end of a line, which may hold a comment, or behind the end of the text. -/
def endOfLine? (text : List Char) : Option (List Char) :=
  let text :=
    match skipGap text with
    | '#' :: rest => skipComment rest
    | rest => rest
  match text with
  | [] => some []
  | _ => lineEnd? text

/-- One line of a document. -/
inductive Line where
  | blank
  | heading (h : Heading)
  | assignment (a : Assignment)

/-- The line at the head of a text, which has a value that may go on over several lines. -/
def readLine (text : List Char) : Option (Line × List Char) :=
  match skipGap text with
  | '[' :: '[' :: rest => do
    let (path, rest) ← readKey rest
    let rest ← readMark ']' (← readMark ']' rest)
    some (.heading (.tables path), ← endOfLine? rest)
  | '[' :: rest => do
    let (path, rest) ← readKey rest
    some (.heading (.table path), ← endOfLine? (← readMark ']' rest))
  | text =>
    match endOfLine? text with
    | some rest => some (.blank, rest)
    | none => do
      let (key, rest) ← readKey text
      let rest := skipGap (← readMark '=' rest)
      let (value, rest) ← readValue (2 * rest.length + 2) (depthLimit - 1) rest
      some (.assignment ⟨key.dropLast, key.getLastD "", value⟩, ← endOfLine? rest)

/-- The sections of a text; `current` is the heading above the text, with the assignments under it
so far, last one first. -/
def readSections : (fuel : Nat) → (current : Section) → List Char → Option (List Section)
  | _, current, [] => some [⟨current.heading, current.assignments.reverse⟩]
  | 0, _, _ :: _ => none
  | fuel + 1, current, text => do
    let (line, rest) ← readLine text
    match line with
    | .blank => readSections fuel current rest
    | .assignment a => readSections fuel ⟨current.heading, a :: current.assignments⟩ rest
    | .heading h => do
      let sections ← readSections fuel ⟨h, []⟩ rest
      some (⟨current.heading, current.assignments.reverse⟩ :: sections)

/-- The entries of a document. A byte order mark may stand at its beginning. -/
def read? (text : String) : Option Entries := do
  let cs :=
    match text.toList with
    | '\uFEFF' :: rest => rest
    | cs => cs
  (← readSections (cs.length + 1) ⟨.none, []⟩ cs).foldlM Entries.addSection? []

end SqlxDryRun.Toml
