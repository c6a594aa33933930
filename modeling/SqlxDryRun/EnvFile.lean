import SqlxDryRun.Disk
import SqlxDryRun.Text.Blank

/-!
# Environment files

A file named `.env` sets variables for programs that start at or below its directory. Each line sets
one, as in `export KEY='value' # remark`; a value in quotes may go on over several lines. Outside of
single quotes `$KEY` and `${KEY}` stand for the value of another variable. A variable that is set
already keeps its value, and the first malformed line ends the file.

Main definitions:

* `logicalLines`: lines of the file, put together where a quote is open;
* `readValue?`, `readLine?`: what a line sets;
* `load`: the variables after a file was read.
-/

namespace SqlxDryRun.EnvFile

open Text

/-- The values of variables. -/
abbrev Variables := List (String × String)

/-! ## Lines -/

/-- What the text of a line is in the middle of. -/
inductive Quoting where
  | complete
  | blank
  | escape
  | weak
  | weakEscape
  | strong
  | strongEscape
deriving DecidableEq, Repr, Inhabited

namespace Quoting

/-- What begins with a character that stands outside of quotes. -/
def opened (c : Char) : Quoting :=
  if c == '\\' then escape
  else if c == '"' then weak
  else if c == '\x27' then strong
  else complete

/-- What a text is in the middle of after one more character; nothing if a remark begins with it. -/
def next? (q : Quoting) (c : Char) : Option Quoting :=
  match q with
  | blank => if c == '#' then none else some (opened c)
  | complete =>
    if isBlank c && c != '\n' && c != '\r' then some blank else some (opened c)
  | escape => some complete
  | weak => some (if c == '\\' then weakEscape else if c == '"' then complete else weak)
  | weakEscape => some weak
  | strong => some (if c == '\\' then strongEscape else if c == '\x27' then complete else strong)
  | strongEscape => some strong

/-- What a text is in the middle of at the end of a line, or the part of the line before a remark.
-/
def follow (q : Quoting) (taken : List Char) : List Char → Except (List Char) Quoting
  | [] => .ok q
  | c :: rest =>
    match q.next? c with
    | none => .error taken.reverse
    | some q' => follow q' (c :: taken) rest

end Quoting

/-- The lines of a text with their ends. -/
def physicalLines : List Char → List (List Char)
  | [] => []
  | '\n' :: rest => ['\n'] :: physicalLines rest
  | c :: rest =>
    match rest, physicalLines rest with
    | [], _ => [[c]]
    | _, line :: lines => (c :: line) :: lines
    | _, [] => [[c]]

/-- Lines put together where a quote is open, without remarks. The last one is missing if the text
ends inside of it. -/
def logicalLines (pending : List Char) (q : Quoting) : List (List Char) → List (Option (List Char))
  | [] => if q == .complete then [] else [none]
  | line :: rest =>
    if ((pending ++ line).dropWhile isBlank).head? == some '#' then
      some [] :: logicalLines [] .complete rest
    else
      match q.follow [] line with
      | .error before => some (pending ++ before) :: logicalLines [] .complete rest
      | .ok .complete => some (pending ++ line) :: logicalLines [] .complete rest
      | .ok q' => logicalLines (pending ++ line) q' rest

/-! ## Values -/

/-- What reading a value is in the middle of. The flags say whether double quotes are open. -/
inductive Mode where
  | text (quoted : Bool)
  | strong
  | escaped (quoted : Bool)
  /-- The name of a variable, read so far in reverse. -/
  | name (quoted : Bool) (letters : List Char)
  | bracedName (quoted : Bool) (letters : List Char)
  /-- Only blanks and a remark may follow. -/
  | ended
deriving DecidableEq, Repr, Inhabited

/-- The value of a variable whose name was read in reverse. -/
def valueOf (vs : Variables) (letters : List Char) : List Char :=
  ((vs.lookup (String.ofList letters.reverse)).getD "").toList

/-- The value in a text, when `done` was read. -/
def readFrom? (vs : Variables) (done : List Char) : Mode → List Char → Option (List Char)
  | .text quoted, [] => if quoted then none else some done
  | .escaped quoted, [] => if quoted then none else some done
  | .name quoted letters, [] => if quoted then none else some (done ++ valueOf vs letters)
  | .ended, [] => some done
  | .strong, [] => none
  | .bracedName _ _, [] => none
  | .ended, c :: rest =>
    if c == ' ' || c == '\t' then readFrom? vs done .ended rest
    else if c == '#' then some done
    else none
  | .escaped quoted, c :: rest =>
    if c == 'n' then readFrom? vs (done ++ ['\n']) (.text quoted) rest
    else if ['\\', '\x27', '"', '$', ' '].contains c then
      readFrom? vs (done ++ [c]) (.text quoted) rest
    else none
  | .strong, c :: rest =>
    if c == '\x27' then readFrom? vs done (.text false) rest
    else readFrom? vs (done ++ [c]) .strong rest
  | .name quoted letters, c :: rest =>
    if isIdentifierChar c && c != '_' then readFrom? vs done (.name quoted (c :: letters)) rest
    else if c == '\x7b' && letters.isEmpty then readFrom? vs done (.bracedName quoted []) rest
    else if c == '$' then readFrom? vs (done ++ valueOf vs letters) (.name quoted []) rest
    else readFrom? vs (done ++ valueOf vs letters ++ [c]) (.text quoted) rest
  | .bracedName quoted letters, c :: rest =>
    if c == '\x7d' then readFrom? vs (done ++ valueOf vs letters) (.text quoted) rest
    else readFrom? vs done (.bracedName quoted (c :: letters)) rest
  | .text quoted, c :: rest =>
    if c == '$' then readFrom? vs done (.name quoted []) rest
    else if c == '\\' then readFrom? vs done (.escaped quoted) rest
    else if c == '"' then readFrom? vs done (.text (!quoted)) rest
    else if quoted then readFrom? vs (done ++ [c]) (.text true) rest
    else if c == '\x27' then readFrom? vs done .strong rest
    else if c == ' ' || c == '\t' then readFrom? vs done .ended rest
    else readFrom? vs (done ++ [c]) (.text false) rest

/-- The value that a text stands for. -/
def readValue? (vs : Variables) (text : List Char) : Option String :=
  (readFrom? vs [] (.text false) text).map String.ofList

/-! ## Settings -/

/-- The key at the head of a text, and the text behind it and behind blanks. -/
def readKey? (text : List Char) : Option (String × List Char) :=
  let isKey (c : Char) : Bool := c.isAlphanum || c == '_' || c == '.'
  match text.takeWhile isKey with
  | first :: more =>
    if first.isAlpha || first == '_' then
      some (String.ofList (first :: more), (text.dropWhile isKey).dropWhile isBlank)
    else none
  | [] => none

/-- The key that a line sets, and the text behind the equals sign and behind blanks. -/
def readTarget? (text : List Char) : Option (String × List Char) := do
  match ← readKey? text with
  | (key, '=' :: rest) => some (key, rest.dropWhile isBlank)
  | (key, rest) =>
    if key == "export" then
      match ← readKey? rest with
      | (key, '=' :: rest) => some (key, rest.dropWhile isBlank)
      | _ => none
    else none

/-- The variables after a line, unless it is malformed. -/
def readLine? (vs : Variables) (line : List Char) : Option Variables :=
  match trimChars line with
  | [] => some vs
  | '#' :: _ => some vs
  | text => do
    let (key, rest) ← readTarget? text
    let value ← if rest.isEmpty || rest.head? == some '#' then some "" else readValue? vs rest
    some (if (vs.lookup key).isSome then vs else (key, value) :: vs)

/-- The variables after lines, up to the first malformed one. -/
def readLines (vs : Variables) : List (Option (List Char)) → Variables
  | [] => vs
  | none :: _ => vs
  | some line :: rest =>
    match readLine? vs line with
    | some vs' => readLines vs' rest
    | none => vs

/-- The variables after a text. -/
def load (vs : Variables) (text : String) : Variables :=
  let content :=
    match text.toList with
    | c :: rest => if c == '\uFEFF' then rest else c :: rest
    | [] => []
  readLines vs (logicalLines [] .complete (physicalLines content))

/-! ## Files -/

/-- The longest beginning of a text of whole lines that is well formed. -/
def wholeLines (bytes : List UInt8) : String :=
  let lines := bytes.splitBy fun a _ => a != 10
  let good := lines.map fun line => Utf8.strict? ⟨line.toArray⟩
  String.join ((good.takeWhile Option.isSome).map fun line => line.getD "")

/-- The variables after the nearest file at or above a directory was read. -/
def discover (d : Disk) (directory : Path) (vs : Variables) : Variables :=
  match directory.ancestors.findSome? fun p => (d.readBytes (p.child ".env")).toOption with
  | some bytes => load vs (wholeLines bytes.toList)
  | none => vs

end SqlxDryRun.EnvFile
