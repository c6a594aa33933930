import SqlxDryRun.Text.Natural
import SqlxDryRun.Uri.Basic

/-!
# Reading URIs

A URI is read leniently, the way browsers do it: blanks around it do not count, dot segments are
followed, numbers in hosts become addresses, and what cannot stand for itself is encoded. In the
scheme `file` the host may be empty, and a letter with a colon or a vertical bar names a drive.

Main definitions:

* `splitScheme?`, `readAuthority?`, `resolve`: reading the parts;
* `ofString?`: reading a whole text.
-/

namespace SqlxDryRun.Uri

open Text

/-! ## Parts of a text -/

/-- Whether a character separates segments. -/
def isSlash (special : Bool) (c : Char) : Bool :=
  c == '/' || (special && c == '\\')

/-- Whether a character may occur in the name of a scheme. -/
def isSchemeChar (c : Char) : Bool :=
  c.isAlphanum || c == '+' || c == '-' || c == '.'

/-- The scheme at the head of a text, in lower case, and what follows its colon. -/
def splitScheme? (text : List Char) : Option (String × List Char) :=
  match text.takeWhile isSchemeChar, text.dropWhile isSchemeChar with
  | first :: more, ':' :: rest =>
    if first.isAlpha then some (String.ofList ((first :: more).map Char.toLower), rest) else none
  | _, _ => none

/-- The part of a text before a mark, and the part behind it if the mark occurs. -/
def cutAt (mark : Char) (text : List Char) : List Char × Option (List Char) :=
  match splitOnce? mark text with
  | some (before, after) => (before, some after)
  | none => (text, none)

/-- The part of a text before the last occurrence of a mark, and the part behind it. -/
def splitLast? (mark : Char) (text : List Char) : Option (List Char × List Char) :=
  (splitOnce? mark text.reverse).map fun (after, before) => (before.reverse, after.reverse)

/-- The text before its first slash, and the text from there on. -/
def cutAtSlash (special : Bool) (text : List Char) : List Char × List Char :=
  (text.takeWhile fun c => !isSlash special c, text.dropWhile fun c => !isSlash special c)

/-! ## Authorities -/

/-- The written form of a user: a name and perhaps a password. Neither colon nor password is written
if the password is empty. -/
def userText (text : List Char) : String :=
  let encode (cs : List Char) := String.ofList (Percent.encode inUser cs)
  match cutAt ':' text with
  | (name, none) => encode name
  | (name, some []) => encode name
  | (name, some password) => encode name ++ ":" ++ encode password

/-- The user in front of a host, and the text behind. The last at sign in front of the first slash
ends it; an empty user needs a host. A text that is `closed` is followed by a query or a fragment.
-/
def readUser? (special closed : Bool) (text : List Char) : Option (String × List Char) :=
  let (front, path) := cutAtSlash special text
  match splitLast? '@' front with
  | none => some ("", text)
  | some (user, host) =>
    let ends := host.isEmpty && (closed || !path.isEmpty)
    if user.isEmpty && ends then none else some (userText user, host ++ path)

/-- The text of a host and what follows it. A colon ends it, but not in brackets. -/
def cutHost (special inBrackets : Bool) : List Char → List Char × List Char
  | [] => ([], [])
  | c :: rest =>
    if (c == ':' && !inBrackets) || isSlash special c then ([], c :: rest)
    else
      let inBrackets := if c == '[' then true else if c == ']' then false else inBrackets
      let (host, rest) := cutHost special inBrackets rest
      (c :: host, rest)

/-- The number behind a host, unless it is missing or the usual one of the scheme, and what follows
it. A slash or a backslash ends it. -/
def readNumber? (scheme : String) : List Char → Option (Option Nat × List Char)
  | ':' :: text => do
    let (digits, rest) := (text.takeWhile Char.isDigit, text.dropWhile Char.isDigit)
    let n ← (readDigits 65535 0 digits).toOption
    if rest.head?.all (isSlash true) then
      let isUsual := digits.isEmpty || (specialSchemes.lookup scheme).join == some n
      some (if isUsual then none else some n, rest)
    else none
  | text => some (none, text)

/-- The authority at the head of a text, and what follows it. Only the hosts of schemes that are not
special may be empty, and then there is neither a user nor a number. -/
def readAuthority? (scheme : String) (closed : Bool) (text : List Char) :
    Option (Authority × List Char) := do
  let special := isSpecial scheme
  let (user, text) ← readUser? special closed text
  let (hostText, text) := cutHost special false text
  let host ← if special then Host.ofDomain? hostText else Host.ofText? hostText
  if host == .empty && (user != "" || text.head? == some ':') then none
  else
    let (number, text) ← readNumber? scheme text
    some (⟨user, host, number⟩, text)

/-! ## Segments -/

/-- The parts of a text between slashes. -/
def splitSegments (special : Bool) (text : List Char) : List (List Char) :=
  splitAt '/' (text.map fun c => if isSlash special c then '/' else c)

/-- A text without the slash at its head. -/
def dropSlash (special : Bool) : List Char → List Char
  | [] => []
  | c :: rest => if isSlash special c then rest else c :: rest

/-- Whether a text names a drive: it is a letter and a colon or a vertical bar. -/
def isDrive : List Char → Bool
  | [letter, mark] => letter.isAlpha && (mark == ':' || mark == '|')
  | _ => false

/-- How many dots a segment is, when an encoded dot counts as a dot. -/
def dots? : List Char → Option Nat
  | ['.'] => some 1
  | ['.', '.'] => some 2
  | ['%', '2', e] => if e.toLower == 'e' then some 1 else none
  | ['.', '%', '2', e] => if e.toLower == 'e' then some 2 else none
  | ['%', '2', e, '.'] => if e.toLower == 'e' then some 2 else none
  | ['%', '2', e, '%', '2', f] => if e.toLower == 'e' && f.toLower == 'e' then some 2 else none
  | _ => none

/-- The segments without the last one. A drive stays. -/
def dropLastSegment (done : List (List Char)) : List (List Char) :=
  if done.getLast?.any isDrive then done else done.dropLast

/-- Segments that were resolved, and whether one of them is the drive with which a path begins. -/
structure Resolved where
  segments : List (List Char)
  hasDrive : Bool
deriving DecidableEq, Repr, Inhabited

/-- The segments of a path without dot segments, encoded. A path that ends in a dot segment ends in
a slash. A drive with which the path of a file begins is written with a colon. -/
def resolve (isFile : Bool) (done : Resolved) : List (List Char) → Resolved
  | [] => done
  | segment :: rest =>
    let ending : List (List Char) := if rest.isEmpty then [[]] else []
    match dots? segment with
    | some 1 => resolve isFile { done with segments := done.segments ++ ending } rest
    | some _ =>
      resolve isFile { done with segments := dropLastSegment done.segments ++ ending } rest
    | none =>
      match isFile && done.segments.isEmpty && isDrive segment, segment with
      | true, letter :: _ => resolve isFile ⟨[[letter, ':']], true⟩ rest
      | _, _ =>
        let written := Percent.encode inPath segment
        resolve isFile { done with segments := done.segments ++ [written] } rest

/-- The segments of a path that is not the path of a file. -/
def segmentsOf (special : Bool) (text : List Char) : List (List Char) :=
  (resolve false ⟨[], false⟩ (splitSegments special (dropSlash special text))).segments

/-! ## Files -/

/-- The URI of a file with the given host and segments. Empty segments at the beginning do not
count, and a path with a drive has no host. -/
def ofFile (host : Host) (r : Resolved) : Uri :=
  let segments :=
    match r.segments.dropWhile (·.isEmpty) with
    | [] => [[]]
    | kept => kept
  ⟨"file", some ⟨"", if r.hasDrive then .empty else host, none⟩, .segments segments, none, none⟩

/-- The URI of a file with no host and the path that a text stands for. -/
def ofFilePath (text : List Char) : Uri :=
  ofFile .empty (resolve true ⟨[], false⟩ (splitSegments true text))

/-- What stands behind the scheme `file`. Behind two slashes stands a host, unless it is a drive. A
drive does not begin a path behind an empty host. -/
def readFile? (text : List Char) : Option Uri :=
  match text with
  | a :: b :: rest =>
    if isSlash true a && isSlash true b then
      let (hostText, path) := cutAtSlash true rest
      if isDrive hostText then some (ofFilePath rest)
      else if hostText.isEmpty then some (ofFilePath path)
      else do
        let host ← Host.ofDomain? hostText
        if host == .name "localhost" then some (ofFilePath path)
        else
          let segments := splitSegments true (dropSlash true path)
          some (ofFile host (resolve true ⟨[], false⟩ segments))
    else some (ofFilePath (dropSlash true text))
  | text => some (ofFilePath (dropSlash true text))

/-! ## Whole URIs -/

/-- What stands behind any other scheme. A text that is `closed` is followed by a query or a
fragment. -/
def readOther? (scheme : String) (closed : Bool) (text : List Char) : Option Uri :=
  let special := isSpecial scheme
  let address? : Option (List Char) :=
    if special then some (text.dropWhile (isSlash true))
    else afterPrefix? ['/', '/'] text
  match address? with
  | some address => do
    let (authority, path) ← readAuthority? scheme closed address
    let segments := if path.isEmpty && !special then [] else segmentsOf special path
    some ⟨scheme, some authority, .segments segments, none, none⟩
  | none =>
    let route : Route :=
      if text.head? == some '/' then .segments (segmentsOf special text)
      else .plain (Percent.encode [] text)
    some ⟨scheme, none, route, none, none⟩

/-- Whether a character does not count at the ends of a URI. -/
def isOuter (c : Char) : Bool := c.toNat ≤ 0x20

/-- Whether a character does not count anywhere in a URI. -/
def isIgnored (c : Char) : Bool := c == '\t' || c == '\n' || c == '\r'

/-- The URI that a text stands for. -/
def ofString? (text : String) : Option Uri := do
  let cs := ((text.toList.dropWhile isOuter).reverse.dropWhile isOuter).reverse
  let (scheme, rest) ← splitScheme? (cs.filter fun c => !isIgnored c)
  let (front, fragment) := cutAt '#' rest
  let (front, query) := cutAt '?' front
  let closed := query.isSome || fragment.isSome
  let uri ← if scheme == "file" then readFile? front else readOther? scheme closed front
  some { uri with
    query := query.map (Percent.encode (inQuery (isSpecial scheme)))
    fragment := fragment.map (Percent.encode inFragment) }

end SqlxDryRun.Uri
