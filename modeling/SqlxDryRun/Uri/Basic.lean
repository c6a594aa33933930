import SqlxDryRun.Uri.Host

/-!
# URIs

A URI has a scheme, an authority where there is one, a path, and perhaps a query and a fragment. All
parts are kept as they are written: what cannot stand for itself is percent-encoded.

Main definitions:

* `Uri`, `Uri.toString`: URIs, and their one written form;
* `Uri.isSpecial`: the schemes that have a host, and in which a backslash counts as a slash.
-/

namespace SqlxDryRun

open Text

/-- The authority of a URI: the user, which may have a password, the host, and the number behind it
unless that is the usual one of the scheme. -/
structure Uri.Authority where
  user : String
  host : Uri.Host
  number : Option Nat
deriving DecidableEq, Repr, Inhabited

/-- The path of a URI: segments, each behind a slash, or a text of its own. -/
inductive Uri.Route where
  | segments (segments : List (List Char))
  | plain (text : List Char)
deriving DecidableEq, Repr, Inhabited

/-- A URI. The written parts are encoded. -/
structure Uri where
  scheme : String
  authority : Option Uri.Authority
  route : Uri.Route
  query : Option (List Char)
  fragment : Option (List Char)
deriving DecidableEq, Repr, Inhabited

namespace Uri

/-! ## Schemes -/

/-- The special schemes, with the usual numbers behind their hosts. -/
def specialSchemes : List (String × Option Nat) :=
  [("file", none), ("http", some 80), ("https", some 443), ("ws", some 80), ("wss", some 443),
    ("ftp", some 21)]

/-- Whether a scheme is special. -/
def isSpecial (scheme : String) : Bool :=
  (specialSchemes.lookup scheme).isSome

/-! ## Characters -/

/-- The characters that are encoded in a fragment. -/
def inFragment : List Char := [' ', '"', '<', '>', '\x60']

/-- The characters that are encoded in a path. -/
def inPath : List Char := inFragment ++ ['#', '?', '^', '\x7b', '\x7d']

/-- The characters that are encoded in the name of a file. -/
def inName : List Char := inPath ++ ['/', '%', '\\']

/-- The characters that are encoded in the name and the password of a user. -/
def inUser : List Char := inPath ++ ['/', ':', ';', '=', '@', '[', '\\', ']', '|']

/-- The characters that are encoded in a query. -/
def inQuery (special : Bool) : List Char :=
  [' ', '"', '#', '<', '>'] ++ if special then ['\''] else []

/-! ## The written form -/

/-- The written form of an authority. -/
def Authority.toString (a : Authority) : String :=
  (if a.user == "" then "" else a.user ++ "@") ++ a.host.toString ++
    (a.number.map fun n => ":" ++ ToString.toString n).getD ""

instance : ToString Authority := ⟨Authority.toString⟩

/-- The written form of segments. -/
def segmentsText (segments : List (List Char)) : List Char :=
  segments.flatMap fun s => '/' :: s

/-- The written form of a path. Without an authority two slashes would begin one, so a segment that
says nothing stands in front of them. -/
def routeText (hasAuthority : Bool) : Route → List Char
  | .segments ss =>
    match hasAuthority, ss with
    | false, [] :: _ :: _ => '/' :: '.' :: segmentsText ss
    | _, ss => segmentsText ss
  | .plain text => text

/-- The written form of a URI. -/
def toString (u : Uri) : String :=
  let part (mark : String) (text : Option (List Char)) : String :=
    match text with
    | some cs => mark ++ String.ofList cs
    | none => ""
  u.scheme ++ ":" ++ (u.authority.map fun a => "//" ++ a.toString).getD "" ++
    String.ofList (routeText u.authority.isSome u.route) ++ part "?" u.query ++ part "#" u.fragment

instance : ToString Uri := ⟨toString⟩

end Uri

end SqlxDryRun
