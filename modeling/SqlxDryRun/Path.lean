import SqlxDryRun.Text.Search

/-!
# Paths

A path is kept as it was written: a flag for the leading slash, and the segments between slashes.
Some segments say nothing: the empty ones, and `.` anywhere but at the very beginning of a relative
path. The others are the path's `names`; two paths are the same if their names are.

Main definitions:

* `ofString`, `toString`: the written form, and back;
* `names`, `key`: what a path says, as far as comparing goes;
* `join`, `parent?`, `ancestors`, `fileName?`, `under?`: the usual operations, none of which looks
  at a file system or resolves `..`.
-/

namespace SqlxDryRun

/-- A written path. -/
structure Path where
  absolute : Bool
  segments : List String
deriving DecidableEq, Repr, Inhabited

namespace Path

/-- The path written as `text`. -/
def ofString (text : String) : Path :=
  match text.toList with
  | '/' :: rest => ⟨true, (Text.splitAt '/' rest).map String.ofList⟩
  | cs => ⟨false, (Text.splitAt '/' cs).map String.ofList⟩

/-- The written form of a path. -/
def toString (p : Path) : String :=
  (if p.absolute then "/" else "") ++ String.intercalate "/" p.segments

instance : ToString Path := ⟨toString⟩

/-- The path written as the empty text. -/
def empty : Path := ⟨false, [""]⟩

/-- Whether a segment says nothing: it is empty or a single dot. -/
def isIdle (segment : String) : Bool :=
  segment == "" || segment == "."

/-- The segments without those at the end that say nothing. -/
def trimEnd (segments : List String) : List String :=
  (segments.reverse.dropWhile isIdle).reverse

/-- The segments that say something. A single dot counts at the beginning of a relative path. -/
def names (p : Path) : List String :=
  match p.absolute, p.segments with
  | false, "." :: rest => "." :: rest.filter fun s => !isIdle s
  | _, segments => segments.filter fun s => !isIdle s

/-- What two paths are compared by. -/
abbrev Key := Bool × List String

/-- The key of a path: whether it starts at the root, and its names. -/
def key (p : Path) : Key :=
  (p.absolute, p.names)

/-- Whether two paths are the same, up to segments that say nothing. -/
def same (p q : Path) : Bool :=
  p.key == q.key

/-- The last name of a path, unless it is `..` or the lone dot of a relative path. -/
def fileName? (p : Path) : Option String :=
  match p.names.getLast? with
  | some name => if name == ".." || name == "." then none else some name
  | none => none

/-- The path with the given segments; without any it is the root or the empty path. -/
def ofSegments (absolute : Bool) : List String → Path
  | [] => ⟨absolute, [""]⟩
  | segments => ⟨absolute, segments⟩

/-- The path without its last name, and nothing for the root and the empty path. -/
def parent? (p : Path) : Option Path :=
  match p.absolute, p.segments with
  | false, head :: rest =>
    match trimEnd rest with
    | [] => if head == "" then none else some empty
    | kept => some ⟨false, head :: trimEnd kept.dropLast⟩
  | absolute, segments =>
    match trimEnd segments with
    | [] => none
    | kept => some (ofSegments absolute (trimEnd kept.dropLast))

/-- A path and its parents, as far as `fuel` reaches, from the inside out. -/
def ancestorsWithin : (fuel : Nat) → Path → List Path
  | 0, p => [p]
  | fuel + 1, p =>
    match p.parent? with
    | none => [p]
    | some parent => p :: ancestorsWithin fuel parent

/-- A path and all its parents, from the inside out. -/
def ancestors (p : Path) : List Path :=
  ancestorsWithin p.segments.length p

/-- The path reached by following `q` from `p`: `q` itself if it is absolute. -/
def join (p q : Path) : Path :=
  if q.absolute then q
  else
    match p.segments.getLast? with
    | some "" => ⟨p.absolute, p.segments.dropLast ++ q.segments⟩
    | _ => ⟨p.absolute, p.segments ++ q.segments⟩

instance : Div Path := ⟨join⟩

/-- The path reached by appending one written name. -/
def child (p : Path) (name : String) : Path :=
  p.join (ofString name)

/-- What is left of the segments behind the given names. -/
def dropNames : (names segments : List String) → Option (List String)
  | [], segments => some segments
  | _ :: _, [] => none
  | name :: names, segment :: segments =>
    if isIdle segment then dropNames (name :: names) segments
    else if segment == name then dropNames names segments
    else none

/-- The relative path from `base` to `p`, if both are absolute and the names of `base` are the first
names of `p`. -/
def under? (p base : Path) : Option Path :=
  if p.absolute && base.absolute then
    (dropNames base.names p.segments).map fun rest =>
      ofSegments false (trimEnd (rest.dropWhile isIdle))
  else none

end Path

end SqlxDryRun
