import SqlxDryRun.Path
import SqlxDryRun.Uri.Reader

/-!
# The paths of files and their URIs

A URI names a file if it has segments and no host, or the host `localhost`. The segments stand for
bytes, and the bytes for a path; bytes that are no text are shown leniently in the path, but two
files are the same only if their bytes are.

Main definitions:

* `toPath?`: the path of the file that a URI names;
* `toBytePath?`: the same path with each byte as a character, which tells all files apart;
* `ofPath?`: the URI of an absolute path.
-/

namespace SqlxDryRun.Uri

open Text

/-- Whether a URI has no host, or the host of the machine itself. -/
def isLocal (u : Uri) : Bool :=
  match u.authority with
  | none => true
  | some a => a.host == .empty || a.host == .name "localhost"

/-- The bytes of a path, with a slash behind a drive at their end. -/
def closeDrive (bytes : List UInt8) : List UInt8 :=
  match bytes.reverse with
  | mark :: letter :: _ :: _ =>
    if isDrive [Char.ofNat letter.toNat, Char.ofNat mark.toNat] then bytes ++ ['/'.toUInt8]
    else bytes
  | _ => bytes

/-- The bytes of the path of the file that a URI names. -/
def fileBytes? (u : Uri) : Option (List UInt8) :=
  match u.route with
  | .segments (s :: ss) =>
    if u.isLocal then some (closeDrive (Percent.decode (segmentsText (s :: ss)))) else none
  | _ => none

/-- The path of the file that a URI names, as it is shown. -/
def toPath? (u : Uri) : Option Path :=
  u.fileBytes?.map fun bytes => Path.ofString (Utf8.lenient ⟨bytes.toArray⟩)

/-- The path of the file that a URI names, with each byte as the character of its number. -/
def toBytePath? (u : Uri) : Option Path :=
  u.fileBytes?.map fun bytes =>
    Path.ofString (String.ofList (bytes.map fun b => Char.ofNat b.toNat))

/-- The path of the file that a URI names, if its last name is a text. -/
def toNamedPath? (u : Uri) : Option Path := do
  let p ← u.toBytePath?
  let name ← p.fileName?
  let _ ← Utf8.strict? ⟨(name.toList.map fun c => UInt8.ofNat c.toNat).toArray⟩
  u.toPath?

/-- The URI of an absolute path. -/
def ofPath? (p : Path) : Option Uri :=
  if p.absolute then
    let segments :=
      match p.names with
      | [] => [[]]
      | names => names.map fun name => Percent.encode inName name.toList
    some ⟨"file", some ⟨"", .empty, none⟩, .segments segments, none, none⟩
  else none

end SqlxDryRun.Uri
