import SqlxDryRun.Text.Percent
import SqlxDryRun.Uri.Address
import SqlxDryRun.Uri.Domain

/-!
# Hosts

The host of a URI: nothing, a name, or a numeric address. The schemes that browsers know have domain
names; the hosts of other schemes are texts of which only little is known.
-/

namespace SqlxDryRun.Uri

open Text

/-- A host. A short address is a number, and a long one has eight parts. -/
inductive Host where
  | empty
  | name (text : String)
  | short (address : Nat)
  | long (parts : List Nat)
deriving DecidableEq, Repr, Inhabited

namespace Host

/-- The written form of a host. -/
def toString : Host → String
  | empty => ""
  | name text => text
  | short address => shortText address
  | long parts => "[" ++ longText parts ++ "]"

instance : ToString Host := ⟨toString⟩

/-- The host of a text in brackets. -/
def ofBrackets? (text : List Char) : Option Host :=
  match text.getLast? with
  | some ']' => (longAddress? text.dropLast).map long
  | _ => none

/-- The host of a text with a domain name or an address, in which characters may be percent-encoded.
-/
def ofDomain? (text : List Char) : Option Host :=
  match text with
  | '[' :: rest => ofBrackets? rest
  | _ => do
    let decoded ← Utf8.strict? ⟨(Percent.decode text).toArray⟩
    let domain ← domain? decoded.toList
    if domain.isEmpty then none
    else if isNumeric domain then (shortAddress? domain).map short
    else some (name (String.ofList domain))

/-- The characters that no host contains. -/
def excluded : List Char :=
  ['\x00', '\t', '\n', '\r', ' ', '#', '/', ':', '<', '>', '?', '@', '[', '\\', ']', '^', '|']

/-- The host of any other text. -/
def ofText? (text : List Char) : Option Host :=
  match text with
  | [] => some empty
  | '[' :: rest => ofBrackets? rest
  | _ =>
    if text.any excluded.contains then none
    else some (name (String.ofList (Percent.encode [] text)))

end Host

end SqlxDryRun.Uri
