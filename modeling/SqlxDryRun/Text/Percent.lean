import SqlxDryRun.Text.CharClass
import SqlxDryRun.Text.Utf8

/-!
# Percent encoding

Characters that may not stand for themselves are written as the bytes of their UTF-8 form, each as a
percent sign and two hexadecimal digits. Controls and characters beyond ASCII are always written so;
which others are is up to the place.
-/

namespace SqlxDryRun.Text.Percent

/-- The hexadecimal digit of a number below sixteen. -/
def digit (n : Nat) : Char :=
  if n < 10 then Char.ofNat (48 + n) else Char.ofNat (55 + n)

/-- The encoded form of a byte. -/
def encodeByte (b : UInt8) : List Char :=
  ['%', digit (b.toNat / 16), digit (b.toNat % 16)]

/-- Whether a character never stands for itself. -/
def isReserved (c : Char) : Bool :=
  c.toNat < 0x20 || 0x7f ≤ c.toNat

/-- The encoded form of a text in a place where the characters in `special` are encoded too. -/
def encode (special text : List Char) : List Char :=
  text.flatMap fun c =>
    if isReserved c || special.contains c then (String.utf8EncodeChar c).flatMap encodeByte else [c]

/-- The bytes of an encoded text. A percent sign without two digits stands for itself. -/
def decode : List Char → List UInt8
  | [] => []
  | '%' :: high :: low :: rest =>
    match hexValue? high, hexValue? low with
    | some h, some l => UInt8.ofNat (h * 16 + l) :: decode rest
    | _, _ => String.utf8EncodeChar '%' ++ decode (high :: low :: rest)
  | c :: rest => String.utf8EncodeChar c ++ decode rest

/-- The text that an encoded text stands for. -/
def decodeText (text : List Char) : String :=
  Utf8.lenient ⟨(decode text).toArray⟩

end SqlxDryRun.Text.Percent
