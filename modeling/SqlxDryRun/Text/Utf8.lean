/-!
# Reading UTF-8

Strict reading gives a string only for well-formed bytes. Lenient reading always gives one: each
maximal run of bytes that begins a character and then goes wrong becomes one replacement character,
and so does each byte that cannot begin one.
-/

namespace SqlxDryRun.Text.Utf8

/-- The character that stands for bytes that are not a character. -/
def replacement : Char := '\uFFFD'

/-- How a byte begins a character: the bits it gives, the bounds of the second byte, and the number
of bytes that follow. -/
structure Lead where
  bits : Nat
  low : Nat
  high : Nat
  follow : Nat

/-- The lead of a byte that begins a character of two to four bytes. The bounds of the second byte
exclude overlong forms, surrogates and code points beyond the last plane. -/
def lead? (b : Nat) : Option Lead :=
  if b < 0xc2 then none
  else if b < 0xe0 then some ⟨b - 0xc0, 0x80, 0xbf, 1⟩
  else if b == 0xe0 then some ⟨0, 0xa0, 0xbf, 2⟩
  else if b == 0xed then some ⟨0xd, 0x80, 0x9f, 2⟩
  else if b < 0xf0 then some ⟨b - 0xe0, 0x80, 0xbf, 2⟩
  else if b == 0xf0 then some ⟨0, 0x90, 0xbf, 3⟩
  else if b < 0xf4 then some ⟨b - 0xf0, 0x80, 0xbf, 3⟩
  else if b == 0xf4 then some ⟨4, 0x80, 0x8f, 3⟩
  else none

/-- What lenient reading is in the middle of: nothing, or a character whose next byte must lie
between the bounds and that needs `left` more bytes. -/
inductive Pending where
  | none
  | character (bits low high left : Nat)

/-- The characters of bytes, read leniently from the middle of a character or from its beginning. -/
def lenientFrom : Pending → List UInt8 → List Char
  | .none, [] => []
  | .character .., [] => [replacement]
  | .none, b :: rest =>
    if b.toNat < 0x80 then Char.ofNat b.toNat :: lenientFrom .none rest
    else
      match lead? b.toNat with
      | .none => replacement :: lenientFrom .none rest
      | .some l => lenientFrom (.character l.bits l.low l.high l.follow) rest
  | .character bits low high left, b :: rest =>
    if low ≤ b.toNat ∧ b.toNat ≤ high then
      if left ≤ 1 then Char.ofNat (bits * 64 + (b.toNat - 0x80)) :: lenientFrom .none rest
      else lenientFrom (.character (bits * 64 + (b.toNat - 0x80)) 0x80 0xbf (left - 1)) rest
    else if b.toNat < 0x80 then
      replacement :: Char.ofNat b.toNat :: lenientFrom .none rest
    else
      match lead? b.toNat with
      | .none => replacement :: replacement :: lenientFrom .none rest
      | .some l => replacement :: lenientFrom (.character l.bits l.low l.high l.follow) rest

/-- The text of bytes, with a replacement character wherever they are not well formed. -/
def lenient (bytes : ByteArray) : String :=
  String.ofList (lenientFrom .none bytes.toList)

/-- The text of well-formed bytes. -/
def strict? (bytes : ByteArray) : Option String :=
  String.fromUTF8? bytes

/-- Writing a text and reading it strictly gives the text. -/
theorem strict?_toUTF8 (s : String) : strict? s.toUTF8 = some s := by
  simp [strict?, String.fromUTF8?, s.isValidUTF8, String.fromUTF8]

end SqlxDryRun.Text.Utf8
