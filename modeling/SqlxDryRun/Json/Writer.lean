import SqlxDryRun.Json.Value

/-!
# Writing JSON

The text of a value, without gaps. Strings stand for themselves but for quotes, backslashes and
control characters, which are escaped. A value that was not read to its end is written as far as it
goes, and what has no text becomes `null`.
-/

namespace SqlxDryRun.Json

/-- The hexadecimal digit of a number below sixteen, in lower case. -/
def hexDigit (n : Nat) : Char :=
  if n < 10 then Char.ofNat (48 + n) else Char.ofNat (87 + n)

/-- The written form of a character in a string. -/
def escaped (c : Char) : List Char :=
  if c == '"' then ['\\', '"']
  else if c == '\\' then ['\\', '\\']
  else if c.toNat < 0x20 then
    ['\\', 'u', '0', '0', hexDigit (c.toNat / 16), hexDigit (c.toNat % 16)]
  else [c]

/-- The written form of a string. -/
def quoted (s : String) : String :=
  "\"" ++ String.ofList (s.toList.flatMap escaped) ++ "\""

mutual

/-- A text followed by that of a value. -/
def Value.writeTo (done : String) : Value → String
  | .null => done ++ "null"
  | .bool b => done ++ (if b then "true" else "false")
  | .number n => done ++ n.text
  | .string s => done ++ quoted s
  | .unpaired => done ++ "null"
  | .array items => items.writeTo true (done ++ "[") ++ "]"
  | .object fields => fields.writeTo true (done ++ "\x7b") ++ "\x7d"
  | .broken _ => done ++ "null"

/-- A text followed by that of items; the first one has no comma before it. -/
def Items.writeTo (first : Bool) (done : String) : Items → String
  | .closed => done
  | .broken _ => done
  | .more item rest =>
    rest.writeTo false (item.writeTo (if first then done else done ++ ","))

/-- A text followed by that of fields; the first one has no comma before it. -/
def Fields.writeTo (first : Bool) (done : String) : Fields → String
  | .closed => done
  | .broken _ => done
  | .more key value rest =>
    let done := (if first then done else done ++ ",") ++ quoted (key.getD "") ++ ":"
    rest.writeTo false (value.writeTo done)

end

/-- The text of a value. -/
def Value.text (v : Value) : String := v.writeTo ""

end SqlxDryRun.Json
