import SqlxDryRun.Binary64

/-!
# JSON values as they are read

Reading JSON never fails: a text that stops being JSON gives a value that ends in a *break* at that
place. Whoever decodes the value meets its parts in the order of the text, and so reports the first
problem, be it a break or a part of the wrong kind.

Some breaks look different to a reader that wants the part and to one that skips it, so a break
holds two causes. A string that holds half of a surrogate pair is no break: it can be skipped, but
it cannot be used.
-/

namespace SqlxDryRun.Json

/-- Why a text is not JSON: it goes wrong, or it ends too early. -/
inductive Cause where
  | malformed
  | ended
deriving DecidableEq, Repr, Inhabited

/-- A place where a text stops being JSON: the cause for a reader that uses the part in which it
lies, and for one that skips it. -/
structure Break where
  used : Cause
  skipped : Cause
deriving DecidableEq, Repr, Inhabited

namespace Break

/-- A break with one cause for all readers. -/
def both (c : Cause) : Break := ⟨c, c⟩

end Break

/-- A number as readers keep it: an integer of 64 bits if it is written as one, else its value in
double precision, unless that is too large. -/
inductive Number where
  | integer (n : Int)
  | double (x : Binary64.Double)
  | tooLarge
deriving DecidableEq, Repr, Inhabited

namespace Number

/-- The digits at the head of a text that can be put behind the digits of a number without leaving
64 bits, with the number they give, and how many digits they are. -/
def keepDigits (value : Nat) : List Char → Nat × Nat
  | [] => (value, 0)
  | c :: rest =>
    let next := value * 10 + (c.toNat - '0'.toNat)
    if next < UInt64.size then
      let (value, count) := keepDigits next rest
      (value, count + 1)
    else (value, 0)

/-- The number without a point and an exponent whose digits fit into 64 bits. Minus zero, and what
is below the integers of 64 bits with a sign, is a number in double precision. -/
def ofWhole (negative : Bool) (n : Nat) : Number :=
  if !negative then integer n
  else if n == 0 || n > 9223372036854775808 then
    double ⟨true, (Binary64.round? ⟨n, 1⟩).getD ⟨0, 1⟩⟩
  else integer (-n)

/-- The number with the given digits before and behind its point and the given exponent. Digits that
leave 64 bits count by their place only. -/
def ofDigits (negative : Bool) (digits : List Char) (places : List Char) (exponent : Int)
    (isPlain : Bool) : Number :=
  let (whole, kept) := keepDigits 0 digits
  if isPlain && kept == digits.length then ofWhole negative whole
  else
    let (significand, placed) := keepDigits whole places
    let dropped : Int := (digits.length - kept : Nat)
    match Binary64.scale? significand (dropped - placed + exponent) with
    | some x => double ⟨negative, x⟩
    | none => tooLarge

/-- The text of a number. -/
def text : Number → String
  | integer n => toString n
  | double x => x.text
  | tooLarge => "null"

end Number

mutual

/-- A value, up to a break in its text. -/
inductive Value where
  | null
  | bool (b : Bool)
  | number (n : Number)
  | string (s : String)
  /-- A string that holds half of a surrogate pair. -/
  | unpaired
  | array (items : Items)
  | object (fields : Fields)
  | broken (b : Break)

/-- The items of an array: none are left, the text breaks where a comma or the end should stand, or
an item and those that follow. -/
inductive Items where
  | closed
  | broken (b : Break)
  | more (item : Value) (rest : Items)

/-- The fields of an object: none are left, the text breaks where a key, a comma or the end should
stand, or a field and those that follow. A key without text holds half of a surrogate pair. -/
inductive Fields where
  | closed
  | broken (b : Break)
  | more (key : Option String) (value : Value) (rest : Fields)

end

instance : Inhabited Value := ⟨.null⟩
instance : Inhabited Items := ⟨.closed⟩
instance : Inhabited Fields := ⟨.closed⟩

/-- Items without a break. -/
def Items.ofList : List Value → Items
  | [] => .closed
  | v :: vs => .more v (ofList vs)

/-- Fields without a break. -/
def Fields.ofList : List (String × Value) → Fields
  | [] => .closed
  | (key, v) :: rest => .more (some key) v (ofList rest)

namespace Value

/-- The array of the given values. -/
def ofItems (vs : List Value) : Value := .array (.ofList vs)

/-- The object with the given fields, in order. -/
def ofFields (fields : List (String × Value)) : Value := .object (.ofList fields)

/-- The array of the given strings. -/
def ofStrings (ss : List String) : Value := ofItems (ss.map .string)

/-- The number of a 32-bit count. -/
def ofUInt32 (n : UInt32) : Value := .number (.integer n.toNat)

/-- The integer with the given value. -/
def ofInt (n : Int) : Value := .number (.integer n)

/-- The value of something that may be missing; `null` if it is. -/
def ofOption (f : α → Value) : Option α → Value
  | none => .null
  | some a => f a

/-- The first field of an object with the given key. -/
def field? (key : String) : Value → Option Value
  | .object fields => look fields
  | _ => none
where
  /-- The first of some fields with the key. -/
  look : Fields → Option Value
    | .more k v rest => if k == some key then some v else look rest
    | _ => none

end Value

end SqlxDryRun.Json
