import SqlxDryRun.Json.Reader

/-!
# Decoding JSON

A decoder turns a value into data of the domain. It goes through the value in the order of the text
and stops at the first problem.

Records are read from objects or from arrays: an object names the fields in any order, and fields it
does not know are skipped; an array lists them in the order of the record. A `Layout` says which
fields a record has and whether they may be left out.
-/

namespace SqlxDryRun.Json

/-- Why a text is not the data that it should be. -/
inductive Problem where
  | malformed
  | ended
  | mismatch
deriving DecidableEq, Repr, Inhabited

/-- The problem of a break with the given cause. -/
def Cause.problem : Cause → Problem
  | malformed => .malformed
  | ended => .ended

/-- What a decoder gives: data, or the first problem. -/
abbrev Decoded (α : Type) := Except Problem α

/-- A decoder of single values. -/
abbrev Decoder (α : Type) := Value → Decoded α

/-! ## Skipping -/

mutual

/-- Goes through a value without using it. -/
def Value.skip : Value → Decoded Unit
  | .array items => items.skip
  | .object fields => fields.skip
  | .broken b => .error b.skipped.problem
  | _ => .ok ()

/-- Goes through items without using them. -/
def Items.skip : Items → Decoded Unit
  | .closed => .ok ()
  | .broken b => .error b.skipped.problem
  | .more item rest =>
    match item.skip with
    | .ok () => rest.skip
    | .error p => .error p

/-- Goes through fields without using them. -/
def Fields.skip : Fields → Decoded Unit
  | .closed => .ok ()
  | .broken b => .error b.skipped.problem
  | .more _ value rest =>
    match value.skip with
    | .ok () => rest.skip
    | .error p => .error p

end

/-! ## Single values -/

/-- The problem of a value of the wrong kind. The value is looked at as far as its kind needs: a
number must have a magnitude, and a string must be whole. -/
def Value.mismatch : Value → Problem
  | .number .tooLarge => .malformed
  | .unpaired => .malformed
  | .broken b => b.used.problem
  | _ => .mismatch

/-- A string. -/
def string : Decoder String
  | .string s => .ok s
  | v => .error v.mismatch

/-- A truth value. -/
def bool : Decoder Bool
  | .bool b => .ok b
  | v => .error v.mismatch

/-- An integer that is written as one and lies between bounds. -/
def integer (low high : Int) : Decoder Int
  | .number (.integer n) => if low ≤ n ∧ n ≤ high then .ok n else .error .mismatch
  | v => .error v.mismatch

/-- Any value. -/
def any : Decoder Value := fun v => v.skip.map fun _ => v

/-- A natural number of 32 bits. -/
def uint32 : Decoder UInt32 := fun v =>
  (integer 0 (UInt32.size - 1) v).map fun i => UInt32.ofNat i.toNat

/-- An integer of 32 bits. -/
def int32 : Decoder Int :=
  integer (-2147483648) 2147483647

/-- A natural number of 64 bits. -/
def uint64 : Decoder UInt64 := fun v =>
  (integer 0 (UInt64.size - 1) v).map fun i => UInt64.ofNat i.toNat

/-- A value or `null`. -/
def optional (decode : Decoder α) : Decoder (Option α)
  | .null => .ok none
  | v => (decode v).map some

/-- The items of an array, all decoded alike. -/
def items (decode : Decoder α) : Items → Decoded (List α)
  | .closed => .ok []
  | .broken b => .error b.used.problem
  | .more item rest => do
    let a ← decode item
    let as ← items decode rest
    .ok (a :: as)

/-- An array of values that are all decoded alike. -/
def list (decode : Decoder α) : Decoder (List α)
  | .array vs => items decode vs
  | v => .error v.mismatch

/-- A name out of a fixed set. It stands alone, or as the only key of an object whose value is
`null`. -/
def tag (ofName? : String → Option α) : Decoder α
  | .string s => named s
  | .unpaired => .error .malformed
  | .broken b => .error b.used.problem
  | .object (.more none _ _) => .error .malformed
  | .object (.more (some key) value rest) => do
    let a ← named key
    match value with
    | .null => pure ()
    | v => .error v.mismatch
    match rest with
    | .closed => .ok a
    | .broken b => .error b.used.problem
    | _ => .error .malformed
  | .object (.broken b) => .error b.used.problem
  | .object .closed => .error .malformed
  | _ => .error .malformed
where
  /-- The member of the set with a name. -/
  named (s : String) : Decoded α :=
    match ofName? s with
    | some a => .ok a
    | none => .error .mismatch

/-! ## Records -/

/-- A field of records of type `σ`: its key, how its value changes the record, and whether it must
be present. -/
structure RecordField (σ : Type) where
  key : String
  set : σ → Value → Decoded σ
  required : Bool

/-- The fields of a record, in order, the record in which every one has its default, and whether an
array may leave out fields at the end. -/
structure Layout (σ : Type) where
  fields : List (RecordField σ)
  default : σ
  mayBeShort : Bool

namespace Layout

variable {σ : Type}

/-- The field of a key. -/
def field? (layout : Layout σ) (key : String) : Option (RecordField σ) :=
  layout.fields.find? fun f => f.key == key

/-- The record after the fields of an object were applied, when the keys in `seen` came before. -/
def applyFields (layout : Layout σ) (record : σ) (seen : List String) : Fields → Decoded σ
  | .closed =>
    if layout.fields.all fun f => !f.required || seen.contains f.key then .ok record
    else .error .mismatch
  | .broken b => .error b.used.problem
  | .more none _ _ => .error .malformed
  | .more (some key) value rest =>
    match layout.field? key with
    | none => do
      value.skip
      layout.applyFields record seen rest
    | some f =>
      if seen.contains key then .error .mismatch
      else do
        let record ← f.set record value
        layout.applyFields record (key :: seen) rest

/-- The record after the items of an array were applied to fields in order. -/
def applyItems (mayBeShort : Bool) (record : σ) : List (RecordField σ) → Items → Decoded σ
  | [], .closed => .ok record
  | [], .broken b => .error b.used.problem
  | [], .more _ _ => .error .malformed
  | _ :: _, .closed => if mayBeShort then .ok record else .error .mismatch
  | _ :: _, .broken b => .error b.used.problem
  | f :: fields, .more item rest => do
    let record ← f.set record item
    applyItems mayBeShort record fields rest

/-- A record that is never written as an array. -/
def decodeObject (layout : Layout σ) : Decoder σ
  | .object fields => layout.applyFields layout.default [] fields
  | .array items =>
    match items with
    | .broken b => .error b.used.problem
    | _ => .error .mismatch
  | v => .error v.mismatch

/-- A record, from an object or an array. -/
def decode (layout : Layout σ) : Decoder σ
  | .object fields => layout.applyFields layout.default [] fields
  | .array items => applyItems layout.mayBeShort layout.default layout.fields items
  | v => .error v.mismatch

end Layout

/-- A field that may be left out. -/
def RecordField.optional (key : String) (decode : Decoder α) (set : σ → α → σ) : RecordField σ :=
  ⟨key, fun record v => (decode v).map (set record), false⟩

/-- A field that must be present. -/
def RecordField.needed (key : String) (decode : Decoder α) (set : σ → α → σ) : RecordField σ :=
  ⟨key, fun record v => (decode v).map (set record), true⟩

/-- A field whose value is looked at but not kept. -/
def RecordField.ignored (key : String) (decode : Decoder α) (required : Bool) : RecordField σ :=
  ⟨key, fun record v => (decode v).map fun _ => record, required⟩

/-! ## Whole texts -/

/-- The data of a whole text. -/
def decodeText (decode : Decoder α) (text : String) : Decoded α := do
  let content := read text
  let a ← decode content.value
  if content.isAll then .ok a else .error .malformed

end SqlxDryRun.Json
