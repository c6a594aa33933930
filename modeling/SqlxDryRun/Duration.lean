/-!
# Durations

A duration is a number of nanoseconds. It is written in the largest of the units s, ms, µs and ns in
which it is at least one, with as many decimal places as it needs.
-/

namespace SqlxDryRun

/-- A length of time. -/
structure Duration where
  nanos : Nat
deriving DecidableEq, Repr, Inhabited

namespace Duration

/-- The duration of whole seconds. -/
def ofSeconds (n : Nat) : Duration := ⟨n * 1000000000⟩

/-- The duration of whole milliseconds. -/
def ofMillis (n : Nat) : Duration := ⟨n * 1000000⟩

instance : LE Duration := ⟨fun a b => a.nanos ≤ b.nanos⟩

instance : LT Duration := ⟨fun a b => a.nanos < b.nanos⟩

instance (a b : Duration) : Decidable (a ≤ b) := inferInstanceAs (Decidable (a.nanos ≤ b.nanos))

instance (a b : Duration) : Decidable (a < b) := inferInstanceAs (Decidable (a.nanos < b.nanos))

/-- The decimal places of `n`, a number below ten to the power `places`, without zeros at the end.
-/
def placesText : (places n : Nat) → String
  | 0, _ => ""
  | places + 1, n =>
    if n == 0 then ""
    else toString (n / Nat.pow 10 places) ++ placesText places (n % Nat.pow 10 places)

/-- The text of `nanos` in a unit of ten to the power `places` nanoseconds. -/
def inUnit (nanos places : Nat) (unit : String) : String :=
  let fraction := nanos % Nat.pow 10 places
  toString (nanos / Nat.pow 10 places) ++
    (if fraction == 0 then "" else "." ++ placesText places fraction) ++ unit

/-- The text of a duration. -/
def text (d : Duration) : String :=
  if 1000000000 ≤ d.nanos then inUnit d.nanos 9 "s"
  else if 1000000 ≤ d.nanos then inUnit d.nanos 6 "ms"
  else if 1000 ≤ d.nanos then inUnit d.nanos 3 "µs"
  else inUnit d.nanos 0 "ns"

end Duration

end SqlxDryRun
