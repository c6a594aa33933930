import SqlxDryRun.Binary64

/-!
# Byte counts for readers

A count below one thousand is written in bytes. A larger one is divided by one thousand until it is
below that, at most four times, and written with two decimal places.
-/

namespace SqlxDryRun.Validation

open Binary64 in
/-- A value of one thousand bytes or more in the first of the units in which it falls below one
thousand, or in the last of them. -/
def scaleTo (value : Fraction) (unit : String) : List String → Fraction × String
  | [] => (divide value 1000, unit)
  | larger :: rest =>
    if atLeast (divide value 1000) 1000 then scaleTo (divide value 1000) larger rest
    else (divide value 1000, unit)

/-- The text of a byte count. -/
def bytesText (count : UInt64) : String :=
  if count < 1000 then toString count.toNat ++ " B"
  else
    let (value, unit) := scaleTo (Binary64.ofNat count.toNat) "KB" ["MB", "GB", "TB"]
    Binary64.twoPlaces value ++ " " ++ unit

end SqlxDryRun.Validation
