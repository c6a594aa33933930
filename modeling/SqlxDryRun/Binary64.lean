/-!
# Rounding to 53 bits

Sums of bytes are scaled, and numbers with a point are read, in binary floating point with 53
significant bits. The functions here compute with exact fractions: a rounded number is an integer
over a power of two, or a multiple of one.

Main definitions:

* `nearest`, `round?`: rounding, without and with the bounds of double precision;
* `scale?`: a whole number times a power of ten, as reading a number computes it;
* `decimalOverflows`: whether an exact decimal number is too large;
* `Double`: a number in double precision.
-/

namespace SqlxDryRun.Binary64

/-- The integer nearest to `num / den`; a tie goes to the even one. -/
def roundDiv (num den : Nat) : Nat :=
  let quotient := num / den
  let twice := 2 * (num % den)
  if twice > den || (twice == den && quotient % 2 == 1) then quotient + 1 else quotient

/-- A fraction of naturals. -/
structure Fraction where
  num : Nat
  den : Nat
deriving DecidableEq, Repr, Inhabited

/-- The number with 53 significant bits that is nearest to a fraction of value one or more; a tie
goes to the even significand. -/
def nearest (x : Fraction) : Fraction :=
  let exponent := (x.num / x.den).log2
  if exponent ≤ 52 then
    ⟨roundDiv (x.num * Nat.pow 2 (52 - exponent)) x.den, Nat.pow 2 (52 - exponent)⟩
  else ⟨roundDiv x.num (x.den * Nat.pow 2 (exponent - 52)) * Nat.pow 2 (exponent - 52), 1⟩

/-- The value of a natural number, rounded. -/
def ofNat (n : Nat) : Fraction :=
  if n == 0 then ⟨0, 1⟩ else nearest ⟨n, 1⟩

/-- The rounded quotient of a fraction of value `k` or more by `k`. -/
def divide (x : Fraction) (k : Nat) : Fraction :=
  nearest ⟨x.num, x.den * k⟩

/-- Whether a fraction is at least a natural number. -/
def atLeast (x : Fraction) (n : Nat) : Bool :=
  n * x.den ≤ x.num

/-- The number in decimal with two places; a tie goes to the even last place. -/
def twoPlaces (x : Fraction) : String :=
  let hundredths := roundDiv (100 * x.num) x.den
  let fraction := hundredths % 100
  toString (hundredths / 100) ++ "." ++ (if fraction < 10 then "0" else "") ++ toString fraction

/-! ## Double precision -/

/-- The least number that is too large for double precision. -/
def tooLarge : Nat := Nat.pow 2 1024 - Nat.pow 2 970

/-- The fraction `num / den` times a power of two, rounded to a whole number of that power. -/
def roundTo (x : Fraction) (unit : Int) : Fraction :=
  match unit with
  | .ofNat u => ⟨roundDiv x.num (x.den * Nat.pow 2 u) * Nat.pow 2 u, 1⟩
  | .negSucc u => ⟨roundDiv (x.num * Nat.pow 2 (u + 1)) x.den, Nat.pow 2 (u + 1)⟩

/-- The exponent of the greatest power of two that is at most a positive fraction. -/
def binaryExponent (x : Fraction) : Int :=
  let guess : Int := x.num.log2 - x.den.log2
  let reaches : Bool :=
    match guess with
    | .ofNat e => x.den * Nat.pow 2 e ≤ x.num
    | .negSucc e => x.den ≤ x.num * Nat.pow 2 (e + 1)
  if reaches then guess else guess - 1

/-- The double precision number nearest to a fraction, unless it is too large; a tie goes to the
even significand. Below `2 ^ (-1022)` the numbers are the multiples of `2 ^ (-1074)`. -/
def round? (x : Fraction) : Option Fraction :=
  if x.num == 0 then some ⟨0, 1⟩
  else
    let rounded := roundTo x (max (binaryExponent x - 52) (-1074))
    if Nat.pow 2 1024 * rounded.den ≤ rounded.num then none else some rounded

/-- The double precision number nearest to a power of ten. Exponents go up to 308. -/
def powerOfTen (e : Nat) : Fraction :=
  (round? ⟨Nat.pow 10 e, 1⟩).getD ⟨0, 1⟩

/-- The rounded product of two numbers. -/
def product? (x y : Fraction) : Option Fraction :=
  round? ⟨x.num * y.num, x.den * y.den⟩

/-- The rounded quotient of a number by a power of ten. -/
def downBy (x : Fraction) (e : Nat) : Fraction :=
  let p := powerOfTen e
  (round? ⟨x.num * p.den, x.den * p.num⟩).getD ⟨0, 1⟩

/-- A whole number of 64 bits times a power of ten, unless it is too large. Every step rounds: the
number, the power, and the product or quotient. Two steps down by `10 ^ 308` leave nothing. -/
def scale? (significand : Nat) (exponent : Int) : Option Fraction :=
  let x := (round? ⟨significand, 1⟩).getD ⟨0, 1⟩
  if x.num == 0 then some x
  else
    match exponent with
    | .ofNat e => if e ≤ 308 then product? x (powerOfTen e) else none
    | .negSucc e =>
      if e + 1 ≤ 308 then some (downBy x (e + 1))
      else if e + 1 ≤ 616 then some (downBy (downBy x 308) (e + 1 - 308))
      else some ⟨0, 1⟩

/-- Whether a natural number times a power of ten has no double precision value. -/
def decimalOverflows (significand : Nat) (exponent : Int) : Bool :=
  if significand == 0 then false
  else
    match exponent with
    | .ofNat e => e > 400 || tooLarge ≤ significand * Nat.pow 10 e
    | .negSucc e =>
      if significand.log2 < 1023 || significand.log2 < e then false
      else tooLarge * Nat.pow 10 (e + 1) ≤ significand

/-- A number in double precision: a sign, and a magnitude whose denominator is a power of two. -/
structure Double where
  negative : Bool
  magnitude : Fraction
deriving DecidableEq, Repr, Inhabited

/-- The number in decimal, exactly: the denominator `2 ^ k` becomes `10 ^ k` when both parts are
multiplied by `5 ^ k`. -/
def Double.text (x : Double) : String :=
  let sign := if x.negative then "-" else ""
  let places := x.magnitude.den.log2
  if places == 0 then sign ++ toString x.magnitude.num ++ ".0"
  else sign ++ toString (x.magnitude.num * Nat.pow 5 places) ++ "e-" ++ toString places

end SqlxDryRun.Binary64
