namespace Mathdown.Toml

/-- A number of double precision. -/
inductive Double where
  | nan
  | infinite (negative : Bool)
  /-- A mantissa times a power of two. -/
  | finite (negative : Bool) (mantissa : Nat) (exponent : Int)
deriving Repr, DecidableEq

/-- The numerator and the denominator of a number times a power of a base. -/
def scaled (base digits : Nat) (exponent : Int) : Nat × Nat :=
  if 0 ≤ exponent then (digits * Nat.pow base exponent.toNat, 1)
  else (digits, Nat.pow base (-exponent).toNat)

def roundEven (numerator denominator : Nat) : Nat :=
  let quotient := numerator / denominator
  let twice := 2 * (numerator % denominator)
  if twice < denominator then quotient
  else if denominator < twice then quotient + 1
  else quotient + quotient % 2

namespace Double

def minExponent : Int := -1074

def maxExponent : Int := 971

def shifted (numerator denominator : Nat) (exponent : Int) : Nat × Nat :=
  if 0 ≤ exponent then (numerator, denominator <<< exponent.toNat)
  else (numerator <<< (-exponent).toNat, denominator)

/-- The exponent that leaves a fraction 53 bits before the point, or as many as there can be. -/
def exponentFor (numerator denominator : Nat) : Int :=
  let guess : Int := Nat.log2 numerator - Nat.log2 denominator - 52
  let (p, q) := shifted numerator denominator guess
  max minExponent (if p < q <<< 52 then guess - 1 else guess)

def ofFraction (negative : Bool) (numerator denominator : Nat) : Double :=
  if numerator = 0 then .finite negative 0 0
  else
    let exponent := exponentFor numerator denominator
    let (p, q) := shifted numerator denominator exponent
    let mantissa := roundEven p q
    let (mantissa, exponent) :=
      if mantissa = 1 <<< 53 then (1 <<< 52, exponent + 1) else (mantissa, exponent)
    if maxExponent < exponent then .infinite negative
    else .finite negative mantissa (if mantissa = 0 then 0 else exponent)

/-- The number nearest to some digits times a power of ten. -/
def ofDecimal (negative : Bool) (digits : Nat) (exponent : Int) : Double :=
  let length : Int := (Nat.toDigits 10 digits).length
  if digits = 0 then .finite negative 0 0
  else if 400 < length + exponent then .infinite negative
  else if length + exponent < -400 then .finite negative 0 0
  else
    let (p, q) := scaled 10 digits exponent
    ofFraction negative p q

/-- Whether a number is too large for double precision. -/
def isInfinite : Double → Bool
  | .infinite _ => true
  | _ => false

/-- The position of the first digit of a fraction: ten to its power is at most the fraction. -/
def decimalExponent (numerator denominator : Nat) : Int :=
  let digits (n : Nat) : Int := (Nat.toDigits 10 n).length
  let guess := digits numerator - digits denominator
  let (p, q) := scaled 10 1 guess
  if numerator * q < p * denominator then guess - 1 else guess

/--
Among the decimals of a length below and above a fraction, the nearest that leads back to the
number.
-/
def decimalOfLength? (number : Double) (numerator denominator length : Nat) :
    Option (Nat × Int) :=
  let exponent := decimalExponent numerator denominator - (length - 1 : Nat)
  let (p, q) := scaled 10 1 exponent
  let below := numerator * q / (denominator * p)
  let rest := numerator * q % (denominator * p)
  let candidates := if 2 * rest < denominator * p then [below, below + 1] else [below + 1, below]
  (candidates.find? fun digits => ofDecimal false digits exponent == number).map (·, exponent)

def shortest (mantissa : Nat) (exponent : Int) : Nat × Int :=
  let (p, q) := scaled 2 mantissa exponent
  ((List.range 17).findSome? fun n =>
    decimalOfLength? (.finite false mantissa exponent) p q (n + 1)).getD (mantissa, 0)

/-- Digits times a power of ten, written out with a point. -/
def plain (digits : Nat) (exponent : Int) : String :=
  let ds := Nat.toDigits 10 digits
  if 0 ≤ exponent then String.ofList (ds ++ List.replicate exponent.toNat '0' ++ ['.', '0'])
  else
    let places := (-exponent).toNat
    let padded := List.replicate (places + 1 - ds.length) '0' ++ ds
    let whole := padded.length - places
    String.ofList (padded.take whole ++ '.' :: padded.drop whole)

def text : Double → String
  | .nan => "NaN"
  | .infinite negative => if negative then "-inf" else "inf"
  | .finite negative mantissa exponent =>
    let (digits, power) := if mantissa = 0 then (0, 0) else shortest mantissa exponent
    (if negative then "-" else "") ++ plain digits power

end Double

end Mathdown.Toml
