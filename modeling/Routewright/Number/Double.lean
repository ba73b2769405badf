/-
Binary64 numbers in exact arithmetic. A finite number is a significand times a power of two; it is
obtained by rounding a quotient of naturals to the nearest one, ties to the even significand.
-/

namespace Routewright

/-- A binary64 number. A finite one stands for `± significand · 2 ^ exponent`. -/
inductive Double where
  | finite (negative : Bool) (significand : Nat) (exponent : Int)
  | infinite (negative : Bool)
  | nan
deriving DecidableEq, Inhabited

/-- The number of bits of a significand. -/
def Double.precision : Nat := 53

/-- The exponent of the subnormal numbers. -/
def Double.minExponent : Int := -1074

/-- The exponent of the largest numbers. -/
def Double.maxExponent : Int := 971

/-- A quotient rounded to the nearest natural, ties to the even one. -/
def roundQuotient (num den : Nat) : Nat :=
  let low := num / den
  let rest := num % den
  if 2 * rest > den || (2 * rest == den && low % 2 == 1) then low + 1 else low

/-- `num / den` over `base ^ exponent`, as a quotient of naturals. -/
def scaledQuotient (num den base : Nat) (exponent : Int) : Nat × Nat :=
  match exponent with
  | .ofNat e => (num, den * Nat.pow base e)
  | .negSucc e => (num * Nat.pow base (e + 1), den)

/-- The exponent `e` with `2 ^ e ≤ num / den < 2 ^ (e + 1)`, for positive `num` and `den`. -/
def floorLog2 (num den : Nat) : Int :=
  let guess : Int := (Nat.log2 num : Int) - (Nat.log2 den : Int)
  let q := scaledQuotient num den 2 guess
  if q.2 ≤ q.1 then guess else guess - 1

namespace Double

/-- The number nearest to a quotient of naturals. -/
def round (negative : Bool) (num den : Nat) : Double :=
  if num = 0 then finite negative 0 minExponent
  else
    let exponent := max (floorLog2 num den - 52) minExponent
    let q := scaledQuotient num den 2 exponent
    let significand := roundQuotient q.1 q.2
    let (significand, exponent) :=
      if significand = Nat.pow 2 precision then (Nat.pow 2 52, exponent + 1)
      else (significand, exponent)
    if exponent > maxExponent then infinite negative else finite negative significand exponent

/-- The number nearest to `digits · 10 ^ exponent`. Exponents far out of range are decided without
forming the power. -/
def ofDecimal (negative : Bool) (digits : Nat) (exponent : Int) : Double :=
  let size : Int := (Nat.toDigits 10 digits).length
  if digits = 0 then round negative 0 1
  else if size + exponent > 320 then infinite negative
  else if size + exponent < -400 then round negative 0 1
  else
    match exponent with
    | .ofNat e => round negative (digits * Nat.pow 10 e) 1
    | .negSucc e => round negative digits (Nat.pow 10 (e + 1))

/-- The magnitude of a finite number as a quotient of naturals. -/
def quotient (significand : Nat) (exponent : Int) : Nat × Nat :=
  match exponent with
  | .ofNat e => (significand * Nat.pow 2 e, 1)
  | .negSucc e => (significand, Nat.pow 2 (e + 1))

/-- The integer that a number is, if it has no fraction. -/
def toInt? : Double → Option Int
  | finite negative significand exponent =>
    let q := quotient significand exponent
    if q.1 % q.2 = 0 then
      let n : Int := (q.1 / q.2 : Nat)
      some (if negative then -n else n)
    else none
  | _ => none

/-- The number nearest to an integer. -/
def ofInt (i : Int) : Double := round (i < 0) i.natAbs 1

/-- Equality of the numbers meant: both zeros are one number, and NaN differs from itself. -/
def equal : Double → Double → Bool
  | finite n s e, finite n' s' e' => (s == 0 && s' == 0) || (n == n' && s == s' && e == e')
  | infinite n, infinite n' => n == n'
  | _, _ => false

/-- Whether a number is the integer `i`. -/
def equalsInt (d : Double) (i : Int) : Bool := d.toInt? == some i

end Double

/-- A number of a document: an integer, or a float. -/
inductive Number where
  | int (i : Int)
  | float (d : Double)
deriving DecidableEq, Inhabited

end Routewright
