/-
The shortest decimal of a binary64 number: the fewest digits that read back as the number, the
nearest such decimal, and of two equally near ones the one with an even last digit.
-/
import Routewright.Number.Double

namespace Routewright

/-- `digits · 10 ^ exponent`. -/
structure Decimal where
  digits : Nat
  exponent : Int
deriving DecidableEq

namespace Decimal

/-- Zeros at the end of the digits go into the exponent. -/
def normal (fuel : Nat) (d : Decimal) : Decimal :=
  match fuel with
  | 0 => d
  | fuel + 1 =>
    if d.digits ≠ 0 ∧ d.digits % 10 = 0 then normal fuel ⟨d.digits / 10, d.exponent + 1⟩ else d

end Decimal

namespace Double

/-- The `e` with `10 ^ (e - 1) ≤ num / den < 10 ^ e`, for positive `num` and `den`. -/
def decimalSize (num den : Nat) : Int :=
  let guess : Int := ((Nat.toDigits 10 num).length : Int) - ((Nat.toDigits 10 den).length : Int)
  let q := scaledQuotient num den 10 guess
  if q.2 ≤ q.1 then guess + 1 else guess

/-- Whether a decimal reads as the positive number `significand · 2 ^ exponent`. -/
def readsAs (significand : Nat) (exponent : Int) (d : Decimal) : Bool :=
  ofDecimal false d.digits d.exponent == finite false significand exponent

/-- The nearer of the two neighbours on the grid `10 ^ unit` that read back, if one does. -/
def gridHit (significand : Nat) (exponent unit : Int) : Option Decimal :=
  let v := quotient significand exponent
  let q := scaledQuotient v.1 v.2 10 unit
  let low := q.1 / q.2
  let rest := q.1 % q.2
  let below : Decimal := ⟨low, unit⟩
  let above : Decimal := ⟨low + 1, unit⟩
  match readsAs significand exponent below, readsAs significand exponent above with
  | true, true =>
    if 2 * rest > q.2 || (2 * rest == q.2 && low % 2 == 1) then some above else some below
  | true, false => some below
  | false, true => some above
  | false, false => none

/-- The decimal with all digits of `significand · 2 ^ exponent`. -/
def exactDecimal (significand : Nat) : Int → Decimal
  | .ofNat e => ⟨significand * Nat.pow 2 e, 0⟩
  | .negSucc e => ⟨significand * Nat.pow 5 (e + 1), .negSucc e⟩

/-- The shortest decimal that reads as the positive number `significand · 2 ^ exponent`. -/
def shortest (significand : Nat) (exponent : Int) : Decimal :=
  let v := quotient significand exponent
  let size := decimalSize v.1 v.2
  let hits := (List.range 17).findSome? fun n : Nat =>
    gridHit significand exponent (size - (n + 1 : Nat))
  (hits.getD (exactDecimal significand exponent)).normal 400

end Double

end Routewright
