/-
Sums and products of binary64 numbers: the exact result, rounded to the nearest number. A sum that
is zero is positive unless both zeros are negative.
-/
import Routewright.Number.Double

namespace Routewright.Double

/-- The number nearest to `± magnitude · 2 ^ exponent`. -/
def roundScaled (negative : Bool) (magnitude : Nat) (exponent : Int) : Double :=
  let q := quotient magnitude exponent
  round negative q.1 q.2

/-- `± significand · 2 ^ exponent` in units of `2 ^ unit`, for a unit up to the exponent. -/
def inUnits (negative : Bool) (significand : Nat) (exponent unit : Int) : Int :=
  let n : Int := (significand * Nat.pow 2 (exponent - unit).toNat : Nat)
  if negative then -n else n

def negate : Double → Double
  | finite negative significand exponent => finite (!negative) significand exponent
  | infinite negative => infinite (!negative)
  | nan => nan

def add : Double → Double → Double
  | finite n s e, finite n' s' e' =>
    let unit := min e e'
    let sum := inUnits n s e unit + inUnits n' s' e' unit
    if sum = 0 then round (n && n') 0 1 else roundScaled (sum < 0) sum.natAbs unit
  | infinite n, infinite n' => if n = n' then infinite n else nan
  | infinite n, finite .. | finite .., infinite n => infinite n
  | _, _ => nan

def mul : Double → Double → Double
  | finite n s e, finite n' s' e' => roundScaled (n != n') (s * s') (e + e')
  | infinite n, infinite n' => infinite (n != n')
  | infinite n, finite n' s _ | finite n' s _, infinite n =>
    if s = 0 then nan else infinite (n != n')
  | _, _ => nan

end Routewright.Double
