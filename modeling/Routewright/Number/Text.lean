/-
The text of numbers. An integer is its digits. A float is its shortest decimal, written in
positions from `10 ^ -4` up to below `10 ^ 16` and with an exponent of at least two digits beyond;
in positions it always has a fraction.
-/
import Routewright.Number.Shortest
import Routewright.Text.Basic

namespace Routewright

/-- The decisions of a float format. -/
structure FloatFormat where
  /-- Positional down to the number that has this many zeros after the point. -/
  leadingZeros : Int
  /-- Positional up to this many digits before the point. -/
  wholeDigits : Int
  exponentDigits : Nat
  infinity : Text
  nan : Text

/-- How floats are written in modules and messages. -/
def FloatFormat.standard : FloatFormat where
  leadingZeros := 3
  wholeDigits := 16
  exponentDigits := 2
  infinity := "inf"
  nan := "nan"

namespace FloatFormat

def zeros (n : Nat) : Text := List.replicate n (CodePoint.ofChar '0')

/-- The exponent part, with its sign. -/
def exponentText (f : FloatFormat) (e : Int) : Text :=
  let digits := Text.ofNat e.natAbs
  "e" ++ (if e < 0 then ("-" : Text) else "+") ++ zeros (f.exponentDigits - digits.length) ++ digits

/-- The text of a positive decimal. -/
def decimalText (f : FloatFormat) (d : Decimal) : Text :=
  let digits := Text.ofNat d.digits
  let size : Int := digits.length
  let point := size + d.exponent
  if point < -f.leadingZeros ∨ f.wholeDigits < point then
    digits.take 1 ++ (if digits.length > 1 then "." ++ digits.drop 1 else []) ++
      f.exponentText (point - 1)
  else if point ≤ 0 then "0." ++ zeros (-point).toNat ++ digits
  else if size ≤ point then digits ++ zeros (point - size).toNat ++ ".0"
  else digits.take point.toNat ++ "." ++ digits.drop point.toNat

end FloatFormat

namespace Double

/-- The text of a float in a format. -/
def textIn (f : FloatFormat) : Double → Text
  | finite negative significand exponent =>
    (if negative then ("-" : Text) else []) ++
      (if significand = 0 then ("0.0" : Text) else f.decimalText (shortest significand exponent))
  | infinite negative => (if negative then ("-" : Text) else []) ++ f.infinity
  | nan => f.nan

/-- The text of a float. -/
def text (d : Double) : Text := d.textIn FloatFormat.standard

end Double

end Routewright
