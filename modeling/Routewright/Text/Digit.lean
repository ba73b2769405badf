/-
Decimal digits by Unicode 14. Each script's digits are ten code points in a row, so a table of the
zeros says which code points are digits and what they are worth.
-/
import Routewright.Text.Basic

namespace Routewright

namespace CodePoint

/-- The zeros of all scripts. -/
def zeros : List Nat := [
  48, 1632, 1776, 1984, 2406, 2534, 2662, 2790, 2918, 3046, 3174, 3302, 3430, 3558, 3664, 3792,
  3872, 4160, 4240, 6112, 6160, 6470, 6608, 6784, 6800, 6992, 7088, 7232, 7248, 42528, 43216,
  43264, 43472, 43504, 43600, 44016, 65296, 66720, 68912, 69734, 69872, 69942, 70096, 70384,
  70736, 70864, 71248, 71360, 71472, 71904, 72016, 72784, 73040, 73120, 92768, 92864, 93008,
  120782, 120792, 120802, 120812, 120822, 123200, 123632, 125264, 130032]

/-- The ASCII digit of the same value; what is no digit stays. -/
def asciiDigit (c : CodePoint) : CodePoint :=
  match zeros.find? fun z => z ≤ c.val && c.val < z + 10 with
  | some z => ofNat (48 + (c.val - z))
  | none => c

end CodePoint

end Routewright
