/-
What cannot be shown: a value that contains itself or is nested too deep, and an integer with too
many digits. Entries are looked at in order, each key before its value.
-/
import Routewright.Document.Json.Token

namespace Routewright.Document

/-- Why a value cannot be shown. -/
inductive ShowFault where
  | nestedTooDeep
  | integerTooLong
deriving DecidableEq

/-- Whether an integer has too many digits to be written. -/
def isLongInteger (i : Int) : Bool := Nat.pow 10 Json.maxIntegerDigits ≤ i.natAbs

/-- Values nested at most this deep can be shown. -/
def shownDepth : Nat := 490

namespace Value

mutual

/-- The first fault of a value that some more levels can be shown of. -/
def showFaultWithin : Nat → Value → Option ShowFault
  | _, endless => some .nestedTooDeep
  | _, int i => if isLongInteger i then some .integerTooLong else none
  | 0, list _ | 0, map _ | 0, pair .. => some .nestedTooDeep
  | levels + 1, list items => itemsFault levels items
  | levels + 1, map entries => entriesFault levels entries
  | levels + 1, pair a b => (showFaultWithin levels a).or (showFaultWithin levels b)
  | _, _ => none

def itemsFault (levels : Nat) : List Value → Option ShowFault
  | [] => none
  | v :: rest => (showFaultWithin levels v).or (itemsFault levels rest)

def entriesFault (levels : Nat) : List (Value × Value) → Option ShowFault
  | [] => none
  | (k, v) :: rest =>
    (showFaultWithin levels k).or ((showFaultWithin levels v).or (entriesFault levels rest))

end

/-- Why a value cannot be shown, if it cannot. -/
def showFault? (v : Value) : Option ShowFault := v.showFaultWithin shownDepth

end Value

end Routewright.Document
