/-
Moments: days of the calendar and instants on them. The calendar is the Gregorian one, counted back
to the year 1.
-/
import Routewright.Number.Text

namespace Routewright.Document

/-- A day of the calendar, or an instant of it with an offset from universal time in seconds. -/
inductive Moment where
  | day (year month day : Nat)
  | instant (year month day hour minute second micros : Nat) (offset : Option Int)
deriving DecidableEq, Inhabited

namespace Moment

/-! ## The calendar -/

def isLeap (year : Nat) : Bool := year % 4 == 0 && (year % 100 != 0 || year % 400 == 0)

/-- The number of days of a month. -/
def daysIn (year month : Nat) : Nat :=
  if month = 2 then if isLeap year then 29 else 28
  else if month = 4 ∨ month = 6 ∨ month = 9 ∨ month = 11 then 30
  else 31

/-- Whether a day is in the calendar. -/
def isDate (year month day : Nat) : Bool :=
  1 ≤ year && 1 ≤ month && month ≤ 12 && 1 ≤ day && day ≤ daysIn year month

/-- The number of a day, counted from the first one of the calendar. -/
def dayNumber (year month day : Nat) : Nat :=
  let past := year - 1
  let days := past * 365 + past / 4 - past / 100 + past / 400 + day
  (List.range (month - 1)).foldl (fun days m => days + daysIn year (m + 1)) days

/-- The seconds of a day. -/
def daySeconds : Nat := 86400

/-! ## Instants -/

/-- The microseconds from the start of the calendar to a clock time. -/
def clockMicros (year month day hour minute second micros : Nat) : Nat :=
  ((dayNumber year month day * 24 + hour) * 60 + minute) * 60000000 + second * 1000000 + micros

/-- Whether two moments are the same: two days, two clock times without an offset, or two instants
of universal time. -/
def same : Moment → Moment → Bool
  | instant y m d h mi s us (some o), instant y' m' d' h' mi' s' us' (some o') =>
    (clockMicros y m d h mi s us : Int) - o * 1000000 ==
      (clockMicros y' m' d' h' mi' s' us' : Int) - o' * 1000000
  | a, b => a == b

/-! ## The text of a moment -/

/-- A moment as messages show it. -/
def inspect : Moment → Text
  | day y m d =>
    "datetime.date(" ++ Text.join ", " ([y, m, d].map Text.ofNat) ++ ")"
  | instant y mo d h mi s us offset =>
    let tail := if us ≠ 0 then [s, us] else if s ≠ 0 then [s] else []
    let zone : List Text := match offset with
      | none => []
      | some 0 => ["tzinfo=datetime.timezone.utc"]
      | some o =>
        let delta : Text := if o < 0
          then "datetime.timedelta(days=-1, seconds=" ++ Text.ofInt (o + daySeconds) ++ ")"
          else "datetime.timedelta(seconds=" ++ Text.ofInt o ++ ")"
        ["tzinfo=datetime.timezone(" ++ delta ++ ")"]
    "datetime.datetime(" ++
      Text.join ", " (([y, mo, d, h, mi] ++ tail).map Text.ofNat ++ zone) ++ ")"

end Moment

end Routewright.Document
