/-
Types of YAML nodes. A plain scalar without a tag has the first type whose spelling it fits, and is
a string if it fits none.
-/
import Routewright.Document.Yaml.Cursor

namespace Routewright.Document.Yaml

/-- The type of a node. -/
inductive Tag where
  | null
  | bool
  | int
  | float
  | timestamp
  | binary
  | str
  | seq
  | map
  | set
  | omap
  | pairs
  | merge
  | value
  | unknown
deriving DecidableEq, Inhabited

namespace Tag

/-- What the full names of the standard types start with. -/
def standardSpace : Text := "tag:yaml.org,2002:"

def names : List (Text × Tag) := [
  ("null", null), ("bool", bool), ("int", int), ("float", float), ("timestamp", timestamp),
  ("binary", binary), ("str", str), ("seq", seq), ("map", map), ("set", set), ("omap", omap),
  ("pairs", pairs), ("merge", merge), ("value", value)]

/-- The type of a full name. -/
def ofName (name : Text) : Tag :=
  match Text.dropStart? standardSpace name with
  | some short => (names.lookup short).getD unknown
  | none => unknown

/-! ## Spellings -/

def boolWords : List Text := [
  "yes", "Yes", "YES", "no", "No", "NO", "true", "True", "TRUE", "false", "False", "FALSE", "on",
  "On", "ON", "off", "Off", "OFF"]

def nullWords : List Text := ["~", "null", "Null", "NULL", ""]

def isDigitOrLine (c : CodePoint) : Bool := c.isDigit || c == '_'

/-- A text without the sign it may start with. -/
def unsigned (t : Text) : Text :=
  match t with
  | [] => []
  | c :: rest => if c = '-' ∨ c = '+' then rest else t

/-- A base-60 place after the first: one digit, or two of which the first is at most 5. -/
def isSexagesimal (t : Text) : Bool :=
  match t with
  | [d] => d.isDigit
  | [d, e] => d.isDigit && d.val ≤ 53 && e.isDigit
  | _ => false

/-- A digit, and digits and underscores after it. -/
def isDigitRun (t : Text) : Bool :=
  match t with
  | [] => false
  | c :: rest => c.isDigit && rest.all isDigitOrLine

/-- The rest of a text after a piece, if it is not empty and of a class. -/
def isAfter (piece : Text) (p : CodePoint → Bool) (t : Text) : Bool :=
  match Text.dropStart? piece t with
  | some rest => !rest.isEmpty && rest.all p
  | none => false

/-- An integer: binary, octal, decimal, hexadecimal, or base 60. -/
def isInt (t : Text) : Bool :=
  let body := unsigned t
  isAfter "0b" (fun c => c == '0' || c == '1' || c == '_') body ||
    isAfter "0" (fun c => (48 ≤ c.val && c.val ≤ 55) || c == '_') body ||
    body == Text.ofString "0" ||
    isAfter "0x" (fun c => c.hexValue?.isSome || c == '_') body ||
    (match Text.splitOn ':' body with
      | head :: places => isDigitRun head && head.head? != some (CodePoint.ofChar '0') &&
        places.all isSexagesimal
      | [] => false)

/-- An exponent, which has a sign, or nothing. -/
def isExponent (t : Text) : Bool :=
  match t with
  | [] => true
  | e :: sign :: digits =>
    (e == 'e' || e == 'E') && (sign == '-' || sign == '+') && !digits.isEmpty &&
      digits.all CodePoint.isDigit
  | _ => false

/-- A fraction after the point, and an exponent. -/
def isFraction (t : Text) : Bool := isExponent (t.dropWhile isDigitOrLine)

/-- A float: with digits before the point, with digits only after it, base 60, an infinity, or no
number. -/
def isFloat (t : Text) : Bool :=
  let body := unsigned t
  let whole := body.takeWhile (· ≠ CodePoint.ofChar '.')
  let fraction := body.drop (whole.length + 1)
  let hasPoint := decide (CodePoint.ofChar '.' ∈ body)
  (hasPoint && isDigitRun whole && isFraction fraction) ||
    (t.head? == some (CodePoint.ofChar '.') && isSomeOf CodePoint.isDigit fraction.head? &&
      isFraction fraction) ||
    (hasPoint && fraction.all isDigitOrLine &&
      (match Text.splitOn ':' whole with
        | head :: place :: places => isDigitRun head && (place :: places).all isSexagesimal
        | _ => false)) ||
    body == Text.ofString ".inf" || body == Text.ofString ".Inf" || body == Text.ofString ".INF" ||
    t == Text.ofString ".nan" || t == Text.ofString ".NaN" || t == Text.ofString ".NAN"

end Tag

/-! ## Timestamps -/

/-- The parts of a timestamp. -/
structure Stamp where
  year : Nat
  month : Nat
  day : Nat
  /-- Hour, minute, second, the digits of the fraction, and the zone. -/
  time : Option (Nat × Nat × Nat × Text × Option Int)
  /-- Whether month and day have two digits each. -/
  padded : Bool

namespace Stamp

/-- Between one and some digits at the start of a text, and the rest. -/
def digits? (least most : Nat) (t : Text) : Option (Text × Text) :=
  let run := (t.take most).takeWhile CodePoint.isDigit
  if run.length < least then none else some (run, t.drop run.length)

def char? (c : CodePoint) : Text → Option Text
  | [] => none
  | d :: rest => if d = c then some rest else none

/-- The offset of a zone in seconds, or none if there is no zone. The whole text has to be used. -/
def zone? (t : Text) : Option (Option Int) :=
  let body := t.dropWhile isTabSpace
  match body with
  | [] => if t.isEmpty then some none else none
  | c :: rest =>
    if c = 'Z' then if rest.isEmpty then some (some 0) else none
    else if c = '-' ∨ c = '+' then do
      let (hours, rest) ← digits? 1 2 rest
      let minutes ←
        match rest with
        | [] => some []
        | _ => do
          let rest ← char? ':' rest
          let (minutes, rest) ← digits? 2 2 rest
          if rest.isEmpty then some minutes else none
      let offset : Int := (Text.digitsValue hours * 60 + Text.digitsValue minutes : Nat) * 60
      some (some (if c = '-' then -offset else offset))
    else none

/-- The time of a day. -/
def time? (t : Text) : Option (Nat × Nat × Nat × Text × Option Int) := do
  let rest ←
    match t with
    | [] => none
    | c :: rest =>
      if c = 'T' ∨ c = 't' then some rest
      else if isTabSpace c then some (rest.dropWhile isTabSpace)
      else none
  let (hour, rest) ← digits? 1 2 rest
  let rest ← char? ':' rest
  let (minute, rest) ← digits? 2 2 rest
  let rest ← char? ':' rest
  let (second, rest) ← digits? 2 2 rest
  let (fraction, rest) :=
    match char? '.' rest with
    | some rest => (rest.takeWhile CodePoint.isDigit, rest.dropWhile CodePoint.isDigit)
    | none => ([], rest)
  let zone ← zone? rest
  some (Text.digitsValue hour, Text.digitsValue minute, Text.digitsValue second, fraction, zone)

/-- A day, and perhaps a time of it. -/
def ofText? (t : Text) : Option Stamp := do
  let (year, rest) ← digits? 4 4 t
  let rest ← char? '-' rest
  let (month, rest) ← digits? 1 2 rest
  let rest ← char? '-' rest
  let (day, rest) ← digits? 1 2 rest
  let time ← if rest.isEmpty then some none else (time? rest).map some
  some {
    year := Text.digitsValue year
    month := Text.digitsValue month
    day := Text.digitsValue day
    time
    padded := month.length = 2 && day.length = 2 }

end Stamp

namespace Tag

/-- A timestamp; a day alone has two digits for month and day. -/
def isTimestamp (t : Text) : Bool :=
  match Stamp.ofText? t with
  | some s => s.time.isSome || s.padded
  | none => false

/-- The marks of tags, anchors and aliases. By themselves they have a type that is not standard. -/
def markWords : List Text := ["!", "&", "*"]

/-- The type of a spelling. -/
def ofSpelling (t : Text) : Tag :=
  if boolWords.contains t then bool
  else if isFloat t then float
  else if isInt t then int
  else if t == Text.ofString "<<" then merge
  else if nullWords.contains t then null
  else if isTimestamp t then timestamp
  else if t == Text.ofString "=" then value
  else if markWords.contains t then unknown
  else str

/-- The type of a plain scalar. A line break at its end does not count. -/
def ofPlain (t : Text) : Tag :=
  match Text.dropEnd? "\n" t with
  | some [] => str
  | some spelling => ofSpelling spelling
  | none => ofSpelling t

end Tag

end Routewright.Document.Yaml
