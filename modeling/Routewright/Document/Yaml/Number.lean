/-
Integers and floats of YAML. A number is read from its text with the underscores left out; places
that colons separate count in base 60.
-/
import Routewright.Document.Check
import Routewright.Document.Yaml.Cursor
import Routewright.Number.Arithmetic
import Routewright.Text.Case
import Routewright.Text.Digit

namespace Routewright.Document.Yaml

/-- A text without its underscores. -/
def dropUnderscores (t : Text) : Text := t.filter (· ≠ CodePoint.ofChar '_')

/-- A number's text without blanks at its ends, its digits those of ASCII. -/
def plainDigits (t : Text) : Text := (Text.trim CodePoint.isBlank t).map CodePoint.asciiDigit

/-! ## Integers -/

/-- The letter that may follow a zero to name a base. -/
def baseLetter (base : Nat) : Option CodePoint :=
  if base = 2 then some 'b' else if base = 8 then some 'o' else if base = 16 then some 'x' else none

/-- A text without the zero and the letter that name its base. -/
def dropBase (base : Nat) (t : Text) : Text :=
  match t with
  | zero :: letter :: rest =>
    if zero = '0' ∧ some letter.asciiLower = baseLetter base then rest else t
  | _ => t

/-- The number that digits of a base write. Only in bases that are no power of two is their number
limited. -/
def digitsIn? (base : Nat) (digits : Text) : Option Nat :=
  if digits.isEmpty ∨ (base = 10 ∧ digits.length > Json.maxIntegerDigits) then none
  else
    digits.foldlM (fun n d =>
      match d.hexValue? with
      | some h => if h < base then some (n * base + h) else none
      | none => none) 0

/-- The integer that a text writes in a base, with a sign and blanks at its ends. -/
def integerIn (base : Nat) (t : Text) : Except Refusal Int :=
  let (negative, body) := Json.takeSign (plainDigits t)
  match digitsIn? base (dropBase base body) with
  | some n => .ok (if negative then -(n : Int) else n)
  | none => .error .valueOutOfRange

/-- A sign, and the text after it. An empty text is refused. -/
def signed (t : Text) : Except Refusal (Bool × Text) :=
  if t.isEmpty then .error .emptyNumber else .ok (Json.takeSign t)

/-- An integer without a sign: its first code points choose the base. -/
def unsignedInteger (t : Text) : Except Refusal Int :=
  match t with
  | [] => .error .emptyNumber
  | c :: rest =>
    if t.startsWith "0b" then integerIn 2 (t.drop 2)
    else if t.startsWith "0x" then integerIn 16 (t.drop 2)
    else if c = '0' then if rest.isEmpty then .ok 0 else integerIn 8 t
    else do
      let places ← (Text.splitOn ':' t).mapM (integerIn 10)
      .ok (places.foldl (fun n place => n * 60 + place) 0)

def integer (t : Text) : Except Refusal Int := do
  let (negative, body) ← signed (dropUnderscores t)
  let n ← unsignedInteger body
  .ok (if negative then -n else n)

/-! ## Floats -/

/-- The float that a text writes, with a sign and blanks at its ends. -/
def floatPlace (t : Text) : Except Refusal Double :=
  match Check.floatOfText? (plainDigits t) with
  | some d => .ok d
  | none => .error .valueOutOfRange

/-- The sum of places in base 60, the last of which counts `unit`. They are added from the last one
on, each sum rounded. -/
def sumPlaces (sum : Double) (unit : Nat) : List Double → Except Refusal Double
  | [] => .ok sum
  | place :: rest =>
    match Double.ofInt unit with
    | .finite n s e => sumPlaces (sum.add (place.mul (.finite n s e))) (unit * 60) rest
    | _ => .error .numberTooLarge

/-- The word for what is no number. -/
def nanWord : Text := ".nan"

/-- A float without a sign. -/
def unsignedFloat (t : Text) : Except Refusal Double :=
  if t = Text.ofString ".inf" then .ok (.infinite false)
  else if t = nanWord then .ok .nan
  else if t.contains ":" then do
    let places ← (Text.splitOn ':' t).mapM floatPlace
    sumPlaces (Double.ofInt 0) 1 places.reverse
  else floatPlace t

def float (t : Text) : Except Refusal Double := do
  let (negative, body) ← signed (dropUnderscores t).lower
  let d ← unsignedFloat body
  .ok (if negative then d.negate else d)

/-- Whether a float is written as the word for what is no number. -/
def isNanWord (t : Text) : Bool := (Json.takeSign (dropUnderscores t).lower).2 == nanWord

end Routewright.Document.Yaml
