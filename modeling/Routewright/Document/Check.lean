/-
Checks of the parts of a document: strings, truth values, numbers, lists, mappings, and the fields
of a model. Numbers and truth values may also be written as strings.
-/
import Routewright.Document.Checked
import Routewright.Document.Named
import Routewright.Document.Shown
import Routewright.Text.Blank

namespace Routewright.Document

/-- A check of a value. -/
abbrev Check (α : Type) := Value → Checked α

namespace Check

variable {α : Type}

/-! ## Strings -/

/-- A byte sequence read as UTF-8. -/
def decodeBytes (bs : List Nat) : Option Text :=
  (String.fromUTF8? (ByteArray.mk (bs.map UInt8.ofNat).toArray)).map Text.ofString

def string : Check Text
  | .str t => .accepted t
  | .bytes bs =>
    match decodeBytes bs with
    | some t => .accepted t
    | none => .fail .stringUnicode
  | _ => .fail .stringType

/-- A string of scalar values that fits a pattern. -/
def stringLike (fits : Text → Bool) : Check Text := fun v =>
  match string v with
  | .refused fs => .refused fs
  | .accepted t =>
    if t.any CodePoint.isSurrogate then .fail .stringUnicode
    else if fits t then .accepted t
    else .fail .stringPatternMismatch

/-- One of a few words. -/
def literal (words : List (Text × α)) : Check α
  | .str t =>
    if t.any CodePoint.isSurrogate then .fail .stringUnicode
    else
      match words.lookup t with
      | some a => .accepted a
      | none => .fail .literalError
  | _ => .fail .literalError

/-! ## Truth values -/

def trueWords : List Text := ["1", "true", "t", "yes", "y", "on"]

def falseWords : List Text := ["0", "false", "f", "no", "n", "off"]

/-- A truth value that a word writes, in any case. -/
def boolOfText (t : Text) : Checked Bool :=
  let small := t.map CodePoint.asciiLower
  if t.any CodePoint.isSurrogate then .fail .stringUnicode
  else if trueWords.contains small then .accepted true
  else if falseWords.contains small then .accepted false
  else .fail .boolParsing

/-- The truth value that an integer stands for. -/
def boolOfInt (i : Int) : Checked Bool :=
  if i = 0 then .accepted false else if i = 1 then .accepted true else .fail .boolParsing

/-- The bound of the integers of 64 bits. -/
def wordBound : Nat := 9223372036854775808

/-- A truth value, or a number that stands for one: an integer of 64 bits, or a float that equals
one and is less in size than `wordBound`. Other numbers are of a wrong type. -/
def bool : Check Bool
  | .bool b => .accepted b
  | .int i =>
    if -(wordBound : Int) ≤ i ∧ i < (wordBound : Int) then boolOfInt i else .fail .boolType
  | .float d =>
    match d.toInt? with
    | some i => if i.natAbs < wordBound then boolOfInt i else .fail .boolType
    | none => .fail .boolType
  | .str t => boolOfText t
  | .bytes bs =>
    match decodeBytes bs with
    | some t => boolOfText t
    | none => .fail .boolParsing
  | _ => .fail .boolType

/-! ## Numbers -/

/-- Space around a number: blank, and no information separator. -/
def isNumberSpace (c : CodePoint) : Bool := c.isBlank && !(28 ≤ c.val && c.val ≤ 31)

/-- A text without single underscores that stand inside it, if it holds any and no others. -/
def dropUnderscores? (t : Text) : Option Text :=
  let groups := Text.splitOn '_' t
  if groups.length > 1 && groups.all (!·.isEmpty) then some groups.flatten else none

/-- The text before a fraction of zeros, or the whole text if no such fraction ends it. -/
def dropZeroFraction (t : Text) : Text :=
  match Text.splitOn '.' t with
  | [whole, zeros] => if !zeros.isEmpty && zeros.all (· == '0') then whole else t
  | _ => t

/-- The rest of a number from its first digit that is no zero on, after a zero or an underscore. A
hyphen counts as such a digit. Before a point, and at the end, the last code point passed over is
left. -/
def dropZerosAfter (last : CodePoint) : Text → Option Text
  | [] => some [last]
  | c :: rest =>
    if c = '0' ∨ c = '_' then dropZerosAfter c rest
    else if c.isDigit || c == '-' then some (c :: rest)
    else if c = '.' then some (last :: c :: rest)
    else none

/-- A number without the zeros, and underscores after a zero, that it starts with. -/
def dropLeadingZeros : Text → Option Text
  | [] => none
  | c :: rest =>
    if c = '0' then dropZerosAfter c rest
    else if c.isDigit || c == '-' then some (c :: rest)
    else none

/-- An integer without what is not needed to write it: blanks around it, a plus sign, leading zeros,
a fraction of zeros, and underscores. -/
def tidied? (t : Text) : Option Text :=
  let t := Text.trim isNumberSpace t
  let (negative, body) := Json.takeSign t
  if t.startsWith "+-" then none
  else do
    let body := dropZeroFraction (← dropLeadingZeros body)
    let body := (dropUnderscores? body).getD body
    some (if negative then '-' :: body else body)

/-- The integer that a text writes plainly: perhaps a minus sign, then a zero, or digits of which the
first is no zero. One that is too long is refused for that, whatever follows it. -/
def plainInt (t : Text) : Except FaultKind Int :=
  let (negative, body) := match t with
    | c :: rest => if c = '-' then (true, rest) else (false, t)
    | [] => (false, t)
  let (digits, rest) := Json.takeDigits body
  match digits with
  | [] => .error .intParsing
  | c :: more =>
    if c = '0' then if more.isEmpty && rest.isEmpty then .ok 0 else .error .intParsing
    else if t.length - rest.length > Json.maxIntegerDigits then .error .intParsingSize
    else if !rest.isEmpty then .error .intParsing
    else
      let n : Int := Text.digitsValue digits
      .ok (if negative then -n else n)

/-- The integer that a text writes, plainly or when it is tidied. -/
def intOfText (t : Text) : Checked Int :=
  if t.any CodePoint.isSurrogate then .fail .stringUnicode
  else
    match plainInt t, tidied? t with
    | .ok i, _ => .accepted i
    | .error .intParsing, some u =>
      match plainInt u with
      | .ok i => .accepted i
      | .error kind => .fail kind
    | .error kind, _ => .fail kind

def int : Check Int
  | .int i => .accepted i
  | .bool b => .accepted (if b then 1 else 0)
  | .float d =>
    match d with
    | .nan | .infinite _ => .fail .finiteNumber
    | d =>
      match d.toInt? with
      | none => .fail .intFromFloat
      | some i => if i.natAbs < wordBound then .accepted i else .fail .intParsingSize
  | .str t => intOfText t
  | .bytes bs =>
    match decodeBytes bs with
    | some t => intOfText t
    | none => .fail .intParsing
  | _ => .fail .intType

/-- The float that a run of digits, a fraction and an exponent write, with at least one digit before
or after the point and nothing left over. -/
def plainFloat? (negative : Bool) (t : Text) : Option Double :=
  let (whole, rest) := Json.takeDigits t
  let (fraction, rest) := match rest with
    | c :: rest' => if c = '.' then Json.takeDigits rest' else ([], rest)
    | [] => ([], [])
  let (exponent, rest) := Json.takeExponent rest
  if rest.isEmpty && !(whole.isEmpty && fraction.isEmpty) then
    some (Double.ofDecimal negative (Text.digitsValue (whole ++ fraction))
      (exponent.getD 0 - fraction.length))
  else none

/-- The float that a text writes. -/
def floatOfText? (t : Text) : Option Double :=
  let (negative, body) := Json.takeSign t
  let small := body.map CodePoint.asciiLower
  if small = "inf" ∨ small = "infinity" then some (.infinite negative)
  else if small = "nan" then some .nan
  else plainFloat? negative body

def floatOfString (t : Text) : Checked Double :=
  if t.any CodePoint.isSurrogate then .fail .stringUnicode
  else
    match floatOfText? (Text.trim isNumberSpace t) with
    | some d => .accepted d
    | none =>
      match (dropUnderscores? t).bind floatOfText? with
      | some d => .accepted d
      | none => .fail .floatParsing

def float : Check Double
  | .float d => .accepted d
  | .int i => .accepted (Double.ofInt i)
  | .bool b => .accepted (Double.ofInt (if b then 1 else 0))
  | .str t => floatOfString t
  | .bytes bs =>
    match decodeBytes bs with
    | some t => floatOfString t
    | none => .fail .floatParsing
  | _ => .fail .floatType

/-- An integer or a float: what is a number stays as it is, a string is an integer if it can be. -/
def number : Check Number
  | .int i => .accepted (.int i)
  | .float d => .accepted (.float d)
  | v =>
    match int v with
    | .accepted i => .accepted (.int i)
    | .refused fs =>
      match float v with
      | .accepted d => .accepted (.float d)
      | .refused gs =>
        .refused ((Checked.refused fs : Checked Number).under "int" |>.faults |>.append
          ((Checked.refused gs : Checked Number).under "float").faults)

/-! ## Lists and mappings -/

/-- Null, or what a check accepts. -/
def nullable (check : Check α) : Check (Option α)
  | .null => .accepted none
  | v => (check v).map some

/-- Checks items one after the other, each under its position. -/
def items (check : Check α) : Nat → List Value → Checked (List α)
  | _, [] => .accepted []
  | n, v :: rest => .both List.cons ((check v).under (Text.ofNat n)) (items check (n + 1) rest)

/-- A list; a set counts as the list of its items. -/
def list (check : Check α) : Check (List α)
  | .list vs => items check 0 vs
  | .set vs => items check 0 vs
  | _ => .fail .listType

/-- A key as a step of a place. -/
def keyStep : Value → Text
  | .str t => t
  | .bool b => if b then "1" else "0"
  | .int i => if isLongInteger i then "<unprintable int object>" else Text.ofInt i
  | v => v.inspect

/-- One entry of a mapping: its key is to be a string, its value to pass a check. -/
def entry (check : Check α) (key value : Value) : Checked (Text × α) :=
  .both Prod.mk (((string key).under "[key]").under (keyStep key))
    ((check value).under (keyStep key))

def entries (check : Check α) : List (Value × Value) → Checked (List (Text × α))
  | [] => .accepted []
  | (k, v) :: rest => .both List.cons (entry check k v) (entries check rest)

/-- A mapping with string keys; bytes are the string they encode. -/
def mapping (check : Check α) : Check (Named α)
  | .map es => (entries check es).map Named.ofList
  | _ => .fail .dictType

/-! ## Fields of a model -/

/-- A model: a mapping whose entries pass a check. -/
def model (check : List (Value × Value) → Checked α) : Check α
  | .map es => check es
  | _ => .fail .modelType

/-- Whether a key is a string that holds a surrogate. -/
def isUnreadableKey : Value → Bool
  | .str t => t.any CodePoint.isSurrogate
  | _ => false

/-- A model that looks at all keys of the mapping, also at those that are no field's. A key that
holds a surrogate is then the only fault. -/
def keyedModel (check : List (Value × Value) → Checked α) : Check α := model fun es =>
  if es.any fun e => isUnreadableKey e.1 then .fail .stringUnicode else check es

/-- The value under the first of some names that is there, and that name. -/
def find? (names : List Text) (es : List (Value × Value)) : Option (Text × Value) :=
  names.findSome? fun name => (Value.lookup (.str name) es).map (Prod.mk name)

/-- A field that has to be there. -/
def required (name : Text) (check : Check α) (es : List (Value × Value)) : Checked α :=
  match find? [name] es with
  | some (step, v) => (check v).under step
  | none => (Checked.fail .missing : Checked α).under name

/-- A field with a default, under the first of its names. -/
def field (names : List Text) (default : α) (check : Check α) (es : List (Value × Value)) :
    Checked α :=
  match find? names es with
  | some (step, v) => (check v).under step
  | none => .accepted default

/-- The names that fields take their values from; each field is given by its names. -/
def usedNames (fields : List (List Text)) (es : List (Value × Value)) : List Text :=
  fields.filterMap fun names => (find? names es).map Prod.fst

/-- The entries that no field takes, unchecked. Their keys have to be strings. -/
def extras (fields : List (List Text)) (es : List (Value × Value)) :
    Checked (List (Text × Value)) :=
  let used := usedNames fields es
  (Checked.all (es.map fun e =>
    match e.1 with
    | .str t => .accepted (if used.contains t then [] else [(t, e.2)])
    | k => (Checked.fail .invalidKey).under (keyStep k))).map List.flatten

/-- Refuses every entry that no field takes. -/
def noExtras (fields : List (List Text)) (es : List (Value × Value)) : Checked Unit :=
  let used := usedNames fields es
  (Checked.all (es.map fun e =>
    match e.1 with
    | .str t => if used.contains t then .accepted () else (Checked.fail .extraForbidden).under t
    | k => (Checked.fail .invalidKey).under (keyStep k))).map fun _ => ()

end Check

/-- A model as a mapping: its fields, and its extra entries, which take the place of a field of the
same name. -/
def Value.ofFields (fields extras : List (Text × Value)) : Value :=
  .ofEntries ((fields ++ extras).map fun f => (.str f.1, f.2))

/-- An optional value, null if absent. -/
def Value.ofOption {α : Type} (f : α → Value) : Option α → Value
  | some a => f a
  | none => .null

/-- A number as a value. -/
def Value.ofNumber : Number → Value
  | .int i => .int i
  | .float d => .float d

end Routewright.Document
