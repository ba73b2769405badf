/-
The tokens of JSON text, each with the index of its first code point. Reading never fails: a string
or a code point that is no token becomes a token that says what is wrong, and is reported only
where the grammar looks at it.
-/
import Routewright.Document.Value

namespace Routewright.Document.Json

/-- What is wrong at a place of a JSON text. -/
inductive Fault where
  | expectingValue
  | expectingName
  | expectingColon
  | expectingComma
  | extraData
  | unterminatedString
  | controlCharacter
  | badEscape
  | badUnicodeEscape
  | byteOrderMark
deriving DecidableEq

def Fault.message : Fault → Text
  | expectingValue => "Expecting value"
  | expectingName => "Expecting property name enclosed in double quotes"
  | expectingColon => "Expecting ':' delimiter"
  | expectingComma => "Expecting ',' delimiter"
  | extraData => "Extra data"
  | unterminatedString => "Unterminated string starting at"
  | controlCharacter => "Invalid control character at"
  | badEscape => "Invalid \\escape"
  | badUnicodeEscape => "Invalid \\uXXXX escape"
  | byteOrderMark => "Unexpected UTF-8 BOM (decode using utf-8-sig)"

/-- Why a JSON text is not read: a fault at an index, an integer with more digits than are read, or
values nested deeper than are followed. -/
inductive Refusal where
  | syntaxFault (fault : Fault) (index : Nat)
  | integerTooLong
  | nestedTooDeep
deriving DecidableEq

inductive Token where
  | openBrace
  | closeBrace
  | openBracket
  | closeBracket
  | comma
  | colon
  | str (t : Text)
  | atom (v : Value)
  /-- A number, and the length of its whole part with the sign. -/
  | number (v : Value) (length : Nat)
  /-- A string that is not well formed, and the fault in it. -/
  | badString (fault : Fault) (index : Nat)
  | longInteger
  /-- A code point that starts no token. -/
  | stray
deriving Inhabited

/-! ## Strings -/

/-- What an escape other than `\u` stands for. -/
def simpleEscape? (c : CodePoint) : Option CodePoint :=
  if c = '"' then some '"'
  else if c = '\\' then some '\\'
  else if c = '/' then some '/'
  else if c = 'b' then some '\x08'
  else if c = 'f' then some '\x0c'
  else if c = 'n' then some '\n'
  else if c = 'r' then some '\r'
  else if c = 't' then some '\t'
  else none

/-- The number that four hexadecimal digits write. -/
def fourHex? (a b c d : CodePoint) : Option Nat := do
  let a ← a.hexValue?
  let b ← b.hexValue?
  let c ← c.hexValue?
  let d ← d.hexValue?
  some (((a * 16 + b) * 16 + c) * 16 + d)

/-- A code point of a string, and whether a `\u` escape wrote it. -/
structure Piece where
  point : CodePoint
  escaped : Bool

/-- Joins each pair of escapes that name a high and a low surrogate into the code point meant. -/
def joinSurrogates : List Piece → Text
  | [] => []
  | [p] => [p.point]
  | p :: q :: rest =>
    if p.escaped ∧ q.escaped ∧ 0xd800 ≤ p.point.val ∧ p.point.val ≤ 0xdbff ∧
        0xdc00 ≤ q.point.val ∧ q.point.val ≤ 0xdfff then
      CodePoint.ofNat (0x10000 + (p.point.val - 0xd800) * 0x400 + (q.point.val - 0xdc00)) ::
        joinSurrogates rest
    else p.point :: joinSurrogates (q :: rest)

/-- The pieces of a string whose opening quote stands at `start`, read from `index` on, with the
text after the closing quote. -/
def scanString (start : Nat) : Nat → Text → Except (Fault × Nat) (List Piece × Text)
  | _, [] => .error (.unterminatedString, start)
  | index, c :: rest =>
    if c = '"' then .ok ([], rest)
    else if c = '\\' then
      match rest with
      | [] => .error (.unterminatedString, start)
      | e :: rest =>
        if e = 'u' then
          match rest with
          | h₁ :: h₂ :: h₃ :: h₄ :: rest =>
            match fourHex? h₁ h₂ h₃ h₄ with
            | none => .error (.badUnicodeEscape, index + 1)
            | some n =>
              if rest.isEmpty then .error (.badUnicodeEscape, index + 1)
              else do
                let (pieces, rest) ← scanString start (index + 6) rest
                .ok (⟨CodePoint.ofNat n, true⟩ :: pieces, rest)
          | _ => .error (.badUnicodeEscape, index + 1)
        else
          match simpleEscape? e with
          | none => .error (.badEscape, index)
          | some p => do
            let (pieces, rest) ← scanString start (index + 2) rest
            .ok (⟨p, false⟩ :: pieces, rest)
    else if c.val < 0x20 then .error (.controlCharacter, index)
    else do
      let (pieces, rest) ← scanString start (index + 1) rest
      .ok (⟨c, false⟩ :: pieces, rest)

/-! ## Numbers -/

/-- Integers of more digits than this are refused. -/
def maxIntegerDigits : Nat := 4300

/-- The leading decimal digits of a text, and the rest. -/
def takeDigits (t : Text) : Text × Text := (t.takeWhile (·.isDigit), t.dropWhile (·.isDigit))

/-- A fraction, if one with at least one digit stands here. -/
def takeFraction : Text → Text × Text
  | [] => ([], [])
  | c :: rest =>
    let digits := takeDigits rest
    if c = '.' ∧ digits.1 ≠ [] then digits else ([], c :: rest)

/-- The sign that may stand in front of digits. -/
def takeSign : Text → Bool × Text
  | [] => (false, [])
  | c :: rest =>
    if c = '-' then (true, rest) else if c = '+' then (false, rest) else (false, c :: rest)

/-- An exponent, if one with at least one digit stands here. -/
def takeExponent : Text → Option Int × Text
  | [] => (none, [])
  | c :: rest =>
    if c = 'e' ∨ c = 'E' then
      let (negative, rest') := takeSign rest
      let digits := takeDigits rest'
      if digits.1 = [] then (none, c :: rest)
      else
        let n : Int := Text.digitsValue digits.1
        (some (if negative then -n else n), digits.2)
    else (none, c :: rest)

/-- A number at the start of a text, and the rest: an integer unless a fraction or an exponent
follows. A zero is not followed by digits of the same number. -/
def scanNumber? (t : Text) : Option (Token × Text) :=
  let (negative, body) := match t with
    | c :: rest => if c = '-' then (true, rest) else (false, t)
    | [] => (false, t)
  let whole := match body with
    | c :: rest => if c = '0' then ([c], rest) else takeDigits body
    | [] => ([], [])
  if whole.1 = [] then none
  else
    let length := whole.1.length + if negative then 1 else 0
    let fraction := takeFraction whole.2
    let exponent := takeExponent fraction.2
    if fraction.1 = [] ∧ exponent.1 = none then
      if whole.1.length > maxIntegerDigits then some (.longInteger, whole.2)
      else
        let n : Int := Text.digitsValue whole.1
        some (.number (.int (if negative then -n else n)) length, whole.2)
    else
      let digits := Text.digitsValue (whole.1 ++ fraction.1)
      let d := Double.ofDecimal negative digits (exponent.1.getD 0 - fraction.1.length)
      some (.number (.float d) length, exponent.2)

/-! ## Tokens -/

/-- The words that are values. -/
def wordValues : List (Text × Value) := [
  ("null", .null), ("true", .bool true), ("false", .bool false), ("NaN", .float .nan),
  ("Infinity", .float (.infinite false)), ("-Infinity", .float (.infinite true))]

/-- A word at the start of a text, and the rest. -/
def scanWord? (t : Text) : Option (Token × Text) :=
  wordValues.findSome? fun entry =>
    (Text.dropStart? entry.1 t).map fun rest => (.atom entry.2, rest)

def isSpace (c : CodePoint) : Bool := c == ' ' || c == '\t' || c == '\n' || c == '\r'

/-- The token that starts with a code point, and the text after it. -/
def scanToken (index : Nat) (c : CodePoint) (rest : Text) : Token × Text :=
  if c = '\x7b' then (.openBrace, rest)
  else if c = '\x7d' then (.closeBrace, rest)
  else if c = '[' then (.openBracket, rest)
  else if c = ']' then (.closeBracket, rest)
  else if c = ',' then (.comma, rest)
  else if c = ':' then (.colon, rest)
  else if c = '"' then
    match scanString index (index + 1) rest with
    | .ok (pieces, rest) => (.str (joinSurrogates pieces), rest)
    | .error (fault, place) => (.badString fault place, [])
  else
    match scanWord? (c :: rest) with
    | some found => found
    | none =>
      match scanNumber? (c :: rest) with
      | some found => found
      | none => (.stray, rest)

/-- The tokens of a text that starts at an index. -/
def tokensFrom : Nat → Nat → Text → List (Token × Nat)
  | 0, _, _ => []
  | _ + 1, _, [] => []
  | fuel + 1, index, c :: rest =>
    if isSpace c then tokensFrom fuel (index + 1) rest
    else
      let (token, rest') := scanToken index c rest
      (token, index) :: tokensFrom fuel (index + (rest.length + 1 - rest'.length)) rest'

/-- The tokens of a text. Every token takes at least one code point, so the text's length bounds
their number. -/
def tokens (t : Text) : List (Token × Nat) := tokensFrom t.length 0 t

end Routewright.Document.Json
