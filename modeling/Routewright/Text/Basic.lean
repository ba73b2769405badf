/-
Text as a list of code points. A code point may be a surrogate: a document's escapes can name one,
and everything built from the document has to carry it. The operations here are the ones the rest
of the library is written in: joining, splitting at a separator, looking for a piece, trimming and
replacing.
-/

namespace Routewright

/-- A Unicode code point, surrogates included. -/
structure CodePoint where
  val : Nat
  lt : val < 0x110000 := by omega
deriving DecidableEq

namespace CodePoint

theorem ext {a b : CodePoint} (h : a.val = b.val) : a = b := by
  cases a; cases b; simp_all

/-- The code point of a scalar value. -/
def ofChar (c : Char) : CodePoint :=
  ⟨c.toNat, by
    have h := c.valid
    simp only [UInt32.isValidChar, Nat.isValidChar] at h
    simp only [Char.toNat]
    omega⟩

instance : Coe Char CodePoint := ⟨ofChar⟩

instance : Inhabited CodePoint := ⟨ofChar 'A'⟩

@[simp] theorem ofChar_inj {a b : Char} : ofChar a = ofChar b ↔ a = b := by
  constructor
  · intro h
    have : a.toNat = b.toNat := congrArg val h
    exact Char.ext (UInt32.toNat_inj.mp this)
  · rintro rfl; rfl

/-- The code point with a number, or U+FFFD for a number past the last one. -/
def ofNat (n : Nat) : CodePoint :=
  if h : n < 0x110000 then ⟨n, h⟩ else ⟨0xfffd, by omega⟩

/-- The scalar value a code point is, if it is no surrogate. -/
def toChar? (c : CodePoint) : Option Char :=
  if h : c.val.isValidChar then some (Char.ofNatAux c.val h) else none

def isSurrogate (c : CodePoint) : Bool := 0xd800 ≤ c.val && c.val ≤ 0xdfff

/-! ## Letters and digits of ASCII -/

def isDigit (c : CodePoint) : Bool := 48 ≤ c.val && c.val ≤ 57

def isLower (c : CodePoint) : Bool := 97 ≤ c.val && c.val ≤ 122

def isUpper (c : CodePoint) : Bool := 65 ≤ c.val && c.val ≤ 90

def isLetter (c : CodePoint) : Bool := c.isLower || c.isUpper

/-- The value of a decimal digit (of any other code point, a meaningless number). -/
def digitValue (c : CodePoint) : Nat := c.val - 48

/-- The value of a hexadecimal digit. -/
def hexValue? (c : CodePoint) : Option Nat :=
  if c.isDigit then some (c.val - 48)
  else if 97 ≤ c.val && c.val ≤ 102 then some (c.val - 87)
  else if 65 ≤ c.val && c.val ≤ 70 then some (c.val - 55)
  else none

/-- Capital ASCII letters made small; everything else stays. -/
def asciiLower (c : CodePoint) : CodePoint :=
  if c.isUpper then ofNat (c.val + 32) else c

end CodePoint

/-- A text: its code points in order. -/
abbrev Text := List CodePoint

namespace Text

/-- The text of a string. -/
def ofString (s : String) : Text := s.toList.map CodePoint.ofChar

instance : Coe String Text := ⟨ofString⟩

/-- The string of a text; a surrogate, which a string cannot hold, becomes U+FFFD. -/
def asString (t : Text) : String := String.ofList (t.map fun c => c.toChar?.getD '\ufffd')

/-- The pieces in order, the separator between each two. -/
def join (separator : Text) (pieces : List Text) : Text := separator.intercalate pieces

/-- The pieces between the occurrences of a separator; one more piece than occurrences. -/
def splitOn (separator : CodePoint) : Text → List Text
  | [] => [[]]
  | c :: rest =>
    if c = separator then [] :: splitOn separator rest
    else
      match splitOn separator rest with
      | [] => [[c]]
      | piece :: pieces => (c :: piece) :: pieces

/-- The lines of a text: its pieces between line feeds. -/
def lines (t : Text) : List Text := splitOn '\n' t

/-- The text of some lines. -/
def unlines (ls : List Text) : Text := join ['\n'] ls

def startsWith (t piece : Text) : Bool := piece.isPrefixOf t

def endsWith (t piece : Text) : Bool := piece.isSuffixOf t

/-- Whether a piece occurs in a text. -/
def contains : Text → Text → Bool
  | [], piece => piece.isEmpty
  | c :: rest, piece => piece.isPrefixOf (c :: rest) || contains rest piece

/-- The text before and after the first occurrence of a piece. -/
def cut? (piece : Text) : Text → Option (Text × Text)
  | [] => if piece.isEmpty then some ([], []) else none
  | c :: rest =>
    match piece.isPrefixOf? (c :: rest) with
    | some after => some ([], after)
    | none => (cut? piece rest).map fun found => (c :: found.1, found.2)

/-- The number of occurrences of a piece that do not overlap, after skipping some code points. -/
def countAfter (piece : Text) : Nat → Text → Nat
  | _, [] => 0
  | 0, c :: rest =>
    if piece.isPrefixOf (c :: rest) then 1 + countAfter piece (piece.length - 1) rest
    else countAfter piece 0 rest
  | skip + 1, _ :: rest => countAfter piece skip rest

/-- The number of occurrences of a piece that do not overlap, counted from the left. -/
def countPiece (piece t : Text) : Nat := countAfter piece 0 t

/-- A text with the occurrences of a piece replaced that do not overlap, after skipping some code
points. -/
def replaceAfter (piece replacement : Text) : Nat → Text → Text
  | _, [] => []
  | 0, c :: rest =>
    if piece.isPrefixOf (c :: rest) then
      replacement ++ replaceAfter piece replacement (piece.length - 1) rest
    else c :: replaceAfter piece replacement 0 rest
  | skip + 1, _ :: rest => replaceAfter piece replacement skip rest

/-- A text with the occurrences of a piece replaced that do not overlap, found from the left. -/
def replaceAll (t piece replacement : Text) : Text := replaceAfter piece replacement 0 t

/-- What follows a leading piece. -/
def dropStart? (piece t : Text) : Option Text := piece.isPrefixOf? t

/-- What precedes a closing piece. -/
def dropEnd? (piece t : Text) : Option Text :=
  if piece.isSuffixOf t then some (t.take (t.length - piece.length)) else none

def trimStart (blank : CodePoint → Bool) (t : Text) : Text := t.dropWhile blank

def trimEnd (blank : CodePoint → Bool) (t : Text) : Text := (t.reverse.dropWhile blank).reverse

def trim (blank : CodePoint → Bool) (t : Text) : Text := trimEnd blank (trimStart blank t)

/-- The maximal runs of code points that are not blank. -/
def words (blank : CodePoint → Bool) (t : Text) : List Text :=
  go t []
where
  go : Text → Text → List Text
    | [], word => if word.isEmpty then [] else [word.reverse]
    | c :: rest, word =>
      if blank c then
        if word.isEmpty then go rest [] else word.reverse :: go rest []
      else go rest (c :: word)

/-- The digits of a number in base ten. -/
def ofNat (n : Nat) : Text := (Nat.toDigits 10 n).map CodePoint.ofChar

/-- An integer in base ten, with a minus sign before a negative one. -/
def ofInt : Int → Text
  | .ofNat n => ofNat n
  | .negSucc n => '-' :: ofNat (n + 1)

/-- The digits of a number in base sixteen, in small letters, padded with zeros to a width. -/
def ofHex (width n : Nat) : Text :=
  let digits := (Nat.toDigits 16 n).map CodePoint.ofChar
  List.replicate (width - digits.length) (CodePoint.ofChar '0') ++ digits

/-- The number that decimal digits write, read from the left. -/
def digitsValue (digits : Text) : Nat := digits.foldl (fun n d => n * 10 + d.digitValue) 0

/-- Order by code points, as file names are listed. -/
def le : Text → Text → Bool
  | [], _ => true
  | _ :: _, [] => false
  | a :: s, b :: t => if a.val = b.val then le s t else a.val < b.val

/-- Line ends made uniform: each pair of carriage return and line feed, and each other carriage
return, becomes one line feed. -/
def uniformLines : Text → Text
  | [] => []
  | c :: rest =>
    if c = '\r' then
      match rest with
      | [] => ['\n']
      | d :: rest' =>
        if d = '\n' then '\n' :: uniformLines rest' else '\n' :: uniformLines (d :: rest')
    else c :: uniformLines rest

end Text

end Routewright
