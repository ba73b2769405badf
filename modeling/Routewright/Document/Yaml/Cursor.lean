/-
A place in YAML text: the text still ahead, and the index, line and column reached. A byte order
mark takes no column. The size of the whole text bounds every walk along it.
-/
import Routewright.Text.Basic

namespace Routewright.Document.Yaml

/-- Why a YAML text is not read. -/
inductive Refusal where
  /-- It is not well formed, or a node does not fit its type. -/
  | malformed
  /-- A scalar of a type with a range lies outside of it, or is none of the type at all. -/
  | valueOutOfRange
  | numberTooLarge
  | unknownWord
  | emptyNumber
  | notTimestamp
  /-- A timestamp is written as a mapping. -/
  | timestampMapping
  | nestedTooDeep
deriving DecidableEq

/-! ## Classes of code points -/

def isBreak (c : CodePoint) : Bool :=
  c == '\n' || c == '\r' || c.val == 0x85 || c.val == 0x2028 || c.val == 0x2029

/-- A space or a tab. -/
def isTabSpace (c : CodePoint) : Bool := c == ' ' || c == '\t'

/-- Whether the text ends here, or a code point of a class stands here. -/
def endOr (p : CodePoint → Bool) : Option CodePoint → Bool
  | none => true
  | some c => p c

/-- Whether a code point of a class stands here. -/
def isSomeOf (p : CodePoint → Bool) : Option CodePoint → Bool
  | none => false
  | some c => p c

/-- The end, a line break, or a space. -/
def endsSpaced (c : Option CodePoint) : Bool := endOr (fun c => isBreak c || c == ' ') c

/-- The end, a line break, a space, or a tab. -/
def endsBlank (c : Option CodePoint) : Bool := endOr (fun c => isBreak c || isTabSpace c) c

def endsLine (c : Option CodePoint) : Bool := endOr isBreak c

/-- A letter or digit of ASCII, a hyphen, or an underscore. -/
def isNameCode (c : CodePoint) : Bool := c.isLetter || c.isDigit || c == '-' || c == '_'

/-- What a tag's URI is made of. -/
def isUriCode (c : CodePoint) : Bool :=
  c.isLetter || c.isDigit || decide (c ∈ Text.ofString "-;/?:@&=+$,_.!~*'()[]%")

/-- What YAML text may hold. -/
def isAllowed (c : CodePoint) : Bool :=
  c == '\t' || c == '\n' || c == '\r' || (0x20 ≤ c.val && c.val ≤ 0x7e) || c.val == 0x85 ||
    (0xa0 ≤ c.val && c.val ≤ 0xd7ff) || (0xe000 ≤ c.val && c.val ≤ 0xfffd) || 0x10000 ≤ c.val

/-! ## Cursors -/

structure Cursor where
  rest : Text
  /-- The size of the whole text. -/
  size : Nat
  index : Nat
  line : Nat
  column : Nat

namespace Cursor

def ofText (t : Text) : Cursor := ⟨t, t.length, 0, 0, 0⟩

/-- The code point at a distance. -/
def peek (c : Cursor) (n : Nat) : Option CodePoint := c.rest[n]?

def next (c : Cursor) : Option CodePoint := c.rest.head?

/-- Whether a code point stands here. -/
def stands (c : Cursor) (p : CodePoint) : Bool := c.next == some p

/-- One code point on. The two code points of a line end count as one break. -/
def advance (c : Cursor) : Cursor :=
  match c.rest with
  | [] => c
  | p :: rest =>
    if isBreak p && !(p == '\r' && rest.head? == some (CodePoint.ofChar '\n')) then
      ⟨rest, c.size, c.index + 1, c.line + 1, 0⟩
    else if p.val = 0xfeff then ⟨rest, c.size, c.index + 1, c.line, c.column⟩
    else ⟨rest, c.size, c.index + 1, c.line, c.column + 1⟩

/-- Some code points on. -/
def advanceBy : Nat → Cursor → Cursor
  | 0, c => c
  | n + 1, c => advanceBy n c.advance

/-- The code points ahead that are of a class, and the place after them. -/
def takeWhile (p : CodePoint → Bool) (c : Cursor) : Text × Cursor :=
  let run := c.rest.takeWhile p
  (run, c.advanceBy run.length)

def skipWhile (p : CodePoint → Bool) (c : Cursor) : Cursor := (c.takeWhile p).2

def skipSpaces (c : Cursor) : Cursor := c.skipWhile (· == CodePoint.ofChar ' ')

/-- Past a comment, if one starts here, up to the end of its line. -/
def skipComment (c : Cursor) : Cursor :=
  if c.stands '#' then c.skipWhile fun p => !isBreak p else c

/-- The line break that stands here, as it is read, and the place after it. -/
def takeBreak (c : Cursor) : Text × Cursor :=
  match c.rest with
  | [] => ([], c)
  | p :: rest =>
    if p = '\r' ∧ rest.head? = some (CodePoint.ofChar '\n') then (['\n'], c.advanceBy 2)
    else if p.val = 0x2028 ∨ p.val = 0x2029 then ([p], c.advance)
    else if isBreak p then (['\n'], c.advance)
    else ([], c)

/-- Whether three hyphens, or three dots, stand alone here. -/
def isDocumentMark (c : Cursor) (mark : Text) : Bool :=
  c.rest.startsWith mark && endsBlank (c.peek 3)

/-- Whether a line starts here that separates documents. -/
def isSeparator (c : Cursor) : Bool := c.isDocumentMark "---" || c.isDocumentMark "..."

/-- Past spaces and a comment, up to the next line; nothing else may stand there. -/
def skipLineEnd (c : Cursor) : Except Refusal Cursor :=
  let c := c.skipSpaces.skipComment
  if endsLine c.next then .ok c.takeBreak.2 else .error .malformed

end Cursor

end Routewright.Document.Yaml
