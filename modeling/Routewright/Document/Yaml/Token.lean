/-
The tokens of YAML text. Blocks are delimited by their indentation, and a mapping's key is known as
one only when its colon is reached: the place of a possible key is kept until then, for one line and
1024 code points at most. A token is given out as soon as it is known not to be such a key. Where
the text cannot be read on, the last token says why; it counts only for a reader that comes so far.
-/
import Routewright.Document.Json.Token
import Routewright.Document.Yaml.Scalar

namespace Routewright.Document.Yaml

/-- A directive in front of a document. -/
inductive Directive where
  | version (major : Nat)
  | tagHandle (handle target : Text)
  | other
deriving DecidableEq

inductive Token where
  | directive (d : Directive)
  | documentStart
  | documentEnd
  | streamEnd
  | blockSequenceStart
  | blockMappingStart
  | blockEnd
  | flowSequenceStart
  | flowSequenceEnd
  | flowMappingStart
  | flowMappingEnd
  | blockEntry
  | flowEntry
  | key
  | value
  | alias (name : Text)
  | anchor (name : Text)
  | tag (handle : Option Text) (suffix : Text)
  | scalar (text : Text) (plain : Bool)
  /-- The text cannot be read on. -/
  | refused (r : Refusal)
deriving DecidableEq

/-- Whether a token starts a sequence or a mapping. -/
def Token.startsCollection : Token → Bool
  | blockSequenceStart | blockMappingStart | flowSequenceStart | flowMappingStart | blockEntry =>
    true
  | _ => false

/-! ## Names, tags and directives -/

namespace Cursor

/-- The name of an anchor or alias whose mark has been read. -/
def anchorName (c : Cursor) : Except Refusal (Text × Cursor) :=
  let (name, c) := c.takeWhile isNameCode
  let ends := endsBlank c.next ||
    isSomeOf (fun p => decide (p ∈ Text.ofString "?:,]\x7d%@\x60")) c.next
  if name.isEmpty || !ends then .error .malformed else .ok (name, c)

/-- The bytes that percent escapes write. -/
def uriBytes : Nat → Cursor → Except Refusal (List UInt8 × Cursor)
  | 0, _ => .error .malformed
  | fuel + 1, c =>
    if c.stands '%' then
      let digits := (c.rest.drop 1).take 2
      match if digits.length = 2 then hexNumber? digits else none with
      | none => .error .malformed
      | some n => do
        let (more, c) ← uriBytes fuel (c.advanceBy 3)
        .ok (UInt8.ofNat n :: more, c)
    else .ok ([], c)

/-- A tag's URI; its percent escapes are UTF-8. -/
def uriFrom : Nat → Cursor → Except Refusal (Text × Cursor)
  | 0, _ => .error .malformed
  | fuel + 1, c =>
    let (run, c) := c.takeWhile fun p => isUriCode p && p != '%'
    if c.stands '%' then do
      let (bytes, c) ← uriBytes (c.size + 1) c
      match String.fromUTF8? (ByteArray.mk bytes.toArray) with
      | none => .error .malformed
      | some s => do
        let (more, c) ← uriFrom fuel c
        .ok (run ++ Text.ofString s ++ more, c)
    else .ok (run, c)

def uri (c : Cursor) : Except Refusal (Text × Cursor) := do
  let (text, c) ← uriFrom (c.size + 1) c
  if text.isEmpty then .error .malformed else .ok (text, c)

/-- A tag handle: `!`, `!!`, or `!name!`. -/
def tagHandle (c : Cursor) : Except Refusal (Text × Cursor) :=
  if !c.stands '!' then .error .malformed
  else
    let (name, after) := c.advance.takeWhile isNameCode
    if c.peek 1 == some (CodePoint.ofChar ' ') then .ok ("!", c.advance)
    else if after.stands '!' then .ok ('!' :: (name ++ "!"), after.advance)
    else .error .malformed

/-- Whether a tag's first word has a second exclamation mark. -/
def hasHandle (c : Cursor) : Bool :=
  (c.rest.drop 1).takeWhile (fun p => !(isBreak p || p == ' ')) |>.any (· == CodePoint.ofChar '!')

/-- A tag, written out, with a handle, or bare. -/
def tag (c : Cursor) : Except Refusal (Token × Cursor) := do
  let (token, c) ←
    if c.peek 1 == some (CodePoint.ofChar '<') then do
      let (text, c) ← uri (c.advanceBy 2)
      if c.stands '>' then .ok (Token.tag none text, c.advance) else .error .malformed
    else if endsBlank (c.peek 1) then .ok (Token.tag none "!", c.advance)
    else do
      let (handle, c) ← if c.hasHandle then tagHandle c else .ok (Text.ofString "!", c.advance)
      let (text, c) ← uri c
      .ok (Token.tag (some handle) text, c)
  if endsSpaced c.next then .ok (token, c) else .error .malformed

/-- A number in the version of a directive. -/
def versionNumber (c : Cursor) : Except Refusal (Nat × Cursor) :=
  let (digits, c) := c.takeWhile CodePoint.isDigit
  if digits.isEmpty then .error .malformed
  else if digits.length > Json.maxIntegerDigits then .error .valueOutOfRange
  else .ok (Text.digitsValue digits, c)

/-- The directive at a place. -/
def directive (c : Cursor) : Except Refusal (Directive × Cursor) := do
  let (name, c) := c.advance.takeWhile isNameCode
  if name.isEmpty || !endsSpaced c.next then .error .malformed
  else
    let (d, c) ←
      if name = "YAML" then do
        let (major, c) ← versionNumber c.skipSpaces
        if !c.stands '.' then .error .malformed
        else
          let (_, c) ← versionNumber c.advance
          if endsSpaced c.next then .ok (Directive.version major, c) else .error .malformed
      else if name = "TAG" then do
        let (handle, c) ← tagHandle c.skipSpaces
        if !c.stands ' ' then .error .malformed
        else
          let (target, c) ← uri c.skipSpaces
          if endsSpaced c.next then .ok (Directive.tagHandle handle target, c)
          else .error .malformed
      else .ok (Directive.other, c.skipWhile fun p => !isBreak p)
    let c ← c.skipLineEnd
    .ok (d, c)

end Cursor

/-! ## The scanner -/

/-- A place where a key may have started, and the number of tokens before it. A required one has to
turn out to be a key. -/
structure PossibleKey where
  number : Nat
  required : Bool
  index : Nat
  line : Nat
  column : Nat

/-- The scanner: the place reached, the depth of flow collections, the columns of the open blocks
(innermost first), how many tokens were given out and those that still wait, the possible key of
each flow depth, and whether a key may start here. -/
structure Scanner where
  cursor : Cursor
  depth : Nat
  indents : List Nat
  given : Nat
  waiting : Array Token
  keys : List (Nat × PossibleKey)
  allowsKey : Bool
  done : Bool

namespace Scanner

def ofText (t : Text) : Scanner := ⟨.ofText t, 0, [], 0, #[], [], true, false⟩

/-- The column of the innermost open block, or -1. -/
def indent (s : Scanner) : Int :=
  match s.indents with
  | [] => -1
  | column :: _ => column

def emit (t : Token) (s : Scanner) : Scanner := { s with waiting := s.waiting.push t }

def moveTo (c : Cursor) (s : Scanner) : Scanner := { s with cursor := c }

/-- Closes the blocks that are indented more than a column. -/
def unwind (column : Int) (s : Scanner) : Scanner :=
  if s.depth ≠ 0 then s
  else
    let closed := s.indents.takeWhile fun indent : Nat => decide (column < (indent : Int))
    { s with
      indents := s.indents.drop closed.length
      waiting := s.waiting ++ Array.replicate closed.length Token.blockEnd }

/-- Forgets the possible key of this depth. -/
def dropKey (s : Scanner) : Except Refusal Scanner :=
  match s.keys.lookup s.depth with
  | some key =>
    if key.required then .error .malformed
    else .ok { s with keys := s.keys.filter (·.1 ≠ s.depth) }
  | none => .ok s

/-- Notes that a key may start here. -/
def saveKey (s : Scanner) : Except Refusal Scanner :=
  if !s.allowsKey then .ok s
  else do
    let c := s.cursor
    let required := s.depth == 0 && s.indent == (c.column : Int)
    let s ← s.dropKey
    let number := s.given + s.waiting.size
    .ok { s with keys := (s.depth, ⟨number, required, c.index, c.line, c.column⟩) :: s.keys }

/-- Forgets the possible keys that are too far back. -/
def dropStale (s : Scanner) : Except Refusal Scanner :=
  let stale (key : PossibleKey) : Bool :=
    key.line != s.cursor.line || s.cursor.index - key.index > 1024
  if s.keys.any fun k => stale k.2 && k.2.required then .error .malformed
  else .ok { s with keys := s.keys.filter fun k => !stale k.2 }

/-- Opens a block at a column, if it is indented more than the innermost one. -/
def openBlock (column : Nat) (start : Token) (s : Scanner) : Scanner :=
  if s.indent < (column : Int) then { s.emit start with indents := column :: s.indents } else s

/-- Past space, comments and line breaks; after a break a key may start, unless in a flow
collection. -/
def skipToToken : Nat → Scanner → Scanner
  | 0, s => s
  | fuel + 1, s =>
    let c := s.cursor.skipSpaces.skipComment
    if isSomeOf isBreak c.next then
      skipToToken fuel { s with cursor := c.takeBreak.2, allowsKey := s.allowsKey || s.depth == 0 }
    else s.moveTo c

/-! ## Tokens -/

def streamEnd (s : Scanner) : Except Refusal Scanner := do
  let s ← (s.unwind (-1)).dropKey
  .ok { s.emit .streamEnd with allowsKey := false, keys := [], done := true }

def directive (s : Scanner) : Except Refusal Scanner := do
  let s ← (s.unwind (-1)).dropKey
  let (d, c) ← s.cursor.directive
  .ok { (s.emit (.directive d)).moveTo c with allowsKey := false }

def documentMark (t : Token) (s : Scanner) : Except Refusal Scanner := do
  let s ← (s.unwind (-1)).dropKey
  .ok { (s.emit t).moveTo (s.cursor.advanceBy 3) with allowsKey := false }

def flowStart (t : Token) (s : Scanner) : Except Refusal Scanner := do
  let s ← s.saveKey
  .ok { (s.emit t).moveTo s.cursor.advance with depth := s.depth + 1, allowsKey := true }

def flowEnd (t : Token) (s : Scanner) : Except Refusal Scanner := do
  let s ← s.dropKey
  if s.depth = 0 then .error .malformed
  else .ok { (s.emit t).moveTo s.cursor.advance with depth := s.depth - 1, allowsKey := false }

def flowEntry (s : Scanner) : Except Refusal Scanner := do
  let s ← s.dropKey
  .ok { (s.emit .flowEntry).moveTo s.cursor.advance with allowsKey := true }

def blockEntry (s : Scanner) : Except Refusal Scanner :=
  if s.depth = 0 ∧ !s.allowsKey then .error .malformed
  else do
    let s := if s.depth = 0 then s.openBlock s.cursor.column .blockSequenceStart else s
    let s ← s.dropKey
    .ok { (s.emit .blockEntry).moveTo s.cursor.advance with allowsKey := true }

def explicitKey (s : Scanner) : Except Refusal Scanner :=
  if s.depth = 0 ∧ !s.allowsKey then .error .malformed
  else do
    let s := if s.depth = 0 then s.openBlock s.cursor.column .blockMappingStart else s
    let s ← s.dropKey
    .ok { (s.emit .key).moveTo s.cursor.advance with allowsKey := s.depth == 0 }

/-- Puts tokens in front of the waiting token with a number. -/
def insertAt (number : Nat) (new : List Token) (s : Scanner) : Scanner :=
  let place := number - s.given
  { s with
    waiting :=
      s.waiting.extract 0 place ++ new.toArray ++ s.waiting.extract place s.waiting.size }

def value (s : Scanner) : Except Refusal Scanner :=
  match s.keys.lookup s.depth with
  | some key =>
    let s := { s with keys := s.keys.filter (·.1 ≠ s.depth) }
    let s :=
      if s.depth = 0 ∧ s.indent < (key.column : Int) then
        { s.insertAt key.number [.blockMappingStart, .key] with indents := key.column :: s.indents }
      else s.insertAt key.number [.key]
    .ok { (s.emit .value).moveTo s.cursor.advance with allowsKey := false }
  | none =>
    if s.depth = 0 ∧ !s.allowsKey then .error .malformed
    else do
      let s := if s.depth = 0 then s.openBlock s.cursor.column .blockMappingStart else s
      let s ← s.dropKey
      .ok { (s.emit .value).moveTo s.cursor.advance with allowsKey := s.depth == 0 }

/-- A token that may start a key and is read by a function. -/
def keyed (scan : Cursor → Except Refusal (Token × Cursor)) (s : Scanner) :
    Except Refusal Scanner := do
  let s ← s.saveKey
  let (t, c) ← scan s.cursor
  .ok { (s.emit t).moveTo c with allowsKey := false }

def blockScalar (folded : Bool) (s : Scanner) : Except Refusal Scanner := do
  let s ← s.dropKey
  let (text, c) ← s.cursor.block folded s.indent
  .ok { (s.emit (.scalar text false)).moveTo c with allowsKey := true }

def quotedScalar (double : Bool) (s : Scanner) : Except Refusal Scanner :=
  s.keyed fun c => do
    let (text, c) ← c.quoted double
    .ok (.scalar text false, c)

def plainScalar (s : Scanner) : Except Refusal Scanner := do
  let s ← s.saveKey
  let (text, ended, c) := s.cursor.plain (s.depth ≠ 0) (s.indent + 1)
  .ok { (s.emit (.scalar text true)).moveTo c with allowsKey := ended }

/-- Whether a plain scalar may start here. -/
def startsPlain (s : Scanner) : Bool :=
  match s.cursor.next with
  | none => false
  | some p =>
    if isBreak p || isTabSpace p then false
    else if p == '-' then !endsBlank (s.cursor.peek 1)
    else if p == '?' || p == ':' then s.depth == 0 && !endsBlank (s.cursor.peek 1)
    else !decide (p ∈ Text.ofString ",[]\x7b\x7d#&*!|>'\"%@\x60")

/-- The next token. -/
def step (s : Scanner) : Except Refusal Scanner := do
  let s ← (skipToToken (s.cursor.size + 1) s).dropStale
  let c := s.cursor
  let s := s.unwind c.column
  match c.next with
  | none => s.streamEnd
  | some p =>
    let blankNext := endsBlank (c.peek 1)
    if p = '%' ∧ c.column = 0 then s.directive
    else if c.column = 0 ∧ c.isDocumentMark "---" then s.documentMark .documentStart
    else if c.column = 0 ∧ c.isDocumentMark "..." then s.documentMark .documentEnd
    else if p = '[' then s.flowStart .flowSequenceStart
    else if p = '\x7b' then s.flowStart .flowMappingStart
    else if p = ']' then s.flowEnd .flowSequenceEnd
    else if p = '\x7d' then s.flowEnd .flowMappingEnd
    else if p = ',' then s.flowEntry
    else if p = '-' ∧ blankNext then s.blockEntry
    else if p = '?' ∧ (s.depth ≠ 0 ∨ blankNext) then s.explicitKey
    else if p = ':' ∧ (s.depth ≠ 0 ∨ blankNext) then s.value
    else if p = '*' then s.keyed fun c => do
      let (name, c) ← c.advance.anchorName
      .ok (.alias name, c)
    else if p = '&' then s.keyed fun c => do
      let (name, c) ← c.advance.anchorName
      .ok (.anchor name, c)
    else if p = '!' then s.keyed Cursor.tag
    else if p = '|' ∧ s.depth = 0 then s.blockScalar false
    else if p = '>' ∧ s.depth = 0 then s.blockScalar true
    else if p = '\'' then s.quotedScalar false
    else if p = '"' then s.quotedScalar true
    else if s.startsPlain then s.plainScalar
    else .error .malformed

/-- Gives out the first waiting token, unless it may turn out to be a key; then, and when none waits,
the next token is read. -/
def proceed (s : Scanner) : Except Refusal (Array Token × Scanner) :=
  if s.done then .ok (s.waiting, { s with waiting := #[] })
  else
    match s.waiting[0]? with
    | none => do .ok (#[], ← s.step)
    | some t => do
      let s ← s.dropStale
      if s.keys.any fun k => k.2.number == s.given then .ok (#[], ← s.step)
      else
        let waiting := s.waiting.extract 1 s.waiting.size
        .ok (#[t], { s with given := s.given + 1, waiting })

/-- Some tokens, and all that can be given out after them. -/
def run : Nat → Array Token → Scanner → List Token
  | 0, ts, _ => (ts.push (.refused .malformed)).toList
  | fuel + 1, ts, s =>
    if s.done && s.waiting.isEmpty then ts.toList
    else
      match s.proceed with
      | .ok (more, s) => run fuel (ts ++ more) s
      | .error r => (ts.push (.refused r)).toList

end Scanner

/-- The tokens of a text. A byte order mark at its start is passed over. Each code point makes at
most four tokens, and each token is read and given out, which bounds the work. -/
def tokens (t : Text) : List Token :=
  if !t.all isAllowed then [.refused .malformed]
  else
    let s := Scanner.ofText t
    let s := if s.cursor.stands (CodePoint.ofNat 0xfeff) then s.moveTo s.cursor.advance else s
    s.run (6 * t.length + 12) #[]

end Routewright.Document.Yaml
