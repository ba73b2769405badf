/-
Scalars of YAML: plain, quoted, and block ones. Each function reads the scalar that starts at a
place and gives its text and the place after it. Lines are folded: a single break is a space, of
more breaks all but the first stay.
-/
import Routewright.Document.Yaml.Cursor

namespace Routewright.Document.Yaml

namespace Cursor

/-! ## Quoted scalars -/

/-- What an escape that stands for one code point means. -/
def escapeValue? (c : CodePoint) : Option CodePoint :=
  ([('0', 0x00), ('a', 0x07), ('b', 0x08), ('t', 0x09), ('\t', 0x09), ('n', 0x0a), ('v', 0x0b),
    ('f', 0x0c), ('r', 0x0d), ('e', 0x1b), (' ', 0x20), ('"', 0x22), ('\\', 0x5c), ('/', 0x2f),
    ('N', 0x85), ('_', 0xa0), ('L', 0x2028), ('P', 0x2029)].find? fun e =>
      CodePoint.ofChar e.1 = c).map fun e => CodePoint.ofNat e.2

/-- The number of hexadecimal digits of an escape. -/
def escapeLength? (c : CodePoint) : Option Nat :=
  if c = 'x' then some 2 else if c = 'u' then some 4 else if c = 'U' then some 8 else none

/-- The number that hexadecimal digits write. -/
def hexNumber? (digits : Text) : Option Nat :=
  digits.foldlM (fun n d => d.hexValue?.map fun h => n * 16 + h) 0

/-- The line breaks of a quoted scalar, with the space around them passed over. -/
def quotedBreaks : Nat → Cursor → Except Refusal (Text × Cursor)
  | 0, _ => .error .malformed
  | fuel + 1, c =>
    if c.isSeparator then .error .malformed
    else
      let c := c.skipWhile isTabSpace
      if isSomeOf isBreak c.next then do
        let (text, c) := c.takeBreak
        let (more, c) ← quotedBreaks fuel c
        .ok (text ++ more, c)
      else .ok ([], c)

/-- The text of a folded line break that was read as `text`, before further breaks. -/
def foldBreak (text breaks : Text) : Text :=
  (if text ≠ Text.ofString "\n" then text else if breaks.isEmpty then " " else []) ++ breaks

/-- The space inside a quoted scalar. -/
def quotedSpaces (fuel : Nat) (c : Cursor) : Except Refusal (Text × Cursor) :=
  let (spaces, c) := c.takeWhile isTabSpace
  match c.next with
  | none => .error .malformed
  | some p =>
    if isBreak p then do
      let (text, c) := c.takeBreak
      let (breaks, c) ← quotedBreaks fuel c
      .ok (foldBreak text breaks, c)
    else .ok (spaces, c)

/-- An escape whose backslash has been read. -/
def escape (fuel : Nat) (c : Cursor) : Except Refusal (Text × Cursor) :=
  match c.next with
  | none => .error .malformed
  | some p =>
    match escapeValue? p, escapeLength? p with
    | some value, _ => .ok ([value], c.advance)
    | none, some length =>
      let c := c.advance
      let digits := c.rest.take length
      match if digits.length = length then hexNumber? digits else none with
      | none => .error .malformed
      | some n =>
        if n < 0x110000 then .ok ([CodePoint.ofNat n], c.advanceBy length)
        else if n < 0x80000000 then .error .valueOutOfRange
        else .error .numberTooLarge
    | none, none =>
      if isBreak p then quotedBreaks fuel c.takeBreak.2 else .error .malformed

/-- What stands for itself in every quoted scalar. -/
def isQuotedCode (p : CodePoint) : Bool :=
  !(p == '\'' || p == '"' || p == '\\' || isTabSpace p || isBreak p)

/-- A quoted scalar after its opening quote. -/
def quotedBody (double : Bool) : Nat → Cursor → Except Refusal (Text × Cursor)
  | 0, _ => .error .malformed
  | fuel + 1, c =>
    let quote : CodePoint := if double then '"' else '\''
    let (run, c) := c.takeWhile isQuotedCode
    if !double && c.stands '\'' && c.peek 1 == some (CodePoint.ofChar '\'') then do
      let (more, c) ← quotedBody double fuel (c.advanceBy 2)
      .ok (run ++ "'" ++ more, c)
    else if c.stands quote then .ok (run, c.advance)
    else if double && c.stands '\\' then do
      let (text, c) ← escape fuel c.advance
      let (more, c) ← quotedBody double fuel c
      .ok (run ++ text ++ more, c)
    else if isSomeOf (fun p => p == '\'' || p == '"' || p == '\\') c.next then do
      let (more, c') ← quotedBody double fuel c.advance
      .ok (run ++ c.rest.take 1 ++ more, c')
    else do
      let (text, c) ← quotedSpaces fuel c
      let (more, c) ← quotedBody double fuel c
      .ok (run ++ text ++ more, c)

/-- A quoted scalar. -/
def quoted (double : Bool) (c : Cursor) : Except Refusal (Text × Cursor) :=
  quotedBody double (c.size + 1) c.advance

/-! ## Plain scalars -/

/-- Whether a plain scalar ends before the first of some code points. -/
def endsPlain (inFlow : Bool) : Text → Bool
  | [] => true
  | p :: rest =>
    isTabSpace p || isBreak p ||
      (p == ':' && (endsBlank rest.head? ||
        (inFlow && isSomeOf (fun q => decide (q ∈ Text.ofString ",[]\x7b\x7d")) rest.head?))) ||
      (inFlow && decide (p ∈ Text.ofString ",?[]\x7b\x7d"))

/-- The length of the run of a plain scalar. -/
def plainLength (inFlow : Bool) : Text → Nat
  | [] => 0
  | p :: rest => if endsPlain inFlow (p :: rest) then 0 else plainLength inFlow rest + 1

/-- The line breaks inside a plain scalar, or nothing where a document ends. -/
def plainBreaks : Nat → Cursor → Option Text × Cursor
  | 0, c => (some [], c)
  | fuel + 1, c =>
    if c.stands ' ' then plainBreaks fuel c.advance
    else if isSomeOf isBreak c.next then
      let (text, c) := c.takeBreak
      if c.isSeparator then (none, c)
      else
        match plainBreaks fuel c with
        | (some more, c) => (some (text ++ more), c)
        | (none, c) => (none, c)
    else (some [], c)

/-- The space after a run of a plain scalar, as it is read between two runs, and whether a line
ended in it. -/
def plainSpaces (c : Cursor) : Text × Bool × Cursor :=
  let (spaces, c) := c.takeWhile (· == CodePoint.ofChar ' ')
  if isSomeOf isBreak c.next then
    let (text, c) := c.takeBreak
    if c.isSeparator then ([], true, c)
    else
      match plainBreaks (c.size + 1) c with
      | (none, c) => ([], true, c)
      | (some breaks, c) => (foldBreak text breaks, true, c)
  else (spaces, false, c)

/-- A plain scalar whose further lines have to be indented by `indent`: its text, whether a line
ended in the space after it, and the place after that space. -/
def plainFrom (inFlow : Bool) (indent : Int) : Nat → Text → Bool → Cursor → Text × Bool × Cursor
  | 0, _, ended, c => ([], ended, c)
  | fuel + 1, spaces, ended, c =>
    let length := if c.stands '#' then 0 else plainLength inFlow c.rest
    if length = 0 then ([], ended, c)
    else
      let run := c.rest.take length
      let (more, ended, c) := plainSpaces (c.advanceBy length)
      if more.isEmpty || c.stands '#' || (!inFlow && (c.column : Int) < indent) then
        (spaces ++ run, ended, c)
      else
        let (text, ended, c) := plainFrom inFlow indent fuel more ended c
        (spaces ++ run ++ text, ended, c)

/-- The plain scalar at a place. -/
def plain (inFlow : Bool) (indent : Int) (c : Cursor) : Text × Bool × Cursor :=
  plainFrom inFlow indent (c.size + 1) [] false c

/-! ## Block scalars -/

/-- What happens to the breaks at the end of a block scalar. -/
inductive Chomping where
  | strip
  | clip
  | keep
deriving DecidableEq

def chomping? (p : Option CodePoint) : Option Chomping :=
  if p == some (CodePoint.ofChar '+') then some .keep
  else if p == some (CodePoint.ofChar '-') then some .strip
  else none

/-- An indentation indicator; zero is none. -/
def indentIndicator (c : Cursor) : Except Refusal (Option Nat × Cursor) :=
  match c.next with
  | some p =>
    if p.isDigit then
      if p = '0' then .error .malformed else .ok (some p.digitValue, c.advance)
    else .ok (none, c)
  | none => .ok (none, c)

/-- The indicators of a block scalar, in either order. -/
def blockIndicators (c : Cursor) : Except Refusal (Chomping × Option Nat × Cursor) := do
  let (chomping, increment, c) ←
    match chomping? c.next with
    | some chomping => do
      let (increment, c) ← indentIndicator c.advance
      .ok (chomping, increment, c)
    | none => do
      let (increment, c) ← indentIndicator c
      match increment, chomping? c.next with
      | some _, some chomping => .ok (chomping, increment, c.advance)
      | _, _ => .ok (Chomping.clip, increment, c)
  if endsSpaced c.next then .ok (chomping, increment, c) else .error .malformed

/-- The breaks before a block scalar's first line, and the largest column that spaces reach. -/
def blockIndentation : Nat → Nat → Cursor → Text × Nat × Cursor
  | 0, deepest, c => ([], deepest, c)
  | fuel + 1, deepest, c =>
    if c.stands ' ' then
      let c := c.advance
      blockIndentation fuel (max deepest c.column) c
    else if isSomeOf isBreak c.next then
      let (text, c) := c.takeBreak
      let (more, deepest, c) := blockIndentation fuel deepest c
      (text ++ more, deepest, c)
    else ([], deepest, c)

/-- Past spaces up to a column. -/
def skipIndent (indent : Nat) : Nat → Cursor → Cursor
  | 0, c => c
  | fuel + 1, c => if c.column < indent ∧ c.stands ' ' then skipIndent indent fuel c.advance else c

/-- The breaks between two lines of a block scalar, up to the next line's indentation. -/
def blockBreaks (indent : Nat) : Nat → Cursor → Text × Cursor
  | 0, c => ([], c)
  | fuel + 1, c =>
    let c := skipIndent indent (indent + 1) c
    if isSomeOf isBreak c.next then
      let (text, c) := c.takeBreak
      let (more, c) := blockBreaks indent fuel c
      (text ++ more, c)
    else ([], c)

/-- What a block scalar has at its end. -/
def chomp (chomping : Chomping) (lineBreak breaks : Text) : Text :=
  match chomping with
  | .strip => []
  | .clip => lineBreak
  | .keep => lineBreak ++ breaks

/-- What stands between two lines of a block scalar. -/
def betweenLines (folded leading : Bool) (lineBreak breaks : Text) (c : Cursor) : Text :=
  if folded && lineBreak == Text.ofString "\n" && leading && !isSomeOf isTabSpace c.next then
    if breaks.isEmpty then " " else []
  else lineBreak

/-- The lines of a block scalar, after the break and breaks before them. -/
def blockLines (folded : Bool) (chomping : Chomping) (indent : Nat) :
    Nat → Text → Text → Cursor → Text × Cursor
  | 0, _, _, c => ([], c)
  | fuel + 1, lineBreak, breaks, c =>
    if c.column = indent ∧ c.next.isSome then
      let leading := !isSomeOf isTabSpace c.next
      let (line, c) := c.takeWhile fun p => !isBreak p
      let (lineBreak, c) := c.takeBreak
      let (after, c) := blockBreaks indent (c.size + 1) c
      if c.column = indent ∧ c.next.isSome then
        let (more, c') := blockLines folded chomping indent fuel lineBreak after c
        (breaks ++ line ++ betweenLines folded leading lineBreak after c ++ more, c')
      else (breaks ++ line ++ chomp chomping lineBreak after, c)
    else (chomp chomping lineBreak breaks, c)

/-- A block scalar inside a block that is indented by `parent`. -/
def block (folded : Bool) (parent : Int) (c : Cursor) : Except Refusal (Text × Cursor) := do
  let (chomping, increment, c) ← blockIndicators c.advance
  let c ← c.skipLineEnd
  let least := (max (parent + 1) 1).toNat
  let (breaks, indent, c) :=
    match increment with
    | some increment =>
      let indent := least + increment - 1
      let (breaks, c) := blockBreaks indent (c.size + 1) c
      (breaks, indent, c)
    | none =>
      let (breaks, deepest, c) := blockIndentation (c.size + 1) 0 c
      (breaks, max least deepest, c)
  .ok (blockLines folded chomping indent (c.size + 1) [] breaks c)

end Cursor

end Routewright.Document.Yaml
