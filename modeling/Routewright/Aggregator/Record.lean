/-
The lines of the aggregator that concern generated modules: imports of a path that ends in `routes`,
and calls `.use(x)`. Every other line is left alone.
-/
import Routewright.Text.Blank
import Routewright.Text.Word

namespace Routewright.Aggregator

/-- What a line is. -/
inductive LineKind where
  | importOf (name path : Text)
  | useOf (name : Text)
  | other
deriving DecidableEq

/-- The rest of a text after at least one blank and all further ones. -/
def skipBlanks? (t : Text) : Option Text :=
  match t with
  | [] => none
  | c :: rest => if c.isBlank then some (rest.dropWhile CodePoint.isBlank) else none

/-- The word at the start of a text, which has to have one, and the rest. -/
def takeWord? (t : Text) : Option (Text × Text) :=
  match t.takeWhile CodePoint.isWord with
  | [] => none
  | word => some (word, t.dropWhile CodePoint.isWord)

def isQuote (c : CodePoint) : Bool := c == '"' || c == '\''

/-- What an import path ends in. -/
def pathEnd : Text := "routes"

/-- The path before the closing quote, which a semicolon may follow. -/
def closedPath? (t : Text) : Option Text :=
  let body := (Text.dropEnd? ";" t).getD t
  match body.getLast? with
  | some quote =>
    let path := body.dropLast
    if isQuote quote ∧ Text.endsWith path pathEnd ∧ pathEnd.length < path.length then some path
    else none
  | none => none

/-- The variable and path of an import line without blanks at its ends. -/
def importOf? (line : Text) : Option (Text × Text) := do
  let rest ← Text.dropStart? "import" line
  let rest ← skipBlanks? rest
  let (name, rest) ← takeWord? rest
  let rest ← skipBlanks? rest
  let rest ← Text.dropStart? "from" rest
  let rest ← skipBlanks? rest
  match rest with
  | [] => none
  | quote :: rest => if isQuote quote then (closedPath? rest).map fun path => (name, path) else none

/-- The start of a registration. -/
def useCall : Text := ".use("

/-- The variable of a registration that a text starts with. -/
def useAt? (t : Text) : Option Text := do
  let rest ← Text.dropStart? useCall t
  let (name, rest) ← takeWord? rest
  if rest.head? = some (CodePoint.ofChar ')') then some name else none

/-- The variable of the first registration in a line. -/
def useOf? : Text → Option Text
  | [] => none
  | c :: rest =>
    match useAt? (c :: rest) with
    | some name => some name
    | none => useOf? rest

/-- What a line is, blanks at its ends aside. -/
def lineKind (line : Text) : LineKind :=
  let code := line.strip
  match importOf? code with
  | some (name, path) => .importOf name path
  | none =>
    match useOf? code with
    | some name => .useOf name
    | none => .other

/-- An import of a route module; lines are numbered from one. -/
structure ImportRecord where
  name : Text
  path : Text
  line : Nat
deriving DecidableEq

/-- A registration of a route module; lines are numbered from one. -/
structure UseRecord where
  name : Text
  line : Nat
deriving DecidableEq

/-- The records of a text's lines. -/
structure Survey where
  imports : List ImportRecord
  uses : List UseRecord

namespace Survey

/-- The records of the lines from a number on. -/
def ofLines : Nat → List Text → Survey
  | _, [] => ⟨[], []⟩
  | number, line :: rest =>
    let more := ofLines (number + 1) rest
    match lineKind line with
    | .importOf name path => { more with imports := ⟨name, path, number⟩ :: more.imports }
    | .useOf name => { more with uses := ⟨name, number⟩ :: more.uses }
    | .other => more

def ofText (t : Text) : Survey := ofLines 1 t.lines

def hasImport (s : Survey) (name : Text) : Bool := s.imports.any (·.name == name)

def hasUse (s : Survey) (name : Text) : Bool := s.uses.any (·.name == name)

/-- The line of the last import, zero if there is none. -/
def lastImportLine (s : Survey) : Nat := (s.imports.getLast?.map (·.line)).getD 0

/-- The line of the last registration, zero if there is none. -/
def lastUseLine (s : Survey) : Nat := (s.uses.getLast?.map (·.line)).getD 0

end Survey

end Routewright.Aggregator
