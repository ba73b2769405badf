/-
Edits of the aggregator. Adding a module puts its import after the last one and its registration
after the anchor, and hands the terminator of the chain on to the new line. Removing modules deletes
their lines and hands the terminator of a deleted line back to the link above it.
-/
import Routewright.Aggregator.Record
import Routewright.Module.Manifest

namespace Routewright.Aggregator

/-! ## Adding -/

/-- What follows the lines of a text before their line feed. -/
def lineEnd (t : Text) : Text := if t.contains "\r\n" then "\r" else []

/-- What the variables of route modules have in their names. -/
def routesMark : Text := "Routes"

/-- A line that new registrations may follow. -/
def isAnchor (line : Text) : Bool := line.contains useCall && line.contains routesMark

/-- The lines before the last one with a property, that line, and the lines after it. -/
def splitLast? (p : Text → Bool) : List Text → Option (List Text × Text × List Text)
  | [] => none
  | line :: rest =>
    match splitLast? p rest with
    | some (before, last, after) => some (line :: before, last, after)
    | none => if p line then some ([], line, rest) else none

/-- Whether a line ends in a semicolon, blanks aside. -/
def isTerminated (line : Text) : Bool := line.stripEnd.endsWith ";"

/-- A line without the semicolon it ends in; blanks after it stay. -/
def dropTerminator (line : Text) : Text :=
  let code := line.stripEnd
  code.dropLast ++ line.drop code.length

/-- A line with a semicolon after its last code point that is not blank. -/
def addTerminator (line : Text) : Text :=
  let code := line.stripEnd
  code ++ ";" ++ line.drop code.length

/-- The lines with a registration after the anchor, if there is an anchor. -/
def register (statement cr : Text) (lines : List Text) : Option (List Text) :=
  (splitLast? isAnchor lines).map fun (before, anchor, after) =>
    if isTerminated anchor then
      before ++ dropTerminator anchor :: (statement ++ ";" ++ cr) :: after
    else before ++ anchor :: (statement ++ cr) :: after

/-- A text with a module added: whether its import and its registration were added, and whether it
lacks a place for the registration. -/
structure Upsert where
  text : Text
  importAdded : Bool
  useAdded : Bool
  unanchored : Bool

/-- Adds the import and the registration of a module, where they are missing. -/
def upsert (t : Text) (m : Manifest) : Upsert :=
  let survey := Survey.ofText t
  let needsImport := !survey.hasImport m.variableName
  let needsUse := !survey.hasUse m.variableName
  if !needsImport && !needsUse then ⟨t, false, false, false⟩
  else
    let cr := lineEnd t
    let lines := t.lines
    let lines :=
      if needsImport then
        lines.take survey.lastImportLine ++ (m.importStatement ++ cr) ::
          lines.drop survey.lastImportLine
      else lines
    if needsUse then
      match register m.useStatement cr lines with
      | some lines => ⟨Text.unlines lines, needsImport, true, false⟩
      | none => ⟨Text.unlines lines, needsImport, false, true⟩
    else ⟨Text.unlines lines, needsImport, false, false⟩

/-- The warning about a registration without a place. -/
def unanchoredWarning (name : Text) : Text :=
  "No '.use(..." ++ routesMark ++ ")' line to anchor " ++ name ++ "; register it by hand"

/-! ## Removing -/

/-- Whether an import is taken for a generated one. -/
abbrev ImportMatcher := ImportRecord → Bool

/-- The lines, numbered from `number` on, that are not the lines of some records. -/
def withoutLines (numbers : List Nat) : Nat → List Text → List Text
  | _, [] => []
  | number, line :: rest =>
    let more := withoutLines numbers (number + 1) rest
    if numbers.contains number then more else line :: more

/-- Whether a line continues a chain. -/
def isChainLink (line : Text) : Bool := line.stripEnd.stripStart.startsWith "."

/-- A line that takes over the terminator of the deleted line below it, if it is a link that lacks
one. -/
def takeTerminator (line : Text) : Text :=
  if isChainLink line && !isTerminated line then addTerminator line else line

/-- Deletes lines, numbered from `number` on, from the last to the first; a deleted terminator is
handed to the line above. Besides the lines that stay, it says whether the line above the first one
is handed a terminator. -/
def deleteLinks (numbers : List Nat) : Nat → List Text → List Text × Bool
  | _, [] => ([], false)
  | number, line :: rest =>
    let (kept, handed) := deleteLinks numbers (number + 1) rest
    let line := if handed then takeTerminator line else line
    if numbers.contains number then (kept, isTerminated line) else (line :: kept, false)

/-- A text with modules removed, and the records of what was removed. -/
structure Removal where
  text : Text
  imports : List ImportRecord
  uses : List UseRecord

/-- Removes the imports that a matcher accepts and the registrations of their variables. -/
def remove (t : Text) (isGenerated : ImportMatcher) : Removal :=
  let imports := (Survey.ofText t).imports.filter isGenerated
  if imports.isEmpty then ⟨t, [], []⟩
  else
    let names := imports.map (·.name)
    let lines := withoutLines (imports.map (·.line)) 1 t.lines
    let uses := (Survey.ofLines 1 lines).uses.filter fun use => names.contains use.name
    ⟨Text.unlines (deleteLinks (uses.map (·.line)) 1 lines).1, imports, uses⟩

end Routewright.Aggregator
