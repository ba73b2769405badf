/-
Spec files. The text of a file is read as YAML if its name ends so, and as JSON otherwise.
-/
import Routewright.Failure
import Routewright.Text.Blank
import Routewright.Text.Case
import Routewright.Text.Utf8

namespace Routewright.Spec

open Document

/-- What the names of YAML files end in. -/
def yamlSuffixes : List Text := [".yaml", ".yml"]

def isYaml (file : FilePath) : Bool := yamlSuffixes.contains file.suffix.lower

/-- The value of a YAML document. -/
def yamlValue (source t : Text) : Except Stop Value :=
  match Yaml.read t with
  | .ok v => .ok v
  | .error .malformed => .error (.failure (.document (.invalidYaml source)))
  | .error r => .error (.breakdown (.yaml r))

/-- The value of a JSON document. -/
def jsonValue (source t : Text) : Except Stop Value :=
  match Json.read t with
  | .ok v => .ok v
  | .error (.syntaxFault fault index) =>
    .error (.failure (.document (.invalidJson source (.locate t fault index))))
  | .error .integerTooLong => .error (.breakdown .longInteger)
  | .error .nestedTooDeep => .error (.breakdown .deepNesting)

/-- The spec that the text of a file writes. -/
def ofText (file : FilePath) (t : Text) : Except Stop Spec := do
  let source := file.toText
  if t.strip.isEmpty then .error (.failure (.document (.emptyText source)))
  else
    let v ← if isYaml file then yamlValue source t else jsonValue source t
    (ofValue source v).mapError fun e => .failure (.document e)

/-- The spec in the content of a file. -/
def ofContent (file : FilePath) (content : ByteArray) : Except Stop Spec :=
  match Text.decode? content with
  | some t => ofText file t.uniformLines
  | none => .error (.breakdown .notUtf8)

/-- What an error of reading a spec file stops with. -/
def readStop (file : FilePath) (e : FileError) : Stop :=
  if e.isReported then .failure (.file (.readSpec file) e) else .breakdown (.file e)

/-- The spec in a file of a tree. -/
def load (t : Tree) (file : FilePath) : Except Stop Spec := do
  ofContent file (← (t.read file).mapError (readStop file))

/-- Whether a file has one of some suffixes; case does not count. -/
def hasSuffix (suffixes : List Text) (file : FilePath) : Bool :=
  (suffixes.map Text.lower).contains file.suffix.lower

/-- The spec files of a directory, in order of their names; a directory that is missing has none. -/
def filesIn (t : Tree) (directory : FilePath) (extensions : List Text) :
    Except FileError (List FilePath) := do
  if ← t.isDirectory directory then
    let place ← t.locate directory
    let paths := (t.names place).map fun name => directory.append ⟨0, [name]⟩
    let files ← paths.filterM t.isFile
    .ok (files.filter (hasSuffix extensions))
  else .ok []

end Routewright.Spec
