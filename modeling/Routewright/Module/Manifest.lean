/-
Manifests. A manifest records what was generated for one module and version; adding the module to
the aggregator and removing it again go by the manifest alone.
-/
import Routewright.Document.Check
import Routewright.Document.Json

namespace Routewright

open Document

structure Manifest where
  module : Text
  version : Text
  variableName : Text
  importPath : Text
  /-- The module's path, relative to the project's root. -/
  modulePath : Text
  sourceSpec : Option Text
deriving DecidableEq

namespace Manifest

/-- The line that imports the module. -/
def importStatement (m : Manifest) : Text :=
  "import " ++ m.variableName ++ " from \"" ++ m.importPath ++ "\";"

/-- The line that registers the module. -/
def useStatement (m : Manifest) : Text := "  .use(" ++ m.variableName ++ ")"

def check : Check Manifest := Check.model fun es =>
  Manifest.mk
    <$> Check.required "module" Check.string es
    <*> Check.required "version" Check.string es
    <*> Check.required "variable_name" Check.string es
    <*> Check.required "import_path" Check.string es
    <*> Check.required "module_path" Check.string es
    <*> Check.field ["source_spec"] none (Check.nullable Check.string) es

/-- A manifest as a mapping. -/
def dump (m : Manifest) : Value :=
  .ofFields [
    ("module", .str m.module),
    ("version", .str m.version),
    ("variable_name", .str m.variableName),
    ("import_path", .str m.importPath),
    ("module_path", .str m.modulePath),
    ("source_spec", .ofOption .str m.sourceSpec)] []

/-! ## JSON -/

/-- An entry of the JSON text of a manifest. -/
def entryText (key : Text) (value : Text) : Text := "  " ++ key.quoted ++ ": " ++ value

/-- A manifest as JSON text, one entry a line. -/
def json (m : Manifest) : Text :=
  "\x7b\n" ++ Text.join ",\n" [
    entryText "module" m.module.quoted,
    entryText "version" m.version.quoted,
    entryText "variable_name" m.variableName.quoted,
    entryText "import_path" m.importPath.quoted,
    entryText "module_path" m.modulePath.quoted,
    entryText "source_spec" ((m.sourceSpec.map Text.quoted).getD "null")] ++ "\n\x7d"

/-- Whether a manifest has a text in a file: none of its texts holds a surrogate. -/
def isWritable (m : Manifest) : Bool :=
  !([m.module, m.version, m.variableName, m.importPath, m.modulePath, m.sourceSpec.getD []].any
    (·.any CodePoint.isSurrogate))

/-- The manifest that a JSON text holds. -/
def ofJson (t : Text) : Checked Manifest :=
  match Json.readStrict? t with
  | some v => check v
  | none => .fail .jsonInvalid

end Manifest

end Routewright
