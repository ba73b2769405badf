/-
Reading YAML text, version 1.1, with the standard types. A text without a document is null.
-/
import Routewright.Document.Yaml.Value

namespace Routewright.Document.Yaml

/-- The value of a YAML text of one document. -/
def read (t : Text) : Except Refusal Value := do
  match ← Composer.document (tokens t) with
  | none => .ok .null
  | some (g, id) => valueOf g id

end Routewright.Document.Yaml
