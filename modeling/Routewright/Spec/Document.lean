/-
Route specs as documents. A document has to be a mapping with the three keys of a spec before its
parts are checked; each refusal names the source it came from.
-/
import Routewright.Document.Json
import Routewright.Spec.Route

namespace Routewright

open Document

namespace Spec

/-- Why a document is no route spec. -/
inductive DocumentError where
  | emptyText (source : Text)
  | invalidYaml (source : Text)
  | invalidJson (source : Text) (error : Json.SyntaxError)
  | notMapping (source : Text) (kind : Text)
  | missingKeys (source : Text) (keys : List Text)
  | invalidStructure (source : Text) (faults : List Fault)

def DocumentError.message : DocumentError → Text
  | emptyText source => "Spec file is empty: " ++ source
  | invalidYaml source => "Invalid YAML in " ++ source
  | invalidJson source error => "Invalid JSON in " ++ source ++ ": " ++ error.message
  | notMapping source kind => "Spec must be an object (got " ++ kind ++ "): " ++ source
  | missingKeys source keys =>
    "Spec " ++ source ++ " is missing required key(s): " ++ Text.join ", " keys
  | invalidStructure source faults =>
    "Spec " ++ source ++ " has an invalid structure: " ++ faultSummary "RouteSpec" faults

/-- The keys every spec has. -/
def requiredKeys : List Text := ["module", "version", "routes"]

/-- The spec that a decoded document is. -/
def ofValue (source : Text) (document : Value) : Except DocumentError Spec :=
  match document with
  | .map entries =>
    match requiredKeys.filter fun k => (Value.lookup (.str k) entries).isNone with
    | [] =>
      match Spec.check document with
      | .accepted spec => .ok spec
      | .refused faults => .error (.invalidStructure source faults)
    | missing => .error (.missingKeys source missing)
  | v => .error (.notMapping source v.kindName)

end Spec

end Routewright
