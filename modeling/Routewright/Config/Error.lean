/-
Why a configuration is refused: its file is no JSON mapping, the environment holds no truth value
where one is asked for, or a setting has a fault.
-/
import Routewright.Document.Checked
import Routewright.Document.Json
import Routewright.FilePath

namespace Routewright

open Document

/-- The variable of the environment that says whether the first failing spec ends a run. -/
def Config.failFastVariable : Text := "APIBUILDER_FAIL_FAST"

inductive ConfigError where
  | invalidJson (file : FilePath) (error : Json.SyntaxError)
  | notMapping (file : FilePath)
  | notTruth (value : Text)
  | invalidSettings (faults : List Fault)

def ConfigError.message : ConfigError → Text
  | invalidJson file error => "Invalid project config at " ++ file.toText ++ ": " ++ error.message
  | notMapping file => "Project config at " ++ file.toText ++ " must be a JSON object"
  | notTruth value => Config.failFastVariable ++ " must be a boolean, got " ++ value.displayed
  | invalidSettings faults => "Invalid configuration: " ++ faultSummary "BuilderConfig" faults

end Routewright
