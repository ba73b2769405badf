/-
Where the configuration of a run comes from: flags go before the environment, the environment before
the project's own file, and that before the standard settings.
-/
import Routewright.Config.Basic
import Routewright.Console
import Routewright.Failure
import Routewright.Text.Blank
import Routewright.Text.Case
import Routewright.Text.Utf8

namespace Routewright.Config

open Document

/-- The settings that are given by flags. -/
structure Flags where
  specsDir : Option Text := none
  outputRoot : Option Text := none
  aggregator : Option Text := none
  failFast : Option Bool := none

/-- A setting that is given by a flag. -/
def flagSetting {α : Type} (name : Text) (value : α → Value) (flag : Option α) :
    List (Text × Value) :=
  (flag.map fun a => (name, value a)).toList

def Flags.settings (f : Flags) : List (Text × Value) :=
  flagSetting "specs_dir" .str f.specsDir ++ flagSetting "output_root" .str f.outputRoot ++
    flagSetting "aggregator" .str f.aggregator ++ flagSetting "fail_fast" .bool f.failFast

/-! ## The environment -/

/-- The variables that hold a text, and the settings they give. -/
def textVariables : List (Text × Text) := [
  ("APIBUILDER_SPECS_DIR", "specs_dir"), ("APIBUILDER_OUTPUT_ROOT", "output_root"),
  ("APIBUILDER_AGGREGATOR", "aggregator")]

/-- The value of a variable that is set and not empty. -/
def setVariable? (env : Environment) (name : Text) : Option Text :=
  (env.lookup name).filter fun value => !value.isEmpty

def trueWords : List Text := ["1", "true", "yes", "on"]

def falseWords : List Text := ["0", "false", "no", "off"]

/-- The truth value that a variable's value writes, blanks at its ends and case aside. -/
def truth? (value : Text) : Option Bool :=
  let word := value.strip.lower
  if trueWords.contains word then some true
  else if falseWords.contains word then some false
  else none

/-- The settings that an environment gives. -/
def environmentSettings (env : Environment) : Except ConfigError (List (Text × Value)) :=
  let texts := textVariables.filterMap fun v =>
    (setVariable? env v.1).map fun value => (v.2, Value.str value)
  match setVariable? env failFastVariable with
  | none => .ok texts
  | some value =>
    match truth? value with
    | some b => .ok (texts ++ [(Text.ofString "fail_fast", Value.bool b)])
    | none => .error (.notTruth value)

/-! ## The project's file -/

/-- The name of the file in which a project sets its configuration. -/
def fileName : Text := "apibuilder.json"

/-- The settings that the text of a project's file gives. -/
def settingsOfText (file : FilePath) (t : Text) : Except Stop (List (Value × Value)) :=
  match Json.read t with
  | .ok (.map entries) => .ok entries
  | .ok _ => .error (.failure (.config (.notMapping file)))
  | .error (.syntaxFault fault index) =>
    .error (.failure (.config (.invalidJson file (.locate t fault index))))
  | .error .integerTooLong => .error (.breakdown .longInteger)
  | .error .nestedTooDeep => .error (.breakdown .deepNesting)

/-- The settings of a project's file, if it has one. -/
def projectSettings (t : Tree) (root : FilePath) : Except Stop (List (Value × Value)) := do
  let file := root.child fileName
  let stop (e : FileError) : Stop := .breakdown (.file e)
  if ← (t.isFile file).mapError stop then
    match Text.decode? (← (t.read file).mapError stop) with
    | some text => settingsOfText file text.uniformLines
    | none => .error (.breakdown .notUtf8)
  else .ok []

/-! ## Resolution -/

/-- Settings over others. -/
def override (settings : List (Text × Value)) (entries : List (Value × Value)) :
    List (Value × Value) :=
  settings.foldl (fun es s => Value.insert (.str s.1) s.2 es) entries

/-- The configuration of a project, whose root is seen from the working directory. -/
def resolve (t : Tree) (env : Environment) (root : FilePath) (flags : Flags) :
    Except Stop Config := do
  let root := FilePath.resolve t.cwd root
  let project ← projectSettings t root
  let environment ← (environmentSettings env).mapError fun e => .failure (.config e)
  let settings := override [("root", .str root.toText)]
    (override flags.settings (override environment project))
  match check t.cwd (.map settings) with
  | .accepted c => .ok c
  | .refused faults => .error (.failure (.config (.invalidSettings faults)))

end Routewright.Config
