/-
What the command does: it reads its arguments, resolves the configuration, and generates or cleans
the project. The report holds all that can be seen of it.
-/
import Routewright.Command.Arguments
import Routewright.Config.Resolve
import Routewright.Project.Clean
import Routewright.Project.Generate

namespace Routewright.Command

/-- What is written about a run. -/
inductive Note where
  | line (t : Text)
  /-- Where in the program the run stopped. -/
  | trace
deriving DecidableEq

/-- The outcome of the command. -/
structure Report where
  status : Nat
  output : List Text
  notes : List Note
  tree : Tree

def name : Text := "apibuilder"

def version : Text := "0.3.0"

/-- What the command says about its use. -/
def usage : List Text := [
  "Usage: apibuilder [OPTIONS]",
  "",
  "Generate route modules, or remove them with --clean.",
  "",
  "  --clean, --reset    Delete generated modules and unregister them.",
  "  --root DIR          Project root. Defaults to the current directory.",
  "  --specs-dir TEXT    Directory holding route spec documents.",
  "  --output-root TEXT  Root of the generated module tree.",
  "  --aggregator TEXT   File that imports and registers every route module.",
  "  --keep-going        Process every spec even after one fails.",
  "  --quiet, -q         Suppress non-essential output.",
  "  --verbose, -v       Enable debug output.",
  "  --no-color          Disable color output.",
  "  --version           Show version and exit.",
  "  --help              Show this message and exit."]

namespace Arguments

def flags (a : Arguments) : Config.Flags where
  specsDir := a.specsDir
  outputRoot := a.outputRoot
  aggregator := a.aggregator
  failFast := if a.keepGoing then some false else none

/-- The root of the project as it is named. -/
def rootPath (a : Arguments) : FilePath := .ofText (a.root.getD ".")

def console (a : Arguments) (env : Environment) : Console :=
  .ofFlags a.noColour a.quiet a.verbose env

/-- Resolves the configuration and does the work. -/
def work (a : Arguments) (env : Environment) : Run Unit := do
  let c ← Run.ofExcept id (Config.resolve (← Run.tree) env a.rootPath a.flags)
  Run.say .debug ("Project root: " ++ c.root.toText)
  if a.cleans then discard (clean c) else discard (generate c)

end Arguments

/-- The variables of the environment that a run looks at. -/
def variableNames : List Text :=
  Text.ofString "NO_COLOR" :: Text.ofString "TERM" :: Config.failFastVariable ::
    Config.textVariables.map Prod.fst

/-- The configuration that arguments ask for, as far as a tree tells it. -/
def configOf? (env : Environment) (t : Tree) (args : List Text) : Option Config :=
  match Request.ofArguments args with
  | .ok (.run a) => (Config.resolve t env a.rootPath a.flags).toOption
  | _ => none

/-- The root that arguments name. -/
def rootOf? (args : List Text) : Option FilePath :=
  match Request.ofArguments args with
  | .ok (.run a) => some a.rootPath
  | _ => none

/-- What is said of a breakdown. -/
def breakdownText : Text := "Unexpected error"

/-- Whether arguments ask for verbose output by an option that stands alone. -/
def namesVerbose (args : List Text) : Bool := args.contains "-v" || args.contains "--verbose"

/-- The report of a run that has ended. -/
def reportOf (console : Console) (args : List Text) (verbose : Bool) :
    EStateM.Result Stop Session Unit → Report
  | .ok _ s => ⟨0, [], (console.lines s.log).map .line, s.tree⟩
  | .error stop s =>
    let (text, traced) := match stop with
      | .failure f => (f.message, verbose)
      | .breakdown _ => (breakdownText, namesVerbose args)
    ⟨Failure.exitStatus, [],
      (console.lines (s.log ++ [⟨.error, text⟩])).map .line ++ (if traced then [.trace] else []),
      s.tree⟩

/-- Runs the command on a project. The root is looked at before operands are refused. -/
def run (env : Environment) (t : Tree) (args : List Text) : Report :=
  let refused (e : UsageError) : Report := ⟨UsageError.exitStatus, [], [.line e.message], t⟩
  match Request.ofArguments args with
  | .error e => refused e
  | .ok .version => ⟨0, [name ++ " " ++ version], [], t⟩
  | .ok .help => ⟨0, usage, [], t⟩
  | .ok (.run a) =>
    match a.rootPath.fault?, t.isFile a.rootPath with
    | some .nullInPath, _ | some .surrogateInPath, _ =>
      reportOf (.ofFlags false false false env) args a.verbose
        (.error (Run.unforeseen .nullInPath) (Run.start t))
    | _, .ok true => refused (.rootIsFile a.rootPath.toText)
    | _, _ =>
      if a.operands.isEmpty then reportOf (a.console env) args a.verbose (a.work env (Run.start t))
      else refused (.unexpectedOperands a.operands)

end Routewright.Command
