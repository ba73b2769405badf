/-
The arguments of the command. Long options take their value from the next argument or after an
equals sign, short ones may stand together, and of a repeated option the last value counts. The
command takes no operands.
-/
import Routewright.Text.Basic

namespace Routewright.Command

/-- An option that takes no value. -/
inductive Switch where
  | clean
  | keepGoing
  | quiet
  | verbose
  | noColour
  | version
  | help
deriving DecidableEq

/-- An option that takes a value. -/
inductive Setting where
  | root
  | specsDir
  | outputRoot
  | aggregator
deriving DecidableEq

def longSwitches : List (Text × Switch) := [
  ("--clean", .clean), ("--reset", .clean), ("--keep-going", .keepGoing), ("--quiet", .quiet),
  ("--verbose", .verbose), ("--no-color", .noColour), ("--version", .version), ("--help", .help)]

def shortSwitches : List (CodePoint × Switch) := [('q', .quiet), ('v', .verbose)]

def longSettings : List (Text × Setting) := [
  ("--root", .root), ("--specs-dir", .specsDir), ("--output-root", .outputRoot),
  ("--aggregator", .aggregator)]

/-- An option as it is given. -/
inductive Given where
  | switch (s : Switch)
  | setting (s : Setting) (value : Text)
deriving DecidableEq

/-- Why the arguments are refused. -/
inductive UsageError where
  | unknownOption (name : Text)
  | missingValue (name : Text)
  | unwantedValue (name : Text)
  | unexpectedOperands (operands : List Text)
  | rootIsFile (root : Text)
deriving DecidableEq

def UsageError.message : UsageError → Text
  | unknownOption name => "No such option: " ++ name
  | missingValue name => "Option '" ++ name ++ "' requires an argument."
  | unwantedValue name => "Option '" ++ name ++ "' does not take a value."
  | unexpectedOperands operands =>
    "Got unexpected extra arguments (" ++ Text.join " " operands ++ ")"
  | rootIsFile root => "Invalid value for '--root': Directory '" ++ root ++ "' is a file."

/-- The exit status of a command whose arguments are refused. -/
def UsageError.exitStatus : Nat := 2

/-! ## Reading -/

/-- The short options that stand together in one argument. -/
def shortOptions : Text → Except UsageError (List Given)
  | [] => .ok []
  | c :: rest =>
    match shortSwitches.lookup c with
    | some s => (shortOptions rest).map (.switch s :: ·)
    | none => .error (.unknownOption ['-', c])

/-- The name of a long option and the value after its equals sign. -/
def splitValue (arg : Text) : Text × Option Text :=
  match Text.cut? "=" arg with
  | some (name, value) => (name, some value)
  | none => (arg, none)

/-- Whether an argument is an option and no operand. -/
def isOption (arg : Text) : Bool := arg.startsWith "-" && arg.length > 1

/-- The options and the operands of arguments. -/
def options : List Text → Except UsageError (List Given × List Text)
  | [] => .ok ([], [])
  | arg :: rest =>
    if arg = Text.ofString "--" then .ok ([], rest)
    else if !isOption arg then do
      let (given, operands) ← options rest
      .ok (given, arg :: operands)
    else
      let (name, value) := splitValue arg
      match longSwitches.lookup name, longSettings.lookup name, value, rest with
      | some s, _, none, rest => do
        let (given, operands) ← options rest
        .ok (.switch s :: given, operands)
      | some _, _, some _, _ => .error (.unwantedValue name)
      | none, some s, some value, rest => do
        let (given, operands) ← options rest
        .ok (.setting s value :: given, operands)
      | none, some s, none, value :: rest => do
        let (given, operands) ← options rest
        .ok (.setting s value :: given, operands)
      | none, some _, none, [] => .error (.missingValue name)
      | none, none, _, rest =>
        if arg.startsWith "--" then .error (.unknownOption name)
        else do
          let short ← shortOptions (arg.drop 1)
          let (given, operands) ← options rest
          .ok (short ++ given, operands)
termination_by args => args.length

/-! ## Requests -/

/-- What a run is asked to do. -/
structure Arguments where
  cleans : Bool
  root : Option Text
  specsDir : Option Text
  outputRoot : Option Text
  aggregator : Option Text
  keepGoing : Bool
  quiet : Bool
  verbose : Bool
  noColour : Bool
  /-- What is no option, and has no place in a run. -/
  operands : List Text

/-- What the command is asked for. -/
inductive Request where
  | run (a : Arguments)
  | version
  | help

/-- The last value of a setting. -/
def valueOf (s : Setting) (given : List Given) : Option Text :=
  (given.reverse.findSome? fun g =>
    match g with
    | .setting s' value => if s' = s then some value else none
    | .switch _ => none)

def Arguments.ofGiven (given : List Given) (operands : List Text) : Arguments where
  cleans := given.contains (.switch .clean)
  root := valueOf .root given
  specsDir := valueOf .specsDir given
  outputRoot := valueOf .outputRoot given
  aggregator := valueOf .aggregator given
  keepGoing := given.contains (.switch .keepGoing)
  quiet := given.contains (.switch .quiet)
  verbose := given.contains (.switch .verbose)
  noColour := given.contains (.switch .noColour)
  operands

/-- The request for information that comes first, if there is one. -/
def informs : List Given → Option Request
  | [] => none
  | .switch .version :: _ => some .version
  | .switch .help :: _ => some .help
  | _ :: rest => informs rest

/-- What arguments ask for. A request for information goes before everything else. -/
def Request.ofArguments (args : List Text) : Except UsageError Request := do
  let (given, operands) ← options args
  match informs given with
  | some r => .ok r
  | none => .ok (.run (.ofGiven given operands))

end Routewright.Command
