/-
Messages of a run and how they are shown. Quiet runs drop what only informs, and only verbose ones
show what is for finding faults. Where colour is on, messages are markup.
-/
import Routewright.Console.Markup

namespace Routewright

inductive Level where
  | info
  | success
  | warning
  | error
  | debug
  | progress
deriving DecidableEq

structure Message where
  level : Level
  text : Text
deriving DecidableEq

/-- The variables of an environment. -/
abbrev Environment := List (Text × Text)

structure Console where
  colour : Bool
  quiet : Bool
  verbose : Bool

namespace Console

/-- Whether an environment rules colour out. -/
def rulesOutColour (env : Environment) : Bool :=
  (env.lookup (Text.ofString "NO_COLOR")).isSome ||
    env.lookup (Text.ofString "TERM") == some (Text.ofString "dumb")

/-- A console that has colour unless it is asked not to or the environment rules it out. -/
def ofFlags (noColour quiet verbose : Bool) (env : Environment) : Console :=
  ⟨!(noColour || rulesOutColour env), quiet, verbose⟩

/-- Whether messages of a level are shown. -/
def shows (c : Console) : Level → Bool
  | .info | .success | .progress => !c.quiet
  | .warning | .error => true
  | .debug => c.verbose

/-- What stands before the messages of a level. -/
def lead : Level → Text
  | .warning => "Warning: "
  | .error => "Error: "
  | .debug => "[debug] "
  | _ => []

/-- The mark that closes the messages of a level that are styled as a whole. -/
def closingMark : Level → Option Text
  | .success => some "[/green]"
  | .progress | .debug => some "[/dim]"
  | _ => none

/-- A message as it is shown, if it is. -/
def line? (c : Console) (m : Message) : Option Text :=
  if c.shows m.level then
    some (if c.colour then Markup.message (lead m.level) (closingMark m.level) m.text
      else lead m.level ++ m.text)
  else none

/-- The lines that messages are shown as. -/
def lines (c : Console) (ms : List Message) : List Text := ms.filterMap c.line?

end Console

end Routewright
