/-
The aggregator file of a project, kept wired to the generated modules.
-/
import Routewright.Aggregator.Matcher
import Routewright.Project.Session

namespace Routewright.Wiring

open Aggregator

/-- The text of the aggregator, its line ends as they are. -/
def read (c : Config) : Run Text := do
  if ← Run.ask Run.unforeseen (·.isFile c.aggregatorPath) then
    let content ← Run.ask Run.unforeseen (·.read c.aggregatorPath)
    match Text.decode? content with
    | some text => return text
    | none => throw (.breakdown .notUtf8)
  else Run.fail (.noAggregator c.aggregator)

def write (c : Config) (t : Text) : Run Unit :=
  Run.write (fun e => .failure (.file (.writeAggregator c.aggregatorPath) e)) c.aggregatorPath t

/-- Adds a module to the aggregator, and says whether the file changed. -/
def add (c : Config) (m : Manifest) : Run Bool := do
  let text ← read c
  let u := upsert text m
  if u.unanchored then Run.say .warning (unanchoredWarning m.variableName)
  if u.text = text then
    Run.say .debug (m.variableName ++ " already wired in " ++ c.aggregator)
    return false
  else
    write c u.text
    if u.importAdded then
      Run.say .info ("Added import " ++ m.variableName ++ " to " ++ c.aggregator)
    if u.useAdded then
      Run.say .info ("Registered .use(" ++ m.variableName ++ ") in " ++ c.aggregator)
    return true

/-- Removes generated modules from the aggregator, and yields the records of what was removed. -/
def removeAll (c : Config) (manifests : List Manifest) : Run Removal := do
  let text ← read c
  let r := remove text (matcher (← Run.tree).cwd c manifests)
  r.imports.forM fun i => Run.say .info ("Removed import " ++ i.name ++ " (" ++ i.path ++ ")")
  r.uses.forM fun u => Run.say .info ("Removed .use(" ++ u.name ++ ")")
  if r.text ≠ text then write c r.text
  return r

end Routewright.Wiring
