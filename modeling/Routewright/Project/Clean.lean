/-
Cleaning a project: the output root is emptied, and the aggregator loses the lines of the generated
modules. The manifests are read before they are gone.
-/
import Routewright.Project.Output
import Routewright.Project.Wiring

namespace Routewright

/-- What a clean run has removed. -/
structure Cleaned where
  paths : List FilePath
  imports : Nat
  uses : Nat
  manifests : List Manifest

/-- A removed path as messages show it. -/
def shownBelow (root p : FilePath) : Text :=
  match p.below? root with
  | some q => q.toText
  | none => p.toText

/-- Removes the lines of generated modules, if there is an aggregator; the numbers of imports and of
registrations removed. -/
def unwire (c : Config) (manifests : List Manifest) : Run (Nat × Nat) := do
  match ← Run.attempt (Wiring.removeAll c manifests) with
  | .ok r => return (r.imports.length, r.uses.length)
  | .error (.noAggregator name) =>
    Run.say .warning ((Failure.noAggregator name).message ++ "; nothing to unregister")
    return (0, 0)
  | .error f => Run.fail f

/-- Removes all generated modules. -/
def clean (c : Config) : Run Cleaned := do
  let manifests ← Output.readManifests c
  Run.say .debug ("Found " ++ Text.ofNat manifests.length ++ " manifest(s) under " ++ c.outputRoot)
  let paths ← Output.removeAll c
  paths.forM fun p => Run.say .info ("Removed " ++ shownBelow c.root p)
  let (imports, uses) ← unwire c manifests
  Run.say .success ("Cleaned " ++ Text.ofNat paths.length ++ " path(s), " ++ Text.ofNat imports ++
    " import(s), " ++ Text.ofNat uses ++ " registration(s)")
  return ⟨paths, imports, uses, manifests⟩

end Routewright
