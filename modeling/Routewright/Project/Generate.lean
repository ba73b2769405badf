/-
Generating a project. Each spec document is loaded, its module written and wired into the
aggregator. A document that fails ends the run or is told and left out, as the configuration says; a
missing aggregator fails nothing.
-/
import Routewright.Project.Output
import Routewright.Project.Wiring
import Routewright.Spec.File

namespace Routewright

/-- What a run over documents has come to. -/
structure Batch where
  written : List FilePath := []
  /-- The names of the documents that failed. -/
  failed : List Text := []
  /-- Whether the aggregator was found missing. -/
  unwired : Bool := false

namespace Batch

/-- Tells the failure of a document, or stops with it. -/
def fail (c : Config) (file : FilePath) (f : Failure) (b : Batch) : Run Batch := do
  if c.failFast then Run.fail f
  else
    Run.say .error (file.name ++ ": " ++ f.message)
    return { b with failed := b.failed ++ [file.name] }

/-- Loads a document and writes its module. -/
def writeDocument (c : Config) (file : FilePath) : Run Manifest := do
  let spec ← Run.ofExcept id (Spec.load (← Run.tree) file)
  let m ← Output.writeModule c spec (some file)
  Run.say .success ("Wrote " ++ m.modulePath)
  return m

/-- Wires a written module, unless there is nothing to wire it into. -/
def wire (c : Config) (file : FilePath) (m : Manifest) (b : Batch) : Run Batch := do
  if b.unwired then return b
  match ← Run.attempt (Wiring.add c m) with
  | .ok _ => return b
  | .error (.noAggregator name) =>
    Run.say .warning ((Failure.noAggregator name).message ++ "; skipping route registration")
    return { b with unwired := true }
  | .error f => b.fail c file f

/-- One document. -/
def step (c : Config) (file : FilePath) (b : Batch) : Run Batch := do
  Run.say .progress ("Processing " ++ file.name)
  match ← Run.attempt (writeDocument c file) with
  | .error f => b.fail c file f
  | .ok m =>
    let b := { b with written := b.written ++ [c.root.child m.modulePath] }
    b.wire c file m

/-- Some documents, one after the other. -/
def run (c : Config) : Batch → List FilePath → Run Batch
  | b, [] => return b
  | b, file :: rest => do run c (← b.step c file) rest

end Batch

/-- The documents and the modules of a run. -/
structure Generated where
  processed : List FilePath
  written : List FilePath

/-- Generates the modules of all spec documents. -/
def generate (c : Config) : Run Generated := do
  match ← Run.ask Run.unforeseen (Spec.filesIn · c.specsPath c.specExtensions) with
  | [] =>
    Run.say .info ("No spec documents found in " ++ c.specsDir)
    return ⟨[], []⟩
  | documents =>
    let b ← Batch.run c {} documents
    if b.failed.isEmpty then
      Run.say .info ("Generated " ++ Text.ofNat b.written.length ++ " module(s)")
      return ⟨documents, b.written⟩
    else Run.fail (.batch b.failed documents.length)

end Routewright
