/-
The command as a program. It takes what a run looks at from the file system into a tree, runs on the
tree, and writes back what the run has changed.
-/
import Routewright.Command.Report

namespace Routewright.Program

/-! ## Reading -/

/-- A place as the file system names it. -/
def placeText (place : List Text) : String := (FilePath.toText ⟨1, place⟩).asString

/-- Takes a place into a tree, with what is below it down to a depth. -/
def take : Nat → List Text → Tree → IO Tree
  | 0, _, t => return t
  | depth + 1, place, t => do
    let path := (← IO.currentDir) / placeText place
    if ← path.isDir then
      let mut t := if place.isEmpty then t else t.put place .directory
      for e in ← path.readDir do
        t ← take depth (place ++ [Text.ofString e.fileName]) t
      return t
    else if ← path.pathExists then return t.put place (.file (← IO.FS.readBinFile path))
    else return t

/-- Takes the directories above a place into a tree. -/
def takeAbove (place : List Text) (t : Tree) : IO Tree := do
  let mut t := t
  for n in [1 : place.length] do
    let above := place.take n
    let path := (← IO.currentDir) / placeText above
    if ← path.isDir then t := t.put above .directory
    else if ← path.pathExists then t := t.put above (.file (← IO.FS.readBinFile path))
  return t

/-- Takes a path into a tree, with the directories above it and what is below it down to a depth. -/
def takePath (depth : Nat) (p : FilePath) (t : Tree) : IO Tree := do
  let place := (FilePath.resolve t.cwd p).parts
  take depth place (← takeAbove place t)

/-- How deep the output root is looked into. -/
def allLevels : Nat := 1000

/-- The tree that a run looks at. -/
def snapshot (env : Environment) (args : List Text) : IO Tree := do
  let cwd := FilePath.ofText (Text.ofString (← IO.currentDir).toString)
  let t ← takePath 1 cwd ⟨cwd, []⟩
  match Command.rootOf? args with
  | none => return t
  | some root =>
    let t ← takePath 1 (root.child Config.fileName) t
    match Command.configOf? env t args with
    | none => return t
    | some c =>
      let t ← takePath 2 c.specsPath t
      let t ← takePath allLevels c.outputPath t
      takePath 1 c.aggregatorPath t

/-! ## Writing -/

/-- Removes from the file system what a tree has lost. -/
def removeLost (before after : Tree) : IO Unit := do
  for e in before.entries do
    if (after.entry? e.1).isNone then
      let path := (← IO.currentDir) / placeText e.1
      if ← path.isDir then IO.FS.removeDirAll path
      else if ← path.pathExists then IO.FS.removeFile path

/-- Writes a file next to its place and moves it there, so that it is never seen half-written. -/
def writeFile (place : List Text) (content : ByteArray) : IO Unit := do
  let path := placeText place
  let draft := path ++ ".tmp"
  IO.FS.writeBinFile draft content
  IO.FS.rename draft path

/-- Writes to the file system what a tree has gained. -/
def writeGained (before after : Tree) : IO Unit := do
  for e in after.entries do
    match e.2, before.entry? e.1 with
    | .directory, none => IO.FS.createDirAll (placeText e.1)
    | .file content, some (.file old) =>
      if content.toList != old.toList then writeFile e.1 content
    | .file content, _ => writeFile e.1 content
    | .directory, _ => pure ()

/-- The variables of the environment that a run looks at. -/
def environment : IO Environment :=
  Command.variableNames.filterMapM fun name => do
    return (← IO.getEnv name.asString).map fun value => (name, Text.ofString value)

end Routewright.Program

open Routewright in
/-- Runs the command and yields its exit status. -/
def main (arguments : List String) : IO UInt32 := do
  let args := arguments.map Text.ofString
  let env ← Program.environment
  let before ← Program.snapshot env args
  let report := Command.run env before args
  Program.removeLost before report.tree
  Program.writeGained before report.tree
  for line in report.output do
    IO.println line.asString
  for note in report.notes do
    match note with
    | .line t => IO.eprintln t.asString
    | .trace => pure ()
  return UInt32.ofNat report.status
