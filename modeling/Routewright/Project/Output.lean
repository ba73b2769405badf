/-
The generated tree: modules with their manifests below the output root. Every module of a project is
known from its manifest, so a manifest that cannot be read is reported and passed over.
-/
import Routewright.Module.Render
import Routewright.Project.Session

namespace Routewright.Output

open Document

/-! ## Writing -/

/-- The stop of a module that cannot be written. -/
def writeStop (s : Spec) (e : FileError) : Stop := .failure (.file (.writeModule s.urlPrefix) e)

def renderStop : Module.RenderError → Stop
  | .query e => .failure (.query e)
  | .print r => .breakdown (.print r)

/-- Writes the module of a spec and its manifest. -/
def writeModule (c : Config) (s : Spec) (source : Option FilePath) : Run Manifest := do
  let cwd := (← Run.tree).cwd
  (Module.warnings c s 1 s.routes).forM (Run.say .warning)
  let text ← Run.ofExcept renderStop (Module.render cwd c s source)
  if Module.showsLongInteger s then throw (.breakdown .longInteger)
  let manifest := Module.manifest cwd c s source
  let directory := Module.directory c s
  if !(← Run.ask (writeStop s) (·.isDirectory directory)) then
    Run.files (writeStop s) (Files.makeDirectories directory)
    Run.say .debug ("Created directory " ++ c.display cwd directory)
  Run.write (writeStop s) (Module.modulePath c s) text
  if !manifest.isWritable then throw (.breakdown .manifestSurrogate)
  Run.write (writeStop s) (Module.manifestPath c s) (manifest.json ++ "\n")
  return manifest

/-! ## Manifests -/

/-- What a place that is named like a manifest holds. -/
inductive ManifestFile where
  | read (m : Manifest)
  /-- It holds no manifest, for a reason. -/
  | unreadable (reason : Text)
  | notUtf8

def ManifestFile.ofContent (content : ByteArray) : ManifestFile :=
  match Text.decode? content with
  | none => notUtf8
  | some t =>
    match Manifest.ofJson t.uniformLines with
    | .accepted m => read m
    | .refused faults => unreadable (faultSummary "ModuleManifest" faults)

def ManifestFile.ofEntry : Except FileError ByteArray → ManifestFile
  | .ok content => ofContent content
  | .error e => unreadable e.message

/-- The paths below the output root that are named like manifests, in order. -/
def manifestPaths (c : Config) (t : Tree) : List FilePath :=
  match t.locate c.outputPath with
  | .error _ => []
  | .ok place =>
    ((t.waysBelow place).filter fun way =>
      Text.endsWith (way.getLastD []) ("." ++ Module.manifestSuffix)).map fun way =>
        c.outputPath.append ⟨0, way⟩

/-- The manifests at some paths. -/
def readAll (c : Config) : List FilePath → Run (List Manifest)
  | [] => return []
  | p :: rest => do
    let t ← Run.tree
    match ManifestFile.ofEntry (t.read p) with
    | .read m => return m :: (← readAll c rest)
    | .unreadable reason =>
      Run.say .warning ("Ignoring unreadable manifest " ++ c.display t.cwd p ++ ": " ++ reason)
      readAll c rest
    | .notUtf8 => throw (.breakdown .notUtf8)

/-- The manifests of all generated modules. -/
def readManifests (c : Config) : Run (List Manifest) := do
  if ← Run.ask Run.unforeseen (·.isDirectory c.outputPath) then
    readAll c (manifestPaths c (← Run.tree))
  else return []

/-! ## Removing -/

/-- What stands directly in the output root, in order. -/
def topPaths (c : Config) (t : Tree) : List FilePath :=
  match t.locate c.outputPath with
  | .error _ => []
  | .ok place => (t.names place).map fun name => c.outputPath.append ⟨0, [name]⟩

/-- The stop of an entry that cannot be removed. -/
def removeStop (p : FilePath) (e : FileError) : Stop := .failure (.file (.removeEntry p) e)

/-- Empties the output root, if it is a directory, and yields what stood directly in it. -/
def removeAll (c : Config) : Run (List FilePath) := do
  if ← Run.ask Run.unforeseen (·.isDirectory c.outputPath) then
    let paths := topPaths c (← Run.tree)
    paths.forM fun p => Run.files (removeStop p) (Files.remove p)
    return paths
  else return []

end Routewright.Output
