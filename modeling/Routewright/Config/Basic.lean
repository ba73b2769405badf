/-
The configuration of a run: where specs, modules and the aggregator are, and how modules are named
and matched. Relative paths start at the root.
-/
import Routewright.Document.Check
import Routewright.FilePath

namespace Routewright

open Document

/-- Which imports a clean run takes for generated ones. -/
inductive MatchMode where
  /-- Those whose variable a manifest records. -/
  | manifest
  /-- Those that point into the output root. -/
  | outputRoot
  | both
deriving DecidableEq

def MatchMode.words : List (Text × MatchMode) := [
  ("manifest", manifest), ("prefix", outputRoot), ("both", both)]

def MatchMode.word : MatchMode → Text
  | manifest => "manifest"
  | outputRoot => "prefix"
  | both => "both"

structure Config where
  root : FilePath
  specsDir : Text
  specExtensions : List Text
  outputRoot : Text
  aggregator : Text
  moduleSuffix : Text
  serviceImport : Text
  /-- The payload value that asks for a condition on values that are not null. -/
  notNullSentinel : Text
  /-- Whether the first failing spec ends the run. -/
  failFast : Bool
  cleanMatch : MatchMode

namespace Config

/-- The configuration of a project that sets nothing. -/
def standard (root : FilePath) : Config where
  root := root
  specsDir := "api-builder/json"
  specExtensions := [".json"]
  outputRoot := "src/builder"
  aggregator := "src/index.ts"
  moduleSuffix := "routes.ts"
  serviceImport := "@/core/services/find.service"
  notNullSentinel := "NOT_NULL"
  failFast := true
  cleanMatch := .both

def names : List (List Text) := [
  ["root"], ["specs_dir"], ["spec_extensions"], ["output_root"], ["aggregator"], ["module_suffix"],
  ["service_import"], ["not_null_sentinel"], ["fail_fast"], ["clean_match"]]

/-- A path, written as a string. -/
def checkPath : Check FilePath
  | .str t => .accepted (.ofText t)
  | _ => .fail .pathType

/-- A configuration document; the root is the working directory unless it says otherwise. -/
def check (cwd : FilePath) : Check Config := Check.keyedModel fun es =>
  let d := standard cwd
  (fun config (_ : Unit) => config)
    <$> (Config.mk
      <$> Check.field ["root"] d.root checkPath es
      <*> Check.field ["specs_dir"] d.specsDir Check.string es
      <*> Check.field ["spec_extensions"] d.specExtensions (Check.list Check.string) es
      <*> Check.field ["output_root"] d.outputRoot Check.string es
      <*> Check.field ["aggregator"] d.aggregator Check.string es
      <*> Check.field ["module_suffix"] d.moduleSuffix Check.string es
      <*> Check.field ["service_import"] d.serviceImport Check.string es
      <*> Check.field ["not_null_sentinel"] d.notNullSentinel Check.string es
      <*> Check.field ["fail_fast"] d.failFast Check.bool es
      <*> Check.field ["clean_match"] d.cleanMatch (Check.literal MatchMode.words) es)
    <*> Check.noExtras names es

/-! ## Places -/

def specsPath (c : Config) : FilePath := c.root.child c.specsDir

def outputPath (c : Config) : FilePath := c.root.child c.outputRoot

def aggregatorPath (c : Config) : FilePath := c.root.child c.aggregator

/-- The output root as an import specifier, seen from the aggregator's directory. -/
def importBase (cwd : FilePath) (c : Config) : Text :=
  let way := (FilePath.relativeTo cwd c.outputPath c.aggregatorPath.parent).toText
  if way.startsWith "." then way else "./" ++ way

/-- A path as messages and manifests show it: relative to the root if it lies below it. Paths that no
file can have are not compared. -/
def display (cwd : FilePath) (c : Config) (p : FilePath) : Text :=
  if p.isNameable && c.root.isNameable then
    match (FilePath.resolve cwd p).below? (FilePath.resolve cwd c.root) with
    | some q => q.toText
    | none => p.toText
  else p.toText

end Config

end Routewright
