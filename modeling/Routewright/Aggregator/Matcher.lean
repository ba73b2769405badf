/-
Which imports of the aggregator belong to generated modules: by the manifests, by the place they
point to, or by either.
-/
import Routewright.Aggregator.Edit
import Routewright.Config.Basic

namespace Routewright.Aggregator

/-- A text without the slashes it ends in. -/
def dropSlashes (t : Text) : Text := Text.trimEnd (· == '/') t

/-- Imports that point into the output root: below the import base, or through a directory that
bears the output root's name. -/
def outputMatcher (cwd : FilePath) (c : Config) : ImportMatcher := fun record =>
  let base := dropSlashes (c.importBase cwd) ++ "/"
  let mark := "/" ++ (FilePath.ofText c.outputRoot).name ++ "/"
  record.path.startsWith base || record.path.contains mark

/-- Imports whose variable a manifest records. -/
def manifestMatcher (manifests : List Manifest) : ImportMatcher := fun record =>
  manifests.any (·.variableName == record.name)

/-- The matcher that a configuration selects. -/
def matcher (cwd : FilePath) (c : Config) (manifests : List Manifest) : ImportMatcher :=
  match c.cleanMatch with
  | .manifest => manifestMatcher manifests
  | .outputRoot => outputMatcher cwd c
  | .both => fun record => manifestMatcher manifests record || outputMatcher cwd c record

end Routewright.Aggregator
