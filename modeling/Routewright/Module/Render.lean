/-
The text of a module: a header, the imports it needs and no others, the payload schemas, the router
with a link per route, and the default export.
-/
import Routewright.Config.Basic
import Routewright.Document.Shown
import Routewright.Module.Manifest
import Routewright.Route.Emit

namespace Routewright.Module

open Script (Expr Link Stmt)
open Route (Emitted Service)
open Condition (QueryMismatch)

/-! ## Names and places -/

/-- The directory of a module. -/
def directory (c : Config) (s : Spec) : FilePath := (c.outputPath.child s.module).child s.version

def fileName (c : Config) (s : Spec) : Text := s.module ++ "-" ++ s.version ++ "." ++ c.moduleSuffix

/-- The end of every manifest's name. -/
def manifestSuffix : Text := "manifest.json"

def modulePath (c : Config) (s : Spec) : FilePath := (directory c s).child (fileName c s)

def manifestPath (c : Config) (s : Spec) : FilePath :=
  (directory c s).child (s.module ++ "-" ++ s.version ++ "." ++ manifestSuffix)

/-- The specifier that the aggregator imports a module by: its path without a closing `.ts`. -/
def importPath (cwd : FilePath) (c : Config) (s : Spec) : Text :=
  let name := fileName c s
  c.importBase cwd ++ "/" ++ s.module ++ "/" ++ s.version ++ "/" ++
    (Text.dropEnd? ".ts" name).getD name

/-- The manifest of a module that comes from a source. -/
def manifest (cwd : FilePath) (c : Config) (s : Spec) (source : Option FilePath) : Manifest where
  module := s.module
  version := s.version
  variableName := s.variableName
  importPath := importPath cwd c s
  modulePath := c.display cwd (modulePath c s)
  sourceSpec := source.map (c.display cwd)

/-! ## The parts of a module -/

/-- Why a module has no text. -/
inductive RenderError where
  | query (mismatch : QueryMismatch)
  | print (refusal : Script.Refusal)

/-- The routes from a number on; the first mismatch ends them. -/
def emitRoutes (c : Config) (s : Spec) : Nat → List Spec.Route → Except QueryMismatch (List Emitted)
  | _, [] => .ok []
  | number, route :: rest => do
    let emitted ← Route.emit route s.module number c.notNullSentinel
    let more ← emitRoutes c s (number + 1) rest
    .ok (emitted :: more)

/-- The warnings about the routes, up to the first that does not emit. -/
def warnings (c : Config) (s : Spec) : Nat → List Spec.Route → List Text
  | _, [] => []
  | number, route :: rest =>
    Route.warnings route ++
      match Route.emit route s.module number c.notNullSentinel with
      | .ok _ => warnings c s (number + 1) rest
      | .error _ => []

/-- The services some route calls, in a fixed order. -/
def usedServices (routes : List Emitted) : List Service :=
  [.findOneById, .findOne].filter fun service => routes.any (·.service == service)

/-- The imports of a module. -/
def imports (c : Config) (routes : List Emitted) : List Stmt :=
  let services := usedServices routes
  let validates := routes.any (·.validates)
  (if services.isEmpty then [] else [.importFrom c.serviceImport none (services.map (·.name))]) ++
    [.importFrom "elysia" (some "Elysia") (if validates then ["t"] else [])]

/-- The router and its chain of routes. -/
def router (s : Spec) (routes : List Emitted) : Stmt :=
  .const s.variableName none
    (.chain (.new (.ident "Elysia") [.obj [.entry "prefix" (.str s.urlPrefix)] false])
      (routes.map (·.link)))

/-- The statements of a module, part by part. -/
structure Parts where
  header : Stmt
  imports : List Stmt
  schemas : List Stmt
  router : Stmt
  last : Stmt

/-- What the header says a module was generated from. -/
def origin (cwd : FilePath) (c : Config) (s : Spec) (source : Option FilePath) : Text :=
  match source with
  | some p => c.display cwd p
  | none => s.module ++ "/" ++ s.version

def parts (cwd : FilePath) (c : Config) (s : Spec) (source : Option FilePath) :
    Except QueryMismatch Parts := do
  let routes ← emitRoutes c s 1 s.routes
  .ok {
    header := .comment ("Generated by apibuilder from " ++ origin cwd c s source ++
      ". Do not edit by hand.")
    imports := imports c routes
    schemas := routes.filterMap (·.schema)
    router := router s routes
    last := .exportDefault (.ident s.variableName) }

/-- The text of a module's parts: each on lines of its own, a blank line after the imports, after
each schema, and after the router. -/
def Parts.print (p : Parts) : Except Script.Refusal Text := do
  let header ← p.header.print 0
  let imports ← Stmt.printAll p.imports 0
  let schemas ← Stmt.printAll p.schemas 0
  let router ← p.router.print 0
  let last ← p.last.print 0
  let feed : Text := "\n"
  .ok (header ++ feed ++ imports.flatMap (· ++ feed) ++ feed ++
    schemas.flatMap (· ++ feed ++ feed) ++ router ++ feed ++ feed ++ last ++ feed)

/-- Whether a schema of a module shows an integer that has too many digits to be written. -/
def showsLongInteger (s : Spec) : Bool := s.routes.any fun route =>
  Route.validatesBody route && (route.payload.getD []).any fun f =>
    (Route.schemaIntegers f.2).any Document.isLongInteger

/-- The text of the module of a spec. -/
def render (cwd : FilePath) (c : Config) (s : Spec) (source : Option FilePath) :
    Except RenderError Text :=
  match parts cwd c s source with
  | .error e => .error (.query e)
  | .ok p => p.print.mapError .print

end Routewright.Module
