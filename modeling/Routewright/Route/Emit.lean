/-
One route of a module: the link it adds to the router's chain, the schema constant it needs, and the
service it calls. A lookup route passes a path parameter, or the first payload field, to
`findOneById`; a dynamic route builds its query from the body and passes it to `findOne`.
-/
import Routewright.Condition.Emit
import Routewright.Route.Path
import Routewright.Route.Schema

namespace Routewright.Route

open Script (Expr Link Param Property Stmt)
open Condition (QueryMismatch payloadName queryName)

/-- The functions that find records. -/
inductive Service where
  | findOneById
  | findOne
deriving DecidableEq

def Service.name : Service → Text
  | findOneById => "findOneById"
  | findOne => "findOne"

/-- What a route contributes to its module. -/
structure Emitted where
  link : Link
  schema : Option Stmt
  service : Service
  /-- Whether the route validates its parameters or its body. -/
  validates : Bool

/-- The name of the constant that holds a route's payload schema; routes are numbered from one. -/
def schemaName (route : Spec.Route) (module : Text) (number : Nat) : Text :=
  let base := match route.name with
    | some name => if name.isEmpty then none else some name
    | none => none
  base.getD (module ++ "Route" ++ Text.ofNat number) ++ "PayloadSchema"

/-- The documentation of a route. -/
def detail (d : Spec.Detail) : Expr :=
  .obj [
    .entry "summary" (.str d.summary),
    .entry "description" (.str d.description),
    .entry "tags" (.arr (d.tags.map .str))] true

/-- The parameter of a handler that takes the body of the request. -/
def bodyParam : Param := .pattern [.shorthand "body"] false none

/-! ## Dynamic routes -/

/-- A warning for each condition whose field the payload does not declare. -/
def undeclaredWarnings (route : Spec.Route) : List Text :=
  let declared := (route.payload.getD []).map Prod.fst
  (route.handler.conditions.getD []).filterMap fun c =>
    if declared.contains c.1 then none
    else some ("Condition field '" ++ c.1 ++ "' on " ++ route.method.upper ++ " " ++ route.path ++
      " is not declared in payload")

def emitDynamic (route : Spec.Route) (module : Text) (number : Nat) (sentinel : Text) :
    Except QueryMismatch Emitted := do
  let building ← Condition.statements route.handler.conditions route.handler.query sentinel
  let name := schemaName route module number
  let body := [.const payloadName (some "Record<string, any>") (.ident "body")] ++ building ++
    [.blank, .return (some (Expr.callOf Service.findOne.name
      [.ident payloadName, .ident queryName]))]
  let options := [.entry "body" (.ident name), .entry "detail" (detail route.openapi)]
  .ok {
    link := .call route.method.lower
      [.str route.path, .arrowBlock [bodyParam] body, .obj options true]
    schema := some (schemaDeclaration name route.payload)
    service := .findOne
    validates := true }

/-! ## Lookup routes -/

/-- The methods whose requests have a body. -/
def bodyMethods : List Text := ["post", "put", "patch"]

/-- How a lookup handler gets its key: its parameters, the arguments it passes on, the schema of its
path parameters, and whether it validates the body. -/
structure KeySource where
  params : List Param
  args : List Expr
  paramsSchema : Option Expr
  validatesBody : Bool

def keySource (route : Spec.Route) : KeySource :=
  let names := pathParams route.path
  let payload := route.payload.getD []
  match lookupKey? names, payload with
  | some key, payload =>
    { params := [.pattern [.entry "params" (.obj [.shorthand key] false)] false none]
      args := [.ident key]
      paramsSchema := some (paramsSchema names)
      validatesBody := !payload.isEmpty && bodyMethods.contains route.method.lower }
  | none, first :: _ =>
    { params := [bodyParam]
      args := [.member (.ident "body") first.1]
      paramsSchema := none
      validatesBody := true }
  | none, [] => { params := [], args := [], paramsSchema := none, validatesBody := false }

def emitLookup (route : Spec.Route) (module : Text) (number : Nat) : Emitted :=
  let source := keySource route
  let name := schemaName route module number
  let paramsOption := match source.paramsSchema with
    | some schema => [Property.entry "params" schema]
    | none => []
  let bodyOption := if source.validatesBody then [Property.entry "body" (.ident name)] else []
  let call := Expr.callOf Service.findOneById.name (source.args ++ [.str route.handler.query])
  { link := .call route.method.lower [
      .str route.path,
      .arrowBlock source.params [.return (some call)],
      .obj (paramsOption ++ bodyOption ++ [.entry "detail" (detail route.openapi)]) true]
    schema := if source.validatesBody then some (schemaDeclaration name route.payload) else none
    service := .findOneById
    validates := source.paramsSchema.isSome || source.validatesBody }

/-! ## Routes -/

/-- The warnings about a route. -/
def warnings (route : Spec.Route) : List Text :=
  if route.isDynamic then undeclaredWarnings route else []

/-- The route with a number in its module. -/
def emit (route : Spec.Route) (module : Text) (number : Nat) (sentinel : Text) :
    Except QueryMismatch Emitted :=
  if route.isDynamic then emitDynamic route module number sentinel
  else .ok (emitLookup route module number)

/-- Whether a route has a schema of its request's body. -/
def validatesBody (route : Spec.Route) : Bool := route.isDynamic || (keySource route).validatesBody

end Routewright.Route
