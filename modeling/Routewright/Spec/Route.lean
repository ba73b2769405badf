/-
Route specs: a module, its version, and its routes with their handlers and condition rules.
-/
import Routewright.Spec.Field
import Routewright.Text.Case

namespace Routewright

open Document

namespace Spec

/-- A rule that compares one payload field with an operator. -/
structure ConditionRule where
  operator : Text
  typeName : Option Text

/-- Condition rules by field, in the order they are declared. -/
abbrev Conditions := List (Text × ConditionRule)

/-- What the documentation of a route says. -/
structure Detail where
  summary : Text
  description : Text
  tags : List Text

/-- How a route finds its record. -/
structure Handler where
  requestType : Option Text
  query : Text
  conditions : Option Conditions
  isGenerated : Option Bool
  extras : List (Text × Value)

/-- How the fields of a response are named. -/
structure Response where
  mapping : List (Text × Text)

structure Route where
  path : Text
  method : Text
  name : Option Text
  openapi : Detail
  payload : Option Payload
  handler : Handler
  response : Response
  extras : List (Text × Value)

end Spec

/-- A route spec: a module, a version of it, and its routes in order. -/
structure Spec where
  module : Text
  version : Text
  routes : List Spec.Route

namespace Spec

/-! ## Checking -/

def ConditionRule.check : Check ConditionRule := Check.model fun es =>
  ConditionRule.mk
    <$> Check.field ["operator"] "=" Check.string es
    <*> Check.field ["type"] none (Check.nullable Check.string) es

def Conditions.check : Check (Option Conditions) :=
  Check.nullable (Check.mapping ConditionRule.check)

def Detail.empty : Detail := ⟨[], [], []⟩

def Detail.check : Check Detail := Check.model fun es =>
  Detail.mk
    <$> Check.field ["summary"] [] Check.string es
    <*> Check.field ["description"] [] Check.string es
    <*> Check.field ["tags"] [] (Check.list Check.string) es

def Handler.empty : Handler := ⟨none, [], none, none, []⟩

def Handler.names : List (List Text) := [
  ["requestType", "request_type"], ["query"], ["conditions"], ["isGenerated", "is_generated"]]

def Handler.check : Check Handler := Check.keyedModel fun es =>
  Handler.mk
    <$> Check.field ["requestType", "request_type"] none (Check.nullable Check.string) es
    <*> Check.field ["query"] [] Check.string es
    <*> Check.field ["conditions"] none Conditions.check es
    <*> Check.field ["isGenerated", "is_generated"] none (Check.nullable Check.bool) es
    <*> Check.extras Handler.names es

def Response.check : Check Response := Check.model fun es =>
  Response.mk <$> Check.field ["mapping"] [] (Check.mapping Check.string) es

def Route.names : List (List Text) := [
  ["path"], ["method"], ["name"], ["openapi"], ["payload"], ["handler"], ["response"]]

def Route.check : Check Route := Check.keyedModel fun es =>
  Route.mk
    <$> Check.required "path" Check.string es
    <*> Check.field ["method"] "GET" Check.string es
    <*> Check.field ["name"] none (Check.nullable Check.string) es
    <*> Check.field ["openapi"] Detail.empty Detail.check es
    <*> Check.field ["payload"] none Payload.check es
    <*> Check.field ["handler"] Handler.empty Handler.check es
    <*> Check.field ["response"] ⟨[]⟩ Response.check es
    <*> Check.extras Route.names es

/-- A module name: small ASCII letters, digits and underscores, a letter first. -/
def isModuleName : Text → Bool
  | [] => false
  | c :: rest => c.isLower && rest.all fun d => d.isLower || d.isDigit || d == '_'

/-- A version name: ASCII letters, digits and underscores, no digit first. -/
def isVersionName : Text → Bool
  | [] => false
  | c :: rest => (c.isLetter || c == '_') && rest.all fun d => d.isLetter || d.isDigit || d == '_'

def check : Check Spec := Check.model fun es =>
  Spec.mk
    <$> Check.required "module" (Check.stringLike isModuleName) es
    <*> Check.required "version" (Check.stringLike isVersionName) es
    <*> Check.required "routes" (Check.list Route.check) es

/-! ## Writing out -/

/-- A mapping of named values. -/
def dumpNamed {α : Type} (f : α → Value) (named : List (Text × α)) : Value :=
  .ofFields (named.map fun n => (n.1, f n.2)) []

def ConditionRule.dump (r : ConditionRule) : Value :=
  .ofFields [("operator", .str r.operator), ("type", .ofOption .str r.typeName)] []

def Detail.dump (d : Detail) : Value :=
  .ofFields [
    ("summary", .str d.summary),
    ("description", .str d.description),
    ("tags", .list (d.tags.map .str))] []

def Handler.dump (h : Handler) : Value :=
  .ofFields [
    ("request_type", .ofOption .str h.requestType),
    ("query", .str h.query),
    ("conditions", .ofOption (dumpNamed ConditionRule.dump) h.conditions),
    ("is_generated", .ofOption .bool h.isGenerated)] h.extras

def Route.dump (r : Route) : Value :=
  .ofFields [
    ("path", .str r.path),
    ("method", .str r.method),
    ("name", .ofOption .str r.name),
    ("openapi", r.openapi.dump),
    ("payload", .ofOption (dumpNamed Field.dump) r.payload),
    ("handler", r.handler.dump),
    ("response", .ofFields [("mapping", dumpNamed .str r.response.mapping)] [])] r.extras

/-- A spec written out. -/
def dump (s : Spec) : Value :=
  .ofFields [
    ("module", .str s.module),
    ("version", .str s.version),
    ("routes", .list (s.routes.map Route.dump))] []

/-! ## Names -/

/-- Whether a route builds its query from the request's body. -/
def Route.isDynamic (r : Route) : Bool := r.handler.requestType == some "findOne"

/-- The variable of a module's router. -/
def routerName (module version : Text) : Text := module ++ version.capitalised ++ "Routes"

def variableName (s : Spec) : Text := routerName s.module s.version

/-- The URL prefix of a module's router. -/
def urlPrefix (s : Spec) : Text := "/" ++ s.module ++ "/" ++ s.version

end Spec

end Routewright
