/-
The statements that build a query when a request comes in. They expect the request's values in a
mutable object `payload`, write one fragment per active rule, and leave the query in a constant.
-/
import Routewright.Condition.Evaluate
import Routewright.Script.Syntax

namespace Routewright.Condition

open Script (Expr Stmt)

/-- The object that holds the request's values. -/
def payloadName : Text := "payload"

def clauseListName : Text := "whereConditions"

def paramsName : Text := "queryParams"

def clauseName : Text := "dynamicWhere"

def queryName : Text := "query"

/-- The value of a field of the payload. -/
def fieldValue (name : Text) : Expr := .member (.ident payloadName) name

/-- Adds a fragment to the clause. -/
def pushFragment (fragment : Expr) : Stmt :=
  .expr (.call (.member (.ident clauseListName) "push") [fragment])

/-- The key under which an element of a list is bound. -/
def elementKey (name : Text) : Expr := .template [name ++ "_", []] [.ident "index"]

/-- The body of a membership rule: the placeholders, the fragment, the parameters. -/
def membershipBody (name : Text) : List Stmt := [
  .const "placeholders" none
    (.call
      (.member
        (.call (.member (fieldValue name) "map") [
          .arrow [.named "_" (some "unknown"), .named "index" (some "number")]
            (.template [":" ++ name ++ "_", []] [.ident "index"])])
        "join")
      [.str ", "]),
  pushFragment (.template [name ++ " IN (", ")"] [.ident "placeholders"]),
  .expr
    (.call (.member (fieldValue name) "forEach") [
      .arrowBlock [.named "value" (some "unknown"), .named "index" (some "number")] [
        .expr (.binary (.index (.ident paramsName) (elementKey name)) "=" (.ident "value"))]]),
  .delete (fieldValue name)]

/-- The statement of one rule. -/
def ruleStatement (sentinel name : Text) (op : Operator) : Stmt :=
  let value := fieldValue name
  let comparison := pushFragment (.str (name ++ " " ++ op.sql ++ " :" ++ name))
  let present := Expr.binary (.binary value "!==" .undefined) "&&" (.binary value "!==" .null)
  match op.kind with
  | .inList =>
    .ifThen
      (.binary (.callOf "Array.isArray" [value]) "&&"
        (.binary (.member value "length") ">" (.num (.int 0))))
      (membershipBody name)
  | .isNull =>
    .ifThen (.binary value "===" .null)
      [pushFragment (.str (name ++ " IS NULL")), .delete value]
  | .isNotNull =>
    .ifThen (.binary value "===" (.str sentinel))
      [pushFragment (.str (name ++ " IS NOT NULL")), .delete value]
  | .compare => .ifThen present [comparison]
  | .like =>
    .ifThen present [
      comparison,
      .expr (.binary (.member (.ident paramsName) name) "=" (.template ["%", "%"] [value])),
      .delete value]

/-- The statements that build the query of a route. -/
def statements (conditions : Option Spec.Conditions) (query sentinel : Text) :
    Except QueryMismatch (List Stmt) := do
  let (before, after) ← splitQuery query conditions.isSome
  match conditions with
  | none => .ok [.const queryName none (.str query)]
  | some conditions =>
    let list := Expr.ident clauseListName
    .ok (
      [.const clauseListName (some "string[]") (.arr []),
        .const paramsName (some "Record<string, any>") (.obj [] true),
        .blank] ++
      conditions.map (fun c => ruleStatement sentinel c.1 (Operator.ofText c.2.operator)) ++
      [.blank,
        .const clauseName none
          (.conditional
            (.binary (.member list "length") ">" (.num (.int 0)))
            (.call (.member list "join") [.str " AND "])
            (.str tautology)),
        .const queryName none (.template [before, after] [.ident clauseName]),
        .expr (.callOf "Object.assign" [.ident payloadName, .ident paramsName])])

end Routewright.Condition
