/-
Validation schemas of payloads and path parameters. A field is a call of its type's factory on its
constraints, which are written in one fixed order and only when they are there; an array takes the
code of its items instead.
-/
import Routewright.Script.Syntax
import Routewright.Spec.Route

namespace Routewright.Route

open Script (Expr Property Stmt Numeral)
open Spec (Field FieldType Payload)

/-- The items of an array that names none. -/
def defaultItems : Text := "t.String()"

/-- The function that makes schemas of a type. -/
def factory (t : FieldType) : Text := "t." ++ t.name

/-- A text constraint, unless the text is empty. -/
def textConstraint (key : Text) : Option Text → List Property
  | some t => if t.isEmpty then [] else [.entry key (.str t)]
  | none => []

def numberConstraint (key : Text) : Option Number → List Property
  | some n => [.entry key (.num (Numeral.ofNumber n))]
  | none => []

def lengthConstraint (key : Text) : Option Int → List Property
  | some n => [.entry key (.num (.int n))]
  | none => []

/-- The constraints of a field that is no array. -/
def constraints (f : Field) : Expr :=
  .obj
    (textConstraint "format" f.format ++ textConstraint "description" f.description ++
      numberConstraint "minimum" f.minimum ++ numberConstraint "maximum" f.maximum ++
      lengthConstraint "minLength" f.minLength ++ lengthConstraint "maxLength" f.maxLength)
    true

/-- The integers that the schema of a field shows. -/
def schemaIntegers (f : Field) : List Int :=
  let wholes := [f.minimum, f.maximum].filterMap fun n =>
    match n with
    | some (.int i) => some i
    | _ => none
  if f.fieldType = .array then [] else wholes ++ [f.minLength, f.maxLength].filterMap id

/-- The code of an array's items. -/
def itemsCode (f : Field) : Text :=
  match f.items with
  | some code => if code.isEmpty then defaultItems else code
  | none => defaultItems

/-- The schema of a field. -/
def fieldSchema (f : Field) : Expr :=
  let schema :=
    match f.fieldType with
    | .array => Expr.callOf (factory .array) [.raw (itemsCode f)]
    | t => Expr.callOf (factory t) [constraints f]
  if f.isOptional then Expr.callOf "t.Optional" [schema] else schema

/-- An object schema of named fields. -/
def objectSchema (fields : List (Text × Field)) : Expr :=
  Expr.callOf "t.Object" [.obj (fields.map fun f => .entry f.1 (fieldSchema f.2)) true]

/-- The schema of a payload; no payload is one without fields. -/
def payloadSchema (payload : Option Payload) : Expr := objectSchema (payload.getD [])

/-- The constant that holds a payload's schema. -/
def schemaDeclaration (name : Text) (payload : Option Payload) : Stmt :=
  .const name none (payloadSchema payload)

/-- The field of a path parameter: the parameter `id` is a UUID. -/
def parameterField (name : Text) : Field :=
  let label := name.capitalised
  let isId := name = "id"
  { typeName := FieldType.string.name
    isOptional := false
    format := if isId then some "uuid" else none
    description := some (if isId then label ++ " ID" else label)
    minimum := none
    maximum := none
    minLength := none
    maxLength := none
    items := none
    extras := [] }

/-- The schema of path parameters. -/
def paramsSchema (params : List Text) : Expr :=
  objectSchema (params.map fun p => (p, parameterField p))

end Routewright.Route
