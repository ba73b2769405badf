/-
Payload fields: the type and the constraints of one field, as a route spec declares them. Entries
that are no constraint are kept; where one bears the name of a field it shows in that field's place
when the field is written out again.
-/
import Routewright.Document.Check

namespace Routewright.Spec

open Document

/-- The field types that schemas know. -/
inductive FieldType where
  | string
  | number
  | boolean
  | array
  | object
deriving DecidableEq

namespace FieldType

def name : FieldType → Text
  | string => "String"
  | number => "Number"
  | boolean => "Boolean"
  | array => "Array"
  | object => "Object"

def all : List FieldType := [string, number, boolean, array, object]

/-- The type of a name; every other name is a string type. -/
def ofName (t : Text) : FieldType := (all.find? (·.name == t)).getD string

end FieldType

/-- A payload field. -/
structure Field where
  typeName : Text
  isOptional : Bool
  format : Option Text
  description : Option Text
  minimum : Option Number
  maximum : Option Number
  minLength : Option Int
  maxLength : Option Int
  items : Option Text
  extras : List (Text × Value)

namespace Field

def fieldType (f : Field) : FieldType := FieldType.ofName f.typeName

/-- The names of the fields, the preferred one first. -/
def names : List (List Text) := [
  ["type"], ["optional"], ["format"], ["description"], ["minimum"], ["maximum"],
  ["minLength", "min_length"], ["maxLength", "max_length"], ["items"]]

def check : Check Field := Check.keyedModel fun es =>
  Field.mk
    <$> Check.field ["type"] FieldType.string.name Check.string es
    <*> Check.field ["optional"] false Check.bool es
    <*> Check.field ["format"] none (Check.nullable Check.string) es
    <*> Check.field ["description"] none (Check.nullable Check.string) es
    <*> Check.field ["minimum"] none (Check.nullable Check.number) es
    <*> Check.field ["maximum"] none (Check.nullable Check.number) es
    <*> Check.field ["minLength", "min_length"] none (Check.nullable Check.int) es
    <*> Check.field ["maxLength", "max_length"] none (Check.nullable Check.int) es
    <*> Check.field ["items"] none (Check.nullable Check.string) es
    <*> Check.extras names es

/-- A field written out. -/
def dump (f : Field) : Value :=
  .ofFields [
    ("type", .str f.typeName),
    ("optional", .bool f.isOptional),
    ("format", .ofOption .str f.format),
    ("description", .ofOption .str f.description),
    ("minimum", .ofOption .ofNumber f.minimum),
    ("maximum", .ofOption .ofNumber f.maximum),
    ("min_length", .ofOption .int f.minLength),
    ("max_length", .ofOption .int f.maxLength),
    ("items", .ofOption .str f.items)] f.extras

end Field

/-- The fields of a payload, in the order they are declared. -/
abbrev Payload := List (Text × Field)

def Payload.check : Check (Option Payload) := Check.nullable (Check.mapping Field.check)

end Routewright.Spec
