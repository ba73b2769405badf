/-
The outcome of checking a document: a value, or every fault found, in the order of the document's
declared fields. Checks combine as an applicative functor that goes on after a fault.
-/
import Routewright.Document.Value

namespace Routewright.Document

/-- What is wrong with a part of a document. -/
inductive FaultKind where
  | missing
  | stringType
  | stringUnicode
  | stringPatternMismatch
  | boolType
  | boolParsing
  | intType
  | intParsing
  | intParsingSize
  | intFromFloat
  | finiteNumber
  | floatType
  | floatParsing
  | listType
  | dictType
  | modelType
  | literalError
  | pathType
  | extraForbidden
  | invalidKey
  | jsonInvalid
deriving DecidableEq

def FaultKind.name : FaultKind → Text
  | missing => "missing"
  | stringType => "string_type"
  | stringUnicode => "string_unicode"
  | stringPatternMismatch => "string_pattern_mismatch"
  | boolType => "bool_type"
  | boolParsing => "bool_parsing"
  | intType => "int_type"
  | intParsing => "int_parsing"
  | intParsingSize => "int_parsing_size"
  | intFromFloat => "int_from_float"
  | finiteNumber => "finite_number"
  | floatType => "float_type"
  | floatParsing => "float_parsing"
  | listType => "list_type"
  | dictType => "dict_type"
  | modelType => "model_type"
  | literalError => "literal_error"
  | pathType => "path_type"
  | extraForbidden => "extra_forbidden"
  | invalidKey => "invalid_key"
  | jsonInvalid => "json_invalid"

/-- A fault at a place: the keys and positions that lead to it from the outside. -/
structure Fault where
  place : List Text
  kind : FaultKind
deriving DecidableEq

namespace Fault

/-- What stands for a surrogate in messages: a mark for each of the three bytes it would take. -/
def surrogateMarks : Text := List.replicate 3 (CodePoint.ofNat 0xfffd)

/-- A step of a place as messages show it. One that holds a point is put between backquotes, so that
it does not look like two steps. -/
def stepText (step : Text) : Text :=
  let shown : Text := step.flatMap fun c => if c.isSurrogate then surrogateMarks else [c]
  if shown.contains "." then "\x60" ++ shown ++ "\x60" else shown

/-- A place as messages show it. -/
def placeText (place : List Text) : Text :=
  let shown := Text.join "." (place.map stepText)
  if shown.isEmpty then "(root)" else shown

def text (f : Fault) : Text := placeText f.place ++ " " ++ f.kind.name

end Fault

/-- The summary of the faults of a document that was to be a `model`. -/
def faultSummary (model : Text) (faults : List Fault) : Text :=
  Text.ofNat faults.length ++ " validation error" ++
    (if faults.length = 1 then [] else ("s" : Text)) ++ " for " ++ model ++ ": " ++
    Text.join "; " (faults.map Fault.text)

/-- A checked value, or the faults that were found. -/
inductive Checked (α : Type) where
  | accepted (a : α)
  | refused (faults : List Fault)

namespace Checked

variable {α β γ : Type}

def faults : Checked α → List Fault
  | accepted _ => []
  | refused fs => fs

def map (f : α → β) : Checked α → Checked β
  | accepted a => accepted (f a)
  | refused fs => refused fs

/-- Both values, or the faults of both. -/
def both (f : α → β → γ) : Checked α → Checked β → Checked γ
  | accepted a, accepted b => accepted (f a b)
  | accepted _, refused fs => refused fs
  | refused fs, accepted _ => refused fs
  | refused fs, refused gs => refused (fs ++ gs)

instance : Functor Checked where
  map := map

instance : Applicative Checked where
  pure := accepted
  seq f a := both id f (a ())

/-- A single fault, at the root. -/
def fail (kind : FaultKind) : Checked α := refused [⟨[], kind⟩]

/-- Puts the faults under one more step. -/
def under (step : Text) : Checked α → Checked α
  | accepted a => accepted a
  | refused fs => refused (fs.map fun f => { f with place := step :: f.place })

/-- The values of several checks, or the faults of all. -/
def all : List (Checked α) → Checked (List α)
  | [] => accepted []
  | c :: rest => both List.cons c (all rest)

end Checked

end Routewright.Document
