/-
Decoded values, as JSON and YAML documents denote them. A mapping keeps its entries in order and has
one entry a key; numbers and truth values that are equal are one key.
-/
import Routewright.Document.Moment
import Routewright.Text.Quoted

namespace Routewright.Document

/-- A decoded value. JSON documents hold only the first seven kinds; the others and keys that are no
strings come from YAML. -/
inductive Value where
  | null
  | bool (b : Bool)
  | int (i : Int)
  | float (d : Double)
  | str (t : Text)
  | list (items : List Value)
  | map (entries : List (Value × Value))
  | moment (m : Moment)
  | bytes (bs : List Nat)
  | set (items : List Value)
  | pair (first second : Value)
  /-- What a value that contains itself holds deep inside. -/
  | endless
deriving Inhabited

namespace Value

/-- The kind of a value, as messages name it. -/
def kindName : Value → Text
  | null => "NoneType"
  | bool _ => "bool"
  | int _ => "int"
  | float _ => "float"
  | str _ => "str"
  | list _ => "list"
  | map _ => "dict"
  | moment (.day ..) => "date"
  | moment (.instant ..) => "datetime"
  | bytes _ => "bytes"
  | set _ => "set"
  | pair .. => "tuple"
  | endless => "list"

/-- The integer that a number or truth value equals, if it equals one. -/
def asInt? : Value → Option Int
  | bool b => some (if b then 1 else 0)
  | int i => some i
  | float d => d.toInt?
  | _ => none

/-- Whether two values are one key of a mapping. -/
def sameKey (a b : Value) : Bool :=
  match a, b with
  | null, null => true
  | str s, str t => s == t
  | moment m, moment n => m.same n
  | bytes s, bytes t => s == t
  | float d, float e => d.equal e
  | a, b =>
    match a.asInt?, b.asInt? with
    | some i, some j => i == j
    | _, _ => false

/-! ## Mappings -/

/-- The value under a key. -/
def lookup (key : Value) : List (Value × Value) → Option Value
  | [] => none
  | entry :: rest => if entry.1.sameKey key then some entry.2 else lookup key rest

/-- Puts a value under a key: a key that is there keeps its place. -/
def insert (key value : Value) : List (Value × Value) → List (Value × Value)
  | [] => [(key, value)]
  | entry :: rest =>
    if entry.1.sameKey key then (entry.1, value) :: rest else entry :: insert key value rest

/-- Entries in writing order as a mapping. -/
def ofEntries (entries : List (Value × Value)) : Value :=
  map (entries.foldl (fun m e => insert e.1 e.2 m) [])

/-- The value under a string key of a mapping. -/
def field? (name : Text) : Value → Option Value
  | map entries => lookup (str name) entries
  | _ => none

/-! ## The text of a value -/

/-- A byte between quotes of a kind. -/
def byteText (quote b : Nat) : Text :=
  if b = 92 ∨ b = quote then "\\" ++ [CodePoint.ofNat b]
  else if b = 10 then "\\n" else if b = 13 then "\\r" else if b = 9 then "\\t"
  else if 32 ≤ b ∧ b ≤ 126 then [CodePoint.ofNat b] else "\\x" ++ Text.ofHex 2 b

/-- Bytes between quotes: double ones where only single ones would have to be escaped. -/
def bytesText (bs : List Nat) : Text :=
  let quote := if bs.contains 39 && !bs.contains 34 then 34 else 39
  "b" ++ [CodePoint.ofNat quote] ++ bs.flatMap (byteText quote) ++ [CodePoint.ofNat quote]

mutual

/-- A value as messages show it inside other values: strings are quoted. -/
def inspect : Value → Text
  | null => "None"
  | bool true => "True"
  | bool false => "False"
  | int i => Text.ofInt i
  | float d => d.text
  | str t => t.displayed
  | list items => "[" ++ Text.join ", " (inspectAll items) ++ "]"
  | map entries => "\x7b" ++ Text.join ", " (inspectEntries entries) ++ "\x7d"
  | moment m => m.inspect
  | bytes bs => bytesText bs
  | set items =>
    if items.isEmpty then "set()" else "\x7b" ++ Text.join ", " (inspectAll items) ++ "\x7d"
  | pair a b => "(" ++ inspect a ++ ", " ++ inspect b ++ ")"
  | endless => "[...]"

def inspectAll : List Value → List Text
  | [] => []
  | v :: rest => inspect v :: inspectAll rest

def inspectEntries : List (Value × Value) → List Text
  | [] => []
  | (k, v) :: rest => (inspect k ++ ": " ++ inspect v) :: inspectEntries rest

end

/-- A value as text: a string is itself. -/
def display : Value → Text
  | str t => t
  | v => v.inspect

end Value

end Routewright.Document
