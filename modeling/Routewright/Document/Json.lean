/-
Reading JSON text. The tokens drive a machine whose stack holds the lists and mappings that are
still open, outermost last; each token is looked at once, so reading ends. NaN and the infinities
are numbers here, and a key that is repeated keeps its first place and takes its last value.
-/
import Routewright.Document.Json.Token

namespace Routewright.Document.Json

/-- A list or mapping that is still open. -/
inductive Frame where
  | list (items : List Value)
  | map (entries : List (Value × Value)) (key : Text)

/-- What the grammar asks for next. -/
inductive Expectation where
  | value
  /-- The first item of a list, or its end. -/
  | itemOrEnd
  /-- The first name of a mapping, or its end. -/
  | nameOrEnd
  | name
  | colon
  /-- A comma, or the end of the innermost open value. -/
  | comma
  | nothing

/-- The machine's state: the open values, what comes next, and the value read when none is open. -/
structure State where
  stack : List Frame
  expects : Expectation
  result : Value

/-- Lists and mappings nested deeper than this are refused. -/
def maxDepth : Nat := 980

/-- Puts a finished value into the innermost open value. -/
def State.deliver (stack : List Frame) (v : Value) : State :=
  match stack with
  | [] => ⟨[], .nothing, v⟩
  | .list items :: rest => ⟨.list (items ++ [v]) :: rest, .comma, .null⟩
  | .map entries key :: rest =>
    ⟨.map (Value.insert (.str key) v entries) key :: rest, .comma, .null⟩

/-- Opens a list or mapping. -/
def State.push (frame : Frame) (expects : Expectation) (s : State) : Except Refusal State :=
  if s.stack.length ≥ maxDepth then .error .nestedTooDeep
  else .ok ⟨frame :: s.stack, expects, .null⟩

/-- The token of a value, where one is asked for. -/
def State.takeValue (s : State) (token : Token) (index : Nat) : Except Refusal State :=
  match token with
  | .str t => .ok (State.deliver s.stack (.str t))
  | .atom v | .number v _ => .ok (State.deliver s.stack v)
  | .openBracket => s.push (.list []) .itemOrEnd
  | .openBrace => s.push (.map [] []) .nameOrEnd
  | .badString fault place => .error (.syntaxFault fault place)
  | .longInteger => .error .integerTooLong
  | _ => .error (.syntaxFault .expectingValue index)

/-- The token of a name, where one is asked for. -/
def State.takeName (s : State) (token : Token) (index : Nat) : Except Refusal State :=
  match token, s.stack with
  | .str t, .map entries _ :: rest => .ok ⟨.map entries t :: rest, .colon, .null⟩
  | .badString fault place, _ => .error (.syntaxFault fault place)
  | _, _ => .error (.syntaxFault .expectingName index)

/-- One token. -/
def State.step (s : State) (token : Token) (index : Nat) : Except Refusal State :=
  match s.expects with
  | .value => s.takeValue token index
  | .itemOrEnd =>
    match token, s.stack with
    | .closeBracket, .list items :: rest => .ok (State.deliver rest (.list items))
    | _, _ => s.takeValue token index
  | .nameOrEnd =>
    match token, s.stack with
    | .closeBrace, .map entries _ :: rest => .ok (State.deliver rest (.map entries))
    | _, _ => s.takeName token index
  | .name => s.takeName token index
  | .colon =>
    match token with
    | .colon => .ok { s with expects := .value }
    | _ => .error (.syntaxFault .expectingColon index)
  | .comma =>
    match token, s.stack with
    | .comma, .list _ :: _ => .ok { s with expects := .value }
    | .comma, .map .. :: _ => .ok { s with expects := .name }
    | .closeBracket, .list items :: rest => .ok (State.deliver rest (.list items))
    | .closeBrace, .map entries _ :: rest => .ok (State.deliver rest (.map entries))
    | _, _ => .error (.syntaxFault .expectingComma index)
  | .nothing => .error (.syntaxFault .extraData index)

/-- The end of the text, at an index. -/
def State.finish (s : State) (index : Nat) : Except Refusal Value :=
  match s.expects with
  | .value | .itemOrEnd => .error (.syntaxFault .expectingValue index)
  | .nameOrEnd | .name => .error (.syntaxFault .expectingName index)
  | .colon => .error (.syntaxFault .expectingColon index)
  | .comma => .error (.syntaxFault .expectingComma index)
  | .nothing => .ok s.result

def run (s : State) (size : Nat) : List (Token × Nat) → Except Refusal Value
  | [] => s.finish size
  | (token, index) :: rest => do
    let s ← s.step token index
    run s size rest

/-- The value of a JSON text. -/
def read (t : Text) : Except Refusal Value :=
  if t.head? = some (CodePoint.ofNat 0xfeff) then .error (.syntaxFault .byteOrderMark 0)
  else run ⟨[], .value, .null⟩ t.length (tokens t)

/-! ## Strict reading -/

/-- Lists and mappings that hold something are nested at most this deep in a text that is read
strictly. -/
def strictDepth : Nat := 200

/-- Whether a token is one that a strictly read text may hold: a string without surrogates, a number
that is not too long, or any other. -/
def Token.isStrict : Token → Bool
  | .str t => !t.any CodePoint.isSurrogate
  | .number _ length => length ≤ maxIntegerDigits
  | .longInteger => false
  | _ => true

/-- Whether tokens inside of some lists and mappings are strict and nested no deeper than is
allowed. -/
def areStrict : Nat → List Token → Bool
  | _, [] => true
  | depth, [t] => depth ≤ strictDepth && t.isStrict
  | depth, t :: u :: rest =>
    depth ≤ strictDepth && t.isStrict &&
      match t, u with
      | .openBracket, .closeBracket | .openBrace, .closeBrace => areStrict depth rest
      | .openBracket, _ | .openBrace, _ => areStrict (depth + 1) (u :: rest)
      | .closeBracket, _ | .closeBrace, _ => areStrict (depth - 1) (u :: rest)
      | _, _ => areStrict depth (u :: rest)

/-- The value of a JSON text that is read strictly. What a repeated key replaces counts as well. -/
def readStrict? (t : Text) : Option Value :=
  if areStrict 0 ((tokens t).map Prod.fst) then (read t).toOption else none

/-! ## Places -/

/-- A fault at a place of a text; lines and columns are counted from one. -/
structure SyntaxError where
  fault : Fault
  line : Nat
  column : Nat
  index : Nat
deriving DecidableEq

/-- The fault at an index of a text, with the line and column of the index. -/
def SyntaxError.locate (t : Text) (fault : Fault) (index : Nat) : SyntaxError :=
  let before := t.take index
  { fault
    line := before.count (CodePoint.ofChar '\n') + 1
    column := (before.reverse.takeWhile (· ≠ CodePoint.ofChar '\n')).length + 1
    index }

def SyntaxError.message (e : SyntaxError) : Text :=
  e.fault.message ++ ": line " ++ Text.ofNat e.line ++ " column " ++ Text.ofNat e.column ++
    " (char " ++ Text.ofNat e.index ++ ")"

end Routewright.Document.Json
