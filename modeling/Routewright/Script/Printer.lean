/-
The printer of script trees. Literals are escaped, names that are no identifiers fall back to quoted
and bracket forms, an operand that binds looser than its place asks for is parenthesised, and
nested lines are indented by two spaces a level, relative to the line a construct starts on.
-/
import Routewright.Script.Syntax
import Routewright.Text.Quoted
import Routewright.Number.Text

namespace Routewright.Script

/-- Why a tree is not printed. -/
inductive Refusal where
  | unsupportedExpression (kind : Text)
  | unsupportedStatement (kind : Text)
  | truthNumeral
  | unevenTemplate
deriving DecidableEq

def Refusal.message : Refusal → Text
  | unsupportedExpression kind => "Unsupported expression node: " ++ kind
  | unsupportedStatement kind => "Unsupported statement node: " ++ kind
  | truthNumeral => "Booleans are not numeric literals"
  | unevenTemplate => "Template literal needs exactly one more quasi than expressions"

/-! ## Names and literals -/

def isNameStart (c : CodePoint) : Bool := c.isLetter || c == '_' || c == '$'

def isNamePart (c : CodePoint) : Bool := isNameStart c || c.isDigit

/-- An identifier of ASCII letters, digits, `_` and `$`, which starts with no digit. -/
def isName : Text → Bool
  | [] => false
  | c :: rest => isNameStart c && rest.all isNamePart

/-- A text without the line feed it ends in, if it ends in one. -/
def dropFinalLineFeed (t : Text) : Text :=
  if t.getLast? = some (CodePoint.ofChar '\n') then t.dropLast else t

/-- Whether a name is printed bare: it is an identifier, one line feed at its end aside. -/
def isIdentifier (t : Text) : Bool := isName (dropFinalLineFeed t)

/-- The key of an object's entry. -/
def keyText (key : Text) : Text := if isIdentifier key then key else key.quoted

/-- The literal of a number: a float without a fraction is written as an integer. -/
def Numeral.text : Numeral → Except Refusal Text
  | int i => .ok (Text.ofInt i)
  | float d =>
    match d.toInt? with
    | some i => .ok (Text.ofInt i)
    | none => .ok d.text
  | truth _ => .error .truthNumeral

/-! ## Binding strength -/

/-- The binding strengths of the binary operators; a higher one binds tighter. -/
def operatorStrengths : List (Text × Nat) := [
  ("||", 1), ("??", 1), ("&&", 2), ("===", 3), ("!==", 3), ("==", 3), ("!=", 3), ("<", 4),
  ("<=", 4), (">", 4), (">=", 4), ("+", 5), ("-", 5), ("*", 6), ("/", 6)]

/-- The strength of an operator; one that is not listed binds loosest. -/
def operatorStrength (operator : Text) : Nat := (operatorStrengths.lookup operator).getD 1

/-- The strength of what is never parenthesised. -/
def atomStrength : Nat := 100

def Expr.strength : Expr → Nat
  | .binary _ operator _ => operatorStrength operator
  | .conditional .. => 0
  | .arrow .. => 0
  | .arrowBlock .. => 0
  | _ => atomStrength

/-- Parentheses around the text of an expression that binds looser than its place asks for. -/
def enclose (e : Expr) (needed : Nat) (text : Text) : Text :=
  if e.strength < needed then "(" ++ text ++ ")" else text

/-! ## Layout -/

/-- The indentation of a level. -/
def indent (level : Nat) : Text := List.replicate (2 * level) (CodePoint.ofChar ' ')

def commaSeparated (pieces : List Text) : Text := Text.join ", " pieces

/-- A name with its type. -/
def annotated (name : Text) : Option Text → Text
  | some typeHint => if typeHint.isEmpty then name else name ++ ": " ++ typeHint
  | none => name

/-- The body of an object: one entry a line, or all of them in one line. -/
def objectText (entries : List Text) (multiline : Bool) (level : Nat) : Text :=
  if entries.isEmpty then "\x7b\x7d"
  else if multiline then
    "\x7b\n" ++ Text.unlines (entries.map fun e => indent (level + 1) ++ e ++ ",") ++ "\n" ++
      indent level ++ "\x7d"
  else "\x7b " ++ commaSeparated entries ++ " \x7d"

/-- The level that the entries of an object are printed at. -/
def entryLevel (multiline : Bool) (level : Nat) : Nat := if multiline then level + 1 else level

/-- A template literal of escaped texts and the printed substitutions between them. -/
def templateBody : List Text → List Text → Text
  | [], _ => []
  | text :: _, [] => text.escapeTemplate
  | text :: texts, substitution :: substitutions =>
    text.escapeTemplate ++ "$\x7b" ++ substitution ++ "\x7d" ++ templateBody texts substitutions

/-- An import of a default name and of listed names. -/
def importText (source : Text) (default : Option Text) (names : List Text) : Text :=
  let clauses := (default.toList.filter (!·.isEmpty)) ++
    (if names.isEmpty then [] else ["\x7b " ++ commaSeparated names ++ " \x7d"])
  if clauses.isEmpty then "import " ++ source.quoted ++ ";"
  else "import " ++ commaSeparated clauses ++ " from " ++ source.quoted ++ ";"

/-! ## Expressions and statements -/

mutual

/-- The text of an expression whose line starts at an indentation level. -/
def Expr.print : Expr → Nat → Except Refusal Text
  | .ident name, _ => .ok name
  | .raw code, _ => .ok code
  | .str value, _ => .ok value.quoted
  | .num value, _ => value.text
  | .null, _ => .ok "null"
  | .undefined, _ => .ok "undefined"
  | .template texts substitutions, level =>
    if texts.length ≠ substitutions.length + 1 then .error .unevenTemplate
    else do
      let printed ← Expr.printAll substitutions level
      .ok ("\x60" ++ templateBody texts printed ++ "\x60")
  | .member object property, level => do
    let text ← object.print level
    let object := enclose object atomStrength text
    if isIdentifier property then .ok (object ++ "." ++ property)
    else .ok (object ++ "[" ++ property.quoted ++ "]")
  | .index object key, level => do
    let text ← object.print level
    let key ← key.print level
    .ok (enclose object atomStrength text ++ "[" ++ key ++ "]")
  | .call callee args, level => do
    let text ← callee.print level
    let args ← Expr.printAll args level
    .ok (enclose callee atomStrength text ++ "(" ++ commaSeparated args ++ ")")
  | .new callee args, level => do
    let callee ← callee.print level
    let args ← Expr.printAll args level
    .ok ("new " ++ callee ++ "(" ++ commaSeparated args ++ ")")
  | .obj properties multiline, level => do
    let entries ← Property.printAll properties (entryLevel multiline level)
    .ok (objectText entries multiline level)
  | .arr items, level => do
    let items ← Expr.printAll items level
    .ok ("[" ++ commaSeparated items ++ "]")
  | .arrow params body, level => do
    let params ← Param.printAll params level
    let text ← body.print level
    let text := match body with
      | .obj .. => "(" ++ text ++ ")"
      | _ => text
    .ok ("(" ++ commaSeparated params ++ ") => " ++ text)
  | .arrowBlock params body, level => do
    let params ← Param.printAll params level
    let lines ← Stmt.printAll body (level + 1)
    .ok ("(" ++ commaSeparated params ++ ") => \x7b\n" ++ Text.unlines lines ++ "\n" ++
      indent level ++ "\x7d")
  | .binary left operator right, level => do
    let leftText ← left.print level
    let rightText ← right.print level
    .ok (enclose left (operatorStrength operator) leftText ++ " " ++ operator ++ " " ++
      enclose right (operatorStrength operator + 1) rightText)
  | .conditional test consequent alternate, level => do
    let testText ← test.print level
    let consequent ← consequent.print level
    let alternate ← alternate.print level
    .ok (enclose test 1 testText ++ " ? " ++ consequent ++ " : " ++ alternate)
  | .chain base links, level => do
    let base ← base.print level
    let links ← Link.printAll links (level + 1)
    .ok (base ++ links)
  | .misplaced kind, _ => .error (.unsupportedExpression kind)

def Expr.printAll : List Expr → Nat → Except Refusal (List Text)
  | [], _ => .ok []
  | e :: rest, level => do
    let text ← e.print level
    let texts ← Expr.printAll rest level
    .ok (text :: texts)

def Property.print : Property → Nat → Except Refusal Text
  | .entry key value, level => do
    let value ← value.print level
    .ok (keyText key ++ ": " ++ value)
  | .shorthand key, _ => .ok (keyText key)

def Property.printAll : List Property → Nat → Except Refusal (List Text)
  | [], _ => .ok []
  | p :: rest, level => do
    let text ← p.print level
    let texts ← Property.printAll rest level
    .ok (text :: texts)

def Param.print : Param → Nat → Except Refusal Text
  | .named name typeHint, _ => .ok (annotated name typeHint)
  | .pattern properties multiline typeHint, level => do
    let entries ← Property.printAll properties (entryLevel multiline level)
    .ok (annotated (objectText entries multiline level) typeHint)

def Param.printAll : List Param → Nat → Except Refusal (List Text)
  | [], _ => .ok []
  | p :: rest, level => do
    let text ← p.print level
    let texts ← Param.printAll rest level
    .ok (text :: texts)

/-- The links of a chain, each on a line of its own at the level. -/
def Link.printAll : List Link → Nat → Except Refusal Text
  | [], _ => .ok []
  | .call method args :: rest, level => do
    let args ← Expr.printAll args level
    let links ← Link.printAll rest level
    .ok ("\n" ++ indent level ++ "." ++ method ++ "(" ++ commaSeparated args ++ ")" ++ links)

/-- The text of a statement at an indentation level. -/
def Stmt.print : Stmt → Nat → Except Refusal Text
  | .blank, _ => .ok []
  | .comment text, level => .ok (indent level ++ "// " ++ text)
  | .const name typeHint value, level => do
    let value ← value.print level
    .ok (indent level ++ "const " ++ annotated name typeHint ++ " = " ++ value ++ ";")
  | .expr value, level => do
    let value ← value.print level
    .ok (indent level ++ value ++ ";")
  | .return none, level => .ok (indent level ++ "return;")
  | .return (some value), level => do
    let value ← value.print level
    .ok (indent level ++ "return " ++ value ++ ";")
  | .delete target, level => do
    let target ← target.print level
    .ok (indent level ++ "delete " ++ target ++ ";")
  | .ifThen test body, level => do
    let lines ← Stmt.printAll body (level + 1)
    let test ← test.print level
    .ok (indent level ++ "if (" ++ test ++ ") \x7b\n" ++ Text.unlines lines ++ "\n" ++
      indent level ++ "\x7d")
  | .importFrom source default names, level =>
    .ok (indent level ++ importText source default names)
  | .exportDefault value, level => do
    let value ← value.print level
    .ok (indent level ++ "export default " ++ value ++ ";")
  | .misplaced kind, _ => .error (.unsupportedStatement kind)

def Stmt.printAll : List Stmt → Nat → Except Refusal (List Text)
  | [], _ => .ok []
  | s :: rest, level => do
    let text ← s.print level
    let texts ← Stmt.printAll rest level
    .ok (text :: texts)

end

/-- A module of statements, each on its own lines, ended by a line feed. -/
def printModule (statements : List Stmt) : Except Refusal Text := do
  let texts ← Stmt.printAll statements 0
  .ok (Text.unlines texts ++ "\n")

end Routewright.Script
