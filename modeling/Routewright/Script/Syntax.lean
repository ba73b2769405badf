/-
Trees of the script language that modules are written in: the expressions and statements that a
generated module is made of, and no others. Nothing here is text; escaping, parentheses and
indentation belong to the printer.
-/
import Routewright.Number.Double
import Routewright.Text.Basic

namespace Routewright.Script

/-- The value of a numeric literal. A truth value is no number, and printing refuses it. -/
inductive Numeral where
  | int (i : Int)
  | float (d : Double)
  | truth (b : Bool)
deriving Inhabited

/-- The numeral of a number. -/
def Numeral.ofNumber : Number → Numeral
  | .int i => .int i
  | .float d => .float d

mutual

inductive Expr where
  | ident (name : Text)
  /-- Code that is printed as it is. -/
  | raw (code : Text)
  | str (value : Text)
  | num (value : Numeral)
  | null
  | undefined
  /-- A template literal: its texts, and the substitutions between each two of them. -/
  | template (texts : List Text) (substitutions : List Expr)
  | member (object : Expr) (property : Text)
  | index (object : Expr) (key : Expr)
  | call (callee : Expr) (args : List Expr)
  | new (callee : Expr) (args : List Expr)
  | obj (properties : List Property) (multiline : Bool)
  | arr (items : List Expr)
  /-- An arrow function whose body is an expression. -/
  | arrow (params : List Param) (body : Expr)
  /-- An arrow function whose body is a block. -/
  | arrowBlock (params : List Param) (body : List Stmt)
  | binary (left : Expr) (operator : Text) (right : Expr)
  | conditional (test consequent alternate : Expr)
  /-- A chain of calls under a base, printed one link a line. -/
  | chain (base : Expr) (links : List Link)
  /-- A node of some other kind in the place of an expression; printing refuses it. -/
  | misplaced (kind : Text)

/-- An entry of an object. -/
inductive Property where
  | entry (key : Text) (value : Expr)
  | shorthand (key : Text)

/-- A parameter of an arrow function: a name, or an object pattern. -/
inductive Param where
  | named (name : Text) (typeHint : Option Text)
  | pattern (properties : List Property) (multiline : Bool) (typeHint : Option Text)

/-- A call in a chain. -/
inductive Link where
  | call (method : Text) (args : List Expr)

inductive Stmt where
  | const (name : Text) (typeHint : Option Text) (value : Expr)
  | expr (value : Expr)
  | return (value : Option Expr)
  | ifThen (test : Expr) (body : List Stmt)
  | delete (target : Expr)
  | comment (text : Text)
  | blank
  | importFrom (source : Text) (default : Option Text) (names : List Text)
  | exportDefault (value : Expr)
  /-- A node of some other kind in the place of a statement; printing refuses it. -/
  | misplaced (kind : Text)

end

instance : Inhabited Expr := ⟨.null⟩

instance : Inhabited Stmt := ⟨.blank⟩

instance : Inhabited Property := ⟨.shorthand []⟩

instance : Inhabited Param := ⟨.named [] none⟩

instance : Inhabited Link := ⟨.call [] []⟩

/-- The expression a dotted name stands for: an identifier and members of it. -/
def Expr.dotted (name : Text) : Expr :=
  match Text.splitOn '.' name with
  | [] => .ident []
  | head :: rest => rest.foldl .member (.ident head)

/-- A call of a dotted name. -/
def Expr.callOf (name : Text) (args : List Expr) : Expr := .call (.dotted name) args

end Routewright.Script
