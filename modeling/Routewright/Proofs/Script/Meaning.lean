/-
What script trees do when they run. Expressions and statements act on a store of arrays and objects
and read constants from a scope; running is partial, and what has no meaning here (an error of the
running script, or a kind of tree that no query-building script uses) has no outcome.

An object has its own properties only. Reading an absent one yields undefined, but reading or
writing a name that every object inherits has no meaning: nothing that is shown to run relies on
an inherited property. Values that come from outside are never changed in place, and integers stand
for numbers that are exact.
-/
import Routewright.Document.Named
import Routewright.Document.Value
import Routewright.Script.Syntax

namespace Routewright.Script

open Document

/-! ## Values -/

/-- A value of a running script. -/
inductive Val where
  | undefined
  /-- A value that is never changed in place. -/
  | data (v : Value)
  /-- The array or object at a place of the store. -/
  | ref (place : Nat)
  /-- One of the global objects whose functions scripts call. -/
  | global (name : Text)

namespace Val

abbrev text (t : Text) : Val := .data (.str t)

abbrev truth (b : Bool) : Val := .data (.bool b)

abbrev int (i : Int) : Val := .data (.int i)

/-- Whether a value counts as true in a test. -/
def holds : Val → Bool
  | undefined => false
  | data .null => false
  | data (.bool b) => b
  | data (.int i) => i != 0
  | data (.float d) => d != .nan && d.toInt? != some 0
  | data (.str t) => !t.isEmpty
  | _ => true

/-- The text of a value inside a template. -/
def toText? : Val → Option Text
  | undefined => some "undefined"
  | data .null => some "null"
  | data (.bool b) => some (if b then "true" else "false")
  | data (.int i) => some (Text.ofInt i)
  | data (.str t) => some t
  | _ => none

/-- The text of an item of an array that is joined. -/
def toPiece? : Val → Option Text
  | undefined => some []
  | data .null => some []
  | v => v.toText?

/-- Whether a decoded value is no list and no mapping. -/
def isPlain : Value → Bool
  | .null | .bool _ | .int _ | .float _ | .str _ => true
  | _ => false

/-- Strict equality of decoded values; two lists or mappings cannot be told apart by what they
hold. -/
def sameData? : Value → Value → Option Bool
  | .null, .null => some true
  | .bool a, .bool b => some (a == b)
  | .int a, .int b => some (a == b)
  | .float a, .float b => some (a.equal b)
  | .float d, .int i | .int i, .float d => some (d.equalsInt i)
  | .str a, .str b => some (a == b)
  | a, b => if isPlain a || isPlain b then some false else none

/-- Strict equality. -/
def same? : Val → Val → Option Bool
  | undefined, undefined => some true
  | data a, data b => sameData? a b
  | ref a, ref b => some (a == b)
  | global a, global b => some (a == b)
  | _, _ => some false

/-- Whether one number is greater than another. -/
def greater? : Val → Val → Option Bool
  | data (.int a), data (.int b) => some (b < a)
  | _, _ => none

end Val

/-! ## The store -/

/-- An array, or an object with its own properties. Nothing observes the order of properties. -/
inductive Cell where
  | array (items : List Val)
  | object (properties : Named Val)

/-- The arrays and objects that a script was given or has made, by place. -/
abbrev Store := List Cell

/-- The names of the properties that every object inherits. -/
def inheritedNames : List Text := [
  "constructor", "__defineGetter__", "__defineSetter__", "hasOwnProperty", "__lookupGetter__",
  "__lookupSetter__", "isPrototypeOf", "propertyIsEnumerable", "toString", "valueOf", "__proto__",
  "toLocaleString"]

/-- What reading a property yields, by what the object itself holds. -/
def ownOrUndefined (name : Text) (own : Option Val) : Option Val :=
  match own with
  | some v => some v
  | none => if inheritedNames.contains name then none else some .undefined

namespace Store

/-- The items of an array. -/
def items? (s : Store) : Val → Option (List Val)
  | .data (.list vs) => some (vs.map .data)
  | .ref place =>
    match s[place]? with
    | some (.array items) => some items
    | _ => none
  | _ => none

/-- The properties of an object that can be changed. -/
def properties? (s : Store) : Val → Option (Nat × Named Val)
  | .ref place =>
    match s[place]? with
    | some (.object properties) => some (place, properties)
    | _ => none
  | _ => none

/-- A property of an object, or the length of an array. -/
def property? (s : Store) (v : Val) (name : Text) : Option Val :=
  match s.items? v with
  | some items => if name = "length" then some (.int items.length) else none
  | none =>
    match s.properties? v, v with
    | some (_, properties), _ => ownOrUndefined name (properties.get? name)
    | none, .data (.map entries) =>
      ownOrUndefined name ((Value.lookup (.str name) entries).map .data)
    | none, _ => none

/-- A new array or object. -/
def alloc (s : Store) (c : Cell) : Val × Store := (.ref s.length, s ++ [c])

/-- Gives a property of an object a value. -/
def assign? (s : Store) (object : Val) (name : Text) (v : Val) : Option Store := do
  let (place, properties) ← s.properties? object
  if inheritedNames.contains name then none
  else some (s.set place (.object (properties.put name v)))

/-- Takes a property from an object. -/
def delete? (s : Store) (object : Val) (name : Text) : Option Store := do
  let (place, properties) ← s.properties? object
  some (s.set place (.object (properties.erase name)))

/-- Gives an object the properties of another one. -/
def assignAll? (s : Store) (target source : Val) : Option Store := do
  let (place, properties) ← s.properties? target
  let (_, additions) ← s.properties? source
  if additions.any (inheritedNames.contains ·.1) then none
  else some (s.set place (.object (properties.putAll additions)))

/-- Adds an item to an array that the script made, and yields the new length. -/
def push? (s : Store) (array item : Val) : Option (Val × Store) :=
  match array with
  | .ref place =>
    match s[place]? with
    | some (.array items) =>
      some (.int (items.length + 1 : Nat), s.set place (.array (items ++ [item])))
    | _ => none
  | _ => none

/-- The items of an array as one text. -/
def join? (s : Store) (array separator : Val) : Option Val := do
  let items ← s.items? array
  let separator ← separator.toText?
  let pieces ← items.mapM Val.toPiece?
  some (.text (Text.join separator pieces))

end Store

/-! ## Scopes -/

/-- The constants in scope, innermost first; one whose declaration is still to come has no value. -/
abbrev Scope := List (Text × Option Val)

namespace Scope

def globals : List Text := ["Array", "Object"]

/-- What a name stands for. -/
def get? (scope : Scope) (name : Text) : Option Val :=
  match scope.lookup name with
  | some v => v
  | none => if globals.contains name then some (.global name) else none

/-- The scope of a function's body. -/
def bind? : List Param → List Val → Scope → Option Scope
  | [], _, scope => some scope
  | .named name _ :: params, v :: vs, scope => bind? params vs ((name, some v) :: scope)
  | _, _, _ => none

end Scope

/-- The names that the statements of a block declare. -/
def declared (body : List Stmt) : List Text :=
  body.filterMap fun s =>
    match s with
    | .const name _ _ => some name
    | _ => none

/-- The scope at the start of a block, unless the block declares a name twice. -/
def Scope.enter? (scope : Scope) (body : List Stmt) : Option Scope :=
  if (declared body).Nodup then some ((declared body).map (fun name => (name, none)) ++ scope)
  else none

/-! ## Running -/

/-- Runs a step for each item of an array, which is given its index, and collects what the steps
yield. -/
def forItems (step : Nat → Val → Store → Option (Val × Store)) :
    Nat → List Val → Store → Option (List Val × Store)
  | _, [], s => some ([], s)
  | index, v :: rest, s => do
    let (result, s) ← step index v s
    let (results, s) ← forItems step (index + 1) rest s
    some (result :: results, s)

/-- A method that visits the items of an array, of what the visits came to. -/
def visited? (method : Text) (results : List Val) (s : Store) : Option (Val × Store) :=
  if method = "map" then some (s.alloc (.array results))
  else if method = "forEach" then some (.undefined, s)
  else none

/-- A method that is called with values. -/
def method? (receiver : Val) (method : Text) (args : List Val) (s : Store) :
    Option (Val × Store) :=
  match receiver, args with
  | .global name, [v] =>
    if name = "Array" ∧ method = "isArray" then some (.truth (s.items? v).isSome, s) else none
  | .global name, [target, source] =>
    if name = "Object" ∧ method = "assign" then (s.assignAll? target source).map (target, ·)
    else none
  | receiver, [v] =>
    if method = "push" then s.push? receiver v
    else if method = "join" then (s.join? receiver v).map (·, s)
    else none
  | _, _ => none

/-- A binary operator on two values. -/
def operate? (operator : Text) (a b : Val) : Option Val :=
  if operator = "===" then (a.same? b).map .truth
  else if operator = "!==" then (a.same? b).map fun same => .truth !same
  else if operator = ">" then (a.greater? b).map .truth
  else none

/-- The text of a template literal. -/
def templateText : List Text → List Text → Text
  | [], _ => []
  | text :: _, [] => text
  | text :: texts, substitution :: substitutions =>
    text ++ substitution ++ templateText texts substitutions

mutual

/-- The value of an expression, and the store that is left. -/
def Expr.run : Expr → Scope → Store → Option (Val × Store)
  | .ident name, scope, s => (scope.get? name).map (·, s)
  | .str value, _, s => some (.text value, s)
  | .num (.int i), _, s => some (.int i, s)
  | .null, _, s => some (.data .null, s)
  | .undefined, _, s => some (.undefined, s)
  | .template texts substitutions, scope, s => do
    let (values, s) ← Expr.runAll substitutions scope s
    let shown ← values.mapM Val.toText?
    some (.text (templateText texts shown), s)
  | .member object property, scope, s => do
    let (v, s) ← object.run scope s
    (s.property? v property).map (·, s)
  | .index object key, scope, s => do
    let (v, s) ← object.run scope s
    let (k, s) ← key.run scope s
    (s.property? v (← k.toText?)).map (·, s)
  | .call (.member object method) [.arrow params body], scope, s => do
    let (receiver, s) ← object.run scope s
    let items ← s.items? receiver
    let (results, s) ← forItems
      (fun index v s => do body.run (← scope.bind? params [v, .int index]) s) 0 items s
    visited? method results s
  | .call (.member object method) [.arrowBlock params body], scope, s => do
    let (receiver, s) ← object.run scope s
    let items ← s.items? receiver
    let (results, s) ← forItems
      (fun index v s => do
        let inner ← scope.bind? params [v, .int index]
        let (_, s) ← Stmt.runAll body (← inner.enter? body) s
        some (.undefined, s)) 0 items s
    visited? method results s
  | .call (.member object method) args, scope, s => do
    let (receiver, s) ← object.run scope s
    let (values, s) ← Expr.runAll args scope s
    method? receiver method values s
  | .obj [] _, _, s => some (s.alloc (.object []))
  | .arr items, scope, s => do
    let (values, s) ← Expr.runAll items scope s
    some (s.alloc (.array values))
  | .binary left operator right, scope, s =>
    if operator = "=" then
      match left with
      | .member object property => do
        let (v, s) ← object.run scope s
        let (value, s) ← right.run scope s
        (s.assign? v property value).map (value, ·)
      | .index object key => do
        let (v, s) ← object.run scope s
        let (k, s) ← key.run scope s
        let (value, s) ← right.run scope s
        (s.assign? v (← k.toText?) value).map (value, ·)
      | _ => none
    else do
      let (v, s) ← left.run scope s
      if operator = "&&" then if v.holds then right.run scope s else some (v, s)
      else
        let (value, s) ← right.run scope s
        (operate? operator v value).map (·, s)
  | .conditional test consequent alternate, scope, s => do
    let (v, s) ← test.run scope s
    if v.holds then consequent.run scope s else alternate.run scope s
  | _, _, _ => none

def Expr.runAll : List Expr → Scope → Store → Option (List Val × Store)
  | [], _, s => some ([], s)
  | e :: rest, scope, s => do
    let (v, s) ← e.run scope s
    let (vs, s) ← Expr.runAll rest scope s
    some (v :: vs, s)

/-- The scope and the store after a statement. -/
def Stmt.run : Stmt → Scope → Store → Option (Scope × Store)
  | .const name _ value, scope, s => do
    let (v, s) ← value.run scope s
    some ((name, some v) :: scope, s)
  | .expr value, scope, s => do
    let (_, s) ← value.run scope s
    some (scope, s)
  | .ifThen test body, scope, s => do
    let (v, s) ← test.run scope s
    if v.holds then
      let (_, s) ← Stmt.runAll body (← scope.enter? body) s
      some (scope, s)
    else some (scope, s)
  | .delete (.member object property), scope, s => do
    let (v, s) ← object.run scope s
    (s.delete? v property).map (scope, ·)
  | .comment _, scope, s => some (scope, s)
  | .blank, scope, s => some (scope, s)
  | _, _, _ => none

def Stmt.runAll : List Stmt → Scope → Store → Option (Scope × Store)
  | [], scope, s => some (scope, s)
  | statement :: rest, scope, s => do
    let (scope, s) ← statement.run scope s
    Stmt.runAll rest scope s

end

attribute [simp] Expr.run Expr.runAll Stmt.run Stmt.runAll

/-! ## Operators and methods -/

theorem operate?_same (a b : Val) : operate? "===" a b = (a.same? b).map .truth := rfl

theorem operate?_notSame (a b : Val) :
    operate? "!==" a b = (a.same? b).map fun same => .truth !same := rfl

theorem operate?_greater (a b : Val) : operate? ">" a b = (a.greater? b).map .truth := rfl

theorem visited?_map (results : List Val) (s : Store) :
    visited? "map" results s = some (.ref s.length, s ++ [.array results]) := rfl

theorem visited?_forEach (results : List Val) (s : Store) :
    visited? "forEach" results s = some (.undefined, s) := rfl

theorem method?_isArray (v : Val) (s : Store) :
    method? (.global "Array") "isArray" [v] s = some (.truth (s.items? v).isSome, s) := rfl

theorem method?_assign (target source : Val) (s : Store) :
    method? (.global "Object") "assign" [target, source] s =
      (s.assignAll? target source).map (target, ·) := rfl

theorem method?_push (place : Nat) (v : Val) (s : Store) :
    method? (.ref place) "push" [v] s = s.push? (.ref place) v := rfl

theorem method?_join (place : Nat) (v : Val) (s : Store) :
    method? (.ref place) "join" [v] s = (s.join? (.ref place) v).map (·, s) := rfl

/-- Joining texts. -/
theorem Store.join?_texts {s : Store} {array : Val} {ts : List Text} (separator : Text)
    (h : s.items? array = some (ts.map .text)) :
    s.join? array (.text separator) = some (.text (Text.join separator ts)) := by
  have hp : (ts.map Val.text).mapM Val.toPiece? = some ts := by
    clear h
    induction ts with
    | nil => rfl
    | cons t ts ih =>
      simp only [List.map_cons, List.mapM_cons, Val.toPiece?, Val.toText?, Option.bind_eq_bind,
        Option.bind_some, ih, Option.pure_def]
  simp only [Store.join?, h, Val.toText?, hp, Option.bind_eq_bind, Option.bind_some]

/-! ## Runs of composed trees -/

section Runs

variable {scope : Scope} {s s₁ s₂ : Store}

theorem run_ident {name : Text} {v : Val} (h : scope.get? name = some v) (s : Store) :
    (Expr.ident name).run scope s = some (v, s) := by
  rw [Expr.run, h]; rfl

theorem run_const (name : Text) (type : Option Text) {value : Expr} {v : Val}
    (h : value.run scope s = some (v, s₁)) :
    (Stmt.const name type value).run scope s = some ((name, some v) :: scope, s₁) := by
  rw [Stmt.run, h, Option.bind_eq_bind, Option.bind_some]

/-- One visit of an arrow function whose body is an expression. -/
def Expr.visit (params : List Param) (body : Expr) (scope : Scope) (index : Nat) (v : Val)
    (s : Store) : Option (Val × Store) := do
  body.run (← scope.bind? params [v, .int index]) s

/-- One visit of an arrow function whose body is a block. -/
def Stmt.visit (params : List Param) (body : List Stmt) (scope : Scope) (index : Nat) (v : Val)
    (s : Store) : Option (Val × Store) := do
  let inner ← scope.bind? params [v, .int index]
  let (_, s) ← Stmt.runAll body (← inner.enter? body) s
  some (.undefined, s)

theorem run_visits {object body : Expr} {params : List Param} (method : Text) {receiver : Val}
    {items results : List Val} (ho : object.run scope s = some (receiver, s₁))
    (hi : s₁.items? receiver = some items)
    (hv : forItems (body.visit params scope) 0 items s₁ = some (results, s₂)) :
    (Expr.call (.member object method) [.arrow params body]).run scope s =
      visited? method results s₂ := by
  simp only [Expr.run, ho, hi, Option.bind_eq_bind, Option.bind_some]
  change (forItems (body.visit params scope) 0 items s₁).bind _ = _
  rw [hv, Option.bind_some]

theorem run_blockVisits {object : Expr} {params : List Param} {body : List Stmt} {method : Text}
    {receiver : Val} {items results : List Val} (ho : object.run scope s = some (receiver, s₁))
    (hi : s₁.items? receiver = some items)
    (hv : forItems (Stmt.visit params body scope) 0 items s₁ = some (results, s₂)) :
    (Expr.call (.member object method) [.arrowBlock params body]).run scope s =
      visited? method results s₂ := by
  simp only [Expr.run, ho, hi, Option.bind_eq_bind, Option.bind_some]
  change (forItems (Stmt.visit params body scope) 0 items s₁).bind _ = _
  rw [hv, Option.bind_some]

/-- Whether an expression is an arrow function. -/
def Expr.isArrow : Expr → Bool
  | .arrow .. | .arrowBlock .. => true
  | _ => false

theorem run_method {object : Expr} {args : List Expr} {method : Text} {receiver : Val}
    {values : List Val} (ha : args.all (!·.isArrow))
    (ho : object.run scope s = some (receiver, s₁))
    (hr : Expr.runAll args scope s₁ = some (values, s₂)) :
    (Expr.call (.member object method) args).run scope s = method? receiver method values s₂ := by
  rw [Expr.run]
  · simp only [ho, hr, Option.bind_eq_bind, Option.bind_some]
  · rintro params body rfl; simp [Expr.isArrow] at ha
  · rintro params body rfl; simp [Expr.isArrow] at ha

theorem runAll_singleton {e : Expr} {v : Val} (h : e.run scope s = some (v, s₁)) :
    Expr.runAll [e] scope s = some ([v], s₁) := by
  simp only [Expr.runAll, h, Option.bind_eq_bind, Option.bind_some]

theorem run_operate {left : Expr} (operator : Text) (right : Expr) {a b : Val}
    (ho : operator ≠ "=" ∧ operator ≠ "&&") (hl : left.run scope s = some (a, s₁))
    (hr : right.run scope s₁ = some (b, s₂)) :
    (Expr.binary left operator right).run scope s = (operate? operator a b).map (·, s₂) := by
  rw [Expr.run.eq_def]
  simp only [ho.1, ho.2, if_false, hl, hr, Option.bind_eq_bind, Option.bind_some]

theorem run_assignMember {object right : Expr} {name : Text} {target v : Val}
    (ho : object.run scope s = some (target, s₁)) (hr : right.run scope s₁ = some (v, s₂)) :
    (Expr.binary (.member object name) "=" right).run scope s =
      (s₂.assign? target name v).map (v, ·) := by
  simp only [Expr.run, ho, hr, if_true, Option.bind_eq_bind, Option.bind_some]

theorem run_and_of_holds {left right : Expr} {a : Val} (hl : left.run scope s = some (a, s₁))
    (ha : a.holds = true) : (Expr.binary left "&&" right).run scope s = right.run scope s₁ := by
  have : Text.ofString "&&" ≠ "=" := by decide
  rw [Expr.run.eq_def]
  simp only [this, if_false, if_true, hl, ha, Option.bind_eq_bind, Option.bind_some]

theorem run_and_of_fails {left right : Expr} {a : Val} (hl : left.run scope s = some (a, s₁))
    (ha : a.holds = false) : (Expr.binary left "&&" right).run scope s = some (a, s₁) := by
  have : Text.ofString "&&" ≠ "=" := by decide
  rw [Expr.run.eq_def]
  simp only [this, if_false, if_true, hl, ha, Bool.false_eq_true, Option.bind_eq_bind,
    Option.bind_some]

/-- A block that declares nothing runs in the scope it stands in. -/
theorem enter?_of_declared_nil {body : List Stmt} (h : declared body = []) :
    scope.enter? body = some scope := by
  rw [Scope.enter?, h]; rfl

theorem run_conditional_of_holds {test yes no : Expr} {v : Val}
    (ht : test.run scope s = some (v, s₁)) (hv : v.holds = true) :
    (Expr.conditional test yes no).run scope s = yes.run scope s₁ := by
  simp only [Expr.run, ht, hv, if_true, Option.bind_eq_bind, Option.bind_some]

theorem run_conditional_of_fails {test yes no : Expr} {v : Val}
    (ht : test.run scope s = some (v, s₁)) (hv : v.holds = false) :
    (Expr.conditional test yes no).run scope s = no.run scope s₁ := by
  simp only [Expr.run, ht, hv, Bool.false_eq_true, if_false, Option.bind_eq_bind, Option.bind_some]

theorem run_ifThen_of_holds {test : Expr} {body : List Stmt} {v : Val} {inner : Scope}
    (ht : test.run scope s = some (v, s₁)) (hv : v.holds = true)
    (he : scope.enter? body = some inner) (hb : ∃ out, Stmt.runAll body inner s₁ = some (out, s₂)) :
    (Stmt.ifThen test body).run scope s = some (scope, s₂) := by
  obtain ⟨out, hb⟩ := hb
  simp only [Stmt.run, ht, hv, he, hb, if_true, Option.bind_eq_bind, Option.bind_some]

theorem run_ifThen_of_fails {test : Expr} {body : List Stmt} {v : Val}
    (ht : test.run scope s = some (v, s₁)) (hv : v.holds = false) :
    (Stmt.ifThen test body).run scope s = some (scope, s₁) := by
  simp only [Stmt.run, ht, hv, Bool.false_eq_true, if_false, Option.bind_eq_bind, Option.bind_some]

theorem runAll_cons {statement : Stmt} {rest : List Stmt} {scope' : Scope}
    (h : statement.run scope s = some (scope', s₁)) :
    Stmt.runAll (statement :: rest) scope s = Stmt.runAll rest scope' s₁ := by
  simp only [Stmt.runAll, h, Option.bind_eq_bind, Option.bind_some]

theorem runAll_append {first : List Stmt} (rest : List Stmt) {scope' : Scope}
    (h : Stmt.runAll first scope s = some (scope', s₁)) :
    Stmt.runAll (first ++ rest) scope s = Stmt.runAll rest scope' s₁ := by
  induction first generalizing scope s with
  | nil => simp only [Stmt.runAll, Option.some.injEq, Prod.mk.injEq] at h; rw [h.1, h.2]; rfl
  | cons statement first ih =>
    rw [Stmt.runAll, Option.bind_eq_bind, Option.bind_eq_some_iff] at h
    obtain ⟨⟨scope₁, s'⟩, h₁, h⟩ := h
    rw [List.cons_append, runAll_cons h₁, ih h]

end Runs

end Routewright.Script
