/-
Which names a tree uses and what binds them. An expression is looked through down to its identifiers;
code that is printed as it is stays closed to that. Parameters bind names in the body of their
function, and a constant or an import binds names in the statements that come after it.
-/
import Routewright.Proofs.Script.Meaning

namespace Routewright.Script

/-! ## What stands in a tree -/

mutual

/-- An expression and all the expressions in it. Patterns of parameters are none; an entry in short
form uses the name that it is short for. -/
def Expr.within : Expr → List Expr
  | .template texts substitutions => .template texts substitutions :: Expr.allWithin substitutions
  | .member object property => .member object property :: object.within
  | .index object key => .index object key :: (object.within ++ key.within)
  | .call callee args => .call callee args :: (callee.within ++ Expr.allWithin args)
  | .new callee args => .new callee args :: (callee.within ++ Expr.allWithin args)
  | .obj properties multiline => .obj properties multiline :: Property.allWithin properties
  | .arr items => .arr items :: Expr.allWithin items
  | .arrow params body => .arrow params body :: body.within
  | .arrowBlock params body => .arrowBlock params body :: Stmt.allWithin body
  | .binary left operator right => .binary left operator right :: (left.within ++ right.within)
  | .conditional test consequent alternate =>
    .conditional test consequent alternate ::
      (test.within ++ (consequent.within ++ alternate.within))
  | .chain base links => .chain base links :: (base.within ++ Link.allWithin links)
  | e => [e]

def Expr.allWithin : List Expr → List Expr
  | [] => []
  | e :: rest => e.within ++ Expr.allWithin rest

def Property.allWithin : List Property → List Expr
  | [] => []
  | .entry _ value :: rest => value.within ++ Property.allWithin rest
  | .shorthand key :: rest => .ident key :: Property.allWithin rest

def Link.allWithin : List Link → List Expr
  | [] => []
  | .call _ args :: rest => Expr.allWithin args ++ Link.allWithin rest

def Stmt.within : Stmt → List Expr
  | .const _ _ value => value.within
  | .expr value => value.within
  | .return (some value) => value.within
  | .ifThen test body => test.within ++ Stmt.allWithin body
  | .delete target => target.within
  | .exportDefault value => value.within
  | _ => []

def Stmt.allWithin : List Stmt → List Expr
  | [] => []
  | s :: rest => s.within ++ Stmt.allWithin rest

end

/-! ## Bound names -/

mutual

/-- The names that an expression binds where a pattern is meant. -/
def Expr.binders : Expr → List Text
  | .ident name => [name]
  | .obj properties _ => Property.binders properties
  | _ => []

def Property.binders : List Property → List Text
  | [] => []
  | .entry _ value :: rest => value.binders ++ Property.binders rest
  | .shorthand key :: rest => key :: Property.binders rest

end

def Param.binders : Param → List Text
  | .named name _ => [name]
  | .pattern properties _ _ => Property.binders properties

/-- The names that a statement binds in the statements after it. -/
def Stmt.binders : Stmt → List Text
  | .const name _ _ => [name]
  | .importFrom _ default names => default.toList ++ names
  | _ => []

mutual

/-- Whether every name that an expression uses is bound in it or by the scope that it stands in. -/
def Expr.isClosed : List Text → Expr → Bool
  | scope, .ident name => scope.contains name
  | scope, .template _ substitutions => Expr.allClosed scope substitutions
  | scope, .member object _ => object.isClosed scope
  | scope, .index object key => object.isClosed scope && key.isClosed scope
  | scope, .call callee args => callee.isClosed scope && Expr.allClosed scope args
  | scope, .new callee args => callee.isClosed scope && Expr.allClosed scope args
  | scope, .obj properties _ => Property.allClosed scope properties
  | scope, .arr items => Expr.allClosed scope items
  | scope, .arrow params body => body.isClosed (params.flatMap Param.binders ++ scope)
  | scope, .arrowBlock params body => Stmt.allClosed (params.flatMap Param.binders ++ scope) body
  | scope, .binary left _ right => left.isClosed scope && right.isClosed scope
  | scope, .conditional test consequent alternate =>
    test.isClosed scope && (consequent.isClosed scope && alternate.isClosed scope)
  | scope, .chain base links => base.isClosed scope && Link.allClosed scope links
  | _, _ => true

def Expr.allClosed : List Text → List Expr → Bool
  | _, [] => true
  | scope, e :: rest => e.isClosed scope && Expr.allClosed scope rest

def Property.allClosed : List Text → List Property → Bool
  | _, [] => true
  | scope, .entry _ value :: rest => value.isClosed scope && Property.allClosed scope rest
  | scope, .shorthand key :: rest => scope.contains key && Property.allClosed scope rest

def Link.allClosed : List Text → List Link → Bool
  | _, [] => true
  | scope, .call _ args :: rest => Expr.allClosed scope args && Link.allClosed scope rest

def Stmt.isClosed : List Text → Stmt → Bool
  | scope, .const _ _ value => value.isClosed scope
  | scope, .expr value => value.isClosed scope
  | scope, .return (some value) => value.isClosed scope
  | scope, .ifThen test body => test.isClosed scope && Stmt.allClosed scope body
  | scope, .delete target => target.isClosed scope
  | scope, .exportDefault value => value.isClosed scope
  | _, _ => true

/-- Whether the statements of a block are closed, each in the scope that the ones before it leave. -/
def Stmt.allClosed : List Text → List Stmt → Bool
  | _, [] => true
  | scope, s :: rest => s.isClosed scope && Stmt.allClosed (s.binders ++ scope) rest

end

/-! ## Lists of trees -/

/-- The name that an identifier is. -/
def Expr.name? : Expr → Option Text
  | .ident name => some name
  | _ => none

/-- The identifiers of an expression, in order and each as often as it is used. -/
def Expr.names (e : Expr) : List Text := e.within.filterMap Expr.name?

theorem Expr.mem_names {name : Text} {e : Expr} : name ∈ e.names ↔ .ident name ∈ e.within := by
  rw [names, List.mem_filterMap]
  constructor
  · rintro ⟨inner, hinner, hname⟩
    cases inner with
    | ident other => exact Option.some.inj hname ▸ hinner
    | _ => cases hname
  · exact fun h => ⟨_, h, rfl⟩

/-- The functions that an expression calls by a bare name. -/
def Expr.Calls (e : Expr) (name : Text) : Prop := ∃ args, Expr.call (.ident name) args ∈ e.within

/-- Whether an expression is an object. -/
def Expr.isObject : Expr → Bool
  | .obj .. => true
  | _ => false

def Link.args : Link → List Expr
  | .call _ args => args

/-- The functions that a link passes on. -/
def Link.handlers (l : Link) : List Expr := l.args.filter Expr.isArrow

/-- The objects that a link passes on. -/
def Link.options (l : Link) : List Expr := l.args.filter Expr.isObject

theorem Expr.mem_allWithin {e : Expr} {es : List Expr} :
    e ∈ Expr.allWithin es ↔ ∃ f ∈ es, e ∈ f.within := by
  induction es with
  | nil => simp [Expr.allWithin]
  | cons f es ih => simp [Expr.allWithin, ih]

theorem Link.mem_allWithin_singleton {e : Expr} {l : Link} :
    e ∈ Link.allWithin [l] ↔ ∃ arg ∈ l.args, e ∈ arg.within := by
  obtain ⟨method, args⟩ := l
  rw [Link.allWithin, Link.allWithin, List.append_nil, Expr.mem_allWithin]
  rfl

theorem Expr.allWithin_append (es fs : List Expr) :
    Expr.allWithin (es ++ fs) = Expr.allWithin es ++ Expr.allWithin fs := by
  induction es with
  | nil => rfl
  | cons e es ih => rw [List.cons_append, Expr.allWithin, Expr.allWithin, ih, List.append_assoc]

theorem Property.allWithin_append (ps qs : List Property) :
    Property.allWithin (ps ++ qs) = Property.allWithin ps ++ Property.allWithin qs := by
  induction ps with
  | nil => rfl
  | cons p ps ih => cases p <;> simp [Property.allWithin, ih]

theorem Stmt.allWithin_append (xs ys : List Stmt) :
    Stmt.allWithin (xs ++ ys) = Stmt.allWithin xs ++ Stmt.allWithin ys := by
  induction xs with
  | nil => rfl
  | cons x xs ih => rw [List.cons_append, Stmt.allWithin, Stmt.allWithin, ih, List.append_assoc]

/-- The identifiers in the entries of an object. -/
def Property.names (ps : List Property) : List Text := (Property.allWithin ps).filterMap Expr.name?

theorem Expr.names_obj (ps : List Property) (multiline : Bool) :
    (Expr.obj ps multiline).names = Property.names ps := by
  rw [Expr.names, Expr.within, List.filterMap_cons_none rfl, Property.names]

theorem Property.names_append (ps qs : List Property) :
    Property.names (ps ++ qs) = Property.names ps ++ Property.names qs := by
  rw [Property.names, Property.allWithin_append, List.filterMap_append]
  rfl

theorem Property.names_entry (key : Text) (value : Expr) :
    Property.names [.entry key value] = value.names := by
  rw [Property.names, Property.allWithin, Property.allWithin, List.append_nil, Expr.names]

/-- The scope after some statements. -/
def Stmt.scopeAfter (scope : List Text) (body : List Stmt) : List Text :=
  body.foldl (fun scope s => s.binders ++ scope) scope

theorem Expr.allClosed_append (scope : List Text) (es fs : List Expr) :
    Expr.allClosed scope (es ++ fs) = (Expr.allClosed scope es && Expr.allClosed scope fs) := by
  induction es with
  | nil => rfl
  | cons e es ih => rw [List.cons_append, Expr.allClosed, Expr.allClosed, ih, Bool.and_assoc]

theorem Expr.allClosed_iff {scope : List Text} {es : List Expr} :
    Expr.allClosed scope es ↔ ∀ e ∈ es, e.isClosed scope := by
  induction es with
  | nil => simp [Expr.allClosed]
  | cons e es ih => simp [Expr.allClosed, ih]

theorem Link.allClosed_iff {scope : List Text} {ls : List Link} :
    Link.allClosed scope ls ↔ ∀ l ∈ ls, ∀ arg ∈ l.args, arg.isClosed scope := by
  induction ls with
  | nil => simp [Link.allClosed]
  | cons l ls ih =>
    obtain ⟨method, args⟩ := l
    simp [Link.allClosed, Expr.allClosed_iff, Link.args, ih]

theorem Stmt.scopeAfter_append (scope : List Text) (xs ys : List Stmt) :
    Stmt.scopeAfter scope (xs ++ ys) = Stmt.scopeAfter (Stmt.scopeAfter scope xs) ys :=
  List.foldl_append

theorem Stmt.allClosed_append (scope : List Text) (xs ys : List Stmt) :
    Stmt.allClosed scope (xs ++ ys) =
      (Stmt.allClosed scope xs && Stmt.allClosed (Stmt.scopeAfter scope xs) ys) := by
  induction xs generalizing scope with
  | nil => rfl
  | cons x xs ih =>
    rw [List.cons_append, Stmt.allClosed, Stmt.allClosed, ih, Bool.and_assoc]
    rfl

theorem Stmt.mem_scopeAfter_iff {name : Text} {scope : List Text} {body : List Stmt} :
    name ∈ Stmt.scopeAfter scope body ↔ name ∈ scope ∨ ∃ s ∈ body, name ∈ s.binders := by
  induction body generalizing scope with
  | nil => simp [Stmt.scopeAfter]
  | cons x body ih =>
    rw [Stmt.scopeAfter, List.foldl_cons, ← Stmt.scopeAfter, ih, List.mem_append]
    simp only [List.mem_cons, exists_eq_or_imp]
    rw [or_comm (b := name ∈ scope), or_assoc]

/-! ## Trees that use no name beyond the scope -/

mutual

/-- A tree is closed in every scope that has all the names it uses. -/
theorem Expr.isClosed_of_within : ∀ (e : Expr) {scope : List Text},
    (∀ name, Expr.ident name ∈ e.within → name ∈ scope) → e.isClosed scope
  | .ident name, scope, h => by
    simpa [Expr.isClosed] using h name (by simp [Expr.within])
  | .template texts substitutions, scope, h => by
    rw [Expr.isClosed]
    exact Expr.allClosed_of_allWithin substitutions fun name hname =>
      h name (by simp [Expr.within, hname])
  | .member object property, scope, h => by
    rw [Expr.isClosed]
    exact object.isClosed_of_within fun name hname => h name (by simp [Expr.within, hname])
  | .index object key, scope, h => by
    rw [Expr.isClosed, Bool.and_eq_true]
    exact ⟨object.isClosed_of_within fun name hname => h name (by simp [Expr.within, hname]),
      key.isClosed_of_within fun name hname => h name (by simp [Expr.within, hname])⟩
  | .call callee args, scope, h | .new callee args, scope, h => by
    rw [Expr.isClosed, Bool.and_eq_true]
    exact ⟨callee.isClosed_of_within fun name hname => h name (by simp [Expr.within, hname]),
      Expr.allClosed_of_allWithin args fun name hname => h name (by simp [Expr.within, hname])⟩
  | .obj properties multiline, scope, h => by
    rw [Expr.isClosed]
    exact Property.allClosed_of_allWithin properties fun name hname =>
      h name (by simp [Expr.within, hname])
  | .arr items, scope, h => by
    rw [Expr.isClosed]
    exact Expr.allClosed_of_allWithin items fun name hname => h name (by simp [Expr.within, hname])
  | .arrow params body, scope, h => by
    rw [Expr.isClosed]
    exact body.isClosed_of_within fun name hname =>
      List.mem_append_right _ (h name (by simp [Expr.within, hname]))
  | .arrowBlock params body, scope, h => by
    rw [Expr.isClosed]
    exact Stmt.allClosed_of_allWithin body fun name hname =>
      List.mem_append_right _ (h name (by simp [Expr.within, hname]))
  | .binary left operator right, scope, h => by
    rw [Expr.isClosed, Bool.and_eq_true]
    exact ⟨left.isClosed_of_within fun name hname => h name (by simp [Expr.within, hname]),
      right.isClosed_of_within fun name hname => h name (by simp [Expr.within, hname])⟩
  | .conditional test consequent alternate, scope, h => by
    rw [Expr.isClosed, Bool.and_eq_true, Bool.and_eq_true]
    exact ⟨test.isClosed_of_within fun name hname => h name (by simp [Expr.within, hname]),
      consequent.isClosed_of_within fun name hname => h name (by simp [Expr.within, hname]),
      alternate.isClosed_of_within fun name hname => h name (by simp [Expr.within, hname])⟩
  | .chain base links, scope, h => by
    rw [Expr.isClosed, Bool.and_eq_true]
    exact ⟨base.isClosed_of_within fun name hname => h name (by simp [Expr.within, hname]),
      Link.allClosed_of_allWithin links fun name hname => h name (by simp [Expr.within, hname])⟩
  | .raw _, _, _ | .str _, _, _ | .num _, _, _ | .null, _, _ | .undefined, _, _
  | .misplaced _, _, _ => rfl

theorem Expr.allClosed_of_allWithin : ∀ (es : List Expr) {scope : List Text},
    (∀ name, Expr.ident name ∈ Expr.allWithin es → name ∈ scope) → Expr.allClosed scope es
  | [], _, _ => rfl
  | e :: rest, scope, h => by
    rw [Expr.allClosed, Bool.and_eq_true]
    exact ⟨e.isClosed_of_within fun name hname => h name (by simp [Expr.allWithin, hname]),
      Expr.allClosed_of_allWithin rest fun name hname => h name (by simp [Expr.allWithin, hname])⟩

theorem Property.allClosed_of_allWithin : ∀ (ps : List Property) {scope : List Text},
    (∀ name, Expr.ident name ∈ Property.allWithin ps → name ∈ scope) → Property.allClosed scope ps
  | [], _, _ => rfl
  | .entry key value :: rest, scope, h => by
    rw [Property.allClosed, Bool.and_eq_true]
    exact ⟨value.isClosed_of_within fun name hname => h name (by simp [Property.allWithin, hname]),
      Property.allClosed_of_allWithin rest fun name hname =>
        h name (by simp [Property.allWithin, hname])⟩
  | .shorthand key :: rest, scope, h => by
    rw [Property.allClosed, Bool.and_eq_true, List.contains_eq_mem, decide_eq_true_eq]
    exact ⟨h key (by simp [Property.allWithin]),
      Property.allClosed_of_allWithin rest fun name hname =>
        h name (by simp [Property.allWithin, hname])⟩

theorem Link.allClosed_of_allWithin : ∀ (ls : List Link) {scope : List Text},
    (∀ name, Expr.ident name ∈ Link.allWithin ls → name ∈ scope) → Link.allClosed scope ls
  | [], _, _ => rfl
  | .call method args :: rest, scope, h => by
    rw [Link.allClosed, Bool.and_eq_true]
    exact ⟨Expr.allClosed_of_allWithin args fun name hname => h name (by simp [Link.allWithin, hname]),
      Link.allClosed_of_allWithin rest fun name hname => h name (by simp [Link.allWithin, hname])⟩

theorem Stmt.isClosed_of_within : ∀ (s : Stmt) {scope : List Text},
    (∀ name, Expr.ident name ∈ s.within → name ∈ scope) → s.isClosed scope
  | .const _ _ value, scope, h | .expr value, scope, h | .return (some value), scope, h
  | .delete value, scope, h | .exportDefault value, scope, h => by
    rw [Stmt.isClosed]
    exact value.isClosed_of_within fun name hname => h name (by simp [Stmt.within, hname])
  | .ifThen test body, scope, h => by
    rw [Stmt.isClosed, Bool.and_eq_true]
    exact ⟨test.isClosed_of_within fun name hname => h name (by simp [Stmt.within, hname]),
      Stmt.allClosed_of_allWithin body fun name hname => h name (by simp [Stmt.within, hname])⟩
  | .return none, _, _ | .comment _, _, _ | .blank, _, _ | .importFrom .., _, _
  | .misplaced _, _, _ => rfl

theorem Stmt.allClosed_of_allWithin : ∀ (body : List Stmt) {scope : List Text},
    (∀ name, Expr.ident name ∈ Stmt.allWithin body → name ∈ scope) → Stmt.allClosed scope body
  | [], _, _ => rfl
  | s :: rest, scope, h => by
    rw [Stmt.allClosed, Bool.and_eq_true]
    exact ⟨s.isClosed_of_within fun name hname => h name (by simp [Stmt.allWithin, hname]),
      Stmt.allClosed_of_allWithin rest fun name hname =>
        List.mem_append_right _ (h name (by simp [Stmt.allWithin, hname]))⟩

end

end Routewright.Script
