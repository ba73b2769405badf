/-
Which trees have a text. A tree is refused for what stands in it and never for where it stands: a
node of another kind, a truth value in the place of a number, or a template literal whose texts and
substitutions do not alternate. Every other tree is printed, at every indentation level.
-/
import Routewright.Script.Printer

namespace Routewright.Script

/-- Whether the value of a literal is a number. -/
def Numeral.isNumber : Numeral → Bool
  | .truth _ => false
  | _ => true

mutual

/-- Whether an expression has a text. -/
def Expr.isPrintable : Expr → Bool
  | .num value => value.isNumber
  | .template texts substitutions =>
    decide (texts.length = substitutions.length + 1) && Expr.allPrintable substitutions
  | .member object _ => object.isPrintable
  | .index object key => object.isPrintable && key.isPrintable
  | .call callee args => callee.isPrintable && Expr.allPrintable args
  | .new callee args => callee.isPrintable && Expr.allPrintable args
  | .obj properties _ => Property.allPrintable properties
  | .arr items => Expr.allPrintable items
  | .arrow params body => Param.allPrintable params && body.isPrintable
  | .arrowBlock params body => Param.allPrintable params && Stmt.allPrintable body
  | .binary left _ right => left.isPrintable && right.isPrintable
  | .conditional test consequent alternate =>
    test.isPrintable && (consequent.isPrintable && alternate.isPrintable)
  | .chain base links => base.isPrintable && Link.allPrintable links
  | .misplaced _ => false
  | _ => true

def Expr.allPrintable : List Expr → Bool
  | [] => true
  | e :: rest => e.isPrintable && Expr.allPrintable rest

def Property.allPrintable : List Property → Bool
  | [] => true
  | .entry _ value :: rest => value.isPrintable && Property.allPrintable rest
  | .shorthand _ :: rest => Property.allPrintable rest

def Param.allPrintable : List Param → Bool
  | [] => true
  | .named _ _ :: rest => Param.allPrintable rest
  | .pattern properties _ _ :: rest => Property.allPrintable properties && Param.allPrintable rest

def Link.allPrintable : List Link → Bool
  | [] => true
  | .call _ args :: rest => Expr.allPrintable args && Link.allPrintable rest

def Stmt.isPrintable : Stmt → Bool
  | .const _ _ value => value.isPrintable
  | .expr value => value.isPrintable
  | .return (some value) => value.isPrintable
  | .ifThen test body => Stmt.allPrintable body && test.isPrintable
  | .delete target => target.isPrintable
  | .exportDefault value => value.isPrintable
  | .misplaced _ => false
  | _ => true

def Stmt.allPrintable : List Stmt → Bool
  | [] => true
  | s :: rest => s.isPrintable && Stmt.allPrintable rest

end

/-! ## Printing -/

/-- One print after another has a text if both have one; what is made of the texts does not matter. -/
theorem isOk_bind {α β : Type} {x : Except Refusal α} {f : α → Except Refusal β} {a b : Bool}
    (hx : x.isOk = a) (hf : ∀ v, (f v).isOk = b) : (x >>= f).isOk = (a && b) := by
  subst hx
  cases x with
  | error refusal => rfl
  | ok v => exact hf v

/-- A print of which a text is made. -/
theorem isOk_bind_ok {α β : Type} {x : Except Refusal α} {g : α → β} {a : Bool} (hx : x.isOk = a) :
    (x >>= fun v => Except.ok (g v)).isOk = a := by
  rw [isOk_bind hx (b := true) fun _ => rfl, Bool.and_true]

theorem Numeral.isOk_text (value : Numeral) : value.text.isOk = value.isNumber := by
  cases value with
  | int i => rfl
  | float d => rw [Numeral.text]; split <;> rfl
  | truth b => rfl

mutual

/-- The texts that trees have: the printer refuses exactly the trees that are not printable. -/
theorem Expr.isOk_print : ∀ (e : Expr) (level : Nat), (e.print level).isOk = e.isPrintable
  | .num value, _ => value.isOk_text
  | .template texts substitutions, level => by
    rw [Expr.print, Expr.isPrintable]
    split
    · rename_i h
      rw [decide_eq_false h]
      rfl
    · rename_i h
      rw [decide_eq_true (Decidable.not_not.1 h), Bool.true_and]
      exact isOk_bind_ok (Expr.isOk_printAll substitutions level)
  | .member object property, level => by
    rw [Expr.print, Expr.isPrintable]
    refine (isOk_bind (b := true) (object.isOk_print level) fun _ => ?_).trans (Bool.and_true _)
    split <;> rfl
  | .index object key, level =>
    isOk_bind (object.isOk_print level) fun _ => isOk_bind_ok (key.isOk_print level)
  | .call callee args, level | .new callee args, level =>
    isOk_bind (callee.isOk_print level) fun _ => isOk_bind_ok (Expr.isOk_printAll args level)
  | .obj properties multiline, level =>
    isOk_bind_ok (Property.isOk_printAll properties (entryLevel multiline level))
  | .arr items, level => isOk_bind_ok (Expr.isOk_printAll items level)
  | .arrow params body, level =>
    isOk_bind (Param.isOk_printAll params level) fun _ => isOk_bind_ok (body.isOk_print level)
  | .arrowBlock params body, level =>
    isOk_bind (Param.isOk_printAll params level) fun _ =>
      isOk_bind_ok (Stmt.isOk_printAll body (level + 1))
  | .binary left operator right, level =>
    isOk_bind (left.isOk_print level) fun _ => isOk_bind_ok (right.isOk_print level)
  | .conditional test consequent alternate, level =>
    isOk_bind (test.isOk_print level) fun _ =>
      isOk_bind (consequent.isOk_print level) fun _ => isOk_bind_ok (alternate.isOk_print level)
  | .chain base links, level =>
    isOk_bind (base.isOk_print level) fun _ => isOk_bind_ok (Link.isOk_printAll links (level + 1))
  | .ident _, _ | .raw _, _ | .str _, _ | .null, _ | .undefined, _ | .misplaced _, _ => rfl

theorem Expr.isOk_printAll : ∀ (es : List Expr) (level : Nat),
    (Expr.printAll es level).isOk = Expr.allPrintable es
  | [], _ => rfl
  | e :: rest, level =>
    isOk_bind (e.isOk_print level) fun _ => isOk_bind_ok (Expr.isOk_printAll rest level)

theorem Property.isOk_printAll : ∀ (ps : List Property) (level : Nat),
    (Property.printAll ps level).isOk = Property.allPrintable ps
  | [], _ => rfl
  | .entry _ value :: rest, level =>
    isOk_bind (isOk_bind_ok (value.isOk_print level)) fun _ =>
      isOk_bind_ok (Property.isOk_printAll rest level)
  | .shorthand _ :: rest, level => isOk_bind_ok (Property.isOk_printAll rest level)

theorem Param.isOk_printAll : ∀ (ps : List Param) (level : Nat),
    (Param.printAll ps level).isOk = Param.allPrintable ps
  | [], _ => rfl
  | .named _ _ :: rest, level => isOk_bind_ok (Param.isOk_printAll rest level)
  | .pattern properties multiline _ :: rest, level =>
    isOk_bind (isOk_bind_ok (Property.isOk_printAll properties (entryLevel multiline level)))
      fun _ => isOk_bind_ok (Param.isOk_printAll rest level)

theorem Link.isOk_printAll : ∀ (ls : List Link) (level : Nat),
    (Link.printAll ls level).isOk = Link.allPrintable ls
  | [], _ => rfl
  | .call _ args :: rest, level =>
    isOk_bind (Expr.isOk_printAll args level) fun _ => isOk_bind_ok (Link.isOk_printAll rest level)

theorem Stmt.isOk_print : ∀ (s : Stmt) (level : Nat), (s.print level).isOk = s.isPrintable
  | .const _ _ value, level | .expr value, level | .return (some value), level
  | .delete value, level | .exportDefault value, level => isOk_bind_ok (value.isOk_print level)
  | .ifThen test body, level =>
    isOk_bind (Stmt.isOk_printAll body (level + 1)) fun _ => isOk_bind_ok (test.isOk_print level)
  | .return none, _ | .comment _, _ | .blank, _ | .importFrom .., _ | .misplaced _, _ => rfl

theorem Stmt.isOk_printAll : ∀ (body : List Stmt) (level : Nat),
    (Stmt.printAll body level).isOk = Stmt.allPrintable body
  | [], _ => rfl
  | s :: rest, level =>
    isOk_bind (s.isOk_print level) fun _ => isOk_bind_ok (Stmt.isOk_printAll rest level)

end

theorem exists_of_isOk {α : Type} {x : Except Refusal α} (h : x.isOk) : ∃ v, x = .ok v := by
  cases x with
  | error refusal => cases h
  | ok v => exact ⟨v, rfl⟩

/-! ## Lists of trees -/

theorem Expr.allPrintable_iff {es : List Expr} :
    Expr.allPrintable es ↔ ∀ e ∈ es, e.isPrintable := by
  induction es with
  | nil => simp [Expr.allPrintable]
  | cons e es ih => simp [Expr.allPrintable, ih]

theorem Property.allPrintable_append (ps qs : List Property) :
    Property.allPrintable (ps ++ qs) = (Property.allPrintable ps && Property.allPrintable qs) := by
  induction ps with
  | nil => rfl
  | cons p ps ih => cases p <;> simp [Property.allPrintable, ih, Bool.and_assoc]

theorem Stmt.allPrintable_iff {body : List Stmt} :
    Stmt.allPrintable body ↔ ∀ s ∈ body, s.isPrintable := by
  induction body with
  | nil => simp [Stmt.allPrintable]
  | cons s body ih => simp [Stmt.allPrintable, ih]

theorem Stmt.allPrintable_append (xs ys : List Stmt) :
    Stmt.allPrintable (xs ++ ys) = (Stmt.allPrintable xs && Stmt.allPrintable ys) := by
  induction xs with
  | nil => rfl
  | cons x xs ih => simp [Stmt.allPrintable, ih, Bool.and_assoc]

theorem Expr.isPrintable_dotted (name : Text) : (Expr.dotted name).isPrintable := by
  have hmembers : ∀ (parts : List Text) (e : Expr), e.isPrintable →
      (parts.foldl Expr.member e).isPrintable := by
    intro parts
    induction parts with
    | nil => exact fun _ h => h
    | cons part parts ih => exact fun e h => ih (.member e part) h
  rw [Expr.dotted]
  split
  · rfl
  · exact hmembers _ _ rfl

theorem Expr.isPrintable_callOf (name : Text) (args : List Expr) :
    (Expr.callOf name args).isPrintable = Expr.allPrintable args := by
  rw [Expr.callOf, Expr.isPrintable, Expr.isPrintable_dotted, Bool.true_and]

end Routewright.Script
