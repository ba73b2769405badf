/-
What a route puts into its module can be printed: the schemas hold only numbers that a document can
hold, and the templates of a query are written with as many texts as they need.
-/
import Routewright.Proofs.Route.Names
import Routewright.Proofs.Script.Printable

namespace Routewright.Route

open Script (Expr Link Param Property Stmt Numeral)
open Condition (Operator ruleStatement membershipBody pushFragment fieldValue elementKey block closing
  clauseExpr)

/-! ## Schemas -/

theorem isNumber_ofNumber (n : Number) : (Numeral.ofNumber n).isNumber := by
  cases n <;> rfl

theorem isPrintable_constraints (f : Spec.Field) : (constraints f).isPrintable := by
  have htext (key : Text) (t : Option Text) : Property.allPrintable (textConstraint key t) := by
    cases t with
    | none => rfl
    | some t => rw [textConstraint]; split <;> rfl
  have hnumber (key : Text) (n : Option Number) :
      Property.allPrintable (numberConstraint key n) := by
    cases n with
    | none => rfl
    | some n => simp [numberConstraint, Property.allPrintable, Expr.isPrintable, isNumber_ofNumber]
  have hlength (key : Text) (n : Option Int) : Property.allPrintable (lengthConstraint key n) := by
    cases n <;> rfl
  simp [constraints, Expr.isPrintable, Property.allPrintable_append, htext, hnumber, hlength]

theorem isPrintable_fieldSchema (f : Spec.Field) : (fieldSchema f).isPrintable := by
  unfold fieldSchema
  extract_lets schema
  have hschema : schema.isPrintable := by
    unfold schema
    split
    · rw [Expr.isPrintable_callOf]
      rfl
    · rw [Expr.isPrintable_callOf]
      simp [Expr.allPrintable, isPrintable_constraints]
  split
  · simp [Expr.isPrintable_callOf, Expr.allPrintable, hschema]
  · exact hschema

theorem isPrintable_objectSchema (fields : List (Text × Spec.Field)) :
    (objectSchema fields).isPrintable := by
  have hfields : Property.allPrintable
      (fields.map fun f => Property.entry f.1 (fieldSchema f.2)) := by
    induction fields with
    | nil => rfl
    | cons f fields ih => simp [Property.allPrintable, isPrintable_fieldSchema, ih]
  simp [objectSchema, Expr.isPrintable_callOf, Expr.allPrintable, Expr.isPrintable, hfields]

/-! ## Statements that build a query -/

theorem isPrintable_ruleStatement (sentinel name : Text) (op : Operator) :
    (ruleStatement sentinel name op).isPrintable := by
  obtain ⟨kind, sql⟩ := op
  cases kind <;>
    simp [ruleStatement, membershipBody, pushFragment, fieldValue, elementKey, Stmt.isPrintable,
      Stmt.allPrintable, Expr.isPrintable, Expr.allPrintable, Param.allPrintable,
      Expr.isPrintable_callOf, Numeral.isNumber]

theorem allPrintable_statements {conditions : Option Spec.Conditions} {query sentinel : Text}
    {building : List Stmt} (h : Condition.statements conditions query sentinel = .ok building) :
    Stmt.allPrintable building := by
  rcases statements_ok h with rfl | ⟨rules, before, after, rfl⟩
  · rfl
  · have hrules : Stmt.allPrintable (rules.map fun c =>
        ruleStatement sentinel c.1 (Operator.ofText c.2.operator)) := by
      rw [Stmt.allPrintable_iff, List.forall_mem_map]
      exact fun c _ => isPrintable_ruleStatement sentinel c.1 _
    simp [block, closing, clauseExpr, Stmt.allPrintable, Stmt.allPrintable_append, Stmt.isPrintable,
      Expr.isPrintable, Expr.allPrintable, Property.allPrintable, Expr.isPrintable_callOf,
      Numeral.isNumber, hrules]

/-! ## Routes -/

/-- The link and the schema of a route have texts. -/
structure Emitted.IsPrintable (e : Emitted) : Prop where
  link : Expr.allPrintable e.link.args
  schema : ∀ s ∈ e.schema, s.isPrintable

theorem isPrintable_detail (d : Spec.Detail) : (detail d).isPrintable := by
  have htags : Expr.allPrintable (d.tags.map .str) := by
    rw [Expr.allPrintable_iff, List.forall_mem_map]
    exact fun _ _ => rfl
  simp [detail, Expr.isPrintable, Property.allPrintable, htags]

theorem isPrintable_schemaDeclaration (name : Text) (payload : Option Spec.Payload) :
    (schemaDeclaration name payload).isPrintable :=
  isPrintable_objectSchema _

theorem isPrintable_emitDynamic {route : Spec.Route} {module sentinel : Text} {number : Nat}
    {e : Emitted} (h : emitDynamic route module number sentinel = .ok e) : e.IsPrintable := by
  cases hbuilding : Condition.statements route.handler.conditions route.handler.query sentinel with
  | error mismatch =>
    rw [emitDynamic, hbuilding] at h
    cases h
  | ok building =>
    rw [emitDynamic, hbuilding] at h
    obtain rfl := Except.ok.inj h
    refine ⟨?_, fun s hs => ?_⟩
    · simp [Link.args, Expr.allPrintable, Expr.isPrintable, bodyParam, Param.allPrintable,
        Property.allPrintable, Stmt.allPrintable_append, Stmt.allPrintable, Stmt.isPrintable,
        allPrintable_statements hbuilding, Expr.isPrintable_callOf, isPrintable_detail]
    · obtain rfl := Option.some.inj hs
      exact isPrintable_schemaDeclaration _ _

theorem isPrintable_emitLookup (route : Spec.Route) (module : Text) (number : Nat) :
    (emitLookup route module number).IsPrintable := by
  have hparams : Param.allPrintable (keySource route).params := by
    rcases keySource_cases route with ⟨key, hsource⟩ | ⟨field, hsource⟩ | hsource <;>
      rw [hsource] <;> rfl
  have hargs : Expr.allPrintable ((keySource route).args ++ [.str route.handler.query]) := by
    rcases keySource_cases route with ⟨key, hsource⟩ | ⟨field, hsource⟩ | hsource <;>
      rw [hsource] <;> rfl
  obtain ⟨names, hnames, -⟩ := exists_paramsSchema_keySource route
  refine ⟨?_, fun s hs => ?_⟩
  · rw [emitLookup, hnames]
    cases names <;> cases (keySource route).validatesBody <;>
      simp [Link.args, Expr.allPrintable, Expr.isPrintable, Property.allPrintable,
        Stmt.allPrintable, Stmt.isPrintable, Expr.isPrintable_callOf, hparams, hargs,
        isPrintable_detail, paramsSchema, isPrintable_objectSchema]
  · rw [emitLookup] at hs
    dsimp only at hs
    split at hs
    · obtain rfl := Option.some.inj hs
      exact isPrintable_schemaDeclaration _ _
    · cases hs

/-- Every route that is emitted has texts for all that it contributes. -/
theorem isPrintable_emit {route : Spec.Route} {module sentinel : Text} {number : Nat} {e : Emitted}
    (h : emit route module number sentinel = .ok e) : e.IsPrintable := by
  rw [emit] at h
  split at h
  · exact isPrintable_emitDynamic h
  · obtain rfl := Except.ok.inj h
    exact isPrintable_emitLookup route module number

end Routewright.Route
