/-
The literals that generated modules hold their queries in. The query of a route with conditions is a
template literal, which denotes the text before the clause, the clause, and the text after it with
uniform line ends; so it runs the query of an evaluation exactly if the base query holds no carriage
return. The query of a route without conditions is a string literal, which always denotes the query.
-/
import Routewright.Proofs.Condition.Agreement
import Routewright.Proofs.Condition.Query
import Routewright.Proofs.Script.Cooked

namespace Routewright

/-! ## Line ends of two texts -/

namespace Text

variable {before middle after : Text}

/-- Two texts keep what is between them at its place if their line ends are made uniform, and both
stay as they are exactly if neither holds a carriage return. -/
theorem uniformLines_around_iff :
    before.uniformLines ++ middle ++ after.uniformLines = before ++ middle ++ after ↔
      CodePoint.ofChar '\r' ∉ before ∧ CodePoint.ofChar '\r' ∉ after := by
  constructor
  · intro h
    have hcount := congrArg (List.count (CodePoint.ofChar '\r')) h
    simp only [List.count_append, List.count_eq_zero.2 (return_notMem_uniformLines _)] at hcount
    exact ⟨List.count_eq_zero.1 (by omega), List.count_eq_zero.1 (by omega)⟩
  · rintro ⟨hbefore, hafter⟩
    rw [uniformLines_of_notMem hbefore, uniformLines_of_notMem hafter]

end Text

namespace Condition

open Document (Json.literal? Json.literal?_quoted_append)
open Script (Expr Stmt cookTemplate indent templateText)

section Literal

variable {query before after : Text} (rules : Spec.Conditions) (sentinel : Text)

theorem HoldsOnce.return_notMem_iff (h : HoldsOnce query before after) :
    CodePoint.ofChar '\r' ∉ query ↔
      CodePoint.ofChar '\r' ∉ before ∧ CodePoint.ofChar '\r' ∉ after := by
  have hplaceholder : CodePoint.ofChar '\r' ∉ placeholder := by decide
  rw [h.split, List.mem_append, List.mem_append, not_or, not_or]
  exact ⟨fun h => ⟨h.1.1, h.2⟩, fun h => ⟨⟨h.1, hplaceholder⟩, h.2⟩⟩

theorem HoldsOnce.statements_eq (h : HoldsOnce query before after) :
    statements (some rules) query sentinel = .ok (block rules before after sentinel) := by
  have hsplit : splitQuery query (some rules).isSome = .ok (before, after) :=
    splitQuery_eq_ok_iff.2 h
  rw [statements, hsplit]
  rfl

/-- The query is held by one statement of its block only. -/
theorem queryStatement_mem_block_iff (hint : Option Text) (value : Expr) :
    Stmt.const queryName hint value ∈ block rules before after sentinel ↔
      hint = none ∧ value = .template [before, after] [.ident clauseName] := by
  have hrules : Stmt.const queryName hint value ∉
      rules.map fun c => ruleStatement sentinel c.1 (Operator.ofText c.2.operator) := by
    intro hmem
    obtain ⟨c, -, hc⟩ := List.mem_map.1 hmem
    unfold ruleStatement at hc
    cases hkind : (Operator.ofText c.2.operator).kind <;> rw [hkind] at hc <;> cases hc
  have hlist : queryName ≠ clauseListName := by decide
  have hparams : queryName ≠ paramsName := by decide
  have hclause : queryName ≠ clauseName := by decide
  simp [block, closing, hrules, hlist, hparams, hclause]

theorem print_query {value : Expr} {level : Nat} {literal : Text}
    (h : value.print level = .ok literal) : (Stmt.const queryName none value).print level =
      .ok (indent level ++ "const " ++ queryName ++ " = " ++ literal ++ ";") := by
  rw [Stmt.print, h]
  rfl

/-- The template literal of a query denotes the two parts of the query with uniform line ends. -/
theorem print_template_query (before after : Text) (level : Nat) :
    ∃ literal, (Expr.template [before, after] [.ident clauseName]).print level = .ok literal ∧
      ∀ rest, ∃ r, cookTemplate (literal ++ rest) = some r ∧ r.rest = rest ∧
        r.substitutions = [clauseName] ∧ r.texts = [before.uniformLines, after.uniformLines] := by
  have hname : ∀ name ∈ [clauseName], Script.isIdentifier name := by decide
  obtain ⟨literal, hprint, hcooked⟩ :=
    @Script.print_template_isCooked [before, after] [clauseName] rfl hname level
  refine ⟨literal, hprint, fun rest => ?_⟩
  obtain ⟨r, hread, htexts, hnames, hrest⟩ := hcooked rest
  exact ⟨r, hread, hrest, hnames, htexts⟩

/-- The literal denotes the parts of the query as they are exactly if there is no carriage return in
it, and only then it comes out as what an evaluation asks. -/
theorem HoldsOnce.cooked_iff (h : HoldsOnce query before after) :
    ([before.uniformLines, after.uniformLines] = [before, after] ↔
        CodePoint.ofChar '\r' ∉ query) ∧
      ∀ payload bound, evaluate (some rules) payload query sentinel = .ok bound →
        (templateText [before.uniformLines, after.uniformLines] [bound.clause] = bound.query ↔
          CodePoint.ofChar '\r' ∉ query) := by
  rw [h.return_notMem_iff]
  constructor
  · simp [Text.uniformLines_eq_self_iff]
  · intro payload bound hbound
    obtain ⟨found, hfound, hquery⟩ := evaluate_query h rules payload sentinel
    obtain rfl := Except.ok.inj (hbound.symm.trans hfound)
    rw [hquery]
    exact Text.uniformLines_around_iff

end Literal

/-- A module with conditions holds its query in one statement, as a template literal that denotes the
text before the placeholder, the clause and the text behind it exactly if the query holds no carriage
return; with the clause of an evaluation in it, it is what the evaluation asks exactly then. A module
without conditions holds its query in a string literal that denotes it. -/
theorem query_isCooked_iff {query : Text} (h : ∃! place, placeholder.StandsAt query place)
    (rules : Spec.Conditions) (sentinel : Text) (level : Nat) :
    (∃ before after building value literal, query = before ++ placeholder ++ after ∧
      statements (some rules) query sentinel = .ok building ∧
      (∀ hint e, Stmt.const queryName hint e ∈ building ↔ hint = none ∧ e = value) ∧
      (Stmt.const queryName none value).print level =
        .ok (indent level ++ "const " ++ queryName ++ " = " ++ literal ++ ";") ∧
      ∀ rest, ∃ r, cookTemplate (literal ++ rest) = some r ∧ r.rest = rest ∧
        r.substitutions = [clauseName] ∧
        (r.texts = [before, after] ↔ CodePoint.ofChar '\r' ∉ query) ∧
        ∀ payload bound, evaluate (some rules) payload query sentinel = .ok bound →
          (templateText r.texts [bound.clause] = bound.query ↔ CodePoint.ofChar '\r' ∉ query)) ∧
    ∀ text, (∀ place, ¬placeholder.StandsAt text place) →
      statements none text sentinel = .ok [.const queryName none (.str text)] ∧
      (Stmt.const queryName none (.str text)).print level =
        .ok (indent level ++ "const " ++ queryName ++ " = " ++ text.quoted ++ ";") ∧
      ∀ rest, Json.literal? (text.quoted ++ rest) = some (text, rest) := by
  obtain ⟨before, after, honce⟩ := exists_holdsOnce_iff.2 h
  obtain ⟨literal, hprint, hcooked⟩ := print_template_query before after level
  obtain ⟨hparts, hasked⟩ := honce.cooked_iff rules sentinel
  refine ⟨⟨before, after, _, _, literal, honce.split, honce.statements_eq rules sentinel,
    queryStatement_mem_block_iff rules sentinel, print_query hprint, fun rest => ?_⟩,
    fun text htext => ⟨?_, print_query rfl, Json.literal?_quoted_append text⟩⟩
  · obtain ⟨r, hread, hrest, hnames, htexts⟩ := hcooked rest
    exact ⟨r, hread, hrest, hnames, htexts ▸ hparts, htexts ▸ hasked⟩
  · have hsplit : splitQuery text (none : Option Spec.Conditions).isSome = .ok (text, []) :=
      splitQuery_false_eq_ok_iff.2 ⟨rfl, htext⟩
    rw [statements, hsplit]
    rfl

/-- A query with a line feed in a string of its own, and the same one with a carriage return before
the line feed: only the first is run as it is evaluated. -/
theorem query_isCooked_iff_return :
    let rules : Spec.Conditions := [("id", ⟨"=", none⟩)]
    let payload : Bindings := [("id", .int 7)]
    let unix : Text := "SELECT '\n' FROM t WHERE \x7bdynamic_conditions\x7d"
    let mixed : Text := "SELECT '\r\n' FROM t WHERE \x7bdynamic_conditions\x7d"
    let runs (query : Text) (same : Bool) : Prop := ∃ building value literal r bound,
      statements (some rules) query "NOT NULL" = .ok building ∧
        Stmt.const queryName none value ∈ building ∧
        (Stmt.const queryName none value).print 0 =
          .ok (Text.ofString "const query = " ++ literal ++ ";") ∧
        cookTemplate literal = some r ∧
        evaluate (some rules) payload query "NOT NULL" = .ok bound ∧
        decide (templateText r.texts [bound.clause] = bound.query) = same
    runs unix true ∧ runs mixed false := by
  intro rules payload unix mixed runs
  have hruns {query : Text} (h : ∃! place, placeholder.StandsAt query place) :
      runs query (CodePoint.ofChar '\r' ∉ query) := by
    obtain ⟨⟨before, after, building, value, literal, -, hbuilding, hheld, hprint, hcooked⟩, -⟩ :=
      query_isCooked_iff h rules "NOT NULL" 0
    obtain ⟨r, hread, -, -, -, hasked⟩ := hcooked []
    obtain ⟨front, back, honce⟩ := exists_holdsOnce_iff.2 h
    obtain ⟨bound, hbound, -⟩ := evaluate_query honce rules payload "NOT NULL"
    rw [List.append_nil] at hread
    exact ⟨building, value, literal, r, bound, hbuilding, (hheld none value).2 ⟨rfl, rfl⟩, hprint,
      hread, hbound, decide_eq_decide.2 (hasked payload bound hbound)⟩
  have honce (query before after : Text) (h : splitQuery query true = .ok (before, after)) :
      ∃! place, placeholder.StandsAt query place :=
    exists_holdsOnce_iff.1 ⟨before, after, splitQuery_eq_ok_iff.1 h⟩
  exact ⟨hruns (honce unix "SELECT '\n' FROM t WHERE " [] rfl),
    hruns (honce mixed "SELECT '\r\n' FROM t WHERE " [] rfl)⟩

end Condition

end Routewright
