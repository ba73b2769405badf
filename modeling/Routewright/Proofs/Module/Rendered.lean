/-
When a module has a text. Whatever a spec holds, its module is written, unless the query of a
dynamic route and its conditions do not fit; then the first such route is named, and nothing else
can go wrong: no tree that the routes make is refused by the printer.
-/
import Routewright.Module.Render
import Routewright.Proofs.Condition.Query
import Routewright.Proofs.Route.Printable

namespace Routewright

/-! ## Queries -/

namespace Condition

/-- A query fits conditions if the placeholder stands in it at one place, and no conditions if it
stands in it nowhere. -/
def Fits (query : Text) : Bool → Prop
  | true => ∃ before after, HoldsOnce query before after
  | false => ¬placeholder <:+: query

/-- What is wrong with a query that does not fit. -/
def mismatch (query : Text) : Bool → QueryMismatch
  | true =>
    if query.contains placeholder then .repeated (Text.countPiece placeholder query) query
    else .missing query
  | false => .unexpected query

variable {query : Text} {hasConditions : Bool}

theorem splitQuery_of_fits (h : Fits query hasConditions) :
    ∃ parts, splitQuery query hasConditions = .ok parts := by
  cases hasConditions with
  | true =>
    obtain ⟨before, after, honce⟩ := h
    exact ⟨(before, after), splitQuery_eq_ok_iff.2 honce⟩
  | false =>
    have hnone := (Text.countPiece_eq_zero_iff placeholder_ne_nil).2 h
    exact ⟨(query, []), if_pos hnone⟩

theorem splitQuery_of_not_fits (h : ¬Fits query hasConditions) :
    splitQuery query hasConditions = .error (mismatch query hasConditions) := by
  have hnone : Text.countPiece placeholder query = 0 ↔ ¬placeholder <:+: query :=
    Text.countPiece_eq_zero_iff placeholder_ne_nil
  cases hasConditions with
  | true =>
    have hone : Text.countPiece placeholder query ≠ 1 := fun hone => h (countPiece_eq_one_iff.1 hone)
    unfold splitQuery
    dsimp only
    rw [if_pos rfl, mismatch]
    rw [← Text.contains_iff] at hnone
    by_cases hin : query.contains placeholder
    · have hsome : Text.countPiece placeholder query ≠ 0 := fun hzero => hnone.1 hzero hin
      rw [if_neg hsome, if_pos (by omega), if_pos hin]
    · rw [if_pos (hnone.2 hin), if_neg hin]
  | false =>
    exact if_neg fun hzero => h (hnone.1 hzero)

end Condition

/-! ## Routes -/

namespace Spec.Route

/-- Only a dynamic route asks anything of its query. -/
def Fits (r : Spec.Route) : Prop :=
  r.isDynamic → Condition.Fits r.handler.query r.handler.conditions.isSome

def mismatch (r : Spec.Route) : Condition.QueryMismatch :=
  Condition.mismatch r.handler.query r.handler.conditions.isSome

end Spec.Route

namespace Route

variable {r : Spec.Route}

theorem emit_of_fits (h : r.Fits) (module : Text) (number : Nat) (sentinel : Text) :
    ∃ e, emit r module number sentinel = .ok e := by
  by_cases hdynamic : r.isDynamic
  · obtain ⟨parts, hsplit⟩ := Condition.splitQuery_of_fits (h hdynamic)
    rw [emit, if_pos hdynamic, emitDynamic, Condition.statements, hsplit]
    cases r.handler.conditions <;> exact ⟨_, rfl⟩
  · exact ⟨emitLookup r module number, if_neg hdynamic⟩

theorem emit_of_not_fits (h : ¬r.Fits) (module : Text) (number : Nat) (sentinel : Text) :
    emit r module number sentinel = .error r.mismatch := by
  obtain ⟨hdynamic, hquery⟩ := Classical.not_imp.1 h
  rw [emit, if_pos hdynamic, emitDynamic, Condition.statements,
    Condition.splitQuery_of_not_fits hquery]
  rfl

end Route

/-! ## Modules -/

namespace Module

open Script (Expr Link Stmt)
open Route (Emitted)

variable {c : Config} {s : Spec} {number : Nat} {routes : List Spec.Route}

theorem emitRoutes_of_fits (h : ∀ r ∈ routes, r.Fits) :
    ∃ emitted, emitRoutes c s number routes = .ok emitted := by
  induction routes generalizing number with
  | nil => exact ⟨[], rfl⟩
  | cons r routes ih =>
    obtain ⟨e, he⟩ := Route.emit_of_fits (h r List.mem_cons_self) s.module number c.notNullSentinel
    obtain ⟨more, hmore⟩ := @ih (number + 1) fun q hq => h q (List.mem_cons_of_mem r hq)
    refine ⟨e :: more, ?_⟩
    rw [emitRoutes, he, hmore]
    rfl

/-- The routes behind the first one that does not fit are never looked at. -/
theorem emitRoutes_of_not_fits {before after : List Spec.Route} {r : Spec.Route}
    (hbefore : ∀ q ∈ before, q.Fits) (hr : ¬r.Fits) :
    emitRoutes c s number (before ++ r :: after) = .error r.mismatch := by
  induction before generalizing number with
  | nil =>
    -- the number of the route and the name of the module are not in the mismatch
    rw [List.nil_append, emitRoutes, Route.emit_of_not_fits hr]
    rfl
  | cons q before ih =>
    obtain ⟨e, he⟩ := Route.emit_of_fits (hbefore q List.mem_cons_self) s.module number
      c.notNullSentinel
    rw [List.cons_append, emitRoutes, he,
      ih fun p hp => hbefore p (List.mem_cons_of_mem q hp)]
    rfl

theorem isPrintable_of_mem_emitRoutes {emitted : List Emitted}
    (h : emitRoutes c s number routes = .ok emitted) {e : Emitted} (he : e ∈ emitted) :
    e.IsPrintable := by
  induction routes generalizing number emitted with
  | nil =>
    obtain rfl := Except.ok.inj h
    cases he
  | cons r routes ih =>
    rw [emitRoutes] at h
    cases hfirst : Route.emit r s.module number c.notNullSentinel with
    | error refusal =>
      rw [hfirst] at h
      cases h
    | ok first =>
      rw [hfirst] at h
      cases hmore : emitRoutes c s (number + 1) routes with
      | error refusal =>
        rw [hmore] at h
        cases h
      | ok more =>
        rw [hmore] at h
        obtain rfl := Except.ok.inj h
        rcases List.mem_cons.1 he with rfl | he
        · exact Route.isPrintable_emit hfirst
        · exact ih hmore he

/-- Every statement of a module has a text. -/
structure Parts.IsPrintable (p : Parts) : Prop where
  header : p.header.isPrintable
  imports : Stmt.allPrintable p.imports
  schemas : Stmt.allPrintable p.schemas
  router : p.router.isPrintable
  last : p.last.isPrintable

theorem allPrintable_imports (c : Config) (routes : List Emitted) :
    Stmt.allPrintable (imports c routes) := by
  rw [imports, Stmt.allPrintable_append]
  split <;> rfl

theorem isPrintable_router {emitted : List Emitted} (h : ∀ e ∈ emitted, e.IsPrintable) :
    (router s emitted).isPrintable := by
  have hlinks : Link.allPrintable (emitted.map (·.link)) := by
    induction emitted with
    | nil => rfl
    | cons e emitted ih =>
      have hargs := (h e List.mem_cons_self).link
      have hrest := ih fun f hf => h f (List.mem_cons_of_mem e hf)
      obtain ⟨⟨method, args⟩, schema, service, validates⟩ := e
      rw [List.map_cons, Link.allPrintable, hrest, Bool.and_true]
      exact hargs
  rw [router, Stmt.isPrintable, Expr.isPrintable, hlinks, Bool.and_true]
  rfl

theorem isPrintable_of_parts {cwd : FilePath} {source : Option FilePath} {p : Parts}
    (h : parts cwd c s source = .ok p) : p.IsPrintable := by
  cases hemitted : emitRoutes c s 1 s.routes with
  | error refusal =>
    rw [parts, hemitted] at h
    cases h
  | ok emitted =>
    have hroutes : ∀ e ∈ emitted, e.IsPrintable := fun e =>
      isPrintable_of_mem_emitRoutes hemitted
    rw [parts, hemitted] at h
    obtain rfl := Except.ok.inj h
    refine ⟨rfl, allPrintable_imports c emitted, ?_, isPrintable_router hroutes, rfl⟩
    rw [Stmt.allPrintable_iff]
    intro schema hschema
    obtain ⟨e, he, heq⟩ := List.mem_filterMap.1 hschema
    exact (hroutes e he).schema schema heq

theorem Parts.IsPrintable.print {p : Parts} (h : p.IsPrintable) : ∃ text, p.print = .ok text := by
  apply Script.exists_of_isOk
  have hprint : p.print.isOk = (p.header.isPrintable && (Stmt.allPrintable p.imports &&
      (Stmt.allPrintable p.schemas && (p.router.isPrintable && p.last.isPrintable)))) :=
    Script.isOk_bind (p.header.isOk_print 0) fun _ =>
      Script.isOk_bind (Stmt.isOk_printAll p.imports 0) fun _ =>
        Script.isOk_bind (Stmt.isOk_printAll p.schemas 0) fun _ =>
          Script.isOk_bind (p.router.isOk_print 0) fun _ =>
            Script.isOk_bind_ok (p.last.isOk_print 0)
  rw [hprint, h.header, h.imports, h.schemas, h.router, h.last]
  rfl

theorem render_of_fits (cwd : FilePath) (source : Option FilePath) (h : ∀ r ∈ s.routes, r.Fits) :
    ∃ text, render cwd c s source = .ok text := by
  obtain ⟨emitted, hemitted⟩ := @emitRoutes_of_fits c s 1 _ h
  obtain ⟨p, hp⟩ : ∃ p, parts cwd c s source = .ok p := by
    rw [parts, hemitted]
    exact ⟨_, rfl⟩
  obtain ⟨text, htext⟩ := (isPrintable_of_parts hp).print
  refine ⟨text, ?_⟩
  rw [render, hp]
  dsimp only
  rw [htext]
  rfl

theorem render_of_not_fits (cwd : FilePath) (source : Option FilePath)
    {before after : List Spec.Route} {r : Spec.Route} (hroutes : s.routes = before ++ r :: after)
    (hbefore : ∀ q ∈ before, q.Fits) (hr : ¬r.Fits) :
    render cwd c s source = .error (.query r.mismatch) := by
  rw [render, parts, hroutes, emitRoutes_of_not_fits hbefore hr]
  rfl

/-- The routes all fit, or there is a first one that does not. -/
theorem fits_or_exists_first (routes : List Spec.Route) :
    (∀ r ∈ routes, r.Fits) ∨ ∃ before r after,
      routes = before ++ r :: after ∧ (∀ q ∈ before, q.Fits) ∧ ¬r.Fits := by
  induction routes with
  | nil => exact .inl fun _ h => absurd h List.not_mem_nil
  | cons r routes ih =>
    by_cases hr : r.Fits
    · rcases ih with hall | ⟨before, q, after, rfl, hbefore, hq⟩
      · exact .inl (List.forall_mem_cons.2 ⟨hr, hall⟩)
      · exact .inr ⟨r :: before, q, after, rfl, List.forall_mem_cons.2 ⟨hr, hbefore⟩, hq⟩
    · exact .inr ⟨[], r, routes, rfl, fun _ h => absurd h List.not_mem_nil, hr⟩

/-- No module fails to have a text for another reason than a query. -/
theorem render_error {cwd : FilePath} {source : Option FilePath} {e : RenderError}
    (h : render cwd c s source = .error e) : ∃ mismatch, e = .query mismatch := by
  rcases fits_or_exists_first s.routes with hall | ⟨before, r, after, hroutes, hbefore, hr⟩
  · obtain ⟨text, htext⟩ := render_of_fits (c := c) cwd source hall
    rw [htext] at h
    cases h
  · rw [render_of_not_fits cwd source hroutes hbefore hr] at h
    exact ⟨_, (Except.error.inj h).symm⟩

/-- The outcome of rendering, both ways round: a module has a text exactly if the queries of all its
dynamic routes fit; and what it fails with, if it fails, is the mismatch of the first route whose
query does not. -/
theorem render_outcome (cwd : FilePath) (c : Config) (s : Spec) (source : Option FilePath) :
    ((∃ text, render cwd c s source = .ok text) ↔ ∀ r ∈ s.routes, r.Fits) ∧
      ∀ e, render cwd c s source = .error e ↔ ∃ before r after,
        s.routes = before ++ r :: after ∧ (∀ q ∈ before, q.Fits) ∧ ¬r.Fits ∧
          e = .query r.mismatch := by
  rcases fits_or_exists_first s.routes with hall | ⟨before, r, after, hroutes, hbefore, hr⟩
  · obtain ⟨text, htext⟩ := render_of_fits (c := c) cwd source hall
    refine ⟨⟨fun _ => hall, fun _ => ⟨text, htext⟩⟩, fun e => ⟨fun he => ?_, ?_⟩⟩
    · rw [htext] at he
      cases he
    · rintro ⟨before, r, after, hroutes, -, hr, -⟩
      exact absurd (hall r (by simp [hroutes])) hr
  · have hrender := render_of_not_fits (c := c) cwd source hroutes hbefore hr
    refine ⟨⟨?_, fun hall => absurd (hall r (by simp [hroutes])) hr⟩, fun e => ⟨fun he => ?_, ?_⟩⟩
    · rintro ⟨text, htext⟩
      rw [hrender] at htext
      cases htext
    · rw [hrender] at he
      exact ⟨before, r, after, hroutes, hbefore, hr, (Except.error.inj he).symm⟩
    · rintro ⟨front, q, back, hsplit, hfront, hq, rfl⟩
      rw [render_of_not_fits cwd source hsplit hfront hq]

end Module

end Routewright
