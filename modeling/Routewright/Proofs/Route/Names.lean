/-
What a route puts into its module uses the names that the module gives it: the handler is closed but
for its service and two global objects, the options name the schema builder and the schema constant
that the route declares, and nothing else.
-/
import Routewright.Proofs.Condition.Agreement
import Routewright.Proofs.Script.Scope
import Routewright.Route.Emit

namespace Routewright.Route

open Script (Expr Link Param Property Stmt)
open Condition (Operator ruleStatement payloadName clauseListName paramsName clauseName queryName
  membershipBody pushFragment fieldValue elementKey block closing)

/-! ## Schemas -/

/-- The name that schemas are built with. -/
def builderName : Text := "t"

theorem dotted_factory (t : Spec.FieldType) :
    Expr.dotted (factory t) = .member (.ident builderName) t.name := by
  cases t <;> rfl

theorem dotted_optional : Expr.dotted "t.Optional" = .member (.ident builderName) "Optional" := rfl

theorem dotted_object : Expr.dotted "t.Object" = .member (.ident builderName) "Object" := rfl

theorem ident_notMem_constraints (f : Spec.Field) (name : Text) :
    Expr.ident name ∉ (constraints f).within := by
  have htext (key : Text) (t : Option Text) :
      Expr.ident name ∉ Property.allWithin (textConstraint key t) := by
    cases t with
    | none => simp [textConstraint, Property.allWithin]
    | some t =>
      rw [textConstraint]
      split <;> simp [Property.allWithin, Expr.within]
  have hnumber (key : Text) (n : Option Number) :
      Expr.ident name ∉ Property.allWithin (numberConstraint key n) := by
    cases n <;> simp [numberConstraint, Property.allWithin, Expr.within]
  have hlength (key : Text) (n : Option Int) :
      Expr.ident name ∉ Property.allWithin (lengthConstraint key n) := by
    cases n <;> simp [lengthConstraint, Property.allWithin, Expr.within]
  simp [constraints, Expr.within, Property.allWithin_append, htext, hnumber, hlength]

/-- The schema of a field uses the builder and no other name. -/
theorem eq_builderName_of_fieldSchema {f : Spec.Field} {name : Text}
    (h : Expr.ident name ∈ (fieldSchema f).within) : name = builderName := by
  have hcall (t : Spec.FieldType) (arg : Expr) (harg : Expr.ident name ∉ arg.within)
      (h : Expr.ident name ∈ (Expr.callOf (factory t) [arg]).within) : name = builderName := by
    simpa [Expr.callOf, dotted_factory, Expr.within, Expr.allWithin, harg] using h
  unfold fieldSchema at h
  extract_lets schema at h
  have hbare (h : Expr.ident name ∈ schema.within) : name = builderName := by
    unfold schema at h
    split at h
    · exact hcall .array (.raw (itemsCode f)) (by simp [Expr.within]) h
    · exact hcall _ _ (ident_notMem_constraints f name) h
  split at h
  · simp only [Expr.callOf, dotted_optional, Expr.within, Expr.allWithin, List.mem_cons,
      List.mem_append, List.append_nil, reduceCtorEq, Expr.ident.injEq, List.not_mem_nil, false_or,
      or_false] at h
    exact h.elim id hbare
  · exact hbare h

theorem eq_builderName_of_fieldSchemas {fields : List (Text × Spec.Field)} {name : Text}
    (h : Expr.ident name ∈
      Property.allWithin (fields.map fun f => .entry f.1 (fieldSchema f.2))) :
    name = builderName := by
  induction fields with
  | nil => cases h
  | cons f fields ih =>
    rw [List.map_cons, Property.allWithin, List.mem_append] at h
    exact h.elim eq_builderName_of_fieldSchema ih

/-- An object schema uses the builder and no other name. -/
theorem ident_mem_objectSchema_iff {fields : List (Text × Spec.Field)} {name : Text} :
    Expr.ident name ∈ (objectSchema fields).within ↔ name = builderName := by
  simp only [objectSchema, Expr.callOf, dotted_object, Expr.within, Expr.allWithin, List.mem_cons,
    List.mem_append, List.append_nil, reduceCtorEq, Expr.ident.injEq, List.not_mem_nil, false_or,
    or_false]
  exact or_iff_left_of_imp eq_builderName_of_fieldSchemas

/-! ## Statements that build a query -/

/-- The global objects whose functions handlers call. -/
def globalNames : List Text := ["Array", "Object"]

theorem dotted_isArray : Expr.dotted "Array.isArray" = .member (.ident "Array") "isArray" := rfl

theorem dotted_assign : Expr.dotted "Object.assign" = .member (.ident "Object") "assign" := rfl

/-- A rule uses the payload, the two lists of the block and the global arrays. -/
theorem isClosed_ruleStatement {scope : List Text} (sentinel name : Text) (op : Operator)
    (hpayload : payloadName ∈ scope) (hlist : clauseListName ∈ scope) (hparams : paramsName ∈ scope)
    (harray : Text.ofString "Array" ∈ scope) : (ruleStatement sentinel name op).isClosed scope := by
  obtain ⟨kind, sql⟩ := op
  cases kind <;>
    simp [ruleStatement, membershipBody, pushFragment, fieldValue, elementKey, Stmt.isClosed,
      Stmt.allClosed, Expr.isClosed, Expr.allClosed, Stmt.binders, Param.binders, Expr.callOf,
      dotted_isArray, hpayload, hlist, hparams, harray]

theorem binders_ruleStatement (sentinel name : Text) (op : Operator) :
    (ruleStatement sentinel name op).binders = [] := by
  obtain ⟨kind, sql⟩ := op
  cases kind <;> rfl

/-- Rules call no function by its bare name. -/
theorem call_ident_notMem_ruleStatement (sentinel name : Text) (op : Operator) (callee : Text)
    (args : List Expr) :
    Expr.call (.ident callee) args ∉ (ruleStatement sentinel name op).within := by
  obtain ⟨kind, sql⟩ := op
  cases kind <;>
    simp [ruleStatement, membershipBody, pushFragment, fieldValue, elementKey, Stmt.within,
      Stmt.allWithin, Expr.within, Expr.allWithin, Expr.callOf, dotted_isArray]

theorem allClosed_rules {scope : List Text} (sentinel : Text) (conditions : Spec.Conditions)
    (hpayload : payloadName ∈ scope) (hlist : clauseListName ∈ scope) (hparams : paramsName ∈ scope)
    (harray : Text.ofString "Array" ∈ scope) :
    Stmt.allClosed scope (conditions.map fun c =>
      ruleStatement sentinel c.1 (Operator.ofText c.2.operator)) := by
  induction conditions with
  | nil => rfl
  | cons c conditions ih =>
    rw [List.map_cons, Stmt.allClosed, binders_ruleStatement, List.nil_append, Bool.and_eq_true]
    exact ⟨isClosed_ruleStatement sentinel c.1 _ hpayload hlist hparams harray, ih⟩

theorem scopeAfter_rules (scope : List Text) (sentinel : Text) (conditions : Spec.Conditions) :
    Stmt.scopeAfter scope (conditions.map fun c =>
      ruleStatement sentinel c.1 (Operator.ofText c.2.operator)) = scope := by
  induction conditions with
  | nil => rfl
  | cons c conditions ih =>
    rwa [List.map_cons, Stmt.scopeAfter, List.foldl_cons, binders_ruleStatement, List.nil_append]

/-- The statements of a query: the query itself, or the block of its conditions. -/
theorem statements_ok {conditions : Option Spec.Conditions} {query sentinel : Text}
    {building : List Stmt} (h : Condition.statements conditions query sentinel = .ok building) :
    building = [.const queryName none (.str query)] ∨
      ∃ rules before after, building = block rules before after sentinel := by
  cases hsplit : Condition.splitQuery query conditions.isSome with
  | error e =>
    rw [Condition.statements, hsplit] at h
    cases h
  | ok parts =>
    rw [Condition.statements, hsplit] at h
    cases conditions with
    | none => exact .inl (Except.ok.inj h).symm
    | some rules => exact .inr ⟨rules, parts.1, parts.2, (Except.ok.inj h).symm⟩

/-- The statements of a query are closed where the payload is bound. -/
theorem allClosed_statements {conditions : Option Spec.Conditions} {query sentinel : Text}
    {building : List Stmt} (h : Condition.statements conditions query sentinel = .ok building)
    {scope : List Text} (hpayload : payloadName ∈ scope)
    (hglobals : ∀ name ∈ globalNames, name ∈ scope) : Stmt.allClosed scope building := by
  have harray : Text.ofString "Array" ∈ scope := hglobals _ List.mem_cons_self
  have hobject : Text.ofString "Object" ∈ scope :=
    hglobals _ (List.mem_cons_of_mem _ List.mem_cons_self)
  rcases statements_ok h with rfl | ⟨rules, before, after, rfl⟩
  · rfl
  · simp only [block, Stmt.allClosed, Stmt.isClosed, Stmt.binders, Stmt.allClosed_append,
      scopeAfter_rules, Expr.isClosed, Expr.allClosed, Property.allClosed, Bool.true_and,
      Bool.and_eq_true]
    refine ⟨allClosed_rules sentinel rules ?_ ?_ ?_ ?_, ?_⟩
    · simp [hpayload]
    · simp
    · simp
    · simp [harray]
    · simp [closing, Condition.clauseExpr, Stmt.allClosed, Stmt.isClosed, Stmt.binders,
        Expr.isClosed, Expr.allClosed, Expr.callOf, dotted_assign, hpayload, hobject]

theorem queryName_mem_scopeAfter {conditions : Option Spec.Conditions} {query sentinel : Text}
    {building : List Stmt} (h : Condition.statements conditions query sentinel = .ok building)
    (scope : List Text) : queryName ∈ Stmt.scopeAfter scope building := by
  rw [Stmt.mem_scopeAfter_iff]
  rcases statements_ok h with rfl | ⟨rules, before, after, rfl⟩
  · simp [Stmt.binders]
  · exact .inr ⟨.const queryName none (.template [before, after] [.ident clauseName]),
      by simp [block, closing], List.mem_singleton_self _⟩

theorem call_ident_notMem_rules (sentinel : Text) (rules : Spec.Conditions) (callee : Text)
    (args : List Expr) :
    Expr.call (.ident callee) args ∉ Stmt.allWithin (rules.map fun c =>
      ruleStatement sentinel c.1 (Operator.ofText c.2.operator)) := by
  induction rules with
  | nil => exact List.not_mem_nil
  | cons c rules ih =>
    rw [List.map_cons, Stmt.allWithin, List.mem_append, not_or]
    exact ⟨call_ident_notMem_ruleStatement sentinel c.1 _ callee args, ih⟩

theorem call_ident_notMem_statements {conditions : Option Spec.Conditions} {query sentinel : Text}
    {building : List Stmt} (h : Condition.statements conditions query sentinel = .ok building)
    (callee : Text) (args : List Expr) :
    Expr.call (.ident callee) args ∉ Stmt.allWithin building := by
  rcases statements_ok h with rfl | ⟨rules, before, after, rfl⟩
  · simp [Stmt.allWithin, Stmt.within, Expr.within]
  · simp [block, closing, Condition.clauseExpr, Stmt.allWithin, Stmt.within, Stmt.allWithin_append,
      Expr.within, Expr.allWithin, Property.allWithin, Expr.callOf, dotted_assign,
      call_ident_notMem_rules]

/-! ## What a route contributes -/

/-- The names that the schema of a route declares. -/
def Emitted.schemaNames (e : Emitted) : List Text := e.schema.toList.flatMap Stmt.binders

/-- What a route contributes is held together by names: its handler calls its service and is closed
but for that; its options name the schema constant that it declares; and the builder is used exactly
if the route validates. -/
structure Emitted.IsCoherent (e : Emitted) : Prop where
  args : ∀ arg ∈ e.link.args, arg.isArrow ∨ arg.isObject ∨ ∃ t, arg = .str t
  called : ∃ h ∈ e.link.handlers, h.Calls e.service.name
  calls : ∀ h ∈ e.link.handlers, ∀ name, h.Calls name → name = e.service.name
  closed : ∀ h ∈ e.link.handlers, ∀ scope, e.service.name ∈ scope →
    (∀ name ∈ globalNames, name ∈ scope) → h.isClosed scope
  options : (e.link.options.flatMap Expr.names).filter (· ≠ builderName) = e.schemaNames
  schemaNames : ∀ name ∈ e.schemaNames, name.endsWith "PayloadSchema"
  schema : ∀ name, Expr.ident name ∈ Stmt.allWithin e.schema.toList → name = builderName
  builder : Expr.ident builderName ∈ Stmt.allWithin e.schema.toList ++ Link.allWithin [e.link] ↔
    e.validates

theorem dotted_service (service : Service) :
    Expr.dotted service.name = .ident service.name := by
  cases service <;> rfl

theorem names_detail (d : Spec.Detail) : (detail d).names = [] := by
  have htags (tags : List Text) : Expr.allWithin (tags.map .str) = tags.map .str := by
    induction tags with
    | nil => rfl
    | cons t tags ih => simp [Expr.allWithin, Expr.within, ih]
  simp [detail, Expr.names, Expr.within, Property.allWithin, htags, Expr.name?]

theorem endsWith_schemaName (route : Spec.Route) (module : Text) (number : Nat) :
    (schemaName route module number).endsWith "PayloadSchema" :=
  List.isSuffixOf_iff_suffix.2 (List.suffix_append ..)

section Shape

variable {e : Emitted} (route : Spec.Route) (module : Text) (number : Nat)
  (params : Option (List Text)) (validatesBody : Bool)

/-- The options of a route: the schema of its path parameters, the schema of its body, and its
documentation. -/
def optionEntries : List Property :=
  (params.map fun names => Property.entry "params" (paramsSchema names)).toList ++
  (if validatesBody then [.entry "body" (.ident (schemaName route module number))] else []) ++
  [.entry "detail" (detail route.openapi)]

theorem names_optionEntries :
    Property.names (optionEntries route module number params validatesBody) =
      (params.map fun names => (paramsSchema names).names).getD [] ++
        if validatesBody then [schemaName route module number] else [] := by
  have hparams : Property.names
      (params.map fun names => Property.entry "params" (paramsSchema names)).toList =
        (params.map fun names => (paramsSchema names).names).getD [] := by
    cases params with
    | none => rfl
    | some names => exact Property.names_entry _ _
  rw [optionEntries, Property.names_append, Property.names_append, Property.names_entry,
    names_detail, List.append_nil, hparams]
  cases validatesBody <;> rfl

theorem schemaName_ne_builderName : schemaName route module number ≠ builderName := by
  intro h
  have hends := endsWith_schemaName route module number
  rw [h] at hends
  revert hends
  decide

theorem builderName_mem_names_optionEntries :
    builderName ∈ Property.names (optionEntries route module number params validatesBody) ↔
      params.isSome := by
  have hbody : builderName ∉ if validatesBody then [schemaName route module number] else [] := by
    cases validatesBody <;> simp [(schemaName_ne_builderName route module number).symm]
  rw [names_optionEntries, List.mem_append, or_iff_left hbody]
  cases params with
  | none => simp
  | some names => simp [Expr.mem_names, paramsSchema, ident_mem_objectSchema_iff]

/-- Routes have one shape: a handler, options, and a schema if the options name one. -/
theorem isCoherent_of_shape {ps : List Param} {body : List Stmt}
    (hlink : e.link = .call route.method.lower [.str route.path, .arrowBlock ps body,
      .obj (optionEntries route module number params validatesBody) true])
    (hschema : e.schema = if validatesBody then
      some (schemaDeclaration (schemaName route module number) route.payload) else none)
    (hvalidates : e.validates = (params.isSome || validatesBody))
    (hcalls : ∀ name, (Expr.arrowBlock ps body).Calls name ↔ name = e.service.name)
    (hclosed : ∀ scope, e.service.name ∈ scope → (∀ name ∈ globalNames, name ∈ scope) →
      (Expr.arrowBlock ps body).isClosed scope)
    (hplain : Expr.ident builderName ∈ (Expr.arrowBlock ps body).within → e.validates) :
    e.IsCoherent := by
  have hhandlers : e.link.handlers = [.arrowBlock ps body] := by rw [hlink]; rfl
  have hoptions : e.link.options =
      [.obj (optionEntries route module number params validatesBody) true] := by rw [hlink]; rfl
  have hnames : e.schemaNames = if validatesBody then [schemaName route module number] else [] := by
    rw [Emitted.schemaNames, hschema]
    cases validatesBody <;> rfl
  refine ⟨?_, ?_, ?_, ?_, ?_, ?_, ?_, ?_⟩
  · rw [hlink]
    simp [Link.args, Expr.isArrow, Expr.isObject]
  · exact ⟨_, hhandlers ▸ List.mem_singleton_self _, (hcalls _).2 rfl⟩
  · rw [hhandlers]
    simpa using fun name => (hcalls name).1
  · rw [hhandlers]
    simpa using hclosed
  · rw [hoptions, List.flatMap_singleton, Expr.names_obj, names_optionEntries, hnames,
      List.filter_append, List.filter_eq_nil_iff.2, List.nil_append]
    · cases validatesBody <;> simp [schemaName_ne_builderName]
    · cases params with
      | none => simp
      | some names => simp [Expr.mem_names, paramsSchema, ident_mem_objectSchema_iff]
  · rw [hnames]
    cases validatesBody <;> simp [endsWith_schemaName]
  · rw [hschema]
    cases validatesBody with
    | false => simp [Stmt.allWithin]
    | true =>
      simp [schemaDeclaration, Stmt.allWithin, Stmt.within, payloadSchema, ident_mem_objectSchema_iff]
  · have hschemaUse : Expr.ident builderName ∈ Stmt.allWithin e.schema.toList ↔ validatesBody := by
      rw [hschema]
      cases validatesBody <;> simp [schemaDeclaration, Stmt.allWithin, Stmt.within, payloadSchema,
        ident_mem_objectSchema_iff]
    have hlinkUse : Expr.ident builderName ∈ Link.allWithin [e.link] ↔
        Expr.ident builderName ∈ (Expr.arrowBlock ps body).within ∨ params.isSome := by
      rw [hlink, ← builderName_mem_names_optionEntries route module number params validatesBody,
        ← Expr.names_obj _ true, Expr.mem_names]
      simp [Link.allWithin, Expr.allWithin, Expr.within]
    rw [List.mem_append, hschemaUse, hlinkUse]
    constructor
    · rintro (hbody | hplace | hparams)
      · simp [hvalidates, hbody]
      · exact hplain hplace
      · simp [hvalidates, hparams]
    · rw [hvalidates, Bool.or_eq_true]
      exact fun h => h.elim (fun hparams => .inr (.inr hparams)) .inl

end Shape

theorem isCoherent_emitDynamic {route : Spec.Route} {module sentinel : Text} {number : Nat}
    {e : Emitted} (h : emitDynamic route module number sentinel = .ok e) : e.IsCoherent := by
  cases hbuilding : Condition.statements route.handler.conditions route.handler.query sentinel with
  | error mismatch =>
    rw [emitDynamic, hbuilding] at h
    cases h
  | ok building =>
    rw [emitDynamic, hbuilding] at h
    obtain rfl := Except.ok.inj h
    refine isCoherent_of_shape route module number none true rfl rfl rfl
      (fun name => ?_) (fun scope hservice hglobals => ?_) fun _ => rfl
    · simp [Expr.Calls, Expr.within, Stmt.allWithin, Stmt.allWithin_append, Stmt.within,
        Expr.allWithin, Expr.callOf, dotted_service, call_ident_notMem_statements hbuilding]
    · let inner := payloadName :: "body" :: scope
      have hkept {name : Text} (h : name ∈ inner) : name ∈ Stmt.scopeAfter inner building :=
        Stmt.mem_scopeAfter_iff.2 (.inl h)
      have hclosed : Stmt.allClosed inner building := allClosed_statements hbuilding
        List.mem_cons_self fun name h => by simp [inner, hglobals name h]
      have hquery : queryName ∈ Stmt.scopeAfter inner building :=
        queryName_mem_scopeAfter hbuilding inner
      have hfind : Service.findOne.name ∈ Stmt.scopeAfter inner building :=
        hkept (by simp [inner, hservice])
      have hpayload : payloadName ∈ Stmt.scopeAfter inner building := hkept List.mem_cons_self
      have hscope : Stmt.scopeAfter ([bodyParam].flatMap Param.binders ++ scope)
        [.const payloadName (some "Record<string, any>") (.ident "body")] = inner := rfl
      rw [Expr.isClosed, Stmt.allClosed_append, Stmt.allClosed_append, Stmt.scopeAfter_append, hscope,
        hclosed]
      simp [bodyParam, Param.binders, Property.binders, Stmt.allClosed, Stmt.isClosed, Stmt.binders,
        Expr.isClosed, Expr.allClosed, Expr.callOf, dotted_service, hquery, hfind, hpayload]

/-- A lookup takes the key from a path parameter, from the body, or has none. -/
theorem keySource_cases (route : Spec.Route) :
    (∃ key, keySource route = {
      params := [.pattern [.entry "params" (.obj [.shorthand key] false)] false none]
      args := [.ident key]
      paramsSchema := some (paramsSchema (pathParams route.path))
      validatesBody := !(route.payload.getD []).isEmpty &&
        bodyMethods.contains route.method.lower }) ∨
    (∃ field, keySource route = {
      params := [bodyParam]
      args := [.member (.ident "body") field]
      paramsSchema := none
      validatesBody := true }) ∨
    keySource route = { params := [], args := [], paramsSchema := none, validatesBody := false } := by
  cases hkey : lookupKey? (pathParams route.path) with
  | some key => exact .inl ⟨key, by simp [keySource, hkey]⟩
  | none =>
    cases hpayload : route.payload.getD [] with
    | nil => exact .inr (.inr (by simp [keySource, hkey, hpayload]))
    | cons first rest => exact .inr (.inl ⟨first.1, by simp [keySource, hkey, hpayload]⟩)

/-- The key of a lookup is bound by the handler's parameter, and is called nowhere. -/
theorem allClosed_keySource (route : Spec.Route) (scope : List Text) :
    Expr.allClosed ((keySource route).params.flatMap Param.binders ++ scope)
      (keySource route).args := by
  rcases keySource_cases route with ⟨key, hsource⟩ | ⟨field, hsource⟩ | hsource <;>
    simp [hsource, bodyParam, Param.binders, Property.binders, Expr.binders, Expr.allClosed,
      Expr.isClosed]

theorem call_ident_notMem_keySource (route : Spec.Route) (callee : Text) (args : List Expr) :
    Expr.call (.ident callee) args ∉ Expr.allWithin (keySource route).args := by
  rcases keySource_cases route with ⟨key, hsource⟩ | ⟨field, hsource⟩ | hsource <;>
    simp [hsource, Expr.allWithin, Expr.within]

/-- Only a path parameter can bear the name of the builder, and path parameters have a schema. -/
theorem exists_paramsSchema_keySource (route : Spec.Route) :
    ∃ params : Option (List Text), (keySource route).paramsSchema = params.map paramsSchema ∧
      (Expr.ident builderName ∈ Expr.allWithin (keySource route).args → params.isSome) := by
  rcases keySource_cases route with ⟨key, hsource⟩ | ⟨field, hsource⟩ | hsource
  · exact ⟨some (pathParams route.path), by rw [hsource]; rfl, fun _ => rfl⟩
  · have hbody : builderName ≠ "body" := by decide
    refine ⟨none, by rw [hsource]; rfl, ?_⟩
    rw [hsource]
    simp [Expr.allWithin, Expr.within, hbody]
  · refine ⟨none, by rw [hsource]; rfl, ?_⟩
    rw [hsource]
    simp [Expr.allWithin]

theorem isCoherent_emitLookup (route : Spec.Route) (module : Text) (number : Nat) :
    (emitLookup route module number).IsCoherent := by
  obtain ⟨params, hparams, hplain⟩ := exists_paramsSchema_keySource route
  have hvalidates : (emitLookup route module number).validates =
      (params.isSome || (keySource route).validatesBody) := by
    rw [emitLookup, hparams]
    cases params <;> rfl
  let call := Expr.callOf Service.findOneById.name
    ((keySource route).args ++ [.str route.handler.query])
  have hlink : (emitLookup route module number).link = .call route.method.lower [.str route.path,
      .arrowBlock (keySource route).params [.return (some call)],
      .obj (optionEntries route module number params (keySource route).validatesBody) true] := by
    rw [emitLookup, hparams]
    cases params <;> rfl
  have hwithin : (Expr.arrowBlock (keySource route).params [.return (some call)]).within =
      [.arrowBlock (keySource route).params [.return (some call)], call,
        .ident Service.findOneById.name] ++ Expr.allWithin (keySource route).args ++
        [.str route.handler.query] := by
    simp [call, Expr.within, Stmt.allWithin, Stmt.within, Expr.callOf, dotted_service,
      Expr.allWithin_append, Expr.allWithin]
  refine isCoherent_of_shape route module number _ _ hlink rfl hvalidates (fun name => ?_)
    (fun scope hservice _ => ?_) fun h => ?_
  · show _ ↔ name = Service.findOneById.name
    rw [Expr.Calls, hwithin]
    simp [call, Expr.callOf, dotted_service, call_ident_notMem_keySource]
  · have hfind : Service.findOneById.name ∈ scope := hservice
    simp [call, Expr.isClosed, Stmt.allClosed, Stmt.isClosed, Expr.callOf, dotted_service,
      Expr.allClosed_append, Expr.allClosed, allClosed_keySource, hfind]
  · have hkey : Expr.ident builderName ∈ Expr.allWithin (keySource route).args := by
      have hname : builderName ≠ Service.findOneById.name := by decide
      rw [hwithin] at h
      simpa [call, Expr.callOf, hname] using h
    rw [hvalidates, hplain hkey, Bool.true_or]

/-- Every route that is emitted is held together by names. -/
theorem isCoherent_emit {route : Spec.Route} {module sentinel : Text} {number : Nat} {e : Emitted}
    (h : emit route module number sentinel = .ok e) : e.IsCoherent := by
  rw [emit] at h
  split at h
  · exact isCoherent_emitDynamic h
  · obtain rfl := Except.ok.inj h
    exact isCoherent_emitLookup route module number

end Routewright.Route
