/-
A module is closed and imports nothing that it does not use. What its routes contribute decides about
its imports and its schema constants; here the contributions are put together, and the flags that the
imports are made from are shown to say what the emitted trees use.
-/
import Routewright.Module.Render
import Routewright.Proofs.Route.Names

namespace Routewright.Module

open Script (Expr Link Stmt)
open Route (Emitted Service builderName globalNames)

/-! ## The parts of a module -/

/-- The names that a module imports. -/
def Parts.importedNames (p : Parts) : List Text := p.imports.flatMap Stmt.binders

/-- The links of a module's router. -/
def Parts.links (p : Parts) : List Link :=
  match p.router with
  | .const _ _ (.chain _ links) => links
  | _ => []

def Parts.handlers (p : Parts) : List Expr := p.links.flatMap Link.handlers

def Parts.options (p : Parts) : List Expr := p.links.flatMap Link.options

/-- The schema constants that a module declares. -/
def Parts.schemaNames (p : Parts) : List Text := p.schemas.flatMap Stmt.binders

/-- The statements of a module in the order they are printed. -/
def Parts.statements (p : Parts) : List Stmt :=
  p.header :: (p.imports ++ (p.schemas ++ [p.router, p.last]))

/-- A module that is closed and whose imports are used. Functions are called by the names that they
are imported under, also where a path parameter of that name hides the import; code that is printed as
it is stays unread. -/
structure Parts.IsClosed (p : Parts) : Prop where
  /-- The schema builder is imported exactly if a schema constant or the router uses it. -/
  builder : builderName ∈ p.importedNames ↔
    Expr.ident builderName ∈ Stmt.allWithin (p.schemas ++ [p.router])
  /-- A service is imported exactly if some handler calls it. -/
  services : ∀ service : Service,
    service.name ∈ p.importedNames ↔ ∃ h ∈ p.handlers, h.Calls service.name
  /-- The schema constants are the names in the options of the routes that are not imported, in the
  same order and each as often as it is used. -/
  schemas : (p.options.flatMap Expr.names).filter (· ∉ p.importedNames) = p.schemaNames
  /-- A handler uses what it binds itself, what is imported, and the global objects. -/
  handlers : ∀ h ∈ p.handlers, h.isClosed (p.importedNames ++ globalNames)
  /-- The statements use what the ones before them bind, and the global objects. -/
  statements : Stmt.allClosed globalNames p.statements

/-! ## Imports -/

section Routes

variable {c : Config} {s : Spec} {routes : List Emitted}

theorem binders_imports (c : Config) (routes : List Emitted) :
    (imports c routes).flatMap Stmt.binders =
      (usedServices routes).map (·.name) ++
        Text.ofString "Elysia" :: if routes.any (·.validates) then [builderName] else [] := by
  rw [imports]
  cases usedServices routes <;> simp [Stmt.binders, builderName]

theorem mem_usedServices {service : Service} :
    service ∈ usedServices routes ↔ ∃ e ∈ routes, e.service = service := by
  cases service <;> simp [usedServices]

theorem name_inj {service other : Service} : service.name = other.name ↔ service = other := by
  cases service <;> cases other <;> decide

theorem service_mem_imports {service : Service} :
    service.name ∈ (imports c routes).flatMap Stmt.binders ↔ ∃ e ∈ routes, e.service = service := by
  have hother : service.name ≠ Text.ofString "Elysia" ∧ service.name ≠ builderName := by
    cases service <;> decide
  rw [binders_imports, ← mem_usedServices]
  simp only [List.mem_append, List.mem_map, name_inj, exists_eq_right, List.mem_cons, hother.1,
    false_or]
  split <;> simp [hother.2]

theorem builder_mem_imports :
    builderName ∈ (imports c routes).flatMap Stmt.binders ↔ ∃ e ∈ routes, e.validates := by
  have hother : builderName ≠ Text.ofString "Elysia" := by decide
  have hservice (service : Service) : service.name ≠ builderName := by cases service <;> decide
  rw [binders_imports, ← List.any_eq_true]
  simp only [List.mem_append, List.mem_map, hservice, and_false, exists_false, false_or,
    List.mem_cons, hother]
  split <;> simp_all

/-- No schema constant has the name of an import. -/
theorem notMem_imports_of_endsWith {name : Text} (h : name.endsWith "PayloadSchema") :
    name ∉ (imports c routes).flatMap Stmt.binders := by
  have hname (other : Text) (hother : other.endsWith "PayloadSchema" = false) : name ≠ other :=
    fun he => by rw [he, hother] at h; cases h
  have hservice (service : Service) : service.name ≠ name :=
    Ne.symm (hname _ (by cases service <;> decide))
  rw [binders_imports]
  simp only [List.mem_append, List.mem_map, hservice, and_false, exists_false, false_or,
    List.mem_cons, hname (Text.ofString "Elysia") (by decide)]
  split <;> simp [hname builderName (by decide)]

/-! ## Schemas and links -/

theorem mem_allWithin_schemas {e : Expr} :
    e ∈ Stmt.allWithin (routes.filterMap (·.schema)) ↔
      ∃ r ∈ routes, e ∈ Stmt.allWithin r.schema.toList := by
  induction routes with
  | nil => simp [Stmt.allWithin]
  | cons r routes ih =>
    cases hschema : r.schema with
    | none => simp [hschema, Stmt.allWithin, ih]
    | some schema => simp [hschema, Stmt.allWithin, ih]

theorem mem_allWithin_links {e : Expr} :
    e ∈ Link.allWithin (routes.map (·.link)) ↔ ∃ r ∈ routes, e ∈ Link.allWithin [r.link] := by
  induction routes with
  | nil => simp [Link.allWithin]
  | cons r routes ih =>
    obtain ⟨link, schema, service, validates⟩ := r
    obtain ⟨method, args⟩ := link
    simp [Link.allWithin, ih]

theorem schemaNames_schemas :
    (routes.filterMap (·.schema)).flatMap Stmt.binders = routes.flatMap (·.schemaNames) := by
  induction routes with
  | nil => rfl
  | cons r routes ih =>
    cases hschema : r.schema with
    | none => simp [hschema, Emitted.schemaNames, ih]
    | some schema => simp [hschema, Emitted.schemaNames, ih]

/-- The builder is used by a route that validates, and by nothing else. -/
theorem builder_mem_module (hroutes : ∀ r ∈ routes, r.IsCoherent) :
    Expr.ident builderName ∈ Stmt.allWithin (routes.filterMap (·.schema) ++ [router s routes]) ↔
      ∃ r ∈ routes, r.validates := by
  have hrouter : Expr.ident builderName ∈ (router s routes).within ↔
      Expr.ident builderName ∈ Link.allWithin (routes.map (·.link)) := by
    have hother : builderName ≠ Text.ofString "Elysia" := by decide
    simp [router, Stmt.within, Expr.within, Expr.allWithin, Script.Property.allWithin, hother]
  rw [Stmt.allWithin_append, List.mem_append, mem_allWithin_schemas, Stmt.allWithin, Stmt.allWithin,
    List.append_nil, hrouter, mem_allWithin_links]
  constructor
  · rintro (⟨r, hr, huse⟩ | ⟨r, hr, huse⟩)
    · exact ⟨r, hr, (hroutes r hr).builder.1 (List.mem_append_left _ huse)⟩
    · exact ⟨r, hr, (hroutes r hr).builder.1 (List.mem_append_right _ huse)⟩
  · rintro ⟨r, hr, hvalidates⟩
    exact (List.mem_append.1 ((hroutes r hr).builder.2 hvalidates)).imp
      (fun huse => ⟨r, hr, huse⟩) fun huse => ⟨r, hr, huse⟩

/-- The names in the options of a route are the builder and the schema constant of the route. -/
theorem name_of_mem_options {r : Emitted} (hr : r.IsCoherent) {o : Expr} (ho : o ∈ r.link.options)
    {name : Text} (hname : Expr.ident name ∈ o.within) :
    name = builderName ∧ r.validates ∨ name ∈ r.schemaNames := by
  by_cases hbuilder : name = builderName
  · subst hbuilder
    have huse : Expr.ident builderName ∈ Link.allWithin [r.link] :=
      Link.mem_allWithin_singleton.2 ⟨o, (List.mem_filter.1 ho).1, hname⟩
    exact .inl ⟨rfl, hr.builder.1 (List.mem_append_right _ huse)⟩
  · refine .inr (hr.options ▸ List.mem_filter.2 ⟨?_, by simp [hbuilder]⟩)
    exact List.mem_flatMap.2 ⟨o, ho, Expr.mem_names.2 hname⟩

/-- What the options of a route name is imported or is the schema constant of the route. -/
theorem names_options (hroutes : ∀ r ∈ routes, r.IsCoherent) {r : Emitted} (hr : r ∈ routes) :
    (r.link.options.flatMap Expr.names).filter
      (· ∉ (imports c routes).flatMap Stmt.binders) = r.schemaNames := by
  have hcoherent := hroutes r hr
  rw [← hcoherent.options]
  refine List.filter_congr fun name hname => ?_
  obtain ⟨o, ho, hname⟩ := List.mem_flatMap.1 hname
  rcases name_of_mem_options hcoherent ho (Expr.mem_names.1 hname) with ⟨rfl, hvalidates⟩ | hschema
  · have himported := builder_mem_imports (c := c).2 ⟨r, hr, hvalidates⟩
    simp [himported]
  · have hends := hcoherent.schemaNames name hschema
    have hbuilder : name ≠ builderName := by
      rintro rfl
      revert hends
      decide
    simp [hbuilder, notMem_imports_of_endsWith hends]

theorem names_allOptions (hroutes : ∀ r ∈ routes, r.IsCoherent) :
    (((routes.map (·.link)).flatMap Link.options).flatMap Expr.names).filter
        (· ∉ (imports c routes).flatMap Stmt.binders) =
      (routes.filterMap (·.schema)).flatMap Stmt.binders := by
  have hall : ∀ r ∈ routes, (r.link.options.flatMap Expr.names).filter
      (· ∉ (imports c routes).flatMap Stmt.binders) = r.schemaNames :=
    fun r hr => names_options hroutes hr
  -- the imports are those of all routes, in the induction over some of them too
  generalize (imports c routes).flatMap Stmt.binders = imported at hall ⊢
  rw [schemaNames_schemas]
  induction routes with
  | nil => rfl
  | cons r routes ih =>
    rw [List.forall_mem_cons] at hroutes hall
    rw [List.map_cons, List.flatMap_cons, List.flatMap_append, List.filter_append, hall.1,
      ih hroutes.2 hall.2, List.flatMap_cons]

end Routes

/-! ## The module -/

theorem isCoherent_of_emitRoutes {c : Config} {s : Spec} {number : Nat} {specs : List Spec.Route}
    {routes : List Emitted} (h : emitRoutes c s number specs = .ok routes) :
    ∀ r ∈ routes, r.IsCoherent := by
  induction specs generalizing number routes with
  | nil =>
    obtain rfl := Except.ok.inj h
    exact fun _ hr => nomatch hr
  | cons spec specs ih =>
    rw [emitRoutes] at h
    cases hemit : Route.emit spec s.module number c.notNullSentinel with
    | error mismatch => rw [hemit] at h; cases h
    | ok r =>
      cases hmore : emitRoutes c s (number + 1) specs with
      | error mismatch => rw [hemit, hmore] at h; cases h
      | ok more =>
        rw [hemit, hmore] at h
        obtain rfl := Except.ok.inj h
        exact List.forall_mem_cons.2 ⟨Route.isCoherent_emit hemit, ih hmore⟩

/-- The router is closed where the imports and the schema constants are bound. -/
theorem isClosed_router {s : Spec} {routes : List Emitted} (hroutes : ∀ r ∈ routes, r.IsCoherent)
    {scope : List Text} (hrouter : Text.ofString "Elysia" ∈ scope)
    (hbuilder : ∀ r ∈ routes, r.validates → builderName ∈ scope)
    (hservices : ∀ r ∈ routes, r.service.name ∈ scope)
    (hglobals : ∀ name ∈ globalNames, name ∈ scope)
    (hschemas : ∀ r ∈ routes, ∀ name ∈ r.schemaNames, name ∈ scope) :
    (router s routes).isClosed scope := by
  have hlinks : Link.allClosed scope (routes.map (·.link)) := by
    rw [Link.allClosed_iff, List.forall_mem_map]
    intro r hr arg harg
    rcases (hroutes r hr).args arg harg with harrow | hobject | ⟨t, rfl⟩
    · exact (hroutes r hr).closed arg (List.mem_filter.2 ⟨harg, harrow⟩) scope (hservices r hr)
        hglobals
    · refine arg.isClosed_of_within fun name hname => ?_
      rcases name_of_mem_options (hroutes r hr) (List.mem_filter.2 ⟨harg, hobject⟩) hname with
        ⟨rfl, hvalidates⟩ | hschema
      · exact hbuilder r hr hvalidates
      · exact hschemas r hr name hschema
    · rfl
  simp [router, Stmt.isClosed, Expr.isClosed, Expr.allClosed, Script.Property.allClosed, hrouter,
    hlinks]

/-- The statements of a module are closed, each in the scope that the ones before it leave. -/
theorem allClosed_module {c : Config} {s : Spec} {routes : List Emitted}
    (hroutes : ∀ r ∈ routes, r.IsCoherent) :
    Stmt.allClosed globalNames (imports c routes ++ (routes.filterMap (·.schema) ++
      [router s routes, .exportDefault (.ident s.variableName)])) := by
  let imported := Stmt.scopeAfter globalNames (imports c routes)
  let bound := Stmt.scopeAfter imported (routes.filterMap (·.schema))
  have mem_imported {name : Text} (h : name ∈ (imports c routes).flatMap Stmt.binders) :
      name ∈ imported := Stmt.mem_scopeAfter_iff.2 (.inr (List.mem_flatMap.1 h))
  have mem_bound {name : Text} (h : name ∈ imported) : name ∈ bound :=
    Stmt.mem_scopeAfter_iff.2 (.inl h)
  have himports : Stmt.allClosed globalNames (imports c routes) := by
    rw [imports]
    split <;> simp [Stmt.allClosed, Stmt.isClosed]
  have hbuilder (r : Emitted) (hr : r ∈ routes) (hvalidates : r.validates) :
      builderName ∈ imported := mem_imported (builder_mem_imports.2 ⟨r, hr, hvalidates⟩)
  have hschemas : Stmt.allClosed imported (routes.filterMap (·.schema)) := by
    refine Stmt.allClosed_of_allWithin _ fun name hname => ?_
    obtain ⟨r, hr, huse⟩ := mem_allWithin_schemas.1 hname
    obtain rfl := (hroutes r hr).schema name huse
    exact hbuilder r hr ((hroutes r hr).builder.1 (List.mem_append_left _ huse))
  have hrouter : (router s routes).isClosed bound := by
    refine isClosed_router hroutes ?_ (fun r hr h => mem_bound (hbuilder r hr h))
      (fun r hr => mem_bound (mem_imported (service_mem_imports.2 ⟨r, hr, rfl⟩)))
      (fun name h => mem_bound (Stmt.mem_scopeAfter_iff.2 (.inl h))) fun r hr name h => ?_
    · exact mem_bound (mem_imported (by simp [binders_imports]))
    · refine Stmt.mem_scopeAfter_iff.2 (.inr (List.mem_flatMap.1 ?_))
      rw [schemaNames_schemas]
      exact List.mem_flatMap.2 ⟨r, hr, h⟩
  rw [Stmt.allClosed_append, Stmt.allClosed_append, himports, hschemas]
  simpa [Stmt.allClosed, Stmt.isClosed, Expr.isClosed, router, Stmt.binders] using hrouter

/-- Every module that has a text is closed, and imports what it uses and nothing else. -/
theorem parts_isClosed {cwd : FilePath} {c : Config} {s : Spec} {source : Option FilePath}
    {p : Parts} (h : parts cwd c s source = .ok p) : p.IsClosed := by
  cases hemit : emitRoutes c s 1 s.routes with
  | error mismatch => rw [parts, hemit] at h; cases h
  | ok routes =>
    rw [parts, hemit] at h
    obtain rfl := Except.ok.inj h
    have hroutes := isCoherent_of_emitRoutes hemit
    have himported (r : Emitted) (hr : r ∈ routes) :
        r.service.name ∈ (imports c routes).flatMap Stmt.binders :=
      service_mem_imports.2 ⟨r, hr, rfl⟩
    refine ⟨?_, fun service => ?_, ?_, fun h hh => ?_, ?_⟩
    · exact builder_mem_imports.trans (builder_mem_module hroutes).symm
    · refine service_mem_imports.trans ?_
      simp only [Parts.handlers, Parts.links, router, List.mem_flatMap, List.mem_map]
      constructor
      · rintro ⟨r, hr, rfl⟩
        obtain ⟨h, hh, hcalls⟩ := (hroutes r hr).called
        exact ⟨h, ⟨_, ⟨r, hr, rfl⟩, hh⟩, hcalls⟩
      · rintro ⟨h, ⟨_, ⟨r, hr, rfl⟩, hh⟩, hcalls⟩
        exact ⟨r, hr, (name_inj.1 ((hroutes r hr).calls h hh _ hcalls)).symm⟩
    · exact names_allOptions hroutes
    · obtain ⟨_, hlink, hh⟩ := List.mem_flatMap.1 hh
      obtain ⟨r, hr, rfl⟩ := List.mem_map.1 hlink
      exact (hroutes r hr).closed h hh _ (List.mem_append_left _ (himported r hr))
        fun name hname => List.mem_append_right _ hname
    · exact allClosed_module hroutes

/-- A module with a route by path, a route by conditions on the body and a route without a key, and a
module with the last of them only. -/
theorem parts_isClosed_mixed :
    let c := Config.standard ⟨1, ["p"]⟩
    let route (path : Text) : Spec.Route :=
      ⟨path, "POST", none, ⟨[], [], []⟩, none, ⟨none, "SELECT 1", none, none, []⟩, ⟨[]⟩, []⟩
    let byPath := route "/users/:id"
    let byConditions : Spec.Route := { route "/find" with
      handler := ⟨some "findOne", "SELECT * FROM users WHERE \x7bdynamic_conditions\x7d",
        some [("id", ⟨"IN", none⟩), ("name", ⟨"LIKE", none⟩)], none, []⟩ }
    let all : Spec := ⟨"users", "v1", [byPath, byConditions, route "/ping"]⟩
    let one : Spec := ⟨"users", "v1", [route "/ping"]⟩
    ∃ mixed plain, parts c.root c all none = .ok mixed ∧ mixed.IsClosed ∧
      mixed.importedNames = (["findOneById", "findOne", "Elysia", "t"] : List Text) ∧
      mixed.schemaNames = (["usersRoute2PayloadSchema"] : List Text) ∧
      parts c.root c one none = .ok plain ∧ plain.IsClosed ∧
      plain.importedNames = (["findOneById", "Elysia"] : List Text) := by
  intro c route byPath byConditions all one
  have hmixed := @parts_isClosed c.root c all none _ rfl
  have hplain := @parts_isClosed c.root c one none _ rfl
  exact ⟨_, _, rfl, hmixed, by decide +kernel, by decide +kernel, rfl, hplain, by decide +kernel⟩

end Routewright.Module
