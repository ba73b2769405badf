/-
The constants of a module. Their names come from the routes that name them, from the numbers of the
routes that do not, and from the router. The last two are identifiers that never meet; a name of the
first kind is taken as it is, so whether the constants are well named is up to the routes.
-/
import Mathlib.Data.List.Nodup
import Routewright.Proofs.Module.Closed
import Routewright.Proofs.Spec.Names
import Routewright.Proofs.Text.Digits

namespace Routewright

open Script (Stmt isName isNamePart isNameStart)
open Route (Emitted)

/-! ## Identifiers -/

theorem Script.isName_append {name more : Text} (hne : name ≠ []) :
    isName (name ++ more) ↔ isName name ∧ more.all isNamePart := by
  obtain ⟨c, rest, rfl⟩ := List.exists_cons_of_ne_nil hne
  simp [isName, and_assoc]

theorem Script.isNamePart_of_isWord {c : CodePoint} (hc : c.val < 128) (h : c.isWord) :
    isNamePart c := by
  have hunderscore : c.val = 95 → c = CodePoint.ofChar '_' := fun h => CodePoint.ext h
  rw [CodePoint.isWord, if_pos hc] at h
  simp only [Bool.or_eq_true, beq_iff_eq] at h
  simp only [isNamePart, isNameStart, Bool.or_eq_true, beq_iff_eq]
  rcases h with (h | h) | h
  · exact .inl (.inl (.inl h))
  · exact .inr h
  · exact .inl (.inl (.inr (hunderscore h)))

theorem IsAsciiName.all_isNamePart {name : Text} (h : IsAsciiName name) :
    name.all isNamePart :=
  List.all_eq_true.2 fun c hc => Script.isNamePart_of_isWord (h.ascii c hc) (h.word c hc)

theorem Spec.isName_of_isModuleName {name : Text} (h : Spec.isModuleName name) : isName name := by
  have hparts := (Spec.isAsciiName_of_isModuleName h).all_isNamePart
  cases name with
  | nil => cases h
  | cons c rest =>
    rw [Spec.isModuleName, Bool.and_eq_true] at h
    rw [List.all_cons, Bool.and_eq_true] at hparts
    simp [isName, isNameStart, CodePoint.isLetter, h.1, hparts.2]

namespace Route

/-! ## The constant of a route -/

/-- The name that a route gives its schema constant, if it gives one. -/
def ownName? (route : Spec.Route) : Option Text :=
  match route.name with
  | some name => if name.isEmpty then none else some name
  | none => none

/-- The name that the constant of a route without one has by the route's number. -/
def numberedName (module : Text) (number : Nat) : Text := module ++ "Route" ++ Text.ofNat number

theorem ownName?_ne_nil {route : Spec.Route} {name : Text} (h : ownName? route = some name) :
    name ≠ [] := by
  unfold ownName? at h
  split at h
  · split at h
    · cases h
    · rename_i hname
      obtain rfl := Option.some.inj h
      simpa using hname
  · cases h

/-- A route has a constant exactly if it validates the body of its requests. -/
theorem schema_emit {route : Spec.Route} {module sentinel : Text} {number : Nat} {e : Emitted}
    (h : emit route module number sentinel = .ok e) : e.schema =
      if validatesBody route then some (schemaDeclaration (schemaName route module number) route.payload)
      else none := by
  rw [emit] at h
  rw [validatesBody]
  split at h
  · rename_i hdynamic
    rw [emitDynamic] at h
    cases hbuilding : Condition.statements route.handler.conditions route.handler.query sentinel with
    | error mismatch =>
      rw [hbuilding] at h
      cases h
    | ok building =>
      rw [hbuilding] at h
      obtain rfl := Except.ok.inj h
      rw [hdynamic]
      rfl
  · rename_i hdynamic
    obtain rfl := Except.ok.inj h
    rw [Bool.eq_false_iff.2 hdynamic]
    rfl

end Route

/-- A list of chosen or default values is the chosen values and the defaults, in some order. -/
theorem perm_map_getD {α β : Type} (chosen : α → Option β) (default : α → β) (as : List α) :
    (as.map fun a => (chosen a).getD (default a)).Perm
      (as.filterMap chosen ++ (as.filter fun a => (chosen a).isNone).map default) := by
  induction as with
  | nil => exact .nil
  | cons a as ih =>
    cases h : chosen a with
    | some b => simpa [h] using ih
    | none => simpa [h] using (ih.cons (default a)).trans List.perm_middle.symm

namespace Module

/-! ## The constants of a module -/

/-- The name of a constant. -/
def constantName? : Stmt → Option Text
  | .const name _ _ => some name
  | _ => none

/-- The constants that a module declares, in their order. -/
def Parts.constants (p : Parts) : List Text := p.statements.filterMap constantName?

/-- The routes that have a constant, with their numbers. -/
def bearing (s : Spec) : List (Spec.Route × Nat) :=
  (s.routes.zipIdx 1).filter fun r => Route.validatesBody r.1

/-- The names that the routes with constants give them. -/
def ownNames (s : Spec) : List Text := (bearing s).filterMap (Route.ownName? ·.1)

/-- The names by number of the routes with constants that give them none. -/
def numberedNames (s : Spec) : List Text :=
  ((bearing s).filter fun r => (Route.ownName? r.1).isNone).map fun r =>
    Route.numberedName s.module r.2

theorem constants_schemas {c : Config} {s : Spec} {number : Nat} {specs : List Spec.Route}
    {routes : List Emitted} (h : emitRoutes c s number specs = .ok routes) :
    (routes.filterMap (·.schema)).filterMap constantName? =
      ((specs.zipIdx number).filter fun r => Route.validatesBody r.1).map fun r =>
        Route.schemaName r.1 s.module r.2 := by
  induction specs generalizing number routes with
  | nil =>
    obtain rfl := Except.ok.inj h
    rfl
  | cons spec specs ih =>
    rw [emitRoutes] at h
    cases hemit : Route.emit spec s.module number c.notNullSentinel with
    | error mismatch => rw [hemit] at h; cases h
    | ok r =>
      cases hmore : emitRoutes c s (number + 1) specs with
      | error mismatch => rw [hemit, hmore] at h; cases h
      | ok more =>
        rw [hemit, hmore] at h
        obtain rfl := Except.ok.inj h
        have hschema := Route.schema_emit hemit
        rw [List.zipIdx_cons, List.filter_cons]
        split at hschema
        · rename_i hbody
          rw [if_pos hbody, List.map_cons, ← ih hmore, List.filterMap_cons_some hschema]
          rfl
        · rename_i hbody
          rw [if_neg hbody, ← ih hmore, List.filterMap_cons_none hschema]

theorem constants_imports (c : Config) (routes : List Emitted) :
    (imports c routes).filterMap constantName? = [] := by
  rw [imports]
  split <;> rfl

theorem constants_eq {cwd : FilePath} {c : Config} {s : Spec} {source : Option FilePath}
    {p : Parts} (h : parts cwd c s source = .ok p) :
    p.constants = ((bearing s).map fun r => Route.schemaName r.1 s.module r.2) ++
      [s.variableName] := by
  cases hemit : emitRoutes c s 1 s.routes with
  | error mismatch => rw [parts, hemit] at h; cases h
  | ok routes =>
    rw [parts, hemit] at h
    obtain rfl := Except.ok.inj h
    rw [Parts.constants, Parts.statements, List.filterMap_cons_none rfl, List.filterMap_append,
      List.filterMap_append, constants_imports, constants_schemas hemit]
    rfl

/-- The constants of the routes are made of the names that the routes give and those by number. -/
theorem schemaNames_perm (s : Spec) :
    ((bearing s).map fun r => Route.schemaName r.1 s.module r.2).Perm
      ((ownNames s ++ numberedNames s).map (· ++ ("PayloadSchema" : Text))) := by
  have h := (perm_map_getD (fun r : Spec.Route × Nat => Route.ownName? r.1)
    (fun r => Route.numberedName s.module r.2) (bearing s)).map (· ++ ("PayloadSchema" : Text))
  rwa [List.map_map] at h

theorem constants_perm {cwd : FilePath} {c : Config} {s : Spec} {source : Option FilePath}
    {p : Parts} (h : parts cwd c s source = .ok p) :
    p.constants.Perm ((ownNames s ++ numberedNames s).map (· ++ ("PayloadSchema" : Text)) ++
      [s.variableName]) := by
  rw [constants_eq h]
  exact (schemaNames_perm s).append_right _

/-! ## Names that never meet -/

/-- Two routes have two numbers, and a number is written in one way. -/
theorem nodup_numberedNames (s : Spec) : (numberedNames s).Nodup := by
  have hnumbers : ((bearing s).map Prod.snd).Nodup := by
    have hall : ((s.routes.zipIdx 1).map Prod.snd).Nodup := by
      rw [List.zipIdx_map_snd]
      exact List.nodup_range'
    exact hall.sublist (List.filter_sublist.map _)
  have hnameless : (((bearing s).filter fun r => (Route.ownName? r.1).isNone).map Prod.snd).Nodup :=
    hnumbers.sublist (List.filter_sublist.map _)
  have hnames := hnameless.map (f := Route.numberedName s.module) fun i j h =>
    Text.ofNat_inj (List.append_cancel_left h)
  rwa [List.map_map] at hnames

theorem variableName_notMem (s : Spec) (names : List Text) :
    s.variableName ∉ names.map (· ++ ("PayloadSchema" : Text)) := by
  intro h
  obtain ⟨name, -, hname⟩ := List.mem_map.1 h
  have hrouter := Text.endsWith_iff.1 (Spec.endsWith_variableName s)
  rw [← hname] at hrouter
  have hend : Aggregator.routesMark <:+ ("PayloadSchema" : Text) :=
    List.suffix_of_suffix_length_le hrouter (List.suffix_append _ _) (by decide)
  exact absurd hend (by decide)

theorem isName_schemaName {name : Text} (hne : name ≠ []) :
    isName (name ++ ("PayloadSchema" : Text)) ↔ isName name :=
  (Script.isName_append hne).trans (and_iff_left (by decide))

section Named

variable {s : Spec} (hmodule : Spec.isModuleName s.module)
include hmodule

theorem isName_module_append {more : Text} (h : more.all isNamePart) : isName (s.module ++ more) :=
  (Script.isName_append (Spec.isAsciiName_of_isModuleName hmodule).ne_nil).2
    ⟨Spec.isName_of_isModuleName hmodule, h⟩

theorem isName_numberedNames {name : Text} (h : name ∈ numberedNames s) : isName name := by
  obtain ⟨r, -, rfl⟩ := List.mem_map.1 h
  rw [Route.numberedName, List.append_assoc]
  refine isName_module_append hmodule ?_
  rw [List.all_append, Bool.and_eq_true]
  refine ⟨by decide, List.all_eq_true.2 fun c hc => ?_⟩
  rw [isNamePart, Text.isDigit_of_mem_ofNat hc, Bool.or_true]

theorem isName_variableName (hversion : Spec.isVersionName s.version) : isName s.variableName := by
  have hrest := (Spec.isAsciiName_of_isVersionName hversion).capitalised.append
    Spec.isAsciiName_routesMark
  rw [show s.variableName = s.module ++ (s.version.capitalised ++ Aggregator.routesMark) from
    List.append_assoc _ _ _]
  exact isName_module_append hmodule hrest.all_isNamePart

end Named

/-! ## The constants together -/

section Parts

variable {cwd : FilePath} {c : Config} {s : Spec} {source : Option FilePath} {p : Parts}
  (h : parts cwd c s source = .ok p)
include h

theorem nodup_constants_iff : p.constants.Nodup ↔
    (ownNames s).Nodup ∧ ∀ name ∈ ownNames s, name ∉ numberedNames s := by
  have hinj : Function.Injective (· ++ ("PayloadSchema" : Text)) :=
    fun _ _ => List.append_cancel_right
  rw [(constants_perm h).nodup_iff, List.nodup_append_comm, List.singleton_append, List.nodup_cons,
    and_iff_right (variableName_notMem s _), List.nodup_map_iff hinj, List.nodup_append]
  constructor
  · rintro ⟨hown, -, hapart⟩
    exact ⟨hown, fun name hname hnumbered => hapart name hname name hnumbered rfl⟩
  · rintro ⟨hown, hapart⟩
    refine ⟨hown, nodup_numberedNames s, ?_⟩
    rintro name hname _ hnumbered rfl
    exact hapart name hname hnumbered

theorem isName_constants_iff (hmodule : Spec.isModuleName s.module)
    (hversion : Spec.isVersionName s.version) :
    (∀ name ∈ p.constants, isName name) ↔ ∀ name ∈ ownNames s, isName name := by
  have hown (name : Text) (hname : name ∈ ownNames s) :
      isName (name ++ ("PayloadSchema" : Text)) ↔ isName name := by
    obtain ⟨r, -, hr⟩ := List.mem_filterMap.1 hname
    exact isName_schemaName (Route.ownName?_ne_nil hr)
  have hnumbered (name : Text) (hname : name ∈ numberedNames s) :
      isName (name ++ ("PayloadSchema" : Text)) := by
    have hgood := isName_numberedNames hmodule hname
    exact (isName_schemaName (by rintro rfl; cases hgood)).2 hgood
  have hmem (name : Text) : name ∈ p.constants ↔
      ((∃ own ∈ ownNames s, own ++ ("PayloadSchema" : Text) = name) ∨
        ∃ numbered ∈ numberedNames s, numbered ++ ("PayloadSchema" : Text) = name) ∨
      name = s.variableName := by
    rw [(constants_perm h).mem_iff, List.map_append, List.mem_append, List.mem_append,
      List.mem_map, List.mem_map, List.mem_singleton]
  constructor
  · intro hall name hname
    exact (hown name hname).1 (hall _ ((hmem _).2 (.inl (.inl ⟨name, hname, rfl⟩))))
  · intro hall name hname
    rcases (hmem name).1 hname with (⟨own, howned, rfl⟩ | ⟨numbered, hn, rfl⟩) | rfl
    · exact (hown own howned).2 (hall own howned)
    · exact hnumbered numbered hn
    · exact isName_variableName hmodule hversion

end Parts

/-- The constants of a module have different names exactly if no name that a route gives is given
twice or is one by number, and are identifiers exactly if the given names are. -/
theorem constants_sound_iff {origin : Text} {v : Document.Value} {s : Spec}
    (hspec : Spec.ofValue origin v = .ok s) {cwd : FilePath} {c : Config}
    {source : Option FilePath} {p : Parts} (h : parts cwd c s source = .ok p) :
    (p.constants.Nodup ↔
        (ownNames s).Nodup ∧ ∀ name ∈ ownNames s, name ∉ numberedNames s) ∧
      ((∀ name ∈ p.constants, isName name) ↔ ∀ name ∈ ownNames s, isName name) :=
  (Spec.names_of_ofValue hspec).elim fun hmodule hversion =>
    ⟨nodup_constants_iff h, isName_constants_iff h hmodule hversion⟩

/-- The constants of a route without a name and of a second one that is named well, like the first
one by its number, and with a blank. -/
theorem constants_sound_iff_named :
    let handler : Spec.Handler := ⟨some "findOne", [], none, none, []⟩
    let route (name : Option Text) : Spec.Route :=
      ⟨"/find", "POST", name, Spec.Detail.empty, none, handler, ⟨[]⟩, []⟩
    let s (name : Text) : Spec := ⟨"users", "v1", [route none, route (some name)]⟩
    let entries (name : Document.Value) : Document.Value := .map [(.str "path", .str "/find"),
      (.str "method", .str "POST"), (.str "name", name),
      (.str "handler", .map [(.str "requestType", .str "findOne")])]
    let v (name : Text) : Document.Value := .map [(.str "module", .str "users"),
      (.str "version", .str "v1"), (.str "routes", .list [entries .null, entries (.str name)])]
    let c := Config.standard ⟨1, ["p"]⟩
    (Spec.ofValue "users.json" (v "find") = .ok (s "find") ∧
      ∃ p, parts c.root c (s "find") none = .ok p ∧
        p.constants =
          ["usersRoute1PayloadSchema", "findPayloadSchema", "usersV1Routes"].map Text.ofString ∧
        p.constants.Nodup ∧ ∀ name ∈ p.constants, isName name) ∧
    (Spec.ofValue "users.json" (v "usersRoute1") = .ok (s "usersRoute1") ∧
      ∃ p, parts c.root c (s "usersRoute1") none = .ok p ∧ ¬p.constants.Nodup) ∧
    (Spec.ofValue "users.json" (v "find user") = .ok (s "find user") ∧
      ∃ p, parts c.root c (s "find user") none = .ok p ∧ ¬∀ name ∈ p.constants, isName name) := by
  intro handler route s entries v c
  have hfind : Spec.ofValue "users.json" (v "find") = .ok (s "find") := by rfl
  have htwice : Spec.ofValue "users.json" (v "usersRoute1") = .ok (s "usersRoute1") := by rfl
  have hblank : Spec.ofValue "users.json" (v "find user") = .ok (s "find user") := by rfl
  refine ⟨⟨hfind, _, rfl, by decide +kernel, ?_, ?_⟩, ⟨htwice, _, rfl, ?_⟩, hblank, _, rfl, ?_⟩
  · exact (constants_sound_iff hfind rfl).1.2 (by decide +kernel)
  · exact (constants_sound_iff hfind rfl).2.2 (by decide +kernel)
  · exact fun h => absurd ((constants_sound_iff htwice rfl).1.1 h) (by decide +kernel)
  · exact fun h => absurd ((constants_sound_iff hblank rfl).2.1 h) (by decide +kernel)

end Module

end Routewright
