/-
The statements that build a query do at request time what the evaluator computes: on the same
conditions, query and sentinel they exist exactly when it has a result, and run on a payload they end
with its query and with its parameters.

The proof is a simulation over the rules. A store mirrors the evaluator's progress: the payload that
is left, the fragments and the pending parameters stand at its first three places, and each rule's
statement takes the mirror of the progress before the rule to the mirror of the progress after it.
-/
import Routewright.Condition.Emit
import Routewright.Proofs.Document.Named
import Routewright.Proofs.Script.Meaning
import Routewright.Proofs.Text.Digits

namespace Routewright.Condition

open Document Script

/-! ## Scopes of the statements -/

/-- A scope in which the constants that the rules work with are in place. -/
structure Sees (scope : Scope) : Prop where
  payload : scope.get? payloadName = some (.ref 0)
  clauses : scope.get? clauseListName = some (.ref 1)
  params : scope.get? paramsName = some (.ref 2)
  array : scope.get? "Array" = some (.global "Array")

theorem get?_cons_self {scope : Scope} (name : Text) (v : Option Val) :
    Scope.get? ((name, v) :: scope) name = v := by
  simp [Scope.get?]

theorem get?_cons_ne {scope : Scope} {name other : Text} (v : Option Val) (h : other ≠ name) :
    Scope.get? ((other, v) :: scope) name = scope.get? name := by
  have : (name == other) = false := by simpa using fun he => h he.symm
  simp [Scope.get?, List.lookup_cons, this]

/-- A constant with a name of its own hides none of them. -/
theorem Sees.cons {scope : Scope} (h : Sees scope) {name : Text} (v : Option Val)
    (hn : name ∉ [payloadName, clauseListName, paramsName, Text.ofString "Array"]) :
    Sees ((name, v) :: scope) := by
  simp only [List.mem_cons, List.not_mem_nil, or_false, not_or] at hn
  obtain ⟨h1, h2, h3, h4⟩ := hn
  exact ⟨(get?_cons_ne v h1).trans h.payload, (get?_cons_ne v h2).trans h.clauses,
    (get?_cons_ne v h3).trans h.params, (get?_cons_ne v h4).trans h.array⟩

/-! ## The store of the statements -/

/-- The store that mirrors the evaluator's progress, with the arrays of placeholders that are no
longer needed. -/
def mirror (p : Progress) (rest : Store) : Store :=
  .object (p.bound.mapValues .data) :: .array (p.fragments.map .text) ::
    .object (p.pending.mapValues .data) :: rest

/-- What a field of the payload is for a script. -/
def Progress.field (p : Progress) (name : Text) : Val :=
  match p.bound.get? name with
  | some v => .data v
  | none => .undefined

theorem assign_params (p : Progress) (rest : Store) {key : Text} (v : Value)
    (hk : key ∉ inheritedNames) :
    (mirror p rest).assign? (.ref 2) key (.data v) =
      some (mirror { p with pending := p.pending.put key v } rest) := by
  have hi : inheritedNames.contains key = false := by simpa using hk
  simp only [mirror, Store.assign?, Store.properties?, List.getElem?_cons_succ,
    List.getElem?_cons_zero, Option.bind_eq_bind, Option.bind_some, hi, Named.mapValues_put]
  rfl

section Steps

variable {scope : Scope} (hs : Sees scope) (p : Progress) (rest : Store) {name : Text}
include hs

theorem run_fieldValue (hn : name ∉ inheritedNames) :
    (fieldValue name).run scope (mirror p rest) = some (p.field name, mirror p rest) := by
  have hi : inheritedNames.contains name = false := by simpa using hn
  simp only [fieldValue, Expr.run, hs.payload, Option.map_some, Option.bind_eq_bind,
    Option.bind_some, mirror, Store.property?, Store.items?, Store.properties?,
    List.getElem?_cons_zero, Named.get?_mapValues, Progress.field, ownOrUndefined, hi]
  cases p.bound.get? name <;> rfl

theorem run_delete :
    (Stmt.delete (fieldValue name)).run scope (mirror p rest) =
      some (scope, mirror { p with bound := p.bound.erase name } rest) := by
  simp only [fieldValue, Stmt.run, Expr.run, hs.payload, Option.map_some, Option.bind_eq_bind,
    Option.bind_some, mirror, Store.delete?, Store.properties?, List.getElem?_cons_zero,
    Named.mapValues_erase, List.set_cons_zero]

/-- Pushing a fragment, whatever expression it is the value of. -/
theorem run_pushFragment {fragment : Expr} {t : Text} (ha : fragment.isArrow = false)
    (hf : ∀ s, fragment.run scope s = some (.text t, s)) :
    (pushFragment fragment).run scope (mirror p rest) =
      some (scope, mirror { p with fragments := p.fragments ++ [t] } rest) := by
  have ho := run_ident hs.clauses (mirror p rest)
  rw [pushFragment, Stmt.run, run_method (by simp [ha]) ho (runAll_singleton (hf _)), method?_push]
  simp [Store.push?, mirror]

theorem run_pushText (t : Text) :
    (pushFragment (.str t)).run scope (mirror p rest) =
      some (scope, mirror { p with fragments := p.fragments ++ [t] } rest) :=
  run_pushFragment hs p rest rfl fun _ => rfl

end Steps

/-! ## Names of parameters -/

theorem inheritedNames_getLast : ∀ name ∈ inheritedNames, ∀ c, name.getLast? = some c →
    c.isDigit = false := by
  decide

/-- The parameter of an element is no inherited property: its name ends in a digit. -/
theorem elementName_notMem_inherited (name : Text) (index : Nat) :
    elementName name index ∉ inheritedNames := by
  intro h
  obtain ⟨c, hc⟩ : ∃ c, (Text.ofNat index).getLast? = some c :=
    ⟨_, List.getLast?_eq_some_getLast (Text.ofNat_ne_nil index)⟩
  have hl : (elementName name index).getLast? = some c := by
    rw [elementName, List.getLast?_append, hc]; rfl
  have hd := Text.isDigit_of_mem_ofNat (List.mem_of_getLast? hc)
  rw [inheritedNames_getLast _ h c hl] at hd
  cases hd

/-! ## Visiting the elements of a list -/

/-- The placeholders of some parameters. -/
def placeholders (params : Bindings) : List Text := params.map fun e => ":" ++ e.1

/-- Visits that write a placeholder for each element and leave the store as it is. -/
theorem forItems_placeholders {step : Nat → Val → Store → Option (Val × Store)} {name : Text}
    {s : Store}
    (h : ∀ i v, step i (.data v) s = some (.text (":" ++ elementName name i), s)) :
    ∀ (vs : List Value) (i : Nat), forItems step i (vs.map .data) s =
      some ((placeholders (elements name i vs)).map .text, s)
  | [], _ => rfl
  | v :: vs, i => by
    simp only [List.map_cons, forItems, h i v, Option.bind_eq_bind, Option.bind_some,
      forItems_placeholders h vs (i + 1), elements, placeholders]

/-- Visits that bind each element to its parameter. -/
theorem forItems_params {step : Nat → Val → Store → Option (Val × Store)} {name : Text}
    {rest : Store}
    (h : ∀ i v (p : Progress), step i (.data v) (mirror p rest) =
      some (.undefined, mirror { p with pending := p.pending.put (elementName name i) v } rest)) :
    ∀ (vs : List Value) (i : Nat) (p : Progress), ∃ results,
      forItems step i (vs.map .data) (mirror p rest) =
        some (results, mirror { p with pending := p.pending.putAll (elements name i vs) } rest)
  | [], _, _ => ⟨[], rfl⟩
  | v :: vs, i, p => by
    obtain ⟨results, hr⟩ := forItems_params h vs (i + 1)
      { p with pending := p.pending.put (elementName name i) v }
    refine ⟨.undefined :: results, ?_⟩
    simp only [List.map_cons, forItems, h i v, Option.bind_eq_bind, Option.bind_some, hr, elements,
      Named.putAll_cons]

/-! ## Membership rules -/

section Membership

variable {scope : Scope} (hs : Sees scope) {p : Progress} (rest : Store) {name : Text}
include hs

/-- The placeholders are one text; the array that held them stays in the store. -/
theorem run_placeholders {vs : List Value} (hn : name ∉ inheritedNames)
    (hv : p.bound.get? name = some (.list vs)) :
    ∃ unused, (Expr.call (.member
        (.call (.member (fieldValue name) "map") [
          .arrow [.named "_" (some "unknown"), .named "index" (some "number")]
            (.template [":" ++ name ++ "_", []] [.ident "index"])])
        "join") [.str ", "]).run scope (mirror p rest) =
      some (.text (Text.join ", " (placeholders (elements name 0 vs))),
        mirror p (rest ++ [unused])) := by
  have hf : p.field name = .data (.list vs) := by rw [Progress.field, hv]
  have hi : (mirror p rest).items? (p.field name) = some (vs.map .data) := by rw [hf]; rfl
  have hvisit : ∀ i v, Expr.visit [.named "_" (some "unknown"), .named "index" (some "number")]
      (.template [":" ++ name ++ "_", []] [.ident "index"]) scope i (.data v) (mirror p rest) =
      some (.text (":" ++ elementName name i), mirror p rest) := by
    intro i v
    simp [Expr.visit, Scope.bind?, Expr.run, Expr.runAll, get?_cons_self, Val.toText?, templateText,
      elementName, Text.ofInt]
  have hmap := run_visits "map" (run_fieldValue hs p rest hn) hi (forItems_placeholders hvisit vs 0)
  rw [visited?_map] at hmap
  refine ⟨.array ((placeholders (elements name 0 vs)).map .text), ?_⟩
  rw [run_method rfl hmap (runAll_singleton (by rfl)), method?_join, Store.join?_texts]
  · rfl
  · simp [Store.items?]

/-- Each element is bound to its parameter. -/
theorem run_bindElements {vs : List Value} (hn : name ∉ inheritedNames)
    (hv : p.bound.get? name = some (.list vs)) :
    (Stmt.expr (.call (.member (fieldValue name) "forEach") [
      .arrowBlock [.named "value" (some "unknown"), .named "index" (some "number")] [
        .expr (.binary (.index (.ident paramsName) (elementKey name)) "=" (.ident "value"))]])).run
      scope (mirror p rest) =
      some (scope, mirror { p with pending := p.pending.putAll (elements name 0 vs) } rest) := by
  have hf : p.field name = .data (.list vs) := by rw [Progress.field, hv]
  have hi : (mirror p rest).items? (p.field name) = some (vs.map .data) := by rw [hf]; rfl
  have hvisit : ∀ i v (p : Progress), Stmt.visit
      [.named "value" (some "unknown"), .named "index" (some "number")]
      [.expr (.binary (.index (.ident paramsName) (elementKey name)) "=" (.ident "value"))]
      scope i (.data v) (mirror p rest) =
      some (.undefined, mirror { p with pending := p.pending.put (elementName name i) v } rest) := by
    intro i v p
    -- inside the function the parameters hide none of the constants
    have hin : Sees ((Text.ofString "index", some (.int i)) ::
        (Text.ofString "value", some (.data v)) :: scope) :=
      (hs.cons _ (by decide)).cons _ (by decide)
    have hvalue : Scope.get? ((Text.ofString "index", some (.int i)) ::
        (Text.ofString "value", some (.data v)) :: scope) "value" = some (.data v) := by
      rw [get?_cons_ne _ (by decide), get?_cons_self]
    have hassign := assign_params p rest v (elementName_notMem_inherited name i)
    have hkey : name ++ (Text.ofString "_" ++ Text.ofNat i) = elementName name i := by
      simp [elementName]
    simp [Stmt.visit, Scope.bind?, Scope.enter?, declared, Stmt.runAll, Stmt.run, Expr.run,
      Expr.runAll, elementKey, hin.params, hvalue, get?_cons_self, Val.toText?, templateText,
      Text.ofInt, hkey, hassign]
  obtain ⟨results, hr⟩ := forItems_params hvisit vs 0 p
  rw [Stmt.run, run_blockVisits (run_fieldValue hs p rest hn) hi hr, visited?_forEach]
  rfl

/-- A list is there and holds something. -/
theorem run_hasElements (hn : name ∉ inheritedNames) :
    (Expr.binary (.callOf "Array.isArray" [fieldValue name]) "&&"
      (.binary (.member (fieldValue name) "length") ">" (.num (.int 0)))).run scope (mirror p rest) =
      some (.truth (match p.bound.get? name with | some (.list (_ :: _)) => true | _ => false),
        mirror p rest) := by
  have hv := run_fieldValue hs p rest hn
  have harray := run_ident hs.array (mirror p rest)
  have hcall : (Expr.callOf "Array.isArray" [fieldValue name]).run scope (mirror p rest) =
      some (.truth ((mirror p rest).items? (p.field name)).isSome, mirror p rest) := by
    rw [show Expr.callOf "Array.isArray" [fieldValue name] =
      .call (.member (.ident "Array") "isArray") [fieldValue name] from rfl,
      run_method rfl harray (runAll_singleton hv), method?_isArray]
  -- the length is asked for only if the field is an array
  cases hb : p.bound.get? name with
  | none => exact run_and_of_fails (hcall.trans (by rw [Progress.field, hb]; rfl)) rfl
  | some v =>
    have hf : p.field name = .data v := by rw [Progress.field, hb]
    rw [hf] at hv hcall
    cases v with
    | list vs =>
      have hlen : (Expr.member (fieldValue name) "length").run scope (mirror p rest) =
          some (.int vs.length, mirror p rest) := by
        rw [Expr.run, hv]; simp [Store.property?, Store.items?]
      rw [run_and_of_holds hcall rfl, run_operate _ _ (by decide) hlen (by rfl), operate?_greater]
      cases vs <;> simp [Val.greater?]
    | _ => exact run_and_of_fails hcall rfl

theorem run_inList (sentinel sql : Text) (hn : name ∉ inheritedNames) :
    ∃ rest', (ruleStatement sentinel name ⟨.inList, sql⟩).run scope (mirror p rest) =
      some (scope, mirror (p.apply sentinel name ⟨.inList, sql⟩) rest') := by
  have ht := run_hasElements hs (p := p) rest hn
  by_cases hg : ∃ v vs, p.bound.get? name = some (.list (v :: vs))
  · obtain ⟨v, vs, hg⟩ := hg
    simp only [hg] at ht
    -- the block declares one constant, which holds nothing while it is computed
    have hs₁ : Sees ((Text.ofString "placeholders", none) :: scope) := hs.cons _ (by decide)
    obtain ⟨unused, hp⟩ := run_placeholders hs₁ rest hn hg
    let pl := Text.join ", " (placeholders (elements name 0 (v :: vs)))
    let inner : Scope := (Text.ofString "placeholders", some (.text pl)) ::
      (Text.ofString "placeholders", none) :: scope
    have hs₂ : Sees inner := hs₁.cons _ (by decide)
    have hfragment : ∀ s, (Expr.template [name ++ " IN (", ")"] [.ident "placeholders"]).run inner s =
        some (.text (membership name (elements name 0 (v :: vs))), s) := by
      intro s
      have hget : inner.get? "placeholders" = some (.text pl) := get?_cons_self _ _
      rw [Expr.run, runAll_singleton (run_ident hget s)]
      simp [Val.toText?, templateText, membership, pl, placeholders]
    have hconst := run_const "placeholders" none hp
    have hpush := run_pushFragment hs₂ p (rest ++ [unused]) rfl hfragment
    have hbind := run_bindElements hs₂ (rest ++ [unused]) hn (show Named.get? name
      { p with fragments := p.fragments ++ [membership name (elements name 0 (v :: vs))] }.bound =
        some (.list (v :: vs)) from hg)
    refine ⟨rest ++ [unused], ?_⟩
    rw [show p.apply sentinel name ⟨.inList, sql⟩ =
        { bound := p.bound.erase name
          fragments := p.fragments ++ [membership name (elements name 0 (v :: vs))]
          pending := p.pending.putAll (elements name 0 (v :: vs)) } by simp [Progress.apply, hg]]
    refine run_ifThen_of_holds ht rfl (show scope.enter? (membershipBody name) =
      some ((Text.ofString "placeholders", none) :: scope) from rfl) ⟨inner, ?_⟩
    rw [membershipBody, runAll_cons hconst, runAll_cons hpush,
      runAll_cons hbind, runAll_cons (run_delete hs₂ _ _)]
    rfl
  · have hidle : p.apply sentinel name ⟨.inList, sql⟩ = p := by
      rw [Progress.apply]; grind
    refine ⟨rest, ?_⟩
    rw [hidle]
    refine run_ifThen_of_fails ht ?_
    show (match p.bound.get? name with | some (.list (_ :: _)) => true | _ => false) = false
    split
    · next v vs h => exact absurd ⟨v, vs, h⟩ hg
    · rfl

end Membership

/-! ## Rules that compare -/

/-- Whether a value is there and is not null. -/
def isPresent : Option Value → Bool
  | none | some .null => false
  | some _ => true

theorem same?_null (v : Value) : (Val.data v).same? (.data .null) = some !isPresent (some v) := by
  cases v <;> rfl

theorem same?_str (v : Value) (t : Text) :
    (Val.data v).same? (.text t) = some (match v with | .str u => u == t | _ => false) := by
  cases v <;> rfl

theorem apply_compare (p : Progress) (sentinel name sql : Text) :
    p.apply sentinel name ⟨.compare, sql⟩ =
      if isPresent (p.bound.get? name) then
        { p with fragments := p.fragments ++ [name ++ " " ++ sql ++ " :" ++ name] }
      else p := by
  cases hb : p.bound.get? name with
  | none => simp [Progress.apply, hb, isPresent]
  | some v => cases v <;> simp [Progress.apply, hb, isPresent]

section Rules

variable {scope : Scope} (hs : Sees scope) (p : Progress) (rest : Store) {name : Text}
include hs

/-- The test of a rule that needs a value. -/
theorem run_present (hn : name ∉ inheritedNames) :
    (Expr.binary (.binary (fieldValue name) "!==" .undefined) "&&"
      (.binary (fieldValue name) "!==" .null)).run scope (mirror p rest) =
      some (.truth (isPresent (p.bound.get? name)), mirror p rest) := by
  have hv := run_fieldValue hs p rest hn
  have hu := run_operate "!==" .undefined (by decide) hv (by rfl)
  have hnull := run_operate "!==" .null (by decide) hv (by rfl)
  rw [operate?_notSame, Progress.field] at hu hnull
  cases hb : p.bound.get? name with
  | none => rw [hb] at hu; exact run_and_of_fails hu rfl
  | some v =>
    rw [hb] at hu hnull
    rw [run_and_of_holds hu rfl, hnull, same?_null]
    simp

theorem run_compare (sentinel sql : Text) (hn : name ∉ inheritedNames) :
    (ruleStatement sentinel name ⟨.compare, sql⟩).run scope (mirror p rest) =
      some (scope, mirror (p.apply sentinel name ⟨.compare, sql⟩) rest) := by
  have ht := run_present hs p rest hn
  rw [apply_compare]
  by_cases hb : isPresent (p.bound.get? name) = true
  · rw [if_pos hb]
    exact run_ifThen_of_holds ht hb (enter?_of_declared_nil rfl)
      ⟨scope, runAll_cons (run_pushText hs p rest _)⟩
  · rw [if_neg hb]
    exact run_ifThen_of_fails ht (Bool.eq_false_iff.2 hb)

theorem run_like (sentinel sql : Text) (hn : name ∉ inheritedNames)
    (hb : ∀ v, p.bound.get? name = some v → v = .null ∨ ∃ t, v = .str t) :
    (ruleStatement sentinel name ⟨.like, sql⟩).run scope (mirror p rest) =
      some (scope, mirror (p.apply sentinel name ⟨.like, sql⟩) rest) := by
  have ht := run_present hs p rest hn
  cases hg : p.bound.get? name with
  | none =>
    rw [hg] at ht
    rw [show p.apply sentinel name ⟨.like, sql⟩ = p by simp [Progress.apply, hg]]
    exact run_ifThen_of_fails ht rfl
  | some v =>
    rw [hg] at ht
    rcases hb v hg with rfl | ⟨t, rfl⟩
    · rw [show p.apply sentinel name ⟨.like, sql⟩ = p by simp [Progress.apply, hg]]
      exact run_ifThen_of_fails ht rfl
    · -- the value is read again once the fragment has been pushed
      let q : Progress := { p with fragments := p.fragments ++ [name ++ " " ++ sql ++ " :" ++ name] }
      have hv : (fieldValue name).run scope (mirror q rest) = some (.text t, mirror q rest) := by
        rw [run_fieldValue hs q rest hn]; simp [Progress.field, q, hg]
      have hparams := run_ident hs.params (mirror q rest)
      have hvalue : (Expr.template ["%", "%"] [fieldValue name]).run scope (mirror q rest) =
          some (.text ("%" ++ t ++ "%"), mirror q rest) := by
        rw [Expr.run, runAll_singleton hv]; simp [Val.toText?, templateText]
      have hset : (Stmt.expr (.binary (.member (.ident paramsName) name) "="
          (.template ["%", "%"] [fieldValue name]))).run scope (mirror q rest) = some (scope,
            mirror { q with pending := q.pending.put name (.str ("%" ++ t ++ "%")) } rest) := by
        rw [Stmt.run, run_assignMember hparams hvalue, assign_params q rest _ hn]
        rfl
      rw [show p.apply sentinel name ⟨.like, sql⟩ =
          { bound := q.bound.erase name, fragments := q.fragments,
            pending := q.pending.put name (.str ("%" ++ t ++ "%")) } by
        simp [Progress.apply, hg, q, Value.display]]
      refine run_ifThen_of_holds ht rfl (enter?_of_declared_nil rfl) ⟨scope, ?_⟩
      rw [runAll_cons (run_pushText hs p rest _), runAll_cons hset, runAll_cons (run_delete hs _ _)]
      rfl

theorem run_isNull (sentinel sql : Text) (hn : name ∉ inheritedNames) :
    (ruleStatement sentinel name ⟨.isNull, sql⟩).run scope (mirror p rest) =
      some (scope, mirror (p.apply sentinel name ⟨.isNull, sql⟩) rest) := by
  have ht := run_operate "===" .null (by decide) (run_fieldValue hs p rest hn) (by rfl)
  rw [operate?_same, Progress.field] at ht
  cases hg : p.bound.get? name with
  | none =>
    rw [hg] at ht
    rw [show p.apply sentinel name ⟨.isNull, sql⟩ = p by simp [Progress.apply, hg]]
    exact run_ifThen_of_fails ht rfl
  | some v =>
    rw [hg] at ht
    simp only [same?_null] at ht
    cases v with
    | null =>
      rw [show p.apply sentinel name ⟨.isNull, sql⟩ =
          { p with bound := p.bound.erase name, fragments := p.fragments ++ [name ++ " IS NULL"] } by
        simp [Progress.apply, hg]]
      refine run_ifThen_of_holds ht rfl (enter?_of_declared_nil rfl) ⟨scope, ?_⟩
      rw [runAll_cons (run_pushText hs p rest _), runAll_cons (run_delete hs _ _)]
      rfl
    | _ =>
      rw [show p.apply sentinel name ⟨.isNull, sql⟩ = p by simp [Progress.apply, hg]]
      exact run_ifThen_of_fails ht rfl

theorem run_isNotNull (sentinel sql : Text) (hn : name ∉ inheritedNames) :
    (ruleStatement sentinel name ⟨.isNotNull, sql⟩).run scope (mirror p rest) =
      some (scope, mirror (p.apply sentinel name ⟨.isNotNull, sql⟩) rest) := by
  have ht := run_operate "===" (.str sentinel) (by decide) (run_fieldValue hs p rest hn) (by rfl)
  rw [operate?_same, Progress.field] at ht
  cases hg : p.bound.get? name with
  | none =>
    rw [hg] at ht
    rw [show p.apply sentinel name ⟨.isNotNull, sql⟩ = p by simp [Progress.apply, hg]]
    exact run_ifThen_of_fails ht rfl
  | some v =>
    rw [hg] at ht
    simp only [same?_str] at ht
    cases v with
    | str t =>
      by_cases h : t = sentinel
      · rw [show p.apply sentinel name ⟨.isNotNull, sql⟩ =
            { p with
              bound := p.bound.erase name
              fragments := p.fragments ++ [name ++ " IS NOT NULL"] } by
          simp [Progress.apply, hg, h]]
        refine run_ifThen_of_holds ht (by simp [Val.holds, h]) (enter?_of_declared_nil rfl)
          ⟨scope, ?_⟩
        rw [runAll_cons (run_pushText hs p rest _), runAll_cons (run_delete hs _ _)]
        rfl
      · rw [show p.apply sentinel name ⟨.isNotNull, sql⟩ = p by simp [Progress.apply, hg, h]]
        exact run_ifThen_of_fails ht (by simp [Val.holds, h])
    | _ =>
      rw [show p.apply sentinel name ⟨.isNotNull, sql⟩ = p by simp [Progress.apply, hg]]
      exact run_ifThen_of_fails ht rfl

/-- One rule does to the store what the evaluator does. -/
theorem run_ruleStatement (sentinel : Text) (op : Operator) (hn : name ∉ inheritedNames)
    (hlike : op.kind = .like → ∀ v, p.bound.get? name = some v → v = .null ∨ ∃ t, v = .str t) :
    ∃ rest', (ruleStatement sentinel name op).run scope (mirror p rest) =
      some (scope, mirror (p.apply sentinel name op) rest') := by
  obtain ⟨kind, sql⟩ := op
  cases kind with
  | compare => exact ⟨rest, run_compare hs p rest sentinel sql hn⟩
  | like => exact ⟨rest, run_like hs p rest sentinel sql hn (hlike rfl)⟩
  | inList => exact run_inList hs rest sentinel sql hn
  | isNull => exact ⟨rest, run_isNull hs p rest sentinel sql hn⟩
  | isNotNull => exact ⟨rest, run_isNotNull hs p rest sentinel sql hn⟩

end Rules

/-! ## All rules -/

/-- A rule leaves the payload as it is, or takes its field from it. -/
theorem apply_bound (p : Progress) (sentinel name : Text) (op : Operator) :
    (p.apply sentinel name op).bound = p.bound ∨
      (p.apply sentinel name op).bound = p.bound.erase name := by
  unfold Progress.apply
  dsimp only
  split
  · exact .inr rfl
  · exact .inr rfl
  · split
    · exact .inr rfl
    · exact .inl rfl
  · split <;> exact .inl rfl
  · split
    · exact .inl rfl
    · exact .inr rfl
  · exact .inl rfl

theorem get?_of_get?_apply {p : Progress} {sentinel name other : Text} {op : Operator} {v : Value}
    (h : (p.apply sentinel name op).bound.get? other = some v) : p.bound.get? other = some v := by
  rcases apply_bound p sentinel name op with hb | hb
  · rwa [hb] at h
  · rw [hb] at h; exact Named.get?_of_get?_erase h

/-- What a payload holds under the field of a pattern rule: nothing, null, or a string. -/
def HoldsPatterns (conditions : Spec.Conditions) (bound : Bindings) : Prop :=
  ∀ c ∈ conditions, (Operator.ofText c.2.operator).kind = .like →
    ∀ v, bound.get? c.1 = some v → v = .null ∨ ∃ t, v = .str t

/-- Running the statements of all rules. -/
theorem run_rules {scope : Scope} (hs : Sees scope) (sentinel : Text) (conditions : Spec.Conditions)
    (hn : ∀ c ∈ conditions, c.1 ∉ inheritedNames) (p : Progress) (rest : Store)
    (hlike : HoldsPatterns conditions p.bound) :
    ∃ rest', Stmt.runAll
        (conditions.map fun c => ruleStatement sentinel c.1 (Operator.ofText c.2.operator))
        scope (mirror p rest) =
      some (scope, mirror (p.applyAll sentinel conditions) rest') := by
  induction conditions generalizing p rest with
  | nil => exact ⟨rest, rfl⟩
  | cons c conditions ih =>
    obtain ⟨rest₁, h₁⟩ := run_ruleStatement hs p rest sentinel (Operator.ofText c.2.operator)
      (hn c List.mem_cons_self) (hlike c List.mem_cons_self)
    -- a rule takes fields from the payload at most, so later patterns still find strings
    obtain ⟨rest₂, h₂⟩ := ih (fun c hc => hn c (List.mem_cons_of_mem _ hc))
      (p.apply sentinel c.1 (Operator.ofText c.2.operator)) rest₁
      (fun c hc hk v hv => hlike c (List.mem_cons_of_mem _ hc) hk v (get?_of_get?_apply hv))
    exact ⟨rest₂, by rw [List.map_cons, runAll_cons h₁, h₂]; rfl⟩

theorem declared_rules (sentinel : Text) (conditions : Spec.Conditions) :
    declared (conditions.map fun c => ruleStatement sentinel c.1 (Operator.ofText c.2.operator)) =
      [] := by
  rw [declared, List.filterMap_map, List.filterMap_eq_nil_iff]
  rintro ⟨name, rule⟩ -
  simp only [Function.comp, ruleStatement]
  cases (Operator.ofText rule.operator).kind <;> rfl

/-! ## The whole block -/

/-- The scope and the store of a handler that has taken the payload. -/
def handlerScope : Scope := [(payloadName, some (.ref 0))]

def handlerStore (payload : Bindings) : Store := [.object (payload.mapValues .data)]

/-- What query-building statements end with, run on a payload: the query, and the properties of the
payload. -/
def runOn? (payload : Bindings) (body : List Stmt) : Option (Val × Named Val) := do
  let (scope, s) ← Stmt.runAll body (← handlerScope.enter? body) (handlerStore payload)
  let query ← scope.get? queryName
  let (_, properties) ← s.properties? (← scope.get? payloadName)
  some (query, properties)

/-- The clause that some fragments make. -/
def clauseOf (fragments : List Text) : Text :=
  if fragments.isEmpty then tautology else Text.join " AND " fragments

/-- The expression of the clause. -/
def clauseExpr : Expr :=
  .conditional
    (.binary (.member (.ident clauseListName) "length") ">" (.num (.int 0)))
    (.call (.member (.ident clauseListName) "join") [.str " AND "])
    (.str tautology)

/-- The statements after the rules: the clause, the query, and the parameters put into the payload. -/
def closing (before after : Text) : List Stmt := [
  .blank,
  .const clauseName none clauseExpr,
  .const queryName none (.template [before, after] [.ident clauseName]),
  .expr (.callOf "Object.assign" [.ident payloadName, .ident paramsName])]

theorem run_clauseExpr {scope : Scope} (hs : Sees scope) (p : Progress) (rest : Store) :
    clauseExpr.run scope (mirror p rest) =
      some (.text (clauseOf p.fragments), mirror p rest) := by
  have hlist := run_ident hs.clauses (mirror p rest)
  have hlen : (Expr.member (.ident clauseListName) "length").run scope (mirror p rest) =
      some (.int p.fragments.length, mirror p rest) := by
    rw [Expr.run, hlist]; simp [Store.property?, Store.items?, mirror]
  have hitems : (mirror p rest).items? (.ref 1) = some (p.fragments.map .text) := rfl
  have htest := run_operate ">" (.num (.int 0)) (by decide) hlen (by rfl)
  rw [operate?_greater] at htest
  cases hf : p.fragments with
  | nil =>
    rw [hf] at htest
    rw [clauseExpr, run_conditional_of_fails htest rfl, Expr.run]
    rfl
  | cons t ts =>
    rw [hf] at hitems htest
    rw [clauseExpr, run_conditional_of_holds htest (by simp [Val.holds]),
      run_method rfl hlist (runAll_singleton (by rfl)), method?_join, Store.join?_texts _ hitems]
    rfl

theorem run_closing {scope : Scope} (hs : Sees scope) (hobject : scope.get? "Object" =
    some (.global "Object")) (p : Progress) (rest : Store) (before after : Text)
    (hp : ∀ e ∈ p.pending, e.1 ∉ inheritedNames) :
    ∃ scope', Stmt.runAll (closing before after) scope (mirror p rest) =
        some (scope', mirror { p with bound := p.bound.putAll p.pending } rest) ∧
      scope'.get? queryName = some (.text (before ++ clauseOf p.fragments ++ after)) ∧
      scope'.get? payloadName = some (.ref 0) := by
  let scope₁ : Scope := (clauseName, some (.text (clauseOf p.fragments))) :: scope
  let scope₂ : Scope :=
    (queryName, some (.text (before ++ clauseOf p.fragments ++ after))) :: scope₁
  have hs₂ : Sees scope₂ := (hs.cons _ (by decide)).cons _ (by decide)
  have hobject₂ : scope₂.get? "Object" = some (.global "Object") := by
    rw [get?_cons_ne _ (by decide), get?_cons_ne _ (by decide), hobject]
  have hclause : (Stmt.const clauseName none clauseExpr).run scope (mirror p rest) =
      some (scope₁, mirror p rest) := run_const _ _ (run_clauseExpr hs p rest)
  have hquery : (Stmt.const queryName none (.template [before, after] [.ident clauseName])).run
      scope₁ (mirror p rest) = some (scope₂, mirror p rest) := by
    have hget : scope₁.get? clauseName = some (.text (clauseOf p.fragments)) := get?_cons_self _ _
    refine run_const _ _ ?_
    rw [Expr.run, runAll_singleton (run_ident hget _)]
    simp [Val.toText?, templateText]
  have hglobal := run_ident hobject₂ (mirror p rest)
  have hargs : Expr.runAll [.ident payloadName, .ident paramsName] scope₂ (mirror p rest) =
      some ([.ref 0, .ref 2], mirror p rest) := by
    simp [Expr.runAll, Expr.run, hs₂.payload, hs₂.params]
  -- no parameter that is put into the payload has the name of an inherited property
  have hpending : ((p.pending.mapValues Val.data).any fun e => inheritedNames.contains e.1) =
      false := by
    rw [List.any_eq_false]
    intro e he
    obtain ⟨d, hd, rfl⟩ := List.mem_map.1 he
    simpa using hp d hd
  have hassign : (mirror p rest).assignAll? (.ref 0) (.ref 2) =
      some (mirror { p with bound := p.bound.putAll p.pending } rest) := by
    simp only [mirror, Store.assignAll?, Store.properties?, List.getElem?_cons_zero,
      List.getElem?_cons_succ, Option.bind_eq_bind, Option.bind_some, hpending,
      Bool.false_eq_true, if_false, Named.mapValues_putAll, List.set_cons_zero]
  refine ⟨scope₂, ?_, get?_cons_self _ _, hs₂.payload⟩
  rw [closing, runAll_cons (by rfl), runAll_cons hclause, runAll_cons hquery]
  rw [show Expr.callOf "Object.assign" [.ident payloadName, .ident paramsName] =
    .call (.member (.ident "Object") "assign") [.ident payloadName, .ident paramsName] from rfl]
  rw [Stmt.runAll, Stmt.run, run_method rfl hglobal hargs, method?_assign, hassign]
  rfl

/-! ## Names of the pending parameters -/

theorem fst_of_mem_elements {name : Text} {index : Nat} {vs : List Value} {e : Text × Value}
    (h : e ∈ elements name index vs) : ∃ i, e.1 = elementName name i := by
  induction vs generalizing index with
  | nil => cases h
  | cons v vs ih =>
    rcases List.mem_cons.1 h with rfl | h
    · exact ⟨index, rfl⟩
    · exact ih h

/-- A rule makes parameters pending under names of elements, or under the name of its field. -/
theorem mem_pending_apply {p : Progress} {sentinel name : Text} {op : Operator} {e : Text × Value}
    (h : e ∈ (p.apply sentinel name op).pending) :
    e ∈ p.pending ∨ e.1 = name ∨ ∃ i, e.1 = elementName name i := by
  unfold Progress.apply at h
  dsimp only at h
  split at h
  · rcases Named.mem_putAll h with h | h
    · exact .inl h
    · obtain ⟨d, hd, hde⟩ := List.mem_map.1 h
      obtain ⟨i, hi⟩ := fst_of_mem_elements hd
      exact .inr (.inr ⟨i, hde ▸ hi⟩)
  · exact .inl h
  · split at h <;> exact .inl h
  · split at h <;> exact .inl h
  · split at h
    · exact .inl h
    · rcases Named.mem_put h with h | h
      · exact .inr (.inl h)
      · exact .inl h
  · exact .inl h

theorem pending_notMem_inherited (sentinel : Text) {conditions : Spec.Conditions} {p : Progress}
    (hn : ∀ c ∈ conditions, c.1 ∉ inheritedNames) (hp : ∀ e ∈ p.pending, e.1 ∉ inheritedNames) :
    ∀ e ∈ (p.applyAll sentinel conditions).pending, e.1 ∉ inheritedNames := by
  induction conditions generalizing p with
  | nil => exact hp
  | cons c conditions ih =>
    refine ih (fun c hc => hn c (List.mem_cons_of_mem _ hc)) fun e he => ?_
    rcases mem_pending_apply he with he | he | ⟨i, he⟩
    · exact hp e he
    · rw [he]; exact hn c List.mem_cons_self
    · rw [he]; exact elementName_notMem_inherited _ _

/-! ## Agreement -/

/-- The statements of a query with conditions. -/
def block (conditions : Spec.Conditions) (before after sentinel : Text) : List Stmt :=
  .const clauseListName (some "string[]") (.arr []) ::
    .const paramsName (some "Record<string, any>") (.obj [] true) :: .blank ::
    (conditions.map (fun c => ruleStatement sentinel c.1 (Operator.ofText c.2.operator)) ++
      closing before after)

theorem declared_block (conditions : Spec.Conditions) (before after sentinel : Text) :
    declared (block conditions before after sentinel) =
      [clauseListName, paramsName, clauseName, queryName] := by
  have h : declared (conditions.map
      (fun c => ruleStatement sentinel c.1 (Operator.ofText c.2.operator)) ++
        closing before after) = [clauseName, queryName] := by
    rw [declared, List.filterMap_append]
    exact congrArg (· ++ _) (declared_rules sentinel conditions)
  exact congrArg (fun names => clauseListName :: paramsName :: names) h

theorem runOn?_block (conditions : Spec.Conditions) (payload : Bindings)
    (before after sentinel : Text) (hn : ∀ c ∈ conditions, c.1 ∉ inheritedNames)
    (hlike : HoldsPatterns conditions payload) :
    let p := Progress.applyAll sentinel conditions ⟨payload, [], []⟩
    runOn? payload (block conditions before after sentinel) =
      some (.text (before ++ clauseOf p.fragments ++ after),
        (p.bound.putAll p.pending).mapValues .data) := by
  intro p
  -- the constants of the block are in scope from its start, without values
  let hoisted : Scope :=
    [(clauseListName, none), (paramsName, none), (clauseName, none), (queryName, none)]
  let scope : Scope :=
    (paramsName, some (.ref 2)) :: (clauseListName, some (.ref 1)) :: (hoisted ++ handlerScope)
  have henter : handlerScope.enter? (block conditions before after sentinel) =
      some (hoisted ++ handlerScope) := by
    rw [Scope.enter?, declared_block, if_pos (by decide)]; rfl
  have hs : Sees scope := ⟨rfl, rfl, rfl, rfl⟩
  obtain ⟨rest, hrules⟩ := run_rules hs sentinel conditions hn ⟨payload, [], []⟩ [] hlike
  obtain ⟨out, hclosing, hquery, hpayload⟩ := run_closing hs rfl p rest before after
    (pending_notMem_inherited sentinel hn (by simp))
  have hrun : Stmt.runAll (block conditions before after sentinel) (hoisted ++ handlerScope)
      (handlerStore payload) =
        some (out, mirror { p with bound := p.bound.putAll p.pending } rest) := by
    have hlist : (Stmt.const clauseListName (some "string[]") (.arr [])).run
        (hoisted ++ handlerScope) (handlerStore payload) =
        some ((clauseListName, some (.ref 1)) :: (hoisted ++ handlerScope),
          handlerStore payload ++ [.array []]) := rfl
    have hparams : (Stmt.const paramsName (some "Record<string, any>") (.obj [] true)).run
        ((clauseListName, some (.ref 1)) :: (hoisted ++ handlerScope))
        (handlerStore payload ++ [.array []]) =
        some (scope, mirror ⟨payload, [], []⟩ []) := rfl
    rw [block, runAll_cons hlist, runAll_cons hparams, runAll_cons rfl, runAll_append _ hrules,
      hclosing]
  rw [runOn?, henter, Option.bind_eq_bind, Option.bind_some, hrun]
  simp [hquery, hpayload, mirror, Store.properties?]

/-- The statements and the evaluator refuse the same queries for the same reason. Otherwise running
the statements on a payload ends with the evaluator's query, and leaves its parameters in the
payload. -/
theorem statements_run_as_evaluate (conditions : Option Spec.Conditions) (payload : Bindings)
    (query sentinel : Text) (hn : ∀ c ∈ conditions.getD [], c.1 ∉ inheritedNames)
    (hlike : HoldsPatterns (conditions.getD []) payload) :
    match statements conditions query sentinel, evaluate conditions payload query sentinel with
    | .error e, .error e' => e = e'
    | .ok body, .ok result =>
      runOn? payload body = some (.text result.query, result.params.mapValues .data)
    | _, _ => False := by
  cases hsplit : splitQuery query conditions.isSome with
  | error e =>
    have h₁ : statements conditions query sentinel = .error e := by rw [statements, hsplit]; rfl
    have h₂ : evaluate conditions payload query sentinel = .error e := by
      rw [evaluate, hsplit]; rfl
    rw [h₁, h₂]
  | ok parts =>
    obtain ⟨before, after⟩ := parts
    cases conditions with
    | none =>
      have h₁ : statements none query sentinel = .ok [.const queryName none (.str query)] := by
        rw [statements, hsplit]; rfl
      have h₂ : evaluate none payload query sentinel = .ok ⟨query, [], payload⟩ := by
        rw [evaluate, hsplit]; rfl
      rw [h₁, h₂]
      rfl
    | some conditions =>
      have h₁ : statements (some conditions) query sentinel =
          .ok (block conditions before after sentinel) := by rw [statements, hsplit]; rfl
      let p := Progress.applyAll sentinel conditions ⟨payload, [], []⟩
      have h₂ : evaluate (some conditions) payload query sentinel =
          .ok ⟨before ++ clauseOf p.fragments ++ after, clauseOf p.fragments,
            p.bound.putAll p.pending⟩ := by rw [evaluate, hsplit]; rfl
      rw [h₁, h₂]
      exact runOn?_block conditions payload before after sentinel hn hlike

/-- A membership rule, a pattern, a null test and a comparison, on a payload that activates three of
them. -/
theorem statements_run_as_evaluate_mixed :
    let rules : Spec.Conditions := [("id", ⟨"in", none⟩), ("name", ⟨"ilike", none⟩),
      ("gone", ⟨"is null", none⟩), ("age", ⟨">=", none⟩)]
    let payload : Bindings := [("age", .null), ("gone", .null), ("name", .str "bo"),
      ("id", .list [.int 7, .str "x"])]
    let query : Text := "SELECT * FROM t WHERE \x7bdynamic_conditions\x7d LIMIT 1"
    ∃ body result, statements (some rules) query "NOT NULL" = .ok body ∧
      evaluate (some rules) payload query "NOT NULL" = .ok result ∧
      result.query =
        "SELECT * FROM t WHERE id IN (:id_0, :id_1) AND name ILIKE :name AND gone IS NULL LIMIT 1" ∧
      runOn? payload body = some (.text result.query, result.params.mapValues .data) := by
  intro rules payload query
  have hn : ∀ c ∈ rules, c.1 ∉ inheritedNames := by decide +kernel
  have hlike : HoldsPatterns rules payload := by
    have hname : ∀ c ∈ rules, (Operator.ofText c.2.operator).kind = .like → c.1 = "name" := by
      decide +kernel
    intro c hc hk v hv
    rw [hname c hc hk] at hv
    exact .inr ⟨"bo", (Option.some.inj hv).symm⟩
  have h := statements_run_as_evaluate (some rules) payload query "NOT NULL" hn hlike
  exact ⟨_, _, rfl, rfl, by decide +kernel, h⟩

end Routewright.Condition
