/-
Evaluation of condition rules on a payload: the clause that the active rules write, and the
parameters it needs. Null is the value null; a field that is not bound is undefined.
-/
import Routewright.Condition.Operator
import Routewright.Condition.Query
import Routewright.Spec.Route

namespace Routewright.Condition

open Document

/-- Values by name: the payload of a request, or the parameters of a query. -/
abbrev Bindings := Named Value

/-- A query with its clause in place, the clause, and the parameters. -/
structure BoundQuery where
  query : Text
  clause : Text
  params : Bindings

/-- The clause of no active rule. -/
def tautology : Text := "1=1"

/-- The rules' work so far: the payload that is left, the fragments written, and the parameters that
are bound at the end. -/
structure Progress where
  bound : Bindings
  fragments : List Text
  pending : Bindings

/-- The name of the parameter of the element at an index. -/
def elementName (name : Text) (index : Nat) : Text := name ++ "_" ++ Text.ofNat index

/-- The elements of a list under their parameter names, from an index on. -/
def elements (name : Text) : Nat → List Value → Bindings
  | _, [] => []
  | index, v :: rest => (elementName name index, v) :: elements name (index + 1) rest

/-- The fragment of a membership test. -/
def membership (name : Text) (params : Bindings) : Text :=
  name ++ " IN (" ++ Text.join ", " (params.map fun e => ":" ++ e.1) ++ ")"

/-- The effect of one rule. -/
def Progress.apply (sentinel name : Text) (op : Operator) (p : Progress) : Progress :=
  let value := p.bound.get? name
  match op.kind, value with
  | .inList, some (.list (v :: vs)) =>
    let params := elements name 0 (v :: vs)
    ⟨p.bound.erase name, p.fragments ++ [membership name params], p.pending.putAll params⟩
  | .isNull, some .null =>
    ⟨p.bound.erase name, p.fragments ++ [name ++ " IS NULL"], p.pending⟩
  | .isNotNull, some (.str t) =>
    if t = sentinel then ⟨p.bound.erase name, p.fragments ++ [name ++ " IS NOT NULL"], p.pending⟩
    else p
  | .compare, some v =>
    match v with
    | .null => p
    | _ => ⟨p.bound, p.fragments ++ [name ++ " " ++ op.sql ++ " :" ++ name], p.pending⟩
  | .like, some v =>
    match v with
    | .null => p
    | v =>
      ⟨p.bound.erase name, p.fragments ++ [name ++ " " ++ op.sql ++ " :" ++ name],
        Named.put name (.str ("%" ++ v.display ++ "%")) p.pending⟩
  | _, _ => p

/-- The effect of all rules, in the order they are declared. -/
def Progress.applyAll (sentinel : Text) (conditions : Spec.Conditions) (p : Progress) : Progress :=
  conditions.foldl (fun p c => p.apply sentinel c.1 (Operator.ofText c.2.operator)) p

/-- The query, clause and parameters for a payload. -/
def evaluate (conditions : Option Spec.Conditions) (payload : Bindings) (query sentinel : Text) :
    Except QueryMismatch BoundQuery := do
  let (before, after) ← splitQuery query conditions.isSome
  match conditions with
  | none => .ok ⟨query, [], payload⟩
  | some conditions =>
    let p := Progress.applyAll sentinel conditions ⟨payload, [], []⟩
    let clause := if p.fragments.isEmpty then tautology else Text.join " AND " p.fragments
    .ok ⟨before ++ clause ++ after, clause, p.bound.putAll p.pending⟩

end Routewright.Condition
