/-
Whether the parameters bear what the clause and the caller expect of them. The parameter of an element
has a name that is made from the field and an index, and nothing keeps that name apart from the names
of fields: where a field of that name needs another value, the element wins.
-/
import Routewright.Proofs.Condition.Effect

namespace Routewright.Condition

open Document

section Needs

variable (sentinel : Text) (payload : Bindings) (conditions : Spec.Conditions)

/-- What is to be bound under the name of a field: an active comparison refers to the value of its
field, an active pattern to that value between signs, and a field that no rule names is passed on. -/
inductive Needs : Text → Value → Prop
  | comparison {c : Text × Spec.ConditionRule} {v : Value}
      (hc : c ∈ activeRules sentinel payload conditions) (hk : (operatorOf c).kind = .compare)
      (hv : payload.get? c.1 = some v) : Needs c.1 v
  | matching {c : Text × Spec.ConditionRule} {v : Value}
      (hc : c ∈ activeRules sentinel payload conditions) (hk : (operatorOf c).kind = .like)
      (hv : payload.get? c.1 = some v) : Needs c.1 (pattern v)
  | passed {name : Text} {v : Value} (hname : name ∉ conditions.map Prod.fst)
      (hv : payload.get? name = some v) : Needs name v

/-- What is to be bound under a generated name: an element of an active membership rule. -/
def IsElement (name : Text) (v : Value) : Prop :=
  ∃ c ∈ activeRules sentinel payload conditions, (operatorOf c).kind = .inList ∧
    ∃ i, (listed (payload.get? c.1))[i]? = some v ∧ name = elementName c.1 i

/-- Parameters that bear all that is needed of them. -/
structure BindsFaithfully (params : Bindings) : Prop where
  fields : ∀ name v, Needs sentinel payload conditions name v → params.get? name = some v
  elements : ∀ name v, IsElement sentinel payload conditions name v → params.get? name = some v

end Needs

section Binding

variable {sentinel : Text} {payload : Bindings} {conditions : Spec.Conditions}

theorem Needs.mem_payload {name : Text} {v : Value} (h : Needs sentinel payload conditions name v) :
    name ∈ payload.map Prod.fst := by
  cases h with
  | comparison _ _ hv | matching _ _ hv | passed _ hv => exact Named.exists_get?_iff.1 ⟨_, hv⟩

/-- What the rules make is elements and patterns. -/
theorem mem_activeParameters_cases {e : Text × Value}
    (he : e ∈ activeParameters sentinel payload conditions) :
    IsElement sentinel payload conditions e.1 e.2 ∨
      ∃ c ∈ activeRules sentinel payload conditions, (operatorOf c).kind = .like ∧
        ∃ v, payload.get? c.1 = some v ∧ e = (c.1, pattern v) := by
  obtain ⟨c, hc, hparam⟩ := mem_activeParameters.1 he
  exact (mem_parameters.1 hparam).imp (fun h => ⟨c, hc, h⟩) fun h => ⟨c, hc, h⟩

theorem IsElement.mem_activeParameters {name : Text} {v : Value}
    (h : IsElement sentinel payload conditions name v) :
    (name, v) ∈ activeParameters sentinel payload conditions := by
  obtain ⟨c, hc, helement⟩ := h
  exact Condition.mem_activeParameters.2 ⟨c, hc, mem_parameters.2 (.inl helement)⟩

/-- The name of a pattern needs nothing else: no other rule has that name. -/
theorem Needs.eq_pattern (hn : (conditions.map Prod.fst).Nodup) {c : Text × Spec.ConditionRule}
    {v w : Value} (hc : c ∈ activeRules sentinel payload conditions)
    (hk : (operatorOf c).kind = .like) (hv : payload.get? c.1 = some v) {name : Text}
    (hname : c.1 = name) (h : Needs sentinel payload conditions name w) : w = pattern v := by
  cases h with
  | comparison hd hcompare _ =>
    rw [← eq_of_fst_eq hn hc hd hname, hk] at hcompare
    cases hcompare
  | matching hd _ hw =>
    obtain rfl := eq_of_fst_eq hn hc hd hname
    rw [Option.some.inj (hv.symm.trans hw)]
  | passed hnone _ =>
    exact absurd (hname ▸ List.mem_map_of_mem (mem_activeRules.1 hc).1) hnone

/-- A need is met by what is left of the payload or by what the rules make, unless something else is
made under its name. -/
theorem Needs.met (hn : (conditions.map Prod.fst).Nodup) {name : Text} {w : Value}
    (h : Needs sentinel payload conditions name w) :
    (name, w) ∈ activeParameters sentinel payload conditions ∨
      name ∉ takenNames sentinel payload conditions ∧ payload.get? name = some w := by
  cases h with
  | comparison hc hk hv =>
    refine .inr ⟨fun htaken => ?_, hv⟩
    obtain ⟨d, hd, hkind, hname⟩ := mem_takenNames.1 htaken
    exact hkind (eq_of_fst_eq hn hd hc hname ▸ hk)
  | matching hc hk hv =>
    exact .inl (mem_activeParameters.2 ⟨_, hc, mem_parameters.2 (.inr ⟨hk, _, hv, rfl⟩)⟩)
  | passed hnone hv =>
    refine .inr ⟨fun htaken => hnone ?_, hv⟩
    obtain ⟨d, hd, -, rfl⟩ := mem_takenNames.1 htaken
    exact List.mem_map_of_mem (mem_activeRules.1 hd).1

theorem IsElement.unique (hn : (conditions.map Prod.fst).Nodup) {name : Text} {v w : Value}
    (hv : IsElement sentinel payload conditions name v)
    (hw : IsElement sentinel payload conditions name w) : v = w := by
  obtain ⟨c, hc, -, i, hv, rfl⟩ := hv
  obtain ⟨d, hd, -, j, hw, hname⟩ := hw
  exact snd_eq_of_elementName_eq hn hc hd hv hw hname

/-- Where no element takes the name of a field, no field needs the name of an element. -/
theorem IsElement.not_needs
    (hfree : ∀ name ∈ generatedNames sentinel payload conditions, name ∉ payload.map Prod.fst)
    {name : Text} {v w : Value} (hv : IsElement sentinel payload conditions name v) :
    ¬Needs sentinel payload conditions name w := by
  obtain ⟨c, hc, hk, i, hv, rfl⟩ := hv
  exact fun hw => hfree _ (mem_generatedNames.2 ⟨c, hc, hk, i, v, hv, rfl⟩) hw.mem_payload

theorem boundParameters_bindsFaithfully_iff (hn : (conditions.map Prod.fst).Nodup) :
    BindsFaithfully sentinel payload conditions (boundParameters sentinel payload conditions) ↔
      ∀ name v w, IsElement sentinel payload conditions name v →
        Needs sentinel payload conditions name w → w = v := by
  constructor
  · intro h name v w hv hw
    exact Option.some.inj ((h.fields name w hw).symm.trans (h.elements name v hv))
  · intro h
    refine ⟨fun name w hw => get?_boundParameters (fun e he hname => ?_) (hw.met hn),
      fun name v hv => get?_boundParameters (fun e he hname => ?_) (.inl hv.mem_activeParameters)⟩
    · rcases mem_activeParameters_cases he with helement | ⟨c, hc, hk, u, hu, rfl⟩
      · exact (h e.1 e.2 w helement (hname ▸ hw)).symm
      · exact (hw.eq_pattern hn hc hk hu hname).symm
    · rcases mem_activeParameters_cases he with helement | ⟨c, hc, hk, u, hu, rfl⟩
      · exact (hname ▸ helement).unique hn hv
      · exact h name v _ hv (hname ▸ .matching hc hk hu)

/-- The parameters bear what is needed of them exactly if no element takes the name of a field that
needs another value: of an active comparison or pattern, or of a field that is passed on. -/
theorem evaluate_binds_iff (payload : Bindings) (sentinel : Text) {conditions : Spec.Conditions}
    (hn : (conditions.map Prod.fst).Nodup) {query before after : Text}
    (hq : HoldsOnce query before after) :
    ∃ result, evaluate (some conditions) payload query sentinel = .ok result ∧
      (BindsFaithfully sentinel payload conditions result.params ↔
        ∀ name v w, IsElement sentinel payload conditions name v →
          Needs sentinel payload conditions name w → w = v) :=
  ⟨_, evaluate_eq payload sentinel hn hq, boundParameters_bindsFaithfully_iff hn⟩

/-- A membership rule and a comparison: the parameters are faithful for a field of another name, and
under the name of an element the comparison is left with the element. -/
theorem evaluate_binds_iff_clash :
    let rules : Spec.Conditions := [("id", ⟨"IN", none⟩), ("id_0", ⟨"=", none⟩)]
    let clash : Bindings := [("id", .list [.int 7]), ("id_0", .int 5)]
    let apart : Bindings := [("id", .list [.int 7]), ("id_1", .int 5)]
    let query : Text := "SELECT * FROM t WHERE \x7bdynamic_conditions\x7d"
    (rules.map Prod.fst).Nodup ∧ HoldsOnce query "SELECT * FROM t WHERE " [] ∧
      (∃ result, evaluate (some rules) clash query "NOT_NULL" = .ok result ∧
        result.clause = "id IN (:id_0) AND id_0 = :id_0" ∧
        result.params.get? "id_0" = some (.int 7) ∧
        ¬BindsFaithfully "NOT_NULL" clash rules result.params) ∧
      ∃ result, evaluate (some rules) apart query "NOT_NULL" = .ok result ∧
        BindsFaithfully "NOT_NULL" apart rules result.params := by
  intro rules clash apart query
  have hn : (rules.map Prod.fst).Nodup := by decide +kernel
  have hq : HoldsOnce query "SELECT * FROM t WHERE " [] := splitQuery_eq_ok_iff.1 rfl
  refine ⟨hn, hq, ?_, ?_⟩
  · obtain ⟨result, hok, hbinds⟩ := evaluate_binds_iff clash "NOT_NULL" hn hq
    obtain rfl := Except.ok.inj (hok.symm.trans (evaluate_eq clash "NOT_NULL" hn hq))
    refine ⟨_, hok, by decide +kernel, rfl, fun h => ?_⟩
    have helement : IsElement "NOT_NULL" clash rules "id_0" (.int 7) :=
      ⟨("id", ⟨"IN", none⟩), mem_activeRules.2 ⟨List.mem_cons_self, by decide +kernel⟩,
        by decide +kernel, 0, rfl, by decide +kernel⟩
    have hneeds : Needs "NOT_NULL" clash rules "id_0" (.int 5) :=
      .comparison (c := ("id_0", ⟨"=", none⟩))
        (mem_activeRules.2 ⟨List.mem_cons_of_mem _ List.mem_cons_self, by decide +kernel⟩)
        (by decide +kernel) rfl
    simpa using hbinds.1 h "id_0" (.int 7) (.int 5) helement hneeds
  · obtain ⟨result, hok, hbinds⟩ := evaluate_binds_iff apart "NOT_NULL" hn hq
    have hfree : ∀ name ∈ generatedNames "NOT_NULL" apart rules, name ∉ apart.map Prod.fst := by
      decide +kernel
    exact ⟨result, hok, hbinds.2 fun name v w hv hw => absurd hw (hv.not_needs hfree)⟩

end Binding

end Routewright.Condition
