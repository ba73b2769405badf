/-
What condition rules come to, told from the payload alone. Rules name distinct fields, so no rule
sees what another one has taken from the payload: which rules are active, what they write and which
parameters they need depends on the payload that they all start from.
-/
import Mathlib.Data.List.Nodup
import Routewright.Proofs.Condition.Agreement
import Routewright.Proofs.Condition.Query

namespace Routewright.Condition

open Document

/-! ## One rule -/

/-- The operator of a rule. -/
def operatorOf (c : Text × Spec.ConditionRule) : Operator := Operator.ofText c.2.operator

/-- The elements of a value that is a list. -/
def listed : Option Value → List Value
  | some (.list vs) => vs
  | _ => []

/-- Whether a rule is active, by what the payload holds for its field. -/
def isActive (sentinel : Text) (op : Operator) (v : Option Value) : Bool :=
  match op.kind, v with
  | .compare, v | .like, v => isPresent v
  | .inList, v => !(listed v).isEmpty
  | .isNull, some .null => true
  | .isNotNull, some (.str t) => t == sentinel
  | _, _ => false

/-- The names of the parameters that a membership rule makes. -/
def elementNames (name : Text) (v : Option Value) : List Text :=
  (List.range (listed v).length).map (elementName name)

/-- What an active rule writes. -/
def fragment (name : Text) (op : Operator) (v : Option Value) : Text :=
  match op.kind with
  | .inList =>
    name ++ " IN (" ++ Text.join ", " ((elementNames name v).map fun key => ":" ++ key) ++ ")"
  | .isNull => name ++ " IS NULL"
  | .isNotNull => name ++ " IS NOT NULL"
  | .compare | .like => name ++ " " ++ op.sql ++ " :" ++ name

/-- The value that a pattern rule binds. -/
def pattern (v : Value) : Value := .str ("%" ++ v.display ++ "%")

/-- The parameters that an active rule makes. -/
def parameters (name : Text) (op : Operator) (v : Option Value) : Bindings :=
  match op.kind, v with
  | .inList, v => elements name 0 (listed v)
  | .like, some v => [(name, pattern v)]
  | _, _ => []

theorem names_elements (name : Text) (index : Nat) (vs : List Value) :
    (elements name index vs).map Prod.fst =
      (List.range' index vs.length).map (elementName name) := by
  induction vs generalizing index with
  | nil => rfl
  | cons v vs ih => exact congrArg (elementName name index :: ·) (ih (index + 1))

theorem mem_elements {name : Text} {index : Nat} {vs : List Value} {e : Text × Value} :
    e ∈ elements name index vs ↔ ∃ i, vs[i]? = some e.2 ∧ e.1 = elementName name (index + i) := by
  induction vs generalizing index with
  | nil => simp [elements]
  | cons v vs ih =>
    rw [elements, List.mem_cons, ih]
    constructor
    · rintro (rfl | ⟨i, hv, he⟩)
      · exact ⟨0, rfl, rfl⟩
      · exact ⟨i + 1, hv, by rw [he, Nat.add_assoc, Nat.add_comm 1]⟩
    · rintro ⟨_ | i, hv, he⟩
      · exact .inl (Prod.ext he (Option.some.inj hv).symm)
      · exact .inr ⟨i, hv, by rw [he, Nat.add_assoc, Nat.add_comm 1]⟩

theorem membership_elements (name : Text) (vs : List Value) :
    membership name (elements name 0 vs) =
      name ++ " IN (" ++ Text.join ", " (((List.range vs.length).map (elementName name)).map
        fun key => ":" ++ key) ++ ")" := by
  rw [List.range_eq_range', ← names_elements, List.map_map]
  rfl

/-- An active rule takes its field from the payload unless it only compares it, writes its fragment
and makes its parameters; any other rule does nothing. -/
theorem apply_eq (sentinel name : Text) (op : Operator) (p : Progress) :
    p.apply sentinel name op =
      if isActive sentinel op (p.bound.get? name) then
        { bound := if op.kind = .compare then p.bound else p.bound.erase name
          fragments := p.fragments ++ [fragment name op (p.bound.get? name)]
          pending := p.pending.putAll (parameters name op (p.bound.get? name)) }
      else p := by
  obtain ⟨kind, sql⟩ := op
  cases kind with
  | compare => exact apply_compare p sentinel name sql
  | like =>
    cases hv : p.bound.get? name with
    | none => simp [Progress.apply, hv, isActive, isPresent]
    | some v =>
      cases v <;> simp [Progress.apply, hv, isActive, isPresent, fragment, parameters, pattern,
        Named.putAll]
  | inList =>
    cases hv : p.bound.get? name with
    | none => simp [Progress.apply, hv, isActive, listed]
    | some v =>
      cases v with
      | list vs =>
        cases vs <;> simp [Progress.apply, hv, isActive, listed, fragment, parameters,
          membership_elements, elementNames]
      | _ => simp [Progress.apply, hv, isActive, listed]
  | isNull =>
    cases hv : p.bound.get? name with
    | none => simp [Progress.apply, hv, isActive]
    | some v => cases v <;> simp [Progress.apply, hv, isActive, fragment, parameters, Named.putAll]
  | isNotNull =>
    cases hv : p.bound.get? name with
    | none => simp [Progress.apply, hv, isActive]
    | some v => cases v <;> simp [Progress.apply, hv, isActive, fragment, parameters, Named.putAll]

/-! ## All rules -/

section Rules

variable (sentinel : Text) (payload : Bindings) (conditions : Spec.Conditions)

/-- The rules that are active on a payload, in order. -/
def activeRules : Spec.Conditions :=
  conditions.filter fun c => isActive sentinel (operatorOf c) (payload.get? c.1)

/-- What the active rules write, in order. -/
def activeFragments : List Text :=
  (activeRules sentinel payload conditions).map fun c =>
    fragment c.1 (operatorOf c) (payload.get? c.1)

/-- The parameters that the active rules make, in order. -/
def activeParameters : Bindings :=
  (activeRules sentinel payload conditions).flatMap fun c =>
    parameters c.1 (operatorOf c) (payload.get? c.1)

/-- The fields that the active rules take from the payload. -/
def takenNames : List Text :=
  ((activeRules sentinel payload conditions).filter
    fun c => (operatorOf c).kind ≠ .compare).map Prod.fst

/-- What is left of the payload, and what the active rules make. -/
def boundParameters : Bindings :=
  (payload.without (takenNames sentinel payload conditions)).putAll
    (Named.putAll [] (activeParameters sentinel payload conditions))

/-- The fields that the active rules leave out of the parameters. -/
def removedNames : List Text :=
  ((activeRules sentinel payload conditions).filter
    fun c => (operatorOf c).kind ∈ [.inList, .isNull, .isNotNull]).map Prod.fst

/-- The names of the elements of the active membership rules. -/
def generatedNames : List Text :=
  ((activeRules sentinel payload conditions).filter fun c => (operatorOf c).kind = .inList).flatMap
    fun c => elementNames c.1 (payload.get? c.1)

end Rules

theorem applyAll_cons (sentinel : Text) (c : Text × Spec.ConditionRule)
    (conditions : Spec.Conditions) (p : Progress) :
    p.applyAll sentinel (c :: conditions) =
      (p.apply sentinel c.1 (operatorOf c)).applyAll sentinel conditions := rfl

/-- The run of the rules: what they come to is what each of them comes to on the payload that the
run starts from. -/
theorem applyAll_eq (sentinel : Text) (payload : Bindings) {conditions : Spec.Conditions}
    (hn : (conditions.map Prod.fst).Nodup) {p : Progress}
    (hp : ∀ c ∈ conditions, p.bound.get? c.1 = payload.get? c.1) :
    p.applyAll sentinel conditions =
      { bound := p.bound.without (takenNames sentinel payload conditions)
        fragments := p.fragments ++ activeFragments sentinel payload conditions
        pending := p.pending.putAll (activeParameters sentinel payload conditions) } := by
  induction conditions generalizing p with
  | nil =>
    simp [Progress.applyAll, takenNames, activeFragments, activeParameters, activeRules,
      Named.without_nil, Named.putAll]
  | cons c conditions ih =>
    obtain ⟨hc, hn⟩ := List.nodup_cons.1 hn
    have hstep := apply_eq sentinel c.1 (operatorOf c) p
    rw [hp c List.mem_cons_self] at hstep
    have hrest : ∀ d ∈ conditions, d.1 ≠ c.1 := fun d hd he =>
      hc (he ▸ List.mem_map_of_mem hd)
    rw [applyAll_cons, hstep]
    by_cases ha : isActive sentinel (operatorOf c) (payload.get? c.1) = true
    · rw [if_pos ha, ih hn]
      · by_cases hk : (operatorOf c).kind = .compare <;>
          simp [takenNames, activeFragments, activeParameters, activeRules, ha, hk,
            Named.without_cons, Named.putAll, List.foldl_append]
      · intro d hd
        rw [← hp d (List.mem_cons_of_mem _ hd)]
        show Named.get? d.1 (if _ then _ else _) = _
        split
        · rfl
        · exact Named.get?_erase_ne _ (Ne.symm (hrest d hd))
    · rw [if_neg ha, ih hn fun d hd => hp d (List.mem_cons_of_mem _ hd)]
      simp [takenNames, activeFragments, activeParameters, activeRules, ha]

theorem evaluate_eq (payload : Bindings) (sentinel : Text) {conditions : Spec.Conditions}
    (hn : (conditions.map Prod.fst).Nodup) {query before after : Text}
    (hq : HoldsOnce query before after) :
    let clause := clauseOf (activeFragments sentinel payload conditions)
    evaluate (some conditions) payload query sentinel = .ok {
      query := before ++ clause ++ after
      clause := clause
      params := boundParameters sentinel payload conditions } := by
  have hrun := applyAll_eq sentinel payload hn (p := ⟨payload, [], []⟩) fun _ _ => rfl
  have hsplit : splitQuery query (some conditions).isSome = .ok (before, after) :=
    splitQuery_eq_ok_iff.2 hq
  let p := Progress.applyAll sentinel conditions ⟨payload, [], []⟩
  have heval : evaluate (some conditions) payload query sentinel =
      .ok ⟨before ++ clauseOf p.fragments ++ after, clauseOf p.fragments,
        p.bound.putAll p.pending⟩ := by
    rw [evaluate, hsplit]
    rfl
  rw [heval, show p = _ from hrun]
  rfl

/-! ## Names of the parameters -/

section Names

variable {sentinel : Text} {payload : Bindings} {conditions : Spec.Conditions}

/-- The text behind the last separator and the text before it. -/
theorem append_cons_inj {c : CodePoint} {f g s t : Text} (hs : c ∉ s) (ht : c ∉ t)
    (h : f ++ c :: s = g ++ c :: t) : f = g ∧ s = t := by
  rcases List.append_eq_append_iff.1 h with ⟨_ | ⟨d, m⟩, rfl, hm⟩ | ⟨_ | ⟨d, m⟩, rfl, hm⟩
  · simpa using hm
  · simp only [List.cons_append, List.cons.injEq] at hm
    exact absurd (hm.2 ▸ List.mem_append_right m List.mem_cons_self) hs
  · simpa using hm.symm
  · simp only [List.cons_append, List.cons.injEq] at hm
    exact absurd (hm.2 ▸ List.mem_append_right m List.mem_cons_self) ht

/-- The parameters of elements never coincide: only the index stands behind the last underscore. -/
theorem elementName_inj {f g : Text} {i j : Nat} (h : elementName f i = elementName g j) :
    f = g ∧ i = j := by
  have hdigits (n : Nat) : CodePoint.ofChar '_' ∉ Text.ofNat n := fun hmem => by
    have := Text.isDigit_of_mem_ofNat hmem
    revert this
    decide
  rw [elementName, elementName, List.append_assoc, List.append_assoc] at h
  obtain ⟨hf, hi⟩ := append_cons_inj (hdigits i) (hdigits j) h
  exact ⟨hf, Text.ofNat_inj hi⟩

theorem mem_activeRules {c : Text × Spec.ConditionRule} :
    c ∈ activeRules sentinel payload conditions ↔
      c ∈ conditions ∧ isActive sentinel (operatorOf c) (payload.get? c.1) := by
  simp [activeRules]

/-- Rules of one name are one rule. -/
theorem eq_of_fst_eq (hn : (conditions.map Prod.fst).Nodup) {c d : Text × Spec.ConditionRule}
    (hc : c ∈ activeRules sentinel payload conditions)
    (hd : d ∈ activeRules sentinel payload conditions) (h : c.1 = d.1) : c = d :=
  List.inj_on_of_nodup_map hn (mem_activeRules.1 hc).1 (mem_activeRules.1 hd).1 h

/-- An active rule has its field in the payload. -/
theorem exists_get?_of_isActive {op : Operator} {v : Option Value} (h : isActive sentinel op v) :
    ∃ w, v = some w := by
  obtain ⟨kind, sql⟩ := op
  cases v with
  | none => cases kind <;> cases h
  | some w => exact ⟨w, rfl⟩

theorem mem_parameters {name : Text} {op : Operator} {v : Option Value} {e : Text × Value} :
    e ∈ parameters name op v ↔
      (op.kind = .inList ∧ ∃ i, (listed v)[i]? = some e.2 ∧ e.1 = elementName name i) ∨
        (op.kind = .like ∧ ∃ w, v = some w ∧ e = (name, pattern w)) := by
  obtain ⟨kind, sql⟩ := op
  cases kind with
  | inList => simp [parameters, mem_elements]
  | like => cases v <;> simp [parameters]
  | _ => simp [parameters]

theorem mem_activeParameters {e : Text × Value} :
    e ∈ activeParameters sentinel payload conditions ↔
      ∃ c ∈ activeRules sentinel payload conditions,
        e ∈ parameters c.1 (operatorOf c) (payload.get? c.1) :=
  List.mem_flatMap

theorem mem_generatedNames {name : Text} :
    name ∈ generatedNames sentinel payload conditions ↔
      ∃ c ∈ activeRules sentinel payload conditions, (operatorOf c).kind = .inList ∧
        ∃ i v, (listed (payload.get? c.1))[i]? = some v ∧ name = elementName c.1 i := by
  simp only [generatedNames, elementNames, List.mem_flatMap, List.mem_filter, decide_eq_true_eq,
    List.mem_map, List.mem_range, and_assoc]
  refine exists_congr fun c => and_congr_right fun _ => and_congr_right fun _ =>
    exists_congr fun i => ?_
  constructor
  · rintro ⟨hi, rfl⟩
    exact ⟨_, List.getElem?_eq_getElem hi, rfl⟩
  · rintro ⟨v, hv, rfl⟩
    exact ⟨(List.getElem?_eq_some_iff.1 hv).1, rfl⟩

theorem mem_takenNames {name : Text} :
    name ∈ takenNames sentinel payload conditions ↔
      ∃ c ∈ activeRules sentinel payload conditions, (operatorOf c).kind ≠ .compare ∧ c.1 = name := by
  simp [takenNames, and_assoc]

theorem mem_removedNames {name : Text} :
    name ∈ removedNames sentinel payload conditions ↔
      ∃ c ∈ activeRules sentinel payload conditions,
        (operatorOf c).kind ∈ [.inList, .isNull, .isNotNull] ∧ c.1 = name := by
  simp only [removedNames, List.mem_map, List.mem_filter, decide_eq_true_eq, and_assoc]

/-- The names of what the active rules make: elements, and the fields of patterns. -/
theorem mem_names_activeParameters {name : Text} :
    name ∈ (activeParameters sentinel payload conditions).map Prod.fst ↔
      name ∈ generatedNames sentinel payload conditions ∨
        ∃ c ∈ activeRules sentinel payload conditions, (operatorOf c).kind = .like ∧ c.1 = name := by
  rw [mem_generatedNames, List.mem_map]
  constructor
  · rintro ⟨e, he, rfl⟩
    obtain ⟨c, hc, hparam⟩ := mem_activeParameters.1 he
    rcases mem_parameters.1 hparam with ⟨hk, i, hv, hname⟩ | ⟨hk, v, -, rfl⟩
    · exact .inl ⟨c, hc, hk, i, e.2, hv, hname⟩
    · exact .inr ⟨c, hc, hk, rfl⟩
  · rintro (⟨c, hc, hk, i, v, hv, rfl⟩ | ⟨c, hc, hk, rfl⟩)
    · exact ⟨(elementName c.1 i, v), mem_activeParameters.2
        ⟨c, hc, mem_parameters.2 (.inl ⟨hk, i, hv, rfl⟩)⟩, rfl⟩
    · obtain ⟨v, hv⟩ := exists_get?_of_isActive (mem_activeRules.1 hc).2
      exact ⟨(c.1, pattern v), mem_activeParameters.2
        ⟨c, hc, mem_parameters.2 (.inr ⟨hk, v, hv, rfl⟩)⟩, rfl⟩

/-- A pattern gives its field back under the same name; the other rules that take a field leave it
out. -/
theorem mem_names_boundParameters (hn : (conditions.map Prod.fst).Nodup) {name : Text} :
    name ∈ (boundParameters sentinel payload conditions).map Prod.fst ↔
      (name ∈ payload.map Prod.fst ∧ name ∉ removedNames sentinel payload conditions) ∨
        name ∈ generatedNames sentinel payload conditions := by
  have hnames : name ∈ (Named.putAll [] (activeParameters sentinel payload conditions)).map
      Prod.fst ↔ name ∈ (activeParameters sentinel payload conditions).map Prod.fst := by
    simp [Named.mem_names_putAll]
  rw [boundParameters, Named.mem_names_putAll, Named.mem_names_without, hnames,
    mem_names_activeParameters]
  constructor
  · rintro (⟨hname, hleft⟩ | hgen | ⟨c, hc, hk, rfl⟩)
    · refine .inl ⟨hname, fun hremoved => hleft ?_⟩
      obtain ⟨c, hc, hk, rfl⟩ := mem_removedNames.1 hremoved
      exact mem_takenNames.2 ⟨c, hc, by rintro he; simp [he] at hk, rfl⟩
    · exact .inr hgen
    · refine .inl ⟨Named.exists_get?_iff.1 (exists_get?_of_isActive (mem_activeRules.1 hc).2),
        fun hremoved => ?_⟩
      obtain ⟨d, hd, hkind, hdc⟩ := mem_removedNames.1 hremoved
      rw [eq_of_fst_eq hn hd hc hdc, hk] at hkind
      revert hkind
      decide
  · rintro (⟨hname, hkept⟩ | hgen)
    · by_cases htaken : name ∈ takenNames sentinel payload conditions
      · obtain ⟨c, hc, hk, rfl⟩ := mem_takenNames.1 htaken
        refine .inr (.inr ⟨c, hc, ?_, rfl⟩)
        cases hkind : (operatorOf c).kind with
        | compare => exact absurd hkind hk
        | like => rfl
        | _ => exact absurd (mem_removedNames.2 ⟨c, hc, by simp [hkind], rfl⟩) hkept
      · exact .inl ⟨hname, htaken⟩
    · exact .inr (.inl hgen)

/-! ## Values of the parameters -/

/-- A name that no rule makes keeps what is left of it. -/
theorem get?_boundParameters_of_notMem {name : Text}
    (h : name ∉ (activeParameters sentinel payload conditions).map Prod.fst) :
    (boundParameters sentinel payload conditions).get? name =
      (payload.without (takenNames sentinel payload conditions)).get? name := by
  rw [boundParameters, Named.get?_putAll_of_notMem]
  rw [Named.mem_names_putAll]
  exact not_or.2 ⟨List.not_mem_nil, h⟩

/-- What bears a name if all the parameters of that name agree. -/
theorem get?_boundParameters {name : Text} {v : Value}
    (hagree : ∀ e ∈ activeParameters sentinel payload conditions, e.1 = name → e.2 = v)
    (hv : (name, v) ∈ activeParameters sentinel payload conditions ∨
      name ∉ takenNames sentinel payload conditions ∧ payload.get? name = some v) :
    (boundParameters sentinel payload conditions).get? name = some v := by
  by_cases hname : name ∈ (activeParameters sentinel payload conditions).map Prod.fst
  · refine Named.get?_putAll_of_mem (Named.mem_names_putAll.2 (.inr hname)) fun e he => ?_
    exact hagree e ((Named.mem_or_mem_of_mem_putAll he).resolve_left List.not_mem_nil)
  · rw [get?_boundParameters_of_notMem hname]
    rcases hv with hv | ⟨hleft, hv⟩
    · exact absurd (List.mem_map_of_mem hv) hname
    · rw [Named.get?_without_of_notMem payload hleft, hv]

/-- The elements of active membership rules are bound under names of their own. -/
theorem snd_eq_of_elementName_eq (hn : (conditions.map Prod.fst).Nodup)
    {c d : Text × Spec.ConditionRule} (hc : c ∈ activeRules sentinel payload conditions)
    (hd : d ∈ activeRules sentinel payload conditions) {i j : Nat} {v w : Value}
    (hv : (listed (payload.get? c.1))[i]? = some v) (hw : (listed (payload.get? d.1))[j]? = some w)
    (h : elementName c.1 i = elementName d.1 j) : v = w := by
  obtain ⟨hname, rfl⟩ := elementName_inj h
  obtain rfl := eq_of_fst_eq hn hc hd hname
  exact Option.some.inj (hv.symm.trans hw)

/-- Parameters of one name have one value, if no element takes the name of a field. -/
theorem snd_eq_of_fst_eq (hn : (conditions.map Prod.fst).Nodup)
    (hfree : ∀ name ∈ generatedNames sentinel payload conditions, name ∉ payload.map Prod.fst)
    {d e : Text × Value} (hd : d ∈ activeParameters sentinel payload conditions)
    (he : e ∈ activeParameters sentinel payload conditions) (h : d.1 = e.1) : d.2 = e.2 := by
  have hapart {a b : Text × Spec.ConditionRule} {i : Nat} {v w : Value}
      (ha : a ∈ activeRules sentinel payload conditions) (hk : (operatorOf a).kind = .inList)
      (hv : (listed (payload.get? a.1))[i]? = some v) (hw : payload.get? b.1 = some w) :
      elementName a.1 i ≠ b.1 := fun hname =>
    hfree _ (mem_generatedNames.2 ⟨a, ha, hk, i, v, hv, rfl⟩)
      (hname ▸ Named.exists_get?_iff.1 ⟨w, hw⟩)
  obtain ⟨a, ha, hda⟩ := mem_activeParameters.1 hd
  obtain ⟨b, hb, heb⟩ := mem_activeParameters.1 he
  rcases mem_parameters.1 hda with ⟨hka, i, hv, hda⟩ | ⟨-, v, hv, rfl⟩ <;>
    rcases mem_parameters.1 heb with ⟨hkb, j, hw, heb⟩ | ⟨-, w, hw, rfl⟩
  · exact snd_eq_of_elementName_eq hn ha hb hv hw (hda.symm.trans (h.trans heb))
  · exact absurd (hda.symm.trans h) (hapart ha hka hv hw)
  · exact absurd (heb.symm.trans h.symm) (hapart hb hkb hw hv)
  · obtain rfl := eq_of_fst_eq hn ha hb h
    rw [Option.some.inj (hv.symm.trans hw)]

/-- The order of the rules does not matter, when no element takes the name of a field. -/
theorem get?_boundParameters_perm (hn : (conditions.map Prod.fst).Nodup)
    (hfree : ∀ name ∈ generatedNames sentinel payload conditions, name ∉ payload.map Prod.fst)
    {reordered : Spec.Conditions} (hperm : reordered.Perm conditions) (name : Text) :
    (boundParameters sentinel payload reordered).get? name =
      (boundParameters sentinel payload conditions).get? name := by
  have hrules : (activeRules sentinel payload reordered).Perm
      (activeRules sentinel payload conditions) := hperm.filter _
  have hparams : (activeParameters sentinel payload reordered).Perm
      (activeParameters sentinel payload conditions) := hrules.flatMap_right _
  by_cases hname : name ∈ (activeParameters sentinel payload conditions).map Prod.fst
  · obtain ⟨e, he, rfl⟩ := List.mem_map.1 hname
    have hagree : ∀ d ∈ activeParameters sentinel payload conditions, d.1 = e.1 → d.2 = e.2 :=
      fun d hd => snd_eq_of_fst_eq hn hfree hd he
    rw [get?_boundParameters hagree (.inl he),
      get?_boundParameters (fun d hd => hagree d (hparams.mem_iff.1 hd))
        (.inl (hparams.mem_iff.2 he))]
  · have htaken : name ∈ takenNames sentinel payload reordered ↔
        name ∈ takenNames sentinel payload conditions := ((hrules.filter _).map _).mem_iff
    rw [get?_boundParameters_of_notMem hname,
      get?_boundParameters_of_notMem fun h => hname ((hparams.map _).mem_iff.1 h)]
    by_cases hleft : name ∈ takenNames sentinel payload conditions
    · rw [Named.get?_without_of_mem _ hleft, Named.get?_without_of_mem _ (htaken.2 hleft)]
    · rw [Named.get?_without_of_notMem _ hleft,
        Named.get?_without_of_notMem _ (mt htaken.1 hleft)]

end Names

/-! ## The clause -/

theorem space_mem_fragment (name : Text) (op : Operator) (v : Option Value) :
    CodePoint.ofChar ' ' ∈ fragment name op v := by
  have hspace (t : String) (h : ' ' ∈ t.toList) : CodePoint.ofChar ' ' ∈ name ++ Text.ofString t :=
    List.mem_append_right name (List.mem_map_of_mem h)
  obtain ⟨kind, sql⟩ := op
  cases kind with
  | inList => exact List.mem_append_left _ (List.mem_append_left _ (hspace " IN (" (by decide)))
  | isNull => exact hspace " IS NULL" (by decide)
  | isNotNull => exact hspace " IS NOT NULL" (by decide)
  | compare | like =>
    exact List.mem_append_left _ (List.mem_append_left _ (List.mem_append_left _
      (hspace " " (by decide))))

/-- Only no fragment at all makes the clause that is always true: fragments have a space. -/
theorem clauseOf_eq_tautology_iff {sentinel : Text} {payload : Bindings}
    {conditions : Spec.Conditions} :
    clauseOf (activeFragments sentinel payload conditions) = tautology ↔
      activeRules sentinel payload conditions = [] := by
  cases hrules : activeRules sentinel payload conditions with
  | nil => simp [activeFragments, hrules, clauseOf]
  | cons c rules =>
    refine iff_of_false (fun h => ?_) (List.cons_ne_nil c rules)
    have hspace : CodePoint.ofChar ' ' ∈ clauseOf (activeFragments sentinel payload conditions) := by
      rw [activeFragments, hrules]
      exact Text.mem_join_of_mem List.mem_cons_self (space_mem_fragment c.1 _ _)
    rw [h] at hspace
    revert hspace
    decide

/-- What the rules come to, for any payload: the fragments of the active rules, in order and joined,
stand in the place of the placeholder, and `1=1` if none is active; the parameters are named by what
the payload names, less what active membership rules and null tests leave out, and by the elements.
When no element takes the name of a field, the order of the rules changes the order of the fragments
and nothing else. -/
theorem evaluate_effect (payload : Bindings) (sentinel : Text) {conditions : Spec.Conditions}
    (hn : (conditions.map Prod.fst).Nodup) {query before after : Text}
    (hq : HoldsOnce query before after) :
    ∃ result, evaluate (some conditions) payload query sentinel = .ok result ∧
      result.query = before ++ result.clause ++ after ∧
      result.clause = clauseOf (activeFragments sentinel payload conditions) ∧
      (result.clause = tautology ↔
        ∀ c ∈ conditions, isActive sentinel (operatorOf c) (payload.get? c.1) = false) ∧
      (∀ name, name ∈ result.params.map Prod.fst ↔
        (name ∈ payload.map Prod.fst ∧ name ∉ removedNames sentinel payload conditions) ∨
          name ∈ generatedNames sentinel payload conditions) ∧
      ((∀ name ∈ generatedNames sentinel payload conditions, name ∉ payload.map Prod.fst) →
        ∀ reordered : Spec.Conditions, reordered.Perm conditions →
          ∃ other, evaluate (some reordered) payload query sentinel = .ok other ∧
            other.query = before ++ other.clause ++ after ∧
            other.clause = clauseOf (activeFragments sentinel payload reordered) ∧
            (activeFragments sentinel payload reordered).Perm
              (activeFragments sentinel payload conditions) ∧
            ∀ name, other.params.get? name = result.params.get? name) := by
  refine ⟨_, evaluate_eq payload sentinel hn hq, rfl, rfl, ?_,
    fun name => mem_names_boundParameters hn, fun hfree reordered hperm => ?_⟩
  · rw [clauseOf_eq_tautology_iff, activeRules, List.filter_eq_nil_iff]
    simp only [Bool.not_eq_true]
  · have hn' : (reordered.map Prod.fst).Nodup := (hperm.map _).nodup_iff.2 hn
    exact ⟨_, evaluate_eq payload sentinel hn' hq, rfl, rfl, (hperm.filter _).map _,
      get?_boundParameters_perm hn hfree hperm⟩

/-- A comparison that is not active, and three other rules that are, in two orders. -/
theorem evaluate_effect_mixed :
    let rules : Spec.Conditions := [("id", ⟨"in", none⟩), ("name", ⟨"ilike", none⟩),
      ("age", ⟨">=", none⟩), ("gone", ⟨"is null", none⟩)]
    let payload : Bindings := [("age", .null), ("gone", .null), ("name", .str "bo"),
      ("id", .list [.int 7, .str "x"]), ("page", .int 2)]
    let query : Text := "SELECT * FROM t WHERE \x7bdynamic_conditions\x7d LIMIT 1"
    (rules.map Prod.fst).Nodup ∧ HoldsOnce query "SELECT * FROM t WHERE " " LIMIT 1" ∧
      ∃ result, evaluate (some rules) payload query "NOT NULL" = .ok result ∧
        result.clause = "id IN (:id_0, :id_1) AND name ILIKE :name AND gone IS NULL" ∧
        (∀ name ∈ (["age", "name", "page", "id_0", "id_1"] : List Text),
          name ∈ result.params.map Prod.fst) ∧
        (∀ name ∈ (["gone", "id"] : List Text), name ∉ result.params.map Prod.fst) ∧
        ∃ other, evaluate (some rules.reverse) payload query "NOT NULL" = .ok other ∧
          other.clause = "gone IS NULL AND name ILIKE :name AND id IN (:id_0, :id_1)" ∧
          ∀ name, other.params.get? name = result.params.get? name := by
  intro rules payload query
  have hn : (rules.map Prod.fst).Nodup := by decide +kernel
  have hq : HoldsOnce query "SELECT * FROM t WHERE " " LIMIT 1" := splitQuery_eq_ok_iff.1 rfl
  obtain ⟨result, hok, -, hclause, -, hnames, hreorder⟩ := evaluate_effect payload "NOT NULL" hn hq
  obtain ⟨other, hother, -, hreversed, -, hsame⟩ :=
    hreorder (by decide +kernel) rules.reverse rules.reverse_perm
  refine ⟨hn, hq, result, hok, hclause.trans (by decide +kernel), fun name hname => ?_,
    fun name hname => ?_, other, hother, hreversed.trans (by decide +kernel), hsame⟩
  · revert name
    simp only [hnames]
    decide +kernel
  · revert name
    simp only [hnames]
    decide +kernel

end Routewright.Condition
