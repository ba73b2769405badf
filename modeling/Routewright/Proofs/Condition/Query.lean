/-
Where the placeholder stands in a base query. Its first code point occurs in it only once, so it
cannot overlap itself, and one is counted exactly if it stands at one place; hence a query of a route
with conditions is split exactly if the placeholder stands in it at one place, and there. What an
evaluation asks is the query with the clause in that place.
-/
import Routewright.Condition.Evaluate
import Routewright.Proofs.Text.Lines

namespace Routewright

/-! ## Places of a piece -/

namespace Text

variable {piece t before after other rest : Text}

theorem eq_append_of_cut? (h : cut? piece t = some (before, after)) :
    t = before ++ piece ++ after := by
  induction t generalizing before with
  | nil =>
    rw [cut?] at h
    split at h
    · rename_i he
      obtain ⟨rfl, rfl⟩ := Prod.mk.inj (Option.some.inj h)
      rw [List.isEmpty_iff.1 he]
      rfl
    · cases h
  | cons c t ih =>
    rw [cut?] at h
    split at h
    · rename_i found hfound
      obtain ⟨rfl, rfl⟩ := Prod.mk.inj (Option.some.inj h)
      exact (List.isPrefixOf?_eq_some_iff_append_eq.1 hfound).symm
    · obtain ⟨⟨front, back⟩, hcut, hpair⟩ := Option.map_eq_some_iff.1 h
      obtain ⟨rfl, rfl⟩ := Prod.mk.inj hpair
      exact congrArg (c :: ·) (ih hcut)

theorem cut?_eq_none_iff : cut? piece t = none ↔ ¬piece <:+: t := by
  induction t with
  | nil => cases piece <;> simp [cut?]
  | cons c t ih =>
    rw [cut?, List.infix_cons_iff, not_or, ← ih]
    split
    · rename_i found hfound
      have hstart : piece <+: c :: t := ⟨found, List.isPrefixOf?_eq_some_iff_append_eq.1 hfound⟩
      simp [hstart]
    · rename_i hnone
      have hstart : ¬piece <+: c :: t := by
        rintro ⟨found, hfound⟩
        rw [List.isPrefixOf?_eq_some_iff_append_eq.2 hfound] at hnone
        cases hnone
      simp [hstart]

/-- A text is cut at the first place of a piece. -/
theorem length_le_of_cut? (h : cut? piece t = some (before, after))
    (ht : t = other ++ piece ++ rest) : before.length ≤ other.length := by
  induction t generalizing before other with
  | nil =>
    obtain ⟨hother, -⟩ := List.append_eq_nil_iff.1 ((List.append_assoc ..).symm.trans ht.symm)
    obtain ⟨hbefore, -⟩ := List.append_eq_nil_iff.1
      ((List.append_assoc ..).symm.trans (eq_append_of_cut? h).symm)
    rw [hother, hbefore]
  | cons c t ih =>
    rw [cut?] at h
    split at h
    · obtain ⟨rfl, -⟩ := Prod.mk.inj (Option.some.inj h)
      exact Nat.zero_le _
    · rename_i hnone
      obtain ⟨⟨front, back⟩, hcut, hpair⟩ := Option.map_eq_some_iff.1 h
      obtain ⟨rfl, rfl⟩ := Prod.mk.inj hpair
      cases other with
      | nil =>
        -- the piece would stand at the very start
        have hfound : List.isPrefixOf? piece (c :: t) = some rest :=
          List.isPrefixOf?_eq_some_iff_append_eq.2 ht.symm
        rw [hnone] at hfound
        cases hfound
      | cons d other => exact Nat.succ_le_succ (ih hcut (List.cons.inj ht).2)

theorem countAfter_eq (skip : Nat) (t : Text) :
    countAfter piece skip t = countPiece piece (t.drop skip) := by
  induction t generalizing skip with
  | nil => cases skip <;> rfl
  | cons c t ih =>
    cases skip with
    | zero => rfl
    | succ skip => rw [countAfter, List.drop_succ_cons, ih]

theorem countPiece_eq_zero_of_cut? (h : cut? piece t = none) : countPiece piece t = 0 := by
  unfold countPiece
  induction t with
  | nil => rfl
  | cons c t ih =>
    rw [cut?] at h
    split at h
    · cases h
    · rename_i hnone
      have hstart : piece.isPrefixOf (c :: t) = false := by
        rw [← List.isSome_isPrefixOf?_eq_isPrefixOf, hnone]
        rfl
      rw [countAfter, hstart, if_neg Bool.false_ne_true, ih (Option.map_eq_none_iff.1 h)]

/-- The occurrences of a piece are the first one and those behind it. -/
theorem countPiece_of_cut? (hpiece : piece ≠ []) (h : cut? piece t = some (before, after)) :
    countPiece piece t = 1 + countPiece piece after := by
  induction t generalizing before with
  | nil =>
    rw [cut?, if_neg (by simpa using hpiece)] at h
    cases h
  | cons c t ih =>
    have hstart := List.isSome_isPrefixOf?_eq_isPrefixOf piece (c :: t)
    rw [cut?] at h
    rw [countPiece, countAfter, ← hstart]
    split at h
    · rename_i found hfound
      obtain ⟨rfl, rfl⟩ := Prod.mk.inj (Option.some.inj h)
      obtain ⟨d, tail, rfl⟩ := List.exists_cons_of_ne_nil hpiece
      have htail : t = tail ++ found :=
        (List.cons.inj (List.isPrefixOf?_eq_some_iff_append_eq.1 hfound)).2.symm
      rw [hfound, Option.isSome_some, if_pos rfl, countAfter_eq, List.length_cons,
        Nat.add_sub_cancel, htail, List.drop_left]
    · rename_i hnone
      obtain ⟨⟨front, back⟩, hcut, hpair⟩ := Option.map_eq_some_iff.1 h
      obtain ⟨-, rfl⟩ := Prod.mk.inj hpair
      rw [hnone]
      exact ih hcut

/-- A piece is counted where it stands. -/
theorem countPiece_eq_zero_iff (hpiece : piece ≠ []) :
    countPiece piece t = 0 ↔ ¬piece <:+: t := by
  rw [← cut?_eq_none_iff]
  refine ⟨fun h => ?_, countPiece_eq_zero_of_cut?⟩
  cases hcut : cut? piece t with
  | none => rfl
  | some found =>
    rw [countPiece_of_cut? hpiece hcut] at h
    omega

/-- Two places of a piece whose first code point stands in it once are the same, or the later one
lies behind the earlier one. -/
theorem eq_or_behind_of_append_eq {c : CodePoint} {tail : Text} (hc : c ∉ tail)
    (h : before ++ c :: tail ++ after = other ++ c :: tail ++ rest)
    (hle : before.length ≤ other.length) :
    before = other ∨ ∃ between, after = between ++ c :: tail ++ rest := by
  rw [List.append_assoc, List.append_assoc] at h
  obtain ⟨gap, rfl⟩ : before <+: other :=
    List.prefix_of_prefix_length_le ⟨_, h⟩ ⟨_, rfl⟩ hle
  rw [List.append_assoc, List.append_cancel_left_eq] at h
  cases gap with
  | nil => exact .inl (by simp)
  | cons d gap =>
    right
    obtain ⟨-, h⟩ := List.cons.inj h
    -- the later place starts with a code point that the rest of the earlier one lacks
    rcases List.append_eq_append_iff.1 h with ⟨between, rfl, hafter⟩ | ⟨excess, rfl, hexcess⟩
    · exact ⟨between, by rw [List.append_assoc]; exact hafter⟩
    · cases excess with
      | nil => exact ⟨[], by simpa using hexcess.symm⟩
      | cons e excess =>
        obtain ⟨rfl, -⟩ := List.cons.inj hexcess
        exact absurd (List.mem_append_right gap List.mem_cons_self) hc

/-- A piece stands at a place of a text, which is the number of code points before it. -/
def StandsAt (piece t : Text) (place : Nat) : Prop := piece <+: t.drop place

theorem standsAt_append (before piece after : Text) :
    StandsAt piece (before ++ piece ++ after) before.length := by
  unfold StandsAt
  rw [List.append_assoc, List.drop_left]
  exact List.prefix_append piece after

theorem exists_of_standsAt {place : Nat} (hpiece : piece ≠ []) (h : StandsAt piece t place) :
    ∃ before after, t = before ++ piece ++ after ∧ before.length = place := by
  obtain ⟨after, hafter⟩ := h
  have hle : place ≤ t.length := by
    by_contra hgt
    rw [List.drop_eq_nil_of_le (by omega)] at hafter
    exact hpiece (List.append_eq_nil_iff.1 hafter).1
  refine ⟨t.take place, after, ?_, List.length_take_of_le hle⟩
  rw [List.append_assoc, hafter, List.take_append_drop]

/-- A piece that stands at no place is no part of the text. -/
theorem not_infix_iff_forall_not_standsAt (hpiece : piece ≠ []) :
    ¬piece <:+: t ↔ ∀ place, ¬StandsAt piece t place := by
  constructor
  · intro h place hplace
    obtain ⟨before, after, rfl, -⟩ := exists_of_standsAt hpiece hplace
    exact h (List.infix_append before piece after)
  · rintro h ⟨before, after, rfl⟩
    exact h _ (standsAt_append before piece after)

end Text

namespace Condition

/-! ## The placeholder of a query -/

/-- A query in which the placeholder stands at one place only, between two texts. -/
structure HoldsOnce (query before after : Text) : Prop where
  split : query = before ++ placeholder ++ after
  only : ∀ other rest, query = other ++ placeholder ++ rest → other = before

theorem placeholder_ne_nil : placeholder ≠ [] := by decide

/-- The code points of the placeholder behind the first one, which is none of them. -/
theorem exists_placeholder_eq : ∃ c tail, placeholder = c :: tail ∧ c ∉ tail :=
  ⟨_, _, rfl, by decide +kernel⟩

section Places

variable {query before after : Text}

/-- Neither part of a query holds the placeholder again. -/
theorem HoldsOnce.contains_eq_false (h : HoldsOnce query before after) :
    before.contains placeholder = false ∧ after.contains placeholder = false := by
  have hpos : 0 < placeholder.length := List.length_pos_iff.2 placeholder_ne_nil
  constructor
  · refine Bool.eq_false_iff.2 fun hin => ?_
    obtain ⟨front, back, hbefore⟩ := Text.contains_iff.1 hin
    have hearlier := h.only front (back ++ placeholder ++ after) (by
      rw [h.split, ← hbefore]
      simp only [List.append_assoc])
    have hlen := congrArg List.length hbefore
    simp only [List.length_append, ← hearlier] at hlen
    omega
  · refine Bool.eq_false_iff.2 fun hin => ?_
    obtain ⟨front, back, hafter⟩ := Text.contains_iff.1 hin
    have hlater := h.only (before ++ placeholder ++ front) back (by
      rw [h.split, ← hafter]
      simp only [List.append_assoc])
    have hlen := congrArg List.length hlater
    simp only [List.length_append] at hlen
    omega

/-- A query holds the placeholder once if it is cut at it and holds it no more behind it. -/
theorem holdsOnce_iff : HoldsOnce query before after ↔
    Text.cut? placeholder query = some (before, after) ∧ ¬placeholder <:+: after := by
  obtain ⟨c, tail, hplaceholder, hc⟩ := exists_placeholder_eq
  constructor
  · intro h
    cases hcut : Text.cut? placeholder query with
    | none => exact absurd ⟨before, after, h.split.symm⟩ (Text.cut?_eq_none_iff.1 hcut)
    | some found =>
      obtain ⟨front, back⟩ := found
      have hquery := Text.eq_append_of_cut? hcut
      obtain rfl := h.only front back hquery
      obtain rfl : after = back := List.append_cancel_left (h.split.symm.trans hquery)
      refine ⟨rfl, fun hin => ?_⟩
      exact Bool.eq_false_iff.1 h.contains_eq_false.2 (Text.contains_iff.2 hin)
  · rintro ⟨hcut, hafter⟩
    have hquery := Text.eq_append_of_cut? hcut
    refine ⟨hquery, fun other rest hother => ?_⟩
    have hle := Text.length_le_of_cut? hcut hother
    rw [hquery, hplaceholder] at hother
    rcases Text.eq_or_behind_of_append_eq hc hother hle with heq | ⟨between, rfl⟩
    · exact heq.symm
    · rw [hplaceholder] at hafter
      exact absurd (List.infix_append between (c :: tail) rest) hafter

/-- A query holds the placeholder once exactly if one is counted in it. -/
theorem countPiece_eq_one_iff :
    Text.countPiece placeholder query = 1 ↔ ∃ before after, HoldsOnce query before after := by
  constructor
  · intro hone
    cases hcut : Text.cut? placeholder query with
    | none =>
      rw [Text.countPiece_eq_zero_of_cut? hcut] at hone
      cases hone
    | some found =>
      rw [Text.countPiece_of_cut? placeholder_ne_nil hcut, Nat.add_eq_left,
        Text.countPiece_eq_zero_iff placeholder_ne_nil] at hone
      exact ⟨found.1, found.2, holdsOnce_iff.2 ⟨hcut, hone⟩⟩
  · rintro ⟨before, after, h⟩
    obtain ⟨hcut, hafter⟩ := holdsOnce_iff.1 h
    rw [Text.countPiece_of_cut? placeholder_ne_nil hcut,
      (Text.countPiece_eq_zero_iff placeholder_ne_nil).2 hafter]

theorem splitQuery_eq_ok_iff :
    splitQuery query true = .ok (before, after) ↔ HoldsOnce query before after := by
  unfold splitQuery
  dsimp only
  rw [if_pos rfl]
  constructor
  · intro h
    split_ifs at h with hnone hmore
    have hone : Text.countPiece placeholder query = 1 := by omega
    obtain ⟨front, back, honce⟩ := countPiece_eq_one_iff.1 hone
    rw [(holdsOnce_iff.1 honce).1] at h
    obtain ⟨rfl, rfl⟩ := Prod.mk.inj (Except.ok.inj h)
    exact honce
  · intro h
    rw [countPiece_eq_one_iff.2 ⟨before, after, h⟩, (holdsOnce_iff.1 h).1]
    rfl

/-! ## Places of the placeholder -/

theorem HoldsOnce.standsAt_iff (h : HoldsOnce query before after) (place : Nat) :
    placeholder.StandsAt query place ↔ place = before.length := by
  constructor
  · intro hplace
    obtain ⟨other, rest, hquery, rfl⟩ := Text.exists_of_standsAt placeholder_ne_nil hplace
    rw [h.only other rest hquery]
  · rintro rfl
    rw [h.split]
    exact Text.standsAt_append before placeholder after

/-- The only place of the placeholder is where the query is split. -/
theorem exists_holdsOnce_iff :
    (∃ before after, HoldsOnce query before after) ↔
      ∃! place, placeholder.StandsAt query place := by
  constructor
  · rintro ⟨before, after, h⟩
    exact ⟨before.length, (h.standsAt_iff _).2 rfl, fun place => (h.standsAt_iff place).1⟩
  · rintro ⟨place, hplace, honly⟩
    obtain ⟨before, after, rfl, rfl⟩ := Text.exists_of_standsAt placeholder_ne_nil hplace
    refine ⟨before, after, rfl, fun other rest h => ?_⟩
    have hlength := honly other.length (by
      rw [h]
      exact Text.standsAt_append other placeholder rest)
    rw [List.append_assoc, List.append_assoc] at h
    exact (List.append_inj h hlength.symm).1.symm

theorem HoldsOnce.append_eq_iff (h : HoldsOnce query before after) (other rest : Text) :
    other ++ placeholder ++ rest = query ↔ other = before ∧ rest = after := by
  constructor
  · intro hother
    obtain rfl := h.only other rest hother.symm
    exact ⟨rfl, List.append_cancel_left (hother.trans h.split)⟩
  · rintro ⟨rfl, rfl⟩
    exact h.split.symm

/-- A query of a route without conditions is kept, unless the placeholder stands in it. -/
theorem splitQuery_false_eq_ok_iff {parts : Text × Text} :
    splitQuery query false = .ok parts ↔
      parts = (query, []) ∧ ∀ place, ¬placeholder.StandsAt query place := by
  rw [← Text.not_infix_iff_forall_not_standsAt placeholder_ne_nil,
    ← Text.countPiece_eq_zero_iff placeholder_ne_nil]
  unfold splitQuery
  dsimp only
  rw [if_neg Bool.false_ne_true]
  by_cases h : Text.countPiece placeholder query = 0
  · simp [h, eq_comm]
  · simp [h]

/-- The query of an evaluation is the clause between the two parts of the base query. -/
theorem evaluate_query (h : HoldsOnce query before after) (conditions : Spec.Conditions)
    (payload : Bindings) (sentinel : Text) :
    ∃ bound, evaluate (some conditions) payload query sentinel = .ok bound ∧
      bound.query = before ++ bound.clause ++ after := by
  have hsplit : splitQuery query (some conditions).isSome = .ok (before, after) :=
    splitQuery_eq_ok_iff.2 h
  unfold evaluate
  rw [hsplit]
  exact ⟨_, rfl, rfl⟩

theorem exists_holdsOnce_of_evaluate {conditions : Spec.Conditions} {payload : Bindings}
    {sentinel : Text} {bound : BoundQuery}
    (h : evaluate (some conditions) payload query sentinel = .ok bound) :
    ∃ before after, HoldsOnce query before after := by
  unfold evaluate at h
  cases hsplit : splitQuery query (some conditions).isSome with
  | error e =>
    rw [hsplit] at h
    cases h
  | ok parts => exact ⟨parts.1, parts.2, splitQuery_eq_ok_iff.1 hsplit⟩

end Places

/-- A query of a route with conditions is split exactly if the placeholder stands in it at one place,
and there, in the one way there is; that of a route without conditions is kept exactly if it stands
in it nowhere. What an evaluation asks is the base query with the clause in that place. -/
theorem splitQuery_places (query : Text) :
    ((∃ before after, splitQuery query true = .ok (before, after)) ↔
        ∃! place, placeholder.StandsAt query place) ∧
      (∀ before after, splitQuery query true = .ok (before, after) →
        (∀ other rest, other ++ placeholder ++ rest = query ↔ other = before ∧ rest = after) ∧
          before.contains placeholder = false ∧ after.contains placeholder = false) ∧
      (∀ parts, splitQuery query false = .ok parts ↔
        parts = (query, []) ∧ ∀ place, ¬placeholder.StandsAt query place) ∧
      ∀ conditions payload sentinel,
        ((∃ bound, evaluate (some conditions) payload query sentinel = .ok bound) ↔
            ∃! place, placeholder.StandsAt query place) ∧
          ∀ bound place, evaluate (some conditions) payload query sentinel = .ok bound →
            placeholder.StandsAt query place →
            bound.query = query.take place ++ bound.clause ++
              query.drop (place + placeholder.length) := by
  refine ⟨?_, fun before after h => ?_, fun parts => splitQuery_false_eq_ok_iff,
    fun conditions payload sentinel => ⟨?_, fun bound place h hplace => ?_⟩⟩
  · rw [← exists_holdsOnce_iff]
    simp only [splitQuery_eq_ok_iff]
  · have honce := splitQuery_eq_ok_iff.1 h
    exact ⟨honce.append_eq_iff, honce.contains_eq_false⟩
  · rw [← exists_holdsOnce_iff]
    constructor
    · rintro ⟨bound, h⟩
      exact exists_holdsOnce_of_evaluate h
    · rintro ⟨before, after, honce⟩
      obtain ⟨bound, h, -⟩ := evaluate_query honce conditions payload sentinel
      exact ⟨bound, h⟩
  · obtain ⟨before, after, honce⟩ := exists_holdsOnce_of_evaluate h
    obtain ⟨found, hfound, hquery⟩ := evaluate_query honce conditions payload sentinel
    obtain rfl := Except.ok.inj (h.symm.trans hfound)
    obtain rfl := (honce.standsAt_iff place).1 hplace
    have htake : query.take before.length = before := by
      rw [honce.split, List.append_assoc, List.take_left]
    have hdrop : query.drop (before.length + placeholder.length) = after := by
      rw [honce.split, ← List.length_append, List.drop_left]
    rw [hquery, htake, hdrop]

/-- A placeholder between the halves of another one, and a query in which it stands twice. -/
theorem splitQuery_places_nested :
    let query : Text := "\x7bdynamic_\x7bdynamic_conditions\x7dconditions\x7d"
    let twice := query ++ query
    let rules : Spec.Conditions := [("id", ⟨"=", none⟩)]
    let payload : Bindings := [("id", .int 7)]
    splitQuery query true = .ok ("\x7bdynamic_", "conditions\x7d") ∧
      (∃! place, placeholder.StandsAt query place) ∧
      (∀ other rest, other ++ placeholder ++ rest = query ↔
        other = "\x7bdynamic_" ∧ rest = "conditions\x7d") ∧
      (∃ bound, evaluate (some rules) payload query "NOT NULL" = .ok bound ∧
        bound.query = "\x7bdynamic_id = :idconditions\x7d") ∧
      ¬(∃! place, placeholder.StandsAt twice place) := by
  intro query twice rules payload
  have hsplit : splitQuery query true = .ok ("\x7bdynamic_", "conditions\x7d") := by rfl
  have hplace : placeholder.StandsAt query 9 :=
    Text.standsAt_append "\x7bdynamic_" placeholder "conditions\x7d"
  have htwice : ∀ before after, splitQuery twice true ≠ .ok (before, after) := nofun
  obtain ⟨honce, hways, -, hevaluate⟩ := splitQuery_places query
  obtain ⟨hbound, hquery⟩ := hevaluate rules payload "NOT NULL"
  obtain ⟨htwo, -⟩ := splitQuery_places twice
  have hplaces := honce.1 ⟨_, _, hsplit⟩
  obtain ⟨bound, hevaluates⟩ := hbound.2 hplaces
  refine ⟨hsplit, hplaces, (hways _ _ hsplit).1, ⟨bound, hevaluates, ?_⟩, fun h => ?_⟩
  · rw [hquery bound 9 hevaluates hplace]
    have hclause : bound.clause = "id = :id" := by
      cases hevaluates
      rfl
    rw [hclause]
    rfl
  · obtain ⟨before, after, h⟩ := htwo.2 h
    exact htwice before after h

end Condition

end Routewright
