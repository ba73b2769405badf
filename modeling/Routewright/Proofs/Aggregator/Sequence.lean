/-
Adding a module as insertion into lists. Read in order, the imports of a text are one list and its
registrations another one: an addition puts the module's import at the end of the first and its
variable into the second, behind the registrations that stand at or before the last anchor.
-/
import Routewright.Proofs.Aggregator.Layout

namespace Routewright.Aggregator

namespace Survey

/-- The variables and paths of the imports, in order. -/
def importPairs (s : Survey) : List (Text × Text) := s.imports.map fun r => (r.name, r.path)

/-- The variables of the registrations, in order. -/
def useNames (s : Survey) : List Text := s.uses.map (·.name)

/-- How many registrations stand at or before a line. -/
def usesUpTo (s : Survey) (line : Nat) : Nat := s.uses.countP fun r => r.line ≤ line

end Survey

/-- The number of the line that a new registration follows. -/
def anchorLine? (t : Text) : Option Nat := (places isAnchor 1 t.lines).getLast?

/-! ## Records of single lines -/

/-- What a line imports. -/
def importPair? (line : Text) : Option (Text × Text) :=
  match lineKind line with
  | .importOf name path => some (name, path)
  | _ => none

/-- What a line registers. -/
def useName? (line : Text) : Option Text :=
  match lineKind line with
  | .useOf name => some name
  | _ => none

theorem importPairs_ofLines (number : Nat) (lines : List Text) :
    (Survey.ofLines number lines).importPairs = lines.filterMap importPair? := by
  induction lines generalizing number with
  | nil => rfl
  | cons line lines ih =>
    rw [List.filterMap_cons, ← ih (number + 1), Survey.ofLines]
    cases hk : lineKind line <;> simp [importPair?, hk, Survey.importPairs]

theorem useNames_ofLines (number : Nat) (lines : List Text) :
    (Survey.ofLines number lines).useNames = lines.filterMap useName? := by
  induction lines generalizing number with
  | nil => rfl
  | cons line lines ih =>
    rw [List.filterMap_cons, ← ih (number + 1), Survey.ofLines]
    cases hk : lineKind line <;> simp [useName?, hk, Survey.useNames]

theorem importPair?_congr {line other : Text} (h : lineKind line = lineKind other) :
    importPair? line = importPair? other := by
  rw [importPair?, importPair?, h]

theorem useName?_congr {line other : Text} (h : lineKind line = lineKind other) :
    useName? line = useName? other := by
  rw [useName?, useName?, h]

/-! ## Places of registrations -/

theorem uses_ofLines_append (number : Nat) (x y : List Text) :
    (Survey.ofLines number (x ++ y)).uses =
      (Survey.ofLines number x).uses ++ (Survey.ofLines (number + x.length) y).uses := by
  induction x generalizing number with
  | nil => rfl
  | cons line x ih =>
    have hnumber : number + (line :: x).length = number + 1 + x.length := by
      simp only [List.length_cons]
      omega
    rw [List.cons_append, Survey.ofLines, Survey.ofLines, hnumber]
    cases lineKind line <;> simp [ih (number + 1)]

/-- A registration stands on one of the lines. -/
theorem line_of_mem_uses {number : Nat} {lines : List Text} {r : UseRecord}
    (h : r ∈ (Survey.ofLines number lines).uses) :
    number ≤ r.line ∧ r.line < number + lines.length := by
  induction lines generalizing number with
  | nil => cases h
  | cons line lines ih =>
    have hrest : r ∈ (Survey.ofLines (number + 1) lines).uses →
        number ≤ r.line ∧ r.line < number + (line :: lines).length := by
      intro h
      have := ih h
      simp only [List.length_cons]
      omega
    rw [Survey.ofLines] at h
    cases hk : lineKind line with
    | importOf name path =>
      rw [hk] at h
      exact hrest h
    | useOf name =>
      rw [hk] at h
      rcases List.mem_cons.1 h with rfl | h
      · simp
      · exact hrest h
    | other =>
      rw [hk] at h
      exact hrest h

section Anchor

variable {t : Text} {before after : List Text} {anchor : Text}
  (hlines : t.lines = before ++ anchor :: after) (hl : isAnchor anchor)
  (ha : ∀ line ∈ after, isAnchor line = false)
include hlines hl ha

theorem anchorLine?_eq : anchorLine? t = some (1 + before.length) := by
  have hplace : places isAnchor (1 + before.length) (anchor :: after) = [1 + before.length] := by
    rw [places, if_pos hl, places_eq_nil ha]
  rw [anchorLine?, hlines, places_append, hplace, List.getLast?_concat]

omit hl ha in
theorem usesUpTo_eq : (Survey.ofText t).usesUpTo (1 + before.length) =
    ((before ++ [anchor]).filterMap useName?).length := by
  have hsplit : t.lines = (before ++ [anchor]) ++ after := by simp [hlines]
  have hlength : (before ++ [anchor]).length = before.length + 1 := by simp
  rw [← useNames_ofLines 1, Survey.useNames, List.length_map, Survey.usesUpTo, Survey.ofText, hsplit,
    uses_ofLines_append, List.countP_append]
  -- all registrations of the first part count, and none of the second one
  have hfirst : (Survey.ofLines 1 (before ++ [anchor])).uses.countP
      (fun r => r.line ≤ 1 + before.length) = (Survey.ofLines 1 (before ++ [anchor])).uses.length := by
    refine List.countP_eq_length.2 fun r hr => ?_
    have := (line_of_mem_uses hr).2
    simp only [decide_eq_true_eq]
    omega
  have hsecond : (Survey.ofLines (1 + (before ++ [anchor]).length) after).uses.countP
      (fun r => r.line ≤ 1 + before.length) = 0 := by
    refine List.countP_eq_zero.2 fun r hr => ?_
    have := (line_of_mem_uses hr).1
    simp only [decide_eq_true_eq]
    omega
  rw [hfirst, hsecond, Nat.add_zero]

end Anchor

theorem anchorLine?_eq_none {t : Text} (h : ∀ line ∈ t.lines, isAnchor line = false) :
    anchorLine? t = none := by
  rw [anchorLine?, places_eq_nil h]
  rfl

theorem insertIdx_length_append {α : Type} (x y : List α) (a : α) :
    (x ++ y).insertIdx x.length a = x ++ a :: y := by
  induction x with
  | nil => rfl
  | cons b x ih => rw [List.cons_append, List.length_cons, List.insertIdx_succ_cons, ih]; rfl

/-! ## One addition -/

section Step

variable {cr : Text} (hcr : IsEnd cr) {m : Manifest} (hm : IsReadable m) {lines : List Text}
include hcr hm

theorem importPairs_withImport :
    (withImport cr m lines).filterMap importPair? = lines.filterMap importPair? ++
      if (Survey.ofLines 1 lines).hasImport m.variableName then []
      else [(m.variableName, m.importPath)] := by
  by_cases h : (Survey.ofLines 1 lines).hasImport m.variableName
  · rw [withImport, if_pos h, if_pos h, List.append_nil]
  · have hnot : ¬Imports lines m.variableName := by rwa [← hasImport_ofLines 1]
    rw [if_neg h, withImport_eq_importAll hnot]
    obtain ⟨before, after, rfl, hsplit⟩ := exists_importSplit lines
    have hafter : after.filterMap importPair? = [] := by
      refine List.filterMap_eq_nil_iff.2 fun line hline => ?_
      cases hk : lineKind line with
      | importOf name path =>
        have hno := hsplit.rest line hline
        rw [isImport_of_lineKind hk] at hno
        cases hno
      | useOf name => rw [importPair?, hk]
      | other => rw [importPair?, hk]
    have hnew : importPair? (m.importStatement ++ cr) = some (m.variableName, m.importPath) := by
      rw [importPair?, lineKind_importStatement hm hcr.isBlank]
    rw [importAll_append hsplit]
    simp [List.filterMap_append, hafter, Addition.importLine, hnew]

/-- Registering a module leaves the imports as they are. -/
theorem importPairs_withUse (hs : Separated lines) :
    (withUse cr m lines).filterMap importPair? = lines.filterMap importPair? := by
  rcases withUse_cases cr m lines with hu | ⟨before, anchor, after, rfl, hl, -, hu⟩
  · rw [hu]
  · have hkind : lineKind (unterminated anchor) = lineKind anchor :=
      lineKind_unterminated fun _ => hs.not_opensImport (by simp) hl
    have hlink : importPair? (registration m cr (isTerminated anchor)) = none := by
      rw [importPair?, lineKind_registration m hcr hm.name]
    rw [hu, linked]
    simp [List.filterMap_append, List.filterMap_cons, importPair?_congr hkind, hlink]

/-- Whether a line is an anchor or registers something. -/
def isMarked (line : Text) : Bool := isAnchor line || (useName? line).isSome

omit hcr hm in
theorem filterMap_filter_isMarked (lines : List Text) :
    (lines.filter isMarked).filterMap useName? = lines.filterMap useName? := by
  rw [List.filterMap_filter]
  refine List.filterMap_congr fun line _ => ?_
  split
  · rfl
  · rename_i h
    simp only [isMarked, Bool.or_eq_true, not_or, Option.not_isSome_iff_eq_none] at h
    exact h.2.symm

theorem filter_isMarked_withImport (lines : List Text) :
    (withImport cr m lines).filter isMarked = lines.filter isMarked := by
  refine filter_withImport ?_ lines
  rw [isMarked, isAnchor_importStatement hcr hm, useName?, lineKind_importStatement hm hcr.isBlank]
  rfl

theorem useNames_withImport :
    (withImport cr m lines).filterMap useName? = lines.filterMap useName? := by
  rw [← filterMap_filter_isMarked, filter_isMarked_withImport hcr hm, filterMap_filter_isMarked]

/-- The registrations around the last anchor are the same with the import put in. -/
theorem exists_anchor_withImport {before after : List Text} {anchor : Text}
    (hlines : lines = before ++ anchor :: after) (hl : isAnchor anchor)
    (ha : ∀ line ∈ after, isAnchor line = false) :
    ∃ before' after', withImport cr m lines = before' ++ anchor :: after' ∧
      (∀ line ∈ after', isAnchor line = false) ∧
      before'.filterMap useName? = before.filterMap useName? ∧
      after'.filterMap useName? = after.filterMap useName? := by
  have hmem : anchor ∈ withImport cr m lines := mem_withImport (by simp [hlines])
  have hsome : splitLast? isAnchor (withImport cr m lines) ≠ none := by
    intro hnone
    rw [splitLast?_eq_none_iff.1 hnone anchor hmem] at hl
    cases hl
  obtain ⟨⟨before', anchor', after'⟩, hsplit⟩ := Option.ne_none_iff_exists'.1 hsome
  obtain ⟨hw, hl', ha'⟩ := eq_append_of_splitLast? hsplit
  -- both splits are the last one of the same marked lines
  have hmarked := filter_isMarked_withImport hcr hm lines
  have hkeep : ∀ {line : Text}, isAnchor line → isMarked line := by
    intro line h
    rw [isMarked, h, Bool.true_or]
  have hrest : ∀ {ls : List Text}, (∀ line ∈ ls, isAnchor line = false) →
      ∀ line ∈ ls.filter isMarked, isAnchor line = false :=
    fun h line hline => h line (List.mem_filter.1 hline).1
  rw [hw, hlines, List.filter_append, List.filter_append, List.filter_cons_of_pos (hkeep hl'),
    List.filter_cons_of_pos (hkeep hl)] at hmarked
  have hlast := congrArg (splitLast? isAnchor) hmarked
  rw [splitLast?_append hl' (hrest ha'), splitLast?_append hl (hrest ha)] at hlast
  simp only [Option.some.injEq, Prod.mk.injEq] at hlast
  obtain ⟨hbefore, rfl, hafter⟩ := hlast
  refine ⟨before', after', hw, ha', ?_, ?_⟩
  · rw [← filterMap_filter_isMarked, hbefore, filterMap_filter_isMarked]
  · rw [← filterMap_filter_isMarked, hafter, filterMap_filter_isMarked]

/-- A module that is not registered yet is registered behind the anchor's registrations. -/
theorem useNames_wired (hs : Separated lines) {before after : List Text} {anchor : Text}
    (hlines : lines = before ++ anchor :: after) (hl : isAnchor anchor)
    (ha : ∀ line ∈ after, isAnchor line = false) (hnot : ¬Registers lines m.variableName) :
    (wired cr m lines).filterMap useName? = (before ++ [anchor]).filterMap useName? ++
      m.variableName :: after.filterMap useName? := by
  obtain ⟨before', after', hw, ha', hbefore, hafter⟩ :=
    exists_anchor_withImport hcr hm hlines hl ha
  have hnot' : ¬Registers (before' ++ anchor :: after') m.variableName := by
    rwa [← hw, registers_withImport hcr hm]
  have hkind : lineKind (unterminated anchor) = lineKind anchor :=
    lineKind_unterminated fun _ => hs.not_opensImport (by simp [hlines]) hl
  have hlink : useName? (registration m cr (isTerminated anchor)) = some m.variableName := by
    rw [useName?, lineKind_registration m hcr hm.name]
  rw [wired, hw, withUse_append hl ha' hnot', linked]
  simp only [List.filterMap_append, List.filterMap_cons, List.filterMap_nil, useName?_congr hkind,
    hlink, hbefore, hafter, List.append_assoc]
  cases useName? anchor <;> rfl

end Step

/-- The flags of an addition say what was missing and could be put in. -/
theorem flags_upsert {m : Manifest} (hm : IsReadable m) (t : Text) :
    (upsert t m).importAdded = !(Survey.ofText t).hasImport m.variableName ∧
      (upsert t m).useAdded =
        (!(Survey.ofText t).hasUse m.variableName && t.lines.any isAnchor) := by
  have hput : (register m.useStatement (lineEnd t) (withImport (lineEnd t) m t.lines)).isSome =
      t.lines.any isAnchor := by
    rw [Bool.eq_iff_iff, List.any_eq_true]
    constructor
    · intro h
      by_contra hnone
      push Not at hnone
      have hun := unanchored_withImport (isEnd_lineEnd t) hm
        fun line hline => Bool.eq_false_iff.2 (hnone line hline)
      rw [register, splitLast?_eq_none_iff.2 hun] at h
      cases h
    · rintro ⟨line, hline, hl⟩
      rcases register_cases m (lineEnd t) (withImport (lineEnd t) m t.lines) with
        ⟨-, hun⟩ | ⟨_, _, _, -, -, -, hr⟩
      · rw [hun line (mem_withImport hline)] at hl
        cases hl
      · rw [hr]
        rfl
  rw [← hput]
  unfold withImport upsert Survey.ofText
  dsimp only
  cases (Survey.ofLines 1 t.lines).hasImport m.variableName <;>
    cases (Survey.ofLines 1 t.lines).hasUse m.variableName <;>
    simp <;> split <;> simp_all

theorem isSome_anchorLine? (t : Text) : (anchorLine? t).isSome = t.lines.any isAnchor := by
  cases hsplit : splitLast? isAnchor t.lines with
  | none =>
    have hun := splitLast?_eq_none_iff.1 hsplit
    rw [anchorLine?_eq_none hun]
    simpa using hun
  | some found =>
    obtain ⟨before, anchor, after⟩ := found
    obtain ⟨ht, hl, ha⟩ := eq_append_of_splitLast? hsplit
    rw [anchorLine?_eq ht hl ha, ht]
    simp [hl]

section Upsert

variable {t : Text} {m : Manifest} (hm : IsReadable m) (hs : Separated t.lines)
include hm hs

theorem importPairs_upsert : (Survey.ofText (upsert t m).text).importPairs =
    (Survey.ofText t).importPairs ++
      (if (Survey.ofText t).hasImport m.variableName then []
      else [(m.variableName, m.importPath)]) := by
  have hcr := isEnd_lineEnd t
  have hold : (Survey.ofText t).importPairs = t.lines.filterMap importPair? :=
    importPairs_ofLines 1 _
  rw [Survey.ofText, lines_upsert hm t, importPairs_ofLines, hold, wired,
    importPairs_withUse hcr hm (separated_withImport hcr hm hs)]
  exact importPairs_withImport hcr hm

theorem useNames_upsert : (Survey.ofText (upsert t m).text).useNames =
    match anchorLine? t with
    | some line =>
      if (Survey.ofText t).hasUse m.variableName then (Survey.ofText t).useNames
      else (Survey.ofText t).useNames.insertIdx ((Survey.ofText t).usesUpTo line) m.variableName
    | none => (Survey.ofText t).useNames := by
  have hcr := isEnd_lineEnd t
  have hold : (Survey.ofText t).useNames = t.lines.filterMap useName? := useNames_ofLines 1 _
  have hnew : (Survey.ofText (upsert t m).text).useNames =
      (wired (lineEnd t) m t.lines).filterMap useName? := by
    rw [← lines_upsert hm t]
    exact useNames_ofLines 1 _
  cases hsplit : splitLast? isAnchor t.lines with
  | none =>
    have hun := splitLast?_eq_none_iff.1 hsplit
    rw [anchorLine?_eq_none hun, hnew, hold, wired,
      withUse_of_unanchored (unanchored_withImport hcr hm hun), useNames_withImport hcr hm]
  | some found =>
    obtain ⟨before, anchor, after⟩ := found
    obtain ⟨ht, hl, ha⟩ := eq_append_of_splitLast? hsplit
    rw [anchorLine?_eq ht hl ha]
    dsimp only
    split
    · rename_i hhas
      have hreg : Registers (withImport (lineEnd t) m t.lines) m.variableName :=
        (registers_withImport hcr hm).2 ((hasUse_ofLines 1 _ _).1 hhas)
      rw [hnew, hold, wired, withUse_of_registers hreg, useNames_withImport hcr hm]
    · rename_i hhas
      have hnot : ¬Registers t.lines m.variableName := fun h => hhas ((hasUse_ofLines 1 _ _).2 h)
      have hall : (Survey.ofText t).useNames = (before ++ [anchor]).filterMap useName? ++
          after.filterMap useName? := by
        rw [hold, ht, ← List.filterMap_append]
        simp
      rw [hnew, useNames_wired hcr hm hs ht hl ha hnot, hall, usesUpTo_eq ht,
        insertIdx_length_append]

end Upsert

/-- Adding a module appends its import to the imports and inserts its variable among the
registrations, behind those that stand at or before the last anchor; each happens if it was missing,
and the flags say which of them happened. -/
theorem survey_upsert {t : Text} {m : Manifest} (hm : IsReadable m) (hs : Separated t.lines) :
    let old := Survey.ofText t
    let new := Survey.ofText (upsert t m).text
    let name := m.variableName
    new.importPairs = old.importPairs ++
        (if old.hasImport name then [] else [(name, m.importPath)]) ∧
      new.useNames = (match anchorLine? t with
        | some line =>
          if old.hasUse name then old.useNames
          else old.useNames.insertIdx (old.usesUpTo line) name
        | none => old.useNames) ∧
      (upsert t m).importAdded = !old.hasImport name ∧
      (upsert t m).useAdded = (!old.hasUse name && (anchorLine? t).isSome) := by
  intro old new name
  obtain ⟨himport, huse⟩ := flags_upsert hm t
  refine ⟨importPairs_upsert hm hs, useNames_upsert hm hs, himport, ?_⟩
  rw [huse, isSome_anchorLine?]

/-- An anchor that registers nothing of its own, between two registrations. -/
theorem survey_upsert_factoryAnchor :
    let t : Text := "import aRoutes from './a.routes'\r\napp\r\n  .use(aRoutes)\r\n" ++
      "  .use(makeRoutes());\r\nother.use(cors)\r\n"
    let m : Manifest := ⟨"b", "v1", "bV1", "./x/b.routes", "x", none⟩
    let new := Survey.ofText (upsert t m).text
    IsReadable m ∧ Separated t.lines ∧ anchorLine? t = some 4 ∧
      new.importPairs = [(Text.ofString "aRoutes", Text.ofString "./a.routes"),
        (Text.ofString "bV1", Text.ofString "./x/b.routes")] ∧
      new.useNames = ["aRoutes", "bV1", "cors"] ∧
      (upsert t m).importAdded = true ∧ (upsert t m).useAdded = true := by
  intro t m new
  have hm : IsReadable m := ⟨⟨by decide, by decide⟩, by decide, by decide, by decide, by decide⟩
  have hs : Separated t.lines := by
    unfold Separated
    decide
  obtain ⟨himports, huses, hadded, hused⟩ := survey_upsert hm hs
  exact ⟨hm, hs, by decide +kernel, himports.trans (by decide +kernel),
    huses.trans (by decide +kernel), hadded.trans (by decide +kernel),
    hused.trans (by decide +kernel)⟩

end Routewright.Aggregator
