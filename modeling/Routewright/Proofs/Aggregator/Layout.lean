/-
What a run of additions leaves, said in one piece. The imports of the modules stand in their order
behind the last import that was there before, their registrations in their order behind the last
anchor, the last of them with the semicolon that the anchor gave away. Both places are independent of
each other, which is why one addition after the other comes out as all of them at once.
-/
import Routewright.Proofs.Aggregator.RoundTrip

namespace Routewright.Aggregator

/-! ## The last import -/

/-- Whether a line is an import of a route module. -/
def isImport (line : Text) : Bool :=
  match lineKind line with
  | .importOf _ _ => true
  | _ => false

theorem opensImport_of_isImport {line : Text} (h : isImport line) : opensImport line := by
  unfold isImport at h
  split at h
  · exact opensImport_of_lineKind (by assumption)
  · cases h

theorem isImport_of_lineKind {line name path : Text} (h : lineKind line = .importOf name path) :
    isImport line := by
  rw [isImport, h]

theorem isImport_eq_false_of_useOf {line name : Text} (h : lineKind line = .useOf name) :
    isImport line = false := by
  rw [isImport, h]

theorem places_append (p : Text → Bool) (number : Nat) (x y : List Text) :
    places p number (x ++ y) = places p number x ++ places p (number + x.length) y := by
  induction x generalizing number with
  | nil => rfl
  | cons line x ih =>
    have hnumber : number + (line :: x).length = number + 1 + x.length := by
      simp only [List.length_cons]
      omega
    rw [List.cons_append, places, places, ih, hnumber]
    split
    · rfl
    · rfl

theorem places_eq_nil {p : Text → Bool} {lines : List Text} (h : ∀ line ∈ lines, p line = false)
    (number : Nat) : places p number lines = [] := by
  induction lines generalizing number with
  | nil => rfl
  | cons line lines ih =>
    rw [places, h line List.mem_cons_self, ih fun l hl => h l (List.mem_cons_of_mem _ hl)]
    rfl

/-- Lines taken apart after their last import, or before the first line if there is none. -/
structure ImportSplit (before after : List Text) : Prop where
  last : ∀ line, before.getLast? = some line → isImport line
  rest : ∀ line ∈ after, isImport line = false

theorem exists_importSplit (lines : List Text) :
    ∃ before after, lines = before ++ after ∧ ImportSplit before after := by
  refine ⟨lines.rdropWhile (!isImport ·), lines.rtakeWhile (!isImport ·),
    (List.rdropWhile_append_rtakeWhile ..).symm, fun line hline => ?_, fun line hline => ?_⟩
  · obtain ⟨init, hinit⟩ := List.getLast?_eq_some_iff.1 hline
    have hne : lines.rdropWhile (!isImport ·) ≠ [] := by simp [hinit]
    have hlast := List.rdropWhile_last_not (!isImport ·) lines hne
    simpa [hinit] using hlast
  · simpa using List.mem_rtakeWhile_imp hline

theorem importSplit_concat {last : Text} (hl : isImport last) {after : List Text}
    (hr : ∀ line ∈ after, isImport line = false) (before : List Text) :
    ImportSplit (before ++ [last]) after := by
  refine ⟨fun line hline => ?_, hr⟩
  obtain rfl : last = line := by simpa using hline
  exact hl

theorem ImportSplit.lastImportLine_eq {before after : List Text} (h : ImportSplit before after) :
    (Survey.ofLines 1 (before ++ after)).lastImportLine = before.length := by
  have hplaces : (Survey.ofLines 1 (before ++ after)).imports.map (·.line) =
      places isImport 1 (before ++ after) := by
    have hkeep : (Survey.ofLines 1 (before ++ after)).imports.filter
        (Acceptance.matcher fun _ _ => true) = (Survey.ofLines 1 (before ++ after)).imports :=
      List.filter_eq_self.2 fun _ _ => rfl
    rw [← hkeep]
    exact places_imports (fun _ _ => true) 1 (before ++ after)
  rw [Survey.lastImportLine, ← List.getLast?_map, hplaces, places_append, places_eq_nil h.rest,
    List.append_nil]
  rcases List.eq_nil_or_concat before with rfl | ⟨init, line, rfl⟩
  · rfl
  · -- the last place is that of the last line before the split
    have hline : isImport line := h.last line (by simp)
    have hplace : places isImport (1 + init.length) [line] = [1 + init.length] := by
      rw [places, if_pos hline]
      rfl
    rw [List.concat_eq_append, places_append, hplace, List.getLast?_concat, List.length_append]
    exact Nat.add_comm _ _

/-! ## Additions -/

/-- A module that is added, and what its lines end in before their line feed. -/
structure Addition where
  manifest : Manifest
  cr : Text

namespace Addition

def importLine (a : Addition) : Text := a.manifest.importStatement ++ a.cr

/-- The line that registers the module, as the last one of a chain or not. -/
def link (a : Addition) (ends : Bool) : Text := registration a.manifest a.cr ends

/-- An addition whose lines are recognised. -/
structure IsSound (a : Addition) : Prop where
  manifest : IsRecognisable a.manifest
  cr : IsEnd a.cr

variable {a : Addition} (ha : a.IsSound)
include ha

theorem IsSound.lineKind_importLine :
    lineKind a.importLine = .importOf a.manifest.variableName a.manifest.importPath :=
  lineKind_importStatement ha.manifest.toIsReadable ha.cr.isBlank

theorem IsSound.lineKind_link (ends : Bool) :
    lineKind (a.link ends) = .useOf a.manifest.variableName :=
  lineKind_registration a.manifest ha.cr ha.manifest.name ends

theorem IsSound.isAnchor_importLine : isAnchor a.importLine = false :=
  isAnchor_importStatement ha.cr ha.manifest.toIsReadable

end Addition

/-- The lines with the imports of some modules behind the last one. -/
def importAll (added : List Addition) (lines : List Text) : List Text :=
  lines.take (Survey.ofLines 1 lines).lastImportLine ++ added.map (·.importLine) ++
    lines.drop (Survey.ofLines 1 lines).lastImportLine

/-- The registrations of some modules in order; the last one ends the chain, or none does. -/
def links : List Addition → Bool → List Text
  | [], _ => []
  | a :: rest, ends => a.link (ends && rest.isEmpty) :: links rest ends

/-- The lines with the registrations of some modules behind the last anchor, if there is one. -/
def linkAll : List Addition → List Text → List Text
  | [], lines => lines
  | a :: rest, lines =>
    match splitLast? isAnchor lines with
    | some (before, anchor, after) =>
      before ++ unterminated anchor :: (links (a :: rest) (isTerminated anchor) ++ after)
    | none => lines

theorem links_concat (added : List Addition) (a : Addition) (ends : Bool) :
    links (added ++ [a]) ends = links added false ++ [a.link ends] := by
  induction added with
  | nil => simp [links]
  | cons b added ih =>
    have hmore : (added ++ [a]).isEmpty = false := by simp
    rw [List.cons_append, links, links, ih, hmore, Bool.and_false, Bool.false_and, List.cons_append]

theorem exists_link_of_mem_links {added : List Addition} {ends : Bool} {line : Text}
    (h : line ∈ links added ends) : ∃ a ∈ added, ∃ last, line = a.link last := by
  induction added with
  | nil => cases h
  | cons a added ih =>
    rcases List.mem_cons.1 h with rfl | h
    · exact ⟨a, List.mem_cons_self, _, rfl⟩
    · obtain ⟨b, hb, last, hlast⟩ := ih h
      exact ⟨b, List.mem_cons_of_mem _ hb, last, hlast⟩

theorem importAll_append {before after : List Text} (h : ImportSplit before after)
    (added : List Addition) :
    importAll added (before ++ after) = before ++ (added.map (·.importLine) ++ after) := by
  rw [importAll, h.lastImportLine_eq, List.take_left, List.drop_left, List.append_assoc]

theorem linkAll_append {added : List Addition} (hne : added ≠ []) {anchor : Text}
    {after : List Text} (hl : isAnchor anchor) (ha : ∀ line ∈ after, isAnchor line = false)
    (before : List Text) : linkAll added (before ++ anchor :: after) =
      before ++ unterminated anchor :: (links added (isTerminated anchor) ++ after) := by
  cases added with
  | nil => exact absurd rfl hne
  | cons a rest => rw [linkAll, splitLast?_append hl ha]

theorem linkAll_of_unanchored {lines : List Text} (h : ∀ line ∈ lines, isAnchor line = false)
    (added : List Addition) : linkAll added lines = lines := by
  cases added with
  | nil => rfl
  | cons a rest => rw [linkAll, splitLast?_eq_none_iff.2 h]

/-- Every line was there, or is the last anchor without its semicolon, or registers a module. -/
theorem of_mem_linkAll {added : List Addition} {lines : List Text} {line : Text}
    (h : line ∈ linkAll added lines) : line ∈ lines ∨
      (∃ anchor, lastAnchor? lines = some anchor ∧ line = unterminated anchor) ∨
        ∃ a ∈ added, ∃ ends, line = a.link ends := by
  cases hlast : lastAnchor? lines with
  | none =>
    rw [linkAll_of_unanchored (lastAnchor?_eq_none_iff.1 hlast)] at h
    exact .inl h
  | some anchor =>
    obtain ⟨before, after, rfl, hl, ha⟩ := eq_append_of_lastAnchor? hlast
    by_cases hne : added = []
    · subst hne
      exact .inl h
    · rw [linkAll_append hne hl ha] at h
      rcases List.mem_append.1 h with h | h
      · exact .inl (List.mem_append_left _ h)
      · rcases List.mem_cons.1 h with rfl | h
        · exact .inr (.inl ⟨anchor, rfl, rfl⟩)
        · rcases List.mem_append.1 h with h | h
          · exact .inr (.inr (exists_link_of_mem_links h))
          · exact .inl (by simp [h])

/-! ## Clear lines -/

theorem isImport_eq_false_of_not_opensImport {line : Text} (h : opensImport line = false) :
    isImport line = false := by
  refine Bool.eq_false_iff.2 fun hi => ?_
  rw [opensImport_of_isImport hi] at h
  cases h

section Sound

variable {added : List Addition} (hadded : ∀ a ∈ added, a.IsSound) {lines : List Text}
include hadded

theorem filter_isAnchor_importAll (lines : List Text) :
    (importAll added lines).filter isAnchor = lines.filter isAnchor := by
  have himports : (added.map (·.importLine)).filter isAnchor = [] := by
    rw [List.filter_eq_nil_iff]
    intro line hline
    obtain ⟨a, ha, rfl⟩ := List.mem_map.1 hline
    rw [(hadded a ha).isAnchor_importLine]
    simp
  rw [importAll, List.filter_append, List.filter_append, himports, List.append_nil,
    ← List.filter_append, List.take_append_drop]

theorem lastAnchor?_importAll (lines : List Text) :
    lastAnchor? (importAll added lines) = lastAnchor? lines := by
  rw [lastAnchor?, filter_isAnchor_importAll hadded, lastAnchor?]

theorem isClear_importAll (hc : IsClear lines) : IsClear (importAll added lines) := by
  intro anchor h
  rw [lastAnchor?_importAll hadded] at h
  exact hc anchor h

omit hadded in
theorem of_mem_importAll {line : Text} (h : line ∈ importAll added lines) :
    line ∈ lines ∨ ∃ a ∈ added, line = a.importLine := by
  rw [importAll, List.append_assoc] at h
  rcases List.mem_append.1 h with h | h
  · exact .inl (List.mem_of_mem_take h)
  · rcases List.mem_append.1 h with h | h
    · obtain ⟨a, ha, rfl⟩ := List.mem_map.1 h
      exact .inr ⟨a, ha, rfl⟩
    · exact .inl (List.mem_of_mem_drop h)

omit hadded in
theorem importLine_mem_importAll {a : Addition} (ha : a ∈ added) (lines : List Text) :
    a.importLine ∈ importAll added lines := by
  rw [importAll, List.append_assoc]
  exact List.mem_append_right _ (List.mem_append_left _ (List.mem_map_of_mem ha))

theorem isImport_eq_false_of_mem_links {ends : Bool} {line : Text} (h : line ∈ links added ends) :
    isImport line = false := by
  obtain ⟨a, ha, last, rfl⟩ := exists_link_of_mem_links h
  exact isImport_eq_false_of_useOf ((hadded a ha).lineKind_link last)

/-- Registering modules leaves the imports as they are. -/
theorem filter_isImport_linkAll (hc : IsClear lines) :
    (linkAll added lines).filter isImport = lines.filter isImport := by
  cases hlast : lastAnchor? lines with
  | none => rw [linkAll_of_unanchored (lastAnchor?_eq_none_iff.1 hlast)]
  | some anchor =>
    have ho := hc anchor hlast
    obtain ⟨before, after, rfl, hl, ha⟩ := eq_append_of_lastAnchor? hlast
    by_cases hne : added = []
    · rw [hne, linkAll]
    · have hlinks : (links added (isTerminated anchor)).filter isImport = [] := by
        rw [List.filter_eq_nil_iff]
        intro line hline
        rw [isImport_eq_false_of_mem_links hadded hline]
        simp
      have hanchor : isImport anchor = false := isImport_eq_false_of_not_opensImport ho
      have hanchor' : isImport (unterminated anchor) = false :=
        isImport_eq_false_of_not_opensImport (opensImport_unterminated ho)
      rw [linkAll_append hne hl ha]
      simp [hlinks, hanchor, hanchor']

theorem imports_linkAll_iff (hc : IsClear lines) {name : Text} :
    Imports (linkAll added lines) name ↔ Imports lines name := by
  -- whether a variable is imported is a matter of the imports alone
  have hfilter : ∀ ls : List Text, Imports ls name ↔ Imports (ls.filter isImport) name := by
    intro ls
    constructor
    · rintro ⟨line, hline, path, hk⟩
      exact ⟨line, List.mem_filter.2 ⟨hline, isImport_of_lineKind hk⟩, path, hk⟩
    · rintro ⟨line, hline, path, hk⟩
      exact ⟨line, (List.mem_filter.1 hline).1, path, hk⟩
  rw [hfilter, filter_isImport_linkAll hadded hc, ← hfilter]

theorem registers_of_linkAll (hc : IsClear lines) {name : Text}
    (h : Registers (linkAll added lines) name) :
    Registers lines name ∨ ∃ a ∈ added, a.manifest.variableName = name := by
  obtain ⟨line, hline, hk⟩ := h
  rcases of_mem_linkAll hline with hmem | ⟨anchor, hlast, rfl⟩ | ⟨a, ha, ends, rfl⟩
  · exact .inl ⟨line, hmem, hk⟩
  · obtain ⟨before, after, rfl, -⟩ := eq_append_of_lastAnchor? hlast
    exact .inl ⟨anchor, by simp, by rw [← lineKind_unterminated fun _ => hc anchor hlast, hk]⟩
  · rw [(hadded a ha).lineKind_link] at hk
    exact .inr ⟨a, ha, LineKind.useOf.inj hk⟩

theorem imports_of_importAll {name : Text} (h : Imports (importAll added lines) name) :
    Imports lines name ∨ ∃ a ∈ added, a.manifest.variableName = name := by
  obtain ⟨line, hline, path, hk⟩ := h
  rcases of_mem_importAll hline with hmem | ⟨a, ha, rfl⟩
  · exact .inl ⟨line, hmem, path, hk⟩
  · rw [(hadded a ha).lineKind_importLine] at hk
    exact .inr ⟨a, ha, (LineKind.importOf.inj hk).1⟩

theorem registers_of_importAll {name : Text} (h : Registers (importAll added lines) name) :
    Registers lines name := by
  obtain ⟨line, hline, hk⟩ := h
  rcases of_mem_importAll hline with hmem | ⟨a, ha, rfl⟩
  · exact ⟨line, hmem, hk⟩
  · rw [(hadded a ha).lineKind_importLine] at hk
    cases hk

/-- The imports of more modules follow those of the first ones. -/
theorem importAll_importAll (more : List Addition) (lines : List Text) :
    importAll more (importAll added lines) = importAll (added ++ more) lines := by
  obtain ⟨before, after, rfl, hsplit⟩ := exists_importSplit lines
  have hnext : ImportSplit (before ++ added.map (·.importLine)) after := by
    rcases List.eq_nil_or_concat added with rfl | ⟨init, a, rfl⟩
    · simpa using hsplit
    · have himport := isImport_of_lineKind (hadded a (by simp)).lineKind_importLine
      simpa using importSplit_concat himport hsplit.rest (before ++ init.map (·.importLine))
  rw [importAll_append hsplit, importAll_append hsplit, ← List.append_assoc,
    importAll_append hnext]
  simp

section Independent

variable {imported : List Addition} (himported : ∀ a ∈ imported, a.IsSound) (hne : added ≠ [])
  {anchor : Text} (hl : isAnchor anchor) (ho : opensImport anchor = false)
include himported hne hl ho

omit himported hne hl in
theorem isImport_eq_false_of_mem_block {ends : Bool} {line : Text}
    (h : line ∈ unterminated anchor :: links added ends) : isImport line = false := by
  rcases List.mem_cons.1 h with rfl | h
  · exact isImport_eq_false_of_not_opensImport (opensImport_unterminated ho)
  · exact isImport_eq_false_of_mem_links hadded h

omit himported in
theorem importAll_linkAll_of_before {x z after : List Text}
    (hsplit : ImportSplit x (z ++ anchor :: after))
    (ha : ∀ line ∈ after, isAnchor line = false) :
    importAll imported (linkAll added (x ++ (z ++ anchor :: after))) =
      linkAll added (importAll imported (x ++ (z ++ anchor :: after))) := by
  have hsplit' : ImportSplit x
      (z ++ unterminated anchor :: (links added (isTerminated anchor) ++ after)) := by
    refine ⟨hsplit.last, fun line hline => ?_⟩
    rw [← List.cons_append] at hline
    rcases List.mem_append.1 hline with h | h
    · exact hsplit.rest line (by simp [h])
    · rcases List.mem_append.1 h with h | h
      · exact isImport_eq_false_of_mem_block hadded ho h
      · exact hsplit.rest line (by simp [h])
  have hlines : x ++ (z ++ anchor :: after) = (x ++ z) ++ anchor :: after := by simp
  have hlines' : x ++ (imported.map (·.importLine) ++ (z ++ anchor :: after)) =
      (x ++ imported.map (·.importLine) ++ z) ++ anchor :: after := by simp
  rw [importAll_append hsplit, hlines', linkAll_append hne hl ha, hlines, linkAll_append hne hl ha,
    List.append_assoc, importAll_append hsplit']
  simp

omit hadded in
theorem importAll_linkAll_of_behind {before z y : List Text}
    (hsplit : ImportSplit (before ++ anchor :: z) y)
    (ha : ∀ line ∈ z ++ y, isAnchor line = false) :
    importAll imported (linkAll added (before ++ anchor :: (z ++ y))) =
      linkAll added (importAll imported (before ++ anchor :: (z ++ y))) := by
  rcases List.eq_nil_or_concat z with rfl | ⟨init, last, rfl⟩
  · -- the anchor itself would be an import
    have hanchor := hsplit.last anchor (by simp)
    rw [isImport_eq_false_of_not_opensImport ho] at hanchor
    cases hanchor
  rw [List.concat_eq_append] at hsplit ha ⊢
  have hsplit' : ImportSplit (before ++ unterminated anchor ::
      (links added (isTerminated anchor) ++ (init ++ [last]))) y := by
    have hlast : isImport last := hsplit.last last (by simp [List.getLast?_cons])
    simpa using importSplit_concat hlast hsplit.rest
      (before ++ unterminated anchor :: (links added (isTerminated anchor) ++ init))
  have ha' : ∀ line ∈ (init ++ [last]) ++ (imported.map (·.importLine) ++ y),
      isAnchor line = false := by
    intro line hline
    rcases List.mem_append.1 hline with h | h
    · exact ha line (List.mem_append_left _ h)
    · rcases List.mem_append.1 h with h | h
      · obtain ⟨a, himp, rfl⟩ := List.mem_map.1 h
        exact (himported a himp).isAnchor_importLine
      · exact ha line (List.mem_append_right _ h)
  have hlines : before ++ anchor :: ((init ++ [last]) ++ y) =
      (before ++ anchor :: (init ++ [last])) ++ y := by simp
  have hlinked : before ++ unterminated anchor :: (links added (isTerminated anchor) ++
      ((init ++ [last]) ++ y)) = (before ++ unterminated anchor ::
        (links added (isTerminated anchor) ++ (init ++ [last]))) ++ y := by simp
  have himports : (before ++ anchor :: (init ++ [last])) ++ (imported.map (·.importLine) ++ y) =
      before ++ anchor :: ((init ++ [last]) ++ (imported.map (·.importLine) ++ y)) := by simp
  rw [linkAll_append hne hl ha, hlinked, importAll_append hsplit', hlines,
    importAll_append hsplit, himports, linkAll_append hne hl ha']
  simp

end Independent

/-- Imports and registrations are put in independently of each other. -/
theorem importAll_linkAll {imported : List Addition} (himported : ∀ a ∈ imported, a.IsSound)
    (hc : IsClear lines) :
    importAll imported (linkAll added lines) = linkAll added (importAll imported lines) := by
  by_cases hne : added = []
  · rw [hne, linkAll, linkAll]
  cases hlast : lastAnchor? lines with
  | none =>
    have hnone := lastAnchor?_eq_none_iff.1 hlast
    rw [← lastAnchor?_importAll himported] at hlast
    rw [linkAll_of_unanchored hnone, linkAll_of_unanchored (lastAnchor?_eq_none_iff.1 hlast)]
  | some anchor =>
    have ho := hc anchor hlast
    obtain ⟨before, after, rfl, hl, ha⟩ := eq_append_of_lastAnchor? hlast
    obtain ⟨x, y, hxy, hsplit⟩ := exists_importSplit (before ++ anchor :: after)
    -- the anchor stands on one side of the split
    rcases List.append_eq_append_iff.1 hxy with ⟨z, rfl, hz⟩ | ⟨z, rfl, rfl⟩
    · cases z with
      | nil =>
        obtain rfl : anchor :: after = y := hz
        rw [List.append_nil] at hsplit
        exact importAll_linkAll_of_before (z := []) hadded hne hl ho hsplit ha
      | cons first z =>
        obtain ⟨rfl, rfl⟩ := List.cons.inj hz
        exact importAll_linkAll_of_behind himported hne hl ho hsplit ha
    · rw [List.append_assoc]
      exact importAll_linkAll_of_before hadded hne hl ho hsplit ha

omit hadded in
/-- The imports of a layout are those from before and the added ones. -/
theorem filter_isImport_importAll (lines : List Text) :
    ∃ old, ∀ added : List Addition, (∀ a ∈ added, a.IsSound) →
      (importAll added lines).filter isImport = old ++ added.map (·.importLine) := by
  obtain ⟨before, after, rfl, hsplit⟩ := exists_importSplit lines
  refine ⟨before.filter isImport, fun added hadded => ?_⟩
  have hafter : after.filter isImport = [] := by
    rw [List.filter_eq_nil_iff]
    intro line hline
    rw [hsplit.rest line hline]
    simp
  have himports : (added.map (·.importLine)).filter isImport = added.map (·.importLine) := by
    refine List.filter_eq_self.2 fun line hline => ?_
    obtain ⟨a, ha, rfl⟩ := List.mem_map.1 hline
    exact isImport_of_lineKind (hadded a ha).lineKind_importLine
  rw [importAll_append hsplit, List.filter_append, List.filter_append, himports, hafter,
    List.append_nil]

/-! ## One addition more -/

omit hadded in
theorem withImport_eq_importAll {cr : Text} {m : Manifest} (h : ¬Imports lines m.variableName) :
    withImport cr m lines = importAll [⟨m, cr⟩] lines := by
  rw [withImport, if_neg (by rwa [hasImport_ofLines])]
  simp [importAll, Addition.importLine]

theorem withUse_linkAll {a : Addition}
    (h : ¬Registers (linkAll added lines) a.manifest.variableName) :
    withUse a.cr a.manifest (linkAll added lines) = linkAll (added ++ [a]) lines := by
  cases hlast : lastAnchor? lines with
  | none =>
    have hnone := lastAnchor?_eq_none_iff.1 hlast
    rw [linkAll_of_unanchored hnone, linkAll_of_unanchored hnone, withUse_of_unanchored hnone]
  | some anchor =>
    obtain ⟨before, after, rfl, hl, hafter⟩ := eq_append_of_lastAnchor? hlast
    rcases List.eq_nil_or_concat added with rfl | ⟨init, b, rfl⟩
    · rw [linkAll] at h ⊢
      rw [withUse_append hl hafter h, List.nil_append, linkAll_append (by simp) hl hafter]
      simp [linked, links, Addition.link]
    · -- the link that was the last one is the anchor now
      rw [List.concat_eq_append] at hadded h ⊢
      have hb := hadded b (by simp)
      have hlines : linkAll (init ++ [b]) (before ++ anchor :: after) =
          (before ++ unterminated anchor :: links init false) ++
            b.link (isTerminated anchor) :: after := by
        rw [linkAll_append (by simp) hl hafter, links_concat]
        simp
      have hlinked : linked a.manifest a.cr (b.link (isTerminated anchor)) =
          [b.link false, a.link (isTerminated anchor)] := by
        rw [linked, Addition.link, unterminated_registration b.manifest hb.cr,
          isTerminated_registration b.manifest hb.cr]
        rfl
      have hanchor : isAnchor (b.link (isTerminated anchor)) :=
        isAnchor_registration hb.manifest b.cr _
      rw [hlines] at h ⊢
      rw [withUse_append hanchor hafter h, hlinked,
        linkAll_append (by simp) hl hafter, links_concat, links_concat]
      simp

end Sound

/-! ## Equal layouts -/

theorem layout_ne_nil (added : List Addition) {lines : List Text} (h : lines ≠ []) :
    linkAll added (importAll added lines) ≠ [] := by
  have himports : importAll added lines ≠ [] := by
    intro hnil
    simp only [importAll, List.append_eq_nil_iff] at hnil
    rw [← List.take_append_drop (Survey.ofLines 1 lines).lastImportLine lines, hnil.1.1,
      hnil.2] at h
    exact h rfl
  cases hlast : lastAnchor? (importAll added lines) with
  | none => rwa [linkAll_of_unanchored (lastAnchor?_eq_none_iff.1 hlast)]
  | some anchor =>
    obtain ⟨before, after, hsplit, hl, ha⟩ := eq_append_of_lastAnchor? hlast
    by_cases hne : added = []
    · rwa [hne, linkAll, ← hne]
    · rw [hsplit, linkAll_append hne hl ha]
      simp

theorem newline_notMem_layout {added : List Addition} (hadded : ∀ a ∈ added, a.IsSound)
    {lines : List Text} (h : ∀ line ∈ lines, CodePoint.ofChar '\n' ∉ line) :
    ∀ line ∈ linkAll added (importAll added lines), CodePoint.ofChar '\n' ∉ line := by
  have himports : ∀ line ∈ importAll added lines, CodePoint.ofChar '\n' ∉ line := by
    intro line hline
    rcases of_mem_importAll hline with hmem | ⟨a, ha, rfl⟩
    · exact h line hmem
    · have hm := (hadded a ha).manifest
      exact newline_notMem_importStatement hm.name hm.newline (hadded a ha).cr.newline_notMem
  intro line hline
  rcases of_mem_linkAll hline with hmem | ⟨anchor, hlast, rfl⟩ | ⟨a, ha, ends, rfl⟩
  · exact himports line hmem
  · obtain ⟨before, after, hsplit, -⟩ := eq_append_of_lastAnchor? hlast
    exact newline_notMem_unterminated (himports anchor (by simp [hsplit]))
  · exact newline_notMem_registration a.manifest (hadded a ha).cr (hadded a ha).manifest.name ends

/-- The imports show what the lines of each module end in. -/
theorem eq_of_map_importLine {added other : List Addition}
    (hm : added.map (·.manifest) = other.map (·.manifest))
    (hi : added.map (·.importLine) = other.map (·.importLine)) : added = other := by
  induction added generalizing other with
  | nil =>
    cases other with
    | nil => rfl
    | cons b other => cases hm
  | cons a added ih =>
    cases other with
    | nil => cases hm
    | cons b other =>
      obtain ⟨m, cr⟩ := a
      obtain ⟨m', cr'⟩ := b
      obtain ⟨rfl, hmore⟩ := List.cons.inj hm
      obtain ⟨hline, himports⟩ := List.cons.inj hi
      obtain rfl : cr = cr' := List.append_cancel_left hline
      rw [ih hmore himports]

/-- Layouts of the same modules are the same only if the lines of the modules end in the same. -/
theorem layout_inj {added other : List Addition} (hadded : ∀ a ∈ added, a.IsSound)
    (hother : ∀ a ∈ other, a.IsSound) {lines : List Text} (hc : IsClear lines)
    (hm : added.map (·.manifest) = other.map (·.manifest))
    (h : linkAll added (importAll added lines) = linkAll other (importAll other lines)) :
    added = other := by
  refine eq_of_map_importLine hm ?_
  obtain ⟨old, hold⟩ := filter_isImport_importAll lines
  have himports := congrArg (List.filter isImport) h
  rw [filter_isImport_linkAll hadded (isClear_importAll hadded hc),
    filter_isImport_linkAll hother (isClear_importAll hother hc), hold added hadded,
    hold other hother] at himports
  exact List.append_cancel_left himports

/-! ## Runs of additions -/

/-- The additions of a run: the lines of each module end as the text does that it is added to. -/
def additions : Text → List Manifest → List Addition
  | _, [] => []
  | t, m :: ms => ⟨m, lineEnd t⟩ :: additions (upsert t m).text ms

theorem upsertAll_append (t : Text) (ms more : List Manifest) :
    upsertAll t (ms ++ more) = upsertAll (upsertAll t ms) more :=
  List.foldl_append

theorem additions_append (t : Text) (ms more : List Manifest) :
    additions t (ms ++ more) = additions t ms ++ additions (upsertAll t ms) more := by
  induction ms generalizing t with
  | nil => rfl
  | cons m ms ih => rw [List.cons_append, additions, ih, additions, List.cons_append, upsertAll_cons]

theorem map_manifest_additions (t : Text) (ms : List Manifest) :
    (additions t ms).map (·.manifest) = ms := by
  induction ms generalizing t with
  | nil => rfl
  | cons m ms ih => rw [additions, List.map_cons, ih]

theorem manifest_mem_of_mem_additions {t : Text} {ms : List Manifest} {a : Addition}
    (h : a ∈ additions t ms) : a.manifest ∈ ms := by
  have hmem := List.mem_map_of_mem (f := (·.manifest)) h
  rwa [map_manifest_additions] at hmem

theorem exists_addition {t : Text} {ms : List Manifest} {m : Manifest} (h : m ∈ ms) :
    ∃ a ∈ additions t ms, a.manifest = m := by
  rw [← map_manifest_additions t ms] at h
  exact List.mem_map.1 h

theorem isSound_additions {ms : List Manifest} (hms : ∀ m ∈ ms, IsRecognisable m) (t : Text) :
    ∀ a ∈ additions t ms, a.IsSound := by
  induction ms generalizing t with
  | nil => exact fun a ha => absurd ha List.not_mem_nil
  | cons m ms ih =>
    intro a ha
    rcases List.mem_cons.1 ha with rfl | ha
    · exact ⟨hms m List.mem_cons_self, isEnd_lineEnd t⟩
    · exact ih (fun m hm => hms m (List.mem_cons_of_mem _ hm)) _ a ha

/-- A text that holds nothing of some modules with variables of their own. -/
structure Welcomes (lines : List Text) (ms : List Manifest) : Prop where
  clear : IsClear lines
  nodup : (ms.map (·.variableName)).Nodup
  imports : ∀ m ∈ ms, ¬Imports lines m.variableName
  registers : ∀ m ∈ ms, ¬Registers lines m.variableName

/-- What a run of additions leaves: the layout of all of them at once. -/
theorem lines_upsertAll {t : Text} {ms : List Manifest} (hms : ∀ m ∈ ms, IsRecognisable m)
    (hw : Welcomes t.lines ms) : (upsertAll t ms).lines =
      linkAll (additions t ms) (importAll (additions t ms) t.lines) := by
  induction ms using List.reverseRecOn with
  | nil => simp [upsertAll, additions, linkAll, importAll]
  | append_singleton ms m ih =>
    have hsub : ∀ other ∈ ms, other ∈ ms ++ [m] := fun _ h => List.mem_append_left _ h
    have hm : m ∈ ms ++ [m] := by simp
    have hnodup : (ms.map (·.variableName)).Nodup ∧ ∀ other ∈ ms,
        other.variableName ≠ m.variableName := by
      have := hw.nodup
      rw [List.map_append, List.nodup_append] at this
      exact ⟨this.1, fun other h => this.2.2 _ (List.mem_map_of_mem h) _ (by simp)⟩
    have hlines := ih (fun other h => hms other (hsub other h))
      ⟨hw.clear, hnodup.1, fun other h => hw.imports other (hsub other h),
        fun other h => hw.registers other (hsub other h)⟩
    have hsound := isSound_additions (fun other h => hms other (hsub other h)) t
    -- no module so far has the variable of this one
    have hother : ¬∃ a ∈ additions t ms, a.manifest.variableName = m.variableName := by
      rintro ⟨a, ha, hname⟩
      exact hnodup.2 _ (manifest_mem_of_mem_additions ha) hname
    let a : Addition := ⟨m, lineEnd (upsertAll t ms)⟩
    have hlast : a.IsSound := ⟨hms m hm, isEnd_lineEnd _⟩
    have hclear := isClear_importAll hsound hw.clear
    have himports : ¬Imports (linkAll (additions t ms) (importAll (additions t ms) t.lines))
        m.variableName := by
      rw [imports_linkAll_iff hsound hclear]
      intro h
      exact (imports_of_importAll hsound h).elim (hw.imports m hm) hother
    have hsound' : ∀ b ∈ additions t ms ++ [a], b.IsSound := by
      intro b hb
      rcases List.mem_append.1 hb with hb | hb
      · exact hsound b hb
      · rwa [List.mem_singleton.1 hb]
    have hregisters : ¬Registers (linkAll (additions t ms)
        (importAll (additions t ms ++ [a]) t.lines)) m.variableName := by
      intro h
      rcases registers_of_linkAll hsound (isClear_importAll hsound' hw.clear) h with h | h
      · exact hw.registers m hm (registers_of_importAll hsound' h)
      · exact hother h
    have hstep : (upsertAll t (ms ++ [m])).lines =
        wired (lineEnd (upsertAll t ms)) m (upsertAll t ms).lines := by
      rw [upsertAll_append]
      exact lines_upsert (hms m hm).toIsReadable (upsertAll t ms)
    have hadd : additions t (ms ++ [m]) = additions t ms ++ [a] := additions_append t ms [m]
    rw [hstep, hlines, hadd, wired, withImport_eq_importAll himports,
      importAll_linkAll hsound (by simpa using hlast) hclear, importAll_importAll hsound]
    exact withUse_linkAll (a := a) hsound hregisters

end Routewright.Aggregator
