/-
Removing some of the modules that were added. What stays is laid out as if the others had never been
added, whichever of them carried the semicolon. Only what the lines end in can tell: the first
addition may itself bring the first carriage return before a line feed, and if the module that was
added first is removed, the next one keeps an end that it would not have got on its own.
-/
import Mathlib.Data.List.Nodup
import Routewright.Proofs.Aggregator.Layout

namespace Routewright.Aggregator

/-! ## Texts with carriage returns before line feeds -/

theorem endsWith_concat_iff {t piece : Text} {c d : CodePoint} :
    (t ++ [c] : Text).endsWith (piece ++ [d]) ↔ t.endsWith piece ∧ c = d := by
  rw [Text.endsWith_iff, Text.endsWith_iff, ← List.reverse_prefix, ← List.reverse_prefix,
    List.reverse_append, List.reverse_append]
  constructor
  · intro h
    obtain ⟨hcd, h⟩ := List.cons_prefix_cons.1 h
    exact ⟨h, hcd.symm⟩
  · rintro ⟨h, rfl⟩
    exact List.cons_prefix_cons.2 ⟨rfl, h⟩

/-- Whether a line ends in a carriage return. -/
def returns (line : Text) : Bool := line.endsWith "\r"

theorem returns_concat_iff {t : Text} {c : CodePoint} :
    returns (t ++ [c]) ↔ c = CodePoint.ofChar '\r' := by
  have hnil : t.endsWith [] := Text.endsWith_iff.2 List.nil_suffix
  have hconcat : (t ++ [c] : Text).endsWith ([] ++ [CodePoint.ofChar '\r']) ↔
      t.endsWith [] ∧ c = CodePoint.ofChar '\r' := endsWith_concat_iff
  exact hconcat.trans (and_iff_right hnil)

theorem contains_pair_iff {line u : Text} (hline : CodePoint.ofChar '\n' ∉ line) :
    (line ++ CodePoint.ofChar '\n' :: u : Text).contains "\r\n" ↔
      returns line ∨ u.contains "\r\n" := by
  have hpair : Text.ofString "\r\n" = [CodePoint.ofChar '\r', CodePoint.ofChar '\n'] := by decide
  rw [Text.contains_iff, Text.contains_iff, returns, Text.endsWith_iff]
  constructor
  · intro h
    rcases List.infix_append_iff.1 h with h | h | ⟨p₁, p₂, hp, h₁, h₂⟩
    · exact absurd (h.subset (by decide)) hline
    · rcases List.infix_cons_iff.1 h with h | h
      · rw [hpair] at h
        exact absurd (List.cons_prefix_cons.1 h).1 (by decide)
      · exact .inr h
    · -- the pair lies across the end of the line
      refine .inl ?_
      rw [hpair] at hp
      cases p₁ with
      | nil =>
        rw [List.nil_append] at hp
        rw [← hp] at h₂
        exact absurd (List.cons_prefix_cons.1 h₂).1 (by decide)
      | cons c p₁ =>
        obtain ⟨rfl, hrest⟩ := List.cons.inj hp
        cases p₁ with
        | nil => exact h₁
        | cons d p₁ =>
          obtain ⟨rfl, -⟩ := List.cons.inj hrest
          exact absurd (h₁.subset (by simp)) hline
  · rintro (⟨init, rfl⟩ | h)
    · exact ⟨init, u, by simp [Text.ofString]⟩
    · exact h.trans ((List.suffix_cons _ _).trans (List.suffix_append _ _)).isInfix

theorem contains_unlines_iff {lines : List Text} (h : ∀ line ∈ lines, CodePoint.ofChar '\n' ∉ line) :
    (Text.unlines lines).contains "\r\n" ↔ ∃ line ∈ lines.dropLast, returns line := by
  induction lines with
  | nil => decide
  | cons line lines ih =>
    cases lines with
    | nil =>
      have hnone : Text.contains line "\r\n" = false :=
        Text.contains_eq_false_of_notMem (c := CodePoint.ofChar '\n') (by decide)
          (h line List.mem_cons_self)
      simp [Text.unlines, Text.join, hnone]
    | cons next rest =>
      rw [Text.unlines_cons_cons, contains_pair_iff (h line List.mem_cons_self),
        ih fun l hl => h l (List.mem_cons_of_mem _ hl)]
      simp [List.dropLast_cons_cons]

/-- A text has an end for its lines exactly if some line before the last one ends in a carriage
return. -/
theorem lineEnd_eq_return_iff {t : Text} :
    lineEnd t = ("\r" : Text) ↔ ∃ line ∈ t.lines.dropLast, returns line := by
  rw [← contains_unlines_iff fun _ => Text.newline_notMem_of_mem_lines, Text.unlines_lines, lineEnd]
  cases t.contains "\r\n"
  · decide
  · decide

theorem lineEnd_cases (t : Text) : lineEnd t = ("\r" : Text) ∨ lineEnd t = [] := by
  unfold lineEnd
  split
  · exact .inl rfl
  · exact .inr rfl

/-- No line returns in a text without an end for its lines that does not end in a carriage return
itself. -/
theorem returns_eq_false_of_mem_lines {t : Text} (h : lineEnd t = []) (hend : returns t = false) :
    ∀ line ∈ t.lines, returns line = false := by
  intro line hline
  refine Bool.eq_false_iff.2 fun hr => ?_
  rcases List.eq_nil_or_concat t.lines with hnil | ⟨init, last, hlines⟩
  · exact Text.lines_ne_nil t hnil
  · rw [List.concat_eq_append] at hlines
    rw [hlines] at hline
    rcases List.mem_append.1 hline with hmem | hmem
    · have hreturn : lineEnd t = ("\r" : Text) := by
        rw [lineEnd_eq_return_iff, hlines, List.dropLast_concat]
        exact ⟨line, hmem, hr⟩
      rw [h] at hreturn
      cases hreturn
    · -- the last line ends as the text does
      obtain rfl := List.mem_singleton.1 hmem
      have hsuffix : line <:+ t := by
        rw [← Text.unlines_lines t, hlines]
        exact Text.suffix_unlines_concat init line
      have hends := (Text.endsWith_iff.1 hr).trans hsuffix
      rw [returns, Text.endsWith_iff.2 hends] at hend
      cases hend

/-! ## Line ends after an addition -/

/-- A line returns without its semicolon if it did before, or if the semicolon stood right behind a
carriage return. -/
theorem returns_unterminated_iff {line : Text} :
    returns (unterminated line) ↔ returns line ∨ line.endsWith "\r;" := by
  have hpiece : Text.ofString "\r;" = Text.ofString "\r" ++ [CodePoint.ofChar ';'] := by decide
  unfold unterminated
  split
  · rename_i ht
    obtain ⟨code, blanks, rfl, hb⟩ := isTerminated_iff.1 ht
    rw [dropTerminator_terminated code hb, hpiece]
    rcases List.eq_nil_or_concat blanks with rfl | ⟨init, c, rfl⟩
    · have hcode : returns (code ++ [CodePoint.ofChar ';']) = false := by
        rw [Bool.eq_false_iff, ne_eq, returns_concat_iff]
        decide
      rw [hcode, endsWith_concat_iff, List.append_nil, returns]
      simp
    · -- the end of the line is behind the semicolon, and stays
      have hc : c ≠ CodePoint.ofChar ';' := by
        rintro rfl
        exact absurd (hb (CodePoint.ofChar ';') (by simp)) (by decide)
      have hlong : code ++ CodePoint.ofChar ';' :: (init ++ [c]) =
          (code ++ CodePoint.ofChar ';' :: init) ++ [c] := by simp
      rw [List.concat_eq_append, ← List.append_assoc, returns_concat_iff, hlong,
        returns_concat_iff, endsWith_concat_iff]
      simp [hc]
  · rename_i ht
    have hnot : line.endsWith "\r;" = false := by
      refine Bool.eq_false_iff.2 fun h => ht ?_
      obtain ⟨code, rfl⟩ := Text.endsWith_iff.1 h
      exact isTerminated_iff.2 ⟨code ++ Text.ofString "\r", [], by simp [Text.ofString], by simp⟩
    simp [hnot]

theorem mem_dropLast_of_sublist {x y : List Text} (h : x.Sublist y) {line : Text}
    (hline : line ∈ x.dropLast) : line ∈ y.dropLast := by
  have htail := h.reverse.tail
  rw [List.tail_reverse, List.tail_reverse] at htail
  exact (List.reverse_sublist.1 htail).subset hline

theorem sublist_withImport (cr : Text) (m : Manifest) (lines : List Text) :
    lines.Sublist (withImport cr m lines) := by
  unfold withImport
  dsimp only
  split
  · exact List.Sublist.refl lines
  · conv_lhs => rw [← List.take_append_drop (Survey.ofLines 1 lines).lastImportLine lines]
    exact (List.Sublist.refl _).append (List.sublist_cons_self _ _)

/-- A text keeps its end for lines. -/
theorem lineEnd_upsert_of_return {t : Text} {m : Manifest} (hm : IsReadable m)
    (h : lineEnd t = ("\r" : Text)) : lineEnd (upsert t m).text = ("\r" : Text) := by
  obtain ⟨line, hline, hr⟩ := lineEnd_eq_return_iff.1 h
  have himport := mem_dropLast_of_sublist (sublist_withImport (lineEnd t) m t.lines) hline
  rw [lineEnd_eq_return_iff, lines_upsert hm, wired]
  rcases withUse_cases (lineEnd t) m (withImport (lineEnd t) m t.lines) with
    hu | ⟨before, anchor, after, hlines, -, -, hu⟩
  · rw [hu]
    exact ⟨line, himport, hr⟩
  · -- if the anchor is the line, it still returns
    have hkept : ∃ other ∈ (before ++ unterminated anchor :: after).dropLast, returns other := by
      rw [hlines] at himport
      cases after with
      | nil =>
        rw [List.dropLast_concat] at himport ⊢
        exact ⟨line, himport, hr⟩
      | cons next rest =>
        rw [List.dropLast_append_of_ne_nil (by simp), List.dropLast_cons_cons] at himport ⊢
        rcases List.mem_append.1 himport with hmem | hmem
        · exact ⟨line, List.mem_append_left _ hmem, hr⟩
        · rcases List.mem_cons.1 hmem with rfl | hmem
          · exact ⟨unterminated line, by simp, returns_unterminated_iff.2 (.inl hr)⟩
          · exact ⟨line, by simp [hmem], hr⟩
    obtain ⟨other, hother, hr'⟩ := hkept
    refine ⟨other, mem_dropLast_of_sublist ?_ hother, hr'⟩
    rw [hu, linked, List.append_assoc]
    exact (List.Sublist.refl before).append ((List.sublist_cons_self _ after).cons_cons _)

/-- A text without an end for its lines whose last anchor brings one when it gives its semicolon
away. -/
def GainsReturn (t : Text) : Prop :=
  lineEnd t = [] ∧ ∃ anchor, lastAnchor? t.lines = some anchor ∧ anchor.endsWith "\r;"

theorem lineEnd_upsert_of_gainsReturn {t : Text} {m : Manifest} (hm : IsReadable m)
    (hu : ¬Registers t.lines m.variableName) (h : GainsReturn t) :
    lineEnd (upsert t m).text = ("\r" : Text) := by
  obtain ⟨-, anchor, hlast, hends⟩ := h
  have hcr := isEnd_lineEnd t
  rw [← lastAnchor?_withImport hm hcr] at hlast
  obtain ⟨before, after, hlines, hl, ha⟩ := eq_append_of_lastAnchor? hlast
  rw [← registers_withImport hcr hm, hlines] at hu
  rw [lineEnd_eq_return_iff, lines_upsert hm, wired, hlines, withUse_append hl ha hu, linked,
    List.append_assoc, List.dropLast_append_of_ne_nil (by simp)]
  exact ⟨unterminated anchor, by simp, returns_unterminated_iff.2 (.inr hends)⟩

/-- A text whose line ends the additions do not change: there is one already, or nothing brings one
in. -/
def Steady (t : Text) : Prop :=
  lineEnd t = ("\r" : Text) ∨ ((∀ line ∈ t.lines, returns line = false) ∧
    ∀ anchor, lastAnchor? t.lines = some anchor → anchor.endsWith "\r;" = false)

theorem steady_of_not_gainsReturn {t : Text} (hend : returns t = false) (h : ¬GainsReturn t) :
    Steady t := by
  rcases lineEnd_cases t with hr | hnone
  · exact .inl hr
  · refine .inr ⟨returns_eq_false_of_mem_lines hnone hend, fun anchor hlast => ?_⟩
    exact Bool.eq_false_iff.2 fun hends => h ⟨hnone, anchor, hlast, hends⟩

theorem lineEnd_eq_nil {t : Text} (h : ∀ line ∈ t.lines, returns line = false) :
    lineEnd t = [] := by
  rcases lineEnd_cases t with hr | hnone
  · obtain ⟨line, hline, hreturns⟩ := lineEnd_eq_return_iff.1 hr
    rw [h line ((List.dropLast_sublist _).subset hline)] at hreturns
    cases hreturns
  · exact hnone

theorem returns_importStatement (m : Manifest) : returns (m.importStatement ++ []) = false := by
  have hm : m.importStatement = (("import " : Text) ++ m.variableName ++ (" from \"" : Text) ++
      m.importPath ++ ("\"" : Text)) ++ [CodePoint.ofChar ';'] := by
    simp [Manifest.importStatement, Text.ofString]
  rw [List.append_nil, hm, Bool.eq_false_iff, ne_eq, returns_concat_iff]
  decide

theorem returns_useStatement (m : Manifest) : returns m.useStatement = false := by
  rw [useStatement_eq, ← List.append_assoc, Bool.eq_false_iff, ne_eq, returns_concat_iff]
  decide

/-- A registration without an end for its line brings none in, now or later. -/
theorem returns_registration (m : Manifest) (ends : Bool) :
    returns (registration m [] ends) = false ∧
      (registration m [] ends).endsWith "\r;" = false := by
  have huse := returns_useStatement m
  have hpiece : Text.ofString "\r;" = Text.ofString "\r" ++ [CodePoint.ofChar ';'] := by decide
  cases ends
  · have hreg : registration m [] false = m.useStatement := by simp [registration]
    rw [hreg, hpiece, useStatement_eq, ← List.append_assoc, Bool.eq_false_iff, Bool.eq_false_iff,
      ne_eq, ne_eq, returns_concat_iff, endsWith_concat_iff]
    exact ⟨by decide, fun h => absurd h.2 (by decide)⟩
  · have hreg : registration m [] true = m.useStatement ++ [CodePoint.ofChar ';'] := by
      simp [registration, Text.ofString]
    rw [hreg, hpiece, Bool.eq_false_iff, Bool.eq_false_iff, ne_eq, ne_eq, returns_concat_iff,
      endsWith_concat_iff]
    refine ⟨by decide, fun h => ?_⟩
    rw [returns, h.1] at huse
    cases huse

theorem steady_upsert {t : Text} {m : Manifest} (hm : IsRecognisable m) (h : Steady t) :
    Steady (upsert t m).text ∧ lineEnd (upsert t m).text = lineEnd t := by
  rcases h with hr | ⟨hlines, hanchor⟩
  · have hnext := lineEnd_upsert_of_return hm.toIsReadable hr
    exact ⟨.inl hnext, by rw [hnext, hr]⟩
  have hnone := lineEnd_eq_nil hlines
  have hlast := lastAnchor?_withImport hm.toIsReadable (isEnd_lineEnd t) t.lines
  have himport : ∀ line ∈ withImport (lineEnd t) m t.lines, returns line = false := by
    intro line hline
    rcases of_mem_withImport hline with hmem | rfl
    · exact hlines line hmem
    · rw [hnone]
      exact returns_importStatement m
  suffices hwired : (∀ line ∈ wired (lineEnd t) m t.lines, returns line = false) ∧
      ∀ anchor, lastAnchor? (wired (lineEnd t) m t.lines) = some anchor →
        anchor.endsWith "\r;" = false by
    rw [← lines_upsert hm.toIsReadable] at hwired
    exact ⟨.inr hwired, by rw [lineEnd_eq_nil hwired.1, hnone]⟩
  rw [wired]
  rcases withUse_cases (lineEnd t) m (withImport (lineEnd t) m t.lines) with
    hu | ⟨before, anchor, after, hsplit, hl, ha, hu⟩
  · rw [hu, hlast]
    exact ⟨himport, hanchor⟩
  · rw [hsplit] at himport hlast
    rw [lastAnchor?_append hl ha] at hlast
    rw [hu, lastAnchor?_linked hm _ _ before ha, hnone]
    refine ⟨fun line hline => ?_, fun other hother => ?_⟩
    · rcases mem_append_linked_iff.1 hline with hmem | rfl | rfl | hmem
      · exact himport line (by simp [hmem])
      · -- the anchor has no carriage return before its semicolon
        refine Bool.eq_false_iff.2 fun hreturns => ?_
        rcases returns_unterminated_iff.1 hreturns with h | h
        · rw [himport anchor (by simp)] at h
          cases h
        · rw [hanchor anchor hlast.symm] at h
          cases h
      · exact (returns_registration m _).1
      · exact himport line (by simp [hmem])
    · obtain rfl := Option.some.inj hother
      exact (returns_registration m _).2

section Ends

variable {t : Text} {ms : List Manifest} (hms : ∀ m ∈ ms, IsRecognisable m)
include hms

theorem additions_of_steady (h : Steady t) :
    additions t ms = ms.map fun m => ⟨m, lineEnd t⟩ := by
  induction ms generalizing t with
  | nil => rfl
  | cons m ms ih =>
    obtain ⟨hnext, hend⟩ := steady_upsert (hms m List.mem_cons_self) h
    rw [additions, ih (fun m hm => hms m (List.mem_cons_of_mem _ hm)) hnext, hend, List.map_cons]

/-- Where the first addition brings an end for lines in, all later ones have it. -/
theorem additions_of_gainsReturn (h : GainsReturn t) {first : Manifest}
    (hfirst : IsReadable first) (hu : ¬Registers t.lines first.variableName) :
    additions t (first :: ms) = ⟨first, []⟩ :: ms.map fun m => ⟨m, "\r"⟩ := by
  have hnext := lineEnd_upsert_of_gainsReturn hfirst hu h
  rw [additions, additions_of_steady hms (.inl hnext), hnext, h.1]

end Ends

/-! ## Taking modules out of a layout -/

/-- Which imports a removal goes for that is given manifests. -/
def ofManifests (ms : List Manifest) : Acceptance := fun name _ => ms.any (·.variableName == name)

theorem ofManifests_iff {ms : List Manifest} {name path : Text} :
    ofManifests ms name path ↔ name ∈ ms.map (·.variableName) := by
  simp [ofManifests]

section Layout

variable {accepts : Acceptance} {added : List Addition} (hadded : ∀ a ∈ added, a.IsSound)
  {lines : List Text}

theorem core_importAll (h : ∀ line ∈ lines, isTarget accepts line = false) :
    core accepts (importAll added lines) =
      importAll (added.filter fun a => !isTarget accepts a.importLine) lines := by
  have hkeep : ∀ ls : List Text, (∀ line ∈ ls, line ∈ lines) →
      ls.filter (fun line => !isTarget accepts line) = ls := by
    intro ls hls
    refine List.filter_eq_self.2 fun line hline => ?_
    rw [h line (hls line hline)]
    rfl
  rw [core, importAll, List.filter_append, List.filter_append,
    hkeep _ fun _ => List.mem_of_mem_take, hkeep _ fun _ => List.mem_of_mem_drop, List.filter_map,
    importAll]
  rfl

include hadded in
/-- Registrations are no targets. -/
theorem core_linkAll (hc : IsClear lines) :
    core accepts (linkAll added lines) = linkAll added (core accepts lines) := by
  by_cases hne : added = []
  · rw [hne, linkAll, linkAll]
  cases hlast : lastAnchor? lines with
  | none =>
    have hnone := lastAnchor?_eq_none_iff.1 hlast
    rw [linkAll_of_unanchored hnone,
      linkAll_of_unanchored fun line hline => hnone line (mem_of_mem_core hline)]
  | some anchor =>
    have hnot : ∀ line, opensImport line = false → isTarget accepts line = false := by
      intro line ho
      rw [isTarget, lineKind_of_not_opensImport ho]
      cases useOf? line <;> rfl
    have hanchor := hnot anchor (hc anchor hlast)
    have hanchor' := hnot _ (opensImport_unterminated (hc anchor hlast))
    have hlinks : (links added (isTerminated anchor)).filter (fun line => !isTarget accepts line) =
        links added (isTerminated anchor) := by
      refine List.filter_eq_self.2 fun line hline => ?_
      obtain ⟨a, ha, ends, rfl⟩ := exists_link_of_mem_links hline
      rw [isTarget_eq_false_of_useOf ((hadded a ha).lineKind_link ends)]
      rfl
    obtain ⟨before, after, rfl, hl, ha⟩ := eq_append_of_lastAnchor? hlast
    have hcore : core accepts (before ++ anchor :: after) =
        core accepts before ++ anchor :: core accepts after := by
      simp [core, hanchor]
    rw [linkAll_append hne hl ha, hcore,
      linkAll_append hne hl fun line hline => ha line (mem_of_mem_core hline)]
    simp [core, hanchor', hlinks]

variable {p : Text → Bool} {q : Addition → Bool}

include hadded in
/-- A walk up a chain hands the semicolon to the last link that stays. -/
theorem unlink_links (hq : ∀ a ∈ added, ∀ ends, p (a.link ends) = q a) {after : List Text}
    (ha : ∀ line ∈ after, p line = false) (ends : Bool) :
    unlink p (links added ends ++ after) =
      (links (added.filter (!q ·)) ends ++ after,
        ends && (added.filter (!q ·)).isEmpty && !added.isEmpty) := by
  induction added with
  | nil => rw [links, List.nil_append, unlink_of_none ha]; simp [links]
  | cons a rest ih =>
    have hcr := (hadded a List.mem_cons_self).cr
    have hrest := ih (fun b hb => hadded b (List.mem_cons_of_mem _ hb))
      fun b hb => hq b (List.mem_cons_of_mem _ hb)
    -- the link takes the semicolon over if nothing is left below it
    have hlink : (if ends && (rest.filter (!q ·)).isEmpty && !rest.isEmpty then
        takeTerminator (a.link (ends && rest.isEmpty)) else a.link (ends && rest.isEmpty)) =
        a.link (ends && (rest.filter (!q ·)).isEmpty) := by
      cases rest with
      | nil => simp
      | cons b rest =>
        simp only [List.isEmpty_cons, Bool.not_false, Bool.and_true, Bool.and_false]
        split
        · rename_i h
          rw [h]
          exact takeTerminator_registration a.manifest hcr
        · rename_i h
          rw [Bool.not_eq_true] at h
          rw [h]
    rw [links, List.cons_append, unlink, hrest]
    dsimp only
    rw [hlink, hq a List.mem_cons_self]
    cases hqa : q a
    · simp [hqa, links]
    · have hterminated := isTerminated_registration a.manifest hcr
        (ends && (rest.filter (!q ·)).isEmpty)
      simp [hqa, Addition.link, hterminated]

include hadded in
theorem unlink_linkAll (hq : ∀ a ∈ added, ∀ ends, p (a.link ends) = q a)
    (hp : ∀ line ∈ lines, p line = false)
    (hanchor : ∀ anchor, lastAnchor? lines = some anchor → p (unterminated anchor) = false)
    (hrest : added.filter (!q ·) ≠ []) :
    (unlink p (linkAll added lines)).1 = linkAll (added.filter (!q ·)) lines := by
  cases hlast : lastAnchor? lines with
  | none =>
    have hnone := lastAnchor?_eq_none_iff.1 hlast
    rw [linkAll_of_unanchored hnone, linkAll_of_unanchored hnone, unlink_of_none hp]
  | some anchor =>
    have hkeep := hanchor anchor hlast
    have hne : added ≠ [] := by
      rintro rfl
      exact hrest rfl
    obtain ⟨before, after, rfl, hl, ha⟩ := eq_append_of_lastAnchor? hlast
    have hwalk : unlink p (unterminated anchor :: (links added (isTerminated anchor) ++ after)) =
        (unterminated anchor :: (links (added.filter (!q ·)) (isTerminated anchor) ++ after),
          false) := by
      have hsome : (added.filter (!q ·)).isEmpty = false := by simpa using hrest
      rw [unlink, unlink_links hadded hq fun line hline => hp line (by simp [hline]), hsome]
      simp [hkeep]
    rw [linkAll_append hne hl ha, linkAll_append hrest hl ha,
      unlink_append (fun line hline => hp line (by simp [hline])) hwalk]

end Layout

/-! ## Removing some of the modules -/

/-- The additions of the modules that are not removed. -/
def kept (gone : List Manifest) (added : List Addition) : List Addition :=
  added.filter fun a => !decide (a.manifest ∈ gone)

theorem map_manifest_kept (t : Text) (ms gone : List Manifest) :
    (kept gone (additions t ms)).map (·.manifest) =
      (additions t (ms.filter (· ∉ gone))).map (·.manifest) := by
  rw [map_manifest_additions, kept]
  conv_rhs => rw [← map_manifest_additions t ms]
  rw [List.filter_map]
  simp [Function.comp_def]

theorem Welcomes.filter {lines : List Text} {ms : List Manifest} (hw : Welcomes lines ms)
    (p : Manifest → Bool) : Welcomes lines (ms.filter p) := by
  have hsub : (ms.filter p).Sublist ms := List.filter_sublist
  exact ⟨hw.clear, hw.nodup.sublist (hsub.map _), fun m hm => hw.imports m (hsub.subset hm),
    fun m hm => hw.registers m (hsub.subset hm)⟩

section Removal

variable {t : Text} {ms gone : List Manifest} (hw : Welcomes t.lines ms) (hgone : gone.Sublist ms)
include hw hgone

/-- What is removed of the imports that a run has added. -/
theorem isTarget_importLine {a : Addition} (ha : a.IsSound) (hm : a.manifest ∈ ms) :
    isTarget (ofManifests gone) a.importLine = decide (a.manifest ∈ gone) := by
  rw [isTarget, ha.lineKind_importLine, Bool.eq_iff_iff, ofManifests_iff, decide_eq_true_iff]
  constructor
  · intro h
    obtain ⟨m, hmem, hname⟩ := List.mem_map.1 h
    rwa [← List.inj_on_of_nodup_map hw.nodup (hgone.subset hmem) hm hname]
  · exact fun h => List.mem_map_of_mem h

theorem isTarget_ofManifests_eq_false {line : Text} (hline : line ∈ t.lines) :
    isTarget (ofManifests gone) line = false := by
  refine Bool.eq_false_iff.2 fun h => ?_
  unfold isTarget at h
  split at h
  · rename_i name path hk
    obtain ⟨m, hm, rfl⟩ := List.mem_map.1 (ofManifests_iff.1 h)
    exact hw.imports m (hgone.subset hm) ⟨line, hline, path, hk⟩
  · cases h

theorem registersAny_eq_false {line other : Text} (hline : line ∈ t.lines)
    (hk : lineKind other = lineKind line) :
    registersAny (gone.map (·.variableName)) other = false := by
  refine Bool.eq_false_iff.2 fun h => ?_
  unfold registersAny at h
  split at h
  · rename_i name hname
    obtain ⟨m, hm, rfl⟩ := List.mem_map.1 (List.contains_iff_mem.1 h)
    exact hw.registers m (hgone.subset hm) ⟨line, hline, by rw [← hk, hname]⟩
  · cases h

theorem registersAny_link {a : Addition} (ha : a.IsSound) (hm : a.manifest ∈ ms) (ends : Bool) :
    registersAny (gone.map (·.variableName)) (a.link ends) = decide (a.manifest ∈ gone) := by
  have htarget := isTarget_importLine hw hgone ha hm
  rw [isTarget, ha.lineKind_importLine, Bool.eq_iff_iff, ofManifests_iff] at htarget
  rw [registersAny, ha.lineKind_link, Bool.eq_iff_iff, List.contains_iff_mem]
  exact htarget

variable (hms : ∀ m ∈ ms, IsRecognisable m)
include hms

/-- The variables that the removal goes for are those of the modules it is given. -/
theorem mem_targetNames_upsertAll (name : Text) :
    name ∈ targetNames (ofManifests gone) (upsertAll t ms).lines ↔
      name ∈ gone.map (·.variableName) := by
  rw [mem_targetNames]
  constructor
  · rintro ⟨line, -, path, -, ha⟩
    exact ofManifests_iff.1 ha
  · intro h
    obtain ⟨m, hm, rfl⟩ := List.mem_map.1 h
    obtain ⟨a, ha, rfl⟩ := exists_addition (t := t) (hgone.subset hm)
    have hsound := isSound_additions hms t
    have himports : Imports (upsertAll t ms).lines a.manifest.variableName := by
      rw [lines_upsertAll hms hw, imports_linkAll_iff hsound (isClear_importAll hsound hw.clear)]
      exact ⟨_, importLine_mem_importAll ha t.lines, _, (hsound a ha).lineKind_importLine⟩
    obtain ⟨line, hline, path, hk⟩ := himports
    exact ⟨line, hline, path, hk, ofManifests_iff.2 h⟩

/-- What stays is laid out as if the other modules had never been added. -/
theorem text_remove_ofManifests (hrest : ∃ m ∈ ms, m ∉ gone) :
    (remove (upsertAll t ms) (manifestMatcher gone)).text =
      Text.unlines (linkAll (kept gone (additions t ms))
        (importAll (kept gone (additions t ms)) t.lines)) := by
  have hsound := isSound_additions hms t
  have hmem : ∀ a ∈ additions t ms, a.manifest ∈ ms := fun _ => manifest_mem_of_mem_additions
  have hclear := isClear_importAll hsound hw.clear
  have hkept : (additions t ms).filter (fun a => !isTarget (ofManifests gone) a.importLine) =
      kept gone (additions t ms) :=
    List.filter_congr fun a ha => by
      rw [isTarget_importLine hw hgone (hsound a ha) (hmem a ha)]
  have hcore : core (ofManifests gone) (upsertAll t ms).lines = linkAll (additions t ms)
      (importAll (kept gone (additions t ms)) t.lines) := by
    rw [lines_upsertAll hms hw, core_linkAll hsound hclear,
      core_importAll fun _ => isTarget_ofManifests_eq_false hw hgone, hkept]
  have hsound' : ∀ a ∈ kept gone (additions t ms), a.IsSound :=
    fun a ha => hsound a (List.mem_filter.1 ha).1
  have hsome : kept gone (additions t ms) ≠ [] := by
    obtain ⟨m, hm, hnot⟩ := hrest
    obtain ⟨a, ha, rfl⟩ := exists_addition (t := t) hm
    exact List.ne_nil_of_mem (List.mem_filter.2 ⟨ha, by simpa using hnot⟩)
  have hregisters : ∀ line ∈ importAll (kept gone (additions t ms)) t.lines,
      registersAny (gone.map (·.variableName)) line = false := by
    intro line hline
    rcases of_mem_importAll hline with h | ⟨a, ha, rfl⟩
    · exact registersAny_eq_false hw hgone h rfl
    · rw [registersAny, (hsound' a ha).lineKind_importLine]
  have hanchor : ∀ anchor, lastAnchor? (importAll (kept gone (additions t ms)) t.lines) =
      some anchor → registersAny (gone.map (·.variableName)) (unterminated anchor) = false := by
    intro anchor hlast
    rw [lastAnchor?_importAll hsound'] at hlast
    have hkind := lineKind_unterminated fun _ => hw.clear anchor hlast
    obtain ⟨before, after, hlines, -⟩ := eq_append_of_lastAnchor? hlast
    exact registersAny_eq_false hw hgone (by simp [hlines]) hkind
  have htext := text_remove (ofManifests gone) (upsertAll t ms)
  rw [registersAny_congr (mem_targetNames_upsertAll hw hgone hms), hcore,
    unlink_linkAll hsound (fun a ha => registersAny_link hw hgone (hsound a ha) (hmem a ha))
      hregisters hanchor hsome] at htext
  exact htext

/-- Removing modules is never having added them exactly if the lines of those that stay end in the
same both times. -/
theorem remove_eq_upsertAll_iff_additions (hrest : ∃ m ∈ ms, m ∉ gone) :
    (remove (upsertAll t ms) (manifestMatcher gone)).text = upsertAll t (ms.filter (· ∉ gone)) ↔
      kept gone (additions t ms) = additions t (ms.filter (· ∉ gone)) := by
  have hms' : ∀ m ∈ ms.filter (· ∉ gone), IsRecognisable m :=
    fun m hm => hms m (List.mem_filter.1 hm).1
  have hlines := lines_upsertAll hms' (hw.filter (· ∉ gone))
  rw [text_remove_ofManifests hw hgone hms hrest]
  constructor
  · intro h
    have hsound : ∀ a ∈ kept gone (additions t ms), a.IsSound :=
      fun a ha => isSound_additions hms t a (List.mem_filter.1 ha).1
    refine layout_inj hsound (isSound_additions hms' t) hw.clear (map_manifest_kept t ms gone) ?_
    rw [← hlines, ← h, Text.lines_unlines (layout_ne_nil _ (Text.lines_ne_nil t))
      (newline_notMem_layout hsound fun _ => Text.newline_notMem_of_mem_lines)]
  · intro h
    rw [h, ← hlines, Text.unlines_lines]

omit hgone in
/-- The lines of the modules that stay end in the same both times unless a module that is removed
brought an end for lines in. -/
theorem kept_additions_iff (hend : returns t = false) (hrest : ∃ m ∈ ms, m ∉ gone) :
    kept gone (additions t ms) = additions t (ms.filter (· ∉ gone)) ↔
      (GainsReturn t → ∀ first, ms.head? = some first → first ∉ gone) := by
  have hmap : ∀ (cr : Text) (ms : List Manifest),
      kept gone (ms.map fun m => ⟨m, cr⟩) = (ms.filter (· ∉ gone)).map fun m => ⟨m, cr⟩ := by
    intro cr ms
    rw [kept, List.filter_map]
    simp [Function.comp_def]
  have hms' : ∀ ms' : List Manifest, ms'.Sublist ms → ∀ m ∈ ms', IsRecognisable m :=
    fun ms' hsub m hm => hms m (hsub.subset hm)
  by_cases hg : GainsReturn t
  · obtain ⟨other, hother, hnot⟩ := hrest
    obtain ⟨first, rest, rfl⟩ := List.exists_cons_of_ne_nil (List.ne_nil_of_mem hother)
    have hrest' := hms' rest (List.sublist_cons_self _ _)
    have hadditions := additions_of_gainsReturn hrest' hg
      (hms first List.mem_cons_self).toIsReadable (hw.registers first List.mem_cons_self)
    by_cases hfirst : first ∈ gone
    · -- the first module that stays would not have had the end on its own
      refine iff_of_false (fun heq => ?_) fun h => h hg first rfl hfirst
      have hkept : kept gone (additions t (first :: rest)) =
          (rest.filter (· ∉ gone)).map fun m => ⟨m, "\r"⟩ := by
        rw [hadditions, ← hmap, kept, List.filter_cons_of_neg (by simp [hfirst]), kept]
      have hfilter : (first :: rest).filter (· ∉ gone) = rest.filter (· ∉ gone) :=
        List.filter_cons_of_neg (by simp [hfirst])
      have hmem : other ∈ rest.filter (· ∉ gone) := by
        rw [← hfilter]
        exact List.mem_filter.2 ⟨hother, by simpa using hnot⟩
      obtain ⟨next, more, hnext⟩ := List.exists_cons_of_ne_nil (List.ne_nil_of_mem hmem)
      rw [hkept, hfilter, hnext, List.map_cons, additions, hg.1] at heq
      have hcr : Text.ofString "\r" = [] := congrArg Addition.cr (List.cons.inj heq).1
      exact absurd hcr (by decide)
    · refine iff_of_true ?_ fun _ m hm => by rwa [← Option.some.inj hm]
      have hfilter : (first :: rest).filter (· ∉ gone) = first :: rest.filter (· ∉ gone) :=
        List.filter_cons_of_pos (by simpa using hfirst)
      rw [hadditions, hfilter, additions_of_gainsReturn
        (fun m hm => hrest' m (List.mem_filter.1 hm).1) hg
        (hms first List.mem_cons_self).toIsReadable (hw.registers first List.mem_cons_self),
        ← hmap, kept, List.filter_cons_of_pos (by simpa using hfirst), kept]
  · refine iff_of_true ?_ fun h => absurd h hg
    have hsteady := steady_of_not_gainsReturn hend hg
    rw [additions_of_steady hms hsteady, additions_of_steady
      (fun m hm => hms m (List.mem_filter.1 hm).1) hsteady, hmap]

end Removal

theorem Separated.isClear {lines : List Text} (hs : Separated lines) : IsClear lines := by
  intro anchor hlast
  obtain ⟨before, after, rfl, hl, -⟩ := eq_append_of_lastAnchor? hlast
  exact hs.not_opensImport (by simp) hl

/-- Removing some of the modules that were added gives the text that adding the others alone gives,
unless the first module brought the text's end for lines in and is one of those removed. -/
theorem remove_sublist_upsertAll_iff {t : Text} (hend : t.endsWith "\r" = false)
    (hs : Separated t.lines) {ms gone : List Manifest} (hms : ∀ m ∈ ms, IsRecognisable m)
    (hnodup : (ms.map (·.variableName)).Nodup) (hi : ∀ m ∈ ms, ¬Imports t.lines m.variableName)
    (hu : ∀ m ∈ ms, ¬Registers t.lines m.variableName) (hgone : gone.Sublist ms)
    (hrest : ∃ m ∈ ms, m ∉ gone) :
    (remove (upsertAll t ms) (manifestMatcher gone)).text = upsertAll t (ms.filter (· ∉ gone)) ↔
      (GainsReturn t → ∀ first, ms.head? = some first → first ∉ gone) := by
  have hw : Welcomes t.lines ms := ⟨hs.isClear, hnodup, hi, hu⟩
  rw [remove_eq_upsertAll_iff_additions hw hgone hms hrest]
  exact kept_additions_iff hw hms hend hrest

/-- A text whose anchor has its semicolon behind a carriage return. -/
def returnText : Text := "  .use(aRoutes)\r;"

/-- A module, by its name alone. -/
def plainManifest (name : Text) : Manifest :=
  ⟨name, "v1", name ++ "V1Routes", "./x/" ++ name ++ ".routes", "x", none⟩

theorem isRecognisable_plainManifests :
    ∀ m ∈ [plainManifest "b", plainManifest "c"], IsRecognisable m := by
  intro m hm
  rcases List.mem_cons.1 hm with rfl | hm
  · exact ⟨⟨⟨by decide, by decide⟩, by decide, by decide, by decide, by decide⟩, by decide⟩
  · rw [List.mem_singleton.1 hm]
    exact ⟨⟨⟨by decide, by decide⟩, by decide, by decide, by decide, by decide⟩, by decide⟩

theorem separated_returnText : Separated returnText.lines := by
  unfold Separated
  decide

theorem not_mentioned_returnText : ∀ m ∈ [plainManifest "b", plainManifest "c"],
    ¬Imports returnText.lines m.variableName ∧ ¬Registers returnText.lines m.variableName := by
  intro m
  rw [← hasImport_ofLines 1, ← hasUse_ofLines 1]
  revert m
  decide

/-- Of two modules, the removal of the second one cannot be told, that of the first one can. -/
theorem remove_sublist_upsertAll_iff_gained :
    let b := plainManifest "b"
    let c := plainManifest "c"
    (remove (upsertAll returnText [b, c]) (manifestMatcher [c])).text = upsertAll returnText [b] ∧
      (remove (upsertAll returnText [b, c]) (manifestMatcher [b])).text ≠
        upsertAll returnText [c] := by
  intro b c
  have hgains : GainsReturn returnText := ⟨by decide, returnText, by decide, by decide⟩
  have hmentions := not_mentioned_returnText
  have hiff : ∀ gone : List Manifest, gone.Sublist [b, c] → (∃ m ∈ [b, c], m ∉ gone) →
      ((remove (upsertAll returnText [b, c]) (manifestMatcher gone)).text =
          upsertAll returnText ([b, c].filter (· ∉ gone)) ↔
        (GainsReturn returnText → ∀ first, [b, c].head? = some first → first ∉ gone)) :=
    fun gone hgone hrest => remove_sublist_upsertAll_iff (by decide) separated_returnText
      isRecognisable_plainManifests (by decide) (fun m hm => (hmentions m hm).1)
      (fun m hm => (hmentions m hm).2) hgone hrest
  have hlast := hiff [c] (by decide) ⟨b, by simp, by decide⟩
  have hfirst := hiff [b] (by decide) ⟨c, by simp, by decide⟩
  refine ⟨hlast.2 fun _ first h => ?_, fun h => hfirst.1 h hgains b rfl (by decide)⟩
  obtain rfl := Option.some.inj h
  decide

/-- So in general it can be told that modules were added and removed again. -/
theorem not_remove_sublist_upsertAll :
    ¬∀ (t : Text) (ms gone : List Manifest), t.endsWith "\r" = false → Separated t.lines →
      (∀ m ∈ ms, IsRecognisable m) → (ms.map (·.variableName)).Nodup →
        (∀ m ∈ ms, ¬Imports t.lines m.variableName) →
          (∀ m ∈ ms, ¬Registers t.lines m.variableName) → gone.Sublist ms →
            (∃ m ∈ ms, m ∉ gone) →
              (remove (upsertAll t ms) (manifestMatcher gone)).text =
                upsertAll t (ms.filter (· ∉ gone)) := by
  intro h
  have heq := h returnText [plainManifest "b", plainManifest "c"] [plainManifest "b"] (by decide)
    separated_returnText isRecognisable_plainManifests (by decide)
    (fun m hm => (not_mentioned_returnText m hm).1) (fun m hm => (not_mentioned_returnText m hm).2)
    (by decide) ⟨plainManifest "c", by simp, by decide⟩
  exact absurd heq (by decide +kernel)

end Routewright.Aggregator
