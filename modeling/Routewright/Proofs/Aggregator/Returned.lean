/-
Carriage returns before line feeds. In a text whose line feeds all stand behind one, an addition gives
its lines one too; they stay uniform as long as the addition stays above the last line. Below a last
line without an end, the new line gets an end that belonged to the line above it.
-/
import Routewright.Proofs.Aggregator.Withdrawal

namespace Routewright.Aggregator

/-- A text in which every line feed stands behind a carriage return. -/
def IsReturned (t : Text) : Prop :=
  ∀ before after : Text, t = before ++ CodePoint.ofChar '\n' :: after → returns before

/-- An addition puts a line below the last one: the last line is the import or the anchor that a new
line follows. -/
def AddsBelow (t : Text) (m : Manifest) : Prop :=
  ∃ init last, t.lines = init ++ [last] ∧
    (¬Imports t.lines m.variableName ∧ isImport last ∨
      ¬Registers t.lines m.variableName ∧ isAnchor last)

/-! ## Ends of texts and lines -/

theorem returns_unlines_concat (init : List Text) (last : Text) :
    returns (Text.unlines (init ++ [last])) ↔ returns last := by
  rcases List.eq_nil_or_concat last with rfl | ⟨code, c, rfl⟩
  · rcases List.eq_nil_or_concat init with rfl | ⟨_, _, rfl⟩
    · decide
    · rw [Text.unlines_append (by simp) (by simp), Text.unlines_singleton, returns_concat_iff]
      decide
  · obtain ⟨front, hfront⟩ := Text.suffix_unlines_concat init (code ++ [c])
    rw [List.concat_eq_append, ← hfront, ← List.append_assoc, returns_concat_iff,
      returns_concat_iff]

theorem isReturned_unlines_iff {init : List Text} {last : Text}
    (h : ∀ line ∈ init ++ [last], CodePoint.ofChar '\n' ∉ line) :
    IsReturned (Text.unlines (init ++ [last])) ↔ ∀ line ∈ init, returns line := by
  constructor
  · intro ht line hline
    obtain ⟨x, y, rfl⟩ := List.append_of_mem hline
    have hsplit : x ++ line :: y ++ [last] = (x ++ [line]) ++ (y ++ [last]) := by simp
    rw [hsplit, Text.unlines_append (by simp) (by simp)] at ht
    exact (returns_unlines_concat x line).1 (ht _ _ rfl)
  · intro hinit before after ht
    -- the line feed stands behind one of the lines before the last one
    have hjoined : Text.unlines (init ++ [last]) = Text.unlines (before.lines ++ after.lines) := by
      rw [ht, Text.unlines_append (Text.lines_ne_nil _) (Text.lines_ne_nil _), Text.unlines_lines,
        Text.unlines_lines]
    have hlines : init ++ [last] = before.lines ++ after.lines := by
      rw [← Text.lines_unlines (by simp) h, hjoined]
      refine Text.lines_unlines (by simp [Text.lines_ne_nil]) fun line hline => ?_
      rcases List.mem_append.1 hline with hline | hline <;>
        exact Text.newline_notMem_of_mem_lines hline
    rcases List.eq_nil_or_concat before.lines with hnil | ⟨x, line, hbefore⟩
    · exact absurd hnil (Text.lines_ne_nil before)
    rcases List.eq_nil_or_concat after.lines with hnil | ⟨y, bottom, hafter⟩
    · exact absurd hnil (Text.lines_ne_nil after)
    rw [List.concat_eq_append] at hbefore hafter
    rw [hbefore, hafter, ← List.append_assoc, List.append_singleton_inj] at hlines
    rw [← Text.unlines_lines before, hbefore, returns_unlines_concat]
    exact hinit line (by simp [hlines.1])

/-- Where line feeds stand behind carriage returns, new lines get one. -/
theorem lineEnd_of_isReturned {t : Text} (hfeed : CodePoint.ofChar '\n' ∈ t) (ht : IsReturned t) :
    lineEnd t = ("\r" : Text) := by
  obtain ⟨before, after, rfl⟩ := List.append_of_mem hfeed
  obtain ⟨front, hfront⟩ := Text.endsWith_iff.1 (ht before after rfl)
  have hpair : Text.contains (before ++ CodePoint.ofChar '\n' :: after) "\r\n" := by
    refine Text.contains_iff.2 ⟨front, after, ?_⟩
    rw [← hfront]
    simp [Text.ofString]
  rw [lineEnd, hpair]
  rfl

/-! ## Lines that are added -/

section Step

variable {m : Manifest} {init : List Text} {last : Text}

theorem returns_importLine (m : Manifest) : returns (m.importStatement ++ "\r") :=
  returns_concat_iff.2 rfl

theorem returns_registration_return (m : Manifest) (ends : Bool) :
    returns (registration m "\r" ends) :=
  returns_concat_iff.2 rfl

/-- The import of a module is put above the last line, or below it if the last line is an import. -/
theorem withImport_concat (m : Manifest) (cr : Text) (init : List Text) (last : Text) :
    (∃ above, withImport cr m (init ++ [last]) = above ++ [last] ∧
      (∀ line ∈ above, line ∈ init ∨ line = m.importStatement ++ cr) ∧
      ¬(¬Imports (init ++ [last]) m.variableName ∧ isImport last)) ∨
    (withImport cr m (init ++ [last]) = init ++ [last] ++ [m.importStatement ++ cr] ∧
      ¬Imports (init ++ [last]) m.variableName ∧ isImport last) := by
  by_cases hi : Imports (init ++ [last]) m.variableName
  · refine .inl ⟨init, ?_, fun line hline => .inl hline, fun h => h.1 hi⟩
    rw [withImport, if_pos ((hasImport_ofLines 1 _ _).2 hi)]
  · obtain ⟨before, after, hlines, hsplit⟩ := exists_importSplit (init ++ [last])
    rw [withImport_eq_importAll hi]
    rcases List.eq_nil_or_concat after with rfl | ⟨below, bottom, rfl⟩
    · rw [List.append_nil] at hlines
      refine .inr ⟨?_, hi, hsplit.last last (by rw [← hlines]; simp)⟩
      rw [hlines, ← List.append_nil before, importAll_append hsplit]
      simp [Addition.importLine]
    · rw [List.concat_eq_append] at hlines hsplit
      have hsame := hlines
      rw [← List.append_assoc, List.append_singleton_inj] at hsame
      obtain ⟨rfl, rfl⟩ := hsame
      refine .inl ⟨before ++ (m.importStatement ++ cr) :: below, ?_, fun line hline => ?_, ?_⟩
      · rw [hlines, importAll_append hsplit]
        simp [Addition.importLine]
      · simp only [List.mem_append, List.mem_cons] at hline ⊢
        rcases hline with h | h | h
        · exact .inl (.inl h)
        · exact .inr h
        · exact .inl (.inr h)
      · rintro ⟨-, hlast⟩
        rw [hsplit.rest last (by simp)] at hlast
        cases hlast

/-- A registration is put above the last line, or below it if the last line is an anchor. -/
theorem register_concat (m : Manifest) (cr : Text) (init : List Text) (last : Text) :
    (∃ above, (register m.useStatement cr (init ++ [last])).getD (init ++ [last]) =
        above ++ [last] ∧ (∀ line ∈ above, line ∈ init ∨ (∃ a ∈ init, line = unterminated a) ∨
          ∃ ends, line = registration m cr ends) ∧ isAnchor last = false) ∨
    ((register m.useStatement cr (init ++ [last])).getD (init ++ [last]) =
      init ++ linked m cr last ∧ isAnchor last) := by
  rcases register_cases m cr (init ++ [last]) with
    ⟨hr, hnone⟩ | ⟨before, anchor, after, hlines, hl, ha, hr⟩
  · rw [hr]
    exact .inl ⟨init, rfl, fun line hline => .inl hline, hnone last (by simp)⟩
  · rw [hr, Option.getD_some]
    rcases List.eq_nil_or_concat after with rfl | ⟨below, bottom, rfl⟩
    · obtain ⟨rfl, rfl⟩ := List.append_singleton_inj.1 hlines
      exact .inr ⟨List.append_nil _, hl⟩
    · rw [List.concat_eq_append] at hlines ha ⊢
      rw [← List.cons_append, ← List.append_assoc, List.append_singleton_inj] at hlines
      obtain ⟨rfl, rfl⟩ := hlines
      refine .inl ⟨before ++ linked m cr anchor ++ below, by simp, fun line hline => ?_,
        ha last (by simp)⟩
      simp only [linked, List.mem_append, List.mem_cons, List.not_mem_nil, or_false] at hline ⊢
      rcases hline with (h | h | h) | h
      · exact .inl (.inl h)
      · exact .inr (.inl ⟨anchor, by simp, h⟩)
      · exact .inr (.inr ⟨_, h⟩)
      · exact .inl (.inr (.inr h))

/-- The lines above the last one return, and the last one is as it was. -/
def Keeps (last : Text) (lines : List Text) : Prop :=
  ∃ above, lines = above ++ [last] ∧ ∀ line ∈ above, returns line

/-- Some line stands below the one that was the last, and returns; the others return if that one
does. -/
def Outgrows (last : Text) (lines : List Text) : Prop :=
  ∃ above bottom, lines = above ++ [bottom] ∧ returns bottom ∧
    (returns last → ∀ line ∈ above, returns line)

/-- The lines with the registration of a module, if they are meant to have it. -/
def withRegistration (needed : Bool) (m : Manifest) (lines : List Text) : List Text :=
  if needed then (register m.useStatement "\r" lines).getD lines else lines

theorem withImport_grows (hinit : ∀ line ∈ init, returns line) :
    (Keeps last (withImport "\r" m (init ++ [last])) ∧
      ¬(¬Imports (init ++ [last]) m.variableName ∧ isImport last)) ∨
    (Outgrows last (withImport "\r" m (init ++ [last])) ∧
      ¬Imports (init ++ [last]) m.variableName ∧ isImport last) := by
  rcases withImport_concat m "\r" init last with ⟨above, hlines, habove, hnot⟩ | ⟨hlines, hbelow⟩
  · refine .inl ⟨⟨above, hlines, fun line hline => ?_⟩, hnot⟩
    rcases habove line hline with h | rfl
    · exact hinit line h
    · exact returns_importLine m
  · refine .inr ⟨⟨init ++ [last], _, hlines, returns_importLine m, fun hlast line hline => ?_⟩,
      hbelow⟩
    rcases List.mem_append.1 hline with h | h
    · exact hinit line h
    · rwa [List.mem_singleton.1 h]

/-- Lines above the last one that come in with a registration return as well. -/
theorem returns_of_registered (hinit : ∀ line ∈ init, returns line) {line : Text}
    (h : line ∈ init ∨ (∃ a ∈ init, line = unterminated a) ∨
      ∃ ends, line = registration m "\r" ends) : returns line := by
  rcases h with h | ⟨a, ha, rfl⟩ | ⟨ends, rfl⟩
  · exact hinit line h
  · exact returns_unterminated_iff.2 (.inl (hinit a ha))
  · exact returns_registration_return m ends

theorem Keeps.withRegistration {lines : List Text} (h : Keeps last lines) (needed : Bool) :
    (Keeps last (withRegistration needed m lines) ∧ ¬(needed ∧ isAnchor last)) ∨
      (Outgrows last (withRegistration needed m lines) ∧ needed ∧ isAnchor last) := by
  obtain ⟨init, rfl, hinit⟩ := h
  cases needed with
  | false => exact .inl ⟨⟨init, rfl, hinit⟩, by simp⟩
  | true =>
    rcases register_concat m "\r" init last with ⟨above, hlines, habove, hnot⟩ | ⟨hlines, hl⟩
    · exact .inl ⟨⟨above, hlines, fun line hline => returns_of_registered hinit (habove line hline)⟩,
        by simp [hnot]⟩
    · refine .inr ⟨⟨init ++ [unterminated last], _, hlines.trans (by rw [linked]; simp; rfl),
        returns_registration_return m _, fun hlast line hline => ?_⟩, rfl, hl⟩
      rcases List.mem_append.1 hline with h | h
      · exact hinit line h
      · rw [List.mem_singleton.1 h]
        exact returns_unterminated_iff.2 (.inl hlast)

theorem Outgrows.withRegistration {lines : List Text} (h : Outgrows last lines) (needed : Bool) :
    Outgrows last (withRegistration needed m lines) := by
  obtain ⟨init, bottom, rfl, hbottom, hinit⟩ := h
  cases needed with
  | false => exact ⟨init, bottom, rfl, hbottom, hinit⟩
  | true =>
    rcases register_concat m "\r" init bottom with ⟨above, hlines, habove, -⟩ | ⟨hlines, -⟩
    · exact ⟨above, bottom, hlines, hbottom, fun hlast line hline =>
        returns_of_registered (hinit hlast) (habove line hline)⟩
    · refine ⟨init ++ [unterminated bottom], _, hlines.trans (by rw [linked]; simp; rfl),
        returns_registration_return m _, fun hlast line hline => ?_⟩
      rcases List.mem_append.1 hline with h | h
      · exact hinit hlast line h
      · rw [List.mem_singleton.1 h]
        exact returns_unterminated_iff.2 (.inl hbottom)

end Step

/-! ## Texts -/

section Texts

variable {t : Text} {m : Manifest}

theorem text_upsert_eq_withRegistration (hend : lineEnd t = ("\r" : Text)) (m : Manifest) :
    (upsert t m).text = Text.unlines (withRegistration (!(Survey.ofText t).hasUse m.variableName) m
      (withImport "\r" m t.lines)) := by
  have htext := text_upsert_eq t m
  rw [hend] at htext
  rw [htext, withRegistration]
  cases (Survey.ofText t).hasUse m.variableName <;> rfl

theorem newline_notMem_added (hname : CodePoint.ofChar '\n' ∉ m.variableName)
    (hpath : CodePoint.ofChar '\n' ∉ m.importPath) (needed : Bool) :
    ∀ line ∈ withRegistration needed m (withImport "\r" m t.lines),
      CodePoint.ofChar '\n' ∉ line := by
  have himport : ∀ line ∈ withImport "\r" m t.lines, CodePoint.ofChar '\n' ∉ line := by
    intro line hline
    rcases of_mem_withImport hline with h | rfl
    · exact Text.newline_notMem_of_mem_lines h
    · simp [Manifest.importStatement, Text.ofString, hname, hpath]
  cases needed with
  | false => exact himport
  | true =>
    intro line hline
    rw [withRegistration, if_pos rfl] at hline
    rcases register_cases m "\r" (withImport "\r" m t.lines) with
      ⟨hr, -⟩ | ⟨before, anchor, after, hlines, -, -, hr⟩
    · rw [hr] at hline
      exact himport line hline
    · rw [hr, Option.getD_some, mem_append_linked_iff] at hline
      rw [hlines] at himport
      rcases hline with h | rfl | rfl | h
      · exact himport line (by simp [h])
      · exact newline_notMem_unterminated (himport anchor (by simp))
      · cases isTerminated anchor <;>
          simp [registration, Manifest.useStatement, Text.ofString, hname]
      · exact himport line (by simp [h])

theorem addsBelow_iff {init : List Text} {last : Text} (hlines : t.lines = init ++ [last]) :
    AddsBelow t m ↔ (¬Imports (init ++ [last]) m.variableName ∧ isImport last) ∨
      ((!(Survey.ofText t).hasUse m.variableName) = true ∧ isAnchor last) := by
  have huse : (!(Survey.ofText t).hasUse m.variableName) = true ↔
      ¬Registers t.lines m.variableName := by
    rw [Bool.not_eq_true', ← Bool.not_eq_true, Survey.ofText, hasUse_ofLines]
  rw [huse, ← hlines]
  constructor
  · rintro ⟨other, bottom, hother, h⟩
    obtain ⟨-, rfl⟩ := List.append_singleton_inj.1 (hlines.symm.trans hother)
    exact h
  · exact fun h => ⟨init, last, hlines, h⟩

/-- The lines of such a text stay in place above the last one, or the last one is outgrown. -/
theorem keeps_or_outgrows {init : List Text} {last : Text}
    (hlines : t.lines = init ++ [last]) (hinit : ∀ line ∈ init, returns line) :
    let lines := withRegistration (!(Survey.ofText t).hasUse m.variableName) m
      (withImport "\r" m t.lines)
    Keeps last lines ∧ ¬AddsBelow t m ∨ Outgrows last lines ∧ AddsBelow t m := by
  rw [addsBelow_iff hlines, hlines]
  rcases @withImport_grows m init last hinit with ⟨himport, hnot⟩ | ⟨himport, hbelow⟩
  · rcases himport.withRegistration (m := m) (!(Survey.ofText t).hasUse m.variableName) with
      ⟨huse, hnot'⟩ | ⟨huse, hbelow⟩
    · exact .inl ⟨huse, fun h => h.elim hnot hnot'⟩
    · exact .inr ⟨huse, .inr hbelow⟩
  · exact .inr ⟨himport.withRegistration _, .inl hbelow⟩

end Texts

/-- An addition to a text with carriage returns before its line feeds leaves such a text, without a
carriage return of its own at the end, exactly if it puts no line below a last line that lacks one. -/
theorem isReturned_upsert_iff {t : Text} (hfeed : CodePoint.ofChar '\n' ∈ t) (ht : IsReturned t)
    {m : Manifest} (hname : CodePoint.ofChar '\n' ∉ m.variableName)
    (hpath : CodePoint.ofChar '\n' ∉ m.importPath) :
    (IsReturned (upsert t m).text ∧ (returns (upsert t m).text → returns t)) ↔
      (AddsBelow t m → returns t) := by
  have hend := lineEnd_of_isReturned hfeed ht
  rcases List.eq_nil_or_concat t.lines with hnil | ⟨init, last, hlines⟩
  · exact absurd hnil (Text.lines_ne_nil t)
  rw [List.concat_eq_append] at hlines
  have hinit : ∀ line ∈ init, returns line := by
    rw [← Text.unlines_lines t, hlines, isReturned_unlines_iff] at ht
    · exact ht
    · exact fun line hline => Text.newline_notMem_of_mem_lines (hlines ▸ hline)
  have hlast : returns t ↔ returns last := by
    rw [← Text.unlines_lines t, hlines, returns_unlines_concat]
  have hnone := newline_notMem_added (t := t) hname hpath
    (!(Survey.ofText t).hasUse m.variableName)
  rw [text_upsert_eq_withRegistration hend, hlast]
  rcases keeps_or_outgrows (m := m) hlines hinit with
    ⟨⟨above, hkept, habove⟩, hnot⟩ | ⟨⟨above, bottom, hgrown, hbottom, habove⟩, hbelow⟩
  · rw [hkept] at hnone ⊢
    rw [isReturned_unlines_iff hnone, returns_unlines_concat]
    exact iff_of_true ⟨habove, id⟩ fun h => absurd h hnot
  · rw [hgrown] at hnone ⊢
    rw [isReturned_unlines_iff hnone, returns_unlines_concat]
    exact ⟨fun h _ => h.2 hbottom, fun h => ⟨habove (h hbelow), fun _ => h hbelow⟩⟩

theorem isReturned_iff {t : Text} : IsReturned t ↔ ∀ line ∈ t.lines.dropLast, returns line := by
  rcases List.eq_nil_or_concat t.lines with hnil | ⟨init, last, hlines⟩
  · exact absurd hnil (Text.lines_ne_nil t)
  rw [List.concat_eq_append] at hlines
  rw [hlines, List.dropLast_concat]
  conv_lhs => rw [← Text.unlines_lines t, hlines]
  exact isReturned_unlines_iff fun line hline => Text.newline_notMem_of_mem_lines (hlines ▸ hline)

/-- A text that ends in a line feed stays uniform; the same text without its last line end does not,
as its last line is the anchor. -/
theorem isReturned_upsert_iff_unended :
    let m : Manifest := ⟨"b", "v1", "bV1Routes", "./x/b.routes", "x", none⟩
    let unended : Text := "import aRoutes from \"./a.routes\";\r\napp\r\n  .use(aRoutes);"
    let ended : Text := unended ++ "\r\n"
    IsReturned (upsert ended m).text ∧ returns (upsert ended m).text = false ∧
      ¬(IsReturned (upsert unended m).text ∧
        (returns (upsert unended m).text → returns unended)) := by
  intro m unended ended
  have hended := isReturned_upsert_iff (t := ended) (by decide) (isReturned_iff.2 (by decide))
    (m := m) (by decide) (by decide)
  have hunended := isReturned_upsert_iff (t := unended) (by decide) (isReturned_iff.2 (by decide))
    (m := m) (by decide) (by decide)
  have habove : ¬AddsBelow ended m := by
    rw [@addsBelow_iff ended m ended.lines.dropLast [] (by decide)]
    rintro (⟨-, h⟩ | ⟨-, h⟩)
    · exact absurd h (by decide)
    · exact absurd h (by decide)
  have hbelow : AddsBelow unended m := by
    refine ⟨unended.lines.dropLast, "  .use(aRoutes);", by decide, .inr ⟨?_, by decide⟩⟩
    rw [← hasUse_ofLines 1]
    decide
  obtain ⟨hreturned, hends⟩ := hended.2 fun h => absurd h habove
  refine ⟨hreturned, Bool.eq_false_iff.2 fun h => absurd (hends h) (by decide), fun h => ?_⟩
  exact absurd (hunended.1 h hbelow) (by decide)

end Routewright.Aggregator
