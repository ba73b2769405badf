/-
Adding modules to the aggregator, line by line. What one addition does is said once, in terms of the
lines it keeps, changes and inserts; that added modules stay recognised while others are added, and
so that adding them again changes nothing, follows by induction over the additions.
-/
import Routewright.Proofs.Aggregator.Terminator

namespace Routewright.Aggregator

/-! ## Records of lines -/

/-- Some line imports a variable. -/
def Imports (lines : List Text) (name : Text) : Prop :=
  ∃ line ∈ lines, ∃ path, lineKind line = .importOf name path

/-- Some line registers a variable. -/
def Registers (lines : List Text) (name : Text) : Prop :=
  ∃ line ∈ lines, lineKind line = .useOf name

theorem hasImport_ofLines (number : Nat) (lines : List Text) (name : Text) :
    (Survey.ofLines number lines).hasImport name ↔ Imports lines name := by
  induction lines generalizing number with
  | nil => simp [Survey.ofLines, Survey.hasImport, Imports]
  | cons line lines ih =>
    have hcons : Imports (line :: lines) name ↔
        (∃ path, lineKind line = .importOf name path) ∨ Imports lines name := by simp [Imports]
    rw [hcons, ← ih (number + 1), Survey.ofLines]
    cases hk : lineKind line with
    | importOf other path => simp [Survey.hasImport]
    | useOf other => simp [Survey.hasImport]
    | other => simp

theorem hasUse_ofLines (number : Nat) (lines : List Text) (name : Text) :
    (Survey.ofLines number lines).hasUse name ↔ Registers lines name := by
  induction lines generalizing number with
  | nil => simp [Survey.ofLines, Survey.hasUse, Registers]
  | cons line lines ih =>
    have hcons : Registers (line :: lines) name ↔
        lineKind line = .useOf name ∨ Registers lines name := by simp [Registers]
    rw [hcons, ← ih (number + 1), Survey.ofLines]
    cases hk : lineKind line with
    | importOf other path => simp [Survey.hasUse]
    | useOf other => simp [Survey.hasUse]
    | other => simp

/-- Some line imports a variable from a path. -/
def ImportsAs (lines : List Text) (name path : Text) : Prop :=
  ∃ line ∈ lines, lineKind line = .importOf name path

theorem mem_imports_ofLines (number : Nat) (lines : List Text) (name path : Text) :
    (∃ r ∈ (Survey.ofLines number lines).imports, r.name = name ∧ r.path = path) ↔
      ImportsAs lines name path := by
  induction lines generalizing number with
  | nil => simp [Survey.ofLines, ImportsAs]
  | cons line lines ih =>
    have hcons : ImportsAs (line :: lines) name path ↔
        lineKind line = .importOf name path ∨ ImportsAs lines name path := by simp [ImportsAs]
    rw [hcons, ← ih (number + 1), Survey.ofLines]
    cases hk : lineKind line with
    | importOf other source => simp
    | useOf other => simp
    | other => simp

/-! ## The anchor -/

theorem splitLast?_eq_none_iff {p : Text → Bool} {lines : List Text} :
    splitLast? p lines = none ↔ ∀ line ∈ lines, p line = false := by
  induction lines with
  | nil => simp [splitLast?]
  | cons line lines ih =>
    rw [splitLast?]
    cases h : splitLast? p lines with
    | none =>
      rw [h] at ih
      have hrest := ih.1 rfl
      cases hp : p line <;> simp [hp]
      exact hrest
    | some found =>
      rw [h] at ih
      refine iff_of_false (by simp) fun hall => ?_
      exact absurd (ih.2 fun l hl => hall l (List.mem_cons_of_mem _ hl)) (by simp)

theorem splitLast?_append {p : Text → Bool} {last : Text} {after : List Text} (hl : p last)
    (ha : ∀ line ∈ after, p line = false) (before : List Text) :
    splitLast? p (before ++ last :: after) = some (before, last, after) := by
  induction before with
  | nil => rw [List.nil_append, splitLast?, splitLast?_eq_none_iff.2 ha, if_pos hl]
  | cons line before ih => rw [List.cons_append, splitLast?, ih]

theorem eq_append_of_splitLast? {p : Text → Bool} {lines before after : List Text} {last : Text}
    (h : splitLast? p lines = some (before, last, after)) :
    lines = before ++ last :: after ∧ p last ∧ ∀ line ∈ after, p line = false := by
  induction lines generalizing before with
  | nil => cases h
  | cons line lines ih =>
    rw [splitLast?] at h
    cases hs : splitLast? p lines with
    | none =>
      rw [hs] at h
      dsimp only at h
      split at h
      · simp only [Option.some.injEq, Prod.mk.injEq] at h
        obtain ⟨rfl, rfl, rfl⟩ := h
        exact ⟨rfl, ‹_›, splitLast?_eq_none_iff.1 hs⟩
      · cases h
    | some found =>
      obtain ⟨b, l, a⟩ := found
      rw [hs] at h
      simp only [Option.some.injEq, Prod.mk.injEq] at h
      obtain ⟨rfl, rfl, rfl⟩ := h
      obtain ⟨rfl, hp, ha⟩ := ih hs
      exact ⟨rfl, hp, ha⟩

/-- The lines that an anchor becomes when the registration of a module follows it. -/
def linked (m : Manifest) (cr anchor : Text) : List Text :=
  [unterminated anchor, registration m cr (isTerminated anchor)]

theorem mem_append_linked_iff {m : Manifest} {cr anchor line : Text} {before after : List Text} :
    line ∈ before ++ linked m cr anchor ++ after ↔ line ∈ before ∨ line = unterminated anchor ∨
      line = registration m cr (isTerminated anchor) ∨ line ∈ after := by
  simp [linked]

theorem register_append (m : Manifest) (cr : Text) {anchor : Text} {after : List Text}
    (hl : isAnchor anchor) (ha : ∀ line ∈ after, isAnchor line = false) (before : List Text) :
    register m.useStatement cr (before ++ anchor :: after) =
      some (before ++ linked m cr anchor ++ after) := by
  rw [register, splitLast?_append hl ha, Option.map_some, linked, unterminated, registration]
  dsimp only
  split <;> simp_all

/-- Either no line is an anchor, or a registration is put after the last one. -/
theorem register_cases (m : Manifest) (cr : Text) (lines : List Text) :
    (register m.useStatement cr lines = none ∧ ∀ line ∈ lines, isAnchor line = false) ∨
      ∃ before anchor after, lines = before ++ anchor :: after ∧ isAnchor anchor ∧
        (∀ line ∈ after, isAnchor line = false) ∧
        register m.useStatement cr lines = some (before ++ linked m cr anchor ++ after) := by
  cases h : splitLast? isAnchor lines with
  | none => exact .inl ⟨by rw [register, h]; rfl, splitLast?_eq_none_iff.1 h⟩
  | some found =>
    obtain ⟨before, anchor, after⟩ := found
    obtain ⟨rfl, hl, ha⟩ := eq_append_of_splitLast? h
    exact .inr ⟨before, anchor, after, rfl, hl, ha, register_append m cr hl ha before⟩

/-! ## One addition -/

/-- The lines with the import of a module, where it is missing. -/
def withImport (cr : Text) (m : Manifest) (lines : List Text) : List Text :=
  let survey := Survey.ofLines 1 lines
  if survey.hasImport m.variableName then lines
  else lines.take survey.lastImportLine ++ (m.importStatement ++ cr) ::
    lines.drop survey.lastImportLine

/-- The lines with the registration of a module, where it is missing and can be put. -/
def withUse (cr : Text) (m : Manifest) (lines : List Text) : List Text :=
  if (Survey.ofLines 1 lines).hasUse m.variableName then lines
  else (register m.useStatement cr lines).getD lines

/-- The lines with a module added. -/
def wired (cr : Text) (m : Manifest) (lines : List Text) : List Text :=
  withUse cr m (withImport cr m lines)

/-- No line that opens like an import holds a registration. -/
def Separated (lines : List Text) : Prop :=
  ∀ line ∈ lines, opensImport line → line.contains useCall = false

section Step

variable {cr : Text} (hcr : IsEnd cr) {m : Manifest} (hm : IsReadable m)

theorem mem_withImport {line : Text} {lines : List Text} (h : line ∈ lines) :
    line ∈ withImport cr m lines := by
  unfold withImport
  dsimp only
  split
  · exact h
  · rw [← List.take_append_drop (Survey.ofLines 1 lines).lastImportLine lines] at h
    rcases List.mem_append.1 h with h | h
    · exact List.mem_append_left _ h
    · exact List.mem_append_right _ (List.mem_cons_of_mem _ h)

theorem of_mem_withImport {line : Text} {lines : List Text} (h : line ∈ withImport cr m lines) :
    line ∈ lines ∨ line = m.importStatement ++ cr := by
  unfold withImport at h
  dsimp only at h
  split at h
  · exact .inl h
  · rcases List.mem_append.1 h with h | h
    · exact .inl (List.mem_of_mem_take h)
    · rcases List.mem_cons.1 h with h | h
      · exact .inr h
      · exact .inl (List.mem_of_mem_drop h)

/-- What is no import of the module is as it was. -/
theorem filter_withImport {q : Text → Bool} (hq : q (m.importStatement ++ cr) = false)
    (lines : List Text) : (withImport cr m lines).filter q = lines.filter q := by
  unfold withImport
  dsimp only
  split
  · rfl
  · rw [List.filter_append, List.filter_cons_of_neg (by simp [hq]), ← List.filter_append,
      List.take_append_drop]

/-- Either nothing is registered, or the module is registered after the last anchor. -/
theorem withUse_cases (cr : Text) (m : Manifest) (lines : List Text) :
    withUse cr m lines = lines ∨ ∃ before anchor after, lines = before ++ anchor :: after ∧
      isAnchor anchor ∧ (∀ line ∈ after, isAnchor line = false) ∧
      withUse cr m lines = before ++ linked m cr anchor ++ after := by
  unfold withUse
  split
  · exact .inl rfl
  · rcases register_cases m cr lines with ⟨hr, -⟩ | ⟨before, anchor, after, hlines, hl, ha, hr⟩
    · exact .inl (by rw [hr]; rfl)
    · exact .inr ⟨before, anchor, after, hlines, hl, ha, by rw [hr]; rfl⟩

/-- A line stays, unless it is the anchor and gives its semicolon away. -/
theorem mem_withUse {line : Text} {lines : List Text} (h : line ∈ lines) :
    line ∈ withUse cr m lines ∨
      isAnchor line ∧ isTerminated line ∧ dropTerminator line ∈ withUse cr m lines := by
  rcases withUse_cases cr m lines with hu | ⟨before, anchor, after, rfl, hl, -, hu⟩
  · rw [hu]; exact .inl h
  · rw [hu, linked]
    rcases List.mem_append.1 h with h | h
    · exact .inl (by simp [h])
    · rcases List.mem_cons.1 h with rfl | h
      · cases ht : isTerminated line
        · exact .inl (by simp [unterminated, ht])
        · exact .inr ⟨hl, rfl, by simp [unterminated, ht]⟩
      · exact .inl (by simp [h])

/-- Every line was there, or is the anchor without its semicolon, or registers the module. -/
theorem of_mem_withUse {line : Text} {lines : List Text} (h : line ∈ withUse cr m lines) :
    line ∈ lines ∨ (∃ anchor ∈ lines, isAnchor anchor ∧ isTerminated anchor ∧
      line = dropTerminator anchor) ∨ ∃ ends, line = registration m cr ends := by
  rcases withUse_cases cr m lines with hu | ⟨before, anchor, after, rfl, hl, -, hu⟩
  · rw [hu] at h; exact .inl h
  · rw [hu, linked] at h
    simp only [List.mem_append, List.mem_cons, List.not_mem_nil, or_false] at h
    rcases h with (h | h | h) | h
    · exact .inl (by simp [h])
    · cases ht : isTerminated anchor
      · exact .inl (by simp [h, unterminated, ht])
      · exact .inr (.inl ⟨anchor, by simp, hl, ht, by simp [h, unterminated, ht]⟩)
    · exact .inr (.inr ⟨_, h⟩)
    · exact .inl (by simp [h])

theorem Separated.not_opensImport {lines : List Text} (hs : Separated lines) {anchor : Text}
    (ha : anchor ∈ lines) (hl : isAnchor anchor) : opensImport anchor = false := by
  cases ho : opensImport anchor
  · rfl
  · rw [isAnchor, hs anchor ha ho] at hl
    cases hl

/-- An anchor that gives its semicolon away is still what it was. -/
theorem Separated.lineKind_dropTerminator {lines : List Text} (hs : Separated lines) {anchor : Text}
    (ha : anchor ∈ lines) (hl : isAnchor anchor) (ht : isTerminated anchor) :
    lineKind (dropTerminator anchor) = lineKind anchor := by
  have ho := hs.not_opensImport ha hl
  rw [lineKind_of_not_opensImport ho, lineKind_of_not_opensImport
    (by rw [opensImport_dropTerminator ht, ho]), useOf?_dropTerminator ht]

theorem imports_withUse {lines : List Text} (hs : Separated lines) {name : Text}
    (h : Imports lines name) : Imports (withUse cr m lines) name := by
  obtain ⟨line, hline, path, hk⟩ := h
  refine ⟨line, ?_, path, hk⟩
  rcases mem_withUse hline with h | ⟨hl, -⟩
  · exact h
  · -- an import is no anchor
    have ho := opensImport_of_lineKind hk
    rw [hs.not_opensImport hline hl] at ho
    cases ho

theorem registers_withUse {lines : List Text} (hs : Separated lines) {name : Text}
    (h : Registers lines name) : Registers (withUse cr m lines) name := by
  obtain ⟨line, hline, hk⟩ := h
  rcases mem_withUse hline with h | ⟨hl, ht, h⟩
  · exact ⟨line, h, hk⟩
  · -- the anchor registers the same without its semicolon
    exact ⟨_, h, by rw [hs.lineKind_dropTerminator hline hl ht, hk]⟩

include hcr hm

theorem isAnchor_importStatement : isAnchor (m.importStatement ++ cr) = false := by
  rw [isAnchor, not_contains_importStatement hm hcr.isBlank]; rfl

theorem separated_withImport {lines : List Text} (hs : Separated lines) :
    Separated (withImport cr m lines) := by
  intro line hline
  rcases of_mem_withImport hline with h | rfl
  · exact hs line h
  · exact fun _ => not_contains_importStatement hm hcr.isBlank

theorem separated_wired {lines : List Text} (hs : Separated lines) :
    Separated (wired cr m lines) := by
  have himport := separated_withImport hcr hm hs
  intro line hline ho
  rcases of_mem_withUse hline with h | ⟨anchor, ha, hl, ht, rfl⟩ | ⟨ends, rfl⟩
  · exact himport line h ho
  · rw [opensImport_dropTerminator ht, himport.not_opensImport ha hl] at ho
    cases ho
  · rw [opensImport_registration] at ho
    cases ho

theorem newline_notMem_wired {lines : List Text}
    (hn : ∀ line ∈ lines, CodePoint.ofChar '\n' ∉ line) :
    ∀ line ∈ wired cr m lines, CodePoint.ofChar '\n' ∉ line := by
  have himport : ∀ line ∈ withImport cr m lines, CodePoint.ofChar '\n' ∉ line := by
    intro line hline
    rcases of_mem_withImport hline with h | rfl
    · exact hn line h
    · exact newline_notMem_importStatement hm.name hm.newline hcr.newline_notMem
  intro line hline
  rcases of_mem_withUse hline with h | ⟨anchor, ha, -, ht, rfl⟩ | ⟨ends, rfl⟩
  · exact himport line h
  · have hdropped := newline_notMem_unterminated (himport _ ha)
    rwa [unterminated, if_pos ht] at hdropped
  · exact newline_notMem_registration m hcr hm.name ends

theorem registers_withImport {lines : List Text} {name : Text} :
    Registers (withImport cr m lines) name ↔ Registers lines name := by
  constructor
  · rintro ⟨line, hline, hk⟩
    rcases of_mem_withImport hline with h | rfl
    · exact ⟨line, h, hk⟩
    · rw [lineKind_importStatement hm hcr.isBlank] at hk
      cases hk
  · rintro ⟨line, hline, hk⟩
    exact ⟨line, mem_withImport hline, hk⟩

theorem imports_withImport_self (lines : List Text) :
    Imports (withImport cr m lines) m.variableName := by
  unfold withImport
  dsimp only
  split
  · rwa [← hasImport_ofLines 1]
  · exact ⟨m.importStatement ++ cr, by simp, m.importPath, lineKind_importStatement hm hcr.isBlank⟩

/-- Without an anchor none comes in. -/
theorem unanchored_withImport {lines : List Text} (h : ∀ line ∈ lines, isAnchor line = false) :
    ∀ line ∈ withImport cr m lines, isAnchor line = false := by
  intro line hline
  rcases of_mem_withImport hline with hl | rfl
  · exact h line hl
  · exact isAnchor_importStatement hcr hm

omit hcr hm in
theorem withUse_of_unanchored {lines : List Text} (h : ∀ line ∈ lines, isAnchor line = false) :
    withUse cr m lines = lines := by
  have hnone : register m.useStatement cr lines = none := by
    rw [register, splitLast?_eq_none_iff.2 h]; rfl
  unfold withUse
  split
  · rfl
  · rw [hnone]; rfl

theorem registers_withUse_self (lines : List Text) :
    Registers (withUse cr m lines) m.variableName ∨
      ∀ line ∈ withUse cr m lines, isAnchor line = false := by
  rcases register_cases m cr lines with ⟨hr, hl⟩ | ⟨before, anchor, after, -, hl, -, hr⟩
  · rw [withUse_of_unanchored hl]
    exact .inr hl
  · refine .inl ?_
    unfold withUse
    split
    · rwa [← hasUse_ofLines 1]
    · rw [hr, Option.getD_some, linked]
      exact ⟨registration m cr (isTerminated anchor), by simp, lineKind_registration m hcr hm.name _⟩

end Step

/-! ## Modules that are wired -/

/-- A module whose import is recognised, and whose registration is recognised if there is an anchor
for one. -/
structure IsWired (lines : List Text) (m : Manifest) : Prop where
  imports : Imports lines m.variableName
  registers : Registers lines m.variableName ∨ ∀ line ∈ lines, isAnchor line = false

section Wired

variable {cr : Text} (hcr : IsEnd cr) {m : Manifest} (hm : IsReadable m) {lines : List Text}
  (hs : Separated lines)
include hcr hm hs

theorem isWired_wired_self : IsWired (wired cr m lines) m :=
  ⟨imports_withUse (separated_withImport hcr hm hs) (imports_withImport_self hcr hm lines),
    registers_withUse_self hcr hm _⟩

/-- Adding one module leaves another one wired. -/
theorem isWired_wired {other : Manifest} (h : IsWired lines other) :
    IsWired (wired cr m lines) other := by
  have himport := separated_withImport hcr hm hs
  have hmem : Imports (withImport cr m lines) other.variableName := by
    obtain ⟨line, hline, hk⟩ := h.imports
    exact ⟨line, mem_withImport hline, hk⟩
  refine ⟨imports_withUse himport hmem, ?_⟩
  rcases h.registers with h | h
  · exact .inl (registers_withUse himport ((registers_withImport hcr hm).2 h))
  · -- without an anchor nothing can be registered, and none comes in
    have hl := unanchored_withImport hcr hm h
    rw [wired, withUse_of_unanchored hl]
    exact .inr hl

end Wired

/-! ## Texts -/

/-- Registrations are looked for before the import is put in. -/
theorem text_upsert_eq (t : Text) (m : Manifest) :
    let lines := withImport (lineEnd t) m t.lines
    (upsert t m).text = Text.unlines
      (if (Survey.ofText t).hasUse m.variableName then lines
      else (register m.useStatement (lineEnd t) lines).getD lines) := by
  intro lines
  unfold lines withImport upsert Survey.ofText
  dsimp only
  cases (Survey.ofLines 1 t.lines).hasImport m.variableName <;>
    cases (Survey.ofLines 1 t.lines).hasUse m.variableName
  · simp only [Bool.not_false, Bool.and_self, Bool.not_true, Bool.false_eq_true, if_false, if_true]
    split <;> rename_i hr <;> rw [hr] <;> rfl
  · rfl
  · simp only [Bool.not_false, Bool.not_true, Bool.and_false, Bool.false_eq_true, if_false, if_true]
    split <;> rename_i hr <;> rw [hr] <;> rfl
  · exact (Text.unlines_lines t).symm

/-- An addition of a module whose import is no registration. -/
theorem text_upsert {m : Manifest} (hm : IsReadable m) (t : Text) :
    (upsert t m).text = Text.unlines (wired (lineEnd t) m t.lines) := by
  have huse : (Survey.ofLines 1 (withImport (lineEnd t) m t.lines)).hasUse m.variableName =
      (Survey.ofText t).hasUse m.variableName := by
    rw [Survey.ofText, Bool.eq_iff_iff, hasUse_ofLines, hasUse_ofLines,
      registers_withImport (isEnd_lineEnd t) hm]
  rw [text_upsert_eq, wired, withUse, huse]

/-- An addition works on lines. -/
theorem lines_upsert {m : Manifest} (hm : IsReadable m) (t : Text) :
    (upsert t m).text.lines = wired (lineEnd t) m t.lines := by
  have hne : wired (lineEnd t) m t.lines ≠ [] := by
    obtain ⟨line, rest, hline⟩ := List.exists_cons_of_ne_nil (Text.lines_ne_nil t)
    have hmem : line ∈ t.lines := by rw [hline]; exact List.mem_cons_self
    rcases mem_withUse (mem_withImport hmem) with h | ⟨-, -, h⟩ <;> exact List.ne_nil_of_mem h
  rw [text_upsert hm, Text.lines_unlines hne
    (newline_notMem_wired (isEnd_lineEnd t) hm fun _ => Text.newline_notMem_of_mem_lines)]

theorem length_withImport {cr : Text} {m : Manifest} {lines : List Text}
    (h : ¬Imports lines m.variableName) :
    (withImport cr m lines).length = lines.length + 1 := by
  have hnot : ¬(Survey.ofLines 1 lines).hasImport m.variableName := fun hi =>
    h ((hasImport_ofLines 1 lines m.variableName).1 hi)
  rw [withImport, if_neg hnot, List.length_append, List.length_cons, ← Nat.add_assoc,
    ← List.length_append, List.take_append_drop]

theorem length_le_withUse (cr : Text) (m : Manifest) (lines : List Text) :
    lines.length ≤ (withUse cr m lines).length := by
  rcases withUse_cases cr m lines with hu | ⟨before, anchor, after, rfl, -, -, hu⟩
  · rw [hu]
  · rw [hu, linked]
    simp only [List.length_append, List.length_cons, List.length_nil]
    omega

/-- A module that is not imported yet changes the text. -/
theorem upsert_ne {m : Manifest} (hm : IsReadable m) {t : Text}
    (h : ¬Imports t.lines m.variableName) : (upsert t m).text ≠ t := by
  intro hsame
  -- there is one line more, for the import
  have hlines := lines_upsert hm t
  have hlength := length_le_withUse (lineEnd t) m (withImport (lineEnd t) m t.lines)
  rw [length_withImport h] at hlength
  rw [hsame, wired] at hlines
  rw [← hlines] at hlength
  omega

/-- A module that is wired is not added again. -/
theorem upsert_of_isWired {t : Text} {m : Manifest} (h : IsWired t.lines m) :
    (upsert t m).text = t ∧ (upsert t m).importAdded = false ∧ (upsert t m).useAdded = false := by
  have himport : (Survey.ofText t).hasImport m.variableName = true :=
    (hasImport_ofLines 1 _ _).2 h.imports
  unfold upsert
  dsimp only
  rw [himport]
  rcases h.registers with hr | hl
  · have huse : (Survey.ofText t).hasUse m.variableName = true := (hasUse_ofLines 1 _ _).2 hr
    rw [huse]
    exact ⟨rfl, rfl, rfl⟩
  · have hnone : register m.useStatement (lineEnd t) t.lines = none := by
      rw [register, splitLast?_eq_none_iff.2 hl]; rfl
    cases (Survey.ofText t).hasUse m.variableName
    · simp [hnone, Text.unlines_lines]
    · exact ⟨rfl, rfl, rfl⟩

/-! ## Additions one after the other -/

/-- A text with modules added, one after the other. -/
def upsertAll (t : Text) (ms : List Manifest) : Text := ms.foldl (fun t m => (upsert t m).text) t

theorem upsertAll_cons (t : Text) (m : Manifest) (ms : List Manifest) :
    upsertAll t (m :: ms) = upsertAll (upsert t m).text ms := rfl

section Runs

variable {t : Text} {ms : List Manifest} (hms : ∀ m ∈ ms, IsReadable m) (hs : Separated t.lines)
include hms hs

theorem isWired_upsertAll {other : Manifest} (h : IsWired t.lines other) :
    IsWired (upsertAll t ms).lines other := by
  induction ms generalizing t with
  | nil => exact h
  | cons m ms ih =>
    have hm := hms m List.mem_cons_self
    refine ih (fun m hm => hms m (List.mem_cons_of_mem _ hm)) ?_ ?_
    · rw [lines_upsert hm]
      exact separated_wired (isEnd_lineEnd t) hm hs
    · rw [lines_upsert hm]
      exact isWired_wired (isEnd_lineEnd t) hm hs h

/-- Every module that was added is wired in the end. -/
theorem isWired_of_mem : ∀ m ∈ ms, IsWired (upsertAll t ms).lines m := by
  induction ms generalizing t with
  | nil => exact fun m hm => absurd hm List.not_mem_nil
  | cons first ms ih =>
    have hfirst := hms first List.mem_cons_self
    have hrest : ∀ m ∈ ms, IsReadable m := fun m hm => hms m (List.mem_cons_of_mem _ hm)
    have hs' : Separated (upsert t first).text.lines := by
      rw [lines_upsert hfirst]
      exact separated_wired (isEnd_lineEnd t) hfirst hs
    intro m hm
    rcases List.mem_cons.1 hm with rfl | hm
    · refine isWired_upsertAll hrest hs' ?_
      rw [lines_upsert hfirst]
      exact isWired_wired_self (isEnd_lineEnd t) hfirst hs
    · exact ih hrest hs' m hm

end Runs

theorem upsertAll_of_isWired {t : Text} {ms : List Manifest} (h : ∀ m ∈ ms, IsWired t.lines m) :
    upsertAll t ms = t := by
  induction ms with
  | nil => rfl
  | cons m ms ih =>
    rw [upsertAll_cons, (upsert_of_isWired (h m List.mem_cons_self)).1]
    exact ih fun m hm => h m (List.mem_cons_of_mem _ hm)

/-- Once modules have been added, adding any of them again changes nothing, and neither does adding
all of them again. -/
theorem upsertAll_settles {t : Text} {ms : List Manifest} (hms : ∀ m ∈ ms, IsReadable m)
    (hs : Separated t.lines) :
    (∀ m ∈ ms, (upsert (upsertAll t ms) m).text = upsertAll t ms ∧
      (upsert (upsertAll t ms) m).importAdded = false ∧
      (upsert (upsertAll t ms) m).useAdded = false) ∧
    upsertAll (upsertAll t ms) ms = upsertAll t ms := by
  have hwired := isWired_of_mem hms hs
  exact ⟨fun m hm => upsert_of_isWired (hwired m hm), upsertAll_of_isWired hwired⟩

/-- A text that imports the first module but does not register it. -/
theorem upsertAll_settles_halfWired :
    let t : Text := "import bV1Routes from \"./b.routes\";\r\napp\r\n  .use(aRoutes);\r\n"
    let ms : List Manifest := [⟨"b", "v1", "bV1Routes", "./x/b.routes", "x", none⟩,
      ⟨"c", "v1", "cV1", "./x/c.routes", "x", none⟩]
    (upsertAll t ms).lines = ["import bV1Routes from \"./b.routes\";\r",
        "import cV1 from \"./x/c.routes\";\r", "app\r", "  .use(aRoutes)\r",
        "  .use(bV1Routes)\r", "  .use(cV1);\r", ""] ∧
      upsertAll (upsertAll t ms) ms = upsertAll t ms := by
  intro t ms
  have hms : ∀ m ∈ ms, IsReadable m := by
    intro m hm
    rcases List.mem_cons.1 hm with rfl | hm
    · exact ⟨⟨by decide, by decide⟩, by decide, by decide, by decide, by decide⟩
    · rw [List.mem_singleton.1 hm]
      exact ⟨⟨by decide, by decide⟩, by decide, by decide, by decide, by decide⟩
  have hs : Separated t.lines := by
    unfold Separated
    decide
  exact ⟨by decide +kernel, (upsertAll_settles hms hs).2⟩

end Routewright.Aggregator
