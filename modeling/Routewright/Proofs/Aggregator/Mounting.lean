/-
Which modules are mounted after a run of additions: imported from where they are, and registered. A
module is known by its variable alone, so of several modules with one variable only the first is
imported; and the last anchor, if it opens like an import, can become one when it gives its semicolon
away, and stand for a module that it does not import.
-/
import Routewright.Proofs.Aggregator.RoundTrip

namespace Routewright.Aggregator

/-! ## Imports that hold calls -/

theorem useCall_eq_cons : useCall = CodePoint.ofChar '.' :: ("use(" : Text) := by decide

theorem useCall_eq_concat : useCall = (".use" : Text) ++ [CodePoint.ofChar '('] := by decide

/-- An import that holds a call holds it in its path. -/
theorem contains_path_of_lineKind {line name path : Text} (h : lineKind line = .importOf name path)
    (hcall : line.contains useCall) : path.contains useCall := by
  obtain ⟨⟨head, tail, hcode, hhead, htail⟩, -⟩ :=
    eq_append_of_importOf? (importOf?_of_lineKind h)
  obtain ⟨before, after, hline, hb, ha⟩ := Text.exists_eq_strip line
  have hparts : line = (before ++ head) ++ (path ++ (tail ++ after)) := by
    rw [hcode] at hline
    simpa using hline
  have hdot : CodePoint.ofChar '.' ∉ before ++ head := by
    rw [List.mem_append, not_or]
    exact ⟨fun hc => absurd (hb _ hc) (by decide), hhead⟩
  have hparen : CodePoint.ofChar '(' ∉ tail ++ after := by
    rw [List.mem_append, not_or]
    exact ⟨htail, fun hc => absurd (ha _ hc) (by decide)⟩
  rw [Text.contains_iff, hparts, useCall_eq_cons] at hcall
  have hpath := Text.infix_of_infix_append_right hdot hcall
  rw [← useCall_eq_cons, useCall_eq_concat] at hpath
  rw [Text.contains_iff, useCall_eq_concat]
  exact Text.infix_of_infix_append_left hparen hpath

/-- An anchor keeps its call without its semicolon. -/
theorem contains_unterminated {anchor : Text} (h : anchor.contains useCall) :
    (unterminated anchor).contains useCall := by
  unfold unterminated
  split
  · obtain ⟨code, blanks, rfl, hb⟩ := isTerminated_iff.1 (by assumption)
    have hparen : CodePoint.ofChar '(' ∉ CodePoint.ofChar ';' :: blanks :=
      fun hc => by
        rcases List.mem_cons.1 hc with hc | hc
        · exact absurd hc (by decide)
        · exact absurd (hb _ hc) (by decide)
    rw [Text.contains_iff, useCall_eq_concat] at h
    have hcode := Text.infix_of_infix_append_left hparen h
    rw [dropTerminator_terminated code hb]
    exact Text.contains_append_left blanks (Text.contains_iff.2 (useCall_eq_concat ▸ hcode))
  · exact h

theorem contains_of_isAnchor {line : Text} (h : isAnchor line) : line.contains useCall :=
  (Bool.and_eq_true_iff.1 h).1

/-! ## One addition -/

theorem imports_iff_exists_importsAs {lines : List Text} {name : Text} :
    Imports lines name ↔ ∃ path, ImportsAs lines name path := by
  constructor
  · rintro ⟨line, hline, path, hk⟩
    exact ⟨path, line, hline, hk⟩
  · rintro ⟨path, line, hline, hk⟩
    exact ⟨line, hline, path, hk⟩

/-- An anchor that does not stand for an import of a variable from a path, neither as it is nor
without its semicolon. -/
structure NeverImports (anchor name path : Text) : Prop where
  before : lineKind anchor ≠ .importOf name path
  after : lineKind (unterminated anchor) ≠ .importOf name path

theorem neverImports_of_not_opensImport {anchor : Text} (h : opensImport anchor = false)
    (name path : Text) : NeverImports anchor name path := by
  have hnot : ∀ line, opensImport line = false → lineKind line ≠ .importOf name path := by
    intro line ho hk
    rw [opensImport_of_lineKind hk] at ho
    cases ho
  exact ⟨hnot _ h, hnot _ (opensImport_unterminated h)⟩

/-- Where an anchor stands for an import, it does so with its call in the path. -/
theorem neverImports_of_contains_eq_false {anchor path : Text} (h : isAnchor anchor)
    (hp : path.contains useCall = false) (name : Text) : NeverImports anchor name path := by
  have hnot : ∀ line : Text, line.contains useCall → lineKind line ≠ .importOf name path := by
    intro line hcall hk
    rw [contains_path_of_lineKind hk hcall] at hp
    cases hp
  have hcall := contains_of_isAnchor h
  exact ⟨hnot _ hcall, hnot _ (contains_unterminated hcall)⟩

section Step

variable {cr : Text} (hcr : IsEnd cr) {m : Manifest} (hm : IsReadable m) {lines : List Text}
  {name path : Text}
include hcr hm

theorem importsAs_withImport_iff :
    ImportsAs (withImport cr m lines) name path ↔ ImportsAs lines name path ∨
      (¬Imports lines m.variableName ∧ name = m.variableName ∧ path = m.importPath) := by
  by_cases hi : Imports lines m.variableName
  · have hsame : withImport cr m lines = lines := if_pos ((hasImport_ofLines 1 _ _).2 hi)
    simp [hsame, hi]
  · constructor
    · rintro ⟨line, hline, hk⟩
      rcases of_mem_withImport hline with h | rfl
      · exact .inl ⟨line, h, hk⟩
      · rw [lineKind_importStatement hm hcr.isBlank] at hk
        obtain ⟨rfl, rfl⟩ := LineKind.importOf.inj hk
        exact .inr ⟨hi, rfl, rfl⟩
    · rintro (⟨line, hline, hk⟩ | ⟨-, rfl, rfl⟩)
      · exact ⟨line, mem_withImport hline, hk⟩
      · have hmem : m.importStatement ++ cr ∈ withImport cr m lines := by
          rw [withImport, if_neg (by rwa [hasImport_ofLines])]
          simp
        exact ⟨_, hmem, lineKind_importStatement hm hcr.isBlank⟩

/-- Registering a module changes no import that the last anchor does not stand for. -/
theorem importsAs_withUse_iff
    (h : ∀ anchor, lastAnchor? lines = some anchor → NeverImports anchor name path) :
    ImportsAs (withUse cr m lines) name path ↔ ImportsAs lines name path := by
  rcases withUse_cases cr m lines with hu | ⟨before, anchor, after, rfl, hl, ha, hu⟩
  · rw [hu]
  · have hnever := h anchor (lastAnchor?_append hl ha before)
    have hregistration : lineKind (registration m cr (isTerminated anchor)) ≠ .importOf name path := by
      rw [lineKind_registration m hcr hm.name]
      exact LineKind.noConfusion
    rw [hu]
    constructor
    · rintro ⟨line, hline, hk⟩
      rcases mem_append_linked_iff.1 hline with hmem | rfl | rfl | hmem
      · exact ⟨line, by simp [hmem], hk⟩
      · exact absurd hk hnever.after
      · exact absurd hk hregistration
      · exact ⟨line, by simp [hmem], hk⟩
    · rintro ⟨line, hline, hk⟩
      simp only [List.mem_append, List.mem_cons] at hline
      rcases hline with hmem | rfl | hmem
      · exact ⟨line, mem_append_linked_iff.2 (.inl hmem), hk⟩
      · exact absurd hk hnever.before
      · exact ⟨line, mem_append_linked_iff.2 (.inr (.inr (.inr hmem))), hk⟩

variable (lines name) in
/-- An addition imports the module from its path if nothing has its variable, and leaves all other
imports that hold no call. -/
theorem importsAs_wired_iff (hp : path.contains useCall = false) :
    ImportsAs (wired cr m lines) name path ↔ ImportsAs lines name path ∨
      (¬Imports lines m.variableName ∧ name = m.variableName ∧ path = m.importPath) := by
  rw [wired, importsAs_withUse_iff hcr hm, importsAs_withImport_iff hcr hm]
  intro anchor hlast
  obtain ⟨before, after, -, hl, -⟩ := eq_append_of_lastAnchor? hlast
  exact neverImports_of_contains_eq_false hl hp name

end Step

/-! ## Lines that can be mounted to -/

/-- Lines that have an anchor, the last of which opens no import. -/
structure IsMountable (lines : List Text) : Prop where
  anchored : lastAnchor? lines ≠ none
  clear : IsClear lines

section Mountable

variable {cr : Text} (hcr : IsEnd cr) {m : Manifest} (hm : IsRecognisable m) {lines : List Text}
include hcr hm

/-- Once a module has been registered behind the last anchor, its registration is the last anchor. -/
theorem isMountable_wired_of_not_registers (hanchored : lastAnchor? lines ≠ none)
    (h : ¬Registers lines m.variableName) :
    IsMountable (wired cr m lines) ∧ Registers (wired cr m lines) m.variableName := by
  rw [← lastAnchor?_withImport hm.toIsReadable hcr] at hanchored
  rw [← registers_withImport hcr hm.toIsReadable] at h
  obtain ⟨anchor, hlast⟩ := Option.ne_none_iff_exists'.1 hanchored
  obtain ⟨before, after, hlines, hl, ha⟩ := eq_append_of_lastAnchor? hlast
  have hlinked : wired cr m lines = before ++ linked m cr anchor ++ after := by
    rw [hlines] at h
    rw [wired, hlines, withUse_append hl ha h]
  have hmem : registration m cr (isTerminated anchor) ∈ before ++ linked m cr anchor ++ after :=
    mem_append_linked_iff.2 (.inr (.inr (.inl rfl)))
  have hlast' := lastAnchor?_linked hm cr anchor before ha
  rw [hlinked]
  refine ⟨⟨by rw [hlast']; exact Option.some_ne_none _, fun last h => ?_⟩,
    _, hmem, lineKind_registration m hcr hm.name _⟩
  rw [hlast'] at h
  rw [← Option.some.inj h]
  exact opensImport_registration m cr _

theorem isMountable_wired (h : IsMountable lines) :
    IsMountable (wired cr m lines) ∧ Registers (wired cr m lines) m.variableName := by
  by_cases hregisters : Registers lines m.variableName
  · have himport := (registers_withImport hcr hm.toIsReadable).2 hregisters
    rw [wired, withUse_of_registers himport]
    refine ⟨⟨?_, isClear_withImport hm hcr h.clear⟩, himport⟩
    rw [lastAnchor?_withImport hm.toIsReadable hcr]
    exact h.anchored
  · exact isMountable_wired_of_not_registers hcr hm h.anchored hregisters

theorem imports_wired_iff (h : IsMountable lines) (name : Text) :
    Imports (wired cr m lines) name ↔ Imports lines name ∨ name = m.variableName := by
  have hclear := isClear_withImport hm hcr h.clear
  have hstep : ∀ path, ImportsAs (wired cr m lines) name path ↔ ImportsAs lines name path ∨
      (¬Imports lines m.variableName ∧ name = m.variableName ∧ path = m.importPath) := by
    intro path
    rw [wired, importsAs_withUse_iff hcr hm.toIsReadable, importsAs_withImport_iff hcr hm.toIsReadable]
    exact fun anchor hlast => neverImports_of_not_opensImport (hclear anchor hlast) name path
  rw [imports_iff_exists_importsAs, imports_iff_exists_importsAs]
  simp only [hstep]
  constructor
  · rintro ⟨path, h | ⟨-, rfl, -⟩⟩
    · exact .inl ⟨path, h⟩
    · exact .inr rfl
  · rintro (⟨path, h⟩ | rfl)
    · exact ⟨path, .inl h⟩
    · by_cases hi : Imports lines m.variableName
      · obtain ⟨path, h⟩ := imports_iff_exists_importsAs.1 hi
        exact ⟨path, .inl h⟩
      · exact ⟨m.importPath, .inr ⟨hi, rfl, rfl⟩⟩

omit hm in
/-- The registrations of mountable lines stay. -/
theorem registers_wired (hm : IsReadable m) (h : IsClear (withImport cr m lines)) {name : Text}
    (hr : Registers lines name) : Registers (wired cr m lines) name := by
  obtain ⟨line, hline, hk⟩ := (registers_withImport hcr hm).2 hr
  rw [wired]
  rcases withUse_cases cr m (withImport cr m lines) with hu | ⟨before, anchor, after, hlines, hl, ha, hu⟩
  · rw [hu]
    exact ⟨line, hline, hk⟩
  · have ho := h anchor (by rw [hlines, lastAnchor?_append hl ha])
    rw [hlines] at hline
    rw [hu]
    simp only [List.mem_append, List.mem_cons] at hline
    rcases hline with hmem | rfl | hmem
    · exact ⟨line, mem_append_linked_iff.2 (.inl hmem), hk⟩
    · refine ⟨unterminated line, mem_append_linked_iff.2 (.inr (.inl rfl)), ?_⟩
      rw [lineKind_unterminated fun _ => ho, hk]
    · exact ⟨line, mem_append_linked_iff.2 (.inr (.inr (.inr hmem))), hk⟩

end Mountable

/-! ## Additions one after the other -/

/-- The first of some modules that has a variable. -/
def firstNamed (ms : List Manifest) (name : Text) : Option Manifest :=
  ms.find? (·.variableName == name)

theorem firstNamed_cons_self (m : Manifest) (ms : List Manifest) :
    firstNamed (m :: ms) m.variableName = some m :=
  List.find?_cons_of_pos (by simp)

theorem firstNamed_cons_of_ne {m : Manifest} {name : Text} (h : name ≠ m.variableName)
    (ms : List Manifest) : firstNamed (m :: ms) name = firstNamed ms name :=
  List.find?_cons_of_neg (by simpa using h.symm)

section Runs

variable {t : Text} {ms : List Manifest} (hms : ∀ m ∈ ms, IsRecognisable m)
  (h : IsMountable t.lines)
include hms h

theorem registers_upsertAll {name : Text}
    (hr : Registers t.lines name ∨ ∃ m ∈ ms, name = m.variableName) :
    Registers (upsertAll t ms).lines name := by
  induction ms generalizing t with
  | nil => simpa [upsertAll] using hr
  | cons first ms ih =>
    have hfirst := hms first List.mem_cons_self
    have hcr := isEnd_lineEnd t
    obtain ⟨hnext, hself⟩ := isMountable_wired hcr hfirst h
    rw [← lines_upsert hfirst.toIsReadable] at hnext hself
    refine ih (fun m hm => hms m (List.mem_cons_of_mem _ hm)) hnext ?_
    rcases hr with hr | ⟨m, hm, rfl⟩
    · rw [lines_upsert hfirst.toIsReadable]
      exact .inl (registers_wired hcr hfirst.toIsReadable (isClear_withImport hfirst hcr h.clear) hr)
    · rcases List.mem_cons.1 hm with rfl | hm
      · exact .inl hself
      · exact .inr ⟨m, hm, rfl⟩

theorem imports_upsertAll_iff {name : Text} : Imports (upsertAll t ms).lines name ↔
    Imports t.lines name ∨ ∃ m ∈ ms, name = m.variableName := by
  induction ms generalizing t with
  | nil => simp [upsertAll]
  | cons first ms ih =>
    have hfirst := hms first List.mem_cons_self
    have hcr := isEnd_lineEnd t
    have hstep := imports_wired_iff hcr hfirst h name
    obtain ⟨hnext, -⟩ := isMountable_wired hcr hfirst h
    rw [← lines_upsert hfirst.toIsReadable] at hnext hstep
    rw [upsertAll_cons, ih (fun m hm => hms m (List.mem_cons_of_mem _ hm)) hnext, hstep]
    simp only [List.mem_cons, exists_eq_or_imp, or_assoc]

/-- A variable that is not imported yet comes to be imported from the path of the first module that
has it. -/
theorem importsAs_upsertAll_iff {name path : Text} (hp : path.contains useCall = false) :
    ImportsAs (upsertAll t ms).lines name path ↔ ImportsAs t.lines name path ∨
      (¬Imports t.lines name ∧ ∃ m, firstNamed ms name = some m ∧ path = m.importPath) := by
  induction ms generalizing t with
  | nil => simp [upsertAll, firstNamed]
  | cons first ms ih =>
    have hfirst := hms first List.mem_cons_self
    have hcr := isEnd_lineEnd t
    have hstep := importsAs_wired_iff hcr hfirst.toIsReadable t.lines name hp
    have himports := imports_wired_iff hcr hfirst h name
    obtain ⟨hnext, -⟩ := isMountable_wired hcr hfirst h
    rw [← lines_upsert hfirst.toIsReadable] at hnext hstep himports
    rw [upsertAll_cons, ih (fun m hm => hms m (List.mem_cons_of_mem _ hm)) hnext, hstep, himports]
    by_cases hname : name = first.variableName
    · -- whatever comes later has the variable of something that is imported
      subst hname
      simp [firstNamed_cons_self]
    · simp [firstNamed_cons_of_ne hname, hname]

end Runs

/-! ## Mounted modules -/

/-- Whether the last anchor stands for an import of a variable once it has given its semicolon away. -/
def TurnsInto (anchor name : Text) : Prop := ∃ path, lineKind (unterminated anchor) = .importOf name path

/-- A module comes to be imported from its path when several are added: it is the first one with its
variable, or has the path of the first one, and the last anchor does not come to stand for it. -/
structure ComesIn (ms : List Manifest) (anchor : Text) (m : Manifest) : Prop where
  first : ∃ other, firstNamed ms m.variableName = some other ∧ m.importPath = other.importPath
  anchor : (∃ other, ms.head? = some other ∧ m.variableName = other.variableName) ∨
    ¬TurnsInto anchor m.variableName

theorem comesIn_cons_iff_of_eq {m first : Manifest} (h : m.variableName = first.variableName)
    (rest : List Manifest) (anchor : Text) :
    ComesIn (first :: rest) anchor m ↔ m.importPath = first.importPath := by
  have hfirst : firstNamed (first :: rest) m.variableName = some first := by
    rw [h, firstNamed_cons_self]
  constructor
  · rintro ⟨⟨other, hother, hpath⟩, -⟩
    rw [hfirst] at hother
    rwa [← Option.some.inj hother] at hpath
  · intro hpath
    exact ⟨⟨first, hfirst, hpath⟩, .inl ⟨first, rfl, h⟩⟩

theorem comesIn_cons_iff_of_ne {m first : Manifest} (h : m.variableName ≠ first.variableName)
    (rest : List Manifest) (anchor : Text) : ComesIn (first :: rest) anchor m ↔
      (∃ other, firstNamed rest m.variableName = some other ∧ m.importPath = other.importPath) ∧
        ¬TurnsInto anchor m.variableName := by
  rw [← firstNamed_cons_of_ne h rest]
  constructor
  · rintro ⟨hother, ⟨other, hhead, hsame⟩ | hturns⟩
    · rw [← Option.some.inj hhead] at hsame
      exact absurd hsame h
    · exact ⟨hother, hturns⟩
  · rintro ⟨hother, hturns⟩
    exact ⟨hother, .inr hturns⟩

/-- Of the variables that are not imported yet, the first addition imports its own, and the one that
the last anchor turns into. -/
theorem imports_wired_first_iff {cr : Text} (hcr : IsEnd cr) {m : Manifest} (hm : IsReadable m)
    {lines : List Text} {anchor name : Text} (hlast : lastAnchor? lines = some anchor)
    (hr : ¬Registers lines m.variableName) (hname : ¬Imports lines name) :
    Imports (wired cr m lines) name ↔ name = m.variableName ∨ TurnsInto anchor name := by
  rw [← lastAnchor?_withImport hm hcr] at hlast
  rw [← registers_withImport hcr hm] at hr
  have himport : Imports (withImport cr m lines) name ↔ name = m.variableName := by
    constructor
    · rintro ⟨line, hline, path, hk⟩
      rcases (importsAs_withImport_iff hcr hm).1 ⟨line, hline, hk⟩ with ⟨old, hold, hk'⟩ | ⟨-, h, -⟩
      · exact absurd ⟨old, hold, path, hk'⟩ hname
      · exact h
    · rintro rfl
      exact imports_withImport_self hcr hm lines
  obtain ⟨before, after, hlines, hl, ha⟩ := eq_append_of_lastAnchor? hlast
  rw [hlines] at hr
  rw [← himport, wired, hlines, withUse_append hl ha hr]
  constructor
  · rintro ⟨line, hline, path, hk⟩
    rcases mem_append_linked_iff.1 hline with hmem | rfl | rfl | hmem
    · exact .inl ⟨line, by simp [hmem], path, hk⟩
    · exact .inr ⟨path, hk⟩
    · rw [lineKind_registration m hcr hm.name] at hk
      cases hk
    · exact .inl ⟨line, by simp [hmem], path, hk⟩
  · rintro (h | ⟨path, hk⟩)
    · -- the import of the module itself is no anchor
      rw [← hlines, himport] at h
      have hmem : m.importStatement ++ cr ∈ before ++ anchor :: after := by
        rw [← hlines, withImport, if_neg (by rwa [hasImport_ofLines, ← h])]
        simp
      refine ⟨m.importStatement ++ cr, ?_, m.importPath, h ▸ lineKind_importStatement hm hcr.isBlank⟩
      have hne : m.importStatement ++ cr ≠ anchor := fun heq => by
        rw [← heq, isAnchor_importStatement hcr hm] at hl
        cases hl
      simp only [List.mem_append, List.mem_cons, hne, false_or] at hmem
      rw [mem_append_linked_iff]
      exact hmem.imp_right fun hmem => .inr (.inr hmem)
    · exact ⟨unterminated anchor, mem_append_linked_iff.2 (.inr (.inl rfl)), path, hk⟩

/-- Modules that are new to a text with an anchor are all imported and registered when they have been
added, and those that come in are imported from their paths. -/
theorem mounts_upsertAll {t : Text} {ms : List Manifest} {anchor : Text}
    (hms : ∀ m ∈ ms, IsRecognisable m) (hlast : lastAnchor? t.lines = some anchor)
    (hi : ∀ m ∈ ms, ¬Imports t.lines m.variableName)
    (hr : ∀ m ∈ ms, ¬Registers t.lines m.variableName) : ∀ m ∈ ms,
    Imports (upsertAll t ms).lines m.variableName ∧
      Registers (upsertAll t ms).lines m.variableName ∧
        (ImportsAs (upsertAll t ms).lines m.variableName m.importPath ↔ ComesIn ms anchor m) := by
  cases ms with
  | nil => simp
  | cons first rest =>
    -- the first addition leaves lines that can be mounted to, the others keep them so
    have hfirst := hms first List.mem_cons_self
    have hrest : ∀ m ∈ rest, IsRecognisable m := fun m hm => hms m (List.mem_cons_of_mem _ hm)
    have hcr := isEnd_lineEnd t
    obtain ⟨hnext, hself⟩ := isMountable_wired_of_not_registers hcr hfirst
      (by rw [hlast]; exact Option.some_ne_none _) (hr first List.mem_cons_self)
    rw [← lines_upsert hfirst.toIsReadable] at hnext hself
    intro m hm
    have himported := imports_wired_first_iff hcr hfirst.toIsReadable hlast
      (hr first List.mem_cons_self) (hi m hm)
    have hfrom := importsAs_wired_iff hcr hfirst.toIsReadable t.lines m.variableName (hms m hm).call
    rw [← lines_upsert hfirst.toIsReadable] at himported hfrom
    have hnot : ¬ImportsAs t.lines m.variableName m.importPath := fun h =>
      hi m hm (imports_iff_exists_importsAs.2 ⟨_, h⟩)
    have hmem : m.variableName = first.variableName ∨ ∃ n ∈ rest, m.variableName = n.variableName := by
      rcases List.mem_cons.1 hm with rfl | hm
      · exact .inl rfl
      · exact .inr ⟨m, hm, rfl⟩
    rw [upsertAll_cons]
    refine ⟨?_, ?_, ?_⟩
    · rw [imports_upsertAll_iff hrest hnext, himported]
      exact hmem.imp_left .inl
    · refine registers_upsertAll hrest hnext (hmem.imp_left fun h => ?_)
      rwa [h]
    · rw [importsAs_upsertAll_iff hrest hnext (hms m hm).call, hfrom, himported]
      by_cases hname : m.variableName = first.variableName
      · rw [comesIn_cons_iff_of_eq hname, or_iff_right hnot]
        simp [hi first List.mem_cons_self, hname]
      · rw [comesIn_cons_iff_of_ne hname, or_iff_right hnot]
        simp [hname, and_comm]

end Routewright.Aggregator
