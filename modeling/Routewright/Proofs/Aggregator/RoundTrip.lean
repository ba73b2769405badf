/-
Adding modules and removing them again. While modules are added, the lines that a removal would not
drop are those of the text before with a chain of registrations after the last anchor, and the
semicolon that the anchor gave away stands at the end of that chain. A removal takes the chain away
from its last link to its first and so hands the semicolon back up to the anchor, which takes it over
if it is a link. What comes out is the text before exactly if the anchor had no semicolon to give away
or takes it back where it stood.
-/
import Routewright.Aggregator.Matcher
import Routewright.Proofs.Aggregator.Remove

namespace Routewright.Aggregator

/-! ## The last anchor -/

/-- The last line that a registration can follow. -/
def lastAnchor? (lines : List Text) : Option Text := (lines.filter isAnchor).getLast?

theorem lastAnchor?_append {anchor : Text} {after : List Text} (hl : isAnchor anchor)
    (ha : ∀ line ∈ after, isAnchor line = false) (before : List Text) :
    lastAnchor? (before ++ anchor :: after) = some anchor := by
  have hnone : after.filter isAnchor = [] := by
    rw [List.filter_eq_nil_iff]
    intro line hline
    rw [ha line hline]
    simp
  rw [lastAnchor?, List.filter_append, List.filter_cons_of_pos hl, hnone, List.getLast?_concat]

theorem lastAnchor?_eq_none_iff {lines : List Text} :
    lastAnchor? lines = none ↔ ∀ line ∈ lines, isAnchor line = false := by
  simp [lastAnchor?]

theorem eq_append_of_lastAnchor? {lines : List Text} {anchor : Text}
    (h : lastAnchor? lines = some anchor) :
    ∃ before after, lines = before ++ anchor :: after ∧ isAnchor anchor ∧
      ∀ line ∈ after, isAnchor line = false := by
  cases hs : splitLast? isAnchor lines with
  | none =>
    rw [lastAnchor?_eq_none_iff.2 (splitLast?_eq_none_iff.1 hs)] at h
    cases h
  | some found =>
    obtain ⟨before, last, after⟩ := found
    obtain ⟨rfl, hl, ha⟩ := eq_append_of_splitLast? hs
    rw [lastAnchor?_append hl ha] at h
    obtain rfl := Option.some.inj h
    exact ⟨before, after, rfl, hl, ha⟩

theorem lastAnchor?_linked {m : Manifest} (hm : IsRecognisable m) (cr anchor : Text)
    (before : List Text) {after : List Text} (ha : ∀ line ∈ after, isAnchor line = false) :
    lastAnchor? (before ++ linked m cr anchor ++ after) =
      some (registration m cr (isTerminated anchor)) := by
  have hsplit : before ++ linked m cr anchor ++ after = (before ++ [unterminated anchor]) ++
      registration m cr (isTerminated anchor) :: after := by simp [linked]
  rw [hsplit, lastAnchor?_append (isAnchor_registration hm cr _) ha]

theorem lastAnchor?_withImport {m : Manifest} (hm : IsReadable m) {cr : Text} (hcr : IsEnd cr)
    (lines : List Text) : lastAnchor? (withImport cr m lines) = lastAnchor? lines := by
  rw [lastAnchor?, filter_withImport (isAnchor_importStatement hcr hm)]
  rfl

/-! ## Reached lines -/

/-- What holds of a text's lines while modules are added to it: the targets are the imports that were
written for the modules, no other line imports one of their variables, and an anchor that will give
its semicolon away is not taken for an import. -/
structure Reached (accepts : Acceptance) (ms : List Manifest) (lines : List Text) : Prop where
  targets : ∀ line ∈ lines, isTarget accepts line →
    ∃ m ∈ ms, ∃ cr, IsEnd cr ∧ line = m.importStatement ++ cr
  imports : ∀ line ∈ lines, ∀ m ∈ ms, ∀ path, lineKind line = .importOf m.variableName path →
    isTarget accepts line
  anchor : ∀ anchor, lastAnchor? lines = some anchor → isTerminated anchor →
    opensImport anchor = false

theorem isTarget_congr {accepts : Acceptance} {line other : Text}
    (h : lineKind line = lineKind other) : isTarget accepts line = isTarget accepts other := by
  rw [isTarget, isTarget, h]

theorem isTarget_eq_false_of_useOf {accepts : Acceptance} {line name : Text}
    (h : lineKind line = .useOf name) : isTarget accepts line = false := by
  rw [isTarget, h]

theorem mem_of_mem_core {accepts : Acceptance} {lines : List Text} {line : Text}
    (h : line ∈ core accepts lines) : line ∈ lines := (List.mem_filter.1 h).1

section Step

variable {accepts : Acceptance} {ms : List Manifest} (hms : ∀ m ∈ ms, IsRecognisable m)
  (hacc : ∀ m ∈ ms, accepts m.variableName m.importPath) {cr : Text} (hcr : IsEnd cr)
  {m : Manifest} (hm : m ∈ ms) {lines : List Text} (hr : Reached accepts ms lines)

include hms hr in
theorem Reached.isTarget_eq_false {line : Text} (h : line ∈ lines) (hl : isAnchor line) :
    isTarget accepts line = false := by
  refine Bool.eq_false_iff.2 fun ht => ?_
  obtain ⟨m, hm, cr, hcr, rfl⟩ := hr.targets line h ht
  rw [isAnchor_importStatement hcr (hms m hm).toIsReadable] at hl
  cases hl

include hr in
/-- The anchor after which a registration is put is what it was. -/
theorem Reached.lineKind_unterminated {before after : List Text} {anchor : Text}
    (hlines : lines = before ++ anchor :: after) (hl : isAnchor anchor)
    (ha : ∀ line ∈ after, isAnchor line = false) :
    lineKind (unterminated anchor) = lineKind anchor := by
  exact Aggregator.lineKind_unterminated
    (hr.anchor anchor (by rw [hlines, lastAnchor?_append hl ha]))

include hms hacc hm hcr

theorem isTarget_importStatement : isTarget accepts (m.importStatement ++ cr) := by
  rw [isTarget, lineKind_importStatement (hms m hm).toIsReadable hcr.isBlank]
  exact hacc m hm

theorem core_withImport (lines : List Text) :
    core accepts (withImport cr m lines) = core accepts lines :=
  filter_withImport (by simp [isTarget_importStatement hms hacc hcr hm]) lines

include hr

theorem reached_withImport : Reached accepts ms (withImport cr m lines) := by
  refine ⟨fun line hline ht => ?_, fun line hline m' hm' path hk => ?_, fun anchor hl => ?_⟩
  · rcases of_mem_withImport hline with h | rfl
    · exact hr.targets line h ht
    · exact ⟨m, hm, cr, hcr, rfl⟩
  · rcases of_mem_withImport hline with h | rfl
    · exact hr.imports line h m' hm' path hk
    · exact isTarget_importStatement hms hacc hcr hm
  · rw [lastAnchor?_withImport (hms m hm).toIsReadable hcr] at hl
    exact hr.anchor anchor hl

omit hacc in
theorem reached_withUse : Reached accepts ms (withUse cr m lines) := by
  rcases withUse_cases cr m lines with hu | ⟨before, anchor, after, hlines, hl, ha, hu⟩
  · rw [hu]; exact hr
  have hkind := hr.lineKind_unterminated hlines hl ha
  have hanchor : anchor ∈ lines := by simp [hlines]
  have hregister := lineKind_registration m hcr (hms m hm).name (isTerminated anchor)
  -- every line is one from before, up to its semicolon, or the registration
  have hmem : ∀ line ∈ withUse cr m lines, (∃ old ∈ lines, lineKind line = lineKind old ∧
      (isTarget accepts old → line = old)) ∨
        line = registration m cr (isTerminated anchor) := by
    intro line hline
    rw [hu, linked] at hline
    simp only [List.mem_append, List.mem_cons, List.not_mem_nil, or_false] at hline
    rcases hline with (h | rfl | h) | h
    · exact .inl ⟨line, by simp [hlines, h], rfl, fun _ => rfl⟩
    · refine .inl ⟨anchor, hanchor, hkind, fun ht => ?_⟩
      rw [hr.isTarget_eq_false hms hanchor hl] at ht
      cases ht
    · exact .inr h
    · exact .inl ⟨line, by simp [hlines, h], rfl, fun _ => rfl⟩
  refine ⟨fun line hline ht => ?_, fun line hline m' hm' path hk => ?_, fun last hlast _ => ?_⟩
  · rcases hmem line hline with ⟨old, hold, hk, heq⟩ | rfl
    · rw [isTarget_congr hk] at ht
      rw [heq ht]
      exact hr.targets old hold ht
    · rw [isTarget_eq_false_of_useOf hregister] at ht
      cases ht
  · rcases hmem line hline with ⟨old, hold, hk', -⟩ | rfl
    · rw [isTarget_congr hk']
      exact hr.imports old hold m' hm' path (hk' ▸ hk)
    · rw [hregister] at hk
      cases hk
  · rw [hu, lastAnchor?_linked (hms m hm) cr anchor before ha] at hlast
    obtain rfl := Option.some.inj hlast
    exact opensImport_registration m cr _

theorem reached_wired : Reached accepts ms (wired cr m lines) :=
  reached_withUse hms hcr hm (reached_withImport hms hacc hcr hm hr)

omit hm hacc hcr hms hr in
theorem registers_core {name : Text} :
    Registers (core accepts lines) name ↔ Registers lines name := by
  constructor
  · rintro ⟨line, hline, hk⟩
    exact ⟨line, (List.mem_filter.1 hline).1, hk⟩
  · rintro ⟨line, hline, hk⟩
    exact ⟨line, List.mem_filter.2 ⟨hline, by rw [isTarget_eq_false_of_useOf hk]; rfl⟩, hk⟩

omit hm hacc hcr hms hr in
theorem withUse_of_registers (h : Registers lines m.variableName) : withUse cr m lines = lines := by
  rw [withUse, if_pos ((hasUse_ofLines 1 _ _).2 h)]

omit hm hacc hcr hms hr in
theorem withUse_append {before after : List Text} {anchor : Text} (hl : isAnchor anchor)
    (ha : ∀ line ∈ after, isAnchor line = false)
    (h : ¬Registers (before ++ anchor :: after) m.variableName) :
    withUse cr m (before ++ anchor :: after) = before ++ linked m cr anchor ++ after := by
  rw [withUse, if_neg (by rwa [hasUse_ofLines]), register_append m cr hl ha, Option.getD_some]

omit hacc in
/-- Registering a module among all lines registers it among those that are no targets. -/
theorem core_withUse :
    core accepts (withUse cr m lines) = withUse cr m (core accepts lines) := by
  by_cases hregisters : Registers lines m.variableName
  · rw [withUse_of_registers hregisters, withUse_of_registers (registers_core.2 hregisters)]
  cases hlast : lastAnchor? lines with
  | none =>
    have hnone := lastAnchor?_eq_none_iff.1 hlast
    have hnone' : ∀ line ∈ core accepts lines, isAnchor line = false :=
      fun line hline => hnone line (mem_of_mem_core hline)
    rw [withUse_of_unanchored hnone, withUse_of_unanchored hnone']
  | some anchor =>
    obtain ⟨before, after, rfl, hl, ha⟩ := eq_append_of_lastAnchor? hlast
    -- neither the anchor, before or after it gives its semicolon away, nor the new line is a target
    have hkeep : isTarget accepts anchor = false := hr.isTarget_eq_false hms (by simp) hl
    have hkeep' : isTarget accepts (unterminated anchor) = false := by
      rw [isTarget_congr (hr.lineKind_unterminated rfl hl ha), hkeep]
    have hkeep'' : isTarget accepts (registration m cr (isTerminated anchor)) = false :=
      isTarget_eq_false_of_useOf (lineKind_registration m hcr (hms m hm).name _)
    have hcore : core accepts (before ++ anchor :: after) =
        core accepts before ++ anchor :: core accepts after := by
      simp [core, hkeep]
    have hafter : ∀ line ∈ core accepts after, isAnchor line = false :=
      fun line hline => ha line (mem_of_mem_core hline)
    have hregisters' : ¬Registers (core accepts before ++ anchor :: core accepts after)
        m.variableName := by rwa [← hcore, registers_core]
    rw [withUse_append hl ha hregisters, hcore, withUse_append hl hafter hregisters']
    simp [core, linked, hkeep', hkeep'']

theorem core_wired :
    core accepts (wired cr m lines) = withUse cr m (core accepts lines) := by
  rw [wired, core_withUse hms hcr hm (reached_withImport hms hacc hcr hm hr),
    core_withImport hms hacc hcr hm]

omit hm hacc hcr in
/-- An import of a module is no anchor, so it stays. -/
theorem imports_withUse_of_reached {other : Manifest} (hother : other ∈ ms)
    (h : Imports lines other.variableName) : Imports (withUse cr m lines) other.variableName := by
  obtain ⟨line, hline, path, hk⟩ := h
  refine ⟨line, ?_, path, hk⟩
  rcases mem_withUse hline with h | ⟨hl, -⟩
  · exact h
  · have ht := hr.imports line hline other hother path hk
    rw [hr.isTarget_eq_false hms hline hl] at ht
    cases ht

theorem imports_wired_self : Imports (wired cr m lines) m.variableName :=
  imports_withUse_of_reached hms (reached_withImport hms hacc hcr hm hr) hm
    (imports_withImport_self hcr (hms m hm).toIsReadable lines)

theorem imports_wired {other : Manifest} (hother : other ∈ ms)
    (h : Imports lines other.variableName) : Imports (wired cr m lines) other.variableName := by
  obtain ⟨line, hline, hk⟩ := h
  exact imports_withUse_of_reached hms (reached_withImport hms hacc hcr hm hr) hother
    ⟨line, mem_withImport hline, hk⟩

end Step

/-! ## The chain of registrations -/

/-- The line that an anchor becomes when the chain after it is taken away. -/
def returned (anchor : Text) : Text :=
  if isTerminated anchor then takeTerminator (dropTerminator anchor) else anchor

/-- A text that holds nothing of some modules, and nothing that is taken for generated. -/
structure IsFresh (accepts : Acceptance) (ms : List Manifest) (lines : List Text) : Prop where
  targets : ∀ line ∈ lines, isTarget accepts line = false
  imports : ∀ m ∈ ms, ¬Imports lines m.variableName
  registers : ∀ m ∈ ms, ¬Registers lines m.variableName

theorem IsFresh.reached {accepts : Acceptance} {ms : List Manifest} {lines : List Text}
    (hf : IsFresh accepts ms lines) (ha : ∀ anchor, lastAnchor? lines = some anchor →
      isTerminated anchor → opensImport anchor = false) : Reached accepts ms lines := by
  refine ⟨fun line hline ht => ?_, fun line hline m hm path hk => ?_, ha⟩
  · rw [hf.targets line hline] at ht
    cases ht
  · exact absurd ⟨line, hline, path, hk⟩ (hf.imports m hm)

theorem IsFresh.core_eq {accepts : Acceptance} {ms : List Manifest} {lines : List Text}
    (hf : IsFresh accepts ms lines) : core accepts lines = lines :=
  List.filter_eq_self.2 fun line hline => by rw [hf.targets line hline]; rfl

theorem IsFresh.registersAny_eq_false {accepts : Acceptance} {ms : List Manifest}
    {lines : List Text} (hf : IsFresh accepts ms lines) {line : Text} (hline : line ∈ lines) :
    registersAny (ms.map (·.variableName)) line = false := by
  refine Bool.eq_false_iff.2 fun h => ?_
  unfold registersAny at h
  split at h
  · rename_i name hk
    obtain ⟨m, hm, rfl⟩ := List.mem_map.1 (List.contains_iff_mem.1 h)
    exact hf.registers m hm ⟨line, hline, hk⟩
  · cases h

theorem registersAny_registration {ms : List Manifest} {m : Manifest} (hm : m ∈ ms)
    (hmr : IsReadable m) {cr : Text} (hcr : IsEnd cr) (ends : Bool) :
    registersAny (ms.map (·.variableName)) (registration m cr ends) := by
  rw [registersAny, lineKind_registration m hcr hmr.name]
  exact List.contains_iff_mem.2 (List.mem_map_of_mem hm)

section Runs

variable {accepts : Acceptance} {ms : List Manifest} (hms : ∀ m ∈ ms, IsRecognisable m)
  (hacc : ∀ m ∈ ms, accepts m.variableName m.importPath) {added : List Manifest}
  (hadded : ∀ m ∈ added, m ∈ ms) {t : Text} (hr : Reached accepts ms t.lines)
include hms hacc

theorem reached_upsert {m : Manifest} (hm : m ∈ ms) (hr : Reached accepts ms t.lines) :
    Reached accepts ms (upsert t m).text.lines := by
  rw [lines_upsert (hms m hm).toIsReadable]
  exact reached_wired hms hacc (isEnd_lineEnd t) hm hr

theorem core_upsert {m : Manifest} (hm : m ∈ ms) (hr : Reached accepts ms t.lines) :
    core accepts (upsert t m).text.lines = withUse (lineEnd t) m (core accepts t.lines) := by
  rw [lines_upsert (hms m hm).toIsReadable, core_wired hms hacc (isEnd_lineEnd t) hm hr]

include hadded hr

theorem reached_upsertAll : Reached accepts ms (upsertAll t added).lines := by
  induction added generalizing t with
  | nil => exact hr
  | cons m added ih =>
    exact ih (fun m hm => hadded m (List.mem_cons_of_mem _ hm))
      (reached_upsert hms hacc (hadded m List.mem_cons_self) hr)

theorem imports_upsertAll {other : Manifest} (hother : other ∈ ms)
    (h : Imports t.lines other.variableName) :
    Imports (upsertAll t added).lines other.variableName := by
  induction added generalizing t with
  | nil => exact h
  | cons m added ih =>
    have hm := hadded m List.mem_cons_self
    refine ih (fun m hm => hadded m (List.mem_cons_of_mem _ hm)) (reached_upsert hms hacc hm hr) ?_
    rw [lines_upsert (hms m hm).toIsReadable]
    exact imports_wired hms hacc (isEnd_lineEnd t) hm hr hother h

theorem imports_of_mem_added : ∀ m ∈ added, Imports (upsertAll t added).lines m.variableName := by
  induction added generalizing t with
  | nil => exact fun m hm => absurd hm List.not_mem_nil
  | cons first added ih =>
    have hfirst := hadded first List.mem_cons_self
    have hrest : ∀ m ∈ added, m ∈ ms := fun m hm => hadded m (List.mem_cons_of_mem _ hm)
    have hr' := reached_upsert hms hacc hfirst hr
    intro m hm
    rcases List.mem_cons.1 hm with rfl | hm
    · refine imports_upsertAll hms hacc hrest hr' hfirst ?_
      rw [lines_upsert (hms m hfirst).toIsReadable]
      exact imports_wired_self hms hacc (isEnd_lineEnd t) hfirst hr
    · exact ih hrest hr' m hm

theorem core_upsertAll_of_unanchored (h : ∀ line ∈ core accepts t.lines, isAnchor line = false) :
    core accepts (upsertAll t added).lines = core accepts t.lines := by
  induction added generalizing t with
  | nil => rfl
  | cons m added ih =>
    have hm := hadded m List.mem_cons_self
    have hcore : core accepts (upsert t m).text.lines = core accepts t.lines := by
      rw [core_upsert hms hacc hm hr, withUse_of_unanchored h]
    rw [upsertAll_cons, ih (fun m hm => hadded m (List.mem_cons_of_mem _ hm))
      (reached_upsert hms hacc hm hr) (by rwa [hcore]), hcore]

/-- Once a registration is the last anchor, what is added goes into a chain that a removal takes away
whole, and the removal hands up the semicolon that this registration had before. -/
theorem exists_chain {before after : List Text} {m₀ : Manifest} (hm₀ : m₀ ∈ ms) {cr₀ : Text}
    (hcr₀ : IsEnd cr₀) {ends : Bool}
    (hcore : core accepts t.lines = before ++ registration m₀ cr₀ ends :: after)
    (ha : ∀ line ∈ after, isAnchor line = false)
    (hafter : ∀ line ∈ after, registersAny (ms.map (·.variableName)) line = false) :
    ∃ chain, core accepts (upsertAll t added).lines = before ++ chain ∧
      unlink (registersAny (ms.map (·.variableName))) chain = (after, ends) := by
  have hp : ∀ ends, registersAny (ms.map (·.variableName)) (registration m₀ cr₀ ends) :=
    registersAny_registration hm₀ (hms m₀ hm₀).toIsReadable hcr₀
  induction added generalizing t before m₀ cr₀ with
  | nil =>
    refine ⟨registration m₀ cr₀ ends :: after, hcore, ?_⟩
    rw [unlink, unlink_of_none hafter]
    simp [hp, isTerminated_registration m₀ hcr₀]
  | cons m added ih =>
    have hm := hadded m List.mem_cons_self
    have hrest : ∀ m ∈ added, m ∈ ms := fun m hm => hadded m (List.mem_cons_of_mem _ hm)
    have hr' := reached_upsert hms hacc hm hr
    have hstep := core_upsert hms hacc hm hr
    rw [hcore] at hstep
    by_cases hregisters : Registers (before ++ registration m₀ cr₀ ends :: after) m.variableName
    · rw [withUse_of_registers hregisters] at hstep
      exact ih hrest hr' hm₀ hcr₀ hstep hp
    · -- the new registration ends the chain, and takes the semicolon if there is one
      have hsplit : before ++ linked m (lineEnd t) (registration m₀ cr₀ ends) ++ after =
          (before ++ [registration m₀ cr₀ false]) ++ registration m (lineEnd t) ends :: after := by
        simp [linked, unterminated_registration m₀ hcr₀, isTerminated_registration m₀ hcr₀]
      rw [withUse_append (isAnchor_registration (hms m₀ hm₀) cr₀ ends) ha hregisters, hsplit] at hstep
      obtain ⟨chain, hchain, hunlink⟩ := ih hrest hr' hm (isEnd_lineEnd t) hstep
        (registersAny_registration hm (hms m hm).toIsReadable (isEnd_lineEnd t))
      refine ⟨registration m₀ cr₀ false :: chain, ?_, ?_⟩
      · rw [upsertAll_cons, hchain]; simp
      · rw [unlink, hunlink]
        cases ends
        · simp [hp, isTerminated_registration m₀ hcr₀]
        · simp [hp, takeTerminator_registration m₀ hcr₀, isTerminated_registration m₀ hcr₀]

end Runs

/-! ## What a removal leaves -/

theorem registersAny_congr {names others : List Text} (h : ∀ name, name ∈ names ↔ name ∈ others) :
    registersAny names = registersAny others := by
  funext line
  unfold registersAny
  split
  · rename_i name _
    rw [Bool.eq_iff_iff, List.contains_iff_mem, List.contains_iff_mem]
    exact h name
  · rfl

section Removal

variable {accepts : Acceptance} {ms : List Manifest} (hms : ∀ m ∈ ms, IsRecognisable m)
  (hacc : ∀ m ∈ ms, accepts m.variableName m.importPath) {t : Text}
include hms hacc

/-- The variables that a removal goes for are those of the modules. -/
theorem text_remove_upsertAll (hr : Reached accepts ms t.lines) :
    (remove (upsertAll t ms) accepts.matcher).text = Text.unlines
      (unlink (registersAny (ms.map (·.variableName))) (core accepts (upsertAll t ms).lines)).1 := by
  have hr' := reached_upsertAll hms hacc (fun m hm => hm) hr
  have hnames : ∀ name, name ∈ targetNames accepts (upsertAll t ms).lines ↔
      name ∈ ms.map (·.variableName) := by
    intro name
    rw [mem_targetNames, List.mem_map]
    constructor
    · -- a target is the import of a module, which names its variable
      rintro ⟨line, hline, path, hk, ha⟩
      have ht : isTarget accepts line := by rw [isTarget, hk]; exact ha
      obtain ⟨m, hm, cr, hcr, rfl⟩ := hr'.targets line hline ht
      rw [lineKind_importStatement (hms m hm).toIsReadable hcr.isBlank] at hk
      cases hk
      exact ⟨m, hm, rfl⟩
    · rintro ⟨m, hm, rfl⟩
      obtain ⟨line, hline, path, hk⟩ :=
        imports_of_mem_added hms hacc (fun m hm => hm) hr m hm
      have ht := hr'.imports line hline m hm path hk
      rw [isTarget, hk] at ht
      exact ⟨line, hline, path, hk, ht⟩
  rw [text_remove, registersAny_congr hnames]

theorem remove_upsertAll_of_unanchored (hf : IsFresh accepts ms t.lines)
    (h : lastAnchor? t.lines = none) : (remove (upsertAll t ms) accepts.matcher).text = t := by
  have hr := hf.reached (by rw [h]; intro _ h; cases h)
  have hcore : core accepts (upsertAll t ms).lines = t.lines := by
    rw [core_upsertAll_of_unanchored hms hacc (fun m hm => hm) hr, hf.core_eq]
    rw [hf.core_eq]
    exact lastAnchor?_eq_none_iff.1 h
  rw [text_remove_upsertAll hms hacc hr, hcore,
    unlink_of_none fun line hline => hf.registersAny_eq_false hline, Text.unlines_lines]

/-- With an anchor, everything is as it was except, maybe, the anchor. -/
theorem remove_upsertAll_of_anchored (hne : ms ≠ []) (hf : IsFresh accepts ms t.lines)
    {before after : List Text} {anchor : Text} (hlines : t.lines = before ++ anchor :: after)
    (hl : isAnchor anchor) (ha : ∀ line ∈ after, isAnchor line = false)
    (ho : isTerminated anchor → opensImport anchor = false) :
    (remove (upsertAll t ms) accepts.matcher).text =
      Text.unlines (before ++ returned anchor :: after) := by
  have hlast : lastAnchor? t.lines = some anchor := by rw [hlines, lastAnchor?_append hl ha]
  have hr := hf.reached fun other hother ht => by
    rw [hlast] at hother
    obtain rfl := Option.some.inj hother
    exact ho ht
  rw [text_remove_upsertAll hms hacc hr]
  -- the first module makes the anchor give its semicolon to a registration, which starts the chain
  obtain ⟨m, added, hadded⟩ := List.exists_cons_of_ne_nil hne
  have hm : m ∈ ms := by simp [hadded]
  have hcr := isEnd_lineEnd t
  have hnone : ∀ line ∈ t.lines, registersAny (ms.map (·.variableName)) line = false :=
    fun line hline => hf.registersAny_eq_false hline
  have hstep : core accepts (upsert t m).text.lines =
      (before ++ [unterminated anchor]) ++
        registration m (lineEnd t) (isTerminated anchor) :: after := by
    have hregisters := hf.registers m hm
    rw [hlines] at hregisters
    rw [core_upsert hms hacc hm hr, hf.core_eq, hlines, withUse_append hl ha hregisters]
    simp [linked]
  obtain ⟨chain, hchain, hunlink⟩ := exists_chain hms hacc
    (fun m hm => by rw [hadded]; exact List.mem_cons_of_mem _ hm)
    (reached_upsert hms hacc hm hr) hm hcr hstep ha
    fun line hline => hnone line (by simp [hlines, hline])
  -- the walk comes up from the chain to the anchor with the semicolon, and goes on with none
  have hkeep : registersAny (ms.map (·.variableName)) (unterminated anchor) = false := by
    rw [registersAny, hr.lineKind_unterminated hlines hl ha, ← registersAny]
    exact hnone anchor (by simp [hlines])
  have htail : unlink (registersAny (ms.map (·.variableName))) (unterminated anchor :: chain) =
      (returned anchor :: after, false) := by
    rw [unlink, hunlink]
    simp only [hkeep, Bool.false_eq_true, if_false, returned]
    cases ht : isTerminated anchor <;> simp [unterminated, ht]
  have hcore : core accepts (upsertAll t ms).lines = before ++ (unterminated anchor :: chain) := by
    rw [hadded, upsertAll_cons, hchain]; simp
  rw [hcore, unlink_append (fun line hline => hnone line (by simp [hlines, hline])) htail]

end Removal

/-! ## Anchors that open like imports -/

/-- A line that takes a semicolon over is a link, so it opens no import. -/
theorem opensImport_takeTerminator {line : Text} (h : takeTerminator line ≠ line) :
    opensImport (takeTerminator line) = false := by
  unfold takeTerminator at h ⊢
  split
  · rename_i hcond
    rw [Bool.and_eq_true, isChainLink_eq] at hcond
    exact opensImport_of_startsLink (by rw [startsLink_addTerminator, hcond.1])
  · rename_i hcond
    rw [if_neg hcond] at h
    exact absurd rfl h

theorem count_unlink_le {line : Text} (ho : opensImport line) (p : Text → Bool)
    (lines : List Text) : (unlink p lines).1.count line ≤ lines.count line := by
  induction lines with
  | nil => exact Nat.le_refl _
  | cons first rest ih =>
    -- a line that opens an import cannot come from taking a semicolon over
    have hfirst : takeTerminator first = line → first = line := by
      intro h
      by_contra hne
      have hclosed : opensImport (takeTerminator first) = false :=
        opensImport_takeTerminator (by rw [h]; exact Ne.symm hne)
      rw [h, ho] at hclosed
      cases hclosed
    rw [unlink]
    dsimp only
    split
    · exact ih.trans List.count_le_count_cons
    · rw [List.count_cons, List.count_cons]
      split
      · by_cases h : takeTerminator first = line
        · rw [h, hfirst h]
          exact Nat.add_le_add_right ih _
        · simp only [beq_iff_eq, h, if_false]
          omega
      · omega

/-- Lines whose last anchor opens no import. -/
def IsClear (lines : List Text) : Prop :=
  ∀ anchor, lastAnchor? lines = some anchor → opensImport anchor = false

theorem opensImport_unterminated {anchor : Text} (h : opensImport anchor = false) :
    opensImport (unterminated anchor) = false := by
  unfold unterminated
  split
  · rwa [opensImport_dropTerminator ‹_›]
  · exact h

theorem count_eq_zero_of_opensImport {line : Text} (ho : opensImport line) {lines : List Text}
    (h : ∀ l ∈ lines, opensImport l = false) : lines.count line = 0 := by
  refine List.count_eq_zero.2 fun hline => ?_
  rw [h line hline] at ho
  cases ho

section Counts

variable {m : Manifest} (hm : IsRecognisable m) {cr : Text} (hcr : IsEnd cr) {line : Text}
  (ho : opensImport line) (hl : isAnchor line) {lines : List Text}

include hm hcr

theorem count_withImport (hl : isAnchor line) (lines : List Text) :
    (withImport cr m lines).count line = lines.count line := by
  have hne : (m.importStatement ++ cr == line) = false := by
    refine beq_eq_false_iff_ne.2 fun h => ?_
    rw [← h, isAnchor_importStatement hcr hm.toIsReadable] at hl
    cases hl
  have hcount : ∀ ls : List Text, ls.count line = (ls.filter (· == line)).length :=
    fun _ => List.countP_eq_length_filter
  rw [hcount, filter_withImport hne, hcount]

theorem isClear_withImport (hc : IsClear lines) : IsClear (withImport cr m lines) := by
  intro anchor hanchor
  rw [lastAnchor?_withImport hm.toIsReadable hcr] at hanchor
  exact hc anchor hanchor

omit hcr in
theorem isClear_withUse (hc : IsClear lines) : IsClear (withUse cr m lines) := by
  rcases withUse_cases cr m lines with hu | ⟨before, anchor, after, -, -, ha, hu⟩
  · rw [hu]; exact hc
  · intro last hlast
    rw [hu, lastAnchor?_linked hm cr anchor before ha] at hlast
    obtain rfl := Option.some.inj hlast
    exact opensImport_registration m cr _

omit hm hcr in
theorem count_withUse_le (ho : opensImport line) (hc : IsClear lines) :
    (withUse cr m lines).count line ≤ lines.count line := by
  rcases withUse_cases cr m lines with hu | ⟨before, anchor, after, hlines, hanchor, ha, hu⟩
  · rw [hu]
  · have hopen := hc anchor (by rw [hlines, lastAnchor?_append hanchor ha])
    have hlinked : (linked m cr anchor).count line = 0 := by
      refine count_eq_zero_of_opensImport ho fun l hmem => ?_
      simp only [linked, List.mem_cons, List.not_mem_nil, or_false] at hmem
      rcases hmem with rfl | rfl
      · exact opensImport_unterminated hopen
      · exact opensImport_registration m cr _
    rw [hu, hlines, List.count_append, List.count_append, hlinked, List.count_append,
      List.count_cons]
    omega

end Counts

theorem count_upsertAll_le {added : List Manifest} (hadded : ∀ m ∈ added, IsRecognisable m)
    {line : Text} (ho : opensImport line) (hl : isAnchor line) {t : Text} (hc : IsClear t.lines) :
    (upsertAll t added).lines.count line ≤ t.lines.count line := by
  induction added generalizing t with
  | nil => exact Nat.le_refl _
  | cons m added ih =>
    have hm := hadded m List.mem_cons_self
    have hcr := isEnd_lineEnd t
    have himport := isClear_withImport hm hcr hc
    have hstep := lines_upsert hm.toIsReadable t
    have hclear : IsClear (upsert t m).text.lines := by
      rw [hstep, wired]
      exact isClear_withUse hm himport
    have hrest := ih (fun m hm => hadded m (List.mem_cons_of_mem _ hm)) hclear
    rw [hstep, wired] at hrest
    have hfirst : (withUse (lineEnd t) m (withImport (lineEnd t) m t.lines)).count line ≤
        (withImport (lineEnd t) m t.lines).count line := count_withUse_le ho himport
    rw [count_withImport hm hcr hl] at hfirst
    exact hrest.trans hfirst

theorem count_upsert_lt {m : Manifest} (hm : IsRecognisable m) {t : Text}
    (hregisters : ¬Registers t.lines m.variableName) {anchor : Text}
    (hlast : lastAnchor? t.lines = some anchor) (ht : isTerminated anchor)
    (ho : opensImport anchor) :
    (upsert t m).text.lines.count anchor < t.lines.count anchor ∧
      IsClear (upsert t m).text.lines := by
  have hcr := isEnd_lineEnd t
  have hlast' : lastAnchor? (withImport (lineEnd t) m t.lines) = some anchor := by
    rw [lastAnchor?_withImport hm.toIsReadable hcr, hlast]
  obtain ⟨before, after, hlines, hl, ha⟩ := eq_append_of_lastAnchor? hlast'
  have hregisters' : ¬Registers (before ++ anchor :: after) m.variableName := by
    rwa [← hlines, registers_withImport hcr hm.toIsReadable]
  have hstep : (upsert t m).text.lines = before ++ linked m (lineEnd t) anchor ++ after := by
    rw [lines_upsert hm.toIsReadable, wired, hlines, withUse_append hl ha hregisters']
  have hlinked : (linked m (lineEnd t) anchor).count anchor = 0 := by
    refine List.count_eq_zero.2 fun hmem => ?_
    simp only [linked, List.mem_cons, List.not_mem_nil, or_false, unterminated, if_pos ht] at hmem
    rcases hmem with h | h
    · exact dropTerminator_ne ht h.symm
    · rw [h, opensImport_registration] at ho
      cases ho
  refine ⟨?_, fun last h => ?_⟩
  · rw [← count_withImport hm hcr hl t.lines, hlines, hstep, List.count_append, List.count_append,
      hlinked, List.count_append, List.count_cons_self]
    omega
  · rw [hstep, lastAnchor?_linked hm _ anchor before ha] at h
    obtain rfl := Option.some.inj h
    exact opensImport_registration m _ _

/-- An anchor that opens like an import loses a semicolon that no removal returns. -/
theorem remove_upsertAll_ne {ms : List Manifest} (hms : ∀ m ∈ ms, IsRecognisable m) (hne : ms ≠ [])
    {t : Text} (hregisters : ∀ m ∈ ms, ¬Registers t.lines m.variableName) {anchor : Text}
    (hlast : lastAnchor? t.lines = some anchor) (ht : isTerminated anchor)
    (ho : opensImport anchor) (accepts : Acceptance) :
    (remove (upsertAll t ms) accepts.matcher).text ≠ t := by
  obtain ⟨m, added, rfl⟩ := List.exists_cons_of_ne_nil hne
  have hm := hms m List.mem_cons_self
  obtain ⟨hlt, hclear⟩ := count_upsert_lt hm (hregisters m List.mem_cons_self) hlast ht ho
  obtain ⟨before, after, hlines, hl, -⟩ := eq_append_of_lastAnchor? hlast
  have hle := count_upsertAll_le (fun m hm => hms m (List.mem_cons_of_mem _ hm)) ho hl hclear
  rw [← upsertAll_cons] at hle
  -- the line of the anchor is rarer after the first module, and nothing makes it more frequent
  intro htext
  rw [text_remove] at htext
  have hcount := count_unlink_le ho
    (registersAny (targetNames accepts (upsertAll t (m :: added)).lines))
    (core accepts (upsertAll t (m :: added)).lines)
  have hcore : (core accepts (upsertAll t (m :: added)).lines).count anchor ≤
      (upsertAll t (m :: added)).lines.count anchor := List.filter_sublist.count_le _
  have hnewline := newline_notMem_unlink
    (registersAny (targetNames accepts (upsertAll t (m :: added)).lines))
    (fun line (hline : line ∈ core accepts (upsertAll t (m :: added)).lines) =>
      Text.newline_notMem_of_mem_lines (mem_of_mem_core hline))
  generalize (unlink _ _).1 = kept at htext hcount hnewline
  have hkept : kept ≠ [] := by
    rintro rfl
    have hmem : anchor ∈ t.lines := by simp [hlines]
    rw [← htext] at hmem
    rw [show anchor = [] from List.mem_singleton.1 hmem] at hl
    cases hl
  have hsame : t.lines = kept := by rw [← htext, Text.lines_unlines hkept hnewline]
  rw [hsame] at hlt
  omega

/-! ## The round trip -/

/-- A text whose last anchor, if there is one, has no semicolon to give away or takes it back where
it stood. -/
def Restorable (lines : List Text) : Prop :=
  lastAnchor? lines = none ∨ ∃ anchor, lastAnchor? lines = some anchor ∧
    (isTerminated anchor = false ∨ RegainsTerminator anchor)

theorem RegainsTerminator.not_opensImport {line : Text} (h : RegainsTerminator line) :
    opensImport line = false :=
  opensImport_of_startsLink (startsLink_iff.2 h.1)

/-- Adding modules that a text holds nothing of, and removing what is taken for generated then, gives
the text back exactly if it is restorable. -/
theorem remove_upsertAll_iff {accepts : Acceptance} {ms : List Manifest}
    (hms : ∀ m ∈ ms, IsRecognisable m) (hacc : ∀ m ∈ ms, accepts m.variableName m.importPath)
    (hne : ms ≠ []) {t : Text} (hf : IsFresh accepts ms t.lines) :
    (remove (upsertAll t ms) accepts.matcher).text = t ↔ Restorable t.lines := by
  cases hlast : lastAnchor? t.lines with
  | none =>
    exact iff_of_true (remove_upsertAll_of_unanchored hms hacc hf hlast) (.inl hlast)
  | some anchor =>
    obtain ⟨before, after, hlines, hl, ha⟩ := eq_append_of_lastAnchor? hlast
    have hiff : Restorable t.lines ↔ isTerminated anchor = false ∨ RegainsTerminator anchor := by
      simp [Restorable, hlast]
    rw [hiff]
    by_cases hopen : isTerminated anchor ∧ opensImport anchor
    · -- such an anchor may itself be taken for an import once its semicolon is gone
      refine iff_of_false (remove_upsertAll_ne hms hne hf.registers hlast hopen.1 hopen.2 accepts) ?_
      rintro (h | h)
      · rw [hopen.1] at h
        cases h
      · have := h.not_opensImport
        rw [hopen.2] at this
        cases this
    · have ho : isTerminated anchor → opensImport anchor = false := by
        intro ht
        exact Bool.eq_false_iff.2 fun h => hopen ⟨ht, h⟩
      have htext := remove_upsertAll_of_anchored hms hacc hne hf hlines hl ha ho
      -- only the anchor can differ, so its line decides
      have hsame : (remove (upsertAll t ms) accepts.matcher).text = t ↔
          returned anchor = anchor := by
        rw [htext]
        conv_lhs => rw [← Text.unlines_lines t, hlines]
        exact Text.unlines_append_cons_inj
      rw [hsame, returned]
      cases ht : isTerminated anchor
      · simp
      · simp [takeTerminator_dropTerminator_iff ht]

/-- The same for the matcher that goes by the modules' variables. -/
theorem remove_manifests_upsertAll_iff {ms : List Manifest} (hms : ∀ m ∈ ms, IsRecognisable m)
    (hne : ms ≠ []) {t : Text} (hi : ∀ m ∈ ms, ¬Imports t.lines m.variableName)
    (hu : ∀ m ∈ ms, ¬Registers t.lines m.variableName) :
    (remove (upsertAll t ms) (manifestMatcher ms)).text = t ↔ Restorable t.lines := by
  let accepts : Acceptance := fun name _ => ms.any (·.variableName == name)
  have hacc : ∀ m ∈ ms, accepts m.variableName m.importPath := by
    intro m hm
    exact List.any_eq_true.2 ⟨m, hm, by simp⟩
  have hf : IsFresh accepts ms t.lines := by
    refine ⟨fun line hline => Bool.eq_false_iff.2 fun ht => ?_, hi, hu⟩
    unfold isTarget at ht
    split at ht
    · rename_i name path hk
      obtain ⟨m, hm, hname⟩ := List.any_eq_true.1 ht
      exact hi m hm ⟨line, hline, path, by rw [hk, beq_iff_eq.1 hname]⟩
    · cases ht
  exact remove_upsertAll_iff hms hacc hne hf

/-- A chain whose last link ends in a semicolon, and two modules. -/
theorem remove_manifests_upsertAll_iff_chain :
    let t : Text := "const app = new App()\r\n  .use(homeRoutes); \r\n"
    let ms : List Manifest := [⟨"a", "v1", "aV1Routes", "./x/a.routes", "x", none⟩,
      ⟨"b", "v1", "bV1Routes", "./x/b.routes", "x", none⟩]
    (upsertAll t ms).lines = ["import aV1Routes from \"./x/a.routes\";\r",
        "import bV1Routes from \"./x/b.routes\";\r", "const app = new App()\r",
        "  .use(homeRoutes) \r", "  .use(aV1Routes)\r", "  .use(bV1Routes);\r", ""] ∧
      (remove (upsertAll t ms) (manifestMatcher ms)).text = t := by
  intro t ms
  have hms : ∀ m ∈ ms, IsRecognisable m := by
    intro m hm
    rcases List.mem_cons.1 hm with rfl | hm
    · exact ⟨⟨⟨by decide, by decide⟩, by decide, by decide, by decide, by decide⟩, by decide⟩
    · rw [List.mem_singleton.1 hm]
      exact ⟨⟨⟨by decide, by decide⟩, by decide, by decide, by decide, by decide⟩, by decide⟩
  have hi : ∀ m ∈ ms, ¬Imports t.lines m.variableName := by
    intro m
    rw [← hasImport_ofLines 1]
    revert m
    decide
  have hu : ∀ m ∈ ms, ¬Registers t.lines m.variableName := by
    intro m
    rw [← hasUse_ofLines 1]
    revert m
    decide
  have hregains : RegainsTerminator "  .use(homeRoutes); \r" := by
    refine ⟨by decide, fun c hc => ?_⟩
    obtain rfl : CodePoint.ofChar ')' = c := Option.some.inj hc
    decide
  have hrestorable : Restorable t.lines := .inr ⟨_, by rfl, .inr hregains⟩
  exact ⟨by decide +kernel,
    (remove_manifests_upsertAll_iff hms (by decide) hi hu).2 hrestorable⟩

end Routewright.Aggregator
