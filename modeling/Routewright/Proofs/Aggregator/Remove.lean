/-
Removing modules from the aggregator without line numbers. The numbers of a survey are the places of
the lines with some property, so a removal drops the imports that its matcher accepts and then walks
the lines that are left once, from the last to the first, handing semicolons up.
-/
import Routewright.Proofs.Aggregator.Upsert

namespace Routewright.Aggregator

/-! ## Places of lines -/

/-- The numbers of the lines with a property, where the lines are numbered from `number` on. -/
def places (p : Text → Bool) : Nat → List Text → List Nat
  | _, [] => []
  | number, line :: rest =>
    if p line then number :: places p (number + 1) rest else places p (number + 1) rest

theorem le_of_mem_places {p : Text → Bool} {number place : Nat} {lines : List Text}
    (h : place ∈ places p number lines) : number ≤ place := by
  induction lines generalizing number with
  | nil => cases h
  | cons line lines ih =>
    rw [places] at h
    split at h
    · rcases List.mem_cons.1 h with rfl | h
      · exact Nat.le_refl _
      · exact Nat.le_of_succ_le (ih h)
    · exact Nat.le_of_succ_le (ih h)

theorem notMem_places (p : Text → Bool) (number : Nat) (lines : List Text) :
    number ∉ places p (number + 1) lines := by
  intro h
  have := le_of_mem_places h
  omega

/-- A number before the first line is the number of none. -/
theorem withoutLines_cons_of_lt {place number : Nat} (h : place < number) (numbers : List Nat)
    (lines : List Text) :
    withoutLines (place :: numbers) number lines = withoutLines numbers number lines := by
  induction lines generalizing number with
  | nil => rfl
  | cons line lines ih =>
    have hne : (number == place) = false := by simp; omega
    rw [withoutLines, withoutLines, ih (by omega), List.contains_cons, hne, Bool.false_or]

theorem withoutLines_places (p : Text → Bool) (number : Nat) (lines : List Text) :
    withoutLines (places p number lines) number lines = lines.filter fun line => !p line := by
  induction lines generalizing number with
  | nil => rfl
  | cons line lines ih =>
    rw [withoutLines, places]
    cases hp : p line
    · have hnot : (places p (number + 1) lines).contains number = false := by
        simpa using notMem_places p number lines
      simp only [Bool.false_eq_true, if_false, hnot, ih]
      rw [List.filter_cons_of_pos (by simp [hp])]
    · simp only [if_true, List.contains_cons, BEq.rfl, Bool.true_or]
      rw [withoutLines_cons_of_lt (Nat.lt_succ_self _), ih,
        List.filter_cons_of_neg (by simp [hp])]

/-- The lines without those with a property, from the last to the first; the semicolon of a line
that goes is handed to the line above. -/
def unlink (p : Text → Bool) : List Text → List Text × Bool
  | [] => ([], false)
  | line :: rest =>
    let (kept, handed) := unlink p rest
    let line' := if handed then takeTerminator line else line
    if p line then (kept, isTerminated line') else (line' :: kept, false)

theorem deleteLinks_cons_of_lt {place number : Nat} (h : place < number) (numbers : List Nat)
    (lines : List Text) :
    deleteLinks (place :: numbers) number lines = deleteLinks numbers number lines := by
  induction lines generalizing number with
  | nil => rfl
  | cons line lines ih =>
    have hne : (number == place) = false := by simp; omega
    rw [deleteLinks, deleteLinks, ih (by omega), List.contains_cons, hne, Bool.false_or]

theorem deleteLinks_places (p : Text → Bool) (number : Nat) (lines : List Text) :
    deleteLinks (places p number lines) number lines = unlink p lines := by
  induction lines generalizing number with
  | nil => rfl
  | cons line lines ih =>
    rw [deleteLinks, places, unlink]
    cases hp : p line
    · have hnot : (places p (number + 1) lines).contains number = false := by
        simpa using notMem_places p number lines
      simp only [Bool.false_eq_true, if_false, hnot, ih]
    · simp only [if_true, List.contains_cons, BEq.rfl, Bool.true_or,
        deleteLinks_cons_of_lt (Nat.lt_succ_self _), ih]

/-! ## Lines that go -/

/-- Which imports are taken for generated ones, by variable and path. -/
abbrev Acceptance := Text → Text → Bool

/-- The matcher that accepts by variable and path. -/
def Acceptance.matcher (accepts : Acceptance) : ImportMatcher := fun r => accepts r.name r.path

variable (accepts : Acceptance)

/-- Whether a line is an import that is taken for a generated one. -/
def isTarget (line : Text) : Bool :=
  match lineKind line with
  | .importOf name path => accepts name path
  | _ => false

/-- Whether a line registers one of some variables. -/
def registersAny (names : List Text) (line : Text) : Bool :=
  match lineKind line with
  | .useOf name => names.contains name
  | _ => false

/-- The lines that are no targets. -/
def core (lines : List Text) : List Text := lines.filter fun line => !isTarget accepts line

/-- The variables that the targets import. -/
def targetNames (lines : List Text) : List Text :=
  ((Survey.ofLines 1 lines).imports.filter accepts.matcher).map (·.name)

theorem places_imports (number : Nat) (lines : List Text) :
    ((Survey.ofLines number lines).imports.filter accepts.matcher).map (·.line) =
      places (isTarget accepts) number lines := by
  induction lines generalizing number with
  | nil => rfl
  | cons line lines ih =>
    rw [Survey.ofLines, places, ← ih]
    cases hk : lineKind line with
    | importOf name path =>
      have ht : isTarget accepts line = accepts name path := by rw [isTarget, hk]
      rw [ht, List.filter_cons, Acceptance.matcher]
      cases accepts name path <;> rfl
    | useOf name => rw [isTarget, hk]; rfl
    | other => rw [isTarget, hk]; rfl

theorem places_uses (names : List Text) (number : Nat) (lines : List Text) :
    ((Survey.ofLines number lines).uses.filter fun use => names.contains use.name).map (·.line) =
      places (registersAny names) number lines := by
  induction lines generalizing number with
  | nil => rfl
  | cons line lines ih =>
    rw [Survey.ofLines, places, ← ih]
    cases hk : lineKind line with
    | importOf name path => rw [registersAny, hk]; rfl
    | useOf name =>
      have hr : registersAny names line = names.contains name := by rw [registersAny, hk]
      rw [hr, List.filter_cons]
      cases names.contains name <;> rfl
    | other => rw [registersAny, hk]; rfl

theorem mem_targetNames {lines : List Text} {name : Text} :
    name ∈ targetNames accepts lines ↔
      ∃ line ∈ lines, ∃ path, lineKind line = .importOf name path ∧ accepts name path := by
  suffices h : ∀ number, name ∈ ((Survey.ofLines number lines).imports.filter
      accepts.matcher).map (·.name) ↔
        ∃ line ∈ lines, ∃ path, lineKind line = .importOf name path ∧ accepts name path from h 1
  induction lines with
  | nil => intro number; simp [Survey.ofLines]
  | cons line lines ih =>
    intro number
    rw [List.exists_mem_cons_iff, ← ih (number + 1), Survey.ofLines]
    cases hk : lineKind line with
    | importOf other path =>
      -- the path is that of the line, so the variable decides
      have hline : (∃ path', LineKind.importOf other path = .importOf name path' ∧
          accepts name path') ↔ name = other ∧ accepts other path := by
        constructor
        · rintro ⟨_, h, ha⟩
          cases h
          exact ⟨rfl, ha⟩
        · rintro ⟨rfl, ha⟩
          exact ⟨path, rfl, ha⟩
      rw [hline, List.filter_cons, Acceptance.matcher]
      cases accepts other path <;> simp
    | useOf other => simp
    | other => simp

/-! ## Walks that hand nothing up -/

theorem unlink_of_none {p : Text → Bool} {lines : List Text} (h : ∀ line ∈ lines, p line = false) :
    unlink p lines = (lines, false) := by
  induction lines with
  | nil => rfl
  | cons line lines ih =>
    rw [unlink, ih fun l hl => h l (List.mem_cons_of_mem _ hl)]
    simp [h line List.mem_cons_self]

theorem unlink_append {p : Text → Bool} {before rest kept : List Text}
    (h : ∀ line ∈ before, p line = false) (hr : unlink p rest = (kept, false)) :
    unlink p (before ++ rest) = (before ++ kept, false) := by
  induction before with
  | nil => exact hr
  | cons line before ih =>
    rw [List.cons_append, unlink, ih fun l hl => h l (List.mem_cons_of_mem _ hl)]
    simp [h line List.mem_cons_self]

/-- A walk leaves lines as they are, or with a semicolon they have taken over. -/
theorem mem_unlink {p : Text → Bool} {lines : List Text} {line : Text}
    (h : line ∈ (unlink p lines).1) : ∃ old ∈ lines, line = old ∨ line = takeTerminator old := by
  induction lines with
  | nil => cases h
  | cons first rest ih =>
    -- what the rest of the walk leaves, the first line does not touch
    have hrest : line ∈ (unlink p rest).1 →
        ∃ old ∈ first :: rest, line = old ∨ line = takeTerminator old := by
      intro h
      obtain ⟨old, hold, hline⟩ := ih h
      exact ⟨old, List.mem_cons_of_mem _ hold, hline⟩
    rw [unlink] at h
    dsimp only at h
    split at h
    · exact hrest h
    · rcases List.mem_cons.1 h with rfl | h
      · refine ⟨first, List.mem_cons_self, ?_⟩
        split
        · exact .inr rfl
        · exact .inl rfl
      · exact hrest h

theorem mem_of_mem_takeTerminator {c : CodePoint} {line : Text} (h : c ∈ takeTerminator line) :
    c ∈ line ∨ c = CodePoint.ofChar ';' := by
  unfold takeTerminator at h
  split at h
  · obtain ⟨blanks, hline, -, hadd⟩ := exists_addTerminator_eq line
    rw [hadd, List.mem_append, List.mem_cons] at h
    rw [hline, List.mem_append]
    tauto
  · exact .inl h

theorem newline_notMem_unlink (p : Text → Bool) {lines : List Text}
    (h : ∀ line ∈ lines, CodePoint.ofChar '\n' ∉ line) :
    ∀ line ∈ (unlink p lines).1, CodePoint.ofChar '\n' ∉ line := by
  intro line hline hc
  obtain ⟨old, hold, rfl | rfl⟩ := mem_unlink hline
  · exact h _ hold hc
  · rcases mem_of_mem_takeTerminator hc with hc | hc
    · exact h _ hold hc
    · exact absurd hc (by decide)

theorem withoutLines_nil (number : Nat) (lines : List Text) :
    withoutLines [] number lines = lines := by
  induction lines generalizing number with
  | nil => rfl
  | cons line lines ih => rw [withoutLines, ih]; rfl

/-! ## What a removal takes out -/

theorem withoutLines_eq_filter (numbers : List Nat) (number : Nat) (lines : List Text) :
    withoutLines numbers number lines =
      ((lines.zipIdx number).filter fun p => !numbers.contains p.2).map (·.1) := by
  induction lines generalizing number with
  | nil => rfl
  | cons line lines ih =>
    rw [withoutLines, List.zipIdx_cons, ih]
    cases h : numbers.contains number
    · rw [List.filter_cons_of_pos (by rw [h]; rfl)]
      rfl
    · rw [List.filter_cons_of_neg (by rw [h]; simp)]
      rfl

/-- The imports that a removal takes out. -/
def removedImports (t : Text) (isGenerated : ImportMatcher) : List ImportRecord :=
  (Survey.ofText t).imports.filter isGenerated

/-- The variables whose imports a removal takes out. -/
def removedNames (t : Text) (isGenerated : ImportMatcher) : List Text :=
  (removedImports t isGenerated).map (·.name)

/-- The lines of a text without the imports that a removal takes out. -/
def unimported (t : Text) (isGenerated : ImportMatcher) : List Text :=
  ((t.lines.zipIdx 1).filter fun p =>
    !((removedImports t isGenerated).map (·.line)).contains p.2).map (·.1)

theorem mem_lines_of_mem_unimported {t : Text} {isGenerated : ImportMatcher} {line : Text}
    (h : line ∈ unimported t isGenerated) : line ∈ t.lines := by
  obtain ⟨p, hp, rfl⟩ := List.mem_map.1 h
  exact List.fst_mem_of_mem_zipIdx (List.mem_filter.1 hp).1

theorem unimported_of_nil {t : Text} {isGenerated : ImportMatcher}
    (h : removedImports t isGenerated = []) : unimported t isGenerated = t.lines := by
  rw [unimported, ← withoutLines_eq_filter, h, List.map_nil, withoutLines_nil]

/-- A removal drops the imports that go and walks over the lines that are left. -/
theorem text_remove_eq (t : Text) (isGenerated : ImportMatcher) :
    (remove t isGenerated).text = Text.unlines
      (unlink (registersAny (removedNames t isGenerated)) (unimported t isGenerated)).1 := by
  have hleft : withoutLines ((removedImports t isGenerated).map (·.line)) 1 t.lines =
      unimported t isGenerated := withoutLines_eq_filter _ 1 _
  unfold remove
  dsimp only
  split
  · -- a removal without targets returns at once, and the walk would change nothing
    rename_i hnone
    have hnil : removedImports t isGenerated = [] := List.isEmpty_iff.1 hnone
    have hregisters : ∀ line ∈ t.lines, registersAny [] line = false := by
      intro line _
      unfold registersAny
      split <;> rfl
    rw [unimported_of_nil hnil, removedNames, hnil, List.map_nil, unlink_of_none hregisters,
      Text.unlines_lines]
  · rw [← hleft, ← deleteLinks_places, ← places_uses]
    rfl

/-- A removal drops the targets and the registrations of their variables. -/
theorem text_remove (t : Text) :
    (remove t accepts.matcher).text = Text.unlines
      (unlink (registersAny (targetNames accepts t.lines)) (core accepts t.lines)).1 := by
  have hcore : unimported t accepts.matcher = core accepts t.lines := by
    rw [unimported, ← withoutLines_eq_filter, removedImports, Survey.ofText, places_imports,
      withoutLines_places]
    rfl
  rw [text_remove_eq, hcore]
  rfl

/-- A removal writes no code point that the text has not, line feeds and semicolons aside. -/
theorem mem_of_mem_remove {t : Text} {c : CodePoint} (h : c ∈ (remove t accepts.matcher).text) :
    c ∈ t ∨ c = CodePoint.ofChar '\n' ∨ c = CodePoint.ofChar ';' := by
  rw [text_remove] at h
  rcases Text.mem_of_mem_unlines h with hc | ⟨line, hline, hc⟩
  · exact .inr (.inl hc)
  · obtain ⟨old, hold, hline⟩ := mem_unlink hline
    have hold' : old ∈ t.lines := (List.mem_filter.1 hold).1
    rcases hline with rfl | rfl
    · exact .inl (Text.mem_of_mem_lines hold' hc)
    · rcases mem_of_mem_takeTerminator hc with hc | hc
      · exact .inl (Text.mem_of_mem_lines hold' hc)
      · exact .inr (.inr hc)

end Routewright.Aggregator
