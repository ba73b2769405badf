/-
Calls and records. A line has one record at most, the one of its first registration, and goes or
stays as a whole; but it may hold any number of calls. So a removal takes out exactly the calls of the
variables it removes if, and only if, no line mixes their calls with something else: the main
statement is the condition on the lines.
-/
import Routewright.Proofs.Aggregator.Deletion
import Routewright.Proofs.Aggregator.Layout

namespace Routewright.Aggregator

/-! ## Calls -/

/-- The variables that are registered in a text, one for each call, in order. -/
def calls : Text → List Text
  | [] => []
  | c :: rest => (useAt? (c :: rest)).toList ++ calls rest

/-- The first registration in a line is its first call. -/
theorem useOf?_eq_head? (t : Text) : useOf? t = (calls t).head? := by
  induction t with
  | nil => rfl
  | cons c rest ih =>
    rw [useOf?, calls]
    cases useAt? (c :: rest) with
    | none => exact ih
    | some name => rfl

theorem calls_of_notMem {t : Text} (h : CodePoint.ofChar ')' ∉ t) : calls t = [] := by
  induction t with
  | nil => rfl
  | cons c rest ih =>
    have hnone : useAt? (c :: rest) = none := by
      cases hat : useAt? (c :: rest) with
      | none => rfl
      | some name => exact absurd ((useAt?_eq_some_iff.1 hat).2.subset (by simp)) h
    rw [calls, hnone, ih fun hc => h (List.mem_cons_of_mem _ hc)]
    rfl

/-- What is inert at the end of a text holds no part of a call. -/
theorem calls_append_of_isInert {s : Text} (hs : IsInert s) (t : Text) :
    calls (t ++ s) = calls t := by
  induction t with
  | nil => exact calls_of_notMem hs.paren_notMem
  | cons c t ih => rw [List.cons_append, calls, calls, ← List.cons_append, useAt?_append hs, ih]

theorem calls_takeTerminator (line : Text) : calls (takeTerminator line) = calls line := by
  unfold takeTerminator
  split
  · obtain ⟨blanks, hline, hb, hadd⟩ := exists_addTerminator_eq line
    conv_rhs => rw [hline, calls_append_of_isInert fun c hc => .inl (hb c hc)]
    rw [hadd, calls_append_of_isInert (isInert_terminator hb)]
  · rfl

theorem useAt?_append_newline (t s : Text) :
    useAt? (t ++ CodePoint.ofChar '\n' :: s) = useAt? t := by
  refine Option.ext fun name => ?_
  rw [useAt?_eq_some_iff, useAt?_eq_some_iff]
  refine and_congr_right fun hn => ⟨fun h => ?_, fun h => h.trans (List.prefix_append t _)⟩
  -- a call that reached over the end of the line would hold the line feed
  rcases List.prefix_or_prefix_of_prefix h (List.prefix_append t _) with h' | ⟨rest, hrest⟩
  · exact h'
  · rw [← hrest, List.prefix_append_right_inj] at h
    cases rest with
    | nil => exact ⟨[], by rw [← hrest]; simp⟩
    | cons c rest =>
      obtain ⟨rfl, -⟩ := List.cons_prefix_cons.1 h
      have hmem : CodePoint.ofChar '\n' ∈ useCall ++ name ++ [CodePoint.ofChar ')'] := by
        rw [← hrest]
        simp
      have hname : CodePoint.ofChar '\n' ∉ name := hn.notMem (by decide)
      simp [useCall, Text.ofString, hname] at hmem

theorem calls_append_newline (t s : Text) :
    calls (t ++ CodePoint.ofChar '\n' :: s) = calls t ++ calls s := by
  induction t with
  | nil =>
    have hnone : useAt? (CodePoint.ofChar '\n' :: s) = none := useAt?_append_newline [] s
    show (useAt? (_ :: s)).toList ++ calls s = calls s
    rw [hnone]
    rfl
  | cons c t ih =>
    rw [List.cons_append, calls, calls, ih, ← List.cons_append, useAt?_append_newline,
      List.append_assoc]

/-- The calls of a text are those of its lines. -/
theorem calls_unlines (lines : List Text) : calls (Text.unlines lines) = lines.flatMap calls := by
  induction lines with
  | nil => rfl
  | cons line lines ih =>
    cases lines with
    | nil => simp [Text.unlines, Text.join]
    | cons next rest =>
      rw [Text.unlines_cons_cons, calls_append_newline, ih]
      rfl

/-- The calls on a line, unless the line is an import. -/
def lineCalls (line : Text) : List Text := if isImport line then [] else calls line

/-- The calls of a text that stand on no import. -/
def looseCalls (t : Text) : List Text := t.lines.flatMap lineCalls

/-! ## Records -/

/-- A line is removed for its first call. -/
theorem registersAny_iff {names : List Text} {line : Text} :
    registersAny names line ↔ isImport line = false ∧ ∃ name ∈ names, (calls line).head? = some name := by
  rw [registersAny, isImport, ← useOf?_eq_head?, lineKind_eq]
  cases importOf? line.strip with
  | some found => simp
  | none =>
    cases useOf? line with
    | none => simp
    | some name => simp

theorem isImport_takeTerminator (line : Text) :
    isImport (takeTerminator line) = isImport line := by
  by_cases hsame : takeTerminator line = line
  · rw [hsame]
  · have hlink : startsLink line := by
      rw [← isChainLink_eq]
      unfold takeTerminator at hsame
      split at hsame
      · exact (Bool.and_eq_true_iff.1 ‹_›).1
      · exact absurd rfl hsame
    rw [isImport_eq_false_of_not_opensImport (opensImport_of_startsLink hlink),
      isImport_eq_false_of_not_opensImport (opensImport_takeTerminator hsame)]

theorem lineCalls_takeTerminator (line : Text) :
    lineCalls (takeTerminator line) = lineCalls line := by
  rw [lineCalls, lineCalls, isImport_takeTerminator, calls_takeTerminator]

/-- What a semicolon does not change is that of the lines that stay. -/
theorem flatMap_unlink {f : Text → List Text} (hf : ∀ line, f (takeTerminator line) = f line)
    (p : Text → Bool) (lines : List Text) :
    (unlink p lines).1.flatMap f = (lines.filter (!p ·)).flatMap f := by
  induction lines with
  | nil => rfl
  | cons line lines ih =>
    rw [unlink]
    dsimp only
    cases hp : p line
    · rw [List.filter_cons_of_pos (by rw [hp]; rfl), List.flatMap_cons, ← ih]
      simp only [Bool.false_eq_true, if_false, List.flatMap_cons]
      split
      · rw [hf]
      · rfl
    · rw [List.filter_cons_of_neg (by rw [hp]; simp), ← ih]
      rfl

theorem count_flatMap_filter (p : Text → Bool) (f : Text → List Text) (lines : List Text)
    (name : Text) : (lines.flatMap f).count name =
      ((lines.filter (!p ·)).flatMap f).count name + ((lines.filter p).flatMap f).count name := by
  induction lines with
  | nil => rfl
  | cons line lines ih =>
    rw [List.flatMap_cons, List.count_append, ih]
    cases hp : p line
    · rw [List.filter_cons_of_pos (by rw [hp]; rfl), List.filter_cons_of_neg (by rw [hp]; simp),
        List.flatMap_cons, List.count_append]
      omega
    · rw [List.filter_cons_of_neg (by rw [hp]; simp), List.filter_cons_of_pos hp,
        List.flatMap_cons, List.count_append]
      omega

/-! ## Imports that go -/

/-- An import is recorded under the number of its line. -/
theorem isImport_of_mem_imports {number : Nat} {lines : List Text} {r : ImportRecord} {line : Text}
    (h : r ∈ (Survey.ofLines number lines).imports) (hl : (line, r.line) ∈ lines.zipIdx number) :
    isImport line := by
  induction lines generalizing number with
  | nil => cases h
  | cons first lines ih =>
    rw [List.zipIdx_cons] at hl
    have hbehind : ∀ s ∈ (Survey.ofLines (number + 1) lines).imports, number < s.line := by
      intro s hs
      have hmem : s.line ∈ places (isTarget fun _ _ => true) (number + 1) lines := by
        rw [← places_imports]
        exact List.mem_map_of_mem (List.mem_filter.2 ⟨hs, rfl⟩)
      exact le_of_mem_places hmem
    have hrest : r ∈ (Survey.ofLines (number + 1) lines).imports → isImport line := by
      intro hr
      rcases List.mem_cons.1 hl with hhead | hl
      · have := hbehind r hr
        rw [(Prod.mk.inj hhead).2] at this
        omega
      · exact ih hr hl
    rw [Survey.ofLines] at h
    cases hk : lineKind first with
    | importOf name path =>
      rw [hk] at h
      rcases List.mem_cons.1 h with rfl | h
      · rcases List.mem_cons.1 hl with hhead | hl
        · rw [(Prod.mk.inj hhead).1]
          exact isImport_of_lineKind hk
        · have := List.le_snd_of_mem_zipIdx hl
          dsimp only at this
          omega
      · exact hrest h
    | useOf name =>
      rw [hk] at h
      exact hrest h
    | other =>
      rw [hk] at h
      exact hrest h

theorem isImport_of_contains {t : Text} {isGenerated : ImportMatcher} {p : Text × Nat}
    (hp : p ∈ t.lines.zipIdx 1)
    (h : ((removedImports t isGenerated).map (·.line)).contains p.2) : isImport p.1 := by
  obtain ⟨r, hr, hline⟩ := List.mem_map.1 (List.contains_iff_mem.1 h)
  have hplace : (p.1, r.line) ∈ t.lines.zipIdx 1 := by
    rw [hline]
    exact hp
  exact isImport_of_mem_imports (List.mem_filter.1 hr).1 hplace

/-- What an import has nothing of is that of the lines without the imports that go. -/
theorem flatMap_unimported {f : Text → List Text} (hf : ∀ line, isImport line → f line = [])
    (t : Text) (isGenerated : ImportMatcher) :
    (unimported t isGenerated).flatMap f = t.lines.flatMap f := by
  have hgone : ∀ p ∈ t.lines.zipIdx 1,
      ((removedImports t isGenerated).map (·.line)).contains p.2 → f p.1 = [] :=
    fun p hp hmem => hf _ (isImport_of_contains hp hmem)
  have hall : t.lines = (t.lines.zipIdx 1).map (·.1) := (List.zipIdx_map_fst 1 t.lines).symm
  rw [unimported]
  conv_rhs => rw [hall]
  generalize t.lines.zipIdx 1 = numbered at hgone ⊢
  induction numbered with
  | nil => rfl
  | cons p numbered ih =>
    have ih := ih fun q hq => hgone q (List.mem_cons_of_mem _ hq)
    rw [List.filter_cons]
    split
    · rw [List.map_cons, List.map_cons, List.flatMap_cons, List.flatMap_cons, ih]
    · rename_i hp
      rw [ih, List.map_cons, List.flatMap_cons,
        hgone p List.mem_cons_self (by simpa using hp), List.nil_append]

/-! ## Lines that keep calls apart -/

/-- Every line that calls one of some variables is no import and calls no other variable. -/
def KeepsApart (names : List Text) (lines : List Text) : Prop :=
  ∀ line ∈ lines, (∃ name ∈ calls line, name ∈ names) →
    isImport line = false ∧ ∀ name ∈ calls line, name ∈ names

section Kept

variable {names lines : List Text}

/-- A line with a call of a variable that goes starts with one, so the line goes. -/
theorem KeepsApart.notMem_calls (h : KeepsApart names lines) {name : Text} (hname : name ∈ names) :
    name ∉ (lines.filter (!registersAny names ·)).flatMap calls := by
  intro hcall
  obtain ⟨line, hline, hcall⟩ := List.mem_flatMap.1 hcall
  obtain ⟨hline, hstays⟩ := List.mem_filter.1 hline
  obtain ⟨himport, hall⟩ := h line hline ⟨name, hcall, hname⟩
  obtain ⟨first, rest, hcalls⟩ := List.exists_cons_of_ne_nil (List.ne_nil_of_mem hcall)
  have hgoes : registersAny names line :=
    registersAny_iff.2 ⟨himport, first, hall first (by simp [hcalls]), by rw [hcalls]; rfl⟩
  rw [hgoes] at hstays
  cases hstays

/-- No line that goes calls a variable that stays. -/
theorem KeepsApart.count_lineCalls (h : KeepsApart names lines) {name : Text}
    (hname : name ∉ names) :
    ((lines.filter (!registersAny names ·)).flatMap lineCalls).count name =
      (lines.flatMap lineCalls).count name := by
  have hlost : ((lines.filter (registersAny names)).flatMap lineCalls).count name = 0 := by
    refine List.count_eq_zero.2 fun hmem => ?_
    obtain ⟨line, hline, hcall⟩ := List.mem_flatMap.1 hmem
    obtain ⟨hline, hgoes⟩ := List.mem_filter.1 hline
    obtain ⟨himport, first, hfirst, hhead⟩ := registersAny_iff.1 hgoes
    rw [lineCalls, himport] at hcall
    exact hname ((h line hline ⟨first, List.mem_of_head? hhead, hfirst⟩).2 name hcall)
  rw [count_flatMap_filter (registersAny names) lineCalls lines name, hlost, Nat.add_zero]

theorem keepsApart_of_calls
    (hnone : ∀ name ∈ names, name ∉ (lines.filter (!registersAny names ·)).flatMap calls)
    (hcount : ∀ name ∉ names, ((lines.filter (!registersAny names ·)).flatMap lineCalls).count name =
      (lines.flatMap lineCalls).count name) : KeepsApart names lines := by
  rintro line hline ⟨name, hcall, hname⟩
  have hgoes : registersAny names line := by
    by_contra hstays
    refine hnone name hname (List.mem_flatMap.2 ⟨line, List.mem_filter.2 ⟨hline, ?_⟩, hcall⟩)
    rw [Bool.not_eq_true] at hstays
    rw [hstays]
    rfl
  obtain ⟨himport, -⟩ := registersAny_iff.1 hgoes
  refine ⟨himport, fun other hother => ?_⟩
  by_contra hkept
  -- the call of another variable goes with the line
  have hlost : other ∈ (lines.filter (registersAny names)).flatMap lineCalls := by
    refine List.mem_flatMap.2 ⟨line, List.mem_filter.2 ⟨hline, hgoes⟩, ?_⟩
    rwa [lineCalls, himport]
  have hpos := List.count_pos_iff.2 hlost
  have hsum := count_flatMap_filter (registersAny names) lineCalls lines other
  have hsame := hcount other hkept
  omega

end Kept

/-! ## Removals -/

section Remove

variable (t : Text) (isGenerated : ImportMatcher)

theorem calls_remove : calls (remove t isGenerated).text =
    ((unimported t isGenerated).filter
      (!registersAny (removedNames t isGenerated) ·)).flatMap calls := by
  rw [text_remove_eq, calls_unlines, flatMap_unlink calls_takeTerminator]

theorem looseCalls_unlines {lines : List Text} (h : ∀ line ∈ lines, CodePoint.ofChar '\n' ∉ line) :
    looseCalls (Text.unlines lines) = lines.flatMap lineCalls := by
  by_cases hnil : lines = []
  · rw [hnil]
    rfl
  · rw [looseCalls, Text.lines_unlines hnil h]

theorem looseCalls_remove : looseCalls (remove t isGenerated).text =
    ((unimported t isGenerated).filter
      (!registersAny (removedNames t isGenerated) ·)).flatMap lineCalls := by
  rw [text_remove_eq, looseCalls_unlines, flatMap_unlink lineCalls_takeTerminator]
  exact newline_notMem_unlink _ fun line hline =>
    Text.newline_notMem_of_mem_lines (mem_lines_of_mem_unimported hline)

theorem looseCalls_eq : looseCalls t = (unimported t isGenerated).flatMap lineCalls := by
  refine (flatMap_unimported (fun line h => ?_) t isGenerated).symm
  rw [lineCalls, if_pos h]

/-- A removal leaves no call of a variable it removes, and every other call that stands on no import,
exactly if the lines keep the two apart. -/
theorem calls_remove_iff :
    let names := removedNames t isGenerated
    let left := (remove t isGenerated).text
    ((∀ name ∈ names, name ∉ calls left) ∧
      ∀ name ∉ names, (looseCalls left).count name = (looseCalls t).count name) ↔
        KeepsApart names (unimported t isGenerated) := by
  intro names left
  have hleft : calls left =
      ((unimported t isGenerated).filter (!registersAny names ·)).flatMap calls :=
    calls_remove t isGenerated
  have hloose : looseCalls left =
      ((unimported t isGenerated).filter (!registersAny names ·)).flatMap lineCalls :=
    looseCalls_remove t isGenerated
  rw [hleft, hloose, looseCalls_eq t isGenerated]
  constructor
  · rintro ⟨hnone, hcount⟩
    exact keepsApart_of_calls hnone hcount
  · intro h
    exact ⟨fun _ => h.notMem_calls, fun _ => h.count_lineCalls⟩

end Remove

/-- Removing one module from a chain with a link a line, and from the same chain with its links on one
line, where either the other module's call goes too or the module's own call stays. -/
theorem calls_remove_iff_oneLine :
    let imports : Text := "import aRoutes from './a.routes'\nimport bRoutes from './b.routes'\napp\n"
    let gone : ImportMatcher := fun r => r.name == "bRoutes"
    let apart : Text := imports ++ "  .use(aRoutes)\n  .use(bRoutes);\n"
    let before : Text := imports ++ "  .use(bRoutes).use(aRoutes);\n"
    let behind : Text := imports ++ "  .use(aRoutes).use(bRoutes);\n"
    calls (remove apart gone).text = ["aRoutes"] ∧
      (∀ name ∉ removedNames apart gone,
        (looseCalls (remove apart gone).text).count name = (looseCalls apart).count name) ∧
      ¬KeepsApart (removedNames before gone) (unimported before gone) ∧
      calls (remove before gone).text = [] ∧
      ¬KeepsApart (removedNames behind gone) (unimported behind gone) ∧
      calls (remove behind gone).text = ["aRoutes", "bRoutes"] := by
  intro imports gone apart before behind
  have hapart : KeepsApart (removedNames apart gone) (unimported apart gone) := by
    unfold KeepsApart
    decide +kernel
  have hbefore : ¬KeepsApart (removedNames before gone) (unimported before gone) := by
    unfold KeepsApart
    decide +kernel
  have hbehind : ¬KeepsApart (removedNames behind gone) (unimported behind gone) := by
    unfold KeepsApart
    decide +kernel
  exact ⟨by decide +kernel, ((calls_remove_iff apart gone).2 hapart).2, hbefore, by decide +kernel,
    hbehind, by decide +kernel⟩

end Routewright.Aggregator
