/-
Whether the lines that a manifest writes into the aggregator are found there again. A registration
always is, with and without the semicolon that ends a chain. An import is found exactly if its path
ends as the aggregator expects it to and stands on one line, which the module suffix and the place of
the output root decide.
-/
import Routewright.Module.Render
import Routewright.Proofs.Aggregator.Upsert
import Routewright.Proofs.Spec.Names

namespace Routewright.Module

open Aggregator (IsEnd Survey lineKind pathEnd registration)

/-! ## Recorded imports -/

/-- What a recorded import's path has to be. -/
theorem path_of_mem_imports {t : Text} {r : Aggregator.ImportRecord}
    (h : r ∈ (Survey.ofText t).imports) :
    r.path.endsWith pathEnd ∧ CodePoint.ofChar '\n' ∉ r.path := by
  obtain ⟨line, hline, hkind⟩ :=
    (Aggregator.mem_imports_ofLines 1 t.lines r.name r.path).1 ⟨r, h, rfl, rfl⟩
  obtain ⟨⟨head, tail, hcode, -⟩, hends, -⟩ :=
    Aggregator.eq_append_of_importOf? (Aggregator.importOf?_of_lineKind hkind)
  obtain ⟨before, after, hstrip, -⟩ := Text.exists_eq_strip line
  refine ⟨hends, fun hc => Text.newline_notMem_of_mem_lines hline ?_⟩
  -- the path is a part of its line
  rw [hstrip, hcode]
  simp [hc]

/-! ## Import paths -/

/-- The last component of a module's import path. -/
def importName (c : Config) (s : Spec) : Text :=
  (Text.dropEnd? ".ts" (fileName c s)).getD (fileName c s)

theorem mem_importName_iff {c : Config} {s : Spec} {x : CodePoint} (hx : x ∉ (".ts" : Text)) :
    x ∈ importName c s ↔ x ∈ fileName c s := by
  unfold importName
  cases hd : Text.dropEnd? ".ts" (fileName c s) with
  | none => rfl
  | some name => rw [Aggregator.eq_append_of_dropEnd? hd]; simp [hx]

theorem suffix_of_suffix_append_cons {s t piece : Text} {c : CodePoint} (hc : c ∉ piece)
    (h : piece <:+ s ++ c :: t) : piece <:+ t := by
  rcases List.suffix_or_suffix_of_suffix h (List.suffix_append s (c :: t)) with h | h
  · rcases List.suffix_cons_iff.1 h with rfl | h
    · exact absurd List.mem_cons_self hc
    · exact h
  · exact absurd (h.subset List.mem_cons_self) hc

section Paths

variable (cwd : FilePath) (c : Config) (s : Spec)

theorem importPath_eq : importPath cwd c s =
    (c.importBase cwd ++ ("/" : Text) ++ s.module ++ ("/" : Text) ++ s.version) ++
      CodePoint.ofChar '/' :: importName c s := by
  simp [importPath, importName, Text.ofString]

/-- A path ends as the aggregator expects it to exactly if its last component does. -/
theorem endsWith_importPath_iff :
    (importPath cwd c s).endsWith pathEnd ↔ (importName c s).endsWith pathEnd := by
  rw [Text.endsWith_iff, Text.endsWith_iff, importPath_eq]
  constructor
  · exact suffix_of_suffix_append_cons (by decide)
  · intro h
    exact h.trans ((List.suffix_cons _ _).trans (List.suffix_append _ _))

theorem length_lt_importPath (h : (importName c s).endsWith pathEnd) :
    pathEnd.length < (importPath cwd c s).length := by
  have hle := (Text.endsWith_iff.1 h).length_le
  rw [importPath_eq]
  simp only [List.length_append, List.length_cons]
  omega

variable {s} (hs : s.IsNamed)
include hs

theorem newline_mem_importPath_iff : CodePoint.ofChar '\n' ∈ importPath cwd c s ↔
    CodePoint.ofChar '\n' ∈ c.importBase cwd ∨ CodePoint.ofChar '\n' ∈ c.moduleSuffix := by
  have hm : CodePoint.ofChar '\n' ∉ s.module := hs.module.notMem (by decide)
  have hv : CodePoint.ofChar '\n' ∉ s.version := hs.version.notMem (by decide)
  have hname : CodePoint.ofChar '\n' ∈ importName c s ↔
      CodePoint.ofChar '\n' ∈ c.moduleSuffix := by
    rw [mem_importName_iff (by decide)]
    simp [fileName, Text.ofString, hm, hv]
  rw [importPath_eq]
  simp [Text.ofString, hm, hv, hname]

end Paths

/-! ## Lines that are found again -/

section Lines

variable (cwd : FilePath) (c : Config) {s : Spec} (hs : s.IsNamed) (source : Option FilePath)
  {cr : Text} (hcr : IsEnd cr)
include hs hcr

theorem uses_registration (ends : Bool) :
    (Survey.ofText (registration (manifest cwd c s source) cr ends)).uses =
      [⟨s.variableName, 1⟩] := by
  have hn : Aggregator.IsName (manifest cwd c s source).variableName :=
    hs.isAsciiName_variableName.toIsName
  have hlines := Text.lines_of_newline_notMem
    (Aggregator.newline_notMem_registration (manifest cwd c s source) hcr hn ends)
  have hkind := Aggregator.lineKind_registration (manifest cwd c s source) hcr hn ends
  rw [Survey.ofText, hlines, Survey.ofLines, hkind]
  rfl

/-- An import is found as it was written exactly if its path can be one. -/
theorem imports_importStatement_iff :
    (Survey.ofText ((manifest cwd c s source).importStatement ++ cr)).imports =
        [⟨s.variableName, importPath cwd c s, 1⟩] ↔
      (importName c s).endsWith pathEnd ∧ CodePoint.ofChar '\n' ∉ c.importBase cwd ∧
        CodePoint.ofChar '\n' ∉ c.moduleSuffix := by
  constructor
  · intro h
    have hmem : (⟨s.variableName, importPath cwd c s, 1⟩ : Aggregator.ImportRecord) ∈
        (Survey.ofText ((manifest cwd c s source).importStatement ++ cr)).imports := by
      rw [h]
      exact List.mem_singleton_self _
    obtain ⟨hends, hfeed⟩ := path_of_mem_imports hmem
    rw [newline_mem_importPath_iff cwd c hs, not_or] at hfeed
    exact ⟨(endsWith_importPath_iff cwd c s).1 hends, hfeed⟩
  · rintro ⟨hends, hfeed⟩
    let m := manifest cwd c s source
    have hn : Aggregator.IsName m.variableName := hs.isAsciiName_variableName.toIsName
    have hpath : CodePoint.ofChar '\n' ∉ m.importPath := by
      rw [← not_or, ← newline_mem_importPath_iff cwd c hs] at hfeed
      exact hfeed
    have hlines := Text.lines_of_newline_notMem
      (Aggregator.newline_notMem_importStatement hn hpath hcr.newline_notMem)
    have hkind : lineKind (m.importStatement ++ cr) = .importOf m.variableName m.importPath := by
      rw [Aggregator.lineKind_eq, Aggregator.strip_importStatement m hcr.isBlank,
        Aggregator.importOf?_importStatement hn ((endsWith_importPath_iff cwd c s).2 hends)
          (length_lt_importPath cwd c s hends)]
    rw [Survey.ofText, hlines, Survey.ofLines, hkind]
    rfl

end Lines

/-- What a manifest writes is found again, its registration always, its import exactly if the file's
name ends as the aggregator expects it to and no line feed stands in the path. -/
theorem statements_found_iff (cwd : FilePath) (c : Config) {origin : Text} {v : Document.Value}
    {s : Spec} (h : Spec.ofValue origin v = .ok s) (source : Option FilePath) {cr : Text}
    (hcr : IsEnd cr) :
    let m := manifest cwd c s source
    (∀ ends, (Survey.ofText (registration m cr ends)).uses = [⟨m.variableName, 1⟩]) ∧
      ((Survey.ofText (m.importStatement ++ cr)).imports = [⟨m.variableName, m.importPath, 1⟩] ↔
        (importName c s).endsWith pathEnd ∧ CodePoint.ofChar '\n' ∉ c.importBase cwd ∧
          CodePoint.ofChar '\n' ∉ c.moduleSuffix) := by
  have hs := Spec.isNamed_of_ofValue h
  exact ⟨uses_registration cwd c hs source hcr, imports_importStatement_iff cwd c hs source hcr⟩

/-- One spec whose module is written under the standard suffix, before a carriage return, and under a
suffix of its own. -/
theorem statements_found_iff_suffixes :
    let v : Document.Value := .map [(.str "module", .str "users"), (.str "version", .str "v1"),
      (.str "routes", .list [])]
    let s : Spec := ⟨"users", "v1", []⟩
    let c := Config.standard ⟨1, ["p"]⟩
    let m := manifest c.root c s none
    let m' := manifest c.root { c with moduleSuffix := "handler.ts" } s none
    Spec.ofValue "users.json" v = .ok s ∧
      m.importPath = "./builder/users/v1/users-v1.routes" ∧
      (Survey.ofText (registration m "\r" true)).uses = [⟨m.variableName, 1⟩] ∧
      (Survey.ofText (m.importStatement ++ ("\r" : Text))).imports =
        [⟨m.variableName, m.importPath, 1⟩] ∧
      m'.importPath = "./builder/users/v1/users-v1.handler" ∧
      (Survey.ofText (m'.importStatement ++ ([] : Text))).imports ≠
        [⟨m'.variableName, m'.importPath, 1⟩] := by
  intro v s c m m'
  have hs : Spec.ofValue "users.json" v = .ok s := by rfl
  have hcr : IsEnd "\r" := fun c hc => List.mem_singleton.1 hc
  have hnone : IsEnd [] := fun c hc => absurd hc List.not_mem_nil
  obtain ⟨huses, himports⟩ := statements_found_iff c.root c hs none hcr
  obtain ⟨-, hlost⟩ :=
    statements_found_iff c.root { c with moduleSuffix := "handler.ts" } hs none hnone
  have hname : ¬(importName { c with moduleSuffix := "handler.ts" } s).endsWith pathEnd := by decide
  exact ⟨hs, by decide, huses true, himports.2 ⟨by decide, by decide, by decide⟩, by decide,
    fun h => hname (hlost.1 h).1⟩

end Routewright.Module
