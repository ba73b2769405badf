/-
Where a project that sets nothing keeps its files, and what its manifests say: modules and manifests
stand two directories below the output root, and the aggregator imports them from below its own
directory, whatever the root is and wherever it is seen from.
-/
import Routewright.Aggregator.Matcher
import Routewright.Module.Render
import Routewright.Proofs.FilePath
import Routewright.Proofs.Project.Tree
import Routewright.Proofs.Spec.Names

namespace Routewright

open Aggregator (IsRecognisable)

/-! ## Names of modules -/

theorem IsAsciiName.isPlainName {name : Text} (h : IsAsciiName name) : IsPlainName name := by
  refine isPlainName_of_ascii h.ascii ?_
  rintro rfl
  exact absurd (h.word (CodePoint.ofChar '.') (by decide)) (by decide)

theorem IsAsciiName.ofText {name : Text} (h : IsAsciiName name) :
    FilePath.ofText name = ⟨0, [name]⟩ := by
  refine FilePath.ofText_of_notMem (h.notMem (by decide)) h.ne_nil ?_
  rintro rfl
  exact absurd (h.word (CodePoint.ofChar '.') (by decide)) (by decide)

/-! ## The places of a project that sets nothing -/

namespace Config

variable (cwd root : FilePath)

theorem specsPath_standard :
    (standard root).specsPath = root.append ⟨0, ["api-builder", "json"]⟩ := rfl

theorem outputPath_standard :
    (standard root).outputPath = root.append ⟨0, ["src", "builder"]⟩ := rfl

theorem aggregatorPath_standard :
    (standard root).aggregatorPath = root.append ⟨0, ["src", "index.ts"]⟩ := rfl

theorem parent_aggregatorPath :
    (standard root).aggregatorPath.parent = root.append ⟨0, ["src"]⟩ := by
  rw [aggregatorPath_standard, FilePath.parent, FilePath.append_relative]
  simp [FilePath.append_relative, List.dropLast_append_of_ne_nil]

theorem importBase_standard : (standard root).importBase cwd = "./builder" := by
  have hbelow : ∀ parts : List Text, (∀ part ∈ parts, part ≠ FilePath.above) →
      (FilePath.resolve cwd (root.append ⟨0, parts⟩)).parts =
        FilePath.resolveParts [] (cwd.append root).parts ++ parts := by
    intro parts h
    rw [FilePath.resolve]
    dsimp only
    rw [FilePath.parts_append_relative, FilePath.resolveParts_append h]
  have hway : FilePath.relativeTo cwd (standard root).outputPath
      (standard root).aggregatorPath.parent = ⟨0, ["builder"]⟩ := by
    have hsplit : ∀ parts : List Text, parts ++ [Text.ofString "src", Text.ofString "builder"] =
        (parts ++ [Text.ofString "src"]) ++ [Text.ofString "builder"] := by simp
    rw [FilePath.relativeTo, parent_aggregatorPath, outputPath_standard, hbelow _ (by decide),
      hbelow _ (by decide), hsplit, FilePath.dropCommon_append]
    rfl
  rw [importBase, hway]
  rfl

end Config

namespace Module

/-- The name of a file of a module, by what it ends in. -/
def fileOf (s : Spec) (last : Text) : Text := s.module ++ "-" ++ s.version ++ "." ++ last

variable (cwd root : FilePath) {s : Spec} (hs : s.IsNamed) (source : Option FilePath)
include hs

theorem directory_eq (c : Config) :
    directory c s = c.outputPath.append ⟨0, [s.module, s.version]⟩ := by
  rw [directory, FilePath.child, FilePath.child, hs.module.ofText, hs.version.ofText,
    FilePath.append_append_relative]
  rfl

theorem directory_standard : directory (.standard root) s =
    root.append ⟨0, ["src", "builder", s.module, s.version]⟩ := by
  rw [directory_eq hs, Config.outputPath_standard, FilePath.append_append_relative]
  rfl

omit hs in
theorem dash_mem_fileOf (last : Text) : CodePoint.ofChar '-' ∈ fileOf s last := by
  simp [fileOf, Text.ofString]

theorem isPlainName_fileOf {last : Text} (hl : ∀ c ∈ last, c.val < 128) :
    IsPlainName (fileOf s last) := by
  refine isPlainName_of_ascii (fun c hc => ?_) fun h => ?_
  · simp only [fileOf, List.mem_append] at hc
    rcases hc with (((hc | hc) | hc) | hc) | hc
    · exact hs.module.ascii c hc
    · revert c; decide
    · exact hs.version.ascii c hc
    · revert c; decide
    · exact hl c hc
  · have hmem := dash_mem_fileOf (s := s) last
    rw [h] at hmem
    exact absurd hmem (by decide)

theorem child_fileOf (c : Config) {last : Text} (hl : CodePoint.ofChar '/' ∉ last) :
    (directory c s).child (fileOf s last) =
      c.outputPath.append ⟨0, [s.module, s.version, fileOf s last]⟩ := by
  have hslash : CodePoint.ofChar '/' ∉ fileOf s last := by
    have hm := hs.module.notMem (c := CodePoint.ofChar '/') (by decide)
    have hv := hs.version.notMem (c := CodePoint.ofChar '/') (by decide)
    simp [fileOf, Text.ofString, hm, hv, hl]
  have hmem := dash_mem_fileOf (s := s) last
  have hne : fileOf s last ≠ [] := List.ne_nil_of_mem hmem
  have hdot : fileOf s last ≠ "." := by
    intro h
    rw [h] at hmem
    exact absurd hmem (by decide)
  rw [directory_eq hs, FilePath.child, FilePath.ofText_of_notMem hslash hne hdot,
    FilePath.append_append_relative]
  rfl

/-- Every manifest stands two directories below the output root. -/
theorem manifestPath_eq (c : Config) : manifestPath c s =
    c.outputPath.append ⟨0, [s.module, s.version, fileOf s manifestSuffix]⟩ :=
  child_fileOf hs c (by decide)

theorem modulePath_standard : modulePath (.standard root) s =
    root.append ⟨0, ["src", "builder", s.module, s.version, fileOf s "routes.ts"]⟩ := by
  have hl : CodePoint.ofChar '/' ∉ Text.ofString "routes.ts" := by decide
  rw [show modulePath (.standard root) s = _ from child_fileOf hs _ hl,
    Config.outputPath_standard, FilePath.append_append_relative]
  rfl

theorem manifestPath_standard : manifestPath (.standard root) s =
    root.append ⟨0, ["src", "builder", s.module, s.version, fileOf s manifestSuffix]⟩ := by
  rw [manifestPath_eq hs, Config.outputPath_standard, FilePath.append_append_relative]
  rfl

omit hs in
theorem importPath_standard : importPath cwd (.standard root) s =
    ("./builder/" : Text) ++ (s.module ++ "/" ++ s.version ++ "/" ++
      (s.module ++ "-" ++ s.version ++ ".") ++ Aggregator.pathEnd) := by
  have hname : fileName (.standard root) s =
      s.module ++ "-" ++ s.version ++ "." ++ Aggregator.pathEnd ++ (".ts" : Text) := by
    simp [fileName, Config.standard, Aggregator.pathEnd, Text.ofString]
  rw [importPath, hname, Aggregator.dropEnd?_append, Config.importBase_standard]
  simp [Text.ofString]

/-- What is generated for a project that sets nothing is found in the aggregator again. -/
theorem isRecognisable_manifest : IsRecognisable (manifest cwd (.standard root) s source) := by
  have hpath : (manifest cwd (.standard root) s source).importPath =
      importPath cwd (.standard root) s := rfl
  have hn := hs.isAsciiName_variableName.toIsName
  have hnot : ∀ c : CodePoint, c.isWord = false → c ∉ ("./builder/-" : Text) → c ∉ Aggregator.pathEnd →
      c ∉ importPath cwd (.standard root) s := by
    intro c hw hb he
    have hm := hs.module.notMem hw
    have hv := hs.version.notMem hw
    rw [importPath_standard]
    simp_all [Text.ofString]
  refine ⟨⟨hn, ?_, ?_, ?_, ?_⟩, s.endsWith_variableName⟩
  · rw [hpath, importPath_standard, ← List.append_assoc]
    exact Text.endsWith_iff.2 (List.suffix_append _ _)
  · rw [hpath, importPath_standard]
    simp [Text.ofString, Aggregator.pathEnd]
  · rw [hpath]
    exact hnot _ (by decide) (by decide) (by decide)
  · rw [hpath]
    exact Text.contains_eq_false_of_notMem (c := CodePoint.ofChar '(') (by decide)
      (hnot _ (by decide) (by decide) (by decide))

omit hs in
/-- What is generated for a project that sets nothing is imported from the output root. -/
theorem outputMatcher_importPath (name : Text) (line : Nat) :
    Aggregator.outputMatcher cwd (.standard root)
      ⟨name, importPath cwd (.standard root) s, line⟩ := by
  have hbase : Aggregator.dropSlashes "./builder" ++ ("/" : Text) = ("./builder/" : Text) := by
    decide
  rw [Aggregator.outputMatcher, Config.importBase_standard]
  dsimp only
  rw [hbase, importPath_standard, Text.startsWith_iff.2 (List.prefix_append _ _)]
  rfl

end Module

end Routewright
