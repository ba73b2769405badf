/-
Where the path that a module is imported by leads. It is the way from the aggregator's directory to
the output root, the module's directories and the name of its file without a closing `.ts`; below the
aggregator's directory it names the file that is written, however the output root and the aggregator
lie to each other.
-/
import Routewright.Proofs.FilePath
import Routewright.Proofs.Module.Statements

namespace Routewright

open FilePath

namespace Config

/-- The import base is the way from the aggregator's directory to the output root. -/
theorem components_importBase (cwd : FilePath) {c : Config} (hroot : c.root.IsWellFormed)
    (habsolute : c.root.isAbsolute) :
    components (c.importBase cwd) =
      (relativeTo cwd c.outputPath c.aggregatorPath.parent).parts := by
  have houtput : (cwd.append c.outputPath).IsWellFormed := by
    have hout : c.outputPath.isAbsolute := isAbsolute_append habsolute _
    rw [append_of_isAbsolute hout]
    exact hroot.child c.outputRoot
  have hway := components_toText (isWellFormed_relativeTo houtput c.aggregatorPath.parent)
  unfold importBase
  dsimp only
  split
  · exact hway
  · have hbase := components_append_slash "." (relativeTo cwd c.outputPath
      c.aggregatorPath.parent).toText
    rw [hway] at hbase
    exact hbase

end Config

namespace Module

/-- What a module's file name ends in that its import path leaves out. -/
def extension (c : Config) (s : Spec) : Text := if (fileName c s).endsWith ".ts" then ".ts" else []

/-- The file that a module is imported from: the import path below the aggregator's directory, with
the extension that it leaves out. -/
def importedFile (cwd : FilePath) (c : Config) (s : Spec) : FilePath :=
  ofText (c.aggregatorPath.parent.toText ++ "/" ++ importPath cwd c s ++ extension c s)

theorem importName_append_extension (c : Config) (s : Spec) :
    importName c s ++ extension c s = fileName c s := by
  unfold importName extension
  cases hd : Text.dropEnd? ".ts" (fileName c s) with
  | none =>
    have hends : ¬(fileName c s).endsWith ".ts" := by
      intro h
      have hsome : Text.dropEnd? ".ts" (fileName c s) = some _ := if_pos h
      rw [hd] at hsome
      cases hsome
    rw [if_neg hends]
    exact List.append_nil _
  | some name =>
    have hname := Aggregator.eq_append_of_dropEnd? hd
    have hends : (fileName c s).endsWith ".ts" :=
      Text.endsWith_iff.2 (hname ▸ List.suffix_append name ".ts")
    rw [if_pos hends, hname]
    rfl

theorem head?_append_ne_slash {name : Text} (h : IsAsciiName name) (tail : Text) :
    (name ++ tail).head? ≠ some (CodePoint.ofChar '/') := by
  obtain ⟨c, rest, rfl⟩ := List.exists_cons_of_ne_nil h.ne_nil
  intro hhead
  obtain rfl : c = CodePoint.ofChar '/' := Option.some.inj hhead
  exact absurd (h.word _ List.mem_cons_self) (by decide)

section Places

variable (cwd : FilePath) {c : Config} {s : Spec}

theorem parts_modulePath (hs : s.IsNamed) : (modulePath c s).parts =
    c.outputPath.parts ++
      (components s.module ++ components s.version ++ components (fileName c s)) := by
  have hmodule := head?_append_ne_slash hs.module []
  have hversion := head?_append_ne_slash hs.version []
  have hfile := head?_append_ne_slash hs.module ("-" ++ s.version ++ "." ++ c.moduleSuffix)
  rw [List.append_nil] at hmodule hversion
  have hname : s.module ++ ("-" ++ s.version ++ "." ++ c.moduleSuffix) = fileName c s := by
    simp only [fileName, List.append_assoc]
  rw [hname] at hfile
  unfold modulePath directory
  rw [parts_child hfile, parts_child hversion, parts_child hmodule]
  simp only [List.append_assoc]

theorem parts_importedFile (hroot : c.root.IsWellFormed) (habsolute : c.root.isAbsolute) :
    (importedFile cwd c s).parts =
      c.aggregatorPath.parent.parts ++
        (relativeTo cwd c.outputPath c.aggregatorPath.parent).parts ++
      (components s.module ++ components s.version ++ components (fileName c s)) := by
  have hdirectory : c.aggregatorPath.parent.IsWellFormed := (hroot.child c.aggregator).parent
  have htext : c.aggregatorPath.parent.toText ++ "/" ++ importPath cwd c s ++ extension c s =
      c.aggregatorPath.parent.toText ++ CodePoint.ofChar '/' :: (c.importBase cwd ++
        CodePoint.ofChar '/' :: (s.module ++ CodePoint.ofChar '/' :: (s.version ++
          CodePoint.ofChar '/' :: fileName c s))) := by
    rw [← importName_append_extension c s, importPath_eq]
    simp [Text.ofString]
  unfold importedFile
  rw [htext]
  show components _ = _
  rw [components_append_slash, components_append_slash, components_append_slash,
    components_append_slash, components_toText hdirectory,
    Config.components_importBase cwd hroot habsolute]
  simp only [List.append_assoc]

theorem isAbsolute_importedFile (habsolute : c.root.isAbsolute) :
    (importedFile cwd c s).isAbsolute := by
  have hdirectory : c.aggregatorPath.parent.isAbsolute := isAbsolute_append habsolute _
  obtain ⟨rest, hrest⟩ := exists_toText_eq hdirectory
  unfold importedFile
  rw [hrest]
  exact isAbsolute_ofText _

end Places

/-- The path that a module is imported by leads from the aggregator's directory to the file that is
written for it, wherever both are seen from. -/
theorem importedFile_leads (cwd : FilePath) {c : Config} (hroot : c.root.IsWellFormed)
    (habsolute : c.root.isAbsolute) {origin : Text} {v : Document.Value} {s : Spec}
    (h : Spec.ofValue origin v = .ok s) (seen : FilePath) :
    (resolve seen (importedFile cwd c s)).parts = (resolve seen (modulePath c s)).parts := by
  have hmodule : (modulePath c s).isAbsolute :=
    isAbsolute_append (isAbsolute_append (isAbsolute_append (isAbsolute_append habsolute _) _) _) _
  have hdirectory : c.aggregatorPath.parent.isAbsolute := isAbsolute_append habsolute _
  have houtput : c.outputPath.isAbsolute := isAbsolute_append habsolute _
  have hway := resolve_append_relativeTo cwd c.outputPath c.aggregatorPath.parent
  rw [resolve_parts_of_isAbsolute (isAbsolute_append hdirectory _),
    resolve_parts_of_isAbsolute houtput] at hway
  calc (resolve seen (importedFile cwd c s)).parts
      = resolveParts [] (c.aggregatorPath.parent.parts ++
            (relativeTo cwd c.outputPath c.aggregatorPath.parent).parts ++
          (components s.module ++ components s.version ++ components (fileName c s))) := by
        rw [resolve_parts_of_isAbsolute (isAbsolute_importedFile cwd habsolute),
          parts_importedFile cwd hroot habsolute]
    _ = resolveParts (resolveParts [] c.outputPath.parts).reverse
          (components s.module ++ components s.version ++ components (fileName c s)) := by
        rw [resolveParts_append_eq, ← hway]
        rfl
    _ = (resolve seen (modulePath c s)).parts := by
        rw [resolve_parts_of_isAbsolute hmodule, parts_modulePath (Spec.isNamed_of_ofValue h),
          resolveParts_append_eq [] c.outputPath.parts]

/-- An output root that is reached over the directory above, an aggregator's directory that is
written with a way back, and a suffix with a directory of its own. -/
theorem importedFile_leads_nested :
    let v : Document.Value := .map [(.str "module", .str "users"), (.str "version", .str "v1"),
      (.str "routes", .list [])]
    let s : Spec := ⟨"users", "v1", []⟩
    let c : Config := { Config.standard (ofText "/work/../p//x") with
      outputRoot := "../gen/./out", aggregator := "app/main/../index.ts",
      moduleSuffix := "d/routes.ts" }
    Spec.ofValue "users.json" v = .ok s ∧ c.root.isAbsolute ∧
      importPath c.root c s = "../../gen/out/users/v1/users-v1.d/routes" ∧
      (modulePath c s).toText = "/work/../p/x/../gen/out/users/v1/users-v1.d/routes.ts" ∧
      (resolve c.root (importedFile c.root c s)).parts = (resolve c.root (modulePath c s)).parts ∧
      (resolve c.root (modulePath c s)).parts =
        ["p", "gen", "out", "users", "v1", "users-v1.d", "routes.ts"] := by
  intro v s c
  have hs : Spec.ofValue "users.json" v = .ok s := by rfl
  have habsolute : c.root.isAbsolute := by decide
  have hleads := importedFile_leads c.root (isWellFormed_ofText _) habsolute hs c.root
  exact ⟨hs, habsolute, by decide, by decide, hleads, by decide⟩

end Module
end Routewright
