/-
What is written of scalar values is made of scalar values: paths that are read, put together, resolved
and shown, and the texts of a manifest. So a manifest has bytes wherever the configuration, the
working directory and the path of the document have.
-/
import Routewright.Proofs.Module.Places
import Routewright.Proofs.Text.Utf8

namespace Routewright

namespace Text

/-- A text without surrogates. -/
def IsScalar (t : Text) : Prop := ∀ c ∈ t, c.isSurrogate = false

namespace IsScalar

variable {t u : Text}

theorem of_subset (ht : t.IsScalar) (h : u ⊆ t) : u.IsScalar := fun c hc => ht c (h hc)

theorem append (ht : t.IsScalar) (hu : u.IsScalar) : IsScalar (t ++ u) := fun c hc =>
  (List.mem_append.1 hc).elim (ht c) (hu c)

theorem ofString (s : String) : IsScalar s := fun _ => isSurrogate_of_mem_ofString

theorem of_ascii (h : ∀ c ∈ t, c.val < 128) : t.IsScalar := by
  intro c hc
  have := h c hc
  simp only [CodePoint.isSurrogate, Bool.and_eq_false_iff, decide_eq_false_iff_not]
  omega

theorem join {separator : Text} {pieces : List Text} (hs : separator.IsScalar)
    (h : ∀ piece ∈ pieces, piece.IsScalar) : (Text.join separator pieces).IsScalar := by
  intro c hc
  rcases mem_of_mem_join hc with hc | ⟨piece, hpiece, hc⟩
  · exact hs c hc
  · exact h piece hpiece c hc

end IsScalar

theorem exists_encode? {t : Text} (h : t.IsScalar) : ∃ content, t.encode? = some content :=
  ⟨_, encode?_eq_some_iff.2 ⟨h, rfl⟩⟩

end Text

/-! ## Paths -/

namespace FilePath

/-- A path whose components hold no surrogates. -/
def IsScalar (p : FilePath) : Prop := ∀ part ∈ p.parts, part.IsScalar

theorem isScalar_ofText {t : Text} (h : t.IsScalar) : (ofText t).IsScalar := by
  intro part hpart
  refine h.of_subset fun c hc => ?_
  have hsplit : part ∈ Text.splitOn '/' t := List.mem_of_mem_filter hpart
  rw [Text.splitOn_eq] at hsplit
  have hjoin : [CodePoint.ofChar '/'].intercalate (List.splitOn (CodePoint.ofChar '/') t) = t :=
    List.intercalate_splitOn _
  rw [← hjoin]
  exact Text.mem_join_of_mem hsplit hc

namespace IsScalar

variable {p q cwd : FilePath}

theorem append (hp : p.IsScalar) (hq : q.IsScalar) : (p.append q).IsScalar := by
  intro part hpart
  unfold FilePath.append at hpart
  split at hpart
  · exact hq part hpart
  · exact (List.mem_append.1 hpart).elim (hp part) (hq part)

theorem child (hp : p.IsScalar) {t : Text} (ht : t.IsScalar) : (p.child t).IsScalar :=
  hp.append (isScalar_ofText ht)

theorem toText (hp : p.IsScalar) : p.toText.IsScalar := by
  unfold FilePath.toText
  split
  · exact .ofString "."
  · refine .append (fun c hc => ?_) (.join (.ofString "/") hp)
    rw [List.eq_of_mem_replicate hc]
    decide

theorem resolve (hcwd : cwd.IsScalar) (hp : p.IsScalar) : (FilePath.resolve cwd p).IsScalar :=
  fun part hpart => (hcwd.append hp) part
    ((mem_of_mem_resolveParts hpart).resolve_left List.not_mem_nil)

theorem relativeTo (hcwd : cwd.IsScalar) (hp : p.IsScalar) (directory : FilePath) :
    (FilePath.relativeTo cwd p directory).IsScalar := by
  intro part hpart
  rcases mem_of_mem_relativeTo hpart with rfl | hpart
  · exact .ofString ".."
  · exact (hcwd.append hp) part hpart

theorem below? (hp : p.IsScalar) {directory : FilePath} (h : p.below? directory = some q) :
    q.IsScalar := by
  unfold FilePath.below? at h
  split at h
  · obtain ⟨rest, hrest, rfl⟩ := Option.map_eq_some_iff.1 h
    rw [List.isPrefixOf?_eq_some_iff_append_eq] at hrest
    exact fun part hpart => hp part (hrest ▸ List.mem_append_right _ hpart)
  · cases h

end IsScalar

end FilePath

/-! ## Manifests -/

/-- A configuration whose paths and names of modules hold no surrogates. -/
structure Config.IsScalar (c : Config) : Prop where
  root : c.root.IsScalar
  outputRoot : c.outputRoot.IsScalar
  aggregator : c.aggregator.IsScalar
  moduleSuffix : c.moduleSuffix.IsScalar

/-- A manifest whose texts hold no surrogates. -/
structure Manifest.IsScalar (m : Manifest) : Prop where
  module : m.module.IsScalar
  version : m.version.IsScalar
  variableName : m.variableName.IsScalar
  importPath : m.importPath.IsScalar
  modulePath : m.modulePath.IsScalar
  sourceSpec : ∀ source, m.sourceSpec = some source → source.IsScalar

section

variable {c : Config} {cwd : FilePath} (hc : c.IsScalar) (hcwd : cwd.IsScalar)
include hc hcwd

omit hc in
theorem Config.isScalar_display {p : FilePath} (hp : p.IsScalar) : (c.display cwd p).IsScalar := by
  unfold display
  split
  · split
    · rename_i q hq
      exact ((hcwd.resolve hp).below? hq).toText
    · exact hp.toText
  · exact hp.toText

theorem Config.isScalar_importBase : (c.importBase cwd).IsScalar := by
  have hway := (hcwd.relativeTo (hc.root.child hc.outputRoot) c.aggregatorPath.parent).toText
  unfold importBase
  dsimp only
  split
  · exact hway
  · exact .append (.ofString "./") hway

/-- The manifest of a module is made of scalar values if all it is made from is. -/
theorem Module.isScalar_manifest {s : Spec} (hs : s.IsNamed) {source : Option FilePath}
    (hsource : ∀ file, source = some file → file.IsScalar) :
    (Module.manifest cwd c s source).IsScalar := by
  have hmodule : s.module.IsScalar := .of_ascii hs.module.ascii
  have hversion : s.version.IsScalar := .of_ascii hs.version.ascii
  have hname : (Module.fileName c s).IsScalar :=
    (((hmodule.append (.ofString "-")).append hversion).append (.ofString ".")).append
      hc.moduleSuffix
  have hpath : (Module.modulePath c s).IsScalar :=
    (((hc.root.child hc.outputRoot).child hmodule).child hversion).child hname
  have hstem : ((Text.dropEnd? ".ts" (Module.fileName c s)).getD (Module.fileName c s)).IsScalar := by
    unfold Text.dropEnd?
    split
    · exact hname.of_subset (List.take_subset _ _)
    · exact hname
  refine ⟨hmodule, hversion, .of_ascii hs.isAsciiName_variableName.ascii, ?_,
    Config.isScalar_display hcwd hpath, fun shown hshown => ?_⟩
  · exact ((((((Config.isScalar_importBase hc hcwd).append (.ofString "/")).append hmodule).append
      (.ofString "/")).append hversion).append (.ofString "/")).append hstem
  · obtain ⟨file, hfile, rfl⟩ := Option.map_eq_some_iff.1 hshown
    exact Config.isScalar_display hcwd (hsource file hfile)

end

end Routewright
