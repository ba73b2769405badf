/-
The manifest of a module that has been written is found again: its file stands below the output root
under a manifest's name, and holds bytes that are read as the manifest. So whoever reads the manifests
of that tree, cleaning included, has it.
-/
import Routewright.Proofs.Module.Recorded
import Routewright.Proofs.Project.Clean

namespace Routewright.Output

open Routewright.Tree
open Document

/-- The bytes that a manifest is written as, with line feeds behind it or not, hold that manifest. -/
theorem ManifestFile.ofContent_of_encode {m : Manifest} {blank : Text} {content : ByteArray}
    (h : Text.encode? (m.json ++ blank) = some content)
    (hblank : ∀ c ∈ blank, c = CodePoint.ofChar '\n') : ofContent content = read m := by
  obtain ⟨hscalar, -⟩ := Text.encode?_eq_some_iff.1 h
  have hreturn : CodePoint.ofChar '\r' ∉ m.json ++ blank := by
    rw [List.mem_append, not_or]
    exact ⟨m.return_notMem_json, fun hmem => absurd (hblank _ hmem) (by decide)⟩
  have hspace : ∀ c ∈ blank, Json.isSpace c := by
    intro c hc
    rw [hblank c hc]
    decide
  refine (ofContent_of_decode (Text.decode?_eq_some_iff.2 h)).2 ?_
  rw [Text.uniformLines_of_notMem hreturn]
  exact Manifest.ofJson_json (fun c hc => hscalar c (List.mem_append_left _ hc)) hspace

variable {c : Config} {spec : Spec} {source : Option FilePath} {m : Manifest} {s s' : Session}

/-- A manifest that can be read stands below the output root, where it is looked for. -/
theorem manifestPath_mem (hs : spec.IsNamed) {t : Tree} {content : ByteArray}
    (h : t.read (Module.manifestPath c spec) = .ok content) :
    t.isDirectory c.outputPath = .ok true ∧ Module.manifestPath c spec ∈ manifestPaths c t := by
  obtain ⟨q, hl, he⟩ := read_eq_ok_iff.1 h
  rw [Module.manifestPath_eq hs] at hl ⊢
  have hlast : IsPlainName (Module.fileOf spec Module.manifestSuffix) :=
    Module.isPlainName_fileOf hs (by decide)
  generalize hname : Module.fileOf spec Module.manifestSuffix = name at hl hlast ⊢
  have hplain : ∀ part ∈ [spec.module, spec.version, name], IsPlainName part :=
    List.forall_mem_cons.2 ⟨hs.module.isPlainName, List.forall_mem_cons.2
      ⟨hs.version.isPlainName, List.forall_mem_singleton.2 hlast⟩⟩
  obtain ⟨hfault, hf⟩ := locate_eq_ok_iff.1 hl
  rw [FilePath.parts_append_relative] at hf
  obtain ⟨place, hplace, hf⟩ := follow_append_eq_ok_iff.1 hf
  have hroot : t.locate c.outputPath = .ok place :=
    locate_eq_ok_iff.2 ⟨FilePath.fault?_of_append hfault, hplace⟩
  have hd := isDirectory_of_follow hf
  obtain rfl := follow_eq_append hplain hf
  refine ⟨isDirectory_eq_ok_true_iff.2 ⟨place, hroot, hd⟩, (mem_manifestPaths hroot).2
    ⟨[spec.module, spec.version, name], _, mem_entries (by simp) he, List.cons_ne_nil _ _, ?_, rfl⟩⟩
  rw [← hname]
  exact Text.endsWith_iff.2 ⟨spec.module ++ "-" ++ spec.version, by simp [Module.fileOf]⟩

/-- Whoever reads the manifests of a tree has each one that can be read where a module has its own. -/
theorem mem_of_readManifests (hs : spec.IsNamed)
    (h : fileAt s.tree (Module.manifestPath c spec) = .read m) {ms : List Manifest}
    (hread : readManifests c s = .ok ms s') : m ∈ ms := by
  have hm := manifest?_fileAt_iff.1 (show (fileAt s.tree _).manifest? = some m by rw [h]; rfl)
  obtain ⟨content, -, hcontent, -⟩ := hm
  obtain ⟨hd, hmem⟩ := manifestPath_mem hs hcontent
  rw [readManifests_of_directory hd] at hread
  obtain ⟨-, rfl, -⟩ := readAll_ok hread
  exact List.mem_filterMap.2 ⟨_, hmem, by rw [h]; rfl⟩

theorem manifests_of_clean {cleaned : Cleaned} (h : clean c s = .ok cleaned s') :
    ∃ mid, readManifests c s = .ok cleaned.manifests mid := by
  unfold clean at h
  obtain ⟨ms, mid, hread, h⟩ := Run.bind_ok h
  obtain ⟨_, _, -, h⟩ := Run.bind_ok h
  obtain ⟨paths, _, -, h⟩ := Run.bind_ok h
  obtain ⟨_, _, -, h⟩ := Run.bind_ok h
  obtain ⟨counts, _, -, h⟩ := Run.bind_ok h
  obtain ⟨_, _, -, h⟩ := Run.bind_ok h
  rw [(Run.pure_ok h).1]
  exact ⟨mid, hread⟩

/-- What a module's manifest is written as is read back as the manifest. Made of scalar values it has
bytes, and any bytes that it has hold it. A module that is written leaves it where manifests are looked
for, so reading them finds it, and cleaning goes by it. -/
theorem manifest_readBack {origin : Text} {v : Value} (hspec : Spec.ofValue origin v = .ok spec)
    (c : Config) (source : Option FilePath) (s : Session) (m : Manifest)
    (hm : m = Module.manifest s.tree.cwd c spec source) :
    (c.IsScalar → s.tree.cwd.IsScalar → (∀ file, source = some file → file.IsScalar) →
      m.isWritable ∧ ∃ content, Text.encode? (m.json ++ "\n") = some content) ∧
    (∀ content, Text.encode? (m.json ++ "\n") = some content →
      ManifestFile.ofContent content = .read m) ∧
    ∀ written s', writeModule c spec source s = .ok written s' →
      written = m ∧ fileAt s'.tree (Module.manifestPath c spec) = .read m ∧
        (∀ log ms last, readManifests c ⟨s'.tree, log⟩ = .ok ms last → m ∈ ms) ∧
          ∀ log cleaned last, clean c ⟨s'.tree, log⟩ = .ok cleaned last →
            m ∈ cleaned.manifests := by
  have hs := Spec.isNamed_of_ofValue hspec
  have hread {content : ByteArray} (h : Text.encode? (m.json ++ "\n") = some content) :
      ManifestFile.ofContent content = .read m :=
    ManifestFile.ofContent_of_encode h (by decide)
  refine ⟨fun hc hcwd hsource => ?_, fun content => hread, fun written s' hwrite => ?_⟩
  · have hscalar : m.IsScalar := hm ▸ Module.isScalar_manifest hc hcwd hs hsource
    exact ⟨Manifest.isWritable_iff.2 hscalar, Text.exists_encode? (hscalar.json.append (.ofString "\n"))⟩
  · obtain ⟨hwritten, text, -, hwrote⟩ := writeModule_ok hwrite
    rw [← hm] at hwritten
    obtain ⟨first, second, _, _, content, place, -, -, -, hencode, hlast⟩ := hwrote.steps
    rw [hwritten] at hencode
    have hfile : fileAt s'.tree (Module.manifestPath c spec) = .read m := by
      rw [fileAt, read_eq_ok_iff.2 ⟨place, hlast.located, hlast.entry⟩]
      exact hread hencode
    have hfound {log : List Message} {ms : List Manifest} {last : Session}
        (h : readManifests c ⟨s'.tree, log⟩ = .ok ms last) : m ∈ ms :=
      mem_of_readManifests (s := ⟨s'.tree, log⟩) hs hfile h
    refine ⟨hwritten, hfile, fun log ms last => hfound, fun log cleaned last hclean => ?_⟩
    obtain ⟨mid, hmid⟩ := manifests_of_clean hclean
    exact hfound hmid

/-- A document of a module without routes. -/
def oddDocument : Value :=
  .ofFields [("module", .str "users"), ("version", .str "v1"), ("routes", .list [])] []

/-- A name with quotes, a backslash, both line ends, a control character and a letter beyond ASCII. -/
def oddName : Text := "a \"b\"\\c\r\nd\x01\u00e9.json"

/-- A project with nothing in it. -/
def emptyProject : Tree := ⟨⟨1, ["p"]⟩, [(["p"], .directory)]⟩

/-- The manifest of a module whose document has that name. -/
theorem manifest_readBack_odd : ∃ spec, Spec.ofValue "odd.json" oddDocument = .ok spec ∧
    ∃ m s', writeModule (.standard ⟨1, ["p"]⟩) spec (some ⟨1, ["p", oddName]⟩)
        (Run.start emptyProject) = .ok m s' ∧
      m.sourceSpec = some oddName ∧ m.isWritable ∧
        fileAt s'.tree (Module.manifestPath (.standard ⟨1, ["p"]⟩) spec) = .read m := by
  have hspec : Spec.ofValue "odd.json" oddDocument = .ok ⟨"users", "v1", []⟩ := rfl
  have hroot : FilePath.IsScalar ⟨1, ["p"]⟩ := fun part hpart => by
    rw [List.mem_singleton.1 hpart]
    exact .ofString "p"
  have hsource : ∀ file, some (⟨1, ["p", oddName]⟩ : FilePath) = some file → file.IsScalar := by
    intro file hfile
    rw [← Option.some.inj hfile]
    exact hroot.append (q := ⟨0, [oddName]⟩) fun part hpart => by
      rw [List.mem_singleton.1 hpart]
      exact .ofString _
  obtain ⟨m, s', hwrite, hm⟩ := Run.exists_of_yields
    (p := fun m => m.sourceSpec = some oddName)
    (r := writeModule (.standard ⟨1, ["p"]⟩) ⟨"users", "v1", []⟩ (some ⟨1, ["p", oddName]⟩)
      (Run.start emptyProject)) (by decide +kernel)
  obtain ⟨hscalar, -, hwritten⟩ := manifest_readBack hspec (.standard ⟨1, ["p"]⟩)
    (some ⟨1, ["p", oddName]⟩) (Run.start emptyProject) _ rfl
  obtain ⟨hsame, hfile, -⟩ := hwritten m s' hwrite
  rw [← hsame] at hscalar hfile
  exact ⟨_, hspec, m, s', hwrite, of_decide_eq_true hm,
    (hscalar ⟨hroot, .ofString _, .ofString _, .ofString _⟩ hroot hsource).1, hfile⟩

end Routewright.Output
