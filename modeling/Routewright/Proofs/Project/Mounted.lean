/-
What a project that sets nothing mounts once modules have been generated for all of its documents. Each
module is registered, and something is imported under its variable; that this is the module itself
needs that no earlier document has the variable for another module, and that the last anchor does not
come to stand for it.
-/
import Routewright.Proofs.Aggregator.Mounting
import Routewright.Proofs.Project.Product

namespace Routewright

open Routewright.Tree Aggregator

/-- An aggregator that registers a variable and imports it from a path. -/
def IsMounted (t : Text) (name path : Text) : Prop :=
  (Survey.ofText t).hasUse name ∧ ∃ r ∈ (Survey.ofText t).imports, r.name = name ∧ r.path = path

theorem isMounted_iff {t name path : Text} : IsMounted t name path ↔
    Registers t.lines name ∧ ImportsAs t.lines name path := by
  rw [IsMounted, Survey.ofText, hasUse_ofLines, mem_imports_ofLines]

/-! ## Products of documents -/

section Standard

variable {root : FilePath} {t : Tree} {file : FilePath} {p : Product}
  (h : Product.ofDocument (.standard root) t file = .ok p)
include h

theorem Product.isRecognisable : IsRecognisable p.manifest := by
  rw [(Product.ofDocument_eq_ok_iff.1 h).2.2]
  exact Module.isRecognisable_manifest t.cwd root (Product.isNamed h) (some file)

theorem Product.variableName_manifest : p.manifest.variableName = p.spec.variableName := by
  rw [(Product.ofDocument_eq_ok_iff.1 h).2.2]
  rfl

theorem Product.importPath_manifest :
    p.manifest.importPath = Module.importPath t.cwd (.standard root) p.spec := by
  rw [(Product.ofDocument_eq_ok_iff.1 h).2.2]
  rfl

end Standard

/-! ## Generating -/

/-- A generate run that succeeds leaves the aggregator with the modules of all documents added. -/
theorem generate_adds {root : FilePath} {t : Tree} {text : Text}
    (hread : ReadsAs t (Config.standard root).aggregatorPath text) {g : Generated} {s : Session}
    (hg : generate (.standard root) (Run.start t) = .ok g s) :
    ∃ ps, AreProducts (.standard root) t g.processed ps ∧
      ReadsAs s.tree (Config.standard root).aggregatorPath (upsertAll text (ps.map (·.manifest))) := by
  obtain ⟨hfiles, ms, hruns⟩ := generate_ok rfl hg
  have hapart := isApart_standard t.cwd root
  obtain ⟨ps, hps, -, hdelivers⟩ := hruns.delivers hapart (.refl _ t) fun _ hfile =>
    Spec.mem_filesIn hfiles hfile
  exact ⟨ps, hps, (hdelivers.leaves hapart).wired text hread⟩

/-- Where the aggregator has an anchor and nothing of the modules, a run that succeeds registers the
variable of each document and imports it, and mounts the modules of exactly those that come in. -/
theorem generate_mounts_iff {root : FilePath} {t : Tree} {text anchor : Text}
    (hread : ReadsAs t (Config.standard root).aggregatorPath text)
    (hlast : lastAnchor? text.lines = some anchor) {g : Generated} {s : Session}
    (hg : generate (.standard root) (Run.start t) = .ok g s)
    (hfresh : ∀ file ∈ g.processed, ∀ spec, Spec.load t file = .ok spec →
      ¬Imports text.lines spec.variableName ∧ ¬Registers text.lines spec.variableName) :
    ∃ ps final, AreProducts (.standard root) t g.processed ps ∧
      ReadsAs s.tree (Config.standard root).aggregatorPath final ∧ ∀ p ∈ ps,
        (Survey.ofText final).hasUse p.spec.variableName ∧
          (Survey.ofText final).hasImport p.spec.variableName ∧
            (IsMounted final p.spec.variableName (Module.importPath t.cwd (.standard root) p.spec) ↔
              ComesIn (ps.map (·.manifest)) anchor p.manifest) := by
  obtain ⟨ps, hps, hfinal⟩ := generate_adds hread hg
  have hproduct : ∀ m ∈ ps.map (·.manifest), IsRecognisable m ∧
      ¬Imports text.lines m.variableName ∧ ¬Registers text.lines m.variableName := by
    intro m hm
    obtain ⟨p, hp, rfl⟩ := List.mem_map.1 hm
    obtain ⟨file, hfile, ho⟩ := hps.exists_of_mem hp
    rw [Product.variableName_manifest ho]
    exact ⟨Product.isRecognisable ho, hfresh file hfile p.spec (Product.ofDocument_eq_ok_iff.1 ho).1⟩
  have hmounts := mounts_upsertAll (fun m hm => (hproduct m hm).1) hlast
    (fun m hm => (hproduct m hm).2.1) fun m hm => (hproduct m hm).2.2
  refine ⟨ps, _, hps, hfinal, fun p hp => ?_⟩
  obtain ⟨file, -, ho⟩ := hps.exists_of_mem hp
  obtain ⟨himports, hregisters, hiff⟩ := hmounts p.manifest (List.mem_map_of_mem hp)
  rw [Product.variableName_manifest ho] at himports hregisters
  rw [Product.variableName_manifest ho, Product.importPath_manifest ho] at hiff
  refine ⟨(hasUse_ofLines 1 _ _).2 hregisters, (hasImport_ofLines 1 _ _).2 himports, ?_⟩
  rw [isMounted_iff, and_iff_right hregisters, hiff]

/-! ## Two versions with one variable -/

def caseAggregator : Text := "const app = new Elysia()\n  .use(homeRoutes);\n"

/-- A project with two versions of a module whose names differ in case alone. -/
def caseProject : Tree :=
  smallProject [("a.json", emptyDocument "users" "v1"), ("b.json", emptyDocument "users" "V1")]
    caseAggregator

theorem filesIn_caseProject : Spec.filesIn caseProject smallConfig.specsPath
    smallConfig.specExtensions = .ok [smallDocument "a.json", smallDocument "b.json"] :=
  filesIn_smallProject (by decide +kernel) (by decide +kernel) (by decide +kernel) (by decide +kernel)

theorem generate_caseProject : ∃ g s, generate smallConfig (Run.start caseProject) = .ok g s ∧
    g.processed = [smallDocument "a.json", smallDocument "b.json"] := by
  obtain ⟨b, s, hb, hnone⟩ := Run.exists_of_yields (p := fun b => b.failed.isEmpty)
    (r := Batch.run smallConfig {} [smallDocument "a.json", smallDocument "b.json"]
      (Run.start caseProject)) (by decide +kernel)
  obtain ⟨s', -, ⟨-, g, hg⟩ | ⟨hfailed, -⟩⟩ := generate_of_run filesIn_caseProject hb
  · have hprocessed := (generate_ok rfl hg).1
    exact ⟨g, s', hg, Except.ok.inj (hprocessed.symm.trans filesIn_caseProject)⟩
  · exact absurd (List.isEmpty_iff.1 hnone) hfailed

/-- The documents of the project by the paths of their modules. -/
def casePaths : List (Text × Text) := [("a.json", "./builder/users/v1/users-v1.routes"),
  ("b.json", "./builder/users/V1/users-V1.routes")]

/-- The modules of the project have one variable. -/
theorem load_caseProject (name path : Text) (h : (name, path) ∈ casePaths) (spec : Spec)
    (hload : Spec.load caseProject (smallDocument name) = .ok spec) :
    spec.variableName = "usersV1Routes" ∧
      Module.importPath caseProject.cwd smallConfig spec = path := by
  have hcheck : ∀ d ∈ casePaths, (match Spec.load caseProject (smallDocument d.1) with
      | .ok spec => spec.variableName == "usersV1Routes" &&
        Module.importPath caseProject.cwd smallConfig spec == d.2
      | .error _ => false) = true := by decide +kernel
  have hdocument := hcheck _ h
  rw [hload] at hdocument
  obtain ⟨hname, hpath⟩ := Bool.and_eq_true_iff.1 hdocument
  exact ⟨beq_iff_eq.1 hname, beq_iff_eq.1 hpath⟩

/-- Of the two versions only the first is mounted. -/
theorem generate_mounts_iff_versions : ∃ g s final,
    generate smallConfig (Run.start caseProject) = .ok g s ∧
      ReadsAs s.tree smallConfig.aggregatorPath final ∧
        IsMounted final "usersV1Routes" "./builder/users/v1/users-v1.routes" ∧
          ¬IsMounted final "usersV1Routes" "./builder/users/V1/users-V1.routes" := by
  have hfirst := load_caseProject "a.json" "./builder/users/v1/users-v1.routes" (by decide)
  have hsecond := load_caseProject "b.json" "./builder/users/V1/users-V1.routes" (by decide)
  obtain ⟨g, s, hg, hprocessed⟩ := generate_caseProject
  have hread : ReadsAs caseProject smallConfig.aggregatorPath caseAggregator :=
    ⟨caseAggregator.encode?.getD ByteArray.empty, by decide +kernel,
      Text.decode?_eq_some_iff.2 (by decide +kernel)⟩
  have hlast : lastAnchor? caseAggregator.lines = some "  .use(homeRoutes);" := by decide
  obtain ⟨ps, final, hps, hfinal, hiff⟩ := generate_mounts_iff hread hlast hg
    fun file hfile spec hload => by
      have hname : spec.variableName = "usersV1Routes" := by
        rw [hprocessed] at hfile
        rcases List.mem_cons.1 hfile with rfl | hfile
        · exact (hfirst spec hload).1
        · rw [List.mem_singleton.1 hfile] at hload
          exact (hsecond spec hload).1
      rw [hname, ← hasImport_ofLines 1, ← hasUse_ofLines 1]
      decide
  rw [hprocessed] at hps
  rcases hps with _ | ⟨hp, _ | ⟨hp', _ | _⟩⟩
  rename_i p p'
  obtain ⟨hname, hpath⟩ := hfirst p.spec (Product.ofDocument_eq_ok_iff.1 hp).1
  obtain ⟨hname', hpath'⟩ := hsecond p'.spec (Product.ofDocument_eq_ok_iff.1 hp').1
  have hmounts := (hiff p (by simp)).2.2
  have hmounts' := (hiff p' (by simp)).2.2
  change IsMounted _ _ (Module.importPath caseProject.cwd smallConfig _) ↔ _ at hmounts hmounts'
  rw [hname, hpath] at hmounts
  rw [hname', hpath'] at hmounts'
  refine ⟨g, s, final, hg, hfinal, hmounts.2 ?_, fun h => ?_⟩
  · exact (comesIn_cons_iff_of_eq rfl _ _).2 rfl
  · -- the first document has the variable, and another path
    have hvariable : p'.manifest.variableName = p.manifest.variableName := by
      rw [Product.variableName_manifest hp, Product.variableName_manifest hp', hname, hname']
    have hsame := (comesIn_cons_iff_of_eq hvariable _ _).1 (hmounts'.1 h)
    rw [Product.importPath_manifest hp, Product.importPath_manifest hp'] at hsame
    change Module.importPath caseProject.cwd smallConfig _ =
      Module.importPath caseProject.cwd smallConfig _ at hsame
    rw [hpath, hpath'] at hsame
    exact absurd hsame (by decide)

end Routewright
