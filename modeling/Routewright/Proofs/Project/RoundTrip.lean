/-
Generating for a project that sets nothing, and cleaning it. Generating keeps the documents, so each is
loaded as at the start, and the modules are added to the aggregator one after the other; cleaning then
succeeds, and what it leaves of the aggregator is what a removal leaves of these additions.
-/
import Routewright.Proofs.Aggregator.RoundTrip
import Routewright.Proofs.Project.Standard
import Routewright.Proofs.Spec.File

namespace Routewright

open Routewright.Tree Aggregator

/-! ## Documents -/

/-- A file in the directory of documents. -/
def IsDocument (root : FilePath) (t : Tree) (file : FilePath) : Prop :=
  ∃ name content, file = (Config.standard root).specsPath.append ⟨0, [name]⟩ ∧
    t.read file = .ok content

theorem isPlainName_specs : ∀ name ∈ (["api-builder", "json"] : List Text), IsPlainName name := by
  intro name hname
  rcases List.mem_cons.1 hname with rfl | hname
  · exact ⟨by decide, by decide⟩
  · rw [List.mem_singleton.1 hname]
    exact ⟨by decide, by decide⟩

/-- Wherever a single component leads to, it stays below all but the last of what it starts from. -/
theorem prefix_of_follow_singleton {t : Tree} {place q : List Text} {last name : Text}
    (h : t.follow (place ++ [last]) [name] = .ok q) : place <+: q := by
  have hd := isDirectory_of_follow h
  rw [follow, hd] at h
  dsimp only at h
  split at h
  · rw [follow, List.dropLast_concat] at h
    rw [← Except.ok.inj h]
  · split at h
    · cases h
    · rw [follow, List.append_assoc] at h
      rw [← Except.ok.inj h]
      exact List.prefix_append _ _

/-- The manifest of a document, as it is generated for a tree. -/
def Describes (root : FilePath) (t : Tree) (file : FilePath) (m : Manifest) : Prop :=
  ∃ spec, Spec.load t file = .ok spec ∧
    m = Module.manifest t.cwd (.standard root) spec (some file)

theorem Describes.isRecognisable {root : FilePath} {t : Tree} {file : FilePath} {m : Manifest}
    (h : Describes root t file m) : IsRecognisable m := by
  obtain ⟨spec, hload, rfl⟩ := h
  exact Module.isRecognisable_manifest t.cwd root (Spec.isNamed_of_load hload) (some file)

section Batch

variable {root : FilePath} {top : List Text} {t u v : Tree} (h : IsStart root top t)
include h

/-- No document stands where the aggregator does. -/
theorem IsDocument.ne_aggregatorPlace {file : FilePath} {place : List Text}
    (hfile : IsDocument root t file) (hl : t.locate file = .ok place) :
    place ≠ aggregatorPlace top := by
  obtain ⟨name, -, rfl, -⟩ := hfile
  obtain ⟨-, hf⟩ := locate_eq_ok_iff.1 hl
  rw [FilePath.parts_append_relative] at hf
  obtain ⟨mid, hmid, hf⟩ := follow_append_eq_ok_iff.1 hf
  rw [Config.specsPath_standard] at hmid
  obtain rfl := (h.follow_eq (.refl [] t) isPlainName_specs hmid).1
  have hsplit : top ++ (["api-builder", "json"] : List Text) =
      (top ++ [Text.ofString "api-builder"]) ++ [Text.ofString "json"] := by simp
  rw [hsplit] at hf
  obtain ⟨way, rfl⟩ := prefix_of_follow_singleton hf
  intro heq
  rw [aggregatorPlace, List.append_assoc] at heq
  exact absurd (List.cons.inj (List.append_cancel_left heq)).1 (by decide)

/-- A document is loaded from what generating has come to as it is at the start. -/
theorem IsGenerated.load (hg : IsGenerated root top t u) {file : FilePath}
    (hfile : IsDocument root t file) : Spec.load u file = Spec.load t file := by
  obtain ⟨name, content, hname, hread⟩ := hfile
  obtain ⟨place, hl, he⟩ := read_eq_ok_iff.1 hread
  refine Spec.load_of_keeps hg.keeps hl he ?_
  rw [List.mem_singleton]
  exact IsDocument.ne_aggregatorPlace h ⟨name, content, hname, hread⟩ hl

variable (hl : t.locate (Config.standard root).aggregatorPath = .ok (aggregatorPlace top))
include hl

/-- One document: its module is written and added to the aggregator. -/
theorem IsGenerated.step (hg : IsGenerated root top t u) {text : Text}
    (ht : HoldsText (aggregatorPlace top) text u) {file : FilePath} (hfile : IsDocument root t file)
    {spec : Spec} {module : Text} {m : Manifest} {mid : Tree} {unwired : Bool}
    (hload : Spec.load u file = .ok spec)
    (hm : m = Module.manifest u.cwd (.standard root) spec (some file))
    (hwrote : Output.WroteModule (.standard root) spec module m u mid)
    (hwires : Batch.Wires (.standard root) m false unwired mid v) :
    unwired = false ∧ Describes root t file m ∧ IsGenerated root top t v ∧
      v.entry? (outputPlace top) = some .directory ∧
        HoldsText (aggregatorPlace top) (upsert text m).text v ∧ ((upsert text m).text ≠ text →
          (Files.draftPath (Config.standard root).aggregatorPath).fault? = none) := by
  have hdescribes : Describes root t file m := by
    refine ⟨spec, ?_, ?_⟩
    · rw [← hg.load h hfile, hload]
    · rw [hm, hg.keeps.cwd]
  obtain ⟨hmid, hd, hholds⟩ := hg.wroteModule h (Spec.isNamed_of_load hload) hwrote
  have ht' := hholds text ht
  cases hwires with
  | missing hmissing =>
    obtain ⟨content, he, -⟩ := ht'
    have hread := read_eq_ok_iff.2 ⟨_, hmid.keeps.locate hl, he⟩
    rw [isFile_eq_ok_true_iff.2 ⟨content, hread⟩] at hmissing
    cases hmissing
  | added hadded =>
    obtain ⟨hv, hdirectory, hupsert, hdraft⟩ := hmid.added h hl ht' hadded
    exact ⟨rfl, hdescribes, hv, hdirectory _ hd, hupsert, hdraft⟩

/-- All documents, one after the other. -/
theorem IsGenerated.runs {files : List FilePath} {ms : List Manifest}
    (hr : Batch.Runs (.standard root) false u files ms v) (hg : IsGenerated root top t u)
    {text : Text} (ht : HoldsText (aggregatorPlace top) text u)
    (hfiles : ∀ file ∈ files, IsDocument root t file) :
    (ms.length = files.length ∧ ∀ m ∈ ms, ∃ file ∈ files, Describes root t file m) ∧
      IsGenerated root top t v ∧ HoldsText (aggregatorPlace top) (upsertAll text ms) v ∧
        (files ≠ [] ∨ u.entry? (outputPlace top) = some .directory →
          v.entry? (outputPlace top) = some .directory) := by
  induction files generalizing u ms text with
  | nil =>
    cases hr
    exact ⟨⟨rfl, by simp⟩, hg, ht, fun hor => hor.resolve_left fun hne => hne rfl⟩
  | cons file files ih =>
    cases hr with
    | step hload hrender hm hwrote hwires hrest =>
      obtain ⟨rfl, hdescribes, hnext, hd, hupsert, -⟩ :=
        hg.step h hl ht (hfiles file List.mem_cons_self) hload hm hwrote hwires
      obtain ⟨⟨hlength, hall⟩, hv, hholds, hdirectory⟩ :=
        ih hrest hnext hupsert fun other hother => hfiles other (List.mem_cons_of_mem _ hother)
      refine ⟨⟨by rw [List.length_cons, List.length_cons, hlength], fun m hmem => ?_⟩, hv, hholds,
        fun _ => hdirectory (.inr hd)⟩
      rcases List.mem_cons.1 hmem with rfl | hmem
      · exact ⟨file, List.mem_cons_self, hdescribes⟩
      · obtain ⟨other, hother, ho⟩ := hall m hmem
        exact ⟨other, List.mem_cons_of_mem _ hother, ho⟩

end Batch

/-! ## What cleaning finds -/

section Found

variable {root : FilePath} {top : List Text} {t u : Tree}

/-- A module is written only where the output root has a path that can be used. -/
theorem fault?_of_wroteModule {spec : Spec} (hs : spec.IsNamed) {text : Text} {m : Manifest}
    (hw : Output.WroteModule (.standard root) spec text m t u) :
    (Config.standard root).outputPath.fault? = none := by
  obtain ⟨first, -, -, -, -, -, hmade, -⟩ := hw.steps
  obtain ⟨place, hl, -⟩ := isDirectory_eq_ok_true_iff.1 hmade.made
  have hbelow : Module.directory (.standard root) spec =
      (Config.standard root).outputPath.append ⟨0, [spec.module, spec.version]⟩ := by
    rw [Module.directory_standard root hs, Config.outputPath_standard,
      FilePath.append_append_relative]
    rfl
  have hfault := (locate_eq_ok_iff.1 hl).1
  rw [hbelow] at hfault
  exact FilePath.fault?_of_append hfault

/-- What generating has come to can be emptied. -/
theorem IsGenerated.isOutput (hg : IsGenerated root top t u)
    (hd : u.entry? (outputPlace top) = some .directory) :
    IsOutput (.standard root) (outputPlace top) u := by
  refine ⟨⟨hd, fun x hx name rest hx' => ?_⟩, fun x hx way hx' => ?_,
    fun content name rest hx => ?_⟩
  · have hmade := hg.made x hx name rest hx'
    exact ⟨hmade.removable, hmade.listed⟩
  · cases way with
    | nil => simp
    | cons name rest => exact (hg.made x hx name rest hx').plain
  · exact (hg.made _ hx name rest rfl).text content rfl

theorem name_aggregatorPath : (Config.standard root).aggregatorPath.name = "index.ts" := by
  rw [Config.aggregatorPath_standard, FilePath.append_relative, FilePath.name]
  simp

theorem draftPath_standard : Files.draftPath (Config.standard root).aggregatorPath =
    (Config.standard root).aggregatorPath.parent.append
      ⟨0, ([".index.ts.xxxxxxxx.tmp"] : List Text)⟩ := by
  rw [Files.draftPath, name_aggregatorPath]
  rfl

/-- The aggregator can be written where a draft beside it has a path that can be used. -/
theorem IsStart.isWritable (h : IsStart root top t)
    (hdraft : (Files.draftPath (Config.standard root).aggregatorPath).fault? = none) :
    IsWritable (.standard root) t := by
  have hsource : t.follow [] (t.cwd.append (Config.standard root).aggregatorPath.parent).parts =
      .ok (top ++ [Text.ofString "src"]) := by
    rw [Config.parent_aggregatorPath, FilePath.parts_append_relative, follow_append, h.root]
    exact (follow_cons_iff isPlainName_src).2 ⟨h.base, by decide +kernel, rfl⟩
  have hparent : (Config.standard root).aggregatorPath.parent.fault? = none := by
    rw [draftPath_standard] at hdraft
    exact FilePath.fault?_of_append hdraft
  refine ⟨isDirectory_eq_ok_true_iff.2 ⟨_, locate_eq_ok_iff.2 ⟨hparent, hsource⟩, h.source⟩,
    ⟨top ++ [Text.ofString "src"] ++ [Text.ofString ".index.ts.xxxxxxxx.tmp"], ?_⟩, ?_⟩
  · refine locate_eq_ok_iff.2 ⟨hdraft, ?_⟩
    rw [draftPath_standard, FilePath.parts_append_relative, follow_append, hsource]
    exact (follow_cons_iff ⟨by decide, by decide⟩).2 ⟨h.source, by decide +kernel, rfl⟩
  · have hdown : (Text.ofString "index.ts" == FilePath.above) = false := by decide
    rw [Files.endsAtDirectory, name_aggregatorPath, hdown, Config.aggregatorPath_standard]
    simp [FilePath.append_relative]

end Found

/-! ## Both runs -/

/-- What generating and cleaning start from: a project that sets nothing, with an aggregator that is a
text and with an output root that holds nothing. -/
structure IsProject (root : FilePath) (t : Tree) (content : ByteArray) (text : Text) : Prop where
  read : t.read (Config.standard root).aggregatorPath = .ok content
  decode : Text.decode? content = some text
  vacant : ∀ place, t.locate (Config.standard root).outputPath = .ok place → t.waysBelow place = []

/-- What generating has left of a project when it has gone through some documents, seen from the place
of the root: their modules, which the aggregator has one after the other. -/
structure IsLeft (root : FilePath) (top : List Text) (t u : Tree) (text : Text)
    (files : List FilePath) (ms : List Manifest) : Prop where
  start : IsStart root top t
  aggregator : t.locate (Config.standard root).aggregatorPath = .ok (aggregatorPlace top)
  output : t.locate (Config.standard root).outputPath = .ok (outputPlace top)
  writable : IsWritable (.standard root) t
  generated : IsGenerated root top t u
  directory : u.entry? (outputPlace top) = some .directory
  holds : HoldsText (aggregatorPlace top) (upsertAll text ms) u
  nonempty : ms ≠ []
  described : ∀ m ∈ ms, ∃ file ∈ files, Describes root t file m

/-- A generate run that has had documents leaves their modules. -/
theorem IsProject.generate_ok {root : FilePath} {t : Tree} {content : ByteArray} {text : Text}
    (hp : IsProject root t content text) {g : Generated} {s : Session}
    (hg : generate (.standard root) (Run.start t) = .ok g s) (hne : g.processed ≠ [])
    (himports : ∀ file ∈ g.processed, ∀ spec, Spec.load t file = .ok spec →
      ¬Imports text.lines spec.variableName) :
    ∃ top ms, IsLeft root top t s.tree text g.processed ms := by
  obtain ⟨hfiles, ms, hruns⟩ := Routewright.generate_ok rfl hg
  have hdocuments : ∀ file ∈ g.processed, IsDocument root t file := by
    intro file hfile
    exact Spec.mem_filesIn hfiles hfile
  obtain ⟨file, files, hprocessed⟩ := List.exists_cons_of_ne_nil hne
  rw [hprocessed] at hruns hdocuments himports ⊢
  -- the first document shows that the output root and the aggregator can be written
  cases hruns with
  | step hload hrender hm hwrote hwires hrest =>
    rename_i spec module m ms
    have hfault := fault?_of_wroteModule (Spec.isNamed_of_load hload) hwrote
    obtain ⟨top, h, hl, hout, he⟩ := exists_isStart hp.read hp.vacant hfault
    obtain ⟨rfl, hdescribes, hnext, hd, hupsert, hdraft⟩ := (IsGenerated.refl h).step h hl
      ⟨content, he, hp.decode⟩ (hdocuments file List.mem_cons_self) hload hm hwrote hwires
    obtain ⟨⟨-, hall⟩, hv, hholds, hdirectory⟩ := hnext.runs h hl hrest hupsert
      fun other hother => hdocuments other (List.mem_cons_of_mem _ hother)
    have hchanged : (upsert text m).text ≠ text := by
      refine upsert_ne hdescribes.isRecognisable.toIsReadable ?_
      rw [hm]
      exact himports file List.mem_cons_self spec hload
    refine ⟨top, m :: ms, h, hl, hout, h.isWritable (hdraft hchanged), hv, hdirectory (.inr hd),
      hholds, List.cons_ne_nil _ _, fun other hother => ?_⟩
    rcases List.mem_cons.1 hother with rfl | hother
    · exact ⟨file, List.mem_cons_self, hdescribes⟩
    · obtain ⟨document, hdocument, ho⟩ := hall other hother
      exact ⟨document, List.mem_cons_of_mem _ hdocument, ho⟩

/-- An aggregator that has nothing of some modules, and no import that the matcher takes for generated,
is fresh. -/
theorem isFresh_of_matcher {cwd : FilePath} {c : Config} {found ms : List Manifest} {text : Text}
    (hnone : ∀ record ∈ (Survey.ofText text).imports, matcher cwd c found record = false)
    (hi : ∀ m ∈ ms, ¬Imports text.lines m.variableName)
    (hu : ∀ m ∈ ms, ¬Registers text.lines m.variableName) :
    IsFresh (acceptance cwd c found) ms text.lines := by
  refine ⟨fun line hline => Bool.eq_false_iff.2 fun ht => ?_, hi, hu⟩
  unfold isTarget at ht
  split at ht
  · rename_i name path hk
    have hname := (mem_targetNames (acceptance cwd c found)).2 ⟨line, hline, path, hk, ht⟩
    obtain ⟨record, hrecord, -⟩ := List.mem_map.1 hname
    obtain ⟨hmem, haccepted⟩ := List.mem_filter.1 hrecord
    rw [matcher_acceptance, hnone record hmem] at haccepted
    cases haccepted
  · cases ht

/-- The matcher of a project that sets nothing accepts every import that was generated for it,
whatever manifests are found. -/
theorem acceptance_importPath (cwd root : FilePath) (found : List Manifest) (name : Text) (s : Spec) :
    acceptance cwd (.standard root) found name (Module.importPath cwd (.standard root) s) := by
  have hmatch : matcher cwd (.standard root) found = fun record =>
    manifestMatcher found record || outputMatcher cwd (.standard root) record := rfl
  rw [acceptance, hmatch]
  dsimp only
  rw [Module.outputMatcher_importPath, Bool.or_true]

theorem read_iff_of_holdsText {t : Tree} {p : FilePath} {place : List Text} {text other : Text}
    {content : ByteArray} (hl : t.locate p = .ok place) (ht : HoldsText place other t)
    (hd : Text.decode? content = some text) : t.read p = .ok content ↔ other = text := by
  obtain ⟨content', he, hd'⟩ := ht
  rw [read_eq_ok_iff.2 ⟨place, hl, he⟩]
  constructor
  · intro h
    obtain rfl := Except.ok.inj h
    exact Option.some.inj (hd'.symm.trans hd)
  · rintro rfl
    have h := (Text.decode?_eq_some_iff.1 hd').symm.trans (Text.decode?_eq_some_iff.1 hd)
    rw [Option.some.inj h]

/-- Cleaning a project that sets nothing after generating for it succeeds and leaves the output root
empty. Where the aggregator has held nothing of the modules, and no import that the matcher accepts,
it is the same file again exactly if its text is restorable. -/
theorem clean_after_generate_iff {root : FilePath} {t : Tree} {content : ByteArray} {text : Text}
    (hp : IsProject root t content text) {g : Generated} {s : Session}
    (hg : generate (.standard root) (Run.start t) = .ok g s) (hne : g.processed ≠ [])
    (hfresh : ∀ file ∈ g.processed, ∀ spec, Spec.load t file = .ok spec →
      ¬Imports text.lines spec.variableName ∧ ¬Registers text.lines spec.variableName) :
    ∃ cleaned s', clean (.standard root) (Run.start s.tree) = .ok cleaned s' ∧
      IsEmptyDirectory (Config.standard root).outputPath s'.tree ∧
        ((∀ record ∈ (Survey.ofText text).imports,
            matcher t.cwd (.standard root) cleaned.manifests record = false) →
          (s'.tree.read (Config.standard root).aggregatorPath = .ok content ↔
            Restorable text.lines)) := by
  obtain ⟨top, ms, h⟩ :=
    hp.generate_ok hg hne fun file hfile spec hload => (hfresh file hfile spec hload).1
  obtain ⟨cleaned, s', hclean, hempty, hl', ht'⟩ := clean_isOk (s := Run.start s.tree) h.output
    h.start.vacant h.aggregator h.writable (not_outputPlace_below top) h.generated.keeps
    (h.generated.isOutput h.directory) h.holds
  refine ⟨cleaned, s', hclean, hempty, fun hnone => ?_⟩
  have hrecognisable : ∀ m ∈ ms, IsRecognisable m := by
    intro m hm
    obtain ⟨file, -, hdescribes⟩ := h.described m hm
    exact hdescribes.isRecognisable
  have haccepted : ∀ m ∈ ms, acceptance t.cwd (.standard root) cleaned.manifests m.variableName
      m.importPath := by
    intro m hm
    obtain ⟨file, -, spec, -, rfl⟩ := h.described m hm
    exact acceptance_importPath t.cwd root cleaned.manifests _ spec
  have hnothing : ∀ m ∈ ms, ¬Imports text.lines m.variableName ∧
      ¬Registers text.lines m.variableName := by
    intro m hm
    obtain ⟨file, hfile, spec, hload, rfl⟩ := h.described m hm
    exact hfresh file hfile spec hload
  have hf := isFresh_of_matcher hnone (fun m hm => (hnothing m hm).1) fun m hm => (hnothing m hm).2
  -- what is left of the aggregator is a removal from additions, as on texts
  rw [read_iff_of_holdsText hl' ht' hp.decode, ← matcher_acceptance]
  exact remove_upsertAll_iff hrecognisable haccepted h.nonempty hf

/-! ## A project with one document -/

/-- A document with one route. -/
def userDocument : Text :=
  "\x7b\"module\":\"users\",\"version\":\"v1\",\"routes\":[\x7b\"method\":\"GET\",\"path\":\"/users\"," ++
    "\"handler\":\x7b\"query\":\"SELECT id FROM users\"\x7d\x7d]\x7d"

def userDocumentPath : FilePath := ⟨1, ["p", "api-builder", "json", "users.json"]⟩

def userConfig : Config := .standard ⟨1, ["p"]⟩

/-- A project with that document and an aggregator. -/
def userProject (aggregator : Text) : Tree where
  cwd := ⟨1, ["p"]⟩
  entries := [(["p"], .directory), (["p", "api-builder"], .directory),
    (["p", "api-builder", "json"], .directory),
    (userDocumentPath.parts, .file (userDocument.encode?.getD ByteArray.empty)),
    (["p", "src"], .directory),
    (["p", "src", "index.ts"], .file (aggregator.encode?.getD ByteArray.empty))]

theorem isProject_userProject (text : Text) (content : ByteArray)
    (hread : (userProject text).read userConfig.aggregatorPath = .ok content)
    (hencode : text.encode? = some content)
    (hl : (userProject text).locate userConfig.outputPath = .ok ["p", "src", "builder"])
    (hvacant : (userProject text).waysBelow ["p", "src", "builder"] = []) :
    IsProject ⟨1, ["p"]⟩ (userProject text) content text := by
  refine ⟨hread, Text.decode?_eq_some_iff.2 hencode, fun place hplace => ?_⟩
  obtain rfl := Except.ok.inj (hl.symm.trans hplace)
  exact hvacant

/-- The document is the same beside every aggregator. -/
theorem load_userProject (text : Text) {spec : Spec}
    (h : Spec.load (userProject text) userDocumentPath = .ok spec) :
    spec.variableName = "usersV1Routes" := by
  have hkeeps : Keeps [["p", "src", "index.ts"]] (userProject []) (userProject text) := by
    refine keeps_put (e := .file (text.encode?.getD ByteArray.empty)) fun hd => ?_
    cases hd
  have hl : (userProject []).locate userDocumentPath = .ok userDocumentPath.parts := by
    decide +kernel
  have hload : (match Spec.load (userProject []) userDocumentPath with
      | .ok spec => spec.variableName == "usersV1Routes"
      | .error _ => true) = true := by
    decide +kernel
  rw [Spec.load_of_keeps hkeeps hl (by rfl) (by decide)] at h
  rw [h] at hload
  exact beq_iff_eq.1 hload

theorem generate_userProject (text : Text) (hgenerate :
    (match generate userConfig (Run.start (userProject text)) with
      | .ok g _ => g.processed == [userDocumentPath]
      | .error _ _ => false) = true) :
    ∃ g s, generate userConfig (Run.start (userProject text)) = .ok g s ∧ g.processed ≠ [] ∧
      ∀ file ∈ g.processed, ∀ spec, Spec.load (userProject text) file = .ok spec →
        spec.variableName = "usersV1Routes" := by
  split at hgenerate
  · rename_i g s hg
    have hprocessed := beq_iff_eq.1 hgenerate
    refine ⟨g, s, hg, by simp [hprocessed], fun file hfile spec hspec => ?_⟩
    rw [hprocessed] at hfile
    rw [List.mem_singleton.1 hfile] at hspec
    exact load_userProject text hspec
  · cases hgenerate

/-- An aggregator whose chain starts on a line of its own. -/
def chainAggregator : Text := "const app = new Elysia()\n  .use(homeRoutes);\n"

/-- An aggregator with its chain on one line. -/
def lineAggregator : Text := "const app = new Elysia().use(homeRoutes);\n"

theorem restorable_chainAggregator : Restorable chainAggregator.lines := by
  have hregains : RegainsTerminator "  .use(homeRoutes);" := by
    refine ⟨by decide, fun c hc => ?_⟩
    obtain rfl : CodePoint.ofChar ')' = c := Option.some.inj hc
    decide
  exact .inr ⟨_, by rfl, .inr hregains⟩

theorem not_restorable_lineAggregator : ¬Restorable lineAggregator.lines := by
  have hlast : lastAnchor? lineAggregator.lines =
      some "const app = new Elysia().use(homeRoutes);" := by
    rfl
  rintro (hnone | ⟨anchor, hanchor, hkept⟩)
  · rw [hlast] at hnone
    cases hnone
  · obtain rfl := Option.some.inj (hlast.symm.trans hanchor)
    rcases hkept with hkept | hkept
    · revert hkept
      decide
    · exact absurd hkept.1 (by decide)

theorem matcher_eq_false_of_imports_nil {text : Text} (h : (Survey.ofText text).imports = [])
    (cwd : FilePath) (c : Config) (found : List Manifest) :
    ∀ record ∈ (Survey.ofText text).imports, matcher cwd c found record = false := by
  intro record hrecord
  rw [h] at hrecord
  cases hrecord

/-- The chain of two lines comes back, and the chain on one line does not. -/
theorem clean_after_generate_iff_chains :
    (∃ g s cleaned s', generate userConfig (Run.start (userProject chainAggregator)) = .ok g s ∧
      clean userConfig (Run.start s.tree) = .ok cleaned s' ∧
        IsEmptyDirectory userConfig.outputPath s'.tree ∧
          s'.tree.read userConfig.aggregatorPath =
            (userProject chainAggregator).read userConfig.aggregatorPath) ∧
    ∃ g s cleaned s', generate userConfig (Run.start (userProject lineAggregator)) = .ok g s ∧
      clean userConfig (Run.start s.tree) = .ok cleaned s' ∧
        IsEmptyDirectory userConfig.outputPath s'.tree ∧
          s'.tree.read userConfig.aggregatorPath ≠
            (userProject lineAggregator).read userConfig.aggregatorPath := by
  refine ⟨?_, ?_⟩
  · have hp := isProject_userProject chainAggregator (chainAggregator.encode?.getD ByteArray.empty)
      (by decide +kernel) (by decide +kernel) (by decide +kernel) (by decide +kernel)
    obtain ⟨g, s, hg, hne, hname⟩ := generate_userProject chainAggregator (by decide +kernel)
    obtain ⟨cleaned, s', hclean, hempty, hiff⟩ := clean_after_generate_iff hp hg hne
      fun file hfile spec hspec => by
        rw [hname file hfile spec hspec, ← hasImport_ofLines 1, ← hasUse_ofLines 1]
        decide
    have hnone := matcher_eq_false_of_imports_nil (show (Survey.ofText chainAggregator).imports = [] from rfl)
    refine ⟨g, s, cleaned, s', hg, hclean, hempty, ?_⟩
    exact ((hiff (hnone _ _ _)).2 restorable_chainAggregator).trans hp.read.symm
  · have hp := isProject_userProject lineAggregator (lineAggregator.encode?.getD ByteArray.empty)
      (by decide +kernel) (by decide +kernel) (by decide +kernel) (by decide +kernel)
    obtain ⟨g, s, hg, hne, hname⟩ := generate_userProject lineAggregator (by decide +kernel)
    obtain ⟨cleaned, s', hclean, hempty, hiff⟩ := clean_after_generate_iff hp hg hne
      fun file hfile spec hspec => by
        rw [hname file hfile spec hspec, ← hasImport_ofLines 1, ← hasUse_ofLines 1]
        decide
    have hnone := matcher_eq_false_of_imports_nil (show (Survey.ofText lineAggregator).imports = [] from rfl)
    refine ⟨g, s, cleaned, s', hg, hclean, hempty, fun hsame => not_restorable_lineAggregator ?_⟩
    exact (hiff (hnone _ _ _)).1 (hsame.trans hp.read)

end Routewright
