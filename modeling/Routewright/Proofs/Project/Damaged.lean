/-
Manifests that are damaged. Reading passes over whatever holds no manifest and warns of it, as long as
it is text; then a clean run goes through, and unwires the modules that are known from the other
manifests. A file that is named like a manifest and is no text ends the run before anything is removed.
-/
import Mathlib.Data.List.Nodup
import Routewright.Proofs.Project.CleanAgain
import Routewright.Proofs.Project.Recorded

namespace Routewright

open Routewright.Tree

namespace Tree

/-- What is left where everything in a place is gone is what was there before. -/
theorem keeps_eraseAll (t : Tree) (place : List Text) (names : List Text) :
    Keeps [] (eraseAll place names t) t := by
  have hcwd : t.cwd = (eraseAll place names t).cwd := (thins_eraseAll t place names).cwd.symm
  have hentry : ∀ other e, Tree.entry? (eraseAll place names t) other = some e →
      t.entry? other = some e := by
    intro other e he
    by_cases hnil : other = []
    · rw [hnil] at he ⊢
      exact he
    · have hnot := (mem_eraseAll.1 (mem_entries hnil he)).2
      rwa [entry?_eraseAll hnot] at he
  exact ⟨hcwd, fun other => hentry other _, fun other _ => hentry other⟩

end Tree

namespace Output

variable {c : Config} {t : Tree} {s : Session}

/-- A path below the output root whose name is that of a manifest. -/
def IsManifestPath (c : Config) (t : Tree) (p : FilePath) : Prop :=
  ∃ place way e, t.locate c.outputPath = .ok place ∧ (place ++ way, e) ∈ t.entries ∧ way ≠ [] ∧
    Text.endsWith (way.getLastD []) ("." ++ Module.manifestSuffix) ∧
      p = c.outputPath.append ⟨0, way⟩

/-- What reading manifests comes to if each file that is named like one is either read or warned of. -/
structure ReadsOver (c : Config) (s : Session) (paths : List FilePath) (ms : List Manifest)
    (s' : Session) : Prop where
  mem : ∀ p, p ∈ paths ↔ IsManifestPath c s.tree p
  sorted : paths.Pairwise fun p q => FilePath.partsLe p.parts q.parts
  /-- Where no place has two entries, no path is read twice. -/
  nodup : (s.tree.entries.map Prod.fst).Nodup → paths.Nodup
  manifests : ms = manifestsAt s.tree paths
  warned : s'.log = s.log ++ warnings c s.tree paths
  tree : s'.tree = s.tree

theorem mem_manifestPaths_iff {p : FilePath} : p ∈ manifestPaths c t ↔ IsManifestPath c t p := by
  unfold IsManifestPath
  cases hl : t.locate c.outputPath with
  | error e => simp [manifestPaths, hl]
  | ok place => simp [mem_manifestPaths hl]

/-- Different places are reached by different ways. -/
theorem nodup_waysBelow {place : List Text} (h : (t.entries.map Prod.fst).Nodup) :
    (t.waysBelow place).Nodup := by
  rw [waysBelow, (List.mergeSort_perm _ _).nodup_iff, List.Nodup, List.pairwise_filterMap]
  refine (List.pairwise_map.1 h).imp fun {x y} hne way hway way' hway' hsame => hne ?_
  subst hsame
  split at hway
  · rename_i hx
    split at hway'
    · rename_i hy
      rw [Option.some.inj (hway.trans hway'.symm)] at hx
      exact (List.isPrefixOf?_eq_some_iff_append_eq.1 hx).symm.trans
        (List.isPrefixOf?_eq_some_iff_append_eq.1 hy)
    · cases hway'
  · cases hway

theorem nodup_manifestPaths (h : (t.entries.map Prod.fst).Nodup) : (manifestPaths c t).Nodup := by
  unfold manifestPaths
  split
  · exact List.nodup_nil
  · refine List.Nodup.map (fun way other hway => ?_) ((nodup_waysBelow h).filter _)
    rw [FilePath.append_relative, FilePath.append_relative, FilePath.mk.injEq] at hway
    exact List.append_cancel_left hway.2

theorem readsOver_manifestPaths (c : Config) (s : Session) : ReadsOver c s (manifestPaths c s.tree)
    (manifestsAt s.tree (manifestPaths c s.tree))
      (told s (warnings c s.tree (manifestPaths c s.tree))) :=
  ⟨fun _ => mem_manifestPaths_iff, pairwise_manifestPaths c s.tree, nodup_manifestPaths, rfl, rfl, rfl⟩

end Output

/-- A project whose output root can be emptied and whose aggregator, which does not stand in it, can be
written without anything in it. -/
structure IsCleanable (c : Config) (output place : List Text) (text : Text) (t : Tree) : Prop where
  root : (eraseAll output (t.names output) t).locate c.outputPath = .ok output
  emptiable : IsEmptiable c output t
  aggregator : (eraseAll output (t.names output) t).locate c.aggregatorPath = .ok place
  writable : IsWritable c (eraseAll output (t.names output) t)
  apart : ¬output <+: place
  text : HoldsText place text t

theorem IsEmptiable.waysBelow_eraseAll {c : Config} {output : List Text} {t : Tree}
    (h : IsEmptiable c output t) : (eraseAll output (t.names output) t).waysBelow output = [] := by
  refine waysBelow_eq_nil_iff.2 fun x hx name rest hplace => ?_
  obtain ⟨hx, hnot⟩ := mem_eraseAll.1 hx
  refine hnot name (h.top x hx name rest hplace).2 ⟨rest, ?_⟩
  rw [hplace, List.append_assoc]
  rfl

namespace Output

variable {c : Config} {s : Session}

/-- Manifests that are text are all read or passed over, and cleaning goes by those that are read. -/
theorem clean_of_texts (hd : s.tree.isDirectory c.outputPath = .ok true)
    (h : ∀ p, IsManifestPath c s.tree p → IsTextAt s.tree p) {output place : List Text} {text : Text}
    (hc : IsCleanable c output place text s.tree) : ∃ cleaned s', clean c s = .ok cleaned s' ∧
      cleaned.manifests = manifestsAt s.tree (manifestPaths c s.tree) ∧
        IsEmptyDirectory c.outputPath s'.tree ∧ s'.tree.locate c.aggregatorPath = .ok place ∧
          HoldsText place (Aggregator.remove text (Aggregator.matcher s.tree.cwd c
            (manifestsAt s.tree (manifestPaths c s.tree)))).text s'.tree := by
  have hread := (readManifests_of_directory hd).trans
    (readAll_of_texts fun p hp => h p (mem_manifestPaths_iff.1 hp))
  obtain ⟨cleaned, s', hclean, hms, hempty, hl, ht⟩ :=
    clean_of_read hc.root hc.emptiable.waysBelow_eraseAll hc.aggregator hc.writable hc.apart
      (keeps_eraseAll s.tree output _) hc.emptiable hc.text hread rfl
  rw [(keeps_eraseAll s.tree output (s.tree.names output)).cwd.symm] at ht
  exact ⟨cleaned, s', hclean, hms, hempty, hl, ht⟩

/-- A file that is named like a manifest and is no text ends reading, and cleaning with it. -/
theorem clean_of_not_text (hd : s.tree.isDirectory c.outputPath = .ok true) {p : FilePath}
    (hp : IsManifestPath c s.tree p) (h : ¬IsTextAt s.tree p) : ∃ log,
      readManifests c s = .error (.breakdown .notUtf8) { s with log := log } ∧
        clean c s = .error (.breakdown .notUtf8) { s with log := log } := by
  obtain ⟨log, hlog⟩ := readAll_of_not_text (c := c) (mem_manifestPaths_iff.2 hp) h
  have hread := (readManifests_of_directory hd).trans hlog
  exact ⟨log, hread, Run.bind_of_error hread _⟩

/-- Reading the manifests of an output tree yields, in the order of their paths, those that are intact,
with one warning for each other file that is named like one, exactly if each of these files is text.
Cleaning then removes the whole tree and unwires the modules of the intact manifests; a single file
that is no text ends it with everything as it was. -/
theorem readManifests_iff_texts (hd : s.tree.isDirectory c.outputPath = .ok true) :
    ((∃ paths ms s', readManifests c s = .ok ms s' ∧ ReadsOver c s paths ms s') ↔
      ∀ p, IsManifestPath c s.tree p → IsTextAt s.tree p) ∧
    (∀ ms s', readManifests c s = .ok ms s' → ∀ output place text,
      IsCleanable c output place text s.tree → ∃ cleaned s'', clean c s = .ok cleaned s'' ∧
        cleaned.manifests = ms ∧ IsEmptyDirectory c.outputPath s''.tree ∧
          s''.tree.locate c.aggregatorPath = .ok place ∧
            HoldsText place (Aggregator.remove text (Aggregator.matcher s.tree.cwd c ms)).text
              s''.tree) ∧
    ((∃ p, IsManifestPath c s.tree p ∧ ¬IsTextAt s.tree p) → ∃ log,
      readManifests c s = .error (.breakdown .notUtf8) { s with log := log } ∧
        clean c s = .error (.breakdown .notUtf8) { s with log := log }) := by
  have htexts : ∀ {ms s'}, readManifests c s = .ok ms s' →
      (∀ p, IsManifestPath c s.tree p → IsTextAt s.tree p) ∧
        ms = manifestsAt s.tree (manifestPaths c s.tree) := by
    intro ms s' hread
    rw [readManifests_of_directory hd] at hread
    obtain ⟨h, hms, -⟩ := readAll_ok hread
    exact ⟨fun p hp => h p (mem_manifestPaths_iff.2 hp), hms⟩
  refine ⟨⟨?_, fun h => ?_⟩, ?_, ?_⟩
  · rintro ⟨paths, ms, s', hread, -⟩
    exact (htexts hread).1
  · exact ⟨_, _, _, (readManifests_of_directory hd).trans
      (readAll_of_texts fun p hp => h p (mem_manifestPaths_iff.1 hp)), readsOver_manifestPaths c s⟩
  · intro ms s' hread output place text hc
    obtain ⟨h, rfl⟩ := htexts hread
    exact clean_of_texts hd h hc
  · rintro ⟨p, hp, h⟩
    exact clean_of_not_text hd hp h

/-- A project with one manifest and one more file that is named like a manifest. -/
def damagedProject (content : ByteArray) : Tree :=
  movedProject.put ["p", "src", "builder", "b-v1.manifest.json"] (.file content)

/-- The bytes of a manifest that has been cut off after its first brace. -/
def cutOff : ByteArray := ⟨#[0x7b]⟩

/-- Bytes that are no text. -/
def noText : ByteArray := ⟨#[0xff]⟩

/-- The output root of that project. -/
def builderPlace : List Text := ["p", "src", "builder"]

/-- What stands in it. -/
def builderNames : List Text := ["a-v1.manifest.json", "b-v1.manifest.json"]

theorem names_damagedProject (content : ByteArray) :
    (damagedProject content).names builderPlace = builderNames :=
  names_of_pairwise (by rfl) (by decide)

theorem waysBelow_damagedProject (content : ByteArray) :
    (damagedProject content).waysBelow builderPlace = builderNames.map ([·]) :=
  waysBelow_of_pairwise (by rfl) (by decide)

theorem manifestPaths_damagedProject (content : ByteArray)
    (hl : (damagedProject content).locate (Config.standard ⟨1, ["p"]⟩).outputPath =
      .ok builderPlace) :
    manifestPaths (.standard ⟨1, ["p"]⟩) (damagedProject content) =
      builderNames.map fun name => (Config.standard ⟨1, ["p"]⟩).outputPath.append ⟨0, [name]⟩ := by
  have hfilter : ((builderNames.map ([·])).filter fun way =>
      Text.endsWith (way.getLastD []) ("." ++ Module.manifestSuffix)) =
        builderNames.map ([·]) := by decide +kernel
  rw [manifestPaths, hl]
  dsimp only
  rw [waysBelow_damagedProject, hfilter, List.map_map]
  rfl

theorem isCleanable_damagedProject : ∃ text, IsCleanable (.standard ⟨1, ["p"]⟩) builderPlace
    ["p", "src", "index.ts"] text (damagedProject cutOff) := by
  have hshort : ∀ name ∈ builderNames, isLongName name = false := by decide +kernel
  have hfaultless : ∀ name ∈ builderNames,
      ((Config.standard ⟨1, ["p"]⟩).outputPath.append ⟨0, [name]⟩).fault? = none := by
    decide +kernel
  have hnames : ∀ name ∈ builderNames, IsTop (.standard ⟨1, ["p"]⟩) name := by
    intro name hname
    have hplain : IsPlainName name :=
      isPlainName_of_ascii (by revert name; decide) (by revert name; decide)
    exact ⟨hplain, hshort name hname, hfaultless name hname⟩
  have htop : ∀ x ∈ (damagedProject cutOff).entries, ∀ name rest,
      x.1 = builderPlace ++ name :: rest → name ∈ builderNames := by
    intro x hx name rest hplace
    have hway := mem_waysBelow.2 ⟨x, hx, name, rest, hplace, rfl⟩
    rw [waysBelow_damagedProject] at hway
    obtain ⟨other, hother, hway⟩ := List.mem_map.1 hway
    rw [← (List.cons.inj hway).1]
    exact hother
  let aggregator : Text := "import aV1Routes from \"./x/a.routes\";\n" ++
    "const app = new Elysia()\n  .use(homeRoutes)\n  .use(aV1Routes);"
  have hbare : eraseAll builderPlace ((damagedProject cutOff).names builderPlace)
      (damagedProject cutOff) = eraseAll builderPlace builderNames (damagedProject cutOff) := by
    rw [names_damagedProject]
  refine ⟨aggregator, ?_, ⟨rfl, fun x hx name rest hplace => ⟨hnames name ?_, ?_⟩⟩, ?_, ?_, ?_, ?_⟩
  · rw [hbare]
    decide +kernel
  · exact htop x hx name rest hplace
  · rw [names_damagedProject]
    exact htop x hx name rest hplace
  · rw [hbare]
    decide +kernel
  · rw [hbare]
    refine ⟨by decide +kernel, ⟨["p", "src", ".index.ts.xxxxxxxx.tmp"], by decide +kernel⟩, ?_⟩
    decide +kernel
  · decide
  · have hscalar : aggregator.IsScalar := .append (.ofString _) (.ofString _)
    obtain ⟨bytes, hbytes⟩ := Text.exists_encode? hscalar
    have hentry : Tree.entry? (damagedProject cutOff) ["p", "src", "index.ts"] =
        some (.file (aggregator.encode?.getD ByteArray.empty)) := rfl
    rw [hbytes] at hentry
    exact ⟨bytes, hentry, Text.decode?_eq_some_iff.2 hbytes⟩

/-- The path of the intact manifest there. -/
def intactPath : FilePath :=
  (Config.standard ⟨1, ["p"]⟩).outputPath.append ⟨0, ["a-v1.manifest.json"]⟩

/-- The path of the other file. -/
def damagedPath : FilePath :=
  (Config.standard ⟨1, ["p"]⟩).outputPath.append ⟨0, ["b-v1.manifest.json"]⟩

theorem fileAt_intactPath : fileAt (damagedProject cutOff) intactPath = .read movedManifest := by
  have hl : (damagedProject cutOff).locate intactPath =
      .ok (builderPlace ++ [("a-v1.manifest.json" : Text)]) := by decide +kernel
  have hentry : Tree.entry? (damagedProject cutOff) (builderPlace ++ [("a-v1.manifest.json" : Text)]) =
      some (.file (movedManifest.json.encode?.getD ByteArray.empty)) := rfl
  have hscalar : movedManifest.IsScalar :=
    ⟨.ofString _, .ofString _, .ofString _, .ofString _, .ofString _,
      fun _ hnone => absurd hnone (Option.some_ne_none _).symm⟩
  obtain ⟨bytes, hbytes⟩ := Text.exists_encode? hscalar.json
  rw [hbytes] at hentry
  rw [fileAt, read_eq_ok_iff.2 ⟨_, hl, hentry⟩]
  rw [← List.append_nil movedManifest.json] at hbytes
  exact ManifestFile.ofContent_of_encode hbytes fun _ hc => absurd hc List.not_mem_nil

/-- A manifest that is cut off is passed over, and its module goes with the others; one that is no text
keeps everything from being removed. -/
theorem readManifests_iff_texts_damaged :
    ((damagedProject cutOff).isDirectory (Config.standard ⟨1, ["p"]⟩).outputPath = .ok true ∧
      ∃ paths s', ReadsOver (.standard ⟨1, ["p"]⟩) (Run.start (damagedProject cutOff)) paths
        [movedManifest] s' ∧ s'.log.length = 1 ∧
          ∃ cleaned s'', clean (.standard ⟨1, ["p"]⟩) (Run.start (damagedProject cutOff)) =
            .ok cleaned s'' ∧ cleaned.manifests = [movedManifest] ∧
              IsEmptyDirectory (Config.standard ⟨1, ["p"]⟩).outputPath s''.tree) ∧
    ((damagedProject noText).isDirectory (Config.standard ⟨1, ["p"]⟩).outputPath = .ok true ∧
      ∃ log, clean (.standard ⟨1, ["p"]⟩) (Run.start (damagedProject noText)) =
        .error (.breakdown .notUtf8) ⟨damagedProject noText, log⟩) := by
  have hd : (damagedProject cutOff).isDirectory (Config.standard ⟨1, ["p"]⟩).outputPath =
      .ok true := by decide +kernel
  have hd' : (damagedProject noText).isDirectory (Config.standard ⟨1, ["p"]⟩).outputPath =
      .ok true := by decide +kernel
  have hpaths := manifestPaths_damagedProject cutOff (by decide +kernel)
  have hpaths' := manifestPaths_damagedProject noText (by decide +kernel)
  change manifestPaths _ (damagedProject cutOff) = [intactPath, damagedPath] at hpaths
  change manifestPaths _ (damagedProject noText) = [intactPath, damagedPath] at hpaths'
  have hintact : (fileAt (damagedProject cutOff) intactPath).manifest? = some movedManifest := by
    rw [fileAt_intactPath]
    rfl
  have hnone : (fileAt (damagedProject cutOff) damagedPath).manifest? = none := by decide +kernel
  have hdamaged : (fileAt (damagedProject cutOff) damagedPath).isText := by decide +kernel
  have hnoText : ¬(fileAt (damagedProject noText) damagedPath).isText := by decide +kernel
  obtain ⟨hreads, hcleans, -⟩ := readManifests_iff_texts (s := Run.start (damagedProject cutOff)) hd
  obtain ⟨paths, ms, s', hread, hover⟩ := hreads.2 fun p hp => by
    have hmem : p ∈ manifestPaths (.standard ⟨1, ["p"]⟩) (damagedProject cutOff) := mem_manifestPaths_iff.2 hp
    rw [hpaths, List.mem_pair] at hmem
    rcases hmem with rfl | rfl
    · exact (manifest?_fileAt_iff.1 hintact).isTextAt
    · exact isText_fileAt_iff.1 hdamaged
  -- the run itself says which manifests these are
  obtain ⟨-, hms, hs'⟩ := readAll_ok ((readManifests_of_directory hd).symm.trans hread)
  change ms = manifestsAt (damagedProject cutOff) (manifestPaths _ (damagedProject cutOff)) at hms
  change s' = told _ (warnings _ (damagedProject cutOff)
    (manifestPaths _ (damagedProject cutOff))) at hs'
  rw [hpaths] at hms hs'
  have hmoved : ms = [movedManifest] := by
    simp [hms, manifestsAt, hintact, hnone]
  have hone : s'.log.length = 1 := by
    simp [hs', told, Run.start, warnings, hintact, hnone]
  obtain ⟨text, hc⟩ := isCleanable_damagedProject
  obtain ⟨cleaned, s'', hclean, hcleaned, hempty, -⟩ := hcleans ms s' hread _ _ text hc
  rw [hmoved] at hover hcleaned
  obtain ⟨-, -, hstops⟩ := readManifests_iff_texts (s := Run.start (damagedProject noText)) hd'
  have hmem : damagedPath ∈ manifestPaths (.standard ⟨1, ["p"]⟩) (damagedProject noText) := by
    rw [hpaths']
    exact List.mem_cons_of_mem _ List.mem_cons_self
  obtain ⟨log, -, hstop⟩ := hstops ⟨damagedPath, mem_manifestPaths_iff.1 hmem, fun h =>
    hnoText (isText_fileAt_iff.2 h)⟩
  exact ⟨⟨hd, paths, s', hover, hone, cleaned, s'', hclean, hcleaned, hempty⟩, hd', log, hstop⟩

end Output

end Routewright
