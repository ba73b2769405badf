/-
Reading manifests. What is read is one file after the other, in the order of their paths: a file that
holds a manifest adds it, one that holds none is warned of, and one that is no text ends the run there.
-/
import Routewright.Project.Output
import Routewright.Proofs.Project.Run
import Routewright.Proofs.Text.Order
import Routewright.Proofs.Text.Utf8

namespace Routewright.Output

open Routewright.Tree

/-! ## One file -/

/-- The manifest that a file holds. -/
def ManifestFile.manifest? : ManifestFile → Option Manifest
  | read m => some m
  | _ => none

/-- What a file that can be read and holds no manifest is warned of with. -/
def ManifestFile.complaint : ManifestFile → Text
  | unreadable reason => reason
  | _ => []

def ManifestFile.isText : ManifestFile → Bool
  | notUtf8 => false
  | _ => true

/-- What stands at a path that is named like a manifest. -/
def fileAt (t : Tree) (p : FilePath) : ManifestFile := .ofEntry (t.read p)

/-- A path whose file, if there is one that can be read, is in UTF-8. -/
def IsTextAt (t : Tree) (p : FilePath) : Prop :=
  ∀ content, t.read p = .ok content → ∃ text, Text.decode? content = some text

/-- A path whose file is in UTF-8 and holds a manifest as JSON. -/
def HoldsManifest (t : Tree) (p : FilePath) (m : Manifest) : Prop :=
  ∃ content text, t.read p = .ok content ∧ Text.decode? content = some text ∧
    Manifest.ofJson text.uniformLines = .accepted m

theorem ManifestFile.ofContent_of_decode {content : ByteArray} {text : Text} {m : Manifest}
    (h : Text.decode? content = some text) :
    ofContent content = read m ↔ Manifest.ofJson text.uniformLines = .accepted m := by
  rw [ofContent, h]
  dsimp only
  split <;> rename_i hm <;> simp [hm]

theorem isText_fileAt_iff {t : Tree} {p : FilePath} : (fileAt t p).isText ↔ IsTextAt t p := by
  unfold fileAt IsTextAt
  cases t.read p with
  | error e => simp [ManifestFile.ofEntry, ManifestFile.isText]
  | ok content =>
    have hcontent : (ManifestFile.ofContent content).isText ↔
        ∃ text, Text.decode? content = some text := by
      unfold ManifestFile.ofContent
      cases hdecode : Text.decode? content with
      | none => simp [ManifestFile.isText]
      | some text =>
        dsimp only
        refine iff_of_true ?_ ⟨text, rfl⟩
        split <;> rfl
    simpa [ManifestFile.ofEntry] using hcontent

theorem manifest?_fileAt_iff {t : Tree} {p : FilePath} {m : Manifest} :
    (fileAt t p).manifest? = some m ↔ HoldsManifest t p m := by
  have hread : ∀ file : ManifestFile, file.manifest? = some m ↔ file = .read m := by
    intro file
    cases file <;> simp [ManifestFile.manifest?]
  rw [hread]
  unfold fileAt HoldsManifest
  cases t.read p with
  | error e => simp [ManifestFile.ofEntry]
  | ok content =>
    cases hdecode : Text.decode? content with
    | none => simp [ManifestFile.ofEntry, ManifestFile.ofContent, hdecode]
    | some text => simp [ManifestFile.ofEntry, ManifestFile.ofContent_of_decode hdecode, hdecode]

theorem HoldsManifest.isTextAt {t : Tree} {p : FilePath} {m : Manifest} (h : HoldsManifest t p m) :
    IsTextAt t p := by
  obtain ⟨content, text, hcontent, htext, -⟩ := h
  intro other hother
  rw [← Except.ok.inj (hcontent.symm.trans hother)]
  exact ⟨text, htext⟩

/-! ## All files -/

/-- The manifests that some paths lead to. -/
def manifestsAt (t : Tree) (paths : List FilePath) : List Manifest :=
  paths.filterMap fun p => (fileAt t p).manifest?

/-- One warning for each path that leads to no manifest. -/
def warnings (c : Config) (t : Tree) (paths : List FilePath) : List Message :=
  (paths.filter fun p => (fileAt t p).manifest?.isNone).map fun p =>
    ⟨.warning, "Ignoring unreadable manifest " ++ c.display t.cwd p ++ ": " ++
      (fileAt t p).complaint⟩

/-- A session in which some messages have been told. -/
def told (s : Session) (messages : List Message) : Session := { s with log := s.log ++ messages }

section

variable {c : Config} {p : FilePath} {paths : List FilePath} {s : Session}

theorem readAll_cons_of_read {m : Manifest} (h : fileAt s.tree p = .read m) :
    readAll c (p :: paths) s = (readAll c paths >>= fun ms => pure (m :: ms)) s := by
  rw [readAll, Run.bind_of_ok (Run.tree_eq s), show ManifestFile.ofEntry (s.tree.read p) = _ from h]

theorem readAll_cons_of_unreadable {reason : Text} (h : fileAt s.tree p = .unreadable reason) :
    readAll c (p :: paths) s = readAll c paths (told s (warnings c s.tree [p])) := by
  have hwarn : warnings c s.tree [p] = [⟨.warning, "Ignoring unreadable manifest " ++
      c.display s.tree.cwd p ++ ": " ++ reason⟩] := by
    simp [warnings, h, ManifestFile.manifest?, ManifestFile.complaint]
  rw [readAll, Run.bind_of_ok (Run.tree_eq s), show ManifestFile.ofEntry (s.tree.read p) = _ from h,
    hwarn]
  exact Run.bind_of_ok (Run.say_eq s _ _) _

theorem readAll_cons_of_notUtf8 (h : fileAt s.tree p = .notUtf8) :
    readAll c (p :: paths) s = .error (.breakdown .notUtf8) s := by
  rw [readAll, Run.bind_of_ok (Run.tree_eq s), show ManifestFile.ofEntry (s.tree.read p) = _ from h]
  rfl

end

theorem warnings_cons (c : Config) (t : Tree) (p : FilePath) (paths : List FilePath) :
    warnings c t (p :: paths) = warnings c t [p] ++ warnings c t paths := by
  rw [warnings, warnings, warnings, ← List.map_append, ← List.filter_append, List.singleton_append]

/-- Manifests are read up to the first file that is no text. -/
theorem readAll_eq (c : Config) (paths : List FilePath) (s : Session) : readAll c paths s =
    if paths.all (fun p => (fileAt s.tree p).isText) then
      .ok (manifestsAt s.tree paths) (told s (warnings c s.tree paths))
    else .error (.breakdown .notUtf8) (told s
      (warnings c s.tree (paths.takeWhile fun p => (fileAt s.tree p).isText))) := by
  induction paths generalizing s with
  | nil =>
    rw [List.all_nil, if_pos rfl, told, warnings, List.filter_nil, List.map_nil, List.append_nil]
    rfl
  | cons p paths ih =>
    rw [List.all_cons, List.takeWhile_cons]
    cases hfile : fileAt s.tree p with
    | read m =>
      have hnone : warnings c s.tree [p] = [] := by
        simp [warnings, hfile, ManifestFile.manifest?]
      have hmanifests : manifestsAt s.tree (p :: paths) = m :: manifestsAt s.tree paths :=
        List.filterMap_cons_some (by rw [hfile]; rfl)
      rw [readAll_cons_of_read hfile, hmanifests, warnings_cons, hnone]
      cases hall : paths.all fun p => (fileAt s.tree p).isText with
      | true =>
        have hrest := ih s
        rw [hall, if_pos rfl] at hrest
        exact Run.bind_of_ok hrest _
      | false =>
        have hrest := ih s
        rw [hall, if_neg Bool.false_ne_true] at hrest
        simp only [ManifestFile.isText, if_true, Bool.and_false, Bool.false_eq_true, if_false]
        rw [warnings_cons, hnone]
        exact Run.bind_of_error hrest _
    | unreadable reason =>
      have hmanifests : manifestsAt s.tree (p :: paths) = manifestsAt s.tree paths :=
        List.filterMap_cons_none (by rw [hfile]; rfl)
      rw [readAll_cons_of_unreadable hfile, hmanifests, ih]
      simp only [ManifestFile.isText, if_true, Bool.true_and]
      rw [warnings_cons c s.tree p paths, warnings_cons c s.tree p (paths.takeWhile _)]
      simp only [told, List.append_assoc]
    | notUtf8 =>
      rw [readAll_cons_of_notUtf8 hfile]
      simp [ManifestFile.isText, warnings, told]

theorem readAll_of_texts {c : Config} {paths : List FilePath} {s : Session}
    (h : ∀ p ∈ paths, IsTextAt s.tree p) :
    readAll c paths s = .ok (manifestsAt s.tree paths) (told s (warnings c s.tree paths)) := by
  rw [readAll_eq, if_pos (List.all_eq_true.2 fun p hp => isText_fileAt_iff.2 (h p hp))]

theorem readAll_of_not_text {c : Config} {paths : List FilePath} {s : Session} {p : FilePath}
    (hp : p ∈ paths) (h : ¬IsTextAt s.tree p) :
    ∃ log, readAll c paths s = .error (.breakdown .notUtf8) { s with log := log } := by
  have hall : ¬paths.all fun p => (fileAt s.tree p).isText := fun hall =>
    h (isText_fileAt_iff.1 (List.all_eq_true.1 hall p hp))
  rw [readAll_eq, if_neg hall]
  exact ⟨_, rfl⟩

theorem readAll_ok {c : Config} {paths : List FilePath} {s s' : Session} {ms : List Manifest}
    (h : readAll c paths s = .ok ms s') :
    (∀ p ∈ paths, IsTextAt s.tree p) ∧ ms = manifestsAt s.tree paths ∧
      s' = told s (warnings c s.tree paths) := by
  rw [readAll_eq] at h
  split at h
  · rename_i hall
    cases h
    exact ⟨fun p hp => isText_fileAt_iff.1 (List.all_eq_true.1 hall p hp), rfl, rfl⟩
  · cases h

/-- A place where nothing can be read holds no manifest. -/
theorem manifestsAt_of_unreadable {t : Tree} {paths : List FilePath}
    (h : ∀ p ∈ paths, ∀ content, t.read p ≠ .ok content) : manifestsAt t paths = [] := by
  refine List.filterMap_eq_nil_iff.2 fun p hp => Option.eq_none_iff_forall_ne_some.2 fun m hm => ?_
  obtain ⟨content, -, hread, -⟩ := manifest?_fileAt_iff.1 hm
  exact h p hp content hread

/-! ## The output tree -/

/-- The paths that are named like manifests are in order. -/
theorem pairwise_manifestPaths (c : Config) (t : Tree) :
    (manifestPaths c t).Pairwise fun p q => FilePath.partsLe p.parts q.parts := by
  unfold manifestPaths
  split
  · exact .nil
  · rename_i place hl
    have htrans : ∀ a b c : List Text, FilePath.partsLe a b → FilePath.partsLe b c →
        FilePath.partsLe a c := fun _ _ _ => FilePath.partsLe_trans
    have hsorted : (t.waysBelow place).Pairwise fun way other => FilePath.partsLe way other :=
      List.pairwise_mergeSort htrans FilePath.partsLe_total _
    rw [List.pairwise_map]
    refine (hsorted.filter _).imp fun h => ?_
    rwa [FilePath.append_relative, FilePath.append_relative, FilePath.partsLe_append_left]

/-- What stands below the output root and is named like a manifest is read, whatever it is. -/
theorem mem_manifestPaths {c : Config} {t : Tree} {place : List Text}
    (hl : t.locate c.outputPath = .ok place) {p : FilePath} : p ∈ manifestPaths c t ↔
      ∃ way e, (place ++ way, e) ∈ t.entries ∧ way ≠ [] ∧
        Text.endsWith (way.getLastD []) ("." ++ Module.manifestSuffix) ∧
          p = c.outputPath.append ⟨0, way⟩ := by
  rw [manifestPaths, hl]
  simp only [List.mem_map, List.mem_filter, mem_waysBelow]
  constructor
  · rintro ⟨way, ⟨⟨x, hx, name, rest, hx', rfl⟩, hend⟩, rfl⟩
    exact ⟨name :: rest, x.2, hx' ▸ hx, List.cons_ne_nil _ _, hend, rfl⟩
  · rintro ⟨way, e, hx, hne, hend, rfl⟩
    obtain ⟨name, rest, rfl⟩ := List.exists_cons_of_ne_nil hne
    exact ⟨name :: rest, ⟨⟨_, hx, name, rest, rfl, rfl⟩, hend⟩, rfl⟩

theorem readManifests_of_directory {c : Config} {s : Session}
    (h : s.tree.isDirectory c.outputPath = .ok true) :
    readManifests c s = readAll c (manifestPaths c s.tree) s := by
  rw [readManifests, Run.bind_of_ok (Run.ask_of_ok h _), if_pos rfl, Run.bind_of_ok (Run.tree_eq s)]

end Routewright.Output
