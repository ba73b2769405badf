/-
Where the paths of a project lead, told from the paths alone, and projects whose documents, modules
and aggregator are apart: what is written for them leaves every document as it is.
-/
import Routewright.Proofs.Module.Places
import Routewright.Proofs.Project.Generate
import Routewright.Proofs.Spec.File

namespace Routewright

open Routewright.Tree

/-! ## Places of paths -/

namespace FilePath

/-- The place that a path leads to from a directory, if it leads anywhere. -/
def place (p cwd : FilePath) : List Text := (resolve cwd p).parts.map Text.listedName

theorem place_append {names : List Text} (h : ∀ name ∈ names, name ≠ above) (p cwd : FilePath) :
    (p.append ⟨0, names⟩).place cwd = p.place cwd ++ names.map Text.listedName := by
  rw [place, resolve, place, resolve]
  dsimp only
  rw [parts_append_relative, resolveParts_append h, List.map_append]

end FilePath

namespace Tree

variable {t : Tree}

/-- Following components comes to what is left of them when each `..` has taken one back. -/
theorem eq_of_follow {parts q : List Text} (done : List Text)
    (h : t.follow (done.reverse.map Text.listedName) parts = .ok q) :
    q = (FilePath.resolveParts done parts).map Text.listedName := by
  induction parts generalizing done with
  | nil => exact (Except.ok.inj h).symm
  | cons part parts ih =>
    have hd := isDirectory_of_follow h
    rw [follow, hd] at h
    rw [FilePath.resolveParts]
    dsimp only at h
    split at h
    · rename_i habove
      rw [if_pos habove]
      refine ih _ ?_
      rwa [← List.dropLast_reverse, List.map_dropLast]
    · rename_i habove
      rw [if_neg habove]
      split at h
      · cases h
      · refine ih _ ?_
        rw [List.reverse_cons, List.map_append]
        exact h

theorem eq_place_of_locate {p : FilePath} {q : List Text} (h : t.locate p = .ok q) :
    q = p.place t.cwd :=
  eq_of_follow [] (locate_eq_ok_iff.1 h).2

/-- A tree that has directories on the way to a place. -/
def HasWay (t : Tree) (place : List Text) : Prop :=
  ∀ above, above <+: place → above ≠ place → t.entry? above = some .directory

theorem hasWay_of_follow {place parts q : List Text} (hw : t.HasWay place)
    (h : t.follow place parts = .ok q) : t.HasWay q := by
  induction parts generalizing place with
  | nil =>
    rw [← Except.ok.inj h]
    exact hw
  | cons part parts ih =>
    have hd := isDirectory_of_follow h
    rw [follow, hd] at h
    dsimp only at h
    split at h
    · refine ih (fun above ha hne => hw above (ha.trans (List.dropLast_prefix place)) ?_) h
      rintro rfl
      exact hne (ha.eq_of_length_le (by simp))
    · split at h
      · cases h
      · refine ih (fun above ha hne => ?_) h
        rcases List.prefix_concat_iff.1 ha with rfl | ha
        · exact absurd rfl hne
        · by_cases hsame : above = place
          · rw [hsame, hd]
          · exact hw above ha hsame

theorem hasWay_of_follow_nil {parts q : List Text} (h : t.follow [] parts = .ok q) : t.HasWay q :=
  hasWay_of_follow (fun _ ha hne => absurd (List.prefix_nil.1 ha) hne) h

end Tree

/-! ## Listed documents -/

/-- A file that stands directly in the directory of documents. -/
def IsListed (c : Config) (t : Tree) (file : FilePath) : Prop :=
  ∃ name content, file = c.specsPath.append ⟨0, [name]⟩ ∧ t.read file = .ok content

/-- A document stands below the directory of documents: its name does not lead up, for a file is
there and no directory. -/
theorem IsListed.exists_place {c : Config} {t : Tree} {file : FilePath} (h : IsListed c t file) :
    ∃ place content, t.locate file = .ok place ∧ t.entry? place = some (.file content) ∧
      c.specsPath.place t.cwd <+: place := by
  obtain ⟨name, content, rfl, hread⟩ := h
  obtain ⟨place, hl, he⟩ := read_eq_ok_iff.1 hread
  refine ⟨place, content, hl, he, ?_⟩
  by_cases hname : name = FilePath.above
  · exfalso
    obtain ⟨-, hf⟩ := locate_eq_ok_iff.1 hl
    rw [FilePath.parts_append_relative] at hf
    obtain ⟨mid, hmid, hf⟩ := follow_append_eq_ok_iff.1 hf
    have hd := isDirectory_of_follow hf
    rw [follow, hd, hname] at hf
    obtain rfl : mid.dropLast = place := Except.ok.inj hf
    -- what is above a directory is one
    have hup : t.entry? mid.dropLast = some .directory := by
      by_cases hnil : mid.dropLast = mid
      · rw [hnil, hd]
      · exact hasWay_of_follow_nil hmid _ (List.dropLast_prefix mid) hnil
    rw [hup] at he
    cases he
  · have hplace := eq_place_of_locate hl
    rw [FilePath.place_append (by simpa using hname)] at hplace
    rw [hplace]
    exact List.prefix_append _ _

/-! ## Projects that are apart -/

/-- The files of a module. -/
def Module.files (c : Config) (s : Spec) : List FilePath := [modulePath c s, manifestPath c s]

/-- A configuration whose documents, modules and aggregator are apart, seen from a directory: the
aggregator and the files of every module stand outside the directory of documents, and no module
stands where the aggregator does. -/
structure IsApart (cwd : FilePath) (c : Config) : Prop where
  aggregator : ¬c.specsPath.place cwd <+: c.aggregatorPath.place cwd
  specs : ∀ s : Spec, s.IsNamed → ∀ p ∈ Module.files c s, ¬c.specsPath.place cwd <+: p.place cwd
  modules : ∀ s : Spec, s.IsNamed → ∀ p ∈ Module.files c s, p.place cwd ≠ c.aggregatorPath.place cwd

/-- The files of a module stand below the output root, unless what their names end in leads elsewhere. -/
theorem Module.outputPath_prefix_place (cwd : FilePath) {c : Config}
    (hc : CodePoint.ofChar '/' ∉ c.moduleSuffix) {s : Spec} (hs : s.IsNamed) :
    ∀ p ∈ Module.files c s, c.outputPath.place cwd <+: p.place cwd := by
  have hbelow : ∀ last : Text, CodePoint.ofChar '/' ∉ last →
      c.outputPath.place cwd <+: ((directory c s).child (fileOf s last)).place cwd := by
    intro last hl
    have hslash : CodePoint.ofChar '/' ∉ fileOf s last := by
      have hm := hs.module.notMem (c := CodePoint.ofChar '/') (by decide)
      have hv := hs.version.notMem (c := CodePoint.ofChar '/') (by decide)
      simp [fileOf, Text.ofString, hm, hv, hl]
    have hdash := dash_mem_fileOf (s := s) last
    have hplain : ∀ other : Text, CodePoint.ofChar '-' ∉ other → fileOf s last ≠ other := by
      intro other hnot heq
      rw [heq] at hdash
      exact hnot hdash
    have hpath : (directory c s).child (fileOf s last) =
        c.outputPath.append ⟨0, [s.module, s.version, fileOf s last]⟩ := by
      rw [directory, FilePath.child, FilePath.child, FilePath.child, hs.module.ofText,
        hs.version.ofText, FilePath.ofText_of_notMem hslash (hplain _ (by simp)) (hplain _ (by decide))]
      simp [FilePath.append_relative]
    rw [hpath, FilePath.place_append]
    · exact List.prefix_append _ _
    · simp [hs.module.isPlainName.down, hs.version.isPlainName.down, hplain FilePath.above (by decide)]
  intro p hp
  rcases List.mem_cons.1 hp with rfl | hp
  · exact hbelow _ hc
  · rw [List.mem_singleton.1 hp]
    exact hbelow _ (by decide)

/-- Two places neither of which lies below the other. -/
def AreApart (place other : List Text) : Prop := ¬place <+: other ∧ ¬other <+: place

/-- Where the directory of documents, the output root and the aggregator lie apart, everything does. -/
theorem isApart_of_areApart {cwd : FilePath} {c : Config}
    (hc : CodePoint.ofChar '/' ∉ c.moduleSuffix)
    (haggregator : AreApart (c.specsPath.place cwd) (c.aggregatorPath.place cwd))
    (hspecs : AreApart (c.specsPath.place cwd) (c.outputPath.place cwd))
    (houtput : AreApart (c.outputPath.place cwd) (c.aggregatorPath.place cwd)) : IsApart cwd c := by
  refine ⟨haggregator.1, fun s hs p hp hbelow => ?_, fun s hs p hp hsame => ?_⟩
  · have hp' := Module.outputPath_prefix_place cwd hc hs p hp
    exact (List.prefix_or_prefix_of_prefix hbelow hp').elim hspecs.1 hspecs.2
  · have hp' := Module.outputPath_prefix_place cwd hc hs p hp
    rw [hsame] at hp'
    exact houtput.1 hp'

theorem isApart_standard (cwd root : FilePath) : IsApart cwd (.standard root) := by
  have hplace : ∀ names : List Text, (∀ name ∈ names, name ≠ FilePath.above) →
      (root.append ⟨0, names⟩).place cwd = root.place cwd ++ names.map Text.listedName :=
    fun names h => FilePath.place_append h root cwd
  have hspecs := hplace ["api-builder", "json"] (by decide)
  have houtput := hplace ["src", "builder"] (by decide)
  have haggregator := hplace ["src", "index.ts"] (by decide)
  rw [← Config.specsPath_standard] at hspecs
  rw [← Config.outputPath_standard] at houtput
  rw [← Config.aggregatorPath_standard] at haggregator
  have hsuffix : CodePoint.ofChar '/' ∉ Text.ofString "routes.ts" := by decide
  refine isApart_of_areApart hsuffix ?_ ?_ ?_
  all_goals
    simp only [AreApart, hspecs, houtput, haggregator, List.prefix_append_right_inj]
    decide

end Routewright
