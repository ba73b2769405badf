/-
Which import specifiers are relative. A specifier that does not start with `.` or `..` as a component
of its own is looked up as the name of a package. The import base is relative unless it has to start
with a directory whose name starts with a dot, which it does when the output root lies below the
aggregator's directory by way of one; the paths that modules are imported by start as the base does.
-/
import Routewright.Proofs.FilePath
import Routewright.Proofs.Module.Statements

namespace Routewright

open FilePath

/-! ## Specifiers -/

/-- A module specifier that is resolved from the file that imports it, and not as the name of a
package. -/
def Text.isRelativeSpecifier (t : Text) : Bool :=
  t == "." || t == ".." || t.startsWith "./" || t.startsWith "../"

namespace Text

/-- The part of a path in front of its first slash. -/
def firstComponent (t : Text) : Text := t.takeWhile (· != CodePoint.ofChar '/')

theorem firstComponent_append_slash (s t : Text) :
    firstComponent (s ++ CodePoint.ofChar '/' :: t) = firstComponent s := by
  unfold firstComponent
  induction s with
  | nil => rfl
  | cons c s ih =>
    rw [List.cons_append, List.takeWhile_cons, List.takeWhile_cons, ih]

theorem firstComponent_of_notMem {t : Text} (h : CodePoint.ofChar '/' ∉ t) :
    firstComponent t = t := by
  refine List.takeWhile_eq_self_iff.2 fun c hc => bne_iff_ne.2 ?_
  rintro rfl
  exact h hc

/-- A text is its first component, or goes on with a slash behind it. -/
theorem eq_firstComponent_or (t : Text) :
    t = firstComponent t ∨ ∃ rest, t = firstComponent t ++ CodePoint.ofChar '/' :: rest := by
  have hsplit := List.takeWhile_append_dropWhile (p := (· != CodePoint.ofChar '/')) (l := t)
  cases hrest : t.dropWhile (· != CodePoint.ofChar '/') with
  | nil =>
    rw [hrest, List.append_nil] at hsplit
    exact .inl hsplit.symm
  | cons c rest =>
    have hc : c = CodePoint.ofChar '/' := by
      have hhead := List.head?_dropWhile_not (· != CodePoint.ofChar '/') t
      rw [hrest] at hhead
      simpa using hhead
    rw [hrest, hc] at hsplit
    exact .inr ⟨rest, hsplit.symm⟩

/-- A specifier is relative by its first component. -/
theorem isRelativeSpecifier_iff (t : Text) :
    t.isRelativeSpecifier ↔ firstComponent t = "." ∨ firstComponent t = above := by
  have hdot : CodePoint.ofChar '/' ∉ ("." : Text) := by decide
  have habove : CodePoint.ofChar '/' ∉ above := by decide
  have hsplit (piece rest : Text) : piece ++ ("/" : Text) ++ rest =
      piece ++ CodePoint.ofChar '/' :: rest := List.append_assoc _ _ _
  simp only [isRelativeSpecifier, Bool.or_eq_true, beq_iff_eq, startsWith_iff]
  constructor
  · rintro (((rfl | rfl) | ⟨rest, rfl⟩) | ⟨rest, rfl⟩)
    · exact .inl rfl
    · exact .inr rfl
    · exact .inl rfl
    · exact .inr rfl
  · rintro (h | h)
    · rcases eq_firstComponent_or t with ht | ⟨rest, ht⟩
      · exact .inl (.inl (.inl (ht.trans h)))
      · exact .inl (.inr ⟨rest, by rw [ht, h]; exact hsplit "." rest⟩)
    · rcases eq_firstComponent_or t with ht | ⟨rest, ht⟩
      · exact .inl (.inl (.inr (ht.trans h)))
      · exact .inr ⟨rest, by rw [ht, h]; exact hsplit above rest⟩

/-- What stands behind a slash does not matter. -/
theorem isRelativeSpecifier_append_slash (s t : Text) :
    isRelativeSpecifier (s ++ CodePoint.ofChar '/' :: t) = isRelativeSpecifier s := by
  rw [Bool.eq_iff_iff, isRelativeSpecifier_iff, isRelativeSpecifier_iff,
    firstComponent_append_slash]

end Text

/-! ## Ways -/

namespace FilePath

theorem toText_cons (first : Text) (rest : List Text) :
    (⟨0, first :: rest⟩ : FilePath).toText = first ++ rest.flatMap (Text.ofString "/" ++ ·) := by
  unfold toText
  rw [if_neg (by simp)]
  exact Text.join_cons _ _ _

theorem firstComponent_toText {first : Text} (h : IsComponent first) (rest : List Text) :
    Text.firstComponent (⟨0, first :: rest⟩ : FilePath).toText = first := by
  rw [toText_cons]
  cases rest with
  | nil => rw [List.flatMap_nil, List.append_nil, Text.firstComponent_of_notMem h.slash_notMem]
  | cons next rest =>
    rw [List.flatMap_cons, List.append_assoc]
    exact (Text.firstComponent_append_slash first _).trans
      (Text.firstComponent_of_notMem h.slash_notMem)

/-- A way that starts with a component goes up, unless the path lies below the directory by it. -/
theorem eq_above_or_below {cwd p directory : FilePath} {first : Text} {rest : List Text}
    (h : (relativeTo cwd p directory).parts = first :: rest) :
    first = above ∨ (resolve cwd p).parts = (resolve cwd directory).parts ++ first :: rest := by
  obtain ⟨common, hdirectory, hpath⟩ :=
    exists_common (resolve cwd directory).parts (resolve cwd p).parts
  unfold relativeTo at h
  generalize dropCommon (resolve cwd directory).parts (resolve cwd p).parts = ways
    at h hdirectory hpath
  obtain ⟨up, down⟩ := ways
  dsimp only at h hdirectory hpath
  cases up with
  | nil =>
    rw [List.length_nil, List.replicate_zero, List.nil_append] at h
    rw [List.append_nil] at hdirectory
    exact .inr (by rw [hpath, h, hdirectory])
  | cons part up =>
    rw [List.length_cons, List.replicate_succ, List.cons_append] at h
    exact .inl (List.cons.inj h).1.symm

/-- The way to a path below a directory goes down from it. -/
theorem parts_relativeTo_of_below {cwd p directory : FilePath} {rest : List Text}
    (h : (resolve cwd p).parts = (resolve cwd directory).parts ++ rest) :
    (relativeTo cwd p directory).parts = rest := by
  unfold relativeTo
  rw [h, dropCommon_append]
  rfl

theorem not_above_below (cwd p directory : FilePath) (rest : List Text) :
    (resolve cwd p).parts ≠ (resolve cwd directory).parts ++ above :: rest := by
  intro h
  refine above_notMem_resolveParts (List.not_mem_nil (a := above)) (cwd.append p).parts ?_
  rw [show resolveParts [] (cwd.append p).parts = _ from h]
  exact List.mem_append_right _ List.mem_cons_self

end FilePath

/-! ## The import base -/

namespace Config

/-- The output root lies below the aggregator's directory, and its first directory below has a name
that starts with a dot. -/
def HidesOutput (cwd : FilePath) (c : Config) : Prop :=
  ∃ name rest, (FilePath.resolve cwd c.outputPath).parts =
    (FilePath.resolve cwd c.aggregatorPath.parent).parts ++ name :: rest ∧ name.startsWith "."

/-- The way to a hidden output root starts with a hidden name, which is no step up. -/
theorem hidesOutput_iff (cwd : FilePath) (c : Config) : c.HidesOutput cwd ↔
    ∃ first rest, (relativeTo cwd c.outputPath c.aggregatorPath.parent).parts = first :: rest ∧
      first ≠ above ∧ first.startsWith "." := by
  constructor
  · rintro ⟨name, rest, hbelow, hdot⟩
    refine ⟨name, rest, parts_relativeTo_of_below hbelow, ?_, hdot⟩
    rintro rfl
    exact not_above_below _ _ _ _ hbelow
  · rintro ⟨first, rest, hparts, hfirst, hdot⟩
    exact ⟨first, rest, (eq_above_or_below hparts).resolve_left hfirst, hdot⟩

theorem isRelativeSpecifier_base (cwd : FilePath) {c : Config} (hroot : c.root.IsWellFormed)
    (habsolute : c.root.isAbsolute) :
    (c.importBase cwd).isRelativeSpecifier ↔ ¬c.HidesOutput cwd := by
  have habsolute' : c.outputPath.isAbsolute := isAbsolute_append habsolute _
  have houtput : (cwd.append c.outputPath).IsWellFormed := by
    rw [append_of_isAbsolute habsolute']
    exact hroot.child c.outputRoot
  have hway := isWellFormed_relativeTo houtput c.aggregatorPath.parent
  rw [hidesOutput_iff]
  unfold importBase
  generalize hpath : relativeTo cwd c.outputPath c.aggregatorPath.parent = way at hway
  have hslashes : way = ⟨0, way.parts⟩ := by
    rw [← hpath]
    rfl
  rw [hslashes]
  cases hparts : way.parts with
  | nil =>
    -- the output root is the aggregator's directory
    have hnone : ¬∃ first rest, ([] : List Text) = first :: rest ∧ first ≠ above ∧
        first.startsWith "." := by
      rintro ⟨first, rest, h, -⟩
      cases h
    rw [iff_true_right hnone]
    rfl
  | cons first rest =>
    have hfirst : IsComponent first := hway first (hparts ▸ List.mem_cons_self)
    have hstarts : (⟨0, first :: rest⟩ : FilePath).toText.startsWith "." = first.startsWith "." := by
      obtain ⟨c, tail, rfl⟩ := List.exists_cons_of_ne_nil hfirst.ne_nil
      rw [toText_cons]
      rfl
    dsimp only
    rw [hstarts]
    by_cases hdot : first.startsWith "."
    · rw [if_pos hdot, Text.isRelativeSpecifier_iff, firstComponent_toText hfirst,
        or_iff_right hfirst.ne_dot]
      simp [hdot]
    · have hnone : ¬∃ name more, first :: rest = name :: more ∧ name ≠ above ∧
          name.startsWith "." := by
        rintro ⟨name, more, h, -, hname⟩
        exact hdot ((List.cons.inj h).1 ▸ hname)
      rw [if_neg hdot, iff_true_right hnone]
      exact Text.isRelativeSpecifier_append_slash "." _

/-- The path that a module is imported by starts as the import base does. -/
theorem isRelativeSpecifier_importPath (cwd : FilePath) (c : Config) (s : Spec) :
    (Module.importPath cwd c s).isRelativeSpecifier = (c.importBase cwd).isRelativeSpecifier := by
  have htext : Module.importPath cwd c s = c.importBase cwd ++ CodePoint.ofChar '/' ::
      (s.module ++ ("/" : Text) ++ s.version ++
        CodePoint.ofChar '/' :: Module.importName c s) := by
    rw [Module.importPath_eq]
    simp [Text.ofString]
  rw [htext, Text.isRelativeSpecifier_append_slash]

/-- The import base, and with it each path that a module is imported by, is a relative specifier
unless the output root lies in a hidden directory below the aggregator's. -/
theorem importBase_isRelative_iff (cwd : FilePath) {c : Config} (hroot : c.root.IsWellFormed)
    (habsolute : c.root.isAbsolute) :
    ((c.importBase cwd).isRelativeSpecifier ↔ ¬c.HidesOutput cwd) ∧
      ∀ s, (Module.importPath cwd c s).isRelativeSpecifier ↔ ¬c.HidesOutput cwd := by
  have hbase := isRelativeSpecifier_base cwd hroot habsolute
  exact ⟨hbase, fun s => by rw [isRelativeSpecifier_importPath, hbase]⟩

/-- An output root beside the aggregator's directory, whose hidden name no import starts with, and
one in a hidden directory below it. -/
theorem importBase_isRelative_iff_hidden :
    let beside := { Config.standard ⟨1, ["p"]⟩ with outputRoot := ".gen" }
    let below := { Config.standard ⟨1, ["p"]⟩ with outputRoot := "src/.gen" }
    let s : Spec := ⟨"users", "v1", []⟩
    (beside.importBase beside.root = Text.ofString "../.gen" ∧
        (beside.importBase beside.root).isRelativeSpecifier) ∧
      below.importBase below.root = Text.ofString ".gen" ∧ below.HidesOutput below.root ∧
      ¬(Module.importPath below.root below s).isRelativeSpecifier := by
  intro beside below s
  have hroot : (⟨1, ["p"]⟩ : FilePath).IsWellFormed := isWellFormed_ofText "/p"
  have hbeside := importBase_isRelative_iff beside.root (c := beside) hroot rfl
  have hbelow := importBase_isRelative_iff below.root (c := below) hroot rfl
  have hhides : below.HidesOutput below.root := ⟨".gen", [], rfl, rfl⟩
  have hkeeps : ¬beside.HidesOutput beside.root := by
    rintro ⟨name, rest, hparts, -⟩
    cases hparts
  exact ⟨⟨by decide, hbeside.1.2 hkeeps⟩, by decide, hhides, fun h => (hbelow.2 s).1 h hhides⟩

end Config
end Routewright
