/-
Actions on files, told by what they leave: each keeps every entry of the tree it starts from, the
place it writes to aside, and adds directories on its way only.
-/
import Routewright.Proofs.Project.Tree

namespace Routewright

namespace Tree

/-! ## Trees that keep what another one has -/

/-- A tree that has what another one has, some places aside; directories stay everywhere. -/
structure Keeps (aside : List (List Text)) (t u : Tree) : Prop where
  cwd : u.cwd = t.cwd
  directory : ∀ place, t.entry? place = some .directory → u.entry? place = some .directory
  entry : ∀ place ∉ aside, ∀ e, t.entry? place = some e → u.entry? place = some e

namespace Keeps

variable {aside : List (List Text)} {t u v : Tree}

theorem refl (aside : List (List Text)) (t : Tree) : Keeps aside t t :=
  ⟨rfl, fun _ h => h, fun _ _ _ h => h⟩

theorem weaken {more : List (List Text)} (h : Keeps aside t u) (hm : aside ⊆ more) :
    Keeps more t u :=
  ⟨h.cwd, h.directory, fun place hplace => h.entry place fun ha => hplace (hm ha)⟩

/-- What is kept aside later has to be aside, or to be nothing that was there at the start. -/
theorem trans {later : List (List Text)} (h : Keeps aside t u) (hl : Keeps later u v)
    (hlater : ∀ place ∈ later, place ∈ aside ∨ t.entry? place = none) : Keeps aside t v := by
  refine ⟨hl.cwd.trans h.cwd, fun place hp => hl.directory place (h.directory place hp),
    fun place hplace e he => hl.entry place (fun hmem => ?_) e (h.entry place hplace e he)⟩
  rcases hlater place hmem with hin | hnone
  · exact hplace hin
  · rw [hnone] at he
    cases he

theorem grow (h : Keeps aside t u) (hl : Keeps [] u v) : Keeps aside t v :=
  h.trans hl fun _ hmem => absurd hmem List.not_mem_nil

theorem follow (h : Keeps aside t u) {place parts q : List Text}
    (hf : t.follow place parts = .ok q) : u.follow place parts = .ok q :=
  follow_mono h.directory hf

theorem locate (h : Keeps aside t u) {p : FilePath} {place : List Text}
    (hl : t.locate p = .ok place) : u.locate p = .ok place := by
  obtain ⟨hfault, hf⟩ := locate_eq_ok_iff.1 hl
  exact locate_eq_ok_iff.2 ⟨hfault, by rw [h.cwd]; exact h.follow hf⟩

end Keeps

theorem keeps_put {t : Tree} {place : List Text} {e : Entry}
    (h : t.entry? place ≠ some .directory) : Keeps [place] t (t.put place e) := by
  refine ⟨rfl, fun other hother => ?_, fun other hne _ hother => ?_⟩
  · rw [entry?_put_ne t (fun heq => h (by rw [← heq]; exact hother)), hother]
  · rw [entry?_put_ne t (fun heq => hne (by rw [heq]; exact List.mem_singleton_self _)), hother]

/-- An entry that is put where nothing stands leaves everything as it is. -/
theorem keeps_put_of_none {t : Tree} {place : List Text} (h : t.entry? place = none) (e : Entry) :
    Keeps [] t (t.put place e) := by
  have hput : Keeps [place] t (t.put place e) := keeps_put (by rw [h]; simp)
  refine (Keeps.refl [] t).trans hput fun other hother => .inr ?_
  rw [List.mem_singleton.1 hother, h]

end Tree

namespace FilePath

/-- A path that leads through another one, or is that one. -/
structure IsAbove (q p : FilePath) : Prop where
  slashes : q.slashes = p.slashes
  parts : q.parts <+: p.parts

theorem IsAbove.refl (p : FilePath) : IsAbove p p := ⟨rfl, List.prefix_rfl⟩

theorem IsAbove.trans {p q r : FilePath} (h : IsAbove r q) (h' : IsAbove q p) : IsAbove r p :=
  ⟨h.slashes.trans h'.slashes, h.parts.trans h'.parts⟩

theorem parent_isAbove (p : FilePath) : IsAbove p.parent p :=
  ⟨rfl, List.dropLast_prefix _⟩

end FilePath

namespace Files

open Routewright.Tree

/-! ## Directories -/

/-- The directories that making a path adds: each stands on the way to it. -/
def AddsWay (p : FilePath) (t u : Tree) : Prop := ∀ x ∈ u.entries,
  x ∈ t.entries ∨ x.2 = .directory ∧ ∃ q, q.IsAbove p ∧ u.locate q = .ok x.1

/-- What making a directory and those above it leaves. -/
structure Made (p : FilePath) (t u : Tree) : Prop where
  keeps : Keeps [] t u
  made : u.isDirectory p = .ok true
  adds : AddsWay p t u

theorem Made.refl {p : FilePath} {t : Tree} (h : t.isDirectory p = .ok true) : Made p t t :=
  ⟨.refl _ _, h, fun _ hx => .inl hx⟩

theorem makeDirectory_ok {p : FilePath} {t u : Tree} {a : Unit}
    (h : makeDirectory p t = .ok a u) :
    ∃ place, t.locate p = .ok place ∧ t.entry? place = none ∧ u = t.put place .directory := by
  unfold makeDirectory at h
  split at h
  · cases h
  · rename_i place hl
    split at h
    · cases h
    · rename_i hnone
      cases h
      exact ⟨place, hl, hnone, rfl⟩

theorem makeDirectory_error {p : FilePath} {t u : Tree} {e : FileError}
    (h : makeDirectory p t = .error e u) : u = t := by
  unfold makeDirectory at h
  split at h
  · cases h; rfl
  · split at h
    · cases h; rfl
    · cases h

theorem ensureDirectory_ok {p : FilePath} {t u : Tree} {a : Unit}
    (h : ensureDirectory p t = .ok a u) : Made p t u := by
  unfold ensureDirectory at h
  split at h
  · rename_i hmake
    cases h
    obtain ⟨place, hl, hnone, rfl⟩ := makeDirectory_ok hmake
    have hkeeps : Keeps [] t (t.put place .directory) := keeps_put_of_none hnone _
    have hne : place ≠ [] := by
      rintro rfl
      rw [entry?_nil] at hnone
      cases hnone
    have hlocate := hkeeps.locate hl
    refine ⟨hkeeps, isDirectory_eq_ok_true_iff.2 ⟨place, hlocate, entry?_put_self t hne _⟩, ?_⟩
    intro x hx
    rcases mem_put hx with hx | rfl
    · exact .inl hx
    · exact .inr ⟨rfl, p, .refl p, hlocate⟩
  · -- what could not be made is taken by a directory
    rename_i hmake
    obtain rfl := makeDirectory_error hmake
    split at h
    · cases h
    · rename_i hd
      cases h
      exact .refl hd
    · cases h

theorem ensureDirectory_error {p : FilePath} {t u : Tree} {e : FileError}
    (h : ensureDirectory p t = .error e u) : u = t := by
  unfold ensureDirectory at h
  split at h
  · cases h
  · rename_i hmake
    obtain rfl := makeDirectory_error hmake
    split at h <;> cases h <;> rfl

theorem Made.trans {p q : FilePath} {t u v : Tree} (hq : q.IsAbove p) (h : Made q t u)
    (h' : Made p u v) : Made p t v := by
  refine ⟨h.keeps.grow h'.keeps, h'.made, fun x hx => ?_⟩
  rcases h'.adds x hx with hx | hx
  · rcases h.adds x hx with hx | ⟨hd, r, hr, hl⟩
    · exact .inl hx
    · exact .inr ⟨hd, r, hr.trans hq, h'.keeps.locate hl⟩
  · exact .inr hx

theorem makeDirectories_ok {p : FilePath} {t u : Tree} {a : Unit}
    (h : makeDirectories p t = .ok a u) : Made p t u := by
  -- each call goes one component up
  induction hn : p.parts.length generalizing p t u with
  | zero =>
    rw [makeDirectories] at h
    split at h
    · rw [if_pos (List.length_eq_zero_iff.1 hn)] at h
      cases h
    · exact ensureDirectory_ok h
  | succ n ih =>
    have hparent : p.parent.parts.length = n := by
      simp [FilePath.parent, hn]
    rw [makeDirectories] at h
    split at h
    · rename_i first hfirst
      obtain rfl := ensureDirectory_error hfirst
      split at h
      · cases h
      · split at h
        · rename_i second hsecond
          exact (ih hsecond hparent).trans p.parent_isAbove (ensureDirectory_ok h)
        · cases h
    · exact ensureDirectory_ok h

/-- A directory that is there need not be made. -/
theorem makeDirectories_of_isDirectory {p : FilePath} {t : Tree} (h : t.isDirectory p = .ok true) :
    makeDirectories p t = .ok () t := by
  obtain ⟨place, hl, hd⟩ := isDirectory_eq_ok_true_iff.1 h
  have hmake : makeDirectory p t = .error .taken t := by
    rw [makeDirectory, hl]
    simp only [hd]
  have hensure : ensureDirectory p t = .ok () t := by
    rw [ensureDirectory, hmake]
    simp only [h]
  rw [makeDirectories, hensure]

/-! ## Files -/

theorem putFile_ok {p : FilePath} {content : ByteArray} {t u : Tree} {a : Unit}
    (h : putFile p content t = .ok a u) : ∃ place, t.locate p = .ok place ∧ place ≠ [] ∧
      t.entry? place ≠ some .directory ∧ u = t.put place (.file content) := by
  unfold putFile at h
  split at h
  · cases h
  · rename_i place hl
    split at h
    · cases h
    · split at h
      · cases h
      · rename_i hd
        cases h
        refine ⟨place, hl, ?_, hd, rfl⟩
        rintro rfl
        exact hd (entry?_nil t)

theorem openDraft_ok {p : FilePath} {t u : Tree} {a : Unit} (h : openDraft p t = .ok a u) :
    u = t ∧ ∃ place, t.locate (draftPath p) = .ok place := by
  unfold openDraft at h
  split at h
  · cases h
  · rename_i place hl
    cases h
    exact ⟨rfl, place, hl⟩

theorem putFile_of_locate {p : FilePath} {t : Tree} {place : List Text}
    (hl : t.locate p = .ok place) (hend : endsAtDirectory p = false)
    (hd : t.entry? place ≠ some .directory) (content : ByteArray) :
    putFile p content t = .ok () (t.put place (.file content)) := by
  unfold putFile
  rw [hl]
  simp only [hend, Bool.false_eq_true, if_false]

theorem openDraft_of_locate {p : FilePath} {t : Tree} {place : List Text}
    (hl : t.locate (draftPath p) = .ok place) : openDraft p t = .ok () t := by
  rw [openDraft, hl]

theorem remove_of_locate {p : FilePath} {t : Tree} {place : List Text}
    (hl : t.locate p = .ok place) : remove p t = .ok () (t.erase place) := by
  rw [remove, hl]

end Files

end Routewright
