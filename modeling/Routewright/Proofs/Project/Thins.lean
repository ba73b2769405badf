/-
Trees with less in them: nothing but what another tree has, at the same places and of the same kinds,
though files may hold something else. A path that leads somewhere in such a tree leads there in the
fuller one, and whatever can be asked of the fuller tree can be asked of it.
-/
import Routewright.Proofs.Project.Clean

namespace Routewright

open Routewright.Tree

namespace Tree

/-- A tree as a file system lists it: no name leads up, and each is what its bytes are read as. -/
def HasPlainNames (t : Tree) : Prop := ∀ x ∈ t.entries, ∀ name ∈ x.1, IsPlainName name

/-- A tree that has nothing but what another one has, though files may hold something else. -/
structure Thins (t u : Tree) : Prop where
  cwd : u.cwd = t.cwd
  kind : ∀ place e, u.entry? place = some e →
    ∃ old, t.entry? place = some old ∧ old.isDirectory = e.isDirectory
  entries : ∀ x ∈ u.entries, ∃ old ∈ t.entries, old.1 = x.1

namespace Thins

variable {t u v : Tree} {p : FilePath} {place : List Text}

theorem refl (t : Tree) : Thins t t :=
  ⟨rfl, fun _ e he => ⟨e, he, rfl⟩, fun x hx => ⟨x, hx, rfl⟩⟩

theorem trans (h : Thins t u) (h' : Thins u v) : Thins t v := by
  refine ⟨h'.cwd.trans h.cwd, fun place e he => ?_, fun x hx => ?_⟩
  · obtain ⟨mid, hmid, hkind⟩ := h'.kind place e he
    obtain ⟨old, hold, hkind'⟩ := h.kind place mid hmid
    exact ⟨old, hold, hkind'.trans hkind⟩
  · obtain ⟨mid, hmid, hplace⟩ := h'.entries x hx
    obtain ⟨old, hold, hplace'⟩ := h.entries mid hmid
    exact ⟨old, hold, hplace'.trans hplace⟩

theorem hasPlainNames (h : Thins t u) (ht : t.HasPlainNames) : u.HasPlainNames := by
  intro x hx name hname
  obtain ⟨old, hold, hplace⟩ := h.entries x hx
  exact ht old hold name (hplace ▸ hname)

theorem directory (h : Thins t u) (hd : u.entry? place = some .directory) :
    t.entry? place = some .directory := by
  obtain ⟨old, hold, hkind⟩ := h.kind place _ hd
  cases old with
  | file content => cases hkind
  | directory => exact hold

theorem locate (h : Thins t u) (hl : u.locate p = .ok place) : t.locate p = .ok place := by
  obtain ⟨hfault, hf⟩ := locate_eq_ok_iff.1 hl
  rw [h.cwd] at hf
  exact locate_eq_ok_iff.2 ⟨hfault, follow_mono (fun _ => h.directory) hf⟩

/-- A name that is too long is met on the same way in the fuller tree. -/
theorem follow_tooLong (h : Thins t u) {parts : List Text}
    (hf : u.follow place parts = .error .nameTooLong) :
    t.follow place parts = .error .nameTooLong := by
  induction parts generalizing place with
  | nil => cases hf
  | cons part parts ih =>
    rw [follow] at hf
    split at hf
    · rename_i hd
      rw [follow, h.directory hd]
      dsimp only
      split at hf
      · rename_i habove
        rw [if_pos habove]
        exact ih hf
      · rename_i habove
        rw [if_neg habove]
        split at hf
        · rename_i hlong
          rw [if_pos hlong]
        · rename_i hlong
          rw [if_neg hlong]
          exact ih hf
    · cases hf
    · cases hf

theorem find_tooLong (h : Thins t u) (hf : u.find p = .error .nameTooLong) :
    t.find p = .error .nameTooLong := by
  have hlocate : t.locate p = .error .nameTooLong := by
    unfold find at hf
    split at hf
    · rename_i e hl
      cases hf
      unfold Tree.locate at hl ⊢
      split at hl
      · exact hl
      · rw [h.cwd] at hl
        exact h.follow_tooLong hl
    · split at hf <;> cases hf
  rw [find, hlocate]

/-- What can be asked of a tree can be asked of one with less in it. -/
theorem asks (h : Thins t u) {kind : Entry → Bool} {b : Bool} (ht : t.asks kind p = .ok b) :
    ∃ b', u.asks kind p = .ok b' := by
  cases hf : u.find p with
  | ok e => exact ⟨kind e, by rw [Tree.asks, hf]⟩
  | error e =>
    by_cases hlong : e = .nameTooLong
    · rw [hlong] at hf
      rw [Tree.asks, h.find_tooLong hf] at ht
      cases ht
    · refine ⟨false, ?_⟩
      rw [Tree.asks, hf]
      cases e <;> first | rfl | exact absurd rfl hlong

theorem names_eq_nil (h : Thins t u) (ht : t.names place = []) : u.names place = [] := by
  rw [List.eq_nil_iff_forall_not_mem] at ht ⊢
  intro name hname
  obtain ⟨e, he⟩ := mem_names.1 hname
  obtain ⟨old, hold, hplace⟩ := h.entries _ he
  dsimp only at hplace
  refine ht name (mem_names.2 ⟨old.2, ?_⟩)
  rw [← hplace]
  exact hold

end Thins

theorem thins_erase (t : Tree) (place : List Text) : Thins t (t.erase place) := by
  refine ⟨rfl, fun other e he => ?_, fun x hx => ⟨x, (mem_erase.1 hx).1, rfl⟩⟩
  by_cases hnil : other = []
  · rw [hnil, entry?_nil] at he
    obtain rfl := Option.some.inj he
    exact ⟨.directory, by rw [hnil, entry?_nil], rfl⟩
  · have hnot := (mem_erase.1 (mem_entries hnil he)).2
    rw [entry?_erase hnot] at he
    exact ⟨e, he, rfl⟩

theorem thins_eraseAll (t : Tree) (place : List Text) (names : List Text) :
    Thins t (eraseAll place names t) := by
  induction names generalizing t with
  | nil => exact .refl t
  | cons name names ih => exact (thins_erase t _).trans (ih _)

theorem names_eraseAll (t : Tree) (place : List Text) :
    (eraseAll place (t.names place) t).names place = [] := by
  refine List.eq_nil_iff_forall_not_mem.2 fun name hname => ?_
  obtain ⟨e, he⟩ := mem_names.1 hname
  obtain ⟨hmem, hnot⟩ := mem_eraseAll.1 he
  exact hnot name (mem_names.2 ⟨e, hmem⟩) List.prefix_rfl

/-- A file that is written over keeps its place. -/
theorem thins_put {t : Tree} {place : List Text} {old : ByteArray}
    (h : t.entry? place = some (.file old)) (content : ByteArray) :
    Thins t (t.put place (.file content)) := by
  have hne : place ≠ [] := by
    rintro rfl
    cases h
  refine ⟨rfl, fun other e he => ?_, fun x hx => ?_⟩
  · by_cases hsame : other = place
    · rw [hsame, entry?_put_self t hne] at he
      obtain rfl := Option.some.inj he
      exact ⟨.file old, by rw [hsame, h], rfl⟩
    · rw [entry?_put_ne t hsame] at he
      exact ⟨e, he, rfl⟩
  · rcases mem_put hx with hx | rfl
    · exact ⟨x, hx, rfl⟩
    · exact ⟨_, mem_entries hne h, rfl⟩

end Tree

/-! ## Writing where a path leads -/

namespace FilePath

theorem eq_parent_append {p : FilePath} (h : p.parts ≠ []) : p = p.parent.append ⟨0, [p.name]⟩ := by
  have hname : p.name = p.parts.getLast h := by
    rw [name, List.getLastD_eq_getLast?, List.getLast?_eq_some_getLast h]
    rfl
  rw [append_relative, parent, hname]
  dsimp only
  rw [List.dropLast_concat_getLast h]

end FilePath

namespace Tree

theorem isDirectory_parent {t : Tree} {p : FilePath} {place : List Text} (hne : p.parts ≠ [])
    (h : t.locate p = .ok place) : t.isDirectory p.parent = .ok true := by
  rw [FilePath.eq_parent_append hne] at h
  obtain ⟨hfault, hf⟩ := locate_eq_ok_iff.1 h
  rw [FilePath.parts_append_relative] at hf
  obtain ⟨mid, hmid, hf⟩ := follow_append_eq_ok_iff.1 hf
  exact isDirectory_eq_ok_true_iff.2
    ⟨mid, locate_eq_ok_iff.2 ⟨FilePath.fault?_of_append hfault, hmid⟩, isDirectory_of_follow hf⟩

end Tree

namespace Files

theorem remove_ok {p : FilePath} {t u : Tree} {a : Unit} (h : remove p t = .ok a u) :
    ∃ place, t.locate p = .ok place ∧ u = t.erase place := by
  unfold remove at h
  split at h
  · cases h
  · rename_i place hl
    cases h
    exact ⟨place, hl, rfl⟩

theorem endsAtDirectory_of_putFile {p : FilePath} {content : ByteArray} {t u : Tree} {a : Unit}
    (h : putFile p content t = .ok a u) : endsAtDirectory p = false := by
  unfold putFile at h
  split at h
  · cases h
  · split at h
    · cases h
    · rename_i hend
      exact Bool.eq_false_iff.2 hend

end Files

/-- Where a path leads to a place, writing changes that place only: no directory is missing. -/
theorem Run.write_located {stop : FileError → Stop} {p : FilePath} {text : Text} {s s' : Session}
    {a : Unit} {place : List Text} (h : write stop p text s = .ok a s')
    (hl : s.tree.locate p = .ok place) :
    ∃ content, text.encode? = some content ∧ s'.tree = s.tree.put place (.file content) := by
  obtain ⟨_, mid, hmake, h⟩ := bind_ok h
  obtain ⟨_, mid', hdraft, h⟩ := bind_ok h
  cases hcontent : text.encode? with
  | none =>
    simp only [hcontent] at h
    cases h
  | some content =>
    simp only [hcontent] at h
    have hput := files_ok h
    have hne : p.parts ≠ [] := by
      intro hnil
      have hend := Files.endsAtDirectory_of_putFile hput
      rw [Files.endsAtDirectory, hnil] at hend
      cases hend
    have hsame : mid.tree = s.tree := by
      have hmade := files_ok hmake
      rw [Files.makeDirectories_of_isDirectory (isDirectory_parent hne hl)] at hmade
      injection hmade with _ hmade
      exact hmade.symm
    have hsame' : mid'.tree = s.tree := (Files.openDraft_ok (files_ok hdraft)).1.trans hsame
    obtain ⟨place', hl', -, -, htree⟩ := Files.putFile_ok hput
    rw [hsame', hl] at hl'
    obtain rfl := Except.ok.inj hl'
    exact ⟨content, rfl, by rw [htree, hsame']⟩

end Routewright
