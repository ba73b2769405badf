/-
Documents on disk: those that are listed are files in the directory of documents, and they are read
as before from a tree that has kept them.
-/
import Routewright.Proofs.Project.Files
import Routewright.Proofs.Text.Order
import Routewright.Spec.File

namespace Routewright.Spec

open Routewright.Tree

/-! ## Listed documents -/

theorem mem_of_mem_filterAuxM {α ε : Type} {f : α → Except ε Bool} {xs done ys : List α}
    (h : xs.filterAuxM f done = .ok ys) : ∀ y ∈ ys, y ∈ done ∨ y ∈ xs ∧ f y = .ok true := by
  induction xs generalizing done with
  | nil =>
    obtain rfl := Except.ok.inj h
    exact fun y hy => .inl hy
  | cons x xs ih =>
    obtain ⟨b, hx, h⟩ := bind_eq_ok_iff.1 h
    intro y hy
    rcases ih h y hy with hy | ⟨hy, hf⟩
    · cases b with
      | false => exact .inl hy
      | true =>
        rcases List.mem_cons.1 hy with rfl | hy
        · exact .inr ⟨List.mem_cons_self, hx⟩
        · exact .inl hy
    · exact .inr ⟨List.mem_cons_of_mem _ hy, hf⟩

theorem mem_of_mem_filterM {α ε : Type} {f : α → Except ε Bool} {xs ys : List α}
    (h : xs.filterM f = .ok ys) {y : α} (hy : y ∈ ys) : y ∈ xs ∧ f y = .ok true := by
  obtain ⟨zs, hz, h⟩ := bind_eq_ok_iff.1 h
  obtain rfl := Except.ok.inj h
  exact (mem_of_mem_filterAuxM hz y (List.mem_reverse.1 hy)).resolve_left List.not_mem_nil

/-- What is listed is a file that stands directly in the directory. -/
theorem mem_filesIn {t : Tree} {directory : FilePath} {extensions : List Text}
    {files : List FilePath} (h : filesIn t directory extensions = .ok files) {file : FilePath}
    (hfile : file ∈ files) : ∃ name content, file = directory.append ⟨0, [name]⟩ ∧
      t.read file = .ok content := by
  obtain ⟨there, -, h⟩ := bind_eq_ok_iff.1 h
  cases there with
  | false =>
    obtain rfl := Except.ok.inj h
    cases hfile
  | true =>
    obtain ⟨place, -, h⟩ := bind_eq_ok_iff.1 h
    obtain ⟨found, hf, h⟩ := bind_eq_ok_iff.1 h
    obtain rfl := Except.ok.inj h
    -- the suffixes are looked at last, and only thin the list out
    obtain ⟨hmem, hisFile⟩ := mem_of_mem_filterM hf (List.mem_filter.1 hfile).1
    obtain ⟨name, -, rfl⟩ := List.mem_map.1 hmem
    obtain ⟨content, hread⟩ := isFile_eq_ok_true_iff.1 hisFile
    exact ⟨name, content, rfl, hread⟩

theorem filesIn_of_names {t : Tree} {directory : FilePath} {extensions : List Text}
    {place names : List Text} {files : List FilePath} (hd : t.isDirectory directory = .ok true)
    (hl : t.locate directory = .ok place) (hn : t.names place = names)
    (hf : (names.map fun name => directory.append ⟨0, [name]⟩).filterM t.isFile = .ok files) :
    filesIn t directory extensions = .ok (files.filter (hasSuffix extensions)) := by
  rw [filesIn, hd]
  refine bind_eq_ok_iff.2 ⟨true, rfl, bind_eq_ok_iff.2 ⟨place, hl, bind_eq_ok_iff.2 ⟨files, ?_, rfl⟩⟩⟩
  rw [hn]
  exact hf

/-! ## Order -/

theorem sublist_of_filterAuxM {α ε : Type} {f : α → Except ε Bool} {xs done ys : List α}
    (h : xs.filterAuxM f done = .ok ys) : ∃ kept : List α, kept.Sublist xs ∧ ys = kept.reverse ++ done := by
  induction xs generalizing done with
  | nil => exact ⟨[], .slnil, (Except.ok.inj h).symm⟩
  | cons x xs ih =>
    obtain ⟨b, -, h⟩ := bind_eq_ok_iff.1 h
    obtain ⟨kept, hkept, rfl⟩ := ih h
    cases b with
    | false => exact ⟨kept, hkept.cons x, rfl⟩
    | true => exact ⟨x :: kept, hkept.cons_cons x, by simp⟩

theorem sublist_of_filterM {α ε : Type} {f : α → Except ε Bool} {xs ys : List α}
    (h : xs.filterM f = .ok ys) : ys.Sublist xs := by
  obtain ⟨zs, hz, h⟩ := bind_eq_ok_iff.1 h
  obtain ⟨kept, hkept, rfl⟩ := sublist_of_filterAuxM hz
  obtain rfl := Except.ok.inj h
  simpa using hkept

/-- Documents are listed in the order of their names. -/
theorem pairwise_filesIn {t : Tree} {directory : FilePath} {extensions : List Text}
    {files : List FilePath} (h : filesIn t directory extensions = .ok files) :
    files.Pairwise fun file other => Text.le file.name other.name := by
  obtain ⟨there, -, h⟩ := bind_eq_ok_iff.1 h
  cases there with
  | false =>
    obtain rfl := Except.ok.inj h
    exact .nil
  | true =>
    obtain ⟨place, -, h⟩ := bind_eq_ok_iff.1 h
    obtain ⟨found, hf, h⟩ := bind_eq_ok_iff.1 h
    obtain rfl := Except.ok.inj h
    refine .sublist (List.filter_sublist.trans (sublist_of_filterM hf)) ?_
    have hname : ∀ name : Text, (directory.append ⟨0, [name]⟩).name = name := by
      intro name
      simp [FilePath.append_relative, FilePath.name]
    have htrans : ∀ a b c : Text, Text.le a b → Text.le b c → Text.le a c := fun _ _ _ => Text.le_trans
    have hsorted : (t.names place).Pairwise fun name other => Text.le name other :=
      List.pairwise_mergeSort htrans Text.le_total _
    rw [List.pairwise_map]
    simpa only [hname] using hsorted

/-! ## Documents that were kept -/

theorem load_eq_of_read {t u : Tree} {file : FilePath} (h : u.read file = t.read file) :
    load u file = load t file := by
  rw [load, load, h]

/-- A file that is not aside is read as it was. -/
theorem load_of_keeps {aside : List (List Text)} {t u : Tree} (hk : Keeps aside t u)
    {file : FilePath} {place : List Text} {content : ByteArray} (hl : t.locate file = .ok place)
    (he : t.entry? place = some (.file content)) (hplace : place ∉ aside) :
    load u file = load t file := by
  refine load_eq_of_read ?_
  rw [read_eq_ok_iff.2 ⟨place, hl, he⟩,
    read_eq_ok_iff.2 ⟨place, hk.locate hl, hk.entry place hplace _ he⟩]

end Routewright.Spec
