/-
Paths as lists of components: which components a text writes, and where a path leads when each `..`
has taken back the component before it. The way from a directory to a path, put below the directory,
leads to the path.
-/
import Routewright.FilePath
import Routewright.Proofs.Text.Lines

namespace Routewright.FilePath

/-! ## Components -/

/-- A name that can be a component of a path that is read from a text. -/
structure IsComponent (part : Text) : Prop where
  ne_nil : part ≠ []
  ne_dot : part ≠ "."
  slash_notMem : CodePoint.ofChar '/' ∉ part

/-- A path whose components are such names; those of a path that is read from a text are. -/
def IsWellFormed (p : FilePath) : Prop := ∀ part ∈ p.parts, IsComponent part

theorem isComponent_of_mem_components {t part : Text} (h : part ∈ components t) :
    IsComponent part := by
  unfold components at h
  rw [List.mem_filter, Bool.and_eq_true, bne_iff_ne] at h
  obtain ⟨hsplit, hempty, hdot⟩ := h
  exact ⟨by simpa using hempty, hdot, Text.notMem_of_mem_splitOn hsplit⟩

theorem isWellFormed_ofText (t : Text) : (ofText t).IsWellFormed := fun _ =>
  isComponent_of_mem_components

theorem IsWellFormed.append {p q : FilePath} (hp : p.IsWellFormed) (hq : q.IsWellFormed) :
    (p.append q).IsWellFormed := by
  intro part hpart
  unfold FilePath.append at hpart
  split at hpart
  · exact hq part hpart
  · exact (List.mem_append.1 hpart).elim (hp part) (hq part)

theorem IsWellFormed.child {p : FilePath} (h : p.IsWellFormed) (t : Text) :
    (p.child t).IsWellFormed :=
  h.append (isWellFormed_ofText t)

theorem IsWellFormed.parent {p : FilePath} (h : p.IsWellFormed) : p.parent.IsWellFormed :=
  fun part hpart => h part ((List.dropLast_sublist p.parts).subset hpart)

theorem components_append_slash (s t : Text) :
    components (s ++ CodePoint.ofChar '/' :: t) = components s ++ components t := by
  unfold components
  rw [Text.splitOn_append_cons, List.filter_append]

theorem components_slashes_append (n : Nat) (t : Text) :
    components (List.replicate n (CodePoint.ofChar '/') ++ t) = components t := by
  induction n with
  | zero => rfl
  | succ n ih =>
    have hslash := components_append_slash [] (List.replicate n (CodePoint.ofChar '/') ++ t)
    rw [List.nil_append] at hslash
    rw [List.replicate_succ, List.cons_append, hslash, ih]
    rfl

/-- Components are read back from the text that lists them. -/
theorem components_join {parts : List Text} (h : ∀ part ∈ parts, IsComponent part) :
    components (Text.join "/" parts) = parts := by
  have hkept : parts.filter (fun part => !part.isEmpty && part != Text.ofString ".") = parts := by
    rw [List.filter_eq_self]
    intro part hpart
    have hne := (h part hpart).ne_nil
    have hdot := (h part hpart).ne_dot
    simp [hne, hdot]
  by_cases hne : parts = []
  · rw [hne]
    rfl
  · have hslash : ∀ part ∈ parts, CodePoint.ofChar '/' ∉ part := fun part hpart =>
      (h part hpart).slash_notMem
    have hsplit : Text.splitOn '/' (Text.join "/" parts) = parts := by
      rw [Text.splitOn_eq]
      exact List.splitOn_intercalate _ hslash hne
    unfold components
    rw [hsplit, hkept]

theorem components_toText {p : FilePath} (h : p.IsWellFormed) : components p.toText = p.parts := by
  unfold toText
  split
  · rename_i hempty
    rw [hempty.2]
    rfl
  · rw [components_slashes_append, components_join h]

theorem splitOn_of_notMem {separator : CodePoint} {t : Text} (h : separator ∉ t) :
    Text.splitOn separator t = [t] := by
  rw [Text.splitOn_eq]
  exact List.splitOn_eq_singleton h

theorem slashes_ofText {t : Text} (h : t.head? ≠ some (CodePoint.ofChar '/')) :
    (ofText t).slashes = 0 := by
  have hlead : t.takeWhile (· == CodePoint.ofChar '/') = [] := by
    cases t with
    | nil => rfl
    | cons c t =>
      refine List.takeWhile_cons_of_neg fun hc => h ?_
      rw [List.head?_cons, beq_iff_eq.1 hc]
  unfold ofText
  rw [hlead]
  rfl

theorem ofText_of_notMem {t : Text} (h : CodePoint.ofChar '/' ∉ t) (hne : t ≠ [])
    (hdot : t ≠ ".") : ofText t = ⟨0, [t]⟩ := by
  have hslashes : (ofText t).slashes = 0 :=
    slashes_ofText fun hhead => h (List.mem_of_head? hhead)
  have hparts : components t = [t] := by
    rw [components, splitOn_of_notMem h, List.filter_cons_of_pos]
    · rfl
    · simp [hne, hdot]
  calc ofText t = ⟨(ofText t).slashes, components t⟩ := rfl
    _ = ⟨0, [t]⟩ := by rw [hslashes, hparts]

/-- A text that starts with no slash goes down from a path. -/
theorem parts_child {t : Text} (h : t.head? ≠ some (CodePoint.ofChar '/')) (p : FilePath) :
    (p.child t).parts = p.parts ++ components t := by
  have hrelative : (ofText t).isAbsolute = false := by simp [isAbsolute, slashes_ofText h]
  unfold child FilePath.append
  rw [hrelative]
  rfl

/-! ## Joined paths -/

theorem append_relative (p : FilePath) (parts : List Text) :
    p.append ⟨0, parts⟩ = ⟨p.slashes, p.parts ++ parts⟩ := rfl

theorem append_append_relative (p : FilePath) (first rest : List Text) :
    (p.append ⟨0, first⟩).append ⟨0, rest⟩ = p.append ⟨0, first ++ rest⟩ := by
  simp [append_relative]

/-- Going down from a path is the same from every directory that it is seen from. -/
theorem parts_append_relative (cwd p : FilePath) (parts : List Text) :
    (cwd.append (p.append ⟨0, parts⟩)).parts = (cwd.append p).parts ++ parts := by
  rw [append_relative, append, append]
  by_cases h : p.slashes = 0 <;> simp [isAbsolute, h]

theorem append_of_isAbsolute {p : FilePath} (h : p.isAbsolute) (cwd : FilePath) :
    cwd.append p = p := if_pos h

theorem isAbsolute_append {p : FilePath} (h : p.isAbsolute) (q : FilePath) :
    (p.append q).isAbsolute := by
  unfold append
  split
  · assumption
  · exact h

theorem isAbsolute_ofText (t : Text) : (ofText (CodePoint.ofChar '/' :: t)).isAbsolute := by
  have hlead : (CodePoint.ofChar '/' :: t).takeWhile (· == CodePoint.ofChar '/') =
      CodePoint.ofChar '/' :: t.takeWhile (· == CodePoint.ofChar '/') :=
    List.takeWhile_cons_of_pos rfl
  have hslashes : (ofText (CodePoint.ofChar '/' :: t)).slashes ≠ 0 := by
    unfold ofText
    rw [hlead, List.length_cons]
    dsimp only
    split <;> omega
  exact decide_eq_true hslashes

theorem exists_toText_eq {p : FilePath} (h : p.isAbsolute) :
    ∃ rest, p.toText = CodePoint.ofChar '/' :: rest := by
  have hslashes : p.slashes ≠ 0 := of_decide_eq_true h
  obtain ⟨n, hn⟩ := Nat.exists_eq_succ_of_ne_zero hslashes
  refine ⟨List.replicate n (CodePoint.ofChar '/') ++ Text.join "/" p.parts, ?_⟩
  unfold toText
  rw [if_neg (fun hempty => hslashes hempty.1), hn, List.replicate_succ]
  rfl

/-! ## Lexical resolution -/

variable {done parts : List Text}

theorem resolveParts_cons_above (done parts : List Text) :
    resolveParts done (above :: parts) = resolveParts done.tail parts := if_pos rfl

/-- A path is resolved part after part. -/
theorem resolveParts_append_eq (done first rest : List Text) :
    resolveParts done (first ++ rest) = resolveParts (resolveParts done first).reverse rest := by
  induction first generalizing done with
  | nil => rw [List.nil_append, resolveParts, List.reverse_reverse]
  | cons part first ih =>
    rw [List.cons_append, resolveParts, resolveParts]
    split <;> exact ih _

theorem above_notMem_resolveParts (hdone : above ∉ done) (parts : List Text) :
    above ∉ resolveParts done parts := by
  induction parts generalizing done with
  | nil =>
    rw [resolveParts, List.mem_reverse]
    exact hdone
  | cons part parts ih =>
    rw [resolveParts]
    split
    · exact ih fun h => hdone (List.mem_of_mem_tail h)
    · rename_i hpart
      exact ih (by rw [List.mem_cons, not_or]; exact ⟨Ne.symm hpart, hdone⟩)

/-- Going up takes back the components that were there last. -/
theorem resolveParts_replicate_above (done : List Text) (n : Nat) (parts : List Text) :
    resolveParts done (List.replicate n above ++ parts) = resolveParts (done.drop n) parts := by
  induction n generalizing done with
  | zero => rfl
  | succ n ih =>
    rw [List.replicate_succ, List.cons_append, resolveParts_cons_above, ih, List.drop_tail]

theorem resolveParts_of_ne_above (h : ∀ part ∈ parts, part ≠ above) (done : List Text) :
    resolveParts done parts = done.reverse ++ parts := by
  induction parts generalizing done with
  | nil => rw [resolveParts, List.append_nil]
  | cons part parts ih =>
    rw [List.forall_mem_cons] at h
    rw [resolveParts, if_neg h.1, ih h.2, List.reverse_cons, List.append_assoc,
      List.singleton_append]

theorem resolveParts_append {parts : List Text} (h : ∀ part ∈ parts, part ≠ above)
    (done first : List Text) : resolveParts done (first ++ parts) = resolveParts done first ++ parts := by
  rw [resolveParts_append_eq, resolveParts_of_ne_above h, List.reverse_reverse]

theorem mem_of_mem_resolveParts {done parts : List Text} {part : Text}
    (h : part ∈ resolveParts done parts) : part ∈ done ∨ part ∈ parts := by
  induction parts generalizing done with
  | nil =>
    rw [resolveParts, List.mem_reverse] at h
    exact .inl h
  | cons first parts ih =>
    rw [resolveParts] at h
    split at h
    · exact (ih h).imp List.mem_of_mem_tail (List.mem_cons_of_mem first)
    · rcases ih h with h | h
      · rw [List.mem_cons] at h ⊢
        exact h.symm.imp_right .inl
      · exact .inr (List.mem_cons_of_mem first h)

/-! ## Ways -/

theorem dropCommon_append (s t : List Text) : dropCommon s (s ++ t) = ([], t) := by
  induction s with
  | nil => cases t <;> rfl
  | cons part s ih => rw [List.cons_append, dropCommon, if_pos rfl, ih]

theorem exists_common (s t : List Text) :
    ∃ common, s = common ++ (dropCommon s t).1 ∧ t = common ++ (dropCommon s t).2 := by
  fun_induction dropCommon s t with
  | case1 s part t ih =>
    obtain ⟨common, hs, ht⟩ := ih
    exact ⟨part :: common, by rw [List.cons_append, ← hs], by rw [List.cons_append, ← ht]⟩
  | case2 a s b t hne => exact ⟨[], rfl, rfl⟩
  | case3 s t hne => exact ⟨[], rfl, rfl⟩

/-- The way from a directory to a path leads to the path. -/
theorem resolve_append_relativeTo (cwd p directory : FilePath) :
    (resolve cwd (directory.append (relativeTo cwd p directory))).parts = (resolve cwd p).parts := by
  obtain ⟨common, hdirectory, hpath⟩ :=
    exists_common (resolve cwd directory).parts (resolve cwd p).parts
  unfold relativeTo
  generalize dropCommon (resolve cwd directory).parts (resolve cwd p).parts = ways
    at hdirectory hpath
  obtain ⟨up, down⟩ := ways
  dsimp only at hdirectory hpath ⊢
  have hdown : ∀ part ∈ down, part ≠ above := by
    rintro part hpart rfl
    refine above_notMem_resolveParts (List.not_mem_nil (a := above)) (cwd.append p).parts ?_
    rw [show resolveParts [] (cwd.append p).parts = common ++ down from hpath]
    exact List.mem_append_right common hpart
  have hstart : resolveParts [] (cwd.append directory).parts = common ++ up := hdirectory
  have hup : up.length = up.reverse.length := List.length_reverse.symm
  calc (resolve cwd (directory.append ⟨0, List.replicate up.length above ++ down⟩)).parts
      = resolveParts [] ((cwd.append directory).parts ++
          (List.replicate up.length above ++ down)) := by
        rw [resolve, parts_append_relative]
    _ = resolveParts ((common ++ up).reverse.drop up.length) down := by
        rw [resolveParts_append_eq, hstart, resolveParts_replicate_above]
    _ = resolveParts common.reverse down := by
        rw [List.reverse_append, hup, List.drop_left]
    _ = common ++ down := by rw [resolveParts_of_ne_above hdown, List.reverse_reverse]
    _ = (resolve cwd p).parts := hpath.symm

theorem resolve_parts_of_isAbsolute {p : FilePath} (h : p.isAbsolute) (cwd : FilePath) :
    (resolve cwd p).parts = resolveParts [] p.parts := by
  rw [resolve, append_of_isAbsolute h]

/-- The way to a path has the components of the path, and steps up. -/
theorem mem_of_mem_relativeTo {cwd p directory : FilePath} {part : Text}
    (h : part ∈ (relativeTo cwd p directory).parts) :
    part = above ∨ part ∈ (cwd.append p).parts := by
  obtain ⟨common, -, hpath⟩ :=
    exists_common (resolve cwd directory).parts (resolve cwd p).parts
  rcases List.mem_append.1 h with h | h
  · exact .inl (List.eq_of_mem_replicate h)
  · have hmem : part ∈ (resolve cwd p).parts := by
      rw [hpath]
      exact List.mem_append_right common h
    exact .inr ((mem_of_mem_resolveParts hmem).resolve_left List.not_mem_nil)

theorem isWellFormed_relativeTo {cwd p : FilePath} (h : (cwd.append p).IsWellFormed)
    (directory : FilePath) : (relativeTo cwd p directory).IsWellFormed := by
  intro part hpart
  rcases mem_of_mem_relativeTo hpart with rfl | hpart
  · exact ⟨by decide, by decide, by decide⟩
  · exact h part hpart

end Routewright.FilePath
