/-
Texts as lists of lines, pieces of texts, and blanks at the ends of texts.
-/
import Mathlib.Data.List.DropRight
import Routewright.Text.Blank

namespace Routewright.Text

/-! ## Lines -/

/-- Splitting is the library's. -/
theorem splitOn_eq (separator : CodePoint) (t : Text) :
    splitOn separator t = List.splitOn separator t := by
  induction t with
  | nil => rfl
  | cons c t ih =>
    rw [splitOn, ih, List.splitOn_cons_eq_if_modifyHead]
    by_cases h : c = separator
    · rw [if_pos h, if_pos (by simpa using h)]
    · rw [if_neg h, if_neg (by simpa using h)]
      obtain ⟨piece, pieces, ht⟩ := List.exists_cons_of_ne_nil (List.splitOn_ne_nil separator t)
      rw [ht]; rfl

/-- No piece of a text holds the separator. -/
theorem notMem_of_mem_splitOn {separator : CodePoint} {t piece : Text}
    (h : piece ∈ splitOn separator t) : separator ∉ piece := by
  induction t generalizing piece with
  | nil =>
    rw [List.mem_singleton.1 h]
    exact List.not_mem_nil
  | cons c t ih =>
    rw [splitOn] at h
    split at h
    · rcases List.mem_cons.1 h with rfl | h
      · exact List.not_mem_nil
      · exact ih h
    · rename_i hc
      cases hsplit : splitOn separator t with
      | nil =>
        rw [hsplit, List.mem_singleton] at h
        rw [h, List.mem_singleton]
        exact Ne.symm hc
      | cons first rest =>
        rw [hsplit] at h ih
        rcases List.mem_cons.1 h with rfl | h
        · rw [List.mem_cons, not_or]
          exact ⟨Ne.symm hc, ih List.mem_cons_self⟩
        · exact ih (List.mem_cons_of_mem _ h)

theorem splitOn_append_cons (separator : CodePoint) (s t : Text) :
    splitOn separator (s ++ separator :: t) = splitOn separator s ++ splitOn separator t := by
  rw [splitOn_eq, splitOn_eq, splitOn_eq, List.splitOn_append_cons_self]

theorem lines_ne_nil (t : Text) : lines t ≠ [] := by
  rw [lines, splitOn_eq]; exact List.splitOn_ne_nil _ t

theorem unlines_lines (t : Text) : unlines (lines t) = t := by
  rw [lines, splitOn_eq]; exact List.intercalate_splitOn _

theorem lines_unlines {ls : List Text} (hne : ls ≠ []) (h : ∀ l ∈ ls, CodePoint.ofChar '\n' ∉ l) :
    lines (unlines ls) = ls := by
  rw [lines, splitOn_eq]; exact List.splitOn_intercalate _ h hne

theorem unlines_singleton (line : Text) : unlines [line] = line := by
  simp [unlines, join]

theorem lines_of_newline_notMem {t : Text} (h : CodePoint.ofChar '\n' ∉ t) : lines t = [t] := by
  have hlines := lines_unlines (List.cons_ne_nil t []) (by simpa using h)
  rwa [unlines_singleton] at hlines

theorem flatMap_lines {ls : List Text} (h : ∀ l ∈ ls, CodePoint.ofChar '\n' ∉ l) :
    ls.flatMap lines = ls := by
  induction ls with
  | nil => rfl
  | cons line ls ih =>
    rw [List.flatMap_cons, lines_of_newline_notMem (h line List.mem_cons_self),
      ih fun l hl => h l (List.mem_cons_of_mem _ hl)]
    rfl

theorem newline_notMem_of_mem_lines {t line : Text} (h : line ∈ lines t) :
    CodePoint.ofChar '\n' ∉ line := notMem_of_mem_splitOn h

theorem unlines_cons_cons (line next : Text) (rest : List Text) :
    unlines (line :: next :: rest) = line ++ CodePoint.ofChar '\n' :: unlines (next :: rest) := by
  simp [unlines, join]

theorem join_cons_cons (separator piece next : Text) (rest : List Text) :
    join separator (piece :: next :: rest) = piece ++ separator ++ join separator (next :: rest) := by
  simp [join]

theorem join_cons (separator piece : Text) (pieces : List Text) :
    join separator (piece :: pieces) = piece ++ pieces.flatMap (separator ++ ·) := by
  induction pieces generalizing piece with
  | nil => simp [join]
  | cons next pieces ih =>
    rw [join_cons_cons, ih, List.flatMap_cons]
    simp only [List.append_assoc]

theorem mem_of_mem_join {separator : Text} {c : CodePoint} {pieces : List Text}
    (h : c ∈ join separator pieces) : c ∈ separator ∨ ∃ piece ∈ pieces, c ∈ piece := by
  cases pieces with
  | nil => cases h
  | cons piece pieces =>
    rw [join_cons] at h
    rcases List.mem_append.1 h with h | h
    · exact .inr ⟨piece, List.mem_cons_self, h⟩
    · obtain ⟨other, hother, h⟩ := List.mem_flatMap.1 h
      exact (List.mem_append.1 h).imp_right fun h => ⟨other, List.mem_cons_of_mem _ hother, h⟩

theorem mem_of_mem_unlines {c : CodePoint} {ls : List Text} (h : c ∈ unlines ls) :
    c = CodePoint.ofChar '\n' ∨ ∃ l ∈ ls, c ∈ l :=
  (mem_of_mem_join h).imp_left List.mem_singleton.1

theorem mem_join_of_mem {separator : Text} {c : CodePoint} {pieces : List Text} {piece : Text}
    (hp : piece ∈ pieces) (hc : c ∈ piece) : c ∈ join separator pieces := by
  induction pieces with
  | nil => cases hp
  | cons first pieces ih =>
    cases pieces with
    | nil =>
      obtain rfl := List.mem_singleton.1 hp
      rwa [join, List.intercalate_singleton]
    | cons next rest =>
      rw [join_cons_cons]
      rcases List.mem_cons.1 hp with rfl | hp
      · exact List.mem_append_left _ (List.mem_append_left _ hc)
      · exact List.mem_append_right _ (ih hp)

theorem mem_of_mem_lines {c : CodePoint} {t line : Text} (hl : line ∈ lines t) (hc : c ∈ line) :
    c ∈ t := by
  rw [← unlines_lines t]
  exact mem_join_of_mem hl hc

/-- A text ends in its last line. -/
theorem suffix_unlines_concat (init : List Text) (last : Text) : last <:+ unlines (init ++ [last]) := by
  induction init with
  | nil => simp [unlines, join]
  | cons line init ih =>
    obtain ⟨next, rest, hrest⟩ := List.exists_cons_of_ne_nil (List.concat_ne_nil last init)
    rw [hrest] at ih
    rw [List.cons_append, hrest, unlines_cons_cons]
    exact ih.trans ((List.suffix_cons _ _).trans (List.suffix_append _ _))

theorem unlines_append {x y : List Text} (hx : x ≠ []) (hy : y ≠ []) :
    unlines (x ++ y) = unlines x ++ CodePoint.ofChar '\n' :: unlines y := by
  induction x with
  | nil => exact absurd rfl hx
  | cons line x ih =>
    cases x with
    | nil =>
      obtain ⟨next, rest, rfl⟩ := List.exists_cons_of_ne_nil hy
      rw [List.singleton_append, unlines_cons_cons, unlines_singleton]
    | cons next rest =>
      rw [List.cons_append, List.cons_append, unlines_cons_cons, unlines_cons_cons,
        ← List.cons_append, ih (List.cons_ne_nil _ _), List.append_assoc, List.cons_append]

/-- Pieces that are put below each other may hold line feeds themselves. -/
theorem lines_unlines_eq_flatMap {pieces : List Text} (h : pieces ≠ []) :
    lines (unlines pieces) = pieces.flatMap lines := by
  have hsame : ∀ pieces : List Text, unlines (pieces.flatMap lines) = unlines pieces := by
    intro pieces
    induction pieces with
    | nil => rfl
    | cons piece pieces ih =>
      cases pieces with
      | nil => rw [List.flatMap_singleton, unlines_lines, unlines_singleton]
      | cons next rest =>
        have hne : (next :: rest).flatMap lines ≠ [] := by simp [lines_ne_nil]
        rw [List.flatMap_cons, unlines_append (lines_ne_nil piece) hne, ih, unlines_lines,
          unlines_cons_cons]
  obtain ⟨piece, hpiece⟩ := List.exists_mem_of_ne_nil pieces h
  have hne : pieces.flatMap lines ≠ [] := by
    obtain ⟨line, hline⟩ := List.exists_mem_of_ne_nil _ (lines_ne_nil piece)
    exact List.ne_nil_of_mem (List.mem_flatMap.2 ⟨piece, hpiece, hline⟩)
  rw [← hsame pieces]
  refine lines_unlines hne fun line hline => ?_
  obtain ⟨piece, -, hline⟩ := List.mem_flatMap.1 hline
  exact newline_notMem_of_mem_lines hline

/-- What is appended to a text on one line is appended to its last line. -/
theorem exists_lines_append (t : Text) :
    ∃ init last, ∀ tail, CodePoint.ofChar '\n' ∉ tail → lines (t ++ tail) = init ++ [last ++ tail] := by
  rcases List.eq_nil_or_concat (lines t) with hnil | ⟨init, last, hlines⟩
  · exact absurd hnil (lines_ne_nil t)
  · rw [List.concat_eq_append] at hlines
    refine ⟨init, last, fun tail htail => ?_⟩
    have hjoined : t ++ tail = unlines (init ++ [last ++ tail]) := by
      conv_lhs => rw [← unlines_lines t, hlines]
      by_cases hinit : init = []
      · rw [hinit, List.nil_append, List.nil_append, unlines_singleton, unlines_singleton]
      · rw [unlines_append hinit (List.cons_ne_nil _ _), unlines_append hinit (List.cons_ne_nil _ _),
          unlines_singleton, unlines_singleton, List.append_assoc, List.cons_append]
    rw [hjoined]
    refine lines_unlines (by simp) fun line hline => ?_
    have hold : ∀ line ∈ init ++ [last], CodePoint.ofChar '\n' ∉ line := by
      intro line hline
      exact newline_notMem_of_mem_lines (hlines ▸ hline)
    rcases List.mem_append.1 hline with hline | hline
    · exact hold line (List.mem_append_left _ hline)
    · rw [List.mem_singleton.1 hline, List.mem_append]
      rintro (hc | hc)
      · exact hold last (by simp) hc
      · exact htail hc

/-- Two texts that differ in one line at most are the same only if it is the same line. -/
theorem unlines_append_cons_inj {before after : List Text} {line other : Text} :
    unlines (before ++ line :: after) = unlines (before ++ other :: after) ↔ line = other := by
  refine ⟨fun h => ?_, fun h => by rw [h]⟩
  induction before with
  | nil =>
    cases after with
    | nil => simpa [unlines, join] using h
    | cons next rest =>
      rw [List.nil_append, List.nil_append, unlines_cons_cons, unlines_cons_cons] at h
      exact List.append_cancel_right h
  | cons first before ih =>
    have hne : ∀ l : Text, ∃ next rest, before ++ l :: after = next :: rest := by
      intro l
      exact List.exists_cons_of_ne_nil (by simp)
    obtain ⟨n₁, r₁, h₁⟩ := hne line
    obtain ⟨n₂, r₂, h₂⟩ := hne other
    rw [List.cons_append, List.cons_append, h₁, h₂, unlines_cons_cons, unlines_cons_cons] at h
    have hrest := (List.cons.inj (List.append_cancel_left h)).2
    rw [← h₁, ← h₂] at hrest
    exact ih hrest

/-! ## Pieces -/

theorem startsWith_iff {t piece : Text} : t.startsWith piece ↔ piece <+: t :=
  List.isPrefixOf_iff_prefix

theorem endsWith_iff {t piece : Text} : t.endsWith piece ↔ piece <:+ t :=
  List.isSuffixOf_iff_suffix

theorem contains_iff {t piece : Text} : t.contains piece ↔ piece <:+: t := by
  induction t with
  | nil => cases piece <;> simp [contains]
  | cons c t ih =>
    rw [contains, Bool.or_eq_true, List.isPrefixOf_iff_prefix, ih, List.infix_cons_iff]

theorem contains_append_left {s : Text} (t : Text) {piece : Text} (h : s.contains piece) :
    (s ++ t : Text).contains piece := by
  rw [contains_iff] at h ⊢
  exact h.trans (List.infix_append [] s t)

theorem contains_eq_false_of_notMem {t piece : Text} {c : CodePoint} (hc : c ∈ piece)
    (ht : c ∉ t) : t.contains piece = false :=
  Bool.eq_false_iff.2 fun h => ht ((contains_iff.1 h).subset hc)

/-- A piece without some code point does not reach over it. -/
theorem contains_append_cons {s t piece : Text} {c : CodePoint} (hc : c ∉ piece)
    (hs : s.contains piece = false) (ht : t.contains piece = false) :
    (s ++ c :: t : Text).contains piece = false := by
  rw [Bool.eq_false_iff, ne_eq, contains_iff] at hs ht ⊢
  intro h
  rcases List.infix_append_iff.1 h with h | h | ⟨p₁, p₂, rfl, h₁, h₂⟩
  · exact hs h
  · rcases List.infix_cons_iff.1 h with h | h
    · rcases List.prefix_cons_iff.1 h with rfl | ⟨p, rfl, -⟩
      · exact hs List.nil_infix
      · exact hc List.mem_cons_self
    · exact ht h
  · rcases List.prefix_cons_iff.1 h₂ with rfl | ⟨p, rfl, -⟩
    · exact hs (by rw [List.append_nil]; exact h₁.isInfix)
    · exact hc (List.mem_append_right _ List.mem_cons_self)

/-- A leading piece does not reach into what lacks its last code point. -/
theorem prefix_of_prefix_append (piece : Text) {s t : Text} {c : CodePoint} (hc : c ∉ t)
    (h : piece ++ [c] <+: s ++ t) : piece ++ [c] <+: s := by
  rcases List.prefix_or_prefix_of_prefix h (List.prefix_append s t) with h' | ⟨r, hr⟩
  · exact h'
  · rw [← hr, List.prefix_append_right_inj] at h
    rcases List.eq_nil_or_concat r with rfl | ⟨init, d, rfl⟩
    · rw [List.append_nil] at hr
      exact hr ▸ List.prefix_rfl
    · rw [List.concat_eq_append, ← List.append_assoc] at hr
      obtain rfl := List.singleton_inj.1 (List.append_inj_right' hr rfl)
      exact absurd (h.subset (by simp)) hc

/-- A piece whose first code point is not in a text does not begin in it. -/
theorem infix_of_infix_append_right {s t piece : Text} {c : CodePoint} (hc : c ∉ s)
    (h : c :: piece <:+: s ++ t) : c :: piece <:+: t := by
  rcases List.infix_append_iff.1 h with h | h | ⟨p₁, p₂, hp, h₁, h₂⟩
  · exact absurd (h.subset List.mem_cons_self) hc
  · exact h
  · cases p₁ with
    | nil => exact hp ▸ h₂.isInfix
    | cons d p₁ =>
      obtain ⟨rfl, -⟩ := List.cons.inj hp
      exact absurd (h₁.subset List.mem_cons_self) hc

/-- A piece whose last code point is not in a text does not end in it. -/
theorem infix_of_infix_append_left {s t piece : Text} {c : CodePoint} (hc : c ∉ t)
    (h : piece ++ [c] <:+: s ++ t) : piece ++ [c] <:+: s := by
  rcases List.infix_append_iff.1 h with h | h | ⟨p₁, p₂, hp, h₁, h₂⟩
  · exact h
  · exact absurd (h.subset (by simp)) hc
  · rcases List.eq_nil_or_concat p₂ with rfl | ⟨init, d, rfl⟩
    · rw [hp, List.append_nil]
      exact h₁.isInfix
    · rw [List.concat_eq_append, ← List.append_assoc] at hp
      obtain rfl := List.singleton_inj.1 (List.append_inj_right' hp rfl)
      exact absurd (h₂.subset (by simp)) hc

/-! ## Blanks at the ends -/

/-- A text is its trimmed part and the blanks that follow it. -/
theorem exists_eq_stripEnd_append (t : Text) :
    ∃ blanks, t = stripEnd t ++ blanks ∧ ∀ c ∈ blanks, c.isBlank :=
  ⟨t.rtakeWhile CodePoint.isBlank, (List.rdropWhile_append_rtakeWhile ..).symm,
    fun _ => List.mem_rtakeWhile_imp⟩

theorem stripEnd_append {blanks : Text} (h : ∀ c ∈ blanks, c.isBlank) (t : Text) :
    stripEnd (t ++ blanks) = stripEnd t := by
  rw [stripEnd, trimEnd, List.reverse_append, List.dropWhile_append_of_pos (by simpa using h)]; rfl

theorem stripEnd_concat {c : CodePoint} (h : c.isBlank = false) (t : Text) :
    stripEnd (t ++ [c]) = t ++ [c] :=
  List.rdropWhile_concat_neg _ _ _ (by simp [h])

theorem stripStart_append {blanks : Text} (h : ∀ c ∈ blanks, c.isBlank) (t : Text) :
    stripStart (blanks ++ t) = stripStart t :=
  List.dropWhile_append_of_pos h

theorem stripStart_cons {c : CodePoint} (h : c.isBlank = false) (t : Text) :
    stripStart (c :: t) = c :: t :=
  List.dropWhile_cons_of_neg (by simp [h])

/-- A text is the blanks before its trimmed part and that part. -/
theorem exists_eq_append_stripStart (t : Text) :
    ∃ blanks, t = blanks ++ stripStart t ∧ ∀ c ∈ blanks, c.isBlank :=
  ⟨t.takeWhile CodePoint.isBlank, List.takeWhile_append_dropWhile.symm,
    fun _ => List.mem_takeWhile_imp⟩

/-- A text is its stripped part between blanks. -/
theorem exists_eq_strip (t : Text) :
    ∃ before after, t = before ++ strip t ++ after ∧ (∀ c ∈ before, c.isBlank) ∧
      ∀ c ∈ after, c.isBlank := by
  obtain ⟨before, ht, hb⟩ := exists_eq_append_stripStart t
  obtain ⟨after, hs, ha⟩ := exists_eq_stripEnd_append (stripStart t)
  refine ⟨before, after, ?_, hb, ha⟩
  rw [List.append_assoc]
  exact ht.trans (congrArg (before ++ ·) hs)

theorem strip_append {blanks : Text} (h : ∀ c ∈ blanks, c.isBlank) (t : Text) :
    strip (t ++ blanks) = strip t := by
  show stripEnd (List.dropWhile _ _) = stripEnd (List.dropWhile _ _)
  rw [List.dropWhile_append]
  split
  · rename_i ht
    rw [List.isEmpty_iff.1 ht, List.dropWhile_eq_nil_iff.2 h]
  · exact stripEnd_append h _

/-- A text between code points that are not blank is stripped already. -/
theorem strip_of_ends {c d : CodePoint} (hc : c.isBlank = false) (hd : d.isBlank = false)
    (t : Text) : strip (c :: t ++ [d]) = c :: t ++ [d] := by
  show stripEnd (stripStart (c :: (t ++ [d]))) = _
  rw [stripStart_cons hc, ← List.cons_append, stripEnd_concat hd]

/-! ## Uniform line ends -/

theorem uniformLines_of_notMem {t : Text} (h : CodePoint.ofChar '\r' ∉ t) : t.uniformLines = t := by
  induction t with
  | nil => rfl
  | cons c t ih =>
    rw [List.mem_cons, not_or] at h
    unfold uniformLines
    rw [if_neg (Ne.symm h.1), ih h.2]

theorem return_notMem_uniformLines (t : Text) : CodePoint.ofChar '\r' ∉ t.uniformLines := by
  have hfeed {t : Text} (h : CodePoint.ofChar '\r' ∉ t) :
      CodePoint.ofChar '\r' ∉ CodePoint.ofChar '\n' :: t :=
    List.not_mem_cons_of_ne_of_not_mem (by decide) h
  fun_induction uniformLines t with
  | case1 => exact List.not_mem_nil
  | case2 => decide
  | case3 rest ih => exact hfeed ih
  | case4 d rest hd ih => exact hfeed ih
  | case5 c rest hc ih => exact List.not_mem_cons_of_ne_of_not_mem (Ne.symm hc) ih

theorem uniformLines_eq_self_iff {t : Text} : t.uniformLines = t ↔ CodePoint.ofChar '\r' ∉ t :=
  ⟨fun h => h ▸ return_notMem_uniformLines t, uniformLines_of_notMem⟩

end Routewright.Text
