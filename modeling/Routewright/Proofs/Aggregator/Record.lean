/-
What the lines of an aggregator are taken for: how imports and registrations are recognised, which
changes of a line keep what it is, and that the lines a manifest writes are recognised as its own.
-/
import Routewright.Aggregator.Edit
import Routewright.Proofs.Text.Lines

namespace Routewright.Aggregator

/-! ## Code points -/

/-- The numbers of the blank code points. -/
def blankNumbers : List Nat := [
  9, 10, 11, 12, 13, 28, 29, 30, 31, 32, 0x85, 0xa0, 0x1680, 0x2000, 0x2001, 0x2002, 0x2003, 0x2004,
  0x2005, 0x2006, 0x2007, 0x2008, 0x2009, 0x200a, 0x2028, 0x2029, 0x202f, 0x205f, 0x3000]

theorem val_mem_blankNumbers {c : CodePoint} (h : c.isBlank) : c.val ∈ blankNumbers := by
  simp only [CodePoint.isBlank, Bool.or_eq_true, Bool.and_eq_true, decide_eq_true_eq,
    beq_iff_eq] at h
  simp only [blankNumbers, List.mem_cons, List.not_mem_nil, or_false]
  omega

theorem isWord_of_mem_blankNumbers :
    ∀ n ∈ blankNumbers, (CodePoint.ofNat n).isWord = false := by
  decide +kernel

theorem isWord_of_isBlank {c : CodePoint} (h : c.isBlank) : c.isWord = false := by
  -- the blanks are few, so their numbers are gone through
  have hc : CodePoint.ofNat c.val = c := by rw [CodePoint.ofNat, dif_pos c.lt]
  rw [← hc]
  exact isWord_of_mem_blankNumbers c.val (val_mem_blankNumbers h)

theorem isBlank_of_isWord {c : CodePoint} (h : c.isWord) : c.isBlank = false := by
  cases hb : c.isBlank
  · rfl
  · rw [isWord_of_isBlank hb] at h; cases h

/-! ## Registrations -/

/-- A name that can stand in an import and in a registration. -/
structure IsName (name : Text) : Prop where
  ne_nil : name ≠ []
  word : ∀ c ∈ name, c.isWord

theorem takeWord?_append {name rest : Text} (hn : IsName name)
    (hr : ∀ c, rest.head? = some c → c.isWord = false) :
    takeWord? (name ++ rest) = some (name, rest) := by
  have htake : rest.takeWhile CodePoint.isWord = [] := by
    cases rest with
    | nil => rfl
    | cons c rest => exact List.takeWhile_cons_of_neg (by simp [hr c rfl])
  have hdrop : rest.dropWhile CodePoint.isWord = rest := by
    cases rest with
    | nil => rfl
    | cons c rest => exact List.dropWhile_cons_of_neg (by simp [hr c rfl])
  unfold takeWord?
  rw [List.takeWhile_append_of_pos hn.word, List.dropWhile_append_of_pos hn.word, htake, hdrop,
    List.append_nil]
  split
  · exact absurd rfl hn.ne_nil
  · rfl

theorem eq_append_of_takeWord? {t name rest : Text} (h : takeWord? t = some (name, rest)) :
    t = name ++ rest ∧ IsName name := by
  unfold takeWord? at h
  split at h
  · cases h
  · rename_i hne
    simp only [Option.some.injEq, Prod.mk.injEq] at h
    obtain ⟨rfl, rfl⟩ := h
    exact ⟨List.takeWhile_append_dropWhile.symm, hne, fun _ => List.mem_takeWhile_imp⟩

/-- A registration at the start of a text. -/
theorem useAt?_eq_some_iff {t name : Text} :
    useAt? t = some name ↔ IsName name ∧ useCall ++ name ++ [CodePoint.ofChar ')'] <+: t := by
  constructor
  · intro h
    simp only [useAt?, Text.dropStart?, Option.bind_eq_bind, Option.bind_eq_some_iff,
      List.isPrefixOf?_eq_some_iff_append_eq, Prod.exists] at h
    obtain ⟨t, rfl, other, rest, ht, h⟩ := h
    obtain ⟨rfl, hn⟩ := eq_append_of_takeWord? ht
    split at h
    · rename_i hr
      obtain ⟨rest, rfl⟩ := List.head?_eq_some_iff.1 hr
      obtain rfl := Option.some.inj h
      exact ⟨hn, rest, by simp⟩
    · cases h
  · rintro ⟨hn, rest, rfl⟩
    -- the word stops at the bracket, which no name holds
    have hw : takeWord? (name ++ CodePoint.ofChar ')' :: rest) =
        some (name, CodePoint.ofChar ')' :: rest) :=
      takeWord?_append hn fun c hc => by
        obtain rfl := Option.some.inj hc
        decide
    have hd : Text.dropStart? useCall (useCall ++ name ++ [CodePoint.ofChar ')'] ++ rest) =
        some (name ++ CodePoint.ofChar ')' :: rest) :=
      List.isPrefixOf?_eq_some_iff_append_eq.2 (by simp)
    rw [useAt?, hd, Option.bind_eq_bind, Option.bind_some, hw]
    rfl

/-- A text with nothing but blanks and semicolons. -/
def IsInert (t : Text) : Prop := ∀ c ∈ t, c.isBlank ∨ c = CodePoint.ofChar ';'

theorem IsInert.paren_notMem {t : Text} (h : IsInert t) : CodePoint.ofChar ')' ∉ t := by
  intro hc
  rcases h _ hc with h | h
  · exact absurd h (by decide)
  · exact absurd h (by decide)

theorem useAt?_append {s : Text} (hs : IsInert s) (t : Text) : useAt? (t ++ s) = useAt? t := by
  refine Option.ext fun name => ?_
  rw [useAt?_eq_some_iff, useAt?_eq_some_iff]
  refine and_congr_right fun _ => ⟨fun h => ?_, fun h => h.trans (List.prefix_append t s)⟩
  exact Text.prefix_of_prefix_append _ hs.paren_notMem h

theorem useOf?_of_useAt? {t name : Text} (h : useAt? t = some name) : useOf? t = some name := by
  cases t with
  | nil => cases h
  | cons c rest => rw [useOf?, h]

theorem useOf?_of_notMem {t : Text} (h : CodePoint.ofChar ')' ∉ t) : useOf? t = none := by
  induction t with
  | nil => rfl
  | cons c t ih =>
    have hat : useAt? (c :: t) = none := by
      refine Option.eq_none_iff_forall_ne_some.2 fun name hname => ?_
      exact h ((useAt?_eq_some_iff.1 hname).2.subset (by simp))
    rw [useOf?, hat, ih fun hm => h (List.mem_cons_of_mem _ hm)]

/-- What is inert at the end of a line does not matter. -/
theorem useOf?_append {s : Text} (hs : IsInert s) (t : Text) : useOf? (t ++ s) = useOf? t := by
  induction t with
  | nil => exact useOf?_of_notMem hs.paren_notMem
  | cons c t ih => rw [List.cons_append, useOf?, useOf?, ← List.cons_append, useAt?_append hs, ih]

theorem useAt?_cons_of_isBlank {c : CodePoint} (h : c.isBlank) (t : Text) :
    useAt? (c :: t) = none := by
  refine Option.eq_none_iff_forall_ne_some.2 fun name hname => ?_
  have hprefix := (useAt?_eq_some_iff.1 hname).2
  rw [useCall, List.append_assoc] at hprefix
  obtain rfl : CodePoint.ofChar '.' = c := (List.cons_prefix_cons.1 hprefix).1
  exact absurd h (by decide)

theorem useOf?_append_right {blanks : Text} (h : ∀ c ∈ blanks, c.isBlank) (t : Text) :
    useOf? (blanks ++ t) = useOf? t := by
  induction blanks with
  | nil => rfl
  | cons c blanks ih =>
    rw [List.cons_append, useOf?, useAt?_cons_of_isBlank (h c List.mem_cons_self)]
    exact ih fun d hd => h d (List.mem_cons_of_mem _ hd)

theorem useOf?_strip (line : Text) : useOf? line.strip = useOf? line := by
  obtain ⟨before, after, h, hb, ha⟩ := Text.exists_eq_strip line
  conv_rhs => rw [h]
  rw [useOf?_append fun c hc => .inl (ha c hc), useOf?_append_right hb]

/-! ## Imports -/

/-- Whether a line starts like an import, blanks aside. -/
def opensImport (line : Text) : Bool := line.strip.startsWith "import"

theorem opensImport_iff {line : Text} :
    opensImport line ↔ Text.ofString "import" <+: line.stripStart := by
  rw [opensImport, Text.startsWith_iff]
  obtain ⟨blanks, h, hb⟩ := Text.exists_eq_stripEnd_append line.stripStart
  constructor
  · intro hi
    rw [h]
    exact hi.trans (List.prefix_append _ _)
  · intro hi
    rw [h] at hi
    -- the word ends in a code point that is not blank, so it does not reach into the blanks
    have ht : CodePoint.ofChar 't' ∉ blanks := fun ht => absurd (hb _ ht) (by decide)
    exact Text.prefix_of_prefix_append "impor" ht hi

/-- What is inert at the end of a line does not make it an import. -/
theorem opensImport_append {s : Text} (hs : IsInert s) (t : Text) :
    opensImport (t ++ s) = opensImport t := by
  have ht : CodePoint.ofChar 't' ∉ s := by
    intro ht
    rcases hs _ ht with h | h
    · exact absurd h (by decide)
    · exact absurd h (by decide)
  rw [Bool.eq_iff_iff, opensImport_iff, opensImport_iff]
  show _ <+: List.dropWhile _ _ ↔ _ <+: List.dropWhile _ _
  rw [List.dropWhile_append]
  split
  · -- all of the text is blank, and what is inert holds no word
    rename_i he
    rw [List.isEmpty_iff.1 he]
    refine iff_of_false (fun h => ht ?_) (fun h => ?_)
    · exact (List.dropWhile_suffix _).subset (h.subset (by decide))
    · cases List.prefix_nil.1 h
  · exact ⟨Text.prefix_of_prefix_append "impor" ht, fun h => h.trans (List.prefix_append _ _)⟩

theorem startsWith_of_importOf? {code name path : Text} (h : importOf? code = some (name, path)) :
    code.startsWith "import" := by
  simp only [importOf?, Option.bind_eq_bind, Option.bind_eq_some_iff] at h
  obtain ⟨rest, hrest, -⟩ := h
  rw [Text.dropStart?, List.isPrefixOf?_eq_some_iff_append_eq] at hrest
  exact Text.startsWith_iff.2 ⟨rest, hrest⟩

theorem dropEnd?_append (t piece : Text) : Text.dropEnd? piece (t ++ piece) = some t := by
  rw [Text.dropEnd?, if_pos (List.isSuffixOf_iff_suffix.2 (List.suffix_append t piece)),
    List.length_append, Nat.add_sub_cancel, List.take_left]

theorem closedPath?_append {path : Text} (he : path.endsWith pathEnd)
    (hl : pathEnd.length < path.length) :
    closedPath? (path ++ ("\"" : Text) ++ (";" : Text)) = some path := by
  rw [closedPath?, dropEnd?_append, Option.getD_some]
  simp [Text.ofString, isQuote, he, hl]

theorem skipBlanks?_space {c : CodePoint} (h : c.isBlank = false) (t : Text) :
    skipBlanks? ((" " : Text) ++ c :: t) = some (c :: t) := by
  show some (List.dropWhile _ (c :: t)) = _
  rw [List.dropWhile_cons_of_neg (by simp [h])]

theorem importOf?_importStatement {m : Manifest} (hn : IsName m.variableName)
    (he : m.importPath.endsWith pathEnd) (hl : pathEnd.length < m.importPath.length) :
    importOf? m.importStatement = some (m.variableName, m.importPath) := by
  obtain ⟨c, rest, hc⟩ := List.exists_cons_of_ne_nil hn.ne_nil
  have hblank : c.isBlank = false := isBlank_of_isWord (hn.word c (by simp [hc]))
  -- what is left of the statement after each of the steps that read it
  let quoted : Text := ("\"" : Text) ++ (m.importPath ++ (("\"" : Text) ++ (";" : Text)))
  let afterName : Text := (" " : Text) ++ (("from" : Text) ++ ((" " : Text) ++ quoted))
  have h₁ : Text.dropStart? "import" m.importStatement =
      some ((" " : Text) ++ (m.variableName ++ afterName)) := by
    refine List.isPrefixOf?_eq_some_iff_append_eq.2 ?_
    simp only [Manifest.importStatement, List.append_assoc]
    rfl
  have h₂ : skipBlanks? ((" " : Text) ++ (m.variableName ++ afterName)) =
      some (m.variableName ++ afterName) := by rw [hc]; exact skipBlanks?_space hblank _
  have h₃ : takeWord? (m.variableName ++ afterName) = some (m.variableName, afterName) :=
    takeWord?_append hn fun d hd => by
      obtain rfl := Option.some.inj hd
      decide
  have h₄ : skipBlanks? afterName = some (("from" : Text) ++ ((" " : Text) ++ quoted)) := rfl
  have h₅ : Text.dropStart? "from" (("from" : Text) ++ ((" " : Text) ++ quoted)) =
      some ((" " : Text) ++ quoted) := List.isPrefixOf?_eq_some_iff_append_eq.2 rfl
  have h₆ : skipBlanks? ((" " : Text) ++ quoted) = some quoted := rfl
  have h₇ : closedPath? (m.importPath ++ (("\"" : Text) ++ (";" : Text))) = some m.importPath := by
    rw [← List.append_assoc]; exact closedPath?_append he hl
  simp only [importOf?, Option.bind_eq_bind, Option.bind_some, h₁, h₂, h₃, h₄, h₅, h₆]
  exact congrArg (Option.map fun path => (m.variableName, path)) h₇

theorem eq_append_of_dropStart? {piece t rest : Text} (h : Text.dropStart? piece t = some rest) :
    t = piece ++ rest :=
  (List.isPrefixOf?_eq_some_iff_append_eq.1 h).symm

theorem eq_append_of_skipBlanks? {t rest : Text} (h : skipBlanks? t = some rest) :
    ∃ blanks, t = blanks ++ rest ∧ ∀ c ∈ blanks, c.isBlank := by
  cases t with
  | nil => cases h
  | cons c t =>
    rw [skipBlanks?] at h
    split at h
    · rename_i hc
      obtain rfl := Option.some.inj h
      refine ⟨c :: t.takeWhile CodePoint.isBlank, ?_, fun d hd => ?_⟩
      · rw [List.cons_append, List.takeWhile_append_dropWhile]
      · rcases List.mem_cons.1 hd with rfl | hd
        · exact hc
        · exact List.mem_takeWhile_imp hd
    · cases h

theorem eq_append_of_dropEnd? {piece t rest : Text} (h : Text.dropEnd? piece t = some rest) :
    t = rest ++ piece := by
  rw [Text.dropEnd?] at h
  split at h
  · rename_i hs
    obtain rfl := Option.some.inj h
    obtain ⟨init, rfl⟩ := List.isSuffixOf_iff_suffix.1 hs
    rw [List.length_append, Nat.add_sub_cancel, List.take_left]
  · cases h

theorem eq_append_of_closedPath? {t path : Text} (h : closedPath? t = some path) :
    (∃ tail, t = path ++ tail ∧ ∀ c ∈ tail, isQuote c ∨ c = CodePoint.ofChar ';') ∧
      path.endsWith pathEnd ∧ pathEnd.length < path.length := by
  -- the closing quote ends what precedes the semicolon, if there is one
  have hbody : ∃ tail, t = (Text.dropEnd? ";" t).getD t ++ tail ∧
      ∀ c ∈ tail, c = CodePoint.ofChar ';' := by
    cases hd : Text.dropEnd? ";" t with
    | none => exact ⟨[], by simp, by simp⟩
    | some rest =>
      exact ⟨";", eq_append_of_dropEnd? hd, fun c hc => List.mem_singleton.1 hc⟩
  obtain ⟨tail, ht, htail⟩ := hbody
  rw [closedPath?] at h
  dsimp only at h
  split at h
  · rename_i quote hlast
    split at h
    · rename_i hcond
      obtain rfl := Option.some.inj h
      refine ⟨⟨quote :: tail, ?_, fun c hc => ?_⟩, hcond.2⟩
      · obtain ⟨init, hinit⟩ := List.getLast?_eq_some_iff.1 hlast
        rw [hinit] at ht ⊢
        rw [List.dropLast_concat]
        simpa using ht
      · rcases List.mem_cons.1 hc with rfl | hc
        · exact .inl hcond.1
        · exact .inr (htail c hc)
    · cases h
  · cases h

/-- What a recognised import is: its path, with neither a dot before it nor a bracket after it. -/
theorem eq_append_of_importOf? {code name path : Text} (h : importOf? code = some (name, path)) :
    (∃ head tail, code = head ++ path ++ tail ∧ CodePoint.ofChar '.' ∉ head ∧
      CodePoint.ofChar '(' ∉ tail) ∧ path.endsWith pathEnd ∧ pathEnd.length < path.length := by
  simp only [importOf?, Option.bind_eq_bind, Option.bind_eq_some_iff] at h
  obtain ⟨r₁, h₁, r₂, h₂, ⟨word, r₃⟩, h₃, r₄, h₄, r₅, h₅, r₆, h₆, h⟩ := h
  split at h
  · cases h
  · rename_i quote rest
    split at h
    · rename_i hquote
      obtain ⟨found, hfound, hpair⟩ := Option.map_eq_some_iff.1 h
      obtain ⟨rfl, rfl⟩ := Prod.mk.inj hpair
      obtain ⟨⟨tail, hrest, htail⟩, hpath⟩ := eq_append_of_closedPath? hfound
      obtain ⟨b₁, hb₁, hblank₁⟩ := eq_append_of_skipBlanks? h₂
      obtain ⟨hw, hname⟩ := eq_append_of_takeWord? h₃
      obtain ⟨b₂, (hb₂ : r₃ = b₂ ++ r₄), hblank₂⟩ := eq_append_of_skipBlanks? h₄
      obtain ⟨b₃, hb₃, hblank₃⟩ := eq_append_of_skipBlanks? h₆
      have hcode : code = (("import" : Text) ++ b₁ ++ word ++ b₂ ++ ("from" : Text) ++ b₃ ++
          [quote]) ++ found ++ tail := by
        rw [eq_append_of_dropStart? h₁, hb₁, hw, hb₂, eq_append_of_dropStart? h₅, hb₃, hrest]
        simp
      refine ⟨⟨_, tail, hcode, ?_, ?_⟩, hpath⟩
      · have hblank : ∀ b : Text, (∀ c ∈ b, c.isBlank) → CodePoint.ofChar '.' ∉ b :=
          fun b hb hc => absurd (hb _ hc) (by decide)
        have hword : CodePoint.ofChar '.' ∉ word := fun hc => absurd (hname.word _ hc) (by decide)
        have hq : CodePoint.ofChar '.' ≠ quote := by
          rintro rfl
          exact absurd hquote (by decide)
        simp [Text.ofString, hblank b₁ hblank₁, hblank b₂ hblank₂, hblank b₃ hblank₃, hword, hq]
      · intro hc
        rcases htail _ hc with hc | hc
        · exact absurd hc (by decide)
        · exact absurd hc (by decide)
    · cases h

/-! ## Kinds of lines -/

theorem lineKind_eq (line : Text) :
    lineKind line = match importOf? line.strip with
      | some (name, path) => .importOf name path
      | none =>
        match useOf? line with
        | some name => .useOf name
        | none => .other := by
  rw [← useOf?_strip]; rfl

/-- A line that does not start like an import goes by its registration. -/
theorem lineKind_of_not_opensImport {line : Text} (h : opensImport line = false) :
    lineKind line = match useOf? line with
      | some name => .useOf name
      | none => .other := by
  have hnone : importOf? line.strip = none := by
    refine Option.eq_none_iff_forall_ne_some.2 fun p hp => ?_
    rw [opensImport, startsWith_of_importOf? hp] at h
    cases h
  rw [lineKind_eq, hnone]

theorem opensImport_of_lineKind {line name path : Text} (h : lineKind line = .importOf name path) :
    opensImport line := by
  cases ho : opensImport line
  · rw [lineKind_of_not_opensImport ho] at h
    split at h <;> cases h
  · rfl

theorem importOf?_of_lineKind {line name path : Text} (h : lineKind line = .importOf name path) :
    importOf? line.strip = some (name, path) := by
  rw [lineKind_eq] at h
  split at h
  · rename_i hi
    obtain ⟨rfl, rfl⟩ := LineKind.importOf.inj h
    exact hi
  · split at h <;> cases h

/-! ## Lines of manifests -/

/-- A manifest whose import and registration are recognised where they are written. -/
structure IsReadable (m : Manifest) : Prop where
  name : IsName m.variableName
  ending : m.importPath.endsWith pathEnd
  longer : pathEnd.length < m.importPath.length
  newline : CodePoint.ofChar '\n' ∉ m.importPath
  call : m.importPath.contains useCall = false

/-- A manifest whose registration other registrations can follow. -/
structure IsRecognisable (m : Manifest) : Prop extends IsReadable m where
  routes : m.variableName.endsWith routesMark

theorem IsName.notMem {name : Text} (hn : IsName name) {c : CodePoint} (h : c.isWord = false) :
    c ∉ name := by
  intro hc
  rw [hn.word c hc] at h
  cases h

theorem importStatement_eq (m : Manifest) :
    m.importStatement = (("import " : Text) ++ m.variableName ++ (" from " : Text)) ++
      CodePoint.ofChar '"' :: (m.importPath ++ CodePoint.ofChar '"' :: (";" : Text)) := by
  simp [Manifest.importStatement, Text.ofString]

theorem useStatement_eq (m : Manifest) :
    m.useStatement = ("  " : Text) ++ (useCall ++ m.variableName ++ [CodePoint.ofChar ')']) := by
  simp [Manifest.useStatement, useCall, Text.ofString]

theorem strip_importStatement (m : Manifest) {cr : Text} (hcr : ∀ c ∈ cr, c.isBlank) :
    Text.strip (m.importStatement ++ cr) = m.importStatement := by
  have h : m.importStatement = CodePoint.ofChar 'i' :: (("mport " : Text) ++ m.variableName ++
      (" from \"" : Text) ++ m.importPath ++ ("\"" : Text)) ++ [CodePoint.ofChar ';'] := by
    simp [Manifest.importStatement, Text.ofString]
  rw [Text.strip_append hcr, h]
  exact Text.strip_of_ends (by decide) (by decide) _

theorem opensImport_useStatement (m : Manifest) (t : Text) :
    opensImport (m.useStatement ++ t) = false := by
  have h : Text.stripStart (m.useStatement ++ t) =
      CodePoint.ofChar '.' :: (("use(" : Text) ++ m.variableName ++ (")" : Text) ++ t) := by
    have h' : m.useStatement ++ t = ("  " : Text) ++ CodePoint.ofChar '.' ::
        (("use(" : Text) ++ m.variableName ++ (")" : Text) ++ t) := by
      simp [Manifest.useStatement, Text.ofString]
    rw [h', Text.stripStart_append (by decide), Text.stripStart_cons (by decide)]
  refine Bool.eq_false_iff.2 fun hi => ?_
  rw [opensImport_iff, h] at hi
  exact absurd (List.cons_prefix_cons.1 hi).1 (by decide)

section Statements

variable {m : Manifest} (hm : IsReadable m) {cr : Text}
include hm

theorem lineKind_importStatement (hcr : ∀ c ∈ cr, c.isBlank) :
    lineKind (m.importStatement ++ cr) = .importOf m.variableName m.importPath := by
  rw [lineKind_eq, strip_importStatement m hcr,
    importOf?_importStatement hm.name hm.ending hm.longer]

theorem not_contains_importStatement (hcr : ∀ c ∈ cr, c.isBlank) :
    (m.importStatement ++ cr : Text).contains useCall = false := by
  have hquote : CodePoint.ofChar '"' ∉ useCall := by decide
  have hname : CodePoint.ofChar '(' ∉ m.variableName := hm.name.notMem (by decide)
  have hparen : CodePoint.ofChar '(' ∉ cr := fun h => absurd (hcr _ h) (by decide)
  have h : m.importStatement ++ cr = (("import " : Text) ++ m.variableName ++ (" from " : Text)) ++
      CodePoint.ofChar '"' :: (m.importPath ++ CodePoint.ofChar '"' :: ((";" : Text) ++ cr)) := by
    simp [importStatement_eq]
  rw [h]
  refine Text.contains_append_cons hquote ?_ (Text.contains_append_cons hquote hm.call ?_)
  · exact Text.contains_eq_false_of_notMem (c := CodePoint.ofChar '(') (by decide)
      (by simp [Text.ofString, hname])
  · exact Text.contains_eq_false_of_notMem (c := CodePoint.ofChar '(') (by decide)
      (by simp [Text.ofString, hparen])

end Statements

section Names

variable {m : Manifest} (hn : IsName m.variableName) {cr : Text}
include hn

theorem newline_notMem_importStatement (hp : CodePoint.ofChar '\n' ∉ m.importPath)
    (hcr : CodePoint.ofChar '\n' ∉ cr) : CodePoint.ofChar '\n' ∉ m.importStatement ++ cr := by
  have hname : CodePoint.ofChar '\n' ∉ m.variableName := hn.notMem (by decide)
  simp [Manifest.importStatement, Text.ofString, hname, hp, hcr]

theorem newline_notMem_useStatement (hcr : CodePoint.ofChar '\n' ∉ cr) :
    CodePoint.ofChar '\n' ∉ m.useStatement ++ cr := by
  have hname : CodePoint.ofChar '\n' ∉ m.variableName := hn.notMem (by decide)
  simp [Manifest.useStatement, Text.ofString, hname, hcr]

theorem lineKind_useStatement {tail : Text} (ht : IsInert tail) :
    lineKind (m.useStatement ++ tail) = .useOf m.variableName := by
  have hskip : useOf? m.useStatement =
      useOf? (useCall ++ m.variableName ++ [CodePoint.ofChar ')']) := by
    rw [useStatement_eq, useOf?_append_right (by decide)]
  have hat : useAt? (useCall ++ m.variableName ++ [CodePoint.ofChar ')']) =
      some m.variableName := useAt?_eq_some_iff.2 ⟨hn, List.prefix_rfl⟩
  have huse : useOf? (m.useStatement ++ tail) = some m.variableName := by
    rw [useOf?_append ht, hskip]
    exact useOf?_of_useAt? hat
  rw [lineKind_of_not_opensImport (opensImport_useStatement m tail), huse]

end Names

theorem isAnchor_useStatement {m : Manifest} (hm : IsRecognisable m) (t : Text) :
    isAnchor (m.useStatement ++ t) := by
  have hcall : Text.contains (m.useStatement ++ t) useCall := by
    refine Text.contains_iff.2 ⟨"  ", m.variableName ++ (")" : Text) ++ t, ?_⟩
    simp [useStatement_eq, Text.ofString]
  have hmark : Text.contains (m.useStatement ++ t) routesMark := by
    refine Text.contains_append_left t (Text.contains_iff.2 ?_)
    rw [useStatement_eq]
    refine (Text.endsWith_iff.1 hm.routes).isInfix.trans ?_
    exact ⟨("  " : Text) ++ useCall, [CodePoint.ofChar ')'], by simp⟩
  rw [isAnchor, hcall, hmark]; rfl

end Routewright.Aggregator
