/-
Chains of calls over several lines. A line that starts with a dot goes on with the statement of the
line before it, blank lines and comments aside, so that line may not end a statement itself. Where
the code of a line ends is told by a scan that knows strings and comments; an addition only looks at
how the anchor ends. The main statement says which texts an addition leaves chained all the same.
-/
import Routewright.Proofs.Aggregator.Deletion

namespace Routewright.Aggregator

/-! ## The code of a line -/

/-- Where in a line a code point stands: in code, in a string, or behind a backslash in a string. -/
inductive Spot where
  | code
  | string (quote : CodePoint)
  | escape (quote : CodePoint)
deriving DecidableEq

/-- What a string may start with, and ends with then. -/
def stringQuotes : Text := "\"'`"

/-- The spot behind a code point. -/
def Spot.next : Spot → CodePoint → Spot
  | code, c => if c ∈ stringQuotes then string c else code
  | string quote, c =>
    if c = CodePoint.ofChar '\\' then escape quote else if c = quote then code else string quote
  | escape quote, _ => string quote

/-- The part of a line before the first two slashes that stand in code. -/
def beforeComment : Spot → Text → Text
  | _, [] => []
  | spot, c :: rest =>
    if spot = .code ∧ Text.startsWith (c :: rest) "//" then []
    else c :: beforeComment (spot.next c) rest

/-- The code of a line, without blanks at its end. -/
def codeOf (line : Text) : Text := (beforeComment .code line).stripEnd

/-- Whether a statement may go on behind a line. -/
def isOpen (line : Text) : Bool := !(codeOf line).isEmpty && !(codeOf line).endsWith ";"

/-- Whether a line is blank or a comment. -/
def isSkipped (line : Text) : Bool := line.stripStart.isEmpty || line.stripStart.startsWith "//"

theorem isSkipped_of_startsLink {line : Text} (h : startsLink line) : isSkipped line = false := by
  obtain ⟨rest, hrest⟩ := List.head?_eq_some_iff.1 (startsLink_iff.1 h)
  rw [isSkipped, hrest]
  rfl

theorem startsLink_of_isSkipped {line : Text} (h : isSkipped line) : startsLink line = false := by
  refine Bool.eq_false_iff.2 fun hlink => ?_
  rw [isSkipped_of_startsLink hlink] at h
  cases h

/-- Without a slash there is no comment. -/
theorem beforeComment_of_notMem {t : Text} (h : CodePoint.ofChar '/' ∉ t) (spot : Spot) :
    beforeComment spot t = t := by
  induction t generalizing spot with
  | nil => rfl
  | cons c rest ih =>
    have hno : ¬Text.startsWith (c :: rest) "//" := by
      rw [Text.startsWith_iff]
      intro hslashes
      exact h (hslashes.subset List.mem_cons_self)
    rw [beforeComment, if_neg fun hc => hno hc.2, ih fun hc => h (List.mem_cons_of_mem _ hc)]

/-- Blanks hold neither strings nor comments. -/
theorem beforeComment_append {blanks : Text} (h : ∀ c ∈ blanks, c.isBlank) (t : Text) :
    beforeComment .code (blanks ++ t) = blanks ++ beforeComment .code t := by
  induction blanks with
  | nil => rfl
  | cons c blanks ih =>
    have hc := h c List.mem_cons_self
    have hno : ¬Text.startsWith (c :: (blanks ++ t)) "//" := by
      rw [Text.startsWith_iff]
      intro hslashes
      rw [← (List.cons_prefix_cons.1 hslashes).1] at hc
      exact absurd hc (by decide)
    have hquote : c ∉ stringQuotes := by
      intro hquote
      have hall : ∀ q ∈ stringQuotes, q.isBlank = false := by decide
      rw [hall c hquote] at hc
      cases hc
    rw [List.cons_append, beforeComment, if_neg fun hcomment => hno hcomment.2, Spot.next,
      if_neg hquote, ih fun d hd => h d (List.mem_cons_of_mem _ hd)]
    rfl

/-- No statement goes on behind a blank line or a comment alone. -/
theorem isOpen_of_isSkipped {line : Text} (h : isSkipped line) : isOpen line = false := by
  obtain ⟨blanks, hline, hb⟩ := Text.exists_eq_append_stripStart line
  have hnone : beforeComment .code line.stripStart = [] := by
    rw [isSkipped, Bool.or_eq_true, List.isEmpty_iff] at h
    rcases h with hnil | hslashes
    · rw [hnil]
      rfl
    · cases hstart : line.stripStart with
      | nil => rfl
      | cons c rest =>
        rw [hstart] at hslashes
        rw [beforeComment, if_pos ⟨rfl, hslashes⟩]
  have hcode : codeOf line = [] := by
    rw [codeOf, hline, beforeComment_append hb, hnone, List.append_nil]
    exact Text.stripEnd_append hb []
  rw [isOpen, hcode]
  rfl

/-! ## Chains -/

/-- A link may stand below some lines: the last one that is neither blank nor a comment is open. -/
def Carries (lines : List Text) : Prop :=
  ∃ line, (lines.filter (!isSkipped ·)).getLast? = some line ∧ isOpen line

/-- Every link stands below lines that carry it. -/
def IsChained (lines : List Text) : Prop :=
  ∀ before link after, lines = before ++ link :: after → startsLink link → Carries before

/-- The first line that is neither blank nor a comment is a link. -/
def OpensWithLink (lines : List Text) : Prop :=
  ∃ link, lines.find? (!isSkipped ·) = some link ∧ startsLink link

/-- Whether a link may stand below a line, when it may or may not stand above it. -/
def carryOn (carried : Bool) (line : Text) : Bool :=
  if isSkipped line then carried else isOpen line

/-- Whether every link among some lines is carried, when the first line is or is not. -/
def chainedFrom : Bool → List Text → Bool
  | _, [] => true
  | carried, line :: rest =>
    (!startsLink line || carried) && chainedFrom (carryOn carried line) rest

theorem carries_iff {lines : List Text} : Carries lines ↔ lines.foldl carryOn false := by
  induction lines using List.reverseRecOn with
  | nil => simp [Carries]
  | append_singleton init last ih =>
    rw [List.foldl_concat, carryOn, Carries, List.filter_append]
    cases hs : isSkipped last
    · rw [List.filter_cons_of_pos (by rw [hs]; rfl), List.filter_nil, List.getLast?_concat]
      simp
    · rw [List.filter_cons_of_neg (by rw [hs]; simp), List.filter_nil, List.append_nil, if_pos rfl]
      exact ih

theorem chainedFrom_append (carried : Bool) (x y : List Text) :
    chainedFrom carried (x ++ y) =
      (chainedFrom carried x && chainedFrom (x.foldl carryOn carried) y) := by
  induction x generalizing carried with
  | nil => rfl
  | cons line x ih =>
    rw [List.cons_append, chainedFrom, chainedFrom, ih, List.foldl_cons, Bool.and_assoc]

theorem isChained_iff {lines : List Text} : IsChained lines ↔ chainedFrom false lines := by
  suffices h : ∀ carried, chainedFrom carried lines ↔ ∀ before link after,
      lines = before ++ link :: after → startsLink link → before.foldl carryOn carried by
    rw [h false, IsChained]
    simp only [carries_iff]
  induction lines with
  | nil =>
    intro carried
    refine iff_of_true rfl fun before link after h => ?_
    simp at h
  | cons line lines ih =>
    intro carried
    rw [chainedFrom, Bool.and_eq_true, ih]
    constructor
    · rintro ⟨hline, hlines⟩ before link after hsplit hlink
      cases before with
      | nil =>
        obtain ⟨rfl, -⟩ := List.cons.inj hsplit
        rw [hlink] at hline
        exact hline
      | cons first before =>
        obtain ⟨rfl, hrest⟩ := List.cons.inj hsplit
        exact hlines before link after hrest hlink
    · intro h
      constructor
      · cases hlink : startsLink line
        · rfl
        · exact h [] line lines rfl hlink
      · intro before link after hsplit hlink
        exact h (line :: before) link after (by rw [hsplit]; rfl) hlink

instance (lines : List Text) : Decidable (IsChained lines) := decidable_of_iff _ isChained_iff.symm

/-- Only a link that opens some lines depends on the lines above. -/
theorem chainedFrom_iff {carried : Bool} {lines : List Text} : chainedFrom carried lines ↔
    chainedFrom true lines ∧ (OpensWithLink lines → carried) := by
  induction lines with
  | nil => simp [chainedFrom, OpensWithLink]
  | cons line lines ih =>
    cases hs : isSkipped line
    · have hopens : OpensWithLink (line :: lines) ↔ startsLink line := by
        rw [OpensWithLink, List.find?_cons_of_pos (by rw [hs]; rfl)]
        simp
      rw [hopens, chainedFrom, chainedFrom, carryOn, carryOn, hs]
      cases startsLink line <;> simp [and_comm]
    · have hlink := startsLink_of_isSkipped hs
      have hopens : OpensWithLink (line :: lines) ↔ OpensWithLink lines := by
        rw [OpensWithLink, List.find?_cons_of_neg (by rw [hs]; simp), OpensWithLink]
      rw [hopens, chainedFrom, chainedFrom, carryOn, carryOn, hs, hlink]
      simpa using ih

/-- Lines put together are chained if each part is, as far as it depends on itself, and the first
part carries a link that opens the second. -/
theorem isChained_append {x y : List Text} : IsChained (x ++ y) ↔
    IsChained x ∧ chainedFrom true y ∧ (OpensWithLink y → Carries x) := by
  rw [isChained_iff, isChained_iff, chainedFrom_append, Bool.and_eq_true, carries_iff]
  exact and_congr_right fun _ => chainedFrom_iff

theorem isChained_iff_chainedFrom_true {lines : List Text} :
    IsChained lines ↔ chainedFrom true lines ∧ ¬OpensWithLink lines := by
  rw [isChained_iff, chainedFrom_iff]
  simp

/-- A line that is neither blank nor a comment decides alone. -/
theorem carries_append {x y : List Text} (h : ∃ line ∈ y, isSkipped line = false) :
    Carries (x ++ y) ↔ Carries y := by
  obtain ⟨line, hline, hs⟩ := h
  have hne : y.filter (!isSkipped ·) ≠ [] :=
    List.ne_nil_of_mem (List.mem_filter.2 ⟨hline, by rw [hs]; rfl⟩)
  rw [Carries, List.filter_append, List.getLast?_append_of_ne_nil _ hne, Carries]

theorem carries_append_skipped {x y : List Text} (h : ∀ line ∈ y, isSkipped line) :
    Carries (x ++ y) ↔ Carries x := by
  have hnil : y.filter (!isSkipped ·) = [] := by
    rw [List.filter_eq_nil_iff]
    intro line hline
    simp [h line hline]
  rw [Carries, List.filter_append, hnil, List.append_nil, Carries]

theorem carries_concat {lines : List Text} {line : Text} (h : isSkipped line = false) :
    Carries (lines ++ [line]) ↔ isOpen line := by
  simp [Carries, List.filter_append, h]

theorem isChained_concat {lines : List Text} {line : Text} :
    IsChained (lines ++ [line]) ↔ IsChained lines ∧ (startsLink line → Carries lines) := by
  have hopens : OpensWithLink [line] ↔ startsLink line := by
    cases hs : isSkipped line
    · simp [OpensWithLink, hs]
    · simp [OpensWithLink, hs, startsLink_of_isSkipped hs]
  have hone : chainedFrom true [line] := by simp [chainedFrom]
  rw [isChained_append, hopens]
  simp [hone]

/-- A semicolon at the end of the last line matters only to what follows. -/
theorem isChained_lines_terminated (lines : List Text) (code : Text) {blanks : Text}
    (hb : ∀ c ∈ blanks, c.isBlank) (hn : CodePoint.ofChar '\n' ∉ blanks) :
    IsChained (lines ++ Text.lines (code ++ CodePoint.ofChar ';' :: blanks)) ↔
      IsChained (lines ++ Text.lines (code ++ blanks)) := by
  obtain ⟨init, last, hlines⟩ := Text.exists_lines_append code
  have hn' : CodePoint.ofChar '\n' ∉ CodePoint.ofChar ';' :: blanks := by
    rw [List.mem_cons]
    rintro (h | h)
    · exact absurd h (by decide)
    · exact hn h
  rw [hlines _ hn', hlines _ hn, ← List.append_assoc, ← List.append_assoc, isChained_concat,
    isChained_concat, startsLink_terminated last hb]

/-! ## What an addition writes -/

/-- The code of a link without a slash is all of it. -/
theorem isOpen_of_notMem {line : Text} (hs : CodePoint.ofChar '/' ∉ line) (hl : startsLink line) :
    isOpen line = !isTerminated line := by
  have hcode : codeOf line = line.stripEnd := by rw [codeOf, beforeComment_of_notMem hs]
  have hne : line.stripEnd ≠ [] := by
    intro hnil
    rw [← isChainLink_eq, isChainLink, hnil] at hl
    cases hl
  have hempty : line.stripEnd.isEmpty = false := by simpa using hne
  rw [isOpen, hcode, hempty, isTerminated]
  rfl

theorem startsLink_registration (m : Manifest) (cr : Text) (ends : Bool) :
    startsLink (registration m cr ends) := by
  rw [startsLink, registration, List.append_assoc, useStatement_eq, List.append_assoc,
    Text.stripStart_append (by decide)]
  rfl

/-- A registration that is put in is open unless it takes a semicolon over. -/
theorem isOpen_registration {m : Manifest} (hn : IsName m.variableName) {cr : Text}
    (hcr : IsEnd cr) (ends : Bool) : isOpen (registration m cr ends) = !ends := by
  have hname : CodePoint.ofChar '/' ∉ m.variableName := hn.notMem (by decide)
  have hslash : CodePoint.ofChar '/' ∉ cr := fun hc => absurd (hcr _ hc) (by decide)
  have hnot : CodePoint.ofChar '/' ∉ registration m cr ends := by
    cases ends <;> simp [registration, Manifest.useStatement, Text.ofString, hname, hslash]
  rw [isOpen_of_notMem hnot (startsLink_registration m cr ends), isTerminated_registration m hcr]

/-- The first line of an import that is put in stands for itself. -/
theorem exists_lines_importStatement (m : Manifest) (cr : Text) : ∃ first rest,
    Text.lines (m.importStatement ++ cr) = first :: rest ∧ startsLink first = false ∧
      isSkipped first = false := by
  have himport : m.importStatement ++ cr = CodePoint.ofChar 'i' :: (("mport " : Text) ++
      m.variableName ++ (" from \"" : Text) ++ m.importPath ++ ("\";" : Text) ++ cr) := by
    simp [Manifest.importStatement, Text.ofString]
  obtain ⟨piece, pieces, hrest⟩ := List.exists_cons_of_ne_nil (Text.lines_ne_nil
    (("mport " : Text) ++ m.variableName ++ (" from \"" : Text) ++ m.importPath ++
      ("\";" : Text) ++ cr))
  rw [Text.lines] at hrest
  have hstart : Text.stripStart (CodePoint.ofChar 'i' :: piece) = CodePoint.ofChar 'i' :: piece :=
    Text.stripStart_cons (by decide) piece
  refine ⟨CodePoint.ofChar 'i' :: piece, pieces, ?_, ?_, ?_⟩
  · rw [himport, Text.lines, Text.splitOn, if_neg (by decide), hrest]
  · rw [startsLink, hstart]
    rfl
  · rw [isSkipped, hstart]
    rfl

/-- No line feed follows the semicolon that a line ends in. -/
theorem newline_notMem_of_mem_withImport {t cr : Text} (hcr : IsEnd cr) {m : Manifest}
    {code blanks : Text} (hb : ∀ c ∈ blanks, c.isBlank)
    (h : code ++ CodePoint.ofChar ';' :: blanks ∈ withImport cr m t.lines) :
    CodePoint.ofChar '\n' ∉ blanks := by
  rcases of_mem_withImport h with hline | himport
  · intro hc
    exact Text.newline_notMem_of_mem_lines hline (by simp [hc])
  · -- an import ends in a semicolon, so it is that one
    have hwritten : m.importStatement ++ cr = (("import " : Text) ++ m.variableName ++
        (" from \"" : Text) ++ m.importPath ++ ("\"" : Text)) ++ CodePoint.ofChar ';' :: cr := by
      simp [Manifest.importStatement, Text.ofString]
    rw [hwritten] at himport
    have hstrip := congrArg Text.stripEnd himport
    rw [stripEnd_terminated code hb, stripEnd_terminated _ hcr.isBlank] at hstrip
    rw [List.append_cancel_right hstrip] at himport
    have htail := (List.cons.inj (List.append_cancel_left himport)).2
    rw [htail]
    exact hcr.newline_notMem

/-! ## Additions -/

/-- A module's import stands behind the last one without cutting a chain. It may hold line feeds, so
it is a text of its own. -/
def TakesImport (t : Text) (m : Manifest) : Prop :=
  let added := Text.lines (m.importStatement ++ lineEnd t)
  IsChained added ∧
    (OpensWithLink (t.lines.drop (Survey.ofText t).lastImportLine) → Carries added)

/-- A text takes a module in without cutting a chain. The registration goes behind the anchor, which
has to carry it once it has given its semicolon away. -/
structure Accommodates (t : Text) (m : Manifest) : Prop where
  imported : ¬Imports t.lines m.variableName → TakesImport t m
  registered : ¬Registers t.lines m.variableName → ∀ before anchor after,
    splitLast? isAnchor (withImport (lineEnd t) m t.lines) = some (before, anchor, after) →
      Carries ((before ++ [unterminated anchor]).flatMap Text.lines) ∧
        (isTerminated anchor → ¬OpensWithLink (after.flatMap Text.lines))

section Upsert

variable {t : Text} (ht : IsChained t.lines) {m : Manifest}
include ht

theorem isChained_withImport_iff :
    IsChained ((withImport (lineEnd t) m t.lines).flatMap Text.lines) ↔
      (¬Imports t.lines m.variableName → TakesImport t m) := by
  have hnewline : ∀ line ∈ t.lines, CodePoint.ofChar '\n' ∉ line := fun _ =>
    Text.newline_notMem_of_mem_lines
  by_cases hi : Imports t.lines m.variableName
  · have hhas : (Survey.ofLines 1 t.lines).hasImport m.variableName :=
      (hasImport_ofLines 1 t.lines m.variableName).2 hi
    rw [withImport, if_pos hhas, Text.flatMap_lines hnewline]
    exact iff_of_true ht fun h => absurd hi h
  have hnot : ¬(Survey.ofLines 1 t.lines).hasImport m.variableName := fun h =>
    hi ((hasImport_ofLines 1 t.lines m.variableName).1 h)
  have hsplit := List.take_append_drop (Survey.ofText t).lastImportLine t.lines
  rw [withImport, if_neg hnot, List.flatMap_append, List.flatMap_cons]
  unfold TakesImport
  dsimp only
  show IsChained (List.flatMap _ (List.take (Survey.ofText t).lastImportLine t.lines) ++ (_ ++
    List.flatMap _ (List.drop (Survey.ofText t).lastImportLine t.lines))) ↔ _
  rw [Text.flatMap_lines fun l hl => hnewline l (List.mem_of_mem_take hl),
    Text.flatMap_lines fun l hl => hnewline l (List.mem_of_mem_drop hl)]
  generalize t.lines.take _ = before at hsplit ⊢
  generalize t.lines.drop _ = after at hsplit ⊢
  rw [← hsplit, isChained_append] at ht
  obtain ⟨first, rest, hlines, hlink, hs⟩ := exists_lines_importStatement m (lineEnd t)
  rw [hlines]
  have hopens : ¬OpensWithLink (first :: rest) := by
    rw [OpensWithLink, List.find?_cons_of_pos (by rw [hs]; rfl)]
    simp [hlink]
  have himport : IsChained (first :: rest) ↔ chainedFrom true (first :: rest) := by
    rw [isChained_iff_chainedFrom_true]
    exact and_iff_left hopens
  rw [← List.append_assoc, isChained_append, isChained_append,
    carries_append ⟨first, List.mem_cons_self, hs⟩, himport]
  tauto

omit ht in
/-- A registration stands behind the anchor exactly if the anchor carries it without its semicolon,
and what follows the anchor is no link if the registration takes the semicolon over. -/
theorem isChained_linked_iff (hn : IsName m.variableName) {cr : Text} (hcr : IsEnd cr)
    {before after : List Text} {anchor : Text} (ha : anchor ∈ withImport cr m t.lines) :
    IsChained ((before ++ linked m cr anchor ++ after).flatMap Text.lines) ↔
      IsChained ((before ++ anchor :: after).flatMap Text.lines) ∧
        Carries ((before ++ [unterminated anchor]).flatMap Text.lines) ∧
        (isTerminated anchor → ¬OpensWithLink (after.flatMap Text.lines)) := by
  have hkept : IsChained (before.flatMap Text.lines ++ Text.lines (unterminated anchor)) ↔
      IsChained (before.flatMap Text.lines ++ Text.lines anchor) := by
    unfold unterminated
    split
    · rename_i hends
      obtain ⟨code, blanks, rfl, hb⟩ := isTerminated_iff.1 hends
      rw [dropTerminator_terminated code hb]
      exact (isChained_lines_terminated _ code hb
        (newline_notMem_of_mem_withImport hcr hb ha)).symm
    · rfl
  have hreg : Text.lines (registration m cr (isTerminated anchor)) =
      [registration m cr (isTerminated anchor)] :=
    Text.lines_of_newline_notMem (newline_notMem_registration m hcr hn _)
  have hskip := isSkipped_of_startsLink (startsLink_registration m cr (isTerminated anchor))
  have hopens : OpensWithLink (registration m cr (isTerminated anchor) ::
      after.flatMap Text.lines) :=
    ⟨_, List.find?_cons_of_pos (by rw [hskip]; rfl), startsLink_registration m cr _⟩
  have hbehind : chainedFrom true (registration m cr (isTerminated anchor) ::
      after.flatMap Text.lines) ↔ chainedFrom true (after.flatMap Text.lines) ∧
        (isTerminated anchor → ¬OpensWithLink (after.flatMap Text.lines)) := by
    rw [chainedFrom, carryOn, hskip, Bool.or_true, Bool.true_and, if_neg (by simp),
      isOpen_registration hn hcr, chainedFrom_iff]
    cases isTerminated anchor <;> simp
  have hold := isChained_append (x := before.flatMap Text.lines ++ Text.lines anchor)
    (y := after.flatMap Text.lines)
  have hnew := isChained_append (x := before.flatMap Text.lines ++ Text.lines (unterminated anchor))
    (y := registration m cr (isTerminated anchor) :: after.flatMap Text.lines)
  rw [hkept, hbehind] at hnew
  rw [linked]
  simp only [List.flatMap_append, List.flatMap_cons, List.flatMap_nil, List.append_nil, hreg]
  rw [← List.append_assoc, List.append_assoc _ _ (List.flatMap _ after), List.singleton_append,
    ← List.append_assoc, hnew, hold]
  constructor
  · rintro ⟨hbefore, ⟨hafter, hno⟩, hcarries⟩
    refine ⟨⟨hbefore, hafter, fun hlink => ?_⟩, hcarries hopens, hno⟩
    -- the anchor had no semicolon then, so it is as it was
    have hends : ¬isTerminated anchor := fun hends => hno hends hlink
    have hsame : unterminated anchor = anchor := by rw [unterminated, if_neg hends]
    rw [← hsame]
    exact hcarries hopens
  · rintro ⟨⟨hbefore, hafter, -⟩, hcarries, hno⟩
    exact ⟨hbefore, ⟨hafter, hno⟩, fun _ => hcarries⟩

/-- An addition keeps a text chained exactly if the text accommodates it. -/
theorem isChained_upsert_iff (hn : IsName m.variableName) :
    IsChained (upsert t m).text.lines ↔ Accommodates t m := by
  have himported := isChained_withImport_iff ht (m := m)
  have hne : withImport (lineEnd t) m t.lines ≠ [] := by
    obtain ⟨line, hline⟩ := List.exists_mem_of_ne_nil _ (Text.lines_ne_nil t)
    exact List.ne_nil_of_mem (mem_withImport hline)
  by_cases hr : Registers t.lines m.variableName
  · have hhas : (Survey.ofText t).hasUse m.variableName :=
      (hasUse_ofLines 1 t.lines m.variableName).2 hr
    rw [text_upsert_eq, if_pos hhas, Text.lines_unlines_eq_flatMap hne, himported]
    exact ⟨fun h => ⟨h, fun hnot => absurd hr hnot⟩, fun h => h.imported⟩
  · have hhas : ¬(Survey.ofText t).hasUse m.variableName := fun h =>
      hr ((hasUse_ofLines 1 t.lines m.variableName).1 h)
    rw [text_upsert_eq, if_neg hhas]
    rcases register_cases m (lineEnd t) (withImport (lineEnd t) m t.lines) with
      ⟨hnone, hunanchored⟩ | ⟨before, anchor, after, hlines, hanchor, hlast, hsome⟩
    · rw [hnone, Option.getD_none, Text.lines_unlines_eq_flatMap hne, himported]
      refine ⟨fun h => ⟨h, fun _ before anchor after hsplit => ?_⟩, fun h => h.imported⟩
      rw [splitLast?_eq_none_iff.2 hunanchored] at hsplit
      cases hsplit
    · have hmem : anchor ∈ withImport (lineEnd t) m t.lines := by
        rw [hlines]
        simp
      have hsplit : splitLast? isAnchor (withImport (lineEnd t) m t.lines) =
          some (before, anchor, after) := by
        rw [hlines]
        exact splitLast?_append hanchor hlast before
      rw [hsome, Option.getD_some, Text.lines_unlines_eq_flatMap (by simp [linked]),
        isChained_linked_iff hn (isEnd_lineEnd t) hmem, ← hlines, himported]
      constructor
      · rintro ⟨himport, hregister⟩
        refine ⟨himport, fun _ b a' l hs => ?_⟩
        rw [hsplit] at hs
        cases hs
        exact hregister
      · intro h
        exact ⟨h.imported, h.registered hr before anchor after hsplit⟩

end Upsert

end Routewright.Aggregator
