/-
The semicolon that ends a chain: what a line is when it gives its semicolon away or takes one over,
and exactly which lines take the semicolon back that they have given away.
-/
import Routewright.Proofs.Aggregator.Record

namespace Routewright.Aggregator

/-! ## Terminated lines -/

theorem stripEnd_terminated (code : Text) {blanks : Text} (h : ∀ c ∈ blanks, c.isBlank) :
    Text.stripEnd (code ++ CodePoint.ofChar ';' :: blanks) = code ++ [CodePoint.ofChar ';'] := by
  have hline : code ++ CodePoint.ofChar ';' :: blanks =
      (code ++ [CodePoint.ofChar ';']) ++ blanks := by simp
  rw [hline, Text.stripEnd_append h, Text.stripEnd_concat (by decide)]

/-- A terminated line is code, a semicolon and blanks. -/
theorem isTerminated_iff {line : Text} :
    isTerminated line ↔ ∃ code blanks, line = code ++ CodePoint.ofChar ';' :: blanks ∧
      ∀ c ∈ blanks, c.isBlank := by
  rw [isTerminated, Text.endsWith_iff]
  constructor
  · rintro ⟨code, hcode⟩
    obtain ⟨blanks, hline, hb⟩ := Text.exists_eq_stripEnd_append line
    refine ⟨code, blanks, ?_, hb⟩
    rw [hline, ← hcode, List.append_assoc]; rfl
  · rintro ⟨code, blanks, rfl, hb⟩
    rw [stripEnd_terminated code hb]
    exact List.suffix_append code _

theorem dropTerminator_terminated (code : Text) {blanks : Text} (h : ∀ c ∈ blanks, c.isBlank) :
    dropTerminator (code ++ CodePoint.ofChar ';' :: blanks) = code ++ blanks := by
  unfold dropTerminator
  dsimp only
  rw [stripEnd_terminated code h, List.dropLast_concat]
  simp

theorem dropTerminator_ne {line : Text} (h : isTerminated line) : dropTerminator line ≠ line := by
  obtain ⟨code, blanks, rfl, hb⟩ := isTerminated_iff.1 h
  rw [dropTerminator_terminated code hb]
  simp

theorem isInert_terminator {blanks : Text} (h : ∀ c ∈ blanks, c.isBlank) :
    IsInert (CodePoint.ofChar ';' :: blanks) := by
  intro c hc
  rcases List.mem_cons.1 hc with rfl | hc
  · exact .inr rfl
  · exact .inl (h c hc)

/-- Giving its semicolon away changes a line by what is inert only. -/
theorem useOf?_dropTerminator {line : Text} (h : isTerminated line) :
    useOf? (dropTerminator line) = useOf? line := by
  obtain ⟨code, blanks, rfl, hb⟩ := isTerminated_iff.1 h
  rw [dropTerminator_terminated code hb, useOf?_append (isInert_terminator hb),
    useOf?_append fun c hc => .inl (hb c hc)]

theorem opensImport_dropTerminator {line : Text} (h : isTerminated line) :
    opensImport (dropTerminator line) = opensImport line := by
  obtain ⟨code, blanks, rfl, hb⟩ := isTerminated_iff.1 h
  rw [dropTerminator_terminated code hb, opensImport_append (isInert_terminator hb),
    opensImport_append fun c hc => .inl (hb c hc)]

/-! ## Giving a semicolon away and taking it back -/

/-- What a terminated line has to be to take its own semicolon back: a link of a chain whose code
before the semicolon ends neither in another one nor in a blank. -/
def RegainsTerminator (line : Text) : Prop :=
  line.stripStart.head? = some (CodePoint.ofChar '.') ∧
    ∀ c, line.stripEnd.dropLast.getLast? = some c → c ≠ CodePoint.ofChar ';' ∧ c.isBlank = false

theorem addTerminator_append {code blanks : Text}
    (h : Text.stripEnd (code ++ blanks) = code) :
    addTerminator (code ++ blanks) = code ++ CodePoint.ofChar ';' :: blanks := by
  unfold addTerminator
  dsimp only
  rw [h, List.drop_left]
  simp [Text.ofString]

/-- Adding a semicolon puts it before the blanks that a line ends in. -/
theorem addTerminator_eq (line : Text) :
    addTerminator line = Text.stripEnd line ++ ";" ++ line.rtakeWhile CodePoint.isBlank := by
  have hline : Text.stripEnd line ++ line.rtakeWhile CodePoint.isBlank = line :=
    List.rdropWhile_append_rtakeWhile ..
  have hdrop : (Text.stripEnd line ++ line.rtakeWhile CodePoint.isBlank).drop
      (Text.stripEnd line).length = line.rtakeWhile CodePoint.isBlank := List.drop_left
  rw [hline] at hdrop
  unfold addTerminator
  dsimp only
  rw [hdrop]

theorem exists_addTerminator_eq (line : Text) :
    ∃ blanks, line = Text.stripEnd line ++ blanks ∧ (∀ c ∈ blanks, c.isBlank) ∧
      addTerminator line = Text.stripEnd line ++ CodePoint.ofChar ';' :: blanks := by
  refine ⟨line.rtakeWhile CodePoint.isBlank, (List.rdropWhile_append_rtakeWhile ..).symm,
    fun _ => List.mem_rtakeWhile_imp, ?_⟩
  rw [addTerminator_eq, List.append_assoc]
  rfl

/-- Blanks before the semicolon come to stand behind it. -/
theorem takeTerminator_ne_of_blank (code : Text) {blanks : Text} (h : ∀ c ∈ blanks, c.isBlank)
    {c : CodePoint} (hc : c.isBlank) :
    takeTerminator (code ++ [c] ++ blanks) ≠ code ++ [c] ++ CodePoint.ofChar ';' :: blanks := by
  have hsemicolon : ∀ d : CodePoint, d.isBlank → CodePoint.ofChar ';' ≠ d := by
    rintro d hd rfl
    exact absurd hd (by decide)
  have htail : ∀ d ∈ [c] ++ blanks, d.isBlank := by simpa using ⟨hc, h⟩
  unfold takeTerminator
  split
  · obtain ⟨b, hcode, hb⟩ := Text.exists_eq_stripEnd_append code
    have hstrip : Text.stripEnd (Text.stripEnd code ++ (b ++ [c] ++ blanks)) =
        Text.stripEnd code := by
      rw [← List.append_assoc, ← List.append_assoc, ← hcode, List.append_assoc,
        Text.stripEnd_append htail]
    have hline : code ++ [c] ++ blanks = Text.stripEnd code ++ (b ++ [c] ++ blanks) := by
      rw [← List.append_assoc, ← List.append_assoc, ← hcode]
    have hgiven : code ++ [c] ++ CodePoint.ofChar ';' :: blanks =
        Text.stripEnd code ++ (b ++ [c] ++ CodePoint.ofChar ';' :: blanks) := by
      rw [← List.append_assoc, ← List.append_assoc, ← hcode]
    intro he
    rw [hline, addTerminator_append hstrip, hgiven] at he
    cases b with
    | nil => exact hsemicolon c hc (List.cons.inj (List.append_cancel_left he)).1
    | cons d b =>
      exact hsemicolon d (hb d List.mem_cons_self) (List.cons.inj (List.append_cancel_left he)).1
  · simp

theorem head?_stripStart_append {c : CodePoint} (hc : c.isBlank = false) (init t : Text) :
    (Text.stripStart (init ++ [c] ++ t)).head? = (Text.stripStart (init ++ [c])).head? := by
  have hne : (init ++ [c]).dropWhile CodePoint.isBlank ≠ [] := by
    rw [ne_eq, List.dropWhile_eq_nil_iff]
    intro h
    rw [h c (by simp)] at hc
    cases hc
  show (List.dropWhile _ _).head? = (List.dropWhile _ _).head?
  rw [List.dropWhile_append, if_neg (by simpa using hne), List.head?_append_of_ne_nil _ hne]

section Concat

variable {c : CodePoint} (hc : c.isBlank = false) (init : Text) {blanks : Text}
  (hb : ∀ d ∈ blanks, d.isBlank)
include hc hb

theorem stripEnd_concat_append : Text.stripEnd (init ++ [c] ++ blanks) = init ++ [c] := by
  rw [Text.stripEnd_append hb, Text.stripEnd_concat hc]

theorem isTerminated_concat_iff :
    isTerminated (init ++ [c] ++ blanks) ↔ c = CodePoint.ofChar ';' := by
  rw [isTerminated, stripEnd_concat_append hc init hb, Text.endsWith_iff]
  constructor
  · rintro ⟨code, hcode⟩
    exact (List.singleton_inj.1 (List.append_inj_right' hcode rfl)).symm
  · rintro rfl
    exact List.suffix_append init _

/-- Whether a line is a link does not depend on what follows its code. -/
theorem isChainLink_concat_iff (t : Text) : isChainLink (init ++ [c] ++ blanks) ↔
    (Text.stripStart (init ++ [c] ++ t)).head? = some (CodePoint.ofChar '.') := by
  rw [isChainLink, stripEnd_concat_append hc init hb, head?_stripStart_append hc,
    Text.startsWith_iff]
  cases Text.stripStart (init ++ [c]) with
  | nil => exact iff_of_false (fun h => by cases List.prefix_nil.1 h) (by simp)
  | cons d rest =>
    rw [List.head?_cons, Option.some_inj, eq_comm]
    exact List.cons_prefix_cons.trans (and_iff_left List.nil_prefix)

end Concat

/-- A link that has given a semicolon away takes it back as it was exactly if the semicolon stood
right after code that did not end in one. -/
theorem takeTerminator_dropTerminator_iff {line : Text} (h : isTerminated line) :
    takeTerminator (dropTerminator line) = line ↔ RegainsTerminator line := by
  obtain ⟨code, blanks, rfl, hb⟩ := isTerminated_iff.1 h
  rw [dropTerminator_terminated code hb, RegainsTerminator, stripEnd_terminated code hb,
    List.dropLast_concat]
  rcases List.eq_nil_or_concat code with rfl | ⟨init, c, rfl⟩
  · -- a line without code is no link
    have hstrip : Text.stripEnd blanks = [] := Text.stripEnd_append hb []
    have hlink : isChainLink blanks = false := by rw [isChainLink, hstrip]; rfl
    refine iff_of_false (fun he => ?_) (fun he => ?_)
    · simp [takeTerminator, hlink] at he
    · rw [List.nil_append, Text.stripStart_cons (by decide)] at he
      exact absurd he.1 (by simp)
  · rw [List.concat_eq_append]
    cases hc : c.isBlank
    · have hend := isTerminated_concat_iff hc init hb
      have hadd := addTerminator_append (stripEnd_concat_append hc init hb)
      rw [← isChainLink_concat_iff hc init hb]
      unfold takeTerminator
      split
      · rename_i hcond
        rw [Bool.and_eq_true, Bool.not_eq_true', ← Bool.not_eq_true, hend] at hcond
        refine iff_of_true hadd ⟨hcond.1, fun d hd => ?_⟩
        rw [List.getLast?_concat, Option.some_inj] at hd
        exact ⟨hd ▸ hcond.2, hd ▸ hc⟩
      · rename_i hcond
        refine iff_of_false (by simp) fun he => hcond ?_
        rw [Bool.and_eq_true, Bool.not_eq_true', ← Bool.not_eq_true, hend]
        exact ⟨he.1, (he.2 c List.getLast?_concat).1⟩
    · -- the semicolon would be put before the blank that it stood behind
      refine iff_of_false (takeTerminator_ne_of_blank init hb hc) fun he => ?_
      have := (he.2 c (by simp)).2
      rw [hc] at this
      cases this

/-! ## Links -/

/-- Whether the first code point of a line that is not blank is a dot. -/
def startsLink (line : Text) : Bool := line.stripStart.startsWith "."

theorem startsLink_iff {line : Text} :
    startsLink line ↔ line.stripStart.head? = some (CodePoint.ofChar '.') := by
  rw [startsLink, Text.startsWith_iff]
  cases line.stripStart with
  | nil => exact iff_of_false (fun h => by cases List.prefix_nil.1 h) (by simp)
  | cons c rest =>
    rw [List.head?_cons, Option.some_inj, eq_comm]
    exact List.cons_prefix_cons.trans (and_iff_left List.nil_prefix)

theorem isChainLink_eq (line : Text) : isChainLink line = startsLink line := by
  rw [Bool.eq_iff_iff, startsLink_iff]
  obtain ⟨blanks, hline, hb⟩ := Text.exists_eq_stripEnd_append line
  rcases List.eq_nil_or_concat (Text.stripEnd line) with hnil | ⟨init, c, hc⟩
  · -- a line of blanks is no link
    rw [hnil, List.nil_append] at hline
    have hstart : Text.stripStart line = [] := by
      rw [hline]
      exact List.dropWhile_eq_nil_iff.2 hb
    rw [isChainLink, hnil, hstart]
    exact iff_of_false (by decide) (by simp)
  · rw [List.concat_eq_append] at hc
    have hblank : c.isBlank = false := by
      have hlast := List.rdropWhile_last_not CodePoint.isBlank line (by
        show Text.stripEnd line ≠ []
        simp [hc])
      have heq : (List.rdropWhile CodePoint.isBlank line) = init ++ [c] := hc
      simpa [heq] using hlast
    rw [hline, hc]
    exact isChainLink_concat_iff hblank init hb blanks

theorem startsLink_append {line : Text} (h : line.stripStart ≠ []) (t : Text) :
    startsLink (line ++ t) = startsLink line := by
  have hstart : Text.stripStart (line ++ t) = line.stripStart ++ t := by
    show List.dropWhile _ _ = List.dropWhile _ _ ++ t
    rw [List.dropWhile_append, if_neg (by rwa [List.isEmpty_iff])]
  rw [Bool.eq_iff_iff, startsLink_iff, startsLink_iff, hstart, List.head?_append_of_ne_nil _ h]

/-- A semicolon at the end of a line does not make it a link, nor stop it from being one. -/
theorem startsLink_terminated (code : Text) {blanks : Text} (h : ∀ c ∈ blanks, c.isBlank) :
    startsLink (code ++ CodePoint.ofChar ';' :: blanks) = startsLink (code ++ blanks) := by
  by_cases hcode : Text.stripStart code = []
  · have hblank : ∀ c ∈ code, c.isBlank := List.dropWhile_eq_nil_iff.1 hcode
    rw [startsLink, startsLink, Text.stripStart_append hblank, Text.stripStart_append hblank,
      Text.stripStart_cons (by decide)]
    have hnil : Text.stripStart blanks = [] := List.dropWhile_eq_nil_iff.2 h
    rw [hnil]
    rfl
  · rw [startsLink_append hcode, startsLink_append hcode]

/-- A line that takes a semicolon over is the link that it was. -/
theorem startsLink_addTerminator (line : Text) :
    startsLink (addTerminator line) = startsLink line := by
  obtain ⟨blanks, hline, hb, hadd⟩ := exists_addTerminator_eq line
  rw [hadd, startsLink_terminated _ hb, ← hline]

theorem opensImport_of_startsLink {line : Text} (h : startsLink line) :
    opensImport line = false := by
  obtain ⟨rest, hrest⟩ := List.head?_eq_some_iff.1 (startsLink_iff.1 h)
  refine Bool.eq_false_iff.2 fun ho => ?_
  rw [opensImport_iff, hrest] at ho
  exact absurd (List.cons_prefix_cons.1 ho).1 (by decide)

/-! ## Registrations -/

/-- A line without the semicolon it may end in. -/
def unterminated (line : Text) : Text := if isTerminated line then dropTerminator line else line

theorem newline_notMem_unterminated {line : Text} (h : CodePoint.ofChar '\n' ∉ line) :
    CodePoint.ofChar '\n' ∉ unterminated line := by
  unfold unterminated
  split
  · -- what is left of a line is part of it
    obtain ⟨code, blanks, rfl, hb⟩ := isTerminated_iff.1 (by assumption)
    rw [dropTerminator_terminated code hb]
    intro hc
    refine h ?_
    rcases List.mem_append.1 hc with hc | hc
    · exact List.mem_append_left _ hc
    · exact List.mem_append_right _ (List.mem_cons_of_mem _ hc)
  · exact h

/-- A line that opens no import is what it was without its semicolon. -/
theorem lineKind_unterminated {line : Text} (h : isTerminated line → opensImport line = false) :
    lineKind (unterminated line) = lineKind line := by
  unfold unterminated
  split
  · rename_i ht
    have ho := h ht
    rw [lineKind_of_not_opensImport ho, lineKind_of_not_opensImport
      (by rw [opensImport_dropTerminator ht, ho]), useOf?_dropTerminator ht]
  · rfl

/-- The line that registers a module, as the last one of a chain or not. -/
def registration (m : Manifest) (cr : Text) (ends : Bool) : Text :=
  m.useStatement ++ (if ends then (";" : Text) else []) ++ cr

/-- A carriage return or nothing, as it stands before a line feed. -/
def IsEnd (cr : Text) : Prop := ∀ c ∈ cr, c = CodePoint.ofChar '\r'

theorem isEnd_lineEnd (t : Text) : IsEnd (lineEnd t) := by
  unfold lineEnd
  split
  · exact fun c hc => List.mem_singleton.1 hc
  · exact fun c hc => absurd hc List.not_mem_nil

theorem IsEnd.isBlank {cr : Text} (h : IsEnd cr) : ∀ c ∈ cr, c.isBlank := by
  intro c hc
  rw [h c hc]
  decide

theorem IsEnd.newline_notMem {cr : Text} (h : IsEnd cr) : CodePoint.ofChar '\n' ∉ cr :=
  fun hc => absurd (h _ hc) (by decide)

section Registration

variable (m : Manifest) {cr : Text} (hcr : IsEnd cr)

theorem opensImport_registration (cr : Text) (ends : Bool) :
    opensImport (registration m cr ends) = false := by
  rw [registration, List.append_assoc]
  exact opensImport_useStatement m _

theorem isAnchor_registration {m : Manifest} (hm : IsRecognisable m) (cr : Text) (ends : Bool) :
    isAnchor (registration m cr ends) := by
  rw [registration, List.append_assoc]
  exact isAnchor_useStatement hm _

include hcr

theorem lineKind_registration (hn : IsName m.variableName) (ends : Bool) :
    lineKind (registration m cr ends) = .useOf m.variableName := by
  rw [registration, List.append_assoc]
  refine lineKind_useStatement hn ?_
  cases ends
  · exact fun c hc => .inl (hcr.isBlank c hc)
  · exact isInert_terminator hcr.isBlank

theorem newline_notMem_registration (hn : IsName m.variableName) (ends : Bool) :
    CodePoint.ofChar '\n' ∉ registration m cr ends := by
  rw [registration, List.append_assoc]
  refine newline_notMem_useStatement hn ?_
  have hfeed := hcr.newline_notMem
  cases ends <;> simp [Text.ofString, hfeed]

theorem stripEnd_registration :
    Text.stripEnd (m.useStatement ++ cr) = m.useStatement := by
  rw [Text.stripEnd_append hcr.isBlank, useStatement_eq, ← List.append_assoc,
    Text.stripEnd_concat (by decide)]

theorem isTerminated_registration (ends : Bool) : isTerminated (registration m cr ends) = ends := by
  cases ends
  · have hreg : registration m cr false = m.useStatement ++ cr := by simp [registration]
    rw [hreg, isTerminated, stripEnd_registration m hcr, Bool.eq_false_iff, ne_eq,
      Text.endsWith_iff, useStatement_eq, ← List.append_assoc]
    rintro ⟨code, h⟩
    exact absurd (List.append_inj_right' h rfl) (by decide)
  · refine isTerminated_iff.2 ⟨m.useStatement, cr, ?_, hcr.isBlank⟩
    simp [registration, Text.ofString]

theorem dropTerminator_registration :
    dropTerminator (registration m cr true) = registration m cr false := by
  have hreg : registration m cr true = m.useStatement ++ CodePoint.ofChar ';' :: cr := by
    simp [registration, Text.ofString]
  rw [hreg, dropTerminator_terminated _ hcr.isBlank]
  simp [registration]

theorem unterminated_registration (ends : Bool) :
    unterminated (registration m cr ends) = registration m cr false := by
  rw [unterminated, isTerminated_registration m hcr]
  cases ends
  · rfl
  · exact dropTerminator_registration m hcr

/-- A registration takes a semicolon over. -/
theorem takeTerminator_registration :
    takeTerminator (registration m cr false) = registration m cr true := by
  have hreg : registration m cr false = m.useStatement ++ cr := by simp [registration]
  have hlink : isChainLink (registration m cr false) := by
    rw [hreg, isChainLink, stripEnd_registration m hcr, useStatement_eq,
      Text.stripStart_append (by decide)]
    rfl
  rw [takeTerminator, hlink, isTerminated_registration m hcr, if_pos (by rfl), hreg,
    addTerminator_append (stripEnd_registration m hcr)]
  simp [registration, Text.ofString]

end Registration

end Routewright.Aggregator
