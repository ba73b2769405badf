/-
A reader of template literals, by which their escapes are judged. It knows what a backslash, a back
tick and a dollar sign before a brace mean and nothing of what is escaped and why. What a template
is printed as, it reads as the texts and substitutions of the template and no further: no text ends
the literal or opens a substitution, also where a text ends right before one.
-/
import Mathlib.Tactic.SplitIfs
import Routewright.Proofs.Script.Reader
import Routewright.Proofs.Text.Replacement

namespace Routewright.Script

/-- A template literal as it is read: its first text, each substitution with the text behind it, and
what stands behind the literal. -/
structure TemplateReading where
  text : Text
  parts : List (Text × Text)
  rest : Text

namespace TemplateReading

def texts (r : TemplateReading) : List Text := r.text :: r.parts.map Prod.snd

def substitutions (r : TemplateReading) : List Text := r.parts.map Prod.fst

/-- More text in front of the first one. -/
def prepend (t : Text) (r : TemplateReading) : TemplateReading := { r with text := t ++ r.text }

/-- A substitution in front of the first text. -/
def precede (substitution : Text) (r : TemplateReading) : TemplateReading :=
  ⟨[], (substitution, r.text) :: r.parts, r.rest⟩

theorem texts_prepend_precede (t substitution : Text) (r : TemplateReading) :
    ((r.precede substitution).prepend t).texts = t :: r.texts := by
  simp [texts, prepend, precede]

theorem substitutions_prepend_precede (t substitution : Text) (r : TemplateReading) :
    ((r.precede substitution).prepend t).substitutions = substitution :: r.substitutions := rfl

theorem map_prepend_nil (r : Option TemplateReading) : r.map (prepend []) = r :=
  Option.map_id_apply

theorem map_prepend_prepend (s t : Text) (r : Option TemplateReading) :
    (r.map (prepend t)).map (prepend s) = r.map (prepend (s ++ t)) := by
  rw [Option.map_map]
  congr 1
  funext r
  simp [prepend]

end TemplateReading

mutual

/-- The rest of a template literal from inside one of its texts: a backslash makes the next code
point literal, a back tick ends the literal, and a dollar sign before a brace opens a substitution. -/
def readTemplateText : Text → Option TemplateReading
  | [] => none
  | [c] => if c = '\x60' then some ⟨[], [], []⟩ else none
  | c :: d :: t =>
    if c = '\x60' then some ⟨[], [], d :: t⟩
    else if c = '\\' then (readTemplateText t).map (.prepend [d])
    else if c = '$' ∧ d = '\x7b' then
      (readSubstitution t).map fun found => found.2.precede found.1
    else (readTemplateText (d :: t)).map (.prepend [c])

/-- A substitution up to the brace that closes it, and the rest of the literal. -/
def readSubstitution : Text → Option (Text × TemplateReading)
  | [] => none
  | c :: t =>
    if c = '\x7d' then (readTemplateText t).map fun r => ([], r)
    else (readSubstitution t).map fun found => (c :: found.1, found.2)

end

/-- The template literal that a text opens with. -/
def readTemplate : Text → Option TemplateReading
  | [] => none
  | c :: t => if c = '\x60' then readTemplateText t else none

/-! ## Rules of the reader -/

theorem readTemplateText_close (t : Text) :
    readTemplateText (CodePoint.ofChar '\x60' :: t) = some ⟨[], [], t⟩ := by
  cases t <;> rfl

theorem readTemplateText_escape (d : CodePoint) (t : Text) :
    readTemplateText (CodePoint.ofChar '\\' :: d :: t) =
      (readTemplateText t).map (.prepend [d]) := rfl

theorem readTemplateText_open (t : Text) :
    readTemplateText (CodePoint.ofChar '$' :: CodePoint.ofChar '\x7b' :: t) =
      (readSubstitution t).map fun found => found.2.precede found.1 := rfl

theorem readTemplateText_plain {c : CodePoint} {t : Text} (htick : c ≠ CodePoint.ofChar '\x60')
    (hslash : c ≠ CodePoint.ofChar '\\')
    (hopen : ¬(c = CodePoint.ofChar '$' ∧ t.head? = some (CodePoint.ofChar '\x7b'))) :
    readTemplateText (c :: t) = (readTemplateText t).map (.prepend [c]) := by
  cases t with
  | nil =>
    unfold readTemplateText
    rw [if_neg htick]
    rfl
  | cons d t =>
    rw [List.head?_cons, Option.some_inj] at hopen
    rw [readTemplateText, if_neg htick, if_neg hslash, if_neg hopen]

theorem readSubstitution_append {substitution : Text}
    (h : CodePoint.ofChar '\x7d' ∉ substitution) (t : Text) :
    readSubstitution (substitution ++ CodePoint.ofChar '\x7d' :: t) =
      (readTemplateText t).map fun r => (substitution, r) := by
  induction substitution with
  | nil => rw [List.nil_append, readSubstitution, if_pos rfl]
  | cons c substitution ih =>
    rw [List.mem_cons, not_or] at h
    rw [List.cons_append, readSubstitution, if_neg (Ne.symm h.1), ih h.2, Option.map_map]
    rfl

/-! ## Texts -/

theorem head?_cons_ne {c d : CodePoint} (h : c ≠ d) (t : Text) : (c :: t).head? ≠ some d :=
  fun hhead => h (Option.some.inj hhead)

/-- An escaped text starts with a code point that is no backslash only if the text does. -/
theorem head?_escapeTemplate_append {t tail : Text} {d : CodePoint}
    (hd : d ≠ CodePoint.ofChar '\\') (htail : tail.head? ≠ some d)
    (h : (Text.escapeTemplate t ++ tail).head? = some d) : t.head? = some d := by
  cases t with
  | nil => exact absurd h htail
  | cons c t =>
    rw [Text.escapeTemplate_cons] at h
    split_ifs at h
    · exact absurd h (head?_cons_ne hd.symm _)
    · exact absurd h (head?_cons_ne hd.symm _)
    · exact absurd h (head?_cons_ne hd.symm _)
    · exact h

/-- What is written for one code point of a text is read as it. -/
theorem readTemplateText_escapeTemplate_cons (c : CodePoint) (t : Text) {tail : Text}
    (htail : tail.head? ≠ some (CodePoint.ofChar '\x7b')) :
    readTemplateText (Text.escapeTemplate (c :: t) ++ tail) =
      (readTemplateText (Text.escapeTemplate t ++ tail)).map (.prepend [c]) := by
  rw [Text.escapeTemplate_cons]
  split_ifs with hslash htick hopen
  · rw [hslash]
    exact readTemplateText_escape _ _
  · rw [htick]
    exact readTemplateText_escape _ _
  · rw [hopen.1]
    exact readTemplateText_escape _ _
  · refine readTemplateText_plain htick hslash ?_
    rintro ⟨hdollar, hbrace⟩
    exact hopen ⟨hdollar, head?_escapeTemplate_append (by decide) htail hbrace⟩

/-- An escaped text is read as the text it stands for, up to where it ends. -/
theorem readTemplateText_escapeTemplate (t : Text) {tail : Text}
    (htail : tail.head? ≠ some (CodePoint.ofChar '\x7b')) :
    readTemplateText (Text.escapeTemplate t ++ tail) =
      (readTemplateText tail).map (.prepend t) := by
  induction t with
  | nil => rw [Text.escapeTemplate_nil, List.nil_append, TemplateReading.map_prepend_nil]
  | cons c t ih =>
    rw [readTemplateText_escapeTemplate_cons c t htail, ih, TemplateReading.map_prepend_prepend]
    rfl

/-! ## Literals -/

theorem templateBody_cons_append (text substitution : Text) (texts substitutions : List Text)
    (tail : Text) :
    templateBody (text :: texts) (substitution :: substitutions) ++ tail =
      Text.escapeTemplate text ++ CodePoint.ofChar '$' :: CodePoint.ofChar '\x7b' ::
        (substitution ++ CodePoint.ofChar '\x7d' :: (templateBody texts substitutions ++ tail)) := by
  simp [templateBody, Text.ofString]

/-- The body of a template literal is read as the texts and substitutions it is made of. -/
theorem readTemplateText_templateBody {texts substitutions : List Text}
    (hlength : texts.length = substitutions.length + 1)
    (hclosed : ∀ s ∈ substitutions, CodePoint.ofChar '\x7d' ∉ s) (rest : Text) :
    ∃ r : TemplateReading,
      readTemplateText (templateBody texts substitutions ++ CodePoint.ofChar '\x60' :: rest) =
        some r ∧ r.texts = texts ∧ r.substitutions = substitutions ∧ r.rest = rest := by
  induction substitutions generalizing texts with
  | nil =>
    obtain ⟨text, rfl⟩ := List.length_eq_one_iff.1 hlength
    refine ⟨⟨text, [], rest⟩, ?_, rfl, rfl, rfl⟩
    rw [templateBody, readTemplateText_escapeTemplate text (head?_cons_ne (by decide) rest),
      readTemplateText_close]
    simp [TemplateReading.prepend]
  | cons s substitutions ih =>
    cases texts with
    | nil => cases hlength
    | cons text texts =>
      rw [List.length_cons, List.length_cons, Nat.add_right_cancel_iff] at hlength
      rw [List.forall_mem_cons] at hclosed
      obtain ⟨r, hread, htexts, hsubstitutions, hrest⟩ := ih hlength hclosed.2
      refine ⟨(r.precede s).prepend text, ?_, ?_, ?_, hrest⟩
      · rw [templateBody_cons_append,
          readTemplateText_escapeTemplate text (head?_cons_ne (by decide) _),
          readTemplateText_open, readSubstitution_append hclosed.1, hread]
        rfl
      · rw [TemplateReading.texts_prepend_precede, htexts]
      · rw [TemplateReading.substitutions_prepend_precede, hsubstitutions]

theorem printAll_ident (names : List Text) (level : Nat) :
    Expr.printAll (names.map .ident) level = .ok names := by
  induction names with
  | nil => rfl
  | cons name names ih =>
    rw [List.map_cons, Expr.printAll, ih]
    rfl

/-- An identifier closes no substitution. -/
theorem brace_notMem_of_isIdentifier {name : Text} (h : isIdentifier name) :
    CodePoint.ofChar '\x7d' ∉ name := by
  have hname : CodePoint.ofChar '\x7d' ∉ dropFinalLineFeed name := by
    intro hmem
    have hpart := List.all_eq_true.1 (all_isNamePart h) _ hmem
    exact absurd hpart (by decide)
  unfold dropFinalLineFeed at hname
  split_ifs at hname with hfeed
  · obtain ⟨init, rfl⟩ := List.getLast?_eq_some_iff.1 hfeed
    rw [List.dropLast_concat] at hname
    simp [hname]
  · exact hname

/-- A template whose substitutions are identifiers is printed, and what is printed is read as the
texts and the identifiers that it is made of, whatever stands behind it, and leaves that unread. -/
theorem template_isRead {texts names : List Text} (hlength : texts.length = names.length + 1)
    (hnames : ∀ name ∈ names, isIdentifier name) (level : Nat) :
    ∃ printed, (Expr.template texts (names.map .ident)).print level = .ok printed ∧
      ∀ rest, ∃ r, readTemplate (printed ++ rest) = some r ∧
        r.texts = texts ∧ r.substitutions = names ∧ r.rest = rest := by
  have hprint : (Expr.template texts (names.map .ident)).print level =
      .ok ("\x60" ++ templateBody texts names ++ "\x60") := by
    rw [Expr.print, List.length_map, if_neg (not_not.2 hlength), printAll_ident]
    rfl
  refine ⟨_, hprint, fun rest => ?_⟩
  have hclosed : ∀ s ∈ names, CodePoint.ofChar '\x7d' ∉ s := fun s hs =>
    brace_notMem_of_isIdentifier (hnames s hs)
  obtain ⟨r, hread, hparts⟩ := readTemplateText_templateBody hlength hclosed rest
  refine ⟨r, ?_, hparts⟩
  have htext : ("\x60" ++ templateBody texts names ++ "\x60" : Text) ++ rest =
      CodePoint.ofChar '\x60' :: (templateBody texts names ++ CodePoint.ofChar '\x60' :: rest) := by
    simp [Text.ofString]
  rw [htext, readTemplate, if_pos rfl, hread]

/-- Texts that end in a dollar sign and in backslashes, one that is itself written like a
substitution, and one that starts with a brace. -/
theorem template_isRead_seams :
    let texts : List Text := ["a\x60$", "$\x7bx\x7d\\", "\x7b\\$"]
    let names : List Text := ["dynamicWhere", "index"]
    let printed : Text :=
      "\x60a\\\x60$$\x7bdynamicWhere\x7d\\$\x7bx\x7d\\\\$\x7bindex\x7d\x7b\\\\$\x60"
    (Expr.template texts (names.map .ident)).print 0 = .ok printed ∧
      ∃ r, readTemplate (printed ++ ("\x60 + \x60" : Text)) = some r ∧
        r.texts = texts ∧ r.substitutions = names ∧ r.rest = "\x60 + \x60" := by
  intro texts names printed
  obtain ⟨other, hother, hread⟩ := @template_isRead texts names rfl (by decide) 0
  have hprint : (Expr.template texts (names.map .ident)).print 0 = .ok printed := by rfl
  rw [hprint] at hother
  cases hother
  exact ⟨hprint, hread _⟩

end Routewright.Script
