/-
The strings that template literals denote. A literal is read by the rules by which the script language
cooks it: escapes are decoded, a backslash before a line end joins the lines, and a carriage return,
with the line feed behind it if there is one, is read as a line feed. What a template is printed as
denotes its texts with their line ends made uniform, since no carriage return is escaped.
-/
import Routewright.Document.Json.Token
import Routewright.Proofs.Script.Template

namespace Routewright.Script

open Document (Json.fourHex?)

/-! ## Escapes -/

/-- What single letters stand for behind a backslash. -/
def letterEscapes : List (CodePoint × CodePoint) := [
  ('b', '\x08'), ('t', '\t'), ('n', '\n'), ('v', '\x0b'), ('f', '\x0c'), ('r', '\r')]

/-- The code points that end a line. -/
def isLineEnd (c : CodePoint) : Bool := c == '\n' || c == '\r' || c == '\u2028' || c == '\u2029'

/-- What is behind a carriage return that stands in front of a text: a line feed belongs to it. -/
def dropLineFeed (t : Text) : Text := (Text.dropStart? "\n" t).getD t

/-- The code point that two hexadecimal digits name. -/
def readByteEscape : Text → Option (Text × Text)
  | a :: b :: t => do
    let a ← a.hexValue?
    let b ← b.hexValue?
    some ([.ofNat (a * 16 + b)], t)
  | _ => none

/-- The code point that hexadecimal digits name before a closing brace. -/
def readBracedEscape (t : Text) : Option (Text × Text) := do
  let digits := t.takeWhile (·.hexValue?.isSome)
  let n := digits.foldl (fun n d => n * 16 + d.hexValue?.getD 0) 0
  let rest ← Text.dropStart? "\x7d" (t.dropWhile (·.hexValue?.isSome))
  if digits ≠ [] ∧ n < 0x110000 then some ([.ofNat n], rest) else none

/-- The code point that four hexadecimal digits name, or any number of them in braces. -/
def readUnicodeEscape : Text → Option (Text × Text)
  | a :: b :: c :: d :: t =>
    if a = '\x7b' then readBracedEscape (b :: c :: d :: t)
    else (Json.fourHex? a b c d).map fun n => ([.ofNat n], t)
  | a :: t => if a = '\x7b' then readBracedEscape t else none
  | [] => none

/-- What stands for a backslash with the text behind it, and the rest of that text. A line end stands
for nothing, and a digit for something only if it is a zero with no digit behind it. -/
def readEscape : Text → Option (Text × Text)
  | [] => none
  | c :: t =>
    if c = 'x' then readByteEscape t
    else if c = 'u' then readUnicodeEscape t
    else if c = '0' ∧ ¬(t.head?.any (·.isDigit)) then some (['\x00'], t)
    else if c.isDigit then none
    else if c = '\r' then some ([], dropLineFeed t)
    else if isLineEnd c then some ([], t)
    else some ([(letterEscapes.lookup c).getD c], t)

/-! ## Literals -/

/-- The rest of a template literal from inside one of its texts. A substitution is a name, which ends
at the first closing brace. -/
def cookText (t : Text) : Option TemplateReading :=
  match t with
  | [] => none
  | c :: t =>
    if c = '\x60' then some ⟨[], [], t⟩
    else if c = '\\' then do
      let (piece, rest) ← readEscape t
      let ⟨rest, _⟩ ← within (t.length + 1) rest
      (cookText rest).map (.prepend piece)
    else if c = '$' ∧ t.head? = some (CodePoint.ofChar '\x7b') then do
      let (name, rest) ← Text.cut? "\x7d" (t.drop 1)
      let ⟨rest, _⟩ ← within (t.length + 1) rest
      (cookText rest).map (.precede name)
    else if c = '\r' then do
      let ⟨rest, _⟩ ← within (t.length + 1) (dropLineFeed t)
      (cookText rest).map (.prepend ['\n'])
    else (cookText t).map (.prepend [c])
termination_by t.length

/-- The template literal that a text opens with: the strings that it is made of, the names that are
substituted between them, and what stands behind the literal. -/
def cookTemplate : Text → Option TemplateReading
  | [] => none
  | c :: t => if c = '\x60' then cookText t else none

/-! ## Rules of the reader -/

theorem cookText_close (t : Text) :
    cookText (CodePoint.ofChar '\x60' :: t) = some ⟨[], [], t⟩ := by
  rw [cookText, if_pos rfl]

/-- A code point that stands for itself behind a backslash. -/
theorem cookText_escape {c : CodePoint} {t : Text} (h : readEscape (c :: t) = some ([c], t)) :
    cookText (CodePoint.ofChar '\\' :: c :: t) = (cookText t).map (.prepend [c]) := by
  have hlt : t.length < (c :: t).length + 1 := length_lt_of_suffix (List.suffix_cons c t)
  rw [cookText, if_neg (by decide), if_pos rfl, h]
  simp only [Option.bind_eq_bind, Option.bind_some, within_of_lt hlt]

theorem cut?_closingBrace {name : Text} (h : CodePoint.ofChar '\x7d' ∉ name) (t : Text) :
    Text.cut? "\x7d" (name ++ CodePoint.ofChar '\x7d' :: t) = some (name, t) := by
  induction name with
  | nil => rfl
  | cons c name ih =>
    rw [List.mem_cons, not_or] at h
    have hnone : List.isPrefixOf? (Text.ofString "\x7d")
        (c :: (name ++ CodePoint.ofChar '\x7d' :: t)) = none :=
      if_neg fun heq => h.1 (eq_of_beq heq)
    rw [List.cons_append, Text.cut?, hnone, ih h.2]
    rfl

theorem cookText_open {name : Text} (h : CodePoint.ofChar '\x7d' ∉ name) (t : Text) :
    cookText (CodePoint.ofChar '$' :: CodePoint.ofChar '\x7b' ::
      (name ++ CodePoint.ofChar '\x7d' :: t)) = (cookText t).map (.precede name) := by
  have hlt : t.length <
      (CodePoint.ofChar '\x7b' :: (name ++ CodePoint.ofChar '\x7d' :: t)).length + 1 :=
    length_lt_of_suffix ⟨CodePoint.ofChar '\x7b' :: (name ++ "\x7d"), by simp [Text.ofString]⟩
  rw [cookText, if_neg (by decide), if_neg (by decide), if_pos ⟨rfl, rfl⟩, List.drop_one,
    List.tail_cons, cut?_closingBrace h]
  simp only [Option.bind_eq_bind, Option.bind_some, within_of_lt hlt]

theorem cookText_return {t rest : Text} (h : dropLineFeed t = rest) (hlt : rest <:+ t) :
    cookText (CodePoint.ofChar '\r' :: t) =
      (cookText rest).map (.prepend [CodePoint.ofChar '\n']) := by
  have hopen : ¬(CodePoint.ofChar '\r' = CodePoint.ofChar '$' ∧
      t.head? = some (CodePoint.ofChar '\x7b')) := fun h => absurd h.1 (by decide)
  rw [cookText, if_neg (by decide), if_neg (by decide), if_neg hopen, if_pos rfl, h]
  simp only [Option.bind_eq_bind, Option.bind_some, within_of_lt (length_lt_of_suffix hlt)]

theorem cookText_plain {c : CodePoint} {t : Text} (htick : c ≠ CodePoint.ofChar '\x60')
    (hslash : c ≠ CodePoint.ofChar '\\')
    (hopen : ¬(c = CodePoint.ofChar '$' ∧ t.head? = some (CodePoint.ofChar '\x7b')))
    (hreturn : c ≠ CodePoint.ofChar '\r') :
    cookText (c :: t) = (cookText t).map (.prepend [c]) := by
  rw [cookText, if_neg htick, if_neg hslash, if_neg hopen, if_neg hreturn]

/-! ## Texts -/

/-- What is written for a code point that ends no line is cooked as it. -/
theorem cookText_escapeTemplate_cons {c : CodePoint} (hc : c ≠ CodePoint.ofChar '\r') (t : Text)
    {tail : Text} (htail : tail.head? ≠ some (CodePoint.ofChar '\x7b')) :
    cookText (Text.escapeTemplate (c :: t) ++ tail) =
      (cookText (Text.escapeTemplate t ++ tail)).map (.prepend [c]) := by
  rw [Text.escapeTemplate_cons]
  split_ifs with hslash htick hopen
  · rw [hslash]
    exact cookText_escape rfl
  · rw [htick]
    exact cookText_escape rfl
  · rw [hopen.1]
    exact cookText_escape rfl
  · refine cookText_plain htick hslash ?_ hc
    rintro ⟨hdollar, hbrace⟩
    exact hopen ⟨hdollar, head?_escapeTemplate_append (by decide) htail hbrace⟩

theorem dropLineFeed_of_head?_ne {t : Text} (h : t.head? ≠ some (CodePoint.ofChar '\n')) :
    dropLineFeed t = t := by
  cases t with
  | nil => rfl
  | cons c t =>
    have hc : CodePoint.ofChar '\n' ≠ c := fun heq => h (congrArg some heq.symm)
    have hnone : Text.dropStart? "\n" (c :: t) = none := if_neg fun heq => hc (eq_of_beq heq)
    rw [dropLineFeed, hnone]
    rfl

/-- An escaped text is cooked as the text with uniform line ends, up to where it ends. -/
theorem cookText_escapeTemplate (t : Text) {tail : Text}
    (hbrace : tail.head? ≠ some (CodePoint.ofChar '\x7b'))
    (hfeed : tail.head? ≠ some (CodePoint.ofChar '\n')) :
    cookText (Text.escapeTemplate t ++ tail) =
      (cookText tail).map (.prepend t.uniformLines) := by
  -- a carriage return is not escaped, and takes a line feed behind it along
  fun_induction Text.uniformLines t with
  | case1 => rw [Text.escapeTemplate_nil, List.nil_append, TemplateReading.map_prepend_nil]
  | case2 => exact cookText_return (dropLineFeed_of_head?_ne hfeed) List.suffix_rfl
  | case3 rest ih =>
    have hreturn : Text.escapeTemplate (CodePoint.ofChar '\r' :: CodePoint.ofChar '\n' :: rest) ++
        tail = CodePoint.ofChar '\r' :: CodePoint.ofChar '\n' :: (Text.escapeTemplate rest ++ tail) :=
      rfl
    rw [hreturn, cookText_return rfl (List.suffix_cons _ _)]
    exact (congrArg _ ih).trans (TemplateReading.map_prepend_prepend _ _ _)
  | case4 d rest hd ih =>
    have hline : dropLineFeed (Text.escapeTemplate (d :: rest) ++ tail) = _ :=
      dropLineFeed_of_head?_ne fun hhead =>
        hd (Option.some.inj (head?_escapeTemplate_append (by decide) hfeed hhead))
    have hreturn : Text.escapeTemplate (CodePoint.ofChar '\r' :: d :: rest) ++ tail =
        CodePoint.ofChar '\r' :: (Text.escapeTemplate (d :: rest) ++ tail) := rfl
    rw [hreturn, cookText_return hline List.suffix_rfl, ih, TemplateReading.map_prepend_prepend]
    rfl
  | case5 c rest hc ih =>
    rw [cookText_escapeTemplate_cons hc rest hbrace, ih, TemplateReading.map_prepend_prepend]
    rfl

/-! ## Templates -/

/-- The body of a template literal denotes its texts with uniform line ends, and the names between
them. -/
theorem cookText_templateBody {texts names : List Text} (hlength : texts.length = names.length + 1)
    (hclosed : ∀ name ∈ names, CodePoint.ofChar '\x7d' ∉ name) (rest : Text) :
    ∃ r : TemplateReading,
      cookText (templateBody texts names ++ CodePoint.ofChar '\x60' :: rest) = some r ∧
        r.texts = texts.map Text.uniformLines ∧ r.substitutions = names ∧ r.rest = rest := by
  induction names generalizing texts with
  | nil =>
    obtain ⟨text, rfl⟩ := List.length_eq_one_iff.1 hlength
    refine ⟨⟨text.uniformLines, [], rest⟩, ?_, rfl, rfl, rfl⟩
    rw [templateBody, cookText_escapeTemplate text (head?_cons_ne (by decide) rest)
      (head?_cons_ne (by decide) rest), cookText_close]
    simp [TemplateReading.prepend]
  | cons name names ih =>
    cases texts with
    | nil => cases hlength
    | cons text texts =>
      rw [List.length_cons, List.length_cons, Nat.add_right_cancel_iff] at hlength
      rw [List.forall_mem_cons] at hclosed
      obtain ⟨r, hread, htexts, hnames, hrest⟩ := ih hlength hclosed.2
      refine ⟨(r.precede name).prepend text.uniformLines, ?_, ?_, ?_, hrest⟩
      · rw [templateBody_cons_append, cookText_escapeTemplate text (head?_cons_ne (by decide) _)
          (head?_cons_ne (by decide) _), cookText_open hclosed.1, hread]
        rfl
      · rw [TemplateReading.texts_prepend_precede, htexts, List.map_cons]
      · rw [TemplateReading.substitutions_prepend_precede, hnames]

/-- What a template of names is printed as denotes its texts with uniform line ends, and the names,
whatever stands behind it. -/
theorem print_template_isCooked {texts names : List Text}
    (hlength : texts.length = names.length + 1) (hnames : ∀ name ∈ names, isIdentifier name)
    (level : Nat) :
    ∃ printed, (Expr.template texts (names.map .ident)).print level = .ok printed ∧
      ∀ rest, ∃ r, cookTemplate (printed ++ rest) = some r ∧
        r.texts = texts.map Text.uniformLines ∧ r.substitutions = names ∧ r.rest = rest := by
  have hprint : (Expr.template texts (names.map .ident)).print level =
      .ok ("\x60" ++ templateBody texts names ++ "\x60") := by
    rw [Expr.print, List.length_map, if_neg (not_not.2 hlength), printAll_ident]
    rfl
  refine ⟨_, hprint, fun rest => ?_⟩
  have hclosed : ∀ name ∈ names, CodePoint.ofChar '\x7d' ∉ name := fun name hname =>
    brace_notMem_of_isIdentifier (hnames name hname)
  obtain ⟨r, hread, hparts⟩ := cookText_templateBody hlength hclosed rest
  refine ⟨r, ?_, hparts⟩
  have htext : ("\x60" ++ templateBody texts names ++ "\x60" : Text) ++ rest =
      CodePoint.ofChar '\x60' :: (templateBody texts names ++ CodePoint.ofChar '\x60' :: rest) := by
    simp [Text.ofString]
  rw [htext, cookTemplate, if_pos rfl, hread]

/-- Escapes that no template is printed with are decoded as well. -/
example :
    (cookTemplate "\x60\\u0041\\u\x7b42\x7d\\x43\\n\\0\\q$\x7bindex\x7d\\\n\r\x60;").map (·.texts) =
      some [Text.ofString "ABC\n\x00q", Text.ofString "\n"] := by
  cbv

end Routewright.Script
