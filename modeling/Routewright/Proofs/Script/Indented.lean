/-
Indentation is relative to the line a construct starts on. Printing a tree some levels deeper gives
the same lines, each that is not empty with so many levels more of indentation in front, whatever
objects, blocks, functions and chains stand in each other.

The text of an expression goes on a line that has started, so its first line stays and the others
hang deeper. That is the relation in which every piece of a text is carried through the printer.
-/
import Mathlib.Data.List.Forall2
import Routewright.Proofs.Text.OneLine
import Routewright.Script.Printer

namespace Routewright.Script

open Text (isLine isLine_iff lines unlines)

/-! ## Deeper texts -/

/-- A line some levels deeper; an empty line stays empty. -/
def deeperLine (depth : Nat) (line : Text) : Text :=
  if line.isEmpty then line else indent depth ++ line

/-- A text some levels deeper. The flag says whether a line starts here, as one does behind each
line feed. -/
def deepen (depth : Nat) : Bool → Text → Text
  | _, [] => []
  | starts, c :: rest =>
    if c = '\n' then c :: deepen depth true rest
    else if starts then indent depth ++ c :: deepen depth false rest
    else c :: deepen depth false rest

variable {depth level : Nat} {s s' t t' : Text}

theorem indent_add (level depth : Nat) : indent (level + depth) = indent depth ++ indent level := by
  rw [indent, indent, indent, List.replicate_append_replicate, Nat.mul_add, Nat.add_comm]

theorem isLine_indent (level : Nat) : isLine (indent level) :=
  isLine_iff.2 fun h => absurd (List.eq_of_mem_replicate h) (by decide)

theorem deepen_append_of_isLine (h : s.isLine) (t : Text) :
    deepen depth false (s ++ t) = s ++ deepen depth false t := by
  induction s with
  | nil => rfl
  | cons c s ih =>
    obtain ⟨hc, hs⟩ := Bool.and_eq_true_iff.1 h
    rw [List.cons_append, deepen, if_neg (bne_iff_ne.1 hc), ih hs]
    rfl

theorem deepen_of_isLine (h : t.isLine) : deepen depth false t = t := by
  have := @deepen_append_of_isLine depth t h []
  rwa [List.append_nil, deepen, List.append_nil] at this

theorem deepen_line (h : t.isLine) : deepen depth true t = deeperLine depth t := by
  cases t with
  | nil => rfl
  | cons c t =>
    obtain ⟨hc, ht⟩ := Bool.and_eq_true_iff.1 h
    rw [deepen, if_neg (bne_iff_ne.1 hc), if_pos rfl, deepen_of_isLine ht]
    rfl

/-- A line feed starts a line, whatever stands before it. -/
theorem deepen_append_newline (starts : Bool) (s t : Text) :
    deepen depth starts (s ++ CodePoint.ofChar '\n' :: t) =
      deepen depth starts s ++ CodePoint.ofChar '\n' :: deepen depth true t := by
  induction s generalizing starts with
  | nil => rfl
  | cons c s ih =>
    rw [List.cons_append, deepen, deepen, ih true, ih false]
    -- whether `s` ends a line does not matter: the line feed behind it starts one anyway
    split_ifs
    · rfl
    · rw [List.append_assoc]
      rfl
    · rfl

theorem deepen_unlines (ts : List Text) :
    deepen depth true (unlines ts) = unlines (ts.map (deepen depth true)) := by
  induction ts with
  | nil => rfl
  | cons t ts ih =>
    cases ts with
    | nil => rw [List.map_singleton, Text.unlines_singleton, Text.unlines_singleton]
    | cons next rest =>
      rw [Text.unlines_cons_cons, deepen_append_newline, ih]
      exact (Text.unlines_cons_cons ..).symm

/-- The lines of a deeper text. -/
theorem lines_deepen (t : Text) : lines (deepen depth true t) = (lines t).map (deeperLine depth) := by
  have hlines : (lines t).map (deepen depth true) = (lines t).map (deeperLine depth) :=
    List.map_congr_left fun line hline =>
      deepen_line (isLine_iff.2 (Text.newline_notMem_of_mem_lines hline))
  conv_lhs => rw [← Text.unlines_lines t, deepen_unlines, hlines]
  -- the deeper lines are lines still, so splitting gives them back
  refine Text.lines_unlines (by simp [Text.lines_ne_nil]) fun line hline => ?_
  obtain ⟨old, hold, rfl⟩ := List.mem_map.1 hline
  have hnone := Text.newline_notMem_of_mem_lines hold
  rw [deeperLine]
  split
  · exact hnone
  · rw [List.mem_append, not_or]
    exact ⟨isLine_iff.1 (isLine_indent depth), hnone⟩

/-! ## Pieces of a line -/

/-- What a text becomes some levels deeper, whatever follows it on its last line. -/
def Becomes (depth : Nat) (starts : Bool) (t t' : Text) : Prop :=
  ∀ rest, deepen depth starts (t ++ rest) = t' ++ deepen depth false rest

/-- A text that goes on a line. -/
abbrev Hangs (depth : Nat) (t t' : Text) : Prop := Becomes depth false t t'

/-- A text that can start a line, too: it does not begin with the end of one. -/
structure Stands (depth : Nat) (t t' : Text) : Prop where
  hangs : Hangs depth t t'
  starts : Becomes depth true t (indent depth ++ t')

theorem Becomes.append {starts : Bool} (hs : Becomes depth starts s s') (ht : Hangs depth t t') :
    Becomes depth starts (s ++ t) (s' ++ t') := fun rest => by
  rw [List.append_assoc, hs, ht, List.append_assoc]

theorem Becomes.eq_deepen {starts : Bool} (h : Becomes depth starts t t') :
    t' = deepen depth starts t := by
  have := h []
  rwa [List.append_nil, deepen, List.append_nil, eq_comm] at this

theorem Hangs.piece (h : t.isLine) : Hangs depth t t := deepen_append_of_isLine h

theorem Stands.of_ne_nil (h : t.isLine) (hne : t ≠ []) : Stands depth t t := by
  refine ⟨.piece h, fun rest => ?_⟩
  obtain ⟨c, tail, rfl⟩ := List.exists_cons_of_ne_nil hne
  obtain ⟨hc, htail⟩ := Bool.and_eq_true_iff.1 h
  rw [List.cons_append, deepen, if_neg (bne_iff_ne.1 hc), if_pos rfl,
    deepen_append_of_isLine htail, List.append_assoc]
  rfl

theorem Stands.piece (h : t.isLine && !t.isEmpty) : Stands depth t t := by
  obtain ⟨hline, hne⟩ := Bool.and_eq_true_iff.1 h
  exact .of_ne_nil hline (by simpa using hne)

theorem Stands.append (hs : Stands depth s s') (ht : Hangs depth t t') :
    Stands depth (s ++ t) (s' ++ t') := by
  refine ⟨hs.hangs.append ht, ?_⟩
  rw [← List.append_assoc]
  exact hs.starts.append ht

/-- At the start of a line, indentation grows by the depth. -/
theorem Stands.indented (h : Stands depth t t') (level : Nat) :
    Becomes depth true (indent level ++ t) (indent (level + depth) ++ t') := by
  rw [indent_add, List.append_assoc]
  cases level with
  | zero => exact h.starts
  | succ level =>
    -- the old indentation starts the line, and is not empty
    have hindent : Stands depth (indent (level + 1)) (indent (level + 1)) :=
      .of_ne_nil (isLine_indent _) (List.cons_ne_nil _ _)
    exact (hindent.append h.hangs).starts

/-- A text on the next line. -/
theorem Stands.below (h : Stands depth t t') (level : Nat) :
    Hangs depth ("\n" ++ indent level ++ t) ("\n" ++ indent (level + depth) ++ t') := fun rest =>
  congrArg (CodePoint.ofChar '\n' :: ·) (h.indented level rest)

/-- Lines between braces; the closing one is on a line of its own. -/
theorem Stands.block {ts ts' : List Text} (h : ts' = ts.map (deepen depth true)) (level : Nat) :
    Stands depth ("\x7b\n" ++ unlines ts ++ "\n" ++ indent level ++ "\x7d")
      ("\x7b\n" ++ unlines ts' ++ "\n" ++ indent (level + depth) ++ "\x7d") := by
  have hopen : Stands depth "\x7b" "\x7b" := .piece rfl
  have hclose : Stands depth "\x7d" "\x7d" := .piece rfl
  have hlines : Hangs depth
      ("\n" ++ (unlines ts ++ ("\n" ++ (indent level ++ "\x7d"))))
      ("\n" ++ (unlines ts' ++ ("\n" ++ (indent (level + depth) ++ "\x7d")))) := by
    intro rest
    have hfeed : Text.ofString "\n" = [CodePoint.ofChar '\n'] := rfl
    simp only [hfeed, List.append_assoc, List.cons_append, List.nil_append]
    rw [deepen, if_pos rfl, deepen_append_newline, deepen_unlines, ← h,
      ← List.append_assoc (indent level), hclose.indented level, List.append_assoc (indent _)]
  simp only [List.append_assoc]
  exact hopen.append hlines

theorem Hangs.join {separator : Text} (hseparator : separator.isLine) {ts ts' : List Text}
    (h : List.Forall₂ (Hangs depth) ts ts') :
    Hangs depth (Text.join separator ts) (Text.join separator ts') := by
  induction h with
  | nil => exact .piece rfl
  | cons ht hrest ih =>
    cases hrest with
    | nil => simpa [Text.join] using ht
    | cons _ _ =>
      rw [Text.join_cons_cons, Text.join_cons_cons]
      exact (ht.append (.piece hseparator)).append ih

theorem Hangs.annotated (ht : Hangs depth t t') {typeHint : Option Text}
    (h : typeHint.all isLine) : Hangs depth (annotated t typeHint) (annotated t' typeHint) := by
  cases typeHint with
  | none => exact ht
  | some hint =>
    unfold Script.annotated
    dsimp only
    split
    · exact ht
    · exact (ht.append (.piece rfl)).append (.piece h)

theorem Stands.enclose (ht : Stands depth t t') (e : Expr) (needed : Nat) :
    Stands depth (enclose e needed t) (enclose e needed t') := by
  unfold Script.enclose
  split
  · exact ((Stands.piece rfl).append ht.hangs).append (.piece rfl)
  · exact ht

theorem hangs_of_stands {ts ts' : List Text} (h : List.Forall₂ (Stands depth) ts ts') :
    List.Forall₂ (Hangs depth) ts ts' :=
  h.imp fun _ _ => Stands.hangs

theorem Hangs.commaSeparated {ts ts' : List Text} (h : List.Forall₂ (Hangs depth) ts ts') :
    Hangs depth (commaSeparated ts) (commaSeparated ts') := .join rfl h

/-- A template literal between its back ticks. -/
theorem Hangs.templateBody {texts ps ps' : List Text} (htexts : texts.all isLine)
    (h : List.Forall₂ (Stands depth) ps ps') :
    Hangs depth (templateBody texts ps) (templateBody texts ps') := by
  induction texts generalizing ps ps' with
  | nil => exact .piece rfl
  | cons text texts ih =>
    obtain ⟨htext, htexts⟩ := Bool.and_eq_true_iff.1 htexts
    have hescaped : Hangs depth (Text.escapeTemplate text) (Text.escapeTemplate text) :=
      .piece (Text.isLine_escapeTemplate htext)
    cases h with
    | nil => exact hescaped
    | cons hp hrest =>
      exact (((hescaped.append (.piece rfl)).append hp.hangs).append (.piece rfl)).append
        (ih htexts hrest)

theorem deepen_entryLines {entries entries' : List Text} (level : Nat)
    (h : List.Forall₂ (Stands depth) entries entries') :
    (entries.map fun e => indent (level + 1) ++ e ++ ",").map (deepen depth true) =
      entries'.map fun e => indent (level + depth + 1) ++ e ++ "," := by
  induction h with
  | nil => rfl
  | cons he hrest ih =>
    rw [List.map_cons, List.map_cons, List.map_cons, ih, he.indented, deepen_of_isLine rfl,
      Nat.add_right_comm]

/-- An object: its entries are a level deeper than its closing brace. -/
theorem Stands.objectText {entries entries' : List Text} (multiline : Bool) (level : Nat)
    (h : List.Forall₂ (Stands depth) entries entries') :
    Stands depth (objectText entries multiline level)
      (objectText entries' multiline (level + depth)) := by
  cases h with
  | nil => exact .piece rfl
  | cons he hrest =>
    have hentries := List.Forall₂.cons he hrest
    cases multiline with
    | false =>
      have hopen : Stands depth "\x7b " "\x7b " := .piece rfl
      exact (hopen.append (.commaSeparated (hangs_of_stands hentries))).append (.piece rfl)
    | true => exact .block (deepen_entryLines level hentries).symm level

/-! ## Printing -/

/-- Two prints that are refused alike, or whose results are related. -/
def Alike {α : Type} (R : α → α → Prop) : Except Refusal α → Except Refusal α → Prop
  | .ok v, .ok v' => R v v'
  | .error refusal, .error refusal' => refusal = refusal'
  | _, _ => False

theorem Alike.bind {α β : Type} {R : α → α → Prop} {S : β → β → Prop} {x x' : Except Refusal α}
    {f f' : α → Except Refusal β} (hx : Alike R x x') (hf : ∀ v v', R v v' → Alike S (f v) (f' v')) :
    Alike S (x >>= f) (x' >>= f') := by
  cases x with
  | error refusal =>
    cases x' with
    | error refusal' => exact hx
    | ok v' => exact hx.elim
  | ok v =>
    cases x' with
    | error refusal' => exact hx.elim
    | ok v' => exact hf v v' hx

/-- Texts that are made of related results. -/
theorem Alike.bind_ok {α β : Type} {R : α → α → Prop} {S : β → β → Prop} {x x' : Except Refusal α}
    {f f' : α → β} (hx : Alike R x x') (hf : ∀ v v', R v v' → S (f v) (f' v')) :
    Alike S (x >>= fun v => .ok (f v)) (x' >>= fun v => .ok (f' v)) :=
  hx.bind hf

/-! ## Trees of single lines -/

mutual

/-- Whether the texts in an expression are single lines, and none of its names and pieces of code
is empty; string literals are escaped, so they may hold anything. -/
def Expr.isTidy : Expr → Bool
  | .ident name => isLine name && !name.isEmpty
  | .raw code => isLine code && !code.isEmpty
  | .template texts substitutions => texts.all isLine && Expr.allTidy substitutions
  | .member object property => object.isTidy && isLine property
  | .index object key => object.isTidy && key.isTidy
  | .call callee args => callee.isTidy && Expr.allTidy args
  | .new callee args => callee.isTidy && Expr.allTidy args
  | .obj properties _ => Property.allTidy properties
  | .arr items => Expr.allTidy items
  | .arrow params body => Param.allTidy params && body.isTidy
  | .arrowBlock params body => Param.allTidy params && Stmt.allTidy body
  | .binary left operator right => left.isTidy && (isLine operator && right.isTidy)
  | .conditional test consequent alternate =>
    test.isTidy && (consequent.isTidy && alternate.isTidy)
  | .chain base links => base.isTidy && Link.allTidy links
  | _ => true

def Expr.allTidy : List Expr → Bool
  | [] => true
  | e :: rest => e.isTidy && Expr.allTidy rest

def Property.allTidy : List Property → Bool
  | [] => true
  | .entry key value :: rest => isLine key && (value.isTidy && Property.allTidy rest)
  | .shorthand key :: rest => isLine key && Property.allTidy rest

def Param.allTidy : List Param → Bool
  | [] => true
  | .named name typeHint :: rest => isLine name && (typeHint.all isLine && Param.allTidy rest)
  | .pattern properties _ typeHint :: rest =>
    Property.allTidy properties && (typeHint.all isLine && Param.allTidy rest)

def Link.allTidy : List Link → Bool
  | [] => true
  | .call method args :: rest => isLine method && (Expr.allTidy args && Link.allTidy rest)

def Stmt.isTidy : Stmt → Bool
  | .const name typeHint value => isLine name && (typeHint.all isLine && value.isTidy)
  | .expr value => value.isTidy
  | .return (some value) => value.isTidy
  | .ifThen test body => Stmt.allTidy body && test.isTidy
  | .delete target => target.isTidy
  | .comment text => isLine text
  | .importFrom _ default names => default.all isLine && names.all isLine
  | .exportDefault value => value.isTidy
  | _ => true

def Stmt.allTidy : List Stmt → Bool
  | [] => true
  | s :: rest => s.isTidy && Stmt.allTidy rest

end

/-! ## Trees some levels deeper -/

theorem entryLevel_add (multiline : Bool) (level depth : Nat) :
    entryLevel multiline (level + depth) = entryLevel multiline level + depth := by
  cases multiline
  · rfl
  · exact Nat.add_right_comm ..

theorem stands_quoted (value : Text) : Stands depth value.quoted value.quoted :=
  .of_ne_nil (Text.isLine_quoted value) (List.cons_ne_nil _ _)

theorem stands_keyText {key : Text} (h : isLine key) : Stands depth (keyText key) (keyText key) := by
  unfold keyText
  split
  · rename_i hidentifier
    refine .of_ne_nil h ?_
    rintro rfl
    cases hidentifier
  · exact stands_quoted key

theorem Numeral.stands_text (value : Numeral) : Alike (Stands depth) value.text value.text := by
  cases value with
  | int i => exact .of_ne_nil (Text.isLine_ofInt i) (Text.ofInt_ne_nil i)
  | float d =>
    rw [Numeral.text]
    split
    · exact .of_ne_nil (Text.isLine_ofInt _) (Text.ofInt_ne_nil _)
    · exact .of_ne_nil d.isLine_text d.text_ne_nil
  | truth b => exact (rfl : Refusal.truthNumeral = _)

theorem stands_importText {source : Text} {default : Option Text} {names : List Text}
    (hdefault : default.all isLine) (hnames : names.all isLine) :
    Stands depth (importText source default names) (importText source default names) := by
  have hopen : Stands depth "import " "import " := .piece rfl
  have hquoted : Hangs depth source.quoted source.quoted := (stands_quoted source).hangs
  unfold importText
  extract_lets clauses
  have hclauses : isLine (commaSeparated clauses) := by
    refine Text.isLine_join rfl fun clause hclause => ?_
    rcases List.mem_append.1 hclause with hclause | hclause
    · obtain ⟨hclause, -⟩ := List.mem_filter.1 hclause
      obtain rfl := Option.mem_toList.1 hclause
      exact hdefault
    · split at hclause
      · cases hclause
      · obtain rfl := List.mem_singleton.1 hclause
        rw [Text.isLine_append, Text.isLine_append, commaSeparated,
          Text.isLine_join rfl (List.all_eq_true.1 hnames)]
        rfl
  split
  · exact (hopen.append hquoted).append (.piece rfl)
  · exact (((hopen.append (.piece hclauses)).append (.piece rfl)).append hquoted).append (.piece rfl)

-- The induction is on trees. What is printed in the middle of a line is carried by `Stands` and
-- `Hangs`; a statement is a line of its own, so for it the flag of `deepen` is set.
mutual

theorem Expr.stands_print : ∀ (e : Expr) (level : Nat), e.isTidy →
    Alike (Stands depth) (e.print level) (e.print (level + depth))
  | .ident _, _, h | .raw _, _, h => Stands.piece h
  | .str value, _, _ => stands_quoted value
  | .num value, _, _ => value.stands_text
  | .null, _, _ | .undefined, _, _ => Stands.piece rfl
  | .template texts substitutions, level, h => by
    obtain ⟨htexts, hsubstitutions⟩ := Bool.and_eq_true_iff.1 h
    rw [Expr.print, Expr.print]
    split
    · exact (rfl : Refusal.unevenTemplate = _)
    · refine (Expr.stands_printAll substitutions level hsubstitutions).bind_ok fun ps ps' hps => ?_
      have hopen : Stands depth "\x60" "\x60" := .piece rfl
      exact (hopen.append (.templateBody htexts hps)).append (.piece rfl)
  | .member object property, level, h => by
    obtain ⟨hobject, hproperty⟩ := Bool.and_eq_true_iff.1 h
    refine (object.stands_print level hobject).bind fun t t' ht => ?_
    dsimp only
    split
    · exact ((ht.enclose object atomStrength).append (.piece rfl)).append (.piece hproperty)
    · exact (((ht.enclose object atomStrength).append (.piece rfl)).append
        (stands_quoted property).hangs).append (.piece rfl)
  | .index object key, level, h => by
    obtain ⟨hobject, hkey⟩ := Bool.and_eq_true_iff.1 h
    exact (object.stands_print level hobject).bind fun t t' ht =>
      (key.stands_print level hkey).bind_ok fun k k' hk =>
        (((ht.enclose object atomStrength).append (.piece rfl)).append hk.hangs).append (.piece rfl)
  | .call callee args, level, h => by
    obtain ⟨hcallee, hargs⟩ := Bool.and_eq_true_iff.1 h
    exact (callee.stands_print level hcallee).bind fun t t' ht =>
      (Expr.stands_printAll args level hargs).bind_ok fun as as' has =>
        (((ht.enclose callee atomStrength).append (.piece rfl)).append
          (.commaSeparated (hangs_of_stands has))).append (.piece rfl)
  | .new callee args, level, h => by
    obtain ⟨hcallee, hargs⟩ := Bool.and_eq_true_iff.1 h
    have hopen : Stands depth "new " "new " := .piece rfl
    exact (callee.stands_print level hcallee).bind fun t t' ht =>
      (Expr.stands_printAll args level hargs).bind_ok fun as as' has =>
        (((hopen.append ht.hangs).append (.piece rfl)).append
          (.commaSeparated (hangs_of_stands has))).append (.piece rfl)
  | .obj properties multiline, level, h => by
    rw [Expr.print, Expr.print, entryLevel_add]
    exact (Property.stands_printAll properties (entryLevel multiline level) h).bind_ok
      fun es es' hes => .objectText multiline level hes
  | .arr items, level, h => by
    have hopen : Stands depth "[" "[" := .piece rfl
    exact (Expr.stands_printAll items level h).bind_ok fun is is' his =>
      (hopen.append (.commaSeparated (hangs_of_stands his))).append (.piece rfl)
  | .arrow params body, level, h => by
    obtain ⟨hparams, hbody⟩ := Bool.and_eq_true_iff.1 h
    have hopen : Stands depth "(" "(" := .piece rfl
    refine (Param.hangs_printAll params level hparams).bind fun ps ps' hps =>
      (body.stands_print level hbody).bind_ok fun t t' ht => ?_
    refine ((hopen.append (.commaSeparated hps)).append (.piece rfl)).append ?_
    -- an object as the body is put into parentheses
    split
    · exact (hopen.append ht.hangs).hangs.append (.piece rfl)
    · exact ht.hangs
  | .arrowBlock params body, level, h => by
    -- the statements are whole lines, so here the text of a line is put around other lines
    obtain ⟨hparams, hbody⟩ := Bool.and_eq_true_iff.1 h
    have hopen : Stands depth "(" "(" := .piece rfl
    rw [Expr.print, Expr.print, Nat.add_right_comm]
    refine (Param.hangs_printAll params level hparams).bind fun ps ps' hps =>
      (Stmt.deepen_printAll body (level + 1) hbody).bind_ok fun ls ls' hls => ?_
    have := (((hopen.append (.commaSeparated hps)).append (.piece (t := ") => ") rfl)).append
      (Stands.block hls level).hangs)
    simp only [List.append_assoc] at this ⊢
    exact this
  | .binary left operator right, level, h => by
    obtain ⟨hleft, hrest⟩ := Bool.and_eq_true_iff.1 h
    obtain ⟨hoperator, hright⟩ := Bool.and_eq_true_iff.1 hrest
    exact (left.stands_print level hleft).bind fun l l' hl =>
      (right.stands_print level hright).bind_ok fun r r' hr =>
        ((((hl.enclose left _).append (.piece rfl)).append (.piece hoperator)).append
          (.piece rfl)).append (hr.enclose right _).hangs
  | .conditional test consequent alternate, level, h => by
    obtain ⟨htest, hrest⟩ := Bool.and_eq_true_iff.1 h
    obtain ⟨hconsequent, halternate⟩ := Bool.and_eq_true_iff.1 hrest
    exact (test.stands_print level htest).bind fun t t' ht =>
      (consequent.stands_print level hconsequent).bind fun c c' hc =>
        (alternate.stands_print level halternate).bind_ok fun a a' ha =>
          ((((ht.enclose test 1).append (.piece rfl)).append hc.hangs).append
            (.piece rfl)).append ha.hangs
  | .chain base links, level, h => by
    obtain ⟨hbase, hlinks⟩ := Bool.and_eq_true_iff.1 h
    rw [Expr.print, Expr.print, Nat.add_right_comm]
    exact (base.stands_print level hbase).bind fun b b' hb =>
      (Link.hangs_printAll links (level + 1) hlinks).bind_ok fun ls ls' hls => hb.append hls
  | .misplaced kind, _, _ => (rfl : Refusal.unsupportedExpression kind = _)

theorem Expr.stands_printAll : ∀ (es : List Expr) (level : Nat), Expr.allTidy es →
    Alike (List.Forall₂ (Stands depth)) (Expr.printAll es level) (Expr.printAll es (level + depth))
  | [], _, _ => List.Forall₂.nil
  | e :: rest, level, h => by
    obtain ⟨he, hrest⟩ := Bool.and_eq_true_iff.1 h
    exact (e.stands_print level he).bind fun t t' ht =>
      (Expr.stands_printAll rest level hrest).bind_ok fun ts ts' hts => .cons ht hts

theorem Property.stands_printAll : ∀ (ps : List Property) (level : Nat), Property.allTidy ps →
    Alike (List.Forall₂ (Stands depth)) (Property.printAll ps level)
      (Property.printAll ps (level + depth))
  | [], _, _ => List.Forall₂.nil
  | .entry key value :: rest, level, h => by
    obtain ⟨hkey, h⟩ := Bool.and_eq_true_iff.1 h
    obtain ⟨hvalue, hrest⟩ := Bool.and_eq_true_iff.1 h
    have hentry : Alike (Stands depth) (Property.print (.entry key value) level)
        (Property.print (.entry key value) (level + depth)) :=
      (value.stands_print level hvalue).bind_ok fun t t' ht =>
        ((stands_keyText hkey).append (.piece rfl)).append ht.hangs
    exact hentry.bind fun t t' ht =>
      (Property.stands_printAll rest level hrest).bind_ok fun ts ts' hts => .cons ht hts
  | .shorthand key :: rest, level, h => by
    obtain ⟨hkey, hrest⟩ := Bool.and_eq_true_iff.1 h
    exact (Property.stands_printAll rest level hrest).bind_ok fun ts ts' hts =>
      .cons (stands_keyText hkey) hts

theorem Param.hangs_printAll : ∀ (ps : List Param) (level : Nat), Param.allTidy ps →
    Alike (List.Forall₂ (Hangs depth)) (Param.printAll ps level) (Param.printAll ps (level + depth))
  | [], _, _ => List.Forall₂.nil
  | .named name typeHint :: rest, level, h => by
    obtain ⟨hname, h⟩ := Bool.and_eq_true_iff.1 h
    obtain ⟨htypeHint, hrest⟩ := Bool.and_eq_true_iff.1 h
    exact (Param.hangs_printAll rest level hrest).bind_ok fun ts ts' hts =>
      .cons ((Hangs.piece hname).annotated htypeHint) hts
  | .pattern properties multiline typeHint :: rest, level, h => by
    obtain ⟨hproperties, h⟩ := Bool.and_eq_true_iff.1 h
    obtain ⟨htypeHint, hrest⟩ := Bool.and_eq_true_iff.1 h
    have hpattern : Alike (Hangs depth) (Param.print (.pattern properties multiline typeHint) level)
        (Param.print (.pattern properties multiline typeHint) (level + depth)) := by
      rw [Param.print, Param.print, entryLevel_add]
      exact (Property.stands_printAll properties (entryLevel multiline level) hproperties).bind_ok
        fun es es' hes => (Stands.objectText multiline level hes).hangs.annotated htypeHint
    exact hpattern.bind fun t t' ht =>
      (Param.hangs_printAll rest level hrest).bind_ok fun ts ts' hts => .cons ht hts

theorem Link.hangs_printAll : ∀ (ls : List Link) (level : Nat), Link.allTidy ls →
    Alike (Hangs depth) (Link.printAll ls level) (Link.printAll ls (level + depth))
  | [], _, _ => Hangs.piece rfl
  | .call method args :: rest, level, h => by
    obtain ⟨hmethod, h⟩ := Bool.and_eq_true_iff.1 h
    obtain ⟨hargs, hrest⟩ := Bool.and_eq_true_iff.1 h
    have hdot : Stands depth "." "." := .piece rfl
    exact (Expr.stands_printAll args level hargs).bind fun as as' has =>
      (Link.hangs_printAll rest level hrest).bind_ok fun ls ls' hls =>
        (((((hdot.below level).append (.piece hmethod)).append (.piece rfl)).append
          (.commaSeparated (hangs_of_stands has))).append (.piece rfl)).append hls

/-- Printing a statement some levels deeper makes its text so many levels deeper. -/
theorem Stmt.deepen_print : ∀ (s : Stmt) (level : Nat), s.isTidy →
    Alike (fun t t' => t' = deepen depth true t) (s.print level) (s.print (level + depth))
  | .const name typeHint value, level, h => by
    obtain ⟨hname, h⟩ := Bool.and_eq_true_iff.1 h
    obtain ⟨htypeHint, hvalue⟩ := Bool.and_eq_true_iff.1 h
    have hopen : Stands depth "const " "const " := .piece rfl
    exact (value.stands_print level hvalue).bind_ok fun t t' ht =>
      (((((hopen.indented level).append ((Hangs.piece hname).annotated htypeHint)).append
        (.piece rfl)).append ht.hangs).append (.piece rfl)).eq_deepen
  | .expr value, level, h =>
    (value.stands_print level h).bind_ok fun t t' ht =>
      ((ht.indented level).append (.piece rfl)).eq_deepen
  | .return none, level, _ =>
    ((Stands.piece (t := "return;") rfl).indented level).eq_deepen
  | .return (some value), level, h => by
    have hopen : Stands depth "return " "return " := .piece rfl
    exact (value.stands_print level h).bind_ok fun t t' ht =>
      (((hopen.indented level).append ht.hangs).append (.piece rfl)).eq_deepen
  | .delete target, level, h => by
    have hopen : Stands depth "delete " "delete " := .piece rfl
    exact (target.stands_print level h).bind_ok fun t t' ht =>
      (((hopen.indented level).append ht.hangs).append (.piece rfl)).eq_deepen
  | .exportDefault value, level, h => by
    have hopen : Stands depth "export default " "export default " :=
      .piece rfl
    exact (value.stands_print level h).bind_ok fun t t' ht =>
      (((hopen.indented level).append ht.hangs).append (.piece rfl)).eq_deepen
  | .ifThen test body, level, h => by
    obtain ⟨hbody, htest⟩ := Bool.and_eq_true_iff.1 h
    have hopen : Stands depth "if (" "if (" := .piece rfl
    rw [Stmt.print, Stmt.print, Nat.add_right_comm]
    refine (Stmt.deepen_printAll body (level + 1) hbody).bind fun ls ls' hls =>
      (test.stands_print level htest).bind_ok fun t t' ht => ?_
    have := (((hopen.indented level).append ht.hangs).append (.piece (t := ") ") rfl)).append
      (Stands.block hls level).hangs
    simp only [List.append_assoc] at this ⊢
    exact this.eq_deepen
  | .comment text, level, h => by
    have hopen : Stands depth "// " "// " := .piece rfl
    exact ((hopen.indented level).append (.piece h)).eq_deepen
  | .importFrom source default names, level, h => by
    obtain ⟨hdefault, hnames⟩ := Bool.and_eq_true_iff.1 h
    exact ((stands_importText hdefault hnames).indented level).eq_deepen
  | .blank, _, _ => (rfl : [] = deepen depth true [])
  | .misplaced kind, _, _ => (rfl : Refusal.unsupportedStatement kind = _)

theorem Stmt.deepen_printAll : ∀ (body : List Stmt) (level : Nat), Stmt.allTidy body →
    Alike (fun ts ts' => ts' = ts.map (deepen depth true)) (Stmt.printAll body level)
      (Stmt.printAll body (level + depth))
  | [], _, _ => (rfl : [] = _)
  | s :: rest, level, h => by
    obtain ⟨hs, hrest⟩ := Bool.and_eq_true_iff.1 h
    exact (Stmt.deepen_print s level hs).bind fun t t' ht =>
      (Stmt.deepen_printAll rest level hrest).bind_ok fun ts ts' hts => by
        rw [List.map_cons, ht, hts]

end

/-- The lines of a statement at a level are its lines at the outermost one, each that is not empty
behind the indentation of the level. -/
theorem lines_print {s : Stmt} (h : s.isTidy) {t : Text} (ht : s.print 0 = .ok t) (level : Nat) :
    ∃ t', s.print level = .ok t' ∧ lines t' = (lines t).map (deeperLine level) := by
  have hprint := @Stmt.deepen_print level s 0 h
  rw [ht, Nat.zero_add] at hprint
  cases ht' : s.print level with
  | error refusal =>
    rw [ht'] at hprint
    exact hprint.elim
  | ok t' =>
    rw [ht'] at hprint
    obtain rfl : t' = deepen level true t := hprint
    exact ⟨_, rfl, lines_deepen t⟩

/-- A block with a chain that ends in an object, and with an empty line. -/
def chainedBlock : Stmt :=
  .ifThen (.member (.ident "payload") "name") [
    .const "app" none (.chain (.new (.ident "Elysia") [])
      [.call "get" [.str "/\n", .obj [.entry "tags" (.arr [])] true]]),
    .blank,
    .return none]

/-- The text of the block at the outermost level. -/
def chainedBlockText : Text :=
  unlines [
    "if (payload.name) \x7b",
    "  const app = new Elysia()",
    "    .get(\"/\\n\", \x7b",
    "      tags: [],",
    "    \x7d);",
    "",
    "  return;",
    "\x7d"]

theorem lines_print_chainedBlock :
    chainedBlock.isTidy ∧ chainedBlock.print 0 = .ok chainedBlockText ∧
      ∃ t', chainedBlock.print 2 = .ok t' ∧ lines t' = (lines chainedBlockText).map (deeperLine 2) :=
  ⟨rfl, rfl, lines_print (s := chainedBlock) rfl rfl 2⟩

end Routewright.Script
