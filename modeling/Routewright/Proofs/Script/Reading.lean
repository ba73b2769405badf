/-
Printing is unambiguous: the reader gives back the tree that a text was printed from, so parentheses
stand wherever they are needed. The trees are those of names, literals, accesses, calls, lists, the
binary operators, and conditionals; an access by a name that is no identifier is printed, and so
read, as an access by a string.

A tree is read in front of any text that it does not go on with. The induction carries two forms of
that, since an operand of an access or a call is read with what is behind it, and every other
expression with the operators behind it; a pair of parentheses turns the second form into the first.
-/
import Routewright.Proofs.Script.Reader
import Routewright.Proofs.Text.Lines

namespace Routewright.Script

/-! ## Trees that are read back -/

def Expr.isNum : Expr → Bool
  | .num _ => true
  | _ => false

mutual

/-- Whether an expression is of the kinds that are read back: its names are identifiers and no
literals, its numbers are naturals, its operators are listed, no property is taken of a number, and
no property ends in a line feed. -/
def Expr.isReadable : Expr → Bool
  | .ident name => isName name && (name != Text.ofString "null" && name != Text.ofString "undefined")
  | .str _ => true
  | .num (.int value) => decide (0 ≤ value)
  | .null => true
  | .undefined => true
  | .member object property =>
    object.isReadable && (!object.isNum && property.getLast? != some (CodePoint.ofChar '\n'))
  | .index object key => object.isReadable && key.isReadable
  | .call callee args => callee.isReadable && Expr.allReadable args
  | .arr items => Expr.allReadable items
  | .binary left operator right =>
    (operatorStrengths.lookup operator).isSome && (left.isReadable && right.isReadable)
  | .conditional test consequent alternate =>
    test.isReadable && (consequent.isReadable && alternate.isReadable)
  | _ => false

def Expr.allReadable : List Expr → Bool
  | [] => true
  | e :: rest => e.isReadable && Expr.allReadable rest

end

mutual

/-- The tree with each access by a name that is no identifier as an access by a string. -/
def Expr.bracketed : Expr → Expr
  | .member object property =>
    if isIdentifier property then .member object.bracketed property
    else .index object.bracketed (.str property)
  | .index object key => .index object.bracketed key.bracketed
  | .call callee args => .call callee.bracketed (Expr.allBracketed args)
  | .arr items => .arr (Expr.allBracketed items)
  | .binary left operator right => .binary left.bracketed operator right.bracketed
  | .conditional test consequent alternate =>
    .conditional test.bracketed consequent.bracketed alternate.bracketed
  | e => e

def Expr.allBracketed : List Expr → List Expr
  | [] => []
  | e :: rest => e.bracketed :: Expr.allBracketed rest

end

/-! ## Their texts -/

mutual

/-- The text of a tree that is read back; it is all on one line, so no level matters. -/
def Expr.inline : Expr → Text
  | .ident name => name
  | .str value => value.quoted
  | .num (.int value) => Text.ofInt value
  | .null => "null"
  | .undefined => "undefined"
  | .member object property =>
    if isIdentifier property then enclose object atomStrength object.inline ++ "." ++ property
    else enclose object atomStrength object.inline ++ "[" ++ property.quoted ++ "]"
  | .index object key => enclose object atomStrength object.inline ++ "[" ++ key.inline ++ "]"
  | .call callee args =>
    enclose callee atomStrength callee.inline ++ "(" ++ commaSeparated (Expr.allInline args) ++ ")"
  | .arr items => "[" ++ commaSeparated (Expr.allInline items) ++ "]"
  | .binary left operator right =>
    enclose left (operatorStrength operator) left.inline ++ " " ++ operator ++ " " ++
      enclose right (operatorStrength operator + 1) right.inline
  | .conditional test consequent alternate =>
    enclose test 1 test.inline ++ " ? " ++ consequent.inline ++ " : " ++ alternate.inline
  | _ => []

def Expr.allInline : List Expr → List Text
  | [] => []
  | e :: rest => e.inline :: Expr.allInline rest

end

mutual

theorem Expr.print_eq_inline : ∀ (e : Expr) (level : Nat), e.isReadable →
    e.print level = .ok e.inline
  | .ident _, _, _ | .str _, _, _ | .num (.int _), _, _ | .null, _, _ | .undefined, _, _ => rfl
  | .member object property, level, h => by
    obtain ⟨hobject, -⟩ := Bool.and_eq_true_iff.1 h
    rw [Expr.print, object.print_eq_inline level hobject, Expr.inline]
    split <;> rfl
  | .index object key, level, h => by
    obtain ⟨hobject, hkey⟩ := Bool.and_eq_true_iff.1 h
    rw [Expr.print, object.print_eq_inline level hobject, key.print_eq_inline level hkey]
    rfl
  | .call callee args, level, h => by
    obtain ⟨hcallee, hargs⟩ := Bool.and_eq_true_iff.1 h
    rw [Expr.print, callee.print_eq_inline level hcallee, Expr.printAll_eq_inline args level hargs]
    rfl
  | .arr items, level, h => by
    rw [Expr.print, Expr.printAll_eq_inline items level h]
    rfl
  | .binary left operator right, level, h => by
    obtain ⟨-, h⟩ := Bool.and_eq_true_iff.1 h
    obtain ⟨hleft, hright⟩ := Bool.and_eq_true_iff.1 h
    rw [Expr.print, left.print_eq_inline level hleft, right.print_eq_inline level hright]
    rfl
  | .conditional test consequent alternate, level, h => by
    obtain ⟨htest, h⟩ := Bool.and_eq_true_iff.1 h
    obtain ⟨hconsequent, halternate⟩ := Bool.and_eq_true_iff.1 h
    rw [Expr.print, test.print_eq_inline level htest, consequent.print_eq_inline level hconsequent,
      alternate.print_eq_inline level halternate]
    rfl

theorem Expr.printAll_eq_inline : ∀ (es : List Expr) (level : Nat), Expr.allReadable es →
    Expr.printAll es level = .ok (Expr.allInline es)
  | [], _, _ => rfl
  | e :: rest, level, h => by
    obtain ⟨he, hrest⟩ := Bool.and_eq_true_iff.1 h
    rw [Expr.printAll, e.print_eq_inline level he, Expr.printAll_eq_inline rest level hrest]
    rfl

end

theorem strength_bracketed (e : Expr) : e.bracketed.strength = e.strength := by
  cases e with
  | member object property =>
    rw [Expr.bracketed]
    split <;> rfl
  | _ => rfl

theorem enclose_bracketed (e : Expr) (needed : Nat) (t : Text) :
    enclose e.bracketed needed t = enclose e needed t := by
  rw [enclose, enclose, strength_bracketed]

mutual

/-- Both ways to write an access are printed alike. -/
theorem Expr.inline_bracketed : ∀ e : Expr, e.bracketed.inline = e.inline
  | .member object property => by
    rw [Expr.bracketed, Expr.inline]
    split
    · rename_i hidentifier
      rw [Expr.inline, if_pos hidentifier, enclose_bracketed, object.inline_bracketed]
    · rw [Expr.inline, enclose_bracketed, object.inline_bracketed, Expr.inline]
  | .index object key => by
    rw [Expr.bracketed, Expr.inline, Expr.inline, enclose_bracketed, object.inline_bracketed,
      key.inline_bracketed]
  | .call callee args => by
    rw [Expr.bracketed, Expr.inline, Expr.inline, enclose_bracketed, callee.inline_bracketed,
      Expr.allInline_bracketed args]
  | .arr items => by
    rw [Expr.bracketed, Expr.inline, Expr.inline, Expr.allInline_bracketed items]
  | .binary left operator right => by
    rw [Expr.bracketed, Expr.inline, Expr.inline, enclose_bracketed, enclose_bracketed,
      left.inline_bracketed, right.inline_bracketed]
  | .conditional test consequent alternate => by
    rw [Expr.bracketed, Expr.inline, Expr.inline, enclose_bracketed, test.inline_bracketed,
      consequent.inline_bracketed, alternate.inline_bracketed]
  | .ident _ | .raw _ | .str _ | .num _ | .null | .undefined | .template .. | .new .. | .obj ..
  | .arrow .. | .arrowBlock .. | .chain .. | .misplaced _ => rfl

theorem Expr.allInline_bracketed : ∀ es : List Expr,
    Expr.allInline (Expr.allBracketed es) = Expr.allInline es
  | [] => rfl
  | e :: rest => by
    rw [Expr.allBracketed, Expr.allInline, Expr.allInline, e.inline_bracketed,
      Expr.allInline_bracketed rest]

end

/-! ## Reading back -/

/-- A tree is read back where its text may stand: as an operand in front of anything that is no part
of its last word, and, bare, in front of what binds no tighter than itself. -/
structure IsRead (e : Expr) : Prop where
  atom : ∀ rest, EndsWord rest → (e.isNum → rest.startsWith "." = false) →
    readAtom (enclose e atomStrength e.inline ++ rest) = readSuffixes e.bracketed rest
  bare : ∀ strength rest, strength ≤ e.strength → Stops e.strength rest →
    readExpr strength (e.inline ++ rest) = readOn strength e.bracketed rest

variable {e : Expr} {rest : Text} {strength : Nat}

theorem enclose_of_le {needed : Nat} (h : needed ≤ e.strength) (t : Text) :
    enclose e needed t = t := if_neg (Nat.not_lt.2 h)

theorem startsWith_point {c : CodePoint} (h : c ≠ CodePoint.ofChar '.') (t : Text) :
    Text.startsWith (c :: t) "." = false :=
  Bool.and_eq_false_imp.2 fun heq => absurd (eq_of_beq heq).symm h

theorem Stops.startsWith_point (h : Stops strength rest) : rest.startsWith "." = false := by
  cases rest with
  | nil => rfl
  | cons c rest =>
    obtain ⟨-, hc, -⟩ := h.head c rfl
    exact Script.startsWith_point hc rest

/-- In brackets and in lists. -/
theorem IsRead.whole (h : IsRead e) (hrest : Stops 0 rest) :
    readExpr 0 (e.inline ++ rest) = some (e.bracketed, rest) := by
  rw [h.bare 0 rest (Nat.zero_le _) (hrest.mono (Nat.zero_le _))]
  exact readOn_of_stops hrest (.inr rfl)

/-- An operand of an operator, with or without parentheses. -/
theorem IsRead.operand (h : IsRead e) {needed looser : Nat} (hneeded : needed ≤ atomStrength)
    (hstrength : strength ≤ needed) (hlooser : looser ≤ needed) (hrest : Stops looser rest) :
    readExpr strength (enclose e needed e.inline ++ rest) = readOn strength e.bracketed rest := by
  by_cases hlt : e.strength < needed
  · -- parenthesised, it is read as it is under an access, and nothing of that kind follows
    have henclose : enclose e needed e.inline = enclose e atomStrength e.inline := by
      rw [enclose, enclose, if_pos hlt, if_pos (Nat.lt_of_lt_of_le hlt hneeded)]
    have hatom := h.atom rest hrest.endsWord fun _ => hrest.startsWith_point
    rw [readSuffixes_of_stops hrest] at hatom
    rw [henclose, readExpr_of_readAtom hatom]
  · have hle : needed ≤ e.strength := Nat.not_lt.1 hlt
    rw [enclose_of_le hle]
    exact h.bare strength rest (Nat.le_trans hstrength hle)
      (hrest.mono (Nat.le_trans hlooser hle))

/-- What is never parenthesised is read with the accesses and calls behind it. -/
theorem IsRead.of_atom (hstrength : e.strength = atomStrength)
    (h : ∀ rest, EndsWord rest → (e.isNum → rest.startsWith "." = false) →
      readAtom (e.inline ++ rest) = readSuffixes e.bracketed rest) : IsRead e where
  atom rest hword hpoint := by
    rw [enclose_of_le (Nat.le_of_eq hstrength.symm)]
    exact h rest hword hpoint
  bare strength rest hle hrest := by
    have hatom := h rest hrest.endsWord fun _ => hrest.startsWith_point
    rw [readSuffixes_of_stops hrest] at hatom
    exact readExpr_of_readAtom hatom

/-- What can be parenthesised is read in its parentheses as it is read bare. -/
theorem IsRead.of_operator (hstrength : e.strength < atomStrength)
    (h : ∀ strength rest, strength ≤ e.strength → Stops e.strength rest →
      readExpr strength (e.inline ++ rest) = readOn strength e.bracketed rest) : IsRead e where
  atom rest _ _ := by
    have hclose : Stops 0 (")" ++ rest) := stops_cons (.inl rfl) 0 rest
    have hinner : readExpr 0 (e.inline ++ (")" ++ rest)) = some (e.bracketed, ")" ++ rest) := by
      rw [h 0 _ (Nat.zero_le _) (hclose.mono (Nat.zero_le _))]
      exact readOn_of_stops hclose (.inr rfl)
    have htext : enclose e atomStrength e.inline ++ rest = "(" ++ (e.inline ++ (")" ++ rest)) := by
      rw [enclose, if_pos hstrength]
      simp only [List.append_assoc]
    rw [htext, readAtom_paren hinner]
  bare := h

/-! ## Lists -/

/-- The texts behind the first one of a list. -/
def moreText (ts : List Text) : Text := ts.flatMap (Text.ofString ", " ++ ·)

theorem stops_moreText (ts : List Text) {close : CodePoint} (hclose : isClosing close)
    (rest : Text) : Stops 0 (moreText ts ++ close :: rest) := by
  cases ts with
  | nil => exact stops_cons (.inl hclose) 0 rest
  | cons t ts => exact stops_cons (.inr rfl) 0 _

theorem readMore_inline {es : List Expr} (h : ∀ e ∈ es, IsRead e) {close : CodePoint}
    (hclose : isClosing close) (rest : Text) :
    readMore close (moreText (Expr.allInline es) ++ close :: rest) =
      some (Expr.allBracketed es, rest) := by
  induction es with
  | nil => exact readMore_nil close rest
  | cons e es ih =>
    have he := (h e List.mem_cons_self).whole (stops_moreText (Expr.allInline es) hclose rest)
    have hmore := ih fun f hf => h f (List.mem_cons_of_mem e hf)
    rw [Expr.allInline, moreText, List.flatMap_cons, List.append_assoc, List.append_assoc]
    exact readMore_cons hclose he hmore

theorem readList_inline {es : List Expr} (h : ∀ e ∈ es, IsRead e) {close : CodePoint}
    (hclose : isClosing close) (rest : Text) :
    readList close (commaSeparated (Expr.allInline es) ++ close :: rest) =
      some (Expr.allBracketed es, rest) := by
  cases es with
  | nil => exact readList_nil close rest
  | cons e es =>
    have he := (h e List.mem_cons_self).whole (stops_moreText (Expr.allInline es) hclose rest)
    have hmore := readMore_inline (fun f hf => h f (List.mem_cons_of_mem e hf)) hclose rest
    rw [Expr.allInline, commaSeparated, Text.join_cons, List.append_assoc]
    exact readList_cons hclose he hmore

/-! ## Trees -/

theorem isRead_word {name : Text} (hname : isName name) (hstrength : e.strength = atomStrength)
    (hinline : e.inline = name) (hword : wordExpr name = e.bracketed) : IsRead e := by
  refine .of_atom hstrength fun rest hrest _ => ?_
  cases name with
  | nil => cases hname
  | cons c name =>
    have hc : isNamePart c := (Bool.and_eq_true_iff.1 (all_isNamePart hname)).1
    rw [hinline, ← hword]
    exact readAtom_word hc (readWord_name hname hrest)

theorem isRead_natural (n : Nat) : IsRead (.num (.int n)) := by
  refine .of_atom rfl fun rest hrest hpoint => ?_
  have hword := readWord_ofNat n hrest (hpoint rfl)
  obtain ⟨c, tail, hdigits⟩ := List.exists_cons_of_ne_nil (Text.ofNat_ne_nil n)
  have hc : isNamePart c :=
    Bool.or_eq_true_iff.2 (.inr (Text.isDigit_of_mem_ofNat (hdigits ▸ List.mem_cons_self)))
  have htext : (Expr.num (.int n)).inline = c :: tail := hdigits
  rw [hdigits, List.cons_append] at hword
  rw [htext, List.cons_append]
  exact readAtom_word hc hword

/-- A name that is printed bare and does not end in a line feed is an identifier. -/
theorem isName_of_isIdentifier {name : Text} (h : isIdentifier name)
    (hend : name.getLast? ≠ some (CodePoint.ofChar '\n')) : isName name := by
  rwa [isIdentifier, dropFinalLineFeed, if_neg hend] at h

theorem isRead_str (value : Text) : IsRead (.str value) :=
  .of_atom rfl fun rest _ _ => readAtom_quoted value rest

theorem IsRead.index {object key : Expr} (hobject : IsRead object) (hkey : IsRead key) :
    IsRead (.index object key) := by
  refine .of_atom rfl fun rest _ _ => ?_
  have hclose : Stops 0 ("]" ++ rest) := stops_cons (.inl rfl) 0 rest
  have hinner := hkey.whole hclose
  have hread := hobject.atom ("[" ++ (key.inline ++ ("]" ++ rest)))
    (fun c hc => Option.some.inj hc ▸ rfl) (fun _ => startsWith_point (by decide) _)
  rw [readSuffixes_index hinner] at hread
  rw [Expr.inline, Expr.bracketed, ← hread]
  simp only [List.append_assoc]

theorem IsRead.member {object : Expr} {property : Text} (h : IsRead object)
    (hnum : object.isNum = false) (hend : property.getLast? ≠ some (CodePoint.ofChar '\n')) :
    IsRead (.member object property) := by
  refine .of_atom rfl fun rest hrest _ => ?_
  rw [Expr.inline, Expr.bracketed]
  split
  · rename_i hidentifier
    have hread := h.atom ("." ++ property ++ rest) (fun c hc => Option.some.inj hc ▸ rfl)
      (fun htrue => absurd htrue (by simp [hnum]))
    rw [readSuffixes_member (isName_of_isIdentifier hidentifier hend) hrest] at hread
    rw [← hread]
    simp only [List.append_assoc]
  · -- it is printed as an access by a string, and so it is read as one
    have hindex := (h.index (isRead_str property)).atom rest hrest nofun
    exact hindex

theorem IsRead.call {callee : Expr} {args : List Expr} (hcallee : IsRead callee)
    (hargs : ∀ e ∈ args, IsRead e) : IsRead (.call callee args) := by
  refine .of_atom rfl fun rest _ _ => ?_
  have hinner : readList ')' (commaSeparated (Expr.allInline args) ++ (")" ++ rest)) =
      some (Expr.allBracketed args, rest) := readList_inline hargs rfl rest
  have hread := hcallee.atom ("(" ++ (commaSeparated (Expr.allInline args) ++ (")" ++ rest)))
    (fun c hc => Option.some.inj hc ▸ rfl) (fun _ => startsWith_point (by decide) _)
  rw [readSuffixes_call hinner] at hread
  rw [Expr.inline, Expr.bracketed, ← hread]
  simp only [List.append_assoc]

theorem IsRead.arr {items : List Expr} (h : ∀ e ∈ items, IsRead e) : IsRead (.arr items) := by
  refine .of_atom rfl fun rest _ _ => ?_
  rw [Expr.inline, List.append_assoc, List.append_assoc]
  exact readAtom_list (readList_inline h rfl rest)

/-- The left operand is read on by the operator, the right one is not: what is behind it binds no
tighter than the operator. -/
theorem IsRead.binary {left right : Expr} {operator : Text} {tightness : Nat}
    (hoperator : operatorStrengths.lookup operator = some tightness) (hleft : IsRead left)
    (hright : IsRead right) : IsRead (.binary left operator right) := by
  obtain ⟨hspace, hquestion, -, hatom⟩ := operator_of_lookup hoperator
  have htightness : operatorStrength operator = tightness := by rw [operatorStrength, hoperator]; rfl
  have hstrength : (Expr.binary left operator right).strength = tightness := htightness
  refine .of_operator (hstrength ▸ hatom) fun strength rest hle hrest => ?_
  rw [hstrength] at hle hrest
  have hstops (t : Text) : Stops tightness (" " ++ operator ++ " " ++ t) := by
    refine stops_word hspace (fun other hother => ?_) (fun heq => absurd heq hquestion) t
    rw [hoperator] at hother
    exact Nat.le_of_eq (Option.some.inj hother).symm
  have hoperand : readExpr (tightness + 1) (enclose right (tightness + 1) right.inline ++ rest) =
      some (right.bracketed, rest) := by
    rw [hright.operand hatom (Nat.le_refl _) (Nat.le_succ _) hrest]
    exact readOn_of_stops hrest (.inl (Nat.lt_succ_self _))
  -- the left operand is read up to the operator, which then takes the right one
  have hread := hleft.operand (Nat.le_of_lt hatom) hle (Nat.le_refl _)
    (hstops (enclose right (tightness + 1) right.inline ++ rest))
  rw [readOn_operator hoperator hle hoperand] at hread
  rw [Expr.inline, Expr.bracketed, htightness, ← hread]
  simp only [List.append_assoc]

theorem IsRead.conditional {test consequent alternate : Expr} (htest : IsRead test)
    (hconsequent : IsRead consequent) (halternate : IsRead alternate) :
    IsRead (.conditional test consequent alternate) := by
  refine .of_operator (Nat.zero_lt_succ 99) fun strength rest hle hrest => ?_
  obtain rfl := Nat.le_zero.1 hle
  have hcolon (t : Text) : Stops 0 (" : " ++ t) :=
    @stops_word 0 ":" (by decide) nofun nofun t
  have hquestion (t : Text) : Stops 1 (" ? " ++ t) :=
    @stops_word 1 "?" (by decide) nofun (fun _ => Nat.one_pos) t
  -- the branches are printed bare: a colon ends the first, and what is behind the whole the second
  have hmiddle := hconsequent.whole (hcolon (alternate.inline ++ rest))
  have hread := htest.operand (by decide) (Nat.zero_le 1) (Nat.le_refl 1)
    (hquestion (consequent.inline ++ (" : " ++ (alternate.inline ++ rest))))
  rw [readOn_conditional hmiddle (halternate.whole hrest)] at hread
  rw [Expr.inline, Expr.bracketed, readOn_of_stops hrest (.inr rfl), ← hread]
  simp only [List.append_assoc]

mutual

/-- Every tree of these kinds is read back. -/
theorem Expr.isRead : ∀ e : Expr, e.isReadable → IsRead e
  | .ident name, h => by
    obtain ⟨hname, h⟩ := Bool.and_eq_true_iff.1 h
    obtain ⟨hnull, hundefined⟩ := Bool.and_eq_true_iff.1 h
    refine isRead_word hname rfl rfl ?_
    rw [wordExpr, if_neg (bne_iff_ne.1 hnull), if_neg (bne_iff_ne.1 hundefined)]
    rfl
  | .str value, _ => isRead_str value
  | .num (.int (.ofNat n)), _ => isRead_natural n
  | .num (.int (.negSucc n)), h => absurd (of_decide_eq_true h) (by omega)
  | .null, _ => @isRead_word .null "null" (by decide) rfl rfl rfl
  | .undefined, _ => @isRead_word .undefined "undefined" (by decide) rfl rfl rfl
  | .member object property, h => by
    obtain ⟨hobject, h⟩ := Bool.and_eq_true_iff.1 h
    obtain ⟨hnum, hend⟩ := Bool.and_eq_true_iff.1 h
    exact (object.isRead hobject).member (by simpa using hnum) (bne_iff_ne.1 hend)
  | .index object key, h => by
    obtain ⟨hobject, hkey⟩ := Bool.and_eq_true_iff.1 h
    exact (object.isRead hobject).index (key.isRead hkey)
  | .call callee args, h => by
    obtain ⟨hcallee, hargs⟩ := Bool.and_eq_true_iff.1 h
    exact (callee.isRead hcallee).call (Expr.allRead args hargs)
  | .arr items, h => .arr (Expr.allRead items h)
  | .binary left operator right, h => by
    obtain ⟨hoperator, h⟩ := Bool.and_eq_true_iff.1 h
    obtain ⟨hleft, hright⟩ := Bool.and_eq_true_iff.1 h
    obtain ⟨tightness, htightness⟩ := Option.isSome_iff_exists.1 hoperator
    exact .binary htightness (left.isRead hleft) (right.isRead hright)
  | .conditional test consequent alternate, h => by
    obtain ⟨htest, h⟩ := Bool.and_eq_true_iff.1 h
    obtain ⟨hconsequent, halternate⟩ := Bool.and_eq_true_iff.1 h
    exact (test.isRead htest).conditional (consequent.isRead hconsequent)
      (alternate.isRead halternate)

theorem Expr.allRead : ∀ es : List Expr, Expr.allReadable es → ∀ e ∈ es, IsRead e
  | [], _ => fun _ h => absurd h List.not_mem_nil
  | e :: rest, h => by
    obtain ⟨he, hrest⟩ := Bool.and_eq_true_iff.1 h
    exact List.forall_mem_cons.2 ⟨e.isRead he, Expr.allRead rest hrest⟩

end

theorem readAll_inline {e : Expr} (h : e.isReadable) : readAll e.inline = some e.bracketed := by
  have hwhole := (e.isRead h).whole (stops_nil 0)
  rw [List.append_nil] at hwhole
  rw [readAll, hwhole]

/-- The text of a tree is read as the tree, accesses by names that are no identifiers written with
brackets; so two trees are printed alike exactly if they are the same but for that. -/
theorem print_unambiguous {e f : Expr} (he : e.isReadable) (hf : f.isReadable)
    (level level' : Nat) :
    (∃ t, e.print level = .ok t ∧ readAll t = some e.bracketed) ∧
      (e.print level = f.print level' ↔ e.bracketed = f.bracketed) := by
  rw [e.print_eq_inline level he, f.print_eq_inline level' hf]
  refine ⟨⟨e.inline, rfl, readAll_inline he⟩, fun htext => ?_, fun htree => ?_⟩
  · have hread := readAll_inline he
    rw [Except.ok.inj htext, readAll_inline hf] at hread
    exact (Option.some.inj hread).symm
  · rw [← e.inline_bracketed, htree, f.inline_bracketed]

/-- Differences of differences and products, with an access by a name that is no identifier. -/
def accessed : Expr :=
  .binary (.binary (.ident "a") "-" (.ident "b")) "-"
    (.binary (.binary (.ident "c") "-" (.num (.int 1))) "*" (.member (.ident "d") "first name"))

/-- The same with an access by a string. -/
def indexed : Expr :=
  .binary (.binary (.ident "a") "-" (.ident "b")) "-"
    (.binary (.binary (.ident "c") "-" (.num (.int 1))) "*" (.index (.ident "d") (.str "first name")))

theorem print_unambiguous_accessed :
    accessed.isReadable ∧ indexed.isReadable ∧
      accessed.print 0 = .ok "a - b - (c - 1) * d[\"first name\"]" ∧
      (∃ t, accessed.print 0 = .ok t ∧ readAll t = some accessed.bracketed) ∧
      (accessed.print 0 = indexed.print 1 ↔ accessed.bracketed = indexed.bracketed) :=
  ⟨rfl, rfl, rfl, print_unambiguous (e := accessed) (f := indexed) rfl rfl 0 1⟩

end Routewright.Script
