/-
A reader of expressions, by which the printer is judged. It knows the binding strengths of the
operators and nothing of where the printer puts parentheses: an operand takes every access and call
behind it, an operator takes to its right what binds tighter than itself, so equal ones associate to
the left, and a conditional binds loosest.

What is left unread is checked to be shorter than what was to be read, and the recursion is justified
by that check. Below, each form of expression has a rule that says how it is read from how its parts
are read; in a rule the parts are read off a text that stands in front of what is left, so that the
check holds by itself.
-/
import Routewright.Proofs.Document.Quoted
import Routewright.Proofs.Text.Digits
import Routewright.Script.Printer

namespace Routewright.Script

/-! ## Tokens -/

/-- The word between two spaces, and the text behind the second one. -/
def nextWord? : Text → Option (Text × Text)
  | [] => none
  | c :: rest =>
    if c = ' ' then
      match rest.dropWhile (· != CodePoint.ofChar ' ') with
      | [] => none
      | _ :: tail => some (rest.takeWhile (· != CodePoint.ofChar ' '), tail)
    else none

/-- A string literal behind its opening quote. -/
def readString (t : Text) : Option (Text × Text) :=
  match Document.Json.scanString 0 1 t with
  | .ok (pieces, rest) => some (Document.Json.joinSurrogates pieces, rest)
  | .error _ => none

/-- What a name stands for by itself. -/
def wordExpr (name : Text) : Expr :=
  if name = "null" then .null
  else if name = "undefined" then .undefined
  else .ident name

/-- A name, or the digits of a number; a point behind digits would belong to the number. -/
def readWord (t : Text) : Option (Expr × Text) :=
  let word : Text := t.takeWhile isNamePart
  let rest : Text := t.dropWhile isNamePart
  if isName word then some (wordExpr word, rest)
  else if word.isEmpty || !word.all (·.isDigit) || rest.startsWith "." then none
  else some (.num (.int (Text.digitsValue word)), rest)

/-! ## Expressions -/

/-- A text, if it is shorter than a bound. -/
def within (bound : Nat) (rest : Text) : Option { rest : Text // rest.length < bound } :=
  if h : rest.length < bound then some ⟨rest, h⟩ else none

mutual

/-- An expression whose operators bind at least so tight, and the text behind it. -/
def readExpr (strength : Nat) (t : Text) : Option (Expr × Text) := do
  let (e, rest) ← readAtom t
  let ⟨rest, _⟩ ← within (t.length + 1) rest
  readOn strength e rest
termination_by 4 * t.length + 2

/-- What operators make of an operand. -/
def readOn (strength : Nat) (left : Expr) (t : Text) : Option (Expr × Text) :=
  match nextWord? t with
  | none => some (left, t)
  | some (word, rest) =>
    match operatorStrengths.lookup word with
    | some tightness =>
      if strength ≤ tightness then do
        let ⟨rest, _⟩ ← within t.length rest
        let (right, rest) ← readExpr (tightness + 1) rest
        let ⟨rest, _⟩ ← within t.length rest
        readOn strength (.binary left word right) rest
      else some (left, t)
    | none =>
      if word = "?" ∧ strength = 0 then do
        let ⟨rest, _⟩ ← within t.length rest
        let (consequent, rest) ← readExpr 0 rest
        let rest ← Text.dropStart? " : " rest
        let ⟨rest, _⟩ ← within t.length rest
        let (alternate, rest) ← readExpr 0 rest
        some (.conditional left consequent alternate, rest)
      else some (left, t)
termination_by 4 * t.length

/-- An operand with the accesses and calls behind it. -/
def readAtom (t : Text) : Option (Expr × Text) :=
  match t with
  | [] => none
  | c :: behind =>
    if c = '(' then do
      let (e, rest) ← readExpr 0 behind
      let rest ← Text.dropStart? ")" rest
      let ⟨rest, _⟩ ← within (behind.length + 1) rest
      readSuffixes e rest
    else if c = '[' then do
      let (items, rest) ← readList ']' behind
      let ⟨rest, _⟩ ← within (behind.length + 1) rest
      readSuffixes (.arr items) rest
    else if c = '"' then do
      let (value, rest) ← readString behind
      let ⟨rest, _⟩ ← within (behind.length + 1) rest
      readSuffixes (.str value) rest
    else do
      let (e, rest) ← readWord (c :: behind)
      let ⟨rest, _⟩ ← within (behind.length + 1) rest
      readSuffixes e rest
termination_by 4 * t.length + 1

/-- What accesses and calls make of an operand. -/
def readSuffixes (e : Expr) (t : Text) : Option (Expr × Text) :=
  match t with
  | [] => some (e, [])
  | c :: behind =>
    if c = '.' then
      if isName (behind.takeWhile isNamePart) then do
        let ⟨rest, _⟩ ← within (behind.length + 1) (behind.dropWhile isNamePart)
        readSuffixes (.member e (behind.takeWhile isNamePart)) rest
      else none
    else if c = '[' then do
      let (key, rest) ← readExpr 0 behind
      let rest ← Text.dropStart? "]" rest
      let ⟨rest, _⟩ ← within (behind.length + 1) rest
      readSuffixes (.index e key) rest
    else if c = '(' then do
      let (args, rest) ← readList ')' behind
      let ⟨rest, _⟩ ← within (behind.length + 1) rest
      readSuffixes (.call e args) rest
    else some (e, c :: behind)
termination_by 4 * t.length

/-- Expressions between commas, up to a closing bracket. -/
def readList (close : CodePoint) (t : Text) : Option (List Expr × Text) :=
  match Text.dropStart? [close] t with
  | some rest => some ([], rest)
  | none => do
    let (e, rest) ← readExpr 0 t
    let ⟨rest, _⟩ ← within (t.length + 1) rest
    let (more, rest) ← readMore close rest
    some (e :: more, rest)
termination_by 4 * t.length + 3

/-- The expressions behind the first one, each behind a comma. -/
def readMore (close : CodePoint) (t : Text) : Option (List Expr × Text) :=
  match Text.dropStart? [close] t with
  | some rest => some ([], rest)
  | none => do
    let rest ← Text.dropStart? ", " t
    let ⟨rest, _⟩ ← within t.length rest
    let (e, rest) ← readExpr 0 rest
    let ⟨rest, _⟩ ← within t.length rest
    let (more, rest) ← readMore close rest
    some (e :: more, rest)
termination_by 4 * t.length

end

/-- The expression that a whole text reads as. -/
def readAll (t : Text) : Option Expr :=
  match readExpr 0 t with
  | some (e, []) => some e
  | _ => none

/-! ## Rules of tokens -/

variable {t rest : Text} {e : Expr} {strength : Nat}

/-- A text that does not go on with a name or a number. -/
def EndsWord (rest : Text) : Prop := ∀ c ∈ rest.head?, isNamePart c = false

theorem takeWhile_name {word : Text} (hword : word.all isNamePart) (hrest : EndsWord rest) :
    (word ++ rest).takeWhile isNamePart = word := by
  rw [List.takeWhile_append_of_pos (List.all_eq_true.1 hword)]
  cases rest with
  | nil => simp
  | cons c rest => rw [List.takeWhile_cons_of_neg (by simp [hrest c rfl]), List.append_nil]

theorem dropWhile_name {word : Text} (hword : word.all isNamePart) (hrest : EndsWord rest) :
    (word ++ rest).dropWhile isNamePart = rest := by
  rw [List.dropWhile_append_of_pos (List.all_eq_true.1 hword)]
  cases rest with
  | nil => rfl
  | cons c rest => rw [List.dropWhile_cons_of_neg (by simp [hrest c rfl])]

theorem all_isNamePart {name : Text} (h : isName name) : name.all isNamePart := by
  cases name with
  | nil => rfl
  | cons c name =>
    obtain ⟨hc, hname⟩ := Bool.and_eq_true_iff.1 h
    exact Bool.and_eq_true_iff.2 ⟨Bool.or_eq_true_iff.2 (.inl hc), hname⟩

theorem isNameStart_of_isDigit {c : CodePoint} (h : c.isDigit) : isNameStart c = false := by
  rw [CodePoint.isDigit, Bool.and_eq_true, decide_eq_true_iff, decide_eq_true_iff] at h
  have hother (d : Char) (hd : d.toNat < 48 ∨ 57 < d.toNat) : (c == CodePoint.ofChar d) = false :=
    beq_eq_false_iff_ne.2 fun heq => by
      subst heq
      have : (CodePoint.ofChar d).val = d.toNat := rfl
      omega
  rw [isNameStart, hother '_' (by decide), hother '$' (by decide)]
  simp only [CodePoint.isLetter, CodePoint.isLower, CodePoint.isUpper, Bool.or_false]
  simp
  omega

theorem readWord_name {name : Text} (h : isName name) (hrest : EndsWord rest) :
    readWord (name ++ rest) = some (wordExpr name, rest) := by
  rw [readWord, takeWhile_name (all_isNamePart h) hrest, dropWhile_name (all_isNamePart h) hrest]
  exact if_pos h

theorem nextWord?_between {word : Text} (h : CodePoint.ofChar ' ' ∉ word) (rest : Text) :
    nextWord? (" " ++ word ++ " " ++ rest) = some (word, rest) := by
  have hword : ∀ c ∈ word, (c != CodePoint.ofChar ' ') = true := fun c hc =>
    bne_iff_ne.2 fun heq => h (heq ▸ hc)
  have htext : (" " ++ word ++ " " ++ rest : Text) =
      CodePoint.ofChar ' ' :: (word ++ CodePoint.ofChar ' ' :: rest) := by
    simp [Text.ofString]
  rw [htext, nextWord?, if_pos rfl, List.dropWhile_append_of_pos hword,
    List.takeWhile_append_of_pos hword, List.dropWhile_cons_of_neg (by decide),
    List.takeWhile_cons_of_neg (by decide), List.append_nil]

theorem nextWord?_cons {c : CodePoint} (h : c ≠ CodePoint.ofChar ' ') (rest : Text) :
    nextWord? (c :: rest) = none := if_neg h

theorem readWord_ofNat (n : Nat) (hrest : EndsWord rest) (hpoint : rest.startsWith "." = false) :
    readWord (Text.ofNat n ++ rest) = some (.num (.int n), rest) := by
  have hdigits : (Text.ofNat n).all (·.isDigit) :=
    List.all_eq_true.2 fun c hc => Text.isDigit_of_mem_ofNat hc
  have hparts : (Text.ofNat n).all isNamePart :=
    List.all_eq_true.2 fun c hc => Bool.or_eq_true_iff.2 (.inr (Text.isDigit_of_mem_ofNat hc))
  -- a digit starts no name, so the word is a number
  have hname : isName (Text.ofNat n) = false := by
    obtain ⟨c, tail, hcons⟩ := List.exists_cons_of_ne_nil (Text.ofNat_ne_nil n)
    have hc : c.isDigit := Text.isDigit_of_mem_ofNat (hcons ▸ List.mem_cons_self)
    rw [hcons, isName, isNameStart_of_isDigit hc, Bool.false_and]
  rw [readWord, takeWhile_name hparts hrest, dropWhile_name hparts hrest]
  simp [hname, hdigits, hpoint, Text.ofNat_ne_nil, Text.digitsValue_ofNat]

theorem readString_quoted (value rest : Text) :
    readString (value.flatMap Text.escapeQuoted ++ CodePoint.ofChar '"' :: rest) =
      some (value, rest) := by
  obtain ⟨pieces, hscan, hvalue⟩ := Document.Json.scanString_quoted 0 1 value rest
  rw [readString, hscan]
  dsimp only
  rw [hvalue]

/-! ## Rules of operands -/

theorem dropStart?_append (piece rest : Text) : Text.dropStart? piece (piece ++ rest) = some rest :=
  List.isPrefixOf?_eq_some_iff_append_eq.2 rfl

theorem within_of_lt {bound : Nat} (h : rest.length < bound) : within bound rest = some ⟨rest, h⟩ :=
  dif_pos h

theorem length_lt_of_suffix (h : rest <:+ t) : rest.length < t.length + 1 :=
  Nat.lt_succ_of_le h.length_le

theorem suffix_behind (t piece rest : Text) : rest <:+ t ++ (piece ++ rest) :=
  ⟨t ++ piece, List.append_assoc t piece rest⟩

theorem readAtom_paren (h : readExpr 0 (t ++ (")" ++ rest)) = some (e, ")" ++ rest)) :
    readAtom ("(" ++ (t ++ (")" ++ rest))) = readSuffixes e rest := by
  have hparen (behind : Text) : readAtom ("(" ++ behind) = (do
      let (e, rest) ← readExpr 0 behind
      let rest ← Text.dropStart? ")" rest
      let ⟨rest, _⟩ ← within (behind.length + 1) rest
      readSuffixes e rest) := by
    rw [readAtom.eq_def]
    exact if_pos rfl
  have hlt := length_lt_of_suffix (suffix_behind t ")" rest)
  rw [hparen, h]
  simp only [Option.bind_eq_bind, Option.bind_some, dropStart?_append, within_of_lt hlt]

theorem readAtom_list {items : List Expr}
    (h : readList ']' (t ++ ("]" ++ rest)) = some (items, rest)) :
    readAtom ("[" ++ (t ++ ("]" ++ rest))) = readSuffixes (.arr items) rest := by
  have hlist (behind : Text) : readAtom ("[" ++ behind) = (do
      let (items, rest) ← readList ']' behind
      let ⟨rest, _⟩ ← within (behind.length + 1) rest
      readSuffixes (.arr items) rest) := by
    rw [readAtom.eq_def]
    exact (if_neg (by decide)).trans (if_pos rfl)
  have hlt := length_lt_of_suffix (suffix_behind t "]" rest)
  rw [hlist, h]
  simp only [Option.bind_eq_bind, Option.bind_some, within_of_lt hlt]

theorem readAtom_quoted (value rest : Text) :
    readAtom (value.quoted ++ rest) = readSuffixes (.str value) rest := by
  have hquoted (behind : Text) : readAtom (CodePoint.ofChar '"' :: behind) = (do
      let (value, rest) ← readString behind
      let ⟨rest, _⟩ ← within (behind.length + 1) rest
      readSuffixes (.str value) rest) := by
    rw [readAtom.eq_def]
    exact (if_neg (by decide)).trans ((if_neg (by decide)).trans (if_pos rfl))
  have htext : value.quoted ++ rest =
      CodePoint.ofChar '"' :: (value.flatMap Text.escapeQuoted ++ ("\"" ++ rest)) := by
    rw [Text.quoted, List.cons_append, List.append_assoc]
  have hread : readString (value.flatMap Text.escapeQuoted ++ ("\"" ++ rest)) = some (value, rest) :=
    readString_quoted value rest
  have hlt := length_lt_of_suffix (suffix_behind (value.flatMap Text.escapeQuoted) "\"" rest)
  rw [htext, hquoted, hread]
  simp only [Option.bind_eq_bind, Option.bind_some, within_of_lt hlt]

theorem readAtom_word {c : CodePoint} (hc : isNamePart c)
    (h : readWord (c :: (t ++ rest)) = some (e, rest)) :
    readAtom (c :: (t ++ rest)) = readSuffixes e rest := by
  have hne (d : Char) (hd : isNamePart d = false) : c ≠ CodePoint.ofChar d := by
    rintro rfl
    rw [hd] at hc
    cases hc
  have hword (behind : Text) : readAtom (c :: behind) = (do
      let (e, rest) ← readWord (c :: behind)
      let ⟨rest, _⟩ ← within (behind.length + 1) rest
      readSuffixes e rest) := by
    rw [readAtom.eq_def]
    exact (if_neg (hne '(' (by decide))).trans
      ((if_neg (hne '[' (by decide))).trans (if_neg (hne '"' (by decide))))
  have hlt := length_lt_of_suffix (List.suffix_append t rest)
  rw [hword, h]
  simp only [Option.bind_eq_bind, Option.bind_some, within_of_lt hlt]

theorem readSuffixes_member {name : Text} (h : isName name) (hrest : EndsWord rest) :
    readSuffixes e ("." ++ name ++ rest) = readSuffixes (.member e name) rest := by
  have hmember (behind : Text) : readSuffixes e ("." ++ behind) =
      if isName (behind.takeWhile isNamePart) then do
        let ⟨rest, _⟩ ← within (behind.length + 1) (behind.dropWhile isNamePart)
        readSuffixes (.member e (behind.takeWhile isNamePart)) rest
      else none := by
    rw [readSuffixes.eq_def]
    exact if_pos rfl
  have hlt := length_lt_of_suffix (List.suffix_append name rest)
  rw [List.append_assoc, hmember, takeWhile_name (all_isNamePart h) hrest,
    dropWhile_name (all_isNamePart h) hrest, if_pos h]
  simp only [Option.bind_eq_bind, Option.bind_some, within_of_lt hlt]

theorem readSuffixes_index {key : Expr}
    (h : readExpr 0 (t ++ ("]" ++ rest)) = some (key, "]" ++ rest)) :
    readSuffixes e ("[" ++ (t ++ ("]" ++ rest))) = readSuffixes (.index e key) rest := by
  have hindex (behind : Text) : readSuffixes e ("[" ++ behind) = (do
      let (key, rest) ← readExpr 0 behind
      let rest ← Text.dropStart? "]" rest
      let ⟨rest, _⟩ ← within (behind.length + 1) rest
      readSuffixes (.index e key) rest) := by
    rw [readSuffixes.eq_def]
    exact (if_neg (by decide)).trans (if_pos rfl)
  have hlt := length_lt_of_suffix (suffix_behind t "]" rest)
  rw [hindex, h]
  simp only [Option.bind_eq_bind, Option.bind_some, dropStart?_append, within_of_lt hlt]

theorem readSuffixes_call {args : List Expr}
    (h : readList ')' (t ++ (")" ++ rest)) = some (args, rest)) :
    readSuffixes e ("(" ++ (t ++ (")" ++ rest))) = readSuffixes (.call e args) rest := by
  have hcall (behind : Text) : readSuffixes e ("(" ++ behind) = (do
      let (args, rest) ← readList ')' behind
      let ⟨rest, _⟩ ← within (behind.length + 1) rest
      readSuffixes (.call e args) rest) := by
    rw [readSuffixes.eq_def]
    exact (if_neg (by decide)).trans ((if_neg (by decide)).trans (if_pos rfl))
  have hlt := length_lt_of_suffix (suffix_behind t ")" rest)
  rw [hcall, h]
  simp only [Option.bind_eq_bind, Option.bind_some, within_of_lt hlt]

theorem readExpr_of_readAtom (h : readAtom (t ++ rest) = some (e, rest)) :
    readExpr strength (t ++ rest) = readOn strength e rest := by
  have hlt := length_lt_of_suffix (List.suffix_append t rest)
  rw [readExpr.eq_def, h]
  simp only [Option.bind_eq_bind, Option.bind_some, within_of_lt hlt]

/-! ## Rules of lists -/

/-- The brackets that lists end with. -/
def isClosing (c : CodePoint) : Bool := c == CodePoint.ofChar ')' || c == CodePoint.ofChar ']'

/-- No expression starts with a closing bracket. -/
theorem readExpr_closing {close : CodePoint} (h : isClosing close) (t : Text) :
    readExpr strength (close :: t) = none := by
  have hatom : readAtom (close :: t) = none := by
    rcases Bool.or_eq_true_iff.1 h with h | h
    all_goals
      rw [eq_of_beq h, readAtom.eq_def]
      exact (if_neg (by decide)).trans ((if_neg (by decide)).trans (if_neg (by decide)))
  rw [readExpr.eq_def, hatom]
  rfl

theorem readList_nil (close : CodePoint) (rest : Text) :
    readList close (close :: rest) = some ([], rest) := by
  rw [readList.eq_def, show close :: rest = [close] ++ rest from rfl, dropStart?_append]

theorem readMore_nil (close : CodePoint) (rest : Text) :
    readMore close (close :: rest) = some ([], rest) := by
  rw [readMore.eq_def, show close :: rest = [close] ++ rest from rfl, dropStart?_append]

theorem readList_cons {close : CodePoint} {more : List Expr} {behind : Text}
    (hclose : isClosing close) (h : readExpr 0 (t ++ behind) = some (e, behind))
    (hmore : readMore close behind = some (more, rest)) :
    readList close (t ++ behind) = some (e :: more, rest) := by
  have hopen : Text.dropStart? [close] (t ++ behind) = none := by
    rw [Option.eq_none_iff_forall_ne_some]
    intro tail htail
    rw [← List.isPrefixOf?_eq_some_iff_append_eq.1 htail, List.singleton_append,
      readExpr_closing hclose] at h
    cases h
  have hlt := length_lt_of_suffix (List.suffix_append t behind)
  rw [readList.eq_def, hopen]
  simp only [Option.bind_eq_bind, Option.bind_some, h, within_of_lt hlt, hmore]

theorem readMore_cons {close : CodePoint} {more : List Expr} {behind : Text}
    (hclose : isClosing close) (h : readExpr 0 (t ++ behind) = some (e, behind))
    (hmore : readMore close behind = some (more, rest)) :
    readMore close (", " ++ (t ++ behind)) = some (e :: more, rest) := by
  have hcomma : close ≠ CodePoint.ofChar ',' := by
    rintro rfl
    exact absurd hclose (by decide)
  have hopen : Text.dropStart? [close] (", " ++ (t ++ behind)) = none := by
    rw [Option.eq_none_iff_forall_ne_some]
    intro tail htail
    exact hcomma (List.cons.inj (List.isPrefixOf?_eq_some_iff_append_eq.1 htail)).1
  have hlt : (t ++ behind).length < (", " ++ (t ++ behind) : Text).length :=
    length_lt_of_suffix (List.suffix_append " " (t ++ behind))
  have hlt' : behind.length < (", " ++ (t ++ behind) : Text).length :=
    Nat.lt_of_le_of_lt (List.suffix_append t behind).length_le hlt
  rw [readMore.eq_def, hopen, dropStart?_append]
  simp only [Option.bind_eq_bind, Option.bind_some, h, within_of_lt hlt, within_of_lt hlt', hmore]

/-! ## Rules of operators -/

theorem operator_of_lookup {operator : Text} {tightness : Nat}
    (h : operatorStrengths.lookup operator = some tightness) :
    CodePoint.ofChar ' ' ∉ operator ∧ operator ≠ "?" ∧ 0 < tightness ∧ tightness < atomStrength := by
  have htable : ∀ o ∈ operatorStrengths,
      CodePoint.ofChar ' ' ∉ o.1 ∧ o.1 ≠ "?" ∧ 0 < o.2 ∧ o.2 < atomStrength := by
    decide
  obtain ⟨before, after, heq, -⟩ := List.lookup_eq_some_iff.1 h
  exact htable (operator, tightness) (heq ▸ by simp)

theorem length_between (word t : Text) : t.length < (" " ++ word ++ " " ++ t).length :=
  length_lt_of_suffix (List.suffix_append (word ++ Text.ofString " ") t)

theorem readOn_operator {left right : Expr} {operator : Text} {tightness : Nat}
    (hoperator : operatorStrengths.lookup operator = some tightness) (hle : strength ≤ tightness)
    (h : readExpr (tightness + 1) (t ++ rest) = some (right, rest)) :
    readOn strength left (" " ++ operator ++ " " ++ (t ++ rest)) =
      readOn strength (.binary left operator right) rest := by
  obtain ⟨hword, -⟩ := operator_of_lookup hoperator
  have hlt := length_between operator (t ++ rest)
  have hlt' : rest.length < (" " ++ operator ++ " " ++ (t ++ rest)).length :=
    Nat.lt_of_le_of_lt (List.suffix_append t rest).length_le hlt
  rw [readOn.eq_def, nextWord?_between hword]
  dsimp only
  rw [hoperator]
  dsimp only
  rw [if_pos hle]
  simp only [Option.bind_eq_bind, Option.bind_some, h, within_of_lt hlt, within_of_lt hlt']

theorem readOn_conditional {test consequent alternate : Expr} {behind : Text}
    (hconsequent : readExpr 0 (t ++ (" : " ++ behind)) = some (consequent, " : " ++ behind))
    (halternate : readExpr 0 behind = some (alternate, rest)) :
    readOn 0 test (" ? " ++ (t ++ (" : " ++ behind))) =
      some (.conditional test consequent alternate, rest) := by
  have hspace : CodePoint.ofChar ' ' ∉ Text.ofString "?" := by decide
  have hlookup : operatorStrengths.lookup (Text.ofString "?") = none := by decide
  have hword (t : Text) : nextWord? (" ? " ++ t) = some (Text.ofString "?", t) :=
    nextWord?_between hspace t
  have hlt : (t ++ (" : " ++ behind)).length < (" ? " ++ (t ++ (" : " ++ behind)) : Text).length :=
    length_between "?" _
  have hlt' : behind.length < (" ? " ++ (t ++ (" : " ++ behind)) : Text).length :=
    Nat.lt_of_le_of_lt (suffix_behind t " : " behind).length_le hlt
  rw [readOn.eq_def, hword]
  dsimp only
  rw [hlookup]
  dsimp only
  rw [if_pos ⟨rfl, rfl⟩]
  simp only [Option.bind_eq_bind, Option.bind_some, hconsequent, dropStart?_append, halternate,
    within_of_lt hlt, within_of_lt hlt']

/-! ## What stands behind an expression -/

/-- A text that an expression of some strength does not go on with: neither as a word, nor with an
access or a call, nor with an operator that binds tighter. -/
structure Stops (strength : Nat) (rest : Text) : Prop where
  head : ∀ c ∈ rest.head?, isNamePart c = false ∧ c ≠ CodePoint.ofChar '.' ∧
    c ≠ CodePoint.ofChar '[' ∧ c ≠ CodePoint.ofChar '('
  word : ∀ word tail, nextWord? rest = some (word, tail) →
    (∀ tightness, operatorStrengths.lookup word = some tightness → tightness ≤ strength) ∧
      (word = "?" → 0 < strength)

theorem Stops.endsWord (h : Stops strength rest) : EndsWord rest := fun c hc => (h.head c hc).1

theorem Stops.mono {looser : Nat} (h : Stops looser rest) (hle : looser ≤ strength) :
    Stops strength rest := by
  refine ⟨h.head, fun word tail hword => ?_⟩
  obtain ⟨hoperator, hquestion⟩ := h.word word tail hword
  exact ⟨fun tightness hlookup => Nat.le_trans (hoperator tightness hlookup) hle,
    fun heq => Nat.lt_of_lt_of_le (hquestion heq) hle⟩

theorem stops_nil (strength : Nat) : Stops strength [] := ⟨nofun, nofun⟩

/-- Behind an expression that stands in brackets or in a list. -/
theorem stops_cons {c : CodePoint} (h : isClosing c ∨ c = CodePoint.ofChar ',') (strength : Nat)
    (t : Text) : Stops strength (c :: t) := by
  have hc : c ∈ ([')', ']', ','] : List Char).map CodePoint.ofChar := by
    rcases h with h | rfl
    · rcases Bool.or_eq_true_iff.1 h with h | h <;> rw [eq_of_beq h] <;> decide
    · decide
  have hall : ∀ c ∈ ([')', ']', ','] : List Char).map CodePoint.ofChar,
      c ≠ CodePoint.ofChar ' ' ∧ isNamePart c = false ∧ c ≠ CodePoint.ofChar '.' ∧
        c ≠ CodePoint.ofChar '[' ∧ c ≠ CodePoint.ofChar '(' := by decide
  obtain ⟨hspace, hhead⟩ := hall c hc
  refine ⟨fun d hd => ?_, fun word tail hword => ?_⟩
  · obtain rfl := Option.some.inj hd
    exact hhead
  · rw [nextWord?_cons hspace] at hword
    cases hword

/-- Behind an expression that a word between spaces follows. -/
theorem stops_word {word : Text} (hspace : CodePoint.ofChar ' ' ∉ word)
    (hoperator : ∀ tightness, operatorStrengths.lookup word = some tightness → tightness ≤ strength)
    (hquestion : word = "?" → 0 < strength) (t : Text) : Stops strength (" " ++ word ++ " " ++ t) := by
  refine ⟨fun c hc => ?_, fun other tail hother => ?_⟩
  · obtain rfl := Option.some.inj hc
    decide
  · rw [nextWord?_between hspace] at hother
    obtain ⟨rfl, rfl⟩ := Prod.mk.inj (Option.some.inj hother)
    exact ⟨hoperator, hquestion⟩

theorem readSuffixes_of_stops (h : Stops strength rest) : readSuffixes e rest = some (e, rest) := by
  rw [readSuffixes.eq_def]
  cases rest with
  | nil => rfl
  | cons c rest =>
    obtain ⟨-, hdot, hbracket, hparen⟩ := h.head c rfl
    exact (if_neg hdot).trans ((if_neg hbracket).trans (if_neg hparen))

/-- Nothing is read on where every operator binds looser than asked for. -/
theorem readOn_of_stops {looser : Nat} (h : Stops looser rest)
    (hlt : looser < strength ∨ looser = 0) : readOn strength e rest = some (e, rest) := by
  rw [readOn.eq_def]
  cases hword : nextWord? rest with
  | none => rfl
  | some found =>
    obtain ⟨word, tail⟩ := found
    obtain ⟨hoperator, hquestion⟩ := h.word word tail hword
    dsimp only
    cases hlookup : operatorStrengths.lookup word with
    | some tightness =>
      -- strengths are positive, so nothing is left to bind where the looser one is zero
      have hle := hoperator tightness hlookup
      obtain ⟨-, -, hpos, -⟩ := operator_of_lookup hlookup
      exact if_neg (by omega)
    | none =>
      refine if_neg ?_
      rintro ⟨rfl, hzero⟩
      have := hquestion rfl
      omega

end Routewright.Script
