/-
The property names that printed keys and accesses denote. A key or an access is read by the rules of
the script language: a string literal denotes the string that it is read as, an identifier itself, and
an identifier ends where its letters do. Every name is denoted as it is, except an identifier with a
line feed behind it: that one is printed bare, and the line feed is not read as a part of it.
-/
import Routewright.Proofs.Script.Reader

namespace Routewright.Script

open Document (Json.literal? Json.literal?_quoted_append)

/-! ## Reading -/

/-- The identifier that a text opens with, and the text behind it. -/
def readName (t : Text) : Option (Text × Text) :=
  let name : Text := t.takeWhile isNamePart
  if isName name then some (name, t.dropWhile isNamePart) else none

/-- The property name that the key at the start of a text denotes, and the text behind the key. -/
def readKey (t : Text) : Option (Text × Text) :=
  if t.startsWith "\"" then Json.literal? t else readName t

/-- The property name that the access at the start of a text denotes, and the text behind it. -/
def readAccess : Text → Option (Text × Text)
  | [] => none
  | c :: t =>
    if c = '.' then readName t
    else if c = '[' then do
      let (name, rest) ← Json.literal? t
      some (name, ← Text.dropStart? "]" rest)
    else none

/-- The access to a property. -/
def accessText (property : Text) : Text :=
  if isIdentifier property then "." ++ property else "[" ++ property.quoted ++ "]"

theorem print_member {object : Expr} {level : Nat} {text : Text} (h : object.print level = .ok text)
    (property : Text) : (Expr.member object property).print level =
      .ok (enclose object atomStrength text ++ accessText property) := by
  rw [Expr.print, h, accessText]
  simp only [bind, Except.bind]
  split <;> simp only [List.append_assoc]

/-! ## Names that are printed bare -/

/-- An identifier with a line feed behind it. -/
def IsTrailed (name : Text) : Prop := ∃ base, isName base ∧ name = base ++ ("\n" : Text)

theorem lineFeed_notMem {name : Text} (h : isName name) : CodePoint.ofChar '\n' ∉ name := by
  intro hmem
  have hpart := List.all_eq_true.1 (all_isNamePart h) _ hmem
  exact absurd hpart (by decide)

theorem getLast?_ne_of_isName {name : Text} (h : isName name) :
    name.getLast? ≠ some (CodePoint.ofChar '\n') := fun hlast =>
  lineFeed_notMem h (List.mem_of_getLast? hlast)

/-- The names that are printed bare. -/
theorem isIdentifier_iff {name : Text} : isIdentifier name ↔ isName name ∨ IsTrailed name := by
  unfold isIdentifier dropFinalLineFeed
  split
  · rename_i hfeed
    obtain ⟨base, rfl⟩ := List.getLast?_eq_some_iff.1 hfeed
    rw [List.dropLast_concat]
    constructor
    · exact fun h => .inr ⟨base, h, rfl⟩
    · rintro (h | ⟨other, hother, heq⟩)
      · exact absurd hfeed (getLast?_ne_of_isName h)
      · rwa [List.append_cancel_right heq]
  · rename_i hfeed
    refine ⟨.inl, fun h => h.resolve_right ?_⟩
    rintro ⟨base, -, rfl⟩
    exact hfeed List.getLast?_concat

theorem not_isTrailed_of_isName {name : Text} (h : isName name) : ¬IsTrailed name := by
  rintro ⟨base, -, rfl⟩
  exact getLast?_ne_of_isName h List.getLast?_concat

/-! ## Reading names -/

variable {rest : Text}

theorem readName_append {name : Text} (h : isName name) (hrest : EndsWord rest) :
    readName (name ++ rest) = some (name, rest) := by
  rw [readName, takeWhile_name (all_isNamePart h) hrest, dropWhile_name (all_isNamePart h) hrest]
  exact if_pos h

/-- A line feed ends an identifier. -/
theorem endsWord_lineFeed (rest : Text) : EndsWord (("\n" : Text) ++ rest) := fun c hc => by
  obtain rfl := Option.some.inj hc
  decide

theorem startsWith_quote_of_isName {name : Text} (h : isName name) (rest : Text) :
    Text.startsWith (name ++ rest) "\"" = false := by
  cases name with
  | nil => cases h
  | cons c name =>
    have hc : isNameStart c := (Bool.and_eq_true_iff.1 h).1
    have hne : CodePoint.ofChar '"' ≠ c := by
      rintro rfl
      exact absurd hc (by decide)
    exact Bool.and_eq_false_imp.2 fun heq => absurd (eq_of_beq heq) hne

theorem readKey_isName {name : Text} (h : isName name) (hrest : EndsWord rest) :
    readKey (name ++ rest) = some (name, rest) := by
  rw [readKey, startsWith_quote_of_isName h, if_neg (by decide), readName_append h hrest]

/-! ## Keys -/

/-- A key denotes its name, unless that is an identifier with a line feed behind it. -/
theorem readKey_keyText {key : Text} (h : ¬IsTrailed key) (hrest : EndsWord rest) :
    readKey (keyText key ++ rest) = some (key, rest) := by
  unfold keyText
  split
  · rename_i hidentifier
    exact readKey_isName ((isIdentifier_iff.1 hidentifier).resolve_right h) hrest
  · have hquote : Text.startsWith (key.quoted ++ rest) "\"" = true := rfl
    rw [readKey, if_pos hquote, Json.literal?_quoted_append]

theorem readKey_keyText_trailed {base : Text} (h : isName base) (rest : Text) :
    readKey (keyText (base ++ ("\n" : Text)) ++ rest) = some (base, ("\n" : Text) ++ rest) := by
  rw [keyText, if_pos (isIdentifier_iff.2 (.inr ⟨base, h, rfl⟩)), List.append_assoc]
  exact readKey_isName h (endsWord_lineFeed rest)

/-! ## Accesses -/

/-- An access denotes its property, unless that is an identifier with a line feed behind it. -/
theorem readAccess_accessText {property : Text} (h : ¬IsTrailed property) (hrest : EndsWord rest) :
    readAccess (accessText property ++ rest) = some (property, rest) := by
  unfold accessText
  split
  · rename_i hidentifier
    exact readName_append ((isIdentifier_iff.1 hidentifier).resolve_right h) hrest
  · have hbracket (t : Text) : readAccess ("[" ++ t) = (do
        let (name, rest) ← Json.literal? t
        some (name, ← Text.dropStart? "]" rest)) := rfl
    rw [List.append_assoc, List.append_assoc, hbracket, Json.literal?_quoted_append]
    simp only [Option.bind_eq_bind, Option.bind_some, dropStart?_append]

theorem readAccess_accessText_trailed {base : Text} (h : isName base) (rest : Text) :
    readAccess (accessText (base ++ ("\n" : Text)) ++ rest) =
      some (base, ("\n" : Text) ++ rest) := by
  rw [accessText, if_pos (isIdentifier_iff.2 (.inr ⟨base, h, rfl⟩)), List.append_assoc,
    List.append_assoc]
  exact readName_append h (endsWord_lineFeed rest)

/-! ## Names that are denoted as they are -/

/-- The name that a printed name denotes. -/
def denotedName (name : Text) : Text := if isIdentifier name then dropFinalLineFeed name else name

theorem denotedName_of_not_isTrailed {name : Text} (h : ¬IsTrailed name) : denotedName name = name := by
  unfold denotedName
  split
  · rename_i hidentifier
    exact if_neg (getLast?_ne_of_isName ((isIdentifier_iff.1 hidentifier).resolve_right h))
  · rfl

theorem denotedName_trailed {base : Text} (h : isName base) :
    denotedName (base ++ ("\n" : Text)) = base := by
  have hlast : (base ++ Text.ofString "\n").getLast? = some (CodePoint.ofChar '\n') :=
    List.getLast?_concat
  rw [denotedName, if_pos (isIdentifier_iff.2 (.inr ⟨base, h, rfl⟩)), dropFinalLineFeed, if_pos hlast]
  exact List.dropLast_concat

theorem denotedName_eq_self_iff {name : Text} : denotedName name = name ↔ ¬IsTrailed name := by
  refine ⟨?_, denotedName_of_not_isTrailed⟩
  rintro h ⟨base, hbase, rfl⟩
  rw [denotedName_trailed hbase] at h
  exact absurd (congrArg List.length h) (by simp [Text.ofString])

end Routewright.Script
