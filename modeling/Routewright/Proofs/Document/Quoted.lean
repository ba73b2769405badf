/-
String literals are read back: what a text is quoted as, the scanner of JSON strings takes for that
text, whatever code points it holds and whatever stands behind it. So a literal ends where its text
does: no start of it is one, and no other text is quoted with the same one.
-/
import Mathlib.Tactic.SplitIfs
import Routewright.Document.Json
import Routewright.Text.Quoted

namespace Routewright.Document.Json

open Text (escapeQuoted ofHex)

/-- Code points are joined only if escapes wrote them, and both were surrogates. -/
theorem joinSurrogates_eq_map {pieces : List Piece}
    (h : ∀ p ∈ pieces, p.escaped → p.point.val < 0x20) :
    joinSurrogates pieces = pieces.map (·.point) := by
  induction pieces with
  | nil => rfl
  | cons p pieces ih =>
    have hrest := ih fun q hq => h q (List.mem_cons_of_mem p hq)
    cases pieces with
    | nil => rfl
    | cons q rest =>
      have hlone : ¬(p.escaped ∧ q.escaped ∧ 0xd800 ≤ p.point.val ∧ p.point.val ≤ 0xdbff ∧
          0xdc00 ≤ q.point.val ∧ q.point.val ≤ 0xdfff) := by
        rintro ⟨hescaped, -, hlow, -⟩
        have := h p List.mem_cons_self hescaped
        omega
      rw [joinSurrogates, if_neg hlone, hrest]
      rfl

/-- The hexadecimal digits of a control character, the first two of which are zeros. -/
theorem ofHex_control {n : Nat} (h : n < 0x20) :
    ofHex 4 n = [CodePoint.ofChar '0', CodePoint.ofChar '0', CodePoint.ofChar (n / 16).digitChar,
      CodePoint.ofChar (n % 16).digitChar] ∧
    fourHex? '0' '0' (CodePoint.ofChar (n / 16).digitChar) (CodePoint.ofChar (n % 16).digitChar) =
      some n := by
  revert n
  decide

/-- What is written for one code point is read as it. -/
theorem scanString_escapeQuoted (start index : Nat) (c : CodePoint) {tail : Text}
    (htail : tail ≠ []) : ∃ next escaped, (escaped = true → c.val < 0x20) ∧
      scanString start index (escapeQuoted c ++ tail) = (do
        let (pieces, rest) ← scanString start next tail
        .ok (⟨c, escaped⟩ :: pieces, rest)) := by
  -- seven code points have an escape of one letter each
  have hsimple {e p : CodePoint} (he : e ≠ CodePoint.ofChar 'u') (hp : simpleEscape? e = some p) :
      scanString start index (CodePoint.ofChar '\\' :: e :: tail) = (do
        let (pieces, rest) ← scanString start (index + 2) tail
        .ok (⟨p, false⟩ :: pieces, rest)) := by
    conv => lhs; unfold scanString
    rw [if_neg (by decide), if_pos rfl]
    dsimp only
    rw [if_neg he, hp]
  unfold escapeQuoted
  split_ifs with hquote hslash hfeed hreturn htab hback hform hcontrol
  · obtain rfl := hquote
    exact ⟨index + 2, false, nofun, hsimple (by decide) rfl⟩
  · obtain rfl := hslash
    exact ⟨index + 2, false, nofun, hsimple (by decide) rfl⟩
  · obtain rfl := hfeed
    exact ⟨index + 2, false, nofun, hsimple (by decide) rfl⟩
  · obtain rfl := hreturn
    exact ⟨index + 2, false, nofun, hsimple (by decide) rfl⟩
  · obtain rfl := htab
    exact ⟨index + 2, false, nofun, hsimple (by decide) rfl⟩
  · obtain rfl := hback
    exact ⟨index + 2, false, nofun, hsimple (by decide) rfl⟩
  · obtain rfl := hform
    exact ⟨index + 2, false, nofun, hsimple (by decide) rfl⟩
  · -- the scanner asks for more text behind the four digits, which the closing quote is
    obtain ⟨hdigits, hvalue⟩ := ofHex_control hcontrol
    refine ⟨index + 6, true, fun _ => hcontrol, ?_⟩
    have hpoint : CodePoint.ofNat c.val = c := by rw [CodePoint.ofNat, dif_pos c.lt]
    rw [hdigits]
    simp only [List.cons_append, List.nil_append]
    conv => lhs; unfold scanString
    rw [if_neg (by decide), if_pos rfl]
    dsimp only
    rw [if_pos rfl, hvalue]
    dsimp only
    rw [if_neg (by simpa using htail), hpoint]
  · refine ⟨index + 1, false, nofun, ?_⟩
    rw [List.singleton_append]
    conv => lhs; unfold scanString
    rw [if_neg hquote, if_neg hslash, if_neg hcontrol]

/-- The scanner reads a quoted text up to the closing quote, and no further. -/
theorem scanString_quoted (start index : Nat) (t rest : Text) :
    ∃ pieces, scanString start index (t.flatMap escapeQuoted ++ CodePoint.ofChar '"' :: rest) =
        .ok (pieces, rest) ∧ joinSurrogates pieces = t := by
  have hpieces : ∃ pieces,
      scanString start index (t.flatMap escapeQuoted ++ CodePoint.ofChar '"' :: rest) =
        .ok (pieces, rest) ∧ pieces.map (·.point) = t ∧
        ∀ p ∈ pieces, p.escaped → p.point.val < 0x20 := by
    induction t generalizing index with
    | nil =>
      refine ⟨[], ?_, rfl, fun _ h => absurd h List.not_mem_nil⟩
      rw [List.flatMap_nil, List.nil_append]
      unfold scanString
      exact if_pos rfl
    | cons c t ih =>
      rw [List.flatMap_cons, List.append_assoc]
      obtain ⟨next, escaped, hescaped, hscan⟩ :=
        scanString_escapeQuoted start index c (List.append_ne_nil_of_right_ne_nil _
          (List.cons_ne_nil (CodePoint.ofChar '"') rest))
      obtain ⟨pieces, hrest, hpoints, hlow⟩ := ih next
      refine ⟨⟨c, escaped⟩ :: pieces, ?_, ?_, List.forall_mem_cons.2 ⟨hescaped, hlow⟩⟩
      · rw [hscan, hrest]
        rfl
      · rw [List.map_cons, hpoints]
  obtain ⟨pieces, hscan, hpoints, hlow⟩ := hpieces
  exact ⟨pieces, hscan, (joinSurrogates_eq_map hlow).trans hpoints⟩

/-! ## Literals in a text -/

theorem exists_of_cons_ok {x : Except (Fault × Nat) (List Piece × Text)} {p : Piece}
    {found : List Piece} {rest : Text}
    (h : (do let (pieces, rest) ← x; .ok (p :: pieces, rest)) = .ok (found, rest)) :
    ∃ pieces, x = .ok (pieces, rest) ∧ found = p :: pieces := by
  cases x with
  | error e => cases h
  | ok read => cases h; exact ⟨read.1, rfl, rfl⟩

/-- A string that has been read is the same in front of more text. -/
theorem scanString_append {start index : Nat} {t rest : Text} {pieces : List Piece}
    (h : scanString start index t = .ok (pieces, rest)) (more : Text) :
    scanString start index (t ++ more) = .ok (pieces, rest ++ more) := by
  fun_induction scanString start index t generalizing pieces rest with
  | case2 index tail =>
    cases h
    conv => lhs; unfold scanString
    exact if_pos rfl
  | case6 index h₁ h₂ h₃ h₄ tail n hfour hne hquote ih =>
    obtain ⟨found, hfound, rfl⟩ := exists_of_cons_ok h
    have htail : ¬(tail ++ more).isEmpty := by
      rw [List.isEmpty_iff] at hne ⊢
      exact List.append_ne_nil_of_left_ne_nil hne more
    conv => lhs; unfold scanString
    dsimp only [List.cons_append]
    rw [if_neg hquote, if_pos rfl, if_pos rfl, hfour]
    dsimp only
    rw [if_neg htail, ih hfound]
    rfl
  | case9 index e tail hu p hsimple hquote ih =>
    obtain ⟨found, hfound, rfl⟩ := exists_of_cons_ok h
    conv => lhs; unfold scanString
    dsimp only [List.cons_append]
    rw [if_neg hquote, if_pos rfl, if_neg hu, hsimple]
    dsimp only
    rw [ih hfound]
    rfl
  | case11 index c tail hquote hslash hcontrol ih =>
    obtain ⟨found, hfound, rfl⟩ := exists_of_cons_ok h
    conv => lhs; unfold scanString
    dsimp only [List.cons_append]
    rw [if_neg hquote, if_neg hslash, if_neg hcontrol, ih hfound]
    rfl
  | _ => cases h

/-- The string literal that a text opens with, and the text behind it. -/
def literal? : Text → Option (Text × Text)
  | [] => none
  | c :: tail =>
    match scanToken 0 c tail with
    | (.str value, rest) => some (value, rest)
    | _ => none

theorem quoted_append (t rest : Text) : t.quoted ++ rest =
    CodePoint.ofChar '"' :: (t.flatMap escapeQuoted ++ CodePoint.ofChar '"' :: rest) := by
  simp [Text.quoted, Text.ofString]

theorem scanToken_quote (index : Nat) (tail : Text) :
    scanToken index '"' tail =
      match scanString index (index + 1) tail with
      | .ok (pieces, rest) => (.str (joinSurrogates pieces), rest)
      | .error (fault, place) => (.badString fault place, []) := rfl

theorem scanToken_quoted (index : Nat) (t rest : Text) :
    scanToken index '"' (t.flatMap escapeQuoted ++ CodePoint.ofChar '"' :: rest) =
      (.str t, rest) := by
  obtain ⟨pieces, hscan, hpieces⟩ := scanString_quoted index (index + 1) t rest
  rw [scanToken_quote, hscan]
  dsimp only
  rw [hpieces]

theorem literal?_quoted_append (t rest : Text) :
    literal? (t.quoted ++ rest) = some (t, rest) := by
  rw [quoted_append, literal?, scanToken_quoted]

/-- Text that is missing from a literal is missed by the scanner. -/
theorem literal?_eq_none_of_prefix {t start : Text} (h : start <+: t.quoted)
    (hne : start ≠ t.quoted) : literal? start = none := by
  obtain ⟨more, hmore⟩ := h
  have hmore' : more ≠ [] := by
    rintro rfl
    exact hne (by simpa using hmore)
  cases start with
  | nil => rfl
  | cons c tail =>
    have hquoted := quoted_append t []
    rw [List.append_nil, ← hmore, List.cons_append] at hquoted
    obtain ⟨rfl, htail⟩ := List.cons.inj hquoted
    rw [literal?, scanToken_quote]
    cases hscan : scanString 0 1 tail with
    | error e => rfl
    | ok read =>
      -- in front of what is missing it would leave that unread, and the scanner leaves nothing
      obtain ⟨pieces, hwhole, -⟩ := scanString_quoted 0 1 t []
      have hagain := scanString_append hscan more
      rw [htail, hwhole] at hagain
      obtain ⟨-, hrest⟩ := Prod.mk.inj (Except.ok.inj hagain)
      exact absurd (List.append_eq_nil_iff.1 hrest.symm).2 hmore'

theorem read_quoted (t : Text) : read t.quoted = .ok (.str t) := by
  have htokens : tokens t.quoted = [(.str t, 0)] := by
    have hquoted := quoted_append t []
    rw [List.append_nil] at hquoted
    rw [tokens, hquoted, List.length_cons, tokensFrom, if_neg (by decide), scanToken_quoted]
    cases (t.flatMap escapeQuoted ++ [CodePoint.ofChar '"']).length <;> rfl
  have hmark : t.quoted.head? ≠ some (CodePoint.ofNat 0xfeff) := by
    show some (CodePoint.ofChar '"') ≠ _
    decide
  rw [read, if_neg hmark, htokens]
  rfl

/-- A quoted text in front of any other is read as the text it quotes and leaves the other unread, no
start of it is a literal, and it shares what it writes with no other quoted text. -/
theorem quoted_isLiteral (t rest : Text) :
    literal? (t.quoted ++ rest) = some (t, rest) ∧
      (∀ start, start <+: t.quoted → start ≠ t.quoted → literal? start = none) ∧
      read t.quoted = .ok (.str t) ∧
      ∀ other after, other.quoted ++ after = t.quoted ++ rest ↔ other = t ∧ after = rest := by
  refine ⟨literal?_quoted_append t rest, fun start => literal?_eq_none_of_prefix, read_quoted t,
    fun other after => ⟨fun h => ?_, ?_⟩⟩
  · have hread := literal?_quoted_append other after
    rw [h, literal?_quoted_append] at hread
    obtain ⟨ht, hrest⟩ := Prod.mk.inj (Option.some.inj hread)
    exact ⟨ht.symm, hrest.symm⟩
  · rintro ⟨rfl, rfl⟩
    rfl

/-- A text with a quote and a line feed that ends in a backslash, in front of another quote. -/
theorem quoted_isLiteral_backslash :
    let t : Text := "a\"\n\\"
    let rest : Text := "\", b"
    t.quoted = "\"a\\\"\\n\\\\\"" ∧ literal? (t.quoted ++ rest) = some (t, rest) ∧
      literal? "\"a\\\"" = none ∧ read t.quoted = .ok (.str t) ∧
      Text.quoted "a\"\n" ++ rest ≠ t.quoted ++ rest := by
  intro t rest
  obtain ⟨hread, hnone, hwhole, hsame⟩ := quoted_isLiteral t rest
  refine ⟨by decide, hread, hnone _ (by decide) (by decide), hwhole, fun h => ?_⟩
  have hother := ((hsame "a\"\n" rest).1 h).1
  exact absurd hother (by decide)

end Routewright.Document.Json
