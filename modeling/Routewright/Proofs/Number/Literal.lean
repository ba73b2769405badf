/-
The texts of numbers as numeric literals. A literal is read as an optional minus sign, decimal digits,
an optional fraction and an optional exponent, with nothing behind it; it stands for a rational. The
text of an integer stands for the integer, and the text of a decimal for the decimal, in each of the
forms that a float is written in.
-/
import Routewright.Document.Json.Token
import Routewright.Number.Text
import Routewright.Proofs.Number.Shortest
import Routewright.Proofs.Text.Digits

namespace Routewright

/-! ## Digits -/

namespace Text

theorem foldl_digits (digits : Text) (n : Nat) :
    digits.foldl (fun n d => n * 10 + d.digitValue) n =
      n * 10 ^ digits.length + digitsValue digits := by
  induction digits generalizing n with
  | nil => simp [digitsValue]
  | cons d digits ih =>
    rw [digitsValue, List.foldl_cons, List.foldl_cons, ih, ih (0 * 10 + _), List.length_cons]
    ring

theorem digitsValue_append (s t : Text) :
    digitsValue (s ++ t) = digitsValue s * 10 ^ t.length + digitsValue t := by
  rw [digitsValue, List.foldl_append, foldl_digits]
  rfl

theorem digitsValue_zeros (n : Nat) : digitsValue (FloatFormat.zeros n) = 0 := by
  induction n with
  | zero => rfl
  | succ n ih => exact ih

theorem all_isDigit_ofNat (n : Nat) : (ofNat n).all (·.isDigit) :=
  List.all_eq_true.2 fun _ => isDigit_of_mem_ofNat

theorem all_isDigit_zeros (n : Nat) : (FloatFormat.zeros n).all (·.isDigit) := by
  rw [FloatFormat.zeros, List.all_replicate]
  split <;> rfl

/-- A number that is not zero starts with no zero. -/
theorem head?_ofNat_ne {n : Nat} (h : n ≠ 0) : (ofNat n).head? ≠ some (CodePoint.ofChar '0') := by
  have hdigit : ∀ n < 10, n ≠ 0 → CodePoint.ofChar n.digitChar ≠ CodePoint.ofChar '0' := by decide
  induction n using Nat.strong_induction_on with
  | _ n ih =>
    unfold ofNat
    rcases Nat.lt_or_ge n 10 with hlt | hge
    · rw [Nat.toDigits_of_lt_base hlt]
      exact fun heq => hdigit n hlt h (Option.some.inj heq)
    · obtain ⟨c, tail, hcons⟩ := List.exists_cons_of_ne_nil (ofNat_ne_nil (n / 10))
      have hfirst := ih (n / 10) (by omega) (by omega)
      rw [Nat.toDigits_of_base_le (by omega) hge, List.map_append]
      change (ofNat (n / 10) ++ _).head? ≠ _
      rwa [hcons] at hfirst ⊢

end Text

namespace Script

open Document (Json.takeDigits Json.takeFraction Json.takeSign Json.takeExponent)

/-! ## Reading -/

/-- Whether digits are written without a needless zero in front of them. -/
def isWhole (digits : Text) : Bool :=
  digits == "0" || !digits.isEmpty && digits.head? != some (CodePoint.ofChar '0')

/-- The rational that a numeric literal without a sign stands for. -/
def readUnsigned (t : Text) : Option ℚ :=
  let (whole, rest) := Json.takeDigits t
  let (fraction, rest) := Json.takeFraction rest
  let (exponent, rest) := Json.takeExponent rest
  if isWhole whole ∧ rest = [] then
    some (Decimal.value
      ⟨Text.digitsValue (whole ++ fraction), exponent.getD 0 - fraction.length⟩)
  else none

/-- The rational that a numeric literal with an optional minus sign stands for. -/
def readNumeral : Text → Option ℚ
  | [] => none
  | c :: t => if c = '-' then (readUnsigned t).map (-·) else readUnsigned (c :: t)

/-! ## Rules of the reader -/

/-- A text that starts with no digit. -/
def EndsDigits (t : Text) : Prop := ∀ c ∈ t.head?, c.isDigit = false

theorem takeDigits_append {digits rest : Text} (h : digits.all (·.isDigit)) (hrest : EndsDigits rest) :
    Json.takeDigits (digits ++ rest) = (digits, rest) := by
  have hall := List.all_eq_true.1 h
  unfold Json.takeDigits
  rw [List.takeWhile_append_of_pos hall, List.dropWhile_append_of_pos hall]
  cases rest with
  | nil => simp
  | cons c rest =>
    have hc := hrest c rfl
    rw [List.takeWhile_cons_of_neg (by simp [hc]), List.dropWhile_cons_of_neg (by simp [hc]),
      List.append_nil]

/-- A fraction with its point, unless it has no digits. -/
def fractionText (digits : Text) : Text := if digits = [] then [] else "." ++ digits

theorem takeFraction_fractionText {digits rest : Text} (h : digits.all (·.isDigit))
    (hrest : EndsDigits rest) (hpoint : rest.head? ≠ some (CodePoint.ofChar '.')) :
    Json.takeFraction (fractionText digits ++ rest) = (digits, rest) := by
  by_cases hdigits : digits = []
  · rw [hdigits]
    change Json.takeFraction rest = _
    cases rest with
    | nil => rfl
    | cons c rest => exact if_neg fun hc => hpoint (congrArg some hc.1)
  · have htext : fractionText digits ++ rest = CodePoint.ofChar '.' :: (digits ++ rest) := by
      rw [fractionText, if_neg hdigits]
      rfl
    rw [htext, Json.takeFraction, takeDigits_append h hrest]
    exact if_pos ⟨rfl, hdigits⟩

/-- What may stand behind the digits of a literal: nothing, or an exponent. -/
def IsExponent (t : Text) (e : Int) : Prop :=
  t = [] ∧ e = 0 ∨ t = FloatFormat.standard.exponentText e

theorem takeDigits_of_all {digits : Text} (h : digits.all (·.isDigit)) :
    Json.takeDigits digits = (digits, []) := by
  have hnone : EndsDigits [] := nofun
  simpa using takeDigits_append h hnone

theorem takeExponent_signed (negative : Bool) {digits : Text} (h : digits.all (·.isDigit))
    (hsome : digits ≠ []) :
    Json.takeExponent (CodePoint.ofChar 'e' :: (if negative then '-' else '+' : Char) :: digits) =
      (some (if negative then -(Text.digitsValue digits : Int) else Text.digitsValue digits), []) := by
  have hsign : Json.takeSign (((if negative then '-' else '+' : Char) : CodePoint) :: digits) =
      (negative, digits) := by
    cases negative <;> rfl
  rw [Json.takeExponent, if_pos (.inl rfl), hsign]
  dsimp only
  rw [takeDigits_of_all h]
  exact if_neg hsome

theorem takeExponent_exponentText (e : Int) :
    Json.takeExponent (FloatFormat.standard.exponentText e) = (some e, []) := by
  unfold FloatFormat.exponentText
  extract_lets digits
  generalize hzeros : FloatFormat.zeros (FloatFormat.standard.exponentDigits - digits.length) = zeros
  have hall : (zeros ++ digits).all (·.isDigit) := by
    rw [List.all_append, ← hzeros, Text.all_isDigit_zeros, Text.all_isDigit_ofNat]
    rfl
  have hvalue : Text.digitsValue (zeros ++ digits) = e.natAbs := by
    rw [Text.digitsValue_append, ← hzeros, Text.digitsValue_zeros, Text.digitsValue_ofNat,
      zero_mul, zero_add]
  have hsome : zeros ++ digits ≠ [] := by simp [digits, Text.ofNat_ne_nil]
  have hread := takeExponent_signed (e < 0) hall hsome
  rw [hvalue] at hread
  by_cases hnegative : e < 0
  · simp only [hnegative, decide_true, if_true] at hread ⊢
    rw [List.append_assoc]
    refine hread.trans ?_
    rw [show -(e.natAbs : Int) = e by omega]
  · simp only [hnegative, decide_false, if_false, Bool.false_eq_true] at hread ⊢
    rw [List.append_assoc]
    refine hread.trans ?_
    rw [show (e.natAbs : Int) = e by omega]

/-- Digits, a fraction and an exponent are read as the decimal that they write. -/
theorem readUnsigned_eq {whole fraction tail : Text} {e : Int} (hwhole : isWhole whole)
    (hdigits : whole.all (·.isDigit)) (hfraction : fraction.all (·.isDigit))
    (h : IsExponent tail e) :
    readUnsigned (whole ++ (fractionText fraction ++ tail)) =
      some (Decimal.value ⟨Text.digitsValue (whole ++ fraction), e - fraction.length⟩) := by
  have htail : EndsDigits tail ∧ tail.head? ≠ some (CodePoint.ofChar '.') := by
    rcases h with ⟨rfl, -⟩ | rfl
    · exact ⟨nofun, nofun⟩
    · refine ⟨fun c hc => ?_, fun hc => ?_⟩
      · obtain rfl := Option.some.inj hc
        rfl
      · exact absurd (Option.some.inj hc) (by decide)
  have hexponent : ∃ read, Json.takeExponent tail = (read, []) ∧ read.getD 0 = e := by
    rcases h with ⟨rfl, rfl⟩ | rfl
    · exact ⟨none, rfl, rfl⟩
    · exact ⟨some e, takeExponent_exponentText e, rfl⟩
  obtain ⟨read, hread, rfl⟩ := hexponent
  have hends : EndsDigits (fractionText fraction ++ tail) := by
    unfold fractionText
    split
    · exact htail.1
    · intro c hc
      obtain rfl := Option.some.inj hc
      rfl
  unfold readUnsigned
  rw [takeDigits_append hdigits hends]
  dsimp only
  rw [takeFraction_fractionText hfraction htail.1 htail.2]
  dsimp only
  rw [hread]
  exact if_pos ⟨hwhole, rfl⟩

/-! ## Decimals -/

theorem fractionText_of_ne_nil {digits : Text} (h : digits ≠ []) :
    fractionText digits = "." ++ digits := if_neg h

section Decimals

variable {d : Decimal} (hdigits : d.digits ≠ 0)
include hdigits

/-- Digits that start as those of a decimal do have no needless zero in front. -/
theorem isWhole_of_head?_eq {digits : Text} (h : digits.head? = (Text.ofNat d.digits).head?) :
    isWhole digits := by
  have hfirst := Text.head?_ofNat_ne hdigits
  obtain ⟨c, tail, hcons⟩ := List.exists_cons_of_ne_nil (Text.ofNat_ne_nil d.digits)
  rw [← h] at hfirst
  rw [hcons, List.head?_cons, List.head?_eq_some_iff] at h
  obtain ⟨rest, rfl⟩ := h
  simpa [isWhole] using Or.inr fun hc => hfirst (congrArg some hc)

/-- A decimal with its point behind some of its digits. -/
theorem readUnsigned_split {n : Nat} (hn : 0 < n) {tail : Text} {e : Int} (h : IsExponent tail e)
    (hexponent : e - ((Text.ofNat d.digits).drop n).length = d.exponent) :
    readUnsigned ((Text.ofNat d.digits).take n ++
      (fractionText ((Text.ofNat d.digits).drop n) ++ tail)) = some d.value := by
  have hall := Text.all_isDigit_ofNat d.digits
  have hhead : ((Text.ofNat d.digits).take n).head? = (Text.ofNat d.digits).head? := by
    rw [List.head?_take, if_neg hn.ne']
  rw [← List.take_append_drop n (Text.ofNat d.digits), List.all_append, Bool.and_eq_true] at hall
  rw [readUnsigned_eq (isWhole_of_head?_eq hdigits hhead) hall.1 hall.2 h, List.take_append_drop,
    Text.digitsValue_ofNat, hexponent]

omit hdigits in
/-- A decimal with its point before its digits, and zeros between. -/
theorem readUnsigned_small {n : Nat} (h : d.exponent = -(n + (Text.ofNat d.digits).length : ℕ)) :
    readUnsigned ("0." ++ FloatFormat.zeros n ++ Text.ofNat d.digits) = some d.value := by
  have hfraction : (FloatFormat.zeros n ++ Text.ofNat d.digits).all (·.isDigit) := by
    rw [List.all_append, Text.all_isDigit_zeros, Text.all_isDigit_ofNat]
    rfl
  have hvalue : Text.digitsValue ("0" ++ (FloatFormat.zeros n ++ Text.ofNat d.digits)) =
      d.digits := by
    rw [Text.digitsValue_append, Text.digitsValue_append, Text.digitsValue_zeros,
      Text.digitsValue_ofNat, show Text.digitsValue "0" = 0 from rfl]
    ring
  have hexponent : 0 - ((FloatFormat.zeros n ++ Text.ofNat d.digits).length : ℤ) = d.exponent := by
    rw [List.length_append, FloatFormat.zeros, List.length_replicate, h, zero_sub]
  have hzero : isWhole "0" := rfl
  have hread := readUnsigned_eq hzero rfl hfraction (.inl ⟨rfl, rfl⟩)
  rw [fractionText_of_ne_nil (by simp [Text.ofNat_ne_nil]), List.append_nil, hvalue,
    hexponent] at hread
  rwa [List.append_assoc]

/-- A decimal with its point behind its digits, and zeros between. -/
theorem readUnsigned_large {n : Nat} (h : d.exponent = n) :
    readUnsigned (Text.ofNat d.digits ++ FloatFormat.zeros n ++ ".0") = some d.value := by
  have hhead : (Text.ofNat d.digits ++ FloatFormat.zeros n).head? = (Text.ofNat d.digits).head? :=
    List.head?_append_of_ne_nil _ (Text.ofNat_ne_nil _)
  have hall : (Text.ofNat d.digits ++ FloatFormat.zeros n).all (·.isDigit) := by
    rw [List.all_append, Text.all_isDigit_zeros, Text.all_isDigit_ofNat]
    rfl
  have hvalue : Text.digitsValue (Text.ofNat d.digits ++ FloatFormat.zeros n ++ "0") =
      d.digits * 10 ^ n * 10 := by
    rw [Text.digitsValue_append, Text.digitsValue_append, Text.digitsValue_zeros,
      Text.digitsValue_ofNat, FloatFormat.zeros, List.length_replicate]
    rfl
  have hzero : (Text.ofString "0").all (·.isDigit) := rfl
  refine (readUnsigned_eq (isWhole_of_head?_eq hdigits hhead) hall hzero
    (.inl ⟨rfl, rfl⟩)).trans (congrArg some ?_)
  rw [hvalue, Decimal.value, Decimal.value, h]
  push_cast
  simp [Text.ofString]

/-- The text of a decimal is read as the decimal. -/
theorem readUnsigned_decimalText :
    readUnsigned (FloatFormat.standard.decimalText d) = some d.value := by
  have hsize : 0 < (Text.ofNat d.digits).length := List.length_pos_iff.2 (Text.ofNat_ne_nil _)
  unfold FloatFormat.decimalText
  extract_lets digits size point
  have hpoint : point = digits.length + d.exponent := rfl
  split
  · -- one digit before the point, and an exponent
    have hfraction : (if digits.length > 1 then ("." : Text) ++ digits.drop 1 else []) =
        fractionText (digits.drop 1) := by
      simp only [fractionText, List.drop_eq_nil_iff]
      split_ifs <;> first | rfl | omega
    rw [hfraction, List.append_assoc]
    refine readUnsigned_split hdigits Nat.one_pos (.inr rfl) ?_
    rw [List.length_drop]
    change 0 < digits.length at hsize
    change point - 1 - ((digits.length - 1 : ℕ) : ℤ) = d.exponent
    omega
  · split
    · exact readUnsigned_small (by
        change _ = -(((-point).toNat + digits.length : ℕ) : ℤ)
        omega)
    · split
      · exact readUnsigned_large hdigits (by omega)
      · -- the point between two digits
        have hlength : (digits.drop point.toNat).length = size - point := by
          rw [List.length_drop]
          omega
        have hsome : digits.drop point.toNat ≠ [] := by
          rw [← List.length_pos_iff]
          omega
        have hread := readUnsigned_split hdigits (n := point.toNat) (by omega) (.inl ⟨rfl, rfl⟩) (by
          rw [hlength]
          omega)
        rwa [fractionText_of_ne_nil hsome, List.append_nil, ← List.append_assoc] at hread

end Decimals

/-! ## Integers and signs -/

/-- A literal without a sign starts with a digit. -/
theorem exists_of_readUnsigned {t : Text} {x : ℚ} (h : readUnsigned t = some x) :
    ∃ c rest, t = c :: rest ∧ c.isDigit := by
  by_contra hnone
  have hends : EndsDigits t := fun c hc => Bool.eq_false_iff.2 fun hdigit => by
    obtain ⟨rest, ht⟩ := List.head?_eq_some_iff.1 hc
    exact hnone ⟨c, rest, ht, hdigit⟩
  have hnone : ([] : Text).all (·.isDigit) := rfl
  have htake : Json.takeDigits t = ([], t) := takeDigits_append hnone hends
  have hempty : isWhole [] = false := rfl
  rw [readUnsigned, htake] at h
  simp [hempty] at h

/-- A literal without a sign is one with an optional sign. -/
theorem readNumeral_of_readUnsigned {t : Text} {x : ℚ} (h : readUnsigned t = some x) :
    readNumeral t = some x := by
  obtain ⟨c, rest, rfl, hc⟩ := exists_of_readUnsigned h
  have hminus : c ≠ CodePoint.ofChar '-' := by
    rintro rfl
    exact absurd hc (by decide)
  rw [readNumeral, if_neg hminus, h]

theorem readNumeral_minus {t : Text} {x : ℚ} (h : readUnsigned t = some x) :
    readNumeral (CodePoint.ofChar '-' :: t) = some (-x) := by
  rw [readNumeral, if_pos rfl, h]
  rfl

theorem readUnsigned_ofNat (n : Nat) : readUnsigned (Text.ofNat n) = some (n : ℚ) := by
  have hwhole : isWhole (Text.ofNat n) := by
    by_cases h : n = 0
    · rw [h]
      rfl
    · exact isWhole_of_head?_eq (d := ⟨n, 0⟩) h rfl
  have hnone : ([] : Text).all (·.isDigit) := rfl
  have hread := readUnsigned_eq hwhole (Text.all_isDigit_ofNat n) hnone (.inl ⟨rfl, rfl⟩)
  simpa [fractionText, Decimal.value, Text.digitsValue_ofNat] using hread

/-- The text of an integer is read as the integer. -/
theorem readNumeral_ofInt (i : Int) : readNumeral (Text.ofInt i) = some (i : ℚ) := by
  cases i with
  | ofNat n => exact readNumeral_of_readUnsigned (readUnsigned_ofNat n)
  | negSucc n =>
    refine (readNumeral_minus (readUnsigned_ofNat (n + 1))).trans ?_
    push_cast
    rfl

/-! ## Floats -/

/-- The text of a finite float that is not zero is read as a rational that the float stands for. -/
theorem exists_readNumeral_text (negative : Bool) {significand : Nat} (h : significand ≠ 0)
    (exponent : Int) :
    ∃ x, readNumeral (Double.finite negative significand exponent).text = some x ∧
      (Double.finite negative significand exponent).StandsFor x := by
  obtain ⟨hdigits, hstands⟩ := Double.standsFor_shortest h exponent
  have hread := readUnsigned_decimalText hdigits
  rw [Double.text, Double.textIn, if_neg h]
  cases negative with
  | false => exact ⟨_, readNumeral_of_readUnsigned hread, hstands⟩
  | true => exact ⟨_, readNumeral_minus hread, hstands.neg⟩

/-- No number that is not finite has the text of a numeric literal. -/
theorem readNumeral_text_eq_none {d : Double} (h : d = .nan ∨ ∃ negative, d = .infinite negative) :
    readNumeral d.text = none := by
  rcases h with rfl | ⟨negative, rfl⟩
  · rfl
  · cases negative <;> rfl

end Script

end Routewright
