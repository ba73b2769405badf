/-
Texts without a line feed. Literals never have one: a string is escaped, and a number is digits and
a few signs.
-/
import Routewright.Number.Text
import Routewright.Proofs.Text.Digits
import Routewright.Proofs.Text.Lines
import Routewright.Proofs.Text.Replacement

namespace Routewright

namespace Text

/-- Whether a text has no line feed. -/
def isLine (t : Text) : Bool := t.all (· != CodePoint.ofChar '\n')

theorem isLine_iff {t : Text} : t.isLine ↔ CodePoint.ofChar '\n' ∉ t := by
  rw [isLine, List.all_eq_true]
  constructor
  · intro h hin
    simpa using h _ hin
  · intro h c hc
    exact bne_iff_ne.2 fun heq => h (heq ▸ hc)

theorem isLine_append (s t : Text) : isLine (s ++ t) = (s.isLine && t.isLine) :=
  List.all_append

theorem isLine_of_sublist {s t : Text} (h : List.Sublist s t) (ht : t.isLine) : s.isLine :=
  isLine_iff.2 fun hin => isLine_iff.1 ht (h.subset hin)

theorem isLine_join {separator : Text} {pieces : List Text} (hseparator : separator.isLine)
    (h : ∀ p ∈ pieces, p.isLine) : (join separator pieces).isLine := by
  induction pieces with
  | nil => rfl
  | cons piece pieces ih =>
    have hpiece := h piece List.mem_cons_self
    have hrest := ih fun p hp => h p (List.mem_cons_of_mem _ hp)
    cases pieces with
    | nil => rwa [join, List.intercalate_singleton]
    | cons next rest =>
      rw [join_cons_cons, isLine_append, isLine_append, hpiece, hseparator, hrest]
      rfl

theorem isLine_flatMap {f : CodePoint → Text} (h : ∀ c, (f c).isLine) (t : Text) :
    isLine (t.flatMap f) := by
  induction t with
  | nil => rfl
  | cons c t ih => rw [List.flatMap_cons, isLine_append, h, ih]; rfl

/-! ## Literals -/

theorem isLine_quoted (t : Text) : t.quoted.isLine := by
  have hescape (c : CodePoint) : (escapeQuoted c).isLine := by
    have hhex : ∀ n < 0x20, (ofHex 4 n).isLine := by decide
    unfold escapeQuoted
    split_ifs with _ _ hfeed _ _ _ _ hcontrol
    iterate 7 rfl
    · exact hhex c.val hcontrol
    · exact isLine_iff.2 fun h => hfeed (List.mem_singleton.1 h).symm
  rw [quoted, ← List.singleton_append, isLine_append, isLine_append, isLine_flatMap hescape]
  rfl

theorem isLine_escapeTemplate {t : Text} (h : t.isLine) : isLine (escapeTemplate t) := by
  induction t with
  | nil => rfl
  | cons c t ih =>
    obtain ⟨hc, ht⟩ := Bool.and_eq_true_iff.1 h
    have hcons (d : CodePoint) (hd : (d != CodePoint.ofChar '\n') = true) :
        isLine (d :: escapeTemplate t) := Bool.and_eq_true_iff.2 ⟨hd, ih ht⟩
    rw [escapeTemplate_cons]
    split_ifs
    iterate 3 exact Bool.and_eq_true_iff.2 ⟨rfl, hcons _ rfl⟩
    · exact hcons c hc

theorem isLine_ofNat (n : Nat) : (ofNat n).isLine :=
  isLine_iff.2 fun h => absurd (isDigit_of_mem_ofNat h) (by decide)

theorem isLine_ofInt (i : Int) : (ofInt i).isLine := by
  cases i with
  | ofNat n => exact isLine_ofNat n
  | negSucc n => exact isLine_ofNat (n + 1)

theorem ofInt_ne_nil (i : Int) : ofInt i ≠ [] := by
  cases i with
  | ofNat n => exact ofNat_ne_nil n
  | negSucc n => exact List.cons_ne_nil _ _

end Text

open Text

namespace FloatFormat

theorem isLine_zeros (n : Nat) : (zeros n).isLine :=
  isLine_iff.2 fun h => absurd (List.eq_of_mem_replicate h) (by decide)

theorem isLine_exponentText (f : FloatFormat) (e : Int) : (f.exponentText e).isLine := by
  rw [exponentText]
  simp only [isLine_append, isLine_zeros, isLine_ofNat, Bool.and_true]
  split <;> rfl

theorem isLine_decimalText (f : FloatFormat) (d : Decimal) : (f.decimalText d).isLine := by
  have htake (n : Nat) : isLine ((ofNat d.digits).take n) :=
    isLine_of_sublist (List.take_sublist ..) (isLine_ofNat _)
  have hdrop (n : Nat) : isLine ((ofNat d.digits).drop n) :=
    isLine_of_sublist (List.drop_sublist ..) (isLine_ofNat _)
  unfold decimalText
  dsimp only
  split_ifs <;>
    simp only [isLine_append, htake, hdrop, isLine_zeros, isLine_ofNat, isLine_exponentText,
      Bool.and_true] <;> rfl

theorem decimalText_ne_nil (f : FloatFormat) (d : Decimal) : f.decimalText d ≠ [] := by
  have hdigits := ofNat_ne_nil d.digits
  unfold decimalText
  dsimp only
  split_ifs <;> simp [hdigits, exponentText, ofString]

end FloatFormat

theorem Double.isLine_text (d : Double) : d.text.isLine := by
  cases d with
  | finite negative significand exponent =>
    have hsign : isLine (if negative then ("-" : Text) else []) := by cases negative <;> rfl
    rw [text, textIn, isLine_append, hsign, Bool.true_and]
    split
    · rfl
    · exact FloatFormat.isLine_decimalText _ _
  | infinite negative => cases negative <;> rfl
  | nan => rfl

theorem Double.text_ne_nil (d : Double) : d.text ≠ [] := by
  cases d with
  | finite negative significand exponent =>
    rw [text, textIn]
    refine List.append_ne_nil_of_right_ne_nil _ ?_
    split
    · exact List.cons_ne_nil _ _
    · exact FloatFormat.decimalText_ne_nil _ _
  | infinite negative => cases negative <;> exact List.cons_ne_nil _ _
  | nan => exact List.cons_ne_nil _ _

end Routewright
