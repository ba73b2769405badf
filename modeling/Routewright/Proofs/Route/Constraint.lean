/-
The numbers that printed schemas show. A constraint is printed as a numeric literal that stands for
the field's number, an integer exactly and a float as the number nearest to the literal, unless the
number is infinite or none at all; those are admitted by validation and printed as words.
-/
import Routewright.Proofs.Number.Literal
import Routewright.Proofs.Route.Schema

namespace Routewright

open Script (readNumeral)

/-! ## Numbers as literals -/

namespace Number

/-- Whether a number is finite. -/
def isFinite : Number → Bool
  | .int _ => true
  | .float d => d.isFinite

/-- A text denotes a number: it is a numeric literal of the integer, or of a rational that the float
stands for. -/
def IsDenotedBy (n : Number) (t : Text) : Prop :=
  ∃ x, readNumeral t = some x ∧
    match n with
    | .int i => x = i
    | .float d => d.StandsFor x

end Number

namespace Route

open Document (Value)
open Script (Expr keyText objectText)
open Spec (Field Payload)

/-- A float without a fraction is denoted by the text of the integer it is. -/
theorem isDenotedBy_ofInt {d : Double} {i : Int} (h : d.toInt? = some i) :
    (Number.float d).IsDenotedBy (Text.ofInt i) := by
  refine ⟨i, Script.readNumeral_ofInt i, ?_, .inl (Double.value_of_toInt? h)⟩
  cases d with
  | finite negative significand exponent => rfl
  | infinite negative => cases h
  | nan => cases h

/-- Zeros have no fraction. -/
theorem significand_ne_zero {negative : Bool} {significand : Nat} {exponent : Int}
    (h : (Double.finite negative significand exponent).toInt? = none) : significand ≠ 0 := by
  rintro rfl
  have hzero : (Double.quotient 0 exponent).1 = 0 := by
    cases exponent <;> simp [Double.quotient]
  rw [Double.toInt?] at h
  dsimp only at h
  rw [if_pos (by rw [hzero, Nat.zero_mod])] at h
  cases h

/-- The text of a number denotes it exactly if it is finite. -/
theorem isDenotedBy_numberText_iff (n : Number) : n.IsDenotedBy (numberText n) ↔ n.isFinite := by
  cases n with
  | int i => exact iff_of_true ⟨i, Script.readNumeral_ofInt i, rfl⟩ rfl
  | float d =>
    cases d with
    | finite negative significand exponent =>
      refine iff_of_true ?_ rfl
      rw [numberText]
      cases hwhole : (Double.finite negative significand exponent).toInt? with
      | some i => exact isDenotedBy_ofInt hwhole
      | none => exact Script.exists_readNumeral_text negative (significand_ne_zero hwhole) exponent
    | infinite negative =>
      refine iff_of_false ?_ Bool.false_ne_true
      rintro ⟨x, hread, -⟩
      cases (Script.readNumeral_text_eq_none (.inr ⟨negative, rfl⟩)).symm.trans hread
    | nan =>
      refine iff_of_false ?_ Bool.false_ne_true
      rintro ⟨x, hread, -⟩
      cases (Script.readNumeral_text_eq_none (.inl rfl)).symm.trans hread

/-! ## Schemas -/

/-- The lines of a field's constraints that are numbers. -/
def numericEntries (f : Field) : List Text :=
  (numericConstraints f).map fun c => keyText c.1 ++ ": " ++ numberText c.2

/-- A field with one bound is accepted whatever number the bound is. -/
theorem check_bound (name : Text) (n : Number) : ∃ f : Field, f.minimum = some n ∧
    Spec.Payload.check (.map [(.str name, .map [(.str "minimum", .ofNumber n)])]) =
      .accepted (some [(name, f)]) := by
  cases n <;> exact ⟨_, rfl, rfl⟩

/-- A payload is printed as an object of its fields' schemas. One of a field that is no array lists the
field's numbers behind its texts, and what it shows for a number denotes the number exactly if that is
finite. Validation accepts also numbers that are not. -/
theorem constraints_denoted_iff (payload : Option Payload) (level : Nat) :
    (payloadSchema payload).print level = .ok (called "t.Object"
        (objectText ((payload.getD []).map (fieldEntry (level + 1))) true level)) ∧
      (∀ f ∈ payload.getD [], f.2.fieldType ≠ .array →
        (∃ texts, argumentText f.2 (level + 1) =
            objectText (texts ++ numericEntries f.2) true (level + 1)) ∧
          ∀ c ∈ numericConstraints f.2, c.2.IsDenotedBy (numberText c.2) ↔ c.2.isFinite) ∧
      ∀ name n, ∃ f : Field, f.minimum = some n ∧
        Spec.Payload.check (.map [(.str name, .map [(.str "minimum", .ofNumber n)])]) =
          .accepted (some [(name, f)]) :=
  ⟨print_objectSchema _ level, fun _ _ harray => ⟨⟨_, if_neg harray⟩, fun c _ =>
    isDenotedBy_numberText_iff c.2⟩, check_bound⟩

/-- A payload with a float, an infinite one, a truth value and a text as bounds. -/
theorem constraints_denoted_iff_infinite :
    let tenth := Double.ofDecimal false 1 (-1)
    let ratio : Field := ⟨"Number", false, none, none, some (.float tenth),
      some (.float (.infinite false)), none, none, none, []⟩
    let code : Field := ⟨"String", false, none, none, none, none, some 1, some 12, none, []⟩
    let payload : Payload := [("ratio", ratio), ("code", code)]
    let v : Value := .map [
      (.str "ratio", .map [(.str "type", .str "Number"), (.str "minimum", .float tenth),
        (.str "maximum", .float (.infinite false))]),
      (.str "code", .map [(.str "minLength", .bool true), (.str "maxLength", .str "12")])]
    Spec.Payload.check v = .accepted (some payload) ∧
      (payloadSchema (some payload)).print 0 = .ok (Text.ofString
        ("t.Object(\x7b\n  ratio: t.Number(\x7b\n    minimum: 0.1,\n    maximum: inf,\n  \x7d),\n" ++
          "  code: t.String(\x7b\n    minLength: 1,\n    maxLength: 12,\n  \x7d),\n\x7d)")) ∧
      (Number.float tenth).IsDenotedBy "0.1" ∧ (Number.int 12).IsDenotedBy "12" ∧
      ¬(Number.float (.infinite false)).IsDenotedBy "inf" := by
  intro tenth ratio code payload v
  obtain ⟨hprint, hfields, -⟩ := constraints_denoted_iff (some payload) 0
  have hratio := (hfields ("ratio", ratio) (.head _) (by decide)).2
  have hcode := (hfields ("code", code) (.tail _ (.head _)) (by decide)).2
  have htenth : numberText (.float tenth) = "0.1" := by decide +kernel
  refine ⟨rfl, hprint.trans (congrArg Except.ok (by decide +kernel)), ?_, ?_, ?_⟩
  · exact htenth ▸ (hratio ("minimum", .float tenth) (by decide)).2 rfl
  · exact (hcode ("maxLength", .int 12) (by decide)).2 rfl
  · exact fun h => absurd ((hratio ("maximum", .float (.infinite false)) (by decide)).1 h) (by decide)

end Route

end Routewright
