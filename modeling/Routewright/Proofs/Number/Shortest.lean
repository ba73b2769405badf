/-
What the shortest decimal of a number is read as: the number is the one nearest to it. The decimal is
one that was read back while it was looked for, or has all digits of the number; that it ends in no
zeros does not change what it is.
-/
import Routewright.Number.Shortest
import Routewright.Proofs.Number.Rounding

namespace Routewright

/-! ## Decimals -/

namespace Decimal

/-- The rational that a decimal is. -/
def value (d : Decimal) : ℚ := d.digits * 10 ^ d.exponent

theorem value_normal (fuel : Nat) (d : Decimal) : (d.normal fuel).value = d.value := by
  induction fuel generalizing d with
  | zero => rfl
  | succ fuel ih =>
    rw [normal]
    split
    · rename_i h
      have hdigits : (d.digits : ℚ) = (d.digits / 10 : ℕ) * 10 := by
        exact_mod_cast (Nat.div_mul_cancel (Nat.dvd_of_mod_eq_zero h.2)).symm
      rw [ih, value, value, hdigits, zpow_add_one₀ (by norm_num)]
      ring
    · rfl

theorem digits_normal_ne_zero {d : Decimal} (h : d.digits ≠ 0) (fuel : Nat) :
    (d.normal fuel).digits ≠ 0 := by
  induction fuel generalizing d with
  | zero => exact h
  | succ fuel ih =>
    rw [normal]
    split
    · rename_i hzero
      exact ih (by dsimp only; omega)
    · exact h

end Decimal

namespace Double

/-! ## Numbers of decimals -/

theorem round_zero (negative : Bool) (den : Nat) :
    round negative 0 den = finite negative 0 minExponent := if_pos rfl

section Positive

variable {significand : Nat} {exponent : Int} (hpositive : significand ≠ 0)
include hpositive

/-- A decimal is read as the number nearest to it. -/
theorem isNearest_ofDecimal {d : Decimal}
    (h : ofDecimal false d.digits d.exponent = finite false significand exponent) :
    d.digits ≠ 0 ∧ (finite false significand exponent).IsNearest d.value := by
  have hzero (den : Nat) : round false 0 den ≠ finite false significand exponent := fun h =>
    hpositive (finite.inj ((round_zero false den).symm.trans h)).2.1.symm
  obtain ⟨digits, e⟩ := d
  unfold ofDecimal at h
  dsimp only at h
  split at h
  · exact absurd h (hzero 1)
  · rename_i hdigits
    split at h
    · cases h
    · split at h
      · exact absurd h (hzero 1)
      · refine ⟨hdigits, ?_⟩
        cases e with
        | ofNat e =>
          have hpower : 0 < Nat.pow 10 e := Nat.pow_pos (by omega)
          have hnum := Nat.mul_pos (Nat.pos_of_ne_zero hdigits) hpower
          have hnearest := isNearest_round hnum Nat.one_pos h
          simpa [Decimal.value] using hnearest
        | negSucc e =>
          have hnearest := isNearest_round (Nat.pos_of_ne_zero hdigits) (Nat.pow_pos (by omega)) h
          simpa [Decimal.value, zpow_negSucc, div_eq_mul_inv] using hnearest

theorem isNearest_of_readsAs {d : Decimal} (h : readsAs significand exponent d) :
    d.digits ≠ 0 ∧ (finite false significand exponent).IsNearest d.value :=
  isNearest_ofDecimal hpositive (eq_of_beq h)

theorem isNearest_of_gridHit {unit : Int} {d : Decimal}
    (h : gridHit significand exponent unit = some d) :
    d.digits ≠ 0 ∧ (finite false significand exponent).IsNearest d.value := by
  unfold gridHit at h
  dsimp only at h
  refine isNearest_of_readsAs hpositive ?_
  split at h
  · rename_i hbelow habove
    split at h
    · rwa [← Option.some.inj h]
    · rwa [← Option.some.inj h]
  · rename_i hbelow _
    rwa [← Option.some.inj h]
  · rename_i habove
    rwa [← Option.some.inj h]
  · cases h

omit hpositive in
theorem value_exactDecimal (significand : Nat) (exponent : Int) :
    (exactDecimal significand exponent).value = (finite false significand exponent).value := by
  rw [value_finite_false]
  cases exponent with
  | ofNat e => simp [exactDecimal, Decimal.value]
  | negSucc e =>
    have hten : (10 : ℚ) ^ (e + 1) = 2 ^ (e + 1) * 5 ^ (e + 1) := by rw [← mul_pow]; norm_num
    simp only [exactDecimal, Decimal.value, zpow_negSucc, hten, Nat.pow_eq]
    push_cast
    field_simp

theorem digits_exactDecimal_ne_zero : (exactDecimal significand exponent).digits ≠ 0 := by
  cases exponent with
  | ofNat e => exact Nat.mul_ne_zero hpositive (Nat.pow_pos (by omega)).ne'
  | negSucc e => exact Nat.mul_ne_zero hpositive (Nat.pow_pos (by omega)).ne'

/-- A positive number stands for its shortest decimal. -/
theorem standsFor_shortest (exponent : Int) : (shortest significand exponent).digits ≠ 0 ∧
    (finite false significand exponent).StandsFor (shortest significand exponent).value := by
  unfold shortest
  extract_lets v size hits
  rw [Decimal.value_normal]
  suffices h : (hits.getD (exactDecimal significand exponent)).digits ≠ 0 ∧
      (finite false significand exponent).StandsFor
        (hits.getD (exactDecimal significand exponent)).value from
    ⟨Decimal.digits_normal_ne_zero h.1 400, h.2⟩
  cases hhits : hits with
  | none =>
    exact ⟨digits_exactDecimal_ne_zero hpositive, rfl, .inl (value_exactDecimal _ _)⟩
  | some d =>
    obtain ⟨n, -, hhit⟩ := List.exists_of_findSome?_eq_some hhits
    obtain ⟨hdigits, hnearest⟩ := isNearest_of_gridHit hpositive hhit
    exact ⟨hdigits, rfl, .inr hnearest⟩

end Positive

/-! ## Integers -/

/-- The integer that a number is. -/
theorem value_of_toInt? {d : Double} {i : Int} (h : d.toInt? = some i) : (i : ℚ) = d.value := by
  cases d with
  | finite negative significand exponent =>
    rw [toInt?] at h
    extract_lets n at h
    split at h
    · rename_i hwhole
      have hn : (n : ℚ) = significand * 2 ^ exponent := by
        rw [← ratio_quotient, ratio_eq_whole_add (quotient_snd_pos significand exponent), hwhole,
          Nat.cast_zero, zero_div, add_zero]
        rfl
      rw [← Option.some.inj h, value, ← hn]
      cases negative <;> simp
    · cases h
  | infinite negative => cases h
  | nan => cases h

end Double

end Routewright
