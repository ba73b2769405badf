/-
The digits of numbers: a number is written in decimal digits, at least one, and read back from them.
-/
import Mathlib.Data.List.Basic
import Routewright.Text.Basic

namespace Routewright.Text

theorem isDigit_of_mem_ofNat {n : Nat} {c : CodePoint} (h : c ∈ ofNat n) : c.isDigit := by
  obtain ⟨d, hd, rfl⟩ := List.mem_map.1 h
  have := Nat.isDigit_of_mem_toDigits (by omega) (by omega) hd
  rw [Char.isDigit_iff_toNat] at this
  rw [CodePoint.isDigit, Bool.and_eq_true]
  exact ⟨decide_eq_true this.1, decide_eq_true this.2⟩

theorem ofNat_ne_nil (n : Nat) : ofNat n ≠ [] := by
  simp [ofNat, Nat.toDigits_ne_nil]

theorem digitsValue_ofNat (n : Nat) : digitsValue (ofNat n) = n := by
  have hsame : digitsValue (ofNat n) = Nat.ofDigitChars 10 (Nat.toDigits 10 n) 0 := by
    simp only [digitsValue, ofNat, List.foldl_map, Nat.ofDigitChars_eq_foldl, Nat.mul_comm 10]
    rfl
  rw [hsame, Nat.ofDigitChars_toDigits (by omega) (by omega)]

/-- Numbers in base ten differ when the numbers do. -/
theorem ofNat_inj {i j : Nat} (h : ofNat i = ofNat j) : i = j := by
  rw [← digitsValue_ofNat i, h, digitsValue_ofNat]

end Routewright.Text
