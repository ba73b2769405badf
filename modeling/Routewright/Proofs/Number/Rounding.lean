/-
Rounding, judged by exact rationals. A quotient is rounded to a number such that no number of at most
53 bits and an exponent in range is nearer, and such that of two equally near ones it is the one with
an even significand.
-/
import Mathlib.Algebra.Order.Field.Basic
import Mathlib.Algebra.Order.Field.Power
import Mathlib.Data.Rat.Cast.Order
import Mathlib.Tactic.FieldSimp
import Mathlib.Tactic.Linarith
import Mathlib.Tactic.Ring
import Routewright.Number.Double

namespace Routewright

/-! ## Quotients -/

/-- The rational that a quotient of naturals stands for. -/
def ratio (q : Nat × Nat) : ℚ := q.1 / q.2

theorem ratio_scaledQuotient (num den : Nat) {base : Nat} (hbase : 0 < base) (e : Int) :
    ratio (scaledQuotient num den base e) = num / den / (base : ℚ) ^ e := by
  have hbase' : (base : ℚ) ≠ 0 := by exact_mod_cast hbase.ne'
  cases e with
  | ofNat e => simp [ratio, scaledQuotient, div_div]
  | negSucc e =>
    simp only [ratio, scaledQuotient, Nat.pow_eq, Nat.cast_mul, Nat.cast_pow, zpow_negSucc]
    field_simp

theorem scaledQuotient_snd_pos (num : Nat) {den base : Nat} (hden : 0 < den) (hbase : 0 < base)
    (e : Int) : 0 < (scaledQuotient num den base e).2 := by
  cases e with
  | ofNat e => exact Nat.mul_pos hden (Nat.pow_pos hbase)
  | negSucc e => exact hden

theorem ratio_quotient (significand : Nat) (e : Int) :
    ratio (Double.quotient significand e) = significand * (2 : ℚ) ^ e := by
  cases e with
  | ofNat e => simp [ratio, Double.quotient]
  | negSucc e => simp [ratio, Double.quotient, zpow_negSucc, div_eq_mul_inv]

theorem quotient_snd_pos (significand : Nat) (e : Int) :
    0 < (Double.quotient significand e).2 := by
  cases e with
  | ofNat e => exact Nat.one_pos
  | negSucc e => exact Nat.pow_pos Nat.two_pos

theorem one_le_ratio_iff {q : Nat × Nat} (h : 0 < q.2) : 1 ≤ ratio q ↔ q.2 ≤ q.1 := by
  rw [ratio, one_le_div (by exact_mod_cast h)]
  exact Nat.cast_le

/-- A quotient lies between the two powers of two that it is said to lie between. -/
theorem floorLog2_spec {num den : Nat} (hnum : 0 < num) (hden : 0 < den) :
    (2 : ℚ) ^ floorLog2 num den ≤ num / den ∧ (num : ℚ) / den < 2 ^ (floorLog2 num den + 1) := by
  have hden' : (0 : ℚ) < den := by exact_mod_cast hden
  have htwo : (2 : ℚ) ≠ 0 := two_ne_zero
  -- the sizes of both parts leave two powers to choose from
  have hnumLow : (2 : ℚ) ^ (num.log2 : ℤ) ≤ num := by
    rw [zpow_natCast]; exact_mod_cast Nat.log2_self_le hnum.ne'
  have hnumHigh : (num : ℚ) < 2 ^ (num.log2 + 1 : ℤ) := by
    exact_mod_cast (Nat.lt_log2_self (n := num))
  have hdenLow : (2 : ℚ) ^ (den.log2 : ℤ) ≤ den := by
    rw [zpow_natCast]; exact_mod_cast Nat.log2_self_le hden.ne'
  have hdenHigh : (den : ℚ) < 2 ^ (den.log2 + 1 : ℤ) := by
    exact_mod_cast (Nat.lt_log2_self (n := den))
  have hlow : (2 : ℚ) ^ ((num.log2 : ℤ) - den.log2 - 1) ≤ num / den := by
    rw [le_div_iff₀ hden']
    calc (2 : ℚ) ^ ((num.log2 : ℤ) - den.log2 - 1) * den
        ≤ 2 ^ ((num.log2 : ℤ) - den.log2 - 1) * 2 ^ (den.log2 + 1 : ℤ) := by gcongr
      _ = 2 ^ (num.log2 : ℤ) := by rw [← zpow_add₀ htwo]; congr 1; ring
      _ ≤ num := hnumLow
  have hhigh : (num : ℚ) / den < 2 ^ ((num.log2 : ℤ) - den.log2 + 1) := by
    rw [div_lt_iff₀ hden']
    calc (num : ℚ) < 2 ^ (num.log2 + 1 : ℤ) := hnumHigh
      _ = 2 ^ ((num.log2 : ℤ) - den.log2 + 1) * 2 ^ (den.log2 : ℤ) := by
        rw [← zpow_add₀ htwo]; congr 1; ring
      _ ≤ 2 ^ ((num.log2 : ℤ) - den.log2 + 1) * den := by gcongr
  unfold floorLog2
  extract_lets guess q
  have hguess : q.2 ≤ q.1 ↔ (2 : ℚ) ^ guess ≤ num / den := by
    rw [← one_le_ratio_iff (scaledQuotient_snd_pos num hden Nat.two_pos guess),
      ratio_scaledQuotient num den Nat.two_pos, Nat.cast_ofNat, one_le_div (by positivity)]
  split
  · rename_i h
    exact ⟨hguess.1 h, hhigh⟩
  · rename_i h
    rw [sub_add_cancel]
    exact ⟨hlow, not_le.1 fun hle => h (hguess.2 hle)⟩

/-- A quotient is its whole part and a fraction. -/
theorem ratio_eq_whole_add {q : Nat × Nat} (h : 0 < q.2) :
    ratio q = (q.1 / q.2 : ℕ) + ((q.1 % q.2 : ℕ) : ℚ) / q.2 := by
  have hden : (0 : ℚ) < q.2 := by exact_mod_cast h
  rw [ratio, eq_comm, ← mul_right_cancel_iff_of_pos hden, add_mul, div_mul_cancel₀ _ hden.ne',
    div_mul_cancel₀ _ hden.ne']
  exact_mod_cast Nat.div_add_mod' q.1 q.2

/-- A quotient is rounded to a natural at most a half away, and to an even one at a half. -/
theorem roundQuotient_spec {q : Nat × Nat} (h : 0 < q.2) :
    |(roundQuotient q.1 q.2 : ℚ) - ratio q| ≤ 1 / 2 ∧
      (|(roundQuotient q.1 q.2 : ℚ) - ratio q| = 1 / 2 → Even (roundQuotient q.1 q.2)) := by
  have hden : (0 : ℚ) < q.2 := by exact_mod_cast h
  have hover : q.2 < 2 * (q.1 % q.2) ↔ 1 / 2 < ((q.1 % q.2 : ℕ) : ℚ) / q.2 := by
    have hcast : (q.2 : ℚ) < 2 * (q.1 % q.2 : ℕ) ↔ q.2 < 2 * (q.1 % q.2) := by
      exact_mod_cast Iff.rfl
    rw [← hcast, lt_div_iff₀ hden]
    constructor <;> intro h <;> linarith
  have hhalf : 2 * (q.1 % q.2) = q.2 ↔ ((q.1 % q.2 : ℕ) : ℚ) / q.2 = 1 / 2 := by
    have hcast : 2 * ((q.1 % q.2 : ℕ) : ℚ) = q.2 ↔ 2 * (q.1 % q.2) = q.2 := by
      exact_mod_cast Iff.rfl
    rw [← hcast, div_eq_iff hden.ne']
    constructor <;> intro h <;> linarith
  have hrest : (0 : ℚ) ≤ ((q.1 % q.2 : ℕ) : ℚ) / q.2 := by positivity
  have hless : ((q.1 % q.2 : ℕ) : ℚ) / q.2 < 1 := by
    rw [div_lt_one hden]
    exact_mod_cast Nat.mod_lt q.1 h
  unfold roundQuotient
  rw [ratio_eq_whole_add h]
  extract_lets low rest
  generalize ((q.1 % q.2 : ℕ) : ℚ) / q.2 = fraction at *
  split
  · rename_i hup
    have hsize : |((low + 1 : ℕ) : ℚ) - (low + fraction)| = 1 - fraction := by
      rw [abs_of_nonneg] <;> push_cast <;> linarith
    rw [hsize]
    simp only [Bool.or_eq_true, decide_eq_true_eq, Bool.and_eq_true, beq_iff_eq] at hup
    rcases hup with hup | ⟨hup, hodd⟩
    · have := hover.1 hup
      exact ⟨by linarith, fun h => by linarith⟩
    · have := hhalf.1 hup
      exact ⟨by linarith, fun _ => Nat.even_add_one.2 (Nat.not_even_iff.2 hodd)⟩
  · rename_i hdown
    have hsize : |(low : ℚ) - (low + fraction)| = fraction := by
      rw [sub_add_cancel_left, abs_neg, abs_of_nonneg hrest]
    rw [hsize]
    simp only [Bool.or_eq_true, decide_eq_true_eq, Bool.and_eq_true, beq_iff_eq, not_or,
      not_and] at hdown
    exact ⟨not_lt.1 fun h => hdown.1 (hover.2 h), fun h =>
      Nat.not_odd_iff_even.1 fun hodd => hdown.2 (hhalf.2 h) (Nat.odd_iff.1 hodd)⟩

/-! ## The grid -/

namespace Double

/-- A number that a significand of 53 bits makes with an exponent of a binary64 number or a greater
one. -/
def OnGrid (y : ℚ) : Prop :=
  ∃ (m e : ℤ), |m| < 2 ^ precision ∧ minExponent ≤ e ∧ y = m * 2 ^ e

/-- The rational that a finite number stands for. -/
def value : Double → ℚ
  | finite negative significand exponent =>
    (if negative then -1 else 1) * (significand * 2 ^ exponent)
  | _ => 0

/-- A significand and an exponent of a binary64 number. -/
structure InRange (significand : Nat) (exponent : Int) : Prop where
  bits : significand < 2 ^ precision
  least : minExponent ≤ exponent
  greatest : exponent ≤ maxExponent

/-- A binary64 number is what a rational is rounded to: no number of the grid is nearer to the
rational, and another one that is as near leaves the choice to the one with an even significand. -/
def IsNearest (x : ℚ) : Double → Prop
  | finite negative significand exponent =>
    InRange significand exponent ∧ ∀ y, OnGrid y →
      |(finite negative significand exponent).value - x| ≤ |y - x| ∧
        (|y - x| = |(finite negative significand exponent).value - x| →
          y = (finite negative significand exponent).value ∨ Even significand)
  | _ => False

def isFinite : Double → Bool
  | finite .. => true
  | _ => false

/-- A finite number stands for a rational: for itself, and for what is rounded to it. -/
def StandsFor (d : Double) (x : ℚ) : Prop := d.isFinite ∧ (x = d.value ∨ d.IsNearest x)

/-! ## Nearest numbers -/

theorem value_negate_finite (negative : Bool) (significand : Nat) (exponent : Int) :
    (finite (!negative) significand exponent).value =
      -(finite negative significand exponent).value := by
  cases negative <;> simp [value]

theorem OnGrid.neg {y : ℚ} (h : OnGrid y) : OnGrid (-y) := by
  obtain ⟨m, e, hm, he, rfl⟩ := h
  exact ⟨-m, e, by rwa [abs_neg], he, by push_cast; ring⟩

section Negation

variable {x : ℚ} {negative : Bool} {significand : Nat} {exponent : Int}

/-- The grid looks the same below zero. -/
theorem IsNearest.neg (h : (finite negative significand exponent).IsNearest x) :
    (finite (!negative) significand exponent).IsNearest (-x) := by
  refine ⟨h.1, fun y hy => ?_⟩
  have hflip (z : ℚ) : |-z - -x| = |z - x| := by rw [← neg_sub', abs_neg]
  obtain ⟨hle, htie⟩ := h.2 (-y) hy.neg
  have hy' : |y - -x| = |-y - x| := by rw [← hflip (-y), neg_neg]
  rw [value_negate_finite, hflip, hy']
  exact ⟨hle, fun heq => (htie heq).imp_left neg_eq_iff_eq_neg.1⟩

theorem StandsFor.neg (h : (finite negative significand exponent).StandsFor x) :
    (finite (!negative) significand exponent).StandsFor (-x) := by
  refine ⟨rfl, h.2.imp (fun hx => ?_) IsNearest.neg⟩
  rw [hx, value_negate_finite]

end Negation

/-- An integer at most a half away from a rational is nearest to it. -/
theorem abs_sub_le_of_half {y : ℚ} {m : ℤ} (h : |m - y| ≤ 1 / 2) (k : ℤ) :
    |m - y| ≤ |k - y| ∧ (|k - y| = |m - y| → k = m ∨ |m - y| = 1 / 2) := by
  by_cases hk : k = m
  · rw [hk]
    exact ⟨le_rfl, fun _ => .inl rfl⟩
  · have hapart : (1 : ℚ) ≤ |(k : ℚ) - m| := by exact_mod_cast Int.one_le_abs (sub_ne_zero.2 hk)
    have hsum : |(k : ℚ) - m| ≤ |k - y| + |m - y| := by
      rw [abs_sub_comm (m : ℚ) y]
      exact abs_sub_le _ _ _
    exact ⟨by linarith, fun heq => .inr (by linarith)⟩

/-- A number of the grid, in units of a power of two in range: an integer, or less than any number
that has all its bits. -/
theorem OnGrid.inUnits {y : ℚ} (h : OnGrid y) (unit : Int) :
    (∃ k : ℤ, y = k * 2 ^ unit) ∨ minExponent < unit ∧ y < 2 ^ 52 * 2 ^ unit := by
  obtain ⟨m, e, hm, he, rfl⟩ := h
  rcases le_or_gt unit e with hle | hlt
  · refine .inl ⟨m * 2 ^ (e - unit).toNat, ?_⟩
    have hgap : e = ((e - unit).toNat : ℤ) + unit := by omega
    conv_lhs => rw [hgap, zpow_add₀ two_ne_zero, zpow_natCast]
    push_cast
    ring
  · refine .inr ⟨by omega, ?_⟩
    have hbits : (m : ℚ) < 2 ^ (53 : ℕ) := by exact_mod_cast lt_of_abs_lt hm
    calc (m : ℚ) * 2 ^ e < 2 ^ (53 : ℕ) * 2 ^ e := by gcongr
      _ ≤ 2 ^ (53 : ℕ) * 2 ^ (unit - 1) := by
        gcongr
        · exact one_le_two
        · omega
      _ = 2 ^ 52 * 2 ^ unit := by
        rw [zpow_sub₀ two_ne_zero]
        ring

section Units

variable {z : ℚ} {m : Nat} {unit : Int}

/-- A rational is rounded to an integer of units that is at most a half away from it, if the units are
the least ones or the rational has all bits of a significand in them. -/
theorem nearest_inUnits (hhalf : |(m : ℚ) - z| ≤ 1 / 2) (heven : |(m : ℚ) - z| = 1 / 2 → Even m)
    (hbits : unit = minExponent ∨ 2 ^ 52 ≤ z) {y : ℚ} (hy : OnGrid y) :
    |m * 2 ^ unit - z * 2 ^ unit| ≤ |y - z * 2 ^ unit| ∧
      (|y - z * 2 ^ unit| = |m * 2 ^ unit - z * 2 ^ unit| → y = m * 2 ^ unit ∨ Even m) := by
  have hunit : (0 : ℚ) < 2 ^ unit := by positivity
  have hscale (a : ℚ) : |a * 2 ^ unit - z * 2 ^ unit| = |a - z| * 2 ^ unit := by
    rw [← sub_mul, abs_mul, abs_of_pos hunit]
  rcases hy.inUnits unit with ⟨k, rfl⟩ | ⟨hgreater, hless⟩
  · obtain ⟨hle, htie⟩ := abs_sub_le_of_half (m := m) hhalf k
    rw [hscale, hscale]
    refine ⟨mul_le_mul_of_nonneg_right hle hunit.le, fun heq => ?_⟩
    refine (htie (mul_right_cancel₀ hunit.ne' heq)).imp (fun h => by rw [h]; rfl) heven
  · -- such a number lies below `2 ^ 52` units, which is an integer and no nearer than `m`
    have hlarge := hbits.resolve_left hgreater.ne'
    obtain ⟨hle, -⟩ := abs_sub_le_of_half (m := m) hhalf (2 ^ 52)
    rw [Int.cast_pow, Int.cast_ofNat, abs_sub_comm (2 ^ 52) z,
      abs_of_nonneg (sub_nonneg.2 hlarge)] at hle
    have hfar : (z - 2 ^ 52) * 2 ^ unit < |y - z * 2 ^ unit| := by
      rw [abs_sub_comm, sub_mul]
      exact lt_of_lt_of_le (by linarith) (le_abs_self _)
    have hlt : |m * 2 ^ unit - z * 2 ^ unit| < |y - z * 2 ^ unit| := by
      rw [hscale]
      exact lt_of_le_of_lt (mul_le_mul_of_nonneg_right hle hunit.le) hfar
    exact ⟨hlt.le, fun heq => absurd heq hlt.ne'⟩

end Units

theorem value_finite_false (significand : Nat) (exponent : Int) :
    (finite false significand exponent).value = significand * 2 ^ exponent := by
  simp [value]

/-- The exponent that a quotient is rounded at. -/
def roundingUnit (num den : Nat) : Int := max (floorLog2 num den - 52) minExponent

/-- The quotient in units of the exponent that it is rounded at. -/
def inRoundingUnits (num den : Nat) : Nat × Nat := scaledQuotient num den 2 (roundingUnit num den)

section Round

variable {num den significand : Nat} {exponent : Int}

/-- A rounded quotient is so many units, but for a last bit that makes the units greater. -/
theorem eq_of_round (hnum : 0 < num)
    (h : round false num den = finite false significand exponent) :
    let q := inRoundingUnits num den
    let unit := roundingUnit num den
    exponent ≤ maxExponent ∧
      (significand = roundQuotient q.1 q.2 ∧ significand ≠ 2 ^ precision ∧ exponent = unit ∨
        roundQuotient q.1 q.2 = 2 ^ precision ∧ significand = 2 ^ 52 ∧ exponent = unit + 1) := by
  intro q unit
  rw [round, if_neg hnum.ne'] at h
  extract_lets at h
  split at h
  rename_i rounded hrounded
  split at h
  · cases h
  · rename_i hgreatest
    obtain ⟨-, rfl, rfl⟩ := finite.inj h
    refine ⟨not_lt.1 hgreatest, ?_⟩
    split at hrounded
    · rename_i hcarry
      obtain ⟨rfl, rfl⟩ := Prod.mk.inj hrounded
      exact .inr ⟨hcarry, rfl, rfl⟩
    · rename_i hcarry
      obtain ⟨rfl, rfl⟩ := Prod.mk.inj hrounded
      exact .inl ⟨rfl, hcarry, rfl⟩

theorem ratio_inRoundingUnits (num den : Nat) :
    ratio (inRoundingUnits num den) = num / den / 2 ^ roundingUnit num den :=
  ratio_scaledQuotient num den Nat.two_pos _

/-- A quotient has all bits of a significand in the units it is rounded in, if these are not the least
ones. -/
theorem bits_inRoundingUnits (hnum : 0 < num) (hden : 0 < den) :
    roundingUnit num den = minExponent ∨ 2 ^ 52 ≤ ratio (inRoundingUnits num den) := by
  rcases le_total (floorLog2 num den - 52) minExponent with hle | hle
  · exact .inl (max_eq_right hle)
  · right
    have hunit : roundingUnit num den = floorLog2 num den - 52 := max_eq_left hle
    rw [ratio_inRoundingUnits, le_div_iff₀ (by positivity), hunit]
    calc (2 : ℚ) ^ 52 * 2 ^ (floorLog2 num den - 52) = 2 ^ floorLog2 num den := by
          rw [← zpow_natCast, ← zpow_add₀ two_ne_zero]
          congr 1
          omega
      _ ≤ num / den := (floorLog2_spec hnum hden).1

/-- A quotient is less than a significand with one bit more in the units that it is rounded in. -/
theorem inRoundingUnits_lt (hnum : 0 < num) (hden : 0 < den) :
    ratio (inRoundingUnits num den) < 2 ^ precision := by
  have hunit : floorLog2 num den + 1 ≤ precision + roundingUnit num den := by
    have := le_max_left (floorLog2 num den - 52) minExponent
    simp only [roundingUnit, precision]
    omega
  rw [ratio_inRoundingUnits, div_lt_iff₀ (by positivity)]
  calc (num : ℚ) / den < 2 ^ (floorLog2 num den + 1) := (floorLog2_spec hnum hden).2
    _ ≤ 2 ^ ((precision : ℤ) + roundingUnit num den) := zpow_le_zpow_right₀ one_le_two hunit
    _ = 2 ^ precision * 2 ^ roundingUnit num den := by
      rw [zpow_add₀ two_ne_zero, zpow_natCast]

theorem roundQuotient_inRoundingUnits_le (hnum : 0 < num) (hden : 0 < den) :
    roundQuotient (inRoundingUnits num den).1 (inRoundingUnits num den).2 ≤ 2 ^ precision := by
  have hless := inRoundingUnits_lt hnum hden
  obtain ⟨hhalf, -⟩ := roundQuotient_spec (q := inRoundingUnits num den)
    (scaledQuotient_snd_pos num hden Nat.two_pos _)
  have hnear := (abs_le.1 hhalf).2
  have hcast : (roundQuotient (inRoundingUnits num den).1 (inRoundingUnits num den).2 : ℚ) <
      2 ^ precision + 1 := by linarith
  exact Nat.lt_succ_iff.1 (by exact_mod_cast hcast)

/-- A positive quotient is rounded to the number nearest to it, unless that is too large. -/
theorem isNearest_round (hnum : 0 < num) (hden : 0 < den)
    (h : round false num den = finite false significand exponent) :
    (finite false significand exponent).IsNearest (num / den) := by
  obtain ⟨hhalf, heven⟩ := roundQuotient_spec (q := inRoundingUnits num den)
    (scaledQuotient_snd_pos num hden Nat.two_pos _)
  have hback : ratio (inRoundingUnits num den) * 2 ^ roundingUnit num den = num / den := by
    rw [ratio_inRoundingUnits, div_mul_cancel₀ _ (by positivity)]
  have hunit : minExponent ≤ roundingUnit num den := le_max_right _ _
  have hbits := roundQuotient_inRoundingUnits_le hnum hden
  have hnearest {y : ℚ} (hy : OnGrid y) :=
    nearest_inUnits hhalf heven (bits_inRoundingUnits hnum hden) hy
  rw [hback] at hnearest
  rcases eq_of_round hnum h with ⟨hgreatest, ⟨rfl, hcarry, rfl⟩ | ⟨hcarry, rfl, rfl⟩⟩
  · refine ⟨⟨lt_of_le_of_ne hbits hcarry, hunit, hgreatest⟩, fun y hy => ?_⟩
    rw [value_finite_false]
    exact hnearest hy
  · -- the significand is a power of two again, in units twice as large
    have hsame : ((2 ^ 52 : ℕ) : ℚ) * 2 ^ (roundingUnit num den + 1) =
        ((2 ^ precision : ℕ) : ℚ) * 2 ^ roundingUnit num den := by
      rw [zpow_add_one₀ two_ne_zero, precision]
      push_cast
      ring
    refine ⟨⟨by norm_num [precision], by omega, hgreatest⟩, fun y hy => ?_⟩
    have hunits := hnearest hy
    rw [hcarry] at hunits
    rw [value_finite_false, hsame]
    exact ⟨hunits.1, fun heq => (hunits.2 heq).imp_right fun _ => ⟨2 ^ 51, by norm_num⟩⟩

end Round

end Double

end Routewright
