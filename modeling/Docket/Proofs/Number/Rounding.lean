import Docket.Number.Double
import Mathlib.Algebra.Order.Field.Power
import Mathlib.Data.Int.Log
import Mathlib.Data.Rat.Floor
import Mathlib.Tactic.Lemma
import Mathlib.Tactic.NormNum
import Mathlib.Tactic.Positivity

/-!
# Rounding to doubles

What `Double.ofRatio` computes, as far as texts of doubles need it: it depends on the quotient
alone, a quotient that is a double comes back as that double, and a quotient that is not too large
for the doubles is rounded to a finite one.

The grid that a quotient is rounded on is `gridExponent_eq`: its step is 52 powers of two below the
leading power of the quotient, or the smallest step that a double has.  All facts about `ofRatio`
follow from it, since the integer logarithm sees only the value of the quotient.
-/

namespace Docket.Double

/-! ## The grid -/

/-- Rounding down stays below a bound exactly if the scaled quotient does. -/
lemma floorScaled_lt {num den : Nat} (hden : 0 < den) (e : Int) (n : Nat) :
    floorScaled num den e < n ↔ (num / den : ℚ) < n * 2 ^ e := by
  have hd : (0 : ℚ) < den := by exact_mod_cast hden
  cases e with
  | ofNat e =>
      have hstep : 0 < den * Nat.pow 2 e := Nat.mul_pos hden (Nat.two_pow_pos e)
      rw [floorScaled, Nat.div_lt_iff_lt_mul hstep, div_lt_iff₀ hd, Int.ofNat_eq_natCast,
        zpow_natCast, ← Nat.cast_lt (α := ℚ)]
      simp only [Nat.pow_eq, Nat.cast_mul, Nat.cast_pow, Nat.cast_ofNat, mul_assoc,
        mul_comm (den : ℚ)]
  | negSucc e =>
      have hpow : (0 : ℚ) < 2 ^ (e + 1) := by positivity
      rw [floorScaled, Nat.div_lt_iff_lt_mul hden, zpow_negSucc, ← div_eq_mul_inv,
        div_lt_div_iff₀ hd hpow, ← Nat.cast_lt (α := ℚ)]
      simp only [Nat.pow_eq, Nat.cast_mul, Nat.cast_pow, Nat.cast_ofNat]

/-- The leading power of a quotient is told by the leading powers of its two numbers, up to one. -/
lemma log_quotient {num den : Nat} (hnum : 0 < num) (hden : 0 < den) :
    (num.log2 : Int) - den.log2 - 1 ≤ Int.log 2 (num / den : ℚ) ∧
      Int.log 2 (num / den : ℚ) < (num.log2 : Int) - den.log2 + 1 := by
  have hn : (0 : ℚ) < num := by exact_mod_cast hnum
  have hd : (0 : ℚ) < den := by exact_mod_cast hden
  have hn₁ : (2 : ℚ) ^ num.log2 ≤ num := by exact_mod_cast Nat.log2_self_le hnum.ne'
  have hn₂ : (num : ℚ) < 2 ^ (num.log2 + 1) := by exact_mod_cast Nat.lt_log2_self
  have hd₁ : (2 : ℚ) ^ den.log2 ≤ den := by exact_mod_cast Nat.log2_self_le hden.ne'
  have hd₂ : (den : ℚ) < 2 ^ (den.log2 + 1) := by exact_mod_cast Nat.lt_log2_self
  have htwo : (2 : ℚ) ≠ 0 := two_ne_zero
  constructor
  · rw [← Int.zpow_le_iff_le_log Nat.one_lt_two (div_pos hn hd), Nat.cast_ofNat,
      le_div_iff₀ hd, sub_sub, zpow_sub₀ htwo, div_mul_eq_mul_div, zpow_natCast]
    refine (div_le_iff₀ (by positivity)).mpr ?_
    exact mul_le_mul hn₁ (by exact_mod_cast hd₂.le) hd.le hn.le
  · rw [← Int.lt_zpow_iff_log_lt Nat.one_lt_two (div_pos hn hd), Nat.cast_ofNat,
      div_lt_iff₀ hd, sub_add_eq_add_sub, zpow_sub₀ htwo, div_mul_eq_mul_div, zpow_natCast]
    refine (lt_div_iff₀ (by positivity)).mpr ?_
    exact mul_lt_mul (by exact_mod_cast hn₂) hd₁ (by positivity) (by positivity)

/-- **The grid of a quotient.**  Its step is 52 powers of two below the leading power of the
quotient, but never below the smallest step of doubles. -/
lemma gridExponent_eq {num den : Nat} (hnum : 0 < num) (hden : 0 < den) :
    gridExponent num den = max (Int.log 2 (num / den : ℚ) - 52) (-1074) := by
  have hpos : (0 : ℚ) < num / den := div_pos (Nat.cast_pos.mpr hnum) (Nat.cast_pos.mpr hden)
  obtain ⟨hlow, hhigh⟩ := log_quotient hnum hden
  -- The first guess is right exactly if the quotient lies below the guessed leading power.
  have hguess : floorScaled num den ((num.log2 : Int) - den.log2 - 53) < Nat.pow 2 53 ↔
      Int.log 2 (num / den : ℚ) < (num.log2 : Int) - den.log2 := by
    rw [floorScaled_lt hden, ← Int.lt_zpow_iff_log_lt Nat.one_lt_two hpos, Nat.pow_eq,
      Nat.cast_pow, Nat.cast_ofNat, ← zpow_natCast (2 : ℚ) 53, ← zpow_add₀ two_ne_zero]
    norm_num
  simp only [gridExponent, hguess]
  split <;> congr 1 <;> omega

/-! ## Only the quotient counts -/

lemma roundQuotient_scale (num den : Nat) {k : Nat} (hk : 0 < k) :
    roundQuotient (num * k) (den * k) = roundQuotient num den := by
  have hless (a b : Nat) : a * k < b * k ↔ a < b := Nat.mul_lt_mul_right hk
  simp only [roundQuotient, Nat.mul_div_mul_right _ _ hk, Nat.mul_mod_mul_right, ← Nat.mul_assoc,
    hless]

lemma roundScaled_scale (num den : Nat) (e : Int) {k : Nat} (hk : 0 < k) :
    roundScaled (num * k) (den * k) e = roundScaled num den e := by
  cases e with
  | ofNat e => simp only [roundScaled, Nat.mul_right_comm den k, roundQuotient_scale _ _ hk]
  | negSucc e => simp only [roundScaled, Nat.mul_right_comm num k, roundQuotient_scale _ _ hk]

lemma ofRatio_scale (negative : Bool) (num : Nat) {den k : Nat} (hden : 0 < den) (hk : 0 < k) :
    ofRatio negative (num * k) (den * k) = ofRatio negative num den := by
  rcases Nat.eq_zero_or_pos num with rfl | hnum
  · simp [ofRatio]
  · have hgrid : gridExponent (num * k) (den * k) = gridExponent num den := by
      have hk' : (k : ℚ) ≠ 0 := by exact_mod_cast hk.ne'
      rw [gridExponent_eq (Nat.mul_pos hnum hk) (Nat.mul_pos hden hk), gridExponent_eq hnum hden,
        Nat.cast_mul, Nat.cast_mul, mul_div_mul_right _ _ hk']
    have hne : num * k ≠ 0 := (Nat.mul_pos hnum hk).ne'
    simp only [ofRatio, if_neg hne, if_neg hnum.ne', hgrid, roundScaled_scale _ _ _ hk]

/-- **Rounding sees only the quotient**, not the two numbers that it is given as. -/
theorem ofRatio_congr (negative : Bool) {num den num' den' : Nat} (hden : 0 < den)
    (hden' : 0 < den') (h : num * den' = num' * den) :
    ofRatio negative num den = ofRatio negative num' den' := by
  rw [← ofRatio_scale negative num hden hden', h, Nat.mul_comm den, ofRatio_scale _ _ hden' hden]

/-! ## Doubles are their own rounding -/

/-- The sign, the exponent bits and the fraction make up the bits. -/
lemma bits_eq (d : Double) :
    ofMagnitude d.negative (d.biased * Nat.pow 2 52 + d.fraction) = d := by
  obtain ⟨bits⟩ := d
  have hlt : bits.toNat < 18446744073709551616 := bits.toNat_lt
  have hbits : bits.toNat =
      (Double.mk bits).biased * Nat.pow 2 52 + (Double.mk bits).fraction +
        if (Double.mk bits).negative then Nat.pow 2 63 else 0 := by
    simp only [negative, biased, fraction, Nat.pow_eq, Nat.reducePow, beq_iff_eq]
    split <;> omega
  rw [ofMagnitude, ← hbits, UInt64.ofNat_toNat]

lemma ratio_den_pos (d : Double) : 0 < d.ratio.2 := by
  rw [ratio]
  split
  · exact Nat.one_pos
  · exact Nat.two_pow_pos _

lemma ratio_eq (d : Double) :
    (d.ratio.1 / d.ratio.2 : ℚ) = d.significand * 2 ^ d.exponent := by
  rw [ratio]
  split <;> rename_i heq <;> rw [heq]
  · simp [zpow_natCast]
  · simp [zpow_negSucc, div_eq_mul_inv]

/-- The grid of a double that is not zero is the one that its bits tell. -/
lemma gridExponent_ratio {d : Double} (h : 0 < d.significand) :
    gridExponent d.ratio.1 d.ratio.2 = d.exponent := by
  have hsig : (0 : ℚ) < d.significand := by exact_mod_cast h
  have hpos : (0 : ℚ) < d.significand * 2 ^ d.exponent := mul_pos hsig (zpow_pos two_pos _)
  have hnum : 0 < d.ratio.1 := by
    refine Nat.pos_of_ne_zero fun hzero => hpos.ne ?_
    rw [← ratio_eq, hzero, Nat.cast_zero, zero_div]
  have hfraction : d.fraction < 4503599627370496 := Nat.mod_lt _ (by decide)
  rw [gridExponent_eq hnum d.ratio_den_pos, ratio_eq]
  have hbelow (n : Nat) (hn : d.significand < Nat.pow 2 n) :
      Int.log 2 ((d.significand : ℚ) * 2 ^ d.exponent) < n + d.exponent := by
    rw [← Int.lt_zpow_iff_log_lt Nat.one_lt_two hpos, Nat.cast_ofNat, zpow_add₀ two_ne_zero,
      zpow_natCast]
    exact mul_lt_mul_of_pos_right (by exact_mod_cast hn) (by positivity)
  by_cases hsub : d.biased = 0
  · have hlow := hbelow 52 (by simpa [significand, hsub] using hfraction)
    have hexp : d.exponent = -1074 := by simp [exponent, hsub]
    omega
  · have hlow := hbelow 53 (by simp [significand, hsub]; omega)
    have hhigh : 52 + d.exponent ≤ Int.log 2 ((d.significand : ℚ) * 2 ^ d.exponent) := by
      rw [← Int.zpow_le_iff_le_log Nat.one_lt_two hpos, Nat.cast_ofNat, zpow_add₀ two_ne_zero]
      refine mul_le_mul_of_nonneg_right ?_ (by positivity)
      have : (2 ^ 52 : Nat) ≤ d.significand := by simp [significand, hsub]
      exact_mod_cast this
    have hexp : d.exponent = (d.biased : Int) - 1075 := by simp [exponent, hsub]
    omega

/-- On its own grid a double is a whole number of steps. -/
lemma roundScaled_ratio (d : Double) :
    roundScaled d.ratio.1 d.ratio.2 d.exponent = d.significand := by
  have hwhole (n k : Nat) (hk : 0 < k) : roundQuotient (n * k) k = n := by
    simp [roundQuotient, Nat.mul_div_cancel _ hk, hk]
  rw [ratio]
  split <;> rename_i e heq <;> rw [heq, roundScaled]
  · rw [Nat.one_mul]
    exact hwhole _ _ (Nat.two_pow_pos e)
  · exact hwhole _ _ (Nat.two_pow_pos (e + 1))

/-- **A finite double is its own rounding.** -/
theorem ofRatio_ratio {d : Double} (h : d.isFinite) (hzero : ¬ d.isZero) :
    ofRatio d.negative d.ratio.1 d.ratio.2 = d := by
  have hfinite : d.biased ≠ 2047 := by simpa [isFinite] using h
  have hrange : d.biased < 2048 := Nat.mod_lt _ (by decide)
  have hfraction : d.fraction < 4503599627370496 := Nat.mod_lt _ (by decide)
  have hsig : 0 < d.significand := by
    simp only [isZero, Bool.and_eq_true, beq_iff_eq, not_and] at hzero
    rw [significand]
    split
    · rename_i hsub
      exact Nat.pos_of_ne_zero (hzero hsub)
    · exact Nat.add_pos_left (Nat.two_pow_pos 52) _
  have hnum : d.ratio.1 ≠ 0 := by
    intro hnum
    have hvalue := d.ratio_eq
    rw [hnum, Nat.cast_zero, zero_div] at hvalue
    have hsig' : (0 : ℚ) < d.significand := by exact_mod_cast hsig
    exact (mul_pos hsig' (zpow_pos two_pos d.exponent)).ne hvalue
  have hmagnitude :
      (if d.significand < Nat.pow 2 52 then d.significand
        else (d.exponent + 1075).toNat * Nat.pow 2 52 + (d.significand - Nat.pow 2 52)) =
      d.biased * Nat.pow 2 52 + d.fraction := by
    by_cases hsub : d.biased = 0
    · simp [significand, hsub, hfraction]
    · have hexp : (d.exponent + 1075).toNat = d.biased := by simp [exponent, hsub]
      simp [significand, hsub, hexp]
  simp only [ofRatio, if_neg hnum, gridExponent_ratio hsig, roundScaled_ratio, hmagnitude]
  rw [Nat.min_eq_left, bits_eq]
  simp only [infiniteMagnitude, Nat.pow_eq, Nat.reducePow]
  omega

/-! ## Quotients that round to finite doubles -/

/-- On its grid a quotient has at most 53 bits. -/
lemma floorScaled_gridExponent_lt {num den : Nat} (hnum : 0 < num) (hden : 0 < den) :
    floorScaled num den (gridExponent num den) < 2 ^ 53 := by
  have hpos : (0 : ℚ) < num / den := div_pos (Nat.cast_pos.mpr hnum) (Nat.cast_pos.mpr hden)
  have hlog : Int.log 2 (num / den : ℚ) < 53 + gridExponent num den := by
    rw [gridExponent_eq hnum hden]
    omega
  rw [floorScaled_lt hden, Nat.cast_pow, Nat.cast_ofNat, ← zpow_natCast (2 : ℚ) 53,
    ← zpow_add₀ two_ne_zero]
  exact (Int.lt_zpow_iff_log_lt Nat.one_lt_two hpos).mpr hlog

lemma roundScaled_le (num den : Nat) (e : Int) :
    roundScaled num den e ≤ floorScaled num den e + 1 := by
  have hquotient (num den : Nat) : roundQuotient num den ≤ num / den + 1 := by
    simp only [roundQuotient]
    split
    · omega
    · split <;> omega
  cases e <;> exact hquotient _ _

lemma isFinite_ofMagnitude {magnitude : Nat} (h : magnitude < infiniteMagnitude) :
    (ofMagnitude false magnitude).isFinite := by
  simp only [infiniteMagnitude, Nat.pow_eq, Nat.reducePow] at h
  have hbits : (UInt64.ofNat magnitude).toNat = magnitude := by
    rw [UInt64.toNat_ofNat']
    omega
  simp only [isFinite, biased, ofMagnitude, Bool.false_eq_true, if_false, Nat.add_zero, hbits,
    Nat.pow_eq, Nat.reducePow, bne_iff_ne]
  omega

/-- **A quotient is rounded to a finite double** if its grid is one of finite doubles. -/
lemma isFinite_ofRatio {num den : Nat} (hnum : 0 < num) (hden : 0 < den)
    (h : gridExponent num den ≤ 970) : (ofRatio false num den).isFinite := by
  have hround : roundScaled num den (gridExponent num den) ≤ 2 ^ 53 :=
    (roundScaled_le _ _ _).trans (floorScaled_gridExponent_lt hnum hden)
  have hlow : -1074 ≤ gridExponent num den := le_max_right _ _
  simp only [ofRatio, if_neg hnum.ne']
  refine isFinite_ofMagnitude (min_lt_of_left_lt ?_)
  simp only [infiniteMagnitude, Nat.pow_eq, Nat.reducePow] at hround ⊢
  split <;> omega

lemma isFinite_ofNat {n k : Nat} (h : n < 2 ^ k) (hk : k ≤ 1023) : (ofNat n).isFinite := by
  rcases Nat.eq_zero_or_pos n with rfl | hn
  · decide
  · refine isFinite_ofRatio hn Nat.one_pos ?_
    have hlog : Nat.log 2 n < k := Nat.log_lt_of_lt_pow hn.ne' h
    rw [gridExponent_eq hn Nat.one_pos, Nat.cast_one, div_one, Int.log_natCast]
    omega

/-! ## Decimals -/

/-- The quotient that a decimal is, if it is rounded at all. -/
def decimalRatio (digits : Nat) (power : Int) : Nat × Nat :=
  match power with
  | .ofNat p => (digits * Nat.pow 10 p, 1)
  | .negSucc p => (digits, Nat.pow 10 (p + 1))

lemma decimalRatio_den_pos (digits : Nat) (power : Int) : 0 < (decimalRatio digits power).2 := by
  cases power with
  | ofNat p => exact Nat.one_pos
  | negSucc p => exact Nat.pow_pos (by decide)

lemma decimalRatio_eq (digits : Nat) (power : Int) :
    ((decimalRatio digits power).1 / (decimalRatio digits power).2 : ℚ) = digits * 10 ^ power := by
  cases power with
  | ofNat p => simp [decimalRatio]
  | negSucc p => simp [decimalRatio, zpow_negSucc, div_eq_mul_inv]

lemma ofDecimal_zero (negative : Bool) (power : Int) :
    ofDecimal negative 0 power = ofMagnitude negative 0 := rfl

lemma ofDecimal_of_reach (negative : Bool) {digits : Nat} {power : Int} (hdigits : digits ≠ 0)
    (hupper : power ≤ 400) (hlower : -400 ≤ power + (digits.log2 / 3 : Nat)) :
    ofDecimal negative digits power =
      ofRatio negative (decimalRatio digits power).1 (decimalRatio digits power).2 := by
  simp only [ofDecimal, if_neg hdigits, if_neg (not_lt.mpr hupper), if_neg (not_lt.mpr hlower)]
  cases power <;> rfl

/-- A decimal without a power of ten is rounded as the whole number it is. -/
lemma ofDecimal_whole (n : Nat) : ofDecimal false n 0 = ofNat n := by
  rcases Nat.eq_zero_or_pos n with rfl | hn
  · rfl
  · rw [ofDecimal_of_reach false hn.ne' (by omega) (by omega)]
    simp [decimalRatio, ofNat]

/-- A decimal whose double is neither an infinity nor zero was within reach. -/
lemma ofDecimal_eq {negative : Bool} {digits : Nat} {power : Int}
    (hfinite : (ofDecimal negative digits power).isFinite)
    (hzero : ¬ (ofDecimal negative digits power).isZero) :
    ofDecimal negative digits power =
      ofRatio negative (decimalRatio digits power).1 (decimalRatio digits power).2 := by
  have hnothing : (ofMagnitude negative 0).isZero := by cases negative <;> decide
  have hinfinite : ¬ (infinity negative).isFinite := by cases negative <;> decide
  by_cases hdigits : digits = 0
  · rw [hdigits, ofDecimal_zero] at hzero
    exact absurd hnothing hzero
  by_cases hupper : power ≤ 400
  · by_cases hlower : -400 ≤ power + (digits.log2 / 3 : Nat)
    · exact ofDecimal_of_reach negative hdigits hupper hlower
    · simp only [ofDecimal, if_neg hdigits, if_neg (not_lt.mpr hupper),
        if_pos (not_le.mp hlower)] at hzero
      exact absurd hnothing hzero
  · simp only [ofDecimal, if_neg hdigits, if_pos (not_le.mp hupper)] at hfinite
    exact absurd hfinite hinfinite

lemma ofRatio_congr_rat (negative : Bool) {num den num' den' : Nat} (hden : 0 < den)
    (hden' : 0 < den') (h : (num / den : ℚ) = num' / den') :
    ofRatio negative num den = ofRatio negative num' den' := by
  have hd : (den : ℚ) ≠ 0 := by exact_mod_cast hden.ne'
  have hd' : (den' : ℚ) ≠ 0 := by exact_mod_cast hden'.ne'
  rw [div_eq_div_iff hd hd'] at h
  exact ofRatio_congr negative hden hden' (by exact_mod_cast h)

/-- **Rounding a decimal sees only its size**, as long as the double is neither an infinity nor
zero. -/
theorem ofDecimal_congr {negative : Bool} {digits digits' : Nat} {power power' : Int}
    (hsize : (digits * 10 ^ power : ℚ) = digits' * 10 ^ power')
    (hfinite : (ofDecimal negative digits power).isFinite)
    (hzero : ¬ (ofDecimal negative digits power).isZero)
    (hfinite' : (ofDecimal negative digits' power').isFinite)
    (hzero' : ¬ (ofDecimal negative digits' power').isZero) :
    ofDecimal negative digits power = ofDecimal negative digits' power' := by
  rw [ofDecimal_eq hfinite hzero, ofDecimal_eq hfinite' hzero']
  refine ofRatio_congr_rat negative (decimalRatio_den_pos _ _) (decimalRatio_den_pos _ _) ?_
  rw [decimalRatio_eq, decimalRatio_eq, hsize]

end Docket.Double
