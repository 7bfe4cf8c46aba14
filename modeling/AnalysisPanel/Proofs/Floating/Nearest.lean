import AnalysisPanel.Floating.Basic
import Mathlib.Algebra.Order.Field.Power
import Mathlib.Data.Rat.Cast.Order
import Mathlib.Tactic.FieldSimp
import Mathlib.Tactic.Linarith
import Mathlib.Tactic.Positivity
import Mathlib.Tactic.Ring

/-! Rounding to the nearest number of a format, as rational arithmetic. The rationals that round to
a number lie between the middles to its two neighbours, and from there rounding leads back to it. -/

namespace AnalysisPanel.Floating

/-! ## Numbers of a format -/

/-- A significand and an exponent of a format, the one that it uses among those of equal value: the
significand is as long as it can be, unless the exponent is the least. -/
structure Format.Normal (f : Format) (m : ℕ) (e : ℤ) : Prop where
  low : f.minExponent ≤ e
  high : e ≤ f.maxExponent
  short : m < 2 ^ f.precision
  full : e = f.minExponent ∨ 2 ^ (f.precision - 1) ≤ m

/-- How far below a significand the ratios reach that round to it, in units of its last place. The
numbers below a power of two lie half as far apart. -/
def Format.reach (f : Format) (m : ℕ) (e : ℤ) : ℚ :=
  if m = 2 ^ (f.precision - 1) ∧ f.minExponent < e then 1 / 4 else 1 / 2

/-- A ratio rounds to `m · 2 ^ e`. The ends of the interval do so when `m` is even. -/
structure Format.Rounds (f : Format) (m : ℕ) (e : ℤ) (q : ℚ) : Prop where
  low : (m - f.reach m e) * 2 ^ e ≤ q
  high : q ≤ (m + 1 / 2) * 2 ^ e
  inside : m % 2 = 1 → (m - f.reach m e) * 2 ^ e < q ∧ q < (m + 1 / 2) * 2 ^ e

variable {f : Format} {m : ℕ} {e e' : ℤ} {q : ℚ} {num den : ℕ}

theorem Format.reach_le_half (f : Format) (m : ℕ) (e : ℤ) : f.reach m e ≤ 1 / 2 := by
  unfold Format.reach
  split <;> norm_num

theorem Format.quarter_le_reach (f : Format) (m : ℕ) (e : ℤ) : 1 / 4 ≤ f.reach m e := by
  unfold Format.reach
  split <;> norm_num

theorem Format.Rounds.pos (r : f.Rounds m e q) (positive : 0 < m) : 0 < q := by
  have one : (1 : ℚ) ≤ m := by exact_mod_cast positive
  have near := f.reach_le_half m e
  have scale : (0 : ℚ) < 2 ^ e := by positivity
  have below : 0 < (m - f.reach m e) * 2 ^ e := mul_pos (by linarith) scale
  linarith [r.low]

theorem Format.Normal.exponent_of_zero (n : f.Normal m e) (zero : m = 0) : e = f.minExponent := by
  refine n.full.resolve_right fun full => ?_
  have := Nat.pow_pos (n := f.precision - 1) (show 0 < 2 by decide)
  omega

/-! ## The integer nearest to a ratio -/

/-- An integer within a half of a ratio is the nearest; at a half only an even one is. -/
theorem roundDiv_eq {n : ℕ} (positive : 0 < den) (low : 2 * n * den ≤ 2 * num + den)
    (high : 2 * num ≤ 2 * n * den + den)
    (inside : n % 2 = 1 → 2 * n * den < 2 * num + den ∧ 2 * num < 2 * n * den + den) :
    roundDiv num den = n := by
  have whole : den * (num / den) + num % den = num := Nat.div_add_mod num den
  have rest : num % den < den := Nat.mod_lt num positive
  unfold roundDiv
  dsimp only
  generalize num / den = d at whole
  generalize num % den = r at whole rest
  have least : d ≤ n := by
    by_contra more
    have : den * (n + 1) ≤ den * d := Nat.mul_le_mul_left den (by omega)
    nlinarith
  have most : n ≤ d + 1 := by
    by_contra less
    have : den * (d + 2) ≤ den * n := Nat.mul_le_mul_left den (by omega)
    nlinarith
  rcases Nat.eq_or_lt_of_le least with rfl | more
  · have same : 2 * d * den = 2 * (den * d) := by ring
    simp only [same] at low high inside
    split
    · rfl
    · split
      · omega
      · have even : d % 2 = 0 := by
          by_contra odd
          have := inside (by omega)
          omega
        omega
  · have next : n = d + 1 := by omega
    subst next
    have same : 2 * (d + 1) * den = 2 * (den * d) + 2 * den := by ring
    simp only [same] at low high inside
    split
    · omega
    · split
      · rfl
      · have even : (d + 1) % 2 = 0 := by
          by_contra odd
          have := inside (by omega)
          omega
        omega

/-- The same with the ratio as a rational. -/
theorem roundDiv_eq_of_ratio {n : ℕ} (positive : 0 < den) (low : (n : ℚ) - 1 / 2 ≤ num / den)
    (high : (num : ℚ) / den ≤ n + 1 / 2)
    (inside : n % 2 = 1 → (n : ℚ) - 1 / 2 < num / den ∧ (num : ℚ) / den < n + 1 / 2) :
    roundDiv num den = n := by
  have scale : (0 : ℚ) < den := by exact_mod_cast positive
  refine roundDiv_eq positive ?_ ?_ ?_
  · have := (le_div_iff₀ scale).mp low
    exact_mod_cast (by linarith : (2 * n * den : ℚ) ≤ 2 * num + den)
  · have := (div_le_iff₀ scale).mp high
    exact_mod_cast (by linarith : (2 * num : ℚ) ≤ 2 * n * den + den)
  · intro odd
    obtain ⟨low, high⟩ := inside odd
    have low := (lt_div_iff₀ scale).mp low
    have high := (div_lt_iff₀ scale).mp high
    exact ⟨by exact_mod_cast (by linarith : (2 * n * den : ℚ) < 2 * num + den),
      by exact_mod_cast (by linarith : (2 * num : ℚ) < 2 * n * den + den)⟩

/-! ## The exponent of a ratio -/

/-- The exponent under which a ratio has a significand of a format. -/
structure Format.Scales (f : Format) (e : ℤ) (q : ℚ) : Prop where
  low : f.minExponent ≤ e
  short : q < 2 ^ (f.precision + e)
  full : e = f.minExponent ∨ 2 ^ (f.precision - 1 + e) ≤ q

theorem Format.Scales.le (s : f.Scales e q) (s' : f.Scales e' q) : e' ≤ e := by
  rcases s'.full with least | full
  · rw [least]
    exact s.low
  · have := (zpow_lt_zpow_iff_right₀ (one_lt_two (α := ℚ))).mp (full.trans_lt s.short)
    omega

theorem Format.Scales.unique (s : f.Scales e q) (s' : f.Scales e' q) : e' = e :=
  le_antisymm (s.le s') (s'.le s)

/-- A ratio divided by a power of two, as a ratio again. -/
theorem unscale_ratio (num : ℕ) (positive : 0 < den) (e : ℤ) :
    0 < (unscale num den e).2 ∧
      ((unscale num den e).1 : ℚ) / (unscale num den e).2 = num / den / 2 ^ e := by
  have scale : (den : ℚ) ≠ 0 := by exact_mod_cast positive.ne'
  unfold unscale
  split
  · rename_i up
    obtain ⟨k, rfl⟩ := Int.eq_ofNat_of_zero_le up
    refine ⟨Nat.mul_pos positive (Nat.pow_pos (by decide)), ?_⟩
    simp [div_div]
  · rename_i down
    obtain ⟨k, same⟩ := Int.eq_ofNat_of_zero_le (show 0 ≤ -e by omega)
    obtain rfl : e = -(k : ℤ) := by omega
    refine ⟨positive, ?_⟩
    simp only [neg_neg, Int.toNat_natCast, Nat.pow_eq, Nat.cast_mul, Nat.cast_pow, Nat.cast_ofNat,
      zpow_neg, zpow_natCast]
    field_simp

theorem floor_lt_iff {n : ℕ} (positive : 0 < den) :
    num / den < n ↔ (num : ℚ) / den < n := by
  have scale : (0 : ℚ) < den := by exact_mod_cast positive
  rw [Nat.div_lt_iff_lt_mul positive, div_lt_iff₀ scale]
  exact_mod_cast Iff.rfl

/-- A ratio lies between powers of two as the lengths of its two parts say. -/
theorem ratio_bounds (hn : 0 < num) (hd : 0 < den) :
    (2 : ℚ) ^ ((num.log2 : ℤ) - den.log2 - 1) < num / den ∧
      (num : ℚ) / den < 2 ^ ((num.log2 : ℤ) - den.log2 + 1) := by
  have scale : (0 : ℚ) < den := by exact_mod_cast hd
  have num_low : (2 : ℚ) ^ (num.log2 : ℤ) ≤ num := by
    exact_mod_cast Nat.log2_self_le hn.ne'
  have num_high : (num : ℚ) < 2 ^ ((num.log2 : ℤ) + 1) := by
    exact_mod_cast Nat.lt_log2_self (n := num)
  have den_low : (2 : ℚ) ^ (den.log2 : ℤ) ≤ den := by
    exact_mod_cast Nat.log2_self_le hd.ne'
  have den_high : (den : ℚ) < 2 ^ ((den.log2 : ℤ) + 1) := by
    exact_mod_cast Nat.lt_log2_self (n := den)
  constructor
  · rw [lt_div_iff₀ scale]
    calc (2 : ℚ) ^ ((num.log2 : ℤ) - den.log2 - 1) * den
        < 2 ^ ((num.log2 : ℤ) - den.log2 - 1) * 2 ^ ((den.log2 : ℤ) + 1) :=
          mul_lt_mul_of_pos_left den_high (by positivity)
      _ = 2 ^ (num.log2 : ℤ) := by rw [← zpow_add₀ two_ne_zero]; congr 1; ring
      _ ≤ num := num_low
  · rw [div_lt_iff₀ scale]
    calc (num : ℚ) < 2 ^ ((num.log2 : ℤ) + 1) := num_high
      _ = 2 ^ ((num.log2 : ℤ) - den.log2 + 1) * 2 ^ (den.log2 : ℤ) := by
          rw [← zpow_add₀ two_ne_zero]; congr 1; ring
      _ ≤ 2 ^ ((num.log2 : ℤ) - den.log2 + 1) * den :=
          mul_le_mul_of_nonneg_left den_low (by positivity)

theorem Format.exponentOf_scales (f : Format) (hn : 0 < num) (hd : 0 < den) :
    f.Scales (f.exponentOf num den) (num / den) := by
  obtain ⟨below, above⟩ := ratio_bounds hn hd
  unfold Format.exponentOf
  generalize guess : max f.minExponent ((num.log2 : ℤ) - den.log2 - f.precision) = estimate
  obtain ⟨positive, scaled⟩ := unscale_ratio num hd estimate
  have fits : (unscale num den estimate).1 / (unscale num den estimate).2 < Nat.pow 2 f.precision ↔
      (num : ℚ) / den < 2 ^ (f.precision + estimate) := by
    rw [Nat.pow_eq, floor_lt_iff positive, scaled, div_lt_iff₀ (by positivity), zpow_add₀ two_ne_zero]
    norm_cast
  have low : f.minExponent ≤ estimate := guess ▸ le_max_left _ _
  dsimp only
  split
  · rename_i short
    refine ⟨low, fits.mp short, ?_⟩
    rcases max_choice f.minExponent ((num.log2 : ℤ) - den.log2 - f.precision) with least | length
    · exact .inl (guess ▸ least)
    · refine .inr (le_trans ?_ below.le)
      rw [show (f.precision : ℤ) - 1 + estimate = (num.log2 : ℤ) - den.log2 - 1 by omega]
  · rename_i long
    have full := not_lt.mp (mt fits.mpr long)
    refine ⟨by omega, lt_of_lt_of_le above ?_, .inr ?_⟩
    · exact zpow_le_zpow_right₀ one_le_two (by omega)
    · rw [show (f.precision : ℤ) - 1 + (estimate + 1) = f.precision + estimate by ring]
      exact full

/-! ## The number nearest to a ratio -/

theorem Format.Normal.short_cast (n : f.Normal m e) : (m : ℚ) + 1 ≤ 2 ^ f.precision := by
  exact_mod_cast n.short

theorem Format.Rounds.lt_pow (r : f.Rounds m e q) (normal : f.Normal m e) :
    q < 2 ^ (f.precision + e) := by
  have short := normal.short_cast
  have scale : (0 : ℚ) < 2 ^ e := by positivity
  rw [zpow_add₀ two_ne_zero, zpow_natCast]
  calc q ≤ (m + 1 / 2) * 2 ^ e := r.high
    _ < 2 ^ f.precision * 2 ^ e := mul_lt_mul_of_pos_right (by linarith) scale

/-- In units of its last place, a ratio is within a half of the significand that it rounds to. -/
theorem Format.Rounds.roundDiv_unscale (r : f.Rounds m e (num / den)) (hd : 0 < den) :
    roundDiv (unscale num den e).1 (unscale num den e).2 = m := by
  obtain ⟨divisor, scaled⟩ := unscale_ratio num hd e
  have scale : (0 : ℚ) < 2 ^ e := by positivity
  have near := f.reach_le_half m e
  refine roundDiv_eq_of_ratio divisor ?_ ?_ ?_
  · rw [scaled, le_div_iff₀ scale]
    exact (mul_le_mul_of_nonneg_right (by linarith) scale.le).trans r.low
  · rw [scaled, div_le_iff₀ scale]
    exact r.high
  · intro odd
    rw [scaled, lt_div_iff₀ scale, div_lt_iff₀ scale]
    obtain ⟨low, high⟩ := r.inside odd
    exact ⟨(mul_le_mul_of_nonneg_right (by linarith) scale.le).trans_lt low, high⟩

/-- A ratio with a significand of full length has the exponent of the number that it rounds to. -/
theorem Format.nearest_eq_of_full (normal : f.Normal m e) (hn : 0 < num) (hd : 0 < den)
    (r : f.Rounds m e (num / den))
    (full : e = f.minExponent ∨ (2 : ℚ) ^ ((f.precision : ℤ) - 1 + e) ≤ num / den) :
    f.nearest num den = some (m, e) := by
  have exponent : f.exponentOf num den = e :=
    Scales.unique ⟨normal.low, r.lt_pow normal, full⟩ (f.exponentOf_scales hn hd)
  have short : m ≠ Nat.pow 2 f.precision := normal.short.ne
  unfold Format.nearest
  rw [if_neg hn.ne', exponent]
  simp only [r.roundDiv_unscale hd, if_neg short, if_neg normal.high.not_gt]

/-- A ratio that is less than the least significand of full length rounds to no other. -/
theorem Format.Rounds.eq_pow_of_lt (r : f.Rounds m e q) (length : 2 ^ (f.precision - 1) ≤ m)
    (less : q < 2 ^ (f.precision - 1) * 2 ^ e) : m = 2 ^ (f.precision - 1) := by
  by_contra other
  have more : (2 : ℚ) ^ (f.precision - 1) + 1 ≤ m := by
    exact_mod_cast lt_of_le_of_ne length (Ne.symm other)
  have near := f.reach_le_half m e
  have := lt_of_mul_lt_mul_right (r.low.trans_lt less) (by positivity)
  linarith

/-- A ratio that is less than a power of two and rounds to it has the exponent of the numbers below,
and is rounded up to the end of their significands. -/
theorem Format.nearest_eq_of_pow (precise : 1 < f.precision) (hn : 0 < num) (hd : 0 < den)
    (least : f.minExponent < e) (most : e ≤ f.maxExponent)
    (low : ((2 : ℚ) ^ (f.precision - 1) - 1 / 4) * 2 ^ e ≤ num / den)
    (less : (num : ℚ) / den < 2 ^ (f.precision - 1) * 2 ^ e) :
    f.nearest num den = some (2 ^ (f.precision - 1), e) := by
  have double : (2 : ℚ) ^ f.precision = 2 * 2 ^ (f.precision - 1) := by
    rw [← pow_succ', Nat.sub_add_cancel precise.le]
  have lower : (2 : ℚ) ^ e = 2 * 2 ^ (e - 1) := by
    rw [zpow_sub_one₀ two_ne_zero]
    ring
  have one : (1 : ℚ) ≤ 2 ^ (f.precision - 1) := one_le_pow₀ one_le_two
  have step : (0 : ℚ) < 2 ^ (e - 1) := by positivity
  generalize (2 : ℚ) ^ (f.precision - 1) = m at double one low less
  have exponent : f.exponentOf num den = e - 1 := by
    refine Scales.unique ⟨by omega, ?_, .inr ?_⟩ (f.exponentOf_scales hn hd)
    · rw [zpow_add₀ two_ne_zero, zpow_natCast, double]
      nlinarith
    · rw [show (f.precision : ℤ) - 1 + (e - 1) = f.precision + (e - 1) - 1 by ring,
        zpow_sub_one₀ two_ne_zero, zpow_add₀ two_ne_zero, zpow_natCast, double]
      nlinarith
  obtain ⟨divisor, scaled⟩ := unscale_ratio num hd (e - 1)
  have significand : roundDiv (unscale num den (e - 1)).1 (unscale num den (e - 1)).2 =
      Nat.pow 2 f.precision := by
    refine roundDiv_eq_of_ratio divisor ?_ ?_ ?_
    · rw [scaled, le_div_iff₀ step, Nat.pow_eq, Nat.cast_pow, Nat.cast_ofNat, double]
      nlinarith
    · rw [scaled, div_le_iff₀ step, Nat.pow_eq, Nat.cast_pow, Nat.cast_ofNat, double]
      nlinarith
    · intro odd
      have even : Nat.pow 2 f.precision % 2 = 0 :=
        Nat.mod_eq_zero_of_dvd (dvd_pow_self 2 (by omega))
      omega
  unfold Format.nearest
  rw [if_neg hn.ne', exponent]
  simp only [significand, if_true, sub_add_cancel, if_neg most.not_gt]
  rfl

/-- The nearest number to a ratio is the one that the ratio rounds to. -/
theorem Format.nearest_eq (precise : 1 < f.precision) (normal : f.Normal m e) (positive : 0 < m)
    (hd : 0 < den) (r : f.Rounds m e (num / den)) : f.nearest num den = some (m, e) := by
  have hn : 0 < num := by
    have quotient := r.pos positive
    by_contra zero
    obtain rfl : num = 0 := by omega
    simp at quotient
  by_cases full : e = f.minExponent ∨ (2 : ℚ) ^ ((f.precision : ℤ) - 1 + e) ≤ num / den
  · exact nearest_eq_of_full normal hn hd r full
  · obtain ⟨above, less⟩ := not_or.mp full
    have half : (2 : ℚ) ^ ((f.precision : ℤ) - 1 + e) = 2 ^ (f.precision - 1) * 2 ^ e := by
      rw [zpow_add₀ two_ne_zero, ← zpow_natCast, Nat.cast_sub precise.le, Nat.cast_one]
    rw [not_le, half] at less
    have least : f.minExponent < e := lt_of_le_of_ne normal.low (Ne.symm above)
    have power := r.eq_pow_of_lt (normal.full.resolve_left above) less
    have quarter : f.reach m e = 1 / 4 := if_pos ⟨power, least⟩
    have low := r.low
    rw [quarter, power, Nat.cast_pow, Nat.cast_ofNat] at low
    rw [power]
    exact nearest_eq_of_pow precise hn hd least normal.high low less

theorem roundDiv_bounds (num den : ℕ) :
    num / den ≤ roundDiv num den ∧ roundDiv num den ≤ num / den + 1 := by
  unfold roundDiv
  dsimp only
  split
  · omega
  · split <;> omega

/-- What a ratio is rounded to is a number of the format. -/
theorem Format.normal_of_nearest (precise : 1 < f.precision) (least : f.minExponent ≤ f.maxExponent)
    (hd : 0 < den) (nearest : f.nearest num den = some (m, e)) : f.Normal m e := by
  unfold Format.nearest at nearest
  split at nearest
  · cases nearest
    exact ⟨le_rfl, least, Nat.pow_pos (by decide), .inl rfl⟩
  · rename_i nonzero
    have scales := f.exponentOf_scales (Nat.pos_of_ne_zero nonzero) hd
    generalize f.exponentOf num den = e' at nearest scales
    obtain ⟨divisor, scaled⟩ := unscale_ratio num hd e'
    obtain ⟨low, high⟩ := roundDiv_bounds (unscale num den e').1 (unscale num den e').2
    have scale : (0 : ℚ) < 2 ^ e' := by positivity
    have short : (unscale num den e').1 / (unscale num den e').2 < 2 ^ f.precision := by
      rw [floor_lt_iff divisor, scaled, div_lt_iff₀ scale, Nat.cast_pow, Nat.cast_ofNat,
        ← zpow_natCast, ← zpow_add₀ two_ne_zero]
      exact scales.short
    have full : e' = f.minExponent ∨
        2 ^ (f.precision - 1) ≤ (unscale num den e').1 / (unscale num den e').2 := by
      refine scales.full.imp_right fun full => ?_
      rw [← not_lt, floor_lt_iff divisor, scaled, div_lt_iff₀ scale, not_lt, Nat.cast_pow,
        Nat.cast_ofNat, ← zpow_natCast, ← zpow_add₀ two_ne_zero, Nat.cast_sub precise.le,
        Nat.cast_one]
      exact full
    dsimp only at nearest
    split at nearest
    · split at nearest
      · cases nearest
      · rename_i carried high
        cases nearest
        exact ⟨scales.low.trans (by omega), not_lt.mp high,
          Nat.pow_lt_pow_right (by decide) (by omega), .inr le_rfl⟩
    · split at nearest
      · cases nearest
      · rename_i kept high'
        cases nearest
        refine ⟨scales.low, not_lt.mp high', ?_, full.imp_right fun full => full.trans low⟩
        exact lt_of_le_of_ne (by omega) kept

theorem Format.normal_of_ofRatio (precise : 1 < f.precision)
    (least : f.minExponent ≤ f.maxExponent) (hd : 0 < den) {negative : Bool} {x : Finite}
    (nearest : f.ofRatio negative num den = .finite x) :
    f.Normal x.significand x.exponent := by
  unfold Format.ofRatio at nearest
  split at nearest
  · rename_i found
    cases nearest
    exact Format.normal_of_nearest precise least hd found
  · cases nearest

end AnalysisPanel.Floating
