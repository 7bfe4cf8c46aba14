import AnalysisPanel.Floating.Decimal
import AnalysisPanel.Proofs.Floating.Nearest
import Mathlib.Data.Nat.Cast.Order.Field

/-! Shortest decimals read back as the number they were made for. The grids that are tried end with
one so fine that the point of it next to the number rounds to the number; any point that is taken
does. -/

namespace AnalysisPanel.Floating

variable {f : Format} {m : ℕ} {e g : ℤ} {r : Rounding} {tie : Tie}

/-! ## Magnitudes -/

/-- The value of a decimal. -/
def Decimal.magnitude (d : Decimal) : ℚ := d.digits * 10 ^ d.exponent

theorem Decimal.ratio_eq (d : Decimal) :
    0 < d.ratio.2 ∧ (d.ratio.1 : ℚ) / d.ratio.2 = d.magnitude := by
  unfold Decimal.ratio Decimal.magnitude
  split
  · rename_i up
    obtain ⟨k, same⟩ := Int.eq_ofNat_of_zero_le up
    rw [same]
    simp
  · rename_i down
    obtain ⟨k, same⟩ := Int.eq_ofNat_of_zero_le (show 0 ≤ -d.exponent by omega)
    obtain same' : d.exponent = -(k : ℤ) := by omega
    rw [same']
    exact ⟨by simp, by simp [div_eq_mul_inv]⟩

theorem Decimal.magnitude_strip (fuel : ℕ) (d : Decimal) :
    (Decimal.strip fuel d).magnitude = d.magnitude := by
  induction fuel generalizing d with
  | zero => rfl
  | succ fuel ih =>
    unfold Decimal.strip
    split
    · rename_i ends
      rw [ih]
      have whole : d.digits = 10 * (d.digits / 10) := by omega
      unfold Decimal.magnitude
      rw [zpow_add_one₀ (by norm_num), ← mul_assoc, mul_right_comm]
      congr 1
      exact_mod_cast (by omega : d.digits / 10 * 10 = d.digits)
    · rfl

/-! ## Roundings -/

/-- A rounding is that of `m · 2 ^ e`, measured in units of `u`. -/
structure Rounding.Measures (r : Rounding) (f : Format) (m : ℕ) (e : ℤ) (u : ℚ) : Prop where
  den_pos : 0 < r.den
  low : (r.low : ℚ) / r.den = (m - f.reach m e) * 2 ^ e / u
  value : (r.value : ℚ) / r.den = m * 2 ^ e / u
  high : (r.high : ℚ) / r.den = (m + 1 / 2) * 2 ^ e / u
  closed : r.closed = (m % 2 == 0)

/-- Four times a power of two as `rounding` makes it. -/
theorem quarters (e : ℤ) :
    let up : ℕ := if 2 ≤ e then Nat.pow 2 (e - 2).toNat else 1
    let den : ℕ := if 2 ≤ e then 1 else Nat.pow 2 (2 - e).toNat
    0 < den ∧ (4 * up : ℚ) / den = 2 ^ e := by
  have two : (2 : ℚ) ≠ 0 := two_ne_zero
  dsimp only
  split
  · rename_i large
    obtain ⟨k, same⟩ := Int.eq_ofNat_of_zero_le (show 0 ≤ e - 2 by omega)
    obtain rfl : e = (k : ℤ) + 2 := by omega
    refine ⟨one_pos, ?_⟩
    simp [zpow_add₀ two]
    ring
  · rename_i small
    obtain ⟨k, same⟩ := Int.eq_ofNat_of_zero_le (show 0 ≤ 2 - e by omega)
    obtain rfl : e = -(k : ℤ) + 2 := by omega
    refine ⟨Nat.pow_pos (by decide), ?_⟩
    rw [show (2 - (-(k : ℤ) + 2)).toNat = k by omega, zpow_add₀ two]
    simp
    field_simp
    norm_num

theorem measures_rounding (positive : 0 < m) : (f.rounding m e).Measures f m e 1 := by
  obtain ⟨den_pos, scale⟩ := quarters e
  unfold Format.rounding
  dsimp only at scale ⊢
  generalize (if 2 ≤ e then Nat.pow 2 (e - 2).toNat else 1) = up at scale ⊢
  generalize (if 2 ≤ e then 1 else Nat.pow 2 (2 - e).toNat) = den at den_pos scale ⊢
  have apart : (den : ℚ) ≠ 0 := by exact_mod_cast den_pos.ne'
  refine ⟨den_pos, ?_, ?_, ?_, rfl⟩
  · rw [← scale, div_one]
    simp only [Format.reach, Nat.pow_eq]
    by_cases power : m = 2 ^ (f.precision - 1) ∧ f.minExponent < e
    · rw [if_pos power, if_pos power, Nat.cast_mul, Nat.cast_sub (by omega)]
      push_cast
      ring
    · rw [if_neg power, if_neg power, Nat.cast_mul, Nat.cast_sub (by omega)]
      push_cast
      ring
  · rw [← scale, div_one]
    push_cast
    ring
  · rw [← scale, div_one]
    push_cast
    ring

theorem Rounding.Measures.inUnits (s : r.Measures f m e 1) (g : ℤ) :
    (r.inUnits g).Measures f m e (10 ^ g) := by
  obtain ⟨den_pos, low, value, high, closed⟩ := s
  simp only [div_one] at low value high
  unfold Rounding.inUnits
  split
  · rename_i up
    obtain ⟨k, rfl⟩ := Int.eq_ofNat_of_zero_le up
    refine ⟨Nat.mul_pos den_pos (Nat.pow_pos (by decide)), ?_, ?_, ?_, closed⟩
    · rw [← low]
      simp [div_div]
    · rw [← value]
      simp [div_div]
    · rw [← high]
      simp [div_div]
  · rename_i down
    obtain ⟨k, same⟩ := Int.eq_ofNat_of_zero_le (show 0 ≤ -g by omega)
    obtain rfl : g = -(k : ℤ) := by omega
    refine ⟨den_pos, ?_, ?_, ?_, closed⟩
    · rw [← low]
      simp [mul_div_right_comm]
    · rw [← value]
      simp [mul_div_right_comm]
    · rw [← high]
      simp [mul_div_right_comm]

/-- What a rounding holds are the multiples of the unit that round to the number. -/
theorem Rounding.Measures.holds_iff {u : ℚ} (s : r.Measures f m e u) (unit : 0 < u) (n : ℕ) :
    r.holds n = true ↔ f.Rounds m e (n * u) := by
  have scale : (0 : ℚ) < r.den := by exact_mod_cast s.den_pos
  have low : r.low ≤ n * r.den ↔ (m - f.reach m e) * 2 ^ e ≤ n * u := by
    rw [← div_le_iff₀ unit, ← s.low, div_le_iff₀ scale]
    exact_mod_cast Iff.rfl
  have high : n * r.den ≤ r.high ↔ n * u ≤ (m + 1 / 2) * 2 ^ e := by
    rw [← le_div_iff₀ unit, ← s.high, le_div_iff₀ scale]
    exact_mod_cast Iff.rfl
  have low' : r.low < n * r.den ↔ (m - f.reach m e) * 2 ^ e < n * u := by
    rw [← div_lt_iff₀ unit, ← s.low, div_lt_iff₀ scale]
    exact_mod_cast Iff.rfl
  have high' : n * r.den < r.high ↔ n * u < (m + 1 / 2) * 2 ^ e := by
    rw [← lt_div_iff₀ unit, ← s.high, lt_div_iff₀ scale]
    exact_mod_cast Iff.rfl
  unfold Rounding.holds
  rw [s.closed]
  by_cases even : m % 2 = 0
  · simp only [even, beq_self_eq_true, if_true, Bool.and_eq_true, decide_eq_true_eq, low, high]
    exact ⟨fun ⟨l, h⟩ => ⟨l, h, fun odd => by omega⟩, fun r => ⟨r.low, r.high⟩⟩
  · have odd : m % 2 = 1 := by omega
    simp only [beq_eq_false_iff_ne.mpr even, Bool.false_eq_true, if_false, Bool.and_eq_true,
      decide_eq_true_eq, low', high']
    exact ⟨fun ⟨l, h⟩ => ⟨l.le, h.le, fun _ => ⟨l, h⟩⟩, fun r => r.inside odd⟩

/-! ## Picking a point of a grid -/

theorem Tie.settle_eq (tie : Tie) (n : ℕ) : tie.settle n = n ∨ tie.settle n = n + 1 := by
  cases tie with
  | toEven =>
    change n + n % 2 = n ∨ n + n % 2 = n + 1
    omega
  | away => exact .inr rfl

theorem Rounding.holds_of_pick? {n : ℕ} (picked : r.pick? tie = some n) : r.holds n = true := by
  unfold Rounding.pick? at picked
  dsimp only at picked
  split at picked
  · rename_i down up
    rcases tie.settle_eq (r.value / r.den) with same | same <;>
    · simp only [Option.some.injEq, same] at picked
      split at picked
      · exact picked ▸ down
      · split at picked
        · exact picked ▸ up
        · exact picked ▸ ‹_›
  · exact Option.some.inj picked ▸ ‹_›
  · exact Option.some.inj picked ▸ ‹_›
  · cases picked

theorem Rounding.pick?_ne_none
    (near : r.holds (r.value / r.den) = true ∨ r.holds (r.value / r.den + 1) = true) :
    r.pick? tie ≠ none := by
  unfold Rounding.pick?
  dsimp only
  rcases near with down | up
  · rw [down]
    cases r.holds (r.value / r.den + 1) <;> simp
  · rw [up]
    cases r.holds (r.value / r.den) <;> simp

/-- Of the two points around the value on a fine grid the nearer one rounds to the number. -/
theorem Rounding.Measures.pick?_ne_none {u : ℚ} (s : r.Measures f m e u) (unit : 0 < u)
    (fine : u / 2 < f.reach m e * 2 ^ e) : r.pick? tie ≠ none := by
  apply Rounding.pick?_ne_none
  have scale : (0 : ℚ) < 2 ^ e := by positivity
  have fine' : u / 2 < 1 / 2 * 2 ^ e :=
    fine.trans_le (mul_le_mul_of_nonneg_right (f.reach_le_half m e) scale.le)
  have below : ((r.value / r.den : ℕ) : ℚ) * u ≤ m * 2 ^ e := by
    rw [← le_div_iff₀ unit, ← s.value]
    exact Nat.cast_div_le
  have above : (m : ℚ) * 2 ^ e < ((r.value / r.den + 1 : ℕ) : ℚ) * u := by
    rw [← div_lt_iff₀ unit, ← s.value]
    exact (floor_lt_iff s.den_pos).mp (Nat.lt_succ_self _)
  rw [s.holds_iff unit, s.holds_iff unit]
  rw [Nat.cast_add, Nat.cast_one] at above ⊢
  generalize ((r.value / r.den : ℕ) : ℚ) = n at below above ⊢
  rcases le_total (m * 2 ^ e - n * u) (u / 2) with near | far
  · have low : (m - f.reach m e) * 2 ^ e < n * u := by linarith
    have high : n * u < (m + 1 / 2) * 2 ^ e := by linarith
    exact .inl ⟨low.le, high.le, fun _ => ⟨low, high⟩⟩
  · have low : (m - f.reach m e) * 2 ^ e < (n + 1) * u := by linarith
    have high : (n + 1) * u < (m + 1 / 2) * 2 ^ e := by linarith
    exact .inr ⟨low.le, high.le, fun _ => ⟨low, high⟩⟩

/-! ## The search -/

theorem digitCount_pos (n : ℕ) : 0 < digitCount n :=
  List.length_pos_iff.mpr Nat.toDigits_ne_nil

theorem lt_pow_digitCount (n : ℕ) : n < 10 ^ digitCount n :=
  (Nat.length_toDigits_le_iff (by decide) (digitCount_pos n)).mp le_rfl

theorem pow_digitCount_le {n : ℕ} (positive : 0 < n) : 10 ^ (digitCount n - 1) ≤ n := by
  rcases Nat.eq_zero_or_pos (digitCount n - 1) with none | some
  · rw [none]
    exact positive
  · by_contra less
    have := (Nat.length_toDigits_le_iff (b := 10) (by decide) some).mpr (not_le.mp less)
    have : digitCount n ≤ digitCount n - 1 := this
    omega

/-- The first grid is not coarser than the value. -/
theorem Rounding.leading_le (den_pos : 0 < r.den) (value_pos : 0 < r.value) :
    (10 : ℚ) ^ r.leading ≤ r.value / r.den := by
  have scale : (0 : ℚ) < r.den := by exact_mod_cast den_pos
  unfold Rounding.leading
  split
  · rename_i large
    have some := digitCount_pos (r.value / r.den)
    have power := pow_digitCount_le (Nat.div_pos large den_pos)
    rw [show (digitCount (r.value / r.den) : ℤ) - 1 = ((digitCount (r.value / r.den) - 1 : ℕ) : ℤ)
      by omega, zpow_natCast]
    calc (10 : ℚ) ^ (digitCount (r.value / r.den) - 1) ≤ (r.value / r.den : ℕ) := by
          exact_mod_cast power
      _ ≤ r.value / r.den := Nat.cast_div_le
  · have power := lt_pow_digitCount ((r.den - 1) / r.value)
    rw [Nat.div_lt_iff_lt_mul value_pos] at power
    rw [zpow_neg, zpow_natCast, inv_le_iff_one_le_mul₀ (by positivity), ← mul_div_right_comm,
      one_le_div scale, mul_comm]
    exact_mod_cast (by omega : r.den ≤ 10 ^ digitCount ((r.den - 1) / r.value) * r.value)

/-- By induction on the grids that are left: the first that a point is picked from is taken. -/
theorem Rounding.search_holds (r : Rounding) (tie : Tie) (g : ℤ) (count : ℕ)
    (ends : ∃ k < count, (r.inUnits (g - k)).pick? tie ≠ none) :
    (r.inUnits (r.search tie g count).exponent).holds (r.search tie g count).digits = true := by
  induction count generalizing g with
  | zero => omega
  | succ count ih =>
    unfold Rounding.search
    cases picked : (r.inUnits g).pick? tie with
    | some n => exact Rounding.holds_of_pick? picked
    | none =>
      obtain ⟨k, below, some⟩ := ends
      cases k with
      | zero => exact absurd picked (by simpa using some)
      | succ k =>
        refine ih (g - 1) ⟨k, by omega, ?_⟩
        rw [show g - 1 - (k : ℤ) = g - ((k + 1 : ℕ) : ℤ) by omega]
        exact some

/-- A grid with as many digits as a power of two above the significands is fine. -/
theorem fine_of_digits {digits : ℕ} (normal : f.Normal m e) (precise : 1 < f.precision)
    (positive : 0 < m) (enough : 2 ^ f.precision < 10 ^ digits) {u : ℚ}
    (small : u * 10 ^ digits ≤ m * 2 ^ e) : u / 2 < f.reach m e * 2 ^ e := by
  have scale : (0 : ℚ) < 2 ^ e := by positivity
  have one : (1 : ℚ) ≤ m := by exact_mod_cast positive
  have enough' : (2 : ℚ) ^ f.precision < 10 ^ digits := by exact_mod_cast enough
  -- the unit is less than the value over the precision, which is less than twice the reach
  have reach : (m : ℚ) ≤ 2 * f.reach m e * 2 ^ f.precision := by
    unfold Format.reach
    split
    · rename_i power
      have cast : (m : ℚ) = 2 ^ (f.precision - 1) := by exact_mod_cast power.1
      rw [cast, ← Nat.sub_add_cancel precise.le, pow_succ]
      simp only [Nat.add_sub_cancel]
      linarith [show (0 : ℚ) < 2 ^ (f.precision - 1) by positivity]
    · linarith [normal.short_cast]
  by_contra coarse
  have large := not_lt.mp coarse
  have unit : 0 < u := by
    have := mul_pos (lt_of_lt_of_le (by norm_num) (f.quarter_le_reach m e)) scale
    linarith
  have : (m : ℚ) * 2 ^ e ≤ u * 2 ^ f.precision :=
    calc (m : ℚ) * 2 ^ e ≤ 2 * f.reach m e * 2 ^ f.precision * 2 ^ e :=
          mul_le_mul_of_nonneg_right reach scale.le
      _ = 2 * (f.reach m e * 2 ^ e) * 2 ^ f.precision := by ring
      _ ≤ 2 * (u / 2) * 2 ^ f.precision :=
          mul_le_mul_of_nonneg_right (by linarith) (by positivity)
      _ = u * 2 ^ f.precision := by ring
  have : u * 2 ^ f.precision < u * 10 ^ digits := mul_lt_mul_of_pos_left enough' unit
  linarith

/-! ## Shortest decimals -/

/-- A format has enough decimal digits for its binary ones. -/
structure Format.Legible (f : Format) : Prop where
  precise : 1 < f.precision
  enough : 2 ^ f.precision < 10 ^ (f.precision * 3 / 10 + 1)

theorem legible_double : Format.double.Legible := ⟨by decide, by decide⟩

theorem legible_single : Format.single.Legible := ⟨by decide, by decide⟩

theorem Format.Legible.rounds_shortest (l : f.Legible) (tie : Tie) {x : Finite}
    (normal : f.Normal x.significand x.exponent) (positive : 0 < x.significand) :
    f.Rounds x.significand x.exponent (f.shortest tie x).magnitude := by
  have measures := measures_rounding (f := f) (e := x.exponent) positive
  unfold Format.shortest
  rw [if_neg positive.ne']
  dsimp only
  rw [Decimal.magnitude_strip]
  generalize f.rounding x.significand x.exponent = r at measures
  have value := measures.value
  rw [div_one] at value
  have value_pos : 0 < r.value := by
    have scale : (0 : ℚ) < r.den := by exact_mod_cast measures.den_pos
    have quotient : (0 : ℚ) < r.value / r.den := by
      rw [value]
      positivity
    exact_mod_cast (div_pos_iff_of_pos_right scale).mp quotient
  have first := Rounding.leading_le measures.den_pos value_pos
  have ends : ∃ k < f.precision * 3 / 10 + 2, (r.inUnits (r.leading - k)).pick? tie ≠ none := by
    refine ⟨f.precision * 3 / 10 + 1, by omega, ?_⟩
    refine (measures.inUnits _).pick?_ne_none (by positivity) ?_
    refine fine_of_digits normal l.precise positive l.enough ?_
    rw [← value]
    refine le_trans (le_of_eq ?_) first
    rw [← zpow_natCast (10 : ℚ) (f.precision * 3 / 10 + 1), ← zpow_add₀ (by norm_num),
      sub_add_cancel]
  have holds := r.search_holds tie r.leading _ ends
  exact ((measures.inUnits _).holds_iff (by positivity) _).mp holds

theorem magnitude_shortest_of_zero (f : Format) (tie : Tie) {x : Finite}
    (zero : x.significand = 0) : (f.shortest tie x).magnitude = 0 := by
  unfold Format.shortest
  rw [if_pos zero]
  simp [Decimal.magnitude]

/-- A number of a format is the one nearest to its shortest decimal, however that is written as a
ratio. -/
theorem Format.Legible.ofRatio_shortest (l : f.Legible) (tie : Tie) {x : Finite}
    (normal : f.Normal x.significand x.exponent) {num den : ℕ} (den_pos : 0 < den)
    (same : (num : ℚ) / den = (f.shortest tie x).magnitude) :
    f.ofRatio x.negative num den = .finite x := by
  have nearest : f.nearest num den = some (x.significand, x.exponent) := by
    rcases Nat.eq_zero_or_pos x.significand with zero | positive
    · rw [magnitude_shortest_of_zero f tie zero, div_eq_zero_iff] at same
      have nought : num = 0 := by
        rcases same with nought | nought
        · exact_mod_cast nought
        · exact absurd (by exact_mod_cast nought) den_pos.ne'
      have least := normal.exponent_of_zero zero
      unfold Format.nearest
      rw [if_pos nought, zero, least]
    · refine Format.nearest_eq l.precise normal positive den_pos ?_
      rw [same]
      exact l.rounds_shortest tie normal positive
  unfold Format.ofRatio
  rw [nearest]

end AnalysisPanel.Floating
