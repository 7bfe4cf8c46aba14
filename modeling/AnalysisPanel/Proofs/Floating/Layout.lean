import AnalysisPanel.Proofs.Floating.Shortest
import AnalysisPanel.Proofs.Text.Numerals

/-! How decimals are laid out: in whichever of its forms a decimal is written, the digits and the
point say its value, and the form is one of the grammar of numbers. -/

namespace AnalysisPanel

open Text

/-! ## Digits -/

namespace Text

theorem digits?_eq {cs : List Char} (some : cs ≠ []) : digits? cs = digitsFrom? 0 cs := by
  cases cs with
  | nil => exact absurd rfl some
  | cons c cs => rfl

theorem digitsFrom?_zeros (v k : ℕ) :
    digitsFrom? v (List.replicate k '0') = some (v * 10 ^ k) := by
  induction k generalizing v with
  | zero => simp [digitsFrom?]
  | succ k ih =>
    rw [List.replicate_succ]
    change digitsFrom? (10 * v + 0) (List.replicate k '0') = _
    rw [ih, Nat.add_zero, pow_succ]
    congr 1
    ring

/-- Only the number zero is written with a zero in front. -/
theorem head?_toDigits {n : ℕ} (positive : 0 < n) : (Nat.toDigits 10 n).head? ≠ some '0' := by
  induction n using Nat.strongRecOn with
  | ind n ih =>
    by_cases small : n < 10
    · rw [Nat.toDigits_of_lt_base small, List.head?_singleton]
      intro zero
      have code := Nat.toNat_digitChar_of_lt_ten small
      rw [Option.some.inj zero] at code
      have : '0'.toNat = 48 := rfl
      omega
    · have front := ih (n / 10) (by omega) (by omega)
      rw [Nat.toDigits_of_base_le (by decide) (by omega),
        List.head?_append_of_ne_nil _ Nat.toDigits_ne_nil]
      exact front

end Text

namespace Floating

/-! ## Numerals -/

/-- What the digits of a numeral and its exponent say. -/
def Numeral.decimal (n : Numeral) : Decimal :=
  ⟨(digits? (n.whole ++ n.fraction)).getD 0, n.exponent.getD 0 - n.fraction.length⟩

/-- A numeral of the grammar: digits before the point, of which a zero in front stands alone, and
digits after it. -/
structure Numeral.Regular (n : Numeral) : Prop where
  nonempty : n.whole ≠ []
  whole : ∀ c ∈ n.whole, c.isDigit = true
  lead : n.whole.head? = some '0' → n.whole = ['0']
  fraction : ∀ c ∈ n.fraction, c.isDigit = true

/-- A numeral that shows a point or an exponent. -/
def Numeral.IsReal (n : Numeral) : Prop := n.fraction ≠ [] ∨ n.exponent ≠ none

variable (layout : Layout) (negative : Bool)

/-- The digits of a decimal are laid out in one of these ways. -/
inductive Laid (d : Decimal) : Numeral → Prop where
  | nought : d.digits = 0 → Laid d ⟨negative, ['0'], ['0'], none⟩
  | whole (k : ℕ) : d.digits ≠ 0 → d.exponent = k →
      Laid d ⟨negative, digitsText d.digits ++ List.replicate k '0', ['0'], none⟩
  | split (n : ℕ) : d.digits ≠ 0 → 0 < n → n < (digitsText d.digits).length →
      (digitsText d.digits).length + d.exponent = n →
      Laid d ⟨negative, (digitsText d.digits).take n, (digitsText d.digits).drop n, none⟩
  | small (k : ℕ) : d.digits ≠ 0 → (digitsText d.digits).length + d.exponent = -k →
      Laid d ⟨negative, ['0'], List.replicate k '0' ++ digitsText d.digits, none⟩
  | scaled : d.digits ≠ 0 →
      Laid d ⟨negative, (digitsText d.digits).take 1, (digitsText d.digits).drop 1,
        some ((digitsText d.digits).length + d.exponent - 1)⟩

theorem Layout.laid (d : Decimal) : Laid negative d (layout.numeral negative d) := by
  unfold Layout.numeral
  dsimp only
  split
  · exact .nought ‹_›
  · rename_i nonzero
    split
    · exact .whole _ nonzero (Int.toNat_of_nonneg (by omega)).symm
    · split
      · exact .split _ nonzero (by omega) (by omega) (Int.toNat_of_nonneg (by omega)).symm
      · split
        · refine .small _ nonzero ?_
          rw [Int.toNat_of_nonneg (by omega), neg_neg]
        · exact .scaled nonzero

variable {negative} {d : Decimal} {n : Numeral}

theorem digitsText_ne_nil (k : ℕ) : digitsText k ≠ [] := Nat.toDigits_ne_nil

theorem Laid.negative_eq (l : Laid negative d n) : n.negative = negative := by
  cases l <;> rfl

theorem Laid.isReal (l : Laid negative d n) : n.IsReal := by
  cases l with
  | nought _ => exact .inl (by simp)
  | whole k _ _ => exact .inl (by simp)
  | split k _ _ short _ => exact .inl (by simpa using short)
  | small k _ _ => exact .inl (by simp [digitsText_ne_nil])
  | scaled _ => exact .inr (by simp)

theorem isDigit_of_mem_digitsText {k : ℕ} : ∀ c ∈ digitsText k, c.isDigit = true :=
  fun _ => Nat.isDigit_of_mem_toDigits (by decide) (by decide)

theorem isDigit_of_mem_zeros {k : ℕ} : ∀ c ∈ List.replicate k '0', c.isDigit = true := by
  intro c hc
  rw [List.eq_of_mem_replicate hc]
  rfl

theorem head?_digitsText (nonzero : d.digits ≠ 0) : (digitsText d.digits).head? ≠ some '0' :=
  head?_toDigits (Nat.pos_of_ne_zero nonzero)

/-- The first digits of a positive number make up a numeral before the point. -/
theorem regular_of_prefix (nonzero : d.digits ≠ 0) {k : ℕ} (positive : 0 < k) {fraction : List Char}
    {exponent : Option ℤ} (digits : ∀ c ∈ fraction, c.isDigit = true) :
    Numeral.Regular ⟨negative, (digitsText d.digits).take k, fraction, exponent⟩ where
  nonempty := by simp [List.take_eq_nil_iff, digitsText_ne_nil, positive.ne']
  whole c hc := isDigit_of_mem_digitsText c (List.mem_of_mem_take hc)
  lead zero := by
    rw [List.head?_take, if_neg positive.ne'] at zero
    exact absurd zero (head?_digitsText nonzero)
  fraction := digits

theorem Laid.regular (l : Laid negative d n) : n.Regular := by
  cases l with
  | nought _ => exact ⟨by simp, by simp, fun _ => rfl, by simp⟩
  | whole k nonzero _ =>
    refine ⟨by simp [digitsText_ne_nil], ?_, ?_, by simp⟩
    · intro c hc
      exact (List.mem_append.mp hc).elim (isDigit_of_mem_digitsText c) (isDigit_of_mem_zeros c)
    · intro zero
      rw [List.head?_append_of_ne_nil _ (digitsText_ne_nil _)] at zero
      exact absurd zero (head?_digitsText nonzero)
  | split k nonzero positive _ _ =>
    exact regular_of_prefix nonzero positive fun c hc =>
      isDigit_of_mem_digitsText c (List.mem_of_mem_drop hc)
  | small k _ _ =>
    refine ⟨by simp, by simp, fun _ => rfl, fun c hc => ?_⟩
    exact (List.mem_append.mp hc).elim (isDigit_of_mem_zeros c) (isDigit_of_mem_digitsText c)
  | scaled nonzero =>
    exact regular_of_prefix nonzero one_pos fun c hc =>
      isDigit_of_mem_digitsText c (List.mem_of_mem_drop hc)

theorem digits?_digitsText (k : ℕ) : digits? (digitsText k) = some k := by
  rw [digits?_eq (digitsText_ne_nil k)]
  exact digitsFrom?_toDigits k

/-- The layout of a decimal says its value. -/
theorem Laid.magnitude (l : Laid negative d n) : n.decimal.magnitude = d.magnitude := by
  cases l with
  | nought zero => simp [Numeral.decimal, Decimal.magnitude, zero, digits?, digitsFrom?, digit?]
  | whole k nonzero exponent =>
    have digits : digits? (digitsText d.digits ++ List.replicate k '0' ++ ['0']) =
        some (d.digits * 10 ^ (k + 1)) := by
      rw [List.append_assoc, ← List.replicate_succ', digits?_eq (by simp), digitsFrom?_append,
        show digitsText d.digits = Nat.toDigits 10 d.digits from rfl, digitsFrom?_toDigits,
        Option.bind_some, digitsFrom?_zeros]
    simp only [Numeral.decimal, Decimal.magnitude, digits, exponent]
    simp [pow_succ, ← mul_assoc]
  | split k nonzero _ short point =>
    have whole : d.exponent = -((digitsText d.digits).length - k : ℕ) := by omega
    simp only [Numeral.decimal, Decimal.magnitude, List.take_append_drop, digits?_digitsText,
      List.length_drop, Option.getD_some, Option.getD_none, zero_sub, whole]
  | small k nonzero point =>
    have digits : digits? (['0'] ++ (List.replicate k '0' ++ digitsText d.digits)) =
        some d.digits := by
      rw [← List.append_assoc, List.singleton_append, ← List.replicate_succ, digits?_eq (by simp),
        digitsFrom?_append, digitsFrom?_zeros, Nat.zero_mul]
      exact digitsFrom?_toDigits d.digits
    have whole : d.exponent = -((k + (digitsText d.digits).length : ℕ) : ℤ) := by omega
    simp only [Numeral.decimal, Decimal.magnitude, digits, List.length_append,
      List.length_replicate, Option.getD_some, Option.getD_none, zero_sub, whole]
  | scaled nonzero =>
    have some := List.length_pos_iff.mpr (digitsText_ne_nil d.digits)
    have whole : (digitsText d.digits).length + d.exponent - 1 -
        ((digitsText d.digits).length - 1 : ℕ) = d.exponent := by omega
    simp only [Numeral.decimal, Decimal.magnitude, List.take_append_drop, digits?_digitsText,
      List.length_drop, Option.getD_some, whole]

/-! ## Shortest numerals -/

/-- The number nearest to a numeral. -/
def Format.nearestTo (f : Format) (n : Numeral) : Number :=
  f.ofRatio n.negative n.decimal.ratio.1 n.decimal.ratio.2

/-- A number of a format is the one nearest to its shortest numeral. -/
theorem Format.Legible.nearestTo_shortest {f : Format} (l : f.Legible) (layout : Layout)
    {x : Finite} (normal : f.Normal x.significand x.exponent) :
    f.nearestTo (layout.shortest f x) = .finite x := by
  have laid := layout.laid x.negative (f.shortest layout.tie x)
  obtain ⟨den_pos, ratio⟩ := (layout.shortest f x).decimal.ratio_eq
  unfold Format.nearestTo
  rw [show (layout.shortest f x).negative = x.negative from laid.negative_eq]
  exact l.ofRatio_shortest layout.tie normal den_pos (ratio.trans laid.magnitude)

end Floating

end AnalysisPanel
