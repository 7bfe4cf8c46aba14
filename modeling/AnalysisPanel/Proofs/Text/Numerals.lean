import AnalysisPanel.Text.Numeral
import AnalysisPanel.Proofs.Text.Trimming
import Mathlib.Algebra.Group.Int.Defs
import Mathlib.Algebra.Group.Nat.Defs
import Mathlib.Data.List.Basic

/-! A number that is printed is read back from its digits, with its sign if it has one. -/

namespace AnalysisPanel.Text

theorem digit?_digitChar {d : Nat} (hd : d < 10) : digit? d.digitChar = some d := by
  have code := Nat.toNat_digitChar_of_lt_ten hd
  have low : '0' ≤ d.digitChar := by
    change 48 ≤ d.digitChar.toNat
    omega
  have high : d.digitChar ≤ '9' := by
    change d.digitChar.toNat ≤ 57
    omega
  rw [digit?, if_pos ⟨low, high⟩, code, Nat.add_sub_cancel_left]

theorem digitsFrom?_append (v : Nat) (cs ds : List Char) :
    digitsFrom? v (cs ++ ds) = (digitsFrom? v cs).bind fun w => digitsFrom? w ds := by
  induction cs generalizing v with
  | nil => rfl
  | cons c cs ih =>
    simp only [List.cons_append, digitsFrom?]
    cases digit? c with
    | none => rfl
    | some d => exact ih _

theorem digitsFrom?_digitChar (v : Nat) {d : Nat} (hd : d < 10) :
    digitsFrom? v [d.digitChar] = some (10 * v + d) := by
  simp only [digitsFrom?, digit?_digitChar hd]

/-- By recursion on the number without its last digit, which is how its digits are made. -/
theorem digitsFrom?_toDigits (n : Nat) : digitsFrom? 0 (Nat.toDigits 10 n) = some n := by
  induction n using Nat.strongRecOn with
  | ind n ih =>
    by_cases small : n < 10
    · rw [Nat.toDigits_of_lt_base small, digitsFrom?_digitChar 0 small, Nat.mul_zero, Nat.zero_add]
    · have shorter : n / 10 < n := by omega
      have last : n % 10 < 10 := Nat.mod_lt n (by decide)
      rw [Nat.toDigits_of_base_le (by decide) (by omega), digitsFrom?_append, ih _ shorter,
        Option.bind_some, digitsFrom?_digitChar _ last, Nat.div_add_mod]

theorem toNat_of_mem_toDigits {n : Nat} {c : Char} (h : c ∈ Nat.toDigits 10 n) :
    48 ≤ c.toNat ∧ c.toNat ≤ 57 := by
  have digit := Nat.isDigit_of_mem_toDigits (by decide) (by decide) h
  simpa [Char.isDigit, UInt32.le_iff_toNat_le] using digit

theorem isWord_toDigits (n : Nat) : IsWord (Nat.toDigits 10 n) where
  nonempty := Nat.toDigits_ne_nil
  solid c hc := by
    obtain ⟨low, high⟩ := toNat_of_mem_toDigits hc
    simp only [isBlank, Bool.or_eq_false_iff, Bool.and_eq_false_iff, decide_eq_false_iff_not,
      beq_eq_false_iff_ne]
    omega

theorem digits?_toDigits (n : Nat) : digits? (Nat.toDigits 10 n) = some n := by
  have value := digitsFrom?_toDigits n
  cases digits : Nat.toDigits 10 n with
  | nil => exact absurd digits Nat.toDigits_ne_nil
  | cons c cs =>
    rw [digits] at value
    exact value

/-- A numeral without a sign begins with a digit. -/
theorem toDigits_ne_signed (n : Nat) {c : Char} (rest : List Char) (sign : c.toNat < 48) :
    Nat.toDigits 10 n ≠ c :: rest := by
  intro digits
  have digit := (toNat_of_mem_toDigits (n := n) (c := c) (by simp [digits])).1
  omega

/-- What is read of a numeral is the number that was written. -/
theorem natural?_toDigits {bound n : Nat} (h : n < bound) :
    natural? bound (Nat.toDigits 10 n) = some n := by
  unfold natural?
  split
  · rename_i rest digits
    exact absurd digits (toDigits_ne_signed n rest (by decide))
  · simp only [digits?_toDigits, if_pos h]

/-- The numeral of a number that may be negative. -/
theorem toList_toString_int64 (x : Int64) :
    (toString x).toList =
      if x.toInt < 0 then '-' :: Nat.toDigits 10 x.toInt.natAbs
      else Nat.toDigits 10 x.toInt.natAbs := by
  have written : toString x = toString x.toInt := rfl
  rw [written]
  cases x.toInt with
  | ofNat n =>
    rw [if_neg (by simp)]
    exact Nat.toList_repr ..
  | negSucc n =>
    have signed : toString (Int.negSucc n) = "-" ++ toString (n + 1) := rfl
    rw [if_pos (Int.negSucc_lt_zero n), signed, String.toList_append]
    simp

theorem isWord_int64 (x : Int64) : IsWord (toString x).toList := by
  rw [toList_toString_int64]
  split
  · refine ⟨List.cons_ne_nil _ _, fun c hc => ?_⟩
    rcases List.mem_cons.mp hc with rfl | digit
    · decide
    · exact (isWord_toDigits _).solid c digit
  · exact isWord_toDigits _

/-- A number of 64 bits is read back with its sign. -/
theorem int64?_toString (x : Int64) : int64? (toString x).toList = some x := by
  have held : toInt64? x.toInt = some x := by
    rw [toInt64?, if_pos ⟨x.minValue_le_toInt, x.toInt_le⟩, Int64.ofInt_toInt]
  rw [toList_toString_int64]
  unfold int64?
  by_cases negative : x.toInt < 0
  · have value : -(x.toInt.natAbs : Int) = x.toInt := by omega
    rw [if_pos negative]
    simp only [digits?_toDigits]
    change toInt64? (-(x.toInt.natAbs : Int)) = some x
    rw [value, held]
  · have value : (x.toInt.natAbs : Int) = x.toInt := by omega
    rw [if_neg negative]
    split
    · rename_i rest digits
      exact absurd digits (toDigits_ne_signed _ rest (by decide))
    · rename_i rest digits
      exact absurd digits (toDigits_ne_signed _ rest (by decide))
    · simp only [digits?_toDigits]
      change toInt64? (x.toInt.natAbs : Int) = some x
      rw [value, held]

/-! ## Numerals that are read -/

/-- One or more digits, zeros in front among them, that write a number. -/
structure Digits (cs : List Char) (n : ℕ) : Prop where
  nonempty : cs ≠ []
  digits : ∀ c ∈ cs, c.isDigit = true
  value : Nat.ofDigitChars 10 cs 0 = n

/-- Digits with a plus sign before them or without. -/
inductive Unsigned : List Char → ℕ → Prop where
  | plain {cs : List Char} {n : ℕ} : Digits cs n → Unsigned cs n
  | plus {cs : List Char} {n : ℕ} : Digits cs n → Unsigned ('+' :: cs) n

/-- Digits with a sign before them or without. -/
inductive Signed : List Char → ℤ → Prop where
  | unsigned {cs : List Char} {n : ℕ} : Unsigned cs n → Signed cs n
  | minus {cs : List Char} {n : ℕ} : Digits cs n → Signed ('-' :: cs) (-n)

theorem digit?_eq (c : Char) : digit? c = if c.isDigit = true then some (c.toNat - 48) else none := by
  have range : ('0' ≤ c ∧ c ≤ '9') ↔ c.isDigit = true := Char.isDigit_iff_toNat.symm
  simp only [digit?, range]

theorem digitsFrom?_eq_some_iff {v n : ℕ} {cs : List Char} :
    digitsFrom? v cs = some n ↔
      (∀ c ∈ cs, c.isDigit = true) ∧ Nat.ofDigitChars 10 cs v = n := by
  induction cs generalizing v with
  | nil => simp [digitsFrom?]
  | cons c cs ih =>
    rw [digitsFrom?, digit?_eq, Nat.ofDigitChars_cons, List.forall_mem_cons]
    by_cases digit : c.isDigit = true
    · rw [if_pos digit]
      exact ih.trans (and_congr_left fun _ => (and_iff_right digit).symm)
    · rw [if_neg digit]
      exact iff_of_false nofun fun all => digit all.1.1

theorem digits?_eq_some_iff {n : ℕ} {cs : List Char} : digits? cs = some n ↔ Digits cs n := by
  cases cs with
  | nil => exact iff_of_false nofun fun d => d.nonempty rfl
  | cons c cs =>
    refine digitsFrom?_eq_some_iff.trans ⟨fun ⟨digits, value⟩ => ?_, fun d => ⟨d.digits, d.value⟩⟩
    exact ⟨List.cons_ne_nil c cs, digits, value⟩

/-- Digits begin with no sign. -/
theorem Digits.head_ne {cs : List Char} {n : ℕ} (d : Digits cs n) {c : Char}
    (sign : c.isDigit = false) (rest : List Char) : cs ≠ c :: rest := by
  rintro rfl
  have digit := d.digits c List.mem_cons_self
  rw [sign] at digit
  cases digit

theorem unsigned_plus_iff {cs : List Char} {n : ℕ} : Unsigned ('+' :: cs) n ↔ Digits cs n := by
  refine ⟨fun u => ?_, .plus⟩
  cases u with
  | plain d => exact absurd rfl (d.head_ne (show '+'.isDigit = false from rfl) cs)
  | plus d => exact d

theorem unsigned_iff {cs : List Char} {n : ℕ} (bare : ∀ rest, cs ≠ '+' :: rest) :
    Unsigned cs n ↔ Digits cs n := by
  refine ⟨fun u => ?_, .plain⟩
  cases u with
  | plain d => exact d
  | plus _ => exact absurd rfl (bare _)

theorem signed_minus_iff {cs : List Char} {v : ℤ} :
    Signed ('-' :: cs) v ↔ ∃ n : ℕ, Digits cs n ∧ -(n : ℤ) = v := by
  constructor
  · intro s
    cases s with
    | unsigned u =>
      cases u with
      | plain d => exact absurd rfl (d.head_ne (show '-'.isDigit = false from rfl) cs)
    | minus d => exact ⟨_, d, rfl⟩
  · rintro ⟨n, d, rfl⟩
    exact .minus d

theorem signed_iff {cs : List Char} {v : ℤ} (bare : ∀ rest, cs ≠ '-' :: rest) :
    Signed cs v ↔ ∃ n : ℕ, Unsigned cs n ∧ (n : ℤ) = v := by
  constructor
  · intro s
    cases s with
    | unsigned u => exact ⟨_, u, rfl⟩
    | minus _ => exact absurd rfl (bare _)
  · rintro ⟨n, u, rfl⟩
    exact .unsigned u

/-- A numeral is read exactly if it is one and its number lies below the bound. -/
theorem natural?_eq_some_iff {bound n : ℕ} {cs : List Char} :
    natural? bound cs = some n ↔ Unsigned cs n ∧ n < bound := by
  unfold natural?
  dsimp only
  generalize found : digits? _ = value?
  have numeral : Unsigned cs n ↔ value? = some n := by
    rw [← found, digits?_eq_some_iff]
    split
    · exact unsigned_plus_iff
    · rename_i bare
      exact unsigned_iff bare
  rw [numeral]
  cases value? with
  | none => simp
  | some m => grind

theorem toInt64?_eq_some_iff {v : ℤ} {x : Int64} :
    toInt64? v = some x ↔ -(2 ^ 63) ≤ v ∧ v < 2 ^ 63 ∧ x = Int64.ofInt v := by
  have least : Int64.minValue.toInt = -(2 ^ 63) := by decide
  have most : Int64.maxValue.toInt = 2 ^ 63 - 1 := by decide
  unfold toInt64?
  rw [least, most]
  split
  · rename_i held
    rw [Option.some.injEq, eq_comm]
    exact ⟨fun same => ⟨held.1, by omega, same⟩, fun found => found.2.2⟩
  · rename_i past
    exact iff_of_false nofun fun found => past ⟨found.1, by omega⟩

/-- A numeral with a sign is read exactly if it is one and 64 bits hold its number. -/
theorem int64?_eq_some_iff {cs : List Char} {x : Int64} :
    int64? cs = some x ↔ ∃ v, Signed cs v ∧ -(2 ^ 63) ≤ v ∧ v < 2 ^ 63 ∧ x = Int64.ofInt v := by
  have read (f : ℤ → ℤ) (ds : List Char) (v : ℤ) :
      ((do let n ← digits? ds; pure (n : ℤ)) : Option ℤ).map f = some v ↔
        ∃ n : ℕ, Digits ds n ∧ f n = v := by
    simp [← digits?_eq_some_iff, Option.bind_eq_some_iff]
  unfold int64?
  rw [Option.bind_eq_some_iff]
  refine exists_congr fun v => and_congr ?_ toInt64?_eq_some_iff
  split
  · rename_i rest
    exact (read _ rest v).trans signed_minus_iff.symm
  · rename_i rest
    rw [signed_iff (by simp)]
    simp only [unsigned_plus_iff]
    exact read _ rest v
  · rename_i minus plus
    rw [signed_iff minus]
    simp only [unsigned_iff plus]
    exact read _ cs v

end AnalysisPanel.Text
