import AnalysisPanel.Json.Number
import AnalysisPanel.Proofs.Floating.Layout

/-! Numbers of JSON. What is read is an integer of 64 bits or a number of the floating-point format;
what is written of either denotes it, and integers are also read back. -/

namespace AnalysisPanel.Json

open Floating Text

/-! ## Numbers that are read -/

/-- An integer that 64 bits hold, with or without a sign, or a number of 64 bits. -/
def Number.Proper : Number → Prop
  | .integer n => -(2 ^ 63) ≤ n ∧ n < 2 ^ 64
  | .real x => Format.double.Normal x.significand x.exponent

namespace Number

theorem normal_of_ofRatio {negative : Bool} {num den : ℕ} {x : Finite} (positive : 0 < den)
    (nearest : Format.double.ofRatio negative num den = .finite x) :
    Format.double.Normal x.significand x.exponent :=
  Format.normal_of_ofRatio (by decide) (by decide) positive nearest

theorem ratio_den_pos (x : Finite) : 0 < x.ratio.2 := by
  unfold Finite.ratio
  split
  · exact one_pos
  · exact Nat.pow_pos (by decide)

/-- No power of ten that is used is a zero. -/
theorem powerOfTen_pos {k : ℕ} (small : k < 309) : 0 < (powerOfTen k).ratio.1 := by
  have all : ∀ k < 309, 0 < (powerOfTen k).ratio.1 := by decide +kernel
  exact all k small

theorem normal_product {x y z : Finite} (scaled : product x y = .finite z) :
    Format.double.Normal z.significand z.exponent :=
  normal_of_ofRatio (Nat.mul_pos (ratio_den_pos x) (ratio_den_pos y)) scaled

theorem normal_quotient {x z : Finite} {k : ℕ} (small : k ≤ 308)
    (scaled : quotient x (powerOfTen k) = .finite z) :
    Format.double.Normal z.significand z.exponent :=
  normal_of_ofRatio (Nat.mul_pos (ratio_den_pos x) (powerOfTen_pos (Nat.lt_succ_of_le small))) scaled

-- the powers of ten are not to be computed where scaling is unfolded
seal powerOfTen in
theorem scaleBy_succ (exponent : ℤ) (x : Finite) (fuel : ℕ) :
    scaleBy exponent x (fuel + 1) =
      if exponent.natAbs ≤ 308 then
        match if 0 ≤ exponent then product x (powerOfTen exponent.natAbs)
          else quotient x (powerOfTen exponent.natAbs) with
        | .finite y => some y
        | _ => none
      else if x.isZero then some x
      else if 0 ≤ exponent then none
      else
        match quotient x (powerOfTen 308) with
        | .finite y => scaleBy (exponent + 308) y fuel
        | _ => none :=
  rfl

/-- Scaling leads from numbers of the format to numbers of the format. -/
theorem normal_scaleBy {exponent : ℤ} {x y : Finite} {fuel : ℕ}
    (normal : Format.double.Normal x.significand x.exponent)
    (scaled : scaleBy exponent x fuel = some y) :
    Format.double.Normal y.significand y.exponent := by
  induction fuel generalizing exponent x with
  | zero => exact Option.some.inj scaled ▸ normal
  | succ fuel ih =>
    rw [scaleBy_succ] at scaled
    split at scaled
    · rename_i small
      split at scaled
      · rename_i found
        cases scaled
        split at found
        · exact normal_product found
        · exact normal_quotient small found
      · cases scaled
    · split at scaled
      · exact Option.some.inj scaled ▸ normal
      · split at scaled
        · cases scaled
        · split at scaled
          · rename_i found
            exact ih (normal_quotient le_rfl found) scaled
          · cases scaled

theorem ofDigits_eq_some {lit : Literal} {value count : ℕ} {n : Number}
    (read : ofDigits lit value count = some n) :
    ∃ x, n = .real x ∧ Format.double.Normal x.significand x.exponent := by
  unfold ofDigits at read
  dsimp only at read
  split at read
  · rename_i found
    obtain ⟨y, scaled, rfl⟩ := Option.map_eq_some_iff.mp read
    have normal := normal_scaleBy (normal_of_ofRatio one_pos found) scaled
    exact ⟨_, rfl, normal⟩
  · cases read

theorem significand_le {value : ℕ} (small : value ≤ maxSignificand) (count : ℕ) (cs : List Char) :
    (significand value count cs).1 ≤ maxSignificand := by
  induction cs generalizing value count with
  | nil => exact small
  | cons c cs ih =>
    unfold significand
    dsimp only
    split
    · exact small
    · exact ih (not_lt.mp ‹_›) _

/-- What is read is proper, and what has a point or an exponent is read as a real number. -/
theorem ofLiteral_eq_some {lit : Literal} {n : Number} (read : ofLiteral lit = some n) :
    n.Proper ∧ (lit.IsReal → ∃ x, n = .real x) := by
  have bound := significand_le (Nat.zero_le _) 0 (lit.whole ++ lit.fraction)
  unfold ofLiteral at read
  generalize significand 0 0 (lit.whole ++ lit.fraction) = read' at bound read
  obtain ⟨value, count⟩ := read'
  dsimp only at bound read
  split at read
  · rename_i integer
    obtain ⟨bare, plain, -, small⟩ := integer
    have limit : (Int64.minValue.toInt.natAbs : ℤ) = 2 ^ 63 := by decide
    have most : (maxSignificand : ℤ) = 2 ^ 64 - 1 := by decide
    cases read
    refine ⟨?_, fun real => ?_⟩
    · by_cases negative : lit.negative = true
      · rw [if_pos negative]
        have := (small negative).2
        exact ⟨by omega, by omega⟩
      · rw [if_neg negative]
        exact ⟨by omega, by omega⟩
    · rcases real with fraction | exponent
      · exact absurd (List.isEmpty_iff.mp bare) fraction
      · exact absurd plain exponent
  · obtain ⟨x, rfl, normal⟩ := ofDigits_eq_some read
    exact ⟨normal, fun _ => ⟨x, rfl⟩⟩

/-! ## Numbers that are written -/

theorem digit?_eq_some {c : Char} {d : ℕ} (read : digit? c = some d) : c.toNat - 48 = d := by
  unfold digit? at read
  split at read
  · exact Option.some.inj read
  · cases read

theorem le_of_digitsFrom? {value n : ℕ} {cs : List Char} (read : digitsFrom? value cs = some n) :
    value ≤ n := by
  induction cs generalizing value with
  | nil => exact (Option.some.inj read).le
  | cons c cs ih =>
    unfold digitsFrom? at read
    split at read
    · exact le_trans (by omega) (ih read)
    · cases read

/-- The digits of a number that 64 bits hold are all read as its significand. -/
theorem significand_eq {value n : ℕ} {cs : List Char} (read : digitsFrom? value cs = some n)
    (small : n ≤ maxSignificand) (count : ℕ) :
    significand value count cs = (n, count + cs.length) := by
  induction cs generalizing value count with
  | nil => exact congrArg (·, count) (Option.some.inj read)
  | cons c cs ih =>
    unfold digitsFrom? at read
    cases digit : digit? c with
    | none =>
      rw [digit] at read
      cases read
    | some d =>
      rw [digit] at read
      have next := le_of_digitsFrom? read
      unfold significand
      dsimp only
      rw [digit?_eq_some digit, if_neg (by omega), ih read, List.length_cons]
      congr 1
      omega

/-- An integer that is written is read back. -/
theorem ofLiteral_literal {n : ℤ} (proper : (integer n).Proper) :
    ofLiteral (integer n).literal = some (.integer n) := by
  obtain ⟨low, high⟩ := proper
  have limit : (Int64.minValue.toInt.natAbs : ℤ) = 2 ^ 63 := by decide
  have most : (maxSignificand : ℤ) = 2 ^ 64 - 1 := by decide
  have all : significand 0 0 (digitsText n.natAbs ++ []) =
      (n.natAbs, (digitsText n.natAbs).length) := by
    have read := significand_eq (digitsFrom?_toDigits n.natAbs) (by omega) 0
    rw [List.append_nil, ← Nat.zero_add (digitsText n.natAbs).length]
    exact read
  simp only [ofLiteral, literal, all]
  rw [if_pos]
  · congr 2
    split
    · rename_i negative
      have : n < 0 := by simpa using negative
      omega
    · rename_i positive
      have : ¬n < 0 := by simpa using positive
      omega
  · refine ⟨rfl, trivial, trivial, fun negative => ?_⟩
    have : n < 0 := by simpa using negative
    omega

theorem literal_regular (n : Number) : n.literal.Regular := by
  cases n with
  | integer n =>
    refine ⟨digitsText_ne_nil _, isDigit_of_mem_digitsText, fun zero => ?_, by simp [literal]⟩
    rcases Nat.eq_zero_or_pos n.natAbs with none | some
    · simp only [literal, none]
      rfl
    · exact absurd zero (head?_toDigits some)
  | real x => exact (layout.laid x.negative (Format.double.shortest layout.tie x)).regular

theorem literal_isReal (x : Finite) : (real x).literal.IsReal :=
  (layout.laid x.negative (Format.double.shortest layout.tie x)).isReal

/-- A number that the reader takes for itself when it is written. Integers are kept, and so are most
others; but the reader rounds once for the digits and again for each power of ten, and so it may
come to a neighbour of a number that was written. -/
def Kept (n : Number) : Prop := ofLiteral n.literal = some n

instance : DecidablePred Kept := fun n => inferInstanceAs (Decidable (ofLiteral n.literal = some n))

/-- What a number denotes: the integer that it is read as, or the floating-point number that is
nearest to it. -/
def denoted (lit : Literal) : Option Number :=
  match ofLiteral lit with
  | some (.integer n) => some (.integer n)
  | _ =>
    match Format.double.nearestTo lit with
    | .finite x => some (.real x)
    | _ => none

/-- What is written of a number denotes it. -/
theorem denoted_literal {n : Number} (proper : n.Proper) : denoted n.literal = some n := by
  unfold denoted
  cases n with
  | integer n => rw [ofLiteral_literal proper]
  | real x =>
    have nearest : Format.double.nearestTo (real x).literal = .finite x :=
      legible_double.nearestTo_shortest layout proper
    cases read : ofLiteral (real x).literal with
    | none => rw [nearest]
    | some n =>
      obtain ⟨y, rfl⟩ := (ofLiteral_eq_some read).2 (literal_isReal x)
      rw [nearest]

/-- The number `9.204938554384977` is written so and denoted by that, but read one unit lower. -/
example : ¬ Kept (.real ⟨false, 5181919730437062, -49⟩) := by decide +kernel

end Number

end AnalysisPanel.Json
