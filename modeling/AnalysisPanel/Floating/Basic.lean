/-! Binary floating-point numbers as exact integers: a significand times a power of two, and the
rounding of a ratio to the nearest such number. -/

namespace AnalysisPanel.Floating

/-- A binary format: the bits of a significand, and the least and the greatest power of two that
may scale it. -/
structure Format where
  precision : Nat
  minExponent : Int
  maxExponent : Int

/-- Thirty-two bits. -/
def Format.single : Format := ⟨24, -149, 104⟩

/-- Sixty-four bits. -/
def Format.double : Format := ⟨53, -1074, 971⟩

/-- The number `±significand · 2 ^ exponent`; the sign of a zero counts. -/
structure Finite where
  negative : Bool
  significand : Nat
  exponent : Int
  deriving DecidableEq, Inhabited

/-- A number of some format. -/
inductive Number where
  | finite (x : Finite)
  | infinite (negative : Bool)
  | nan
  deriving DecidableEq, Inhabited

/-- The integer nearest to a ratio; a half goes to the even neighbour. -/
def roundDiv (num den : Nat) : Nat :=
  let q := num / den
  let r := num % den
  if 2 * r < den then q else if den < 2 * r then q + 1 else q + q % 2

/-- The ratio `num / den / 2 ^ e` as a numerator and a denominator. -/
def unscale (num den : Nat) (e : Int) : Nat × Nat :=
  if 0 ≤ e then (num, den * Nat.pow 2 e.toNat) else (num * Nat.pow 2 (-e).toNat, den)

/-- The power of two by which a significand nearest to a ratio is scaled. -/
def Format.exponentOf (f : Format) (num den : Nat) : Int :=
  let estimate := max f.minExponent ((num.log2 : Int) - den.log2 - f.precision)
  let scaled := unscale num den estimate
  if scaled.1 / scaled.2 < Nat.pow 2 f.precision then estimate else estimate + 1

/-- The significand and exponent nearest to a ratio, or nothing when it is out of range. -/
def Format.nearest (f : Format) (num den : Nat) : Option (Nat × Int) :=
  if num = 0 then some (0, f.minExponent)
  else
    let e := f.exponentOf num den
    let scaled := unscale num den e
    let m := roundDiv scaled.1 scaled.2
    let rounded :=
      if m = Nat.pow 2 f.precision then (Nat.pow 2 (f.precision - 1), e + 1) else (m, e)
    if f.maxExponent < rounded.2 then none else some rounded

/-- The number of the format nearest to a signed ratio, infinite when it is out of range. -/
def Format.ofRatio (f : Format) (negative : Bool) (num den : Nat) : Number :=
  match f.nearest num den with
  | some (m, e) => .finite ⟨negative, m, e⟩
  | none => .infinite negative

/-- The magnitude as a numerator and a denominator. -/
def Finite.ratio (x : Finite) : Nat × Nat :=
  if 0 ≤ x.exponent then (x.significand * Nat.pow 2 x.exponent.toNat, 1)
  else (x.significand, Nat.pow 2 (-x.exponent).toNat)

/-- Whether the number is a zero of either sign. -/
def Finite.isZero (x : Finite) : Bool := x.significand == 0

/-- Numeric equality: the two zeros are equal. -/
def Finite.numEq (x y : Finite) : Bool := x == y || (x.isZero && y.isZero)

/-- Numeric equality: the two zeros are equal and no number equals `nan`, itself included. -/
def Number.numEq : Number → Number → Bool
  | .finite x, .finite y => x.numEq y
  | .infinite s, .infinite t => s == t
  | _, _ => false

end AnalysisPanel.Floating
