import AnalysisPanel.Floating.Basic
import AnalysisPanel.Text.Numeral

/-! Decimal numerals and floating-point numbers: the number nearest to a numeral, and the shortest
numeral that reads back as a given number. -/

namespace AnalysisPanel.Floating

open Text

/-- The magnitude `digits · 10 ^ exponent`. -/
structure Decimal where
  digits : Nat
  exponent : Int
  deriving DecidableEq, Inhabited

/-- How many decimal digits a number has. -/
def digitCount (n : Nat) : Nat := (Nat.toDigits 10 n).length

/-- The magnitude as a numerator and a denominator. -/
def Decimal.ratio (d : Decimal) : Nat × Nat :=
  if 0 ≤ d.exponent then (d.digits * Nat.pow 10 d.exponent.toNat, 1)
  else (d.digits, Nat.pow 10 (-d.exponent).toNat)

/-- The power of ten from which no format here reaches, upwards or downwards. -/
def decimalReach : Int := 400

/-- The number of a format nearest to a signed decimal. -/
def Format.ofDecimal (f : Format) (negative : Bool) (d : Decimal) : Number :=
  let leading := d.exponent + digitCount d.digits
  if d.digits = 0 ∨ leading < -decimalReach then .finite ⟨negative, 0, f.minExponent⟩
  else if decimalReach < leading then .infinite negative
  else f.ofRatio negative d.ratio.1 d.ratio.2

/-! ### Reading -/

/-- The digits a text begins with, and the text after them. -/
def spanDigits (cs : List Char) : List Char × List Char :=
  (cs.takeWhile Char.isDigit, cs.dropWhile Char.isDigit)

/-- An exponent part: nothing, or `e` with an optional sign and at least one digit. -/
def exponentPart? : List Char → Option Int
  | [] => some 0
  | c :: rest =>
    if c = 'e' ∨ c = 'E' then
      match rest with
      | '-' :: ds => (digits? ds).map fun n => -(n : Int)
      | '+' :: ds => (digits? ds).map fun n => (n : Int)
      | ds => (digits? ds).map fun n => (n : Int)
    else none

/-- A numeral without sign: digits with at most one point among or around them, then an optional
exponent. -/
def decimal? (cs : List Char) : Option Decimal :=
  let (whole, rest) := spanDigits cs
  let (fraction, rest) := match rest with
    | '.' :: rest => spanDigits rest
    | rest => ([], rest)
  match digits? (whole ++ fraction), exponentPart? rest with
  | some n, some e => some ⟨n, e - fraction.length⟩
  | _, _ => none

/-- A numeral with an optional sign, as the nearest number of a format. -/
def Format.read? (f : Format) (cs : List Char) : Option Number :=
  match cs with
  | '-' :: rest => (decimal? rest).map (f.ofDecimal true)
  | '+' :: rest => (decimal? rest).map (f.ofDecimal false)
  | cs => (decimal? cs).map (f.ofDecimal false)

/-! ### Shortest numerals -/

/-- The magnitudes that round to a number: its value and the two ends, over one denominator. The
ends belong to the interval when the significand is even. -/
structure Rounding where
  low : Nat
  value : Nat
  high : Nat
  den : Nat
  closed : Bool

/-- The magnitudes that round to `m · 2 ^ e`. Below a power of two the numbers lie half as far
apart, so there the interval reaches half as far down. -/
def Format.rounding (f : Format) (m : Nat) (e : Int) : Rounding :=
  let below := if m = Nat.pow 2 (f.precision - 1) ∧ f.minExponent < e then 1 else 2
  let up := if 2 ≤ e then Nat.pow 2 (e - 2).toNat else 1
  let den := if 2 ≤ e then 1 else Nat.pow 2 (2 - e).toNat
  ⟨(4 * m - below) * up, 4 * m * up, (4 * m + 2) * up, den, m % 2 == 0⟩

/-- The interval measured in units of `10 ^ g`. -/
def Rounding.inUnits (r : Rounding) (g : Int) : Rounding :=
  if 0 ≤ g then { r with den := r.den * Nat.pow 10 g.toNat }
  else
    let s := Nat.pow 10 (-g).toNat
    { r with low := r.low * s, value := r.value * s, high := r.high * s }

/-- Whether a whole number of units lies in the interval. -/
def Rounding.holds (r : Rounding) (n : Nat) : Bool :=
  if r.closed then r.low ≤ n * r.den && n * r.den ≤ r.high
  else r.low < n * r.den && n * r.den < r.high

/-- Which of two neighbours is taken when both are equally near: the even one, or the one further
from zero. -/
inductive Tie where
  | toEven
  | away
  deriving DecidableEq, Inhabited

/-- Settles a tie between a number and its successor. -/
def Tie.settle (tie : Tie) (n : Nat) : Nat :=
  match tie with
  | .toEven => n + n % 2
  | .away => n + 1

/-- The whole number of units nearest to the value among those in the interval. -/
def Rounding.pick? (r : Rounding) (tie : Tie) : Option Nat :=
  let n := r.value / r.den
  match r.holds n, r.holds (n + 1) with
  | true, true =>
    let down := r.value - n * r.den
    let up := (n + 1) * r.den - r.value
    some (if down < up then n else if up < down then n + 1 else tie.settle n)
  | true, false => some n
  | false, true => some (n + 1)
  | false, false => none

/-- The power of ten of the value's leading digit. -/
def Rounding.leading (r : Rounding) : Int :=
  if r.den ≤ r.value then (digitCount (r.value / r.den) : Int) - 1
  else -(digitCount ((r.den - 1) / r.value) : Int)

/-- Tries `count` grids from `10 ^ g` downwards, each ten times finer than the one before. -/
def Rounding.search (r : Rounding) (tie : Tie) (g : Int) : Nat → Decimal
  | 0 => ⟨((r.inUnits g).value) / (r.inUnits g).den, g⟩
  | count + 1 =>
    match (r.inUnits g).pick? tie with
    | some n => ⟨n, g⟩
    | none => r.search tie (g - 1) count

/-- Drops the zeros that digits end with. -/
def Decimal.strip : Nat → Decimal → Decimal
  | 0, d => d
  | fuel + 1, d =>
    if d.digits ≠ 0 ∧ d.digits % 10 = 0 then Decimal.strip fuel ⟨d.digits / 10, d.exponent + 1⟩
    else d

/-- The decimal with the fewest digits that reads back as the number, and of those the nearest. -/
def Format.shortest (f : Format) (tie : Tie) (x : Finite) : Decimal :=
  if x.significand = 0 then ⟨0, 0⟩
  else
    let r := f.rounding x.significand x.exponent
    Decimal.strip 20 (r.search tie r.leading (f.precision * 3 / 10 + 2))

/-! ### Writing -/

/-- A number as it is written: its sign, its digits before and after the point, and its exponent if
it has one. -/
structure Numeral where
  negative : Bool
  whole : List Char
  fraction : List Char
  exponent : Option Int
  deriving DecidableEq, Inhabited

/-- Writes a numeral. Without digits after it there is no point. -/
def Numeral.text (n : Numeral) : String :=
  let sign := if n.negative then ['-'] else []
  let fraction := if n.fraction.isEmpty then [] else '.' :: n.fraction
  let exponent := match n.exponent with
    | some e => 'e' :: (toString e).toList
    | none => []
  String.ofList (sign ++ n.whole ++ fraction ++ exponent)

/-- How a number is written: in positions when its point stands after more than `lowest` and at most
`highest` places, elsewhere with an exponent. -/
structure Layout where
  lowest : Int
  highest : Int
  tie : Tie

/-- Decimal digits of a number. -/
def digitsText (n : Nat) : List Char := Nat.toDigits 10 n

/-- Lays out a decimal; one in positions always has a digit after its point. -/
def Layout.numeral (layout : Layout) (negative : Bool) (d : Decimal) : Numeral :=
  let ds := digitsText d.digits
  let point : Int := ds.length + d.exponent
  if d.digits = 0 then ⟨negative, ['0'], ['0'], none⟩
  else if 0 ≤ d.exponent ∧ point ≤ layout.highest then
    ⟨negative, ds ++ List.replicate d.exponent.toNat '0', ['0'], none⟩
  else if 0 < point ∧ point ≤ layout.highest then
    ⟨negative, ds.take point.toNat, ds.drop point.toNat, none⟩
  else if layout.lowest < point ∧ point ≤ 0 then
    ⟨negative, ['0'], List.replicate (-point).toNat '0' ++ ds, none⟩
  else ⟨negative, ds.take 1, ds.drop 1, some (point - 1)⟩

/-- The shortest numeral of a number of a format. -/
def Layout.shortest (layout : Layout) (f : Format) (x : Finite) : Numeral :=
  layout.numeral x.negative (f.shortest layout.tie x)

end AnalysisPanel.Floating
