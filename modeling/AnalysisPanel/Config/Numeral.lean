import AnalysisPanel.Floating.Decimal

/-! Numerals of configuration texts. An integer has an optional sign, a base, digits that low lines
may part, and an optional suffix that names its width; a floating-point numeral has a point or an
exponent, or is a word for what is not finite. -/

namespace AnalysisPanel.Config

open Floating Text

/-- The text without a suffix, and whether it had it. -/
def dropSuffix (suffix : String) (cs : List Char) : List Char × Bool :=
  if suffix.toList.isSuffixOf cs then (cs.take (cs.length - suffix.length), true) else (cs, false)

/-! ### Integers -/

/-- The sign a numeral begins with, and what follows it. -/
def splitSign : List Char → Bool × List Char
  | '-' :: rest => (true, rest)
  | '+' :: rest => (false, rest)
  | cs => (false, cs)

/-- The base a numeral begins with, and what follows it. -/
def splitBase : List Char → Nat × List Char
  | '0' :: 'b' :: rest => (2, rest)
  | '0' :: 'o' :: rest => (8, rest)
  | '0' :: 'x' :: rest => (16, rest)
  | cs => (10, cs)

/-- Digits of a base read onto the value of those before them. -/
def digitsIn? (base value : Nat) : List Char → Option Nat
  | [] => some value
  | c :: rest =>
    if c = '_' then digitsIn? base value rest
    else
      match hexDigit? c with
      | some d => if d < base then digitsIn? base (base * value + d) rest else none
      | none => none

/-- The integer that a numeral without suffix writes. Its first digit is no low line. -/
def integer? (cs : List Char) : Option Int :=
  let (negative, unsigned) := splitSign cs
  let (base, digits) := splitBase unsigned
  match digits with
  | [] => none
  | c :: _ =>
    if c = '_' then none
    else (digitsIn? base 0 digits).map fun n => if negative then -(n : Int) else n

/-- A natural number of some bits; the suffix of that width may follow it. -/
def natural? (bits : Nat) (cs : List Char) : Option Nat :=
  match integer? (dropSuffix ("u" ++ toString bits) cs).1 with
  | some n => if 0 ≤ n ∧ n.toNat < Nat.pow 2 bits then some n.toNat else none
  | none => none

/-- Widths of integers. -/
def widths : List Nat := [8, 16, 32, 64]

/-- Whether a numeral is an integer of the width that its suffix names. -/
def isSuffixedInteger (cs : List Char) : Bool :=
  widths.any fun bits =>
    let (body, signed) := dropSuffix ("i" ++ toString bits) cs
    let half : Int := Nat.pow 2 (bits - 1)
    ((dropSuffix ("u" ++ toString bits) cs).2 && (natural? bits cs).isSome) ||
      (signed && (integer? body).any fun n => -half ≤ n && n < half)

/-- Whether a numeral is an integer. -/
def isInteger (cs : List Char) : Bool :=
  ((integer? cs).any fun n => Int64.minValue.toInt ≤ n && n < UInt64.size) ||
    isSuffixedInteger cs

/-! ### Floating-point numbers -/

/-- The words for what is not finite. -/
def notFinite? (cs : List Char) : Option Number :=
  let (negative, unsigned) := splitSign cs
  if unsigned = "inf".toList then some (.infinite negative)
  else if unsigned = "NaN".toList then some .nan
  else none

/-- Whether low lines may follow a character, when they might before it. -/
def allowsLowLine (before : Bool) (c : Char) : Bool :=
  if c.isDigit || c == 'e' || c == 'E' then true else if c == '.' then false else before

/-- A numeral without its low lines; none may stand first or follow the point. -/
def withoutLowLines? (allowed : Bool) : List Char → Option (List Char)
  | [] => some []
  | c :: rest =>
    if c = '_' then if allowed then withoutLowLines? allowed rest else none
    else (withoutLowLines? (allowsLowLine allowed c) rest).map (c :: ·)

/-- Reads a floating-point numeral without suffix. -/
def floating? (f : Format) (cs : List Char) : Option Number :=
  match notFinite? cs with
  | some x => some x
  | none => (withoutLowLines? false cs).bind f.read?

/-- A number of single precision; the suffix of that width may follow it. -/
def single? (cs : List Char) : Option Number := floating? .single (dropSuffix "f32" cs).1

/-- Whether a numeral is a floating-point number of either precision. -/
def isFloating (cs : List Char) : Bool :=
  (single? cs).isSome || (floating? .double (dropSuffix "f64" cs).1).isSome

/-- Whether a text is a numeral. -/
def isNumeral (cs : List Char) : Bool := isFloating cs || isInteger cs

/-- Whether a numeral may hold a character. -/
def isNumeralChar (c : Char) : Bool :=
  c.isAlphanum || c == '_' || c == '.' || c == '+' || c == '-'

/-- The characters of a numeral at the start of a text. Two points do not belong to it: they make a
range of it. -/
def numeralSpan : List Char → List Char
  | [] => []
  | '.' :: '.' :: _ => []
  | c :: rest => if isNumeralChar c then c :: numeralSpan rest else []

end AnalysisPanel.Config
