import AnalysisPanel.Json.Basic
import AnalysisPanel.Floating.Decimal

/-! Numbers of JSON: as written, and as read. A number without point or exponent that 64 bits hold
is an integer; any other is a floating-point number. -/

namespace AnalysisPanel.Json

open Floating

/-- A number as written. -/
abbrev Literal := Numeral

/-- A number as read. -/
inductive Number where
  | integer (n : Int)
  | real (x : Finite)
  deriving DecidableEq, Inhabited

/-- What a text says, strings that spell no text included. -/
abbrev Draft := Json Literal (Option String)

/-- What a text says. -/
abbrev Document := Json Literal

/-- What a text means. -/
abbrev Value := Json Number

namespace Number

/-- The greatest significand that is read exactly. -/
def maxSignificand : Nat := UInt64.size - 1

/-- Reads digits for as long as 64 bits hold their value: the value, and how many were read. -/
def significand (value count : Nat) : List Char → Nat × Nat
  | [] => (value, count)
  | c :: rest =>
    let next := 10 * value + (c.toNat - 48)
    if maxSignificand < next then (value, count) else significand next (count + 1) rest

/-- The floating-point number nearest to a product. -/
def product (x y : Finite) : Floating.Number :=
  Format.double.ofRatio false (x.ratio.1 * y.ratio.1) (x.ratio.2 * y.ratio.2)

/-- The floating-point number nearest to a quotient. -/
def quotient (x y : Finite) : Floating.Number :=
  Format.double.ofRatio false (x.ratio.1 * y.ratio.2) (x.ratio.2 * y.ratio.1)

/-- The floating-point number nearest to a power of ten up to `10 ^ 308`. -/
def powerOfTen (k : Nat) : Finite :=
  match Format.double.ofRatio false (Nat.pow 10 k) 1 with
  | .finite x => x
  | _ => ⟨false, 0, Format.double.minExponent⟩

/-- Scales a number by a power of ten, in steps of at most `10 ^ 308`, each of them rounded.
Nothing when the result is out of range. -/
def scaleBy (exponent : Int) (x : Finite) : Nat → Option Finite
  | 0 => some x
  | fuel + 1 =>
    if exponent.natAbs ≤ 308 then
      let pow := powerOfTen exponent.natAbs
      match if 0 ≤ exponent then product x pow else quotient x pow with
      | .finite y => some y
      | _ => none
    else if x.isZero then some x
    else if 0 ≤ exponent then none
    else
      match quotient x (powerOfTen 308) with
      | .finite y => scaleBy (exponent + 308) y fuel
      | _ => none

/-- A floating-point number from its digits: as many leading ones as 64 bits hold, scaled by the
power of ten that the rest of them and the exponent call for. -/
def ofDigits (lit : Literal) (value count : Nat) : Option Number :=
  let exponent : Int := lit.whole.length - count + lit.exponent.getD 0
  match Format.double.ofRatio false value 1 with
  | .finite x => (scaleBy exponent x 8).map fun y => .real { y with negative := lit.negative }
  | _ => none

/-- Reads a number. Nothing when it is out of range. -/
def ofLiteral (lit : Literal) : Option Number :=
  let (value, count) := significand 0 0 (lit.whole ++ lit.fraction)
  if lit.fraction.isEmpty ∧ lit.exponent = none ∧ count = lit.whole.length ∧
      (lit.negative → value ≠ 0 ∧ value ≤ Int64.minValue.toInt.natAbs) then
    some (.integer (if lit.negative then -(value : Int) else value))
  else ofDigits lit value count

/-- Where the text of a floating-point number has an exponent, and how its ties go. -/
def layout : Layout := ⟨-5, 16, .toEven⟩

/-- How a number is written; a floating-point number always shows a point or an exponent. -/
def literal : Number → Literal
  | .integer n => ⟨n < 0, digitsText n.natAbs, [], none⟩
  | .real x => layout.shortest Format.double x

end Number

/-- What a document means, or nothing when a number is out of range. -/
def Document.value? (doc : Document) : Option Value := doc.mapNumbers? Number.ofLiteral

/-- The text that a string spells. -/
def Draft.text? (draft : Draft) : Option String := draft.string?.join

/-- The document that a draft is, if all of its strings and keys spell texts. -/
def Draft.document? (draft : Draft) : Option Document := draft.spelled?

/-- What a draft means, if it is a document. -/
def Draft.value? (draft : Draft) : Option Value := draft.document?.bind Document.value?

/-- The value of a draft that is a document of no more levels than some number. -/
def Draft.valueWithin? (depth : Nat) (draft : Draft) : Option Value :=
  draft.document?.bind fun doc => if doc.levels ≤ depth then doc.value? else none

/-- A document as a draft. -/
def Document.draft (doc : Document) : Draft := doc.mapStrings some

/-- A document that says what a value means. -/
def Value.document (v : Value) : Document := v.mapNumbers Number.literal

/-- An integer. -/
def int (n : Int) : Value := .number (.integer n)

/-- A natural number. -/
def nat (n : Nat) : Value := int n

end AnalysisPanel.Json
