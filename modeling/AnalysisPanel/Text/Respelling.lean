import AnalysisPanel.Text.Numeral

/-! Tables of what is written instead of characters. A table is a text of words with blanks between
them. A word says which characters it is about, then has an equals sign, then what replaces them:
code points in hexadecimal with points between them. -/

namespace AnalysisPanel.Text

/-- What replaces every code point from `first` to `last`, by steps of `stride`. The head of `image`
is what replaces the first one, and goes on from one to the next by the same steps. -/
structure Respelling where
  first : Nat
  last : Nat
  stride : Nat
  image : List Nat
  deriving DecidableEq, Inhabited

/-- A code point in hexadecimal. -/
def codePoint (digits : List Char) : Nat :=
  digits.foldl (fun n c => 16 * n + (hexDigit? c).getD 0) 0

namespace Respelling

/-- Reads a word. Without a code point it is about the one after `previous`; a hyphen leads to the
last of consecutive code points, a slash to the last of every other one. -/
def ofWord (previous : Nat) (word : List Char) : Respelling :=
  let source := word.takeWhile (· != '=')
  let image := (word.drop (source.length + 1)).splitOn '.'
  let start := source.takeWhile Char.isAlphanum
  let finish := source.drop (start.length + 1)
  let first := if start.isEmpty then previous + 1 else codePoint start
  { first
    last := if finish.isEmpty then first else codePoint finish
    stride := if source.contains '/' then 2 else 1
    image := (image.filter (!·.isEmpty)).map codePoint }

/-- Reads words, of which the one before them ended at `previous`. -/
def ofWords (previous : Nat) : List (List Char) → List Respelling
  | [] => []
  | word :: rest =>
    let r := ofWord previous word
    r :: ofWords r.last rest

/-- Reads a table. -/
def read (table : String) : List Respelling :=
  ofWords 0 ((table.toList.splitOnP Char.isWhitespace).filter (!·.isEmpty))

/-- What replaces a code point. -/
def image? (r : Respelling) (n : Nat) : Option (List Nat) :=
  if r.first ≤ n ∧ n ≤ r.last ∧ (n - r.first) % r.stride = 0 then
    match r.image with
    | head :: tail => some ((head + (n - r.first)) :: tail)
    | [] => some []
  else none

end Respelling

/-- What a table writes instead of a character it names. -/
def respelled? (table : List Respelling) (c : Char) : Option (List Char) :=
  (table.findSome? (·.image? c.toNat)).map (·.map Char.ofNat)

end AnalysisPanel.Text
