import AnalysisPanel.Text.Composition
import AnalysisPanel.Text.Direction
import AnalysisPanel.Text.Joining
import AnalysisPanel.Url.NameSpelling
import AnalysisPanel.Url.Punycode

/-! Labels: the parts of the name of a host. A label of more than ASCII is written in ASCII behind
four characters of its own, and must be one that can be told from others by looking at it. -/

namespace AnalysisPanel.Url

open Text

/-- A label as it looks and as it is written. -/
structure Label where
  plain : List Char
  written : List Char
  deriving DecidableEq, Inhabited

/-- Whether a text is of ASCII only. -/
def isAscii (cs : List Char) : Bool := cs.all (·.toNat < 0x80)

/-! ### Joiners -/

/-- The character that keeps those beside it from joining. -/
def nonJoiner : Char := Char.ofNat 0x200C

/-- The character that asks those beside it to join. -/
def joiner : Char := Char.ofNat 0x200D

/-- Whether what joins to a text on its near side meets a character that takes it. -/
def meets (takes : Char → Bool) (cs : List Char) : Bool :=
  (cs.dropWhile isTransparent).head?.any takes

/-- Whether `c` may stand between two texts, of which the one before it is given last character
first. A joiner shows only after a virama, and a non-joiner also where it keeps two from joining. -/
def mayStand (before : List Char) (c : Char) (after : List Char) : Bool :=
  if c = joiner ∨ c = nonJoiner then
    before.head?.any (combiningClass · == viramaClass) ||
      (c == nonJoiner && meets joinsNext before && meets joinsPrevious after)
  else true

/-- Whether all characters may stand where they do, after a text given last character first. -/
def allStand (before : List Char) : List Char → Bool
  | [] => true
  | c :: rest => mayStand before c rest && allStand (c :: before) rest

/-! ### Directions -/

/-- Whether a direction makes a name one that mixes directions. -/
def isLeftward (d : Direction) : Bool :=
  [.rightToLeft, .arabicLetter, .arabicNumber].contains d

/-- Directions that fit into a label of either direction. -/
def isPliable (d : Direction) : Bool :=
  [.europeanNumber, .europeanSeparator, .europeanTerminator, .commonSeparator, .neutral,
    .boundaryNeutral, .nonspacingMark].contains d

/-- Whether a label keeps its order next to labels of other directions. -/
def keepsOrder (label : List Char) : Bool :=
  let all := label.map directionOf
  let ds := (all.reverse.dropWhile (· == .nonspacingMark)).reverse
  match ds.head?, ds.getLast? with
  | some .leftToRight, some last =>
    ds.all (fun d => d == .leftToRight || isPliable d) &&
      [.leftToRight, .europeanNumber].contains last
  | some .rightToLeft, some last
  | some .arabicLetter, some last =>
    ds.all (fun d => isLeftward d || isPliable d) && (isLeftward last || last == .europeanNumber) &&
      !(ds.contains .europeanNumber && ds.contains .arabicNumber)
  | _, _ => all.isEmpty

/-! ### Reading -/

/-- How many characters a label of more than ASCII may have. -/
def maxPlain : Nat := 1000

/-- How many characters may stand behind the first four of a label that is written in ASCII. -/
def maxWritten : Nat := 2000

/-- Whether a label of more than ASCII looks like one. -/
def isPresentable (label : List Char) : Bool :=
  label.length ≤ maxPlain && !label.head?.any isMark && allStand [] label

/-- Whether a text is already spelled and composed as names are. -/
def isSettled (cs : List Char) : Bool := (spell? cs).map compose == some cs

/-- The characters that a label written in ASCII begins with. -/
def writtenMark : List Char := "xn--".toList

/-- Reads what stands behind the first four characters of a label written in ASCII. -/
def Label.ofWritten? (cs : List Char) : Option Label :=
  match if cs.length ≤ maxWritten then Punycode.decode? cs else none with
  | some plain =>
    if !isAscii plain ∧ isSettled plain ∧ isPresentable plain ∧ Punycode.encode plain = cs then
      some ⟨plain, writtenMark ++ cs⟩
    else none
  | none => none

/-- Reads a label that is spelled and composed as names are. -/
def Label.ofText? (cs : List Char) : Option Label :=
  if writtenMark.isPrefixOf cs then ofWritten? (cs.drop writtenMark.length)
  else if isAscii cs then some ⟨cs, cs⟩
  else if isPresentable cs then some ⟨cs, writtenMark ++ Punycode.encode cs⟩
  else none

end AnalysisPanel.Url
