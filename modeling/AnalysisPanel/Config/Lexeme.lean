import AnalysisPanel.Config.Numeral
import AnalysisPanel.Text.Identifier
import AnalysisPanel.Text.Utf8

/-! The smallest parts of configuration texts: blanks and comments, words, and quoted texts. -/

namespace AnalysisPanel.Config

open Text

/-! ### Blanks -/

/-- The blanks of configuration texts: the Unicode property `Pattern_White_Space`. -/
def isBlank (c : Char) : Bool :=
  let n := c.toNat
  (0x9 ≤ n && n ≤ 0xD) || n == 0x20 || n == 0x85 || n == 0x200E || n == 0x200F || n == 0x2028 ||
    n == 0x2029

/-- The text after a comment in stars, within which `level` more are open. -/
def afterComment? (level : Nat) : List Char → Option (List Char)
  | '/' :: '*' :: rest => afterComment? (level + 1) rest
  | '*' :: '/' :: rest =>
    match level with
    | 0 => some rest
    | level + 1 => afterComment? level rest
  | _ :: rest => afterComment? level rest
  | [] => none

/-- Skips blanks and comments, of which at most `fuel` follow each other. -/
def skipWith : Nat → List Char → Option (List Char)
  | 0, _ => none
  | fuel + 1, cs =>
    match cs.dropWhile isBlank with
    | '/' :: '/' :: rest => skipWith fuel (rest.dropWhile (· != '\n'))
    | '/' :: '*' :: rest => (afterComment? 0 rest).bind (skipWith fuel)
    | '/' :: _ => none
    | rest => some rest

/-- Skips blanks and comments. Nothing when a comment does not end, or a slash begins none. -/
def skip? (cs : List Char) : Option (List Char) := skipWith (cs.length + 1) cs

/-- Skips blanks and takes an expected character. -/
def expect? (c : Char) (cs : List Char) : Option (List Char) :=
  match skip? cs with
  | some (d :: rest) => if c = d then some rest else none
  | _ => none

/-- Takes a comma between blanks if there is one. -/
def comma? (cs : List Char) : Option (Bool × List Char) :=
  match skip? cs with
  | some (',' :: rest) => (skip? rest).map (true, ·)
  | some rest => some (false, rest)
  | none => none

/-! ### Words -/

/-- Whether a word may begin with a character. -/
def startsWord (c : Char) : Bool := identifierStart.has c || c == '_'

/-- Whether a raw word may hold a character. -/
def isRawChar (c : Char) : Bool :=
  identifierContinue.has c || c == '.' || c == '+' || c == '-'

/-- A word: whether it is raw, its name, and the text after it. Beginnings of quoted texts are no
words. -/
def word? (cs : List Char) : Option (Bool × String × List Char) :=
  match cs with
  | 'b' :: '"' :: _ => none
  | 'b' :: '\'' :: _ => none
  | 'b' :: 'r' :: '#' :: _ => none
  | 'b' :: 'r' :: '"' :: _ => none
  | 'r' :: '"' :: _ => none
  | 'r' :: '#' :: rest =>
    let name := rest.takeWhile isRawChar
    if name.isEmpty then none else some (true, String.ofList name, rest.drop name.length)
  | c :: rest =>
    if startsWord c then
      let more := rest.takeWhile identifierContinue.has
      some (false, String.ofList (c :: more), rest.drop more.length)
    else none
  | [] => none

/-- The name of a field, and the text after it. -/
def fieldName? (cs : List Char) : Option (String × List Char) := (word? cs).map (·.2)

/-! ### Quoted texts -/

/-- The octet that two hexadecimal digits write, and the text after them. -/
def octet? : List Char → Option (UInt8 × List Char)
  | a :: b :: rest =>
    match hexDigit? a, hexDigit? b with
    | some a, some b => some ((16 * a + b).toUInt8, rest)
    | _, _ => none
  | _ => none

/-- The character of an octet and of those in escapes after it: `more` may follow the first. -/
def octetsChar? (more : Nat) (octets : Bytes) (cs : List Char) : Option (Char × List Char) :=
  match Utf8.decode octets with
  | some [c] => some (c, cs)
  | _ =>
    match more, cs with
    | more + 1, '\\' :: 'x' :: rest =>
      match octet? rest with
      | some (b, rest) => octetsChar? more (octets ++ [b]) rest
      | none => none
    | _, _ => none

/-- The scalar value of a number. -/
def scalar? (n : Nat) : Option Char := if n.isValidChar then some (Char.ofNat n) else none

/-- The character that one to six hexadecimal digits in braces name, and the text after them. -/
def braced? (cs : List Char) : Option (Char × List Char) :=
  let digits := cs.takeWhile (· != '\x7d')
  if digits.isEmpty || 6 < digits.length then none
  else
    match digits.mapM hexDigit?, cs.drop digits.length with
    | some ds, _ :: rest => (scalar? (ds.foldl (16 * · + ·) 0)).map (·, rest)
    | _, _ => none

/-- The character of an escape after its backslash, where `more` octets may write one character
together, and the text after it. -/
def escape? (more : Nat) : List Char → Option (Char × List Char)
  | '\'' :: rest => some ('\'', rest)
  | '"' :: rest => some ('"', rest)
  | '\\' :: rest => some ('\\', rest)
  | 'n' :: rest => some ('\n', rest)
  | 'r' :: rest => some ('\r', rest)
  | 't' :: rest => some ('\t', rest)
  | '0' :: rest => some ('\x00', rest)
  | 'x' :: rest => (octet? rest).bind fun r => octetsChar? more [r.1] r.2
  | 'u' :: '\x7b' :: rest => braced? rest
  | _ => none

/-- An escape in a text of octets. -/
def octetEscape? : List Char → Option (Bytes × List Char)
  | 'x' :: rest => (octet? rest).map fun r => ([r.1], r.2)
  | cs => (escape? 0 cs).map fun r => (Utf8.encodeChar r.1, r.2)

/-- The text after a backslash and a line end, without the blanks that lead on to where it goes on.
Nothing when no line ends there. -/
def continued? : List Char → Option (List Char)
  | '\n' :: rest => some (rest.dropWhile isLeading)
  | '\r' :: '\n' :: rest => some (rest.dropWhile isLeading)
  | _ => none
where
  /-- Blanks that do not count at the start of a line that goes on with a text. -/
  isLeading (c : Char) : Bool := c == ' ' || c == '\t' || c == '\n' || c == '\r'

/-- The parts of a text up to its closing quote, read by at most `fuel` steps, and the text after
it. A backslash at the end of a line stands for nothing. -/
def quotedWith {α : Type} (plain : Char → List α)
    (escape : List Char → Option (List α × List Char)) :
    Nat → List Char → Option (List α × List Char)
  | 0, _ => none
  | fuel + 1, cs =>
    match cs with
    | [] => none
    | '"' :: rest => some ([], rest)
    | '\\' :: rest =>
      match continued? rest, escape rest with
      | some rest, _ => quotedWith plain escape fuel rest
      | none, some (xs, rest) =>
        (quotedWith plain escape fuel rest).map fun r => (xs ++ r.1, r.2)
      | none, none => none
    | c :: rest => (quotedWith plain escape fuel rest).map fun r => (plain c ++ r.1, r.2)

/-- A text after its opening quote. -/
def quoted? (cs : List Char) : Option (List Char × List Char) :=
  quotedWith ([·]) (fun cs => (escape? 3 cs).map fun r => ([r.1], r.2)) cs.length cs

/-- A text of octets after its opening quote. -/
def quotedOctets? (cs : List Char) : Option (Bytes × List Char) :=
  quotedWith Utf8.encodeChar octetEscape? cs.length cs

/-- The text up to a closing mark, and the text after the mark. -/
def upTo? (mark : List Char) : List Char → Option (List Char × List Char)
  | [] => none
  | c :: rest =>
    if mark.isPrefixOf (c :: rest) then some ([], (c :: rest).drop mark.length)
    else (upTo? mark rest).map fun r => (c :: r.1, r.2)

/-- A text without escapes after its leading letter: number signs, then quotes around it, then as
many number signs. -/
def rawText? (cs : List Char) : Option (List Char × List Char) :=
  let signs := cs.takeWhile (· == '#')
  match cs.drop signs.length with
  | '"' :: rest => upTo? ('"' :: signs) rest
  | _ => none

/-- A character after its opening apostrophe. -/
def character? : List Char → Option (Char × List Char)
  | '\\' :: rest =>
    match escape? 0 rest with
    | some (c, '\'' :: rest) => some (c, rest)
    | _ => none
  | c :: '\'' :: rest => some (c, rest)
  | _ => none

/-- An octet written as a character, after its opening apostrophe. No escape names it by a code
point. -/
def octetCharacter? : List Char → Option (UInt8 × List Char)
  | '\\' :: 'u' :: _ => none
  | '\\' :: rest =>
    match octetEscape? rest with
    | some ([b], '\'' :: rest) => some (b, rest)
    | _ => none
  | c :: '\'' :: rest => if c.toNat < 0x80 then some (c.toNat.toUInt8, rest) else none
  | _ => none

end AnalysisPanel.Config
