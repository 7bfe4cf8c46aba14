import AnalysisPanel.Json.Number
import AnalysisPanel.Text.Utf8

/-! JSON reading. A text is one value with blanks around it; a reader may follow lists and
objects to some depth only. What is read are octets, each of them taken as a character of its
own: outside of strings the grammar knows no others than those of ASCII, and a string goes on to
its closing quote whatever octets it holds. Whether it spells a text counts only where it is
asked for: then its octets must be UTF-8, and an escape must name a scalar value, by a pair of
surrogates past `U+FFFF`. -/

namespace AnalysisPanel.Json.Reader

open Text

/-- How deep lists and objects may nest where their values are kept. -/
def maxDepth : Nat := 127

/-- Skips the blanks of the grammar. -/
def skipBlanks (cs : List Char) : List Char :=
  cs.dropWhile fun c => c == ' ' || c == '\t' || c == '\n' || c == '\r'

/-- Takes an expected beginning off a text. -/
def expect? : List Char → List Char → Option (List Char)
  | [], cs => some cs
  | _ :: _, [] => none
  | e :: es, c :: cs => if e = c then expect? es cs else none

/-- The number that four hexadecimal digits write. -/
def unit? (a b c d : Char) : Option Nat :=
  match hexDigit? a, hexDigit? b, hexDigit? c, hexDigit? d with
  | some a, some b, some c, some d => some (a * 0x1000 + b * 0x100 + c * 0x10 + d)
  | _, _, _, _ => none

/-- The character of a one-letter escape. -/
def escaped? (c : Char) : Option Char :=
  if c = '"' then some '"'
  else if c = '\\' then some '\\'
  else if c = '/' then some '/'
  else if c = 'b' then some '\x08'
  else if c = 'f' then some '\x0c'
  else if c = 'n' then some '\n'
  else if c = 'r' then some '\r'
  else if c = 't' then some '\t'
  else none

/-- Reads a string after its opening quote: what stands between the quotes, as it is written. An
escape has the form of one, whatever it names. `read` holds what came so far, last first. -/
def inside? (read : List Char) : List Char → Option (List Char × List Char)
  | [] => none
  | '"' :: rest => some (read.reverse, rest)
  | '\\' :: 'u' :: a :: b :: c :: d :: rest =>
    if (unit? a b c d).isSome then inside? (d :: c :: b :: a :: 'u' :: '\\' :: read) rest else none
  | '\\' :: c :: rest =>
    if (escaped? c).isSome then inside? (c :: '\\' :: read) rest else none
  | c :: rest => if c.toNat < 0x20 ∨ c = '\\' then none else inside? (c :: read) rest

/-- Replaces the escapes of a string; `read` holds what came so far, last first. -/
def unescape? (read : List Char) : List Char → Option String
  | [] => some (String.ofList read.reverse)
  | '\\' :: 'u' :: a :: b :: c :: d :: rest =>
    match unit? a b c d with
    | none => none
    | some high =>
      if 0xD800 ≤ high ∧ high < 0xDC00 then
        match rest with
        | '\\' :: 'u' :: a :: b :: c :: d :: rest =>
          match unit? a b c d with
          | none => none
          | some low =>
            if 0xDC00 ≤ low ∧ low < 0xE000 then
              let n := 0x10000 + (high - 0xD800) * 0x400 + (low - 0xDC00)
              unescape? (Char.ofNat n :: read) rest
            else none
        | _ => none
      else if 0xDC00 ≤ high ∧ high < 0xE000 then none
      else unescape? (Char.ofNat high :: read) rest
  | '\\' :: c :: rest =>
    match escaped? c with
    | some e => unescape? (e :: read) rest
    | none => none
  | c :: rest => if c = '\\' then none else unescape? (c :: read) rest

/-- The text that a string spells by what stands between its quotes. -/
def spelled? (inside : List Char) : Option String :=
  (Utf8.decode (Utf8.gather inside)).bind (unescape? [])

/-- Reads a string. -/
def string? : List Char → Option (Option String × List Char)
  | '"' :: rest => (inside? [] rest).map fun r => (spelled? r.1, r.2)
  | _ => none

/-- Reads one or more digits. -/
def digits? (cs : List Char) : Option (List Char × List Char) :=
  match Floating.spanDigits cs with
  | ([], _) => none
  | (ds, rest) => some (ds, rest)

/-- Reads the digits before the point: a zero stands alone. -/
def whole? : List Char → Option (List Char × List Char)
  | '0' :: rest => if (rest.head?.any Char.isDigit) then none else some (['0'], rest)
  | cs => digits? cs

/-- Reads an exponent, if there is one. -/
def exponent? : List Char → Option (Option Int × List Char)
  | c :: rest =>
    if c = 'e' ∨ c = 'E' then
      let (negative, unsigned) := match rest with
        | '-' :: rest => (true, rest)
        | '+' :: rest => (false, rest)
        | rest => (false, rest)
      match digits? unsigned with
      | some (ds, rest) =>
        let n : Int := ((Text.digits? ds).getD 0 : Nat)
        some (some (if negative then -n else n), rest)
      | none => none
    else some (none, c :: rest)
  | [] => some (none, [])

/-- Reads a number. -/
def number? (cs : List Char) : Option (Literal × List Char) :=
  let (negative, unsigned) := match cs with
    | '-' :: rest => (true, rest)
    | cs => (false, cs)
  match whole? unsigned with
  | none => none
  | some (whole, rest) =>
    let fraction? := match rest with
      | '.' :: rest => digits? rest
      | rest => some ([], rest)
    match fraction? with
    | none => none
    | some (fraction, rest) =>
      match exponent? rest with
      | some (exponent, rest) => some (⟨negative, whole, fraction, exponent⟩, rest)
      | none => none

mutual

/-- Reads a value that may hold `depth` levels of lists and objects. -/
def value? (depth : Nat) : Nat → List Char → Option (Draft × List Char)
  | 0, _ => none
  | fuel + 1, cs =>
    match skipBlanks cs with
    | [] => none
    | c :: rest =>
      if c = 'n' then (expect? "ull".toList rest).map (.null, ·)
      else if c = 't' then (expect? "rue".toList rest).map (.bool true, ·)
      else if c = 'f' then (expect? "alse".toList rest).map (.bool false, ·)
      else if c = '"' then (string? (c :: rest)).map fun r => (.string r.1, r.2)
      else if c = '[' then
        match depth with
        | 0 => none
        | depth + 1 =>
          match skipBlanks rest with
          | ']' :: rest => some (.array [], rest)
          | rest => (items? depth fuel rest).map fun r => (.array r.1, r.2)
      else if c = '\x7b' then
        match depth with
        | 0 => none
        | depth + 1 =>
          match skipBlanks rest with
          | '\x7d' :: rest => some (.object [], rest)
          | rest => (fields? depth fuel rest).map fun r => (.object r.1, r.2)
      else (number? (c :: rest)).map fun r => (.number r.1, r.2)

/-- Reads the items of a list that is not empty, and the bracket after them. -/
def items? (depth : Nat) : Nat → List Char → Option (List Draft × List Char)
  | 0, _ => none
  | fuel + 1, cs =>
    match value? depth fuel cs with
    | none => none
    | some (v, rest) =>
      match skipBlanks rest with
      | ',' :: rest => (items? depth fuel rest).map fun r => (v :: r.1, r.2)
      | ']' :: rest => some ([v], rest)
      | _ => none

/-- Reads the fields of an object that is not empty, and the brace after them. -/
def fields? (depth : Nat) : Nat → List Char → Option (List (Option String × Draft) × List Char)
  | 0, _ => none
  | fuel + 1, cs =>
    match string? (skipBlanks cs) with
    | none => none
    | some (key, rest) =>
      match skipBlanks rest with
      | ':' :: rest =>
        match value? depth fuel rest with
        | none => none
        | some (v, rest) =>
          match skipBlanks rest with
          | ',' :: rest => (fields? depth fuel rest).map fun r => ((key, v) :: r.1, r.2)
          | '\x7d' :: rest => some ([(key, v)], rest)
          | _ => none
      | _ => none

end

/-- Reads the octets of a text that nests no deeper than some depth. -/
def draftWithin? (depth : Nat) (bytes : Bytes) : Option Draft :=
  match value? depth (2 * bytes.length + 2) (Utf8.spread bytes) with
  | some (draft, rest) => if (skipBlanks rest).isEmpty then some draft else none
  | none => none

/-- Reads the octets of a text, however deep it nests. -/
def draft? (bytes : Bytes) : Option Draft := draftWithin? bytes.length bytes

/-- Reads the octets of a message body, all of whose strings count. -/
def ofBytes? (bytes : Bytes) : Option Document :=
  (draftWithin? maxDepth bytes).bind Draft.document?

/-- Reads the octets of a text all of whose strings count, however deep it nests. -/
def unbounded? (bytes : Bytes) : Option Document := (draft? bytes).bind Draft.document?

end AnalysisPanel.Json.Reader
