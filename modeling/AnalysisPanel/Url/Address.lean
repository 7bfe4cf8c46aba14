import AnalysisPanel.Text.Numeral

/-! Addresses of four octets and of eight pieces, as read and as written in URLs. -/

namespace AnalysisPanel.Url

open Text

/-- Splits a text at every occurrence of a character. -/
def splitAt (sep : Char) : List Char → List (List Char)
  | [] => [[]]
  | c :: rest =>
    if c = sep then [] :: splitAt sep rest
    else
      match splitAt sep rest with
      | part :: parts => (c :: part) :: parts
      | [] => [[c]]

/-! ### Addresses of four octets -/

/-- The value of digits in a base. -/
def inBase (base : Nat) (cs : List Char) : Option Nat :=
  cs.foldl (fun value c =>
    match value, hexDigit? c with
    | some n, some d => if d < base then some (base * n + d) else none
    | _, _ => none) (some 0)

/-- A part of an address: decimal, octal after a zero, or hexadecimal after `0x`. -/
def ipv4Part? : List Char → Option Nat
  | [] => none
  | '0' :: 'x' :: rest | '0' :: 'X' :: rest => inBase 16 rest
  | '0' :: c :: rest => inBase 8 (c :: rest)
  | cs => inBase 10 cs

/-- The parts of a name between its dots, without the empty one after a final dot. -/
def hostParts (cs : List Char) : List (List Char) :=
  let parts := splitAt '.' cs
  if parts.length > 1 ∧ parts.getLast? = some [] then parts.dropLast else parts

/-- Whether the last part of a name is a number, so that the name has to be an address. -/
def endsInNumber (cs : List Char) : Bool :=
  match (hostParts cs).getLast? with
  | some part => (!part.isEmpty && part.all Char.isDigit) || (ipv4Part? part).isSome
  | none => false

/-- The value of up to four parts, the last of which fills the octets that are left. -/
def ipv4Value? (parts : List Nat) : Option Nat :=
  match parts.reverse with
  | [] => none
  | last :: front =>
    let room := Nat.pow 256 (4 - front.length)
    if 3 < front.length ∨ front.any (255 < ·) ∨ room ≤ last then none
    else some (front.reverse.foldl (fun n part => 256 * n + part) 0 * room + last)

/-- Reads an address of four octets. -/
def ipv4? (cs : List Char) : Option Nat :=
  ((hostParts cs).mapM ipv4Part?).bind ipv4Value?

/-- Writes an address of four octets. -/
def ipv4Text (n : Nat) : String :=
  String.intercalate "." ([n / 16777216, n / 65536 % 256, n / 256 % 256, n % 256].map toString)

/-! ### Addresses of eight pieces -/

/-- Reads up to four hexadecimal digits. -/
def ipv6Piece : Nat → Nat → List Char → Nat × List Char
  | 0, value, cs => (value, cs)
  | _ + 1, value, [] => (value, [])
  | limit + 1, value, c :: rest =>
    match hexDigit? c with
    | some d => ipv6Piece limit (16 * value + d) rest
    | none => (value, c :: rest)

/-- Reads an octet in decimal digits, without leading zeros. -/
def ipv4Octet? (cs : List Char) : Option (Nat × List Char) :=
  let ds := cs.takeWhile Char.isDigit
  match digits? ds with
  | some n =>
    if 255 < n ∨ (1 < ds.length ∧ ds.head? = some '0') then none
    else some (n, cs.dropWhile Char.isDigit)
  | none => none

/-- Reads four octets with dots between them, and nothing after. -/
def ipv4Tail? (cs : List Char) : Option (List Nat) :=
  match ipv4Octet? cs with
  | some (a, '.' :: cs) =>
    match ipv4Octet? cs with
    | some (b, '.' :: cs) =>
      match ipv4Octet? cs with
      | some (c, '.' :: cs) =>
        match ipv4Octet? cs with
        | some (d, []) => some [a * 256 + b, c * 256 + d]
        | _ => none
      | _ => none
    | _ => none
  | _ => none

/-- Reads pieces, given those before them and the place of the `::` among those. -/
def ipv6Pieces : Nat → List Nat → Option Nat → List Char → Option (List Nat × Option Nat)
  | 0, _, _, _ => none
  | _ + 1, pieces, gap, [] => some (pieces, gap)
  | fuel + 1, pieces, gap, cs =>
    if 8 ≤ pieces.length then none
    else
      match cs with
      | ':' :: rest =>
        if gap.isSome then none else ipv6Pieces fuel (pieces ++ [0]) (some (pieces.length + 1)) rest
      | _ =>
        let (value, rest) := ipv6Piece 4 0 cs
        match rest with
        | '.' :: _ =>
          if rest.length = cs.length ∨ 6 < pieces.length then none
          else (ipv4Tail? cs).map fun tail => (pieces ++ tail, gap)
        | ':' :: rest =>
          if rest.isEmpty ∨ rest.length + 1 = cs.length then none
          else ipv6Pieces fuel (pieces ++ [value]) gap rest
        | [] => some (pieces ++ [value], gap)
        | _ => none

/-- Reads an address of eight pieces; `::` stands once, for one or more pieces of zero. -/
def ipv6? (cs : List Char) : Option (List Nat) :=
  let start := match cs with
    | ':' :: ':' :: rest => ipv6Pieces 20 [0] (some 1) rest
    | ':' :: _ => none
    | cs => ipv6Pieces 20 [] none cs
  match start with
  | some (pieces, none) => if pieces.length = 8 then some pieces else none
  | some (pieces, some gap) =>
    if 8 < pieces.length then none
    else
      some (pieces.take gap ++ List.replicate (8 - pieces.length) 0 ++ pieces.drop gap)
  | none => none

/-- The longest run of zero pieces, the first of equal ones: where it starts and how long it is. -/
def longestZeros : List Nat → Nat → Nat × Nat
  | [], _ => (0, 0)
  | p :: rest, i =>
    let here := ((p :: rest).takeWhile (· == 0)).length
    let later := longestZeros rest (i + 1)
    if later.2 ≤ here then (i, here) else later

/-- Pieces in hexadecimal with colons between them. -/
def piecesText (pieces : List Nat) : String :=
  String.intercalate ":" (pieces.map fun p => String.ofList (hexText p))

/-- Writes an address of eight pieces, its longest run of two or more zeros as `::`. -/
def ipv6Text (pieces : List Nat) : String :=
  let (start, count) := longestZeros pieces 0
  if count < 2 then piecesText pieces
  else piecesText (pieces.take start) ++ "::" ++ piecesText (pieces.drop (start + count))

end AnalysisPanel.Url
