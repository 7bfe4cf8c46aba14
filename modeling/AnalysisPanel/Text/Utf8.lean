/-! UTF-8: characters as octets, the strict reading that refuses anything else, and the lenient
reading that puts U+FFFD where octets are malformed. -/

namespace AnalysisPanel

/-- Octets, as files and message bodies hold them. -/
abbrev Bytes := List UInt8

namespace Text.Utf8

/-- The octets of one character. -/
def encodeChar (c : Char) : Bytes :=
  let n := c.toNat
  if n < 0x80 then [n.toUInt8]
  else if n < 0x800 then [(0xC0 + n / 0x40).toUInt8, (0x80 + n % 0x40).toUInt8]
  else if n < 0x10000 then
    [(0xE0 + n / 0x1000).toUInt8, (0x80 + n / 0x40 % 0x40).toUInt8, (0x80 + n % 0x40).toUInt8]
  else
    [(0xF0 + n / 0x40000).toUInt8, (0x80 + n / 0x1000 % 0x40).toUInt8,
      (0x80 + n / 0x40 % 0x40).toUInt8, (0x80 + n % 0x40).toUInt8]

/-- The octets of a text. -/
def encode (cs : List Char) : Bytes := cs.flatMap encodeChar

/-- The octets of a string. -/
def ofString (s : String) : Bytes := encode s.toList

/-- Each octet as a character of its own. -/
def spread (bytes : Bytes) : List Char := bytes.map fun b => Char.ofNat b.toNat

/-- The octets that stand as characters of their own. -/
def gather (cs : List Char) : Bytes := cs.map fun c => c.toNat.toUInt8

/-- An octet that continues a character. -/
def isTail (b : UInt8) : Bool := 0x80 ≤ b && b ≤ 0xBF

/-- Whether `b` may follow the leading octet `a`: no overlong form, no surrogate, nothing past the
last code point. -/
def mayFollow (a b : UInt8) : Bool :=
  isTail b && (a != 0xE0 || 0xA0 ≤ b) && (a != 0xED || b ≤ 0x9F) && (a != 0xF0 || 0x90 ≤ b) &&
    (a != 0xF4 || b ≤ 0x8F)

/-- The low six bits of a continuing octet. -/
def tailBits (b : UInt8) : Nat := b.toNat % 0x40

/-- One reading step: a character with the octets after it, or the octets after a malformed
stretch, which is the longest beginning that some character shares. -/
inductive Step where
  | char (c : Char) (rest : Bytes)
  | malformed (rest : Bytes)

/-- Reads the character that a non-empty list of octets begins with. -/
def step (a : UInt8) (rest : Bytes) : Step :=
  if a < 0x80 then .char (Char.ofNat a.toNat) rest
  else if 0xC2 ≤ a ∧ a ≤ 0xDF then
    match rest with
    | b :: rest' =>
      if isTail b then .char (Char.ofNat (a.toNat % 0x20 * 0x40 + tailBits b)) rest'
      else .malformed rest
    | [] => .malformed []
  else if 0xE0 ≤ a ∧ a ≤ 0xEF then
    match rest with
    | b :: rest' =>
      if mayFollow a b then
        match rest' with
        | c :: rest'' =>
          if isTail c then
            .char (Char.ofNat (a.toNat % 0x10 * 0x1000 + tailBits b * 0x40 + tailBits c)) rest''
          else .malformed rest'
        | [] => .malformed []
      else .malformed rest
    | [] => .malformed []
  else if 0xF0 ≤ a ∧ a ≤ 0xF4 then
    match rest with
    | b :: rest' =>
      if mayFollow a b then
        match rest' with
        | c :: rest'' =>
          if isTail c then
            match rest'' with
            | d :: rest''' =>
              if isTail d then
                .char (Char.ofNat (a.toNat % 0x8 * 0x40000 + tailBits b * 0x1000 +
                  tailBits c * 0x40 + tailBits d)) rest'''
              else .malformed rest''
            | [] => .malformed []
          else .malformed rest'
        | [] => .malformed []
      else .malformed rest
    | [] => .malformed []
  else .malformed rest

/-- What is left after a step. -/
def Step.rest : Step → Bytes
  | .char _ rest => rest
  | .malformed rest => rest

theorem step_rest_length (a : UInt8) (rest : Bytes) : (step a rest).rest.length ≤ rest.length := by
  unfold step
  repeat' split
  all_goals simp only [Step.rest, List.length_cons, List.length_nil]
  all_goals omega

/-- The text that octets encode, or nothing when some are malformed. -/
def decode : Bytes → Option (List Char)
  | [] => some []
  | a :: rest =>
    have := step_rest_length a rest
    match h : step a rest with
    | .char c rest' =>
      have : rest'.length < rest.length + 1 := by simp only [h, Step.rest] at this; omega
      (decode rest').map (c :: ·)
    | .malformed _ => none
  termination_by bytes => bytes.length

/-- The text that octets encode, with one U+FFFD in place of each malformed stretch. -/
def decodeLenient : Bytes → List Char
  | [] => []
  | a :: rest =>
    have := step_rest_length a rest
    match h : step a rest with
    | .char c rest' =>
      have : rest'.length < rest.length + 1 := by simp only [h, Step.rest] at this; omega
      c :: decodeLenient rest'
    | .malformed rest' =>
      have : rest'.length < rest.length + 1 := by simp only [h, Step.rest] at this; omega
      '\uFFFD' :: decodeLenient rest'
  termination_by bytes => bytes.length

/-- The string that octets encode. -/
def toString? (bytes : Bytes) : Option String := (decode bytes).map String.ofList

end Text.Utf8

end AnalysisPanel
