/-! Punycode: a label of any characters written with letters, digits and hyphens. The basic
characters come first, and each of the others is written as the distance to it in the order of
code points and places. -/

namespace AnalysisPanel.Url.Punycode

/-- The threshold of a digit's place `k` under a bias. -/
def threshold (k bias : Nat) : Nat :=
  if k ≤ bias then 1 else if bias + 26 ≤ k then 26 else k - bias

/-- Halves a distance until it is small, counting the steps of 36. -/
def adaptLoop : Nat → Nat → Nat → Nat
  | 0, delta, k => k + 36 * delta / (delta + 38)
  | fuel + 1, delta, k =>
    if 455 < delta then adaptLoop fuel (delta / 35) (k + 36) else k + 36 * delta / (delta + 38)

/-- The bias after a distance has been written. -/
def adapt (delta points : Nat) (first : Bool) : Nat :=
  let delta := if first then delta / 700 else delta / 2
  adaptLoop 32 (delta + delta / points) 0

/-- The letter or digit of a value below 36. -/
def digitOf (d : Nat) : Char := if d < 26 then Char.ofNat (97 + d) else Char.ofNat (22 + d)

/-- The value of a letter or digit. -/
def valueOf? (c : Char) : Option Nat :=
  if 'a' ≤ c ∧ c ≤ 'z' then some (c.toNat - 97)
  else if 'A' ≤ c ∧ c ≤ 'Z' then some (c.toNat - 65)
  else if '0' ≤ c ∧ c ≤ '9' then some (c.toNat - 22)
  else none

/-- Writes a distance from the place `k` on. -/
def encodeDelta (bias : Nat) : Nat → Nat → Nat → List Char
  | 0, q, _ => [digitOf q]
  | fuel + 1, q, k =>
    let t := threshold k bias
    if q < t then [digitOf q]
    else digitOf (t + (q - t) % (36 - t)) :: encodeDelta bias fuel ((q - t) / (36 - t)) (k + 36)

/-- The state of the encoder: the code point reached, the distance so far, the bias, how many
characters are written, and whether none but basic ones are. -/
structure Encoder where
  point : Nat
  delta : Nat
  bias : Nat
  handled : Nat
  first : Bool
  output : List Char

/-- Passes over one character of the label. -/
def Encoder.visit (s : Encoder) (c : Char) : Encoder :=
  if c.toNat < s.point then { s with delta := s.delta + 1 }
  else if c.toNat = s.point then
    { s with
      output := s.output ++ encodeDelta s.bias 64 s.delta 36
      bias := adapt s.delta (s.handled + 1) s.first
      delta := 0, handled := s.handled + 1, first := false }
  else s

/-- Writes the characters past the basic ones, those of the least code point first. -/
def Encoder.run (label : List Char) : Nat → Encoder → Encoder
  | 0, s => s
  | fuel + 1, s =>
    let later := (label.map Char.toNat).filter (s.point ≤ ·)
    match later.min? with
    | none => s
    | some m =>
      let s := { s with delta := s.delta + (m - s.point) * (s.handled + 1), point := m }
      let s := label.foldl Encoder.visit s
      run label fuel { s with delta := s.delta + 1, point := m + 1 }

/-- Writes a label. -/
def encode (label : List Char) : List Char :=
  let basic := label.filter fun c => c.toNat < 0x80
  let start := if basic.isEmpty then [] else basic ++ ['-']
  (Encoder.run label (label.length + 1)
    ⟨0x80, 0, 72, basic.length, true, start⟩).output

/-- Reads a distance from the place `k` on: the distance added to `i`, and what is left. -/
def decodeDelta (bias : Nat) : Nat → Nat → Nat → List Char → Option (Nat × List Char)
  | _, _, _, [] => none
  | i, w, k, c :: rest =>
    match valueOf? c with
    | none => none
    | some d =>
      let i := i + d * w
      let t := threshold k bias
      if d < t then some (i, rest) else decodeDelta bias i (w * (36 - t)) (k + 36) rest

/-- Reads the characters past the basic ones into their places. -/
def decodeLoop : Nat → Nat → Nat → Nat → Bool → List Char → List Char → Option (List Char)
  | 0, _, _, _, _, output, _ => some output
  | fuel + 1, n, i, bias, first, output, cs =>
    if cs.isEmpty then some output
    else
      match decodeDelta bias i 1 36 cs with
      | none => none
      | some (j, rest) =>
        let size := output.length + 1
        let point := n + j / size
        let place := j % size
        if point < 0x110000 ∧ ¬ (0xD800 ≤ point ∧ point < 0xE000) then
          decodeLoop fuel point (place + 1) (adapt (j - i) size first) false
            (output.insertIdx place (Char.ofNat point)) rest
        else none

/-- Reads a label. -/
def decode? (cs : List Char) : Option (List Char) :=
  let tail := (cs.reverse.takeWhile (· != '-')).reverse
  let head := cs.take (cs.length - tail.length - 1)
  if cs.all (·.toNat < 0x80) then
    decodeLoop (cs.length + 1) 0x80 0 72 true head tail
  else none

end AnalysisPanel.Url.Punycode
