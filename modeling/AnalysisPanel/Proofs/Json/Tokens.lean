import AnalysisPanel.Json.Printer
import AnalysisPanel.Json.Reader
import AnalysisPanel.Proofs.Floating.Layout
import AnalysisPanel.Proofs.Text.Utf8

/-! Strings and numbers of JSON texts. What is written is read again from its octets, whatever comes
after it; only what comes after a number may not go on with it. -/

namespace AnalysisPanel.Json.Reader

open Floating Text

/-! ## Strings -/

theorem hexText_control : ∀ n < 32,
    (if n < 16 then ['0'] else []) ++ hexText n = [(n / 16).digitChar, (n % 16).digitChar] := by
  decide

theorem unit?_control : ∀ n < 32,
    unit? '0' '0' (n / 16).digitChar (n % 16).digitChar = some n := by
  decide

/-! ### What stands between the quotes -/

/-- A character that goes on with a string by itself. -/
def Plain (c : Char) : Prop := c ≠ '"' ∧ c ≠ '\\' ∧ ¬ c.toNat < 0x20

theorem inside?_plain {c : Char} (plain : Plain c) (read rest : List Char) :
    inside? read (c :: rest) = inside? (c :: read) rest := by
  obtain ⟨quote, backslash, control⟩ := plain
  rw [inside?.eq_def]
  split
  · rename_i empty
    cases empty
  · rename_i same
    cases same
    exact absurd rfl quote
  · rename_i same
    cases same
    exact absurd rfl backslash
  · rename_i same
    cases same
    exact absurd rfl backslash
  · rename_i same
    cases same
    rw [if_neg (not_or.mpr ⟨control, backslash⟩)]

theorem inside?_plains {cs : List Char} (plain : ∀ c ∈ cs, Plain c) (read rest : List Char) :
    inside? read (cs ++ rest) = inside? (cs.reverse ++ read) rest := by
  induction cs generalizing read with
  | nil => rfl
  | cons c cs ih =>
    obtain ⟨first, others⟩ := List.forall_mem_cons.mp plain
    rw [List.cons_append, inside?_plain first, ih others, List.reverse_cons, List.append_assoc,
      List.singleton_append]

/-- The octets of a plain character are plain. -/
theorem plain_of_mem_octets {c o : Char} (plain : Plain c) (mem : o ∈ Utf8.octets [c]) :
    Plain o := by
  by_cases ascii : c.toNat < 0x80
  · rw [Utf8.octets_singleton ascii] at mem
    exact List.mem_singleton.mp mem ▸ plain
  · have high := Utf8.le_toNat_of_mem_octets (not_lt.mp ascii) mem
    refine ⟨?_, ?_, by omega⟩ <;> rintro rfl <;> exact absurd high (by decide)

theorem ascii_digitChar : ∀ n < 16, n.digitChar.toNat < 0x80 := by decide

theorem octets_control {n : ℕ} (hn : n < 32) :
    Utf8.octets ['\\', 'u', '0', '0', (n / 16).digitChar, (n % 16).digitChar] =
      ['\\', 'u', '0', '0', (n / 16).digitChar, (n % 16).digitChar] := by
  have high : (n / 16).digitChar.toNat < 0x80 := ascii_digitChar _ (by omega)
  have low : (n % 16).digitChar.toNat < 0x80 := ascii_digitChar _ (by omega)
  refine Utf8.octets_of_ascii ?_
  simp [high, low]

theorem controlText {n : ℕ} (hn : n < 32) :
    ['\\', 'u', '0', '0'] ++ (if n < 0x10 then ['0'] else []) ++ hexText n =
      ['\\', 'u', '0', '0', (n / 16).digitChar, (n % 16).digitChar] := by
  rw [List.append_assoc, hexText_control n hn]
  rfl

theorem inside?_control {n : ℕ} (hn : n < 32) (read rest : List Char) :
    inside? read ('\\' :: 'u' :: '0' :: '0' :: (n / 16).digitChar :: (n % 16).digitChar :: rest) =
      inside? ((n % 16).digitChar :: (n / 16).digitChar :: '0' :: '0' :: 'u' :: '\\' :: read)
        rest := by
  rw [inside?.eq_def]
  simp only [unit?_control n hn, Option.isSome_some, if_true]

/-- What is written of a character goes on with a string. -/
theorem inside?_escapeChar (read : List Char) (c : Char) (rest : List Char) :
    inside? read (Utf8.octets (escapeChar c) ++ rest) =
      inside? ((Utf8.octets (escapeChar c)).reverse ++ read) rest := by
  unfold escapeChar
  split
  · rfl
  split
  · rfl
  split
  · rfl
  split
  · rfl
  split
  · rfl
  split
  · rfl
  split
  · rfl
  split
  · rename_i control
    rw [controlText control, octets_control control]
    exact inside?_control control read rest
  · exact inside?_plains (fun o => plain_of_mem_octets ⟨‹_›, ‹_›, ‹_›⟩) read rest

theorem inside?_escaped (read cs rest : List Char) :
    inside? read (Utf8.octets (cs.flatMap escapeChar) ++ '"' :: rest) =
      some (read.reverse ++ Utf8.octets (cs.flatMap escapeChar), rest) := by
  induction cs generalizing read with
  | nil =>
    rw [List.flatMap_nil, show Utf8.octets [] = [] from rfl, List.append_nil]
    rfl
  | cons c cs ih =>
    rw [List.flatMap_cons, Utf8.octets_append, List.append_assoc, inside?_escapeChar, ih,
      List.reverse_append, List.reverse_reverse, List.append_assoc]

/-! ### What is spelled -/

theorem unescape?_control {n : ℕ} (hn : n < 32) (read rest : List Char) :
    unescape? read ('\\' :: 'u' :: '0' :: '0' :: (n / 16).digitChar :: (n % 16).digitChar :: rest) =
      unescape? (Char.ofNat n :: read) rest := by
  rw [unescape?.eq_def]
  simp only [unit?_control n hn]
  rw [if_neg (by omega), if_neg (by omega)]

theorem unescape?_plain {c : Char} (backslash : c ≠ '\\') (read rest : List Char) :
    unescape? read (c :: rest) = unescape? (c :: read) rest := by
  rw [unescape?.eq_def]
  split
  · rename_i empty
    cases empty
  · rename_i same
    cases same
    exact absurd rfl backslash
  · rename_i same
    cases same
    exact absurd rfl backslash
  · rename_i same
    cases same
    rw [if_neg backslash]

/-- A character of a string is read from what is written of it. -/
theorem unescape?_escapeChar (read : List Char) (c : Char) (rest : List Char) :
    unescape? read (escapeChar c ++ rest) = unescape? (c :: read) rest := by
  unfold escapeChar
  split
  · subst c
    rfl
  split
  · subst c
    rfl
  split
  · subst c
    rfl
  split
  · subst c
    rfl
  split
  · subst c
    rfl
  split
  · subst c
    rfl
  split
  · subst c
    rfl
  split
  · rename_i control
    rw [controlText control]
    exact (unescape?_control control read rest).trans (by rw [c.ofNat_toNat])
  · exact unescape?_plain ‹_› read rest

theorem unescape?_escaped (read cs : List Char) :
    unescape? read (cs.flatMap escapeChar) = some (String.ofList (read.reverse ++ cs)) := by
  induction cs generalizing read with
  | nil =>
    rw [List.append_nil]
    rfl
  | cons c cs ih =>
    rw [List.flatMap_cons, unescape?_escapeChar, ih, List.reverse_cons, List.append_assoc,
      List.singleton_append]

theorem spelled?_escaped (s : String) :
    spelled? (Utf8.octets (s.toList.flatMap escapeChar)) = some s := by
  rw [spelled?, Utf8.decode_gather_octets, Option.bind_some, unescape?_escaped, List.reverse_nil,
    List.nil_append, String.ofList_toList]

/-! ### Strings that are written -/

theorem toList_stringText (s : String) :
    (stringText s).toList = '"' :: (s.toList.flatMap escapeChar ++ ['"']) :=
  String.toList_ofList

theorem octets_stringText (s : String) :
    Utf8.octets (stringText s).toList =
      '"' :: (Utf8.octets (s.toList.flatMap escapeChar) ++ ['"']) := by
  rw [toList_stringText, Utf8.octets_cons (by decide), Utf8.octets_append]
  rfl

/-- A string that is written is read back. -/
theorem string?_stringText (s : String) (rest : List Char) :
    string? (Utf8.octets (stringText s).toList ++ rest) = some (some s, rest) := by
  rw [octets_stringText, List.cons_append, List.append_assoc, List.singleton_append, string?,
    inside?_escaped, Option.map_some, List.reverse_nil, List.nil_append, spelled?_escaped]

/-! ## Numbers -/

/-- A text that no number goes on with. -/
def Closes (rest : List Char) : Prop :=
  ∀ c ∈ rest.head?, c.isDigit = false ∧ c ≠ '.' ∧ c ≠ 'e' ∧ c ≠ 'E'

variable {ds rest : List Char}

theorem spanDigits_append (digits : ∀ c ∈ ds, c.isDigit = true)
    (stops : ∀ c ∈ rest.head?, c.isDigit = false) : spanDigits (ds ++ rest) = (ds, rest) := by
  rw [spanDigits, List.takeWhile_append_of_pos digits, List.dropWhile_append_of_pos digits]
  cases rest with
  | nil => simp
  | cons c rest => simp [stops c rfl]

theorem digits?_append (nonempty : ds ≠ []) (digits : ∀ c ∈ ds, c.isDigit = true)
    (stops : ∀ c ∈ rest.head?, c.isDigit = false) : digits? (ds ++ rest) = some (ds, rest) := by
  unfold digits?
  rw [spanDigits_append digits stops]
  cases ds with
  | nil => exact absurd rfl nonempty
  | cons c ds => rfl

theorem whole?_append {n : Numeral} (regular : n.Regular)
    (stops : ∀ c ∈ rest.head?, c.isDigit = false) :
    whole? (n.whole ++ rest) = some (n.whole, rest) := by
  cases digits : n.whole with
  | nil => exact absurd digits regular.nonempty
  | cons c ds =>
    have all := regular.whole
    rw [digits] at all
    by_cases zero : c = '0'
    · have alone := regular.lead (by rw [digits, zero]; rfl)
      rw [digits, zero] at alone
      cases alone
      rw [zero, List.singleton_append, whole?]
      cases rest with
      | nil => rfl
      | cons c rest => simp [stops c rfl]
    · rw [List.cons_append]
      unfold whole?
      split
      · rename_i same
        cases same
        exact absurd rfl zero
      · exact digits?_append (by simp) all stops

/-- The text of an exponent, if there is one. -/
def exponentText : Option ℤ → List Char
  | some e => 'e' :: (toString e).toList
  | none => []

theorem toList_toString (e : ℤ) :
    (toString e).toList =
      if e < 0 then '-' :: digitsText e.natAbs else digitsText e.natAbs := by
  rw [Int.toString_eq_repr]
  cases e with
  | ofNat n =>
    rw [if_neg (show ¬ Int.ofNat n < 0 from Int.not_lt.mpr (Int.natCast_nonneg n))]
    exact Nat.toList_repr
  | negSucc n =>
    rw [if_pos (Int.negSucc_lt_zero n)]
    change ("-" ++ (n + 1).repr).toList = _
    rw [String.toList_append, Nat.toList_repr]
    rfl

theorem digits?_digitsText_append (n : ℕ) (closes : Closes rest) :
    digits? (digitsText n ++ rest) = some (digitsText n, rest) :=
  digits?_append (digitsText_ne_nil n) isDigit_of_mem_digitsText fun c hc => (closes c hc).1

/-- Digits are read as an exponent without a sign. -/
theorem exponent?_digits (n : ℕ) (closes : Closes rest) :
    exponent? ('e' :: (digitsText n ++ rest)) = some (some (n : ℤ), rest) := by
  have read := digits?_digitsText_append n closes
  cases digits : digitsText n with
  | nil => exact absurd digits (digitsText_ne_nil n)
  | cons c cs =>
    have digit := isDigit_of_mem_digitsText c (digits ▸ List.mem_cons_self)
    have unsigned : c ≠ '-' ∧ c ≠ '+' := by
      constructor <;> rintro rfl <;> cases digit
    have value : Text.digits? (c :: cs) = some n := digits ▸ digits?_digitsText n
    rw [digits, List.cons_append] at read
    rw [List.cons_append]
    unfold exponent?
    simp [unsigned, read, value]

theorem exponent?_append (e : Option ℤ) (closes : Closes rest) :
    exponent? (exponentText e ++ rest) = some (e, rest) := by
  cases e with
  | none =>
    cases rest with
    | nil => rfl
    | cons c rest =>
      obtain ⟨-, -, small, great⟩ := closes c rfl
      unfold exponentText exponent?
      exact if_neg (not_or.mpr ⟨small, great⟩)
  | some e =>
    rw [exponentText, List.cons_append, toList_toString]
    by_cases negative : e < 0
    · have value : -(e.natAbs : ℤ) = e := by omega
      rw [if_pos negative]
      unfold exponent?
      simp only [List.cons_append, true_or, if_true, digits?_digitsText_append _ closes,
        digits?_digitsText, Option.getD_some, value]
    · have value : (e.natAbs : ℤ) = e := by omega
      rw [if_neg negative, exponent?_digits _ closes, value]

/-- The text of a fraction, if there is one. -/
def fractionText (fraction : List Char) : List Char :=
  if fraction.isEmpty then [] else '.' :: fraction

/-- What comes after the digits of a number is no digit, and has no point without a fraction. -/
theorem head_exponentText (e : Option ℤ) (closes : Closes rest) :
    ∀ c ∈ (exponentText e ++ rest).head?, c.isDigit = false ∧ c ≠ '.' := by
  intro c hc
  cases e with
  | none => exact ⟨(closes c hc).1, (closes c hc).2.1⟩
  | some e =>
    cases hc
    exact ⟨rfl, by decide⟩

theorem head_fractionText (fraction : List Char) (e : Option ℤ) (closes : Closes rest) :
    ∀ c ∈ (fractionText fraction ++ (exponentText e ++ rest)).head?, c.isDigit = false := by
  intro c hc
  cases fraction with
  | nil => exact (head_exponentText e closes c hc).1
  | cons d ds =>
    cases hc
    rfl

theorem toList_text (n : Numeral) :
    n.text.toList = (if n.negative then ['-'] else []) ++
      (n.whole ++ (fractionText n.fraction ++ exponentText n.exponent)) := by
  rw [Numeral.text, String.toList_ofList]
  simp only [List.append_assoc]
  rfl

theorem ascii_of_isDigit {c : Char} (digit : c.isDigit = true) : c.toNat < 0x80 :=
  lt_of_le_of_lt (Char.isDigit_iff_toNat.mp digit).2 (by decide)

/-- Numbers are written in ASCII. -/
theorem ascii_text {n : Literal} (regular : n.Regular) : ∀ c ∈ n.text.toList, c.toNat < 0x80 := by
  have sign : ∀ c ∈ if n.negative then ['-'] else [], c.toNat < 0x80 := by
    split
    · exact List.forall_mem_singleton.mpr (by decide)
    · exact List.forall_mem_nil _
  have fraction : ∀ c ∈ fractionText n.fraction, c.toNat < 0x80 := by
    unfold fractionText
    split
    · exact List.forall_mem_nil _
    · exact List.forall_mem_cons.mpr
        ⟨by decide, fun c hc => ascii_of_isDigit (regular.fraction c hc)⟩
  have exponent : ∀ c ∈ exponentText n.exponent, c.toNat < 0x80 := by
    cases n.exponent with
    | none => exact List.forall_mem_nil _
    | some e =>
      have digits : ∀ c ∈ digitsText e.natAbs, c.toNat < 0x80 := fun c hc =>
        ascii_of_isDigit (isDigit_of_mem_digitsText c hc)
      refine List.forall_mem_cons.mpr ⟨by decide, ?_⟩
      rw [toList_toString]
      split
      · exact List.forall_mem_cons.mpr ⟨by decide, digits⟩
      · exact digits
  rw [toList_text]
  refine List.forall_mem_append.mpr ⟨sign, List.forall_mem_append.mpr ⟨fun c hc => ?_, ?_⟩⟩
  · exact ascii_of_isDigit (regular.whole c hc)
  · exact List.forall_mem_append.mpr ⟨fraction, exponent⟩

/-- Reads a fraction, if there is one. -/
def fraction? : List Char → Option (List Char × List Char)
  | '.' :: rest => digits? rest
  | rest => some ([], rest)

/-- Reads a number whose sign is known. -/
def unsigned? (negative : Bool) (cs : List Char) : Option (Literal × List Char) :=
  match whole? cs with
  | none => none
  | some (whole, rest) =>
    match fraction? rest with
    | none => none
    | some (fraction, rest) =>
      match exponent? rest with
      | some (exponent, rest) => some (⟨negative, whole, fraction, exponent⟩, rest)
      | none => none

theorem number?_minus (cs : List Char) : number? ('-' :: cs) = unsigned? true cs := rfl

theorem number?_plain {cs : List Char} (plain : ∀ c ∈ cs.head?, c ≠ '-') :
    number? cs = unsigned? false cs := by
  unfold number?
  split
  rename_i signed
  split at signed
  · exact absurd rfl (plain '-' rfl)
  · cases signed
    rfl

theorem fraction?_append {fraction : List Char} (e : Option ℤ)
    (digits : ∀ c ∈ fraction, c.isDigit = true) (closes : Closes rest) :
    fraction? (fractionText fraction ++ (exponentText e ++ rest)) =
      some (fraction, exponentText e ++ rest) := by
  have ended := head_exponentText e closes
  cases fraction with
  | nil =>
    change fraction? (exponentText e ++ rest) = _
    generalize exponentText e ++ rest = cs at ended
    unfold fraction?
    split
    · exact absurd rfl (ended '.' rfl).2
    · rfl
  | cons c ds => exact digits?_append (by simp) digits fun c hc => (ended c hc).1

theorem unsigned?_append {n : Literal} (regular : n.Regular) (closes : Closes rest) :
    unsigned? n.negative
        (n.whole ++ (fractionText n.fraction ++ (exponentText n.exponent ++ rest))) =
      some (n, rest) := by
  unfold unsigned?
  rw [whole?_append regular (head_fractionText n.fraction n.exponent closes)]
  dsimp only
  rw [fraction?_append n.exponent regular.fraction closes]
  dsimp only
  rw [exponent?_append n.exponent closes]

/-- A number that is written is read back. -/
theorem number?_text {n : Literal} (regular : n.Regular) (closes : Closes rest) :
    number? (n.text.toList ++ rest) = some (n, rest) := by
  have read := unsigned?_append regular closes
  simp only [toList_text, List.append_assoc]
  cases negative : n.negative with
  | true =>
    rw [negative] at read
    exact (number?_minus _).trans read
  | false =>
    rw [negative] at read
    refine (number?_plain ?_).trans read
    intro c hc
    cases whole : n.whole with
    | nil => exact absurd whole regular.nonempty
    | cons d ds =>
      have digit := regular.whole d (whole ▸ List.mem_cons_self)
      rw [whole] at hc
      cases hc
      rintro rfl
      cases digit

end AnalysisPanel.Json.Reader
