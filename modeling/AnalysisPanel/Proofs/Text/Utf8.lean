import Mathlib.Data.List.Basic
import AnalysisPanel.Text.Utf8

/-! What is encoded is decoded again. The octets of a character lie in ranges that tell how many
there are, and each of them holds bits of the character. -/

namespace AnalysisPanel.Text.Utf8

theorem toNat_octet {n : ℕ} (small : n < 256) : n.toUInt8.toNat = n := by
  rw [Nat.toUInt8_eq, UInt8.toNat_ofNat']
  exact Nat.mod_eq_of_lt small

theorem isTail_octet {n : ℕ} (low : 0x80 ≤ n) (high : n < 0xC0) : isTail n.toUInt8 = true := by
  simp only [isTail, Bool.and_eq_true, decide_eq_true_eq, UInt8.le_iff_toNat_le,
    toNat_octet (show n < 256 by omega)]
  exact ⟨low, Nat.le_of_lt_succ high⟩

theorem tailBits_octet {n : ℕ} (low : 0x80 ≤ n) (high : n < 0xC0) :
    tailBits n.toUInt8 = n - 0x80 := by
  rw [tailBits, toNat_octet (by omega)]
  omega

/-- A second octet that is not overlong, no surrogate and not past the last code point. -/
theorem mayFollow_octet {a b : ℕ} (hb : 0x80 ≤ b ∧ b < 0xC0) (ha : a < 256)
    (three : a = 0xE0 → 0xA0 ≤ b) (surrogate : a = 0xED → b ≤ 0x9F) (four : a = 0xF0 → 0x90 ≤ b)
    (last : a = 0xF4 → b ≤ 0x8F) : mayFollow a.toUInt8 b.toUInt8 = true := by
  simp only [mayFollow, Bool.and_eq_true, Bool.or_eq_true, bne_iff_ne, ne_eq, decide_eq_true_eq,
    ← UInt8.toNat_inj, UInt8.le_iff_toNat_le, toNat_octet ha, toNat_octet (show b < 256 by omega)]
  refine ⟨⟨⟨⟨isTail_octet hb.1 hb.2, ?_⟩, ?_⟩, ?_⟩, ?_⟩
  · exact (em (a = 0xE0)).symm.imp_right three
  · exact (em (a = 0xED)).symm.imp_right surrogate
  · exact (em (a = 0xF0)).symm.imp_right four
  · exact (em (a = 0xF4)).symm.imp_right last

/-! ## One character -/

variable {a b c d : ℕ} (rest : Bytes)

theorem step_one (ha : a < 0x80) : step a.toUInt8 rest = .char (Char.ofNat a) rest := by
  unfold step
  rw [if_pos (by rw [UInt8.lt_iff_toNat_lt, toNat_octet (by omega)]; exact ha),
    toNat_octet (by omega)]

theorem step_two (ha : 0xC2 ≤ a ∧ a ≤ 0xDF) (hb : 0x80 ≤ b ∧ b < 0xC0) :
    step a.toUInt8 (b.toUInt8 :: rest) =
      .char (Char.ofNat ((a - 0xC0) * 0x40 + (b - 0x80))) rest := by
  have octet : a.toUInt8.toNat = a := toNat_octet (by omega)
  have bits : a % 0x20 = a - 0xC0 := by omega
  unfold step
  simp only [UInt8.lt_iff_toNat_lt, UInt8.le_iff_toNat_le, UInt8.reduceToNat, octet,
    isTail_octet hb.1 hb.2, tailBits_octet hb.1 hb.2, bits]
  rw [if_neg (by omega), if_pos ha, if_pos trivial]

theorem step_three (ha : 0xE0 ≤ a ∧ a ≤ 0xEF) (hb : 0x80 ≤ b ∧ b < 0xC0)
    (hc : 0x80 ≤ c ∧ c < 0xC0) (long : a = 0xE0 → 0xA0 ≤ b) (surrogate : a = 0xED → b ≤ 0x9F) :
    step a.toUInt8 (b.toUInt8 :: c.toUInt8 :: rest) =
      .char (Char.ofNat ((a - 0xE0) * 0x1000 + (b - 0x80) * 0x40 + (c - 0x80))) rest := by
  have octet : a.toUInt8.toNat = a := toNat_octet (by omega)
  have bits : a % 0x10 = a - 0xE0 := by omega
  have follows : mayFollow a.toUInt8 b.toUInt8 = true :=
    mayFollow_octet hb (by omega) long surrogate (by omega) (by omega)
  unfold step
  simp only [UInt8.lt_iff_toNat_lt, UInt8.le_iff_toNat_le, UInt8.reduceToNat, octet, follows,
    isTail_octet hc.1 hc.2, tailBits_octet hb.1 hb.2, tailBits_octet hc.1 hc.2, bits]
  rw [if_neg (by omega), if_neg (by omega), if_pos ha, if_pos trivial, if_pos trivial]

theorem step_four (ha : 0xF0 ≤ a ∧ a ≤ 0xF4) (hb : 0x80 ≤ b ∧ b < 0xC0)
    (hc : 0x80 ≤ c ∧ c < 0xC0) (hd : 0x80 ≤ d ∧ d < 0xC0) (long : a = 0xF0 → 0x90 ≤ b)
    (last : a = 0xF4 → b ≤ 0x8F) :
    step a.toUInt8 (b.toUInt8 :: c.toUInt8 :: d.toUInt8 :: rest) =
      .char (Char.ofNat
        ((a - 0xF0) * 0x40000 + (b - 0x80) * 0x1000 + (c - 0x80) * 0x40 + (d - 0x80))) rest := by
  have octet : a.toUInt8.toNat = a := toNat_octet (by omega)
  have bits : a % 0x8 = a - 0xF0 := by omega
  have follows : mayFollow a.toUInt8 b.toUInt8 = true :=
    mayFollow_octet hb (by omega) (by omega) (by omega) long last
  unfold step
  simp only [UInt8.lt_iff_toNat_lt, UInt8.le_iff_toNat_le, UInt8.reduceToNat, octet, follows,
    isTail_octet hc.1 hc.2, isTail_octet hd.1 hd.2, tailBits_octet hb.1 hb.2,
    tailBits_octet hc.1 hc.2, tailBits_octet hd.1 hd.2, bits]
  rw [if_neg (by omega), if_neg (by omega), if_neg (by omega), if_pos ha, if_pos trivial,
    if_pos trivial, if_pos trivial]

/-- A character is no surrogate and not past the last code point. -/
theorem toNat_valid (c : Char) : (c.toNat < 0xD800 ∨ 0xDFFF < c.toNat) ∧ c.toNat < 0x110000 := by
  rcases c.valid with low | ⟨high, last⟩
  · exact ⟨.inl low, Nat.lt_trans low (by decide)⟩
  · exact ⟨.inr high, last⟩

/-- The octets of a character are read as it. -/
theorem step_encodeChar (c : Char) :
    ∃ a more, encodeChar c = a :: more ∧ step a (more ++ rest) = .char c rest := by
  obtain ⟨scalar, bound⟩ := toNat_valid c
  have self := c.ofNat_toNat
  unfold encodeChar
  dsimp only
  generalize c.toNat = n at scalar bound self
  split
  · exact ⟨_, _, rfl, self ▸ step_one rest ‹_›⟩
  split
  · have bits : (0xC0 + n / 0x40 - 0xC0) * 0x40 + (0x80 + n % 0x40 - 0x80) = n := by omega
    refine ⟨_, _, rfl, ?_⟩
    rw [List.singleton_append, step_two rest (by omega) (by omega), bits, self]
  split
  · have bits : (0xE0 + n / 0x1000 - 0xE0) * 0x1000 + (0x80 + n / 0x40 % 0x40 - 0x80) * 0x40 +
        (0x80 + n % 0x40 - 0x80) = n := by omega
    refine ⟨_, _, rfl, ?_⟩
    rw [List.cons_append, List.singleton_append,
      step_three rest (by omega) (by omega) (by omega) (by omega) (by omega), bits, self]
  · have bits : (0xF0 + n / 0x40000 - 0xF0) * 0x40000 + (0x80 + n / 0x1000 % 0x40 - 0x80) * 0x1000 +
        (0x80 + n / 0x40 % 0x40 - 0x80) * 0x40 + (0x80 + n % 0x40 - 0x80) = n := by omega
    refine ⟨_, _, rfl, ?_⟩
    rw [List.cons_append, List.cons_append, List.singleton_append,
      step_four rest (by omega) (by omega) (by omega) (by omega) (by omega) (by omega), bits, self]

/-! ## Texts -/

theorem decode_encodeChar_append (c : Char) :
    decode (encodeChar c ++ rest) = (decode rest).map (c :: ·) := by
  obtain ⟨a, more, octets, read⟩ := step_encodeChar rest c
  rw [octets, List.cons_append, decode]
  split
  · rename_i found
    rw [read] at found
    cases found
    rfl
  · rename_i found
    rw [read] at found
    cases found

theorem decode_encode (cs : List Char) : decode (encode cs) = some cs := by
  induction cs with
  | nil => exact decode.eq_1
  | cons c cs ih =>
    have octets : encode (c :: cs) = encodeChar c ++ encode cs := List.flatMap_cons
    rw [octets, decode_encodeChar_append, ih, Option.map_some]

/-! ## Octets as characters -/

theorem toNat_char {n : ℕ} (small : n < 256) : (Char.ofNat n).toNat = n := by
  rw [Char.ofNat, dif_pos (.inl (Nat.lt_trans small (by decide)))]
  rfl

theorem gather_spread (bytes : Bytes) : gather (spread bytes) = bytes := by
  have back (b : UInt8) : (Char.ofNat b.toNat).toNat.toUInt8 = b := by
    rw [toNat_char b.toNat_lt, Nat.toUInt8_eq, UInt8.ofNat_toNat]
  rw [gather, spread, List.map_map]
  exact (List.map_congr_left fun b _ => back b).trans (List.map_id bytes)

/-- The octets of a text, each as a character of its own. -/
def octets (cs : List Char) : List Char := spread (encode cs)

theorem decode_gather_octets (cs : List Char) : decode (gather (octets cs)) = some cs := by
  rw [octets, gather_spread, decode_encode]

theorem octets_append (cs ds : List Char) : octets (cs ++ ds) = octets cs ++ octets ds := by
  rw [octets, encode, List.flatMap_append, spread, List.map_append]
  rfl

theorem octets_singleton {c : Char} (ascii : c.toNat < 0x80) : octets [c] = [c] := by
  rw [octets, encode, List.flatMap_singleton, encodeChar, if_pos ascii, spread, List.map_singleton,
    toNat_octet (by omega), c.ofNat_toNat]

theorem octets_cons {c : Char} (ascii : c.toNat < 0x80) (cs : List Char) :
    octets (c :: cs) = c :: octets cs := by
  rw [← List.singleton_append, octets_append, octets_singleton ascii, List.singleton_append]

/-- A text of ASCII is its own octets. -/
theorem octets_of_ascii {cs : List Char} (ascii : ∀ c ∈ cs, c.toNat < 0x80) : octets cs = cs := by
  induction cs with
  | nil => rfl
  | cons c cs ih =>
    obtain ⟨first, others⟩ := List.forall_mem_cons.mp ascii
    rw [octets_cons first, ih others]

theorem octets_intercalate (sep : List Char) (texts : List (List Char)) :
    octets (sep.intercalate texts) = (octets sep).intercalate (texts.map octets) := by
  induction texts with
  | nil => rfl
  | cons text texts ih =>
    cases texts with
    | nil => simp only [List.map_singleton, List.intercalate_singleton]
    | cons next texts =>
      rw [List.intercalate_cons_cons, octets_append, octets_append, ih]
      exact List.intercalate_cons_cons.symm

/-- Past ASCII, all octets of a character lie past it too. -/
theorem le_toNat_of_mem_octets {c o : Char} (high : 0x80 ≤ c.toNat) (mem : o ∈ octets [c]) :
    0x80 ≤ o.toNat := by
  obtain ⟨-, bound⟩ := toNat_valid c
  have octet {n : ℕ} (low : 0x80 ≤ n) (small : n < 256) :
      0x80 ≤ (Char.ofNat n.toUInt8.toNat).toNat := by
    rw [toNat_octet small, toNat_char small]
    exact low
  rw [octets, encode, List.flatMap_singleton, encodeChar] at mem
  generalize c.toNat = n at high bound mem
  rw [if_neg (by omega)] at mem
  split at mem
  · obtain rfl | rfl := List.mem_pair.mp mem <;> exact octet (by omega) (by omega)
  split at mem
  · simp only [spread, List.map_cons, List.map_nil, List.mem_cons, List.not_mem_nil,
      or_false] at mem
    obtain rfl | rfl | rfl := mem <;> exact octet (by omega) (by omega)
  · simp only [spread, List.map_cons, List.map_nil, List.mem_cons, List.not_mem_nil,
      or_false] at mem
    obtain rfl | rfl | rfl | rfl := mem <;> exact octet (by omega) (by omega)

/-! ## Lenient reading -/

theorem decodeLenient_encodeChar_append (c : Char) :
    decodeLenient (encodeChar c ++ rest) = c :: decodeLenient rest := by
  obtain ⟨a, more, octets, read⟩ := step_encodeChar rest c
  rw [octets, List.cons_append, decodeLenient]
  split
  · rename_i found
    rw [read] at found
    cases found
    rfl
  · rename_i found
    rw [read] at found
    cases found

theorem decodeLenient_encode (cs : List Char) : decodeLenient (encode cs) = cs := by
  induction cs with
  | nil => exact decodeLenient.eq_1
  | cons c cs ih =>
    have octets : encode (c :: cs) = encodeChar c ++ encode cs := List.flatMap_cons
    rw [octets, decodeLenient_encodeChar_append, ih]

end AnalysisPanel.Text.Utf8
