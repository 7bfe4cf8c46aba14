import AnalysisPanel.Proofs.Text.Utf8
import AnalysisPanel.Url.Form

/-! Queries of pairs. Names and values are written in characters that end neither a pair nor a
query, so they are read back whatever they are, and a pair added at the end of a query leaves the
pairs before it as they are. -/

namespace AnalysisPanel.Url

open Text

/-! ## Characters -/

/-- The characters in which names and values are written. -/
def IsFormChar (c : Char) : Prop := c.isAlphanum = true ∨ c ∈ ['*', '-', '.', '_', '+', '%']

instance (c : Char) : Decidable (IsFormChar c) := inferInstanceAs (Decidable (_ ∨ _))

theorem IsFormChar.ne {c : Char} (written : IsFormChar c) : c ≠ '&' ∧ c ≠ '=' ∧ c ≠ '#' := by
  refine ⟨?_, ?_, ?_⟩ <;> rintro rfl <;> exact absurd written (by decide)

/-- Hexadecimal digits in upper case are ASCII, are no plus signs, and have their value. -/
theorem hexUpper_spec : ∀ n < 16, IsFormChar (hexUpper n) ∧ hexUpper n ≠ '+' ∧
    (hexUpper n).toNat < 0x80 ∧ hexDigit? (hexUpper n) = some n := by
  decide

theorem encodeChar_of_lt {c : Char} (ascii : c.toNat < 0x80) :
    Utf8.encodeChar c = [c.toNat.toUInt8] := if_pos ascii

/-- An octet that stands for itself is the character of its value, and no mark of the writing. -/
theorem isFormPlain_spec {b : UInt8} (plain : isFormPlain b = true) :
    ∃ c : Char, Char.ofNat b.toNat = c ∧ Utf8.encodeChar c = [b] ∧ IsFormChar c ∧ c ≠ '+' ∧
      b ≠ 0x25 := by
  simp only [isFormPlain, Bool.and_eq_true, decide_eq_true_eq, UInt8.lt_iff_toNat_lt,
    UInt8.reduceToNat] at plain
  obtain ⟨ascii, kind⟩ := plain
  have value : (Char.ofNat b.toNat).toNat = b.toNat := by
    rw [Char.ofNat, dif_pos (.inl (Nat.lt_trans ascii (by decide)))]
    rfl
  refine ⟨_, rfl, ?_, ?_, ?_, ?_⟩
  · rw [encodeChar_of_lt (by rwa [value]), value, Nat.toUInt8_eq, UInt8.ofNat_toNat]
  · simp only [Bool.or_eq_true, beq_iff_eq, or_assoc] at kind
    simpa [IsFormChar] using kind.imp_right fun mark => by tauto
  · intro plus
    rw [plus] at kind
    exact absurd kind (by decide)
  · rintro rfl
    exact absurd kind (by decide)

theorem isFormChar_of_mem_percentOctet {b : UInt8} {c : Char} (hc : c ∈ percentOctet b) :
    IsFormChar c := by
  have digits : b.toNat / 16 < 16 ∧ b.toNat % 16 < 16 := by
    have bound := b.toNat_lt
    omega
  simp only [percentOctet, List.mem_cons, List.not_mem_nil, or_false] at hc
  rcases hc with rfl | rfl | rfl
  · decide
  · exact (hexUpper_spec _ digits.1).1
  · exact (hexUpper_spec _ digits.2).1

theorem isFormChar_of_mem_formOctet {b : UInt8} {c : Char} (hc : c ∈ formOctet b) :
    IsFormChar c := by
  unfold formOctet at hc
  split at hc
  · next plain =>
    obtain ⟨_, char, -, written, -⟩ := isFormPlain_spec plain
    obtain rfl := List.mem_singleton.mp hc
    rwa [char]
  split at hc
  · obtain rfl := List.mem_singleton.mp hc
    decide
  · exact isFormChar_of_mem_percentOctet hc

theorem isFormChar_of_mem_formEncode {cs : List Char} {c : Char} (hc : c ∈ formEncode cs) :
    IsFormChar c := by
  obtain ⟨b, -, hc⟩ := List.mem_flatMap.mp hc
  exact isFormChar_of_mem_formOctet hc

/-! ## Names and values -/

/-- The octets of a written name or value, its plus signs read as blanks. -/
def written (cs : List Char) : Bytes := Utf8.encode (cs.map fun c => if c = '+' then ' ' else c)

theorem formDecode_eq (cs : List Char) :
    formDecode cs = String.ofList (Utf8.decodeLenient (percentDecode (written cs))) := rfl

theorem written_append (cs ds : List Char) : written (cs ++ ds) = written cs ++ written ds := by
  simp only [written, Utf8.encode, List.map_append, List.flatMap_append]

theorem written_of_ne {c : Char} (plain : c ≠ '+') : written [c] = Utf8.encodeChar c := by
  simp [written, Utf8.encode, plain]

theorem percentDecode_cons {b : UInt8} (plain : b ≠ 0x25) (rest : Bytes) :
    percentDecode (b :: rest) = b :: percentDecode rest := by
  match rest with
  | [] | [_] => rfl
  | _ :: _ :: _ => rw [percentDecode, if_neg plain]

theorem percentDecode_percent {x y : ℕ} (hx : x < 16) (hy : y < 16) (rest : Bytes) :
    percentDecode (0x25 :: (hexUpper x).toNat.toUInt8 :: (hexUpper y).toNat.toUInt8 :: rest) =
      (x * 16 + y).toUInt8 :: percentDecode rest := by
  obtain ⟨-, -, asciix, digitx⟩ := hexUpper_spec x hx
  obtain ⟨-, -, asciiy, digity⟩ := hexUpper_spec y hy
  rw [percentDecode, if_pos rfl, Utf8.toNat_octet (by omega), Utf8.toNat_octet (by omega),
    Char.ofNat_toNat, Char.ofNat_toNat, digitx, digity]

/-- Each octet is read as it was written. -/
theorem percentDecode_written_octet (b : UInt8) (rest : Bytes) :
    percentDecode (written (formOctet b) ++ rest) = b :: percentDecode rest := by
  unfold formOctet
  split
  · next plain =>
    obtain ⟨c, char, octets, -, plus, percent⟩ := isFormPlain_spec plain
    rw [char, written_of_ne plus, octets]
    exact percentDecode_cons percent rest
  split
  · next blank =>
    subst blank
    exact percentDecode_cons (by decide) rest
  · have bound := b.toNat_lt
    have high : b.toNat / 16 < 16 := by omega
    have low : b.toNat % 16 < 16 := by omega
    have value : b.toNat / 16 * 16 + b.toNat % 16 = b.toNat := by omega
    obtain ⟨-, plusHigh, asciiHigh, -⟩ := hexUpper_spec _ high
    obtain ⟨-, plusLow, asciiLow, -⟩ := hexUpper_spec _ low
    have octets : written (percentOctet b) = [0x25, (hexUpper (b.toNat / 16)).toNat.toUInt8,
        (hexUpper (b.toNat % 16)).toNat.toUInt8] := by
      simp only [percentOctet, written, Utf8.encode, List.map_cons, List.map_nil, if_neg plusHigh,
        if_neg plusLow, List.flatMap_cons, List.flatMap_nil, encodeChar_of_lt asciiHigh,
        encodeChar_of_lt asciiLow]
      rfl
    rw [octets]
    refine (percentDecode_percent high low rest).trans ?_
    rw [value, Nat.toUInt8_eq, UInt8.ofNat_toNat]

theorem percentDecode_written (bytes : Bytes) :
    percentDecode (written (bytes.flatMap formOctet)) = bytes := by
  induction bytes with
  | nil => rfl
  | cons b bytes ih =>
    rw [List.flatMap_cons, written_append, percentDecode_written_octet, ih]

/-- What is written is read back. -/
theorem formDecode_formEncode (cs : List Char) : formDecode (formEncode cs) = String.ofList cs := by
  rw [formDecode_eq, formEncode, percentDecode_written, Utf8.decodeLenient_encode]

/-! ## Pairs -/

theorem formPairOf_formPair (name value : String) :
    formPairOf (formPair name value) = (name, value) := by
  have cut : (formPair name value).takeWhile (· != '=') = formEncode name.toList := by
    rw [formPair, List.takeWhile_append_of_pos]
    · simp
    · intro c hc
      simpa using (isFormChar_of_mem_formEncode hc).ne.2.1
  have rest : (formPair name value).drop ((formEncode name.toList).length + 1) =
      formEncode value.toList := by
    rw [formPair, ← List.drop_drop, List.drop_left, List.drop_one, List.tail_cons]
  rw [formPairOf, cut, rest, formDecode_formEncode, formDecode_formEncode, String.ofList_toList,
    String.ofList_toList]

theorem splitAt_ne_nil (sep : Char) (cs : List Char) : splitAt sep cs ≠ [] := by
  cases cs with
  | nil => exact List.cons_ne_nil _ _
  | cons c cs =>
    unfold splitAt
    repeat' split
    all_goals exact List.cons_ne_nil _ _

theorem splitAt_cons_self (sep : Char) (cs : List Char) :
    splitAt sep (sep :: cs) = [] :: splitAt sep cs := if_pos rfl

theorem splitAt_cons_of_ne {sep c : Char} {cs part : List Char} {parts : List (List Char)}
    (other : c ≠ sep) (split : splitAt sep cs = part :: parts) :
    splitAt sep (c :: cs) = (c :: part) :: parts := by
  rw [splitAt, if_neg other, split]

theorem splitAt_of_not_mem {sep : Char} {cs : List Char} (free : sep ∉ cs) :
    splitAt sep cs = [cs] := by
  induction cs with
  | nil => rfl
  | cons c cs ih =>
    rw [List.mem_cons, not_or] at free
    exact splitAt_cons_of_ne (Ne.symm free.1) (ih free.2)

/-- A text is split at each separator, whatever is before and after it. -/
theorem splitAt_append (sep : Char) (cs ds : List Char) :
    splitAt sep (cs ++ sep :: ds) = splitAt sep cs ++ splitAt sep ds := by
  induction cs with
  | nil => exact splitAt_cons_self sep ds
  | cons c cs ih =>
    rw [List.cons_append]
    by_cases same : c = sep
    · subst same
      rw [splitAt_cons_self, splitAt_cons_self, ih, List.cons_append]
    · obtain ⟨part, parts, before⟩ := List.exists_cons_of_ne_nil (splitAt_ne_nil sep cs)
      rw [before] at ih
      rw [splitAt_cons_of_ne same before]
      exact splitAt_cons_of_ne same ih

theorem formPairs_append (before after : List Char) :
    formPairs (before ++ '&' :: after) = formPairs before ++ formPairs after := by
  simp only [formPairs, splitAt_append, List.filter_append, List.map_append]

theorem not_mem_formPair (name value : String) : '&' ∉ formPair name value := by
  simp only [formPair, List.mem_append, List.mem_cons, not_or]
  exact ⟨fun hc => (isFormChar_of_mem_formEncode hc).ne.1 rfl, by decide,
    fun hc => (isFormChar_of_mem_formEncode hc).ne.1 rfl⟩

theorem formPairs_formPair (name value : String) :
    formPairs (formPair name value) = [(name, value)] := by
  have content : (formPair name value).isEmpty = false := by simp [formPair]
  simp only [formPairs, splitAt_of_not_mem (not_mem_formPair name value), List.filter_cons,
    content, Bool.not_false, if_true, List.filter_nil, List.map_cons, List.map_nil,
    formPairOf_formPair]

/-- A pair added to a query comes after the pairs that are there. -/
theorem queryPairs_addPair (u : Url) (name value : String) :
    (u.addPair name value).queryPairs = u.queryPairs ++ [(name, value)] := by
  have before : u.queryPairs = formPairs (u.query.getD "").toList := by
    unfold queryPairs
    cases u.query <;> rfl
  rw [before]
  unfold addPair queryPairs
  dsimp only
  rw [String.toList_ofList]
  cases (u.query.getD "").toList with
  | nil => exact formPairs_formPair name value
  | cons c cs =>
    rw [← formPairs_formPair name value, ← formPairs_append]
    simp

/-- Only a separator and the characters of a pair come to the query. -/
theorem query_addPair (u : Url) (name value : String) :
    ∃ added : List Char, (u.addPair name value).query =
      some (u.query.getD "" ++ String.ofList added) ∧
        ∀ c ∈ added, c = '&' ∨ c = '=' ∨ IsFormChar c := by
  refine ⟨(if (u.query.getD "").toList.isEmpty then [] else ['&']) ++ formPair name value, ?_, ?_⟩
  · simp only [addPair, List.append_assoc, String.ofList_append, String.ofList_toList]
  · intro c hc
    rcases List.mem_append.mp hc with sep | pair
    · split at sep
      · cases sep
      · exact .inl (List.mem_singleton.mp sep)
    · rcases List.mem_append.mp pair with name | value
      · exact .inr (.inr (isFormChar_of_mem_formEncode name))
      · rcases List.mem_cons.mp value with equals | value
        · exact .inr (.inl equals)
        · exact .inr (.inr (isFormChar_of_mem_formEncode value))

end AnalysisPanel.Url
