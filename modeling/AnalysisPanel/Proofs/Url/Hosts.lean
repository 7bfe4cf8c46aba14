import AnalysisPanel.Proofs.Url.Addresses
import AnalysisPanel.Url.Parser

/-! Hosts of URLs, as they are written. An address is read back whatever it is, and so are the host
of a URL that is not special and a name whose labels are all of ASCII. Labels of more than ASCII are
written in ASCII behind a mark of their own; whether such a name is read back lies with the rules
for names of hosts. -/

namespace AnalysisPanel.Url

open Text

/-! ## Written octets -/

theorem mem_percentEncode {set : Char → Bool} {cs : List Char} {c : Char}
    (hc : c ∈ percentEncode set cs) : c ∈ cs ∧ set c = false ∨ IsFormChar c := by
  obtain ⟨d, hd, hc⟩ := List.mem_flatMap.mp hc
  split at hc
  · obtain ⟨b, -, hc⟩ := List.mem_flatMap.mp hc
    exact .inr (isFormChar_of_mem_percentOctet hc)
  · rename_i plain
    obtain rfl := List.mem_singleton.mp hc
    exact .inl ⟨hd, Bool.not_eq_true _ ▸ plain⟩

theorem percentEncode_eq_self {set : Char → Bool} {cs : List Char}
    (plain : ∀ c ∈ cs, set c = false) : percentEncode set cs = cs := by
  induction cs with
  | nil => rfl
  | cons c cs ih =>
    rw [List.forall_mem_cons] at plain
    have rest := ih plain.2
    simp_all [percentEncode]

/-- Octets without a percent sign stand for themselves. -/
theorem percentDecode_encode {cs : List Char} (ascii : ∀ c ∈ cs, c.toNat < 0x80)
    (plain : '%' ∉ cs) : percentDecode (Utf8.encode cs) = Utf8.encode cs := by
  induction cs with
  | nil => rfl
  | cons c cs ih =>
    rw [List.forall_mem_cons] at ascii
    rw [List.mem_cons, not_or] at plain
    have octet : c.toNat.toUInt8 ≠ 0x25 := by
      intro same
      have value := congrArg UInt8.toNat same
      rw [Utf8.toNat_octet (by omega)] at value
      exact plain.1 (Char.toNat_inj.mp value).symm
    have octets : Utf8.encode (c :: cs) = c.toNat.toUInt8 :: Utf8.encode cs := by
      rw [Utf8.encode, List.flatMap_cons, encodeChar_of_lt ascii.1]
      rfl
    rw [octets, percentDecode_cons octet, ih ascii.2 plain.2]

/-! ## Characters of hosts -/

/-- What a table says of all codes below a bound holds of the characters of these codes. -/
theorem of_codes {P : Char → Prop} {bound : ℕ} (table : ∀ n < bound, P (Char.ofNat n)) {c : Char}
    (small : c.toNat < bound) : P c :=
  Char.ofNat_toNat c ▸ table c.toNat small

/-- What a table says of all characters of a text holds of each of them. -/
theorem of_all {P : Char → Prop} [DecidablePred P] {cs : List Char}
    (table : cs.all (fun c => decide (P c)) = true) : ∀ c ∈ cs, P c := by
  simpa using table

theorem toNat_ne_of_ne {c d : Char} (other : c ≠ d) : c.toNat ≠ d.toNat :=
  fun same => other (Char.toNat_inj.mp same)

theorem controlSet_eq_false_iff {c : Char} :
    controlSet c = false ↔ 0x20 ≤ c.toNat ∧ c.toNat ≤ 0x7E := by
  simp [controlSet]

/-- What ends the part of a URL before its path, or the user in it. -/
def authorityMarks : List Char := ['/', '\\', '?', '#', '@']

/-- What ends the name of a host besides. -/
def hostMarks : List Char := [':', '[', ']']

/-- What stands between the slashes of a URL and its path, but for the sign behind a user. -/
def IsInner (c : Char) : Prop := 0x20 < c.toNat ∧ c ∉ authorityMarks

instance (c : Char) : Decidable (IsInner c) := inferInstanceAs (Decidable (_ ∧ _))

/-- What stands in the name of a host. -/
def IsNameChar (c : Char) : Prop := IsInner c ∧ c ∉ hostMarks

instance (c : Char) : Decidable (IsNameChar c) := inferInstanceAs (Decidable (_ ∧ _))

theorem toNat_of_isAlphanum {c : Char} (alphanum : c.isAlphanum = true) :
    0x30 ≤ c.toNat ∧ c.toNat ≤ 0x39 ∨ 0x41 ≤ c.toNat ∧ c.toNat ≤ 0x5A ∨
      0x61 ≤ c.toNat ∧ c.toNat ≤ 0x7A := by
  delta Char.isAlphanum Char.isAlpha Char.isUpper Char.isLower Char.isDigit at alphanum
  simp [UInt32.le_iff_toNat_le] at alphanum
  have code : c.val.toNat = c.toNat := rfl
  omega

theorem IsFormChar.bounds {c : Char} (written : IsFormChar c) :
    0x20 < c.toNat ∧ c.toNat < 0x7F := by
  rcases written with alphanum | mark
  · have bounds := toNat_of_isAlphanum alphanum
    omega
  · simp only [List.mem_cons, List.not_mem_nil, or_false] at mark
    rcases mark with rfl | rfl | rfl | rfl | rfl | rfl <;> decide

theorem IsFormChar.isNameChar {c : Char} (written : IsFormChar c) : IsNameChar c := by
  have inner : ∀ d ∈ authorityMarks, ¬ IsFormChar d := of_all (by decide)
  have colon : ∀ d ∈ hostMarks, ¬ IsFormChar d := of_all (by decide)
  exact ⟨⟨written.bounds.1, fun other => inner c other written⟩,
    fun other => colon c other written⟩

theorem isNameChar_of_allowed {c : Char} (allowed : isForbidden c = false) : IsNameChar c := by
  have inner : ∀ d ∈ authorityMarks, isForbidden d = true := of_all (by decide)
  have colon : ∀ d ∈ hostMarks, isForbidden d = true := of_all (by decide)
  refine ⟨⟨?_, fun other => ?_⟩, fun other => ?_⟩
  · simp only [isForbidden, Bool.or_eq_false_iff, decide_eq_false_iff_not] at allowed
    exact Nat.not_le.mp allowed.1.1
  · exact Bool.false_ne_true (allowed.symm.trans (inner c other))
  · exact Bool.false_ne_true (allowed.symm.trans (colon c other))

/-! ## Names of plain labels -/

/-- A name in lower case whose labels are of ASCII and do not stand for any of more. -/
structure IsPlainName (cs : List Char) : Prop where
  ascii : ∀ c ∈ cs, c.toNat < 0x80
  lower : ∀ c ∈ cs, c.toLower = c
  unmarked : ∀ label ∈ splitAt '.' cs, ¬ writtenMark <+: label

instance (cs : List Char) : Decidable (IsPlainName cs) :=
  decidable_of_iff ((cs.all fun c => decide (c.toNat < 0x80 ∧ c.toLower = c)) = true ∧
      ((splitAt '.' cs).all fun label => !writtenMark.isPrefixOf label) = true) <| by
    simp only [List.all_eq_true, decide_eq_true_eq, Bool.not_eq_true', Bool.eq_false_iff, ne_eq,
      List.isPrefixOf_iff_prefix]
    exact ⟨fun ⟨letters, unmarked⟩ => ⟨fun c hc => (letters c hc).1, fun c hc => (letters c hc).2,
      unmarked⟩, fun plain => ⟨fun c hc => ⟨plain.ascii c hc, plain.lower c hc⟩, plain.unmarked⟩⟩

theorem mem_of_mem_splitAt {sep c : Char} {cs part : List Char} (hp : part ∈ splitAt sep cs)
    (hc : c ∈ part) : c ∈ cs := by
  induction cs generalizing part with
  | nil =>
    obtain rfl := List.mem_singleton.mp hp
    exact hc
  | cons d cs ih =>
    obtain ⟨first, parts, before⟩ := List.exists_cons_of_ne_nil (splitAt_ne_nil sep cs)
    rw [before] at ih
    by_cases same : d = sep
    · subst same
      rw [splitAt_cons_self, before] at hp
      rcases List.mem_cons.mp hp with rfl | hp
      · cases hc
      · exact List.mem_cons_of_mem _ (ih hp hc)
    · rw [splitAt_cons_of_ne same before] at hp
      rcases List.mem_cons.mp hp with rfl | hp
      · rcases List.mem_cons.mp hc with rfl | hc
        · exact List.mem_cons_self
        · exact List.mem_cons_of_mem _ (ih List.mem_cons_self hc)
      · exact List.mem_cons_of_mem _ (ih (List.mem_cons_of_mem _ hp) hc)

/-- The parts of a text with the separator between them are the text. -/
theorem flatten_intersperse_splitAt (sep : Char) (cs : List Char) :
    ((splitAt sep cs).intersperse [sep]).flatten = cs := by
  induction cs with
  | nil => rfl
  | cons c cs ih =>
    obtain ⟨part, parts, before⟩ := List.exists_cons_of_ne_nil (splitAt_ne_nil sep cs)
    rw [before] at ih
    by_cases same : c = sep
    · subst same
      rw [splitAt_cons_self, before]
      simpa using ih
    · rw [splitAt_cons_of_ne same before]
      cases parts <;> simp_all

/-- Nothing in ASCII is written from right to left. -/
theorem isLeftward_directionOf {c : Char} (ascii : c.toNat < 0x80) :
    isLeftward (directionOf c) = false := by
  have table : ∀ entry ∈ directions, isLeftward entry.1 = true →
      ∀ r ∈ entry.2.ranges, 0x80 ≤ r.1 := by decide +kernel
  unfold directionOf
  cases found : directions.find? fun entry => entry.2.has c with
  | none => rfl
  | some entry =>
    refine Bool.eq_false_iff.mpr fun leftward => ?_
    have holds := List.find?_some found
    obtain ⟨r, hr, low, -⟩ := CharClass.has_iff.mp holds
    have first := table entry (List.mem_of_find?_eq_some found) leftward r hr
    omega

theorem spell?_of_lower {cs : List Char} (ascii : ∀ c ∈ cs, c.toNat < 0x80)
    (lower : ∀ c ∈ cs, c.toLower = c) : spell? cs = some cs := by
  have each : cs.mapM spellChar? = some (cs.map ([·])) := by
    induction cs with
    | nil => rfl
    | cons c cs ih =>
      rw [List.forall_mem_cons] at ascii lower
      have first : spellChar? c = some [c] := by
        rw [spellChar?, if_pos ascii.1, lower.1]
      simp [List.mapM_cons, first, ih ascii.2 lower.2]
  rw [spell?, each, Option.map_some, ← List.flatMap_def, List.flatMap_singleton']

theorem labels?_of_plain {cs : List Char} (plain : IsPlainName cs) :
    labels? cs = some ((splitAt '.' cs).map fun label => ⟨label, label⟩) := by
  have composed : compose cs = cs := if_pos (by simpa using plain.ascii)
  have label {part : List Char} (hp : part ∈ splitAt '.' cs) :
      Label.ofText? part = some ⟨part, part⟩ := by
    have ascii : isAscii part = true := by
      simpa [isAscii] using fun c hc => plain.ascii c (mem_of_mem_splitAt hp hc)
    have unmarked : ¬ writtenMark.isPrefixOf part = true :=
      fun marked => plain.unmarked part hp (List.isPrefixOf_iff_prefix.mp marked)
    rw [Label.ofText?, if_neg unmarked, if_pos ascii]
  have each (parts : List (List Char)) (among : parts ⊆ splitAt '.' cs) :
      parts.mapM Label.ofText? = some (parts.map fun part => ⟨part, part⟩) := by
    induction parts with
    | nil => rfl
    | cons part parts ih =>
      obtain ⟨here, among⟩ := List.cons_subset.mp among
      simp [List.mapM_cons, label here, ih among]
  rw [labels?, spell?_of_lower plain.ascii plain.lower, Option.bind_some, composed]
  exact each _ (List.Subset.refl _)

/-- A plain name stands in ASCII as it is. -/
theorem nameToAscii?_of_plain {cs : List Char} (plain : IsPlainName cs)
    (allowed : ∀ c ∈ cs, isForbidden c = false) : nameToAscii? cs = some cs := by
  have written : ((((splitAt '.' cs).map fun label => (⟨label, label⟩ : Label)).map
      Label.written).intersperse ['.']).flatten = cs := by
    simpa [Function.comp_def] using flatten_intersperse_splitAt '.' cs
  have mixed : (((splitAt '.' cs).map fun label => (⟨label, label⟩ : Label)).any fun l =>
      l.plain.any fun c => isLeftward (directionOf c)) = false := by
    simp only [List.any_map, List.any_eq_false, Function.comp_apply, Bool.not_eq_true]
    intro part hp c hc
    exact isLeftward_directionOf (plain.ascii c (mem_of_mem_splitAt hp hc))
  have ordered : inOrder ((splitAt '.' cs).map fun label => ⟨label, label⟩) = true := by
    rw [inOrder, mixed]
    rfl
  rw [nameToAscii?, labels?_of_plain plain]
  simp only [written, ordered]
  rw [if_neg]
  simpa using allowed

theorem nameToAscii?_allowed {cs name : List Char} (written : nameToAscii? cs = some name) :
    ∀ c ∈ name, isForbidden c = false := by
  unfold nameToAscii? at written
  split at written
  · dsimp only at written
    split at written
    · cases written
    · rename_i fits
      cases written
      rw [not_or] at fits
      intro c hc
      exact Bool.eq_false_iff.mpr fun forbidden =>
        fits.1 (List.any_eq_true.mpr ⟨c, hc, forbidden⟩)
  · cases written

/-- What is read of a plain name: an address where its last label is a number, and otherwise the
name as it is. -/
theorem Host.special_of_plain {cs : List Char} (plain : IsPlainName cs)
    (allowed : ∀ c ∈ cs, isForbidden c = false) (nonempty : cs ≠ []) :
    Host.special cs =
      if endsInNumber cs then
        match ipv4? cs with
        | some n => .ok (.ipv4 n)
        | none => .error .invalidIpv4
      else .ok (.name (String.ofList cs)) := by
  have bare (c : Char) (forbidden : isForbidden c = true) : c ∉ cs := by
    intro hc
    rw [allowed c hc] at forbidden
    cases forbidden
  have open_ : ¬ cs.head? = some '[' := fun first =>
    bare '[' rfl (List.mem_of_mem_head? first)
  rw [Host.special, if_neg open_, percentDecode_encode plain.ascii (bare '%' rfl),
    Utf8.decode_encode, Option.bind_some, nameToAscii?_of_plain plain allowed]
  cases cs with
  | nil => exact absurd rfl nonempty
  | cons c cs => rfl

theorem ipv4Text_ne_nil (n : ℕ) : (ipv4Text n).toList ≠ [] := by
  rw [toList_ipv4Text]
  simp

/-- What is written in addresses of four octets. -/
def octetChars : List Char := ['0', '1', '2', '3', '4', '5', '6', '7', '8', '9', '.']

theorem mem_ipv4Text {n : ℕ} {c : Char} (hc : c ∈ (ipv4Text n).toList) : c ∈ octetChars := by
  have digit {k : ℕ} (hc : c ∈ Nat.toDigits 10 k) : c ∈ octetChars := by
    have bounds := toNat_of_mem_toDigits hc
    exact of_codes (P := fun c => 48 ≤ c.toNat → c ∈ octetChars) (by decide)
      (Nat.lt_succ_of_le bounds.2) bounds.1
  rw [toList_ipv4Text] at hc
  simp only [List.mem_append, List.mem_cons (b := '.')] at hc
  rcases hc with hc | rfl | hc | rfl | hc | rfl | hc
  all_goals first | exact digit hc | decide

/-- An address of four octets is read back. -/
theorem Host.special_ipv4Text {n : ℕ} (bounded : n < 2 ^ 32) :
    Host.special (ipv4Text n).toList = .ok (.ipv4 n) := by
  have each : ∀ c ∈ octetChars,
      c.toNat < 0x80 ∧ c.toLower = c ∧ isForbidden c = false ∧ c ≠ 'x' := of_all (by decide)
  have plain : IsPlainName (ipv4Text n).toList :=
    { ascii := fun c hc => (each c (mem_ipv4Text hc)).1
      lower := fun c hc => (each c (mem_ipv4Text hc)).2.1
      unmarked := fun label hl marked => (each 'x' (mem_ipv4Text (mem_of_mem_splitAt hl
        (marked.subset (by decide))))).2.2.2 rfl }
  have allowed : ∀ c ∈ (ipv4Text n).toList, isForbidden c = false :=
    fun c hc => (each c (mem_ipv4Text hc)).2.2.1
  rw [special_of_plain plain allowed (ipv4Text_ne_nil n), if_pos (endsInNumber_ipv4Text n)]
  simp only [ipv4?_ipv4Text bounded]

/-! ## Addresses between brackets -/

theorem bracketed?_eq_ok {cs : List Char} {h : Host} (read : bracketed? cs = .ok h) :
    ∃ pieces, IsPieces pieces ∧ h = .ipv6 pieces := by
  unfold bracketed? at read
  split at read
  · split at read
    · rename_i pieces inside
      cases read
      exact ⟨pieces, ipv6?_isPieces inside, rfl⟩
    · cases read
  · cases read

theorem toList_ipv6 (pieces : List ℕ) :
    (Host.ipv6 pieces).text.toList = '[' :: ((ipv6Text pieces).toList ++ [']']) := by
  simp [Host.text]

/-- An address of eight pieces is read back. -/
theorem bracketed?_ipv6 {pieces : List ℕ} (address : IsPieces pieces) :
    bracketed? (Host.ipv6 pieces).text.toList = .ok (.ipv6 pieces) := by
  have closed : (Host.ipv6 pieces).text.toList.getLast? = some ']' := by
    rw [toList_ipv6, ← List.cons_append, List.getLast?_concat]
  have inside : ((Host.ipv6 pieces).text.toList.drop 1).dropLast = (ipv6Text pieces).toList := by
    rw [toList_ipv6, List.drop_one, List.tail_cons, List.dropLast_concat]
  rw [bracketed?, if_pos closed, inside, ipv6?_ipv6Text address]

/-- What is written in addresses of eight pieces. -/
theorem mem_ipv6Text {pieces : List ℕ} {c : Char} (hc : c ∈ (ipv6Text pieces).toList) :
    c = ':' ∨ ∃ d < 16, d.digitChar = c := by
  have inside {pieces : List ℕ} (hc : c ∈ (piecesText pieces).toList) :
      c = ':' ∨ ∃ d < 16, d.digitChar = c := by
    obtain rfl | ⟨front, p, rfl⟩ := List.eq_nil_or_concat pieces
    · simp [piecesText] at hc
    · rw [List.concat_eq_append, toList_piecesText_concat, led, List.mem_append,
        List.mem_flatMap] at hc
      rcases hc with ⟨q, -, hc⟩ | hc
      · rcases List.mem_append.mp hc with digit | colon
        · exact .inr (exists_digit_of_mem_hexText digit)
        · exact .inl (List.mem_singleton.mp colon)
      · exact .inr (exists_digit_of_mem_hexText hc)
  unfold ipv6Text at hc
  dsimp only at hc
  split at hc
  · exact inside hc
  · simp only [String.toList_append, List.mem_append] at hc
    rcases hc with (hc | colons) | hc
    · exact inside hc
    · exact .inl (by simpa using colons)
    · exact inside hc

/-! ## Hosts that are written -/

/-- A host as URLs have it. What its name holds depends on whether the URL is special. -/
inductive Host.Written (special : Bool) : Host → Prop where
  | name (text : String) (chars : ∀ c ∈ text.toList, IsNameChar c)
      (named : special = true → text ≠ "" ∧ (∀ c ∈ text.toList, isForbidden c = false) ∧
        endsInNumber text.toList = false)
      (plain : special = false → Host.plain text.toList = .ok (.name text)) :
      Host.Written special (.name text)
  | ipv4 (n : ℕ) (named : special = true) (bounded : n < 2 ^ 32) : Host.Written special (.ipv4 n)
  | ipv6 (pieces : List ℕ) (address : IsPieces pieces) : Host.Written special (.ipv6 pieces)

theorem Host.written_of_special {cs : List Char} {h : Host} (read : Host.special cs = .ok h) :
    h.Written true := by
  unfold Host.special at read
  split at read
  · obtain ⟨pieces, address, rfl⟩ := bracketed?_eq_ok read
    exact .ipv6 pieces address
  · split at read
    · cases read
    · cases read
    · rename_i domain nonempty found
      split at read
      · split at read
        · rename_i n value
          cases read
          exact .ipv4 n rfl (ipv4?_lt value)
        · cases read
      · rename_i numberless
        cases read
        obtain ⟨_, -, name⟩ := Option.bind_eq_some_iff.mp found
        have allowed : ∀ c ∈ (String.ofList domain).toList, isForbidden c = false := by
          simpa using nameToAscii?_allowed name
        refine .name _ (fun c hc => isNameChar_of_allowed (allowed c hc)) (fun _ => ?_) nofun
        exact ⟨by simpa using nonempty, allowed, by simpa using numberless⟩

/-- What no host of a URL that is not special holds. -/
def plainForbidden : List Char :=
  ['\x00', '\t', '\n', '\r', ' ', '#', '/', ':', '<', '>', '?', '@', '[', '\\', ']', '^', '|']

theorem Host.plain_eq {cs : List Char} (allowed : ∀ c ∈ cs, c ∉ plainForbidden) :
    Host.plain cs = .ok (.name (String.ofList (percentEncode controlSet cs))) := by
  have open_ : ¬ cs.head? = some '[' := fun first =>
    allowed '[' (List.mem_of_mem_head? first) (by decide)
  unfold Host.plain
  rw [if_neg open_, if_neg]
  simpa [plainForbidden] using allowed

theorem IsFormChar.kept {c : Char} (written : IsFormChar c) :
    c ∉ plainForbidden ∧ controlSet c = false := by
  have bounds := written.bounds
  have marks : ∀ d ∈ plainForbidden, ¬ IsFormChar d := of_all (by decide)
  refine ⟨fun other => marks c other written, ?_⟩
  exact controlSet_eq_false_iff.mpr ⟨Nat.le_of_lt bounds.1, Nat.le_of_lt_succ bounds.2⟩

theorem isNameChar_of_kept {c : Char} (allowed : c ∉ plainForbidden)
    (plain : controlSet c = false) : IsNameChar c := by
  have inner : ∀ d ∈ authorityMarks, d ∈ plainForbidden := of_all (by decide)
  have colon : ∀ d ∈ hostMarks, d ∈ plainForbidden := of_all (by decide)
  refine ⟨⟨?_, fun other => allowed (inner c other)⟩, fun other => allowed (colon c other)⟩
  have blank : c ≠ ' ' := by
    rintro rfl
    exact allowed (by decide)
  exact Nat.lt_of_le_of_ne (controlSet_eq_false_iff.mp plain).1 (toNat_ne_of_ne blank).symm

theorem Host.written_of_plain {cs : List Char} {h : Host} (read : Host.plain cs = .ok h) :
    h.Written false := by
  unfold Host.plain at read
  split at read
  · obtain ⟨pieces, address, rfl⟩ := bracketed?_eq_ok read
    exact .ipv6 pieces address
  · split at read
    · cases read
    · rename_i allowed
      cases read
      have kept : ∀ c ∈ percentEncode controlSet cs, c ∉ plainForbidden ∧ controlSet c = false := by
        intro c hc
        rcases mem_percentEncode hc with ⟨hc, set⟩ | written
        · refine ⟨fun other => allowed ?_, set⟩
          exact List.any_eq_true.mpr ⟨c, hc, List.contains_iff_mem.mpr other⟩
        · exact written.kept
      refine .name _ (fun c hc => ?_) nofun (fun _ => ?_)
      · rw [String.toList_ofList] at hc
        exact isNameChar_of_kept (kept c hc).1 (kept c hc).2
      · rw [String.toList_ofList, plain_eq fun c hc => (kept c hc).1,
          percentEncode_eq_self fun c hc => (kept c hc).2]

theorem Host.written_of_hostOf {special : Bool} {cs : List Char} {h : Host}
    (read : hostOf special cs = .ok h) : h.Written special := by
  unfold hostOf at read
  cases special with
  | false => exact written_of_plain read
  | true =>
    rw [if_pos rfl] at read
    split at read
    · cases read
    · exact written_of_special read

theorem hostSpan_of_name {cs rest : List Char} (chars : ∀ c ∈ cs, IsNameChar c) :
    hostSpan false (cs ++ rest) = cs ++ hostSpan false rest := by
  induction cs with
  | nil => rfl
  | cons c cs ih =>
    rw [List.forall_mem_cons] at chars
    have marks : c ≠ ':' ∧ c ≠ '[' := by
      have other := chars.1.2
      simp only [hostMarks, List.mem_cons, not_or] at other
      exact ⟨other.1, other.2.1⟩
    simp [hostSpan, marks, ih chars.2]

theorem hostSpan_inside {cs rest : List Char} (chars : ∀ c ∈ cs, c ≠ '[' ∧ c ≠ ']') :
    hostSpan true (cs ++ rest) = cs ++ hostSpan true rest := by
  induction cs with
  | nil => rfl
  | cons c cs ih =>
    rw [List.forall_mem_cons] at chars
    simp [hostSpan, chars.1, ih chars.2]

namespace Host.Written

variable {special : Bool} {h : Host}

/-- What is written of a host ends nothing before it. -/
theorem isInner (w : h.Written special) : ∀ c ∈ h.text.toList, IsInner c := by
  intro c hc
  cases w with
  | name text chars _ _ => exact (chars c hc).1
  | ipv4 n _ _ =>
    have each : ∀ c ∈ octetChars, IsInner c := of_all (by decide)
    exact each c (mem_ipv4Text hc)
  | ipv6 pieces _ =>
    rw [toList_ipv6, List.mem_cons, List.mem_append, List.mem_singleton] at hc
    rcases hc with rfl | hc | rfl
    · decide
    · rcases mem_ipv6Text hc with rfl | ⟨d, digit, rfl⟩
      · decide
      · exact (by decide : ∀ d < 16, IsInner d.digitChar) d digit
    · decide

/-- A host ends at its end or at the colon of a port. -/
theorem hostSpan_append (w : h.Written special) {rest : List Char}
    (ended : ∀ c ∈ rest.head?, c = ':') :
    hostSpan false (h.text.toList ++ rest) = h.text.toList := by
  have stop : hostSpan false rest = [] := by
    cases rest with
    | nil => rfl
    | cons c rest => simp [hostSpan, ended c rfl]
  have of_name {cs : List Char} (chars : ∀ c ∈ cs, IsNameChar c) :
      hostSpan false (cs ++ rest) = cs := by
    rw [hostSpan_of_name chars, stop, List.append_nil]
  cases w with
  | name text chars _ _ => exact of_name chars
  | ipv4 n _ _ =>
    have each : ∀ c ∈ octetChars, IsNameChar c := of_all (by decide)
    exact of_name fun c hc => each c (mem_ipv4Text hc)
  | ipv6 pieces _ =>
    have inside : ∀ c ∈ (ipv6Text pieces).toList, c ≠ '[' ∧ c ≠ ']' := by
      intro c hc
      rcases mem_ipv6Text hc with rfl | ⟨d, digit, rfl⟩
      · decide
      · exact (by decide : ∀ d < 16, d.digitChar ≠ '[' ∧ d.digitChar ≠ ']') d digit
    rw [toList_ipv6, List.cons_append, List.append_assoc, List.singleton_append]
    have closed : hostSpan true (']' :: rest) = [']'] := by simp [hostSpan, stop]
    rw [← closed, ← hostSpan_inside inside]
    simp [hostSpan]

end Host.Written

/-- What the rules for names have to grant: a name with a label that stands for one of more than
ASCII can be read as it is written. Of any other host nothing is asked. -/
def Host.Legible (special : Bool) : Host → Prop
  | .name text =>
    special = true → ¬ IsPlainName text.toList → ∃ h, Host.special text.toList = .ok h
  | .ipv4 _ | .ipv6 _ => True

/-- A host can be read as it is written. -/
theorem Host.Written.hostOf_text {special : Bool} {h : Host} (w : h.Written special)
    (legible : h.Legible special) : ∃ h', hostOf special h.text.toList = .ok h' := by
  have of_special {cs : List Char} {h : Host} (nonempty : cs ≠ [])
      (read : Host.special cs = .ok h) : ∃ h', hostOf true cs = .ok h' :=
    ⟨h, by rw [hostOf, if_pos rfl, if_neg (by simpa using nonempty), read]⟩
  cases w with
  | name text chars named plain =>
    cases special with
    | false => exact ⟨_, plain rfl⟩
    | true =>
      obtain ⟨nonempty, allowed, numberless⟩ := named rfl
      have nonempty : text.toList ≠ [] := by simpa using nonempty
      by_cases labels : IsPlainName text.toList
      · have read := Host.special_of_plain labels allowed nonempty
        rw [numberless] at read
        exact of_special nonempty read
      · obtain ⟨h', read⟩ := legible rfl labels
        exact of_special nonempty read
  | ipv4 n named bounded =>
    subst named
    exact of_special (ipv4Text_ne_nil n) (Host.special_ipv4Text bounded)
  | ipv6 pieces address =>
    have read := bracketed?_ipv6 address
    have first : (Host.ipv6 pieces).text.toList.head? = some '[' := by rw [toList_ipv6]; rfl
    cases special with
    | false => exact ⟨_, (if_pos first).trans read⟩
    | true => exact of_special (by simp [toList_ipv6]) ((if_pos first).trans read)

end AnalysisPanel.Url
