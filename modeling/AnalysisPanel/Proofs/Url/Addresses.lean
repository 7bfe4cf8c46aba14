import AnalysisPanel.Proofs.Text.Numerals
import AnalysisPanel.Proofs.Url.Form

/-! Addresses in URLs. What is read as an address of four octets lies below 2 ^ 32, what is read as
one of eight pieces has eight below 2 ^ 16, and every such address is read back as it is written. -/

namespace AnalysisPanel.Url

open Text

/-! ## Addresses of four octets -/

/-- Four octets in decimal digits with dots between them. -/
theorem toList_ipv4Text (n : ℕ) :
    (ipv4Text n).toList =
      Nat.toDigits 10 (n / 16777216) ++ '.' :: (Nat.toDigits 10 (n / 65536 % 256) ++
        '.' :: (Nat.toDigits 10 (n / 256 % 256) ++ '.' :: Nat.toDigits 10 (n % 256))) := by
  rw [ipv4Text, String.toList_intercalate]
  simp [List.intercalate, List.intersperse, Nat.toList_repr]

theorem not_mem_toDigits {n : ℕ} {c : Char} (other : c.isDigit = false) :
    c ∉ Nat.toDigits 10 n := by
  intro digit
  rw [Nat.isDigit_of_mem_toDigits (by decide) (by decide) digit] at other
  cases other

/-- The parts of an address are its octets. -/
theorem hostParts_ipv4Text (n : ℕ) :
    hostParts (ipv4Text n).toList =
      [n / 16777216, n / 65536 % 256, n / 256 % 256, n % 256].map (Nat.toDigits 10) := by
  have octet (k : ℕ) : splitAt '.' (Nat.toDigits 10 k) = [Nat.toDigits 10 k] :=
    splitAt_of_not_mem (not_mem_toDigits (by decide))
  have parts : splitAt '.' (ipv4Text n).toList =
      [n / 16777216, n / 65536 % 256, n / 256 % 256, n % 256].map (Nat.toDigits 10) := by
    simp only [toList_ipv4Text, splitAt_append, octet, List.cons_append, List.nil_append,
      List.map_cons, List.map_nil]
  rw [hostParts, parts, if_neg]
  simp

theorem endsInNumber_ipv4Text (n : ℕ) : endsInNumber (ipv4Text n).toList = true := by
  have digits : (Nat.toDigits 10 (n % 256)).all Char.isDigit = true :=
    List.all_eq_true.mpr fun c hc => Nat.isDigit_of_mem_toDigits (by decide) (by decide) hc
  simp [endsInNumber, hostParts_ipv4Text, digits]

/-- No octet is written with a zero in front, which would make it octal. -/
theorem ipv4Part?_octet : ∀ k < 256, ipv4Part? (Nat.toDigits 10 k) = some k := by
  decide +kernel

/-- An address of four octets is read back. -/
theorem ipv4?_ipv4Text {n : ℕ} (bounded : n < 2 ^ 32) : ipv4? (ipv4Text n).toList = some n := by
  have parts : (hostParts (ipv4Text n).toList).mapM ipv4Part? =
      some [n / 16777216, n / 65536 % 256, n / 256 % 256, n % 256] := by
    have octets : n / 16777216 < 256 ∧ n / 65536 % 256 < 256 ∧ n / 256 % 256 < 256 ∧
        n % 256 < 256 := by omega
    simp [hostParts_ipv4Text, ipv4Part?_octet _ octets.1, ipv4Part?_octet _ octets.2.1,
      ipv4Part?_octet _ octets.2.2.1, ipv4Part?_octet _ octets.2.2.2]
  have value : ipv4Value? [n / 16777216, n / 65536 % 256, n / 256 % 256, n % 256] =
      some ((256 * (256 * (256 * 0 + n / 16777216) + n / 65536 % 256) + n / 256 % 256) * 256 +
        n % 256) := by
    have octets : ¬ (3 < 3 ∨ [n / 256 % 256, n / 65536 % 256, n / 16777216].any (255 < ·) = true ∨
        256 ≤ n % 256) := by
      simp
      omega
    exact if_neg octets
  rw [ipv4?, parts, Option.bind_some, value, Option.some.injEq]
  omega

/-- One digit more in a number that still has room for `k` of them. -/
theorem digit_mul_le {b d : ℕ} (digit : d < b) (v k : ℕ) :
    (b * v + d + 1) * b ^ k ≤ (v + 1) * b ^ (k + 1) := by
  have step : b * v + d + 1 ≤ (v + 1) * b := by
    rw [Nat.succ_mul, Nat.mul_comm v b]
    omega
  calc
    _ ≤ (v + 1) * b * b ^ k := Nat.mul_le_mul_right _ step
    _ = (v + 1) * b ^ (k + 1) := by rw [Nat.pow_succ', Nat.mul_assoc]

/-- Octets in front of each other stay below the power of 256 that counts them. -/
theorem foldl_octets_lt (octets : List ℕ) (bounded : ∀ k ∈ octets, k < 256) (n : ℕ) :
    octets.foldl (fun n part => 256 * n + part) n < (n + 1) * 256 ^ octets.length := by
  induction octets generalizing n with
  | nil => simp
  | cons k octets ih =>
    rw [List.forall_mem_cons] at bounded
    exact Nat.lt_of_lt_of_le (ih bounded.2 _) (digit_mul_le bounded.1 n octets.length)

theorem ipv4Value?_lt {parts : List ℕ} {n : ℕ} (value : ipv4Value? parts = some n) :
    n < 2 ^ 32 := by
  unfold ipv4Value? at value
  split at value
  · cases value
  · rename_i last front _
    dsimp only at value
    split at value
    · cases value
    · rename_i fits
      simp only [not_or, Nat.not_lt, Nat.not_le, Bool.not_eq_true, List.any_eq_false,
        decide_eq_true_eq] at fits
      obtain ⟨few, octets, room⟩ := fits
      obtain rfl := Option.some.inj value
      have above := foldl_octets_lt front.reverse
        (fun k hk => Nat.lt_succ_of_le (octets k (List.mem_reverse.mp hk))) 0
      rw [Nat.zero_add, Nat.one_mul, List.length_reverse] at above
      calc
        _ < (front.reverse.foldl (fun n part => 256 * n + part) 0 + 1) *
              256 ^ (4 - front.length) := by
          rw [Nat.succ_mul]
          exact Nat.add_lt_add_left room _
        _ ≤ 256 ^ front.length * 256 ^ (4 - front.length) := Nat.mul_le_mul_right _ above
        _ = 2 ^ 32 := by
          rw [← Nat.pow_add, Nat.add_sub_cancel' (Nat.le_succ_of_le few)]
          rfl

theorem ipv4?_lt {cs : List Char} {n : ℕ} (read : ipv4? cs = some n) : n < 2 ^ 32 := by
  obtain ⟨parts, -, value⟩ := Option.bind_eq_some_iff.mp read
  exact ipv4Value?_lt value

/-! ## Addresses of eight pieces -/

/-- What an address of eight pieces is. -/
structure IsPieces (pieces : List ℕ) : Prop where
  length : pieces.length = 8
  bounded : ∀ p ∈ pieces, p < 2 ^ 16

theorem hexDigit?_digitChar : ∀ d < 16, hexDigit? d.digitChar = some d := by decide

theorem hexDigit?_lt {c : Char} {d : ℕ} (digit : hexDigit? c = some d) : d < 16 := by
  have code (a b : Char) : a ≤ b ↔ a.toNat ≤ b.toNat := Iff.rfl
  simp only [hexDigit?, code, Char.reduceToNat] at digit
  split at digit
  · cases digit
    omega
  · split at digit
    · cases digit
      omega
    · split at digit
      · cases digit
        omega
      · cases digit

/-- What is read of the digits of a number goes on behind them with its value. By recursion on the
number without its last digit, which is how its digits are made. -/
theorem ipv6Piece_hexText (limit p : ℕ) (rest : List Char) (short : (hexText p).length ≤ limit) :
    ipv6Piece limit 0 (hexText p ++ rest) = ipv6Piece (limit - (hexText p).length) p rest := by
  induction p using Nat.strongRecOn generalizing rest with
  | ind p ih =>
    have last : p % 16 < 16 := Nat.mod_lt p (by decide)
    have step (k v : ℕ) (d : ℕ) (digit : d < 16) :
        ipv6Piece (k + 1) v (d.digitChar :: rest) = ipv6Piece k (16 * v + d) rest := by
      simp only [ipv6Piece, hexDigit?_digitChar d digit]
    by_cases small : p < 16
    · have digits : hexText p = [p.digitChar] := Nat.toDigits_of_lt_base small
      rw [digits] at short ⊢
      obtain ⟨k, rfl⟩ : ∃ k, limit = k + 1 := Nat.exists_eq_add_of_le' short
      rw [List.singleton_append, step k 0 p small, Nat.mul_zero, Nat.zero_add]
      rfl
    · have digits : hexText p = hexText (p / 16) ++ [(p % 16).digitChar] :=
        Nat.toDigits_of_base_le (by decide) (by omega)
      have length : (hexText p).length = (hexText (p / 16)).length + 1 := by simp [digits]
      have split : limit - (hexText (p / 16)).length = limit - (hexText p).length + 1 := by omega
      rw [digits, List.append_assoc, ih (p / 16) (by omega) _ (by omega), List.singleton_append,
        split, step _ _ _ last, Nat.div_add_mod, ← digits]

/-- A piece ends at what is no digit. -/
theorem ipv6Piece_ended (limit v : ℕ) {rest : List Char}
    (ended : ∀ c ∈ rest.head?, hexDigit? c = none) : ipv6Piece limit v rest = (v, rest) := by
  cases limit with
  | zero => rfl
  | succ limit =>
    cases rest with
    | nil => rfl
    | cons c rest => simp only [ipv6Piece, ended c rfl]

theorem ipv6Piece_piece {p : ℕ} (bounded : p < 2 ^ 16) (rest : List Char)
    (ended : ∀ c ∈ rest.head?, hexDigit? c = none) :
    ipv6Piece 4 0 (hexText p ++ rest) = (p, rest) := by
  have short : (hexText p).length ≤ 4 :=
    (Nat.length_toDigits_le_iff (by decide) (by decide)).mpr bounded
  rw [ipv6Piece_hexText 4 p rest short, ipv6Piece_ended _ _ ended]

/-- A piece is written in digits. -/
theorem exists_digit_of_mem_hexText {p : ℕ} {c : Char} (hc : c ∈ hexText p) :
    ∃ d < 16, d.digitChar = c := by
  induction p using Nat.strongRecOn with
  | ind p ih =>
    rw [hexText, Nat.toDigits_eq_if (by decide)] at hc
    split at hc
    · rename_i small
      exact ⟨p, small, (List.mem_singleton.mp hc).symm⟩
    · rcases List.mem_append.mp hc with front | last
      · exact ih (p / 16) (by omega) front
      · exact ⟨p % 16, Nat.mod_lt p (by decide), (List.mem_singleton.mp last).symm⟩

/-- A piece begins with a digit and not with a colon. -/
theorem hexText_eq_cons (p : ℕ) : ∃ c ds, hexText p = c :: ds ∧ c ≠ ':' := by
  obtain ⟨c, ds, digits⟩ := List.exists_cons_of_ne_nil (l := hexText p) Nat.toDigits_ne_nil
  obtain ⟨d, digit, rfl⟩ := exists_digit_of_mem_hexText (digits ▸ List.mem_cons_self)
  exact ⟨_, ds, digits, (by decide : ∀ d < 16, d.digitChar ≠ ':') d digit⟩

/-- A piece with more behind it is read by itself. -/
theorem ipv6Pieces_hexText (fuel : ℕ) {acc : List ℕ} (gap : Option ℕ) {p : ℕ} {rest : List Char}
    (room : acc.length < 8) (bounded : p < 2 ^ 16) (more : rest ≠ []) :
    ipv6Pieces (fuel + 1) acc gap (hexText p ++ ':' :: rest) =
      ipv6Pieces fuel (acc ++ [p]) gap rest := by
  have piece := ipv6Piece_piece bounded (':' :: rest) (by simp; decide)
  obtain ⟨c, ds, digits, digit⟩ := hexText_eq_cons p
  rw [digits, List.cons_append] at piece ⊢
  rw [ipv6Pieces.eq_def]
  simp only [if_neg (Nat.not_le.mpr room), piece]
  split
  · rename_i starts
    cases (List.cons.inj starts).1
    exact absurd rfl digit
  · rw [if_neg]
    simp [more]
    omega

/-- The last piece is read by itself. -/
theorem ipv6Pieces_last (fuel : ℕ) {acc : List ℕ} (gap : Option ℕ) {p : ℕ}
    (room : acc.length < 8) (bounded : p < 2 ^ 16) :
    ipv6Pieces (fuel + 1) acc gap (hexText p) = some (acc ++ [p], gap) := by
  have piece := ipv6Piece_piece bounded [] (by simp)
  obtain ⟨c, ds, digits, digit⟩ := hexText_eq_cons p
  rw [digits, List.append_nil] at piece
  rw [digits, ipv6Pieces.eq_def]
  simp only [if_neg (Nat.not_le.mpr room), piece]
  split
  · rename_i starts
    cases (List.cons.inj starts).1
    exact absurd rfl digit
  · rfl

/-- Pieces with a colon behind each. -/
def led (pieces : List ℕ) : List Char := pieces.flatMap fun p => hexText p ++ [':']

theorem head?_led_append (pieces : List ℕ) (p : ℕ) (rest : List Char) :
    (led pieces ++ (hexText p ++ rest)).head? ≠ some ':' := by
  have first (q : ℕ) (rest : List Char) : (hexText q ++ rest).head? ≠ some ':' := by
    obtain ⟨c, ds, digits, digit⟩ := hexText_eq_cons q
    rw [digits]
    exact fun same => digit (Option.some.inj same)
  cases pieces with
  | nil => exact first p rest
  | cons q pieces =>
    rw [led, List.flatMap_cons, List.append_assoc, List.append_assoc]
    exact first q _

theorem flatten_intersperse_concat {α : Type*} (sep : List α) (parts : List (List α))
    (last : List α) :
    ((parts ++ [last]).intersperse sep).flatten = parts.flatMap (· ++ sep) ++ last := by
  induction parts with
  | nil => simp
  | cons part parts ih => cases parts <;> simp_all

theorem toList_piecesText_concat (pieces : List ℕ) (p : ℕ) :
    (piecesText (pieces ++ [p])).toList = led pieces ++ hexText p := by
  simp [piecesText, String.toList_intercalate, List.intercalate, flatten_intersperse_concat, led,
    List.flatMap_map]

/-- Pieces are read one by one, whatever comes behind them. -/
theorem ipv6Pieces_led (fuel : ℕ) (acc : List ℕ) (gap : Option ℕ) {pieces : List ℕ}
    {rest : List Char} (room : acc.length + pieces.length ≤ 8)
    (bounded : ∀ p ∈ pieces, p < 2 ^ 16) (more : rest ≠ []) :
    ipv6Pieces (fuel + pieces.length) acc gap (led pieces ++ rest) =
      ipv6Pieces fuel (acc ++ pieces) gap rest := by
  induction pieces generalizing acc with
  | nil => simp [led]
  | cons p pieces ih =>
    rw [List.forall_mem_cons] at bounded
    rw [List.length_cons] at room ⊢
    have behind : led pieces ++ rest ≠ [] := by simp [more]
    have split : led (p :: pieces) ++ rest = hexText p ++ ':' :: (led pieces ++ rest) := by
      simp [led]
    rw [split, ← Nat.add_assoc, ipv6Pieces_hexText _ gap (by omega) bounded.1 behind,
      ih (acc ++ [p]) (by simp; omega) bounded.2, List.append_assoc, List.singleton_append]

/-- A second colon opens the gap. -/
theorem ipv6Pieces_gap (fuel : ℕ) {acc : List ℕ} (rest : List Char) (room : acc.length < 8) :
    ipv6Pieces (fuel + 1) acc none (':' :: rest) =
      ipv6Pieces fuel (acc ++ [0]) (some (acc.length + 1)) rest := by
  rw [ipv6Pieces.eq_def]
  simp only [if_neg (Nat.not_le.mpr room)]
  rfl

/-- The pieces behind a gap, or all of them where there is none. -/
theorem ipv6Pieces_piecesText (fuel : ℕ) (acc : List ℕ) (gap : Option ℕ) (pieces : List ℕ)
    (room : acc.length + pieces.length ≤ 8) (bounded : ∀ p ∈ pieces, p < 2 ^ 16) :
    ipv6Pieces (fuel + pieces.length + 1) acc gap (piecesText pieces).toList =
      some (acc ++ pieces, gap) := by
  rcases List.eq_nil_or_concat pieces with rfl | ⟨pieces, p, rfl⟩
  · simp [piecesText, ipv6Pieces]
  · rw [List.concat_eq_append] at *
    rw [List.length_append, List.length_singleton] at room ⊢
    have last := bounded p (by simp)
    have front : ∀ q ∈ pieces, q < 2 ^ 16 := fun q hq => bounded q (List.mem_append_left _ hq)
    have more : hexText p ≠ [] := Nat.toDigits_ne_nil
    have steps : fuel + (pieces.length + 1) + 1 = fuel + 2 + pieces.length := by omega
    rw [toList_piecesText_concat, steps, ipv6Pieces_led _ _ _ (by omega) front more,
      ipv6Pieces_last _ _ (by simp; omega) last, List.append_assoc]

/-- The longest run of zeros is one, and it is where it is said to be. -/
theorem longestZeros_spec (pieces : List ℕ) (i : ℕ) :
    (longestZeros pieces i).2 = 0 ∨
      ∃ front back, (longestZeros pieces i).1 = i + front.length ∧
        pieces = front ++ List.replicate (longestZeros pieces i).2 0 ++ back := by
  induction pieces generalizing i with
  | nil => exact .inl rfl
  | cons p pieces ih =>
    rw [longestZeros]
    split
    · refine .inr ⟨[], (p :: pieces).dropWhile (· == 0), rfl, ?_⟩
      have zeros : (p :: pieces).takeWhile (· == 0) =
          List.replicate ((p :: pieces).takeWhile (· == 0)).length 0 :=
        List.eq_replicate_of_mem fun k hk => by simpa using List.mem_takeWhile_imp hk
      rw [← zeros, List.nil_append, List.takeWhile_append_dropWhile]
    · rcases ih (i + 1) with none | ⟨front, back, start, cut⟩
      · exact .inl none
      · refine .inr ⟨p :: front, back, ?_, ?_⟩
        · rw [start, List.length_cons]
          omega
        · rw [List.cons_append, List.cons_append, ← cut]

/-- The pieces of an address and the place of its gap. -/
def gapped? : List Char → Option (List ℕ × Option ℕ)
  | ':' :: ':' :: rest => ipv6Pieces 20 [0] (some 1) rest
  | ':' :: _ => none
  | cs => ipv6Pieces 20 [] none cs

/-- An address of all its pieces, with zeros in its gap. -/
def filled? : List ℕ × Option ℕ → Option (List ℕ)
  | (pieces, none) => if pieces.length = 8 then some pieces else none
  | (pieces, some gap) =>
    if 8 < pieces.length then none
    else some (pieces.take gap ++ List.replicate (8 - pieces.length) 0 ++ pieces.drop gap)

theorem ipv6?_eq (cs : List Char) : ipv6? cs = (gapped? cs).bind filled? := by
  unfold ipv6? gapped?
  extract_lets start
  change _ = start.bind filled?
  rcases start with - | ⟨pieces, - | gap⟩ <;> rfl

theorem gapped?_of_head {cs : List Char} (plain : cs.head? ≠ some ':') :
    gapped? cs = ipv6Pieces 20 [] none cs := by
  unfold gapped?
  split <;> simp_all

/-- An address whose pieces are all written is read back. -/
theorem ipv6?_piecesText {pieces : List ℕ} (address : IsPieces pieces) :
    ipv6? (piecesText pieces).toList = some pieces := by
  have length := address.length
  have read := ipv6Pieces_piecesText 11 [] none pieces (by simp [length])
    address.bounded
  have plain : (piecesText pieces).toList.head? ≠ some ':' := by
    obtain rfl | ⟨front, p, rfl⟩ := List.eq_nil_or_concat pieces
    · cases length
    · rw [List.concat_eq_append, toList_piecesText_concat, ← List.append_nil (hexText p)]
      exact head?_led_append front p []
  rw [length] at read
  rw [ipv6?_eq, gapped?_of_head plain, read, Option.bind_some]
  exact if_pos length

/-- The pieces on both sides of a gap, which stands for one piece of zero as long as nobody knows
how many it leaves out. -/
theorem gapped?_of_gap (front back : List ℕ) (room : front.length + 1 + back.length ≤ 8)
    (high : ∀ p ∈ front, p < 2 ^ 16) (low : ∀ p ∈ back, p < 2 ^ 16) :
    gapped? ((piecesText front).toList ++ ':' :: ':' :: (piecesText back).toList) =
      some (front ++ [0] ++ back, some (front.length + 1)) := by
  have behind (fuel : ℕ) : ipv6Pieces (fuel + back.length + 1) (front ++ [0])
      (some (front.length + 1)) (piecesText back).toList =
        some (front ++ [0] ++ back, some (front.length + 1)) :=
    ipv6Pieces_piecesText fuel _ _ back (by simpa using room) low
  obtain rfl | ⟨front, p, rfl⟩ := List.eq_nil_or_concat front
  · have steps : 20 = 19 - back.length + back.length + 1 := by omega
    change ipv6Pieces 20 [0] (some 1) _ = _
    rw [steps]
    exact behind _
  · rw [List.concat_eq_append] at *
    have text : (piecesText (front ++ [p])).toList ++ ':' :: ':' :: (piecesText back).toList =
        led (front ++ [p]) ++ ':' :: (piecesText back).toList := by
      simp [toList_piecesText_concat, led]
    have plain : (led (front ++ [p]) ++ ':' :: (piecesText back).toList).head? ≠ some ':' := by
      rw [← text, toList_piecesText_concat, List.append_assoc]
      exact head?_led_append front p _
    have steps : 20 = 18 - back.length - (front ++ [p]).length + back.length + 1 + 1 +
        (front ++ [p]).length := by omega
    rw [text, gapped?_of_head plain, steps, ipv6Pieces_led _ _ _ (by simp at room ⊢; omega) high
      (List.cons_ne_nil _ _), ipv6Pieces_gap _ _ (by simp at room ⊢; omega)]
    exact behind _

/-- An address is read back from what stands before a run of zeros and what stands behind it. -/
theorem ipv6?_gap {front back : List ℕ} {count : ℕ} (long : 2 ≤ count)
    (address : IsPieces (front ++ List.replicate count 0 ++ back)) :
    ipv6? ((piecesText front).toList ++ ':' :: ':' :: (piecesText back).toList) =
      some (front ++ List.replicate count 0 ++ back) := by
  have length : front.length + (count + back.length) = 8 := by simpa using address.length
  have read := gapped?_of_gap front back (by omega)
    (fun p hp => address.bounded p (List.mem_append_left _ (List.mem_append_left _ hp)))
    (fun p hp => address.bounded p (List.mem_append_right _ hp))
  have few : ¬ 8 < (front ++ [0] ++ back).length := by simp; omega
  have taken : (front ++ [0] ++ back).take (front.length + 1) = front ++ [0] :=
    List.take_left' (by simp)
  have dropped : (front ++ [0] ++ back).drop (front.length + 1) = back :=
    List.drop_left' (by simp)
  have zeros : [0] ++ List.replicate (8 - (front ++ [0] ++ back).length) 0 =
      List.replicate count 0 := by
    rw [List.singleton_append, ← List.replicate_succ]
    congr 1
    simp
    omega
  rw [ipv6?_eq, read, Option.bind_some]
  rw [filled?, if_neg few, taken, dropped, List.append_assoc front, zeros]

/-- An address of eight pieces is read back. -/
theorem ipv6?_ipv6Text {pieces : List ℕ} (address : IsPieces pieces) :
    ipv6? (ipv6Text pieces).toList = some pieces := by
  unfold ipv6Text
  dsimp only
  split
  · exact ipv6?_piecesText address
  · rename_i long
    rcases longestZeros_spec pieces 0 with none | ⟨front, back, start, cut⟩
    · omega
    · rw [Nat.zero_add] at start
      generalize (longestZeros pieces 0).2 = count at *
      have before : pieces.take (longestZeros pieces 0).1 = front := by
        rw [start, cut, List.append_assoc, List.take_left]
      have behind : pieces.drop ((longestZeros pieces 0).1 + count) = back := by
        rw [start, cut]
        exact List.drop_left' (by simp)
      rw [before, behind]
      rw [cut] at address ⊢
      simpa using ipv6?_gap (Nat.not_lt.mp long) address

theorem ipv6Piece_lt (limit v : ℕ) (cs : List Char) :
    (ipv6Piece limit v cs).1 < (v + 1) * 16 ^ limit := by
  induction limit generalizing v cs with
  | zero => simp [ipv6Piece]
  | succ limit ih =>
    have unread : v < (v + 1) * 16 ^ (limit + 1) :=
      Nat.lt_of_lt_of_le (Nat.lt_succ_self v) (Nat.le_mul_of_pos_right _ (Nat.pow_pos (by decide)))
    cases cs with
    | nil => exact unread
    | cons c rest =>
      rw [ipv6Piece]
      split
      · rename_i d digit
        exact Nat.lt_of_lt_of_le (ih _ _) (digit_mul_le (hexDigit?_lt digit) v limit)
      · exact unread

theorem ipv4Octet?_le {cs rest : List Char} {n : ℕ} (read : ipv4Octet? cs = some (n, rest)) :
    n ≤ 255 := by
  unfold ipv4Octet? at read
  dsimp only at read
  split at read
  · split at read
    · cases read
    · cases read
      omega
  · cases read

theorem ipv4Tail?_lt {cs : List Char} {tail : List ℕ} (read : ipv4Tail? cs = some tail) :
    ∀ p ∈ tail, p < 2 ^ 16 := by
  unfold ipv4Tail? at read
  repeat' split at read
  all_goals cases read
  rename_i a _ first _ b _ second _ c _ third _ d fourth
  have octets := And.intro (ipv4Octet?_le first) (ipv4Octet?_le second)
  have octets' := And.intro (ipv4Octet?_le third) (ipv4Octet?_le fourth)
  simp
  omega

theorem ipv6Pieces_lt {fuel : ℕ} {acc pieces : List ℕ} {gap gap' : Option ℕ} {cs : List Char}
    (bounded : ∀ p ∈ acc, p < 2 ^ 16) (read : ipv6Pieces fuel acc gap cs = some (pieces, gap')) :
    ∀ p ∈ pieces, p < 2 ^ 16 := by
  have longer {acc : List ℕ} {more : List ℕ} (bounded : ∀ p ∈ acc, p < 2 ^ 16)
      (next : ∀ p ∈ more, p < 2 ^ 16) : ∀ p ∈ acc ++ more, p < 2 ^ 16 :=
    List.forall_mem_append.mpr ⟨bounded, next⟩
  have piece (cs : List Char) : ∀ p ∈ [(ipv6Piece 4 0 cs).1], p < 2 ^ 16 := by
    simpa using ipv6Piece_lt 4 0 cs
  induction fuel generalizing acc gap cs with
  | zero => cases read
  | succ fuel ih =>
    cases cs with
    | nil =>
      cases read
      exact bounded
    | cons c cs =>
      rw [ipv6Pieces.eq_def] at read
      dsimp only at read
      split at read
      · cases read
      · split at read
        · split at read
          · cases read
          · exact ih (longer bounded (by simp)) read
        · split at read
          · split at read
            · cases read
            · obtain ⟨tail, ending, same⟩ := Option.map_eq_some_iff.mp read
              cases same
              exact longer bounded (ipv4Tail?_lt ending)
          · split at read
            · cases read
            · exact ih (longer bounded (piece _)) read
          · cases read
            exact longer bounded (piece _)
          · cases read

/-- What is read as an address of eight pieces is one. -/
theorem ipv6?_isPieces {cs : List Char} {pieces : List ℕ} (read : ipv6? cs = some pieces) :
    IsPieces pieces := by
  rw [ipv6?_eq, Option.bind_eq_some_iff] at read
  obtain ⟨⟨found, gap⟩, started, filled⟩ := read
  have bounded : ∀ p ∈ found, p < 2 ^ 16 := by
    unfold gapped? at started
    split at started
    · exact ipv6Pieces_lt (by simp) started
    · cases started
    · exact ipv6Pieces_lt (by simp) started
  cases gap with
  | none =>
    rw [filled?] at filled
    split at filled
    · rename_i length
      cases filled
      exact ⟨length, bounded⟩
    · cases filled
  | some gap =>
    rw [filled?] at filled
    split at filled
    · cases filled
    · cases filled
      refine ⟨?_, ?_⟩
      · simp
        omega
      · simp only [List.forall_mem_append]
        exact ⟨⟨fun p hp => bounded p (List.mem_of_mem_take hp),
          fun p hp => by simp [List.eq_of_mem_replicate hp]⟩,
          fun p hp => bounded p (List.mem_of_mem_drop hp)⟩

end AnalysisPanel.Url
