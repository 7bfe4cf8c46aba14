import AnalysisPanel.Proofs.Json.Tokens
import AnalysisPanel.Proofs.Json.Values

/-! Documents as texts. A document that is written is read back, as long as it does not nest deeper
than a reader follows; and no value that is kept nests deeper than that. -/

namespace AnalysisPanel.Json

open Floating Text

variable {ν μ : Type} {P Q : ν → Prop} {depth : ℕ}

/-! ## Depth -/

/-- A tree with at most `depth` levels of arrays and objects, whose numbers have a property. -/
inductive Within (P : ν → Prop) : ℕ → Json ν → Prop
  | null {depth : ℕ} : Within P depth .null
  | bool {depth : ℕ} (b : Bool) : Within P depth (.bool b)
  | number {depth : ℕ} {n : ν} : P n → Within P depth (.number n)
  | string {depth : ℕ} (s : String) : Within P depth (.string s)
  | array {depth : ℕ} {items : List (Json ν)} : (∀ v ∈ items, Within P depth v) →
      Within P (depth + 1) (.array items)
  | object {depth : ℕ} {fields : List (String × Json ν)} :
      (∀ field ∈ fields, Within P depth field.2) → Within P (depth + 1) (.object fields)

theorem itemsLevels_le_iff {items : List (Json ν)} :
    itemsLevels items ≤ depth ↔ ∀ v ∈ items, v.levels ≤ depth := by
  induction items with
  | nil => simp [itemsLevels]
  | cons first rest ih => simp only [itemsLevels, max_le_iff, List.forall_mem_cons, ih]

theorem fieldsLevels_le_iff {fields : List (String × Json ν)} :
    fieldsLevels fields ≤ depth ↔ ∀ field ∈ fields, field.2.levels ≤ depth := by
  induction fields with
  | nil => simp [fieldsLevels]
  | cons first rest ih => simp only [fieldsLevels, max_le_iff, List.forall_mem_cons, ih]

theorem Within.levels_le {v : Json ν} (w : v.Within P depth) : v.levels ≤ depth := by
  induction w with
  | array _ ih => exact Nat.succ_le_succ (itemsLevels_le_iff.mpr ih)
  | object _ ih => exact Nat.succ_le_succ (fieldsLevels_le_iff.mpr ih)
  | _ => exact Nat.zero_le _

/-- No more depth is needed than a tree has levels. -/
theorem Within.of_levels {v : Json ν} {depth' : ℕ} (w : v.Within P depth)
    (le : v.levels ≤ depth') : v.Within P depth' := by
  induction w generalizing depth' with
  | null => exact .null
  | bool b => exact .bool b
  | number h => exact .number h
  | string s => exact .string s
  | array _ ih =>
    obtain ⟨deeper, rfl⟩ := Nat.exists_eq_add_of_le' (Nat.le_of_add_left_le le)
    exact .array fun v hv =>
      ih v hv (itemsLevels_le_iff.mp (Nat.le_of_succ_le_succ le) v hv)
  | object _ ih =>
    obtain ⟨deeper, rfl⟩ := Nat.exists_eq_add_of_le' (Nat.le_of_add_left_le le)
    exact .object fun field hfield =>
      ih field hfield (fieldsLevels_le_iff.mp (Nat.le_of_succ_le_succ le) field hfield)

theorem Within.mono {v : Json ν} {depth' : ℕ} (w : v.Within P depth) (le : depth ≤ depth') :
    v.Within P depth' :=
  w.of_levels (w.levels_le.trans le)

/-- Numbers may be replaced. -/
theorem Within.mapNumbers {v : Json ν} {f : ν → μ} {Q : μ → Prop} (w : v.Within P depth)
    (kept : ∀ n, P n → Q (f n)) : (v.mapNumbers f).Within Q depth := by
  induction w with
  | null => exact .null
  | bool b => exact .bool b
  | number h => exact .number (kept _ h)
  | string s => exact .string s
  | array _ ih =>
    rw [Json.mapNumbers, mapItems_eq_map]
    exact .array (List.forall_mem_map.mpr ih)
  | object _ ih =>
    rw [Json.mapNumbers, mapFields_eq_map]
    exact .object (List.forall_mem_map.mpr ih)

/-- What a document means is no deeper than the document. -/
theorem Within.mapNumbers? {doc : Json ν} {f : ν → Option μ} {v : Json μ}
    (w : doc.Within P depth) (read : doc.mapNumbers? f = some v) :
    v.Within (fun _ => True) depth := by
  induction w generalizing v with
  | null => exact Option.some.inj read ▸ .null
  | bool b => exact Option.some.inj read ▸ .bool b
  | number h =>
    obtain ⟨m, -, rfl⟩ := Option.map_eq_some_iff.mp read
    exact .number trivial
  | string s => exact Option.some.inj read ▸ .string s
  | array _ ih =>
    obtain ⟨vs, found, rfl⟩ := Option.map_eq_some_iff.mp read
    refine .array fun w hw => ?_
    obtain ⟨item, hitem, one⟩ := exists_of_forall₂ (mapItems?_eq_some_iff.mp found) w hw
    exact ih item hitem one
  | object _ ih =>
    obtain ⟨vs, found, rfl⟩ := Option.map_eq_some_iff.mp read
    refine .object fun w hw => ?_
    obtain ⟨field, hfield, -, one⟩ :=
      exists_of_forall₂ (mapFields?_eq_some_iff.mp found) w (mem_of_mem_sortFields hw)
    exact ih field hfield one

/-- What holds at some depth of each member of a list, and below it, holds of all at one depth. -/
theorem exists_bound {α : Type} {R : ℕ → α → Prop} (mono : ∀ {d d' a}, R d a → d ≤ d' → R d' a)
    {l : List α} (each : ∀ a ∈ l, ∃ d, R d a) : ∃ d, ∀ a ∈ l, R d a := by
  induction l with
  | nil => exact ⟨0, List.forall_mem_nil _⟩
  | cons a l ih =>
    obtain ⟨⟨first, here⟩, others⟩ := List.forall_mem_cons.mp each
    obtain ⟨rest, there⟩ := ih others
    refine ⟨max first rest, List.forall_mem_cons.mpr ⟨mono here (le_max_left ..), ?_⟩⟩
    exact fun b hb => mono (there b hb) (le_max_right ..)

/-- Every tree has so many levels. -/
theorem exists_within (v : Json ν) : ∃ depth, v.Within (fun _ => True) depth := by
  induction v using induct with
  | null => exact ⟨0, .null⟩
  | bool b => exact ⟨0, .bool b⟩
  | number n => exact ⟨0, .number trivial⟩
  | string s => exact ⟨0, .string s⟩
  | array items ih =>
    obtain ⟨depth, within⟩ := exists_bound (R := fun d (v : Json ν) => v.Within _ d) Within.mono ih
    exact ⟨depth + 1, .array within⟩
  | object fields ih =>
    obtain ⟨depth, within⟩ := exists_bound
      (R := fun d (field : String × Json ν) => field.2.Within _ d) Within.mono ih
    exact ⟨depth + 1, .object within⟩

/-- A document means something exactly if each of its numbers does. -/
theorem exists_mapNumbers?_iff {f : ν → Option μ} {doc : Json ν} :
    (∃ v, doc.mapNumbers? f = some v) ↔
      ∃ depth, doc.Within (fun n => ∃ m, f n = some m) depth := by
  constructor
  · rintro ⟨v, read⟩
    induction doc using induct generalizing v with
    | null => exact ⟨0, .null⟩
    | bool b => exact ⟨0, .bool b⟩
    | number n =>
      obtain ⟨m, found, -⟩ := Option.map_eq_some_iff.mp read
      exact ⟨0, .number ⟨m, found⟩⟩
    | string s => exact ⟨0, .string s⟩
    | array items ih =>
      obtain ⟨vs, found, -⟩ := Option.map_eq_some_iff.mp read
      have each := exists_forall₂_iff.mp ⟨vs, mapItems?_eq_some_iff.mp found⟩
      obtain ⟨depth, within⟩ := exists_bound (R := fun d (v : Json ν) => v.Within _ d) Within.mono
        fun item hitem => (each item hitem).elim (ih item hitem)
      exact ⟨depth + 1, .array within⟩
    | object fields ih =>
      obtain ⟨vs, found, -⟩ := Option.map_eq_some_iff.mp read
      have each := exists_forall₂_iff.mp ⟨vs, mapFields?_eq_some_iff.mp found⟩
      obtain ⟨depth, within⟩ := exists_bound
        (R := fun d (field : String × Json ν) => field.2.Within _ d) Within.mono
        fun field hfield => (each field hfield).elim fun w one => ih field hfield w.2 one.2
      exact ⟨depth + 1, .object within⟩
  · rintro ⟨depth, w⟩
    induction w with
    | null => exact ⟨_, rfl⟩
    | bool b => exact ⟨_, rfl⟩
    | number h =>
      obtain ⟨m, found⟩ := h
      exact ⟨.number m, congrArg (Option.map Json.number) found⟩
    | string s => exact ⟨_, rfl⟩
    | array _ ih =>
      obtain ⟨vs, all⟩ := exists_forall₂_iff.mpr ih
      exact ⟨.array vs, by rw [mapNumbers?, mapItems?_eq_some_iff.mpr all]; rfl⟩
    | @object depth fields _ ih =>
      have each : ∀ field ∈ fields, ∃ w : String × Json μ,
          field.1 = w.1 ∧ field.2.mapNumbers? f = some w.2 := fun field hfield =>
        (ih field hfield).elim fun v read => ⟨(field.1, v), rfl, read⟩
      obtain ⟨vs, all⟩ := exists_forall₂_iff.mpr each
      exact ⟨.object (sortFields vs), by rw [mapNumbers?, mapFields?_eq_some_iff.mpr all]; rfl⟩

theorem valueWithin?_eq_some_iff {draft : Draft} {v : Value} :
    draft.valueWithin? depth = some v ↔
      ∃ doc, draft.document? = some doc ∧ doc.levels ≤ depth ∧ doc.value? = some v := by
  rw [Draft.valueWithin?, Option.bind_eq_some_iff]
  simp only [Option.ite_none_right_eq_some]

theorem value?_of_valueWithin? {draft : Draft} {v : Value}
    (kept : draft.valueWithin? depth = some v) : draft.value? = some v := by
  obtain ⟨doc, document, -, read⟩ := valueWithin?_eq_some_iff.mp kept
  rw [Draft.value?, document, Option.bind_some, read]

/-- A draft has a value that is kept exactly if all of its strings spell texts, it does not nest too
deep, and each of its numbers is in range. -/
theorem exists_valueWithin?_iff {draft : Draft} : (∃ v, draft.valueWithin? depth = some v) ↔
    ∃ doc, draft.document? = some doc ∧
      doc.Within (fun lit => ∃ n, Number.ofLiteral lit = some n) depth := by
  simp only [valueWithin?_eq_some_iff]
  constructor
  · rintro ⟨v, doc, document, le, read⟩
    obtain ⟨_, within⟩ := exists_mapNumbers?_iff.mp ⟨v, read⟩
    exact ⟨doc, document, within.of_levels le⟩
  · rintro ⟨doc, document, within⟩
    obtain ⟨v, read⟩ := exists_mapNumbers?_iff.mpr ⟨depth, within⟩
    exact ⟨v, doc, document, within.levels_le, read⟩

/-- A value that is kept does not nest too deep. -/
theorem within_of_valueWithin? {draft : Draft} {v : Value}
    (kept : draft.valueWithin? depth = some v) : v.Within (fun _ => True) depth := by
  obtain ⟨doc, -, le, value⟩ := valueWithin?_eq_some_iff.mp kept
  obtain ⟨_, within⟩ := exists_within doc
  exact (within.of_levels le).mapNumbers? value

/-- A value that is kept is canonical, and its numbers are proper. -/
theorem canonical_of_valueWithin? {draft : Draft} {v : Value}
    (kept : draft.valueWithin? depth = some v) : v.Canonical Number.Proper :=
  canonical_of_value? (value?_of_valueWithin? kept)

namespace Reader

/-! ## Documents that are written -/

/-- The octets of a document as it is written, each as a character of its own. -/
def written (doc : Document) : List Char := Utf8.octets (print doc).toList

/-- The octets of a string as it is written. -/
def quoted (s : String) : List Char := Utf8.octets (stringText s).toList

/-- The items of an array as they are written. -/
def itemsText (items : List Document) : List Char := [','].intercalate (items.map written)

/-- The fields of an object as they are written. -/
def fieldsText (fields : List (String × Document)) : List Char :=
  [','].intercalate (fields.map fun field => quoted field.1 ++ ':' :: written field.2)

theorem printItems_eq_map (items : List Document) : printItems items = items.map print := by
  induction items with
  | nil => rfl
  | cons doc rest ih => exact congrArg (print doc :: ·) ih

theorem printFields_eq_map (fields : List (String × Document)) :
    printFields fields = fields.map fun field => stringText field.1 ++ ":" ++ print field.2 := by
  induction fields with
  | nil => rfl
  | cons field rest ih => exact congrArg ((stringText field.1 ++ ":" ++ print field.2) :: ·) ih

theorem written_string (s : String) :
    written (.string s) = '"' :: (Utf8.octets (s.toList.flatMap escapeChar) ++ ['"']) := by
  rw [written, print, octets_stringText]

/-- What is written between brackets, with commas in between. -/
theorem octets_bracketed {left right : Char} (ascii : left.toNat < 0x80 ∧ right.toNat < 0x80)
    (texts : List (List Char)) :
    Utf8.octets (left :: ([','].intercalate texts ++ [right])) =
      left :: ([','].intercalate (texts.map Utf8.octets) ++ [right]) := by
  rw [Utf8.octets_cons ascii.1, Utf8.octets_append, Utf8.octets_intercalate,
    Utf8.octets_singleton ascii.2, Utf8.octets_singleton (by decide)]

theorem written_array (items : List Document) :
    written (.array items) = '[' :: (itemsText items ++ [']']) := by
  have text : (print (.array items)).toList =
      '[' :: ([','].intercalate (items.map fun doc => (print doc).toList) ++ [']']) := by
    rw [print, printItems_eq_map, String.toList_append, String.toList_append,
      String.toList_intercalate, List.map_map]
    rfl
  rw [written, text, octets_bracketed (by decide), List.map_map]
  rfl

theorem written_object (fields : List (String × Document)) :
    written (.object fields) = '\x7b' :: (fieldsText fields ++ ['\x7d']) := by
  have each : (String.toList ∘ fun field : String × Document =>
      stringText field.1 ++ ":" ++ print field.2) =
      fun field => (stringText field.1).toList ++ ':' :: (print field.2).toList := by
    funext field
    simp
  have text : (print (.object fields)).toList = '\x7b' :: ([','].intercalate
      (fields.map fun field => (stringText field.1).toList ++ ':' :: (print field.2).toList) ++
        ['\x7d']) := by
    rw [print, printFields_eq_map, String.toList_append, String.toList_append,
      String.toList_intercalate, List.map_map, each]
    rfl
  have octets : (Utf8.octets ∘ fun field : String × Document =>
      (stringText field.1).toList ++ ':' :: (print field.2).toList) =
      fun field => quoted field.1 ++ ':' :: written field.2 := by
    funext field
    rw [Function.comp, Utf8.octets_append, Utf8.octets_cons (by decide)]
    rfl
  rw [written, text, octets_bracketed (by decide), List.map_map, octets]
  rfl

/-- Numbers are written in ASCII. -/
theorem written_number {n : Literal} (regular : n.Regular) :
    written (.number n) = n.text.toList := by
  rw [written, print]
  exact Utf8.octets_of_ascii (ascii_text regular)

/-- A character that is no blank of the grammar. -/
def Visible (c : Char) : Prop := c ≠ ' ' ∧ c ≠ '\t' ∧ c ≠ '\n' ∧ c ≠ '\r'

theorem skipBlanks_cons {c : Char} (visible : Visible c) (rest : List Char) :
    skipBlanks (c :: rest) = c :: rest := by
  obtain ⟨space, tab, newline, carriage⟩ := visible
  simp [skipBlanks, space, tab, newline, carriage]

theorem visible_of_isDigit {c : Char} (digit : c.isDigit = true) : Visible c := by
  refine ⟨?_, ?_, ?_, ?_⟩ <;> rintro rfl <;> cases digit

/-- A number begins with its sign or with a digit. -/
theorem head_text {n : Literal} (regular : n.Regular) :
    ∃ c cs, n.text.toList = c :: cs ∧ (c = '-' ∨ c.isDigit = true) := by
  rw [toList_text]
  cases n.negative with
  | true => exact ⟨_, _, rfl, .inl rfl⟩
  | false =>
    cases whole : n.whole with
    | nil => exact absurd whole regular.nonempty
    | cons c cs => exact ⟨c, _, rfl, .inr (regular.whole c (whole ▸ List.mem_cons_self))⟩

/-- A document begins with no blank, and not with the end of an array. -/
theorem head_written {doc : Document} (w : doc.Within Numeral.Regular depth) :
    ∃ c cs, written doc = c :: cs ∧ Visible c ∧ c ≠ ']' := by
  cases w with
  | null => exact ⟨'n', _, rfl, by simp [Visible]⟩
  | bool b =>
    cases b with
    | false => exact ⟨'f', _, rfl, by simp [Visible]⟩
    | true => exact ⟨'t', _, rfl, by simp [Visible]⟩
  | number regular =>
    rw [written_number regular]
    obtain ⟨c, cs, text, rfl | digit⟩ := head_text regular
    · exact ⟨_, cs, text, by simp [Visible]⟩
    · refine ⟨c, cs, text, visible_of_isDigit digit, ?_⟩
      rintro rfl
      cases digit
  | string s => exact ⟨_, _, written_string s, by simp [Visible]⟩
  | array _ => exact ⟨_, _, written_array _, by simp [Visible]⟩
  | object _ => exact ⟨_, _, written_object _, by simp [Visible]⟩

/-! ### Reading them back -/

/-- A document is read from its text, whatever comes after it, with two steps for each octet. -/
def Reads (depth : ℕ) (doc : Document) : Prop :=
  ∀ {fuel rest}, Closes rest → 2 * (written doc).length ≤ fuel →
    value? depth fuel (written doc ++ rest) = some (doc.draft, rest)

variable {fuel : ℕ} {rest : List Char}

theorem value?_null :
    value? depth (fuel + 1) (written .null ++ rest) = some (.null, rest) := by
  have text : written .null = ['n', 'u', 'l', 'l'] := rfl
  have word : "ull".toList = ['u', 'l', 'l'] := rfl
  rw [text, List.cons_append]
  unfold value?
  rw [skipBlanks_cons (by simp [Visible])]
  simp [word, expect?]

theorem value?_true :
    value? depth (fuel + 1) (written (.bool true) ++ rest) = some (.bool true, rest) := by
  have text : written (.bool true) = ['t', 'r', 'u', 'e'] := rfl
  have word : "rue".toList = ['r', 'u', 'e'] := rfl
  rw [text, List.cons_append]
  unfold value?
  rw [skipBlanks_cons (by simp [Visible])]
  simp [word, expect?]

theorem value?_false :
    value? depth (fuel + 1) (written (.bool false) ++ rest) = some (.bool false, rest) := by
  have text : written (.bool false) = ['f', 'a', 'l', 's', 'e'] := rfl
  have word : "alse".toList = ['a', 'l', 's', 'e'] := rfl
  rw [text, List.cons_append]
  unfold value?
  rw [skipBlanks_cons (by simp [Visible])]
  simp [word, expect?]

theorem value?_string (s : String) :
    value? depth (fuel + 1) (written (.string s) ++ rest) = some (.string (some s), rest) := by
  have read := string?_stringText s rest
  rw [octets_stringText, List.cons_append] at read
  rw [written_string, List.cons_append]
  unfold value?
  rw [skipBlanks_cons (by simp [Visible])]
  simp only [read, Char.reduceEq, if_true, if_false, Option.map_some]

theorem value?_number {n : Literal} (regular : n.Regular) (closes : Closes rest) :
    value? depth (fuel + 1) (written (.number n) ++ rest) = some (.number n, rest) := by
  obtain ⟨c, cs, text, first⟩ := head_text regular
  have read := number?_text regular closes
  rw [written_number regular]
  rw [text, List.cons_append] at read ⊢
  have other : c ≠ 'n' ∧ c ≠ 't' ∧ c ≠ 'f' ∧ c ≠ '"' ∧ c ≠ '[' ∧ c ≠ '\x7b' ∧ Visible c := by
    rcases first with rfl | digit
    · simp [Visible]
    · refine ⟨?_, ?_, ?_, ?_, ?_, ?_, visible_of_isDigit digit⟩ <;> rintro rfl <;> cases digit
  obtain ⟨n', t', f', quote, bracket, brace, visible⟩ := other
  unfold value?
  rw [skipBlanks_cons visible]
  simp [n', t', f', quote, bracket, brace, read]

theorem value?_array (cs : List Char) :
    value? (depth + 1) (fuel + 1) ('[' :: cs) =
      match skipBlanks cs with
      | ']' :: rest => some (.array [], rest)
      | rest => (items? depth fuel rest).map fun r => (.array r.1, r.2) := by
  unfold value?
  rw [skipBlanks_cons (by simp [Visible])]
  rfl

theorem value?_object (cs : List Char) :
    value? (depth + 1) (fuel + 1) ('\x7b' :: cs) =
      match skipBlanks cs with
      | '\x7d' :: rest => some (.object [], rest)
      | rest => (fields? depth fuel rest).map fun r => (.object r.1, r.2) := by
  unfold value?
  rw [skipBlanks_cons (by simp [Visible])]
  rfl

theorem closes_of_mark {c : Char} (mark : c = ',' ∨ c = ']' ∨ c = '\x7d') : Closes (c :: rest) := by
  rcases mark with rfl | rfl | rfl <;> rintro _ ⟨⟩ <;> decide

theorem visible_of_mark {c : Char} (mark : c = ',' ∨ c = ':' ∨ c = ']' ∨ c = '\x7d') :
    Visible c := by
  rcases mark with rfl | rfl | rfl | rfl <;> simp [Visible]

/-! ### Arrays -/

theorem items?_last {doc : Document} {cs : List Char}
    (read : value? depth fuel cs = some (doc.draft, ']' :: rest)) :
    items? depth (fuel + 1) cs = some ([doc.draft], rest) := by
  rw [items?, read]
  dsimp only
  rw [skipBlanks_cons (visible_of_mark (by simp))]
  rfl

theorem items?_more {doc : Document} {cs : List Char}
    (read : value? depth fuel cs = some (doc.draft, ',' :: rest)) :
    items? depth (fuel + 1) cs = (items? depth fuel rest).map fun r => (doc.draft :: r.1, r.2) := by
  rw [items?, read]
  dsimp only
  rw [skipBlanks_cons (visible_of_mark (by simp))]
  rfl

theorem itemsText_singleton (doc : Document) : itemsText [doc] = written doc :=
  List.intercalate_singleton

theorem itemsText_cons_cons (doc next : Document) (items : List Document) :
    itemsText (doc :: next :: items) =
      written doc ++ ',' :: itemsText (next :: items) := by
  simp only [itemsText, List.map_cons, List.intercalate_cons_cons, List.append_assoc]
  rfl

theorem items?_itemsText {items : List Document} (nonempty : items ≠ [])
    (reads : ∀ doc ∈ items, Reads depth doc)
    (enough : 2 * (itemsText items).length + 2 ≤ fuel) :
    items? depth fuel (itemsText items ++ ']' :: rest) = some (items.map Document.draft, rest) := by
  induction items generalizing fuel with
  | nil => exact absurd rfl nonempty
  | cons doc items ih =>
    obtain ⟨first, others⟩ := List.forall_mem_cons.mp reads
    cases fuel with
    | zero => omega
    | succ fuel =>
      cases items with
      | nil =>
        rw [itemsText_singleton] at enough ⊢
        exact items?_last (first (closes_of_mark (by simp)) (by omega))
      | cons next items =>
        rw [itemsText_cons_cons] at enough ⊢
        rw [List.length_append, List.length_cons] at enough
        rw [List.append_assoc, List.cons_append,
          items?_more (first (closes_of_mark (by simp)) (by omega)),
          ih (by simp) others (by omega)]
        rfl

theorem head_itemsText {doc : Document} (w : doc.Within Numeral.Regular depth)
    (items : List Document) :
    ∃ c cs, itemsText (doc :: items) = c :: cs ∧ Visible c ∧ c ≠ ']' := by
  obtain ⟨c, cs, text, visible⟩ := head_written w
  cases items with
  | nil => exact ⟨c, cs, (itemsText_singleton doc).trans text, visible⟩
  | cons next items =>
    refine ⟨c, cs ++ ',' :: itemsText (next :: items), ?_, visible⟩
    rw [itemsText_cons_cons, text, List.cons_append]

theorem reads_array {items : List Document} (w : ∀ doc ∈ items, doc.Within Numeral.Regular depth)
    (reads : ∀ doc ∈ items, Reads depth doc) : Reads (depth + 1) (.array items) := by
  intro fuel rest _ enough
  rw [written_array] at enough ⊢
  rw [draft_array]
  rw [List.length_cons, List.length_append, List.length_singleton] at enough
  cases fuel with
  | zero => omega
  | succ fuel =>
    rw [List.cons_append, List.append_assoc, List.singleton_append, value?_array]
    cases items with
    | nil =>
      rw [show itemsText [] ++ ']' :: rest = ']' :: rest from rfl,
        skipBlanks_cons (visible_of_mark (by simp))]
      rfl
    | cons doc items =>
      obtain ⟨c, cs, text, visible, other⟩ := head_itemsText (w doc List.mem_cons_self) items
      have read : items? depth fuel (itemsText (doc :: items) ++ ']' :: rest) =
          some ((doc :: items).map Document.draft, rest) :=
        items?_itemsText (by simp) reads (by omega)
      rw [text, List.cons_append] at read ⊢
      rw [skipBlanks_cons visible]
      split
      · rename_i same
        cases same
        exact absurd rfl other
      · rw [read]
        rfl

/-! ### Objects -/

theorem string?_quoted (key : String) (cs : List Char) :
    string? (skipBlanks (quoted key ++ cs)) = some (some key, cs) := by
  have read := string?_stringText key cs
  rw [octets_stringText, List.cons_append] at read
  rw [quoted, octets_stringText, List.cons_append, skipBlanks_cons (by simp [Visible])]
  exact read

theorem fields?_last {key : String} {doc : Document} {cs : List Char}
    (read : value? depth fuel cs = some (doc.draft, '\x7d' :: rest)) :
    fields? depth (fuel + 1) (quoted key ++ ':' :: cs) = some ([(some key, doc.draft)], rest) := by
  rw [fields?, string?_quoted]
  dsimp only
  rw [skipBlanks_cons (visible_of_mark (by simp))]
  simp only [read]
  rw [skipBlanks_cons (visible_of_mark (by simp))]
  rfl

theorem fields?_more {key : String} {doc : Document} {cs : List Char}
    (read : value? depth fuel cs = some (doc.draft, ',' :: rest)) :
    fields? depth (fuel + 1) (quoted key ++ ':' :: cs) =
      (fields? depth fuel rest).map fun r => ((some key, doc.draft) :: r.1, r.2) := by
  rw [fields?, string?_quoted]
  dsimp only
  rw [skipBlanks_cons (visible_of_mark (by simp))]
  simp only [read]
  rw [skipBlanks_cons (visible_of_mark (by simp))]
  rfl

theorem fieldsText_singleton (key : String) (doc : Document) :
    fieldsText [(key, doc)] = quoted key ++ ':' :: written doc :=
  List.intercalate_singleton

theorem fieldsText_cons_cons (key : String) (doc : Document) (next : String × Document)
    (fields : List (String × Document)) :
    fieldsText ((key, doc) :: next :: fields) =
      quoted key ++ ':' :: (written doc ++ ',' :: fieldsText (next :: fields)) := by
  simp only [fieldsText, List.map_cons, List.intercalate_cons_cons, List.append_assoc,
    List.cons_append]
  rfl

theorem fields?_fieldsText {fields : List (String × Document)} (nonempty : fields ≠ [])
    (reads : ∀ field ∈ fields, Reads depth field.2)
    (enough : 2 * (fieldsText fields).length + 2 ≤ fuel) :
    fields? depth fuel (fieldsText fields ++ '\x7d' :: rest) = some (fieldDrafts fields, rest) := by
  induction fields generalizing fuel with
  | nil => exact absurd rfl nonempty
  | cons field fields ih =>
    obtain ⟨key, doc⟩ := field
    have first : Reads depth doc := (List.forall_mem_cons.mp reads).1
    have others := (List.forall_mem_cons.mp reads).2
    cases fuel with
    | zero => omega
    | succ fuel =>
      cases fields with
      | nil =>
        rw [fieldsText_singleton] at enough ⊢
        rw [List.length_append, List.length_cons] at enough
        rw [List.append_assoc, List.cons_append]
        exact fields?_last (first (closes_of_mark (by simp)) (by omega))
      | cons next fields =>
        rw [fieldsText_cons_cons] at enough ⊢
        rw [List.length_append, List.length_cons, List.length_append, List.length_cons] at enough
        rw [List.append_assoc, List.cons_append, List.append_assoc, List.cons_append,
          fields?_more (first (closes_of_mark (by simp)) (by omega)),
          ih (by simp) others (by omega)]
        rfl

theorem head_fieldsText (field : String × Document) (fields : List (String × Document)) :
    ∃ cs, fieldsText (field :: fields) = '"' :: cs := by
  obtain ⟨key, doc⟩ := field
  cases fields with
  | nil => exact ⟨_, by rw [fieldsText_singleton, quoted, octets_stringText, List.cons_append]⟩
  | cons next fields =>
    exact ⟨_, by rw [fieldsText_cons_cons, quoted, octets_stringText, List.cons_append]⟩

theorem reads_object {fields : List (String × Document)}
    (reads : ∀ field ∈ fields, Reads depth field.2) : Reads (depth + 1) (.object fields) := by
  intro fuel rest _ enough
  rw [written_object] at enough ⊢
  rw [draft_object]
  rw [List.length_cons, List.length_append, List.length_singleton] at enough
  cases fuel with
  | zero => omega
  | succ fuel =>
    rw [List.cons_append, List.append_assoc, List.singleton_append, value?_object]
    cases fields with
    | nil =>
      rw [show fieldsText [] ++ '\x7d' :: rest = '\x7d' :: rest from rfl,
        skipBlanks_cons (visible_of_mark (by simp))]
      rfl
    | cons field fields =>
      have read : fields? depth fuel (fieldsText (field :: fields) ++ '\x7d' :: rest) =
          some (fieldDrafts (field :: fields), rest) :=
        fields?_fieldsText (by simp) reads (by omega)
      obtain ⟨cs, text⟩ := head_fieldsText field fields
      rw [text, List.cons_append] at read ⊢
      rw [skipBlanks_cons (by simp [Visible])]
      change (fields? depth fuel _).map _ = _
      rw [read]
      rfl

/-! ### Whole texts -/

/-- A scalar is read in one step. -/
theorem reads_of_step {doc : Document} {c : Char} {cs : List Char}
    (text : written doc = c :: cs)
    (step : ∀ {fuel rest}, Closes rest →
      value? depth (fuel + 1) (written doc ++ rest) = some (doc.draft, rest)) :
    Reads depth doc := by
  intro fuel rest closes enough
  rw [text, List.length_cons] at enough
  cases fuel with
  | zero => omega
  | succ fuel => exact step closes

theorem reads_print {doc : Document} (w : doc.Within Numeral.Regular depth) : Reads depth doc := by
  induction w with
  | null => exact reads_of_step (c := 'n') rfl fun _ => value?_null
  | bool b =>
    cases b with
    | false => exact reads_of_step (c := 'f') rfl fun _ => value?_false
    | true => exact reads_of_step (c := 't') rfl fun _ => value?_true
  | number regular =>
    obtain ⟨c, cs, text, -⟩ := head_text regular
    rw [← written_number regular] at text
    exact reads_of_step text fun closes => value?_number regular closes
  | string s => exact reads_of_step (written_string s) fun _ => value?_string s
  | array w reads => exact reads_array w reads
  | object _ reads => exact reads_object reads

theorem length_written (doc : Document) :
    (written doc).length = (Utf8.ofString (print doc)).length := by
  rw [written, Utf8.octets, Utf8.spread, List.length_map, Utf8.ofString]

theorem draftWithin?_print {doc : Document} (w : doc.Within Numeral.Regular depth) :
    draftWithin? depth (Utf8.ofString (print doc)) = some doc.draft := by
  have closes : Closes [] := by
    rintro _ ⟨⟩
  have read := reads_print w closes (show _ ≤ 2 * (written doc).length + 2 by omega)
  rw [List.append_nil, length_written] at read
  rw [draftWithin?, show Utf8.spread (Utf8.ofString (print doc)) = written doc from rfl, read]
  rfl

/-- A document that nests no deeper than a reader follows is read back from its octets. -/
theorem ofBytes?_print {doc : Document} (w : doc.Within Numeral.Regular maxDepth) :
    ofBytes? (Utf8.ofString (print doc)) = some doc := by
  rw [ofBytes?, draftWithin?_print w, Option.bind_some, document?_draft]

/-! ### Readers that follow any text -/

theorem length_written_le_itemsText {doc : Document} {items : List Document} (h : doc ∈ items) :
    (written doc).length ≤ (itemsText items).length := by
  induction items with
  | nil => cases h
  | cons first items ih =>
    cases items with
    | nil => rw [List.mem_singleton.mp h, itemsText_singleton]
    | cons next items =>
      rw [itemsText_cons_cons, List.length_append, List.length_cons]
      rcases List.mem_cons.mp h with rfl | later
      · exact Nat.le_add_right ..
      · have rest := ih later
        omega

theorem length_written_le_fieldsText {field : String × Document} {fields : List (String × Document)}
    (h : field ∈ fields) : (written field.2).length ≤ (fieldsText fields).length := by
  induction fields with
  | nil => cases h
  | cons first fields ih =>
    cases fields with
    | nil =>
      rw [List.mem_singleton.mp h, fieldsText_singleton, List.length_append, List.length_cons]
      omega
    | cons next fields =>
      rw [fieldsText_cons_cons, List.length_append, List.length_cons, List.length_append,
        List.length_cons]
      rcases List.mem_cons.mp h with rfl | later
      · omega
      · have rest := ih later
        omega

/-- A document has no more levels than its text has octets. -/
theorem within_length {P : Literal → Prop} {doc : Document} (w : doc.Within P depth) :
    doc.Within P (written doc).length := by
  induction w with
  | null => exact .null
  | bool b => exact .bool b
  | number h => exact .number h
  | string s => exact .string s
  | array _ ih =>
    rw [written_array, List.length_cons]
    refine .array fun doc hdoc => (ih doc hdoc).mono ?_
    rw [List.length_append]
    exact Nat.le_add_right_of_le (length_written_le_itemsText hdoc)
  | object _ ih =>
    rw [written_object, List.length_cons]
    refine .object fun field hfield => (ih field hfield).mono ?_
    rw [List.length_append]
    exact Nat.le_add_right_of_le (length_written_le_fieldsText hfield)

/-- Every document is read as its own draft from its octets. -/
theorem draft?_print {doc : Document} (w : doc.Within Numeral.Regular depth) :
    draft? (Utf8.ofString (print doc)) = some doc.draft := by
  have within := within_length w
  rw [length_written] at within
  exact draftWithin?_print within

/-- Every document is read back from its octets. -/
theorem unbounded?_print {doc : Document} (w : doc.Within Numeral.Regular depth) :
    unbounded? (Utf8.ofString (print doc)) = some doc := by
  rw [unbounded?, draft?_print w, Option.bind_some, document?_draft]

end Reader

end AnalysisPanel.Json
