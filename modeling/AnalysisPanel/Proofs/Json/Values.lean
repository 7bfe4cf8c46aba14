import Mathlib.Data.String.Basic
import AnalysisPanel.Proofs.Json.Numbers

/-! Values of JSON and the documents that say what they mean. A value that was read has its fields
in the order of their keys, and it is what its own document denotes. -/

namespace AnalysisPanel.Json

variable {ν μ σ : Type}

/-! ## Trees and their parts -/

/-- What passes from the parts of a tree to the tree holds of every tree. -/
theorem induct {motive : Json ν σ → Prop} (null : motive .null) (bool : ∀ b, motive (.bool b))
    (number : ∀ n, motive (.number n)) (string : ∀ s, motive (.string s))
    (array : ∀ items, (∀ v ∈ items, motive v) → motive (.array items))
    (object : ∀ fields, (∀ field ∈ fields, motive field.2) → motive (.object fields))
    (v : Json ν σ) : motive v := by
  refine @Json.rec ν σ motive (fun items => ∀ v ∈ items, motive v)
    (fun fields => ∀ field ∈ fields, motive field.2) (fun field => motive field.2)
    null bool number string array object ?_ ?_ ?_ ?_ ?_ v
  · intro v hv
    cases hv
  · intro v items head tail w hw
    rcases List.mem_cons.mp hw with rfl | hw
    · exact head
    · exact tail w hw
  · intro field hfield
    cases hfield
  · intro field fields head tail other hother
    rcases List.mem_cons.mp hother with rfl | hother
    · exact head
    · exact tail other hother
  · intro key v same
    exact same

/-- Each member of a list that is related to another list member by member has a partner there. -/
theorem exists_of_forall₂ {α β : Type} {R : α → β → Prop} {l : List α} {l' : List β}
    (related : List.Forall₂ R l l') : ∀ b ∈ l', ∃ a ∈ l, R a b := by
  induction related with
  | nil =>
    intro b hb
    cases hb
  | cons one _ ih =>
    intro b hb
    rcases List.mem_cons.mp hb with rfl | hb
    · exact ⟨_, List.mem_cons_self, one⟩
    · obtain ⟨a, ha, r⟩ := ih b hb
      exact ⟨a, List.mem_cons_of_mem _ ha, r⟩

/-- A list has a partner exactly if each of its members has one. -/
theorem exists_forall₂_iff {α β : Type} {R : α → β → Prop} {l : List α} :
    (∃ l', List.Forall₂ R l l') ↔ ∀ a ∈ l, ∃ b, R a b := by
  induction l with
  | nil => exact iff_of_true ⟨[], .nil⟩ nofun
  | cons a l ih =>
    rw [List.forall_mem_cons, ← ih]
    constructor
    · rintro ⟨_, one | ⟨one, others⟩⟩
      exact ⟨⟨_, one⟩, _, others⟩
    · rintro ⟨⟨b, one⟩, l', others⟩
      exact ⟨b :: l', .cons one others⟩

theorem mapItems_eq_map (f : ν → μ) (items : List (Json ν)) :
    mapItems f items = items.map (mapNumbers f) := by
  induction items with
  | nil => rfl
  | cons v rest ih => exact congrArg (mapNumbers f v :: ·) ih

theorem mapFields_eq_map (f : ν → μ) (fields : List (String × Json ν)) :
    mapFields f fields = fields.map fun field => (field.1, field.2.mapNumbers f) := by
  induction fields with
  | nil => rfl
  | cons field rest ih => exact congrArg ((field.1, field.2.mapNumbers f) :: ·) ih

/-- Items are read one by one. -/
theorem mapItems?_eq_some_iff {f : ν → Option μ} {items : List (Json ν)} {vs : List (Json μ)} :
    mapItems? f items = some vs ↔ List.Forall₂ (fun v w => v.mapNumbers? f = some w) items vs := by
  induction items generalizing vs with
  | nil => simp [mapItems?, eq_comm]
  | cons v rest ih =>
    rw [List.forall₂_cons_left_iff]
    unfold mapItems?
    constructor
    · intro read
      split at read
      · rename_i w ws first others
        exact ⟨w, ws, first, ih.mp others, (Option.some.inj read).symm⟩
      · cases read
    · rintro ⟨w, ws, first, others, rfl⟩
      rw [first, ih.mpr others]

/-- Fields are read one by one and keep their keys. -/
theorem mapFields?_eq_some_iff {f : ν → Option μ} {fields : List (String × Json ν)}
    {vs : List (String × Json μ)} :
    mapFields? f fields = some vs ↔
      List.Forall₂ (fun field w => field.1 = w.1 ∧ field.2.mapNumbers? f = some w.2) fields vs := by
  induction fields generalizing vs with
  | nil => simp [mapFields?, eq_comm]
  | cons field rest ih =>
    obtain ⟨key, v⟩ := field
    rw [List.forall₂_cons_left_iff]
    unfold mapFields?
    constructor
    · intro read
      split at read
      · rename_i w ws first others
        exact ⟨(key, w), ws, ⟨rfl, first⟩, ih.mp others, (Option.some.inj read).symm⟩
      · cases read
    · rintro ⟨⟨_, w⟩, ws, ⟨rfl, first⟩, others, rfl⟩
      rw [first, ih.mpr others]

/-! ## Drafts of documents -/

theorem mapItemStrings_eq_map {τ : Type} (f : σ → τ) (items : List (Json ν σ)) :
    mapItemStrings f items = items.map (mapStrings f) := by
  induction items with
  | nil => rfl
  | cons v rest ih => exact congrArg (mapStrings f v :: ·) ih

theorem mapFieldStrings_eq_map {τ : Type} (f : σ → τ) (fields : List (σ × Json ν σ)) :
    mapFieldStrings f fields = fields.map fun field => (f field.1, field.2.mapStrings f) := by
  induction fields with
  | nil => rfl
  | cons field rest ih => exact congrArg ((f field.1, field.2.mapStrings f) :: ·) ih

/-- A draft in which all is spelled is the document it was made of. -/
theorem spelled?_mapStrings (v : Json ν σ) : (v.mapStrings some).spelled? = some v := by
  induction v using induct with
  | null => rfl
  | bool b => rfl
  | number n => rfl
  | string s => rfl
  | array items ih =>
    have all : itemsSpelled? (mapItemStrings some items) = some items := by
      induction items with
      | nil => rfl
      | cons v rest tail =>
        obtain ⟨first, others⟩ := List.forall_mem_cons.mp ih
        rw [mapItemStrings, itemsSpelled?, first, tail others]
    exact congrArg (Option.map Json.array) all
  | object fields ih =>
    have all : fieldsSpelled? (mapFieldStrings some fields) = some fields := by
      induction fields with
      | nil => rfl
      | cons field rest tail =>
        obtain ⟨key, v⟩ := field
        obtain ⟨first, others⟩ := List.forall_mem_cons.mp ih
        simp only [mapFieldStrings, fieldsSpelled?, first, tail others]
    exact congrArg (Option.map Json.object) all

/-- Fields as they stand in a draft. -/
def fieldDrafts (fields : List (String × Document)) : List (Option String × Draft) :=
  fields.map fun field => (some field.1, field.2.draft)

theorem draft_array (items : List Document) :
    Document.draft (.array items) = .array (items.map Document.draft) :=
  congrArg Json.array (mapItemStrings_eq_map some items)

theorem draft_object (fields : List (String × Document)) :
    Document.draft (.object fields) = .object (fieldDrafts fields) :=
  congrArg Json.object (mapFieldStrings_eq_map some fields)

theorem document?_draft (doc : Document) : doc.draft.document? = some doc :=
  spelled?_mapStrings doc

/-! ## Fields in order -/

/-- Fields in the order of their keys, each key once. -/
def InOrder (fields : List (String × Json ν)) : Prop := fields.Pairwise fun a b => a.1 < b.1

/-- Among fields in order, the first one of a key is the only one. -/
theorem InOrder.find?_iff {key : String} {v : Json ν} {fields : List (String × Json ν)}
    (h : InOrder fields) :
    (fields.find? fun field => field.1 == key).map (·.2) = some v ↔ (key, v) ∈ fields := by
  induction fields with
  | nil => exact iff_of_false nofun List.not_mem_nil
  | cons other rest ih =>
    obtain ⟨above, ordered⟩ := List.pairwise_cons.mp h
    rw [List.find?_cons, List.mem_cons]
    by_cases same : other.1 = key
    · subst same
      have later : (other.1, v) ∉ rest := fun there => lt_irrefl other.1 (above (other.1, v) there)
      rw [beq_self_eq_true, or_iff_left later]
      simp [Prod.ext_iff, eq_comm]
    · have here : (key, v) ≠ other := fun this => same (congrArg Prod.fst this).symm
      rw [beq_eq_false_iff_ne.mpr same, or_iff_right here]
      exact ih ordered

variable {key : String} {v : Json ν} {fields sorted : List (String × Json ν)}
  {field : String × Json ν}

theorem mem_insertField (h : field ∈ insertField key v fields) :
    field = (key, v) ∨ field ∈ fields := by
  induction fields with
  | nil => exact .inl (List.mem_singleton.mp h)
  | cons other rest ih =>
    unfold insertField at h
    split at h
    · exact List.mem_cons.mp h
    · split at h
      · exact (List.mem_cons.mp h).imp_right (List.mem_cons_of_mem _)
      · rcases List.mem_cons.mp h with rfl | h
        · exact .inr List.mem_cons_self
        · exact (ih h).imp_right (List.mem_cons_of_mem _)

theorem InOrder.insertField (h : InOrder fields) : InOrder (insertField key v fields) := by
  induction fields with
  | nil => exact List.pairwise_singleton ..
  | cons other rest ih =>
    obtain ⟨above, rest_sorted⟩ := List.pairwise_cons.mp h
    unfold Json.insertField
    split
    · rename_i less
      refine List.pairwise_cons.mpr ⟨?_, h⟩
      intro field hfield
      rcases List.mem_cons.mp hfield with rfl | hfield
      · exact less
      · exact lt_trans less (above field hfield)
    · split
      · rename_i same
        exact List.pairwise_cons.mpr ⟨fun field hfield => same ▸ above field hfield, rest_sorted⟩
      · rename_i less other_key
        refine List.pairwise_cons.mpr ⟨?_, ih rest_sorted⟩
        intro field hfield
        rcases mem_insertField hfield with rfl | hfield
        · exact lt_of_le_of_ne (not_lt.mp less) (Ne.symm other_key)
        · exact above field hfield

/-- A key above all others goes last. -/
theorem insertField_eq_append (above : ∀ field ∈ fields, field.1 < key) :
    insertField key v fields = fields ++ [(key, v)] := by
  induction fields with
  | nil => rfl
  | cons other rest ih =>
    have less := above other List.mem_cons_self
    unfold insertField
    rw [if_neg (lt_asymm less), if_neg less.ne', List.cons_append,
      ih fun field hfield => above field (List.mem_cons_of_mem _ hfield)]

theorem inOrder_foldl (h : InOrder sorted) :
    InOrder (fields.foldl (fun sorted field => insertField field.1 field.2 sorted) sorted) := by
  induction fields generalizing sorted with
  | nil => exact h
  | cons field rest ih => exact ih h.insertField

theorem inOrder_sortFields (fields : List (String × Json ν)) : InOrder (sortFields fields) :=
  inOrder_foldl .nil

theorem mem_foldl_insertField
    (h : field ∈ fields.foldl (fun sorted field => insertField field.1 field.2 sorted) sorted) :
    field ∈ sorted ∨ field ∈ fields := by
  induction fields generalizing sorted with
  | nil => exact .inl h
  | cons other rest ih =>
    rcases ih h with h | h
    · exact (mem_insertField h).elim (fun new => .inr (new ▸ List.mem_cons_self)) .inl
    · exact .inr (List.mem_cons_of_mem _ h)

theorem mem_of_mem_sortFields (h : field ∈ sortFields fields) : field ∈ fields :=
  (mem_foldl_insertField h).resolve_left List.not_mem_nil

theorem foldl_insertField_eq (h : InOrder (sorted ++ fields)) :
    fields.foldl (fun sorted field => insertField field.1 field.2 sorted) sorted =
      sorted ++ fields := by
  induction fields generalizing sorted with
  | nil => exact (List.append_nil sorted).symm
  | cons field rest ih =>
    have above : ∀ other ∈ sorted, other.1 < field.1 := fun other hother =>
      (List.pairwise_append.mp h).2.2 other hother field List.mem_cons_self
    have next : InOrder ((sorted ++ [(field.1, field.2)]) ++ rest) := by
      rw [List.append_assoc]
      exact h
    rw [List.foldl_cons, insertField_eq_append above, ih next, List.append_assoc]
    rfl

/-- Fields in order stay as they are. -/
theorem InOrder.sortFields_eq (h : InOrder fields) : sortFields fields = fields := by
  have same : InOrder ([] ++ fields) := h
  exact foldl_insertField_eq same

/-! ## Canonical trees -/

/-- A tree whose numbers have a property, and in which the fields of each object are in order. -/
inductive Canonical (P : ν → Prop) : Json ν → Prop
  | null : Canonical P .null
  | bool (b : Bool) : Canonical P (.bool b)
  | number {n : ν} : P n → Canonical P (.number n)
  | string (s : String) : Canonical P (.string s)
  | array {items : List (Json ν)} : (∀ v ∈ items, Canonical P v) → Canonical P (.array items)
  | object {fields : List (String × Json ν)} : InOrder fields →
      (∀ field ∈ fields, Canonical P field.2) → Canonical P (.object fields)

theorem Canonical.imp {P Q : ν → Prop} (c : v.Canonical P) (weaker : ∀ n, P n → Q n) :
    v.Canonical Q := by
  induction c with
  | null => exact .null
  | bool b => exact .bool b
  | number h => exact .number (weaker _ h)
  | string s => exact .string s
  | array _ ih => exact .array ih
  | object ordered _ ih => exact .object ordered ih

/-- What is read is canonical. -/
theorem canonical_of_mapNumbers? {f : ν → Option μ} {P : μ → Prop}
    (sound : ∀ {n m}, f n = some m → P m) {doc : Json ν} {v : Json μ}
    (read : doc.mapNumbers? f = some v) : v.Canonical P := by
  induction doc using induct generalizing v with
  | null => exact Option.some.inj read ▸ .null
  | bool b => exact Option.some.inj read ▸ .bool b
  | number n =>
    obtain ⟨m, found, rfl⟩ := Option.map_eq_some_iff.mp read
    exact .number (sound found)
  | string s => exact Option.some.inj read ▸ .string s
  | array items ih =>
    obtain ⟨vs, found, rfl⟩ := Option.map_eq_some_iff.mp read
    refine .array fun w hw => ?_
    obtain ⟨item, hitem, one⟩ := exists_of_forall₂ (mapItems?_eq_some_iff.mp found) w hw
    exact ih item hitem one
  | object fields ih =>
    obtain ⟨vs, found, rfl⟩ := Option.map_eq_some_iff.mp read
    refine .object (inOrder_sortFields vs) fun w hw => ?_
    obtain ⟨field, hfield, -, one⟩ :=
      exists_of_forall₂ (mapFields?_eq_some_iff.mp found) w (mem_of_mem_sortFields hw)
    exact ih field hfield one

/-- A canonical tree whose numbers are read back as they were is read back as it was. -/
theorem Canonical.mapNumbers?_mapNumbers {f : ν → μ} {g : μ → Option ν}
    (c : v.Canonical fun n => g (f n) = some n) : (v.mapNumbers f).mapNumbers? g = some v := by
  induction c with
  | null => rfl
  | bool b => rfl
  | number back => exact congrArg (Option.map Json.number) back
  | string s => rfl
  | @array items _ ih =>
    have back : mapItems? g (mapItems f items) = some items := by
      rw [mapItems_eq_map, mapItems?_eq_some_iff, List.forall₂_map_left_iff]
      exact List.forall₂_same.mpr ih
    exact congrArg (Option.map Json.array) back
  | @object fields ordered _ ih =>
    have back : mapFields? g (mapFields f fields) = some fields := by
      rw [mapFields_eq_map, mapFields?_eq_some_iff, List.forall₂_map_left_iff]
      exact List.forall₂_same.mpr fun field hfield => ⟨rfl, ih field hfield⟩
    simp only [mapNumbers, mapNumbers?, back, Option.map_some, ordered.sortFields_eq]

/-- Fields that have their keys from others are in order if those are. -/
theorem InOrder.of_keys {fields : List (String × Json ν)} {others : List (String × Json μ)}
    (h : InOrder fields) (keys : others.map Prod.fst = fields.map Prod.fst) : InOrder others := by
  have ordered : (others.map Prod.fst).Pairwise (· < ·) := keys ▸ List.pairwise_map.mpr h
  exact List.pairwise_map.mp ordered

/-- A canonical tree that is read back as it was has each of its numbers read back as it was. -/
theorem Canonical.of_mapNumbers?_mapNumbers {P : ν → Prop} {f : ν → μ} {g : μ → Option ν}
    (c : v.Canonical P) (back : (v.mapNumbers f).mapNumbers? g = some v) :
    v.Canonical fun n => g (f n) = some n := by
  induction c with
  | null => exact .null
  | bool b => exact .bool b
  | number _ =>
    obtain ⟨m, found, ⟨⟩⟩ := Option.map_eq_some_iff.mp back
    exact .number found
  | string s => exact .string s
  | array _ ih =>
    obtain ⟨vs, found, ⟨⟩⟩ := Option.map_eq_some_iff.mp back
    rw [mapItems_eq_map, mapItems?_eq_some_iff, List.forall₂_map_left_iff] at found
    exact .array fun w hw => ih w hw (List.forall₂_same.mp found w hw)
  | @object fields ordered _ ih =>
    obtain ⟨vs, found, same⟩ := Option.map_eq_some_iff.mp back
    rw [mapFields_eq_map, mapFields?_eq_some_iff, List.forall₂_map_left_iff] at found
    -- the keys are kept, so the fields that were read are in order before they are sorted
    have keys : vs.map Prod.fst = fields.map Prod.fst := by
      rw [← List.forall₂_eq_eq_eq, List.forall₂_map_left_iff, List.forall₂_map_right_iff]
      exact found.flip.imp fun _ _ one => one.1.symm
    have unsorted : vs = fields := by
      rw [← (ordered.of_keys keys).sortFields_eq]
      exact Json.object.inj same
    rw [unsorted] at found
    exact .object ordered fun field hfield =>
      ih field hfield (List.forall₂_same.mp found field hfield).2

/-! ## Values and their documents -/

/-- The value that a document denotes, its numbers taken as they are written. -/
def Document.denoted (doc : Document) : Option Value := doc.mapNumbers? Number.denoted

/-- The document means the value: it denotes it, its numbers taken as they are written; and the
reader takes it for that value exactly if it takes each number of the value for itself. -/
structure Document.Means (doc : Document) (v : Value) : Prop where
  denoted : doc.denoted = some v
  read_iff : doc.value? = some v ↔ v.Canonical Number.Kept

/-- A canonical value is what its own document denotes. -/
theorem denoted_document {v : Value} (canonical : v.Canonical Number.Proper) :
    v.document.denoted = some v :=
  (canonical.imp fun _ => Number.denoted_literal).mapNumbers?_mapNumbers

/-- What a draft means is canonical, and its numbers are proper. -/
theorem canonical_of_value? {draft : Draft} {v : Value} (read : draft.value? = some v) :
    v.Canonical Number.Proper := by
  obtain ⟨doc, -, value⟩ := Option.bind_eq_some_iff.mp read
  exact canonical_of_mapNumbers? (fun found => (Number.ofLiteral_eq_some found).1) value

/-- A value that was read is what its own document means. -/
theorem means_document {draft : Draft} {v : Value} (read : draft.value? = some v) :
    v.document.Means v where
  denoted := denoted_document (canonical_of_value? read)
  read_iff := ⟨(canonical_of_value? read).of_mapNumbers?_mapNumbers,
    Canonical.mapNumbers?_mapNumbers⟩

end AnalysisPanel.Json
