import Mathlib.Data.List.Perm.Basic

/-! Fields of records. A record is a list of keys with values, in any order; a field that is known
stands in it at most once. -/

namespace AnalysisPanel

variable {κ α : Type} [BEq κ] {fields others : List (κ × α)} {key : κ} {value : α}
  {value? : Option α}

/-- The field of a key is not repeated. -/
def Once (key : κ) (fields : List (κ × α)) : Prop := (fields.map Prod.fst).count key ≤ 1

instance : Decidable (Once key fields) := inferInstanceAs (Decidable (_ ≤ 1))

/-- What stands under a key, if anything does. -/
structure Holds (fields : List (κ × α)) (key : κ) (value? : Option α) : Prop where
  once : Once key fields
  mem_iff : ∀ value, (key, value) ∈ fields ↔ value? = some value

theorem once_iff_length : Once key fields ↔ (fields.filter fun f => f.1 == key).length ≤ 1 := by
  rw [Once, List.count, List.countP_map, List.countP_eq_length_filter]
  rfl

theorem Holds.unique {other? : Option α} (holds : Holds fields key value?)
    (other : Holds fields key other?) : value? = other? :=
  Option.ext fun value => (holds.mem_iff value).symm.trans (other.mem_iff value)

theorem Holds.perm (holds : Holds fields key value?) (perm : fields.Perm others) :
    Holds others key value? where
  once := le_of_eq_of_le ((perm.map Prod.fst).count_eq key).symm holds.once
  mem_iff value := perm.mem_iff.symm.trans (holds.mem_iff value)

variable [LawfulBEq κ]

theorem mem_filter_key :
    (key, value) ∈ (fields.filter fun f => f.1 == key) ↔ (key, value) ∈ fields := by
  rw [List.mem_filter, and_iff_left (beq_self_eq_true key)]

/-- What stands under a key is the only field of that key. -/
theorem holds_iff : Holds fields key value? ↔
    (fields.filter fun f => f.1 == key) = (value?.map (key, ·)).toList := by
  constructor
  · rintro ⟨once, mem_iff⟩
    have short := once_iff_length.mp once
    have keys : ∀ f ∈ fields.filter (fun f => f.1 == key), f.1 = key := fun f hf =>
      eq_of_beq (List.mem_filter.mp hf).2
    have mem_iff value := mem_filter_key.trans (mem_iff value)
    generalize fields.filter (fun f => f.1 == key) = found at short keys mem_iff ⊢
    match found with
    | [] =>
      cases value? with
      | none => rfl
      | some value => exact absurd ((mem_iff value).mpr rfl) List.not_mem_nil
    | [(k, value)] =>
      obtain rfl : k = key := keys _ List.mem_cons_self
      rw [(mem_iff value).mp List.mem_cons_self]
      rfl
    | _ :: _ :: _ => simp at short
  · intro found
    refine ⟨once_iff_length.mpr ?_, fun value => ?_⟩
    · rw [found]
      cases value? <;> simp
    · rw [← mem_filter_key, found]
      cases value? <;> simp [eq_comm]

theorem once_iff_exists : Once key fields ↔ ∃ value?, Holds fields key value? := by
  refine ⟨fun once => ?_, fun ⟨_, holds⟩ => holds.once⟩
  have short := once_iff_length.mp once
  cases found : fields.filter (fun f => f.1 == key) with
  | nil => exact ⟨none, holds_iff.mpr found⟩
  | cons f rest =>
    obtain ⟨k, value⟩ := f
    obtain rfl : k = key := by
      have mem : (k, value) ∈ fields.filter (fun f => f.1 == key) := found ▸ List.mem_cons_self
      exact eq_of_beq (List.mem_filter.mp mem).2
    rw [found, List.length_cons] at short
    obtain rfl : rest = [] := List.length_eq_zero_iff.mp (by omega)
    exact ⟨some value, holds_iff.mpr found⟩

end AnalysisPanel
