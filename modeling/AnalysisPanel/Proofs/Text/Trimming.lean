import AnalysisPanel.Text.Blank
import Mathlib.Data.List.Basic
import Mathlib.Data.List.TakeWhile

/-! Trimming takes the blanks away at both ends of a text, and nothing else; a word has none. -/

namespace AnalysisPanel.Text

/-- What is left of a text without the blanks around it. -/
structure Trims (cs ds : List Char) : Prop where
  around : ∃ front back, cs = front ++ ds ++ back ∧ ∀ c ∈ front ++ back, isBlank c = true
  first : ∀ c, ds.head? = some c → isBlank c = false
  last : ∀ c, ds.getLast? = some c → isBlank c = false

theorem trimStart_split (cs : List Char) :
    ∃ front, cs = front ++ trimStart cs ∧ ∀ c ∈ front, isBlank c = true :=
  ⟨cs.takeWhile isBlank, List.takeWhile_append_dropWhile.symm, fun _ => List.mem_takeWhile_imp⟩

theorem head?_trimStart {cs : List Char} {c : Char} (h : (trimStart cs).head? = some c) :
    isBlank c = false := by
  have first := List.head?_dropWhile_not isBlank cs
  rw [trimStart] at h
  rw [h] at first
  exact first

theorem trimEnd_eq (cs : List Char) : trimEnd cs = (trimStart cs.reverse).reverse := rfl

theorem trimEnd_split (cs : List Char) :
    ∃ back, cs = trimEnd cs ++ back ∧ ∀ c ∈ back, isBlank c = true := by
  obtain ⟨front, split, blank⟩ := trimStart_split cs.reverse
  refine ⟨front.reverse, ?_, ?_⟩
  · rw [trimEnd_eq, ← List.reverse_append, ← split, List.reverse_reverse]
  · intro c hc
    exact blank c (List.mem_reverse.mp hc)

theorem getLast?_trimEnd {cs : List Char} {c : Char} (h : (trimEnd cs).getLast? = some c) :
    isBlank c = false := by
  rw [trimEnd_eq, List.getLast?_reverse] at h
  exact head?_trimStart h

theorem trims_trim (cs : List Char) : Trims cs (trim cs) := by
  obtain ⟨front, whole, leading⟩ := trimStart_split cs
  obtain ⟨back, rest, trailing⟩ := trimEnd_split (trimStart cs)
  refine ⟨⟨front, back, ?_, ?_⟩, ?_, fun c => getLast?_trimEnd⟩
  · rw [List.append_assoc, trim, ← rest, ← whole]
  · intro c hc
    exact (List.mem_append.mp hc).elim (leading c) (trailing c)
  · -- what the end of the text loses is not at its beginning, unless nothing is left
    intro c hc
    have first : (trimStart cs).head? = some c := by
      rw [rest, List.head?_append, show (trimEnd (trimStart cs)).head? = some c from hc]
      rfl
    exact head?_trimStart first

theorem dropWhile_eq_self {cs : List Char} (first : ∀ c ∈ cs.head?, isBlank c = false) :
    cs.dropWhile isBlank = cs := by
  cases cs with
  | nil => rfl
  | cons c cs => exact List.dropWhile_cons_of_neg (by simp [first c rfl])

theorem trim_eq_self {cs : List Char} (first : ∀ c ∈ cs.head?, isBlank c = false)
    (last : ∀ c ∈ cs.getLast?, isBlank c = false) : trim cs = cs := by
  rw [← List.head?_reverse] at last
  rw [trim, trimStart, dropWhile_eq_self first, trimEnd, dropWhile_eq_self last,
    List.reverse_reverse]

/-! ## Blanks around a text -/

theorem trimStart_append {front : List Char} (blank : ∀ c ∈ front, isBlank c = true)
    (cs : List Char) : trimStart (front ++ cs) = trimStart cs :=
  List.dropWhile_append_of_pos blank

theorem trimStart_eq_nil {cs : List Char} (blank : ∀ c ∈ cs, isBlank c = true) :
    trimStart cs = [] :=
  List.dropWhile_eq_nil_iff.mpr blank

theorem trimEnd_append {back : List Char} (blank : ∀ c ∈ back, isBlank c = true)
    (cs : List Char) : trimEnd (cs ++ back) = trimEnd cs := by
  have reversed : ∀ c ∈ back.reverse, isBlank c = true := fun c hc =>
    blank c (List.mem_reverse.mp hc)
  rw [trimEnd_eq, List.reverse_append, trimStart_append reversed, ← trimEnd_eq]

/-- Blanks around a text do not count. -/
theorem trim_around {front back : List Char} (leading : ∀ c ∈ front, isBlank c = true)
    (trailing : ∀ c ∈ back, isBlank c = true) (cs : List Char) :
    trim (front ++ cs ++ back) = trim cs := by
  rw [List.append_assoc, trim, trimStart_append leading, trim]
  cases start : trimStart cs with
  | nil =>
    -- nothing is left of the text, and so what comes after it is trimmed from its start
    rw [trimStart, List.dropWhile_append, ← trimStart, start, ← trimStart,
      trimStart_eq_nil trailing]
    rfl
  | cons c rest =>
    rw [trimStart, List.dropWhile_append, ← trimStart, start]
    exact trimEnd_append trailing (c :: rest)

/-- A text can be trimmed in one way only. -/
theorem Trims.trim_eq {cs ds : List Char} (t : Trims cs ds) : trim cs = ds := by
  obtain ⟨front, back, rfl, blank⟩ := t.around
  obtain ⟨leading, trailing⟩ := List.forall_mem_append.mp blank
  rw [trim_around leading trailing, trim_eq_self t.first t.last]

/-! ## Words -/

variable {cs ds : List Char}

/-- What comes before the first blank is all that is taken. -/
theorem takeWhile_until (solid : ∀ c ∈ cs, isBlank c = false)
    (ends : ∀ c ∈ ds.head?, isBlank c = true) : (cs ++ ds).takeWhile (fun c => !isBlank c) = cs := by
  rw [List.takeWhile_append_of_pos (by simpa using solid)]
  cases ds with
  | nil => exact List.append_nil cs
  | cons c ds => simp [ends c rfl]

theorem dropWhile_until (solid : ∀ c ∈ cs, isBlank c = false)
    (ends : ∀ c ∈ ds.head?, isBlank c = true) : (cs ++ ds).dropWhile (fun c => !isBlank c) = ds := by
  rw [List.dropWhile_append_of_pos (by simpa using solid)]
  cases ds with
  | nil => rfl
  | cons c ds => simp [ends c rfl]

/-- A text is cut at its first blank. -/
theorem cut_at_blank (cs : List Char) :
    ∃ word rest, cs = word ++ rest ∧ (∀ c ∈ word, isBlank c = false) ∧
      ∀ c ∈ rest.head?, isBlank c = true := by
  refine ⟨cs.takeWhile fun c => !isBlank c, cs.dropWhile fun c => !isBlank c,
    List.takeWhile_append_dropWhile.symm, fun c hc => ?_, fun c hc => ?_⟩
  · simpa using List.mem_takeWhile_imp hc
  · have first := List.head?_dropWhile_not (fun c => !isBlank c) cs
    rw [Option.mem_def.mp hc] at first
    simpa using first

theorem takeWhile_solid (solid : ∀ c ∈ cs, isBlank c = false) (rest : List Char) :
    (cs ++ ' ' :: rest).takeWhile (fun c => !isBlank c) = cs :=
  takeWhile_until solid (by simp [isBlank])

theorem dropWhile_solid (solid : ∀ c ∈ cs, isBlank c = false) (rest : List Char) :
    (cs ++ ' ' :: rest).dropWhile (fun c => !isBlank c) = ' ' :: rest :=
  dropWhile_until solid (by simp [isBlank])

/-- A word has characters, and none of them is blank. -/
structure IsWord (cs : List Char) : Prop where
  nonempty : cs ≠ []
  solid : ∀ c ∈ cs, isBlank c = false

/-- A text that ends with a word ends with no blank. -/
theorem IsWord.getLast?_append (w : IsWord cs) (front : List Char) :
    ∀ c ∈ (front ++ cs).getLast?, isBlank c = false := by
  intro c hc
  rw [List.getLast?_append_of_ne_nil _ w.nonempty] at hc
  exact w.solid c (List.mem_of_getLast? hc)

theorem IsWord.trim_blank (w : IsWord cs) : trim (' ' :: cs) = cs := by
  have start : trimStart (' ' :: cs) = trimStart cs := rfl
  rw [trim, start, ← trim]
  exact trim_eq_self (fun c hc => w.solid c (List.mem_of_head? hc)) (w.getLast?_append [])

end AnalysisPanel.Text
