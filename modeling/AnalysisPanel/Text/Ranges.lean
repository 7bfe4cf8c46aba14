/-! Character classes given as lists of code point ranges, ends included. -/

namespace AnalysisPanel.Text

/-- A class of characters, as ranges of code points with both ends included. -/
structure CharClass where
  ranges : List (Nat × Nat)

namespace CharClass

/-- Whether the class holds a character. -/
def has (cls : CharClass) (c : Char) : Bool :=
  cls.ranges.any fun r => r.1 ≤ c.toNat && c.toNat ≤ r.2

theorem has_iff {cls : CharClass} {c : Char} :
    cls.has c = true ↔ ∃ r ∈ cls.ranges, r.1 ≤ c.toNat ∧ c.toNat ≤ r.2 := by
  simp [has]

end CharClass

end AnalysisPanel.Text
