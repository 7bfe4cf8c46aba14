/-! The busy gate: at most one call is outstanding at a time. -/

namespace AnalysisPanel

/-- Whether a call is outstanding. -/
structure Gate where
  busy : Bool := false
  deriving DecidableEq, Inhabited

namespace Gate

/-- The gate after taking it, or nothing when it is held already. -/
def enter? (g : Gate) : Option Gate := if g.busy then none else some ⟨true⟩

/-- The gate after it is let go. -/
def exit (_ : Gate) : Gate := ⟨false⟩

end Gate

end AnalysisPanel
