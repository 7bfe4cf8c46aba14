/-! Log lines. Each carries a level and the label of the session it belongs to. -/

namespace AnalysisPanel.Log

/-- How much a line matters. -/
inductive Level where
  | trace
  | debug
  | info
  | warn
  | error
  deriving DecidableEq, Inhabited

/-- The name of a level. -/
def Level.name : Level → String
  | .trace => "TRACE"
  | .debug => "DEBUG"
  | .info => "INFO"
  | .warn => "WARN"
  | .error => "ERROR"

/-- Whether lines of a level are kept when those below `least` are dropped. -/
def Level.reaches (level least : Level) : Bool := least.ctorIdx ≤ level.ctorIdx

/-- The label of lines outside any session. -/
def noSession : String := "-"

/-- A line: its level and its whole message. -/
structure Line where
  level : Level
  text : String
  deriving DecidableEq, Inhabited

/-- A message under a label. -/
def Line.of (label : String) (level : Level) (message : String) : Line :=
  ⟨level, "[" ++ label ++ "] " ++ message⟩

end AnalysisPanel.Log
