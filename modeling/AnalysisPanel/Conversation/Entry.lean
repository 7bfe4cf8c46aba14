/-! Entries of a conversation. -/

namespace AnalysisPanel

/-- One entry: what the user asked, an answer in words or as a link, or the checklist of metrics
that waits for the user's confirmation. -/
inductive Entry where
  | user (text : String)
  | assistant (text : Option String) (link : Option String)
  | selectionPrompt
  deriving DecidableEq, Inhabited

namespace Entry

/-- An answer in words. -/
def answer (text : String) : Entry := .assistant (some text) none

/-- A link to a finished chart. -/
def result (link : String) : Entry := .assistant none (some link)

def isSelectionPrompt : Entry → Bool
  | .selectionPrompt => true
  | _ => false

/-- The link an entry carries. -/
def link? : Entry → Option String
  | .assistant _ link => link
  | _ => none

/-- What the user asked in an entry. -/
def question? : Entry → Option String
  | .user text => some text
  | _ => none

end Entry

end AnalysisPanel
