/-! The checklist: metrics that a discovery suggests, each of which the user may approve. -/

namespace AnalysisPanel

/-- A suggested metric. -/
structure Candidate where
  label : String
  approved : Bool
  deriving DecidableEq, Inhabited

/-- The metrics of one discovery, in its order. -/
structure CandidateSet where
  items : List Candidate := []
  deriving DecidableEq, Inhabited

namespace CandidateSet

def empty : CandidateSet := {}

/-- A fresh checklist with nothing approved. -/
def ofLabels (labels : List String) : CandidateSet := ⟨labels.map fun label => ⟨label, false⟩⟩

/-- Whether there is a metric at an index. -/
def holds (cs : CandidateSet) (index : Nat) : Bool := index < cs.items.length

/-- Sets the approval at an index; past the end nothing changes. -/
def setAt (cs : CandidateSet) (index : Nat) (approved : Bool) : CandidateSet :=
  ⟨cs.items.modify index fun c => { c with approved }⟩

/-- Sets every approval. -/
def setAll (cs : CandidateSet) (approved : Bool) : CandidateSet :=
  ⟨cs.items.map fun c => { c with approved }⟩

/-- Whether there are metrics and all of them are approved. -/
def allApproved (cs : CandidateSet) : Bool :=
  !cs.items.isEmpty && cs.items.all (·.approved)

/-- The labels of the approved metrics, in order. -/
def approvedLabels (cs : CandidateSet) : List String :=
  (cs.items.filter (·.approved)).map (·.label)

def size (cs : CandidateSet) : Nat := cs.items.length

def isEmpty (cs : CandidateSet) : Bool := cs.items.isEmpty

end CandidateSet

end AnalysisPanel
