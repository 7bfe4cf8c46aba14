import AnalysisPanel.Panel.Basic

/-! What a panel shows. -/

namespace AnalysisPanel

/-- A chart in the list of charts. -/
structure ChartRow where
  id : ChartId
  title : String
  deriving DecidableEq, Inhabited

/-- What a panel shows of its state. -/
structure View where
  variant : Variant := .metricDiscovery
  isOpen : Bool := false
  session : Option SessionId := none
  summary : String := ""
  charts : List ChartRow := []
  selected : Option ChartId := none
  selectedTitle : Option String := none
  draft : String := ""
  entries : List Entry := []
  candidates : List Candidate := []
  allSelected : Bool := false
  busy : Bool := false
  stage : Stage := .idle
  loadingContext : Bool := false
  canRequestReport : Bool := false
  dirty : Bool := false
  deriving DecidableEq, Inhabited

/-- The view of a panel. -/
def Panel.view (p : Panel) : View where
  variant := p.variant
  isOpen := p.isOpen
  session := p.session
  summary := p.context.summary
  charts := p.context.charts.map fun chart => ⟨chart.id, chart.title⟩
  selected := p.selectedChart?.map (·.id)
  selectedTitle := p.selectedChart?.map (·.title)
  draft := p.draft
  entries := p.transcript.entries
  candidates := p.candidates.items
  allSelected := p.candidates.allApproved
  busy := p.isBusy
  stage := p.stage
  loadingContext := p.bootstrap.isSome
  canRequestReport := p.isOpen && p.selectedChart?.isSome && !p.isBusy
  dirty := p.dirty

end AnalysisPanel
