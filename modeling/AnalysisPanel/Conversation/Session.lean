import AnalysisPanel.Json.Number

/-! Background of a session: the summary of its dashboard and the charts on it. -/

namespace AnalysisPanel

/-- Names the dashboard session a panel is opened for. -/
abbrev SessionId := String

/-- Numbers a chart within its dashboard. -/
abbrev ChartId := Int64

/-- A chart that questions and reports may be scoped to. Its payload goes unchanged to the
services. -/
structure Chart where
  id : ChartId
  title : String
  payload : Json.Value
  deriving Inhabited

/-- What is known of a session once it has been loaded. -/
structure SessionContext where
  summary : String := ""
  charts : List Chart := []
  deriving Inhabited

/-- The first chart of a number. -/
def SessionContext.chart? (ctx : SessionContext) (id : ChartId) : Option Chart :=
  ctx.charts.find? fun chart => chart.id == id

end AnalysisPanel
