import AnalysisPanel.Panel.View

/-! The lines a terminal shows. Entries, metrics and charts carry the numbers by which commands
name them. -/

namespace AnalysisPanel.Rendering

def checkbox (checked : Bool) : String := if checked then "[x]" else "[ ]"

/-- The line of an entry at a position that counts from one. -/
def entryLine (position : Nat) (e : Entry) : String :=
  let at' := toString position
  let body := match e with
    | .user text => "you: " ++ text
    | .assistant _ (some url) => "analyst: result ready at " ++ url ++ " (/open " ++ at' ++ ")"
    | .assistant (some text) none => "analyst: " ++ text
    | .assistant none none => "analyst: (empty reply)"
    | .selectionPrompt =>
      "analyst: these metrics may relate to your question; " ++
        "pick some with /check N or /all, then /confirm"
  "[" ++ at' ++ "] " ++ body

/-- The line of a metric at an index that counts from zero. -/
def candidateLine (index : Nat) (c : Candidate) : String :=
  "    " ++ checkbox c.approved ++ " " ++ toString (index + 1) ++ ". " ++ c.label

/-- The lines of a checklist: one for all of it and one for each metric. -/
def candidateLines (items : List Candidate) : List String :=
  ("    " ++ checkbox (!items.isEmpty && items.all (·.approved)) ++ " suggested metrics") ::
    items.mapIdx candidateLine

/-- A text brought to a width by blanks before it. -/
def padLeft (width : Nat) (text : String) : String :=
  String.ofList (List.replicate (width - text.length) ' ') ++ text

/-- The line of a chart; the selected one has a star. -/
def chartLine (selected : Option ChartId) (row : ChartRow) : String :=
  "  " ++ (if selected = some row.id then "*" else " ") ++ " " ++ padLeft 4 (toString row.id) ++
    "  " ++ row.title

/-- What is said while a call is outstanding. -/
def statusLine : Stage → Option String
  | .idle | .awaitingSelection => none
  | .discovering => some "... looking for related metrics"
  | .synthesizing => some "... building the table"
  | .delivering => some "... rendering the chart"
  | .generatingReport => some "... writing the report"

/-- The lines of an entry in the whole panel: a selection prompt shows its checklist. -/
def entryLines (v : View) (index : Nat) (e : Entry) : List String :=
  entryLine (index + 1) e :: if e.isSelectionPrompt then candidateLines v.candidates else []

/-- The line about the summary, if there is anything to say. -/
def summaryLines (v : View) : List String :=
  if v.loadingContext then ["summary: loading..."]
  else if v.summary = "" then [] else ["summary: " ++ v.summary]

/-- The lines of the charts. -/
def chartLines (v : View) : List String :=
  if v.charts.isEmpty then [] else "charts:" :: v.charts.map (chartLine v.selected)

/-- The lines of the whole panel. -/
def panelLines (v : View) : List String :=
  ("== session " ++ v.session.getD "-" ++ " ==") :: summaryLines v ++ chartLines v ++
    (v.entries.mapIdx (entryLines v)).flatten ++ (statusLine v.stage).toList

/-- The index of the last entry that carries a link. -/
def latestLink (v : View) : Option Nat :=
  let reversed := v.entries.reverse
  (reversed.findIdx? fun e => e.link?.isSome).map fun i => v.entries.length - 1 - i

end AnalysisPanel.Rendering
