import AnalysisPanel.Panel.Message
import AnalysisPanel.Text.Blank
import AnalysisPanel.Text.Numeral
import AnalysisPanel.Text.Quoted

/-! Lines of terminal input. A line that begins with a slash is a command, any other a question.
Positions count from one as they are typed and from zero as they are meant. -/

namespace AnalysisPanel

/-- One line of input. -/
inductive Command where
  | ask (text : String)
  | table (text : String)
  | check (index : Nat) (approved : Bool)
  | checkAll (approved : Bool)
  | confirm
  | chart (id : ChartId)
  | report
  | openLink (position : Option Nat)
  | sample (index : Nat)
  | send
  | present
  | help
  | quit
  deriving DecidableEq, Inhabited

namespace Command

open Text

/-- Questions offered as a start. -/
def samples : List String :=
  ["Total current assets for Q1 2017 as a bar chart", "Goodwill for Q2 2018 as a line chart"]

/-- The text of `/help`. -/
def helpText : String := String.intercalate "\n" [
  "commands:",
  "  <text>            ask a question",
  "  /example N        put sample question N into the draft",
  "  /send             ask the current draft",
  "  /table <text>     build a table straight from <text>",
  "  /check N          approve suggested metric N",
  "  /uncheck N        withdraw approval for metric N",
  "  /all | /none      approve or withdraw every metric",
  "  /confirm          chart the approved metrics",
  "  /scope ID         choose the chart to analyse or report on",
  "  /report           download the analysis report",
  "  /open [N]         open the link in entry N (default: latest)",
  "  /show             reprint the panel",
  "  /help             this text",
  "  /quit             close the panel",
  "sample questions:",
  "  1. Total current assets for Q1 2017 as a bar chart",
  "  2. Goodwill for Q2 2018 as a line chart"]

/-- Why a line is no command. -/
inductive ParseError where
  | position (found : String)
  | chartId (found : String)
  | noSuchSample
  | unknown (name : String)
  deriving DecidableEq, Inhabited

/-- What the user reads. -/
def ParseError.message : ParseError → String
  | .position found => "expected a position starting at 1, got " ++ quoted found
  | .chartId found => "expected a chart id, got " ++ quoted found
  | .noSuchSample => "there are " ++ toString samples.length ++ " sample questions"
  | .unknown name => "unknown command /" ++ name

/-- Positions are numerals below this bound. -/
def positionBound : Nat := UInt64.size

/-- Reads a position that counts from one. -/
def position (arg : List Char) : Except ParseError Nat :=
  match natural? positionBound arg with
  | some (n + 1) => .ok n
  | _ => .error (.position (String.ofList arg))

/-- Reads a chart number. -/
def chartId (arg : List Char) : Except ParseError ChartId :=
  match int64? arg with
  | some id => .ok id
  | none => .error (.chartId (String.ofList arg))

/-- The sample question at an index. -/
def sampleAt (index : Nat) : Except ParseError Command :=
  if index < samples.length then .ok (.sample index) else .error .noSuchSample

/-- The command of a name with its argument. -/
def named (name : String) (arg : List Char) : Except ParseError Command :=
  match name with
  | "table" => .ok (.table (String.ofList arg))
  | "check" => (position arg).map (.check · true)
  | "uncheck" => (position arg).map (.check · false)
  | "all" => .ok (.checkAll true)
  | "none" => .ok (.checkAll false)
  | "confirm" => .ok .confirm
  | "scope" => (chartId arg).map .chart
  | "report" => .ok .report
  | "open" => if arg.isEmpty then .ok (.openLink none) else (position arg).map (.openLink ∘ some)
  | "example" => (position arg).bind sampleAt
  | "send" => .ok .send
  | "show" => .ok .present
  | "help" => .ok .help
  | "quit" => .ok .quit
  | "exit" => .ok .quit
  | other => .error (.unknown other)

/-- Reads a line. A blank line is nothing. The name of a command ends at the first blank. -/
def parse (line : String) : Except ParseError (Option Command) :=
  match trim line.toList with
  | [] => .ok none
  | '/' :: rest =>
    let name := rest.takeWhile fun c => !isBlank c
    let arg := trim (rest.dropWhile fun c => !isBlank c)
    (named (String.ofList name) arg).map some
  | cs => .ok (some (.ask (String.ofList cs)))

/-- What a command tells the panel. `/open` without a position means the latest link. -/
def messages (latest : Option Nat) : Command → List Message
  | .ask text => [.draftChanged text, .promptSubmitted]
  | .table text => [.draftChanged text, .tableSubmitted]
  | .check index approved => [.candidateToggled index approved]
  | .checkAll approved => [.allToggled approved]
  | .confirm => [.selectionConfirmed]
  | .chart id => [.chartSelected id]
  | .report => [.reportRequested]
  | .openLink position =>
    match position.or latest with
    | some index => [.linkActivated index]
    | none => []
  | .sample index =>
    match samples[index]? with
    | some text => [.draftChanged text]
    | none => []
  | .send => [.promptSubmitted]
  | .present | .help | .quit => []

end Command

end AnalysisPanel
