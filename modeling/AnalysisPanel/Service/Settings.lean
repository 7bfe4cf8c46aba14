import AnalysisPanel.Conversation.Call
import AnalysisPanel.Floating.Basic

/-! Where the services are, how the models sample, and what the data source is. -/

namespace AnalysisPanel

namespace Service

/-! ### Endpoints -/

/-- What an endpoint is for. -/
inductive Purpose where
  | discover
  | analyse
  | synthesizeSelection
  | synthesizePrompt
  | deliver
  | report
  | sessionInfo
  deriving DecidableEq, Inhabited

namespace Purpose

/-- Every purpose, in the order in which endpoints are listed and checked. -/
def all : List Purpose :=
  [discover, analyse, synthesizeSelection, synthesizePrompt, deliver, report, sessionInfo]

/-- The name of a purpose. -/
def name : Purpose → String
  | discover => "discover"
  | analyse => "analyse"
  | synthesizeSelection => "synthesize_selection"
  | synthesizePrompt => "synthesize_prompt"
  | deliver => "deliver"
  | report => "report"
  | sessionInfo => "session_info"

theorem mem_all (p : Purpose) : p ∈ all := by cases p <;> decide

end Purpose

end Service

/-- What the endpoint of a call is for. -/
def Call.purpose : Call → Service.Purpose
  | .loadSession _ => .sessionInfo
  | .discover (.candidates _ _) => .discover
  | .discover (.analysis _ _ _) => .analyse
  | .synthesize (.selection _) => .synthesizeSelection
  | .synthesize (.prompt _) => .synthesizePrompt
  | .deliver _ => .deliver
  | .generateReport _ _ => .report

namespace Service

/-- The URL of each endpoint. -/
structure Endpoints where
  discover : String
  analyse : String
  synthesizeSelection : String
  synthesizePrompt : String
  deliver : String
  report : String
  sessionInfo : String
  deriving DecidableEq

namespace Endpoints

/-- The URL for a purpose. -/
def url (e : Endpoints) : Purpose → String
  | .discover => e.discover
  | .analyse => e.analyse
  | .synthesizeSelection => e.synthesizeSelection
  | .synthesizePrompt => e.synthesizePrompt
  | .deliver => e.deliver
  | .report => e.report
  | .sessionInfo => e.sessionInfo

/-- A root without the slashes it ends with. -/
def trimRoot (root : String) : String :=
  String.ofList (root.toList.reverse.dropWhile (· == '/')).reverse

/-- The endpoints under the roots of the model service and of the dashboard. -/
def under (model dashboard : String) : Endpoints where
  discover := trimRoot model ++ "/generate_index"
  analyse := trimRoot model ++ "/generate_analyse"
  synthesizeSelection := trimRoot model ++ "/generate_table2"
  synthesizePrompt := trimRoot model ++ "/generate_table"
  deliver := trimRoot dashboard ++ "/api/app/dash/"
  report := trimRoot dashboard ++ "/api/app/gen_dash_reports/"
  sessionInfo := trimRoot dashboard ++ "/api/app/dash_info/"

/-- The endpoints of services that run on this machine. -/
def loopback : Endpoints := under "http://127.0.0.1:7860" "http://127.0.0.1:8088"

/-- Each endpoint with the name of its purpose. -/
def all (e : Endpoints) : List (String × String) := Purpose.all.map fun p => (p.name, e.url p)

end Endpoints

/-! ### Sampling -/

/-- How a model samples. -/
structure Sampling where
  temperature : Floating.Number
  maxTokens : Option Nat := none
  topP : Option Floating.Number := none
  stop : List String := []
  deriving DecidableEq, Inhabited

/-- A number of hundredths as a sampling parameter. -/
def hundredths (n : Nat) : Floating.Number := Floating.Format.single.ofRatio false n 100

/-- The texts at which a synthesis stops. -/
def observationStops : List String := ["\nObservation:", "\nObservation :"]

/-- Sampling of each call to a model. -/
structure SamplingProfile where
  discover : Sampling := ⟨hundredths 90, none, none, []⟩
  analyse : Sampling := ⟨hundredths 100, some 2048, some (hundredths 95), []⟩
  synthesizeSelection : Sampling :=
    ⟨hundredths 10, some 2048, some (hundredths 95), observationStops⟩
  synthesizePrompt : Sampling := ⟨hundredths 10, some 2048, none, observationStops⟩
  deriving DecidableEq

/-! ### All settings -/

/-- The database that a synthesis queries. -/
structure DataSource where
  host : String := ""
  port : String := ""
  name : String := ""
  user : String := ""
  password : Option String := none
  deriving DecidableEq, Inhabited

/-- The settings of the services; times are in milliseconds. -/
structure Settings where
  endpoints : Endpoints := .loopback
  sampling : SamplingProfile := {}
  dataSource : DataSource := {}
  connectTimeout : Nat := 10000
  requestTimeout : Nat := 120000
  reportMaxBytes : Nat := 32 * 1024 * 1024
  deriving DecidableEq

end Service

end AnalysisPanel
