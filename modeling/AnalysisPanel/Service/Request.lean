import AnalysisPanel.Json.Printer
import AnalysisPanel.Service.Failure
import AnalysisPanel.Service.Settings
import AnalysisPanel.Url.Form

/-! The request that carries a call. A session is asked for by a query, every other call posts a
JSON body to the endpoint of its purpose. -/

namespace AnalysisPanel.Service

open Json

/-- The two ways to ask. -/
inductive Method where
  | get
  | post
  deriving DecidableEq, Inhabited

/-- The name of a method. -/
def Method.name : Method → String
  | .get => "GET"
  | .post => "POST"

/-- A request; the body of a post is JSON. -/
structure Request where
  method : Method
  url : Url
  body : Option Document

/-! ### Bodies -/

/-- Where the text of a sampling parameter has an exponent, and how its ties go. -/
def samplingLayout : Floating.Layout := ⟨-6, 13, .toEven⟩

/-- A sampling parameter; one that is not finite is left open. -/
def parameter : Floating.Number → Document
  | .finite x => .number (samplingLayout.shortest .single x)
  | _ => .null

/-- A count. -/
def count (n : Nat) : Document := .number ⟨false, Floating.digitsText n, [], none⟩

/-- A list of texts. -/
def texts (items : List String) : Document := .array (items.map .string)

/-- Earlier questions. -/
def turns (history : List HistoryTurn) : Document :=
  .array (history.map fun turn =>
    .object [("role", .string turn.role), ("content", .string turn.content)])

/-- Sampling parameters as fields of a body; those not set are absent. -/
def Sampling.fields (s : Sampling) : List (String × Document) :=
  [("temperature", parameter s.temperature)] ++
    (s.maxTokens.map fun n => ("max_tokens", count n)).toList ++
    (s.topP.map fun p => ("top_p", parameter p)).toList ++
    if s.stop.isEmpty then [] else [("stop", texts s.stop)]

/-- The data source. Its port goes under the key the synthesizer reads, and a password that is
not set is empty. -/
def DataSource.document (d : DataSource) : Document :=
  .object [("host", .string d.host), ("post", .string d.port), ("name", .string d.name),
    ("user", .string d.user), ("password", .string (d.password.getD ""))]

/-- The body that a call posts. -/
def body? (settings : Settings) : Call → Option Document
  | .loadSession _ => none
  | .discover (.candidates prompt history) =>
    some (.object ([("prompt", .string prompt), ("history", turns history)] ++
      settings.sampling.discover.fields))
  | .discover (.analysis prompt history scope) =>
    some (.object ([("prompt", .string prompt), ("history", turns history)] ++
      settings.sampling.analyse.fields ++ [("table", scope.document)]))
  | .synthesize (.selection labels) =>
    some (.object ([("index_list", texts labels), ("database", settings.dataSource.document)] ++
      settings.sampling.synthesizeSelection.fields))
  | .synthesize (.prompt prompt) =>
    some (.object ([("prompt", .string prompt), ("database", settings.dataSource.document)] ++
      settings.sampling.synthesizePrompt.fields))
  | .deliver payload => some payload.document
  | .generateReport session extra =>
    some (.object [("dash_id", .string session), ("extra", turns extra)])

/-! ### Requests -/

/-- Reads the URL of an endpoint. -/
def endpoint? (written : String) : Except Failure Url :=
  (Url.parse written).mapError fun e => ⟨.invalidUrl, written ++ ": " ++ e.message⟩

/-- The request of a call to a URL. -/
def requestTo (settings : Settings) (call : Call) (url : Url) : Request :=
  match call, body? settings call with
  | .loadSession session, body => ⟨.get, url.addPair "dash_id" session, body⟩
  | _, body => ⟨.post, url, body⟩

/-- The request of a call, or why there can be none. -/
def request? (settings : Settings) (call : Call) : Except Failure Request :=
  (endpoint? (settings.endpoints.url call.purpose)).map (requestTo settings call)

/-- Whether a request can leave: only these two schemes are spoken. -/
def Request.canLeave (r : Request) : Bool := r.url.scheme == "http" || r.url.scheme == "https"

end AnalysisPanel.Service
