import AnalysisPanel.Config.Basic
import AnalysisPanel.Config.Reader

/-! Configurations as terms. A record may be named, and if so by its own name; a known field stands
in it at most once, and unknown fields count for nothing. A sampling entry is taken as a whole: what
it does not name is unset. -/

namespace AnalysisPanel.Config

open Service Reader

/-! ### Terms of a type -/

/-- A text. -/
def text? : Term → Option String
  | .text s => some s
  | _ => none

/-- A natural number of some bits. -/
def count? (bits : Nat) : Term → Option Nat
  | .number cs => natural? bits cs
  | _ => none

/-- A number of single precision. -/
def parameter? : Term → Option Floating.Number
  | .number cs => single? cs
  | .word false name => single? name.toList
  | _ => none

/-- A value that may be absent. Unless that is enabled, a value alone does not stand for a present
one. -/
def optional? {α : Type} (ext : Extensions) (read : Term → Option α) (t : Term) :
    Option (Option α) :=
  match t with
  | .word false "None" => some none
  | .some inner => (read inner).map some
  | t => if ext.implicitSome then (read t).map some else none

/-- A list of texts. -/
def texts? : Term → Option (List String)
  | .list items => items.mapM text?
  | _ => none

/-- A word out of a choice of words. -/
def choice? {α : Type} (choices : List (String × α)) : Term → Option α
  | .word _ name => (choices.find? fun c => c.1 == name).map (·.2)
  | _ => none

/-! ### Records -/

/-- Whether a record of one name may be written under another, or under none. -/
def namedAs (ext : Extensions) (name : String) : Option String → Bool
  | some written => written == name
  | none => !ext.explicitNames

/-- The fields of a record of a name. -/
def record? (ext : Extensions) (name : String) : Term → Option (List (String × Term))
  | .record written fields => if namedAs ext name written then some fields else none
  | .tuple written [] => if namedAs ext name written then some [] else none
  | _ => none

/-- A field that must be there. -/
def field? {α : Type} (fields : List (String × Term)) (key : String) (read : Term → Option α) :
    Option α :=
  match fields.filter fun f => f.1 == key with
  | [f] => read f.2
  | _ => none

/-- A field with a value for when it is not there. -/
def fieldOr? {α : Type} (fields : List (String × Term)) (key : String) (missing : α)
    (read : Term → Option α) : Option α :=
  match fields.filter fun f => f.1 == key with
  | [] => some missing
  | [f] => read f.2
  | _ => none

/-! ### The records of a configuration -/

def endpoints? (ext : Extensions) (t : Term) : Option Endpoints := do
  let fields ← record? ext "Endpoints" t
  let url (p : Purpose) : Option String := fieldOr? fields p.name (Endpoints.loopback.url p) text?
  some {
    discover := ← url .discover
    analyse := ← url .analyse
    synthesizeSelection := ← url .synthesizeSelection
    synthesizePrompt := ← url .synthesizePrompt
    deliver := ← url .deliver
    report := ← url .report
    sessionInfo := ← url .sessionInfo }

def sampling? (ext : Extensions) (t : Term) : Option Sampling := do
  let fields ← record? ext "SamplingParams" t
  some {
    temperature := ← field? fields "temperature" parameter?
    maxTokens := ← fieldOr? fields "max_tokens" none (optional? ext (count? 32))
    topP := ← fieldOr? fields "top_p" none (optional? ext parameter?)
    stop := ← fieldOr? fields "stop" [] texts? }

def profile? (ext : Extensions) (t : Term) : Option SamplingProfile := do
  let fields ← record? ext "SamplingProfile" t
  let start : SamplingProfile := {}
  let stage (p : Purpose) (missing : Sampling) : Option Sampling :=
    fieldOr? fields p.name missing (sampling? ext)
  some {
    discover := ← stage .discover start.discover
    analyse := ← stage .analyse start.analyse
    synthesizeSelection := ← stage .synthesizeSelection start.synthesizeSelection
    synthesizePrompt := ← stage .synthesizePrompt start.synthesizePrompt }

def dataSource? (ext : Extensions) (t : Term) : Option DataSourceEntry := do
  let fields ← record? ext "DataSourceConfig" t
  some {
    host := ← fieldOr? fields "host" "" text?
    port := ← fieldOr? fields "port" "" text?
    name := ← fieldOr? fields "name" "" text?
    user := ← fieldOr? fields "user" "" text?
    passwordVariable := ← fieldOr? fields "password_env" none (optional? ext text?) }

/-- The names of variants. -/
def variants : List (String × Variant) :=
  [("Metrics", .metricDiscovery), ("Analysis", .scopedAnalysis)]

/-- The names of destinations. -/
def destinations : List (String × LogDestination) :=
  [("Terminal", .terminal), ("File", .file), ("Both", .both)]

def configuration? (ext : Extensions) (t : Term) : Option Configuration := do
  let fields ← record? ext "AppConfig" t
  let start : Configuration := {}
  some {
    variant := ← fieldOr? fields "variant" start.variant (choice? variants)
    log := ← fieldOr? fields "log" start.log (choice? destinations)
    downloads := ← fieldOr? fields "download_dir" start.downloads text?
    endpoints := ← fieldOr? fields "endpoints" start.endpoints (endpoints? ext)
    sampling := ← fieldOr? fields "sampling" start.sampling (profile? ext)
    dataSource := ← fieldOr? fields "data_source" start.dataSource (dataSource? ext)
    connectTimeout := ← fieldOr? fields "connect_timeout_secs" start.connectTimeout (count? 64)
    requestTimeout := ← fieldOr? fields "request_timeout_secs" start.requestTimeout (count? 64)
    reportMaxBytes := ← fieldOr? fields "report_max_bytes" start.reportMaxBytes (count? 64) }

/-- The configuration that a text writes. -/
def ofText? (cs : List Char) : Option Configuration :=
  (document? cs).bind fun r => configuration? r.1 r.2

end AnalysisPanel.Config
