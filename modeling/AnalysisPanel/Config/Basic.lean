import AnalysisPanel.Log
import AnalysisPanel.Panel.Basic
import AnalysisPanel.Service.Settings

/-! The configuration of the program. What a configuration file does not name keeps its default; the
password of the data source is never in the file, which names an environment variable instead. -/

namespace AnalysisPanel

namespace Config

/-- Where log lines go. -/
inductive LogDestination where
  | terminal
  | file
  | both
  deriving DecidableEq, Inhabited

/-- The data source as the file describes it. -/
structure DataSourceEntry where
  host : String := ""
  port : String := ""
  name : String := ""
  user : String := ""
  passwordVariable : Option String := none
  deriving DecidableEq, Inhabited

end Config

open Config Service

/-- A configuration; times are in seconds. -/
structure Configuration where
  variant : Variant := .metricDiscovery
  log : LogDestination := .file
  downloads : String := "./downloads"
  endpoints : Endpoints := .loopback
  sampling : SamplingProfile := {}
  dataSource : DataSourceEntry := {}
  connectTimeout : Nat := 10
  requestTimeout : Nat := 120
  reportMaxBytes : Nat := 32 * 1024 * 1024
  deriving DecidableEq

namespace Configuration

/-- An environment: the values of its variables. -/
abbrev Environment := String → Option String

/-- The password that the environment holds for a data source. -/
def password (env : Environment) (source : DataSourceEntry) : Option String :=
  source.passwordVariable.bind env

/-- What is logged when the password's variable is not set. -/
def passwordLogs (env : Environment) (source : DataSourceEntry) : List Log.Line :=
  match source.passwordVariable with
  | some name =>
    match env name with
    | some _ => []
    | none =>
      [.of Log.noSession .warn ("data source password variable " ++ name ++ " is not set")]
  | none => []

/-- The settings of the services. -/
def settings (env : Environment) (c : Configuration) : Settings where
  endpoints := c.endpoints
  sampling := c.sampling
  dataSource :=
    { host := c.dataSource.host, port := c.dataSource.port, name := c.dataSource.name
      user := c.dataSource.user, password := password env c.dataSource }
  connectTimeout := 1000 * c.connectTimeout
  requestTimeout := 1000 * c.requestTimeout
  reportMaxBytes := c.reportMaxBytes

/-! ### Equality by value -/

/-- Whether two parameters are equal numbers, or both absent. -/
def sameParameter : Option Floating.Number → Option Floating.Number → Bool
  | none, none => true
  | some x, some y => x.numEq y
  | _, _ => false

/-- Whether sampling is the same in every number and text. -/
def sameSampling (s t : Sampling) : Bool :=
  s.temperature.numEq t.temperature && s.maxTokens == t.maxTokens &&
    sameParameter s.topP t.topP && s.stop == t.stop

/-- Whether profiles are the same in every number and text. -/
def sameProfile (p q : SamplingProfile) : Bool :=
  sameSampling p.discover q.discover && sameSampling p.analyse q.analyse &&
    sameSampling p.synthesizeSelection q.synthesizeSelection &&
    sameSampling p.synthesizePrompt q.synthesizePrompt

/-- Whether configurations are the same in every number and text; none with a `NaN` is. -/
def same (c d : Configuration) : Bool :=
  sameProfile c.sampling d.sampling && { c with sampling := d.sampling } == d

end Configuration

end AnalysisPanel
