import AnalysisPanel.Config.Decoding
import AnalysisPanel.Text.Quoted
import AnalysisPanel.Url.Parser

/-! Loading the configuration. A file that is not there leaves every default; each endpoint must be
a URL, and the first that is none is named. -/

namespace AnalysisPanel

open Config Service

/-- What was found at the path of the configuration. -/
inductive ConfigFile where
  | missing
  | unreadable (reason : String)
  | content (octets : Bytes)
  deriving Inhabited

/-- Why there is no configuration. -/
inductive ConfigError where
  | unreadable (path reason : String)
  | malformed (path : String)
  | endpoint (purpose : Purpose) (value : String) (reason : Url.ParseError)
  deriving DecidableEq

/-- What the user reads. -/
def ConfigError.message : ConfigError → String
  | .unreadable path reason => "failed to read config " ++ Text.quotedPath path ++ ": " ++ reason
  | .malformed path =>
    "failed to parse config " ++ Text.quotedPath path ++ ": the text is no configuration"
  | .endpoint purpose value reason =>
    "endpoint `" ++ purpose.name ++ "` is not a valid url (" ++ Text.quoted value ++ "): " ++
      reason.message

namespace Configuration

/-- The endpoint of a purpose as an error, if it is no URL. -/
def badEndpoint? (e : Endpoints) (p : Purpose) : Option ConfigError :=
  match Url.parse (e.url p) with
  | .ok _ => none
  | .error reason => some (.endpoint p (e.url p) reason)

/-- Checks every endpoint. -/
def validate (c : Configuration) : Except ConfigError Configuration :=
  match Purpose.all.findSome? (badEndpoint? c.endpoints) with
  | none => .ok c
  | some e => .error e

/-- The configuration in what was found at a path. -/
def load (path : String) : ConfigFile → Except ConfigError Configuration
  | .missing => .ok {}
  | .unreadable reason => .error (.unreadable path reason)
  | .content octets =>
    match Text.Utf8.decode octets with
    | none => .error (.unreadable path "stream did not contain valid UTF-8")
    | some cs =>
      match ofText? cs with
      | none => .error (.malformed path)
      | some c => c.validate

/-- What is logged about the file. -/
def loadLogs (path : String) : ConfigFile → List Log.Line
  | .missing =>
    [.of Log.noSession .info ("no config at " ++ Text.quotedPath path ++ ", using defaults")]
  | _ => []

end Configuration

end AnalysisPanel
