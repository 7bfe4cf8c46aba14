import AnalysisPanel.Config.Loading
import AnalysisPanel.Program.Arguments
import AnalysisPanel.Storage.Artifact

/-! How the program starts: the command line is read, then the configuration, then the log is
opened, and then the download directory is made sure of. The first of these that fails ends the
program. -/

namespace AnalysisPanel.Program

open Config Log

/-- The name and version of the program. -/
def versionText : String := "analyst 0.1.0"

/-- The text of `--help`. -/
def usageText : String := String.intercalate "\n" [
  "Assisted-analysis chat for one dashboard session",
  "",
  "Usage: analyst [OPTIONS] <SESSION_ID>",
  "",
  "Arguments:",
  "  <SESSION_ID>  Dashboard session to open the panel for",
  "",
  "Options:",
  "      --config <CONFIG>    RON configuration file [default: ./analyst.ron]",
  "      --variant <VARIANT>  Overrides the panel variant from the config file " ++
    "[possible values: metrics, analysis]",
  "      --log <LOG>          Overrides where log lines go [possible values: terminal, file, both]",
  "  -v, --verbose            Log at debug level",
  "  -h, --help               Print help",
  "  -V, --version            Print version"]

/-- What the user reads of a command line that starts no session. -/
def ArgumentError.message : ArgumentError → String
  | .missingSession => "error: the following required arguments were not provided:\n  <SESSION_ID>"
  | .unknown argument => "error: unexpected argument '" ++ argument ++ "' found"
  | .invalidValue name => "error: invalid or missing value for '" ++ name ++ "'"
  | .repeated name => "error: the argument '" ++ name ++ "' cannot be used multiple times"
  | .unwantedValue name =>
    "error: unexpected value for '" ++ name ++ "' found; no more were expected"
  | .help => usageText
  | .version => versionText

/-- An end of the program before any session: its exit code and what it leaves on the terminal. -/
structure Ending where
  exit : Nat
  output : Option String := none
  error : Option String := none
  deriving DecidableEq, Inhabited

/-- The end that a command line calls for. -/
def Ending.ofArguments (e : ArgumentError) : Ending :=
  match e with
  | .help | .version => { exit := 0, output := some e.message }
  | _ => { exit := 2, error := some e.message }

/-- The end after a failure. -/
def Ending.failed (message : String) : Ending := { exit := 1, error := some ("Error: " ++ message) }

/-- What is found at a path by a look at the disk. -/
def fileOf : Except Storage.DiskError Storage.Node → ConfigFile
  | .ok (.file content) => .content content
  | .ok .directory => .unreadable Storage.DiskError.isDirectory.message
  | .error .notFound => .missing
  | .error e => .unreadable e.message

/-- A session that is ready to begin. Lines of the log below `least` are dropped. -/
structure Launch where
  session : SessionId
  variant : Variant
  destination : LogDestination
  least : Level
  downloads : String
  settings : Service.Settings
  startLogs : List Line
  settingsLogs : List Line

/-- The session that a command line and a configuration call for. What the command line says comes
before what the file says. -/
def launch (env : Configuration.Environment) (args : Arguments) (c : Configuration) : Launch where
  session := args.session
  variant := args.variant.getD c.variant
  destination := args.log.getD c.log
  least := if args.verbose then .debug else .info
  downloads := c.downloads
  settings := c.settings env
  startLogs :=
    [.of noSession .info ("analyst starting with config " ++ Text.quotedPath args.config)]
  settingsLogs := Configuration.passwordLogs env c.dataSource

/-- Reads the command line and the configuration. -/
def prepare (argv : List String) (read : String → ConfigFile) (env : Configuration.Environment) :
    Except Ending Launch :=
  match Arguments.parse argv with
  | .error e => .error (.ofArguments e)
  | .ok args =>
    match Configuration.load args.config (read args.config) with
    | .error e => .error (.failed e.message)
    | .ok c => .ok (launch env args c)

/-- The end when the download directory cannot be used. -/
def noDownloads (directory : String) (e : Storage.SaveError) : Ending :=
  .failed
    ("download directory " ++ Text.quotedPath directory ++ "\n\nCaused by:\n    " ++ e.message)

/-- Makes sure of the download directory. -/
def Launch.openDownloads (l : Launch) (draws : List Storage.Draw := [default]) :
    Storage.Script (Except Ending Unit) :=
  (Storage.ensureDirectory l.downloads draws).bind fun r =>
    .done (r.mapError (noDownloads l.downloads))

end AnalysisPanel.Program
