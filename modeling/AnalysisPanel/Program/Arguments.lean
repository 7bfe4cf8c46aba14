import AnalysisPanel.Config.Basic

/-! The command line: one session, options with values, and flags, in any order. An option keeps its
value pending until the next argument of its own begins, and only then is the value looked at; so an
argument that is not known is reported before a value that is not allowed. -/

namespace AnalysisPanel.Program

open Config

/-- What the command line asks for. -/
structure Arguments where
  session : SessionId
  config : String := "./analyst.ron"
  variant : Option Variant := none
  log : Option LogDestination := none
  verbose : Bool := false
  deriving DecidableEq, Inhabited

/-- Why the command line starts no session. The last two are asked for by the user. -/
inductive ArgumentError where
  | missingSession
  | unknown (argument : String)
  | invalidValue (name : String)
  | repeated (name : String)
  | unwantedValue (name : String)
  | help
  | version
  deriving DecidableEq, Inhabited

/-- Options with values. -/
inductive OptionName where
  | config
  | variant
  | log
  deriving DecidableEq, Inhabited

/-- Flags. -/
inductive FlagName where
  | verbose
  | help
  | version
  deriving DecidableEq, Inhabited

def OptionName.text : OptionName → String
  | .config => "--config"
  | .variant => "--variant"
  | .log => "--log"

def FlagName.text : FlagName → String
  | .verbose => "--verbose"
  | .help => "--help"
  | .version => "--version"

/-- The long names. -/
def longName? : String → Option (OptionName ⊕ FlagName)
  | "config" => some (.inl .config)
  | "variant" => some (.inl .variant)
  | "log" => some (.inl .log)
  | "verbose" => some (.inr .verbose)
  | "help" => some (.inr .help)
  | "version" => some (.inr .version)
  | _ => none

/-- The short names. -/
def shortName? : Char → Option FlagName
  | 'v' => some .verbose
  | 'h' => some .help
  | 'V' => some .version
  | _ => none

/-- The variants by name. -/
def variantNamed? : String → Option Variant
  | "metrics" => some .metricDiscovery
  | "analysis" => some .scopedAnalysis
  | _ => none

/-- The destinations of log lines by name. -/
def destinationNamed? : String → Option LogDestination
  | "terminal" => some .terminal
  | "file" => some .file
  | "both" => some .both
  | _ => none

/-- What has been read of a command line: settled parts, an option that is pending with its value if
that has come, and whether only positions follow. -/
structure Reading where
  session : Option SessionId := none
  config : Option String := none
  variant : Option Variant := none
  log : Option LogDestination := none
  verbose : Bool := false
  pending : Option (OptionName × Option String) := none
  positionsOnly : Bool := false
  deriving DecidableEq, Inhabited

namespace Reading

/-- Settles an option. A second value is refused before it is looked at. -/
def settle (r : Reading) (option : OptionName) (value : String) : Except ArgumentError Reading :=
  match option with
  | .config =>
    if r.config.isSome then .error (.repeated option.text)
    else if value = "" then .error (.invalidValue option.text)
    else .ok { r with config := some value }
  | .variant =>
    if r.variant.isSome then .error (.repeated option.text)
    else
      match variantNamed? value with
      | some v => .ok { r with variant := some v }
      | none => .error (.invalidValue option.text)
  | .log =>
    if r.log.isSome then .error (.repeated option.text)
    else
      match destinationNamed? value with
      | some d => .ok { r with log := some d }
      | none => .error (.invalidValue option.text)

/-- Settles the option that is pending. -/
def resolve (r : Reading) : Except ArgumentError Reading :=
  match r.pending with
  | none => .ok r
  | some (option, none) => .error (.invalidValue option.text)
  | some (option, some value) => { r with pending := none }.settle option value

/-- Takes a flag. -/
def flag (r : Reading) : FlagName → Except ArgumentError Reading
  | .verbose =>
    r.resolve.bind fun r =>
      if r.verbose then .error (.repeated FlagName.verbose.text)
      else .ok { r with verbose := true }
  | .help => r.resolve.bind fun _ => .error .help
  | .version => r.resolve.bind fun _ => .error .version

/-- Takes a long name with the value written to it, if there is one. -/
def long (r : Reading) (name : String) (value : Option String) : Except ArgumentError Reading :=
  match longName? name, value with
  | none, _ => .error (.unknown ("--" ++ name))
  | some (.inl option), some value => r.resolve.bind fun r => r.settle option value
  | some (.inl option), none =>
    r.resolve.bind fun r => .ok { r with pending := some (option, none) }
  | some (.inr flagName), some _ => .error (.unwantedValue flagName.text)
  | some (.inr flagName), none => r.flag flagName

/-- Takes short names that are written together. -/
def short (r : Reading) : List Char → Except ArgumentError Reading
  | [] => .ok r
  | c :: rest =>
    match shortName? c with
    | some flagName => (r.flag flagName).bind fun r => r.short rest
    | none => .error (.unknown (String.ofList ['-', c]))

/-- Takes a position. There is only one. -/
def position (r : Reading) (argument : String) : Except ArgumentError Reading :=
  match r.session with
  | some _ => .error (.unknown argument)
  | none => r.resolve.bind fun r => .ok { r with session := some argument }

/-- Takes an argument that is no name: the value that an option waits for, or a position. -/
def plain (r : Reading) (argument : String) : Except ArgumentError Reading :=
  match r.pending with
  | some (option, none) => .ok { r with pending := some (option, some argument) }
  | _ => r.position argument

/-- Takes an argument. -/
def take (r : Reading) (argument : String) : Except ArgumentError Reading :=
  if r.positionsOnly then r.position argument
  else
    match argument.toList with
    | ['-', '-'] => .ok { r with positionsOnly := true }
    | '-' :: '-' :: name =>
      let key := name.takeWhile (· != '=')
      let value := if key.length < name.length then some (name.drop (key.length + 1)) else none
      r.long (String.ofList key) (value.map String.ofList)
    | '-' :: c :: rest => r.short (c :: rest)
    | _ => r.plain argument

/-- Takes arguments one after the other. -/
def takeAll (r : Reading) : List String → Except ArgumentError Reading
  | [] => .ok r
  | argument :: rest => (r.take argument).bind fun r => r.takeAll rest

/-- What was asked for, once everything has been read. -/
def finish (r : Reading) : Except ArgumentError Arguments :=
  r.resolve.bind fun r =>
    match r.session with
    | none => .error .missingSession
    | some session =>
      let start : Arguments := { session }
      .ok
        { session, config := r.config.getD start.config, variant := r.variant, log := r.log
          verbose := r.verbose }

end Reading

/-- Reads a command line. -/
def Arguments.parse (argv : List String) : Except ArgumentError Arguments :=
  (Reading.takeAll {} argv).bind Reading.finish

end AnalysisPanel.Program
